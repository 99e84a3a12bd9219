import ComponentSpec.Assembly.Component
import ComponentSpec.Proofs.Reading
import Mathlib.Data.List.Count

/-!
# ComponentSpec.Proofs.Events

What is reported while a component is built.

* `Traced.Reports`: a computation reports events of some kinds only, whether it succeeds or fails.
* `count_repeats`: how often a name is among the repeats of a list.
* `StateMachine.events_build`: the transitions that are reported are those of the machine.
* `Component.BuildLog`: the events of a component, up to the one that ends it.
* `Component.events_build`, `Component.reports_build_of_error`: a component that is built, and one
  that is not.
-/

namespace ComponentSpec

open Yaml (Node Mapping)

/-! ## Computations -/

namespace Traced

variable {ε ε' α β : Type}

@[simp] theorem events_ok (a : α) : (ok a : Traced ε α).events = [] := rfl

@[simp] theorem events_lift (x : Except ε α) : (lift x).events = [] := rfl

@[simp] theorem events_report (e : LogEvent) : (report e : Traced ε Unit).events = [e] := rfl

@[simp] theorem events_mapError (f : ε → ε') (x : Traced ε α) :
    (x.mapError f).events = x.events := rfl

theorem events_bind_of_ok {x : Traced ε α} {f : α → Traced ε β} {a : α} (h : x.outcome = .ok a) :
    (x >>= f).events = x.events ++ (f a).events := by
  rw [bind_eq, andThen, h]

theorem events_bind_of_error {x : Traced ε α} {f : α → Traced ε β} {e : ε}
    (h : x.outcome = .error e) : (x >>= f).events = x.events := by
  rw [bind_eq, andThen, h]

/-- All events, whether or not the computation fails, pass a test. -/
def Reports (p : LogEvent → Bool) (x : Traced ε α) : Prop := ∀ e ∈ x.events, p e = true

variable {p : LogEvent → Bool}

theorem reports_of_silent {x : Traced ε α} (h : x.events = []) : x.Reports p := by
  intro e he
  rw [h] at he
  cases he

theorem Reports.bind {x : Traced ε α} {f : α → Traced ε β} (hx : x.Reports p)
    (hf : ∀ a, x.outcome = .ok a → (f a).Reports p) : (x >>= f).Reports p := by
  intro e he
  cases h : x.outcome with
  | error _ =>
    rw [events_bind_of_error h] at he
    exact hx e he
  | ok a =>
    rw [events_bind_of_ok h] at he
    rcases List.mem_append.1 he with he | he
    · exact hx e he
    · exact hf a h e he

/-- A check reports nothing. -/
theorem reports_lift_bind {x : Except ε α} {f : α → Traced ε β}
    (hf : ∀ a, x = .ok a → (f a).Reports p) : (lift x >>= f).Reports p :=
  Reports.bind (reports_of_silent rfl) hf

/-- A check that succeeds leaves what comes after it. -/
theorem lift_bind_eq_ok {x : Except ε α} {f : α → Traced ε β} {b : β}
    (h : (lift x >>= f).outcome = .ok b) :
    ∃ a, x = .ok a ∧ lift x >>= f = f a ∧ (f a).outcome = .ok b := by
  cases x with
  | error e => cases h
  | ok a => exact ⟨a, rfl, rfl, h⟩

theorem reports_report (e : LogEvent) (he : p e = true) :
    (report e : Traced ε Unit).Reports p := by
  intro e' he'
  rwa [List.mem_singleton.1 he']

end Traced

namespace LogEvent

/-- The edge of a transition that is reported. -/
def edge? : LogEvent → Option Edge
  | resolved state next event => some ⟨state, next, event⟩
  | _ => none

def isExpansion : LogEvent → Bool
  | expanded _ _ => true
  | resolved _ _ _ => true
  | _ => false

/-- The events of the parts of a component. -/
def isInner : LogEvent → Bool
  | ignoredRepeat _ _ => true
  | e => e.isExpansion

end LogEvent

/-! ## Names that are declared again -/

theorem count_repeatsAfter (seen names : List String) (name : String) :
    (repeatsAfter seen names).count name =
      if name ∈ seen then names.count name else names.count name - 1 := by
  induction names generalizing seen with
  | nil => simp [repeatsAfter]
  | cons n ns ih =>
    by_cases hn : n ∈ seen
    · rw [repeatsAfter, if_pos hn, List.count_cons, List.count_cons, ih]
      by_cases he : n = name
      · subst he
        simp [hn]
      · simp [he]
    · rw [repeatsAfter, if_neg hn, List.count_cons, ih]
      by_cases he : n = name
      · subst he
        simp [hn]
      · simp [he, Ne.symm he]

/-- A name is repeated once less often than it is there. -/
theorem count_repeats (names : List String) (name : String) :
    (repeats names).count name = names.count name - 1 := by
  rw [repeats, count_repeatsAfter, if_neg List.not_mem_nil]

theorem events_declareNames (what : String) (names : List String) :
    (declareNames what names).events = (repeats names).map (LogEvent.ignoredRepeat what) :=
  List.append_nil _

/-- The warnings about a list of names: of its own sort, one for each repeat. -/
theorem count_ignoredRepeat (what what' name : String) (names : List String) :
    ((repeats names).map (LogEvent.ignoredRepeat what)).count (.ignoredRepeat what' name) =
      if what = what' then names.count name - 1 else 0 := by
  by_cases hw : what = what'
  · subst hw
    rw [if_pos rfl, List.count_map_of_injective _ _ fun a b h => by simpa using h, count_repeats]
  · rw [if_neg hw, List.count_eq_zero]
    simp [hw]

/-! ## State machines -/

namespace Expansion

theorem edges_of_add? {x y : Expansion} {t : Transition} (h : x.add? t = some y) :
    y.transitions.map Transition.edge = x.transitions.map Transition.edge ++ [t.edge] := by
  unfold add? at h
  split at h
  · cases h
  · cases h
    simp

end Expansion

namespace StateMachine

variable {meaning : PatternMeaning} {states events : NameSet}

theorem reports_resolveFrom (d : TransitionDecl) (x : Expansion) (names : List String) :
    (resolveFrom d x names).Reports LogEvent.isExpansion := by
  induction names generalizing x with
  | nil => exact Traced.reports_of_silent rfl
  | cons s ss ih =>
    rw [resolveFrom]
    split
    · exact Traced.reports_of_silent rfl
    · exact (Traced.reports_report _ rfl).bind fun _ _ => ih _

/-- The transitions that are reported are those that are added. -/
theorem edges_resolveFrom {d : TransitionDecl} {x y : Expansion} {names : List String}
    (h : (resolveFrom d x names).outcome = .ok y) :
    y.transitions.map Transition.edge = x.transitions.map Transition.edge ++
      (resolveFrom d x names).events.filterMap LogEvent.edge? := by
  induction names generalizing x with
  | nil =>
    cases h
    simp [resolveFrom, Traced.ok]
  | cons s ss ih =>
    rw [resolveFrom] at h ⊢
    cases hadd : x.add? ⟨s, d.next, d.event, d.action⟩ with
    | none =>
      rw [hadd] at h
      cases h
    | some z =>
      rw [hadd] at h
      have rest := ih (x := z) h
      rw [rest, Expansion.edges_of_add? hadd, List.append_assoc]
      rfl

/-- A declaration that can be resolved goes through its states, after a report on the pattern at
most. -/
theorem resolve_of_ok {x y : Expansion} {d : TransitionDecl}
    (h : (resolve meaning states events x d).outcome = .ok y) :
    ∃ names, (resolve meaning states events x d) = resolveFrom d x names ∨
      ∃ pattern matching, (resolve meaning states events x d) =
        Traced.report (.expanded pattern matching) >>= fun _ => resolveFrom d x names := by
  unfold resolve at h ⊢
  cases hp : meaning d.pattern with
  | none =>
    rw [hp] at h
    cases h
  | some isMatch =>
    simp only [hp] at h ⊢
    refine ⟨states.names.filter isMatch, ?_⟩
    by_cases hm : states.names.filter isMatch = []
    · simp only [hm, if_true] at h
      cases h
    · simp only [hm, if_false] at h ⊢
      split at h
      · cases h
      · rename_i hn
        simp only [hn]
        split at h
        · cases h
        · rename_i he
          simp only [he]
          by_cases plain : states.names.filter isMatch = [d.pattern]
          · exact .inl (by simp [plain])
          · exact .inr ⟨d.pattern, (states.names.filter isMatch).length, by simp [plain]⟩

theorem reports_resolve (x : Expansion) (d : TransitionDecl) :
    (resolve meaning states events x d).Reports LogEvent.isExpansion := by
  unfold resolve
  split
  · exact Traced.reports_of_silent rfl
  · dsimp only
    split
    · exact Traced.reports_of_silent rfl
    · split
      · exact Traced.reports_of_silent rfl
      · split
        · exact Traced.reports_of_silent rfl
        · split
          · exact (Traced.reports_report _ rfl).bind fun _ _ => reports_resolveFrom d x _
          · exact reports_resolveFrom d x _

theorem edges_resolve {x y : Expansion} {d : TransitionDecl}
    (h : (resolve meaning states events x d).outcome = .ok y) :
    y.transitions.map Transition.edge = x.transitions.map Transition.edge ++
      (resolve meaning states events x d).events.filterMap LogEvent.edge? := by
  obtain ⟨names, e | ⟨pattern, matching, e⟩⟩ := resolve_of_ok h
  · rw [e] at h ⊢
    exact edges_resolveFrom h
  · rw [e] at h ⊢
    have run : (resolveFrom d x names).outcome = .ok y := h
    exact edges_resolveFrom run

theorem reports_resolveAll (x : Expansion) (ds : List TransitionDecl) :
    (resolveAll meaning states events x ds).Reports LogEvent.isExpansion := by
  induction ds generalizing x with
  | nil => exact Traced.reports_of_silent rfl
  | cons d ds ih =>
    rw [resolveAll]
    exact (reports_resolve x d).bind fun y _ => ih y

theorem edges_resolveAll {x y : Expansion} {ds : List TransitionDecl}
    (h : (resolveAll meaning states events x ds).outcome = .ok y) :
    y.transitions.map Transition.edge = x.transitions.map Transition.edge ++
      (resolveAll meaning states events x ds).events.filterMap LogEvent.edge? := by
  induction ds generalizing x with
  | nil =>
    cases h
    simp [resolveAll, Traced.ok]
  | cons d ds ih =>
    rw [resolveAll] at h ⊢
    obtain ⟨z, hz, h⟩ := outcome_bind_eq_ok_iff.1 h
    rw [Traced.events_bind_of_ok hz, List.filterMap_append, ih h, edges_resolve hz,
      List.append_assoc]

theorem outcome_declareNames (what : String) (names : List String) :
    (declareNames what names).outcome = .ok (NameSet.ofList names) := rfl

/-- The events of a machine: the warnings about its states, and then what its transitions report. -/
theorem events_build (meaning : PatternMeaning) (names : List String) (events : NameSet)
    (start : String) (ds : List TransitionDecl) :
    ∃ rest : Traced Fault StateMachine,
      (build meaning names events start ds).events =
        (repeats names).map (LogEvent.ignoredRepeat "state") ++ rest.events ∧
      (build meaning names events start ds).outcome = rest.outcome ∧
      rest.Reports LogEvent.isExpansion ∧
      ∀ m, rest.outcome = .ok m →
        rest.events.filterMap LogEvent.edge? = m.transitions.map Transition.edge := by
  refine ⟨if !(NameSet.ofList names).contains start then .fail (.unknownStart start)
    else resolveAll meaning (NameSet.ofList names) events .empty ds >>= fun x =>
      return ⟨NameSet.ofList names, start, x.transitions⟩, ?_, rfl, ?_, ?_⟩
  · rw [← events_declareNames]
    exact Traced.events_bind_of_ok (outcome_declareNames "state" names)
  · split
    · exact Traced.reports_of_silent rfl
    · exact (reports_resolveAll _ _).bind fun _ _ => Traced.reports_of_silent rfl
  · intro m h
    split at h
    · cases h
    · rename_i known
      obtain ⟨x, hx, h⟩ := outcome_bind_eq_ok_iff.1 h
      cases h
      rw [if_neg known, Traced.events_bind_of_ok hx, edges_resolveAll hx]
      simp [Expansion.empty, Traced.ok]

end StateMachine

theorem LogEvent.isInner_of_isExpansion {e : LogEvent} (h : e.isExpansion = true) :
    e.isInner = true := by
  cases e with
  | ignoredRepeat _ _ => rfl
  | _ => exact h

/-- Warnings tell nothing of transitions. -/
theorem filterMap_edge?_ignoredRepeat (what : String) (names : List String) :
    (names.map (LogEvent.ignoredRepeat what)).filterMap LogEvent.edge? = [] :=
  List.filterMap_eq_nil_iff.2 fun e he => by
    obtain ⟨n, -, rfl⟩ := List.mem_map.1 he
    rfl

theorem isInner_of_mem_ignoredRepeat {what : String} {names : List String} {e : LogEvent}
    (he : e ∈ names.map (LogEvent.ignoredRepeat what)) : e.isInner = true := by
  obtain ⟨n, -, rfl⟩ := List.mem_map.1 he
  rfl

theorem StateMachine.reports_build (meaning : PatternMeaning) (names : List String)
    (events : NameSet) (start : String) (ds : List TransitionDecl) :
    (build meaning names events start ds).Reports LogEvent.isInner := by
  obtain ⟨rest, log, -, steps, -⟩ := events_build meaning names events start ds
  intro e he
  rw [log] at he
  rcases List.mem_append.1 he with he | he
  · exact isInner_of_mem_ignoredRepeat he
  · exact LogEvent.isInner_of_isExpansion (steps e he)

/-! ## Components -/

/-- The events that a definition lists. -/
def writtenEvents (fields : Mapping) : List String :=
  ((fields.field? "events").map listedNames).getD []

/-- The states that the state machine of a definition lists. -/
def writtenStates (fields : Mapping) : List String :=
  let body := (fields.field? "statemachine").bind Node.asMapping?
  ((body.bind fun m => m.field? "states").map listedNames).getD []

namespace Component

/-- What is reported of the parts of a component that is built: its transitions, and a warning for
each repeat of an event or of a state. -/
structure BuildLog (fields : Mapping) (c : Component) (log : List LogEvent) : Prop where
  inner : ∀ e ∈ log, e.isInner = true
  resolved : log.filterMap LogEvent.edge? = c.machine.transitions.map Transition.edge
  events : ∀ name, log.count (.ignoredRepeat "event" name) = (writtenEvents fields).count name - 1
  states : ∀ name, log.count (.ignoredRepeat "state" name) = (writtenStates fields).count name - 1

theorem BuildLog.of_parts {fields : Mapping} {c : Component} {rest : List LogEvent}
    (steps : ∀ e ∈ rest, e.isExpansion = true)
    (edges : rest.filterMap LogEvent.edge? = c.machine.transitions.map Transition.edge) :
    BuildLog fields c ((repeats (writtenEvents fields)).map (LogEvent.ignoredRepeat "event") ++
      ((repeats (writtenStates fields)).map (LogEvent.ignoredRepeat "state") ++ rest)) := by
  have none : ∀ what name, rest.count (.ignoredRepeat what name) = 0 := fun what name =>
    List.count_eq_zero.2 fun h => by cases steps _ h
  refine ⟨fun e he => ?_, ?_, fun name => ?_, fun name => ?_⟩
  · rcases List.mem_append.1 he with he | he
    · exact isInner_of_mem_ignoredRepeat he
    · rcases List.mem_append.1 he with he | he
      · exact isInner_of_mem_ignoredRepeat he
      · exact LogEvent.isInner_of_isExpansion (steps e he)
  · rw [List.filterMap_append, List.filterMap_append, filterMap_edge?_ignoredRepeat,
      filterMap_edge?_ignoredRepeat, edges]
    rfl
  · simp [count_ignoredRepeat, none]
  · simp [count_ignoredRepeat, none]

theorem events_readEvents {fields : Mapping} {s : NameSet}
    (h : (readEvents fields).outcome = .ok s) :
    (readEvents fields).events =
      (repeats (writtenEvents fields)).map (LogEvent.ignoredRepeat "event") := by
  unfold readEvents writtenEvents at *
  cases hv : fields.field? "events" with
  | none => rfl
  | some v =>
    rw [hv] at h
    obtain ⟨names, hn, e, -⟩ := Traced.lift_bind_eq_ok h
    simp only [Option.map_some, Option.getD_some, listedNames_of_asNames hn]
    rw [e, events_declareNames]

theorem reports_readEvents (fields : Mapping) : (readEvents fields).Reports LogEvent.isInner := by
  unfold readEvents
  split
  · exact Traced.reports_of_silent rfl
  · refine Traced.reports_lift_bind fun names _ e he => ?_
    rw [events_declareNames] at he
    exact isInner_of_mem_ignoredRepeat he

theorem readStateMachine_of_ok {events : NameSet} {fields : Mapping} {m : StateMachine}
    (h : (readStateMachine events fields).outcome = .ok m) :
    ∃ start transitions, readStateMachine events fields =
      StateMachine.build statePattern? (writtenStates fields) events start transitions := by
  unfold readStateMachine writtenStates at *
  obtain ⟨body, hbody, e, h⟩ := Traced.lift_bind_eq_ok h
  rw [e]
  obtain ⟨m, hm, e, h⟩ := Traced.lift_bind_eq_ok h
  rw [e]
  obtain ⟨states, hstates, e, h⟩ := Traced.lift_bind_eq_ok h
  rw [e]
  obtain ⟨names, hnames, e, h⟩ := Traced.lift_bind_eq_ok h
  rw [e]
  obtain ⟨start, -, e, h⟩ := Traced.lift_bind_eq_ok h
  rw [e]
  obtain ⟨start, -, e, h⟩ := Traced.lift_bind_eq_ok h
  rw [e]
  obtain ⟨transitions, -, e, -⟩ := Traced.lift_bind_eq_ok h
  rw [e]
  refine ⟨start, transitions, ?_⟩
  simp [requiredField_ok_iff.1 hbody, asMapping_ok_iff.1 hm, requiredField_ok_iff.1 hstates,
    listedNames_of_asNames hnames]

theorem reports_readStateMachine (events : NameSet) (fields : Mapping) :
    (readStateMachine events fields).Reports LogEvent.isInner := by
  unfold readStateMachine
  refine Traced.reports_lift_bind fun _ _ => Traced.reports_lift_bind fun _ _ => ?_
  refine Traced.reports_lift_bind fun _ _ => Traced.reports_lift_bind fun states _ => ?_
  refine Traced.reports_lift_bind fun _ _ => Traced.reports_lift_bind fun start _ => ?_
  exact Traced.reports_lift_bind fun ds _ => StateMachine.reports_build _ states events start ds

/-- A component that is built reports its parts first, and itself at the end. -/
theorem events_build {name : String} {fields : Mapping} {c : Component}
    (h : (Component.build name fields).outcome = .ok c) :
    ∃ log, (Component.build name fields).events = log ++ [.built name c.extent] ∧
      BuildLog fields c log := by
  unfold Component.build at *
  obtain ⟨interface, -, e, h⟩ := Traced.lift_bind_eq_ok h
  rw [e]
  obtain ⟨subscriptions, -, e, h⟩ := Traced.lift_bind_eq_ok h
  rw [e]
  obtain ⟨events, hevents, h⟩ := outcome_bind_eq_ok_iff.1 h
  rw [Traced.events_bind_of_ok hevents]
  obtain ⟨machine, hmachine, h⟩ := outcome_bind_eq_ok_iff.1 h
  rw [Traced.events_bind_of_ok hmachine]
  cases h
  obtain ⟨start, ds, e⟩ := readStateMachine_of_ok hmachine
  obtain ⟨rest, log, same, steps, edges⟩ :=
    StateMachine.events_build statePattern? (writtenStates fields) events start ds
  rw [e, same] at hmachine
  refine ⟨_, ?_, .of_parts steps (edges machine hmachine)⟩
  rw [events_readEvents hevents, e, log, List.append_assoc, List.append_assoc, List.append_assoc]
  rfl

/-- A component that is not built reports no more than its parts. -/
theorem reports_build_of_error {name : String} {fields : Mapping} {f : Fault}
    (h : (Component.build name fields).outcome = .error f) :
    (Component.build name fields).Reports LogEvent.isInner := by
  unfold Component.build
  refine Traced.reports_lift_bind fun interface hi => Traced.reports_lift_bind fun subs hs => ?_
  refine (reports_readEvents fields).bind fun events he => ?_
  refine (reports_readStateMachine events fields).bind fun machine hm => ?_
  -- with all of its parts read, nothing is left to fail
  have built : (Component.build name fields).outcome = .ok ⟨interface, subs, events, machine⟩ :=
    outcome_bind_eq_ok_iff.2 ⟨interface, hi, outcome_bind_eq_ok_iff.2 ⟨subs, hs,
      outcome_bind_eq_ok_iff.2 ⟨events, he, outcome_bind_eq_ok_iff.2 ⟨machine, hm, rfl⟩⟩⟩⟩
  rw [built] at h
  cases h

end Component

end ComponentSpec
