import ComponentSpec.Assembly.StateMachine
import ComponentSpec.Proofs.Outcome

/-!
# ComponentSpec.Proofs.Expansion

What a state machine is made of, said without the loops that build it. A declaration stands for one
transition from each state that its pattern matches (`expand`), and a machine has the transitions of
all its declarations, in order.

* `Admits`, `Violates`: whether a declaration can follow the transitions `produced` before it, and
  what is wrong first if it cannot.
* `resolve_admits`, `resolve_violates`: one declaration.
* `resolveAll_ok_iff`, `resolveAll_error_iff`: all of them. The invariant is `Expansion.Tied`: the
  set of edges holds the edges of the transitions and no others.
* `build_outcome`: the machine, or the fault of the first declaration at fault.
-/

namespace ComponentSpec

/-- The transition of a declaration from one state. -/
def TransitionDecl.leaving (d : TransitionDecl) (state : String) : Transition :=
  ⟨state, d.next, d.event, d.action⟩

theorem TransitionDecl.edge_leaving_inj {d : TransitionDecl} {s s' : String}
    (h : (d.leaving s).edge = (d.leaving s').edge) : s = s' :=
  congrArg Edge.state h

namespace Expansion

/-- The edges are those of the transitions. -/
def Tied (x : Expansion) : Prop := ∀ e, e ∈ x.edges ↔ e ∈ x.transitions.map Transition.edge

/-- Appends transitions, whatever their edges. -/
def extend (x : Expansion) (ts : List Transition) : Expansion :=
  ⟨x.transitions ++ ts, (ts.map Transition.edge).reverse ++ x.edges⟩

@[simp] theorem extend_nil (x : Expansion) : x.extend [] = x := by simp [extend]

@[simp] theorem extend_extend (x : Expansion) (ts us : List Transition) :
    (x.extend ts).extend us = x.extend (ts ++ us) := by
  simp [extend]

theorem tied_empty : empty.Tied := by simp [Tied, empty]

theorem Tied.extend {x : Expansion} (h : x.Tied) (ts : List Transition) : (x.extend ts).Tied := by
  intro e
  simp only [Expansion.extend, List.mem_append, List.mem_reverse, List.map_append, h e]
  exact Or.comm

theorem add?_of_notMem {x : Expansion} {t : Transition} (h : t.edge ∉ x.edges) :
    x.add? t = some (x.extend [t]) := by
  simp [add?, h, Expansion.extend]

theorem add?_of_mem {x : Expansion} {t : Transition} (h : t.edge ∈ x.edges) :
    x.add? t = none := by
  simp [add?, h]

end Expansion

namespace StateMachine

open Expansion (Tied)

/-- The states that a pattern stands for. A text that is no pattern stands for none. -/
def matched (meaning : PatternMeaning) (states : List String) (pattern : String) : List String :=
  match meaning pattern with
  | none => []
  | some isMatch => states.filter isMatch

/-- The transitions that a declaration stands for, in the order of the states. -/
def expand (meaning : PatternMeaning) (states : List String) (d : TransitionDecl) :
    List Transition :=
  (matched meaning states d.pattern).map d.leaving

/-- What a declaration must satisfy by itself. -/
structure Sound (meaning : PatternMeaning) (states events : List String) (d : TransitionDecl) :
    Prop where
  pattern : (meaning d.pattern).isSome = true
  matching : matched meaning states d.pattern ≠ []
  next : d.next ∈ states
  event : d.event ∈ events

/-- A declaration that can follow the transitions `produced` before it. -/
structure Admits (meaning : PatternMeaning) (states events : List String)
    (produced : List Transition) (d : TransitionDecl) : Prop
    extends Sound meaning states events d where
  fresh : ∀ s ∈ matched meaning states d.pattern,
    (d.leaving s).edge ∉ produced.map Transition.edge

/-- What is wrong first with a declaration after the transitions `produced` before it. Its own
transitions leave different states, so that it cannot repeat one of them. -/
inductive Violates (meaning : PatternMeaning) (states events : List String)
    (produced : List Transition) (d : TransitionDecl) : Fault → Prop where
  | badPattern : meaning d.pattern = none →
      Violates meaning states events produced d (.badPattern d.pattern)
  | noMatchingState : (meaning d.pattern).isSome = true → matched meaning states d.pattern = [] →
      Violates meaning states events produced d (.noMatchingState d.pattern)
  | unknownNext : matched meaning states d.pattern ≠ [] → d.next ∉ states →
      Violates meaning states events produced d (.unknownNext d.next)
  | unknownEvent : matched meaning states d.pattern ≠ [] → d.next ∈ states → d.event ∉ events →
      Violates meaning states events produced d (.unknownEvent d.event)
  | duplicateTransition {before after : List String} {s : String} :
      d.next ∈ states → d.event ∈ events →
      matched meaning states d.pattern = before ++ s :: after →
      (∀ s' ∈ before, (d.leaving s').edge ∉ produced.map Transition.edge) →
      (d.leaving s).edge ∈ produced.map Transition.edge →
      Violates meaning states events produced d (.duplicateTransition s d.next d.event)

variable {meaning : PatternMeaning} {states events : NameSet}

theorem exists_meaning {names : List String} {pattern : String}
    (h : matched meaning names pattern ≠ []) :
    ∃ isMatch, meaning pattern = some isMatch ∧
      matched meaning names pattern = names.filter isMatch := by
  cases hp : meaning pattern with
  | none => simp [matched, hp] at h
  | some isMatch => exact ⟨isMatch, rfl, by simp [matched, hp]⟩

theorem nodup_matched {names : List String} (h : names.Nodup) (pattern : String) :
    (matched meaning names pattern).Nodup := by
  unfold matched
  split
  · exact List.nodup_nil
  · exact h.filter _

/-! ## One declaration -/

/-- A transition from one state does not stand in the way of those from others. -/
theorem fresh_extend {d : TransitionDecl} {x : Expansion} {s : String} {ss : List String}
    (hs : s ∉ ss) (fresh : ∀ s' ∈ ss, (d.leaving s').edge ∉ x.edges) :
    ∀ s' ∈ ss, (d.leaving s').edge ∉ (x.extend [d.leaving s]).edges := by
  intro s' hs' hmem
  simp only [Expansion.extend, List.map_cons, List.map_nil, List.reverse_cons, List.reverse_nil,
    List.nil_append, List.mem_append, List.mem_singleton] at hmem
  rcases hmem with he | he
  · exact hs (TransitionDecl.edge_leaving_inj he ▸ hs')
  · exact fresh s' hs' he

/-- From new states, a declaration gives all its transitions. -/
theorem resolveFrom_fresh (d : TransitionDecl) {names : List String} (nodup : names.Nodup)
    {x : Expansion} (fresh : ∀ s ∈ names, (d.leaving s).edge ∉ x.edges) :
    (resolveFrom d x names).outcome = .ok (x.extend (names.map d.leaving)) := by
  induction names generalizing x with
  | nil => simp [resolveFrom]
  | cons s ss ih =>
    obtain ⟨hs, hss⟩ := List.nodup_cons.1 nodup
    have add : x.add? ⟨s, d.next, d.event, d.action⟩ = some (x.extend [d.leaving s]) :=
      Expansion.add?_of_notMem (fresh s List.mem_cons_self)
    have fresh' := fresh_extend hs fun s' hs' => fresh s' (List.mem_cons_of_mem _ hs')
    rw [resolveFrom, add]
    simp only [Traced.bind_eq, Traced.outcome_report_andThen]
    rw [ih hss fresh']
    simp

/-- The first state whose edge exists already ends a declaration. -/
theorem resolveFrom_repeated (d : TransitionDecl) {before after : List String} {s : String}
    (nodup : (before ++ s :: after).Nodup) {x : Expansion}
    (fresh : ∀ s' ∈ before, (d.leaving s').edge ∉ x.edges)
    (repeated : (d.leaving s).edge ∈ x.edges) :
    (resolveFrom d x (before ++ s :: after)).outcome =
      .error (.duplicateTransition s d.next d.event) := by
  induction before generalizing x with
  | nil =>
    have add : x.add? ⟨s, d.next, d.event, d.action⟩ = none := Expansion.add?_of_mem repeated
    rw [List.nil_append, resolveFrom, add]
    rfl
  | cons b bs ih =>
    obtain ⟨hb, hbs⟩ := List.nodup_cons.1 nodup
    have add : x.add? ⟨b, d.next, d.event, d.action⟩ = some (x.extend [d.leaving b]) :=
      Expansion.add?_of_notMem (fresh b List.mem_cons_self)
    have fresh' := fresh_extend (fun h => hb (List.mem_append_left _ h)) fun s' hs' =>
      fresh s' (List.mem_cons_of_mem _ hs')
    have repeated' : (d.leaving s).edge ∈ (x.extend [d.leaving b]).edges :=
      List.mem_append_right _ repeated
    rw [List.cons_append, resolveFrom, add]
    simp only [Traced.bind_eq, Traced.outcome_report_andThen]
    exact ih hbs fresh' repeated'

theorem resolve_admits {x : Expansion} (tied : x.Tied) {d : TransitionDecl}
    (h : Admits meaning states.names events.names x.transitions d) :
    (resolve meaning states events x d).outcome =
      .ok (x.extend (expand meaning states.names d)) := by
  obtain ⟨isMatch, hp, hm⟩ := exists_meaning h.matching
  have ne : states.names.filter isMatch ≠ [] := hm ▸ h.matching
  have fresh : ∀ s ∈ states.names.filter isMatch, (d.leaving s).edge ∉ x.edges := by
    intro s hs he
    exact h.fresh s (hm ▸ hs) ((tied _).1 he)
  have all := resolveFrom_fresh d (states.nodup.filter isMatch) fresh
  have next : states.contains d.next = true := NameSet.contains_iff.2 h.next
  have event : events.contains d.event = true := NameSet.contains_iff.2 h.event
  simp only [resolve, hp, ne, next, event, expand, hm, if_false, Bool.not_true, Bool.false_eq_true]
  by_cases plain : states.names.filter isMatch = [d.pattern]
  · simpa [plain] using all
  · simpa [plain] using all

theorem resolve_violates {x : Expansion} (tied : x.Tied) {d : TransitionDecl} {f : Fault}
    (h : Violates meaning states.names events.names x.transitions d f) :
    (resolve meaning states events x d).outcome = .error f := by
  cases h with
  | badPattern hp => simp [resolve, hp]
  | noMatchingState hp hm =>
    obtain ⟨isMatch, hp⟩ := Option.isSome_iff_exists.1 hp
    simp only [matched, hp] at hm
    simp [resolve, hp, hm]
  | unknownNext hm hn =>
    obtain ⟨isMatch, hp, hm'⟩ := exists_meaning hm
    rw [hm'] at hm
    simp [resolve, hp, hm, hn]
  | unknownEvent hm hn he =>
    obtain ⟨isMatch, hp, hm'⟩ := exists_meaning hm
    rw [hm'] at hm
    simp [resolve, hp, hm, hn, he]
  | @duplicateTransition before after s hn he hm fresh repeated =>
    have ne : matched meaning states.names d.pattern ≠ [] := by simp [hm]
    obtain ⟨isMatch, hp, hm'⟩ := exists_meaning ne
    rw [hm'] at hm ne
    have nodup : (before ++ s :: after).Nodup := hm ▸ states.nodup.filter isMatch
    have last := resolveFrom_repeated d nodup
      (fun s' hs' he => fresh s' hs' ((tied _).1 he)) ((tied _).2 repeated)
    have next : states.contains d.next = true := NameSet.contains_iff.2 hn
    have event : events.contains d.event = true := NameSet.contains_iff.2 he
    simp only [resolve, hp, ne, next, event, if_false, Bool.not_true, Bool.false_eq_true]
    rw [hm]
    by_cases plain : before ++ s :: after = [d.pattern]
    · simpa [plain] using last
    · simpa [plain] using last

theorem admits_or_violates (meaning : PatternMeaning) (names events : List String)
    (produced : List Transition) (d : TransitionDecl) :
    Admits meaning names events produced d ∨ ∃ f, Violates meaning names events produced d f := by
  by_cases hp : (meaning d.pattern).isSome = true
  case neg => exact .inr ⟨_, .badPattern (by simpa using hp)⟩
  by_cases hm : matched meaning names d.pattern = []
  case pos => exact .inr ⟨_, .noMatchingState hp hm⟩
  by_cases hn : d.next ∈ names
  case neg => exact .inr ⟨_, .unknownNext hm hn⟩
  by_cases he : d.event ∈ events
  case neg => exact .inr ⟨_, .unknownEvent hm hn he⟩
  cases hf : (matched meaning names d.pattern).find? fun s =>
      decide ((d.leaving s).edge ∈ produced.map Transition.edge) with
  | none =>
    refine .inl ⟨⟨hp, hm, hn, he⟩, fun s hs => ?_⟩
    simpa using List.find?_eq_none.1 hf s hs
  | some s =>
    obtain ⟨repeated, before, after, e, fresh⟩ := List.find?_eq_some_iff_append.1 hf
    refine .inr ⟨_, .duplicateTransition hn he e (fun s' hs' => ?_) (by simpa using repeated)⟩
    simpa using fresh s' hs'

theorem resolve_ok_iff {x y : Expansion} (tied : x.Tied) {d : TransitionDecl} :
    (resolve meaning states events x d).outcome = .ok y ↔
      Admits meaning states.names events.names x.transitions d ∧
        y = x.extend (expand meaning states.names d) := by
  constructor
  · intro h
    rcases admits_or_violates meaning states.names events.names x.transitions d
      with admits | ⟨f, violates⟩
    · rw [resolve_admits tied admits] at h
      cases h
      exact ⟨admits, rfl⟩
    · rw [resolve_violates tied violates] at h
      cases h
  · rintro ⟨admits, rfl⟩
    exact resolve_admits tied admits

theorem resolve_error_iff {x : Expansion} (tied : x.Tied) {d : TransitionDecl} {f : Fault} :
    (resolve meaning states events x d).outcome = .error f ↔
      Violates meaning states.names events.names x.transitions d f := by
  constructor
  · intro h
    rcases admits_or_violates meaning states.names events.names x.transitions d
      with admits | ⟨f', violates⟩
    · rw [resolve_admits tied admits] at h
      cases h
    · rw [resolve_violates tied violates] at h
      cases h
      exact violates
  · exact resolve_violates tied

theorem admits_iff_not_violates {produced : List Transition} {d : TransitionDecl} :
    Admits meaning states.names events.names produced d ↔
      ∀ f, ¬ Violates meaning states.names events.names produced d f := by
  -- an expansion of these very transitions
  let x := Expansion.empty.extend produced
  have tied : x.Tied := Expansion.tied_empty.extend produced
  have hx : x.transitions = produced := rfl
  constructor
  · intro admits f violates
    rw [← hx] at admits violates
    have h := resolve_admits tied admits
    rw [resolve_violates tied violates] at h
    cases h
  · intro none
    rcases admits_or_violates meaning states.names events.names produced d
      with admits | ⟨f, violates⟩
    · exact admits
    · exact absurd violates (none f)

/-! ## All declarations -/

/-- Each declaration can follow those before it. -/
def AdmitsAll (meaning : PatternMeaning) (states events : List String)
    (produced : List Transition) : List TransitionDecl → Prop
  | [] => True
  | d :: ds => Admits meaning states events produced d ∧
      AdmitsAll meaning states events (produced ++ expand meaning states d) ds

theorem outcome_resolveAll (x : Expansion) (ds : List TransitionDecl) :
    (resolveAll meaning states events x ds).outcome =
      ds.foldlM (fun x d => (resolve meaning states events x d).outcome) x := by
  induction ds generalizing x with
  | nil => rfl
  | cons d ds ih =>
    rw [resolveAll, Traced.bind_eq, Traced.outcome_andThen, List.foldlM_cons]
    simp only [ih]

theorem resolveAll_ok_iff {x y : Expansion} (tied : x.Tied) {ds : List TransitionDecl} :
    (resolveAll meaning states events x ds).outcome = .ok y ↔
      AdmitsAll meaning states.names events.names x.transitions ds ∧
        y = x.extend (ds.flatMap (expand meaning states.names)) := by
  induction ds generalizing x with
  | nil =>
    simp only [resolveAll, Traced.outcome_ok, AdmitsAll, List.flatMap_nil, Expansion.extend_nil,
      true_and, Except.ok.injEq]
    exact eq_comm
  | cons d ds ih =>
    rw [resolveAll, Traced.bind_eq, Traced.outcome_andThen, bind_eq_ok_iff]
    simp only [resolve_ok_iff tied, AdmitsAll, List.flatMap_cons]
    constructor
    · rintro ⟨_, ⟨admits, rfl⟩, h⟩
      obtain ⟨all, rfl⟩ := (ih (tied.extend _)).1 h
      exact ⟨⟨admits, all⟩, Expansion.extend_extend ..⟩
    · rintro ⟨⟨admits, all⟩, rfl⟩
      refine ⟨_, ⟨admits, rfl⟩, (ih (tied.extend _)).2 ⟨all, ?_⟩⟩
      exact (Expansion.extend_extend ..).symm

theorem resolveAll_error_iff {x : Expansion} (tied : x.Tied) {ds : List TransitionDecl}
    {f : Fault} :
    (resolveAll meaning states events x ds).outcome = .error f ↔
      ∃ before d after, ds = before ++ d :: after ∧
        AdmitsAll meaning states.names events.names x.transitions before ∧
        Violates meaning states.names events.names
          (x.transitions ++ before.flatMap (expand meaning states.names)) d f := by
  rw [outcome_resolveAll, foldlM_eq_error_iff]
  constructor
  · rintro ⟨before, d, after, y, rfl, hy, hd⟩
    rw [← outcome_resolveAll, resolveAll_ok_iff tied] at hy
    obtain ⟨all, rfl⟩ := hy
    exact ⟨before, d, after, rfl, all, (resolve_error_iff (tied.extend _)).1 hd⟩
  · rintro ⟨before, d, after, rfl, all, violates⟩
    refine ⟨before, d, after, _, rfl, ?_, (resolve_error_iff (tied.extend _)).2 violates⟩
    rw [← outcome_resolveAll]
    exact (resolveAll_ok_iff tied).2 ⟨all, rfl⟩

theorem admitsAll_iff_none_violates {produced : List Transition} {ds : List TransitionDecl} :
    AdmitsAll meaning states.names events.names produced ds ↔
      ∀ before d after, ds = before ++ d :: after → ∀ f,
        ¬ Violates meaning states.names events.names
          (produced ++ before.flatMap (expand meaning states.names)) d f := by
  induction ds generalizing produced with
  | nil => simp [AdmitsAll]
  | cons d ds ih =>
    rw [AdmitsAll, admits_iff_not_violates, ih]
    constructor
    · rintro ⟨head, tail⟩ before d' after e
      rcases List.cons_eq_append_iff.1 e with ⟨rfl, e'⟩ | ⟨before', rfl, e'⟩
      · cases e'
        simpa using head
      · simpa [List.append_assoc] using tail before' d' after e'
    · intro all
      refine ⟨by simpa using all [] d ds rfl, fun before d' after e => ?_⟩
      have h := all (d :: before) d' after (by rw [e]; rfl)
      simpa [List.append_assoc] using h

theorem nodup_edges_expand (meaning : PatternMeaning) {names : List String} (h : names.Nodup)
    (d : TransitionDecl) :
    ((expand meaning names d).map Transition.edge).Nodup := by
  rw [expand, List.map_map]
  refine List.pairwise_map.2 ((nodup_matched h d.pattern).imp fun ne he => ne ?_)
  exact TransitionDecl.edge_leaving_inj he

/-- No edge comes twice if none repeats an earlier one, and conversely: within a declaration there
are no repeats. -/
theorem admitsAll_iff_nodup {produced : List Transition} {ds : List TransitionDecl} :
    AdmitsAll meaning states.names events.names produced ds ↔
      (∀ d ∈ ds, Sound meaning states.names events.names d) ∧
      (∀ e ∈ (ds.flatMap (expand meaning states.names)).map Transition.edge,
        e ∉ produced.map Transition.edge) ∧
      ((ds.flatMap (expand meaning states.names)).map Transition.edge).Nodup := by
  induction ds generalizing produced with
  | nil => simp [AdmitsAll]
  | cons d ds ih =>
    simp only [AdmitsAll, ih, List.flatMap_cons, List.map_append, List.nodup_append]
    have own := nodup_edges_expand meaning states.nodup d
    have edges : (expand meaning states.names d).map Transition.edge =
        (matched meaning states.names d.pattern).map fun s => (d.leaving s).edge := by
      rw [expand, List.map_map]; rfl
    constructor
    · rintro ⟨head, sound, fresh, nodup⟩
      refine ⟨?_, ?_, own, nodup, ?_⟩
      · intro d' hd'
        rcases List.mem_cons.1 hd' with rfl | hd'
        · exact head.toSound
        · exact sound d' hd'
      · intro e he hp
        rcases List.mem_append.1 he with he | he
        · rw [edges] at he
          obtain ⟨s, hs, rfl⟩ := List.mem_map.1 he
          exact head.fresh s hs hp
        · exact fresh e he (List.mem_append_left _ hp)
      · rintro e he _ he' rfl
        exact fresh e he' (List.mem_append_right _ he)
    · rintro ⟨sound, fresh, _, nodup, apart⟩
      refine ⟨⟨sound d List.mem_cons_self, fun s hs => ?_⟩,
        fun d' hd' => sound d' (List.mem_cons_of_mem _ hd'), fun e he hp => ?_, nodup⟩
      · refine fresh _ (List.mem_append_left _ ?_)
        rw [edges]
        exact List.mem_map_of_mem hs
      · rcases List.mem_append.1 hp with hp | hp
        · exact fresh e (List.mem_append_right _ he) hp
        · exact apart e hp e he rfl

/-! ## Machines -/

/-- What gives a machine: the start is a state, each declaration is sound by itself, and no edge
comes twice in what they stand for together. -/
structure Expandable (meaning : PatternMeaning) (states events : List String) (start : String)
    (ds : List TransitionDecl) : Prop where
  start : start ∈ states
  sound : ∀ d ∈ ds, Sound meaning states events d
  nodup : ((ds.flatMap (expand meaning states)).map Transition.edge).Nodup

theorem outcome_build (names : List String) (start : String) (ds : List TransitionDecl) :
    (build meaning names events start ds).outcome =
      if start ∈ names then
        (resolveAll meaning (NameSet.ofList names) events .empty ds).outcome >>= fun x =>
          .ok ⟨NameSet.ofList names, start, x.transitions⟩
      else .error (.unknownStart start) := by
  change (if !(NameSet.ofList names).contains start then Traced.fail (.unknownStart start)
    else (resolveAll meaning (NameSet.ofList names) events .empty ds).andThen fun x =>
      Traced.ok (StateMachine.mk (NameSet.ofList names) start x.transitions)).outcome = _
  by_cases h : start ∈ names
  · have known : (NameSet.ofList names).contains start = true := by simpa using h
    rw [if_pos h, known]
    exact Traced.outcome_andThen _ _
  · have unknown : (NameSet.ofList names).contains start = false := by simpa using h
    rw [if_neg h, unknown]
    rfl

theorem build_ok_iff {names : List String} {start : String} {ds : List TransitionDecl}
    {m : StateMachine} :
    (build meaning names events start ds).outcome = .ok m ↔
      Expandable meaning names.eraseDups events.names start ds ∧
        m.states.names = names.eraseDups ∧ m.start = start ∧
        m.transitions = ds.flatMap (expand meaning names.eraseDups) := by
  rw [outcome_build, ← NameSet.names_ofList]
  by_cases hs : start ∈ names
  · rw [if_pos hs, bind_eq_ok_iff]
    simp only [resolveAll_ok_iff Expansion.tied_empty, admitsAll_iff_nodup]
    constructor
    · rintro ⟨x, ⟨⟨sound, -, nodup⟩, rfl⟩, h⟩
      cases h
      exact ⟨⟨by simpa using hs, sound, nodup⟩, rfl, rfl, rfl⟩
    · rintro ⟨⟨-, sound, nodup⟩, hstates, rfl, htransitions⟩
      refine ⟨_, ⟨⟨sound, by simp [Expansion.empty], nodup⟩, rfl⟩, ?_⟩
      obtain ⟨⟨ns, _⟩, _, _⟩ := m
      cases hstates
      cases htransitions
      rfl
  · rw [if_neg hs]
    exact ⟨fun h => (by cases h), fun ⟨h, _⟩ => absurd h.start (by simpa using hs)⟩

theorem build_error_iff {names : List String} {start : String} {ds : List TransitionDecl}
    {f : Fault} :
    (build meaning names events start ds).outcome = .error f ↔
      (start ∉ names ∧ f = .unknownStart start) ∨
      (start ∈ names ∧ ∃ before d after, ds = before ++ d :: after ∧
        (∀ before' d' after', before = before' ++ d' :: after' → ∀ f',
          ¬ Violates meaning names.eraseDups events.names
            (before'.flatMap (expand meaning names.eraseDups)) d' f') ∧
        Violates meaning names.eraseDups events.names
          (before.flatMap (expand meaning names.eraseDups)) d f) := by
  have none : Expansion.empty.transitions = [] := rfl
  rw [outcome_build, ← NameSet.names_ofList]
  by_cases hs : start ∈ names
  · rw [if_pos hs, bind_eq_error_iff]
    simp only [resolveAll_error_iff Expansion.tied_empty, none, admitsAll_iff_none_violates,
      List.nil_append]
    simp [hs]
  · rw [if_neg hs]
    simp [hs, eq_comm]

/-- A state machine is built exactly if its input is expandable, and then it is the expansion of its
declarations over the states without later repeats. Otherwise the fault is an unknown start, or that
of the first declaration at fault after those before it. -/
theorem build_outcome (meaning : PatternMeaning) (states : List String) (events : NameSet)
    (start : String) (ds : List TransitionDecl) :
    (∀ m, (build meaning states events start ds).outcome = .ok m ↔
      Expandable meaning states.eraseDups events.names start ds ∧
        m.states.names = states.eraseDups ∧ m.start = start ∧
        m.transitions = ds.flatMap (expand meaning states.eraseDups)) ∧
    (∀ f, (build meaning states events start ds).outcome = .error f ↔
      (start ∉ states ∧ f = .unknownStart start) ∨
      (start ∈ states ∧ ∃ before d after, ds = before ++ d :: after ∧
        (∀ before' d' after', before = before' ++ d' :: after' → ∀ f',
          ¬ Violates meaning states.eraseDups events.names
            (before'.flatMap (expand meaning states.eraseDups)) d' f') ∧
        Violates meaning states.eraseDups events.names
          (before.flatMap (expand meaning states.eraseDups)) d f)) :=
  ⟨fun _ => build_ok_iff, fun _ => build_error_iff⟩

end StateMachine

end ComponentSpec
