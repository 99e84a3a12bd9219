import ComponentSpec.Proofs.Events
import ComponentSpec.Proofs.Resolution
import Mathlib.Data.List.Forall2

/-!
# ComponentSpec.Proofs.Trace

What is reported while a document is compiled, and what it tells of the components.

* `Logs`: the events of one declaration that is added. `Extent.Counts`: the lengths that a component
  is built with.
* `Faithful`: events that tell what a registry is made of. `Faithful.skip`, `Faithful.share`,
  `Faithful.define`: one more declaration keeps it; `Reached.faithful`: so every run does.
* `compile_log`: the events of a document that compiles, and of one that fails in any phase.
-/

namespace ComponentSpec

open Yaml (Node Mapping)

namespace LogEvent

def isIgnoredFields : LogEvent → Bool
  | ignoredFields _ => true
  | _ => false

def isIgnoredReserved : LogEvent → Bool
  | ignoredReserved _ => true
  | _ => false

/-- The events that tell of a name that is bound. -/
def isBinding : LogEvent → Bool
  | aliasing _ _ => true
  | built _ _ => true
  | _ => false

/-- The events of the first phase. -/
def isAssembly : LogEvent → Bool
  | ignoredFields _ => false
  | compiled _ => false
  | _ => true

variable {e : LogEvent}

theorem isBinding_of_isInner (h : e.isInner = true) : e.isBinding = false := by
  cases e with
  | aliasing _ _ => cases h
  | built _ _ => cases h
  | _ => rfl

theorem isIgnoredReserved_of_isInner (h : e.isInner = true) : e.isIgnoredReserved = false := by
  cases e with
  | ignoredReserved _ => cases h
  | _ => rfl

theorem isAssembly_of_isInner (h : e.isInner = true) : e.isAssembly = true := by
  cases e with
  | ignoredFields _ => cases h
  | compiled _ => cases h
  | _ => rfl

theorem isIgnoredFields_of_isAssembly (h : e.isAssembly = true) : e.isIgnoredFields = false := by
  cases e with
  | ignoredFields _ => cases h
  | _ => rfl

/-- What is warned of while a document is decoded tells nothing of its components. -/
theorem edge?_of_isIgnoredFields (h : e.isIgnoredFields = true) : e.edge? = none := by
  cases e with
  | resolved _ _ _ => cases h
  | _ => rfl

theorem isBinding_of_isIgnoredFields (h : e.isIgnoredFields = true) : e.isBinding = false := by
  cases e with
  | aliasing _ _ => cases h
  | built _ _ => cases h
  | _ => rfl

theorem isIgnoredReserved_of_isIgnoredFields (h : e.isIgnoredFields = true) :
    e.isIgnoredReserved = false := by
  cases e with
  | ignoredReserved _ => cases h
  | _ => rfl

end LogEvent

/-! ## One declaration -/

/-- The lengths of the lists of a component. -/
structure Extent.Counts (x : Extent) (c : Component) : Prop where
  commands : x.commands = c.interface.commands.length
  notifications : x.notifications = c.interface.notifications.length
  properties : x.properties = c.interface.properties.length
  subscriptions : x.subscriptions = c.subscriptions.length
  transitions : x.transitions = c.machine.transitions.length

theorem Component.counts_extent (c : Component) : c.extent.Counts c := ⟨rfl, rfl, rfl, rfl, rfl⟩

theorem Extent.Counts.eq_extent {x : Extent} {c : Component} (h : x.Counts c) : x = c.extent := by
  obtain ⟨_, _, _, _, _⟩ := x
  obtain ⟨rfl, rfl, rfl, rfl, rfl⟩ := h
  rfl

/-- The events of a declaration that is added, or left out since its name is reserved. -/
inductive Logs (o : Options) : String × ComponentDecl → List LogEvent → Prop where
  | reserved {name : String} {d : ComponentDecl} : o.isReserved name = true →
      Logs o (name, d) [.ignoredReserved name]
  | uses {name target : String} : o.isReserved name = false →
      Logs o (name, .uses target) [.parsing name, .aliasing name target]
  | definition {name : String} {fields : Mapping} {c : Component} {log : List LogEvent}
      {x : Extent} : o.isReserved name = false → (Component.build name fields).outcome = .ok c →
      Component.BuildLog fields c log → x.Counts c →
      Logs o (name, .definition fields) (.parsing name :: (log ++ [.built name x]))

variable {o : Options} {ds : List (String × ComponentDecl)} {r r' : Registry} {name : String}
  {d : ComponentDecl} {log : List LogEvent}

/-- A declaration that is added reports what it gives. -/
theorem events_add_ok (free : o.isReserved name = false) (h : (r.add name d).outcome = .ok r') :
    Logs o (name, d) (r.add name d).events := by
  obtain ⟨hnew, hadd⟩ := Registry.add_ok_iff.1 h
  rw [Registry.add, if_neg (by simpa using hnew)]
  cases hadd with
  | @definition fields c hc =>
    obtain ⟨log, hlog, buildLog⟩ := Component.events_build hc
    have assembled : (assemble r name (.definition fields)).outcome = .ok (.component c) :=
      assemble_component_iff.2 ⟨fields, rfl, hc⟩
    have events :
        (assemble r name (.definition fields)).events = log ++ [.built name c.extent] := by
      rw [assemble, Traced.events_bind_of_ok hc, hlog]
      exact List.append_nil _
    rw [Traced.events_bind_of_ok rfl, Traced.events_bind_of_ok assembled, events]
    simpa using Logs.definition free hc buildLog c.counts_extent
  | @uses target object ho =>
    have bound := Registry.mem_names_of_object? ho
    have assembled : (assemble r name (.uses target)).outcome = .ok (.aliasOf target) :=
      assemble_aliasOf_iff.2 ⟨rfl, bound⟩
    have events : (assemble r name (.uses target)).events = [.aliasing name target] := by
      rw [assemble, if_pos (Registry.contains_iff.2 bound)]
      rfl
    rw [Traced.events_bind_of_ok rfl, Traced.events_bind_of_ok assembled, events]
    simp only [Registry.bindAlias?, ho]
    exact Logs.uses free

/-- A declaration that is rejected reports its name at most, and some of its parts. -/
theorem events_add_error {f : Fault} (h : (r.add name d).outcome = .error f) :
    ∀ e ∈ (r.add name d).events, e = .parsing name ∨ e.isInner = true := by
  rcases Registry.add_error_iff.1 h with ⟨bound, -⟩ | ⟨hnew, rejected⟩
  · rw [Registry.add, if_pos (Registry.contains_iff.2 bound)]
    intro e he
    cases he
  · have inner : ∀ e ∈ (assemble r name d).events, e.isInner = true := by
      cases d with
      | uses target =>
        rw [assemble] at rejected ⊢
        split at rejected
        · cases rejected
        · rename_i unknown
          rw [if_neg unknown]
          intro e he
          cases he
      | definition fields =>
        cases hc : (Component.build name fields).outcome with
        | ok c =>
          have assembled := assemble_component_iff (r := r).2 ⟨fields, rfl, hc⟩
          rw [assembled] at rejected
          cases rejected
        | error f =>
          rw [assemble, Traced.events_bind_of_error hc]
          exact Component.reports_build_of_error hc
    rw [Registry.add, if_neg (by simpa using hnew), Traced.events_bind_of_ok rfl,
      Traced.events_bind_of_error rejected]
    intro e he
    rcases List.mem_cons.1 he with he | he
    · exact .inl he
    · exact .inr (inner e he)

/-! ## The first phase -/

theorem events_assembleAll_append {ds₂ : List (String × ComponentDecl)}
    (h : (assembleAll o r ds).outcome = .ok r') :
    (assembleAll o r (ds ++ ds₂)).events =
      (assembleAll o r ds).events ++ (assembleAll o r' ds₂).events := by
  induction ds generalizing r with
  | nil =>
    cases h
    rfl
  | cons d ds ih =>
    obtain ⟨name, d⟩ := d
    rw [List.cons_append, assembleAll, assembleAll]
    rw [assembleAll] at h
    by_cases reserved : o.isReserved name = true
    · simp only [reserved, if_true] at h ⊢
      rw [Traced.events_bind_of_ok rfl, Traced.events_bind_of_ok rfl, ih h, List.append_assoc]
    · simp only [reserved] at h ⊢
      obtain ⟨r₁, h₁, h⟩ := outcome_bind_eq_ok_iff.1 h
      rw [if_neg (by simp), if_neg (by simp), Traced.events_bind_of_ok h₁,
        Traced.events_bind_of_ok h₁, ih h, List.append_assoc]

theorem events_assembleAll_reserved (hn : o.isReserved name = true) (r : Registry)
    (d : ComponentDecl) : (assembleAll o r [(name, d)]).events = [.ignoredReserved name] := by
  rw [assembleAll, if_pos hn]
  rfl

/-- The first phase ends with what the last declaration reports, whether or not it is added. -/
theorem events_assembleAll_concat (h : Reached o ds r) (hn : o.isReserved name = false) :
    (assembleAll o .empty (ds ++ [(name, d)])).events =
      (assembleAll o .empty ds).events ++ (r.add name d).events := by
  rw [events_assembleAll_append (reached_iff.1 h), assembleAll, if_neg (by simp [hn])]
  cases ha : (r.add name d).outcome with
  | error f => rw [Traced.events_bind_of_error (by simp [ha]; rfl), Traced.events_mapError]
  | ok r' =>
    rw [Traced.events_bind_of_ok (by simp [ha]; rfl), Traced.events_mapError]
    exact congrArg _ (List.append_nil _)

/-- The events of a run are those of its declarations, one after another. -/
theorem Reached.logs (h : Reached o ds r) : ∃ blocks, List.Forall₂ (Logs o) ds blocks ∧
    (assembleAll o .empty ds).events = blocks.flatten := by
  induction h with
  | start => exact ⟨[], .nil, rfl⟩
  | @skip ds r name d reached hn ih =>
    obtain ⟨blocks, logs, events⟩ := ih
    refine ⟨blocks ++ [[.ignoredReserved name]],
      List.rel_append logs (.cons (.reserved hn) .nil), ?_⟩
    rw [events_assembleAll_append (reached_iff.1 reached), events_assembleAll_reserved hn, events,
      List.flatten_append]
    rfl
  | @add ds r r' name d reached hn hnew hadd ih =>
    obtain ⟨blocks, logs, events⟩ := ih
    have added := events_add_ok hn (Registry.add_ok_iff.2 ⟨hnew, hadd⟩)
    refine ⟨blocks ++ [(r.add name d).events], List.rel_append logs (.cons added .nil), ?_⟩
    rw [events_assembleAll_concat reached hn, events, List.flatten_append, List.flatten_singleton]

/-! ## What the events tell -/

/-- The binding that an event tells of: a definition is built, an alias is bound. -/
inductive Announces (ds : List (String × ComponentDecl)) : LogEvent → Binding → Prop where
  | definition {name : String} {fields : Mapping} {object : Shared} {x : Extent} :
      (name, .definition fields) ∈ ds → x.Counts object.component →
      Announces ds (.built name x) ⟨name, object, none⟩
  | uses {name target root : String} {object : Shared} :
      (name, .uses target) ∈ ds → LeadsTo ds target root →
      Announces ds (.aliasing name target) ⟨name, object, some root⟩

theorem Announces.append {e : LogEvent} {b : Binding} (h : Announces ds e b)
    (more : List (String × ComponentDecl)) : Announces (ds ++ more) e b := by
  cases h with
  | definition hd counts => exact .definition (List.mem_append_left _ hd) counts
  | uses hd hl => exact .uses (List.mem_append_left _ hd) (hl.append more)

theorem Announces.eq_built {e : LogEvent} {b : Binding} (h : Announces ds e b)
    (defined : ∀ target, (b.name, .uses target) ∉ ds) :
    e = .built b.name b.object.component.extent := by
  cases h with
  | definition _ counts => rw [counts.eq_extent]
  | uses declared => exact absurd declared (defined _)

theorem Announces.eq_aliasing {e : LogEvent} {b : Binding} (h : Announces ds e b)
    (shared : ∀ fields, (b.name, .definition fields) ∉ ds) :
    ∃ target, (b.name, .uses target) ∈ ds ∧ e = .aliasing b.name target := by
  cases h with
  | definition declared => exact absurd declared (shared _)
  | @uses name target _ _ declared => exact ⟨target, declared, rfl⟩

/-- Events that tell what a registry is made of: the transitions of its definitions, and its names
in order. Names that are left out are told of, too. -/
structure Faithful (o : Options) (ds : List (String × ComponentDecl)) (r : Registry)
    (log : List LogEvent) : Prop where
  resolved : log.filterMap LogEvent.edge? =
    r.definitions.flatMap fun b => b.object.component.machine.transitions.map Transition.edge
  bound : List.Forall₂ (Announces ds) (log.filter LogEvent.isBinding) r.bindings
  reserved : log.filter LogEvent.isIgnoredReserved =
    ((ds.map Prod.fst).filter o.isReserved).map LogEvent.ignoredReserved

namespace Faithful

theorem start : Faithful o [] .empty [] := ⟨rfl, .nil, rfl⟩

theorem bound_append (h : Faithful o ds r log) (more : List (String × ComponentDecl)) :
    List.Forall₂ (Announces (ds ++ more)) (log.filter LogEvent.isBinding) r.bindings :=
  h.bound.imp fun _ _ announced => announced.append more

theorem skip (h : Faithful o ds r log) (hn : o.isReserved name = true) (d : ComponentDecl) :
    Faithful o (ds ++ [(name, d)]) r (log ++ [.ignoredReserved name]) where
  resolved := by
    rw [List.filterMap_append, h.resolved]
    exact List.append_nil _
  bound := by
    rw [List.filter_append]
    exact (List.append_nil _).symm ▸ h.bound_append _
  reserved := by
    rw [List.filter_append, h.reserved]
    simp [hn, LogEvent.isIgnoredReserved]

theorem share (h : Faithful o ds r log) (hn : o.isReserved name = false) (new : r.IsNew name)
    {target root : String} {object : Shared} (hl : LeadsTo ds target root) :
    Faithful o (ds ++ [(name, .uses target)]) (r.share name object root)
      (log ++ [.parsing name, .aliasing name target]) where
  resolved := by
    rw [List.filterMap_append, h.resolved, Registry.definitions_share new]
    exact List.append_nil _
  bound := by
    rw [List.filter_append, Registry.bindings_share new]
    exact List.rel_append (h.bound_append _)
      (.cons (.uses (List.mem_append_right _ List.mem_cons_self) (hl.append _)) .nil)
  reserved := by
    rw [List.filter_append, h.reserved]
    simp [hn, LogEvent.isIgnoredReserved]

theorem define (h : Faithful o ds r log) (hn : o.isReserved name = false) (new : r.IsNew name)
    {fields : Mapping} {c : Component} {inner : List LogEvent} {x : Extent}
    (parts : Component.BuildLog fields c inner) (counts : x.Counts c) :
    Faithful o (ds ++ [(name, .definition fields)]) (r.define name c)
      (log ++ .parsing name :: (inner ++ [.built name x])) where
  resolved := by
    rw [List.filterMap_append, List.filterMap_cons_none rfl, List.filterMap_append, h.resolved,
      parts.resolved, Registry.definitions_define new, List.flatMap_append]
    simp [LogEvent.edge?]
  bound := by
    have silent : inner.filter LogEvent.isBinding = [] := List.filter_eq_nil_iff.2 fun e he => by
      simp [LogEvent.isBinding_of_isInner (parts.inner e he)]
    rw [List.filter_append, List.filter_cons_of_neg (by simp [LogEvent.isBinding]),
      List.filter_append, silent, Registry.bindings_define new]
    have declared : (name, .definition fields) ∈ ds ++ [(name, ComponentDecl.definition fields)] :=
      List.mem_append_right _ List.mem_cons_self
    exact List.rel_append (h.bound_append _)
      (.cons (@Announces.definition _ name fields ⟨r.freshId, c⟩ x declared counts) .nil)
  reserved := by
    have silent : inner.filter LogEvent.isIgnoredReserved = [] :=
      List.filter_eq_nil_iff.2 fun e he => by
        simp [LogEvent.isIgnoredReserved_of_isInner (parts.inner e he)]
    rw [List.filter_append, h.reserved]
    simp [hn, silent, LogEvent.isIgnoredReserved]

end Faithful

/-- Every run reports what it makes. -/
theorem Reached.faithful (h : Reached o ds r) :
    Faithful o ds r (assembleAll o .empty ds).events := by
  induction h with
  | start => exact .start
  | skip reached hn ih =>
    rw [events_assembleAll_append (reached_iff.1 reached), events_assembleAll_reserved hn]
    exact ih.skip hn _
  | @add ds r r' name d reached hn hnew hadd ih =>
    have new := reached.coherent.isNew hnew
    have logs := events_add_ok hn (Registry.add_ok_iff.2 ⟨hnew, hadd⟩)
    rw [events_assembleAll_concat reached hn]
    generalize (r.add name d).events = block at logs
    cases hadd with
    | definition hc =>
      cases logs with
      | reserved reserved => rw [hn] at reserved; cases reserved
      | definition _ hc' parts counts =>
        rw [hc] at hc'
        cases hc'
        exact ih.define hn new parts counts
    | uses ho =>
      cases logs with
      | reserved reserved => rw [hn] at reserved; cases reserved
      | uses _ =>
        have bound := Registry.mem_names_of_object? ho
        exact ih.share hn new ((reached.coherent.leadsTo_iff bound _).2 rfl)

theorem reports_add (free : o.isReserved name = false) :
    (r.add name d).Reports LogEvent.isAssembly := by
  intro e he
  cases h : (r.add name d).outcome with
  | error f =>
    rcases events_add_error h e he with rfl | inner
    · rfl
    · exact LogEvent.isAssembly_of_isInner inner
  | ok r' =>
    have logs := events_add_ok free h
    generalize (r.add name d).events = block at he logs
    cases logs with
    | reserved reserved => rw [free] at reserved; cases reserved
    | uses _ =>
      rcases List.mem_pair.1 he with rfl | rfl <;> rfl
    | definition _ _ parts =>
      rcases List.mem_cons.1 he with rfl | he
      · rfl
      · rcases List.mem_append.1 he with he | he
        · exact LogEvent.isAssembly_of_isInner (parts.inner e he)
        · obtain rfl := List.mem_singleton.1 he
          rfl

theorem reports_assembleAll (o : Options) (r : Registry) (ds : List (String × ComponentDecl)) :
    (assembleAll o r ds).Reports LogEvent.isAssembly := by
  induction ds generalizing r with
  | nil => exact Traced.reports_of_silent rfl
  | cons d ds ih =>
    obtain ⟨name, d⟩ := d
    rw [assembleAll]
    split
    · exact (Traced.reports_report _ rfl).bind fun _ _ => ih r
    · rename_i free
      have added : ((r.add name d).mapError (Diagnostic.ofFaultIn name)).Reports
          LogEvent.isAssembly := reports_add (by simpa using free)
      exact added.bind fun r' _ => ih r'

/-! ## Decoding -/

theorem reports_read (name : String) (body : Node) :
    (ComponentDecl.read name body).Reports LogEvent.isIgnoredFields := by
  unfold ComponentDecl.read
  refine Traced.reports_lift_bind fun fields _ => ?_
  split
  · refine Traced.reports_lift_bind fun target _ => ?_
    split
    · exact (Traced.reports_report _ rfl).bind fun _ _ => Traced.reports_of_silent rfl
    · exact Traced.reports_of_silent rfl
  · split
    · exact Traced.reports_of_silent rfl
    · exact Traced.reports_of_silent rfl

theorem reports_readAll (entries : List Node) :
    (ComponentDecl.readAll entries).Reports LogEvent.isIgnoredFields := by
  induction entries with
  | nil => exact Traced.reports_of_silent rfl
  | cons entry entries ih =>
    rw [ComponentDecl.readAll]
    refine Traced.Reports.bind ?_ fun d _ =>
      ih.bind fun ds _ => Traced.reports_of_silent rfl
    refine Traced.reports_lift_bind fun m _ => Traced.reports_lift_bind fun e _ => ?_
    exact (reports_read _ _).bind fun _ _ => Traced.reports_of_silent rfl

theorem reports_declarations (root : Node) (rootKey : String) :
    (declarations root rootKey).Reports LogEvent.isIgnoredFields :=
  Traced.reports_lift_bind fun entries _ => reports_readAll entries

/-! ## Documents -/

/-- What is reported at the end of the first phase: the number of components, unless a reference is
broken. -/
def endReport : Except Diagnostic Registry → List LogEvent
  | .error _ => []
  | .ok r => if r.violation?.isNone then [.compiled r.size] else []

theorem mem_endReport {x : Except Diagnostic Registry} {e : LogEvent} :
    e ∈ endReport x ↔ ∃ r, x = .ok r ∧ r.violation? = none ∧ e = .compiled r.size := by
  cases x with
  | error f => simp [endReport]
  | ok r => cases h : r.violation? <;> simp [endReport, h]

theorem events_compileTree {root : Node} (h : (declarations root o.rootKey).outcome = .ok ds) :
    (compileTree o root).events = (declarations root o.rootKey).events ++
      ((assembleAll o .empty ds).events ++ endReport (assembleAll o .empty ds).outcome) := by
  rw [compileTree, Traced.events_bind_of_ok (by simp [h]; rfl), Traced.events_mapError]
  congr 1
  cases hr : (assembleAll o .empty ds).outcome with
  | error e =>
    rw [Traced.events_bind_of_error hr]
    exact (List.append_nil _).symm
  | ok r =>
    rw [Traced.events_bind_of_ok hr, endReport]
    cases hv : r.violation? with
    | some e =>
      rw [Traced.events_bind_of_error (checkReferences_eq_error_iff.2 hv)]
      simp
    | none =>
      rw [Traced.events_bind_of_ok (checkReferences_eq_ok_iff.2 hv)]
      rfl

variable {text : String}

/-- The warnings of decoding come first, and then what the first phase reports. -/
theorem events_compile (o : Options) (text : String) : ∃ warnings : List LogEvent,
    (∀ e ∈ warnings, e.isIgnoredFields = true) ∧
    (∀ f, decode o text = .error f → (compile o text).events = warnings) ∧
    (∀ ds, decode o text = .ok ds → (compile o text).events = warnings ++
      ((assembleAll o .empty ds).events ++ endReport (assembleAll o .empty ds).outcome)) := by
  rw [decode_eq, compile]
  cases load : loadDocument text with
  | error f =>
    refine ⟨[], by simp, fun _ _ => rfl, fun ds h => ?_⟩
    cases h
  | ok root =>
    refine ⟨_, reports_declarations root o.rootKey, fun f h => ?_, fun ds h => ?_⟩
    · have failed : ((declarations root o.rootKey).mapError Diagnostic.ofFault).outcome =
          .error (.ofFault f) := mapError_eq_error_iff.2 ⟨f, h, rfl⟩
      exact Traced.events_bind_of_error failed
    · exact events_compileTree h

theorem compiled_notMem {p : LogEvent → Bool} {events : List LogEvent} {n : Nat}
    (h : ∀ e ∈ events, p e = true) (hp : p (.compiled n) = false) : LogEvent.compiled n ∉ events :=
  fun hn => by
    rw [h _ hn] at hp
    cases hp

/-- The number of components is reported exactly if a document compiles. -/
theorem compiled_mem_iff {n : Nat} : .compiled n ∈ (compile o text).events ↔
    ∃ r, (compile o text).outcome = .ok r ∧ n = r.size := by
  obtain ⟨warnings, warned, undecoded, decoded⟩ := events_compile o text
  have before : LogEvent.compiled n ∉ warnings := compiled_notMem warned rfl
  cases hds : decode o text with
  | error f =>
    rw [undecoded f hds]
    refine iff_of_false before ?_
    rintro ⟨r, hr, -⟩
    obtain ⟨ds, hds', -⟩ := compile_ok_iff.1 hr
    rw [hds] at hds'
    cases hds'
  | ok ds =>
    have within : LogEvent.compiled n ∉ (assembleAll o .empty ds).events :=
      compiled_notMem (reports_assembleAll o .empty ds) rfl
    rw [decoded ds hds, List.mem_append, List.mem_append, or_iff_right before,
      or_iff_right within, mem_endReport]
    refine exists_congr fun r => ?_
    rw [compile_ok_iff, LogEvent.compiled.injEq]
    constructor
    · rintro ⟨hr, checked, size⟩
      exact ⟨⟨ds, hds, reached_iff.2 hr, checked⟩, size⟩
    · rintro ⟨⟨ds', hds', reached, checked⟩, size⟩
      rw [hds] at hds'
      cases hds'
      exact ⟨reached_iff.1 reached, checked, size⟩

/-- Warnings before the events of a run, and a report after them, do not change what is told. -/
theorem Faithful.within (h : Faithful o ds r log) {warnings : List LogEvent}
    (warned : ∀ e ∈ warnings, e.isIgnoredFields = true) (x : Except Diagnostic Registry) :
    Faithful o ds r (warnings ++ (log ++ endReport x)) := by
  have last : ∀ e ∈ endReport x, ∃ n, e = .compiled n := fun e he => by
    obtain ⟨r, -, -, rfl⟩ := mem_endReport.1 he
    exact ⟨r.size, rfl⟩
  -- neither part has an event of any of the kinds that are looked for
  have silent : ∀ p : LogEvent → Bool, (∀ e, e.isIgnoredFields = true → p e = false) →
      (∀ n, p (.compiled n) = false) →
      (warnings ++ (log ++ endReport x)).filter p = log.filter p := by
    intro p hw hc
    have first : warnings.filter p = [] :=
      List.filter_eq_nil_iff.2 fun e he => by simp [hw e (warned e he)]
    have second : (endReport x).filter p = [] := List.filter_eq_nil_iff.2 fun e he => by
      obtain ⟨n, rfl⟩ := last e he
      simp [hc n]
    rw [List.filter_append, List.filter_append, first, second, List.append_nil, List.nil_append]
  refine ⟨?_, ?_, ?_⟩
  · have first : warnings.filterMap LogEvent.edge? = [] :=
      List.filterMap_eq_nil_iff.2 fun e he => LogEvent.edge?_of_isIgnoredFields (warned e he)
    have second : (endReport x).filterMap LogEvent.edge? = [] :=
      List.filterMap_eq_nil_iff.2 fun e he => by
        obtain ⟨n, rfl⟩ := last e he
        rfl
    rw [List.filterMap_append, List.filterMap_append, first, second, h.resolved]
    exact List.append_nil _
  · rw [silent _ (fun _ => LogEvent.isBinding_of_isIgnoredFields) fun _ => rfl]
    exact h.bound
  · rw [silent _ (fun _ => LogEvent.isIgnoredReserved_of_isIgnoredFields) fun _ => rfl]
    exact h.reserved

/-- Up to the declaration that is rejected, the names are told of as if there were nothing else. -/
theorem Reached.bound_of_rejected (h : Reached o ds r) (hn : o.isReserved name = false) {f : Fault}
    (rejected : (r.add name d).outcome = .error f) (after : List (String × ComponentDecl)) :
    List.Forall₂ (Announces ds)
      ((assembleAll o .empty (ds ++ (name, d) :: after)).events.filter LogEvent.isBinding)
      r.bindings := by
  have failed : (((r.add name d).mapError (Diagnostic.ofFaultIn name))).outcome =
      .error (.ofFaultIn name f) := mapError_eq_error_iff.2 ⟨f, rejected, rfl⟩
  have silent : (r.add name d).events.filter LogEvent.isBinding = [] :=
    List.filter_eq_nil_iff.2 fun e he => by
      rcases events_add_error rejected e he with rfl | inner
      · simp [LogEvent.isBinding]
      · simp [LogEvent.isBinding_of_isInner inner]
  rw [events_assembleAll_append (reached_iff.1 h), assembleAll, if_neg (by simp [hn]),
    Traced.events_bind_of_error failed, Traced.events_mapError, List.filter_append, silent,
    List.append_nil]
  exact h.faithful.bound

/-- What is reported while a document is compiled. The warnings of ignored fields come before all
else. The last event tells of the number of components exactly if the document compiles, and there
is no other one of the kind. If all declarations can be added, their events follow each other: they
tell of the transitions, of each name and of each reserved name, in order. If one of them is
rejected, the names are told of that are bound before it, and no others. -/
theorem compile_log (o : Options) (text : String) :
    (∃ warnings rest, (compile o text).events = warnings ++ rest ∧
      (∀ e ∈ warnings, e.isIgnoredFields = true) ∧ ∀ e ∈ rest, e.isIgnoredFields = false) ∧
    (∀ n, .compiled n ∈ (compile o text).events ↔
      ∃ r, (compile o text).outcome = .ok r ∧ n = r.size) ∧
    (∀ r, (compile o text).outcome = .ok r → ∃ ds warnings blocks,
      decode o text = .ok ds ∧ (assembleAll o .empty ds).outcome = .ok r ∧
      (compile o text).events = (warnings ++ blocks.flatten) ++ [.compiled r.size] ∧
      (∀ n, .compiled n ∉ warnings ++ blocks.flatten) ∧
      (∀ e ∈ warnings, e.isIgnoredFields = true) ∧ List.Forall₂ (Logs o) ds blocks) ∧
    (∀ ds r, decode o text = .ok ds → (assembleAll o .empty ds).outcome = .ok r →
      Faithful o ds r (compile o text).events) ∧
    (∀ ds e, decode o text = .ok ds → (assembleAll o .empty ds).outcome = .error e →
      ∃ before name d after r f, ds = before ++ (name, d) :: after ∧
        (assembleAll o .empty before).outcome = .ok r ∧ r.names = boundNames o before ∧
        o.isReserved name = false ∧ (r.add name d).outcome = .error f ∧ e = .ofFaultIn name f ∧
        List.Forall₂ (Announces before) ((compile o text).events.filter LogEvent.isBinding)
          r.bindings) := by
  obtain ⟨warnings, warned, undecoded, decoded⟩ := events_compile o text
  refine ⟨?_, fun n => compiled_mem_iff, ?_, ?_, ?_⟩
  · cases hds : decode o text with
    | error f => exact ⟨warnings, [], by simp [undecoded f hds], warned, by simp⟩
    | ok ds =>
      refine ⟨warnings, _, decoded ds hds, warned, fun e he => ?_⟩
      rcases List.mem_append.1 he with he | he
      · exact LogEvent.isIgnoredFields_of_isAssembly (reports_assembleAll o .empty ds e he)
      · obtain ⟨r, -, -, rfl⟩ := mem_endReport.1 he
        rfl
  · intro r hr
    obtain ⟨ds, hds, reached, checked⟩ := compile_ok_iff.1 hr
    obtain ⟨blocks, logs, events⟩ := reached.logs
    have assembly := reports_assembleAll o .empty ds
    have last : endReport (.ok r) = [.compiled r.size] := by simp [endReport, checked]
    refine ⟨ds, warnings, blocks, hds, reached_iff.1 reached, ?_, fun n hn => ?_, warned, logs⟩
    · rw [decoded ds hds, reached_iff.1 reached, last, events, List.append_assoc]
    · rw [← events] at hn
      rcases List.mem_append.1 hn with hn | hn
      · exact compiled_notMem warned rfl hn
      · exact compiled_notMem assembly rfl hn
  · intro ds r hds hr
    rw [decoded ds hds]
    exact (reached_iff.2 hr).faithful.within warned _
  · intro ds e hds he
    rw [outcome_assembleAll] at he
    obtain ⟨before, ⟨name, d⟩, after, r, rfl, run, step⟩ := foldlM_eq_error_iff.1 he
    obtain ⟨free, f, rejected, rfl⟩ := assembleOne_error_iff.1 step
    have reached : Reached o before r := reached_iff_foldlM.2 run
    refine ⟨before, name, d, after, r, f, rfl, reached_iff.1 reached, reached.names, free, rejected,
      rfl, ?_⟩
    -- a run that fails has no end report, and warnings tell of no names
    have silent : warnings.filter LogEvent.isBinding = [] := List.filter_eq_nil_iff.2 fun e he => by
      simp [LogEvent.isBinding_of_isIgnoredFields (warned e he)]
    rw [decoded _ hds, outcome_assembleAll, he, List.filter_append, silent]
    simpa [endReport] using reached.bound_of_rejected free rejected after

/-- A state and an event are listed again, and there is a transition from all states. -/
def relayFields : Mapping :=
  [ (.text "interface", .mapping
      [ (.text "commands", .sequence [.text "Go"]),
        (.text "notifications", .sequence [.text "N", .text "M", .text "O"]) ]),
    (.text "utilization", .mapping [(.text "notifications", .sequence [.text "B.N"])]),
    (.text "events", .sequence [.text "E", .text "E"]),
    (.text "statemachine", .mapping
      [ (.text "states", .sequence [.text "S", .text "T", .text "S"]), (.text "start", .text "S"),
        (.text "transitions", .sequence
          [.mapping
            [ (.text "state", .text ".*"), (.text "next", .text "T"),
              (.text "event", .text "E") ]]) ]) ]

/-- It comes after a reserved name, and before an alias with a field that is ignored. -/
def relayText : String :=
  "components:\n- _X: \x7busing: Nobody\x7d\n" ++
  "- A: \x7binterface: \x7bcommands: [Go], notifications: [N, M, O]\x7d, " ++
  "utilization: \x7bnotifications: [B.N]\x7d, " ++
  "events: [E, E], statemachine: \x7bstates: [S, T, S], start: S, " ++
  "transitions: [\x7bstate: .*, next: T, event: E\x7d]\x7d\x7d\n" ++
  "- B: \x7busing: A, statemachine: S\x7d"

theorem relay_log : ∃ r log, (compile .standard relayText).outcome = .ok r ∧
    (compile .standard relayText).events = log ++ [.compiled 2] ∧
    (compile .standard relayText).events.filterMap LogEvent.edge? =
      [⟨"S", "T", "E"⟩, ⟨"T", "T", "E"⟩] ∧
    (compile .standard relayText).events.filter LogEvent.isIgnoredReserved =
      [.ignoredReserved "_X"] ∧
    (compile .standard relayText).events.filter LogEvent.isBinding =
      [.built "A" ⟨1, 3, 0, 1, 2⟩, .aliasing "B" "A"] := by
  have entries : componentEntries .standard relayText =
      .ok [ .mapping [(.text "_X", .mapping [(.text "using", .text "Nobody")])],
        .mapping [(.text "A", .mapping relayFields)],
        .mapping [(.text "B", .mapping
          [(.text "using", .text "A"), (.text "statemachine", .text "S")])] ] := by
    decide +kernel
  have built : (compile .standard relayText).outcome.toOption.map (fun r => (
      r.definitions.flatMap (fun b => b.object.component.machine.transitions.map Transition.edge),
      r.bindings.map fun b => (b.name, b.object.component.extent))) =
      some ([⟨"S", "T", "E"⟩, ⟨"T", "T", "E"⟩],
        [("A", ⟨1, 3, 0, 1, 2⟩), ("B", ⟨1, 3, 0, 1, 2⟩)]) := by
    rw [outcome_compile_of_entries entries]
    decide +kernel
  obtain ⟨r, hr, view⟩ := exists_ok_of_toOption_map built
  obtain ⟨edges, bindings⟩ := Prod.mk.inj view
  have size : r.size = 2 := by
    simpa [Registry.bindings, Registry.size, NameMap.size] using congrArg List.length bindings
  obtain ⟨-, -, compiled, told, -⟩ := compile_log .standard relayText
  obtain ⟨ds, warnings, blocks, hds, assembled, events, -⟩ := compiled r hr
  have faithful := told ds r hds assembled
  rw [decode_of_entries entries] at hds
  have reserved : (ds.map Prod.fst).filter Options.standard.isReserved = ["_X"] := by
    cases hds
    decide
  have defined : ∀ target, ("A", .uses target) ∉ ds := by
    cases hds
    simp
  have shared : ∀ fields, ("B", .definition fields) ∉ ds := by
    cases hds
    simp
  have only_alias : ∀ target, ("B", .uses target) ∈ ds → target = "A" := by
    cases hds
    simp
  refine ⟨r, _, hr, size ▸ events, faithful.resolved.trans edges, ?_, ?_⟩
  · rw [faithful.reserved, reserved]
    rfl
  · have bound := faithful.bound
    obtain ⟨a, bs, hbindings, ha, rest⟩ := List.map_eq_cons_iff.1 bindings
    obtain ⟨b, bs, rfl, hb, rest⟩ := List.map_eq_cons_iff.1 rest
    obtain rfl := List.map_eq_nil_iff.1 rest
    obtain ⟨aName, aExtent⟩ := Prod.mk.inj ha
    obtain ⟨bName, -⟩ := Prod.mk.inj hb
    rw [hbindings] at bound
    generalize (compile .standard relayText).events.filter LogEvent.isBinding = told at bound
    cases bound with
    | cons announcedA bound =>
      cases bound with
      | cons announcedB bound =>
        cases bound
        obtain ⟨target, uses, rfl⟩ := announcedB.eq_aliasing (bName ▸ shared)
        rw [announcedA.eq_built (aName ▸ defined), aName, aExtent, bName,
          only_alias target (bName ▸ uses)]

end ComponentSpec
