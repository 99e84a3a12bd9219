import ComponentSpec.Compile
import ComponentSpec.Proofs.Outcome
import ComponentSpec.Proofs.Registry

/-!
# ComponentSpec.Proofs.Assembly

The first phase, one declaration after another.

* `Registry.Adds`: what adding a declaration does to a registry, if it succeeds.
* `add_ok_iff`, `add_error_iff`: when it succeeds, and with which fault it fails otherwise.
* `Reached`: the registries of the first phase, each with the declarations read so far. They are
  those of `assembleAll` (`reached_iff`).
-/

namespace ComponentSpec

/-! ## One declaration -/

theorem assemble_component_iff {r : Registry} {name : String} {d : ComponentDecl} {c : Component} :
    (assemble r name d).outcome = .ok (.component c) ↔
      ∃ fields, d = .definition fields ∧ (Component.build name fields).outcome = .ok c := by
  cases d with
  | uses target =>
    rw [assemble]
    split <;> simp
  | definition fields =>
    rw [assemble, outcome_bind_eq_ok_iff]
    simp

theorem assemble_aliasOf_iff {r : Registry} {name target : String} {d : ComponentDecl} :
    (assemble r name d).outcome = .ok (.aliasOf target) ↔ d = .uses target ∧ target ∈ r.names := by
  cases d with
  | uses t =>
    rw [assemble]
    split
    · rename_i h
      rw [Registry.contains_iff] at h
      simp only [Traced.bind_eq, Traced.outcome_report_andThen, Traced.pure_eq, Traced.outcome_ok,
        Except.ok.injEq, Assembled.aliasOf.injEq, ComponentDecl.uses.injEq]
      constructor
      · rintro rfl
        exact ⟨rfl, h⟩
      · exact And.left
    · rename_i h
      rw [Registry.contains_iff] at h
      simp only [Traced.outcome_fail, reduceCtorEq, false_iff, ComponentDecl.uses.injEq]
      rintro ⟨rfl, h'⟩
      exact h h'
  | definition fields =>
    rw [assemble, outcome_bind_eq_ok_iff]
    simp

/-- An alias that is assembled can be bound: its target is there. -/
theorem bindAlias?_of_assemble {r : Registry} {name target : String} {d : ComponentDecl}
    (h : (assemble r name d).outcome = .ok (.aliasOf target)) :
    ∃ object, r.object? target = some object ∧
      r.bindAlias? name target = some (r.share name object (r.rootOf target)) := by
  obtain ⟨object, ho⟩ := Registry.exists_object (assemble_aliasOf_iff.1 h).2
  exact ⟨object, ho, by simp [Registry.bindAlias?, ho]⟩

namespace Registry

/-- What a declaration makes of a registry: a definition binds a new object, an alias the object of
its target. -/
inductive Adds (r : Registry) (name : String) : ComponentDecl → Registry → Prop where
  | definition {fields : Yaml.Mapping} {c : Component} :
      (Component.build name fields).outcome = .ok c →
      Adds r name (.definition fields) (r.define name c)
  | uses {target : String} {object : Shared} : r.object? target = some object →
      Adds r name (.uses target) (r.share name object (r.rootOf target))

variable {r r' : Registry} {name : String} {d : ComponentDecl}

theorem outcome_add_of_mem (h : name ∈ r.names) :
    (r.add name d).outcome = .error (.duplicateComponent name) := by
  rw [add, if_pos (contains_iff.2 h)]
  rfl

theorem outcome_add_of_notMem (h : name ∉ r.names) :
    (r.add name d).outcome = (assemble r name d).outcome >>= fun a =>
      match a with
      | .component c => .ok (r.define name c)
      | .aliasOf target =>
        match r.bindAlias? name target with
        | some r => .ok r
        | none => .error (.unknownUsed target name) := by
  rw [add, if_neg (by simpa using h), Traced.bind_eq, Traced.outcome_report_andThen, Traced.bind_eq,
    Traced.outcome_andThen]
  congr 1
  funext a
  cases a with
  | component c => rfl
  | aliasOf target => cases hb : r.bindAlias? name target <;> simp [hb]

theorem add_ok_iff : (r.add name d).outcome = .ok r' ↔ name ∉ r.names ∧ Adds r name d r' := by
  by_cases h : name ∈ r.names
  · rw [outcome_add_of_mem h]
    simp [h]
  · rw [outcome_add_of_notMem h, bind_eq_ok_iff]
    constructor
    · rintro ⟨a, hd, hr⟩
      refine ⟨h, ?_⟩
      cases a with
      | component c =>
        cases hr
        obtain ⟨fields, rfl, hc⟩ := assemble_component_iff.1 hd
        exact .definition hc
      | aliasOf target =>
        obtain ⟨object, ho, hb⟩ := bindAlias?_of_assemble hd
        simp only [hb] at hr
        cases hr
        obtain ⟨rfl, -⟩ := assemble_aliasOf_iff.1 hd
        exact .uses ho
    · rintro ⟨-, adds⟩
      cases adds with
      | definition hc => exact ⟨_, assemble_component_iff.2 ⟨_, rfl, hc⟩, rfl⟩
      | uses ho =>
        refine ⟨_, assemble_aliasOf_iff.2 ⟨rfl, mem_names_of_object? ho⟩, ?_⟩
        simp [bindAlias?, ho]

/-- An addition fails on a name that is bound, or with the fault of the declaration. There is no
third way: an alias that is assembled can always be bound. -/
theorem add_error_iff {f : Fault} : (r.add name d).outcome = .error f ↔
    (name ∈ r.names ∧ f = .duplicateComponent name) ∨
      (name ∉ r.names ∧ (assemble r name d).outcome = .error f) := by
  by_cases h : name ∈ r.names
  · rw [outcome_add_of_mem h]
    simp [h, eq_comm]
  · rw [outcome_add_of_notMem h, bind_eq_error_iff]
    simp only [h, false_and, not_false_eq_true, true_and, false_or]
    refine ⟨?_, .inl⟩
    rintro (hd | ⟨a, hd, hr⟩)
    · exact hd
    · cases a with
      | component c => cases hr
      | aliasOf target =>
        obtain ⟨object, ho, hb⟩ := bindAlias?_of_assemble hd
        simp only [hb] at hr
        cases hr

end Registry

/-! ## All declarations -/

/-- What the first phase makes of a registry with one more declaration. -/
def assembleOne (o : Options) (r : Registry) (d : String × ComponentDecl) :
    Except Diagnostic Registry :=
  if o.isReserved d.1 then .ok r
  else (r.add d.1 d.2).outcome.mapError (Diagnostic.ofFaultIn d.1)

theorem outcome_assembleAll (o : Options) (r : Registry) (ds : List (String × ComponentDecl)) :
    (assembleAll o r ds).outcome = ds.foldlM (assembleOne o) r := by
  induction ds generalizing r with
  | nil => rfl
  | cons d ds ih =>
    obtain ⟨name, d⟩ := d
    rw [List.foldlM_cons, assembleAll]
    by_cases h : o.isReserved name = true
    · rw [if_pos h, Traced.bind_eq, Traced.outcome_report_andThen, ih, assembleOne, if_pos h]
      rfl
    · rw [if_neg h, Traced.bind_eq, Traced.outcome_andThen, assembleOne, if_neg h]
      simp only [ih]
      rfl

/-- The registries that the first phase comes to, with the declarations read so far. -/
inductive Reached (o : Options) : List (String × ComponentDecl) → Registry → Prop where
  | start : Reached o [] .empty
  | skip {ds : List (String × ComponentDecl)} {r : Registry} {name : String} {d : ComponentDecl} :
      Reached o ds r → o.isReserved name = true → Reached o (ds ++ [(name, d)]) r
  | add {ds : List (String × ComponentDecl)} {r r' : Registry} {name : String}
      {d : ComponentDecl} :
      Reached o ds r → o.isReserved name = false → name ∉ r.names → r.Adds name d r' →
      Reached o (ds ++ [(name, d)]) r'

theorem assembleOne_ok_iff {o : Options} {r r' : Registry} {name : String} {d : ComponentDecl} :
    assembleOne o r (name, d) = .ok r' ↔
      (o.isReserved name = true ∧ r' = r) ∨
        (o.isReserved name = false ∧ name ∉ r.names ∧ r.Adds name d r') := by
  rw [assembleOne]
  by_cases h : o.isReserved name = true
  · simp [h, eq_comm]
  · rw [if_neg h, mapError_eq_ok_iff, Registry.add_ok_iff]
    simp [h]

theorem assembleOne_error_iff {o : Options} {r : Registry} {name : String} {d : ComponentDecl}
    {e : Diagnostic} :
    assembleOne o r (name, d) = .error e ↔ o.isReserved name = false ∧
      ∃ f, (r.add name d).outcome = .error f ∧ e = .ofFaultIn name f := by
  rw [assembleOne]
  by_cases h : o.isReserved name = true
  · simp [h]
  · rw [if_neg h, mapError_eq_error_iff]
    simp [h]

theorem Reached.run {o : Options} {ds ds' : List (String × ComponentDecl)} {r r' : Registry}
    (h : Reached o ds r) (hr : ds'.foldlM (assembleOne o) r = .ok r') :
    Reached o (ds ++ ds') r' := by
  induction ds' generalizing ds r with
  | nil =>
    cases hr
    simpa using h
  | cons d ds' ih =>
    rw [List.foldlM_cons] at hr
    obtain ⟨r₁, h₁, hr⟩ := bind_eq_ok_iff.1 hr
    have next : Reached o (ds ++ [d]) r₁ := by
      rcases assembleOne_ok_iff.1 h₁ with ⟨hn, rfl⟩ | ⟨hn, hnew, hadd⟩
      · exact .skip h hn
      · exact .add h hn hnew hadd
    simpa [List.append_assoc] using ih next hr

theorem reached_iff_foldlM {o : Options} {ds : List (String × ComponentDecl)} {r : Registry} :
    Reached o ds r ↔ ds.foldlM (assembleOne o) .empty = .ok r := by
  refine ⟨fun h => ?_, fun h => by simpa using Reached.start.run h⟩
  induction h with
  | start => rfl
  | skip _ hn ih =>
    exact foldlM_concat_eq_ok_iff.2 ⟨_, ih, assembleOne_ok_iff.2 (.inl ⟨hn, rfl⟩)⟩
  | add _ hn hnew hadd ih =>
    exact foldlM_concat_eq_ok_iff.2 ⟨_, ih, assembleOne_ok_iff.2 (.inr ⟨hn, hnew, hadd⟩)⟩

theorem reached_iff {o : Options} {ds : List (String × ComponentDecl)} {r : Registry} :
    Reached o ds r ↔ (assembleAll o .empty ds).outcome = .ok r := by
  rw [outcome_assembleAll, reached_iff_foldlM]

end ComponentSpec
