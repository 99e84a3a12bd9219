import ComponentSpec.Proofs.Building
import ComponentSpec.Proofs.Phases
import ComponentSpec.Proofs.Reference

/-!
# ComponentSpec.Proofs.Failure

Which failure of a document is reported, and for which component.

* `Rejects`: a declaration that cannot be added after others. `assembleAll_error_iff`: the first
  one that is rejected decides the failure of the first phase.
* `FailsAt`: the three stages at which a document can fail.
* `compile_failure`: a failed compilation fails at one stage exactly, which determines the kinds of
  the failure and the component that it names.
-/

namespace ComponentSpec

open Yaml (Node)
open Checked (Ensures)

/-- A declaration that cannot be added after others, and its fault: the name has been declared
before, or the declaration cannot be assembled after those. -/
inductive Rejects (o : Options) (before : List (String × ComponentDecl)) (name : String)
    (d : ComponentDecl) : Fault → Prop where
  | repeated {d' : ComponentDecl} : (name, d') ∈ before →
      Rejects o before name d (.duplicateComponent name)
  | faulty {r : Registry} {f : Fault} : (∀ d', (name, d') ∉ before) →
      (assembleAll o .empty before).outcome = .ok r → (assemble r name d).outcome = .error f →
      Rejects o before name d f

/-- None of the declarations is rejected after the ones before it, apart from reserved ones. -/
def AllBuilt (o : Options) (ds : List (String × ComponentDecl)) : Prop :=
  ∀ before name d after, ds = before ++ (name, d) :: after → o.isReserved name = false →
    ∀ f, ¬ Rejects o before name d f

section Assembly

variable {o : Options} {before ds : List (String × ComponentDecl)} {r : Registry} {name : String}
  {d : ComponentDecl} {f : Fault}

theorem Rejects.kind (h : Rejects o before name d f) : f.kind.isCrossReference = false := by
  have early : ∀ k ∈ declarationKinds, k.isCrossReference = false := by decide
  cases h with
  | repeated _ => rfl
  | faulty _ _ hd => exact early _ ((assemble_ensures _ name d).error hd)

theorem Reached.rejects_iff (h : Reached o before r) (hn : o.isReserved name = false) :
    Rejects o before name d f ↔ (r.add name d).outcome = .error f := by
  have bound : ∀ d', (name, d') ∈ before → name ∈ r.names := fun _ => h.coherent.mem_of_declared hn
  rw [Registry.add_error_iff]
  constructor
  · intro rejects
    cases rejects with
    | repeated hd => exact .inl ⟨bound _ hd, rfl⟩
    | faulty new hr hd =>
      have same := (reached_iff.1 h).symm.trans hr
      cases same
      refine .inr ⟨fun hm => ?_, hd⟩
      obtain ⟨d', hd'⟩ := h.coherent.declared_of_mem hm
      exact new d' hd'
  · rintro (⟨hm, rfl⟩ | ⟨hm, hd⟩)
    · obtain ⟨d', hd'⟩ := h.coherent.declared_of_mem hm
      exact .repeated hd'
    · exact .faulty (fun d' hd' => hm (bound d' hd')) (reached_iff.1 h) hd

/-- The first phase goes through exactly if no declaration is rejected. -/
theorem allBuilt_iff : AllBuilt o ds ↔ ∃ r, Reached o ds r := by
  constructor
  · intro built
    cases h : (assembleAll o .empty ds).outcome with
    | ok r => exact ⟨r, reached_iff.2 h⟩
    | error e =>
      -- a run that fails stops at a declaration that is rejected
      rw [outcome_assembleAll] at h
      obtain ⟨before, ⟨name, d⟩, after, r, rfl, hr, hd⟩ := foldlM_eq_error_iff.1 h
      obtain ⟨hn, f, hf, -⟩ := assembleOne_error_iff.1 hd
      have rejects := ((reached_iff_foldlM.2 hr).rejects_iff hn).2 hf
      exact absurd rejects (built before name d after rfl hn f)
  · rintro ⟨r, hr⟩ before name d after rfl hn f rejects
    have run := reached_iff_foldlM.1 hr
    rw [List.foldlM_append] at run
    obtain ⟨r₀, h₀, run⟩ := bind_eq_ok_iff.1 run
    obtain ⟨r₁, h₁, -⟩ := bind_eq_ok_iff.1 run
    have failed := ((reached_iff_foldlM.2 h₀).rejects_iff hn).1 rejects
    have broken := assembleOne_error_iff.2 ⟨hn, f, failed, rfl⟩
    rw [h₁] at broken
    cases broken

/-- The first phase fails with the first declaration that is rejected, whatever comes after it. -/
theorem assembleAll_error_iff {e : Diagnostic} : (assembleAll o .empty ds).outcome = .error e ↔
    ∃ before name d after f, ds = before ++ (name, d) :: after ∧ AllBuilt o before ∧
      o.isReserved name = false ∧ Rejects o before name d f ∧ e = .ofFaultIn name f := by
  rw [outcome_assembleAll, foldlM_eq_error_iff]
  constructor
  · rintro ⟨before, ⟨name, d⟩, after, r, rfl, hr, hd⟩
    obtain ⟨hn, f, hf, he⟩ := assembleOne_error_iff.1 hd
    have reached := reached_iff_foldlM.2 hr
    exact ⟨before, name, d, after, f, rfl, allBuilt_iff.2 ⟨r, reached⟩, hn,
      (reached.rejects_iff hn).2 hf, he⟩
  · rintro ⟨before, name, d, after, f, rfl, built, hn, rejects, he⟩
    obtain ⟨r, reached⟩ := allBuilt_iff.1 built
    exact ⟨before, (name, d), after, r, rfl, reached_iff_foldlM.1 reached,
      assembleOne_error_iff.2 ⟨hn, f, (reached.rejects_iff hn).1 rejects, he⟩⟩

end Assembly

/-! ## Stages -/

/-- Where a document can fail: its entries do not all decode, a declaration is rejected, or a
definition has a violation. -/
inductive Stage where
  | decoding
  | assembly
  | references

/-- The condition for a document to fail at a stage. -/
def FailsAt (o : Options) (text : String) : Stage → Prop
  | .decoding =>
    (∃ f, componentEntries o text = .error f) ∨
      ∃ entries, componentEntries o text = .ok entries ∧
        ∃ entry ∈ entries, ∃ f, (ComponentDecl.readNamed entry).outcome = .error f
  | .assembly => ∃ ds, decode o text = .ok ds ∧ ¬ AllBuilt o ds
  | .references =>
    ∃ ds r, decode o text = .ok ds ∧ (assembleAll o .empty ds).outcome = .ok r ∧
      ∃ b ∈ r.definitions, ¬ b.object.component.IsLinked r

variable {o : Options} {text : String} {ds : List (String × ComponentDecl)} {r : Registry}
  {stage : Stage}

theorem failsAt_decoding_iff : FailsAt o text .decoding ↔ ∃ f, decode o text = .error f := by
  unfold FailsAt decode
  cases componentEntries o text with
  | error f => exact ⟨fun _ => ⟨f, rfl⟩, fun _ => .inl ⟨f, rfl⟩⟩
  | ok entries =>
    refine Iff.trans ?_ ComponentDecl.readAll_fails_iff.symm
    simp

theorem failsAt_iff_decoding {f : Fault} (h : decode o text = .error f) :
    FailsAt o text stage ↔ stage = .decoding := by
  cases stage with
  | decoding => exact iff_of_true (failsAt_decoding_iff.2 ⟨f, h⟩) rfl
  | assembly => simp [FailsAt, h]
  | references => simp [FailsAt, h]

theorem failsAt_iff_assembly (h : decode o text = .ok ds) (built : ¬ AllBuilt o ds) :
    FailsAt o text stage ↔ stage = .assembly := by
  cases stage with
  | decoding =>
    rw [failsAt_decoding_iff, h]
    simp
  | assembly => exact iff_of_true ⟨ds, h, built⟩ rfl
  | references =>
    refine iff_of_false ?_ (by simp)
    rintro ⟨ds', r, h', hr, -⟩
    rw [h] at h'
    cases h'
    exact built (allBuilt_iff.2 ⟨r, reached_iff.2 hr⟩)

theorem failsAt_iff_references (h : decode o text = .ok ds) (hr : Reached o ds r)
    (unlinked : ∃ b ∈ r.definitions, ¬ b.object.component.IsLinked r) :
    FailsAt o text stage ↔ stage = .references := by
  cases stage with
  | decoding =>
    rw [failsAt_decoding_iff, h]
    simp
  | assembly =>
    refine iff_of_false ?_ (by simp)
    rintro ⟨ds', h', built⟩
    rw [h] at h'
    cases h'
    exact built (allBuilt_iff.2 ⟨r, hr⟩)
  | references => exact iff_of_true ⟨ds, r, h, reached_iff.1 hr, unlinked⟩ rfl

/-! ## The failure of each stage -/

/-- The kinds of failures of a text that does not decode. -/
def documentKinds : List Kind := [.malformedText, .invalidDocument]

theorem decode_ensures (o : Options) (text : String) :
    Ensures (fun _ => True) documentKinds (decode o text) := by
  have hm : Kind.malformedText ∈ documentKinds := by decide
  have hk : Kind.invalidDocument ∈ documentKinds := by decide
  have entries : Ensures (fun _ => True) documentKinds (componentEntries o text) :=
    (loadDocument_ensures hm hk text).bind fun root _ =>
      declarationEntries_ensures hk root o.rootKey
  exact entries.bind fun vs _ => ComponentDecl.readAll_ensures hk vs

/-- An entry after some others decides with which failure a document ends, whatever entries come
after it, if they decode. -/
def Decides (o : Options) (before : List Node) (entry : Node) (e : Diagnostic) : Prop :=
  ∀ later, (∀ x ∈ later, ∃ d, (ComponentDecl.readNamed x).outcome = .ok d) →
    ∀ root, declarationEntries root o.rootKey = .ok (before ++ entry :: later) →
      (compileTree o root).outcome = .error e ∧
        ∀ text, loadDocument text = .ok root → (compile o text).outcome = .error e

theorem Rejects.decides {before : List Node} {entry : Node} {decls : List (String × ComponentDecl)}
    {name : String} {d : ComponentDecl} {f : Fault}
    (hbefore : before.map (fun x => (ComponentDecl.readNamed x).outcome) = decls.map .ok)
    (hentry : (ComponentDecl.readNamed entry).outcome = .ok (name, d)) (built : AllBuilt o decls)
    (hn : o.isReserved name = false) (rejects : Rejects o decls name d f) :
    Decides o before entry (.ofFaultIn name f) := by
  intro later decoded root hroot
  -- the entries that come after are read before the first declaration is added, so they must decode
  obtain ⟨ds, hlater⟩ : ∃ ds, (ComponentDecl.readAll later).outcome = .ok ds := by
    cases h : (ComponentDecl.readAll later).outcome with
    | ok ds => exact ⟨ds, rfl⟩
    | error f =>
      obtain ⟨x, hx, f', hf⟩ := ComponentDecl.readAll_fails_iff.1 ⟨f, h⟩
      obtain ⟨d, hd⟩ := decoded x hx
      rw [hf] at hd
      cases hd
  have read : (ComponentDecl.readAll (before ++ entry :: later)).outcome =
      .ok (decls ++ (name, d) :: ds) := by
    rw [ComponentDecl.readAll_ok_iff, List.map_append, List.map_cons, List.map_append,
      List.map_cons, hbefore, hentry, ComponentDecl.readAll_ok_iff.1 hlater]
  have declared : (declarations root o.rootKey).outcome = .ok (decls ++ (name, d) :: ds) := by
    rw [outcome_declarations, hroot]
    exact read
  have failed : (compileTree o root).outcome = .error (.ofFaultIn name f) :=
    compileTree_of_assembleAll declared
      (assembleAll_error_iff.2 ⟨decls, name, d, ds, f, rfl, built, hn, rejects, rfl⟩)
  refine ⟨failed, fun text htext => ?_⟩
  rw [outcome_compile_of_load htext, failed]

/-- The failure of the first declaration that is rejected. -/
def OfFirstRejected (o : Options) (text : String) (e : Diagnostic) : Prop :=
  ∃ before entry after decls name d f,
    componentEntries o text = .ok (before ++ entry :: after) ∧
    before.map (fun x => (ComponentDecl.readNamed x).outcome) = decls.map .ok ∧
    (ComponentDecl.readNamed entry).outcome = .ok (name, d) ∧ AllBuilt o decls ∧
    o.isReserved name = false ∧ Rejects o decls name d f ∧ e = .ofFaultIn name f ∧
    e.component = some name ∧ Decides o before entry e

/-- The failure of the first definition with a violation. -/
def OfFirstUnlinked (o : Options) (text : String) (e : Diagnostic) : Prop :=
  ∃ ds r before b after f, decode o text = .ok ds ∧ (assembleAll o .empty ds).outcome = .ok r ∧
    r.definitions = before ++ b :: after ∧ (∀ b' ∈ before, b'.object.component.IsLinked r) ∧
    ¬ b.object.component.IsLinked r ∧ b.object.component.violation? r b.name = some f ∧
    e = .ofFaultIn b.name f ∧ e.component = some b.name

theorem ofFirstRejected {e : Diagnostic} (h : decode o text = .ok ds)
    (he : (assembleAll o .empty ds).outcome = .error e) :
    OfFirstRejected o text e ∧ e.kind.isCrossReference = false := by
  obtain ⟨decls, name, d, rest, f, rfl, built, hn, rejects, rfl⟩ := assembleAll_error_iff.1 he
  obtain ⟨entries, hentries, read⟩ := bind_eq_ok_iff.1 h
  rw [ComponentDecl.readAll_ok_iff, List.map_append, List.map_cons, List.map_eq_append_iff] at read
  obtain ⟨before, tail, rfl, hbefore, htail⟩ := read
  obtain ⟨entry, after, rfl, hentry, -⟩ := List.map_eq_cons_iff.1 htail
  have decides := rejects.decides hbefore hentry built hn
  exact ⟨⟨before, entry, after, decls, name, d, f, hentries, hbefore, hentry, built, hn, rejects,
    rfl, rfl, decides⟩, rejects.kind⟩

theorem ofFirstUnlinked {e : Diagnostic} (h : decode o text = .ok ds) (hr : Reached o ds r)
    (he : r.violation? = some e) :
    OfFirstUnlinked o text e ∧ e.kind.isCrossReference = true := by
  obtain ⟨before, b, after, f, hdefs, linked, hf, rfl⟩ := Registry.violation?_eq_some_iff.1 he
  have unlinked : ¬ b.object.component.IsLinked r := by
    intro hb
    rw [Component.violation?_eq_none_iff.2 hb] at hf
    cases hf
  exact ⟨⟨ds, r, before, b, after, f, h, reached_iff.1 hr, hdefs, linked, unlinked, hf, rfl, rfl⟩,
    Component.kind_of_violation hf⟩

/-- What the failure of a document says, by the stage. -/
def Reports (o : Options) (text : String) (e : Diagnostic) : Stage → Prop
  | .decoding => e.component = none ∧ e.kind ∈ documentKinds
  | .assembly => OfFirstRejected o text e ∧ e.kind.isCrossReference = false
  | .references => OfFirstUnlinked o text e ∧ e.kind.isCrossReference = true

theorem exists_stage {e : Diagnostic} (h : (compile o text).outcome = .error e) :
    ∃ stage, (∀ s, FailsAt o text s ↔ s = stage) ∧ Reports o text e stage := by
  rcases compile_error_iff.1 h with ⟨f, hf, rfl⟩ | ⟨ds, hds, he | ⟨r, hr, he⟩⟩
  · have kind : f.kind ∈ documentKinds := (decode_ensures o text).error hf
    exact ⟨.decoding, fun _ => failsAt_iff_decoding hf, rfl, kind⟩
  · have unbuilt : ¬ AllBuilt o ds := by
      intro built
      obtain ⟨r, hr⟩ := allBuilt_iff.1 built
      rw [reached_iff.1 hr] at he
      cases he
    exact ⟨.assembly, fun _ => failsAt_iff_assembly hds unbuilt, ofFirstRejected hds he⟩
  · have unlinked : ∃ b ∈ r.definitions, ¬ b.object.component.IsLinked r := by
      by_contra linked
      have none := Registry.violation?_eq_none_iff.2 fun b hb => by
        by_contra hl
        exact linked ⟨b, hb, hl⟩
      rw [he] at none
      cases none
    exact ⟨.references, fun _ => failsAt_iff_references hds hr unlinked,
      ofFirstUnlinked hds hr he⟩

theorem exists_allBuilt_iff : (∃ ds, decode o text = .ok ds ∧ AllBuilt o ds) ↔
    ¬ FailsAt o text .decoding ∧ ¬ FailsAt o text .assembly := by
  rw [failsAt_decoding_iff]
  unfold FailsAt
  cases decode o text <;> simp

/-- A compilation fails at one stage exactly. An entry that does not decode comes before all that
could be said of components, a rejected declaration before all that could be said of references. -/
theorem compile_failure {e : Diagnostic} (h : (compile o text).outcome = .error e) :
    (∃! stage, FailsAt o text stage) ∧
      (∀ stage, FailsAt o text stage → Reports o text e stage) ∧
      (e.kind.isCrossReference = true ↔ ∃ ds, decode o text = .ok ds ∧ AllBuilt o ds) ∧
      (e.component = none ↔ FailsAt o text .decoding) := by
  obtain ⟨stage, only, reports⟩ := exists_stage h
  refine ⟨⟨stage, (only stage).2 rfl, fun s hs => (only s).1 hs⟩, ?_, ?_, ?_⟩
  · intro s hs
    rw [(only s).1 hs]
    exact reports
  · rw [exists_allBuilt_iff, only, only]
    cases stage with
    | decoding =>
      have early : ∀ k ∈ documentKinds, k.isCrossReference = false := by decide
      simp [early _ reports.2]
    | assembly => simp [reports.2]
    | references => simp [reports.2]
  · rw [only]
    cases stage with
    | decoding => simp [reports.1]
    | assembly =>
      obtain ⟨⟨_, _, _, _, name, _, _, -, -, -, -, -, -, -, named, -⟩, -⟩ := reports
      simp [named]
    | references =>
      obtain ⟨⟨_, _, _, b, _, _, -, -, -, -, -, -, -, named⟩, -⟩ := reports
      simp [named]

/-- A name that is declared again, as the alias of a component that does not exist. -/
def twiceText : String :=
  "components:\n- A:\n   statemachine:\n    states: [S]\n    start: S\n" ++
  "- B:\n   using: A\n- B:\n   using: C"

theorem twice_fails_at_assembly : ∃ e, (compile .standard twiceText).outcome = .error e ∧
    e.kind = .duplicateComponent ∧ OfFirstRejected .standard twiceText e := by
  have h : (compile .standard twiceText).outcome =
      .error ⟨.duplicateComponent, "component B is declared more than once", some "B"⟩ := by
    decide +kernel
  obtain ⟨⟨stage, fails, -⟩, reports, -, unnamed⟩ := compile_failure h
  cases stage with
  | decoding => cases unnamed.2 fails
  | assembly => exact ⟨_, h, rfl, (reports .assembly fails).1⟩
  | references => exact absurd (reports .references fails).2 (by decide)

end ComponentSpec
