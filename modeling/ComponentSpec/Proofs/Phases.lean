import ComponentSpec.Proofs.Assembly

/-!
# ComponentSpec.Proofs.Phases

A compilation as its phases: the declarations are decoded, all of them are assembled, and then the
references between the components are checked.

* `decode`: the declarations of a text. It fails if any entry of the list does.
* `compile_ok_iff`, `compile_error_iff`: when a compilation succeeds, and in which phase it fails.
-/

namespace ComponentSpec

open Yaml (Node)

/-! ## Decoding -/

namespace ComponentDecl

variable {entries : List Node} {ds : List (String × ComponentDecl)}

theorem outcome_readAll_cons (entry : Node) (entries : List Node) :
    (readAll (entry :: entries)).outcome = (readNamed entry).outcome >>= fun d =>
      (readAll entries).outcome >>= fun ds => .ok (d :: ds) := by
  rw [readAll]
  simp only [Traced.bind_eq, Traced.outcome_andThen, Traced.pure_eq, Traced.outcome_ok]

theorem readAll_ok_iff : (readAll entries).outcome = .ok ds ↔
    entries.map (fun entry => (readNamed entry).outcome) = ds.map .ok := by
  induction entries generalizing ds with
  | nil =>
    constructor
    · intro h
      cases h
      rfl
    · intro h
      rw [List.map_nil, eq_comm, List.map_eq_nil_iff] at h
      rw [h]
      rfl
  | cons entry entries ih =>
    rw [outcome_readAll_cons, bind_eq_ok_iff, List.map_cons]
    constructor
    · rintro ⟨d, hd, h⟩
      obtain ⟨ds, hds, h⟩ := bind_eq_ok_iff.1 h
      cases h
      rw [List.map_cons, hd, ih.1 hds]
    · intro h
      cases ds with
      | nil => cases h
      | cons d ds =>
        obtain ⟨hd, hds⟩ := List.cons.inj h
        exact ⟨d, hd, bind_eq_ok_iff.2 ⟨ds, ih.2 hds, rfl⟩⟩

/-- One entry that cannot be read is enough, wherever it is. -/
theorem readAll_fails_iff : (∃ f, (readAll entries).outcome = .error f) ↔
    ∃ entry ∈ entries, ∃ f, (readNamed entry).outcome = .error f := by
  induction entries with
  | nil =>
    constructor
    · rintro ⟨_, h⟩
      cases h
    · rintro ⟨_, h, -⟩
      cases h
  | cons entry entries ih =>
    rw [outcome_readAll_cons]
    cases hd : (readNamed entry).outcome with
    | error f => exact ⟨fun _ => ⟨entry, List.mem_cons_self, f, hd⟩, fun _ => ⟨f, rfl⟩⟩
    | ok d =>
      have tail : (∃ f, (readAll entries).outcome >>= (fun ds => .ok (d :: ds)) =
          Except.error f) ↔ ∃ f, (readAll entries).outcome = .error f := by
        cases (readAll entries).outcome <;> simp [bind, Except.bind]
      refine tail.trans (ih.trans ?_)
      simp [hd]

end ComponentDecl

/-- The entries of the list of components of a text. -/
def componentEntries (o : Options) (text : String) : Checked (List Node) := do
  declarationEntries (← loadDocument text) o.rootKey

/-- The declarations of a text. -/
def decode (o : Options) (text : String) : Checked (List (String × ComponentDecl)) := do
  (ComponentDecl.readAll (← componentEntries o text)).outcome

theorem outcome_declarations (root : Node) (rootKey : String) :
    (declarations root rootKey).outcome = declarationEntries root rootKey >>= fun entries =>
      (ComponentDecl.readAll entries).outcome := by
  unfold declarations
  rw [Traced.bind_eq, Traced.outcome_andThen, Traced.outcome_lift]

theorem decode_eq (o : Options) (text : String) :
    decode o text = loadDocument text >>= fun root => (declarations root o.rootKey).outcome := by
  unfold decode componentEntries
  cases loadDocument text with
  | error f => rfl
  | ok root => exact (outcome_declarations root o.rootKey).symm

/-! ## All phases -/

variable {o : Options} {text : String} {r : Registry} {e : Diagnostic}

theorem outcome_compileTree (o : Options) (root : Node) :
    (compileTree o root).outcome =
      (declarations root o.rootKey).outcome.mapError .ofFault >>= fun ds =>
        (assembleAll o .empty ds).outcome >>= fun r => checkReferences r >>= fun _ => .ok r := by
  unfold compileTree
  simp only [Traced.bind_eq, Traced.outcome_andThen, Traced.outcome_mapError, Traced.outcome_lift,
    Traced.pure_eq, Traced.outcome_ok]
  rfl

theorem outcome_compile_of_load {root : Node} (h : loadDocument text = .ok root) :
    (compile o text).outcome = (compileTree o root).outcome := by
  unfold compile
  rw [Traced.bind_eq, Traced.outcome_andThen, Traced.outcome_lift, h]
  rfl

theorem outcome_compile (o : Options) (text : String) :
    (compile o text).outcome = (decode o text).mapError .ofFault >>= fun ds =>
      (assembleAll o .empty ds).outcome >>= fun r => checkReferences r >>= fun _ => .ok r := by
  rw [decode_eq]
  cases h : loadDocument text with
  | error f =>
    unfold compile
    rw [Traced.bind_eq, Traced.outcome_andThen, Traced.outcome_lift, h]
    rfl
  | ok root =>
    rw [outcome_compile_of_load h, outcome_compileTree]
    rfl

theorem checkReferences_eq_ok_iff : checkReferences r = .ok () ↔ r.violation? = none := by
  unfold checkReferences
  cases r.violation? <;> simp

theorem checkReferences_eq_error_iff : checkReferences r = .error e ↔ r.violation? = some e := by
  unfold checkReferences
  cases r.violation? <;> simp

theorem compile_ok_iff : (compile o text).outcome = .ok r ↔
    ∃ ds, decode o text = .ok ds ∧ Reached o ds r ∧ r.violation? = none := by
  rw [outcome_compile, bind_eq_ok_iff]
  constructor
  · rintro ⟨ds, hds, h⟩
    obtain ⟨r', hr, h⟩ := bind_eq_ok_iff.1 h
    obtain ⟨_, checked, h⟩ := bind_eq_ok_iff.1 h
    cases h
    exact ⟨ds, mapError_eq_ok_iff.1 hds, reached_iff.2 hr, checkReferences_eq_ok_iff.1 checked⟩
  · rintro ⟨ds, hds, hr, checked⟩
    have last : (checkReferences r >>= fun _ => .ok r) = .ok r :=
      bind_eq_ok_iff.2 ⟨(), checkReferences_eq_ok_iff.2 checked, rfl⟩
    exact ⟨ds, mapError_eq_ok_iff.2 hds, bind_eq_ok_iff.2 ⟨r, reached_iff.1 hr, last⟩⟩

/-- A phase is entered only if all of the one before it succeeds. -/
theorem compile_error_iff : (compile o text).outcome = .error e ↔
    (∃ f, decode o text = .error f ∧ e = .ofFault f) ∨
      ∃ ds, decode o text = .ok ds ∧ ((assembleAll o .empty ds).outcome = .error e ∨
        ∃ r, Reached o ds r ∧ r.violation? = some e) := by
  rw [outcome_compile, bind_eq_error_iff, mapError_eq_error_iff]
  refine or_congr Iff.rfl (exists_congr fun ds => ?_)
  rw [mapError_eq_ok_iff, bind_eq_error_iff]
  refine and_congr_right fun _ => or_congr Iff.rfl (exists_congr fun r => ?_)
  rw [← reached_iff, bind_eq_error_iff, checkReferences_eq_error_iff]
  simp

/-- A failure to assemble is that of the whole compilation. -/
theorem compileTree_of_assembleAll {root : Node} {ds : List (String × ComponentDecl)}
    (hds : (declarations root o.rootKey).outcome = .ok ds)
    (h : (assembleAll o .empty ds).outcome = .error e) :
    (compileTree o root).outcome = .error e := by
  rw [outcome_compileTree, hds]
  exact bind_eq_error_iff.2 (.inr ⟨ds, rfl, bind_eq_error_iff.2 (.inl h)⟩)

end ComponentSpec
