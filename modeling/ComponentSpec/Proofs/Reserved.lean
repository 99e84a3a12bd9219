import ComponentSpec.Proofs.Resolution

/-!
# ComponentSpec.Proofs.Reserved

Entries under reserved names. They are decoded like all others, and after that nothing of them is
looked at.

* `IsDeclaration`: the bodies that decode.
* `compileEntries_reserved`: a document with a reserved entry, in terms of the one without it.
* `compile_reserved`: the entry does not count, or its body is what the document fails with.
* `reserved_body_counts`: the second case does arise.
-/

namespace ComponentSpec

open Yaml (Node)

variable {o : Options} {before after : List Node} {entry key body : Node} {name : String}

/-! ## The first phase -/

/-- A reserved declaration leaves no trace in the registries of the first phase. -/
theorem outcome_assembleAll_reserved (hr : o.isReserved name = true) (r : Registry)
    (ds ds' : List (String × ComponentDecl)) (d : ComponentDecl) :
    (assembleAll o r (ds ++ (name, d) :: ds')).outcome = (assembleAll o r (ds ++ ds')).outcome := by
  have skipped : ∀ r₀, assembleOne o r₀ (name, d) = .ok r₀ := fun r₀ =>
    assembleOne_ok_iff.2 (.inl ⟨hr, rfl⟩)
  rw [outcome_assembleAll, outcome_assembleAll, List.foldlM_append, List.foldlM_append]
  simp only [List.foldlM_cons, skipped]
  rfl

/-! ## Decoding -/

/-- A body that declares a component: it has a name under `using`, or no `using` but a
`statemachine`. -/
def IsDeclaration (body : Node) : Prop :=
  ∃ fields, body.asMapping? = some fields ∧
    ((∃ v, fields.get? "using" = some v ∧ (scalarText? v).isSome) ∨
      (fields.get? "using" = none ∧ (fields.field? "statemachine").isSome))

theorem isDeclaration_iff :
    IsDeclaration body ↔ ∃ d, (ComponentDecl.read name body).outcome = .ok d := by
  simp only [IsDeclaration, read_ok_iff, Option.isSome_iff_exists]
  constructor
  · rintro ⟨fields, hm, ⟨v, hu, target, ht⟩ | ⟨hu, hs⟩⟩
    · exact ⟨.uses target, fields, hm, .inl ⟨v, target, hu, ht, rfl⟩⟩
    · exact ⟨.definition fields, fields, hm, .inr ⟨hu, hs, rfl⟩⟩
  · rintro ⟨d, fields, hm, ⟨v, target, hu, ht, -⟩ | ⟨hu, hs, -⟩⟩
    · exact ⟨fields, hm, .inl ⟨v, hu, target, ht⟩⟩
    · exact ⟨fields, hm, .inr ⟨hu, hs⟩⟩

theorem outcome_readNamed (hm : entry.asMapping? = some [(key, body)])
    (hk : scalarText? key = some name) :
    (ComponentDecl.readNamed entry).outcome =
      (ComponentDecl.read name body).outcome >>= fun d => .ok (name, d) := by
  have single : singleEntry [(key, body)] "component entry" = .ok (name, body) :=
    singleEntry_ok_iff.2 ⟨key, rfl, hk⟩
  unfold ComponentDecl.readNamed
  simp only [Traced.bind_eq, Traced.outcome_andThen, Traced.outcome_lift, asMapping_ok_iff.2 hm]
  change (singleEntry [(key, body)] "component entry" >>= _) = _
  rw [single]
  rfl

theorem outcome_readAll_append (xs ys : List Node) :
    (ComponentDecl.readAll (xs ++ ys)).outcome = (ComponentDecl.readAll xs).outcome >>= fun ds =>
      (ComponentDecl.readAll ys).outcome >>= fun ds' => .ok (ds ++ ds') := by
  induction xs with
  | nil =>
    change (ComponentDecl.readAll ys).outcome = (ComponentDecl.readAll ys).outcome >>= Except.ok
    exact (bind_pure _).symm
  | cons x xs ih =>
    rw [List.cons_append, ComponentDecl.outcome_readAll_cons, ComponentDecl.outcome_readAll_cons,
      ih]
    cases (ComponentDecl.readNamed x).outcome with
    | error f => rfl
    | ok d =>
      cases (ComponentDecl.readAll xs).outcome with
      | error f => rfl
      | ok ds => cases (ComponentDecl.readAll ys).outcome <;> rfl

/-! ## Documents -/

theorem outcome_compileTree_of_entries {root : Node} {entries : List Node}
    (h : declarationEntries root o.rootKey = .ok entries) :
    (compileTree o root).outcome = compileEntries o entries := by
  rw [outcome_compileTree, outcome_declarations, h]
  rfl

/-- What comes before a reserved entry is decoded first, then its body, and the rest is as if the
entry were not there. -/
theorem compileEntries_reserved (hm : entry.asMapping? = some [(key, body)])
    (hk : scalarText? key = some name) (hr : o.isReserved name = true) :
    compileEntries o (before ++ entry :: after) =
      (ComponentDecl.readAll before).outcome.mapError .ofFault >>= fun _ =>
        (ComponentDecl.read name body).outcome.mapError .ofFault >>= fun _ =>
          compileEntries o (before ++ after) := by
  unfold compileEntries
  rw [outcome_readAll_append, outcome_readAll_append, ComponentDecl.outcome_readAll_cons,
    outcome_readNamed hm hk]
  cases (ComponentDecl.readAll before).outcome with
  | error f => rfl
  | ok ds =>
    cases (ComponentDecl.read name body).outcome with
    | error f => rfl
    | ok d =>
      cases (ComponentDecl.readAll after).outcome with
      | error f => rfl
      | ok ds' =>
        change ((assembleAll o .empty (ds ++ (name, d) :: ds')).outcome >>= _) =
          (assembleAll o .empty (ds ++ ds')).outcome >>= _
        rw [outcome_assembleAll_reserved hr]

theorem compileEntries_of_unreadable {f : Fault}
    (h : (ComponentDecl.readAll before).outcome = .error f) (after : List Node) :
    compileEntries o (before ++ after) = .error (.ofFault f) := by
  unfold compileEntries
  rw [outcome_readAll_append, h]
  rfl

/-- A reserved entry does not count for the outcome of a document if its body is a declaration: it
may be left out, or its body replaced by that of any other declaration. A body that is no declaration
is what the document fails with, unless an entry before it cannot be read either. -/
theorem compile_reserved {root root' rest entry' body' : Node}
    (h : declarationEntries root o.rootKey = .ok (before ++ entry :: after))
    (h' : declarationEntries root' o.rootKey = .ok (before ++ entry' :: after))
    (without : declarationEntries rest o.rootKey = .ok (before ++ after))
    (hm : entry.asMapping? = some [(key, body)]) (hm' : entry'.asMapping? = some [(key, body')])
    (hk : scalarText? key = some name) (hr : o.isReserved name = true) :
    (IsDeclaration body → (compileTree o root).outcome = (compileTree o rest).outcome) ∧
    (IsDeclaration body → IsDeclaration body' →
      (compileTree o root).outcome = (compileTree o root').outcome) ∧
    (∀ f, (ComponentDecl.readAll before).outcome = .error f →
      (compileTree o root).outcome = .error (.ofFault f) ∧
        (compileTree o rest).outcome = .error (.ofFault f)) ∧
    (∀ ds, (ComponentDecl.readAll before).outcome = .ok ds → ¬ IsDeclaration body →
      ∃ f, (ComponentDecl.read name body).outcome = .error f ∧
        (compileTree o root).outcome = .error (.ofFault f)) := by
  rw [outcome_compileTree_of_entries h, outcome_compileTree_of_entries h',
    outcome_compileTree_of_entries without]
  have skipped : ∀ {x b}, x.asMapping? = some [(key, b)] → IsDeclaration b →
      compileEntries o (before ++ x :: after) = compileEntries o (before ++ after) := by
    intro x b hx declared
    obtain ⟨d, hd⟩ : ∃ d, (ComponentDecl.read name b).outcome = .ok d :=
      isDeclaration_iff.1 declared
    rw [compileEntries_reserved hx hk hr, hd]
    cases hb : (ComponentDecl.readAll before).outcome with
    | error f => rw [compileEntries_of_unreadable hb]; rfl
    | ok ds => rfl
  refine ⟨skipped hm, ?_, ?_, ?_⟩
  · intro declared declared'
    rw [skipped hm declared, skipped hm' declared']
  · intro f hf
    exact ⟨compileEntries_of_unreadable hf _, compileEntries_of_unreadable hf _⟩
  · intro ds hds undeclared
    rw [compileEntries_reserved hm hk hr, hds]
    cases hb : (ComponentDecl.read name body).outcome with
    | ok d => exact absurd (isDeclaration_iff.2 ⟨d, hb⟩) undeclared
    | error f => exact ⟨f, rfl, rfl⟩

/-- A document with these entries in its list of components. -/
def documentOf (entries : List Node) : Node := .mapping [(.text "components", .sequence entries)]

/-- An entry with a body. -/
def entryOf (name : String) (body : Node) : Node := .mapping [(.text name, body)]

/-- A body that is no declaration: it has commands, but no `statemachine`. -/
def partialBody : Node :=
  .mapping [(.text "interface", .mapping [(.text "commands", .sequence [.text "Stop"])])]

/-- An alias of nothing does no harm under a reserved name. A body that is no declaration does, even
there. -/
theorem reserved_link_skipped :
    (compileTree .standard (documentOf
        [entryOf "_Spare" (.mapping [(.text "using", .text "Nobody")]),
          entryOf "Lamp" (.mapping plainFields)])).outcome =
      (compileTree .standard (documentOf [entryOf "Lamp" (.mapping plainFields)])).outcome ∧
    (compileTree .standard (documentOf
        [entryOf "_Spare" partialBody, entryOf "Lamp" (.mapping plainFields)])).outcome =
      .error ⟨.invalidDocument, "component _Spare is missing 'statemachine'", none⟩ := by
  have link : IsDeclaration (.mapping [(.text "using", .text "Nobody")]) :=
    ⟨_, rfl, .inl ⟨_, rfl, rfl⟩⟩
  have parts : ¬ IsDeclaration partialBody := by
    rintro ⟨_, ⟨⟩, ⟨_, hu, -⟩ | ⟨-, hs⟩⟩
    · cases hu
    · cases hs
  have entries : ∀ bodies : List (String × Node),
      declarationEntries (documentOf (bodies.map fun b => entryOf b.1 b.2)) "components" =
        .ok (bodies.map fun b => entryOf b.1 b.2) := fun _ => rfl
  have law := fun body body' =>
    @compile_reserved .standard [] [entryOf "Lamp" (.mapping plainFields)]
      (entryOf "_Spare" body) (.text "_Spare") body "_Spare" _ _ _ (entryOf "_Spare" body') body'
      (entries [("_Spare", body), ("Lamp", .mapping plainFields)])
      (entries [("_Spare", body'), ("Lamp", .mapping plainFields)])
      (entries [("Lamp", .mapping plainFields)]) rfl rfl rfl rfl
  obtain ⟨skipped, -⟩ := law (.mapping [(.text "using", .text "Nobody")]) partialBody
  obtain ⟨-, -, -, reported⟩ := law partialBody partialBody
  obtain ⟨f, hf, fails⟩ := reported [] rfl parts
  cases hf
  exact ⟨skipped link, fails⟩

/-- The body of a reserved entry is not always without effect: one that is no declaration fails a
document that would compile with another body, or without the entry. -/
theorem reserved_body_counts :
    ¬ ∀ (o : Options) (root root' : Node) (before after : List Node)
        (entry entry' key body body' : Node) (name : String),
      declarationEntries root o.rootKey = .ok (before ++ entry :: after) →
      declarationEntries root' o.rootKey = .ok (before ++ entry' :: after) →
      entry.asMapping? = some [(key, body)] → entry'.asMapping? = some [(key, body')] →
      scalarText? key = some name → o.isReserved name = true →
      (compileTree o root).outcome = (compileTree o root').outcome := by
  intro claim
  have same := claim .standard
    (documentOf [entryOf "_Template" partialBody, entryOf "Lamp" (.mapping plainFields)])
    (documentOf [entryOf "_Template" (.mapping plainFields), entryOf "Lamp" (.mapping plainFields)])
    [] [entryOf "Lamp" (.mapping plainFields)] _ _ (.text "_Template") partialBody
    (.mapping plainFields) "_Template" rfl rfl rfl rfl rfl rfl
  have fails : (compileTree .standard (documentOf [entryOf "_Template" partialBody,
      entryOf "Lamp" (.mapping plainFields)])).outcome =
        .error ⟨.invalidDocument, "component _Template is missing 'statemachine'", none⟩ := by
    decide +kernel
  have compiles : (compileTree .standard (documentOf [entryOf "_Template" (.mapping plainFields),
      entryOf "Lamp" (.mapping plainFields)])).outcome.toOption.map Registry.names =
        some ["Lamp"] := by
    decide +kernel
  rw [← same, fails] at compiles
  cases compiles

end ComponentSpec
