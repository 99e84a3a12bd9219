import ComponentSpec.Proofs.Forms
import ComponentSpec.Proofs.Reserved

/-!
# ComponentSpec.Proofs.Untagging

Tags on the values of a document. Some readers look through them and others fail on them, but none
takes a tagged value for anything else than the value itself.

* `asMapping?_untag`, `asText?_untag`, `field?_untagEntries`: what is seen of a document without its
  tags.
* `alike_untag`: in every form, a value without tags is read like the tagged one.
* `compileTree_untag`: so a document that compiles also does without its tags.
-/

namespace ComponentSpec

open Yaml (Node Mapping)

/-! ## Views -/

namespace Yaml.Node

theorem untagAll_eq (vs : List Node) : untagAll vs = vs.map untag := by
  induction vs with
  | nil => rfl
  | cons v vs ih => rw [untagAll, ih, List.map_cons]

@[simp] theorem isNull_untag (v : Node) : v.untag.isNull = v.isNull := by
  cases v with
  | tagged _ v => exact isNull_untag v
  | _ => rfl

theorem asMapping?_untag (v : Node) : v.untag.asMapping? = v.asMapping?.map untagEntries := by
  cases v with
  | tagged _ v => exact asMapping?_untag v
  | _ => rfl

theorem asText?_untag (v : Node) : v.untag.asText? = v.asText? := by
  cases v with
  | tagged _ v => exact asText?_untag v
  | _ => rfl

end Yaml.Node

namespace Yaml.Mapping

open Yaml.Node

theorem get?_untagEntries (m : Mapping) (key : String) :
    get? (untagEntries m) key = (get? m key).map untag := by
  induction m with
  | nil => rfl
  | cons e m ih =>
    obtain ⟨k, v⟩ := e
    cases k with
    | text s =>
      simp only [untagEntries, get?]
      split
      · rfl
      · exact ih
    | _ => exact ih

theorem field?_untagEntries (m : Mapping) (key : String) :
    field? (untagEntries m) key = (m.field? key).map untag := by
  rw [field?, field?, get?_untagEntries, Option.filter_map]
  congr 2
  funext v
  simp

end Yaml.Mapping

/-! ## Readers -/

/-- A name or literal has no tags. -/
theorem untag_of_scalarText? {v : Node} (h : (scalarText? v).isSome) : v.untag = v := by
  cases v <;> first | rfl | cases h

theorem untag_of_literal? {v : Node} (h : (literal? v).isSome) : v.untag = v := by
  cases v <;> first | rfl | cases h

/-- The second value is the first one without tags. -/
abbrev Untagged (v w : Node) : Prop := w = v.untag

theorem optionRel_untag {R : Node → Node → Prop} (h : ∀ v, R v v.untag) (a : Option Node) :
    Option.Rel R a (a.map Node.untag) := by
  cases a with
  | none => exact .none
  | some v => exact .some (h v)

theorem asSequence_untag (v : Node) (what : String) :
    Follows True (List.Forall₂ Untagged) (asSequence v what) (asSequence v.untag what) := by
  cases v with
  | null => exact .ok .nil
  | sequence vs =>
    refine .ok ?_
    rw [Node.untagAll_eq, List.forall₂_map_right_iff]
    exact List.forall₂_same.2 fun _ _ => rfl
  | _ => exact .lenient trivial _ _

theorem asName_untag (v : Node) (what : String) :
    Follows True Eq (asName v what) (asName v.untag what) := by
  refine .of_ok fun name h => ⟨name, ?_, rfl⟩
  rw [untag_of_scalarText? (by rw [asName_ok_iff.1 h]; rfl), h]

theorem plainAlike_untag (v : Node) : PlainAlike True v v.untag where
  name what := asName_untag v what
  names what := by
    refine (asSequence_untag v what).bind fun vs ws items => readAll_follows_eq ?_ items
    rintro v _ rfl
    exact asName_untag v _
  literal what := by
    refine .of_ok fun l h => ⟨l, ?_, rfl⟩
    unfold asLiteral at h ⊢
    cases hl : literal? v with
    | none =>
      rw [hl] at h
      cases h
    | some l' =>
      rw [hl] at h
      rw [untag_of_literal? (by rw [hl]; rfl), hl]
      exact h
  boolean what := by
    cases v with
    | boolean b => exact .ok rfl
    | _ => exact .lenient trivial _ _
  text := (v.asText?_untag).symm

theorem singleEntry_untag (m : Mapping) (what : String) :
    Follows True (fun e e' => e.1 = e'.1 ∧ Untagged e.2 e'.2) (singleEntry m what)
      (singleEntry (Node.untagEntries m) what) := by
  refine .of_ok fun ⟨name, body⟩ h => ?_
  obtain ⟨key, rfl, hk⟩ := singleEntry_ok_iff.1 h
  exact ⟨(name, body.untag), singleEntry_ok_iff.2 ⟨key, rfl, hk⟩, rfl, rfl⟩

theorem readFields_untag {R : Mapping → Mapping → Prop} (h : ∀ m, R m (Node.untagEntries m))
    (kind : Kind) (what name : String) (body : Node) :
    Follows True (Option.Rel R) (Entry.readFields kind what name body)
      (Entry.readFields kind what name body.untag) := by
  refine .of_ok fun fields hb => ?_
  rcases Entry.readFields_ok_iff.1 hb with ⟨rfl, rfl⟩ | ⟨m, hm, rfl⟩
  · exact ⟨none, rfl, .none⟩
  · refine ⟨some (Node.untagEntries m), Entry.readFields_ok_iff.2 (.inr ⟨_, ?_, rfl⟩), .some (h m)⟩
    rw [Node.asMapping?_untag, hm]
    rfl

theorem asMappingOr_untag (kind : Kind) (v : Node) (what : String) :
    Follows True (fun m m' => m' = Node.untagEntries m) (asMappingOr kind v what)
      (asMappingOr kind v.untag what) := by
  unfold asMappingOr
  rw [Node.asMapping?_untag]
  cases v.asMapping? with
  | none => exact .lenient trivial _ _
  | some m => exact .ok rfl

theorem fieldsAlike_untag {known : List String} {alike : String → Node → Node → Prop}
    (h : ∀ key v, alike key v v.untag) (m : Mapping) :
    FieldsAlike known alike m (Node.untagEntries m) := by
  intro key _
  rw [Mapping.field?_untagEntries]
  exact optionRel_untag (h key) _

/-- In every form, a value is read alike without its tags, unless it cannot be read with them. -/
theorem alike_untag (f : Form) (v : Node) : Alike True f v v.untag := by
  induction f generalizing v with
  | plain => exact plainAlike_untag v
  | fields known form ih =>
    refine fun kind what => (asMappingOr_untag kind v what).mono ?_
    rintro m _ rfl
    exact fieldsAlike_untag ih m
  | entry optional known form ih =>
    have fields := @fieldsAlike_untag known _ ih
    intro kind what
    cases v with
    | mapping m =>
      refine (singleEntry_untag m what).bind ?_
      rintro ⟨name, body⟩ ⟨_, _⟩ ⟨rfl, rfl⟩
      refine (readFields_untag fields kind what name body).bind fun m m' related => .ok ?_
      exact .named (fields []) related optional name
    | null | sequence _ | tagged _ _ => exact .lenient trivial _ _
    | _ => exact .refl (EntriesAlike.refl (FieldsAlike.refl fun key => .refl (form key)) optional) _
  | items item ih =>
    refine fun what => (asSequence_untag v what).mono fun vs ws items => items.imp ?_
    rintro v _ rfl
    exact ih v

/-! ## Documents -/

theorem bodiesAlike_untag (m : Mapping) : BodiesAlike True m (Node.untagEntries m) := by
  have using? := Mapping.get?_untagEntries m "using"
  cases hm : m.get? "using" with
  | some v =>
    rw [hm] at using?
    exact .uses hm using? (alike_untag .plain v)
  | none =>
    rw [hm] at using?
    exact .definition hm using? (fieldsAlike_untag (fun key => alike_untag _) m)

theorem componentEntriesAlike_untag (entry : Node) :
    ComponentEntriesAlike True entry entry.untag := by
  unfold ComponentEntriesAlike ComponentDecl.readNamed
  refine Follows.andThen (asMappingOr_untag _ entry _) ?_
  rintro m _ rfl
  refine Follows.andThen (singleEntry_untag m _) ?_
  rintro ⟨name, body⟩ ⟨_, _⟩ ⟨rfl, rfl⟩
  have bodies : ∀ what, Follows True (BodiesAlike True) (asMapping body what)
      (asMapping body.untag what) := by
    refine fun what => (asMappingOr_untag _ body what).mono ?_
    rintro m _ rfl
    exact bodiesAlike_untag m
  refine Follows.andThen (ComponentDecl.read_follows name bodies) fun d d' h => ?_
  exact .ok ⟨rfl, h⟩

theorem componentListsAlike_untag (list : Node) : ComponentListsAlike True list list.untag := by
  refine fun what => (asSequence_untag list what).mono fun vs ws items => items.imp ?_
  rintro v _ rfl
  exact componentEntriesAlike_untag v

theorem declarationEntries_untag (root : Node) (rootKey : String) :
    Follows True (List.Forall₂ (ComponentEntriesAlike True)) (declarationEntries root rootKey)
      (declarationEntries root.untag rootKey) := by
  refine declarationEntries_follows ((asMappingOr_untag _ root _).mono ?_)
  rintro m _ rfl
  rw [Mapping.get?_untagEntries]
  exact optionRel_untag componentListsAlike_untag _

/-- A document that compiles gives the same components without the tags on its values. -/
theorem compileTree_untag (o : Options) (root : Node) (r : Registry)
    (h : (compileTree o root).outcome = .ok r) : (compileTree o root.untag).outcome = .ok r :=
  (compileTree_follows o (declarationEntries_untag root o.rootKey)).ok_of_eq_ok h

/-- Tags on the document, a component, its interface, a type and an empty section. -/
def taggedDocument : Node :=
  let property := Node.mapping
    [(.text "Level", .tagged "spec" (.mapping [(.text "type", .tagged "unit" (.text "byte[2]"))]))]
  let interface := Node.tagged "face" (.mapping [(.text "properties", .sequence [property])])
  let body := (.text "interface", interface) ::
    (.text "utilization", .tagged "later" .null) :: plainFields
  .tagged "doc" (documentOf [.tagged "part" (entryOf "Lamp" (.tagged "body" (.mapping body)))])

theorem taggedDocument_untagged : ∃ r, (compileTree .standard taggedDocument).outcome = .ok r ∧
    taggedDocument.untag ≠ taggedDocument ∧
    (compileTree .standard taggedDocument.untag).outcome = .ok r := by
  have built : (compileTree .standard taggedDocument).outcome.toOption.map Registry.names =
      some ["Lamp"] := by
    decide +kernel
  obtain ⟨r, hr, -⟩ := exists_ok_of_toOption_map built
  exact ⟨r, hr, by decide +kernel, compileTree_untag _ _ r hr⟩

end ComponentSpec
