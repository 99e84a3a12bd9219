import ComponentSpec.Declaration.Document
import ComponentSpec.Declaration.Message
import ComponentSpec.Declaration.Transition
import ComponentSpec.Proofs.Outcome

/-!
# ComponentSpec.Proofs.Reading

What the readers of a document guarantee: which kinds of faults each of them has, and what holds of
the messages that it gives. One statement for each reader, in the order of the readers.

`asMapping_ok_iff`, `asName_ok_iff`, `requiredField_ok_iff`, `singleEntry_ok_iff` and
`Entry.readFields_ok_iff` say when a reader gives a value, and `listedNames_of_asNames` which names a
list of names gives.

A reader of plain values fails with `invalidDocument` alone, so its statement holds for every list
of kinds with that one in it.
-/

namespace ComponentSpec

open Yaml (Node Mapping)
open Checked (Ensures)

variable {kinds : List Kind}

/-! ## Fields -/

theorem requiredField_ensures (hk : .invalidDocument ∈ kinds) (m : Mapping) (key what : String) :
    Ensures (fun _ => True) kinds (requiredField m key what) := by
  unfold requiredField
  split
  · trivial
  · exact hk

theorem asMappingOr_ensures {kind : Kind} (hk : kind ∈ kinds) (v : Node) (what : String) :
    Ensures (fun _ => True) kinds (asMappingOr kind v what) := by
  unfold asMappingOr
  split
  · trivial
  · exact hk

theorem asMapping_ensures (hk : .invalidDocument ∈ kinds) (v : Node) (what : String) :
    Ensures (fun _ => True) kinds (asMapping v what) := asMappingOr_ensures hk v what

theorem asSequence_ensures (hk : .invalidDocument ∈ kinds) (v : Node) (what : String) :
    Ensures (fun _ => True) kinds (asSequence v what) := by
  unfold asSequence
  split
  · trivial
  · trivial
  · exact hk

theorem asName_ensures (hk : .invalidDocument ∈ kinds) (v : Node) (what : String) :
    Ensures (fun _ => True) kinds (asName v what) := by
  unfold asName
  split
  · trivial
  · exact hk

theorem asLiteral_ensures (hk : .invalidDocument ∈ kinds) (v : Node) (what : String) :
    Ensures (fun _ => True) kinds (asLiteral v what) := by
  unfold asLiteral
  split
  · trivial
  · exact hk

theorem asBoolean_ensures (hk : .invalidDocument ∈ kinds) (v : Node) (what : String) :
    Ensures (fun _ => True) kinds (asBoolean v what) := by
  unfold asBoolean
  split
  · trivial
  · exact hk

theorem optionalField_ensures {α : Type} {read : Node → String → Checked α}
    (h : ∀ v what, Ensures (fun _ => True) kinds (read v what)) (m : Mapping) (key what : String) :
    Ensures (fun _ => True) kinds (optionalField read m key what) := by
  unfold optionalField
  split
  · trivial
  · exact (h _ _).map fun _ _ => trivial

theorem optionalName_ensures (hk : .invalidDocument ∈ kinds) (m : Mapping) (key what : String) :
    Ensures (fun _ => True) kinds (optionalName m key what) :=
  optionalField_ensures (asName_ensures hk) m key what

theorem optionalBoolean_ensures (hk : .invalidDocument ∈ kinds) (m : Mapping) (key what : String) :
    Ensures (fun _ => True) kinds (optionalBoolean m key what) :=
  optionalField_ensures (asBoolean_ensures hk) m key what

theorem optionalLiteral_ensures (hk : .invalidDocument ∈ kinds) (m : Mapping) (key what : String) :
    Ensures (fun _ => True) kinds (optionalLiteral m key what) :=
  optionalField_ensures (asLiteral_ensures hk) m key what

/-- What holds of each item that is read holds of all of them. -/
theorem readAll_ensures {α : Type} {read : Node → Checked α} {post : α → Prop}
    (h : ∀ v, Ensures post kinds (read v)) (vs : List Node) :
    Ensures (fun as => ∀ a ∈ as, post a) kinds (readAll read vs) := by
  induction vs with
  | nil =>
    intro a ha
    cases ha
  | cons v vs ih =>
    rw [readAll]
    refine (h v).bind fun a ha => ih.bind fun as has => ?_
    intro b hb
    rcases List.mem_cons.1 hb with rfl | hb
    · exact ha
    · exact has b hb

theorem asNames_ensures (hk : .invalidDocument ∈ kinds) (v : Node) (what : String) :
    Ensures (fun _ => True) kinds (asNames v what) :=
  (asSequence_ensures hk v what).bind fun vs _ =>
    (readAll_ensures (fun v => asName_ensures hk v _) vs).mono (fun _ _ => trivial) fun _ h => h

theorem singleEntry_ensures (hk : .invalidDocument ∈ kinds) (m : Mapping) (what : String) :
    Ensures (fun _ => True) kinds (singleEntry m what) := by
  unfold singleEntry
  split
  · exact (asName_ensures hk _ _).map fun _ _ => trivial
  · exact hk
  · exact hk

/-! ### Results -/

theorem asMapping_ok_iff {v : Node} {what : String} {m : Mapping} :
    asMapping v what = .ok m ↔ v.asMapping? = some m := by
  rw [asMapping, asMappingOr]
  cases v.asMapping? <;> simp

theorem asName_ok_iff {v : Node} {what name : String} :
    asName v what = .ok name ↔ scalarText? v = some name := by
  rw [asName]
  cases scalarText? v <;> simp [unexpected]

theorem requiredField_ok_iff {m : Mapping} {key what : String} {v : Node} :
    requiredField m key what = .ok v ↔ m.field? key = some v := by
  rw [requiredField]
  cases m.field? key <;> simp

/-- The names in a list, without the items that are none. -/
def listedNames : Node → List String
  | .sequence items => items.filterMap scalarText?
  | _ => []

theorem listedNames_of_asNames {v : Node} {what : String} {names : List String}
    (h : asNames v what = .ok names) : listedNames v = names := by
  have items : ∀ {vs : List Node} {ns : List String},
      readAll (fun x => asName x ("entry of " ++ what)) vs = .ok ns →
        vs.filterMap scalarText? = ns := by
    intro vs
    induction vs with
    | nil =>
      intro ns h
      cases h
      rfl
    | cons v vs ih =>
      intro ns h
      obtain ⟨n, hn, h⟩ := bind_eq_ok_iff.1 h
      obtain ⟨ns', hns, h⟩ := bind_eq_ok_iff.1 h
      cases h
      rw [List.filterMap_cons_some (asName_ok_iff.1 hn), ih hns]
  obtain ⟨vs, hvs, h⟩ := bind_eq_ok_iff.1 h
  unfold asSequence at hvs
  split at hvs
  · cases hvs
    exact items h
  · cases hvs
    exact items h
  · cases hvs

theorem singleEntry_ok_iff {m : Mapping} {what name : String} {body : Node} :
    singleEntry m what = .ok (name, body) ↔
      ∃ key, m = [(key, body)] ∧ scalarText? key = some name := by
  match m with
  | [] => simp [singleEntry]
  | [(key, v)] =>
    rw [singleEntry, map_eq_ok_iff]
    simp only [asName_ok_iff, Prod.mk.injEq, List.cons.injEq, and_true]
    constructor
    · rintro ⟨_, hk, rfl, rfl⟩
      exact ⟨key, ⟨rfl, rfl⟩, hk⟩
    · rintro ⟨_, ⟨rfl, rfl⟩, hk⟩
      exact ⟨name, hk, rfl, rfl⟩
  | _ :: _ :: _ => simp [singleEntry]

/-! ## Entries -/

theorem Entry.readFields_ok_iff {bodyKind : Kind} {what name : String} {body : Node}
    {fields : Option Mapping} : readFields bodyKind what name body = .ok fields ↔
      (body = .null ∧ fields = none) ∨ ∃ m, body.asMapping? = some m ∧ fields = some m := by
  have other : ∀ v : Node, (asMappingOr bodyKind v ("fields of " ++ what ++ " " ++ name)).map some =
      .ok fields ↔ ∃ m, v.asMapping? = some m ∧ fields = some m := by
    intro v
    rw [map_eq_ok_iff, asMappingOr]
    cases v.asMapping? <;> simp [eq_comm]
  cases body with
  | null => simp [readFields, Node.asMapping?, eq_comm]
  | _ => simp [readFields, other]

theorem Entry.readAs_ensures {bodyKind : Kind} (hk : .invalidDocument ∈ kinds)
    (hb : bodyKind ∈ kinds) (v : Node) (what : String) :
    Ensures (fun _ => True) kinds (Entry.readAs bodyKind v what) := by
  unfold Entry.readAs
  split
  · rename_i m
    refine (singleEntry_ensures hk m what).bind fun ⟨name, body⟩ _ => ?_
    have fields : Ensures (fun _ => True) kinds (readFields bodyKind what name body) := by
      unfold readFields
      split
      · trivial
      · exact (asMappingOr_ensures hb _ _).map fun _ _ => trivial
    exact fields.bind fun _ _ => trivial
  · exact (asName_ensures hk _ _).map fun _ _ => trivial

theorem Entry.read_ensures (hk : .invalidDocument ∈ kinds) (v : Node) (what : String) :
    Ensures (fun _ => True) kinds (Entry.read v what) := Entry.readAs_ensures hk hk v what

/-! ## Types -/

theorem readCardinality_pos {rest : List Char} {n : UInt32} (h : readCardinality rest = .ok n) :
    0 < n.toNat := by
  unfold readCardinality at h
  split at h
  · cases h
  · dsimp only at h
    split at h
    · cases h
    · split at h
      · cases h
      · rename_i small
        split at h
        · cases h
        · rename_i nonzero
          cases h
          rw [UInt32.toNat_ofNat_of_lt' (by omega)]
          omega

theorem readTrimmedType_pos {cs : List Char} {t : TypeDeclaration}
    (h : readTrimmedType cs = .ok t) : 0 < t.cardinality.toNat := by
  unfold readTrimmedType at h
  dsimp only at h
  split at h
  · cases hp : readPrimitive (cs.takeWhile (· ≠ '[')) with
    | error e =>
      rw [hp] at h
      cases h
    | ok p =>
      rw [hp] at h
      cases h
      show 0 < (1 : UInt32).toNat
      decide
  · obtain ⟨n, hn, h⟩ := bind_eq_ok_iff.1 h
    obtain ⟨p, -, h⟩ := bind_eq_ok_iff.1 h
    cases h
    exact readCardinality_pos hn

theorem readType_ensures (hk : .invalidTypeDeclaration ∈ kinds) (token : String) :
    Ensures (fun t => 0 < t.cardinality.toNat) kinds (readType token) := by
  unfold readType
  cases h : readTrimmedType (trim token.toList) with
  | ok t => exact readTrimmedType_pos h
  | error flaw => exact hk

/-! ## Messages -/

/-- A command has one effect at most. -/
def Command.IsRouted (k : Command) : Prop := k.event = none ∨ k.forward = none

/-- A property has a value at least. -/
def Property.IsSized (p : Property) : Prop := 0 < p.type.cardinality.toNat

theorem Command.read_ensures (hk : .invalidDocument ∈ kinds)
    (hc : .conflictingMessageRouting ∈ kinds) (v : Node) :
    Ensures IsRouted kinds (Command.read v) := by
  unfold Command.read
  refine (Entry.read_ensures hk v _).bind fun entry _ => ?_
  split
  · exact .inl rfl
  · rename_i fields _
    unfold Command.readFields
    refine (optionalName_ensures hk fields _ _).bind fun event _ => ?_
    refine (optionalName_ensures hk fields _ _).bind fun forward _ => ?_
    cases event with
    | none => exact .inl rfl
    | some e =>
      cases forward with
      | none => exact .inr rfl
      | some f => exact hc

theorem Notification.read_ensures (hk : .invalidDocument ∈ kinds) (v : Node) :
    Ensures (fun _ => True) kinds (Notification.read v) :=
  (Entry.read_ensures hk v _).map fun _ _ => trivial

theorem Property.read_ensures (hk : .invalidDocument ∈ kinds) (hp : .invalidPropertySpec ∈ kinds)
    (ht : .invalidTypeDeclaration ∈ kinds) (v : Node) :
    Ensures IsSized kinds (Property.read v) := by
  unfold Property.read
  refine (Entry.readAs_ensures hk hp v _).bind fun entry _ => ?_
  split
  · exact hp
  · rename_i fields _
    have type : Ensures (fun t => 0 < t.cardinality.toNat) kinds
        (readDeclaredType entry.name fields) := by
      unfold readDeclaredType
      split
      · exact hp
      · split
        · exact ht
        · exact readType_ensures ht _
    unfold Property.readFields
    refine type.bind fun t sized => ?_
    refine (optionalLiteral_ensures hk fields _ _).bind fun value _ => ?_
    refine (optionalLiteral_ensures hk fields _ _).bind fun min _ => ?_
    refine (optionalLiteral_ensures hk fields _ _).bind fun max _ => ?_
    refine (optionalName_ensures hk fields _ _).bind fun notification _ => ?_
    refine (optionalBoolean_ensures hk fields _ _).bind fun readonly _ => ?_
    exact sized

theorem PropertyChange.read_ensures (hk : .invalidDocument ∈ kinds) (v : Node) (what : String) :
    Ensures (fun _ => True) kinds (PropertyChange.read v what) := by
  unfold PropertyChange.read
  refine (asMapping_ensures hk v what).bind fun m _ => ?_
  refine (requiredField_ensures hk m _ _).bind fun name _ => ?_
  refine (asName_ensures hk name _).bind fun property _ => ?_
  refine (requiredField_ensures hk m _ _).bind fun value _ => ?_
  exact (asLiteral_ensures hk value _).bind fun _ _ => trivial

theorem Subscription.read_ensures (hk : .invalidDocument ∈ kinds) (v : Node) :
    Ensures (fun _ => True) kinds (Subscription.read v) := by
  unfold Subscription.read
  refine (Entry.read_ensures hk v _).bind fun entry _ => ?_
  split
  · trivial
  · rename_i fields _
    unfold Subscription.readFields
    refine (optionalName_ensures hk fields _ _).bind fun event _ => ?_
    refine (optionalName_ensures hk fields _ _).bind fun action _ => ?_
    exact (optionalField_ensures (PropertyChange.read_ensures hk) fields _ _).bind
      fun _ _ => trivial

/-! ## Sections -/

theorem readListField_ensures {α : Type} {read : Node → Checked α} {post : α → Prop}
    (hk : .invalidDocument ∈ kinds) (h : ∀ v, Ensures post kinds (read v)) (m : Mapping)
    (key what : String) :
    Ensures (fun as => ∀ a ∈ as, post a) kinds (readListField read m key what) := by
  unfold readListField
  split
  · intro a ha
    cases ha
  · exact (asSequence_ensures hk _ _).bind fun vs _ => readAll_ensures h vs

/-- What holds of the messages of an interface, each by itself. -/
structure Interface.IsSound (i : Interface) : Prop where
  routed : ∀ k ∈ i.commands, k.IsRouted
  sized : ∀ p ∈ i.properties, p.IsSized

/-- The kinds of faults in the parts of a declaration. -/
def entryKinds : List Kind :=
  [.invalidDocument, .invalidTypeDeclaration, .invalidPropertySpec, .conflictingMessageRouting]

theorem Interface.read_ensures (hk : ∀ k ∈ entryKinds, k ∈ kinds) (section? : Option Node) :
    Ensures IsSound kinds (Interface.read section?) := by
  have hd : .invalidDocument ∈ kinds := hk _ (by decide)
  unfold Interface.read
  split
  · exact ⟨(by intro _ h; cases h), (by intro _ h; cases h)⟩
  · rename_i v _
    refine (asMapping_ensures hd v _).bind fun m _ => ?_
    refine (readListField_ensures hd (Command.read_ensures hd (hk _ (by decide))) m _ _).bind
      fun commands routed => ?_
    refine (readListField_ensures hd (Notification.read_ensures hd) m _ _).bind
      fun notifications _ => ?_
    refine (readListField_ensures hd (Property.read_ensures hd (hk _ (by decide))
      (hk _ (by decide))) m _ _).bind fun properties sized => ?_
    exact ⟨routed, sized⟩

theorem readUtilization_ensures (hk : .invalidDocument ∈ kinds) (section? : Option Node) :
    Ensures (fun _ => True) kinds (readUtilization section?) := by
  unfold readUtilization
  split
  · trivial
  · rename_i v _
    refine (asMapping_ensures hk v _).bind fun m _ => ?_
    exact (readListField_ensures hk (Subscription.read_ensures hk) m _ _).mono
      (fun _ _ => trivial) fun _ h => h

/-! ## Transitions -/

theorem TransitionDecl.read_ensures (hk : .invalidDocument ∈ kinds) (place : Nat) (v : Node) :
    Ensures (fun _ => True) kinds (TransitionDecl.read place v) := by
  unfold TransitionDecl.read
  refine (asMapping_ensures hk v _).bind fun m _ => ?_
  have name : ∀ key what, Ensures (fun _ => True) kinds
      (do asName (← requiredField m key what) (fieldOf key what)) := fun key what =>
    (requiredField_ensures hk m key what).bind fun v _ => asName_ensures hk v _
  refine (name "state" _).bind fun pattern _ => ?_
  refine (name "next" _).bind fun next _ => ?_
  refine (name "event" _).bind fun event _ => ?_
  exact (optionalName_ensures hk m _ _).bind fun _ _ => trivial

theorem TransitionDecl.readFrom_ensures (hk : .invalidDocument ∈ kinds) (place : Nat)
    (vs : List Node) : Ensures (fun _ => True) kinds (TransitionDecl.readFrom place vs) := by
  induction vs generalizing place with
  | nil => trivial
  | cons v vs ih =>
    rw [readFrom]
    exact (read_ensures hk place v).bind fun d _ => (ih (place + 1)).bind fun _ _ => trivial

theorem TransitionDecl.readList_ensures (hk : .invalidDocument ∈ kinds) (list? : Option Node) :
    Ensures (fun _ => True) kinds (TransitionDecl.readList list?) := by
  unfold TransitionDecl.readList
  split
  · trivial
  · exact (asSequence_ensures hk _ _).bind fun vs _ => readFrom_ensures hk 0 vs

/-! ## Documents -/

namespace ComponentDecl

theorem read_ensures (hk : .invalidDocument ∈ kinds) (name : String) (body : Node) :
    Ensures (fun _ => True) kinds (read name body).outcome := by
  unfold read
  refine Ensures.andThen (asMapping_ensures hk body _) fun fields _ => ?_
  split
  · rename_i v _
    refine Ensures.andThen (asName_ensures hk v _) fun target _ => ?_
    split <;> trivial
  · split
    · exact hk
    · trivial

theorem readNamed_ensures (hk : .invalidDocument ∈ kinds) (entry : Node) :
    Ensures (fun _ => True) kinds (readNamed entry).outcome := by
  unfold readNamed
  refine Ensures.andThen (asMapping_ensures hk entry _) fun m _ => ?_
  refine Ensures.andThen (singleEntry_ensures hk m _) fun ⟨name, body⟩ _ => ?_
  exact Ensures.andThen (read_ensures hk name body) fun _ _ => trivial

theorem readAll_ensures (hk : .invalidDocument ∈ kinds) (entries : List Node) :
    Ensures (fun _ => True) kinds (readAll entries).outcome := by
  induction entries with
  | nil => trivial
  | cons entry entries ih =>
    rw [readAll]
    refine Ensures.andThen (readNamed_ensures hk entry) fun d _ => ?_
    exact Ensures.andThen ih fun _ _ => trivial

end ComponentDecl

theorem declarationEntries_ensures (hk : .invalidDocument ∈ kinds) (root : Node)
    (rootKey : String) : Ensures (fun _ => True) kinds (declarationEntries root rootKey) := by
  unfold declarationEntries
  refine (asMapping_ensures hk root _).bind fun m _ => ?_
  split
  · exact hk
  · exact asSequence_ensures hk _ _

theorem loadDocument_ensures (hm : .malformedText ∈ kinds) (hk : .invalidDocument ∈ kinds)
    (text : String) : Ensures (fun _ => True) kinds (loadDocument text) := by
  unfold loadDocument
  split
  · exact hk
  · split
    · trivial
    · exact hm

end ComponentSpec
