import ComponentSpec.Proofs.DistinctKeys
import ComponentSpec.Proofs.Forms
import ComponentSpec.Proofs.Reading

/-!
# ComponentSpec.Proofs.Edits

Ways to write one value. The entries of a mapping may stand in any order, those that do not count
may be left out, and a message without fields is written in three ways.

* `Rearranges`: another way to write a mapping. What is read under a known key stays
  (`Rearranges.field?_eq`), as no key is bound twice.
* `Fieldless`: the ways to write a message without fields.
* `Edits`: such a change at any place of a value that is read in some form.
* `Edits.alike`: the value after the change is read like the one before.
-/

namespace ComponentSpec

open Yaml (Node Mapping)

/-! ## Changes -/

/-- An entry that does not count for a mapping with these known keys. A null does under `using`. -/
def IsIgnored (known : List String) (e : Node × Node) : Prop :=
  (∀ key ∈ known, e.1 ≠ .text key) ∨ (e.2.isNull = true ∧ e.1 ≠ .text "using")

/-- The entries of a mapping in any order, without some that are ignored. -/
def Rearranges (ignored : Node × Node → Prop) (m m' : Mapping) : Prop :=
  ∃ dropped, (m' ++ dropped).Perm m ∧ ∀ e ∈ dropped, ignored e

/-- The ways to write a message without fields. -/
inductive Fieldless (key : Node) : Node → Prop
  | bare : Fieldless key key
  | null : Fieldless key (.mapping [(key, .null)])
  | empty : Fieldless key (.mapping [(key, .mapping [])])

/-- A change at one place of a value of a form. -/
inductive Edits : Form → Node → Node → Prop
  | rearrange {known : List String} {form : String → Form} {m m' : Mapping}
      (h : Rearranges (IsIgnored known) m m') :
      Edits (.fields known form) (.mapping m) (.mapping m')
  | field {known : List String} {form : String → Form} {before after : Mapping} {key : String}
      {v w : Node} (hk : key ∈ known) (h : Edits (form key) v w) :
      Edits (.fields known form) (.mapping (before ++ (.text key, v) :: after))
        (.mapping (before ++ (.text key, w) :: after))
  | body {optional : Bool} {known : List String} {form : String → Form} {key v w : Node}
      (h : Edits (.fields known form) v w) :
      Edits (.entry optional known form) (.mapping [(key, v)]) (.mapping [(key, w)])
  | fieldless {known : List String} {form : String → Form} {key v w : Node}
      (name : (scalarText? key).isSome) (hv : Fieldless key v) (hw : Fieldless key w) :
      Edits (.entry true known form) v w
  | item {item : Form} {before after : List Node} {v w : Node} (h : Edits item v w) :
      Edits (.items item) (.sequence (before ++ v :: after)) (.sequence (before ++ w :: after))
  | tagged {f : Form} {v w : Node} (tag : String) (h : Edits f v w) :
      Edits f (.tagged tag v) (.tagged tag w)

/-! ## Rearranged mappings -/

variable {m m' : Mapping} {known : List String} {ignored : Node × Node → Prop}

theorem Rearranges.nodup (h : Rearranges ignored m m') (distinct : (m.map Prod.fst).Nodup) :
    (m'.map Prod.fst).Nodup := by
  obtain ⟨dropped, perm, -⟩ := h
  have all := (perm.map Prod.fst).nodup_iff.2 distinct
  rw [List.map_append] at all
  exact (List.nodup_append.1 all).1

theorem Rearranges.subset (h : Rearranges ignored m m') : m' ⊆ m := by
  obtain ⟨dropped, perm, -⟩ := h
  exact fun e he => perm.subset (List.mem_append_left _ he)

theorem Rearranges.hasDistinctKeys (h : Rearranges ignored m m')
    (hm : (Node.mapping m).HasDistinctKeys) : (Node.mapping m').HasDistinctKeys := by
  cases hm with
  | mapping distinct values =>
    exact .mapping (h.nodup distinct) fun e he => values e (h.subset he)

/-- What is not ignored is still there. -/
theorem Rearranges.mem_iff (h : Rearranges ignored m m') {e : Node × Node} (he : ¬ ignored e) :
    e ∈ m' ↔ e ∈ m := by
  obtain ⟨dropped, perm, drop⟩ := h
  rw [← perm.mem_iff, List.mem_append]
  exact ⟨.inl, fun h => h.resolve_right fun hd => he (drop e hd)⟩

theorem Rearranges.field?_eq (h : Rearranges (IsIgnored known) m m')
    (distinct : (m.map Prod.fst).Nodup) {key : String} (hk : key ∈ known) :
    m'.field? key = m.field? key := by
  ext v
  rw [Mapping.field?_eq_some_iff (h.nodup distinct), Mapping.field?_eq_some_iff distinct]
  refine and_congr_left fun present => h.mem_iff ?_
  rintro (other | ⟨null, -⟩)
  · exact other key hk rfl
  · rw [present] at null
    cases null

theorem Rearranges.get?_using_eq (h : Rearranges ignored m m')
    (distinct : (m.map Prod.fst).Nodup) (counts : ∀ v, ¬ ignored (.text "using", v)) :
    m'.get? "using" = m.get? "using" := by
  ext v
  rw [Mapping.get?_eq_some_iff (h.nodup distinct), Mapping.get?_eq_some_iff distinct]
  exact h.mem_iff (counts v)

/-! ## One entry replaced -/

variable {before after : Mapping} {key : String} {v w : Node}

theorem hasDistinctKeys_replace (hvw : v.HasDistinctKeys → w.HasDistinctKeys)
    {k : Node} (h : (Node.mapping (before ++ (k, v) :: after)).HasDistinctKeys) :
    (Node.mapping (before ++ (k, w) :: after)).HasDistinctKeys := by
  cases h with
  | mapping distinct values =>
    refine .mapping (by simpa using distinct) fun e he => ?_
    rcases List.mem_append.1 he with he | he
    · exact values e (List.mem_append_left _ he)
    · rcases List.mem_cons.1 he with rfl | he
      · exact hvw (values (k, v) (by simp))
      · exact values e (by simp [he])

theorem hasDistinctKeys_value {k : Node}
    (h : (Node.mapping (before ++ (k, v) :: after)).HasDistinctKeys) : v.HasDistinctKeys := by
  cases h with
  | mapping _ values => exact values (k, v) (by simp)

theorem optionRel_get?_replace {R : String → Node → Node → Prop} (h : R key v w)
    (refl : ∀ key' x, R key' x x) (before after : Mapping) (key' : String) :
    Option.Rel (R key') (Mapping.get? (before ++ (.text key, v) :: after) key')
      (Mapping.get? (before ++ (.text key, w) :: after) key') := by
  rw [Mapping.get?_append, Mapping.get?_append, Mapping.get?_cons, Mapping.get?_cons]
  cases Mapping.get? before key' with
  | some x => exact .some (refl key' x)
  | none =>
    by_cases hk : Node.text key = .text key'
    · cases hk
      simpa using Option.Rel.some h
    · rw [if_neg hk, if_neg hk]
      exact optionRel_refl (refl key') _

theorem optionRel_field? {R : Node → Node → Prop}
    (h : Option.Rel (fun x y => x.isNull = y.isNull ∧ R x y) (m.get? key) (m'.get? key)) :
    Option.Rel R (m.field? key) (m'.field? key) := by
  unfold Mapping.field?
  refine optionRel_elim h .none fun x y related => ?_
  rw [Option.filter_some, Option.filter_some, related.1]
  split
  · exact .some related.2
  · exact .none

theorem fieldsAlike_replace {lax : Prop} {form : String → Form} (null : v.isNull = w.isNull)
    (h : Alike lax (form key) v w) : FieldsAlike known (fun key => Alike lax (form key))
      (before ++ (.text key, v) :: after) (before ++ (.text key, w) :: after) := by
  refine fun key' _ => optionRel_field? ?_
  exact optionRel_get?_replace (R := fun key x y => x.isNull = y.isNull ∧ Alike lax (form key) x y)
    ⟨null, h⟩ (fun key x => ⟨rfl, .refl (form key) x⟩) before after key'

/-! ## Messages without fields -/

namespace Fieldless

variable {k : Node} {name : String}

/-- A name is a scalar. -/
theorem scalar_of_name (hk : scalarText? k = some name) :
    k.isNull = false ∧ k.HasDistinctKeys ∧ ∀ m, k ≠ .mapping m := by
  cases k with
  | text s => exact ⟨rfl, .text s, by simp⟩
  | integer n => exact ⟨rfl, .integer n, by simp⟩
  | float x => exact ⟨rfl, .float x, by simp⟩
  | boolean b => exact ⟨rfl, .boolean b, by simp⟩
  | _ => cases hk

theorem isNull_eq (h : Fieldless k v) (hk : scalarText? k = some name) : v.isNull = false := by
  cases h with
  | bare => exact (scalar_of_name hk).1
  | _ => rfl

theorem hasDistinctKeys (h : Fieldless k v) (hk : scalarText? k = some name) :
    v.HasDistinctKeys := by
  cases h with
  | bare => exact (scalar_of_name hk).2.1
  | null => exact .mapping (by simp) (by simpa using .null)
  | empty => exact .mapping (by simp) (by simpa using .mapping .nil (by simp))

/-- All three have this name and no fields, or empty ones. -/
theorem readAs_eq (h : Fieldless k v) (hk : scalarText? k = some name) (kind : Kind)
    (what : String) : ∃ e, Entry.readAs kind v what = .ok e ∧ e.name = name ∧
      (e.fields? = none ∨ e.fields? = some []) := by
  have single : ∀ body, singleEntry [(k, body)] what = .ok (name, body) := fun body =>
    singleEntry_ok_iff.2 ⟨k, rfl, hk⟩
  cases h with
  | bare =>
    refine ⟨.bare name, ?_, rfl, .inl rfl⟩
    unfold Entry.readAs
    split
    · exact absurd rfl ((scalar_of_name hk).2.2 _)
    · rw [asName_ok_iff.2 hk]
      rfl
  | null => exact ⟨.named name none, by rw [Entry.readAs, single]; rfl, rfl, .inl rfl⟩
  | empty => exact ⟨.named name (some []), by rw [Entry.readAs, single]; rfl, rfl, .inr rfl⟩

end Fieldless

/-! ## Changes are read alike -/

theorem Entry.readFields_of_notNull {kind : Kind} {what name : String} (h : v.isNull = false) :
    readFields kind what name v =
      (asMappingOr kind v ("fields of " ++ what ++ " " ++ name)).map some := by
  cases v with
  | null => cases h
  | _ => rfl

/-- A value beside its only key does not count for whether the key is a name. -/
theorem singleEntry_follows {lax : Prop} (k v w : Node) (what : String) :
    Follows lax (fun e e' => ∃ name, e = (name, v) ∧ e' = (name, w)) (singleEntry [(k, v)] what)
      (singleEntry [(k, w)] what) := by
  rw [singleEntry, singleEntry]
  refine (Follows.of_eq rfl).map ?_
  rintro name _ rfl
  exact ⟨name, rfl, rfl⟩

/-- A message is read like another one if its fields are. -/
theorem Entry.readAs_follows {lax : Prop} {R : Mapping → Mapping → Prop} {kind : Kind}
    {k : Node} (hv : v.isNull = false) (hw : w.isNull = false) (empty : R [] [])
    (h : ∀ what, Follows lax R (asMappingOr kind v what) (asMappingOr kind w what))
    (optional : Bool) (what : String) :
    Follows lax (EntriesAlike optional R) (readAs kind (.mapping [(k, v)]) what)
      (readAs kind (.mapping [(k, w)]) what) := by
  refine (singleEntry_follows k v w what).bind ?_
  rintro _ _ ⟨name, rfl, rfl⟩
  have fields : Follows lax (Option.Rel R) (readFields kind what name v)
      (readFields kind what name w) := by
    rw [readFields_of_notNull hv, readFields_of_notNull hw]
    exact (h _).map fun _ _ => .some
  exact fields.bind fun a b related => .ok (.named empty related optional name)

theorem forall₂_replace {R : Node → Node → Prop} (refl : ∀ x, R x x) (h : R v w)
    (xs ys : List Node) : List.Forall₂ R (xs ++ v :: ys) (xs ++ w :: ys) :=
  List.rel_append (List.forall₂_same.2 fun x _ => refl x)
    (.cons h (List.forall₂_same.2 fun x _ => refl x))

theorem hasDistinctKeys_of_mem {xs : List Node} (h : (Node.sequence xs).HasDistinctKeys)
    (hv : v ∈ xs) : v.HasDistinctKeys := by
  cases h with
  | sequence items => exact items v hv

theorem hasDistinctKeys_replace_item (hvw : v.HasDistinctKeys → w.HasDistinctKeys)
    {xs ys : List Node} (h : (Node.sequence (xs ++ v :: ys)).HasDistinctKeys) :
    (Node.sequence (xs ++ w :: ys)).HasDistinctKeys := by
  refine .sequence fun x hx => ?_
  rcases List.mem_append.1 hx with hx | hx
  · exact hasDistinctKeys_of_mem h (List.mem_append_left _ hx)
  · rcases List.mem_cons.1 hx with rfl | hx
    · exact hvw (hasDistinctKeys_of_mem h (by simp))
    · exact hasDistinctKeys_of_mem h (by simp [hx])

namespace Edits

variable {f : Form} {lax : Prop}

theorem isNull_eq (h : Edits f v w) : v.isNull = false ∧ w.isNull = false := by
  induction h with
  | rearrange | field | body | item => exact ⟨rfl, rfl⟩
  | fieldless name hv hw =>
    obtain ⟨name, hk⟩ := Option.isSome_iff_exists.1 name
    exact ⟨hv.isNull_eq hk, hw.isNull_eq hk⟩
  | tagged _ _ ih => exact ih

theorem ne_plain (h : Edits f v w) : f ≠ .plain := by
  induction h with
  | tagged _ _ ih => exact ih
  | _ => simp

theorem hasDistinctKeys (h : Edits f v w) (hv : v.HasDistinctKeys) : w.HasDistinctKeys := by
  induction h with
  | rearrange h => exact h.hasDistinctKeys hv
  | field hk h ih => exact hasDistinctKeys_replace ih hv
  | @body _ _ _ key v w h ih => exact @hasDistinctKeys_replace [] [] v w ih key hv
  | fieldless name _ hw =>
    obtain ⟨name, hk⟩ := Option.isSome_iff_exists.1 name
    exact hw.hasDistinctKeys hk
  | item h ih => exact hasDistinctKeys_replace_item ih hv
  | tagged tag h ih =>
    cases hv with
    | tagged value => exact .tagged (ih value)

theorem alike (h : Edits f v w) (hv : v.HasDistinctKeys) : Alike lax f v w := by
  induction h with
  | @rearrange known form m m' h =>
    intro kind what
    cases hv with
    | mapping distinct =>
      refine .ok fun key hk => ?_
      rw [h.field?_eq distinct hk]
      exact optionRel_refl (.refl (form key)) _
  | field hk h ih =>
    have inner := ih (hasDistinctKeys_value hv)
    have null := h.isNull_eq.1.trans h.isNull_eq.2.symm
    exact fun _ _ => .ok (fieldsAlike_replace null inner)
  | @body _ _ form key v w h ih =>
    have inner := ih (@hasDistinctKeys_value [] [] v key hv)
    refine fun kind => Entry.readAs_follows h.isNull_eq.1 h.isNull_eq.2 ?_ (inner kind) _
    exact .refl (fun key => .refl (form key)) []
  | @fieldless known form key v w name hv' hw =>
    obtain ⟨name, hk⟩ := Option.isSome_iff_exists.1 name
    intro kind what
    obtain ⟨e, he, hn, hf⟩ := hv'.readAs_eq hk kind what
    obtain ⟨e', he', hn', hf'⟩ := hw.readAs_eq hk kind what
    rw [he, he']
    refine .ok ⟨hn.trans hn'.symm, ?_⟩
    have empty : e.fields?.getD [] = [] := by rcases hf with hf | hf <;> rw [hf] <;> rfl
    have empty' : e'.fields?.getD [] = [] := by rcases hf' with hf | hf <;> rw [hf] <;> rfl
    rw [if_pos rfl, empty, empty']
    exact .refl (fun key => .refl (form key)) []
  | item h ih =>
    refine fun what => .ok (forall₂_replace (.refl _) (ih ?_) _ _)
    exact hasDistinctKeys_of_mem hv (by simp)
  | tagged tag h ih =>
    cases hv with
    | tagged value => exact (ih value).tagged tag

end Edits

end ComponentSpec
