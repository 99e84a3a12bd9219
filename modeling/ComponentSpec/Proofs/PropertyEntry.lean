import ComponentSpec.Proofs.Reading
import Mathlib.Data.Option.Basic

/-!
# ComponentSpec.Proofs.PropertyEntry

Which values declare a property, and the kind of what is wrong with each of the others.

* `Node.IsScalar`: the values that names and literals are read from.
* `ReadsAs`: a reader of single values, by what it accepts. `ReadsAs.optional_ok_iff` and
  `ReadsAs.of_optional_error` say the same of an optional field.
* `Property.Holds`, `Property.FieldsMisdeclared`: the property that fields stand for, or the kind of
  what is wrong with them. The type comes first, whatever the other fields hold.
* `Property.Declares`, `Property.Misdeclared`: the same of a whole entry.
* `Property.read_outcome`: reading an entry gives what is declared or fails with the kind of what is
  wrong, and one of the two is the case for every value.
-/

namespace ComponentSpec

open Yaml (Node Mapping)

/-! ## Scalars -/

/-- A text, a number or a boolean, without a tag. -/
inductive Yaml.Node.IsScalar : Node → Prop
  | text (s : String) : IsScalar (.text s)
  | integer (n : Yaml.Integer) : IsScalar (.integer n)
  | float (x : Binary64) : IsScalar (.float x)
  | boolean (b : Bool) : IsScalar (.boolean b)

section Scalars

variable {v : Node}

theorem isScalar_iff_name : v.IsScalar ↔ ∃ name, scalarText? v = some name := by
  constructor
  · rintro (_ | _ | _ | _) <;> exact ⟨_, rfl⟩
  · rintro ⟨name, h⟩
    cases v with
    | text s => exact .text s
    | integer n => exact .integer n
    | float x => exact .float x
    | boolean b => exact .boolean b
    | _ => cases h

theorem isScalar_iff_literal : v.IsScalar ↔ ∃ l, literal? v = some l := by
  constructor
  · rintro (_ | _ | _ | _) <;> exact ⟨_, rfl⟩
  · rintro ⟨l, h⟩
    cases v with
    | text s => exact .text s
    | integer n => exact .integer n
    | float x => exact .float x
    | boolean b => exact .boolean b
    | _ => cases h

theorem asLiteral_ok_iff {what : String} {l : Literal} :
    asLiteral v what = .ok l ↔ literal? v = some l := by
  rw [asLiteral]
  cases literal? v <;> simp [unexpected]

theorem asBoolean_ok_iff {what : String} {b : Bool} :
    asBoolean v what = .ok b ↔ v = .boolean b := by
  cases v <;> simp [asBoolean, unexpected]

end Scalars

/-! ## Readers of single values -/

/-- A reader that accepts the values that stand for something. Others are of the wrong shape. -/
structure ReadsAs {α : Type} (read : Node → String → Checked α) (Means : Node → α → Prop) :
    Prop where
  ok_iff : ∀ {v what a}, read v what = .ok a ↔ Means v a
  kind : ∀ {v what f}, read v what = .error f → f.kind = .invalidDocument

theorem readsAs_name : ReadsAs asName fun v name => scalarText? v = some name where
  ok_iff := asName_ok_iff
  kind h := (asName_ensures (List.mem_singleton.2 rfl) _ _).kind_eq h

theorem readsAs_literal : ReadsAs asLiteral fun v l => literal? v = some l where
  ok_iff := asLiteral_ok_iff
  kind h := (asLiteral_ensures (List.mem_singleton.2 rfl) _ _).kind_eq h

theorem readsAs_boolean : ReadsAs asBoolean fun v b => v = .boolean b where
  ok_iff := asBoolean_ok_iff
  kind h := (asBoolean_ensures (List.mem_singleton.2 rfl) _ _).kind_eq h

namespace ReadsAs

variable {α : Type} {read : Node → String → Checked α} {Means : Node → α → Prop} {m : Mapping}
  {key what : String}

/-- An absent field gives nothing, and a field that is there what its value stands for. -/
theorem optional_ok_iff (h : ReadsAs read Means) {a : Option α} :
    optionalField read m key what = .ok a ↔ Option.Rel Means (m.field? key) a := by
  rw [optionalField]
  cases hv : m.field? key with
  | none => cases a <;> simp
  | some v =>
    simp only [map_eq_ok_iff, h.ok_iff]
    cases a <;> simp

/-- An optional field is at fault only if it is there and its value stands for nothing. -/
theorem of_optional_error (h : ReadsAs read Means) {f : Fault}
    (e : optionalField read m key what = .error f) :
    (∃ v, m.field? key = some v ∧ ∀ a, ¬ Means v a) ∧ f.kind = .invalidDocument := by
  rw [optionalField] at e
  cases hv : m.field? key with
  | none =>
    rw [hv] at e
    cases e
  | some v =>
    rw [hv] at e
    cases hr : read v (fieldOf key what) with
    | ok a =>
      simp only [hr] at e
      cases e
    | error f' =>
      simp only [hr] at e
      cases e
      refine ⟨⟨v, rfl, fun a ha => ?_⟩, h.kind hr⟩
      cases hr.symm.trans (h.ok_iff.2 ha)

end ReadsAs

section Optional

variable {m : Mapping} {key what : String}

theorem optionalName_ok_iff {a : Option String} : optionalName m key what = .ok a ↔
    Option.Rel (fun v name => scalarText? v = some name) (m.field? key) a :=
  readsAs_name.optional_ok_iff

theorem optionalLiteral_ok_iff {a : Option Literal} : optionalLiteral m key what = .ok a ↔
    Option.Rel (fun v l => literal? v = some l) (m.field? key) a :=
  readsAs_literal.optional_ok_iff

theorem optionalBoolean_ok_iff {a : Option Bool} : optionalBoolean m key what = .ok a ↔
    Option.Rel (fun v b => v = .boolean b) (m.field? key) a :=
  readsAs_boolean.optional_ok_iff

/-- A flag that is absent is false. -/
theorem flag_ok_iff {b : Bool} :
    (∃ flag, optionalBoolean m key what = .ok flag ∧ flag.getD false = b) ↔
      m.field? key = some (.boolean b) ∨ m.field? key = none ∧ b = false := by
  simp only [optionalBoolean_ok_iff]
  constructor
  · rintro ⟨_, given, rfl⟩
    generalize m.field? key = found at given
    cases given with
    | none => exact .inr ⟨rfl, rfl⟩
    | some h => exact .inl (congrArg some h)
  · rintro (given | ⟨absent, rfl⟩)
    · exact ⟨some b, given ▸ .some rfl, rfl⟩
    · exact ⟨none, absent ▸ .none, rfl⟩

end Optional

/-! ## Entries with a body -/

namespace Entry

variable {kind : Kind} {key body : Node} {what name : String}

/-- A null is read as no fields, and what is no mapping is of the given kind. -/
theorem readFields_of_bodiless (h : body.asMapping? = none) :
    readFields kind what name body = .ok none ∨
      ∃ f, readFields kind what name body = .error f ∧ f.kind = kind := by
  unfold readFields
  split
  · exact .inl rfl
  · have fault : ∀ part, asMappingOr kind body part =
        .error (.wrongShape kind part .mapping body.shape) := by
      intro part
      rw [asMappingOr, h]
    exact .inr ⟨_, congrArg (Except.map some) (fault _), rfl⟩

theorem readAs_named (hk : scalarText? key = some name) :
    readAs kind (.mapping [(key, body)]) what =
      (readFields kind what name body).map (named name) := by
  rw [readAs, singleEntry_ok_iff.2 ⟨key, rfl, hk⟩]
  rfl

end Entry

namespace Property

/-! ## Fields -/

/-- The type that fields declare. Its text is seen through tags. -/
def HasType (fields : Mapping) (t : TypeDeclaration) : Prop :=
  ∃ v token, fields.field? "type" = some v ∧ v.asText? = some token ∧ readType token = .ok t

/-- The property, apart from its name, that fields stand for. -/
structure Holds (fields : Mapping) (p : Property) : Prop where
  type : HasType fields p.type
  value : Option.Rel (fun v l => literal? v = some l) (fields.field? "value") p.value
  min : Option.Rel (fun v l => literal? v = some l) (fields.field? "min") p.min
  max : Option.Rel (fun v l => literal? v = some l) (fields.field? "max") p.max
  notification : Option.Rel (fun v link => scalarText? v = some link)
    (fields.field? "notification") p.notification
  readonly : fields.field? "readonly" = some (.boolean p.readonly) ∨
    fields.field? "readonly" = none ∧ p.readonly = false

/-- A field other than the type that is there and is not of the shape that it has to be of. -/
inductive IllShaped (fields : Mapping) : Prop
  | literal {key : String} {v : Node} (isLiteral : key ∈ ["value", "min", "max"])
      (given : fields.field? key = some v) (shape : ¬ v.IsScalar)
  | notification {v : Node} (given : fields.field? "notification" = some v) (shape : ¬ v.IsScalar)
  | readonly {v : Node} (given : fields.field? "readonly" = some v) (shape : ∀ b, v ≠ .boolean b)

/-- The kind of what is wrong with the type that fields declare. -/
inductive TypeMisdeclared (fields : Mapping) : Kind → Prop
  | absent (absent : fields.field? "type" = none) : TypeMisdeclared fields .invalidPropertySpec
  | notText {v : Node} (given : fields.field? "type" = some v) (shape : v.asText? = none) :
      TypeMisdeclared fields .invalidTypeDeclaration
  | rejected {v : Node} {token : String} (given : fields.field? "type" = some v)
      (isText : v.asText? = some token) (rejected : ∀ t, readType token ≠ .ok t) :
      TypeMisdeclared fields .invalidTypeDeclaration

/-- The kind of what is wrong with fields. Only beside a valid type do the other fields matter. -/
inductive FieldsMisdeclared (fields : Mapping) : Kind → Prop
  | type {k : Kind} (h : TypeMisdeclared fields k) : FieldsMisdeclared fields k
  | illShaped {t : TypeDeclaration} (typed : HasType fields t) (h : IllShaped fields) :
      FieldsMisdeclared fields .invalidDocument

section Fields

variable {fields : Mapping} {name : String} {p : Property} {f : Fault} {k : Kind}

theorem readDeclaredType_ok_iff {t : TypeDeclaration} :
    readDeclaredType name fields = .ok t ↔ HasType fields t := by
  unfold readDeclaredType HasType
  cases fields.field? "type" with
  | none => simp
  | some v => cases hv : v.asText? <;> simp [hv]

theorem readDeclaredType_error_iff :
    (∃ f, readDeclaredType name fields = .error f ∧ f.kind = k) ↔ TypeMisdeclared fields k := by
  have rejectedKind : ∀ {token f}, readType token = .error f → f.kind = .invalidTypeDeclaration :=
    fun h => (readType_ensures (List.mem_singleton.2 rfl) _).kind_eq h
  constructor
  · rintro ⟨f, h, rfl⟩
    unfold readDeclaredType at h
    split at h
    · rename_i absent
      cases h
      exact .absent absent
    · rename_i v given
      split at h
      · rename_i shape
        cases h
        exact .notText given shape
      · rename_i token isText
        rw [rejectedKind h]
        refine .rejected given isText fun t ht => ?_
        cases h.symm.trans ht
  · intro h
    unfold readDeclaredType
    cases h with
    | absent absent => exact ⟨.propertyWithoutType name, by rw [absent], rfl⟩
    | notText given shape => exact ⟨.typeNotText name, by simp only [given, shape], rfl⟩
    | @rejected v token given isText rejected =>
      cases ht : readType token with
      | ok t => exact absurd ht (rejected t)
      | error f => exact ⟨f, by simp only [given, isText, ht], rejectedKind ht⟩

theorem readFields_ok_iff : readFields name fields = .ok p ↔ p.name = name ∧ Holds fields p := by
  constructor
  · intro h
    obtain ⟨type, htype, h⟩ := bind_eq_ok_iff.1 h
    obtain ⟨value, hvalue, h⟩ := bind_eq_ok_iff.1 h
    obtain ⟨min, hmin, h⟩ := bind_eq_ok_iff.1 h
    obtain ⟨max, hmax, h⟩ := bind_eq_ok_iff.1 h
    obtain ⟨notification, hnotification, h⟩ := bind_eq_ok_iff.1 h
    obtain ⟨readonly, hreadonly, h⟩ := bind_eq_ok_iff.1 h
    cases h
    exact ⟨rfl,
      { type := readDeclaredType_ok_iff.1 htype
        value := optionalLiteral_ok_iff.1 hvalue
        min := optionalLiteral_ok_iff.1 hmin
        max := optionalLiteral_ok_iff.1 hmax
        notification := optionalName_ok_iff.1 hnotification
        readonly := flag_ok_iff.1 ⟨readonly, hreadonly, rfl⟩ }⟩
  · rintro ⟨rfl, h⟩
    obtain ⟨readonly, hreadonly, isReadonly⟩ := flag_ok_iff.2 h.readonly
    refine bind_eq_ok_iff.2 ⟨p.type, readDeclaredType_ok_iff.2 h.type, ?_⟩
    refine bind_eq_ok_iff.2 ⟨p.value, optionalLiteral_ok_iff.2 h.value, ?_⟩
    refine bind_eq_ok_iff.2 ⟨p.min, optionalLiteral_ok_iff.2 h.min, ?_⟩
    refine bind_eq_ok_iff.2 ⟨p.max, optionalLiteral_ok_iff.2 h.max, ?_⟩
    refine bind_eq_ok_iff.2 ⟨p.notification, optionalName_ok_iff.2 h.notification, ?_⟩
    refine bind_eq_ok_iff.2 ⟨readonly, hreadonly, ?_⟩
    rw [isReadonly]
    rfl

/-- Beside a valid type, a fault comes from a field of the wrong shape. -/
theorem IllShaped.of_readFields {t : TypeDeclaration} (typed : HasType fields t)
    (h : readFields name fields = .error f) : IllShaped fields ∧ f.kind = .invalidDocument := by
  have literal : ∀ {key what f}, key ∈ ["value", "min", "max"] →
      optionalLiteral fields key what = .error f →
        IllShaped fields ∧ f.kind = .invalidDocument := by
    intro key what f isLiteral h
    obtain ⟨⟨v, given, none⟩, kind⟩ := readsAs_literal.of_optional_error h
    refine ⟨.literal isLiteral given fun scalar => ?_, kind⟩
    obtain ⟨l, hl⟩ := isScalar_iff_literal.1 scalar
    exact none l hl
  rcases bind_eq_error_iff.1 h with h | ⟨_, -, h⟩
  · cases h.symm.trans (readDeclaredType_ok_iff.2 typed)
  rcases bind_eq_error_iff.1 h with h | ⟨_, -, h⟩
  · exact literal (by simp) h
  rcases bind_eq_error_iff.1 h with h | ⟨_, -, h⟩
  · exact literal (by simp) h
  rcases bind_eq_error_iff.1 h with h | ⟨_, -, h⟩
  · exact literal (by simp) h
  rcases bind_eq_error_iff.1 h with h | ⟨_, -, h⟩
  · obtain ⟨⟨v, given, none⟩, kind⟩ := readsAs_name.of_optional_error h
    refine ⟨.notification given fun scalar => ?_, kind⟩
    obtain ⟨link, hlink⟩ := isScalar_iff_name.1 scalar
    exact none link hlink
  rcases bind_eq_error_iff.1 h with h | ⟨_, -, h⟩
  · obtain ⟨⟨v, given, none⟩, kind⟩ := readsAs_boolean.of_optional_error h
    exact ⟨.readonly given none, kind⟩
  · cases h

theorem IllShaped.not_holds (shape : IllShaped fields) : ¬ Holds fields p := by
  intro h
  cases shape with
  | @literal key v isLiteral given shape =>
    have means : ∃ a, Option.Rel (fun v l => literal? v = some l) (fields.field? key) a := by
      simp only [List.mem_cons, List.not_mem_nil, or_false] at isLiteral
      rcases isLiteral with rfl | rfl | rfl
      · exact ⟨_, h.value⟩
      · exact ⟨_, h.min⟩
      · exact ⟨_, h.max⟩
    rw [given] at means
    obtain ⟨_, @⟨_, l, hl⟩⟩ := means
    exact shape (isScalar_iff_literal.2 ⟨l, hl⟩)
  | notification given shape =>
    have means := h.notification
    rw [given] at means
    generalize p.notification = link at means
    obtain @⟨_, link, hlink⟩ := means
    exact shape (isScalar_iff_name.2 ⟨link, hlink⟩)
  | readonly given shape =>
    rcases h.readonly with flag | ⟨absent, -⟩
    · cases given.symm.trans flag
      exact shape _ rfl
    · cases given.symm.trans absent

theorem readFields_error_iff :
    (∃ f, readFields name fields = .error f ∧ f.kind = k) ↔ FieldsMisdeclared fields k := by
  constructor
  · rintro ⟨f, h, rfl⟩
    rcases bind_eq_error_iff.1 h with untyped | ⟨t, typed, -⟩
    · exact .type (readDeclaredType_error_iff.1 ⟨f, untyped, rfl⟩)
    · have typed := readDeclaredType_ok_iff.1 typed
      obtain ⟨shape, kind⟩ := IllShaped.of_readFields typed h
      exact kind ▸ .illShaped typed shape
  · intro h
    cases h with
    | type h =>
      obtain ⟨f, hf, kind⟩ := readDeclaredType_error_iff.2 h
      exact ⟨f, bind_eq_error_iff.2 (.inl hf), kind⟩
    | illShaped typed shape =>
      cases h : readFields name fields with
      | ok p => exact absurd (readFields_ok_iff.1 h).2 shape.not_holds
      | error f => exact ⟨f, rfl, (IllShaped.of_readFields typed h).2⟩

end Fields

/-! ## Entries of properties -/

/-- An entry of a name and a body, seen through tags, whose fields the property holds. -/
def Declares (v : Node) (p : Property) : Prop :=
  ∃ key body fields, v = .mapping [(key, body)] ∧ scalarText? key = some p.name ∧
    body.asMapping? = some fields ∧ Holds fields p

/-- The kind of what is wrong with a value that declares no property. A null has no fields. -/
inductive Misdeclared : Node → Kind → Prop
  | bare {v : Node} (isName : v.IsScalar) : Misdeclared v .invalidPropertySpec
  | bodiless {key body : Node} (isName : key.IsScalar) (noFields : body.asMapping? = none) :
      Misdeclared (.mapping [(key, body)]) .invalidPropertySpec
  | fields {key body : Node} {fields : Mapping} {k : Kind} (isName : key.IsScalar)
      (hasFields : body.asMapping? = some fields) (h : FieldsMisdeclared fields k) :
      Misdeclared (.mapping [(key, body)]) k
  | noEntry {v : Node} (noName : ¬ v.IsScalar)
      (noEntry : ∀ key body, key.IsScalar → v ≠ .mapping [(key, body)]) :
      Misdeclared v .invalidDocument

section Entries

variable {key body v : Node} {name : String} {fields : Mapping}

theorem read_of_bare (h : v.IsScalar) :
    ∃ f, read v = .error f ∧ f.kind = .invalidPropertySpec := by
  cases h with
  | _ => exact ⟨.propertyWithoutFields _, rfl, rfl⟩

theorem read_of_bodiless (hk : key.IsScalar) (hb : body.asMapping? = none) :
    ∃ f, read (.mapping [(key, body)]) = .error f ∧ f.kind = .invalidPropertySpec := by
  obtain ⟨name, hk⟩ := isScalar_iff_name.1 hk
  rw [read, Entry.readAs_named hk]
  rcases Entry.readFields_of_bodiless hb with h | ⟨f, h, kind⟩
  · rw [h]
    exact ⟨.propertyWithoutFields name, rfl, rfl⟩
  · rw [h]
    exact ⟨f, rfl, kind⟩

theorem read_eq_readFields (hk : scalarText? key = some name) (hb : body.asMapping? = some fields) :
    read (.mapping [(key, body)]) = readFields name fields := by
  rw [read, Entry.readAs_named hk, Entry.readFields_ok_iff.2 (.inr ⟨fields, hb, rfl⟩)]
  rfl

theorem read_of_noEntry (hs : ¬ v.IsScalar)
    (he : ∀ key body, key.IsScalar → v ≠ .mapping [(key, body)]) :
    ∃ f, read v = .error f ∧ f.kind = .invalidDocument := by
  cases v with
  | text s => exact absurd (.text s) hs
  | integer n => exact absurd (.integer n) hs
  | float x => exact absurd (.float x) hs
  | boolean b => exact absurd (.boolean b) hs
  | mapping m =>
    cases h : singleEntry m "property" with
    | ok e =>
      obtain ⟨key, rfl, hk⟩ := singleEntry_ok_iff.1 h
      exact absurd rfl (he key e.2 (isScalar_iff_name.2 ⟨e.1, hk⟩))
    | error f =>
      have kind := (singleEntry_ensures (List.mem_singleton.2 rfl) m "property").kind_eq h
      refine ⟨f, ?_, kind⟩
      rw [read, Entry.readAs, h]
      rfl
  | _ => exact ⟨_, rfl, rfl⟩

/-- A value is a bare name, a name with a body or no entry. -/
theorem name_or_named_or_noEntry (v : Node) : v.IsScalar ∨
    (∃ key body, key.IsScalar ∧ v = .mapping [(key, body)]) ∨
      ¬ v.IsScalar ∧ ∀ key body, key.IsScalar → v ≠ .mapping [(key, body)] := by
  by_cases bare : v.IsScalar
  · exact .inl bare
  · by_cases named : ∃ key body, key.IsScalar ∧ v = .mapping [(key, body)]
    · exact .inr (.inl named)
    · exact .inr (.inr ⟨bare, fun key body isName h => named ⟨key, body, isName, h⟩⟩)

theorem read_misdeclared {k : Kind} (h : Misdeclared v k) :
    ∃ f, read v = .error f ∧ f.kind = k := by
  cases h with
  | bare isName => exact read_of_bare isName
  | bodiless isName noFields => exact read_of_bodiless isName noFields
  | fields isName hasFields h =>
    obtain ⟨name, hk⟩ := isScalar_iff_name.1 isName
    rw [read_eq_readFields hk hasFields]
    exact readFields_error_iff.2 h
  | noEntry noName noEntry => exact read_of_noEntry noName noEntry

theorem read_declares {p : Property} (h : Declares v p) : read v = .ok p := by
  obtain ⟨key, body, fields, rfl, hk, hb, holds⟩ := h
  rw [read_eq_readFields hk hb]
  exact readFields_ok_iff.2 ⟨rfl, holds⟩

/-- Every value declares a property or something is wrong with it. -/
theorem declares_or_misdeclared (v : Node) : (∃ p, Declares v p) ∨ ∃ k, Misdeclared v k := by
  rcases name_or_named_or_noEntry v with bare | ⟨key, body, isName, rfl⟩ | ⟨noName, noEntry⟩
  · exact .inr ⟨_, .bare bare⟩
  · cases hb : body.asMapping? with
    | none => exact .inr ⟨_, .bodiless isName hb⟩
    | some fields =>
      obtain ⟨name, hk⟩ := isScalar_iff_name.1 isName
      cases h : readFields name fields with
      | ok p =>
        obtain ⟨rfl, holds⟩ := readFields_ok_iff.1 h
        exact .inl ⟨p, key, body, fields, rfl, hk, hb, holds⟩
      | error f => exact .inr ⟨_, .fields isName hb (readFields_error_iff.1 ⟨f, h, rfl⟩)⟩
  · exact .inr ⟨_, .noEntry noName noEntry⟩

theorem read_ok_iff {p : Property} : read v = .ok p ↔ Declares v p := by
  refine ⟨fun h => ?_, read_declares⟩
  rcases declares_or_misdeclared v with ⟨q, declared⟩ | ⟨k, wrong⟩
  · cases h.symm.trans (read_declares declared)
    exact declared
  · obtain ⟨f, h', -⟩ := read_misdeclared wrong
    cases h.symm.trans h'

theorem read_error_iff {k : Kind} : (∃ f, read v = .error f ∧ f.kind = k) ↔ Misdeclared v k := by
  refine ⟨?_, read_misdeclared⟩
  rintro ⟨f, h, rfl⟩
  rcases declares_or_misdeclared v with ⟨p, declared⟩ | ⟨k, wrong⟩
  · cases h.symm.trans (read_declares declared)
  · obtain ⟨f', h', rfl⟩ := read_misdeclared wrong
    cases h.symm.trans h'
    exact wrong

/-- An entry is read as the property that it declares, or fails with the kind of what is wrong with
it, and there are three such kinds. What nothing is wrong with declares a property. -/
theorem read_outcome (v : Node) :
    (∀ p, read v = .ok p ↔ Declares v p) ∧
      (∀ k, (∃ f, read v = .error f ∧ f.kind = k) ↔ Misdeclared v k) ∧
      (∀ f, read v = .error f →
        f.kind ∈ [.invalidDocument, .invalidPropertySpec, .invalidTypeDeclaration]) ∧
      ((∀ k, ¬ Misdeclared v k) → ∃ p, Declares v p ∧ read v = .ok p) := by
  refine ⟨fun p => read_ok_iff, fun k => read_error_iff, fun f => ?_, fun nothing => ?_⟩
  · exact (read_ensures (by simp) (by simp) (by simp) v).error
  · rcases declares_or_misdeclared v with ⟨p, declared⟩ | ⟨k, wrong⟩
    · exact ⟨p, declared, read_declares declared⟩
    · exact absurd wrong (nothing k)

end Entries

/-- The entry of a property `Level` with these fields, under a tag. -/
def levelEntry (fields : Mapping) : Node :=
  .mapping [(.text "Level", .tagged "documented" (.mapping fields))]

/-- Tags are no obstacle on the fields and on the type. A bad type hides a flag that is none, and
beside a good one a flag with a tag is none. -/
theorem level_outcomes :
    read (levelEntry [(.text "type", .tagged "wide" (.text "int32[4]")), (.text "min", .null)]) =
        .ok ⟨"Level", ⟨.int32, 4⟩, none, none, none, none, false⟩ ∧
      (∃ f, read (levelEntry [(.text "type", .text "int32[0]"), (.text "readonly", .text "yes")]) =
        .error f ∧ f.kind = .invalidTypeDeclaration) ∧
      ∃ f, read (levelEntry [(.text "type", .text "bool"),
        (.text "readonly", .tagged "set" (.boolean true))]) = .error f ∧
          f.kind = .invalidDocument := by
  refine ⟨?_, ?_, ?_⟩
  · refine ((read_outcome _).1 _).2 ⟨_, _, _, rfl, rfl, rfl, ?_⟩
    exact
      { type := ⟨_, _, rfl, rfl, rfl⟩
        value := .none
        min := .none
        max := .none
        notification := .none
        readonly := .inr ⟨rfl, rfl⟩ }
  · refine ((read_outcome _).2.1 _).2 (.fields (.text _) rfl (.type (.rejected rfl rfl ?_)))
    intro t h
    cases h
  · refine ((read_outcome _).2.1 _).2 (.fields (.text _) rfl (.illShaped ⟨_, _, rfl, rfl, rfl⟩ ?_))
    exact .readonly rfl fun b h => by cases h

end Property

end ComponentSpec
