import ComponentSpec.Declaration.TypeToken
import ComponentSpec.Proofs.Text
import ComponentSpec.Render.Definition

/-!
# ComponentSpec.Proofs.TypeToken

The written form of a type is read as this type.

* `readCardinality_digits`: a count from its digits.
* `readPrimitive_name`: a primitive type from its name.
* `readType_token`: a type from its token.
-/

namespace ComponentSpec

theorem readCardinality_digits {n : UInt32} (h : 0 < n.toNat) :
    readCardinality (Nat.toDigits 10 n.toNat ++ [']']) = .ok n := by
  have small : ¬ UInt32.size ≤ n.toNat := Nat.not_le_of_lt n.toNat_lt
  have digits : (Nat.toDigits 10 n.toNat).all Char.isDigit = true :=
    List.all_eq_true.2 (isDigit_toDigits n.toNat)
  simp [readCardinality, digits, natOfDigits_toDigits, small, Nat.ne_of_gt h, Nat.toDigits_ne_nil]

theorem readPrimitive_name (t : PrimitiveType) :
    readPrimitive (trimRight t.name.toList) = .ok t := by
  cases t <;> rfl

/-- A primitive type begins with no white space, and has no bracket in its name. -/
theorem name_shape (t : PrimitiveType) : ∃ first rest, t.name.toList = first :: rest ∧
    isBlank first = false ∧ '[' ∉ t.name.toList := by
  cases t <;> exact ⟨_, _, rfl, by decide, by decide⟩

theorem readType_token {t : TypeDeclaration} (h : 0 < t.cardinality.toNat) :
    readType t.token = .ok t := by
  obtain ⟨first, rest, hname, hfirst, bracket⟩ := name_shape t.primitive
  have token : t.token.toList =
      t.primitive.name.toList ++ '[' :: (Nat.toDigits 10 t.cardinality.toNat ++ [']']) := by
    simp [TypeDeclaration.token, Nat.toString_eq_repr, Nat.toList_repr]
  obtain ⟨name, count⟩ := split_first bracket (Nat.toDigits 10 t.cardinality.toNat ++ [']'])
  have trimmed : trim t.token.toList = t.token.toList := by
    have ends := trim_of_ends hfirst (show isBlank ']' = false by decide)
      (rest ++ '[' :: Nat.toDigits 10 t.cardinality.toNat)
    rw [token, hname]
    simpa using ends
  have read : readTrimmedType t.token.toList = .ok t := by
    rw [token, readTrimmedType]
    simp only [name, count, readCardinality_digits h, readPrimitive_name]
    rfl
  rw [readType, trimmed, read]
  rfl

end ComponentSpec
