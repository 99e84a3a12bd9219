import ComponentSpec.Proofs.Reading
import ComponentSpec.Proofs.TypeToken
import Mathlib.Data.List.TakeWhile

/-!
# ComponentSpec.Proofs.TypeGrammar

The texts that are read as types, and the type that each of them stands for.

* `PrimitiveType.IsNamed`: the names of a primitive type.
* `WrittenType`, `TypeText`: how a type is written, without and with white space around it.
* `readPrimitive_ok_iff`, `readCardinality_ok_iff`, `readTrimmedType_ok_iff`: one statement for each
  reader.
* `readType_grammar`: exactly the texts of types are read, and all others are reported.
-/

namespace ComponentSpec

/-! ## The grammar -/

/-- The names of a primitive type in lower case. -/
def PrimitiveType.words : PrimitiveType → List String
  | uint8 => ["uint8", "byte"]
  | t => [t.name]

/-- A name of a primitive type, in any case of ASCII letters. -/
def PrimitiveType.IsNamed (t : PrimitiveType) (cs : List Char) : Prop :=
  ∃ word ∈ t.words, cs.map Char.toLower = word.toList

/-- A type as it is written: a name, and in square brackets a count that fits 32 bits, which may
have leading zeros. Without brackets the count is 1; before an opening one white space may stand. -/
inductive WrittenType : List Char → TypeDeclaration → Prop
  | single {name : List Char} {t : PrimitiveType} : t.IsNamed name → WrittenType name ⟨t, 1⟩
  | counted {name blanks digits : List Char} {t : PrimitiveType} {n : UInt32} :
    t.IsNamed name → (∀ c ∈ blanks, isBlank c = true) → digits ≠ [] →
    (∀ c ∈ digits, c.isDigit = true) → natOfDigits digits = n.toNat → 0 < n.toNat →
      WrittenType (name ++ blanks ++ '[' :: (digits ++ [']'])) ⟨t, n⟩

/-- A type with white space around it. -/
def TypeText (cs : List Char) (t : TypeDeclaration) : Prop :=
  ∃ left core right, cs = left ++ core ++ right ∧ (∀ c ∈ left, isBlank c = true) ∧
    (∀ c ∈ right, isBlank c = true) ∧ WrittenType core t

/-! ## White space -/

theorem trimRight_append {blanks : List Char} (h : ∀ c ∈ blanks, isBlank c = true)
    (cs : List Char) : trimRight (cs ++ blanks) = trimRight cs := by
  rw [trimRight, List.reverse_append, List.dropWhile_append_of_pos]
  · rfl
  · exact fun c hc => h c (List.mem_reverse.1 hc)

theorem exists_trimRight (cs : List Char) :
    ∃ blanks, cs = trimRight cs ++ blanks ∧ ∀ c ∈ blanks, isBlank c = true := by
  refine ⟨(cs.reverse.takeWhile isBlank).reverse, ?_, fun c hc => ?_⟩
  · rw [trimRight, ← List.reverse_append, List.takeWhile_append_dropWhile, List.reverse_reverse]
  · exact List.mem_takeWhile_imp (List.mem_reverse.1 hc)

theorem trimRight_eq_self {cs : List Char} (h : ∀ c ∈ cs.getLast?, isBlank c = false) :
    trimRight cs = cs := by
  rcases List.eq_nil_or_concat cs with rfl | ⟨init, last, rfl⟩
  · rfl
  · rw [List.concat_eq_append] at h ⊢
    exact trimRight_concat (h last (by simp)) init

theorem exists_trim (cs : List Char) :
    ∃ left right, cs = left ++ trim cs ++ right ∧ (∀ c ∈ left, isBlank c = true) ∧
      ∀ c ∈ right, isBlank c = true := by
  obtain ⟨right, split, blank⟩ := exists_trimRight (cs.dropWhile isBlank)
  refine ⟨cs.takeWhile isBlank, right, ?_, fun _ hc => List.mem_takeWhile_imp hc, blank⟩
  rw [trim, List.append_assoc, ← split, List.takeWhile_append_dropWhile]

/-- White space is trimmed off a text that neither begins nor ends with it. -/
theorem trim_append {left core right : List Char} (hl : ∀ c ∈ left, isBlank c = true)
    (hr : ∀ c ∈ right, isBlank c = true) (first : ∀ c ∈ core.head?, isBlank c = false)
    (last : ∀ c ∈ core.getLast?, isBlank c = false) : trim (left ++ core ++ right) = core := by
  rw [trim, List.append_assoc, List.dropWhile_append_of_pos hl]
  cases core with
  | nil =>
    have all : right.dropWhile isBlank = [] := List.dropWhile_eq_nil_iff.2 hr
    rw [List.nil_append, all]
    rfl
  | cons c cs =>
    have visible : isBlank c = false := first c rfl
    rw [List.cons_append, List.dropWhile_cons_of_neg (by simp [visible]), ← List.cons_append,
      trimRight_append hr, trimRight_eq_self last]

/-! ## Names -/

/-- A test that does not tell the cases of an ASCII letter apart. -/
theorem toLower_congr {p : Char → Bool}
    (h : ∀ n, n < 91 → 65 ≤ n → p (Char.ofNat n).toLower = p (Char.ofNat n)) (c : Char) :
    p c.toLower = p c := by
  by_cases upper : 65 ≤ c.toNat ∧ c.toNat ≤ 90
  · have letter := h c.toNat (by omega) upper.1
    rw [Char.ofNat_toNat] at letter
    exact letter
  · have same : c.toLower = c := dif_neg fun letter => upper letter
    rw [same]

theorem isBlank_toLower (c : Char) : isBlank c.toLower = isBlank c := toLower_congr (by decide) c

theorem isIdentifierStart_toLower (c : Char) :
    isIdentifierStart c.toLower = isIdentifierStart c := toLower_congr (by decide) c

theorem isIdentifierContinue_toLower (c : Char) :
    isIdentifierContinue c.toLower = isIdentifierContinue c := toLower_congr (by decide) c

theorem isIdentifier_map_toLower (cs : List Char) :
    isIdentifier (cs.map Char.toLower) = isIdentifier cs := by
  cases cs with
  | nil => rfl
  | cons c cs =>
    simp only [List.map_cons, isIdentifier, isIdentifierStart_toLower, List.all_map,
      Function.comp_def, isIdentifierContinue_toLower]

namespace PrimitiveType

variable {t : PrimitiveType} {cs : List Char}

/-- What the names of the primitive types have in common. -/
theorem words_plain {word : String} (h : word ∈ t.words) :
    isIdentifier word.toList = true ∧ word.toList ≠ [] ∧
      (word.toList.all fun c => !isBlank c && c != '[') = true := by
  cases t <;> simp only [words, List.mem_cons, List.not_mem_nil, or_false] at h
  case uint8 => rcases h with rfl | rfl <;> decide
  all_goals
    subst h
    decide

theorem IsNamed.isIdentifier (h : t.IsNamed cs) : isIdentifier cs = true := by
  obtain ⟨word, hw, hcs⟩ := h
  rw [← isIdentifier_map_toLower, hcs]
  exact (words_plain hw).1

theorem IsNamed.ne_nil (h : t.IsNamed cs) : cs ≠ [] := by
  rintro rfl
  obtain ⟨word, hw, hcs⟩ := h
  exact (words_plain hw).2.1 hcs.symm

theorem IsNamed.visible (h : t.IsNamed cs) {c : Char} (hc : c ∈ cs) : isBlank c = false := by
  obtain ⟨word, hw, hcs⟩ := h
  have lower : c.toLower ∈ word.toList := hcs ▸ List.mem_map_of_mem hc
  have plain := List.all_eq_true.1 (words_plain hw).2.2 _ lower
  rw [← isBlank_toLower]
  simpa using (Bool.and_eq_true_iff.1 plain).1

theorem IsNamed.bracket_notMem (h : t.IsNamed cs) : '[' ∉ cs := by
  intro hc
  obtain ⟨word, hw, hcs⟩ := h
  have lower : '[' ∈ word.toList := hcs ▸ List.mem_map_of_mem (f := Char.toLower) hc
  have plain := List.all_eq_true.1 (words_plain hw).2.2 _ lower
  simp at plain

theorem name_mem_words (t : PrimitiveType) : t.name ∈ t.words := by
  cases t <;> exact List.mem_cons_self

theorem ofName?_eq_some_iff : ofName? cs = some t ↔ t.IsNamed cs := by
  constructor
  · intro h
    rw [ofName?] at h
    split at h
    · rename_i byte
      cases h
      exact ⟨"byte", by decide, byte⟩
    · have found := List.find?_some h
      exact ⟨t.name, t.name_mem_words, (eq_of_beq found).symm⟩
  · rintro ⟨word, hw, hcs⟩
    rw [ofName?, hcs]
    cases t <;> simp only [words, List.mem_cons, List.not_mem_nil, or_false] at hw
    case uint8 => rcases hw with rfl | rfl <;> rfl
    all_goals
      subst hw
      rfl

end PrimitiveType

open PrimitiveType

/-- Every name of a primitive type is an identifier, so that it is read as one. -/
theorem readPrimitive_ok_iff {cs : List Char} {t : PrimitiveType} :
    readPrimitive cs = .ok t ↔ t.IsNamed cs := by
  rw [← ofName?_eq_some_iff, readPrimitive]
  cases h : ofName? cs with
  | none => cases isIdentifier cs <;> simp
  | some u =>
    have identifier := (ofName?_eq_some_iff.1 h).isIdentifier
    simp [identifier]

/-! ## Counts -/

theorem readCardinality_ok_iff {rest : List Char} {n : UInt32} :
    readCardinality rest = .ok n ↔
      ∃ digits, rest = digits ++ [']'] ∧ digits ≠ [] ∧ (∀ c ∈ digits, c.isDigit = true) ∧
        natOfDigits digits = n.toNat ∧ 0 < n.toNat := by
  constructor
  · intro h
    unfold readCardinality at h
    split at h
    · cases h
    rename_i closed
    have closed : rest.getLast? = some ']' := Decidable.not_not.1 closed
    dsimp only at h
    split at h
    · cases h
    rename_i decimal
    split at h
    · cases h
    rename_i small
    split at h
    · cases h
    rename_i positive
    cases h
    have value : (UInt32.ofNat (natOfDigits rest.dropLast)).toNat = natOfDigits rest.dropLast :=
      UInt32.toNat_ofNat_of_lt' (by omega)
    obtain ⟨digits, rfl⟩ := List.getLast?_eq_some_iff.1 closed
    rw [List.dropLast_concat] at decimal value positive
    simp only [not_or, Decidable.not_not, List.all_eq_true] at decimal
    rw [List.dropLast_concat, value]
    exact ⟨digits, rfl, decimal.1, decimal.2, rfl, by omega⟩
  · rintro ⟨digits, rfl, some_digit, decimal, value, positive⟩
    have all : digits.all Char.isDigit = true := List.all_eq_true.2 decimal
    have small : ¬ UInt32.size ≤ n.toNat := Nat.not_le_of_lt n.toNat_lt
    simp [readCardinality, some_digit, all, value, small, Nat.ne_of_gt positive]

theorem readTrimmedType_ok_iff {cs : List Char} {t : TypeDeclaration} :
    readTrimmedType cs = .ok t ↔ WrittenType cs t := by
  constructor
  · intro h
    unfold readTrimmedType at h
    dsimp only at h
    split at h
    · rename_i bare
      obtain ⟨p, hp, rfl⟩ := map_eq_ok_iff.1 h
      have whole := List.takeWhile_append_dropWhile (p := (· ≠ '[')) (l := cs)
      rw [bare, List.append_nil] at whole
      rw [whole] at hp
      exact .single (readPrimitive_ok_iff.1 hp)
    · rename_i bracket rest split
      obtain ⟨n, hn, h⟩ := bind_eq_ok_iff.1 h
      obtain ⟨p, hp, h⟩ := bind_eq_ok_iff.1 h
      cases h
      obtain ⟨digits, rfl, some_digit, decimal, value, positive⟩ := readCardinality_ok_iff.1 hn
      obtain ⟨blanks, name, blank⟩ := exists_trimRight (cs.takeWhile (· ≠ '['))
      rw [eq_append_of_dropWhile split, name]
      exact .counted (readPrimitive_ok_iff.1 hp) blank some_digit decimal value positive
  · intro h
    cases h with
    | @single _ p named =>
      have pass : ∀ c ∈ cs, decide (c ≠ '[') = true := by
        intro c hc
        refine decide_eq_true ?_
        rintro rfl
        exact named.bracket_notMem hc
      rw [readTrimmedType, List.takeWhile_eq_self_iff.2 pass, List.dropWhile_eq_nil_iff.2 pass,
        readPrimitive_ok_iff.2 named]
      rfl
    | @counted name blanks digits p n named blank some_digit decimal value positive =>
      have bracket : '[' ∉ name ++ blanks := by
        rw [List.mem_append]
        rintro (hc | hc)
        · exact named.bracket_notMem hc
        · exact absurd (blank _ hc) (by decide)
      obtain ⟨before, after⟩ := split_first bracket (digits ++ [']'])
      have ends : ∀ c ∈ name.getLast?, isBlank c = false := fun c hc =>
        named.visible (List.mem_of_getLast? hc)
      have trimmed : trimRight (name ++ blanks) = name := by
        rw [trimRight_append blank, trimRight_eq_self ends]
      have count : readCardinality (digits ++ [']']) = .ok n :=
        readCardinality_ok_iff.2 ⟨digits, rfl, some_digit, decimal, value, positive⟩
      simp only [readTrimmedType, before, after, count, trimmed, readPrimitive_ok_iff.2 named]
      rfl

/-! ## Types -/

/-- A type neither begins nor ends with white space. -/
theorem WrittenType.ends_visible {cs : List Char} {t : TypeDeclaration} (h : WrittenType cs t) :
    (∀ c ∈ cs.head?, isBlank c = false) ∧ ∀ c ∈ cs.getLast?, isBlank c = false := by
  cases h with
  | single named =>
    exact ⟨fun c hc => named.visible (List.mem_of_head? hc),
      fun c hc => named.visible (List.mem_of_getLast? hc)⟩
  | @counted name blanks digits p n named =>
    constructor
    · intro c hc
      obtain ⟨first, rest, rfl⟩ := List.exists_cons_of_ne_nil named.ne_nil
      cases hc
      exact named.visible List.mem_cons_self
    · intro c hc
      rw [← List.cons_append, ← List.append_assoc, List.getLast?_concat] at hc
      cases hc
      decide

theorem readType_ok_iff {token : String} {t : TypeDeclaration} :
    readType token = .ok t ↔ TypeText token.toList t := by
  rw [readType, mapError_eq_ok_iff, readTrimmedType_ok_iff]
  constructor
  · intro h
    obtain ⟨left, right, split, hl, hr⟩ := exists_trim token.toList
    exact ⟨left, _, right, split, hl, hr, h⟩
  · rintro ⟨left, core, right, split, hl, hr, h⟩
    rw [split, trim_append hl hr h.ends_visible.1 h.ends_visible.2]
    exact h

/-- A token is read exactly if it is the text of a type, and all others are reported as no
declaration of a type, with what is wrong with them. In particular each primitive type is read from
its name and any count that fits 32 bits and is not 0. -/
theorem readType_grammar (token : String) :
    (∀ t, readType token = .ok t ↔ TypeText token.toList t) ∧
    ((∀ t, ¬ TypeText token.toList t) → ∃ flaw, readType token = .error (.badType token flaw) ∧
      (Fault.badType token flaw).kind = .invalidTypeDeclaration) ∧
    ∀ (p : PrimitiveType) (n : UInt32), 0 < n.toNat →
      readType (p.name ++ "[" ++ toString n.toNat ++ "]") = .ok ⟨p, n⟩ := by
  refine ⟨fun _ => readType_ok_iff, fun none => ?_, fun p n positive => ?_⟩
  · cases h : readTrimmedType (trim token.toList) with
    | ok t =>
      have read : readType token = .ok t := by
        rw [readType, h]
        rfl
      exact absurd (readType_ok_iff.1 read) (none t)
    | error flaw =>
      refine ⟨flaw, ?_, rfl⟩
      rw [readType, h]
      rfl
  · exact readType_token (t := ⟨p, n⟩) positive

/-- Leading zeros and white space before the bracket are no part of a type, nor is the case of its
name. A count of 0 is. -/
theorem padded_byte_read : readType " BYTE [007]\n" = .ok ⟨.uint8, 7⟩ ∧
    ∃ flaw, readType "byte[0]" = .error (.badType "byte[0]" flaw) := by
  constructor
  · refine (readType_grammar " BYTE [007]\n").1 _ |>.2
      ⟨[' '], "BYTE [007]".toList, ['\n'], rfl, List.all_eq_true.1 rfl, List.all_eq_true.1 rfl, ?_⟩
    exact @WrittenType.counted "BYTE".toList [' '] "007".toList .uint8 7 ⟨"byte", by decide, rfl⟩
      (List.all_eq_true.1 rfl) (by decide) (List.all_eq_true.1 rfl) rfl (by decide)
  · have none : ∀ t, ¬ TypeText "byte[0]".toList t := by
      intro t h
      have read := readType_ok_iff.2 h
      cases read
    obtain ⟨flaw, h, -⟩ := (readType_grammar "byte[0]").2.1 none
    exact ⟨flaw, h⟩

end ComponentSpec
