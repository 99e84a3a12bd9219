import ComponentSpec.Number.Decimal
import ComponentSpec.Text.Blank

/-!
# ComponentSpec.Proofs.Text

Texts that are put together from parts, and how they are taken apart again.

* `split_first`, `split_while`: at the first place of a character, or of one that fails a test;
  `eq_append_of_dropWhile`: and together again.
* `trim_of_ends`: nothing is trimmed off a text that does not begin or end with white space.
* `isDigit_toDigits`, `natOfDigits_toDigits`: the digits of a number, and the number from them.
-/

namespace ComponentSpec

/-- A text is split at the first place of a character. -/
theorem split_first {c : Char} {a : List Char} (h : c ∉ a) (b : List Char) :
    (a ++ c :: b).takeWhile (· ≠ c) = a ∧ (a ++ c :: b).dropWhile (· ≠ c) = c :: b := by
  have pass : ∀ d ∈ a, decide (d ≠ c) = true := by
    intro d hd
    refine decide_eq_true ?_
    rintro rfl
    exact h hd
  rw [List.takeWhile_append_of_pos pass, List.dropWhile_append_of_pos pass]
  simp

/-- A text in which a character stands is what comes before its first place, and what follows. -/
theorem eq_append_of_dropWhile {c d : Char} {cs rest : List Char}
    (h : cs.dropWhile (· ≠ c) = d :: rest) : cs = cs.takeWhile (· ≠ c) ++ c :: rest := by
  have here : d = c := by
    have head := List.head?_dropWhile_not (· ≠ c) cs
    rw [h] at head
    simpa using head
  rw [← here, ← h, here, List.takeWhile_append_dropWhile]

/-- A text is split at the first character that fails a test. -/
theorem split_while {p : Char → Bool} {a b : List Char} (ha : ∀ c ∈ a, p c = true)
    (hb : ∀ c ∈ b.head?, p c = false) :
    (a ++ b).takeWhile p = a ∧ (a ++ b).dropWhile p = b := by
  rw [List.takeWhile_append_of_pos ha, List.dropWhile_append_of_pos ha]
  cases b with
  | nil => simp
  | cons c cs =>
    have other : p c = false := hb c rfl
    simp [other]

theorem trimRight_concat {c : Char} (h : isBlank c = false) (cs : List Char) :
    trimRight (cs ++ [c]) = cs ++ [c] := by
  simp [trimRight, h]

theorem trim_of_ends {first last : Char} (hf : isBlank first = false) (hl : isBlank last = false)
    (cs : List Char) : trim (first :: cs ++ [last]) = first :: cs ++ [last] := by
  rw [trim, List.cons_append, List.dropWhile_cons_of_neg (by simp [hf]), ← List.cons_append,
    trimRight_concat hl]

theorem isDigit_toDigits (n : Nat) : ∀ c ∈ Nat.toDigits 10 n, c.isDigit = true := fun _ hc =>
  Nat.isDigit_of_mem_toDigits (by decide) (by decide) hc

theorem natOfDigits_toDigits (n : Nat) : natOfDigits (Nat.toDigits 10 n) = n :=
  Nat.ofDigitChars_ten_toDigits

end ComponentSpec
