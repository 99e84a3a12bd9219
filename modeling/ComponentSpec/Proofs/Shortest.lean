import ComponentSpec.Number.Shortest
import Mathlib.Order.Monotone.Basic
import Mathlib.Tactic.Ring

/-!
# ComponentSpec.Proofs.Shortest

The shortest decimal of a floating-point number reads back as this number only.

* `Binary64.rank`: the magnitudes in order, each with its number. `magnitudeAt_succ`: from one to the
  next there are the upper half gap of the one and the lower half gap of the other.
* `rank_eq_of_interval`: no decimal lies in the intervals of two magnitudes.
* `interval_shortest`: the shortest decimal lies in the interval of its number.
-/

namespace ComponentSpec

namespace Binary64

/-- The bits of a magnitude. The larger it is, the larger they are. -/
def rank (x : Binary64) : Nat := x.bits.toNat % twoTo 63

theorem biasedExponent_eq (x : Binary64) : x.biasedExponent = x.rank / twoTo 52 := by
  have h := x.bits.toNat_lt
  have h52 : twoTo 52 = 4503599627370496 := rfl
  have h11 : twoTo 11 = 2048 := rfl
  have h63 : twoTo 63 = 9223372036854775808 := rfl
  rw [biasedExponent, rank, h52, h11, h63]
  omega

theorem fraction_eq (x : Binary64) : x.fraction = x.rank % twoTo 52 := by
  have h52 : twoTo 52 = 4503599627370496 := rfl
  have h63 : twoTo 63 = 9223372036854775808 := rfl
  rw [fraction, rank, h52, h63]
  omega

/-- A number is its sign and its magnitude. -/
theorem eq_of_rank {x y : Binary64} (sign : x.isNegative = y.isNegative) (h : x.rank = y.rank) :
    x = y := by
  have hx := x.bits.toNat_lt
  have hy := y.bits.toNat_lt
  have h63 : twoTo 63 = 9223372036854775808 := rfl
  have sides : twoTo 63 ≤ x.bits.toNat ↔ twoTo 63 ≤ y.bits.toNat := by
    simpa [isNegative] using sign
  rw [rank, rank, h63] at h
  rw [h63] at sides
  have bits : x.bits = y.bits := UInt64.toNat_inj.1 (by omega)
  obtain ⟨_⟩ := x
  obtain ⟨_⟩ := y
  exact congrArg _ bits

theorem isZero_iff {x : Binary64} : x.isZero = true ↔ x.rank = 0 := by
  have h52 : twoTo 52 = 4503599627370496 := rfl
  simp only [isZero, biasedExponent_eq, fraction_eq, Bool.and_eq_true, beq_iff_eq, h52]
  omega

end Binary64

namespace Shortest

/-! ## Gaps -/

/-- The significand of the magnitude of a rank. -/
def significandAt (n : Nat) : Nat :=
  if n / twoTo 52 = 0 then n % twoTo 52 else twoTo 52 + n % twoTo 52

def magnitudeAt (n : Nat) : Nat := significandAt n * twoTo (n / twoTo 52 - 1 + 6) * tenTo 400

/-- Half the gap above the magnitude of a rank. -/
def aboveAt (n : Nat) : Nat := twoTo (n / twoTo 52 - 1 + 5) * tenTo 400

/-- Half the gap below it. -/
def belowAt (n : Nat) : Nat :=
  if n % twoTo 52 = 0 ∧ 1 < n / twoTo 52 then aboveAt n / 2 else aboveAt n

variable {x y : Binary64} {v : Nat}

theorem significand_eq (x : Binary64) : x.significand = significandAt x.rank := by
  rw [Binary64.significand, significandAt, Binary64.biasedExponent_eq, Binary64.fraction_eq]

theorem magnitude_eq (x : Binary64) : magnitude x = magnitudeAt x.rank := by
  rw [magnitude, magnitudeAt, significand_eq, Binary64.scale, Binary64.biasedExponent_eq]

theorem halfGaps_eq (x : Binary64) : halfGaps x = (aboveAt x.rank, belowAt x.rank) := by
  simp only [halfGaps, aboveAt, belowAt, Binary64.scale, Binary64.biasedExponent_eq,
    Binary64.fraction_eq]

theorem significandAt_mod_two (n : Nat) : significandAt n % 2 = n % 2 := by
  have h52 : twoTo 52 = 4503599627370496 := rfl
  rw [significandAt, h52]
  split <;> omega

theorem significandAt_lt (n : Nat) : significandAt n < 2 * twoTo 52 := by
  have h52 : twoTo 52 = 4503599627370496 := rfl
  rw [significandAt, h52]
  split <;> omega

theorem magnitudeAt_eq (n : Nat) : magnitudeAt n = significandAt n * (2 * aboveAt n) := by
  rw [magnitudeAt, aboveAt, twoTo_succ (n / twoTo 52 - 1 + 5)]
  ring

theorem aboveAt_pos (n : Nat) : 0 < aboveAt n := Nat.mul_pos (twoTo_pos _) (tenTo_pos _)

theorem aboveAt_even (n : Nat) : aboveAt n % 2 = 0 := by
  have half : aboveAt n = 2 * (twoTo (n / twoTo 52 - 1 + 4) * tenTo 400) := by
    rw [aboveAt, twoTo_succ (n / twoTo 52 - 1 + 4)]
    ring
  omega

/-- A half gap below a magnitude is no less than half of the one above it. -/
theorem aboveAt_le (n : Nat) : aboveAt n ≤ 2 * belowAt n := by
  have even := aboveAt_even n
  rw [belowAt]
  split <;> omega

theorem belowAt_le (n : Nat) : belowAt n ≤ aboveAt n := by
  rw [belowAt]
  split <;> omega

theorem significandAt_pos {n : Nat} (h : n ≠ 0) : 0 < significandAt n := by
  have h52 : twoTo 52 = 4503599627370496 := rfl
  rw [significandAt, h52]
  split <;> omega

/-- A magnitude is a whole gap at least, unless it is zero. -/
theorem aboveAt_le_magnitudeAt {n : Nat} (h : n ≠ 0) : 2 * aboveAt n ≤ magnitudeAt n := by
  rw [magnitudeAt_eq]
  exact Nat.le_mul_of_pos_left _ (significandAt_pos h)

/-- From one magnitude to the next. -/
theorem magnitudeAt_succ (n : Nat) :
    magnitudeAt (n + 1) = magnitudeAt n + aboveAt n + belowAt (n + 1) := by
  have h52 : twoTo 52 = 4503599627370496 := rfl
  by_cases last : n % twoTo 52 + 1 = twoTo 52
  · -- the next binade begins
    have e : (n + 1) / twoTo 52 = n / twoTo 52 + 1 := by rw [h52] at last ⊢; omega
    have f : (n + 1) % twoTo 52 = 0 := by rw [h52] at last ⊢; omega
    have significand : significandAt (n + 1) = twoTo 52 := by
      rw [significandAt, e, f]
      simp
    rw [magnitudeAt_eq, magnitudeAt_eq, belowAt, significand, f, e]
    by_cases low : n / twoTo 52 = 0
    · -- the numbers below the first binade lie as dense as those in it
      have gap : aboveAt (n + 1) = aboveAt n := by rw [aboveAt, aboveAt, e, low]
      have before : significandAt n + 1 = twoTo 52 := by rw [significandAt, if_pos low, last]
      rw [if_neg (by omega), gap, ← before]
      ring
    · have gap : aboveAt (n + 1) = 2 * aboveAt n := by
        obtain ⟨d, hd⟩ := Nat.exists_eq_succ_of_ne_zero low
        rw [aboveAt, aboveAt, e, hd, Nat.add_sub_cancel, Nat.succ_sub_one, Nat.succ_eq_add_one,
          Nat.add_right_comm, twoTo_succ]
        ring
      have before : significandAt n + 1 = 2 * twoTo 52 := by
        rw [significandAt, if_neg low, Nat.add_assoc, last]
        ring
      rw [if_pos ⟨rfl, Nat.lt_add_of_pos_left (Nat.pos_of_ne_zero low)⟩, gap,
        Nat.mul_div_cancel_left _ (by decide)]
      have total : twoTo 52 * (2 * (2 * aboveAt n)) = (significandAt n + 1) * (2 * aboveAt n) := by
        rw [before]
        ring
      rw [total]
      ring
  · have e : (n + 1) / twoTo 52 = n / twoTo 52 := by rw [h52] at last ⊢; omega
    have f : (n + 1) % twoTo 52 = n % twoTo 52 + 1 := by rw [h52] at last ⊢; omega
    have gap : aboveAt (n + 1) = aboveAt n := by rw [aboveAt, aboveAt, e]
    have significand : significandAt (n + 1) = significandAt n + 1 := by
      rw [significandAt, significandAt, e, f]
      split <;> omega
    rw [magnitudeAt_eq, magnitudeAt_eq, belowAt, if_neg (by omega), gap, significand]
    ring

/-! ## Intervals -/

/-- The middle between the magnitude of a rank and the next one. -/
def middleAt (n : Nat) : Nat := magnitudeAt n + aboveAt n

theorem middleAt_strictMono : StrictMono middleAt := by
  refine strictMono_nat_of_lt_succ fun n => ?_
  have above := aboveAt_pos (n + 1)
  rw [middleAt, middleAt, magnitudeAt_succ]
  omega

/-- An interval has its ends for an even significand only. -/
theorem interval_iff : interval x v = true ↔
    if x.rank % 2 = 0 then magnitudeAt x.rank - belowAt x.rank ≤ v ∧ v ≤ middleAt x.rank
    else magnitudeAt x.rank - belowAt x.rank < v ∧ v < middleAt x.rank := by
  simp only [interval, halfGaps_eq, magnitude_eq, significand_eq, significandAt_mod_two, middleAt]
  split <;> simp

theorem le_of_interval (h : interval x v = true) :
    magnitudeAt x.rank - belowAt x.rank ≤ v ∧ v ≤ middleAt x.rank := by
  rw [interval_iff] at h
  split at h
  · exact h
  · exact ⟨h.1.le, h.2.le⟩

/-- What is below the one interval is not in the other. -/
theorem not_interval_of_lt (h : x.rank < y.rank) (hx : interval x v = true) :
    interval y v = false := by
  by_contra hy
  rw [Bool.not_eq_false] at hy
  obtain ⟨p, hp⟩ := Nat.exists_eq_succ_of_ne_zero (Nat.ne_zero_of_lt h)
  have upper := (le_of_interval hx).2
  have lower := (le_of_interval hy).1
  have low : magnitudeAt y.rank - belowAt y.rank = middleAt p := by
    rw [hp, Nat.succ_eq_add_one, magnitudeAt_succ, Nat.add_sub_cancel, middleAt]
  rw [low] at lower
  -- the intervals meet in one point at most, if they are neighbours
  have adjacent : x.rank = p := by
    have order := middleAt_strictMono.le_iff_le.1 (lower.trans upper)
    omega
  rw [interval_iff, low] at hy
  rw [interval_iff] at hx
  rw [adjacent] at hx
  rcases Nat.mod_two_eq_zero_or_one p with even | odd
  · rw [if_neg (by omega)] at hy
    rw [if_pos even] at hx
    omega
  · rw [if_neg (by omega)] at hx
    omega

theorem rank_eq_of_interval (hx : interval x v = true) (hy : interval y v = true) :
    x.rank = y.rank := by
  rcases Nat.lt_trichotomy x.rank y.rank with h | h | h
  · rw [not_interval_of_lt h hx] at hy
    cases hy
  · exact h
  · rw [not_interval_of_lt h hy] at hx
    cases hx

/-! ## The search -/

variable {tie : TieRule} {k : Nat}

theorem gridPoint_eq (c k : Nat) : gridPoint c k = c * gridPoint 1 k := by
  rw [gridPoint, gridPoint, Nat.one_mul, Nat.mul_assoc]

theorem gridPoint_pos (k : Nat) : 0 < gridPoint 1 k := by
  rw [gridPoint]
  exact Nat.mul_pos (Nat.mul_pos Nat.one_pos (tenTo_pos k)) (twoTo_pos 1080)

theorem tenTo_add (m n : Nat) : tenTo (m + n) = tenTo m * tenTo n := Nat.pow_add 10 m n

theorem gridPoint_add (c k n : Nat) : gridPoint (c * tenTo n) k = gridPoint c (k + n) := by
  have digits : c * tenTo n * tenTo k = c * tenTo (k + n) := by
    rw [tenTo_add, Nat.mul_assoc c, Nat.mul_comm (tenTo n)]
  exact congrArg (· * twoTo 1080) digits

theorem interval_neighbour? {c : Nat} (h : neighbour? tie x k = some c) :
    interval x (gridPoint c k) = true := by
  simp only [neighbour?] at h
  generalize magnitude x / gridPoint 1 k = below at h
  split at h
  · cases h
  · rename_i hb _
    cases h
    exact hb
  · rename_i _ ha
    cases h
    exact ha
  · rename_i hb ha
    split at h
    · cases h
      exact hb
    · split at h
      · cases h
        exact ha
      · cases tie with
        | up =>
          cases h
          exact ha
        | even =>
          cases h
          rcases Nat.mod_two_eq_zero_or_one below with even | odd
          · rw [even, Nat.add_zero]
            exact hb
          · rw [odd]
            exact ha

/-- On a fine grid the point below a magnitude is in its interval. -/
theorem interval_of_fine (h : x.rank ≠ 0) (fine : gridPoint 1 k < belowAt x.rank) :
    interval x (gridPoint (magnitude x / gridPoint 1 k) k) = true := by
  have above := aboveAt_pos x.rank
  have below := belowAt_le x.rank
  have size := aboveAt_le_magnitudeAt h
  have upper := Nat.div_mul_le_self (magnitude x) (gridPoint 1 k)
  have lower := Nat.lt_div_mul_add (gridPoint_pos k) (a := magnitude x)
  rw [← magnitude_eq] at size
  rw [gridPoint_eq, interval_iff, middleAt, ← magnitude_eq]
  generalize magnitude x / gridPoint 1 k * gridPoint 1 k = v at upper lower
  split <;> omega

/-- A search ends in the interval, if at the latest the grid after the last try is fine. -/
theorem interval_search (tie : TieRule) (h : x.rank ≠ 0) {tries : Nat}
    (fine : gridPoint 1 (k - tries) < belowAt x.rank) :
    interval x (gridPoint (search tie x tries k).1 (search tie x tries k).2) = true := by
  induction tries generalizing k with
  | zero => exact interval_of_fine h fine
  | succ tries ih =>
    rw [search]
    cases hc : neighbour? tie x k with
    | some c => exact interval_neighbour? hc
    | none =>
      have next : k - (tries + 1) = k - 1 - tries := by omega
      rw [next] at fine
      exact ih fine

theorem tenTo_le_of_digitCount {n q : Nat} (h : digitCount q = n + 2) : tenTo (n + 1) ≤ q := by
  have short : ¬ (Nat.toDigits 10 q).length ≤ n + 1 := by
    change ¬ digitCount q ≤ n + 1
    omega
  rw [Nat.length_toDigits_le_iff (by decide) (by omega)] at short
  exact Nat.not_lt.1 short

/-- Eighteen digits are enough to be as near as that to a magnitude. -/
theorem gridPoint_lt (h : x.rank ≠ 0) :
    gridPoint 1 (digitCount (magnitude x / twoTo 1080) - 1 - 17) < belowAt x.rank := by
  have h17 : tenTo 17 = 100000000000000000 := rfl
  have h52 : twoTo 52 = 4503599627370496 := rfl
  -- a magnitude has that many digits in any case
  have large : tenTo 17 * twoTo 1080 ≤ magnitude x := by
    have unit : tenTo 17 * twoTo 1080 ≤ tenTo 400 := by decide +kernel
    have one : tenTo 400 ≤ aboveAt x.rank := Nat.le_mul_of_pos_left _ (twoTo_pos _)
    have size := aboveAt_le_magnitudeAt h
    rw [magnitude_eq]
    omega
  have long : 17 < digitCount (magnitude x / twoTo 1080) := by
    have quotient := (Nat.le_div_iff_mul_le (twoTo_pos 1080)).2 large
    rw [digitCount, ← Nat.not_le, Nat.length_toDigits_le_iff (by decide) (by decide)]
    exact Nat.not_lt.2 quotient
  obtain ⟨k, hk⟩ := Nat.exists_eq_add_of_lt long
  have count : digitCount (magnitude x / twoTo 1080) = k + 16 + 2 := by omega
  have grid : tenTo 17 * gridPoint 1 k ≤ magnitude x := by
    have low := (Nat.le_div_iff_mul_le (twoTo_pos 1080)).1 (tenTo_le_of_digitCount count)
    rwa [← gridPoint_eq, ← Nat.one_mul (tenTo 17), gridPoint_add, gridPoint, Nat.one_mul]
  have size : magnitude x < 2 * twoTo 52 * (2 * aboveAt x.rank) := by
    rw [magnitude_eq, magnitudeAt_eq]
    exact Nat.mul_lt_mul_of_pos_right (significandAt_lt _) (by have := aboveAt_pos x.rank; omega)
  have below := aboveAt_le x.rank
  have place : digitCount (magnitude x / twoTo 1080) - 1 - 17 = k := by omega
  rw [h17] at grid
  rw [h52] at size
  rw [place]
  omega

theorem dropZeros_eq (fuel c : Nat) (e : Int) :
    ∃ n : Nat, (dropZeros fuel (c, e)).2 = e + n ∧ c = (dropZeros fuel (c, e)).1 * tenTo n := by
  induction fuel generalizing c e with
  | zero => exact ⟨0, (Int.add_zero e).symm, (Nat.mul_one c).symm⟩
  | succ fuel ih =>
    rw [dropZeros]
    split
    · rename_i zero
      obtain ⟨n, exponent, digits⟩ := ih (c / 10) (e + 1)
      refine ⟨n + 1, ?_, ?_⟩
      · rw [exponent]
        omega
      · rw [tenTo_succ, ← Nat.mul_assoc, ← digits]
        omega
    · exact ⟨0, (Int.add_zero e).symm, (Nat.mul_one c).symm⟩

end Shortest

open Shortest

/-- A decimal in the common unit, for exponents that are not below `-400`. -/
def Decimal.units (d : Decimal) : Nat := gridPoint d.digits (d.exponent + 400).toNat

theorem Decimal.units_of_digits_eq_zero {d : Decimal} (h : d.digits = 0) : d.units = 0 := by
  rw [units, h, gridPoint, Nat.zero_mul, Nat.zero_mul]

/-- Zero is in the interval of a zero. -/
theorem Shortest.interval_zero {x : Binary64} (h : x.isZero = true) : interval x 0 = true := by
  have zero := Binary64.isZero_iff.1 h
  have none : significandAt 0 = 0 := rfl
  rw [interval_iff, zero, if_pos rfl, magnitudeAt_eq, none]
  omega

/-- The shortest decimal is in the interval of its number. -/
theorem Binary64.interval_shortest (tie : TieRule) {x : Binary64} (h : x.rank ≠ 0)
    (negative : Bool) :
    -400 ≤ (x.shortest tie).2 ∧
      interval x (Decimal.units ⟨negative, (x.shortest tie).1, (x.shortest tie).2⟩) = true := by
  have found := interval_search tie h (gridPoint_lt h)
  rw [shortest]
  generalize search tie x 17 (digitCount (magnitude x / twoTo 1080) - 1) = s at found
  obtain ⟨c, k⟩ := s
  obtain ⟨n, exponent, digits⟩ := dropZeros_eq 17 c ((k : Int) - 400)
  have place : ((k : Int) - 400 + n + 400).toNat = k + n := by omega
  refine ⟨by rw [exponent]; omega, ?_⟩
  rw [Decimal.units, exponent, place, ← gridPoint_add, ← digits]
  exact found

end ComponentSpec
