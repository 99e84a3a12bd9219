import ComponentSpec.Number.Power

/-!
# ComponentSpec.Number.Binary64

Floating-point numbers of 64 bits, held as their bit pattern so that every statement about them is
a statement about natural numbers.

* `Binary64.same`: equality of values. A NaN is the same as nothing, the two zeros are the same.
* `Binary64.ofRatio`: the number nearest to a quotient, of two equally near the one with an even
  significand.
-/

namespace ComponentSpec

/-- A floating-point number: sign (1 bit), biased exponent (11 bits), fraction (52 bits). -/
structure Binary64 where
  bits : UInt64
deriving DecidableEq, Inhabited

namespace Binary64

/-- Whether the sign bit is set, also on a zero or a NaN. -/
def isNegative (x : Binary64) : Bool := twoTo 63 ≤ x.bits.toNat

def biasedExponent (x : Binary64) : Nat := x.bits.toNat / twoTo 52 % twoTo 11

def fraction (x : Binary64) : Nat := x.bits.toNat % twoTo 52

def isNaN (x : Binary64) : Bool := x.biasedExponent == 2047 && x.fraction != 0

def isInfinite (x : Binary64) : Bool := x.biasedExponent == 2047 && x.fraction == 0

def isFinite (x : Binary64) : Bool := x.biasedExponent != 2047

def isZero (x : Binary64) : Bool := x.biasedExponent == 0 && x.fraction == 0

/-- The integer `m` of the magnitude `m * 2 ^ scale` of a finite number. -/
def significand (x : Binary64) : Nat :=
  if x.biasedExponent = 0 then x.fraction else twoTo 52 + x.fraction

/-- The power of two that the significand of a finite number counts, raised by 1074 so that it is
a natural number. -/
def scale (x : Binary64) : Nat := x.biasedExponent - 1

/-- The magnitude of a number, given its significand and its raised power of two. Only one pair
stands for each magnitude when `m < 2 ^ 53`, and `2 ^ 52 ≤ m` unless `scale = 0`. -/
def pack (negative : Bool) (m scale : Nat) : Binary64 :=
  ⟨UInt64.ofNat
    ((if negative then twoTo 63 else 0) + min (scale * twoTo 52 + m) (2047 * twoTo 52))⟩

def zero (negative : Bool) : Binary64 := pack negative 0 0

def infinity (negative : Bool) : Binary64 := pack negative 0 2047

def nan : Binary64 := ⟨0x7FF8000000000000⟩

/-- Equality of values: no NaN equals anything, and `0.0` equals `-0.0`. -/
def same (x y : Binary64) : Bool :=
  !x.isNaN && !y.isNaN && (x.bits == y.bits || (x.isZero && y.isZero))

/-- The integer nearest to `num / den`, the even one of two that are equally near. -/
def roundHalfEven (num den : Nat) : Nat :=
  let q := num / den
  let r := num % den
  if 2 * r < den then q
  else if den < 2 * r then q + 1
  else q + q % 2

/-- The number nearest to `num / den`. The quotient lies in `[2 ^ (a - b - 1), 2 ^ (a - b + 1))`
for `a`, `b` the lengths of its parts in bits, so one comparison finds its binade. A magnitude
that rounds beyond the largest finite number becomes an infinity. -/
def ofRatio (negative : Bool) (num den : Nat) : Binary64 :=
  if num = 0 then zero negative
  else
    let raised := 1074 + 64 + num.log2 - den.log2
    let above := if den * twoTo raised ≤ num * twoTo (1074 + 64) then raised else raised - 1
    let scale := above - 64 - 52
    pack negative (roundHalfEven (num * twoTo 1074) (den * twoTo scale)) scale

end Binary64

end ComponentSpec
