import ComponentSpec.Number.Shortest

/-!
# ComponentSpec.Number.Layout

How a floating-point number is laid out as text. The digits are always the shortest ones; a
`NumberLayout` holds the choices that differ between formats.
-/

namespace ComponentSpec

structure NumberLayout where
  /-- Which of two equally near decimals is written. -/
  tie : TieRule
  /-- The decimal exponents of the leading digit that are written without an exponent; `none` for
  all of them. -/
  positional : Option (Int × Int)
  /-- Whether a whole number in positional form ends in `.0`. -/
  pointZero : Bool
  /-- What stands between the digits and an exponent that is not negative. -/
  exponentMark : String
  nan : String
  infinity : String
  negativeInfinity : String

namespace NumberLayout

/-- Digits and a power of ten without an exponent: zeros fill up to the point on either side. -/
def layPositional (pointZero : Bool) (ds : List Char) (exponent : Int) : String :=
  if 0 ≤ exponent then
    String.ofList (ds ++ List.replicate exponent.toNat '0') ++ (if pointZero then ".0" else "")
  else
    let places := (-exponent).toNat
    let padded := List.replicate (places + 1 - ds.length) '0' ++ ds
    String.ofList (padded.take (padded.length - places)) ++ "." ++
      String.ofList (padded.drop (padded.length - places))

/-- Digits with a point after the first one, and the exponent `e` of that digit. -/
def layScientific (mark : String) (ds : List Char) (e : Int) : String :=
  let point := match ds with
    | d :: [] => String.singleton d
    | d :: rest => String.singleton d ++ "." ++ String.ofList rest
    | [] => ""
  point ++ (if 0 ≤ e then mark ++ toString e.toNat else "e-" ++ toString (-e).toNat)

def layMagnitude (l : NumberLayout) (x : Binary64) : String :=
  if x.isZero then (if l.pointZero then "0.0" else "0")
  else
    let (c, exponent) := x.shortest l.tie
    let ds := Nat.toDigits 10 c
    let lead := exponent + ds.length - 1
    let isPositional := match l.positional with
      | none => true
      | some (low, high) => low ≤ lead && lead ≤ high
    if isPositional then layPositional l.pointZero ds exponent
    else layScientific l.exponentMark ds lead

/-- The text of a floating-point number. The sign of a zero is kept. -/
def lay (l : NumberLayout) (x : Binary64) : String :=
  if x.isNaN then l.nan
  else if x.isInfinite then (if x.isNegative then l.negativeInfinity else l.infinity)
  else (if x.isNegative then "-" else "") ++ l.layMagnitude x

end NumberLayout

end ComponentSpec
