import ComponentSpec.Number.Binary64

/-!
# ComponentSpec.Number.Decimal

Decimal numbers as they are written, and their value as a floating-point number.

* `Decimal.ofChars?`: sign, digits with an optional point, exponent. At least one digit stands
  before or after the point.
* `Decimal.toBinary64`: the floating-point number nearest to the decimal.
-/

namespace ComponentSpec

/-- The number `± digits * 10 ^ exponent`. -/
structure Decimal where
  negative : Bool
  digits : Nat
  exponent : Int
deriving DecidableEq

def natOfDigits (cs : List Char) : Nat :=
  cs.foldl (fun n c => 10 * n + (c.toNat - '0'.toNat)) 0

def digitCount (n : Nat) : Nat := (Nat.toDigits 10 n).length

namespace Decimal

def readSign : List Char → Bool × List Char
  | '-' :: cs => (true, cs)
  | '+' :: cs => (false, cs)
  | cs => (false, cs)

/-- Reads what follows the digits: nothing, or `e` with a signed row of digits. -/
def readExponent? : List Char → Option Int
  | [] => some 0
  | c :: cs =>
    if c = 'e' ∨ c = 'E' then
      let (negative, ds) := readSign cs
      if ds ≠ [] ∧ ds.all Char.isDigit then
        some (if negative then -(natOfDigits ds : Int) else natOfDigits ds)
      else none
    else none

def ofChars? (cs : List Char) : Option Decimal :=
  let (negative, cs) := readSign cs
  let whole := cs.takeWhile Char.isDigit
  let afterWhole := cs.dropWhile Char.isDigit
  let part := match afterWhole with
    | '.' :: rest => rest.takeWhile Char.isDigit
    | _ => []
  let afterPart := match afterWhole with
    | '.' :: rest => rest.dropWhile Char.isDigit
    | rest => rest
  if whole = [] ∧ part = [] then none
  else
    (readExponent? afterPart).map fun e =>
      ⟨negative, natOfDigits (whole ++ part), e - part.length⟩

/-- The nearest floating-point number. A decimal of at least `10 ^ 310` is infinite and one below
`10 ^ (-330)` is zero, whatever its digits are. -/
def toBinary64 (d : Decimal) : Binary64 :=
  let top := d.exponent + digitCount d.digits
  if d.digits = 0 then .zero d.negative
  else if 310 < top then .infinity d.negative
  else if top < -330 then .zero d.negative
  else .ofRatio d.negative (d.digits * tenTo d.exponent.toNat) (tenTo (-d.exponent).toNat)

end Decimal

namespace Binary64

def ofDecimalText? (s : String) : Option Binary64 :=
  (Decimal.ofChars? s.toList).map Decimal.toBinary64

/-- Reads a decimal number, or in any letter case `inf`, `infinity` or `nan`, with a sign. -/
def ofText? (s : String) : Option Binary64 :=
  let (negative, cs) := Decimal.readSign s.toList
  let word := String.ofList (cs.map Char.toLower)
  if word = "inf" ∨ word = "infinity" then some (infinity negative)
  else if word = "nan" then some nan
  else ofDecimalText? s

end Binary64

end ComponentSpec
