import ComponentSpec.Number.Layout

/-!
# ComponentSpec.Model.Literal

Scalar values of a document, as a component keeps them.

* `Literal.same`: equality of values within a kind, which a NaN has with nothing.
* `Literal.display`: the text of a value.
-/

namespace ComponentSpec

/-- A scalar value. Integers that fit are signed ones. -/
inductive Literal where
  | boolean (b : Bool)
  | integer (n : Int64)
  | unsigned (n : UInt64)
  | float (x : Binary64)
  | text (s : String)
deriving DecidableEq

namespace Literal

def same : Literal → Literal → Bool
  | .float x, .float y => x.same y
  | a, b => a == b

/-- Floating-point numbers are displayed without an exponent and without `.0`. -/
def numberLayout : NumberLayout where
  tie := .up
  positional := none
  pointZero := false
  exponentMark := "e"
  nan := "NaN"
  infinity := "inf"
  negativeInfinity := "-inf"

def display : Literal → String
  | .boolean b => if b then "true" else "false"
  | .integer n => toString n.toInt
  | .unsigned n => toString n.toNat
  | .float x => numberLayout.lay x
  | .text s => s

end Literal

end ComponentSpec
