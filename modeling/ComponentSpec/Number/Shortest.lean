import ComponentSpec.Number.Decimal

/-!
# ComponentSpec.Number.Shortest

The fewest decimal digits that read back as a given floating-point number.

A finite magnitude and every decimal with at most 17 digits near it are integer multiples of
`10 ^ (-400) * 2 ^ (-1080)`, so they are compared as natural numbers in that unit.

* `Shortest.interval`: the magnitudes that read back as a number.
* `Shortest.search`: over 1, 2, ... digits, the first decimal grid with a point in the interval.
-/

namespace ComponentSpec

/-- Which of two equally near decimals is chosen: the larger one, or the one with an even last
digit. -/
inductive TieRule where
  | up
  | even
deriving DecidableEq

namespace Shortest

def magnitude (x : Binary64) : Nat := x.significand * twoTo (x.scale + 6) * tenTo 400

/-- Half the gap to the number above, and half the gap to the one below: below a power of two the
numbers lie twice as dense. -/
def halfGaps (x : Binary64) : Nat × Nat :=
  let half := twoTo (x.scale + 5) * tenTo 400
  (half, if x.fraction = 0 ∧ 1 < x.biasedExponent then half / 2 else half)

/-- Whether a magnitude reads back as `x`. The ends of the interval do when the significand is
even. -/
def interval (x : Binary64) (v : Nat) : Bool :=
  let (above, below) := halfGaps x
  let low := magnitude x - below
  let high := magnitude x + above
  if x.significand % 2 = 0 then low ≤ v && v ≤ high else low < v && v < high

def gridPoint (c k : Nat) : Nat := c * tenTo k * twoTo 1080

def neighbour? (tie : TieRule) (x : Binary64) (k : Nat) : Option Nat :=
  let v := magnitude x
  let c := v / gridPoint 1 k
  let down := v - gridPoint c k
  let up := gridPoint (c + 1) k - v
  match interval x (gridPoint c k), interval x (gridPoint (c + 1) k) with
  | false, false => none
  | true, false => some c
  | false, true => some (c + 1)
  | true, true =>
    if down < up then some c
    else if up < down then some (c + 1)
    else match tie with
      | .up => some (c + 1)
      | .even => some (c + c % 2)

/-- Tries the grid `10 ^ (k - 400)` and then finer ones. Seventeen digits always suffice, so the
last grid is not looked for. -/
def search (tie : TieRule) (x : Binary64) : (tries k : Nat) → Nat × Nat
  | 0, k => (magnitude x / gridPoint 1 k, k)
  | tries + 1, k =>
    match neighbour? tie x k with
    | some c => (c, k)
    | none => search tie x tries (k - 1)

def dropZeros : (fuel : Nat) → Nat × Int → Nat × Int
  | 0, d => d
  | fuel + 1, (c, e) => if c % 10 = 0 then dropZeros fuel (c / 10, e + 1) else (c, e)

end Shortest

/-- The shortest decimal `digits * 10 ^ exponent` that reads back as a finite positive magnitude,
and of those with as few digits the nearest. -/
def Binary64.shortest (tie : TieRule) (x : Binary64) : Nat × Int :=
  let top := digitCount (Shortest.magnitude x / twoTo 1080)
  let (c, k) := Shortest.search tie x 17 (top - 1)
  Shortest.dropZeros 17 (c, (k : Int) - 400)

end ComponentSpec
