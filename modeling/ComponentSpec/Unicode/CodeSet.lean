import ComponentSpec.Number.Decimal

/-!
# ComponentSpec.Unicode.CodeSet

Sets of characters: as predicates (`CharSet`), and as listed code points (`CodeSet`) read from the
text of a table.

A table lists sets one after the other. Each begins with its names, joined by `=` and closed by
`:`; then come code points in base 16, ranges `A-B`, and ranges `A-B/S` of every `S`-th code point.

* `sameSymbol`: the loose comparison of names, which ignores case, spaces, `_`, `-` and a leading
  `is`.
-/

namespace ComponentSpec.Unicode

abbrev CharSet := Char → Bool

namespace CharSet

def union (s t : CharSet) : CharSet := fun c => s c || t c

def inter (s t : CharSet) : CharSet := fun c => s c && t c

def sdiff (s t : CharSet) : CharSet := fun c => s c && !t c

def symmDiff (s t : CharSet) : CharSet := fun c => xor (s c) (t c)

def compl (s : CharSet) : CharSet := fun c => !s c

end CharSet

/-- The code points `first`, `first + step`, ... up to `last`. -/
structure CodeRange where
  first : Nat
  last : Nat
  step : Nat

def CodeRange.contains (r : CodeRange) (n : Nat) : Bool :=
  r.first ≤ n && n ≤ r.last && (n - r.first) % r.step == 0

/-- A listed set of code points. -/
abbrev CodeSet := Array CodeRange

def CodeSet.contains (s : CodeSet) (c : Char) : Bool := s.any (·.contains c.toNat)

/-- The value of a row of digits in base 16 with large letters. -/
def natOfHex (cs : List Char) : Nat :=
  cs.foldl (fun n c => 16 * n + (if c.isDigit then c.toNat - 48 else c.toNat - 55)) 0

/-- Reads `A`, `A-B` or `A-B/S`. -/
def CodeRange.ofWord (cs : List Char) : CodeRange :=
  let first := cs.takeWhile (· ≠ '-')
  let rest := (cs.dropWhile (· ≠ '-')).drop 1
  let last := rest.takeWhile (· ≠ '/')
  let step := (rest.dropWhile (· ≠ '/')).drop 1
  if rest = [] then ⟨natOfHex first, natOfHex first, 1⟩
  else ⟨natOfHex first, natOfHex last, if step = [] then 1 else natOfHex step⟩

/-- The words of a text, which spaces and line ends separate. -/
def words (cs : List Char) : List (List Char) :=
  let (word, rest) := cs.foldr (fun c (word, rest) =>
    if c = ' ' ∨ c = '\n' then ([], if word = [] then rest else word :: rest)
    else (c :: word, rest)) (([], []) : List Char × List (List Char))
  if word = [] then rest else word :: rest

def CodeSet.ofText (s : String) : CodeSet := ((words s.toList).map CodeRange.ofWord).toArray

/-- A set of code points and its names, of which the first is the preferred one. -/
structure NamedSet where
  names : List String
  codes : CodeSet

def NamedSet.table (s : String) : List NamedSet :=
  ((words s.toList).foldr (fun word (ranges, sets) =>
    if word.getLast? = some ':' then
      ([], ⟨(word.dropLast.splitOn '=').map String.ofList, ranges.toArray⟩ :: sets)
    else (CodeRange.ofWord word :: ranges, sets))
    (([], []) : List CodeRange × List NamedSet)).2

/-- What counts of a symbolic name: its ASCII letters and digits in small letters, without a
leading `is`. A name `isC` stands for itself and not for the name `C`. -/
def symbol (name : String) : List Char :=
  let cs := name.toList
  let strip (cs : List Char) :=
    (cs.filter fun c => c.toNat < 128 && c != ' ' && c != '_' && c != '-').map Char.toLower
  match cs with
  | i :: s :: rest =>
    if i.toLower = 'i' ∧ s.toLower = 's' then
      if strip rest = ['c'] then ['i', 's', 'c'] else strip rest
    else strip cs
  | _ => strip cs

def sameSymbol (a b : String) : Bool := symbol a == symbol b

end ComponentSpec.Unicode
