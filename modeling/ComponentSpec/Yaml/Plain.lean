import ComponentSpec.Yaml.Node

/-!
# ComponentSpec.Yaml.Plain

What a plain scalar stands for: nothing, a boolean, an integer, a floating-point number, or else
its own text.

* `Node.ofPlain?`: the value of a plain scalar; `none` for an integer of more than 64 bits that
  still has at most 128.
-/

namespace ComponentSpec.Yaml

def isNullWord (s : String) : Bool := s == "~" || s == "null" || s == "Null" || s == "NULL"

def booleanOfWord? (s : String) : Option Bool :=
  if s = "true" ∨ s = "True" ∨ s = "TRUE" then some true
  else if s = "false" ∨ s = "False" ∨ s = "FALSE" then some false
  else none

def digitValue (c : Char) : Nat :=
  if c.isDigit then c.toNat - 48
  else if 'a' ≤ c ∧ c ≤ 'f' then c.toNat - 87
  else if 'A' ≤ c ∧ c ≤ 'F' then c.toNat - 55
  else 16

/-- Reads a row of at least one digit. -/
def natOfBase? (base : Nat) (cs : List Char) : Option Nat :=
  if cs ≠ [] ∧ cs.all fun c => digitValue c < base then
    some (cs.foldl (fun n c => base * n + digitValue c) 0)
  else none

/-- Whether a row of digits has a zero in front of others. Such a row is no number. -/
def hasLeadingZero : List Char → Bool
  | '0' :: c :: cs => (c :: cs).all Char.isDigit
  | _ => false

def magnitude? : List Char → Option Nat
  | '0' :: 'x' :: ds => natOfBase? 16 ds
  | '0' :: 'o' :: ds => natOfBase? 8 ds
  | '0' :: 'b' :: ds => natOfBase? 2 ds
  | ds => if hasLeadingZero ds then none else natOfBase? 10 ds

def integerOfText? (cs : List Char) : Option Int :=
  let (negative, ds) := Decimal.readSign cs
  (magnitude? ds).map fun n => if negative then -(n : Int) else n

/-- Reads a floating-point number: an infinity, a NaN, or a decimal number whose value is
finite. -/
def floatOfText? (cs : List Char) : Option Binary64 :=
  let unsigned := match cs with
    | '+' :: rest => rest
    | _ => cs
  let isOneOf (words : List String) (cs : List Char) := words.contains (String.ofList cs)
  if cs ≠ unsigned ∧ (unsigned.head? = some '+' ∨ unsigned.head? = some '-') then none
  else if isOneOf [".inf", ".Inf", ".INF"] unsigned then some (.infinity false)
  else if isOneOf ["-.inf", "-.Inf", "-.INF"] cs then some (.infinity true)
  else if isOneOf [".nan", ".NaN", ".NAN"] cs then some .nan
  else
    match (Decimal.ofChars? unsigned).map Decimal.toBinary64 with
    | some x => if x.isFinite then some x else none
    | none => none

/-- The value of the text of an integer: an `Integer` if it has at most 64 bits, nothing if it has
at most 128, and otherwise `rest`. -/
def integerOr? (cs : List Char) (rest : Option Node) : Option Node :=
  match integerOfText? cs with
  | none => rest
  | some z =>
    match Integer.ofInt? z with
    | some n => some (.integer n)
    | none => if -twoTo 127 ≤ z ∧ z < twoTo 128 then none else rest

def Node.ofPlain? (s : String) : Option Node :=
  if s = "" ∨ isNullWord s then some .null
  else
    match booleanOfWord? s with
    | some b => some (.boolean b)
    | none =>
      integerOr? s.toList
        (if hasLeadingZero (Decimal.readSign s.toList).2 then some (.text s)
         else
           match floatOfText? s.toList with
           | some x => some (.float x)
           | none => some (.text s))

end ComponentSpec.Yaml
