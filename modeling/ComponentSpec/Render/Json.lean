import ComponentSpec.Number.Layout

/-!
# ComponentSpec.Render.Json

Compact JSON texts.

* `Json`: a value, with fields in the order in which they are written.
* `Json.render`: its text.
-/

namespace ComponentSpec

inductive Json where
  | null
  | boolean (b : Bool)
  | integer (z : Int)
  | float (x : Binary64)
  | text (s : String)
  | list (items : List Json)
  | record (fields : List (String × Json))

namespace Json

/-- Floating-point numbers are written with the fewest digits and with `.0` or an exponent. What is
not finite has no notation and is written as `null`. -/
def numberLayout : NumberLayout where
  tie := .even
  positional := some (-5, 15)
  pointZero := true
  exponentMark := "e+"
  nan := "null"
  infinity := "null"
  negativeInfinity := "null"

def hexDigit (n : Nat) : Char := Nat.digitChar (n % 16)

/-- A character in a string. Quotes, backslashes and controls are escaped. -/
def escape (c : Char) : List Char :=
  if c = '"' then ['\\', '"']
  else if c = '\\' then ['\\', '\\']
  else if c = '\x08' then ['\\', 'b']
  else if c = '\t' then ['\\', 't']
  else if c = '\n' then ['\\', 'n']
  else if c = '\x0c' then ['\\', 'f']
  else if c = '\r' then ['\\', 'r']
  else if c.toNat < 32 then ['\\', 'u', '0', '0', hexDigit (c.toNat / 16), hexDigit c.toNat]
  else [c]

/-- A string between quotes. -/
def quote (s : String) : List Char := '"' :: s.toList.flatMap escape ++ ['"']

mutual

def renderChars : Json → List Char
  | .null => "null".toList
  | .boolean b => (if b then "true" else "false").toList
  | .integer z => (toString z).toList
  | .float x => (numberLayout.lay x).toList
  | .text s => quote s
  | .list xs => '[' :: renderItems xs ++ [']']
  | .record fs => '\x7b' :: renderFields fs ++ ['\x7d']

def renderItems : List Json → List Char
  | [] => []
  | [x] => renderChars x
  | x :: xs => renderChars x ++ ',' :: renderItems xs

def renderFields : List (String × Json) → List Char
  | [] => []
  | [(k, v)] => quote k ++ ':' :: renderChars v
  | (k, v) :: fs => quote k ++ ':' :: renderChars v ++ ',' :: renderFields fs

end

def render (v : Json) : String := String.ofList v.renderChars

/-- A value that may be absent, which is then null. -/
def ofOption {α : Type} (f : α → Json) : Option α → Json
  | none => .null
  | some a => f a

def texts (ss : List String) : Json := .list (ss.map .text)

end Json

end ComponentSpec
