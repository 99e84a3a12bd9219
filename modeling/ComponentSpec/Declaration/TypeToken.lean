import ComponentSpec.Diagnostic.Fault
import ComponentSpec.Model.Type
import ComponentSpec.Number.Decimal
import ComponentSpec.Text.Blank
import ComponentSpec.Text.Identifier

/-!
# ComponentSpec.Declaration.TypeToken

Types as they are written: the name of a primitive type, or a name and a count in square brackets.

* `readType`: the type of a token, or what is wrong with it.
-/

namespace ComponentSpec

def readCardinality (rest : List Char) : Except TypeFlaw UInt32 :=
  if rest.getLast? ≠ some ']' then .error .unterminated
  else
    let digits := rest.dropLast
    if digits = [] ∨ ¬ digits.all Char.isDigit then .error .notDecimal
    else if UInt32.size ≤ natOfDigits digits then .error .outOfRange
    else if natOfDigits digits = 0 then .error .zero
    else .ok (UInt32.ofNat (natOfDigits digits))

def readPrimitive (name : List Char) : Except TypeFlaw PrimitiveType :=
  if !isIdentifier name then .error .noName
  else
    match PrimitiveType.ofName? name with
    | some t => .ok t
    | none => .error .unknownName

/-- Reads a type without white space around it. Without brackets the count is 1; before an opening
bracket white space may stand. The count is checked before the name. -/
def readTrimmedType (cs : List Char) : Except TypeFlaw TypeDeclaration :=
  let name := cs.takeWhile (· ≠ '[')
  match cs.dropWhile (· ≠ '[') with
  | [] => (readPrimitive name).map fun t => ⟨t, 1⟩
  | _ :: rest => do
    let n ← readCardinality rest
    let t ← readPrimitive (trimRight name)
    return ⟨t, n⟩

def readType (token : String) : Except Fault TypeDeclaration :=
  (readTrimmedType (trim token.toList)).mapError (Fault.badType token)

end ComponentSpec
