import ComponentSpec.Unicode.Property

/-!
# ComponentSpec.Text.Identifier

Names in the sense of the standard for identifiers: a letter or `_`, then letters, digits, marks
and connectors of any script.
-/

namespace ComponentSpec

def isIdentifierStart (c : Char) : Bool :=
  if c.toNat < 128 then c.isAlpha || c == '_' else Unicode.Property.isXidStart c

def isIdentifierContinue (c : Char) : Bool :=
  if c.toNat < 128 then c.isAlphanum || c == '_' else Unicode.Property.isXidContinue c

def isIdentifier : List Char → Bool
  | [] => false
  | c :: cs => isIdentifierStart c && cs.all isIdentifierContinue

end ComponentSpec
