import ComponentSpec.Unicode.Age
import ComponentSpec.Unicode.Property
import ComponentSpec.Unicode.Script
import ComponentSpec.Unicode.Segmentation
import ComponentSpec.Text.Blank

/-!
# ComponentSpec.Unicode.Lookup

Sets of characters by the names of properties and of their values.

* `named?`: a property that holds or does not hold, a general category or a script.
* `valued?`: the characters with a value of a property.
-/

namespace ComponentSpec.Unicode

/-- The set of a single name. A property comes before a category and a category before a script;
`cf`, `sc` and `lc`, which also abbreviate properties, are categories. -/
def named? (name : String) : Option CharSet :=
  let byProperty :=
    if ["cf", "sc", "lc"].any (sameSymbol name) then none else Property.named? name
  byProperty.or ((Category.named? name).or (Script.named? name))

def valued? (property value : String) : Option CharSet :=
  let is (names : List String) := names.any (sameSymbol property)
  if is ["General_Category", "gc"] then Category.named? value
  else if is ["Script", "sc"] then Script.named? value
  else if is ["Script_Extensions", "scx"] then Script.usedIn? value
  else if is ["Age"] then Age.named? value
  else if is ["Grapheme_Cluster_Break", "GCB"] then
    Segmentation.named? Segmentation.graphemeCluster value
  else if is ["Word_Break", "WB"] then Segmentation.named? Segmentation.word value
  else if is ["Sentence_Break", "SB"] then Segmentation.named? Segmentation.sentence value
  else none

/-- Word characters: letters and what counts as such, marks, decimal digits, connecting
punctuation and the joiners. -/
def isWord (c : Char) : Bool :=
  if c.toNat < 128 then c.isAlphanum || c == '_'
  else
    Property.isAlphabetic c || Category.isIn ["Mn", "Mc", "Me", "Nd", "Pc"] c ||
      Property.joinControl.contains c

def isDigit (c : Char) : Bool := Category.decimalNumber.contains c

def isSpace (c : Char) : Bool := isBlank c

end ComponentSpec.Unicode
