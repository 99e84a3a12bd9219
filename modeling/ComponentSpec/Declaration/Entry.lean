import ComponentSpec.Declaration.Field

/-!
# ComponentSpec.Declaration.Entry

The two forms in which a message is declared: as a bare name, or as a mapping from the name to
fields.
-/

namespace ComponentSpec

open Yaml (Node Mapping)

/-- A declared message. A name may be followed by no fields at all. -/
inductive Entry where
  | bare (name : String)
  | named (name : String) (fields : Option Mapping)

namespace Entry

def name : Entry → String
  | bare name => name
  | named name _ => name

def fields? : Entry → Option Mapping
  | bare _ => none
  | named _ fields => fields

/-- The fields after a name. Only a null without a tag stands for no fields. -/
def readFields (bodyKind : Kind) (what name : String) (body : Node) : Checked (Option Mapping) :=
  match body with
  | .null => .ok none
  | body => (asMappingOr bodyKind body ("fields of " ++ what ++ " " ++ name)).map some

/-- Reads an entry. A body that is no mapping is reported as of the given kind. -/
def readAs (bodyKind : Kind) (v : Node) (what : String) : Checked Entry :=
  match v with
  | .mapping m => do
    let (name, body) ← singleEntry m what
    let fields ← readFields bodyKind what name body
    return named name fields
  | v => (asName v what).map bare

def read (v : Node) (what : String) : Checked Entry := readAs .invalidDocument v what

end Entry

end ComponentSpec
