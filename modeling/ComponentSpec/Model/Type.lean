/-!
# ComponentSpec.Model.Type

The types of properties: a primitive type and how many values of it.
-/

namespace ComponentSpec

inductive PrimitiveType where
  | char
  | int8
  | int16
  | int32
  | int64
  | uint8
  | uint16
  | uint32
  | uint64
  | bool
deriving DecidableEq

namespace PrimitiveType

def all : List PrimitiveType :=
  [char, int8, int16, int32, int64, uint8, uint16, uint32, uint64, bool]

theorem mem_all (t : PrimitiveType) : t ∈ all := by cases t <;> decide

/-- The name of a type in documents. -/
def name : PrimitiveType → String
  | char => "char"
  | int8 => "int8"
  | int16 => "int16"
  | int32 => "int32"
  | int64 => "int64"
  | uint8 => "uint8"
  | uint16 => "uint16"
  | uint32 => "uint32"
  | uint64 => "uint64"
  | bool => "bool"

/-- The name of a type in generated code. -/
def codeName : PrimitiveType → String
  | char => "char"
  | int8 => "int8_t"
  | int16 => "int16_t"
  | int32 => "int32_t"
  | int64 => "int64_t"
  | uint8 => "uint8_t"
  | uint16 => "uint16_t"
  | uint32 => "uint32_t"
  | uint64 => "uint64_t"
  | bool => "bool"

/-- The type of a name, in any case of ASCII letters. `byte` also names `uint8`. -/
def ofName? (cs : List Char) : Option PrimitiveType :=
  let folded := cs.map Char.toLower
  if folded = "byte".toList then some uint8 else all.find? fun t => t.name.toList == folded

end PrimitiveType

/-- A primitive type and a count of values, which is an array if there are several. -/
structure TypeDeclaration where
  primitive : PrimitiveType
  cardinality : UInt32
deriving DecidableEq

namespace TypeDeclaration

def isArray (t : TypeDeclaration) : Bool := 1 < t.cardinality

def display (t : TypeDeclaration) : String :=
  if t.isArray then t.primitive.codeName ++ " [" ++ toString t.cardinality.toNat ++ "]"
  else t.primitive.codeName

end TypeDeclaration

end ComponentSpec
