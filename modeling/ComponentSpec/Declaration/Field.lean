import ComponentSpec.Diagnostic.Fault
import ComponentSpec.Model.Literal

/-!
# ComponentSpec.Declaration.Field

Reading values of the expected shape out of a document. A reader takes the name of what is read,
for the wording of a fault.

Mappings are read through tags, and a field whose value is null, also under tags, counts as absent.
Lists and scalars are not read through tags.
-/

namespace ComponentSpec

open Yaml (Node Mapping)

/-- A result, or the cause of its failure. -/
abbrev Checked (α : Type) := Except Fault α

/-- A value of the wrong shape in the document. -/
def unexpected {α : Type} (what : String) (expected : Expected) (v : Node) : Checked α :=
  .error (.wrongShape .invalidDocument what expected v.shape)

def requiredField (m : Mapping) (key what : String) : Checked Node :=
  match m.field? key with
  | some v => .ok v
  | none => .error (.missing what key)

/-- A mapping. One of another shape is reported as of the given kind. -/
def asMappingOr (kind : Kind) (v : Node) (what : String) : Checked Mapping :=
  match v.asMapping? with
  | some m => .ok m
  | none => .error (.wrongShape kind what .mapping v.shape)

def asMapping (v : Node) (what : String) : Checked Mapping := asMappingOr .invalidDocument v what

/-- A list. A null is an empty one. -/
def asSequence (v : Node) (what : String) : Checked (List Node) :=
  match v with
  | .null => .ok []
  | .sequence xs => .ok xs
  | v => unexpected what .list v

def booleanText (b : Bool) : String := if b then "true" else "false"

/-- The text of a scalar: a text itself, or the notation of a number or boolean. -/
def scalarText? : Node → Option String
  | .text s => some s
  | .integer n => some (toString n.value)
  | .float x => some (Yaml.numberLayout.lay x)
  | .boolean b => some (booleanText b)
  | _ => none

def asName (v : Node) (what : String) : Checked String :=
  match scalarText? v with
  | some s => .ok s
  | none => unexpected what .name v

/-- The literal of a scalar. An integer that does not fit a signed one is unsigned. -/
def literal? : Node → Option Literal
  | .boolean b => some (.boolean b)
  | .integer n =>
    some (if n.value < 9223372036854775808 then .integer (Int64.ofInt n.value)
      else .unsigned (UInt64.ofNat n.value.toNat))
  | .float x => some (.float x)
  | .text s => some (.text s)
  | _ => none

def asLiteral (v : Node) (what : String) : Checked Literal :=
  match literal? v with
  | some l => .ok l
  | none => unexpected what .scalar v

def asBoolean (v : Node) (what : String) : Checked Bool :=
  match v with
  | .boolean b => .ok b
  | v => unexpected what .boolean v

/-- The wording for the value of a field. -/
def fieldOf (key what : String) : String := "'" ++ key ++ "' of " ++ what

def optionalField {α : Type} (read : Node → String → Checked α) (m : Mapping)
    (key what : String) : Checked (Option α) :=
  match m.field? key with
  | none => .ok none
  | some v => (read v (fieldOf key what)).map some

def optionalName (m : Mapping) (key what : String) : Checked (Option String) :=
  optionalField asName m key what

def optionalBoolean (m : Mapping) (key what : String) : Checked (Option Bool) :=
  optionalField asBoolean m key what

def optionalLiteral (m : Mapping) (key what : String) : Checked (Option Literal) :=
  optionalField asLiteral m key what

/-- Reads the items of a list in order, up to the first fault. -/
def readAll {α : Type} (read : Node → Checked α) : List Node → Checked (List α)
  | [] => .ok []
  | x :: xs => do
    let a ← read x
    let as ← readAll read xs
    return a :: as

def asNames (v : Node) (what : String) : Checked (List String) := do
  readAll (fun x => asName x ("entry of " ++ what)) (← asSequence v what)

/-- The key and value of a mapping with one entry. -/
def singleEntry (m : Mapping) (what : String) : Checked (String × Node) :=
  match m with
  | [(k, v)] => (asName k ("name of " ++ what)).map fun name => (name, v)
  | [] => .error (.emptyMapping what)
  | m => .error (.severalKeys what (m.map fun e => (scalarText? e.1).getD "?"))

end ComponentSpec
