import ComponentSpec.Declaration.Entry
import ComponentSpec.Declaration.TypeToken
import ComponentSpec.Model.Component

/-!
# ComponentSpec.Declaration.Message

Reading the messages of a component, and the two sections that hold them.
-/

namespace ComponentSpec

open Yaml (Node Mapping)

namespace Command

def readFields (name : String) (fields : Mapping) : Checked Command := do
  let what := "command " ++ name
  let event ← optionalName fields "event" what
  let forward ← optionalName fields "forward" what
  match event, forward with
  | some e, some f => .error (.conflictingRouting name e f)
  | event, forward => return ⟨name, event, forward⟩

/-- Reads `Name` or `Name: ...` with an `event` or a `forward`, not both. -/
def read (v : Node) : Checked Command := do
  let entry ← Entry.read v "command"
  match entry.fields? with
  | none => return ofName entry.name
  | some fields => readFields entry.name fields

end Command

/-- Reads `Name` or `Name: ...`, where the fields count for nothing. -/
def Notification.read (v : Node) : Checked Notification :=
  (Entry.read v "notification").map fun entry => ⟨entry.name⟩

namespace Property

def readDeclaredType (name : String) (fields : Mapping) : Checked TypeDeclaration :=
  match fields.field? "type" with
  | none => .error (.propertyWithoutType name)
  | some v =>
    match v.asText? with
    | none => .error (.typeNotText name)
    | some token => readType token

def readFields (name : String) (fields : Mapping) : Checked Property := do
  let what := "property " ++ name
  let type ← readDeclaredType name fields
  let value ← optionalLiteral fields "value" what
  let min ← optionalLiteral fields "min" what
  let max ← optionalLiteral fields "max" what
  let notification ← optionalName fields "notification" what
  let readonly ← optionalBoolean fields "readonly" what
  return ⟨name, type, value, min, max, notification, readonly.getD false⟩

/-- Reads `Name: ...` with at least a `type`. -/
def read (v : Node) : Checked Property := do
  let entry ← Entry.readAs .invalidPropertySpec v "property"
  match entry.fields? with
  | none => .error (.propertyWithoutFields entry.name)
  | some fields => readFields entry.name fields

end Property

def PropertyChange.read (v : Node) (what : String) : Checked PropertyChange := do
  let m ← asMapping v what
  let property ← asName (← requiredField m "property" what) what
  let value ← asLiteral (← requiredField m "value" what) what
  return ⟨property, value⟩

namespace Subscription

def readFields (name : String) (fields : Mapping) : Checked Subscription := do
  let what := "subscribed notification " ++ name
  let event ← optionalName fields "event" what
  let action ← optionalName fields "action" what
  let change ← optionalField PropertyChange.read fields "change" what
  return ⟨name, event, action, change⟩

/-- Reads `Publisher.Name` or `Publisher.Name: ...` with an `event`, an `action` and a
`change`. -/
def read (v : Node) : Checked Subscription := do
  let entry ← Entry.read v "subscribed notification"
  match entry.fields? with
  | none => return ofName entry.name
  | some fields => readFields entry.name fields

end Subscription

/-- Reads a field that holds a list; an absent one is empty. -/
def readListField {α : Type} (read : Node → Checked α) (m : Mapping) (key what : String) :
    Checked (List α) :=
  match m.field? key with
  | none => .ok []
  | some v => do readAll read (← asSequence v (fieldOf key what))

/-- A section that is absent or null is left out. -/
def present? : Option Node → Option Node := Option.filter fun v => !v.isNull

def Interface.read (section? : Option Node) : Checked Interface :=
  match present? section? with
  | none => .ok .empty
  | some v => do
    let m ← asMapping v "interface"
    let commands ← readListField Command.read m "commands" "interface"
    let notifications ← readListField Notification.read m "notifications" "interface"
    let properties ← readListField Property.read m "properties" "interface"
    return ⟨commands, notifications, properties⟩

def readUtilization (section? : Option Node) : Checked (List Subscription) :=
  match present? section? with
  | none => .ok []
  | some v => do
    let m ← asMapping v "utilization"
    readListField Subscription.read m "notifications" "utilization"

end ComponentSpec
