import ComponentSpec.Model.Component
import ComponentSpec.Yaml.Node

/-!
# ComponentSpec.Render.Definition

Components as the definitions that declare them.

* `Component.toFields`: the fields of a definition.

Names are texts, and the pattern of a transition is the name of its state. What is absent is left
out.
-/

namespace ComponentSpec

open Yaml (Node Mapping Integer)

def Yaml.Integer.ofSigned (n : Int64) : Integer where
  value := n.toInt
  lower := n.le_toInt
  upper := by have := n.toInt_lt; omega

def Yaml.Integer.ofUnsigned (n : UInt64) : Integer where
  value := n.toNat
  lower := by omega
  upper := by have := n.toNat_lt; omega

def Literal.toNode : Literal → Node
  | .boolean b => .boolean b
  | .integer n => .integer (.ofSigned n)
  | .unsigned n => .integer (.ofUnsigned n)
  | .float x => .float x
  | .text s => .text s

def fieldEntry (key : String) (v : Node) : Node × Node := (.text key, v)

def optionalEntry {α : Type} (f : α → Node) (key : String) : Option α → Mapping
  | none => []
  | some a => [fieldEntry key (f a)]

/-- A message: its name and its fields. -/
def messageNode (name : String) (fields : Mapping) : Node :=
  .mapping [fieldEntry name (.mapping fields)]

def namesNode (names : List String) : Node := .sequence (names.map .text)

/-- The written form of a type: its name and its count in square brackets. -/
def TypeDeclaration.token (t : TypeDeclaration) : String :=
  t.primitive.name ++ "[" ++ toString t.cardinality.toNat ++ "]"

def Command.toNode (k : Command) : Node :=
  messageNode k.name
    (optionalEntry .text "event" k.event ++ optionalEntry .text "forward" k.forward)

def Notification.toNode (n : Notification) : Node := messageNode n.name []

def Property.toNode (p : Property) : Node :=
  messageNode p.name
    (fieldEntry "type" (.text p.type.token) ::
      (optionalEntry Literal.toNode "value" p.value ++ optionalEntry Literal.toNode "min" p.min ++
        optionalEntry Literal.toNode "max" p.max ++
        optionalEntry .text "notification" p.notification ++
        [fieldEntry "readonly" (.boolean p.readonly)]))

def PropertyChange.toNode (c : PropertyChange) : Node :=
  .mapping [fieldEntry "property" (.text c.property), fieldEntry "value" c.value.toNode]

def Subscription.toNode (s : Subscription) : Node :=
  messageNode s.name
    (optionalEntry .text "event" s.event ++ optionalEntry .text "action" s.action ++
      optionalEntry PropertyChange.toNode "change" s.change)

def Interface.toNode (i : Interface) : Node :=
  .mapping
    [ fieldEntry "commands" (.sequence (i.commands.map Command.toNode)),
      fieldEntry "notifications" (.sequence (i.notifications.map Notification.toNode)),
      fieldEntry "properties" (.sequence (i.properties.map Property.toNode)) ]

def Transition.toNode (t : Transition) : Node :=
  .mapping
    ([ fieldEntry "state" (.text t.state), fieldEntry "next" (.text t.next),
       fieldEntry "event" (.text t.event) ] ++ optionalEntry .text "action" t.action)

def StateMachine.toNode (m : StateMachine) : Node :=
  .mapping
    [ fieldEntry "states" (namesNode m.states.names), fieldEntry "start" (.text m.start),
      fieldEntry "transitions" (.sequence (m.transitions.map Transition.toNode)) ]

/-- The fields of the definition of a component. -/
def Component.toFields (c : Component) : Mapping :=
  [ fieldEntry "interface" c.interface.toNode,
    fieldEntry "utilization"
      (.mapping [fieldEntry "notifications" (.sequence (c.subscriptions.map Subscription.toNode))]),
    fieldEntry "events" (namesNode c.events.names),
    fieldEntry "statemachine" c.machine.toNode ]

end ComponentSpec
