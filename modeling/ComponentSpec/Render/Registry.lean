import ComponentSpec.Registry.Registry
import ComponentSpec.Render.Json

/-!
# ComponentSpec.Render.Registry

Compiled documents as JSON.

* `Registry.toJson`: all components by name, and the aliases with the definitions they share.
* `Registry.serialize`: the text.
-/

namespace ComponentSpec

def Literal.toJson : Literal → Json
  | .boolean b => .boolean b
  | .integer n => .integer n.toInt
  | .unsigned n => .integer n.toNat
  | .float x => .float x
  | .text s => .text s

def optionalText : Option String → Json := Json.ofOption .text

def TypeDeclaration.toJson (t : TypeDeclaration) : Json :=
  .record [("type", .text t.primitive.name), ("cardinality", .integer t.cardinality.toNat)]

def Command.toJson (k : Command) : Json :=
  .record
    [("name", .text k.name), ("event", optionalText k.event), ("forward", optionalText k.forward)]

def Notification.toJson (n : Notification) : Json := .record [("name", .text n.name)]

def Property.toJson (p : Property) : Json :=
  .record
    [ ("name", .text p.name), ("type", p.type.toJson),
      ("value", Json.ofOption Literal.toJson p.value), ("min", Json.ofOption Literal.toJson p.min),
      ("max", Json.ofOption Literal.toJson p.max), ("notification", optionalText p.notification),
      ("readonly", .boolean p.readonly) ]

def PropertyChange.toJson (c : PropertyChange) : Json :=
  .record [("property", .text c.property), ("value", c.value.toJson)]

def Subscription.toJson (s : Subscription) : Json :=
  .record
    [ ("name", .text s.name), ("event", optionalText s.event), ("action", optionalText s.action),
      ("change", Json.ofOption PropertyChange.toJson s.change) ]

def Interface.toJson (i : Interface) : Json :=
  .record
    [ ("commands", .list (i.commands.map Command.toJson)),
      ("notifications", .list (i.notifications.map Notification.toJson)),
      ("properties", .list (i.properties.map Property.toJson)) ]

def Transition.toJson (t : Transition) : Json :=
  .record
    [ ("state", .text t.state), ("next", .text t.next), ("event", .text t.event),
      ("action", optionalText t.action) ]

def StateMachine.toJson (m : StateMachine) : Json :=
  .record
    [ ("states", Json.texts m.states.names), ("start", .text m.start),
      ("transitions", .list (m.transitions.map Transition.toJson)) ]

def Component.toJson (c : Component) : Json :=
  .record
    [ ("interface", c.interface.toJson),
      ("utilization",
        .record [("notifications", .list (c.subscriptions.map Subscription.toJson))]),
      ("events", Json.texts c.events.names), ("statemachine", c.machine.toJson) ]

def Registry.toJson (r : Registry) : Json :=
  .record
    [ ("components", .record (r.components.entries.map fun e => (e.1, e.2.component.toJson))),
      ("aliases", .record (r.aliases.entries.map fun e => (e.1, .text e.2))) ]

def Registry.serialize (r : Registry) : String := r.toJson.render

end ComponentSpec
