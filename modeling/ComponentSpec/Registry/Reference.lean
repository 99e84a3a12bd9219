import ComponentSpec.Diagnostic.Report
import ComponentSpec.Registry.Registry

/-!
# ComponentSpec.Registry.Reference

The references of components to the parts of others and of themselves. They are checked when all
components are known, so that a subscription may name a later component.

* `Component.violation?`: the first violation in a component.
* `Registry.violation?`: the first violation in all definitions.
-/

namespace ComponentSpec

def Subscription.violation? (r : Registry) (name : String) (c : Component) (s : Subscription) :
    Option Fault :=
  match s.reference? with
  | none => some (.malformedReference s.name name)
  | some (publisher, notification) =>
    match r.component? publisher with
    | none => some (.unknownPublisher s.name name publisher)
    | some peer =>
      if !peer.interface.hasNotification notification then
        some (.unknownNotification s.name name notification publisher)
      else
        match s.change with
        | none => none
        | some change =>
          if c.interface.hasProperty change.property then none
          else some (.unknownChange s.name name change.property)

/-- A command must not look like one of another component. -/
def Command.violation? (name : String) (k : Command) : Option Fault :=
  if isDotted k.name then some (.dottedCommand k.name name) else none

def Notification.violation? (name : String) (n : Notification) : Option Fault :=
  if isDotted n.name then some (.dottedNotification n.name name) else none

def Property.violation? (name : String) (i : Interface) (p : Property) : Option Fault :=
  match p.notification with
  | none => none
  | some notification =>
    if i.hasNotification notification then none else some (.unknownLink p.name name notification)

/-- The first violation in a component: in its subscriptions, then in its commands, its
notifications and its properties. -/
def Component.violation? (r : Registry) (name : String) (c : Component) : Option Fault :=
  (c.subscriptions.findSome? (Subscription.violation? r name c)).or <|
    (c.interface.commands.findSome? (Command.violation? name)).or <|
    (c.interface.notifications.findSome? (Notification.violation? name)).or <|
    c.interface.properties.findSome? (Property.violation? name c.interface)

/-- The first violation. An alias shares the component of a definition and is not checked again. -/
def Registry.violation? (r : Registry) : Option Diagnostic :=
  r.definitions.findSome? fun b =>
    (b.object.component.violation? r b.name).map (Diagnostic.ofFaultIn b.name)

end ComponentSpec
