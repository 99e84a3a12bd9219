import ComponentSpec.Model.Message
import ComponentSpec.Model.StateMachine

/-!
# ComponentSpec.Model.Component

Components: what they expose, what they use, their events and their state machine.
-/

namespace ComponentSpec

/-- What a component exposes to others. -/
structure Interface where
  commands : List Command
  notifications : List Notification
  properties : List Property
deriving DecidableEq

namespace Interface

def empty : Interface := ⟨[], [], []⟩

def hasNotification (i : Interface) (name : String) : Bool :=
  i.notifications.any fun n => n.name == name

def property? (i : Interface) (name : String) : Option Property :=
  i.properties.find? fun p => p.name == name

def hasProperty (i : Interface) (name : String) : Bool := (i.property? name).isSome

def same (i j : Interface) : Bool :=
  i.commands == j.commands && i.notifications == j.notifications &&
    sameList Property.same i.properties j.properties

end Interface

structure Component where
  interface : Interface
  subscriptions : List Subscription
  events : NameSet
  machine : StateMachine
deriving DecidableEq

/-- Equality of values, up to the order of events and states. -/
def Component.same (c d : Component) : Bool :=
  c.interface.same d.interface && sameList Subscription.same c.subscriptions d.subscriptions &&
    c.events.same d.events && c.machine.same d.machine

end ComponentSpec
