import ComponentSpec.Assembly.StateMachine
import ComponentSpec.Declaration.Document
import ComponentSpec.Declaration.Message
import ComponentSpec.Pattern.StatePattern
import ComponentSpec.Registry.Registry

/-!
# ComponentSpec.Assembly.Component

Components from their declarations, each on its own: references to other components are not looked
at, but an alias must name a component that has been declared before.

* `Component.build`: the component of a definition.
* `assemble`: what a declaration stands for.
-/

namespace ComponentSpec

open Yaml (Mapping)

def Component.extent (c : Component) : Extent where
  commands := c.interface.commands.length
  notifications := c.interface.notifications.length
  properties := c.interface.properties.length
  subscriptions := c.subscriptions.length
  transitions := c.machine.transitions.length

def readEvents (fields : Mapping) : Traced Fault NameSet :=
  match fields.field? "events" with
  | none => .ok .empty
  | some v => do declareNames "event" (← .lift (asNames v "events"))

/-- The state machine of a definition with these events. -/
def readStateMachine (events : NameSet) (fields : Mapping) : Traced Fault StateMachine := do
  let body ← .lift (requiredField fields "statemachine" "component")
  let m ← .lift (asMapping body "statemachine")
  let states ← .lift (requiredField m "states" "statemachine")
  let states ← .lift (asNames states "states")
  let start ← .lift (requiredField m "start" "statemachine")
  let start ← .lift (asName start "start")
  let transitions ← .lift (TransitionDecl.readList (m.field? "transitions"))
  StateMachine.build statePattern? states events start transitions

def Component.build (name : String) (fields : Mapping) : Traced Fault Component := do
  let interface ← .lift (Interface.read (fields.field? "interface"))
  let subscriptions ← .lift (readUtilization (fields.field? "utilization"))
  let events ← readEvents fields
  let machine ← readStateMachine events fields
  let c : Component := ⟨interface, subscriptions, events, machine⟩
  .report (.built name c.extent)
  return c

/-- What a declaration stands for. -/
inductive Assembled where
  | component (c : Component)
  | aliasOf (target : String)
deriving DecidableEq

/-- Builds a declaration after the components of a registry. -/
def assemble (r : Registry) (name : String) : ComponentDecl → Traced Fault Assembled
  | .uses target =>
    if r.contains target then do
      .report (.aliasing name target)
      return .aliasOf target
    else .fail (.unknownUsed target name)
  | .definition fields => do return .component (← Component.build name fields)

end ComponentSpec
