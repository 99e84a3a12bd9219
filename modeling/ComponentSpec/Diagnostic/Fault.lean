import ComponentSpec.Diagnostic.Kind
import ComponentSpec.Yaml.Node

/-!
# ComponentSpec.Diagnostic.Fault

The causes of failures, with what a message needs to name.

* `Fault`: a cause.
* `Fault.kind` and `Fault.message`: its kind and its wording.
-/

namespace ComponentSpec

open Yaml (Shape)

inductive Expected where
  | mapping
  | list
  | name
  | boolean
  | scalar
deriving DecidableEq

def Expected.describe : Expected → String
  | .mapping => "a mapping"
  | .list => "a list"
  | .name => "a name"
  | .boolean => "a boolean"
  | .scalar => "a scalar value"

inductive TypeFlaw where
  | unterminated
  | notDecimal
  | outOfRange
  | zero
  | noName
  | unknownName
deriving DecidableEq

def TypeFlaw.describe : TypeFlaw → String
  | .unterminated => "unterminated '['"
  | .notDecimal => "cardinality must be a decimal number"
  | .outOfRange => "cardinality out of range"
  | .zero => "cardinality must be at least 1"
  | .noName => "expected a type name"
  | .unknownName => "unknown type"

/-- A cause of a failure. `what` names the part of the document at fault. -/
inductive Fault where
  | malformedText
  | emptyDocument
  /-- A value of the wrong shape, reported as of the given kind. -/
  | wrongShape (kind : Kind) (what : String) (expected : Expected) (found : Shape)
  | missing (what key : String)
  | emptyMapping (what : String)
  | severalKeys (what : String) (keys : List String)
  | badType (token : String) (flaw : TypeFlaw)
  | propertyWithoutFields (property : String)
  | propertyWithoutType (property : String)
  | typeNotText (property : String)
  | conflictingRouting (command event forward : String)
  | unknownStart (start : String)
  | badPattern (pattern : String)
  | noMatchingState (pattern : String)
  | unknownNext (next : String)
  | unknownEvent (event : String)
  | duplicateTransition (state next event : String)
  | unknownUsed (target component : String)
  | duplicateComponent (component : String)
  | malformedReference (subscription component : String)
  | unknownPublisher (subscription component publisher : String)
  | unknownNotification (subscription component notification publisher : String)
  | unknownChange (subscription component property : String)
  | dottedCommand (command component : String)
  | dottedNotification (notification component : String)
  | unknownLink (property component notification : String)
deriving DecidableEq

namespace Fault

def kind : Fault → Kind
  | malformedText => .malformedText
  | emptyDocument => .invalidDocument
  | wrongShape kind .. => kind
  | missing .. => .invalidDocument
  | emptyMapping .. => .invalidDocument
  | severalKeys .. => .invalidDocument
  | badType .. => .invalidTypeDeclaration
  | propertyWithoutFields .. => .invalidPropertySpec
  | propertyWithoutType .. => .invalidPropertySpec
  | typeNotText .. => .invalidTypeDeclaration
  | conflictingRouting .. => .conflictingMessageRouting
  | unknownStart .. => .unknownStartState
  | badPattern .. => .invalidStatePattern
  | noMatchingState .. => .noMatchingState
  | unknownNext .. => .unknownNextState
  | unknownEvent .. => .unknownEvent
  | duplicateTransition .. => .duplicateTransition
  | unknownUsed .. => .unknownUsedComponent
  | duplicateComponent .. => .duplicateComponent
  | malformedReference .. => .malformedReference
  | unknownPublisher .. => .unknownComponentReference
  | unknownNotification .. => .unknownNotificationReference
  | unknownChange .. => .unknownPropertyReference
  | dottedCommand .. => .invalidLocalName
  | dottedNotification .. => .invalidLocalName
  | unknownLink .. => .unknownPropertyNotificationLink

def message : Fault → String
  | malformedText => "text is not a well-formed document"
  | emptyDocument => "document is empty"
  | wrongShape _ what expected found =>
    what ++ " must be " ++ expected.describe ++ ", found " ++ found.describe
  | missing what key => what ++ " is missing '" ++ key ++ "'"
  | emptyMapping what => what ++ " is an empty mapping"
  | severalKeys what keys =>
    what ++ " must have exactly one key, found [" ++ String.intercalate ", " keys ++
      "] (check indentation)"
  | badType token flaw =>
    "invalid property type declaration '" ++ token ++ "': " ++ flaw.describe
  | propertyWithoutFields property =>
    "property " ++ property ++ " must be a mapping declaring at least its type"
  | propertyWithoutType property => "property " ++ property ++ " is missing 'type'"
  | typeNotText property =>
    "'type' of property " ++ property ++ " must be a type name such as int32 or byte[4]"
  | conflictingRouting command event forward =>
    "command " ++ command ++ " may either raise event " ++ event ++ " or forward to " ++
      forward ++ ", not both"
  | unknownStart start => "unknown start state: " ++ start
  | badPattern pattern =>
    "state pattern '" ++ pattern ++ "' is not a valid regular expression"
  | noMatchingState pattern =>
    "state " ++ pattern ++ " matches no state of the state machine"
  | unknownNext next => "next state " ++ next ++ " not in state machine"
  | unknownEvent event => "event " ++ event ++ " not in events"
  | duplicateTransition state next event =>
    "transition (" ++ state ++ " -> " ++ next ++ " / " ++ event ++ ") already exists"
  | unknownUsed target component =>
    "unknown component " ++ target ++ " used in component " ++ component
  | duplicateComponent component => "component " ++ component ++ " is declared more than once"
  | malformedReference subscription component =>
    "utilized notification " ++ subscription ++ " of " ++ component ++
      " must have the form <component>.<notification>"
  | unknownPublisher subscription component publisher =>
    "utilized notification " ++ subscription ++ " of " ++ component ++
      " refers to unknown component " ++ publisher
  | unknownNotification subscription component notification publisher =>
    "utilized notification " ++ subscription ++ " of " ++ component ++
      " refers to unknown notification " ++ notification ++ " of " ++ publisher
  | unknownChange subscription component property =>
    "utilized notification " ++ subscription ++ " of " ++ component ++
      " changes unknown property " ++ property
  | dottedCommand command component =>
    "command " ++ command ++ " of " ++ component ++ " must not contain '.'"
  | dottedNotification notification component =>
    "interface notification " ++ notification ++ " of " ++ component ++ " must not contain '.'"
  | unknownLink property component notification =>
    "property " ++ property ++ " of " ++ component ++ " refers to unknown notification " ++
      notification

end Fault

end ComponentSpec
