/-!
# ComponentSpec.Diagnostic.Kind

The kinds of failures of a compilation, each with a code, a category and a name.
-/

namespace ComponentSpec

inductive Kind where
  /-- The text is no document at all. -/
  | malformedText
  /-- The document does not have the expected shape. -/
  | invalidDocument
  /-- A type is malformed or names no primitive type. -/
  | invalidTypeDeclaration
  /-- A property has no fields or no type. -/
  | invalidPropertySpec
  | conflictingMessageRouting
  | unknownStartState
  | invalidStatePattern
  | noMatchingState
  | unknownNextState
  | unknownEvent
  /-- A transition of this state, target and event already exists. -/
  | duplicateTransition
  /-- An alias names no component declared before it. -/
  | unknownUsedComponent
  | duplicateComponent
  /-- The name of a command or notification contains the separator. -/
  | invalidLocalName
  /-- A subscription does not name a publisher and a notification. -/
  | malformedReference
  | unknownComponentReference
  | unknownNotificationReference
  | unknownPropertyReference
  | unknownPropertyNotificationLink
deriving DecidableEq

namespace Kind

/-- All kinds, in the order of their codes. -/
def all : List Kind :=
  [ malformedText, invalidDocument, invalidTypeDeclaration, invalidPropertySpec,
    conflictingMessageRouting, unknownStartState, invalidStatePattern, noMatchingState,
    unknownNextState, unknownEvent, duplicateTransition, unknownUsedComponent, duplicateComponent,
    invalidLocalName, malformedReference, unknownComponentReference, unknownNotificationReference,
    unknownPropertyReference, unknownPropertyNotificationLink ]

theorem mem_all (k : Kind) : k ∈ all := by cases k <;> decide

inductive Category where
  | document
  | entry
  | stateMachine
  | component
  | reference
deriving DecidableEq

def category : Kind → Category
  | malformedText | invalidDocument => .document
  | invalidTypeDeclaration | invalidPropertySpec | conflictingMessageRouting => .entry
  | unknownStartState | invalidStatePattern | noMatchingState | unknownNextState | unknownEvent
  | duplicateTransition => .stateMachine
  | unknownUsedComponent | duplicateComponent => .component
  | invalidLocalName | malformedReference | unknownComponentReference
  | unknownNotificationReference | unknownPropertyReference
  | unknownPropertyNotificationLink => .reference

def Category.describe : Category → String
  | .document => "document error"
  | .entry => "entry error"
  | .stateMachine => "state machine error"
  | .component => "component error"
  | .reference => "reference error"

/-- The code of a kind. Its first two digits tell the category, the last two the kind in it. -/
def code : Kind → String
  | malformedText => "E0101"
  | invalidDocument => "E0102"
  | invalidTypeDeclaration => "E0201"
  | invalidPropertySpec => "E0202"
  | conflictingMessageRouting => "E0203"
  | unknownStartState => "E0301"
  | invalidStatePattern => "E0302"
  | noMatchingState => "E0303"
  | unknownNextState => "E0304"
  | unknownEvent => "E0305"
  | duplicateTransition => "E0306"
  | unknownUsedComponent => "E0401"
  | duplicateComponent => "E0402"
  | invalidLocalName => "E0501"
  | malformedReference => "E0502"
  | unknownComponentReference => "E0503"
  | unknownNotificationReference => "E0504"
  | unknownPropertyReference => "E0505"
  | unknownPropertyNotificationLink => "E0506"

/-- Whether failures of a kind show only when every component has been built. -/
def isCrossReference (k : Kind) : Bool := k.category == .reference

def name : Kind → String
  | malformedText => "Syntax"
  | invalidDocument => "InvalidDocument"
  | invalidTypeDeclaration => "InvalidTypeDeclaration"
  | invalidPropertySpec => "InvalidPropertySpec"
  | conflictingMessageRouting => "ConflictingMessageRouting"
  | unknownStartState => "UnknownStartState"
  | invalidStatePattern => "InvalidStatePattern"
  | noMatchingState => "NoMatchingState"
  | unknownNextState => "UnknownNextState"
  | unknownEvent => "UnknownEvent"
  | duplicateTransition => "DuplicateTransition"
  | unknownUsedComponent => "UnknownUsedComponent"
  | duplicateComponent => "DuplicateComponent"
  | invalidLocalName => "InvalidLocalName"
  | malformedReference => "MalformedReference"
  | unknownComponentReference => "UnknownComponentReference"
  | unknownNotificationReference => "UnknownNotificationReference"
  | unknownPropertyReference => "UnknownPropertyReference"
  | unknownPropertyNotificationLink => "UnknownPropertyNotificationLink"

def ofName? (s : String) : Option Kind := all.find? fun k => k.name == s

end Kind

end ComponentSpec
