import ComponentSpec.Model.Literal
import ComponentSpec.Model.Type

/-!
# ComponentSpec.Model.Message

What components exchange: commands, notifications, properties, and subscriptions to the
notifications of others.

* `normalizedName`: a name without separators, as code uses it.
* `Subscription.reference?`: the publisher and notification that a subscription names.
-/

namespace ComponentSpec

def separator : Char := '.'

def isDotted (name : String) : Bool := name.toList.contains separator

/-- A name without its separators. -/
def normalizedName (name : String) : String :=
  String.ofList (name.toList.filter (· ≠ separator))

/-- A request that a component accepts. It may raise an event or be forwarded. -/
structure Command where
  name : String
  event : Option String
  forward : Option String
deriving DecidableEq

/-- A fact that a component makes known. -/
structure Notification where
  name : String
deriving DecidableEq

/-- A typed value that a component exposes. -/
structure Property where
  name : String
  type : TypeDeclaration
  value : Option Literal
  min : Option Literal
  max : Option Literal
  /-- The notification of a change of the value. -/
  notification : Option String
  readonly : Bool
deriving DecidableEq

structure PropertyChange where
  property : String
  value : Literal
deriving DecidableEq

/-- A notification of a peer that a component uses, and what it does then. -/
structure Subscription where
  name : String
  event : Option String
  action : Option String
  change : Option PropertyChange
deriving DecidableEq

def Command.ofName (name : String) : Command := ⟨name, none, none⟩

def Subscription.ofName (name : String) : Subscription := ⟨name, none, none, none⟩

/-- The publisher and the notification of a subscription whose name is the one, the separator and
the other, none of them with a separator in it. -/
def Subscription.reference? (s : Subscription) : Option (String × String) :=
  let publisher := s.name.toList.takeWhile (· ≠ separator)
  match s.name.toList.dropWhile (· ≠ separator) with
  | [] => none
  | _ :: notification =>
    if notification.contains separator then none
    else some (String.ofList publisher, String.ofList notification)

/-- The names of the functions that read a property and, unless it is readonly, write it. -/
def Property.accessors (p : Property) : List String :=
  ("Get" ++ normalizedName p.name) ::
    (if p.readonly then [] else ["Set" ++ normalizedName p.name])

def sameOption {α : Type} (same : α → α → Bool) : Option α → Option α → Bool
  | none, none => true
  | some a, some b => same a b
  | _, _ => false

def sameList {α : Type} (same : α → α → Bool) : List α → List α → Bool
  | [], [] => true
  | a :: as, b :: bs => same a b && sameList same as bs
  | _, _ => false

def Property.same (p q : Property) : Bool :=
  p.name == q.name && p.type == q.type && sameOption Literal.same p.value q.value &&
    sameOption Literal.same p.min q.min && sameOption Literal.same p.max q.max &&
    p.notification == q.notification && p.readonly == q.readonly

def PropertyChange.same (c d : PropertyChange) : Bool :=
  c.property == d.property && c.value.same d.value

def Subscription.same (s t : Subscription) : Bool :=
  s.name == t.name && s.event == t.event && s.action == t.action &&
    sameOption PropertyChange.same s.change t.change

end ComponentSpec
