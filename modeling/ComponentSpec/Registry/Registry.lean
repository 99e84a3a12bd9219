import ComponentSpec.Model.Component
import ComponentSpec.Model.NameMap

/-!
# ComponentSpec.Registry.Registry

The components of a document under their names. A name may be an alias, which shares the component
of the name it was declared for.

* `Registry.define`, `Registry.bindAlias?`: add a name.
* `Registry.bindings`, `Registry.definitions`: all names, and those that are no aliases.
* `Registry.same`: equality as maps, whatever their order.
-/

namespace ComponentSpec

/-- A component with the number that tells it from other objects of equal value. -/
structure Shared where
  id : Nat
  component : Component
deriving DecidableEq

/-- A name and its component. An alias has the name whose definition it shares. -/
structure Binding where
  name : String
  object : Shared
  root : Option String
deriving DecidableEq

/-- The names of a document with their components, and its aliases with the names whose definitions
they share, both in the order of their declaration. -/
structure Registry where
  components : NameMap Shared
  aliases : NameMap String
deriving DecidableEq

namespace Registry

def empty : Registry := ⟨.empty, .empty⟩

def object? (r : Registry) (name : String) : Option Shared := r.components.get? name

def component? (r : Registry) (name : String) : Option Component :=
  (r.object? name).map Shared.component

def contains (r : Registry) (name : String) : Bool := r.components.contains name

def names (r : Registry) : List String := r.components.names

def size (r : Registry) : Nat := r.components.size

/-- The definition that an alias shares, which is itself no alias. -/
def aliasTarget? (r : Registry) (name : String) : Option String := r.aliases.get? name

def isAlias (r : Registry) (name : String) : Bool := r.aliases.contains name

/-- The name whose definition a name stands for: its own, unless it is an alias. -/
def rootOf (r : Registry) (name : String) : String := (r.aliasTarget? name).getD name

def bindings (r : Registry) : List Binding :=
  r.components.entries.map fun e => ⟨e.1, e.2, r.aliasTarget? e.1⟩

/-- The bindings that are definitions: each component once. -/
def definitions (r : Registry) : List Binding := r.bindings.filter fun b => b.root.isNone

def shares? (r : Registry) (a b : String) : Option Bool := do
  return (← r.object? a).id == (← r.object? b).id

/-- The names whose components subscribe to a notification. -/
def subscribers (r : Registry) (publisher notification : String) : List String :=
  (r.bindings.filter fun b => b.object.component.subscriptions.any fun s =>
    s.reference? == some (publisher, notification)).map Binding.name

def freshId (r : Registry) : Nat := r.components.entries.foldr (fun e n => max (e.2.id + 1) n) 0

def define (r : Registry) (name : String) (c : Component) : Registry :=
  { r with components := r.components.insert name ⟨r.freshId, c⟩ }

/-- Binds a name to an object that another name, the root, has been defined with. -/
def share (r : Registry) (name : String) (object : Shared) (root : String) : Registry :=
  ⟨r.components.insert name object, r.aliases.insert name root⟩

/-- Binds a name to the component of another. The alias of an alias is one of the same
definition. -/
def bindAlias? (r : Registry) (name target : String) : Option Registry :=
  (r.object? target).map fun object => r.share name object (r.rootOf target)

/-- Equality of values: the same names with equal components and the same aliases. -/
def same (r s : Registry) : Bool :=
  r.components.same (fun a b => a.component.same b.component) s.components &&
    r.aliases.same (· == ·) s.aliases

end Registry

end ComponentSpec
