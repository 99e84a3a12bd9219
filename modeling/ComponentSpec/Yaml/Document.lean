import ComponentSpec.Yaml.Tree

/-!
# ComponentSpec.Yaml.Document

The value of a document.

* `ScalarTag`: what a tag means for a scalar.
* `Reading`: what following aliases needs, and the count of those followed.
* `Node.ofText?`: the value of a text; nothing if it is no document, has two equal keys in a
  mapping, nests collections more than 128 deep, or follows too many aliases.
-/

namespace ComponentSpec.Yaml

/-- The meaning of a tag: a tag of the document's own, one of the four that give a scalar its type,
or one that makes a scalar a text. -/
inductive ScalarTag where
  | own (name : String)
  | boolean
  | integer
  | float
  | null
  | foreign

/-- A tag with a leading `!` is the document's own if it is a text, and is ignored otherwise. -/
def ScalarTag.ofBytes? (bytes : TagBytes) : Option ScalarTag :=
  if bytes.head? = some 33 then (textOf? bytes).map fun s => .own (dropBang (dropBang s))
  else
    let core (name : String) := bytes == bytesOf ("tag:yaml.org,2002:" ++ name).toList
    if core "bool" then some .boolean
    else if core "int" then some .integer
    else if core "float" then some .float
    else if core "null" then some .null
    else some .foreign

def ownTag? (tag : Option TagBytes) : Option String :=
  match tag.bind ScalarTag.ofBytes? with
  | some (.own name) => some name
  | _ => none

/-- The value of a scalar without a tag: a quoted or block scalar is its text. -/
def Node.ofUntagged? (text : String) (plain : Bool) : Option Node :=
  if plain then Node.ofPlain? text else some (.text text)

def Node.ofScalar? (tag : Option TagBytes) (text : String) (plain : Bool) : Option Node :=
  match tag.bind ScalarTag.ofBytes? with
  | none | some (.own _) => Node.ofUntagged? text plain
  | some .boolean => (booleanOfWord? text).map Node.boolean
  | some .integer => integerOr? text.toList none
  | some .float => (floatOfText? text.toList).map Node.float
  | some .null => if isNullWord text then some .null else none
  | some .foreign => some (.text text)

/-- What following aliases needs: the anchored part of each number, and a bound on the count of
aliases followed. -/
structure Reading where
  part? : Nat → Option (Tree Nat)
  bound : Nat

abbrev Counted := StateT Nat Option

namespace Reading

/-- The part that a tree stands for, and whether it was reached directly. -/
def follow (r : Reading) : Tree Nat → Counted (Tree Nat × Bool)
  | .reference i => do
    let count ← get
    guard (count < r.bound)
    set (count + 1)
    let part ← (r.part? i : Option (Tree Nat))
    return (part, false)
  | t => return (t, true)

def entries (key value : Tree Nat → Counted Node) :
    List (Tree Nat × Tree Nat) → Mapping → Counted Mapping
  | [], m => return m
  | (k, v) :: es, m => do
    let k ← key k
    guard (!m.hasKey k)
    let v ← value v
    entries key value es (m ++ [(k, v)])

def wrap (tag : Option String) (v : Node) : Node :=
  match tag with
  | some name => .tagged name v
  | none => v

/-- The value of a tree in which collections nest `depth` deep at most. Inside a tagged value, and
in the keys of a tagged mapping, tags count for nothing. -/
def node (r : Reading) : (depth : Nat) → (tagged : Bool) → Tree Nat → Counted Node
  | depth, tagged, t => do
    let (t, direct) ← r.follow t
    let tagged := tagged && direct
    match t, depth with
    | .reference _, _ => failure
    | .scalar _ tag text plain, _ =>
      let tag := if tagged then none else tag
      let v ← (Node.ofScalar? tag text plain : Option Node)
      return wrap (ownTag? tag) v
    | .sequence _ _ _, 0 | .mapping _ _ _, 0 => failure
    | .sequence _ tag items, depth + 1 =>
      let own := if tagged then none else ownTag? tag
      let xs ← items.mapM (node r depth false)
      return wrap own (.sequence xs)
    | .mapping _ tag es, depth + 1 =>
      let own := if tagged then none else ownTag? tag
      let m ← entries (node r depth (tagged || own.isSome)) (node r depth false) es []
      return wrap own (.mapping m)

end Reading

/-- The value of a tree: aliases stand for the last part with their number, and at most 100 are
followed for each part of the tree. -/
def Node.ofTree? (t : Tree Nat) : Option Node :=
  let parts := t.anchored.reverse
  let reading : Reading := ⟨fun i => parts.lookup i, 100 * t.extent⟩
  ((reading.node 128 false t).run 0).map Prod.fst

def Node.ofText? (s : String) : Option Node := do
  let tokens ← Token.ofText? s
  let tree ← Tree.ofTokens? tokens
  Node.ofTree? (← tree.number?)

end ComponentSpec.Yaml
