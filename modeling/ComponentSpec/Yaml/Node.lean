import ComponentSpec.Number.Layout

/-!
# ComponentSpec.Yaml.Node

The values that a document is made of.

* `Node`: nothing, a scalar, a list, a mapping in the order of its entries, or a tagged value.
* `Node.same`: equality of values, which ignores the order of a mapping. It decides which keys
  collide.
* `Node.eqb`: identity of values, which decides their equality.
* `Node.asMapping?`, `Node.asText?`, `Node.isNull`: views that look through tags.
-/

namespace ComponentSpec.Yaml

/-- An integer of at most 64 bits, with or without a sign. -/
structure Integer where
  value : Int
  lower : -9223372036854775808 ≤ value
  upper : value < 18446744073709551616
deriving DecidableEq

def Integer.ofInt? (z : Int) : Option Integer :=
  if h : -9223372036854775808 ≤ z ∧ z < 18446744073709551616 then some ⟨z, h.1, h.2⟩
  else none

/-- A value of a document. A tag is kept without its leading `!`. -/
inductive Node where
  | null
  | boolean (b : Bool)
  | integer (n : Integer)
  | float (x : Binary64)
  | text (s : String)
  | sequence (items : List Node)
  | mapping (entries : List (Node × Node))
  | tagged (tag : String) (value : Node)
deriving Inhabited

abbrev Mapping := List (Node × Node)

/-- The kinds of values that messages tell apart. -/
inductive Shape where
  | nothing
  | boolean
  | number
  | string
  | list
  | mapping
  | tagged
deriving DecidableEq

def Shape.describe : Shape → String
  | .nothing => "nothing"
  | .boolean => "a boolean"
  | .number => "a number"
  | .string => "a string"
  | .list => "a list"
  | .mapping => "a mapping"
  | .tagged => "a tagged value"

/-- Floating-point numbers are written with the fewest digits, with `.0` after a whole number, and
with an exponent from `1e16` on and below `1e-5`. -/
def numberLayout : NumberLayout where
  tie := .even
  positional := some (-5, 15)
  pointZero := true
  exponentMark := "e"
  nan := ".nan"
  infinity := ".inf"
  negativeInfinity := "-.inf"

/-- A tag without its leading `!`. The tag that is only `!` stays as it is. -/
def dropBang (tag : String) : String :=
  match tag.toList with
  | '!' :: c :: cs => String.ofList (c :: cs)
  | _ => tag

namespace Node

def shape : Node → Shape
  | .null => .nothing
  | .boolean _ => .boolean
  | .integer _ => .number
  | .float _ => .number
  | .text _ => .string
  | .sequence _ => .list
  | .mapping _ => .mapping
  | .tagged _ _ => .tagged

def isNull : Node → Bool
  | .null => true
  | .tagged _ v => v.isNull
  | _ => false

def asMapping? : Node → Option Mapping
  | .mapping es => some es
  | .tagged _ v => v.asMapping?
  | _ => none

def asText? : Node → Option String
  | .text s => some s
  | .tagged _ v => v.asText?
  | _ => none

mutual

/-- Equality of values. Two numbers are the same if they are of one kind and equal, or both NaN; the
order of a mapping's entries does not matter. -/
def same : Node → Node → Bool
  | .null, .null => true
  | .boolean b, .boolean b' => b == b'
  | .integer n, .integer n' => n.value == n'.value
  | .float x, .float y => x.same y || (x.isNaN && y.isNaN)
  | .text s, .text s' => s == s'
  | .sequence xs, .sequence ys => sameAll xs ys
  | .mapping es, .mapping fs => es.length == fs.length && sameEntries es fs
  | .tagged t v, .tagged t' v' => t == t' && same v v'
  | _, _ => false

def sameAll : List Node → List Node → Bool
  | [], [] => true
  | x :: xs, y :: ys => same x y && sameAll xs ys
  | _, _ => false

/-- Whether each entry of the first list is the same as one of the second. -/
def sameEntries : List (Node × Node) → List (Node × Node) → Bool
  | [], _ => true
  | (k, v) :: es, fs => fs.any (fun f => same k f.1 && same v f.2) && sameEntries es fs

end

mutual

/-- The value without the tags on it and on the values in it. Keys of mappings keep theirs. -/
def untag : Node → Node
  | .sequence xs => .sequence (untagAll xs)
  | .mapping es => .mapping (untagEntries es)
  | .tagged _ v => untag v
  | v => v

def untagAll : List Node → List Node
  | [] => []
  | x :: xs => untag x :: untagAll xs

def untagEntries : List (Node × Node) → List (Node × Node)
  | [] => []
  | (k, v) :: es => (k, untag v) :: untagEntries es

end

mutual

/-- Identity of values, entry by entry. -/
def eqb : Node → Node → Bool
  | .null, .null => true
  | .boolean b, .boolean c => b == c
  | .integer m, .integer n => m == n
  | .float x, .float y => x == y
  | .text s, .text t => s == t
  | .sequence xs, .sequence ys => eqbAll xs ys
  | .mapping es, .mapping fs => eqbEntries es fs
  | .tagged s v, .tagged t w => s == t && eqb v w
  | _, _ => false

def eqbAll : List Node → List Node → Bool
  | [], [] => true
  | x :: xs, y :: ys => eqb x y && eqbAll xs ys
  | _, _ => false

def eqbEntries : List (Node × Node) → List (Node × Node) → Bool
  | [], [] => true
  | (k, v) :: es, (l, w) :: fs => eqb k l && eqb v w && eqbEntries es fs
  | _, _ => false

end

mutual

theorem eqb_iff (v w : Node) : eqb v w = true ↔ v = w := by
  cases v with
  | sequence xs => cases w <;> simp [eqb, eqbAll_iff xs]
  | mapping es => cases w <;> simp [eqb, eqbEntries_iff es]
  | tagged t v => cases w <;> simp [eqb, eqb_iff v]
  | _ => cases w <;> simp [eqb]

theorem eqbAll_iff (xs ys : List Node) : eqbAll xs ys = true ↔ xs = ys := by
  cases xs with
  | nil => cases ys <;> simp [eqbAll]
  | cons x xs => cases ys <;> simp [eqbAll, eqb_iff x, eqbAll_iff xs]

theorem eqbEntries_iff (es fs : List (Node × Node)) : eqbEntries es fs = true ↔ es = fs := by
  cases es with
  | nil => cases fs <;> simp [eqbEntries]
  | cons e es =>
    obtain ⟨k, v⟩ := e
    cases fs <;> simp [eqbEntries, eqb_iff k, eqb_iff v, eqbEntries_iff es, Prod.ext_iff]

end

instance : DecidableEq Node := fun v w => decidable_of_iff (eqb v w = true) (eqb_iff v w)

end Node

namespace Mapping

/-- The value of a text key. A tagged key is no text. -/
def get? : Mapping → String → Option Node
  | [], _ => none
  | (.text s, v) :: es, key => if s = key then some v else get? es key
  | _ :: es, key => get? es key

/-- The value of a text key, where a null, also a tagged one, counts as absent. -/
def field? (m : Mapping) (key : String) : Option Node := (m.get? key).filter fun v => !v.isNull

def hasKey (m : Mapping) (key : Node) : Bool := m.any fun e => e.1.same key

/-- Binds a key, in the place of an earlier binding if there is one. -/
def insert (m : Mapping) (key value : Node) : Mapping :=
  if m.hasKey key then m.map fun e => if e.1.same key then (e.1, value) else e
  else m ++ [(key, value)]

end Mapping

end ComponentSpec.Yaml
