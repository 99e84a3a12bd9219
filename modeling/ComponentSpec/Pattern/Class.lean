import ComponentSpec.Pattern.Flags
import ComponentSpec.Unicode.Lookup

/-!
# ComponentSpec.Pattern.Class

Classes of characters in patterns.

* `ClassExpr`: a class as it is written.
* `ClassExpr.eval?`: the set of characters it stands for under the switches in force.
* `ClassExpr.nesting`: how deep it is.
-/

namespace ComponentSpec.Pattern

open Unicode (CharSet)

inductive Shorthand where
  | digit
  | space
  | word
deriving DecidableEq

/-- A property of characters: by one name, or by its name and value. -/
inductive PropertyQuery where
  | named (name : String)
  | valued (property value : String)

inductive SetOperation where
  | intersection
  | difference
  | symmetricDifference
deriving DecidableEq

inductive ClassExpr where
  | literal (c : Char)
  | range (low high : Char)
  | posix (s : CharSet) (negated : Bool)
  | shorthand (s : Shorthand) (negated : Bool)
  | property (q : PropertyQuery) (negated : Bool)
  | bracket (negated : Bool) (e : ClassExpr)
  | union (es : List ClassExpr)
  | operation (op : SetOperation) (l r : ClassExpr)

/-- The classes with a name in brackets. All are of ASCII. -/
def posixClass? (name : String) : Option CharSet :=
  let within (low high : Nat) : CharSet := fun c => low ≤ c.toNat && c.toNat ≤ high
  match name with
  | "alnum" => some Char.isAlphanum
  | "alpha" => some Char.isAlpha
  | "ascii" => some (within 0 127)
  | "blank" => some fun c => c == ' ' || c == '\t'
  | "cntrl" => some fun c => c.toNat < 32 || c.toNat == 127
  | "digit" => some Char.isDigit
  | "graph" => some (within 33 126)
  | "lower" => some Char.isLower
  | "print" => some (within 32 126)
  | "punct" => some fun c => within 33 126 c && !c.isAlphanum
  | "space" => some fun c => c == ' ' || within 9 13 c
  | "upper" => some Char.isUpper
  | "word" => some fun c => c.isAlphanum || c == '_'
  | "xdigit" => some fun c => c.isDigit || within 65 70 c || within 97 102 c
  | _ => none

/-- The characters of a shorthand, of all scripts or of ASCII. -/
def Shorthand.chars (unicode : Bool) : Shorthand → CharSet
  | digit => if unicode then Unicode.isDigit else Char.isDigit
  | space => if unicode then Unicode.isSpace else fun c => c == ' ' || (9 ≤ c.toNat && c.toNat ≤ 13)
  | word => if unicode then Unicode.isWord else fun c => c.isAlphanum || c == '_'

def PropertyQuery.chars? : PropertyQuery → Option CharSet
  | named name => Unicode.named? name
  | valued property value => Unicode.valued? property value

def SetOperation.apply : SetOperation → CharSet → CharSet → CharSet
  | intersection => CharSet.inter
  | difference => CharSet.sdiff
  | symmetricDifference => CharSet.symmDiff

namespace ClassExpr

/-- Whether a character may stand in a class: without the classes of all scripts, only if it is one
of ASCII. -/
def admits (f : Flags) (c : Char) : Bool := f.unicode || c.toNat < 128

mutual

/-- The characters that a class stands for; none for a class that is not allowed under the switches
in force. -/
def eval? (f : Flags) : ClassExpr → Option CharSet
  | literal c => if admits f c then some (· == c) else none
  | range low high =>
    if admits f low && admits f high then some fun c => low ≤ c && c ≤ high else none
  | posix s negated => f.close? negated s
  | shorthand s negated =>
    if negated then f.complement? (s.chars f.unicode) else some (s.chars f.unicode)
  | property q negated =>
    if f.unicode then q.chars?.bind (f.close? negated) else none
  | bracket negated e => (eval? f e).bind (f.close? negated)
  | union es => evalUnion? f es
  | operation op l r => do
    let s ← eval? f l
    let t ← eval? f r
    return op.apply (f.fold s) (f.fold t)

def evalUnion? (f : Flags) : List ClassExpr → Option CharSet
  | [] => some fun _ => false
  | e :: es => do
    let s ← eval? f e
    let t ← evalUnion? f es
    return s.union t

end

mutual

def nesting : ClassExpr → Nat
  | bracket _ e => nesting e + 1
  | union es => nestingUnion es + 1
  | operation _ l r => max (nesting l) (nesting r) + 1
  | _ => 0

def nestingUnion : List ClassExpr → Nat
  | [] => 0
  | e :: es => max (nesting e) (nestingUnion es)

end

/-- The union of some classes, which is a single one itself. -/
def ofItems : List ClassExpr → ClassExpr
  | [e] => e
  | es => union es

end ClassExpr

end ComponentSpec.Pattern
