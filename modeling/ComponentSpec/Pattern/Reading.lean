import ComponentSpec.Pattern.Lexeme

/-!
# ComponentSpec.Pattern.Reading

Patterns from their written form.

* `Item`: a part that has been read, with how deep it nests.
* `State.read?`: what one lexeme does to the open groups.
* `SizeLimit`: how large patterns may be.
* `Expr.ofChars?`: the pattern of a text; nothing if it is malformed, nests too deep or is too
  large.
-/

namespace ComponentSpec.Pattern

open Unicode (CharSet)

/-- A part of a pattern. Switches are parts that cannot be repeated. -/
structure Item where
  expr : Expr
  nesting : Nat
  repeatable : Bool

namespace Item

def leaf (e : Expr) : Item := ⟨e, 0, true⟩

/-- What stands where a switch is written. -/
def switch : Item := ⟨.empty, 0, false⟩

def deepest (is : List Item) : Nat := is.foldl (fun n i => max n i.nesting) 0

def concat : List Item → Item
  | [] => leaf .empty
  | [i] => i
  | i :: is => ⟨is.foldl (fun e j => .seq e j.expr) i.expr, deepest (i :: is) + 1, true⟩

/-- One of some parts, of which there is at least one. -/
def choice : List Item → Item
  | [] => leaf .empty
  | [i] => i
  | i :: is => ⟨is.foldl (fun e j => .alt e j.expr) i.expr, deepest (i :: is) + 1, true⟩

def repeated (i : Item) (least : Nat) (most : Option Nat) : Item :=
  ⟨.repeated i.expr least most, i.nesting + 1, true⟩

def group (i : Item) : Item := { i with nesting := i.nesting + 1, repeatable := true }

end Item

/-- An open group: the alternatives before the current one and the parts of that one, each last one
first, and the switches in force around the group. -/
structure OpenGroup where
  alternatives : List Item
  items : List Item
  around : Flags

namespace OpenGroup

def push (g : OpenGroup) (i : Item) : OpenGroup := { g with items := i :: g.items }

def bar (g : OpenGroup) : OpenGroup :=
  { g with alternatives := Item.concat g.items.reverse :: g.alternatives, items := [] }

def close (g : OpenGroup) : Item := Item.choice (g.bar.alternatives.reverse)

end OpenGroup

/-- The state of reading a pattern: the switches in force, the innermost open group, those around
it, and the names of groups so far. -/
structure State where
  flags : Flags
  current : OpenGroup
  outer : List OpenGroup
  names : List (List Char)

namespace State

def start : State := ⟨.initial, ⟨[], [], .initial⟩, [], []⟩

def push (s : State) (i : Item) : State := { s with current := s.current.push i }

/-- A character under the switches in force. A byte beyond ASCII is no character. -/
def literal? (f : Flags) (c : Char) (isByte : Bool) : Option Item :=
  if !f.unicode && isByte && 128 ≤ c.toNat then none
  else some (.leaf (.set (f.fold (· == c))))

/-- Any character but the end of a line, or any one at all. -/
def dot? (f : Flags) : Option Item :=
  if !f.unicode then none
  else
    let s : CharSet := fun c =>
      f.dotAll || (if f.crlf then c != '\r' && c != '\n' else c != '\n')
    some (.leaf (.set s))

def look (f : Flags) : Anchor → Look
  | .lineStart => if f.multiLine then .lineStart f.crlf else .textStart
  | .lineEnd => if f.multiLine then .lineEnd f.crlf else .textEnd
  | .textStart => .textStart
  | .textEnd => .textEnd
  | .boundary b => .boundary b f.unicode

def class? (f : Flags) (e : ClassExpr) : Option Item :=
  (e.eval? f).map fun s => ⟨.set s, e.nesting, true⟩

def read? (s : State) : Lexeme → Option State
  | .literal c isByte => (literal? s.flags c isByte).map s.push
  | .dot => (dot? s.flags).map s.push
  | .anchor a => some (s.push (.leaf (.look (look s.flags a))))
  | .class e => (class? s.flags e).map s.push
  | .openGroup name changes =>
    if name.any s.names.contains then none
    else
      some ⟨s.flags.apply changes, ⟨[], [], s.flags⟩, s.current :: s.outer,
        name.toList ++ s.names⟩
  | .changeFlags changes =>
    some { s.push Item.switch with flags := s.flags.apply changes }
  | .closeGroup =>
    match s.outer with
    | [] => none
    | g :: outer =>
      some ⟨s.current.around, g.push s.current.close.group, outer, s.names⟩
  | .bar => some { s with current := s.current.bar }
  | .repetition least most =>
    match s.current.items with
    | [] => none
    | i :: items =>
      if i.repeatable then
        some { s with current := { s.current with items := i.repeated least most :: items } }
      else none

def readAll? (s : State) (cs : List Char) : Option State :=
  match skip s.flags.verbose cs with
  | [] => some s
  | c :: rest =>
    match Lexeme.read? s.flags.verbose (c :: rest) with
    | none => none
    | some (l, rest) =>
      match s.read? l with
      | none => none
      | some s => if rest.length < cs.length then readAll? s rest else none
termination_by cs.length

end State

/-! ## Limits -/

def maxNesting : Nat := 250

/-- The text of a pattern between the two ends of a text. -/
def enclose (cs : List Char) : List Char := "^(?:".toList ++ cs ++ ")$".toList

/-- How large patterns may be: the texts whose patterns are not too large. With what encloses it a
pattern is no smaller. -/
structure SizeLimit where
  fits : List Char → Bool
  of_enclose : ∀ cs, fits (enclose cs) = true → fits cs = true

/-- Patterns may be as large as they like. -/
def SizeLimit.unlimited : SizeLimit := ⟨fun _ => true, fun _ _ => rfl⟩

/-- The pattern of a text. -/
def Expr.ofChars? (limit : SizeLimit) (cs : List Char) : Option Expr := do
  let s ← State.start.readAll? cs
  guard s.outer.isEmpty
  let whole := s.current.close
  guard (whole.nesting ≤ maxNesting)
  guard (limit.fits cs)
  return whole.expr

end ComponentSpec.Pattern
