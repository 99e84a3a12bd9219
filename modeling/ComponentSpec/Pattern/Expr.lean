import ComponentSpec.Unicode.Lookup

/-!
# ComponentSpec.Pattern.Expr

Patterns over texts, and where they match.

A set of positions of a text is a list of booleans, one for each position from before the first
character to after the last one.

* `Expr`: a pattern.
* `Expr.Match`: the texts between two positions that a pattern matches.
* `Expr.step`: the positions that are reached from a set of positions by a match.
-/

namespace ComponentSpec.Pattern

open Unicode (CharSet)

/-- The boundaries of words. A half boundary looks at one side only. -/
inductive Boundary where
  | word
  | notWord
  | start
  | finish
  | startHalf
  | finishHalf
deriving DecidableEq

/-- Conditions on a position. Lines end at a line feed, or also at a carriage return; words are
those of all scripts or of ASCII. -/
inductive Look where
  | textStart
  | textEnd
  | lineStart (crlf : Bool)
  | lineEnd (crlf : Bool)
  | boundary (b : Boundary) (unicode : Bool)
deriving DecidableEq

def isAsciiWord (c : Char) : Bool := c.isAlphanum || c == '_'

namespace Look

/-- Whether a condition holds between two characters, of which none stands for an end of the text.
Between a carriage return and its line feed no line starts or ends. -/
def holds (before after : Option Char) : Look → Bool
  | textStart => before.isNone
  | textEnd => after.isNone
  | lineStart false => before.all (· == '\n')
  | lineStart true =>
    before.all fun b => b == '\n' || (b == '\r' && after != some '\n')
  | lineEnd false => after.all (· == '\n')
  | lineEnd true =>
    after.all fun a => a == '\r' || (a == '\n' && before != some '\r')
  | boundary b unicode =>
    let isWord := if unicode then Unicode.isWord else isAsciiWord
    let left := before.any isWord
    let right := after.any isWord
    match b with
    | .word => left != right
    | .notWord => left == right
    | .start => !left && right
    | .finish => left && !right
    | .startHalf => !left
    | .finishHalf => !right

def places (l : Look) (before : Option Char) : List Char → List Bool
  | [] => [l.holds before none]
  | c :: cs => l.holds before (some c) :: places l (some c) cs

end Look

/-- A pattern: the empty text, one character of a set, a condition, two patterns one after the other
or either of them, and a repetition with a least and perhaps a greatest count. -/
inductive Expr where
  | empty
  | set (s : CharSet)
  | look (l : Look)
  | seq (a b : Expr)
  | alt (a b : Expr)
  | repeated (e : Expr) (least : Nat) (most : Option Nat)

namespace Expr

/-- `Match e before text after`: the pattern matches `text` where it stands between the two others.
The text before is given from its end. -/
inductive Match : Expr → List Char → List Char → List Char → Prop where
  | empty {p q} : Match .empty p [] q
  | set {s : CharSet} {c p q} : s c = true → Match (.set s) p [c] q
  | look {l : Look} {p q} : l.holds p.head? q.head? = true → Match (.look l) p [] q
  | seq {a b p t u q} : Match a p t (u ++ q) → Match b (t.reverse ++ p) u q →
      Match (.seq a b) p (t ++ u) q
  | altLeft {a b p t q} : Match a p t q → Match (.alt a b) p t q
  | altRight {a b p t q} : Match b p t q → Match (.alt a b) p t q
  | done {e most p q} : Match (.repeated e 0 most) p [] q
  | more {e least most p t u q} : most ≠ some 0 → Match e p t (u ++ q) →
      Match (.repeated e (least - 1) (most.map (· - 1))) (t.reverse ++ p) u q →
      Match (.repeated e least most) p (t ++ u) q

def iterate (f : List Bool → List Bool) : Nat → List Bool → List Bool
  | 0, m => m
  | n + 1, m => if f m = m then m else iterate f n (f m)

def orMask (m n : List Bool) : List Bool := List.zipWith (· || ·) m n

/-- The positions of `text` that a match from one of the positions `m` ends at. -/
def step (text : List Char) : Expr → List Bool → List Bool
  | .empty, m => m
  | .set s, m => false :: List.zipWith (fun here c => here && s c) m text
  | .look l, m => List.zipWith (· && ·) m (l.places none text)
  | .seq a b, m => step text b (step text a m)
  | .alt a b, m => orMask (step text a m) (step text b m)
  | .repeated e least most, m =>
    let f := step text e
    let more := match most with
      | some most => most - least
      | none => text.length + 1
    iterate (fun m => orMask m (f m)) more (iterate f least m)

def isFoundIn (e : Expr) (text : List Char) : Bool :=
  (e.step text (List.replicate (text.length + 1) true)).any id

end Expr

end ComponentSpec.Pattern
