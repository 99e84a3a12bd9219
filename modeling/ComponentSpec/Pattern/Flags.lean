import ComponentSpec.Unicode.CaseFolding

/-!
# ComponentSpec.Pattern.Flags

The switches of patterns and how they are written.
-/

namespace ComponentSpec.Pattern

open Unicode (CharSet)

/-- A switch. `lazy` only changes which of several matches is preferred. -/
inductive Flag where
  | caseless
  | multiLine
  | dotAll
  | lazy
  | unicode
  | crlf
  | verbose
deriving DecidableEq

def Flag.ofChar? (c : Char) : Option Flag :=
  match c with
  | 'i' => some .caseless
  | 'm' => some .multiLine
  | 's' => some .dotAll
  | 'U' => some .lazy
  | 'u' => some .unicode
  | 'R' => some .crlf
  | 'x' => some .verbose
  | _ => none

structure Flags where
  caseless : Bool
  multiLine : Bool
  dotAll : Bool
  unicode : Bool
  crlf : Bool
  verbose : Bool
deriving DecidableEq

namespace Flags

/-- A pattern begins with only the classes of all scripts switched on. -/
def initial : Flags := ⟨false, false, false, true, false, false⟩

def set (f : Flags) : Flag × Bool → Flags
  | (.caseless, b) => { f with caseless := b }
  | (.multiLine, b) => { f with multiLine := b }
  | (.dotAll, b) => { f with dotAll := b }
  | (.lazy, _) => f
  | (.unicode, b) => { f with unicode := b }
  | (.crlf, b) => { f with crlf := b }
  | (.verbose, b) => { f with verbose := b }

def apply (f : Flags) (changes : List (Flag × Bool)) : Flags := changes.foldl set f

/-- A set and what differs from its members in case only, if case does not count. -/
def fold (f : Flags) (s : CharSet) : CharSet :=
  if !f.caseless then s
  else if f.unicode then s.foldCase
  else fun c => s c || (c.toNat < 128 && (s c.toLower || s c.toUpper))

/-- The complement of a set. Without the classes of all scripts it would hold parts of characters,
so there is none. -/
def complement? (f : Flags) (s : CharSet) : Option CharSet :=
  if f.unicode then some s.compl else none

def close? (f : Flags) (negated : Bool) (s : CharSet) : Option CharSet :=
  if negated then f.complement? (f.fold s) else some (f.fold s)

end Flags

/-- Reads switches up to `:` or `)`. After `-` they are switched off. Each switch and the `-` occur
once at most, and `-` is not the last. The result has the character at the end. -/
def readFlags (negated dangling : Bool) (seen : List Char) :
    List Char → Option (List (Flag × Bool) × Char × List Char)
  | [] => none
  | c :: cs =>
    if c = ':' ∨ c = ')' then (if dangling then none else some ([], c, cs))
    else if c ∈ seen then none
    else if c = '-' then readFlags true true (c :: seen) cs
    else
      match Flag.ofChar? c with
      | none => none
      | some flag =>
        (readFlags negated false (c :: seen) cs).map fun (changes, e, r) =>
          ((flag, !negated) :: changes, e, r)

end ComponentSpec.Pattern
