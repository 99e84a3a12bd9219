import ComponentSpec.Pattern.Class
import ComponentSpec.Pattern.Expr
import ComponentSpec.Yaml.Plain

/-!
# ComponentSpec.Pattern.Lexeme

The smallest parts of a written pattern that have a meaning of their own.

* `Lexeme`: a part; a class in square brackets is one part.
* `Lexeme.read?`: the part that a text begins with, and the rest.

In a verbose pattern white space and comments between and inside parts do not count.
-/

namespace ComponentSpec.Pattern

open Unicode (CharSet)

/-- A condition as it is written. What a line is depends on the switches in force. -/
inductive Anchor where
  | lineStart
  | lineEnd
  | textStart
  | textEnd
  | boundary (b : Boundary)

/-- A part of a pattern. A character given by two digits in base 16 stands for a byte. -/
inductive Lexeme where
  | literal (c : Char) (isByte : Bool)
  | dot
  | anchor (a : Anchor)
  | class (e : ClassExpr)
  | openGroup (name : Option (List Char)) (changes : List (Flag × Bool))
  | changeFlags (changes : List (Flag × Bool))
  | closeGroup
  | bar
  | repetition (least : Nat) (most : Option Nat)

/-- Skips white space and comments in a verbose pattern. A comment goes from `#` to the end of its
line. -/
def skipFrom (verbose inComment : Bool) : List Char → List Char
  | [] => []
  | c :: cs =>
    if !verbose then c :: cs
    else if inComment then skipFrom verbose (c != '\n') cs
    else if isBlank c then skipFrom verbose false cs
    else if c == '#' then skipFrom verbose true cs
    else c :: cs

def skip (verbose : Bool) (cs : List Char) : List Char := skipFrom verbose false cs

theorem length_skipFrom_le (verbose inComment : Bool) (cs : List Char) :
    (skipFrom verbose inComment cs).length ≤ cs.length := by
  induction cs generalizing inComment with
  | nil => simp [skipFrom]
  | cons c cs ih =>
    simp only [skipFrom]
    split
    · exact Nat.le_refl _
    · split
      · exact Nat.le_succ_of_le (ih _)
      · split
        · exact Nat.le_succ_of_le (ih _)
        · split
          · exact Nat.le_succ_of_le (ih _)
          · exact Nat.le_refl _

def readBraced? (verbose : Bool) (cs : List Char) : Option (List Char × List Char) :=
  match h : skip verbose cs with
  | [] => none
  | c :: rest =>
    if c = '\x7d' then some ([], rest)
    else
      have : rest.length < cs.length := by
        have := length_skipFrom_le verbose false cs
        simp only [skip] at h
        simp only [h, List.length_cons] at this
        omega
      (readBraced? verbose rest).map fun (ds, r) => (c :: ds, r)
termination_by cs.length

def charOfHex? (ds : List Char) : Option Char := do
  let n ← Yaml.natOfBase? 16 ds
  if n.isValidChar then some (Char.ofNat n) else none

def readHex? (verbose : Bool) : Nat → List Char → Option (List Char × List Char)
  | 0, cs => some ([], cs)
  | _ + 1, [] => none
  | n + 1, c :: cs =>
    if Yaml.digitValue c < 16 then
      (readHex? verbose n (if n = 0 then cs else skip verbose cs)).map fun (ds, r) => (c :: ds, r)
    else none

/-- Reads a code point after `x`, `u` or `U`: in braces, or in 2, 4 or 8 digits. -/
def readCodePoint? (verbose : Bool) (marker : Char) (cs : List Char) :
    Option (Lexeme × List Char) :=
  match skip verbose cs with
  | '\x7b' :: rest => do
    let (ds, r) ← readBraced? verbose rest
    return (.literal (← charOfHex? ds) false, r)
  | rest => do
    let count := if marker = 'x' then 2 else if marker = 'u' then 4 else 8
    let (ds, r) ← readHex? verbose count rest
    return (.literal (← charOfHex? ds) (marker = 'x'), r)

def splitAtFirst (mark : List Char) : List Char → Option (List Char × List Char)
  | [] => none
  | c :: cs =>
    if (c :: cs).take mark.length = mark then some ([], (c :: cs).drop mark.length)
    else (splitAtFirst mark cs).map fun (a, b) => (c :: a, b)

/-- The query of a property in braces: a name, or a name and a value after `!=`, `:` or `=`. -/
def propertyQuery (cs : List Char) : PropertyQuery :=
  let split := (splitAtFirst ['!', '='] cs).or
    ((splitAtFirst [':'] cs).or (splitAtFirst ['='] cs))
  match split with
  | some (a, b) => .valued (String.ofList a) (String.ofList b)
  | none => .named (String.ofList cs)

/-- Reads a property after `p` or `P`: one letter, or a query in braces. -/
def readProperty? (verbose negated : Bool) (cs : List Char) : Option (Lexeme × List Char) :=
  match skip verbose cs with
  | [] => none
  | '\x7b' :: rest => do
    let (query, r) ← readBraced? verbose rest
    return (.class (.property (propertyQuery query) negated), r)
  | c :: rest =>
    -- no property has another character as its name
    if c.isAlpha then some (.class (.property (.named (String.singleton c)) negated), rest)
    else none

def isBoundaryNameChar (c : Char) : Bool := c.isAlpha || c == '-'

def boundaryOfName? (cs : List Char) : Option Boundary :=
  if cs = "start".toList then some .start
  else if cs = "end".toList then some .finish
  else if cs = "start-half".toList then some .startHalf
  else if cs = "end-half".toList then some .finishHalf
  else none

/-- Reads what follows `\b`: the name of a boundary in braces, or nothing. Braces that do not begin
with a name are left, as they can only be a repetition. -/
def readBoundary? (verbose : Bool) (cs : List Char) : Option (Lexeme × List Char) :=
  match cs with
  | '\x7b' :: rest =>
    match skip verbose rest with
    | [] => none
    | c :: _ =>
      if !isBoundaryNameChar c then some (.anchor (.boundary .word), cs)
      else do
        let (name, r) ← readBraced? verbose rest
        guard (name.all isBoundaryNameChar)
        return (.anchor (.boundary (← boundaryOfName? name)), r)
  | _ => some (.anchor (.boundary .word), cs)

def isMeta (c : Char) : Bool :=
  ['\\', '.', '+', '*', '?', '(', ')', '|', '[', ']', '\x7b', '\x7d', '^', '$', '#', '&', '-',
    '~'].contains c

/-- Whether a backslash before a character of ASCII makes it stand for itself. Letters, digits and
angle brackets are kept for other meanings. -/
def isEscapable (c : Char) : Bool :=
  isMeta c || (c.toNat < 128 && !c.isAlphanum && c != '<' && c != '>')

def controlOf? (c : Char) : Option Char :=
  match c with
  | 'a' => some '\x07'
  | 'f' => some '\x0c'
  | 't' => some '\t'
  | 'n' => some '\n'
  | 'r' => some '\r'
  | 'v' => some '\x0b'
  | _ => none

/-- The classes of one letter; a capital one is the complement. -/
def shorthandOf? (c : Char) : Option (Shorthand × Bool) :=
  match c with
  | 'd' => some (.digit, false)
  | 's' => some (.space, false)
  | 'w' => some (.word, false)
  | 'D' => some (.digit, true)
  | 'S' => some (.space, true)
  | 'W' => some (.word, true)
  | _ => none

def anchorOf? (c : Char) : Option Anchor :=
  match c with
  | 'A' => some .textStart
  | 'z' => some .textEnd
  | 'B' => some (.boundary .notWord)
  | '<' => some (.boundary .start)
  | '>' => some (.boundary .finish)
  | _ => none

def readEscape? (verbose : Bool) : List Char → Option (Lexeme × List Char)
  | [] => none
  | c :: cs =>
    if c = 'x' ∨ c = 'u' ∨ c = 'U' then readCodePoint? verbose c cs
    else if c = 'p' ∨ c = 'P' then readProperty? verbose (c = 'P') cs
    else if c = 'b' then readBoundary? verbose cs
    else if isEscapable c then some (.literal c false, cs)
    else
      match shorthandOf? c with
      | some (s, negated) => some (.class (.shorthand s negated), cs)
      | none =>
        match controlOf? c with
        | some d => some (.literal d false, cs)
        | none => (anchorOf? c).map fun a => (.anchor a, cs)

/-! ## Classes in square brackets -/

/-- A class that is being read: an operation waiting for its right side, and the items so far, last
one first. -/
structure OpenClass where
  negated : Bool
  left : Option (SetOperation × ClassExpr)
  items : List ClassExpr

namespace OpenClass

def push (o : OpenClass) (e : ClassExpr) : OpenClass := { o with items := e :: o.items }

def whole (o : OpenClass) : ClassExpr :=
  let right := ClassExpr.ofItems o.items.reverse
  match o.left with
  | some (op, l) => .operation op l right
  | none => right

def operate (o : OpenClass) (op : SetOperation) : OpenClass :=
  { o with left := some (op, o.whole), items := [] }

def close (o : OpenClass) : ClassExpr := .bracket o.negated o.whole

end OpenClass

def skipTo? (verbose : Bool) (cs : List Char) : Option (List Char) :=
  match skip verbose cs with
  | [] => none
  | rest => some rest

def readHyphens? (verbose : Bool) : (fuel : Nat) → OpenClass → List Char →
    Option (OpenClass × List Char)
  | fuel + 1, o, '-' :: cs => do
    readHyphens? verbose fuel (o.push (.literal '-')) (← skipTo? verbose cs)
  | _, o, cs => some (o, cs)

/-- Reads the start of a class after its bracket: `^` for the complement, then hyphens or a `]`
that stand for themselves. -/
def openClass? (verbose : Bool) (cs : List Char) : Option (OpenClass × List Char) := do
  let cs ← skipTo? verbose cs
  let negated := cs.head? = some '^'
  let cs ← if negated then skipTo? verbose (cs.drop 1) else some cs
  let (o, cs) ← readHyphens? verbose cs.length ⟨negated, none, []⟩ cs
  if o.items.isEmpty ∧ cs.head? = some ']' then
    return (o.push (.literal ']'), ← skipTo? verbose (cs.drop 1))
  else return (o, cs)

/-- Reads `:name:]` or `:^name:]`. -/
def readPosix? : List Char → Option (ClassExpr × List Char)
  | ':' :: cs =>
    let negated := cs.head? = some '^'
    let cs := if negated then cs.drop 1 else cs
    match cs.dropWhile (· ≠ ':') with
    | ':' :: ']' :: rest =>
      (posixClass? (String.ofList (cs.takeWhile (· ≠ ':')))).map fun s =>
        (.posix s negated, rest)
    | _ => none
  | _ => none

def readClassItem? (verbose : Bool) : List Char → Option (Lexeme × List Char)
  | [] => none
  | '\\' :: cs => readEscape? verbose cs
  | c :: cs => some (.literal c false, cs)

/-- The item that a part stands for in a class. A condition is none. -/
def classItem? : Lexeme → Option ClassExpr
  | .literal c _ => some (.literal c)
  | .class e => some e
  | _ => none

/-- The character after a hyphen. White space and the `#` of a comment are passed over in a verbose
pattern. -/
def afterHyphen (verbose : Bool) (cs : List Char) : Option Char :=
  if !verbose then cs.head?
  else
    let rest := cs.dropWhile isBlank
    let rest := if rest.head? = some '#' then (rest.drop 1).dropWhile isBlank else rest
    if rest.isEmpty then cs.head? else rest.head?

/-- Reads an item of a class: a character, an escape, or a range between two characters. A hyphen
before `]` or another hyphen makes no range. -/
def readRange? (verbose : Bool) (cs : List Char) : Option (ClassExpr × List Char) := do
  let (first, rest) ← readClassItem? verbose cs
  let rest ← skipTo? verbose rest
  match rest with
  | '-' :: after =>
    if afterHyphen verbose after = some ']' ∨ afterHyphen verbose after = some '-' then
      return (← classItem? first, rest)
    else
      let after ← skipTo? verbose after
      let (last, rest) ← readClassItem? verbose after
      match first, last with
      | .literal low _, .literal high _ =>
        if low ≤ high then return (.range low high, rest) else none
      | _, _ => none
  | _ => return (← classItem? first, rest)

/-- What reading one part of a class leads to: its end, or the open classes around and the current
one. -/
inductive ClassStep where
  | closed (e : ClassExpr) (rest : List Char)
  | within (outer : List OpenClass) (current : OpenClass) (rest : List Char)

/-- Reads one part of a class. A bracket opens an inner class unless it begins a named one. -/
def classStep? (verbose : Bool) (outer : List OpenClass) (current : OpenClass)
    (cs : List Char) : Option ClassStep :=
  match skip verbose cs with
  | [] => none
  | '[' :: rest =>
    match readPosix? rest with
    | some (e, rest) => some (.within outer (current.push e) rest)
    | none => (openClass? verbose rest).map fun (o, rest) => .within (current :: outer) o rest
  | ']' :: rest =>
    match outer with
    | [] => some (.closed current.close rest)
    | o :: outer => some (.within outer (o.push current.close) rest)
  | '&' :: '&' :: rest => some (.within outer (current.operate .intersection) rest)
  | '-' :: '-' :: rest => some (.within outer (current.operate .difference) rest)
  | '~' :: '~' :: rest => some (.within outer (current.operate .symmetricDifference) rest)
  | rest => (readRange? verbose rest).map fun (e, rest) => .within outer (current.push e) rest

def readClass? (verbose : Bool) (outer : List OpenClass) (current : OpenClass)
    (cs : List Char) : Option (ClassExpr × List Char) :=
  match classStep? verbose outer current cs with
  | none => none
  | some (.closed e rest) => some (e, rest)
  | some (.within outer current rest) =>
    if rest.length < cs.length then readClass? verbose outer current rest else none
termination_by cs.length

/-! ## Groups and repetitions -/

def isGroupNameChar (isFirst : Bool) (c : Char) : Bool :=
  c == '_' ||
    (if isFirst then Unicode.Property.isAlphabetic c
     else ['.', '[', ']'].contains c || Unicode.Property.isAlphabetic c ||
       Unicode.Property.isNumeric c)

def readGroupName? (cs : List Char) : Option (List Char × List Char) :=
  let name := cs.takeWhile (· ≠ '>')
  match cs.dropWhile (· ≠ '>') with
  | _ :: rest =>
    match name with
    | c :: ds =>
      if isGroupNameChar true c && ds.all (isGroupNameChar false) then some (name, rest) else none
    | [] => none
  | [] => none

/-- Reads what follows an opening parenthesis: the name of a group, its switches, or switches for
what follows. There is no looking around. -/
def readGroup? (verbose : Bool) (cs : List Char) : Option (Lexeme × List Char) :=
  match skip verbose cs with
  | '?' :: 'P' :: '<' :: rest =>
    (readGroupName? rest).map fun (name, r) => (.openGroup (some name) [], r)
  | '?' :: '<' :: rest =>
    (readGroupName? rest).map fun (name, r) => (.openGroup (some name) [], r)
  | '?' :: rest =>
    match readFlags false false [] rest with
    | none => none
    | some (changes, ending, rest) =>
      if ending = ':' then some (.openGroup none changes, rest)
      else if changes.isEmpty then none
      else some (.changeFlags changes, rest)
  | _ => some (.openGroup none [], cs)

/-- Reads a count of a repetition, with white space around it. In a verbose pattern white space may
also stand between its digits. -/
def readCount? (verbose : Bool) (fuel : Nat) (cs : List Char) : Option (Nat × List Char) :=
  let rec digits : Nat → List Char → List Char × List Char
    | 0, cs => ([], cs)
    | fuel + 1, cs =>
      match skip verbose cs with
      | [] => ([], cs)
      | c :: rest =>
        if c.isDigit then
          let (ds, r) := digits fuel rest
          (c :: ds, r)
        else ([], cs)
  let (ds, rest) := digits fuel (cs.dropWhile isBlank)
  if ds = [] ∨ UInt32.size ≤ natOfDigits ds then none
  else some (natOfDigits ds, rest.dropWhile isBlank)

/-- Skips a `?`, which prefers short matches, with what does not count before it. -/
def skipLazy (verbose : Bool) (cs : List Char) : List Char :=
  match skip verbose cs with
  | '?' :: rest => rest
  | _ => cs

def readRepetition? (verbose : Bool) (cs : List Char) : Option (Lexeme × List Char) := do
  let (least, rest) ← readCount? verbose cs.length (← skipTo? verbose cs)
  let (most, rest) ←
    match skip verbose rest with
    | ',' :: rest => do
      let rest ← skipTo? verbose rest
      if rest.head? = some '\x7d' then some (none, rest)
      else (readCount? verbose rest.length rest).map fun (n, r) => (some n, r)
    | rest => some (some least, rest)
  let rest := skip verbose rest
  guard (rest.head? = some '\x7d')
  guard (most.all (least ≤ ·))
  return (.repetition least most, skipLazy verbose (rest.drop 1))

def Lexeme.read? (verbose : Bool) : List Char → Option (Lexeme × List Char)
  | [] => none
  | c :: cs =>
    if c = '(' then readGroup? verbose cs
    else if c = ')' then some (.closeGroup, cs)
    else if c = '|' then some (.bar, cs)
    else if c = '[' then do
      let (o, rest) ← openClass? verbose cs
      let (e, rest) ← readClass? verbose [] o rest
      return (.class e, rest)
    else if c = '?' then some (.repetition 0 (some 1), skipLazy false cs)
    else if c = '*' then some (.repetition 0 none, skipLazy false cs)
    else if c = '+' then some (.repetition 1 none, skipLazy false cs)
    else if c = '\x7b' then readRepetition? verbose cs
    else if c = '\\' then readEscape? verbose cs
    else if c = '.' then some (.dot, cs)
    else if c = '^' then some (.anchor .lineStart, cs)
    else if c = '$' then some (.anchor .lineEnd, cs)
    else some (.literal c false, cs)

end ComponentSpec.Pattern
