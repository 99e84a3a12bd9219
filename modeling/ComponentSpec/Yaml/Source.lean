/-!
# ComponentSpec.Yaml.Source

The text of a document as a list of characters that know where they stand.

* `Source.ofText?`: the characters of a text with every line break written in one way; `none` if a
  character is not allowed in a document.
-/

namespace ComponentSpec.Yaml

/-- A character and its position: line, column, and count of the characters before it. -/
structure Cell where
  char : Char
  line : Nat
  column : Nat
  index : Nat
deriving Inhabited

/-- The rest of a text. The last cell is a NUL, which no document contains, at the end of it. -/
abbrev Source := List Cell

/-- Characters that may stand in a document. -/
def isAllowed (c : Char) : Bool :=
  let n := c.toNat
  n == 9 || n == 10 || n == 13 || (0x20 ≤ n && n ≤ 0x7E) || n == 0x85 ||
    (0xA0 ≤ n && n ≤ 0xD7FF) || (0xE000 ≤ n && n ≤ 0xFFFD) || 0x10000 ≤ n

def isByteOrderMark (c : Char) : Bool := c.toNat == 0xFEFF

def isLineSeparator (c : Char) : Bool := c.toNat == 0x2028 || c.toNat == 0x2029

def isBreak (c : Char) : Bool := c == '\n' || isLineSeparator c

def isEnd (c : Char) : Bool := c == '\x00'

def isSpaceOrTab (c : Char) : Bool := c == ' ' || c == '\t'

def isBreakOrEnd (c : Char) : Bool := isBreak c || isEnd c

/-- White space or the end. -/
def isGap (c : Char) : Bool := isSpaceOrTab c || isBreakOrEnd c

namespace Source

/-- Places the characters. A carriage return, alone or before a line feed, and a next-line control
are line feeds; a line or paragraph separator is a break of its own. -/
def locate (line column index : Nat) : List Char → Source
  | [] => [⟨'\x00', line, column, index⟩]
  | '\r' :: '\n' :: cs => ⟨'\n', line, column, index⟩ :: locate (line + 1) 0 (index + 2) cs
  | c :: cs =>
    if c == '\r' || c == '\n' || c.toNat == 0x85 then
      ⟨'\n', line, column, index⟩ :: locate (line + 1) 0 (index + 1) cs
    else if isLineSeparator c then
      ⟨c, line, column, index⟩ :: locate (line + 1) 0 (index + 1) cs
    else ⟨c, line, column, index⟩ :: locate line (column + 1) (index + 1) cs

/-- The source of a text, without a byte order mark in front. -/
def ofText? (s : String) : Option Source :=
  let cs := match s.toList with
    | c :: cs => if isByteOrderMark c then cs else c :: cs
    | [] => []
  if cs.all isAllowed then some (locate 0 0 0 cs) else none

/-- The character at a distance, or the end. -/
def peek (s : Source) (i : Nat) : Char :=
  match s[i]? with
  | some cell => cell.char
  | none => '\x00'

def char (s : Source) : Char := s.peek 0

def advance (n : Nat) (s : Source) : Source := s.drop n

/-- The rest from the first cell on that fails the test. -/
def skip (p : Cell → Bool) (s : Source) : Source := s.dropWhile p

/-- The position of the first character. -/
def position (s : Source) : Cell := s.headD default

def column (s : Source) : Nat := s.position.column

def skipSpacesAndTabs (s : Source) : Source := s.dropWhile fun c => isSpaceOrTab c.char

def skipLine (s : Source) : Source := s.dropWhile fun c => !isBreakOrEnd c.char

/-- The characters before the first one that fails the test. -/
def takeText (p : Char → Bool) (s : Source) : List Char :=
  (s.takeWhile fun c => p c.char).map Cell.char

def skipText (p : Char → Bool) (s : Source) : Source := s.dropWhile fun c => p c.char

theorem length_advance (n : Nat) (s : Source) : (s.advance n).length = s.length - n :=
  List.length_drop

/-- Whether a document marker, three equal characters and a gap, stands at the start of a line. -/
def atMarker (mark : Char) (s : Source) : Bool :=
  s.column == 0 && s.peek 0 == mark && s.peek 1 == mark && s.peek 2 == mark && isGap (s.peek 3)

def atDocumentMarker (s : Source) : Bool := s.atMarker '-' || s.atMarker '.'

end Source

end ComponentSpec.Yaml
