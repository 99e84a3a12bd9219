import ComponentSpec.Yaml.Scalar

/-!
# ComponentSpec.Yaml.Tag

Names in a document that are not scalars: anchors, tags and what directives declare.

* `TagBytes`: a tag after its handle has been resolved. It may hold bytes that are no text.
* `WrittenTag`, `Directive`: a tag and a line of the head as they are written.
* `Source.anchor?`, `Source.tag?`, `Source.directive?`: readers of their written forms.
-/

namespace ComponentSpec.Yaml

/-- A tag as its bytes. A tag ends before its first NUL byte. -/
abbrev TagBytes := List UInt8

def bytesOf (cs : List Char) : TagBytes := (String.ofList cs).toUTF8.toList

def textOf? (bytes : TagBytes) : Option String := String.fromUTF8? ⟨bytes.toArray⟩

/-- A tag as written: a handle that is declared elsewhere, and a suffix. The handle is empty if the
suffix is the whole tag. -/
structure WrittenTag where
  handle : String
  suffix : TagBytes

inductive Directive where
  | version (major minor : Nat)
  | handle (name : String) (lead : TagBytes)

def isNameChar (c : Char) : Bool := c.isAlphanum || c == '_' || c == '-'

/-- Characters of tags and their declarations. Commas and square brackets count only where `whole`
says that no bracket can end the tag. -/
def isTagChar (whole : Bool) (c : Char) : Bool :=
  isNameChar c ||
    [';', '/', '?', ':', '@', '&', '=', '+', '$', '.', '%', '!', '~', '*', '\'', '(',
      ')'].contains c ||
    (whole && [',', '[', ']'].contains c)

def byteCount? (first : Nat) : Option Nat :=
  if first < 0x80 then some 1
  else if 0xC0 ≤ first ∧ first < 0xE0 then some 2
  else if 0xE0 ≤ first ∧ first < 0xF0 then some 3
  else if 0xF0 ≤ first ∧ first < 0xF8 then some 4
  else none

namespace Source

def percentByte? (s : Source) : Option Nat :=
  if s.char == '%' then natOfBase? 16 [s.peek 1, s.peek 2] else none

/-- Reads `n` further bytes of a character, each marked as such. -/
def furtherBytes? : Nat → Source → Option (TagBytes × Source)
  | 0, s => some ([], s)
  | n + 1, s => do
    let b ← s.percentByte?
    guard (0x80 ≤ b ∧ b < 0xC0)
    let (bs, r) ← furtherBytes? n (s.advance 3)
    return (UInt8.ofNat b :: bs, r)

def percentChar? (s : Source) : Option (TagBytes × Source) := do
  let first ← s.percentByte?
  let count ← byteCount? first
  let (bs, r) ← furtherBytes? (count - 1) (s.advance 3)
  return (UInt8.ofNat first :: bs, r)

def tagChars? (whole : Bool) : (fuel : Nat) → Source → Option (TagBytes × Source)
  | 0, s => some ([], s)
  | fuel + 1, s =>
    if !isTagChar whole s.char then some ([], s)
    else if s.char == '%' then do
      let (bs, r) ← s.percentChar?
      let (more, r) ← tagChars? whole fuel r
      return (bs ++ more, r)
    else do
      let (more, r) ← tagChars? whole fuel (s.advance 1)
      return (bytesOf [s.char] ++ more, r)

/-- Reads the characters of a tag after those of `lead`. There must be one at least. -/
def tagText? (whole : Bool) (lead : List Char) (s : Source) : Option (TagBytes × Source) := do
  let (bs, r) ← tagChars? whole s.length s
  guard (lead ≠ [] ∨ bs ≠ [])
  return ((bytesOf (lead.drop 1) ++ bs).takeWhile (· ≠ 0), r)

/-- Reads `!`, name characters and perhaps a second `!`. -/
def tagHandle? (s : Source) : Option (List Char × Source) :=
  if s.char == '!' then
    let name := (s.advance 1).takeText isNameChar
    let rest := (s.advance 1).skipText isNameChar
    if rest.char == '!' then some ('!' :: name ++ ['!'], rest.advance 1)
    else some ('!' :: name, rest)
  else none

def isEnclosed (handle : List Char) : Bool :=
  2 ≤ handle.length && handle.getLast? == some '!'

/-- Reads a tag: `!<...>` for a whole one, a handle with two `!` and a suffix, or a suffix for the
handle `!`. A lone `!` is a whole tag. -/
def writtenTag? (s : Source) : Option (WrittenTag × Source) :=
  if s.peek 1 == '<' then do
    let (suffix, r) ← tagText? true [] (s.advance 2)
    guard (r.char == '>')
    return (⟨"", suffix⟩, r.advance 1)
  else do
    let (handle, r) ← s.tagHandle?
    if isEnclosed handle then
      let (suffix, r) ← tagText? false [] r
      return (⟨String.ofList handle, suffix⟩, r)
    else
      let (suffix, r) ← tagText? false handle r
      if suffix.isEmpty then return (⟨"", bytesOf ['!']⟩, r)
      else return (⟨"!", suffix⟩, r)

/-- Reads a tag. White space must follow, or a comma between brackets. -/
def tag? (inFlow : Bool) (s : Source) : Option (WrittenTag × Source) := do
  let (t, r) ← s.writtenTag?
  guard (isGap r.char || (inFlow && r.char == ','))
  return (t, r)

def anchor? (s : Source) : Option (String × Source) :=
  let name := s.takeText isNameChar
  let rest := s.skipText isNameChar
  if name ≠ [] ∧
      (isGap rest.char ∨ rest.char ∈ ['?', ':', ',', ']', '}', '%', '@', '\x60']) then
    some (String.ofList name, rest)
  else none

def versionNumber? (s : Source) : Option (Nat × Source) :=
  let digits := s.takeText Char.isDigit
  if digits ≠ [] ∧ digits.length ≤ 9 then some (natOfDigits digits, s.skipText Char.isDigit)
  else none

/-- Reads the line of a directive after its `%`, up to the line break. -/
def directive? (s : Source) : Option (Directive × Source) := do
  let name := s.takeText isNameChar
  let after := s.skipText isNameChar
  guard (name ≠ [] ∧ isGap after.char)
  let (d, r) ←
    if name = "YAML".toList then do
      let (major, r) ← after.skipSpacesAndTabs.versionNumber?
      guard (r.char == '.')
      let (minor, r) ← (r.advance 1).versionNumber?
      pure (Directive.version major minor, r)
    else if name = "TAG".toList then do
      let (handle, r) ← after.skipSpacesAndTabs.tagHandle?
      guard (handle = ['!'] ∨ isEnclosed handle)
      guard (isSpaceOrTab r.char)
      let (lead, r) ← tagText? true [] r.skipSpacesAndTabs
      guard (isGap r.char)
      pure (Directive.handle (String.ofList handle) lead, r)
    else none
  let r := r.skipSpacesAndTabs
  let r := if r.char == '#' then r.skipLine else r
  guard (isBreakOrEnd r.char)
  return (d, if isBreak r.char then r.advance 1 else r)

end Source

end ComponentSpec.Yaml
