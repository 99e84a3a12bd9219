import ComponentSpec.Yaml.Tag

/-!
# ComponentSpec.Yaml.Token

The tokens of a document. Indentation and the keys of mappings, which are only known as such at
their `:`, become tokens of their own.

* `Token`: what the structure of a document is read from.
* `Scan`: the state of reading; `Scan.step?` reads one token and those that go with it.
* `Token.ofText?`: all tokens of a text, or nothing if the text has no tokens.
-/

namespace ComponentSpec.Yaml

/-- A token. A block collection is opened by an indent and closed by the end of it. -/
inductive Token where
  | directive (d : Directive)
  | documentStart
  | documentEnd
  | blockSequence
  | blockMapping
  | blockEnd
  | openSequence
  | closeSequence
  | openMapping
  | closeMapping
  | dash
  | comma
  | key
  | value
  | reference (name : String)
  | anchor (name : String)
  | tag (t : WrittenTag)
  | scalar (text : String) (plain : Bool)

/-- A place where a key may have started: the token count before it and its position. It is
required if only a key can stand there. -/
structure KeyPlace where
  required : Bool
  tokenCount : Nat
  position : Cell

/-- The state of reading tokens. `keys` has the possible key of each open bracket, innermost first,
and of the text outside; `indents` has the indents of the open block collections, innermost first,
and `-1` for the text outside. -/
structure Scan where
  source : Source
  tokens : Array Token
  keys : List (Option KeyPlace)
  indents : List Int
  keyAllowed : Bool

/-- Skips white space and comments. A line break outside brackets allows a key; a tab counts as
white space only where no key is allowed. -/
def Source.skipBlank (inFlow inComment keyAllowed : Bool) : Source → Bool × Source
  | [] => (keyAllowed, [])
  | c :: rest =>
    if isBreak c.char then skipBlank inFlow false (keyAllowed || !inFlow) rest
    else if inComment && !isEnd c.char then skipBlank inFlow true keyAllowed rest
    else if c.char == ' ' || (c.char == '\t' && (inFlow || !keyAllowed)) ||
        (isByteOrderMark c.char && c.column == 0) then skipBlank inFlow false keyAllowed rest
    else if c.char == '#' then skipBlank inFlow true keyAllowed rest
    else (keyAllowed, c :: rest)

namespace Scan

def start (s : Source) : Scan := ⟨s, #[], [none], [-1], true⟩

def inFlow (s : Scan) : Bool := 1 < s.keys.length

def indent (s : Scan) : Int := s.indents.headD (-1)

def column (s : Scan) : Int := s.source.column

def push (t : Token) (s : Scan) : Scan := { s with tokens := s.tokens.push t }

def advance (n : Nat) (s : Scan) : Scan := { s with source := s.source.advance n }

def allowKey (b : Bool) (s : Scan) : Scan := { s with keyAllowed := b }

def skipBlank (s : Scan) : Scan :=
  let (allowed, source) := s.source.skipBlank s.inFlow false s.keyAllowed
  { s with source := source, keyAllowed := allowed }

/-- Gives up the possible keys that are too far back: on an earlier line or more than 1024
characters before. A required one is an error. -/
def dropStale? (s : Scan) : Option Scan := do
  let here := s.source.position
  let keys ← s.keys.mapM fun key =>
    match key with
    | none => some none
    | some place =>
      if place.position.line < here.line ∨ place.position.index + 1024 < here.index then
        if place.required then none else some none
      else some (some place)
  return { s with keys := keys }

/-- Gives up the possible key of the innermost bracket. -/
def removeKey? (s : Scan) : Option Scan :=
  match s.keys with
  | some place :: rest =>
    if place.required then none else some { s with keys := none :: rest }
  | _ => some s

/-- Notes that a key may start here. -/
def saveKey? (s : Scan) : Option Scan :=
  if s.keyAllowed then do
    let required := !s.inFlow && s.indent == s.column
    let s ← s.removeKey?
    return { s with keys := some ⟨required, s.tokens.size, s.source.position⟩ :: s.keys.drop 1 }
  else some s

/-- Opens a block collection, at a place among the tokens, if the column is a new indent. -/
def openBlock (column : Int) (place : Nat) (t : Token) (s : Scan) : Scan :=
  if !s.inFlow && s.indent < column then
    { s with indents := column :: s.indents, tokens := s.tokens.insertIdxIfInBounds place t }
  else s

def openBlockHere (t : Token) (s : Scan) : Scan := s.openBlock s.column s.tokens.size t

/-- Closes the block collections that are indented by more than a column. -/
def closeBlocks (column : Int) (s : Scan) : Scan :=
  if s.inFlow then s
  else
    let closed := s.indents.takeWhile (column < ·)
    { s with
      indents := s.indents.drop closed.length
      tokens := s.tokens ++ Array.replicate closed.length .blockEnd }

/-- Reads a directive or a document marker: both end all block collections. -/
def beginDocumentPart? (s : Scan) : Option Scan := do
  let s ← (s.closeBlocks (-1)).removeKey?
  return s.allowKey false

def openBracket? (t : Token) (s : Scan) : Option Scan := do
  let s ← s.saveKey?
  return (({ s with keys := none :: s.keys }).allowKey true).advance 1 |>.push t

def closeBracket? (t : Token) (s : Scan) : Option Scan := do
  let s ← s.removeKey?
  let s := if s.inFlow then { s with keys := s.keys.drop 1 } else s
  return ((s.allowKey false).advance 1).push t

/-- Reads the `-` of an entry. Between brackets it is left to the structure to refuse it. -/
def dash? (s : Scan) : Option Scan := do
  guard (s.inFlow || s.keyAllowed)
  let s ← (s.openBlockHere .blockSequence).removeKey?
  return ((s.allowKey true).advance 1).push .dash

def key? (s : Scan) : Option Scan := do
  guard (s.inFlow || s.keyAllowed)
  let s ← (s.openBlockHere .blockMapping).removeKey?
  return ((s.allowKey !s.inFlow).advance 1).push .key

/-- Reads the `:` of a value. What stands at the possible key becomes the key. -/
def value? (s : Scan) : Option Scan :=
  match s.keys with
  | some place :: rest =>
    let s := { s with
      keys := none :: rest
      tokens := s.tokens.insertIdxIfInBounds place.tokenCount .key }
    let s := s.openBlock place.position.column place.tokenCount .blockMapping
    some (((s.allowKey false).advance 1).push .value)
  | _ => do
    guard (s.inFlow || s.keyAllowed)
    let s := s.openBlockHere .blockMapping
    return ((s.allowKey !s.inFlow).advance 1).push .value

/-- Reads a token that may begin a key. -/
def keyed? (read? : Source → Option (Token × Source)) (s : Scan) : Option Scan := do
  let s ← s.saveKey?
  let (t, rest) ← read? s.source
  return ({ s with source := rest, keyAllowed := false }).push t

def plain? (s : Scan) : Option Scan := do
  let s ← s.saveKey?
  let (text, endsLine, rest) ← s.source.plain? s.inFlow (s.indent + 1)
  return ({ s with source := rest, keyAllowed := endsLine }).push (.scalar text true)

def block? (literal : Bool) (s : Scan) : Option Scan := do
  let s ← s.removeKey?
  let (text, rest) ← (s.source.advance 1).block? literal s.indent
  return ({ s with source := rest, keyAllowed := true }).push (.scalar text false)

def quoted? (double : Bool) : Scan → Option Scan :=
  keyed? fun s => ((s.advance 1).quoted? double).map fun (cs, r) =>
    (.scalar (String.ofList cs) false, r)

/-- Whether a plain scalar can begin here. -/
def beginsPlain (s : Scan) : Bool :=
  let c := s.source.char
  let next := s.source.peek 1
  if c == '-' then !isSpaceOrTab next
  else if c == '?' || c == ':' then !s.inFlow && !isGap next
  else
    !(isGap c || [',', '[', ']', '{', '}', '#', '&', '*', '!', '|', '>', '\'', '"', '%', '@',
      '\x60'].contains c)

def step? (s : Scan) : Option Scan :=
  let c := s.source.char
  let gapNext := isGap (s.source.peek 1)
  if s.source.column == 0 && c == '%' then do
    let s ← s.beginDocumentPart?
    let (d, rest) ← (s.source.advance 1).directive?
    return ({ s with source := rest }).push (.directive d)
  else if s.source.atMarker '-' then
    s.beginDocumentPart?.map fun s => (s.advance 3).push .documentStart
  else if s.source.atMarker '.' then
    s.beginDocumentPart?.map fun s => (s.advance 3).push .documentEnd
  else if c == '[' then s.openBracket? .openSequence
  else if c == '{' then s.openBracket? .openMapping
  else if c == ']' then s.closeBracket? .closeSequence
  else if c == '}' then s.closeBracket? .closeMapping
  else if c == ',' then
    s.removeKey?.map fun s => ((s.allowKey true).advance 1).push .comma
  else if c == '-' && gapNext then s.dash?
  else if c == '?' && (s.inFlow || gapNext) then s.key?
  else if c == ':' && (s.inFlow || gapNext) then s.value?
  else if c == '*' then
    s.keyed? fun r => (r.advance 1).anchor?.map fun (name, r) => (.reference name, r)
  else if c == '&' then
    s.keyed? fun r => (r.advance 1).anchor?.map fun (name, r) => (.anchor name, r)
  else if c == '!' then
    s.keyed? fun r => (r.tag? s.inFlow).map fun (t, r) => (.tag t, r)
  else if c == '|' && !s.inFlow then s.block? true
  else if c == '>' && !s.inFlow then s.block? false
  else if c == '\'' then s.quoted? false
  else if c == '"' then s.quoted? true
  else if s.beginsPlain then s.plain?
  else none

/-- Reads all tokens. At the end of the text every block collection is closed. -/
def run? (s : Scan) : Option (Array Token) :=
  match s.skipBlank.dropStale? with
  | none => none
  | some here =>
    let here := here.closeBlocks here.column
    if isEnd here.source.char then (here.closeBlocks (-1)).removeKey?.map Scan.tokens
    else
      match here.step? with
      | none => none
      | some next => if next.source.length < s.source.length then run? next else none
termination_by s.source.length

end Scan

def Token.ofText? (s : String) : Option (List Token) := do
  let source ← Source.ofText? s
  let tokens ← (Scan.start source).run?
  return tokens.toList

end ComponentSpec.Yaml
