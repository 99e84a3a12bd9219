import ComponentSpec.Yaml.Plain
import ComponentSpec.Yaml.Source

/-!
# ComponentSpec.Yaml.Scalar

The text of a scalar, read from a source in each of its styles.

* `Source.plain?`: without quotes; it ends before an indicator, a comment or a smaller indent.
* `Source.quoted?`: in single or double quotes, over any number of lines.
* `Source.block?`: a literal or folded block, whose indent is found or given in its header.

A reader returns what it has read and the rest of the source. It fails on a text that no reading
allows.
-/

namespace ComponentSpec.Yaml

/-- The text that white space between two words of a scalar stands for. Blanks stand for
themselves if no line ends among them. A single line break is folded to a blank, and of several
the first one is dropped; a line separator is never folded. -/
def foldGap (gap : Source) : List Char :=
  match (gap.map Cell.char).filter isBreak with
  | [] => gap.map Cell.char
  | b :: more =>
    if b = '\n' then (if more = [] then [' '] else more) else b :: more

def hasShallowTab (indent : Int) (gap : Source) : Bool :=
  (gap.dropWhile fun c => !isBreak c.char).any fun c => c.char == '\t' && (c.column : Int) < indent

namespace Source

def takeGap (s : Source) : Source := s.takeWhile fun c => isSpaceOrTab c.char || isBreak c.char

def dropGap (s : Source) : Source := s.dropWhile fun c => isSpaceOrTab c.char || isBreak c.char

/-- Reads the characters of a plain scalar up to white space or an indicator that ends it. Inside
brackets a `:` right before an indicator is an error. -/
def plainRun? (inFlow : Bool) : Source → Option (List Char × Source)
  | [] => some ([], [])
  | c :: rest =>
    if isGap c.char then some ([], c :: rest)
    else if inFlow && c.char == ':' &&
        [',', '?', '[', ']', '{', '}'].contains (Source.char rest) then none
    else if (c.char == ':' && isGap (Source.char rest)) ||
        (inFlow && [',', '[', ']', '{', '}'].contains c.char) then some ([], c :: rest)
    else (plainRun? inFlow rest).map fun (cs, s) => (c.char :: cs, s)

theorem length_of_plainRun? {inFlow : Bool} {s r : Source} {cs : List Char}
    (h : plainRun? inFlow s = some (cs, r)) : cs.length + r.length = s.length := by
  induction s generalizing cs r with
  | nil => simp [plainRun?] at h; simp [h]
  | cons c rest ih =>
    simp only [plainRun?] at h
    split at h
    · cases h; simp
    · split at h
      · cases h
      · split at h
        · cases h; simp
        · simp only [Option.map_eq_some_iff] at h
          obtain ⟨⟨ds, t⟩, ht, he⟩ := h
          cases he
          have := ih ht
          simp only [List.length_cons]
          omega

theorem length_dropGap_le (s : Source) : s.dropGap.length ≤ s.length :=
  (List.dropWhile_sublist _).length_le

/-- Reads a plain scalar after `gap`. The result also tells whether the scalar was ended by white
space with a line break in it. -/
def plainFrom? (inFlow : Bool) (indent : Int) (gap s : Source) :
    Option (List Char × Bool × Source) :=
  let endsLine (g : Source) := g.any fun c => isBreak c.char
  if s.atDocumentMarker || s.char == '#' then some ([], endsLine gap, s)
  else
    match _h : s.plainRun? inFlow with
    | none => none
    | some ([], rest) => some ([], endsLine gap, rest)
    | some (c :: run, rest) =>
      let here := foldGap gap ++ c :: run
      let next := rest.takeGap
      let after := rest.dropGap
      if hasShallowTab indent next then none
      else if next.isEmpty then some (here, false, rest)
      else if !inFlow && (after.column : Int) < indent then some (here, endsLine next, after)
      else
        (plainFrom? inFlow indent next after).map fun (cs, e, r) => (here ++ cs, e, r)
termination_by s.length
decreasing_by
  have run_rest := length_of_plainRun? _h
  have after_le := length_dropGap_le rest
  simp only [List.length_cons] at run_rest
  omega

def plain? (inFlow : Bool) (indent : Int) (s : Source) : Option (String × Bool × Source) :=
  (plainFrom? inFlow indent [] s).map fun (cs, e, r) => (String.ofList cs, e, r)

def escapes : List (Char × Nat) :=
  [ ('0', 0), ('a', 7), ('b', 8), ('t', 9), ('\t', 9), ('n', 10), ('v', 11), ('f', 12), ('r', 13),
    ('e', 27), (' ', 32), ('"', 34), ('/', 47), ('\\', 92), ('N', 0x85), ('_', 0xA0),
    ('L', 0x2028), ('P', 0x2029) ]

def escapeLength? (c : Char) : Option Nat :=
  if c = 'x' then some 2 else if c = 'u' then some 4 else if c = 'U' then some 8 else none

/-- Reads what follows a backslash: a one-letter escape, or a code point in base 16 that is a
character. -/
def escape? : Source → Option (Char × Source)
  | [] => none
  | c :: rest =>
    match escapes.find? fun e => e.1 == c.char with
    | some e => some (Char.ofNat e.2, rest)
    | none =>
      match escapeLength? c.char with
      | none => none
      | some n =>
        match natOfBase? 16 ((rest.take n).map Cell.char) with
        | none => none
        | some code =>
          if code.isValidChar then some (Char.ofNat code, rest.drop n) else none

theorem length_of_escape? {s r : Source} {c : Char} (h : escape? s = some (c, r)) :
    r.length ≤ s.length := by
  unfold escape? at h
  split at h
  · cases h
  · split at h
    · cases h; simp
    · split at h
      · cases h
      · split at h
        · cases h
        · split at h
          · cases h; simp; omega
          · cases h

/-- Reads the rest of a quoted scalar and its closing quote. Two single quotes stand for one. In
double quotes a backslash starts an escape; before a line break it takes the break away. -/
def quoted? (double : Bool) : Source → Option (List Char × Source)
  | [] => none
  | c :: rest =>
    let quote := if double then '"' else '\''
    let more (cs : List Char) (r : Option (List Char × Source)) :=
      r.map fun (ds, r) => (cs ++ ds, r)
    if Source.atDocumentMarker (c :: rest) || isEnd c.char then none
    else if isGap c.char then
      have := length_dropGap_le rest
      more (foldGap (c :: Source.takeGap rest)) (quoted? double (Source.dropGap rest))
    else if !double && c.char == quote && Source.char rest == quote then
      have := length_advance 1 rest
      more [quote] (quoted? double (Source.advance 1 rest))
    else if c.char == quote then some ([], rest)
    else if double && c.char == '\\' then
      if isBreak (Source.char rest) then
        have := length_dropGap_le (Source.advance 1 rest)
        have := length_advance 1 rest
        more (((Source.advance 1 rest).takeGap.map Cell.char).filter isBreak)
          (quoted? double (Source.advance 1 rest).dropGap)
      else
        match h : escape? rest with
        | none => none
        | some (e, after) =>
          have := length_of_escape? h
          more [e] (quoted? double after)
    else more [c.char] (quoted? double rest)
termination_by s => s.length
decreasing_by all_goals (simp only [List.length_cons]; omega)

/-- How a block scalar treats the line breaks at its end: keeps the first, none or all. -/
inductive Chomp where
  | clip
  | strip
  | keep
deriving DecidableEq

def chompOf? (c : Char) : Option Chomp :=
  if c = '+' then some .keep else if c = '-' then some .strip else none

/-- Reads the indicators after `|` or `>`: at most one for the line breaks at the end and one digit
for the indent, in any order. A digit 0 is an error. -/
def blockHeader? (s : Source) : Option (Chomp × Nat × Source) :=
  let digit (s : Source) : Option (Nat × Source) :=
    if s.char == '0' then none
    else if s.char.isDigit then some (digitValue s.char, s.advance 1)
    else some (0, s)
  match chompOf? s.char with
  | some chomp => (digit (s.advance 1)).map fun (n, r) => (chomp, n, r)
  | none =>
    (digit s).map fun (n, r) =>
      match if n = 0 then none else chompOf? r.char with
      | some chomp => (chomp, n, r.advance 1)
      | none => (.clip, n, r)

/-- Skips the lines without text before a line of a block: their breaks, the widest indent seen,
and the rest. With indent 0 the indent is still to be found. A tab in the indent is an error. -/
def blockBreaks? (indent : Nat) (s : Source) : Option (List Char × Nat × Source) :=
  let rest := s.skip fun c => c.char == ' ' && (indent == 0 || c.column < indent)
  if rest.char == '\t' && (indent == 0 || rest.column < indent) then none
  else if isBreak rest.char then
    if (rest.advance 1).length < s.length then
      (blockBreaks? indent (rest.advance 1)).map fun (bs, widest, r) =>
        (rest.char :: bs, max rest.column widest, r)
    else none
  else some ([], rest.column, rest)
termination_by s.length

/-- Reads the lines of a block of known indent. `last` is the break before the line at hand,
`empty` the breaks of the lines without text after it, and `afterBlank` tells whether the line
before began with white space. Folding turns a single break between two lines that begin with text
into a blank. -/
def blockLines? (literal : Bool) (chomp : Chomp) (indent : Nat) (last empty : List Char)
    (afterBlank : Bool) (s : Source) : Option (List Char × Source) :=
  if s.column = indent ∧ ¬ isEnd s.char then
    let beginsBlank := isSpaceOrTab s.char
    let joint :=
      if !literal && last.head? == some '\n' && !afterBlank && !beginsBlank then
        (if empty.isEmpty then [' '] else [])
      else last
    let line := s.takeText fun c => !isBreakOrEnd c
    let rest := s.skipLine
    let ending := if isBreak rest.char then [rest.char] else []
    match blockBreaks? indent (rest.advance ending.length) with
    | none => none
    | some (breaks, _, after) =>
      if after.length < s.length then
        (blockLines? literal chomp indent ending breaks beginsBlank after).map fun (cs, r) =>
          (joint ++ empty ++ line ++ cs, r)
      else none
  else
    let ending := match chomp with
      | .strip => []
      | .clip => last
      | .keep => last ++ empty
    some (ending, s)
termination_by s.length

def block? (literal : Bool) (parent : Int) (s : Source) : Option (String × Source) := do
  let (chomp, digit, s) ← s.blockHeader?
  let s := s.skipSpacesAndTabs
  let s := if s.char == '#' then s.skipLine else s
  guard (isBreakOrEnd s.char)
  let s := if isBreak s.char then s.advance 1 else s
  let given := if digit = 0 then 0 else (if 0 ≤ parent then parent.toNat + digit else digit)
  let (breaks, widest, s) ← s.blockBreaks? given
  let indent := if given = 0 then max widest (max (parent + 1).toNat 1) else given
  let (cs, rest) ← blockLines? literal chomp indent [] breaks false s
  return (String.ofList cs, rest)

end Source

end ComponentSpec.Yaml
