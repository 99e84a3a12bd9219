import ComponentSpec.Yaml.Token

/-!
# ComponentSpec.Yaml.Tree

The structure of a document, before aliases are followed and scalars are given a meaning.

* `Tree`: aliases, scalars and collections with their anchors and tags.
* `Tree.ofTokens?`: the only document among the tokens of a text.
* `Tree.number?`: anchors and aliases as numbers, each alias under the number its name has there.
-/

namespace ComponentSpec.Yaml

/-- A document or a part of one. Anchors are labelled by `α`. -/
inductive Tree (α : Type) where
  | reference (target : α)
  | scalar (anchor : Option α) (tag : Option TagBytes) (text : String) (plain : Bool)
  | sequence (anchor : Option α) (tag : Option TagBytes) (items : List (Tree α))
  | mapping (anchor : Option α) (tag : Option TagBytes) (entries : List (Tree α × Tree α))

/-- The declared handles of tags and what they stand for. -/
abbrev Handles := List (String × TagBytes)

def defaultHandles : Handles := [("!", bytesOf ['!']), ("!!", bytesOf "tag:yaml.org,2002:".toList)]

/-- The whole of a written tag. -/
def Handles.resolve? (handles : Handles) : Option WrittenTag → Option (Option TagBytes)
  | none => some none
  | some t =>
    if t.handle = "" then some (some t.suffix)
    else (handles.lookup t.handle).map fun lead => some (lead ++ t.suffix)

namespace Tree

variable {α : Type}

/-- What stands where a value is left out. -/
def missing : Tree α := .scalar none none "" true

/-- A scalar whose tag is only `!` counts as untagged. -/
def ofScalar (anchor : Option α) (tag : Option TagBytes) (text : String) (plain : Bool) : Tree α :=
  .scalar anchor (if tag = some (bytesOf ['!']) then none else tag) text plain

/-! The tokens that end a value, in each place where one may be left out. -/

def endsBlockItem : Token → Bool
  | .dash | .blockEnd => true
  | _ => false

def endsIndentlessItem : Token → Bool
  | .dash | .key | .value | .blockEnd => true
  | _ => false

def endsBlockEntry : Token → Bool
  | .key | .value | .blockEnd => true
  | _ => false

def endsFlowKey : Token → Bool
  | .value | .comma | .closeMapping => true
  | _ => false

def endsFlowValue : Token → Bool
  | .comma | .closeMapping => true
  | _ => false

def endsPairValue : Token → Bool
  | .comma | .closeSequence => true
  | _ => false

mutual

/-- Reads a value with its anchor and tag. Only where `block` is set can a block collection stand,
and only where `indentless` is set a sequence that is not indented. -/
def node? (handles : Handles) (block indentless : Bool) (ts : List Token) :
    Option (Tree String × List Token) :=
  match ts with
  | .reference name :: rest => some (.reference name, rest)
  | .anchor a :: .tag t :: rest => content? handles block indentless (some a) (some t) rest
  | .tag t :: .anchor a :: rest => content? handles block indentless (some a) (some t) rest
  | .anchor a :: rest => content? handles block indentless (some a) none rest
  | .tag t :: rest => content? handles block indentless none (some t) rest
  | rest => content? handles block indentless none none rest
termination_by 8 * ts.length + 2

def content? (handles : Handles) (block indentless : Bool) (anchor : Option String)
    (written : Option WrittenTag) (ts : List Token) : Option (Tree String × List Token) :=
  match handles.resolve? written with
  | none => none
  | some tag =>
    match ts with
    | .dash :: rest =>
      if indentless then
        (indentless? handles (.dash :: rest)).map fun (xs, r) => (.sequence anchor tag xs, r)
      else if anchor.isSome || tag.isSome then some (.scalar anchor tag "" true, ts)
      else none
    | .scalar text plain :: rest => some (ofScalar anchor tag text plain, rest)
    | .openSequence :: rest =>
      (flowItems? handles true rest).map fun (xs, r) => (.sequence anchor tag xs, r)
    | .openMapping :: rest =>
      (flowEntries? handles true rest).map fun (es, r) => (.mapping anchor tag es, r)
    | .blockSequence :: rest =>
      if block then (blockItems? handles rest).map fun (xs, r) => (.sequence anchor tag xs, r)
      else if anchor.isSome || tag.isSome then some (.scalar anchor tag "" true, ts)
      else none
    | .blockMapping :: rest =>
      if block then (blockEntries? handles rest).map fun (es, r) => (.mapping anchor tag es, r)
      else if anchor.isSome || tag.isSome then some (.scalar anchor tag "" true, ts)
      else none
    | _ => if anchor.isSome || tag.isSome then some (.scalar anchor tag "" true, ts) else none
termination_by 8 * ts.length + 1

/-- Reads a value, or none where a token stands that ends it. -/
def value? (handles : Handles) (block indentless : Bool) (ends : Token → Bool)
    (ts : List Token) : Option (Tree String × List Token) :=
  match ts with
  | [] => none
  | t :: rest =>
    if ends t then some (missing, t :: rest) else node? handles block indentless (t :: rest)
termination_by 8 * ts.length + 3

def blockItems? (handles : Handles) (ts : List Token) :
    Option (List (Tree String) × List Token) :=
  match ts with
  | .dash :: rest =>
    match value? handles true false endsBlockItem rest with
    | none => none
    | some (x, r) =>
      if r.length < rest.length + 1 then
        (blockItems? handles r).map fun (xs, r) => (x :: xs, r)
      else none
  | .blockEnd :: rest => some ([], rest)
  | _ => none
termination_by 8 * ts.length + 4

/-- Reads the entries of a block sequence that is not indented. -/
def indentless? (handles : Handles) (ts : List Token) :
    Option (List (Tree String) × List Token) :=
  match ts with
  | .dash :: rest =>
    match value? handles true false endsIndentlessItem rest with
    | none => none
    | some (x, r) =>
      if r.length < rest.length + 1 then
        (indentless? handles r).map fun (xs, r) => (x :: xs, r)
      else none
  | _ => some ([], ts)
termination_by 8 * ts.length

def blockEntries? (handles : Handles) (ts : List Token) :
    Option (List (Tree String × Tree String) × List Token) :=
  match ts with
  | .key :: rest =>
    match entry? handles true endsBlockEntry endsBlockEntry rest with
    | none => none
    | some (e, r) =>
      if r.length < rest.length + 1 then
        (blockEntries? handles r).map fun (es, r) => (e :: es, r)
      else none
  | .blockEnd :: rest => some ([], rest)
  | _ => none
termination_by 8 * ts.length + 4

/-- Reads an entry after its key has been announced. The key and the value may be left out. -/
def entry? (handles : Handles) (block : Bool) (endsKey endsValue : Token → Bool)
    (ts : List Token) : Option ((Tree String × Tree String) × List Token) :=
  match value? handles block block endsKey ts with
  | none => none
  | some (k, r) =>
    if r.length < ts.length + 1 then
      (entryValue? handles block endsValue r).map fun (v, r) => ((k, v), r)
    else none
termination_by 8 * ts.length + 5

/-- Reads `:` and a value, or nothing. -/
def entryValue? (handles : Handles) (block : Bool) (ends : Token → Bool) (ts : List Token) :
    Option (Tree String × List Token) :=
  match ts with
  | .value :: rest => value? handles block block ends rest
  | _ => some (missing, ts)
termination_by 8 * ts.length + 4

/-- Reads the entries of a flow sequence and its bracket. An entry with a key is a mapping of one
entry. Where such a key is left out, the token in its place is skipped. -/
def flowItems? (handles : Handles) (first : Bool) (ts : List Token) :
    Option (List (Tree String) × List Token) :=
  match ts, first with
  | .closeSequence :: rest, _ => some ([], rest)
  | .comma :: .closeSequence :: rest, false => some ([], rest)
  | .comma :: .key :: rest, false => flowPair? handles rest
  | .comma :: rest, false => flowItem? handles rest
  | .key :: rest, true => flowPair? handles rest
  | t :: rest, true => flowItem? handles (t :: rest)
  | _, _ => none
termination_by 8 * ts.length + 6

def flowItem? (handles : Handles) (ts : List Token) : Option (List (Tree String) × List Token) :=
  match node? handles false false ts with
  | none => none
  | some (x, r) =>
    if r.length < ts.length then
      (flowItems? handles false r).map fun (xs, r) => (x :: xs, r)
    else none
termination_by 8 * ts.length + 5

def flowPair? (handles : Handles) (ts : List Token) : Option (List (Tree String) × List Token) :=
  let pair : Option ((Tree String × Tree String) × List Token) := match ts with
    | .value :: rest | .comma :: rest | .closeSequence :: rest =>
      (entryValue? handles false endsPairValue rest).map fun (v, r) => ((missing, v), r)
    | ts => entry? handles false (fun _ => false) endsPairValue ts
  match pair with
  | none => none
  | some (e, r) =>
    if r.length < ts.length + 1 then
      (flowItems? handles false r).map fun (xs, r) => (.mapping none none [e] :: xs, r)
    else none
termination_by 8 * ts.length + 7

def flowEntries? (handles : Handles) (first : Bool) (ts : List Token) :
    Option (List (Tree String × Tree String) × List Token) :=
  match ts, first with
  | .closeMapping :: rest, _ => some ([], rest)
  | .comma :: .closeMapping :: rest, false => some ([], rest)
  | .comma :: .key :: rest, false => flowKeyed? handles rest
  | .comma :: rest, false => flowBare? handles rest
  | .key :: rest, true => flowKeyed? handles rest
  | t :: rest, true => flowBare? handles (t :: rest)
  | _, _ => none
termination_by 8 * ts.length + 6

def flowKeyed? (handles : Handles) (ts : List Token) :
    Option (List (Tree String × Tree String) × List Token) :=
  match entry? handles false endsFlowKey endsFlowValue ts with
  | none => none
  | some (e, r) =>
    if r.length < ts.length + 1 then
      (flowEntries? handles false r).map fun (es, r) => (e :: es, r)
    else none
termination_by 8 * ts.length + 7

def flowBare? (handles : Handles) (ts : List Token) :
    Option (List (Tree String × Tree String) × List Token) :=
  match node? handles false false ts with
  | none => none
  | some (k, r) =>
    if r.length < ts.length then
      (flowEntries? handles false r).map fun (es, r) => ((k, missing) :: es, r)
    else none
termination_by 8 * ts.length + 5

end

/-- The handles of a head of a document: each is declared once, and at most one version is given,
which is 1.1 or 1.2. -/
def handlesOf? : List Directive → Option Handles
  | [] => some []
  | .version major minor :: ds =>
    if major = 1 ∧ (minor = 1 ∨ minor = 2) ∧ !ds.any (fun d => d matches .version _ _) then
      handlesOf? ds
    else none
  | .handle name lead :: ds => do
    let handles ← handlesOf? ds
    guard (handles.lookup name).isNone
    return (name, lead) :: handles

def directives : List Token → List Directive × List Token
  | .directive d :: rest => let (ds, r) := directives rest; (d :: ds, r)
  | rest => ([], rest)

/-- Whether the value of a document is left out. -/
def isBare : List Token → Bool
  | [] | .directive _ :: _ | .documentStart :: _ | .documentEnd :: _ => true
  | _ => false

def document? (ts : List Token) : Option (Tree String × List Token) := do
  let (ds, rest) := directives ts
  let handles := (← handlesOf? ds) ++ defaultHandles
  match rest with
  | .documentStart :: rest =>
    if isBare rest then return (missing, rest) else node? handles true false rest
  | rest => if ds.isEmpty then node? handles true false rest else none

/-- The only document of a text; one without tokens has a missing value. -/
def ofTokens? (ts : List Token) : Option (Tree String) :=
  if ts.isEmpty then some missing
  else do
    let (tree, rest) ← document? ts
    guard (rest.all fun t => t matches .documentEnd)
    return tree

abbrev Numbering := List (String × Nat)

/-- Numbers an anchor by the count of names so far. A name used again takes a new number, so that
the next new name shares it. -/
def Numbering.declare (n : Numbering) : Option String → Option Nat × Numbering
  | none => (none, n)
  | some name => (some n.length, (name, n.length) :: n.filter fun e => e.1 ≠ name)

mutual

/-- Numbers the anchors in the order of the text. An alias must have been declared. -/
def numberFrom? (n : Numbering) : Tree String → Option (Tree Nat × Numbering)
  | .reference name => (n.lookup name).map fun i => (.reference i, n)
  | .scalar anchor tag text plain =>
    let (a, n) := n.declare anchor
    some (.scalar a tag text plain, n)
  | .sequence anchor tag items =>
    let (a, n) := n.declare anchor
    (numberItems? n items).map fun (xs, n) => (.sequence a tag xs, n)
  | .mapping anchor tag entries =>
    let (a, n) := n.declare anchor
    (numberEntries? n entries).map fun (es, n) => (.mapping a tag es, n)

def numberItems? (n : Numbering) : List (Tree String) → Option (List (Tree Nat) × Numbering)
  | [] => some ([], n)
  | x :: xs =>
    match numberFrom? n x with
    | none => none
    | some (y, n) => (numberItems? n xs).map fun (ys, n) => (y :: ys, n)

def numberEntries? (n : Numbering) :
    List (Tree String × Tree String) → Option (List (Tree Nat × Tree Nat) × Numbering)
  | [] => some ([], n)
  | (k, v) :: es =>
    match numberFrom? n k with
    | none => none
    | some (k, n) =>
      match numberFrom? n v with
      | none => none
      | some (v, n) => (numberEntries? n es).map fun (fs, n) => ((k, v) :: fs, n)

end

def number? (t : Tree String) : Option (Tree Nat) := (numberFrom? [] t).map Prod.fst

mutual

/-- The parts with an anchor, in the order of the text. -/
def anchored : Tree α → List (α × Tree α)
  | .reference _ => []
  | .scalar anchor tag text plain =>
    anchor.toList.map fun a => (a, .scalar anchor tag text plain)
  | .sequence anchor tag items =>
    (anchor.toList.map fun a => (a, .sequence anchor tag items)) ++ anchoredItems items
  | .mapping anchor tag entries =>
    (anchor.toList.map fun a => (a, .mapping anchor tag entries)) ++ anchoredEntries entries

def anchoredItems : List (Tree α) → List (α × Tree α)
  | [] => []
  | x :: xs => anchored x ++ anchoredItems xs

def anchoredEntries : List (Tree α × Tree α) → List (α × Tree α)
  | [] => []
  | (k, v) :: es => anchored k ++ anchored v ++ anchoredEntries es

end

mutual

/-- The length of a document: one for an alias or scalar, and two for a collection beside its
parts. -/
def extent : Tree α → Nat
  | .reference _ => 1
  | .scalar .. => 1
  | .sequence _ _ items => 2 + extentItems items
  | .mapping _ _ entries => 2 + extentEntries entries

def extentItems : List (Tree α) → Nat
  | [] => 0
  | x :: xs => extent x + extentItems xs

def extentEntries : List (Tree α × Tree α) → Nat
  | [] => 0
  | (k, v) :: es => extent k + extent v + extentEntries es

end

end Tree

end ComponentSpec.Yaml
