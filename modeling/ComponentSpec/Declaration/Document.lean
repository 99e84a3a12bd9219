import ComponentSpec.Declaration.Field
import ComponentSpec.Log
import ComponentSpec.Text.Blank
import ComponentSpec.Yaml.Document

/-!
# ComponentSpec.Declaration.Document

The declarations of a document: the list of components under the key of the root.

* `loadDocument`: the tree of a text.
* `ComponentDecl`: how a component is declared.
* `declarations`: the named declarations of a tree, in order.
-/

namespace ComponentSpec

open Yaml (Node Mapping)

/-- The tree of a text, which must not be blank. -/
def loadDocument (text : String) : Checked Node :=
  if trim text.toList = [] then .error .emptyDocument
  else
    match Node.ofText? text with
    | some root => .ok root
    | none => .error .malformedText

inductive ComponentDecl where
  /-- As another name for an earlier component. -/
  | uses (target : String)
  /-- By its parts. -/
  | definition (fields : Mapping)

namespace ComponentDecl

/-- Reads the declaration of a component. With `using` all other fields are ignored; without it
there must be a `statemachine`. -/
def read (name : String) (body : Node) : Traced Fault ComponentDecl := do
  let what := "component " ++ name
  let fields ← .lift (asMapping body what)
  match fields.get? "using" with
  | some v =>
    let target ← .lift (asName v (fieldOf "using" what))
    if 1 < fields.length then
      .report (.ignoredFields name)
    return uses target
  | none =>
    if (fields.field? "statemachine").isNone then .fail (.missing what "statemachine")
    else return definition fields

def readNamed (entry : Node) : Traced Fault (String × ComponentDecl) := do
  let m ← .lift (asMapping entry "component entry")
  let (name, body) ← .lift (singleEntry m "component entry")
  return (name, ← read name body)

/-- Reads declarations in order, up to the first fault. -/
def readAll : List Node → Traced Fault (List (String × ComponentDecl))
  | [] => .ok []
  | entry :: entries => do
    let d ← readNamed entry
    let ds ← readAll entries
    return d :: ds

end ComponentDecl

/-- The entries of the list under a key of the root. A list that is null has none, but there must be
one. -/
def declarationEntries (root : Node) (rootKey : String) : Checked (List Node) := do
  let m ← asMapping root "document"
  match m.get? rootKey with
  | none => .error (.missing "document" rootKey)
  | some list => asSequence list ("'" ++ rootKey ++ "'")

def declarations (root : Node) (rootKey : String) :
    Traced Fault (List (String × ComponentDecl)) := do
  ComponentDecl.readAll (← .lift (declarationEntries root rootKey))

end ComponentSpec
