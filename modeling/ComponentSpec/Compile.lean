import ComponentSpec.Assembly.Component
import ComponentSpec.Registry.Reference

/-!
# ComponentSpec.Compile

Documents are compiled in two phases. First every component is built, in the order of declaration;
then the references between them are checked.

* `compile`: the components of a text.
* `compileTree`: the components of a tree.
* `assembleAll`: the first phase.
-/

namespace ComponentSpec

open Yaml (Node)

structure Options where
  /-- Components whose names start with this marker are skipped. -/
  reserved : Option Char
  /-- The key of the list of components. -/
  rootKey : String
deriving DecidableEq

namespace Options

def standard : Options := ⟨some '_', "components"⟩

def isReserved (o : Options) (name : String) : Bool :=
  match o.reserved with
  | none => false
  | some marker => name.toList.head? == some marker

end Options

/-- Builds a declaration and binds its name, which must be new. -/
def Registry.add (r : Registry) (name : String) (d : ComponentDecl) : Traced Fault Registry :=
  if r.contains name then .fail (.duplicateComponent name)
  else do
    .report (.parsing name)
    match ← assemble r name d with
    | .component c => return r.define name c
    | .aliasOf target =>
      match r.bindAlias? name target with
      | some r => return r
      | none => .fail (.unknownUsed target name)

/-- Adds declarations to a registry in order, without the reserved ones. -/
def assembleAll (o : Options) (r : Registry) :
    List (String × ComponentDecl) → Traced Diagnostic Registry
  | [] => .ok r
  | (name, d) :: ds =>
    if o.isReserved name then do
      .report (.ignoredReserved name)
      assembleAll o r ds
    else do
      let r ← (r.add name d).mapError (Diagnostic.ofFaultIn name)
      assembleAll o r ds

def checkReferences (r : Registry) : Except Diagnostic Unit :=
  match r.violation? with
  | some d => .error d
  | none => .ok ()

def compileTree (o : Options) (root : Node) : Traced Diagnostic Registry := do
  let ds ← (declarations root o.rootKey).mapError Diagnostic.ofFault
  let r ← assembleAll o .empty ds
  .lift (checkReferences r)
  .report (.compiled r.size)
  return r

def compile (o : Options) (text : String) : Traced Diagnostic Registry := do
  let root ← .lift ((loadDocument text).mapError Diagnostic.ofFault)
  compileTree o root

end ComponentSpec
