import ComponentSpec.Declaration.Field

/-!
# ComponentSpec.Declaration.Transition

Transitions as they are declared: their state is a pattern over the states of the machine.
-/

namespace ComponentSpec

open Yaml (Node)

structure TransitionDecl where
  pattern : String
  next : String
  event : String
  action : Option String
deriving DecidableEq

namespace TransitionDecl

/-- Reads the transition at a place of the list, which counts from 0. -/
def read (place : Nat) (v : Node) : Checked TransitionDecl := do
  let what := "transition #" ++ toString (place + 1)
  let m ← asMapping v what
  let name (key : String) : Checked String := do
    asName (← requiredField m key what) (fieldOf key what)
  let pattern ← name "state"
  let next ← name "next"
  let event ← name "event"
  let action ← optionalName m "action" what
  return ⟨pattern, next, event, action⟩

def readFrom (place : Nat) : List Node → Checked (List TransitionDecl)
  | [] => .ok []
  | v :: vs => do
    let d ← read place v
    let ds ← readFrom (place + 1) vs
    return d :: ds

/-- Reads the list of transitions; an absent one is empty. -/
def readList (list? : Option Node) : Checked (List TransitionDecl) :=
  match list? with
  | none => .ok []
  | some v => do readFrom 0 (← asSequence v "transitions")

end TransitionDecl

end ComponentSpec
