import ComponentSpec.Declaration.Transition
import ComponentSpec.Log
import ComponentSpec.Model.StateMachine

/-!
# ComponentSpec.Assembly.StateMachine

State machines from their declarations. A declared transition stands for one transition from each
state that its pattern matches.

* `declareNames`: the set of a list of names, with a warning for each repeat.
* `StateMachine.build`: the machine, for any meaning of patterns.
-/

namespace ComponentSpec

/-- The meaning of the texts of patterns: which names a pattern matches, or nothing for a text that
is no pattern. -/
abbrev PatternMeaning := String → Option (String → Bool)

/-- The set of a list of names. A repeat is ignored and reported. -/
def declareNames (what : String) (names : List String) : Traced Fault NameSet := do
  Traced.reportAll ((repeats names).map (LogEvent.ignoredRepeat what))
  return NameSet.ofList names

/-- The transitions found so far, and the set of their edges. -/
structure Expansion where
  transitions : List Transition
  edges : List Edge
deriving DecidableEq

namespace Expansion

def empty : Expansion := ⟨[], []⟩

/-- Appends a transition, unless there is one with its edge. -/
def add? (x : Expansion) (t : Transition) : Option Expansion :=
  if x.edges.contains t.edge then none else some ⟨x.transitions ++ [t], t.edge :: x.edges⟩

end Expansion

namespace StateMachine

def resolveFrom (d : TransitionDecl) (x : Expansion) : List String → Traced Fault Expansion
  | [] => .ok x
  | state :: states =>
    match x.add? ⟨state, d.next, d.event, d.action⟩ with
    | none => .fail (.duplicateTransition state d.next d.event)
    | some x => do
      Traced.report (.resolved state d.next d.event)
      resolveFrom d x states

def resolve (meaning : PatternMeaning) (states events : NameSet) (x : Expansion)
    (d : TransitionDecl) : Traced Fault Expansion :=
  match meaning d.pattern with
  | none => .fail (.badPattern d.pattern)
  | some isMatch =>
    let matching := states.names.filter isMatch
    if matching = [] then .fail (.noMatchingState d.pattern)
    else if !states.contains d.next then .fail (.unknownNext d.next)
    else if !events.contains d.event then .fail (.unknownEvent d.event)
    else do
      if matching ≠ [d.pattern] then
        Traced.report (.expanded d.pattern matching.length)
      resolveFrom d x matching

def resolveAll (meaning : PatternMeaning) (states events : NameSet) (x : Expansion) :
    List TransitionDecl → Traced Fault Expansion
  | [] => .ok x
  | d :: ds => do
    let x ← resolve meaning states events x d
    resolveAll meaning states events x ds

def build (meaning : PatternMeaning) (states : List String) (events : NameSet) (start : String)
    (decls : List TransitionDecl) : Traced Fault StateMachine := do
  let states ← declareNames "state" states
  if !states.contains start then .fail (.unknownStart start)
  else do
    let x ← resolveAll meaning states events .empty decls
    return ⟨states, start, x.transitions⟩

end StateMachine

end ComponentSpec
