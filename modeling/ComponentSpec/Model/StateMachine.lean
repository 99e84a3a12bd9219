import ComponentSpec.Model.NameSet

/-!
# ComponentSpec.Model.StateMachine

State machines whose transitions name single states.
-/

namespace ComponentSpec

structure Transition where
  state : String
  next : String
  event : String
  action : Option String
deriving DecidableEq

structure Edge where
  state : String
  next : String
  event : String
deriving DecidableEq

/-- What makes a transition unique in its state machine. -/
def Transition.edge (t : Transition) : Edge := ⟨t.state, t.next, t.event⟩

structure StateMachine where
  states : NameSet
  start : String
  transitions : List Transition
deriving DecidableEq

namespace StateMachine

def hasState (m : StateMachine) (state : String) : Bool := m.states.contains state

def transitionsFrom (m : StateMachine) (state : String) : List Transition :=
  m.transitions.filter fun t => t.state == state

/-- Equality up to the order of the states. -/
def same (m n : StateMachine) : Bool :=
  m.states.same n.states && m.start == n.start && m.transitions == n.transitions

end StateMachine

end ComponentSpec
