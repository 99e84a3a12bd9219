import ComponentSpec.Assembly.Component
import ComponentSpec.Proofs.Expansion
import ComponentSpec.Proofs.Reading
import ComponentSpec.Proofs.Sharing

/-!
# ComponentSpec.Proofs.Building

What holds of every component that is built, whatever the components before it, and the kinds of
faults with which a declaration fails.

* `StateMachine.IsClosed`: a machine that speaks of its own states and of its component's events.
* `Component.IsSound`: what a component satisfies by itself; `Component.build_ensures`.
* `Reached.sound`: it holds of all components of the first phase.
-/

namespace ComponentSpec

open Yaml (Node Mapping)
open Checked (Ensures)

variable {kinds : List Kind}

/-! ## State machines -/

namespace StateMachine

/-- A machine whose transitions are between its states, on given events, and all different. -/
structure IsClosed (events : List String) (m : StateMachine) : Prop where
  start : m.start ∈ m.states.names
  transitions : ∀ t ∈ m.transitions,
    t.state ∈ m.states.names ∧ t.next ∈ m.states.names ∧ t.event ∈ events
  edges : (m.transitions.map Transition.edge).Nodup

/-- The kinds of faults of a state machine. -/
def faultKinds : List Kind :=
  [ .unknownStartState, .invalidStatePattern, .noMatchingState, .unknownNextState, .unknownEvent,
    .duplicateTransition ]

theorem kind_of_violates {meaning : PatternMeaning} {states events : List String}
    {produced : List Transition} {d : TransitionDecl} {f : Fault}
    (h : Violates meaning states events produced d f) : f.kind ∈ faultKinds := by
  cases h <;> simp [Fault.kind, faultKinds]

theorem matched_subset {meaning : PatternMeaning} {states : List String} {pattern s : String}
    (h : s ∈ matched meaning states pattern) : s ∈ states := by
  unfold matched at h
  split at h
  · cases h
  · exact (List.mem_filter.1 h).1

theorem build_ensures (hk : ∀ k ∈ faultKinds, k ∈ kinds) (meaning : PatternMeaning)
    (states : List String) (events : NameSet) (start : String) (ds : List TransitionDecl) :
    Ensures (IsClosed events.names) kinds (build meaning states events start ds).outcome := by
  cases h : (build meaning states events start ds).outcome with
  | ok m =>
    obtain ⟨expandable, hstates, hstart, htransitions⟩ := build_ok_iff.1 h
    refine ⟨?_, fun t ht => ?_, ?_⟩
    · rw [hstart, hstates]
      exact expandable.start
    · rw [htransitions] at ht
      obtain ⟨d, hd, ht⟩ := List.mem_flatMap.1 ht
      obtain ⟨s, hs, rfl⟩ := List.mem_map.1 ht
      have sound := expandable.sound d hd
      rw [hstates]
      exact ⟨matched_subset hs, sound.next, sound.event⟩
    · rw [htransitions]
      exact expandable.nodup
  | error f =>
    rcases build_error_iff.1 h with ⟨-, rfl⟩ | ⟨-, before, d, after, -, -, violates⟩
    · exact hk _ (by simp [Fault.kind, faultKinds])
    · exact hk _ (kind_of_violates violates)

end StateMachine

/-! ## Components -/

/-- What a component satisfies by itself. -/
structure Component.IsSound (c : Component) : Prop where
  interface : c.interface.IsSound
  machine : c.machine.IsClosed c.events.names

/-- The kinds of faults of a definition. -/
def definitionKinds : List Kind := entryKinds ++ StateMachine.faultKinds

theorem readEvents_ensures (hk : .invalidDocument ∈ kinds) (fields : Mapping) :
    Ensures (fun _ => True) kinds (readEvents fields).outcome := by
  unfold readEvents
  split
  · trivial
  · exact Ensures.andThen (asNames_ensures hk _ _) fun _ _ => trivial

theorem readStateMachine_ensures (hk : ∀ k ∈ definitionKinds, k ∈ kinds) (events : NameSet)
    (fields : Mapping) :
    Ensures (StateMachine.IsClosed events.names) kinds
      (readStateMachine events fields).outcome := by
  have hd : .invalidDocument ∈ kinds := hk _ (by decide)
  unfold readStateMachine
  refine Ensures.andThen (requiredField_ensures hd fields _ _) fun body _ => ?_
  refine Ensures.andThen (asMapping_ensures hd body _) fun m _ => ?_
  refine Ensures.andThen (requiredField_ensures hd m _ _) fun states _ => ?_
  refine Ensures.andThen (asNames_ensures hd states _) fun states _ => ?_
  refine Ensures.andThen (requiredField_ensures hd m _ _) fun start _ => ?_
  refine Ensures.andThen (asName_ensures hd start _) fun start _ => ?_
  refine Ensures.andThen (TransitionDecl.readList_ensures hd _) fun transitions _ => ?_
  exact StateMachine.build_ensures (fun k h => hk k (List.mem_append_right _ h)) ..

theorem Component.build_ensures (hk : ∀ k ∈ definitionKinds, k ∈ kinds) (name : String)
    (fields : Mapping) :
    Ensures IsSound kinds (Component.build name fields).outcome := by
  have hd : .invalidDocument ∈ kinds := hk _ (by decide)
  unfold Component.build
  refine Ensures.andThen
    (Interface.read_ensures (fun k h => hk k (List.mem_append_left _ h)) _) fun interface sound => ?_
  refine Ensures.andThen (readUtilization_ensures hd _) fun subscriptions _ => ?_
  refine Ensures.andThen (readEvents_ensures hd fields) fun events _ => ?_
  refine Ensures.andThen (readStateMachine_ensures hk events fields) fun machine closed => ?_
  exact ⟨sound, closed⟩

/-- The kinds of faults of a declaration. -/
def declarationKinds : List Kind := .unknownUsedComponent :: definitionKinds

theorem assemble_ensures (r : Registry) (name : String) (d : ComponentDecl) :
    Ensures (fun _ => True) declarationKinds (assemble r name d).outcome := by
  cases d with
  | uses target =>
    rw [assemble]
    split
    · trivial
    · show Kind.unknownUsedComponent ∈ declarationKinds
      decide
  | definition fields =>
    have hk : ∀ k ∈ definitionKinds, k ∈ declarationKinds := fun k h => List.mem_cons_of_mem _ h
    exact Ensures.andThen (Component.build_ensures hk name fields) fun _ _ => trivial

/-- Every component of the first phase is sound by itself. -/
theorem Reached.sound {o : Options} {ds : List (String × ComponentDecl)} {r : Registry}
    (h : Reached o ds r) :
    ∀ e ∈ r.components.entries, e.2.component.IsSound := by
  induction h with
  | start =>
    intro e he
    cases he
  | skip _ _ ih => exact ih
  | add reached _ hnew hadd ih =>
    have new := reached.coherent.isNew hnew
    intro e he
    cases hadd with
    | definition hc =>
      rw [Registry.entries_define new] at he
      rcases List.mem_append.1 he with he | he
      · exact ih e he
      · obtain rfl := List.mem_singleton.1 he
        exact (Component.build_ensures (fun _ h => h) _ _).ok hc
    | uses ho =>
      rw [Registry.entries_share new] at he
      rcases List.mem_append.1 he with he | he
      · exact ih e he
      · obtain rfl := List.mem_singleton.1 he
        have sound := ih _ (NameMap.mem_entries_of_get? ho)
        exact sound

end ComponentSpec
