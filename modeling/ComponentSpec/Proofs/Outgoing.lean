import ComponentSpec.Proofs.Building
import Mathlib.Algebra.GroupWithZero.Nat
import Mathlib.Data.List.Nodup
import Mathlib.Data.List.Perm.Basic

/-!
# ComponentSpec.Proofs.Outgoing

The transitions of a machine as they are met from its states.

* `StateMachine.walk`: the transitions that leave the first state, then those that leave the second
  one, and so on.
* `flatMap_leaving_perm`: a walk over different states meets all transitions between them. The
  induction is on the states: each takes the transitions that leave it, and the others are left to
  the states after it.
* `build_partitioned`: in a machine that has been built, every transition leaves one state, and the
  walk meets it once.
-/

namespace ComponentSpec

namespace StateMachine

variable {m : StateMachine} {state : String} {t : Transition}

/-- The transitions in the order in which a walk through the states meets them. -/
def walk (m : StateMachine) : List Transition := m.states.names.flatMap m.transitionsFrom

theorem mem_transitionsFrom_iff :
    t ∈ m.transitionsFrom state ↔ t ∈ m.transitions ∧ t.state = state := by
  simp [transitionsFrom]

theorem transitionsFrom_sublist (m : StateMachine) (state : String) :
    (m.transitionsFrom state).Sublist m.transitions := List.filter_sublist

theorem length_walk (m : StateMachine) :
    m.walk.length = (m.states.names.map fun s => (m.transitionsFrom s).length).sum :=
  List.length_flatMap

theorem flatMap_leaving_perm {states : List String} (nodup : states.Nodup) {ts : List Transition}
    (known : ∀ t ∈ ts, t.state ∈ states) :
    (states.flatMap fun s => ts.filter fun t => t.state == s).Perm ts := by
  induction states generalizing ts with
  | nil =>
    have none : ts = [] := List.eq_nil_iff_forall_not_mem.2 fun t ht => List.not_mem_nil (known t ht)
    rw [none]
    exact .nil
  | cons s states ih =>
    obtain ⟨hs, nodup⟩ := List.nodup_cons.1 nodup
    let others := ts.filter fun t => !(t.state == s)
    have rest : (states.flatMap fun s' => ts.filter fun t => t.state == s') =
        states.flatMap fun s' => others.filter fun t => t.state == s' := by
      refine List.flatMap_congr fun s' hs' => ?_
      rw [List.filter_filter]
      refine List.filter_congr fun t _ => ?_
      -- what leaves a later state does not leave the first one
      have ne : s' ≠ s := fun e => hs (e ▸ hs')
      by_cases ht : t.state = s'
      · simp [ht, ne]
      · simp [ht]
    have others_known : ∀ t ∈ others, t.state ∈ states := by
      intro t ht
      obtain ⟨ht, other⟩ := List.mem_filter.1 ht
      have ne : t.state ≠ s := by simpa using other
      exact (List.mem_cons.1 (known t ht)).resolve_left ne
    rw [List.flatMap_cons, rest]
    exact ((ih nodup others_known).append_left _).trans (List.filter_append_perm _ ts)

namespace IsClosed

variable {events : List String}

theorem transitionsFrom_eq_nil (h : m.IsClosed events) (hs : state ∉ m.states.names) :
    m.transitionsFrom state = [] := by
  refine List.eq_nil_iff_forall_not_mem.2 fun t ht => ?_
  obtain ⟨mem, rfl⟩ := mem_transitionsFrom_iff.1 ht
  exact hs (h.transitions t mem).1

theorem nodup_transitions (h : m.IsClosed events) : m.transitions.Nodup := List.Nodup.of_map _ h.edges

theorem walk_perm (h : m.IsClosed events) : m.walk.Perm m.transitions :=
  flatMap_leaving_perm m.states.nodup fun t ht => (h.transitions t ht).1

theorem nodup_walk (h : m.IsClosed events) : m.walk.Nodup :=
  h.walk_perm.nodup_iff.2 h.nodup_transitions

end IsClosed

/-- The transitions from a state are those that leave it, in their order; from a name that is no
state there are none. Each transition of a machine that has been built is among those from one state
only, so that their counts add up to the count of all, and a walk through the states meets every
transition once. -/
theorem build_partitioned {meaning : PatternMeaning} {states : List String} {events : NameSet}
    {start : String} {ds : List TransitionDecl} {m : StateMachine}
    (h : (build meaning states events start ds).outcome = .ok m) :
    (∀ s, (m.transitionsFrom s).Sublist m.transitions ∧
      (∀ t, t ∈ m.transitionsFrom s ↔ t ∈ m.transitions ∧ t.state = s) ∧
      (s ∉ states → m.transitionsFrom s = [])) ∧
    (∀ t ∈ m.transitions, ∃! s, s ∈ states ∧ t ∈ m.transitionsFrom s) ∧
    (m.states.names.map fun s => (m.transitionsFrom s).length).sum = m.transitions.length ∧
    m.walk.Perm m.transitions ∧ m.walk.Nodup := by
  have declared : ∀ s, s ∈ m.states.names ↔ s ∈ states := by
    simp [(build_ok_iff.1 h).2.1]
  have closed : m.IsClosed events.names :=
    (build_ensures (fun _ hk => hk) meaning states events start ds).ok h
  refine ⟨fun s => ⟨m.transitionsFrom_sublist s, fun t => mem_transitionsFrom_iff, fun hs => ?_⟩,
    fun t ht => ?_, ?_, closed.walk_perm, closed.nodup_walk⟩
  · exact closed.transitionsFrom_eq_nil fun hm => hs ((declared s).1 hm)
  · refine ⟨t.state, ⟨(declared _).1 (closed.transitions t ht).1, ?_⟩, ?_⟩
    · exact mem_transitionsFrom_iff.2 ⟨ht, rfl⟩
    · rintro s ⟨-, hs⟩
      exact (mem_transitionsFrom_iff.1 hs).2.symm
  · rw [← length_walk, closed.walk_perm.length_eq]

/-- A state that is declared again, and transitions that go to and fro between the two. -/
theorem repeated_state_partitioned :
    ∃ m, (build statePattern? ["S", "T", "S"] ⟨["E", "F"], by decide⟩ "S"
        [⟨"T", "S", "E", none⟩, ⟨".*", "T", "F", some "A"⟩]).outcome = .ok m ∧
      m.transitionsFrom "S" = [⟨"S", "T", "F", some "A"⟩] ∧ m.transitionsFrom "U" = [] ∧
      (m.states.names.map fun s => (m.transitionsFrom s).length).sum = 3 ∧
      m.walk.Perm [⟨"T", "S", "E", none⟩, ⟨"S", "T", "F", some "A"⟩, ⟨"T", "T", "F", some "A"⟩] := by
  have built : (build statePattern? ["S", "T", "S"] ⟨["E", "F"], by decide⟩ "S"
      [⟨"T", "S", "E", none⟩, ⟨".*", "T", "F", some "A"⟩]).outcome.toOption.map
        (fun m => (m.transitions, m.transitionsFrom "S")) =
      some ([⟨"T", "S", "E", none⟩, ⟨"S", "T", "F", some "A"⟩, ⟨"T", "T", "F", some "A"⟩],
        [⟨"S", "T", "F", some "A"⟩]) := by
    decide +kernel
  obtain ⟨m, hm, view⟩ := exists_ok_of_toOption_map built
  obtain ⟨transitions, fromS⟩ := Prod.mk.inj view
  obtain ⟨leaving, -, counts, walked, -⟩ := build_partitioned hm
  refine ⟨m, hm, fromS, (leaving "U").2.2 (by decide), ?_, transitions ▸ walked⟩
  rw [counts, transitions]
  rfl

end StateMachine

end ComponentSpec
