import ComponentSpec.Pattern.StatePattern
import ComponentSpec.Proofs.Expansion
import Mathlib.Data.List.Perm.Basic

/-!
# ComponentSpec.Proofs.Arrangement

State machines that declare the same states, events and transitions in different orders. A machine
is built one declaration after another, but `Expandable` says of all of them together whether it can
be built: it does not know which of two equal edges comes first.

* `NameSet.ofList_perm`: the names of a list and of its rearrangement.
* `expand_perm`, `flatMap_expand_perm`: what declarations stand for over rearranged states.
* `Expandable.perm`: rearranged declarations can be expanded as well.
* `build_perm`: both machines are built or neither is, and they have the same states and the same
  transitions, each in its own order.
-/

namespace ComponentSpec

theorem NameSet.ofList_perm {names names' : List String} (h : names.Perm names') :
    (ofList names).names.Perm (ofList names').names := by
  refine (List.perm_ext_iff_of_nodup (ofList names).nodup (ofList names').nodup).2 fun a => ?_
  rw [mem_ofList, mem_ofList, h.mem_iff]

theorem eraseDups_perm {names names' : List String} (h : names.Perm names') :
    names.eraseDups.Perm names'.eraseDups := by
  have sets := NameSet.ofList_perm h
  rwa [NameSet.names_ofList, NameSet.names_ofList] at sets

namespace StateMachine

variable {meaning : PatternMeaning} {states states' events events' : List String} {start : String}
  {d : TransitionDecl} {ds ds' : List TransitionDecl}

theorem matched_perm (h : states.Perm states') (pattern : String) :
    (matched meaning states pattern).Perm (matched meaning states' pattern) := by
  unfold matched
  split
  · exact .nil
  · exact h.filter _

theorem expand_perm (h : states.Perm states') (d : TransitionDecl) :
    (expand meaning states d).Perm (expand meaning states' d) :=
  (matched_perm h d.pattern).map d.leaving

/-- Over rearranged states each declaration stands for the same transitions in another order, and
the declarations are in another order themselves. -/
theorem flatMap_expand_perm (hs : states.Perm states') (hd : ds.Perm ds') :
    (ds.flatMap (expand meaning states)).Perm (ds'.flatMap (expand meaning states')) :=
  hd.flatMap fun d _ => expand_perm hs d

theorem Sound.perm (h : Sound meaning states events d) (hs : states.Perm states')
    (he : events.Perm events') : Sound meaning states' events' d where
  pattern := h.pattern
  matching := fun none => h.matching (none ▸ matched_perm hs d.pattern).eq_nil
  next := hs.mem_iff.1 h.next
  event := he.mem_iff.1 h.event

theorem Expandable.perm (h : Expandable meaning states events start ds) (hs : states.Perm states')
    (he : events.Perm events') (hd : ds.Perm ds') :
    Expandable meaning states' events' start ds' where
  start := hs.mem_iff.1 h.start
  sound := fun d mem => (h.sound d (hd.mem_iff.2 mem)).perm hs he
  nodup := ((flatMap_expand_perm hs hd).map Transition.edge).nodup_iff.1 h.nodup

theorem exists_build_iff {events : NameSet} :
    (∃ m, (build meaning states events start ds).outcome = .ok m) ↔
      Expandable meaning states.eraseDups events.names start ds := by
  constructor
  · rintro ⟨m, hm⟩
    exact (build_ok_iff.1 hm).1
  · intro h
    refine ⟨⟨.ofList states, start, ds.flatMap (expand meaning states.eraseDups)⟩, ?_⟩
    exact build_ok_iff.2 ⟨h, NameSet.names_ofList states, rfl, rfl⟩

/-- Two machines whose states, events and transitions are declared in different orders are built
together or not at all. They have the same states, one start, and the same transitions with their
actions. -/
theorem build_perm (meaning : PatternMeaning) {states states' : List String}
    {events events' : NameSet} (start : String) {ds ds' : List TransitionDecl}
    (hs : states.Perm states') (he : events.names.Perm events'.names) (hd : ds.Perm ds') :
    ((∃ m, (build meaning states events start ds).outcome = .ok m) ↔
      ∃ m, (build meaning states' events' start ds').outcome = .ok m) ∧
    ∀ m m', (build meaning states events start ds).outcome = .ok m →
      (build meaning states' events' start ds').outcome = .ok m' →
        m.states.names.Perm m'.states.names ∧ m.start = m'.start ∧
          m.transitions.Perm m'.transitions := by
  have declared := eraseDups_perm hs
  constructor
  · rw [exists_build_iff, exists_build_iff]
    exact ⟨fun h => h.perm declared he hd, fun h => h.perm declared.symm he.symm hd.symm⟩
  · intro m m' hm hm'
    obtain ⟨-, hstates, hstart, htransitions⟩ := build_ok_iff.1 hm
    obtain ⟨-, hstates', hstart', htransitions'⟩ := build_ok_iff.1 hm'
    refine ⟨?_, hstart.trans hstart'.symm, ?_⟩
    · rw [hstates, hstates']
      exact declared
    · rw [htransitions, htransitions']
      exact flatMap_expand_perm declared hd

/-- A machine of two states, one of which is declared again, and of two events. -/
def firstArrangement (ds : List TransitionDecl) : Traced Fault StateMachine :=
  build statePattern? ["S", "T", "S"] ⟨["E", "F"], by decide⟩ "S" ds

/-- The same states and events in other orders. -/
def secondArrangement (ds : List TransitionDecl) : Traced Fault StateMachine :=
  build statePattern? ["T", "S", "S"] ⟨["F", "E"], by decide⟩ "S" ds

/-- Two overlapping patterns in two orders. Where the next states differ the machine is built in both
and its transitions come in two orders; where they are the same it is built in neither. -/
theorem overlapping_patterns_perm :
    (∃ m m', (firstArrangement [⟨".*", "T", "E", none⟩, ⟨"S", "S", "E", some "A"⟩]).outcome =
        .ok m ∧
      (secondArrangement [⟨"S", "S", "E", some "A"⟩, ⟨".*", "T", "E", none⟩]).outcome = .ok m' ∧
      m.transitions.Perm m'.transitions ∧ m.transitions ≠ m'.transitions) ∧
    ¬ ∃ m, (secondArrangement [⟨"S", "T", "E", some "A"⟩, ⟨".*", "T", "E", none⟩]).outcome =
      .ok m := by
  have twoWays (d d' : TransitionDecl) :
      ((∃ m, (firstArrangement [d, d']).outcome = .ok m) ↔
        ∃ m, (secondArrangement [d', d]).outcome = .ok m) ∧
      ∀ m m', (firstArrangement [d, d']).outcome = .ok m →
        (secondArrangement [d', d]).outcome = .ok m' →
          m.states.names.Perm m'.states.names ∧ m.start = m'.start ∧
            m.transitions.Perm m'.transitions :=
    build_perm statePattern? "S" (.swap _ _ _) (.swap _ _ _) (.swap _ _ _)
  constructor
  · obtain ⟨both, same⟩ := twoWays ⟨".*", "T", "E", none⟩ ⟨"S", "S", "E", some "A"⟩
    have first : (firstArrangement [⟨".*", "T", "E", none⟩,
        ⟨"S", "S", "E", some "A"⟩]).outcome.toOption.map StateMachine.transitions =
        some [⟨"S", "T", "E", none⟩, ⟨"T", "T", "E", none⟩, ⟨"S", "S", "E", some "A"⟩] := by
      decide +kernel
    have second : (secondArrangement [⟨"S", "S", "E", some "A"⟩,
        ⟨".*", "T", "E", none⟩]).outcome.toOption.map StateMachine.transitions =
        some [⟨"S", "S", "E", some "A"⟩, ⟨"T", "T", "E", none⟩, ⟨"S", "T", "E", none⟩] := by
      decide +kernel
    obtain ⟨m, hm, order⟩ := exists_ok_of_toOption_map first
    obtain ⟨m', hm', order'⟩ := exists_ok_of_toOption_map second
    refine ⟨m, m', hm, hm', (same m m' hm hm').2.2, ?_⟩
    rw [order, order']
    decide
  · obtain ⟨both, -⟩ := twoWays ⟨".*", "T", "E", none⟩ ⟨"S", "T", "E", some "A"⟩
    have repeated : (firstArrangement [⟨".*", "T", "E", none⟩, ⟨"S", "T", "E", some "A"⟩]).outcome =
        .error (.duplicateTransition "S" "T" "E") := by
      decide +kernel
    rw [← both, repeated]
    rintro ⟨_, h⟩
    cases h

end StateMachine

end ComponentSpec
