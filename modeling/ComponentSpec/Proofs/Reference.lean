import ComponentSpec.Proofs.Text
import ComponentSpec.Registry.Reference
import Mathlib.Data.List.TakeWhile

/-!
# ComponentSpec.Proofs.Reference

What the second phase finds out.

* `Subscription.reference?_eq_some_iff`: the names that have a publisher and a notification in them.
* `Component.IsLinked`: all that a component refers to is there. It has no violation exactly if it
  is linked (`Component.violation?_eq_none_iff`).
* `Registry.violation?_eq_none_iff`, `Registry.violation?_eq_some_iff`: the same of all definitions,
  and which of them a violation is reported for.
-/

namespace ComponentSpec

theorem isDotted_eq_false_iff {name : String} : isDotted name = false ↔ separator ∉ name.toList := by
  simp [isDotted]

/-! ## Names of notifications -/

/-- A subscription has a reference exactly if its name is a publisher and a notification with one
separator, which is between them. -/
theorem Subscription.reference?_eq_some_iff {s : Subscription} {publisher notification : String} :
    s.reference? = some (publisher, notification) ↔
      s.name = publisher ++ "." ++ notification ∧ separator ∉ publisher.toList ∧
        separator ∉ notification.toList := by
  have dot : ".".toList = [separator] := rfl
  constructor
  · intro h
    unfold reference? at h
    split at h
    · cases h
    · rename_i rest hrest
      split at h
      · cases h
      · rename_i plain
        cases h
        refine ⟨?_, ?_, ?_⟩
        · rw [← String.toList_inj, String.toList_append, String.toList_append, dot,
            String.toList_ofList, String.toList_ofList, List.append_assoc, List.singleton_append]
          exact eq_append_of_dropWhile hrest
        · rw [String.toList_ofList]
          intro hmem
          simpa using List.mem_takeWhile_imp hmem
        · rw [String.toList_ofList]
          simpa using plain
  · rintro ⟨hname, hp, hn⟩
    have text : s.name.toList = publisher.toList ++ separator :: notification.toList := by
      rw [hname, String.toList_append, String.toList_append, dot, List.append_assoc,
        List.singleton_append]
    obtain ⟨taken, dropped⟩ := split_first hp notification.toList
    unfold reference?
    rw [text, taken, dropped]
    simp [hn, String.ofList_toList]

/-! ## Names in an interface -/

theorem Interface.hasNotification_iff {i : Interface} {name : String} :
    i.hasNotification name = true ↔ ∃ n ∈ i.notifications, n.name = name := by
  simp [hasNotification]

theorem Interface.hasProperty_iff {i : Interface} {name : String} :
    i.hasProperty name = true ↔ ∃ p ∈ i.properties, p.name = name := by
  simp [hasProperty, property?]

/-! ## Violations in a component -/

/-- A subscription names a notification that a component exposes, and changes a property of its own
component if any. -/
structure Subscription.IsMet (r : Registry) (c : Component) (s : Subscription) : Prop where
  reference : ∃ publisher notification peer, s.reference? = some (publisher, notification) ∧
    r.component? publisher = some peer ∧ ∃ n ∈ peer.interface.notifications, n.name = notification
  change : ∀ change, s.change = some change →
    ∃ p ∈ c.interface.properties, p.name = change.property

/-- All that a component refers to is there, and its own messages do not look like references. -/
structure Component.IsLinked (r : Registry) (c : Component) : Prop where
  subscriptions : ∀ s ∈ c.subscriptions, s.IsMet r c
  commands : ∀ k ∈ c.interface.commands, separator ∉ k.name.toList
  notifications : ∀ n ∈ c.interface.notifications, separator ∉ n.name.toList
  properties : ∀ p ∈ c.interface.properties, ∀ name, p.notification = some name →
    ∃ n ∈ c.interface.notifications, n.name = name

variable {r : Registry} {name : String} {c : Component}

theorem Subscription.violation?_eq_none_iff {s : Subscription} :
    s.violation? r name c = none ↔ s.IsMet r c := by
  unfold violation?
  split
  · rename_i malformed
    constructor
    · intro h
      cases h
    · rintro ⟨⟨_, _, _, h, -⟩, -⟩
      rw [malformed] at h
      cases h
  · rename_i publisher notification hs
    split
    · rename_i unknown
      constructor
      · intro h
        cases h
      · rintro ⟨⟨_, _, _, h, hp, -⟩, -⟩
        rw [hs] at h
        cases h
        rw [unknown] at hp
        cases hp
    · rename_i peer hpeer
      have exposed : peer.interface.hasNotification notification = true ↔
          ∃ p n q, s.reference? = some (p, n) ∧ r.component? p = some q ∧
            ∃ m ∈ q.interface.notifications, m.name = n := by
        rw [Interface.hasNotification_iff]
        constructor
        · exact fun h => ⟨_, _, _, hs, hpeer, h⟩
        · rintro ⟨p, n, q, h, hq, hm⟩
          rw [hs] at h
          cases h
          rw [hpeer] at hq
          cases hq
          exact hm
      by_cases hn : peer.interface.hasNotification notification = true
      · have changed : s.IsMet r c ↔ ∀ change, s.change = some change →
            c.interface.hasProperty change.property = true := by
          simp only [Interface.hasProperty_iff]
          exact ⟨IsMet.change, fun h => ⟨exposed.1 hn, h⟩⟩
        rw [changed]
        cases hc : s.change <;> simp [hn]
      · have unmet : ¬ s.IsMet r c := fun h => hn (exposed.2 h.reference)
        simp [hn, unmet]

theorem Command.violation?_eq_none_iff {k : Command} :
    k.violation? name = none ↔ separator ∉ k.name.toList := by
  rw [← isDotted_eq_false_iff]
  simp [violation?]

theorem Notification.violation?_eq_none_iff {n : Notification} :
    n.violation? name = none ↔ separator ∉ n.name.toList := by
  rw [← isDotted_eq_false_iff]
  simp [violation?]

theorem Property.violation?_eq_none_iff {i : Interface} {p : Property} :
    p.violation? name i = none ↔ ∀ link, p.notification = some link →
      ∃ n ∈ i.notifications, n.name = link := by
  simp only [← Interface.hasNotification_iff]
  unfold violation?
  cases p.notification <;> simp

theorem Component.violation?_eq_none_iff : c.violation? r name = none ↔ c.IsLinked r := by
  simp only [violation?, Option.or_eq_none_iff, List.findSome?_eq_none_iff,
    Subscription.violation?_eq_none_iff, Command.violation?_eq_none_iff,
    Notification.violation?_eq_none_iff, Property.violation?_eq_none_iff]
  constructor
  · rintro ⟨hs, hk, hn, hp⟩
    exact ⟨hs, hk, hn, hp⟩
  · rintro ⟨hs, hk, hn, hp⟩
    exact ⟨hs, hk, hn, hp⟩

theorem Subscription.kind_of_violation {s : Subscription} {f : Fault}
    (h : s.violation? r name c = some f) : f.kind.isCrossReference = true := by
  unfold violation? at h
  split at h
  · cases h
    rfl
  · split at h
    · cases h
      rfl
    · split at h
      · cases h
        rfl
      · split at h
        · cases h
        · split at h
          · cases h
          · cases h
            rfl

theorem Command.kind_of_violation {k : Command} {f : Fault} (h : k.violation? name = some f) :
    f.kind.isCrossReference = true := by
  unfold violation? at h
  split at h
  · cases h
    rfl
  · cases h

theorem Notification.kind_of_violation {n : Notification} {f : Fault}
    (h : n.violation? name = some f) : f.kind.isCrossReference = true := by
  unfold violation? at h
  split at h
  · cases h
    rfl
  · cases h

theorem Property.kind_of_violation {i : Interface} {p : Property} {f : Fault}
    (h : p.violation? name i = some f) : f.kind.isCrossReference = true := by
  unfold violation? at h
  split at h
  · cases h
  · split at h
    · cases h
    · cases h
      rfl

/-- Every violation is of a kind that shows only in the second phase. -/
theorem Component.kind_of_violation {f : Fault} (h : c.violation? r name = some f) :
    f.kind.isCrossReference = true := by
  simp only [violation?, Option.or_eq_some_iff] at h
  rcases h with h | ⟨-, h | ⟨-, h | ⟨-, h⟩⟩⟩
  all_goals obtain ⟨_, _, h⟩ := List.exists_of_findSome?_eq_some h
  · exact Subscription.kind_of_violation h
  · exact Command.kind_of_violation h
  · exact Notification.kind_of_violation h
  · exact Property.kind_of_violation h

/-! ## Violations in a registry -/

theorem Registry.violation?_eq_none_iff :
    r.violation? = none ↔ ∀ b ∈ r.definitions, b.object.component.IsLinked r := by
  simp [violation?, Component.violation?_eq_none_iff]

/-- The violation that is reported is the first one of the first definition with one. -/
theorem Registry.violation?_eq_some_iff {d : Diagnostic} :
    r.violation? = some d ↔ ∃ before b after f, r.definitions = before ++ b :: after ∧
      (∀ b' ∈ before, b'.object.component.IsLinked r) ∧
      b.object.component.violation? r b.name = some f ∧ d = .ofFaultIn b.name f := by
  unfold violation?
  rw [List.findSome?_eq_some_iff]
  constructor
  · rintro ⟨before, b, after, hr, hb, linked⟩
    obtain ⟨f, hf, rfl⟩ := Option.map_eq_some_iff.1 hb
    refine ⟨before, b, after, f, hr, fun b' hb' => ?_, hf, rfl⟩
    exact Component.violation?_eq_none_iff.1 (Option.map_eq_none_iff.1 (linked b' hb'))
  · rintro ⟨before, b, after, f, hr, linked, hf, rfl⟩
    refine ⟨before, b, after, hr, by rw [hf]; rfl, fun b' hb' => ?_⟩
    exact Option.map_eq_none_iff.2 (Component.violation?_eq_none_iff.2 (linked b' hb'))

end ComponentSpec
