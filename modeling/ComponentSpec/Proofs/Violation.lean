import ComponentSpec.Proofs.Phases
import ComponentSpec.Proofs.Reference

/-!
# ComponentSpec.Proofs.Violation

What the second phase reports, said without its search.

* `Subscription.Names`: a subscription is written as a publisher and a notification.
* `Component.Coheres`: nothing is wrong with a component.
* `Subscription.Violates`, `Component.Violates`: what is wrong first. The order is that of the
  constructors, and within each of them that of the list.
* `checkReferences_outcome`: the check succeeds if all definitions cohere, and ends with the first
  violation of the first of them that does not. This holds of any registry.
-/

namespace ComponentSpec

variable {r : Registry} {name : String} {c : Component} {f : Fault}

/-! ## Subscriptions -/

/-- The name of a subscription has two segments: a publisher and a notification. -/
structure Subscription.Names (s : Subscription) (publisher notification : String) : Prop where
  text : s.name = publisher ++ "." ++ notification
  publisher : separator ∉ publisher.toList
  notification : separator ∉ notification.toList

/-- A subscription names a notification that a component exposes. -/
def Subscription.Resolves (r : Registry) (s : Subscription) : Prop :=
  ∃ publisher notification peer, s.Names publisher notification ∧
    r.component? publisher = some peer ∧ ∃ n ∈ peer.interface.notifications, n.name = notification

/-- A subscription changes a property of its own component, if any. -/
def Subscription.ChangesOwn (c : Component) (s : Subscription) : Prop :=
  ∀ change, s.change = some change → ∃ p ∈ c.interface.properties, p.name = change.property

/-- What is wrong first with a subscription: it does not have two segments, the first is the name of
no component, the second of no notification of that one, or there is no such property to change. -/
inductive Subscription.Violates (r : Registry) (name : String) (c : Component) (s : Subscription) :
    Fault → Prop where
  | malformed : (∀ p n, ¬ s.Names p n) → Violates r name c s (.malformedReference s.name name)
  | publisher {p n : String} : s.Names p n → r.component? p = none →
      Violates r name c s (.unknownPublisher s.name name p)
  | notification {p n : String} {peer : Component} : s.Names p n → r.component? p = some peer →
      (∀ m ∈ peer.interface.notifications, m.name ≠ n) →
      Violates r name c s (.unknownNotification s.name name n p)
  | change {change : PropertyChange} : s.Resolves r → s.change = some change →
      (∀ p ∈ c.interface.properties, p.name ≠ change.property) →
      Violates r name c s (.unknownChange s.name name change.property)

theorem Interface.hasNotification_eq_false_iff {i : Interface} {name : String} :
    i.hasNotification name = false ↔ ∀ n ∈ i.notifications, n.name ≠ name := by
  rw [← Bool.not_eq_true, hasNotification_iff]
  simp

theorem Interface.hasProperty_eq_false_iff {i : Interface} {name : String} :
    i.hasProperty name = false ↔ ∀ p ∈ i.properties, p.name ≠ name := by
  rw [← Bool.not_eq_true, hasProperty_iff]
  simp

namespace Subscription

variable {s : Subscription} {publisher notification : String}

theorem reference?_eq_some_iff_names :
    s.reference? = some (publisher, notification) ↔ s.Names publisher notification := by
  rw [reference?_eq_some_iff]
  exact ⟨fun ⟨h, hp, hn⟩ => ⟨h, hp, hn⟩, fun ⟨h, hp, hn⟩ => ⟨h, hp, hn⟩⟩

theorem reference?_eq_none_iff : s.reference? = none ↔ ∀ p n, ¬ s.Names p n := by
  rw [Option.eq_none_iff_forall_ne_some, Prod.forall]
  exact forall₂_congr fun p n => not_congr reference?_eq_some_iff_names

/-- No other way to split the name has a separator in one of the parts. -/
theorem Names.of_text {p n : String} (h : s.Names publisher notification)
    (text : s.name = p ++ "." ++ n) : s.Names p n := by
  have dot : ".".toList.count separator = 1 := rfl
  have once := congrArg (fun t : String => t.toList.count separator) (h.text.symm.trans text)
  simp only [String.toList_append, List.count_append, dot, List.count_eq_zero.2 h.publisher,
    List.count_eq_zero.2 h.notification] at once
  exact ⟨text, List.count_eq_zero.1 (by omega), List.count_eq_zero.1 (by omega)⟩

theorem Names.text_iff {p n : String} (h : s.Names publisher notification) :
    s.name = p ++ "." ++ n ↔ p = publisher ∧ n = notification := by
  constructor
  · intro text
    have other := reference?_eq_some_iff_names.2 (h.of_text text)
    rw [reference?_eq_some_iff_names.2 h] at other
    cases other
    exact ⟨rfl, rfl⟩
  · rintro ⟨rfl, rfl⟩
    exact h.text

theorem isMet_iff : s.IsMet r c ↔ s.Resolves r ∧ s.ChangesOwn c := by
  unfold Resolves
  simp only [← reference?_eq_some_iff_names]
  exact ⟨fun h => ⟨h.reference, h.change⟩, fun ⟨h, h'⟩ => ⟨h, h'⟩⟩

theorem Violates.of_violation? (h : s.violation? r name c = some f) : s.Violates r name c f := by
  unfold violation? at h
  split at h
  · rename_i malformed
    cases h
    exact .malformed (reference?_eq_none_iff.1 malformed)
  · rename_i p n hs
    rw [reference?_eq_some_iff_names] at hs
    split at h
    · rename_i unknown
      cases h
      exact .publisher hs unknown
    · rename_i peer hp
      cases hn : peer.interface.hasNotification n with
      | false =>
        rw [hn] at h
        cases h
        exact .notification hs hp (Interface.hasNotification_eq_false_iff.1 hn)
      | true =>
        have resolves : s.Resolves r := ⟨p, n, peer, hs, hp, Interface.hasNotification_iff.1 hn⟩
        rw [hn] at h
        cases hc : s.change with
        | none => simp [hc] at h
        | some change =>
          cases hq : c.interface.hasProperty change.property with
          | true => simp [hc, hq] at h
          | false =>
            simp only [hc, hq] at h
            cases h
            exact .change resolves hc (Interface.hasProperty_eq_false_iff.1 hq)

theorem Violates.violation?_eq (h : s.Violates r name c f) : s.violation? r name c = some f := by
  cases h with
  | malformed hs => simp [violation?, reference?_eq_none_iff.2 hs]
  | publisher hs hp => simp [violation?, reference?_eq_some_iff_names.2 hs, hp]
  | notification hs hp hn =>
    simp [violation?, reference?_eq_some_iff_names.2 hs, hp,
      Interface.hasNotification_eq_false_iff.2 hn]
  | change hr hc hq =>
    obtain ⟨p, n, peer, hs, hp, hn⟩ := hr
    simp [violation?, reference?_eq_some_iff_names.2 hs, hp, Interface.hasNotification_iff.2 hn,
      hc, Interface.hasProperty_eq_false_iff.2 hq]

theorem violation?_eq_some_iff : s.violation? r name c = some f ↔ s.Violates r name c f :=
  ⟨.of_violation?, Violates.violation?_eq⟩

end Subscription

/-! ## Components -/

/-- Each subscription resolves and changes a property of the component itself if any, no command or
notification has a separator in its name, and the notification of each property is one of the
component. -/
structure Component.Coheres (r : Registry) (c : Component) : Prop where
  subscriptions : ∀ s ∈ c.subscriptions, s.Resolves r ∧ s.ChangesOwn c
  commands : ∀ k ∈ c.interface.commands, separator ∉ k.name.toList
  notifications : ∀ n ∈ c.interface.notifications, separator ∉ n.name.toList
  links : ∀ p ∈ c.interface.properties, ∀ link, p.notification = some link →
    ∃ n ∈ c.interface.notifications, n.name = link

/-- What is wrong first with a component: with a subscription, or if all of them are in order with
the name of a command, then of a notification, and then with the notification of a property. -/
inductive Component.Violates (r : Registry) (name : String) (c : Component) : Fault → Prop where
  | subscription {before after : List Subscription} {s : Subscription} {f : Fault} :
      c.subscriptions = before ++ s :: after →
      (∀ s' ∈ before, s'.Resolves r ∧ s'.ChangesOwn c) → s.Violates r name c f →
      Violates r name c f
  | command {before after : List Command} {k : Command} :
      (∀ s ∈ c.subscriptions, s.Resolves r ∧ s.ChangesOwn c) →
      c.interface.commands = before ++ k :: after →
      (∀ k' ∈ before, separator ∉ k'.name.toList) → separator ∈ k.name.toList →
      Violates r name c (.dottedCommand k.name name)
  | notification {before after : List Notification} {n : Notification} :
      (∀ s ∈ c.subscriptions, s.Resolves r ∧ s.ChangesOwn c) →
      (∀ k ∈ c.interface.commands, separator ∉ k.name.toList) →
      c.interface.notifications = before ++ n :: after →
      (∀ n' ∈ before, separator ∉ n'.name.toList) → separator ∈ n.name.toList →
      Violates r name c (.dottedNotification n.name name)
  | link {before after : List Property} {p : Property} {link : String} :
      (∀ s ∈ c.subscriptions, s.Resolves r ∧ s.ChangesOwn c) →
      (∀ k ∈ c.interface.commands, separator ∉ k.name.toList) →
      (∀ n ∈ c.interface.notifications, separator ∉ n.name.toList) →
      c.interface.properties = before ++ p :: after →
      (∀ p' ∈ before, ∀ link', p'.notification = some link' →
        ∃ n ∈ c.interface.notifications, n.name = link') →
      p.notification = some link → (∀ n ∈ c.interface.notifications, n.name ≠ link) →
      Violates r name c (.unknownLink p.name name link)

theorem Command.violation?_eq_some_iff {k : Command} :
    k.violation? name = some f ↔ separator ∈ k.name.toList ∧ f = .dottedCommand k.name name := by
  simp [violation?, isDotted, eq_comm]

theorem Notification.violation?_eq_some_iff {n : Notification} :
    n.violation? name = some f ↔
      separator ∈ n.name.toList ∧ f = .dottedNotification n.name name := by
  simp [violation?, isDotted, eq_comm]

theorem Property.violation?_eq_some_iff {i : Interface} {p : Property} :
    p.violation? name i = some f ↔ ∃ link, p.notification = some link ∧
      (∀ n ∈ i.notifications, n.name ≠ link) ∧ f = .unknownLink p.name name link := by
  unfold violation? Interface.hasNotification
  cases p.notification with
  | none => simp
  | some link => simp [eq_comm (a := f)]

namespace Component

theorem isLinked_iff_coheres : c.IsLinked r ↔ c.Coheres r := by
  constructor
  · intro h
    exact ⟨fun s hs => Subscription.isMet_iff.1 (h.subscriptions s hs), h.commands, h.notifications,
      h.properties⟩
  · intro h
    exact ⟨fun s hs => Subscription.isMet_iff.2 (h.subscriptions s hs), h.commands, h.notifications,
      h.links⟩

theorem violation?_eq_some_iff : c.violation? r name = some f ↔ c.Violates r name f := by
  simp only [violation?, Option.or_eq_some_iff, List.findSome?_eq_some_iff,
    List.findSome?_eq_none_iff, Subscription.violation?_eq_none_iff, Subscription.isMet_iff,
    Subscription.violation?_eq_some_iff, Command.violation?_eq_none_iff,
    Command.violation?_eq_some_iff, Notification.violation?_eq_none_iff,
    Notification.violation?_eq_some_iff, Property.violation?_eq_none_iff,
    Property.violation?_eq_some_iff]
  constructor
  · rintro (⟨before, s, after, hc, hs, ok⟩ | ⟨met, ⟨before, k, after, hc, ⟨hk, rfl⟩, ok⟩ | ⟨plain,
      ⟨before, n, after, hc, ⟨hn, rfl⟩, ok⟩ | ⟨plain', before, p, after, hc,
        ⟨link, hp, absent, rfl⟩, ok⟩⟩⟩)
    · exact .subscription hc ok hs
    · exact .command met hc ok hk
    · exact .notification met plain hc ok hn
    · exact .link met plain plain' hc ok hp absent
  · intro h
    cases h with
    | subscription hc ok hs => exact .inl ⟨_, _, _, hc, hs, ok⟩
    | command met hc ok hk => exact .inr ⟨met, .inl ⟨_, _, _, hc, ⟨hk, rfl⟩, ok⟩⟩
    | notification met plain hc ok hn =>
      exact .inr ⟨met, .inr ⟨plain, .inl ⟨_, _, _, hc, ⟨hn, rfl⟩, ok⟩⟩⟩
    | link met plain plain' hc ok hp absent =>
      exact .inr ⟨met, .inr ⟨plain, .inr ⟨plain', _, _, _, hc, ⟨_, hp, absent, rfl⟩, ok⟩⟩⟩

end Component

/-! ## Registries -/

/-- The definitions are the bindings without a root, in order. -/
theorem Registry.definitions_split_iff {r : Registry} {P : Binding → Prop} {b : Binding} :
    (∃ before after, r.definitions = before ++ b :: after ∧ ∀ d ∈ before, P d) ↔
      ∃ before after, r.bindings = before ++ b :: after ∧ b.root = none ∧
        ∀ d ∈ before, d.root = none → P d := by
  unfold definitions
  constructor
  · rintro ⟨_, _, split, ok⟩
    obtain ⟨front, rest, hb, rfl, hrest⟩ := List.filter_eq_append_iff.1 split
    obtain ⟨skipped, back, rfl, aliases, root, -⟩ := List.filter_eq_cons_iff.1 hrest
    refine ⟨front ++ skipped, back, by rw [hb]; simp, Option.isNone_iff_eq_none.1 root, ?_⟩
    intro d hd hroot
    rcases List.mem_append.1 hd with hd | hd
    · exact ok d (List.mem_filter.2 ⟨hd, by rw [hroot]; rfl⟩)
    · exact absurd (by rw [hroot]; rfl) (aliases d hd)
  · rintro ⟨before, after, hb, root, ok⟩
    refine ⟨before.filter fun d => d.root.isNone, after.filter fun d => d.root.isNone, ?_, ?_⟩
    · rw [hb, List.filter_append, List.filter_cons_of_pos (by rw [root]; rfl)]
    · intro d hd
      obtain ⟨hd, hroot⟩ := List.mem_filter.1 hd
      exact ok d hd (Option.isNone_iff_eq_none.1 hroot)

/-- References are checked with success exactly if every definition of the registry coheres.
Otherwise the failure is the first violation of the first definition, in the order of declaration,
that does not cohere: it has the kind and message of that violation and names this definition. -/
theorem checkReferences_outcome (r : Registry) :
    (checkReferences r = .ok () ↔
      ∀ b ∈ r.bindings, b.root = none → b.object.component.Coheres r) ∧
    ∀ d, checkReferences r = .error d ↔
      ∃ before b after f, r.bindings = before ++ b :: after ∧ b.root = none ∧
        (∀ b' ∈ before, b'.root = none → b'.object.component.Coheres r) ∧
        b.object.component.Violates r b.name f ∧ d = ⟨f.kind, f.message, some b.name⟩ := by
  constructor
  · rw [checkReferences_eq_ok_iff, Registry.violation?_eq_none_iff]
    simp [Registry.definitions, Component.isLinked_iff_coheres]
  · intro d
    rw [checkReferences_eq_error_iff, Registry.violation?_eq_some_iff]
    simp only [Component.isLinked_iff_coheres, Component.violation?_eq_some_iff]
    constructor
    · rintro ⟨before, b, after, f, split, ok, violates, rfl⟩
      obtain ⟨before', after', split', root, ok'⟩ :=
        Registry.definitions_split_iff.1 ⟨before, after, split, ok⟩
      exact ⟨before', b, after', f, split', root, ok', violates, rfl⟩
    · rintro ⟨before, b, after, f, split, root, ok, violates, rfl⟩
      obtain ⟨before', after', split', ok'⟩ :=
        Registry.definitions_split_iff.2 ⟨before, after, split, root, ok⟩
      exact ⟨before', b, after', f, split', ok', violates, rfl⟩

end ComponentSpec
