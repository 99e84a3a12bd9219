import ComponentSpec.Proofs.Extension
import ComponentSpec.Proofs.Violation

/-!
# ComponentSpec.Proofs.Subscribers

Who subscribes to a notification.

* `Registry.mem_subscribers_iff`, `Registry.subscribers_sublist`: the subscribers of any registry are
  the names whose component has a subscription with this publisher and notification, in the order of
  the registry.
* `Component.IsLinked.exposed_of_names`: in a component that is linked, a subscription names what
  another one exposes.
* `compile_subscribers`: in a compiled document every subscription counts for one notification, and
  only what is exposed has subscribers.
-/

namespace ComponentSpec

variable {r : Registry} {name publisher notification : String} {c : Component}

namespace Registry

theorem mem_subscribers_iff : name ∈ r.subscribers publisher notification ↔
    ∃ c, r.component? name = some c ∧ ∃ s ∈ c.subscriptions, s.Names publisher notification := by
  have subscribes (c : Component) : c.subscribesTo publisher notification = true ↔
      ∃ s ∈ c.subscriptions, s.Names publisher notification := by
    simp only [Component.subscribesTo, List.any_eq_true, beq_iff_eq,
      Subscription.reference?_eq_some_iff_names]
  simp only [subscribers_eq, List.mem_filter, Option.any_eq_true, subscribes]
  exact ⟨And.right, fun ⟨c, hc, hs⟩ => ⟨mem_names_of_component? hc, c, hc, hs⟩⟩

theorem subscribers_sublist (r : Registry) (publisher notification : String) :
    (r.subscribers publisher notification).Sublist r.names := by
  rw [subscribers_eq]
  exact List.filter_sublist

theorem nodup_subscribers (r : Registry) (publisher notification : String) :
    (r.subscribers publisher notification).Nodup :=
  r.components.nodup.sublist (r.subscribers_sublist publisher notification)

/-- No subscription names what has a separator in it. -/
theorem subscribers_dotted
    (dotted : separator ∈ publisher.toList ∨ separator ∈ notification.toList) :
    r.subscribers publisher notification = [] := by
  refine List.eq_nil_iff_forall_not_mem.2 fun name h => ?_
  obtain ⟨c, -, s, -, names⟩ := mem_subscribers_iff.1 h
  exact dotted.elim names.publisher names.notification

end Registry

theorem Component.IsLinked.exposed_of_names (linked : c.IsLinked r) {s : Subscription}
    (hs : s ∈ c.subscriptions) (names : s.Names publisher notification) :
    ∃ peer, r.component? publisher = some peer ∧
      ∃ n ∈ peer.interface.notifications, n.name = notification := by
  obtain ⟨p, n, peer, hr, hpeer, exposed⟩ := (linked.subscriptions s hs).reference
  rw [Subscription.reference?_eq_some_iff_names.2 names] at hr
  cases hr
  exact ⟨peer, hpeer, exposed⟩

/-- The subscribers to a notification of a compiled document are the names, in the order of their
declaration and each once, whose component has a subscription written as the publisher, a separator
and the notification. A separator in one of the two leaves no subscribers, and whatever has some is
exposed. Every subscription counts for the publisher and the notification that its name is written
with, and for no others. -/
theorem compile_subscribers {o : Options} {text : String}
    (h : (compile o text).outcome = .ok r) :
    (∃ ds, decode o text = .ok ds ∧ r.names = boundNames o ds) ∧
    (∀ publisher notification,
      (r.subscribers publisher notification).Sublist r.names ∧
      (r.subscribers publisher notification).Nodup ∧
      (∀ name, name ∈ r.subscribers publisher notification ↔ ∃ c, r.component? name = some c ∧
        ∃ s ∈ c.subscriptions, s.Names publisher notification) ∧
      (separator ∈ publisher.toList ∨ separator ∈ notification.toList →
        r.subscribers publisher notification = []) ∧
      (r.subscribers publisher notification ≠ [] → ∃ peer, r.component? publisher = some peer ∧
        ∃ n ∈ peer.interface.notifications, n.name = notification)) ∧
    ∀ name c, r.component? name = some c → ∀ s ∈ c.subscriptions, ∃ publisher notification,
      (∀ p n, s.name = p ++ "." ++ n ↔ p = publisher ∧ n = notification) ∧
      ∀ p n, name ∈ r.subscribers p n ∧ s.reference? = some (p, n) ↔
        p = publisher ∧ n = notification := by
  obtain ⟨ds, hds, reached, checked⟩ := compile_ok_iff.1 h
  have linked {name : String} {c : Component} (hc : r.component? name = some c) : c.IsLinked r :=
    reached.isLinked checked hc
  refine ⟨⟨ds, hds, reached.names⟩, fun publisher notification => ⟨r.subscribers_sublist _ _,
    r.nodup_subscribers _ _, fun name => Registry.mem_subscribers_iff, Registry.subscribers_dotted,
    fun some => ?_⟩, ?_⟩
  · obtain ⟨name, hname⟩ := List.exists_mem_of_ne_nil _ some
    obtain ⟨c, hc, s, hs, names⟩ := Registry.mem_subscribers_iff.1 hname
    exact (linked hc).exposed_of_names hs names
  · intro name c hc s hs
    obtain ⟨publisher, notification, -, hr, -, -⟩ := ((linked hc).subscriptions s hs).reference
    have names := Subscription.reference?_eq_some_iff_names.1 hr
    refine ⟨publisher, notification, fun p n => names.text_iff, fun p n => ?_⟩
    constructor
    · rintro ⟨-, hr'⟩
      exact names.text_iff.1 (Subscription.reference?_eq_some_iff_names.1 hr').text
    · rintro ⟨rfl, rfl⟩
      exact ⟨Registry.mem_subscribers_iff.2 ⟨c, hc, s, hs, names⟩, hr⟩

/-- A component that subscribes twice to a notification of a later one, an alias of it, and the later
one, which has no letters in its name nor in that of its notification. -/
def namelessText : String :=
  "components:\n- C: \x7butilization: \x7bnotifications: [., .]\x7d, " ++
  "statemachine: &m \x7bstates: [S], start: S\x7d\x7d\n- D: \x7busing: C\x7d\n" ++
  "- '': \x7binterface: \x7bnotifications: ['']\x7d, statemachine: *m\x7d"

theorem nameless_subscribers : ∃ r, (compile .standard namelessText).outcome = .ok r ∧
    r.names = ["C", "D", ""] ∧ r.subscribers "" "" = ["C", "D"] ∧ r.subscribers "" "." = [] ∧
    ∃ peer, r.component? "" = some peer ∧ ∃ n ∈ peer.interface.notifications, n.name = "" := by
  have built : (compile .standard namelessText).outcome.toOption.map
      (fun r => (r.names, r.subscribers "" "")) = some (["C", "D", ""], ["C", "D"]) := by
    decide +kernel
  obtain ⟨r, hr, view⟩ := exists_ok_of_toOption_map built
  obtain ⟨names, subscribers⟩ := Prod.mk.inj view
  obtain ⟨-, listed, -⟩ := compile_subscribers hr
  obtain ⟨-, -, -, -, exposed⟩ := listed "" ""
  obtain ⟨-, -, -, empty, -⟩ := listed "" "."
  refine ⟨r, hr, names, subscribers, empty (.inr (by decide)), exposed ?_⟩
  rw [subscribers]
  exact List.cons_ne_nil _ _

end ComponentSpec
