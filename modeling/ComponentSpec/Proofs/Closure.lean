import ComponentSpec.Proofs.Building
import ComponentSpec.Proofs.Phases
import ComponentSpec.Proofs.Reference

/-!
# ComponentSpec.Proofs.Closure

What a successful compilation guarantees of its components, under all of their names.

* `Reached.linked`: the second phase checks the definitions only. An alias has the object of one of
  them, so its component is linked as well.
* `Component.IsClosed`: all that a component speaks of is declared, in itself or in the registry.
* `compile_closed`: every compiled component is closed, and no reserved name is bound or used.
-/

namespace ComponentSpec

variable {o : Options} {ds : List (String × ComponentDecl)} {r : Registry}

theorem Coherent.exists_definition (h : Coherent o ds r) {b : Binding} (hb : b ∈ r.bindings) :
    ∃ d ∈ r.definitions, d.object = b.object := by
  have bound : r.object? b.name = some b.object :=
    NameMap.get?_of_mem_entries (Registry.mem_bindings hb).1
  have root : r.object? (r.rootOf b.name) = some b.object := by
    rw [h.object?_rootOf, bound]
  exact ⟨_, Registry.mem_definitions root (h.aliasTarget?_rootOf b.name), rfl⟩

theorem Reached.linked (h : Reached o ds r) (checked : r.violation? = none) :
    ∀ b ∈ r.bindings, b.object.component.IsLinked r := by
  intro b hb
  -- an alias is not among the definitions that were checked, but its object is that of one of them
  obtain ⟨d, hd, same⟩ := h.coherent.exists_definition hb
  rw [← same]
  exact Registry.violation?_eq_none_iff.1 checked d hd

/-- A component that speaks only of what is declared, and of other components only under names that
are not reserved. -/
structure Component.IsClosed (o : Options) (r : Registry) (c : Component) : Prop where
  machine : c.machine.IsClosed c.events.names
  subscriptions : ∀ s ∈ c.subscriptions, ∃ publisher notification peer,
    s.name = publisher ++ "." ++ notification ∧
      separator ∉ publisher.toList ∧ separator ∉ notification.toList ∧
      o.isReserved publisher = false ∧ r.component? publisher = some peer ∧
      ∃ n ∈ peer.interface.notifications, n.name = notification
  changes : ∀ s ∈ c.subscriptions, ∀ change, s.change = some change →
    ∃ p ∈ c.interface.properties, p.name = change.property
  links : ∀ p ∈ c.interface.properties, ∀ name, p.notification = some name →
    ∃ n ∈ c.interface.notifications, n.name = name
  commands : ∀ k ∈ c.interface.commands,
    separator ∉ k.name.toList ∧ (k.event = none ∨ k.forward = none)
  notifications : ∀ n ∈ c.interface.notifications, separator ∉ n.name.toList
  cardinalities : ∀ p ∈ c.interface.properties,
    1 ≤ p.type.cardinality.toNat ∧ p.type.cardinality.toNat ≤ 4294967295

theorem Component.IsClosed.of_linked {c : Component} (h : Reached o ds r) (sound : c.IsSound)
    (linked : c.IsLinked r) : c.IsClosed o r where
  machine := sound.machine
  subscriptions := by
    intro s hs
    obtain ⟨publisher, notification, peer, hr, hpeer, hn⟩ := (linked.subscriptions s hs).reference
    obtain ⟨name, plain, plain'⟩ := Subscription.reference?_eq_some_iff.1 hr
    have free := h.coherent.not_reserved (Registry.mem_names_of_component? hpeer)
    exact ⟨publisher, notification, peer, name, plain, plain', free, hpeer, hn⟩
  changes := fun s hs => (linked.subscriptions s hs).change
  links := linked.properties
  commands := fun k hk => ⟨linked.commands k hk, sound.interface.routed k hk⟩
  notifications := linked.notifications
  cardinalities := by
    intro p hp
    have sized : 0 < p.type.cardinality.toNat := sound.interface.sized p hp
    have bound := p.type.cardinality.toNat_lt
    omega

/-- Whatever a text compiles to is closed, under the names of its definitions and of its aliases. -/
theorem compile_closed {text : String} (h : (compile o text).outcome = .ok r) :
    ∀ b ∈ r.bindings, b.object.component.IsClosed o r ∧ o.isReserved b.name = false ∧
      ∀ root, b.root = some root → o.isReserved root = false := by
  obtain ⟨ds, -, reached, checked⟩ := compile_ok_iff.1 h
  have coherent := reached.coherent
  intro b hb
  obtain ⟨entry, hroot⟩ := Registry.mem_bindings hb
  have sound : b.object.component.IsSound := reached.sound _ entry
  have linked := reached.linked checked b hb
  refine ⟨.of_linked reached sound linked, ?_, ?_⟩
  · exact coherent.not_reserved (List.mem_map_of_mem entry)
  · intro root h
    rw [hroot] at h
    exact coherent.not_reserved (coherent.target _ _ h).1.mem.1

/-- A definition that subscribes to itself under the name of a later alias. -/
def mirrorText : String :=
  "components:\n- A:\n   interface:\n    notifications: [N]\n   utilization:\n" ++
  "    notifications: [B.N]\n   statemachine:\n    states: [S]\n    start: S\n- B:\n   using: A"

theorem mirror_closed : ∃ r, (compile .standard mirrorText).outcome = .ok r ∧
    r.bindings.map (fun b => (b.name, b.root)) = [("A", none), ("B", some "A")] ∧
    ∀ b ∈ r.bindings, b.object.component.IsClosed .standard r := by
  have built : (compile .standard mirrorText).outcome.toOption.map
      (fun r => r.bindings.map fun b => (b.name, b.root)) = some [("A", none), ("B", some "A")] := by
    decide +kernel
  cases h : (compile .standard mirrorText).outcome with
  | error e =>
    rw [h] at built
    cases built
  | ok r =>
    rw [h] at built
    exact ⟨r, rfl, Option.some.inj built, fun b hb => (compile_closed h b hb).1⟩

end ComponentSpec
