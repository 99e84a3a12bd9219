import ComponentSpec.Proofs.Resolution
import ComponentSpec.Proofs.RoundTrip

/-!
# ComponentSpec.Proofs.Canonical

The literals of every component that is compiled are canonical: an integer is unsigned only if it
does not fit a signed one. One statement for each reader on the way of a literal.

* `read_of_optionalField`, `read_of_readListField`: where an optional value and an item come from.
* `Component.IsCanonical`: the literals of a component; `Component.build_canonical`.
* `Reached.canonical`: it holds of all components of the first phase.
-/

namespace ComponentSpec

open Yaml (Node Mapping)

variable {α : Type} {v : Node} {m : Mapping} {key what : String} {l : Literal}

/-! ## Fields -/

theorem literal?_canonical (h : literal? v = some l) : l.IsCanonical := by
  rintro n rfl
  cases v with
  | integer z =>
    have upper := z.upper
    simp only [literal?, Option.some.injEq] at h
    split at h
    · cases h
    · rename_i large
      have fits : z.value.toNat < 2 ^ 64 := by omega
      rw [← Literal.unsigned.inj h, UInt64.toNat_ofNat_of_lt' fits]
      omega
  | _ => cases h

theorem asLiteral_canonical (h : asLiteral v what = .ok l) : l.IsCanonical := by
  unfold asLiteral at h
  split at h
  · rename_i hl
    cases h
    exact literal?_canonical hl
  · cases h

theorem read_of_optionalField {read : Node → String → Checked α} {a : Option α}
    (h : optionalField read m key what = .ok a) {x : α} (hx : a = some x) :
    ∃ v what, read v what = .ok x := by
  subst hx
  unfold optionalField at h
  split at h
  · cases h
  · rename_i v _
    obtain ⟨y, hy, e⟩ := map_eq_ok_iff.1 h
    cases e
    exact ⟨v, _, hy⟩

theorem optionalLiteral_canonical {a : Option Literal} (h : optionalLiteral m key what = .ok a)
    (hl : a = some l) : l.IsCanonical := by
  obtain ⟨v, what, hv⟩ := read_of_optionalField h hl
  exact asLiteral_canonical hv

theorem read_of_readAll {read : Node → Checked α} {vs : List Node} {as : List α}
    (h : readAll read vs = .ok as) : ∀ a ∈ as, ∃ v, read v = .ok a := by
  induction vs generalizing as with
  | nil =>
    cases h
    intro a ha
    cases ha
  | cons v vs ih =>
    obtain ⟨b, hb, h⟩ := bind_eq_ok_iff.1 h
    obtain ⟨bs, hbs, h⟩ := bind_eq_ok_iff.1 h
    cases h
    intro a ha
    rcases List.mem_cons.1 ha with rfl | ha
    · exact ⟨v, hb⟩
    · exact ih hbs a ha

theorem read_of_readListField {read : Node → Checked α} {as : List α}
    (h : readListField read m key what = .ok as) : ∀ a ∈ as, ∃ v, read v = .ok a := by
  unfold readListField at h
  split at h
  · cases h
    intro a ha
    cases ha
  · obtain ⟨vs, -, h⟩ := bind_eq_ok_iff.1 h
    exact read_of_readAll h

/-! ## Messages -/

theorem Property.read_canonical {p : Property} (h : Property.read v = .ok p) : p.IsCanonical := by
  obtain ⟨entry, -, h⟩ := bind_eq_ok_iff.1 h
  split at h
  · cases h
  · obtain ⟨type, -, h⟩ := bind_eq_ok_iff.1 h
    obtain ⟨value, hvalue, h⟩ := bind_eq_ok_iff.1 h
    obtain ⟨min, hmin, h⟩ := bind_eq_ok_iff.1 h
    obtain ⟨max, hmax, h⟩ := bind_eq_ok_iff.1 h
    obtain ⟨notification, -, h⟩ := bind_eq_ok_iff.1 h
    obtain ⟨readonly, -, h⟩ := bind_eq_ok_iff.1 h
    cases h
    rintro l (hl | hl | hl)
    · exact optionalLiteral_canonical hvalue hl
    · exact optionalLiteral_canonical hmin hl
    · exact optionalLiteral_canonical hmax hl

theorem PropertyChange.read_canonical {c : PropertyChange}
    (h : PropertyChange.read v what = .ok c) : c.value.IsCanonical := by
  obtain ⟨m, -, h⟩ := bind_eq_ok_iff.1 h
  obtain ⟨name, -, h⟩ := bind_eq_ok_iff.1 h
  obtain ⟨property, -, h⟩ := bind_eq_ok_iff.1 h
  obtain ⟨field, -, h⟩ := bind_eq_ok_iff.1 h
  obtain ⟨value, hvalue, h⟩ := bind_eq_ok_iff.1 h
  cases h
  exact asLiteral_canonical hvalue

theorem Subscription.read_canonical {s : Subscription} (h : Subscription.read v = .ok s) :
    s.IsCanonical := by
  obtain ⟨entry, -, h⟩ := bind_eq_ok_iff.1 h
  split at h
  · cases h
    intro c hc
    cases hc
  · obtain ⟨event, -, h⟩ := bind_eq_ok_iff.1 h
    obtain ⟨action, -, h⟩ := bind_eq_ok_iff.1 h
    obtain ⟨change, hchange, h⟩ := bind_eq_ok_iff.1 h
    cases h
    intro c hc
    obtain ⟨v, what, hv⟩ := read_of_optionalField hchange hc
    exact PropertyChange.read_canonical hv

/-! ## Components -/

theorem Interface.read_canonical {section? : Option Node} {i : Interface}
    (h : Interface.read section? = .ok i) : i.IsCanonical := by
  unfold Interface.read at h
  split at h
  · cases h
    intro p hp
    cases hp
  · obtain ⟨m, -, h⟩ := bind_eq_ok_iff.1 h
    obtain ⟨commands, -, h⟩ := bind_eq_ok_iff.1 h
    obtain ⟨notifications, -, h⟩ := bind_eq_ok_iff.1 h
    obtain ⟨properties, hp, h⟩ := bind_eq_ok_iff.1 h
    cases h
    intro p member
    obtain ⟨v, hv⟩ := read_of_readListField hp p member
    exact Property.read_canonical hv

theorem readUtilization_canonical {section? : Option Node} {ss : List Subscription}
    (h : readUtilization section? = .ok ss) : ∀ s ∈ ss, s.IsCanonical := by
  unfold readUtilization at h
  split at h
  · cases h
    intro s hs
    cases hs
  · obtain ⟨m, -, h⟩ := bind_eq_ok_iff.1 h
    intro s hs
    obtain ⟨v, hv⟩ := read_of_readListField h s hs
    exact Subscription.read_canonical hv

/-- The literals of a component are as reading gives them. -/
structure Component.IsCanonical (c : Component) : Prop where
  properties : c.interface.IsCanonical
  subscriptions : ∀ s ∈ c.subscriptions, s.IsCanonical

theorem Component.build_canonical {name : String} {fields : Mapping} {c : Component}
    (h : (Component.build name fields).outcome = .ok c) : c.IsCanonical := by
  obtain ⟨interface, hi, h⟩ := outcome_bind_eq_ok_iff.1 h
  obtain ⟨subscriptions, hs, h⟩ := outcome_bind_eq_ok_iff.1 h
  obtain ⟨events, -, h⟩ := outcome_bind_eq_ok_iff.1 h
  obtain ⟨machine, -, h⟩ := outcome_bind_eq_ok_iff.1 h
  cases h
  exact ⟨Interface.read_canonical hi, readUtilization_canonical hs⟩

/-- Every component of the first phase is canonical. -/
theorem Reached.canonical {o : Options} {ds : List (String × ComponentDecl)} {r : Registry}
    (h : Reached o ds r) : ∀ e ∈ r.components.entries, e.2.component.IsCanonical := by
  intro e he
  have hm : e.1 ∈ r.names := List.mem_map_of_mem he
  obtain ⟨root, leads⟩ := h.coherent.leads e.1 hm
  obtain ⟨fields, hd⟩ := leads.defined
  obtain ⟨c, hc, bound⟩ := h.component?_of_leadsTo hm leads hd
  have same : r.component? e.1 = some e.2.component := Registry.component?_of_mem_entries he
  rw [same] at bound
  rw [Option.some.inj bound]
  exact Component.build_canonical hc

end ComponentSpec
