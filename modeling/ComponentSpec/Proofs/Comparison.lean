import ComponentSpec.Proofs.Phases
import ComponentSpec.Proofs.Shortest
import Mathlib.Data.List.Forall2
import Mathlib.Data.List.Perm.Subperm
import Mathlib.Tactic.MkIffOfInductiveProp

/-!
# ComponentSpec.Proofs.Comparison

When compiled documents compare equal: up to the order of their declarations, and never if there is
a NaN among their literals.

* `Binary64.Equals`: equality of the values of numbers.
* `Literal.Equals`, `Component.Equals`, `Registry.Equals`: what is compared of each part, and how.
* `same_iff_equals`, for each part: the comparison decides this relation. Its symmetry and its
  transitivity come from those of its parts.
* `Registry.equals_self_iff`: what is equal to itself.
* `same_laws`: the whole of it for registries.
-/

namespace ComponentSpec

/-! ## Numbers -/

namespace Binary64

/-- The magnitude of a number, in units of `2 ^ (-1074)`. That of an infinity follows the largest
finite one. -/
def units (x : Binary64) : Nat := x.significand * twoTo x.scale

def value (x : Binary64) : Int := if x.isNegative then -(x.units : Int) else x.units

/-- Equality of values. A NaN has none, and is equal to nothing. -/
structure Equals (x y : Binary64) : Prop where
  left : x.isNaN = false
  right : y.isNaN = false
  value : x.value = y.value

theorem magnitudeAt_strictMono : StrictMono Shortest.magnitudeAt := by
  refine strictMono_nat_of_lt_succ fun n => ?_
  have gap := Shortest.aboveAt_pos n
  rw [Shortest.magnitudeAt_succ]
  omega

theorem rank_eq_of_units {x y : Binary64} (h : x.units = y.units) : x.rank = y.rank := by
  have finer : ∀ z : Binary64, Shortest.magnitude z = z.units * (twoTo 6 * tenTo 400) := by
    intro z
    have power : twoTo (z.scale + 6) = twoTo z.scale * twoTo 6 := Nat.pow_add 2 z.scale 6
    rw [Shortest.magnitude, units, power]
    ring
  have magnitudes : Shortest.magnitude x = Shortest.magnitude y := by rw [finer, finer, h]
  rw [Shortest.magnitude_eq, Shortest.magnitude_eq] at magnitudes
  exact magnitudeAt_strictMono.injective magnitudes

theorem units_eq_zero_iff {x : Binary64} : x.units = 0 ↔ x.isZero = true := by
  constructor
  · intro h
    have zero : (Binary64.zero false).units = 0 := rfl
    exact isZero_iff.2 (rank_eq_of_units (h.trans zero.symm))
  · intro h
    rw [isZero, Bool.and_eq_true, beq_iff_eq, beq_iff_eq] at h
    rw [units, significand, if_pos h.1, h.2, Nat.zero_mul]

/-- Only the two zeros have one value. -/
theorem value_eq_iff {x y : Binary64} :
    x.value = y.value ↔ x = y ∨ (x.isZero = true ∧ y.isZero = true) := by
  rw [← units_eq_zero_iff, ← units_eq_zero_iff]
  constructor
  · intro h
    rw [value, value] at h
    by_cases sign : x.isNegative = y.isNegative
    · refine .inl (eq_of_rank sign (rank_eq_of_units ?_))
      rw [sign] at h
      split at h <;> omega
    · -- values of different signs are equal only if both are zero
      cases hx : x.isNegative <;> cases hy : y.isNegative <;> simp [hx, hy] at sign h <;> omega
  · rintro (rfl | ⟨hx, hy⟩)
    · rfl
    · simp [value, hx, hy]

theorem same_iff_equals {x y : Binary64} : x.same y = true ↔ x.Equals y := by
  have bits : (x.bits == y.bits) = true ↔ x = y := by
    obtain ⟨_⟩ := x
    obtain ⟨_⟩ := y
    simp
  simp only [same, Bool.and_eq_true, Bool.not_eq_true', Bool.or_eq_true, bits]
  constructor
  · rintro ⟨⟨hx, hy⟩, h⟩
    exact ⟨hx, hy, value_eq_iff.2 h⟩
  · rintro ⟨hx, hy, h⟩
    exact ⟨⟨hx, hy⟩, value_eq_iff.1 h⟩

theorem Equals.symm {x y : Binary64} (h : x.Equals y) : y.Equals x :=
  ⟨h.right, h.left, h.value.symm⟩

theorem Equals.trans {x y z : Binary64} (h : x.Equals y) (h' : y.Equals z) : x.Equals z :=
  ⟨h.left, h'.right, h.value.trans h'.value⟩

theorem equals_self_iff {x : Binary64} : x.Equals x ↔ x.isNaN = false :=
  ⟨fun h => h.left, fun h => ⟨h, h, rfl⟩⟩

end Binary64

/-! ## Options and lists -/

section Parts

variable {α : Type} {related : α → α → Prop}

theorem sameOption_iff {same : α → α → Bool} (h : ∀ a b, same a b = true ↔ related a b)
    {a b : Option α} : sameOption same a b = true ↔ Option.Rel related a b := by
  cases a <;> cases b <;> simp [sameOption, h]

theorem sameList_iff {same : α → α → Bool} (h : ∀ a b, same a b = true ↔ related a b)
    {as bs : List α} : sameList same as bs = true ↔ List.Forall₂ related as bs := by
  induction as generalizing bs with
  | nil => cases bs <;> simp [sameList]
  | cons a as ih => cases bs <;> simp [sameList, h, ih]

theorem rel_symm {a b : Option α} (hab : Option.Rel related a b)
    (h : ∀ {a b}, related a b → related b a) : Option.Rel related b a := by
  cases hab with
  | none => exact .none
  | some hab => exact .some (h hab)

theorem rel_trans {a b c : Option α} (hab : Option.Rel related a b) (hbc : Option.Rel related b c)
    (h : ∀ {a b c}, related a b → related b c → related a c) : Option.Rel related a c := by
  cases hab with
  | none => exact hbc
  | some hab =>
    cases hbc with
    | some hbc => exact .some (h hab hbc)

theorem rel_self_iff {a : Option α} : Option.Rel related a a ↔ ∀ x ∈ a, related x x := by
  cases a <;> simp

theorem forall₂_symm {as bs : List α} (hab : List.Forall₂ related as bs)
    (h : ∀ {a b}, related a b → related b a) : List.Forall₂ related bs as :=
  .flip (hab.imp fun _ _ => h)

theorem forall₂_trans {as bs cs : List α} (hab : List.Forall₂ related as bs)
    (hbc : List.Forall₂ related bs cs) (h : ∀ {a b c}, related a b → related b c → related a c) :
    List.Forall₂ related as cs := by
  induction hab generalizing cs with
  | nil => exact hbc
  | cons hab _ ih =>
    cases hbc with
    | cons hbc rest => exact .cons (h hab hbc) (ih rest)

/-- Lists without repeats have the same items if they are as long as each other and one has all
items of the other one. -/
theorem same_items_iff {as bs : List α} (ha : as.Nodup) (hb : bs.Nodup) :
    as.length = bs.length ∧ (∀ a ∈ as, a ∈ bs) ↔ ∀ a, a ∈ as ↔ a ∈ bs := by
  constructor
  · rintro ⟨length, within⟩ a
    have perm : as.Perm bs := (ha.subperm within).perm_of_length_le (Nat.le_of_eq length.symm)
    exact perm.mem_iff
  · intro h
    exact ⟨((List.perm_ext_iff_of_nodup ha hb).2 h).length_eq, fun a => (h a).1⟩

end Parts

theorem NameSet.same_iff {s t : NameSet} :
    s.same t = true ↔ ∀ name, name ∈ s.names ↔ name ∈ t.names := by
  rw [← same_items_iff s.nodup t.nodup]
  simp [NameSet.same]

theorem NameMap.same_iff {α β : Type} {eq : α → β → Bool} {m : NameMap α} {n : NameMap β} :
    m.same eq n = true ↔ (∀ name, name ∈ m.names ↔ name ∈ n.names) ∧
      ∀ name a b, m.get? name = some a → n.get? name = some b → eq a b = true := by
  have counted : m.size = n.size ∧ (∀ name ∈ m.names, name ∈ n.names) ↔
      ∀ name, name ∈ m.names ↔ name ∈ n.names := by
    simpa only [size, names, List.length_map] using same_items_iff m.nodup n.nodup
  constructor
  · intro h
    rw [NameMap.same, Bool.and_eq_true, beq_iff_eq, List.all_eq_true] at h
    obtain ⟨size, all⟩ := h
    refine ⟨counted.1 ⟨size, fun name hm => ?_⟩, fun name a b ha hb => ?_⟩
    · obtain ⟨e, he, rfl⟩ := List.mem_map.1 hm
      by_contra hn
      have found := all e he
      rw [get?_eq_none_iff.2 hn] at found
      cases found
    · have found := all _ (mem_entries_of_get? ha)
      rwa [hb] at found
  · rintro ⟨names, values⟩
    obtain ⟨size, within⟩ := counted.2 names
    rw [NameMap.same, Bool.and_eq_true, beq_iff_eq, List.all_eq_true]
    refine ⟨size, fun e he => ?_⟩
    have bound : n.get? e.1 ≠ none := fun unbound =>
      get?_eq_none_iff.1 unbound (within e.1 (List.mem_map_of_mem he))
    obtain ⟨b, hb⟩ := Option.ne_none_iff_exists'.1 bound
    rw [hb]
    exact values e.1 e.2 b (get?_of_mem_entries he) hb

theorem NameMap.same_values_iff {m n : NameMap String} :
    m.same (· == ·) n = true ↔ ∀ name a, m.get? name = some a ↔ n.get? name = some a := by
  rw [NameMap.same_iff]
  constructor
  · rintro ⟨names, values⟩ name a
    have bound : m.get? name = none ↔ n.get? name = none := by
      rw [get?_eq_none_iff, get?_eq_none_iff, names]
    cases hm : m.get? name with
    | none => simp [bound.1 hm]
    | some x =>
      cases hn : n.get? name with
      | none => simp [bound.2 hn] at hm
      | some y => rw [eq_of_beq (values name x y hm hn)]
  · intro h
    have same : ∀ name, m.get? name = n.get? name := fun name => Option.ext (h name)
    refine ⟨fun name => ?_, fun name x y hx hy => ?_⟩
    · rw [← contains_iff, ← contains_iff, contains, contains, same]
    · rw [same, hy] at hx
      cases hx
      exact beq_self_eq_true x

/-! ## Literals -/

namespace Literal

/-- Equality within a kind. -/
inductive Equals : Literal → Literal → Prop
  | boolean (b : Bool) : Equals (.boolean b) (.boolean b)
  | integer (n : Int64) : Equals (.integer n) (.integer n)
  | unsigned (n : UInt64) : Equals (.unsigned n) (.unsigned n)
  | float {x y : Binary64} : x.Equals y → Equals (.float x) (.float y)
  | text (s : String) : Equals (.text s) (.text s)

def isNaN : Literal → Bool
  | .float x => x.isNaN
  | _ => false

theorem same_iff_equals {l k : Literal} : l.same k = true ↔ l.Equals k := by
  constructor
  · intro h
    cases l <;> cases k <;> simp only [same, beq_iff_eq, reduceCtorEq] at h
    case float.float => exact .float (Binary64.same_iff_equals.1 h)
    all_goals
      cases h
      constructor
  · intro h
    cases h with
    | float h => exact Binary64.same_iff_equals.2 h
    | _ => exact beq_self_eq_true _

theorem Equals.symm {l k : Literal} (h : l.Equals k) : k.Equals l := by
  cases h with
  | float h => exact .float h.symm
  | _ => constructor

theorem Equals.trans {l k j : Literal} (h : l.Equals k) (h' : k.Equals j) : l.Equals j := by
  cases h with
  | float h =>
    cases h' with
    | float h' => exact .float (h.trans h')
  | _ => exact h'

theorem equals_self_iff {l : Literal} : l.Equals l ↔ l.isNaN = false := by
  cases l with
  | float x =>
    constructor
    · intro h
      cases h with
      | float h => exact h.left
    · exact fun h => .float (Binary64.equals_self_iff.2 h)
  | _ => exact iff_of_true (by constructor) rfl

end Literal

/-! ## Messages -/

@[mk_iff]
structure Property.Equals (p q : Property) : Prop where
  name : p.name = q.name
  type : p.type = q.type
  value : Option.Rel Literal.Equals p.value q.value
  min : Option.Rel Literal.Equals p.min q.min
  max : Option.Rel Literal.Equals p.max q.max
  notification : p.notification = q.notification
  readonly : p.readonly = q.readonly

@[mk_iff]
structure PropertyChange.Equals (c d : PropertyChange) : Prop where
  property : c.property = d.property
  value : c.value.Equals d.value

@[mk_iff]
structure Subscription.Equals (s t : Subscription) : Prop where
  name : s.name = t.name
  event : s.event = t.event
  action : s.action = t.action
  change : Option.Rel PropertyChange.Equals s.change t.change

namespace Property

variable {p q r : Property}

def literals (p : Property) : List Literal := p.value.toList ++ p.min.toList ++ p.max.toList

theorem same_iff_equals : p.same q = true ↔ p.Equals q := by
  simp only [same, Bool.and_eq_true, beq_iff_eq, sameOption_iff fun _ _ => Literal.same_iff_equals,
    equals_iff, and_assoc]

theorem Equals.symm (h : p.Equals q) : q.Equals p where
  name := h.name.symm
  type := h.type.symm
  value := rel_symm h.value Literal.Equals.symm
  min := rel_symm h.min Literal.Equals.symm
  max := rel_symm h.max Literal.Equals.symm
  notification := h.notification.symm
  readonly := h.readonly.symm

theorem Equals.trans (h : p.Equals q) (h' : q.Equals r) : p.Equals r where
  name := h.name.trans h'.name
  type := h.type.trans h'.type
  value := rel_trans h.value h'.value Literal.Equals.trans
  min := rel_trans h.min h'.min Literal.Equals.trans
  max := rel_trans h.max h'.max Literal.Equals.trans
  notification := h.notification.trans h'.notification
  readonly := h.readonly.trans h'.readonly

theorem equals_self_iff : p.Equals p ↔ ∀ l ∈ p.literals, l.isNaN = false := by
  simp only [equals_iff, rel_self_iff, Literal.equals_self_iff, true_and, and_true, literals,
    List.forall_mem_append, Option.mem_toList, and_assoc, Option.mem_def]

end Property

namespace PropertyChange

variable {c d e : PropertyChange}

theorem same_iff_equals : c.same d = true ↔ c.Equals d := by
  simp only [same, Bool.and_eq_true, beq_iff_eq, Literal.same_iff_equals, equals_iff]

theorem Equals.symm (h : c.Equals d) : d.Equals c := ⟨h.property.symm, h.value.symm⟩

theorem Equals.trans (h : c.Equals d) (h' : d.Equals e) : c.Equals e :=
  ⟨h.property.trans h'.property, h.value.trans h'.value⟩

end PropertyChange

namespace Subscription

variable {s t u : Subscription}

def literals (s : Subscription) : List Literal := (s.change.map PropertyChange.value).toList

theorem same_iff_equals : s.same t = true ↔ s.Equals t := by
  simp only [same, Bool.and_eq_true, beq_iff_eq,
    sameOption_iff fun _ _ => PropertyChange.same_iff_equals, equals_iff, and_assoc]

theorem Equals.symm (h : s.Equals t) : t.Equals s where
  name := h.name.symm
  event := h.event.symm
  action := h.action.symm
  change := rel_symm h.change PropertyChange.Equals.symm

theorem Equals.trans (h : s.Equals t) (h' : t.Equals u) : s.Equals u where
  name := h.name.trans h'.name
  event := h.event.trans h'.event
  action := h.action.trans h'.action
  change := rel_trans h.change h'.change PropertyChange.Equals.trans

theorem equals_self_iff : s.Equals s ↔ ∀ l ∈ s.literals, l.isNaN = false := by
  simp [equals_iff, rel_self_iff, PropertyChange.equals_iff, Literal.equals_self_iff, literals]

end Subscription

/-! ## Components -/

/-- Two machines have the same states, in whatever order, the same start, and the same transitions in
the same order. -/
@[mk_iff]
structure StateMachine.Equals (m n : StateMachine) : Prop where
  states : ∀ state, state ∈ m.states.names ↔ state ∈ n.states.names
  start : m.start = n.start
  transitions : m.transitions = n.transitions

/-- Two components have messages that are equal one by one, the same events, in whatever order, and
machines that are equal. -/
@[mk_iff]
structure Component.Equals (c d : Component) : Prop where
  commands : c.interface.commands = d.interface.commands
  notifications : c.interface.notifications = d.interface.notifications
  properties : List.Forall₂ Property.Equals c.interface.properties d.interface.properties
  subscriptions : List.Forall₂ Subscription.Equals c.subscriptions d.subscriptions
  events : ∀ event, event ∈ c.events.names ↔ event ∈ d.events.names
  machine : c.machine.Equals d.machine

namespace StateMachine

variable {m n k : StateMachine}

theorem same_iff_equals : m.same n = true ↔ m.Equals n := by
  simp only [same, Bool.and_eq_true, beq_iff_eq, NameSet.same_iff, equals_iff, and_assoc]

theorem Equals.symm (h : m.Equals n) : n.Equals m :=
  ⟨fun s => (h.states s).symm, h.start.symm, h.transitions.symm⟩

theorem Equals.trans (h : m.Equals n) (h' : n.Equals k) : m.Equals k :=
  ⟨fun s => (h.states s).trans (h'.states s), h.start.trans h'.start,
    h.transitions.trans h'.transitions⟩

theorem Equals.refl (m : StateMachine) : m.Equals m := ⟨fun _ => Iff.rfl, rfl, rfl⟩

end StateMachine

namespace Component

variable {c d e : Component}

def literals (c : Component) : List Literal :=
  c.interface.properties.flatMap Property.literals ++ c.subscriptions.flatMap Subscription.literals

theorem same_iff_equals : c.same d = true ↔ c.Equals d := by
  simp only [same, Interface.same, Bool.and_eq_true, beq_iff_eq,
    sameList_iff fun _ _ => Property.same_iff_equals,
    sameList_iff fun _ _ => Subscription.same_iff_equals, NameSet.same_iff,
    StateMachine.same_iff_equals, equals_iff, and_assoc]

theorem Equals.symm (h : c.Equals d) : d.Equals c where
  commands := h.commands.symm
  notifications := h.notifications.symm
  properties := forall₂_symm h.properties Property.Equals.symm
  subscriptions := forall₂_symm h.subscriptions Subscription.Equals.symm
  events := fun event => (h.events event).symm
  machine := h.machine.symm

theorem Equals.trans (h : c.Equals d) (h' : d.Equals e) : c.Equals e where
  commands := h.commands.trans h'.commands
  notifications := h.notifications.trans h'.notifications
  properties := forall₂_trans h.properties h'.properties Property.Equals.trans
  subscriptions := forall₂_trans h.subscriptions h'.subscriptions Subscription.Equals.trans
  events := fun event => (h.events event).trans (h'.events event)
  machine := h.machine.trans h'.machine

theorem equals_self_iff : c.Equals c ↔ ∀ l ∈ c.literals, l.isNaN = false := by
  simp only [equals_iff, List.forall₂_same, Property.equals_self_iff,
    Subscription.equals_self_iff, StateMachine.Equals.refl, literals, List.forall_mem_append,
    List.forall_mem_flatMap, implies_true, true_and, and_true]

end Component

/-! ## Registries -/

/-- Two registries bind the same names and the same aliases, in whatever order, to components that
are equal. -/
@[mk_iff]
structure Registry.Equals (a b : Registry) : Prop where
  names : ∀ name, name ∈ a.names ↔ name ∈ b.names
  aliases : ∀ name target, a.aliasTarget? name = some target ↔ b.aliasTarget? name = some target
  components : ∀ name c d, a.component? name = some c → b.component? name = some d → c.Equals d

namespace Registry

variable {a b c : Registry}

theorem exists_component {name : String} (h : name ∈ a.names) :
    ∃ c, a.component? name = some c := by
  obtain ⟨object, ho⟩ := exists_object h
  exact ⟨_, component?_of_object? ho⟩

theorem same_components_iff :
    a.components.same (fun s t => s.component.same t.component) b.components = true ↔
      (∀ name, name ∈ a.names ↔ name ∈ b.names) ∧
        ∀ name c d, a.component? name = some c → b.component? name = some d → c.Equals d := by
  rw [NameMap.same_iff]
  refine and_congr Iff.rfl ?_
  constructor
  · intro h name c d hc hd
    obtain ⟨s, hs, rfl⟩ := Option.map_eq_some_iff.1 hc
    obtain ⟨t, ht, rfl⟩ := Option.map_eq_some_iff.1 hd
    exact Component.same_iff_equals.1 (h name s t hs ht)
  · intro h name s t hs ht
    exact Component.same_iff_equals.2
      (h name _ _ (component?_of_object? hs) (component?_of_object? ht))

theorem same_iff_equals : a.same b = true ↔ a.Equals b := by
  rw [same, Bool.and_eq_true, same_components_iff,
    NameMap.same_values_iff, equals_iff]
  constructor
  · rintro ⟨⟨names, components⟩, aliases⟩
    exact ⟨names, aliases, components⟩
  · rintro ⟨names, aliases, components⟩
    exact ⟨⟨names, components⟩, aliases⟩

theorem Equals.symm (h : a.Equals b) : b.Equals a where
  names := fun name => (h.names name).symm
  aliases := fun name target => (h.aliases name target).symm
  components := fun name c d hc hd => (h.components name d c hd hc).symm

theorem Equals.trans (h : a.Equals b) (h' : b.Equals c) : a.Equals c where
  names := fun name => (h.names name).trans (h'.names name)
  aliases := fun name target => (h.aliases name target).trans (h'.aliases name target)
  components := by
    intro name x z hx hz
    have bound : name ∈ b.names := (h.names name).1 (mem_names_of_component? hx)
    obtain ⟨y, hy⟩ := exists_component bound
    exact (h.components name x y hx hy).trans (h'.components name y z hy hz)

theorem equals_self_iff :
    a.Equals a ↔ ∀ name c, a.component? name = some c → ∀ l ∈ c.literals, l.isNaN = false := by
  constructor
  · exact fun h name c hc => Component.equals_self_iff.1 (h.components name c c hc hc)
  · refine fun h => ⟨fun _ => Iff.rfl, fun _ _ => Iff.rfl, fun name c d hc hd => ?_⟩
    cases hc.symm.trans hd
    exact Component.equals_self_iff.2 (h name c hc)

end Registry

/-- Registries compare equal exactly if they bind the same names and aliases to components that are
equal in the order of their messages and transitions, but whatever the order of the names, states and
events. This is a symmetric and transitive relation, in which what a text compiles to stands to itself
unless there is a NaN among its literals. -/
theorem same_laws :
    (∀ a b : Registry, a.same b = true ↔ a.Equals b) ∧
    (∀ a b : Registry, a.same b = true → b.same a = true) ∧
    (∀ a b c : Registry, a.same b = true → b.same c = true → a.same c = true) ∧
    ∀ (o : Options) (text : String) (r r' : Registry), (compile o text).outcome = .ok r →
      (compile o text).outcome = .ok r' →
        (r.same r' = true ↔
          ∀ name c, r.component? name = some c → ∀ l ∈ c.literals, l.isNaN = false) := by
  refine ⟨fun _ _ => Registry.same_iff_equals, fun a b h => ?_, fun a b c h h' => ?_, ?_⟩
  · exact Registry.same_iff_equals.2 (Registry.same_iff_equals.1 h).symm
  · exact Registry.same_iff_equals.2
      ((Registry.same_iff_equals.1 h).trans (Registry.same_iff_equals.1 h'))
  · intro o text r r' hr hr'
    cases hr.symm.trans hr'
    exact Registry.same_iff_equals.trans Registry.equals_self_iff

/-- A document with a property of this value. -/
def levelText (value : String) : String :=
  "components:\n- G: \x7binterface: \x7bproperties: [Level: \x7btype: char, value: " ++ value ++
  "\x7d]\x7d, statemachine: \x7bstates: [S], start: S\x7d\x7d"

/-- A document is not equal to itself if a property is a NaN. -/
theorem level_not_self : ∃ r, (compile .standard (levelText ".nan")).outcome = .ok r ∧
    r.same r = false := by
  have view : (compile .standard (levelText ".nan")).outcome.toOption.map
      (fun r => (r.component? "G").map Component.literals) = some (some [.float .nan]) := by
    decide +kernel
  obtain ⟨r, hr, literals⟩ := exists_ok_of_toOption_map view
  obtain ⟨c, hc, hl⟩ := Option.map_eq_some_iff.1 literals
  refine ⟨r, hr, Bool.eq_false_iff.2 fun equal => ?_⟩
  have finite := (same_laws.2.2.2 .standard (levelText ".nan") r r hr hr).1 equal "G" c hc
  rw [hl] at finite
  have number := finite _ List.mem_cons_self
  revert number
  decide

end ComponentSpec
