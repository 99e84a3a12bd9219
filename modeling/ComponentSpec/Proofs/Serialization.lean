import ComponentSpec.Proofs.Canonical
import ComponentSpec.Proofs.JsonText
import ComponentSpec.Render.Registry
import Mathlib.Data.List.Forall2
import Mathlib.Data.Option.Basic
import Mathlib.Tactic.MkIffOfInductiveProp

/-!
# ComponentSpec.Proofs.Serialization

What is lost when a compiled document is written as JSON: floating-point numbers that are not finite.

* `Component.Agrees`, `Registry.Agrees`: equality up to these numbers, which count as absent values.
* `Component.written_toJson_iff`: components that are written alike agree, and the other way round.
* `serialize_eq_iff`: two compiled documents have the same text exactly if they agree.
-/

namespace ComponentSpec

/-! ## Agreement -/

/-- A literal, unless it is a number that is not finite. -/
def Literal.finite? : Literal → Option Literal
  | .float x => if x.isFinite then some (.float x) else none
  | l => some l

@[mk_iff]
structure Property.Agrees (p q : Property) : Prop where
  name : p.name = q.name
  type : p.type = q.type
  value : p.value.bind Literal.finite? = q.value.bind Literal.finite?
  min : p.min.bind Literal.finite? = q.min.bind Literal.finite?
  max : p.max.bind Literal.finite? = q.max.bind Literal.finite?
  notification : p.notification = q.notification
  readonly : p.readonly = q.readonly

@[mk_iff]
structure PropertyChange.Agrees (c d : PropertyChange) : Prop where
  property : c.property = d.property
  value : c.value.finite? = d.value.finite?

@[mk_iff]
structure Subscription.Agrees (s t : Subscription) : Prop where
  name : s.name = t.name
  event : s.event = t.event
  action : s.action = t.action
  change : Option.Rel PropertyChange.Agrees s.change t.change

@[mk_iff]
structure Interface.Agrees (i j : Interface) : Prop where
  commands : i.commands = j.commands
  notifications : i.notifications = j.notifications
  properties : List.Forall₂ Property.Agrees i.properties j.properties

/-- Two components are equal, in the order of all their parts, up to numbers that are not finite. -/
@[mk_iff]
structure Component.Agrees (c d : Component) : Prop where
  interface : c.interface.Agrees d.interface
  subscriptions : List.Forall₂ Subscription.Agrees c.subscriptions d.subscriptions
  events : c.events = d.events
  machine : c.machine = d.machine

/-- The names of a registry with their components. -/
def Registry.contents (r : Registry) : List (String × Component) :=
  r.components.entries.map fun e => (e.1, e.2.component)

/-- Two registries have the same names in the same order with components that agree, and the same
aliases in the same order. -/
@[mk_iff]
structure Registry.Agrees (a b : Registry) : Prop where
  components : List.Forall₂ (fun e f => e.1 = f.1 ∧ e.2.Agrees f.2) a.contents b.contents
  aliases : a.aliases.entries = b.aliases.entries

/-! ## Parts -/

section Parts

variable {α β : Type}

namespace Json

theorem ofOption_inj {f : α → Json} (notNull : ∀ x, f x ≠ .null) {a b : Option α}
    (inj : ∀ x y, a = some x → b = some y → (f x = f y ↔ x = y)) :
    ofOption f a = ofOption f b ↔ a = b := by
  cases a with
  | none =>
    cases b with
    | none => simp
    | some y => simpa [ofOption] using (notNull y).symm
  | some x =>
    cases b with
    | none => simpa [ofOption] using notNull x
    | some y => simpa [ofOption] using inj x y rfl rfl

@[simp] theorem written_text (s : String) : (text s).written = .text s := rfl

theorem written_record (fs : List (String × Json)) :
    (record fs).written = .record (fs.map fun f => (f.1, f.2.written)) := by
  rw [written, writtenFields_eq]

theorem written_list (f : α → Json) (xs : List α) :
    (Json.list (xs.map f)).written = .list (xs.map fun x => (f x).written) := by
  rw [written, writtenItems_eq, List.map_map]
  rfl

@[simp] theorem written_texts (ss : List String) : (texts ss).written = texts ss :=
  written_list .text ss

theorem texts_inj {ss ts : List String} : texts ss = texts ts ↔ ss = ts := by
  rw [texts, texts, Json.list.injEq]
  exact List.map_inj_right fun _ _ => Json.text.inj

end Json

/-- Lists with the same images have items with the same images, one by one. -/
theorem map_eq_map_iff_forall₂ {f : α → β} {related : α → α → Prop} {xs ys : List α}
    (h : ∀ x ∈ xs, ∀ y ∈ ys, (f x = f y ↔ related x y)) :
    xs.map f = ys.map f ↔ List.Forall₂ related xs ys := by
  induction xs generalizing ys with
  | nil => cases ys <;> simp
  | cons x xs ih =>
    cases ys with
    | nil => simp
    | cons y ys =>
      rw [List.map_cons, List.map_cons, List.cons.injEq, List.forall₂_cons,
        h x List.mem_cons_self y List.mem_cons_self,
        ih fun x hx y hy => h x (List.mem_cons_of_mem _ hx) y (List.mem_cons_of_mem _ hy)]

end Parts

@[simp] theorem written_optionalText (a : Option String) :
    (optionalText a).written = optionalText a := by
  cases a <;> rfl

@[simp] theorem optionalText_inj {a b : Option String} :
    optionalText a = optionalText b ↔ a = b :=
  Json.ofOption_inj (fun _ h => by cases h) fun _ _ _ _ => by rw [Json.text.injEq]

/-! ## Literals -/

namespace Literal

theorem written_toJson (l : Literal) : l.toJson.written = Json.ofOption toJson l.finite? := by
  cases l with
  | float x =>
    rw [toJson, Json.written, finite?]
    split <;> rfl
  | _ => rfl

theorem toJson_ne_null (l : Literal) : l.toJson ≠ .null := by
  cases l <;> exact fun h => by cases h

/-- An integer that fits a signed one is not written as a canonical unsigned one. -/
theorem toInt_ne_toNat (n : Int64) {m : UInt64} (h : (unsigned m).IsCanonical) :
    n.toInt ≠ (m.toNat : Int) := by
  have fits := n.toInt_lt
  have large := h m rfl
  omega

/-- Literals of all kinds are written in one place. They are told apart since an integer is unsigned
only if it does not fit a signed one. -/
theorem toJson_inj {l k : Literal} (hl : l.IsCanonical) (hk : k.IsCanonical) :
    l.toJson = k.toJson ↔ l = k := by
  cases l with
  | integer n =>
    cases k with
    | integer m => rw [toJson, toJson, Json.integer.injEq, integer.injEq, Int64.toInt_inj]
    | unsigned m => simp [toJson, toInt_ne_toNat n hk]
    | _ => simp [toJson]
  | unsigned n =>
    cases k with
    | integer m => simp [toJson, (toInt_ne_toNat m hl).symm]
    | unsigned m =>
      rw [toJson, toJson, Json.integer.injEq, unsigned.injEq, Int.ofNat_inj, UInt64.toNat_inj]
    | _ => simp [toJson]
  | _ => cases k <;> simp [toJson]

theorem finite?_eq_some {l k : Literal} (h : l.finite? = some k) : k = l := by
  cases l with
  | float x =>
    rw [finite?] at h
    split at h
    · exact (Option.some.inj h).symm
    · cases h
  | _ => exact (Option.some.inj h).symm

theorem written_toJson_iff {l k : Literal} (hl : l.IsCanonical) (hk : k.IsCanonical) :
    l.toJson.written = k.toJson.written ↔ l.finite? = k.finite? := by
  rw [written_toJson, written_toJson]
  refine Json.ofOption_inj toJson_ne_null fun x y hx hy => ?_
  rw [finite?_eq_some hx, finite?_eq_some hy]
  exact toJson_inj hl hk

/-- A value that is not finite is written as if it were absent. -/
theorem written_ofOption_toJson (a : Option Literal) :
    (Json.ofOption toJson a).written = Json.ofOption toJson (a.bind finite?) := by
  cases a with
  | none => rfl
  | some l => exact written_toJson l

theorem written_ofOption_iff {a b : Option Literal} (ha : ∀ l, a = some l → l.IsCanonical)
    (hb : ∀ l, b = some l → l.IsCanonical) :
    (Json.ofOption toJson a).written = (Json.ofOption toJson b).written ↔
      a.bind finite? = b.bind finite? := by
  rw [written_ofOption_toJson, written_ofOption_toJson]
  refine Json.ofOption_inj toJson_ne_null fun x y hx hy => ?_
  obtain ⟨l, hl, hx⟩ := Option.bind_eq_some_iff.1 hx
  obtain ⟨k, hk, hy⟩ := Option.bind_eq_some_iff.1 hy
  rw [finite?_eq_some hx, finite?_eq_some hy]
  exact toJson_inj (ha l hl) (hb k hk)

end Literal

/-! ## Messages -/

@[simp] theorem TypeDeclaration.written_toJson (t : TypeDeclaration) :
    t.toJson.written = t.toJson := rfl

theorem PrimitiveType.name_inj {t u : PrimitiveType} : t.name = u.name ↔ t = u := by
  constructor
  · intro h
    have read := readPrimitive_name t
    rw [h, readPrimitive_name] at read
    exact (Except.ok.inj read).symm
  · exact congrArg _

@[simp] theorem TypeDeclaration.toJson_inj {t u : TypeDeclaration} :
    t.toJson = u.toJson ↔ t = u := by
  obtain ⟨primitive, cardinality⟩ := t
  obtain ⟨primitive', cardinality'⟩ := u
  simp [TypeDeclaration.toJson, PrimitiveType.name_inj, UInt32.toNat_inj]

@[simp] theorem Command.written_toJson (k : Command) : k.toJson.written = k.toJson := by
  simp [Command.toJson, Json.written, Json.writtenFields]

theorem Command.toJson_inj {k l : Command} : k.toJson = l.toJson ↔ k = l := by
  obtain ⟨name, event, forward⟩ := k
  obtain ⟨name', event', forward'⟩ := l
  simp [Command.toJson]

@[simp] theorem Notification.written_toJson (n : Notification) : n.toJson.written = n.toJson := rfl

theorem Notification.toJson_inj {m n : Notification} : m.toJson = n.toJson ↔ m = n := by
  obtain ⟨name⟩ := m
  obtain ⟨name'⟩ := n
  simp [Notification.toJson]

theorem Property.written_toJson_iff {p q : Property} (hp : p.IsCanonical) (hq : q.IsCanonical) :
    p.toJson.written = q.toJson.written ↔ p.Agrees q := by
  have value := Literal.written_ofOption_iff
    (fun l h => hp l (.inl h)) (fun l h => hq l (.inl h))
  have min := Literal.written_ofOption_iff
    (fun l h => hp l (.inr (.inl h))) (fun l h => hq l (.inr (.inl h)))
  have max := Literal.written_ofOption_iff
    (fun l h => hp l (.inr (.inr h))) (fun l h => hq l (.inr (.inr h)))
  simp only [agrees_iff, toJson, Json.written, Json.writtenFields, Json.record.injEq, List.cons.injEq,
    Prod.mk.injEq, true_and, and_true, Json.text.injEq, Json.boolean.injEq,
    TypeDeclaration.written_toJson, TypeDeclaration.toJson_inj, written_optionalText,
    optionalText_inj, value, min, max]

theorem PropertyChange.written_toJson_iff {c d : PropertyChange} (hc : c.value.IsCanonical)
    (hd : d.value.IsCanonical) : c.toJson.written = d.toJson.written ↔ c.Agrees d := by
  simp only [agrees_iff, toJson, Json.written, Json.writtenFields, Json.record.injEq,
    List.cons.injEq, Prod.mk.injEq, true_and, and_true, Json.text.injEq,
    Literal.written_toJson_iff hc hd]

theorem Subscription.written_change_iff {s t : Subscription} (hs : s.IsCanonical)
    (ht : t.IsCanonical) :
    (Json.ofOption PropertyChange.toJson s.change).written =
      (Json.ofOption PropertyChange.toJson t.change).written ↔
        Option.Rel PropertyChange.Agrees s.change t.change := by
  cases hc : s.change with
  | none =>
    cases hd : t.change with
    | none => exact iff_of_true rfl .none
    | some d => exact iff_of_false (fun h => by cases h) (fun h => by cases h)
  | some c =>
    cases hd : t.change with
    | none => exact iff_of_false (fun h => by cases h) (fun h => by cases h)
    | some d =>
      rw [Option.rel_some_some]
      exact PropertyChange.written_toJson_iff (hs c hc) (ht d hd)

theorem Subscription.written_toJson_iff {s t : Subscription} (hs : s.IsCanonical)
    (ht : t.IsCanonical) : s.toJson.written = t.toJson.written ↔ s.Agrees t := by
  simp only [agrees_iff, toJson, Json.written, Json.writtenFields, Json.record.injEq,
    List.cons.injEq, Prod.mk.injEq, true_and, and_true, Json.text.injEq, written_optionalText,
    optionalText_inj, written_change_iff hs ht]

/-! ## Components -/

theorem Interface.written_toJson_iff {i j : Interface} (hi : i.IsCanonical) (hj : j.IsCanonical) :
    i.toJson.written = j.toJson.written ↔ i.Agrees j := by
  have commands : i.commands.map (fun k => k.toJson.written) =
      j.commands.map (fun k => k.toJson.written) ↔ i.commands = j.commands :=
    List.map_inj_right fun k l h => by simpa [Command.toJson_inj] using h
  have notifications : i.notifications.map (fun n => n.toJson.written) =
      j.notifications.map (fun n => n.toJson.written) ↔ i.notifications = j.notifications :=
    List.map_inj_right fun m n h => by simpa [Notification.toJson_inj] using h
  have properties : i.properties.map (fun p => p.toJson.written) =
      j.properties.map (fun p => p.toJson.written) ↔
        List.Forall₂ Property.Agrees i.properties j.properties :=
    map_eq_map_iff_forall₂ fun p hp q hq => Property.written_toJson_iff (hi p hp) (hj q hq)
  simp only [agrees_iff, toJson, Json.written_record, List.map_cons, List.map_nil, Json.written_list,
    Json.record.injEq, List.cons.injEq, Prod.mk.injEq, Json.list.injEq, true_and, and_true, commands,
    notifications, properties]

@[simp] theorem Transition.written_toJson (t : Transition) : t.toJson.written = t.toJson := by
  simp [Transition.toJson, Json.written, Json.writtenFields]

theorem Transition.toJson_inj {t u : Transition} : t.toJson = u.toJson ↔ t = u := by
  obtain ⟨state, next, event, action⟩ := t
  obtain ⟨state', next', event', action'⟩ := u
  simp [Transition.toJson]

theorem NameSet.names_inj {s t : NameSet} : s.names = t.names ↔ s = t := by
  obtain ⟨names, nodup⟩ := s
  obtain ⟨names', nodup'⟩ := t
  simp

theorem StateMachine.written_toJson_iff {m n : StateMachine} :
    m.toJson.written = n.toJson.written ↔ m = n := by
  have transitions : m.transitions.map (fun t => t.toJson.written) =
      n.transitions.map (fun t => t.toJson.written) ↔ m.transitions = n.transitions :=
    List.map_inj_right fun t u h => by simpa [Transition.toJson_inj] using h
  simp only [StateMachine.toJson, Json.written_record, List.map_cons, List.map_nil,
    Json.written_list, Json.written_texts, Json.texts_inj, NameSet.names_inj, Json.written_text,
    Json.text.injEq, Json.list.injEq, Json.record.injEq, List.cons.injEq, Prod.mk.injEq, true_and,
    and_true, transitions]
  constructor
  · rintro ⟨states, start, transitions⟩
    cases m
    cases n
    cases states
    cases start
    cases transitions
    rfl
  · rintro rfl
    exact ⟨rfl, rfl, rfl⟩

theorem Component.written_toJson_iff {c d : Component} (hc : c.IsCanonical) (hd : d.IsCanonical) :
    c.toJson.written = d.toJson.written ↔ c.Agrees d := by
  have interface := Interface.written_toJson_iff hc.properties hd.properties
  have subscriptions : c.subscriptions.map (fun s => s.toJson.written) =
      d.subscriptions.map (fun s => s.toJson.written) ↔
        List.Forall₂ Subscription.Agrees c.subscriptions d.subscriptions :=
    map_eq_map_iff_forall₂ fun s hs t ht =>
      Subscription.written_toJson_iff (hc.subscriptions s hs) (hd.subscriptions t ht)
  simp only [agrees_iff, toJson, Json.written_record, List.map_cons, List.map_nil, Json.written_list,
    Json.written_texts, Json.texts_inj, NameSet.names_inj, Json.record.injEq, List.cons.injEq,
    Prod.mk.injEq, Json.list.injEq, true_and, and_true, interface, subscriptions,
    StateMachine.written_toJson_iff]

/-! ## Registries -/

theorem Registry.toJson_eq (r : Registry) : r.toJson =
    .record
      [ ("components", .record (r.contents.map fun e => (e.1, e.2.toJson))),
        ("aliases", .record (r.aliases.entries.map fun e => (e.1, .text e.2))) ] := by
  rw [Registry.toJson, Registry.contents, List.map_map]
  rfl

theorem Registry.written_toJson_iff {a b : Registry}
    (ha : ∀ e ∈ a.contents, e.2.IsCanonical) (hb : ∀ e ∈ b.contents, e.2.IsCanonical) :
    a.toJson.written = b.toJson.written ↔ a.Agrees b := by
  have components : a.contents.map (fun e => (e.1, e.2.toJson.written)) =
      b.contents.map (fun e => (e.1, e.2.toJson.written)) ↔
        List.Forall₂ (fun e f => e.1 = f.1 ∧ e.2.Agrees f.2) a.contents b.contents :=
    map_eq_map_iff_forall₂ fun e he f hf => by
      rw [Prod.mk.injEq, Component.written_toJson_iff (ha e he) (hb f hf)]
  have aliases : a.aliases.entries.map (fun e => (e.1, Json.text e.2)) =
      b.aliases.entries.map (fun e => (e.1, Json.text e.2)) ↔
        a.aliases.entries = b.aliases.entries :=
    List.map_inj_right fun e f h => by simpa [Prod.ext_iff] using h
  simp only [agrees_iff, toJson_eq, Json.written_record, List.map_cons, List.map_nil, List.map_map,
    Function.comp_def, Json.written_text, Json.record.injEq, List.cons.injEq, Prod.mk.injEq,
    true_and, and_true, components, aliases]

theorem Reached.canonical_contents {o : Options} {ds : List (String × ComponentDecl)} {r : Registry}
    (h : Reached o ds r) : ∀ e ∈ r.contents, e.2.IsCanonical := by
  intro e he
  obtain ⟨entry, hentry, rfl⟩ := List.mem_map.1 he
  exact h.canonical entry hentry

/-- Two documents that compile have the same text exactly if they agree: the same names, components
and aliases, in the same order, but for numbers that are not finite. A value, minimum or maximum that
is not finite is not told from an absent one. -/
theorem serialize_eq_iff {o o' : Options} {text text' : String} {a b : Registry}
    (ha : (compile o text).outcome = .ok a) (hb : (compile o' text').outcome = .ok b) :
    a.serialize = b.serialize ↔ a.Agrees b := by
  obtain ⟨_, -, reached, -⟩ := compile_ok_iff.1 ha
  obtain ⟨_, -, reached', -⟩ := compile_ok_iff.1 hb
  rw [Registry.serialize, Registry.serialize, Json.render_eq_iff]
  exact Registry.written_toJson_iff reached.canonical_contents reached'.canonical_contents

/-- A component with a property and its bounds. -/
def gauge (min max : Option Literal) : Component where
  interface := ⟨[], [], [⟨"Level", ⟨.char, 1⟩, some (.unsigned 9223372036854775808), min, max,
    none, false⟩]⟩
  subscriptions := []
  events := .empty
  machine := ⟨⟨["S"], by decide⟩, "S", []⟩

/-- A document with this component, and an alias of it. -/
def gaugeText (bounds : String) : String :=
  "components:\n- G: \x7binterface: \x7bproperties: [Level: \x7btype: char, " ++
  "value: 9223372036854775808" ++ bounds ++ "\x7d]\x7d, " ++
  "statemachine: \x7bstates: [S], start: S\x7d\x7d\n- H: \x7busing: G\x7d"

/-- What such a document compiles to. -/
theorem gauge_compiles {bounds : String} {min max : Option Literal}
    (h : (compile .standard (gaugeText bounds)).outcome.toOption.map
      (fun r => (r.contents, r.aliases.entries)) =
        some ([("G", gauge min max), ("H", gauge min max)], [("H", "G")])) :
    ∃ r, (compile .standard (gaugeText bounds)).outcome = .ok r ∧
      r.contents = [("G", gauge min max), ("H", gauge min max)] ∧
      r.aliases.entries = [("H", "G")] := by
  obtain ⟨r, hr, view⟩ := exists_ok_of_toOption_map h
  obtain ⟨contents, aliases⟩ := Prod.mk.inj view
  exact ⟨r, hr, contents, aliases⟩

/-- Bounds that are not finite are lost, and others are not. -/
theorem gauge_bounds_lost : ∃ a b c,
    (compile .standard (gaugeText ", min: .nan, max: -.inf")).outcome = .ok a ∧
    (compile .standard (gaugeText "")).outcome = .ok b ∧
    (compile .standard (gaugeText ", min: 0")).outcome = .ok c ∧
    a.contents ≠ b.contents ∧ a.serialize = b.serialize ∧ b.serialize ≠ c.serialize := by
  obtain ⟨a, ha, contents, aliases⟩ := @gauge_compiles ", min: .nan, max: -.inf"
    (some (.float .nan)) (some (.float (.infinity true))) (by decide +kernel)
  obtain ⟨b, hb, contents', aliases'⟩ := @gauge_compiles "" none none (by decide +kernel)
  obtain ⟨c, hc, contents'', -⟩ :=
    @gauge_compiles ", min: 0" (some (.integer 0)) none (by decide +kernel)
  have same : (gauge (some (.float .nan)) (some (.float (.infinity true)))).Agrees
      (gauge none none) :=
    ⟨⟨rfl, rfl, .cons ⟨rfl, rfl, rfl, rfl, rfl, rfl, rfl⟩ .nil⟩, .nil, rfl, rfl⟩
  refine ⟨a, b, c, ha, hb, hc, ?_, (serialize_eq_iff ha hb).2 ⟨?_, ?_⟩, fun equal => ?_⟩
  · rw [contents, contents']
    decide
  · rw [contents, contents']
    exact .cons ⟨rfl, same⟩ (.cons ⟨rfl, same⟩ .nil)
  · rw [aliases, aliases']
  · have agrees := ((serialize_eq_iff hb hc).1 equal).components
    rw [contents', contents''] at agrees
    cases agrees with
    | cons first _ =>
      cases first.2.interface.properties with
      | cons property _ => cases property.min

end ComponentSpec
