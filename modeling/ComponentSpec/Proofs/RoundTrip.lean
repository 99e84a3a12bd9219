import ComponentSpec.Proofs.Building
import ComponentSpec.Proofs.DistinctKeys
import ComponentSpec.Proofs.PlainPattern
import ComponentSpec.Proofs.Resolution
import ComponentSpec.Proofs.TypeToken
import Mathlib.Data.List.Nodup

/-!
# ComponentSpec.Proofs.RoundTrip

The definition of a component is built into this component. One statement for each part of a
definition, in the order in which the parts are read.

* `optionalField_ok`: a field that is written is read again, and one that is left out is absent.
* `Command.read_toNode` and so on: a message is read from its written form.
* `StateMachine.build_toDecls`: a machine is built from its own transitions, whose patterns are
  names.
* `assemble_toFields`: the whole definition.

What is read of a message is said of any fields with the right values under their keys
(`Command.readFields_ok` and so on), so that the order in which they are written does not matter.
-/

namespace ComponentSpec

open Yaml (Node Mapping)

variable {α : Type} {m n : Mapping} {key key' what : String}

/-! ## Fields -/

namespace Yaml.Mapping

@[simp] theorem get?_nil (key : String) : get? [] key = none := rfl

@[simp] theorem get?_fieldEntry (key key' : String) (v : Node) (m : Mapping) :
    get? (fieldEntry key v :: m) key' = if key = key' then some v else get? m key' := rfl

@[simp] theorem get?_optionalEntry (f : α → Node) (key key' : String) (a : Option α) :
    get? (optionalEntry f key a) key' = if key = key' then a.map f else none := by
  cases a with
  | none => simp [optionalEntry]
  | some a => rfl

/-- What is not null counts as a field. -/
theorem field?_of_get? {f : α → Node} {a : Option α} (h : get? m key = a.map f)
    (notNull : ∀ x, (f x).isNull = false) : m.field? key = a.map f := by
  rw [field?, h]
  cases a with
  | none => rfl
  | some x => simp [notNull x]

end Yaml.Mapping

open Yaml.Mapping

theorem optionalField_ok {read : Node → String → Checked α} {f : α → Node} {a : Option α}
    (h : get? m key = a.map f) (notNull : ∀ x, (f x).isNull = false)
    (hread : ∀ x what, a = some x → read (f x) what = .ok x) :
    optionalField read m key what = .ok a := by
  rw [optionalField, field?_of_get? h notNull]
  cases a with
  | none => rfl
  | some x =>
    simp only [Option.map_some, hread x _ rfl]
    rfl

theorem optionalName_ok {a : Option String} (h : get? m key = a.map .text) :
    optionalName m key what = .ok a :=
  optionalField_ok h (fun _ => rfl) fun _ _ _ => rfl

theorem requiredField_ok {v : Node} (h : get? m key = some v) (notNull : v.isNull = false) :
    requiredField m key what = .ok v := by
  have present : m.field? key = some v := by
    rw [field?, h]
    simp [notNull]
  rw [requiredField, present]

theorem readAll_map {read : Node → Checked α} {f : α → Node} {as : List α}
    (h : ∀ a ∈ as, read (f a) = .ok a) : readAll read (as.map f) = .ok as := by
  induction as with
  | nil => rfl
  | cons a as ih =>
    rw [List.map_cons, readAll, h a List.mem_cons_self,
      ih fun b hb => h b (List.mem_cons_of_mem _ hb)]
    rfl

theorem readListField_ok {read : Node → Checked α} {f : α → Node} {as : List α}
    (h : get? m key = some (.sequence (as.map f))) (hread : ∀ a ∈ as, read (f a) = .ok a) :
    readListField read m key what = .ok as := by
  rw [readListField, field?, h]
  exact readAll_map hread

theorem asNames_namesNode (names : List String) : asNames (namesNode names) what = .ok names :=
  readAll_map fun _ _ => rfl

/-! ## Literals -/

/-- A literal as reading gives it: an unsigned integer does not fit a signed one. -/
def Literal.IsCanonical (l : Literal) : Prop :=
  ∀ n, l = .unsigned n → 9223372036854775808 ≤ n.toNat

theorem Literal.isNull_toNode (l : Literal) : l.toNode.isNull = false := by
  cases l <;> rfl

theorem Literal.literal?_toNode {l : Literal} (h : l.IsCanonical) : literal? l.toNode = some l := by
  cases l with
  | boolean b => rfl
  | integer n =>
    have fits : n.toInt < 9223372036854775808 := n.toInt_lt
    have value : (Yaml.Integer.ofSigned n).value = n.toInt := rfl
    simp [toNode, literal?, value, fits]
  | unsigned n =>
    have large := h n rfl
    have value : (Yaml.Integer.ofUnsigned n).value = n.toNat := rfl
    have beyond : ¬ (n.toNat : Int) < 9223372036854775808 := by omega
    simp [toNode, literal?, value, beyond]
  | float x => rfl
  | text s => rfl

theorem asLiteral_toNode {l : Literal} (h : l.IsCanonical) : asLiteral l.toNode what = .ok l := by
  rw [asLiteral, Literal.literal?_toNode h]

theorem optionalLiteral_ok {a : Option Literal} (h : get? m key = a.map Literal.toNode)
    (canonical : ∀ l, a = some l → l.IsCanonical) : optionalLiteral m key what = .ok a :=
  optionalField_ok h Literal.isNull_toNode fun l _ hl => asLiteral_toNode (canonical l hl)

/-! ## Messages -/

namespace Command

theorem readFields_ok {k : Command} (h : k.IsRouted)
    (hevent : get? m "event" = k.event.map .text)
    (hforward : get? m "forward" = k.forward.map .text) : readFields k.name m = .ok k := by
  rw [readFields, optionalName_ok hevent, optionalName_ok hforward]
  obtain ⟨name, event, forward⟩ := k
  rcases h with h | h
  · cases h
    rfl
  · cases h
    cases event <;> rfl

theorem read_toNode {k : Command} (h : k.IsRouted) : Command.read k.toNode = .ok k :=
  readFields_ok h (by simp [get?_append]) (by simp [get?_append])

end Command

theorem Notification.read_toNode (n : Notification) : Notification.read n.toNode = .ok n := rfl

namespace Property

/-- The literals of a property are as reading gives them. -/
def IsCanonical (p : Property) : Prop :=
  ∀ l, p.value = some l ∨ p.min = some l ∨ p.max = some l → l.IsCanonical

theorem readDeclaredType_ok {name : String} {t : TypeDeclaration}
    (h : get? m "type" = some (.text t.token)) (sized : 0 < t.cardinality.toNat) :
    readDeclaredType name m = .ok t := by
  rw [readDeclaredType, field?, h]
  exact readType_token sized

theorem readFields_ok {p : Property} (sized : p.IsSized) (canonical : p.IsCanonical)
    (htype : get? m "type" = some (.text p.type.token))
    (hvalue : get? m "value" = p.value.map Literal.toNode)
    (hmin : get? m "min" = p.min.map Literal.toNode)
    (hmax : get? m "max" = p.max.map Literal.toNode)
    (hnotification : get? m "notification" = p.notification.map .text)
    (hreadonly : get? m "readonly" = some (.boolean p.readonly)) : readFields p.name m = .ok p := by
  have readonly : optionalBoolean m "readonly" ("property " ++ p.name) = .ok (some p.readonly) := by
    rw [optionalBoolean, optionalField, field?, hreadonly]
    rfl
  rw [readFields, readDeclaredType_ok htype sized,
    optionalLiteral_ok hvalue fun l hl => canonical l (.inl hl),
    optionalLiteral_ok hmin fun l hl => canonical l (.inr (.inl hl)),
    optionalLiteral_ok hmax fun l hl => canonical l (.inr (.inr hl)),
    optionalName_ok hnotification, readonly]
  rfl

theorem read_toNode {p : Property} (sized : p.IsSized) (canonical : p.IsCanonical) :
    Property.read p.toNode = .ok p :=
  readFields_ok sized canonical rfl (by simp [get?_append]) (by simp [get?_append])
    (by simp [get?_append]) (by simp [get?_append]) (by simp [get?_append])

end Property

theorem PropertyChange.read_toNode {c : PropertyChange} (h : c.value.IsCanonical) :
    PropertyChange.read c.toNode what = .ok c := by
  refine bind_eq_ok_iff.2 ⟨_, rfl, ?_⟩
  refine bind_eq_ok_iff.2 ⟨.text c.property, requiredField_ok (by simp) rfl, ?_⟩
  refine bind_eq_ok_iff.2 ⟨c.property, rfl, ?_⟩
  refine bind_eq_ok_iff.2
    ⟨c.value.toNode, requiredField_ok (by simp) c.value.isNull_toNode, ?_⟩
  exact bind_eq_ok_iff.2 ⟨c.value, asLiteral_toNode h, rfl⟩

namespace Subscription

def IsCanonical (s : Subscription) : Prop := ∀ c, s.change = some c → c.value.IsCanonical

theorem readFields_ok {s : Subscription} (canonical : s.IsCanonical)
    (hevent : get? m "event" = s.event.map .text)
    (haction : get? m "action" = s.action.map .text)
    (hchange : get? m "change" = s.change.map PropertyChange.toNode) :
    readFields s.name m = .ok s := by
  have change : optionalField PropertyChange.read m "change"
      ("subscribed notification " ++ s.name) = .ok s.change :=
    optionalField_ok hchange (fun _ => rfl) fun c _ hc =>
      PropertyChange.read_toNode (canonical c hc)
  rw [readFields, optionalName_ok hevent, optionalName_ok haction, change]
  rfl

theorem read_toNode {s : Subscription} (canonical : s.IsCanonical) :
    Subscription.read s.toNode = .ok s :=
  readFields_ok canonical (by simp [get?_append]) (by simp [get?_append]) (by simp [get?_append])

end Subscription

/-! ## Sections -/

/-- The literals of an interface are as reading gives them. -/
def Interface.IsCanonical (i : Interface) : Prop := ∀ p ∈ i.properties, p.IsCanonical

theorem Interface.read_toNode {i : Interface} (sound : i.IsSound) (canonical : i.IsCanonical) :
    Interface.read (some i.toNode) = .ok i := by
  have commands : ∀ k ∈ i.commands, Command.read k.toNode = .ok k :=
    fun k hk => Command.read_toNode (sound.routed k hk)
  have properties : ∀ p ∈ i.properties, Property.read p.toNode = .ok p :=
    fun p hp => Property.read_toNode (sound.sized p hp) (canonical p hp)
  refine bind_eq_ok_iff.2 ⟨_, rfl, ?_⟩
  refine bind_eq_ok_iff.2 ⟨i.commands, readListField_ok (by simp) commands, ?_⟩
  refine bind_eq_ok_iff.2
    ⟨i.notifications, readListField_ok (by simp) fun n _ => Notification.read_toNode n, ?_⟩
  exact bind_eq_ok_iff.2 ⟨i.properties, readListField_ok (by simp) properties, rfl⟩

theorem readUtilization_toNode {ss : List Subscription} (canonical : ∀ s ∈ ss, s.IsCanonical) :
    readUtilization (some (.mapping
      [fieldEntry "notifications" (.sequence (ss.map Subscription.toNode))])) = .ok ss :=
  bind_eq_ok_iff.2 ⟨_, rfl, readListField_ok (by simp) fun s hs =>
    Subscription.read_toNode (canonical s hs)⟩

/-! ## State machines -/

/-- A transition as the declaration of itself: its state is its pattern. -/
def Transition.toDecl (t : Transition) : TransitionDecl := ⟨t.state, t.next, t.event, t.action⟩

namespace TransitionDecl

theorem readName_ok {s : String} (h : get? m key = some (.text s)) :
    (do asName (← requiredField m key what) (fieldOf key what)) = .ok s :=
  bind_eq_ok_iff.2 ⟨_, requiredField_ok h rfl, rfl⟩

theorem read_toNode (place : Nat) (t : Transition) : read place t.toNode = .ok t.toDecl := by
  refine bind_eq_ok_iff.2 ⟨_, rfl, ?_⟩
  refine bind_eq_ok_iff.2 ⟨t.state, readName_ok (by simp), ?_⟩
  refine bind_eq_ok_iff.2 ⟨t.next, readName_ok (by simp), ?_⟩
  refine bind_eq_ok_iff.2 ⟨t.event, readName_ok (by simp), ?_⟩
  exact bind_eq_ok_iff.2 ⟨t.action, optionalName_ok (by simp), rfl⟩

theorem readFrom_map (place : Nat) (ts : List Transition) :
    readFrom place (ts.map Transition.toNode) = .ok (ts.map Transition.toDecl) := by
  induction ts generalizing place with
  | nil => rfl
  | cons t ts ih =>
    rw [List.map_cons, readFrom, read_toNode, ih]
    rfl

end TransitionDecl

namespace StateMachine

/-- The pattern of a plain name stands for the state of this name. -/
theorem matched_plain {names : List String} (nodup : names.Nodup) {state : String}
    (hm : state ∈ names) (plain : IsPlain state) : matched statePattern? names state = [state] := by
  obtain ⟨isMatch, pattern, only⟩ : ∃ isMatch, statePattern? state = some isMatch ∧
      ∀ other, isMatch other = true ↔ other = state := statePattern?_plain plain rfl
  have self : names.filter isMatch = names.filter (· = state) := by
    refine List.filter_congr fun s _ => ?_
    rw [Bool.eq_iff_iff, only, decide_eq_true_iff]
  rw [matched, pattern]
  simp only [self]
  rw [List.filter_eq, List.count_eq_one_of_mem nodup hm, List.replicate_one]

/-- The states of a machine are plain names. -/
def IsPlain (m : StateMachine) : Prop := ∀ s ∈ m.states.names, ComponentSpec.IsPlain s

theorem expand_toDecl {m : StateMachine} {events : List String} (closed : m.IsClosed events)
    (plain : m.IsPlain) {t : Transition} (ht : t ∈ m.transitions) :
    expand statePattern? m.states.names t.toDecl = [t] := by
  obtain ⟨state, -, -⟩ := closed.transitions t ht
  have only : matched statePattern? m.states.names t.toDecl.pattern = [t.state] :=
    matched_plain m.states.nodup state (plain _ state)
  rw [expand, only]
  rfl

theorem flatMap_expand_toDecl {m : StateMachine} {events : List String}
    (closed : m.IsClosed events) (plain : m.IsPlain) :
    (m.transitions.map Transition.toDecl).flatMap (expand statePattern? m.states.names) =
      m.transitions := by
  rw [List.flatMap_map, List.flatMap_congr fun t ht => expand_toDecl closed plain ht]
  exact List.flatMap_singleton' _

theorem sound_toDecl {m : StateMachine} {events : List String} (closed : m.IsClosed events)
    (plain : m.IsPlain) {t : Transition} (ht : t ∈ m.transitions) :
    Sound statePattern? m.states.names events t.toDecl := by
  obtain ⟨state, next, event⟩ := closed.transitions t ht
  have only : matched statePattern? m.states.names t.toDecl.pattern = [t.state] :=
    matched_plain m.states.nodup state (plain _ state)
  have matching : matched statePattern? m.states.names t.toDecl.pattern ≠ [] := by simp [only]
  obtain ⟨isMatch, pattern, -⟩ := exists_meaning matching
  exact ⟨by simp [pattern], matching, next, event⟩

/-- A closed machine is built again from its own transitions. -/
theorem build_toDecls {m : StateMachine} {events : NameSet} (closed : m.IsClosed events.names)
    (plain : m.IsPlain) :
    (build statePattern? m.states.names events m.start
      (m.transitions.map Transition.toDecl)).outcome = .ok m := by
  have transitions := flatMap_expand_toDecl closed plain
  rw [build_ok_iff, NameSet.eraseDups_of_nodup m.states.nodup]
  refine ⟨⟨closed.start, ?_, ?_⟩, rfl, rfl, transitions.symm⟩
  · intro d hd
    obtain ⟨t, ht, rfl⟩ := List.mem_map.1 hd
    exact sound_toDecl closed plain ht
  · rw [transitions]
    exact closed.edges

end StateMachine

/-! ## Components -/

theorem readEvents_toFields (c : Component) : (readEvents c.toFields).outcome = .ok c.events := by
  have events : c.toFields.field? "events" = some (namesNode c.events.names) := rfl
  rw [readEvents, events]
  refine outcome_bind_eq_ok_iff.2 ⟨c.events.names, asNames_namesNode _, ?_⟩
  exact congrArg Except.ok (NameSet.ofList_names c.events)

theorem readStateMachine_toFields {c : Component} (closed : c.machine.IsClosed c.events.names)
    (plain : c.machine.IsPlain) :
    (readStateMachine c.events c.toFields).outcome = .ok c.machine := by
  have transitions : TransitionDecl.readList
      (some (.sequence (c.machine.transitions.map Transition.toNode))) =
        .ok (c.machine.transitions.map Transition.toDecl) := TransitionDecl.readFrom_map 0 _
  refine outcome_bind_eq_ok_iff.2 ⟨c.machine.toNode, rfl, ?_⟩
  refine outcome_bind_eq_ok_iff.2 ⟨_, rfl, ?_⟩
  refine outcome_bind_eq_ok_iff.2 ⟨namesNode c.machine.states.names, rfl, ?_⟩
  refine outcome_bind_eq_ok_iff.2 ⟨c.machine.states.names, asNames_namesNode _, ?_⟩
  refine outcome_bind_eq_ok_iff.2 ⟨.text c.machine.start, rfl, ?_⟩
  refine outcome_bind_eq_ok_iff.2 ⟨c.machine.start, rfl, ?_⟩
  refine outcome_bind_eq_ok_iff.2 ⟨c.machine.transitions.map Transition.toDecl, transitions, ?_⟩
  exact StateMachine.build_toDecls closed plain

/-- A component whose definition can be written down: sound by itself, with states that are plain
names and literals as reading gives them. -/
structure Component.IsWritable (c : Component) : Prop extends c.IsSound where
  plain : c.machine.IsPlain
  properties : c.interface.IsCanonical
  subscriptions : ∀ s ∈ c.subscriptions, s.IsCanonical

theorem read_toFields (c : Component) (name : String) :
    (ComponentDecl.read name (.mapping c.toFields)).outcome = .ok (.definition c.toFields) :=
  read_ok_iff.2 ⟨c.toFields, rfl, .inr ⟨rfl, rfl, rfl⟩⟩

/-- The definition of a component is read as a definition, and built into this component, whatever
its name is and whatever has been bound before. -/
theorem assemble_toFields {c : Component} (h : c.IsWritable) (r : Registry) (name : String) :
    (ComponentDecl.read name (.mapping c.toFields)).outcome = .ok (.definition c.toFields) ∧
      (assemble r name (.definition c.toFields)).outcome = .ok (.component c) := by
  have interface := Interface.read_toNode h.interface h.properties
  have utilization := readUtilization_toNode h.subscriptions
  refine ⟨read_toFields c name, assemble_component_iff.2 ⟨c.toFields, rfl, ?_⟩⟩
  refine outcome_bind_eq_ok_iff.2 ⟨c.interface, interface, ?_⟩
  refine outcome_bind_eq_ok_iff.2 ⟨c.subscriptions, utilization, ?_⟩
  refine outcome_bind_eq_ok_iff.2 ⟨c.events, readEvents_toFields c, ?_⟩
  exact outcome_bind_eq_ok_iff.2 ⟨c.machine, readStateMachine_toFields h.machine h.plain, rfl⟩

/-- A lamp with a command, a property of several values and a subscription that changes it. -/
def lamp : Component where
  interface :=
    { commands := [⟨"Switch", some "toggle", none⟩]
      notifications := [⟨"Lit"⟩]
      properties := [⟨"Level", ⟨.uint64, 2⟩, some (.unsigned 9223372036854775808),
        some (.integer 0), none, some "Lit", true⟩] }
  subscriptions := [⟨"Door.Open", some "toggle", none, some ⟨"Level", .text "high"⟩⟩]
  events := ⟨["toggle"], by decide⟩
  machine :=
    { states := ⟨["Off", "On"], by decide⟩
      start := "Off"
      transitions := [⟨"Off", "On", "toggle", some "light"⟩, ⟨"On", "Off", "toggle", none⟩] }

theorem lamp_assembles : lamp.IsWritable ∧
    (assemble .empty "Lamp" (.definition lamp.toFields)).outcome = .ok (.component lamp) := by
  have plain : ∀ s ∈ lamp.machine.states.names, IsPlain s := by decide
  have writable : lamp.IsWritable :=
    { interface := ⟨by simp [lamp, Command.IsRouted], by simp [lamp, Property.IsSized]⟩
      machine := ⟨by decide, by decide, by decide⟩
      plain := plain
      properties := by
        simp only [Interface.IsCanonical, Property.IsCanonical, lamp, List.mem_singleton, forall_eq,
          Option.some.injEq, reduceCtorEq, or_false]
        rintro l (rfl | rfl) n hn
        · cases hn
          decide
        · cases hn
      subscriptions := by
        simp [Subscription.IsCanonical, lamp, Literal.IsCanonical] }
  exact ⟨writable, (assemble_toFields writable .empty "Lamp").2⟩

end ComponentSpec
