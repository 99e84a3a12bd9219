import ComponentSpec.Proofs.Copying
import ComponentSpec.Proofs.Extension
import ComponentSpec.Proofs.Reserved
import ComponentSpec.Proofs.Subscribers
import ComponentSpec.Proofs.Violation

/-!
# ComponentSpec.Proofs.Subscribing

One more bare subscription in a definition of a document.

* `Utilizes`: the fields of a definition with such a subscription added to them.
* `Component.Gains`: a component with one more bare subscription, as it is built from such fields.
* `Amends`: declarations in which the fields of one definition have been replaced so. The first
  phase binds the same names, and to components that expose the same.
* `compile_subscribed`: whether an exposed notification can be subscribed to is decided by the name
  of its component. There must be no separator in it.
-/

namespace ComponentSpec

open Yaml (Node Mapping)

/-! ## The fields of a definition -/

/-- The subscriptions of a definition as they are written. Where there is no list there are none. -/
def subscriptionNodes (fields : Mapping) : Checked (List Node) :=
  match present? (fields.field? "utilization") with
  | none => .ok []
  | some v => do
    let m ← asMapping v "utilization"
    match m.field? "notifications" with
    | none => .ok []
    | some list => asSequence list (fieldOf "notifications" "utilization")

/-- A definition with a bare subscription added to its utilization, at any place. -/
structure Utilizes (subscription : String) (fields fields' : Mapping) : Prop where
  other : ∀ key, key ≠ "utilization" → fields'.get? key = fields.get? key
  nodes : ∃ before node after, subscriptionNodes fields = .ok (before ++ after) ∧
    subscriptionNodes fields' = .ok (before ++ node :: after) ∧
    scalarText? node = some subscription

/-- A component with one more bare subscription. -/
def Component.Gains (subscription : String) (c c' : Component) : Prop :=
  ∃ before after, c.subscriptions = before ++ after ∧
    c' = { c with subscriptions := before ++ .ofName subscription :: after }

theorem readUtilization_eq (fields : Mapping) : readUtilization (fields.field? "utilization") =
    subscriptionNodes fields >>= readAll Subscription.read := by
  unfold readUtilization subscriptionNodes readListField
  cases present? (fields.field? "utilization") with
  | none => rfl
  | some v =>
    simp only [bind_assoc]
    refine bind_congr fun m => ?_
    cases m.field? "notifications" <;> rfl

theorem readAll_insert {α : Type} {read : Node → Checked α} {before after : List Node} {node : Node}
    {as : List α} {a : α} (h : readAll read (before ++ after) = .ok as) (ha : read node = .ok a) :
    ∃ front back, as = front ++ back ∧
      readAll read (before ++ node :: after) = .ok (front ++ a :: back) := by
  induction before generalizing as with
  | nil =>
    refine ⟨[], as, rfl, ?_⟩
    exact bind_eq_ok_iff.2 ⟨a, ha, bind_eq_ok_iff.2 ⟨as, h, rfl⟩⟩
  | cons x before ih =>
    obtain ⟨b, hb, h⟩ := bind_eq_ok_iff.1 h
    obtain ⟨bs, hbs, h⟩ := bind_eq_ok_iff.1 h
    cases h
    obtain ⟨front, back, rfl, later⟩ := ih hbs
    refine ⟨b :: front, back, rfl, ?_⟩
    exact bind_eq_ok_iff.2 ⟨b, hb, bind_eq_ok_iff.2 ⟨_, later, rfl⟩⟩

theorem Subscription.read_bare {node : Node} {name : String} (h : scalarText? node = some name) :
    Subscription.read node = .ok (.ofName name) := by
  cases node with
  | text s =>
    cases h
    rfl
  | integer n =>
    cases h
    rfl
  | float x =>
    cases h
    rfl
  | boolean b =>
    cases h
    rfl
  | null => cases h
  | sequence _ => cases h
  | mapping _ => cases h
  | tagged _ _ => cases h

theorem Component.build_ok_iff {name : String} {fields : Mapping} {c : Component} :
    (Component.build name fields).outcome = .ok c ↔
      Interface.read (fields.field? "interface") = .ok c.interface ∧
      readUtilization (fields.field? "utilization") = .ok c.subscriptions ∧
      (readEvents fields).outcome = .ok c.events ∧
      (readStateMachine c.events fields).outcome = .ok c.machine := by
  simp only [Component.build, Traced.bind_eq, Traced.outcome_andThen, Traced.outcome_lift,
    bind_eq_ok_iff]
  constructor
  · rintro ⟨i, hi, s, hs, e, he, m, hm, _, -, h⟩
    cases h
    exact ⟨hi, hs, he, hm⟩
  · rintro ⟨hi, hs, he, hm⟩
    exact ⟨_, hi, _, hs, _, he, _, hm, (), rfl, rfl⟩

namespace Utilizes

variable {subscription name : String} {fields fields' : Mapping} {c : Component}

theorem field?_eq (h : Utilizes subscription fields fields') {key : String}
    (hk : key ≠ "utilization") : fields'.field? key = fields.field? key := by
  rw [Mapping.field?, h.other key hk, Mapping.field?]

theorem build (h : Utilizes subscription fields fields')
    (hc : (Component.build name fields).outcome = .ok c) :
    ∃ c', (Component.build name fields').outcome = .ok c' ∧ c.Gains subscription c' := by
  have interface : fields'.field? "interface" = fields.field? "interface" :=
    h.field?_eq (by decide)
  have events : readEvents fields' = readEvents fields := by
    rw [readEvents, h.field?_eq (by decide), readEvents]
  have machine (e : NameSet) : readStateMachine e fields' = readStateMachine e fields := by
    rw [readStateMachine, requiredField, h.field?_eq (by decide), readStateMachine, requiredField]
  obtain ⟨hi, hs, he, hm⟩ := Component.build_ok_iff.1 hc
  obtain ⟨before, node, after, hn, hn', bare⟩ := h.nodes
  rw [readUtilization_eq, hn] at hs
  obtain ⟨front, back, split, added⟩ := readAll_insert hs (Subscription.read_bare bare)
  refine ⟨{ c with subscriptions := front ++ .ofName subscription :: back }, ?_, front, back, split,
    rfl⟩
  refine Component.build_ok_iff.2 ⟨interface ▸ hi, ?_, events ▸ he, (machine _).symm ▸ hm⟩
  rw [readUtilization_eq, hn']
  exact added

end Utilizes

/-! ## Declarations -/

/-- The fields of one definition have been replaced by those with one more subscription. -/
structure Amends (name subscription : String) (fields fields' : Mapping)
    (ds ds' : List (String × ComponentDecl)) : Prop where
  split : ∃ before after, ds = before ++ (name, .definition fields) :: after ∧
    ds' = before ++ (name, .definition fields') :: after
  utilizes : Utilizes subscription fields fields'

namespace Amends

variable {o : Options} {ds ds' : List (String × ComponentDecl)} {r r' : Registry}
  {name subscription n : String} {fields fields' : Mapping} {c : Component}

theorem declared (h : Amends name subscription fields fields' ds ds') :
    (name, .definition fields) ∈ ds := by
  obtain ⟨before, after, rfl, -⟩ := h.split
  exact List.mem_append_right _ List.mem_cons_self

theorem amended (h : Amends name subscription fields fields' ds ds') :
    (name, .definition fields') ∈ ds' := by
  obtain ⟨before, after, -, rfl⟩ := h.split
  exact List.mem_append_right _ List.mem_cons_self

theorem mem_of_mem (h : Amends name subscription fields fields' ds ds') {d : ComponentDecl}
    (hd : (n, d) ∈ ds) : (n = name ∧ d = .definition fields) ∨ (n, d) ∈ ds' := by
  obtain ⟨before, after, rfl, rfl⟩ := h.split
  rcases List.mem_append.1 hd with hd | hd
  · exact .inr (List.mem_append_left _ hd)
  · rcases List.mem_cons.1 hd with hd | hd
    · exact .inl (Prod.mk.inj hd)
    · exact .inr (List.mem_append_right _ (List.mem_cons_of_mem _ hd))

theorem boundNames_eq (h : Amends name subscription fields fields' ds ds') :
    boundNames o ds = boundNames o ds' := by
  obtain ⟨before, after, rfl, rfl⟩ := h.split
  simp [boundNames]

theorem names_eq (h : Amends name subscription fields fields' ds ds') (hr : Reached o ds r)
    (hr' : Reached o ds' r') : r.names = r'.names := by
  rw [hr.names, hr'.names, h.boundNames_eq]

theorem leadsTo (h : Amends name subscription fields fields' ds ds') {m : String}
    (hl : LeadsTo ds n m) : LeadsTo ds' n m := by
  induction hl with
  | definition hd =>
    rcases h.mem_of_mem hd with ⟨rfl, -⟩ | hd
    · exact .definition h.amended
    · exact .definition hd
  | uses hd _ ih =>
    rcases h.mem_of_mem hd with ⟨-, hd⟩ | hd
    · cases hd
    · exact .uses hd ih

theorem exists_reached (h : Amends name subscription fields fields' ds ds') (hr : Reached o ds r)
    (free : o.isReserved name = false) : ∃ r', Reached o ds' r' := by
  obtain ⟨before, after, rfl, rfl⟩ := h.split
  obtain ⟨r₀, r₁, h₀, hnew, hadd, run⟩ := (reached_split_iff free).1 hr
  cases hadd with
  | @definition _ c hc =>
    obtain ⟨c', hc', -⟩ := h.utilizes.build hc
    have hadd : r₀.Adds name (.definition fields) (r₀.define name c) := .definition hc
    have hadd' : r₀.Adds name (.definition fields') (r₀.define name c') := .definition hc'
    have names := (hadd.names hnew).trans (hadd'.names hnew).symm
    obtain ⟨r', run', -⟩ := run_follows names run
    exact ⟨r', (reached_split_iff free).2 ⟨r₀, _, h₀, hnew, hadd', run'⟩⟩

/-- A name that does not lead to the definition is bound to what it was bound to. -/
theorem component?_other (h : Amends name subscription fields fields' ds ds')
    (hr : Reached o ds r) (hr' : Reached o ds' r') {m : String} (hm : n ∈ r.names)
    (hl : LeadsTo ds n m) (ne : m ≠ name) : r'.component? n = r.component? n := by
  obtain ⟨f, hd⟩ := hl.defined
  have hd' := (h.mem_of_mem hd).resolve_left fun same => ne same.1
  obtain ⟨c, hc, bound⟩ := hr.component?_of_leadsTo hm hl hd
  obtain ⟨c', hc', bound'⟩ := hr'.component?_of_leadsTo (h.names_eq hr hr' ▸ hm) (h.leadsTo hl) hd'
  cases hc.symm.trans hc'
  rw [bound, bound']

theorem component?_gains (h : Amends name subscription fields fields' ds ds')
    (hr : Reached o ds r) (hr' : Reached o ds' r') (hm : n ∈ r.names) (hl : LeadsTo ds n name) :
    ∃ c c', r.component? n = some c ∧ r'.component? n = some c' ∧ c.Gains subscription c' := by
  obtain ⟨c, hc, bound⟩ := hr.component?_of_leadsTo hm hl h.declared
  obtain ⟨c', hc', bound'⟩ :=
    hr'.component?_of_leadsTo (h.names_eq hr hr' ▸ hm) (h.leadsTo hl) h.amended
  obtain ⟨c'', hc'', gains⟩ := h.utilizes.build hc
  cases hc''.symm.trans hc'
  exact ⟨c, _, bound, bound', gains⟩

theorem component?_cases (h : Amends name subscription fields fields' ds ds')
    (hr : Reached o ds r) (hr' : Reached o ds' r') (hc : r.component? n = some c) :
    ∃ c', r'.component? n = some c' ∧ (c' = c ∨ c.Gains subscription c') := by
  have hm := Registry.mem_names_of_component? hc
  obtain ⟨m, hl⟩ := hr.coherent.leads n hm
  by_cases ne : m = name
  · subst ne
    obtain ⟨c₀, c', hc₀, hc', gains⟩ := h.component?_gains hr hr' hm hl
    cases hc.symm.trans hc₀
    exact ⟨c', hc', .inr gains⟩
  · exact ⟨c, (h.component?_other hr hr' hm hl ne).trans hc, .inl rfl⟩

end Amends

/-! ## References -/

/-- What a registry binds, another one binds to a component with the same interface. -/
def Registry.ExposedBy (r r' : Registry) : Prop :=
  ∀ name c, r.component? name = some c →
    ∃ c', r'.component? name = some c' ∧ c'.interface = c.interface

section References

variable {r r' : Registry} {c c' peer : Component} {publisher notification subscription : String}

theorem Component.Gains.interface_eq (h : c.Gains subscription c') :
    c'.interface = c.interface := by
  obtain ⟨_, _, -, rfl⟩ := h
  rfl

theorem Subscription.IsMet.exposed {s : Subscription} (h : s.IsMet r c) (exposed : r.ExposedBy r')
    (same : c'.interface = c.interface) : s.IsMet r' c' := by
  obtain ⟨publisher, notification, peer, hs, hpeer, hn⟩ := h.reference
  obtain ⟨peer', hpeer', interface⟩ := exposed _ _ hpeer
  exact ⟨⟨publisher, notification, peer', hs, hpeer', interface ▸ hn⟩, same ▸ h.change⟩

theorem Component.IsLinked.exposed (h : c.IsLinked r) (exposed : r.ExposedBy r') :
    c.IsLinked r' :=
  { h with subscriptions := fun s hs => (h.subscriptions s hs).exposed exposed rfl }

/-- A component with one more subscription is linked if this one is met. -/
theorem Component.Gains.isLinked (h : c.Gains subscription c') (linked : c.IsLinked r)
    (exposed : r.ExposedBy r') (met : (Subscription.ofName subscription).IsMet r' c') :
    c'.IsLinked r' := by
  have same := h.interface_eq
  obtain ⟨before, after, split, rfl⟩ := h
  refine ⟨fun s hs => ?_, linked.commands, linked.notifications, linked.properties⟩
  have old (hs : s ∈ before ++ after) : s.IsMet r' _ :=
    (linked.subscriptions s (split ▸ hs)).exposed exposed same
  rcases List.mem_append.1 hs with hs | hs
  · exact old (List.mem_append_left _ hs)
  · rcases List.mem_cons.1 hs with rfl | hs
    · exact met
    · exact old (List.mem_append_right _ hs)

/-- The first violation is the added subscription if it has more than two segments. -/
theorem Component.Gains.violation? {name : String} (h : c.Gains subscription c')
    (linked : c.IsLinked r) (exposed : r.ExposedBy r')
    (malformed : (Subscription.ofName subscription).reference? = none) :
    c'.violation? r' name = some (.malformedReference subscription name) := by
  have same := h.interface_eq
  obtain ⟨before, after, split, rfl⟩ := h
  refine Component.violation?_eq_some_iff.2 (.subscription rfl (fun s hs => ?_) ?_)
  · have hs : s ∈ c.subscriptions := split ▸ List.mem_append_left _ hs
    exact Subscription.isMet_iff.1 ((linked.subscriptions s hs).exposed exposed same)
  · exact .malformed (Subscription.reference?_eq_none_iff.1 malformed)

/-- An exposed notification has no separator in its name, so that it depends on that of the
component alone whether both can be told apart. -/
theorem reference?_exposed {s : Subscription} (linked : peer.IsLinked r)
    (exposed : ∃ n ∈ peer.interface.notifications, n.name = notification)
    (hs : s.name = publisher ++ "." ++ notification) :
    s.reference? =
      if separator ∈ publisher.toList then none else some (publisher, notification) := by
  obtain ⟨n, hn, rfl⟩ := exposed
  have plain := linked.notifications n hn
  split
  · rename_i dotted
    refine Subscription.reference?_eq_none_iff.2 fun p m names => ?_
    exact (names.of_text hs).publisher dotted
  · rename_i plain'
    exact Subscription.reference?_eq_some_iff_names.2 ⟨hs, plain', plain⟩

end References

namespace Amends

variable {o : Options} {ds ds' : List (String × ComponentDecl)} {r r' : Registry}
  {name subscription publisher notification : String} {fields fields' : Mapping} {peer : Component}

theorem exposedBy (h : Amends name subscription fields fields' ds ds') (hr : Reached o ds r)
    (hr' : Reached o ds' r') : r.ExposedBy r' := by
  intro n c hc
  obtain ⟨c', hc', rfl | gains⟩ := h.component?_cases hr hr' hc
  · exact ⟨c', hc', rfl⟩
  · exact ⟨c', hc', gains.interface_eq⟩

/-- All references are met if that of the new subscription is. -/
theorem violation?_eq_none (h : Amends name subscription fields fields' ds ds')
    (hr : Reached o ds r) (checked : r.violation? = none) (hr' : Reached o ds' r')
    (met : ∀ c, (Subscription.ofName subscription).IsMet r' c) : r'.violation? = none := by
  refine hr'.violation?_eq_none_iff.2 fun n c' hc' => ?_
  have hm : n ∈ r.names := by
    rw [h.names_eq hr hr']
    exact Registry.mem_names_of_component? hc'
  obtain ⟨object, ho⟩ := Registry.exists_object hm
  have hc : r.component? n = some object.component := Registry.component?_of_object? ho
  have linked := hr.isLinked checked hc
  have exposed := h.exposedBy hr hr'
  obtain ⟨_, bound, same | gains⟩ := h.component?_cases hr hr' hc
  · cases same
    cases bound.symm.trans hc'
    exact linked.exposed exposed
  · cases bound.symm.trans hc'
    exact gains.isLinked linked exposed (met _)

/-- The new subscription is met if it names what was exposed before. -/
theorem isMet (h : Amends name subscription fields fields' ds ds') (hr : Reached o ds r)
    (hr' : Reached o ds' r')
    (named : (Subscription.ofName subscription).reference? = some (publisher, notification))
    (hpeer : r.component? publisher = some peer)
    (exposed : ∃ n ∈ peer.interface.notifications, n.name = notification) (c : Component) :
    (Subscription.ofName subscription).IsMet r' c := by
  obtain ⟨peer', hpeer', interface⟩ := h.exposedBy hr hr' _ _ hpeer
  refine ⟨⟨publisher, notification, peer', named, hpeer', ?_⟩, fun _ changes => by cases changes⟩
  rw [interface]
  exact exposed

theorem mem_subscribers (h : Amends name subscription fields fields' ds ds') (hr : Reached o ds r)
    (hr' : Reached o ds' r') (bound : name ∈ r.names)
    (named : (Subscription.ofName subscription).reference? = some (publisher, notification)) :
    name ∈ r'.subscribers publisher notification := by
  obtain ⟨c, c', -, hc', front, back, -, rfl⟩ :=
    h.component?_gains hr hr' bound (.definition h.declared)
  refine Registry.mem_subscribers_iff.2 ⟨_, hc', .ofName subscription, by simp, ?_⟩
  exact Subscription.reference?_eq_some_iff_names.1 named

/-- A new subscription without a reference is all that is wrong. -/
theorem violation?_eq_some (h : Amends name subscription fields fields' ds ds')
    (hr : Reached o ds r) (checked : r.violation? = none) (hr' : Reached o ds' r')
    (bound : name ∈ r.names) (malformed : (Subscription.ofName subscription).reference? = none) :
    r'.violation? = some (.ofFaultIn name (.malformedReference subscription name)) := by
  have exposed := h.exposedBy hr hr'
  obtain ⟨c, c', hc, hc', gains⟩ := h.component?_gains hr hr' bound (.definition h.declared)
  have fault : c'.violation? r' name = some (.malformedReference subscription name) :=
    gains.violation? (hr.isLinked checked hc) exposed malformed
  cases hv : r'.violation? with
  | none =>
    rw [Component.violation?_eq_none_iff.2 (hr'.isLinked hv hc')] at fault
    cases fault
  | some d =>
    obtain ⟨before, b, after, f, split, -, hf, rfl⟩ := Registry.violation?_eq_some_iff.1 hv
    have defined : b ∈ r'.definitions := by
      rw [split]
      exact List.mem_append_right _ List.mem_cons_self
    obtain ⟨hb, root⟩ := List.mem_filter.1 defined
    obtain ⟨entry, target⟩ := Registry.mem_bindings hb
    have hbc : r'.component? b.name = some b.object.component :=
      Registry.component?_of_mem_entries entry
    by_cases same : b.name = name
    · rw [same] at hbc hf
      cases hbc.symm.trans hc'
      cases hf.symm.trans fault
      rw [same]
    · -- another definition is what it was, so nothing is wrong with it
      have hm' : b.name ∈ r'.names := Registry.mem_names_of_component? hbc
      have hm : b.name ∈ r.names := h.names_eq hr hr' ▸ hm'
      obtain ⟨m, hl⟩ := hr.coherent.leads b.name hm
      have itself : r'.rootOf b.name = b.name :=
        Registry.rootOf_of_not_alias (target ▸ Option.isNone_iff_eq_none.1 root)
      have ne : m ≠ name := by
        rwa [← hr'.coherent.rootOf_of_leadsTo (h.leadsTo hl) hm', itself]
      rw [h.component?_other hr hr' hm hl ne] at hbc
      have linked := (hr.isLinked checked hbc).exposed exposed
      rw [Component.violation?_eq_none_iff.2 linked] at hf
      cases hf

end Amends

/-! ## Documents -/

/-- The entry of a definition, and the same with a bare subscription added to the definition. -/
def AddsSubscription (subscription : String) (entry entry' : Node) : Prop :=
  ∃ key body body' fields fields',
    entry.asMapping? = some [(key, body)] ∧ entry'.asMapping? = some [(key, body')] ∧
      body.asMapping? = some fields ∧ body'.asMapping? = some fields' ∧
      Utilizes subscription fields fields'

section Documents

variable {o : Options} {text text' name publisher notification : String}
  {before after : List Node} {entry entry' : Node} {fields : Mapping} {r : Registry}
  {peer : Component}

theorem AddsSubscription.readNamed {subscription : String}
    (h : AddsSubscription subscription entry entry')
    (hd : (ComponentDecl.readNamed entry).outcome = .ok (name, .definition fields)) :
    ∃ fields', (ComponentDecl.readNamed entry').outcome = .ok (name, .definition fields') ∧
      Utilizes subscription fields fields' := by
  obtain ⟨key, body, body', fields₀, fields', hm, hm', hb, hb', utilizes⟩ := h
  obtain ⟨_, _, hm₀, hk, hd⟩ := readNamed_ok_iff.1 hd
  cases hm.symm.trans hm₀
  obtain ⟨_, hb₀, ⟨_, _, -, -, h⟩ | ⟨hu, hs, h⟩⟩ := read_ok_iff.1 hd
  · cases h
  · cases h
    cases hb.symm.trans hb₀
    refine ⟨fields', readNamed_ok_iff.2 ⟨key, body', hm', hk, ?_⟩, utilizes⟩
    refine read_ok_iff.2 ⟨fields', hb', .inr ⟨?_, ?_, rfl⟩⟩
    · rw [utilizes.other _ (by decide), hu]
    · rwa [utilizes.field?_eq (by decide)]

/-- In a document that compiles, a bare subscription to an exposed notification is added to a
definition. Its name tells the component and the notification apart exactly if that of the component
has no separator in it. Then the document still compiles, and the definition is a subscriber.
Otherwise the subscription is reported as malformed. A reserved definition may have it in any
case. -/
theorem compile_subscribed (h : componentEntries o text = .ok (before ++ entry :: after))
    (h' : componentEntries o text' = .ok (before ++ entry' :: after))
    (hd : (ComponentDecl.readNamed entry).outcome = .ok (name, .definition fields))
    (adds : AddsSubscription (publisher ++ "." ++ notification) entry entry')
    (hr : (compile o text).outcome = .ok r) (hpeer : r.component? publisher = some peer)
    (exposed : ∃ n ∈ peer.interface.notifications, n.name = notification) :
    (∀ s : Subscription, s.name = publisher ++ "." ++ notification →
      s.reference? =
        if separator ∈ publisher.toList then none else some (publisher, notification)) ∧
    (o.isReserved name = true → (compile o text').outcome = .ok r) ∧
    (o.isReserved name = false → separator ∉ publisher.toList →
      ∃ r', (compile o text').outcome = .ok r' ∧ r'.names = r.names ∧
        name ∈ r'.subscribers publisher notification) ∧
    (o.isReserved name = false → separator ∈ publisher.toList →
      (compile o text').outcome = .error (.ofFaultIn name
        (.malformedReference (publisher ++ "." ++ notification) name))) := by
  obtain ⟨ds, hds, reached, checked⟩ := compile_ok_iff.1 hr
  obtain ⟨fields', hd', utilizes⟩ := adds.readNamed hd
  obtain ⟨ds₁, ds₂, rfl, hb, ha⟩ := (decode_split_iff h hd).1 hds
  have hds' := (decode_split_iff h' hd').2 ⟨ds₁, ds₂, rfl, hb, ha⟩
  have amends : Amends name (publisher ++ "." ++ notification) fields fields' _ _ :=
    ⟨⟨ds₁, ds₂, rfl, rfl⟩, utilizes⟩
  have reference (s : Subscription) (hs : s.name = publisher ++ "." ++ notification) :=
    reference?_exposed (reached.isLinked checked hpeer) exposed hs
  have bound (free : o.isReserved name = false) : name ∈ r.names := by
    rw [reached.names]
    exact mem_boundNames.2 ⟨free, _, amends.declared⟩
  refine ⟨reference, fun reserved => ?_, fun free plain => ?_, fun free dotted => ?_⟩
  · refine compile_ok_iff.2 ⟨_, hds', reached_iff.2 ?_, checked⟩
    rw [outcome_assembleAll_reserved reserved, ← outcome_assembleAll_reserved reserved]
    exact reached_iff.1 reached
  · obtain ⟨r', reached'⟩ := amends.exists_reached reached free
    have named := reference (.ofName (publisher ++ "." ++ notification)) rfl
    rw [if_neg plain] at named
    have met := amends.isMet reached reached' named hpeer exposed
    have checked' := amends.violation?_eq_none reached checked reached' met
    exact ⟨r', compile_ok_iff.2 ⟨_, hds', reached', checked'⟩,
      (amends.names_eq reached reached').symm,
      amends.mem_subscribers reached reached' (bound free) named⟩
  · obtain ⟨r', reached'⟩ := amends.exists_reached reached free
    have named := reference (.ofName (publisher ++ "." ++ notification)) rfl
    rw [if_pos dotted] at named
    exact compile_error_iff.2 (.inr ⟨_, hds', .inr ⟨r', reached',
      amends.violation?_eq_some reached checked reached' (bound free) named⟩⟩)

end Documents

/-- A component with a notification, and another one with or without subscriptions. -/
def pairText (publisher utilization : String) : String :=
  "components:\n- " ++ publisher ++ ": \x7binterface: \x7bnotifications: [N]\x7d, " ++
  "statemachine: &m \x7bstates: [S], start: S\x7d\x7d\n" ++
  "- C: \x7b" ++ utilization ++ "statemachine: *m\x7d"

/-- A component that subscribes to nothing. -/
def silentFields : Mapping :=
  [(.text "statemachine",
    .mapping [(.text "states", .sequence [.text "S"]), (.text "start", .text "S")])]

def listeningFields (subscription : String) : Mapping :=
  (.text "utilization", .mapping [(.text "notifications", .sequence [.text subscription])]) ::
    silentFields

theorem listening_adds (subscription : String) :
    AddsSubscription subscription (entryOf "C" (.mapping silentFields))
      (entryOf "C" (.mapping (listeningFields subscription))) := by
  refine ⟨_, _, _, _, _, rfl, rfl, rfl, rfl, fun key ne => ?_, [], .text subscription, [], rfl, rfl,
    rfl⟩
  simp [listeningFields, Mapping.get?, ne.symm]

theorem listening_compiles : ∃ r r', (compile .standard (pairText "A" "")).outcome = .ok r ∧
    (compile .standard (pairText "A" "utilization: \x7bnotifications: [A.N]\x7d, ")).outcome =
      .ok r' ∧
    r'.names = r.names ∧ "C" ∈ r'.subscribers "A" "N" := by
  have entries : componentEntries .standard (pairText "A" "") =
      .ok ([entryOf "A" (.mapping publisherFields)] ++ entryOf "C" (.mapping silentFields) :: []) :=
    by decide +kernel
  have entries' : componentEntries .standard
      (pairText "A" "utilization: \x7bnotifications: [A.N]\x7d, ") =
      .ok ([entryOf "A" (.mapping publisherFields)] ++
        entryOf "C" (.mapping (listeningFields "A.N")) :: []) := by decide +kernel
  have built : (compile .standard (pairText "A" "")).outcome.toOption.map
      (fun r => (r.component? "A").map (·.interface.notifications)) =
      some (some [⟨"N"⟩]) := by
    rw [outcome_compile_of_entries entries]
    decide +kernel
  obtain ⟨r, hr, view⟩ := exists_ok_of_toOption_map built
  obtain ⟨peer, hpeer, notifications⟩ := Option.map_eq_some_iff.1 view
  have exposed : ∃ n ∈ peer.interface.notifications, n.name = "N" :=
    ⟨⟨"N"⟩, by rw [notifications]; exact List.mem_cons_self, rfl⟩
  have adds : AddsSubscription ("A" ++ "." ++ "N") (entryOf "C" (.mapping silentFields))
      (entryOf "C" (.mapping (listeningFields "A.N"))) := listening_adds "A.N"
  obtain ⟨-, -, subscribed, -⟩ := compile_subscribed entries entries' rfl adds hr hpeer exposed
  obtain ⟨r', hr', names, subscriber⟩ := subscribed (by decide) (by decide)
  exact ⟨r, r', hr, hr', names, subscriber⟩

/-- Nothing keeps separators out of the names of components. A component with one compiles, and no
other can subscribe to its notifications. -/
theorem dotted_component_unreachable :
    AddsSubscription "A.B.N" (entryOf "C" (.mapping silentFields))
      (entryOf "C" (.mapping (listeningFields "A.B.N"))) ∧
    (∃ r peer, (compile .standard (pairText "A.B" "")).outcome = .ok r ∧
      r.component? "A.B" = some peer ∧ peer.interface.notifications = [⟨"N"⟩]) ∧
    (Subscription.ofName "A.B.N").reference? = none ∧
    componentEntries .standard (pairText "A.B" "") =
      .ok [entryOf "A.B" (.mapping publisherFields), entryOf "C" (.mapping silentFields)] ∧
    componentEntries .standard
        (pairText "A.B" "utilization: \x7bnotifications: [A.B.N]\x7d, ") =
      .ok [entryOf "A.B" (.mapping publisherFields),
        entryOf "C" (.mapping (listeningFields "A.B.N"))] ∧
    (compile .standard (pairText "A.B" "utilization: \x7bnotifications: [A.B.N]\x7d, ")).outcome =
      .error ⟨.malformedReference,
        "utilized notification A.B.N of C must have the form <component>.<notification>",
        some "C"⟩ := by
  have entries : componentEntries .standard (pairText "A.B" "") =
      .ok [entryOf "A.B" (.mapping publisherFields), entryOf "C" (.mapping silentFields)] := by
    decide +kernel
  have entries' : componentEntries .standard
      (pairText "A.B" "utilization: \x7bnotifications: [A.B.N]\x7d, ") =
      .ok [entryOf "A.B" (.mapping publisherFields),
        entryOf "C" (.mapping (listeningFields "A.B.N"))] := by
    decide +kernel
  have built : (compile .standard (pairText "A.B" "")).outcome.toOption.map
      (fun r => (r.component? "A.B").map (·.interface.notifications)) =
      some (some [⟨"N"⟩]) := by
    rw [outcome_compile_of_entries entries]
    decide +kernel
  obtain ⟨r, hr, view⟩ := exists_ok_of_toOption_map built
  obtain ⟨peer, hpeer, notifications⟩ := Option.map_eq_some_iff.1 view
  refine ⟨listening_adds _, ⟨r, peer, hr, hpeer, notifications⟩, by decide +kernel, entries,
    entries', ?_⟩
  rw [outcome_compile_of_entries entries']
  decide +kernel

end ComponentSpec
