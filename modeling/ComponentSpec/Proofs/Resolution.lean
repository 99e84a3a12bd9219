import ComponentSpec.Proofs.Closure
import ComponentSpec.Proofs.Failure

/-!
# ComponentSpec.Proofs.Resolution

What the first phase makes of declarations, said without the run: whether it goes through, and what
is then bound to each name.

* `boundNames`: the names that declarations bind, in order.
* `Buildable`: the condition for the first phase to go through (`exists_reached_iff`). The order of
  the declarations matters for links only, which go back.
* `Reached.component?_of_leadsTo`: the component under a name is that of the definition it leads to.
* `Registry.Within`: what one registry binds, another one binds to the same component. References
  that are met stay so (`Component.IsLinked.mono`).
* `Reached.violation?_congr`, `Registry.subscribers_congr`: references are checked and subscribers
  are found by the components under the names alone.
* `readNamed_ok_iff`, `readAll_split_iff`: which declarations the entries of a document stand for.
-/

namespace ComponentSpec

open Yaml (Node Mapping)

variable {o : Options} {ds : List (String × ComponentDecl)} {r r' : Registry} {name : String}
  {c : Component}

/-! ## Names -/

/-- The names that declarations bind: all but the reserved ones. -/
def boundNames (o : Options) (ds : List (String × ComponentDecl)) : List String :=
  (ds.map Prod.fst).filter fun name => !o.isReserved name

theorem mem_boundNames :
    name ∈ boundNames o ds ↔ o.isReserved name = false ∧ ∃ d, (name, d) ∈ ds := by
  simp [boundNames, and_comm]

theorem boundNames_append (o : Options) (ds ds' : List (String × ComponentDecl)) :
    boundNames o (ds ++ ds') = boundNames o ds ++ boundNames o ds' := by
  simp [boundNames]

theorem Reached.names (h : Reached o ds r) : r.names = boundNames o ds := h.coherent.names

/-! ## Registries within others -/

/-- What a registry binds, another one binds to the same component. -/
def Registry.Within (r r' : Registry) : Prop :=
  ∀ name c, r.component? name = some c → r'.component? name = some c

namespace Registry

theorem within_of_eq (h : ∀ name, r.component? name = r'.component? name) : r.Within r' :=
  fun name _ hc => (h name).symm.trans hc

theorem Adds.object?_eq {d : ComponentDecl} (new : r.IsNew name) (h : r.Adds name d r')
    {n : String} (hm : n ∈ r.names) : r'.object? n = r.object? n := by
  have ne := Coherent.ne_of_mem new.unbound n hm
  cases h with
  | definition _ => rw [object?_define new, if_neg ne]
  | uses _ => rw [object?_share new, if_neg ne]

theorem Adds.component?_eq {d : ComponentDecl} (new : r.IsNew name) (h : r.Adds name d r')
    {n : String} (hm : n ∈ r.names) : r'.component? n = r.component? n := by
  rw [component?, component?, h.object?_eq new hm]

theorem Adds.within {d : ComponentDecl} (new : r.IsNew name) (h : r.Adds name d r') :
    r.Within r' := by
  intro n c hc
  rw [h.component?_eq new (mem_names_of_component? hc), hc]

theorem Adds.names {d : ComponentDecl} (hnew : name ∉ r.names) (h : r.Adds name d r') :
    r'.names = r.names ++ [name] := by
  cases h with
  | definition _ => exact NameMap.names_insert_of_notMem hnew _
  | uses _ => exact NameMap.names_insert_of_notMem hnew _

end Registry

theorem Subscription.IsMet.mono {s : Subscription} (h : s.IsMet r c) (within : r.Within r') :
    s.IsMet r' c := by
  obtain ⟨publisher, notification, peer, hs, hpeer, hn⟩ := h.reference
  exact ⟨⟨publisher, notification, peer, hs, within _ _ hpeer, hn⟩, h.change⟩

/-- References that are met stay so when more is bound. -/
theorem Component.IsLinked.mono (h : c.IsLinked r) (within : r.Within r') : c.IsLinked r' :=
  { h with subscriptions := fun s hs => (h.subscriptions s hs).mono within }

/-! ## Definitions and links -/

/-- The name of a component does not count for what is built. -/
theorem outcome_build_eq (name name' : String) (fields : Mapping) :
    (Component.build name fields).outcome = (Component.build name' fields).outcome := by
  simp only [Component.build, Traced.bind_eq, Traced.outcome_andThen, Traced.outcome_lift]
  rfl

theorem LeadsTo.defined {root : String} (h : LeadsTo ds name root) :
    ∃ fields, (root, .definition fields) ∈ ds := by
  induction h with
  | definition hd => exact ⟨_, hd⟩
  | uses _ _ ih => exact ih

/-- A definition that has been read is bound to what is built from it. -/
theorem Reached.definition_built (h : Reached o ds r) {fields : Mapping}
    (hd : (name, .definition fields) ∈ ds) (hn : o.isReserved name = false) :
    ∃ c, (Component.build name fields).outcome = .ok c ∧ r.component? name = some c := by
  induction h with
  | start => cases hd
  | skip _ hr ih =>
    rcases List.mem_append.1 hd with hd | hd
    · exact ih hd
    · obtain ⟨rfl, -⟩ := Prod.mk.inj (List.mem_singleton.1 hd)
      rw [hn] at hr
      cases hr
  | add reached _ hnew hadd ih =>
    have new := reached.coherent.isNew hnew
    rcases List.mem_append.1 hd with hd | hd
    · obtain ⟨c, hc, bound⟩ := ih hd
      exact ⟨c, hc, hadd.within new _ _ bound⟩
    · obtain ⟨rfl, rfl⟩ := Prod.mk.inj (List.mem_singleton.1 hd)
      cases hadd with
      | @definition _ c hc => exact ⟨c, hc, by rw [Registry.component?_define new, if_pos rfl]⟩

theorem Coherent.component?_rootOf (h : Coherent o ds r) (name : String) :
    r.component? (r.rootOf name) = r.component? name := by
  rw [Registry.component?, Registry.component?, h.object?_rootOf]

/-- A name is bound to the component of the definition that it leads to. -/
theorem Reached.component?_of_leadsTo (h : Reached o ds r) (hm : name ∈ r.names) {root : String}
    (hl : LeadsTo ds name root) {fields : Mapping} (hd : (root, .definition fields) ∈ ds) :
    ∃ c, (Component.build root fields).outcome = .ok c ∧ r.component? name = some c := by
  have coherent := h.coherent
  have hroot : r.rootOf name = root := coherent.rootOf_of_leadsTo hl hm
  have free : o.isReserved root = false := by
    rw [← hroot]
    exact coherent.not_reserved (coherent.rootOf_mem hm)
  obtain ⟨c, hc, bound⟩ := h.definition_built hd free
  exact ⟨c, hc, by rw [← coherent.component?_rootOf, hroot, bound]⟩

/-- An alias has its root as the target, all other names have none. -/
theorem Coherent.aliasTarget?_eq (h : Coherent o ds r) (name : String) :
    r.aliasTarget? name = if r.rootOf name = name then none else some (r.rootOf name) := by
  cases ha : r.aliasTarget? name with
  | none => rw [if_pos (Registry.rootOf_of_not_alias ha)]
  | some root =>
    rw [Registry.rootOf_of_alias ha, if_neg]
    rintro rfl
    rw [(h.target _ _ ha).2.1] at ha
    cases ha

theorem Coherent.aliasTarget?_eq_none (h : Coherent o ds r) (hm : name ∉ r.names) :
    r.aliasTarget? name = none := (h.isNew hm).aliasTarget?

/-! ## The first phase -/

/-- Links name what has been bound before them. -/
def LinksBack (o : Options) (ds : List (String × ComponentDecl)) : Prop :=
  ∀ before name target after, ds = before ++ (name, .uses target) :: after →
    o.isReserved name = false → target ∈ boundNames o before

/-- Declarations of different names, whose definitions give components and whose links go back.
Reserved names do not count. -/
structure Buildable (o : Options) (ds : List (String × ComponentDecl)) : Prop where
  distinct : (boundNames o ds).Nodup
  built : ∀ name fields, (name, .definition fields) ∈ ds → o.isReserved name = false →
    ∃ c, (Component.build name fields).outcome = .ok c
  back : LinksBack o ds

theorem Reached.unique (h : Reached o ds r) (h' : Reached o ds r') : r = r' := by
  have same := (reached_iff.1 h).symm.trans (reached_iff.1 h')
  cases same
  rfl

/-- The step of a run that adds a declaration. -/
theorem reached_split_iff {before after : List (String × ComponentDecl)} {d : ComponentDecl}
    (hn : o.isReserved name = false) :
    Reached o (before ++ (name, d) :: after) r ↔
      ∃ r₀ r₁, Reached o before r₀ ∧ name ∉ r₀.names ∧ r₀.Adds name d r₁ ∧
        after.foldlM (assembleOne o) r₁ = .ok r := by
  constructor
  · intro h
    have run := reached_iff_foldlM.1 h
    rw [List.foldlM_append] at run
    obtain ⟨r₀, h₀, run⟩ := bind_eq_ok_iff.1 run
    obtain ⟨r₁, h₁, run⟩ := bind_eq_ok_iff.1 run
    rcases assembleOne_ok_iff.1 h₁ with ⟨hr, -⟩ | ⟨-, hnew, hadd⟩
    · rw [hn] at hr
      cases hr
    · exact ⟨r₀, r₁, reached_iff_foldlM.2 h₀, hnew, hadd, run⟩
  · rintro ⟨r₀, r₁, h₀, hnew, hadd, run⟩
    simpa using (h₀.add hn hnew hadd).run run

theorem Reached.buildable (h : Reached o ds r) : Buildable o ds where
  distinct := by
    rw [← h.names]
    exact r.components.nodup
  built := by
    intro name fields hd hn
    obtain ⟨c, hc, -⟩ := h.definition_built hd hn
    exact ⟨c, hc⟩
  back := by
    rintro before name target after rfl hn
    obtain ⟨r₀, r₁, h₀, -, hadd, -⟩ := (reached_split_iff hn).1 h
    cases hadd with
    | uses ho =>
      rw [← h₀.names]
      exact Registry.mem_names_of_object? ho

theorem Buildable.allBuilt (h : Buildable o ds) : AllBuilt o ds := by
  rintro before name d after rfl hn f rejects
  cases rejects with
  | repeated hd =>
    have distinct := h.distinct
    rw [boundNames_append, List.nodup_append] at distinct
    have first : name ∈ boundNames o before := mem_boundNames.2 ⟨hn, _, hd⟩
    have second : name ∈ boundNames o ((name, d) :: after) :=
      mem_boundNames.2 ⟨hn, d, List.mem_cons_self⟩
    exact distinct.2.2 name first name second rfl
  | @faulty r₀ f _ h₀ hd =>
    cases d with
    | uses target =>
      have bound : target ∈ r₀.names := by
        rw [(reached_iff.2 h₀).names]
        exact h.back before name target after rfl hn
      rw [assemble_aliasOf_iff.2 ⟨rfl, bound⟩] at hd
      cases hd
    | definition fields =>
      obtain ⟨c, hc⟩ := h.built name fields (by simp) hn
      rw [assemble_component_iff.2 ⟨fields, rfl, hc⟩] at hd
      cases hd

/-- The first phase goes through exactly if the declarations are buildable. -/
theorem exists_reached_iff : (∃ r, Reached o ds r) ↔ Buildable o ds :=
  ⟨fun ⟨_, h⟩ => h.buildable, fun h => allBuilt_iff.1 h.allBuilt⟩

/-- Whether a declaration can be added is decided by the names that are bound. -/
theorem assembleOne_follows {d : String × ComponentDecl} {s r' : Registry}
    (names : r.names = r'.names) (h : assembleOne o r d = .ok s) :
    ∃ s', assembleOne o r' d = .ok s' ∧ s.names = s'.names := by
  obtain ⟨name, d⟩ := d
  rcases assembleOne_ok_iff.1 h with ⟨hr, rfl⟩ | ⟨hn, hnew, hadd⟩
  · exact ⟨r', assembleOne_ok_iff.2 (.inl ⟨hr, rfl⟩), names⟩
  · have hnew' : name ∉ r'.names := names ▸ hnew
    obtain ⟨s', hadd'⟩ : ∃ s', r'.Adds name d s' := by
      cases hadd with
      | definition hc => exact ⟨_, .definition hc⟩
      | uses ho =>
        have bound := Registry.mem_names_of_object? ho
        rw [names] at bound
        obtain ⟨object, ho'⟩ := Registry.exists_object bound
        exact ⟨_, .uses ho'⟩
    refine ⟨s', assembleOne_ok_iff.2 (.inr ⟨hn, hnew', hadd'⟩), ?_⟩
    rw [hadd.names hnew, hadd'.names hnew', names]

/-- So a run that succeeds also succeeds from another registry of the same names. -/
theorem run_follows {s r' : Registry} (names : r.names = r'.names)
    (run : ds.foldlM (assembleOne o) r = .ok s) :
    ∃ s', ds.foldlM (assembleOne o) r' = .ok s' ∧ s.names = s'.names :=
  @foldlM_follows _ _ _ _ (fun r r' : Registry => r.names = r'.names) (assembleOne o)
    (assembleOne o) assembleOne_follows ds r s r' names run

/-! ## References and subscribers -/

/-- References are checked for the definitions alone, but they are met under all names or not at
all. -/
theorem Reached.violation?_eq_none_iff (h : Reached o ds r) :
    r.violation? = none ↔ ∀ name c, r.component? name = some c → c.IsLinked r := by
  constructor
  · intro checked name c hc
    obtain ⟨object, ho, rfl⟩ := Option.map_eq_some_iff.1 hc
    have entry : (name, object) ∈ r.components.entries := NameMap.mem_entries_of_get? ho
    exact h.linked checked _ (List.mem_map_of_mem entry)
  · intro linked
    refine Registry.violation?_eq_none_iff.2 fun b hb => ?_
    have entry := (Registry.mem_bindings (List.mem_filter.1 hb).1).1
    exact linked b.name _ (Registry.component?_of_mem_entries entry)

theorem Reached.violation?_congr {o' : Options} {ds' : List (String × ComponentDecl)}
    (h : Reached o ds r) (h' : Reached o' ds' r')
    (same : ∀ name, r.component? name = r'.component? name) :
    r.violation? = none ↔ r'.violation? = none := by
  have within := Registry.within_of_eq same
  have within' := Registry.within_of_eq fun name => (same name).symm
  rw [h.violation?_eq_none_iff, h'.violation?_eq_none_iff]
  constructor
  · exact fun linked name c hc => (linked name c (within' _ _ hc)).mono within
  · exact fun linked name c hc => (linked name c (within _ _ hc)).mono within'

/-- Whether a component subscribes to a notification. -/
def Component.subscribesTo (publisher notification : String) (c : Component) : Bool :=
  c.subscriptions.any fun s => s.reference? == some (publisher, notification)

theorem Registry.subscribers_eq (r : Registry) (publisher notification : String) :
    r.subscribers publisher notification = r.names.filter fun name =>
      (r.component? name).any (Component.subscribesTo publisher notification) := by
  unfold subscribers bindings names NameMap.names
  rw [List.filter_map, List.map_map, List.filter_map]
  refine congrArg (List.map Prod.fst) (List.filter_congr fun e he => ?_)
  have bound : r.component? e.1 = some e.2.component := component?_of_mem_entries he
  simp only [Function.comp_apply, bound, Option.any_some]
  rfl

theorem Registry.subscribers_congr (names : r.names = r'.names)
    (same : ∀ name, r.component? name = r'.component? name) (publisher notification : String) :
    r.subscribers publisher notification = r'.subscribers publisher notification := by
  simp only [subscribers_eq, names, same]

/-! ## Entries -/

theorem decode_of_entries {text : String} {entries : List Node}
    (h : componentEntries o text = .ok entries) :
    decode o text = (ComponentDecl.readAll entries).outcome := by
  rw [decode, h]
  rfl

/-- The body of a component with `using` declares an alias, one with a `statemachine` a
definition. -/
theorem read_ok_iff {body : Node} {d : ComponentDecl} :
    (ComponentDecl.read name body).outcome = .ok d ↔ ∃ fields, body.asMapping? = some fields ∧
      ((∃ v target, fields.get? "using" = some v ∧ scalarText? v = some target ∧
          d = .uses target) ∨
        (fields.get? "using" = none ∧ (fields.field? "statemachine").isSome ∧
          d = .definition fields)) := by
  unfold ComponentDecl.read
  simp only [Traced.bind_eq, Traced.outcome_andThen, Traced.outcome_lift, bind_eq_ok_iff,
    asMapping_ok_iff]
  refine exists_congr fun fields => and_congr_right fun _ => ?_
  cases hu : fields.get? "using" with
  | some v =>
    simp only [Traced.outcome_andThen, Traced.outcome_lift, bind_eq_ok_iff, asName_ok_iff]
    constructor
    · rintro ⟨target, hv, h⟩
      -- fields beside `using` are reported, which is no part of the outcome
      refine .inl ⟨v, target, rfl, hv, ?_⟩
      split at h <;> exact (Except.ok.inj h).symm
    · rintro (⟨_, target, h, hv, rfl⟩ | ⟨h, -⟩)
      · cases h
        refine ⟨target, hv, ?_⟩
        split <;> rfl
      · cases h
  | none =>
    cases hs : fields.field? "statemachine" <;> simp [eq_comm]

theorem readNamed_ok_iff {entry : Node} {d : ComponentDecl} :
    (ComponentDecl.readNamed entry).outcome = .ok (name, d) ↔
      ∃ key body, entry.asMapping? = some [(key, body)] ∧ scalarText? key = some name ∧
        (ComponentDecl.read name body).outcome = .ok d := by
  unfold ComponentDecl.readNamed
  simp only [Traced.bind_eq, Traced.outcome_andThen, Traced.outcome_lift, Traced.pure_eq,
    Traced.outcome_ok, bind_eq_ok_iff]
  constructor
  · rintro ⟨m, hm, ⟨n, body⟩, hs, d', hd, h⟩
    cases h
    obtain ⟨key, rfl, hk⟩ := singleEntry_ok_iff.1 hs
    exact ⟨key, body, asMapping_ok_iff.1 hm, hk, hd⟩
  · rintro ⟨key, body, hm, hk, hd⟩
    exact ⟨_, asMapping_ok_iff.2 hm, (name, body), singleEntry_ok_iff.2 ⟨key, rfl, hk⟩, d, hd, rfl⟩

theorem readAll_split_iff {before after : List Node} {entry : Node} :
    (ComponentDecl.readAll (before ++ entry :: after)).outcome = .ok ds ↔
      ∃ ds₁ d ds₂, ds = ds₁ ++ d :: ds₂ ∧ (ComponentDecl.readAll before).outcome = .ok ds₁ ∧
        (ComponentDecl.readNamed entry).outcome = .ok d ∧
        (ComponentDecl.readAll after).outcome = .ok ds₂ := by
  simp only [ComponentDecl.readAll_ok_iff, List.map_append, List.map_cons]
  constructor
  · intro h
    obtain ⟨ds₁, tail, rfl, h₁, h⟩ := List.map_eq_append_iff.1 h.symm
    obtain ⟨d, ds₂, rfl, hd, h₂⟩ := List.map_eq_cons_iff.1 h
    exact ⟨ds₁, d, ds₂, rfl, h₁.symm, hd.symm, h₂.symm⟩
  · rintro ⟨ds₁, d, ds₂, rfl, h₁, hd, h₂⟩
    rw [h₁, hd, h₂, List.map_append, List.map_cons]

/-- An entry that declares an alias. -/
def linkEntry (name target : String) : Node :=
  .mapping [(.text name, .mapping [(.text "using", .text target)])]

/-- What the entries of a list of components compile to. -/
def compileEntries (o : Options) (entries : List Node) : Except Diagnostic Registry := do
  let ds ← (ComponentDecl.readAll entries).outcome.mapError .ofFault
  let r ← (assembleAll o .empty ds).outcome
  checkReferences r
  return r

theorem outcome_compile_of_entries {text : String} {entries : List Node}
    (h : componentEntries o text = .ok entries) :
    (compile o text).outcome = compileEntries o entries := by
  rw [outcome_compile, decode_of_entries h]
  rfl

theorem exists_compile_iff {text : String} (h : decode o text = .ok ds) :
    (∃ r, (compile o text).outcome = .ok r) ↔ ∃ r, Reached o ds r ∧ r.violation? = none := by
  refine exists_congr fun r => compile_ok_iff.trans ?_
  simp [h]

theorem linksBack_of_compile {text : String} (h : (compile o text).outcome = .ok r)
    (hds : decode o text = .ok ds) : LinksBack o ds := by
  obtain ⟨ds', hds', reached, -⟩ := compile_ok_iff.1 h
  rw [hds] at hds'
  cases hds'
  exact reached.buildable.back

end ComponentSpec
