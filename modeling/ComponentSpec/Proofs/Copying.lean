import ComponentSpec.Proofs.Resolution
import Mathlib.Logic.Relation

/-!
# ComponentSpec.Proofs.Copying

An alias means the same as a copy of the definition that it leads to.

* `Replaces`: declarations in which one alias has been replaced by such a copy.
* `Replaces.exists_reached_iff`: the first phase goes through for both or for none.
* `Replaces.component?_eq`, `Replaces.subscribers_eq`: what names are bound to stays, and so does
  what subscribers there are.
* `Replaces.aliasTarget?_through`, `Replaces.aliasTarget?_other`: an alias that was reached through
  the replaced one stands for the copy now, all others for what they stood for.
* `compile_copy`: the same of documents.
-/

namespace ComponentSpec

open Relation (ReflTransGen TransGen)
open Yaml (Node Mapping)

/-! ## Declarations -/

/-- A link as it is declared. -/
def Links (ds : List (String × ComponentDecl)) (name target : String) : Prop :=
  (name, .uses target) ∈ ds

/-- An alias among declarations has been replaced by a copy of the definition that it leads to. Its
target is bound before it. -/
structure Replaces (o : Options) (name target root : String) (fields : Mapping)
    (ds ds' : List (String × ComponentDecl)) : Prop where
  split : ∃ before after, ds = before ++ (name, .uses target) :: after ∧
    ds' = before ++ (name, .definition fields) :: after ∧ target ∈ boundNames o before
  free : o.isReserved name = false
  leads : LeadsTo ds target root
  defined : (root, .definition fields) ∈ ds

namespace Replaces

variable {o : Options} {ds ds' : List (String × ComponentDecl)} {r r' : Registry}
  {name target root : String} {fields : Mapping}

theorem declared (h : Replaces o name target root fields ds ds') : Links ds name target := by
  obtain ⟨before, after, rfl, -, -⟩ := h.split
  exact List.mem_append_right _ List.mem_cons_self

theorem copied (h : Replaces o name target root fields ds ds') :
    (name, .definition fields) ∈ ds' := by
  obtain ⟨before, after, -, rfl, -⟩ := h.split
  exact List.mem_append_right _ List.mem_cons_self

/-- All declarations stay but the one that is replaced. -/
theorem mem_of_mem (h : Replaces o name target root fields ds ds') {n : String}
    {d : ComponentDecl} (hd : (n, d) ∈ ds) :
    (n = name ∧ d = .uses target) ∨ (n, d) ∈ ds' := by
  obtain ⟨before, after, rfl, rfl, -⟩ := h.split
  rcases List.mem_append.1 hd with hd | hd
  · exact .inr (List.mem_append_left _ hd)
  · rcases List.mem_cons.1 hd with hd | hd
    · exact .inl (Prod.mk.inj hd)
    · exact .inr (List.mem_append_right _ (List.mem_cons_of_mem _ hd))

theorem boundNames_eq (h : Replaces o name target root fields ds ds') :
    boundNames o ds = boundNames o ds' := by
  obtain ⟨before, after, rfl, rfl, -⟩ := h.split
  simp [boundNames]

/-- The alias leads to the definition that is copied. -/
theorem leadsTo (h : Replaces o name target root fields ds ds') : LeadsTo ds name root :=
  .uses h.declared h.leads

/-! ## The first phase -/

/-- Where the alias is added, the copy of the definition could be added as well, and the other way
round. After that both runs bind the same names. -/
theorem exists_reached_iff (h : Replaces o name target root fields ds ds') :
    (∃ r, Reached o ds r) ↔ ∃ r', Reached o ds' r' := by
  obtain ⟨before, after, rfl, rfl, back⟩ := h.split
  constructor
  · rintro ⟨r, reached⟩
    obtain ⟨c, hc⟩ : ∃ c, (Component.build name fields).outcome = .ok c := by
      have bound : name ∈ r.names := reached.coherent.mem_of_declared h.free h.declared
      obtain ⟨c, hc, -⟩ := reached.component?_of_leadsTo bound h.leadsTo h.defined
      exact ⟨c, (outcome_build_eq name root fields).trans hc⟩
    obtain ⟨r₀, r₁, h₀, hnew, hadd, run⟩ := (reached_split_iff h.free).1 reached
    have hadd' : r₀.Adds name (.definition fields) (r₀.define name c) := .definition hc
    have names := (hadd.names hnew).trans (hadd'.names hnew).symm
    obtain ⟨r', run', -⟩ := run_follows names run
    exact ⟨r', (reached_split_iff h.free).2 ⟨r₀, _, h₀, hnew, hadd', run'⟩⟩
  · rintro ⟨r', reached⟩
    obtain ⟨r₀, r₁, h₀, hnew, hadd, run⟩ := (reached_split_iff h.free).1 reached
    rw [← h₀.names] at back
    obtain ⟨object, ho⟩ := Registry.exists_object back
    have hadd' : r₀.Adds name (.uses target) (r₀.share name object (r₀.rootOf target)) := .uses ho
    have names := (hadd.names hnew).trans (hadd'.names hnew).symm
    obtain ⟨r, run', -⟩ := run_follows names run
    exact ⟨r, (reached_split_iff h.free).2 ⟨r₀, _, h₀, hnew, hadd', run'⟩⟩

theorem names_eq (h : Replaces o name target root fields ds ds') (hr : Reached o ds r)
    (hr' : Reached o ds' r') : r.names = r'.names := by
  rw [hr.names, hr'.names, h.boundNames_eq]

/-! ## Links -/

/-- What leads to the alias leads to the copy that takes its place. -/
theorem leadsTo_copy (h : Replaces o name target root fields ds ds') {n : String}
    (through : ReflTransGen (Links ds) n name) : LeadsTo ds' n name := by
  induction through using ReflTransGen.head_induction_on with
  | refl => exact .definition h.copied
  | head hlink _ ih =>
    rcases h.mem_of_mem hlink with ⟨rfl, -⟩ | hlink
    · exact .definition h.copied
    · exact .uses hlink ih

theorem leadsTo_root (h : Replaces o name target root fields ds ds') {n : String}
    (through : ReflTransGen (Links ds) n name) : LeadsTo ds n root := by
  induction through using ReflTransGen.head_induction_on with
  | refl => exact h.leadsTo
  | head hlink _ ih => exact .uses hlink ih

/-- What does not lead to the alias leads where it did before. -/
theorem leadsTo_other (h : Replaces o name target root fields ds ds') {n m : String}
    (hl : LeadsTo ds n m) (other : ¬ ReflTransGen (Links ds) n name) : LeadsTo ds' n m := by
  induction hl with
  | definition hd =>
    rcases h.mem_of_mem hd with ⟨-, hd⟩ | hd
    · cases hd
    · exact .definition hd
  | uses hd _ ih =>
    rcases h.mem_of_mem hd with ⟨rfl, -⟩ | hd'
    · exact absurd .refl other
    · exact .uses hd' (ih fun through => other (.head hd through))

theorem definition_mem (h : Replaces o name target root fields ds ds') {n : String} {f : Mapping}
    (hd : (n, .definition f) ∈ ds) : (n, .definition f) ∈ ds' := by
  rcases h.mem_of_mem hd with ⟨-, hd⟩ | hd
  · cases hd
  · exact hd

/-! ## What names are bound to -/

theorem component?_eq (h : Replaces o name target root fields ds ds') (hr : Reached o ds r)
    (hr' : Reached o ds' r') (n : String) : r.component? n = r'.component? n := by
  have names := h.names_eq hr hr'
  by_cases hm : n ∈ r.names
  · have hm' : n ∈ r'.names := names ▸ hm
    by_cases through : ReflTransGen (Links ds) n name
    · obtain ⟨c, hc, bound⟩ := hr.component?_of_leadsTo hm (h.leadsTo_root through) h.defined
      obtain ⟨c', hc', bound'⟩ := hr'.component?_of_leadsTo hm' (h.leadsTo_copy through) h.copied
      rw [outcome_build_eq name root, hc] at hc'
      cases hc'
      rw [bound, bound']
    · obtain ⟨m, hl⟩ := hr.coherent.leads n hm
      obtain ⟨f, hd⟩ := hl.defined
      obtain ⟨c, hc, bound⟩ := hr.component?_of_leadsTo hm hl hd
      obtain ⟨c', hc', bound'⟩ := hr'.component?_of_leadsTo hm' (h.leadsTo_other hl through)
        (h.definition_mem hd)
      rw [hc] at hc'
      cases hc'
      rw [bound, bound']
  · have hm' : n ∉ r'.names := names ▸ hm
    rw [Registry.component?_eq_none hm, Registry.component?_eq_none hm']

theorem subscribers_eq (h : Replaces o name target root fields ds ds') (hr : Reached o ds r)
    (hr' : Reached o ds' r') (publisher notification : String) :
    r.subscribers publisher notification = r'.subscribers publisher notification :=
  Registry.subscribers_congr (h.names_eq hr hr') (h.component?_eq hr hr') publisher notification

theorem aliasTarget?_alias (h : Replaces o name target root fields ds ds') (hr : Reached o ds r) :
    r.aliasTarget? name = some root := by
  have bound := hr.coherent.mem_of_declared h.free h.declared
  obtain ⟨ht, ha⟩ := hr.coherent.uses _ _ h.declared bound
  rw [ha, hr.coherent.rootOf_of_leadsTo h.leads ht]

theorem aliasTarget?_copy (h : Replaces o name target root fields ds ds')
    (hr' : Reached o ds' r') : r'.aliasTarget? name = none :=
  hr'.coherent.definition _ _ h.copied (hr'.coherent.mem_of_declared h.free h.copied)

theorem aliasTarget?_through (h : Replaces o name target root fields ds ds')
    (hr : Reached o ds r) (hr' : Reached o ds' r') {n : String} (hm : n ∈ r.names)
    (ne : n ≠ name) (through : TransGen (Links ds) n name) :
    r.aliasTarget? n = some root ∧ r'.aliasTarget? n = some name := by
  have hm' : n ∈ r'.names := h.names_eq hr hr' ▸ hm
  have before := hr.coherent.rootOf_of_leadsTo (h.leadsTo_root through.to_reflTransGen) hm
  have after := hr'.coherent.rootOf_of_leadsTo (h.leadsTo_copy through.to_reflTransGen) hm'
  obtain ⟨t, hlink, -⟩ := TransGen.head'_iff.1 through
  have ha := (hr.coherent.uses _ _ hlink hm).2
  refine ⟨?_, ?_⟩
  · rw [ha, ← Registry.rootOf_of_alias ha, before]
  · rw [hr'.coherent.aliasTarget?_eq, after, if_neg ne.symm]

theorem aliasTarget?_other (h : Replaces o name target root fields ds ds')
    (hr : Reached o ds r) (hr' : Reached o ds' r') {n : String} (ne : n ≠ name)
    (other : ¬ TransGen (Links ds) n name) : r.aliasTarget? n = r'.aliasTarget? n := by
  have names := h.names_eq hr hr'
  by_cases hm : n ∈ r.names
  · have hm' : n ∈ r'.names := names ▸ hm
    have other' : ¬ ReflTransGen (Links ds) n name := by
      rw [Relation.reflTransGen_iff_eq_or_transGen]
      rintro (rfl | through)
      · exact ne rfl
      · exact other through
    obtain ⟨m, hl⟩ := hr.coherent.leads n hm
    rw [hr.coherent.aliasTarget?_eq, hr'.coherent.aliasTarget?_eq,
      hr.coherent.rootOf_of_leadsTo hl hm,
      hr'.coherent.rootOf_of_leadsTo (h.leadsTo_other hl other') hm']
  · have hm' : n ∉ r'.names := names ▸ hm
    rw [hr.coherent.aliasTarget?_eq_none hm, hr'.coherent.aliasTarget?_eq_none hm']

end Replaces

/-! ## Documents -/

/-- The declarations of those entries that can be read. -/
def readable (entries : List Node) : List (String × ComponentDecl) :=
  entries.filterMap fun entry => (ComponentDecl.readNamed entry).outcome.toOption

theorem readable_of_readAll {entries : List Node} {ds : List (String × ComponentDecl)}
    (h : (ComponentDecl.readAll entries).outcome = .ok ds) : readable entries = ds := by
  have read := congrArg (List.filterMap Except.toOption) (ComponentDecl.readAll_ok_iff.1 h)
  rw [List.filterMap_map, List.filterMap_map] at read
  exact read.trans (List.filterMap_some ..)

theorem mem_readable {entries : List Node} {entry : Node} {d : String × ComponentDecl}
    (hentry : entry ∈ entries) (h : (ComponentDecl.readNamed entry).outcome = .ok d) :
    d ∈ readable entries :=
  List.mem_filterMap.2 ⟨entry, hentry, by rw [h]; rfl⟩

theorem decode_split_iff {o : Options} {text : String} {before after : List Node} {entry : Node}
    {d : String × ComponentDecl} {ds : List (String × ComponentDecl)}
    (h : componentEntries o text = .ok (before ++ entry :: after))
    (hd : (ComponentDecl.readNamed entry).outcome = .ok d) :
    decode o text = .ok ds ↔ ∃ ds₁ ds₂, ds = ds₁ ++ d :: ds₂ ∧
      (ComponentDecl.readAll before).outcome = .ok ds₁ ∧
        (ComponentDecl.readAll after).outcome = .ok ds₂ := by
  rw [decode_of_entries h, readAll_split_iff]
  constructor
  · rintro ⟨ds₁, d', ds₂, rfl, hb, hd', ha⟩
    cases hd.symm.trans hd'
    exact ⟨ds₁, ds₂, rfl, hb, ha⟩
  · rintro ⟨ds₁, ds₂, rfl, hb, ha⟩
    exact ⟨ds₁, d, ds₂, rfl, hb, hd, ha⟩

/-- An entry with the name of one entry and the body of another one. -/
def TakesBody (entry source entry' : Node) : Prop :=
  ∃ key body key' body', entry.asMapping? = some [(key, body)] ∧
    source.asMapping? = some [(key', body')] ∧ entry'.asMapping? = some [(key, body')]

/-- The name of an entry does not count for how its body is read. -/
theorem read_ok_congr {name name' : String} {body : Node} {d : ComponentDecl}
    (h : (ComponentDecl.read name body).outcome = .ok d) :
    (ComponentDecl.read name' body).outcome = .ok d := read_ok_iff.2 (read_ok_iff.1 h)

theorem TakesBody.readNamed {entry source entry' : Node} {name root : String}
    {d d' : ComponentDecl} (copy : TakesBody entry source entry')
    (h : (ComponentDecl.readNamed entry).outcome = .ok (name, d))
    (hsource : (ComponentDecl.readNamed source).outcome = .ok (root, d')) :
    (ComponentDecl.readNamed entry').outcome = .ok (name, d') := by
  obtain ⟨key, body, key', body', hm, hm', hcopy⟩ := copy
  obtain ⟨k, b, hm₁, hname, -⟩ := readNamed_ok_iff.1 h
  obtain ⟨k', b', hm₁', -, hd'⟩ := readNamed_ok_iff.1 hsource
  cases hm.symm.trans hm₁
  cases hm'.symm.trans hm₁'
  exact readNamed_ok_iff.2 ⟨key, body', hcopy, hname, read_ok_congr hd'⟩

/-- What documents differ in of which one has a copy of a definition where the other one has an
alias of it: in the targets of the aliases. -/
structure DiffersInTargets (ds : List (String × ComponentDecl)) (name root : String)
    (r r' : Registry) : Prop where
  names : r.names = r'.names
  components : ∀ n, r.component? n = r'.component? n
  subscribers : ∀ publisher notification,
    r.subscribers publisher notification = r'.subscribers publisher notification
  linked : r.aliasTarget? name = some root
  copied : r'.aliasTarget? name = none
  through : ∀ n ∈ r.names, n ≠ name → TransGen (Links ds) n name →
    r.aliasTarget? n = some root ∧ r'.aliasTarget? n = some name
  other : ∀ n, n ≠ name → ¬ TransGen (Links ds) n name → r.aliasTarget? n = r'.aliasTarget? n

theorem Replaces.differs {o : Options} {ds ds' : List (String × ComponentDecl)}
    {r r' : Registry} {name target root : String} {fields : Mapping}
    (h : Replaces o name target root fields ds ds') (hr : Reached o ds r)
    (hr' : Reached o ds' r') : DiffersInTargets ds name root r r' where
  names := h.names_eq hr hr'
  components := h.component?_eq hr hr'
  subscribers := h.subscribers_eq hr hr'
  linked := h.aliasTarget?_alias hr
  copied := h.aliasTarget?_copy hr'
  through := fun _ hm ne through => h.aliasTarget?_through hr hr' hm ne through
  other := fun _ ne other => h.aliasTarget?_other hr hr' ne other

section Copy

variable {o : Options} {text text' : String} {before after : List Node} {entry entry' source : Node}
  {name target root : String} {fields : Mapping}

theorem Replaces.compile_iff {ds ds' : List (String × ComponentDecl)}
    (h : Replaces o name target root fields ds ds') (hds : decode o text = .ok ds)
    (hds' : decode o text' = .ok ds') :
    (∃ r, (compile o text).outcome = .ok r) ↔ ∃ r, (compile o text').outcome = .ok r := by
  rw [exists_compile_iff hds, exists_compile_iff hds']
  constructor
  · rintro ⟨r, hr, checked⟩
    obtain ⟨r', hr'⟩ := h.exists_reached_iff.1 ⟨r, hr⟩
    exact ⟨r', hr', (hr.violation?_congr hr' (h.component?_eq hr hr')).1 checked⟩
  · rintro ⟨r', hr', checked⟩
    obtain ⟨r, hr⟩ := h.exists_reached_iff.2 ⟨r', hr'⟩
    exact ⟨r, hr, (hr.violation?_congr hr' (h.component?_eq hr hr')).2 checked⟩

/-- The declarations of the entries, once both parts around the alias can be read. -/
theorem replaces_of_readAll {ds₁ ds₂ : List (String × ComponentDecl)}
    (link : (ComponentDecl.readNamed entry).outcome = .ok (name, .uses target))
    (free : o.isReserved name = false) (earlier : target ∈ boundNames o (readable before))
    (leads : LeadsTo (readable (before ++ entry :: after)) target root)
    (hsource : source ∈ before ++ entry :: after)
    (defined : (ComponentDecl.readNamed source).outcome = .ok (root, .definition fields))
    (hb : (ComponentDecl.readAll before).outcome = .ok ds₁)
    (ha : (ComponentDecl.readAll after).outcome = .ok ds₂) :
    readable (before ++ entry :: after) = ds₁ ++ (name, .uses target) :: ds₂ ∧
      Replaces o name target root fields (ds₁ ++ (name, .uses target) :: ds₂)
        (ds₁ ++ (name, .definition fields) :: ds₂) := by
  have read := readable_of_readAll (readAll_split_iff.2 ⟨ds₁, _, ds₂, rfl, hb, link, ha⟩)
  have declared := mem_readable hsource defined
  rw [readable_of_readAll hb] at earlier
  rw [read] at leads declared
  exact ⟨read, ⟨ds₁, ds₂, rfl, rfl, earlier⟩, free, leads, declared⟩

/-- An alias whose target is declared before it, and leads to a definition, can be replaced by a
copy of that definition. The document compiles as before, and names are bound to the components they
were bound to. What changes is that the name is no alias any longer, and that the aliases that lead
to it have it as their target. -/
theorem compile_copy (h : componentEntries o text = .ok (before ++ entry :: after))
    (h' : componentEntries o text' = .ok (before ++ entry' :: after))
    (link : (ComponentDecl.readNamed entry).outcome = .ok (name, .uses target))
    (free : o.isReserved name = false) (earlier : target ∈ boundNames o (readable before))
    (leads : LeadsTo (readable (before ++ entry :: after)) target root)
    (hsource : source ∈ before ++ entry :: after)
    (defined : (ComponentDecl.readNamed source).outcome = .ok (root, .definition fields))
    (copy : TakesBody entry source entry') :
    ((∃ r, (compile o text).outcome = .ok r) ↔ ∃ r, (compile o text').outcome = .ok r) ∧
    ∀ r r', (compile o text).outcome = .ok r → (compile o text').outcome = .ok r' →
      DiffersInTargets (readable (before ++ entry :: after)) name root r r' := by
  have copied := copy.readNamed link defined
  refine ⟨⟨?_, ?_⟩, ?_⟩
  · rintro ⟨r, hr⟩
    obtain ⟨ds, hds, -⟩ := compile_ok_iff.1 hr
    obtain ⟨ds₁, ds₂, rfl, hb, ha⟩ := (decode_split_iff h link).1 hds
    have hds' := (decode_split_iff h' copied).2 ⟨ds₁, ds₂, rfl, hb, ha⟩
    have replaces := (replaces_of_readAll link free earlier leads hsource defined hb ha).2
    exact (replaces.compile_iff hds hds').1 ⟨r, hr⟩
  · rintro ⟨r', hr'⟩
    obtain ⟨ds', hds', -⟩ := compile_ok_iff.1 hr'
    obtain ⟨ds₁, ds₂, rfl, hb, ha⟩ := (decode_split_iff h' copied).1 hds'
    have hds := (decode_split_iff h link).2 ⟨ds₁, ds₂, rfl, hb, ha⟩
    have replaces := (replaces_of_readAll link free earlier leads hsource defined hb ha).2
    exact (replaces.compile_iff hds hds').2 ⟨r', hr'⟩
  · intro r r' hr hr'
    obtain ⟨ds, hds, reached, -⟩ := compile_ok_iff.1 hr
    obtain ⟨ds', hds', reached', -⟩ := compile_ok_iff.1 hr'
    obtain ⟨ds₁, ds₂, rfl, hb, ha⟩ := (decode_split_iff h link).1 hds
    rw [(decode_split_iff h' copied).2 ⟨ds₁, ds₂, rfl, hb, ha⟩] at hds'
    cases hds'
    obtain ⟨read, replaces⟩ := replaces_of_readAll link free earlier leads hsource defined hb ha
    rw [read]
    exact replaces.differs reached reached'

end Copy

/-- A definition, an alias of it and an alias of that alias. -/
def chainText : String :=
  "components:\n- A: &x \x7bstatemachine: \x7bstates: [On], start: On\x7d\x7d\n" ++
  "- B: \x7busing: A\x7d\n- C: \x7busing: B\x7d"

/-- The same with a copy of the definition in place of the first alias. -/
def copiedText : String :=
  "components:\n- A: &x \x7bstatemachine: \x7bstates: [On], start: On\x7d\x7d\n" ++
  "- B: *x\n- C: \x7busing: B\x7d"

def plainEntry (name : String) : Node := .mapping [(.text name, .mapping plainFields)]

theorem copied_same_components : ∃ r r', (compile .standard chainText).outcome = .ok r ∧
    (compile .standard copiedText).outcome = .ok r' ∧ r.names = ["A", "B", "C"] ∧
    (∀ n, r.component? n = r'.component? n) ∧
    r.aliasTarget? "C" = some "A" ∧ r'.aliasTarget? "C" = some "B" := by
  have entries : componentEntries .standard chainText =
      .ok ([plainEntry "A"] ++ linkEntry "B" "A" :: [linkEntry "C" "B"]) := by decide +kernel
  have entries' : componentEntries .standard copiedText =
      .ok ([plainEntry "A"] ++ plainEntry "B" :: [linkEntry "C" "B"]) := by decide +kernel
  have read : readable ([plainEntry "A"] ++ linkEntry "B" "A" :: [linkEntry "C" "B"]) =
      [("A", .definition plainFields), ("B", .uses "A"), ("C", .uses "B")] := rfl
  have built : (compile .standard chainText).outcome.toOption.map Registry.names =
      some ["A", "B", "C"] := by
    rw [outcome_compile_of_entries entries]
    decide +kernel
  obtain ⟨r, hr, names⟩ := exists_ok_of_toOption_map built
  obtain ⟨both, differs⟩ := compile_copy entries entries' rfl rfl (by decide)
    (.definition (by rw [read]; exact List.mem_cons_self)) List.mem_cons_self rfl
    ⟨_, _, _, _, rfl, rfl, rfl⟩
  obtain ⟨r', hr'⟩ := both.1 ⟨r, hr⟩
  have differs := differs r r' hr hr'
  rw [read] at differs
  have through : TransGen (Links [("A", .definition plainFields), ("B", .uses "A"),
      ("C", .uses "B")]) "C" "B" := .single (by simp [Links])
  obtain ⟨before, after⟩ := differs.through "C" (by rw [names]; decide) (by decide) through
  exact ⟨r, r', hr, hr', names, differs.components, before, after⟩

end ComponentSpec
