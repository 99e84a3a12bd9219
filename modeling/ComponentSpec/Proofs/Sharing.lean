import ComponentSpec.Proofs.Assembly

/-!
# ComponentSpec.Proofs.Sharing

Aliases and the objects they share, in every registry that the first phase comes to.

* `LeadsTo`: the definition that a name leads to by the links as they are declared.
* `Coherent`: the invariant. An alias stands for a definition before it and shares its object, and
  two names share an object only if they stand for the same definition.
* `Coherent.define`, `Coherent.share`: one step keeps it; `Reached.coherent`: so every run does.
-/

namespace ComponentSpec

open Yaml (Mapping)

/-- A name comes before another one in a list. -/
def Precedes (names : List String) (a b : String) : Prop :=
  ∃ before after, names = before ++ b :: after ∧ a ∈ before

theorem Precedes.mem {names : List String} {a b : String} (h : Precedes names a b) :
    a ∈ names ∧ b ∈ names := by
  obtain ⟨before, after, rfl, ha⟩ := h
  exact ⟨List.mem_append_left _ ha, by simp⟩

theorem Precedes.append {names : List String} {a b : String} (h : Precedes names a b)
    (more : List String) : Precedes (names ++ more) a b := by
  obtain ⟨before, after, rfl, ha⟩ := h
  exact ⟨before, after ++ more, by simp, ha⟩

theorem precedes_concat {names : List String} {a : String} (h : a ∈ names) (b : String) :
    Precedes (names ++ [b]) a b := ⟨names, [], rfl, h⟩

/-- The definition that a name leads to by the links as they are declared. -/
inductive LeadsTo (ds : List (String × ComponentDecl)) : String → String → Prop where
  | definition {name : String} {fields : Mapping} : (name, .definition fields) ∈ ds →
      LeadsTo ds name name
  | uses {name target root : String} : (name, .uses target) ∈ ds → LeadsTo ds target root →
      LeadsTo ds name root

theorem LeadsTo.mono {ds ds' : List (String × ComponentDecl)} {a b : String}
    (h : LeadsTo ds a b) (sub : ∀ d ∈ ds, d ∈ ds') : LeadsTo ds' a b := by
  induction h with
  | definition hd => exact .definition (sub _ hd)
  | uses hd _ ih => exact .uses (sub _ hd) ih

theorem LeadsTo.append {ds : List (String × ComponentDecl)} {a b : String} (h : LeadsTo ds a b)
    (more : List (String × ComponentDecl)) : LeadsTo (ds ++ more) a b :=
  h.mono fun _ => List.mem_append_left _

/-- What holds of a registry after some declarations. -/
structure Coherent (o : Options) (ds : List (String × ComponentDecl)) (r : Registry) : Prop where
  /-- The names are those declared, without the reserved ones. -/
  names : r.names = (ds.map Prod.fst).filter fun name => !o.isReserved name
  /-- An alias stands for a definition before it, whose object it shares. -/
  target : ∀ name root, r.aliasTarget? name = some root →
    Precedes r.names root name ∧ r.aliasTarget? root = none ∧ r.object? name = r.object? root
  definition : ∀ name fields, (name, .definition fields) ∈ ds → name ∈ r.names →
    r.aliasTarget? name = none
  /-- An alias of an alias stands for what that one stands for. -/
  uses : ∀ name target, (name, .uses target) ∈ ds → name ∈ r.names →
    target ∈ r.names ∧ r.aliasTarget? name = some (r.rootOf target)
  leads : ∀ name ∈ r.names, ∃ root, LeadsTo ds name root
  /-- Names share an object exactly if they stand for the same definition. -/
  ids : ∀ a b x y, r.object? a = some x → r.object? b = some y →
    (x.id = y.id ↔ r.rootOf a = r.rootOf b)
  /-- Each object has one definition, which is the first name bound to it. -/
  once : ∀ e ∈ r.components.entries, ∃ b,
    (r.definitions.filter fun d => d.object.id == e.2.id) = [b] ∧
      r.components.entries.find? (fun e' => e'.2.id == e.2.id) = some (b.name, b.object)

namespace Coherent

variable {o : Options} {ds : List (String × ComponentDecl)} {r : Registry} {name : String}

theorem start : Coherent o [] .empty where
  names := rfl
  target := by intro _ _ h; cases h
  definition := by intro _ _ h; cases h
  uses := by intro _ _ h; cases h
  leads := by intro _ h; cases h
  ids := by intro _ _ _ _ h; cases h
  once := by intro _ h; cases h

theorem not_reserved (h : Coherent o ds r) (hn : name ∈ r.names) : o.isReserved name = false := by
  rw [h.names, List.mem_filter] at hn
  simpa using hn.2

theorem isNew (h : Coherent o ds r) (hn : name ∉ r.names) : r.IsNew name := by
  refine ⟨hn, fun ha => hn ?_⟩
  obtain ⟨root, hroot⟩ := Option.isSome_iff_exists.1 (NameMap.contains_iff.2 ha)
  exact (h.target name root hroot).1.mem.2

/-- A declaration of a name that is not bound says nothing of the names that are. -/
theorem mem_of_mem_concat {d d' : ComponentDecl} {n : String} (hnew : name ∉ r.names)
    (hn : n ∈ r.names) (hd : (n, d') ∈ ds ++ [(name, d)]) : (n, d') ∈ ds := by
  rcases List.mem_append.1 hd with hd | hd
  · exact hd
  · obtain ⟨rfl, -⟩ := Prod.mk.inj (List.mem_singleton.1 hd)
    exact absurd hn hnew

theorem skip (h : Coherent o ds r) (hn : o.isReserved name = true) (d : ComponentDecl) :
    Coherent o (ds ++ [(name, d)]) r := by
  have hnew : name ∉ r.names := by
    intro hm
    rw [h.not_reserved hm] at hn
    cases hn
  exact
    { h with
      names := by simp [h.names, hn]
      definition := fun n fields hd hm =>
        h.definition n fields (mem_of_mem_concat hnew hm hd) hm
      uses := fun n target hd hm => h.uses n target (mem_of_mem_concat hnew hm hd) hm
      leads := fun n hm => by
        obtain ⟨root, hl⟩ := h.leads n hm
        exact ⟨root, hl.append _⟩ }

/-! ## What a name stands for -/

theorem mem_of_declared (h : Coherent o ds r) (hn : o.isReserved name = false) {d : ComponentDecl}
    (hd : (name, d) ∈ ds) : name ∈ r.names := by
  rw [h.names, List.mem_filter]
  exact ⟨List.mem_map_of_mem hd, by simp [hn]⟩

theorem declared_of_mem (h : Coherent o ds r) (hn : name ∈ r.names) : ∃ d, (name, d) ∈ ds := by
  rw [h.names] at hn
  obtain ⟨⟨_, d⟩, hd, rfl⟩ := List.mem_map.1 (List.mem_filter.1 hn).1
  exact ⟨d, hd⟩

theorem rootOf_mem (h : Coherent o ds r) (hn : name ∈ r.names) : r.rootOf name ∈ r.names := by
  cases ha : r.aliasTarget? name with
  | none => rwa [Registry.rootOf_of_not_alias ha]
  | some root =>
    rw [Registry.rootOf_of_alias ha]
    exact (h.target name root ha).1.mem.1

theorem aliasTarget?_rootOf (h : Coherent o ds r) (name : String) :
    r.aliasTarget? (r.rootOf name) = none := by
  cases ha : r.aliasTarget? name with
  | none => rwa [Registry.rootOf_of_not_alias ha]
  | some root =>
    rw [Registry.rootOf_of_alias ha]
    exact (h.target name root ha).2.1

theorem object?_rootOf (h : Coherent o ds r) (name : String) :
    r.object? (r.rootOf name) = r.object? name := by
  cases ha : r.aliasTarget? name with
  | none => rw [Registry.rootOf_of_not_alias ha]
  | some root =>
    rw [Registry.rootOf_of_alias ha]
    exact (h.target name root ha).2.2.symm

/-- Following the declared links comes to the root that the registry has recorded. -/
theorem rootOf_of_leadsTo (h : Coherent o ds r) {root : String} (hl : LeadsTo ds name root)
    (hn : name ∈ r.names) : r.rootOf name = root := by
  induction hl with
  | definition hd => exact Registry.rootOf_of_not_alias (h.definition _ _ hd hn)
  | uses hd _ ih =>
    obtain ⟨ht, ha⟩ := h.uses _ _ hd hn
    rw [Registry.rootOf_of_alias ha]
    exact ih ht

theorem leadsTo_iff (h : Coherent o ds r) (hn : name ∈ r.names) (root : String) :
    LeadsTo ds name root ↔ r.rootOf name = root := by
  refine ⟨fun hl => h.rootOf_of_leadsTo hl hn, ?_⟩
  rintro rfl
  obtain ⟨root, hl⟩ := h.leads name hn
  rwa [h.rootOf_of_leadsTo hl hn]

/-! ## One more declaration -/

/-- A name that is not bound has no declaration but the new one. -/
theorem eq_of_mem_concat (h : Coherent o ds r) (hn : o.isReserved name = false)
    (hnew : name ∉ r.names) {d d' : ComponentDecl} (hd : (name, d') ∈ ds ++ [(name, d)]) :
    d' = d := by
  rcases List.mem_append.1 hd with hd | hd
  · exact absurd (h.mem_of_declared hn hd) hnew
  · exact (Prod.mk.inj (List.mem_singleton.1 hd)).2

theorem leads_concat (h : Coherent o ds r) {d : ComponentDecl} {root : String}
    (hroot : LeadsTo (ds ++ [(name, d)]) name root) :
    ∀ n ∈ r.names ++ [name], ∃ root, LeadsTo (ds ++ [(name, d)]) n root := by
  intro n hm
  rcases List.mem_append.1 hm with hm | hm
  · obtain ⟨root, hl⟩ := h.leads n hm
    exact ⟨root, hl.append _⟩
  · obtain rfl := List.mem_singleton.1 hm
    exact ⟨root, hroot⟩

theorem ne_of_mem (hnew : name ∉ r.names) : ∀ n ∈ r.names, n ≠ name := by
  rintro n hm rfl
  exact hnew hm

/-! ## A definition -/

section Define

variable {c : Component}

theorem target_define (h : Coherent o ds r) (hnew : name ∉ r.names) (n root : String)
    (ha : (r.define name c).aliasTarget? n = some root) :
    Precedes (r.define name c).names root n ∧ (r.define name c).aliasTarget? root = none ∧
      (r.define name c).object? n = (r.define name c).object? root := by
  have new := h.isNew hnew
  obtain ⟨before, hroot, hobject⟩ := h.target n root ha
  have hm := ne_of_mem hnew n before.mem.2
  have hr := ne_of_mem hnew root before.mem.1
  refine ⟨?_, hroot, ?_⟩
  · rw [Registry.names_define new]
    exact before.append _
  · rw [Registry.object?_define new, Registry.object?_define new, if_neg hm, if_neg hr, hobject]

/-- The new name has an object of its own and is its own root. -/
theorem ids_define (h : Coherent o ds r) (hnew : name ∉ r.names) (a b : String) (x y : Shared)
    (hx : (r.define name c).object? a = some x) (hy : (r.define name c).object? b = some y) :
    x.id = y.id ↔ (r.define name c).rootOf a = (r.define name c).rootOf b := by
  have new := h.isNew hnew
  have self : r.rootOf name = name := Registry.rootOf_of_not_alias new.aliasTarget?
  have apart : ∀ n ∈ r.names, r.rootOf n ≠ name := fun n hm =>
    ne_of_mem hnew _ (h.rootOf_mem hm)
  rw [Registry.object?_define new] at hx hy
  simp only [Registry.rootOf_define]
  by_cases ha : a = name <;> by_cases hb : b = name
  · subst ha hb
    rw [if_pos rfl] at hx hy
    cases hx
    cases hy
    exact iff_of_true rfl rfl
  · subst ha
    rw [if_pos rfl] at hx
    rw [if_neg hb] at hy
    cases hx
    have hid := Registry.object?_id_ne_freshId hy
    have hroot := apart b (Registry.mem_names_of_object? hy)
    simp [self, hid.symm, hroot.symm]
  · subst hb
    rw [if_neg ha] at hx
    rw [if_pos rfl] at hy
    cases hy
    have hid := Registry.object?_id_ne_freshId hx
    have hroot := apart a (Registry.mem_names_of_object? hx)
    simp [self, hid, hroot]
  · rw [if_neg ha] at hx
    rw [if_neg hb] at hy
    exact h.ids a b x y hx hy

theorem once_define (h : Coherent o ds r) (hnew : name ∉ r.names)
    (e : String × Shared) (he : e ∈ (r.define name c).components.entries) :
    ∃ b, ((r.define name c).definitions.filter fun d => d.object.id == e.2.id) = [b] ∧
      (r.define name c).components.entries.find? (fun e' => e'.2.id == e.2.id) =
        some (b.name, b.object) := by
  have new := h.isNew hnew
  rw [Registry.entries_define new] at he ⊢
  rw [Registry.definitions_define new]
  rcases List.mem_append.1 he with he | he
  · obtain ⟨b, hb, hf⟩ := h.once e he
    have hid := Nat.ne_of_gt (Registry.id_lt_freshId he)
    refine ⟨b, ?_, ?_⟩
    · simp [List.filter_append, hb, hid]
    · simp [List.find?_append, hf]
  · obtain rfl := List.mem_singleton.1 he
    refine ⟨⟨name, ⟨r.freshId, c⟩, none⟩, ?_, ?_⟩
    · rw [List.filter_append, Registry.filter_definitions_freshId]
      simp
    · rw [List.find?_append, Registry.find?_freshId]
      simp

theorem define (h : Coherent o ds r) (hn : o.isReserved name = false) (hnew : name ∉ r.names)
    (fields : Mapping) (c : Component) :
    Coherent o (ds ++ [(name, .definition fields)]) (r.define name c) := by
  have new := h.isNew hnew
  have names : (r.define name c).names = r.names ++ [name] := Registry.names_define new
  refine ⟨?_, h.target_define hnew, ?_, ?_, ?_, h.ids_define hnew, h.once_define hnew⟩
  · simp [names, h.names, hn]
  · intro n fields' hd hm
    rw [names] at hm
    rcases List.mem_append.1 hm with hm | hm
    · exact h.definition n fields' (mem_of_mem_concat hnew hm hd) hm
    · obtain rfl := List.mem_singleton.1 hm
      exact new.aliasTarget?
  · intro n target hd hm
    rw [names] at hm ⊢
    rcases List.mem_append.1 hm with hm | hm
    · obtain ⟨ht, ha⟩ := h.uses n target (mem_of_mem_concat hnew hm hd) hm
      exact ⟨List.mem_append_left _ ht, ha⟩
    · obtain rfl := List.mem_singleton.1 hm
      cases h.eq_of_mem_concat hn hnew hd
  · rw [names]
    exact h.leads_concat (.definition (List.mem_append_right _ List.mem_cons_self))

end Define

/-! ## An alias -/

section Share

variable {target : String} {object : Shared}

theorem target_share (h : Coherent o ds r) (hnew : name ∉ r.names)
    (ho : r.object? target = some object) (n root : String)
    (ha : (r.share name object (r.rootOf target)).aliasTarget? n = some root) :
    Precedes (r.share name object (r.rootOf target)).names root n ∧
      (r.share name object (r.rootOf target)).aliasTarget? root = none ∧
      (r.share name object (r.rootOf target)).object? n =
        (r.share name object (r.rootOf target)).object? root := by
  have new := h.isNew hnew
  rw [Registry.aliasTarget?_share new] at ha
  rw [Registry.names_share new, Registry.aliasTarget?_share new, Registry.object?_share new,
    Registry.object?_share new]
  by_cases hm : n = name
  · subst hm
    rw [if_pos rfl] at ha
    cases ha
    have hr := h.rootOf_mem (Registry.mem_names_of_object? ho)
    have ne := ne_of_mem hnew _ hr
    refine ⟨precedes_concat hr n, ?_, ?_⟩
    · rw [if_neg ne, h.aliasTarget?_rootOf]
    · rw [if_pos rfl, if_neg ne, h.object?_rootOf, ho]
  · rw [if_neg hm] at ha
    obtain ⟨before, hroot, hobject⟩ := h.target n root ha
    have ne := ne_of_mem hnew root before.mem.1
    refine ⟨before.append _, ?_, ?_⟩
    · rw [if_neg ne, hroot]
    · rw [if_neg hm, if_neg ne, hobject]

/-- The new name has the object and the root of its target. -/
theorem ids_share (h : Coherent o ds r) (hnew : name ∉ r.names)
    (ho : r.object? target = some object) (a b : String) (x y : Shared)
    (hx : (r.share name object (r.rootOf target)).object? a = some x)
    (hy : (r.share name object (r.rootOf target)).object? b = some y) :
    x.id = y.id ↔ (r.share name object (r.rootOf target)).rootOf a =
      (r.share name object (r.rootOf target)).rootOf b := by
  have new := h.isNew hnew
  rw [Registry.object?_share new] at hx hy
  rw [Registry.rootOf_share new, Registry.rootOf_share new]
  have same : ∀ n z, (if n = name then some object else r.object? n) = some z → ∃ m,
      r.object? m = some z ∧ (if n = name then r.rootOf target else r.rootOf n) = r.rootOf m := by
    intro n z hz
    by_cases hm : n = name
    · rw [if_pos hm] at hz ⊢
      exact ⟨target, ho.trans hz, rfl⟩
    · rw [if_neg hm] at hz ⊢
      exact ⟨n, hz, rfl⟩
  obtain ⟨a', ha, ea⟩ := same a x hx
  obtain ⟨b', hb, eb⟩ := same b y hy
  rw [ea, eb]
  exact h.ids a' b' x y ha hb

theorem once_share (h : Coherent o ds r) (hnew : name ∉ r.names)
    (ho : r.object? target = some object) (e : String × Shared)
    (he : e ∈ (r.share name object (r.rootOf target)).components.entries) :
    ∃ b, ((r.share name object (r.rootOf target)).definitions.filter fun d =>
        d.object.id == e.2.id) = [b] ∧
      (r.share name object (r.rootOf target)).components.entries.find?
        (fun e' => e'.2.id == e.2.id) = some (b.name, b.object) := by
  have new := h.isNew hnew
  rw [Registry.entries_share new] at he ⊢
  rw [Registry.definitions_share new]
  -- no new object: an old name has that of the new one
  have old : ∃ e' ∈ r.components.entries, e'.2 = e.2 := by
    rcases List.mem_append.1 he with he | he
    · exact ⟨e, he, rfl⟩
    · obtain rfl := List.mem_singleton.1 he
      exact ⟨(target, object), NameMap.mem_entries_of_get? ho, rfl⟩
  obtain ⟨e', he', same⟩ := old
  obtain ⟨b, hb, hf⟩ := h.once e' he'
  rw [same] at hb hf
  refine ⟨b, hb, ?_⟩
  rw [List.find?_append, hf]
  rfl

theorem share (h : Coherent o ds r) (hn : o.isReserved name = false) (hnew : name ∉ r.names)
    (ho : r.object? target = some object) :
    Coherent o (ds ++ [(name, .uses target)]) (r.share name object (r.rootOf target)) := by
  have new := h.isNew hnew
  have ht : target ∈ r.names := Registry.mem_names_of_object? ho
  have names : (r.share name object (r.rootOf target)).names = r.names ++ [name] :=
    Registry.names_share new
  refine ⟨?_, h.target_share hnew ho, ?_, ?_, ?_, h.ids_share hnew ho, h.once_share hnew ho⟩
  · simp [names, h.names, hn]
  · intro n fields hd hm
    rw [names] at hm
    rcases List.mem_append.1 hm with hm | hm
    · rw [Registry.aliasTarget?_share new, if_neg (ne_of_mem hnew n hm)]
      exact h.definition n fields (mem_of_mem_concat hnew hm hd) hm
    · obtain rfl := List.mem_singleton.1 hm
      cases h.eq_of_mem_concat hn hnew hd
  · intro n target' hd hm
    rw [names] at hm ⊢
    rw [Registry.aliasTarget?_share new, Registry.rootOf_share new]
    rcases List.mem_append.1 hm with hm | hm
    · obtain ⟨ht', ha⟩ := h.uses n target' (mem_of_mem_concat hnew hm hd) hm
      rw [if_neg (ne_of_mem hnew n hm), if_neg (ne_of_mem hnew target' ht')]
      exact ⟨List.mem_append_left _ ht', ha⟩
    · obtain rfl := List.mem_singleton.1 hm
      cases h.eq_of_mem_concat hn hnew hd
      rw [if_pos rfl, if_neg (ne_of_mem hnew target ht)]
      exact ⟨List.mem_append_left _ ht, rfl⟩
  · rw [names]
    obtain ⟨root, hl⟩ := h.leads target ht
    exact h.leads_concat (.uses (List.mem_append_right _ List.mem_cons_self) (hl.append _))

end Share

end Coherent

/-- Every registry of the first phase is coherent. -/
theorem Reached.coherent {o : Options} {ds : List (String × ComponentDecl)} {r : Registry}
    (h : Reached o ds r) : Coherent o ds r := by
  induction h with
  | start => exact .start
  | skip _ hn ih => exact ih.skip hn _
  | add _ hn hnew hadd ih =>
    cases hadd with
    | definition _ => exact ih.define hn hnew _ _
    | uses ho => exact ih.share hn hnew ho

/-! ## The aliases of a document -/

/-- After any declarations that could be added, links are collapsed: an alias stands for the
definition that the declared links lead to, which comes before it and whose object it shares. Names
share an object exactly if they stand for the same definition, and the definitions are the first
names of the objects, one for each. The next declaration changes no name that is there, and its
target is found if it is an alias. -/
theorem aliases_share_roots {o : Options} {ds : List (String × ComponentDecl)} {r : Registry}
    (h : (assembleAll o .empty ds).outcome = .ok r) :
    r.names = (ds.map Prod.fst).filter (fun name => !o.isReserved name) ∧
    (∀ name root, r.aliasTarget? name = some root →
      name ∈ r.names ∧ Precedes r.names root name ∧ r.isAlias root = false ∧
        r.object? name = r.object? root) ∧
    (∀ name ∈ r.names, ∀ root, LeadsTo ds name root ↔ r.rootOf name = root) ∧
    (∀ a ∈ r.names, ∀ b ∈ r.names, r.shares? a b = some (decide (r.rootOf a = r.rootOf b))) ∧
    (∀ name object, r.object? name = some object → ∃ b,
      (r.definitions.filter fun d => d.object.id == object.id) = [b] ∧
        r.components.entries.find? (fun e => e.2.id == object.id) = some (b.name, b.object)) ∧
    (∀ name d r', (r.add name d).outcome = .ok r' →
      r.IsNew name ∧ r.components.entries <+: r'.components.entries ∧
        r.aliases.entries <+: r'.aliases.entries) ∧
    (∀ name d target, (assemble r name d).outcome = .ok (.aliasOf target) →
      (r.bindAlias? name target).isSome = true) := by
  have coherent := (reached_iff.2 h).coherent
  refine ⟨coherent.names, ?_, fun name hn => coherent.leadsTo_iff hn, ?_, ?_, ?_, ?_⟩
  · intro name root ha
    obtain ⟨before, hroot, hobject⟩ := coherent.target name root ha
    exact ⟨before.mem.2, before, by simp [Registry.isAlias_eq, hroot], hobject⟩
  · intro a ha b hb
    obtain ⟨x, hx⟩ := Registry.exists_object ha
    obtain ⟨y, hy⟩ := Registry.exists_object hb
    have ids := coherent.ids a b x y hx hy
    have same : (x.id == y.id) = decide (r.rootOf a = r.rootOf b) := by
      rw [Bool.eq_iff_iff, beq_iff_eq, decide_eq_true_iff, ids]
    simp [Registry.shares?, hx, hy, same]
  · intro name object ho
    exact coherent.once (name, object) (NameMap.mem_entries_of_get? ho)
  · intro name d r' hr
    obtain ⟨hnew, hadd⟩ := Registry.add_ok_iff.1 hr
    have new := coherent.isNew hnew
    refine ⟨new, ?_⟩
    cases hadd with
    | definition _ =>
      rw [Registry.entries_define new]
      exact ⟨List.prefix_append .., List.prefix_rfl⟩
    | uses _ =>
      rw [Registry.entries_share new, Registry.aliases_share new]
      exact ⟨List.prefix_append .., List.prefix_append ..⟩
  · intro name d target ha
    obtain ⟨_, _, hb⟩ := bindAlias?_of_assemble ha
    simp [hb]

/-- A component with one state. -/
def plainFields : Mapping :=
  [(.text "statemachine",
    .mapping [(.text "states", .sequence [.text "On"]), (.text "start", .text "On")])]

/-- Links that branch, and a link to a link. -/
def linked : List (String × ComponentDecl) :=
  [ ("Lamp", .definition plainFields), ("Spare", .uses "Lamp"), ("Door", .definition plainFields),
    ("Third", .uses "Spare"), ("Fourth", .uses "Lamp") ]

theorem linked_share_lamp : ∃ r, (assembleAll .standard .empty linked).outcome = .ok r ∧
    r.rootOf "Third" = "Lamp" ∧ r.shares? "Third" "Fourth" = some true ∧
    r.shares? "Third" "Door" = some false := by
  have built : ∃ r, (assembleAll .standard .empty linked).outcome = .ok r := ⟨_, rfl⟩
  obtain ⟨r, hr⟩ := built
  obtain ⟨names, -, leads, shares, -⟩ := aliases_share_roots hr
  have mem : ∀ name ∈ ["Third", "Fourth", "Door"], name ∈ r.names := by
    rw [names]
    decide
  have lamp : LeadsTo linked "Lamp" "Lamp" := .definition (by simp [linked]; rfl)
  have spare : LeadsTo linked "Spare" "Lamp" := .uses (by simp [linked]) lamp
  have third : r.rootOf "Third" = "Lamp" :=
    (leads _ (mem _ (by decide)) _).1 (.uses (by simp [linked]) spare)
  have fourth : r.rootOf "Fourth" = "Lamp" :=
    (leads _ (mem _ (by decide)) _).1 (.uses (by simp [linked]) lamp)
  have door : r.rootOf "Door" = "Door" :=
    (leads _ (mem _ (by decide)) _).1 (.definition (by simp [linked]; rfl))
  refine ⟨r, hr, third, ?_, ?_⟩
  · rw [shares _ (mem _ (by decide)) _ (mem _ (by decide)), third, fourth]
    decide
  · rw [shares _ (mem _ (by decide)) _ (mem _ (by decide)), third, door]
    decide

end ComponentSpec
