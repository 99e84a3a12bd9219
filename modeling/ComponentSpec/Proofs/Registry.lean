import ComponentSpec.Registry.Registry

/-!
# ComponentSpec.Proofs.Registry

What it does to a registry to bind a name that is new. Nothing that was bound before changes: the
names, the objects under them and the aliases stay, and the new name comes last.

* `Registry.IsNew`: a name that is neither bound nor an alias.
* `*_define`, `*_share`: the views of a registry after a definition and after an alias.
-/

namespace ComponentSpec

namespace Registry

variable {r : Registry} {name root : String} {c : Component} {object : Shared}

/-- A name that a registry knows nothing of. -/
structure IsNew (r : Registry) (name : String) : Prop where
  unbound : name ∉ r.components.names
  unaliased : name ∉ r.aliases.names

@[simp] theorem contains_iff : r.contains name = true ↔ name ∈ r.names := NameMap.contains_iff

theorem contains_eq_false_iff : r.contains name = false ↔ name ∉ r.names :=
  NameMap.contains_eq_false_iff

theorem object?_eq_none_iff : r.object? name = none ↔ name ∉ r.names := NameMap.get?_eq_none_iff

theorem exists_object (h : name ∈ r.names) : ∃ object, r.object? name = some object := by
  rw [← Option.ne_none_iff_exists', ne_eq, object?_eq_none_iff]
  exact fun hn => hn h

theorem mem_names_of_object? (h : r.object? name = some object) : name ∈ r.names :=
  List.mem_map_of_mem (NameMap.mem_entries_of_get? h)

theorem mem_names_of_component? (h : r.component? name = some c) : name ∈ r.names := by
  obtain ⟨object, ho, -⟩ := Option.map_eq_some_iff.1 h
  exact mem_names_of_object? ho

theorem component?_of_object? (h : r.object? name = some object) :
    r.component? name = some object.component := by
  rw [component?, h]
  rfl

theorem component?_of_mem_entries (h : (name, object) ∈ r.components.entries) :
    r.component? name = some object.component :=
  component?_of_object? (NameMap.get?_of_mem_entries h)

theorem component?_eq_none (h : name ∉ r.names) : r.component? name = none := by
  rw [component?, object?_eq_none_iff.2 h]
  rfl

theorem isAlias_eq (r : Registry) (name : String) :
    r.isAlias name = (r.aliasTarget? name).isSome := rfl

theorem IsNew.aliasTarget? (h : r.IsNew name) : r.aliasTarget? name = none :=
  NameMap.get?_eq_none_iff.2 h.unaliased

theorem rootOf_of_not_alias (h : r.aliasTarget? name = none) : r.rootOf name = name := by
  simp [rootOf, h]

theorem rootOf_of_alias (h : r.aliasTarget? name = some root) : r.rootOf name = root := by
  simp [rootOf, h]

/-! ## Fresh objects -/

theorem id_lt_foldr {entries : List (String × Shared)} {e : String × Shared} (h : e ∈ entries) :
    e.2.id < entries.foldr (fun e n => max (e.2.id + 1) n) 0 := by
  induction entries with
  | nil => cases h
  | cons a as ih =>
    rw [List.foldr_cons]
    rcases List.mem_cons.1 h with rfl | h
    · omega
    · have := ih h
      omega

theorem id_lt_freshId {e : String × Shared} (h : e ∈ r.components.entries) :
    e.2.id < r.freshId := id_lt_foldr h

theorem object?_id_ne_freshId (h : r.object? name = some object) : object.id ≠ r.freshId :=
  Nat.ne_of_lt (id_lt_freshId (NameMap.mem_entries_of_get? h))

theorem find?_freshId : r.components.entries.find? (fun e => e.2.id == r.freshId) = none := by
  refine List.find?_eq_none.2 fun e he => ?_
  simpa using Nat.ne_of_lt (id_lt_freshId he)

theorem mem_bindings {b : Binding} (h : b ∈ r.bindings) :
    (b.name, b.object) ∈ r.components.entries ∧ b.root = r.aliasTarget? b.name := by
  obtain ⟨e, he, rfl⟩ := List.mem_map.1 h
  exact ⟨he, rfl⟩

theorem mem_definitions (ho : r.object? name = some object) (ha : r.aliasTarget? name = none) :
    ⟨name, object, none⟩ ∈ r.definitions := by
  refine List.mem_filter.2 ⟨?_, rfl⟩
  rw [← ha]
  exact List.mem_map_of_mem (NameMap.mem_entries_of_get? ho)

theorem filter_definitions_freshId :
    (r.definitions.filter fun b => b.object.id == r.freshId) = [] := by
  refine List.filter_eq_nil_iff.2 fun b hb => ?_
  have he := (mem_bindings (List.mem_filter.1 hb).1).1
  simpa using Nat.ne_of_lt (id_lt_freshId he)

/-! ## A definition -/

@[simp] theorem aliasTarget?_define (n : String) :
    (r.define name c).aliasTarget? n = r.aliasTarget? n := rfl

@[simp] theorem rootOf_define (n : String) : (r.define name c).rootOf n = r.rootOf n := rfl

theorem entries_define (h : r.IsNew name) :
    (r.define name c).components.entries = r.components.entries ++ [(name, ⟨r.freshId, c⟩)] :=
  NameMap.entries_insert_of_notMem h.unbound _

theorem names_define (h : r.IsNew name) : (r.define name c).names = r.names ++ [name] :=
  NameMap.names_insert_of_notMem h.unbound _

theorem object?_define (h : r.IsNew name) (n : String) :
    (r.define name c).object? n = if n = name then some ⟨r.freshId, c⟩ else r.object? n :=
  NameMap.get?_insert_of_notMem h.unbound _ n

theorem component?_define (h : r.IsNew name) (n : String) :
    (r.define name c).component? n = if n = name then some c else r.component? n := by
  rw [component?, object?_define h]
  split <;> rfl

theorem bindings_define (h : r.IsNew name) :
    (r.define name c).bindings = r.bindings ++ [⟨name, ⟨r.freshId, c⟩, none⟩] := by
  simp [bindings, entries_define h, h.aliasTarget?]

theorem definitions_define (h : r.IsNew name) :
    (r.define name c).definitions = r.definitions ++ [⟨name, ⟨r.freshId, c⟩, none⟩] := by
  simp [definitions, bindings_define h]

/-! ## An alias -/

theorem entries_share (h : r.IsNew name) :
    (r.share name object root).components.entries = r.components.entries ++ [(name, object)] :=
  NameMap.entries_insert_of_notMem h.unbound _

theorem aliases_share (h : r.IsNew name) :
    (r.share name object root).aliases.entries = r.aliases.entries ++ [(name, root)] :=
  NameMap.entries_insert_of_notMem h.unaliased _

theorem names_share (h : r.IsNew name) : (r.share name object root).names = r.names ++ [name] :=
  NameMap.names_insert_of_notMem h.unbound _

theorem object?_share (h : r.IsNew name) (n : String) :
    (r.share name object root).object? n = if n = name then some object else r.object? n :=
  NameMap.get?_insert_of_notMem h.unbound _ n

theorem component?_share (h : r.IsNew name) (n : String) :
    (r.share name object root).component? n =
      if n = name then some object.component else r.component? n := by
  rw [component?, object?_share h]
  split <;> rfl

theorem aliasTarget?_share (h : r.IsNew name) (n : String) :
    (r.share name object root).aliasTarget? n = if n = name then some root else r.aliasTarget? n :=
  NameMap.get?_insert_of_notMem h.unaliased _ n

theorem rootOf_share (h : r.IsNew name) (n : String) :
    (r.share name object root).rootOf n = if n = name then root else r.rootOf n := by
  by_cases hn : n = name <;> simp [rootOf, aliasTarget?_share h, hn]

theorem bindings_share (h : r.IsNew name) :
    (r.share name object root).bindings = r.bindings ++ [⟨name, object, some root⟩] := by
  have old : ∀ e ∈ r.components.entries,
      (r.share name object root).aliasTarget? e.1 = r.aliasTarget? e.1 := by
    intro e he
    have ne : e.1 ≠ name := fun hn => h.unbound (hn ▸ List.mem_map_of_mem he)
    simp [aliasTarget?_share h, ne]
  simp only [bindings, entries_share h, List.map_append]
  rw [List.map_congr_left fun e he => by rw [old e he]]
  simp [aliasTarget?_share h]

theorem definitions_share (h : r.IsNew name) :
    (r.share name object root).definitions = r.definitions := by
  simp [definitions, bindings_share h]

end Registry

end ComponentSpec
