/-!
# ComponentSpec.Model.NameMap

Values under names, in the order in which the names were first bound.

* `NameMap.insert`: binds a name, in the place of an earlier binding if there is one.
* `NameMap.same`: equality as maps, whatever their order.
-/

namespace ComponentSpec

/-- A list of bindings in which no name is bound twice. -/
structure NameMap (α : Type) where
  entries : List (String × α)
  nodup : (entries.map Prod.fst).Nodup
deriving DecidableEq

namespace NameMap

variable {α β : Type}

def empty : NameMap α := ⟨[], List.nodup_nil⟩

def names (m : NameMap α) : List String := m.entries.map Prod.fst

def size (m : NameMap α) : Nat := m.entries.length

def get? (m : NameMap α) (name : String) : Option α := m.entries.lookup name

def contains (m : NameMap α) (name : String) : Bool := (m.get? name).isSome

/-- Binds a name. A name that is bound already keeps its place and loses its value. -/
def insert (m : NameMap α) (name : String) (a : α) : NameMap α :=
  if h : name ∈ m.names then
    ⟨m.entries.map fun e => if e.1 = name then (name, a) else e, by
      have keys : (m.entries.map fun e => if e.1 = name then (name, a) else e).map Prod.fst =
          m.entries.map Prod.fst := by
        rw [List.map_map]
        refine List.map_congr_left fun e _ => ?_
        by_cases he : e.1 = name <;> simp [he]
      rw [keys]
      exact m.nodup⟩
  else
    ⟨m.entries ++ [(name, a)], by
      rw [List.map_append]
      refine List.nodup_append.2 ⟨m.nodup, by simp, ?_⟩
      intro x hx y hy
      have hy : y = name := by simpa using hy
      subst hy
      exact fun e => h (e ▸ hx)⟩

/-- Equality of maps whose values are compared by a test, whatever their order. -/
def same (eq : α → β → Bool) (m : NameMap α) (n : NameMap β) : Bool :=
  m.size == n.size && m.entries.all fun e => (n.get? e.1).any (eq e.2)

theorem get?_eq_none_iff {m : NameMap α} {name : String} :
    m.get? name = none ↔ name ∉ m.names := by
  rw [get?, List.lookup_eq_none_iff]
  constructor
  · intro h hn
    obtain ⟨e, he, rfl⟩ := List.mem_map.1 hn
    simpa using h e he
  · intro h e he
    have ne : name ≠ e.1 := fun hn => h (hn ▸ List.mem_map_of_mem he)
    simpa [bne_iff_ne] using ne

@[simp] theorem contains_iff {m : NameMap α} {name : String} :
    m.contains name = true ↔ name ∈ m.names := by
  rw [contains, Option.isSome_iff_ne_none, ne_eq, get?_eq_none_iff, Decidable.not_not]

theorem contains_eq_false_iff {m : NameMap α} {name : String} :
    m.contains name = false ↔ name ∉ m.names := by
  rw [← contains_iff, Bool.not_eq_true]

theorem mem_entries_of_get? {m : NameMap α} {name : String} {a : α} (h : m.get? name = some a) :
    (name, a) ∈ m.entries := by
  obtain ⟨l₁, l₂, e, -⟩ := List.lookup_eq_some_iff.1 h
  rw [e]
  simp

theorem get?_of_mem_entries {m : NameMap α} {name : String} {a : α} (h : (name, a) ∈ m.entries) :
    m.get? name = some a := by
  obtain ⟨l₁, l₂, e⟩ := List.append_of_mem h
  refine List.lookup_eq_some_iff.2 ⟨l₁, l₂, e, ?_⟩
  intro p hp
  -- a second binding of the name before this one would repeat it
  have nodup := m.nodup
  rw [e, List.map_append, List.nodup_append] at nodup
  have ne : p.1 ≠ name := nodup.2.2 p.1 (List.mem_map_of_mem hp) name (by simp)
  simpa [bne_iff_ne] using ne.symm

/-- A new name is bound after all others. -/
theorem entries_insert_of_notMem {m : NameMap α} {name : String} (h : name ∉ m.names) (a : α) :
    (m.insert name a).entries = m.entries ++ [(name, a)] := by
  rw [insert, dif_neg h]

theorem names_insert_of_notMem {m : NameMap α} {name : String} (h : name ∉ m.names) (a : α) :
    (m.insert name a).names = m.names ++ [name] := by
  simp [names, entries_insert_of_notMem h]

theorem get?_insert_of_notMem {m : NameMap α} {name : String} (h : name ∉ m.names) (a : α)
    (key : String) :
    (m.insert name a).get? key = if key = name then some a else m.get? key := by
  rw [get?, entries_insert_of_notMem h, List.lookup_append]
  change (m.get? key).or _ = _
  by_cases hk : key = name
  · subst hk
    simp [get?_eq_none_iff.2 h]
  · have other : (key == name) = false := by simpa using hk
    simp [hk, List.lookup_cons, other]

end NameMap

end ComponentSpec
