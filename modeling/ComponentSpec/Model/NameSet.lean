/-!
# ComponentSpec.Model.NameSet

Sets of names in the order of their declaration.

* `NameSet.ofList`: the names of a list, each at its first place.
* `repeats`: the names of a list that have come before.
* `NameSet.same`: equality as sets.
-/

namespace ComponentSpec

/-- A list of names without repeats. -/
structure NameSet where
  names : List String
  nodup : names.Nodup
deriving DecidableEq

namespace NameSet

def empty : NameSet := ⟨[], List.nodup_nil⟩

def contains (s : NameSet) (name : String) : Bool := s.names.contains name

/-- Adds a name at the end if it is new. -/
def insert (s : NameSet) (name : String) : NameSet :=
  if h : name ∈ s.names then s
  else
    ⟨s.names ++ [name], List.nodup_append.2 ⟨s.nodup, by simp, by
      intro a ha b hb
      simp only [List.mem_singleton] at hb
      subst hb
      exact fun e => h (e ▸ ha)⟩⟩

def ofList (names : List String) : NameSet := names.foldl insert empty

/-- Equality of sets, whatever their order. -/
def same (s t : NameSet) : Bool :=
  s.names.length == t.names.length && s.names.all t.contains

@[simp] theorem mem_insert {s : NameSet} {a b : String} :
    a ∈ (s.insert b).names ↔ a ∈ s.names ∨ a = b := by
  unfold insert
  split
  · rename_i h
    exact ⟨Or.inl, fun h' => h'.elim id fun e => e ▸ h⟩
  · simp

theorem mem_foldl_insert {names : List String} {s : NameSet} {a : String} :
    a ∈ (names.foldl insert s).names ↔ a ∈ s.names ∨ a ∈ names := by
  induction names generalizing s with
  | nil => simp
  | cons n ns ih => simp [ih, or_assoc]

@[simp] theorem mem_ofList {names : List String} {a : String} :
    a ∈ (ofList names).names ↔ a ∈ names := by
  simp [ofList, mem_foldl_insert, empty]

@[simp] theorem contains_iff {s : NameSet} {name : String} :
    s.contains name = true ↔ name ∈ s.names := by
  simp [contains]

@[simp] theorem contains_eq_false_iff {s : NameSet} {name : String} :
    s.contains name = false ↔ name ∉ s.names := by
  rw [← contains_iff, Bool.not_eq_true]

theorem names_foldl_insert (names : List String) (s : NameSet) :
    (names.foldl insert s).names =
      s.names ++ (names.filter fun n => !s.names.contains n).eraseDups := by
  induction names generalizing s with
  | nil => simp
  | cons n ns ih =>
    rw [List.foldl_cons, ih]
    by_cases h : n ∈ s.names
    · have same : s.insert n = s := by rw [insert, dif_pos h]
      simp [same, h]
    · have names : (s.insert n).names = s.names ++ [n] := by rw [insert, dif_neg h]
      have rest : (ns.filter fun m => !(s.names ++ [n]).contains m) =
          (ns.filter fun m => !s.names.contains m).filter fun m => !m == n := by
        rw [List.filter_filter]
        refine List.filter_congr fun m _ => ?_
        by_cases hm : m = n <;> by_cases hs : m ∈ s.names <;> simp [hm, hs]
      rw [names, rest]
      simp [h, List.eraseDups_cons]

/-- The set of a list has its names in order, without later repeats. -/
theorem names_ofList (names : List String) : (ofList names).names = names.eraseDups := by
  have all : names.filter (fun _ => true) = names := List.filter_eq_self.2 fun _ _ => rfl
  simp [ofList, names_foldl_insert, empty, all]

theorem eraseDups_of_nodup {names : List String} (h : names.Nodup) : names.eraseDups = names := by
  induction names with
  | nil => rfl
  | cons n ns ih =>
    obtain ⟨hn, hns⟩ := List.nodup_cons.1 h
    have others : (ns.filter fun m => !m == n) = ns := by
      refine List.filter_eq_self.2 fun m hm => ?_
      have ne : m ≠ n := fun e => hn (e ▸ hm)
      simpa using ne
    rw [List.eraseDups_cons, others, ih hns]

/-- A set is that of its names. -/
theorem ofList_names (s : NameSet) : ofList s.names = s := by
  have names := (names_ofList s.names).trans (eraseDups_of_nodup s.nodup)
  generalize ofList s.names = t at names
  obtain ⟨_, _⟩ := t
  cases names
  rfl

end NameSet

/-- The names of a list that are among `seen` or before them in the list. -/
def repeatsAfter (seen : List String) : List String → List String
  | [] => []
  | n :: ns => if n ∈ seen then n :: repeatsAfter seen ns else repeatsAfter (n :: seen) ns

/-- The names of a list that have come before in it, as often as they do so. -/
def repeats (names : List String) : List String := repeatsAfter [] names

end ComponentSpec
