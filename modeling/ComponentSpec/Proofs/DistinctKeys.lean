import ComponentSpec.Declaration.Document
import ComponentSpec.Proofs.Outcome
import Mathlib.Data.Option.Basic

/-!
# ComponentSpec.Proofs.DistinctKeys

The keys of mappings. A document is read only if no mapping in it has two equal keys.

* `Node.same_refl`: a value is the same as itself, also if there is a NaN in it.
* `Node.HasDistinctKeys`: no mapping in a value binds a key twice.
* `Mapping.get?_eq_some_iff`: then the value of a key is the one that stands beside it.
* `Counted.Yields`: what holds of every value that a counting computation gives.
* `hasDistinctKeys_of_load`: the tree of a text has distinct keys.
-/

namespace ComponentSpec

namespace Yaml

/-! ## Keys that collide -/

namespace Node

theorem sameEntries_of_subset {es fs : Mapping}
    (h : ∀ e ∈ es, e ∈ fs ∧ same e.1 e.1 = true ∧ same e.2 e.2 = true) :
    sameEntries es fs = true := by
  induction es with
  | nil => rfl
  | cons e es ih =>
    obtain ⟨mem, key, value⟩ := h e List.mem_cons_self
    rw [sameEntries, Bool.and_eq_true, List.any_eq_true]
    exact ⟨⟨e, mem, by rw [key, value]; rfl⟩, ih fun e he => h e (List.mem_cons_of_mem _ he)⟩

mutual

theorem same_refl (v : Node) : same v v = true := by
  cases v with
  | null => rfl
  | float x => cases h : x.isNaN <;> simp [same, Binary64.same, h]
  | sequence xs => exact sameAll_refl xs
  | mapping es =>
    simp only [same, beq_self_eq_true, Bool.true_and]
    exact sameEntries_of_subset fun e he => ⟨he, same_refl_entries es e he⟩
  | tagged t v => simp [same, same_refl v]
  | _ => simp [same]

theorem sameAll_refl (xs : List Node) : sameAll xs xs = true := by
  cases xs with
  | nil => rfl
  | cons x xs => simp [sameAll, same_refl x, sameAll_refl xs]

theorem same_refl_entries (es : List (Node × Node)) :
    ∀ e ∈ es, same e.1 e.1 = true ∧ same e.2 e.2 = true := by
  cases es with
  | nil => simp
  | cons e es =>
    obtain ⟨k, v⟩ := e
    intro e he
    rcases List.mem_cons.1 he with rfl | he
    · exact ⟨same_refl k, same_refl v⟩
    · exact same_refl_entries es e he

end

/-- No mapping in a value binds a key twice. What is in the keys does not count. -/
inductive HasDistinctKeys : Node → Prop
  | null : HasDistinctKeys null
  | boolean (b : Bool) : HasDistinctKeys (boolean b)
  | integer (n : Integer) : HasDistinctKeys (integer n)
  | float (x : Binary64) : HasDistinctKeys (float x)
  | text (s : String) : HasDistinctKeys (text s)
  | sequence {xs : List Node} (items : ∀ x ∈ xs, HasDistinctKeys x) : HasDistinctKeys (sequence xs)
  | mapping {m : Mapping} (distinct : (m.map Prod.fst).Nodup)
      (values : ∀ e ∈ m, HasDistinctKeys e.2) : HasDistinctKeys (mapping m)
  | tagged {tag : String} {v : Node} (value : HasDistinctKeys v) : HasDistinctKeys (tagged tag v)

end Node

theorem Mapping.notMem_of_not_hasKey {m : Mapping} {k : Node} (h : m.hasKey k = false) :
    k ∉ m.map Prod.fst := by
  intro hk
  obtain ⟨e, he, rfl⟩ := List.mem_map.1 hk
  rw [hasKey, List.any_eq_false] at h
  exact h e he (Node.same_refl e.1)

/-! ## Looking up -/

namespace Mapping

variable {m : Mapping} {key : String} {v : Node}

theorem get?_cons (k x : Node) (m : Mapping) (key : String) :
    get? ((k, x) :: m) key = if k = .text key then some x else get? m key := by
  cases k with
  | text s => simp [get?]
  | _ => rfl

theorem get?_append (m n : Mapping) (key : String) :
    get? (m ++ n) key = (get? m key).or (get? n key) := by
  induction m with
  | nil => rfl
  | cons e m ih =>
    rw [List.cons_append, get?_cons, get?_cons, ih]
    split <;> rfl

theorem get?_eq_some_iff (distinct : (m.map Prod.fst).Nodup) :
    m.get? key = some v ↔ (.text key, v) ∈ m := by
  induction m with
  | nil => simp [get?]
  | cons e m ih =>
    obtain ⟨k, x⟩ := e
    obtain ⟨new, rest⟩ := List.nodup_cons.1 distinct
    rw [get?_cons, List.mem_cons]
    by_cases hk : k = .text key
    · subst hk
      have absent : (Node.text key, v) ∉ m := fun hv => new (List.mem_map.2 ⟨_, hv, rfl⟩)
      simp [absent, eq_comm]
    · rw [if_neg hk, ih rest]
      simp [Ne.symm hk]

theorem field?_eq_some_iff (distinct : (m.map Prod.fst).Nodup) :
    m.field? key = some v ↔ (.text key, v) ∈ m ∧ v.isNull = false := by
  rw [field?, Option.filter_eq_some_iff, get?_eq_some_iff distinct]
  simp

end Mapping

/-! ## Computations that count -/

namespace Counted

variable {α β : Type}

/-- Every value that a computation gives has a property. -/
def Yields (post : α → Prop) (x : Counted α) : Prop :=
  ∀ n a n', x.run n = some (a, n') → post a

variable {post : α → Prop} {post' : β → Prop}

theorem Yields.pure {a : α} (h : post a) : Yields post (pure a) := by
  intro n _ _ run
  cases run
  exact h

theorem Yields.failure : Yields post failure := by
  intro n _ _ run
  cases run

theorem Yields.bind {x : Counted α} {f : α → Counted β} (h : x.Yields post)
    (next : ∀ a, post a → (f a).Yields post') : Yields post' (x >>= f) := by
  intro n b n' run
  rw [StateT.run_bind, Option.bind_eq_bind, Option.bind_eq_some_iff] at run
  obtain ⟨⟨a, n₁⟩, hx, hf⟩ := run
  exact next a (h n a n₁ hx) n₁ b n' hf

theorem Yields.trivial (x : Counted α) : x.Yields fun _ => True := fun _ _ _ _ => True.intro

theorem Yields.ofGuard {c : Prop} [Decidable c] :
    Yields (fun _ => c) (guard c : Counted Unit) := by
  intro n a n' run
  by_cases h : c
  · exact h
  · have stops : (guard c : Counted Unit) = Alternative.failure := if_neg h
    rw [stops] at run
    cases run

theorem Yields.ofOption {x : Option α} (h : ∀ a, x = some a → post a) :
    Yields post (x : Counted α) := by
  intro n a n' run
  cases x with
  | none => cases run
  | some a' =>
    cases run
    exact h a rfl

theorem Yields.mapM {f : α → Counted β} (h : ∀ a, (f a).Yields post') (as : List α) :
    Yields (fun bs => ∀ b ∈ bs, post' b) (as.mapM f) := by
  induction as with
  | nil =>
    rw [List.mapM_nil]
    exact .pure (by simp)
  | cons a as ih =>
    rw [List.mapM_cons]
    refine (h a).bind fun b hb => ih.bind fun bs hbs => .pure ?_
    intro c hc
    rcases List.mem_cons.1 hc with rfl | hc
    · exact hb
    · exact hbs c hc

end Counted

/-! ## Reading -/

open Counted

theorem integerOr?_eq_some {cs : List Char} {rest : Option Node} {v : Node}
    (h : integerOr? cs rest = some v) : (∃ n, v = .integer n) ∨ rest = some v := by
  unfold integerOr? at h
  split at h
  · exact .inr h
  · split at h
    · exact .inl ⟨_, (Option.some.inj h).symm⟩
    · split at h
      · cases h
      · exact .inr h

theorem Node.hasDistinctKeys_of_ofPlain? {s : String} {v : Node} (h : ofPlain? s = some v) :
    v.HasDistinctKeys := by
  unfold ofPlain? at h
  split at h
  · cases h
    exact .null
  · split at h
    · cases h
      exact .boolean _
    · rcases integerOr?_eq_some h with ⟨n, rfl⟩ | h
      · exact .integer n
      · split at h
        · cases h
          exact .text s
        · split at h <;> cases h
          · exact .float _
          · exact .text s

theorem Node.hasDistinctKeys_of_ofScalar? {tag : Option TagBytes} {text : String} {plain : Bool}
    {v : Node} (h : ofScalar? tag text plain = some v) : v.HasDistinctKeys := by
  have untagged : ofUntagged? text plain = some v → v.HasDistinctKeys := by
    intro h
    unfold ofUntagged? at h
    split at h
    · exact hasDistinctKeys_of_ofPlain? h
    · cases h
      exact .text text
  unfold ofScalar? at h
  split at h
  · exact untagged h
  · exact untagged h
  · obtain ⟨b, -, rfl⟩ := Option.map_eq_some_iff.1 h
    exact .boolean b
  · rcases integerOr?_eq_some h with ⟨n, rfl⟩ | h
    · exact .integer n
    · cases h
  · obtain ⟨x, -, rfl⟩ := Option.map_eq_some_iff.1 h
    exact .float x
  · split at h <;> cases h
    exact .null
  · cases h
    exact .text text

namespace Reading

theorem hasDistinctKeys_wrap {v : Node} (h : v.HasDistinctKeys) (tag : Option String) :
    (wrap tag v).HasDistinctKeys := by
  cases tag with
  | none => exact h
  | some name => exact .tagged h

/-- What holds of a mapping while its entries are read. -/
structure Binds (m : Mapping) : Prop where
  distinct : (m.map Prod.fst).Nodup
  values : ∀ e ∈ m, e.2.HasDistinctKeys

theorem entries_yields {key value : Tree Nat → Counted Node}
    (h : ∀ t, (value t).Yields Node.HasDistinctKeys) (es : List (Tree Nat × Tree Nat))
    (m : Mapping) (hm : Binds m) : (entries key value es m).Yields Binds := by
  induction es generalizing m with
  | nil => exact .pure hm
  | cons e es ih =>
    obtain ⟨k, v⟩ := e
    rw [entries]
    refine (Yields.trivial (key k)).bind fun k _ => ?_
    refine Yields.ofGuard.bind fun _ new => ?_
    refine (h v).bind fun v hv => ih (m ++ [(k, v)]) ⟨?_, fun e he => ?_⟩
    · have fresh : k ∉ m.map Prod.fst := Mapping.notMem_of_not_hasKey (by simpa using new)
      rw [List.map_append]
      refine List.nodup_append.2 ⟨hm.distinct, by simp, ?_⟩
      rintro _ hk _ hk' rfl
      rw [List.mem_singleton.1 hk'] at hk
      exact fresh hk
    · rcases List.mem_append.1 he with he | he
      · exact hm.values e he
      · rw [List.mem_singleton.1 he]
        exact hv

/-- What a tree gives where collections give nothing. -/
theorem scalar_yields (tag : Option TagBytes) (text : String) (plain : Bool) :
    Yields Node.HasDistinctKeys (do
      let v ← (Node.ofScalar? tag text plain : Option Node)
      return wrap (ownTag? tag) v) :=
  (Yields.ofOption fun _ => Node.hasDistinctKeys_of_ofScalar?).bind fun _ h =>
    .pure (hasDistinctKeys_wrap h _)

/-- What a tree is read as where no collection is allowed. -/
theorem node_zero (r : Reading) (tagged : Bool) (t : Tree Nat) :
    r.node 0 tagged t = (r.follow t >>= fun p => match p.1 with
      | .scalar _ tag text plain => do
        let tag := if tagged && p.2 then none else tag
        let v ← (Node.ofScalar? tag text plain : Option Node)
        return wrap (ownTag? tag) v
      | _ => failure) := by
  -- the depth is told apart below a bind, so there is no equation of `node` to rewrite with
  delta node
  refine bind_congr fun ⟨t, direct⟩ => ?_
  cases t <;> rfl

/-- What a tree is read as where collections are allowed. -/
theorem node_succ (r : Reading) (depth : Nat) (tagged : Bool) (t : Tree Nat) :
    r.node (depth + 1) tagged t = (r.follow t >>= fun p => match p.1 with
      | .reference _ => failure
      | .scalar _ tag text plain => do
        let tag := if tagged && p.2 then none else tag
        let v ← (Node.ofScalar? tag text plain : Option Node)
        return wrap (ownTag? tag) v
      | .sequence _ tag items => do
        let own := if tagged && p.2 then none else ownTag? tag
        let xs ← items.mapM (node r depth false)
        return wrap own (.sequence xs)
      | .mapping _ tag es => do
        let own := if tagged && p.2 then none else ownTag? tag
        let m ← entries (node r depth ((tagged && p.2) || own.isSome)) (node r depth false) es []
        return wrap own (.mapping m)) := by
  delta node
  refine bind_congr fun ⟨t, direct⟩ => ?_
  cases t <;> rfl

theorem node_yields (r : Reading) (depth : Nat) (tagged : Bool) (t : Tree Nat) :
    (r.node depth tagged t).Yields Node.HasDistinctKeys := by
  induction depth generalizing tagged t with
  | zero =>
    rw [node_zero]
    refine (Yields.trivial (r.follow t)).bind fun ⟨t, direct⟩ _ => ?_
    cases t with
    | scalar anchor tag text plain => exact scalar_yields _ text plain
    | _ => exact .failure
  | succ depth ih =>
    rw [node_succ]
    refine (Yields.trivial (r.follow t)).bind fun ⟨t, direct⟩ _ => ?_
    cases t with
    | reference i => exact .failure
    | scalar anchor tag text plain => exact scalar_yields _ text plain
    | sequence anchor tag items =>
      refine (Yields.mapM (ih false) items).bind fun xs hxs => .pure ?_
      exact hasDistinctKeys_wrap (.sequence hxs) _
    | mapping anchor tag es =>
      refine (entries_yields (ih false) es [] ⟨.nil, by simp⟩).bind fun m hm => .pure ?_
      exact hasDistinctKeys_wrap (.mapping hm.distinct hm.values) _

end Reading

theorem Node.hasDistinctKeys_of_ofText? {s : String} {v : Node} (h : ofText? s = some v) :
    v.HasDistinctKeys := by
  unfold ofText? at h
  simp only [Option.bind_eq_bind, Option.bind_eq_some_iff] at h
  obtain ⟨_, -, _, -, t, -, h⟩ := h
  obtain ⟨⟨v, n⟩, run, rfl⟩ := Option.map_eq_some_iff.1 h
  exact Reading.node_yields _ _ _ _ 0 v n run

end Yaml

theorem hasDistinctKeys_of_load {text : String} {root : Yaml.Node}
    (h : loadDocument text = .ok root) : root.HasDistinctKeys := by
  unfold loadDocument at h
  split at h
  · cases h
  · split at h
    · rename_i loaded
      cases h
      exact Yaml.Node.hasDistinctKeys_of_ofText? loaded
    · cases h

end ComponentSpec
