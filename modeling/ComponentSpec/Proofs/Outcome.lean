import ComponentSpec.Log
import ComponentSpec.Declaration.Field

/-!
# ComponentSpec.Proofs.Outcome

How computations end that are put together from others.

* `bind_eq_ok_iff`, `bind_eq_error_iff`: one computation after another.
* `foldlM_eq_error_iff`: a run over a list ends with the failure of the first step that fails.
* `Checked.Ensures`: what holds of the result of a check, and the kinds of its faults.
-/

namespace ComponentSpec

/-! ## Steps and runs -/

section Except

variable {ε α β : Type}

theorem bind_eq_ok_iff {x : Except ε α} {f : α → Except ε β} {b : β} :
    x >>= f = .ok b ↔ ∃ a, x = .ok a ∧ f a = .ok b := by
  cases x with
  | error e => exact ⟨fun h => (by cases h), fun ⟨_, h, _⟩ => (by cases h)⟩
  | ok a =>
    constructor
    · exact fun h => ⟨a, rfl, h⟩
    · rintro ⟨a', h, h'⟩
      cases h
      exact h'

theorem outcome_bind_eq_ok_iff {x : Traced ε α} {f : α → Traced ε β} {b : β} :
    (x >>= f).outcome = .ok b ↔ ∃ a, x.outcome = .ok a ∧ (f a).outcome = .ok b := by
  rw [Traced.bind_eq, Traced.outcome_andThen, bind_eq_ok_iff]

theorem bind_eq_error_iff {x : Except ε α} {f : α → Except ε β} {e : ε} :
    x >>= f = .error e ↔ x = .error e ∨ ∃ a, x = .ok a ∧ f a = .error e := by
  cases x with
  | error e' =>
    constructor
    · intro h
      cases h
      exact .inl rfl
    · rintro (h | ⟨_, h, _⟩)
      · cases h
        rfl
      · cases h
  | ok a =>
    constructor
    · exact fun h => .inr ⟨a, rfl, h⟩
    · rintro (h | ⟨a', h, h'⟩)
      · cases h
      · cases h
        exact h'

theorem map_eq_ok_iff {f : α → β} {x : Except ε α} {b : β} :
    x.map f = .ok b ↔ ∃ a, x = .ok a ∧ f a = b := by
  cases x with
  | error e => exact ⟨fun h => (by cases h), fun ⟨_, h, _⟩ => (by cases h)⟩
  | ok a => simp [Except.map]

theorem mapError_eq_ok_iff {ε' : Type} {f : ε → ε'} {x : Except ε α} {a : α} :
    x.mapError f = .ok a ↔ x = .ok a := by
  cases x with
  | error e => exact ⟨fun h => (by cases h), fun h => (by cases h)⟩
  | ok b =>
    constructor
    · intro h
      cases h
      rfl
    · intro h
      cases h
      rfl

theorem mapError_eq_error_iff {ε' : Type} {f : ε → ε'} {x : Except ε α} {e : ε'} :
    x.mapError f = .error e ↔ ∃ e', x = .error e' ∧ e = f e' := by
  cases x with
  | error e' =>
    constructor
    · intro h
      cases h
      exact ⟨e', rfl, rfl⟩
    · rintro ⟨_, h, rfl⟩
      cases h
      rfl
  | ok b => exact ⟨fun h => (by cases h), fun ⟨_, h, _⟩ => (by cases h)⟩

theorem exists_ok_of_toOption_map {x : Except ε α} {f : α → β} {b : β}
    (h : x.toOption.map f = some b) : ∃ a, x = .ok a ∧ f a = b := by
  cases x with
  | error e => cases h
  | ok a => exact ⟨a, rfl, Option.some.inj h⟩

theorem foldlM_concat_eq_ok_iff {step : β → α → Except ε β} {xs : List α} {x : α} {b c : β} :
    (xs ++ [x]).foldlM step b = .ok c ↔ ∃ a, xs.foldlM step b = .ok a ∧ step a x = .ok c := by
  rw [List.foldlM_append, bind_eq_ok_iff]
  simp

/-- Runs over one list, each step of one of which the other one can follow. -/
theorem foldlM_follows {γ : Type} {related : β → γ → Prop} {step : β → α → Except ε β}
    {step' : γ → α → Except ε γ}
    (follows : ∀ {b c x b'}, related b c → step b x = .ok b' →
      ∃ c', step' c x = .ok c' ∧ related b' c')
    {xs : List α} {b b' : β} {c : γ} (start : related b c) (run : xs.foldlM step b = .ok b') :
    ∃ c', xs.foldlM step' c = .ok c' ∧ related b' c' := by
  induction xs generalizing b c with
  | nil =>
    cases run
    exact ⟨c, rfl, start⟩
  | cons x xs ih =>
    rw [List.foldlM_cons] at run
    obtain ⟨b₁, h₁, run⟩ := bind_eq_ok_iff.1 run
    obtain ⟨c₁, h₁', next⟩ := follows start h₁
    obtain ⟨c', run', last⟩ := ih next run
    refine ⟨c', ?_, last⟩
    rw [List.foldlM_cons]
    exact bind_eq_ok_iff.2 ⟨c₁, h₁', run'⟩

/-- A run succeeds up to the step that fails, whatever comes after it. -/
theorem foldlM_eq_error_iff {step : β → α → Except ε β} {xs : List α} {b : β} {e : ε} :
    xs.foldlM step b = .error e ↔ ∃ before x after c, xs = before ++ x :: after ∧
      before.foldlM step b = .ok c ∧ step c x = .error e := by
  constructor
  · intro h
    induction xs generalizing b with
    | nil => cases h
    | cons x xs ih =>
      rw [List.foldlM_cons] at h
      rcases bind_eq_error_iff.1 h with h | ⟨c, hc, h⟩
      · exact ⟨[], x, xs, b, rfl, rfl, h⟩
      · obtain ⟨before, y, after, d, rfl, hd, hy⟩ := ih h
        refine ⟨x :: before, y, after, d, rfl, ?_, hy⟩
        rw [List.foldlM_cons]
        exact bind_eq_ok_iff.2 ⟨c, hc, hd⟩
  · rintro ⟨before, x, after, c, rfl, hc, hx⟩
    rw [List.foldlM_append, hc]
    change (x :: after).foldlM step c = .error e
    rw [List.foldlM_cons, hx]
    rfl

end Except

/-! ## Checks -/

namespace Checked

/-- A result has a property, and a fault is of one of some kinds. -/
def Ensures {α : Type} (post : α → Prop) (kinds : List Kind) : Checked α → Prop
  | .ok a => post a
  | .error f => f.kind ∈ kinds

variable {α β : Type} {post : α → Prop} {post' : β → Prop} {kinds : List Kind}

theorem Ensures.ok {x : Checked α} {a : α} (h : x.Ensures post kinds) (hx : x = .ok a) :
    post a := by
  subst hx; exact h

theorem Ensures.error {x : Checked α} {f : Fault} (h : x.Ensures post kinds) (hx : x = .error f) :
    f.kind ∈ kinds := by
  subst hx; exact h

theorem Ensures.kind_eq {x : Checked α} {f : Fault} {k : Kind} (h : x.Ensures post [k])
    (hx : x = .error f) : f.kind = k := List.mem_singleton.1 (h.error hx)

theorem Ensures.mono {x : Checked α} {kinds' : List Kind} {post' : α → Prop}
    (h : x.Ensures post kinds) (hp : ∀ a, post a → post' a) (hk : ∀ k ∈ kinds, k ∈ kinds') :
    x.Ensures post' kinds' := by
  cases x with
  | ok a => exact hp a h
  | error f => exact hk _ h

theorem Ensures.bind {x : Checked α} {f : α → Checked β} (h : x.Ensures post kinds)
    (hf : ∀ a, post a → (f a).Ensures post' kinds) : Ensures post' kinds (x >>= f) := by
  cases x with
  | ok a => exact hf a h
  | error e => exact h

theorem Ensures.map {x : Checked α} {f : α → β} (h : x.Ensures post kinds)
    (hf : ∀ a, post a → post' (f a)) : Ensures post' kinds (x.map f) := by
  cases x with
  | ok a => exact hf a h
  | error e => exact h

/-- The rule for one step after another, of computations that report events. -/
theorem Ensures.andThen {x : Traced Fault α} {f : α → Traced Fault β}
    (h : Ensures post kinds x.outcome) (hf : ∀ a, post a → Ensures post' kinds (f a).outcome) :
    Ensures post' kinds (x >>= f).outcome := by
  rw [Traced.bind_eq, Traced.outcome_andThen]
  exact h.bind hf

end Checked

end ComponentSpec
