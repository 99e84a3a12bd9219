import ComponentSpec.Proofs.Outcome
import Mathlib.Data.List.Forall2

/-!
# ComponentSpec.Proofs.Following

Two computations side by side, where the second is to end like the first.

* `Follows`: the results are related, or both fail with one fault. A lax follower may do anything
  once the first has failed.
* `Follows.bind`, `Follows.andThen`, `Follows.map`, `Follows.mapError`: one rule for each way to put
  computations together.
* `optionRel_elim`: cases on two options that are related.
* `readAll_follows`, `foldlM_follows_forall₂`: runs over two lists whose items are related.
* `Follows.eq`, `Follows.ok_of_eq_ok`: what a follower of equal results says of the outcomes.
-/

namespace ComponentSpec

variable {ε ε' α β γ δ : Type} {lax : Prop} {R : α → β → Prop} {S : γ → δ → Prop}

inductive Follows (lax : Prop) (R : α → β → Prop) : Except ε α → Except ε β → Prop
  | ok {a : α} {b : β} (related : R a b) : Follows lax R (.ok a) (.ok b)
  | error (e : ε) : Follows lax R (.error e) (.error e)
  | lenient (h : lax) (e : ε) (y : Except ε β) : Follows lax R (.error e) y

namespace Follows

theorem refl {R : α → α → Prop} (h : ∀ a, R a a) (x : Except ε α) : Follows lax R x x := by
  cases x with
  | ok a => exact .ok (h a)
  | error e => exact .error e

theorem of_eq {x y : Except ε α} (h : x = y) : Follows lax Eq x y := h ▸ refl (fun _ => rfl) x

theorem eq {x y : Except ε α} (h : Follows False Eq x y) : x = y := by
  cases h with
  | ok related => rw [related]
  | error e => rfl
  | lenient h => exact h.elim

theorem ok_of_eq_ok {x y : Except ε α} {a : α} (h : Follows lax Eq x y) (hx : x = .ok a) :
    y = .ok a := by
  subst hx
  cases h with
  | ok related => rw [related]

/-- What is lax has to follow a success alone. -/
theorem of_ok {x : Except ε α} {y : Except ε β} (h : ∀ a, x = .ok a → ∃ b, y = .ok b ∧ R a b) :
    Follows True R x y := by
  cases x with
  | error e => exact .lenient trivial e y
  | ok a =>
    obtain ⟨b, rfl, related⟩ := h a rfl
    exact .ok related

theorem mono {R' : α → β → Prop} {x : Except ε α} {y : Except ε β} (h : Follows lax R x y)
    (hR : ∀ a b, R a b → R' a b) : Follows lax R' x y := by
  cases h with
  | ok related => exact .ok (hR _ _ related)
  | error e => exact .error e
  | lenient h e y => exact .lenient h e y

theorem bind {x : Except ε α} {y : Except ε β} {f : α → Except ε γ} {g : β → Except ε δ}
    (h : Follows lax R x y) (next : ∀ a b, R a b → Follows lax S (f a) (g b)) :
    Follows lax S (x >>= f) (y >>= g) := by
  cases h with
  | ok related => exact next _ _ related
  | error e => exact .error e
  | lenient h e y => exact .lenient h e (y >>= g)

/-- The rule for one step after another, of computations that report events. -/
theorem andThen {x : Traced ε α} {y : Traced ε β} {f : α → Traced ε γ} {g : β → Traced ε δ}
    (h : Follows lax R x.outcome y.outcome)
    (next : ∀ a b, R a b → Follows lax S (f a).outcome (g b).outcome) :
    Follows lax S (x >>= f).outcome (y >>= g).outcome := by
  rw [Traced.bind_eq, Traced.bind_eq, Traced.outcome_andThen, Traced.outcome_andThen]
  exact h.bind next

theorem map {x : Except ε α} {y : Except ε β} {f : α → γ} {g : β → δ} (h : Follows lax R x y)
    (hS : ∀ a b, R a b → S (f a) (g b)) : Follows lax S (x.map f) (y.map g) := by
  cases h with
  | ok related => exact .ok (hS _ _ related)
  | error e => exact .error e
  | lenient h e y => exact .lenient h e (y.map g)

theorem mapError {x : Except ε α} {y : Except ε β} (f : ε → ε') (h : Follows lax R x y) :
    Follows lax R (x.mapError f) (y.mapError f) := by
  cases h with
  | ok related => exact .ok related
  | error e => exact .error (f e)
  | lenient h e y => exact .lenient h (f e) (y.mapError f)

end Follows

/-! ## Optional values -/

theorem optionRel_refl {R : α → α → Prop} (h : ∀ a, R a a) (a : Option α) : Option.Rel R a a := by
  cases a with
  | none => exact .none
  | some a => exact .some (h a)

theorem isNone_eq_of_optionRel {a : Option α} {b : Option β} (h : Option.Rel R a b) :
    a.isNone = b.isNone := by
  cases h <;> rfl

/-- Two related options are absent together, or both there and related. -/
@[elab_as_elim]
theorem optionRel_elim {motive : Option α → Option β → Prop} {a : Option α} {b : Option β}
    (h : Option.Rel R a b) (absent : motive none none)
    (present : ∀ v w, R v w → motive (some v) (some w)) : motive a b := by
  cases h with
  | none => exact absent
  | some related => exact present _ _ related

/-! ## Runs -/

theorem readAll_follows {T : Yaml.Node → Yaml.Node → Prop} {read : Yaml.Node → Checked α}
    {read' : Yaml.Node → Checked β} (h : ∀ v w, T v w → Follows lax R (read v) (read' w))
    {vs ws : List Yaml.Node} (items : List.Forall₂ T vs ws) :
    Follows lax (List.Forall₂ R) (readAll read vs) (readAll read' ws) := by
  induction items with
  | nil => exact .ok .nil
  | cons head _ ih =>
    rw [readAll, readAll]
    exact (h _ _ head).bind fun a b first => ih.bind fun as bs rest => .ok (.cons first rest)

theorem readAll_follows_eq {T : Yaml.Node → Yaml.Node → Prop} {read read' : Yaml.Node → Checked α}
    (h : ∀ v w, T v w → Follows lax Eq (read v) (read' w)) {vs ws : List Yaml.Node}
    (items : List.Forall₂ T vs ws) : Follows lax Eq (readAll read vs) (readAll read' ws) :=
  (readAll_follows h items).mono fun _ _ => List.forall₂_eq_eq_eq ▸ id

theorem foldlM_follows_forall₂ {step : γ → α → Except ε γ} {step' : γ → β → Except ε γ}
    (h : ∀ c a b, R a b → Follows lax Eq (step c a) (step' c b)) {as : List α} {bs : List β}
    (items : List.Forall₂ R as bs) (c : γ) :
    Follows lax Eq (as.foldlM step c) (bs.foldlM step' c) := by
  induction items generalizing c with
  | nil => exact .ok rfl
  | cons head _ ih =>
    rw [List.foldlM_cons, List.foldlM_cons]
    refine (h c _ _ head).bind ?_
    rintro c₁ _ rfl
    exact ih c₁

end ComponentSpec
