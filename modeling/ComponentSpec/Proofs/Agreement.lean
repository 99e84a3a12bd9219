import ComponentSpec.Pattern.Lexeme
import Mathlib.Data.List.TakeWhile
import Mathlib.Data.Option.Basic

/-!
# ComponentSpec.Proofs.Agreement

A pattern is read alike where it stands alone and in the text for whole names, where `closing` comes
after it.

* `Agree`: what is read from a text and what is read from the text before `closing`. What ends
  within the text is the same, and all that is read from the text alone is also read before
  `closing`.
* `Agree.bind`, `Agree.map`, `Agree.skipped`: how readings are put together.
* `agree_readEscape?`: escapes agree. Only `\b` before an open brace that nothing follows is read in
  one case and not in the other (`Dangling`).

For each reader there are two statements, in the order of the readers: it leaves a suffix of the
text, and its readings agree.
-/

namespace ComponentSpec.Pattern

/-- What follows a pattern in the text for whole names. -/
def closing : List Char := [')', '$']

variable {α β γ : Type} {v : Bool} {c : Char} {cs rest r s : List Char}

/-- What is left of a text, if `closing` is still there, ends with it. -/
theorem exists_append_closing (h : s ++ closing <:+ r) : ∃ t, r = t ++ closing := by
  obtain ⟨u, rfl⟩ := h
  exact ⟨u ++ s, by simp⟩

theorem not_append_closing (short : r.length < closing.length) : ¬ s ++ closing <:+ r := by
  intro h
  have := h.length_le
  rw [List.length_append] at this
  omega

/-! ## Suffixes -/

theorem suffix_of_done {a b : α} (h : some (a, r) = some (b, s)) : s <:+ r := by
  cases h
  exact List.suffix_rfl

theorem suffix_of_branch {p : Prop} [Decidable p] {x y : Option (α × List Char)} {a : α}
    (h : (if p then x else y) = some (a, r)) (hx : x = some (a, r) → r <:+ cs)
    (hy : y = some (a, r) → r <:+ cs) : r <:+ cs := by
  split at h
  · exact hx h
  · exact hy h

theorem suffix_of_given {g : Option γ} {f : γ → Option (α × List Char)} {a : α}
    (h : g >>= f = some (a, r)) (hf : ∀ c, f c = some (a, r) → r <:+ cs) : r <:+ cs := by
  obtain ⟨c, -, h⟩ := Option.bind_eq_some_iff.1 h
  exact hf c h

theorem suffix_of_bind {x : Option (α × List Char)} {f : α × List Char → Option (β × List Char)}
    {b : β} (h : x >>= f = some (b, s)) (hx : ∀ a r, x = some (a, r) → r <:+ cs)
    (hf : ∀ a r, f (a, r) = some (b, s) → s <:+ r) : s <:+ cs := by
  obtain ⟨⟨a, r⟩, ha, h⟩ := Option.bind_eq_some_iff.1 h
  exact (hf a r h).trans (hx a r ha)

theorem suffix_of_map {x : Option (α × List Char)} {f : α → β} {b : β}
    (h : x.map (fun (a, t) => (f a, t)) = some (b, s)) (hx : ∀ a r, x = some (a, r) → r <:+ cs) :
    s <:+ cs := by
  obtain ⟨⟨a, r⟩, ha, e⟩ := Option.map_eq_some_iff.1 h
  cases e
  exact hx _ _ ha

/-! ## Agreement -/

/-- Readings `x` of a text and `y` of the text before `closing`. What `y` leaves may be exempt from
the agreement. -/
structure Agree (exempt : α → List Char → Prop) (x y : Option (α × List Char)) : Prop where
  shrink : ∀ a r, y = some (a, r ++ closing) → x = some (a, r) ∨ exempt a r
  extend : ∀ a r, x = some (a, r) → y = some (a, r ++ closing)

/-- Nothing is exempt. -/
def Never (_ : α) (_ : List Char) : Prop := False

namespace Agree

variable {E : α → List Char → Prop} {E' : β → List Char → Prop} {x y : Option (α × List Char)}

theorem fail (h : ∀ a r, y = some (a, r ++ closing) → E a r) : Agree E none y :=
  ⟨fun a r hy => .inr (h a r hy), nofun⟩

theorem none : Agree E none none := fail fun _ _ h => by cases h

theorem done (a : α) (r : List Char) : Agree E (some (a, r)) (some (a, r ++ closing)) where
  shrink := by
    intro b s h
    obtain ⟨rfl, same⟩ := Prod.mk.inj (Option.some.inj h)
    exact .inl (by rw [List.append_cancel_right same])
  extend := by
    rintro b s ⟨⟩
    rfl

/-- A text that is at its end has nothing to read. What is read of `closing` then cuts into it. -/
theorem past (short : r.length < closing.length) (suffix : ∀ a s, y = some (a, s) → s <:+ r) :
    Agree E .none y :=
  fail fun _ _ h => absurd (suffix _ _ h) (not_append_closing short)

theorem weaken (h : Agree Never x y) : Agree E x y where
  shrink := fun a r hy => (h.shrink a r hy).imp_right fun h => h.elim
  extend := h.extend

theorem branch {p : Prop} {i j : Decidable p} {x' y' : Option (α × List Char)}
    (h : p → Agree E x y) (h' : ¬ p → Agree E x' y') :
    Agree E (@ite _ p i x x') (@ite _ p j y y') := by
  by_cases hp : p
  · rw [if_pos hp, if_pos hp]
    exact h hp
  · rw [if_neg hp, if_neg hp]
    exact h' hp

/-- A condition on what has been read before. -/
theorem given (g : Option γ) {f f' : γ → Option (α × List Char)}
    (h : ∀ c, Agree E (f c) (f' c)) : Agree E (g >>= f) (g >>= f') := by
  cases g with
  | none => exact Agree.none
  | some c => exact h c

/-- One reading after another one. The second leaves a suffix, so that the first has not come to
`closing` unless both have. -/
theorem bind {f f' : α × List Char → Option (β × List Char)} (h : Agree E x y)
    (hf : ∀ a r, Agree E' (f (a, r)) (f' (a, r ++ closing)))
    (suffix : ∀ a r b s, f' (a, r) = some (b, s) → s <:+ r)
    (hE : ∀ a r b s, E a r → f' (a, r ++ closing) = some (b, s ++ closing) → E' b s) :
    Agree E' (x >>= f) (y >>= f') where
  shrink := by
    intro b s hy
    obtain ⟨⟨a, r⟩, hy, hfr⟩ := Option.bind_eq_some_iff.1 hy
    obtain ⟨t, rfl⟩ := exists_append_closing (suffix _ _ _ _ hfr)
    rcases h.shrink _ _ hy with hx | exempt
    · rcases (hf a t).shrink _ _ hfr with hf | exempt
      · exact .inl (Option.bind_eq_some_iff.2 ⟨_, hx, hf⟩)
      · exact .inr exempt
    · exact .inr (hE _ _ _ _ exempt hfr)
  extend := by
    intro b s hx
    obtain ⟨⟨a, r⟩, hx, hfr⟩ := Option.bind_eq_some_iff.1 hx
    exact Option.bind_eq_some_iff.2 ⟨_, h.extend _ _ hx, (hf a r).extend _ _ hfr⟩

theorem step {f f' : α × List Char → Option (β × List Char)} (h : Agree Never x y)
    (hf : ∀ a r, Agree E' (f (a, r)) (f' (a, r ++ closing)))
    (suffix : ∀ a r b s, f' (a, r) = some (b, s) → s <:+ r) : Agree E' (x >>= f) (y >>= f') :=
  h.bind hf suffix fun _ _ _ _ h => h.elim

theorem map (h : Agree Never x y) (f : α → β) :
    Agree Never (x.map fun (a, r) => (f a, r)) (y.map fun (a, r) => (f a, r)) := by
  have both : ∀ z : Option (α × List Char), z.map (fun (a, r) => (f a, r)) =
      z >>= fun (a, r) => some (f a, r) := fun z => by cases z <;> rfl
  rw [both, both]
  exact h.step (fun _ _ => done _ _) fun _ _ _ _ => suffix_of_done

end Agree

/-! ## White space and comments -/

theorem skipFrom_suffix (inComment : Bool) (cs : List Char) : skipFrom v inComment cs <:+ cs := by
  induction cs generalizing inComment with
  | nil => exact List.suffix_rfl
  | cons c cs ih =>
    have later : ∀ b, skipFrom v b cs <:+ c :: cs := fun b =>
      (ih b).trans (List.suffix_cons c cs)
    simp only [skipFrom]
    split
    · exact List.suffix_rfl
    · split
      · exact later _
      · split
        · exact later _
        · split
          · exact later _
          · exact List.suffix_rfl

theorem skip_suffix (cs : List Char) : skip v cs <:+ cs := skipFrom_suffix false cs

theorem suffix_of_skip (h : skip v cs = c :: rest) (hr : r <:+ rest) : r <:+ cs :=
  (hr.trans (List.suffix_cons c rest)).trans (h ▸ skip_suffix cs)

theorem length_lt_of_skip (h : skip v cs = c :: rest) : rest.length < cs.length := by
  have := (skip_suffix (v := v) cs).length_le
  rw [h, List.length_cons] at this
  omega

theorem skipFrom_append (inComment : Bool) (cs : List Char) :
    skipFrom v inComment (cs ++ closing) = skipFrom v inComment cs ++ closing ∨
      v = true ∧ skipFrom v inComment cs = [] ∧ skipFrom v inComment (cs ++ closing) = [] := by
  induction cs generalizing inComment with
  | nil =>
    cases v with
    | false => exact .inl rfl
    | true =>
      cases inComment with
      | false => exact .inl (by decide)
      | true => exact .inr ⟨rfl, rfl, by decide⟩
  | cons c cs ih =>
    simp only [List.cons_append, skipFrom]
    split
    · exact .inl rfl
    · split
      · exact ih _
      · split
        · exact ih _
        · split
          · exact ih _
          · exact .inl rfl

/-- Skipping comes to the same place, or `closing` is in a comment that goes on to the end. -/
theorem skip_append (cs : List Char) : skip v (cs ++ closing) = skip v cs ++ closing ∨
    v = true ∧ skip v cs = [] ∧ skip v (cs ++ closing) = [] := skipFrom_append false cs

theorem skip_append_of_cons (h : skip v cs = c :: rest) :
    skip v (cs ++ closing) = c :: (rest ++ closing) := by
  rcases skip_append (v := v) cs with same | ⟨-, ends, -⟩
  · rw [same, h, List.cons_append]
  · rw [h] at ends
    cases ends

theorem Agree.skipped {E : α → List Char → Prop} {f : List Char → Option (α × List Char)}
    (hf : ∀ cs, Agree E (f cs) (f (cs ++ closing))) (ends : f [] = .none) (cs : List Char) :
    Agree E (f (skip v cs)) (f (skip v (cs ++ closing))) := by
  rcases skip_append (v := v) cs with h | ⟨-, h, h'⟩
  · rw [h]
    exact hf _
  · rw [h, h', ends]
    exact Agree.none

/-! ## Escapes -/

theorem readBraced?_eq (cs : List Char) : readBraced? v cs =
    match skip v cs with
    | [] => none
    | c :: rest =>
      if c = '\x7d' then some ([], rest)
      else (readBraced? v rest).map fun (ds, r) => (c :: ds, r) := by
  rw [readBraced?]
  split <;> simp only [*]

theorem readBraced?_suffix {ds : List Char} (h : readBraced? v cs = some (ds, r)) : r <:+ cs := by
  induction cs using readBraced?.induct v generalizing ds r with
  | case1 cs hs =>
    rw [readBraced?_eq, hs] at h
    cases h
  | case2 cs rest hs =>
    rw [readBraced?_eq, hs] at h
    cases h
    exact suffix_of_skip hs List.suffix_rfl
  | case3 cs c rest hs hc shorter ih =>
    rw [readBraced?_eq, hs] at h
    simp only [if_neg hc] at h
    exact suffix_of_skip hs (suffix_of_map h fun _ _ => ih)

theorem agree_readBraced? (cs : List Char) :
    Agree Never (readBraced? v cs) (readBraced? v (cs ++ closing)) := by
  rw [readBraced?_eq cs, readBraced?_eq (cs ++ closing)]
  rcases skip_append (v := v) cs with h | ⟨-, h, h'⟩
  · rw [h]
    cases hs : skip v cs with
    | nil =>
      exact Agree.past (r := ['$']) (by decide) fun _ _ h =>
        suffix_of_map h fun _ _ => readBraced?_suffix
    | cons c rest =>
      have shorter := length_lt_of_skip hs
      by_cases hc : c = '\x7d'
      · simp only [hc, List.cons_append]
        exact Agree.done _ _
      · simp only [hc, List.cons_append]
        exact (agree_readBraced? rest).map _
  · rw [h, h']
    exact Agree.none
termination_by cs.length

theorem readHex?_suffix {n : Nat} {ds : List Char} (h : readHex? v n cs = some (ds, r)) :
    r <:+ cs := by
  induction n generalizing cs ds r with
  | zero => exact suffix_of_done h
  | succ n ih =>
    cases cs with
    | nil => cases h
    | cons c cs =>
      rw [readHex?] at h
      split at h
      · have later : r <:+ if n = 0 then cs else skip v cs := suffix_of_map h fun _ _ => ih
        refine (later.trans ?_).trans (List.suffix_cons c cs)
        split
        · exact List.suffix_rfl
        · exact skip_suffix cs
      · cases h

theorem agree_readHex? (n : Nat) (cs : List Char) :
    Agree Never (readHex? v n cs) (readHex? v n (cs ++ closing)) := by
  induction n generalizing cs with
  | zero => exact Agree.done _ _
  | succ n ih =>
    cases cs with
    | nil =>
      have stop : ¬ Yaml.digitValue ')' < 16 := by decide
      simp only [List.nil_append, closing, readHex?, if_neg stop]
      exact Agree.none
    | cons c cs =>
      simp only [List.cons_append, readHex?]
      split
      · refine Agree.map ?_ _
        cases n with
        | zero => exact ih cs
        | succ n => exact Agree.skipped ih rfl cs
      · exact Agree.none

theorem suffix_of_value {ds : Option (List Char × List Char)} {f : Char → Lexeme} {l : Lexeme}
    (h : (do let (ds, r) ← ds; return (f (← charOfHex? ds), r)) = some (l, r))
    (hds : ∀ a r, ds = some (a, r) → r <:+ cs) : r <:+ cs :=
  suffix_of_bind h hds fun _ _ h => suffix_of_given h fun _ => suffix_of_done

theorem Agree.value {x y : Option (List Char × List Char)} (h : Agree Never x y)
    (f : Char → Lexeme) :
    Agree Never (do let (ds, r) ← x; return (f (← charOfHex? ds), r))
      (do let (ds, r) ← y; return (f (← charOfHex? ds), r)) :=
  h.step (fun _ _ => Agree.given _ fun _ => Agree.done _ _) fun _ _ _ _ h =>
    suffix_of_given h fun _ => suffix_of_done

/-- There is at least one digit to read. -/
theorem exists_digit_count (marker : Char) :
    ∃ n, (if marker = 'x' then 2 else if marker = 'u' then 4 else 8) = n + 1 := by
  split
  · exact ⟨1, rfl⟩
  · split
    · exact ⟨3, rfl⟩
    · exact ⟨7, rfl⟩

theorem readCodePoint?_suffix {marker : Char} {l : Lexeme}
    (h : readCodePoint? v marker cs = some (l, r)) : r <:+ cs := by
  unfold readCodePoint? at h
  split at h
  · rename_i rest hs
    exact suffix_of_skip hs (suffix_of_value h fun _ _ => readBraced?_suffix)
  · exact (suffix_of_value h fun _ _ => readHex?_suffix).trans (skip_suffix (v := v) cs)

theorem agree_readCodePoint? (marker : Char) (cs : List Char) :
    Agree Never (readCodePoint? v marker cs) (readCodePoint? v marker (cs ++ closing)) := by
  unfold readCodePoint?
  rcases skip_append (v := v) cs with h | ⟨-, h, h'⟩
  · rw [h]
    cases skip v cs with
    | nil => exact (agree_readHex? _ []).value _
    | cons c rest =>
      by_cases hc : c = '\x7b'
      · subst hc
        exact (agree_readBraced? rest).value _
      · simp only [List.cons_append, List.cons.injEq, hc, false_and, imp_false,
          not_false_eq_true, implies_true]
        exact (agree_readHex? _ (c :: rest)).value _
  · obtain ⟨n, count⟩ := exists_digit_count marker
    rw [h, h']
    simp only [count]
    exact Agree.none

theorem readProperty?_suffix {negated : Bool} {l : Lexeme}
    (h : readProperty? v negated cs = some (l, r)) : r <:+ cs := by
  unfold readProperty? at h
  split at h
  · cases h
  · rename_i rest hs
    refine suffix_of_skip hs ?_
    exact suffix_of_bind h (fun _ _ => readBraced?_suffix) fun _ _ => suffix_of_done
  · rename_i hs
    split at h
    · exact suffix_of_skip hs (suffix_of_done h)
    · cases h

theorem agree_readProperty? (negated : Bool) (cs : List Char) :
    Agree Never (readProperty? v negated cs) (readProperty? v negated (cs ++ closing)) := by
  unfold readProperty?
  rcases skip_append (v := v) cs with h | ⟨-, h, h'⟩
  · rw [h]
    cases skip v cs with
    | nil => exact Agree.none
    | cons c rest =>
      by_cases hc : c = '\x7b'
      · subst hc
        exact (agree_readBraced? rest).step (fun _ _ => Agree.done _ _)
          fun _ _ _ _ => suffix_of_done
      · simp only [List.cons_append]
        split
        · exact Agree.done _ _
        · exact Agree.none
  · rw [h, h']
    exact Agree.none

/-- A boundary of words before an open brace that nothing follows. Before `closing` the brace could
only begin a repetition, which it then does not. -/
def Dangling (v : Bool) (l : Lexeme) (r : List Char) : Prop :=
  l = .anchor (.boundary .word) ∧ ∃ ds, r = '\x7b' :: ds ∧ skip v ds = []

theorem readBoundary?_suffix {l : Lexeme} (h : readBoundary? v cs = some (l, r)) : r <:+ cs := by
  unfold readBoundary? at h
  split at h
  · split at h
    · cases h
    · split at h
      · exact suffix_of_done h
      · refine List.IsSuffix.trans ?_ (List.suffix_cons _ _)
        refine suffix_of_bind h (fun _ _ => readBraced?_suffix) fun _ _ h => ?_
        exact suffix_of_given h fun _ h => suffix_of_given h fun _ => suffix_of_done
  · exact suffix_of_done h

theorem agree_readBoundary? (cs : List Char) :
    Agree (Dangling v) (readBoundary? v cs) (readBoundary? v (cs ++ closing)) := by
  unfold readBoundary?
  cases cs with
  | nil => exact Agree.done (Lexeme.anchor (.boundary .word)) []
  | cons c rest =>
    by_cases hc : c = '\x7b'
    · subst hc
      simp only [List.cons_append]
      rcases skip_append (v := v) rest with h | ⟨-, h, h'⟩
      · rw [h]
        cases hs : skip v rest with
        | nil =>
          refine Agree.fail fun a r h => ?_
          obtain ⟨rfl, same⟩ := Prod.mk.inj (Option.some.inj h)
          have same : '\x7b' :: rest = r := List.append_cancel_right same
          exact ⟨rfl, rest, same.symm, hs⟩
        | cons d ds =>
          simp only [List.cons_append]
          split
          · exact Agree.done _ ('\x7b' :: rest)
          · refine (agree_readBraced? rest).step (fun a r => ?_) fun _ _ _ _ h => ?_
            · exact Agree.given _ fun _ => Agree.given _ fun _ => Agree.done _ _
            · exact suffix_of_given h fun _ h => suffix_of_given h fun _ => suffix_of_done
      · rw [h, h']
        exact Agree.none
    · simp only [List.cons_append, List.cons.injEq, hc, false_and, imp_false,
        not_false_eq_true, implies_true]
      exact Agree.done _ (c :: rest)

theorem readEscape?_suffix {l : Lexeme} (h : readEscape? v cs = some (l, r)) : r <:+ cs := by
  cases cs with
  | nil => cases h
  | cons c cs =>
    refine List.IsSuffix.trans ?_ (List.suffix_cons c cs)
    simp only [readEscape?] at h
    split at h
    · exact readCodePoint?_suffix h
    · split at h
      · exact readProperty?_suffix h
      · split at h
        · exact readBoundary?_suffix h
        · split at h
          · exact suffix_of_done h
          · split at h
            · exact suffix_of_done h
            · split at h
              · exact suffix_of_done h
              · obtain ⟨a, -, h⟩ := Option.map_eq_some_iff.1 h
                cases h
                exact List.suffix_rfl

theorem agree_readEscape? (cs : List Char) :
    Agree (Dangling v) (readEscape? v cs) (readEscape? v (cs ++ closing)) := by
  cases cs with
  | nil => exact Agree.past (r := ['$']) (by decide) fun _ _ => suffix_of_done
  | cons c cs =>
    simp only [List.cons_append, readEscape?]
    split
    · exact (agree_readCodePoint? c cs).weaken
    · split
      · exact (agree_readProperty? _ cs).weaken
      · split
        · exact agree_readBoundary? cs
        · split
          · exact Agree.done _ _
          · split
            · exact Agree.done _ _
            · split
              · exact Agree.done _ _
              · cases anchorOf? c with
                | none => exact Agree.none
                | some a => exact Agree.done _ _

end ComponentSpec.Pattern
