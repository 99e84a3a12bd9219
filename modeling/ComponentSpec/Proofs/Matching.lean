import ComponentSpec.Pattern.Expr
import Mathlib.Logic.Function.Iterate

/-!
# ComponentSpec.Proofs.Matching

Sets of positions and matches: a step of a pattern reaches the ends of its matches.

* `Expr.Spans`: a match from one position of a text to another one.
* `spans_set`, `spans_seq`, `spans_repeated` and so on: the matches of each form of a pattern, by
  positions.
* `Expr.follows_step`: the positions of a step are the ends of the matches from the positions before.
* `Expr.isFoundIn_iff`: a pattern is found exactly if it has a match.
-/

namespace ComponentSpec.Pattern

open Unicode (CharSet)

/-- A position is in a set of positions. -/
def Marked (m : List Bool) (i : Nat) : Prop := m[i]? = some true

namespace Expr

variable {text : List Char} {e a b : Expr} {i j k n : Nat} {m : List Bool}

/-! ## Matches -/

section

variable {p t q : List Char}

theorem match_empty_iff : Match .empty p t q ↔ t = [] := by
  constructor
  · intro h
    cases h
    rfl
  · rintro rfl
    exact .empty

theorem match_set_iff {s : CharSet} : Match (.set s) p t q ↔ ∃ c, t = [c] ∧ s c = true := by
  constructor
  · intro h
    cases h with
    | set hc => exact ⟨_, rfl, hc⟩
  · rintro ⟨c, rfl, hc⟩
    exact .set hc

theorem match_look_iff {l : Look} :
    Match (.look l) p t q ↔ t = [] ∧ l.holds p.head? q.head? = true := by
  constructor
  · intro h
    cases h with
    | look hl => exact ⟨rfl, hl⟩
  · rintro ⟨rfl, hl⟩
    exact .look hl

theorem match_seq_iff : Match (.seq a b) p t q ↔
    ∃ u v, t = u ++ v ∧ Match a p u (v ++ q) ∧ Match b (u.reverse ++ p) v q := by
  constructor
  · intro h
    cases h with
    | seq ha hb => exact ⟨_, _, rfl, ha, hb⟩
  · rintro ⟨u, v, rfl, ha, hb⟩
    exact .seq ha hb

end

/-! ## Matches by positions -/

/-- A match of a pattern from one position of a text to another one. -/
def Spans (text : List Char) (e : Expr) (i j : Nat) : Prop :=
  ∃ p t q, text = p.reverse ++ (t ++ q) ∧ p.length = i ∧ p.length + t.length = j ∧ Match e p t q

theorem Spans.le (h : Spans text e i j) : i ≤ j ∧ j ≤ text.length := by
  obtain ⟨p, t, q, rfl, rfl, rfl, -⟩ := h
  simp

/-- A text parts at each of its positions. -/
theorem exists_split (h : i ≤ text.length) :
    ∃ p q : List Char, text = p.reverse ++ q ∧ p.length = i :=
  ⟨(text.take i).reverse, text.drop i, by simp, by simp [h]⟩

/-- Two ways to part a text at the same place are the same. -/
theorem split_unique {p t q p' q' : List Char} (h : p.reverse ++ (t ++ q) = p'.reverse ++ q')
    (hk : p.length + t.length = p'.length) : p' = t.reverse ++ p ∧ q = q' := by
  rw [← List.append_assoc] at h
  obtain ⟨front, back⟩ := List.append_inj h (by simp [hk])
  refine ⟨?_, back⟩
  rw [← List.reverse_inj, ← front]
  simp

theorem spans_empty : Spans text .empty i j ↔ i = j ∧ i ≤ text.length := by
  constructor
  · rintro ⟨p, t, q, rfl, rfl, rfl, hm⟩
    obtain rfl := match_empty_iff.1 hm
    simp
  · rintro ⟨rfl, h⟩
    obtain ⟨p, q, rfl, rfl⟩ := exists_split h
    exact ⟨p, [], q, rfl, rfl, rfl, .empty⟩

theorem spans_set {s : CharSet} :
    Spans text (.set s) i j ↔ j = i + 1 ∧ ∃ c, text[i]? = some c ∧ s c = true := by
  constructor
  · rintro ⟨p, t, q, rfl, rfl, rfl, hm⟩
    obtain ⟨c, rfl, hc⟩ := match_set_iff.1 hm
    exact ⟨rfl, c, by simp, hc⟩
  · rintro ⟨rfl, c, hc, hs⟩
    obtain ⟨hi, rfl⟩ := List.getElem?_eq_some_iff.1 hc
    obtain ⟨p, q, rfl, rfl⟩ := exists_split (Nat.le_of_lt hi)
    cases q with
    | nil => simp at hi
    | cons c q => exact ⟨p, [c], q, rfl, rfl, rfl, .set (by simpa using hs)⟩

/-- The characters on both sides of a position. -/
def around (text : List Char) (i : Nat) : Option Char × Option Char :=
  ((text.take i).getLast?, text[i]?)

theorem around_append (p q : List Char) :
    around (p.reverse ++ q) p.length = (p.head?, q.head?) := by
  have front : (p.reverse ++ q).take p.length = p.reverse := by
    rw [← List.length_reverse, List.take_left]
  rw [around, front, List.getLast?_reverse, ← List.length_reverse, List.getElem?_append_right
    (Nat.le_refl _)]
  simp [List.head?_eq_getElem?]

theorem spans_look {l : Look} : Spans text (.look l) i j ↔ i = j ∧ i ≤ text.length ∧
    l.holds (around text i).1 (around text i).2 = true := by
  constructor
  · rintro ⟨p, t, q, rfl, rfl, rfl, hm⟩
    obtain ⟨rfl, hl⟩ := match_look_iff.1 hm
    simpa [around_append] using hl
  · rintro ⟨rfl, h, hl⟩
    obtain ⟨p, q, rfl, rfl⟩ := exists_split h
    rw [around_append] at hl
    exact ⟨p, [], q, rfl, rfl, rfl, .look hl⟩

theorem spans_seq : Spans text (.seq a b) i j ↔ ∃ k, Spans text a i k ∧ Spans text b k j := by
  constructor
  · rintro ⟨p, t, q, rfl, rfl, rfl, hm⟩
    obtain ⟨t, u, rfl, ha, hb⟩ := match_seq_iff.1 hm
    exact ⟨p.length + t.length, ⟨p, t, u ++ q, by simp, rfl, rfl, ha⟩,
      ⟨t.reverse ++ p, u, q, by simp, by simp [Nat.add_comm], by simp; omega, hb⟩⟩
  · rintro ⟨_, ⟨p, t, q, rfl, rfl, rfl, ha⟩, ⟨p', u, q', h, hk, rfl, hb⟩⟩
    obtain ⟨rfl, rfl⟩ := split_unique h hk.symm
    exact ⟨p, t ++ u, q', by simp, rfl, by simp; omega, .seq ha hb⟩

theorem spans_alt : Spans text (.alt a b) i j ↔ Spans text a i j ∨ Spans text b i j := by
  constructor
  · rintro ⟨p, t, q, h, hi, hj, hm⟩
    cases hm with
    | altLeft ha => exact .inl ⟨p, t, q, h, hi, hj, ha⟩
    | altRight hb => exact .inr ⟨p, t, q, h, hi, hj, hb⟩
  · rintro (⟨p, t, q, h, hi, hj, hm⟩ | ⟨p, t, q, h, hi, hj, hm⟩)
    · exact ⟨p, t, q, h, hi, hj, .altLeft hm⟩
    · exact ⟨p, t, q, h, hi, hj, .altRight hm⟩

/-! ## Repetitions -/

/-- Some matches of a pattern, each from the end of the one before it. -/
def Runs (text : List Char) (e : Expr) : Nat → Nat → Nat → Prop
  | 0, i, j => i = j ∧ i ≤ text.length
  | n + 1, i, j => ∃ k, Spans text e i k ∧ Runs text e n k j

theorem Runs.le (h : Runs text e n i j) : i ≤ j ∧ j ≤ text.length := by
  induction n generalizing i with
  | zero =>
    obtain ⟨rfl, h⟩ := h
    exact ⟨Nat.le_refl _, h⟩
  | succ n ih =>
    obtain ⟨k, hk, h⟩ := h
    exact ⟨Nat.le_trans hk.le.1 (ih h).1, (ih h).2⟩

theorem runs_add {l : Nat} :
    Runs text e (l + n) i j ↔ ∃ k, Runs text e l i k ∧ Runs text e n k j := by
  induction l generalizing i with
  | zero =>
    simp only [Nat.zero_add, Runs]
    constructor
    · exact fun h => ⟨i, ⟨rfl, Nat.le_trans h.le.1 h.le.2⟩, h⟩
    · rintro ⟨_, ⟨rfl, -⟩, h⟩
      exact h
  | succ l ih =>
    rw [Nat.succ_add]
    simp only [Runs, ih]
    constructor
    · rintro ⟨k, hk, k', hl, hn⟩
      exact ⟨k', ⟨k, hk, hl⟩, hn⟩
    · rintro ⟨k', ⟨k, hk, hl⟩, hn⟩
      exact ⟨k, hk, k', hl, hn⟩

/-- Matches of the empty text can be left out, so that as many matches are enough as there are
characters between the two positions. -/
theorem Runs.shorten (h : Runs text e n i j) : ∃ k ≤ j - i, Runs text e k i j := by
  induction n generalizing i with
  | zero => exact ⟨0, Nat.zero_le _, h⟩
  | succ n ih =>
    obtain ⟨mid, hk, h⟩ := h
    obtain ⟨k, hle, hrun⟩ := ih h
    have forward := hk.le.1
    have rest := hrun.le.1
    by_cases still : i = mid
    · subst still
      exact ⟨k, hle, hrun⟩
    · exact ⟨k + 1, by omega, mid, hk, hrun⟩

/-- How often a pattern is repeated: at least and perhaps at most so many times. -/
def Admits (least : Nat) (most : Option Nat) (n : Nat) : Prop :=
  least ≤ n ∧ ∀ bound, most = some bound → n ≤ bound

theorem Match.exists_runs {p t q : List Char} {least : Nat} {most : Option Nat}
    (h : Match (.repeated e least most) p t q) :
    ∃ n, Admits least most n ∧
      Runs (p.reverse ++ (t ++ q)) e n p.length (p.length + t.length) := by
  generalize hr : Expr.repeated e least most = r at h
  induction h generalizing least most with
  | done =>
    cases hr
    exact ⟨0, ⟨Nat.le_refl _, fun _ _ => Nat.zero_le _⟩, rfl, by simp⟩
  | @more _ _ _ p t u q hmost he _ _ ih =>
    cases hr
    obtain ⟨n, ⟨hleast, hbound⟩, hrun⟩ := ih rfl
    refine ⟨n + 1, ⟨by omega, ?_⟩, p.length + t.length, ?_, ?_⟩
    · rintro bound rfl
      have := hbound (bound - 1) rfl
      have : bound ≠ 0 := fun h => hmost (by rw [h])
      omega
    · exact ⟨p, t, u ++ q, by simp, rfl, rfl, he⟩
    · simpa [Nat.add_comm, Nat.add_assoc, Nat.add_left_comm] using hrun
  | empty | set | look | seq | altLeft | altRight => cases hr

theorem Runs.spans {least : Nat} {most : Option Nat} (h : Runs text e n i j)
    (hn : Admits least most n) : Spans text (.repeated e least most) i j := by
  induction n generalizing i least most with
  | zero =>
    obtain ⟨rfl, h⟩ := h
    obtain ⟨p, q, rfl, rfl⟩ := exists_split h
    obtain rfl := Nat.le_zero.1 hn.1
    exact ⟨p, [], q, rfl, rfl, rfl, .done⟩
  | succ n ih =>
    obtain ⟨k, ⟨p, t, q, rfl, rfl, rfl, he⟩, h⟩ := h
    have admits : Admits (least - 1) (most.map (· - 1)) n := by
      refine ⟨by have := hn.1; omega, ?_⟩
      intro bound hb
      obtain ⟨b, rfl, rfl⟩ := Option.map_eq_some_iff.1 hb
      have := hn.2 b rfl
      omega
    have hmost : most ≠ some 0 := by
      rintro rfl
      exact absurd (hn.2 0 rfl) (by omega)
    obtain ⟨p', u, q', heq, hk, rfl, hr⟩ := ih h admits
    obtain ⟨rfl, rfl⟩ := split_unique heq hk.symm
    exact ⟨p, t ++ u, q', by simp, rfl, by simp; omega, .more hmost he hr⟩

theorem spans_repeated {least : Nat} {most : Option Nat} :
    Spans text (.repeated e least most) i j ↔ ∃ n, Admits least most n ∧ Runs text e n i j := by
  constructor
  · rintro ⟨p, t, q, rfl, rfl, rfl, h⟩
    exact h.exists_runs
  · rintro ⟨n, hn, h⟩
    exact h.spans hn

/-! ## Sets of positions -/

theorem marked_orMask {m m' : List Bool} (h : m.length = m'.length) :
    Marked (orMask m m') i ↔ Marked m i ∨ Marked m' i := by
  unfold Marked orMask
  rw [List.getElem?_zipWith]
  by_cases hi : i < m.length
  · have hi' : i < m'.length := h ▸ hi
    simp [List.getElem?_eq_getElem hi, List.getElem?_eq_getElem hi']
  · have hi' : ¬ i < m'.length := h ▸ hi
    simp [List.getElem?_eq_none (Nat.le_of_not_lt hi), List.getElem?_eq_none (Nat.le_of_not_lt hi')]

/-- A place of a set of positions of a text is a position of the text. -/
theorem le_of_getElem? {marked : Bool} (hm : m.length = text.length + 1)
    (h : m[i]? = some marked) : i ≤ text.length := by
  have := (List.getElem?_eq_some_iff.1 h).1
  omega

/-- To stop early, when nothing changes, makes no difference. -/
theorem iterate_eq (f : List Bool → List Bool) (n : Nat) (m : List Bool) :
    iterate f n m = f^[n] m := by
  induction n generalizing m with
  | zero => rfl
  | succ n ih =>
    rw [iterate]
    split
    · rename_i fixed
      exact (Function.iterate_fixed fixed _).symm
    · exact ih (f m)

theorem getElem?_places (l : Look) (before : Option Char) (text : List Char) (h : i ≤ text.length) :
    (l.places before text)[i]? =
      some (l.holds (before.toList ++ text.take i).getLast? text[i]?) := by
  induction text generalizing before i with
  | nil =>
    obtain rfl := Nat.le_zero.1 h
    cases before <;> rfl
  | cons c cs ih =>
    cases i with
    | zero => cases before <;> rfl
    | succ i =>
      rw [Look.places, List.getElem?_cons_succ, ih (some c) (Nat.le_of_succ_le_succ h)]
      simp [List.getLast?_cons]

theorem length_places (l : Look) (before : Option Char) (text : List Char) :
    (l.places before text).length = text.length + 1 := by
  induction text generalizing before with
  | nil => rfl
  | cons c cs ih => simp [Look.places, ih]

/-- `f` takes sets of positions to the ends of matches of `e` from them. -/
structure Follows (text : List Char) (e : Expr) (f : List Bool → List Bool) : Prop where
  length : ∀ m, m.length = text.length + 1 → (f m).length = text.length + 1
  marked : ∀ m, m.length = text.length + 1 → ∀ j,
    (Marked (f m) j ↔ ∃ i, Marked m i ∧ Spans text e i j)

/-- The least count of each repetition is not above its greatest one. -/
def IsProper : Expr → Prop
  | .empty => True
  | .set _ => True
  | .look _ => True
  | .seq a b => a.IsProper ∧ b.IsProper
  | .alt a b => a.IsProper ∧ b.IsProper
  | .repeated e least most => e.IsProper ∧ ∀ bound, most = some bound → least ≤ bound

theorem follows_empty : Follows text .empty (step text .empty) where
  length := fun _ h => h
  marked := by
    intro m hm j
    simp only [step, spans_empty]
    constructor
    · intro h
      exact ⟨j, h, rfl, le_of_getElem? hm h⟩
    · rintro ⟨_, h, rfl, -⟩
      exact h

theorem follows_set (s : CharSet) : Follows text (.set s) (step text (.set s)) where
  length := by
    intro m hm
    simp [step, hm]
  marked := by
    intro m hm j
    simp only [step, spans_set]
    cases j with
    | zero => simp [Marked]
    | succ j =>
      unfold Marked
      rw [List.getElem?_cons_succ, List.getElem?_zipWith_eq_some]
      constructor
      · rintro ⟨here, c, hi, hc, both⟩
        obtain ⟨rfl, hs⟩ := Bool.and_eq_true_iff.1 both
        exact ⟨j, hi, rfl, c, hc, hs⟩
      · rintro ⟨_, hi, hj, c, hc, hs⟩
        cases hj
        exact ⟨true, c, hi, hc, by simp [hs]⟩

theorem follows_look (l : Look) : Follows text (.look l) (step text (.look l)) where
  length := by
    intro m hm
    simp [step, length_places, hm]
  marked := by
    intro m hm j
    simp only [step, spans_look]
    unfold Marked
    rw [List.getElem?_zipWith_eq_some]
    constructor
    · rintro ⟨here, there, hi, hl, both⟩
      have hj : j ≤ text.length := le_of_getElem? hm hi
      obtain ⟨rfl, rfl⟩ := Bool.and_eq_true_iff.1 both
      rw [getElem?_places l none text hj] at hl
      exact ⟨j, hi, rfl, hj, Option.some.inj hl⟩
    · rintro ⟨_, hi, rfl, hj, hl⟩
      exact ⟨true, true, hi, (getElem?_places l none text hj).trans (congrArg some hl), rfl⟩

theorem Follows.seq {f g : List Bool → List Bool} (hf : Follows text a f)
    (hg : Follows text b g) : Follows text (.seq a b) fun m => g (f m) where
  length := fun m hm => hg.length _ (hf.length m hm)
  marked := by
    intro m hm j
    simp only [hg.marked _ (hf.length m hm), hf.marked m hm, spans_seq]
    constructor
    · rintro ⟨k, ⟨i, hi, ha⟩, hb⟩
      exact ⟨i, hi, k, ha, hb⟩
    · rintro ⟨i, hi, k, ha, hb⟩
      exact ⟨k, ⟨i, hi, ha⟩, hb⟩

theorem Follows.alt {f g : List Bool → List Bool} (hf : Follows text a f)
    (hg : Follows text b g) : Follows text (.alt a b) fun m => orMask (f m) (g m) where
  length := by
    intro m hm
    simp [orMask, hf.length m hm, hg.length m hm]
  marked := by
    intro m hm j
    rw [marked_orMask (by rw [hf.length m hm, hg.length m hm]), hf.marked m hm, hg.marked m hm]
    simp only [spans_alt]
    constructor
    · rintro (⟨i, hi, h⟩ | ⟨i, hi, h⟩)
      · exact ⟨i, hi, .inl h⟩
      · exact ⟨i, hi, .inr h⟩
    · rintro ⟨i, hi, h | h⟩
      · exact .inl ⟨i, hi, h⟩
      · exact .inr ⟨i, hi, h⟩

theorem Follows.runs {f : List Bool → List Bool} (hf : Follows text e f)
    (hm : m.length = text.length + 1) (n : Nat) : (f^[n] m).length = text.length + 1 ∧
      ∀ j, Marked (f^[n] m) j ↔ ∃ i, Marked m i ∧ Runs text e n i j := by
  induction n generalizing m with
  | zero =>
    refine ⟨hm, fun j => ?_⟩
    simp only [Runs]
    constructor
    · intro h
      exact ⟨j, h, rfl, le_of_getElem? hm h⟩
    · rintro ⟨_, h, rfl, -⟩
      exact h
  | succ n ih =>
    obtain ⟨length, marked⟩ := ih (hf.length m hm)
    refine ⟨length, fun j => ?_⟩
    rw [Function.iterate_succ_apply, marked]
    simp only [hf.marked m hm, Runs]
    constructor
    · rintro ⟨k, ⟨i, hi, he⟩, hrun⟩
      exact ⟨i, hi, k, he, hrun⟩
    · rintro ⟨i, hi, k, he, hrun⟩
      exact ⟨k, ⟨i, hi, he⟩, hrun⟩

theorem runs_optional :
    Runs text (.alt .empty e) n i j ↔ ∃ k ≤ n, Runs text e k i j := by
  induction n generalizing i with
  | zero =>
    constructor
    · exact fun h => ⟨0, Nat.le_refl _, h⟩
    · rintro ⟨k, hk, h⟩
      obtain rfl := Nat.le_zero.1 hk
      exact h
  | succ n ih =>
    simp only [Runs, ih, spans_alt, spans_empty]
    constructor
    · rintro ⟨mid, ⟨rfl, -⟩ | he, k, hk, hrun⟩
      · exact ⟨k, Nat.le_succ_of_le hk, hrun⟩
      · exact ⟨k + 1, Nat.succ_le_succ hk, mid, he, hrun⟩
    · rintro ⟨k, hk, hrun⟩
      cases k with
      | zero =>
        have := hrun.le
        exact ⟨i, .inl ⟨rfl, by omega⟩, 0, Nat.zero_le _, hrun⟩
      | succ k =>
        obtain ⟨mid, he, hrun⟩ := hrun
        exact ⟨mid, .inr he, k, Nat.le_of_succ_le_succ hk, hrun⟩

/-- The least count of matches, and then up to so many more of them as the step adds. -/
theorem runs_counted {least : Nat} {most : Option Nat}
    (proper : ∀ bound, most = some bound → least ≤ bound) :
    (∃ mid, Runs text e least i mid ∧
      ∃ k ≤ most.elim (text.length + 1) (· - least), Runs text e k mid j) ↔
    ∃ n, Admits least most n ∧ Runs text e n i j := by
  constructor
  · rintro ⟨mid, hleast, k, hk, hrun⟩
    refine ⟨least + k, ⟨Nat.le_add_right _ _, ?_⟩, runs_add.2 ⟨mid, hleast, hrun⟩⟩
    rintro bound rfl
    have := proper bound rfl
    simp only [Option.elim] at hk
    omega
  · rintro ⟨n, ⟨hleast, hbound⟩, hrun⟩
    obtain ⟨k, rfl⟩ := Nat.exists_eq_add_of_le hleast
    obtain ⟨mid, hfirst, hrest⟩ := runs_add.1 hrun
    refine ⟨mid, hfirst, ?_⟩
    cases most with
    | some bound =>
      have := hbound bound rfl
      exact ⟨k, by simp only [Option.elim]; omega, hrest⟩
    | none =>
      -- more matches than there are characters would be empty ones
      obtain ⟨k', hk', hrest'⟩ := hrest.shorten
      have := hrest'.le.2
      exact ⟨k', by simp only [Option.elim]; omega, hrest'⟩

theorem Follows.repeated {f : List Bool → List Bool} (hf : Follows text e f) {least : Nat}
    {most : Option Nat} (proper : ∀ bound, most = some bound → least ≤ bound) :
    Follows text (.repeated e least most) fun m =>
      (fun m => orMask m (f m))^[most.elim (text.length + 1) (· - least)] (f^[least] m) := by
  have hmore : Follows text (.alt .empty e) fun m => orMask m (f m) := follows_empty.alt hf
  refine ⟨fun m hm => ?_, fun m hm j => ?_⟩
  · exact (hmore.runs (hf.runs hm least).1 _).1
  · obtain ⟨length, marked⟩ := hf.runs hm least
    simp only [(hmore.runs length _).2, marked, runs_optional, spans_repeated,
      ← runs_counted proper]
    constructor
    · rintro ⟨mid, ⟨i, hi, hfirst⟩, hrest⟩
      exact ⟨i, hi, mid, hfirst, hrest⟩
    · rintro ⟨i, hi, mid, hfirst, hrest⟩
      exact ⟨mid, ⟨i, hi, hfirst⟩, hrest⟩

/-- A step of a pattern comes to the ends of its matches, and to no other positions. -/
theorem follows_step (he : e.IsProper) : Follows text e (step text e) := by
  induction e with
  | empty => exact follows_empty
  | set s => exact follows_set s
  | look l => exact follows_look l
  | seq a b iha ihb => exact (iha he.1).seq (ihb he.2)
  | alt a b iha ihb => exact (iha he.1).alt (ihb he.2)
  | repeated e least most ih =>
    have h := (ih he.1).repeated he.2
    have same : step text (.repeated e least most) = fun m =>
        (fun m => orMask m (step text e m))^[most.elim (text.length + 1) (· - least)]
          ((step text e)^[least] m) := by
      funext m
      simp only [step, iterate_eq]
      cases most <;> rfl
    rw [same]
    exact h

/-- A pattern is found in a text exactly if it has a match there. -/
theorem isFoundIn_iff (he : e.IsProper) :
    e.isFoundIn text = true ↔ ∃ i j, Spans text e i j := by
  have all : (List.replicate (text.length + 1) true).length = text.length + 1 := by simp
  have marked := (follows_step he).marked _ all
  rw [isFoundIn, List.any_eq_true]
  constructor
  · rintro ⟨_, hmem, rfl⟩
    obtain ⟨j, hj⟩ := List.mem_iff_getElem?.1 hmem
    obtain ⟨i, -, h⟩ := (marked j).1 hj
    exact ⟨i, j, h⟩
  · rintro ⟨i, j, h⟩
    have hi : i < text.length + 1 := Nat.lt_succ_of_le (Nat.le_trans h.le.1 h.le.2)
    have start : Marked (List.replicate (text.length + 1) true) i := by
      simp [Marked, hi]
    exact ⟨true, List.mem_iff_getElem?.2 ⟨j, (marked j).2 ⟨i, start, h⟩⟩, rfl⟩

end Expr

end ComponentSpec.Pattern
