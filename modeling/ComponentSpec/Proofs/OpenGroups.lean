import ComponentSpec.Proofs.Enclosing

/-!
# ComponentSpec.Proofs.OpenGroups

What has been read of a pattern at any time.

* `Item.match_choice_iff`: alternatives match what one of them matches.
* `State.IsSound`, `State.IsSound.read?`: the counts of all repetitions are in order, and the
  outermost group has no switches around it.
* `State.Reaches.of_closed`: only an opening parenthesis opens a group or changes switches.
-/

namespace ComponentSpec

namespace Pattern

variable {l : Lexeme} {cs rest : List Char}

/-! ## Items -/

namespace Item

variable {is : List Item}

/-- The counts of all repetitions are in order. -/
def IsProper (i : Item) : Prop := i.expr.IsProper

theorem isProper_foldl {f : Expr → Expr → Expr}
    (hf : ∀ a b, a.IsProper → b.IsProper → (f a b).IsProper) {e : Expr} (he : e.IsProper)
    (h : ∀ i ∈ is, i.IsProper) : (is.foldl (fun e j => f e j.expr) e).IsProper := by
  induction is generalizing e with
  | nil => exact he
  | cons i is ih =>
    obtain ⟨hi, his⟩ := List.forall_mem_cons.1 h
    exact ih (hf e i.expr he hi) his

theorem isProper_concat (h : ∀ i ∈ is, i.IsProper) : (concat is).IsProper := by
  match is with
  | [] => trivial
  | [i] => exact h i List.mem_cons_self
  | i :: j :: is =>
    obtain ⟨hi, his⟩ := List.forall_mem_cons.1 h
    exact isProper_foldl (f := .seq) (fun _ _ ha hb => ⟨ha, hb⟩) hi his

theorem isProper_choice (h : ∀ i ∈ is, i.IsProper) : (choice is).IsProper := by
  match is with
  | [] => trivial
  | [i] => exact h i List.mem_cons_self
  | i :: j :: is =>
    obtain ⟨hi, his⟩ := List.forall_mem_cons.1 h
    exact isProper_foldl (f := .alt) (fun _ _ ha hb => ⟨ha, hb⟩) hi his

theorem match_alt_iff {a b : Expr} {p t q : List Char} :
    Expr.Match (.alt a b) p t q ↔ Expr.Match a p t q ∨ Expr.Match b p t q := by
  constructor
  · intro h
    cases h with
    | altLeft h => exact .inl h
    | altRight h => exact .inr h
  · rintro (h | h)
    · exact .altLeft h
    · exact .altRight h

/-- A choice matches what one of its parts matches. -/
theorem match_choice_iff (h : is ≠ []) {p t q : List Char} :
    Expr.Match (choice is).expr p t q ↔ ∃ i ∈ is, Expr.Match i.expr p t q := by
  have alternatives (js : List Item) (e : Expr) :
      Expr.Match (js.foldl (fun e j => .alt e j.expr) e) p t q ↔
        Expr.Match e p t q ∨ ∃ j ∈ js, Expr.Match j.expr p t q := by
    induction js generalizing e with
    | nil => simp
    | cons j js ih =>
      rw [List.foldl_cons, ih, match_alt_iff]
      simp [or_assoc]
  match is with
  | [] => exact absurd rfl h
  | [i] => simp [choice]
  | i :: j :: is =>
    refine (alternatives (j :: is) i.expr).trans ?_
    simp

end Item

/-! ## Groups -/

namespace OpenGroup

/-- What has been read of a group. -/
def IsProper (g : OpenGroup) : Prop :=
  (∀ i ∈ g.alternatives, i.IsProper) ∧ ∀ i ∈ g.items, i.IsProper

variable {g : OpenGroup}

theorem IsProper.push (h : g.IsProper) {i : Item} (hi : i.IsProper) : (g.push i).IsProper :=
  ⟨h.1, List.forall_mem_cons.2 ⟨hi, h.2⟩⟩

theorem IsProper.bar (h : g.IsProper) : g.bar.IsProper := by
  have last : (Item.concat g.items.reverse).IsProper :=
    Item.isProper_concat fun i hi => h.2 i (List.mem_reverse.1 hi)
  exact ⟨List.forall_mem_cons.2 ⟨last, h.1⟩, nofun⟩

theorem IsProper.close (h : g.IsProper) : g.close.IsProper :=
  Item.isProper_choice fun i hi => h.bar.1 i (List.mem_reverse.1 hi)

end OpenGroup

namespace State

variable {s t : State}

/-- The switches around the outermost of some groups. -/
def around (g : OpenGroup) : List OpenGroup → Flags
  | [] => g.around
  | h :: outer => around h outer

theorem around_congr {g h : OpenGroup} (same : g.around = h.around) (outer : List OpenGroup) :
    around g outer = around h outer := by
  cases outer with
  | nil => exact same
  | cons _ _ => rfl

/-- What holds of the state at any time: all groups are proper, and the pattern as a whole has no
switches around it. -/
structure IsSound (s : State) : Prop where
  current : s.current.IsProper
  outer : ∀ g ∈ s.outer, g.IsProper
  around : around s.current s.outer = .initial

theorem isSound_start : start.IsSound := ⟨⟨nofun, nofun⟩, nofun, rfl⟩

theorem IsSound.around_of_closed (h : s.IsSound) (closed : s.outer = []) :
    s.current.around = .initial := by
  have around := h.around
  rwa [closed] at around

theorem IsSound.replace (h : s.IsSound) {g : OpenGroup} (hg : g.IsProper)
    (same : g.around = s.current.around) : IsSound { s with current := g } :=
  ⟨hg, h.outer, (around_congr same s.outer).trans h.around⟩

theorem IsSound.push (h : s.IsSound) {i : Item} (hi : i.IsProper) : (s.push i).IsSound :=
  h.replace (h.current.push hi) rfl

theorem IsSound.pushed (h : s.IsSound) {x : Option Item} (hx : ∀ i, x = some i → i.IsProper)
    (ht : x.map s.push = some t) : t.IsSound := by
  obtain ⟨i, hi, rfl⟩ := Option.map_eq_some_iff.1 ht
  exact h.push (hx i hi)

/-- Lexemes are read as proper items. -/
theorem IsSound.read? (h : s.IsSound) (hl : l.IsPart ∨ l = .closeGroup) (ht : s.read? l = some t) :
    t.IsSound := by
  cases l with
  | literal c isByte =>
    refine h.pushed (fun i hi => ?_) ht
    unfold literal? at hi
    split at hi
    · cases hi
    · cases hi
      trivial
  | dot =>
    refine h.pushed (fun i hi => ?_) ht
    unfold dot? at hi
    split at hi
    · cases hi
    · cases hi
      trivial
  | anchor a =>
    cases ht
    exact h.push trivial
  | «class» e =>
    refine h.pushed (fun i hi => ?_) ht
    obtain ⟨s, -, rfl⟩ := Option.map_eq_some_iff.1 hi
    trivial
  | openGroup name changes =>
    rw [State.read?] at ht
    split at ht
    · cases ht
    · cases ht
      have empty : OpenGroup.IsProper ⟨[], [], s.flags⟩ :=
        ⟨List.forall_mem_nil _, List.forall_mem_nil _⟩
      exact ⟨empty, List.forall_mem_cons.2 ⟨h.current, h.outer⟩, h.around⟩
  | changeFlags changes =>
    cases ht
    have pushed := h.push (i := Item.switch) trivial
    exact ⟨pushed.current, pushed.outer, pushed.around⟩
  | closeGroup =>
    obtain ⟨flags, current, outer, names⟩ := s
    cases outer with
    | nil => cases ht
    | cons g outer =>
      cases ht
      obtain ⟨hg, houter⟩ := List.forall_mem_cons.1 h.outer
      have same : (g.push current.close.group).around = g.around := rfl
      exact ⟨hg.push h.current.close, houter, (around_congr same outer).trans h.around⟩
  | bar =>
    cases ht
    exact h.replace h.current.bar rfl
  | repetition least most =>
    rw [State.read?] at ht
    split at ht
    · cases ht
    · rename_i i items hitems
      split at ht
      · cases ht
        have ordered : ∀ bound, most = some bound → least ≤ bound :=
          hl.resolve_right (by rintro ⟨⟩)
        have items := h.current.2
        rw [hitems] at items
        obtain ⟨hi, his⟩ := List.forall_mem_cons.1 items
        exact h.replace ⟨h.current.1, List.forall_mem_cons.2 ⟨⟨hi, ordered⟩, his⟩⟩ rfl
      · cases ht

theorem IsSound.next? (h : s.IsSound) (ht : s.next? cs = some (t, rest)) : t.IsSound := by
  obtain ⟨c, left, hs⟩ := exists_cons_of_next? ht
  obtain ⟨l, hl, hst, -⟩ := next?_eq_some_iff.1 ht
  rw [hs] at hl
  refine h.read? ?_ hst
  rcases Lexeme.read?_cases hl with ⟨-, part⟩ | ⟨-, closes, -⟩ | part
  · exact .inl part
  · exact .inr closes
  · exact .inl part.isPart

theorem IsSound.reaches (h : s.IsSound) (ht : Reaches s cs t rest) : t.IsSound := by
  induction ht with
  | refl => exact h
  | step hn _ ih => exact ih (h.next? hn)

/-! ## Texts without an opening parenthesis -/

theorem suffix_of_next? (h : s.next? cs = some (t, rest)) : rest <:+ cs := by
  obtain ⟨c, left, hs⟩ := exists_cons_of_next? h
  obtain ⟨l, hl, -, -⟩ := next?_eq_some_iff.1 h
  exact suffix_of_skip hs (Lexeme.read?_suffix (hs ▸ hl))

theorem Reaches.suffix (h : Reaches s cs t rest) : rest <:+ cs := by
  induction h with
  | refl => exact List.suffix_rfl
  | step hn _ ih => exact ih.trans (suffix_of_next? hn)

theorem read?_of_isInner (h : l.IsInner) (ht : s.read? l = some t) :
    t.outer = s.outer ∧ t.flags = s.flags := by
  have pushed {x : Option Item} (hx : x.map s.push = some t) :
      t.outer = s.outer ∧ t.flags = s.flags := by
    obtain ⟨i, -, rfl⟩ := Option.map_eq_some_iff.1 hx
    exact ⟨rfl, rfl⟩
  cases l with
  | literal c isByte => exact pushed ht
  | dot => exact pushed ht
  | anchor a =>
    cases ht
    exact ⟨rfl, rfl⟩
  | «class» e => exact pushed ht
  | openGroup name changes => exact h.elim
  | changeFlags changes => exact h.elim
  | closeGroup => exact h.elim
  | bar =>
    cases ht
    exact ⟨rfl, rfl⟩
  | repetition least most =>
    rw [State.read?] at ht
    split at ht
    · cases ht
    · split at ht
      · cases ht
        exact ⟨rfl, rfl⟩
      · cases ht

theorem next?_of_closed (closed : s.outer = []) (unopened : '(' ∉ cs)
    (h : s.next? cs = some (t, rest)) : t.outer = [] ∧ t.flags = s.flags := by
  obtain ⟨c, left, hs⟩ := exists_cons_of_next? h
  obtain ⟨l, hl, ht, -⟩ := next?_eq_some_iff.1 h
  rw [hs] at hl
  rcases Lexeme.read?_cases hl with ⟨rfl, -⟩ | ⟨-, rfl, -⟩ | inner
  · have left : '(' :: left <:+ cs := hs ▸ skip_suffix cs
    exact absurd (left.subset List.mem_cons_self) unopened
  · rw [State.read?, closed] at ht
    cases ht
  · obtain ⟨outer, flags⟩ := read?_of_isInner inner ht
    exact ⟨outer.trans closed, flags⟩

/-- Without an opening parenthesis no group is opened and no switch is changed. -/
theorem Reaches.of_closed (h : Reaches s cs t rest) (closed : s.outer = []) (unopened : '(' ∉ cs) :
    t.outer = [] ∧ t.flags = s.flags := by
  induction h with
  | refl => exact ⟨closed, rfl⟩
  | step hn _ ih =>
    obtain ⟨outer, flags⟩ := next?_of_closed closed unopened hn
    obtain ⟨closed, same⟩ := ih outer fun mem => unopened ((suffix_of_next? hn).subset mem)
    exact ⟨closed, same.trans flags⟩

end State

end Pattern

end ComponentSpec
