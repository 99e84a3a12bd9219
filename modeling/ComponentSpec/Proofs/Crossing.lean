import ComponentSpec.Proofs.Lexing

/-!
# ComponentSpec.Proofs.Crossing

Lexemes that begin in a pattern and end in what comes after it in the text for whole names.

* `EndsInside`: the last character that has been read is none of `closing`. Digits, names, classes
  and counts end so.
* `Crosses`: a backslash, or switches that still lack their closing parenthesis.
* `Lexeme.read?_crossing`, `Lexeme.read?_of_crosses`: no other lexemes take in the parenthesis that
  comes after the pattern.
-/

namespace ComponentSpec.Pattern

variable {α β : Type} {v : Bool} {c : Char} {cs rest r s : List Char}

/-! ## Lexemes that end in the pattern -/

/-- What is left of a text before `closing` has all of it, or cuts into it. -/
theorem suffix_append_closing_cases (h : r <:+ cs ++ closing) :
    (∃ t, r = t ++ closing) ∨ r <:+ ['$'] := by
  rcases List.suffix_or_suffix_of_suffix h (List.suffix_append cs closing) with ends | ⟨t, rfl⟩
  · rcases List.suffix_cons_iff.1 ends with rfl | ends
    · exact .inl ⟨[], rfl⟩
    · exact .inr ends
  · exact .inl ⟨t, rfl⟩

theorem not_mem_closing (p : Char → Bool) (hc : p c = true) (stop : closing.any p = false) :
    c ∉ closing := by
  intro h
  exact Bool.false_ne_true (stop.symm.trans (List.any_eq_true.2 ⟨c, h, hc⟩))

/-- What has been read of a text ends with a character that `closing` does not have. -/
def EndsInside (cs r : List Char) : Prop := ∃ c, c ∉ closing ∧ c :: r <:+ cs

namespace EndsInside

theorem of_suffix (h : EndsInside rest r) (hr : rest <:+ cs) : EndsInside cs r := by
  obtain ⟨c, hc, left⟩ := h
  exact ⟨c, hc, left.trans hr⟩

theorem of_skip (hc : c ∉ closing) (h : skip v cs = c :: r) : EndsInside cs r :=
  ⟨c, hc, h ▸ skip_suffix cs⟩

/-- It then leaves all of `closing`. -/
theorem exists_append (h : EndsInside (cs ++ closing) r) : ∃ t, r = t ++ closing := by
  obtain ⟨c, hc, left⟩ := h
  rcases suffix_append_closing_cases ((List.suffix_cons c r).trans left) with whole | short
  · exact whole
  · -- the character before the rest is in `closing`
    refine absurd ?_ hc
    have inside : c :: r <:+ closing := by
      refine List.suffix_of_suffix_length_le left (List.suffix_append cs closing) ?_
      exact Nat.succ_le_succ short.length_le
    exact inside.subset List.mem_cons_self

theorem not_short (h : EndsInside (cs ++ closing) r) : ¬ r <:+ ['$'] := by
  obtain ⟨t, rfl⟩ := h.exists_append
  exact not_append_closing (by decide)

end EndsInside

/-- All that is read of a text ends inside it. -/
abbrev YieldsInside (cs : List Char) (x : Option (α × List Char)) : Prop :=
  Yields (fun _ r => EndsInside cs r) x

theorem Yields.of_map {P Q : List Char → Prop} {x : Option (α × List Char)} {f : α → β}
    (h : Yields (fun _ => P) x) (hPQ : ∀ r, P r → Q r) :
    Yields (fun _ => Q) (x.map fun (a, r) => (f a, r)) := by
  intro b r hb
  obtain ⟨⟨a, t⟩, ht, same⟩ := Option.map_eq_some_iff.1 hb
  cases same
  exact hPQ r (h a r ht)

theorem endsInside_readBraced? (cs : List Char) : YieldsInside cs (readBraced? v cs) := by
  rw [readBraced?_eq]
  cases hs : skip v cs with
  | nil => exact Yields.fail
  | cons c rest =>
    refine Yields.branch (fun hc => Yields.done ?_) fun _ => ?_
    · exact EndsInside.of_skip (hc ▸ by decide) hs
    · have shorter := length_lt_of_skip hs
      refine (endsInside_readBraced? rest).of_map fun r h => h.of_suffix ?_
      exact suffix_of_skip hs List.suffix_rfl
termination_by cs.length

theorem endsInside_readHex? (n : Nat) (cs : List Char) :
    YieldsInside cs (readHex? v (n + 1) cs) := by
  induction n generalizing cs with
  | zero =>
    cases cs with
    | nil => exact Yields.fail
    | cons c cs =>
      rw [readHex?]
      refine Yields.branch (fun digit => Yields.done ?_) fun _ => Yields.fail
      have inside := not_mem_closing (Yaml.digitValue · < 16) (by simpa using digit) rfl
      exact ⟨c, inside, List.suffix_rfl⟩
  | succ n ih =>
    cases cs with
    | nil => exact Yields.fail
    | cons c cs =>
      rw [readHex?]
      refine Yields.branch (fun _ => ?_) fun _ => Yields.fail
      refine (ih _).of_map fun r h => h.of_suffix ?_
      exact (skip_suffix cs).trans (List.suffix_cons c cs)

theorem endsInside_readCodePoint? (marker : Char) (cs : List Char) :
    YieldsInside cs (readCodePoint? v marker cs) := by
  unfold readCodePoint?
  split
  · rename_i rest hs
    refine Yields.bind fun (_, r) hr => Yields.bind fun _ _ => Yields.done ?_
    exact (endsInside_readBraced? rest _ _ hr).of_suffix (suffix_of_skip hs List.suffix_rfl)
  · obtain ⟨n, count⟩ := exists_digit_count marker
    rw [count]
    refine Yields.bind fun (_, r) hr => Yields.bind fun _ _ => Yields.done ?_
    exact (endsInside_readHex? n _ _ _ hr).of_suffix (skip_suffix cs)

theorem endsInside_readProperty? (negated : Bool) (cs : List Char) :
    YieldsInside cs (readProperty? v negated cs) := by
  unfold readProperty?
  split
  · exact Yields.fail
  · rename_i rest hs
    refine Yields.bind fun (_, r) hr => Yields.done ?_
    exact (endsInside_readBraced? rest _ _ hr).of_suffix (suffix_of_skip hs List.suffix_rfl)
  · rename_i c rest _ hs
    refine Yields.branch (fun letter => Yields.done ?_) fun _ => Yields.fail
    exact EndsInside.of_skip (not_mem_closing Char.isAlpha letter rfl) hs

/-- A boundary has a name in braces, or leaves all that follows. -/
theorem readBoundary?_ends (cs : List Char) :
    Yields (fun _ r => r = cs ∨ EndsInside cs r) (readBoundary? v cs) := by
  unfold readBoundary?
  split
  · rename_i rest
    split
    · exact Yields.fail
    · refine Yields.branch (fun _ => Yields.done (.inl rfl)) fun _ => ?_
      refine Yields.bind fun _ hr => Yields.bind fun _ _ => Yields.bind fun _ _ => ?_
      refine Yields.done (.inr ?_)
      exact (endsInside_readBraced? rest _ _ hr).of_suffix (List.suffix_cons _ _)
  · exact Yields.done (.inl rfl)

/-- After its first character an escape ends inside the text or leaves all of it. -/
theorem readEscape?_ends (c : Char) (cs : List Char) :
    Yields (fun _ r => r = cs ∨ EndsInside cs r) (readEscape? v (c :: cs)) := by
  have whole {l : Lexeme} : Yields (fun _ r => r = cs ∨ EndsInside cs r) (some (l, cs)) :=
    Yields.done (.inl rfl)
  rw [readEscape?]
  refine Yields.branch (fun _ l r h => .inr (endsInside_readCodePoint? c cs l r h)) fun _ => ?_
  refine Yields.branch (fun _ l r h => .inr (endsInside_readProperty? _ cs l r h)) fun _ => ?_
  refine Yields.branch (fun _ => readBoundary?_ends cs) fun _ => ?_
  refine Yields.branch (fun _ => whole) fun _ => ?_
  split
  · exact whole
  · split
    · exact whole
    · cases anchorOf? c with
      | none => exact Yields.fail
      | some a => exact whole

theorem endsInside_readGroupName? (cs : List Char) : YieldsInside cs (readGroupName? cs) := by
  simp only [readGroupName?]
  split
  · rename_i d rest hd
    obtain rfl : d = '>' := by
      have stop := List.head?_dropWhile_not (· ≠ '>') cs
      rw [hd] at stop
      simpa using stop
    have left : '>' :: rest <:+ cs := hd ▸ List.dropWhile_suffix _
    split
    · exact Yields.branch (fun _ => Yields.done ⟨'>', by decide, left⟩) fun _ => Yields.fail
    · exact Yields.fail
  · exact Yields.fail

theorem endsInside_readNamed? (cs : List Char) : YieldsInside cs (readNamed? cs) :=
  Yields.bind fun (_, _) hr => Yields.done (endsInside_readGroupName? cs _ _ hr)

theorem skipLazy_ends (cs : List Char) : skipLazy v cs = cs ∨ EndsInside cs (skipLazy v cs) := by
  unfold skipLazy
  split
  · rename_i hs
    exact .inr (EndsInside.of_skip (by decide) hs)
  · exact .inl rfl

theorem endsInside_closeBrace? (least : Nat) (most : Option Nat) (cs : List Char) :
    YieldsInside cs (closeBrace? v least most cs) := by
  unfold closeBrace?
  refine Yields.bind fun _ brace => Yields.bind fun _ _ => Yields.done ?_
  obtain ⟨rest, rfl⟩ : ∃ rest, cs = '\x7d' :: rest := by
    simpa [Option.guard_eq_some', List.head?_eq_some_iff] using brace
  rw [List.drop_succ_cons, List.drop_zero]
  rcases skipLazy_ends (v := v) rest with same | ends
  · rw [same]
    exact ⟨'\x7d', by decide, List.suffix_rfl⟩
  · exact ends.of_suffix (List.suffix_cons _ _)

theorem endsInside_readRepetition? (cs : List Char) : YieldsInside cs (readRepetition? v cs) := by
  rw [readRepetition?_eq]
  refine Yields.bind fun t ht => Yields.bind fun (least, u) hu => Yields.bind fun (most, w) hw => ?_
  intro l r h
  refine (endsInside_closeBrace? least most _ l r h).of_suffix ?_
  exact (((skip_suffix w).trans (readMost?_suffix hw)).trans (skip_suffix u)).trans
    ((readCount?_suffix hu).trans (skipTo?_suffix ht))

theorem classPart?_closed {outer : List OpenClass} {o : OpenClass} {e : ClassExpr}
    (h : classPart? v outer o cs = some (.inl e, r)) : EndsInside cs r := by
  cases hs : skip v cs with
  | nil =>
    rw [classPart?_nil hs] at h
    cases h
  | cons c rest =>
    rw [classPart?_cons hs] at h
    split at h
    · split at h
      · cases h
      · obtain ⟨_, -, h⟩ := Option.bind_eq_some_iff.1 h
        cases h
    · split at h
      · rename_i hc
        split at h
        · cases h
          exact EndsInside.of_skip (hc ▸ by decide) hs
        · cases h
      · split at h
        · cases h
        · obtain ⟨_, -, h⟩ := Option.bind_eq_some_iff.1 h
          cases h

theorem endsInside_readClass? (outer : List OpenClass) (o : OpenClass) (cs : List Char) :
    YieldsInside cs (readClass? v outer o cs) := by
  rw [readClass?_eq]
  refine Yields.bind fun (part, t) ht => ?_
  rcases part with e | ⟨outer, o⟩
  · exact Yields.done (classPart?_closed ht)
  · refine Yields.branch (fun shorter => ?_) fun _ => Yields.fail
    intro e r h
    refine (endsInside_readClass? outer o t e r h).of_suffix ?_
    exact (classPart?_suffix ht).trans ((List.tail_suffix _).trans (skip_suffix cs))
termination_by cs.length

theorem endsInside_readBracket? (cs : List Char) : YieldsInside cs (readBracket? v cs) :=
  Yields.bind fun (_, t) ht => Yields.bind fun (_, _) hr => Yields.done <|
    (endsInside_readClass? [] _ t _ _ hr).of_suffix (openClass?_suffix ht)

/-! ## Lexemes that take in the closing parenthesis -/

/-- The end of a text that makes one lexeme with the closing parenthesis after it: a backslash, or
switches without their end. -/
inductive Crosses (v : Bool) : List Char → Lexeme → Prop
  | escape : Crosses v ['\\'] (.literal ')' false)
  | switches {cs fs : List Char} {changes : List (Flag × Bool)} (mark : skip v cs = '?' :: fs)
      (read : readFlags false false [] (fs ++ closing) = some (changes, ')', ['$']))
      (some : changes ≠ []) : Crosses v ('(' :: cs) (.changeFlags changes)

theorem Crosses.exists_cons {l : Lexeme} (h : Crosses v cs l) : ∃ c left, cs = c :: left := by
  cases h <;> exact ⟨_, _, rfl⟩

theorem Crosses.ne_closeGroup {l : Lexeme} (h : Crosses v cs l) : l ≠ .closeGroup := by
  rintro rfl
  cases h

/-- Switches that are read into `closing` end with its parenthesis. -/
theorem flags?_crossing {negated dangling : Bool} {seen fs : List Char}
    {a : List (Flag × Bool) × Char}
    (h : flags? negated dangling seen (fs ++ closing) = some (a, r)) (short : r <:+ ['$']) :
    r = ['$'] ∧ a.2 = ')' := by
  induction fs generalizing negated dangling seen a with
  | nil =>
    rw [List.nil_append, closing, flags?_cons] at h
    cases dangling with
    | true => cases h
    | false =>
      cases h
      exact ⟨rfl, rfl⟩
  | cons c fs ih =>
    rw [List.cons_append, flags?_cons] at h
    split at h
    · -- all of `closing` is left
      split at h
      · cases h
      · cases h
        exact absurd short (not_append_closing (by decide))
    · split at h
      · cases h
      · split at h
        · exact ih h
        · obtain ⟨flag, -, h⟩ := Option.bind_eq_some_iff.1 h
          obtain ⟨⟨b, t⟩, hb, same⟩ := Option.map_eq_some_iff.1 h
          cases same
          obtain ⟨left, last⟩ := ih hb
          exact ⟨left, last⟩

theorem readSwitches?_crossing {fs : List Char} {l : Lexeme} (mark : skip v cs = '?' :: fs)
    (h : readSwitches? (fs ++ closing) = some (l, r)) (short : r <:+ ['$']) :
    r = ['$'] ∧ Crosses v ('(' :: cs) l := by
  obtain ⟨⟨⟨changes, last⟩, t⟩, ht, h⟩ := Option.bind_eq_some_iff.1 h
  obtain ⟨l, hl, same⟩ := Option.bind_eq_some_iff.1 h
  cases same
  obtain ⟨rfl, rfl⟩ := flags?_crossing ht short
  obtain ⟨⟨_, _, _⟩, read, same⟩ := Option.map_eq_some_iff.1 ht
  cases same
  simp only [switched?, Char.reduceEq, if_false] at hl
  split at hl
  · cases hl
  · rename_i some
    cases hl
    exact ⟨rfl, .switches mark read (by simpa using some)⟩

theorem readGroup?_crossing {l : Lexeme} (h : readGroup? v (cs ++ closing) = some (l, r))
    (short : r <:+ ['$']) : r = ['$'] ∧ Crosses v ('(' :: cs) l := by
  rw [readGroup?_eq] at h
  split at h
  · rename_i mark
    obtain ⟨fs, hs⟩ : ∃ fs, skip v cs = '?' :: fs := by
      rcases skip_append (v := v) cs with same | ⟨-, -, ends⟩
      · rw [same, beq_iff_eq, head?_append_closing (by decide)] at mark
        exact List.head?_eq_some_iff.1 mark
      · rw [ends] at mark
        cases mark
    rw [skip_append_of_cons hs, List.tail_cons, readMarked?] at h
    -- the name of a group ends in the text
    have named {ds : List Char} (left : ds <:+ fs ++ closing) (h : readNamed? ds = some (l, r)) :
        r = ['$'] ∧ Crosses v ('(' :: cs) l :=
      absurd short ((endsInside_readNamed? ds l r h).of_suffix left).not_short
    split at h
    · exact named (List.tail_suffix _) h
    · split at h
      · exact named ((List.tail_suffix _).trans (List.tail_suffix _)) h
      · exact readSwitches?_crossing hs h short
  · cases h
    exact absurd short (not_append_closing (by decide))

theorem readEscape?_crossing {l : Lexeme} (h : readEscape? v (cs ++ closing) = some (l, r))
    (short : r <:+ ['$']) : r = ['$'] ∧ Crosses v ('\\' :: cs) l := by
  cases cs with
  | nil =>
    have escaped : readEscape? v closing = some (.literal ')' false, ['$']) := rfl
    cases escaped.symm.trans h
    exact ⟨rfl, .escape⟩
  | cons c cs =>
    rcases readEscape?_ends c (cs ++ closing) l r h with rfl | ends
    · exact absurd short (not_append_closing (by decide))
    · exact absurd short ends.not_short

namespace Lexeme

/-- A lexeme that takes in the closing parenthesis leaves what comes after it. -/
theorem read?_crossing (c : Char) (cs : List Char) :
    Yields (fun l r => r <:+ ['$'] → r = ['$'] ∧ Crosses v (c :: cs) l)
      (read? v (c :: (cs ++ closing))) := by
  have whole {l : Lexeme} {rest : List Char} : Yields
      (fun l r => r <:+ ['$'] → r = ['$'] ∧ Crosses v (c :: cs) l) (some (l, rest ++ closing)) :=
    Yields.done fun short => absurd short (not_append_closing (by decide))
  have inside {x : Option (Lexeme × List Char)} (h : YieldsInside (cs ++ closing) x) :
      Yields (fun l r => r <:+ ['$'] → r = ['$'] ∧ Crosses v (c :: cs) l) x :=
    fun l r hx short => absurd short (h l r hx).not_short
  rw [read?_cons, skipLazy_append]
  refine Yields.branch (fun hc _ _ h short => hc ▸ readGroup?_crossing h short) fun _ => ?_
  refine Yields.branch (fun _ => whole) fun _ => ?_
  refine Yields.branch (fun _ => whole) fun _ => ?_
  refine Yields.branch (fun _ => inside (endsInside_readBracket? _)) fun _ => ?_
  refine Yields.branch (fun _ => whole) fun _ => ?_
  refine Yields.branch (fun _ => whole) fun _ => ?_
  refine Yields.branch (fun _ => whole) fun _ => ?_
  refine Yields.branch (fun _ => inside (endsInside_readRepetition? _)) fun _ => ?_
  refine Yields.branch (fun hc _ _ h short => hc ▸ readEscape?_crossing h short) fun _ => ?_
  refine Yields.branch (fun _ => whole) fun _ => ?_
  refine Yields.branch (fun _ => whole) fun _ => ?_
  exact Yields.branch (fun _ => whole) fun _ => whole

theorem read?_of_crosses {l : Lexeme} (h : Crosses v cs l) :
    read? v (cs ++ closing) = some (l, ['$']) := by
  cases h with
  | escape => rfl
  | @switches cs fs changes mark read some =>
    have unmarked : readMarked? (fs ++ closing) = readSwitches? (fs ++ closing) := by
      cases fs with
      | nil => rfl
      | cons c fs =>
        -- neither a name nor a `P` before it is a switch
        have angle : c ≠ '<' := by
          rintro rfl
          cases read
        have python : c ≠ 'P' := by
          rintro rfl
          cases read
        simp [readMarked?, angle, python]
    have group : Lexeme.read? v ('(' :: cs ++ closing) = readGroup? v (cs ++ closing) := rfl
    rw [group, readGroup?_eq, skip_append_of_cons mark]
    refine unmarked.trans ?_
    rw [readSwitches?_eq, read]
    simp [some]

end Lexeme

end ComponentSpec.Pattern
