import ComponentSpec.Proofs.Crossing
import ComponentSpec.Proofs.PlainPattern

/-!
# ComponentSpec.Proofs.Enclosing

How a text is read where `closing` comes after it and groups may be open around it.

* `State.next?`, `State.Reaches`: reading a lexeme, and some lexemes one after the other.
* `State.under`: a state with more groups around all others.
* `State.next?_under`, `State.next?_of_under`: lexemes are read with `closing` after them as they
  are alone, but for those that close a group around or take in the closing parenthesis.
* `State.Ending`, `State.readAll?_under_iff`: in which ways a text before `closing` is read to the
  end.
-/

namespace ComponentSpec.Pattern

variable {v : Bool} {c : Char} {cs rest r left : List Char} {l : Lexeme} {b : OpenGroup}
  {bs : List OpenGroup}

theorem skip_visible (hb : isBlank c = false) (hc : c ≠ '#') (cs : List Char) :
    skip v (c :: cs) = c :: cs := by
  cases v <;> simp [skip, skipFrom, hb, hc]

/-- A text that ends in a comment. What comes after it on the line is part of the comment. -/
def InComment (v : Bool) (cs : List Char) : Prop := skip v (cs ++ closing) = []

theorem skip_append_closing (ends : skip v cs = []) (visible : ¬ InComment v cs) :
    skip v (cs ++ closing) = closing := by
  rcases skip_append (v := v) cs with same | ⟨-, -, swallowed⟩
  · rw [same, ends, List.nil_append]
  · exact absurd swallowed visible

theorem not_inComment_of_concise (cs : List Char) : ¬ InComment false cs := by
  rw [InComment, skip_false]
  simp [closing]

namespace State

variable {s s' t t' u : State}

/-! ## Runs -/

/-- Reads the next lexeme. -/
def next? (s : State) (cs : List Char) : Option (State × List Char) := do
  let (l, rest) ← Lexeme.read? s.flags.verbose (skip s.flags.verbose cs)
  let t ← s.read? l
  if rest.length < cs.length then some (t, rest) else none

/-- Reading lexemes of a text from a state leads to another one and leaves the rest of the text. -/
inductive Reaches : State → List Char → State → List Char → Prop where
  | refl (s : State) (cs : List Char) : Reaches s cs s cs
  | step {s t u : State} {cs r rest : List Char} : s.next? cs = some (t, r) → Reaches t r u rest →
      Reaches s cs u rest

theorem next?_eq_some_iff : s.next? cs = some (t, rest) ↔
    ∃ l, Lexeme.read? s.flags.verbose (skip s.flags.verbose cs) = some (l, rest) ∧
      s.read? l = some t ∧ rest.length < cs.length := by
  simp only [next?, Option.bind_eq_bind, Option.bind_eq_some_iff, Prod.exists]
  constructor
  · rintro ⟨l, r, hl, u, hu, h⟩
    split at h
    · cases h
      exact ⟨l, hl, hu, ‹_›⟩
    · cases h
  · rintro ⟨l, hl, ht, shorter⟩
    exact ⟨l, rest, hl, t, ht, if_pos shorter⟩

theorem length_lt_of_next? (h : s.next? cs = some (t, rest)) : rest.length < cs.length := by
  obtain ⟨_, -, -, shorter⟩ := next?_eq_some_iff.1 h
  exact shorter

theorem exists_cons_of_next? (h : s.next? cs = some (t, rest)) :
    ∃ c left, skip s.flags.verbose cs = c :: left := by
  obtain ⟨l, hl, -, -⟩ := next?_eq_some_iff.1 h
  cases hs : skip s.flags.verbose cs with
  | nil =>
    rw [hs] at hl
    cases hl
  | cons c left => exact ⟨c, left, rfl⟩

theorem Reaches.here_or_later (h : Reaches s cs u rest) (ht : s.next? cs = some (t, r)) :
    u = s ∧ rest = cs ∨ Reaches t r u rest := by
  cases h with
  | refl => exact .inl ⟨rfl, rfl⟩
  | step hs later =>
    cases hs.symm.trans ht
    exact .inr later

theorem Reaches.here (h : Reaches s cs u rest) (stuck : s.next? cs = none) :
    u = s ∧ rest = cs := by
  cases h with
  | refl => exact ⟨rfl, rfl⟩
  | step hs _ => cases hs.symm.trans stuck

theorem readAll?_of_skip_nil (h : skip s.flags.verbose cs = []) : s.readAll? cs = some s := by
  rw [readAll?]
  split
  · rfl
  · rename_i hs
    rw [h] at hs
    cases hs

theorem readAll?_of_skip (h : skip s.flags.verbose cs ≠ []) :
    s.readAll? cs = s.next? cs >>= fun (t, rest) => t.readAll? rest := by
  rw [readAll?, next?]
  split
  · exact absurd ‹_› h
  · rename_i hs
    rw [hs]
    cases Lexeme.read? s.flags.verbose (_ :: _) with
    | none => rfl
    | some read =>
      obtain ⟨l, rest⟩ := read
      simp only [Option.bind_eq_bind, Option.bind_some]
      cases s.read? l with
      | none => rfl
      | some t =>
        simp only [Option.bind_some]
        split <;> rfl

theorem readAll?_of_next? (h : s.next? cs = some (t, rest)) : s.readAll? cs = t.readAll? rest := by
  obtain ⟨c, left, hs⟩ := exists_cons_of_next? h
  rw [readAll?_of_skip (hs ▸ List.cons_ne_nil c left), h]
  rfl

theorem Reaches.readAll?_eq (h : Reaches s cs t rest) : s.readAll? cs = t.readAll? rest := by
  induction h with
  | refl => rfl
  | step hs _ ih => exact (readAll?_of_next? hs).trans ih

/-- What is read of a whole text is where its lexemes lead to. -/
theorem reaches_of_readAll? {s t : State} {cs : List Char} (h : s.readAll? cs = some t) :
    ∃ rest, Reaches s cs t rest ∧ skip t.flags.verbose rest = [] := by
  by_cases ends : skip s.flags.verbose cs = []
  · rw [readAll?_of_skip_nil ends] at h
    cases h
    exact ⟨cs, .refl s cs, ends⟩
  · rw [readAll?_of_skip ends] at h
    obtain ⟨⟨u, r⟩, hu, h⟩ := Option.bind_eq_some_iff.1 h
    have shorter := length_lt_of_next? hu
    obtain ⟨rest, later, ends⟩ := reaches_of_readAll? h
    exact ⟨rest, .step hu later, ends⟩
termination_by cs.length

/-! ## Groups around -/

/-- The state with more groups around all others. -/
def under (s : State) (bs : List OpenGroup) : State := { s with outer := s.outer ++ bs }

theorem under_nil (s : State) : s.under [] = s := by
  rw [under, List.append_nil]

/-- The state after the end of the current group, which is in a group that has others around it. -/
def leave (s : State) (g : OpenGroup) (outer : List OpenGroup) : State :=
  ⟨s.current.around, g.push s.current.close.group, outer, s.names⟩

/-- A lexeme is read alike, but for a parenthesis that closes a group around. -/
theorem read?_under (bs : List OpenGroup) (h : l = .closeGroup → s.outer ≠ []) :
    (s.under bs).read? l = (s.read? l).map fun t => t.under bs := by
  obtain ⟨flags, current, outer, names⟩ := s
  cases l with
  | literal c isByte =>
    simp only [read?, Option.map_map]
    rfl
  | dot =>
    simp only [read?, Option.map_map]
    rfl
  | anchor a => rfl
  | «class» e =>
    simp only [read?, Option.map_map]
    rfl
  | openGroup name changes =>
    by_cases known : name.any names.contains = true
    · simp only [read?, under, known, if_true]
      rfl
    · simp only [read?, under, known]
      rfl
  | changeFlags changes => rfl
  | closeGroup =>
    cases outer with
    | nil => exact absurd rfl (h rfl)
    | cons g outer => rfl
  | bar => rfl
  | repetition least most =>
    simp only [read?, under]
    split
    · rfl
    · split <;> rfl

/-- Where no group is open, a closing parenthesis closes the first of the groups around. -/
theorem read?_closeGroup_under (closed : s.outer = []) :
    (s.under bs).read? .closeGroup =
      match bs with
      | [] => none
      | g :: outer => some (s.leave g outer) := by
  obtain ⟨flags, current, outer, names⟩ := s
  obtain rfl : outer = [] := closed
  cases bs <;> rfl

theorem next?_under (h : s.next? cs = some (t, r)) (bs : List OpenGroup) :
    (s.under bs).next? (cs ++ closing) = some (t.under bs, r ++ closing) := by
  obtain ⟨c, left, hs⟩ := exists_cons_of_next? h
  obtain ⟨l, hl, ht, shorter⟩ := next?_eq_some_iff.1 h
  have inner : l = .closeGroup → s.outer ≠ [] := by
    rintro rfl closed
    rw [read?, closed] at ht
    cases ht
  refine next?_eq_some_iff.2 ⟨l, ?_, ?_, by simpa using shorter⟩
  · change Lexeme.read? s.flags.verbose (skip s.flags.verbose (cs ++ closing)) = _
    rw [skip_append_of_cons hs]
    exact (Lexeme.agree_read? (c :: left)).extend l r (hs ▸ hl)
  · rw [read?_under bs inner, ht]
    rfl

/-- What is read of a text alone is read of it before `closing`. -/
theorem Reaches.under (h : Reaches s cs t rest) (bs : List OpenGroup) :
    Reaches (s.under bs) (cs ++ closing) (t.under bs) (rest ++ closing) := by
  induction h with
  | refl => exact .refl _ _
  | step hs _ ih => exact .step (next?_under hs bs) ih

/-! ## The end of the text -/

/-- The end of the text is read under the switches in force. -/
def finish (s : State) : State := s.push (.leaf (.look (look s.flags .lineEnd)))

theorem next?_dollar (s : State) : s.next? ['$'] = some (s.finish, []) := by
  rw [next?, skip_visible (by decide) (by decide)]
  rfl

theorem readAll?_dollar (s : State) : s.readAll? ['$'] = some s.finish := by
  rw [readAll?_of_next? (next?_dollar s)]
  exact readAll?_of_skip_nil (by cases s.flags.verbose <;> rfl)

/-- At `closing` a group is closed and the text ends. -/
theorem readAll?_at_closing (h : skip s.flags.verbose cs = closing) :
    s.readAll? cs = (s.read? .closeGroup).map finish := by
  have shorter : closing.length ≤ cs.length := h ▸ (skip_suffix cs).length_le
  have more : skip s.flags.verbose cs ≠ [] := by simp [h, closing]
  have close : Lexeme.read? s.flags.verbose (skip s.flags.verbose cs) = some (.closeGroup, ['$']) :=
    h ▸ rfl
  rw [readAll?_of_skip more, next?, close]
  simp only [Option.bind_eq_bind, Option.bind_some]
  cases s.read? .closeGroup with
  | none => rfl
  | some t =>
    have shorter : ['$'].length < cs.length := shorter
    simp only [Option.bind_some, if_pos shorter, Option.map_some]
    exact readAll?_dollar t

theorem next?_of_crosses (h : Crosses s.flags.verbose (skip s.flags.verbose cs) l)
    (ht : s.read? l = some t) (bs : List OpenGroup) :
    (s.under bs).next? (cs ++ closing) = some (t.under bs, ['$']) := by
  have crossing := Lexeme.read?_of_crosses h
  obtain ⟨c, left, hs⟩ := h.exists_cons
  have opened : l = .closeGroup → s.outer ≠ [] := fun closes => absurd closes h.ne_closeGroup
  refine next?_eq_some_iff.2 ⟨l, ?_, ?_, by simp [closing]⟩
  · change Lexeme.read? s.flags.verbose (skip s.flags.verbose (cs ++ closing)) = _
    rw [hs, List.cons_append] at crossing
    rw [skip_append_of_cons hs, crossing]
  · rw [read?_under bs opened, ht]
    rfl

theorem next?_leave (closed : s.outer = []) (hs : skip s.flags.verbose cs = ')' :: left)
    (g : OpenGroup) (outer : List OpenGroup) :
    (s.under (g :: outer)).next? (cs ++ closing) = some (s.leave g outer, left ++ closing) := by
  refine next?_eq_some_iff.2 ⟨.closeGroup, ?_, read?_closeGroup_under closed, ?_⟩
  · change Lexeme.read? s.flags.verbose (skip s.flags.verbose (cs ++ closing)) = _
    rw [skip_append_of_cons hs]
    rfl
  · simpa using length_lt_of_skip hs

/-- After `Dangling` the text cannot be read on. -/
theorem readAll?_dangling (h : Dangling s.flags.verbose l r) (ht : s.read? l = some t)
    (bs : List OpenGroup) : (t.under bs).readAll? (r ++ closing) = none := by
  obtain ⟨rfl, ds, rfl, ends⟩ := h
  cases ht
  have brace (v : Bool) : skip v ('\x7b' :: ds ++ closing) = '\x7b' :: (ds ++ closing) :=
    skip_openBrace _
  rw [readAll?_of_skip (by rw [brace]; exact List.cons_ne_nil _ _), next?, brace]
  exact congrArg (· >>= _) (congrArg (· >>= _) (Lexeme.read?_dangling ends))

/-- Before `closing` a lexeme is read as it is alone, or it closes a group around, or takes in the
closing parenthesis, or the text cannot be read on. -/
theorem next?_of_under (hs : skip s.flags.verbose cs = c :: left)
    (h : (s.under bs).next? (cs ++ closing) = some (t', r)) :
    (∃ t rest, s.next? cs = some (t, rest) ∧ t' = t.under bs ∧ r = rest ++ closing) ∨
    (∃ g outer, bs = g :: outer ∧ s.outer = [] ∧ c = ')' ∧ t' = s.leave g outer ∧
      r = left ++ closing) ∨
    (∃ l t, Crosses s.flags.verbose (c :: left) l ∧ s.read? l = some t ∧ t' = t.under bs ∧
      r = ['$']) ∨
    t'.readAll? r = none := by
  obtain ⟨l, hl, ht, shorter⟩ := next?_eq_some_iff.1 h
  change Lexeme.read? s.flags.verbose (skip s.flags.verbose (cs ++ closing)) = some (l, r) at hl
  rw [skip_append_of_cons hs] at hl
  by_cases inner : l = .closeGroup → s.outer ≠ []
  · rw [read?_under bs inner] at ht
    obtain ⟨t, hst, rfl⟩ := Option.map_eq_some_iff.1 ht
    rcases suffix_append_closing_cases (Lexeme.read?_suffix hl) with ⟨rest, rfl⟩ | short
    · rcases (Lexeme.agree_read? (c :: left)).shrink l rest hl with hl | dangling
      · have shorter : rest.length < cs.length := by simpa using shorter
        exact .inl ⟨t, rest, next?_eq_some_iff.2 ⟨l, hs ▸ hl, hst, shorter⟩, rfl, rfl⟩
      · exact .inr (.inr (.inr (readAll?_dangling dangling hst bs)))
    · obtain ⟨rfl, crosses⟩ := Lexeme.read?_crossing c left l r hl short
      exact .inr (.inr (.inl ⟨l, t, crosses, hst, rfl, rfl⟩))
  · obtain ⟨rfl, closed⟩ := Classical.not_imp.1 inner
    have closed := Classical.not_not.1 closed
    rcases Lexeme.read?_cases hl with ⟨-, part⟩ | ⟨hc, -, hr⟩ | part
    · exact part.elim
    · rw [read?_closeGroup_under closed] at ht
      cases bs with
      | nil => cases ht
      | cons g outer =>
        cases ht
        exact .inr (.inl ⟨g, outer, rfl, closed, hc, rfl, hr⟩)
    · exact part.elim

/-- How a text before `closing`, with groups `bs` around it, is read to its end: from `t`, where
`rest` is left of the text, the reading leads to `u`. Before the end of the text, or in its last
lexeme, no group but those around may have been closed. -/
inductive Ending (bs : List OpenGroup) (t : State) (rest : List Char) (u : State) : Prop
  | closes (ends : skip t.flags.verbose rest = []) (visible : ¬ InComment t.flags.verbose rest)
      (read : ((t.under bs).read? .closeGroup).map finish = some u)
  | comment (swallowed : InComment t.flags.verbose rest) (same : u = t.under bs)
  | crosses {l : Lexeme} {t' : State}
      (last : Crosses t.flags.verbose (skip t.flags.verbose rest) l) (read : t.read? l = some t')
      (same : u = (t'.under bs).finish)
  | leaves {g : OpenGroup} {outer : List OpenGroup} {w : List Char} (around : bs = g :: outer)
      (closed : t.outer = []) (stray : skip t.flags.verbose rest = ')' :: w)
      (read : (t.leave g outer).readAll? (w ++ closing) = some u)

theorem Ending.readAll?_eq (h : Ending bs t rest u) :
    (t.under bs).readAll? (rest ++ closing) = some u := by
  cases h with
  | closes ends visible read =>
    exact (readAll?_at_closing (s := t.under bs) (skip_append_closing ends visible)).trans read
  | comment swallowed same =>
    rw [same]
    exact readAll?_of_skip_nil (s := t.under bs) swallowed
  | crosses last read same =>
    rw [same, readAll?_of_next? (next?_of_crosses last read bs)]
    exact readAll?_dollar _
  | @leaves g outer _ around closed stray read =>
    rw [around, readAll?_of_next? (next?_leave closed stray g outer)]
    exact read

theorem exists_ending {s u : State} {cs : List Char}
    (h : (s.under bs).readAll? (cs ++ closing) = some u) :
    ∃ t rest, Reaches s cs t rest ∧ Ending bs t rest u := by
  cases hs : skip s.flags.verbose cs with
  | nil =>
    refine ⟨s, cs, .refl s cs, ?_⟩
    by_cases swallowed : InComment s.flags.verbose cs
    · rw [readAll?_of_skip_nil (s := s.under bs) swallowed] at h
      cases h
      exact .comment swallowed rfl
    · have at_closing : skip (s.under bs).flags.verbose (cs ++ closing) = closing :=
        skip_append_closing hs swallowed
      rw [readAll?_at_closing at_closing] at h
      exact .closes hs swallowed h
  | cons c left =>
    have more : skip (s.under bs).flags.verbose (cs ++ closing) ≠ [] := by
      have skipped := skip_append_of_cons hs
      exact fun ends => List.cons_ne_nil _ _ (skipped.symm.trans ends)
    rw [readAll?_of_skip more] at h
    obtain ⟨⟨t', r⟩, ht, h⟩ := Option.bind_eq_some_iff.1 h
    rcases next?_of_under hs ht with ⟨t, rest, hn, rfl, rfl⟩ |
      ⟨g, outer, around, closed, rfl, rfl, rfl⟩ | ⟨l, t, last, read, rfl, rfl⟩ | stuck
    · have shorter := length_lt_of_next? hn
      obtain ⟨w, q, later, ending⟩ := exists_ending h
      exact ⟨w, q, .step hn later, ending⟩
    · exact ⟨s, cs, .refl s cs, .leaves around closed hs h⟩
    · have same := h.symm.trans (readAll?_dollar _)
      exact ⟨s, cs, .refl s cs, .crosses (hs ▸ last) read (Option.some.inj same)⟩
    · cases stuck.symm.trans h
termination_by cs.length

/-- Reading a text before `closing` is reading the text alone up to one of its endings. -/
theorem readAll?_under_iff : (s.under bs).readAll? (cs ++ closing) = some u ↔
    ∃ t rest, Reaches s cs t rest ∧ Ending bs t rest u := by
  constructor
  · exact exists_ending
  · rintro ⟨t, rest, h, ending⟩
    exact (h.under bs).readAll?_eq.trans ending.readAll?_eq

end State

end ComponentSpec.Pattern
