import ComponentSpec.Proofs.Expansion
import ComponentSpec.Proofs.OpenGroups

/-!
# ComponentSpec.Proofs.WholeName

Patterns of states are matched against whole names.

* `readAll?_enclose`: a pattern that is valid on its own is read alike in the text for whole names.
* `matched_statePattern`: the states that a pattern stands for are those that it matches from the
  first to the last character.
-/

namespace ComponentSpec

namespace Pattern

variable {cs : List Char} {s t : State}

/-! ## The text for whole names -/

/-- The group around the pattern, with what stands before it. -/
def wholeGroup : OpenGroup := ⟨[], [startItem], .initial⟩

theorem readAll?_whole (cs : List Char) :
    State.start.readAll? (enclose cs) =
      (State.start.under [wholeGroup]).readAll? (cs ++ closing) := by
  have enclosed : enclose cs = '^' :: '(' :: '?' :: ':' :: (cs ++ closing) := by
    simp [enclose, closing]
  rw [enclosed]
  exact (readAll?_cons rfl rfl rfl (by simp)).trans (readAll?_cons rfl rfl rfl (by simp; omega))

theorem nesting_le_wholeItem (i : Item) : i.nesting ≤ (wholeItem i).nesting := by
  have nesting : (wholeItem i).nesting = max (max (max 0 0) (i.nesting + 1)) 0 + 1 := rfl
  omega

namespace State

/-- The state after the text for whole names, from that after the pattern. -/
def enclosed (s : State) : State :=
  ⟨.initial, ⟨[], [endItem, s.current.close.group, startItem], .initial⟩, [], s.names⟩

theorem close_enclosed (s : State) : s.enclosed.current.close = wholeItem s.current.close := rfl

/-- At the end of the text for whole names, the group around the pattern is closed. -/
theorem closeGroup_eq_enclosed (sound : s.IsSound) (closed : s.outer = []) :
    ((s.under [wholeGroup]).read? .closeGroup).map finish = some s.enclosed := by
  rw [read?_closeGroup_under closed, Option.map_some, leave, sound.around_of_closed closed]
  rfl

end State

theorem ofChars?_eq_some_iff {limit : SizeLimit} {e : Expr} : Expr.ofChars? limit cs = some e ↔
    ∃ s, State.start.readAll? cs = some s ∧ s.outer = [] ∧ s.current.close.nesting ≤ maxNesting ∧
      limit.fits cs = true ∧ s.current.close.expr = e := by
  constructor
  · intro h
    simp only [Expr.ofChars?, Option.bind_eq_bind, Option.bind_eq_some_iff, Option.pure_def,
      Option.some.injEq, Option.guard_eq_some', List.isEmpty_iff] at h
    obtain ⟨s, hs, _, closed, _, nests, _, fits, rfl⟩ := h
    exact ⟨s, hs, closed, nests, fits, rfl⟩
  · rintro ⟨s, hs, closed, nests, fits, rfl⟩
    exact ofChars?_of_readAll? hs closed nests fits

/-- The alternatives of a pattern that are not in a group. -/
def alternatives? (cs : List Char) : Option (List Expr) :=
  (State.start.readAll? cs).map fun s => s.current.bar.alternatives.reverse.map Item.expr

theorem match_alternatives_iff {p q text : List Char} :
    Expr.Match s.current.close.expr p text q ↔
      ∃ a ∈ s.current.bar.alternatives.reverse.map Item.expr, Expr.Match a p text q := by
  have nonempty : s.current.bar.alternatives.reverse ≠ [] := by simp [OpenGroup.bar]
  rw [OpenGroup.close, Item.match_choice_iff nonempty]
  simp

/-- A pattern that is valid on its own is a pattern for whole names, if it does not end in a
comment. -/
theorem readAll?_enclose {rest : List Char} (run : State.Reaches .start cs s rest)
    (closed : s.outer = []) (ends : skip s.flags.verbose rest = [])
    (visible : ¬ InComment s.flags.verbose rest) :
    State.start.readAll? (enclose cs) = some s.enclosed := by
  have sound : s.IsSound := State.isSound_start.reaches run
  rw [readAll?_whole, State.readAll?_under_iff]
  exact ⟨s, rest, run, .closes ends visible (State.closeGroup_eq_enclosed sound closed)⟩

end Pattern

open Pattern

/-! ## Valid patterns -/

/-- The pattern of a state is within the depth that patterns may have. -/
def FitsNestingLimit (pattern : String) : Prop :=
  ∀ s, State.start.readAll? (wholePattern pattern) = some s →
    s.current.close.nesting ≤ maxNesting

/-- A pattern that nowhere switches to being verbose. -/
def NeverVerbose (pattern : String) : Prop :=
  ∀ t rest, State.Reaches .start pattern.toList t rest → t.flags.verbose = false

theorem NeverVerbose.readAll?_wholePattern {pattern : String} {s : State}
    (concise : NeverVerbose pattern) (hs : State.start.readAll? pattern.toList = some s)
    (closed : s.outer = []) : State.start.readAll? (wholePattern pattern) = some s.enclosed := by
  obtain ⟨rest, run, ends⟩ := State.reaches_of_readAll? hs
  refine readAll?_enclose run closed ends ?_
  rw [concise s rest run]
  exact not_inComment_of_concise rest

/-- A valid pattern matches the names that it matches from the first to the last character. -/
theorem statePattern?_valid {limit : SizeLimit} {pattern : String} {e : Expr}
    (valid : Expr.ofChars? limit pattern.toList = some e) (concise : NeverVerbose pattern)
    (fits : limit.fits (wholePattern pattern) = true) (nests : FitsNestingLimit pattern) :
    ∃ isMatch, statePatternWithin? limit pattern = some isMatch ∧
      ∀ name, isMatch name = true ↔ Expr.Match e [] name.toList [] := by
  obtain ⟨s, hs, closed, -, -, rfl⟩ := ofChars?_eq_some_iff.1 valid
  obtain ⟨_, run, -⟩ := State.reaches_of_readAll? hs
  have proper : s.current.close.expr.IsProper := (State.isSound_start.reaches run).current.close
  have whole := concise.readAll?_wholePattern hs closed
  have read : Expr.ofChars? limit (wholePattern pattern) = some (wholeItem s.current.close).expr :=
    ofChars?_of_readAll? whole rfl (nests _ whole) fits
  refine ⟨fun name => (wholeItem s.current.close).expr.isFoundIn name.toList, ?_, fun name => ?_⟩
  · rw [statePatternWithin?, read]
    rfl
  · exact Expr.isFoundIn_whole_iff proper

namespace StateMachine

/-- A pattern that is valid on its own stands for the states that it matches from the first to the
last character, in one way or another. These are the states from which its declaration adds a
transition to a machine. Each alternative is matched against whole names, and a pattern without
operators stands for the state of that name. -/
theorem matched_statePattern {limit : SizeLimit} {pattern : String} {e : Expr}
    (valid : Expr.ofChars? limit pattern.toList = some e) (concise : NeverVerbose pattern)
    (fits : limit.fits (wholePattern pattern) = true) (nests : FitsNestingLimit pattern)
    (states : List String) :
    (∀ events start before d after m, d.pattern = pattern →
      (build (statePatternWithin? limit) states events start (before ++ d :: after)).outcome =
        .ok m →
      m.transitions = before.flatMap (expand (statePatternWithin? limit) states.eraseDups) ++
        (matched (statePatternWithin? limit) states.eraseDups pattern).map d.leaving ++
        after.flatMap (expand (statePatternWithin? limit) states.eraseDups)) ∧
    (statePatternWithin? limit pattern).isSome = true ∧
    (∀ state, state ∈ matched (statePatternWithin? limit) states pattern ↔
      state ∈ states ∧ Expr.Match e [] state.toList []) ∧
    (∃ as, alternatives? pattern.toList = some as ∧
      ∀ state, state ∈ matched (statePatternWithin? limit) states pattern ↔
        state ∈ states ∧ ∃ a ∈ as, Expr.Match a [] state.toList []) ∧
    (IsPlain pattern → ∀ state, state ∈ matched (statePatternWithin? limit) states pattern ↔
      state ∈ states ∧ state = pattern) := by
  obtain ⟨isMatch, hp, matches_iff⟩ := statePattern?_valid valid concise fits nests
  have mem (state : String) : state ∈ matched (statePatternWithin? limit) states pattern ↔
      state ∈ states ∧ Expr.Match e [] state.toList [] := by
    rw [matched, hp, ← matches_iff]
    exact List.mem_filter
  refine ⟨?_, by rw [hp]; rfl, mem, ?_, fun plain state => ?_⟩
  · rintro events start before d after m rfl h
    have transitions := (build_ok_iff.1 h).2.2.2
    rw [transitions, List.flatMap_append, List.flatMap_cons, expand, List.append_assoc]
  · obtain ⟨s, hs, -, -, -, rfl⟩ := ofChars?_eq_some_iff.1 valid
    refine ⟨_, by rw [alternatives?, hs]; rfl, fun state => ?_⟩
    rw [mem, match_alternatives_iff]
  · obtain ⟨isMatch', hp', plain_iff⟩ := statePattern?_plain plain fits
    rw [matched, hp', ← plain_iff]
    exact List.mem_filter

/-- The shorter alternative is preferred, but does not match the whole name. -/
theorem longer_alternative_matched :
    "ab" ∈ matched statePattern? ["a", "ab", "abc"] "a|ab" ∧
      "abc" ∉ matched statePattern? ["a", "ab", "abc"] "a|ab" := by
  let s : State := ⟨.initial, ⟨[charItem 'a'], [charItem 'b', charItem 'a'], .initial⟩, [], []⟩
  have read : State.start.readAll? "a|ab".toList = some s :=
    (readAll?_cons rfl rfl rfl (by decide)).trans <|
      (readAll?_cons rfl rfl rfl (by decide)).trans <|
        (readAll?_cons rfl rfl rfl (by decide)).trans <|
          (readAll?_cons rfl rfl rfl (by decide)).trans (readAll?_nil rfl)
  have concise : NeverVerbose "a|ab" := by
    intro t rest h
    rcases h.here_or_later rfl with ⟨rfl, -⟩ | h
    · rfl
    rcases h.here_or_later rfl with ⟨rfl, -⟩ | h
    · rfl
    rcases h.here_or_later rfl with ⟨rfl, -⟩ | h
    · rfl
    rcases h.here_or_later rfl with ⟨rfl, -⟩ | h
    · rfl
    obtain ⟨rfl, -⟩ := h.here rfl
    rfl
  have nests : FitsNestingLimit "a|ab" := fun t ht => by
    cases (concise.readAll?_wholePattern read rfl).symm.trans ht
    decide
  have valid : Expr.ofChars? .unlimited "a|ab".toList = some s.current.close.expr :=
    ofChars?_of_readAll? read rfl (by decide) rfl
  have mem := (matched_statePattern valid concise rfl nests ["a", "ab", "abc"]).2.2.1
  have longer : Expr.Match s.current.close.expr [] "ab".toList [] :=
    .altRight (.seq (t := ['a']) (u := ['b']) (.set rfl) (.set rfl))
  refine ⟨(mem "ab").2 ⟨by decide, longer⟩, fun h => ?_⟩
  -- either alternative is too short
  rcases Item.match_alt_iff.1 ((mem "abc").1 h).2 with h | h
  · obtain ⟨c, hc, -⟩ := Expr.match_set_iff.1 h
    exact absurd (congrArg List.length hc) (by simp)
  · obtain ⟨t, u, htu, ht, hu⟩ := Expr.match_seq_iff.1 h
    obtain ⟨c, rfl, -⟩ := Expr.match_set_iff.1 ht
    obtain ⟨d, rfl, -⟩ := Expr.match_set_iff.1 hu
    exact absurd (congrArg List.length htu) (by simp)

end StateMachine

end ComponentSpec
