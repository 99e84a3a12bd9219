import ComponentSpec.Proofs.WholeName

/-!
# ComponentSpec.Proofs.BreakingOut

Malformed patterns of states. A pattern is only ever read in the text for whole names, so that one
which is malformed on its own may be accepted there: a closing parenthesis in it closes the group
around it, and the parenthesis that was put after it completes the rest.

* `State.Unfinished`: a text that lacks a closing parenthesis. `State.unfinished_iff`: it is read
  before `closing`.
* `BreaksOut`: a closing parenthesis that closes no group of the pattern, and an unfinished text
  after it.
* `isSome_statePattern_iff`: a malformed pattern is accepted just if it breaks out.
* `build_malformed`: all other malformed patterns are faults.
-/

namespace ComponentSpec

namespace Pattern

variable {v : Bool} {cs rest w : List Char} {l : Lexeme}

namespace State

variable {s t u : State}

/-- A text that lacks a closing parenthesis: where all of it has been read, one group is open; or no
group is open, and a closing parenthesis after the text belongs to its last lexeme or to a comment
at its end. -/
inductive Unfinished (s : State) (cs : List Char) : Prop
  | group {t : State} {rest : List Char} {g : OpenGroup} (run : Reaches s cs t rest)
      (opened : t.outer = [g]) (ends : skip t.flags.verbose rest = [])
      (visible : ¬ InComment t.flags.verbose rest)
  | lexeme {t : State} {rest : List Char} {l : Lexeme} (run : Reaches s cs t rest)
      (closed : t.outer = []) (last : Crosses t.flags.verbose (skip t.flags.verbose rest) l)
  | comment {t : State} {rest : List Char} (run : Reaches s cs t rest) (closed : t.outer = [])
      (swallowed : InComment t.flags.verbose rest)

theorem read?_of_crosses (h : Crosses v cs l) :
    ∃ t, s.read? l = some t ∧ t.outer = s.outer := by
  cases h with
  | escape =>
    refine ⟨s.push (.leaf (.set (s.flags.fold (· == ')')))), ?_, rfl⟩
    simp [read?, literal?]
  | switches => exact ⟨_, rfl, rfl⟩

theorem unfinished_iff :
    s.Unfinished cs ↔ ∃ u, s.readAll? (cs ++ closing) = some u ∧ u.outer = [] := by
  have reading (u : State) : s.readAll? (cs ++ closing) = some u ↔
      ∃ t rest, Reaches s cs t rest ∧ Ending [] t rest u := by
    rw [← readAll?_under_iff, under_nil]
  constructor
  · intro h
    cases h with
    | @group t rest g run opened ends visible =>
      refine ⟨(t.leave g []).finish, (reading _).2 ⟨t, rest, run, .closes ends visible ?_⟩, rfl⟩
      rw [under_nil, read?, opened]
      rfl
    | @lexeme t rest l run closed last =>
      obtain ⟨t', read, outer⟩ := read?_of_crosses (s := t) last
      refine ⟨t'.finish, (reading _).2 ⟨t, rest, run, .crosses last read ?_⟩, outer.trans closed⟩
      rw [under_nil]
    | @comment t rest run closed swallowed =>
      exact ⟨t, (reading _).2 ⟨t, rest, run, .comment swallowed (under_nil t).symm⟩, closed⟩
  · rintro ⟨u, h, closed⟩
    obtain ⟨t, rest, run, ending⟩ := (reading u).1 h
    cases ending with
    | closes ends visible read =>
      rw [under_nil, read?] at read
      cases outer : t.outer with
      | nil =>
        rw [outer] at read
        cases read
      | cons g gs =>
        rw [outer] at read
        cases read
        obtain rfl : gs = [] := closed
        exact .group run outer ends visible
    | comment swallowed same =>
      rw [under_nil] at same
      exact .comment run (same ▸ closed) swallowed
    | crosses last read same =>
      obtain ⟨t', read', outer⟩ := read?_of_crosses (s := t) last
      cases read'.symm.trans read
      rw [under_nil] at same
      subst same
      exact .lexeme run (outer.symm.trans closed) last
    | leaves around => cases around

end State

/-- A pattern that closes the group around it: where no group of its own is open it has a closing
parenthesis, and what comes after that is unfinished. -/
def BreaksOut (cs : List Char) : Prop :=
  ∃ t rest w, State.Reaches .start cs t rest ∧ t.outer = [] ∧
    skip t.flags.verbose rest = ')' :: w ∧ (t.leave wholeGroup []).Unfinished w

/-- Without an opening parenthesis only a backslash at its end leaves a text unfinished. -/
theorem State.Unfinished.open_or_escape {s : State} (h : s.Unfinished cs) (closed : s.outer = [])
    (concise : s.flags.verbose = false) : '(' ∈ cs ∨ ['\\'] <:+ cs := by
  by_cases opens : '(' ∈ cs
  · exact .inl opens
  · refine .inr ?_
    cases h with
    | group run opened =>
      rw [(run.of_closed closed opens).1] at opened
      cases opened
    | @lexeme t rest l run _ last =>
      rw [(run.of_closed closed opens).2, concise, skip_false] at last
      generalize hrest : rest = left at last
      cases last with
      | escape => exact hrest ▸ run.suffix
      | switches => exact absurd (run.suffix.subset (hrest ▸ List.mem_cons_self)) opens
    | @comment t rest run _ swallowed =>
      rw [(run.of_closed closed opens).2, concise] at swallowed
      exact absurd swallowed (not_inComment_of_concise rest)

/-- After the parenthesis that closes the group around it, a pattern opens another group or ends
with a backslash. -/
theorem BreaksOut.exists_append (h : BreaksOut cs) :
    ∃ u w, cs = u ++ ')' :: w ∧ ('(' ∈ w ∨ ['\\'] <:+ w) := by
  obtain ⟨t, rest, w, run, closed, stray, unfinished⟩ := h
  have left : ')' :: w <:+ cs := (stray ▸ skip_suffix rest).trans run.suffix
  obtain ⟨u, rfl⟩ := left
  refine ⟨u, w, rfl, unfinished.open_or_escape rfl ?_⟩
  have around := (State.isSound_start.reaches run).around_of_closed closed
  rw [State.leave, around]
  rfl

theorem BreaksOut.readAll?_enclose (h : BreaksOut cs) :
    ∃ u, State.start.readAll? (enclose cs) = some u ∧ u.outer = [] := by
  obtain ⟨t, rest, w, run, closed, stray, unfinished⟩ := h
  obtain ⟨u, read, ended⟩ := State.unfinished_iff.1 unfinished
  refine ⟨u, ?_, ended⟩
  rw [readAll?_whole, State.readAll?_under_iff]
  exact ⟨t, rest, run, .leaves rfl closed stray read⟩

/-- The text for whole names is only read if the pattern is valid on its own or breaks out. -/
theorem readAll?_enclose_cases {u : State} (h : State.start.readAll? (enclose cs) = some u)
    (ended : u.outer = []) :
    (∃ s, State.start.readAll? cs = some s ∧ s.outer = [] ∧ u = s.enclosed) ∨ BreaksOut cs := by
  rw [readAll?_whole] at h
  obtain ⟨t, rest, run, ending⟩ := State.readAll?_under_iff.1 h
  -- otherwise the group around is still open
  have still_open {t : State} (around : u.outer = t.outer ++ [wholeGroup]) : False :=
    List.append_ne_nil_of_right_ne_nil _ (List.cons_ne_nil _ _) (around.symm.trans ended)
  cases ending with
  | closes ends visible read =>
    have read_alone := run.readAll?_eq.trans (State.readAll?_of_skip_nil ends)
    cases outer : t.outer with
    | nil =>
      have sound := State.isSound_start.reaches run
      rw [State.closeGroup_eq_enclosed sound outer] at read
      exact .inl ⟨t, read_alone, outer, (Option.some.inj read).symm⟩
    | cons g gs =>
      rw [State.under, State.read?, outer] at read
      cases read
      cases gs <;> cases ended
  | comment swallowed same => exact (still_open (congrArg State.outer same)).elim
  | crosses last read same => exact (still_open (congrArg State.outer same)).elim
  | leaves around closed stray read =>
    cases around
    exact .inr ⟨t, rest, _, run, closed, stray, State.unfinished_iff.2 ⟨u, read, ended⟩⟩

end Pattern

open Pattern

def BreaksOutWithin (limit : SizeLimit) (pattern : String) : Prop :=
  BreaksOut pattern.toList ∧ limit.fits (wholePattern pattern) = true ∧ FitsNestingLimit pattern

variable {limit : SizeLimit} {pattern : String}

/-- Among the malformed patterns those that break out are accepted, and no others. -/
theorem isSome_statePattern_iff (malformed : Expr.ofChars? limit pattern.toList = none) :
    (statePatternWithin? limit pattern).isSome = true ↔ BreaksOutWithin limit pattern := by
  rw [statePatternWithin?, Option.isSome_map, Option.isSome_iff_exists]
  constructor
  · rintro ⟨e, he⟩
    obtain ⟨u, hu, ended, nests, fits, -⟩ := ofChars?_eq_some_iff.1 he
    rcases readAll?_enclose_cases hu ended with ⟨s, hs, closed, rfl⟩ | out
    · -- on its own the pattern nests less deep and is no larger
      rw [State.close_enclosed] at nests
      have valid := ofChars?_of_readAll? hs closed ((nesting_le_wholeItem _).trans nests)
        (limit.of_enclose _ fits)
      cases malformed.symm.trans valid
    · refine ⟨out, fits, fun s hs => ?_⟩
      cases hu.symm.trans hs
      exact nests
  · rintro ⟨out, fits, nests⟩
    obtain ⟨u, hu, ended⟩ := out.readAll?_enclose
    exact ⟨_, ofChars?_of_readAll? hu ended (nests u hu) fits⟩

namespace StateMachine

/-- A malformed pattern is accepted just if it breaks out, for which it has to go on after a stray
closing parenthesis and open another group or end with a backslash. With any other malformed pattern
no machine is built, and where it is the first fault it is the one that is reported. -/
theorem build_malformed (malformed : Expr.ofChars? limit pattern.toList = none) :
    ((statePatternWithin? limit pattern).isSome = true ↔ BreaksOutWithin limit pattern) ∧
    (BreaksOutWithin limit pattern →
      ∃ u w, pattern.toList = u ++ ')' :: w ∧ ('(' ∈ w ∨ ['\\'] <:+ w)) ∧
    (¬ BreaksOutWithin limit pattern →
      ∀ (states : List String) (events : NameSet) (start : String) (ds : List TransitionDecl),
        (∀ d ∈ ds, d.pattern = pattern → ∀ m,
          (build (statePatternWithin? limit) states events start ds).outcome ≠ .ok m) ∧
        (∀ before d after, ds = before ++ d :: after → d.pattern = pattern → start ∈ states →
          (∀ before' d' after', before = before' ++ d' :: after' → ∀ f,
            ¬ Violates (statePatternWithin? limit) states.eraseDups events.names
              (before'.flatMap (expand (statePatternWithin? limit) states.eraseDups)) d' f) →
          ∃ f, (build (statePatternWithin? limit) states events start ds).outcome = .error f ∧
            f = .badPattern pattern ∧ f.kind = .invalidStatePattern)) := by
  refine ⟨isSome_statePattern_iff malformed, fun h => h.1.exists_append, fun inside => ?_⟩
  intro states events start ds
  have rejected : statePatternWithin? limit pattern = none :=
    Option.not_isSome_iff_eq_none.1 (mt (isSome_statePattern_iff malformed).1 inside)
  constructor
  · rintro d hd rfl m h
    have accepted := ((build_ok_iff.1 h).1.sound d hd).pattern
    rw [rejected] at accepted
    cases accepted
  · rintro before d after hds rfl known none_before
    have violates : Violates (statePatternWithin? limit) states.eraseDups events.names
        (before.flatMap (expand (statePatternWithin? limit) states.eraseDups)) d
        (.badPattern d.pattern) := .badPattern rejected
    refine ⟨.badPattern d.pattern, build_error_iff.2 (.inr ⟨known, before, d, after, ?_⟩), rfl, rfl⟩
    exact ⟨hds, none_before, violates⟩

/-- A parenthesis that closes the group around the pattern, with nothing after it that needs the one
which was put there. -/
theorem stray_parenthesis_rejected :
    Expr.ofChars? .unlimited "a)b".toList = none ∧ ¬ BreaksOutWithin .unlimited "a)b" ∧
      ∃ f, (build statePattern? ["Off", "On"] (NameSet.ofList ["turn"]) "Off"
        [⟨"a)b", "On", "turn", none⟩, ⟨"On", "Off", "turn", none⟩]).outcome = .error f ∧
        f = .badPattern "a)b" ∧ f.kind = .invalidStatePattern := by
  have stops : State.start.readAll? "a)b".toList = none :=
    (readAll?_cons rfl rfl rfl (by decide)).trans (State.readAll?_of_skip (by decide))
  have malformed : Expr.ofChars? .unlimited "a)b".toList = none := by
    rw [Expr.ofChars?, stops]
    rfl
  obtain ⟨-, shape, rejected⟩ := build_malformed malformed
  have inside : ¬ BreaksOutWithin .unlimited "a)b" := by
    intro h
    obtain ⟨u, w, split, after⟩ := shape h
    obtain rfl : w = ['b'] := by
      rcases u with - | ⟨c, - | ⟨d, - | ⟨e, u⟩⟩⟩ <;> simp_all
    exact absurd after (by decide)
  have first := (rejected inside ["Off", "On"] (NameSet.ofList ["turn"]) "Off"
    [⟨"a)b", "On", "turn", none⟩, ⟨"On", "Off", "turn", none⟩]).2 []
  exact ⟨malformed, inside, first _ _ rfl rfl (by decide) (by simp)⟩

/-- A malformed pattern that breaks out. The text for whole names is then two alternatives, of which
each is matched against one end of a name only. -/
theorem unbalanced_accepted :
    Expr.ofChars? .unlimited "a)|(b".toList = none ∧
      (build statePattern? ["a", "ax"] (NameSet.ofList ["go"]) "a"
        [⟨"a)|(b", "a", "go", none⟩]).outcome =
      .ok ⟨NameSet.ofList ["a", "ax"], "a", [⟨"a", "a", "go", none⟩, ⟨"ax", "a", "go", none⟩]⟩ := by
  have malformed : State.start.readAll? "a)|(b".toList = none :=
    (readAll?_cons rfl rfl rfl (by decide)).trans (State.readAll?_of_skip (by decide))
  have read : State.start.readAll? (wholePattern "a)|(b") =
      some ⟨.initial, ⟨[.concat [startItem, (charItem 'a').group]],
        [endItem, (charItem 'b').group], .initial⟩, [], []⟩ := by
    refine (readAll?_cons rfl rfl rfl (by decide)).trans ?_
    refine (readAll?_cons rfl rfl rfl (by decide)).trans ?_
    refine (readAll?_cons rfl rfl rfl (by decide)).trans ?_
    refine (readAll?_cons rfl rfl rfl (by decide)).trans ?_
    refine (readAll?_cons rfl rfl rfl (by decide)).trans ?_
    refine (readAll?_cons rfl rfl rfl (by decide)).trans ?_
    refine (readAll?_cons rfl rfl rfl (by decide)).trans ?_
    refine (readAll?_cons rfl rfl rfl (by decide)).trans ?_
    exact (readAll?_cons rfl rfl rfl (by decide)).trans (readAll?_nil rfl)
  have meaning : statePattern? "a)|(b" = some fun name =>
      (Expr.alt (.seq (.look .textStart) (.set (· == 'a')))
        (.seq (.set (· == 'b')) (.look .textEnd))).isFoundIn name.toList := by
    rw [statePattern?, statePatternWithin?, ofChars?_of_readAll? read rfl (by decide) rfl]
    rfl
  refine ⟨by rw [Expr.ofChars?, malformed]; rfl, ?_⟩
  have both : matched statePattern? ["a", "ax"].eraseDups "a)|(b" = ["a", "ax"] := by
    rw [matched, meaning]
    decide
  have transitions : [⟨"a)|(b", "a", "go", none⟩].flatMap
      (expand statePattern? ["a", "ax"].eraseDups) =
      [⟨"a", "a", "go", none⟩, ⟨"ax", "a", "go", none⟩] := by
    rw [List.flatMap_singleton, expand, both]
    rfl
  refine build_ok_iff.2 ⟨⟨by decide, fun d hd => ?_, by rw [transitions]; decide⟩, rfl, rfl,
    transitions.symm⟩
  obtain rfl := List.mem_singleton.1 hd
  exact ⟨by rw [meaning]; rfl, by rw [both]; decide, by decide, by decide⟩

end StateMachine

end ComponentSpec
