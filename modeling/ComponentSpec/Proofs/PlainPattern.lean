import ComponentSpec.Pattern.StatePattern
import ComponentSpec.Proofs.Matching
import Mathlib.Algebra.GroupWithZero.Nat
import Mathlib.Data.Option.Basic

/-!
# ComponentSpec.Proofs.PlainPattern

Names as patterns. A name without operators is a pattern that matches this name and no other one.

* `IsPlain`: a name without operators.
* `readAll?_plain`: the parts that such a pattern is read as.
* `statePattern?_plain`: what it matches.
-/

namespace ComponentSpec

namespace Pattern

/-- The characters that stand for something else in a pattern. -/
def operators : List Char :=
  ['\\', '.', '+', '*', '?', '(', ')', '|', '[', ']', '\x7b', '\x7d', '^', '$']

variable {c : Char} {cs rest : List Char} {s s' : State}

/-! ## Reading -/

theorem skip_false (cs : List Char) : skip false cs = cs := by
  cases cs <;> rfl

/-- One lexeme is read, and then the rest. -/
theorem readAll?_cons {l : Lexeme} (plain : s.flags.verbose = false)
    (hl : Lexeme.read? false (c :: cs) = some (l, rest)) (hs : s.read? l = some s')
    (shorter : rest.length < (c :: cs).length) : s.readAll? (c :: cs) = s'.readAll? rest := by
  rw [State.readAll?, plain, skip_false]
  simp only [hl, hs, if_pos shorter]

theorem readAll?_nil (plain : s.flags.verbose = false) : s.readAll? [] = some s := by
  rw [State.readAll?, plain, skip_false]

theorem read?_plain (h : c ∉ operators) :
    Lexeme.read? false (c :: cs) = some (.literal c false, cs) := by
  simp only [operators, List.mem_cons, List.not_mem_nil, or_false, not_or] at h
  simp [Lexeme.read?, h]

/-- The part that a character stands for. -/
def charItem (c : Char) : Item := .leaf (.set (· == c))

/-- Characters that are no operators are added to the innermost group as they stand. -/
theorem readAll?_plain_append (h : ∀ c ∈ cs, c ∉ operators) (g : OpenGroup) (outer : List OpenGroup)
    (names : List (List Char)) :
    (State.mk .initial g outer names).readAll? (cs ++ rest) =
      (State.mk .initial { g with items := (cs.map charItem).reverse ++ g.items } outer
        names).readAll? rest := by
  induction cs generalizing g with
  | nil => rfl
  | cons c cs ih =>
    have hc : c ∉ operators := h c List.mem_cons_self
    have later : ∀ d ∈ cs, d ∉ operators := fun d hd => h d (List.mem_cons_of_mem _ hd)
    rw [List.cons_append, readAll?_cons rfl (read?_plain hc) rfl (by simp)]
    refine (ih later (g.push (charItem c))).trans ?_
    simp [OpenGroup.push]

/-- The group of a pattern without operators. -/
def plainItem (cs : List Char) : Item := Item.concat (cs.map charItem)

def startItem : Item := .leaf (.look .textStart)

def endItem : Item := .leaf (.look .textEnd)

/-- A whole pattern: the start of the text, the group of the pattern and the end of the text. -/
def wholeItem (i : Item) : Item := .concat [startItem, i.group, endItem]

/-- The state after all of a pattern without operators. -/
def plainState (cs : List Char) : State :=
  ⟨.initial, ⟨[], [endItem, (plainItem cs).group, startItem], .initial⟩, [], []⟩

theorem readAll?_plain (h : ∀ c ∈ cs, c ∉ operators) :
    State.start.readAll? (enclose cs) = some (plainState cs) := by
  have enclosed : enclose cs = '^' :: '(' :: '?' :: ':' :: (cs ++ [')', '$']) := by
    simp [enclose]
  have opened : State.start.readAll? ('^' :: '(' :: '?' :: ':' :: (cs ++ [')', '$'])) =
      (State.mk .initial ⟨[], [], .initial⟩ [⟨[], [startItem], .initial⟩] []).readAll?
        (cs ++ [')', '$']) :=
    (readAll?_cons rfl rfl rfl (by simp)).trans (readAll?_cons rfl rfl rfl (by simp))
  have closed (items : List Item) :
      (State.mk .initial ⟨[], items, .initial⟩ [⟨[], [startItem], .initial⟩] []).readAll?
        [')', '$'] =
      some ⟨.initial, ⟨[], [endItem, (Item.concat items.reverse).group, startItem], .initial⟩,
        [], []⟩ :=
    (readAll?_cons rfl rfl rfl (by simp)).trans
      ((readAll?_cons rfl rfl rfl (by simp)).trans (readAll?_nil rfl))
  rw [enclosed, opened, readAll?_plain_append h, closed]
  simp [plainState, plainItem]

/-! ## Matching -/

namespace Expr

variable {p t q : List Char} {e : Expr}

/-- A pattern and then some characters. -/
theorem match_foldl_iff :
    Match (cs.foldl (fun e c => .seq e (.set (· == c))) e) p t q ↔
      ∃ u, t = u ++ cs ∧ Match e p u (cs ++ q) := by
  induction cs generalizing e with
  | nil => simp
  | cons c cs ih =>
    rw [List.foldl_cons, ih]
    constructor
    · rintro ⟨u, rfl, h⟩
      obtain ⟨u, v, rfl, he, hc⟩ := match_seq_iff.1 h
      obtain ⟨d, rfl, hd⟩ := match_set_iff.1 hc
      obtain rfl : d = c := by simpa using hd
      exact ⟨u, by simp, by simpa using he⟩
    · rintro ⟨u, rfl, he⟩
      refine ⟨u ++ [c], by simp, match_seq_iff.2 ⟨u, [c], rfl, by simpa using he, ?_⟩⟩
      exact match_set_iff.2 ⟨c, rfl, by simp⟩

theorem isProper_foldl (he : e.IsProper) :
    (cs.foldl (fun e c => .seq e (.set (· == c))) e).IsProper := by
  induction cs generalizing e with
  | nil => exact he
  | cons c cs ih => exact ih ⟨he, trivial⟩

theorem plainItem_expr (c : Char) (cs : List Char) : (plainItem (c :: cs)).expr =
    cs.foldl (fun e c => .seq e (.set (· == c))) (.set (· == c)) := by
  cases cs with
  | nil => rfl
  | cons d ds => exact List.foldl_map

theorem isProper_plainItem (cs : List Char) : (plainItem cs).expr.IsProper := by
  cases cs with
  | nil => trivial
  | cons c cs =>
    rw [plainItem_expr]
    exact isProper_foldl trivial

/-- The pattern of some characters matches these alone. -/
theorem match_plain_iff : Match (plainItem cs).expr p t q ↔ t = cs := by
  cases cs with
  | nil => exact match_empty_iff
  | cons c cs =>
    rw [plainItem_expr, match_foldl_iff]
    constructor
    · rintro ⟨u, rfl, h⟩
      obtain ⟨d, rfl, hd⟩ := match_set_iff.1 h
      obtain rfl : d = c := by simpa using hd
      rfl
    · rintro rfl
      exact ⟨[c], rfl, match_set_iff.2 ⟨c, rfl, by simp⟩⟩

/-- The ends of the text stand around all of a whole pattern. -/
theorem match_whole_iff {i : Item} :
    Match (wholeItem i).expr p t q ↔ p = [] ∧ q = [] ∧ Match i.expr [] t [] := by
  have expr : (wholeItem i).expr = .seq (.seq (.look .textStart) i.expr) (.look .textEnd) := rfl
  rw [expr]
  constructor
  · intro h
    obtain ⟨u, v, rfl, h, hend⟩ := match_seq_iff.1 h
    obtain ⟨w, u, rfl, hstart, hi⟩ := match_seq_iff.1 h
    obtain ⟨rfl, hp⟩ := match_look_iff.1 hstart
    obtain ⟨rfl, hq⟩ := match_look_iff.1 hend
    obtain rfl : p = [] := List.head?_eq_none_iff.1 (Option.isNone_iff_eq_none.1 hp)
    obtain rfl : q = [] := List.head?_eq_none_iff.1 (Option.isNone_iff_eq_none.1 hq)
    exact ⟨rfl, rfl, by simpa using hi⟩
  · rintro ⟨rfl, rfl, h⟩
    have start : Match (.seq (.look .textStart) i.expr) [] t [] :=
      match_seq_iff.2 ⟨[], t, rfl, match_look_iff.2 ⟨rfl, rfl⟩, h⟩
    exact match_seq_iff.2 ⟨t, [], by simp, start, match_look_iff.2 ⟨rfl, rfl⟩⟩

theorem isFoundIn_whole_iff {i : Item} (hi : i.expr.IsProper) {text : List Char} :
    (wholeItem i).expr.isFoundIn text = true ↔ Match i.expr [] text [] := by
  have proper : (wholeItem i).expr.IsProper := ⟨⟨trivial, hi⟩, trivial⟩
  rw [isFoundIn_iff proper]
  constructor
  · rintro ⟨_, _, p, t, q, rfl, -, -, h⟩
    obtain ⟨rfl, rfl, hi⟩ := match_whole_iff.1 h
    simpa using hi
  · intro h
    exact ⟨0, text.length, [], text, [], by simp, rfl, by simp, match_whole_iff.2 ⟨rfl, rfl, h⟩⟩

end Expr

/-! ## Limits -/

theorem deepest_charItems (cs : List Char) : Item.deepest (cs.map charItem) = 0 := by
  induction cs with
  | nil => rfl
  | cons c cs ih => exact ih

theorem nesting_plainItem_le (cs : List Char) : (plainItem cs).nesting ≤ 1 := by
  match cs with
  | [] => exact Nat.zero_le _
  | [_] => exact Nat.zero_le _
  | c :: d :: cs => exact Nat.le_of_eq (congrArg (· + 1) (deepest_charItems (c :: d :: cs)))

theorem nesting_plainState_le (cs : List Char) : (plainState cs).current.close.nesting ≤ 3 := by
  have nesting : (plainState cs).current.close.nesting =
      max (max (max 0 0) ((plainItem cs).nesting + 1)) 0 + 1 := rfl
  have := nesting_plainItem_le cs
  omega

/-- A text that has been read to the end of all groups is a pattern, unless it is too large. -/
theorem ofChars?_of_readAll? {limit : SizeLimit} (h : State.start.readAll? cs = some s)
    (closed : s.outer = []) (nests : s.current.close.nesting ≤ maxNesting)
    (fits : limit.fits cs = true) : Expr.ofChars? limit cs = some s.current.close.expr := by
  rw [Expr.ofChars?, h]
  simp only [Option.bind_eq_bind, Option.bind_some, closed, nests, fits, List.isEmpty_nil]
  rfl

end Pattern

open Pattern

/-- A name in which no character is an operator of patterns. -/
def IsPlain (name : String) : Prop := ∀ c ∈ name.toList, c ∉ operators

instance (name : String) : Decidable (IsPlain name) :=
  decidable_of_iff ((name.toList.all fun c => !operators.contains c) = true) (by simp [IsPlain])

/-- A name without operators is a pattern for itself alone. -/
theorem statePattern?_plain {limit : SizeLimit} {name : String} (plain : IsPlain name)
    (fits : limit.fits (wholePattern name) = true) :
    ∃ isMatch, statePatternWithin? limit name = some isMatch ∧
      ∀ state, isMatch state = true ↔ state = name := by
  have read : Expr.ofChars? limit (wholePattern name) =
      some (wholeItem (plainItem name.toList)).expr := by
    have nests : (plainState name.toList).current.close.nesting ≤ maxNesting :=
      Nat.le_trans (nesting_plainState_le _) (by decide)
    exact ofChars?_of_readAll? (readAll?_plain plain) rfl nests fits
  refine ⟨fun state => (wholeItem (plainItem name.toList)).expr.isFoundIn state.toList, ?_, ?_⟩
  · rw [statePatternWithin?, read]
    rfl
  · intro state
    rw [Expr.isFoundIn_whole_iff (Expr.isProper_plainItem _), Expr.match_plain_iff,
      String.toList_inj]

end ComponentSpec
