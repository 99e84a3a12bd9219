import ComponentSpec.Proofs.Agreement

/-!
# ComponentSpec.Proofs.Classes

A class in square brackets is the same where the pattern stands alone and before `closing`.

* `agree_openClass?`, `agree_readRange?`, `agree_classPart?`: the parts of a class agree, but for
  those that end with the text (`AtEnd`). Alone they fail, as the class goes on after them.
* `agree_readClass?`: classes agree. They end with a bracket, which is not in `closing`.
-/

namespace ComponentSpec.Pattern

variable {α β : Type} {v : Bool} {c : Char} {cs rest r s : List Char}

/-! ## Characters that must follow -/

/-- Nothing of the text is left. Alone, what must be followed by something then fails. -/
def AtEnd (_ : α) (r : List Char) : Prop := r = []

theorem atEnd_of_done {a b : α} (h : some (a, closing) = some (b, r ++ closing)) : AtEnd b r :=
  List.self_eq_append_left.1 (Prod.mk.inj (Option.some.inj h)).2

theorem Agree.atEnd (a : α) : Agree AtEnd .none (some (a, closing)) :=
  Agree.fail fun _ _ => atEnd_of_done

theorem skipTo?_eq_some_iff : skipTo? v cs = some r ↔ skip v cs = r ∧ r ≠ [] := by
  unfold skipTo?
  cases h : skip v cs with
  | nil => simp
  | cons c rest =>
    constructor
    · rintro ⟨⟩
      exact ⟨rfl, by simp⟩
    · rintro ⟨rfl, -⟩
      rfl

theorem skip_openBrace (cs : List Char) : skip v ('\x7b' :: cs) = '\x7b' :: cs := by
  cases v <;> rfl

theorem skipTo?_suffix (h : skipTo? v cs = some r) : r <:+ cs :=
  (skipTo?_eq_some_iff.1 h).1 ▸ skip_suffix cs

theorem suffix_of_skipTo {g : List Char → Option (α × List Char)} {a : α}
    (h : skipTo? v cs >>= g = some (a, r)) (hg : ∀ t, g t = some (a, r) → r <:+ t) : r <:+ cs := by
  obtain ⟨t, ht, h⟩ := Option.bind_eq_some_iff.1 h
  exact (hg t h).trans (skipTo?_suffix ht)

/-- What is read after skipping to a character. Before `closing` there always is one. -/
theorem Agree.skippedTo {E : α → List Char → Prop} {g g' : List Char → Option (α × List Char)}
    (hg : ∀ c rest, skip v cs = c :: rest →
      Agree E (g (c :: rest)) (g' (c :: (rest ++ closing))))
    (hend : Agree E .none (g' closing)) :
    Agree E (skipTo? v cs >>= g) (skipTo? v (cs ++ closing) >>= g') := by
  unfold skipTo?
  rcases skip_append (v := v) cs with h | ⟨-, h, h'⟩
  · rw [h]
    cases hs : skip v cs with
    | nil => exact hend
    | cons c rest => exact hg c rest hs
  · rw [h, h']
    exact Agree.none

/-! ## The start of a class -/

theorem readHyphens?_suffix {n : Nat} {o p : OpenClass} (h : readHyphens? v n o cs = some (p, r)) :
    r <:+ cs := by
  induction n generalizing o cs with
  | zero => exact suffix_of_done h
  | succ n ih =>
    unfold readHyphens? at h
    split at h
    · rename_i fuel o cs same
      cases same
      exact (suffix_of_skipTo h fun _ => ih).trans (List.suffix_cons _ _)
    · exact suffix_of_done h

theorem readHyphens?_of_ne {n : Nat} (o : OpenClass) (hc : c ≠ '-') :
    readHyphens? v n o (c :: rest) = some (o, c :: rest) := by
  cases n <;> simp [readHyphens?, hc]

theorem agree_readHyphens? {n m : Nat} (o : OpenClass) (cs : List Char) (hn : cs.length ≤ n)
    (hm : cs.length ≤ m) :
    Agree AtEnd (readHyphens? v n o cs) (readHyphens? v m o (cs ++ closing)) := by
  induction n generalizing m o cs with
  | zero =>
    obtain rfl := List.length_eq_zero_iff.1 (Nat.le_zero.1 hn)
    rw [List.nil_append, closing, readHyphens?_of_ne o (by decide)]
    exact Agree.done o []
  | succ n ih =>
    cases cs with
    | nil =>
      rw [List.nil_append, closing, readHyphens?_of_ne o (by decide)]
      exact Agree.done o []
    | cons c cs =>
      by_cases hc : c = '-'
      · subst hc
        obtain ⟨m, rfl⟩ : ∃ k, m = k + 1 := Nat.exists_eq_add_of_le' (Nat.le_trans (by simp) hm)
        simp only [List.cons_append, readHyphens?]
        refine Agree.skippedTo (fun c rest hs => ?_) ?_
        · have shorter := length_lt_of_skip hs
          simp only [List.length_cons] at hn hm
          exact ih _ (c :: rest) (by simp; omega) (by simp; omega)
        · rw [closing, readHyphens?_of_ne _ (by decide)]
          exact Agree.atEnd _
      · rw [List.cons_append, readHyphens?_of_ne o hc, readHyphens?_of_ne o hc]
        exact Agree.done o (c :: cs)

/-- The `]` at the start of a class, which stands for itself. -/
def openBracket? (v : Bool) (o : OpenClass) (cs : List Char) : Option (OpenClass × List Char) :=
  if o.items.isEmpty ∧ cs.head? = some ']' then do
    let rest ← skipTo? v (cs.drop 1)
    some (o.push (.literal ']'), rest)
  else some (o, cs)

/-- The start of a class after `^`. -/
def openItems? (v : Bool) (negated : Bool) (cs : List Char) : Option (OpenClass × List Char) := do
  let (o, rest) ← readHyphens? v cs.length ⟨negated, none, []⟩ cs
  openBracket? v o rest

theorem openClass?_eq (cs : List Char) : openClass? v cs =
    skipTo? v cs >>= fun t =>
      if t.head? = some '^' then skipTo? v (t.drop 1) >>= openItems? v true
      else openItems? v false t := by
  unfold openClass? openItems? openBracket?
  cases skipTo? v cs with
  | none => rfl
  | some cs =>
    simp only [Option.bind_eq_bind, Option.bind_some]
    split <;> simp [*]

theorem openBracket?_suffix {o p : OpenClass} (h : openBracket? v o cs = some (p, r)) :
    r <:+ cs := by
  unfold openBracket? at h
  split at h
  · exact (suffix_of_skipTo h fun _ => suffix_of_done).trans (List.drop_suffix 1 cs)
  · exact suffix_of_done h

theorem agree_openBracket? (o : OpenClass) (cs : List Char) :
    Agree AtEnd (openBracket? v o cs) (openBracket? v o (cs ++ closing)) := by
  unfold openBracket?
  cases cs with
  | nil =>
    simp only [List.nil_append, closing, List.head?_nil, List.head?_cons, Option.some.injEq,
      reduceCtorEq, Char.reduceEq, and_false, if_false]
    exact Agree.done o []
  | cons c rest =>
    simp only [List.cons_append, List.head?_cons, List.drop_succ_cons, List.drop_zero]
    split
    · exact Agree.skippedTo (fun c rest _ => Agree.done _ (c :: rest)) (Agree.atEnd _)
    · exact Agree.done o (c :: rest)

theorem openItems?_suffix {negated : Bool} {o : OpenClass}
    (h : openItems? v negated cs = some (o, r)) : r <:+ cs :=
  suffix_of_bind h (fun _ _ => readHyphens?_suffix) fun _ _ => openBracket?_suffix

theorem openItems?_closing (negated : Bool) :
    openItems? v negated closing = some (⟨negated, none, []⟩, closing) := rfl

theorem agree_openItems? (negated : Bool) (cs : List Char) :
    Agree AtEnd (openItems? v negated cs) (openItems? v negated (cs ++ closing)) := by
  refine (agree_readHyphens? _ cs (Nat.le_refl _) (by simp)).bind (agree_openBracket? · ·)
    (fun _ _ _ _ => openBracket?_suffix) fun o r p s hr h => ?_
  obtain rfl : r = [] := hr
  have same : openBracket? v o closing = some (o, closing) := by simp [openBracket?, closing]
  exact atEnd_of_done (same.symm.trans h)

theorem openClass?_suffix {o : OpenClass} (h : openClass? v cs = some (o, r)) : r <:+ cs := by
  rw [openClass?_eq] at h
  refine suffix_of_skipTo h fun t h => ?_
  split at h
  · exact (suffix_of_skipTo h fun _ => openItems?_suffix).trans (List.drop_suffix 1 t)
  · exact openItems?_suffix h

theorem agree_openClass? (cs : List Char) :
    Agree AtEnd (openClass? v cs) (openClass? v (cs ++ closing)) := by
  have ends (negated : Bool) : Agree AtEnd none (openItems? v negated closing) :=
    openItems?_closing (v := v) negated ▸ Agree.atEnd _
  rw [openClass?_eq, openClass?_eq]
  refine Agree.skippedTo (fun c rest _ => ?_) (ends false)
  simp only [List.head?_cons, List.drop_succ_cons, List.drop_zero]
  split
  · exact Agree.skippedTo (fun c rest _ => agree_openItems? true (c :: rest)) (ends true)
  · exact agree_openItems? false (c :: rest)

/-! ## The items of a class -/

theorem dropWhile_append_closing {f : Char → Bool} (hf : f ')' = false) (cs : List Char) :
    (cs ++ closing).dropWhile f = cs.dropWhile f ++ closing := by
  induction cs with
  | nil => simp [closing, hf]
  | cons c cs ih =>
    simp only [List.cons_append, List.dropWhile_cons]
    split
    · exact ih
    · rfl

theorem takeWhile_append_closing {f : Char → Bool} (h : cs.dropWhile f ≠ []) :
    (cs ++ closing).takeWhile f = cs.takeWhile f := by
  induction cs with
  | nil => exact absurd rfl h
  | cons c cs ih =>
    rw [List.dropWhile_cons] at h
    simp only [List.cons_append, List.takeWhile_cons]
    split
    · rw [ih (by simpa [*] using h)]
    · rfl

/-- What is left of a text that is `closing` up to a character which `closing` does not have. -/
theorem dropWhile_append_closing_of_not_mem (hc : c ∉ closing) (cs : List Char) :
    (cs ++ closing).dropWhile (· ≠ c) =
      if cs.dropWhile (· ≠ c) = [] then [] else cs.dropWhile (· ≠ c) ++ closing := by
  have ends : closing.dropWhile (· ≠ c) = [] :=
    List.dropWhile_eq_nil_iff.2 fun d hd => by
      simp only [decide_eq_true_eq]
      rintro rfl
      exact hc hd
  induction cs with
  | nil => simpa using ends
  | cons d cs ih =>
    simp only [List.cons_append, List.dropWhile_cons]
    split
    · exact ih
    · simp

/-- A name of a class and what ends it. -/
def readPosixName? (negated : Bool) (cs : List Char) : Option (ClassExpr × List Char) :=
  match cs.dropWhile (· ≠ ':') with
  | ':' :: ']' :: rest =>
    (posixClass? (String.ofList (cs.takeWhile (· ≠ ':')))).map fun s => (.posix s negated, rest)
  | _ => none

theorem readPosix?_eq (cs : List Char) : readPosix? cs =
    if cs.head? = some ':' then
      if cs.tail.head? = some '^' then readPosixName? true (cs.tail.drop 1)
      else readPosixName? false cs.tail
    else none := by
  cases cs with
  | nil => rfl
  | cons c rest =>
    by_cases hc : c = ':'
    · subst hc
      by_cases hr : rest.head? = some '^'
      · simp only [readPosix?, hr, List.head?_cons, List.tail_cons, if_true, decide_true]
        rfl
      · simp only [readPosix?, hr, List.head?_cons, List.tail_cons, if_true, if_false, decide_false]
        rfl
    · simp [readPosix?, hc]

theorem readPosixName?_suffix {negated : Bool} {e : ClassExpr}
    (h : readPosixName? negated cs = some (e, r)) : r <:+ cs := by
  unfold readPosixName? at h
  split at h
  · rename_i rest hd
    obtain ⟨s, -, same⟩ := Option.map_eq_some_iff.1 h
    cases same
    have left : ':' :: ']' :: r <:+ cs := hd ▸ List.dropWhile_suffix _
    exact ((List.suffix_cons ']' r).trans (List.suffix_cons ':' _)).trans left
  · cases h

theorem readPosixName?_append (negated : Bool) (cs : List Char) :
    readPosixName? negated (cs ++ closing) =
      (readPosixName? negated cs).map fun (e, r) => (e, r ++ closing) := by
  unfold readPosixName?
  rw [dropWhile_append_closing_of_not_mem (by decide)]
  by_cases hd : cs.dropWhile (· ≠ ':') = []
  · rw [if_pos hd, hd]
    rfl
  · rw [if_neg hd, takeWhile_append_closing hd]
    rcases cs.dropWhile (· ≠ ':') with - | ⟨c, - | ⟨d, rest⟩⟩
    · rfl
    · simp [closing]
    · by_cases hc : c = ':'
      · subst hc
        by_cases hd : d = ']'
        · subst hd
          simp [Option.map_map, Function.comp_def]
        · simp [hd]
      · simp [hc]

theorem readPosix?_suffix {e : ClassExpr} (h : readPosix? cs = some (e, r)) : r <:+ cs := by
  rw [readPosix?_eq] at h
  split at h
  · refine List.IsSuffix.trans ?_ (List.tail_suffix cs)
    split at h
    · exact (readPosixName?_suffix h).trans (List.drop_suffix 1 _)
    · exact readPosixName?_suffix h
  · cases h

theorem readPosix?_append (cs : List Char) :
    readPosix? (cs ++ closing) = (readPosix? cs).map fun (e, r) => (e, r ++ closing) := by
  rw [readPosix?_eq, readPosix?_eq]
  rcases cs with - | ⟨c, - | ⟨d, rest⟩⟩
  · rfl
  · by_cases hc : c = ':'
    · subst hc
      rfl
    · simp [hc]
  · simp only [List.cons_append, List.head?_cons, List.tail_cons, List.drop_succ_cons,
      List.drop_zero]
    split
    · split
      · exact readPosixName?_append true rest
      · exact readPosixName?_append false (d :: rest)
    · rfl

theorem readClassItem?_suffix {l : Lexeme} (h : readClassItem? v (c :: cs) = some (l, r)) :
    r <:+ cs := by
  unfold readClassItem? at h
  split at h
  · cases h
  · rename_i same
    cases same
    exact readEscape?_suffix h
  · rename_i same
    cases same
    exact suffix_of_done h

theorem readClassItem?_of_ne (hc : c ≠ '\\') :
    readClassItem? v (c :: cs) = some (.literal c false, cs) := by
  simp [readClassItem?]

theorem agree_readClassItem? (cs : List Char) :
    Agree (Dangling v) (readClassItem? v cs) (readClassItem? v (cs ++ closing)) := by
  cases cs with
  | nil => exact Agree.past (r := ['$']) (by decide) fun _ _ => readClassItem?_suffix
  | cons c cs =>
    by_cases hc : c = '\\'
    · subst hc
      exact agree_readEscape? cs
    · rw [List.cons_append, readClassItem?_of_ne hc, readClassItem?_of_ne hc]
      exact Agree.done _ cs

theorem head?_append_closing (hc : c ∉ closing) (cs : List Char) :
    (cs ++ closing).head? = some c ↔ cs.head? = some c := by
  cases cs with
  | nil =>
    refine iff_of_false (fun h => hc ?_) nofun
    exact List.mem_of_mem_head? h
  | cons d cs => exact Iff.rfl

/-- A character of classes that follows a hyphen is there before `closing` as well. -/
theorem afterHyphen_append (hc : c ∉ closing) (visible : isBlank c = false) (plain : c ≠ '#')
    (cs : List Char) : afterHyphen v (cs ++ closing) = some c ↔ afterHyphen v cs = some c := by
  cases v with
  | false => exact head?_append_closing hc cs
  | true =>
    -- the characters that are passed over are not the one in question
    have first (h : cs.head? = some c) : cs.dropWhile isBlank = cs := by
      obtain ⟨ds, rfl⟩ := List.head?_eq_some_iff.1 h
      rw [List.dropWhile_cons, visible]
      rfl
    have stop : isBlank ')' = false := by decide
    simp only [afterHyphen, Bool.not_true, Bool.false_eq_true, if_false,
      dropWhile_append_closing stop]
    cases ht : cs.dropWhile isBlank with
    | nil =>
      refine iff_of_false (fun h => hc (List.mem_of_mem_head? h)) fun h => ?_
      obtain rfl := (first h).symm.trans ht
      cases h
    | cons d ds =>
      by_cases hd : d = '#'
      · subst hd
        simp only [List.cons_append, List.head?_cons, if_true, List.drop_succ_cons, List.drop_zero,
          dropWhile_append_closing stop]
        cases ds.dropWhile isBlank with
        | nil =>
          refine iff_of_false (fun h => hc (List.mem_of_mem_head? h)) fun h => plain ?_
          have same := (first h).symm.trans ht
          rw [same] at h
          exact (Option.some.inj h).symm
        | cons e es => exact Iff.rfl
      · simp [hd]

def range? : Lexeme → Lexeme → Option ClassExpr
  | .literal low _, .literal high _ => if low ≤ high then some (.range low high) else none
  | _, _ => none

/-- What follows the first item of what may be a range. -/
def readRangeEnd? (v : Bool) (first : Lexeme) (cs : List Char) : Option (ClassExpr × List Char) :=
  if cs.head? = some '-' then
    if afterHyphen v cs.tail = some ']' ∨ afterHyphen v cs.tail = some '-' then do
      let e ← classItem? first
      some (e, cs)
    else do
      let after ← skipTo? v cs.tail
      let (last, rest) ← readClassItem? v after
      let e ← range? first last
      some (e, rest)
  else do
    let e ← classItem? first
    some (e, cs)

theorem readRange?_eq (cs : List Char) : readRange? v cs =
    readClassItem? v cs >>= fun (first, rest) => skipTo? v rest >>= readRangeEnd? v first := by
  unfold readRange?
  refine bind_congr fun (first, rest) => bind_congr fun t => ?_
  unfold readRangeEnd?
  rcases t with - | ⟨c, after⟩
  · rfl
  · by_cases hc : c = '-'
    · subst hc
      simp only [List.head?_cons, List.tail_cons, if_true]
      by_cases literal : afterHyphen v after = some ']' ∨ afterHyphen v after = some '-'
      · simp only [literal, if_true]
        rfl
      · simp only [literal, if_false]
        refine bind_congr fun u => bind_congr fun (last, r) => ?_
        cases first <;> cases last <;> first | rfl | (simp only [range?]; split <;> rfl)
    · simp [hc]

theorem readRangeEnd?_suffix {first : Lexeme} {e : ClassExpr}
    (h : readRangeEnd? v first cs = some (e, r)) : r <:+ cs := by
  unfold readRangeEnd? at h
  split at h
  · split at h
    · exact suffix_of_given h fun _ => suffix_of_done
    · refine (suffix_of_skipTo h fun t h => ?_).trans (List.tail_suffix cs)
      refine suffix_of_bind h (fun _ _ h => ?_) fun _ _ h =>
        suffix_of_given h fun _ => suffix_of_done
      cases t with
      | nil => cases h
      | cons c t => exact (readClassItem?_suffix h).trans (List.suffix_cons c t)
  · exact suffix_of_given h fun _ => suffix_of_done

theorem agree_readRangeEnd? (first : Lexeme) (c : Char) (cs : List Char) :
    Agree Never (readRangeEnd? v first (c :: cs))
      (readRangeEnd? v first (c :: (cs ++ closing))) := by
  unfold readRangeEnd?
  simp only [List.head?_cons, List.tail_cons,
    afterHyphen_append (c := ']') (by decide) (by decide) (by decide),
    afterHyphen_append (c := '-') (by decide) (by decide) (by decide)]
  by_cases hyphen : some c = some '-'
  · simp only [hyphen, if_true]
    by_cases literal : afterHyphen v cs = some ']' ∨ afterHyphen v cs = some '-'
    · simp only [literal, if_true]
      exact Agree.given _ fun _ => Agree.done _ (c :: cs)
    · simp only [literal, if_false]
      refine Agree.skippedTo (fun d ds _ => ?_) ?_
      · refine (agree_readClassItem? (d :: ds)).bind
          (fun last r => Agree.given _ fun _ => Agree.done _ r)
          (fun _ _ _ _ h => suffix_of_given h fun _ => suffix_of_done) fun last r _ _ hlast h => ?_
        -- a condition does not end a range
        obtain ⟨rfl, -⟩ := hlast
        cases first <;> cases h
      · exact Agree.past (r := ['$']) (by decide) fun _ _ h =>
          suffix_of_bind h (fun _ _ => readClassItem?_suffix) fun _ _ h =>
            suffix_of_given h fun _ => suffix_of_done
  · simp only [hyphen, if_false]
    exact Agree.given _ fun _ => Agree.done _ (c :: cs)

theorem readRange?_suffix {e : ClassExpr} (h : readRange? v (c :: cs) = some (e, r)) :
    r <:+ cs := by
  rw [readRange?_eq] at h
  exact suffix_of_bind h (fun _ _ => readClassItem?_suffix) fun _ _ h =>
    suffix_of_skipTo h fun _ => readRangeEnd?_suffix

theorem agree_readRange? (cs : List Char) :
    Agree AtEnd (readRange? v cs) (readRange? v (cs ++ closing)) := by
  rw [readRange?_eq, readRange?_eq]
  refine (agree_readClassItem? cs).bind (fun first r => ?_)
    (fun first r _ _ h => suffix_of_skipTo h fun _ => readRangeEnd?_suffix)
    fun first r _ _ hfirst h => ?_
  · refine Agree.skippedTo (fun c rest _ => (agree_readRangeEnd? first c rest).weaken) ?_
    have ends : readRangeEnd? v first closing = classItem? first >>= fun e => some (e, closing) :=
      rfl
    rw [ends]
    cases classItem? first with
    | none => exact Agree.none
    | some e => exact Agree.atEnd e
  · -- a condition is no item
    obtain ⟨rfl, ds, rfl, -⟩ := hfirst
    obtain ⟨t, ht, h⟩ := Option.bind_eq_some_iff.1 h
    obtain ⟨rfl, -⟩ := skipTo?_eq_some_iff.1 ht
    rw [List.cons_append, skip_openBrace] at h
    cases h

/-! ## Whole classes -/

/-- The operation that a character stands for where it is written twice. -/
def operation? (c : Char) (cs : List Char) : Option SetOperation :=
  if cs.head? ≠ some c then none
  else if c = '&' then some .intersection
  else if c = '-' then some .difference
  else if c = '~' then some .symmetricDifference
  else none

theorem classStep?_cons {outer : List OpenClass} {o : OpenClass} (h : skip v cs = c :: rest) :
    classStep? v outer o cs =
      if c = '[' then
        match readPosix? rest with
        | some (e, r) => some (.within outer (o.push e) r)
        | none => (openClass? v rest).map fun (p, r) => .within (o :: outer) p r
      else if c = ']' then
        match outer with
        | [] => some (.closed o.close rest)
        | p :: outer => some (.within outer (p.push o.close) rest)
      else
        match operation? c rest with
        | some op => some (.within outer (o.operate op) rest.tail)
        | none => (readRange? v (c :: rest)).map fun (e, r) => .within outer (o.push e) r := by
  unfold classStep?
  rw [h]
  split
  case h_1 same => cases same
  case h_7 opens closes both_and both_hyphen both_tilde =>
    have single : operation? c rest = none := by
      rcases rest with - | ⟨d, rest⟩
      · rfl
      · have h₃ := both_and rest
        have h₄ := both_hyphen rest
        have h₅ := both_tilde rest
        grind [operation?]
    have h₁ : c ≠ '[' := fun h => opens rest (h ▸ rfl)
    have h₂ : c ≠ ']' := fun h => closes rest (h ▸ rfl)
    rw [if_neg h₁, if_neg h₂, single]
  all_goals
    rename_i same
    cases same
    rfl

/-- What a part of a class leads to, apart from the rest of the text. -/
def ClassStep.split : ClassStep → (ClassExpr ⊕ List OpenClass × OpenClass) × List Char
  | .closed e rest => (.inl e, rest)
  | .within outer o rest => (.inr (outer, o), rest)

def classPart? (v : Bool) (outer : List OpenClass) (o : OpenClass) (cs : List Char) :
    Option ((ClassExpr ⊕ List OpenClass × OpenClass) × List Char) :=
  (classStep? v outer o cs).map ClassStep.split

theorem readClass?_eq (outer : List OpenClass) (o : OpenClass) (cs : List Char) :
    readClass? v outer o cs = classPart? v outer o cs >>= fun
      | (.inl e, rest) => some (e, rest)
      | (.inr (outer, o), rest) =>
        if rest.length < cs.length then readClass? v outer o rest else none := by
  rw [readClass?, classPart?]
  rcases classStep? v outer o cs with - | (- | -) <;> rfl

theorem classPart?_nil {outer : List OpenClass} {o : OpenClass} (h : skip v cs = []) :
    classPart? v outer o cs = none := by
  rw [classPart?, classStep?, h]
  rfl

theorem classPart?_cons {outer : List OpenClass} {o : OpenClass} (h : skip v cs = c :: rest) :
    classPart? v outer o cs =
      if c = '[' then
        match readPosix? rest with
        | some (e, r) => some (.inr (outer, o.push e), r)
        | none => openClass? v rest >>= fun (p, r) => some (.inr (o :: outer, p), r)
      else if c = ']' then
        match outer with
        | [] => some (.inl o.close, rest)
        | p :: outer => some (.inr (outer, p.push o.close), rest)
      else
        match operation? c rest with
        | some op => some (.inr (outer, o.operate op), rest.tail)
        | none => readRange? v (c :: rest) >>= fun (e, r) => some (.inr (outer, o.push e), r) := by
  rw [classPart?, classStep?_cons h]
  split
  · split
    · rfl
    · cases openClass? v rest <;> rfl
  · split
    · split <;> rfl
    · split
      · rfl
      · cases readRange? v (c :: rest) <;> rfl

theorem classPart?_suffix {outer : List OpenClass} {o : OpenClass}
    {part : ClassExpr ⊕ List OpenClass × OpenClass} (h : classPart? v outer o cs = some (part, r)) :
    r <:+ (skip v cs).tail := by
  cases hs : skip v cs with
  | nil =>
    rw [classPart?_nil hs] at h
    cases h
  | cons c rest =>
    rw [classPart?_cons hs] at h
    split at h
    · split at h
      · rename_i hp
        cases h
        exact readPosix?_suffix hp
      · exact suffix_of_bind h (fun _ _ => openClass?_suffix) fun _ _ => suffix_of_done
    · split at h
      · split at h <;> exact suffix_of_done h
      · split at h
        · cases h
          exact List.tail_suffix rest
        · exact suffix_of_bind h (fun _ _ => readRange?_suffix) fun _ _ => suffix_of_done

/-- Before its end a class goes on. -/
def GoesOn (part : ClassExpr ⊕ List OpenClass × OpenClass) (r : List Char) : Prop :=
  part.isRight ∧ r = []

theorem Agree.goesOn {x y : Option (α × List Char)} (h : Agree AtEnd x y)
    (f : α → List OpenClass × OpenClass) :
    Agree GoesOn (x >>= fun (a, r) => some (.inr (f a), r))
      (y >>= fun (a, r) => some (.inr (f a), r)) := by
  refine h.bind (fun _ r => Agree.done _ r) (fun _ _ _ _ => suffix_of_done) ?_
  intro a r part s hr h
  obtain ⟨rfl, same⟩ := Prod.mk.inj (Option.some.inj h)
  exact ⟨rfl, (List.append_cancel_right same).symm.trans hr⟩

theorem agree_operation? (outer : List OpenClass) (o : OpenClass) (c : Char) (cs : List Char) :
    Agree GoesOn
      (match operation? c cs with
        | some op => some (.inr (outer, o.operate op), cs.tail)
        | none => readRange? v (c :: cs) >>= fun (e, r) => some (.inr (outer, o.push e), r))
      (match operation? c (cs ++ closing) with
        | some op => some (.inr (outer, o.operate op), (cs ++ closing).tail)
        | none => readRange? v (c :: (cs ++ closing)) >>= fun (e, r) =>
          some (.inr (outer, o.push e), r)) := by
  have single := (agree_readRange? (v := v) (c :: cs)).goesOn fun e => (outer, o.push e)
  cases cs with
  | nil =>
    have none : operation? c closing = none := by
      unfold operation?
      split
      · rfl
      · rename_i same
        obtain rfl : ')' = c := by simpa [closing] using same
        rfl
    simp only [List.nil_append, none]
    exact single
  | cons d ds =>
    have same : operation? c (d :: ds ++ closing) = operation? c (d :: ds) := rfl
    rw [same]
    cases operation? c (d :: ds) with
    | none => exact single
    | some op => exact Agree.done _ ds

theorem agree_classPart? (outer : List OpenClass) (o : OpenClass) (cs : List Char) :
    Agree GoesOn (classPart? v outer o cs) (classPart? v outer o (cs ++ closing)) := by
  rcases skip_append (v := v) cs with h | ⟨-, h, h'⟩
  · cases hs : skip v cs with
    | nil =>
      rw [hs, List.nil_append] at h
      rw [classPart?_nil hs]
      refine Agree.past (r := ['$']) (by decide) fun _ _ hp => ?_
      have left := classPart?_suffix hp
      rwa [h] at left
    | cons c rest =>
      rw [hs, List.cons_append] at h
      rw [classPart?_cons hs, classPart?_cons h]
      by_cases opens : c = '['
      · rw [if_pos opens, if_pos opens, readPosix?_append]
        rcases readPosix? rest with - | ⟨e, r⟩
        · exact (agree_openClass? rest).goesOn _
        · exact Agree.done _ r
      · rw [if_neg opens, if_neg opens]
        by_cases closes : c = ']'
        · rw [if_pos closes, if_pos closes]
          cases outer <;> exact Agree.done _ rest
        · rw [if_neg closes, if_neg closes]
          exact agree_operation? outer o c rest
  · rw [classPart?_nil h, classPart?_nil h']
    exact Agree.none

theorem readClass?_suffix {outer : List OpenClass} {o : OpenClass} {cs r : List Char}
    {e : ClassExpr} (h : readClass? v outer o cs = some (e, r)) : r <:+ (skip v cs).tail := by
  rw [readClass?_eq] at h
  refine suffix_of_bind h (fun _ _ => classPart?_suffix) fun part t h => ?_
  rcases part with e | ⟨outer, o⟩
  · exact suffix_of_done h
  · simp only at h
    split at h
    · exact (readClass?_suffix h).trans ((List.tail_suffix _).trans (skip_suffix t))
    · cases h
termination_by cs.length

/-- Of `closing` at least one character is read. -/
theorem readClass?_closing_suffix {outer : List OpenClass} {o : OpenClass} {e : ClassExpr}
    (h : readClass? v outer o closing = some (e, r)) : r <:+ ['$'] := by
  have whole : skip v closing = closing := by cases v <;> rfl
  have left := readClass?_suffix h
  rwa [whole] at left

theorem agree_readClass? (outer : List OpenClass) (o : OpenClass) (cs : List Char) :
    Agree Never (readClass? v outer o cs) (readClass? v outer o (cs ++ closing)) := by
  rw [readClass?_eq, readClass?_eq]
  refine (agree_classPart? outer o cs).bind (fun part r => ?_) (fun part r _ _ h => ?_)
    fun part r e s hr h => ?_
  · rcases part with e | ⟨outer, o⟩
    · exact Agree.done e r
    · by_cases shorter : r.length < cs.length
      · have both : (r ++ closing).length < (cs ++ closing).length := by simpa using shorter
        simp only [shorter, both, if_true]
        exact agree_readClass? outer o r
      · have both : ¬ (r ++ closing).length < (cs ++ closing).length := by simpa using shorter
        simp only [shorter, both, if_false]
        exact Agree.none
  · rcases part with e | ⟨outer, o⟩
    · exact suffix_of_done h
    · simp only at h
      split at h
      · exact (readClass?_suffix h).trans ((List.tail_suffix _).trans (skip_suffix r))
      · cases h
  · obtain ⟨right, rfl⟩ := hr
    rcases part with e | ⟨outer, o⟩
    · cases right
    · simp only at h
      split at h
      · exact absurd (readClass?_closing_suffix h) (not_append_closing (by decide))
      · cases h
termination_by cs.length

end ComponentSpec.Pattern
