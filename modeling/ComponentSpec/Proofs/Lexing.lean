import ComponentSpec.Proofs.Classes

/-!
# ComponentSpec.Proofs.Lexing

The lexemes of a pattern are the same where it stands alone and before `closing`.

* `agree_readGroup?`, `agree_readRepetition?`: what opens a group and what repeats an item agree.
* `Lexeme.agree_read?`: lexemes agree.
* `Yields`, `Lexeme.read?_cases`: only parentheses open and close groups and change switches, and
  the counts of a repetition are in order.
-/

namespace ComponentSpec.Pattern

variable {α β : Type} {v : Bool} {c : Char} {cs rest r s : List Char}

/-! ## Groups -/

theorem readGroupName?_suffix {name : List Char} (h : readGroupName? cs = some (name, r)) :
    r <:+ cs := by
  simp only [readGroupName?] at h
  split at h
  · rename_i c more hd
    have left : c :: more <:+ cs := hd ▸ List.dropWhile_suffix _
    split at h
    · split at h
      · cases h
        exact (List.suffix_cons c _).trans left
      · cases h
    · cases h
  · cases h

theorem agree_readGroupName? (cs : List Char) :
    Agree Never (readGroupName? cs) (readGroupName? (cs ++ closing)) := by
  simp only [readGroupName?, dropWhile_append_closing_of_not_mem (c := '>') (by decide)]
  cases hd : cs.dropWhile (· ≠ '>') with
  | nil => exact Agree.none
  | cons d more =>
    have some : cs.dropWhile (· ≠ '>') ≠ [] := hd ▸ List.cons_ne_nil d more
    simp only [takeWhile_append_closing some, reduceCtorEq, if_false, List.cons_append]
    cases cs.takeWhile (· ≠ '>') with
    | nil => exact Agree.none
    | cons c ds =>
      simp only
      split
      · exact Agree.done _ more
      · exact Agree.none

/-- Switches and what ends them, apart from the rest of the text. -/
def flags? (negated dangling : Bool) (seen cs : List Char) :
    Option ((List (Flag × Bool) × Char) × List Char) :=
  (readFlags negated dangling seen cs).map fun (changes, e, r) => ((changes, e), r)

theorem flags?_cons (negated dangling : Bool) (seen : List Char) (c : Char) (cs : List Char) :
    flags? negated dangling seen (c :: cs) =
      if c = ':' ∨ c = ')' then (if dangling then none else some (([], c), cs))
      else if c ∈ seen then none
      else if c = '-' then flags? true true (c :: seen) cs
      else Flag.ofChar? c >>= fun flag =>
        (flags? negated false (c :: seen) cs).map fun (a, r) =>
          (((flag, !negated) :: a.1, a.2), r) := by
  simp only [flags?, readFlags]
  split
  · split <;> rfl
  · split
    · rfl
    · split
      · rfl
      · cases Flag.ofChar? c with
        | none => rfl
        | some flag => cases readFlags negated false (c :: seen) cs <;> rfl

theorem flags?_suffix {negated dangling : Bool} {seen : List Char} {a : List (Flag × Bool) × Char}
    (h : flags? negated dangling seen cs = some (a, r)) : r <:+ cs.tail := by
  induction cs generalizing negated dangling seen a with
  | nil => cases h
  | cons c cs ih =>
    rw [List.tail_cons]
    rw [flags?_cons] at h
    split at h
    · split at h
      · cases h
      · exact suffix_of_done h
    · split at h
      · cases h
      · refine List.IsSuffix.trans ?_ (List.tail_suffix cs)
        split at h
        · exact ih h
        · refine suffix_of_given h fun flag h => ?_
          obtain ⟨⟨a, r⟩, ha, same⟩ := Option.map_eq_some_iff.1 h
          cases same
          exact ih ha

theorem agree_flags? (negated dangling : Bool) (seen cs : List Char) :
    Agree Never (flags? negated dangling seen cs)
      (flags? negated dangling seen (cs ++ closing)) := by
  induction cs generalizing negated dangling seen with
  | nil => exact Agree.past (r := ['$']) (by decide) fun _ _ => flags?_suffix
  | cons c cs ih =>
    rw [List.cons_append, flags?_cons, flags?_cons]
    split
    · split
      · exact Agree.none
      · exact Agree.done _ cs
    · split
      · exact Agree.none
      · split
        · exact ih true true _
        · refine Agree.given _ fun flag => ?_
          exact (ih negated false _).map fun a => ((flag, !negated) :: a.1, a.2)

/-- What switches begin: a group, or what follows them. -/
def switched? (a : List (Flag × Bool) × Char) : Option Lexeme :=
  if a.2 = ':' then some (.openGroup none a.1)
  else if a.1.isEmpty then none
  else some (.changeFlags a.1)

def readSwitches? (cs : List Char) : Option (Lexeme × List Char) := do
  let (a, r) ← flags? false false [] cs
  let l ← switched? a
  some (l, r)

def readNamed? (cs : List Char) : Option (Lexeme × List Char) := do
  let (name, r) ← readGroupName? cs
  some (.openGroup (some name) [], r)

/-- What follows the `?` of a group. -/
def readMarked? (cs : List Char) : Option (Lexeme × List Char) :=
  if cs.head? == some '<' then readNamed? cs.tail
  else if cs.head? == some 'P' && cs.tail.head? == some '<' then readNamed? cs.tail.tail
  else readSwitches? cs

theorem readSwitches?_eq (cs : List Char) : readSwitches? cs =
    match readFlags false false [] cs with
    | none => none
    | some (changes, ending, rest) =>
      if ending = ':' then some (.openGroup none changes, rest)
      else if changes.isEmpty then none
      else some (.changeFlags changes, rest) := by
  unfold readSwitches? flags? switched?
  rcases readFlags false false [] cs with - | ⟨changes, ending, rest⟩
  · rfl
  · simp only [Option.map_some, Option.bind_eq_bind, Option.bind_some]
    split
    · rfl
    · split <;> rfl

theorem readNamed?_eq (cs : List Char) : readNamed? cs =
    (readGroupName? cs).map fun (name, r) => (.openGroup (some name) [], r) := by
  unfold readNamed?
  cases readGroupName? cs <;> rfl

theorem readGroup?_eq (cs : List Char) : readGroup? v cs =
    if (skip v cs).head? == some '?' then readMarked? (skip v cs).tail
    else some (.openGroup none [], cs) := by
  unfold readGroup?
  simp only [← readNamed?_eq]
  split
  · rename_i rest h
    rw [h]
    rfl
  · rename_i rest h
    rw [h]
    rfl
  · rename_i rest long short h
    have marked : readMarked? rest = readSwitches? rest := by
      unfold readMarked?
      rw [if_neg, if_neg]
      · rcases rest with - | ⟨c, - | ⟨d, rest⟩⟩
        · simp
        · simp
        · simp only [List.head?_cons, List.tail_cons, Bool.and_eq_true, beq_iff_eq,
            Option.some.injEq]
          rintro ⟨rfl, rfl⟩
          exact long rest rfl
      · cases rest with
        | nil => simp
        | cons c rest =>
          simp only [List.head?_cons, beq_iff_eq, Option.some.injEq]
          rintro rfl
          exact short rest rfl
    rw [h]
    exact ((readSwitches?_eq rest).symm.trans marked.symm)
  · rename_i long short other
    rw [if_neg]
    cases hs : skip v cs with
    | nil => simp
    | cons c rest =>
      simp only [List.head?_cons, beq_iff_eq, Option.some.injEq]
      rintro rfl
      exact other rest hs

theorem readNamed?_suffix {l : Lexeme} (h : readNamed? cs = some (l, r)) : r <:+ cs :=
  suffix_of_bind h (fun _ _ => readGroupName?_suffix) fun _ _ => suffix_of_done

theorem agree_readNamed? (cs : List Char) :
    Agree Never (readNamed? cs) (readNamed? (cs ++ closing)) :=
  (agree_readGroupName? cs).step (fun _ r => Agree.done _ r) fun _ _ _ _ => suffix_of_done

theorem readSwitches?_suffix {l : Lexeme} (h : readSwitches? cs = some (l, r)) : r <:+ cs.tail :=
  suffix_of_bind h (fun _ _ => flags?_suffix) fun _ _ h => suffix_of_given h fun _ => suffix_of_done

theorem agree_readSwitches? (cs : List Char) :
    Agree Never (readSwitches? cs) (readSwitches? (cs ++ closing)) :=
  (agree_flags? _ _ _ _).step (fun _ r => Agree.given _ fun _ => Agree.done _ r)
    fun _ _ _ _ h => suffix_of_given h fun _ => suffix_of_done

theorem readMarked?_suffix {l : Lexeme} (h : readMarked? cs = some (l, r)) : r <:+ cs.tail := by
  unfold readMarked? at h
  split at h
  · exact readNamed?_suffix h
  · split at h
    · exact (readNamed?_suffix h).trans (List.tail_suffix _)
    · exact readSwitches?_suffix h

theorem agree_readMarked? (cs : List Char) :
    Agree Never (readMarked? cs) (readMarked? (cs ++ closing)) := by
  unfold readMarked?
  rcases cs with - | ⟨c, - | ⟨d, rest⟩⟩
  · exact agree_readSwitches? []
  · exact Agree.branch (fun _ => agree_readNamed? []) fun _ => 
      Agree.branch (fun h => absurd h (by simp)) fun _ => agree_readSwitches? [c]
  · exact Agree.branch (fun _ => agree_readNamed? (d :: rest)) fun _ =>
      Agree.branch (fun _ => agree_readNamed? rest) fun _ => agree_readSwitches? (c :: d :: rest)

theorem readGroup?_suffix {l : Lexeme} (h : readGroup? v cs = some (l, r)) : r <:+ cs := by
  rw [readGroup?_eq] at h
  split at h
  · refine List.IsSuffix.trans ?_ (skip_suffix (v := v) cs)
    exact (readMarked?_suffix h).trans ((List.tail_suffix _).trans (List.tail_suffix _))
  · exact suffix_of_done h

theorem agree_readGroup? (cs : List Char) :
    Agree Never (readGroup? v cs) (readGroup? v (cs ++ closing)) := by
  rw [readGroup?_eq, readGroup?_eq]
  rcases skip_append (v := v) cs with h | ⟨-, h, h'⟩
  · rw [h]
    cases skip v cs with
    | nil => exact Agree.done _ cs
    | cons c rest =>
      exact Agree.branch (fun _ => agree_readMarked? rest) fun _ => Agree.done _ cs
  · rw [h, h']
    exact Agree.done _ cs

/-! ## Repetitions -/

theorem digits_succ (n : Nat) (cs : List Char) : readCount?.digits v (n + 1) cs =
    match skip v cs with
    | [] => ([], cs)
    | c :: rest =>
      if c.isDigit then
        (c :: (readCount?.digits v n rest).1, (readCount?.digits v n rest).2)
      else ([], cs) := rfl

theorem digits_suffix (n : Nat) (cs : List Char) : (readCount?.digits v n cs).2 <:+ cs := by
  induction n generalizing cs with
  | zero => exact List.suffix_rfl
  | succ n ih =>
    rw [digits_succ]
    split
    · exact List.suffix_rfl
    · rename_i c rest hs
      split
      · exact suffix_of_skip hs (ih rest)
      · exact List.suffix_rfl

theorem digits_closing (m : Nat) : readCount?.digits v m closing = ([], closing) := by
  have whole : skip v closing = closing := by cases v <;> rfl
  cases m with
  | zero => rfl
  | succ m =>
    rw [digits_succ, whole]
    rfl

theorem digits_append {n m : Nat} (cs : List Char) (hn : cs.length ≤ n) (hm : cs.length ≤ m) :
    readCount?.digits v m (cs ++ closing) =
      ((readCount?.digits v n cs).1, (readCount?.digits v n cs).2 ++ closing) := by
  induction n generalizing m cs with
  | zero =>
    obtain rfl := List.length_eq_zero_iff.1 (Nat.le_zero.1 hn)
    exact digits_closing m
  | succ n ih =>
    cases m with
    | zero =>
      obtain rfl := List.length_eq_zero_iff.1 (Nat.le_zero.1 hm)
      exact (digits_closing 0).trans (by rw [digits_succ]; rfl)
    | succ m =>
      rw [digits_succ, digits_succ]
      rcases skip_append (v := v) cs with h | ⟨-, h, h'⟩
      · rw [h]
        cases hs : skip v cs with
        | nil => rfl
        | cons c rest =>
          have shorter := length_lt_of_skip hs
          have same := ih (m := m) rest (by omega) (by omega)
          simp only [List.cons_append, same]
          split <;> rfl
      · rw [h, h']

theorem readCount?_suffix {n k : Nat} (h : readCount? v n cs = some (k, r)) : r <:+ cs := by
  simp only [readCount?] at h
  split at h
  · cases h
  · refine (suffix_of_done h).trans ?_
    exact (List.dropWhile_suffix _).trans ((digits_suffix n _).trans (List.dropWhile_suffix _))

theorem readCount?_closing (n : Nat) : readCount? v n closing = none := by
  have stop : closing.dropWhile isBlank = closing := by decide
  simp [readCount?, stop, digits_closing]

theorem agree_readCount? {n m : Nat} (cs : List Char) (hn : cs.length ≤ n) (hm : cs.length ≤ m) :
    Agree Never (readCount? v n cs) (readCount? v m (cs ++ closing)) := by
  have stop : isBlank ')' = false := by decide
  have shorter := (List.dropWhile_suffix isBlank (l := cs)).length_le
  have same := digits_append (v := v) (n := n) (m := m) (cs.dropWhile isBlank) (by omega) (by omega)
  simp only [readCount?, dropWhile_append_closing stop, same]
  exact Agree.branch (fun _ => Agree.none) fun _ => Agree.done _ _

theorem skipLazy_suffix (cs : List Char) : skipLazy v cs <:+ cs := by
  unfold skipLazy
  split
  · rename_i hs
    exact suffix_of_skip hs List.suffix_rfl
  · exact List.suffix_rfl

theorem skipLazy_append (cs : List Char) :
    skipLazy v (cs ++ closing) = skipLazy v cs ++ closing := by
  unfold skipLazy
  rcases skip_append (v := v) cs with h | ⟨-, h, h'⟩
  · rw [h]
    cases skip v cs with
    | nil => rfl
    | cons c rest =>
      by_cases hc : c = '?'
      · subst hc
        rfl
      · simp [hc]
  · rw [h, h']

/-- The greatest count of a repetition. Without a comma it is the least one. -/
def readMost? (v : Bool) (least : Nat) (cs : List Char) : Option (Option Nat × List Char) :=
  if cs.head? == some ',' then
    skipTo? v cs.tail >>= fun rest =>
      if rest.head? == some '\x7d' then some (none, rest)
      else (readCount? v rest.length rest).map fun (n, r) => (some n, r)
  else some (some least, cs)

/-- The closing brace of a repetition. -/
def closeBrace? (v : Bool) (least : Nat) (most : Option Nat) (cs : List Char) :
    Option (Lexeme × List Char) := do
  guard (cs.head? = some '\x7d')
  guard (most.all (least ≤ ·))
  some (.repetition least most, skipLazy v (cs.drop 1))

/-- A repetition after its least count. -/
def endRepetition? (v : Bool) (least : Nat) (cs : List Char) : Option (Lexeme × List Char) :=
  readMost? v least cs >>= fun (most, rest) => closeBrace? v least most (skip v rest)

theorem readRepetition?_eq (cs : List Char) : readRepetition? v cs =
    skipTo? v cs >>= fun t => readCount? v cs.length t >>= fun (least, rest) =>
      endRepetition? v least (skip v rest) := by
  unfold readRepetition?
  refine bind_congr fun t => bind_congr fun (least, rest) => ?_
  unfold endRepetition? readMost? closeBrace?
  dsimp only
  rcases skip v rest with - | ⟨c, rest⟩
  · rfl
  · by_cases hc : c = ','
    · subst hc
      simp only [List.head?_cons, List.tail_cons, beq_self_eq_true, if_true, bind_assoc]
      refine bind_congr fun u => ?_
      by_cases open_ended : u.head? = some '\x7d'
      · simp [open_ended]
      · simp [open_ended]
    · simp [hc]

theorem readMost?_suffix {least : Nat} {most : Option Nat}
    (h : readMost? v least cs = some (most, r)) : r <:+ cs := by
  unfold readMost? at h
  split at h
  · refine (suffix_of_skipTo h fun t h => ?_).trans (List.tail_suffix cs)
    split at h
    · exact suffix_of_done h
    · exact suffix_of_map h fun _ _ => readCount?_suffix
  · exact suffix_of_done h

theorem agree_readMost? (least : Nat) (cs : List Char) :
    Agree Never (readMost? v least cs) (readMost? v least (cs ++ closing)) := by
  unfold readMost?
  cases cs with
  | nil => exact Agree.done (some least) []
  | cons c cs =>
    refine Agree.branch (fun _ => ?_) fun _ => Agree.done _ (c :: cs)
    refine Agree.skippedTo (fun d ds _ => ?_) ?_
    · refine Agree.branch (fun _ => Agree.done _ (d :: ds)) fun _ => ?_
      exact (agree_readCount? (d :: ds) (Nat.le_refl _) (by simp)).map _
    · rw [readCount?_closing]
      exact Agree.none

theorem closeBrace?_suffix {least : Nat} {most : Option Nat} {l : Lexeme}
    (h : closeBrace? v least most cs = some (l, r)) : r <:+ cs :=
  suffix_of_given h fun _ h => suffix_of_given h fun _ h => (suffix_of_done h).trans
    ((skipLazy_suffix _).trans (List.drop_suffix 1 cs))

theorem agree_closeBrace? (least : Nat) (most : Option Nat) (cs : List Char) :
    Agree Never (closeBrace? v least most cs) (closeBrace? v least most (cs ++ closing)) := by
  unfold closeBrace?
  cases cs with
  | nil => exact Agree.none
  | cons c cs =>
    refine Agree.given _ fun _ => Agree.given _ fun _ => ?_
    simp only [List.cons_append, List.drop_succ_cons, List.drop_zero, skipLazy_append]
    exact Agree.done _ _

theorem endRepetition?_suffix {least : Nat} {l : Lexeme}
    (h : endRepetition? v least cs = some (l, r)) : r <:+ cs :=
  suffix_of_bind h (fun _ _ => readMost?_suffix) fun _ t h =>
    (closeBrace?_suffix h).trans (skip_suffix t)

theorem agree_endRepetition? (least : Nat) (cs : List Char) :
    Agree Never (endRepetition? v least cs) (endRepetition? v least (cs ++ closing)) :=
  (agree_readMost? least cs).step
    (fun most r => Agree.skipped (agree_closeBrace? least most) rfl r)
    fun _ t _ _ h => (closeBrace?_suffix h).trans (skip_suffix t)

theorem readRepetition?_suffix {l : Lexeme} (h : readRepetition? v cs = some (l, r)) :
    r <:+ cs := by
  rw [readRepetition?_eq] at h
  exact suffix_of_skipTo h fun _ h => suffix_of_bind h (fun _ _ => readCount?_suffix) fun _ t h =>
    (endRepetition?_suffix h).trans (skip_suffix t)

theorem agree_readRepetition? (cs : List Char) :
    Agree Never (readRepetition? v cs) (readRepetition? v (cs ++ closing)) := by
  rw [readRepetition?_eq, readRepetition?_eq]
  refine Agree.skippedTo (fun c rest hs => ?_) ?_
  · have shorter := length_lt_of_skip hs
    refine (agree_readCount? (c :: rest) shorter (by simp; omega)).step
      (fun least r => Agree.skipped (agree_endRepetition? least) rfl r) fun _ t _ _ h =>
        (endRepetition?_suffix h).trans (skip_suffix t)
  · rw [readCount?_closing]
    exact Agree.none

/-! ## Lexemes -/

/-- A class after its bracket. -/
def readBracket? (v : Bool) (cs : List Char) : Option (Lexeme × List Char) :=
  openClass? v cs >>= fun (o, rest) => readClass? v [] o rest >>= fun (e, rest) =>
    some (.class e, rest)

theorem readBracket?_suffix {l : Lexeme} (h : readBracket? v cs = some (l, r)) : r <:+ cs := by
  refine suffix_of_bind h (fun _ _ => openClass?_suffix) fun o t h => ?_
  refine suffix_of_bind h (fun _ _ h => ?_) fun _ _ => suffix_of_done
  exact (readClass?_suffix h).trans ((List.tail_suffix _).trans (skip_suffix t))

theorem agree_readBracket? (cs : List Char) :
    Agree Never (readBracket? v cs) (readBracket? v (cs ++ closing)) := by
  refine (agree_openClass? cs).bind (fun o r => ?_) (fun o t _ _ h => ?_) fun o t l s ht h => ?_
  · exact (agree_readClass? [] o r).step (fun e r => Agree.done _ r) fun _ _ _ _ => suffix_of_done
  · refine suffix_of_bind h (fun _ _ h => ?_) fun _ _ => suffix_of_done
    exact (readClass?_suffix h).trans ((List.tail_suffix _).trans (skip_suffix t))
  · obtain rfl : t = [] := ht
    have left : s ++ closing <:+ ['$'] :=
      suffix_of_bind h (fun _ _ => readClass?_closing_suffix) fun _ _ => suffix_of_done
    exact absurd left (not_append_closing (by decide))

namespace Lexeme

theorem read?_cons (c : Char) (cs : List Char) : read? v (c :: cs) =
    if c = '(' then readGroup? v cs
    else if c = ')' then some (.closeGroup, cs)
    else if c = '|' then some (.bar, cs)
    else if c = '[' then readBracket? v cs
    else if c = '?' then some (.repetition 0 (some 1), skipLazy false cs)
    else if c = '*' then some (.repetition 0 none, skipLazy false cs)
    else if c = '+' then some (.repetition 1 none, skipLazy false cs)
    else if c = '\x7b' then readRepetition? v cs
    else if c = '\\' then readEscape? v cs
    else if c = '.' then some (.dot, cs)
    else if c = '^' then some (.anchor .lineStart, cs)
    else if c = '$' then some (.anchor .lineEnd, cs)
    else some (.literal c false, cs) := rfl

theorem read?_suffix {l : Lexeme} (h : read? v (c :: cs) = some (l, r)) : r <:+ cs := by
  have lazy {a : Lexeme} (h : some (a, skipLazy false cs) = some (l, r)) : r <:+ cs :=
    (suffix_of_done h).trans (skipLazy_suffix cs)
  rw [read?_cons] at h
  refine suffix_of_branch h readGroup?_suffix fun h => ?_
  refine suffix_of_branch h suffix_of_done fun h => ?_
  refine suffix_of_branch h suffix_of_done fun h => ?_
  refine suffix_of_branch h readBracket?_suffix fun h => ?_
  refine suffix_of_branch h lazy fun h => ?_
  refine suffix_of_branch h lazy fun h => ?_
  refine suffix_of_branch h lazy fun h => ?_
  refine suffix_of_branch h readRepetition?_suffix fun h => ?_
  refine suffix_of_branch h readEscape?_suffix fun h => ?_
  refine suffix_of_branch h suffix_of_done fun h => ?_
  refine suffix_of_branch h suffix_of_done fun h => ?_
  exact suffix_of_branch h suffix_of_done suffix_of_done

theorem agree_read? (cs : List Char) :
    Agree (Dangling v) (read? v cs) (read? v (cs ++ closing)) := by
  have lazy (l : Lexeme) (cs : List Char) : Agree (Dangling v) (some (l, skipLazy false cs))
      (some (l, skipLazy false (cs ++ closing))) := skipLazy_append cs ▸ Agree.done l _
  cases cs with
  | nil => exact Agree.past (r := ['$']) (by decide) fun _ _ => read?_suffix
  | cons c cs =>
    rw [List.cons_append, read?_cons, read?_cons]
    refine Agree.branch (fun _ => (agree_readGroup? cs).weaken) fun _ => ?_
    refine Agree.branch (fun _ => Agree.done _ cs) fun _ => ?_
    refine Agree.branch (fun _ => Agree.done _ cs) fun _ => ?_
    refine Agree.branch (fun _ => (agree_readBracket? cs).weaken) fun _ => ?_
    refine Agree.branch (fun _ => lazy _ cs) fun _ => ?_
    refine Agree.branch (fun _ => lazy _ cs) fun _ => ?_
    refine Agree.branch (fun _ => lazy _ cs) fun _ => ?_
    refine Agree.branch (fun _ => (agree_readRepetition? cs).weaken) fun _ => ?_
    refine Agree.branch (fun _ => agree_readEscape? cs) fun _ => ?_
    refine Agree.branch (fun _ => Agree.done _ cs) fun _ => ?_
    refine Agree.branch (fun _ => Agree.done _ cs) fun _ => ?_
    exact Agree.branch (fun _ => Agree.done _ cs) fun _ => Agree.done _ cs

/-- After `Dangling` nothing is read. -/
theorem read?_dangling (h : skip v cs = []) : read? v ('\x7b' :: (cs ++ closing)) = none := by
  have brace : read? v ('\x7b' :: (cs ++ closing)) = readRepetition? v (cs ++ closing) := rfl
  rw [brace, readRepetition?_eq, skipTo?]
  rcases skip_append (v := v) cs with h' | ⟨-, -, h'⟩
  · rw [h', h]
    exact congrArg (· >>= _) (readCount?_closing _)
  · rw [h']
    rfl

/-! ### What lexemes do to groups -/

/-- A part that leaves open groups and switches as they are. If it is a repetition its counts are in
order. -/
def IsInner : Lexeme → Prop
  | .openGroup _ _ | .changeFlags _ | .closeGroup => False
  | .repetition least most => ∀ bound, most = some bound → least ≤ bound
  | _ => True

/-- A part that is not the end of a group, and whose counts are in order if it is a repetition. -/
def IsPart : Lexeme → Prop
  | .openGroup _ _ | .changeFlags _ => True
  | l => l.IsInner

theorem IsInner.isPart {l : Lexeme} (h : l.IsInner) : l.IsPart := by
  cases l <;> first | exact h | exact h.elim

end Lexeme

/-- All that is read, and what it leaves, has a property. -/
def Yields (P : α → List Char → Prop) (x : Option (α × List Char)) : Prop :=
  ∀ a r, x = some (a, r) → P a r

namespace Yields

variable {P : α → List Char → Prop} {x y : Option (α × List Char)}

theorem fail : Yields P none := nofun

theorem done {a : α} {r : List Char} (h : P a r) : Yields P (some (a, r)) := by
  rintro _ _ ⟨⟩
  exact h

theorem bind {g : Option β} {f : β → Option (α × List Char)}
    (h : ∀ b, g = some b → Yields P (f b)) : Yields P (g >>= f) := by
  intro a r hx
  obtain ⟨b, hg, hb⟩ := Option.bind_eq_some_iff.1 hx
  exact h b hg a r hb

theorem branch {p : Prop} [Decidable p] (h : p → Yields P x) (h' : ¬ p → Yields P y) :
    Yields P (if p then x else y) := by
  split
  · exact h ‹p›
  · exact h' ‹¬ p›

end Yields

namespace Lexeme

/-- Reading yields parts that leave groups and switches as they are. -/
abbrev YieldsInner (x : Option (Lexeme × List Char)) : Prop := Yields (fun l _ => l.IsInner) x

theorem isInner_readCodePoint? (marker : Char) (cs : List Char) :
    YieldsInner (readCodePoint? v marker cs) := by
  unfold readCodePoint?
  split <;> exact Yields.bind fun _ _ => Yields.bind fun _ _ => Yields.done trivial

theorem isInner_readProperty? (negated : Bool) (cs : List Char) :
    YieldsInner (readProperty? v negated cs) := by
  unfold readProperty?
  split
  · exact Yields.fail
  · exact Yields.bind fun _ _ => Yields.done trivial
  · exact Yields.branch (fun _ => Yields.done trivial) fun _ => Yields.fail

theorem isInner_readBoundary? (cs : List Char) : YieldsInner (readBoundary? v cs) := by
  unfold readBoundary?
  split
  · split
    · exact Yields.fail
    · refine Yields.branch (fun _ => Yields.done trivial) fun _ => ?_
      refine Yields.bind fun _ _ => Yields.bind fun _ _ => Yields.bind fun _ _ => ?_
      exact Yields.done trivial
  · exact Yields.done trivial

theorem isInner_readEscape? (cs : List Char) : YieldsInner (readEscape? v cs) := by
  cases cs with
  | nil => exact Yields.fail
  | cons c cs =>
    rw [readEscape?]
    refine Yields.branch (fun _ => isInner_readCodePoint? c cs) fun _ => ?_
    refine Yields.branch (fun _ => isInner_readProperty? _ cs) fun _ => ?_
    refine Yields.branch (fun _ => isInner_readBoundary? cs) fun _ => ?_
    refine Yields.branch (fun _ => Yields.done trivial) fun _ => ?_
    split
    · exact Yields.done trivial
    · split
      · exact Yields.done trivial
      · cases anchorOf? c with
        | none => exact Yields.fail
        | some a => exact Yields.done trivial

theorem isInner_readRepetition? (cs : List Char) : YieldsInner (readRepetition? v cs) := by
  rw [readRepetition?_eq]
  refine Yields.bind fun _ _ => Yields.bind fun (least, _) _ => Yields.bind fun (most, r) _ => ?_
  refine Yields.bind fun _ _ => Yields.bind fun _ h => Yields.done ?_
  rintro bound rfl
  simpa [Option.guard_eq_some'] using h

theorem isInner_read? (opens : c ≠ '(') (closes : c ≠ ')') (cs : List Char) :
    YieldsInner (read? v (c :: cs)) := by
  have bracket : YieldsInner (readBracket? v cs) :=
    Yields.bind fun _ _ => Yields.bind fun _ _ => Yields.done trivial
  rw [read?_cons, if_neg opens, if_neg closes]
  refine Yields.branch (fun _ => Yields.done trivial) fun _ => ?_
  refine Yields.branch (fun _ => bracket) fun _ => ?_
  refine Yields.branch (fun _ => Yields.done (by simp [IsInner])) fun _ => ?_
  refine Yields.branch (fun _ => Yields.done (by simp [IsInner])) fun _ => ?_
  refine Yields.branch (fun _ => Yields.done (by simp [IsInner])) fun _ => ?_
  refine Yields.branch (fun _ => isInner_readRepetition? cs) fun _ => ?_
  refine Yields.branch (fun _ => isInner_readEscape? cs) fun _ => ?_
  refine Yields.branch (fun _ => Yields.done trivial) fun _ => ?_
  refine Yields.branch (fun _ => Yields.done trivial) fun _ => ?_
  exact Yields.branch (fun _ => Yields.done trivial) fun _ => Yields.done trivial

theorem isPart_switched? {a : List (Flag × Bool) × Char} {l : Lexeme} (h : switched? a = some l) :
    l.IsPart := by
  unfold switched? at h
  split at h
  · cases h
    trivial
  · split at h
    · cases h
    · cases h
      trivial

theorem isPart_readGroup? (cs : List Char) : Yields (fun l _ => l.IsPart) (readGroup? v cs) := by
  have named (cs : List Char) : Yields (fun l _ => l.IsPart) (readNamed? cs) :=
    Yields.bind fun _ _ => Yields.done trivial
  rw [readGroup?_eq]
  refine Yields.branch (fun _ => ?_) fun _ => Yields.done trivial
  refine Yields.branch (fun _ => named _) fun _ => Yields.branch (fun _ => named _) fun _ => ?_
  exact Yields.bind fun _ _ => Yields.bind fun _ h => Yields.done (isPart_switched? h)

/-- Only parentheses open, close or switch. -/
theorem read?_cases {l : Lexeme} (h : read? v (c :: cs) = some (l, r)) :
    c = '(' ∧ l.IsPart ∨ c = ')' ∧ l = .closeGroup ∧ r = cs ∨ l.IsInner := by
  by_cases opens : c = '('
  · subst opens
    exact .inl ⟨rfl, isPart_readGroup? cs l r h⟩
  · by_cases closes : c = ')'
    · subst closes
      cases h
      exact .inr (.inl ⟨rfl, rfl, rfl⟩)
    · exact .inr (.inr (isInner_read? opens closes cs l r h))

end Lexeme

end ComponentSpec.Pattern
