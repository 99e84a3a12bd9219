import ComponentSpec.Number.Layout
import ComponentSpec.Proofs.Shortest
import ComponentSpec.Proofs.Text

/-!
# ComponentSpec.Proofs.NumberText

The text of a floating-point number stands for this number only.

* `Spells`: the spellings of unsigned decimals. `ofChars?_of_spells`: each is read as its decimal.
* `spells_layMagnitude`: what is laid out spells a decimal in the interval of the magnitude.
* `lay_injective`: two finite numbers with one text are the same.
-/

namespace ComponentSpec

variable {cs whole part tail : List Char} {c : Char} {d : Decimal} {e : Int}

/-! ## Digits -/

theorem natOfDigits_append_zeros (cs : List Char) (n : Nat) :
    natOfDigits (cs ++ List.replicate n '0') = natOfDigits cs * tenTo n := by
  have zeros : natOfDigits (cs ++ List.replicate n '0') = 10 ^ n * natOfDigits cs :=
    (Nat.ofDigitChars_append 0).trans Nat.ofDigitChars_replicate_zero
  rw [zeros, Nat.mul_comm]
  rfl

theorem natOfDigits_zeros_append (n : Nat) (cs : List Char) :
    natOfDigits (List.replicate n '0' ++ cs) = natOfDigits cs := by
  have zeros : Nat.ofDigitChars 10 (List.replicate n '0') 0 = 0 := by simp
  have split : natOfDigits (List.replicate n '0' ++ cs) =
      Nat.ofDigitChars 10 cs (Nat.ofDigitChars 10 (List.replicate n '0') 0) :=
    Nat.ofDigitChars_append 0
  rw [split, zeros]
  rfl

/-! ## Spellings -/

/-- The spellings of an exponent. -/
inductive SpellsExponent : List Char → Int → Prop where
  | plain (n : Nat) : SpellsExponent ('e' :: Nat.toDigits 10 n) n
  | plus (n : Nat) : SpellsExponent ('e' :: '+' :: Nat.toDigits 10 n) n
  | minus (n : Nat) : SpellsExponent ('e' :: '-' :: Nat.toDigits 10 n) (-n)

/-- The spellings of an unsigned decimal: digits on both sides of a point, or an exponent after a
digit with or without a point. -/
inductive Spells : List Char → Decimal → Prop where
  | pointed {whole part : List Char} : whole ≠ [] → (∀ c ∈ whole, c.isDigit = true) →
      (∀ c ∈ part, c.isDigit = true) →
      Spells (whole ++ '.' :: part) ⟨false, natOfDigits (whole ++ part), -part.length⟩
  | digit {c : Char} {tail : List Char} {e : Int} : c.isDigit = true → SpellsExponent tail e →
      Spells (c :: tail) ⟨false, natOfDigits [c], e⟩
  | scientific {c : Char} {part tail : List Char} {e : Int} : c.isDigit = true →
      (∀ c ∈ part, c.isDigit = true) → SpellsExponent tail e →
      Spells (c :: '.' :: (part ++ tail)) ⟨false, natOfDigits (c :: part), e - part.length⟩

theorem readSign_of_isDigit (h : c.isDigit = true) (cs : List Char) :
    Decimal.readSign (c :: cs) = (false, c :: cs) := by
  unfold Decimal.readSign
  split
  · rename_i heq
    cases heq
    cases h
  · rename_i heq
    cases heq
    cases h
  · rfl

theorem readExponent?_of_spells (h : SpellsExponent tail e) :
    Decimal.readExponent? tail = some e := by
  have digits : ∀ n, (Nat.toDigits 10 n).all Char.isDigit = true := fun n =>
    List.all_eq_true.2 (isDigit_toDigits n)
  cases h with
  | plain n =>
    have all := digits n
    have value := natOfDigits_toDigits n
    obtain ⟨c, cs, hcs⟩ : ∃ c cs, Nat.toDigits 10 n = c :: cs :=
      List.exists_cons_of_ne_nil Nat.toDigits_ne_nil
    rw [hcs] at all value ⊢
    have first : c.isDigit = true := List.all_eq_true.1 all c List.mem_cons_self
    simp only [Decimal.readExponent?, readSign_of_isDigit first, true_or, if_true, all, value]
    simp
  | plus n =>
    simp [Decimal.readExponent?, Decimal.readSign, digits, natOfDigits_toDigits,
      Nat.toDigits_ne_nil]
  | minus n =>
    simp [Decimal.readExponent?, Decimal.readSign, digits, natOfDigits_toDigits,
      Nat.toDigits_ne_nil]

theorem SpellsExponent.exists_cons (h : SpellsExponent tail e) : ∃ cs, tail = 'e' :: cs := by
  cases h <;> exact ⟨_, rfl⟩

theorem ofChars?_of_spells (h : Spells cs d) : Decimal.ofChars? cs = some d := by
  cases h with
  | @pointed whole part nonempty hw hp =>
    obtain ⟨w, ws, rfl⟩ := List.exists_cons_of_ne_nil nonempty
    have sign := readSign_of_isDigit (hw w List.mem_cons_self) (ws ++ '.' :: part)
    obtain ⟨take, drop⟩ := split_while hw (b := '.' :: part) (by simp)
    obtain ⟨take', drop'⟩ := split_while hp (b := []) (by simp)
    rw [List.append_nil] at take' drop'
    rw [Decimal.ofChars?, List.cons_append, sign, ← List.cons_append]
    simp only [take, drop, take', drop']
    simp [Decimal.readExponent?]
  | @digit c tail e hc ht =>
    obtain ⟨rest, rfl⟩ := ht.exists_cons
    have sign := readSign_of_isDigit hc ('e' :: rest)
    obtain ⟨take, drop⟩ := split_while (a := [c]) (by simpa using hc) (b := 'e' :: rest)
      (by simp)
    rw [List.singleton_append] at take drop
    rw [Decimal.ofChars?, sign]
    simp only [take, drop]
    simp [readExponent?_of_spells ht]
  | @scientific c part tail e hc hp ht =>
    obtain ⟨rest, rfl⟩ := ht.exists_cons
    have sign := readSign_of_isDigit hc ('.' :: (part ++ 'e' :: rest))
    obtain ⟨take, drop⟩ := split_while (a := [c]) (by simpa using hc)
      (b := '.' :: (part ++ 'e' :: rest)) (by simp)
    obtain ⟨take', drop'⟩ := split_while hp (b := 'e' :: rest) (by simp)
    rw [List.singleton_append] at take drop
    rw [Decimal.ofChars?, sign]
    simp only [take, drop, take', drop', readExponent?_of_spells ht]
    simp

/-! ### Characters -/

/-- The characters of numbers. -/
def isNumeric (c : Char) : Bool := c.isDigit || c == '.' || c == 'e' || c == '+' || c == '-'

theorem isNumeric_of_isDigit (h : c.isDigit = true) : isNumeric c = true := by
  simp [isNumeric, h]

theorem isNumeric_of_spellsExponent (h : SpellsExponent tail e) :
    ∀ c ∈ tail, isNumeric c = true := by
  have digits : ∀ n, ∀ c ∈ Nat.toDigits 10 n, isNumeric c = true := fun n c hc =>
    isNumeric_of_isDigit (isDigit_toDigits n c hc)
  cases h with
  | plain n => exact List.forall_mem_cons.2 ⟨rfl, digits n⟩
  | plus n => exact List.forall_mem_cons.2 ⟨rfl, List.forall_mem_cons.2 ⟨rfl, digits n⟩⟩
  | minus n => exact List.forall_mem_cons.2 ⟨rfl, List.forall_mem_cons.2 ⟨rfl, digits n⟩⟩

theorem Spells.isNumeric (h : Spells cs d) : ∀ c ∈ cs, isNumeric c = true := by
  have numeric : ∀ {ds : List Char}, (∀ c ∈ ds, c.isDigit = true) →
      ∀ c ∈ ds, ComponentSpec.isNumeric c = true := fun hd c hc => isNumeric_of_isDigit (hd c hc)
  cases h with
  | pointed _ hw hp =>
    exact List.forall_mem_append.2 ⟨numeric hw, List.forall_mem_cons.2 ⟨rfl, numeric hp⟩⟩
  | digit hd ht =>
    exact List.forall_mem_cons.2 ⟨isNumeric_of_isDigit hd, isNumeric_of_spellsExponent ht⟩
  | scientific hd hp ht =>
    have after := List.forall_mem_append.2 ⟨numeric hp, isNumeric_of_spellsExponent ht⟩
    exact List.forall_mem_cons.2
      ⟨isNumeric_of_isDigit hd, List.forall_mem_cons.2 ⟨rfl, after⟩⟩

/-- A decimal begins with a digit. -/
theorem Spells.exists_cons (h : Spells cs d) : ∃ c cs', cs = c :: cs' ∧ c.isDigit = true := by
  cases h with
  | pointed nonempty hw _ =>
    obtain ⟨w, ws, rfl⟩ := List.exists_cons_of_ne_nil nonempty
    exact ⟨w, _, rfl, hw w List.mem_cons_self⟩
  | digit hd _ => exact ⟨_, _, rfl, hd⟩
  | scientific hd _ _ => exact ⟨_, _, rfl, hd⟩

/-- A decimal is told from an integer by a point or an exponent. -/
theorem Spells.point_or_exponent (h : Spells cs d) : '.' ∈ cs ∨ 'e' ∈ cs := by
  cases h with
  | pointed _ _ _ => exact .inl (by simp)
  | digit _ ht =>
    obtain ⟨rest, rfl⟩ := ht.exists_cons
    exact .inr (by simp)
  | scientific _ _ _ => exact .inl (by simp)

/-! ## Layouts -/

namespace NumberLayout

variable {l : NumberLayout} {x y : Binary64}

/-- Texts with a point or an exponent in any case. -/
structure IsMarked (l : NumberLayout) : Prop where
  pointZero : l.pointZero = true
  exponentMark : l.exponentMark = "e" ∨ l.exponentMark = "e+"

theorem isDigit_replicate (n : Nat) : ∀ c ∈ List.replicate n '0', c.isDigit = true := fun c hc => by
  rw [List.eq_of_mem_replicate hc]
  rfl

/-- Digits before the point are followed by zeros. -/
theorem spells_whole {ds : List Char} (hd : ds ≠ [])
    (digits : ∀ c ∈ ds, c.isDigit = true) (n : Nat) :
    ∃ d, Spells (layPositional true ds n).toList d ∧
      d.units = Decimal.units ⟨false, natOfDigits ds, n⟩ := by
  have text : (layPositional true ds n).toList = (ds ++ List.replicate n '0') ++ '.' :: ['0'] := by
    simp [layPositional]
  have zeros : (ds ++ List.replicate n '0') ++ ['0'] = ds ++ List.replicate (n + 1) '0' := by
    rw [List.append_assoc, List.replicate_succ']
  have whole : ∀ c ∈ ds ++ List.replicate n '0', c.isDigit = true := fun c hc =>
    (List.mem_append.1 hc).elim (digits c) (isDigit_replicate n c)
  have zero : ∀ c ∈ ['0'], c.isDigit = true := by simp
  have spells := Spells.pointed (by simp [hd]) whole zero
  rw [← text, zeros] at spells
  refine ⟨_, spells, ?_⟩
  have place : (-(['0'].length : Int) + 400).toNat = 399 := rfl
  have place' : ((n : Int) + 400).toNat = 399 + (n + 1) := by omega
  rw [Decimal.units, Decimal.units, natOfDigits_append_zeros, place, place',
    Shortest.gridPoint_add]

/-- Digits after the point come after zeros, one of them before the point. -/
theorem spells_fraction {ds : List Char} (digits : ∀ c ∈ ds, c.isDigit = true) (n : Nat) :
    Spells (layPositional true ds (-(n + 1 : Nat))).toList
      ⟨false, natOfDigits ds, -(n + 1 : Nat)⟩ := by
  have places : (-(-((n + 1 : Nat) : Int))).toNat = n + 1 := by omega
  have negative : ¬ (0 : Int) ≤ -((n + 1 : Nat) : Int) := by omega
  rw [layPositional, if_neg negative, places]
  dsimp only
  have padded : ∀ c ∈ List.replicate (n + 1 + 1 - ds.length) '0' ++ ds, c.isDigit = true :=
    fun c hc => (List.mem_append.1 hc).elim (isDigit_replicate _ c) (digits c)
  have value := natOfDigits_zeros_append (n + 1 + 1 - ds.length) ds
  have long : n + 1 < (List.replicate (n + 1 + 1 - ds.length) '0' ++ ds).length := by
    rw [List.length_append, List.length_replicate]
    omega
  generalize List.replicate (n + 1 + 1 - ds.length) '0' ++ ds = cs at padded value long
  have part : (cs.drop (cs.length - (n + 1))).length = n + 1 := by
    rw [List.length_drop]
    omega
  have nonempty : cs.take (cs.length - (n + 1)) ≠ [] := by
    refine List.ne_nil_of_length_pos ?_
    rw [List.length_take]
    omega
  have fraction : ∀ c ∈ cs.drop (cs.length - (n + 1)), c.isDigit = true := fun c hc =>
    padded c (List.mem_of_mem_drop hc)
  have spells := Spells.pointed nonempty (fun c hc => padded c (List.mem_of_mem_take hc)) fraction
  rw [List.take_append_drop, part, value] at spells
  simpa using spells

theorem spells_layPositional {ds : List Char} (hd : ds ≠ [])
    (digits : ∀ c ∈ ds, c.isDigit = true) (exponent : Int) :
    ∃ d, Spells (layPositional true ds exponent).toList d ∧
      d.units = Decimal.units ⟨false, natOfDigits ds, exponent⟩ := by
  cases exponent with
  | ofNat n => exact spells_whole hd digits n
  | negSucc n => exact ⟨_, spells_fraction digits n, rfl⟩

/-- Digits with an exponent have the point after the first of them. -/
theorem spells_scientific {mark : String} (hm : mark = "e" ∨ mark = "e+") {ds : List Char}
    (hd : ds ≠ []) (digits : ∀ c ∈ ds, c.isDigit = true) (exponent : Int) :
    Spells (layScientific mark ds (exponent + ds.length - 1)).toList
      ⟨false, natOfDigits ds, exponent⟩ := by
  obtain ⟨d, rest, rfl⟩ := List.exists_cons_of_ne_nil hd
  have lead : exponent + ((d :: rest).length : Int) - 1 = exponent + rest.length := by
    rw [List.length_cons]
    omega
  rw [lead]
  generalize he : exponent + (rest.length : Int) = e
  have tail : SpellsExponent
      (if 0 ≤ e then mark ++ toString e.toNat else "e-" ++ toString (-e).toNat).toList e := by
    split
    · rename_i nonnegative
      obtain ⟨n, rfl⟩ := Int.eq_ofNat_of_zero_le nonnegative
      rcases hm with rfl | rfl
      · simpa using SpellsExponent.plain n
      · simpa using SpellsExponent.plus n
    · have value : -((-e).toNat : Int) = e := by omega
      have spells := SpellsExponent.minus (-e).toNat
      rw [value] at spells
      simpa using spells
  have first := digits d List.mem_cons_self
  cases rest with
  | nil =>
    unfold layScientific
    have spells := Spells.digit first tail
    have same : e = exponent := by simpa using he.symm
    rw [same] at spells ⊢
    simpa using spells
  | cons c cs =>
    unfold layScientific
    have part : ∀ a ∈ c :: cs, a.isDigit = true := fun a ha => digits a (List.mem_cons_of_mem _ ha)
    have spells := Spells.scientific first part tail
    have same : e - ((c :: cs).length : Int) = exponent := by omega
    rw [same] at spells
    simpa using spells

/-- Both forms spell the decimal of the digits. -/
theorem spells_form (marked : l.IsMarked) {ds : List Char} (hd : ds ≠ [])
    (digits : ∀ c ∈ ds, c.isDigit = true) (exponent : Int) (isPositional : Bool) :
    ∃ d, Spells (if isPositional then layPositional l.pointZero ds exponent
        else layScientific l.exponentMark ds (exponent + ds.length - 1)).toList d ∧
      d.units = Decimal.units ⟨false, natOfDigits ds, exponent⟩ := by
  cases isPositional with
  | true =>
    rw [marked.pointZero, if_pos rfl]
    exact spells_layPositional hd digits exponent
  | false => exact ⟨_, spells_scientific marked.exponentMark hd digits exponent, rfl⟩

/-- What is laid out is a decimal in the interval of the magnitude. -/
theorem spells_layMagnitude (marked : l.IsMarked) (x : Binary64) :
    ∃ d, Spells (l.layMagnitude x).toList d ∧ Shortest.interval x d.units = true := by
  rw [layMagnitude]
  split
  · rename_i zero
    rw [marked.pointZero]
    have spells : Spells "0.0".toList ⟨false, natOfDigits ['0', '0'], -['0'].length⟩ :=
      @Spells.pointed ['0'] ['0'] (by simp) (by simp) (by simp)
    refine ⟨_, spells, ?_⟩
    rw [Decimal.units_of_digits_eq_zero rfl]
    exact Shortest.interval_zero zero
  · rename_i nonzero
    have digits := isDigit_toDigits (x.shortest l.tie).1
    have value := natOfDigits_toDigits (x.shortest l.tie).1
    have rank : x.rank ≠ 0 := fun h => nonzero (Binary64.isZero_iff.2 h)
    obtain ⟨low, within⟩ := Binary64.interval_shortest l.tie rank false
    generalize x.shortest l.tie = s at digits value low within
    obtain ⟨c, exponent⟩ := s
    dsimp only at digits value low within ⊢
    have nonempty : Nat.toDigits 10 c ≠ [] := Nat.toDigits_ne_nil
    rw [← value] at within
    obtain ⟨d, spells, same⟩ := spells_form marked nonempty digits exponent _
    rw [← same] at within
    exact ⟨d, spells, within⟩

theorem lay_of_isFinite (h : x.isFinite = true) : (l.lay x).toList =
    (if x.isNegative then ['-'] else []) ++ (l.layMagnitude x).toList := by
  have number : x.isNaN = false := by
    simp only [Binary64.isFinite, bne_iff_ne, ne_eq] at h
    simp [Binary64.isNaN, h]
  have bounded : x.isInfinite = false := by
    simp only [Binary64.isFinite, bne_iff_ne, ne_eq] at h
    simp [Binary64.isInfinite, h]
  rw [lay, number, bounded]
  cases x.isNegative <;> simp

/-- The sign of a number is read off its text. -/
theorem isNegative_iff (marked : l.IsMarked) (h : x.isFinite = true) :
    x.isNegative = true ↔ (l.lay x).toList.head? = some '-' := by
  obtain ⟨d, spells, -⟩ := spells_layMagnitude marked x
  obtain ⟨c, cs, text, digit⟩ := spells.exists_cons
  rw [lay_of_isFinite h, text]
  cases x.isNegative with
  | true => simp
  | false =>
    have other : c ≠ '-' := by
      rintro rfl
      cases digit
    simp [other]

/-- A text is that of one finite number at most. -/
theorem lay_injective (marked : l.IsMarked) (hx : x.isFinite = true) (hy : y.isFinite = true)
    (h : l.lay x = l.lay y) : x = y := by
  have sign : x.isNegative = y.isNegative := by
    rw [Bool.eq_iff_iff, isNegative_iff marked hx, isNegative_iff marked hy, h]
  obtain ⟨d, spells, within⟩ := spells_layMagnitude marked x
  obtain ⟨d', spells', within'⟩ := spells_layMagnitude marked y
  have texts : (l.layMagnitude x).toList = (l.layMagnitude y).toList := by
    have texts := congrArg String.toList h
    rw [lay_of_isFinite hx, lay_of_isFinite hy, sign] at texts
    exact List.append_cancel_left texts
  -- one text is read as one decimal, which is in both intervals
  have read := ofChars?_of_spells spells
  rw [texts, ofChars?_of_spells spells'] at read
  cases read
  exact Binary64.eq_of_rank sign (Shortest.rank_eq_of_interval within within')

theorem isNumeric_lay (marked : l.IsMarked) (h : x.isFinite = true) :
    ∀ c ∈ (l.lay x).toList, isNumeric c = true := by
  obtain ⟨d, spells, -⟩ := spells_layMagnitude marked x
  rw [lay_of_isFinite h]
  intro c hc
  rcases List.mem_append.1 hc with hc | hc
  · cases hs : x.isNegative with
    | true =>
      rw [hs, if_pos rfl] at hc
      rw [List.mem_singleton.1 hc]
      rfl
    | false =>
      rw [hs] at hc
      cases hc
  · exact spells.isNumeric c hc

theorem point_or_exponent_lay (marked : l.IsMarked) (h : x.isFinite = true) :
    '.' ∈ (l.lay x).toList ∨ 'e' ∈ (l.lay x).toList := by
  obtain ⟨d, spells, -⟩ := spells_layMagnitude marked x
  rw [lay_of_isFinite h]
  exact spells.point_or_exponent.imp (List.mem_append_right _) (List.mem_append_right _)

theorem lay_of_not_isFinite (h : x.isFinite = false) :
    l.lay x = l.nan ∨ l.lay x = l.infinity ∨ l.lay x = l.negativeInfinity := by
  have exponent : x.biasedExponent = 2047 := by simpa [Binary64.isFinite] using h
  rw [lay]
  split
  · exact .inl rfl
  · rename_i number
    have infinite : x.isInfinite = true := by
      simpa [Binary64.isNaN, Binary64.isInfinite, exponent] using number
    rw [if_pos infinite]
    split
    · exact .inr (.inr rfl)
    · exact .inr (.inl rfl)

end NumberLayout

end ComponentSpec
