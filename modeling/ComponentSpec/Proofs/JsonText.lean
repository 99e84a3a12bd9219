import ComponentSpec.Proofs.NumberText
import ComponentSpec.Render.Json
import ComponentSpec.Yaml.Plain

/-!
# ComponentSpec.Proofs.JsonText

A text in JSON stands for one value, if numbers that are not finite count as nulls.

* `Json.written`: the value that is written.
* `quote_unambiguous`: where a string ends, and what is in it.
* `Json.Form`, `form_render`: what is written is told from other kinds of values by its beginning.
* `Json.render_eq_iff`: two values have the same text exactly if the same value is written.
-/

namespace ComponentSpec

namespace Json

/-! ## What is written -/

mutual

/-- The value that is written: there is no notation for numbers that are not finite. -/
def written : Json → Json
  | .float x => if x.isFinite then .float x else .null
  | .list xs => .list (writtenItems xs)
  | .record fs => .record (writtenFields fs)
  | v => v

def writtenItems : List Json → List Json
  | [] => []
  | x :: xs => x.written :: writtenItems xs

def writtenFields : List (String × Json) → List (String × Json)
  | [] => []
  | (k, v) :: fs => (k, v.written) :: writtenFields fs

end

theorem writtenItems_eq (xs : List Json) : writtenItems xs = xs.map written := by
  induction xs with
  | nil => rfl
  | cons x xs ih => rw [writtenItems, ih, List.map_cons]

theorem writtenFields_eq (fs : List (String × Json)) :
    writtenFields fs = fs.map fun f => (f.1, f.2.written) := by
  induction fs with
  | nil => rfl
  | cons f fs ih =>
    obtain ⟨k, v⟩ := f
    rw [writtenFields, ih, List.map_cons]

/-! ## Lists -/

/-- The text of items that come after another one. -/
def moreItems (xs : List Json) : List Char := xs.flatMap fun x => ',' :: x.renderChars

theorem renderItems_cons (x : Json) (xs : List Json) :
    renderItems (x :: xs) = x.renderChars ++ moreItems xs := by
  induction xs generalizing x with
  | nil => simp [renderItems, moreItems]
  | cons y ys ih =>
    rw [renderItems, ih]
    · simp [moreItems]
    · simp

def fieldChars (k : String) (v : Json) : List Char := quote k ++ ':' :: v.renderChars

/-- The text of fields that come after another one. -/
def moreFields (fs : List (String × Json)) : List Char :=
  fs.flatMap fun f => ',' :: fieldChars f.1 f.2

theorem renderFields_cons (k : String) (v : Json) (fs : List (String × Json)) :
    renderFields ((k, v) :: fs) = fieldChars k v ++ moreFields fs := by
  induction fs generalizing k v with
  | nil => simp [renderFields, moreFields, fieldChars]
  | cons f fs ih =>
    obtain ⟨k', v'⟩ := f
    rw [renderFields, ih]
    · simp [moreFields, fieldChars]
    · simp

/-! ## The text of what is written -/

theorem isMarked_numberLayout : numberLayout.IsMarked := ⟨rfl, .inr rfl⟩

theorem lay_of_not_isFinite {x : Binary64} (h : x.isFinite = false) :
    numberLayout.lay x = "null" := by
  rcases NumberLayout.lay_of_not_isFinite (l := numberLayout) h with e | e | e <;> exact e

mutual

/-- The text of a value is that of the value that is written. -/
theorem renderChars_written : ∀ v : Json, v.written.renderChars = v.renderChars
  | .null => rfl
  | .boolean _ => rfl
  | .integer _ => rfl
  | .text _ => rfl
  | .float x => by
    rw [written]
    split
    · rfl
    · rename_i h
      rw [renderChars, renderChars, lay_of_not_isFinite (by simpa using h)]
  | .list [] => rfl
  | .list (x :: xs) => by
    rw [written, writtenItems, renderChars, renderChars, renderItems_cons, renderItems_cons,
      renderChars_written x, moreItems_written xs]
  | .record [] => rfl
  | .record ((k, v) :: fs) => by
    rw [written, writtenFields, renderChars, renderChars, renderFields_cons, renderFields_cons,
      fieldChars, fieldChars, renderChars_written v, moreFields_written fs]

theorem moreItems_written : ∀ xs : List Json, moreItems (writtenItems xs) = moreItems xs
  | [] => rfl
  | x :: xs => by
    have rest := moreItems_written xs
    unfold moreItems at rest ⊢
    rw [writtenItems, List.flatMap_cons, List.flatMap_cons, renderChars_written x, rest]

theorem moreFields_written : ∀ fs : List (String × Json),
    moreFields (writtenFields fs) = moreFields fs
  | [] => rfl
  | (k, v) :: fs => by
    have rest := moreFields_written fs
    unfold moreFields fieldChars at rest ⊢
    rw [writtenFields, List.flatMap_cons, List.flatMap_cons, renderChars_written v, rest]

end

/-! ## Strings -/

/-- The character that stands for another one after a backslash. -/
def unescape (c : Char) : Char :=
  if c = 'b' then '\x08'
  else if c = 't' then '\t'
  else if c = 'n' then '\n'
  else if c = 'f' then '\x0c'
  else if c = 'r' then '\r'
  else c

/-- Reads one character of a string, unless the string ends here. -/
def readChar : List Char → Option (Char × List Char)
  | '"' :: _ => none
  | '\\' :: 'u' :: '0' :: '0' :: h :: l :: cs =>
    some (Char.ofNat (16 * Yaml.digitValue h + Yaml.digitValue l), cs)
  | '\\' :: c :: cs => some (unescape c, cs)
  | c :: cs => some (c, cs)
  | [] => none

theorem digitValue_hexDigit (n : Nat) : Yaml.digitValue (hexDigit n) = n % 16 := by
  have all : ∀ d < 16, Yaml.digitValue (Nat.digitChar d) = d := by decide
  exact all _ (Nat.mod_lt n (by decide))

theorem readChar_of_plain {c : Char} (quote : c ≠ '"') (backslash : c ≠ '\\') (cs : List Char) :
    readChar (c :: cs) = some (c, cs) := by
  unfold readChar
  split
  · rename_i h
    exact absurd (List.cons.inj h).1 quote
  · rename_i h
    exact absurd (List.cons.inj h).1 backslash
  · rename_i h
    exact absurd (List.cons.inj h).1 backslash
  · rename_i h
    cases h
    rfl
  · rename_i h
    cases h

/-- The characters that are escaped by a character of their own. -/
def escapedChars : List Char := ['"', '\\', '\x08', '\t', '\n', '\x0c', '\r']

theorem readChar_escape (c : Char) (cs : List Char) :
    readChar (escape c ++ cs) = some (c, cs) := by
  by_cases special : c ∈ escapedChars
  · have all : ∀ c ∈ escapedChars, readChar (escape c ++ cs) = some (c, cs) := by
      simp only [escapedChars, List.forall_mem_cons]
      exact ⟨rfl, rfl, rfl, rfl, rfl, rfl, rfl, fun _ h => (by cases h)⟩
    exact all c special
  · simp only [escapedChars, List.mem_cons, not_or] at special
    obtain ⟨quote, backslash, hb, ht, hn, hf, hr, -⟩ := special
    rw [escape, if_neg quote, if_neg backslash, if_neg hb, if_neg ht, if_neg hn, if_neg hf,
      if_neg hr]
    split
    · have value : 16 * (c.toNat / 16 % 16) + c.toNat % 16 = c.toNat := by omega
      simp only [List.cons_append, List.nil_append, readChar, digitValue_hexDigit, value,
        Char.ofNat_toNat]
    · exact readChar_of_plain quote backslash cs

/-- What is in a string and what comes after it. -/
theorem flatMap_escape_unambiguous {cs ds s t : List Char}
    (h : cs.flatMap escape ++ '"' :: s = ds.flatMap escape ++ '"' :: t) : cs = ds ∧ s = t := by
  induction cs generalizing ds with
  | nil =>
    cases ds with
    | nil => exact ⟨rfl, (List.cons.inj h).2⟩
    | cons d ds =>
      have read := congrArg readChar h
      rw [List.flatMap_cons, List.append_assoc, readChar_escape] at read
      cases read
  | cons c cs ih =>
    cases ds with
    | nil =>
      have read := congrArg readChar h
      rw [List.flatMap_cons, List.append_assoc, readChar_escape] at read
      cases read
    | cons d ds =>
      have read := congrArg readChar h
      rw [List.flatMap_cons, List.flatMap_cons, List.append_assoc, List.append_assoc,
        readChar_escape, readChar_escape] at read
      obtain ⟨rfl, rest⟩ := Prod.mk.inj (Option.some.inj read)
      obtain ⟨rfl, tail⟩ := ih rest
      exact ⟨rfl, tail⟩

theorem quote_unambiguous {a b : String} {s t : List Char} (h : quote a ++ s = quote b ++ t) :
    a = b ∧ s = t := by
  have inner : a.toList.flatMap escape ++ '"' :: s = b.toList.flatMap escape ++ '"' :: t := by
    simpa [quote] using h
  obtain ⟨chars, rest⟩ := flatMap_escape_unambiguous inner
  exact ⟨String.toList_inj.1 chars, rest⟩

/-! ## Numbers -/

/-- A text that goes on with nothing of a number. -/
def Ended (s : List Char) : Prop := ∀ c ∈ s.head?, isNumeric c = false

theorem ended_nil : Ended [] := by
  intro c hc
  cases hc

theorem ended_cons {c : Char} (h : isNumeric c = false) (s : List Char) : Ended (c :: s) := by
  intro d hd
  cases hd
  exact h

theorem numeric_unambiguous {a b s t : List Char} (ha : ∀ c ∈ a, isNumeric c = true)
    (hb : ∀ c ∈ b, isNumeric c = true) (hs : Ended s) (ht : Ended t) (h : a ++ s = b ++ t) :
    a = b ∧ s = t := by
  obtain ⟨first, rest⟩ := split_while ha hs
  obtain ⟨first', rest'⟩ := split_while hb ht
  rw [h] at first rest
  exact ⟨first.symm.trans first', rest.symm.trans rest'⟩

theorem toList_toString (z : Int) :
    (toString z).toList = (if 0 ≤ z then [] else ['-']) ++ Nat.toDigits 10 z.natAbs := by
  rw [Int.toString_eq_repr, Int.repr_eq_if]
  split
  · rename_i h
    have abs : z.toNat = z.natAbs := by omega
    simp [abs]
  · have abs : (-z).toNat = z.natAbs := by omega
    simp [abs]

theorem toString_ne_nil (z : Int) : (toString z).toList ≠ [] := by
  rw [toList_toString]
  simp [Nat.toDigits_ne_nil]

theorem lay_ne_nil {x : Binary64} (h : x.isFinite = true) : (numberLayout.lay x).toList ≠ [] := by
  intro empty
  have point := NumberLayout.point_or_exponent_lay isMarked_numberLayout h
  rw [empty] at point
  simp at point

/-- An integer is written without a point or an exponent. -/
theorem isDigit_toString (z : Int) : ∀ c ∈ (toString z).toList, c.isDigit = true ∨ c = '-' := by
  intro c hc
  rw [toList_toString] at hc
  rcases List.mem_append.1 hc with hc | hc
  · split at hc
    · cases hc
    · exact .inr (List.mem_singleton.1 hc)
  · exact .inl (isDigit_toDigits _ c hc)

theorem toString_injective {y z : Int} (h : (toString y).toList = (toString z).toList) : y = z := by
  have digits : ∀ {m n : Nat}, Nat.toDigits 10 m = Nat.toDigits 10 n → m = n := fun {m n} h => by
    rw [← natOfDigits_toDigits m, ← natOfDigits_toDigits n, h]
  have unsigned : ∀ m n, ['-'] ++ Nat.toDigits 10 m ≠ Nat.toDigits 10 n := fun m n h => by
    have minus := isDigit_toDigits n '-' (h ▸ List.mem_cons_self)
    cases minus
  rw [toList_toString, toList_toString] at h
  split at h
  · split at h
    · have abs := digits h
      omega
    · exact absurd h.symm (unsigned _ _)
  · split at h
    · exact absurd h (unsigned _ _)
    · have abs := digits (List.append_cancel_left h)
      omega

theorem isNumeric_toString (z : Int) : ∀ c ∈ (toString z).toList, isNumeric c = true := by
  intro c hc
  rcases isDigit_toString z c hc with digit | rfl
  · exact isNumeric_of_isDigit digit
  · rfl

/-! ## Forms -/

/-- The kinds of values, as far as a text tells them apart. -/
inductive Form where
  | null
  | boolean
  | integer
  | float
  | text
  | list
  | record
deriving DecidableEq

def form : Json → Form
  | .null => .null
  | .boolean _ => .boolean
  | .integer _ => .integer
  | .float x => if x.isFinite then .float else .null
  | .text _ => .text
  | .list _ => .list
  | .record _ => .record

/-- The kind of the value at the beginning of a text. -/
def formOf (cs : List Char) : Form :=
  if cs.head? = some 'n' then .null
  else if cs.head? = some 't' ∨ cs.head? = some 'f' then .boolean
  else if cs.head? = some '"' then .text
  else if cs.head? = some '[' then .list
  else if cs.head? = some '\x7b' then .record
  else if '.' ∈ cs.takeWhile isNumeric ∨ 'e' ∈ cs.takeWhile isNumeric then .float
  else .integer

variable {v w : Json} {s t : List Char}

theorem formOf_numeric {a : List Char} (nonempty : a ≠ []) (ha : ∀ c ∈ a, isNumeric c = true)
    (hs : Ended s) : formOf (a ++ s) = if '.' ∈ a ∨ 'e' ∈ a then .float else .integer := by
  obtain ⟨take, -⟩ := split_while ha hs
  obtain ⟨c, cs, rfl⟩ := List.exists_cons_of_ne_nil nonempty
  have first := ha c List.mem_cons_self
  have other : ∀ d, isNumeric d = false → c ≠ d := by
    rintro d hd rfl
    rw [first] at hd
    cases hd
  have head : (c :: cs ++ s).head? = some c := rfl
  rw [formOf, take, head]
  simp [other 'n' rfl, other 't' rfl, other 'f' rfl, other '"' rfl, other '[' rfl,
    other '\x7b' rfl]

theorem formOf_render (v : Json) (hs : Ended s) : formOf (v.renderChars ++ s) = v.form := by
  cases v with
  | null => rfl
  | boolean b => cases b <;> rfl
  | integer z =>
    have point : ¬ ('.' ∈ (toString z).toList ∨ 'e' ∈ (toString z).toList) := by
      rintro (h | h) <;> rcases isDigit_toString z _ h with digit | minus <;> contradiction
    rw [renderChars, formOf_numeric (toString_ne_nil z) (isNumeric_toString z) hs, if_neg point]
    rfl
  | float x =>
    rw [renderChars, form]
    cases finite : x.isFinite with
    | false =>
      rw [lay_of_not_isFinite finite]
      rfl
    | true =>
      have point := NumberLayout.point_or_exponent_lay isMarked_numberLayout finite
      have numeric := NumberLayout.isNumeric_lay isMarked_numberLayout finite
      rw [formOf_numeric (lay_ne_nil finite) numeric hs, if_pos point]
      rfl
  | text a => rfl
  | list xs => rfl
  | record fs => rfl

/-- The values of a kind. -/
def Form.Holds : Form → Json → Prop
  | .null, v => v.renderChars = "null".toList ∧ v.written = .null
  | .boolean, v => ∃ b, v = .boolean b
  | .integer, v => ∃ z, v = .integer z
  | .float, v => ∃ x, v = .float x ∧ x.isFinite = true
  | .text, v => ∃ a, v = .text a
  | .list, v => ∃ xs, v = .list xs
  | .record, v => ∃ fs, v = .record fs

theorem holds_form (v : Json) : v.form.Holds v := by
  cases v with
  | null => exact ⟨rfl, rfl⟩
  | float x =>
    rw [form]
    cases finite : x.isFinite with
    | false => exact ⟨by rw [renderChars, lay_of_not_isFinite finite], by rw [written, finite]; rfl⟩
    | true => exact ⟨x, rfl, finite⟩
  | _ => exact ⟨_, rfl⟩

/-- Values of one text are of one kind. -/
theorem holds_of_render (hs : Ended s) (ht : Ended t)
    (h : v.renderChars ++ s = w.renderChars ++ t) :
    v.form.Holds w := by
  have same : v.form = w.form := by rw [← formOf_render v hs, ← formOf_render w ht, h]
  rw [same]
  exact holds_form w

/-! ## Values -/

theorem ended_moreItems (xs : List Json) (s : List Char) : Ended (moreItems xs ++ ']' :: s) := by
  cases xs with
  | nil => exact ended_cons rfl _
  | cons x xs => exact ended_cons rfl _

theorem ended_moreFields (fs : List (String × Json)) (s : List Char) :
    Ended (moreFields fs ++ '\x7d' :: s) := by
  cases fs with
  | nil => exact ended_cons rfl _
  | cons f fs => exact ended_cons rfl _

theorem numeric_ne_end {a : List Char} (nonempty : a ≠ []) (ha : ∀ c ∈ a, isNumeric c = true)
    (s t : List Char) : a ++ s ≠ ']' :: t := by
  obtain ⟨c, cs, rfl⟩ := List.exists_cons_of_ne_nil nonempty
  intro h
  have first := ha c List.mem_cons_self
  rw [(List.cons.inj h).1] at first
  cases first

/-- No value begins with the end of a list. -/
theorem render_ne_end (v : Json) (s t : List Char) : v.renderChars ++ s ≠ ']' :: t := by
  have kind := holds_form v
  generalize v.form = f at kind
  cases f with
  | null =>
    rw [kind.1]
    exact fun h => by cases h
  | boolean =>
    obtain ⟨b, rfl⟩ := kind
    cases b <;> exact fun h => by cases h
  | integer =>
    obtain ⟨z, rfl⟩ := kind
    exact numeric_ne_end (toString_ne_nil z) (isNumeric_toString z) s t
  | float =>
    obtain ⟨x, rfl, finite⟩ := kind
    exact numeric_ne_end (lay_ne_nil finite)
      (NumberLayout.isNumeric_lay isMarked_numberLayout finite) s t
  | text =>
    obtain ⟨a, rfl⟩ := kind
    exact fun h => by cases h
  | list =>
    obtain ⟨xs, rfl⟩ := kind
    exact fun h => by cases h
  | record =>
    obtain ⟨fs, rfl⟩ := kind
    exact fun h => by cases h

mutual

/-- The value at the beginning of a text, and what comes after it. -/
theorem render_unambiguous : ∀ (v w : Json) {s t : List Char}, Ended s → Ended t →
    v.renderChars ++ s = w.renderChars ++ t → v.written = w.written ∧ s = t
  | .null, w, s, t, hs, ht, h => by
    obtain ⟨text, value⟩ : Form.null.Holds w := holds_of_render hs ht h
    rw [text] at h
    exact ⟨value.symm, List.append_cancel_left h⟩
  | .boolean b, w, s, t, hs, ht, h => by
    obtain ⟨b', rfl⟩ : Form.boolean.Holds w := holds_of_render hs ht h
    cases b with
    | false =>
      cases b' with
      | false => exact ⟨rfl, List.append_cancel_left h⟩
      | true => cases h
    | true =>
      cases b' with
      | false => cases h
      | true => exact ⟨rfl, List.append_cancel_left h⟩
  | .integer z, w, s, t, hs, ht, h => by
    obtain ⟨z', rfl⟩ : Form.integer.Holds w := holds_of_render hs ht h
    obtain ⟨text, rest⟩ :=
      numeric_unambiguous (isNumeric_toString z) (isNumeric_toString z') hs ht h
    exact ⟨by rw [toString_injective text], rest⟩
  | .float x, w, s, t, hs, ht, h => by
    have kind := holds_of_render hs ht h
    cases finite : x.isFinite with
    | false =>
      rw [form, finite] at kind
      obtain ⟨text, value⟩ : Form.null.Holds w := kind
      rw [renderChars, lay_of_not_isFinite finite, text] at h
      exact ⟨by rw [written, finite, value]; rfl, List.append_cancel_left h⟩
    | true =>
      rw [form, finite] at kind
      obtain ⟨y, rfl, finite'⟩ : Form.float.Holds w := kind
      obtain ⟨text, rest⟩ := numeric_unambiguous
        (NumberLayout.isNumeric_lay isMarked_numberLayout finite)
        (NumberLayout.isNumeric_lay isMarked_numberLayout finite') hs ht h
      have same := NumberLayout.lay_injective isMarked_numberLayout finite finite'
        (String.toList_inj.1 text)
      exact ⟨by rw [same], rest⟩
  | .text a, w, s, t, hs, ht, h => by
    obtain ⟨b, rfl⟩ : Form.text.Holds w := holds_of_render hs ht h
    obtain ⟨rfl, rest⟩ := quote_unambiguous h
    exact ⟨rfl, rest⟩
  | .list xs, w, s, t, hs, ht, h => by
    obtain ⟨ys, rfl⟩ : Form.list.Holds w := holds_of_render hs ht h
    have inner : renderItems xs ++ ']' :: s = renderItems ys ++ ']' :: t := by
      simpa [renderChars] using h
    match xs, ys, inner with
    | [], [], inner => exact ⟨rfl, (List.cons.inj inner).2⟩
    | [], y :: ys, inner =>
      rw [renderItems_cons, List.append_assoc] at inner
      exact absurd inner.symm (render_ne_end y _ _)
    | x :: xs, [], inner =>
      rw [renderItems_cons, List.append_assoc] at inner
      exact absurd inner (render_ne_end x _ _)
    | x :: xs, y :: ys, inner =>
      rw [renderItems_cons, renderItems_cons, List.append_assoc, List.append_assoc] at inner
      obtain ⟨first, inner⟩ :=
        render_unambiguous x y (ended_moreItems xs s) (ended_moreItems ys t) inner
      obtain ⟨others, rest⟩ := moreItems_unambiguous xs ys inner
      exact ⟨by rw [written, written, writtenItems, writtenItems, first, others], rest⟩
  | .record fs, w, s, t, hs, ht, h => by
    obtain ⟨gs, rfl⟩ : Form.record.Holds w := holds_of_render hs ht h
    have inner : renderFields fs ++ '\x7d' :: s = renderFields gs ++ '\x7d' :: t := by
      simpa [renderChars] using h
    match fs, gs, inner with
    | [], [], inner => exact ⟨rfl, (List.cons.inj inner).2⟩
    | [], (l, w) :: gs, inner =>
      rw [renderFields_cons] at inner
      cases inner
    | (k, v) :: fs, [], inner =>
      rw [renderFields_cons] at inner
      cases inner
    | (k, v) :: fs, (l, w) :: gs, inner =>
      rw [renderFields_cons, renderFields_cons, fieldChars, fieldChars] at inner
      simp only [List.append_assoc, List.cons_append] at inner
      obtain ⟨key, inner⟩ := quote_unambiguous inner
      obtain ⟨value, inner⟩ := render_unambiguous v w (ended_moreFields fs s)
        (ended_moreFields gs t) (List.cons.inj inner).2
      obtain ⟨others, rest⟩ := moreFields_unambiguous fs gs inner
      exact ⟨by rw [written, written, writtenFields, writtenFields, key, value, others], rest⟩

theorem moreItems_unambiguous : ∀ (xs ys : List Json) {s t : List Char},
    moreItems xs ++ ']' :: s = moreItems ys ++ ']' :: t → writtenItems xs = writtenItems ys ∧ s = t
  | [], [], s, t, h => ⟨rfl, (List.cons.inj h).2⟩
  | [], y :: ys, s, t, h => by cases h
  | x :: xs, [], s, t, h => by cases h
  | x :: xs, y :: ys, s, t, h => by
    have h : x.renderChars ++ (moreItems xs ++ ']' :: s) =
        y.renderChars ++ (moreItems ys ++ ']' :: t) := by
      simpa [moreItems] using h
    obtain ⟨first, h⟩ := render_unambiguous x y (ended_moreItems xs s) (ended_moreItems ys t) h
    obtain ⟨others, rest⟩ := moreItems_unambiguous xs ys h
    exact ⟨by rw [writtenItems, writtenItems, first, others], rest⟩

theorem moreFields_unambiguous : ∀ (fs gs : List (String × Json)) {s t : List Char},
    moreFields fs ++ '\x7d' :: s = moreFields gs ++ '\x7d' :: t →
      writtenFields fs = writtenFields gs ∧ s = t
  | [], [], s, t, h => ⟨rfl, (List.cons.inj h).2⟩
  | [], g :: gs, s, t, h => by cases h
  | f :: fs, [], s, t, h => by cases h
  | (k, v) :: fs, (l, w) :: gs, s, t, h => by
    have h : quote k ++ ':' :: (v.renderChars ++ (moreFields fs ++ '\x7d' :: s)) =
        quote l ++ ':' :: (w.renderChars ++ (moreFields gs ++ '\x7d' :: t)) := by
      simpa [moreFields, fieldChars] using h
    obtain ⟨key, h⟩ := quote_unambiguous h
    obtain ⟨value, h⟩ := render_unambiguous v w (ended_moreFields fs s) (ended_moreFields gs t)
      (List.cons.inj h).2
    obtain ⟨others, rest⟩ := moreFields_unambiguous fs gs h
    exact ⟨by rw [writtenFields, writtenFields, key, value, others], rest⟩

end

/-- Two values have the same text exactly if the same value is written. -/
theorem render_eq_iff : v.render = w.render ↔ v.written = w.written := by
  constructor
  · intro h
    have chars : v.renderChars ++ [] = w.renderChars ++ [] := by
      rw [List.append_nil, List.append_nil]
      exact String.ofList_inj.1 h
    exact (render_unambiguous v w ended_nil ended_nil chars).1
  · intro h
    rw [render, render, ← renderChars_written v, ← renderChars_written w, h]

end Json

end ComponentSpec
