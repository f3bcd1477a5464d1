import ViewQuery.Json.Printer

/-!
# The compact form of a value is one line

Strings are written with escapes for all control characters, and everything else that is written is
digits, signs, brackets and words. So there is no line break in a compact form, and values that are
written one to a line can be told apart.

* `allVisible_stringText`, `allVisible_text`: the characters of strings and of numbers;
* `allVisible_chars`: the characters of the compact form of a value.
-/

namespace ViewQuery.Json

/-- A character that is no control character of the first 32. -/
def IsVisible (c : Char) : Prop := 0x20 ≤ c.toNat

instance (c : Char) : Decidable (IsVisible c) := inferInstanceAs (Decidable (_ ≤ _))

/-- Characters none of which is a control character. -/
def AllVisible (cs : List Char) : Prop := ∀ c ∈ cs, IsVisible c

instance (cs : List Char) : Decidable (AllVisible cs) := List.decidableBAll IsVisible cs

@[simp] theorem allVisible_nil : AllVisible [] := fun _ hc => absurd hc List.not_mem_nil

@[simp] theorem allVisible_cons_iff {c : Char} {cs : List Char} :
    AllVisible (c :: cs) ↔ IsVisible c ∧ AllVisible cs := List.forall_mem_cons

@[simp] theorem allVisible_append_iff {cs ds : List Char} :
    AllVisible (cs ++ ds) ↔ AllVisible cs ∧ AllVisible ds := List.forall_mem_append

theorem allVisible_ite {p : Prop} [Decidable p] {cs ds : List Char} (hcs : AllVisible cs)
    (hds : ¬ p → AllVisible ds) : AllVisible (if p then cs else ds) := by
  by_cases hp : p
  · rwa [if_pos hp]
  · rw [if_neg hp]
    exact hds hp

theorem AllVisible.of_subset {cs ds : List Char} (h : AllVisible ds) (hs : cs ⊆ ds) :
    AllVisible cs := fun c hc => h c (hs hc)

/-! ## Digits -/

theorem isVisible_of_isDigit {c : Char} (h : c.isDigit = true) : IsVisible c := by
  have hc : 48 ≤ c.toNat := (by simpa [Char.isDigit] using h : 48 ≤ c.val ∧ c.val ≤ 57).1
  exact Nat.le_trans (by decide) hc

theorem allVisible_toDigits (n : Nat) : AllVisible (Nat.toDigits 10 n) := fun _ hc =>
  isVisible_of_isDigit (Nat.isDigit_of_mem_toDigits (by decide) (by decide) hc)

theorem isVisible_digitChar {d : Nat} (hd : d < 16) : IsVisible (Nat.digitChar d) := by
  have hall : ∀ d < 16, IsVisible (Nat.digitChar d) := by decide
  exact hall d hd

theorem allVisible_replicate_zero (n : Nat) : AllVisible (List.replicate n '0') := fun c hc => by
  rw [List.eq_of_mem_replicate hc]
  decide

/-! ## Strings -/

/-- Every control character has an escape, which is made of other characters. -/
theorem allVisible_escaped (c : Char) : AllVisible (escaped c) := by
  unfold escaped
  iterate 7 refine allVisible_ite (by decide) fun _ => ?_
  by_cases hlow : c.toNat < 0x20
  · rw [if_pos hlow]
    simp only [allVisible_append_iff, allVisible_cons_iff]
    have hhigh : c.toNat / 16 < 16 := Nat.div_lt_of_lt_mul (Nat.lt_trans hlow (by decide))
    exact ⟨by decide, isVisible_digitChar hhigh, isVisible_digitChar (Nat.mod_lt _ (by decide)),
      allVisible_nil⟩
  · rw [if_neg hlow, allVisible_cons_iff]
    exact ⟨Nat.le_of_not_lt hlow, allVisible_nil⟩

theorem allVisible_stringText (s : String) : AllVisible (stringText s) := by
  have hbody : AllVisible (s.toList.flatMap escaped) := by
    intro c hc
    obtain ⟨d, -, hd⟩ := List.mem_flatMap.1 hc
    exact allVisible_escaped d c hd
  simp only [stringText, List.cons_append, allVisible_cons_iff, allVisible_append_iff, hbody]
  decide

/-! ## Numbers -/

theorem allVisible_shortest (significand : Nat) (exponent : Int) :
    AllVisible (Number.shortest significand exponent).1 := by
  -- The digits of a whole number, without the zeros at its end.
  intro c hc
  have hmem := (List.dropWhile_sublist _).subset (List.mem_reverse.1 hc)
  exact allVisible_toDigits _ c (List.mem_reverse.1 hmem)

theorem allVisible_plainDecimal {digits : List Char} (h : AllVisible digits) (power : Int) :
    AllVisible (plainDecimal digits power) := by
  unfold plainDecimal
  refine allVisible_ite ?_ fun _ => allVisible_ite ?_ fun _ => ?_
  · simp only [allVisible_append_iff, allVisible_replicate_zero, h]
    decide
  · simp only [allVisible_append_iff, allVisible_replicate_zero, h]
    decide
  · rw [allVisible_append_iff, allVisible_cons_iff]
    exact ⟨h.of_subset (List.take_subset ..), by decide, h.of_subset (List.drop_subset ..)⟩

theorem allVisible_scientificDecimal {digits : List Char} (h : AllVisible digits) (power : Int) :
    AllVisible (scientificDecimal digits power) := by
  have hsign : IsVisible (if power < 0 then '-' else '+') := by split <;> decide
  unfold scientificDecimal
  dsimp only
  rw [allVisible_append_iff, allVisible_append_iff, allVisible_cons_iff, allVisible_cons_iff]
  refine ⟨⟨?_, by decide, hsign, allVisible_nil⟩, allVisible_toDigits _⟩
  split
  · rw [allVisible_cons_iff] at h ⊢
    rw [allVisible_cons_iff]
    exact ⟨h.1, by decide, h.2⟩
  · exact h

theorem allVisible_doubleText (x : Number.Binary64) : AllVisible (doubleText x) := by
  unfold doubleText
  split
  · rename_i negative significand exponent
    have hsign : AllVisible (if negative then ['-'] else []) := by cases negative <;> decide
    refine allVisible_ite ?_ fun _ => ?_
    · rw [allVisible_append_iff]
      exact ⟨hsign, by decide⟩
    · have hdigits := allVisible_shortest significand exponent
      rw [allVisible_append_iff]
      exact ⟨hsign, allVisible_ite (allVisible_plainDecimal hdigits _) fun _ =>
        allVisible_scientificDecimal hdigits _⟩
  · decide

theorem allVisible_text (n : Number) : AllVisible n.text := by
  cases n with
  | integer i =>
    rw [Number.text, allVisible_append_iff]
    exact ⟨allVisible_ite (by decide) fun _ => allVisible_nil, allVisible_toDigits _⟩
  | double x => exact allVisible_doubleText x

/-! ## Values -/

mutual

/-- There is no control character in the compact form of a value. -/
theorem allVisible_chars : (value : Json) → AllVisible (chars value)
  | .null => by decide
  | .bool b => by cases b <;> decide
  | .number n => by
    rw [chars]
    exact allVisible_text n
  | .string s => by
    rw [chars]
    exact allVisible_stringText s
  | .array items => by
    simp only [chars, List.cons_append, allVisible_cons_iff, allVisible_append_iff,
      allVisible_itemChars items]
    decide
  | .object members => by
    simp only [chars, List.cons_append, allVisible_cons_iff, allVisible_append_iff,
      allVisible_memberChars members]
    decide

theorem allVisible_itemChars : (items : List Json) → AllVisible (itemChars items)
  | [] => by simp [itemChars]
  | [item] => by
    rw [itemChars]
    exact allVisible_chars item
  | item :: next :: rest => by
    simp only [itemChars, allVisible_append_iff, allVisible_cons_iff, allVisible_chars item,
      allVisible_itemChars (next :: rest)]
    decide

theorem allVisible_memberChars : (members : List (String × Json)) →
    AllVisible (memberChars members)
  | [] => by simp [memberChars]
  | [(key, value)] => by
    simp only [memberChars, allVisible_append_iff, allVisible_cons_iff, allVisible_chars value,
      allVisible_stringText key]
    decide
  | (key, value) :: next :: rest => by
    simp only [memberChars, List.append_assoc, List.cons_append, allVisible_append_iff,
      allVisible_cons_iff, allVisible_chars value, allVisible_stringText key,
      allVisible_memberChars (next :: rest)]
    decide

end

/-- The compact form of a value is one line. -/
theorem lineBreak_notMem_compact (value : Json) : '\n' ∉ value.compact.toList := by
  rw [compact, String.toList_ofList]
  exact fun h => absurd (allVisible_chars value _ h) (by decide)

end ViewQuery.Json
