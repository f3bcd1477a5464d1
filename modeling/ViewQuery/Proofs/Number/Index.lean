import ViewQuery.Number.Index
import ViewQuery.Text.Blank

/-!
# Reading indexes back

An index that is written in decimal digits is read back, and what is read as an index holds nothing
but digits and a plus sign.

* `readIndex_repr_eq`: a written number is read back if it lies below the bound;
* `readIndex_eq_some_iff`: how an index is written;
* `isDigit_of_readIndex`: the characters of an index.
-/

namespace ViewQuery.Number

theorem ofDigits_toDigits (n : Nat) : ofDigits (Nat.toDigits 10 n) = n :=
  Nat.ofDigitChars_toDigits (by decide) (by decide)

theorem isDigit_of_mem_repr {n : Nat} {c : Char} (h : c ∈ (toString n).toList) :
    c.isDigit = true := by
  rw [Nat.toString_eq_repr, Nat.toList_repr] at h
  exact Nat.isDigit_of_mem_toDigits (by decide) (by decide) h

theorem isBlank_of_isDigit {c : Char} (h : c.isDigit = true) : Text.isBlank c = false := by
  have hdigit : 48 ≤ c.toNat ∧ c.toNat ≤ 57 := by
    simpa [Char.isDigit, UInt32.le_iff_toNat_le] using h
  simp [Text.isBlank]
  omega

theorem isBlank_of_mem_repr {n : Nat} {c : Char} (h : c ∈ (toString n).toList) :
    Text.isBlank c = false :=
  isBlank_of_isDigit (isDigit_of_mem_repr h)

/-- A number that is written in decimal digits is read back exactly if it lies below the bound. -/
theorem readIndex_repr_eq (n : Nat) :
    readIndex (toString n).toList = if n < indexBound then some n else none := by
  have hdigit := @isDigit_of_mem_repr n
  rw [Nat.toString_eq_repr, Nat.toList_repr] at hdigit ⊢
  cases hd : Nat.toDigits 10 n with
  | nil => exact absurd hd Nat.toDigits_ne_nil
  | cons c cs =>
    have hof : ofDigits (c :: cs) = n := by rw [← hd, ofDigits_toDigits]
    have hall : (c :: cs).all Char.isDigit = true := by
      rw [← hd, List.all_eq_true]
      exact fun c => hdigit
    have hc : c ≠ '+' := by
      rintro rfl
      simp at hall
    unfold readIndex
    split
    · rename_i rest hplus
      cases hplus
      exact absurd rfl hc
    · simp only [hall, hof, List.isEmpty_cons, Bool.not_true, Bool.or_self, Bool.false_eq_true,
        if_false]

/-- An index below the bound is read back. -/
theorem readIndex_repr {n : Nat} (h : n < indexBound) : readIndex (toString n).toList = some n := by
  rw [readIndex_repr_eq, if_pos h]

/-- Decimal digits with a value below the bound. -/
structure IsIndex (digits : List Char) (n : Nat) : Prop where
  ne_nil : digits ≠ []
  isDigit : ∀ c ∈ digits, c.isDigit = true
  value : ofDigits digits = n
  lt_bound : n < indexBound

/-- What is read as an index: digits, with a plus sign in front of them or none. -/
theorem readIndex_eq_some_iff {cs : List Char} {n : Nat} :
    readIndex cs = some n ↔
      ∃ sign digits, (sign = [] ∨ sign = ['+']) ∧ IsIndex digits n ∧ cs = sign ++ digits := by
  have hread (digits : List Char) :
      (if (digits.isEmpty || !digits.all Char.isDigit) = true then none
        else if ofDigits digits < indexBound then some (ofDigits digits) else none) = some n ↔
        IsIndex digits n := by
    constructor
    · intro h
      split at h
      · cases h
      · rename_i hdigits
        split at h
        · rename_i hlt
          obtain rfl := Option.some.inj h
          simp only [Bool.or_eq_true, List.isEmpty_iff, Bool.not_eq_true', not_or,
            Bool.not_eq_false] at hdigits
          exact ⟨hdigits.1, List.all_eq_true.1 hdigits.2, rfl, hlt⟩
        · cases h
    · rintro ⟨hne, hall, rfl, hlt⟩
      rw [if_neg (by simpa [hne] using hall), if_pos hlt]
  unfold readIndex
  split
  · rename_i rest
    rw [hread]
    constructor
    · exact fun h => ⟨['+'], rest, .inr rfl, h, rfl⟩
    · rintro ⟨sign, digits, rfl | rfl, h, heq⟩
      · obtain rfl : digits = '+' :: rest := heq.symm
        exact absurd (h.isDigit '+' List.mem_cons_self) (by decide)
      · obtain rfl : digits = rest := (List.cons.inj heq).2.symm
        exact h
  · rename_i hplus
    rw [hread]
    constructor
    · exact fun h => ⟨[], cs, .inl rfl, h, rfl⟩
    · rintro ⟨sign, digits, rfl | rfl, h, rfl⟩
      · exact h
      · exact absurd rfl (hplus digits)

/-- What is read as an index is not empty, and holds nothing but digits and a plus sign. -/
theorem isDigit_of_readIndex {cs : List Char} {n : Nat} (h : readIndex cs = some n) :
    cs ≠ [] ∧ ∀ c ∈ cs, c.isDigit = true ∨ c = '+' := by
  obtain ⟨sign, digits, hsign, hdigits, rfl⟩ := readIndex_eq_some_iff.1 h
  refine ⟨fun hnil => hdigits.ne_nil (List.append_eq_nil_iff.1 hnil).2, fun c hc => ?_⟩
  rcases List.mem_append.1 hc with hc | hc
  · rcases hsign with rfl | rfl
    · cases hc
    · exact .inr (List.mem_singleton.1 hc)
  · exact .inl (hdigits.isDigit c hc)

end ViewQuery.Number
