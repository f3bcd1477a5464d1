import ViewQuery.Text.Blank

/-!
# Trimming and cutting

How trimming goes together with a character that is not blank: what stands in front of it is
trimmed at its start only, and what follows it at its end only.

* `exists_eq_append_trimStart`, `exists_eq_trimEnd_append`, `exists_eq_append_trim`: what trimming
  takes away is blank;
* `not_blank_head_of_trim_eq`, `not_blank_getLast_of_trim_eq`: the ends of a trimmed text;
* `trimEnd_cons_congr`: the trimmed end of a text is fixed by its first character and the trimmed
  end of the rest;
* `trim_append_cons`: trimming a text around a character that is not blank.
-/

namespace ViewQuery.Text

theorem trimStart_cons_of_blank {c : Char} (h : isBlank c = true) (cs : List Char) :
    trimStart (c :: cs) = trimStart cs := by
  simp [trimStart, h]

theorem trimStart_cons_of_not_blank {c : Char} (h : isBlank c = false) (cs : List Char) :
    trimStart (c :: cs) = c :: cs := by
  simp [trimStart, h]

theorem trim_cons_of_blank {c : Char} (h : isBlank c = true) (cs : List Char) :
    trim (c :: cs) = trim cs := by
  rw [trim, trimStart_cons_of_blank h, trim]

theorem exists_eq_append_trimStart (cs : List Char) :
    ∃ bs : List Char, bs.all isBlank ∧ cs = bs ++ trimStart cs :=
  ⟨cs.takeWhile isBlank, List.all_takeWhile, (List.takeWhile_append_dropWhile ..).symm⟩

theorem exists_eq_trimEnd_append (cs : List Char) :
    ∃ bs : List Char, bs.all isBlank ∧ cs = trimEnd cs ++ bs := by
  obtain ⟨bs, hb, h⟩ := exists_eq_append_trimStart cs.reverse
  refine ⟨bs.reverse, by simpa using hb, ?_⟩
  have := congrArg List.reverse h
  rwa [List.reverse_reverse, List.reverse_append] at this

/-- What trimming takes away is blank, in front and behind. -/
theorem exists_eq_append_trim (cs : List Char) :
    ∃ front back : List Char, front.all isBlank ∧ back.all isBlank ∧
      cs = front ++ trim cs ++ back := by
  obtain ⟨front, hf, hstart⟩ := exists_eq_append_trimStart cs
  obtain ⟨back, hb, hend⟩ := exists_eq_trimEnd_append (trimStart cs)
  refine ⟨front, back, hf, hb, ?_⟩
  rw [List.append_assoc, trim, ← hend, ← hstart]

theorem trim_trimEnd (cs : List Char) : trim (trimEnd cs) = trim cs := by
  obtain ⟨bs, hb, h⟩ := exists_eq_trimEnd_append cs
  calc trim (trimEnd cs) = trim (trimEnd cs ++ bs) := (trim_append_blank _ _ hb).symm
    _ = trim cs := by rw [← h]

theorem trim_trimStart (cs : List Char) : trim (trimStart cs) = trim cs := by
  obtain ⟨bs, hb, h⟩ := exists_eq_append_trimStart cs
  calc trim (trimStart cs) = trim (bs ++ trimStart cs) := (trim_blank_append _ _ hb).symm
    _ = trim cs := by rw [← h]

theorem trim_trim (cs : List Char) : trim (trim cs) = trim cs :=
  (trim_trimEnd (trimStart cs)).trans (trim_trimStart cs)

/-- Trimming takes nothing away from a text without blank characters. -/
theorem trim_eq_self {cs : List Char} (h : ∀ c ∈ cs, isBlank c = false) : trim cs = cs := by
  have hdrop : ∀ ds : List Char, (∀ c ∈ ds, isBlank c = false) → ds.dropWhile isBlank = ds := by
    intro ds hds
    cases ds with
    | nil => rfl
    | cons c ds => rw [List.dropWhile_cons, hds c List.mem_cons_self, if_neg Bool.false_ne_true]
  have hreverse : ∀ c ∈ cs.reverse, isBlank c = false := fun c hc => h c (List.mem_reverse.1 hc)
  rw [trim, trimStart, hdrop cs h, trimEnd, hdrop _ hreverse, List.reverse_reverse]

theorem length_trim_le (cs : List Char) : (trim cs).length ≤ cs.length := by
  obtain ⟨front, -, hstart⟩ := exists_eq_append_trimStart cs
  obtain ⟨back, -, hend⟩ := exists_eq_trimEnd_append (trimStart cs)
  have hlength := congrArg List.length hstart
  rw [hend, ← trim, List.length_append, List.length_append] at hlength
  omega

/-- A trimmed text does not begin with a blank character. -/
theorem not_blank_head_of_trim_eq {cs : List Char} (h : trim cs = cs) :
    ∀ c ∈ cs.head?, isBlank c = false := by
  intro c hc
  obtain ⟨rest, rfl⟩ : ∃ rest, cs = c :: rest := List.head?_eq_some_iff.1 hc
  cases hb : isBlank c with
  | false => rfl
  | true =>
    have hle := length_trim_le rest
    rw [← trim_cons_of_blank hb, h, List.length_cons] at hle
    omega

/-- A trimmed text does not end with a blank character. -/
theorem not_blank_getLast_of_trim_eq {cs : List Char} (h : trim cs = cs) :
    ∀ c ∈ cs.getLast?, isBlank c = false := by
  intro c hc
  obtain ⟨front, rfl⟩ : ∃ front, cs = front ++ [c] := List.getLast?_eq_some_iff.1 hc
  cases hb : isBlank c with
  | false => rfl
  | true =>
    have hle := length_trim_le front
    rw [← trim_append_blank front [c] (by simp [hb]), h, List.length_append] at hle
    exact absurd hle (Nat.not_succ_le_self _)

theorem trim_ne_nil_of_not_blank_head {cs : List Char} (hne : cs ≠ [])
    (h : ∀ c ∈ cs.head?, isBlank c = false) : trim cs ≠ [] := by
  obtain ⟨c, rest, rfl⟩ := List.exists_cons_of_ne_nil hne
  rw [ne_eq, trim_eq_nil_iff, List.all_cons, h c rfl, Bool.false_and]
  exact Bool.false_ne_true

/-- Trimming keeps the characters that are not blank. -/
theorem mem_trim_iff {c : Char} (h : isBlank c = false) {cs : List Char} :
    c ∈ trim cs ↔ c ∈ cs := by
  have hnot : ∀ bs : List Char, bs.all isBlank → c ∉ bs := fun bs hb hc => by
    simp [List.all_eq_true.1 hb c hc] at h
  obtain ⟨front, hf, hstart⟩ := exists_eq_append_trimStart cs
  obtain ⟨back, hb, hend⟩ := exists_eq_trimEnd_append (trimStart cs)
  calc c ∈ trim cs ↔ c ∈ trimStart cs := by
        rw [hend, List.mem_append, or_iff_left (hnot back hb), ← trim]
    _ ↔ c ∈ cs := by
        rw [hstart, List.mem_append, or_iff_right (hnot front hf), ← hstart]

/-- Trimming the end of a text looks at the end of its rest first. -/
theorem trimEnd_cons (c : Char) (cs : List Char) :
    trimEnd (c :: cs) =
      if trimEnd cs = [] then (if isBlank c then [] else [c]) else c :: trimEnd cs := by
  simp only [trimEnd, List.reverse_cons, List.dropWhile_append, List.isEmpty_iff,
    List.reverse_eq_nil_iff]
  split
  · by_cases hc : isBlank c = true <;> simp [hc]
  · simp

theorem trimEnd_cons_congr (c : Char) {cs ds : List Char} (h : trimEnd cs = trimEnd ds) :
    trimEnd (c :: cs) = trimEnd (c :: ds) := by
  rw [trimEnd_cons, trimEnd_cons, h]

theorem trimEnd_cons_of_not_blank {c : Char} (h : isBlank c = false) (cs : List Char) :
    trimEnd (c :: cs) = c :: trimEnd cs := by
  rw [trimEnd_cons]
  split
  · rename_i hn
    simp [h, hn]
  · rfl

theorem trimStart_append_cons {c : Char} (h : isBlank c = false) (cs ds : List Char) :
    trimStart (cs ++ c :: ds) = trimStart cs ++ c :: ds := by
  induction cs with
  | nil => exact trimStart_cons_of_not_blank h ds
  | cons d cs ih =>
    cases hd : isBlank d with
    | true => rw [List.cons_append, trimStart_cons_of_blank hd, trimStart_cons_of_blank hd, ih]
    | false =>
      rw [List.cons_append, trimStart_cons_of_not_blank hd, trimStart_cons_of_not_blank hd,
        List.cons_append]

theorem trimEnd_append_cons {c : Char} (h : isBlank c = false) (cs ds : List Char) :
    trimEnd (cs ++ c :: ds) = cs ++ c :: trimEnd ds := by
  induction cs with
  | nil => exact trimEnd_cons_of_not_blank h ds
  | cons d cs ih => rw [List.cons_append, trimEnd_cons, ih, if_neg (by simp), List.cons_append]

theorem trim_append_cons {c : Char} (h : isBlank c = false) (cs ds : List Char) :
    trim (cs ++ c :: ds) = trimStart cs ++ c :: trimEnd ds := by
  rw [trim, trimStart_append_cons h, trimEnd_append_cons h]

end ViewQuery.Text
