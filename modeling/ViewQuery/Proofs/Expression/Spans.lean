import Mathlib.Logic.ExistsUnique
import ViewQuery.Proofs.Expression.Pieces

/-!
# Where a list is cut

The places of the pieces of a list in its text. Which characters lie in one piece can be read off
the text alone: two of them that follow each other, with at most blank characters in between, are
cut apart exactly when there is such a character, all parentheses are closed, and the second does
not open one.

* `CutInto`: the rule, for the places of all pieces;
* `CutInto.append`: texts that are cut by the rule can be put behind each other where a gap begins;
* `Pieces.exists_cutInto`: the pieces of a list are cut by the rule;
* `splitExpressions_cutInto`: so is every list, and its pieces are cut no further.
-/

namespace ViewQuery.Expression

open ViewQuery.Text (isBlank trim)

/-! ## Places -/

/-- How deep a text lies in front of the character at a place. -/
def depthAt (cs : List Char) (i : Nat) : Nat := depthAfterAll 0 (cs.take i)

/-- A comma outside of parentheses. -/
def IsComma (cs : List Char) (i : Nat) : Prop := cs[i]? = some ',' ∧ depthAt cs i = 0

/-- A character of a piece: neither blank nor a comma outside of parentheses. -/
structure IsContent (cs : List Char) (i : Nat) : Prop where
  exists_char : ∃ c, cs[i]? = some c ∧ isBlank c = false
  not_comma : ¬ IsComma cs i

/-- Nothing but blank characters stands strictly between two places. -/
def BlankBetween (cs : List Char) (i j : Nat) : Prop :=
  ∀ k, i < k → k < j → ∃ c, cs[k]? = some c ∧ isBlank c = true

/-- The places from `start` on in front of `stop`. -/
structure Span where
  start : Nat
  stop : Nat
  deriving DecidableEq, Repr

namespace Span

/-- The places include one. -/
def Covers (s : Span) (i : Nat) : Prop := s.start ≤ i ∧ i < s.stop

/-- The characters at the places. -/
def charsIn (cs : List Char) (s : Span) : List Char := (cs.take s.stop).drop s.start

/-- The text at the places. -/
def textIn (text : String) (s : Span) : String := .ofList (s.charsIn text.toList)

/-- The same places in a text with `n` more characters in front. -/
def shift (n : Nat) (s : Span) : Span := ⟨n + s.start, n + s.stop⟩

end Span

/-- A text is cut into the pieces at these places. -/
structure CutInto (cs : List Char) (spans : List Span) : Prop where
  /-- The pieces are in the text, in its order, and one ends before the next begins. -/
  stop_le : ∀ s ∈ spans, s.stop ≤ cs.length
  in_order : spans.Pairwise fun s s' => s.stop ≤ s'.start
  /-- A piece goes from a character of it to another one or the same. -/
  isContent_ends : ∀ s ∈ spans, s.start < s.stop ∧ IsContent cs s.start ∧ IsContent cs (s.stop - 1)
  /-- Every character that is neither blank nor a comma between pieces is in one piece. -/
  covered_once : ∀ i, IsContent cs i → ∃! s, s ∈ spans ∧ s.Covers i
  /-- A comma between pieces is in none. -/
  comma_outside : ∀ i, IsComma cs i → ∀ s ∈ spans, ¬ s.Covers i
  /-- The rule for neighbours. -/
  together_iff : ∀ i j, i < j → IsContent cs i → IsContent cs j → BlankBetween cs i j →
    ((∃ s ∈ spans, s.Covers i ∧ s.Covers j) ↔
      j = i + 1 ∨ 0 < depthAt cs (i + 1) ∨ cs[j]? = some '(')

variable {cs ds : List Char} {spans spans' : List Span} {i j : Nat}

/-! ## Texts behind each other -/

theorem depthAt_append_left (hi : i ≤ cs.length) : depthAt (cs ++ ds) i = depthAt cs i := by
  rw [depthAt, List.take_append_of_le_length hi, depthAt]

theorem depthAt_append_right (i : Nat) :
    depthAt (cs ++ ds) (cs.length + i) = depthAfterAll (depthAfterAll 0 cs) (ds.take i) := by
  rw [depthAt, List.take_length_add_append, depthAfterAll_append]

theorem getElem?_append_add (i : Nat) : (cs ++ ds)[cs.length + i]? = ds[i]? := by
  rw [List.getElem?_append_right (Nat.le_add_right ..), Nat.add_sub_cancel_left]

theorem IsContent.lt_length (h : IsContent cs i) : i < cs.length := by
  obtain ⟨⟨c, hc, -⟩, -⟩ := h
  exact (List.getElem?_eq_some_iff.1 hc).1

theorem isComma_append_left (hi : i < cs.length) : IsComma (cs ++ ds) i ↔ IsComma cs i := by
  rw [IsComma, List.getElem?_append_left hi, depthAt_append_left (Nat.le_of_lt hi), IsComma]

theorem isContent_append_left (hi : i < cs.length) : IsContent (cs ++ ds) i ↔ IsContent cs i := by
  constructor
  · rintro ⟨hc, hn⟩
    exact ⟨by rwa [List.getElem?_append_left hi] at hc, by rwa [isComma_append_left hi] at hn⟩
  · rintro ⟨hc, hn⟩
    exact ⟨by rwa [List.getElem?_append_left hi], by rwa [isComma_append_left hi]⟩

theorem not_isContent_of_blank (hd : ds.all isBlank) (i : Nat) : ¬ IsContent ds i := by
  rintro ⟨⟨c, hc, hb⟩, -⟩
  rw [List.all_eq_true.1 hd c (List.mem_of_getElem? hc)] at hb
  cases hb

theorem not_isComma_of_blank (hd : ds.all isBlank) (i : Nat) : ¬ IsComma ds i := by
  rintro ⟨hc, -⟩
  exact absurd (List.all_eq_true.1 hd _ (List.mem_of_getElem? hc)) (by decide)

/-- Behind a text that closes its parentheses, or in front of blank characters, commas are as they
are alone. -/
theorem isComma_append_right (h : depthAfterAll 0 cs = 0 ∨ ds.all isBlank) (i : Nat) :
    IsComma (cs ++ ds) (cs.length + i) ↔ IsComma ds i := by
  rcases h with h | h
  · rw [IsComma, getElem?_append_add, depthAt_append_right, h, IsComma, depthAt]
  · refine iff_of_false (fun hc => ?_) (not_isComma_of_blank h i)
    rw [IsComma, getElem?_append_add] at hc
    exact absurd (List.all_eq_true.1 h _ (List.mem_of_getElem? hc.1)) (by decide)

theorem isContent_append_right (h : depthAfterAll 0 cs = 0 ∨ ds.all isBlank) (i : Nat) :
    IsContent (cs ++ ds) (cs.length + i) ↔ IsContent ds i := by
  constructor
  · rintro ⟨hc, hn⟩
    exact ⟨by rwa [getElem?_append_add] at hc, by rwa [isComma_append_right h] at hn⟩
  · rintro ⟨hc, hn⟩
    exact ⟨by rwa [getElem?_append_add], by rwa [isComma_append_right h]⟩

theorem Span.charsIn_append_left {s : Span} (hs : s.stop ≤ cs.length) :
    s.charsIn (cs ++ ds) = s.charsIn cs := by
  rw [charsIn, List.take_append_of_le_length hs, charsIn]

theorem Span.charsIn_shift (s : Span) : (s.shift cs.length).charsIn (cs ++ ds) = s.charsIn ds := by
  rw [charsIn, shift, List.take_length_add_append, List.drop_length_add_append, charsIn]

theorem Span.covers_shift_iff {s : Span} {n : Nat} : (s.shift n).Covers (n + i) ↔ s.Covers i := by
  simp [Covers, shift]

theorem BlankBetween.of_append_right (h : BlankBetween (cs ++ ds) (cs.length + i) (cs.length + j)) :
    BlankBetween ds i j := by
  intro k hik hkj
  have hk := h (cs.length + k) (by omega) (by omega)
  rwa [getElem?_append_add] at hk

/-- Whether the next character that is not blank opens a parenthesis. -/
theorem opensNext_drop_iff {k : Nat} (hkj : k ≤ j)
    (hb : ∀ l, k ≤ l → l < j → ∃ c, cs[l]? = some c ∧ isBlank c = true)
    (hj : ∃ c, cs[j]? = some c ∧ isBlank c = false) :
    opensNext (cs.drop k) = true ↔ cs[j]? = some '(' := by
  obtain ⟨c, hc, hnot⟩ := hj
  have hsplit : cs.drop k = (cs.drop k).take (j - k) ++ c :: cs.drop (j + 1) := by
    have hdrop : (cs.drop k).drop (j - k) = c :: cs.drop (j + 1) := by
      obtain ⟨hlt, hget⟩ := List.getElem?_eq_some_iff.1 hc
      rw [List.drop_drop, Nat.add_sub_cancel' hkj, List.drop_eq_getElem_cons hlt, hget]
    rw [← hdrop, List.take_append_drop]
  have hblank : ((cs.drop k).take (j - k)).all isBlank := by
    rw [List.all_eq_true]
    intro d hd
    obtain ⟨l, hl⟩ := List.mem_iff_getElem?.1 hd
    rw [List.getElem?_take] at hl
    split at hl
    · rename_i hlt
      rw [List.getElem?_drop] at hl
      obtain ⟨e, he, hbe⟩ := hb (k + l) (Nat.le_add_right ..) (by omega)
      obtain rfl : e = d := Option.some.inj (he.symm.trans hl)
      exact hbe
    · cases hl
  rw [hsplit, opensNext_blank_append hblank, opensNext_cons_of_not_blank hnot, hc]
  simp

/-! ## Spans behind each other -/

section

variable {n : Nat}

theorem covers_of_mem_append_left (hi : i < n) {s : Span} :
    s ∈ spans ++ spans'.map (Span.shift n) ∧ s.Covers i ↔ s ∈ spans ∧ s.Covers i := by
  constructor
  · rintro ⟨hs, hc⟩
    rcases List.mem_append.1 hs with hs | hs
    · exact ⟨hs, hc⟩
    · obtain ⟨s', -, rfl⟩ := List.mem_map.1 hs
      have hstart : n + s'.start ≤ i := hc.1
      omega
  · rintro ⟨hs, hc⟩
    exact ⟨List.mem_append_left _ hs, hc⟩

theorem covers_of_mem_append_right (hstop : ∀ s ∈ spans, s.stop ≤ n) {s : Span} :
    s ∈ spans ++ spans'.map (Span.shift n) ∧ s.Covers (n + i) ↔
      ∃ s' ∈ spans', s'.Covers i ∧ s'.shift n = s := by
  constructor
  · rintro ⟨hs, hc⟩
    rcases List.mem_append.1 hs with hs | hs
    · have hle := hstop s hs
      have hlt : n + i < s.stop := hc.2
      omega
    · obtain ⟨s', hs', rfl⟩ := List.mem_map.1 hs
      exact ⟨s', hs', Span.covers_shift_iff.1 hc, rfl⟩
  · rintro ⟨s', hs', hc, rfl⟩
    exact ⟨List.mem_append_right _ (List.mem_map_of_mem hs'), Span.covers_shift_iff.2 hc⟩

end

/-- A text with no character of a piece. -/
theorem cutInto_nil (h : ∀ i, ¬ IsContent cs i) : CutInto cs [] where
  stop_le := by simp
  in_order := .nil
  isContent_ends := by simp
  covered_once i hi := absurd hi (h i)
  comma_outside := by simp
  together_iff i _ _ hi := absurd hi (h i)

theorem not_isContent_gap {c : Char} (hc : isGap c = true) (i : Nat) : ¬ IsContent [c] i := by
  rintro ⟨⟨d, hd, hb⟩, hn⟩
  obtain rfl : i = 0 := by
    have := (List.getElem?_eq_some_iff.1 hd).1
    simpa using this
  obtain rfl : c = d := by simpa using hd
  rw [isGap, hb, Bool.or_false, beq_iff_eq] at hc
  exact hn ⟨by rw [hc]; rfl, rfl⟩

/-- A gap cuts: of two characters of pieces, one in front of it and one behind, the rule says that
they are apart. -/
theorem not_together_of_gap (hclosed : depthAfterAll 0 cs = 0 ∨ ds.all isBlank)
    (hgap : ∀ c ∈ ds.head?, isGap c = true) (hopen : opensNext ds = false) (hi : IsContent cs i)
    (hj : IsContent ds j) (hb : BlankBetween (cs ++ ds) i (cs.length + j)) :
    ¬ (cs.length + j = i + 1 ∨ 0 < depthAt (cs ++ ds) (i + 1) ∨
      (cs ++ ds)[cs.length + j]? = some '(') := by
  have hlt := hi.lt_length
  have hzero : depthAfterAll 0 cs = 0 :=
    hclosed.resolve_right fun h => not_isContent_of_blank h j hj
  rintro (hnext | hdeep | hparen)
  · -- The second character would be the gap.
    obtain rfl : j = 0 := by omega
    obtain ⟨⟨c, hc, hbc⟩, hn⟩ := hj
    have hg := hgap c (by rwa [List.head?_eq_getElem?])
    rw [isGap, hbc, Bool.or_false, beq_iff_eq] at hg
    exact hn ⟨hg ▸ hc, rfl⟩
  · -- The parentheses are closed at the end of the first text, and nothing opens them before.
    have hblank : (cs.drop (i + 1)).all isBlank := by
      rw [List.all_eq_true]
      intro c hc
      obtain ⟨k, hk⟩ := List.mem_iff_getElem?.1 hc
      rw [List.getElem?_drop] at hk
      have hkl := (List.getElem?_eq_some_iff.1 hk).1
      obtain ⟨d, hd, hbd⟩ := hb (i + 1 + k) (by omega) (by omega)
      rw [List.getElem?_append_left hkl, hk, Option.some.injEq] at hd
      exact hd ▸ hbd
    have hdepth : depthAt cs (i + 1) = depthAfterAll 0 cs := by
      conv => rhs; rw [← List.take_append_drop (i + 1) cs, depthAfterAll_append]
      rw [depthAfterAll_of_blank hblank, depthAt]
    rw [depthAt_append_left hlt, hdepth, hzero] at hdeep
    exact Nat.lt_irrefl 0 hdeep
  · rw [getElem?_append_add, ← opensNext_drop_iff (Nat.zero_le j) (fun l _ hlj => ?_)
      hj.exists_char, List.drop_zero, hopen] at hparen
    · cases hparen
    · have hl := hb (cs.length + l) (by omega) (by omega)
      rwa [getElem?_append_add] at hl

/-- What the rule says of two neighbours. -/
def KeepsRule (cs : List Char) (spans : List Span) (i j : Nat) : Prop :=
  (∃ s ∈ spans, s.Covers i ∧ s.Covers j) ↔
    j = i + 1 ∨ 0 < depthAt cs (i + 1) ∨ cs[j]? = some '('

/-- Neighbours in the first of two texts. -/
theorem CutInto.keepsRule_left (h : CutInto cs spans) (hij : i < j) (hi : IsContent cs i)
    (hj : IsContent cs j) (hb : BlankBetween (cs ++ ds) i j) :
    KeepsRule (cs ++ ds) (spans ++ spans'.map (Span.shift cs.length)) i j := by
  have hside : BlankBetween cs i j := fun k hik hkj => by
    have hk := hb k hik hkj
    rwa [List.getElem?_append_left (Nat.lt_trans hkj hj.lt_length)] at hk
  rw [KeepsRule, depthAt_append_left hi.lt_length, List.getElem?_append_left hj.lt_length,
    ← h.together_iff i j hij hi hj hside]
  simp only [← and_assoc, covers_of_mem_append_left hi.lt_length]

/-- Neighbours in the second of two texts, if the first closes its parentheses. -/
theorem CutInto.keepsRule_right (h : CutInto cs spans) (h' : CutInto ds spans')
    (hclosed : depthAfterAll 0 cs = 0) (hij : i < j) (hi : IsContent ds i) (hj : IsContent ds j)
    (hb : BlankBetween (cs ++ ds) (cs.length + i) (cs.length + j)) :
    KeepsRule (cs ++ ds) (spans ++ spans'.map (Span.shift cs.length)) (cs.length + i)
      (cs.length + j) := by
  have hdepth : depthAt (cs ++ ds) (cs.length + i + 1) = depthAt ds (i + 1) := by
    rw [Nat.add_assoc, depthAt_append_right, hclosed, depthAt]
  have hnext : cs.length + j = cs.length + i + 1 ↔ j = i + 1 := by omega
  rw [KeepsRule, hdepth, getElem?_append_add, hnext,
    ← h'.together_iff i j hij hi hj hb.of_append_right]
  constructor
  · rintro ⟨s, hs, hci, hcj⟩
    obtain ⟨s', hs', hci', rfl⟩ := (covers_of_mem_append_right h.stop_le).1 ⟨hs, hci⟩
    exact ⟨s', hs', hci', Span.covers_shift_iff.1 hcj⟩
  · rintro ⟨s, hs, hci, hcj⟩
    exact ⟨s.shift cs.length, List.mem_append_right _ (List.mem_map_of_mem hs),
      Span.covers_shift_iff.2 hci, Span.covers_shift_iff.2 hcj⟩

/-- Neighbours in different texts, where the second begins with a gap. -/
theorem CutInto.keepsRule_across (h : CutInto cs spans)
    (hclosed : depthAfterAll 0 cs = 0 ∨ ds.all isBlank) (hgap : ∀ c ∈ ds.head?, isGap c = true)
    (hopen : opensNext ds = false) (hi : IsContent cs i) (hj : IsContent ds j)
    (hb : BlankBetween (cs ++ ds) i (cs.length + j)) :
    KeepsRule (cs ++ ds) (spans ++ spans'.map (Span.shift cs.length)) i (cs.length + j) := by
  refine iff_of_false ?_ (not_together_of_gap hclosed hgap hopen hi hj hb)
  rintro ⟨s, hs, hci, hcj⟩
  have hstop := h.stop_le s ((covers_of_mem_append_left hi.lt_length).1 ⟨hs, hci⟩).1
  have hlt : cs.length + j < s.stop := hcj.2
  omega

/-- Texts that are cut by the rule can be put behind each other: the first closes its parentheses,
and the second begins with a gap if there is a piece in front of it. -/
theorem CutInto.append (h : CutInto cs spans) (h' : CutInto ds spans')
    (hclosed : depthAfterAll 0 cs = 0 ∨ ds.all isBlank)
    (hgap : spans ≠ [] → (∀ c ∈ ds.head?, isGap c = true) ∧ opensNext ds = false) :
    CutInto (cs ++ ds) (spans ++ spans'.map (Span.shift cs.length)) where
  stop_le s hs := by
    rw [List.length_append]
    rcases List.mem_append.1 hs with hs | hs
    · exact Nat.le_add_right_of_le (h.stop_le s hs)
    · obtain ⟨s', hs', rfl⟩ := List.mem_map.1 hs
      exact Nat.add_le_add_left (h'.stop_le s' hs') _
  in_order := by
    refine List.pairwise_append.2 ⟨h.in_order, List.pairwise_map.2 (h'.in_order.imp ?_), ?_⟩
    · exact fun hle => Nat.add_le_add_left hle _
    · intro s hs t ht
      obtain ⟨t', -, rfl⟩ := List.mem_map.1 ht
      exact Nat.le_add_right_of_le (h.stop_le s hs)
  isContent_ends s hs := by
    rcases List.mem_append.1 hs with hs | hs
    · obtain ⟨hlt, hstart, hstop⟩ := h.isContent_ends s hs
      rw [isContent_append_left hstart.lt_length, isContent_append_left hstop.lt_length]
      exact ⟨hlt, hstart, hstop⟩
    · obtain ⟨s', hs', rfl⟩ := List.mem_map.1 hs
      obtain ⟨hlt, hstart, hstop⟩ := h'.isContent_ends s' hs'
      have hlast : (s'.shift cs.length).stop - 1 = cs.length + (s'.stop - 1) := by
        simp only [Span.shift]
        omega
      rw [hlast, isContent_append_right hclosed]
      exact ⟨Nat.add_lt_add_left hlt _, (isContent_append_right hclosed _).2 hstart, hstop⟩
  covered_once i hi := by
    rcases Nat.lt_or_ge i cs.length with hlt | hge
    · simp only [covers_of_mem_append_left hlt]
      exact h.covered_once i ((isContent_append_left hlt).1 hi)
    · obtain ⟨k, rfl⟩ := Nat.exists_eq_add_of_le hge
      obtain ⟨s, ⟨hs, hc⟩, hu⟩ := h'.covered_once k ((isContent_append_right hclosed k).1 hi)
      simp only [covers_of_mem_append_right h.stop_le]
      refine ⟨s.shift cs.length, ⟨s, hs, hc, rfl⟩, ?_⟩
      rintro _ ⟨s', hs', hc', rfl⟩
      rw [hu s' ⟨hs', hc'⟩]
  comma_outside i hi s hs hc := by
    rcases Nat.lt_or_ge i cs.length with hlt | hge
    · obtain ⟨hs, hc⟩ := (covers_of_mem_append_left hlt).1 ⟨hs, hc⟩
      exact h.comma_outside i ((isComma_append_left hlt).1 hi) s hs hc
    · obtain ⟨k, rfl⟩ := Nat.exists_eq_add_of_le hge
      obtain ⟨s', hs', hc', -⟩ := (covers_of_mem_append_right h.stop_le).1 ⟨hs, hc⟩
      exact h'.comma_outside k ((isComma_append_right hclosed k).1 hi) s' hs' hc'
  together_iff i j hij hi hj hb := by
    rcases Nat.lt_or_ge j cs.length with hjlt | hjge
    · exact h.keepsRule_left hij ((isContent_append_left (Nat.lt_trans hij hjlt)).1 hi)
        ((isContent_append_left hjlt).1 hj) hb
    · obtain ⟨l, rfl⟩ := Nat.exists_eq_add_of_le hjge
      rw [isContent_append_right hclosed] at hj
      rcases Nat.lt_or_ge i cs.length with hilt | hige
      · rw [isContent_append_left hilt] at hi
        have hne : spans ≠ [] := by
          obtain ⟨s, ⟨hs, -⟩, -⟩ := h.covered_once i hi
          exact List.ne_nil_of_mem hs
        exact h.keepsRule_across hclosed (hgap hne).1 (hgap hne).2 hi hj hb
      · obtain ⟨k, rfl⟩ := Nat.exists_eq_add_of_le hige
        rw [isContent_append_right hclosed] at hi
        have hzero : depthAfterAll 0 cs = 0 :=
          hclosed.resolve_right fun hblank => not_isContent_of_blank hblank l hj
        exact h.keepsRule_right h' hzero (Nat.lt_of_add_lt_add_left hij) hi hj hb

/-! ## Pieces -/

theorem Unbroken.not_isComma {p : List Char} (hu : Unbroken p) (i : Nat) : ¬ IsComma p i := by
  rintro ⟨hc, hdepth⟩
  obtain ⟨hi, hget⟩ := List.getElem?_eq_some_iff.1 hc
  have hsplit : p = p.take i ++ ',' :: p.drop (i + 1) := by
    rw [← hget, ← List.drop_eq_getElem_cons hi, List.take_append_drop]
  exact (hu.held _ _ _ hsplit hdepth).1 rfl

/-- A text that nothing cuts is one piece by the rule. -/
theorem Unbroken.cutInto {p : List Char} (hu : Unbroken p) : CutInto p [⟨0, p.length⟩] := by
  have hpos : 0 < p.length := List.length_pos_iff.2 hu.ne_nil
  have hcontent : ∀ {i c}, p[i]? = some c → isBlank c = false → IsContent p i :=
    fun hc hb => ⟨⟨_, hc, hb⟩, hu.not_isComma _⟩
  have hfirst : IsContent p 0 := by
    have hhead := Text.not_blank_head_of_trim_eq hu.trim_eq
    rw [List.head?_eq_getElem?] at hhead
    exact hcontent (List.getElem?_eq_getElem hpos) (hhead _ (List.getElem?_eq_getElem hpos))
  have hlast : IsContent p (p.length - 1) := by
    have hlast := Text.not_blank_getLast_of_trim_eq hu.trim_eq
    rw [List.getLast?_eq_getElem?] at hlast
    have hlt : p.length - 1 < p.length := Nat.sub_lt hpos Nat.one_pos
    exact hcontent (List.getElem?_eq_getElem hlt) (hlast _ (List.getElem?_eq_getElem hlt))
  have hcovers : ∀ {i}, IsContent p i → Span.Covers ⟨0, p.length⟩ i :=
    fun hi => ⟨Nat.zero_le _, hi.lt_length⟩
  refine ⟨by simp, List.pairwise_singleton .., ?_, fun i hi => ?_, ?_, ?_⟩
  · rintro s hs
    obtain rfl := List.mem_singleton.1 hs
    exact ⟨hpos, hfirst, hlast⟩
  · exact ⟨⟨0, p.length⟩, ⟨List.mem_singleton_self _, hcovers hi⟩,
      fun s hs => List.mem_singleton.1 hs.1⟩
  · exact fun i hi => absurd hi (hu.not_isComma i)
  · intro i j hij hi hj hb
    refine iff_of_true ⟨_, List.mem_singleton_self _, hcovers hi, hcovers hj⟩ ?_
    -- Where there are blank characters in between, the first of them does not cut.
    by_cases hnext : j = i + 1
    · exact .inl hnext
    · refine .inr ?_
      rcases Nat.eq_zero_or_pos (depthAt p (i + 1)) with hzero | hdeep
      · refine .inr ?_
        obtain ⟨c, hc, hbc⟩ := hb (i + 1) (Nat.lt_succ_self i) (by omega)
        obtain ⟨hlt, hget⟩ := List.getElem?_eq_some_iff.1 hc
        have hsplit : p = p.take (i + 1) ++ c :: p.drop (i + 2) := by
          rw [← hget, ← List.drop_eq_getElem_cons hlt, List.take_append_drop]
        have hopen := (hu.held _ _ _ hsplit hzero).2 hbc
        rw [List.append_nil] at hopen
        exact (opensNext_drop_iff (by omega) (fun l hl hlj => hb l (by omega) hlj)
          hj.exists_char).1 hopen
      · exact .inl hdeep

/-- The pieces of a list are cut by the rule. -/
theorem Pieces.exists_cutInto {ps : List (List Char)} (h : Pieces cs ps) :
    ∃ spans, ps = spans.map (Span.charsIn cs) ∧ CutInto cs spans := by
  have hshift : ∀ (front : List Char) {rest : List Char} (spans : List Span),
      (spans.map (Span.shift front.length)).map (Span.charsIn (front ++ rest)) =
        spans.map (Span.charsIn rest) := by
    intro front rest spans
    rw [List.map_map]
    exact List.map_congr_left fun s _ => s.charsIn_shift
  induction h with
  | nil => exact ⟨[], rfl, cutInto_nil fun i hi => absurd hi.lt_length (Nat.not_lt_zero i)⟩
  | @gap c rest ps hc _ ih =>
    obtain ⟨spans, rfl, hcut⟩ := ih
    have hdepth : depthAfterAll 0 [c] = 0 := depthAfter_of_gap hc 0
    exact ⟨spans.map (Span.shift [c].length), (hshift [c] spans).symm,
      (cutInto_nil (not_isContent_gap hc)).append hcut (.inl hdepth) fun hne => absurd rfl hne⟩
  | @piece p rest ps hu he _ ih =>
    obtain ⟨spans, rfl, hcut⟩ := ih
    refine ⟨⟨0, p.length⟩ :: spans.map (Span.shift p.length), ?_,
      hu.cutInto.append hcut he.closed fun _ => ⟨he.isGap_head, he.opensNext_eq⟩⟩
    rw [List.map_cons, hshift, Span.charsIn_append_left (Nat.le_refl _), Span.charsIn,
      List.take_length, List.drop_zero]

/-! ## Lists -/

/-- Every list is cut by the rule, and its pieces are cut no further. -/
theorem splitExpressions_cutInto (text : String) :
    (∃ spans, splitExpressions text = spans.map (Span.textIn text) ∧
        CutInto text.toList spans) ∧
      ∀ piece ∈ splitExpressions text, splitExpressions piece = [piece] := by
  have hpieces := pieces_splitFrom_zero text.toList
  constructor
  · obtain ⟨spans, hspans, hcut⟩ := hpieces.exists_cutInto
    refine ⟨spans, ?_, hcut⟩
    rw [splitExpressions, hspans, List.map_map]
    rfl
  · intro piece hpiece
    obtain ⟨p, hp, rfl⟩ := List.mem_map.1 hpiece
    rw [splitExpressions, String.toList_ofList, splitFrom_of_unbroken (hpieces.unbroken p hp)]
    rfl

/-- A closing parenthesis without its partner changes nothing, an argument list stays with what is
in front of it, and a parenthesis that is not closed keeps all the rest together. -/
theorem splitExpressions_cutInto_unbalanced :
    let text := " a) b (c, d)  ,(e f"
    splitExpressions text = ["a)", "b (c, d)", "(e f"] ∧ splitExpressions "(e f" = ["(e f"] :=
  ⟨rfl, (splitExpressions_cutInto " a) b (c, d)  ,(e f").2 "(e f" (by decide)⟩

end ViewQuery.Expression
