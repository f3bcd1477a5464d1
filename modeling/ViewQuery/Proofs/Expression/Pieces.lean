import Mathlib.Data.List.Chain
import ViewQuery.Proofs.Expression.Segments

/-!
# The pieces of a list

How a list of expressions falls into its pieces: gaps of commas and blank characters, and between
them texts that nothing cuts. A text is cut the same way whether it stands alone or in a list, since
a piece begins outside of parentheses and ends with a character that is not blank.

* `pieces_splitFrom`: cutting a list gives its pieces;
* `splitFrom_of_unbroken`: a text that nothing cuts is one piece;
* `splitFrom_append_gap`: where all parentheses are closed, a gap cuts, unless an opening
  parenthesis comes next;
* `splitFrom_intercalate`: pieces with gaps between them are cut there again.
-/

namespace ViewQuery.Expression

open ViewQuery.Text (isBlank trim trimStart trimEnd)

variable {depth : Nat} {c : Char} {cs ds p q rest : List Char} {ps : List (List Char)}

/-! ## Depth and blank characters -/

theorem depthAfterAll_append (depth : Nat) (cs ds : List Char) :
    depthAfterAll depth (cs ++ ds) = depthAfterAll (depthAfterAll depth cs) ds :=
  List.foldl_append ..

theorem depthAfterAll_of_blank (h : cs.all isBlank) (depth : Nat) :
    depthAfterAll depth cs = depth := by
  induction cs with
  | nil => rfl
  | cons c cs ih =>
    rw [List.all_cons, Bool.and_eq_true] at h
    rw [depthAfterAll, List.foldl_cons, depthAfter_of_blank h.1]
    exact ih h.2

theorem opensNext_cons_of_blank (hc : isBlank c = true) (cs : List Char) :
    opensNext (c :: cs) = opensNext cs := by
  simp [opensNext, hc]

theorem opensNext_cons_of_not_blank (hc : isBlank c = false) (cs : List Char) :
    opensNext (c :: cs) = (c == '(') := by
  simp [opensNext, hc]

theorem opensNext_blank_append (h : cs.all isBlank) (ds : List Char) :
    opensNext (cs ++ ds) = opensNext ds := by
  have h' : ∀ c ∈ cs, isBlank c = true := by simpa using h
  rw [opensNext, List.dropWhile_append_of_pos h', opensNext]

/-- What opens no parenthesis does not matter behind a text. -/
theorem opensNext_append (hd : opensNext ds = false) (cs : List Char) :
    opensNext (cs ++ ds) = opensNext cs := by
  induction cs with
  | nil => exact hd
  | cons c cs ih =>
    rw [List.cons_append]
    cases hc : isBlank c with
    | true => rw [opensNext_cons_of_blank hc, opensNext_cons_of_blank hc, ih]
    | false => rw [opensNext_cons_of_not_blank hc, opensNext_cons_of_not_blank hc]

/-! ## Pieces and gaps -/

/-- A character that cuts outside of parentheses. -/
def isGap (c : Char) : Bool := c == ',' || isBlank c

theorem isGap_iff : isGap c = true ↔ c = ',' ∨ isBlank c = true := by
  rw [isGap, Bool.or_eq_true, beq_iff_eq]

theorem isGap_of_blank (h : isBlank c = true) : isGap c = true :=
  isGap_iff.2 (.inr h)

theorem depthAfter_of_gap (h : isGap c = true) (depth : Nat) : depthAfter depth c = depth := by
  rcases isGap_iff.1 h with rfl | h
  · rfl
  · exact depthAfter_of_blank h depth

/-- No parenthesis opens next where a comma comes first, or none behind the gap. -/
theorem opensNext_gap_append (hc : isGap c = true) (hcs : cs.all isBlank)
    (hds : c = ',' ∨ opensNext ds = false) : opensNext (c :: (cs ++ ds)) = false := by
  rcases isGap_iff.1 hc with rfl | hblank
  · rfl
  · rcases hds with rfl | hds
    · rfl
    · rw [opensNext_cons_of_blank hblank, opensNext_blank_append hcs, hds]

/-- What holds a text together, with `rest` behind it: outside of parentheses it has no comma, and a
blank character only where a parenthesis opens next. -/
def HeldTogether (cs rest : List Char) : Prop :=
  ∀ x c y, cs = x ++ c :: y → depthAfterAll 0 x = 0 →
    c ≠ ',' ∧ (isBlank c = true → opensNext (y ++ rest) = true)

/-- A text that nothing cuts, without blank characters at its ends. -/
structure Unbroken (p : List Char) : Prop where
  ne_nil : p ≠ []
  trim_eq : trim p = p
  held : HeldTogether p []

/-- A piece goes no further: behind it there is a gap, in front of which all parentheses are closed
unless nothing but blank characters follows. -/
structure EndsBefore (p rest : List Char) : Prop where
  isGap_head : ∀ c ∈ rest.head?, isGap c = true
  opensNext_eq : opensNext rest = false
  closed : depthAfterAll 0 p = 0 ∨ rest.all isBlank

/-- A list of expressions has these pieces. -/
inductive Pieces : List Char → List (List Char) → Prop where
  | nil : Pieces [] []
  | gap {c : Char} {cs : List Char} {ps : List (List Char)} :
    isGap c = true → Pieces cs ps → Pieces (c :: cs) ps
  | piece {p rest : List Char} {ps : List (List Char)} :
    Unbroken p → EndsBefore p rest → Pieces rest ps → Pieces (p ++ rest) (p :: ps)

theorem Pieces.blank_append (h : Pieces rest ps) (hc : cs.all isBlank) :
    Pieces (cs ++ rest) ps := by
  induction cs with
  | nil => exact h
  | cons c cs ih =>
    rw [List.all_cons, Bool.and_eq_true] at hc
    exact .gap (isGap_of_blank hc.1) (ih hc.2)

theorem Pieces.unbroken (h : Pieces cs ps) : ∀ p ∈ ps, Unbroken p := by
  induction h with
  | nil => exact fun p hp => absurd hp List.not_mem_nil
  | gap _ _ ih => exact ih
  | piece hu _ _ ih => exact List.forall_mem_cons.2 ⟨hu, ih⟩

theorem Pieces.eq_nil_of_blank (h : Pieces cs ps) (hc : cs.all isBlank) : ps = [] := by
  induction h with
  | nil => rfl
  | gap _ _ ih =>
    rw [List.all_cons, Bool.and_eq_true] at hc
    exact ih hc.2
  | piece hu _ _ _ =>
    rw [List.all_append, Bool.and_eq_true] at hc
    exact absurd (hu.trim_eq.symm.trans ((Text.trim_eq_nil_iff _).2 hc.1)) hu.ne_nil

/-- All pieces but the last one close their parentheses. -/
theorem Pieces.isChain_closed (h : Pieces cs ps) :
    ps.IsChain fun p _ => depthAfterAll 0 p = 0 := by
  induction h with
  | nil => exact .nil
  | gap _ _ ih => exact ih
  | @piece p rest ps _ he hrest ih =>
    cases ps with
    | nil => exact .singleton p
    | cons q ps =>
      refine .cons_cons (he.closed.resolve_right fun hb => ?_) ih
      exact List.cons_ne_nil q ps (hrest.eq_nil_of_blank hb)

/-! ## Cutting a list -/

/-- What has been read of a piece at a depth, with `rest` still to be read. -/
structure Begun (depth : Nat) (q rest : List Char) : Prop where
  depth_eq : depthAfterAll 0 q = depth
  not_blank_head : ∀ c ∈ q.head?, isBlank c = false
  held : HeldTogether q rest

theorem begun_nil (rest : List Char) : Begun 0 [] rest where
  depth_eq := rfl
  not_blank_head := by simp
  held x c y h := by simp at h

/-- One more character of a piece, if it does not cut. -/
theorem Begun.push (h : Begun depth q (c :: rest)) (hcomma : ¬ (c = ',' ∧ depth = 0))
    (hblank : ¬ (isBlank c = true ∧ depth = 0 ∧ ¬ (opensNext rest = true ∧ trim q ≠ []))) :
    Begun (depthAfter depth c) (q ++ [c]) rest where
  depth_eq := by
    rw [depthAfterAll_append, h.depth_eq]
    rfl
  not_blank_head d hd := by
    cases q with
    | cons _ _ => exact h.not_blank_head d hd
    | nil =>
      obtain rfl : c = d := by simpa using hd
      obtain rfl : 0 = depth := h.depth_eq
      cases hc : isBlank c with
      | false => rfl
      | true => exact absurd ⟨hc, rfl, fun ho => ho.2 rfl⟩ hblank
  held x d y hxy hx := by
    rcases List.eq_nil_or_concat y with rfl | ⟨y, e, rfl⟩
    · -- The character itself.
      obtain ⟨rfl, hcd⟩ := List.append_inj' hxy rfl
      obtain rfl : c = d := by simpa using hcd
      have hdepth : depth = 0 := h.depth_eq.symm.trans hx
      refine ⟨fun hc => hcomma ⟨hc, hdepth⟩, fun hc => ?_⟩
      cases hopen : opensNext rest with
      | true => exact hopen
      | false => exact absurd ⟨hc, hdepth, by simp [hopen]⟩ hblank
    · -- One that was read before it.
      rw [List.concat_eq_append, ← List.cons_append, ← List.append_assoc] at hxy
      obtain ⟨hq, hce⟩ := List.append_inj' hxy rfl
      obtain rfl : c = e := by simpa using hce
      have hheld := h.held x d y hq hx
      rwa [List.concat_eq_append, List.append_assoc, List.singleton_append]

/-- What has been read is a piece where a gap begins, up to the blank characters at its end. -/
theorem Begun.unbroken_trim (h : Begun depth q rest) (hne : q ≠ [])
    (hrest : opensNext rest = false) :
    Unbroken (trim q) ∧ ∃ bs : List Char, bs.all isBlank ∧ q = trim q ++ bs := by
  obtain ⟨c, q', rfl⟩ := List.exists_cons_of_ne_nil hne
  have hc : isBlank c = false := h.not_blank_head c rfl
  have htrim : trim (c :: q') = trimEnd (c :: q') := by
    rw [trim, Text.trimStart_cons_of_not_blank hc]
  obtain ⟨bs, hbs, hq⟩ := Text.exists_eq_trimEnd_append (c :: q')
  rw [← htrim] at hq
  refine ⟨⟨?_, Text.trim_trim _, fun x d y hxy hx => ?_⟩, bs, hbs, hq⟩
  · rw [htrim, Text.trimEnd_cons_of_not_blank hc]
    simp
  · have hheld := h.held x d (y ++ bs) (by rw [hq, hxy]; simp) hx
    have hbehind : opensNext (bs ++ rest) = false := by rw [opensNext_blank_append hbs, hrest]
    rwa [List.append_assoc, opensNext_append hbehind, ← List.append_nil y] at hheld

/-- Where a gap begins, what has been read becomes a piece, if anything has. -/
theorem Begun.pieces_flush (h : Begun depth q rest) (hgap : ∀ c ∈ rest.head?, isGap c = true)
    (hrest : q ≠ [] → opensNext rest = false) (hclosed : depth = 0 ∨ rest.all isBlank)
    (hp : Pieces rest ps) : Pieces (q ++ rest) (flush q ++ ps) := by
  by_cases hne : q = []
  · subst hne
    exact hp
  · have hrest := hrest hne
    obtain ⟨hu, bs, hbs, hq⟩ := h.unbroken_trim hne hrest
    have hflush : flush q = [trim q] := if_neg hu.ne_nil
    have hdepth : depthAfterAll 0 (trim q) = depth :=
      calc depthAfterAll 0 (trim q) = depthAfterAll 0 (trim q ++ bs) := by
            rw [depthAfterAll_append, depthAfterAll_of_blank hbs]
        _ = depth := by rw [← hq, h.depth_eq]
    have hends : EndsBefore (trim q) (bs ++ rest) := by
      refine ⟨fun c hc => ?_, by rw [opensNext_blank_append hbs, hrest], ?_⟩
      · cases bs with
        | nil => exact hgap c hc
        | cons b bs =>
          rw [List.all_cons, Bool.and_eq_true] at hbs
          obtain rfl : b = c := by simpa using hc
          exact isGap_of_blank hbs.1
      · rw [hdepth, List.all_append, hbs, Bool.true_and]
        exact hclosed
    have hpieces := Pieces.piece hu hends (hp.blank_append hbs)
    rwa [← List.append_assoc, ← hq, ← List.singleton_append, ← hflush] at hpieces

/-- Cutting goes on from what has been read of a piece. -/
theorem pieces_splitFrom {piece : List Char} (h : Begun depth piece.reverse rest) :
    Pieces (piece.reverse ++ rest) (splitFrom depth piece rest) := by
  induction rest generalizing depth piece with
  | nil =>
    rw [splitFrom, ← List.append_nil (flush _)]
    exact h.pieces_flush (by simp) (fun _ => rfl) (.inr rfl) .nil
  | cons c rest ih =>
    have hnext : Pieces rest (splitFrom 0 [] rest) := @ih 0 [] (begun_nil rest)
    rw [splitFrom]
    split
    · rename_i hc
      obtain ⟨rfl, rfl⟩ := hc
      have hgap : isGap ',' = true := rfl
      exact h.pieces_flush (by simp [hgap]) (fun _ => rfl) (.inl rfl) (.gap hgap hnext)
    · rename_i hcomma
      split
      · rename_i hc
        obtain ⟨hblank, rfl, hopen⟩ := hc
        have hgap : isGap c = true := isGap_of_blank hblank
        refine h.pieces_flush (by simp [hgap]) (fun hne => ?_) (.inl rfl) (.gap hgap hnext)
        rw [opensNext_cons_of_blank hblank, ← Bool.not_eq_true]
        exact fun ho => hopen ⟨ho, Text.trim_ne_nil_of_not_blank_head hne h.not_blank_head⟩
      · rename_i hblank
        have hpush := h.push hcomma hblank
        rw [← List.reverse_cons] at hpush
        have hpieces := ih hpush
        rwa [List.reverse_cons, List.append_assoc, List.singleton_append] at hpieces

/-- Cutting a list gives its pieces. -/
theorem pieces_splitFrom_zero (cs : List Char) : Pieces cs (splitFrom 0 [] cs) :=
  @pieces_splitFrom 0 cs [] (begun_nil cs)

/-! ## Cutting a piece -/

/-- A text that nothing cuts is not cut behind any part of it that has been read. -/
theorem splitFrom_of_unbroken_append (h : Unbroken (q ++ rest)) :
    splitFrom (depthAfterAll 0 q) q.reverse rest = [q ++ rest] := by
  induction rest generalizing q with
  | nil =>
    rw [List.append_nil] at h ⊢
    rw [splitFrom, List.reverse_reverse, flush, h.trim_eq, if_neg h.ne_nil]
  | cons c rest ih =>
    have hcons : q ++ c :: rest = (q ++ [c]) ++ rest := by simp
    have hdepth : depthAfter (depthAfterAll 0 q) c = depthAfterAll 0 (q ++ [c]) :=
      (depthAfterAll_append 0 q [c]).symm
    have hheld := h.held q c rest rfl
    rw [List.append_nil] at hheld
    rw [splitFrom, if_neg fun hc => (hheld hc.2).1 hc.1, if_neg, hdepth, ← List.reverse_concat,
      hcons]
    · exact ih (hcons ▸ h)
    · rintro ⟨hblank, hzero, hopen⟩
      have hhead := Text.not_blank_head_of_trim_eq h.trim_eq
      have hne : q ≠ [] := by
        rintro rfl
        rw [hhead c rfl] at hblank
        cases hblank
      refine hopen ⟨(hheld hzero).2 hblank, ?_⟩
      rw [List.reverse_reverse]
      refine Text.trim_ne_nil_of_not_blank_head hne fun d hd => hhead d ?_
      rw [List.head?_append, Option.mem_def.1 hd]
      rfl

/-- A text that nothing cuts is one piece. -/
theorem splitFrom_of_unbroken (h : Unbroken p) : splitFrom 0 [] p = [p] :=
  @splitFrom_of_unbroken_append [] p h

/-- Where all parentheses are closed, a gap cuts, unless an opening parenthesis comes next. -/
theorem splitFrom_append_gap {piece : List Char} (hcs : depthAfterAll depth cs = 0)
    (hc : isGap c = true) (hopen : opensNext (c :: ds) = false) :
    splitFrom depth piece (cs ++ c :: ds) = splitFrom depth piece cs ++ splitFrom 0 [] ds := by
  induction cs generalizing depth piece with
  | nil =>
    obtain rfl : depth = 0 := hcs
    have hnil : splitFrom 0 piece [] = flush piece.reverse := rfl
    rw [List.nil_append, hnil, splitFrom]
    rcases isGap_iff.1 hc with rfl | hblank
    · rw [if_pos ⟨rfl, rfl⟩]
    · rw [opensNext_cons_of_blank hblank] at hopen
      rw [if_neg, if_pos ⟨hblank, rfl, by simp [hopen]⟩]
      rintro ⟨rfl, -⟩
      exact absurd hblank (by decide)
  | cons d cs ih =>
    rw [List.cons_append, splitFrom, splitFrom, opensNext_append hopen]
    rw [depthAfterAll, List.foldl_cons] at hcs
    split
    · rename_i hd
      obtain ⟨rfl, rfl⟩ := hd
      have hcs' : depthAfterAll 0 cs = 0 := hcs
      rw [ih hcs', List.append_assoc]
    · split
      · rename_i hd
        obtain ⟨hblank, rfl, -⟩ := hd
        rw [depthAfter_of_blank hblank] at hcs
        rw [ih hcs, List.append_assoc]
      · exact ih hcs

/-- Blank characters in front of a list do not show. -/
theorem splitFrom_blank_append (h : cs.all isBlank) (ds : List Char) :
    splitFrom 0 [] (cs ++ ds) = splitFrom 0 [] ds := by
  induction cs with
  | nil => rfl
  | cons c cs ih =>
    rw [List.all_cons, Bool.and_eq_true] at h
    have hcomma : c ≠ ',' := by
      rintro rfl
      exact absurd h.1 (by decide)
    have hflush : flush [] = [] := rfl
    rw [List.cons_append, splitFrom, if_neg (fun hc => hcomma hc.1),
      if_pos ⟨h.1, rfl, fun ho => ho.2 rfl⟩, List.reverse_nil, hflush, List.nil_append, ih h.2]

/-! ## Joining pieces -/

/-- A list opens a parenthesis first if its first piece does. -/
theorem opensNext_intercalate (hq : Unbroken q) (joiner : List Char) (ps : List (List Char)) :
    opensNext (joiner.intercalate (q :: ps)) = (q.head? == some '(') := by
  obtain ⟨d, q', rfl⟩ := List.exists_cons_of_ne_nil hq.ne_nil
  have hblank : isBlank d = false := Text.not_blank_head_of_trim_eq hq.trim_eq d rfl
  obtain ⟨rest, hrest⟩ : ∃ rest, joiner.intercalate ((d :: q') :: ps) = d :: rest := by
    cases ps <;> simp [List.intercalate_cons_cons]
  rw [hrest, opensNext_cons_of_not_blank hblank]
  rfl

/-- Pieces with a gap between them, be it a comma or a blank character, and any blank characters
behind it, are cut there again, if all but the last one close their parentheses, and if behind a
blank character none begins with one. -/
theorem splitFrom_intercalate (hc : isGap c = true) (hcs : cs.all isBlank)
    (hu : ∀ p ∈ ps, Unbroken p)
    (hchain : ps.IsChain fun p q => depthAfterAll 0 p = 0 ∧ (c = ',' ∨ q.head? ≠ some '(')) :
    splitFrom 0 [] ((c :: cs).intercalate ps) = ps := by
  induction ps with
  | nil => rfl
  | cons p ps ih =>
    have hp := hu p List.mem_cons_self
    cases ps with
    | nil => rw [List.intercalate_singleton, splitFrom_of_unbroken hp]
    | cons q ps =>
      obtain ⟨⟨hclosed, hq⟩, hrest⟩ := List.isChain_cons_cons.1 hchain
      have hu := fun p' hp' => hu p' (List.mem_cons_of_mem p hp')
      have hnext := opensNext_intercalate (hu q List.mem_cons_self) (c :: cs) ps
      have hopen : opensNext (c :: (cs ++ (c :: cs).intercalate (q :: ps))) = false :=
        opensNext_gap_append hc hcs (hq.imp_right fun hq => by simpa [hnext] using hq)
      rw [List.intercalate_cons_cons, List.append_assoc, List.cons_append,
        splitFrom_append_gap hclosed hc hopen, splitFrom_blank_append hcs,
        splitFrom_of_unbroken hp, ih hu hrest, List.singleton_append]

end ViewQuery.Expression
