import ViewQuery.Proofs.Expression.Segments
import ViewQuery.Proofs.Text.Join

/-!
# Segments, joined again

Cutting an expression into its segments and joining segments with the separator undo each other. A
cut is made outside of all parentheses, so that a character of a segment lies as deep in the segment
alone as it lies in the whole expression.

* `intercalate_segmentsFrom`: the segments of a text, joined, are the text;
* `segmentsAt_segmentsFrom`: outside of its parentheses no segment has a separator, and every
  segment but the last one closes them;
* `segmentsFrom_intercalate`: texts like these are cut where they were joined;
* `joinWith_splitSegments_inverse`: all of this for expressions.
-/

namespace ViewQuery.Expression

variable {separator c : Char} {depth : Nat} {cs ds : List Char} {segments : List (List Char)}

/-! ## What segments are -/

/-- Nothing cuts a text that begins at a depth: all separators in it lie within parentheses. -/
def IsSegmentAt (separator : Char) (depth : Nat) (cs : List Char) : Prop :=
  ∀ i < cs.length, cs[i]? = some separator → depthAfterAll depth (cs.take i) ≠ 0

instance (separator : Char) (depth : Nat) (cs : List Char) :
    Decidable (IsSegmentAt separator depth cs) :=
  inferInstanceAs (Decidable (∀ i < cs.length, _ → _))

/-- The segments of a text that begins at a depth: nothing cuts them, and each of them but the last
one closes its parentheses. -/
inductive SegmentsAt (separator : Char) : Nat → List (List Char) → Prop where
  | last {depth : Nat} {cs : List Char} :
    IsSegmentAt separator depth cs → SegmentsAt separator depth [cs]
  | more {depth : Nat} {cs : List Char} {rest : List (List Char)} :
    IsSegmentAt separator depth cs → depthAfterAll depth cs = 0 → SegmentsAt separator 0 rest →
      SegmentsAt separator depth (cs :: rest)

/-- Texts that can be the segments of an expression. -/
structure AreSegments (separator : Char) (segments : List String) : Prop where
  ne_nil : segments ≠ []
  uncut : ∀ segment ∈ segments, IsSegmentAt separator 0 segment.toList
  closed : ∀ segment ∈ segments.dropLast, depthAfterAll 0 segment.toList = 0

theorem isSegmentAt_nil (separator : Char) (depth : Nat) : IsSegmentAt separator depth [] :=
  fun _ hi => absurd hi (Nat.not_lt_zero _)

theorem isSegmentAt_cons_iff :
    IsSegmentAt separator depth (c :: cs) ↔
      (c = separator → depth ≠ 0) ∧ IsSegmentAt separator (depthAfter depth c) cs := by
  constructor
  · intro h
    refine ⟨?_, fun i hi hc => h (i + 1) (Nat.succ_lt_succ hi) hc⟩
    rintro rfl
    exact h 0 (Nat.succ_pos _) rfl
  · rintro ⟨hfirst, hrest⟩ i hi hc
    cases i with
    | zero => exact hfirst (Option.some.inj hc)
    | succ i => exact hrest i (Nat.lt_of_succ_lt_succ hi) hc

theorem isSegmentAt_append_iff :
    IsSegmentAt separator depth (cs ++ ds) ↔
      IsSegmentAt separator depth cs ∧ IsSegmentAt separator (depthAfterAll depth cs) ds := by
  induction cs generalizing depth with
  | nil => simp [isSegmentAt_nil, depthAfterAll]
  | cons c cs ih =>
    rw [List.cons_append, isSegmentAt_cons_iff, ih, isSegmentAt_cons_iff, and_assoc]
    rfl

theorem isSegmentAt_of_not_mem (h : separator ∉ cs) (depth : Nat) :
    IsSegmentAt separator depth cs :=
  fun _ _ hc => absurd (List.mem_of_getElem? hc) h

/-- Within parentheses no separator cuts. -/
theorem isSegmentAt_of_plain (h : ∀ c ∈ cs, c ≠ '(' ∧ c ≠ ')') (hd : depth ≠ 0) :
    IsSegmentAt separator depth cs := by
  intro i _ _
  rwa [depthAfterAll_of_plain fun c hc => h c (List.mem_of_mem_take hc)]

theorem SegmentsAt.ne_nil (h : SegmentsAt separator depth segments) : segments ≠ [] := by
  cases h <;> exact List.cons_ne_nil _ _

theorem segmentsAt_map_toList_iff {texts : List String} :
    SegmentsAt separator 0 (texts.map String.toList) ↔ AreSegments separator texts := by
  induction texts with
  | nil => exact ⟨fun h => absurd rfl h.ne_nil, fun h => absurd rfl h.ne_nil⟩
  | cons text texts ih =>
    cases texts with
    | nil =>
      constructor
      · intro h
        have huncut : IsSegmentAt separator 0 text.toList := by cases h <;> assumption
        exact ⟨List.cons_ne_nil _ _, by simpa using huncut, by simp⟩
      · exact fun h => .last (h.uncut text List.mem_cons_self)
    | cons next texts =>
      constructor
      · rintro (_ | ⟨huncut, hclosed, hrest⟩)
        have hrest := ih.1 hrest
        exact ⟨List.cons_ne_nil _ _, List.forall_mem_cons.2 ⟨huncut, hrest.uncut⟩,
          List.forall_mem_cons.2 ⟨hclosed, hrest.closed⟩⟩
      · rintro ⟨-, huncut, hclosed⟩
        obtain ⟨huncut, huncuts⟩ := List.forall_mem_cons.1 huncut
        obtain ⟨hclosed, hcloseds⟩ := List.forall_mem_cons.1 hclosed
        exact .more huncut hclosed (ih.2 ⟨List.cons_ne_nil _ _, huncuts, hcloseds⟩)

/-! ## Cutting, then joining -/

theorem intercalate_consFirst (c : Char) (h : segments ≠ []) :
    [separator].intercalate (consFirst c segments) = c :: [separator].intercalate segments := by
  cases segments with
  | nil => exact absurd rfl h
  | cons segment rest =>
    cases rest with
    | nil => simp [consFirst]
    | cons next rest => simp [consFirst, List.intercalate_cons_cons]

/-- The segments of a text, joined, are the text. -/
theorem intercalate_segmentsFrom (separator : Char) (depth : Nat) (cs : List Char) :
    [separator].intercalate (segmentsFrom separator depth cs) = cs := by
  induction cs generalizing depth with
  | nil => rfl
  | cons c cs ih =>
    rw [segmentsFrom]
    split
    · rename_i hcut
      obtain ⟨next, rest, hrest⟩ :=
        List.exists_cons_of_ne_nil (@segmentsFrom_ne_nil separator depth cs)
      rw [hrest, List.intercalate_cons_cons, ← hrest, ih, hcut.1]
      rfl
    · rw [intercalate_consFirst c (segmentsFrom_ne_nil _ _), ih]

theorem SegmentsAt.consFirst (h : SegmentsAt separator (depthAfter depth c) segments)
    (hc : c = separator → depth ≠ 0) : SegmentsAt separator depth (consFirst c segments) := by
  cases h with
  | last huncut => exact .last (isSegmentAt_cons_iff.2 ⟨hc, huncut⟩)
  | more huncut hclosed hrest => exact .more (isSegmentAt_cons_iff.2 ⟨hc, huncut⟩) hclosed hrest

/-- Cutting gives segments. -/
theorem segmentsAt_segmentsFrom (h1 : separator ≠ '(') (h2 : separator ≠ ')') (depth : Nat)
    (cs : List Char) : SegmentsAt separator depth (segmentsFrom separator depth cs) := by
  induction cs generalizing depth with
  | nil => exact .last (isSegmentAt_nil separator depth)
  | cons c cs ih =>
    rw [segmentsFrom]
    split
    · rename_i hcut
      obtain ⟨rfl, rfl, -⟩ := hcut
      exact .more (isSegmentAt_nil c 0) rfl (ih 0)
    · rename_i hcut
      refine (ih (depthAfter depth c)).consFirst ?_
      rintro rfl hdepth
      exact hcut ⟨rfl, hdepth, h1, h2⟩

/-! ## Joining, then cutting -/

theorem segmentsFrom_of_isSegmentAt (h : IsSegmentAt separator depth cs) :
    segmentsFrom separator depth cs = [cs] := by
  induction cs generalizing depth with
  | nil => rfl
  | cons c cs ih =>
    obtain ⟨hfirst, hrest⟩ := isSegmentAt_cons_iff.1 h
    rw [segmentsFrom, if_neg fun hcut => hfirst hcut.1 hcut.2.1, ih hrest]
    rfl

/-- Segments are cut where they were joined. -/
theorem segmentsFrom_intercalate (h1 : separator ≠ '(') (h2 : separator ≠ ')')
    (h : SegmentsAt separator depth segments) :
    segmentsFrom separator depth ([separator].intercalate segments) = segments := by
  induction h with
  | last huncut => rw [List.intercalate_singleton, segmentsFrom_of_isSegmentAt huncut]
  | @more depth cs rest huncut hclosed hrest ih =>
    obtain ⟨next, others, rfl⟩ := List.exists_cons_of_ne_nil hrest.ne_nil
    rw [List.intercalate_cons_cons, List.append_assoc, List.singleton_append,
      segmentsFrom_append h1 h2 hclosed, segmentsFrom_of_isSegmentAt huncut, ih,
      List.singleton_append]

/-- A separator that is itself a parenthesis cuts nothing. -/
theorem segmentsFrom_of_parenthesis (h : separator = '(' ∨ separator = ')') (depth : Nat)
    (cs : List Char) : segmentsFrom separator depth cs = [cs] := by
  induction cs generalizing depth with
  | nil => rfl
  | cons c cs ih =>
    have hcut : ¬ (c = separator ∧ depth = 0 ∧ c ≠ '(' ∧ c ≠ ')') := by
      rintro ⟨rfl, -, hopen, hclose⟩
      exact h.elim hopen hclose
    rw [segmentsFrom, if_neg hcut, ih]
    rfl

/-! ## Expressions -/

theorem map_toList_splitSegments (expression : String) :
    (splitSegments separator expression).map String.toList =
      segmentsFrom separator 0 expression.toList := by
  rw [splitSegments, List.map_map]
  simp [Function.comp_def]

/-- Cutting into segments and joining undo each other. The segments of an expression, joined with
the separator, are the expression. Unless the separator is a parenthesis, segments are not cut any
further, each but the last one closes its parentheses, and these are the only texts that are cut
where they were joined. A parenthesis cuts nothing. -/
theorem joinWith_splitSegments_inverse (separator : Char) :
    (∀ expression, Text.joinWith separator (splitSegments separator expression) = expression) ∧
      (separator ≠ '(' ∧ separator ≠ ')' →
        (∀ expression, AreSegments separator (splitSegments separator expression)) ∧
          ∀ segments, splitSegments separator (Text.joinWith separator segments) = segments ↔
            AreSegments separator segments) ∧
      (separator = '(' ∨ separator = ')' →
        ∀ expression, splitSegments separator expression = [expression]) := by
  refine ⟨fun expression => ?_, fun hs => ?_, fun h expression => ?_⟩
  · rw [← String.toList_inj, Text.toList_joinWith, map_toList_splitSegments,
      intercalate_segmentsFrom]
  · obtain ⟨h1, h2⟩ := hs
    have hcut : ∀ expression, AreSegments separator (splitSegments separator expression) := by
      intro expression
      rw [← segmentsAt_map_toList_iff, map_toList_splitSegments]
      exact segmentsAt_segmentsFrom h1 h2 0 expression.toList
    refine ⟨hcut, fun segments => ⟨fun h => h ▸ hcut _, fun h => ?_⟩⟩
    rw [← segmentsAt_map_toList_iff] at h
    rw [splitSegments, Text.toList_joinWith, segmentsFrom_intercalate h1 h2 h, List.map_map]
    simp [Function.comp_def]
  · rw [splitSegments, segmentsFrom_of_parenthesis h, List.map_singleton, String.ofList_toList]

/-- A separator within parentheses, an empty segment and a parenthesis that stays open; and the text
of these segments, which is not cut at its parentheses. -/
theorem joinWith_splitSegments_inverse_unbalanced :
    let segments := ["@form)", "", "@(a·b)", "(c·d"]
    ('·' ≠ '(' ∧ '·' ≠ ')') ∧ AreSegments '·' segments ∧
      splitSegments '·' (Text.joinWith '·' segments) = segments ∧
      splitSegments ')' "@form)··@(a·b)·(c·d" = ["@form)··@(a·b)·(c·d"] := by
  intro segments
  have hs : '·' ≠ '(' ∧ '·' ≠ ')' := by decide
  have hsegments : AreSegments '·' segments := ⟨by decide, by decide, by decide⟩
  exact ⟨hs, hsegments, (((joinWith_splitSegments_inverse '·').2.1 hs).2 segments).2 hsegments,
    (joinWith_splitSegments_inverse ')').2.2 (.inr rfl) _⟩

end ViewQuery.Expression
