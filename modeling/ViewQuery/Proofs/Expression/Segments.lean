import ViewQuery.Config.Validate
import ViewQuery.Expression.Resolver
import ViewQuery.Proofs.Text.FirstCut
import ViewQuery.Proofs.Text.Trim

/-!
# The links of a chain

How the segments of an expression behave when expressions are joined by the separator, and what
becomes of blank characters around an expression:

* `segmentsFrom_append`: where all parentheses are closed, a separator cuts;
* `trimmedSegments_trim`: blank characters around an expression do not show in its trimmed segments;
* `links_append`: the links of two joined expressions are those of the first and then those of the
  second.
-/

namespace ViewQuery.Expression

open ViewQuery.Text (isBlank trim trimStart trimEnd trimmed)

variable {separator : Char}

/-! ## Separators -/

/-- A character that a configuration may have as its separator. -/
structure UsableSeparator (separator : Char) : Prop where
  ne_mark : separator ≠ keywordMark
  ne_open : separator ≠ '('
  ne_close : separator ≠ ')'
  ne_comma : separator ≠ ','
  not_blank : isBlank separator = false

theorem usableSeparator_iff :
    UsableSeparator separator ↔ Config.isUsableSeparator separator = true := by
  simp only [Config.isUsableSeparator, Bool.not_eq_true', Bool.or_eq_false_iff, beq_eq_false_iff_ne]
  constructor
  · rintro ⟨h1, h2, h3, h4, h5⟩
    exact ⟨⟨⟨⟨h1, h2⟩, h3⟩, h4⟩, h5⟩
  · rintro ⟨⟨⟨⟨h1, h2⟩, h3⟩, h4⟩, h5⟩
    exact ⟨h1, h2, h3, h4, h5⟩

/-- The separator of an accepted configuration is usable. -/
theorem usableSeparator_of_validate {c : Config} (h : c.validate = .ok ()) :
    UsableSeparator c.expressions.separator := by
  rw [usableSeparator_iff]
  cases hu : Config.isUsableSeparator c.expressions.separator with
  | true => rfl
  | false => simp [Config.validate, Config.violation, hu] at h

/-! ## Depth -/

theorem depthAfter_of_ne {c : Char} (h1 : c ≠ '(') (h2 : c ≠ ')') (depth : Nat) :
    depthAfter depth c = depth := by
  rw [depthAfter, if_neg h1, if_neg h2]

theorem depthAfter_of_blank {c : Char} (h : isBlank c = true) (depth : Nat) :
    depthAfter depth c = depth :=
  depthAfter_of_ne (by rintro rfl; exact absurd h (by decide))
    (by rintro rfl; exact absurd h (by decide)) depth

/-- Without parentheses the depth stays the same. -/
theorem depthAfterAll_of_plain {cs : List Char} (h : ∀ c ∈ cs, c ≠ '(' ∧ c ≠ ')') (depth : Nat) :
    depthAfterAll depth cs = depth := by
  induction cs with
  | nil => rfl
  | cons c cs ih =>
    obtain ⟨⟨hopen, hclose⟩, hcs⟩ := List.forall_mem_cons.1 h
    rw [depthAfterAll, List.foldl_cons, depthAfter_of_ne hopen hclose]
    exact ih hcs

theorem depthAfterAll_trimStart (depth : Nat) (cs : List Char) :
    depthAfterAll depth (trimStart cs) = depthAfterAll depth cs := by
  induction cs with
  | nil => rfl
  | cons c cs ih =>
    cases hc : isBlank c with
    | true =>
      rw [Text.trimStart_cons_of_blank hc, ih, depthAfterAll, depthAfterAll, List.foldl_cons,
        depthAfter_of_blank hc]
    | false => rw [Text.trimStart_cons_of_not_blank hc]

/-! ## Segments -/

theorem consFirst_append (c : Char) {xs : List (List Char)} (h : xs ≠ []) (ys : List (List Char)) :
    consFirst c (xs ++ ys) = consFirst c xs ++ ys := by
  cases xs with
  | nil => exact absurd rfl h
  | cons x xs => rfl

theorem segmentsFrom_ne_nil (depth : Nat) (cs : List Char) :
    segmentsFrom separator depth cs ≠ [] := by
  cases cs with
  | nil => simp [segmentsFrom]
  | cons c cs =>
    rw [segmentsFrom]
    split
    · simp
    · unfold consFirst
      split <;> simp

/-- A text without the separator is one segment. -/
theorem segmentsFrom_of_not_mem {cs : List Char} (h : separator ∉ cs) (depth : Nat) :
    segmentsFrom separator depth cs = [cs] := by
  induction cs generalizing depth with
  | nil => rfl
  | cons c cs ih =>
    rw [List.mem_cons, not_or] at h
    rw [segmentsFrom, if_neg fun hc => h.1 hc.1.symm, ih h.2]
    rfl

/-- A text of one segment is that segment. -/
theorem eq_of_segmentsFrom_eq_singleton {depth : Nat} {cs segment : List Char}
    (h : segmentsFrom separator depth cs = [segment]) : segment = cs := by
  induction cs generalizing depth segment with
  | nil => simpa [segmentsFrom] using h.symm
  | cons c cs ih =>
    rw [segmentsFrom] at h
    split at h
    · exact absurd (List.cons.inj h).2 (segmentsFrom_ne_nil depth cs)
    · cases hcs : segmentsFrom separator (depthAfter depth c) cs with
      | nil => exact absurd hcs (segmentsFrom_ne_nil _ cs)
      | cons first rest =>
        rw [hcs, consFirst, List.cons.injEq] at h
        obtain ⟨rfl, rfl⟩ := h
        rw [ih hcs]

/-- A character that is not the separator is in one of the segments. -/
theorem exists_mem_segmentsFrom {c : Char} (hne : c ≠ separator) {cs : List Char}
    (hc : c ∈ cs) (depth : Nat) : ∃ segment ∈ segmentsFrom separator depth cs, c ∈ segment := by
  induction cs generalizing depth with
  | nil => cases hc
  | cons d cs ih =>
    rw [segmentsFrom]
    split
    · rename_i hcut
      obtain ⟨segment, hm, hs⟩ := ih ((List.mem_cons.1 hc).resolve_left (hcut.1 ▸ hne)) depth
      exact ⟨segment, List.mem_cons_of_mem _ hm, hs⟩
    · cases hs : segmentsFrom separator (depthAfter depth d) cs with
      | nil => exact absurd hs (segmentsFrom_ne_nil _ _)
      | cons first rest =>
        rcases List.mem_cons.1 hc with rfl | hc
        · exact ⟨c :: first, List.mem_cons_self, List.mem_cons_self⟩
        · obtain ⟨segment, hm, hin⟩ := ih hc (depthAfter depth d)
          rw [hs] at hm
          rcases List.mem_cons.1 hm with rfl | hm
          · exact ⟨d :: segment, List.mem_cons_self, List.mem_cons_of_mem d hin⟩
          · exact ⟨segment, List.mem_cons_of_mem _ hm, hin⟩

/-- Where all parentheses are closed, a separator cuts. -/
theorem segmentsFrom_append (h1 : separator ≠ '(') (h2 : separator ≠ ')') {depth : Nat}
    {cs : List Char} (hd : depthAfterAll depth cs = 0) (ds : List Char) :
    segmentsFrom separator depth (cs ++ separator :: ds) =
      segmentsFrom separator depth cs ++ segmentsFrom separator 0 ds := by
  induction cs generalizing depth with
  | nil =>
    obtain rfl : depth = 0 := hd
    simp [segmentsFrom, h1, h2]
  | cons c cs ih =>
    rw [List.cons_append, segmentsFrom, segmentsFrom]
    rw [depthAfterAll, List.foldl_cons] at hd
    split
    · rename_i hc
      rw [hc.1, depthAfter_of_ne h1 h2] at hd
      rw [ih hd, List.cons_append]
    · rw [ih hd, consFirst_append c (segmentsFrom_ne_nil _ _)]

theorem map_trimEnd_consFirst (c : Char) {xs ys : List (List Char)}
    (h : xs.map trimEnd = ys.map trimEnd) :
    (consFirst c xs).map trimEnd = (consFirst c ys).map trimEnd := by
  cases xs with
  | nil =>
    obtain rfl : ys = [] := by simpa using h.symm
    rfl
  | cons x xs =>
    cases ys with
    | nil => simp at h
    | cons y ys =>
      simp only [List.map_cons, List.cons.injEq] at h
      simp only [consFirst, List.map_cons, Text.trimEnd_cons_congr c h.1, h.2]

/-- Blank characters behind a text end up behind its last segment. -/
theorem map_trimEnd_segmentsFrom_append (hs : isBlank separator = false) (depth : Nat)
    (cs : List Char) {bs : List Char} (hb : bs.all isBlank) :
    (segmentsFrom separator depth (cs ++ bs)).map trimEnd =
      (segmentsFrom separator depth cs).map trimEnd := by
  induction cs generalizing depth with
  | nil =>
    have hmem : separator ∉ bs := fun h => by
      simp [List.all_eq_true.1 hb _ h] at hs
    rw [List.nil_append, segmentsFrom_of_not_mem hmem, segmentsFrom, List.map_singleton,
      (Text.trimEnd_eq_nil_iff bs).2 hb]
    rfl
  | cons c cs ih =>
    rw [List.cons_append, segmentsFrom, segmentsFrom]
    split
    · rw [List.map_cons, ih, List.map_cons]
    · exact map_trimEnd_consFirst c (ih _)

/-! ## Trimmed segments -/

/-- The segments of a text, trimmed. -/
def trimmedSegments (separator : Char) (cs : List Char) : List String :=
  (segmentsFrom separator 0 cs).map fun segment => .ofList (trim segment)

theorem map_trimmed_splitSegments (expression : String) :
    (splitSegments separator expression).map trimmed =
      trimmedSegments separator expression.toList := by
  simp [splitSegments, trimmedSegments, trimmed, Function.comp_def]

theorem trimmedSegments_ne_nil (cs : List Char) : trimmedSegments separator cs ≠ [] := by
  simp [trimmedSegments, segmentsFrom_ne_nil]

theorem trimmedSegments_of_not_mem {cs : List Char} (h : separator ∉ cs) :
    trimmedSegments separator cs = [.ofList (trim cs)] := by
  rw [trimmedSegments, segmentsFrom_of_not_mem h, List.map_singleton]

theorem trimmedSegments_append (hs : UsableSeparator separator) {cs : List Char}
    (hd : depthAfterAll 0 cs = 0) (ds : List Char) :
    trimmedSegments separator (cs ++ separator :: ds) =
      trimmedSegments separator cs ++ trimmedSegments separator ds := by
  rw [trimmedSegments, segmentsFrom_append hs.ne_open hs.ne_close hd, List.map_append]
  rfl

theorem trimmedSegments_trimEnd (hs : isBlank separator = false) (cs : List Char) :
    trimmedSegments separator (trimEnd cs) = trimmedSegments separator cs := by
  have htrim : (fun segment => String.ofList (trim segment)) =
      (fun segment => String.ofList (trim segment)) ∘ trimEnd := by
    funext segment
    simp [Text.trim_trimEnd]
  obtain ⟨bs, hb, h⟩ := Text.exists_eq_trimEnd_append cs
  calc trimmedSegments separator (trimEnd cs)
      = ((segmentsFrom separator 0 (trimEnd cs)).map trimEnd).map fun segment =>
          String.ofList (trim segment) := by rw [List.map_map, ← htrim, trimmedSegments]
    _ = ((segmentsFrom separator 0 (trimEnd cs ++ bs)).map trimEnd).map fun segment =>
          String.ofList (trim segment) := by rw [map_trimEnd_segmentsFrom_append hs _ _ hb]
    _ = trimmedSegments separator cs := by rw [List.map_map, ← htrim, ← h, trimmedSegments]

theorem trimmedSegments_cons_of_blank (hs : isBlank separator = false) {c : Char}
    (hc : isBlank c = true) (cs : List Char) :
    trimmedSegments separator (c :: cs) = trimmedSegments separator cs := by
  have hne : c ≠ separator := by
    rintro rfl
    simp [hc] at hs
  rw [trimmedSegments, segmentsFrom, if_neg fun h => hne h.1, depthAfter_of_blank hc,
    trimmedSegments]
  cases h : segmentsFrom separator 0 cs with
  | nil => exact absurd h (segmentsFrom_ne_nil 0 cs)
  | cons segment rest =>
    rw [consFirst, List.map_cons, List.map_cons, Text.trim_cons_of_blank hc]

theorem trimmedSegments_trimStart (hs : isBlank separator = false) (cs : List Char) :
    trimmedSegments separator (trimStart cs) = trimmedSegments separator cs := by
  induction cs with
  | nil => rfl
  | cons c cs ih =>
    cases hc : isBlank c with
    | true => rw [Text.trimStart_cons_of_blank hc, ih, trimmedSegments_cons_of_blank hs hc]
    | false => rw [Text.trimStart_cons_of_not_blank hc]

/-- Blank characters around a text do not show in its trimmed segments. -/
theorem trimmedSegments_trim (hs : isBlank separator = false) (cs : List Char) :
    trimmedSegments separator (trim cs) = trimmedSegments separator cs := by
  rw [trim, trimmedSegments_trimEnd hs, trimmedSegments_trimStart hs]

/-! ## Links -/

/-- The texts that are not empty. -/
def nonEmpty (texts : List String) : List String := texts.filter fun s => !s.isEmpty

theorem rooted_append {xs : List String} (h : xs ≠ []) (ys : List String) :
    rooted separator (xs ++ ys) = rooted separator xs ++ ys := by
  cases xs with
  | nil => exact absurd rfl h
  | cons x xs =>
    simp only [List.cons_append, rooted]
    split <;> rfl

/-- A first segment that is neither blank nor has a keyword mark in it becomes a path from the
root. -/
theorem rooted_of_path {first : String} {others : List String} (hne : first ≠ "")
    (hm : keywordMark ∉ first.toList) :
    rooted separator (first :: others) = (String.singleton separator ++ first) :: others := by
  rw [rooted, if_neg]
  simp [hne, holds, hm]

/-- Any other first segment stays as it is. -/
theorem rooted_of_not_path {first : String} {others : List String}
    (h : first = "" ∨ keywordMark ∈ first.toList) :
    rooted separator (first :: others) = first :: others := by
  rw [rooted, if_pos]
  simpa [holds] using h

theorem afterSeparator_of_absolute {expression : String} {rest : List Char}
    (h : expression.toList = separator :: rest) :
    afterSeparator separator expression = some (.ofList rest) := by
  rw [afterSeparator, Text.afterPrefix_eq_some_iff.2 (h.trans rfl), Option.map_some]

theorem afterSeparator_of_relative {expression : String}
    (h : expression.toList.head? ≠ some separator) :
    afterSeparator separator expression = none := by
  rw [afterSeparator, Text.afterPrefix_singleton_eq_none_iff.2 h, Option.map_none]

/-- The links of a chain that starts with the separator. -/
theorem links_of_absolute {expression : String} {rest : List Char}
    (h : expression.toList = separator :: rest) :
    links separator expression = nonEmpty (rooted separator (trimmedSegments separator rest)) := by
  rw [links, afterSeparator_of_absolute h]
  simp only [map_trimmed_splitSegments, String.toList_ofList, nonEmpty]

/-- The links of any other chain. -/
theorem links_of_relative {expression : String} (h : expression.toList.head? ≠ some separator) :
    links separator expression = nonEmpty (trimmedSegments separator expression.toList) := by
  rw [links, afterSeparator_of_relative h]
  simp only [map_trimmed_splitSegments, nonEmpty]

/-- A text without the separator and without blank characters around it is one link. -/
theorem links_of_not_mem {expression : String} (hm : separator ∉ expression.toList)
    (ht : trimmed expression = expression) (hne : expression ≠ "") :
    links separator expression = [expression] := by
  have hr : expression.toList.head? ≠ some separator := fun h => hm (List.mem_of_mem_head? h)
  have ht' : String.ofList (trim expression.toList) = expression := ht
  rw [links_of_relative hr, trimmedSegments_of_not_mem hm, ht']
  simp [nonEmpty, hne]

/-- An expression of one segment has no other link. -/
theorem links_of_sole (hs : UsableSeparator separator) {expression segment : String}
    (h : splitSegments separator expression = [segment]) :
    links separator expression = nonEmpty [trimmed segment] := by
  have hr : expression.toList.head? ≠ some separator := by
    intro hh
    obtain ⟨rest, he⟩ : ∃ rest, expression.toList = separator :: rest := List.head?_eq_some_iff.1 hh
    rw [splitSegments, he, segmentsFrom, if_pos ⟨rfl, rfl, hs.ne_open, hs.ne_close⟩, List.map_cons,
      List.cons.injEq, List.map_eq_nil_iff] at h
    exact segmentsFrom_ne_nil 0 rest h.2
  rw [links_of_relative hr, ← map_trimmed_splitSegments, h, List.map_singleton]

/-- The links of two expressions with the separator between them are those of the one and then those
of the other, if the first closes its parentheses and the second is not absolute. -/
theorem links_append (hs : UsableSeparator separator) {e₁ e₂ : String}
    (hd : depthAfterAll 0 e₁.toList = 0) (h₁ : trimmed e₁ ≠ "")
    (h₂ : (trimmed e₂).toList.head? ≠ some separator) :
    links separator (trimmed (e₁ ++ String.singleton separator ++ e₂)) =
      links separator (trimmed e₁) ++ links separator (trimmed e₂) := by
  have hj : (trimmed (e₁ ++ String.singleton separator ++ e₂)).toList =
      trimStart e₁.toList ++ separator :: trimEnd e₂.toList := by
    simp [Text.toList_trimmed, Text.trim_append_cons hs.not_blank]
  have hl₂ : links separator (trimmed e₂) = nonEmpty (trimmedSegments separator e₂.toList) := by
    rw [links_of_relative h₂, Text.toList_trimmed, trimmedSegments_trim hs.not_blank]
  rw [← depthAfterAll_trimStart] at hd
  rw [hl₂]
  -- Whether the joined chain is absolute shows in the first character that is not blank, which is
  -- that of the first expression.
  cases hc : trimStart e₁.toList with
  | nil =>
    have : trimmed e₁ = "" := by rw [trimmed, trim, hc]; rfl
    exact absurd this h₁
  | cons c rest =>
    have ht : (trimmed e₁).toList = trimEnd (c :: rest) := by
      rw [Text.toList_trimmed, trim, hc]
    rw [hc] at hd
    rw [hc, List.cons_append] at hj
    by_cases hcs : c = separator
    · subst hcs
      rw [Text.trimEnd_cons_of_not_blank hs.not_blank] at ht
      rw [depthAfterAll, List.foldl_cons, depthAfter_of_ne hs.ne_open hs.ne_close] at hd
      rw [links_of_absolute hj, links_of_absolute ht, trimmedSegments_append hs hd,
        trimmedSegments_trimEnd hs.not_blank, trimmedSegments_trimEnd hs.not_blank,
        rooted_append (trimmedSegments_ne_nil rest)]
      exact List.filter_append ..
    · have hr₁ : (trimmed e₁).toList.head? ≠ some separator := by
        rw [ht, Text.trimEnd_cons]
        split
        · cases isBlank c <;> simp [hcs]
        · simp [hcs]
      rw [links_of_relative (by rw [hj]; simpa using hcs), links_of_relative hr₁, hj, ht,
        ← List.cons_append, trimmedSegments_append hs hd, trimmedSegments_trimEnd hs.not_blank,
        trimmedSegments_trimEnd hs.not_blank]
      exact List.filter_append ..

end ViewQuery.Expression
