import ViewQuery.Text.Cut
import ViewQuery.Text.Lowercase

/-!
# Lowercase forms of parts of a text

What becomes of a part of a text when the text as a whole is put into lowercase. Every character
but the capital sigma has one lowercase form; the form of a capital sigma depends on what is around
the part as well.

* `lowercaseAfter_append`: the lowercase form of a text, part by part;
* `lowercaseWithin_eq_iff`: a part has its own lowercase form within a text exactly when its capital
  sigmas keep theirs;
* `lowercase_prefix_iff`, `lowercase_suffix_iff`, `lowercase_infix`: when lowercase forms are parts
  of each other as the texts are;
* `forall_lowercase_infix_iff`: which texts are found in lowercase within every text that they are a
  part of.
-/

namespace ViewQuery.Text

variable {before after cs ds xs ys : List Char}

/-! ## Around a capital sigma -/

/-- What is met first in two lists is met in the second one if all of the first is ignored. -/
theorem meetsCased_append (cs ds : List Char) :
    meetsCased (cs ++ ds) = if cs.all isCaseIgnorable then meetsCased ds else meetsCased cs := by
  induction cs with
  | nil => rfl
  | cons c cs ih =>
    unfold meetsCased at ih ⊢
    rw [List.cons_append, List.dropWhile_cons, List.dropWhile_cons, List.all_cons]
    cases isCaseIgnorable c with
    | true => exact ih
    | false => rfl

theorem all_isCaseIgnorable_of_meetsCased (h : meetsCased cs = false)
    (h' : meetsCased (cs ++ ds) = true) : cs.all isCaseIgnorable = true := by
  rw [meetsCased_append] at h'
  split at h'
  · assumption
  · rw [h] at h'
    cases h'

theorem meetsCased_append_of_meetsCased (h : meetsCased cs = true) (ds : List Char) :
    meetsCased (cs ++ ds) = true := by
  have hall : ¬ cs.all isCaseIgnorable = true := by
    intro hall
    have hnil := meetsCased_append cs []
    rw [List.append_nil, if_pos hall, h] at hnil
    cases hnil
  rw [meetsCased_append, if_neg hall, h]

theorem meetsCased_eq_false_of_append (h : meetsCased (cs ++ ds) = false) :
    meetsCased cs = false := by
  rw [← Bool.not_eq_true] at h ⊢
  exact fun hcs => h (meetsCased_append_of_meetsCased hcs ds)

theorem smallSigma_eq_final_iff :
    smallSigma before after = 'ς' ↔ meetsCased before = true ∧ meetsCased after = false := by
  unfold smallSigma
  cases meetsCased before <;> cases meetsCased after <;> decide

theorem smallSigma_eq_final_or (before after : List Char) :
    smallSigma before after = 'ς' ∨ smallSigma before after = 'σ' := by
  unfold smallSigma
  split
  · exact .inl rfl
  · exact .inr rfl

/-! ## Parts of a text -/

/-- The lowercase form of characters that follow `before` (the closest character first) and precede
`after`. -/
def lowercaseWithin (before after : List Char) : List Char → List Char
  | [] => []
  | c :: rest =>
    (if c = capitalSigma then [smallSigma before (rest ++ after)] else lowerChar c) ++
      lowercaseWithin (c :: before) after rest

theorem lowercaseAfter_append (before cs after : List Char) :
    lowercaseAfter before (cs ++ after) =
      lowercaseWithin before after cs ++ lowercaseAfter (cs.reverse ++ before) after := by
  induction cs generalizing before with
  | nil => rfl
  | cons c cs ih =>
    rw [List.cons_append, lowercaseAfter, lowercaseWithin, ih, List.append_assoc,
      List.reverse_cons, List.append_assoc, List.singleton_append]

theorem lowercaseAfter_eq (before cs : List Char) :
    lowercaseAfter before cs = lowercaseWithin before [] cs := by
  have h := lowercaseAfter_append before cs []
  rwa [List.append_nil, lowercaseAfter, List.append_nil] at h

theorem lowercase_append (cs ds : List Char) :
    lowercase (cs ++ ds) = lowercaseWithin [] ds cs ++ lowercaseWithin cs.reverse [] ds := by
  rw [lowercase, lowercaseAfter_append, lowercaseAfter_eq, List.append_nil]

/-- The lowercase form of a text, part by part. -/
theorem lowercase_append_append (xs cs ys : List Char) :
    lowercase (xs ++ cs ++ ys) =
      lowercaseWithin [] (cs ++ ys) xs ++ lowercaseWithin xs.reverse ys cs ++
        lowercaseWithin (xs ++ cs).reverse [] ys := by
  rw [lowercase, List.append_assoc, lowercaseAfter_append, lowercaseAfter_append,
    lowercaseAfter_eq, List.append_assoc, List.append_nil, List.reverse_append]

/-- Whatever is around a part, its lowercase form has one length. -/
theorem length_lowercaseWithin (before after cs : List Char) :
    (lowercaseWithin before after cs).length = (lowercase cs).length := by
  suffices h : ∀ before before' after', (lowercaseWithin before after cs).length =
      (lowercaseWithin before' after' cs).length by
    rw [lowercase, lowercaseAfter_eq]
    exact h ..
  intro before before' after'
  induction cs generalizing before before' with
  | nil => rfl
  | cons c cs ih =>
    rw [lowercaseWithin, lowercaseWithin, List.length_append, List.length_append,
      ih (c :: before) (c :: before')]
    split <;> rfl

/-! ## Capital sigmas that keep their form -/

/-- Every capital sigma of a part has the form that it has where nothing is around the part. -/
def KeepsSigmas (before cs after : List Char) : Prop :=
  ∀ front back, cs = front ++ capitalSigma :: back →
    smallSigma (front.reverse ++ before.reverse) (back ++ after) = smallSigma front.reverse back

/-- The same where `seen` is part of the text and comes first. -/
theorem lowercaseWithin_append_eq_iff (seen before after cs : List Char) :
    lowercaseWithin (seen ++ before) after cs = lowercaseWithin seen [] cs ↔
      ∀ front back, cs = front ++ capitalSigma :: back →
        smallSigma (front.reverse ++ seen ++ before) (back ++ after) =
          smallSigma (front.reverse ++ seen) back := by
  induction cs generalizing seen with
  | nil =>
    refine iff_of_true rfl fun front back h => ?_
    cases front <;> cases h
  | cons c cs ih =>
    have hhead : ∀ {a b : Char} {as bs : List Char}, [a] ++ as = [b] ++ bs ↔ a = b ∧ as = bs := by
      simp
    have hseen := ih (c :: seen)
    rw [List.cons_append] at hseen
    rw [lowercaseWithin, lowercaseWithin, List.append_nil]
    constructor
    · intro h front back hcs
      rcases List.cons_eq_append_iff.1 hcs with ⟨rfl, hback⟩ | ⟨front, rfl, hfront⟩
      · obtain ⟨rfl, rfl⟩ := List.cons.inj hback
        rw [if_pos rfl, if_pos rfl] at h
        exact (hhead.1 h).1
      · have htail := List.append_inj_right h (by split <;> rfl)
        simpa using hseen.1 htail front back hfront
    · intro h
      have htail := hseen.2 fun front back hfront => by
        simpa using h (c :: front) back (by rw [hfront]; rfl)
      rw [htail]
      split
      · rename_i hc
        rw [hc] at h
        exact congrArg (fun s => [s] ++ _) (h [] cs rfl)
      · rfl

/-- Within a text, a part has its own lowercase form exactly when its capital sigmas keep theirs. -/
theorem lowercaseWithin_eq_iff :
    lowercaseWithin xs.reverse ys cs = lowercase cs ↔ KeepsSigmas xs cs ys := by
  rw [lowercase, lowercaseAfter_eq, ← List.nil_append xs.reverse, lowercaseWithin_append_eq_iff]
  simp only [List.append_nil]
  rfl

instance (xs cs ys : List Char) : Decidable (KeepsSigmas xs cs ys) :=
  decidable_of_iff _ lowercaseWithin_eq_iff

/-- At the start of a text. -/
theorem lowercase_prefix_iff : lowercase cs <+: lowercase (cs ++ ys) ↔ KeepsSigmas [] cs ys := by
  rw [← lowercaseWithin_eq_iff, lowercase_append]
  constructor
  · rintro ⟨rest, h⟩
    exact (List.append_inj_left h (length_lowercaseWithin ..).symm).symm
  · intro h
    exact ⟨_, congrArg (· ++ _) h.symm⟩

/-- At the end of a text. -/
theorem lowercase_suffix_iff : lowercase cs <:+ lowercase (xs ++ cs) ↔ KeepsSigmas xs cs [] := by
  rw [← lowercaseWithin_eq_iff, lowercase_append]
  constructor
  · rintro ⟨rest, h⟩
    exact (List.append_inj_right' h (length_lowercaseWithin ..).symm).symm
  · intro h
    exact ⟨_, congrArg (_ ++ ·) h.symm⟩

/-- Anywhere in a text. -/
theorem lowercase_infix (h : KeepsSigmas xs cs ys) :
    lowercase cs <:+: lowercase (xs ++ cs ++ ys) := by
  rw [lowercase_append_append, lowercaseWithin_eq_iff.2 h]
  exact ⟨_, _, rfl⟩

/-! ## Capital sigmas that keep their form everywhere -/

/-- What is put behind a capital sigma may take the form of the end of a word from it. -/
theorem smallSigma_append_right (front back ys : List Char) :
    smallSigma front (back ++ ys) = smallSigma front back ∨
      smallSigma front (back ++ ys) = 'σ' ∧ smallSigma front back = 'ς' := by
  rcases smallSigma_eq_final_or front back with h | h
  · rw [h]
    exact (smallSigma_eq_final_or front (back ++ ys)).imp id fun h' => ⟨h', rfl⟩
  · rw [h]
    refine .inl ((smallSigma_eq_final_or front (back ++ ys)).resolve_left fun h' => ?_)
    obtain ⟨hf, hb⟩ := smallSigma_eq_final_iff.1 h'
    rw [smallSigma_eq_final_iff.2 ⟨hf, meetsCased_eq_false_of_append hb⟩] at h
    cases h

/-- What is put in front of it may give it this form. -/
theorem smallSigma_append_left (front xs back : List Char) :
    smallSigma (front ++ xs) back = smallSigma front back ∨
      smallSigma (front ++ xs) back = 'ς' ∧ smallSigma front back = 'σ' := by
  rcases smallSigma_eq_final_or front back with h | h
  · obtain ⟨hf, hb⟩ := smallSigma_eq_final_iff.1 h
    exact .inl (by rw [h, smallSigma_eq_final_iff, meetsCased_append_of_meetsCased hf, hb]; simp)
  · rw [h]
    exact (smallSigma_eq_final_or (front ++ xs) back).symm.imp id fun h' => ⟨h', rfl⟩

/-- A capital sigma that changes its form does so with a letter behind the text or with a letter in
front of it. -/
theorem smallSigma_eq_of_letters {front back : List Char}
    (hb : smallSigma front (back ++ ['a']) = smallSigma front back)
    (hf : smallSigma (front ++ ['a']) back = smallSigma front back) (xs ys : List Char) :
    smallSigma (front ++ xs) (back ++ ys) = smallSigma front back := by
  have hletter : meetsCased ['a'] = true := by decide +kernel
  rcases smallSigma_eq_final_or front back with h | h
  · -- Nothing in front matters, and what is met behind with `ys` is met with the letter.
    rw [h, smallSigma_eq_final_iff] at hb ⊢
    have hall : ¬ back.all isCaseIgnorable = true := by
      intro hall
      rw [meetsCased_append, if_pos hall, hletter] at hb
      cases hb.2
    refine ⟨meetsCased_append_of_meetsCased hb.1 xs, ?_⟩
    rw [meetsCased_append, if_neg hall]
    exact (smallSigma_eq_final_iff.1 h).2
  · -- What is met in front with `xs` is met with the letter, and nothing is met behind.
    rw [h] at hf ⊢
    refine (smallSigma_eq_final_or _ _).resolve_left fun hfinal => ?_
    obtain ⟨hfront, hback⟩ := smallSigma_eq_final_iff.1 hfinal
    have hback := meetsCased_eq_false_of_append hback
    have hnot : meetsCased front = false := by
      rw [← Bool.not_eq_true]
      intro hmeets
      rw [smallSigma_eq_final_iff.2 ⟨hmeets, hback⟩] at h
      cases h
    have hends : meetsCased (front ++ ['a']) = true := by
      rw [meetsCased_append, if_pos (all_isCaseIgnorable_of_meetsCased hnot hfront), hletter]
    rw [smallSigma_eq_final_iff.2 ⟨hends, hback⟩] at hf
    cases hf

/-- Whatever is around it, a text keeps the form of its capital sigmas if it does so with a letter
behind it and with a letter in front of it. -/
theorem forall_keepsSigmas_iff :
    (∀ xs ys, KeepsSigmas xs cs ys) ↔ KeepsSigmas [] cs ['a'] ∧ KeepsSigmas ['a'] cs [] := by
  constructor
  · exact fun h => ⟨h [] ['a'], h ['a'] []⟩
  · rintro ⟨hb, hf⟩ xs ys front back hcs
    refine smallSigma_eq_of_letters ?_ ?_ xs.reverse ys
    · simpa using hb front back hcs
    · simpa using hf front back hcs

/-- If some change of form takes the letter `d` away wherever it happens, then a text with such a
change has fewer of it. -/
theorem eq_or_count_lowercaseWithin_lt {d e : Char}
    (hchange : ∀ front back, smallSigma (front ++ before) (back ++ after) = smallSigma front back ∨
      smallSigma (front ++ before) (back ++ after) = e ∧ smallSigma front back = d)
    (hde : e ≠ d) (seen cs : List Char) :
    lowercaseWithin (seen ++ before) after cs = lowercaseWithin seen [] cs ∨
      (lowercaseWithin (seen ++ before) after cs).count d <
        (lowercaseWithin seen [] cs).count d := by
  induction cs generalizing seen with
  | nil => exact .inl rfl
  | cons c cs ih =>
    have ih := ih (c :: seen)
    rw [List.cons_append] at ih
    rw [lowercaseWithin, lowercaseWithin, List.append_nil, List.count_append, List.count_append]
    split
    · rcases hchange seen cs with hkeep | ⟨he, hd⟩
      · rw [hkeep]
        exact ih.imp (fun htail => by rw [htail]) fun hlt => Nat.add_lt_add_left hlt _
      · refine .inr ?_
        have hle := ih.elim (fun htail => Nat.le_of_eq (congrArg (List.count d) htail)) Nat.le_of_lt
        rw [he, hd, List.count_singleton_self, List.count_singleton, if_neg (by simpa using hde)]
        omega
    · exact ih.imp (fun htail => by rw [htail]) fun hlt => Nat.add_lt_add_left hlt _

/-- So a text that has no fewer of it keeps its lowercase form. -/
theorem lowercaseWithin_eq_of_count_le {d e : Char}
    (hchange : ∀ front back, smallSigma (front ++ before) (back ++ after) = smallSigma front back ∨
      smallSigma (front ++ before) (back ++ after) = e ∧ smallSigma front back = d)
    (hde : e ≠ d) (hcount : (lowercase cs).count d ≤ (lowercaseWithin before after cs).count d) :
    lowercaseWithin before after cs = lowercase cs := by
  have hsplit := eq_or_count_lowercaseWithin_lt hchange hde [] cs
  rw [List.nil_append, ← lowercaseAfter_eq [] cs] at hsplit
  exact hsplit.resolve_right (Nat.not_lt.2 hcount)

/-- Exactly the texts that keep the form of their capital sigmas everywhere are found in lowercase
in every text that they are a part of. -/
theorem forall_lowercase_infix_iff :
    (∀ xs ys, lowercase cs <:+: lowercase (xs ++ cs ++ ys)) ↔ ∀ xs ys, KeepsSigmas xs cs ys := by
  refine ⟨fun h => ?_, fun h xs ys => lowercase_infix (h xs ys)⟩
  have hle (xs ys : List Char) (d : Char) := (h xs ys).sublist.count_le d
  refine forall_keepsSigmas_iff.2 ⟨lowercaseWithin_eq_iff.1 ?_, lowercaseWithin_eq_iff.1 ?_⟩
  · -- A letter behind the text can only take `ς` from it, and brings none.
    rw [List.reverse_nil]
    refine @lowercaseWithin_eq_of_count_le [] ['a'] cs 'ς' 'σ' (fun front back => ?_) (by decide) ?_
    · rw [List.append_nil]
      exact smallSigma_append_right front back ['a']
    · have hcount := hle [] ['a'] 'ς'
      rwa [List.nil_append, lowercase_append, List.count_append] at hcount
  · -- A letter in front of it can only take `σ` from it, and brings none.
    rw [List.reverse_singleton]
    refine @lowercaseWithin_eq_of_count_le ['a'] [] cs 'σ' 'ς' (fun front back => ?_) (by decide) ?_
    · rw [List.append_nil]
      exact smallSigma_append_left front ['a'] back
    · have hcount := hle ['a'] [] 'σ'
      have hletter : (lowercaseWithin [] cs ['a']).count 'σ' = 0 := rfl
      rwa [List.append_nil, lowercase_append, List.count_append, hletter, Nat.zero_add] at hcount

end ViewQuery.Text
