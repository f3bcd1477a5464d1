import ViewQuery.Text.Cut

/-!
# Cutting at the first occurrence

Where a text is cut when more text stands behind it, and where the part may begin in the one and
end in the other.

* `cutAt_eq_none_iff`: a text is cut exactly when the part occurs in it;
* `cutAt_append_of_eq_some`: a text that is cut is cut at the same place with more text behind it;
* `cutAt_append_part`: a part is cut where it was put, if it neither occurs earlier nor begins
  earlier and ends within itself;
* `cutAt_singleton_eq_some_iff`: cutting at a single character;
* `exists_suffix_of_cutAt_append`: what is left behind a part that two texts make up together.
-/

namespace ViewQuery.Text

variable {part cs ds front after : List Char}

theorem afterPrefix_eq_none_iff : afterPrefix part cs = none ↔ ¬ part <+: cs := by
  simp [afterPrefix, List.isPrefixOf_iff_prefix]

theorem afterPrefix_singleton_eq_none_iff {c : Char} :
    afterPrefix [c] cs = none ↔ cs.head? ≠ some c := by
  rw [afterPrefix_eq_none_iff, ne_eq, List.head?_eq_some_iff]
  exact not_congr (exists_congr fun rest => eq_comm)

theorem cutAt_eq_none_iff : cutAt part cs = none ↔ occursIn part cs = false := by
  induction cs with
  | nil => cases part <;> simp [cutAt, occursIn]
  | cons c cs ih =>
    rw [cutAt, occursIn, Bool.or_eq_false_iff, ← ih]
    cases hp : afterPrefix part (c :: cs) with
    | some rest =>
      have hpre : part.isPrefixOf (c :: cs) = true :=
        List.isPrefixOf_iff_prefix.2 ⟨rest, (afterPrefix_eq_some_iff.1 hp).symm⟩
      simp [hpre]
    | none =>
      have hpre : part.isPrefixOf (c :: cs) = false := by
        rw [← Bool.not_eq_true, List.isPrefixOf_iff_prefix]
        exact afterPrefix_eq_none_iff.1 hp
      simp [hpre]

/-- A text that is cut is cut at the same place with more text behind it. -/
theorem cutAt_append_of_eq_some (h : cutAt part cs = some (front, after)) (ds : List Char) :
    cutAt part (cs ++ ds) = some (front, after ++ ds) := by
  induction cs generalizing front with
  | nil =>
    cases part with
    | nil =>
      obtain ⟨rfl, rfl⟩ : [] = front ∧ [] = after := by simpa [cutAt] using h
      cases ds <;> simp [cutAt, afterPrefix]
    | cons p part => simp [cutAt] at h
  | cons c cs ih =>
    rw [cutAt] at h
    cases hp : afterPrefix part (c :: cs) with
    | some rest =>
      rw [hp] at h
      obtain ⟨rfl, rfl⟩ : [] = front ∧ rest = after := by simpa using h
      have hp' : afterPrefix part (c :: (cs ++ ds)) = some (rest ++ ds) := by
        rw [afterPrefix_eq_some_iff, ← List.append_assoc, ← afterPrefix_eq_some_iff.1 hp,
          List.cons_append]
      rw [List.cons_append, cutAt, hp']
    | none =>
      rw [hp] at h
      obtain ⟨⟨front', after'⟩, hcut, hfront⟩ := Option.map_eq_some_iff.1 h
      obtain ⟨rfl, rfl⟩ : c :: front' = front ∧ after' = after := by simpa using hfront
      -- The part fits into the rest of the text, so it cannot begin here and end behind the text.
      have hlen : part.length ≤ (c :: cs).length := by
        rw [cutAt_eq_some hcut]
        simp
        omega
      have hp' : afterPrefix part (c :: (cs ++ ds)) = none := by
        rw [afterPrefix_eq_none_iff] at hp ⊢
        exact fun hpre => hp (List.prefix_of_prefix_length_le hpre (List.prefix_append (c :: cs) ds)
          hlen)
      rw [List.cons_append, cutAt, hp']
      simp only [ih hcut, Option.map_some]

/-- A part is cut where it was put, if it does not begin earlier. -/
theorem cutAt_append_part (h : occursIn part (cs ++ part.dropLast) = false) (ds : List Char) :
    cutAt part (cs ++ part ++ ds) = some (cs, ds) := by
  induction cs with
  | nil =>
    cases part with
    | nil => simp [occursIn] at h
    | cons p part =>
      have hp : afterPrefix (p :: part) (p :: (part ++ ds)) = some ds :=
        afterPrefix_eq_some_iff.2 (List.cons_append ..).symm
      rw [List.nil_append, List.cons_append, cutAt, hp]
  | cons c cs ih =>
    rw [List.cons_append, occursIn, Bool.or_eq_false_iff, ← Bool.not_eq_true,
      List.isPrefixOf_iff_prefix] at h
    have hp : afterPrefix part (c :: (cs ++ part ++ ds)) = none := by
      rw [afterPrefix_eq_none_iff]
      intro hpre
      have hlong : c :: (cs ++ part.dropLast) <+: c :: (cs ++ part ++ ds) := by
        rw [List.append_assoc]
        exact List.cons_prefix_cons.2 ⟨rfl, (List.prefix_append_right_inj cs).2
          (part.dropLast_prefix.trans (List.prefix_append part ds))⟩
      refine h.1 (List.prefix_of_prefix_length_le hpre hlong ?_)
      simp
      omega
    rw [List.cons_append, List.cons_append, cutAt, hp]
    simp only [ih h.2, Option.map_some]

/-- A text is cut at a character where this stands first. -/
theorem cutAt_singleton_eq_some_iff {c : Char} :
    cutAt [c] cs = some (front, after) ↔ c ∉ front ∧ cs = front ++ c :: after := by
  constructor
  · intro h
    refine ⟨?_, by simpa using cutAt_eq_some h⟩
    induction cs generalizing front with
    | nil => simp [cutAt] at h
    | cons d cs ih =>
      rw [cutAt] at h
      cases hp : afterPrefix [c] (d :: cs) with
      | some rest =>
        rw [hp] at h
        obtain ⟨rfl, -⟩ : [] = front ∧ rest = after := by simpa using h
        exact List.not_mem_nil
      | none =>
        rw [hp] at h
        obtain ⟨⟨front', after'⟩, hcut, hfront⟩ := Option.map_eq_some_iff.1 h
        obtain ⟨rfl, rfl⟩ : d :: front' = front ∧ after' = after := by simpa using hfront
        have hd : d ≠ c := by simpa using afterPrefix_singleton_eq_none_iff.1 hp
        simpa [hd.symm] using ih hcut
  · rintro ⟨hc, rfl⟩
    have hno : occursIn [c] (front ++ [c].dropLast) = false := by
      rw [← Bool.not_eq_true, occursIn_iff]
      rintro ⟨before, behind, h⟩
      exact hc (by simp [List.append_nil front ▸ h])
    simpa using cutAt_append_part hno after

/-- A part that two texts make up together, but that does not occur in the first, ends in the second
one. -/
theorem exists_suffix_of_cutAt_append (hcs : cutAt part cs = none)
    (h : cutAt part (cs ++ ds) = some (front, after)) : after <:+ ds := by
  have heq : cs ++ ds = (front ++ part) ++ after := cutAt_eq_some h
  rcases List.append_eq_append_iff.1 heq with ⟨middle, -, hds⟩ | ⟨middle, hc, -⟩
  · exact ⟨middle, hds.symm⟩
  · rw [cutAt_eq_none_iff, ← Bool.not_eq_true, occursIn_iff] at hcs
    exact absurd ⟨front, middle, hc⟩ hcs

theorem before_prefix (part cs : List Char) : before part cs <+: cs := by
  unfold before
  split
  · rename_i p hp
    exact ⟨part ++ p.2, by rw [← List.append_assoc]; exact (cutAt_eq_some hp).symm⟩
  · exact List.prefix_rfl

end ViewQuery.Text
