/-!
# Cutting and joining texts

Searching a text for a part of it, cutting it where the part occurs, and joining pieces with a
character between them. All of it works on the characters of a text, with a `String` in front
where a caller holds one.

* `afterPrefix_eq_some_iff`: what is left of a text after a prefix;
* `occursIn_iff`: a part occurs in a text exactly when the text reads before, part, after;
* `cutAt_eq_some`: cutting at a part keeps everything but one occurrence of it.
-/

namespace ViewQuery.Text

/-- What follows `part` in a list of characters that starts with it. -/
def afterPrefix (part cs : List Char) : Option (List Char) :=
  if part.isPrefixOf cs then some (cs.drop part.length) else none

/-- What precedes `part` in a list of characters that ends with it. -/
def beforeSuffix (part cs : List Char) : Option (List Char) :=
  (afterPrefix part.reverse cs.reverse).map List.reverse

/-- Whether `part` occurs in a list of characters. -/
def occursIn (part : List Char) : List Char → Bool
  | [] => part.isEmpty
  | c :: cs => part.isPrefixOf (c :: cs) || occursIn part cs

/-- The characters before and after the first occurrence of `part`. -/
def cutAt (part : List Char) : List Char → Option (List Char × List Char)
  | [] => if part.isEmpty then some ([], []) else none
  | c :: cs =>
    match afterPrefix part (c :: cs) with
    | some rest => some ([], rest)
    | none => (cutAt part cs).map fun p => (c :: p.1, p.2)

/-- The characters before the first occurrence of `part`, or all of them. -/
def before (part cs : List Char) : List Char :=
  match cutAt part cs with
  | some p => p.1
  | none => cs

/-- The pieces of a text between the occurrences of a separator: one more than there are
separators, and empty where two separators meet. -/
def piecesBetween (separator : Char) (s : String) : List String :=
  (s.toList.splitOn separator).map String.ofList

/-- The texts one after the other with a separator between them. -/
def joinWith (separator : Char) (parts : List String) : String :=
  String.intercalate (String.singleton separator) parts

theorem toList_joinWith (separator : Char) (parts : List String) :
    (joinWith separator parts).toList = [separator].intercalate (parts.map String.toList) := by
  simp [joinWith, String.toList_intercalate]

theorem afterPrefix_eq_some_iff {part cs rest : List Char} :
    afterPrefix part cs = some rest ↔ cs = part ++ rest := by
  simp only [afterPrefix, List.isPrefixOf_iff_prefix, List.prefix_iff_eq_append]
  constructor
  · intro h
    split at h <;> simp_all
  · rintro rfl
    simp

theorem occursIn_iff (part cs : List Char) :
    occursIn part cs = true ↔ ∃ before after, cs = before ++ part ++ after := by
  induction cs with
  | nil => cases part <;> simp [occursIn]
  | cons c cs ih =>
    simp only [occursIn, Bool.or_eq_true, List.isPrefixOf_iff_prefix, ih]
    constructor
    · rintro (⟨after, h⟩ | ⟨front, after, rfl⟩)
      · exact ⟨[], after, by simp [h]⟩
      · exact ⟨c :: front, after, by simp⟩
    · rintro ⟨front, after, h⟩
      cases front with
      | nil => exact .inl ⟨after, by simpa using h.symm⟩
      | cons d front =>
        simp only [List.cons_append, List.cons.injEq] at h
        exact .inr ⟨front, after, h.2⟩

theorem cutAt_eq_some {part cs front after : List Char} (h : cutAt part cs = some (front, after)) :
    cs = front ++ part ++ after := by
  induction cs generalizing front with
  | nil =>
    simp only [cutAt] at h
    split at h <;> simp_all
  | cons c cs ih =>
    simp only [cutAt] at h
    split at h
    · rename_i rest hr
      obtain ⟨rfl, rfl⟩ : [] = front ∧ rest = after := by simpa using h
      simpa using afterPrefix_eq_some_iff.1 hr
    · obtain ⟨p, hp, he⟩ := Option.map_eq_some_iff.1 h
      obtain ⟨rfl, rfl⟩ : c :: p.1 = front ∧ p.2 = after := by simpa using he
      simp [ih hp]

end ViewQuery.Text
