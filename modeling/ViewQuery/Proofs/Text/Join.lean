import ViewQuery.Text.Cut

/-!
# Joining and cutting again

Joining texts with a character between them, and cutting a text at a character, undo each other.

* `joinWith_piecesBetween`: the pieces of a text make up the text;
* `piecesBetween_joinWith`: joined texts are cut where they were joined;
* `joinWith_append`: two lists of texts that are joined at once;
* `joinWith_eq_empty_iff`: only an empty text alone, or no text, joins to nothing;
* `eq_or_mem_of_mem_joinWith`: the characters of joined texts.
-/

namespace ViewQuery.Text

theorem piecesBetween_ne_nil (separator : Char) (s : String) : piecesBetween separator s ≠ [] := by
  simp [piecesBetween, List.splitOn_ne_nil]

theorem joinWith_piecesBetween (separator : Char) (s : String) :
    joinWith separator (piecesBetween separator s) = s := by
  rw [← String.toList_inj, toList_joinWith, piecesBetween, List.map_map]
  simp [Function.comp_def]

theorem piecesBetween_joinWith {separator : Char} {parts : List String} (hne : parts ≠ [])
    (h : ∀ part ∈ parts, separator ∉ part.toList) :
    piecesBetween separator (joinWith separator parts) = parts := by
  have hl : ∀ l ∈ parts.map String.toList, separator ∉ l := by
    simpa using h
  rw [piecesBetween, toList_joinWith, List.splitOn_intercalate separator hl (by simpa using hne),
    List.map_map]
  simp [Function.comp_def]

theorem joinWith_append {parts parts' : List String} (h : parts ≠ []) (h' : parts' ≠ [])
    (separator : Char) :
    joinWith separator (parts ++ parts') =
      joinWith separator parts ++ String.singleton separator ++ joinWith separator parts' :=
  String.intercalate_append_of_ne_nil h h'

theorem joinWith_eq_empty_iff {separator : Char} {parts : List String} :
    joinWith separator parts = "" ↔ parts = [] ∨ parts = [""] := by
  rw [← String.toList_inj, toList_joinWith]
  match parts with
  | [] => simp
  | [part] => simp
  | part :: part' :: rest => simp [List.intercalate_cons_cons]

/-- What stands in joined texts is in one of them or is the character between them. -/
theorem eq_or_mem_of_mem_joinWith {separator c : Char} {parts : List String}
    (h : c ∈ (joinWith separator parts).toList) :
    c = separator ∨ ∃ part ∈ parts, c ∈ part.toList := by
  rw [toList_joinWith] at h
  induction parts with
  | nil => simp at h
  | cons part parts ih =>
    cases parts with
    | nil => exact .inr ⟨part, List.mem_cons_self, by simpa using h⟩
    | cons part' parts =>
      rw [List.map_cons, List.map_cons, List.intercalate_cons_cons, List.mem_append,
        List.mem_append, List.mem_singleton] at h
      rcases h with (h | h) | h
      · exact .inr ⟨part, List.mem_cons_self, h⟩
      · exact .inl h
      · exact (ih h).imp_right fun ⟨p, hp, hc⟩ => ⟨p, List.mem_cons_of_mem part hp, hc⟩

end ViewQuery.Text
