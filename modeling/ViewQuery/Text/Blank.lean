/-!
# Blank characters

Which characters count as white space, and cutting them off the ends of a text. The set is
Unicode's `White_Space` property; every part of the library that speaks of blank texts or of
trimming means this set.

* `trim_append_blank`, `trim_blank_append`: blank characters around a text do not show after
  trimming;
* `trim_eq_nil_iff`: a text trims to nothing exactly when all of it is blank.
-/

namespace ViewQuery.Text

/-- The `White_Space` property. -/
def isBlank (c : Char) : Bool :=
  let n := c.toNat
  (9 ≤ n && n ≤ 13) || n == 0x20 || n == 0x85 || n == 0xA0 || n == 0x1680 ||
    (0x2000 ≤ n && n ≤ 0x200A) || n == 0x2028 || n == 0x2029 || n == 0x202F || n == 0x205F ||
    n == 0x3000

/-- The characters without the blank ones in front. -/
def trimStart (cs : List Char) : List Char := cs.dropWhile isBlank

/-- The characters without the blank ones at the end. -/
def trimEnd (cs : List Char) : List Char := (cs.reverse.dropWhile isBlank).reverse

/-- The characters from the first to the last that is not blank. -/
def trim (cs : List Char) : List Char := trimEnd (trimStart cs)

/-- A text without the blank characters at its two ends. -/
def trimmed (s : String) : String := .ofList (trim s.toList)

/-- Whether a text holds nothing but blank characters. -/
def allBlank (s : String) : Bool := s.toList.all isBlank

theorem toList_trimmed (s : String) : (trimmed s).toList = trim s.toList :=
  String.toList_ofList

theorem trimEnd_append_blank (cs bs : List Char) (h : bs.all isBlank) :
    trimEnd (cs ++ bs) = trimEnd cs := by
  have h' : ∀ c ∈ bs.reverse, isBlank c = true := by simpa using h
  simp [trimEnd, List.dropWhile_append_of_pos h']

theorem trimStart_blank_append (bs cs : List Char) (h : bs.all isBlank) :
    trimStart (bs ++ cs) = trimStart cs := by
  have h' : ∀ c ∈ bs, isBlank c = true := by simpa using h
  simp [trimStart, List.dropWhile_append_of_pos h']

theorem dropWhile_isBlank_eq_nil_iff (cs : List Char) :
    cs.dropWhile isBlank = [] ↔ ∀ c ∈ cs, isBlank c = true := by
  induction cs with
  | nil => simp
  | cons c cs ih => cases h : isBlank c <;> simp [h, ih]

theorem trimEnd_eq_nil_iff (cs : List Char) : trimEnd cs = [] ↔ cs.all isBlank := by
  rw [trimEnd, List.reverse_eq_nil_iff, dropWhile_isBlank_eq_nil_iff, ← List.all_eq_true,
    List.all_reverse]

theorem trim_blank_append (bs cs : List Char) (h : bs.all isBlank) :
    trim (bs ++ cs) = trim cs := by
  rw [trim, trimStart_blank_append bs cs h, trim]

theorem all_trimStart (cs : List Char) : (trimStart cs).all isBlank = cs.all isBlank := by
  induction cs with
  | nil => rfl
  | cons c cs ih =>
    simp only [trimStart, List.dropWhile_cons] at ih ⊢
    split
    · rename_i h
      simpa [h] using ih
    · rfl

theorem trim_eq_nil_iff (cs : List Char) : trim cs = [] ↔ cs.all isBlank := by
  rw [trim, trimEnd_eq_nil_iff, all_trimStart]

theorem trim_append_blank (cs bs : List Char) (h : bs.all isBlank) :
    trim (cs ++ bs) = trim cs := by
  by_cases hc : cs.all isBlank
  · rw [(trim_eq_nil_iff cs).2 hc, trim_eq_nil_iff]
    simp_all
  · have : trimStart (cs ++ bs) = trimStart cs ++ bs := by
      rw [trimStart, List.dropWhile_append, if_neg]
      · rfl
      · simpa [dropWhile_isBlank_eq_nil_iff] using hc
    rw [trim, this, trimEnd_append_blank _ _ h, trim]

end ViewQuery.Text
