import ViewQuery.Proofs.Filter.Decode
import ViewQuery.Proofs.Number.Index
import ViewQuery.Proofs.Text.FirstCut

/-!
# Column indexes in parameters

The parameter of a column of a group carries the index of the column behind a mark, and free text
in front of it: the client id of the table, the separator and the id of the group. The index is read
behind the first mark, so that it depends on this text whether it is read back.

* `KeepsIndex`: the texts behind which an index is read back;
* `readColumnIndex_groupParam_eq_ok_iff`: exactly behind these texts it is;
* `Table.activeFilters_eq_declared`: then every column of a group has the filter of its binding;
* `decode_matches_declared_iff`: when every request is matched against the declared filters.
-/

namespace ViewQuery.Filter

open ViewQuery.Text (cutAt before occursIn)

/-! ## Reading an index -/

/-- The index that is read in a list of characters: behind the first index mark, and up to the first
filter mark if there is one. -/
def indexIn (cs : List Char) : Option Nat :=
  (cutAt indexMark.toList cs).bind fun p =>
    Number.readIndex (before filterMark.toList p.2)

/-- The index that a text carries itself, between marks of its own. -/
def ownIndex (cs : List Char) : Option Nat :=
  (cutAt indexMark.toList cs).bind fun p =>
    (cutAt filterMark.toList p.2).bind fun q => Number.readIndex q.1

/-- An index that is written behind a text and the index mark is read back: the mark does not begin
in the text, or the text happens to carry the same index itself. -/
def KeepsIndex (text : String) (index : Nat) : Prop :=
  occursIn indexMark.toList (text.toList ++ indexMark.toList.dropLast) = false ∨
    ownIndex text.toList = some index

instance (text : String) (index : Nat) : Decidable (KeepsIndex text index) :=
  inferInstanceAs (Decidable (_ ∨ _))

theorem readColumnIndex_eq_ok_iff {parameter : String} {index : Nat} :
    readColumnIndex parameter = .ok index ↔ indexIn parameter.toList = some index := by
  unfold readColumnIndex
  dsimp only
  rw [← indexIn]
  cases indexIn parameter.toList <;> simp

/-- The characters that follow the text in the parameter of a column of a group. -/
def indexTail (index : Nat) : List Char := (toString index).toList ++ filterMark.toList

theorem toList_groupParam {R : Type} (t : Table R) (id : String) (index : Nat) :
    (t.groupParam id index).toList =
      (t.qualified id).toList ++ indexMark.toList ++ indexTail index := by
  simp [Table.groupParam, indexTail]

/-- The index mark is no part of an index: whatever begins with one of its characters is none. -/
theorem readIndex_before_eq_none {c : Char} (hc : c ∈ indexMark.toList) (part cs : List Char) :
    Number.readIndex (before part (c :: cs)) = none := by
  have hmark : (indexMark.toList.all fun c => !(c.isDigit || c == '+')) = true := rfl
  cases hr : Number.readIndex (before part (c :: cs)) with
  | none => rfl
  | some i =>
    obtain ⟨hne, hall⟩ := Number.isDigit_of_readIndex hr
    have hpre := Text.before_prefix part (c :: cs)
    cases hb : before part (c :: cs) with
    | nil => exact absurd hb hne
    | cons d ds =>
      rw [hb] at hpre hall
      obtain rfl : d = c := (List.cons_prefix_cons.1 hpre).1
      have hd := List.all_eq_true.1 hmark d hc
      exact absurd (hall d List.mem_cons_self) (by simpa using hd)

/-- Where the mark does not begin in the text, the index behind it is read. -/
theorem indexIn_of_not_occursIn {cs : List Char} {index : Nat} (hi : index < Number.indexBound)
    (h : occursIn indexMark.toList (cs ++ indexMark.toList.dropLast) = false) :
    indexIn (cs ++ indexMark.toList ++ indexTail index) = some index := by
  have hr : occursIn filterMark.toList ((toString index).toList ++ filterMark.toList.dropLast) =
      false := by
    -- The last character of the filter mark is neither a digit nor in front of it in the mark.
    rw [← Bool.not_eq_true, Text.occursIn_iff]
    rintro ⟨front, after, heq⟩
    have hmem : 'r' ∈ (toString index).toList ++ filterMark.toList.dropLast := by
      rw [heq]
      simp [filterMark]
    rcases List.mem_append.1 hmem with hd | hd
    · exact absurd (Number.isDigit_of_mem_repr hd) (by decide)
    · exact absurd hd (by decide)
  have hcut := Text.cutAt_append_part hr []
  rw [List.append_nil] at hcut
  rw [indexIn, Text.cutAt_append_part h, Option.bind_some, indexTail, before, hcut]
  exact Number.readIndex_repr hi

/-- Where no digit but only marks stand behind a text, the first filter mark is one of the text. -/
theorem occursIn_filterMark {cs ds front after : List Char} (hf : '_' ∉ front)
    (h : cs ++ indexMark.toList ++ ds = front ++ filterMark.toList ++ after) :
    occursIn filterMark.toList cs = true := by
  -- Both marks are an underscore and something else, with no underscore in the rest of the filter
  -- mark: what overlaps would have to begin with the same one.
  obtain ⟨index, hindex⟩ : ∃ cs, cs = "colIndex_".toList := ⟨_, rfl⟩
  obtain ⟨filter, hfilter⟩ : ∃ cs, cs = "filter".toList := ⟨_, rfl⟩
  have hne : ∀ {xs ys : List Char}, index ++ xs ≠ filter ++ ys := by
    rw [hindex, hfilter]
    intro xs ys he
    simp at he
  have hnot : '_' ∉ filter := by
    rw [hfilter]
    decide
  have hm : indexMark.toList = '_' :: index := by
    rw [hindex]
    rfl
  have hfm : filterMark.toList = '_' :: filter := by
    rw [hfilter]
    rfl
  rw [hfm, Text.occursIn_iff]
  rw [hm, hfm, List.append_assoc, List.append_assoc, List.cons_append, List.cons_append] at h
  rcases List.append_eq_append_iff.1 h with ⟨a, rfl, ha⟩ | ⟨a, rfl, ha⟩
  · cases a with
    | nil => exact absurd (List.cons.inj ha).2 hne
    | cons c a =>
      obtain ⟨rfl, -⟩ := List.cons.inj ha
      exact absurd (by simp) hf
  · cases a with
    | nil => exact absurd (List.cons.inj ha).2.symm hne
    | cons c a =>
      obtain ⟨rfl, ha'⟩ := List.cons.inj ha
      rcases List.append_eq_append_iff.1 ha' with ⟨b, rfl, -⟩ | ⟨b, rfl, hb⟩
      · exact ⟨front, b, by simp⟩
      · cases b with
        | nil => exact ⟨front, [], by simp⟩
        | cons c b =>
          obtain ⟨rfl, -⟩ := List.cons.inj hb
          exact absurd (by simp) hnot

/-- Behind a mark of the text, an index is read only up to a filter mark of the text. -/
theorem readIndex_before_append (cs ds : List Char) :
    Number.readIndex (before filterMark.toList (cs ++ indexMark.toList ++ ds)) =
      (cutAt filterMark.toList cs).bind fun q => Number.readIndex q.1 := by
  cases hcut : cutAt filterMark.toList cs with
  | some q =>
    rw [before, List.append_assoc, Text.cutAt_append_of_eq_some hcut, Option.bind_some]
  | none =>
    rw [Option.bind_none]
    cases hr : Number.readIndex (before filterMark.toList (cs ++ indexMark.toList ++ ds)) with
    | none => rfl
    | some i =>
      have hno : '_' ∉ before filterMark.toList (cs ++ indexMark.toList ++ ds) := fun hm =>
        absurd ((Number.isDigit_of_readIndex hr).2 '_' hm) (by decide)
      rw [before] at hno
      split at hno
      · rename_i q hq
        have hocc := occursIn_filterMark hno (Text.cutAt_eq_some hq)
        rw [Text.cutAt_eq_none_iff, hocc] at hcut
        cases hcut
      · exact absurd (by simp [indexMark]) hno

/-- Where the mark begins in the text and ends behind it, what is read is no index. -/
theorem indexIn_of_straddle {cs : List Char} (hcs : cutAt indexMark.toList cs = none)
    (h : occursIn indexMark.toList (cs ++ indexMark.toList.dropLast) = true) (ds : List Char) :
    indexIn (cs ++ indexMark.toList ++ ds) = none := by
  cases hcut : cutAt indexMark.toList (cs ++ indexMark.toList.dropLast) with
  | none =>
    rw [Text.cutAt_eq_none_iff, h] at hcut
    cases hcut
  | some p =>
    obtain ⟨front, after⟩ := p
    have hsuffix := Text.exists_suffix_of_cutAt_append hcs hcut
    have hlast : indexMark.toList = indexMark.toList.dropLast ++ ['_'] := rfl
    have hwhole : cs ++ indexMark.toList ++ ds =
        cs ++ indexMark.toList.dropLast ++ '_' :: ds := by
      rw [hlast]
      simp
    rw [hwhole, indexIn, Text.cutAt_append_of_eq_some hcut, Option.bind_some]
    cases after with
    | nil => exact readIndex_before_eq_none (by decide) _ _
    | cons c after =>
      have hc : c ∈ indexMark.toList.dropLast := hsuffix.subset List.mem_cons_self
      exact readIndex_before_eq_none (List.dropLast_subset _ hc) _ _

/-- An index is read back from the parameter of a column of a group exactly where the text in front
of it keeps it. -/
theorem readColumnIndex_groupParam_eq_ok_iff {R : Type} (t : Table R) (id : String) {index : Nat}
    (hi : index < Number.indexBound) :
    readColumnIndex (t.groupParam id index) = .ok index ↔ KeepsIndex (t.qualified id) index := by
  rw [readColumnIndex_eq_ok_iff, toList_groupParam, KeepsIndex]
  cases hocc : occursIn indexMark.toList
      ((t.qualified id).toList ++ indexMark.toList.dropLast) with
  | false => simp only [indexIn_of_not_occursIn hi hocc, true_or]
  | true =>
    rw [or_iff_right (by simp)]
    cases hcut : cutAt indexMark.toList (t.qualified id).toList with
    | none => rw [indexIn_of_straddle hcut hocc, ownIndex, hcut, Option.bind_none]
    | some p =>
      rw [indexIn, List.append_assoc, Text.cutAt_append_of_eq_some hcut, Option.bind_some,
        ← List.append_assoc, readIndex_before_append, ownIndex, hcut, Option.bind_some]

/-! ## The declared filters -/

/-- The number of columns of a group; a single column is none. -/
def Column.groupSize (c : Column) : Nat :=
  match c.binding with
  | .single _ => 0
  | .group bindings => bindings.length

namespace Table

variable {R : Type}

/-- Something holds of every group of a table with each of its indexes. -/
def EachIndex (t : Table R) (P : Column → Nat → Prop) : Prop :=
  ∀ c ∈ t.columns, ∀ index < c.groupSize, P c index

instance (t : Table R) (P : Column → Nat → Prop) [∀ c index, Decidable (P c index)] :
    Decidable (t.EachIndex P) :=
  inferInstanceAs (Decidable (∀ c ∈ t.columns, ∀ index < c.groupSize, P c index))

/-- The filters that a column declares: the value of each parameter is for the field of its own
binding. -/
def declaredBy (t : Table R) (c : Column) : List ActiveFilter :=
  match c.binding with
  | .single binding =>
    [{ parameter := t.columnParam c.id, constraint := c.constraint
       field := fieldOfBinding binding }]
  | .group bindings => bindings.zipIdx.map fun b =>
    { parameter := t.groupParam c.id b.2, constraint := c.constraint, field := fieldOfBinding b.1 }

/-- The filters that the columns of a table declare, in order. -/
def declaredFilters (t : Table R) : List ActiveFilter := t.columns.flatMap t.declaredBy

theorem map_activeFilter_paramsOf {t : Table R} {c : Column}
    (h : ∀ index < c.groupSize, readColumnIndex (t.groupParam c.id index) = .ok index) :
    ((t.paramsOf c).map fun p => (p, c)).map activeFilter = (t.declaredBy c).map .ok := by
  unfold Column.groupSize at h
  unfold paramsOf declaredBy
  cases hb : c.binding with
  | single binding =>
    have hf : activeFilter (t.columnParam c.id, c) = .ok { parameter := t.columnParam c.id
                                                           constraint := c.constraint
                                                           field := fieldOfBinding binding } :=
      activeFilter_eq_ok_iff.2 ⟨by simp only [entryField?, hb], rfl, rfl⟩
    simp only [List.map_cons, List.map_nil, hf]
  | group bindings =>
    rw [hb] at h
    refine List.ext_getElem (by simp) fun index hi _ => ?_
    have hi : index < bindings.length := by simpa using hi
    simp only [List.getElem_map, List.getElem_range, List.getElem_zipIdx, Nat.zero_add]
    refine activeFilter_eq_ok_iff.2 ⟨?_, rfl, rfl⟩
    simp only [entryField?, hb, h index hi, List.getElem?_eq_getElem hi, Option.map_some]

/-- Where every index is read back, the filters of a table are those that its columns declare. -/
theorem activeFilters_eq_declared {t : Table R}
    (h : t.EachIndex fun c index => readColumnIndex (t.groupParam c.id index) = .ok index) :
    t.activeFilters = .ok t.declaredFilters := by
  rw [activeFilters_eq_ok_iff, filterMap, declaredFilters, List.map_flatMap, List.map_flatMap]
  exact List.flatMap_congr fun c hc => map_activeFilter_paramsOf (h c hc)

end Table

/-! ## Requests -/

section

variable {R : Type} [Row R]

/-- Every request is matched against the filters that the columns declare, and every index is read
back, exactly where the texts in front of the indexes keep them. -/
theorem decode_matches_declared_iff (t : Table R)
    (hsize : t.EachIndex fun _ index => index < Number.indexBound) :
    ((t.EachIndex fun c index => readColumnIndex (t.groupParam c.id index) = .ok index) ∧
        ∀ request reply,
          (∃ matched, (decode t request reply).result = .ok matched) ∧
            (decode t request reply).table.filters =
              appliedFilters t.declaredFilters t.globalParam request ∧
            (t.isLazy = false → (decode t request reply).table.filteredValue =
              some ((matchedRows t t.declaredFilters request).map (·.1)))) ↔
      t.EachIndex fun c index => KeepsIndex (t.qualified c.id) index := by
  constructor
  · rintro ⟨hread, -⟩ c hc index hi
    exact (readColumnIndex_groupParam_eq_ok_iff t c.id (hsize c hc index hi)).1 (hread c hc index hi)
  · intro hkeep
    have hread : t.EachIndex fun c index =>
        readColumnIndex (t.groupParam c.id index) = .ok index := fun c hc index hi =>
      (readColumnIndex_groupParam_eq_ok_iff t c.id (hsize c hc index hi)).2 (hkeep c hc index hi)
    have hactive := Table.activeFilters_eq_declared hread
    refine ⟨hread, fun request reply => ?_⟩
    have hnoted : (t.noted t.declaredFilters request).filters =
        appliedFilters t.declaredFilters t.globalParam request := by
      rw [← t.globalParam_cleared]
      rfl
    cases hl : t.isLazy with
    | true =>
      rw [decode_of_lazy hactive hl]
      exact ⟨⟨none, rfl⟩, hnoted, fun hfalse => absurd hfalse (by decide)⟩
    | false =>
      rw [decode_of_eager hactive hl]
      exact ⟨⟨_, rfl⟩, (Table.filters_store ..).trans hnoted,
        fun _ => Table.filteredValue_store ..⟩

/-- A table of one red car, with a group of columns for its brand and its color. -/
def redCar (clientId id : String) : Table Json :=
  { Table.new clientId ':' [.object [("brand", .string "VW"), ("color", .string "red")]] with
    columns := [Column.group id ["car.brand", "car.color"]] }

/-- Parts of the marks do no harm as long as the index mark is not made up of them. -/
theorem decode_matches_declared_iff_redCar :
    let t := redCar "cars_filter_colIndex" "spec"
    let request := Request.ofList [(t.groupParam "spec" 1, "R")]
    readColumnIndex (t.groupParam "spec" 1) = .ok 1 ∧
      (decode t request none).table.filteredValue = some t.rows := by
  obtain ⟨hread, hdecode⟩ := (decode_matches_declared_iff
    (redCar "cars_filter_colIndex" "spec") (by decide)).2 (by decide +kernel)
  exact ⟨hread _ List.mem_cons_self 1 (by decide),
    ((hdecode _ none).2.2 rfl).trans (congrArg some rfl)⟩

/-- With the index mark in front of the index, the value for the brand is compared with the color, or
the parameter cannot be read at all; the latter also where the mark is made up of the end of an id
and its own beginning. -/
theorem decode_matches_other_column :
    let requested := fun clientId id =>
      decode (redCar clientId id) (.ofList [((redCar clientId id).groupParam id 0, "vw")]) none
    readColumnIndex ((redCar "cars_colIndex_1_filter" "spec").groupParam "spec" 0) = .ok 1 ∧
      (requested "cars_colIndex_1_filter" "spec").table.filteredValue = some [] ∧
      (requested "cars_colIndex_2_filter" "spec").result = .error
        (.columnIndex "cars_colIndex_2_filter:spec_colIndex_0_filter") ∧
      (requested "cars" "spec_colIndex").result = .error
        (.columnIndex "cars:spec_colIndex_colIndex_0_filter") :=
  ⟨rfl, rfl, rfl, rfl⟩

end

end ViewQuery.Filter
