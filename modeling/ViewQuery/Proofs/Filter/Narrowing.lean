import Mathlib.Data.List.Basic
import ViewQuery.Proofs.Filter.Matching

/-!
# More values keep fewer rows

A request that has the values of another one, and maybe more, keeps rows that the other one keeps as
well. A value under a parameter can only take rows away, be it that of a column, of several columns
at once, of the global filter, or of a column and the global filter together; without any value, no
row goes.

* `Request.NarrowedBy`: another request has the values of this one;
* `Table.Keeps.of_narrowedBy`: what it keeps is kept by this one;
* `Table.keeps_of_blank`: what a request without values keeps;
* `decode_narrows`: the two requests applied to one table.
-/

namespace ViewQuery.Filter

namespace Request

variable {request narrower : Request} {name value : String}

/-- Where this request has a value that is not blank, another one has the same value. Under any
other name that one may have what it likes. -/
def NarrowedBy (request narrower : Request) : Prop :=
  ∀ name value, request.get? name = some value → Text.allBlank value = false →
    narrower.get? name = some value

theorem mem_nonBlank?_iff :
    value ∈ request.nonBlank? name ↔
      request.get? name = some value ∧ Text.allBlank value = false := by
  rw [nonBlank?, Option.mem_def, Option.filter_eq_some_iff, Bool.not_eq_true']

theorem NarrowedBy.mem_nonBlank? (h : request.NarrowedBy narrower)
    (hv : value ∈ request.nonBlank? name) : value ∈ narrower.nonBlank? name := by
  obtain ⟨hget, hblank⟩ := mem_nonBlank?_iff.1 hv
  exact mem_nonBlank?_iff.2 ⟨h name value hget hblank, hblank⟩

/-- What a list of pairs makes a request hold under a name is in the list. -/
theorem mem_of_get?_ofList {pairs : List (String × String)}
    (h : (ofList pairs).get? name = some value) : (name, value) ∈ pairs :=
  Dict.mem_of_lookup_ofList h

/-- All values of a request are blank. -/
def AllBlank (request : Request) : Prop :=
  ∀ name value, request.get? name = some value → Text.allBlank value = true

theorem AllBlank.not_mem_nonBlank? (h : request.AllBlank) : value ∉ request.nonBlank? name := by
  intro hv
  obtain ⟨hget, hblank⟩ := mem_nonBlank?_iff.1 hv
  rw [h name value hget] at hblank
  cases hblank

end Request

variable {R : Type} [Row R] {t : Table R} {row : R} {request narrower : Request}

/-! ## One row -/

theorem Table.Keeps.of_narrowedBy (h : request.NarrowedBy narrower) (hk : t.Keeps narrower row) :
    t.Keeps request row :=
  ⟨fun entry he value hv => hk.1 entry he value (h.mem_nonBlank? hv),
    fun value hv => hk.2 value (h.mem_nonBlank? hv)⟩

theorem Table.keeps_of_blank (h : request.AllBlank) (t : Table R) (row : R) : t.Keeps request row :=
  ⟨fun _ _ _ hv => absurd hv h.not_mem_nonBlank?, fun _ hv => absurd hv h.not_mem_nonBlank?⟩

/-! ## All rows -/

/-- The rows of a table that a request keeps. -/
def Table.rowsKept (t : Table R) (request : Request) : List R :=
  t.rows.filter fun row => decide (t.Keeps request row)

theorem Table.rowsKept_sublist (h : request.NarrowedBy narrower) (t : Table R) :
    (t.rowsKept narrower).Sublist (t.rowsKept request) := by
  refine List.monotone_filter_right t.rows fun row hk => ?_
  rw [decide_eq_true_iff] at hk ⊢
  exact hk.of_narrowedBy h

theorem Table.rowsKept_of_blank (h : request.AllBlank) (t : Table R) : t.rowsKept request = t.rows :=
  List.filter_eq_self.2 fun row _ => decide_eq_true (t.keeps_of_blank h row)

/-- A request that goes through the rows leaves those that it keeps. -/
theorem decode_eq_rowsKept {active : List ActiveFilter} (h : t.activeFilters = .ok active)
    (hl : t.isLazy = false) (request : Request) (reply : Option Reply) :
    (decode t request reply).result = .ok (some (t.rowsKept request).length) ∧
      (decode t request reply).table.filteredValue = some (t.rowsKept request) := by
  have hkept : (matchedRows t active request).map (·.1) = t.rowsKept request := matchedRows_map_fst h
  constructor
  · rw [result_decode, h, Except.map, hl, if_neg Bool.false_ne_true, ← hkept, List.length_map]
  · rw [filteredValue_decode, h, Except.toOption, Option.bind_some, hl,
      if_neg Bool.false_ne_true, hkept]

/-- More values keep fewer rows. Of two requests for a table that is not lazy, either both succeed
or none does. If one has the values of the other, then the rows that it leaves are some of those that
the other leaves, in their order, and no more in number; and a request without values leaves all
rows. -/
theorem decode_narrows (hl : t.isLazy = false) (h : request.NarrowedBy narrower)
    (reply reply' : Option Reply) :
    let wide := decode t request reply
    let narrow := decode t narrower reply'
    ((∃ n, wide.result = .ok n) ↔ ∃ n, narrow.result = .ok n) ∧
      ∀ n, wide.result = .ok n → ∃ kept fewer,
        wide.table.filteredValue = some kept ∧ narrow.table.filteredValue = some fewer ∧
          fewer.Sublist kept ∧
          n = some kept.length ∧ narrow.result = .ok (some fewer.length) ∧
          fewer.length ≤ kept.length ∧ (request.AllBlank → kept = t.rows) := by
  intro wide narrow
  cases ha : t.activeFilters with
  | error e =>
    have hwide : wide.result = .error e := by rw [result_decode, ha, Except.map]
    have hnarrow : narrow.result = .error e := by rw [result_decode, ha, Except.map]
    simp [hwide, hnarrow]
  | ok active =>
    obtain ⟨hwide, hkept⟩ := decode_eq_rowsKept ha hl request reply
    obtain ⟨hnarrow, hfewer⟩ := decode_eq_rowsKept ha hl narrower reply'
    refine ⟨iff_of_true ⟨_, hwide⟩ ⟨_, hnarrow⟩, fun n hn => ?_⟩
    have hsub := t.rowsKept_sublist h
    exact ⟨t.rowsKept request, t.rowsKept narrower, hkept, hfewer, hsub,
      Except.ok.inj (hn.symm.trans hwide), hnarrow, hsub.length_le, fun hb => t.rowsKept_of_blank hb⟩

/-- A table of three cars, the first and the last of which are the same. -/
def threeCars : Table Json :=
  let golf := Json.object [("brand", .string "VW"), ("model", .string "Golf")]
  let gamma := Json.object [("brand", .string "Lancia"), ("model", .string "Gamma")]
  { Table.new "t" ':' [golf, gamma, golf] with
    columns := [Column.single "b" "car.brand", Column.single "m" "car.model"] }

/-- A blank value gives way to another one, and the global filter comes in as well. -/
theorem decode_narrows_globalAdded :
    let request := Request.ofList [("t:m_filter", "G"), ("t:b_filter", " ")]
    let narrower :=
      Request.ofList [("t:m_filter", "G"), ("t:b_filter", "vw"), ("t:globalFilter", "OLF")]
    request.NarrowedBy narrower ∧
      (decode threeCars request none).result = .ok (some 3) ∧
      (decode threeCars narrower none).result = .ok (some 2) ∧
      ∃ kept fewer, (decode threeCars request none).table.filteredValue = some kept ∧
        (decode threeCars narrower none).table.filteredValue = some fewer ∧
        fewer.Sublist kept := by
  intro request narrower
  have hrequest : request.NarrowedBy narrower := by
    intro name value hget hblank
    rcases List.mem_pair.1 (Request.mem_of_get?_ofList hget) with h | h
    · cases h
      rfl
    · cases h
      exact absurd hblank (by decide)
  have hwide : (decode threeCars request none).result = .ok (some 3) := rfl
  obtain ⟨-, hrows⟩ := @decode_narrows _ _ threeCars _ _ rfl hrequest none none
  obtain ⟨kept, fewer, hkept, hfewer, hsub, -⟩ := hrows _ hwide
  exact ⟨hrequest, hwide, rfl, kept, fewer, hkept, hfewer, hsub⟩

end ViewQuery.Filter
