import ViewQuery.Proofs.Filter.Decode

/-!
# The rows that a filter request keeps

The rule for one row, said for all filters at once, and the walk through the filters that stops at
the first one to refuse:

* `Table.Keeps`: the rule;
* `passesFrom_eq_true_iff`, `passes_eq_true_iff_keeps`: the walk decides the rule;
* `matchedRows_map_fst`: the rows that pass are those that the rule keeps, in order;
* `decode_keeps_matching_rows`: what a request leaves in a table that is not lazy.
-/

namespace ViewQuery.Filter

open ViewQuery.Text (lowercased occursIn)

variable {R : Type} [Row R]

/-! ## The rule -/

/-- A row has a cell at the field of an entry, and the cell in lowercase has a property. -/
def CellHas (row : R) (entry : String × Column) (p : String → Bool) : Prop :=
  ∃ field ∈ Table.entryField? entry, ∃ cell ∈ Row.cell row field, p (lowercased cell) = true

instance (row : R) (entry : String × Column) (p : String → Bool) :
    Decidable (CellHas row entry p) :=
  inferInstanceAs (Decidable (∃ field ∈ Table.entryField? entry, ∃ cell ∈ Row.cell row field,
    p (lowercased cell) = true))

/-- Every column with a value in the request accepts its cell. -/
def Table.ColumnsAccept (t : Table R) (request : Request) (row : R) : Prop :=
  ∀ entry ∈ t.filterMap, ∀ value ∈ request.nonBlank? entry.1,
    CellHas row entry fun cell => entry.2.constraint.accepts cell (lowercased value)

instance (t : Table R) (request : Request) (row : R) : Decidable (t.ColumnsAccept request row) :=
  inferInstanceAs (Decidable (∀ entry ∈ t.filterMap, ∀ value ∈ request.nonBlank? entry.1,
    CellHas row entry fun cell => entry.2.constraint.accepts cell (lowercased value)))

/-- The global value, if there is one, is part of the cell of some entry, whether that entry has a
value of its own or not. -/
def Table.GlobalFound (t : Table R) (request : Request) (row : R) : Prop :=
  ∀ value ∈ request.nonBlank? t.globalParam, ∃ entry ∈ t.filterMap,
    CellHas row entry fun cell => occursIn (lowercased value).toList cell.toList

instance (t : Table R) (request : Request) (row : R) : Decidable (t.GlobalFound request row) :=
  inferInstanceAs (Decidable (∀ value ∈ request.nonBlank? t.globalParam, ∃ entry ∈ t.filterMap,
    CellHas row entry fun cell => occursIn (lowercased value).toList cell.toList))

/-- A filter request keeps a row of a table. -/
def Table.Keeps (t : Table R) (request : Request) (row : R) : Prop :=
  t.ColumnsAccept request row ∧ t.GlobalFound request row

instance (t : Table R) (request : Request) (row : R) : Decidable (t.Keeps request row) :=
  inferInstanceAs (Decidable (t.ColumnsAccept request row ∧ t.GlobalFound request row))

/-! ## The walk through the filters -/

/-- A filter without a value lets every cell through, and one with a value those that it accepts. -/
def ActiveFilter.Lets (f : ActiveFilter) (request : Request) (row : R) : Prop :=
  ∀ value ∈ request.nonBlank? f.parameter, ∃ cell ∈ lowerCell row f.field,
    f.constraint.accepts cell (lowercased value) = true

/-- The walk from a filter on: the filters that are left let the row through, and the global value
was found before or is found at one of them. -/
theorem passesFrom_eq_true_iff {request : Request} {globalValue : Option String} {row : R}
    {found : Bool} {active : List ActiveFilter} :
    passesFrom request globalValue row found active = true ↔
      (∀ f ∈ active, f.Lets request row) ∧
        ∀ value ∈ globalValue, found = true ∨
          ∃ f ∈ active, cellHolds (lowerCell row f.field) value = true := by
  induction active generalizing found with
  | nil => cases globalValue <;> simp [passesFrom]
  | cons f rest ih =>
    -- Looking at one more cell adds it to those in which the global value may be found.
    have hfound : ∀ value ∈ globalValue,
        ((found || globalValue.any (cellHolds (lowerCell row f.field))) = true ∨
            ∃ f ∈ rest, cellHolds (lowerCell row f.field) value = true) ↔
          found = true ∨ ∃ g ∈ f :: rest, cellHolds (lowerCell row g.field) value = true := by
      rintro value rfl
      simp [or_assoc]
    simp only [passesFrom]
    cases hv : request.nonBlank? f.parameter with
    | none =>
      have hlets : f.Lets request row := by simp [ActiveFilter.Lets, hv]
      rw [ih, List.forall_mem_cons, forall₂_congr hfound]
      simp [hlets]
    | some value =>
      have hlets : f.Lets request row ↔
          (lowerCell row f.field).any
            (fun v => f.constraint.accepts v (lowercased value)) = true := by
        simp [ActiveFilter.Lets, hv, Option.any_eq_true]
      dsimp only
      rw [List.forall_mem_cons, hlets]
      split
      · rename_i haccept
        rw [ih, forall₂_congr hfound]
        simp [haccept]
      · rename_i hrefuse
        simp [hrefuse]

/-! ## The walk and the rule -/

section

variable {t : Table R} {active : List ActiveFilter} {request : Request} {row : R}

/-- The cell of an entry is the one that its filter looks at. -/
theorem cellHas_iff {entry : String × Column} {f : ActiveFilter}
    (h : Table.activeFilter entry = .ok f) {p : String → Bool} :
    CellHas row entry p ↔ ∃ cell ∈ lowerCell row f.field, p cell = true := by
  simp [CellHas, (Table.activeFilter_eq_ok_iff.1 h).1, lowerCell]

theorem columnsAccept_iff (h : t.activeFilters = .ok active) :
    t.ColumnsAccept request row ↔ ∀ f ∈ active, f.Lets request row := by
  have hentry : ∀ {entry f}, Table.activeFilter entry = .ok f →
      ((∀ value ∈ request.nonBlank? entry.1,
          CellHas row entry fun cell => entry.2.constraint.accepts cell (lowercased value)) ↔
        f.Lets request row) := by
    intro entry f hf
    obtain ⟨-, hparam, hconstraint⟩ := Table.activeFilter_eq_ok_iff.1 hf
    simp only [ActiveFilter.Lets, cellHas_iff hf, hparam, hconstraint]
  constructor
  · intro hkeep f hf
    obtain ⟨entry, he, hef⟩ := Table.exists_entry h hf
    exact (hentry hef).1 (hkeep entry he)
  · intro hlets entry he
    obtain ⟨f, hf, hef⟩ := Table.exists_activeFilter h he
    exact (hentry hef).2 (hlets f hf)

theorem globalFound_iff (h : t.activeFilters = .ok active) :
    t.GlobalFound request row ↔
      ∀ value ∈ (request.nonBlank? t.globalParam).map lowercased,
        ∃ f ∈ active, cellHolds (lowerCell row f.field) value = true := by
  have hentry : ∀ {entry f}, Table.activeFilter entry = .ok f → ∀ value : String,
      (CellHas row entry (fun cell => occursIn value.toList cell.toList) ↔
        cellHolds (lowerCell row f.field) value = true) := by
    intro entry f hf value
    rw [cellHas_iff hf, cellHolds, Option.any_eq_true]
    rfl
  have hsome : ∀ value : String,
      (∃ entry ∈ t.filterMap,
          CellHas row entry fun cell => occursIn value.toList cell.toList) ↔
        ∃ f ∈ active, cellHolds (lowerCell row f.field) value = true := by
    intro value
    constructor
    · rintro ⟨entry, he, hc⟩
      obtain ⟨f, hf, hef⟩ := Table.exists_activeFilter h he
      exact ⟨f, hf, (hentry hef value).1 hc⟩
    · rintro ⟨f, hf, hc⟩
      obtain ⟨entry, he, hef⟩ := Table.exists_entry h hf
      exact ⟨entry, he, (hentry hef value).2 hc⟩
  simp [Table.GlobalFound, hsome]

/-- Stopping at the first filter that refuses, and looking for the global value on the way, decides
the rule. -/
theorem passes_eq_true_iff_keeps (h : t.activeFilters = .ok active) :
    passes active request ((request.nonBlank? t.globalParam).map lowercased) row = true ↔
      t.Keeps request row := by
  rw [passes, passesFrom_eq_true_iff, Table.Keeps, columnsAccept_iff h, globalFound_iff h]
  simp

theorem filter_eq_map_fst {α : Type} (p : α → Bool) (xs : List α) :
    xs.filter p = (xs.zipIdx.filter fun x => p x.1).map (·.1) := by
  conv_lhs => rw [← List.zipIdx_map_fst 0 xs, List.filter_map]
  rfl

theorem passes_eq_keeps (h : t.activeFilters = .ok active) (request : Request) :
    (passes active request ((request.nonBlank? t.globalParam).map lowercased) : R → Bool) =
      fun row => decide (t.Keeps request row) := by
  funext row
  rw [Bool.eq_iff_iff, decide_eq_true_iff]
  exact passes_eq_true_iff_keeps h

/-- The rows that pass are those that the rule keeps, each where it stands among all rows. -/
theorem matchedRows_map_fst (h : t.activeFilters = .ok active) :
    (matchedRows t active request).map (·.1) =
      t.rows.filter fun row => decide (t.Keeps request row) := by
  rw [← passes_eq_keeps h, filter_eq_map_fst]
  rfl

end

/-! ## The request as a whole -/

theorem Reply.get?_set (r : Reply) (name other : String) (value : Json) :
    (r.set name value).get? other = if other = name then some value else r.get? other :=
  Dict.lookup_insert name value r.params other

/-- A request that succeeds on a table that is not lazy leaves the rows that the rule keeps, in
order, and reports their number; a paginated table hands the number back as well. -/
theorem decode_keeps_matching_rows {t : Table R} (hl : t.isLazy = false) {request : Request}
    {reply : Option Reply} {matched : Option Nat}
    (h : (decode t request reply).result = .ok matched) :
    let kept := t.rows.filter fun row => decide (t.Keeps request row)
    let done := decode t request reply
    done.table.filteredValue = some kept ∧ matched = some kept.length ∧
      done.table.rows = t.rows ∧ done.table.columns = t.columns ∧
      ∀ name, done.reply.map (·.get? name) = reply.map fun r =>
        if t.isPaginated ∧ name = totalRecords then some (Json.ofNat kept.length)
        else r.get? name := by
  intro kept done
  cases ha : t.activeFilters with
  | error e =>
    rw [decode_of_error ha] at h
    cases h
  | ok active =>
    have hkept : (matchedRows t active request).map (·.1) = kept := matchedRows_map_fst ha
    have hlength : (matchedRows t active request).length = kept.length := by
      rw [← hkept, List.length_map]
    have hdone := decode_of_eager ha hl request reply
    rw [hdone, hlength] at h
    simp only [done, hdone, hlength, hkept]
    refine ⟨?_, ?_, ?_, ?_, fun name => ?_⟩
    · exact Table.filteredValue_store ..
    · simpa using h.symm
    · rw [Table.rows_store, Table.rows_noted]
    · rw [Table.columns_store, Table.columns_noted]
    · cases t.isPaginated <;> cases reply <;> simp [Reply.get?_set]

/-- Of two rows the one with a part of the value in its cell is kept, and the other columns of a
group count for the global value. -/
theorem decode_keeps_matching_rows_cars :
    let golf := Json.object [("brand", .string "VW"), ("model", .string "Golf")]
    let polo := Json.object [("brand", .string "VW"), ("model", .string "Polo")]
    let t := { Table.new "t" ':' [golf, polo, golf] with
      columns :=
        [Column.single "m" "#\x7bcar.model\x7d", Column.group "g" ["car.brand", "car.model"]]
      isPaginated := true }
    let request := Request.ofList [("t:m_filter", "GO"), ("t:globalFilter", "vw")]
    (decode t request (some .empty)).result = .ok (some 2) ∧
      (decode t request (some .empty)).table.filteredValue = some [golf, golf] :=
  ⟨rfl, (@decode_keeps_matching_rows _ _ _ rfl _ _ (some 2) rfl).1⟩

end ViewQuery.Filter
