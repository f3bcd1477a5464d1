import ViewQuery.Filter.Matching
import ViewQuery.Proofs.Outcome

/-!
# What a filter request does to a table

Storing rows as one equation on the table, and the three ways in which `decode` ends, each as one
equation on its outcome, with the filters of the columns that they speak of:

* `Table.store_fst`, `Table.store_snd`: the table and the notices after rows are stored, of which
  those of the holder about itself are `Table.holderNotices`;
* `activeFilter_eq_ok_iff`, `activeFilters_eq_ok_iff`: the filter of a parameter, and when every
  parameter has one;
* `decode_of_error`, `decode_of_lazy`, `decode_of_eager`: a request for a table with a parameter
  that cannot be read, for a lazy table, and for any other;
* `table_decode_of_eager`, `notices_decode_of_eager`: the table after a request that goes through
  the rows, and what is reported of it;
* `result_decode`, `first_decode`, `filteredValue_decode`, `filters_decode`: what is read of the
  table after any of them.
-/

namespace ViewQuery.Filter

variable {R : Type}

namespace Table

/-! ## The rows that passed -/

/-- What the holder of a table, if there is one, reports each time its rows are overwritten. -/
def holderNotices (t : Table R) : List Notice :=
  if t.holder.any Holder.isPoisoned then [.poisoned] else []

section

variable (t : Table R) (value : Option (List R))

/-- Storing rows touches the holder if there is one, and else the table's own copy and the note that
the warning was given. -/
theorem store_fst : (t.store value).1 =
    { t with
      holder := t.holder.map fun h => { h with value }
      kept := if t.holder.isSome then t.kept else value
      warned := t.warned || (t.holder.isNone && value.isSome) } := by
  obtain ⟨_, _, _, _, _, _, _, _, _, _, holder, _, warned⟩ := t
  cases holder with
  | some _ => cases warned <;> rfl
  | none => cases value <;> cases warned <;> rfl

/-- A holder reports on itself. Without one, the warning is given when rows are stored for the first
time. -/
theorem store_snd : (t.store value).2 = t.holderNotices ++
    if t.holder.isNone ∧ value.isSome ∧ t.warned = false then [.unbound t.clientId] else [] := by
  obtain ⟨_, _, _, _, _, _, _, _, _, _, holder, _, warned⟩ := t
  cases holder with
  | some h =>
    show (if h.isPoisoned then _ else _) = _
    simp [holderNotices]
  | none => cases value <;> cases warned <;> rfl

/-- Clearing the rows reports nothing but what the holder does. -/
theorem store_none_snd : (t.store none).2 = t.holderNotices := by
  simp [store_snd]

@[simp] theorem filteredValue_store : (t.store value).1.filteredValue = value := by
  rw [store_fst]
  cases t.holder <;> simp [filteredValue]

@[simp] theorem holderNotices_store : (t.store value).1.holderNotices = t.holderNotices := by
  rw [store_fst]
  cases h : t.holder <;> simp [holderNotices, h]

@[simp] theorem rows_store : (t.store value).1.rows = t.rows := by
  rw [store_fst]

@[simp] theorem columns_store : (t.store value).1.columns = t.columns := by
  rw [store_fst]

@[simp] theorem filters_store : (t.store value).1.filters = t.filters := by
  rw [store_fst]

end

/-- The table at the start of a request: nothing passed, and the first page. -/
def cleared (t : Table R) : Table R := { (t.store none).1 with first := 0 }

/-- The table with the filters of a request noted. -/
def noted (t : Table R) (active : List ActiveFilter) (request : Request) : Table R :=
  { t.cleared with filters := appliedFilters active t.cleared.globalParam request }

section

variable (t : Table R)

/-- Clearing a table changes nothing but its page and the rows that passed. -/
theorem cleared_eq : t.cleared =
    { t with
      first := 0
      holder := t.holder.map fun h => { h with value := none }
      kept := if t.holder.isSome then t.kept else none } := by
  simp [cleared, store_fst]

@[simp] theorem holderNotices_cleared : t.cleared.holderNotices = t.holderNotices :=
  t.holderNotices_store none

@[simp] theorem rows_cleared : t.cleared.rows = t.rows := by rw [cleared_eq]

@[simp] theorem columns_cleared : t.cleared.columns = t.columns := by rw [cleared_eq]

@[simp] theorem isLazy_cleared : t.cleared.isLazy = t.isLazy := by rw [cleared_eq]

@[simp] theorem rowIndex_cleared : t.cleared.rowIndex = t.rowIndex := by rw [cleared_eq]

@[simp] theorem isPaginated_cleared : t.cleared.isPaginated = t.isPaginated := by rw [cleared_eq]

@[simp] theorem clientId_cleared : t.cleared.clientId = t.clientId := by rw [cleared_eq]

@[simp] theorem globalParam_cleared : t.cleared.globalParam = t.globalParam := by
  rw [cleared_eq]
  rfl

@[simp] theorem activeFilters_cleared : t.cleared.activeFilters = t.activeFilters := by
  rw [cleared_eq]
  rfl

end

section

variable (t : Table R) (active : List ActiveFilter) (request : Request)

@[simp] theorem holderNotices_noted :
    (t.noted active request).holderNotices = t.holderNotices := t.holderNotices_cleared

@[simp] theorem rows_noted : (t.noted active request).rows = t.rows := t.rows_cleared

@[simp] theorem columns_noted : (t.noted active request).columns = t.columns := t.columns_cleared

@[simp] theorem isLazy_noted : (t.noted active request).isLazy = t.isLazy := t.isLazy_cleared

@[simp] theorem rowIndex_noted : (t.noted active request).rowIndex = t.rowIndex :=
  t.rowIndex_cleared

@[simp] theorem isPaginated_noted : (t.noted active request).isPaginated = t.isPaginated :=
  t.isPaginated_cleared

@[simp] theorem clientId_noted : (t.noted active request).clientId = t.clientId :=
  t.clientId_cleared

@[simp] theorem globalParam_noted : (t.noted active request).globalParam = t.globalParam :=
  t.globalParam_cleared

@[simp] theorem rowCount_noted : (t.noted active request).rowCount = t.rowCount := by
  rw [rowCount, rows_noted, rowCount]

end

/-! ## The filters of the columns -/

/-- The field of an entry of the filter map: that of the binding of a single column, and for a group
that of the binding at the index which the parameter names. -/
def entryField? (entry : String × Column) : Option String :=
  match entry.2.binding with
  | .single binding => some (fieldOfBinding binding)
  | .group bindings =>
    match readColumnIndex entry.1 with
    | .ok index => bindings[index]?.map fieldOfBinding
    | .error _ => none

/-- An entry of the filter map has a filter exactly when it has a field. -/
theorem activeFilter_eq_ok_iff {entry : String × Column} {f : ActiveFilter} :
    activeFilter entry = .ok f ↔
      entryField? entry = some f.field ∧ f.parameter = entry.1 ∧
        f.constraint = entry.2.constraint := by
  obtain ⟨parameter, column⟩ := entry
  obtain ⟨parameter', constraint', field'⟩ := f
  cases hb : column.binding with
  | single binding =>
    simp [activeFilter, entryField?, Column.field?, hb, bind, Except.bind, pure, Except.pure]
    grind
  | group bindings =>
    cases hi : readColumnIndex parameter with
    | error e =>
      simp [activeFilter, entryField?, hb, hi, bind, Except.bind, Functor.map, Except.map]
    | ok index =>
      cases hf : bindings[index]? <;>
        simp [activeFilter, entryField?, Column.field?, hb, hi, hf, bind, Except.bind,
          Functor.map, Except.map, pure, Except.pure]
      grind

/-- The filters are those of the entries of the filter map in order, and each entry has one. -/
theorem activeFilters_eq_ok_iff {t : Table R} {active : List ActiveFilter} :
    t.activeFilters = .ok active ↔ t.filterMap.map activeFilter = active.map .ok :=
  mapM_eq_ok_iff

theorem exists_activeFilter {t : Table R} {active : List ActiveFilter}
    (h : t.activeFilters = .ok active) {entry : String × Column} (he : entry ∈ t.filterMap) :
    ∃ f ∈ active, activeFilter entry = .ok f := by
  have hm : activeFilter entry ∈ active.map Except.ok := by
    rw [← activeFilters_eq_ok_iff.1 h]
    exact List.mem_map_of_mem he
  obtain ⟨f, hf, e⟩ := List.mem_map.1 hm
  exact ⟨f, hf, e.symm⟩

theorem exists_entry {t : Table R} {active : List ActiveFilter} (h : t.activeFilters = .ok active)
    {f : ActiveFilter} (hf : f ∈ active) : ∃ entry ∈ t.filterMap, activeFilter entry = .ok f := by
  have hm : Except.ok f ∈ t.filterMap.map activeFilter := by
    rw [activeFilters_eq_ok_iff.1 h]
    exact List.mem_map_of_mem hf
  exact List.mem_map.1 hm

end Table

/-! ## The three ways to end -/

section

variable [Row R] {t : Table R} {active : List ActiveFilter}

theorem matchedRows_noted (t : Table R) (active active' : List ActiveFilter) (request : Request) :
    matchedRows (t.noted active request) active' request = matchedRows t active' request := by
  rw [matchedRows, Table.globalParam_noted, Table.rows_noted, matchedRows]

theorem decode_of_error {e : Error} (h : t.activeFilters = .error e) (request : Request)
    (reply : Option Reply) : decode t request reply =
      { table := t.cleared, reply, notices := t.holderNotices, result := .error e } := by
  have hc : t.cleared.activeFilters = .error e := by rw [Table.activeFilters_cleared, h]
  unfold Table.cleared at hc
  rw [← Table.store_none_snd]
  unfold decode
  dsimp only
  rw [hc]
  rfl

theorem decode_of_lazy (h : t.activeFilters = .ok active) (hl : t.isLazy = true) (request : Request)
    (reply : Option Reply) : decode t request reply =
      { table := t.noted active request, reply
        notices := t.holderNotices ++ [.leftToSource t.clientId], result := .ok none } := by
  have hc : t.cleared.activeFilters = .ok active := by rw [Table.activeFilters_cleared, h]
  unfold Table.cleared at hc
  rw [← Table.store_none_snd]
  unfold decode
  dsimp only
  rw [hc]
  change (if (t.noted active request).isLazy = true then _ else _) = _
  rw [Table.isLazy_noted, if_pos hl, ← Table.clientId_noted t active request]
  rfl

/-- The rows of a table that pass are looked at in the table with the filters noted. -/
theorem decode_of_eager (h : t.activeFilters = .ok active) (hl : t.isLazy = false)
    (request : Request) (reply : Option Reply) :
    let matched := matchedRows t active request
    let stored := (t.noted active request).store (some (matched.map (·.1)))
    decode t request reply =
      { table := { stored.1 with rowIndex := none }
        reply := if t.isPaginated then
            reply.map fun r => r.set totalRecords (Json.ofNat matched.length)
          else reply
        notices := t.holderNotices ++ matched.map (fun m => .rowMatched m.2) ++
          .filtered t.clientId t.rowCount matched.length :: stored.2
        result := .ok (some matched.length) } := by
  have hc : t.cleared.activeFilters = .ok active := by rw [Table.activeFilters_cleared, h]
  unfold Table.cleared at hc
  simp only [← Table.store_none_snd, ← matchedRows_noted t active active request,
    ← Table.clientId_noted t active request, ← Table.rowCount_noted t active request,
    ← Table.isPaginated_noted t active request]
  unfold decode
  dsimp only
  rw [hc]
  change (if (t.noted active request).isLazy = true then _ else _) = _
  rw [Table.isLazy_noted, hl, if_neg Bool.false_ne_true]
  rfl

/-- The table after a request that goes through the rows, field by field. -/
theorem table_decode_of_eager (h : t.activeFilters = .ok active) (hl : t.isLazy = false)
    (request : Request) (reply : Option Reply) :
    let passed := some ((matchedRows t active request).map (·.1))
    (decode t request reply).table =
      { t with
        first := 0
        rowIndex := none
        filters := appliedFilters active t.globalParam request
        holder := t.holder.map fun h => { h with value := passed }
        kept := if t.holder.isSome then t.kept else passed
        warned := t.warned || t.holder.isNone } := by
  rw [decode_of_eager h hl, Table.store_fst, Table.noted, Table.globalParam_cleared,
    Table.cleared_eq]
  cases t.holder <;> simp

/-- What is reported of a request that goes through the rows: the rows that pass, then their number,
and then that there is no holder for them, if this was not reported before. The holder reports on
itself twice, when it is cleared and when the rows are stored. -/
theorem notices_decode_of_eager (h : t.activeFilters = .ok active) (hl : t.isLazy = false)
    (request : Request) (reply : Option Reply) :
    let matched := matchedRows t active request
    (decode t request reply).notices =
      t.holderNotices ++ (matched.map (·.2)).map .rowMatched ++
        .filtered t.clientId t.rowCount matched.length :: (t.holderNotices ++
          if t.holder.isNone ∧ t.warned = false then [.unbound t.clientId] else []) := by
  rw [decode_of_eager h hl, Table.store_snd, Table.holderNotices_noted, Table.noted,
    Table.cleared_eq]
  simp

end

/-! ## What is read afterwards -/

section

variable [Row R] {t : Table R} {active : List ActiveFilter}

/-- A request that succeeds found a filter for every parameter. -/
theorem exists_activeFilters {request : Request} {reply : Option Reply} {matched : Option Nat}
    (h : (decode t request reply).result = .ok matched) :
    ∃ active, t.activeFilters = .ok active := by
  cases ha : t.activeFilters with
  | error e =>
    rw [decode_of_error ha] at h
    cases h
  | ok active => exact ⟨active, rfl⟩

theorem result_decode (t : Table R) (request : Request) (reply : Option Reply) :
    (decode t request reply).result = t.activeFilters.map fun active =>
      if t.isLazy then none else some (matchedRows t active request).length := by
  cases ha : t.activeFilters with
  | error e => rw [decode_of_error ha, Except.map]
  | ok active =>
    cases hl : t.isLazy with
    | true => rw [decode_of_lazy ha hl, Except.map, if_pos rfl]
    | false => rw [decode_of_eager ha hl, Except.map, if_neg Bool.false_ne_true]

/-- Every request shows the first page. -/
theorem first_decode (t : Table R) (request : Request) (reply : Option Reply) :
    (decode t request reply).table.first = 0 := by
  cases ha : t.activeFilters with
  | error e => rw [decode_of_error ha, Table.cleared_eq]
  | ok active =>
    cases hl : t.isLazy with
    | true => rw [decode_of_lazy ha hl, Table.noted, Table.cleared_eq]
    | false => rw [table_decode_of_eager ha hl]

/-- Rows have passed only where a request went through the rows. -/
theorem filteredValue_decode (t : Table R) (request : Request) (reply : Option Reply) :
    (decode t request reply).table.filteredValue = t.activeFilters.toOption.bind fun active =>
      if t.isLazy then none else some ((matchedRows t active request).map (·.1)) := by
  cases ha : t.activeFilters with
  | error e =>
    rw [decode_of_error ha]
    exact Table.filteredValue_store t none
  | ok active =>
    cases hl : t.isLazy with
    | true =>
      rw [decode_of_lazy ha hl, Except.toOption, Option.bind_some, if_pos rfl]
      exact Table.filteredValue_store t none
    | false =>
      rw [decode_of_eager ha hl, Except.toOption, Option.bind_some, if_neg Bool.false_ne_true]
      exact Table.filteredValue_store ..

/-- The filters that a request leaves, lazy table or not. -/
theorem filters_decode (h : t.activeFilters = .ok active) (request : Request)
    (reply : Option Reply) :
    (decode t request reply).table.filters = appliedFilters active t.globalParam request := by
  cases hl : t.isLazy with
  | true => rw [decode_of_lazy h hl, Table.noted, Table.globalParam_cleared]
  | false => rw [table_decode_of_eager h hl]

end

end ViewQuery.Filter
