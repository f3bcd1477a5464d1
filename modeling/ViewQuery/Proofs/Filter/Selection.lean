import ViewQuery.Proofs.Filter.Decode

/-!
# The selected row after a filter request

Which row is selected in a table once a request has been applied to it. Only a request that goes
through the rows lets go of the selection: a lazy table keeps it, and so does a table with a
parameter that cannot be read.

* `rowIndex_decode`, `rowData_decode`: the selected row after any request that succeeds;
* `selection_decode_eq_none_iff`: when no row is selected any longer.
-/

namespace ViewQuery.Filter

variable {R : Type} [Row R] {t : Table R} {request : Request} {reply : Option Reply}
  {matched : Option Nat}

/-- A request that succeeds lets go of the selected row, except in a lazy table. -/
theorem rowIndex_decode (h : (decode t request reply).result = .ok matched) :
    (decode t request reply).table.rowIndex = if t.isLazy then t.rowIndex else none := by
  cases ha : t.activeFilters with
  | error e =>
    rw [decode_of_error ha] at h
    cases h
  | ok active =>
    cases hl : t.isLazy with
    | true => rw [decode_of_lazy ha hl, if_pos rfl, Table.rowIndex_noted]
    | false =>
      rw [decode_of_eager ha hl, if_neg Bool.false_ne_true]

/-- A request changes none of the rows. -/
theorem rows_decode (t : Table R) (request : Request) (reply : Option Reply) :
    (decode t request reply).table.rows = t.rows := by
  cases ha : t.activeFilters with
  | error e => rw [decode_of_error ha, Table.rows_cleared]
  | ok active =>
    cases hl : t.isLazy with
    | true => rw [decode_of_lazy ha hl, Table.rows_noted]
    | false =>
      rw [decode_of_eager ha hl]
      exact (Table.rows_store ..).trans (Table.rows_noted ..)

/-- What is read of the selected row after a request that succeeds. -/
theorem rowData_decode (h : (decode t request reply).result = .ok matched) :
    (decode t request reply).table.rowData = if t.isLazy then t.rowData else none := by
  rw [Table.rowData, rowIndex_decode h, rows_decode]
  cases t.isLazy with
  | true => rw [if_pos rfl, if_pos rfl, Table.rowData]
  | false => rw [if_neg Bool.false_ne_true, if_neg Bool.false_ne_true, Option.bind_none]

/-- No row is selected after a request that succeeds exactly when the table is not lazy or no row
was selected before. -/
theorem selection_decode_eq_none_iff (h : (decode t request reply).result = .ok matched) :
    (decode t request reply).table.rowIndex = none ∧
        (decode t request reply).table.rowData = none ↔
      t.isLazy = false ∨ t.rowIndex = none := by
  rw [rowIndex_decode h, rowData_decode h]
  cases t.isLazy with
  | false => simp
  | true =>
    have hdata : t.rowIndex = none → t.rowData = none := fun hi => by
      rw [Table.rowData, hi, Option.bind_none]
    simpa using hdata

/-- A lazy table keeps its selected row through a request that succeeds. -/
theorem selection_decode_lazy :
    let row := Json.object [("model", .string "Golf")]
    let t := { Table.new "t" ':' [row] with isLazy := true, rowIndex := some 0 }
    let done := decode t (.ofList [("t:globalFilter", "polo")]) none
    done.result = .ok none ∧ done.table.rowIndex = some 0 ∧ done.table.rowData = some row :=
  ⟨rfl, rfl, rfl⟩

/-- The same table lets go of it where it is not lazy. -/
theorem selection_decode_eq_none_iff_eager :
    let row := Json.object [("model", .string "Golf")]
    let t := { Table.new "t" ':' [row] with rowIndex := some 0 }
    let done := decode t (.ofList [("t:globalFilter", "polo")]) none
    t.rowData = some row ∧ done.result = .ok (some 0) ∧ done.table.rowIndex = none ∧
      done.table.rowData = none := by
  intro row t done
  have hdone : done.result = .ok (some 0) := rfl
  exact ⟨rfl, hdone, (selection_decode_eq_none_iff hdone).2 (.inl rfl)⟩

end ViewQuery.Filter
