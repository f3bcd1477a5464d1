import ViewQuery.Config.Basic
import ViewQuery.Diagnostics.Event
import ViewQuery.Filter.Column
import ViewQuery.Filter.Request

/-!
# Data tables

A data table has rows, filterable columns, and a state that a filter request changes: the rows that
passed, the filters that were applied, the first row of the page and the selected row. The rows that
passed belong to a holder outside of the table if one is attached; without one the table keeps them
itself and warns about it once. A holder is shared with the host behind a lock. If a thread of the
host panics while it has the lock, the lock is poisoned for good; the holder still works, but warns
each time its rows are overwritten.

* `Holder.set`: overwrite the rows of a holder;
* `Table.store`: set or clear the rows that passed;
* `Table.filterMap`: the request parameters of the columns;
* `Table.ofConfig`: the table that a configuration describes.
-/

namespace ViewQuery.Filter

open ViewQuery.Diagnostics (Event Level)

/-- What the filter reports about its work. -/
inductive Notice where
  /-- The row at an index passed. -/
  | rowMatched (index : Nat)
  /-- All rows were looked at, and some number of them passed. -/
  | filtered (table : String) (rows matched : Nat)
  /-- The rows are filtered where they come from. -/
  | leftToSource (table : String)
  /-- There is no holder for the rows that passed. -/
  | unbound (table : String)
  /-- The rows of a holder whose lock is poisoned are overwritten. -/
  | poisoned
  deriving DecidableEq, Repr

/-- The part of the library that reports on filtering. -/
def filterTarget : String := "searchgrid_core::filter"

/-- The part of the library that reports on tables. -/
def tableTarget : String := "searchgrid_core::filter::table"

/-- The event of a notice. -/
def Notice.event : Notice → Event
  | .rowMatched index =>
    .report .trace filterTarget "Row matched filters" [("row", .integer index)]
  | .filtered table rows matched =>
    .report .debug filterTarget "Filtered table rows"
      [("table", .text table), ("rows", .integer rows), ("matched", .integer matched)]
  | .leftToSource table =>
    .report .debug filterTarget "Lazy table, leaving row filtering to the data source"
      [("table", .text table)]
  | .unbound table =>
    .report .warn tableTarget
      ("Filtering without a filtered value binding; " ++
        "keeping filtered rows in table state is deprecated")
      [("table", .text table)]
  | .poisoned =>
    .report .warn tableTarget "Filtered value holder was poisoned, overwriting stored rows" []

/-- A place for the rows that passed, outside of the table. -/
structure Holder (R : Type) where
  value : Option (List R)
  /-- A thread of the host panicked while it had the lock of the holder. -/
  isPoisoned : Bool := false

/-- Overwrite the rows of a holder, or clear them. A poisoned holder gives a notice and stays
poisoned. -/
def Holder.set {R : Type} (h : Holder R) (value : Option (List R)) : Holder R × List Notice :=
  ({ h with value }, if h.isPoisoned then [.poisoned] else [])

/-- A data table. -/
structure Table (R : Type) where
  clientId : String
  separator : Char
  /-- What the parameter of the global filter ends with. -/
  globalSuffix : String
  rows : List R
  columns : List Column
  /-- The rows are filtered where they come from. -/
  isLazy : Bool
  isPaginated : Bool
  /-- The index of the first row of the page. -/
  first : Nat
  /-- The index of the selected row. -/
  rowIndex : Option Nat
  /-- The filters applied by the last request, under the fields of their columns. -/
  filters : Dict String
  /-- The holder that the rows that passed belong to. -/
  holder : Option (Holder R)
  /-- The rows that passed, as far as the table keeps them itself. -/
  kept : Option (List R)
  /-- The warning about a missing holder was given. -/
  warned : Bool

namespace Table

variable {R : Type}

/-- A table without columns whose rows are all there, on one page. -/
def new (clientId : String) (separator : Char) (rows : List R) : Table R :=
  { clientId, separator, globalSuffix := Config.defaultGlobalFilterParam, rows, columns := []
    isLazy := false, isPaginated := false, first := 0, rowIndex := none, filters := []
    holder := none, kept := none, warned := false }

/-- The number of rows. -/
def rowCount (t : Table R) : Nat := t.rows.length

/-- The selected row. -/
def rowData (t : Table R) : Option R := t.rowIndex.bind fun i => t.rows[i]?

/-! ## Request parameters -/

/-- The parameter that makes a request a filter request. -/
def filteringParam (t : Table R) : String := t.clientId ++ "_filtering"

/-- The client id of the table, the separator, and a name. -/
def qualified (t : Table R) (name : String) : String :=
  t.clientId ++ String.singleton t.separator ++ name

/-- The parameter of the global filter. -/
def globalParam (t : Table R) : String := t.qualified t.globalSuffix

/-- The parameter of a single column. -/
def columnParam (t : Table R) (id : String) : String := t.qualified id ++ filterMark

/-- The parameter of the column of a group at an index. -/
def groupParam (t : Table R) (id : String) (index : Nat) : String :=
  t.qualified id ++ indexMark ++ toString index ++ filterMark

/-- The parameters of a column, one for each column of a group. -/
def paramsOf (t : Table R) (c : Column) : List String :=
  match c.binding with
  | .single _ => [t.columnParam c.id]
  | .group bindings => (List.range bindings.length).map (t.groupParam c.id)

/-- The parameters of all columns in order, each with its column. -/
def filterMap (t : Table R) : List (String × Column) :=
  t.columns.flatMap fun c => (t.paramsOf c).map fun p => (p, c)

/-! ## The rows that passed -/

/-- Set the rows that passed, or clear them. Without a holder, setting them for the first time gives
a notice. -/
def store (t : Table R) (value : Option (List R)) : Table R × List Notice :=
  match t.holder with
  | some h =>
    let (holder, notices) := h.set value
    ({ t with holder := some holder }, notices)
  | none =>
    if value.isSome && !t.warned then
      ({ t with kept := value, warned := true }, [.unbound t.clientId])
    else ({ t with kept := value }, [])

/-- The rows that passed, from the holder or from the table itself. -/
def filteredValue (t : Table R) : Option (List R) :=
  match t.holder with
  | some h => h.value
  | none => t.kept

/-- Attach a holder in the place of the one that was there. -/
def attach (t : Table R) (holder : Holder R) : Table R := { t with holder := some holder }

/-- The rows to draw: those that passed if they are known and asked for, or else all. -/
def shownRows (t : Table R) (matchedOnly : Bool) : List R :=
  match matchedOnly, t.filteredValue with
  | true, some rows => rows
  | _, _ => t.rows

end Table

/-! ## Configured tables -/

/-- The column that a configuration describes. -/
def Column.ofConfig (c : Config.Column) : Except Error Column := do
  let constraint ← Constraint.ofName c.matchMode
  let column := match c.filterBy with
    | some binding => Column.single c.id binding
    | none => Column.group c.id c.fields
  pure (column.withConstraint constraint)

/-- The table that a configuration describes. -/
def Table.ofConfig {R : Type} (c : Config.Table) (filtering : Config.Filtering) (separator : Char)
    (rows : List R) : Except Error (Table R) := do
  let columns ← c.columns.mapM Column.ofConfig
  pure { Table.new c.clientId separator rows with
    columns, isLazy := c.isLazy, isPaginated := c.isPaginated
    globalSuffix := filtering.globalFilterParam }

end ViewQuery.Filter
