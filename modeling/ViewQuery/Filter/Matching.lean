import ViewQuery.Filter.Row
import ViewQuery.Filter.Table
import ViewQuery.Text.Lowercase

/-!
# Filter requests

What a filter request does to a table. A row passes when every column with a value in the request
accepts its cell and, if there is a global value, some cell of a filterable column holds that value.
Letter case does not count.

* `Table.activeFilters`: the columns of the table as filters;
* `passes`: whether a row passes;
* `decode`: apply a request to a table.
-/

namespace ViewQuery.Filter

/-- A filterable column by the parameter of its value and the field of its cells. -/
structure ActiveFilter where
  parameter : String
  constraint : Constraint
  field : String
  deriving DecidableEq, Repr

namespace Table

variable {R : Type}

/-- Whether a request is a filter request for a table. -/
def isFilterRequest (t : Table R) (request : Request) : Bool := request.contains t.filteringParam

/-- Draw the rows that passed. -/
def encode {α : Type} (t : Table R) (draw : Table R → Bool → Except Error α) : Except Error α :=
  draw t true

/-- The filter of a parameter and its column. -/
def activeFilter (entry : String × Column) : Except Error ActiveFilter := do
  let (parameter, column) := entry
  let index ← match column.binding with
    | .single _ => pure none
    | .group _ => some <$> readColumnIndex parameter
  match column.field? index with
  | some field => pure { parameter, constraint := column.constraint, field }
  | none => .error (.columnIndex parameter)

/-- The filters of all columns in order. -/
def activeFilters (t : Table R) : Except Error (List ActiveFilter) :=
  t.filterMap.mapM activeFilter

end Table

/-- The cell of a row in lowercase. -/
def lowerCell {R : Type} [Row R] (row : R) (field : String) : Option String :=
  (Row.cell row field).map Text.lowercased

/-- Whether a cell holds a text. -/
def cellHolds (cell : Option String) (text : String) : Bool :=
  cell.any fun v => Text.occursIn text.toList v.toList

/-- Whether a row passes the filters that are left. `found` tells whether the global value, if there
is one, was in an earlier cell. The cell of a column counts for the global value even if the column
has no value of its own, and the first column that refuses its cell decides. -/
def passesFrom {R : Type} [Row R] (request : Request) (globalValue : Option String) (row : R)
    (found : Bool) : List ActiveFilter → Bool
  | [] => globalValue.isNone || found
  | f :: rest =>
    let cell := lowerCell row f.field
    let found := found || globalValue.any (cellHolds cell)
    match request.nonBlank? f.parameter with
    | none => passesFrom request globalValue row found rest
    | some value =>
      if cell.any fun v => f.constraint.accepts v (Text.lowercased value) then
        passesFrom request globalValue row found rest
      else false

/-- Whether a row passes. -/
def passes {R : Type} [Row R] (active : List ActiveFilter) (request : Request)
    (globalValue : Option String) (row : R) : Bool :=
  passesFrom request globalValue row false active

/-- The name under which the value of the global filter is kept with the applied filters. -/
def globalFilterKey : String := "globalFilter"

/-- The name under which the number of rows that passed is handed back. -/
def totalRecords : String := "totalRecords"

/-- The values of a request under the fields that they apply to, and that of the global filter. -/
def appliedFilters (active : List ActiveFilter) (globalParam : String) (request : Request) :
    Dict String :=
  let ofColumns := active.filterMap fun f =>
    (request.nonBlank? f.parameter).map fun value => (f.field, value)
  let ofAll := ((request.nonBlank? globalParam).map fun value => (globalFilterKey, value)).toList
  Dict.ofList (ofColumns ++ ofAll)

/-- What a filter request has done: the table and the reply after it, the notices in order, and the
number of rows that passed, if they were looked at. -/
structure Decoded (R : Type) where
  table : Table R
  reply : Option Reply
  notices : List Notice
  result : Except Error (Option Nat)

section

variable {R : Type} [Row R]

/-- The rows of a table that pass, with their indexes. -/
def matchedRows (t : Table R) (active : List ActiveFilter) (request : Request) : List (R × Nat) :=
  let globalValue := (request.nonBlank? t.globalParam).map Text.lowercased
  t.rows.zipIdx.filter fun r => passes active request globalValue r.1

/-- Apply a request to a table. The rows that passed before are cleared and the first page is shown
in any case. A lazy table has its filters noted and nothing more; in any other the rows are looked
at, their number is handed back if there are pages and somebody to hand it to, and no row is
selected any longer. -/
def decode (t : Table R) (request : Request) (reply : Option Reply) : Decoded R :=
  let emptied := t.store none
  let cleared := { emptied.1 with first := 0 }
  match cleared.activeFilters with
  | .error e => { table := cleared, reply, notices := emptied.2, result := .error e }
  | .ok active =>
    let noted := { cleared with filters := appliedFilters active cleared.globalParam request }
    if noted.isLazy then
      { table := noted, reply, notices := emptied.2 ++ [.leftToSource noted.clientId]
        result := .ok none }
    else
      let matched := matchedRows noted active request
      let count := matched.length
      let reply := if noted.isPaginated then
          reply.map fun r => r.set totalRecords (Json.ofNat count)
        else reply
      let (stored, notices) := noted.store (some (matched.map (·.1)))
      { table := { stored with rowIndex := none }
        reply
        notices := emptied.2 ++ matched.map (fun m => .rowMatched m.2) ++
          .filtered noted.clientId noted.rowCount count :: notices
        result := .ok (some count) }

end

end ViewQuery.Filter
