import ViewQuery.Filter.Table
import ViewQuery.Text.Quoted

/-!
# Inspecting tables

A table in one line, for somebody who looks for a mistake: its client id, the number of its rows,
its columns and its state. Texts stand between quotes.
-/

namespace ViewQuery.Filter

open ViewQuery.Text (quoted)

/-- Parts with commas between them. -/
def commaSeparated (parts : List String) : String := String.intercalate ", " parts

/-- A list in brackets. -/
def bracketed (parts : List String) : String := "[" ++ commaSeparated parts ++ "]"

/-- Parts in braces, directly and with blanks inside. -/
def braced (parts : List String) : String := "\x7b" ++ commaSeparated parts ++ "\x7d"

/-- A name with its fields in braces. -/
def record (name : String) (fields : List (String × String)) (isWhole : Bool) : String :=
  let parts := fields.map (fun f => f.1 ++ ": " ++ f.2) ++ if isWhole then [] else [".."]
  name ++ " \x7b " ++ commaSeparated parts ++ " \x7d"

/-- The name of a match mode. -/
def Constraint.label : Constraint → String
  | .startsWith => "StartsWith"
  | .endsWith => "EndsWith"
  | .contains => "Contains"
  | .exact => "Exact"
  | .lessThan => "LessThan"
  | .lessThanEquals => "LessThanEquals"
  | .greaterThan => "GreaterThan"
  | .greaterThanEquals => "GreaterThanEquals"

/-- A binding in one line. -/
def Binding.inspect : Binding → String
  | .single binding => "Single(" ++ quoted binding ++ ")"
  | .group bindings => "Dynamic(" ++ bracketed (bindings.map quoted) ++ ")"

/-- A column in one line. -/
def Column.inspect (c : Column) : String :=
  record "FilterColumn"
    [("id", quoted c.id), ("binding", c.binding.inspect), ("constraint", c.constraint.label)] true

/-- A table in one line; the parts that are left out are hinted at. -/
def Table.inspect {R : Type} (t : Table R) : String :=
  record "DataTable"
    [("client_id", quoted t.clientId),
     ("rows", toString t.rowCount),
     ("columns", bracketed (t.columns.map Column.inspect)),
     ("lazy", toString t.isLazy),
     ("paginator", toString t.isPaginated),
     ("first", toString t.first),
     ("row_index", match t.rowIndex with
       | some i => "Some(" ++ toString i ++ ")"
       | none => "None"),
     ("filters", braced (t.filters.map fun f => quoted f.1 ++ ": " ++ quoted f.2))] false

end ViewQuery.Filter
