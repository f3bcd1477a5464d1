import ViewQuery.Filter.Constraint
import ViewQuery.Number.Index

/-!
# Filterable columns

A column is filtered through a binding, an expression such as `#{car.model}` or `car.model`
that names a field of the row behind its first dot. A group of columns has one binding for each of
its columns, and the filter parameter of a request tells which one is meant.

* `fieldOfBinding`: the field that a binding names;
* `readColumnIndex`: the column of a group that a request parameter means;
* `Column.field?`: the field of a column.
-/

namespace ViewQuery.Filter

/-- The text within the marks of a binding, if both are there. -/
def withinMarks (cs : List Char) : Option (List Char) :=
  (Text.afterPrefix ['#', '\x7b'] cs).bind (Text.beforeSuffix ['\x7d'])

/-- The field of the row that a binding names. -/
def fieldOfBinding (binding : String) : String :=
  let whole := Text.trim binding.toList
  let path := (withinMarks whole).getD whole
  .ofList (match Text.cutAt ['.'] path with
    | some p => p.2
    | none => path)

/-- What stands before the index in the parameter of a column of a group. -/
def indexMark : String := "_colIndex_"

/-- What stands at the end of the parameter of a column. -/
def filterMark : String := "_filter"

/-- The index of the column of a group that a request parameter means. -/
def readColumnIndex (parameter : String) : Except Error Nat :=
  let index := (Text.cutAt indexMark.toList parameter.toList).bind fun p =>
    Number.readIndex (Text.before filterMark.toList p.2)
  match index with
  | some i => .ok i
  | none => .error (.columnIndex parameter)

/-- How the cells of a column, or of the columns of a group, are found in a row. -/
inductive Binding where
  | single (binding : String)
  | group (bindings : List String)
  deriving DecidableEq, Repr

/-- A filterable column, or a group of them under one id. -/
structure Column where
  id : String
  binding : Binding
  constraint : Constraint
  deriving DecidableEq, Repr

namespace Column

/-- A single column. -/
def single (id binding : String) : Column :=
  { id, binding := .single binding, constraint := default }

/-- A group of columns. -/
def group (id : String) (bindings : List String) : Column :=
  { id, binding := .group bindings, constraint := default }

/-- The column with another match mode. -/
def withConstraint (c : Column) (constraint : Constraint) : Column := { c with constraint }

/-- The field of a column. The index counts for a group only, which has no field without one. -/
def field? (c : Column) (index : Option Nat) : Option String :=
  match c.binding, index with
  | .single b, _ => some (fieldOfBinding b)
  | .group bs, some i => bs[i]?.map fieldOfBinding
  | .group _, none => none

end Column

end ViewQuery.Filter
