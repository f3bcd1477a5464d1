import ViewQuery.Config.Basic
import ViewQuery.Text.Blank
import ViewQuery.Text.Quoted

/-!
# Validating configurations

What a configuration has to satisfy before it is used. The first violation is reported: that of the
separator, the global filter parameter or the log level, and then those of the tables in order, for
each table its own before those of its columns in order.

* `Config.violation`: the first violation of a configuration;
* `Config.validate`: accept a configuration without one.
-/

namespace ViewQuery.Config

/-- What is wrong with a column. -/
inductive ColumnViolation where
  | emptyId
  | noBinding
  | twoBindings
  | unknownMatchMode (name : String)
  deriving DecidableEq, Repr

/-- What is wrong with a configuration; tables and columns are given by their indexes. -/
inductive Violation where
  | separator (c : Char)
  | emptyGlobalFilterParam
  | emptyLevel
  | emptyClientId (table : Nat)
  | column (table column : Nat) (violation : ColumnViolation)
  deriving DecidableEq, Repr

/-- The names of the match modes in order. -/
def matchModes : List String :=
  ["startsWith", "endsWith", "contains", "exact", "lt", "lte", "gt", "gte"]

/-- The text of what is wrong with a column, which is called by its place. -/
def ColumnViolation.message (place : String) : ColumnViolation → String
  | .emptyId => place ++ ".id must not be empty"
  | .noBinding => place ++ " needs either filter_by or fields"
  | .twoBindings => place ++ " must not set both filter_by and fields"
  | .unknownMatchMode name =>
    place ++ ".match_mode must be one of [" ++
      String.intercalate ", " (matchModes.map Text.quoted) ++ "], got " ++ Text.quoted name

/-- What is said about a violation. -/
def Violation.text : Violation → String
  | .separator c =>
    "expressions.separator must not be '@', a parenthesis, a comma or whitespace, got " ++
      Text.quotedAlone c
  | .emptyGlobalFilterParam => "filtering.global_filter_param must not be empty"
  | .emptyLevel => "logging.level must not be empty"
  | .emptyClientId i => "tables[" ++ toString i ++ "].client_id must not be empty"
  | .column i j v => v.message ("tables[" ++ toString i ++ "].columns[" ++ toString j ++ "]")

/-- The text of a violation. -/
def Violation.message (v : Violation) : String := "validation error: " ++ v.text

/-- Whether a character can stand between the parts of a name: it has no meaning in expressions or
in lists of them. -/
def isUsableSeparator (c : Char) : Bool :=
  !(c == '@' || c == '(' || c == ')' || c == ',' || Text.isBlank c)

/-- What is wrong with a column. -/
def Column.violation (c : Column) : Option ColumnViolation :=
  if c.id.isEmpty then some .emptyId
  else if c.filterBy.isNone && c.fields.isEmpty then some .noBinding
  else if c.filterBy.isSome && !c.fields.isEmpty then some .twoBindings
  else if !matchModes.contains c.matchMode then some (.unknownMatchMode c.matchMode)
  else none

/-- The first violation of the table at an index. -/
def Table.violation (i : Nat) (t : Table) : Option Violation :=
  if t.clientId.isEmpty then some (.emptyClientId i)
  else t.columns.zipIdx.findSome? fun c => c.1.violation.map fun v => .column i c.2 v

/-- The first violation of a configuration. -/
def violation (c : Config) : Option Violation :=
  if !isUsableSeparator c.expressions.separator then some (.separator c.expressions.separator)
  else if c.filtering.globalFilterParam.isEmpty then some .emptyGlobalFilterParam
  else if c.logging.level.isEmpty then some .emptyLevel
  else c.tables.zipIdx.findSome? fun t => t.1.violation t.2

/-- Accept a configuration without a violation. -/
def validate (c : Config) : Except Violation Unit :=
  match c.violation with
  | some v => .error v
  | none => .ok ()

end ViewQuery.Config
