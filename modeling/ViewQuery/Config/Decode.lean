import ViewQuery.Config.Basic
import ViewQuery.Data

/-!
# Decoding configurations

A configuration given in a data format. What is not given has its default, but for the client id of
a table and the id of a column, and names that mean nothing are passed over.

* `Config.ofData?`: a whole configuration;
* `Config.Table.ofData?`: one table.
-/

namespace ViewQuery.Config

open Data (fields? orDefault text? flag? list? char? variant? textOrNothing?)

variable {α : Type} [Data α]

/-- How expressions are read. Either setting may be left out. -/
def Expressions.ofData? (d : α) : Option Expressions :=
  match fields? ["stage", "separator"] d with
  | some [stage, separator] => do
    let stage ← orDefault (variant? Stage.ofName?) defaultStage stage
    let separator ← orDefault char? defaultSeparator separator
    pure { stage, separator }
  | _ => none

/-- How filter parameters are named. -/
def Filtering.ofData? (d : α) : Option Filtering :=
  match fields? ["global_filter_param"] d with
  | some [param] => do
    let globalFilterParam ← orDefault text? defaultGlobalFilterParam param
    pure { globalFilterParam }
  | _ => none

/-- How much is logged. Whether the level means anything is not looked at. -/
def Logging.ofData? (d : α) : Option Logging :=
  match fields? ["level"] d with
  | some [level] => do
    let level ← orDefault text? defaultLevel level
    pure { level }
  | _ => none

/-- A column, which must have an id. Its binding is the one setting that may be given as nothing. -/
def Column.ofData? (d : α) : Option Column :=
  match fields? ["id", "filter_by", "fields", "match_mode"] d with
  | some [some id, filterBy, fields, matchMode] => do
    let id ← text? id
    let filterBy ← orDefault textOrNothing? none filterBy
    let fields ← orDefault (list? text?) [] fields
    let matchMode ← orDefault text? defaultMatchMode matchMode
    pure { id, filterBy, fields, matchMode }
  | _ => none

/-- A table, which must have a client id, with its columns in order. -/
def Table.ofData? (d : α) : Option Table :=
  match fields? ["client_id", "lazy", "paginator", "columns"] d with
  | some [some clientId, isLazy, isPaginated, columns] => do
    let clientId ← text? clientId
    let isLazy ← orDefault flag? false isLazy
    let isPaginated ← orDefault flag? false isPaginated
    let columns ← orDefault (list? Column.ofData?) [] columns
    pure { clientId, isLazy, isPaginated, columns }
  | _ => none

/-- A whole configuration. There is none if any setting in it is of the wrong form. -/
def ofData? (d : α) : Option Config :=
  match fields? ["expressions", "filtering", "logging", "tables"] d with
  | some [expressions, filtering, logging, tables] => do
    let expressions ← orDefault Expressions.ofData? defaultExpressions expressions
    let filtering ← orDefault Filtering.ofData? defaultFiltering filtering
    let logging ← orDefault Logging.ofData? defaultLogging logging
    let tables ← orDefault (list? Table.ofData?) [] tables
    pure { expressions, filtering, logging, tables }
  | _ => none

end ViewQuery.Config
