import ViewQuery.Expression.Stage

/-!
# Configuration

What can be configured: how expressions are read, how filter parameters are named, how much is
logged, and the tables with their filterable columns.
-/

namespace ViewQuery

namespace Config

/-- How expressions are read. -/
structure Expressions where
  stage : Stage
  separator : Char
  deriving DecidableEq, Repr

/-- How filter parameters are named. -/
structure Filtering where
  globalFilterParam : String
  deriving DecidableEq, Repr

/-- How much is logged. -/
structure Logging where
  level : String
  deriving DecidableEq, Repr

/-- A filterable column, or a group of them where there are fields. -/
structure Column where
  id : String
  filterBy : Option String
  fields : List String
  matchMode : String
  deriving DecidableEq, Repr

/-- A data table. -/
structure Table where
  clientId : String
  isLazy : Bool
  isPaginated : Bool
  columns : List Column
  deriving DecidableEq, Repr

/-! ## Defaults -/

def defaultStage : Stage := .production

def defaultSeparator : Char := ':'

def defaultGlobalFilterParam : String := "globalFilter"

def defaultLevel : String := "info"

def defaultMatchMode : String := "startsWith"

end Config

/-- The whole configuration. -/
structure Config where
  expressions : Config.Expressions
  filtering : Config.Filtering
  logging : Config.Logging
  tables : List Config.Table
  deriving DecidableEq, Repr

namespace Config

def defaultExpressions : Expressions :=
  { stage := defaultStage, separator := defaultSeparator }

def defaultFiltering : Filtering := { globalFilterParam := defaultGlobalFilterParam }

def defaultLogging : Logging := { level := defaultLevel }

/-- What counts where nothing is configured. -/
instance : Inhabited Config :=
  ⟨{ expressions := defaultExpressions
     filtering := defaultFiltering
     logging := defaultLogging
     tables := [] }⟩

/-- The table of a client id, the first of several. -/
def table? (c : Config) (clientId : String) : Option Table :=
  c.tables.find? fun t => t.clientId == clientId

end Config

end ViewQuery
