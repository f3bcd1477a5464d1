/-!
# Project stages

The stage that the hosting application runs in. The grammar of expressions is checked in
development only.
-/

namespace ViewQuery

/-- The stage that the hosting application runs in. -/
inductive Stage where
  | development
  | production
  deriving DecidableEq, Repr, Inhabited

namespace Stage

/-- The name of a stage. -/
def name : Stage → String
  | .development => "development"
  | .production => "production"

/-- The stage of a name. -/
def ofName? : String → Option Stage
  | "development" => some .development
  | "production" => some .production
  | _ => none

end Stage

end ViewQuery
