/-!
# Why filtering fails

The errors of filtering with their texts.
-/

namespace ViewQuery.Filter

/-- What goes wrong in filtering. -/
inductive Error where
  /-- A request parameter of a column group names none of its columns. -/
  | columnIndex (parameter : String)
  /-- There is no match mode of a name. -/
  | matchMode (name : String)
  /-- The rows could not be drawn. -/
  | render (reason : String)
  deriving DecidableEq, Repr

/-- The text of an error. -/
def Error.message : Error → String
  | .columnIndex parameter =>
    "cannot read column index from filter parameter \"" ++ parameter ++ "\""
  | .matchMode name => "unknown match mode: " ++ name
  | .render reason => "render failed: " ++ reason

end ViewQuery.Filter
