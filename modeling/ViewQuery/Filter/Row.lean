import ViewQuery.Json.Printer
import ViewQuery.Text.Cut
import Std.Data.HashMap
import Std.Data.TreeMap

/-!
# Rows

What a table needs to know of its rows: the texts of their cells. In a JSON row a field is a path
whose parts are separated by dots; in a row of named texts the whole field is the name.
-/

namespace ViewQuery.Filter

/-- Rows whose cells can be read as texts. -/
class Row (R : Type) where
  /-- The text of the cell at a field, `none` where there is no cell or it is null. -/
  cell : R → String → Option String

/-- The text of a JSON value: a string as it is, anything else in its compact form. -/
def cellText : Json → Option String
  | .null => none
  | .string s => some s
  | value => some value.compact

instance : Row Json where
  cell row field := (row.at? (Text.piecesBetween '.' field)).bind cellText

instance : Row (Std.HashMap String String) where
  cell row field := row[field]?

instance : Row (Std.TreeMap String String) where
  cell row field := row[field]?

end ViewQuery.Filter
