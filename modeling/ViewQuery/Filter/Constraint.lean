import ViewQuery.Filter.Error
import ViewQuery.Number.Decimal
import ViewQuery.Text.Blank
import ViewQuery.Text.Cut

/-!
# Match modes

How the cell of a row is compared with the value of a filter. Four modes look for the value as a
part of the cell, four compare the two as numbers, and those refuse what is not a number.

* `Constraint.accepts`: whether a cell passes for a value.
-/

namespace ViewQuery.Filter

/-- How a cell is compared with the value of a filter. -/
inductive Constraint where
  | startsWith
  | endsWith
  | contains
  | exact
  | lessThan
  | lessThanEquals
  | greaterThan
  | greaterThanEquals
  deriving DecidableEq, Repr

namespace Constraint

/-- The mode of a column for which none is given. -/
instance : Inhabited Constraint := ⟨.startsWith⟩

/-- The name of a mode. -/
def name : Constraint → String
  | .startsWith => "startsWith"
  | .endsWith => "endsWith"
  | .contains => "contains"
  | .exact => "exact"
  | .lessThan => "lt"
  | .lessThanEquals => "lte"
  | .greaterThan => "gt"
  | .greaterThanEquals => "gte"

/-- The mode of a name. -/
def ofName : String → Except Error Constraint
  | "startsWith" => .ok .startsWith
  | "endsWith" => .ok .endsWith
  | "contains" => .ok .contains
  | "exact" => .ok .exact
  | "lt" => .ok .lessThan
  | "lte" => .ok .lessThanEquals
  | "gt" => .ok .greaterThan
  | "gte" => .ok .greaterThanEquals
  | other => .error (.matchMode other)

/-- The number that a text stands for, without the blank characters around it. -/
def number? (s : String) : Option Number.Binary64 := Number.readBinary64 (Text.trim s.toList)

/-- Compare two texts as numbers. -/
def compare (holds : Number.Binary64 → Number.Binary64 → Bool) (cell value : String) : Bool :=
  match number? cell, number? value with
  | some a, some b => holds a b
  | _, _ => false

/-- Whether a cell passes for the value of a filter. -/
def accepts (c : Constraint) (cell value : String) : Bool :=
  match c with
  | .startsWith => value.toList.isPrefixOf cell.toList
  | .endsWith => value.toList.isSuffixOf cell.toList
  | .contains => Text.occursIn value.toList cell.toList
  | .exact => cell == value
  | .lessThan => compare Number.Binary64.lt cell value
  | .lessThanEquals => compare Number.Binary64.le cell value
  | .greaterThan => compare (fun a b => b.lt a) cell value
  | .greaterThanEquals => compare (fun a b => b.le a) cell value

theorem ofName_name (c : Constraint) : ofName c.name = .ok c := by
  cases c <;> rfl

end Constraint

end ViewQuery.Filter
