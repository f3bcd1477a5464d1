import ViewQuery.Dict
import ViewQuery.Expression.Rule

/-!
# Keyword registries

Which rule serves which keyword. A keyword serves a segment that is the keyword, or the keyword
with an argument list behind it; one that itself ends with an opening parenthesis serves every
segment that starts with it. Of several keywords the longest serves, and a segment without the
keyword mark is a path.

A registry never looks into the rules that it holds. They are of any type that has the rules of this
library in it, so a host may register rules of its own beside them.

* `RuleLike`: the types of rules that can be registered;
* `Registry.register`: add a keyword, or give it another rule;
* `Registry.find`: the rule of a segment.
-/

namespace ViewQuery.Expression

/-- The character that keywords start with. -/
def keywordMark : Char := '@'

/-- The keyword for no component. -/
def noneKeyword : String := "@none"

/-- The types of rules that can be registered: the rules of this library are among them. -/
class RuleLike (α : Type) where
  ofRule : Rule → α

instance : RuleLike Rule where
  ofRule rule := rule

/-- The rules of the keywords. -/
structure Registry (α : Type) where
  rules : Dict α
  deriving DecidableEq, Repr

namespace Registry

variable {α : Type}

/-- No keywords, so that only paths resolve. -/
def empty : Registry α := { rules := [] }

/-- Set the rule of a keyword. -/
def register (r : Registry α) (keyword : String) (rule : α) : Registry α :=
  { rules := Dict.insert keyword rule r.rules }

/-- The keywords in order. -/
def keywords (r : Registry α) : List String := Dict.keys r.rules

/-- Whether a keyword serves a segment. -/
def serves (keyword segment : List Char) : Bool :=
  match Text.afterPrefix keyword segment with
  | none => false
  | some rest => rest.isEmpty || keyword.getLast? == some '(' || rest.head? == some '('

/-- The last of several entries whose keywords have the most bytes. -/
def longest (entries : List (String × α)) : Option (String × α) :=
  entries.foldl (fun best e =>
    match best with
    | none => some e
    | some b => if b.1.utf8ByteSize ≤ e.1.utf8ByteSize then some e else some b) none

/-- The rule of a trimmed segment; there is none only for a segment with the mark of a keyword. -/
def find [RuleLike α] (r : Registry α) (segment : String) : Option α :=
  if segment.toList.head? = some keywordMark then
    (longest (r.rules.filter fun e => serves e.1.toList segment.toList)).map (·.2)
  else some (RuleLike.ofRule .path)

theorem find_of_head?_ne {r : Registry Rule} {segment : String}
    (h : segment.toList.head? ≠ some keywordMark) : r.find segment = some .path :=
  if_neg h

/-- The keywords that are always there. -/
def builtinRules : List (String × Rule) :=
  [("@this", .this), ("@parent", .parent), ("@form", .enclosing .form),
   ("@namingcontainer", .enclosing .namingContainer), ("@composite", .enclosing .composite),
   ("@child", .child), ("@previous", .sibling .previous), ("@next", .sibling .next),
   ("@all", .all), ("@none", .none), ("@widgetVar", .client), ("@(", .client)]

/-- The built-in keywords with their rules as those of a host. -/
def builtinEntries [RuleLike α] : List (String × α) :=
  builtinRules.map fun e => (e.1, RuleLike.ofRule e.2)

/-- The registry of the built-in keywords that a host adds its own to. -/
def builtinFor (α : Type) [RuleLike α] : Registry α :=
  builtinEntries.foldl (fun r e => r.register e.1 e.2) empty

/-- The registry of the built-in keywords. -/
abbrev builtin : Registry Rule := builtinFor Rule

end Registry

end ViewQuery.Expression
