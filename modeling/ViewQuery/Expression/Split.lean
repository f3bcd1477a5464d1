import ViewQuery.Text.Blank

/-!
# Cutting expressions

Two ways of cutting a text outside its parentheses. A list of expressions is cut at commas and
white space, an expression at the separator of its segments. How deep a character lies is counted
from the start of the text: an opening parenthesis goes one deeper, a closing one comes back, but
never above the outermost level, so that a closing parenthesis without its partner changes nothing.

* `splitExpressions`: the expressions of a list, without blank characters around them;
* `splitSegments`: the segments of an expression as they are written.
-/

namespace ViewQuery.Expression

open ViewQuery.Text (isBlank trim)

/-- How deep the text lies after a character. -/
def depthAfter (depth : Nat) (c : Char) : Nat :=
  if c = '(' then depth + 1 else if c = ')' then depth - 1 else depth

/-- How deep the text lies after a list of characters. -/
def depthAfterAll (depth : Nat) (cs : List Char) : Nat := cs.foldl depthAfter depth

/-- A piece without the blank characters around it, and nothing for a blank piece. -/
def flush (piece : List Char) : List (List Char) :=
  if trim piece = [] then [] else [trim piece]

/-- Whether the first character that is not blank opens a parenthesis. -/
def opensNext (cs : List Char) : Bool := (cs.dropWhile isBlank).head? == some '('

/-- The expressions of the characters that follow `piece` (read last character first) at a depth.
Outside of parentheses a comma ends the piece, and so does a blank character, unless an argument
list for the piece comes next. -/
def splitFrom (depth : Nat) (piece : List Char) : List Char → List (List Char)
  | [] => flush piece.reverse
  | c :: rest =>
    if c = ',' ∧ depth = 0 then flush piece.reverse ++ splitFrom depth [] rest
    else if isBlank c ∧ depth = 0 ∧ ¬ (opensNext rest ∧ trim piece.reverse ≠ []) then
      flush piece.reverse ++ splitFrom depth [] rest
    else splitFrom (depthAfter depth c) (c :: piece) rest

/-- The expressions of a list that is separated by commas and white space. -/
def splitExpressions (text : String) : List String :=
  (splitFrom 0 [] text.toList).map String.ofList

/-- Put a character in front of the first of several segments. -/
def consFirst (c : Char) : List (List Char) → List (List Char)
  | [] => [[c]]
  | segment :: rest => (c :: segment) :: rest

/-- The segments of the characters at a depth. A separator counts outside of parentheses only, and
one that is itself a parenthesis never does. -/
def segmentsFrom (separator : Char) (depth : Nat) : List Char → List (List Char)
  | [] => [[]]
  | c :: rest =>
    if c = separator ∧ depth = 0 ∧ c ≠ '(' ∧ c ≠ ')' then [] :: segmentsFrom separator depth rest
    else consFirst c (segmentsFrom separator (depthAfter depth c) rest)

/-- The segments of an expression, neither trimmed nor filtered. -/
def splitSegments (separator : Char) (expression : String) : List String :=
  (segmentsFrom separator 0 expression.toList).map String.ofList

end ViewQuery.Expression
