import ViewQuery.Number.Binary64
import ViewQuery.Number.Digits

/-!
# Numbers written in text

The decimal form of a double-precision number: an optional sign, digits with at most one point
among or beside them, and an optional power of ten; or, in any letter case, one of the names of
the values that are not finite. Blank characters are no part of it.
-/

namespace ViewQuery.Number

/-- The value of the digits of a power of ten, at most a bound past which no number is finite and
different from zero. -/
def exponentMagnitude (digits : List Char) : Nat :=
  digits.foldl (fun n c => min (10 * n + digitValue c) (Nat.pow 10 9)) 0

/-- The power of ten at the end of a number: nothing, or a letter `e`, an optional sign and at
least one digit. -/
def readExponent : List Char → Option Int
  | [] => some 0
  | c :: rest =>
    if c = 'e' ∨ c = 'E' then
      let (negative, digits) := match rest with
        | '-' :: ds => (true, ds)
        | '+' :: ds => (false, ds)
        | ds => (false, ds)
      if digits.isEmpty || !digits.all Char.isDigit then none
      else some (if negative then -(exponentMagnitude digits : Int) else exponentMagnitude digits)
    else none

/-- The names of the values that are not finite, in lowercase. -/
def readNamed (negative : Bool) (cs : List Char) : Option Binary64 :=
  let name := String.ofList (cs.map Char.toLower)
  if name = "inf" ∨ name = "infinity" then some (.infinite negative)
  else if name = "nan" then some .nan
  else none

/-- A number without its sign. -/
def readMagnitude (negative : Bool) (cs : List Char) : Option Binary64 :=
  let (whole, rest) := spanDigits cs
  let (part, rest) := match rest with
    | '.' :: rest => spanDigits rest
    | _ => ([], rest)
  if whole.isEmpty && part.isEmpty then readNamed negative cs
  else
    (readExponent rest).map fun e =>
      .ofDecimal negative (ofDigits (whole ++ part)) (e - part.length)

/-- The number that a list of characters stands for, if they are one. -/
def readBinary64 : List Char → Option Binary64
  | '-' :: cs => readMagnitude true cs
  | '+' :: cs => readMagnitude false cs
  | cs => readMagnitude false cs

end ViewQuery.Number
