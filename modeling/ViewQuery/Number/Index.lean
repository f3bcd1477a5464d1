import ViewQuery.Number.Digits

/-!
# Indexes written in text

The decimal form of an index: ASCII digits, at least one, with at most one plus sign in front, and
a value that fits in 64 bits. Leading zeros are allowed.
-/

namespace ViewQuery.Number

/-- The bound below which an index lies. -/
def indexBound : Nat := Nat.pow 2 64

/-- The index that a list of characters stands for, if they are one. -/
def readIndex (cs : List Char) : Option Nat :=
  let digits := match cs with
    | '+' :: rest => rest
    | _ => cs
  if digits.isEmpty || !digits.all Char.isDigit then none
  else if ofDigits digits < indexBound then some (ofDigits digits)
  else none

end ViewQuery.Number
