import ViewQuery.Json.Basic
import ViewQuery.Number.Decimal

/-!
# JSON numerals

The number that a JSON numeral stands for. A numeral without point and power of ten is a whole
number if it fits in 64 bits, but for `-0`, which keeps its sign as a double. Every other one is a
double, computed in three steps: as many leading digits as fit in 64 bits make a significand, the
digits left over only move the point; the significand is rounded to a double; and that is
multiplied or divided by the rounded power of ten, by at most `10 ^ 308` at a time. The result can
lie next to the double nearest to the numeral.
-/

namespace ViewQuery.Json

/-- A numeral by its parts. The fraction and the power of ten have at least one digit where they
are there at all. -/
structure Numeral where
  negative : Bool
  whole : List Char
  fraction : List Char
  exponent : Option (Bool × List Char)

namespace Numeral

open ViewQuery.Number (Binary64 digitValue)

/-- Extend a significand by digits for as long as it fits in 64 bits, and count the digits. -/
def absorb (significand : Nat) : List Char → Nat × Nat
  | [] => (significand, 0)
  | c :: rest =>
    let next := 10 * significand + digitValue c
    if next < Nat.pow 2 64 then
      let (s, n) := absorb next rest
      (s, n + 1)
    else (significand, 0)

/-- The rounded power of ten. -/
def tenTo (e : Nat) : Binary64 := .ofDecimal false 1 e

/-- Whether a number is one of the zeros. -/
def isZero : Binary64 → Bool
  | .finite _ m _ => m = 0
  | _ => false

/-- Move the point of a rounded significand, `none` when the result is too large. A significand of
64 bits is zero after two divisions by `10 ^ 308`, so that a few `steps` are enough. -/
def shift (f : Binary64) (e : Int) : Nat → Option Binary64
  | 0 => some f
  | steps + 1 =>
    if e.natAbs ≤ 308 then
      if 0 ≤ e then
        match f.mul (tenTo e.toNat) with
        | .infinite _ => none
        | g => some g
      else some (f.div (tenTo (-e).toNat))
    else if isZero f then some f
    else if 0 ≤ e then none
    else shift (f.div (tenTo 308)) (e + 308) steps

/-- A double at a sign, from a significand and a power of ten. -/
def double? (negative : Bool) (significand : Nat) (e : Int) : Option Number :=
  (shift (.ofRatio false significand 1) e 4).map fun f =>
    .double (if negative then f.neg else f)

/-- The greatest magnitude of a power of ten that is computed with. -/
def maxExponent : Nat := Nat.pow 2 31 - 1

/-- A double with a written power of ten. A power past `maxExponent` makes the number zero, or too
large unless its significand is zero. -/
def doubleWithExponent? (negative : Bool) (significand : Nat) (e : Int) (below : Bool)
    (digits : List Char) : Option Number :=
  let written := Number.ofDigits digits
  if maxExponent < written then
    if significand ≠ 0 ∧ ¬ below then none else double? negative 0 0
  else double? negative significand (if below then e - written else e + written)

/-- A whole number that fits in 64 bits. -/
def integer (negative : Bool) (significand : Nat) : Number :=
  if negative then
    if significand = 0 ∨ Nat.pow 2 63 < significand then
      .double (Binary64.ofRatio true significand 1)
    else .integer (-significand)
  else .integer significand

/-- The number that a numeral stands for, `none` when it is too large. -/
def toNumber? (n : Numeral) : Option Number :=
  let (whole, used) := absorb 0 n.whole
  let dropped := n.whole.length - used
  let (significand, places) := absorb whole n.fraction
  let e : Int := (dropped : Int) - places
  match n.exponent with
  | some (below, digits) => doubleWithExponent? n.negative significand e below digits
  | none =>
    if n.fraction.isEmpty && dropped = 0 then some (integer n.negative whole)
    else double? n.negative significand e

end Numeral

end ViewQuery.Json
