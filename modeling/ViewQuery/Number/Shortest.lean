import ViewQuery.Number.Binary64

/-!
# Shortest decimals

The decimal with the fewest digits that rounds to a given double-precision number, and of those
the one nearest to it. The numbers that round to `significand · 2 ^ exponent` lie between the
midpoints to its two neighbours, the midpoints included when the significand is even; for one,
two, … digits the two points next to the value on the grid of that many digits are tried, as a
point of the grid that lies between the midpoints has one of these two between them.

* `shortest`: the digits, and the power of ten of the first of them.
-/

namespace ViewQuery.Number

/-- A positive number and the midpoints to its neighbours, in a common unit `1 / den`. -/
structure Interval where
  low : Nat
  value : Nat
  high : Nat
  den : Nat
  closed : Bool

/-- The interval of the numbers that round to a finite number other than zero. -/
def Interval.ofBinary64 (significand : Nat) (exponent : Int) : Interval :=
  let up : Nat := if 0 ≤ exponent then Nat.pow 2 exponent.toNat else 1
  let den : Nat := if 0 ≤ exponent then 4 else 4 * Nat.pow 2 (-exponent).toNat
  let below := if significand = Nat.pow 2 52 ∧ Binary64.minExponent < exponent then 1 else 2
  { low := (4 * significand - below) * up
    value := 4 * significand * up
    high := (4 * significand + 2) * up
    den
    closed := significand % 2 = 0 }

/-- Whether `num / den` lies in an interval. -/
def Interval.holds (i : Interval) (num den : Nat) : Bool :=
  if i.closed then i.low * den ≤ num * i.den ∧ num * i.den ≤ i.high * den
  else i.low * den < num * i.den ∧ num * i.den < i.high * den

/-- The greatest `p` with `10 ^ p ≤ num / den`, for a fraction within the range of the numbers. -/
def leadingPower (num den : Nat) : Int :=
  let reaches (p : Int) : Bool :=
    if 0 ≤ p then den * Nat.pow 10 p.toNat ≤ num else den ≤ num * Nat.pow 10 (-p).toNat
  let guess : Int := ((num.log2 : Int) - den.log2) * 30103 / 100000
  if reaches (guess + 1) then guess + 1
  else if reaches guess then guess
  else if reaches (guess - 1) then guess - 1
  else guess - 2

/-- The point `d · 10 ^ k` of the grid of step `10 ^ k` that is nearest to the value and lies in
the interval, if one does; `d` is returned. -/
def onGrid (i : Interval) (k : Int) : Option Nat :=
  let (num, den) : Nat × Nat :=
    if 0 ≤ k then (i.value, i.den * Nat.pow 10 k.toNat)
    else (i.value * Nat.pow 10 (-k).toNat, i.den)
  let under := num / den
  let inside (d : Nat) : Bool :=
    if 0 ≤ k then i.holds (d * Nat.pow 10 k.toNat) 1 else i.holds d (Nat.pow 10 (-k).toNat)
  let nearerUnder := 2 * (num % den) < den ∨ (2 * (num % den) = den ∧ under % 2 = 0)
  if inside under && inside (under + 1) then
    some (if nearerUnder then under else under + 1)
  else if inside under then some under
  else if inside (under + 1) then some (under + 1)
  else none

/-- The first grid point found with `count`, `count + 1`, … digits, `fuel` grids in all, with the
power of ten of its last digit. Seventeen digits always suffice. -/
def searchGrids (i : Interval) (lead : Int) : Nat → Nat → Nat × Int
  | 0, count => (i.value, lead - count)
  | fuel + 1, count =>
    let k := lead - count
    match onGrid i k with
    | some d => (d, k)
    | none => searchGrids i lead fuel (count + 1)

/-- The digits of the shortest decimal of a finite number other than zero, the last of them not a
zero, and the power of ten of the first. -/
def shortest (significand : Nat) (exponent : Int) : List Char × Int :=
  let i := Interval.ofBinary64 significand exponent
  let (d, k) := searchGrids i (leadingPower i.value i.den) 17 0
  let all := Nat.toDigits 10 d
  let kept := (all.reverse.dropWhile (· == '0')).reverse
  (kept, k + (all.length : Int) - 1)

end ViewQuery.Number
