/-!
# Double-precision numbers

The binary floating-point numbers of 64 bits, as a sign, a significand and a power of two, so
that every operation on them is exact arithmetic on whole numbers followed by one rounding to the
nearest number, a tie going to the even significand.

* `ofRatio`, `ofDecimal`: the number nearest to a fraction, and to a decimal;
* `lt`, `le`: the order, in which a `nan` is comparable with nothing and the two zeros are equal.
-/

namespace ViewQuery.Number

/-- A double-precision number. A finite one stands for `significand · 2 ^ exponent`; built by the
functions of this module, its significand is below `2 ^ 53`, and at least `2 ^ 52` unless the
exponent is the least one. -/
inductive Binary64 where
  | nan
  | infinite (negative : Bool)
  | finite (negative : Bool) (significand : Nat) (exponent : Int)
  deriving DecidableEq, Repr

namespace Binary64

/-- The least exponent, that of the numbers closest to zero. -/
def minExponent : Int := -1074

/-- The greatest exponent of a finite number. -/
def maxExponent : Int := 971

/-- The whole number nearest to a fraction, the even one of two. -/
def roundHalfEven (num den : Nat) : Nat :=
  let q := num / den
  let r := num % den
  if 2 * r < den then q else if den < 2 * r then q + 1 else q + q % 2

/-- Numerator and denominator of `num / den / 2 ^ e`. -/
def scaleDown (num den : Nat) (e : Int) : Nat × Nat :=
  if 0 ≤ e then (num, den * Nat.pow 2 e.toNat) else (num * Nat.pow 2 (-e).toNat, den)

/-- The number nearest to `num / den` at a sign. The exponent is the one that brings the quotient
between `2 ^ 52` and `2 ^ 53`, or the least one. -/
def ofRatio (negative : Bool) (num den : Nat) : Binary64 :=
  if num = 0 then finite negative 0 minExponent
  else
    let guess : Int := max ((num.log2 : Int) - den.log2 - 53) minExponent
    let (n, d) := scaleDown num den guess
    let e := if n / d < Nat.pow 2 53 then guess else guess + 1
    let (n, d) := scaleDown num den e
    let m := roundHalfEven n d
    let (m, e) := if m = Nat.pow 2 53 then (Nat.pow 2 52, e + 1) else (m, e)
    if maxExponent < e then infinite negative else finite negative m e

/-- The number nearest to `m · 10 ^ e` at a sign. Powers far outside the range of the numbers are
not computed: `10 ^ 400` is above all of them, and a value below `2 ^ -1080` rounds to zero. -/
def ofDecimal (negative : Bool) (m : Nat) (e : Int) : Binary64 :=
  if m = 0 then finite negative 0 minExponent
  else if 400 < e then infinite negative
  else if 0 ≤ e then ofRatio negative (m * Nat.pow 10 e.toNat) 1
  else if (m.log2 : Int) + 1 + 1080 < -3 * e then finite negative 0 minExponent
  else ofRatio negative m (Nat.pow 10 (-e).toNat)

/-- The opposite number. -/
def neg : Binary64 → Binary64
  | nan => nan
  | infinite s => infinite !s
  | finite s m e => finite (!s) m e

/-- The magnitude of a finite number as a fraction. -/
def fraction (significand : Nat) (exponent : Int) : Nat × Nat :=
  if 0 ≤ exponent then (significand * Nat.pow 2 exponent.toNat, 1)
  else (significand, Nat.pow 2 (-exponent).toNat)

/-- The product of two magnitudes, rounded; infinite where either is. -/
def mul : Binary64 → Binary64 → Binary64
  | finite s m e, finite s' m' e' =>
    let (a, b) := fraction m e
    let (a', b') := fraction m' e'
    ofRatio (s != s') (a * a') (b * b')
  | nan, _ => nan
  | _, nan => nan
  | infinite s, infinite s' => infinite (s != s')
  | infinite s, finite s' m _ => if m = 0 then nan else infinite (s != s')
  | finite s m _, infinite s' => if m = 0 then nan else infinite (s != s')

/-- The quotient of two finite numbers, the second not zero, rounded. -/
def div : Binary64 → Binary64 → Binary64
  | finite s m e, finite s' m' e' =>
    let (a, b) := fraction m e
    let (a', b') := fraction m' e'
    if m' = 0 then (if m = 0 then nan else infinite (s != s'))
    else ofRatio (s != s') (a * b') (b * a')
  | nan, _ => nan
  | _, nan => nan
  | infinite _, infinite _ => nan
  | infinite s, finite s' _ _ => infinite (s != s')
  | finite s _ _, infinite s' => finite (s != s') 0 minExponent

/-- A finite number in units of `2 ^ unit`, for a `unit` no greater than its exponent. -/
def inUnits (unit : Int) (negative : Bool) (significand : Nat) (exponent : Int) : Int :=
  let magnitude : Int := significand * Nat.pow 2 (exponent - unit).toNat
  if negative then -magnitude else magnitude

/-- Whether the first number is less than the second. -/
def lt : Binary64 → Binary64 → Bool
  | nan, _ => false
  | _, nan => false
  | infinite s, infinite s' => s && !s'
  | infinite s, finite .. => s
  | finite .., infinite s => !s
  | finite s m e, finite s' m' e' =>
    inUnits (min e e') s m e < inUnits (min e e') s' m' e'

/-- Whether the first number is less than the second or equal to it. -/
def le : Binary64 → Binary64 → Bool
  | nan, _ => false
  | _, nan => false
  | infinite s, infinite s' => s || !s'
  | infinite s, finite .. => s
  | finite .., infinite s => !s
  | finite s m e, finite s' m' e' =>
    inUnits (min e e') s m e ≤ inUnits (min e e') s' m' e'

end Binary64

end ViewQuery.Number
