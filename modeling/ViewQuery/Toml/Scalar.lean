import ViewQuery.Number.Decimal
import ViewQuery.Toml.Basic

/-!
# TOML scalars

The values that are written without quotes and brackets: truth values, whole numbers in four
bases, double-precision numbers, dates and times. Each of them is written as one word.

* `readScalar`: the value of a word, if it is one.
-/

namespace ViewQuery.Toml

open ViewQuery.Number (ofDigits ofHexDigits? hexDigit?)

/-! ## Numbers -/

/-- Digits in front of a list, at least one, where an underscore may stand between two of them. -/
def readGrouped (isDigit : Char → Bool) : List Char → Option (List Char × List Char)
  | [] => none
  | c :: rest =>
    if isDigit c then
      match rest with
      | '_' :: rest => (readGrouped isDigit rest).map fun p => (c :: p.1, p.2)
      | d :: more =>
        if isDigit d then (readGrouped isDigit (d :: more)).map fun p => (c :: p.1, p.2)
        else some ([c], d :: more)
      | [] => some ([c], [])
    else none

/-- A sign that may stand in front, `true` for the one of negative numbers. -/
def readSign : List Char → Bool × List Char
  | '-' :: rest => (true, rest)
  | '+' :: rest => (false, rest)
  | cs => (false, cs)

/-- A whole number, within the range of 128 bits at its sign. -/
def integer? (negative : Bool) (magnitude : Nat) : Option Toml :=
  if negative then
    if magnitude ≤ Nat.pow 2 127 then some (.integer (-magnitude)) else none
  else if magnitude < Nat.pow 2 128 then some (.integer magnitude) else none

/-- A finite number from its digits and the power of ten of the last of them. -/
def float? (negative : Bool) (digits : List Char) (power : Int) : Option Toml :=
  match Number.Binary64.ofDecimal negative (ofDigits digits) power with
  | .infinite _ => none
  | x => some (.float x)

/-- A word of digits in a base of at most 16, all of them allowed. -/
def readBased (base : Nat) (isDigit : Char → Bool) (cs : List Char) : Option Toml :=
  match readGrouped isDigit cs with
  | some (digits, []) =>
    (digits.mapM hexDigit?).bind fun ds => integer? false (ds.foldl (fun n d => base * n + d) 0)
  | _ => none

/-- The whole part of a number in base ten: a zero alone, or digits that do not start with one. -/
def readWholePart (cs : List Char) : Option (List Char × List Char) :=
  match readGrouped Char.isDigit cs with
  | some ('0' :: _ :: _, _) => none
  | result => result

/-- The fraction of a number, `none` where there is no point. -/
def readFractionPart : List Char → Option (Option (List Char) × List Char)
  | '.' :: rest => (readGrouped Char.isDigit rest).map fun p => (some p.1, p.2)
  | cs => some (none, cs)

/-- The power of ten of a number, `none` where there is no letter `e`. -/
def readPowerPart : List Char → Option (Option Int × List Char)
  | [] => some (none, [])
  | c :: rest =>
    if c = 'e' ∨ c = 'E' then
      let (negative, rest) := readSign rest
      (readGrouped Char.isDigit rest).map fun p =>
        let magnitude : Int := Number.exponentMagnitude p.1
        (some (if negative then -magnitude else magnitude), p.2)
    else some (none, c :: rest)

/-- A number in base ten after its sign: a whole one if it has neither fraction nor power. -/
def readUnsigned (negative : Bool) (cs : List Char) : Option Toml := do
  let (whole, cs) ← readWholePart cs
  let (fraction, cs) ← readFractionPart cs
  let (power, cs) ← readPowerPart cs
  if !cs.isEmpty then none
  else match fraction, power with
    | none, none => integer? negative (ofDigits whole)
    | _, _ =>
      let fraction := fraction.getD []
      float? negative (whole ++ fraction) (power.getD 0 - fraction.length)

/-- A number. -/
def readNumber : List Char → Option Toml
  | '0' :: 'x' :: cs => readBased 16 (fun c => (hexDigit? c).isSome) cs
  | '0' :: 'o' :: cs => readBased 8 (fun c => '0' ≤ c && c ≤ '7') cs
  | '0' :: 'b' :: cs => readBased 2 (fun c => c == '0' || c == '1') cs
  | cs =>
    let (negative, cs) := readSign cs
    if cs = "inf".toList then some (.float (.infinite negative))
    else if cs = "nan".toList then some (.float .nan)
    else readUnsigned negative cs

/-! ## Dates and times -/

/-- Two digits. -/
def readTwoDigits : List Char → Option (Nat × List Char)
  | a :: b :: rest =>
    if a.isDigit && b.isDigit then some (ofDigits [a, b], rest) else none
  | _ => none

/-- What follows a mark in front. -/
def afterMark (mark : Char) : List Char → Option (List Char)
  | c :: rest => if c = mark then some rest else none
  | [] => none

/-- Whether a year has a day more than others. -/
def isLeapYear (year : Nat) : Bool :=
  year % 4 == 0 && (year % 100 != 0 || year % 400 == 0)

/-- How many days a month has. -/
def daysOfMonth (year month : Nat) : Nat :=
  if month = 2 then if isLeapYear year then 29 else 28
  else if month = 4 ∨ month = 6 ∨ month = 9 ∨ month = 11 then 30
  else 31

/-- A day in front: four digits of the year, two of the month and two of the day. -/
def readDate (cs : List Char) : Option (Date × List Char) := do
  let (century, cs) ← readTwoDigits cs
  let (years, cs) ← readTwoDigits cs
  let (month, cs) ← (afterMark '-' cs).bind readTwoDigits
  let (day, cs) ← (afterMark '-' cs).bind readTwoDigits
  let year := 100 * century + years
  if 1 ≤ month ∧ month ≤ 12 ∧ 1 ≤ day ∧ day ≤ daysOfMonth year month then
    pure ({ year, month, day }, cs)
  else none

/-- The seconds of a time and their fraction, of which the first nine digits count. -/
def readSeconds (cs : List Char) : Option (Nat × Nat × List Char) := do
  let (second, cs) ← readTwoDigits cs
  match cs with
  | '.' :: rest =>
    match Number.spanDigits rest with
    | ([], _) => none
    | (digits, rest) => pure (second, ofDigits ((digits ++ List.replicate 9 '0').take 9), rest)
  | cs => pure (second, 0, cs)

/-- A time of day in front, with or without seconds. -/
def readTime (cs : List Char) : Option (Time × List Char) := do
  let (hour, cs) ← readTwoDigits cs
  let (minute, cs) ← (afterMark ':' cs).bind readTwoDigits
  let (second, nanosecond, cs) ← match cs with
    | ':' :: rest => readSeconds rest
    | cs => pure (0, 0, cs)
  if hour ≤ 23 ∧ minute ≤ 59 ∧ second ≤ 60 then pure ({ hour, minute, second, nanosecond }, cs)
  else none

/-- The offset at the end of a time of a day, if it has one. -/
def readOffset : List Char → Option (Option Int)
  | [] => some none
  | ['Z'] | ['z'] => some (some 0)
  | c :: cs =>
    if c = '+' ∨ c = '-' then
      match readTwoDigits cs with
      | some (hours, ':' :: cs) =>
        match readTwoDigits cs with
        | some (minutes, []) =>
          if hours ≤ 23 ∧ minutes ≤ 59 then
            let offset : Int := 60 * hours + minutes
            some (some (if c = '-' then -offset else offset))
          else none
        | _ => none
      | _ => none
    else none

/-- Whether a character may stand between the day and the time. -/
def isDateTimeMark (c : Char) : Bool := c == 'T' || c == 't' || c == ' '

/-- A day, a time, or a time of a day. -/
def readMoment (cs : List Char) : Option Moment :=
  match readDate cs with
  | some (date, []) => some (.date date)
  | some (date, mark :: rest) =>
    if isDateTimeMark mark then do
      let (time, rest) ← readTime rest
      let offset ← readOffset rest
      pure (.dateTime date time offset)
    else none
  | none =>
    match readTime cs with
    | some (time, []) => some (.time time)
    | _ => none

/-! ## Words -/

/-- The value of a word. -/
def readScalar (cs : List Char) : Option Toml :=
  if cs = "true".toList then some (.boolean true)
  else if cs = "false".toList then some (.boolean false)
  else match readMoment cs with
    | some m => some (.moment m)
    | none => readNumber cs

end ViewQuery.Toml
