import ViewQuery.Json.Basic
import ViewQuery.Number.Shortest

/-!
# Writing JSON

The compact form of a value: no white space, the members of an object in the order of their keys,
and the shortest decimal for a double.

* `compact`: the text of a value.
-/

namespace ViewQuery.Json

/-! ## Doubles -/

/-- The powers of ten of a first digit from which on doubles are written without a power. -/
def leastPlain : Int := -5

/-- The powers of ten of a first digit from which on doubles are written with a power. -/
def leastScientific : Int := 16

/-- Digits without a power of ten, always with a point: the first digit stands for
`10 ^ power`. -/
def plainDecimal (digits : List Char) (power : Int) : List Char :=
  if power < 0 then
    ['0', '.'] ++ List.replicate (-power - 1).toNat '0' ++ digits
  else
    let places := power.toNat + 1
    if digits.length ≤ places then
      digits ++ List.replicate (places - digits.length) '0' ++ ['.', '0']
    else digits.take places ++ '.' :: digits.drop places

/-- Digits with a power of ten, which always has a sign, and a point after the first digit if
there are others. -/
def scientificDecimal (digits : List Char) (power : Int) : List Char :=
  let lead := match digits with
    | first :: second :: rest => first :: '.' :: second :: rest
    | short => short
  lead ++ ['e', if power < 0 then '-' else '+'] ++ Nat.toDigits 10 power.natAbs

/-- The text of a double; JSON has none for one that is not finite. -/
def doubleText : Number.Binary64 → List Char
  | .finite negative significand exponent =>
    let sign := if negative then ['-'] else []
    if significand = 0 then sign ++ ['0', '.', '0']
    else
      let (digits, power) := Number.shortest significand exponent
      sign ++ if leastPlain ≤ power ∧ power < leastScientific then plainDecimal digits power
        else scientificDecimal digits power
  | _ => "null".toList

/-- The text of a number. -/
def Number.text : Number → List Char
  | .integer i => (if i < 0 then ['-'] else []) ++ Nat.toDigits 10 i.natAbs
  | .double x => doubleText x

/-! ## Strings and values -/

/-- One character between the quotes of a string. -/
def escaped (c : Char) : List Char :=
  if c = '"' then ['\\', '"']
  else if c = '\\' then ['\\', '\\']
  else if c = '\x08' then ['\\', 'b']
  else if c = '\x0c' then ['\\', 'f']
  else if c = '\n' then ['\\', 'n']
  else if c = '\r' then ['\\', 'r']
  else if c = '\t' then ['\\', 't']
  else if c.toNat < 0x20 then
    ['\\', 'u', '0', '0'] ++ [Nat.digitChar (c.toNat / 16), Nat.digitChar (c.toNat % 16)]
  else [c]

/-- A string between its quotes. -/
def stringText (s : String) : List Char := '"' :: s.toList.flatMap escaped ++ ['"']

mutual

/-- The characters of the compact form of a value. -/
def chars : Json → List Char
  | .null => "null".toList
  | .bool b => (if b then "true" else "false").toList
  | .number n => n.text
  | .string s => stringText s
  | .array items => '[' :: itemChars items ++ [']']
  | .object members => '\x7b' :: memberChars members ++ ['\x7d']

/-- The items of an array with commas between them. -/
def itemChars : List Json → List Char
  | [] => []
  | [item] => chars item
  | item :: rest => chars item ++ ',' :: itemChars rest

/-- The members of an object with commas between them. -/
def memberChars : List (String × Json) → List Char
  | [] => []
  | [(key, value)] => stringText key ++ ':' :: chars value
  | (key, value) :: rest => stringText key ++ ':' :: chars value ++ ',' :: memberChars rest

end

/-- The compact form of a value. -/
def compact (value : Json) : String := .ofList (chars value)

end ViewQuery.Json
