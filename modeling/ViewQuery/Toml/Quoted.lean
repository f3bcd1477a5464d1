/-!
# Writing TOML strings

The form of a string that needs no escapes, where there is one: between double quotes, else between
single ones, else between three of a kind. A string that holds a line end stands between three
quotes, and starts on a line of its own.

* `quoted`: the form of a string.
-/

namespace ViewQuery.Toml

/-- How many of a character stand side by side at most. -/
def longestRun (x : Char) (cs : List Char) : Nat :=
  (cs.foldl (fun (run, most) c =>
    if c = x then (run + 1, max most (run + 1)) else (0, most)) (0, 0)).2

/-- Whether a string without quotes and backslashes has to be written with escapes: it holds a
control character other than a tab and a line feed. -/
def needsEscapes (cs : List Char) : Bool :=
  cs.any fun c => (c.toNat < 0x20 && c != '\t' && c != '\n') || c.toNat == 0x7F

/-- Four hexadecimal digits in uppercase. -/
def fourDigits (n : Nat) : List Char :=
  [n / 4096, n / 256, n / 16, n].map fun d => (Nat.digitChar (d % 16)).toUpper

/-- One character of a string with escapes, other than a double quote. A line feed stands for
itself if the string may run over several lines. -/
def escapedChar (isTripled : Bool) (c : Char) : List Char :=
  if c = '\x08' then ['\\', 'b']
  else if c = '\t' then ['\\', 't']
  else if c = '\n' ∧ !isTripled then ['\\', 'n']
  else if c = '\x0c' then ['\\', 'f']
  else if c = '\r' then ['\\', 'r']
  else if c = '\\' then ['\\', '\\']
  else if (c.toNat < 0x20 ∧ c ≠ '\n') ∨ c.toNat = 0x7F then '\\' :: 'u' :: fourDigits c.toNat
  else [c]

/-- The characters of a string with escapes, where `room` more double quotes may stand side by
side, of `most` in all. -/
def escapedChars (isTripled : Bool) (most : Nat) (room : Nat) : List Char → List Char
  | [] => []
  | c :: rest =>
    if c = '"' then
      if room = 0 then '\\' :: '"' :: escapedChars isTripled most most rest
      else '"' :: escapedChars isTripled most (room - 1) rest
    else escapedChar isTripled c ++ escapedChars isTripled most most rest

/-- The opening quotes, after which a string with a line end starts on a new line. -/
def openTripled (quote : Char) (cs : List Char) : List Char :=
  List.replicate 3 quote ++ if cs.contains '\n' then ['\n'] else []

/-- Between double quotes. -/
def inDouble (cs : List Char) : List Char := '"' :: escapedChars false 0 0 cs ++ ['"']

/-- Between single quotes. -/
def inSingle (cs : List Char) : List Char := '\'' :: cs ++ ['\'']

/-- Between three double quotes. -/
def inTripledDouble (cs : List Char) : List Char :=
  openTripled '"' cs ++ escapedChars true 2 2 cs ++ List.replicate 3 '"'

/-- Between three single quotes. -/
def inTripledSingle (cs : List Char) : List Char :=
  openTripled '\'' cs ++ cs ++ List.replicate 3 '\''

/-- The form of a string. -/
def quoted (s : String) : String :=
  let cs := s.toList
  let hasBackslash := cs.contains '\\'
  let hasLineEnd := cs.contains '\n'
  .ofList <|
    if needsEscapes cs then if hasLineEnd then inTripledDouble cs else inDouble cs
    else if !hasBackslash && !hasLineEnd && longestRun '"' cs = 0 then inDouble cs
    else if !hasLineEnd && longestRun '\'' cs = 0 then inSingle cs
    else if !hasBackslash && longestRun '"' cs ≤ 2 then inTripledDouble cs
    else if longestRun '\'' cs ≤ 2 then inTripledSingle cs
    else if hasLineEnd then inTripledDouble cs
    else inDouble cs

end ViewQuery.Toml
