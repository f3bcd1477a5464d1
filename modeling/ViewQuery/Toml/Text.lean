import ViewQuery.Number.Digits

/-!
# TOML strings

Strings are written between quotes of one of two kinds, one or three at each end. Between double
quotes a backslash starts an escape; between single quotes every character stands for itself. Three
quotes let a string run over several lines. A string is read in two steps: the characters up to the
closing quotes, and then what they stand for.

* `readText`: any string;
* `readLineText`: a string on one line.
-/

namespace ViewQuery.Toml

/-- Whether a character may stand for itself in strings and comments: it is no control character,
or it is a tab. -/
def isPlain (c : Char) : Bool := c == '\t' || (0x20 ≤ c.toNat && c.toNat != 0x7F)

/-- Whether a character is white space within a line. -/
def isSpace (c : Char) : Bool := c == ' ' || c == '\t'

/-- How a string is written: the kind of its quotes, and whether there are three of them. -/
structure Quoting where
  quote : Char
  isTripled : Bool

/-- Whether a backslash starts an escape. -/
def Quoting.hasEscapes (q : Quoting) : Bool := q.quote == '"'

/-! ## Up to the closing quotes -/

/-- Whether a list starts with three quotes. -/
def startsTripled (quote : Char) : List Char → Bool
  | a :: b :: c :: _ => a == quote && b == quote && c == quote
  | _ => false

/-- The characters up to the closing quotes, and what follows them. A character after a backslash
that starts an escape closes nothing. Up to two quotes that touch three closing ones are part of
the string. -/
def Quoting.readBody (q : Quoting) : List Char → Option (List Char × List Char)
  | [] => none
  | c :: rest =>
    if q.isTripled && startsTripled q.quote (c :: rest) then
      let extra := (rest.drop 2).take 2 |>.takeWhile (· == q.quote)
      some (extra, rest.drop (2 + extra.length))
    else if !q.isTripled && c == q.quote then some ([], rest)
    else if q.hasEscapes && c == '\\' then
      match rest with
      | d :: rest => (q.readBody rest).map fun p => (c :: d :: p.1, p.2)
      | [] => none
    else (q.readBody rest).map fun p => (c :: p.1, p.2)

/-- Whether the characters between the quotes are allowed there: a line end only between three
quotes, and no other control character than a tab. -/
def isBody (isTripled : Bool) : List Char → Bool
  | [] => true
  | '\n' :: rest => isTripled && isBody isTripled rest
  | '\r' :: '\n' :: rest => isTripled && isBody isTripled rest
  | c :: rest => isPlain c && isBody isTripled rest

/-! ## What the characters stand for -/

/-- The characters after a line end in front, if there is one. -/
def dropLineEnd : List Char → List Char
  | '\n' :: rest => rest
  | '\r' :: '\n' :: rest => rest
  | cs => cs

/-- Whether there is nothing but white space before the next line end. -/
def endsLine (cs : List Char) : Bool :=
  match cs.dropWhile isSpace with
  | '\n' :: _ => true
  | '\r' :: '\n' :: _ => true
  | _ => false

/-- The characters without each backslash at the end of a line and the white space and line ends
after it, which are left out while `skipping` is `true`. -/
def joinLines (skipping : Bool) : List Char → List Char
  | [] => []
  | '\\' :: '\\' :: rest => '\\' :: '\\' :: joinLines false rest
  | c :: rest =>
    if skipping && (isSpace c || c == '\n' || c == '\r') then joinLines true rest
    else if c == '\\' && endsLine rest then joinLines true rest
    else c :: joinLines false rest

/-- The character that a letter after a backslash stands for. -/
def simpleEscape? : Char → Option Char
  | '"' => some '"'
  | '\\' => some '\\'
  | 'b' => some '\x08'
  | 'e' => some '\x1b'
  | 'f' => some '\x0c'
  | 'n' => some '\n'
  | 'r' => some '\r'
  | 't' => some '\t'
  | _ => none

/-- The character at a code point given by hexadecimal digits. -/
def codePoint? (digits : List Char) : Option Char :=
  (Number.ofHexDigits? digits).bind fun n => if n.isValidChar then some (Char.ofNat n) else none

/-- Put a character in front of others, if both are there. -/
def consSome (c : Option Char) (cs : Option (List Char)) : Option (List Char) :=
  c.bind fun c => cs.map (c :: ·)

/-- What characters with escapes stand for. -/
def unescape : List Char → Option (List Char)
  | [] => some []
  | '\\' :: 'x' :: a :: b :: rest => consSome (codePoint? [a, b]) (unescape rest)
  | '\\' :: 'u' :: a :: b :: c :: d :: rest => consSome (codePoint? [a, b, c, d]) (unescape rest)
  | '\\' :: 'U' :: a :: b :: c :: d :: e :: f :: g :: h :: rest =>
    consSome (codePoint? [a, b, c, d, e, f, g, h]) (unescape rest)
  | '\\' :: c :: rest => consSome (simpleEscape? c) (unescape rest)
  | c :: rest => if c = '\\' then none else (unescape rest).map (c :: ·)

/-- What the characters between the quotes stand for. -/
def Quoting.decode (q : Quoting) (body : List Char) : Option (List Char) :=
  if !isBody q.isTripled body then none
  else
    let body := if q.isTripled then dropLineEnd body else body
    if q.hasEscapes then unescape (if q.isTripled then joinLines false body else body)
    else some body

/-- A string after its opening quotes. -/
def Quoting.read (q : Quoting) (cs : List Char) : Option (String × List Char) :=
  (q.readBody cs).bind fun p => (q.decode p.1).map fun body => (String.ofList body, p.2)

/-- A string in front that begins and ends on one line. -/
def readLineText : List Char → Option (String × List Char)
  | '"' :: rest => { quote := '"', isTripled := false : Quoting }.read rest
  | '\'' :: rest => { quote := '\'', isTripled := false : Quoting }.read rest
  | _ => none

/-- A string in front. -/
def readText (cs : List Char) : Option (String × List Char) :=
  if startsTripled '"' cs then { quote := '"', isTripled := true : Quoting }.read (cs.drop 3)
  else if startsTripled '\'' cs then { quote := '\'', isTripled := true : Quoting }.read (cs.drop 3)
  else readLineText cs

end ViewQuery.Toml
