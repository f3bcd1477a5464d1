import ViewQuery.Text.ShownTable

/-!
# Quoted texts

How a text or a character is written between quotes, for a reader who has to see every character
of it. A character that would not show on its own is written as its code point.
-/

namespace ViewQuery.Text

/-- A code point as `\u{…}`, in hexadecimal without leading zeros. -/
def codePointEscape (c : Char) : List Char :=
  ['\\', 'u', '\x7b'] ++ Nat.toDigits 16 c.toNat ++ ['\x7d']

/-- Whether a character shows on its own: it has a visible form and does not join the character
before it. -/
def isShown (c : Char) : Bool :=
  !inRanges graphemeExtendRanges c && !inRanges unprintableRanges c

/-- One character between quotes of the kind `quote`. -/
def quotedChar (quote c : Char) : List Char :=
  if c = Char.ofNat 0 then ['\\', '0']
  else if c = '\t' then ['\\', 't']
  else if c = '\r' then ['\\', 'r']
  else if c = '\n' then ['\\', 'n']
  else if c = '\\' ∨ c = quote then ['\\', c]
  else if isShown c then [c]
  else codePointEscape c

/-- A text between double quotes. -/
def quoted (s : String) : String :=
  .ofList ('"' :: s.toList.flatMap (quotedChar '"') ++ ['"'])

/-- A character between single quotes. -/
def quotedAlone (c : Char) : String :=
  .ofList ('\'' :: quotedChar '\'' c ++ ['\''])

end ViewQuery.Text
