import ViewQuery.Text.CaseTable

/-!
# Lowercase

The full lowercase mapping of Unicode. Each character is mapped on its own, but for the capital
sigma, whose small form depends on where it stands: at the end of a word it is `ς`, and `σ`
everywhere else. A word ends at a position when the closest character before it that is not
`Case_Ignorable` is `Cased`, and the closest one after it is not.

* `smallSigma`: the small sigma for what stands before and after it;
* `lowercase`, `lowercased`: the lowercase form of characters and of a text.
-/

namespace ViewQuery.Text

/-- The property `Cased`. -/
def isCased (c : Char) : Bool := inRanges casedRanges c

/-- The property `Case_Ignorable`. -/
def isCaseIgnorable (c : Char) : Bool := inRanges caseIgnorableRanges c

/-- Capital letter sigma, the one letter with two lowercase forms. -/
def capitalSigma : Char := 'Σ'

/-- The lowercase form of a character on its own. -/
def lowerChar (c : Char) : List Char :=
  let n := c.toNat
  if n < 0x80 then [if 0x41 ≤ n ∧ n ≤ 0x5A then Char.ofNat (n + 0x20) else c]
  else if n = 0x130 then ['i', Char.ofNat 0x307]
  else
    let inRun := fun r : Nat × Nat × Nat × Nat =>
      decide (r.1 ≤ n) && decide (n ≤ r.2.1) && (n - r.1) % r.2.2.1 == 0
    match lowercaseRuns.find? inRun with
    | some (first, _, _, target) => [Char.ofNat (target + (n - first))]
    | none => [c]

/-- Whether the closest character that is not `Case_Ignorable` is `Cased`. -/
def meetsCased (cs : List Char) : Bool :=
  match cs.dropWhile isCaseIgnorable with
  | c :: _ => isCased c
  | [] => false

/-- The small sigma that stands after `before` (the closest character first) and in front of
`after`. -/
def smallSigma (before after : List Char) : Char :=
  if meetsCased before && !meetsCased after then 'ς' else 'σ'

/-- The lowercase form of the characters that follow `before` (the closest character first). -/
def lowercaseAfter (before : List Char) : List Char → List Char
  | [] => []
  | c :: rest =>
    (if c = capitalSigma then [smallSigma before rest] else lowerChar c) ++
      lowercaseAfter (c :: before) rest

/-- The lowercase form of a list of characters. -/
def lowercase (cs : List Char) : List Char := lowercaseAfter [] cs

/-- The lowercase form of a text. -/
def lowercased (s : String) : String := .ofList (lowercase s.toList)

theorem toList_lowercased (s : String) : (lowercased s).toList = lowercase s.toList :=
  String.toList_ofList

end ViewQuery.Text
