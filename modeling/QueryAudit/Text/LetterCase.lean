import QueryAudit.Text.CaseTable

/-!
# Letter case

Lower and upper case of whole texts. Two letters need more than a table: `İ` becomes an `i` with a
combining dot, and a capital sigma becomes `ς` at the end of a word and `σ` elsewhere. Whether a
sigma ends a word is decided by the nearest characters on both sides that are not ignorable.
-/

namespace QueryAudit.Text

/-- Characters that are looked through when the end of a word is sought. -/
def isCaseIgnorable (c : Char) : Bool :=
  inRanges ignorableRanges c

/-- Characters that have letter case. -/
def isCased (c : Char) : Bool :=
  inRanges casedRanges c

/-- The lower case of a character that does not depend on its surroundings. -/
def lowerChar (c : Char) : List Char :=
  if c.toNat < 0x80 then [c.toLower]
  else if c.toNat = 0x130 then ['i', Char.ofNat 0x307]
  else [shiftBy lowerRuns c]

/-- A sigma ends a word when a cased character stands before it and none follows. -/
def endsWord (before after : List Char) : Bool :=
  (before.dropWhile isCaseIgnorable).head?.any isCased &&
    !(after.dropWhile isCaseIgnorable).head?.any isCased

/-- Lower case, given the characters before the text in reverse order. -/
def lowerAfter (before : List Char) : List Char → List Char
  | [] => []
  | c :: rest =>
    let image :=
      if c.toNat = 0x3A3 then [Char.ofNat (if endsWord before rest then 0x3C2 else 0x3C3)]
      else lowerChar c
    image ++ lowerAfter (c :: before) rest

/-- The lower case of a text. -/
def lower (s : List Char) : List Char :=
  lowerAfter [] s

/-- The lower case of a string. -/
def lowered (s : String) : String :=
  String.ofList (lower s.toList)

/-- The upper case of a character. -/
def upperChar (c : Char) : List Char :=
  if c.toNat < 0x80 then [c.toUpper]
  else match longUpper.find? (·.1 == c.toNat) with
    | some entry => entry.2.map Char.ofNat
    | none => [shiftBy upperRuns c]

/-- The upper case of a string. -/
def uppered (s : String) : String :=
  String.ofList (s.toList.flatMap upperChar)

end QueryAudit.Text
