/-!
# Places in a YAML text

A cursor stands between two characters of a text and knows the rest of the text, the line and the
column. Past the end it sees the null character, which no text holds. Scanning is a step from a
cursor to a later one; a loop in it moves on by at least one character every time, so the length of
the rest is fuel enough.
-/

namespace QueryAudit.Yaml

/-- Why a YAML text is refused. -/
inductive Fault where
  /-- A character that no text may hold. -/
  | character
  /-- No token can be read. -/
  | token
  /-- A token stands where it may not. -/
  | grammar
  /-- An anchor is unknown or given twice, or there is a second document. -/
  | reference
  /-- A node has a tag that does not fit it. -/
  | construction
  /-- A scalar has the form of a value that does not exist. -/
  | value (message : String)
  /-- An escape has a number that is far out of reach. -/
  | escape
  /-- A scalar tagged as a truth value is none. -/
  | notTruth (word : String)
  /-- A scalar tagged as a number is empty. -/
  | emptyNumber
  /-- A number in base sixty has too many digits for a floating-point number. -/
  | tooLarge
  /-- A scalar tagged as a timestamp is none. -/
  | notTimestamp
  /-- A mapping that stands for a scalar is tagged as a timestamp. -/
  | timestampMapping
  deriving DecidableEq

/-- What a cursor sees past the end of the text. -/
def endMark : Char := Char.ofNat 0

/-- A character that ends a line. -/
def isBreak (c : Char) : Bool :=
  c == '\n' || c == Char.ofNat 0x85 || c == Char.ofNat 0x2028 || c == Char.ofNat 0x2029

/-- A line end or the end of the text. -/
def isBreakOrEnd (c : Char) : Bool :=
  c == endMark || isBreak c

/-- A space, a line end or the end of the text. -/
def isSpaceOrEnd (c : Char) : Bool :=
  c == ' ' || isBreakOrEnd c

/-- A space, a tab, a line end or the end of the text. -/
def isGapOrEnd (c : Char) : Bool :=
  c == '\t' || isSpaceOrEnd c

/-- A character of the names of anchors, directives and tag handles. -/
def isWordChar (c : Char) : Bool :=
  decide ('0' ≤ c ∧ c ≤ '9') || decide ('A' ≤ c ∧ c ≤ 'Z') || decide ('a' ≤ c ∧ c ≤ 'z') ||
    c == '-' || c == '_'

/-- The byte order mark, which takes no column. -/
def byteOrderMark : Char := Char.ofNat 0xFEFF

/-- A place in a text. -/
structure Cursor where
  /-- The text after the place. -/
  rest : List Char
  /-- The number of characters before the place. -/
  index : Nat
  /-- The number of line ends before the place. -/
  line : Nat
  /-- The number of characters of the line before the place. -/
  column : Nat

namespace Cursor

/-- The start of a text. -/
def start (text : List Char) : Cursor :=
  ⟨text, 0, 0, 0⟩

/-- The character that is `k` characters away. -/
def peekAt (cursor : Cursor) (k : Nat) : Char :=
  cursor.rest.getD k endMark

/-- The character after the place. -/
def peek (cursor : Cursor) : Char :=
  cursor.rest.headD endMark

/-- The place after the next character. -/
def next (cursor : Cursor) : Cursor :=
  match cursor.rest with
  | [] => cursor
  | c :: rest =>
    if isBreak c then ⟨rest, cursor.index + 1, cursor.line + 1, 0⟩
    else if c = byteOrderMark then ⟨rest, cursor.index + 1, cursor.line, cursor.column⟩
    else ⟨rest, cursor.index + 1, cursor.line, cursor.column + 1⟩

/-- The place after the next `n` characters. -/
def skip : Nat → Cursor → Cursor
  | 0, cursor => cursor
  | n + 1, cursor => skip n cursor.next

/-- Whether a document marker stands after the place. -/
def atDocumentMark (cursor : Cursor) : Bool :=
  (cursor.rest.take 3 == ['-', '-', '-'] || cursor.rest.take 3 == ['.', '.', '.']) &&
    isGapOrEnd (cursor.peekAt 3)

end Cursor

/-- A step through a text. -/
abbrev Scan := StateT Cursor (Except Fault)

namespace Scan

/-- The character after the place. -/
def peek : Scan Char :=
  return (← get).peek

/-- The character that is `k` characters away. -/
def peekAt (k : Nat) : Scan Char :=
  return (← get).peekAt k

/-- Move on by `n` characters. -/
def skip (n : Nat) : Scan Unit :=
  modify (Cursor.skip n)

/-- Take characters as long as they are in a class. -/
def takeWhile (p : Char → Bool) : Scan (List Char) := do
  let taken := (← get).rest.takeWhile p
  skip taken.length
  return taken

/-- Skip characters as long as they are in a class. -/
def skipWhile (p : Char → Bool) : Scan Unit := do
  let _ ← takeWhile p

/-- Skip a comment up to the end of the line. -/
def skipComment : Scan Unit := do
  if (← peek) == '#' then skipWhile fun c => !isBreak c

/-- Take a line end. Most of them count as a line feed. -/
def lineBreak? : Scan (Option Char) := do
  let c ← peek
  if c == '\n' || c == Char.ofNat 0x85 then
    skip 1
    return some '\n'
  else if isBreak c then
    skip 1
    return some c
  else return none

/-- The character after the place has to be in a class. -/
def require (p : Char → Bool) : Scan Unit := do
  unless p (← peek) do
    throw .token

/-- Skip spaces and a comment up to a line end, which must come then. -/
def skipLineRest : Scan Unit := do
  skipWhile (· == ' ')
  skipComment
  require isBreakOrEnd
  let _ ← lineBreak?

/-- Enough fuel for a loop through the rest of the text. -/
def fuel : Scan Nat :=
  return (← get).rest.length + 1

end Scan

end QueryAudit.Yaml
