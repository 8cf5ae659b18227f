import QueryAudit.Text.Numeral
import QueryAudit.Yaml.Cursor

/-!
# Scanning scalars

The texts of plain, quoted and block scalars. Lines are folded in plain and quoted scalars and in
folded block scalars: a single line end becomes a space, and of several the first one is dropped.
-/

namespace QueryAudit.Yaml

open Scan

/-- What a line end and the blank lines after it stand for. -/
def foldBreaks (first : Char) (breaks : List Char) : List Char :=
  if first != '\n' then first :: breaks else if breaks.isEmpty then [' '] else breaks

/-- A character that opens, closes or divides a collection between brackets. -/
def isBracketChar (c : Char) : Bool :=
  c == ',' || c == '[' || c == ']' || c == '{' || c == '}'

/-- Whether a plain scalar stops before a character, given the character after it. -/
def endsPlain (inFlow : Bool) (c after : Char) : Bool :=
  isGapOrEnd c || (c == ':' && (isGapOrEnd after || (inFlow && isBracketChar after))) ||
    (inFlow && (isBracketChar c || c == '?'))

/-- The characters of a plain scalar up to the first gap. -/
def plainRun (inFlow : Bool) : List Char → List Char
  | [] => []
  | c :: rest =>
    if endsPlain inFlow c (rest.headD endMark) then [] else c :: plainRun inFlow rest

/-- The blank lines inside a plain scalar; none when a document marker follows one of them. -/
def plainBreaks? : Nat → Scan (Option (List Char))
  | 0 => return some []
  | fuel + 1 => do
    skipWhile (· == ' ')
    match ← lineBreak? with
    | none => return some []
    | some c =>
      if (← get).atDocumentMark then return none
      return (← plainBreaks? fuel).map (c :: ·)

/-- What the gap after a piece of a plain scalar stands for, and whether it has a line end. Nothing
is given when no further piece can follow. -/
def plainGap : Scan (List Char × Bool) := do
  let spaces ← takeWhile (· == ' ')
  match ← lineBreak? with
  | none => return (spaces, false)
  | some first =>
    if (← get).atDocumentMark then return ([], true)
    match ← plainBreaks? (← fuel) with
    | none => return ([], true)
    | some breaks => return (foldBreaks first breaks, true)

/-- The pieces of a plain scalar, given the gap before the next piece, and whether the gap after the
last one has a line end. -/
def plainPieces (inFlow : Bool) (indent : Int) (gap : List Char) (broken : Bool) :
    Nat → Scan (List Char × Bool)
  | 0 => return ([], broken)
  | fuel + 1 => do
    let run := plainRun inFlow (← get).rest
    if run.isEmpty || (← peek) == '#' then return ([], broken)
    skip run.length
    let (next, brokenNow) ← plainGap
    let cursor ← get
    let outside := !inFlow && decide ((cursor.column : Int) < indent)
    if next.isEmpty || cursor.peek == '#' || outside then
      return (gap ++ run, brokenNow)
    let (more, last) ← plainPieces inFlow indent next brokenNow fuel
    return (gap ++ run ++ more, last)

/-- A plain scalar, and whether a line end follows it. -/
def plainScalar (inFlow : Bool) (indent : Int) : Scan (String × Bool) := do
  let (text, broken) ← plainPieces inFlow indent [] false (← fuel)
  return (String.ofList text, broken)

/-- The blank lines inside a quoted scalar, which may not hold a document marker. -/
def quotedBreaks : Nat → Scan (List Char)
  | 0 => return []
  | fuel + 1 => do
    if (← get).atDocumentMark then throw .token
    skipWhile fun c => c == ' ' || c == '\t'
    match ← lineBreak? with
    | none => return []
    | some c => return c :: (← quotedBreaks fuel)

/-- What a gap inside a quoted scalar stands for. -/
def quotedGap : Scan (List Char) := do
  let spaces ← takeWhile fun c => c == ' ' || c == '\t'
  if (← get).rest.isEmpty then throw .token
  match ← lineBreak? with
  | none => return spaces
  | some first => return foldBreaks first (← quotedBreaks (← fuel))

/-- The characters that stand for others after a backslash. -/
def escapes : List (Char × Nat) :=
  [
    ('0', 0x00), ('a', 0x07), ('b', 0x08), ('t', 0x09), ('\t', 0x09), ('n', 0x0A), ('v', 0x0B),
    ('f', 0x0C), ('r', 0x0D), ('e', 0x1B), (' ', 0x20), ('"', 0x22), ('\\', 0x5C), ('/', 0x2F),
    ('N', 0x85), ('_', 0xA0), ('L', 0x2028), ('P', 0x2029)]

/-- The numbers of digits in the escapes of code points. -/
def escapeWidths : List (Char × Nat) :=
  [('x', 2), ('u', 4), ('U', 8)]

/-- The value of a hexadecimal digit. -/
def hexDigit? (c : Char) : Option Nat :=
  if '0' ≤ c ∧ c ≤ '9' then some (c.toNat - '0'.toNat)
  else if 'a' ≤ c ∧ c ≤ 'f' then some (c.toNat - 'a'.toNat + 10)
  else if 'A' ≤ c ∧ c ≤ 'F' then some (c.toNat - 'A'.toNat + 10)
  else none

/-- A hexadecimal numeral of the given width. -/
def hexValue (width : Nat) : Scan Nat := do
  let digits := (← get).rest.take width
  match digits.mapM hexDigit? with
  | some values =>
    if values.length = width then
      skip width
      return values.foldl (fun n d => 16 * n + d) 0
    else throw .token
  | none => throw .token

/-- What the characters after a backslash stand for. -/
def escaped : Scan (List Char) := do
  let c ← peek
  match escapes.lookup c, escapeWidths.lookup c with
  | some code, _ =>
    skip 1
    return [Char.ofNat code]
  | none, some width =>
    skip 1
    let code ← hexValue width
    if code ≤ 0x10FFFF then return [Text.ofCodePoint code]
    else if 0x7FFFFFFF < code then throw .escape
    else throw (.value "chr() arg not in range(0x110000)")
  | none, none =>
    match ← lineBreak? with
    | some _ => quotedBreaks (← fuel)
    | none => throw .token

/-- The characters of a quoted scalar up to the next gap or quote. -/
def quotedRun (double : Bool) : Nat → Scan (List Char)
  | 0 => return []
  | fuel + 1 => do
    let run ← takeWhile fun c => !(c == '\'' || c == '"' || c == '\\' || isGapOrEnd c)
    let c ← peek
    if double then
      if c == '\'' then
        skip 1
        return run ++ c :: (← quotedRun double fuel)
      else if c == '\\' then
        skip 1
        let meant ← escaped
        return run ++ meant ++ (← quotedRun double fuel)
      else return run
    else if c == '\'' && (← peekAt 1) == '\'' then
      skip 2
      return run ++ c :: (← quotedRun double fuel)
    else if c == '"' || c == '\\' then
      skip 1
      return run ++ c :: (← quotedRun double fuel)
    else return run

/-- The rest of a quoted scalar up to its closing quote. -/
def quotedPieces (double : Bool) : Nat → Scan (List Char)
  | 0 => throw .token
  | fuel + 1 => do
    if (← peek) == (if double then '"' else '\'') then
      skip 1
      return []
    let gap ← quotedGap
    let run ← quotedRun double (← Scan.fuel)
    return gap ++ run ++ (← quotedPieces double fuel)

/-- A quoted scalar. -/
def quotedScalar (double : Bool) : Scan String := do
  skip 1
  let run ← quotedRun double (← fuel)
  return String.ofList (run ++ (← quotedPieces double (← fuel)))

/-- What becomes of the line ends after a block scalar. -/
inductive Chomping where
  /-- The first one is kept. -/
  | clip
  /-- None is kept. -/
  | strip
  /-- All are kept. -/
  | keep
  deriving DecidableEq

/-- The chomping mark at the start of a text. -/
def chomping? : Scan (Option Chomping) := do
  let c ← peek
  if c == '+' then
    skip 1
    return some .keep
  else if c == '-' then
    skip 1
    return some .strip
  else return none

/-- The indentation mark at the start of a text; it may not be 0. -/
def indentation? : Scan (Option Nat) := do
  let c ← peek
  if Text.isDigit c then
    if c == '0' then throw .token
    skip 1
    return some (c.toNat - '0'.toNat)
  else return none

/-- The marks after the start of a block scalar, in either order. -/
def blockMarks : Scan (Chomping × Option Nat) := do
  let first ← chomping?
  let width ← indentation?
  let second ← if first.isNone && width.isSome then chomping? else pure none
  require isSpaceOrEnd
  return ((first.or second).getD .clip, width)

/-- The blank lines at the start of a block scalar, and the greatest indentation among them. -/
def leadingBreaks (deepest : Nat) : Nat → Scan (List Char × Nat)
  | 0 => return ([], deepest)
  | fuel + 1 => do
    skipWhile (· == ' ')
    let deepest := max deepest (← get).column
    match ← lineBreak? with
    | none => return ([], deepest)
    | some c =>
      let (breaks, deepest) ← leadingBreaks deepest fuel
      return (c :: breaks, deepest)

/-- Skip the indentation of a line, as far as it belongs to the block. -/
def skipIndent (indent : Nat) : Scan Unit := do
  let cursor ← get
  skip (min (indent - cursor.column) (cursor.rest.takeWhile (· == ' ')).length)

/-- The blank lines inside a block scalar. -/
def blockBreaks (indent : Nat) : Nat → Scan (List Char)
  | 0 => return []
  | fuel + 1 => do
    skipIndent indent
    match ← lineBreak? with
    | none => return []
    | some c => return c :: (← blockBreaks indent fuel)

/-- What separates two lines of a block scalar: the line end of the first, and blank lines. -/
def blockSeparator (folded : Bool) (lineEnd : List Char) (breaks : List Char) (spaced : Bool) :
    List Char :=
  if folded && lineEnd == ['\n'] && !spaced then (if breaks.isEmpty then [' '] else breaks)
  else lineEnd ++ breaks

/-- The lines of a block scalar. The result is the text, the line end after it and the blank lines
after that. -/
def blockLines (folded : Bool) (indent : Nat) : Nat → Scan (List Char × List Char × List Char)
  | 0 => return ([], [], [])
  | fuel + 1 => do
    let spaced := (← peek) == ' ' || (← peek) == '\t'
    let line ← takeWhile fun c => !isBreak c
    let lineEnd := (← lineBreak?).toList
    let breaks ← blockBreaks indent (← Scan.fuel)
    let cursor ← get
    if cursor.column = indent ∧ !cursor.rest.isEmpty then
      let nextSpaced := cursor.peek == ' ' || cursor.peek == '\t'
      let (text, lastEnd, lastBreaks) ← blockLines folded indent fuel
      return (line ++ blockSeparator folded lineEnd breaks (spaced || nextSpaced) ++ text, lastEnd,
        lastBreaks)
    else return (line, lineEnd, breaks)

/-- A block scalar inside a block with the given indentation. -/
def blockScalar (folded : Bool) (blockIndent : Int) : Scan String := do
  skip 1
  let (chomping, width) ← blockMarks
  skipLineRest
  let least := (max 1 (blockIndent + 1)).toNat
  let (breaks, indent) ←
    match width with
    | some width =>
      let indent := least + width - 1
      pure (← blockBreaks indent (← fuel), indent)
    | none =>
      let (breaks, deepest) ← leadingBreaks 0 (← fuel)
      pure (breaks, max least deepest)
  let cursor ← get
  let (text, lineEnd, last) ←
    if cursor.column = indent ∧ !cursor.rest.isEmpty then do
      let (text, lineEnd, last) ← blockLines folded indent (← fuel)
      pure (breaks ++ text, lineEnd, last)
    else pure ([], [], breaks)
  return String.ofList <|
    match chomping with
    | .strip => text
    | .clip => text ++ lineEnd
    | .keep => text ++ lineEnd ++ last

end QueryAudit.Yaml
