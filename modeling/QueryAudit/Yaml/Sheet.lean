import QueryAudit.Text.Display
import QueryAudit.Yaml.Cursor

/-!
# Writing scalars in YAML

A sheet is the text written so far, with what the next word depends on: the column, and whether a
space or only indentation stands before it. Scalars that are wider than the sheet are folded at
spaces; between double quotes any place will do, with a backslash.
-/

namespace QueryAudit.Yaml

/-- How YAML is written. -/
structure Layout where
  /-- Whether characters beyond ASCII are written as they are. -/
  unicode : Bool
  /-- The column after which scalars are folded. -/
  width : Nat
  /-- The number of columns by which blocks are indented. -/
  step : Nat
  deriving DecidableEq

/-- The usual layout. -/
def Layout.standard : Layout :=
  ⟨false, 80, 2⟩

/-- The text written so far. -/
structure Sheet where
  /-- The text. -/
  text : String
  /-- The column of its end. -/
  column : Nat
  /-- Whether a space, or nothing, stands before the end. -/
  spaced : Bool
  /-- Whether only indentation stands before the end on its line. -/
  fresh : Bool

namespace Sheet

/-- An empty sheet. -/
def blank : Sheet :=
  ⟨"", 0, true, true⟩

/-- Write characters on the line. -/
def write (sheet : Sheet) (s : List Char) : Sheet :=
  { sheet with text := sheet.text ++ String.ofList s, column := sheet.column + s.length }

/-- Say that a word stands before the end. -/
def worded (sheet : Sheet) : Sheet :=
  { sheet with spaced := false, fresh := false }

/-- End the line. -/
def endLine (sheet : Sheet) (c : Char) : Sheet :=
  ⟨sheet.text.push c, 0, true, true⟩

/-- Go to an indentation, on a new line if the present one has gone further. -/
def indentTo (sheet : Sheet) (indent : Nat) : Sheet :=
  let sheet :=
    if !sheet.fresh || indent < sheet.column || (sheet.column == indent && !sheet.spaced) then
      sheet.endLine '\n'
    else sheet
  if sheet.column < indent then
    { sheet.write (List.replicate (indent - sheet.column) ' ') with spaced := true }
  else sheet

/-- Write an indicator, after a space if it needs one. It leaves the line fresh if it may stand in
front of indentation. -/
def mark (sheet : Sheet) (s : String) (apart leaves : Bool) : Sheet :=
  let sheet := if sheet.spaced || !apart then sheet else sheet.write [' ']
  { sheet.write s.toList with spaced := false, fresh := sheet.fresh && leaves }

/-- Whether a run of spaces is a place to fold a line. -/
def foldsAt (layout : Layout) (split : Bool) (sheet : Sheet) (run : List Char) : Bool :=
  run.length == 1 && decide (layout.width < sheet.column) && split

/-- Write the rest of a plain scalar, which has no line ends. The run holds in reverse what was read
and not written yet: words or spaces. -/
def plainFrom (layout : Layout) (indent : Nat) (split : Bool) (sheet : Sheet) (run : List Char) :
    List Char → Sheet
  | [] => sheet.write run.reverse
  | c :: rest =>
    if run.head? == some ' ' && c != ' ' then
      let sheet :=
        if sheet.foldsAt layout split run then (sheet.indentTo indent).worded
        else sheet.write run.reverse
      plainFrom layout indent split sheet [c] rest
    else if c == ' ' && run.head? != some ' ' then
      plainFrom layout indent split (sheet.write run.reverse) [c] rest
    else plainFrom layout indent split sheet (c :: run) rest

/-- Write a plain scalar. -/
def plain (layout : Layout) (indent : Nat) (split : Bool) (sheet : Sheet) (s : List Char) : Sheet :=
  if s.isEmpty then sheet
  else
    let sheet := if sheet.spaced then sheet else sheet.write [' ']
    plainFrom layout indent split sheet.worded [] s

/-- Write line ends inside a scalar. A line feed stands for a space, so the first of several is
written twice. -/
def breaks (sheet : Sheet) (run : List Char) : Sheet :=
  let sheet := if run.head? == some '\n' then sheet.endLine '\n' else sheet
  run.foldl endLine sheet

/-- Write a run of a scalar between single quotes: words, spaces, or line ends. Spaces may fold
unless the scalar starts or ends with them. -/
def singleRun (layout : Layout) (indent : Nat) (split first last : Bool) (sheet : Sheet)
    (run : List Char) : Sheet :=
  match run with
  | [] => sheet
  | c :: _ =>
    if c == ' ' then
      if sheet.foldsAt layout split run && !first && !last then sheet.indentTo indent
      else sheet.write run
    else if isBreak c then (sheet.breaks run).indentTo indent
    else sheet.write run

/-- Whether two characters belong to one run of a scalar between single quotes. -/
def oneRun (c d : Char) : Bool :=
  (c == ' ') == (d == ' ') && isBreak c == isBreak d

/-- Write the rest of a scalar between single quotes. The run holds in reverse what was read and not
written yet, `first` tells whether it starts the scalar. -/
def singleFrom (layout : Layout) (indent : Nat) (split first : Bool) (sheet : Sheet)
    (run : List Char) : List Char → Sheet
  | [] => sheet.singleRun layout indent split first true run.reverse
  | c :: rest =>
    if c == '\'' then
      let sheet := sheet.singleRun layout indent split first false run.reverse
      singleFrom layout indent split false (sheet.write ['\'', '\'']) [] rest
    else
      match run with
      | [] => singleFrom layout indent split first sheet [c] rest
      | d :: _ =>
        if oneRun c d then singleFrom layout indent split first sheet (c :: run) rest
        else
          let sheet := sheet.singleRun layout indent split first false run.reverse
          singleFrom layout indent split false sheet [c] rest

/-- Write a scalar between single quotes. -/
def singleQuoted (layout : Layout) (indent : Nat) (split : Bool) (sheet : Sheet) (s : List Char) :
    Sheet :=
  let sheet := singleFrom layout indent split true (sheet.mark "'" true false) [] s
  sheet.mark "'" false false

/-- The escapes that have a letter. -/
def letterEscapes : List (Nat × Char) :=
  [
    (0x00, '0'), (0x07, 'a'), (0x08, 'b'), (0x09, 't'), (0x0A, 'n'), (0x0B, 'v'), (0x0C, 'f'),
    (0x0D, 'r'), (0x1B, 'e'), (0x22, '"'), (0x5C, '\\'), (0x85, 'N'), (0xA0, '_'), (0x2028, 'L'),
    (0x2029, 'P')]

/-- The upper-case hexadecimal numeral of a number with the given width. -/
def upperHex (width n : Nat) : List Char :=
  (Text.hexNumeral width n).map Char.toUpper

/-- The escape of a character. -/
def escape (c : Char) : List Char :=
  let n := Text.codePoint c
  match letterEscapes.lookup n with
  | some letter => ['\\', letter]
  | none =>
    if n ≤ 0xFF then '\\' :: 'x' :: upperHex 2 n
    else if n ≤ 0xFFFF then '\\' :: 'u' :: upperHex 4 n
    else '\\' :: 'U' :: upperHex 8 n

/-- Whether a character is escaped between double quotes. -/
def isEscaped (layout : Layout) (c : Char) : Bool :=
  let n := c.toNat
  c == '"' || c == '\\' || isBreak c || c == byteOrderMark ||
    !(decide (0x20 ≤ n ∧ n ≤ 0x7E) || (layout.unicode && decide (0xA0 ≤ n ∧ n ≤ 0xFFFD)))

/-- Fold the line between double quotes; a space that comes next is kept by a backslash. -/
def foldDouble (indent : Nat) (sheet : Sheet) (next : Option Char) : Sheet :=
  let sheet := ((sheet.write ['\\']).indentTo indent).worded
  if next == some ' ' then sheet.write ['\\'] else sheet

/-- Write the rest of a scalar between double quotes. The run holds in reverse what was read and not
written yet, `first` tells whether nothing was read. -/
def doubleFrom (layout : Layout) (indent : Nat) (split first : Bool) (sheet : Sheet)
    (run : List Char) : List Char → Sheet
  | [] => sheet.write run.reverse
  | c :: rest =>
    let mayFold := split && !first && !rest.isEmpty
    if isEscaped layout c then
      let sheet := (sheet.write run.reverse).write (escape c)
      let sheet :=
        if mayFold && decide (layout.width + 1 < sheet.column) then
          sheet.foldDouble indent rest.head?
        else sheet
      doubleFrom layout indent split false sheet [] rest
    else if mayFold && (c == ' ' || run.isEmpty) &&
        decide (layout.width < sheet.column + run.length) then
      let sheet := (sheet.write run.reverse).foldDouble indent (some c)
      doubleFrom layout indent split false sheet [c] rest
    else doubleFrom layout indent split false sheet (c :: run) rest

/-- Write a scalar between double quotes. -/
def doubleQuoted (layout : Layout) (indent : Nat) (split : Bool) (sheet : Sheet) (s : List Char) :
    Sheet :=
  let sheet := doubleFrom layout indent split true (sheet.mark "\"" true false) [] s
  sheet.mark "\"" false false

end Sheet

end QueryAudit.Yaml
