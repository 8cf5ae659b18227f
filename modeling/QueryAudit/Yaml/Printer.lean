import QueryAudit.Document
import QueryAudit.Yaml.Implicit
import QueryAudit.Yaml.Sheet

/-!
# Writing YAML

A document as an indented text. A text is written without quotes where that reads back as the same
text, else between single quotes, and between double quotes when it has characters that need an
escape. The items of a list under a key are not indented.
-/

namespace QueryAudit.Yaml

/-- A character after which a comment may start, or that lets a mark before it be an indicator. -/
def isGap (c : Char) : Bool :=
  isGapOrEnd c || c == '\r'

/-- The characters that have a meaning at the start of a plain scalar. -/
def leadingIndicators : List Char :=
  ['#', ',', '[', ']', '{', '}', '&', '*', '!', '|', '>', '\'', '"', '%', '@', '\x60']

/-- Whether the start of a text could be taken for something else than a plain scalar. -/
def startsIndicator : List Char → Bool
  | [] => false
  | c :: rest =>
    leadingIndicators.contains c ||
      ((c == '?' || c == ':' || c == '-') && rest.head?.all isGap) ||
      ['-', '-', '-'].isPrefixOf (c :: rest) || ['.', '.', '.'].isPrefixOf (c :: rest)

/-- Whether a text has, after its first character, a colon before a gap or a number sign after
one. -/
def hasIndicator : List Char → Bool
  | c :: d :: rest =>
    (d == ':' && rest.head?.all isGap) || (d == '#' && isGap c) || hasIndicator (d :: rest)
  | _ => false

/-- Whether a text has a character of one class right before one of another. -/
def hasPair (p q : Char → Bool) : List Char → Bool
  | c :: d :: rest => (p c && q d) || hasPair p q (d :: rest)
  | _ => false

/-- A character that only stands between double quotes. -/
def isSpecial (layout : Layout) (c : Char) : Bool :=
  let n := c.toNat
  let ascii := c == '\n' || decide (0x20 ≤ n ∧ n ≤ 0x7E)
  let beyond :=
    (n == 0x85 || decide (0xA0 ≤ n ∧ n ≤ 0xFFFD) || decide (0x10000 ≤ n ∧ n < 0x10FFFF)) &&
      c != byteOrderMark
  !ascii && !(beyond && layout.unicode) || Text.isSurrogate c

/-- Whether a text needs double quotes: it has special characters, or a line that ends with a
space. -/
def needsDouble (layout : Layout) (s : List Char) : Bool :=
  s.any (isSpecial layout) || hasPair (· == ' ') isBreak s

/-- A space or a line end. -/
def isEdge (c : Char) : Bool :=
  c == ' ' || isBreak c

/-- Whether a text may be written without quotes, apart from what it would stand for. -/
def fitsPlain (layout : Layout) (s : List Char) : Bool :=
  !(s.head?.any isEdge || s.getLast?.any isEdge || s.any isBreak || needsDouble layout s ||
    startsIndicator s || hasIndicator s)

/-- Whether a text may be written between single quotes. -/
def fitsSingle (layout : Layout) (s : List Char) : Bool :=
  !(needsDouble layout s || hasPair isBreak (· == ' ') s)

/-- The text of a scalar, and whether it may be read back from its form. Records hold only truth
values, integers and texts. -/
def scalarForm : Scalar → String × Bool
  | .null => ("null", true)
  | .bool b => (if b then "true" else "false", true)
  | .int n => (Text.integerText n, true)
  | .text s => (s, plainTag s == textTag)
  | .date _ => ("null", true)
  | .dateTime _ => ("null", true)
  | .real _ => ("null", true)
  | .binary _ => ("null", true)

/-- Write a scalar. A simple key stands on one line and is not empty without quotes. -/
def writeScalar (layout : Layout) (indent : Nat) (asKey : Bool) (sheet : Sheet) (value : Scalar) :
    Sheet :=
  let (text, implicit) := scalarForm value
  let s := text.toList
  if implicit && fitsPlain layout s && !(asKey && s.isEmpty) then
    sheet.plain layout indent (!asKey) s
  else if fitsSingle layout s && !(asKey && s.any isBreak) then
    sheet.singleQuoted layout indent (!asKey) s
  else sheet.doubleQuoted layout indent (!asKey) s

/-- The greatest length of a simple key. -/
def simpleKeyLimit : Nat := 122

/-- Whether a key needs no key mark. -/
def isSimpleKey (key : Scalar) : Bool :=
  let s := (scalarForm key).1.toList
  !s.isEmpty && !s.any isBreak && decide (s.length ≤ simpleKeyLimit)

/-- Write a key, with the mark that a key needs that is not simple. -/
def writeKey (layout : Layout) (indent : Nat) (sheet : Sheet) (key : Scalar) : Sheet :=
  let sheet := sheet.indentTo indent
  if isSimpleKey key then
    (writeScalar layout (indent + layout.step) true sheet key).mark ":" false false
  else
    let sheet := writeScalar layout (indent + layout.step) false (sheet.mark "?" true true) key
    (sheet.indentTo indent).mark ":" true true

/-- The indentation of a block inside another one; a block outside all others has none. -/
def blockIndent (layout : Layout) (outer : Option Nat) (sameLevel : Bool) : Nat :=
  match outer with
  | none => 0
  | some indent => if sameLevel then indent else indent + layout.step

mutual

/-- Write a document inside a block. Records hold no sets and do not hold themselves. -/
def writeDocument (layout : Layout) (outer : Option Nat) (inMapping : Bool) (sheet : Sheet) :
    Document → Sheet
  | .scalar value =>
    writeScalar layout (outer.getD 0 + layout.step) false sheet value
  | .set _ => writeScalar layout (outer.getD 0 + layout.step) false sheet .null
  | .cyclic _ body => writeDocument layout outer inMapping sheet body
  | .again _ => writeScalar layout (outer.getD 0 + layout.step) false sheet .null
  | .list [] => (sheet.mark "[" true false).mark "]" false false
  | .object [] => (sheet.mark "\x7b" true false).mark "\x7d" false false
  | .list (item :: rest) =>
    writeItems layout (blockIndent layout outer (inMapping && !sheet.fresh)) sheet (item :: rest)
  | .object (entry :: rest) =>
    writeEntries layout (blockIndent layout outer false) sheet (entry :: rest)

/-- Write the items of a list. -/
def writeItems (layout : Layout) (indent : Nat) (sheet : Sheet) : List Document → Sheet
  | [] => sheet
  | item :: rest =>
    let sheet := (sheet.indentTo indent).mark "-" true true
    writeItems layout indent (writeDocument layout (some indent) false sheet item) rest

/-- Write the entries of an object. -/
def writeEntries (layout : Layout) (indent : Nat) (sheet : Sheet) :
    List (Scalar × Document) → Sheet
  | [] => sheet
  | (key, value) :: rest =>
    let sheet := writeKey layout indent sheet key
    writeEntries layout indent (writeDocument layout (some indent) true sheet value) rest

end

/-- Write a document in YAML. -/
def print (layout : Layout) (document : Document) : String :=
  ((writeDocument layout none false Sheet.blank document).indentTo 0).text

end QueryAudit.Yaml
