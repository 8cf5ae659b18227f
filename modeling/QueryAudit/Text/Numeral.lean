import QueryAudit.Text.Blank
import QueryAudit.Text.Display

/-!
# Numerals of integers

Numerals in query text, in connection settings and in YAML. A decimal numeral of more than
`digitLimit` digits is refused, in reading and in writing, so that no text can cost more than
quadratic time; a base that is a power of two has no such limit.
-/

namespace QueryAudit.Text

/-- The largest number of digits that a numeral may have. -/
def digitLimit : Nat := 4300

/-- The least number whose numeral has too many digits. -/
def numeralBound : Nat := Nat.pow 10 digitLimit

/-- Why a numeral is refused. -/
inductive NumeralError where
  /-- The text is not a numeral in the base. -/
  | malformed (base : Nat) (text : List Char)
  /-- The numeral to read has too many digits. -/
  | tooLong (digits : Nat)
  /-- The number to write would have too many digits. -/
  | tooLarge
  deriving DecidableEq

/-- The number of characters of a refused text that are shown, with its quotes. -/
def shownLength : Nat := 200

/-- The wording for a numeral with too many digits; `count` tells how many there are. -/
def limitMessage (count : String) : String :=
  "Exceeds the limit (" ++ toString digitLimit ++ " digits) for integer string conversion" ++
    count ++ "; use sys.set_int_max_str_digits() to increase the limit"

/-- The wording of a refusal. -/
def NumeralError.message : NumeralError → String
  | .malformed base text =>
    "invalid literal for int() with base " ++ toString base ++ ": " ++
      String.ofList ((display text).toList.take shownLength)
  | .tooLong digits => limitMessage (": value has " ++ toString digits ++ " digits")
  | .tooLarge => limitMessage ""

/-- An ASCII digit. -/
def isDigit (c : Char) : Bool :=
  decide ('0' ≤ c ∧ c ≤ '9')

/-- The number that a run of ASCII digits writes. -/
def digitsValue (ds : List Char) : Nat :=
  ds.foldl (fun n d => 10 * n + (d.toNat - '0'.toNat)) 0

/-- Read a run of ASCII digits, which may not be too long. -/
def readDigits (ds : List Char) : Except NumeralError Nat :=
  if ds.length ≤ digitLimit then .ok (digitsValue ds) else .error (.tooLong ds.length)

/-- The decimal numeral of a number. -/
def numeral (n : Nat) : List Char :=
  Nat.toDigits 10 n

/-- The zeros of the decimal digits of every script; the other nine follow each. -/
def zeroDigits : List Nat :=
  [
    0x30, 0x660, 0x6F0, 0x7C0, 0x966, 0x9E6, 0xA66, 0xAE6, 0xB66, 0xBE6, 0xC66, 0xCE6, 0xD66,
    0xDE6, 0xE50, 0xED0, 0xF20, 0x1040, 0x1090, 0x17E0, 0x1810, 0x1946, 0x19D0, 0x1A80, 0x1A90,
    0x1B50, 0x1BB0, 0x1C40, 0x1C50, 0xA620, 0xA8D0, 0xA900, 0xA9D0, 0xA9F0, 0xAA50, 0xABF0,
    0xFF10, 0x104A0, 0x10D30, 0x11066, 0x110F0, 0x11136, 0x111D0, 0x112F0, 0x11450, 0x114D0,
    0x11650, 0x116C0, 0x11730, 0x118E0, 0x11950, 0x11C50, 0x11D50, 0x11DA0, 0x16A60, 0x16AC0,
    0x16B50, 0x1D7CE, 0x1D7D8, 0x1D7E2, 0x1D7EC, 0x1D7F6, 0x1E140, 0x1E2F0, 0x1E950, 0x1FBF0]

/-- The ASCII form of a character: digits of every script count as ASCII digits, white space as a
space, and what else lies beyond ASCII as a question mark. -/
def asciiForm (c : Char) : Char :=
  if c.toNat < 0x80 then c
  else if isWhiteSpace c then ' '
  else
    match zeroDigits.find? fun z => decide (z ≤ c.toNat) && decide (c.toNat < z + 10) with
    | some z => Char.ofNat ('0'.toNat + (c.toNat - z))
    | none => '?'

/-- White space of ASCII. -/
def isAsciiSpace (c : Char) : Bool :=
  c == ' ' || decide (0x09 ≤ c.toNat ∧ c.toNat ≤ 0x0D)

/-- The value of a character as a digit in a base up to sixteen. -/
def digitIn? (base : Nat) (c : Char) : Option Nat :=
  let value :=
    if isDigit c then c.toNat - '0'.toNat
    else if 'a' ≤ c ∧ c ≤ 'f' then c.toNat - 'a'.toNat + 10
    else if 'A' ≤ c ∧ c ≤ 'F' then c.toNat - 'A'.toNat + 10
    else base
  if value < base then some value else none

/-- The digits of a run of digits in which single underscores may stand between two of them. -/
def groupedDigits? (base : Nat) : List Char → Option (List Nat)
  | [] => none
  | [c] => (digitIn? base c).map ([·])
  | c :: '_' :: rest => do return (← digitIn? base c) :: (← groupedDigits? base rest)
  | c :: rest => do return (← digitIn? base c) :: (← groupedDigits? base rest)

/-- The letter after a zero that marks a base. -/
def baseLetter? (base : Nat) : Option Char :=
  [(2, 'b'), (8, 'o'), (16, 'x')].lookup base

/-- A numeral without the mark of its base, which one underscore may follow. -/
def dropBaseMark (base : Nat) : List Char → List Char
  | '0' :: c :: rest =>
    if baseLetter? base == some c.toLower then
      match rest with
      | '_' :: digits => digits
      | _ => rest
    else '0' :: c :: rest
  | s => s

/-- Split a leading sign off: whether the number is negative, and what follows. -/
def splitSign : List Char → Bool × List Char
  | '-' :: rest => (true, rest)
  | '+' :: rest => (false, rest)
  | s => (false, s)

/-- The integer with the given sign and size. -/
def signed (negative : Bool) (n : Nat) : Int :=
  if negative then -(n : Int) else n

/-- Read an integer in a base: white space around it, a sign, the mark of the base, digits of any
script, single underscores between digits. A run of decimal digits that is too long is refused
before anything that follows it. -/
def readInteger (base : Nat) (s : List Char) : Except NumeralError Int :=
  let (negative, body) := splitSign ((s.map asciiForm).dropWhile isAsciiSpace)
  let body := dropBaseMark base body
  let run := body.takeWhile fun c => c == '_' || (digitIn? base c).isSome
  match groupedDigits? base run with
  | none => .error (.malformed base s)
  | some digits =>
    if base = 10 ∧ digitLimit < digits.length then .error (.tooLong digits.length)
    else if (body.drop run.length).all isAsciiSpace then
      .ok (signed negative (digits.foldl (fun n d => base * n + d) 0))
    else .error (.malformed base s)

/-- The decimal numeral of an integer. -/
def integerText (n : Int) : String :=
  match n with
  | .ofNat m => String.ofList (numeral m)
  | .negSucc m => String.ofList ('-' :: numeral (m + 1))

end QueryAudit.Text
