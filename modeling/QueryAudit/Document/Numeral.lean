import QueryAudit.Document.Checked
import QueryAudit.Text.Numeral

/-!
# Lenient numerals

What counts as an integer in a text of a document. A numeral as it ought to be written is read at
once. Anything else is cleaned first: white space around it, a plus sign, leading zeros, a fraction
of zeros and underscores are dropped, and what is left has to be such a numeral.
-/

namespace QueryAudit.Numeral

/-- Read a numeral as it ought to be written: a minus sign or none, and digits without needless
zeros. A run of digits that is too long, with its sign, is refused before what follows it. -/
def strict (s : List Char) : Except Cause Int :=
  let (negative, body) : Bool × List Char :=
    match s with
    | '-' :: rest => (true, rest)
    | _ => (false, s)
  let digits := body.takeWhile Text.isDigit
  let fits := decide (digits.length + (if negative then 1 else 0) ≤ Text.digitLimit)
  match digits with
  | [] => .error .notNumeral
  | '0' :: _ => if body = ['0'] then .ok 0 else .error .notNumeral
  | _ =>
    if !fits then .error .outOfRange
    else if digits.length = body.length then .ok (Text.signed negative (Text.digitsValue digits))
    else .error .notNumeral

/-- What follows zeros and underscores at the start of a numeral, given the character right before.
A minus sign may come after them, and the last character is kept when there is nothing else. -/
def afterZeros? (before : Char) : List Char → Option (List Char)
  | [] => some [before]
  | c :: rest =>
    if c == '0' || c == '_' then afterZeros? c rest
    else if Text.isDigit c || c == '-' then some (c :: rest)
    else if c == '.' then some (before :: c :: rest)
    else none

/-- A numeral without its leading zeros; it has to start with a digit. -/
def dropZeros? : List Char → Option (List Char)
  | [] => none
  | c :: rest =>
    if c == '0' then afterZeros? c rest else if Text.isDigit c then some (c :: rest) else none

/-- A numeral without its plus sign and its leading zeros. -/
def dropSignZeros? : List Char → Option (List Char)
  | '+' :: rest => dropZeros? rest
  | '-' :: rest => (dropZeros? rest).map ('-' :: ·)
  | s => dropZeros? s

/-- A numeral without its fraction, which has zeros only and at least one of them. -/
def dropFraction? (s : List Char) : Option (List Char) :=
  match s.dropWhile (· != '.') with
  | [] => some s
  | _ :: places =>
    if !places.isEmpty && places.all (· == '0') then some (s.takeWhile (· != '.')) else none

/-- Whether a text has two underscores in a row. -/
def hasDoubleUnderscore : List Char → Bool
  | c :: d :: rest => c == '_' && d == '_' || hasDoubleUnderscore (d :: rest)
  | _ => false

/-- A numeral without its underscores, which may not stand at an end or next to one another. -/
def dropUnderscores? (s : List Char) : Option (List Char) :=
  if s.head? == some '_' || s.getLast? == some '_' || hasDoubleUnderscore s then none
  else some (s.filter (· != '_'))

/-- The numeral that a text has when it is cleaned. -/
def cleaned? (s : List Char) : Option (List Char) := do
  let s ← dropSignZeros? (Text.trimBy Text.isWhiteSpace s)
  dropUnderscores? (← dropFraction? s)

/-- Read a numeral leniently. That a numeral is too long counts only when it needs no cleaning. -/
def lenient (s : List Char) : Checked Int :=
  match strict s with
  | .ok n => .ok n
  | .error .outOfRange => .fail .outOfRange
  | .error _ =>
    match (cleaned? s).map strict with
    | some (.ok n) => .ok n
    | _ => .fail .notNumeral

end QueryAudit.Numeral
