import QueryAudit.Calendar

/-!
# Timestamps

Dates, with or without a time of day and a time zone, as scalars write them. The form of a timestamp
is one question, whether there is such a day and such a time is another.
-/

namespace QueryAudit.Yaml

/-- A timestamp as it is written. -/
structure Timestamp where
  /-- The day. -/
  date : Date
  /-- Whether month and day have two digits each. -/
  padded : Bool
  /-- The day with the time of day, if there is one. -/
  time : Option DateTime
  deriving DecidableEq

namespace Timestamp

/-- The number at the start of a text, of so many digits at least and at most, the number of its
digits, and what follows. -/
def number? (least most : Nat) (s : List Char) : Option (Nat × Nat × List Char) :=
  let digits := (s.takeWhile Text.isDigit).take most
  if least ≤ digits.length then
    some (Text.digitsValue digits, digits.length, s.drop digits.length)
  else none

/-- What follows a character at the start of a text. -/
def after? (c : Char) : List Char → Option (List Char)
  | d :: rest => if d = c then some rest else none
  | [] => none

/-- A space or a tab. -/
def isSpace (c : Char) : Bool :=
  c == ' ' || c == '\t'

/-- The minutes of a time zone up to the end of the text. -/
def zoneMinutes? : List Char → Option Nat
  | [] => some 0
  | ':' :: rest => do
    let (minutes, _, rest) ← number? 2 2 rest
    guard rest.isEmpty
    return minutes
  | _ => none

/-- The time zone up to the end of the text, when there is one. The letter `Z` stands for the time
of Greenwich. -/
def zone? (s : List Char) : Option (Option Int) :=
  if s.isEmpty then some none
  else
    match s.dropWhile isSpace with
    | ['Z'] => some (some 0)
    | c :: rest =>
      if c == '+' || c == '-' then do
        let (hours, _, rest) ← number? 1 2 rest
        let minutes ← zoneMinutes? rest
        return some (Text.signed (c == '-') (hours * 60 + minutes))
      else none
    | [] => none

/-- The number of places of a second that count. -/
def secondPlaces : Nat := 6

/-- The millionths of a second at the start of a text, and what follows. Further places are cut
off. -/
def micros (s : List Char) : Nat × List Char :=
  match s with
  | '.' :: rest =>
    let places := (rest.takeWhile Text.isDigit).take secondPlaces
    (Text.digitsValue (places ++ List.replicate (secondPlaces - places.length) '0'),
      rest.dropWhile Text.isDigit)
  | _ => (0, s)

/-- What follows the mark between date and time. -/
def afterDate? : List Char → Option (List Char)
  | c :: rest =>
    if c == 'T' || c == 't' then some rest
    else if isSpace c then some (rest.dropWhile isSpace)
    else none
  | [] => none

/-- The time of day up to the end of the text, on a day. -/
def time? (date : Date) (s : List Char) : Option DateTime := do
  let rest ← afterDate? s
  let (hour, _, rest) ← number? 1 2 rest
  let (minute, _, rest) ← number? 2 2 (← after? ':' rest)
  let (second, _, rest) ← number? 2 2 (← after? ':' rest)
  let (micros, rest) := micros rest
  return ⟨date, hour, minute, second, micros, ← zone? rest⟩

/-- The timestamp that a text has the form of. -/
def ofText? (s : List Char) : Option Timestamp := do
  let (year, _, rest) ← number? 4 4 s
  let (month, monthDigits, rest) ← number? 1 2 (← after? '-' rest)
  let (day, dayDigits, rest) ← number? 1 2 (← after? '-' rest)
  let date : Date := ⟨year, month, day⟩
  let padded := monthDigits == 2 && dayDigits == 2
  if rest.isEmpty then return ⟨date, padded, none⟩
  else return ⟨date, padded, some (← time? date rest)⟩

/-- Whether a plain scalar of this form is a timestamp: a bare date has to be padded. -/
def isPlain (timestamp : Timestamp) : Bool :=
  timestamp.padded || timestamp.time.isSome

/-- A text without one line end after it. -/
def dropLineEnd (s : List Char) : List Char :=
  if s.getLast? == some '\n' then s.dropLast else s

end Timestamp

end QueryAudit.Yaml
