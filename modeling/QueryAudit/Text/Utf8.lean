import QueryAudit.Text.Display

/-!
# UTF-8

Writing texts as octets and reading octets back. Between characters the reader is at rest; inside
one it knows how many octets are owed and in which bounds the next one must lie. An octet out of
bounds ends a maximal invalid part: the lenient reader writes one replacement character for it and
goes on with that octet, the strict reader reports where the part begins and why it is invalid.
-/

namespace QueryAudit.Text

/-- Octets, as numbers below 256. -/
abbrev Octets := List Nat

/-- The octets of one character. -/
def utf8Char (c : Char) : Octets :=
  let n := c.toNat
  if n < 0x80 then [n]
  else if n < 0x800 then [0xC0 + n / 0x40, 0x80 + n % 0x40]
  else if n < 0x10000 then [0xE0 + n / 0x1000, 0x80 + n / 0x40 % 0x40, 0x80 + n % 0x40]
  else [0xF0 + n / 0x40000, 0x80 + n / 0x1000 % 0x40, 0x80 + n / 0x40 % 0x40, 0x80 + n % 0x40]

/-- The octets of a text. -/
def utf8 (s : List Char) : Octets :=
  s.flatMap utf8Char

/-- A run of surrogates in a text, which UTF-8 cannot write. -/
structure SurrogateError where
  /-- The place of the first surrogate. -/
  start : Nat
  /-- The code points of the surrogates. -/
  codes : List Nat
  deriving DecidableEq

/-- The reason why UTF-8 refuses a text. -/
def surrogateReason : String := "surrogates not allowed"

/-- The wording of a refusal. -/
def SurrogateError.message (error : SurrogateError) : String :=
  let place :=
    match error.codes with
    | [code] =>
      "character '\\u" ++ String.ofList (hexNumeral 4 code) ++ "' in position " ++
        toString error.start
    | codes => "characters in position " ++ toString error.start ++ "-" ++
        toString (error.start + codes.length - 1)
  "'utf-8' codec can't encode " ++ place ++ ": " ++ surrogateReason

/-- The first run of surrogates in a text. -/
def surrogateError? (s : List Char) : Option SurrogateError :=
  match s.dropWhile fun c => !isSurrogate c with
  | [] => none
  | run => some ⟨s.length - run.length, (run.takeWhile isSurrogate).map codePoint⟩

/-- A character under way. -/
structure Partial where
  /-- The number of octets still owed, at least one. -/
  owed : Nat
  /-- The least value of the next octet. -/
  least : Nat
  /-- The greatest value of the next octet. -/
  greatest : Nat
  /-- The bits read so far. -/
  bits : Nat
  /-- The number of octets read so far. -/
  read : Nat
  deriving DecidableEq

/-- What the first octet of a character starts: a whole character, a partial one, or nothing. -/
inductive Start where
  /-- A character of one octet. -/
  | whole (c : Char)
  /-- A character of several octets. -/
  | partly (p : Partial)
  /-- No character starts with this octet. -/
  | invalid

/-- Read the first octet of a character. -/
def startOctet (b : Nat) : Start :=
  if b ≤ 0x7F then .whole (Char.ofNat b)
  else if b < 0xC2 then .invalid
  else if b ≤ 0xDF then .partly ⟨1, 0x80, 0xBF, b - 0xC0, 1⟩
  else if b = 0xE0 then .partly ⟨2, 0xA0, 0xBF, 0, 1⟩
  else if b = 0xED then .partly ⟨2, 0x80, 0x9F, 0xD, 1⟩
  else if b ≤ 0xEF then .partly ⟨2, 0x80, 0xBF, b - 0xE0, 1⟩
  else if b = 0xF0 then .partly ⟨3, 0x90, 0xBF, 0, 1⟩
  else if b ≤ 0xF3 then .partly ⟨3, 0x80, 0xBF, b - 0xF0, 1⟩
  else if b = 0xF4 then .partly ⟨3, 0x80, 0x8F, 4, 1⟩
  else .invalid

/-- Why octets are not UTF-8. -/
inductive Utf8Fault where
  /-- No character starts with this octet. -/
  | badStart
  /-- A character is broken off by an octet that cannot continue it. -/
  | badContinuation
  /-- The octets end inside a character. -/
  | endsInside
  deriving DecidableEq

/-- The wording of a fault. -/
def Utf8Fault.message : Utf8Fault → String
  | .badStart => "invalid start byte"
  | .badContinuation => "invalid continuation byte"
  | .endsInside => "unexpected end of data"

/-- An invalid part of a sequence of octets. -/
structure Utf8Error where
  /-- The place of the first octet of the part. -/
  start : Nat
  /-- The octets of the part. -/
  octets : Octets
  /-- What is wrong with it. -/
  fault : Utf8Fault
  deriving DecidableEq

/-- The wording of an invalid part. -/
def Utf8Error.message (error : Utf8Error) : String :=
  let place :=
    match error.octets with
    | [b] => "byte 0x" ++ String.ofList (hexNumeral 2 b) ++ " in position " ++ toString error.start
    | octets => "bytes in position " ++ toString error.start ++ "-" ++
        toString (error.start + octets.length - 1)
  "'utf-8' codec can't decode " ++ place ++ ": " ++ error.fault.message

/-- A piece of a sequence of octets: a character or a maximal invalid part. -/
inductive Utf8Piece where
  /-- A character. -/
  | char (c : Char)
  /-- An invalid part of so many octets. -/
  | invalid (length : Nat) (fault : Utf8Fault)
  deriving DecidableEq

/-- Cut octets into characters and maximal invalid parts, given the character under way. -/
def utf8Pieces : Option Partial → Octets → List Utf8Piece
  | none, [] => []
  | some p, [] => [.invalid p.read .endsInside]
  | none, b :: rest =>
    match startOctet b with
    | .whole c => .char c :: utf8Pieces none rest
    | .partly p => utf8Pieces (some p) rest
    | .invalid => .invalid 1 .badStart :: utf8Pieces none rest
  | some p, b :: rest =>
    if p.least ≤ b ∧ b ≤ p.greatest then
      let bits := p.bits * 0x40 + (b - 0x80)
      if p.owed = 1 then .char (Char.ofNat bits) :: utf8Pieces none rest
      else utf8Pieces (some ⟨p.owed - 1, 0x80, 0xBF, bits, p.read + 1⟩) rest
    else .invalid p.read .badContinuation ::
      match startOctet b with
      | .whole c => .char c :: utf8Pieces none rest
      | .partly p => utf8Pieces (some p) rest
      | .invalid => .invalid 1 .badStart :: utf8Pieces none rest

/-- The replacement character. -/
def replacement : Char := Char.ofNat 0xFFFD

/-- A text for places where surrogates cannot stand: each gives way to three replacement characters,
one for each octet that it would take. -/
def replaceSurrogates (s : String) : String :=
  String.ofList (s.toList.flatMap fun c =>
    if isSurrogate c then List.replicate 3 replacement else [c])

/-- Read octets as UTF-8, with one replacement character for every maximal invalid part. -/
def utf8Lenient (bs : Octets) : List Char :=
  (utf8Pieces none bs).map fun
    | .char c => c
    | .invalid _ _ => replacement

/-- Read pieces strictly, counting the octets of the characters passed. -/
def strictPieces (bs : Octets) (passed : Nat) : List Utf8Piece → Except Utf8Error (List Char)
  | [] => .ok []
  | .char c :: rest => (strictPieces bs (passed + (utf8Char c).length) rest).map (c :: ·)
  | .invalid length fault :: _ => .error ⟨passed, (bs.drop passed).take length, fault⟩

/-- Read octets as UTF-8, refusing at the first invalid part. -/
def utf8Strict (bs : Octets) : Except Utf8Error (List Char) :=
  strictPieces bs 0 (utf8Pieces none bs)

end QueryAudit.Text
