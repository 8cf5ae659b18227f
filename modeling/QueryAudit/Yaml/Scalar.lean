import QueryAudit.Document
import QueryAudit.Floating.Numeral
import QueryAudit.Text.LetterCase
import QueryAudit.Yaml.Cursor
import QueryAudit.Yaml.Implicit

/-!
# Reading scalars

The value of a scalar with the tag of a core type. A tag that is written out may not fit the text,
so every reader has to refuse some texts.
-/

namespace QueryAudit.Yaml

/-- The truth value of a word, in any letter case. -/
def readBool (s : String) : Except Fault Scalar :=
  let word := Text.lowered s
  if ["yes", "true", "on"].contains word then .ok (.bool true)
  else if ["no", "false", "off"].contains word then .ok (.bool false)
  else .error (.notTruth word)

/-- An integer in a base, in digits of any script. -/
def readInBase (base : Nat) (s : List Char) : Except Fault Int :=
  (Text.readInteger base s).mapError fun error => .value error.message

/-- The number whose digits in base sixty are given. -/
def ofSixtieths (digits : List Int) : Int :=
  digits.foldl (fun n d => 60 * n + d) 0

/-- The sign in front of a number, and the number without it. -/
def splitNumber (s : List Char) : Except Fault (Bool × List Char) :=
  match s with
  | [] => .error .emptyNumber
  | c :: rest => .ok (c == '-', if c == '-' || c == '+' then rest else c :: rest)

/-- An integer: in base two, eight, ten, sixteen or sixty. -/
def readInt (s : String) : Except Fault Scalar := do
  let (negative, body) ← splitNumber (s.toList.filter (· != '_'))
  let size ←
    match body with
    | [] => throw .emptyNumber
    | ['0'] => pure 0
    | '0' :: 'b' :: digits => readInBase 2 digits
    | '0' :: 'x' :: digits => readInBase 16 digits
    | '0' :: _ => readInBase 8 body
    | _ =>
      if body.contains ':' then ofSixtieths <$> (Text.cutAll ':' body).mapM (readInBase 10)
      else readInBase 10 body
  return .int (if negative then -size else size)

/-- A floating-point number in base ten. -/
def readFraction (s : List Char) : Except Fault Float :=
  match Floating.read? s with
  | some x => .ok x
  | none => .error (.value ("could not convert string to float: " ++ Text.display s))

/-- Add up digits in base sixty, the last one first, given the sum and the power of sixty so far.
The power is exact; it has to be a floating-point number. -/
def sumSixtieths (sum : Float) (power : Nat) : List Float → Except Fault Float
  | [] => .ok sum
  | d :: rest =>
    let factor := Floating.ofDecimal power 0
    if factor.isInf then .error .tooLarge
    else sumSixtieths (sum + d * factor) (power * 60) rest

/-- A floating-point number, in base ten or sixty. Only the word for what is not a number has the
mark zero. -/
def readFloat (s : String) (mark : Nat) : Except Fault Scalar := do
  let (negative, body) ← splitNumber (Text.lower (s.toList.filter (· != '_')))
  if String.ofList body = ".nan" then return .real (.undefined 0)
  let size ←
    if String.ofList body = ".inf" then pure Floating.infinity
    else if body.contains ':' then do
      let digits ← (Text.cutAll ':' body).mapM readFraction
      sumSixtieths 0.0 1 digits.reverse
    else readFraction body
  return .real (Floating.ofFloat (Floating.withSign negative size) mark)

/-- A date, with or without a time of day. -/
def readTimestamp (s : String) : Except Fault Scalar :=
  match Timestamp.ofText? (Timestamp.dropLineEnd s.toList) with
  | none => .error .notTimestamp
  | some timestamp =>
    match timestamp.time with
    | none =>
      match timestamp.date.fault? with
      | some fault => .error (.value fault.message)
      | none => .ok (.date timestamp.date)
    | some time =>
      match time.fault? with
      | some fault => .error (.value fault.message)
      | none => .ok (.dateTime time)

/-- The value of a digit in base sixty-four. -/
def digit64? (c : Char) : Option Nat :=
  if 'A' ≤ c ∧ c ≤ 'Z' then some (c.toNat - 'A'.toNat)
  else if 'a' ≤ c ∧ c ≤ 'z' then some (c.toNat - 'a'.toNat + 26)
  else if Text.isDigit c then some (c.toNat - '0'.toNat + 52)
  else if c == '+' then some 62
  else if c == '/' then some 63
  else none

/-- The octets of digits in base sixty-four, four by four. Other characters do not count, and equals
signs that fill up a group end the text. -/
def octets64 (group : List Nat) (fills : Nat) : List Char → Except Fault Text.Octets
  | [] => if group.isEmpty then .ok [] else .error .construction
  | c :: rest =>
    if c == '=' then
      if 2 ≤ group.length && 4 ≤ group.length + fills + 1 then
        .ok (match group with
          | [a, b, d] => [a * 4 + b / 16, b % 16 * 16 + d / 4]
          | [a, b] => [a * 4 + b / 16]
          | _ => [])
      else octets64 group (if 2 ≤ group.length then fills + 1 else fills) rest
    else
      match digit64? c, group with
      | none, _ => octets64 group fills rest
      | some e, [a, b, d] =>
        ([a * 4 + b / 16, b % 16 * 16 + d / 4, d % 4 * 64 + e] ++ ·) <$> octets64 [] 0 rest
      | some d, _ => octets64 (group ++ [d]) 0 rest

/-- Octets written in base sixty-four. -/
def readBinary (s : String) : Except Fault Scalar :=
  if s.toList.all fun c => decide (c.toNat < 128) then .binary <$> octets64 [] 0 s.toList
  else .error .construction

/-- The tag of octets. -/
def binaryTag : String := coreTag "binary"

/-- The value of a scalar of a core type. No other tag has a value. What is not a number takes the
mark. -/
def readScalar (tag s : String) (mark : Nat) : Except Fault Scalar :=
  if tag = textTag then .ok (.text s)
  else if tag = nullTag then .ok .null
  else if tag = boolTag then readBool s
  else if tag = intTag then readInt s
  else if tag = floatTag then readFloat s mark
  else if tag = timestampTag then readTimestamp s
  else if tag = binaryTag then readBinary s
  else .error .construction

end QueryAudit.Yaml
