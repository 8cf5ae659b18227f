import QueryAudit.Text.Numeral

/-!
# Decimal fractions

Reading floating-point numbers from texts: a sign, digits of any script with or without a point, and
an exponent, or the words for the infinities and for what is not a number. The result is the number
next to the decimal fraction.
-/

namespace QueryAudit.Floating

/-- An infinity. -/
def infinity : Float := 1.0 / 0.0

/-- Not a number. -/
def notANumber : Float := 0.0 / 0.0

/-- The number with a decimal significand and exponent. Exponents out of reach are settled without
computing a power. -/
def ofDecimal (significand : Nat) (exponent : Int) : Float :=
  if significand = 0 then 0.0
  else if 400 < exponent then infinity
  else if exponent + Nat.log2 significand < -400 then 0.0
  else Float.ofScientific significand (exponent < 0) exponent.natAbs

/-- A number with a sign in front of it. -/
def withSign (negative : Bool) (x : Float) : Float :=
  if negative then -x else x

/-- The exponent that a text without its letter stands for. -/
def exponent? (s : List Char) : Option Int :=
  let (down, size) := Text.splitSign s
  if size.isEmpty || !size.all Text.isDigit then none
  else some (Text.signed down (Text.digitsValue size))

/-- The number that a text in lower case and without its sign stands for. -/
def readUnsigned? (s : List Char) : Option Float :=
  let significand := s.takeWhile (· != 'e')
  let whole := significand.takeWhile (· != '.')
  let places := (significand.dropWhile (· != '.')).drop 1
  let digits := whole ++ places
  let value := fun (exponent : Int) =>
    ofDecimal (Text.digitsValue digits) (exponent - places.length)
  if ["inf", "infinity"].contains (String.ofList s) then some infinity
  else if String.ofList s = "nan" then some notANumber
  else if digits.isEmpty || !digits.all Text.isDigit then none
  else
    match s.drop significand.length with
    | [] => some (value 0)
    | _ :: exponent => (exponent? exponent).map value

/-- The number that a text stands for. Letter case does not count, nor does white space around. -/
def read? (s : List Char) : Option Float :=
  let body := Text.trimBy Text.isAsciiSpace (s.map Text.asciiForm)
  let (negative, body) := Text.splitSign (body.map Char.toLower)
  (readUnsigned? body).map (withSign negative)

end QueryAudit.Floating
