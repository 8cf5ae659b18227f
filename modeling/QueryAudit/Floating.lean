import QueryAudit.Text.Numeral

/-!
# Floating-point numbers

Binary floating-point numbers of 64 bits by their exact values. A finite number is a whole
significand, moved by a power of two; the significand of a number has 53 bits unless the number is
too small for that, so every number has one form.
-/

namespace QueryAudit

/-- A binary floating-point number. -/
inductive Floating where
  /-- The number `significand * 2 ^ exponent`, with a sign. Zero has a sign too. -/
  | finite (negative : Bool) (significand : Nat) (exponent : Int)
  /-- An infinity. -/
  | infinite (negative : Bool)
  /-- Not a number. The mark tells apart where such values came from. -/
  | undefined (mark : Nat)
  deriving DecidableEq

namespace Floating

/-- The number that 64 bits stand for: a sign, eleven bits of exponent, 52 bits of fraction. -/
def ofBits (bits : Nat) (mark : Nat) : Floating :=
  let negative := decide (bits / Nat.pow 2 63 = 1)
  let exponent : Nat := bits / Nat.pow 2 52 % Nat.pow 2 11
  let fraction := bits % Nat.pow 2 52
  if exponent = 0x7FF then if fraction = 0 then .infinite negative else .undefined mark
  else if exponent = 0 then .finite negative fraction (-1074)
  else .finite negative (Nat.pow 2 52 + fraction) (exponent - 1075)

/-- The exact value of a number. What is not a number takes the mark. -/
def ofFloat (x : Float) (mark : Nat) : Floating :=
  ofBits x.toBits.toNat mark

/-- The integer that a number is, if it has no fraction. -/
def whole? : Floating → Option Int
  | .finite negative significand (.ofNat shift) =>
    some (Text.signed negative (significand * Nat.pow 2 shift))
  | .finite negative significand (.negSucc shift) =>
    let cut := Nat.pow 2 (shift + 1)
    if significand % cut = 0 then some (Text.signed negative (significand / cut)) else none
  | .infinite _ => none
  | .undefined _ => none

/-- Whether a number is zero, of either sign. -/
def isZero : Floating → Bool
  | .finite _ significand _ => significand == 0
  | .infinite _ => false
  | .undefined _ => false

/-- Zero of either sign is the integer zero. -/
theorem whole?_eq_zero_of_isZero {x : Floating} (h : x.isZero = true) : x.whole? = some 0 := by
  match x with
  | .finite negative significand (.ofNat shift) =>
    simp only [isZero, beq_iff_eq] at h
    cases negative <;> simp [whole?, h, Text.signed]
  | .finite negative significand (.negSucc shift) =>
    simp only [isZero, beq_iff_eq] at h
    cases negative <;> simp [whole?, h, Text.signed]

end Floating

end QueryAudit
