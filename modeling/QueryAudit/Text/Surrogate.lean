/-!
# Surrogates

An escape in a text may name a surrogate: a half of a pair that writes one character in units of 16
bits. A surrogate is a code point and no character, so no text can hold it. A character for private
use stands for it instead, and has the code point of the surrogate wherever code points count: the
text is shown, escaped and refused as if it held the surrogate.
-/

namespace QueryAudit.Text

/-- Whether a code point is that of a surrogate. -/
def isSurrogateCode (code : Nat) : Bool :=
  decide (0xD800 ≤ code ∧ code ≤ 0xDFFF)

/-- The distance between a surrogate and the character that stands for it. -/
def standInDistance : Nat := 0x100000

/-- The character for a code point. -/
def ofCodePoint (code : Nat) : Char :=
  Char.ofNat (if isSurrogateCode code then code + standInDistance else code)

/-- The code point for which a character stands. -/
def codePoint (c : Char) : Nat :=
  if isSurrogateCode (c.toNat - standInDistance) then c.toNat - standInDistance else c.toNat

/-- Whether a character stands for a surrogate. -/
def isSurrogate (c : Char) : Bool :=
  isSurrogateCode (codePoint c)

/-- Whether a text has a surrogate. -/
def hasSurrogate (s : String) : Bool :=
  s.toList.any isSurrogate

/-- A valid code point is the number of its character. -/
theorem toNat_ofNat_of_isValidChar {code : Nat} (h : code.isValidChar) :
    (Char.ofNat code).toNat = code := by
  rw [Char.ofNat, dif_pos h]
  rfl

/-- Every code point below those of the characters that stand for surrogates keeps its number. -/
theorem codePoint_ofCodePoint {code : Nat} (h : code < 0x10D800) :
    codePoint (ofCodePoint code) = code := by
  by_cases hcode : isSurrogateCode code = true
  · have hvalid : (code + standInDistance).isValidChar := by
      rw [isSurrogateCode, decide_eq_true_eq] at hcode
      rw [Nat.isValidChar, standInDistance]
      omega
    simp [ofCodePoint, codePoint, hcode, toNat_ofNat_of_isValidChar hvalid]
  · have hvalid : code.isValidChar := by
      rw [isSurrogateCode, decide_eq_true_eq] at hcode
      rw [Nat.isValidChar]
      omega
    have hbelow : ¬isSurrogateCode (code - standInDistance) = true := by
      rw [isSurrogateCode, decide_eq_true_eq, standInDistance]
      omega
    simp [ofCodePoint, codePoint, hcode, hbelow, toNat_ofNat_of_isValidChar hvalid]

end QueryAudit.Text
