import QueryAudit.Document.Decoder
import QueryAudit.Proofs.Query.Positionals

/-!
# Numbers as keys

A number that is a key is written as its decimal numeral, and the numeral is read as the number
again, unless it has more characters than a numeral to be read may have.
-/

namespace QueryAudit

namespace Numeral

open Query

/-- Only the numeral of zero starts with a zero. -/
theorem eq_zero_of_numeral_eq_cons {m : Nat} {rest : List Char}
    (h : Text.numeral m = '0' :: rest) : m = 0 := by
  have hvalue : m = Text.digitsValue rest := by
    rw [← digitsValue_numeral m, h]
    rfl
  cases hrest : rest with
  | nil =>
    rw [hvalue, hrest]
    rfl
  | cons d others =>
    -- Without its zero the numeral would be a shorter one of the same number.
    have hpos : 0 < rest.length := by simp [hrest]
    have hdigits : ∀ d ∈ rest, Text.isDigit d = true := fun d hd =>
      isDigit_of_mem_numeral (n := m) (h ▸ List.mem_cons_of_mem _ hd)
    have hshort := (length_numeral_le_iff hpos).mpr (hvalue ▸ digitsValue_lt hdigits)
    rw [h, List.length_cons] at hshort
    omega

/-- The numeral of a number is one as it ought to be written, unless it is too long with its
sign. -/
theorem strict_numeral (m : Nat) (negative : Bool) :
    strict ((if negative then ['-'] else []) ++ Text.numeral m) =
      if Text.digitLimit < (Text.numeral m).length + (if negative then 1 else 0) then
        .error .outOfRange
      else .ok (Text.signed negative m) := by
  by_cases hm : m = 0
  · subst hm
    cases negative <;> rfl
  · have hdigits : ∀ d ∈ Text.numeral m, Text.isDigit d = true := fun _ => isDigit_of_mem_numeral
    have hrun : (Text.numeral m).takeWhile Text.isDigit = Text.numeral m :=
      List.takeWhile_eq_self_iff.mpr hdigits
    obtain ⟨d, rest, hnumeral⟩ := List.exists_cons_of_ne_nil (numeral_ne_nil m)
    have hzero : d ≠ '0' := by
      rintro rfl
      exact hm (eq_zero_of_numeral_eq_cons hnumeral)
    have hminus : d ≠ '-' := by
      rintro rfl
      exact absurd (hdigits '-' (hnumeral ▸ List.mem_cons_self)) (by decide)
    have hvalue := digitsValue_numeral m
    rw [hnumeral] at hrun hvalue ⊢
    cases negative with
    | true => simp [strict, hrun, hzero, hvalue]
    | false => simp [strict, hrun, hzero, hminus, hvalue]

end Numeral

namespace Text

/-- The numeral of an integer is that of its size, behind a minus sign where there is one. -/
theorem toList_integerText (n : Int) :
    (integerText n).toList =
      (if decide (n < 0) then ['-'] else []) ++ numeral n.natAbs := by
  cases n with
  | ofNat m => simp [integerText]
  | negSucc m => simp [integerText, Int.negSucc_lt_zero]

theorem bounds_of_isDigit {d : Char} (h : isDigit d = true) : 48 ≤ d.toNat ∧ d.toNat ≤ 57 := by
  simp only [isDigit, Char.le_def, decide_eq_true_eq, UInt32.le_iff_toNat_le] at h
  exact h

/-- The characters of the numeral of an integer are digits and the minus sign. -/
theorem bounds_of_mem_integerText {n : Int} {c : Char} (h : c ∈ (integerText n).toList) :
    45 ≤ c.toNat ∧ c.toNat ≤ 57 := by
  rw [toList_integerText] at h
  rcases List.mem_append.mp h with hsign | hdigit
  · split at hsign
    · rw [List.mem_singleton.mp hsign]
      decide
    · cases hsign
  · have hbounds := bounds_of_isDigit (Query.isDigit_of_mem_numeral hdigit)
    omega

theorem signed_natAbs (n : Int) : signed (decide (n < 0)) n.natAbs = n := by
  rw [signed]
  split
  · rename_i h
    rw [decide_eq_true_eq] at h
    omega
  · rename_i h
    rw [decide_eq_true_eq] at h
    omega

theorem isSurrogate_eq_false {c : Char} (h : c.toNat < 0xD800) : isSurrogate c = false := by
  have hpoint : codePoint c = c.toNat := by
    rw [codePoint, if_neg]
    rw [isSurrogateCode, decide_eq_true_eq, standInDistance]
    omega
  rw [isSurrogate, hpoint, isSurrogateCode, decide_eq_false_iff_not]
  omega

theorem hasSurrogate_integerText (n : Int) : hasSurrogate (integerText n) = false := by
  rw [hasSurrogate, List.any_eq_false]
  intro c hc
  have hbounds := bounds_of_mem_integerText hc
  simp [isSurrogate_eq_false (show c.toNat < 0xD800 by omega)]

end Text

/-- Whether the numeral of a number is short enough to be read. -/
def IsShort (n : Int) : Prop :=
  (Text.integerText n).length ≤ Text.digitLimit

instance : DecidablePred IsShort := fun n =>
  inferInstanceAs (Decidable ((Text.integerText n).length ≤ Text.digitLimit))

/-- A number is read from its numeral, and a numeral that is too long is refused. -/
theorem Decoder.int_integerText (n : Int) :
    Decoder.int (.text (Text.integerText n)) =
      if IsShort n then .ok n else .fail .outOfRange := by
  have hlength : (Text.integerText n).length =
      (Text.numeral n.natAbs).length + (if decide (n < 0) then 1 else 0) := by
    rw [← String.length_toList, Text.toList_integerText, List.length_append]
    split <;> simp [Nat.add_comm]
  have hread : Numeral.strict (Text.integerText n).toList =
      if IsShort n then .ok n else .error .outOfRange := by
    rw [Text.toList_integerText, Numeral.strict_numeral, Text.signed_natAbs, ← hlength]
    by_cases hshort : IsShort n
    · rw [if_pos hshort, if_neg (Nat.not_lt.mpr hshort)]
    · rw [if_neg hshort, if_pos (Nat.not_le.mp hshort)]
  rw [Decoder.int, Text.hasSurrogate_integerText, if_neg Bool.false_ne_true, Numeral.lenient, hread]
  by_cases hshort : IsShort n
  · rw [if_pos hshort, if_pos hshort]
  · rw [if_neg hshort, if_neg hshort]

end QueryAudit
