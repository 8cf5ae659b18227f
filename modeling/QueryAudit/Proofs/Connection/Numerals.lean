import QueryAudit.Proofs.Keys
import Mathlib.Data.List.TakeWhile

/-!
# Numbers in connection settings

An integer is written as its decimal numeral. The reader of settings takes digits of every script,
blanks around them and underscores between them; of a numeral that was written it takes every
character as it is, and gives the integer back unless the numeral has too many digits.
-/

namespace QueryAudit.Text

/-- The size of a digit. -/
def digitSize (d : Char) : Nat :=
  d.toNat - '0'.toNat

theorem digitIn?_of_isDigit {d : Char} (h : isDigit d = true) :
    digitIn? 10 d = some (digitSize d) := by
  have hbounds := bounds_of_isDigit h
  have hzero : '0'.toNat = 48 := rfl
  have hsize : d.toNat - '0'.toNat < 10 := by omega
  simp only [digitIn?, h, if_true, hsize, digitSize]

/-- A run of digits is read digit by digit. -/
theorem groupedDigits?_of_isDigit {ds : List Char} (hne : ds ≠ [])
    (h : ∀ d ∈ ds, isDigit d = true) : groupedDigits? 10 ds = some (ds.map digitSize) := by
  induction ds with
  | nil => exact absurd rfl hne
  | cons d ds ih =>
    obtain ⟨hd, hds⟩ := List.forall_mem_cons.mp h
    cases ds with
    | nil => simp [groupedDigits?, digitIn?_of_isDigit hd]
    | cons e ds =>
      have hunderscore : e ≠ '_' := Query.ne_of_isDigit (hds e List.mem_cons_self) '_' (by decide)
      rw [groupedDigits?, digitIn?_of_isDigit hd, ih (List.cons_ne_nil e ds) hds]
      · rfl
      · simp
      · rintro rest heq
        exact hunderscore (List.head_eq_of_cons_eq heq)

/-- Decimal numerals have no mark of their base. -/
theorem dropBaseMark_ten (s : List Char) : dropBaseMark 10 s = s := by
  have hletter : baseLetter? 10 = none := rfl
  rw [dropBaseMark.eq_def]
  split
  · rw [hletter]
    rfl
  · rfl

theorem foldl_digitSize (ds : List Char) :
    (ds.map digitSize).foldl (fun n d => 10 * n + d) 0 = digitsValue ds := by
  rw [List.foldl_map]
  rfl

theorem map_asciiForm_integerText (n : Int) :
    (integerText n).toList.map asciiForm = (integerText n).toList := by
  have hself : ∀ c ∈ (integerText n).toList, asciiForm c = id c := by
    intro c hc
    have hbounds := bounds_of_mem_integerText hc
    exact if_pos (by omega)
  rw [List.map_congr_left hself, List.map_id]

/-- The numeral of an integer is a sign or none, and digits. -/
theorem splitSign_integerText (n : Int) :
    splitSign ((integerText n).toList.dropWhile isAsciiSpace) =
      (decide (n < 0), numeral n.natAbs) := by
  rw [toList_integerText]
  cases decide (n < 0) with
  | true =>
    have hsign : isAsciiSpace '-' = false := rfl
    rw [if_pos rfl, List.singleton_append, List.dropWhile_cons_of_neg (by simp [hsign]), splitSign]
  | false =>
    obtain ⟨d, ds, hcons⟩ := List.exists_cons_of_ne_nil (Query.numeral_ne_nil n.natAbs)
    have hd : isDigit d = true :=
      Query.isDigit_of_mem_numeral (n := n.natAbs) (hcons ▸ List.mem_cons_self)
    have hspace : isAsciiSpace d = false := by
      have hbounds := bounds_of_isDigit hd
      have hne := Query.ne_of_isDigit hd ' ' (by decide)
      simp only [isAsciiSpace, Bool.or_eq_false_iff, beq_eq_false_iff_ne, decide_eq_false_iff_not]
      exact ⟨hne, by omega⟩
    rw [if_neg Bool.false_ne_true, List.nil_append, hcons,
      List.dropWhile_cons_of_neg (by simp [hspace]), splitSign]
    · rintro rest heq
      exact Query.ne_of_isDigit hd '-' (by decide) (List.head_eq_of_cons_eq heq)
    · rintro rest heq
      exact Query.ne_of_isDigit hd '+' (by decide) (List.head_eq_of_cons_eq heq)

/-- An integer is read from its numeral, and a numeral that is too long is refused. -/
theorem readInteger_integerText (n : Int) :
    readInteger 10 (integerText n).toList =
      if (numeral n.natAbs).length ≤ digitLimit then .ok n
      else .error (.tooLong (numeral n.natAbs).length) := by
  have hdigits : ∀ d ∈ numeral n.natAbs, isDigit d = true := fun _ => Query.isDigit_of_mem_numeral
  have hrun : (numeral n.natAbs).takeWhile (fun c => c == '_' || (digitIn? 10 c).isSome) =
      numeral n.natAbs := by
    refine List.takeWhile_eq_self_iff.mpr fun d hd => ?_
    rw [digitIn?_of_isDigit (hdigits d hd), Option.isSome_some, Bool.or_true]
  simp only [readInteger, map_asciiForm_integerText, splitSign_integerText, dropBaseMark_ten, hrun,
    groupedDigits?_of_isDigit (Query.numeral_ne_nil _) hdigits, List.length_map, foldl_digitSize,
    Query.digitsValue_numeral, signed_natAbs, List.drop_length, List.all_nil, if_true, true_and]
  by_cases hshort : (numeral n.natAbs).length ≤ digitLimit
  · rw [if_neg (Nat.not_lt.mpr hshort), if_pos hshort]
  · rw [if_pos (Nat.not_le.mp hshort), if_neg hshort]

end QueryAudit.Text
