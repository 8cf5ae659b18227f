import QueryAudit.Proofs.Query.Names
import QueryAudit.Query.Placeholder
import Mathlib.Algebra.Group.Nat.Defs
import Mathlib.Data.List.Induction

/-!
# Numbered placeholders

The search for the numbered placeholders of code jumps over the digits of each. Told one character
at a time it has no jump, which is the form for induction. Numerals themselves are written and read
with as many digits as they need.
-/

namespace QueryAudit.Query

/-! ## Digits and numerals -/

theorem isIdentifierChar_of_isDigit {c : Char} (h : Text.isDigit c = true) :
    isIdentifierChar c = true :=
  isIdentifierChar_of_isNameChar (isNameChar_of_isDigit h)

/-- A digit is no sign that the search or the lexer looks for. -/
theorem ne_of_isDigit {c : Char} (h : Text.isDigit c = true) (sign : Char)
    (hsign : Text.isDigit sign = false) : c ≠ sign := by
  rintro rfl
  simp [h] at hsign

theorem isDigit_of_mem_numeral {n : Nat} {c : Char} (h : c ∈ Text.numeral n) :
    Text.isDigit c = true := by
  have hdigit := Nat.isDigit_of_mem_toDigits (by omega) (by omega) h
  simp only [Char.isDigit, Bool.and_eq_true, decide_eq_true_eq, ge_iff_le] at hdigit
  simpa only [Text.isDigit, Char.le_def, decide_eq_true_eq] using hdigit

theorem numeral_ne_nil (n : Nat) : Text.numeral n ≠ [] :=
  Nat.toDigits_ne_nil

theorem numeralBound_eq : Text.numeralBound = 10 ^ Text.digitLimit := by
  unfold Text.numeralBound
  -- The power is not to be computed.
  generalize Text.digitLimit = k
  rfl

theorem length_numeral_le_iff {n k : Nat} (hk : 0 < k) :
    (Text.numeral n).length ≤ k ↔ n < 10 ^ k :=
  Nat.length_toDigits_le_iff (by omega) hk

/-- Reading a numeral gives back the number. -/
theorem digitsValue_numeral (n : Nat) : Text.digitsValue (Text.numeral n) = n :=
  Nat.ofDigitChars_ten_toDigits

/-- A run of digits is less than the power of ten with as many zeros. -/
theorem digitsValue_lt {digits : List Char} (h : ∀ d ∈ digits, Text.isDigit d = true) :
    Text.digitsValue digits < 10 ^ digits.length := by
  induction digits using List.reverseRecOn with
  | nil => decide
  | append_singleton digits d ih =>
    have hrest := ih fun c hc => h c (List.mem_append_left _ hc)
    have hd : d.toNat - '0'.toNat ≤ 9 := by
      have hdigit := h d (by simp)
      simp only [Text.isDigit, Char.le_def, decide_eq_true_eq, UInt32.le_iff_toNat_le] at hdigit
      have hnine : '9'.val.toNat = 57 := rfl
      have hzero : '0'.toNat = 48 := rfl
      have hchar : d.toNat = d.val.toNat := rfl
      omega
    rw [Text.digitsValue, List.foldl_append, List.foldl_cons, List.foldl_nil,
      ← Text.digitsValue, List.length_append, List.length_singleton, Nat.pow_succ]
    omega

/-- The digits at the start of a text. -/
def leadingDigits (text : List Char) : List Char :=
  text.takeWhile Text.isDigit

theorem isDigit_of_mem_leadingDigits {text : List Char} {d : Char} (h : d ∈ leadingDigits text) :
    Text.isDigit d = true :=
  List.mem_takeWhile_imp h

theorem leadingDigits_append {digits rest : List Char}
    (hdigits : ∀ d ∈ digits, Text.isDigit d = true)
    (hrest : ∀ c ∈ rest.head?, Text.isDigit c = false) :
    leadingDigits (digits ++ rest) = digits := by
  have hnone : rest.takeWhile Text.isDigit = [] := by
    cases rest with
    | nil => rfl
    | cons c rest => exact List.takeWhile_cons_of_neg (by simp [hrest c rfl])
  rw [leadingDigits, List.takeWhile_append_of_pos hdigits, hnone, List.append_nil]

theorem leadingDigits_eq_nil {text : List Char} (h : EndsName text) : leadingDigits text = [] := by
  have hempty : ∀ d ∈ [], Text.isDigit d = true := by simp
  exact leadingDigits_append hempty h.isDigit_eq_false

/-- A text starts with its digits, and no digit follows them. -/
theorem leadingDigits_spec (text : List Char) :
    ∃ rest, text = leadingDigits text ++ rest ∧ ∀ c ∈ rest.head?, Text.isDigit c = false := by
  refine ⟨text.dropWhile Text.isDigit, List.takeWhile_append_dropWhile.symm, fun c hc => ?_⟩
  have hnot := List.head?_dropWhile_not Text.isDigit text
  rw [Option.mem_def.mp hc] at hnot
  simpa using hnot

/-- Digits do not go on behind a text with which no name goes on. -/
theorem leadingDigits_append_right (text : List Char) {after : List Char} (h : EndsName after) :
    leadingDigits (text ++ after) = leadingDigits text := by
  induction text with
  | nil => rw [List.nil_append, leadingDigits_eq_nil h]; rfl
  | cons c rest ih =>
    rw [List.cons_append, leadingDigits, leadingDigits, List.takeWhile_cons, List.takeWhile_cons,
      ← leadingDigits, ← leadingDigits, ih]

/-! ## One character at a time -/

/-- No placeholder starts at a character that is no dollar sign. -/
theorem positionalDigits_cons_of_ne {afterIdentifier : Bool} {c : Char} {rest : List Char}
    (h : c ≠ '$') :
    positionalDigits afterIdentifier (c :: rest) =
      positionalDigits (isIdentifierChar c) rest := by
  rw [positionalDigits]
  simp [h]

/-- Nor does one start inside a name or digits, after which an identifier has ended. -/
theorem positionalDigits_run {run rest : List Char} (h : ∀ c ∈ run, isNameChar c = true) :
    positionalDigits true (run ++ rest) = positionalDigits true rest := by
  induction run with
  | nil => rfl
  | cons c run ih =>
    have hc := h c List.mem_cons_self
    have hne : c ≠ '$' := by
      rintro rfl
      exact absurd hc (by decide)
    rw [List.cons_append, positionalDigits_cons_of_ne hne, isIdentifierChar_of_isNameChar hc,
      ih fun d hd => h d (List.mem_cons_of_mem _ hd)]

/-- At a dollar sign the digits after it count when there are any and no identifier ends before. -/
theorem positionalDigits_dollar (afterIdentifier : Bool) (rest : List Char) :
    positionalDigits afterIdentifier ('$' :: rest) =
      (if afterIdentifier || (leadingDigits rest).isEmpty then [] else [leadingDigits rest]) ++
        positionalDigits true rest := by
  obtain ⟨tail, hrest, _⟩ := leadingDigits_spec rest
  have hjump : positionalDigits true rest = positionalDigits true tail := by
    conv => lhs; rw [hrest]
    exact positionalDigits_run fun _ hd => isNameChar_of_isDigit (isDigit_of_mem_leadingDigits hd)
  have hdrop : rest.drop (leadingDigits rest).length = tail := by
    conv => lhs; arg 2; rw [hrest]
    exact List.drop_left
  rw [positionalDigits]
  change (if _ && !(leadingDigits rest).isEmpty then
    (let next := positionalDigits true (rest.drop (leadingDigits rest).length)
    if afterIdentifier then next else leadingDigits rest :: next) else _) = _
  rw [hdrop, hjump]
  cases (leadingDigits rest).isEmpty <;> cases afterIdentifier <;> simp [hjump, isIdentifierChar]

/-- A named placeholder is passed over. -/
theorem positionalDigits_name (afterIdentifier : Bool) {name rest : List Char} (h : IsName name) :
    positionalDigits afterIdentifier ('@' :: name ++ rest) = positionalDigits true rest := by
  have hchars := h.isNameChar
  obtain ⟨c, tail, rfl, _, _⟩ := h
  have hc := hchars c List.mem_cons_self
  have hne : c ≠ '$' := by
    rintro rfl
    exact absurd hc (by decide)
  rw [List.cons_append, List.cons_append, positionalDigits_cons_of_ne (by decide),
    positionalDigits_cons_of_ne hne, isIdentifierChar_of_isNameChar hc,
    positionalDigits_run fun d hd => hchars d (List.mem_cons_of_mem _ hd)]

/-- Every numbered placeholder has digits and nothing else. -/
theorem isDigit_of_mem_positionalDigits {afterIdentifier : Bool} {code digits : List Char}
    (h : digits ∈ positionalDigits afterIdentifier code) :
    ∀ d ∈ digits, Text.isDigit d = true := by
  induction code generalizing afterIdentifier with
  | nil => simp [positionalDigits] at h
  | cons c rest ih =>
    by_cases hc : c = '$'
    · subst hc
      rw [positionalDigits_dollar, List.mem_append] at h
      rcases h with hhere | hlater
      · split at hhere
        · cases hhere
        · obtain rfl := List.mem_singleton.mp hhere
          exact fun _ => isDigit_of_mem_leadingDigits
      · exact ih hlater
    · rw [positionalDigits_cons_of_ne hc] at h
      exact ih h

end QueryAudit.Query
