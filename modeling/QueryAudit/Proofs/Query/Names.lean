import QueryAudit.Query.Span
import QueryAudit.Text.Numeral
import Mathlib.Data.List.TakeWhile

/-!
# Names and dollar tags

Placeholders and dollar quotes are both spelled with names. These lemmas say where the longest name
at the start of a text ends, and what the tag of a dollar quote looks like.
-/

namespace QueryAudit.Query

/-- The letters of ASCII lie in two ranges. -/
theorem isAlpha_iff {c : Char} :
    c.isAlpha = true ↔ 65 ≤ c.toNat ∧ c.toNat ≤ 90 ∨ 97 ≤ c.toNat ∧ c.toNat ≤ 122 := by
  change (decide ('A'.val ≤ c.val ∧ c.val ≤ 'Z'.val) ||
    (decide ('a'.val ≤ c.val) && decide (c.val ≤ 'z'.val))) = true ↔ _
  simp only [Bool.or_eq_true, Bool.and_eq_true, decide_eq_true_eq, UInt32.le_iff_toNat_le]
  rfl

theorem isNameChar_of_isNameStart {c : Char} (h : isNameStart c = true) : isNameChar c = true := by
  simp only [isNameStart, Bool.or_eq_true] at h
  simp only [isNameChar, Char.isAlphanum, Bool.or_eq_true]
  exact h.imp_left Or.inl

/-- The characters of a name are ASCII, where an identifier has the same letters and digits. -/
theorem isIdentifierChar_of_isNameChar {c : Char} (h : isNameChar c = true) :
    isIdentifierChar c = true := by
  simp only [isNameChar, Bool.or_eq_true, beq_iff_eq] at h
  rcases h with h | rfl
  · have hascii : c.toNat < 0x80 := by
      simp only [Char.isAlphanum, Char.isDigit, Bool.or_eq_true, isAlpha_iff, Bool.and_eq_true,
        decide_eq_true_eq, UInt32.le_iff_toNat_le] at h
      have hchar : c.toNat = c.val.toNat := rfl
      have hdigit : '9'.val.toNat = 57 := rfl
      omega
    simp [isIdentifierChar, Text.isAlphanumeric, hascii, h]
  · decide

/-- A digit may stand in a name, but no name starts with one. -/
theorem isNameChar_of_isDigit {c : Char} (h : Text.isDigit c = true) : isNameChar c = true := by
  simp only [Text.isDigit, Char.le_def, decide_eq_true_eq] at h
  have hdigit : c.isDigit = true := by
    simp only [Char.isDigit, Bool.and_eq_true, decide_eq_true_eq, ge_iff_le]
    exact h
  simp [isNameChar, Char.isAlphanum, hdigit]

theorem isNameStart_eq_false_of_isDigit {c : Char} (h : Text.isDigit c = true) :
    isNameStart c = false := by
  simp only [Text.isDigit, Char.le_def, decide_eq_true_eq, UInt32.le_iff_toNat_le] at h
  have hnine : '9'.val.toNat = 57 := rfl
  have hchar : c.toNat = c.val.toNat := rfl
  rw [Bool.eq_false_iff]
  intro hstart
  simp only [isNameStart, Bool.or_eq_true, isAlpha_iff, beq_iff_eq] at hstart
  rcases hstart with hletter | rfl
  · omega
  · have hunderscore : '_'.val.toNat = 95 := rfl
    omega

/-- A name: ASCII letters, digits and underscores, of which the first is no digit. -/
def IsName (name : List Char) : Prop :=
  ∃ c rest, name = c :: rest ∧ isNameStart c = true ∧ ∀ d ∈ rest, isNameChar d = true

theorem IsName.ne_nil {name : List Char} (h : IsName name) : name ≠ [] := by
  obtain ⟨c, rest, rfl, _⟩ := h
  simp

theorem IsName.isNameChar {name : List Char} (h : IsName name) :
    ∀ c ∈ name, isNameChar c = true := by
  obtain ⟨c, rest, rfl, hstart, hrest⟩ := h
  intro d hd
  rcases List.mem_cons.mp hd with rfl | hd
  · exact isNameChar_of_isNameStart hstart
  · exact hrest d hd

/-- A text with which no name goes on. -/
def EndsName (rest : List Char) : Prop :=
  ∀ c ∈ rest.head?, isNameChar c = false

theorem EndsName.append {front back : List Char} (hfront : EndsName front) (hback : EndsName back) :
    EndsName (front ++ back) := by
  cases front with
  | nil => exact hback
  | cons => exact hfront

theorem EndsName.isDigit_eq_false {rest : List Char} (h : EndsName rest) :
    ∀ c ∈ rest.head?, Text.isDigit c = false := by
  intro c hc
  rw [Bool.eq_false_iff]
  intro hdigit
  have hname := h c hc
  rw [isNameChar_of_isDigit hdigit] at hname
  cases hname

theorem leadingName_cons (c : Char) (rest : List Char) :
    leadingName (c :: rest) = if isNameStart c then c :: rest.takeWhile isNameChar else [] := rfl

/-- No name starts a text exactly when the first character cannot start one. -/
theorem leadingName_eq_nil_iff {text : List Char} :
    leadingName text = [] ↔ ∀ c ∈ text.head?, isNameStart c = false := by
  cases text with
  | nil => simp [leadingName]
  | cons c rest => simp [leadingName_cons]

/-- A text starts with its longest name. -/
theorem leadingName_append_drop (text : List Char) :
    leadingName text ++ text.drop (leadingName text).length = text := by
  have hprefix : leadingName text <+: text := by
    cases text with
    | nil => exact List.nil_prefix
    | cons c rest =>
      rw [leadingName_cons]
      split
      · exact List.cons_prefix_cons.mpr ⟨rfl, List.takeWhile_prefix _⟩
      · exact List.nil_prefix
  exact List.prefix_iff_eq_append.mp hprefix

/-- The longest name at the start of a text is a name, and the rest does not go on with it. -/
theorem leadingName_spec {text : List Char} (h : leadingName text ≠ []) :
    ∃ rest, text = leadingName text ++ rest ∧ IsName (leadingName text) ∧ EndsName rest := by
  cases text with
  | nil => exact absurd rfl h
  | cons c rest =>
    rw [leadingName_cons] at h ⊢
    split at h
    · rename_i hstart
      rw [if_pos hstart]
      refine ⟨rest.dropWhile isNameChar, ?_, ⟨c, _, rfl, hstart, ?_⟩, ?_⟩
      · rw [List.cons_append, List.takeWhile_append_dropWhile]
      · exact fun d hd => List.mem_takeWhile_imp hd
      · intro d hd
        have hnot := List.head?_dropWhile_not isNameChar rest
        rw [Option.mem_def.mp hd] at hnot
        simpa using hnot
    · exact absurd rfl h

/-- A name is the longest one where the text after it does not go on with it. -/
theorem leadingName_append {name rest : List Char} (hname : IsName name) (hrest : EndsName rest) :
    leadingName (name ++ rest) = name := by
  obtain ⟨c, tail, rfl, hstart, htail⟩ := hname
  have hnone : rest.takeWhile isNameChar = [] := by
    cases rest with
    | nil => rfl
    | cons d rest => exact List.takeWhile_cons_of_neg (by simp [hrest d rfl])
  rw [List.cons_append, leadingName_cons, if_pos hstart, List.takeWhile_append_of_pos htail, hnone,
    List.append_nil]

/-- The tag of a dollar quote is a name or nothing between two dollar signs. -/
theorem dollarTag?_eq_some_iff {rest tag : List Char} :
    dollarTag? rest = some tag ↔ ∃ name back, (name = [] ∨ IsName name) ∧
      rest = name ++ '$' :: back ∧ tag = '$' :: name ++ ['$'] := by
  constructor
  · intro h
    simp only [dollarTag?] at h
    split at h
    · rename_i back hdrop
      refine ⟨leadingName rest, back, ?_, ?_, (Option.some.inj h).symm⟩
      · by_cases hnil : leadingName rest = []
        · exact Or.inl hnil
        · obtain ⟨_, _, hname, _⟩ := leadingName_spec hnil
          exact Or.inr hname
      · rw [← hdrop]
        exact (leadingName_append_drop rest).symm
    · cases h
  · rintro ⟨name, back, hname, rfl, rfl⟩
    have hends : EndsName ('$' :: back) := by
      intro c hc
      cases hc
      decide
    have hleading : leadingName (name ++ '$' :: back) = name := by
      rcases hname with rfl | hname
      · rfl
      · exact leadingName_append hname hends
    simp [dollarTag?, hleading]

end QueryAudit.Query
