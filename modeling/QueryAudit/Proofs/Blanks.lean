import QueryAudit.Text.Blank
import Mathlib.Data.List.DropRight

/-!
# Tidy texts

A text is tidy when it consists of words with a single space between two of them. Trimming and
collapsing blanks makes every text tidy in which something is not a blank, and leaves tidy texts
alone.
-/

namespace QueryAudit.Text

/-! ## The blanks -/

/-- The code points of blanks. -/
def blankCodes : List Nat :=
  [0x09, 0x0A, 0x0B, 0x0C, 0x0D, 0x1C, 0x1D, 0x1E, 0x1F, 0x20, 0x85, 0xA0, 0x1680, 0x2000, 0x2001,
    0x2002, 0x2003, 0x2004, 0x2005, 0x2006, 0x2007, 0x2008, 0x2009, 0x200A, 0x2028, 0x2029, 0x202F,
    0x205F, 0x3000]

theorem mem_of_bounds {codes : List Nat} {first last n : Nat}
    (hall : ∀ k < last + 1 - first, first + k ∈ codes) (h : first ≤ n ∧ n ≤ last) : n ∈ codes := by
  have hn := hall (n - first) (by omega)
  rwa [Nat.add_sub_cancel' h.1] at hn

/-- There are no other blanks. -/
theorem toNat_mem_blankCodes {c : Char} (h : isBlank c = true) : c.toNat ∈ blankCodes := by
  simp only [isBlank, isWhiteSpace, Bool.or_eq_true, decide_eq_true_eq, beq_iff_eq] at h
  generalize c.toNat = n at h
  rcases h with ((((((((((h | rfl) | rfl) | rfl) | rfl) | h) | rfl) | rfl) | rfl) | rfl) | rfl) | h
  -- Three of the classes are ranges.
  any_goals exact mem_of_bounds (by decide) h
  all_goals decide

/-! ## Words with single spaces between them -/

/-- Words without blanks, with a single space between two of them. -/
inductive Tidy : List Char → Prop where
  /-- A word of one character. -/
  | single {c : Char} (hc : isBlank c = false) : Tidy [c]
  /-- The first word may be longer. -/
  | cons {c : Char} {rest : List Char} (hc : isBlank c = false) (hrest : Tidy rest) :
    Tidy (c :: rest)
  /-- A space sets words apart. -/
  | space {c : Char} {rest : List Char} (hc : isBlank c = false) (hrest : Tidy rest) :
    Tidy (c :: ' ' :: rest)

/-- A tidy text starts with a word. -/
theorem Tidy.exists_cons {text : List Char} (h : Tidy text) :
    ∃ c rest, text = c :: rest ∧ isBlank c = false := by
  cases h with
  | single hc => exact ⟨_, _, rfl, hc⟩
  | cons hc _ => exact ⟨_, _, rfl, hc⟩
  | space hc _ => exact ⟨_, _, rfl, hc⟩

/-- A tidy text ends with a word. -/
theorem Tidy.exists_append {text : List Char} (h : Tidy text) :
    ∃ start c, text = start ++ [c] ∧ isBlank c = false := by
  induction h with
  | single hc => exact ⟨[], _, rfl, hc⟩
  | @cons first _ _ _ ih =>
    obtain ⟨start, c, rfl, hc⟩ := ih
    exact ⟨first :: start, c, rfl, hc⟩
  | @space first _ _ _ ih =>
    obtain ⟨start, c, rfl, hc⟩ := ih
    exact ⟨first :: ' ' :: start, c, rfl, hc⟩

/-- What may follow the last character of a word may follow the whole word. -/
theorem tidy_append {word rest : List Char} (hne : word ≠ [])
    (hword : ∀ c ∈ word, isBlank c = false)
    (h : ∀ c, isBlank c = false → Tidy (c :: rest)) : Tidy (word ++ rest) := by
  induction word with
  | nil => exact absurd rfl hne
  | cons c others ih =>
    obtain ⟨hc, hothers⟩ := List.forall_mem_cons.mp hword
    cases hnil : others with
    | nil => exact h c hc
    | cons d _ =>
      rw [← hnil]
      exact .cons hc (ih (by simp [hnil]) hothers)

theorem Tidy.head?_any_isBlank {text : List Char} (h : Tidy text) :
    text.head?.any isBlank = false := by
  obtain ⟨c, rest, rfl, hc⟩ := h.exists_cons
  exact hc

/-- Single spaces are what runs of blanks are replaced by. -/
theorem Tidy.collapseBlanks_eq {text : List Char} (h : Tidy text) : collapseBlanks text = text := by
  induction h with
  | single hc => simp [collapseBlanks, hc]
  | cons hc _ ih => simp [collapseBlanks, hc, ih]
  | space hc hrest ih =>
    have hspace : isBlank ' ' = true := by decide
    simp [collapseBlanks, hc, hspace, hrest.head?_any_isBlank, ih]

/-! ## Making texts tidy -/

/-- A text whose last character is not a blank is collapsed to a tidy one, with a space before it
when the text starts with blanks. -/
theorem tidy_collapseBlanks {text : List Char} (hlast : ∀ c ∈ text.getLast?, isBlank c = false)
    (hne : text ≠ []) :
    (text.head?.any isBlank = false → Tidy (collapseBlanks text)) ∧
      (text.head?.any isBlank = true → ∃ rest, collapseBlanks text = ' ' :: rest ∧ Tidy rest) := by
  induction text with
  | nil => exact absurd rfl hne
  | cons c rest ih =>
    cases hrest : rest with
    | nil =>
      have hc : isBlank c = false := hlast c (by simp [hrest])
      simpa [collapseBlanks, hc] using Tidy.single hc
    | cons d others =>
      rw [← hrest]
      have hnonempty : rest ≠ [] := by simp [hrest]
      obtain ⟨hword, hblanks⟩ :=
        ih (fun e he => hlast e (by rwa [List.getLast?_cons_of_ne_nil hnonempty])) hnonempty
      rw [List.head?_cons, Option.any_some, collapseBlanks]
      constructor
      · intro hc
        rw [hc, if_neg Bool.false_ne_true]
        cases hhead : rest.head?.any isBlank with
        | false => exact .cons hc (hword hhead)
        | true =>
          obtain ⟨words, hwords, htidy⟩ := hblanks hhead
          rw [hwords]
          exact .space hc htidy
      · intro hc
        rw [if_pos hc]
        cases hhead : rest.head?.any isBlank with
        | false => exact ⟨_, if_neg Bool.false_ne_true, hword hhead⟩
        | true => simpa using hblanks hhead

/-- After trimming, no blank stands at an end. -/
theorem ends_trim (text : List Char) :
    (trim text).head?.any isBlank = false ∧ ∀ c ∈ (trim text).getLast?, isBlank c = false := by
  have hfirst {s : List Char} {c : Char} (hc : (s.dropWhile isBlank).head? = some c) :
      isBlank c = false := by
    simpa [hc] using List.head?_dropWhile_not isBlank s
  constructor
  · -- Cutting off the back leaves the start as it is, unless nothing is left.
    have hprefix : trim text <+: text.dropWhile isBlank := List.rdropWhile_prefix _ _
    cases htrim : trim text with
    | nil => rfl
    | cons c rest =>
      obtain ⟨back, hback⟩ := hprefix
      rw [htrim, List.cons_append] at hback
      exact hfirst (by rw [← hback, List.head?_cons])
  · intro c hc
    rw [trim, trimBy, List.getLast?_reverse] at hc
    exact hfirst hc

/-- Trimming only takes away. -/
theorem trim_sublist (text : List Char) : (trim text).Sublist text :=
  (List.rdropWhile_prefix isBlank _).sublist.trans (List.dropWhile_sublist isBlank)

/-- Trimming leaves a text alone exactly when no blank stands at an end. -/
theorem trim_eq_self_iff {text : List Char} :
    trim text = text ↔
      text.head?.any isBlank = false ∧ ∀ c ∈ text.getLast?, isBlank c = false := by
  constructor
  · intro h
    have hends := ends_trim text
    rwa [h] at hends
  · rintro ⟨hhead, hlast⟩
    have hdrop {s : List Char} (hs : ∀ c ∈ s.head?, isBlank c = false) :
        s.dropWhile isBlank = s := by
      cases s with
      | nil => rfl
      | cons c rest => exact List.dropWhile_cons_of_neg (by simp [hs c rfl])
    have hfront : text.dropWhile isBlank = text := hdrop fun c hc => by
      rwa [Option.mem_def.mp hc] at hhead
    have hback : text.reverse.dropWhile isBlank = text.reverse := hdrop fun c hc =>
      hlast c (by rwa [List.head?_reverse] at hc)
    rw [trim, trimBy, hfront, hback, List.reverse_reverse]

/-- Nothing is to be trimmed where a word stands at both ends. -/
theorem Tidy.trim_eq {text : List Char} (h : Tidy text) : trim text = text := by
  obtain ⟨start, c, rfl, hc⟩ := h.exists_append
  refine trim_eq_self_iff.mpr ⟨h.head?_any_isBlank, ?_⟩
  rw [List.getLast?_concat]
  rintro d ⟨⟩
  exact hc

theorem trim_trim (text : List Char) : trim (trim text) = trim text :=
  trim_eq_self_iff.mpr (ends_trim text)

/-- Every text is tidy once it is trimmed and its blanks are collapsed, or nothing of it is left. -/
theorem tidy_collapseBlanks_trim (text : List Char) :
    collapseBlanks (trim text) = [] ∨ Tidy (collapseBlanks (trim text)) := by
  obtain ⟨hhead, hlast⟩ := ends_trim text
  cases htrim : trim text with
  | nil => exact Or.inl rfl
  | cons c rest =>
    rw [← htrim]
    exact Or.inr ((tidy_collapseBlanks hlast (by simp [htrim])).1 hhead)

end QueryAudit.Text
