import QueryAudit.Proofs.Query.Numbering
import QueryAudit.Proofs.Query.Positionals

/-!
# The largest number of a query

The names of a query are numbered after the numbers that its code uses already. Which those are is
told here by places of the text, and the search that the rewriting does finds just these.
-/

namespace QueryAudit

open Query

/-- A numbered placeholder in the code of a text, by the text before its dollar sign. -/
def NumberAt (text before : List Char) (n : Nat) : Prop :=
  ∃ front code back left right, spans text = front ++ ⟨code, true⟩ :: back ∧
    code = left ++ '$' :: right ∧ before = sourceOf front ++ left ∧
    leadingDigits right ≠ [] ∧ n = Text.digitsValue (leadingDigits right)

/-- A number that a query uses: it stands in code and does not follow an identifier. -/
def IsPositional (query : List Char) (n : Nat) : Prop :=
  ∃ before, NumberAt query before n ∧ before.getLast?.any isIdentifierChar = false

/-- The largest number that a query uses, and 0 when it uses none. -/
structure IsHighest (query : List Char) (highest : Nat) : Prop where
  /-- The number is used, unless it is 0. -/
  used : highest = 0 ∨ IsPositional query highest
  /-- No number is larger. -/
  largest : ∀ n, IsPositional query n → n ≤ highest

namespace Query

/-! ## The search through code -/

/-- The digits of the numbered placeholders of spans, given the character before them. -/
def positionalsAfter (before : Option Char) (cut : List Span) : List (List Char) :=
  (codeAfter before cut).flatMap fun (before, code) =>
    positionalDigits (before.any isIdentifierChar) code

theorem positionalsAfter_skipped (before : Option Char) (text : List Char) (rest : List Span) :
    positionalsAfter before (⟨text, false⟩ :: rest) =
      positionalsAfter (text.getLast?.or before) rest := rfl

theorem positionalsAfter_code (before : Option Char) (code : List Char) (rest : List Span) :
    positionalsAfter before (⟨code, true⟩ :: rest) =
      positionalDigits (before.any isIdentifierChar) code ++
        positionalsAfter (code.getLast?.or before) rest := rfl

/-- A place in a list is its first place or one behind it. -/
theorem exists_split_cons {α : Type} {first x : α} {rest : List α} {P : List α → List α → Prop} :
    (∃ left right, first :: rest = left ++ x :: right ∧ P left right) ↔
      first = x ∧ P [] rest ∨
        ∃ left right, rest = left ++ x :: right ∧ P (first :: left) right := by
  constructor
  · rintro ⟨left, right, heq, h⟩
    rcases List.cons_eq_append_iff.mp heq with ⟨rfl, hright⟩ | ⟨left, rfl, hrest⟩
    · obtain ⟨rfl, rfl⟩ := List.cons.inj hright
      exact Or.inl ⟨rfl, h⟩
    · exact Or.inr ⟨left, right, hrest, h⟩
  · rintro (⟨rfl, h⟩ | ⟨left, right, rfl, h⟩)
    · exact ⟨[], rest, rfl, h⟩
    · exact ⟨first :: left, right, rfl, h⟩

/-- The last character behind a first one is the last of the rest, or the first one. -/
theorem getLast?_cons_or_some (c : Char) (text : List Char) (previous : Option Char) :
    (c :: text).getLast?.or previous = text.getLast?.or (some c) := by
  rw [List.getLast?_cons]
  cases text.getLast? <;> rfl

/-- The search finds the digits behind every dollar sign that does not follow an identifier. -/
theorem mem_positionalDigits_iff {previous : Option Char} {code digits : List Char} :
    digits ∈ positionalDigits (previous.any isIdentifierChar) code ↔
      ∃ left right, code = left ++ '$' :: right ∧ digits = leadingDigits right ∧ digits ≠ [] ∧
        (left.getLast?.or previous).any isIdentifierChar = false := by
  induction code generalizing previous with
  | nil => simp [positionalDigits]
  | cons c rest ih =>
    have hrest := @ih (some c)
    rw [Option.any_some] at hrest
    rw [exists_split_cons]
    simp only [getLast?_cons_or_some, List.getLast?_nil, Option.none_or]
    rw [← hrest]
    by_cases hc : c = '$'
    · subst hc
      rw [positionalDigits_dollar, List.mem_append]
      refine or_congr_left ?_
      cases previous.any isIdentifierChar <;> grind
    · rw [positionalDigits_cons_of_ne hc]
      simp [hc]

/-- The same for spans. -/
theorem mem_positionalsAfter_iff {previous : Option Char} {cut : List Span} {digits : List Char} :
    digits ∈ positionalsAfter previous cut ↔
      ∃ code front back, cut = front ++ ⟨code, true⟩ :: back ∧
        ∃ left right, code = left ++ '$' :: right ∧ digits = leadingDigits right ∧ digits ≠ [] ∧
          ((sourceOf front ++ left).getLast?.or previous).any isIdentifierChar = false := by
  induction cut generalizing previous with
  | nil => simp [positionalsAfter, codeAfter]
  | cons span rest ih =>
    have hrest := @ih (span.text.getLast?.or previous)
    simp only [exists_split_cons, exists_or, sourceOf_nil, sourceOf_cons, List.getLast?_append,
      Option.or_assoc] at hrest ⊢
    rw [← hrest]
    obtain ⟨text, isCode⟩ := span
    cases isCode with
    | false => simp [positionalsAfter_skipped]
    | true => simp [positionalsAfter_code, mem_positionalDigits_iff]

/-- The numbers that a query uses are those that the search finds. -/
theorem isPositional_iff {query : List Char} {n : Nat} :
    IsPositional query n ↔ n ∈ (positionals (spans query)).map Text.digitsValue := by
  have hsearch : positionals (spans query) = positionalsAfter none (spans query) := rfl
  rw [hsearch, List.mem_map]
  constructor
  · rintro ⟨before, ⟨front, code, back, left, right, hspans, hcode, rfl, hdigits, rfl⟩, hbefore⟩
    refine ⟨leadingDigits right, mem_positionalsAfter_iff.mpr ?_, rfl⟩
    exact ⟨code, front, back, hspans, left, right, hcode, rfl, hdigits, by rwa [Option.or_none]⟩
  · rintro ⟨digits, hmem, rfl⟩
    obtain ⟨code, front, back, hspans, left, right, hcode, rfl, hdigits, hbefore⟩ :=
      mem_positionalsAfter_iff.mp hmem
    rw [Option.or_none] at hbefore
    exact ⟨_, ⟨front, code, back, left, right, hspans, hcode, rfl, hdigits, rfl⟩, hbefore⟩

/-! ## The largest number -/

/-- The largest of some numbers is one of them or the start, and none is larger. -/
theorem foldl_max_spec (numbers : List Nat) (start : Nat) :
    (numbers.foldl max start = start ∨ numbers.foldl max start ∈ numbers) ∧
      start ≤ numbers.foldl max start ∧ ∀ n ∈ numbers, n ≤ numbers.foldl max start := by
  induction numbers generalizing start with
  | nil => simp
  | cons n rest ih =>
    obtain ⟨hone, hstart, hrest⟩ := ih (max start n)
    rw [List.foldl_cons]
    refine ⟨?_, by omega, List.forall_mem_cons.mpr ⟨by omega, hrest⟩⟩
    rcases hone with heq | hmem
    · rw [heq]
      rcases Nat.le_total n start with hle | hle
      · exact Or.inl (Nat.max_eq_left hle)
      · exact Or.inr (by rw [Nat.max_eq_right hle]; exact List.mem_cons_self)
    · exact Or.inr (List.mem_cons_of_mem _ hmem)

/-- Names are numbered after the largest number that the query uses. -/
theorem isHighest_highestOf (query : List Char) : IsHighest query (highestOf (spans query)) := by
  obtain ⟨hone, _, hlargest⟩ := foldl_max_spec ((positionals (spans query)).map Text.digitsValue) 0
  exact ⟨hone.imp_right isPositional_iff.mpr, fun n hn => hlargest n (isPositional_iff.mp hn)⟩

end Query

end QueryAudit
