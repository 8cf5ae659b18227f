import QueryAudit.Proofs.Entries
import QueryAudit.Proofs.Query.Pieces

/-!
# The numbers of names

Rewriting knows a name by its lower case and keeps the first spelling. These lemmas say which number
a name gets, that the rewritten query finds it again under every spelling, and which queries are
refused because a numeral would be too long.
-/

namespace QueryAudit.Query

/-! ## One entry for each name -/

/-- The key of an entry is the lower case of its name. -/
theorem key_of_mem_distinctNames {names : List (List Char)} {entry : List Char × List Char}
    (h : entry ∈ distinctNames names) : entry.1 = Text.lower entry.2 := by
  obtain ⟨name, _, rfl⟩ := List.mem_map.mp (Entries.mem_of_mem_firsts h)
  rfl

/-- Every name has an entry. -/
theorem exists_mem_distinctNames {names : List (List Char)} {name : List Char} (h : name ∈ names) :
    ∃ entry ∈ distinctNames names, entry.1 = Text.lower name := by
  have hkey : Text.lower name ∈ (distinctNames names).keys :=
    Entries.mem_keys_firsts.mpr (by simpa using ⟨name, h, rfl⟩)
  exact List.mem_map.mp hkey

/-- The names of the placeholders of a query, one entry for each. -/
def namesOf (cut : List Span) : Entries (List Char) (List Char) :=
  distinctNames (placeholderNames (cut.flatMap Span.pieces))

/-- Every placeholder has an entry. -/
theorem exists_mem_namesOf {cut : List Span} {name : List Char}
    (h : .placeholder name ∈ cut.flatMap Span.pieces) :
    ∃ entry ∈ namesOf cut, entry.1 = Text.lower name :=
  exists_mem_distinctNames (List.mem_filterMap.mpr ⟨.placeholder name, h, rfl⟩)

/-- The last number goes to the last name. -/
theorem numberOf_le {highest : Nat} {cut : List Span} {name : List Char}
    (h : .placeholder name ∈ cut.flatMap Span.pieces) :
    numberOf highest (namesOf cut) name ≤ highest + (namesOf cut).length := by
  obtain ⟨entry, hentry, hkey⟩ := exists_mem_namesOf h
  have hlt : (namesOf cut).findIdx (fun entry => entry.1 == Text.lower name) <
      (namesOf cut).length :=
    List.findIdx_lt_length_of_exists ⟨entry, hentry, beq_iff_eq.mpr hkey⟩
  rw [numberOf]
  omega

/-! ## Finding a number again -/

/-- Entries that are numbered in order are found by their key under the number of their place. -/
theorem find?_numbered {entries : Entries (List Char) (List Char)} {key : List Char} {start : Nat}
    (hkeys : ∀ entry ∈ entries, entry.1 = Text.lower entry.2)
    (hfound : ∃ entry ∈ entries, entry.1 = key) :
    ((((entries.zipIdx start).map fun (entry, position) => (position, String.ofList entry.2)).find?
      fun entry => Text.lower entry.2.toList == key).map Prod.fst) =
      some (start + entries.findIdx fun entry => entry.1 == key) := by
  induction entries generalizing start with
  | nil => simp at hfound
  | cons entry rest ih =>
    have hkey := hkeys entry List.mem_cons_self
    rw [List.zipIdx_cons, List.map_cons, List.find?_cons, List.findIdx_cons]
    simp only [String.toList_ofList, ← hkey]
    cases hsame : entry.1 == key with
    | true => rfl
    | false =>
      obtain ⟨other, hother, hotherKey⟩ := hfound
      have hrest : other ∈ rest := by
        rcases List.mem_cons.mp hother with rfl | hrest
        · simp [hotherKey] at hsame
        · exact hrest
      rw [ih (fun e he => hkeys e (List.mem_cons_of_mem _ he)) ⟨other, hrest, hotherKey⟩]
      simp only [cond_false, Option.some.injEq]
      omega

/-- Rewriting finds the number of every placeholder under the name spelled there. -/
theorem positionOf?_rewriteAfter {highest : Nat} {cut : List Span} {name : List Char}
    (h : .placeholder name ∈ cut.flatMap Span.pieces) :
    (rewriteAfter highest cut).positionOf? (String.ofList name) =
      some (numberOf highest (namesOf cut) name) := by
  have hname : IsName name := (cuts_iff.mpr rfl).isName_of_mem h
  have hplain : name.dropWhile (· == '@') = name := by
    obtain ⟨c, rest, rfl, hstart, _⟩ := hname
    refine List.dropWhile_cons_of_neg ?_
    rw [beq_iff_eq]
    rintro rfl
    exact absurd hstart (by decide)
  simp only [Rewritten.positionOf?, String.toList_ofList, hplain, rewriteAfter, numberOf]
  exact find?_numbered (fun _ => key_of_mem_distinctNames) (exists_mem_namesOf h)

/-! ## What is refused -/

/-- The largest number among the positional placeholders, however long its numeral. -/
def highestOf (cut : List Span) : Nat :=
  ((positionals cut).map Text.digitsValue).foldl max 0

/-- A query with a numeral that is too long, or with names of which the last would get one. -/
def Overlong (query : List Char) : Prop :=
  (∃ digits ∈ positionals (spans query), Text.digitLimit < digits.length) ∨
    Text.numeralBound ≤ highestOf (spans query) + (namesOf (spans query)).length

/-- Numerals are read one by one until one is too long. -/
theorem mapM_readDigits (numerals : List (List Char)) :
    (∀ digits ∈ numerals, digits.length ≤ Text.digitLimit) ∧
        numerals.mapM Text.readDigits = .ok (numerals.map Text.digitsValue) ∨
      (∃ digits ∈ numerals, Text.digitLimit < digits.length) ∧
        ∃ error, numerals.mapM Text.readDigits = .error error := by
  induction numerals with
  | nil => exact Or.inl ⟨by simp, rfl⟩
  | cons digits rest ih =>
    rw [List.mapM_cons]
    by_cases hlength : digits.length ≤ Text.digitLimit
    · have hread : Text.readDigits digits = .ok (Text.digitsValue digits) := if_pos hlength
      rcases ih with ⟨hshort, hrest⟩ | ⟨⟨long, hmem, hlong⟩, error, hrest⟩
      · refine Or.inl ⟨by simpa [hlength] using hshort, ?_⟩
        rw [hread, hrest]
        rfl
      · refine Or.inr ⟨⟨long, List.mem_cons_of_mem _ hmem, hlong⟩, error, ?_⟩
        rw [hread, hrest]
        rfl
    · have hread : Text.readDigits digits = .error (.tooLong digits.length) := if_neg hlength
      refine Or.inr ⟨⟨digits, List.mem_cons_self, by omega⟩, .tooLong digits.length, ?_⟩
      rw [hread]
      rfl

theorem length_names_rewriteAfter (highest : Nat) (cut : List Span) :
    (rewriteAfter highest cut).names.length = (namesOf cut).length := by
  simp [rewriteAfter, namesOf]

/-- A query without a numeral that is too long is rewritten. -/
theorem rewrite_of_not_overlong {query : List Char} (h : ¬ Overlong query) :
    rewrite query = .ok (rewriteAfter (highestOf (spans query)) (spans query)) := by
  rw [Overlong, not_or, Nat.not_le, ← length_names_rewriteAfter (highestOf (spans query))] at h
  rcases mapM_readDigits (positionals (spans query)) with ⟨_, hread⟩ | ⟨hlong, _⟩
  · have hhighest : highestPosition (spans query) = .ok (highestOf (spans query)) := by
      rw [highestPosition, hread]
      rfl
    simp only [rewrite, hhighest, bind, Except.bind]
    rw [if_pos h.2]
    rfl
  · exact absurd hlong h.1

/-- A query with a numeral that is too long is refused. -/
theorem rewrite_of_overlong {query : List Char} (h : Overlong query) :
    ∃ error, rewrite query = .error error := by
  rcases mapM_readDigits (positionals (spans query)) with ⟨hshort, hread⟩ | ⟨_, error, hread⟩
  · have hhighest : highestPosition (spans query) = .ok (highestOf (spans query)) := by
      rw [highestPosition, hread]
      rfl
    refine ⟨.tooLarge, ?_⟩
    simp only [rewrite, hhighest, bind, Except.bind, length_names_rewriteAfter]
    rcases h with ⟨digits, hmem, hlong⟩ | hlarge
    · exact absurd (hshort digits hmem) (Nat.not_le.mpr hlong)
    · rw [if_neg (Nat.not_lt.mpr hlarge)]
      rfl
  · refine ⟨error, ?_⟩
    have hhighest : highestPosition (spans query) = .error error := by
      rw [highestPosition, hread]
      rfl
    simp only [rewrite, hhighest]
    rfl

/-- Rewriting succeeds for all other queries, and this is its result. -/
theorem rewrite_eq_ok_iff {query : List Char} {rewritten : Rewritten} :
    rewrite query = .ok rewritten ↔
      ¬ Overlong query ∧ rewritten = rewriteAfter (highestOf (spans query)) (spans query) := by
  constructor
  · intro h
    by_cases hlong : Overlong query
    · obtain ⟨error, herror⟩ := rewrite_of_overlong hlong
      rw [h] at herror
      cases herror
    · rw [rewrite_of_not_overlong hlong] at h
      exact ⟨hlong, (Except.ok.inj h).symm⟩
  · rintro ⟨hlong, rfl⟩
    exact rewrite_of_not_overlong hlong

end QueryAudit.Query
