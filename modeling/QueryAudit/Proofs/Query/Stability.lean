import QueryAudit.Proofs.Query.Highest
import QueryAudit.Proofs.Query.Rereading
import Mathlib.Data.List.Forall2

/-!
# When rewriting is stable

Rewriting a rewritten query should change nothing, and the text that the query skips should still be
skipped. This holds exactly when the literals right behind placeholders `@e` end where they end
without escapes. Elsewhere text moves between literals and code when the query is rewritten.
-/

namespace QueryAudit.Query

variable {highest : Nat} {names : Entries (List Char) (List Char)}

/-! ## The literals are kept where the spans are -/

/-- Behind a placeholder that is a number now, a literal ends where it ends without escapes. -/
theorem quotedLength_of_numbered {before code literal : List Char} {back : List Span}
    (hname : IsEscapeName (codePieces false code).getLast?)
    (h : Lexes before ((⟨code, true⟩ :: ⟨'\'' :: literal, false⟩ :: back).map
      (Span.numbered highest names))) :
    quotedLength '\'' false (literal ++ sourceOf (back.map (Span.numbered highest names))) =
      literal.length := by
  obtain ⟨name, hlast⟩ : ∃ name, (codePieces false code).getLast? = some (.placeholder name) := by
    rcases hname with hlast | hlast <;> exact ⟨_, hlast⟩
  obtain ⟨front, hpieces⟩ := List.getLast?_eq_some_iff.mp hlast
  have hclosed : opensEscapes
      ((numberedText highest names (codePieces false code)).reverse ++ before) = false := by
    rw [hpieces, numberedText, List.flatMap_append, List.reverse_append, List.append_assoc]
    simpa [Piece.numbered] using opensEscapes_numeral (numberOf highest names name) _
  rw [List.map_cons, List.map_cons, Span.numbered_skipped, Span.numbered_code,
    ← List.singleton_append] at h
  have hskip := h.append_right.skippedAfter?_eq
  rw [sourceOf_cons, sourceOf_nil, List.append_nil, skippedAfter?_quote, hclosed] at hskip
  exact Option.some.inj hskip

/-- Numbered spans that cut their text rightly keep the literals behind `@e`. -/
theorem literalsKept_of_numbered {before before' : List Char} {cut : List Span}
    (h : Lexes before cut) (h' : Lexes before' (cut.map (Span.numbered highest names))) :
    LiteralsKept cut := by
  rintro front code _ rfl hname literal back rfl
  rw [List.map_append] at h'
  have hlength := quotedLength_of_numbered hname h'.append_right
  have hspans : Lexes before
      ((front ++ [⟨code, true⟩, ⟨'\'' :: literal, false⟩]) ++ back) := by simpa using h
  have hsign := hspans.append_right.frontSign_numbered highest names
  exact quotedLength_replace (eq_nil_of_frontSign hsign.symm)
    (head?_of_frontSign hsign (by decide) (by decide)) hlength

/-! ## Nothing is left to rewrite -/

theorem sourceOf_numbered (cut : List Span) :
    sourceOf (cut.map (Span.numbered highest names)) =
      numberedText highest names (cut.flatMap Span.pieces) := by
  induction cut with
  | nil => rfl
  | cons span rest ih =>
    rw [List.map_cons, sourceOf_cons, ih, List.flatMap_cons, numberedText, numberedText,
      List.flatMap_append]
    rfl

/-- Numbered spans have no placeholder. -/
theorem not_mem_pieces_numbered {cut : List Span} {name : List Char} :
    .placeholder name ∉ (cut.map (Span.numbered highest names)).flatMap Span.pieces := by
  intro hmem
  obtain ⟨_, hspan, hpiece⟩ := List.mem_flatMap.mp hmem
  obtain ⟨⟨text, isCode⟩, _, rfl⟩ := List.mem_map.mp hspan
  cases isCode with
  | false => simp [Span.pieces] at hpiece
  | true =>
    have hscan : Scans none text (codePieces false text) := scans_codePieces none text
    obtain ⟨pieces, hnumbered, hnone⟩ :=
      hscan.scans_numberedText highest names rfl
    rw [Span.numbered_code] at hpiece
    change _ ∈ codePieces false _ at hpiece
    have heq := hnumbered.eq_codePieces
    rw [Option.any_none] at heq
    rw [← heq] at hpiece
    exact hnone name hpiece

theorem placeholderNames_of_not_mem {pieces : List Piece}
    (h : ∀ name, .placeholder name ∉ pieces) : placeholderNames pieces = [] := by
  rw [placeholderNames, List.filterMap_eq_nil_iff]
  intro piece hmem
  cases piece with
  | copied => rfl
  | placeholder name => exact absurd hmem (h name)

/-- Spans without a placeholder are copied. -/
theorem rewriteAfter_of_not_mem {cut : List Span}
    (h : ∀ name, .placeholder name ∉ cut.flatMap Span.pieces) :
    rewriteAfter highest cut = ⟨sourceOf cut, []⟩ := by
  have hcuts : Cuts cut (cut.flatMap Span.pieces) := cuts_iff.mpr rfl
  have htext (pieces : List Piece) (hnone : ∀ name, .placeholder name ∉ pieces) :
      pieces.flatMap (Piece.numbered highest []) = pieces.flatMap Piece.source := by
    refine List.flatMap_congr fun piece hmem => ?_
    cases piece with
    | copied => rfl
    | placeholder name => exact absurd hmem (hnone name)
  rw [← hcuts.source, ← htext _ h, rewriteAfter, placeholderNames_of_not_mem h]
  rfl

/-! ## The numbers are not too long -/

/-- The numbers in numbered spans are those of the spans and those of their placeholders. -/
theorem mem_positionalsAfter_numbered {before before' : Option Char} {cut : List Span}
    {digits : List Char} (hbefore : SameEnd before before')
    (h : digits ∈ positionalsAfter before' (cut.map (Span.numbered highest names))) :
    digits ∈ positionalsAfter before cut ∨ ∃ name, .placeholder name ∈ cut.flatMap Span.pieces ∧
      digits = Text.numeral (numberOf highest names name) := by
  induction cut generalizing before before' with
  | nil => exact Or.inl h
  | cons span rest ih =>
    obtain ⟨text, isCode⟩ := span
    rw [List.flatMap_cons]
    cases isCode with
    | false =>
      rw [List.map_cons, Span.numbered_skipped, positionalsAfter_skipped] at h
      rcases ih (EndsAlike.refl text _ _ hbefore) h with hold | ⟨name, hname, heq⟩
      · exact Or.inl hold
      · exact Or.inr ⟨name, List.mem_append_right _ hname, heq⟩
    | true =>
      have hscan : Scans none text (codePieces false text) := scans_codePieces none text
      rw [List.map_cons, Span.numbered_code, positionalsAfter_code, hbefore.any_eq] at h
      rw [positionalsAfter_code]
      rcases List.mem_append.mp h with hhere | hlater
      · rcases hscan.mem_positionalDigits hhere with hold | ⟨name, hname, heq⟩
        · exact Or.inl (List.mem_append_left _ hold)
        · exact Or.inr ⟨name, List.mem_append_left _ hname, heq⟩
      · rcases ih (hscan.endsAlike _ _ hbefore) hlater with hold | ⟨name, hname, heq⟩
        · exact Or.inl (List.mem_append_right _ hold)
        · exact Or.inr ⟨name, List.mem_append_right _ hname, heq⟩

theorem foldl_max_lt {numbers : List Nat} {start bound : Nat} (hstart : start < bound)
    (h : ∀ n ∈ numbers, n < bound) : numbers.foldl max start < bound := by
  induction numbers generalizing start with
  | nil => exact hstart
  | cons n rest ih =>
    refine ih ?_ fun m hm => h m (List.mem_cons_of_mem _ hm)
    exact Nat.max_lt.mpr ⟨hstart, h n List.mem_cons_self⟩

theorem isDigit_of_mem_positionals {cut : List Span} {digits : List Char}
    (h : digits ∈ positionals cut) : ∀ d ∈ digits, Text.isDigit d = true := by
  obtain ⟨_, _, hdigits⟩ := List.mem_flatMap.mp h
  exact isDigit_of_mem_positionalDigits hdigits

/-- Numerals that are short write numbers that are small. -/
theorem highestOf_lt {cut : List Span}
    (h : ∀ digits ∈ positionals cut, digits.length ≤ Text.digitLimit) :
    highestOf cut < Text.numeralBound := by
  rw [numeralBound_eq]
  refine foldl_max_lt (Nat.pow_pos (by omega)) fun n hn => ?_
  obtain ⟨digits, hmem, rfl⟩ := List.mem_map.mp hn
  exact Nat.lt_of_lt_of_le (digitsValue_lt (isDigit_of_mem_positionals hmem))
    (Nat.pow_le_pow_right (by omega) (h digits hmem))

/-- The spans of a query with its placeholders numbered. -/
def numberedSpans (query : List Char) : List Span :=
  (spans query).map (Span.numbered (highestOf (spans query)) (namesOf (spans query)))

/-- Numbering makes no numeral too long where the query has none. -/
theorem length_le_of_mem_positionals_numbered {query digits : List Char} (h : ¬ Overlong query)
    (hdigits : digits ∈ positionals (numberedSpans query)) : digits.length ≤ Text.digitLimit := by
  rw [Overlong, not_or, Nat.not_le, numeralBound_eq] at h
  have hempty : SameEnd none none := Or.inl rfl
  rcases mem_positionalsAfter_numbered hempty hdigits with hold | ⟨name, hname, rfl⟩
  · by_contra hlong
    exact h.1 ⟨digits, hold, Nat.lt_of_not_le hlong⟩
  · rw [length_numeral_le_iff (by decide)]
    exact Nat.lt_of_le_of_lt (numberOf_le hname) h.2

/-! ## Rewriting again -/

/-- Numbered spans put together are the rewritten query. -/
theorem sourceOf_numberedSpans (query : List Char) :
    sourceOf (numberedSpans query) = (rewriteAfter (highestOf (spans query)) (spans query)).text :=
  sourceOf_numbered (spans query)

/-- A rewritten query falls into the numbered spans exactly when the literals are kept. -/
theorem spans_numberedSpans_iff {query : List Char} :
    spans (sourceOf (numberedSpans query)) = numberedSpans query ↔
      LiteralsKept (spans query) := by
  rw [spans_eq_iff]
  constructor
  · exact fun h => literalsKept_of_numbered (lexes_spans query) h.2
  · intro hkept
    have hbehind : FollowsAlike none [] [] := ⟨rfl, Or.inl rfl⟩
    exact ⟨rfl, (lexes_spans query).numbered hbehind hkept (absurd · not_isEscapeName_none)⟩

/-- A rewritten query that falls into the numbered spans stays as it is. -/
theorem rewrite_numberedSpans {query : List Char} (h : ¬ Overlong query)
    (hspans : spans (sourceOf (numberedSpans query)) = numberedSpans query) :
    rewrite (sourceOf (numberedSpans query)) = .ok ⟨sourceOf (numberedSpans query), []⟩ := by
  have hshort : ∀ digits ∈ positionals (numberedSpans query), digits.length ≤ Text.digitLimit :=
    fun _ => length_le_of_mem_positionals_numbered h
  have hnone : ∀ name, .placeholder name ∉ (numberedSpans query).flatMap Span.pieces :=
    fun _ => not_mem_pieces_numbered
  have hnames : placeholderNames ((numberedSpans query).flatMap Span.pieces) = [] :=
    placeholderNames_of_not_mem hnone
  rw [rewrite_eq_ok_iff, hspans, rewriteAfter_of_not_mem hnone, Overlong, hspans, namesOf, hnames,
    not_or, Nat.not_le]
  refine ⟨⟨?_, highestOf_lt hshort⟩, rfl⟩
  rintro ⟨digits, hmem, hlong⟩
  exact Nat.not_le.mpr hlong (hshort digits hmem)

/-- The span that is written for another: its pieces as they are written, with the same mark. -/
structure WritesSpan (rewritten : Rewritten) (span written : Span) : Prop where
  /-- Both are code, or both are skipped. -/
  isCode : written.isCode = span.isCode
  /-- The text is written for the pieces. -/
  text : Writes rewritten span.pieces written.text

/-- Spans are written in one way, with the numbers that are recorded. -/
theorem forall₂_writesSpan_iff {rewritten : Rewritten} {cut cut' : List Span}
    (h : ∀ name, .placeholder name ∈ cut.flatMap Span.pieces →
      rewritten.positionOf? (String.ofList name) = some (numberOf highest names name)) :
    List.Forall₂ (WritesSpan rewritten) cut cut' ↔
      cut.map (Span.numbered highest names) = cut' := by
  induction cut generalizing cut' with
  | nil => simp [eq_comm]
  | cons span rest ih =>
    have hspan {text : List Char} :
        Writes rewritten span.pieces text ↔ text = numberedText highest names span.pieces :=
      writes_iff fun name hname => h name (List.mem_append_left _ hname)
    have hrest {tail : List Span} :=
      @ih tail fun name hname => h name (List.mem_append_right _ hname)
    rw [List.map_cons]
    constructor
    · rintro (_ | ⟨hwritten, htail⟩)
      rename_i written tail
      rw [hrest.mp htail]
      obtain ⟨text, isCode⟩ := written
      obtain ⟨rfl, htext⟩ := hwritten
      rw [Span.numbered, ← hspan.mp htext]
    · rintro rfl
      exact .cons ⟨rfl, hspan.mpr rfl⟩ (hrest.mpr rfl)

/-- Rewriting a rewritten query again gives it back without names, and skips in it what was skipped
in the query, exactly when the literals behind placeholders `@e` are kept. -/
theorem rewrite_stable_iff_literalsKept {query : List Char} {rewritten : Rewritten}
    (h : rewrite query = .ok rewritten) :
    (rewrite rewritten.text = .ok ⟨rewritten.text, []⟩ ∧
      List.Forall₂ (WritesSpan rewritten) (spans query) (spans rewritten.text)) ↔
        LiteralsKept (spans query) := by
  obtain ⟨hlong, rfl⟩ := rewrite_eq_ok_iff.mp h
  rw [forall₂_writesSpan_iff fun _ => positionOf?_rewriteAfter, ← sourceOf_numberedSpans,
    ← spans_numberedSpans_iff]
  constructor
  · exact fun hstable => hstable.2.symm
  · exact fun hspans => ⟨rewrite_numberedSpans hlong hspans, hspans.symm⟩

/-- A literal without a backslash is kept behind `@e`. -/
theorem rewrite_stable_escape_name :
    rewrite "@e'x'".toList = .ok ⟨"$1'x'".toList, [(1, "e")]⟩ ∧
      rewrite "$1'x'".toList = .ok ⟨"$1'x'".toList, []⟩ := by
  have hrewrite : rewrite "@e'x'".toList = .ok ⟨"$1'x'".toList, [(1, "e")]⟩ := by decide +kernel
  have hspans : spans "@e'x'".toList =
      [⟨"@e".toList, true⟩, ⟨'\'' :: "x'".toList, false⟩] := by decide +kernel
  have hkept : LiteralsKept (spans "@e'x'".toList) := by
    rw [hspans]
    rintro front code back heq -
    rcases front with _ | ⟨first, _ | ⟨second, front⟩⟩
    · obtain ⟨_, rfl⟩ := List.cons.inj heq
      rintro literal after hliteral
      obtain ⟨hspan, rfl⟩ := List.cons.inj hliteral
      obtain ⟨_, rfl⟩ := List.cons.inj (congrArg Span.text hspan)
      decide
    · simp at heq
    · simp at heq
  exact ⟨hrewrite, ((rewrite_stable_iff_literalsKept hrewrite).mpr hkept).1⟩

/-- The escaped quote behind `@e` ends the literal behind `$1`, and a placeholder that the query
skips comes to stand in code. -/
theorem rewrite_unstable_escape_name :
    rewrite "@e'\\'@b'".toList = .ok ⟨"$1'\\'@b'".toList, [(1, "e")]⟩ ∧
      rewrite "$1'\\'@b'".toList = .ok ⟨"$1'\\'$2'".toList, [(2, "b")]⟩ := by
  decide +kernel

end QueryAudit.Query
