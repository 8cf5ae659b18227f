import QueryAudit.Proofs.Query.Mentions
import QueryAudit.Proofs.Query.Rereading

/-!
# Where the numbers of a rewritten query come from

A numbered placeholder of a rewritten query stands where the query has a placeholder with that
number, named or numbered, unless its dollar sign is one that the query skips. The lexer is not
asked again: the number is followed back through the pieces that were written.
-/

namespace QueryAudit.Query

variable {highest : Nat} {names : Entries (List Char) (List Char)}

/-- What the query has where digits start in the rewritten text: the sign of a placeholder, and the
text behind it with the name or the digits. -/
inductive Origin (highest : Nat) (names : Entries (List Char) (List Char)) (pieces : List Piece)
    (digits : List Char) : Char → List Char → Prop
  | named {name rest : List Char} : .placeholder name ∈ pieces → IsName name → EndsName rest →
      digits = Text.numeral (numberOf highest names name) →
      Origin highest names pieces digits '@' (name ++ rest)
  | numbered {rest : List Char} : digits = leadingDigits rest →
      Origin highest names pieces digits '$' rest

theorem Origin.mono {pieces pieces' : List Piece} {digits rest : List Char} {sign : Char}
    (h : Origin highest names pieces digits sign rest) (hmem : ∀ piece ∈ pieces, piece ∈ pieces') :
    Origin highest names pieces' digits sign rest := by
  cases h with
  | named hpiece hname hends hdigits => exact .named (hmem _ hpiece) hname hends hdigits
  | numbered hdigits => exact .numbered hdigits

/-- An origin can be seen by the search for placeholders. -/
theorem Origin.signs {pieces : List Piece} {digits rest : List Char} {sign : Char}
    (h : Origin highest names pieces digits sign rest) (hdigits : digits ≠ []) :
    ∃ next more, rest = next :: more ∧ SignsPlaceholder sign next := by
  cases h with
  | named _ hname _ _ =>
    obtain ⟨c, tail, rfl, hstart, _⟩ := hname
    exact ⟨c, _, rfl, Or.inl ⟨rfl, hstart⟩⟩
  | numbered heq =>
    cases rest with
    | nil => exact absurd heq hdigits
    | cons c more =>
      refine ⟨c, more, rfl, Or.inr ⟨rfl, ?_⟩⟩
      by_contra hc
      rw [leadingDigits, List.takeWhile_cons_of_neg hc] at heq
      exact hdigits heq

/-- The same digits start code and its numbered text, with what follows them. -/
theorem Scans.leadingDigits_numberedText_append {previous : Option Char}
    {code after after' : List Char} {pieces : List Piece} (h : Scans previous code pieces)
    (hafter : EndsName after) (hafter' : EndsName after') :
    leadingDigits (numberedText highest names pieces ++ after') =
      leadingDigits (code ++ after) := by
  induction h with
  | done =>
    rw [numberedText_nil, List.nil_append, List.nil_append, leadingDigits_eq_nil hafter,
      leadingDigits_eq_nil hafter']
  | pair => rfl
  | placeholder => rfl
  | @copied previous c rest pieces _ _ ih =>
    rw [numberedText_copied, List.singleton_append, List.cons_append, List.cons_append,
      leadingDigits, leadingDigits, List.takeWhile_cons, List.takeWhile_cons, ← leadingDigits,
      ← leadingDigits, ih]

/-- The number with the given digits, behind the given text, comes from a placeholder in the
code. -/
def OriginIn (highest : Nat) (names : Entries (List Char) (List Char)) (pieces : List Piece)
    (digits code after before : List Char) : Prop :=
  ∃ left sign rest, code = left ++ sign :: rest ∧ EndsAlike left before ∧
    Origin highest names pieces digits sign (rest ++ after)

theorem OriginIn.append {pieces pieces' : List Piece}
    {digits code after before front front' : List Char}
    (h : OriginIn highest names pieces digits code after before) (hfront : EndsAlike front front')
    (hmem : ∀ piece ∈ pieces, piece ∈ pieces') :
    OriginIn highest names pieces' digits (front ++ code) after (front' ++ before) := by
  obtain ⟨left, sign, rest, rfl, hleft, horigin⟩ := h
  exact ⟨front ++ left, sign, rest, by simp, hfront.append hleft, horigin.mono hmem⟩

/-- A number in numbered code comes from a placeholder in the code, or it stands behind the code. -/
theorem Scans.origin {previous : Option Char} {code before tail after after' : List Char}
    {pieces : List Piece} (h : Scans previous code pieces) (hafter : EndsName after)
    (hafter' : EndsName after')
    (heq : numberedText highest names pieces ++ after' = before ++ '$' :: tail) :
    (∃ more, before = numberedText highest names pieces ++ more ∧ after' = more ++ '$' :: tail) ∨
      OriginIn highest names pieces (leadingDigits tail) code after before := by
  induction h generalizing before with
  | done => exact Or.inl ⟨before, rfl, heq⟩
  | @pair previous rest pieces _ ih =>
    match before, heq with
    | [], heq => simp at heq
    | [_], heq => simp at heq
    | _ :: _ :: before, heq =>
      obtain ⟨rfl, hsecond⟩ := List.cons.inj heq
      obtain ⟨rfl, hrest⟩ := List.cons.inj hsecond
      rcases ih hrest with ⟨more, rfl, hmore⟩ | horigin
      · exact Or.inl ⟨more, rfl, hmore⟩
      · exact Or.inr (horigin.append (.refl ['@', '@']) fun _ => List.mem_cons_of_mem _)
  | @placeholder previous name rest pieces _ hname hends hscan ih =>
    have hdigits : ∀ d ∈ Text.numeral (numberOf highest names name), Text.isDigit d = true :=
      fun _ => isDigit_of_mem_numeral
    have hnumbered : EndsName (numberedText highest names pieces) :=
      hscan.head?_numberedText_of_forall (by decide) hends
    rw [numberedText_placeholder, List.cons_append, List.cons_append, List.append_assoc] at heq
    cases before with
    | nil =>
      obtain ⟨_, rfl⟩ := List.cons.inj heq
      refine Or.inr ⟨[], '@', name ++ rest, rfl, .refl [], ?_⟩
      rw [List.append_assoc]
      exact .named List.mem_cons_self hname (hends.append hafter)
        (leadingDigits_append hdigits (hnumbered.append hafter').isDigit_eq_false)
    | cons d before =>
      obtain ⟨rfl, htail⟩ := List.cons.inj heq
      rcases append_eq_append_cons htail with ⟨more, hnumeral, _⟩ | ⟨before', rfl, hrest⟩
      · have hdollar := hdigits '$' (by rw [hnumeral]; simp)
        exact absurd hdollar (by decide)
      · rcases ih hrest with ⟨more, rfl, hmore⟩ | horigin
        · exact Or.inl ⟨more, by simp, hmore⟩
        · exact Or.inr (horigin.append (endsAlike_placeholder hname _)
            fun _ => List.mem_cons_of_mem _)
  | @copied previous c rest pieces _ hscan ih =>
    cases before with
    | nil =>
      obtain ⟨rfl, rfl⟩ := List.cons.inj heq
      exact Or.inr ⟨[], '$', rest, rfl, .refl [],
        .numbered (hscan.leadingDigits_numberedText_append hafter hafter')⟩
    | cons d before =>
      obtain ⟨rfl, hrest⟩ := List.cons.inj heq
      rcases ih hrest with ⟨more, rfl, hmore⟩ | horigin
      · exact Or.inl ⟨more, rfl, hmore⟩
      · exact Or.inr (horigin.append (.refl [c]) fun _ => List.mem_cons_of_mem _)

/-- The dollar sign behind the given text is one that the spans skip. -/
def SkippedAt (highest : Nat) (names : Entries (List Char) (List Char)) (cut : List Span)
    (before : List Char) : Prop :=
  ∃ front text back left right, cut = front ++ ⟨text, false⟩ :: back ∧
    text = left ++ '$' :: right ∧
    before = sourceOf (front.map (Span.numbered highest names)) ++ left

/-- The number with the given digits, behind the given text, comes from a placeholder that stands in
code with both its first characters. -/
def OriginAt (highest : Nat) (names : Entries (List Char) (List Char)) (cut : List Span)
    (digits before : List Char) : Prop :=
  ∃ left sign next right, cut.flatMap Span.marks = left ++ (sign, true) :: (next, true) :: right ∧
    SignsPlaceholder sign next ∧ EndsAlike (left.map Prod.fst) before ∧
    Origin highest names (cut.flatMap Span.pieces) digits sign (next :: right.map Prod.fst)

theorem SkippedAt.cons {cut : List Span} {before : List Char} (span : Span)
    (h : SkippedAt highest names cut before) :
    SkippedAt highest names (span :: cut) ((Span.numbered highest names span).text ++ before) := by
  obtain ⟨front, text, back, left, right, rfl, htext, rfl⟩ := h
  exact ⟨span :: front, text, back, left, right, rfl, htext, by simp⟩

theorem OriginAt.cons {cut : List Span} {digits before : List Char} (span : Span)
    (h : OriginAt highest names cut digits before) (hspan : EndsAlike span.text
      (Span.numbered highest names span).text) :
    OriginAt highest names (span :: cut) digits
      ((Span.numbered highest names span).text ++ before) := by
  obtain ⟨left, sign, next, right, hmarks, hsigns, hleft, horigin⟩ := h
  refine ⟨span.marks ++ left, sign, next, right, ?_, hsigns, ?_, ?_⟩
  · rw [List.flatMap_cons, hmarks, List.append_assoc]
  · rw [List.map_append, Span.marks_map_fst]
    exact hspan.append hleft
  · exact horigin.mono fun _ => List.mem_append_right _

/-- A span ends like its numbered text. -/
theorem Span.endsAlike_numbered (span : Span) :
    EndsAlike span.text (Span.numbered highest names span).text := by
  obtain ⟨text, isCode⟩ := span
  cases isCode with
  | false => rw [Span.numbered_skipped]; exact .refl text
  | true => exact (scans_codePieces none text).endsAlike

/-- An origin in the code of the first span. -/
theorem OriginIn.originAt {code digits before : List Char} {rest : List Span}
    (h : OriginIn highest names (codePieces false code) digits code (sourceOf rest) before)
    (hafter : EndsName (sourceOf rest)) (hdigits : digits ≠ []) :
    OriginAt highest names (⟨code, true⟩ :: rest) digits before := by
  obtain ⟨left, sign, behind, rfl, hleft, horigin⟩ := h
  obtain ⟨next, more, hnext, hsigns⟩ := horigin.signs hdigits
  cases behind with
  | nil =>
    rw [List.nil_append] at hnext
    have hends := hafter next (by rw [hnext]; rfl)
    rw [hsigns.isNameChar] at hends
    cases hends
  | cons c behind =>
    obtain ⟨rfl, rfl⟩ := List.cons.inj hnext
    refine ⟨left.map fun d => (d, true), sign, c,
      (behind.map fun d => (d, true)) ++ rest.flatMap Span.marks, ?_, hsigns, ?_, ?_⟩
    · simp [Span.marks]
    · simpa [Function.comp_def] using hleft
    · rw [List.map_append, flatMap_marks_map_fst, List.map_map, List.flatMap_cons]
      change Origin highest names (codePieces false _ ++ rest.flatMap Span.pieces) digits sign _
      simpa [Function.comp_def] using horigin.mono fun _ => List.mem_append_left _

/-- A number in numbered spans comes from a placeholder, or its dollar sign is skipped. -/
theorem Lexes.origin {read before tail : List Char} {cut : List Span} (h : Lexes read cut)
    (heq : sourceOf (cut.map (Span.numbered highest names)) = before ++ '$' :: tail)
    (hdigits : leadingDigits tail ≠ []) :
    SkippedAt highest names cut before ∨
      OriginAt highest names cut (leadingDigits tail) before := by
  induction h generalizing before with
  | done => simp at heq
  | @skipped read text c rest _ _ ih =>
    rw [List.map_cons, Span.numbered_skipped, sourceOf_cons] at heq
    rcases append_eq_append_cons heq with ⟨more, hin, _⟩ | ⟨more, rfl, hrest⟩
    · exact Or.inl ⟨[], c :: text, rest, before, more, rfl, hin, rfl⟩
    · have hcons := (ih hrest).imp (SkippedAt.cons ⟨c :: text, false⟩)
        fun horigin => horigin.cons ⟨c :: text, false⟩ (Span.endsAlike_numbered _)
      rwa [Span.numbered_skipped] at hcons
  | @code read code rest _ _ hhead hrest ih =>
    have hends := hrest.endsName hhead
    have hends' : EndsName (sourceOf (rest.map (Span.numbered highest names))) := by
      rw [EndsName, hrest.head?_numbered highest names hhead]
      exact hends
    have hscan : Scans none code (codePieces false code) := scans_codePieces none code
    rw [List.map_cons, Span.numbered_code, sourceOf_cons] at heq
    rcases hscan.origin hends hends' heq with ⟨more, rfl, hmore⟩ | horigin
    · exact (ih hmore).imp (SkippedAt.cons ⟨code, true⟩)
        fun horigin => horigin.cons ⟨code, true⟩ (Span.endsAlike_numbered _)
    · exact Or.inr (horigin.originAt hends hdigits)

end QueryAudit.Query
