import QueryAudit.Proofs.Query.Lexing
import QueryAudit.Query.Placeholder

/-!
# How code falls into pieces

Rewriting scans code from left to right. The relation `Scans` states its rules one by one, each
with everything that has to be true where it is used. The pieces of code are the only ones that the
rules allow, so statements about them are proved by induction on the rules.
-/

namespace QueryAudit.Query

/-- The pieces that code falls into, given the character before it in its span. Two `@` in a row
come first, then a placeholder with its whole name where no identifier character precedes, and every
other character is copied. -/
inductive Scans : Option Char → List Char → List Piece → Prop
  | done (previous : Option Char) : Scans previous [] []
  | pair {previous : Option Char} {rest : List Char} {pieces : List Piece} :
      Scans (some '@') rest pieces →
      Scans previous ('@' :: '@' :: rest) (.copied ['@', '@'] :: pieces)
  | placeholder {previous : Option Char} {name rest : List Char} {pieces : List Piece} :
      previous.any isIdentifierChar = false → IsName name → EndsName rest →
      Scans name.getLast? rest pieces →
      Scans previous ('@' :: name ++ rest) (.placeholder name :: pieces)
  | copied {previous : Option Char} {c : Char} {rest : List Char} {pieces : List Piece} :
      (c = '@' → rest.head? ≠ some '@' ∧
        (previous.any isIdentifierChar = true ∨ ∀ d ∈ rest.head?, isNameStart d = false)) →
      Scans (some c) rest pieces → Scans previous (c :: rest) (.copied [c] :: pieces)

theorem codePieces_nil (afterIdentifier : Bool) : codePieces afterIdentifier [] = [] := by
  rw [codePieces]

theorem codePieces_pair (afterIdentifier : Bool) (rest : List Char) :
    codePieces afterIdentifier ('@' :: '@' :: rest) =
      .copied ['@', '@'] :: codePieces false rest := by
  rw [codePieces]

theorem codePieces_cons {afterIdentifier : Bool} {c : Char} {rest : List Char}
    (h : c = '@' → rest.head? ≠ some '@') :
    codePieces afterIdentifier (c :: rest) =
      if c == '@' && !afterIdentifier && !(leadingName rest).isEmpty then
        .placeholder (leadingName rest) ::
          codePieces true (rest.drop (leadingName rest).length)
      else .copied [c] :: codePieces (isIdentifierChar c) rest := by
  rw [codePieces]
  rintro tail rfl rfl
  exact h rfl rfl

/-- An identifier ends with every name. -/
theorem IsName.any_getLast? {name : List Char} (h : IsName name) :
    name.getLast?.any isIdentifierChar = true := by
  rw [List.getLast?_eq_some_getLast h.ne_nil, Option.any_some]
  exact isIdentifierChar_of_isNameChar (h.isNameChar _ (List.getLast_mem _))

/-- The rules allow the pieces of code. -/
theorem scans_codePieces (previous : Option Char) (code : List Char) :
    Scans previous code (codePieces (previous.any isIdentifierChar) code) := by
  induction hlength : code.length using Nat.strong_induction_on generalizing previous code with
  | _ n ih =>
    cases code with
    | nil =>
      rw [codePieces_nil]
      exact .done previous
    | cons c rest =>
      have hshort : rest.length < n := by rw [← hlength]; simp
      by_cases hpair : c = '@' ∧ rest.head? = some '@'
      · obtain ⟨rfl, hhead⟩ := hpair
        obtain ⟨tail, rfl⟩ := List.head?_eq_some_iff.mp hhead
        rw [codePieces_pair]
        exact .pair (ih tail.length (by simp at hshort; omega) (some '@') tail rfl)
      · rw [codePieces_cons (fun hc hhead => hpair ⟨hc, hhead⟩)]
        split
        · rename_i hname
          simp only [Bool.and_eq_true, beq_iff_eq, Bool.not_eq_true', List.isEmpty_eq_false_iff]
            at hname
          obtain ⟨⟨rfl, hprevious⟩, hne⟩ := hname
          obtain ⟨tail, htail, hname, hends⟩ := leadingName_spec hne
          generalize leadingName rest = name at htail hname
          subst htail
          rw [List.drop_left]
          have hscan := ih tail.length (by simp at hshort; omega) name.getLast? tail rfl
          rw [hname.any_getLast?] at hscan
          exact .placeholder hprevious hname hends hscan
        · rename_i hname
          refine .copied ?_ (ih rest.length hshort (some c) rest rfl)
          rintro rfl
          refine ⟨fun hhead => hpair ⟨rfl, hhead⟩, ?_⟩
          rw [← leadingName_eq_nil_iff]
          by_cases hprevious : previous.any isIdentifierChar = true
          · exact Or.inl hprevious
          · exact Or.inr (by simpa [hprevious] using hname)

/-- The rules allow no other pieces. -/
theorem Scans.eq_codePieces {previous : Option Char} {code : List Char} {pieces : List Piece}
    (h : Scans previous code pieces) :
    pieces = codePieces (previous.any isIdentifierChar) code := by
  induction h with
  | done previous => rw [codePieces_nil]
  | pair _ ih => rw [codePieces_pair, ih]; rfl
  | @placeholder previous name rest pieces hprevious hname hends _ ih =>
    rw [List.cons_append, codePieces_cons, leadingName_append hname hends, hprevious]
    · rw [ih, hname.any_getLast?]
      simp [hname.ne_nil]
    · obtain ⟨c, tail, rfl, hstart, _⟩ := hname
      intro _ hhead
      obtain rfl := Option.some.inj hhead
      exact absurd hstart (by decide)
  | @copied previous c rest pieces hcopied _ ih =>
    rw [codePieces_cons (fun hc => (hcopied hc).1), if_neg, ih]
    · rfl
    · intro hname
      simp only [Bool.and_eq_true, beq_iff_eq, Bool.not_eq_true', List.isEmpty_eq_false_iff]
        at hname
      obtain ⟨⟨hc, hprevious⟩, hne⟩ := hname
      rcases (hcopied hc).2 with hidentifier | hstart
      · rw [hprevious] at hidentifier
        cases hidentifier
      · exact hne (leadingName_eq_nil_iff.mpr hstart)

/-- Pieces put together are the code that they come from. -/
theorem Scans.source {previous : Option Char} {code : List Char} {pieces : List Piece}
    (h : Scans previous code pieces) : pieces.flatMap Piece.source = code := by
  induction h with
  | done => rfl
  | pair _ ih => simp [Piece.source, ih]
  | placeholder _ _ _ _ ih => simp [Piece.source, ih]
  | copied _ _ ih => simp [Piece.source, ih]

/-- The pieces of a query, span by span: a skipped span is copied as it stands, and code is scanned
from the start of its span. -/
inductive Cuts : List Span → List Piece → Prop
  | done : Cuts [] []
  | skipped {text : List Char} {rest : List Span} {pieces : List Piece} :
      Cuts rest pieces → Cuts (⟨text, false⟩ :: rest) (.copied text :: pieces)
  | code {code : List Char} {rest : List Span} {front pieces : List Piece} :
      Scans none code front → Cuts rest pieces → Cuts (⟨code, true⟩ :: rest) (front ++ pieces)

/-- The pieces of spans are the ones that rewriting numbers. -/
theorem cuts_iff {cut : List Span} {pieces : List Piece} :
    Cuts cut pieces ↔ pieces = cut.flatMap Span.pieces := by
  constructor
  · intro h
    induction h with
    | done => rfl
    | skipped _ ih => rw [ih]; rfl
    | code hscan _ ih => rw [ih, hscan.eq_codePieces]; rfl
  · rintro rfl
    induction cut with
    | nil => exact .done
    | cons span rest ih =>
      obtain ⟨text, isCode⟩ := span
      cases isCode with
      | false => exact .skipped ih
      | true => exact .code (scans_codePieces none text) ih

theorem Cuts.source {cut : List Span} {pieces : List Piece} (h : Cuts cut pieces) :
    pieces.flatMap Piece.source = sourceOf cut := by
  induction h with
  | done => rfl
  | skipped _ ih => rw [List.flatMap_cons, ih]; rfl
  | code hscan _ ih => rw [List.flatMap_append, hscan.source, ih]; rfl

/-- The names of placeholders are names. -/
theorem Scans.isName_of_mem {previous : Option Char} {code name : List Char} {pieces : List Piece}
    (h : Scans previous code pieces) (hmem : .placeholder name ∈ pieces) : IsName name := by
  induction h with
  | done => cases hmem
  | pair _ ih => exact ih (by simpa using hmem)
  | copied _ _ ih => exact ih (by simpa using hmem)
  | placeholder _ hname _ _ ih =>
    rcases List.mem_cons.mp hmem with heq | hmem
    · cases heq
      exact hname
    · exact ih hmem

theorem Cuts.isName_of_mem {cut : List Span} {name : List Char} {pieces : List Piece}
    (h : Cuts cut pieces) (hmem : .placeholder name ∈ pieces) : IsName name := by
  induction h with
  | done => cases hmem
  | skipped _ ih => exact ih (by simpa using hmem)
  | code hscan _ ih =>
    rcases List.mem_append.mp hmem with hmem | hmem
    · exact hscan.isName_of_mem hmem
    · exact ih hmem

end QueryAudit.Query
