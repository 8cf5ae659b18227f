import QueryAudit.Proofs.Query.BareArguments
import QueryAudit.Proofs.Query.Stability
import QueryAudit.Proofs.Registry

/-!
# The number at the place of an argument

The positions of a call come from rewriting the whole query, while its arguments are cut from the
query as it is. An argument that is one placeholder is a piece of the query, or several that are
copied, and rewriting writes the number of the placeholder at the place of the argument.
-/

namespace QueryAudit.Query

/-! ## Pieces in front of a place -/

theorem endsPiece_of_append {first left : List Char}
    (h : ∀ c ∈ (first ++ left).getLast?, EndsPiece c) : ∀ c ∈ left.getLast?, EndsPiece c := by
  intro c hc
  refine h c ?_
  rw [List.getLast?_append, Option.mem_def.mp hc]
  rfl

/-- Code falls into the pieces in front of a place and those behind it when a piece starts there. -/
theorem Scans.append {previous : Option Char} {left right : List Char} {front back : List Piece}
    (hleft : Scans previous left front) (hlast : ∀ c ∈ left.getLast?, EndsPiece c)
    (hright : Scans (left.getLast?.or previous) right back) :
    Scans previous (left ++ right) (front ++ back) := by
  -- What is left of the code behind its first piece ends alike, unless nothing is left.
  have hbehind (run : List Char) {rest : List Char} {previous previous' : Option Char}
      (hne : rest ≠ []) (hlast : ∀ c ∈ (run ++ rest).getLast?, EndsPiece c)
      (hright : Scans ((run ++ rest).getLast?.or previous) right back) :
      (∀ c ∈ rest.getLast?, EndsPiece c) ∧ Scans (rest.getLast?.or previous') right back := by
    rw [List.getLast?_append_of_ne_nil _ hne] at hlast hright
    refine ⟨hlast, ?_⟩
    rwa [List.getLast?_eq_some_getLast hne] at hright ⊢
  induction hleft with
  | done previous => exact hright
  | @pair previous rest pieces _ ih =>
    rcases eq_or_ne rest [] with rfl | hne
    · exact absurd rfl (hlast '@' rfl).2
    · obtain ⟨hlast, hright⟩ := hbehind ['@', '@'] hne hlast hright
      exact .pair (ih hlast hright)
  | @placeholder previous name rest pieces hprevious hname hends _ ih =>
    rcases eq_or_ne rest [] with rfl | hne
    · rw [List.append_nil] at hlast
      have hends := (hlast _ (List.getLast?_eq_some_getLast (List.cons_ne_nil '@' name))).1
      have hidentifier := hname.any_getLast?_placeholder none
      rw [List.getLast?_eq_some_getLast (List.cons_ne_nil '@' name), Option.some_or,
        Option.any_some, hends] at hidentifier
      cases hidentifier
    · obtain ⟨hlast, hright⟩ := hbehind ('@' :: name) hne hlast hright
      rw [List.append_assoc]
      refine .placeholder hprevious hname ?_ (ih hlast hright)
      rwa [EndsName, List.head?_append_of_ne_nil _ hne]
  | @copied previous c rest pieces hcopied _ ih =>
    rcases eq_or_ne rest [] with rfl | hne
    · exact .copied (fun hc => absurd hc (hlast c rfl).2) (ih (by simp) hright)
    · obtain ⟨hlast, hright⟩ := hbehind [c] hne hlast hright
      have hhead : (rest ++ right).head? = rest.head? := List.head?_append_of_ne_nil _ hne
      exact .copied (fun hc => hhead ▸ hcopied hc) (ih hlast hright)

/-! ## Places in the rewritten query -/

/-- Rewriting writes a number where the query has the given text behind the given one: the pieces
of the query are those of the text in front, those of which the number is written, and the others,
and the digits of the number are all that stand there. -/
def NumbersAt (query : List Char) (rewritten : Rewritten) (before text : List Char) (n : Nat) :
    Prop :=
  ∃ front number back written digits rest, Cuts (spans query) (front ++ number ++ back) ∧
    front.flatMap Piece.source = before ∧ number.flatMap Piece.source = text ∧
    Writes rewritten front written ∧ Writes rewritten number ('$' :: digits) ∧
    Writes rewritten back rest ∧ rewritten.text = written ++ '$' :: (digits ++ rest) ∧
    leadingDigits (digits ++ rest) = digits ∧ digits ≠ [] ∧ Text.digitsValue digits = n

section Code

variable {query left text tail : List Char} {before after : List Span} {number behind : List Piece}
  (hspans : spans query = before ++ ⟨left ++ (text ++ tail), true⟩ :: after)
  (hlast : ∀ c ∈ left.getLast?, EndsPiece c)
  (hnumber : Scans left.getLast? (text ++ tail) (number ++ behind))
include hspans hlast hnumber

/-- The pieces of a query in front of a text in its code, those of the text, and the others. -/
theorem flatMap_pieces_eq :
    (spans query).flatMap Span.pieces =
      (before.flatMap Span.pieces ++ codePieces false left) ++ number ++
        (behind ++ after.flatMap Span.pieces) := by
  have hleft : Scans none left (codePieces false left) := scans_codePieces none left
  have hspan : Span.pieces ⟨left ++ (text ++ tail), true⟩ =
      codePieces false left ++ (number ++ behind) :=
    (hleft.append hlast (by rwa [Option.or_none])).eq_codePieces.symm
  rw [hspans, List.flatMap_append, List.flatMap_cons, hspan]
  simp

/-- The pieces of which a number is written make the number at their place. -/
theorem numbersAt_of_scans {previous : Option Char} {digits : List Char}
    (hbehind : Scans previous tail behind) (htail : EndsName tail)
    (hsource : number.flatMap Piece.source = text)
    (hwritten : numberedText (highestOf (spans query)) (namesOf (spans query)) number =
      '$' :: digits)
    (hdigits : ∀ d ∈ digits, Text.isDigit d = true) (hne : digits ≠ []) :
    NumbersAt query (rewriteAfter (highestOf (spans query)) (spans query))
      (sourceOf before ++ left) text (Text.digitsValue digits) := by
  have hpieces := flatMap_pieces_eq hspans hlast hnumber
  have hwrites {pieces : List Piece} (hsub : ∀ piece ∈ pieces, piece ∈
      (before.flatMap Span.pieces ++ codePieces false left) ++ number ++
        (behind ++ after.flatMap Span.pieces)) :
      Writes (rewriteAfter (highestOf (spans query)) (spans query)) pieces
        (numberedText (highestOf (spans query)) (namesOf (spans query)) pieces) := by
    rw [← hpieces] at hsub
    exact (writes_iff fun name hname => positionOf?_rewriteAfter (hsub _ hname)).mpr rfl
  have hmiddle := hwrites fun _ h => List.mem_append_left _ (List.mem_append_right _ h)
  rw [hwritten] at hmiddle
  refine ⟨before.flatMap Span.pieces ++ codePieces false left, number,
    behind ++ after.flatMap Span.pieces, _, digits, _, cuts_iff.mpr hpieces.symm, ?_, hsource,
    hwrites fun _ h => List.mem_append_left _ (List.mem_append_left _ h), hmiddle,
    hwrites fun _ h => List.mem_append_right _ h, ?_, ?_, hne, rfl⟩
  · have hleft : Scans none left (codePieces false left) := scans_codePieces none left
    rw [List.flatMap_append, hleft.source, (cuts_iff.mpr rfl).source]
  · change numberedText (highestOf (spans query)) (namesOf (spans query)) _ = _
    rw [hpieces, numberedText, List.flatMap_append, List.flatMap_append]
    rw [numberedText] at hwritten
    rw [hwritten]
    simp [numberedText]
  · refine leadingDigits_append hdigits (EndsName.isDigit_eq_false ?_)
    have hlexes := lexes_spans query
    rw [hspans] at hlexes
    obtain ⟨_, hhead, hafter⟩ := hlexes.append_right.of_code
    have hends := hafter.endsName hhead
    rw [EndsName, ← hafter.head?_numbered (highestOf (spans query)) (namesOf (spans query)) hhead,
      sourceOf_numbered] at hends
    rw [numberedText, List.flatMap_append]
    exact EndsName.append (hbehind.head?_numberedText_of_forall (by decide) htail) hends

end Code

/-! ## Arguments that are placeholders -/

section Alone

variable {query : List Char} {front back : List (Char × Bool)} {rewritten : Rewritten}
  (hrewrite : rewrite query = .ok rewritten)
  (hlast : ∀ c ∈ (front.map Prod.fst).getLast?, EndsPiece c)
include hrewrite hlast

/-- A name that stands in the query alone has a position, and rewriting writes it there. -/
theorem StandsIn.numbersAt_named {name : List Char}
    (h : StandsIn ('@' :: name) query front back) (hname : IsName name) :
    ∃ n, rewritten.positionOf? (String.ofList name) = some n ∧
      NumbersAt query rewritten (front.map Prod.fst) ('@' :: name) n := by
  obtain ⟨_, rfl⟩ := rewrite_eq_ok_iff.mp hrewrite
  obtain ⟨before, left, tail, after, hspans, hfront, htail⟩ :=
    h.exists_code (skippedAfter?_eq_none (by decide)) hname.isNameChar
  rw [hfront] at hlast ⊢
  have hleft := endsPiece_of_append hlast
  have hscan : Scans left.getLast? ('@' :: name ++ tail)
      ([.placeholder name] ++ codePieces (name.getLast?.any isIdentifierChar) tail) :=
    .placeholder (any_isIdentifierChar_of_endsPiece hleft) hname htail (scans_codePieces _ tail)
  have hmem : .placeholder name ∈ (spans query).flatMap Span.pieces := by
    rw [flatMap_pieces_eq hspans hleft hscan]
    simp
  refine ⟨_, positionOf?_rewriteAfter hmem, ?_⟩
  have hplace := numbersAt_of_scans hspans hleft hscan (scans_codePieces name.getLast? tail) htail
    (List.append_nil _) (List.append_nil _) (fun _ => isDigit_of_mem_numeral) (numeral_ne_nil _)
  rwa [digitsValue_numeral] at hplace

/-- A number that stands in the query alone is copied. -/
theorem StandsIn.numbersAt_positional {digits : List Char}
    (h : StandsIn ('$' :: digits) query front back)
    (hdigits : ∀ d ∈ digits, Text.isDigit d = true) (hne : digits ≠ []) :
    NumbersAt query rewritten (front.map Prod.fst) ('$' :: digits) (Text.digitsValue digits) := by
  obtain ⟨_, rfl⟩ := rewrite_eq_ok_iff.mp hrewrite
  obtain ⟨before, left, tail, after, hspans, hfront, htail⟩ :=
    h.exists_code (skippedAfter?_dollar_digits hdigits) fun d hd =>
      isNameChar_of_isDigit (hdigits d hd)
  rw [hfront] at hlast ⊢
  have hcopied : ∀ c ∈ '$' :: digits, c ≠ '@' :=
    List.forall_mem_cons.mpr ⟨by decide, fun d hd => ne_of_isDigit (hdigits d hd) '@' (by decide)⟩
  have htailScan := scans_codePieces (('$' :: digits).getLast?.or left.getLast?) tail
  refine numbersAt_of_scans hspans (endsPiece_of_append hlast) (.copied_run hcopied htailScan)
    htailScan htail ?_ ?_ hdigits hne
  · simp [List.flatMap_map, Piece.source]
  · simp [numberedText, List.flatMap_map, Piece.numbered]

/-- What stands for a position is a placeholder that stands in the query alone, and rewriting writes
the position there. -/
theorem StandsIn.numbersAt {argument : List Char} {placeholder : Placeholder}
    (h : StandsIn (Text.trim argument) query front back)
    (hbare : barePlaceholder? argument = .ok (some placeholder)) :
    ∃ n, Registry.position? rewritten placeholder = some n ∧
      NumbersAt query rewritten (front.map Prod.fst) (Text.trim argument) n := by
  rcases Registry.barePlaceholder?_eq_some hbare with ⟨name, hname, htrim, rfl⟩ |
    ⟨digits, hdigits, hne, htrim, rfl⟩
  · rw [htrim] at h ⊢
    exact h.numbersAt_named hrewrite hlast hname
  · rw [htrim] at h ⊢
    exact ⟨_, rfl, h.numbersAt_positional hrewrite hlast hdigits hne⟩

end Alone

/-- An argument of a call that is one placeholder has a position, and rewriting writes it at the
place of the argument. -/
theorem CallForm.numbersAt_argument {form : CallForm} {i : Nat} {argument : String}
    {rewritten : Rewritten} {placeholder : Placeholder}
    (hargument : form.call.arguments[i]? = some argument)
    (hrewrite : rewrite form.text = .ok rewritten)
    (hbare : barePlaceholder? argument.toList = .ok (some placeholder)) :
    ∃ n, Registry.position? rewritten placeholder = some n ∧
      NumbersAt form.text rewritten (form.front i) argument.toList n := by
  obtain ⟨front, back, hstands, hfront⟩ := CallForm.standsIn_argument hargument
  rw [← CallForm.trim_argument hargument] at hstands ⊢
  rw [← hfront]
  exact hstands.numbersAt hrewrite (hfront ▸ form.endsPiece_front i) hbare

end QueryAudit.Query
