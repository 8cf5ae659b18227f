import QueryAudit.Proofs.Query.Numbering

/-!
# What rewriting changes

The rewritten text is written piece by piece: copied pieces stay, and a placeholder becomes a dollar
sign with the position that is recorded for its name. `Cuts` and `Writes` state this without a
word about how the pieces are found or the names are numbered.
-/

namespace QueryAudit.Query

/-- Texts that pieces are written as, given the positions recorded for their names. -/
inductive Writes (rewritten : Rewritten) : List Piece → List Char → Prop
  | done : Writes rewritten [] []
  | copied {text after : List Char} {pieces : List Piece} : Writes rewritten pieces after →
      Writes rewritten (.copied text :: pieces) (text ++ after)
  | placeholder {name after : List Char} {position : Nat} {pieces : List Piece} :
      rewritten.positionOf? (String.ofList name) = some position → Writes rewritten pieces after →
      Writes rewritten (.placeholder name :: pieces) ('$' :: Text.numeral position ++ after)

/-- Numbered pieces are the only text that is written when the numbers are the recorded ones. -/
theorem writes_iff {rewritten : Rewritten} {highest : Nat}
    {names : Entries (List Char) (List Char)} {pieces : List Piece} {text : List Char}
    (h : ∀ name, .placeholder name ∈ pieces →
      rewritten.positionOf? (String.ofList name) = some (numberOf highest names name)) :
    Writes rewritten pieces text ↔ text = pieces.flatMap (Piece.numbered highest names) := by
  constructor
  · intro hwrites
    induction hwrites with
    | done => rfl
    | copied _ ih =>
      rw [ih fun name hname => h name (List.mem_cons_of_mem _ hname)]
      rfl
    | placeholder hposition _ ih =>
      rw [h _ List.mem_cons_self, Option.some.injEq] at hposition
      rw [ih fun name hname => h name (List.mem_cons_of_mem _ hname), ← hposition]
      rfl
  · rintro rfl
    induction pieces with
    | nil => exact .done
    | cons piece rest ih =>
      have hrest := ih fun name hname => h name (List.mem_cons_of_mem _ hname)
      cases piece with
      | copied text => exact .copied hrest
      | placeholder name => exact .placeholder (h name List.mem_cons_self) hrest

/-- Every query without a numeral that is too long is rewritten. It falls into pieces in one way,
the result is the one text that is written for them with the recorded positions, and with the names
as they are spelled the pieces are the query again. -/
theorem rewrite_replaces_placeholders (query : List Char) :
    match rewrite query with
    | .ok rewritten => ¬ Overlong query ∧ ∃ pieces, Cuts (spans query) pieces ∧
        (∀ other, Cuts (spans query) other → other = pieces) ∧
        (∀ text, Writes rewritten pieces text ↔ text = rewritten.text) ∧
        pieces.flatMap Piece.source = query
    | .error _ => Overlong query := by
  by_cases hlong : Overlong query
  · obtain ⟨error, herror⟩ := rewrite_of_overlong hlong
    rw [herror]
    exact hlong
  · rw [rewrite_of_not_overlong hlong]
    have hcuts : Cuts (spans query) ((spans query).flatMap Span.pieces) := cuts_iff.mpr rfl
    refine ⟨hlong, (spans query).flatMap Span.pieces, hcuts, fun _ => cuts_iff.mp, fun _ => ?_, ?_⟩
    · exact writes_iff fun _ => positionOf?_rewriteAfter
    · rw [hcuts.source, sourceOf_spans]

end QueryAudit.Query
