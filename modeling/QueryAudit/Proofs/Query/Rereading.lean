import QueryAudit.Proofs.Query.Lexing
import QueryAudit.Proofs.Query.Numbered
import QueryAudit.Proofs.Query.Rewriting

/-!
# Reading a rewritten query again

A rewritten query should fall into the same spans as the query it comes from, with nothing left to
rewrite. The lexer looks back, though, and an `e` at the end of a placeholder opens the escapes of a
literal while the number in its place does not. Behind everything else the lexer goes on alike.
-/

namespace QueryAudit.Query

variable {highest : Nat} {names : Entries (List Char) (List Char)}

/-! ## The lexer in numbered code -/

/-- No skipped span starts in a run of other characters. -/
theorem staysCode_run {before after run : List Char} (h : ∀ c ∈ run, opensSpan c = false) :
    StaysCode before after run := by
  induction run generalizing before with
  | nil => trivial
  | cons c run ih =>
    exact ⟨skippedAfter?_eq_none (h c List.mem_cons_self),
      ih fun d hd => h d (List.mem_cons_of_mem _ hd)⟩

/-- A number is no dollar tag. -/
theorem staysCode_numeral (before after : List Char) (n : Nat) :
    StaysCode before after ('$' :: Text.numeral n) := by
  have hdigits : ∀ d ∈ Text.numeral n, Text.isDigit d = true := fun _ => isDigit_of_mem_numeral
  refine ⟨?_, staysCode_run fun d hd => ?_⟩
  · have htag : dollarTag? (Text.numeral n ++ after) = none := by
      rw [Option.eq_none_iff_forall_ne_some]
      intro tag htag
      obtain ⟨name, back, hname, heq, _⟩ := dollarTag?_eq_some_iff.mp htag
      cases hnumeral : Text.numeral n with
      | nil => exact numeral_ne_nil n hnumeral
      | cons d digits =>
        have hd := hdigits d (by simp [hnumeral])
        rw [hnumeral] at heq
        rcases hname with rfl | ⟨c, tail, rfl, hstart, _⟩
        · obtain ⟨rfl, _⟩ := List.cons.inj heq
          exact absurd hd (by decide)
        · obtain ⟨rfl, _⟩ := List.cons.inj heq
          rw [isNameStart_eq_false_of_isDigit hd] at hstart
          cases hstart
    simp [skippedAfter?, htag]
  · exact opensSpan_of_isNameChar (isNameChar_of_isDigit (hdigits d hd))

/-- A sign other than a dollar sign does not come to stand first in numbered code. -/
theorem Scans.head?_append_of_ne {previous : Option Char} {code after after' : List Char}
    {pieces : List Piece} {sign : Char} (h : Scans previous code pieces)
    (hhead : after'.head? = after.head?) (hsign : sign ≠ '$')
    (hfront : (numberedText highest names pieces ++ after').head? = some sign) :
    (code ++ after).head? = some sign := by
  cases hcode : code with
  | nil =>
    rwa [h.numberedText_eq_nil_iff.mpr hcode, List.nil_append, hhead] at hfront
  | cons c rest =>
    cases hnumbered : numberedText highest names pieces with
    | nil =>
      rw [h.numberedText_eq_nil_iff, hcode] at hnumbered
      cases hnumbered
    | cons d tail =>
      have hstart := h.head?_numberedText highest names
      rw [hcode, hnumbered, List.head?_cons, List.head?_cons] at hstart
      rw [hnumbered, List.cons_append, List.head?_cons, Option.some.injEq] at hfront
      rcases hstart with hsame | ⟨_, hnumber⟩
      · rw [List.cons_append, List.head?_cons, ← hsame, hfront]
      · exact absurd (hfront.symm.trans (Option.some.inj hnumber)) hsign

/-- Where no skipped span starts in code, none starts in the numbered code. -/
theorem Scans.skippedAfter?_numberedText {before before' rest after after' : List Char} {c : Char}
    {pieces : List Piece} (h : Scans (some c) rest pieces)
    (hidentifier : before'.head?.any isIdentifierChar = before.head?.any isIdentifierChar)
    (hhead : after'.head? = after.head?) (hafter : EndsName after)
    (hnone : skippedAfter? before c (rest ++ after) = none) :
    skippedAfter? before' c (numberedText highest names pieces ++ after') = none := by
  rw [skippedAfter?_eq_none_iff] at hnone ⊢
  rintro k (⟨hc, _⟩ | ⟨hc, _⟩ | ⟨hc, hnext, _⟩ | ⟨hc, hnext, _⟩ | ⟨tag, hc, hbefore, htag, _⟩)
  · exact hnone _ (.literal hc rfl)
  · exact hnone _ (.identifier hc rfl)
  · exact hnone _ (.line hc (h.head?_append_of_ne hhead (by decide) hnext) rfl)
  · exact hnone _ (.block hc (h.head?_append_of_ne hhead (by decide) hnext) rfl)
  · subst hc
    rw [hidentifier] at hbefore
    have hnotag : dollarTag? (rest ++ after) = none := by
      rw [Option.eq_none_iff_forall_ne_some]
      exact fun tag htag => hnone _ (.dollar tag rfl hbefore htag rfl)
    rw [h.dollarTag?_numberedText (by decide) hhead hafter hnotag] at htag
    cases htag

/-! ## Behind a piece -/

/-- The piece is a placeholder of which the name is the letter that opens escapes. -/
def IsEscapeName (last : Option Piece) : Prop :=
  last = some (.placeholder ['e']) ∨ last = some (.placeholder ['E'])

theorem not_isEscapeName_none : ¬ IsEscapeName none := by
  rintro (hname | hname) <;> cases hname

/-- What the lexer sees when it looks back from a query and from its numbered text, in reverse, at
the end of the given piece: it sees the same, except for an escape letter that has become a
number. -/
structure FollowsAlike (last : Option Piece) (before before' : List Char) : Prop where
  /-- An identifier ends with both or with none. -/
  identifier : before'.head?.any isIdentifierChar = before.head?.any isIdentifierChar
  /-- A quote opens escapes after both or after none, or the number has closed them. -/
  escapes : opensEscapes before' = opensEscapes before ∨
    IsEscapeName last ∧ opensEscapes before = true ∧ opensEscapes before' = false

theorem SameBehind.followsAlike {before before' : List Char} (h : SameBehind before' before)
    (last : Option Piece) : FollowsAlike last before before' :=
  ⟨h.identifier, Or.inl h.escapes⟩

/-- Reading the same characters behind makes the texts alike. -/
theorem FollowsAlike.cons {last : Option Piece} {before before' : List Char} (c : Char)
    (h : FollowsAlike last before before') (next : Option Piece) :
    FollowsAlike next (c :: before) (c :: before') :=
  (SameBehind.cons c h.identifier).followsAlike next

theorem FollowsAlike.append {last : Option Piece} {before before' text : List Char}
    (h : FollowsAlike last before before') (hne : text ≠ []) (next : Option Piece) :
    FollowsAlike next (text.reverse ++ before) (text.reverse ++ before') := by
  cases text with
  | nil => exact absurd rfl hne
  | cons c rest =>
    rw [List.reverse_cons, List.append_assoc, List.append_assoc]
    exact ((SameBehind.cons c h.identifier).append rest).followsAlike next

/-- No quote opens escapes behind a number. -/
theorem opensEscapes_numeral (n : Nat) (before : List Char) :
    opensEscapes (('$' :: Text.numeral n).reverse ++ before) = false := by
  cases hreverse : (Text.numeral n).reverse with
  | nil => exact absurd (List.reverse_eq_nil_iff.mp hreverse) (numeral_ne_nil n)
  | cons d tail =>
    have hd : Text.isDigit d = true := by
      refine isDigit_of_mem_numeral (n := n) ?_
      rw [← List.mem_reverse, hreverse]
      exact List.mem_cons_self
    rw [List.reverse_cons, hreverse, List.cons_append, List.cons_append, opensEscapes_cons]
    simp [ne_of_isDigit hd 'e' (by decide), ne_of_isDigit hd 'E' (by decide)]

/-- A quote opens escapes behind the placeholder that is named by an escape letter only. -/
theorem isEscapeName_of_opensEscapes {name before : List Char} (hname : IsName name)
    (h : opensEscapes (('@' :: name).reverse ++ before) = true) :
    IsEscapeName (some (.placeholder name)) := by
  have hchars := hname.isNameChar
  cases hreverse : name.reverse with
  | nil => exact absurd (List.reverse_eq_nil_iff.mp hreverse) hname.ne_nil
  | cons letter tail =>
    rw [List.reverse_cons, hreverse, List.cons_append, List.cons_append, opensEscapes_cons,
      Bool.and_eq_true] at h
    obtain ⟨hletter, hbefore⟩ := h
    cases tail with
    | nil =>
      have heq : name = [letter] := by simpa using congrArg List.reverse hreverse
      simp only [Bool.or_eq_true, beq_iff_eq] at hletter
      rw [heq]
      exact hletter.imp (fun hc => by rw [hc]) (fun hc => by rw [hc])
    | cons d tail =>
      have hd : isNameChar d = true := hchars d (by
        rw [← List.mem_reverse, hreverse]
        simp)
      simp [isIdentifierChar_of_isNameChar hd] at hbefore

/-- Behind a placeholder and its number the lexer sees the same but for an escape letter. -/
theorem followsAlike_placeholder {name before before' : List Char} (hname : IsName name) (n : Nat) :
    FollowsAlike (some (.placeholder name)) (('@' :: name).reverse ++ before)
      (('$' :: Text.numeral n).reverse ++ before') where
  identifier := by
    rw [List.head?_append, List.head?_append, List.head?_reverse, List.head?_reverse,
      any_getLast?_numbered, hname.any_getLast?_placeholder]
  escapes := by
    rw [opensEscapes_numeral]
    cases hopens : opensEscapes (('@' :: name).reverse ++ before) with
    | false => exact Or.inl rfl
    | true => exact Or.inr ⟨isEscapeName_of_opensEscapes hname hopens, rfl, rfl⟩

/-- The last piece when one comes first. -/
theorem getLast?_cons_or (piece : Piece) (pieces : List Piece) (last : Option Piece) :
    (piece :: pieces).getLast?.or last = pieces.getLast?.or (some piece) := by
  rw [List.getLast?_cons]
  cases pieces.getLast? <;> rfl

/-- Numbered code stays code, and the lexer sees alike behind it. -/
theorem Scans.staysCode_numberedText {previous : Option Char} {last : Option Piece}
    {code before before' after after' : List Char} {pieces : List Piece}
    (h : Scans previous code pieces) (hbehind : FollowsAlike last before before')
    (hhead : after'.head? = after.head?) (hafter : EndsName after)
    (hcode : StaysCode before after code) :
    StaysCode before' after' (numberedText highest names pieces) ∧
      FollowsAlike (pieces.getLast?.or last) (code.reverse ++ before)
        ((numberedText highest names pieces).reverse ++ before') := by
  induction h generalizing last before before' with
  | done => exact ⟨trivial, hbehind⟩
  | @pair previous rest pieces _ ih =>
    have hpair : StaysCode before after (['@', '@'] ++ rest) := hcode
    obtain ⟨hrest, halike⟩ := ih (hbehind.append (show ['@', '@'] ≠ [] by simp)
      (some (.copied ['@', '@']))) (staysCode_append.mp hpair).2
    rw [getLast?_cons_or]
    refine ⟨⟨skippedAfter?_eq_none (by decide), skippedAfter?_eq_none (by decide), hrest⟩, ?_⟩
    simpa using halike
  | @placeholder previous name rest pieces _ hname _ _ ih =>
    obtain ⟨hrest, halike⟩ := ih (followsAlike_placeholder hname (numberOf highest names name))
      (staysCode_append.mp hcode).2
    rw [getLast?_cons_or, numberedText_placeholder, staysCode_append]
    refine ⟨⟨staysCode_numeral _ _ _, hrest⟩, ?_⟩
    simpa using halike
  | @copied previous c rest pieces _ hscan ih =>
    obtain ⟨hrest, halike⟩ := ih (hbehind.cons c (some (.copied [c]))) hcode.2
    rw [getLast?_cons_or]
    refine ⟨⟨?_, hrest⟩, by simpa using halike⟩
    exact hscan.skippedAfter?_numberedText hbehind.identifier hhead hafter hcode.1

/-! ## The lexer in a numbered query -/

/-- A span with its placeholders numbered. -/
def Span.numbered (highest : Nat) (names : Entries (List Char) (List Char)) (span : Span) : Span :=
  ⟨numberedText highest names span.pieces, span.isCode⟩

@[simp] theorem Span.numbered_skipped (text : List Char) :
    Span.numbered highest names ⟨text, false⟩ = ⟨text, false⟩ := by
  simp [Span.numbered, Span.pieces]

theorem Span.numbered_code (code : List Char) :
    Span.numbered highest names ⟨code, true⟩ =
      ⟨numberedText highest names (codePieces false code), true⟩ := rfl

/-- The spans do not start with a string literal that ends elsewhere when backslashes do not escape
in it. -/
def StartsPlain (cut : List Span) : Prop :=
  ∀ literal back, cut = ⟨'\'' :: literal, false⟩ :: back →
    quotedLength '\'' false (literal ++ sourceOf back) = literal.length

/-- Every string literal right behind a placeholder `@e` or `@E` ends where it ends when backslashes
do not escape in it. -/
def LiteralsKept (cut : List Span) : Prop :=
  ∀ front code back, cut = front ++ ⟨code, true⟩ :: back →
    IsEscapeName (codePieces false code).getLast? → StartsPlain back

theorem LiteralsKept.tail {span : Span} {rest : List Span} (h : LiteralsKept (span :: rest)) :
    LiteralsKept rest :=
  fun front code back heq => h (span :: front) code back (by rw [heq, List.cons_append])

/-- What is skipped does not depend on escapes except at a single quote. -/
theorem skippedAfter?_of_ne {before before' rest : List Char} {c : Char} (hc : c ≠ '\'')
    (h : before'.head?.any isIdentifierChar = before.head?.any isIdentifierChar) :
    skippedAfter? before' c rest = skippedAfter? before c rest := by
  simp [skippedAfter?, hc, h]

/-- A skipped span is skipped as far behind a number. -/
theorem FollowsAlike.skippedAfter? {last : Option Piece} {before before' text : List Char}
    {c : Char} {rest : List Span} (h : FollowsAlike last before before')
    (hplain : IsEscapeName last → StartsPlain (⟨c :: text, false⟩ :: rest))
    (hskip : skippedAfter? before c (text ++ sourceOf rest) = some text.length) :
    Query.skippedAfter? before' c (text ++ sourceOf rest) = some text.length := by
  rcases h.escapes with hsame | ⟨hname, _, hclosed⟩
  · have hbehind : SameBehind before' before := ⟨h.identifier, hsame⟩
    rw [hbehind.skippedAfter?, hskip]
  · by_cases hc : c = '\''
    · subst hc
      have hlength := hplain hname text rest rfl
      rw [skippedAfter?_quote, hclosed, hlength]
    · rw [skippedAfter?_of_ne hc h.identifier, hskip]

/-- Numbered code starts alike, a placeholder counting like its number. -/
theorem Scans.frontSign_numberedText {previous : Option Char} {code after after' : List Char}
    {pieces : List Piece} (h : Scans previous code pieces) (hne : code ≠ []) :
    frontSign (code ++ after) = frontSign (numberedText highest names pieces ++ after') := by
  cases h with
  | done => exact absurd rfl hne
  | pair => rfl
  | placeholder => rfl
  | copied => rfl

variable (highest names) in
theorem Lexes.frontSign_numbered {before : List Char} {cut : List Span} (h : Lexes before cut) :
    frontSign (sourceOf cut) = frontSign (sourceOf (cut.map (Span.numbered highest names))) := by
  cases h with
  | done => rfl
  | skipped => simp [frontSign]
  | code hne => exact (scans_codePieces none _).frontSign_numberedText hne

variable (highest names) in
/-- Behind code the numbered spans start with the same character. -/
theorem Lexes.head?_numbered {before : List Char} {cut : List Span} (h : Lexes before cut)
    (hhead : ∀ span ∈ cut.head?, span.isCode = false) :
    (sourceOf (cut.map (Span.numbered highest names))).head? = (sourceOf cut).head? := by
  cases h with
  | done => rfl
  | code => simp at hhead
  | skipped => simp

/-- Numbered spans cut their own text rightly when the literals behind `@e` are kept. -/
theorem Lexes.numbered {before before' : List Char} {last : Option Piece} {cut : List Span}
    (h : Lexes before cut) (hbehind : FollowsAlike last before before') (hkept : LiteralsKept cut)
    (hplain : IsEscapeName last → StartsPlain cut) :
    Lexes before' (cut.map (Span.numbered highest names)) := by
  induction h generalizing before' last with
  | done => exact .done before'
  | @skipped before text c rest hskip hrest ih =>
    rw [List.map_cons, Span.numbered_skipped]
    refine .skipped ?_
      (ih (hbehind.append (by simp) none) hkept.tail (absurd · not_isEscapeName_none))
    exact skippedAfter?_replace (hrest.frontSign_numbered _ _) (hbehind.skippedAfter? hplain hskip)
  | @code before code rest hne hcode hhead hrest ih =>
    have hscan : Scans none code (codePieces false code) := scans_codePieces none code
    obtain ⟨hstays, halike⟩ := hscan.staysCode_numberedText hbehind
      (hrest.head?_numbered highest names hhead) (hrest.endsName hhead) hcode
    rw [List.map_cons, Span.numbered_code]
    have hpieces : codePieces false code ≠ [] := by
      intro hnil
      rw [hnil] at hscan
      exact hne hscan.source.symm
    rw [List.getLast?_eq_some_getLast hpieces, Option.some_or] at halike
    refine .code ?_ hstays ?_ (ih halike hkept.tail ?_)
    · rw [ne_eq, hscan.numberedText_eq_nil_iff]
      exact hne
    · cases rest with
      | nil => simp
      | cons span rest => simpa [Span.numbered] using hhead
    · rw [← List.getLast?_eq_some_getLast hpieces]
      exact hkept [] code rest rfl

end QueryAudit.Query
