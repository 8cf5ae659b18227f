import QueryAudit.Proofs.Query.Pieces
import QueryAudit.Proofs.Query.Positionals

/-!
# Code with numbered placeholders

Numbering changes the characters that the lexer, the scan for placeholders and the search for
numbers look at. This file compares code with its numbered text in everything that they look at: how
both start, where dollar tags stand, which pieces and which numbers there are.
-/

namespace QueryAudit.Query

variable {highest : Nat} {names : Entries (List Char) (List Char)}

/-- The text of pieces with their placeholders numbered. -/
def numberedText (highest : Nat) (names : Entries (List Char) (List Char)) (pieces : List Piece) :
    List Char :=
  pieces.flatMap (Piece.numbered highest names)

@[simp] theorem numberedText_nil : numberedText highest names [] = [] := rfl

@[simp] theorem numberedText_copied (text : List Char) (pieces : List Piece) :
    numberedText highest names (.copied text :: pieces) =
      text ++ numberedText highest names pieces := rfl

@[simp] theorem numberedText_placeholder (name : List Char) (pieces : List Piece) :
    numberedText highest names (.placeholder name :: pieces) =
      '$' :: Text.numeral (numberOf highest names name) ++ numberedText highest names pieces := rfl

/-! ## How the texts start -/

variable (highest names) in
/-- Both texts start alike, unless they start with a placeholder. -/
theorem Scans.head?_numberedText {previous : Option Char} {code : List Char} {pieces : List Piece}
    (h : Scans previous code pieces) :
    (numberedText highest names pieces).head? = code.head? ∨
      code.head? = some '@' ∧ (numberedText highest names pieces).head? = some '$' := by
  cases h with
  | done => exact Or.inl rfl
  | pair => exact Or.inl rfl
  | placeholder => exact Or.inr ⟨rfl, rfl⟩
  | copied => exact Or.inl rfl

/-- Where the code does not start with an `@`, neither starts with a placeholder. -/
theorem Scans.head?_numberedText_of_ne {previous : Option Char} {code : List Char}
    {pieces : List Piece} (h : Scans previous code pieces) (hcode : code.head? ≠ some '@') :
    (numberedText highest names pieces).head? = code.head? := by
  rcases h.head?_numberedText highest names with hsame | ⟨hname, _⟩
  · exact hsame
  · exact absurd hname hcode

/-- No name and no digit starts the numbered text where none starts the code. -/
theorem Scans.head?_numberedText_of_forall {previous : Option Char} {code : List Char}
    {pieces : List Piece} {p : Char → Bool} (h : Scans previous code pieces) (hp : p '$' = false)
    (hcode : ∀ c ∈ code.head?, p c = false) :
    ∀ c ∈ (numberedText highest names pieces).head?, p c = false := by
  rcases h.head?_numberedText highest names with hsame | ⟨_, hnumber⟩
  · rwa [hsame]
  · rw [hnumber]
    rintro c ⟨⟩
    exact hp

theorem Scans.numberedText_eq_nil_iff {previous : Option Char} {code : List Char}
    {pieces : List Piece} (h : Scans previous code pieces) :
    numberedText highest names pieces = [] ↔ code = [] := by
  rw [← List.head?_eq_none_iff, ← List.head?_eq_none_iff]
  rcases h.head?_numberedText highest names with hsame | ⟨hname, hnumber⟩
  · rw [hsame]
  · simp [hname, hnumber]

/-- The same digits start both texts. -/
theorem Scans.leadingDigits_numberedText {previous : Option Char} {code : List Char}
    {pieces : List Piece} (h : Scans previous code pieces) :
    leadingDigits (numberedText highest names pieces) = leadingDigits code := by
  induction h with
  | done => rfl
  | pair => rfl
  | placeholder => rfl
  | @copied previous c rest pieces _ _ ih =>
    rw [numberedText_copied, List.singleton_append, leadingDigits, leadingDigits,
      List.takeWhile_cons, List.takeWhile_cons, ← leadingDigits, ← leadingDigits, ih]

/-! ## Dollar tags -/

/-- A name with a dollar sign behind it stands in the code when it stands in the numbered text. No
placeholder starts inside, since an identifier precedes it. -/
theorem Scans.name_dollar {previous : Option Char} {code name after after' back : List Char}
    {pieces : List Piece} (h : Scans previous code pieces)
    (hprevious : previous.any isIdentifierChar = true) (hhead : after'.head? = after.head?)
    (hafter : EndsName after) (hname : ∀ c ∈ name, isNameChar c = true)
    (heq : numberedText highest names pieces ++ after' = name ++ '$' :: back) :
    ∃ back', code ++ after = name ++ '$' :: back' := by
  induction h generalizing name with
  | done =>
    rw [numberedText_nil, List.nil_append] at heq
    rw [heq] at hhead
    cases name with
    | nil =>
      obtain ⟨back', hback⟩ := List.head?_eq_some_iff.mp hhead.symm
      exact ⟨back', hback⟩
    | cons c name =>
      have hc := hafter c hhead.symm
      simp [hname c List.mem_cons_self] at hc
  | pair =>
    cases name with
    | nil => simp at heq
    | cons c name =>
      obtain ⟨rfl, _⟩ := List.cons.inj heq
      exact absurd (hname '@' List.mem_cons_self) (by decide)
  | placeholder hnone =>
    rw [hnone] at hprevious
    cases hprevious
  | @copied previous c rest pieces _ _ ih =>
    cases name with
    | nil =>
      obtain ⟨rfl, _⟩ := List.cons.inj heq
      exact ⟨rest ++ after, rfl⟩
    | cons d name =>
      obtain ⟨rfl, hrest⟩ := List.cons.inj heq
      have hd : isIdentifierChar c = true :=
        isIdentifierChar_of_isNameChar (hname c List.mem_cons_self)
      obtain ⟨back', hback⟩ := ih (by simpa using hd)
        (fun e he => hname e (List.mem_cons_of_mem _ he)) hrest
      exact ⟨back', by rw [List.cons_append, hback, List.cons_append]⟩

/-- Behind an identifier no dollar tag comes up that the code does not have. -/
theorem Scans.dollarTag?_numberedText {previous : Option Char} {code after after' : List Char}
    {pieces : List Piece} (h : Scans previous code pieces)
    (hprevious : previous.any isIdentifierChar = true) (hhead : after'.head? = after.head?)
    (hafter : EndsName after) (hnone : dollarTag? (code ++ after) = none) :
    dollarTag? (numberedText highest names pieces ++ after') = none := by
  rw [Option.eq_none_iff_forall_ne_some] at hnone ⊢
  intro tag htag
  obtain ⟨name, back, hname, heq, rfl⟩ := dollarTag?_eq_some_iff.mp htag
  have hchars : ∀ c ∈ name, isNameChar c = true := by
    rcases hname with rfl | hname
    · simp
    · exact hname.isNameChar
  obtain ⟨back', hback⟩ := h.name_dollar hprevious hhead hafter hchars heq
  exact hnone _ (dollarTag?_eq_some_iff.mpr ⟨name, back', hname, hback, rfl⟩)

/-! ## Placeholders -/

/-- A run of characters without an `@` is copied. -/
theorem Scans.copied_run {previous : Option Char} {run rest : List Char} {pieces : List Piece}
    (hrun : ∀ c ∈ run, c ≠ '@') (hrest : Scans (run.getLast?.or previous) rest pieces) :
    Scans previous (run ++ rest) (run.map (fun c => .copied [c]) ++ pieces) := by
  induction run generalizing previous with
  | nil => exact hrest
  | cons c run ih =>
    refine .copied (fun hc => absurd hc (hrun c List.mem_cons_self)) ?_
    refine ih (fun d hd => hrun d (List.mem_cons_of_mem _ hd)) ?_
    cases hlast : run.getLast? with
    | none => simpa [List.getLast?_cons, hlast] using hrest
    | some d => simpa [List.getLast?_cons, hlast] using hrest

/-- The characters of a numbered placeholder may stand in an identifier. -/
theorem isIdentifierChar_of_mem_numbered {n : Nat} {c : Char} (h : c ∈ '$' :: Text.numeral n) :
    isIdentifierChar c = true := by
  rcases List.mem_cons.mp h with rfl | hdigit
  · decide
  · exact isIdentifierChar_of_isDigit (isDigit_of_mem_numeral hdigit)

/-- An identifier ends with a numbered placeholder. -/
theorem any_getLast?_numbered (n : Nat) (previous : Option Char) :
    (('$' :: Text.numeral n).getLast?.or previous).any isIdentifierChar = true := by
  rw [List.getLast?_eq_some_getLast (by simp), Option.some_or, Option.any_some]
  exact isIdentifierChar_of_mem_numbered (List.getLast_mem _)

/-- An identifier ends with the placeholder, too. -/
theorem IsName.any_getLast?_placeholder {name : List Char} (h : IsName name)
    (previous : Option Char) :
    (('@' :: name).getLast?.or previous).any isIdentifierChar = true := by
  have hlast := h.any_getLast?
  rw [List.getLast?_eq_some_getLast h.ne_nil] at hlast
  rw [List.getLast?_cons, List.getLast?_eq_some_getLast h.ne_nil]
  exact hlast

variable (highest names) in
/-- Numbered code is scanned without a placeholder. -/
theorem Scans.scans_numberedText {previous previous' : Option Char} {code : List Char}
    {pieces : List Piece} (h : Scans previous code pieces)
    (hprevious : previous'.any isIdentifierChar = previous.any isIdentifierChar) :
    ∃ pieces', Scans previous' (numberedText highest names pieces) pieces' ∧
      ∀ name, .placeholder name ∉ pieces' := by
  induction h generalizing previous' with
  | done => exact ⟨[], .done previous', by simp⟩
  | pair _ ih =>
    obtain ⟨pieces', hscan, hnone⟩ := ih rfl
    exact ⟨_, .pair hscan, by simpa using hnone⟩
  | @placeholder previous name rest pieces _ hname _ _ ih =>
    obtain ⟨pieces', hscan, hnone⟩ :=
      ih ((any_getLast?_numbered (numberOf highest names name) previous').trans
        hname.any_getLast?.symm)
    have hrun : ∀ c ∈ '$' :: Text.numeral (numberOf highest names name), c ≠ '@' := by
      intro c hc
      rcases List.mem_cons.mp hc with rfl | hdigit
      · decide
      · exact ne_of_isDigit (isDigit_of_mem_numeral hdigit) '@' (by decide)
    exact ⟨_, .copied_run hrun hscan, by simpa using hnone⟩
  | @copied previous c rest pieces hcopied hrest ih =>
    obtain ⟨pieces', hscan, hnone⟩ := ih rfl
    refine ⟨.copied [c] :: pieces', .copied ?_ hscan, by simpa using hnone⟩
    rintro rfl
    change (numberedText highest names pieces).head? ≠ some '@' ∧ (_ ∨
      ∀ d ∈ (numberedText highest names pieces).head?, isNameStart d = false)
    obtain ⟨hpair, hor⟩ := hcopied rfl
    refine ⟨by rwa [hrest.head?_numberedText_of_ne hpair], ?_⟩
    rw [hprevious]
    exact hor.imp_right fun hstart => hrest.head?_numberedText_of_forall (by decide) hstart

/-! ## How the texts end -/

/-- The same character, or two characters of identifiers. -/
def SameEnd (last last' : Option Char) : Prop :=
  last = last' ∨ last.any isIdentifierChar = true ∧ last'.any isIdentifierChar = true

theorem SameEnd.any_eq {last last' : Option Char} (h : SameEnd last last') :
    last'.any isIdentifierChar = last.any isIdentifierChar := by
  rcases h with rfl | ⟨hlast, hlast'⟩
  · rfl
  · rw [hlast, hlast']

/-- Two texts with the same end, also when they are empty and the texts before them have it. -/
def EndsAlike (text text' : List Char) : Prop :=
  ∀ previous previous', SameEnd previous previous' →
    SameEnd (text.getLast?.or previous) (text'.getLast?.or previous')

theorem EndsAlike.refl (text : List Char) : EndsAlike text text := by
  intro previous previous' h
  cases text.getLast? with
  | none => exact h
  | some c => exact Or.inl rfl

theorem EndsAlike.append {front front' back back' : List Char} (hfront : EndsAlike front front')
    (hback : EndsAlike back back') : EndsAlike (front ++ back) (front' ++ back') := by
  intro previous previous' h
  rw [List.getLast?_append, List.getLast?_append, Option.or_assoc, Option.or_assoc]
  exact hback _ _ (hfront _ _ h)

/-- A placeholder and its number both end identifiers. -/
theorem endsAlike_placeholder {name : List Char} (hname : IsName name) (n : Nat) :
    EndsAlike ('@' :: name) ('$' :: Text.numeral n) := by
  intro previous previous' _
  exact Or.inr ⟨hname.any_getLast?_placeholder previous, any_getLast?_numbered n previous'⟩

/-- Numbered code ends alike. -/
theorem Scans.endsAlike {previous : Option Char} {code : List Char} {pieces : List Piece}
    (h : Scans previous code pieces) : EndsAlike code (numberedText highest names pieces) := by
  induction h with
  | done => exact .refl []
  | pair _ ih => exact .append (.refl ['@', '@']) ih
  | placeholder _ hname _ _ ih => exact .append (endsAlike_placeholder hname _) ih
  | @copied previous c rest pieces _ _ ih => exact .append (.refl [c]) ih

/-! ## Numbers -/

/-- The numbers in numbered code are those of the code and those of its placeholders. -/
theorem Scans.mem_positionalDigits {previous : Option Char} {code digits : List Char}
    {pieces : List Piece} {afterIdentifier : Bool} (h : Scans previous code pieces)
    (hdigits : digits ∈ positionalDigits afterIdentifier (numberedText highest names pieces)) :
    digits ∈ positionalDigits afterIdentifier code ∨
      ∃ name, .placeholder name ∈ pieces ∧ digits = Text.numeral (numberOf highest names name) := by
  induction h generalizing afterIdentifier with
  | done => exact Or.inl hdigits
  | pair _ ih =>
    simp only [numberedText_copied, List.cons_append, List.nil_append] at hdigits
    rw [positionalDigits_cons_of_ne (by decide), positionalDigits_cons_of_ne (by decide)]
      at hdigits ⊢
    simpa using ih hdigits
  | @placeholder previous name rest pieces _ hname hends hscan ih =>
    have hnumeral : ∀ d ∈ Text.numeral (numberOf highest names name), Text.isDigit d = true :=
      fun _ => isDigit_of_mem_numeral
    have hrest : ∀ c ∈ (numberedText highest names pieces).head?, Text.isDigit c = false :=
      hscan.head?_numberedText_of_forall (by decide) hends.isDigit_eq_false
    rw [positionalDigits_name _ hname]
    rw [numberedText_placeholder, List.cons_append, positionalDigits_dollar,
      leadingDigits_append hnumeral hrest,
      positionalDigits_run fun d hd => isNameChar_of_isDigit (hnumeral d hd)] at hdigits
    rcases List.mem_append.mp hdigits with hhere | hlater
    · split at hhere
      · cases hhere
      · exact Or.inr ⟨name, List.mem_cons_self, List.mem_singleton.mp hhere⟩
    · rcases ih hlater with hcode | ⟨other, hother, heq⟩
      · exact Or.inl hcode
      · exact Or.inr ⟨other, List.mem_cons_of_mem _ hother, heq⟩
  | @copied previous c rest pieces _ hscan ih =>
    have hlater {afterIdentifier : Bool}
        (hrest : digits ∈ positionalDigits afterIdentifier (numberedText highest names pieces)) :
        digits ∈ positionalDigits afterIdentifier rest ∨
          ∃ name, .placeholder name ∈ .copied [c] :: pieces ∧
            digits = Text.numeral (numberOf highest names name) := by
      simpa using ih hrest
    rw [numberedText_copied, List.singleton_append] at hdigits
    by_cases hc : c = '$'
    · subst hc
      rw [positionalDigits_dollar, hscan.leadingDigits_numberedText, List.mem_append] at hdigits
      rw [positionalDigits_dollar, List.mem_append]
      rcases hdigits with hhere | hrest
      · exact Or.inl (Or.inl hhere)
      · exact (hlater hrest).imp_left Or.inr
    · rw [positionalDigits_cons_of_ne hc] at hdigits ⊢
      exact hlater hdigits

end QueryAudit.Query
