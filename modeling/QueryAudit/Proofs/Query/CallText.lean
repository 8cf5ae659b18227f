import QueryAudit.Proofs.Query.CallHead
import QueryAudit.Proofs.Results
import Mathlib.Data.Option.Basic

/-!
# Text in front of a call

A query that is one call has no placeholders in front of its opening parenthesis. There stand
blanks, the keyword and the names, of which only quoted ones may hold an `@`, and the lexer skips
those.
-/

namespace QueryAudit.Query

/-! ## Texts without placeholders -/

/-- A text that the lexer goes through without coming upon a placeholder, given in reverse the text
before it: it has no `@` in its code, and every dollar sign there belongs to an identifier. -/
inductive Quiet (after : List Char) : List Char → List Char → Prop
  | done (before : List Char) : Quiet after before []
  | code {before rest : List Char} {c : Char} : skippedAfter? before c (rest ++ after) = none →
      c ≠ '@' → (c = '$' → before.head?.any isIdentifierChar = true) →
      Quiet after (c :: before) rest → Quiet after before (c :: rest)
  | skipped {before text rest : List Char} {c : Char} :
      skippedAfter? before c (text ++ (rest ++ after)) = some text.length →
      Quiet after ((c :: text).reverse ++ before) rest → Quiet after before (c :: text ++ rest)

theorem Quiet.append {before front back after : List Char} (h : Quiet (back ++ after) before front)
    (hback : Quiet after (front.reverse ++ before) back) : Quiet after before (front ++ back) := by
  induction h with
  | done => exact hback
  | @code before rest c hnone hsign hdollar _ ih =>
    rw [← List.append_assoc] at hnone
    exact .code hnone hsign hdollar (ih (by simpa using hback))
  | @skipped before text rest c hskip _ ih =>
    rw [List.append_assoc]
    rw [← List.append_assoc rest] at hskip
    exact .skipped hskip (ih (by simpa using hback))

/-- The marks of a text without placeholders. -/
theorem Quiet.marks {before text after : List Char} (h : Quiet after before text) :
    ∃ marks, marksFrom before (text ++ after) =
        marks ++ marksFrom (text.reverse ++ before) after ∧
      ∀ left sign right, marks = left ++ (sign, true) :: right → sign ≠ '@' ∧
        (sign = '$' →
          ((left.map Prod.fst).getLast?.or before.head?).any isIdentifierChar = true) := by
  induction h with
  | done => exact ⟨[], rfl, by simp⟩
  | @code before rest c hnone hsign hdollar _ ih =>
    obtain ⟨marks, hmarks, hquiet⟩ := ih
    refine ⟨(c, true) :: marks, ?_, ?_⟩
    · rw [List.cons_append, marksFrom_of_code hnone, hmarks]
      simp
    · intro left sign right heq
      cases left with
      | nil =>
        obtain ⟨hhead, _⟩ := List.cons.inj heq
        obtain ⟨rfl, _⟩ := Prod.mk.inj hhead
        exact ⟨hsign, by simpa using hdollar⟩
      | cons mark left =>
        obtain ⟨rfl, htail⟩ := List.cons.inj heq
        have hlater := hquiet left sign right htail
        rw [List.map_cons, List.getLast?_cons]
        cases hlast : (left.map Prod.fst).getLast? <;> simpa [hlast] using hlater
  | @skipped before text rest c hskip _ ih =>
    obtain ⟨marks, hmarks, hquiet⟩ := ih
    refine ⟨((c :: text).map fun d => (d, false)) ++ marks, ?_, ?_⟩
    · rw [List.append_assoc, List.cons_append, marksFrom_of_skipped hskip, List.take_left',
        List.drop_left', hmarks] <;> simp
    · intro left sign right heq
      obtain ⟨more, rfl, hmore⟩ := skipped_append_eq heq
      have hlater := hquiet more sign right hmore
      have hlast (last : Option Char) : last.or ((c :: text).reverse ++ before).head? =
          (last.or (c :: text).getLast?).or before.head? := by
        rw [List.head?_append, List.head?_reverse, Option.or_assoc]
      rw [hlast] at hlater
      rw [List.map_append, List.getLast?_append, List.map_map]
      simpa [Function.comp_def] using hlater

/-- A run of characters of which none is a sign. -/
theorem quiet_run {before after run : List Char}
    (h : ∀ c ∈ run, opensSpan c = false ∧ c ≠ '@') : Quiet after before run := by
  induction run generalizing before with
  | nil => exact .done before
  | cons c run ih =>
    obtain ⟨hopens, hsign⟩ := h c List.mem_cons_self
    refine .code (skippedAfter?_eq_none hopens) hsign ?_
      (ih fun d hd => h d (List.mem_cons_of_mem _ hd))
    rintro rfl
    exact absurd hopens (by decide)

theorem quiet_blanks {before after blanks : List Char}
    (h : ∀ c ∈ blanks, Text.isBlank c = true) : Quiet after before blanks :=
  quiet_run fun c hc => (blank_classes (h c hc)).2.2

/-- The rest of an identifier, with dollar signs. -/
theorem quiet_identifier {before after run : List Char}
    (hbefore : before.head?.any isIdentifierChar = true)
    (h : ∀ c ∈ run, isNameChar c = true ∨ c = '$') : Quiet after before run := by
  induction run generalizing before with
  | nil => exact .done before
  | cons c run ih =>
    have hrest {before : List Char} (hc : before.head?.any isIdentifierChar = true) :=
      @ih before hc fun d hd => h d (List.mem_cons_of_mem _ hd)
    rcases h c List.mem_cons_self with hname | rfl
    · refine .code (skippedAfter?_eq_none (opensSpan_of_isNameChar hname)) ?_ (fun _ => hbefore) ?_
      · rintro rfl
        exact absurd hname (by decide)
      · exact hrest (by simpa using isIdentifierChar_of_isNameChar hname)
    · have hdollar : isIdentifierChar '$' = true := by decide
      refine .code ?_ (by decide) (fun _ => hbefore) (hrest hdollar)
      simp [skippedAfter?, hbefore]

/-! ## The head of a call -/

/-- No sign is a letter of the keyword. -/
theorem not_sign_of_isLetter {letter c : Char} (hletter : letter ∈ "select".toList)
    (h : isLetter letter c = true) : opensSpan c = false ∧ c ≠ '@' := by
  have hsigns : "select".toList.all (fun letter =>
      ['\'', '"', '-', '/', '$', '@'].all fun sign => !isLetter letter sign) = true := by decide
  have hnot (sign : Char) (hsign : sign ∈ ['\'', '"', '-', '/', '$', '@']) : c ≠ sign := by
    rintro rfl
    have hnone := List.all_eq_true.mp (List.all_eq_true.mp hsigns letter hletter) c hsign
    rw [h] at hnone
    cases hnone
  refine ⟨?_, hnot '@' (by decide)⟩
  simp [opensSpan, hnot '\'' (by decide), hnot '"' (by decide), hnot '-' (by decide),
    hnot '/' (by decide), hnot '$' (by decide)]

theorem quotedLength_doubled {inside after : List Char} (hafter : after.head? ≠ some '"') :
    quotedLength '"' false (doubled inside ++ '"' :: after) = (doubled inside ++ ['"']).length := by
  induction inside with
  | nil =>
    rw [doubled, List.flatMap_nil, List.nil_append, List.nil_append]
    cases after with
    | nil => rfl
    | cons c after =>
      have hc : c ≠ '"' := by simpa using hafter
      simp [quotedLength, hc]
  | cons c inside ih =>
    by_cases hc : c = '"'
    · subst hc
      have hread (text : List Char) :
          quotedLength '"' false ('"' :: '"' :: text) = 2 + quotedLength '"' false text := by
        rw [quotedLength]
        rfl
      rw [doubled_cons, if_pos rfl, List.append_assoc, List.append_assoc]
      refine (hread _).trans ((congrArg (2 + ·) ih).trans ?_)
      simp only [List.length_append, List.length_cons, List.length_nil]
    · have hread (text : List Char) (hne : text ≠ []) :
          quotedLength '"' false (c :: text) = 1 + quotedLength '"' false text := by
        obtain ⟨d, rest, rfl⟩ := List.exists_cons_of_ne_nil hne
        rw [quotedLength]
        simp [hc]
      rw [doubled_cons, if_neg hc, List.append_assoc, List.append_assoc]
      refine (hread _ (by simp)).trans ((congrArg (1 + ·) ih).trans ?_)
      simp only [List.length_append, List.length_cons, List.length_nil]

/-- The lexer finds no placeholder in an identifier, plain or quoted. -/
theorem Identifier.quiet (identifier : Identifier) {before after : List Char}
    (hafter : identifier.EndsBefore after) : Quiet after before identifier.source := by
  cases identifier with
  | plain first others hfirst hothers =>
    have hname := isNameChar_of_isNameStart hfirst
    refine .code (skippedAfter?_eq_none (opensSpan_of_isNameChar hname)) ?_ ?_ ?_
    · rintro rfl
      exact absurd hname (by decide)
    · rintro rfl
      exact absurd hname (by decide)
    · refine quiet_identifier (by simpa using isIdentifierChar_of_isNameChar hname) fun c hc => ?_
      simpa using hothers c hc
  | quoted inside hne =>
    have hskip : skippedAfter? before '"' (doubled inside ++ ['"'] ++ ([] ++ after)) =
        some (doubled inside ++ ['"']).length := by
      rw [List.nil_append, List.append_assoc, ← quotedLength_doubled hafter]
      rfl
    have hquiet := Quiet.skipped hskip (.done _)
    rwa [List.append_nil] at hquiet

/-- The lexer finds no placeholder in a qualifier. -/
theorem quiet_textOf (qualifier : Option Qualifier) {before after : List Char} :
    Quiet after before (Qualifier.textOf qualifier) := by
  cases qualifier with
  | none => exact .done before
  | some qualifier =>
    obtain ⟨schema, space, space'⟩ := qualifier
    refine (schema.quiet ?_).append (.append (quiet_blanks space.property) ?_)
    · simpa using schema.endsBefore_of_blanks space (Or.inr rfl) (space'.val ++ after)
    · refine .code (skippedAfter?_eq_none (by decide)) (by decide) ?_ (quiet_blanks space'.property)
      rintro ⟨⟩

/-- The lexer finds no placeholder in front of the opening parenthesis. -/
theorem CallHead.quiet (head : CallHead) (rest : List Char) :
    Quiet ('(' :: rest) [] head.text := by
  obtain ⟨front, keyword, hkeyword, gap, hgap, qualifier, name, space⟩ := head
  have hletters : ∀ c ∈ keyword, opensSpan c = false ∧ c ≠ '@' := by
    intro c hc
    obtain ⟨letter, hmem, hletter⟩ := exists_of_mem_right hkeyword hc
    exact not_sign_of_isLetter hmem hletter
  have hname : name.EndsBefore (space.val ++ '(' :: rest) :=
    name.endsBefore_of_blanks space (Or.inl rfl) rest
  exact (quiet_blanks front.property).append ((quiet_run hletters).append
    ((quiet_blanks gap.property).append ((quiet_textOf qualifier).append
      ((name.quiet hname).append (quiet_blanks space.property)))))

/-- The opening parenthesis is code, and the lexer starts anew behind it. -/
theorem CallHead.marked_text (head : CallHead) (rest : List Char) :
    ∃ marks, marked (head.text ++ '(' :: rest) = marks ++ ('(', true) :: marked rest ∧
      marks.map Prod.fst = head.text ∧
      ∀ left sign right, marks = left ++ (sign, true) :: right → sign ≠ '@' ∧
        (sign = '$' → (left.map Prod.fst).getLast?.any isIdentifierChar = true) := by
  obtain ⟨marks, hmarks, hquiet⟩ := (head.quiet rest).marks
  have hopening : skippedAfter? (head.text.reverse ++ []) '(' rest = none :=
    skippedAfter?_eq_none (by decide)
  rw [marksFrom_of_code hopening,
    (sameBehind_of_not_identifier (by decide) _).marksFrom] at hmarks
  refine ⟨marks, hmarks, ?_, by simpa using hquiet⟩
  have hchars := congrArg (List.map Prod.fst) hmarks
  rw [marksFrom_map_fst, List.map_append, List.map_cons, marksFrom_map_fst] at hchars
  exact (List.append_cancel_right hchars).symm

end QueryAudit.Query
