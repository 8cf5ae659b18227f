import QueryAudit.Proofs.Query.Lexing

/-!
# Marks of characters

Every character of a text is marked as code or as skipped. The marks of a text are computed
character by character, they depend on the text before it only through look-behind, and cutting
the text off cuts the marks off.
-/

namespace QueryAudit.Query

/-- The characters of a span with their mark. -/
def Span.marks (span : Span) : List (Char × Bool) :=
  span.text.map fun c => (c, span.isCode)

@[simp] theorem Span.marks_map_fst (span : Span) : span.marks.map Prod.fst = span.text := by
  simp [Span.marks, Function.comp_def]

/-- The marked characters of spans are those of their source. -/
theorem flatMap_marks_map_fst (cut : List Span) :
    (cut.flatMap Span.marks).map Prod.fst = sourceOf cut := by
  simp [sourceOf, List.map_flatMap]

/-- The marks of a text, given in reverse the text before it. -/
def marksFrom (before text : List Char) : List (Char × Bool) :=
  (spansFrom before [] text).flatMap Span.marks

theorem marked_eq_marksFrom (text : List Char) : marked text = marksFrom [] text := rfl

theorem codeSpan_marks (code : List Char) :
    (codeSpan code).flatMap Span.marks = code.reverse.map fun c => (c, true) := by
  unfold codeSpan
  split
  · rename_i h
    simp [List.isEmpty_iff.mp h]
  · simp [Span.marks]

/-- Code that the lexer carries comes before the other marks. -/
theorem spansFrom_marks (before code text : List Char) :
    (spansFrom before code text).flatMap Span.marks =
      (code.reverse.map fun c => (c, true)) ++ marksFrom before text := by
  induction text generalizing before code with
  | nil => simp [marksFrom, spansFrom, codeSpan_marks]
  | cons c rest ih =>
    cases hskip : skippedAfter? before c rest with
    | none =>
      have hread (code : List Char) :
          spansFrom before code (c :: rest) = spansFrom (c :: before) (c :: code) rest := by
        rw [spansFrom, hskip]
      rw [marksFrom, hread, hread, ih, ih]
      simp
    | some k =>
      rw [marksFrom, spansFrom_skipped hskip, spansFrom_skipped hskip]
      simp [codeSpan_marks]

@[simp] theorem marksFrom_nil (before : List Char) : marksFrom before [] = [] := by
  simp [marksFrom, spansFrom, codeSpan]

theorem marksFrom_of_code {before rest : List Char} {c : Char}
    (h : skippedAfter? before c rest = none) :
    marksFrom before (c :: rest) = (c, true) :: marksFrom (c :: before) rest := by
  rw [marksFrom, spansFrom, h]
  simp [spansFrom_marks]

theorem marksFrom_of_skipped {before rest : List Char} {c : Char} {k : Nat}
    (h : skippedAfter? before c rest = some k) :
    marksFrom before (c :: rest) = ((c :: rest.take k).map fun d => (d, false)) ++
      marksFrom ((c :: rest.take k).reverse ++ before) (rest.drop k) := by
  rw [marksFrom, spansFrom_skipped h]
  simp [codeSpan, Span.marks, marksFrom]

/-- The marks are those of the characters of the text. -/
theorem marksFrom_map_fst (before text : List Char) :
    (marksFrom before text).map Prod.fst = text := by
  have hsource : sourceOf (spansFrom before [] text) = text := (spansFrom_eq_iff.mp rfl).1
  rw [marksFrom, flatMap_marks_map_fst, hsource]

theorem marksFrom_length (before text : List Char) :
    (marksFrom before text).length = text.length := by
  rw [← List.length_map Prod.fst, marksFrom_map_fst]

@[simp] theorem marked_map_fst (text : List Char) : (marked text).map Prod.fst = text :=
  marksFrom_map_fst [] text

@[simp] theorem marked_length (text : List Char) : (marked text).length = text.length :=
  marksFrom_length [] text

/-- The text behind matters to marks only as far as it matters to the lexer. -/
theorem SameBehind.marksFrom {left right : List Char} (h : SameBehind left right)
    (text : List Char) : marksFrom left text = marksFrom right text := by
  induction right, text using lexing_induction generalizing left with
  | nil right => rw [marksFrom_nil, marksFrom_nil]
  | code right c rest hskip ih =>
    have hleft := (h.skippedAfter? c rest).trans hskip
    rw [marksFrom_of_code hleft, marksFrom_of_code hskip, ih (.cons c h.identifier)]
  | skipped right c rest k hskip ih =>
    have hleft := (h.skippedAfter? c rest).trans hskip
    rw [marksFrom_of_skipped hleft, marksFrom_of_skipped hskip, ih (h.append (c :: rest.take k))]

/-- Marks of a text cut short are cut short, unless the cut goes through an opening token. -/
theorem marksFrom_prefix {before text after : List Char} (hafter : EndsOpening after) :
    marksFrom before text <+: marksFrom before (text ++ after) := by
  induction before, text using lexing_induction with
  | nil before =>
    rw [marksFrom_nil]
    exact List.nil_prefix
  | code before c rest hskip ih =>
    have hlonger : skippedAfter? before c (rest ++ after) = none := by
      rwa [skippedAfter?_append hafter, Option.map_eq_none_iff] at hskip
    rw [List.cons_append, marksFrom_of_code hskip, marksFrom_of_code hlonger,
      List.prefix_cons_inj]
    exact ih
  | skipped before c rest k hskip ih =>
    rw [List.cons_append, marksFrom_of_skipped hskip]
    rw [skippedAfter?_append hafter, Option.map_eq_some_iff] at hskip
    obtain ⟨longer, hlonger, hmin⟩ := hskip
    rw [marksFrom_of_skipped hlonger]
    by_cases hinside : longer ≤ rest.length
    · obtain rfl : longer = k := by omega
      rw [List.take_append_of_le_length hinside, List.drop_append_of_le_length hinside,
        List.prefix_append_right_inj]
      exact ih
    · have hlong : rest.length ≤ longer := by omega
      obtain rfl : rest.length = k := by omega
      rw [List.drop_length, marksFrom_nil, List.append_nil, List.take_length, List.take_append,
        List.take_of_length_le hlong, List.map_cons, List.map_cons, List.map_append,
        List.cons_append, List.append_assoc, List.prefix_cons_inj]
      exact List.prefix_append _ _

/-- An element of two lists put together stands in the first or in the second. -/
theorem append_eq_append_cons {α : Type} {first second front back : List α} {x : α}
    (h : first ++ second = front ++ x :: back) :
    (∃ more, first = front ++ x :: more ∧ back = more ++ second) ∨
      ∃ more, front = first ++ more ∧ second = more ++ x :: back := by
  rcases List.append_eq_append_iff.mp h with ⟨more, rfl, hsecond⟩ | ⟨more, rfl, hback⟩
  · exact Or.inr ⟨more, rfl, hsecond⟩
  · cases more with
    | nil => exact Or.inr ⟨[], by simp, by simpa using hback.symm⟩
    | cons y more =>
      obtain ⟨rfl, rfl⟩ := List.cons.inj hback
      exact Or.inl ⟨more, rfl, rfl⟩

/-- Skipped characters are not code. -/
theorem not_mem_skipped (run : List Char) (c : Char) : (c, true) ∉ run.map fun d => (d, false) := by
  intro hmem
  obtain ⟨_, _, heq⟩ := List.mem_map.mp hmem
  cases heq

/-- What stands in code behind skipped characters stands after them. -/
theorem skipped_append_eq {run : List Char} {rest front back : List (Char × Bool)} {c : Char}
    (h : (run.map fun d => (d, false)) ++ rest = front ++ (c, true) :: back) :
    ∃ more, front = (run.map fun d => (d, false)) ++ more ∧ rest = more ++ (c, true) :: back := by
  rcases append_eq_append_cons h with ⟨more, hskipped, _⟩ | hlater
  · exact absurd (by rw [hskipped]; simp) (not_mem_skipped run c)
  · exact hlater

/-- A character that is marked as code stands in a span of code. -/
theorem exists_span_of_mark {cut : List Span} {front back : List (Char × Bool)} {c : Char}
    (h : cut.flatMap Span.marks = front ++ (c, true) :: back) :
    ∃ before code after left right, cut = before ++ ⟨code, true⟩ :: after ∧
      code = left ++ c :: right ∧ front.map Prod.fst = sourceOf before ++ left ∧
      back.map Prod.fst = right ++ sourceOf after := by
  induction cut generalizing front with
  | nil => simp at h
  | cons span rest ih =>
    obtain ⟨text, isCode⟩ := span
    have htext : (Span.marks ⟨text, isCode⟩).map Prod.fst = text := Span.marks_map_fst _
    rw [List.flatMap_cons] at h
    rcases append_eq_append_cons h with ⟨more, hhere, rfl⟩ | ⟨more, rfl, hlater⟩
    · obtain rfl : isCode = true := by
        have hmem : (c, true) ∈ Span.marks ⟨text, isCode⟩ := by
          rw [hhere]
          simp
        obtain ⟨_, _, heq⟩ := List.mem_map.mp hmem
        exact (Prod.mk.inj heq).2
      refine ⟨[], text, rest, front.map Prod.fst, more.map Prod.fst, rfl, ?_, rfl, ?_⟩
      · rw [← htext, hhere, List.map_append, List.map_cons]
      · rw [List.map_append, flatMap_marks_map_fst]
    · obtain ⟨before, code, after, left, right, rfl, hcode, hleft, hright⟩ := ih hlater
      refine ⟨⟨text, isCode⟩ :: before, code, after, left, right, rfl, hcode, ?_, hright⟩
      rw [List.map_append, htext, hleft, sourceOf_cons, List.append_assoc]

/-- At a character of the code the lexer starts anew. -/
theorem marksFrom_split {before text : List Char} {front back : List (Char × Bool)} {c : Char}
    (h : marksFrom before text = front ++ (c, true) :: back) :
    ∃ first last, text = first ++ c :: last ∧ front.map Prod.fst = first ∧
      back = marksFrom (c :: first.reverse ++ before) last := by
  induction before, text using lexing_induction generalizing front with
  | nil before => simp at h
  | code before d rest hskip ih =>
    rw [marksFrom_of_code hskip] at h
    cases front with
    | nil =>
      obtain ⟨hhead, rfl⟩ := List.cons.inj h
      obtain ⟨rfl, _⟩ := Prod.mk.inj hhead
      exact ⟨[], rest, rfl, rfl, rfl⟩
    | cons mark front =>
      obtain ⟨rfl, htail⟩ := List.cons.inj h
      obtain ⟨first, last, rfl, hfirst, rfl⟩ := ih htail
      exact ⟨d :: first, last, rfl, by rw [List.map_cons, hfirst], by simp⟩
  | skipped before d rest k hskip ih =>
    rw [marksFrom_of_skipped hskip] at h
    obtain ⟨more, rfl, hmore⟩ := skipped_append_eq h
    obtain ⟨first, last, hlast, hfirst, rfl⟩ := ih hmore
    refine ⟨d :: rest.take k ++ first, last, ?_, ?_, by simp⟩
    · rw [List.cons_append, List.cons_append, List.append_assoc, ← hlast, List.take_append_drop]
    · rw [List.map_append, hfirst, List.map_map]
      simp [Function.comp_def]

/-- Cutting a text at a character of the code that is no identifier character cuts the marks into
those of the two parts. -/
theorem marked_split {text : List Char} {front back : List (Char × Bool)} {c : Char}
    (hends : continuesOpening c = false) (hidentifier : isIdentifierChar c = false)
    (h : marked text = front ++ (c, true) :: back) :
    ∃ first last, text = first ++ c :: last ∧ front = marked first ∧ back = marked last := by
  rw [marked_eq_marksFrom] at h
  obtain ⟨first, last, rfl, hfirst, rfl⟩ := marksFrom_split h
  refine ⟨first, last, rfl, ?_, (sameBehind_of_not_identifier hidentifier _).marksFrom last⟩
  have hafter : EndsOpening (c :: last) := by
    rintro d ⟨⟩
    exact hends
  obtain ⟨rest, hrest⟩ : marksFrom [] first <+: marksFrom [] (first ++ c :: last) :=
    marksFrom_prefix hafter
  have hlength : front.length = (marksFrom [] first).length := by
    rw [marksFrom_length, ← hfirst, List.length_map]
  rw [h] at hrest
  exact (List.append_inj hrest.symm hlength).1

end QueryAudit.Query
