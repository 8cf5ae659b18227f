import QueryAudit.Proofs.Query.Skipping

/-!
# When spans cut a text rightly

The lexer reads a text from left to right and carries what it has read. The relation `Lexes` says
of a finished list of spans, with nothing carried, that it is the cut of its own text. It holds of
one list of spans only, so later arguments may change spans and check the relation again.
-/

namespace QueryAudit.Query

/-- The text of spans put together. -/
def sourceOf (cut : List Span) : List Char :=
  cut.flatMap Span.text

@[simp] theorem sourceOf_nil : sourceOf [] = [] := rfl

@[simp] theorem sourceOf_cons (span : Span) (rest : List Span) :
    sourceOf (span :: rest) = span.text ++ sourceOf rest := rfl

@[simp] theorem sourceOf_append (front back : List Span) :
    sourceOf (front ++ back) = sourceOf front ++ sourceOf back := List.flatMap_append

/-- No skipped span starts in a run of characters with the given texts before and after it. -/
def StaysCode (before after : List Char) : List Char → Prop
  | [] => True
  | c :: rest =>
    skippedAfter? before c (rest ++ after) = none ∧ StaysCode (c :: before) after rest

theorem staysCode_append {before after front back : List Char} :
    StaysCode before after (front ++ back) ↔
      StaysCode before (back ++ after) front ∧ StaysCode (front.reverse ++ before) after back := by
  induction front generalizing before with
  | nil => simp [StaysCode]
  | cons c front ih => simp [StaysCode, ih, and_assoc]

/-- Spans that cut their own text rightly, given in reverse the text before it: code is what no
skipped span starts in, a skipped span is as long as it reaches, and code is not cut in two. -/
inductive Lexes : List Char → List Span → Prop
  | done (before : List Char) : Lexes before []
  | code {before code : List Char} {rest : List Span} : code ≠ [] →
      StaysCode before (sourceOf rest) code → (∀ span ∈ rest.head?, span.isCode = false) →
      Lexes (code.reverse ++ before) rest → Lexes before (⟨code, true⟩ :: rest)
  | skipped {before text : List Char} {c : Char} {rest : List Span} :
      skippedAfter? before c (text ++ sourceOf rest) = some text.length →
      Lexes ((c :: text).reverse ++ before) rest → Lexes before (⟨c :: text, false⟩ :: rest)

theorem Lexes.skippedAfter?_eq {before text : List Char} {c : Char} {rest : List Span}
    (h : Lexes before (⟨c :: text, false⟩ :: rest)) :
    skippedAfter? before c (text ++ sourceOf rest) = some text.length := by
  cases h
  assumption

/-- What a right span of code says. -/
theorem Lexes.of_code {before code : List Char} {rest : List Span}
    (h : Lexes before (⟨code, true⟩ :: rest)) :
    StaysCode before (sourceOf rest) code ∧ (∀ span ∈ rest.head?, span.isCode = false) ∧
      Lexes (code.reverse ++ before) rest := by
  cases h with
  | code _ hcode hhead hrest => exact ⟨hcode, hhead, hrest⟩

/-- The spans at the end of a right cut are cut rightly behind the text of the others. -/
theorem Lexes.append_right {before : List Char} {front back : List Span}
    (h : Lexes before (front ++ back)) : Lexes ((sourceOf front).reverse ++ before) back := by
  induction front generalizing before with
  | nil => exact h
  | cons span front ih =>
    rw [List.cons_append] at h
    rw [sourceOf_cons, List.reverse_append, List.append_assoc]
    cases h with
    | code _ _ _ hrest => exact ih hrest
    | skipped _ hrest => exact ih hrest

/-- Behind code no name goes on. -/
theorem Lexes.endsName {before : List Char} {cut : List Span} (h : Lexes before cut)
    (hhead : ∀ span ∈ cut.head?, span.isCode = false) : EndsName (sourceOf cut) := by
  cases h with
  | done => simp [EndsName]
  | code => simp at hhead
  | @skipped _ text c rest hskip _ =>
    rintro d ⟨⟩
    rw [Bool.eq_false_iff]
    intro hname
    have hopens := opensSpan_of_skippedAfter? hskip
    rw [opensSpan_of_isNameChar hname] at hopens
    cases hopens

theorem Lexes.endsName_tail {before code : List Char} {rest : List Span}
    (h : Lexes before (⟨code, true⟩ :: rest)) : EndsName (sourceOf rest) := by
  obtain ⟨_, hhead, hrest⟩ := h.of_code
  exact hrest.endsName hhead

/-- Code that has been read joins the code after it. -/
theorem spansFrom_code {before code run after : List Char} (h : StaysCode before after run) :
    spansFrom before code (run ++ after) =
      spansFrom (run.reverse ++ before) (run.reverse ++ code) after := by
  induction run generalizing before code with
  | nil => rfl
  | cons c run ih =>
    rw [List.cons_append, spansFrom, h.1]
    simp only [ih h.2, List.reverse_cons, List.append_assoc, List.singleton_append]

theorem spansFrom_skipped {before code rest : List Char} {c : Char} {k : Nat}
    (h : skippedAfter? before c rest = some k) :
    spansFrom before code (c :: rest) = codeSpan code ++ ⟨c :: rest.take k, false⟩ ::
      spansFrom ((c :: rest.take k).reverse ++ before) [] (rest.drop k) := by
  rw [spansFrom, h]

theorem codeSpan_reverse {code : List Char} (h : code ≠ []) :
    codeSpan code.reverse = [⟨code, true⟩] := by
  simp [codeSpan, h]

/-- The lexer gives back every right cut. -/
theorem Lexes.spansFrom_eq {before : List Char} {cut : List Span} (h : Lexes before cut) :
    spansFrom before [] (sourceOf cut) = cut := by
  induction h with
  | done before => simp [spansFrom, codeSpan]
  | @skipped before text c rest hskip _ ih =>
    rw [sourceOf_cons, List.cons_append, spansFrom_skipped hskip, List.take_left', List.drop_left',
      ih] <;> rfl
  | @code before code rest hne hcode hhead hrest ih =>
    rw [sourceOf_cons, spansFrom_code hcode, List.append_nil]
    cases hrest with
    | done => rw [sourceOf_nil, spansFrom, codeSpan_reverse hne]
    | code => simp at hhead
    | skipped hskip _ =>
      rw [sourceOf_cons, List.cons_append, spansFrom_skipped hskip] at ih ⊢
      rw [codeSpan_reverse hne]
      simpa [codeSpan] using ih

/-- Code that the lexer carries becomes a span of its own in front of a right cut. -/
theorem lexes_codeSpan {before code : List Char} {rest : List Span}
    (h : StaysCode before (sourceOf rest) code.reverse)
    (hhead : ∀ span ∈ rest.head?, span.isCode = false) (hrest : Lexes (code ++ before) rest) :
    Lexes before (codeSpan code ++ rest) ∧
      sourceOf (codeSpan code ++ rest) = code.reverse ++ sourceOf rest := by
  by_cases hcode : code = []
  · subst hcode
    exact ⟨hrest, rfl⟩
  · rw [← List.reverse_reverse code, codeSpan_reverse (by simpa using hcode)]
    refine ⟨.code (by simpa using hcode) h hhead ?_, by simp⟩
    rwa [List.reverse_reverse]

/-- Induction on a text the way the lexer reads it: by a character of the code, or by what it skips,
and always with the text before. -/
theorem lexing_induction {motive : List Char → List Char → Prop}
    (nil : ∀ before, motive before [])
    (code : ∀ before c rest, skippedAfter? before c rest = none → motive (c :: before) rest →
      motive before (c :: rest))
    (skipped : ∀ before c rest k, skippedAfter? before c rest = some k →
      motive ((c :: rest.take k).reverse ++ before) (rest.drop k) → motive before (c :: rest))
    (before text : List Char) : motive before text := by
  induction hlength : text.length using Nat.strong_induction_on generalizing before text with
  | _ n ih =>
    cases text with
    | nil => exact nil before
    | cons c rest =>
      rw [List.length_cons] at hlength
      cases hskip : skippedAfter? before c rest with
      | none => exact code before c rest hskip (ih rest.length (by omega) _ rest rfl)
      | some k =>
        have hshorter : (rest.drop k).length < n := by
          rw [List.length_drop]
          omega
        exact skipped before c rest k hskip (ih _ hshorter _ _ rfl)

/-- The lexer cuts rightly, also with code that it carries. -/
theorem lexes_spansFrom {before code text : List Char}
    (h : StaysCode before text code.reverse) :
    Lexes before (spansFrom (code ++ before) code text) ∧
      sourceOf (spansFrom (code ++ before) code text) = code.reverse ++ text := by
  generalize hcarried : code ++ before = carried
  induction carried, text using lexing_induction generalizing before code with
  | nil carried =>
    subst hcarried
    rw [spansFrom]
    simpa using lexes_codeSpan h (by simp) (.done (code ++ before))
  | code carried c rest hskip ih =>
    subst hcarried
    have hrun : StaysCode before rest (c :: code).reverse := by
      rw [List.reverse_cons, staysCode_append]
      exact ⟨h, by simpa using hskip, trivial⟩
    rw [spansFrom, hskip]
    simpa using ih hrun rfl
  | skipped carried c rest k hskip ih =>
    subst hcarried
    have htake : (rest.take k).length = k := List.length_take_of_le (skippedAfter?_le hskip)
    have hempty : StaysCode ((c :: rest.take k).reverse ++ (code ++ before)) (rest.drop k)
        [].reverse := trivial
    obtain ⟨hlexes, hsource⟩ := ih hempty rfl
    rw [List.reverse_nil, List.nil_append] at hsource
    rw [spansFrom_skipped hskip]
    generalize spansFrom ((c :: rest.take k).reverse ++ (code ++ before)) [] (rest.drop k) = tail
      at hlexes hsource ⊢
    have hspan : Lexes (code ++ before) (⟨c :: rest.take k, false⟩ :: tail) := by
      refine .skipped ?_ hlexes
      rw [hsource, List.take_append_drop, htake, hskip]
    have hwhole : sourceOf (⟨c :: rest.take k, false⟩ :: tail) = c :: rest := by
      rw [sourceOf_cons, hsource, List.cons_append, List.take_append_drop]
    rw [← hwhole] at h ⊢
    exact lexes_codeSpan h (by simp) hspan

/-- The cut of a text is the right one. -/
theorem spansFrom_eq_iff {before text : List Char} {cut : List Span} :
    spansFrom before [] text = cut ↔ sourceOf cut = text ∧ Lexes before cut := by
  constructor
  · rintro rfl
    have h : StaysCode before text [].reverse := trivial
    exact ⟨(lexes_spansFrom h).2, (lexes_spansFrom h).1⟩
  · rintro ⟨rfl, h⟩
    exact h.spansFrom_eq

theorem spans_eq_iff {text : List Char} {cut : List Span} :
    spans text = cut ↔ sourceOf cut = text ∧ Lexes [] cut :=
  spansFrom_eq_iff

/-- The spans of a text put together are the text. -/
theorem sourceOf_spans (text : List Char) : sourceOf (spans text) = text :=
  (spans_eq_iff.mp rfl).1

theorem lexes_spans (text : List Char) : Lexes [] (spans text) :=
  (spans_eq_iff.mp rfl).2

end QueryAudit.Query
