import QueryAudit.Proofs.Query.Marks

/-!
# Spans of a part of a text

A text is cut in two at a character of its code that neither goes on with an identifier nor with the
first token of a skipped span. The spans of each half, taken alone, are then the spans of the whole
text cut to that half: only the span with the character is divided.
-/

namespace QueryAudit.Query

/-! ## Right spans cut at a character of the code -/

theorem SameBehind.staysCode {left right after run : List Char} (hsame : SameBehind left right)
    (h : StaysCode left after run) : StaysCode right after run := by
  induction run generalizing left right with
  | nil => trivial
  | cons c rest ih =>
    exact ⟨(hsame.skippedAfter? c _).symm.trans h.1, ih (.cons c hsame.identifier) h.2⟩

/-- The text behind matters to right spans only as far as it matters to the lexer. -/
theorem SameBehind.lexes {left right : List Char} {cut : List Span} (hsame : SameBehind left right)
    (h : Lexes left cut) : Lexes right cut := by
  induction h generalizing right with
  | done => exact .done right
  | code hne hcode hhead _ ih =>
    exact .code hne (hsame.staysCode hcode) hhead (ih (hsame.append _))
  | skipped hskip _ ih =>
    exact .skipped ((hsame.skippedAfter? _ _).symm.trans hskip) (ih (hsame.append _))

/-- Code stays code in a text cut short. -/
theorem StaysCode.cut {before rest after run : List Char} (hafter : EndsOpening after)
    (h : StaysCode before (rest ++ after) run) : StaysCode before rest run := by
  induction run generalizing before with
  | nil => trivial
  | cons c run ih =>
    obtain ⟨hnone, hrun⟩ := h
    rw [← List.append_assoc] at hnone
    refine ⟨?_, ih hrun⟩
    rw [skippedAfter?_append hafter, hnone, Option.map_none]

/-- Right spans whose last one is cut short are right. -/
theorem Lexes.cut_front {before left right : List Char} {front back : List Span} {c : Char}
    (hends : continuesOpening c = false)
    (h : Lexes before (front ++ ⟨left ++ c :: right, true⟩ :: back)) :
    Lexes before (front ++ codeSpan left.reverse) := by
  have hafter (more : List Char) : EndsOpening (c :: more) := by
    rintro d ⟨⟩
    exact hends
  have hsource (front : List Span) :
      sourceOf (front ++ ⟨left ++ c :: right, true⟩ :: back) =
        sourceOf (front ++ codeSpan left.reverse) ++ c :: (right ++ sourceOf back) := by
    by_cases hleft : left = [] <;> simp [codeSpan, hleft]
  induction front generalizing before with
  | nil =>
    have hleft : StaysCode before [] left :=
      (staysCode_append.mp h.of_code.1).1.cut (hafter _)
    have hspan : Lexes before (codeSpan left.reverse ++ []) :=
      (lexes_codeSpan (by rwa [List.reverse_reverse]) (by simp) (.done _)).1
    rwa [List.append_nil] at hspan
  | cons span front ih =>
    rw [List.cons_append] at h ⊢
    cases h with
    | code hne hcode hhead hrest =>
      rw [hsource] at hcode
      refine .code hne (hcode.cut (hafter _)) ?_ (ih hrest)
      cases front with
      | nil => simp at hhead
      | cons => exact hhead
    | @skipped _ text d _ hskip hrest =>
      refine .skipped ?_ (ih hrest)
      rw [hsource, ← List.append_assoc] at hskip
      rw [skippedAfter?_append (hafter _), hskip, Option.map_some, List.length_append]
      congr 1
      omega

/-- Right spans whose first one is cut short are right behind the character of the cut. -/
theorem Lexes.cut_back {before left right : List Char} {back : List Span} {c : Char}
    (hidentifier : isIdentifierChar c = false)
    (h : Lexes before (⟨left ++ c :: right, true⟩ :: back)) :
    Lexes [] (codeSpan right.reverse ++ back) := by
  obtain ⟨hcode, hhead, hrest⟩ := h.of_code
  rw [List.append_cons] at hcode
  have hright := (staysCode_append.mp hcode).2
  refine (sameBehind_of_not_identifier hidentifier (left.reverse ++ before)).lexes ?_
  refine (lexes_codeSpan ?_ hhead ?_).1
  · simpa using hright
  · simpa using hrest

theorem sourceOf_codeSpan (code : List Char) : sourceOf (codeSpan code.reverse) = code := by
  by_cases hcode : code = [] <;> simp [codeSpan, hcode]

/-- A text is cut in two inside a span of its code. -/
theorem exists_spans_split {text : List Char} {front back : List (Char × Bool)} {c : Char}
    (hends : continuesOpening c = false) (hidentifier : isIdentifierChar c = false)
    (h : marked text = front ++ (c, true) :: back) :
    ∃ before left right after, spans text = before ++ ⟨left ++ c :: right, true⟩ :: after ∧
      spans (front.map Prod.fst) = before ++ codeSpan left.reverse ∧
      spans (back.map Prod.fst) = codeSpan right.reverse ++ after := by
  obtain ⟨before, _, after, left, right, hspans, rfl, hleft, hright⟩ := exists_span_of_mark h
  have hlexes := lexes_spans text
  rw [hspans] at hlexes
  refine ⟨before, left, right, after, hspans, spans_eq_iff.mpr ⟨?_, hlexes.cut_front hends⟩,
    spans_eq_iff.mpr ⟨?_, hlexes.append_right.cut_back hidentifier⟩⟩
  · rw [sourceOf_append, sourceOf_codeSpan, hleft]
  · rw [sourceOf_append, sourceOf_codeSpan, hright]

/-! ## Places -/

/-- A place of a span cut to what lies between two places of the text, if anything does. -/
def clip (first last : Nat) (place : Nat × Nat × Bool) : Option (Nat × Nat × Bool) :=
  if max first place.1 < min last place.2.1 then
    some (max first place.1, min last place.2.1, place.2.2)
  else none

/-- Places of spans cut to what lies between two places of the text. -/
def within (first last : Nat) (places : List (Nat × Nat × Bool)) : List (Nat × Nat × Bool) :=
  places.filterMap (clip first last)

/-- Cutting twice cuts to what lies in both parts. -/
theorem within_within (first last first' last' : Nat) (places : List (Nat × Nat × Bool)) :
    within first last (within first' last' places) =
      within (max first first') (min last last') places := by
  have hclip (place : Nat × Nat × Bool) :
      (clip first' last' place).bind (clip first last) =
        clip (max first first') (min last last') place := by
    rw [clip, clip, max_assoc, min_assoc]
    split
    · rfl
    · rw [Option.bind_none, if_neg (by omega)]
  rw [within, within, within, List.filterMap_filterMap, funext hclip]

theorem within_append (first last : Nat) (places places' : List (Nat × Nat × Bool)) :
    within first last (places ++ places') = within first last places ++ within first last places' :=
  List.filterMap_append

/-- Nothing is cut off from places that lie in the part. -/
theorem within_eq_self {first last : Nat} {places : List (Nat × Nat × Bool)}
    (h : ∀ place ∈ places, first ≤ place.1 ∧ place.1 < place.2.1 ∧ place.2.1 ≤ last) :
    within first last places = places := by
  induction places with
  | nil => rfl
  | cons place places ih =>
    obtain ⟨⟨hfirst, hne, hlast⟩, hrest⟩ := List.forall_mem_cons.mp h
    have hclip : clip first last place = some place := by
      rw [clip, max_eq_right hfirst, min_eq_right hlast, if_pos hne]
    rw [within, List.filterMap_cons_some hclip]
    exact congrArg _ (ih hrest)

/-- Nothing is left of places that lie outside the part. -/
theorem within_eq_nil {first last : Nat} {places : List (Nat × Nat × Bool)}
    (h : ∀ place ∈ places, last ≤ place.1 ∨ place.2.1 ≤ first) : within first last places = [] := by
  refine List.filterMap_eq_nil_iff.mpr fun place hplace => if_neg ?_
  have hout := h place hplace
  omega

theorem offsets_append (start : Nat) (front back : List Span) :
    offsets start (front ++ back) =
      offsets start front ++ offsets (start + (sourceOf front).length) back := by
  induction front generalizing start with
  | nil => rfl
  | cons span front ih =>
    rw [List.cons_append, offsets, offsets, ih, sourceOf_cons, List.length_append, Nat.add_assoc]
    rfl

/-- The places of spans lie in their text, and none is empty when no span is. -/
theorem bounds_of_mem_offsets {start : Nat} {cut : List Span}
    (hne : ∀ span ∈ cut, span.text ≠ []) {place : Nat × Nat × Bool}
    (h : place ∈ offsets start cut) :
    start ≤ place.1 ∧ place.1 < place.2.1 ∧ place.2.1 ≤ start + (sourceOf cut).length := by
  induction cut generalizing start with
  | nil => cases h
  | cons span rest ih =>
    obtain ⟨hspan, hrest⟩ := List.forall_mem_cons.mp hne
    have hpos := List.length_pos_iff.mpr hspan
    rw [sourceOf_cons, List.length_append]
    rcases List.mem_cons.mp h with rfl | hlater
    · simp only []
      omega
    · have hbounds := ih hrest hlater
      omega

theorem Lexes.ne_nil {before : List Char} {cut : List Span} (h : Lexes before cut) :
    ∀ span ∈ cut, span.text ≠ [] := by
  induction h with
  | done => simp
  | code hne _ _ _ ih => exact List.forall_mem_cons.mpr ⟨hne, ih⟩
  | skipped _ _ ih => exact List.forall_mem_cons.mpr ⟨List.cons_ne_nil _ _, ih⟩

/-- A span of code that is cut out of a longer one. -/
theorem offsets_codeSpan {start first last start' stop : Nat} {code : List Char}
    (hstart : max first start' = start) (hstop : min last stop = start + code.length) :
    offsets start (codeSpan code.reverse) = within first last [(start', stop, true)] := by
  have hclip : clip first last (start', stop, true) =
      if start < start + code.length then some (start, start + code.length, true) else none := by
    rw [clip, hstart, hstop]
  cases code with
  | nil =>
    rw [List.length_nil, if_neg (by omega)] at hclip
    rw [within, List.filterMap_cons_none hclip]
    rfl
  | cons c code =>
    rw [List.length_cons, if_pos (by omega)] at hclip
    rw [within, List.filterMap_cons_some hclip, codeSpan_reverse (List.cons_ne_nil _ _)]
    rfl

/-! ## The spans of the halves -/

section Halves

variable {before after : List Span} {left right : List Char} {c : Char} (start : Nat)

/-- The places of spans, the one with the character of the cut between the others. -/
theorem offsets_around : offsets start (before ++ ⟨left ++ c :: right, true⟩ :: after) =
    offsets start before ++
      ([(start + (sourceOf before).length,
          start + (sourceOf before).length + left.length + 1 + right.length, true)] ++
        offsets (start + (sourceOf before).length + left.length + 1 + right.length) after) := by
  have hstop : start + (sourceOf before).length + (left ++ c :: right).length =
      start + (sourceOf before).length + left.length + 1 + right.length := by
    rw [List.length_append, List.length_cons]
    omega
  rw [offsets_append, offsets, hstop]
  rfl

/-- The places of the spans up to the character of the cut. -/
theorem offsets_front {stop : Nat} (hstop : stop = start + (sourceOf before).length + left.length)
    (hne : ∀ span ∈ before ++ ⟨left ++ c :: right, true⟩ :: after, span.text ≠ []) :
    offsets start (before ++ codeSpan left.reverse) =
      within start stop (offsets start (before ++ ⟨left ++ c :: right, true⟩ :: after)) := by
  obtain ⟨hbeforeNe, hbehindNe⟩ := List.forall_mem_append.mp hne
  have hbefore : within start stop (offsets start before) = offsets start before := by
    refine within_eq_self fun place hplace => ?_
    have hbounds := bounds_of_mem_offsets hbeforeNe hplace
    omega
  have hafter : within start stop
      (offsets (start + (sourceOf before).length + left.length + 1 + right.length) after) = [] := by
    refine within_eq_nil fun place hplace => Or.inl ?_
    have hbounds := bounds_of_mem_offsets (List.forall_mem_cons.mp hbehindNe).2 hplace
    omega
  have hcode : offsets (start + (sourceOf before).length) (codeSpan left.reverse) =
      within start stop [(start + (sourceOf before).length,
        start + (sourceOf before).length + left.length + 1 + right.length, true)] :=
    offsets_codeSpan (by omega) (by omega)
  rw [offsets_around, offsets_append, within_append, within_append, hbefore, hafter, hcode,
    List.append_nil]

/-- The places of the spans behind the character of the cut. -/
theorem offsets_back {first stop : Nat}
    (hfirst : first = start + (sourceOf before).length + left.length + 1)
    (hstop : stop = first + right.length + (sourceOf after).length)
    (hne : ∀ span ∈ before ++ ⟨left ++ c :: right, true⟩ :: after, span.text ≠ []) :
    offsets first (codeSpan right.reverse ++ after) =
      within first stop (offsets start (before ++ ⟨left ++ c :: right, true⟩ :: after)) := by
  obtain ⟨hbeforeNe, hbehindNe⟩ := List.forall_mem_append.mp hne
  have hbefore : within first stop (offsets start before) = [] := by
    refine within_eq_nil fun place hplace => Or.inr ?_
    have hbounds := bounds_of_mem_offsets hbeforeNe hplace
    omega
  have hafter : within first stop (offsets (first + right.length) after) =
      offsets (first + right.length) after := by
    refine within_eq_self fun place hplace => ?_
    have hbounds := bounds_of_mem_offsets (List.forall_mem_cons.mp hbehindNe).2 hplace
    omega
  have hcode : offsets first (codeSpan right.reverse) =
      within first stop [(start + (sourceOf before).length, first + right.length, true)] :=
    offsets_codeSpan (by omega) (by omega)
  rw [offsets_around, ← hfirst, offsets_append, sourceOf_codeSpan, within_append, within_append,
    hbefore, hafter, hcode, List.nil_append]

end Halves

/-- The places of the spans up to a character of the code, and of those behind it, are places of the
spans of the text, cut to the half. -/
theorem offsets_halves {text : List Char} {front back : List (Char × Bool)} {c : Char}
    (hends : continuesOpening c = false) (hidentifier : isIdentifierChar c = false)
    (h : marked text = front ++ (c, true) :: back) (start : Nat) :
    offsets start (spans (front.map Prod.fst)) =
        within start (start + front.length) (offsets start (spans text)) ∧
      offsets (start + front.length + 1) (spans (back.map Prod.fst)) =
        within (start + front.length + 1) (start + text.length) (offsets start (spans text)) := by
  obtain ⟨before, left, right, after, hspans, hfront, hback⟩ :=
    exists_spans_split hends hidentifier h
  have hlength : front.length = (sourceOf before).length + left.length := by
    have hsource := congrArg List.length (sourceOf_spans (front.map Prod.fst))
    rw [hfront, sourceOf_append, sourceOf_codeSpan, List.length_append, List.length_map] at hsource
    exact hsource.symm
  have htext : text.length = front.length + 1 + right.length + (sourceOf after).length := by
    have hsource := congrArg List.length (sourceOf_spans text)
    rw [hspans] at hsource
    simp only [sourceOf_append, sourceOf_cons, List.length_append, List.length_cons] at hsource
    omega
  have hne := (lexes_spans text).ne_nil
  rw [hspans] at hne
  rw [hspans, hfront, hback]
  exact ⟨offsets_front start (by omega) hne, offsets_back start (by omega) (by omega) hne⟩

/-- The places of the spans of a part between two characters of the code are places of the spans of
the text, cut to the part. -/
theorem offsets_between {text inner : List Char} {front back : List (Char × Bool)} {c d : Char}
    (hends : continuesOpening c = false) (hidentifier : isIdentifierChar c = false)
    (hends' : continuesOpening d = false) (hidentifier' : isIdentifierChar d = false)
    (h : marked text = front ++ (c, true) :: (marked inner ++ (d, true) :: back)) :
    offsets (front.length + 1) (spans inner) =
      within (front.length + 1) (front.length + 1 + inner.length) (offsets 0 (spans text)) := by
  obtain ⟨first, rest, rfl, rfl, hrest⟩ := marked_split hends hidentifier h
  have hback := (offsets_halves hends hidentifier h 0).2
  have hfront := (offsets_halves hends' hidentifier' hrest.symm ((marked first).length + 1)).1
  have hlength : inner.length ≤ rest.length := by
    have hlengths := congrArg List.length hrest
    rw [List.length_append, marked_length, marked_length] at hlengths
    omega
  rw [hrest, marked_map_fst, Nat.zero_add] at hback
  rw [marked_map_fst, marked_length inner, hback, within_within, max_self, Nat.zero_add] at hfront
  rw [hfront, List.length_append, List.length_cons, marked_length, min_eq_left (by omega)]

end QueryAudit.Query
