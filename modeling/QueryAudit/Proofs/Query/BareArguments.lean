import QueryAudit.Proofs.Query.CallForm
import QueryAudit.Proofs.Query.Highest

/-!
# Arguments that are numbers

An argument that is a numbered placeholder and nothing else stands in the code of the query, and no
identifier ends in front of it. So the rewriting has read its digits before the registry reads them.
-/

namespace QueryAudit.Query

/-! ## What stands in front of an argument -/

/-- A character behind which a piece starts: it goes on with no identifier and is no `@`. -/
def EndsPiece (c : Char) : Prop :=
  isIdentifierChar c = false ∧ c ≠ '@'

/-- No identifier goes on behind a text at whose end a piece starts. -/
theorem any_isIdentifierChar_of_endsPiece {text : List Char}
    (h : ∀ c ∈ text.getLast?, EndsPiece c) : text.getLast?.any isIdentifierChar = false := by
  cases hlast : text.getLast? with
  | none => rfl
  | some c => exact (h c hlast).1

/-- The text of a call in front of an argument: the pieces before it with their commas, and the
blanks in front of it in its own piece. -/
def CallForm.front (form : CallForm) (i : Nat) : List Char :=
  form.head.text ++ '(' :: ((form.pieces.take i).flatMap (· ++ [',']) ++
    (form.pieces[i]?.getD []).takeWhile Text.isBlank)

/-- In front of an argument stands a parenthesis, a comma or a blank. -/
theorem CallForm.endsPiece_front (form : CallForm) (i : Nat) :
    ∀ c ∈ (form.front i).getLast?, EndsPiece c := by
  have hsign : ∀ c ∈ ('(' :: (form.pieces.take i).flatMap (· ++ [','])).getLast?, EndsPiece c := by
    rcases List.eq_nil_or_concat' (form.pieces.take i) with hnil | ⟨init, last, hinit⟩
    · rw [hnil]
      rintro c ⟨⟩
      exact ⟨by decide, by decide⟩
    · rw [hinit, List.flatMap_append, List.flatMap_singleton, ← List.append_assoc,
        ← List.cons_append, List.getLast?_concat]
      rintro c ⟨⟩
      exact ⟨by decide, by decide⟩
  intro c hc
  rw [front, ← List.cons_append, List.getLast?_append, List.getLast?_append] at hc
  cases hblank : ((form.pieces[i]?.getD []).takeWhile Text.isBlank).getLast? with
  | none =>
    rw [hblank, Option.none_or, List.getLast?_cons, Option.some_or] at hc
    rw [List.getLast?_cons] at hsign
    exact hsign c hc
  | some d =>
    rw [hblank] at hc
    obtain rfl := Option.some.inj hc
    obtain ⟨hidentifier, _, _, hat⟩ :=
      blank_classes (List.mem_takeWhile_imp (List.mem_of_getLast? hblank))
    exact ⟨hidentifier, hat⟩

/-! ## Where arguments stand -/

/-- The pieces between commas stand in the text, behind the pieces before them. -/
theorem Separated.standsIn {text piece : List Char} {init tail : List (List Char)}
    (h : Separated (marked text) (init ++ piece :: tail)) :
    ∃ front back, StandsIn piece text front back ∧
      front.map Prod.fst = init.flatMap (· ++ [',']) := by
  induction init generalizing text with
  | nil =>
    rcases h.uncons with ⟨_, rfl⟩ | ⟨last, _, hcomma, _⟩
    · exact ⟨[], [], StandsIn.refl piece, rfl⟩
    · exact ⟨_, _, standsIn_before_comma hcomma, rfl⟩
  | cons first init ih =>
    rcases h.uncons with ⟨hnil, _⟩ | ⟨last, _, hcomma, hrest⟩
    · simp at hnil
    · obtain ⟨front, back, hstands, hfront⟩ := ih hrest
      exact ⟨_, _, hstands.trans (standsIn_behind_comma hcomma), by simp [hfront]⟩

/-- A trimmed part stands where the part stands, behind its blanks. -/
theorem StandsIn.trim {part text : List Char} {front back : List (Char × Bool)}
    (h : StandsIn part text front back) :
    ∃ front' back', StandsIn (Text.trim part) text front' back' ∧
      front'.map Prod.fst = front.map Prod.fst ++ part.takeWhile Text.isBlank := by
  obtain ⟨_, htrim, _⟩ := standsIn_trim part
  exact ⟨_, _, htrim.trans h, by simp [Function.comp_def]⟩

/-- Every argument of a call is one of its pieces. -/
theorem CallForm.exists_piece {form : CallForm} {i : Nat} {argument : String}
    (h : form.call.arguments[i]? = some argument) :
    ∃ piece, form.pieces[i]? = some piece ∧ argument = String.ofList (Text.trim piece) := by
  rw [call, List.getElem?_map] at h
  obtain ⟨trimmed, htrimmed, rfl⟩ := Option.map_eq_some_iff.mp h
  rw [arguments] at htrimmed
  split at htrimmed
  · cases htrimmed
  · rw [List.getElem?_map] at htrimmed
    obtain ⟨piece, hpiece, rfl⟩ := Option.map_eq_some_iff.mp htrimmed
    exact ⟨piece, hpiece, rfl⟩

/-- An argument of a call stands in the query. -/
theorem CallForm.standsIn_argument {form : CallForm} {i : Nat} {argument : String}
    (h : form.call.arguments[i]? = some argument) :
    ∃ front back, StandsIn argument.toList form.text front back ∧
      front.map Prod.fst = form.front i := by
  obtain ⟨piece, hpiece, rfl⟩ := exists_piece h
  have hpieces : form.pieces = form.pieces.take i ++ piece :: form.pieces.drop (i + 1) := by
    obtain ⟨hi, rfl⟩ := List.getElem?_eq_some_iff.mp hpiece
    rw [List.cons_getElem_drop_succ, List.take_append_drop]
  obtain ⟨front, hinner, hopening, _⟩ := form.standsIn
  obtain ⟨front', back', hstands, hplace⟩ := (hpieces ▸ form.separated).standsIn
  obtain ⟨front'', back'', htrim, hplace'⟩ := (hstands.trans hinner).trim
  rw [String.toList_ofList]
  refine ⟨front'', back'', htrim, ?_⟩
  rw [hplace', List.map_append, hopening, hplace, CallForm.front, hpiece, Option.getD_some]
  simp

/-- Nothing is to be trimmed at an argument. -/
theorem CallForm.trim_argument {form : CallForm} {i : Nat} {argument : String}
    (h : form.call.arguments[i]? = some argument) :
    Text.trim argument.toList = argument.toList := by
  obtain ⟨piece, _, rfl⟩ := exists_piece h
  rw [String.toList_ofList, Text.trim_trim]

/-! ## Digits that have been read -/

/-- Nothing is skipped at the dollar sign of a numbered placeholder. -/
theorem skippedAfter?_dollar_digits {digits : List Char}
    (hdigits : ∀ d ∈ digits, Text.isDigit d = true) : skippedAfter? [] '$' digits = none := by
  have htag : dollarTag? digits = none := by
    cases digits with
    | nil => rfl
    | cons d rest =>
      have hd := hdigits d List.mem_cons_self
      have hne : d ≠ '$' := ne_of_isDigit hd '$' (by decide)
      have hname : leadingName (d :: rest) = [] := by
        rw [leadingName, isNameStart_eq_false_of_isDigit hd]
        rfl
      rw [dollarTag?, hname, List.length_nil, List.drop_zero]
      split
      · rename_i heq
        exact absurd (List.cons.inj heq).1 hne
      · rfl
  simp [skippedAfter?, htag]

/-- The characters of a placeholder that stands in the query stand in one span of its code. -/
theorem StandsIn.exists_code {query chars : List Char} {sign : Char}
    {front back : List (Char × Bool)} (h : StandsIn (sign :: chars) query front back)
    (hcode : skippedAfter? [] sign chars = none) (hchars : ∀ c ∈ chars, isNameChar c = true) :
    ∃ before left tail after,
      spans query = before ++ ⟨left ++ (sign :: chars ++ tail), true⟩ :: after ∧
      front.map Prod.fst = sourceOf before ++ left ∧ EndsName tail := by
  have hmarks := h.marks
  rw [marked_eq_marksFrom (sign :: chars), marksFrom_of_code hcode, List.append_assoc,
    List.cons_append] at hmarks
  obtain ⟨before, _, after, left, right, hspans, rfl, hleft, hright⟩ := exists_span_of_mark hmarks
  rw [List.map_append, marksFrom_map_fst] at hright
  have hlexes := lexes_spans query
  rw [hspans] at hlexes
  have hends : EndsName (sourceOf after) := hlexes.append_right.endsName_tail
  have htail : ∃ tail, right = chars ++ tail ∧ EndsName tail := by
    rcases List.append_eq_append_iff.mp hright with ⟨tail, rfl, hback⟩ | ⟨more, rfl, hback⟩
    · refine ⟨tail, rfl, fun c hc => ?_⟩
      have hnext := h.ends.endsName c
      rw [hback, List.head?_append] at hnext
      exact hnext (by rw [Option.mem_def.mp hc]; rfl)
    · cases more with
      | nil => exact ⟨[], by simp, by simp [EndsName]⟩
      | cons c more =>
        have hname := hchars c (by simp)
        rw [hends c (by rw [hback]; rfl)] at hname
        cases hname
  obtain ⟨tail, rfl, htail⟩ := htail
  exact ⟨before, left, tail, after, hspans, hleft, htail⟩

/-- The digits of a numbered placeholder that stands in the query alone are among those that the
rewriting reads. -/
theorem StandsIn.mem_positionals {query digits : List Char} {front back : List (Char × Bool)}
    (h : StandsIn ('$' :: digits) query front back)
    (hfront : ∀ c ∈ (front.map Prod.fst).getLast?, EndsPiece c)
    (hdigits : ∀ d ∈ digits, Text.isDigit d = true) (hne : digits ≠ []) :
    digits ∈ positionals (spans query) := by
  obtain ⟨before, left, tail, after, hspans, hleft, htail⟩ :=
    h.exists_code (skippedAfter?_dollar_digits hdigits) fun d hd =>
      isNameChar_of_isDigit (hdigits d hd)
  have hread : leadingDigits (digits ++ tail) = digits :=
    leadingDigits_append hdigits htail.isDigit_eq_false
  refine mem_positionalsAfter_iff.mpr ⟨_, before, after, hspans, left, digits ++ tail, rfl,
    hread.symm, hne, ?_⟩
  rw [Option.or_none, ← hleft]
  exact any_isIdentifierChar_of_endsPiece hfront

/-- The digits of an argument that is a numbered placeholder are among those that the rewriting
reads. -/
theorem mem_positionals_of_argument {query digits : List Char} {call : Call} {argument : String}
    (h : call? query = some call) (hargument : argument ∈ call.arguments)
    (htrim : Text.trim argument.toList = '$' :: digits)
    (hdigits : ∀ d ∈ digits, Text.isDigit d = true) (hne : digits ≠ []) :
    digits ∈ positionals (spans query) := by
  obtain ⟨form, rfl, rfl⟩ := call?_eq_some_iff_form.mp h
  obtain ⟨i, hi⟩ := List.mem_iff_getElem?.mp hargument
  obtain ⟨front, back, hstands, hfront⟩ := CallForm.standsIn_argument hi
  rw [← CallForm.trim_argument hi, htrim] at hstands
  exact hstands.mem_positionals (hfront ▸ form.endsPiece_front i) hdigits hne

end QueryAudit.Query
