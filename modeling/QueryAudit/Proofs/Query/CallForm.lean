import QueryAudit.Proofs.Query.CallText
import QueryAudit.Proofs.Query.Cutting

/-!
# The form of a call

A query is one call exactly when it has the form of one: a head, the text between the parentheses,
and an end with blanks and semicolons. The parts of the text between the parentheses are found by
lexing it alone, and this finds the same spans there as lexing the query.
-/

namespace QueryAudit.Query

/-! ## The end of a call -/

/-- What may follow the closing parenthesis: blanks, semicolons, and blanks. -/
structure CallEnd where
  /-- The blanks before the semicolons. -/
  before : Blanks
  /-- The number of semicolons. -/
  semicolons : Nat
  /-- The blanks after the semicolons. -/
  after : Blanks

/-- The characters of the end. -/
def CallEnd.text (callEnd : CallEnd) : List Char :=
  callEnd.before.val ++ (List.replicate callEnd.semicolons ';' ++ callEnd.after.val)

theorem isStatementEnd_iff {text : List Char} :
    isStatementEnd text = true ↔ ∃ callEnd : CallEnd, text = callEnd.text := by
  rw [isStatementEnd, List.isEmpty_iff]
  constructor
  · intro h
    obtain ⟨⟨before, hbefore⟩, _⟩ := skipBlanks_eq_iff.mp (rfl : skipBlanks text = _)
    obtain ⟨⟨after, hafter⟩, _⟩ := skipBlanks_eq_iff.mp h
    rw [List.append_nil] at hafter
    have hsemicolons : (skipBlanks text).takeWhile (· == ';') =
        List.replicate ((skipBlanks text).takeWhile (· == ';')).length ';' :=
      List.eq_replicate_of_mem fun c hc => by simpa using List.mem_takeWhile_imp hc
    refine ⟨⟨before, ((skipBlanks text).takeWhile (· == ';')).length, after⟩, ?_⟩
    rw [CallEnd.text, ← hsemicolons, ← hafter, List.takeWhile_append_dropWhile]
    exact hbefore
  · rintro ⟨⟨before, semicolons, after⟩, rfl⟩
    have hafter (p : Char → Bool) : skipBlanks (after.val.dropWhile p) = [] :=
      List.dropWhile_eq_nil_iff.mpr fun c hc =>
        after.property c ((List.dropWhile_sublist p).subset hc)
    rw [CallEnd.text]
    cases semicolons with
    | zero =>
      have hblank : skipBlanks (before.val ++ after.val) = [] :=
        List.dropWhile_eq_nil_iff.mpr fun c hc =>
          (List.mem_append.mp hc).elim (before.property c) (after.property c)
      rw [List.replicate_zero, List.nil_append, hblank]
      rfl
    | succ n =>
      rw [skipBlanks_append before (by rfl), List.dropWhile_append_of_pos, hafter]
      exact fun c hc => beq_iff_eq.mpr (List.eq_of_mem_replicate hc)

/-- Behind a call there are blanks and semicolons only. -/
theorem CallEnd.mem_text {callEnd : CallEnd} {c : Char} (hc : c ∈ callEnd.text) :
    Text.isBlank c = true ∨ c = ';' := by
  rw [CallEnd.text, List.mem_append, List.mem_append] at hc
  rcases hc with hblank | hsemicolon | hblank
  · exact Or.inl (callEnd.before.property c hblank)
  · exact Or.inr (List.eq_of_mem_replicate hsemicolon)
  · exact Or.inl (callEnd.after.property c hblank)

/-! ## The arguments -/

/-- The text between the parentheses is split into the trimmed pieces. -/
theorem splitArguments_eq {inner : List Char} {pieces : List (List Char)}
    (h : Separated (marked inner) pieces) :
    splitArguments inner = if inner.all Text.isBlank then [] else pieces.map Text.trim := by
  rw [splitArguments, cutAtCommas_eq_iff.mpr h]
  split
  · rename_i hempty
    obtain ⟨piece, rfl, htrim⟩ := List.map_eq_singleton_iff.mp hempty
    have hpiece := h.text_eq
    rw [joined_singleton, marked_map_fst] at hpiece
    rw [if_pos (List.all_eq_true.mpr (hpiece ▸ trim_eq_nil_iff.mp htrim))]
  · rename_i hne
    rw [if_neg]
    intro hblank
    rw [List.all_eq_true] at hblank
    have hnone (n : Nat) : ¬ SeparatesAt (marked inner) n := by
      rintro ⟨hcomma, _⟩
      have hmem := List.mem_map_of_mem (f := Prod.fst) (List.mem_of_getElem? hcomma)
      rw [marked_map_fst] at hmem
      exact absurd (hblank ',' hmem) (by decide)
    refine hne ?_
    rw [(separated_iff_of_not hnone).mp h, marked_map_fst, List.map_singleton,
      trim_eq_nil_iff.mpr hblank]

/-! ## Calls -/

/-- The parts of a query that is one call. -/
structure CallForm where
  /-- The text in front of the opening parenthesis. -/
  head : CallHead
  /-- The text between the parentheses. -/
  inner : List Char
  /-- The pieces of that text. -/
  pieces : List (List Char)
  /-- The text behind the closing parenthesis. -/
  callEnd : CallEnd
  /-- The parentheses from the opening one on balance first at the closing one. -/
  closes : FirstReturns
    ((marked (head.text ++ '(' :: (inner ++ ')' :: callEnd.text))).drop head.text.length)
    (inner.length + 2)
  /-- The pieces stand between the separating commas. -/
  separated : Separated (marked inner) pieces

namespace CallForm

/-- The query. -/
def text (form : CallForm) : List Char :=
  form.head.text ++ '(' :: (form.inner ++ ')' :: form.callEnd.text)

/-- The arguments are the trimmed pieces, and there are none between blank parentheses. -/
def arguments (form : CallForm) : List (List Char) :=
  if form.inner.all Text.isBlank then [] else form.pieces.map Text.trim

/-- The call that the query consists of. -/
def call (form : CallForm) : Call :=
  ⟨form.head.name.folded, form.head.schemaName, form.arguments.map String.ofList⟩

end CallForm

/-- What a query that is a call consists of. -/
theorem call?_eq_some_iff {query : List Char} {call : Call} :
    call? query = some call ↔ ∃ afterSelect schemaName name afterOpening length,
      dropKeyword? "select".toList (skipBlanks query) = some afterSelect ∧
      afterSelect.head?.any Text.isBlank = true ∧
      callHead? (skipBlanks afterSelect) = some (schemaName, name, afterOpening) ∧
      lengthInside? 0 ((marked query).drop (query.length - afterOpening.length)) = some length ∧
      isStatementEnd (afterOpening.drop (length + 1)) = true ∧
      call = ⟨name, schemaName, (splitArguments (afterOpening.take length)).map String.ofList⟩ := by
  constructor
  · intro h
    obtain ⟨afterSelect, hselect, h⟩ := Option.bind_eq_some_iff.mp h
    obtain ⟨_, hblank, h⟩ := Option.bind_eq_some_iff.mp h
    obtain ⟨⟨schemaName, name, afterOpening⟩, hhead, h⟩ := Option.bind_eq_some_iff.mp h
    obtain ⟨length, hlength, h⟩ := Option.bind_eq_some_iff.mp h
    obtain ⟨_, hend, h⟩ := Option.bind_eq_some_iff.mp h
    exact ⟨afterSelect, schemaName, name, afterOpening, length, hselect,
      (Option.guard_eq_some' _).mp hblank, hhead, hlength, (Option.guard_eq_some' _).mp hend,
      (Option.some.inj h).symm⟩
  · rintro ⟨afterSelect, schemaName, name, afterOpening, length, hselect, hblank, hhead, hlength,
      hend, rfl⟩
    refine Option.bind_eq_some_iff.mpr ⟨_, hselect, ?_⟩
    refine Option.bind_eq_some_iff.mpr ⟨(), (Option.guard_eq_some' ()).mpr hblank, ?_⟩
    refine Option.bind_eq_some_iff.mpr ⟨_, hhead, ?_⟩
    refine Option.bind_eq_some_iff.mpr ⟨_, hlength, ?_⟩
    exact Option.bind_eq_some_iff.mpr ⟨(), (Option.guard_eq_some' ()).mpr hend, rfl⟩

/-- The parenthesis that closes the call is code. -/
theorem lengthInside?_eq_some {depth length : Nat} {marks : List (Char × Bool)}
    (h : lengthInside? depth marks = some length) :
    ∃ front back, marks = front ++ (')', true) :: back ∧ front.length = length := by
  induction marks generalizing depth length with
  | nil => cases h
  | cons mark rest ih =>
    obtain ⟨c, isCode⟩ := mark
    have hlater {depth : Nat} (hrest : (lengthInside? depth rest).map (· + 1) = some length) :
        ∃ front back, (c, isCode) :: rest = front ++ (')', true) :: back ∧
          front.length = length := by
      obtain ⟨n, hn, rfl⟩ := Option.map_eq_some_iff.mp hrest
      obtain ⟨front, back, rfl, rfl⟩ := ih hn
      exact ⟨(c, isCode) :: front, back, rfl, rfl⟩
    rw [lengthInside?] at h
    split at h
    · exact hlater h
    · split at h
      · rename_i hclosing
        simp only [Bool.and_eq_true, beq_iff_eq] at hclosing
        obtain ⟨rfl, rfl⟩ := hclosing
        split at h
        · exact ⟨[], rest, rfl, Option.some.inj h⟩
        · exact hlater h
      · exact hlater h

/-- The marks from the opening parenthesis on, and those behind it. -/
theorem CallHead.drop_marked (head : CallHead) (rest : List Char) :
    (marked (head.text ++ '(' :: rest)).drop head.text.length = ('(', true) :: marked rest ∧
      (marked (head.text ++ '(' :: rest)).drop
        ((head.text ++ '(' :: rest).length - rest.length) = marked rest := by
  obtain ⟨marks, hmarks, hchars, _⟩ := head.marked_text rest
  have hlength : marks.length = head.text.length := by rw [← hchars, List.length_map]
  constructor
  · rw [hmarks, ← hlength, List.drop_left]
  · rw [List.length_append, List.length_cons, ← hlength, hmarks, List.append_cons]
    exact List.drop_left' (by simp; omega)

/-- The search for the closing parenthesis finds where the parentheses first balance. -/
theorem firstReturns_iff_lengthInside? {rest : List Char} {length : Nat} :
    FirstReturns (('(', true) :: marked rest) (length + 2) ↔
      lengthInside? 0 (marked rest) = some length :=
  firstReturns_opening_iff.trans lengthInside?_eq_some_iff.symm

/-- A query is one call exactly when it has the form of one. -/
theorem call?_eq_some_iff_form {query : List Char} {call : Call} :
    call? query = some call ↔ ∃ form : CallForm, form.text = query ∧ form.call = call := by
  constructor
  · intro h
    obtain ⟨afterSelect, schemaName, name, afterOpening, length, hselect, hblank, hcall, hlength,
      hend, rfl⟩ := call?_eq_some_iff.mp h
    obtain ⟨head, rfl, rfl, rfl⟩ := head_eq_some_iff.mp ⟨afterSelect, hselect, hblank, hcall⟩
    obtain ⟨hopening, hinside⟩ := head.drop_marked afterOpening
    rw [hinside] at hlength
    obtain ⟨_, _, hclosing, rfl⟩ := lengthInside?_eq_some hlength
    obtain ⟨inner, post, rfl, rfl, rfl⟩ := marked_split (by decide) (by decide) hclosing
    rw [marked_length] at hlength hend ⊢
    rw [List.drop_length_add_append, List.drop_one, List.tail_cons] at hend
    obtain ⟨callEnd, rfl⟩ := isStatementEnd_iff.mp hend
    have hpieces := cutAtCommas_eq_iff.mp (rfl : cutAtCommas 0 [] (marked inner) = _)
    refine ⟨⟨head, inner, _, callEnd, ?_, hpieces⟩, rfl, ?_⟩
    · rw [hopening]
      exact firstReturns_iff_lengthInside?.mpr hlength
    · rw [List.take_left, splitArguments_eq hpieces]
      rfl
  · rintro ⟨⟨head, inner, pieces, callEnd, hcloses, hpieces⟩, rfl, rfl⟩
    obtain ⟨afterSelect, hselect, hblank, hcall⟩ := head_eq_some_iff.mpr
      ⟨head, (rfl : head.text ++ '(' :: (inner ++ ')' :: callEnd.text) = _), rfl, rfl⟩
    obtain ⟨hopening, hinside⟩ := head.drop_marked (inner ++ ')' :: callEnd.text)
    rw [hopening, firstReturns_iff_lengthInside?, ← hinside] at hcloses
    refine call?_eq_some_iff.mpr ⟨afterSelect, _, _, _, _, hselect, hblank, hcall, hcloses, ?_, ?_⟩
    · rw [List.drop_length_add_append, List.drop_one, List.tail_cons]
      exact isStatementEnd_iff.mpr ⟨callEnd, rfl⟩
    · rw [List.take_left, splitArguments_eq hpieces]
      rfl

/-! ## The text between the parentheses -/

namespace CallForm

/-- Both parentheses are code, so that the marks between them are those of the text there alone. -/
theorem marked_text (form : CallForm) :
    ∃ marks, marked form.text =
        marks ++ ('(', true) :: (marked form.inner ++ (')', true) :: marked form.callEnd.text) ∧
      marks.map Prod.fst = form.head.text ∧
      ∀ left sign right, marks = left ++ (sign, true) :: right → sign ≠ '@' ∧
        (sign = '$' → (left.map Prod.fst).getLast?.any isIdentifierChar = true) := by
  obtain ⟨head, inner, pieces, callEnd, hcloses, hpieces⟩ := form
  obtain ⟨marks, hmarks, hchars, hquiet⟩ := head.marked_text (inner ++ ')' :: callEnd.text)
  rw [(head.drop_marked _).1, firstReturns_iff_lengthInside?] at hcloses
  obtain ⟨_, _, hclosing, hlength⟩ := lengthInside?_eq_some hcloses
  obtain ⟨first, last, htext, rfl, rfl⟩ := marked_split (by decide) (by decide) hclosing
  rw [marked_length] at hlength
  obtain ⟨rfl, hlast⟩ := List.append_inj htext hlength.symm
  obtain rfl := (List.cons.inj hlast).2
  exact ⟨marks, by rw [text, hmarks, hclosing], hchars, hquiet⟩

/-- The text between the parentheses is a part of the query, and in front of it is no
placeholder. -/
theorem standsIn (form : CallForm) :
    ∃ front, StandsIn form.inner form.text front ((')', true) :: marked form.callEnd.text) ∧
      front.map Prod.fst = form.head.text ++ ['('] ∧
      ∀ left sign right, front = left ++ (sign, true) :: right → sign ≠ '@' ∧
        (sign = '$' → (left.map Prod.fst).getLast?.any isIdentifierChar = true) := by
  obtain ⟨marks, hmarks, hchars, hquiet⟩ := form.marked_text
  refine ⟨marks ++ [('(', true)], ⟨by rw [hmarks]; simp, ?_⟩, by simp [hchars], ?_⟩
  · rintro c ⟨⟩
    decide
  · intro left sign right heq
    rcases append_eq_append_cons heq with ⟨more, hfront, _⟩ | ⟨more, _, hopening⟩
    · exact hquiet left sign more hfront
    · have hsign : (sign, true) ∈ [('(', true)] := by rw [hopening]; simp
      obtain rfl := (Prod.mk.inj (List.mem_singleton.mp hsign)).1
      refine ⟨by decide, ?_⟩
      rintro ⟨⟩

theorem arguments_eq (form : CallForm) : form.arguments = splitArguments form.inner :=
  (splitArguments_eq form.separated).symm

/-- The spans of the text between the parentheses are those of the query there. -/
theorem offsets_inner (form : CallForm) :
    offsets (form.head.text.length + 1) (spans form.inner) =
      within (form.head.text.length + 1) (form.head.text.length + 1 + form.inner.length)
        (offsets 0 (spans form.text)) := by
  obtain ⟨marks, hmarks, hchars, _⟩ := form.marked_text
  rw [← hchars, List.length_map]
  exact offsets_between (by decide) (by decide) (by decide) (by decide) hmarks

end CallForm

/-- A placeholder of a call lies in an argument, unless it goes on with an identifier. -/
theorem exists_argument_of_call? {query : List Char} {call : Call} {sign : Char}
    {left right : List (Char × Bool)} (h : call? query = some call)
    (hmarked : marked query = left ++ (sign, true) :: right) (hsign : sign = '@' ∨ sign = '$')
    (hleft : (left.map Prod.fst).getLast?.any isIdentifierChar = false) :
    ∃ argument ∈ call.arguments, LiesIn argument.toList query left sign right := by
  obtain ⟨form, rfl, rfl⟩ := call?_eq_some_iff_form.mp h
  obtain ⟨front, hstands, _, hfront⟩ := form.standsIn
  have hbefore : ∀ more, front ≠ left ++ (sign, true) :: more := by
    intro more heq
    obtain ⟨hname, hnumber⟩ := hfront left sign more heq
    have hidentifier := hnumber (hsign.resolve_left hname)
    rw [hleft] at hidentifier
    cases hidentifier
  have hbehind : (sign, true) ∉ (')', true) :: marked form.callEnd.text := by
    intro hmem
    have hmem := List.mem_map_of_mem (f := Prod.fst) hmem
    rw [List.map_cons, marked_map_fst, List.mem_cons] at hmem
    rcases hmem with hclosing | hend
    · rcases hsign with rfl | rfl <;> cases hclosing
    · have hends := CallEnd.mem_text hend
      rcases hsign with rfl | rfl <;> revert hends <;> decide
  obtain ⟨_, _, before, after, hinner, hplace, rfl, rfl⟩ :=
    hstands.liesIn hmarked hbefore hbehind
  have hcomma : sign ≠ ',' := by rcases hsign with rfl | rfl <;> decide
  have hblank : Text.isBlank sign = false := by rcases hsign with rfl | rfl <;> decide
  obtain ⟨argument, hmem, hlies⟩ := exists_argument_liesIn hcomma hblank hplace
  rw [← form.arguments_eq] at hmem
  refine ⟨String.ofList argument, List.mem_map_of_mem hmem, ?_⟩
  rw [String.toList_ofList]
  exact hlies.lift hinner

/-- **The form of a call.** A query is a call, with its name, schema and arguments, exactly when it
has the form of one. Lexing the text between the parentheses alone finds the spans there that lexing
the whole query finds. -/
theorem call?_iff_callForm :
    (∀ query call, call? query = some call ↔
      ∃ form : CallForm, form.text = query ∧ form.call = call) ∧
    ∀ form : CallForm, offsets (form.head.text.length + 1) (spans form.inner) =
      within (form.head.text.length + 1) (form.head.text.length + 1 + form.inner.length)
        (offsets 0 (spans form.text)) :=
  ⟨fun _ _ => call?_eq_some_iff_form, CallForm.offsets_inner⟩

example : (call? "SELECT app.\"Fn\"(@a, f(1, 2), ',')".toList).map Call.arguments =
    some ["@a", "f(1, 2)", "','"] := by
  cbv

end QueryAudit.Query
