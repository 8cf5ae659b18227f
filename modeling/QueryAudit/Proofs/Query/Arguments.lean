import QueryAudit.Proofs.Blanks
import QueryAudit.Proofs.Query.Brackets
import QueryAudit.Proofs.Query.Mentions

/-!
# Arguments as parts of a call

The text between the parentheses is cut at commas and the parts are trimmed. Both leave the marks of
what remains as they were, so a placeholder between the parentheses lies in one of the arguments.
-/

namespace QueryAudit.Query

/-! ## Blanks -/

/-- Blanks end identifiers, names and tokens, and no skipped span and no placeholder starts with
one. -/
theorem blank_classes {c : Char} (h : Text.isBlank c = true) :
    isIdentifierChar c = false ∧ continuesOpening c = false ∧ opensSpan c = false ∧ c ≠ '@' := by
  have hall : ∀ n ∈ Text.blankCodes, isIdentifierChar (Char.ofNat n) = false ∧
      continuesOpening (Char.ofNat n) = false ∧ opensSpan (Char.ofNat n) = false ∧
        Char.ofNat n ≠ '@' := by
    decide +kernel
  have hc := hall c.toNat (Text.toNat_mem_blankCodes h)
  rwa [Char.ofNat_toNat] at hc

/-- Trimming drops blanks at both ends. -/
theorem trim_spec (text : List Char) :
    ∃ back, text = text.takeWhile Text.isBlank ++ Text.trim text ++ back ∧
      ∀ c ∈ back, Text.isBlank c = true := by
  refine ⟨((text.dropWhile Text.isBlank).reverse.takeWhile Text.isBlank).reverse, ?_,
    fun _ hc => List.mem_takeWhile_imp (List.mem_reverse.mp hc)⟩
  rw [Text.trim, Text.trimBy, List.append_assoc, ← List.reverse_append,
    List.takeWhile_append_dropWhile, List.reverse_reverse, List.takeWhile_append_dropWhile]

/-- Nothing is left of blanks, and of nothing else. -/
theorem trim_eq_nil_iff {text : List Char} :
    Text.trim text = [] ↔ ∀ c ∈ text, Text.isBlank c = true := by
  constructor
  · intro h c hc
    obtain ⟨back, htext, hback⟩ := trim_spec text
    rw [htext, h, List.append_nil] at hc
    exact (List.mem_append.mp hc).elim List.mem_takeWhile_imp (hback c)
  · intro h
    have hhead := (Text.ends_trim text).1
    cases htrim : Text.trim text with
    | nil => rfl
    | cons c rest =>
      have hc := h c ((Text.trim_sublist text).subset (by rw [htrim]; exact List.mem_cons_self))
      rw [htrim, List.head?_cons, Option.any_some, hc] at hhead
      cases hhead

/-! ## Places in parts -/

/-- A sign in the code of a text lies in a part of the text. -/
def LiesIn (part text : List Char) (left : List (Char × Bool)) (sign : Char)
    (right : List (Char × Bool)) : Prop :=
  ∃ front back before after, StandsIn part text front back ∧
    marked part = before ++ (sign, true) :: after ∧ left = front ++ before ∧ right = after ++ back

/-- A part of a part is a part. -/
theorem LiesIn.lift {inner part text : List Char} {front back left right : List (Char × Bool)}
    {sign : Char} (h : LiesIn inner part left sign right) (hpart : StandsIn part text front back) :
    LiesIn inner text (front ++ left) sign (right ++ back) := by
  obtain ⟨front', back', before, after, hinner, hmarked, rfl, rfl⟩ := h
  exact ⟨_, _, before, after, hinner.trans hpart, hmarked, by simp, by simp⟩

/-- A sign lies in a part when it does not stand around it. -/
theorem StandsIn.liesIn {part text : List Char} {front back left right : List (Char × Bool)}
    {sign : Char} (h : StandsIn part text front back)
    (hmarked : marked text = left ++ (sign, true) :: right)
    (hfront : ∀ more, front ≠ left ++ (sign, true) :: more) (hback : (sign, true) ∉ back) :
    LiesIn part text left sign right := by
  rw [h.marks, List.append_assoc] at hmarked
  rcases append_eq_append_cons hmarked with ⟨more, hin, _⟩ | ⟨before, rfl, hrest⟩
  · exact absurd hin (hfront more)
  · rcases append_eq_append_cons hrest with ⟨after, hpart, rfl⟩ | ⟨more, _, hin⟩
    · exact ⟨front, back, before, after, h, hpart, rfl, rfl⟩
    · exact absurd (by rw [hin]; simp) hback

/-- A placeholder that lies in a part is all that the part is when the part is one placeholder. -/
theorem LiesIn.eq_cons {part text chars : List Char} {left right : List (Char × Bool)}
    {sign head : Char} (h : LiesIn part text left sign right) (hpart : part = head :: chars)
    (hsign : isNameChar sign = false) (hchars : ∀ c ∈ chars, isNameChar c = true) :
    sign = head ∧ ∃ rest, right.map Prod.fst = chars ++ rest ∧ EndsName rest := by
  obtain ⟨front, back, before, after, hstands, hmarked, rfl, rfl⟩ := h
  have htext := congrArg (List.map Prod.fst) hmarked
  rw [marked_eq_marksFrom, marksFrom_map_fst, hpart, List.map_append, List.map_cons] at htext
  cases before with
  | nil =>
    obtain ⟨rfl, rfl⟩ := List.cons.inj htext
    exact ⟨rfl, back.map Prod.fst, List.map_append, hstands.ends.endsName⟩
  | cons mark before =>
    obtain ⟨_, rfl⟩ := List.cons.inj htext
    have hname := hchars sign (by simp)
    rw [hsign] at hname
    cases hname

/-- A placeholder of the text that lies in a part is found there. -/
theorem LiesIn.hasPlaceholders {part text : List Char} {left right : List (Char × Bool)}
    {sign next : Char} (h : LiesIn part text left sign ((next, true) :: right))
    (hsigns : SignsPlaceholder sign next)
    (hleft : ∀ c ∈ (left.map Prod.fst).getLast?, hidesPlaceholder c = false) :
    hasPlaceholders part = true := by
  obtain ⟨front, back, before, after, hstands, hmarked, rfl, hright⟩ := h
  cases after with
  | nil =>
    have hends := hstands.ends next (by rw [List.nil_append] at hright; rw [← hright]; rfl)
    simp [continuesOpening, hsigns.isNameChar] at hends
  | cons mark after =>
    obtain ⟨rfl, _⟩ := List.cons.inj hright
    refine hasPlaceholders_of_marked hsigns hmarked ?_
    rw [hiddenBehind, Option.or_none]
    rw [List.map_append, List.getLast?_append] at hleft
    cases hlast : (before.map Prod.fst).getLast? with
    | none => rfl
    | some c => exact hleft c (by rw [hlast]; rfl)

/-! ## Cutting at commas -/

/-- The first of the pieces of a text is all of it, or it ends at a comma of the code and the others
are the pieces of what stands behind. -/
theorem Separated.uncons {text piece : List Char} {rest : List (List Char)}
    (h : Separated (marked text) (piece :: rest)) :
    (rest = [] ∧ piece = text) ∨ ∃ last, text = piece ++ ',' :: last ∧
      marked text = marked piece ++ (',', true) :: marked last ∧ Separated (marked last) rest := by
  obtain ⟨_, htext, hcommas⟩ := h
  rw [marked_map_fst] at htext
  rcases eq_or_ne rest [] with rfl | hrest
  · exact Or.inl ⟨rfl, by rw [← htext, joined_singleton]⟩
  · right
    have hends := fun n => (hcommas n).trans (endsAt_cons hrest)
    obtain ⟨front, back, hmarked, hlength, hdepth⟩ :=
      separatesAt_iff.mp ((hends _).mpr (Or.inl rfl))
    have hfirst : ∀ n < front.length, ¬ SeparatesAt (marked text) n := by
      intro n hn hseparates
      rcases (hends n).mp hseparates with heq | ⟨m, heq, _⟩ <;> omega
    have hwhole : Separated (marked text) (piece :: rest) :=
      ⟨List.cons_ne_nil _ _, by rw [marked_map_fst, htext], hcommas⟩
    rw [hmarked] at hfirst hwhole
    obtain ⟨_, hpieces, hback⟩ := (separated_iff_of_first hdepth hfirst).mp hwhole
    obtain ⟨first, last, rfl, rfl, rfl⟩ := marked_split (by decide) (by decide) hmarked
    obtain ⟨hpiece, rfl⟩ := List.cons.inj hpieces
    rw [marked_map_fst] at hpiece
    subst hpiece
    exact ⟨last, rfl, hmarked, hback⟩

/-- What stands behind a comma of the code is a part. -/
theorem standsIn_behind_comma {text first last : List Char}
    (h : marked text = marked first ++ (',', true) :: marked last) :
    StandsIn last text (marked first ++ [(',', true)]) [] where
  marks := by simp [h]
  ends := by simp [EndsOpening]

/-- What stands in front of a comma of the code is a part. -/
theorem standsIn_before_comma {text first last : List Char}
    (h : marked text = marked first ++ (',', true) :: marked last) :
    StandsIn first text [] ((',', true) :: marked last) where
  marks := h
  ends := by
    rintro c ⟨⟩
    decide

/-- A sign lies in one of the pieces between commas. -/
theorem Separated.exists_liesIn {text : List Char} {pieces : List (List Char)}
    {left right : List (Char × Bool)} {sign : Char} (hpieces : Separated (marked text) pieces)
    (hsign : sign ≠ ',') (h : marked text = left ++ (sign, true) :: right) :
    ∃ piece ∈ pieces, LiesIn piece text left sign right := by
  induction pieces generalizing text left with
  | nil => exact absurd rfl hpieces.ne_nil
  | cons piece rest ih =>
    rcases hpieces.uncons with ⟨rfl, rfl⟩ | ⟨last, _, hcomma, hrest⟩
    · exact ⟨piece, List.mem_cons_self, (StandsIn.refl piece).liesIn h (by simp) (by simp)⟩
    · rw [hcomma] at h
      rcases append_eq_append_cons h with ⟨more, hfirst, rfl⟩ | ⟨more, rfl, hlast⟩
      · exact ⟨piece, List.mem_cons_self, _, _, left, more, standsIn_before_comma hcomma, hfirst,
          rfl, rfl⟩
      · cases more with
        | nil =>
          obtain ⟨hhead, _⟩ := List.cons.inj hlast
          exact absurd (Prod.mk.inj hhead).1.symm hsign
        | cons mark more =>
          obtain ⟨rfl, htail⟩ := List.cons.inj hlast
          obtain ⟨part, hpart, hlies⟩ := ih hrest htail
          refine ⟨part, List.mem_cons_of_mem _ hpart, ?_⟩
          simpa using hlies.lift (standsIn_behind_comma hcomma)

/-! ## Trimming -/

/-- Nothing happens to the marks of code in which no skipped span starts. -/
theorem marksFrom_run {before run rest : List Char} (h : ∀ c ∈ run, opensSpan c = false) :
    marksFrom before (run ++ rest) =
      run.map (fun c => (c, true)) ++ marksFrom (run.reverse ++ before) rest := by
  induction run generalizing before with
  | nil => rfl
  | cons c run ih =>
    rw [List.cons_append, marksFrom_of_code (skippedAfter?_eq_none (h c List.mem_cons_self)),
      ih fun d hd => h d (List.mem_cons_of_mem _ hd)]
    simp

/-- Behind blanks the lexer starts anew. -/
theorem sameBehind_blanks {blanks : List Char} (h : ∀ c ∈ blanks, Text.isBlank c = true) :
    SameBehind (blanks.reverse ++ []) [] := by
  rw [List.append_nil]
  cases hreverse : blanks.reverse with
  | nil => exact ⟨rfl, rfl⟩
  | cons c rest =>
    have hc : c ∈ blanks := by
      rw [← List.mem_reverse, hreverse]
      exact List.mem_cons_self
    exact sameBehind_of_not_identifier (blank_classes (h c hc)).1 rest

/-- A trimmed text stands in the text, with blanks around it. -/
theorem standsIn_trim (text : List Char) :
    ∃ back, StandsIn (Text.trim text) text
        ((text.takeWhile Text.isBlank).map fun c => (c, true)) back ∧
      ∀ mark ∈ back, Text.isBlank mark.1 = true := by
  obtain ⟨after, htext, hafter⟩ := trim_spec text
  have hbefore : ∀ c ∈ text.takeWhile Text.isBlank, Text.isBlank c = true :=
    fun _ hc => List.mem_takeWhile_imp hc
  have hends : EndsOpening after := fun c hc =>
    (blank_classes (hafter c (List.mem_of_mem_head? hc))).2.1
  obtain ⟨back, hback⟩ : marksFrom [] (Text.trim text) <+: marksFrom [] (Text.trim text ++ after) :=
    marksFrom_prefix hends
  have hchars : back.map Prod.fst = after := by
    have hwhole := congrArg (List.map Prod.fst) hback
    rw [List.map_append, marksFrom_map_fst, marksFrom_map_fst] at hwhole
    exact List.append_cancel_left hwhole
  refine ⟨back, ⟨?_, by rwa [hchars]⟩, fun mark hmark => ?_⟩
  · conv => lhs; rw [htext]
    rw [marked_eq_marksFrom, List.append_assoc,
      marksFrom_run fun c hc => (blank_classes (hbefore c hc)).2.2.1,
      (sameBehind_blanks hbefore).marksFrom, ← hback, List.append_assoc]
    rfl
  · exact hafter _ (by rw [← hchars]; exact List.mem_map_of_mem hmark)

/-- A sign in a part lies in the trimmed part. -/
theorem LiesIn.trim {part text : List Char} {left right : List (Char × Bool)} {sign : Char}
    (h : LiesIn part text left sign right) (hblank : Text.isBlank sign = false) :
    LiesIn (Text.trim part) text left sign right := by
  obtain ⟨front, back, before, after, hstands, hmarked, rfl, rfl⟩ := h
  obtain ⟨back', htrim, hblanks⟩ := standsIn_trim part
  have hfront (more : List (Char × Bool)) : (part.takeWhile Text.isBlank).map
      (fun c => (c, true)) ≠ before ++ (sign, true) :: more := by
    intro heq
    have hmem : (sign, true) ∈ (part.takeWhile Text.isBlank).map fun c => (c, true) := by
      rw [heq]
      simp
    obtain ⟨c, hc, hsign⟩ := List.mem_map.mp hmem
    obtain rfl := (Prod.mk.inj hsign).1
    rw [List.mem_takeWhile_imp hc] at hblank
    cases hblank
  have hback : (sign, true) ∉ back' := by
    intro hmem
    have hsign := hblanks _ hmem
    rw [hblank] at hsign
    cases hsign
  have hlies : LiesIn (Text.trim part) part before sign after := htrim.liesIn hmarked hfront hback
  exact hlies.lift hstands

/-- Nothing lies in an empty part. -/
theorem LiesIn.ne_nil {part text : List Char} {left right : List (Char × Bool)} {sign : Char}
    (h : LiesIn part text left sign right) : part ≠ [] := by
  rintro rfl
  obtain ⟨_, _, before, after, _, hmarked, _, _⟩ := h
  rw [marked_eq_marksFrom, marksFrom_nil] at hmarked
  simp at hmarked

/-- A sign between parentheses lies in an argument. -/
theorem exists_argument_liesIn {inner : List Char} {left right : List (Char × Bool)} {sign : Char}
    (hcomma : sign ≠ ',') (hblank : Text.isBlank sign = false)
    (h : marked inner = left ++ (sign, true) :: right) :
    ∃ argument ∈ splitArguments inner, LiesIn argument inner left sign right := by
  obtain ⟨part, hpart, hlies⟩ := (cutAtCommas_eq_iff.mp rfl).exists_liesIn hcomma h
  have hmem : Text.trim part ∈ (cutAtCommas 0 [] (marked inner)).map Text.trim :=
    List.mem_map_of_mem hpart
  refine ⟨Text.trim part, ?_, hlies.trim hblank⟩
  rw [splitArguments]
  split
  · rename_i hempty
    rw [hempty, List.mem_singleton] at hmem
    exact absurd hmem (hlies.trim hblank).ne_nil
  · exact hmem

end QueryAudit.Query
