import QueryAudit.Proofs.Query.Arguments

/-!
# The head of a call

A call starts with a keyword and a name, with a qualifier or without one. This file says how these
are written, as data that carries its own well-formedness, and that the parser reads exactly what is
written so.
-/

namespace QueryAudit.Query

/-! ## Blanks -/

/-- A run of blanks, which may be empty. -/
abbrev Blanks := { run : List Char // ∀ c ∈ run, Text.isBlank c = true }

theorem skipBlanks_eq_iff {text rest : List Char} :
    skipBlanks text = rest ↔
      (∃ blanks : Blanks, text = blanks.val ++ rest) ∧ rest.head?.any Text.isBlank = false := by
  constructor
  · rintro rfl
    refine ⟨⟨⟨text.takeWhile Text.isBlank, fun _ hc => List.mem_takeWhile_imp hc⟩, ?_⟩, ?_⟩
    · exact List.takeWhile_append_dropWhile.symm
    · cases hhead : (skipBlanks text).head? with
      | none => rfl
      | some c =>
        rw [skipBlanks] at hhead
        simpa [hhead] using List.head?_dropWhile_not Text.isBlank text
  · rintro ⟨⟨⟨blanks, hblanks⟩, rfl⟩, hrest⟩
    rw [skipBlanks, List.dropWhile_append_of_pos hblanks]
    cases rest with
    | nil => rfl
    | cons c rest => exact List.dropWhile_cons_of_neg (by simpa using hrest)

/-- What is no blank stops the skipping of blanks. -/
theorem skipBlanks_eq_cons_iff {text rest : List Char} {c : Char} (hc : Text.isBlank c = false) :
    skipBlanks text = c :: rest ↔ ∃ blanks : Blanks, text = blanks.val ++ c :: rest :=
  skipBlanks_eq_iff.trans (and_iff_left hc)

/-- Blanks are skipped up to what is no blank. -/
theorem skipBlanks_append (blanks : Blanks) {rest : List Char}
    (h : rest.head?.any Text.isBlank = false) : skipBlanks (blanks.val ++ rest) = rest :=
  skipBlanks_eq_iff.mpr ⟨⟨blanks, rfl⟩, h⟩

/-! ## The keyword -/

theorem dropKeyword?_eq_some_iff {word text rest : List Char} :
    dropKeyword? word text = some rest ↔
      ∃ keyword, text = keyword ++ rest ∧
        List.Forall₂ (fun letter c => isLetter letter c = true) word keyword := by
  fun_induction dropKeyword? word text with
  | case1 text =>
    constructor
    · rintro ⟨⟩
      exact ⟨[], rfl, .nil⟩
    · rintro ⟨_, rfl, hkeyword⟩
      cases hkeyword
      rfl
  | case2 letter word c text hletter ih =>
    rw [ih]
    constructor
    · rintro ⟨keyword, rfl, hkeyword⟩
      exact ⟨c :: keyword, rfl, .cons hletter hkeyword⟩
    · rintro ⟨_, heq, hkeyword⟩
      cases hkeyword with
      | cons _ hkeyword =>
        obtain ⟨rfl, rfl⟩ := List.cons.inj heq
        exact ⟨_, rfl, hkeyword⟩
  | case3 letter word c text hletter =>
    refine iff_of_false (by simp) ?_
    rintro ⟨_, heq, hkeyword⟩
    cases hkeyword with
    | cons hc _ =>
      obtain ⟨rfl, rfl⟩ := List.cons.inj heq
      exact hletter hc
  | case4 =>
    refine iff_of_false (by simp) ?_
    rintro ⟨_, heq, hkeyword⟩
    cases hkeyword with
    | cons => cases heq

/-! ## Identifiers -/

/-- A text as it is written between double quotes. -/
def doubled (inside : List Char) : List Char :=
  inside.flatMap fun c => if c = '"' then ['"', '"'] else [c]

/-- An identifier as it is written. -/
inductive Identifier where
  /-- A letter or an underscore, then such characters, digits and dollar signs. -/
  | plain (first : Char) (others : List Char) (hfirst : isNameStart first = true)
    (hothers : ∀ c ∈ others, (isNameChar c || c == '$') = true)
  /-- What stands between double quotes, which is not empty. -/
  | quoted (inside : List Char) (hne : inside ≠ [])

namespace Identifier

/-- The characters of an identifier in a query. -/
def source : Identifier → List Char
  | plain first others _ _ => first :: others
  | quoted inside _ => '"' :: (doubled inside ++ ['"'])

/-- The name an identifier stands for: in lower case, or exactly what is quoted. -/
def folded : Identifier → String
  | plain first others _ _ => String.ofList (Text.lower (first :: others))
  | quoted inside _ => String.ofList inside

/-- A text that does not go on with an identifier. -/
def EndsBefore : Identifier → List Char → Prop
  | plain _ _ _ _, after => ∀ c ∈ after.head?, (isNameChar c || c == '$') = false
  | quoted _ _, after => after.head? ≠ some '"'

theorem endsBefore_of_blanks (identifier : Identifier) (blanks : Blanks) {c : Char}
    (hc : c = '(' ∨ c = '.') (rest : List Char) :
    identifier.EndsBefore (blanks.val ++ c :: rest) := by
  obtain ⟨blanks, hblanks⟩ := blanks
  have hhead : ∀ d ∈ (blanks ++ c :: rest).head?, isIdentifierChar d = false ∧ d ≠ '"' := by
    intro d hd
    cases blanks with
    | nil =>
      obtain rfl : c = d := Option.some.inj hd
      rcases hc with rfl | rfl <;> decide
    | cons blank blanks =>
      obtain rfl : blank = d := Option.some.inj hd
      obtain ⟨hident, _, hopens, _⟩ := blank_classes (hblanks blank List.mem_cons_self)
      refine ⟨hident, ?_⟩
      rintro rfl
      exact absurd hopens (by decide)
  cases identifier with
  | plain first others hfirst hothers =>
    intro d hd
    obtain ⟨hident, _⟩ := hhead d hd
    rw [Bool.eq_false_iff]
    intro hname
    simp only [Bool.or_eq_true, beq_iff_eq] at hname
    rcases hname with hname | rfl
    · rw [isIdentifierChar_of_isNameChar hname] at hident
      cases hident
    · exact absurd hident (by decide)
  | quoted inside hne => exact fun hquote => (hhead '"' hquote).2 rfl

end Identifier

theorem doubled_cons (c : Char) (inside : List Char) :
    doubled (c :: inside) = (if c = '"' then ['"', '"'] else [c]) ++ doubled inside :=
  List.flatMap_cons

/-- What is read between quotes is what was doubled there. -/
theorem quoted_eq_some_iff {read text after : List Char} {name : String} :
    identifier?.quoted read text = some (name, after) ↔
      ∃ inside, text = doubled inside ++ '"' :: after ∧ after.head? ≠ some '"' ∧
        read.reverse ++ inside ≠ [] ∧ name = String.ofList (read.reverse ++ inside) := by
  constructor
  · intro h
    fun_induction identifier?.quoted read text with
    | case1 read rest ih =>
      obtain ⟨inside, rfl, hafter, hne, rfl⟩ := ih h
      exact ⟨'"' :: inside, by simp [doubled_cons], hafter, by simp, by simp⟩
    | case2 => cases h
    | case3 read rest hsingle hread =>
      obtain ⟨rfl, rfl⟩ := Prod.mk.inj (Option.some.inj h)
      refine ⟨[], rfl, fun hhead => ?_, by simpa using hread, by rw [List.append_nil]⟩
      obtain ⟨more, rfl⟩ := List.head?_eq_some_iff.mp hhead
      exact hsingle more rfl
    | case4 read c rest _ hquote ih =>
      obtain ⟨inside, rfl, hafter, hne, rfl⟩ := ih h
      have hc : c ≠ '"' := hquote
      exact ⟨c :: inside, by simp [doubled_cons, hc], hafter, by simp, by simp⟩
    | case5 => cases h
  · rintro ⟨inside, rfl, hafter, hne, rfl⟩
    induction inside generalizing read with
    | nil =>
      rw [List.append_nil] at hne
      have hsingle : ∀ rest, after = '"' :: rest → False := by
        rintro rest rfl
        exact hafter rfl
      rw [doubled, List.flatMap_nil, List.nil_append, identifier?.quoted]
      · simpa using hne
      · exact hsingle
    | cons c inside ih =>
      by_cases hc : c = '"'
      · subst hc
        have hrest := @ih ('"' :: read) (by simp)
        simpa [doubled_cons, identifier?.quoted] using hrest
      · have hrest := @ih (c :: read) (by simp)
        rw [doubled_cons, if_neg hc, List.singleton_append, List.cons_append, identifier?.quoted]
        · simpa using hrest
        · exact fun _ h => absurd h hc
        · exact fun h => absurd h hc

theorem drop_takeWhile_length (p : Char → Bool) (text : List Char) :
    text.drop (text.takeWhile p).length = text.dropWhile p := by
  have hparts := List.prefix_iff_eq_append.mp (List.takeWhile_prefix (l := text) p)
  exact List.append_cancel_left (hparts.trans List.takeWhile_append_dropWhile.symm)

/-- An identifier is read as it is written. -/
theorem identifier?_eq_some_iff {text after : List Char} {name : String} :
    identifier? text = some (name, after) ↔ ∃ identifier : Identifier,
      text = identifier.source ++ after ∧ identifier.EndsBefore after ∧
        identifier.folded = name := by
  constructor
  · intro h
    unfold identifier? at h
    split at h
    · obtain ⟨inside, rfl, hafter, hne, rfl⟩ := quoted_eq_some_iff.mp h
      exact ⟨.quoted inside hne, by simp [Identifier.source], hafter, rfl⟩
    · rename_i c rest _
      split at h
      · rename_i hstart
        simp only [List.length_cons, Nat.add_sub_cancel, Option.some.injEq, Prod.mk.injEq] at h
        obtain ⟨rfl, rfl⟩ := h
        have hothers (d) (hd : d ∈ rest.takeWhile fun d => isNameChar d || d == '$') :
            (isNameChar d || d == '$') = true := by
          simpa using List.mem_takeWhile_imp hd
        refine ⟨.plain c _ hstart hothers, ?_, fun d hd => ?_, rfl⟩
        · rw [drop_takeWhile_length]
          exact congrArg _ List.takeWhile_append_dropWhile.symm
        · rw [drop_takeWhile_length] at hd
          have hnot := List.head?_dropWhile_not (fun d => isNameChar d || d == '$') rest
          simpa [Option.mem_def.mp hd] using hnot
      · cases h
    · cases h
  · rintro ⟨identifier, rfl, hafter, rfl⟩
    cases identifier with
    | plain first others hfirst hothers =>
      have hquote : first ≠ '"' := by
        rintro rfl
        exact absurd hfirst (by decide)
      have hall : (others ++ after).takeWhile (fun d => isNameChar d || d == '$') = others := by
        rw [List.takeWhile_append_of_pos hothers]
        cases after with
        | nil => exact List.append_nil others
        | cons d after =>
          rw [List.takeWhile_cons_of_neg (by simpa using hafter d rfl), List.append_nil]
      rw [Identifier.source, List.cons_append, identifier?]
      · simp [hfirst, hall, Identifier.folded]
      · exact hquote
    | quoted inside hne =>
      rw [Identifier.source, List.cons_append, List.append_assoc]
      exact quoted_eq_some_iff.mpr ⟨inside, rfl, hafter, hne, rfl⟩

namespace Identifier

/-- An identifier does not start with a blank. -/
theorem head_source (identifier : Identifier) (rest : List Char) :
    (identifier.source ++ rest).head?.any Text.isBlank = false := by
  cases identifier with
  | quoted inside hne => rfl
  | plain first others hfirst hothers =>
    rw [Bool.eq_false_iff]
    intro hblank
    have hnot := (blank_classes (show Text.isBlank first = true from hblank)).1
    rw [isIdentifierChar_of_isNameChar (isNameChar_of_isNameStart hfirst)] at hnot
    cases hnot

theorem identifier?_source (identifier : Identifier) (blanks : Blanks) {c : Char}
    (hc : c = '(' ∨ c = '.') (rest : List Char) :
    identifier? (identifier.source ++ (blanks.val ++ c :: rest)) =
      some (identifier.folded, blanks.val ++ c :: rest) :=
  identifier?_eq_some_iff.mpr ⟨identifier, rfl, identifier.endsBefore_of_blanks blanks hc rest, rfl⟩

end Identifier

/-! ## Names with qualifiers -/

/-- A qualifier as it is written, with its dot. -/
structure Qualifier where
  /-- The schema. -/
  schema : Identifier
  /-- The blanks before the dot. -/
  before : Blanks
  /-- The blanks after the dot. -/
  after : Blanks

/-- The characters of a qualifier. -/
def Qualifier.text (qualifier : Qualifier) : List Char :=
  qualifier.schema.source ++ (qualifier.before.val ++ '.' :: qualifier.after.val)

/-- The characters of a qualifier that may be missing. -/
def Qualifier.textOf (qualifier : Option Qualifier) : List Char :=
  qualifier.elim [] Qualifier.text

/-- What is read as a name with an optional qualifier is written as one. -/
theorem exists_of_callHead? {text rest : List Char} {schemaName : Option String} {name : String}
    (h : callHead? text = some (schemaName, name, rest)) :
    ∃ (qualifier : Option Qualifier) (identifier : Identifier) (space : Blanks),
      text = Qualifier.textOf qualifier ++ (identifier.source ++ (space.val ++ '(' :: rest)) ∧
      qualifier.map (fun qualifier => qualifier.schema.folded) = schemaName ∧
      identifier.folded = name := by
  have hopening : Text.isBlank '(' = false := by decide
  have hdot : Text.isBlank '.' = false := by decide
  obtain ⟨⟨first, afterFirst⟩, hfirst, hcall⟩ := Option.bind_eq_some_iff.mp h
  obtain ⟨identifier, rfl, _, rfl⟩ := identifier?_eq_some_iff.mp hfirst
  simp only [] at hcall
  split at hcall
  · rename_i hrest
    simp only [Option.some.injEq, Prod.mk.injEq] at hcall
    obtain ⟨rfl, rfl, rfl⟩ := hcall
    obtain ⟨space, rfl⟩ := (skipBlanks_eq_cons_iff hopening).mp hrest
    exact ⟨none, identifier, space, rfl, rfl, rfl⟩
  · rename_i afterDot hrest
    obtain ⟨before, rfl⟩ := (skipBlanks_eq_cons_iff hdot).mp hrest
    obtain ⟨⟨second, afterSecond⟩, hsecond, hlast⟩ := Option.bind_eq_some_iff.mp hcall
    obtain ⟨name, hname, _, rfl⟩ := identifier?_eq_some_iff.mp hsecond
    obtain ⟨⟨after, rfl⟩, _⟩ := skipBlanks_eq_iff.mp hname
    simp only [] at hlast
    split at hlast
    · rename_i hrest
      simp only [Option.some.injEq, Prod.mk.injEq] at hlast
      obtain ⟨rfl, rfl, rfl⟩ := hlast
      obtain ⟨space, rfl⟩ := (skipBlanks_eq_cons_iff hopening).mp hrest
      refine ⟨some ⟨identifier, before, after⟩, name, space, ?_, rfl, rfl⟩
      simp [Qualifier.textOf, Qualifier.text]
    · cases hlast
  · cases hcall

/-- A name with an optional qualifier is read as it is written. -/
theorem callHead?_textOf (qualifier : Option Qualifier) (identifier : Identifier) (space : Blanks)
    (rest : List Char) :
    callHead? (Qualifier.textOf qualifier ++ (identifier.source ++ (space.val ++ '(' :: rest))) =
      some (qualifier.map fun qualifier => qualifier.schema.folded, identifier.folded, rest) := by
  have hname := identifier.identifier?_source space (Or.inl rfl) rest
  have hspace : skipBlanks (space.val ++ '(' :: rest) = '(' :: rest :=
    skipBlanks_append space (show Text.isBlank '(' = false by decide)
  cases qualifier with
  | none =>
    rw [Qualifier.textOf, Option.elim_none, List.nil_append, callHead?, hname]
    simp [hspace]
  | some qualifier =>
    obtain ⟨schema, before, after⟩ := qualifier
    have hschema := schema.identifier?_source before (Or.inr rfl)
      (after.val ++ (identifier.source ++ (space.val ++ '(' :: rest)))
    have hbefore (more : List Char) : skipBlanks (before.val ++ '.' :: more) = '.' :: more :=
      skipBlanks_append before (show Text.isBlank '.' = false by decide)
    have hafter : skipBlanks (after.val ++ (identifier.source ++ (space.val ++ '(' :: rest))) =
        identifier.source ++ (space.val ++ '(' :: rest) :=
      skipBlanks_append after (identifier.head_source _)
    rw [Qualifier.textOf, Option.elim_some, Qualifier.text, List.append_assoc, List.append_assoc,
      List.cons_append, callHead?, hschema]
    simp [hbefore, hafter, hname, hspace]

/-! ## The whole head -/

/-- The text of a call up to its opening parenthesis. -/
structure CallHead where
  /-- The blanks before the keyword. -/
  front : Blanks
  /-- The keyword, in any letter case. -/
  keyword : List Char
  /-- Its letters. -/
  hkeyword : List.Forall₂ (fun letter c => isLetter letter c = true) "select".toList keyword
  /-- The blanks behind the keyword. -/
  gap : Blanks
  /-- There are some. -/
  hgap : gap.val ≠ []
  /-- The qualifier. -/
  qualifier : Option Qualifier
  /-- The name. -/
  name : Identifier
  /-- The blanks before the parenthesis. -/
  space : Blanks

namespace CallHead

/-- The characters of the head. -/
def text (head : CallHead) : List Char :=
  head.front.val ++ (head.keyword ++ (head.gap.val ++ (Qualifier.textOf head.qualifier ++
    (head.name.source ++ head.space.val))))

/-- The schema that the qualifier stands for. -/
def schemaName (head : CallHead) : Option String :=
  head.qualifier.map fun qualifier => qualifier.schema.folded

end CallHead

/-- No blank is the first letter of the keyword. -/
theorem not_blank_of_isLetter {c : Char} (h : isLetter 's' c = true) : Text.isBlank c = false := by
  have hall : ∀ n ∈ Text.blankCodes, isLetter 's' (Char.ofNat n) = false := by decide
  rw [Bool.eq_false_iff]
  intro hblank
  have hnot := hall c.toNat (Text.toNat_mem_blankCodes hblank)
  rw [Char.ofNat_toNat, h] at hnot
  cases hnot

/-- A name with a qualifier does not start with a blank. -/
theorem head_textOf (qualifier : Option Qualifier) (identifier : Identifier) (rest : List Char) :
    (Qualifier.textOf qualifier ++ (identifier.source ++ rest)).head?.any Text.isBlank = false := by
  cases qualifier with
  | none => exact identifier.head_source rest
  | some qualifier =>
    rw [Qualifier.textOf, Option.elim_some, Qualifier.text, List.append_assoc]
    exact qualifier.schema.head_source _

/-- The head of a call is read as it is written. -/
theorem head_eq_some_iff {query rest : List Char} {schemaName : Option String} {name : String} :
    (∃ afterSelect, dropKeyword? "select".toList (skipBlanks query) = some afterSelect ∧
        afterSelect.head?.any Text.isBlank = true ∧
        callHead? (skipBlanks afterSelect) = some (schemaName, name, rest)) ↔
      ∃ head : CallHead, query = head.text ++ '(' :: rest ∧ head.schemaName = schemaName ∧
        head.name.folded = name := by
  constructor
  · rintro ⟨afterSelect, hselect, hblank, hcall⟩
    obtain ⟨keyword, hquery, hkeyword⟩ := dropKeyword?_eq_some_iff.mp hselect
    obtain ⟨⟨front, rfl⟩, _⟩ := skipBlanks_eq_iff.mp hquery
    obtain ⟨qualifier, identifier, space, htext, rfl, rfl⟩ := exists_of_callHead? hcall
    obtain ⟨⟨gap, rfl⟩, hname⟩ := skipBlanks_eq_iff.mp htext
    refine ⟨⟨front, keyword, hkeyword, gap, ?_, qualifier, identifier, space⟩, ?_, rfl, rfl⟩
    · intro hgap
      rw [hgap, List.nil_append, hname] at hblank
      cases hblank
    · simp [CallHead.text]
  · rintro ⟨⟨front, keyword, hkeyword, gap, hgap, qualifier, identifier, space⟩, rfl, rfl, rfl⟩
    have hgapped : skipBlanks (gap.val ++ (Qualifier.textOf qualifier ++
        (identifier.source ++ (space.val ++ '(' :: rest)))) =
          Qualifier.textOf qualifier ++ (identifier.source ++ (space.val ++ '(' :: rest)) :=
      skipBlanks_append gap (head_textOf _ _ _)
    refine ⟨_, dropKeyword?_eq_some_iff.mpr ⟨keyword, ?_, hkeyword⟩, ?_,
      hgapped ▸ callHead?_textOf qualifier identifier space rest⟩
    · simp only [CallHead.text, List.append_assoc]
      refine skipBlanks_append front ?_
      cases hkeyword with
      | cons hletter _ => exact not_blank_of_isLetter hletter
    · obtain ⟨gap, hblanks⟩ := gap
      obtain ⟨c, gap, rfl⟩ := List.exists_cons_of_ne_nil hgap
      exact hblanks c List.mem_cons_self

end QueryAudit.Query
