import QueryAudit.Proofs.Blanks
import QueryAudit.Proofs.Entries
import QueryAudit.Vocabulary

/-!
# Function names and their kinds

Call sites write functions by name, and a name may end in one of three ways that ask for the
optional variant. The text of a kind is read back as that kind, with an ending and without one: the
texts of a vocabulary differ, none of them looks like an optional variant, and no ending stands at
the end of another one.
-/

namespace QueryAudit

/-! ## Members and their texts -/

namespace Vocabulary

/-- A vocabulary that lists all its members, each with a text of its own. -/
class Lawful (α : Type) [Vocabulary α] : Prop where
  /-- Every member is listed. -/
  mem_all : ∀ member : α, member ∈ (all : List α)
  /-- No two members have one text. -/
  nodup_texts : ((all : List α).map text).Nodup

variable {α : Type} [Vocabulary α] [Lawful α]

/-- A text is read as the member that it is the text of. -/
theorem ofText?_eq_some_iff {s : String} {member : α} :
    ofText? s = some member ↔ text member = s := by
  rw [ofText?, Entries.find?_key_eq_some_iff Lawful.nodup_texts]
  exact and_iff_right (Lawful.mem_all member)

theorem ofText?_text (member : α) : ofText? (text member) = some member :=
  ofText?_eq_some_iff.mpr rfl

/-- A member is read from its text. -/
theorem decode_text (member : α) : decode (.text (text member)) = .ok member := by
  simp only [decode, Decoder.text, ofText?_text]

end Vocabulary

instance : Vocabulary.Lawful ReaderKind where
  mem_all := by intro kind; cases kind <;> decide
  nodup_texts := by decide

instance : Vocabulary.Lawful WriterKind where
  mem_all := by intro kind; cases kind <;> decide
  nodup_texts := by decide

instance : Vocabulary.Lawful ExecutionMode where
  mem_all := by intro mode; cases mode <;> decide
  nodup_texts := by decide

instance : Vocabulary.Lawful Severity where
  mem_all := by intro severity; cases severity <;> decide
  nodup_texts := by decide

instance : Vocabulary.Lawful DiagnosticCode where
  mem_all := by intro code; cases code <;> decide
  nodup_texts := by decide

/-! ## Names and optional variants -/

/-- A printed character of ASCII. -/
def isPrintedAscii (c : Char) : Bool :=
  decide (0x21 ≤ c.toNat ∧ c.toNat ≤ 0x7E)

theorem isBlank_eq_false_of_isPrintedAscii {c : Char} (h : isPrintedAscii c = true) :
    Text.isBlank c = false := by
  simp only [isPrintedAscii, decide_eq_true_eq] at h
  simp only [Text.isBlank, Text.isWhiteSpace, Bool.or_eq_false_iff, decide_eq_false_iff_not,
    beq_eq_false_iff_ne]
  omega

/-- A name as the vocabularies have it: it has only printed characters and no optional ending. -/
structure PlainName (name : List Char) : Prop where
  /-- There is a name. -/
  ne_nil : name ≠ []
  /-- The characters are printed ones of ASCII. -/
  printed : name.all isPrintedAscii = true
  /-- The name is not that of an optional variant. -/
  noEnding : (optionalEndings.all fun ending => !ending.toList.isSuffixOf name) = true

instance (name : List Char) : Decidable (PlainName name) :=
  decidable_of_iff (name ≠ [] ∧ name.all isPrintedAscii = true ∧
      (optionalEndings.all fun ending => !ending.toList.isSuffixOf name) = true)
    ⟨fun h => ⟨h.1, h.2.1, h.2.2⟩, fun h => ⟨h.ne_nil, h.printed, h.noEnding⟩⟩

theorem plainName_reader (kind : ReaderKind) : PlainName (Vocabulary.text kind).toList := by
  cases kind <;> decide

theorem plainName_writer (kind : WriterKind) : PlainName (Vocabulary.text kind).toList := by
  cases kind <;> decide

theorem plainName_mode (mode : ExecutionMode) : PlainName (Vocabulary.text mode).toList := by
  cases mode <;> decide

/-- Text without blanks is trimmed already. -/
theorem trim_eq_self {text : List Char} (h : ∀ c ∈ text, Text.isBlank c = false) :
    Text.trim text = text := by
  refine Text.trim_eq_self_iff.mpr ⟨?_, fun c hc => h c (List.mem_of_getLast? hc)⟩
  cases text with
  | nil => rfl
  | cons c rest => exact h c List.mem_cons_self

theorem PlainName.trim_append {name ending : List Char} (hname : PlainName name)
    (hending : ending.all isPrintedAscii = true) :
    Text.trim (name ++ ending) = name ++ ending := by
  refine trim_eq_self fun c hc => isBlank_eq_false_of_isPrintedAscii ?_
  rcases List.mem_append.mp hc with hc | hc
  · exact List.all_eq_true.mp hname.printed c hc
  · exact List.all_eq_true.mp hending c hc

theorem PlainName.not_isSuffixOf {name : List Char} (hname : PlainName name) {ending : String}
    (hending : ending ∈ optionalEndings) : ending.toList.isSuffixOf name = false := by
  simpa using List.all_eq_true.mp hname.noEnding ending hending

/-- A plain name asks for the ordinary variant. -/
theorem splitOptional_eq_self {name : String} (hname : PlainName name.toList) :
    splitOptional name = (name, false) := by
  have htrim : Text.trim name.toList = name.toList := by
    simpa using @PlainName.trim_append _ [] hname rfl
  have hfind : (optionalEndings.find? fun ending =>
      decide (ending.length < name.toList.length) && ending.toList.isSuffixOf name.toList) =
      none := by
    rw [List.find?_eq_none]
    intro ending hmem
    simp [hname.not_isSuffixOf hmem]
  simp only [splitOptional, htrim, hfind, String.ofList_toList]

/-- No ending stands at the end of another one. -/
theorem eq_of_optionalEnding_suffix : ∀ left ∈ optionalEndings, ∀ right ∈ optionalEndings,
    left.toList <:+ right.toList → left = right := by
  decide

/-- A plain name with an ending asks for the optional variant. -/
theorem splitOptional_append {name ending : String} (hname : PlainName name.toList)
    (hending : ending ∈ optionalEndings) : splitOptional (name ++ ending) = (name, true) := by
  have hprinted : ∀ ending ∈ optionalEndings, ending.toList.all isPrintedAscii = true := by decide
  have htrim : Text.trim (name ++ ending).toList = name.toList ++ ending.toList := by
    rw [String.toList_append]
    exact hname.trim_append (hprinted ending hending)
  have hfind : (optionalEndings.find? fun ending' =>
      decide (ending'.length < (name.toList ++ ending.toList).length) &&
        ending'.toList.isSuffixOf (name.toList ++ ending.toList)) = some ending := by
    cases hfound : optionalEndings.find? fun ending' =>
        decide (ending'.length < (name.toList ++ ending.toList).length) &&
          ending'.toList.isSuffixOf (name.toList ++ ending.toList) with
    | none =>
      have hlength : 0 < name.toList.length := List.length_pos_iff.mpr hname.ne_nil
      have hnot := List.find?_eq_none.mp hfound ending hending
      rw [List.length_append, String.length_toList (s := ending)] at hnot
      simp [hlength] at hnot
    | some ending' =>
      have hmem := List.mem_of_find?_eq_some hfound
      have hsuffix := List.find?_some hfound
      simp only [Bool.and_eq_true, List.isSuffixOf_iff_suffix] at hsuffix
      have hends := List.suffix_append name.toList ending.toList
      rcases List.suffix_or_suffix_of_suffix hsuffix.2 hends with h | h
      · rw [eq_of_optionalEnding_suffix _ hmem _ hending h]
      · rw [eq_of_optionalEnding_suffix _ hending _ hmem h]
  have hbase : (name.toList ++ ending.toList).take
      ((name.toList ++ ending.toList).length - ending.length) = name.toList := by
    rw [← String.length_toList, List.length_append, Nat.add_sub_cancel, List.take_left]
  simp only [splitOptional, htrim, hfind, hbase, String.ofList_toList]

/-! ## Reading the names of the vocabularies -/

theorem ReaderKind.parse_text (kind : ReaderKind) :
    ReaderKind.parse (Vocabulary.text kind) = (kind, false) := by
  simp only [ReaderKind.parse, splitOptional_eq_self (plainName_reader kind),
    Vocabulary.ofText?_text, Option.getD_some]

theorem ReaderKind.parse_text_append (kind : ReaderKind) {ending : String}
    (h : ending ∈ optionalEndings) :
    ReaderKind.parse (Vocabulary.text kind ++ ending) = (kind, true) := by
  simp only [ReaderKind.parse, splitOptional_append (plainName_reader kind) h,
    Vocabulary.ofText?_text, Option.getD_some]

theorem WriterKind.parse_text (kind : WriterKind) :
    WriterKind.parse (Vocabulary.text kind) = (kind, false) := by
  simp only [WriterKind.parse, splitOptional_eq_self (plainName_writer kind),
    Vocabulary.ofText?_text, Option.getD_some]

theorem ExecutionMode.parse_text (mode : ExecutionMode) :
    ExecutionMode.parse (Vocabulary.text mode) = mode := by
  cases mode <;> decide

end QueryAudit
