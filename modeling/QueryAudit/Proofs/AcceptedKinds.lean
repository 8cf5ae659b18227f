import QueryAudit.Proofs.LetterCase
import QueryAudit.Proofs.Renaming
import QueryAudit.Proofs.TypeMap

/-!
# The kinds of functions that a type accepts

What the type map says of a type depends on three things: whether the type is an array, whether it
or its elements are an enumeration, and the canonical name. So every type accepts some reader and
some writer, functions with an array mark and functions without one are kept apart, and a name can
be replaced by its canonical name, at whatever depth of a type it stands.
-/

namespace QueryAudit.TypeMap

/-! ## Canonical names -/

/-- The names that the catalog uses are normalised, and none of them is another spelling. -/
theorem aliases_settled : ∀ entry ∈ aliases,
    normalizeTypeName entry.2 = entry.2 ∧ aliases.lookup entry.2 = none := by
  decide +kernel

/-- The canonical name of a canonical name is that name. -/
theorem canonicalName_canonicalName (name : String) :
    canonicalName (canonicalName name) = canonicalName name := by
  cases hlookup : aliases.lookup (normalizeTypeName name) with
  | some target =>
    have hname : canonicalName name = target := by simp [canonicalName, hlookup]
    obtain ⟨entry, hentry, rfl⟩ := List.mem_map.mp (mem_of_lookup_eq_some hlookup)
    obtain ⟨hnormal, hnone⟩ := aliases_settled entry hentry
    rw [hname]
    simp [canonicalName, hnormal, hnone]
  | none =>
    have hname : canonicalName name = normalizeTypeName name := by simp [canonicalName, hlookup]
    rw [hname]
    simp [canonicalName, normalizeTypeName_normalizeTypeName, hlookup]

/-- Of the name of a type only the canonical name counts. -/
theorem expected_canonicalName (type : DataType) (name : String) :
    expected { type with name := canonicalName name } = expected { type with name := name } := by
  simp only [expected, canonicalName_canonicalName]

/-- Of the type of the elements it only counts whether it is an enumeration. -/
theorem expected_rename (type : DataType) : expected (type.rename canonicalName) = expected type := by
  obtain ⟨name, element, isEnum, labels⟩ := type
  cases element with
  | none => exact expected_canonicalName ⟨name, none, isEnum, labels⟩ name
  | some element =>
    have henum : (element.rename canonicalName).isEnum = element.isEnum := by
      rw [DataType.rename_eq]
    simp only [DataType.rename, expected, canonicalName_canonicalName, henum]

/-! ## The tables -/

theorem acceptsReader_iff {functions : Expected} {kind : ReaderKind} :
    functions.acceptsReader kind = true ↔
      kind ∈ functions.readers ∨ functions.generic = true ∧ kind = .fieldValue := by
  simp [Expected.acceptsReader, Expected.genericReaders]

theorem acceptsWriter_iff {functions : Expected} {kind : WriterKind} :
    functions.acceptsWriter kind = true ↔
      kind ∈ functions.writers ∨ functions.generic = true ∧ kind = .parameter ∨ kind = .dbNull := by
  simp only [Expected.acceptsWriter, Expected.genericWriters, Bool.or_eq_true, Bool.and_eq_true,
    List.contains_iff_mem, beq_iff_eq, List.mem_cons, List.not_mem_nil]
  tauto

/-- The answers for types that are no arrays have no functions with an array mark. -/
theorem unmarked_answers : ∀ functions ∈ anything :: strings :: scalars.map Prod.snd,
    (∀ kind ∈ functions.readers, kind.isArray = false) ∧
      ∀ kind ∈ functions.writers, kind.isArray = false := by
  decide +kernel

/-- The answers for mapped arrays have no functions but those with an array mark. -/
theorem marked_answers : ∀ functions ∈ stringArrays :: arrays.map Prod.snd,
    (∀ kind ∈ functions.readers, kind.isArray = true) ∧
      ∀ kind ∈ functions.writers, kind.isArray = true := by
  decide +kernel

/-- Every answer has functions, and none accepts a function that is not known. -/
theorem answers_known : ∀ answer ∈ answers,
    answer.readers ≠ [] ∧ answer.writers ≠ [] ∧
      answer.acceptsReader .unknown = false ∧ answer.acceptsWriter .unknown = false := by
  decide

/-! ## Array marks -/

section Marks

variable {type : DataType} {reader : ReaderKind} {writer : WriterKind}

theorem acceptsReader_of_marked (harray : type.isArray = false) (hmark : reader.isArray = true) :
    (expected type).acceptsReader reader = false := by
  have hanswer := (unmarked_answers _ (expected_mem_of_not_isArray harray)).1
  rw [Bool.eq_false_iff, ne_eq, acceptsReader_iff]
  rintro (hmem | ⟨-, rfl⟩)
  · rw [hanswer reader hmem] at hmark
    cases hmark
  · cases hmark

theorem acceptsWriter_of_marked (harray : type.isArray = false) (hmark : writer.isArray = true) :
    (expected type).acceptsWriter writer = false := by
  have hanswer := (unmarked_answers _ (expected_mem_of_not_isArray harray)).2
  rw [Bool.eq_false_iff, ne_eq, acceptsWriter_iff]
  rintro (hmem | ⟨-, rfl⟩ | rfl)
  · rw [hanswer writer hmem] at hmark
    cases hmark
  · cases hmark
  · cases hmark

theorem IsMappedArray.isArray_of_acceptsReader (h : IsMappedArray type)
    (haccepts : (expected type).acceptsReader reader = true) : reader.isArray = true := by
  obtain ⟨functions, hfunctions, hanswer⟩ := h.exists_functions
  rw [hanswer, acceptsReader_iff] at haccepts
  obtain hmem | ⟨⟨⟩, -⟩ := haccepts
  exact (marked_answers functions hfunctions).1 reader hmem

theorem IsMappedArray.isArray_of_acceptsWriter (h : IsMappedArray type)
    (haccepts : (expected type).acceptsWriter writer = true) :
    writer.isArray = true ∨ writer = .dbNull := by
  obtain ⟨functions, hfunctions, hanswer⟩ := h.exists_functions
  rw [hanswer, acceptsWriter_iff] at haccepts
  obtain hmem | ⟨⟨⟩, -⟩ | hnull := haccepts
  · exact Or.inl ((marked_answers functions hfunctions).2 writer hmem)
  · exact Or.inr hnull

end Marks

/-! ## All types -/

/-- What is expected of the functions for a type. -/
structure Fitting (type : DataType) : Prop where
  /-- There is a reader. -/
  readers : (expected type).readers ≠ []
  /-- There is a writer. -/
  writers : (expected type).writers ≠ []
  /-- The suggested reader is accepted. -/
  canonicalReader : (expected type).acceptsReader (expected type).canonicalReader = true
  /-- The suggested writer is accepted. -/
  canonicalWriter : (expected type).acceptsWriter (expected type).canonicalWriter = true
  /-- A reader that is not known is not accepted. -/
  unknownReader : (expected type).acceptsReader .unknown = false
  /-- A writer that is not known is not accepted. -/
  unknownWriter : (expected type).acceptsWriter .unknown = false
  /-- The writer of null is accepted. -/
  null : (expected type).acceptsWriter .dbNull = true
  /-- What is no array accepts no reader with an array mark. -/
  unmarkedReaders : type.isArray = false → ∀ kind : ReaderKind, kind.isArray = true →
    (expected type).acceptsReader kind = false
  /-- What is no array accepts no writer with an array mark. -/
  unmarkedWriters : type.isArray = false → ∀ kind : WriterKind, kind.isArray = true →
    (expected type).acceptsWriter kind = false
  /-- A mapped array accepts only readers with an array mark. -/
  markedReaders : IsMappedArray type → ∀ kind, (expected type).acceptsReader kind = true →
    kind.isArray = true
  /-- A mapped array accepts only writers with an array mark, and the writer of null. -/
  markedWriters : IsMappedArray type → ∀ kind, (expected type).acceptsWriter kind = true →
    kind.isArray = true ∨ kind = .dbNull
  /-- Any other array accepts the generic reader and no other. -/
  genericReaders : type.isArray = true → ¬ IsMappedArray type →
    ∀ kind, (expected type).acceptsReader kind = true ↔ kind = .fieldValue
  /-- Any other array accepts the generic writers and no others. -/
  genericWriters : type.isArray = true → ¬ IsMappedArray type →
    ∀ kind, (expected type).acceptsWriter kind = true ↔ kind ∈ [.parameter, .dbNull]
  /-- An enumeration is read as a string or in the generic way, whatever its name. -/
  enumReaders : type.isArray = false → type.isEnum = true →
    ∀ kind, (expected type).acceptsReader kind = true ↔ kind ∈ [.text, .string, .fieldValue]
  /-- An enumeration is written as a string or in the generic ways, whatever its name. -/
  enumWriters : type.isArray = false → type.isEnum = true →
    ∀ kind, (expected type).acceptsWriter kind = true ↔
      kind ∈ [.text, .string, .parameter, .dbNull]
  /-- Whatever name is given to the type, its canonical name gets the same answer. -/
  named : ∀ name,
    expected { type with name := canonicalName name } = expected { type with name := name }
  /-- So do the canonical names at every depth of the type. -/
  renamed : expected (type.rename canonicalName) = expected type

/-- The functions that are expected for a type fit it, however the type is named and nested. -/
theorem functions_fitting (type : DataType) : Fitting type where
  readers := (answers_known _ (expected_mem_answers type)).1
  writers := (answers_known _ (expected_mem_answers type)).2.1
  canonicalReader := acceptsReader_canonicalReader type
  canonicalWriter := acceptsWriter_canonicalWriter type
  unknownReader := (answers_known _ (expected_mem_answers type)).2.2.1
  unknownWriter := (answers_known _ (expected_mem_answers type)).2.2.2
  null := acceptsWriter_iff.mpr (Or.inr (Or.inr rfl))
  unmarkedReaders harray _ := acceptsReader_of_marked harray
  unmarkedWriters harray _ := acceptsWriter_of_marked harray
  markedReaders hmapped _ := hmapped.isArray_of_acceptsReader
  markedWriters hmapped _ := hmapped.isArray_of_acceptsWriter
  genericReaders harray hother kind := by
    simp [expected_of_not_isMappedArray harray hother, acceptsReader_iff, anything]
  genericWriters harray hother kind := by
    simp [expected_of_not_isMappedArray harray hother, acceptsWriter_iff, anything]
  enumReaders harray henum kind := by
    simp [expected_of_isEnum harray henum, acceptsReader_iff, strings, or_assoc]
  enumWriters harray henum kind := by
    simp [expected_of_isEnum harray henum, acceptsWriter_iff, strings, or_assoc]
  named := expected_canonicalName type
  renamed := expected_rename type

/-- An enumeration with the name of a mapped type is an enumeration. -/
example (labels : List String) : expected (.enumeration "integer" labels) = strings := rfl

end QueryAudit.TypeMap
