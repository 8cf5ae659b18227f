import QueryAudit.TypeMap

/-!
# The answers of the type map

The type map looks a type up in two tables, so that it can give finitely many answers only. What
holds of all data types, however named or nested, is decided on the list of these answers.
-/

namespace QueryAudit.TypeMap

/-- The answers that the type map can give. Arrays do not accept the generic functions. -/
def answers : List Expected :=
  anything :: strings :: scalars.map Prod.snd ++
    (stringArrays :: arrays.map Prod.snd).map fun functions => { functions with generic := false }

theorem mem_of_lookup_eq_some {α : Type} {table : List (String × α)} {name : String} {value : α}
    (h : table.lookup name = some value) : value ∈ table.map Prod.snd := by
  obtain ⟨before, after, rfl, -⟩ := List.lookup_eq_some_iff.mp h
  simp

/-! ## Which table decides -/

/-- An array with functions of its own: its elements are an enumeration, or the table of arrays has
an entry for its name. -/
def IsMappedArray (type : DataType) : Prop :=
  type.isArray = true ∧ (type.element.any DataType.isEnum = true ∨
    (arrays.lookup (canonicalName type.name)).isSome = true)

section Tables

variable {type : DataType}

/-- Mapped arrays alone do not accept the generic functions. -/
theorem IsMappedArray.exists_functions (h : IsMappedArray type) :
    ∃ functions ∈ stringArrays :: arrays.map Prod.snd,
      expected type = { functions with generic := false } := by
  obtain ⟨name, _ | element, isEnum, labels⟩ := type
  · cases h.1
  obtain ⟨-, henum | hsome⟩ := h
  · rw [Option.any_some] at henum
    exact ⟨stringArrays, List.mem_cons_self, by simp [expected, henum]⟩
  · obtain ⟨functions, hlookup⟩ := Option.isSome_iff_exists.mp hsome
    -- Arrays of enumerations do not come to the table.
    cases henum : element.isEnum with
    | true => exact ⟨stringArrays, List.mem_cons_self, by simp [expected, henum]⟩
    | false =>
      refine ⟨functions, List.mem_cons_of_mem _ (mem_of_lookup_eq_some hlookup), ?_⟩
      simp [expected, henum, hlookup]

theorem expected_of_not_isMappedArray (harray : type.isArray = true) (h : ¬ IsMappedArray type) :
    expected type = anything := by
  obtain ⟨name, _ | element, isEnum, labels⟩ := type
  · cases harray
  · simp only [IsMappedArray, harray, true_and, not_or, Option.any_some, Bool.not_eq_true,
      Option.isSome_eq_false_iff, Option.isNone_iff_eq_none] at h
    simp [expected, h.1, h.2]

theorem expected_of_isEnum (harray : type.isArray = false) (henum : type.isEnum = true) :
    expected type = strings := by
  obtain ⟨name, _ | element, isEnum, labels⟩ := type
  · exact if_pos henum
  · cases harray

theorem expected_mem_of_not_isArray (harray : type.isArray = false) :
    expected type ∈ anything :: strings :: scalars.map Prod.snd := by
  cases henum : type.isEnum with
  | true => simp [expected_of_isEnum harray henum]
  | false =>
    obtain ⟨name, _ | element, isEnum, labels⟩ := type
    · have henum' : isEnum = false := henum
      cases hlookup : scalars.lookup (canonicalName name) with
      | none => simp [expected, henum', hlookup]
      | some functions =>
        have hanswer : expected ⟨name, none, isEnum, labels⟩ = functions := by
          simp [expected, henum', hlookup]
        rw [hanswer]
        exact List.mem_cons_of_mem _ (List.mem_cons_of_mem _ (mem_of_lookup_eq_some hlookup))
    · cases harray

end Tables

theorem expected_mem_answers (type : DataType) : expected type ∈ answers := by
  rw [answers]
  cases harray : type.isArray with
  | false => exact List.mem_append_left _ (expected_mem_of_not_isArray harray)
  | true =>
    by_cases hmapped : IsMappedArray type
    · obtain ⟨functions, hmem, hanswer⟩ := hmapped.exists_functions
      rw [hanswer]
      exact List.mem_append_right _ (List.mem_map_of_mem hmem)
    · rw [expected_of_not_isMappedArray harray hmapped]
      exact List.mem_append_left _ List.mem_cons_self

/-- The suggested reader fits. -/
theorem acceptsReader_canonicalReader (type : DataType) :
    (expected type).acceptsReader (expected type).canonicalReader = true := by
  have hanswers : ∀ answer ∈ answers, answer.acceptsReader answer.canonicalReader = true := by
    decide
  exact hanswers _ (expected_mem_answers type)

/-- The suggested writer fits. -/
theorem acceptsWriter_canonicalWriter (type : DataType) :
    (expected type).acceptsWriter (expected type).canonicalWriter = true := by
  have hanswers : ∀ answer ∈ answers, answer.acceptsWriter answer.canonicalWriter = true := by
    decide
  exact hanswers _ (expected_mem_answers type)

end QueryAudit.TypeMap
