import QueryAudit.Proofs.Entries
import QueryAudit.Session

/-!
# Call sites without findings

A call site is reported clean exactly when it agrees with the description of its query. Agreement is
stated on the lists that the call site and the database give, without dictionaries or messages, and
each of the three checks is empty exactly when its part of the agreement holds.
-/

namespace QueryAudit.Analysis

/-- A call site agrees with the description of its query. -/
structure Agrees (operation : Operation) (description : Description) : Prop where
  /-- The parameters of the query are supplied, and no others, when letter case does not count. -/
  supplied : ∀ key, key ∈ operation.parameters.map (fun usage => Text.lowered usage.name) ↔
    key ∈ description.parameters.map fun parameter => Text.lowered parameter.key
  /-- The first usage of a name has a writer for the type of the first parameter of that name. -/
  writers : ∀ key usage parameter,
    (operation.parameters.find? fun usage => Text.lowered usage.name == key) = some usage →
    (description.parameters.find? fun parameter => Text.lowered parameter.key == key) =
      some parameter →
    (TypeMap.expected parameter.dataType).acceptsWriter usage.kind = true
  /-- Every read names a column, has a reader for the type of the first column of that name, and
  allows null where the column comes from a table and is nullable. -/
  reads : ∀ read ∈ operation.reads, ∃ column,
    (description.columns.find? fun column => column.name == read.column) = some column ∧
    (TypeMap.expected column.dataType).acceptsReader read.kind = true ∧
    (column.fromTable = true → column.nullable = true → read.isOptional = true)
  /-- The execution function is not known, or it expects rows exactly when there are columns. -/
  execution : operation.execution = .unknown ∨
    (operation.execution.returnsRows = some true ↔ description.columns ≠ [])

/-! ## The dictionaries -/

theorem get?_expectedParameters (description : Description) (key : String) :
    (expectedParameters description).get? key =
      description.parameters.find? fun parameter => Text.lowered parameter.key == key :=
  Entries.get?_firsts_map (fun parameter : Parameter => Text.lowered parameter.key) _ key

theorem get?_suppliedParameters (operation : Operation) (key : String) :
    (suppliedParameters operation).get? key =
      operation.parameters.find? fun usage => Text.lowered usage.name == key :=
  Entries.get?_firsts_map (fun usage : ParameterUsage => Text.lowered usage.name) _ key

theorem get?_resultColumns (description : Description) (name : String) :
    (resultColumns description).get? name =
      description.columns.find? fun column => column.name == name :=
  Entries.get?_firsts_map OutputColumn.name _ name

theorem nodup_keys_expectedParameters (description : Description) :
    (expectedParameters description).keys.Nodup :=
  Entries.nodup_keys_firsts _

section Parameters

variable {operation : Operation} {expected : Entries String Parameter}
  {supplied : Entries String ParameterUsage}

/-- No parameter is missing when every key is supplied. -/
theorem missingParameters_eq_nil_iff :
    missingParameters operation expected supplied = [] ↔
      ∀ key ∈ expected.keys, key ∈ supplied.keys := by
  rw [missingParameters, List.filterMap_eq_nil_iff, Entries.keys, List.forall_mem_map]
  refine forall₂_congr fun entry _ => ?_
  rw [← Entries.isSome_get?_iff]
  cases hsupplied : supplied.get? entry.1 <;> simp [hsupplied]

/-- All expected parameters are supplied. -/
theorem all_isSome_get?_iff :
    (expected.all fun entry => (supplied.get? entry.1).isSome) = true ↔
      ∀ key ∈ expected.keys, key ∈ supplied.keys := by
  rw [List.all_eq_true, Entries.keys, List.forall_mem_map]
  exact forall₂_congr fun entry _ => Entries.isSome_get?_iff

/-- All supplied parameters are expected. -/
theorem filter_isNone_get?_eq_nil_iff :
    (supplied.filter fun entry => (expected.get? entry.1).isNone) = [] ↔
      ∀ key ∈ supplied.keys, key ∈ expected.keys := by
  rw [List.filter_eq_nil_iff, Entries.keys, List.forall_mem_map]
  refine forall₂_congr fun entry _ => ?_
  rw [← Entries.isSome_get?_iff]
  cases expected.get? entry.1 <;> simp

/-- A supplied parameter is redundant only when none is missing, and it is not expected. -/
theorem redundantParameters_eq_nil_iff :
    redundantParameters operation expected supplied = [] ↔
      ((∀ key ∈ expected.keys, key ∈ supplied.keys) →
        ∀ key ∈ supplied.keys, key ∈ expected.keys) := by
  rw [← all_isSome_get?_iff, ← filter_isNone_get?_eq_nil_iff, redundantParameters]
  cases expected.all fun entry => (supplied.get? entry.1).isSome <;> simp

theorem writerMismatch?_eq_none_iff {parameter : Parameter} {usage : ParameterUsage} :
    writerMismatch? operation parameter usage = none ↔
      (TypeMap.expected parameter.dataType).acceptsWriter usage.kind = true := by
  rw [writerMismatch?]
  simp

/-- No writer is reported when the supplied one fits for every expected key. -/
theorem writerMismatches_eq_nil_iff (hkeys : expected.keys.Nodup) :
    writerMismatches operation expected supplied = [] ↔
      ∀ key usage parameter, supplied.get? key = some usage →
        expected.get? key = some parameter →
        (TypeMap.expected parameter.dataType).acceptsWriter usage.kind = true := by
  rw [writerMismatches, List.filterMap_eq_nil_iff]
  constructor
  · intro h key usage parameter husage hparameter
    have hnone := h (key, parameter) ((Entries.get?_eq_some_iff hkeys).mp hparameter)
    simp only [husage, Option.bind_some] at hnone
    exact writerMismatch?_eq_none_iff.mp hnone
  · rintro h ⟨key, parameter⟩ hmem
    rw [Option.bind_eq_none_iff]
    intro usage husage
    have hparameter := (Entries.get?_eq_some_iff hkeys).mpr hmem
    exact writerMismatch?_eq_none_iff.mpr (h key usage parameter husage hparameter)

/-! Each of the three checks has a code of its own. -/

theorem code_of_mem_missingParameters {finding : Diagnostic}
    (h : finding ∈ missingParameters operation expected supplied) :
    finding.code = .missingParameter := by
  obtain ⟨⟨key, parameter⟩, -, hentry⟩ := List.mem_filterMap.mp h
  dsimp only at hentry
  split at hentry
  · contradiction
  · obtain rfl := Option.some.inj hentry
    rfl

theorem code_of_mem_redundantParameters {finding : Diagnostic}
    (h : finding ∈ redundantParameters operation expected supplied) :
    finding.code = .redundantParameters := by
  rw [redundantParameters] at h
  split at h
  · obtain rfl := List.mem_singleton.mp h
    rfl
  · contradiction

theorem code_of_mem_writerMismatches {finding : Diagnostic}
    (h : finding ∈ writerMismatches operation expected supplied) :
    finding.code = .parameterTypeMismatch := by
  obtain ⟨entry, -, hentry⟩ := List.mem_filterMap.mp h
  obtain ⟨usage, -, hmismatch⟩ := Option.bind_eq_some_iff.mp hentry
  rw [writerMismatch?] at hmismatch
  split at hmismatch
  · contradiction
  · obtain rfl := Option.some.inj hmismatch
    rfl

end Parameters

/-- Of the findings about parameters these are the ones that report a missing one. -/
theorem filter_missing_checkParameters (operation : Operation) (description : Description) :
    ((checkParameters operation description).filter fun finding =>
        decide (finding.code = .missingParameter)) =
      missingParameters operation (expectedParameters description)
        (suppliedParameters operation) := by
  rw [checkParameters, List.filter_append, List.filter_append, List.filter_eq_self.mpr,
    List.filter_eq_nil_iff.mpr, List.filter_eq_nil_iff.mpr, List.append_nil, List.append_nil]
  · intro finding hfinding
    simp [code_of_mem_writerMismatches hfinding]
  · intro finding hfinding
    simp [code_of_mem_redundantParameters hfinding]
  · intro finding hfinding
    simp [code_of_mem_missingParameters hfinding]

/-- The parameters have no findings exactly when those of the query are supplied, no others are, and
the writers fit. -/
theorem checkParameters_eq_nil_iff {operation : Operation} {description : Description} :
    checkParameters operation description = [] ↔
      (∀ key, key ∈ (suppliedParameters operation).keys ↔
        key ∈ (expectedParameters description).keys) ∧
      ∀ key usage parameter, (suppliedParameters operation).get? key = some usage →
        (expectedParameters description).get? key = some parameter →
        (TypeMap.expected parameter.dataType).acceptsWriter usage.kind = true := by
  rw [checkParameters, List.append_eq_nil_iff, List.append_eq_nil_iff,
    missingParameters_eq_nil_iff, redundantParameters_eq_nil_iff,
    writerMismatches_eq_nil_iff (nodup_keys_expectedParameters description)]
  refine and_congr_left fun _ => ⟨?_, ?_⟩
  · rintro ⟨hmissing, hredundant⟩ key
    exact ⟨hredundant hmissing key, hmissing key⟩
  · intro h
    exact ⟨fun key => (h key).mpr, fun _ key => (h key).mp⟩

/-! ## Columns -/

/-- A read has no finding when its column exists, the reader fits, and null is allowed where it can
come up. -/
theorem readFinding?_eq_none_iff {operation : Operation} {columns : Entries String OutputColumn}
    {read : ColumnRead} :
    readFinding? operation columns read = none ↔ ∃ column,
      columns.get? read.column = some column ∧
      (TypeMap.expected column.dataType).acceptsReader read.kind = true ∧
      (column.fromTable = true → column.nullable = true → read.isOptional = true) := by
  unfold readFinding?
  cases columns.get? read.column with
  | none => simp
  | some column =>
    cases haccepts : (TypeMap.expected column.dataType).acceptsReader read.kind with
    | false => simp [haccepts]
    | true => simp [haccepts]

theorem checkColumns_eq_nil_iff {operation : Operation} {description : Description} :
    checkColumns operation description = [] ↔ ∀ read ∈ operation.reads, ∃ column,
      (resultColumns description).get? read.column = some column ∧
      (TypeMap.expected column.dataType).acceptsReader read.kind = true ∧
      (column.fromTable = true → column.nullable = true → read.isOptional = true) := by
  rw [checkColumns, List.filterMap_eq_nil_iff]
  exact forall₂_congr fun read _ => readFinding?_eq_none_iff

/-! ## The execution function -/

theorem checkExecution_eq_nil_iff {operation : Operation} {description : Description} :
    checkExecution operation description = [] ↔ operation.execution = .unknown ∨
      (operation.execution.returnsRows = some true ↔ description.columns ≠ []) := by
  unfold checkExecution
  cases hexecution : operation.execution <;> cases description.columns <;>
    simp [ExecutionMode.returnsRows]

/-! ## The whole analysis -/

/-- A described call site has no findings exactly when it agrees with the description. -/
theorem check_eq_nil_iff {operation : Operation} {description : Description} :
    check operation description = [] ↔ Agrees operation description := by
  rw [check, List.append_eq_nil_iff, List.append_eq_nil_iff, checkParameters_eq_nil_iff,
    checkColumns_eq_nil_iff, checkExecution_eq_nil_iff]
  simp only [get?_suppliedParameters, get?_expectedParameters, get?_resultColumns]
  rw [suppliedParameters, expectedParameters]
  simp only [Entries.mem_keys_firsts_map]
  constructor
  · rintro ⟨⟨⟨hsupplied, hwriters⟩, hreads⟩, hexecution⟩
    exact ⟨hsupplied, hwriters, hreads, hexecution⟩
  · intro h
    exact ⟨⟨⟨h.supplied, h.writers⟩, h.reads⟩, h.execution⟩

/-- The analysis finds nothing exactly when the call site has no query text, or its query is
described and the call site agrees with the description. -/
theorem findings_eq_nil_iff (operation : Operation) (describe : String → Except Fault Described) :
    operation.findings describe = .ok [] ↔ operation.query = none ∨
      ∃ query description, operation.query = some query ∧
        describe query = .ok (.ok description) ∧ Agrees operation description := by
  unfold Operation.findings
  cases hquery : operation.query with
  | none => simp
  | some query =>
    cases hdescribe : describe query with
    | error fault => simp [hdescribe]
    | ok described =>
      cases described with
      | error rejection => simp [hdescribe]
      | ok description => simp [hdescribe, check_eq_nil_iff]

end QueryAudit.Analysis
