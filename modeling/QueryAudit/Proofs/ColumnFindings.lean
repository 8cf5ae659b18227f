import QueryAudit.Proofs.Analysis
import Mathlib.Data.List.ReduceOption

/-!
# The findings about columns

What is reported about the columns that a call site reads, stated on the columns of the result. The
first column of a name stands for it, and letter case counts. A read has one finding at most: the
column is missing, or the reader does not fit it, or null can come up and is not allowed for. The
findings follow the reads, and none of them depends on another read.
-/

namespace QueryAudit.Analysis

/-- The names of the columns of a result, in the order of their first columns. -/
def columnNames (description : Description) : List String :=
  (description.columns.map OutputColumn.name).eraseDups

/-- The column that stands for a name. -/
def firstColumn? (description : Description) (name : String) : Option OutputColumn :=
  description.columns.find? fun column => column.name == name

/-- What a message says about an available name: the name and the type of its first column. -/
def ListsColumn (description : Description) (name listed : String) : Prop :=
  ∃ column, firstColumn? description name = some column ∧
    listed = name ++ " (" ++ column.dataType.display ++ ")"

/-! ## What is reported -/

/-- The result of checking a read is a finding of the given kind. -/
def HasCode (result : Option Diagnostic) (code : DiagnosticCode) : Prop :=
  result.map Diagnostic.code = some code

/-- What is reported about a read. -/
structure ReadReported (operation : Operation) (description : Description) (read : ColumnRead)
    (result : Option Diagnostic) : Prop where
  /-- The column is missing exactly when no column has the name. -/
  missing_iff : HasCode result .missingColumn ↔
    ∀ column ∈ description.columns, column.name ≠ read.column
  /-- Else the reader is reported exactly when the first column of the name does not accept it. -/
  mismatch_iff : HasCode result .columnTypeMismatch ↔
    ∃ column, firstColumn? description read.column = some column ∧
      (TypeMap.expected column.dataType).acceptsReader read.kind = false
  /-- Else null is reported exactly when the first column of the name is a nullable column of a
  table and the read is not in the optional variant. -/
  nullable_iff : HasCode result .nullableColumn ↔
    ∃ column, firstColumn? description read.column = some column ∧
      (TypeMap.expected column.dataType).acceptsReader read.kind = true ∧
      column.fromTable = true ∧ column.nullable = true ∧ read.isOptional = false
  /-- There are no other findings, and each is a warning at the place of the read. -/
  kinds : ∀ finding, result = some finding → finding.severity = .warning ∧
    finding.code ∈ [.missingColumn, .columnTypeMismatch, .nullableColumn] ∧
    finding.range = read.range.getD operation.range
  /-- A missing column is answered with the available ones, each once and in order. -/
  available : ∀ finding, result = some finding → finding.code = .missingColumn →
    ∃ listed, List.Forall₂ (ListsColumn description) (columnNames description) listed ∧
      finding.message = "Attempting to read column named " ++ quote read.column ++
        " that does not exist in the result set. " ++
        if listed = [] then "The query does not return any columns"
        else "Available columns are " ++ ", ".intercalate listed

/-- What the analysis reports about the columns that are read. -/
structure ColumnsReported (operation : Operation) (description : Description) : Prop where
  /-- The findings are those of the reads, one at most for each, in the order of the reads. -/
  findings : ∃ results,
    List.Forall₂ (ReadReported operation description) operation.reads results ∧
      checkColumns operation description = results.reduceOption
  /-- The findings about reads one after the other are the findings about each of them. -/
  append : ∀ first second,
    checkColumns { operation with reads := first ++ second } description =
      checkColumns { operation with reads := first } description ++
        checkColumns { operation with reads := second } description
  /-- Another column of a name changes nothing. -/
  repeated : ∀ column, column.name ∈ description.columns.map OutputColumn.name →
    checkColumns operation { description with columns := description.columns ++ [column] } =
      checkColumns operation description

variable (operation : Operation) (description : Description)

/-! ## The dictionary -/

theorem firstColumn?_eq_none_iff {name : String} :
    firstColumn? description name = none ↔
      ∀ column ∈ description.columns, column.name ≠ name := by
  simp [firstColumn?]

/-- The columns that can be read are listed once each, in order. -/
theorem resultColumns_listed :
    List.Forall₂ (ListsColumn description) (columnNames description)
      ((resultColumns description).map fun entry =>
        entry.1 ++ " (" ++ entry.2.dataType.display ++ ")") := by
  have hkeys : (resultColumns description).keys = columnNames description := by
    rw [resultColumns, Entries.keys_firsts, List.map_map]
    rfl
  have hnodup : (resultColumns description).keys.Nodup := Entries.nodup_keys_firsts _
  rw [← hkeys, Entries.keys, List.forall₂_map_left_iff, List.forall₂_map_right_iff,
    List.forall₂_same]
  intro entry hentry
  have hcolumn := (Entries.get?_eq_some_iff hnodup).mpr hentry
  rw [get?_resultColumns] at hcolumn
  exact ⟨entry.2, hcolumn, rfl⟩

/-! ## A read -/

section Read

variable {operation description} {read : ColumnRead}

/-- The kind of the finding about a read is decided by the first column of the name. -/
theorem map_code_readFinding? :
    (readFinding? operation (resultColumns description) read).map Diagnostic.code =
      match firstColumn? description read.column with
      | none => some .missingColumn
      | some column =>
        if (TypeMap.expected column.dataType).acceptsReader read.kind = false then
          some .columnTypeMismatch
        else if column.fromTable = true ∧ column.nullable = true ∧ read.isOptional = false then
          some .nullableColumn
        else none := by
  rw [readFinding?, get?_resultColumns, ← firstColumn?.eq_def]
  cases firstColumn? description read.column with
  | none => rfl
  | some column =>
    simp only [apply_ite (Option.map Diagnostic.code), Option.map_some, Option.map_none, warning,
      Bool.not_eq_true', Bool.and_eq_true, and_assoc]

/-- A finding about a read is a warning at the place of the read, and of one of three kinds. -/
theorem kind_of_readFinding? {finding : Diagnostic}
    (h : readFinding? operation (resultColumns description) read = some finding) :
    finding.severity = .warning ∧
      finding.code ∈ [.missingColumn, .columnTypeMismatch, .nullableColumn] ∧
      finding.range = read.range.getD operation.range := by
  rw [readFinding?] at h
  split at h
  · obtain rfl := Option.some.inj h
    exact ⟨rfl, by simp [warning], rfl⟩
  · dsimp only at h
    split_ifs at h
    · obtain rfl := Option.some.inj h
      exact ⟨rfl, by simp [warning], rfl⟩
    · obtain rfl := Option.some.inj h
      exact ⟨rfl, by simp [warning], rfl⟩

/-- The message about a missing column lists the available ones. -/
theorem available_of_readFinding? {finding : Diagnostic}
    (h : readFinding? operation (resultColumns description) read = some finding)
    (hcode : finding.code = .missingColumn) :
    ∃ listed, List.Forall₂ (ListsColumn description) (columnNames description) listed ∧
      finding.message = "Attempting to read column named " ++ quote read.column ++
        " that does not exist in the result set. " ++
        if listed = [] then "The query does not return any columns"
        else "Available columns are " ++ ", ".intercalate listed := by
  rw [readFinding?] at h
  split at h
  · obtain rfl := Option.some.inj h
    refine ⟨_, resultColumns_listed description, ?_⟩
    simp only [warning, columnHint, List.isEmpty_iff, List.map_eq_nil_iff]
  · dsimp only at h
    split_ifs at h
    · obtain rfl := Option.some.inj h
      cases hcode
    · obtain rfl := Option.some.inj h
      cases hcode

theorem readFinding?_reported :
    ReadReported operation description read
      (readFinding? operation (resultColumns description) read) := by
  refine ⟨?missing, ?mismatch, ?null, fun _ => kind_of_readFinding?,
    fun _ => available_of_readFinding?⟩
  all_goals
    simp only [HasCode, map_code_readFinding?, ← firstColumn?_eq_none_iff]
    cases firstColumn? description read.column with
    | none => simp
    | some column => simp [ite_eq_iff]

end Read

/-- What the analysis reports about columns is one finding at most for each read. -/
theorem columns_reported : ColumnsReported operation description where
  findings := by
    refine ⟨operation.reads.map (readFinding? operation (resultColumns description)), ?_, ?_⟩
    · rw [List.forall₂_map_right_iff, List.forall₂_same]
      exact fun read _ => readFinding?_reported
    · rw [checkColumns, List.reduceOption, List.filterMap_map]
      rfl
  append first second := List.filterMap_append
  repeated column hknown := by
    have hcolumns : resultColumns { description with columns := description.columns ++ [column] } =
        resultColumns description := by
      rw [resultColumns, List.map_append]
      refine Entries.firsts_append_singleton_of_mem ?_
      rwa [List.map_map]
    rw [checkColumns, hcolumns]
    rfl

end QueryAudit.Analysis
