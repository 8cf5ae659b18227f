import QueryAudit.Proofs.Analysis
import QueryAudit.Proofs.TypeMap
import QueryAudit.Proofs.Vocabulary

/-!
# Following the advice of the analysis

Four kinds of findings suggest a function: a writer, a reader, the optional variant of a reader, or
an execution function. Here the suggestions are read off the messages and written into the call
site. After one round only optional variants can still be asked for, and only where the reader was
replaced; after two rounds no suggestion is left. The other findings stay as they are.
-/

namespace QueryAudit

/-! ## The advice -/

/-- The function that a message suggests, which is its last word but one. -/
def Diagnostic.suggestion (finding : Diagnostic) : String :=
  let ending := (finding.message.toList.reverse.dropWhile (· ≠ ' ')).drop 1
  String.ofList (ending.takeWhile (· ≠ ' ')).reverse

namespace Analysis

/-- The finding about the writer of a usage that counts for its name. -/
def writerFinding? (operation : Operation) (description : Description) (usage : ParameterUsage) :
    Option Diagnostic :=
  ((expectedParameters description).get? (Text.lowered usage.name)).bind
    (writerMismatch? operation · usage)

/-- Follow the advice on a usage that counts for its name. -/
def adviseUsage (operation : Operation) (description : Description) (usage : ParameterUsage) :
    ParameterUsage :=
  match writerFinding? operation description usage with
  | some finding => { usage with function := finding.suggestion }
  | none => usage

/-- Follow the advice on the first usage of every name; so far the listed names have been used. -/
def adviseUsages (operation : Operation) (description : Description) :
    List String → List ParameterUsage → List ParameterUsage
  | _, [] => []
  | seen, usage :: rest =>
    let name := Text.lowered usage.name
    (if name ∈ seen then usage else adviseUsage operation description usage) ::
      adviseUsages operation description (name :: seen) rest

/-- Whether a finding about a read suggests a reader. -/
def suggestsReader (finding : Diagnostic) : Bool :=
  finding.code == .columnTypeMismatch || finding.code == .nullableColumn

/-- Follow the advice on a read. -/
def adviseRead (operation : Operation) (description : Description) (read : ColumnRead) :
    ColumnRead :=
  match (readFinding? operation (resultColumns description) read).filter suggestsReader with
  | some finding => { read with function := finding.suggestion }
  | none => read

/-- Follow the advice on the execution function. -/
def adviseExecution (operation : Operation) (description : Description) : ExecutionMode :=
  match checkExecution operation description with
  | finding :: _ => ExecutionMode.parse finding.suggestion
  | [] => operation.execution

/-- The call site after all suggestions have been followed. -/
def advised (operation : Operation) (description : Description) : Operation :=
  { operation with
    parameters := adviseUsages operation description [] operation.parameters
    reads := operation.reads.map (adviseRead operation description)
    execution := adviseExecution operation description }

/-- Whether a finding has no suggestion: something is missing or redundant. -/
def isLasting (finding : Diagnostic) : Bool :=
  finding.code == .missingParameter || finding.code == .redundantParameters ||
    finding.code == .missingColumn

end Analysis

/-! ## Reading a suggestion -/

theorem PlainName.ne_space {name : List Char} (h : PlainName name) : ∀ c ∈ name, c ≠ ' ' := by
  rintro c hc rfl
  exact absurd (List.all_eq_true.mp h.printed ' ' hc) (by decide)

/-- The word between the request and the end of a message is suggested. -/
theorem Diagnostic.suggestion_eq {finding : Diagnostic} {front word : String}
    (hmessage : finding.message = front ++ ". Please use " ++ word ++ " instead")
    (hword : ∀ c ∈ word.toList, c ≠ ' ') : finding.suggestion = word := by
  have hreverse : finding.message.toList.reverse =
      "daetsni".toList ++ ' ' :: (word.toList.reverse ++ ' ' ::
        ("esu esaelP .".toList ++ front.toList.reverse)) := by
    rw [hmessage]
    simp
  have hdrop : finding.message.toList.reverse.dropWhile (· ≠ ' ') =
      ' ' :: (word.toList.reverse ++ ' ' :: ("esu esaelP .".toList ++ front.toList.reverse)) := by
    rw [hreverse, List.dropWhile_append_of_pos (List.all_eq_true.mp (by decide)),
      List.dropWhile_cons]
    simp
  have htake : (word.toList.reverse ++ ' ' :: ("esu esaelP .".toList ++
      front.toList.reverse)).takeWhile (· ≠ ' ') = word.toList.reverse := by
    rw [List.takeWhile_append_of_pos (by simpa using hword), List.takeWhile_cons]
    simp
  rw [Diagnostic.suggestion, hdrop, List.drop_one, List.tail_cons, htake, List.reverse_reverse,
    String.ofList_toList]

example : Diagnostic.suggestion ⟨.warning, .nullableColumn, "Column 'email' is nullable but is " ++
    "read using read.text. Please use read.textOrNone instead", .start⟩ = "read.textOrNone" := by
  decide

namespace Analysis

variable {operation : Operation} {description : Description}

/-! ## Usages -/

theorem lowered_name_of_get?_suppliedParameters {key : String} {usage : ParameterUsage}
    (h : (suppliedParameters operation).get? key = some usage) :
    Text.lowered usage.name = key := by
  rw [get?_suppliedParameters] at h
  have hfound := List.find?_some h
  exact eq_of_beq hfound

/-- The findings about writers are those about the usages that count for their names. -/
theorem mem_writerMismatches_iff {finding : Diagnostic} :
    finding ∈ writerMismatches operation (expectedParameters description)
        (suppliedParameters operation) ↔
      ∃ usage, (suppliedParameters operation).get? (Text.lowered usage.name) = some usage ∧
        writerFinding? operation description usage = some finding := by
  have hkeys := nodup_keys_expectedParameters description
  constructor
  · intro h
    obtain ⟨⟨key, parameter⟩, hmem, hentry⟩ := List.mem_filterMap.mp h
    obtain ⟨usage, husage, hmismatch⟩ := Option.bind_eq_some_iff.mp hentry
    obtain rfl := lowered_name_of_get?_suppliedParameters husage
    have hparameter := (Entries.get?_eq_some_iff hkeys).mpr hmem
    exact ⟨usage, husage, Option.bind_eq_some_iff.mpr ⟨parameter, hparameter, hmismatch⟩⟩
  · rintro ⟨usage, husage, hfinding⟩
    obtain ⟨parameter, hparameter, hmismatch⟩ := Option.bind_eq_some_iff.mp hfinding
    refine List.mem_filterMap.mpr ⟨(Text.lowered usage.name, parameter), ?_, ?_⟩
    · exact (Entries.get?_eq_some_iff hkeys).mp hparameter
    · exact Option.bind_eq_some_iff.mpr ⟨usage, husage, hmismatch⟩

theorem name_adviseUsage (usage : ParameterUsage) :
    (adviseUsage operation description usage).name = usage.name := by
  unfold adviseUsage
  split <;> rfl

/-- The advice on a usage leads to a writer that fits. -/
theorem writerFinding?_adviseUsage (usage : ParameterUsage) :
    writerFinding? operation description (adviseUsage operation description usage) = none := by
  cases hfinding : writerFinding? operation description usage with
  | none => simp only [adviseUsage, hfinding]
  | some finding =>
    obtain ⟨parameter, hparameter, hmismatch⟩ := Option.bind_eq_some_iff.mp hfinding
    have hsuggestion : finding.suggestion =
        Vocabulary.text (TypeMap.expected parameter.dataType).canonicalWriter := by
      rw [writerMismatch?] at hmismatch
      split at hmismatch
      · exact absurd hmismatch (by simp)
      · obtain rfl := Option.some.inj hmismatch
        exact Diagnostic.suggestion_eq rfl (plainName_writer _).ne_space
    rw [writerFinding?, name_adviseUsage, hparameter, Option.bind_some, writerMismatch?_eq_none_iff]
    simp only [adviseUsage, hfinding, ParameterUsage.kind, hsuggestion, WriterKind.parse_text]
    exact TypeMap.acceptsWriter_canonicalWriter _

theorem firsts_adviseUsages (seen : List String) (usages : List ParameterUsage) :
    (Entries.firsts ((adviseUsages operation description seen usages).map fun usage =>
        (Text.lowered usage.name, usage))).filter (fun entry => entry.1 ∉ seen) =
      ((Entries.firsts (usages.map fun usage => (Text.lowered usage.name, usage))).filter
        fun entry => entry.1 ∉ seen).map fun entry =>
          (entry.1, adviseUsage operation description entry.2) := by
  induction usages generalizing seen with
  | nil => rfl
  | cons usage rest ih =>
    rw [adviseUsages, List.map_cons, List.map_cons, Entries.filter_firsts_cons,
      Entries.filter_firsts_cons]
    by_cases hseen : Text.lowered usage.name ∈ seen
    · simp only [if_pos hseen, List.nil_append]
      exact ih _
    · simp only [if_neg hseen, name_adviseUsage, List.singleton_append, List.map_cons]
      rw [ih]

theorem suppliedParameters_advised :
    suppliedParameters (advised operation description) =
      (suppliedParameters operation).map fun entry =>
        (entry.1, adviseUsage operation description entry.2) := by
  simpa [suppliedParameters, advised] using
    @firsts_adviseUsages operation description [] operation.parameters

theorem get?_suppliedParameters_advised (key : String) :
    (suppliedParameters (advised operation description)).get? key =
      ((suppliedParameters operation).get? key).map (adviseUsage operation description) := by
  rw [suppliedParameters_advised, Entries.get?_map]

theorem missingParameters_advised :
    missingParameters (advised operation description) (expectedParameters description)
        (suppliedParameters (advised operation description)) =
      missingParameters operation (expectedParameters description)
        (suppliedParameters operation) := by
  simp only [missingParameters, get?_suppliedParameters_advised, Option.isSome_map]
  rfl

theorem redundantParameters_advised :
    redundantParameters (advised operation description) (expectedParameters description)
        (suppliedParameters (advised operation description)) =
      redundantParameters operation (expectedParameters description)
        (suppliedParameters operation) := by
  simp only [redundantParameters, get?_suppliedParameters_advised, Option.isSome_map]
  rw [suppliedParameters_advised, List.filter_map, List.map_map, List.isEmpty_map]
  simp only [Function.comp_def, name_adviseUsage]
  rfl

/-- No writer is reported any more. -/
theorem writerMismatches_advised :
    writerMismatches (advised operation description) (expectedParameters description)
      (suppliedParameters (advised operation description)) = [] := by
  rw [List.eq_nil_iff_forall_not_mem]
  intro finding hmem
  obtain ⟨usage, husage, hfinding⟩ := mem_writerMismatches_iff.mp hmem
  rw [get?_suppliedParameters_advised, Option.map_eq_some_iff] at husage
  obtain ⟨before, -, rfl⟩ := husage
  have hnone := @writerFinding?_adviseUsage operation description before
  have hsame : writerFinding? (advised operation description) description =
      writerFinding? operation description := rfl
  rw [hsame, hnone] at hfinding
  contradiction

/-! ## Reads -/

section Reads

variable {columns : Entries String OutputColumn} {read : ColumnRead} {column : OutputColumn}
  {finding : Diagnostic}

theorem code_of_missing (hcolumn : columns.get? read.column = none)
    (h : readFinding? operation columns read = some finding) : finding.code = .missingColumn := by
  simp only [readFinding?, hcolumn, Option.some.injEq] at h
  rw [← h]
  rfl

/-- A read of an existing column is reported because the reader does not fit, or because null can
come up; either way a reader is suggested. -/
theorem readFinding?_cases (hcolumn : columns.get? read.column = some column)
    (h : readFinding? operation columns read = some finding) :
    ((TypeMap.expected column.dataType).acceptsReader read.kind = false ∧
      finding.code = .columnTypeMismatch ∧
      finding.suggestion = Vocabulary.text (TypeMap.expected column.dataType).canonicalReader) ∨
    ((TypeMap.expected column.dataType).acceptsReader read.kind = true ∧
      finding.code = .nullableColumn ∧
      finding.suggestion = Vocabulary.text read.kind ++ "OrNone") := by
  simp only [readFinding?, hcolumn] at h
  cases haccepts : (TypeMap.expected column.dataType).acceptsReader read.kind with
  | false =>
    simp only [haccepts, Bool.not_false, if_true, Option.some.injEq] at h
    subst h
    exact Or.inl ⟨rfl, rfl, Diagnostic.suggestion_eq rfl (plainName_reader _).ne_space⟩
  | true =>
    simp only [haccepts, Bool.not_true, Bool.false_eq_true, if_false] at h
    split at h
    · obtain rfl := Option.some.inj h
      refine Or.inr ⟨rfl, rfl, @Diagnostic.suggestion_eq _ ("Column " ++ quote read.column ++
        " is nullable but is read using " ++ read.function) _ ?_ ?_⟩
      · have hending : "OrNone instead" = "OrNone" ++ " instead" := rfl
        simp only [warning, hending, String.append_assoc]
      · intro c hc
        rw [String.toList_append, List.mem_append] at hc
        rcases hc with hc | hc
        · exact (plainName_reader _).ne_space c hc
        · rintro rfl
          exact absurd hc (by decide)
    · contradiction

theorem column_adviseRead : (adviseRead operation description read).column = read.column := by
  unfold adviseRead
  split <;> rfl

theorem function_adviseRead
    (h : readFinding? operation (resultColumns description) read = some finding)
    (hsuggests : suggestsReader finding = true) :
    (adviseRead operation description read).function = finding.suggestion := by
  simp only [adviseRead, h, Option.filter_some, hsuggests, if_true]

theorem adviseRead_eq_self
    (h : (readFinding? operation (resultColumns description) read).filter suggestsReader = none) :
    adviseRead operation description read = read := by
  simp only [adviseRead, h]

theorem adviseRead_of_missing (hcolumn : (resultColumns description).get? read.column = none) :
    adviseRead operation description read = read := by
  refine adviseRead_eq_self (Option.filter_eq_none_iff.mpr fun finding hfinding => ?_)
  simp [suggestsReader, code_of_missing hcolumn hfinding]

/-- After the advice the reader of an existing column fits. -/
theorem acceptsReader_adviseRead
    (hcolumn : (resultColumns description).get? read.column = some column) :
    (TypeMap.expected column.dataType).acceptsReader
      (adviseRead operation description read).kind = true := by
  cases hbefore : readFinding? operation (resultColumns description) read with
  | none =>
    obtain ⟨column', hcolumn', haccepts, -⟩ := readFinding?_eq_none_iff.mp hbefore
    obtain rfl := Option.some.inj (hcolumn.symm.trans hcolumn')
    rw [adviseRead_eq_self (by simp [hbefore])]
    exact haccepts
  | some finding =>
    rcases readFinding?_cases hcolumn hbefore with ⟨-, hcode, hsuggestion⟩ |
      ⟨haccepts, hcode, hsuggestion⟩
    · have hfunction := function_adviseRead hbefore (by simp [suggestsReader, hcode])
      rw [ColumnRead.kind, hfunction, hsuggestion, ReaderKind.parse_text]
      exact TypeMap.acceptsReader_canonicalReader _
    · have hfunction := function_adviseRead hbefore (by simp [suggestsReader, hcode])
      rw [ColumnRead.kind, hfunction, hsuggestion, ReaderKind.parse_text_append _ (by decide)]
      exact haccepts

/-- After the advice the read of an existing column has no finding, unless its reader was
replaced. -/
theorem readFinding?_adviseRead_of_accepts
    (hcolumn : (resultColumns description).get? read.column = some column)
    (haccepts : (TypeMap.expected column.dataType).acceptsReader read.kind = true) :
    readFinding? operation (resultColumns description) (adviseRead operation description read) =
      none := by
  cases hbefore : readFinding? operation (resultColumns description) read with
  | none => rw [adviseRead_eq_self (by simp [hbefore]), hbefore]
  | some finding =>
    rcases readFinding?_cases hcolumn hbefore with ⟨hrefused, -⟩ | ⟨-, hcode, hsuggestion⟩
    · rw [haccepts] at hrefused
      contradiction
    · have hfunction := function_adviseRead hbefore (by simp [suggestsReader, hcode])
      have hoptional : (adviseRead operation description read).isOptional = true := by
        rw [ColumnRead.isOptional, hfunction, hsuggestion,
          ReaderKind.parse_text_append _ (by decide)]
      refine readFinding?_eq_none_iff.mpr ⟨column, ?_, acceptsReader_adviseRead hcolumn, ?_⟩
      · rw [column_adviseRead, hcolumn]
      · exact fun _ _ => hoptional

/-- A finding about an advised read is an old one about a missing column, or it asks for the
optional variant of a reader that was put in. -/
theorem readFinding?_adviseRead_cases
    (h : readFinding? operation (resultColumns description)
      (adviseRead operation description read) = some finding) :
    (finding.code = .missingColumn ∧
      readFinding? operation (resultColumns description) read = some finding) ∨
    (finding.code = .nullableColumn ∧ ∃ before,
      readFinding? operation (resultColumns description) read = some before ∧
      before.code = .columnTypeMismatch) := by
  cases hcolumn : (resultColumns description).get? read.column with
  | none =>
    rw [adviseRead_of_missing hcolumn] at h
    exact Or.inl ⟨code_of_missing hcolumn h, h⟩
  | some column =>
    cases haccepts : (TypeMap.expected column.dataType).acceptsReader read.kind with
    | true =>
      rw [readFinding?_adviseRead_of_accepts hcolumn haccepts] at h
      contradiction
    | false =>
      refine Or.inr ⟨?_, ?_⟩
      · have hadvised : (resultColumns description).get?
            (adviseRead operation description read).column = some column := by
          rw [column_adviseRead, hcolumn]
        rcases readFinding?_cases hadvised h with ⟨hrefused, -⟩ | ⟨-, hcode, -⟩
        · rw [acceptsReader_adviseRead hcolumn] at hrefused
          contradiction
        · exact hcode
      · cases hbefore : readFinding? operation (resultColumns description) read with
        | none =>
          obtain ⟨column', hcolumn', hfits, -⟩ := readFinding?_eq_none_iff.mp hbefore
          obtain rfl := Option.some.inj (hcolumn.symm.trans hcolumn')
          rw [haccepts] at hfits
          contradiction
        | some before =>
          rcases readFinding?_cases hcolumn hbefore with ⟨-, hcode, -⟩ | ⟨hfits, -⟩
          · exact ⟨before, rfl, hcode⟩
          · rw [haccepts] at hfits
            contradiction

/-- A read of a missing column is found as before, and no other read is found to be one. -/
theorem filter_isLasting_adviseRead :
    (readFinding? operation (resultColumns description)
        (adviseRead operation description read)).filter isLasting =
      (readFinding? operation (resultColumns description) read).filter isLasting := by
  cases hcolumn : (resultColumns description).get? read.column with
  | none => rw [adviseRead_of_missing hcolumn]
  | some column =>
    have hdropped (other : ColumnRead)
        (hother : (resultColumns description).get? other.column = some column) :
        (readFinding? operation (resultColumns description) other).filter isLasting = none := by
      refine Option.filter_eq_none_iff.mpr fun finding hfinding => ?_
      rcases readFinding?_cases hother hfinding with ⟨-, hcode, -⟩ | ⟨-, hcode, -⟩ <;>
        simp [isLasting, hcode]
    rw [hdropped read hcolumn, hdropped _ (by rw [column_adviseRead, hcolumn])]

end Reads

/-! ## The execution function -/

theorem code_of_mem_checkExecution {finding : Diagnostic}
    (h : finding ∈ checkExecution operation description) : finding.code = .executionMode := by
  unfold checkExecution at h
  split at h
  · obtain rfl := List.mem_singleton.mp h
    rfl
  · obtain rfl := List.mem_singleton.mp h
    rfl
  · contradiction

/-- The suggested execution function expects rows exactly when the query returns some. -/
theorem adviseExecution_cases : checkExecution operation description = [] ∧
      adviseExecution operation description = operation.execution ∨
    description.columns = [] ∧ adviseExecution operation description = .nonQuery ∨
    description.columns ≠ [] ∧ adviseExecution operation description = .rows := by
  cases hfindings : checkExecution operation description with
  | nil => exact Or.inl ⟨rfl, by simp only [adviseExecution, hfindings]⟩
  | cons finding rest =>
    refine Or.inr ?_
    simp only [adviseExecution, hfindings]
    unfold checkExecution at hfindings
    split at hfindings
    · rename_i hempty
      obtain ⟨rfl, -⟩ := List.cons.inj hfindings
      refine Or.inl ⟨List.isEmpty_iff.mp hempty, ?_⟩
      rw [Diagnostic.suggestion_eq rfl (plainName_mode _).ne_space, ExecutionMode.parse_text]
    · rename_i hempty
      obtain ⟨rfl, -⟩ := List.cons.inj hfindings
      refine Or.inr ⟨by simpa using hempty, ?_⟩
      rw [Diagnostic.suggestion_eq rfl (plainName_mode _).ne_space, ExecutionMode.parse_text]
    · contradiction

theorem checkExecution_advised :
    checkExecution (advised operation description) description = [] := by
  have hexecution : (advised operation description).execution =
      adviseExecution operation description := rfl
  rw [checkExecution_eq_nil_iff, hexecution]
  rcases adviseExecution_cases with ⟨hnone, hsame⟩ | ⟨hempty, hmode⟩ | ⟨hrows, hmode⟩
  · rw [hsame]
    exact checkExecution_eq_nil_iff.mp hnone
  · simp [hmode, hempty, ExecutionMode.returnsRows]
  · simp [hmode, hrows, ExecutionMode.returnsRows]

/-! ## The whole analysis -/

/-- After the advice only the lasting findings about parameters remain. -/
theorem checkParameters_advised :
    checkParameters (advised operation description) description =
      missingParameters operation (expectedParameters description) (suppliedParameters operation) ++
        redundantParameters operation (expectedParameters description)
          (suppliedParameters operation) := by
  rw [checkParameters, missingParameters_advised, redundantParameters_advised,
    writerMismatches_advised, List.append_nil]

theorem checkColumns_advised : checkColumns (advised operation description) description =
    operation.reads.filterMap fun read => readFinding? operation (resultColumns description)
      (adviseRead operation description read) := by
  rw [checkColumns, advised, List.filterMap_map]
  rfl

/-- One round leaves the findings that are lasting, and requests for the optional variant of a
reader that was put in. -/
theorem mem_check_advised_cases {finding : Diagnostic}
    (h : finding ∈ check (advised operation description) description) :
    isLasting finding = true ∨ finding.code = .nullableColumn ∧ ∃ read ∈ operation.reads,
      ∃ before, readFinding? operation (resultColumns description) read = some before ∧
        before.code = .columnTypeMismatch := by
  rw [check, checkExecution_advised, List.append_nil, checkParameters_advised,
    checkColumns_advised, List.mem_append, List.mem_append] at h
  rcases h with (h | h) | h
  · exact Or.inl (by simp [isLasting, code_of_mem_missingParameters h])
  · exact Or.inl (by simp [isLasting, code_of_mem_redundantParameters h])
  · obtain ⟨read, hmem, hread⟩ := List.mem_filterMap.mp h
    rcases readFinding?_adviseRead_cases hread with ⟨hcode, -⟩ | ⟨hcode, hbefore⟩
    · exact Or.inl (by simp [isLasting, hcode])
    · exact Or.inr ⟨hcode, read, hmem, hbefore⟩

/-- Two rounds leave the findings that are lasting. -/
theorem isLasting_of_mem_check_advised_twice {finding : Diagnostic}
    (h : finding ∈ check (advised (advised operation description) description) description) :
    isLasting finding = true := by
  rcases mem_check_advised_cases h with hlasting | ⟨-, read, hmem, before, hbefore, hcode⟩
  · exact hlasting
  -- A reader that was put in fits, so there is no read whose reader could be replaced again.
  · obtain ⟨original, -, rfl⟩ := List.mem_map.mp hmem
    rcases readFinding?_adviseRead_cases hbefore with ⟨hmissing, -⟩ | ⟨hnullable, -⟩
    · rw [hcode] at hmissing
      contradiction
    · rw [hcode] at hnullable
      contradiction

/-- The lasting findings are the same after the advice. -/
theorem filter_isLasting_check_advised :
    (check (advised operation description) description).filter isLasting =
      (check operation description).filter isLasting := by
  have hwriters : (writerMismatches operation (expectedParameters description)
      (suppliedParameters operation)).filter isLasting = [] := by
    rw [List.filter_eq_nil_iff]
    intro finding hmem
    simp [isLasting, code_of_mem_writerMismatches hmem]
  have hexecution : (checkExecution operation description).filter isLasting = [] := by
    rw [List.filter_eq_nil_iff]
    intro finding hmem
    simp [isLasting, code_of_mem_checkExecution hmem]
  have hcolumns : (checkColumns (advised operation description) description).filter isLasting =
      (checkColumns operation description).filter isLasting := by
    rw [checkColumns_advised, checkColumns, List.filter_filterMap, List.filter_filterMap]
    simp only [filter_isLasting_adviseRead]
  rw [check, check, checkExecution_advised, checkParameters_advised, checkParameters]
  simp only [List.filter_append, hwriters, hexecution, hcolumns, List.append_nil]

/-- Following the suggestions twice settles them all. After one round the readers, the writers and
the execution function fit, and the optional variant is asked for only where the reader has been
replaced; after two rounds nothing is suggested any more. What is missing or redundant is reported
alike at all times. -/
theorem advice_converges (operation : Operation) (description : Description) :
    let once := advised operation description
    let twice := advised once description
    (∀ finding ∈ check once description, finding.code ≠ .parameterTypeMismatch ∧
      finding.code ≠ .columnTypeMismatch ∧ finding.code ≠ .executionMode) ∧
    (∀ (i : Nat) (read : ColumnRead) (finding : Diagnostic), once.reads[i]? = some read →
      readFinding? once (resultColumns description) read = some finding →
      finding.code = .nullableColumn →
      ∃ before mismatch, operation.reads[i]? = some before ∧
        readFinding? operation (resultColumns description) before = some mismatch ∧
        mismatch.code = .columnTypeMismatch) ∧
    (∀ finding ∈ check twice description, finding.code ≠ .parameterTypeMismatch ∧
      finding.code ≠ .columnTypeMismatch ∧ finding.code ≠ .nullableColumn ∧
      finding.code ≠ .executionMode) ∧
    (check once description).filter isLasting = (check operation description).filter isLasting ∧
    (check twice description).filter isLasting =
      (check operation description).filter isLasting := by
  refine ⟨?_, ?_, ?_, filter_isLasting_check_advised, ?_⟩
  · intro finding hmem
    rcases mem_check_advised_cases hmem with hlasting | ⟨hcode, -⟩
    · cases hcode : finding.code <;> simp [isLasting, hcode] at hlasting ⊢
    · simp [hcode]
  · intro i read finding hread hfinding hcode
    have hreads : (advised operation description).reads =
        operation.reads.map (adviseRead operation description) := rfl
    rw [hreads, List.getElem?_map, Option.map_eq_some_iff] at hread
    obtain ⟨before, hbefore, rfl⟩ := hread
    rcases readFinding?_adviseRead_cases hfinding with ⟨hmissing, -⟩ | ⟨-, mismatch, hmismatch⟩
    · rw [hcode] at hmissing
      contradiction
    · exact ⟨before, mismatch, hbefore, hmismatch⟩
  · intro finding hmem
    have hlasting := isLasting_of_mem_check_advised_twice hmem
    cases hcode : finding.code <;> simp [isLasting, hcode] at hlasting ⊢
  · rw [filter_isLasting_check_advised, filter_isLasting_check_advised]

end Analysis

end QueryAudit
