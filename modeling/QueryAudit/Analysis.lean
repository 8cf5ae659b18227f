import QueryAudit.Diagnostic
import QueryAudit.Description
import QueryAudit.TypeMap

/-!
# The analysis of a call site

The description of a query is compared with its call site in three checks: the supplied parameters,
the columns read, and the execution function. Names of parameters are compared in lower case, names
of columns exactly. Of several parameters, usages or columns with one name the first one counts.
-/

namespace QueryAudit.Analysis

/-- A warning. -/
def warning (code : DiagnosticCode) (message : String) (range : SourceRange) : Diagnostic :=
  ⟨.warning, code, message, range⟩

/-- A name between single quotes. -/
def quote (name : String) : String :=
  "'" ++ name ++ "'"

/-- The parameters of a description by their keys in lower case. -/
def expectedParameters (description : Description) : Entries String Parameter :=
  Entries.firsts (description.parameters.map fun parameter =>
    (Text.lowered parameter.key, parameter))

/-- The supplied parameters by their names in lower case. -/
def suppliedParameters (operation : Operation) : Entries String ParameterUsage :=
  Entries.firsts (operation.parameters.map fun usage => (Text.lowered usage.name, usage))

/-- A parameter is not supplied. -/
def missingParameter (range : SourceRange) (parameter : Parameter) : Diagnostic :=
  warning .missingParameter
    ("Missing parameter " ++ quote parameter.key ++ " of type " ++ parameter.dataType.display) range

/-- One warning for every parameter that is not supplied. -/
def missingParameters (operation : Operation) (expected : Entries String Parameter)
    (supplied : Entries String ParameterUsage) : List Diagnostic :=
  expected.filterMap fun (key, parameter) =>
    if (supplied.get? key).isSome then none else some (missingParameter operation.range parameter)

/-- The wording when parameters are supplied in vain. -/
def redundantMessage (expectsSome : Bool) (names : List String) : String :=
  let listed := ", ".intercalate (names.map quote)
  if expectsSome then
    "Provided parameters are redundant: " ++ listed ++ " are not used by the query"
  else
    "Provided parameters are redundant: the query does not use any parameters but " ++ listed ++
      " are supplied"

/-- One warning when all parameters are supplied and others too. -/
def redundantParameters (operation : Operation) (expected : Entries String Parameter)
    (supplied : Entries String ParameterUsage) : List Diagnostic :=
  let redundant := supplied.filter fun entry => (expected.get? entry.1).isNone
  if expected.all (fun entry => (supplied.get? entry.1).isSome) && !redundant.isEmpty then
    [warning .redundantParameters
      (redundantMessage (!expected.isEmpty) (redundant.map fun entry => entry.2.name))
      operation.range]
  else []

/-- A warning when the writer of a parameter does not fit its type. -/
def writerMismatch? (operation : Operation) (parameter : Parameter) (usage : ParameterUsage) :
    Option Diagnostic :=
  let functions := TypeMap.expected parameter.dataType
  if functions.acceptsWriter usage.kind then none
  else some (warning .parameterTypeMismatch
    ("Attempting to provide parameter " ++ quote usage.name ++ " of type " ++
      parameter.dataType.display ++ " using function " ++ usage.function ++ ". Please use " ++
      Vocabulary.text functions.canonicalWriter ++ " instead")
    (usage.range.getD operation.range))

/-- One warning for every supplied parameter whose writer does not fit. -/
def writerMismatches (operation : Operation) (expected : Entries String Parameter)
    (supplied : Entries String ParameterUsage) : List Diagnostic :=
  expected.filterMap fun (key, parameter) =>
    (supplied.get? key).bind (writerMismatch? operation parameter)

/-- Compare the parameters of the query with the supplied ones. -/
def checkParameters (operation : Operation) (description : Description) : List Diagnostic :=
  let expected := expectedParameters description
  let supplied := suppliedParameters operation
  missingParameters operation expected supplied ++
    redundantParameters operation expected supplied ++
    writerMismatches operation expected supplied

/-- The result columns by name. -/
def resultColumns (description : Description) : Entries String OutputColumn :=
  Entries.firsts (description.columns.map fun column => (column.name, column))

/-- What can be read instead of a column that does not exist. -/
def columnHint (columns : Entries String OutputColumn) : String :=
  if columns.isEmpty then "The query does not return any columns"
  else "Available columns are " ++ ", ".intercalate
    (columns.map fun (name, column) => name ++ " (" ++ column.dataType.display ++ ")")

/-- The finding about one read, if there is one. -/
def readFinding? (operation : Operation) (columns : Entries String OutputColumn)
    (read : ColumnRead) : Option Diagnostic :=
  let range := read.range.getD operation.range
  match columns.get? read.column with
  | none =>
    some (warning .missingColumn
      ("Attempting to read column named " ++ quote read.column ++
        " that does not exist in the result set. " ++ columnHint columns) range)
  | some column =>
    let functions := TypeMap.expected column.dataType
    if !functions.acceptsReader read.kind then
      some (warning .columnTypeMismatch
        ("Attempting to read column named " ++ quote read.column ++ " of type " ++
          column.dataType.display ++ " using " ++ read.function ++ ". Please use " ++
          Vocabulary.text functions.canonicalReader ++ " instead") range)
    else if column.fromTable && column.nullable && !read.isOptional then
      some (warning .nullableColumn
        ("Column " ++ quote read.column ++ " is nullable but is read using " ++ read.function ++
          ". Please use " ++ Vocabulary.text read.kind ++ "OrNone instead") range)
    else none

/-- Compare the columns read with the result columns. -/
def checkColumns (operation : Operation) (description : Description) : List Diagnostic :=
  operation.reads.filterMap (readFinding? operation (resultColumns description))

/-- Check that the execution function expects rows exactly when the query returns some. -/
def checkExecution (operation : Operation) (description : Description) : List Diagnostic :=
  let used := Vocabulary.text operation.execution
  match operation.execution.returnsRows, description.columns.isEmpty with
  | some true, true =>
    [warning .executionMode
      ("The query does not return any rows but is executed with " ++ used ++ ". Please use " ++
        Vocabulary.text ExecutionMode.nonQuery ++ " instead") operation.range]
  | some false, false =>
    [warning .executionMode
      ("The query returns rows but is executed with " ++ used ++ ". Please use " ++
        Vocabulary.text ExecutionMode.rows ++ " instead") operation.range]
  | _, _ => []

/-- The findings about a call site whose query is described. -/
def check (operation : Operation) (description : Description) : List Diagnostic :=
  checkParameters operation description ++ checkColumns operation description ++
    checkExecution operation description

end QueryAudit.Analysis
