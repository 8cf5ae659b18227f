import QueryAudit.Document.Decoder

/-!
# The closed vocabularies

Readers, writers, execution functions, severities and diagnostic codes. Each vocabulary lists its
members once, in the order of declaration; the text of a member is what call sites write and what
documents hold, its symbol is the name by which reports list it.
-/

namespace QueryAudit

/-- A closed vocabulary: finitely many members, each with a text of its own. -/
class Vocabulary (α : Type) where
  /-- The members in the order of declaration. -/
  all : List α
  /-- The text of a member. -/
  text : α → String
  /-- The name of a member in lists. -/
  symbol : α → String

namespace Vocabulary

variable {α : Type} [Vocabulary α]

/-- The member with the given text. -/
def ofText? (s : String) : Option α :=
  all.find? fun member => text member == s

/-- Whether the document is the text of a member. -/
def holds (α : Type) [Vocabulary α] : Document → Bool
  | .scalar (.text s) => (ofText? s : Option α).isSome
  | _ => false

/-- Decode a member from its exact text. -/
def decode : Decoder α := fun document =>
  match Decoder.text document with
  | .ok s =>
    match ofText? s with
    | some member => .ok member
    | none => .fail (if Text.hasSurrogate s then .notUnicode else .notMember)
  | .bad _ => .fail .notMember

end Vocabulary

/-- Functions with which a call site reads a column of the result.
`unknown` stands for every name that is none of the others, and fits no type. -/
inductive ReaderKind where
  /-- The function `read.int16`. -/
  | int16
  /-- The function `read.int`. -/
  | int
  /-- The function `read.int64`. -/
  | int64
  /-- The function `read.decimal`. -/
  | decimal
  /-- The function `read.double`. -/
  | double
  /-- The function `read.float`. -/
  | float
  /-- The function `read.text`. -/
  | text
  /-- The function `read.string`. -/
  | string
  /-- The function `read.bool`. -/
  | bool
  /-- The function `read.uuid`. -/
  | uuid
  /-- The function `read.bytea`. -/
  | bytea
  /-- The function `read.date`. -/
  | date
  /-- The function `read.dateTime`. -/
  | dateTime
  /-- The function `read.timestamp`. -/
  | timestamp
  /-- The function `read.timestamptz`. -/
  | timestampTz
  /-- The function `read.datetimeOffset`. -/
  | dateTimeOffset
  /-- The function `read.timeOnly`. -/
  | time
  /-- The function `read.interval`. -/
  | interval
  /-- The function `read.inet`. -/
  | inet
  /-- The function `read.json`. -/
  | json
  /-- The function `read.stringArray`. -/
  | stringArray
  /-- The function `read.intArray`. -/
  | intArray
  /-- The function `read.int64Array`. -/
  | int64Array
  /-- The function `read.decimalArray`. -/
  | decimalArray
  /-- The function `read.doubleArray`. -/
  | doubleArray
  /-- The function `read.boolArray`. -/
  | boolArray
  /-- The function `read.uuidArray`. -/
  | uuidArray
  /-- The function `read.fieldValue`. -/
  | fieldValue
  /-- Any other name. -/
  | unknown
  deriving DecidableEq

instance : Vocabulary ReaderKind where
  all :=
    [.int16, .int, .int64, .decimal, .double, .float, .text, .string, .bool, .uuid, .bytea,
      .date, .dateTime, .timestamp, .timestampTz, .dateTimeOffset, .time, .interval, .inet,
      .json, .stringArray, .intArray, .int64Array, .decimalArray, .doubleArray, .boolArray,
      .uuidArray, .fieldValue, .unknown]
  text
    | .int16 => "read.int16"
    | .int => "read.int"
    | .int64 => "read.int64"
    | .decimal => "read.decimal"
    | .double => "read.double"
    | .float => "read.float"
    | .text => "read.text"
    | .string => "read.string"
    | .bool => "read.bool"
    | .uuid => "read.uuid"
    | .bytea => "read.bytea"
    | .date => "read.date"
    | .dateTime => "read.dateTime"
    | .timestamp => "read.timestamp"
    | .timestampTz => "read.timestamptz"
    | .dateTimeOffset => "read.datetimeOffset"
    | .time => "read.timeOnly"
    | .interval => "read.interval"
    | .inet => "read.inet"
    | .json => "read.json"
    | .stringArray => "read.stringArray"
    | .intArray => "read.intArray"
    | .int64Array => "read.int64Array"
    | .decimalArray => "read.decimalArray"
    | .doubleArray => "read.doubleArray"
    | .boolArray => "read.boolArray"
    | .uuidArray => "read.uuidArray"
    | .fieldValue => "read.fieldValue"
    | .unknown => "read.unknown"
  symbol
    | .int16 => "INT16"
    | .int => "INT"
    | .int64 => "INT64"
    | .decimal => "DECIMAL"
    | .double => "DOUBLE"
    | .float => "FLOAT"
    | .text => "TEXT"
    | .string => "STRING"
    | .bool => "BOOL"
    | .uuid => "UUID"
    | .bytea => "BYTEA"
    | .date => "DATE"
    | .dateTime => "DATETIME"
    | .timestamp => "TIMESTAMP"
    | .timestampTz => "TIMESTAMPTZ"
    | .dateTimeOffset => "DATETIME_OFFSET"
    | .time => "TIME"
    | .interval => "INTERVAL"
    | .inet => "INET"
    | .json => "JSON"
    | .stringArray => "STRING_ARRAY"
    | .intArray => "INT_ARRAY"
    | .int64Array => "INT64_ARRAY"
    | .decimalArray => "DECIMAL_ARRAY"
    | .doubleArray => "DOUBLE_ARRAY"
    | .boolArray => "BOOL_ARRAY"
    | .uuidArray => "UUID_ARRAY"
    | .fieldValue => "FIELD_VALUE"
    | .unknown => "UNKNOWN"

/-- Functions with which a call site supplies a parameter.
`unknown` stands for every name that is none of the others, and fits no type. -/
inductive WriterKind where
  /-- The function `Sql.int16`. -/
  | int16
  /-- The function `Sql.int`. -/
  | int
  /-- The function `Sql.int64`. -/
  | int64
  /-- The function `Sql.decimal`. -/
  | decimal
  /-- The function `Sql.money`. -/
  | money
  /-- The function `Sql.double`. -/
  | double
  /-- The function `Sql.text`. -/
  | text
  /-- The function `Sql.string`. -/
  | string
  /-- The function `Sql.bool`. -/
  | bool
  /-- The function `Sql.bit`. -/
  | bit
  /-- The function `Sql.uuid`. -/
  | uuid
  /-- The function `Sql.bytea`. -/
  | bytea
  /-- The function `Sql.date`. -/
  | date
  /-- The function `Sql.timestamp`. -/
  | timestamp
  /-- The function `Sql.timestamptz`. -/
  | timestampTz
  /-- The function `Sql.time`. -/
  | time
  /-- The function `Sql.interval`. -/
  | interval
  /-- The function `Sql.jsonb`. -/
  | jsonb
  /-- The function `Sql.stringArray`. -/
  | stringArray
  /-- The function `Sql.intArray`. -/
  | intArray
  /-- The function `Sql.int64Array`. -/
  | int64Array
  /-- The function `Sql.decimalArray`. -/
  | decimalArray
  /-- The function `Sql.doubleArray`. -/
  | doubleArray
  /-- The function `Sql.boolArray`. -/
  | boolArray
  /-- The function `Sql.uuidArray`. -/
  | uuidArray
  /-- The function `Sql.parameter`. -/
  | parameter
  /-- The function `Sql.dbnull`. -/
  | dbNull
  /-- Any other name. -/
  | unknown
  deriving DecidableEq

instance : Vocabulary WriterKind where
  all :=
    [.int16, .int, .int64, .decimal, .money, .double, .text, .string, .bool, .bit, .uuid,
      .bytea, .date, .timestamp, .timestampTz, .time, .interval, .jsonb, .stringArray,
      .intArray, .int64Array, .decimalArray, .doubleArray, .boolArray, .uuidArray,
      .parameter, .dbNull, .unknown]
  text
    | .int16 => "Sql.int16"
    | .int => "Sql.int"
    | .int64 => "Sql.int64"
    | .decimal => "Sql.decimal"
    | .money => "Sql.money"
    | .double => "Sql.double"
    | .text => "Sql.text"
    | .string => "Sql.string"
    | .bool => "Sql.bool"
    | .bit => "Sql.bit"
    | .uuid => "Sql.uuid"
    | .bytea => "Sql.bytea"
    | .date => "Sql.date"
    | .timestamp => "Sql.timestamp"
    | .timestampTz => "Sql.timestamptz"
    | .time => "Sql.time"
    | .interval => "Sql.interval"
    | .jsonb => "Sql.jsonb"
    | .stringArray => "Sql.stringArray"
    | .intArray => "Sql.intArray"
    | .int64Array => "Sql.int64Array"
    | .decimalArray => "Sql.decimalArray"
    | .doubleArray => "Sql.doubleArray"
    | .boolArray => "Sql.boolArray"
    | .uuidArray => "Sql.uuidArray"
    | .parameter => "Sql.parameter"
    | .dbNull => "Sql.dbnull"
    | .unknown => "Sql.unknown"
  symbol
    | .int16 => "INT16"
    | .int => "INT"
    | .int64 => "INT64"
    | .decimal => "DECIMAL"
    | .money => "MONEY"
    | .double => "DOUBLE"
    | .text => "TEXT"
    | .string => "STRING"
    | .bool => "BOOL"
    | .bit => "BIT"
    | .uuid => "UUID"
    | .bytea => "BYTEA"
    | .date => "DATE"
    | .timestamp => "TIMESTAMP"
    | .timestampTz => "TIMESTAMPTZ"
    | .time => "TIME"
    | .interval => "INTERVAL"
    | .jsonb => "JSONB"
    | .stringArray => "STRING_ARRAY"
    | .intArray => "INT_ARRAY"
    | .int64Array => "INT64_ARRAY"
    | .decimalArray => "DECIMAL_ARRAY"
    | .doubleArray => "DOUBLE_ARRAY"
    | .boolArray => "BOOL_ARRAY"
    | .uuidArray => "UUID_ARRAY"
    | .parameter => "PARAMETER"
    | .dbNull => "DB_NULL"
    | .unknown => "UNKNOWN"

/-- Functions with which a call site runs its query. -/
inductive ExecutionMode where
  /-- Run a query that returns rows. -/
  | rows
  /-- Run a query that returns one row. -/
  | row
  /-- Run a query that returns one value. -/
  | scalar
  /-- Run a statement that only reports how many rows it touched. -/
  | nonQuery
  /-- A function that is none of the others; whether it expects rows is not known. -/
  | unknown
  deriving DecidableEq

instance : Vocabulary ExecutionMode where
  all :=
    [.rows, .row, .scalar, .nonQuery, .unknown]
  text
    | .rows => "Sql.execute"
    | .row => "Sql.executeRow"
    | .scalar => "Sql.executeScalar"
    | .nonQuery => "Sql.executeNonQuery"
    | .unknown => "Sql.executeUnknown"
  symbol
    | .rows => "ROWS"
    | .row => "ROW"
    | .scalar => "SCALAR"
    | .nonQuery => "NON_QUERY"
    | .unknown => "UNKNOWN"

/-- How grave a finding is. -/
inductive Severity where
  /-- The call site is probably wrong. -/
  | warning
  /-- The call site could not be analysed. -/
  | error
  deriving DecidableEq

instance : Vocabulary Severity where
  all :=
    [.warning, .error]
  text
    | .warning => "warning"
    | .error => "error"
  symbol
    | .warning => "WARNING"
    | .error => "ERROR"

/-- The stable identifiers of the findings. -/
inductive DiagnosticCode where
  /-- The database refuses the query. -/
  | describeFailed
  /-- A parameter of the query is not supplied. -/
  | missingParameter
  /-- Supplied parameters do not occur in the query. -/
  | redundantParameters
  /-- A parameter is supplied with a writer that does not fit its type. -/
  | parameterTypeMismatch
  /-- A column is read that the query does not return. -/
  | missingColumn
  /-- A column is read with a reader that does not fit its type. -/
  | columnTypeMismatch
  /-- A nullable column is read with a reader that refuses null. -/
  | nullableColumn
  /-- The execution function expects rows and there are none, or the other way round. -/
  | executionMode
  /-- The analysis broke off. -/
  | analysisFailed
  deriving DecidableEq

instance : Vocabulary DiagnosticCode where
  all :=
    [.describeFailed, .missingParameter, .redundantParameters, .parameterTypeMismatch,
      .missingColumn, .columnTypeMismatch, .nullableColumn, .executionMode, .analysisFailed]
  text
    | .describeFailed => "SQL001"
    | .missingParameter => "SQL002"
    | .redundantParameters => "SQL003"
    | .parameterTypeMismatch => "SQL004"
    | .missingColumn => "SQL005"
    | .columnTypeMismatch => "SQL006"
    | .nullableColumn => "SQL007"
    | .executionMode => "SQL008"
    | .analysisFailed => "SQL009"
  symbol
    | .describeFailed => "DESCRIBE_FAILED"
    | .missingParameter => "MISSING_PARAMETER"
    | .redundantParameters => "REDUNDANT_PARAMETERS"
    | .parameterTypeMismatch => "PARAMETER_TYPE_MISMATCH"
    | .missingColumn => "MISSING_COLUMN"
    | .columnTypeMismatch => "COLUMN_TYPE_MISMATCH"
    | .nullableColumn => "NULLABLE_COLUMN"
    | .executionMode => "EXECUTION_MODE"
    | .analysisFailed => "ANALYSIS_FAILED"

/-- The endings of a function that also accepts null, in the order in which they are tried. -/
def optionalEndings : List String :=
  ["OrValueNone", "OrNone", "OrNull"]

/-- Split the ending of the optional variant off a function name, and say whether there was one.
Blanks around the name are dropped, and an ending alone is a name. -/
def splitOptional (name : String) : String × Bool :=
  let chars := Text.trim name.toList
  match optionalEndings.find? fun ending =>
      decide (ending.length < chars.length) && ending.toList.isSuffixOf chars with
  | some ending => (String.ofList (chars.take (chars.length - ending.length)), true)
  | none => (String.ofList chars, false)

/-- The reader that a call site names, and whether in its optional variant. -/
def ReaderKind.parse (name : String) : ReaderKind × Bool :=
  let (base, isOptional) := splitOptional name
  ((Vocabulary.ofText? base).getD .unknown, isOptional)

/-- The writer that a call site names, and whether in its optional variant. -/
def WriterKind.parse (name : String) : WriterKind × Bool :=
  let (base, isOptional) := splitOptional name
  ((Vocabulary.ofText? base).getD .unknown, isOptional)

/-- Readers of whole arrays are marked by their name. -/
def ReaderKind.isArray (kind : ReaderKind) : Bool :=
  "Array".toList.isSuffixOf (Vocabulary.text kind).toList

/-- Writers of whole arrays are marked by their name. -/
def WriterKind.isArray (kind : WriterKind) : Bool :=
  "Array".toList.isSuffixOf (Vocabulary.text kind).toList

/-- Names of execution functions that behave like one of the modes. -/
def ExecutionMode.aliases : List (String × ExecutionMode) :=
  [("Sql.executeReader", .rows), ("Sql.iter", .rows), ("Sql.toSeq", .rows),
    ("Sql.executeRowOrNone", .row), ("Sql.executeTransaction", .nonQuery)]

/-- Drop one ending `Async` from a name without blanks around it. -/
def dropAsync (chars : List Char) : List Char :=
  if "Async".toList.isSuffixOf chars then chars.take (chars.length - "Async".length) else chars

/-- The mode of the execution function that a call site names. -/
def ExecutionMode.parse (name : String) : ExecutionMode :=
  let base := String.ofList (dropAsync (Text.trim name.toList))
  match aliases.lookup base with
  | some mode => mode
  | none => (Vocabulary.ofText? base).getD .unknown

/-- Whether the execution function expects rows; not known for `unknown`. -/
def ExecutionMode.returnsRows : ExecutionMode → Option Bool
  | .unknown => none
  | .nonQuery => some false
  | _ => some true

/-- An execution function may be written in any way in a text: a name that is not known is read as
`unknown`. Other documents have to be the exact text of a mode. -/
def ExecutionMode.decode : Decoder ExecutionMode
  | .scalar (.text s) => .ok (ExecutionMode.parse s)
  | document => Vocabulary.decode document

end QueryAudit
