import QueryAudit.DataType
import QueryAudit.Vocabulary

/-!
# The type map

Which readers and writers fit a data type. The map is total: a type without an entry of its own gets
the generic functions, which move any value, and these also fit every scalar type. Mapped array
types accept nothing but functions marked as array functions; writing null fits every type.
-/

namespace QueryAudit

/-- The functions that fit a data type. The first reader and the first writer are the ones that
messages suggest. -/
structure Expected where
  /-- The readers, the suggested one first. -/
  readers : List ReaderKind
  /-- The writers, the suggested one first. -/
  writers : List WriterKind
  /-- Whether the generic functions fit too. -/
  generic : Bool
  deriving DecidableEq

namespace Expected

/-- The reader that reads any value. -/
def genericReaders : List ReaderKind :=
  [.fieldValue]

/-- The writers that write any value. -/
def genericWriters : List WriterKind :=
  [.parameter, .dbNull]

/-- The reader to suggest. -/
def canonicalReader (expected : Expected) : ReaderKind :=
  expected.readers.headD .unknown

/-- The writer to suggest. -/
def canonicalWriter (expected : Expected) : WriterKind :=
  expected.writers.headD .unknown

/-- Whether a reader fits. -/
def acceptsReader (expected : Expected) (kind : ReaderKind) : Bool :=
  expected.readers.contains kind || (expected.generic && genericReaders.contains kind)

/-- Whether a writer fits. -/
def acceptsWriter (expected : Expected) (kind : WriterKind) : Bool :=
  expected.writers.contains kind || kind == .dbNull ||
    (expected.generic && genericWriters.contains kind)

end Expected

namespace TypeMap

/-- Other spellings of type names, with the names that the catalog uses. -/
def aliases : List (String × String) :=
  [("int2", "smallint"),
    ("smallserial", "smallint"),
    ("serial2", "smallint"),
    ("int", "integer"),
    ("int4", "integer"),
    ("serial", "integer"),
    ("serial4", "integer"),
    ("int8", "bigint"),
    ("bigserial", "bigint"),
    ("serial8", "bigint"),
    ("decimal", "numeric"),
    ("float4", "real"),
    ("float8", "double precision"),
    ("float", "double precision"),
    ("varchar", "character varying"),
    ("char", "character"),
    ("bpchar", "character"),
    ("\"char\"", "character"),
    ("bool", "boolean"),
    ("varbit", "bit varying"),
    ("timestamp", "timestamp without time zone"),
    ("timestamptz", "timestamp with time zone"),
    ("time", "time without time zone"),
    ("timetz", "time with time zone")]

/-- The name that the catalog uses for a type. -/
def canonicalName (name : String) : String :=
  let normalized := normalizeTypeName name
  (aliases.lookup normalized).getD normalized

/-- The functions for character strings. -/
def strings : Expected :=
  ⟨[.text, .string], [.text, .string], true⟩

/-- The functions for arrays of character strings. -/
def stringArrays : Expected :=
  ⟨[.stringArray], [.stringArray], true⟩

/-- The functions for types without an entry. -/
def anything : Expected :=
  ⟨[.fieldValue], [.parameter], true⟩

/-- The functions for scalar types. Bit columns hold truth values in practice. -/
def scalars : List (String × Expected) :=
  [("smallint", ⟨[.int16], [.int16], true⟩),
    ("integer", ⟨[.int], [.int], true⟩),
    ("bigint", ⟨[.int64], [.int64], true⟩),
    ("numeric", ⟨[.decimal], [.decimal], true⟩),
    ("money", ⟨[.decimal], [.money, .decimal], true⟩),
    ("real", ⟨[.float, .double], [.double], true⟩),
    ("double precision", ⟨[.double], [.double], true⟩),
    ("text", strings),
    ("character varying", strings),
    ("character", strings),
    ("name", strings),
    ("citext", strings),
    ("xml", strings),
    ("boolean", ⟨[.bool], [.bool], true⟩),
    ("bit", ⟨[.bool], [.bit, .bool], true⟩),
    ("uuid", ⟨[.uuid], [.uuid], true⟩),
    ("bytea", ⟨[.bytea], [.bytea], true⟩),
    ("date", ⟨[.date, .dateTime], [.date], true⟩),
    ("timestamp without time zone", ⟨[.timestamp, .dateTime], [.timestamp], true⟩),
    ("timestamp with time zone",
      ⟨[.timestampTz, .dateTimeOffset, .dateTime], [.timestampTz], true⟩),
    ("time without time zone", ⟨[.time], [.time], true⟩),
    ("time with time zone", ⟨[.time], [.time], true⟩),
    ("interval", ⟨[.interval], [.interval], true⟩),
    ("json", ⟨[.text, .string, .json], [.jsonb], true⟩),
    ("jsonb", ⟨[.text, .string, .json], [.jsonb], true⟩),
    ("inet", ⟨[.inet], [.parameter], true⟩),
    ("cidr", ⟨[.inet], [.parameter], true⟩)]

/-- The functions for arrays, by the name of the element type. -/
def arrays : List (String × Expected) :=
  [("text", stringArrays),
    ("character varying", stringArrays),
    ("character", stringArrays),
    ("name", stringArrays),
    ("citext", stringArrays),
    ("smallint", ⟨[.intArray], [.intArray], true⟩),
    ("integer", ⟨[.intArray], [.intArray], true⟩),
    ("bigint", ⟨[.int64Array], [.int64Array], true⟩),
    ("numeric", ⟨[.decimalArray], [.decimalArray], true⟩),
    ("real", ⟨[.doubleArray], [.doubleArray], true⟩),
    ("double precision", ⟨[.doubleArray], [.doubleArray], true⟩),
    ("boolean", ⟨[.boolArray], [.boolArray], true⟩),
    ("bit", ⟨[.boolArray], [.boolArray], true⟩),
    ("uuid", ⟨[.uuidArray], [.uuidArray], true⟩)]

/-- The functions that fit a data type. -/
def expected (type : DataType) : Expected :=
  match type.element with
  | some element =>
    let entry :=
      if element.isEnum then some stringArrays else arrays.lookup (canonicalName type.name)
    match entry with
    | some functions => { functions with generic := false }
    | none => anything
  | none =>
    if type.isEnum then strings else (scalars.lookup (canonicalName type.name)).getD anything

end TypeMap

end QueryAudit
