import QueryAudit.DataType

/-!
# Snapshots of a database

The schemas of a database with their tables and columns, its enumerations, the signatures of its
functions, and its types by their catalog numbers. A snapshot is taken once and only looked up
afterwards.
-/

namespace QueryAudit

/-- A column of a table. -/
structure Column where
  /-- The name, as the catalog spells it. -/
  name : String
  /-- The type of the values. -/
  dataType : DataType
  /-- Whether values may be null. -/
  nullable : Bool
  /-- The number of the column in its table. -/
  ordinal : Int
  deriving BEq

/-- A table or view, with its columns in catalog order. -/
structure Table where
  /-- The name, as the catalog spells it. -/
  name : String
  /-- The schema that holds the table. -/
  schemaName : String
  /-- The catalog number. -/
  oid : Option Int
  /-- The columns. -/
  columns : List Column
  deriving BEq

/-- A schema with its tables by name. -/
structure Schema where
  /-- The name of the schema. -/
  name : String
  /-- The tables. -/
  tables : Entries String Table

/-- One overload of a function that a user defined. -/
structure Signature where
  /-- The name, as the catalog spells it. -/
  name : String
  /-- The schema that holds the function. -/
  schemaName : String
  /-- The names of the parameters, where they have one. -/
  parameterNames : List (Option String)
  /-- The types of the parameters. -/
  parameterTypes : List DataType
  /-- The type of the result. -/
  returnType : DataType
  /-- Whether a call returns a set of rows. -/
  returnsSet : Bool
  /-- Whether a call returns a row of several values. -/
  returnsComposite : Bool
  deriving BEq

/-- A database at one point in time. -/
structure Snapshot where
  /-- The schemas by name. -/
  schemas : Entries String Schema
  /-- The labels of the enumerations by type name. -/
  enums : Entries String (List String)
  /-- The overloads of every function by its lower-case name. -/
  functions : Entries String (List Signature)
  /-- The types by catalog number. -/
  types : Entries Int DataType

/-- The order of the tables does not count. -/
instance : BEq Schema where
  beq left right := left.name == right.name && Entries.alike (· == ·) left.tables right.tables

/-- The order of the entries does not count. -/
instance : BEq Snapshot where
  beq left right :=
    Entries.alike (· == ·) left.schemas right.schemas &&
      Entries.alike (· == ·) left.enums right.enums &&
      Entries.alike (· == ·) left.functions right.functions &&
      Entries.alike (· == ·) left.types right.types

namespace Column

/-- The names of the fields of a written column. -/
def fieldNames : List String :=
  ["name", "data_type", "nullable", "ordinal_position"]

/-- Decode a column. -/
def decode : Decoder Column := Decoder.record fun fields =>
  (fun name dataType nullable ordinal (_ : Unit) => ⟨name, dataType, nullable, ordinal⟩) <$>
    fields.required "name" Decoder.text <*>
    fields.required "data_type" DataType.decode <*>
    fields.withDefault "nullable" true Decoder.bool <*>
    fields.required "ordinal_position" Decoder.int <*>
    fields.only fieldNames

/-- The column as a document. -/
def encode (column : Column) : Document :=
  Document.record
    [("name", some (.text column.name)),
      ("data_type", some column.dataType.encode),
      ("nullable", some (.bool column.nullable)),
      ("ordinal_position", some (.int column.ordinal))]

end Column

namespace Table

/-- The first column with the given name. -/
def column? (table : Table) (name : String) : Option Column :=
  table.columns.find? (·.name == name)

/-- The first column with the given number. -/
def columnAt? (table : Table) (ordinal : Int) : Option Column :=
  table.columns.find? (·.ordinal == ordinal)

/-- The names of the fields of a written table. -/
def fieldNames : List String :=
  ["name", "schema_name", "oid", "columns"]

/-- Decode a table. -/
def decode : Decoder Table := Decoder.record fun fields =>
  (fun name schemaName oid columns (_ : Unit) => ⟨name, schemaName, oid, columns⟩) <$>
    fields.required "name" Decoder.text <*>
    fields.required "schema_name" Decoder.text <*>
    fields.optional "oid" Decoder.int <*>
    fields.withDefault "columns" [] (Decoder.list Column.decode) <*>
    fields.only fieldNames

/-- The table as a document. -/
def encode (table : Table) : Document :=
  Document.record
    [("name", some (.text table.name)),
      ("schema_name", some (.text table.schemaName)),
      ("oid", table.oid.map Document.int),
      ("columns", some (.list (table.columns.map Column.encode)))]

end Table

namespace Schema

/-- The names of the fields of a written schema. -/
def fieldNames : List String :=
  ["name", "tables"]

/-- Decode a schema. -/
def decode : Decoder Schema := Decoder.record fun fields =>
  (fun name tables (_ : Unit) => ⟨name, tables⟩) <$>
    fields.required "name" Decoder.text <*>
    fields.withDefault "tables" [] (Decoder.texts Table.decode) <*>
    fields.only fieldNames

/-- The schema as a document. -/
def encode (schema : Schema) : Document :=
  Document.record
    [("name", some (.text schema.name)),
      ("tables",
        some (.object (schema.tables.map fun (name, table) => (.text name, table.encode))))]

end Schema

namespace Signature

/-- The number of parameters. -/
def arity (signature : Signature) : Nat :=
  signature.parameterTypes.length

/-- The names of the fields of a written signature. -/
def fieldNames : List String :=
  ["name", "schema_name", "parameter_names", "parameter_types", "return_type", "returns_set",
    "returns_composite"]

/-- Decode a signature. -/
def decode : Decoder Signature := Decoder.record fun fields =>
  (fun name schemaName names types returnType returnsSet returnsComposite (_ : Unit) =>
      ⟨name, schemaName, names, types, returnType, returnsSet, returnsComposite⟩) <$>
    fields.required "name" Decoder.text <*>
    fields.required "schema_name" Decoder.text <*>
    fields.withDefault "parameter_names" [] (Decoder.list (Decoder.optional Decoder.text)) <*>
    fields.withDefault "parameter_types" [] (Decoder.list DataType.decode) <*>
    fields.required "return_type" DataType.decode <*>
    fields.withDefault "returns_set" false Decoder.bool <*>
    fields.withDefault "returns_composite" false Decoder.bool <*>
    fields.only fieldNames

/-- A parameter name as a document; a parameter may have none. -/
def encodeName : Option String → Document
  | some name => .text name
  | none => .null

/-- The signature as a document. -/
def encode (signature : Signature) : Document :=
  Document.record
    [("name", some (.text signature.name)),
      ("schema_name", some (.text signature.schemaName)),
      ("parameter_names", some (.list (signature.parameterNames.map encodeName))),
      ("parameter_types", some (.list (signature.parameterTypes.map DataType.encode))),
      ("return_type", some signature.returnType.encode),
      ("returns_set", some (.bool signature.returnsSet)),
      ("returns_composite", some (.bool signature.returnsComposite))]

end Signature

namespace Snapshot

/-- The schema whose tables are meant when no schema is named. -/
def defaultSchema : String := "public"

/-- The table with the given name in the given schema. -/
def table? (snapshot : Snapshot) (schemaName name : String) : Option Table :=
  (snapshot.schemas.get? schemaName).bind fun schema => schema.tables.get? name

/-- All tables, schema by schema. -/
def tables (snapshot : Snapshot) : List Table :=
  snapshot.schemas.flatMap fun entry => entry.2.tables.map Prod.snd

/-- The tables by catalog number. Of several tables with one number the last one counts, at the
place of the first. -/
def tablesByOid (snapshot : Snapshot) : Entries Int Table :=
  Entries.ofList (snapshot.tables.filterMap fun table => table.oid.map fun oid => (oid, table))

/-- The table with the given catalog number. -/
def tableByOid? (snapshot : Snapshot) (oid : Int) : Option Table :=
  snapshot.tablesByOid.get? oid

/-- The type with the given catalog number. -/
def typeByOid? (snapshot : Snapshot) (oid : Int) : Option DataType :=
  snapshot.types.get? oid

/-- The overloads of a function; the letter case of the name does not count. -/
def overloads (snapshot : Snapshot) (name : String) : List Signature :=
  (snapshot.functions.get? (Text.lowered name)).getD []

/-- The names of the fields of a written snapshot. -/
def fieldNames : List String :=
  ["schemas", "enums", "functions", "types"]

/-- Decode a snapshot. -/
def decode : Decoder Snapshot := Decoder.record fun fields =>
  (fun schemas enums functions types (_ : Unit) => ⟨schemas, enums, functions, types⟩) <$>
    fields.withDefault "schemas" [] (Decoder.texts Schema.decode) <*>
    fields.withDefault "enums" [] (Decoder.texts (Decoder.list Decoder.text)) <*>
    fields.withDefault "functions" [] (Decoder.texts (Decoder.list Signature.decode)) <*>
    fields.withDefault "types" [] (Decoder.ints DataType.decode) <*>
    fields.only fieldNames

/-- The snapshot as a document. -/
def encode (snapshot : Snapshot) : Document :=
  Document.record
    [("schemas",
        some (.object (snapshot.schemas.map fun (name, schema) => (.text name, schema.encode)))),
      ("enums",
        some (.object (snapshot.enums.map fun (name, labels) => (.text name, .texts labels)))),
      ("functions", some (.object (snapshot.functions.map fun (name, signatures) =>
        (.text name, .list (signatures.map Signature.encode))))),
      ("types", some (.object (snapshot.types.map fun (oid, type) => (.int oid, type.encode))))]

end Snapshot

end QueryAudit
