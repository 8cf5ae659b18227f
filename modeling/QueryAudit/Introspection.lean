import QueryAudit.Catalog
import QueryAudit.TypeMap

/-!
# Introspection

Building the snapshot of a database from its catalogs. Types are resolved along the links from
domains to their bases and from arrays to their elements; what was resolved is kept, and a chain of
links that is too long, or runs in a circle, ends in an unknown type. Columns are grouped by the
names of schema and table, and functions by their lower-case names.
-/

namespace QueryAudit.Introspection

/-- The greatest number of links that are followed from one type. -/
def linkLimit : Nat := 16

/-- A link from one type to another. -/
inductive Link where
  /-- From a domain to the type under it. -/
  | base (oid : Scalar)
  /-- From an array to its element. -/
  | element (oid : Scalar)
  deriving DecidableEq

/-- The link that leaves a type. -/
def TypeRow.link? (row : TypeRow) : Option Link :=
  if row.kind = .text "d" ∧ row.base.isPresent then some (.base row.base)
  else if row.category = .text "A" ∧ row.element.isPresent then some (.element row.element)
  else none

/-- A checked value. Its issues end the building. -/
def fitted {α : Type} : Checked α → Except CatalogHalt α
  | .ok value => .ok value
  | .bad issues => .error (.invalid issues)

/-- The name of a type, which has to be a text. -/
def typeName (name : Scalar) : Except CatalogHalt String :=
  match name with
  | .text s => .ok s
  | other => .error (.nameless other.className "strip")

/-- The type of a row without a link: an enumeration with its labels, or a plain type. -/
def leafType (labels : Entries Scalar (List Scalar)) (row : TypeRow) :
    Except CatalogHalt DataType :=
  if row.kind = .text "e" then
    fitted (DataType.decodeEnumeration (.scalar row.name)
      (((labels.get? row.oid).getD []).map .scalar))
  else (fun name => .scalar (TypeMap.canonicalName name)) <$> typeName row.name

/-- The types that have been resolved, by their numbers. -/
abbrev Types := Entries Scalar DataType

/-- The type with the given number, and what has been resolved by then. -/
def resolve (rows : Entries Scalar TypeRow) (labels : Entries Scalar (List Scalar)) (links : Nat)
    (oid : Scalar) (resolved : Types) : Except CatalogHalt (DataType × Types) :=
  match resolved.get? oid, rows.get? oid, links with
  | some type, _, _ => .ok (type, resolved)
  | none, none, _ => .ok (.unknown, resolved)
  | none, some _, 0 => .ok (.unknown, resolved)
  | none, some row, links + 1 => do
    let (type, resolved) ←
      match TypeRow.link? row with
      | some (.base base) => resolve rows labels links base resolved
      | some (.element element) => do
        let (type, resolved) ← resolve rows labels links element resolved
        pure (DataType.arrayOf type, resolved)
      | none => do
        let type ← leafType labels row
        pure (type, resolved)
    return (type, resolved.put oid type)

/-- Resolve types one after the other. -/
def resolveAll (rows : Entries Scalar TypeRow) (labels : Entries Scalar (List Scalar)) :
    List Scalar → Types → Except CatalogHalt Types
  | [], resolved => .ok resolved
  | oid :: rest, resolved => do
    let (_, resolved) ← resolve rows labels (linkLimit + 1) oid resolved
    resolveAll rows labels rest resolved

/-- The rows of types by their numbers. -/
def rowsByOid (rows : List TypeRow) : Entries Scalar TypeRow :=
  Entries.ofList (rows.map fun row => (row.oid, row))

/-- The types of the database by their numbers. -/
def registry (rows : List TypeRow) (labels : Entries Scalar (List Scalar)) :
    Except CatalogHalt Types :=
  resolveAll (rowsByOid rows) labels (rowsByOid rows).keys []

/-- The type with a number; unknown when there is none. -/
def typeOf (types : Types) (oid : Scalar) : DataType :=
  (types.get? oid).getD .unknown

/-- The type of a column: declared dimensions make an array of what is not one yet. -/
def columnType (types : Types) (row : ColumnRow) : DataType :=
  let type := typeOf types row.typeOid
  if row.dimensions.isPresent && !type.isArray then .arrayOf type else type

/-- The column of a row. -/
def column (types : Types) (row : ColumnRow) : Checked Column :=
  (fun name nullable ordinal => ⟨name, columnType types row, nullable, ordinal⟩) <$>
    (Decoder.text (.scalar row.name)).below (.key "name") <*>
    (Decoder.bool (.scalar row.nullable)).below (.key "nullable") <*>
    (Decoder.int (.scalar row.ordinal)).below (.key "ordinal_position")

/-- The names of schema and table, by which columns find their table. -/
abbrev TableKey := Scalar × Scalar

/-- The columns of the database, each under the key of its table. -/
def columns (types : Types) (rows : List ColumnRow) :
    Except CatalogHalt (List (TableKey × Column)) :=
  rows.mapM fun row =>
    (fun column => ((row.schemaName, row.tableName), column)) <$> fitted (column types row)

/-- The table of a row. -/
def table (columns : Entries TableKey (List Column)) (row : TableRow) : Checked Table :=
  let own := (columns.get? (row.schemaName, row.name)).getD []
  (fun name schemaName oid => ⟨name, schemaName, oid, own⟩) <$>
    (Decoder.text (.scalar row.name)).below (.key "name") <*>
    (Decoder.text (.scalar row.schemaName)).below (.key "schema_name") <*>
    (Decoder.optional Decoder.int (.scalar row.oid)).below (.key "oid")

/-- A schema of the given name. -/
def schema (entry : Scalar × Entries String Table) : Checked Schema :=
  (fun name => ⟨name, entry.2⟩) <$> (Decoder.text (.scalar entry.1)).below (.key "name")

/-- File a table under its schema, which is new if no namespace has its name. -/
def fileTable (schemas : Entries Scalar (Entries String Table)) (table : Table) :
    Entries Scalar (Entries String Table) :=
  schemas.update (.text table.schemaName) [] fun tables => tables.put table.name table

/-- The namespaces, in which no tables have been filed yet. -/
def emptySchemas (namespaces : List Scalar) : Entries Scalar (Entries String Table) :=
  Entries.ofList (namespaces.map fun name => (name, []))

/-- The schemas of the database: the namespaces in order, then schemas that only tables name. -/
def schemas (columns : Entries TableKey (List Column)) (namespaces : List Scalar)
    (rows : List TableRow) : Except CatalogHalt (Entries String Schema) := do
  let tables ← rows.mapM fun row => fitted (table columns row)
  let schemas ← (tables.foldl fileTable (emptySchemas namespaces)).mapM fun entry =>
    fitted (schema entry)
  return schemas.map fun schema => (schema.name, schema)

/-- The modes of arguments that a caller passes. -/
def inputModes : List Scalar :=
  [.text "i", .text "b", .text "v"]

/-- The names of the input arguments. Without modes all arguments are inputs. -/
def inputNames (row : FunctionRow) : List Scalar :=
  let names := row.argumentNames.getD []
  match row.argumentModes.getD [] with
  | [] => names
  | modes => ((names.zip modes).filter fun pair => inputModes.contains pair.2).map Prod.fst

/-- One name for each of `count` parameters; an empty name is none. -/
def parameterNames (count : Nat) (names : List Scalar) : Checked (List (Option String)) :=
  let named := (names ++ List.replicate count Scalar.null).take count
  Checked.itemsFrom
    (fun name => Decoder.optional Decoder.text (.scalar (if name.isPresent then name else .null)))
    0 named

/-- The signature of a row. -/
def signature (types : Types) (row : FunctionRow) : Checked Signature :=
  let argumentTypes := row.argumentTypes.getD []
  (fun name schemaName parameterNames returnsSet =>
      { name, schemaName, parameterNames, returnsSet
        parameterTypes := argumentTypes.map (typeOf types)
        returnType := typeOf types row.returnType
        returnsComposite := row.returnKind == .text "c" || row.returnKind == .text "p" }) <$>
    (Decoder.text (.scalar row.name)).below (.key "name") <*>
    (Decoder.text (.scalar row.schemaName)).below (.key "schema_name") <*>
    (parameterNames argumentTypes.length (inputNames row)).below (.key "parameter_names") <*>
    (Decoder.bool (.scalar row.returnsSet)).below (.key "returns_set")

/-- The signature of a row, under the lower case of its name, which has to be a text. -/
def namedSignature (types : Types) (row : FunctionRow) : Except CatalogHalt (String × Signature) :=
  match row.name with
  | .text name => (fun signature => (Text.lowered name, signature)) <$> fitted (signature types row)
  | other => .error (.nameless other.className "lower")

/-- The functions of the database by their lower-case names. -/
def functions (types : Types) (rows : List FunctionRow) :
    Except CatalogHalt (Entries String (List Signature)) :=
  Entries.group <$> rows.mapM (namedSignature types)

/-- The labels of the enumerations among the types by their names. -/
def enums (types : Types) : Entries String (List String) :=
  Entries.ofList (types.filterMap fun (_, type) =>
    if type.isEnum && !type.isArray then some (type.name, type.enumValues) else none)

/-- The types by their numbers, which have to be integers. -/
def numbered (types : Types) : Checked (Entries Int DataType) :=
  (Decoder.keys (fun oid => Decoder.int (.scalar oid)) types).below (.key "types")

/-- The snapshot of a database. What has been read is checked before anything else is read. -/
def snapshot (catalog : Catalog) : CatalogM Snapshot := do
  let typeRows ← catalog.readTypes
  let labels ← catalog.readLabels
  let types ← registry typeRows labels
  let columnRows ← catalog.readColumns none none
  let columns ← columns types columnRows
  let namespaces ← catalog.readNamespaces
  let tableRows ← catalog.readTables none
  let schemas ← schemas (Entries.group columns) namespaces tableRows
  let functionRows ← catalog.readFunctions
  let functions ← functions types functionRows
  let numbered ← fitted (numbered types)
  return ⟨schemas, enums types, functions, numbered⟩

/-- The message of a failure; one without text is named by its class. -/
def failureMessage (message : String) : String :=
  let trimmed := Text.trimmed message
  if trimmed = "" then "OperationalError" else trimmed

/-- What comes of a reading: a failure of the database is a result, and a row that does not fit
escapes. -/
def outcome : Except CatalogHalt Snapshot → Except CatalogHalt (Except String Snapshot)
  | .ok snapshot => .ok (.ok snapshot)
  | .error (.failed message) => .ok (.error (failureMessage message))
  | .error halt => .error halt

/-- Connect to a database and take its snapshot. -/
def takeSnapshot (catalog : Catalog) (dsn : String) :
    Except CatalogHalt (Except String Snapshot) × List CatalogEvent :=
  let (result, events) := (catalog.overConnection dsn (snapshot catalog)).start
  (outcome result, events)

end QueryAudit.Introspection
