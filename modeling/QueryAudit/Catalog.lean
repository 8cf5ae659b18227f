import QueryAudit.Snapshot

/-!
# The catalogs of a database

The rows that the catalogs hold, with values as they come: a snapshot takes integers for catalog
numbers and texts for names, the catalogs promise neither. A catalog is read over a connection of
its own; the list of what happens on that connection is part of every result.
-/

namespace QueryAudit

/-- The catalogs that are read. -/
inductive CatalogPart where
  /-- The types. -/
  | types
  /-- The labels of enumerations. -/
  | enums
  /-- The columns of tables. -/
  | columns
  /-- The schemas. -/
  | namespaces
  /-- The tables and views. -/
  | tables
  /-- The functions of users. -/
  | functions
  deriving DecidableEq

/-- The name of a catalog. -/
def CatalogPart.name : CatalogPart → String
  | .types => "types"
  | .enums => "enums"
  | .columns => "columns"
  | .namespaces => "namespaces"
  | .tables => "tables"
  | .functions => "functions"

/-- A type. -/
structure TypeRow where
  /-- The catalog number. -/
  oid : Scalar
  /-- The name, as the catalog spells it. -/
  name : Scalar
  /-- The kind: `d` for a domain, `e` for an enumeration. -/
  kind : Scalar
  /-- The category: `A` for arrays. -/
  category : Scalar
  /-- The number of the element type, 0 when there is none. -/
  element : Scalar
  /-- The number of the type under a domain, 0 when there is none. -/
  base : Scalar
  deriving DecidableEq

/-- A label of an enumeration. -/
structure LabelRow where
  /-- The catalog number of the enumeration. -/
  oid : Scalar
  /-- The label. -/
  label : Scalar
  deriving DecidableEq

/-- A table or view. -/
structure TableRow where
  /-- The catalog number. -/
  oid : Scalar
  /-- The name. -/
  name : Scalar
  /-- The schema that holds the table. -/
  schemaName : Scalar
  deriving DecidableEq

/-- A column of a table. -/
structure ColumnRow where
  /-- The schema that holds the table. -/
  schemaName : Scalar
  /-- The catalog number of the table. -/
  tableOid : Scalar
  /-- The name of the table. -/
  tableName : Scalar
  /-- The name of the column. -/
  name : Scalar
  /-- The catalog number of the type. -/
  typeOid : Scalar
  /-- The declared number of array dimensions. -/
  dimensions : Scalar
  /-- Whether values may be null. -/
  nullable : Scalar
  /-- The number of the column in its table. -/
  ordinal : Scalar
  deriving DecidableEq

/-- A function. -/
structure FunctionRow where
  /-- The schema that holds the function. -/
  schemaName : Scalar
  /-- The name. -/
  name : Scalar
  /-- The catalog numbers of the types of the input arguments. -/
  argumentTypes : Option (List Scalar)
  /-- The names of all arguments. -/
  argumentNames : Option (List Scalar)
  /-- The modes of all arguments; absent when all are inputs. -/
  argumentModes : Option (List Scalar)
  /-- The catalog number of the type of the result. -/
  returnType : Scalar
  /-- Whether a call returns a set. -/
  returnsSet : Scalar
  /-- The kind of the type of the result. -/
  returnKind : Scalar
  deriving DecidableEq

/-- The catalogs of a database, with what goes wrong on the way to them. -/
structure Catalog where
  /-- The message with which connections are refused, if they are. -/
  refusal : Option String
  /-- The message with which closing a connection fails, if it does. -/
  closeFailure : Option String
  /-- The message with which reading a catalog fails, if it does. -/
  failure : CatalogPart → Option String
  /-- The types. -/
  types : List TypeRow
  /-- The labels of the enumerations, in order. -/
  labels : List LabelRow
  /-- The names of the schemas. -/
  namespaces : List Scalar
  /-- The tables and views. -/
  tables : List TableRow
  /-- The columns, table by table. -/
  columns : List ColumnRow
  /-- The functions. -/
  functions : List FunctionRow

/-- What happens on the connection to the catalogs. -/
inductive CatalogEvent where
  /-- The connection is opened. -/
  | connect (dsn : String)
  /-- The session is set to read only, every statement committing by itself. -/
  | readOnlySession
  /-- A catalog is read, with the parameters of the reading statement if it has any. -/
  | read (part : CatalogPart) (parameters : Option (List (Option String)))
  /-- The connection is closed. -/
  | close
  deriving DecidableEq

/-- What ends a reading early. -/
inductive CatalogHalt where
  /-- The database fails with a message. -/
  | failed (message : String)
  /-- A row does not fit the snapshot. -/
  | invalid (issues : List Issue)
  /-- A name is of the given class and not a text, where an operation on texts is due. -/
  | nameless (className operation : String)
  deriving DecidableEq

/-- A reading of catalogs: a result or what ended it, and the events so far. -/
abbrev CatalogM := ExceptT CatalogHalt (StateM (List CatalogEvent))

namespace CatalogM

/-- Note an event. -/
def emit (event : CatalogEvent) : CatalogM Unit :=
  modify (· ++ [event])

/-- Run a reading on a fresh connection, which has no events yet. -/
def start {α : Type} (reading : CatalogM α) : Except CatalogHalt α × List CatalogEvent :=
  (ExceptT.run reading).run []

end CatalogM

namespace Catalog

/-- Read rows of a catalog, unless reading it fails. -/
def read {α : Type} (catalog : Catalog) (part : CatalogPart)
    (parameters : Option (List (Option String))) (rows : Catalog → α) : CatalogM α := do
  CatalogM.emit (.read part parameters)
  match catalog.failure part with
  | some message => throw (.failed message)
  | none => return rows catalog

/-- Read all types. -/
def readTypes (catalog : Catalog) : CatalogM (List TypeRow) :=
  catalog.read .types none Catalog.types

/-- Read the labels of the enumerations by catalog number. -/
def readLabels (catalog : Catalog) : CatalogM (Entries Scalar (List Scalar)) := do
  let rows ← catalog.read .enums none Catalog.labels
  return Entries.group (rows.map fun row => (row.oid, row.label))

/-- Read the names of the schemas. -/
def readNamespaces (catalog : Catalog) : CatalogM (List Scalar) :=
  catalog.read .namespaces none Catalog.namespaces

/-- Read the tables, of one schema or of all. -/
def readTables (catalog : Catalog) (schemaName : Option String) : CatalogM (List TableRow) :=
  catalog.read .tables (some [schemaName, schemaName]) Catalog.tables

/-- Read the columns, of one table or of all, in one schema or in all. -/
def readColumns (catalog : Catalog) (tableName schemaName : Option String) :
    CatalogM (List ColumnRow) :=
  catalog.read .columns (some [tableName, tableName, schemaName, schemaName]) Catalog.columns

/-- Read the functions. -/
def readFunctions (catalog : Catalog) : CatalogM (List FunctionRow) :=
  catalog.read .functions none Catalog.functions

/-- Open a connection and set its session. -/
def connect (catalog : Catalog) (dsn : String) : CatalogM Unit := do
  CatalogM.emit (.connect dsn)
  match catalog.refusal with
  | some message => throw (.failed message)
  | none => CatalogM.emit .readOnlySession

/-- Close the connection. A failure to close is passed over. -/
def close (catalog : Catalog) : CatalogM Unit := do
  CatalogM.emit .close
  match catalog.closeFailure with
  | some _ => return ()
  | none => return ()

/-- Read over a connection that is closed afterwards, however the reading ends. -/
def overConnection {α : Type} (catalog : Catalog) (dsn : String) (reading : CatalogM α) :
    CatalogM α := do
  catalog.connect dsn
  tryFinally reading catalog.close

end Catalog

end QueryAudit
