import QueryAudit.Description
import QueryAudit.Snapshot
import QueryAudit.Proofs.Entries

/-!
# Types under other names

A change of type names, made at every depth of a type and of everything that has types in it. What a
type is apart from the names is its shape: how deep the arrays go, which types are enumerations, and
the labels of these.
-/

namespace QueryAudit

/-- The change that leaves nothing of a name. -/
def blank (_ : String) : String :=
  ""

namespace DataType

/-- A property of all types that have no element, and of the arrays of types that have it. -/
@[induction_eliminator]
theorem induction {P : DataType → Prop}
    (leaf : ∀ name isEnum labels, P ⟨name, none, isEnum, labels⟩)
    (array : ∀ name element isEnum labels, P element → P ⟨name, some element, isEnum, labels⟩)
    (type : DataType) : P type :=
  match type with
  | ⟨name, none, isEnum, labels⟩ => leaf name isEnum labels
  | ⟨name, some element, isEnum, labels⟩ =>
    array name element isEnum labels (induction leaf array element)

variable (f : String → String)

/-- The type with all its names changed. -/
def rename : DataType → DataType
  | ⟨name, element, isEnum, labels⟩ =>
    ⟨f name, match element with
      | some type => some (type.rename)
      | none => none, isEnum, labels⟩

theorem rename_eq (type : DataType) :
    type.rename f = ⟨f type.name, type.element.map (rename f), type.isEnum, type.enumValues⟩ := by
  obtain ⟨name, element, isEnum, labels⟩ := type
  cases element <;> simp [rename]

@[simp] theorem isArray_rename (type : DataType) : (type.rename f).isArray = type.isArray := by
  rw [rename_eq, isArray, Option.isSome_map, isArray]

/-- What a type is apart from its names. -/
def shape (type : DataType) : DataType :=
  type.rename blank

theorem shape_scalar (name : String) : (scalar name).shape = ⟨"", none, false, []⟩ :=
  rename_eq _ _

theorem shape_arrayOf (element : DataType) :
    (arrayOf element).shape = ⟨"", some element.shape, false, []⟩ :=
  rename_eq _ _

theorem shape_enumeration (name : String) (labels : List String) :
    (enumeration name labels).shape = ⟨"", none, true, labels⟩ :=
  rename_eq _ _

end DataType

variable (f : String → String)

/-- The column with the names in its type changed. -/
def Column.rename (column : Column) : Column :=
  { column with dataType := column.dataType.rename f }

/-- The table with the names in the types of its columns changed. -/
def Table.rename (table : Table) : Table :=
  { table with columns := table.columns.map (Column.rename f) }

/-- The schema with the names in the types of its columns changed. -/
def Schema.rename (schema : Schema) : Schema :=
  { schema with tables := Entries.mapValues (Table.rename f) schema.tables }

/-- The signature with the names in its types changed. -/
def Signature.rename (signature : Signature) : Signature :=
  { signature with
    parameterTypes := signature.parameterTypes.map (DataType.rename f)
    returnType := signature.returnType.rename f }

/-- The snapshot with the names in its types changed. Enumerations keep the names under which their
labels are found. -/
def Snapshot.rename (snapshot : Snapshot) : Snapshot :=
  { snapshot with
    schemas := Entries.mapValues (Schema.rename f) snapshot.schemas
    functions := Entries.mapValues (List.map (Signature.rename f)) snapshot.functions
    types := Entries.mapValues (DataType.rename f) snapshot.types }

/-- The parameter with the names in its type changed. -/
def Parameter.rename (parameter : Parameter) : Parameter :=
  { parameter with dataType := parameter.dataType.rename f }

/-- The result column with the names in its type changed. -/
def OutputColumn.rename (column : OutputColumn) : OutputColumn :=
  { column with dataType := column.dataType.rename f }

/-- The description with the names in its types changed. -/
def Description.rename (description : Description) : Description where
  parameters := description.parameters.map (Parameter.rename f)
  columns := description.columns.map (OutputColumn.rename f)

/-! ## Records that have regular types in them -/

section Regular

variable (P : DataType → Prop)

/-- The type of the column has the property. -/
def Column.Regular (column : Column) : Prop :=
  P column.dataType

/-- The types of all columns have the property. -/
def Table.Regular (table : Table) : Prop :=
  ∀ column ∈ table.columns, column.Regular P

/-- A schema with one table to a key, whose types all have the property. -/
def Schema.Regular (schema : Schema) : Prop :=
  schema.tables.Dictionary (Table.Regular P)

/-- The types of the parameters and of the result have the property. -/
structure Signature.Regular (signature : Signature) : Prop where
  /-- The types of the parameters. -/
  parameterTypes : ∀ type ∈ signature.parameterTypes, P type
  /-- The type of the result. -/
  returnType : P signature.returnType

/-- A snapshot with one entry to a key in each of its dictionaries, whose types all have the
property. -/
structure Snapshot.Regular (snapshot : Snapshot) : Prop where
  /-- The schemas. -/
  schemas : snapshot.schemas.Dictionary (Schema.Regular P)
  /-- The enumerations. -/
  enums : snapshot.enums.Dictionary fun _ => True
  /-- The functions. -/
  functions : snapshot.functions.Dictionary fun overloads =>
    ∀ signature ∈ overloads, signature.Regular P
  /-- The types. -/
  types : snapshot.types.Dictionary P

/-- The type of the parameter has the property. -/
def Parameter.Regular (parameter : Parameter) : Prop :=
  P parameter.dataType

/-- The type of the result column has the property. -/
def OutputColumn.Regular (column : OutputColumn) : Prop :=
  P column.dataType

/-- The types of the parameters and of the result columns have the property. -/
structure Description.Regular (description : Description) : Prop where
  /-- The parameters. -/
  parameters : ∀ parameter ∈ description.parameters, parameter.Regular P
  /-- The result columns. -/
  columns : ∀ column ∈ description.columns, column.Regular P

end Regular

/-! Names that do not change leave a record as it is. -/

section Unchanged

variable {f : String → String}

theorem map_eq_self {α : Type} {g : α → α} {values : List α}
    (h : ∀ value ∈ values, g value = value) : values.map g = values := by
  rw [List.map_congr_left h, List.map_id']

theorem Entries.mapValues_eq_self {κ α : Type} [BEq κ] {g : α → α} {P : α → Prop}
    {entries : Entries κ α} (h : entries.Dictionary P) (hg : ∀ value, P value → g value = value) :
    mapValues g entries = entries :=
  map_eq_self fun entry hentry => Prod.ext rfl (hg entry.2 (h.values entry hentry))

theorem Column.rename_eq_self {column : Column}
    (h : column.Regular fun type => type.rename f = type) : column.rename f = column := by
  rw [rename, h]

theorem Table.rename_eq_self {table : Table} (h : table.Regular fun type => type.rename f = type) :
    table.rename f = table := by
  rw [rename, map_eq_self fun column hcolumn => Column.rename_eq_self (h column hcolumn)]

theorem Schema.rename_eq_self {schema : Schema}
    (h : schema.Regular fun type => type.rename f = type) : schema.rename f = schema := by
  rw [rename, Entries.mapValues_eq_self h fun _ => Table.rename_eq_self]

theorem Signature.rename_eq_self {signature : Signature}
    (h : signature.Regular fun type => type.rename f = type) :
    signature.rename f = signature := by
  rw [rename, map_eq_self h.parameterTypes, h.returnType]

theorem Snapshot.rename_eq_self {snapshot : Snapshot}
    (h : snapshot.Regular fun type => type.rename f = type) : snapshot.rename f = snapshot := by
  rw [rename, Entries.mapValues_eq_self h.schemas fun _ => Schema.rename_eq_self,
    Entries.mapValues_eq_self h.functions fun _ hsignatures =>
      map_eq_self fun signature hsignature =>
        Signature.rename_eq_self (hsignatures signature hsignature),
    Entries.mapValues_eq_self h.types fun _ htype => htype]

theorem Parameter.rename_eq_self {parameter : Parameter}
    (h : parameter.Regular fun type => type.rename f = type) :
    parameter.rename f = parameter := by
  rw [rename, h]

theorem OutputColumn.rename_eq_self {column : OutputColumn}
    (h : column.Regular fun type => type.rename f = type) : column.rename f = column := by
  rw [rename, h]

theorem Description.rename_eq_self {description : Description}
    (h : description.Regular fun type => type.rename f = type) :
    description.rename f = description := by
  rw [rename, map_eq_self fun parameter hparameter =>
      Parameter.rename_eq_self (h.parameters parameter hparameter),
    map_eq_self fun column hcolumn => OutputColumn.rename_eq_self (h.columns column hcolumn)]

end Unchanged

end QueryAudit
