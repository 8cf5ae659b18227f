import QueryAudit.Proofs.Introspection.Trace

/-!
# Schemas, tables and columns of a snapshot

Where the names of schemas and tables are texts that name one thing each, the snapshot lists the
rows of the catalogs: the schemas in order, under each its tables in order, under each of these its
columns in order. A row of a column stands under the table with its names and nowhere else.
-/

namespace QueryAudit

/-- An array is no type that it holds. -/
theorem DataType.arrayOf_ne (type : DataType) : arrayOf type ≠ type := by
  intro h
  have hsize := congrArg sizeOf h
  simp only [arrayOf, mk.sizeOf_spec, Option.some.sizeOf_spec] at hsize
  omega

/-- A value that is a text. Octets may stand for one, and are another key. -/
def Scalar.IsText (value : Scalar) : Prop :=
  ∃ s, value = .text s

theorem Scalar.IsText.eq_text {value : Scalar} {s : String} (h : value.IsText)
    (hs : value.text? = some s) : value = .text s := by
  obtain ⟨t, rfl⟩ := h
  obtain rfl : t = s := Option.some.inj hs
  rfl

namespace Introspection

variable {catalog : Catalog} {types : Types} {found : List (TableKey × Column)}
  {snapshot : Snapshot}

/-! ## Items by their keys -/

/-- Going through different keys, each item that has one of them is met once. -/
theorem flatMap_filter_perm {α κ : Type} [DecidableEq κ] (keyOf : α → κ) (items : List α)
    {keys : List κ} (h : keys.Nodup) :
    (keys.flatMap fun key => items.filter fun item => keyOf item = key).Perm
      (items.filter fun item => keys.any fun key => keyOf item = key) := by
  induction keys with
  | nil => simp
  | cons key rest ih =>
    obtain ⟨hnew, hrest⟩ := List.nodup_cons.mp h
    have hfirst : (items.filter fun item => (key :: rest).any fun key => keyOf item = key).filter
        (fun item => keyOf item = key) = items.filter fun item => keyOf item = key := by
      rw [List.filter_filter]
      refine List.filter_congr fun item _ => ?_
      by_cases hkey : keyOf item = key <;> simp [hkey]
    have hothers : (items.filter fun item => (key :: rest).any fun key => keyOf item = key).filter
        (fun item => !decide (keyOf item = key)) =
          items.filter fun item => rest.any fun key => keyOf item = key := by
      rw [List.filter_filter]
      refine List.filter_congr fun item _ => ?_
      by_cases hkey : keyOf item = key
      · have hunmet : (rest.any fun other => keyOf item = other) = false := by
          refine List.any_eq_false.mpr fun other hother hsame => ?_
          rw [← of_decide_eq_true hsame, hkey] at hother
          exact hnew hother
        rw [hunmet, decide_eq_true hkey, Bool.not_true, Bool.false_and]
      · simp [hkey]
    have hsplit := List.filter_append_perm (fun item => decide (keyOf item = key))
      (items.filter fun item => (key :: rest).any fun key => keyOf item = key)
    rw [hfirst, hothers] at hsplit
    rw [List.flatMap_cons]
    exact ((ih hrest).append_left _).trans hsplit

/-! ## Columns and tables of rows -/

/-- The column of a row, of the type with the number in the row. -/
structure ColumnOf (types : Types) (row : ColumnRow) (column : Column) : Prop where
  /-- The name is that of the row. -/
  name : row.name.text? = some column.name
  /-- Values may be null when the row says so. -/
  nullable : row.nullable.truth? = some column.nullable
  /-- The number in the table is that of the row. -/
  ordinal : row.ordinal.number? = some column.ordinal
  /-- Declared dimensions make an array of what is not one yet. -/
  wrapped_iff : column.dataType = .arrayOf (typeOf types row.typeOid) ↔
    row.dimensions.isPresent = true ∧ (typeOf types row.typeOid).isArray = false
  /-- Nothing else is done to the type. -/
  bare : column.dataType ≠ .arrayOf (typeOf types row.typeOid) →
    column.dataType = typeOf types row.typeOid

/-- The table of a row, with the columns of the rows that name it in the order of these rows. -/
structure TableOf (catalog : Catalog) (types : Types) (row : TableRow) (table : Table) :
    Prop where
  /-- The schema is that of the row. -/
  schemaName : row.schemaName = .text table.schemaName
  /-- The name is that of the row. -/
  name : row.name = .text table.name
  /-- The number is that of the row. -/
  oid : table.oid = row.oid.number?
  /-- The columns are those of the rows with the names of the table. -/
  columns : List.Forall₂ (ColumnOf types)
    (catalog.columns.filter fun columnRow => columnRow.tableKey = row.key) table.columns

theorem columnOf_of_column {row : ColumnRow} {result : Column}
    (h : column types row = .ok result) : ColumnOf types row result := by
  obtain ⟨hname, hnullable, hordinal, htype⟩ := column_eq_ok_iff.mp h
  have hcases : result.dataType =
      if row.dimensions.isPresent = true ∧ (typeOf types row.typeOid).isArray = false then
        .arrayOf (typeOf types row.typeOid)
      else typeOf types row.typeOid := by
    rw [htype, columnType]
    simp only [Bool.and_eq_true, Bool.not_eq_true']
  refine ⟨hname, hnullable, hordinal, ?_, ?_⟩
  · rw [hcases]
    split
    · rename_i hwrapped
      exact iff_of_true rfl hwrapped
    · rename_i hbare
      exact iff_of_false (DataType.arrayOf_ne _).symm hbare
  · rw [hcases]
    split
    · exact fun hne => absurd rfl hne
    · exact fun _ => rfl

theorem tableOf_of_table (hcolumns : columns types catalog.columns = .ok found) {row : TableRow}
    (hschemaText : row.schemaName.IsText) (hnameText : row.name.IsText) {result : Table}
    (h : table (Entries.group found) row = .ok result) : TableOf catalog types row result := by
  obtain ⟨hname, hschema, hoid, hown⟩ := table_eq_ok_iff.mp h
  refine ⟨hschemaText.eq_text hschema, hnameText.eq_text hname, ?_, ?_⟩
  · rcases Decoder.optional_scalar_eq_ok_iff.mp hoid with ⟨hnull, hnone⟩ | ⟨-, oid, hread, hsome⟩
    · rw [hnull, hnone]
      rfl
    · rw [hsome, Scalar.number?_eq_some_iff.mpr hread]
  · rw [hown]
    exact (columnsOf_related hcolumns hschema hname).imp fun _ _ => columnOf_of_column

/-! ## All rows -/

/-- Names of schemas and tables are texts, and each of them names one thing. -/
structure NamedOnce (catalog : Catalog) : Prop where
  /-- The names of the namespaces are texts. -/
  namespaceTexts : ∀ name ∈ catalog.namespaces, name.IsText
  /-- The names in the rows of tables are texts. -/
  tableTexts : ∀ row ∈ catalog.tables, row.schemaName.IsText ∧ row.name.IsText
  /-- No two namespaces have one name. -/
  namespaces : catalog.namespaces.Nodup
  /-- No two tables have one name in one schema. -/
  tables : (catalog.tables.map TableRow.key).Nodup

/-- The schemas of a database: the namespaces in order, and after them the schemas that only tables
name, in the order of their first tables. -/
def schemaNames (catalog : Catalog) : List Scalar :=
  catalog.namespaces ++ ((catalog.tables.map TableRow.schemaName).filter
    fun name => !catalog.namespaces.contains name).eraseDups

/-- A snapshot that lists the schemas, the tables and the columns of a database. -/
structure Lists (catalog : Catalog) (types : Types) (snapshot : Snapshot) : Prop where
  /-- The schemas are those of the database in order. -/
  schemas : snapshot.schemas.keys.map Scalar.text = schemaNames catalog
  /-- Every schema has its name, and holds the tables of its rows in order. -/
  tables : ∀ entry ∈ snapshot.schemas, entry.2.name = entry.1 ∧
    List.Forall₂ (fun row named => named.1 = named.2.name ∧ TableOf catalog types row named.2)
      (catalog.tables.filter fun row => row.schemaName = .text entry.1) entry.2.tables
  /-- Each row of a column that names a table is one column of one table. -/
  columns : ∃ rows, rows.Perm (catalog.columns.filter fun columnRow =>
      catalog.tables.any fun row => columnRow.tableKey = row.key) ∧
    List.Forall₂ (ColumnOf types) rows (snapshot.tables.flatMap Table.columns)

/-! ## What is filed -/

/-- The tables of all rows, filed under the schemas of a snapshot. -/
structure FiledAs (catalog : Catalog) (types : Types) (tables : List Table)
    (schemas : Entries String Schema) : Prop where
  /-- The tables are those of the rows in order. -/
  ofRows : List.Forall₂ (TableOf catalog types) catalog.tables tables
  /-- The schemas hold what has been filed under their names. -/
  ofFiled : List.Forall₂ (fun entry (named : String × Schema) => entry.1 = .text named.1 ∧
    named.2 = ⟨named.1, entry.2⟩) (filed catalog.namespaces tables) schemas

theorem Built.exists_filedAs (h : Built catalog types found snapshot) (hnamed : NamedOnce catalog) :
    ∃ tables, FiledAs catalog types tables snapshot.schemas := by
  obtain ⟨tables, htables, hschemas⟩ := h.exists_tables
  have hnames : ∀ entry ∈ filed catalog.namespaces tables, entry.1.IsText := by
    intro entry hentry
    have hkey : entry.1 ∈ (filed catalog.namespaces tables).keys := List.mem_map_of_mem hentry
    obtain hname | ⟨table, -, htable⟩ := mem_keys_filed hkey
    · exact hnamed.namespaceTexts entry.1 hname
    · exact ⟨table.schemaName, htable⟩
  refine ⟨tables, ?_, ?_⟩
  · refine ((List.forall₂_and_left _ _).mpr ⟨hnamed.tableTexts, htables⟩).imp ?_
    rintro row result ⟨⟨hschemaText, hnameText⟩, hresult⟩
    exact tableOf_of_table h.columns hschemaText hnameText hresult
  · refine ((List.forall₂_and_left _ _).mpr ⟨hnames, hschemas⟩).imp ?_
    rintro entry named ⟨htext, hname, hschema⟩
    exact ⟨htext.eq_text hname, hschema⟩

namespace FiledAs

variable {tables : List Table} {schemas : Entries String Schema}

theorem keys_eq (h : FiledAs catalog types tables schemas) :
    schemas.keys.map Scalar.text = (filed catalog.namespaces tables).keys := by
  rw [Entries.keys, Entries.keys, List.map_map]
  exact (map_eq_map_of_related h.ofFiled fun _ _ hentry => hentry.1).symm

theorem schemaNames_eq (h : FiledAs catalog types tables schemas) (hnamed : NamedOnce catalog) :
    schemas.keys.map Scalar.text = schemaNames catalog := by
  have hnames : catalog.tables.map TableRow.schemaName =
      tables.map fun table => Scalar.text table.schemaName :=
    map_eq_map_of_related h.ofRows fun _ _ htable => htable.schemaName
  have happart : catalog.namespaces.Pairwise fun name other => (name == other) = false := by
    refine hnamed.namespaces.imp_of_mem fun {name other} _ hother hne => ?_
    obtain ⟨s, rfl⟩ := hnamed.namespaceTexts other hother
    rw [Bool.eq_false_iff, ne_eq, Scalar.beq_text]
    exact hne
  rw [h.keys_eq, keys_filed tables happart, schemaNames, hnames]

/-- Rows with names of their own are tables with names of their own. -/
theorem nodup_names (h : FiledAs catalog types tables schemas) (hnamed : NamedOnce catalog) :
    (tables.map fun table => (table.schemaName, table.name)).Nodup := by
  have hkeys : catalog.tables.map TableRow.key =
      tables.map fun table => (Scalar.text table.schemaName, Scalar.text table.name) :=
    map_eq_map_of_related h.ofRows fun _ _ htable => Prod.ext htable.schemaName htable.name
  have hnodup := hnamed.tables
  rw [hkeys] at hnodup
  refine List.Nodup.of_map (Prod.map Scalar.text Scalar.text) ?_
  rwa [List.map_map]

/-- A schema holds the tables of its rows. -/
theorem tables_of_mem (h : FiledAs catalog types tables schemas) (hnamed : NamedOnce catalog)
    {entry : String × Schema} (hentry : entry ∈ schemas) :
    entry.2.name = entry.1 ∧
      List.Forall₂ (fun row named => named.1 = named.2.name ∧ TableOf catalog types row named.2)
        (catalog.tables.filter fun row => row.schemaName = .text entry.1) entry.2.tables := by
  obtain ⟨own, hown, hkey, hschema⟩ := exists_of_mem_right h.ofFiled hentry
  rw [hschema]
  refine ⟨rfl, ?_⟩
  rw [eq_map_of_mem_filed (h.nodup_names hnamed) hown, List.forall₂_map_right_iff, hkey]
  refine (List.rel_filter ?_ h.ofRows).imp fun _ _ htable => ⟨rfl, htable⟩
  intro row table htable
  change decide (row.schemaName = .text entry.1) = true ↔
    (Scalar.text entry.1 == .text table.schemaName) = true
  rw [decide_eq_true_iff, Scalar.beq_text, htable.schemaName, eq_comm]

/-- Going through the schemas, each row of a table is met once. -/
theorem tables_perm (h : FiledAs catalog types tables schemas) :
    (schemas.keys.flatMap fun name =>
      catalog.tables.filter fun row => row.schemaName = .text name).Perm catalog.tables := by
  -- Schemas are told apart by being filed under keys, not by the names in the catalogs.
  have hnodup : (schemas.keys.map Scalar.text).Nodup := by
    rw [h.keys_eq]
    refine List.Pairwise.imp (fun {key other} hne hsame => ?_) distinct_filed
    rw [hsame, BEq.rfl] at hne
    cases hne
  have hall : ∀ row ∈ catalog.tables,
      ((schemas.keys.map Scalar.text).any fun name => row.schemaName = name) = true := by
    intro row hrow
    obtain ⟨table, htable, hof⟩ := exists_of_mem_left h.ofRows hrow
    obtain ⟨entry, hentry, hkey⟩ := exists_mem_filed catalog.namespaces htable
    rw [h.keys_eq, List.any_eq_true]
    exact ⟨entry.1, List.mem_map_of_mem hentry, decide_eq_true (hof.schemaName.trans hkey.symm)⟩
  have hperm := flatMap_filter_perm TableRow.schemaName catalog.tables hnodup
  rwa [List.flatMap_map, List.filter_eq_self.mpr hall] at hperm

/-- The rows of the columns of all tables in turn, and the columns that are made of them. -/
theorem exists_columns (h : FiledAs catalog types tables schemas) (hnamed : NamedOnce catalog) :
    ∃ rows, rows.Perm (catalog.columns.filter fun columnRow =>
        catalog.tables.any fun row => columnRow.tableKey = row.key) ∧
      List.Forall₂ (ColumnOf types) rows
        ((schemas.flatMap fun entry => entry.2.tables.map Prod.snd).flatMap Table.columns) := by
  have htables : List.Forall₂ (TableOf catalog types)
      (schemas.keys.flatMap fun name =>
        catalog.tables.filter fun row => row.schemaName = .text name)
      (schemas.flatMap fun entry => entry.2.tables.map Prod.snd) := by
    have hself : List.Forall₂ (fun entry other => entry ∈ schemas ∧ entry = other) schemas schemas :=
      List.forall₂_same.mpr fun entry hentry => ⟨hentry, rfl⟩
    rw [Entries.keys, List.flatMap_map]
    refine List.rel_flatMap hself ?_
    rintro entry _ ⟨hentry, rfl⟩
    rw [List.forall₂_map_right_iff]
    exact (h.tables_of_mem hnamed hentry).2.imp fun _ _ hnamedTable => hnamedTable.2
  have hcolumns := flatMap_filter_perm ColumnRow.tableKey catalog.columns hnamed.tables
  rw [List.flatMap_map] at hcolumns
  simp only [List.any_map] at hcolumns
  exact ⟨_, (h.tables_perm.flatMap_right _).trans hcolumns,
    List.rel_flatMap htables fun _ _ htable => htable.columns⟩

end FiledAs

theorem Built.lists (h : Built catalog types found snapshot) (hnamed : NamedOnce catalog) :
    Lists catalog types snapshot := by
  obtain ⟨tables, hfiled⟩ := h.exists_filedAs hnamed
  exact ⟨hfiled.schemaNames_eq hnamed, fun entry => hfiled.tables_of_mem hnamed,
    hfiled.exists_columns hnamed⟩

/-- Where nothing fails, everything fits, and the names of schemas and tables are texts that name one
thing each, a snapshot is taken that lists the schemas, the tables and the columns. -/
theorem snapshot_lists (hrefusal : catalog.refusal = none) (hpasses : ∀ part, Passes catalog part)
    (hnamed : NamedOnce catalog) (dsn : String) :
    ∃ types snapshot, registry catalog.types (labelsRead catalog) = .ok types ∧
      (takeSnapshot catalog dsn).1 = .ok (.ok snapshot) ∧ Lists catalog types snapshot := by
  obtain ⟨snapshot, types, found, htaken, hbuilt⟩ :=
    exists_built_of_passes hrefusal hpasses dsn
  exact ⟨types, snapshot, hbuilt.registry, htaken, hbuilt.lists hnamed⟩

/-- A database of three tables in two schemas, of which one is no namespace. The columns of a table
are not next to each other, and one of them is of an unknown type. -/
def shop : Catalog where
  refusal := none
  closeFailure := none
  failure := fun _ => none
  types := [⟨.int 23, .text "int4", .text "b", .text "N", .int 0, .int 0⟩,
    ⟨.int 1007, .text "int4[]", .text "b", .text "A", .int 23, .int 0⟩]
  labels := []
  namespaces := [.text "public", .text "empty"]
  tables := [⟨.int 10, .text "users", .text "public"⟩, ⟨.int 11, .text "log", .text "audit"⟩,
    ⟨.int 12, .text "orders", .text "public"⟩]
  columns := [
    ⟨.text "public", .int 10, .text "users", .text "id", .int 23, .int 0, .bool false, .int 1⟩,
    ⟨.text "audit", .int 11, .text "log", .text "time", .int 99, .int 0, .bool true, .int 1⟩,
    ⟨.text "public", .int 10, .text "users", .text "codes", .int 1007, .int 1, .bool true, .int 2⟩]
  functions := []

theorem registry_shop :
    registry shop.types (labelsRead shop) =
      .ok [(.int 23, .scalar (TypeMap.canonicalName "int4")),
        (.int 1007, .arrayOf (.scalar (TypeMap.canonicalName "int4")))] :=
  rfl

theorem passes_shop (part : CatalogPart) : Passes shop part := by
  refine ⟨rfl, fits_of_registry registry_shop ?_ ?_ ?_ ?_ ?_ part⟩
  · simp [Entries.keys]
  · simp [shop, ColumnFits]
  · simp [shop]
  · simp [shop, TableFits]
  · simp [shop]

theorem namedOnce_shop : NamedOnce shop where
  namespaceTexts := by simp [shop, Scalar.IsText]
  tableTexts := by simp [shop, Scalar.IsText]
  namespaces := by decide
  tables := by decide

/-- The schema that only a table names comes after the namespaces. -/
theorem shop_lists :
    shop.refusal = none ∧ (∀ part, Passes shop part) ∧ NamedOnce shop ∧
      ∃ types snapshot, registry shop.types (labelsRead shop) = .ok types ∧
        (takeSnapshot shop "").1 = .ok (.ok snapshot) ∧ Lists shop types snapshot ∧
        snapshot.schemas.keys.map Scalar.text = [.text "public", .text "empty", .text "audit"] := by
  have hrefusal : shop.refusal = none := rfl
  obtain ⟨types, snapshot, htypes, htaken, hlists⟩ :=
    snapshot_lists hrefusal passes_shop namedOnce_shop ""
  have hnames : schemaNames shop = [.text "public", .text "empty", .text "audit"] := by decide
  exact ⟨hrefusal, passes_shop, namedOnce_shop, types, snapshot, htypes, htaken, hlists,
    hlists.schemas.trans hnames⟩

end Introspection

end QueryAudit
