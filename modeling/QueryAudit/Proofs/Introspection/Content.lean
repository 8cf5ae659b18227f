import QueryAudit.Proofs.Introspection.Fitting

/-!
# What a snapshot holds

A snapshot that is built from all rows of the catalogs has something for each of them: the types are
in the registry, the tables are in their schemas, the columns are in their tables.
-/

namespace QueryAudit.Introspection

variable {catalog : Catalog} {types : Types} {found : List (TableKey × Column)}
  {snapshot : Snapshot}

/-- Two tables whose names stand for the same texts have the same names. Octets may stand for the
text of another name. -/
def NamedApart (catalog : Catalog) : Prop :=
  ∀ row ∈ catalog.tables, ∀ other ∈ catalog.tables,
    row.schemaName.text? = other.schemaName.text? → row.name.text? = other.name.text? →
      row.schemaName = other.schemaName ∧ row.name = other.name

/-- No row of the catalogs is missing from the snapshot. -/
structure Complete (catalog : Catalog) (snapshot : Snapshot) : Prop where
  /-- A type is in the registry under its number, or under one that is the same key. -/
  types : ∀ row ∈ catalog.types, ∃ oid n, row.oid == oid ∧ oid.number? = some n ∧
    (snapshot.typeByOid? n).isSome = true
  /-- A namespace is a schema. -/
  namespaces : ∀ name ∈ catalog.namespaces, ∃ s, name.text? = some s ∧
    (snapshot.schemas.get? s).isSome = true
  /-- A table is in a schema. -/
  tables : ∀ row ∈ catalog.tables, ∃ table ∈ snapshot.tables,
    row.schemaName.text? = some table.schemaName ∧ row.name.text? = some table.name
  /-- A column of a table that is in the catalogs is in that table. -/
  columns : NamedApart catalog → ∀ row ∈ catalog.tables, ∀ columnRow ∈ catalog.columns,
    columnRow.schemaName = row.schemaName → columnRow.tableName = row.name →
      ∃ table ∈ snapshot.tables, row.schemaName.text? = some table.schemaName ∧
        row.name.text? = some table.name ∧ ∃ column ∈ table.columns,
          columnRow.name.text? = some column.name ∧
          columnRow.nullable.truth? = some column.nullable ∧
          columnRow.ordinal.number? = some column.ordinal
  /-- A function is found under its name. -/
  functions : ∀ row ∈ catalog.functions, ∃ name, row.name = .text name ∧
    ∃ signature ∈ snapshot.overloads name, signature.name = name ∧
      row.schemaName.text? = some signature.schemaName ∧
      row.returnsSet.truth? = some signature.returnsSet
  /-- An enumeration of the registry is found under its name. -/
  enums : ∀ entry ∈ snapshot.types, entry.2.isEnum = true → entry.2.isArray = false →
    (snapshot.enums.get? entry.2.name).isSome = true

/-- Every function is filed under its own name in lower case. -/
def FiledByName (snapshot : Snapshot) : Prop :=
  ∀ key stored, snapshot.functions.get? key = some stored →
    ∀ signature ∈ stored, key = Text.lowered signature.name

namespace Built

/-- A type of the registry is found under its number. -/
theorem isSome_typeByOid? (h : Built catalog types found snapshot) {oid : Scalar} {n : Int}
    (hoid : oid ∈ types.keys) (hn : oid.number? = some n) :
    (snapshot.typeByOid? n).isSome = true := by
  obtain ⟨read, hread, hresult⟩ := numbered_eq_ok_iff.mp (fitted_eq_ok_iff.mp h.numbered)
  obtain ⟨pair, hpair, rfl⟩ := List.mem_map.mp hoid
  obtain ⟨entry, hentry, hkey, -⟩ := exists_of_mem_left hread hpair
  rw [Snapshot.typeByOid?, ← hresult, Entries.isSome_get?_ofList]
  refine ⟨entry, hentry, ?_⟩
  rw [Option.some.inj (hn.symm.trans hkey)]
  exact BEq.rfl

theorem types_complete (h : Built catalog types found snapshot) {row : TypeRow}
    (hrow : row ∈ catalog.types) : ∃ oid n, row.oid == oid ∧ oid.number? = some n ∧
      (snapshot.typeByOid? n).isSome = true := by
  obtain ⟨type, htype⟩ := exists_get?_registry h.registry hrow
  obtain ⟨entry, hentry, halike, -⟩ := Entries.exists_of_get? htype
  have hkey : entry.1 ∈ types.keys := List.mem_map_of_mem hentry
  obtain ⟨n, hn⟩ := exists_numbered_iff.mp ⟨_, h.numbered⟩ entry.1 hkey
  exact ⟨entry.1, n, halike, hn, h.isSome_typeByOid? hkey hn⟩

/-- The tables of the snapshot are what has been filed from the rows of all tables. -/
theorem exists_tables (h : Built catalog types found snapshot) :
    ∃ tables, List.Forall₂ (fun row result => table (Entries.group found) row = .ok result)
        catalog.tables tables ∧
      List.Forall₂ (fun entry (named : String × Schema) => entry.1.text? = some named.1 ∧
        named.2 = ⟨named.1, entry.2⟩) (filed catalog.namespaces tables) snapshot.schemas :=
  exists_tables_of_schemas h.schemas

theorem namespaces_complete (h : Built catalog types found snapshot) {name : Scalar}
    (hname : name ∈ catalog.namespaces) :
    ∃ s, name.text? = some s ∧ (snapshot.schemas.get? s).isSome = true := by
  obtain ⟨tables, -, hschemas⟩ := h.exists_tables
  obtain ⟨entry, hentry, halike⟩ := exists_filed_namespace tables hname
  obtain ⟨named, hnamed, htext, -⟩ := exists_of_mem_left hschemas hentry
  rw [← (Scalar.beq_iff_eq_of_text? htext).mp halike] at htext
  exact ⟨named.1, htext, Entries.isSome_get?_iff.mpr (List.mem_map_of_mem hnamed)⟩

/-- Under the names of a row some table is filed; its columns are those of a row with these
names. -/
theorem exists_table (h : Built catalog types found snapshot) {row : TableRow}
    (hrow : row ∈ catalog.tables) :
    ∃ result ∈ snapshot.tables, row.schemaName.text? = some result.schemaName ∧
      row.name.text? = some result.name ∧
      ∃ other ∈ catalog.tables, table (Entries.group found) other = .ok result := by
  obtain ⟨tables, htables, hschemas⟩ := h.exists_tables
  obtain ⟨own, hown, hfits⟩ := exists_of_mem_left htables hrow
  obtain ⟨hname, hschema, -, -⟩ := table_eq_ok_iff.mp hfits
  obtain ⟨entry, hentry, result, hresult, hsameSchema, hsameName⟩ :=
    exists_filed_name catalog.namespaces hown
  obtain ⟨other, hother, hbuilt⟩ := exists_of_mem_right htables (mem_of_mem_filed hentry hresult)
  refine ⟨result, (mem_tables_iff hschemas).mpr ⟨entry, hentry, hresult⟩, ?_, ?_, other, hother,
    hbuilt⟩
  · rw [hsameSchema, hschema]
  · rw [hsameName, hname]

theorem columns_complete (h : Built catalog types found snapshot) (hapart : NamedApart catalog)
    {row : TableRow} (hrow : row ∈ catalog.tables) {columnRow : ColumnRow}
    (hcolumn : columnRow ∈ catalog.columns) (hschema : columnRow.schemaName = row.schemaName)
    (hname : columnRow.tableName = row.name) :
    ∃ table ∈ snapshot.tables, row.schemaName.text? = some table.schemaName ∧
      row.name.text? = some table.name ∧ ∃ column ∈ table.columns,
        columnRow.name.text? = some column.name ∧
        columnRow.nullable.truth? = some column.nullable ∧
        columnRow.ordinal.number? = some column.ordinal := by
  obtain ⟨result, hresult, hschemaText, hnameText, other, hother, hbuilt⟩ := h.exists_table hrow
  obtain ⟨hotherName, hotherSchema, -, hcolumns⟩ := table_eq_ok_iff.mp hbuilt
  obtain ⟨hsameSchema, hsameName⟩ := hapart row hrow other hother
    (hschemaText.trans hotherSchema.symm) (hnameText.trans hotherName.symm)
  obtain ⟨entry, hentry, -, hfits⟩ := exists_of_mem_left (columns_eq_ok_iff.mp h.columns) hcolumn
  refine ⟨result, hresult, hschemaText, hnameText, entry.2, ?_, ?_⟩
  · rw [hcolumns, mem_columnsOf_iff h.columns hotherSchema hotherName]
    exact ⟨columnRow, hcolumn, hschema.trans hsameSchema, hname.trans hsameName, hfits⟩
  · obtain ⟨hcolumnName, hnullable, hordinal, -⟩ := column_eq_ok_iff.mp hfits
    exact ⟨hcolumnName, hnullable, hordinal⟩

theorem functions_complete (h : Built catalog types found snapshot) {row : FunctionRow}
    (hrow : row ∈ catalog.functions) :
    ∃ name, row.name = .text name ∧ ∃ signature ∈ snapshot.overloads name, signature.name = name ∧
      row.schemaName.text? = some signature.schemaName ∧
      row.returnsSet.truth? = some signature.returnsSet := by
  obtain ⟨signatures, hsignatures, hgroup⟩ := exists_signatures h.functions
  obtain ⟨result, hresult, hname, hfits⟩ := exists_of_mem_left hsignatures hrow
  obtain ⟨-, hschema, -, hset, -⟩ := signature_eq_ok_iff.mp hfits
  refine ⟨result.name, hname, result, ?_, rfl, hschema, hset⟩
  rw [overloads_eq_filter hgroup]
  exact List.mem_filter.mpr ⟨hresult, BEq.rfl⟩

theorem filedByName (h : Built catalog types found snapshot) : FiledByName snapshot := by
  intro key stored hstored signature hsignature
  obtain ⟨signatures, -, hgroup⟩ := exists_signatures h.functions
  have hvalues := Entries.getD_get?_group (signatures.map fun signature =>
    (Text.lowered signature.name, signature)) key
  rw [← hgroup, hstored, Option.getD_some] at hvalues
  rw [hvalues, Entries.mem_valuesAt] at hsignature
  obtain ⟨entry, hentry, hkey, rfl⟩ := hsignature
  obtain ⟨result, -, rfl⟩ := List.mem_map.mp hentry
  exact eq_of_beq hkey

theorem enums_complete (h : Built catalog types found snapshot) {entry : Int × DataType}
    (hentry : entry ∈ snapshot.types) (henum : entry.2.isEnum = true)
    (harray : entry.2.isArray = false) :
    (snapshot.enums.get? entry.2.name).isSome = true := by
  obtain ⟨read, hread, hresult⟩ := numbered_eq_ok_iff.mp (fitted_eq_ok_iff.mp h.numbered)
  rw [← hresult] at hentry
  obtain ⟨numbered, hnumbered, hvalue⟩ := List.mem_map.mp (Entries.mem_values_of_mem_ofList hentry)
  obtain ⟨⟨oid, type⟩, hpair, -, htype⟩ := exists_of_mem_right hread hnumbered
  obtain rfl : type = entry.2 := htype.symm.trans hvalue
  rw [h.enums, Introspection.enums, Entries.isSome_get?_ofList]
  refine ⟨(entry.2.name, entry.2.enumValues), List.mem_filterMap.mpr ⟨_, hpair, ?_⟩, BEq.rfl⟩
  simp [henum, harray]

/-- Nothing is missing from a snapshot that is built from all rows. -/
theorem complete (h : Built catalog types found snapshot) : Complete catalog snapshot where
  types _ := h.types_complete
  namespaces _ := h.namespaces_complete
  tables row hrow := by
    obtain ⟨result, hresult, hschema, hname, -⟩ := h.exists_table hrow
    exact ⟨result, hresult, hschema, hname⟩
  columns hapart _ hrow _ := h.columns_complete hapart hrow
  functions _ := h.functions_complete
  enums _ := h.enums_complete

end Built

end QueryAudit.Introspection
