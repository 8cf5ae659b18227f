import QueryAudit.Proofs.Introspection.Registry
import QueryAudit.Proofs.Introspection.Tables

/-!
# Catalogs that fit

What the rows of every catalog have to be for the snapshot to be built from them. The registry of
types is built when the types and the labels have been read, schemas when the namespaces and the
tables have been read, and the numbers of the types are looked at last of all. A row that does not
fit is never taken for a failure of the database.
-/

namespace QueryAudit.Introspection

variable {α β : Type}

/-! ## Failures of the database -/

/-- Whatever ends the building, it is no failure of the database. -/
def NeverFails (building : Except CatalogHalt α) : Prop :=
  ∀ message, building ≠ .error (.failed message)

theorem neverFails_fitted (x : Checked α) : NeverFails (fitted x) := by
  intro message h
  cases x <;> cases h

theorem NeverFails.map {building : Except CatalogHalt α} (h : NeverFails building) (f : α → β) :
    NeverFails (f <$> building) := fun message hmap =>
  h message (map_eq_error_iff.mp hmap)

theorem NeverFails.bind {building : Except CatalogHalt α} {next : α → Except CatalogHalt β}
    (h : NeverFails building) (hnext : ∀ a, NeverFails (next a)) :
    NeverFails (building >>= next) := by
  intro message hbind
  cases hbuilding : building with
  | ok a =>
    rw [hbuilding] at hbind
    exact hnext a message hbind
  | error halt =>
    rw [hbuilding] at hbind
    exact h message (hbuilding.trans (congrArg _ (Except.error.inj hbind)))

theorem neverFails_mapM {step : α → Except CatalogHalt β} (h : ∀ a, NeverFails (step a))
    (items : List α) : NeverFails (items.mapM step) := by
  intro message hmap
  obtain ⟨item, -, hitem⟩ := exists_of_mapM_eq_error hmap
  exact h item message hitem

theorem neverFails_leafType (labels : Entries Scalar (List Scalar)) (row : TypeRow) :
    NeverFails (leafType labels row) := by
  rw [leafType]
  split
  · exact neverFails_fitted _
  · refine NeverFails.map (fun message h => ?_) _
    cases hname : row.name <;> simp [hname, typeName] at h

theorem neverFails_registry (rows : List TypeRow) (labels : Entries Scalar (List Scalar)) :
    NeverFails (registry rows labels) := by
  intro message h
  obtain ⟨oid, row, -, -, hleaf⟩ := exists_of_resolveAll_eq_error h
  exact neverFails_leafType labels row message hleaf

theorem neverFails_columns (types : Types) (rows : List ColumnRow) :
    NeverFails (columns types rows) :=
  neverFails_mapM (fun row => (neverFails_fitted (column types row)).map _) rows

theorem neverFails_schemas (columns : Entries TableKey (List Column)) (namespaces : List Scalar)
    (rows : List TableRow) : NeverFails (schemas columns namespaces rows) := by
  have htables := neverFails_mapM (fun row => neverFails_fitted (table columns row)) rows
  refine htables.bind fun tables => ?_
  have hschemas := neverFails_mapM (fun entry => neverFails_fitted (schema entry))
    (filed namespaces tables)
  refine hschemas.bind fun schemas => ?_
  intro message h
  cases h

theorem neverFails_functions (types : Types) (rows : List FunctionRow) :
    NeverFails (functions types rows) := by
  refine NeverFails.map (neverFails_mapM (fun row => ?_) rows) _
  rw [namedSignature]
  split
  · exact (neverFails_fitted _).map _
  · intro message h
    cases h

/-! ## Types -/

/-- The labels of the enumerations, as they are read. -/
def labelsRead (catalog : Catalog) : Entries Scalar (List Scalar) :=
  Entries.group (catalog.labels.map fun row => (row.oid, row.label))

theorem mem_labelsOf_iff {catalog : Catalog} {row : TypeRow} {value : Scalar} :
    value ∈ labelsOf (labelsRead catalog) row ↔
      ∃ label ∈ catalog.labels, row.oid == label.oid ∧ label.label = value := by
  rw [labelsOf, labelsRead, Entries.getD_get?_group, Entries.mem_valuesAt]
  simp only [List.mem_map, exists_exists_and_eq_and]

/-- A type without a link has a text for its name. For an enumeration anything will do that stands
for a text, and its labels have to stand for texts as well. -/
def TypeFits (labels : List LabelRow) (row : TypeRow) : Prop :=
  if row.kind = .text "e" then
    (∃ name, row.name.text? = some name) ∧
      ∀ label ∈ labels, row.oid == label.oid → ∃ s, label.label.text? = some s
  else ∃ name, row.name = .text name

theorem exists_leafType_iff {catalog : Catalog} {row : TypeRow} :
    (∃ type, leafType (labelsRead catalog) row = .ok type) ↔ TypeFits catalog.labels row := by
  rw [TypeFits]
  by_cases hkind : row.kind = .text "e"
  · rw [if_pos hkind]
    have hlabels : (∃ texts, List.Forall₂ (fun label text => label.text? = some text)
          (labelsOf (labelsRead catalog) row) texts) ↔
        ∀ label ∈ catalog.labels, row.oid == label.oid → ∃ s, label.label.text? = some s := by
      rw [exists_related_iff]
      simp only [mem_labelsOf_iff]
      constructor
      · exact fun h label hlabel halike => h _ ⟨label, hlabel, halike, rfl⟩
      · rintro h _ ⟨label, hlabel, halike, rfl⟩
        exact h label hlabel halike
    simp only [leafType_enum_eq_ok_iff hkind, ← hlabels]
    constructor
    · rintro ⟨type, name, texts, hname, htexts, -⟩
      exact ⟨⟨name, hname⟩, ⟨texts, htexts⟩⟩
    · rintro ⟨⟨name, hname⟩, ⟨texts, htexts⟩⟩
      exact ⟨_, name, texts, hname, htexts, rfl⟩
  · rw [if_neg hkind]
    simp only [leafType_plain_eq_ok_iff hkind]
    constructor
    · rintro ⟨type, name, hname, -⟩
      exact ⟨name, hname⟩
    · rintro ⟨name, hname⟩
      exact ⟨_, name, hname, rfl⟩

/-! ## Tables -/

/-- A column has a name, tells whether it may be null, and has a number. -/
def ColumnFits (row : ColumnRow) : Prop :=
  (∃ name, row.name.text? = some name) ∧ (∃ nullable, row.nullable.truth? = some nullable) ∧
    ∃ ordinal, row.ordinal.number? = some ordinal

theorem exists_columns_iff {types : Types} {rows : List ColumnRow} :
    (∃ found, columns types rows = .ok found) ↔ ∀ row ∈ rows, ColumnFits row := by
  have hcolumn (row : ColumnRow) :
      (∃ entry, (fun column => ((row.schemaName, row.tableName), column)) <$>
        fitted (column types row) = .ok entry) ↔ ColumnFits row := by
    simp only [map_eq_ok_iff, fitted_eq_ok_iff, column_eq_ok_iff]
    constructor
    · rintro ⟨entry, result, ⟨hname, hnullable, hordinal, -⟩, -⟩
      exact ⟨⟨_, hname⟩, ⟨_, hnullable⟩, ⟨_, hordinal⟩⟩
    · rintro ⟨⟨name, hname⟩, ⟨nullable, hnullable⟩, ⟨ordinal, hordinal⟩⟩
      exact ⟨_, ⟨name, columnType types row, nullable, ordinal⟩,
        ⟨hname, hnullable, hordinal, rfl⟩, rfl⟩
  simp only [columns, exists_mapM_iff, hcolumn]

/-- A table has a name and a schema. It may have no number. -/
def TableFits (row : TableRow) : Prop :=
  (∃ name, row.name.text? = some name) ∧ (∃ schemaName, row.schemaName.text? = some schemaName) ∧
    (row.oid ≠ .null → ∃ oid, row.oid.number? = some oid)

theorem exists_table_iff (columns : Entries TableKey (List Column)) {row : TableRow} :
    (∃ result, fitted (table columns row) = .ok result) ↔ TableFits row := by
  simp only [fitted_eq_ok_iff, table_eq_ok_iff, Decoder.optional_scalar_eq_ok_iff]
  constructor
  · rintro ⟨result, hname, hschema, hoid, -⟩
    refine ⟨⟨_, hname⟩, ⟨_, hschema⟩, fun hpresent => ?_⟩
    obtain ⟨hnull, -⟩ | ⟨-, oid, hread, -⟩ := hoid
    · exact absurd hnull hpresent
    · exact ⟨oid, Scalar.number?_eq_some_iff.mpr hread⟩
  · rintro ⟨⟨name, hname⟩, ⟨schemaName, hschema⟩, hoid⟩
    by_cases hnull : row.oid = .null
    · exact ⟨⟨name, schemaName, none, _⟩, hname, hschema, Or.inl ⟨hnull, rfl⟩, rfl⟩
    · obtain ⟨oid, hread⟩ := hoid hnull
      exact ⟨⟨name, schemaName, some oid, _⟩, hname, hschema,
        Or.inr ⟨hnull, oid, Scalar.number?_eq_some_iff.mp hread, rfl⟩, rfl⟩

/-- Schemas have texts for names exactly when the namespaces do. -/
theorem exists_text_of_filed_iff {namespaces : List Scalar} {tables : List Table} :
    (∀ entry ∈ filed namespaces tables, ∃ s, entry.1.text? = some s) ↔
      ∀ name ∈ namespaces, ∃ s, name.text? = some s := by
  constructor
  · intro h name hname
    obtain ⟨entry, hentry, halike⟩ := exists_filed_namespace tables hname
    obtain ⟨s, hs⟩ := h entry hentry
    rw [(Scalar.beq_iff_eq_of_text? hs).mp halike]
    exact ⟨s, hs⟩
  · intro h entry hentry
    have hkey : entry.1 ∈ (filed namespaces tables).keys := List.mem_map_of_mem hentry
    obtain hname | ⟨table, -, htable⟩ := mem_keys_filed hkey
    · exact h entry.1 hname
    · rw [htable]
      exact ⟨_, rfl⟩

theorem exists_schemas_iff {columns : Entries TableKey (List Column)} {namespaces : List Scalar}
    {rows : List TableRow} :
    (∃ result, schemas columns namespaces rows = .ok result) ↔
      (∀ row ∈ rows, TableFits row) ∧ ∀ name ∈ namespaces, ∃ s, name.text? = some s := by
  have hschema (entry : Scalar × Entries String Table) :
      (∃ result, fitted (schema entry) = .ok result) ↔ ∃ s, entry.1.text? = some s := by
    simp only [fitted_eq_ok_iff, schema_eq_ok_iff]
    constructor
    · rintro ⟨result, hname, -⟩
      exact ⟨_, hname⟩
    · rintro ⟨s, hname⟩
      exact ⟨⟨s, entry.2⟩, hname, rfl⟩
  have hfiled (tables : List Table) :
      (∃ results, (filed namespaces tables).mapM (fun entry => fitted (schema entry)) =
        .ok results) ↔ ∀ name ∈ namespaces, ∃ s, name.text? = some s := by
    simp only [exists_mapM_iff, hschema, exists_text_of_filed_iff]
  simp only [← exists_table_iff columns, ← exists_mapM_iff]
  constructor
  · rintro ⟨result, h⟩
    obtain ⟨tables, htables, hrest⟩ := bind_eq_ok_iff.mp h
    obtain ⟨results, hresults, -⟩ := bind_eq_ok_iff.mp hrest
    exact ⟨⟨tables, htables⟩, (hfiled tables).mp ⟨results, hresults⟩⟩
  · rintro ⟨⟨tables, htables⟩, hnames⟩
    obtain ⟨results, hresults⟩ := (hfiled tables).mpr hnames
    exact ⟨_, bind_eq_ok_iff.mpr ⟨tables, htables, bind_eq_ok_iff.mpr ⟨results, hresults, rfl⟩⟩⟩

/-! ## Functions -/

/-- A function has a text for its name, a schema, names that stand for texts where its parameters
have names, and tells whether it returns a set. -/
def FunctionFits (row : FunctionRow) : Prop :=
  (∃ name, row.name = .text name) ∧ (∃ schemaName, row.schemaName.text? = some schemaName) ∧
    (∀ name ∈ (inputNames row).take (row.argumentTypes.getD []).length, name.isPresent →
      ∃ s, name.text? = some s) ∧
    ∃ returnsSet, row.returnsSet.truth? = some returnsSet

theorem exists_parameterNames_iff {count : Nat} {names : List Scalar} :
    (∃ result, parameterNames count names = .ok result) ↔
      ∀ name ∈ names.take count, name.isPresent → ∃ s, name.text? = some s := by
  have hname (name : Scalar) :
      (∃ result, Decoder.optional Decoder.text
        (.scalar (if name.isPresent then name else .null)) = .ok result) ↔
        (name.isPresent → ∃ s, name.text? = some s) := by
    simp only [Decoder.optional_scalar_eq_ok_iff]
    by_cases hpresent : name.isPresent = true
    · have hnull : name ≠ .null := by
        rintro rfl
        cases hpresent
      simp [hpresent, hnull, Scalar.text?_eq_some_iff]
    · simp [hpresent]
  rw [parameterNames, Checked.exists_itemsFrom_iff]
  simp only [hname, List.take_append, List.mem_append]
  constructor
  · exact fun h name hmem => h name (Or.inl hmem)
  · rintro h name (hmem | hnull)
    · exact h name hmem
    · obtain rfl := List.eq_of_mem_replicate (List.mem_of_mem_take hnull)
      intro hpresent
      cases hpresent

theorem exists_functions_iff {types : Types} {rows : List FunctionRow} :
    (∃ result, functions types rows = .ok result) ↔ ∀ row ∈ rows, FunctionFits row := by
  have hrow (row : FunctionRow) :
      (∃ result, namedSignature types row = .ok result) ↔ FunctionFits row := by
    simp only [namedSignature_eq_ok_iff, signature_eq_ok_iff]
    constructor
    · rintro ⟨entry, name, hname, -, -, hschema, hnames, hset, -⟩
      exact ⟨⟨name, hname⟩, ⟨_, hschema⟩, exists_parameterNames_iff.mp ⟨_, hnames⟩, ⟨_, hset⟩⟩
    · rintro ⟨⟨name, hname⟩, ⟨schemaName, hschema⟩, hnames, ⟨returnsSet, hset⟩⟩
      obtain ⟨parameterNames, hparameters⟩ := exists_parameterNames_iff.mpr hnames
      refine ⟨(Text.lowered name, ⟨name, schemaName, parameterNames, _, _, returnsSet, _⟩), name,
        hname, rfl, ?_, hschema, hparameters, hset, rfl, rfl, rfl⟩
      rw [hname]
      rfl
  simp only [functions, exists_map_iff, exists_mapM_iff, hrow]

/-- The functions hold one signature for each row, in order, under its name in lower case. -/
theorem exists_signatures {types : Types} {rows : List FunctionRow}
    {found : Entries String (List Signature)} (h : functions types rows = .ok found) :
    ∃ signatures, List.Forall₂ (fun row result => row.name = .text result.name ∧
        signature types row = .ok result) rows signatures ∧
      found = Entries.group (signatures.map fun signature =>
        (Text.lowered signature.name, signature)) := by
  obtain ⟨named, hnamed, rfl⟩ := map_eq_ok_iff.mp h
  have hread : List.Forall₂ (fun row entry => (row.name = .text entry.2.name ∧
      signature types row = .ok entry.2) ∧ entry.1 = Text.lowered entry.2.name) rows named := by
    refine (mapM_eq_ok_iff.mp hnamed).imp fun row entry hentry => ?_
    obtain ⟨name, hname, hkey, hsignature⟩ := namedSignature_eq_ok_iff.mp hentry
    have hown := (signature_eq_ok_iff.mp hsignature).1
    rw [hname] at hown
    rw [hname, hkey, Option.some.inj hown]
    exact ⟨⟨rfl, hsignature⟩, rfl⟩
  refine ⟨named.map Prod.snd, ?_, ?_⟩
  · rw [List.forall₂_map_right_iff]
    exact hread.imp fun _ _ hentry => hentry.1
  · have hpairs : named.map id =
        named.map fun entry => (Text.lowered entry.2.name, entry.2) := by
      refine List.map_congr_left fun entry hentry => ?_
      obtain ⟨-, -, -, hkey⟩ := exists_of_mem_right hread hentry
      rw [← hkey]
      rfl
    rw [List.map_map]
    exact congrArg Entries.group ((List.map_id named).symm.trans hpairs)

/-- The overloads of a name are the signatures that have it in whatever letter case, in order. -/
theorem overloads_eq_filter {snapshot : Snapshot} {signatures : List Signature}
    (h : snapshot.functions = Entries.group (signatures.map fun signature =>
      (Text.lowered signature.name, signature))) (name : String) :
    snapshot.overloads name =
      signatures.filter fun signature => Text.lowered name == Text.lowered signature.name := by
  rw [Snapshot.overloads, h, Entries.getD_get?_group, Entries.valuesAt, List.filter_map,
    List.map_map]
  exact List.map_id _

/-! ## Numbers of types -/

theorem exists_numbered_iff {types : Types} :
    (∃ result, fitted (numbered types) = .ok result) ↔
      ∀ oid ∈ types.keys, ∃ n, oid.number? = some n := by
  simp only [fitted_eq_ok_iff, numbered_eq_ok_iff, Entries.keys, List.forall_mem_map]
  have hentry (pair : Scalar × DataType) :
      (∃ entry : Int × DataType, pair.1.number? = some entry.1 ∧ entry.2 = pair.2) ↔
        ∃ n, pair.1.number? = some n := by
    constructor
    · rintro ⟨entry, hentry, -⟩
      exact ⟨_, hentry⟩
    · rintro ⟨n, hn⟩
      exact ⟨(n, pair.2), hn, rfl⟩
  simp only [← hentry, ← exists_related_iff]
  constructor
  · rintro ⟨result, read, hread, -⟩
    exact ⟨read, hread⟩
  · rintro ⟨read, hread⟩
    exact ⟨_, read, hread, rfl⟩

/-! ## The catalogs -/

/-- What the rows that have been read by then have to be when a catalog has been read. Nothing is
built from the types alone, nor from the namespaces. -/
def Fits (catalog : Catalog) : CatalogPart → Prop
  | .types => True
  | .enums => ∀ oid row, (rowsByOid catalog.types).get? oid = some row →
      TypeRow.link? row = none → TypeFits catalog.labels row
  | .columns => ∀ row ∈ catalog.columns, ColumnFits row
  | .namespaces => True
  | .tables => (∀ row ∈ catalog.tables, TableFits row) ∧
      ∀ name ∈ catalog.namespaces, ∃ s, name.text? = some s
  | .functions => (∀ row ∈ catalog.functions, FunctionFits row) ∧
      ∀ types, registry catalog.types (labelsRead catalog) = .ok types →
        ∀ oid ∈ types.keys, ∃ n, oid.number? = some n

theorem exists_registry_iff_fits {catalog : Catalog} :
    (∃ types, registry catalog.types (labelsRead catalog) = .ok types) ↔ Fits catalog .enums := by
  simp only [exists_registry_iff, exists_leafType_iff, Fits]

/-- A catalog fits when there is a registry under integers and its other rows fit one by one. -/
theorem fits_of_registry {catalog : Catalog} {types : Types}
    (htypes : registry catalog.types (labelsRead catalog) = .ok types)
    (hnumbers : ∀ oid ∈ types.keys, ∃ n, oid.number? = some n)
    (hcolumns : ∀ row ∈ catalog.columns, ColumnFits row)
    (hnamespaces : ∀ name ∈ catalog.namespaces, ∃ s, name.text? = some s)
    (htables : ∀ row ∈ catalog.tables, TableFits row)
    (hfunctions : ∀ row ∈ catalog.functions, FunctionFits row) (part : CatalogPart) :
    Fits catalog part := by
  cases part with
  | types => trivial
  | enums => exact exists_registry_iff_fits.mp ⟨types, htypes⟩
  | columns => exact hcolumns
  | namespaces => trivial
  | tables => exact ⟨htables, hnamespaces⟩
  | functions =>
    refine ⟨hfunctions, fun others hothers => ?_⟩
    obtain rfl := Except.ok.inj (htypes.symm.trans hothers)
    exact hnumbers

/-- A database of which nothing but types is in the catalogs. -/
def typesOnly (types : List TypeRow) (labels : List LabelRow) : Catalog where
  refusal := none
  closeFailure := none
  failure := fun _ => none
  types
  labels
  namespaces := []
  tables := []
  columns := []
  functions := []

theorem fits_typesOnly {rows : List TypeRow} {labels : List LabelRow} {types : Types}
    (htypes : registry rows (labelsRead (typesOnly rows labels)) = .ok types)
    (hnumbers : ∀ oid ∈ types.keys, ∃ n, oid.number? = some n) (part : CatalogPart) :
    Fits (typesOnly rows labels) part := by
  refine fits_of_registry htypes hnumbers ?_ ?_ ?_ ?_ part <;> simp [typesOnly]

/-- A snapshot that is built from all rows of the catalogs. -/
structure Built (catalog : Catalog) (types : Types) (found : List (TableKey × Column))
    (snapshot : Snapshot) : Prop where
  /-- The registry of types. -/
  registry : registry catalog.types (labelsRead catalog) = .ok types
  /-- The columns, with the keys of their tables. -/
  columns : columns types catalog.columns = .ok found
  /-- The schemas with their tables. -/
  schemas : schemas (Entries.group found) catalog.namespaces catalog.tables = .ok snapshot.schemas
  /-- The functions. -/
  functions : functions types catalog.functions = .ok snapshot.functions
  /-- The types by their numbers. -/
  numbered : fitted (numbered types) = .ok snapshot.types
  /-- The labels of the enumerations. -/
  enums : snapshot.enums = enums types

end QueryAudit.Introspection
