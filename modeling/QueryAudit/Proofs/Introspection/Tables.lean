import QueryAudit.Proofs.Entries
import QueryAudit.Proofs.Introspection.Rows

/-!
# Tables and their columns

Columns find their table by the names of schema and table, and tables are filed under the names of
their schemas. What ends up under a schema are the tables of that schema in the order of their rows,
and a table has the columns whose rows name it, in the order of these rows.
-/

namespace QueryAudit

/-- The names by which columns find a table. -/
def TableRow.key (row : TableRow) : Introspection.TableKey :=
  (row.schemaName, row.name)

/-- The names by which a column finds its table. -/
def ColumnRow.tableKey (row : ColumnRow) : Introspection.TableKey :=
  (row.schemaName, row.tableName)

instance : EquivBEq Introspection.TableKey where
  rfl {key} := by
    change (key.1 == key.1 && key.2 == key.2) = true
    simp
  symm {key other} h := by
    change (key.1 == other.1 && key.2 == other.2) = true at h
    change (other.1 == key.1 && other.2 == key.2) = true
    rwa [BEq.comm, BEq.comm (a := other.2)]
  trans {key other third} h h' := by
    change (key.1 == other.1 && key.2 == other.2) = true at h
    change (other.1 == third.1 && other.2 == third.2) = true at h'
    change (key.1 == third.1 && key.2 == third.2) = true
    rw [Bool.and_eq_true] at h h' ⊢
    exact ⟨BEq.trans h.1 h'.1, BEq.trans h.2 h'.2⟩

namespace Introspection

/-! ## Columns -/

/-- Every row of a column gives a column. -/
theorem columns_eq_ok_iff {types : Types} {rows : List ColumnRow}
    {result : List (TableKey × Column)} :
    columns types rows = .ok result ↔
      List.Forall₂ (fun row entry => entry.1 = (row.schemaName, row.tableName) ∧
        column types row = .ok entry.2) rows result := by
  rw [columns, mapM_eq_ok_iff]
  have hentry (row : ColumnRow) (entry : TableKey × Column) :
      (fun column => ((row.schemaName, row.tableName), column)) <$> fitted (column types row) =
          .ok entry ↔
        entry.1 = (row.schemaName, row.tableName) ∧ column types row = .ok entry.2 := by
    rw [map_eq_ok_iff]
    constructor
    · rintro ⟨result, hresult, rfl⟩
      exact ⟨rfl, fitted_eq_ok_iff.mp hresult⟩
    · rintro ⟨hkey, hcolumn⟩
      exact ⟨entry.2, fitted_eq_ok_iff.mpr hcolumn, by rw [← hkey]⟩
  simp only [hentry]

section ColumnsOf

variable {types : Types} {rows : List ColumnRow} {found : List (TableKey × Column)}
  {row : TableRow} {schemaName name : String}

/-- The columns that are found for a table are those of the rows that name it, in the order of these
rows. -/
theorem columnsOf_related (h : columns types rows = .ok found)
    (hschema : row.schemaName.text? = some schemaName) (hname : row.name.text? = some name) :
    List.Forall₂ (fun columnRow result => column types columnRow = .ok result)
      (rows.filter fun columnRow => columnRow.tableKey = row.key)
      (((Entries.group found).get? row.key).getD []) := by
  have hkey (key : TableKey) : row.key == key ↔ key = row.key := by
    rw [BEq.comm, Prod.ext_iff, TableRow.key, ← Scalar.beq_iff_eq_of_text? hschema,
      ← Scalar.beq_iff_eq_of_text? hname, ← Bool.and_eq_true]
    rfl
  rw [Entries.getD_get?_group, Entries.valuesAt, List.forall₂_map_right_iff]
  refine (List.rel_filter ?_ (columns_eq_ok_iff.mp h)).imp fun _ _ hentry => hentry.2
  intro columnRow entry hentry
  change decide (columnRow.tableKey = row.key) = true ↔ (row.key == entry.1) = true
  rw [hkey, hentry.1, decide_eq_true_iff]
  rfl

theorem mem_columnsOf_iff (h : columns types rows = .ok found)
    (hschema : row.schemaName.text? = some schemaName) (hname : row.name.text? = some name)
    {result : Column} :
    result ∈ ((Entries.group found).get? (row.schemaName, row.name)).getD [] ↔
      ∃ columnRow ∈ rows, columnRow.schemaName = row.schemaName ∧
        columnRow.tableName = row.name ∧ column types columnRow = .ok result := by
  have hrelated := columnsOf_related h hschema hname
  constructor
  · intro hresult
    obtain ⟨columnRow, hrow, hcolumn⟩ := exists_of_mem_right hrelated hresult
    obtain ⟨hmem, hkey⟩ := List.mem_filter.mp hrow
    obtain ⟨hschemas, hnames⟩ := Prod.ext_iff.mp (of_decide_eq_true hkey)
    exact ⟨columnRow, hmem, hschemas, hnames, hcolumn⟩
  · rintro ⟨columnRow, hrow, hschemas, hnames, hcolumn⟩
    have hkey : columnRow.tableKey = row.key := Prod.ext hschemas hnames
    have hmem : columnRow ∈ rows.filter fun columnRow => columnRow.tableKey = row.key :=
      List.mem_filter.mpr ⟨hrow, decide_eq_true hkey⟩
    obtain ⟨found, hfound, hsame⟩ := exists_of_mem_left hrelated hmem
    rwa [Checked.ok.inj (hcolumn.symm.trans hsame)]

end ColumnsOf

/-! ## Filing tables -/

variable {namespaces : List Scalar} {tables : List Table}

/-- What has been filed, schema by schema. -/
def filed (namespaces : List Scalar) (tables : List Table) :
    Entries Scalar (Entries String Table) :=
  tables.foldl fileTable (emptySchemas namespaces)

theorem getD_get?_emptySchemas (key : Scalar) :
    ((emptySchemas namespaces).get? key).getD [] = [] := by
  rw [emptySchemas, Entries.get?_ofList]
  cases hlast : (Entries.valuesAt (namespaces.map fun name => (name, [])) key).getLast? with
  | none => rfl
  | some tables =>
    obtain ⟨pair, hpair, -, rfl⟩ := Entries.mem_valuesAt.mp (List.mem_of_getLast? hlast)
    obtain ⟨name, -, rfl⟩ := List.mem_map.mp hpair
    rfl

theorem distinct_filed : Entries.Distinct (filed namespaces tables) :=
  Entries.distinct_foldl_put tables (Entries.distinct_ofList _)

/-- The schemas are namespaces and those of the tables. -/
theorem mem_keys_filed {key : Scalar} (h : key ∈ (filed namespaces tables).keys) :
    key ∈ namespaces ∨ ∃ table ∈ tables, key = .text table.schemaName := by
  rcases Entries.mem_keys_foldl_put tables h with hempty | htable
  · left
    obtain ⟨pair, hpair, rfl⟩ := List.mem_map.mp (Entries.mem_keys_ofList hempty)
    obtain ⟨name, hname, rfl⟩ := List.mem_map.mp hpair
    exact hname
  · right
    obtain ⟨table, hmem, hkey⟩ := List.mem_map.mp htable
    exact ⟨table, hmem, hkey.symm⟩

variable (tables) in
/-- The schemas are the namespaces in order and after them the schemas that only tables name, in the
order of their first tables. -/
theorem keys_filed (h : namespaces.Pairwise fun name other => (name == other) = false) :
    (filed namespaces tables).keys = namespaces ++
      ((tables.map fun table => Scalar.text table.schemaName).filter
        fun name => !namespaces.contains name).eraseDups := by
  have hempty : emptySchemas namespaces = namespaces.map fun name => (name, []) := by
    refine Entries.ofList_eq_self ?_
    rw [Entries.Distinct, Entries.keys, List.map_map, List.pairwise_map]
    exact h
  have hkeys : (emptySchemas namespaces).keys = namespaces := by
    rw [hempty, Entries.keys, List.map_map]
    exact List.map_id _
  have hfound (name : Scalar) :
      ((emptySchemas namespaces).get? name).isSome = namespaces.contains name := by
    rw [Bool.eq_iff_iff, emptySchemas, Entries.isSome_get?_ofList, List.contains_iff_exists_mem_beq]
    simp
  have hfold := Entries.keys_foldl_update (fun table => Scalar.text table.schemaName) []
    (fun table tables => Entries.put tables table.name table) tables (emptySchemas namespaces)
  simp only [hkeys, hfound] at hfold
  exact hfold

variable (namespaces tables) in
/-- What is found among the schemas is found when the namespaces or the tables have it. -/
theorem isSome_get?_filed (key : Scalar) :
    ((filed namespaces tables).get? key).isSome =
      (((emptySchemas namespaces).get? key).isSome ||
        tables.any fun table => key == .text table.schemaName) :=
  Entries.isSome_get?_foldl_update (fun table : Table => Scalar.text table.schemaName) []
    (fun table tables => Entries.put tables table.name table) tables (emptySchemas namespaces) key

variable (tables) in
/-- Every namespace is a schema. -/
theorem exists_filed_namespace {name : Scalar} (h : name ∈ namespaces) :
    ∃ entry ∈ filed namespaces tables, name == entry.1 := by
  have hpair : (name, ([] : Entries String Table)) ∈ namespaces.map fun name => (name, []) :=
    List.mem_map_of_mem h
  have hempty : ((emptySchemas namespaces).get? name).isSome = true :=
    Entries.isSome_get?_ofList.mpr ⟨_, hpair, BEq.rfl⟩
  have hsome : ((filed namespaces tables).get? name).isSome = true := by
    rw [isSome_get?_filed, hempty, Bool.true_or]
  obtain ⟨found, hfound⟩ := Option.isSome_iff_exists.mp hsome
  obtain ⟨entry, hentry, halike, -⟩ := Entries.exists_of_get? hfound
  exact ⟨entry, hentry, halike⟩

/-- Under a schema its own tables are filed by name. -/
theorem eq_of_mem_filed {entry : Scalar × Entries String Table}
    (h : entry ∈ filed namespaces tables) :
    entry.2 = Entries.ofList ((tables.filter fun table => entry.1 == .text table.schemaName).map
      fun table => (table.name, table)) := by
  have hfound := distinct_filed.get?_of_mem h BEq.rfl
  have hfold := Entries.getD_get?_foldl_update (fun table => Scalar.text table.schemaName) []
    (fun table tables => Entries.put tables table.name table) tables (emptySchemas namespaces)
    entry.1
  rw [getD_get?_emptySchemas] at hfold
  have hvalue : ((filed namespaces tables).get? entry.1).getD [] = entry.2 := by rw [hfound]; rfl
  rw [← hvalue, Entries.ofList, List.foldl_map]
  exact hfold

/-- Nothing but tables is filed. -/
theorem mem_of_mem_filed {entry : Scalar × Entries String Table} {table : Table}
    (h : entry ∈ filed namespaces tables) (htable : table ∈ entry.2.map Prod.snd) :
    table ∈ tables := by
  rw [eq_of_mem_filed h] at htable
  obtain ⟨pair, hpair, rfl⟩ := List.mem_map.mp htable
  have hvalue := Entries.mem_values_of_mem_ofList hpair
  rw [List.map_map] at hvalue
  obtain ⟨table, hmem, hsame⟩ := List.mem_map.mp hvalue
  rw [← hsame]
  exact (List.mem_filter.mp hmem).1

variable (namespaces) in
/-- Every table is filed under its schema. -/
theorem exists_mem_filed {table : Table} (h : table ∈ tables) :
    ∃ entry ∈ filed namespaces tables, entry.1 = .text table.schemaName := by
  have hsome := isSome_get?_filed namespaces tables (.text table.schemaName)
  have hany : (tables.any fun other => Scalar.text table.schemaName == .text other.schemaName) =
      true := List.any_eq_true.mpr ⟨table, h, BEq.rfl⟩
  rw [hany, Bool.or_true] at hsome
  obtain ⟨found, hfound⟩ := Option.isSome_iff_exists.mp hsome
  obtain ⟨entry, hentry, halike, -⟩ := Entries.exists_of_get? hfound
  exact ⟨entry, hentry, Scalar.beq_text.mp (BEq.symm halike)⟩

/-- Where no two tables have one name in one schema, the tables of a schema are filed in order. -/
theorem eq_map_of_mem_filed
    (hnames : (tables.map fun table => (table.schemaName, table.name)).Nodup)
    {entry : Scalar × Entries String Table} (h : entry ∈ filed namespaces tables) :
    entry.2 = (tables.filter fun table => entry.1 == .text table.schemaName).map
      fun table => (table.name, table) := by
  rw [eq_of_mem_filed h, Entries.ofList_eq_self]
  rw [Entries.Distinct, Entries.keys, List.map_map, List.pairwise_map]
  refine ((List.pairwise_map.mp hnames).sublist List.filter_sublist).imp_of_mem ?_
  intro table other htable hother hne
  obtain ⟨-, hkey⟩ := List.mem_filter.mp htable
  obtain ⟨-, hkey'⟩ := List.mem_filter.mp hother
  rw [Scalar.beq_text] at hkey hkey'
  rw [Function.comp_apply, Function.comp_apply, beq_eq_false_iff_ne]
  intro hsame
  exact hne (Prod.ext (Scalar.text.inj (hkey.symm.trans hkey')) hsame)

/-- Where no two tables have one name in one schema, a table is filed exactly when it is given. -/
theorem mem_filed_iff (hnames : (tables.map fun table => (table.schemaName, table.name)).Nodup)
    {table : Table} :
    (∃ entry ∈ filed namespaces tables, table ∈ entry.2.map Prod.snd) ↔ table ∈ tables := by
  have hown (entry : Scalar × Entries String Table) (hentry : entry ∈ filed namespaces tables) :
      entry.2.map Prod.snd = tables.filter fun table => entry.1 == .text table.schemaName := by
    rw [eq_map_of_mem_filed hnames hentry, List.map_map]
    exact List.map_id _
  constructor
  · rintro ⟨entry, hentry, htable⟩
    rw [hown entry hentry] at htable
    exact (List.mem_filter.mp htable).1
  · intro htable
    obtain ⟨entry, hentry, hkey⟩ := exists_mem_filed namespaces htable
    refine ⟨entry, hentry, ?_⟩
    rw [hown entry hentry]
    exact List.mem_filter.mpr ⟨htable, Scalar.beq_text.mpr hkey⟩

variable (namespaces) in
/-- Under its schema and its name some table is filed, also when another one has both. -/
theorem exists_filed_name {table : Table} (h : table ∈ tables) :
    ∃ entry ∈ filed namespaces tables, ∃ other ∈ entry.2.map Prod.snd,
      other.schemaName = table.schemaName ∧ other.name = table.name := by
  obtain ⟨entry, hentry, hkey⟩ := exists_mem_filed namespaces h
  have hpair : ∃ pair ∈ (tables.filter fun table => entry.1 == .text table.schemaName).map
      fun table => (table.name, table), table.name == pair.1 :=
    ⟨(table.name, table), List.mem_map_of_mem
      (List.mem_filter.mpr ⟨h, Scalar.beq_text.mpr hkey⟩), BEq.rfl⟩
  obtain ⟨other, hother⟩ := Option.isSome_iff_exists.mp (Entries.isSome_get?_ofList.mpr hpair)
  have hvalue := List.mem_of_getLast? ((Entries.get?_ofList _ _).symm.trans hother)
  obtain ⟨pair, hmem, hname, rfl⟩ := Entries.mem_valuesAt.mp hvalue
  obtain ⟨other, hfilter, rfl⟩ := List.mem_map.mp hmem
  obtain ⟨-, hschema⟩ := List.mem_filter.mp hfilter
  rw [Scalar.beq_text, hkey] at hschema
  obtain ⟨found, hfound, -, hsame⟩ := Entries.exists_of_get? hother
  refine ⟨entry, hentry, other, ?_, (Scalar.text.inj hschema).symm, (eq_of_beq hname).symm⟩
  rw [eq_of_mem_filed hentry]
  exact List.mem_map.mpr ⟨found, hfound, hsame⟩

/-! ## Schemas -/

/-- The schemas are made of what has been filed from the tables of all rows. -/
theorem exists_tables_of_schemas {columns : Entries TableKey (List Column)} {rows : List TableRow}
    {result : Entries String Schema} (h : schemas columns namespaces rows = .ok result) :
    ∃ tables, List.Forall₂ (fun row result => table columns row = .ok result) rows tables ∧
      List.Forall₂ (fun entry (named : String × Schema) => entry.1.text? = some named.1 ∧
        named.2 = ⟨named.1, entry.2⟩) (filed namespaces tables) result := by
  obtain ⟨tables, htables, hrest⟩ := bind_eq_ok_iff.mp h
  obtain ⟨schemas, hschemas, hresult⟩ := bind_eq_ok_iff.mp hrest
  obtain rfl := Except.ok.inj hresult
  refine ⟨tables, (mapM_eq_ok_iff.mp htables).imp fun _ _ => fitted_eq_ok_iff.mp, ?_⟩
  rw [List.forall₂_map_right_iff]
  refine (mapM_eq_ok_iff.mp hschemas).imp fun entry schema hschema => ?_
  obtain ⟨hname, hown⟩ := schema_eq_ok_iff.mp (fitted_eq_ok_iff.mp hschema)
  exact ⟨hname, by rw [← hown]⟩

/-- The tables of the schemas are what has been filed. -/
theorem mem_tables_iff {schemas : Entries String Schema}
    (h : List.Forall₂ (fun entry (named : String × Schema) => entry.1.text? = some named.1 ∧
      named.2 = ⟨named.1, entry.2⟩) (filed namespaces tables) schemas) {table : Table} :
    table ∈ schemas.flatMap (fun entry => entry.2.tables.map Prod.snd) ↔
      ∃ entry ∈ filed namespaces tables, table ∈ entry.2.map Prod.snd := by
  rw [List.mem_flatMap]
  constructor
  · rintro ⟨named, hnamed, htable⟩
    obtain ⟨entry, hentry, -, hschema⟩ := exists_of_mem_right h hnamed
    rw [hschema] at htable
    exact ⟨entry, hentry, htable⟩
  · rintro ⟨entry, hentry, htable⟩
    obtain ⟨named, hnamed, -, hschema⟩ := exists_of_mem_left h hentry
    refine ⟨named, hnamed, ?_⟩
    rw [hschema]
    exact htable

end Introspection

end QueryAudit
