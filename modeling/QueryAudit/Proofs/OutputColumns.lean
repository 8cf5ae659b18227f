import QueryAudit.Proofs.Conversation
import QueryAudit.Proofs.Introspection.Trace
import Mathlib.Data.List.Pairwise

/-!
# Result columns and the catalogs

A snapshot finds the columns of a table by the names of the table and its schema, a description
finds the table of a result column by its catalog number, and the column by its number in the table.
Where numbers and names keep the rows of the catalogs apart, both ways lead to the same row, so that
a result column is as nullable as the column of the catalogs that the server means.
-/

namespace QueryAudit

open Introspection

/-! ## Looking up tables and columns -/

/-- The tables of a snapshot that have a number have numbers of their own. -/
def Snapshot.NumbersApart (snapshot : Snapshot) : Prop :=
  ∀ table ∈ snapshot.tables, ∀ other ∈ snapshot.tables, table.oid = other.oid →
    table.oid ≠ none → table = other

/-- Where tables have numbers of their own, a table is found under its number. -/
theorem Snapshot.NumbersApart.tableByOid?_eq_some_iff {snapshot : Snapshot}
    (h : snapshot.NumbersApart) {oid : Int} {table : Table} :
    snapshot.tableByOid? oid = some table ↔ table ∈ snapshot.tables ∧ table.oid = some oid := by
  have hvalue (other : Table) :
      other ∈ Entries.valuesAt (snapshot.tables.filterMap fun table =>
        table.oid.map fun oid => (oid, table)) oid ↔
      other ∈ snapshot.tables ∧ other.oid = some oid := by
    rw [Entries.mem_valuesAt]
    constructor
    · rintro ⟨pair, hpair, hkey, rfl⟩
      obtain ⟨table, htable, hpair⟩ := List.mem_filterMap.mp hpair
      obtain ⟨n, hn, rfl⟩ := Option.map_eq_some_iff.mp hpair
      rw [eq_of_beq hkey]
      exact ⟨htable, hn⟩
    · rintro ⟨hother, hoid⟩
      exact ⟨(oid, other), List.mem_filterMap.mpr ⟨other, hother, by rw [hoid]; rfl⟩, BEq.rfl, rfl⟩
  rw [Snapshot.tableByOid?, Snapshot.tablesByOid, Entries.get?_ofList]
  constructor
  · intro hlast
    exact (hvalue table).mp (List.mem_of_getLast? hlast)
  · rintro ⟨htable, hoid⟩
    have hne := List.ne_nil_of_mem ((hvalue table).mpr ⟨htable, hoid⟩)
    rw [List.getLast?_eq_some_getLast hne, Option.some.injEq]
    obtain ⟨hlast, hlastOid⟩ := (hvalue _).mp (List.getLast_mem hne)
    exact h _ hlast _ htable (hlastOid.trans hoid.symm) (by rw [hlastOid]; simp)

/-- A column that is found has the number that is looked for. -/
theorem Table.mem_of_columnAt? {table : Table} {ordinal : Int} {column : Column}
    (h : table.columnAt? ordinal = some column) :
    column ∈ table.columns ∧ column.ordinal = ordinal :=
  ⟨List.mem_of_find?_eq_some h, eq_of_beq (List.find?_some h :)⟩

theorem Table.isSome_columnAt? {table : Table} {column : Column} (h : column ∈ table.columns) :
    (table.columnAt? column.ordinal).isSome = true := by
  rw [Table.columnAt?, List.find?_isSome]
  exact ⟨column, h, BEq.rfl⟩

/-! ## Keys of the catalogs -/

/-- The row of the column with the number `ordinal` in the table with the number `oid`. -/
def ColumnRow.IsAt (row : ColumnRow) (oid ordinal : Int) : Prop :=
  row.tableOid.number? = some oid ∧ row.ordinal.number? = some ordinal

namespace Catalog

/-- Catalogs in which numbers and names keep the tables apart, and numbers the columns of a
table. -/
structure Keyed (catalog : Catalog) : Prop where
  /-- Every table has a number other than zero. -/
  numbered : ∀ row ∈ catalog.tables, ∃ oid, row.oid.number? = some oid ∧ oid ≠ 0
  /-- No two tables have one number. -/
  oids : (catalog.tables.map fun row => row.oid.number?).Nodup
  /-- No two tables of one schema have one name. -/
  names : (catalog.tables.map fun row => (row.schemaName.text?, row.name.text?)).Nodup
  /-- A column has the number of a table when it has the names of the table. -/
  agree : ∀ columnRow ∈ catalog.columns, ∀ row ∈ catalog.tables,
    columnRow.tableOid.number? = row.oid.number? ↔
      columnRow.schemaName = row.schemaName ∧ columnRow.tableName = row.name
  /-- No two columns of one table have one number. -/
  ordinals : catalog.columns.Pairwise fun row other =>
    ∀ oid ordinal, row.IsAt oid ordinal → ¬ other.IsAt oid ordinal

/-- The catalogs list a table with the number. -/
def ListsTable (catalog : Catalog) (oid : Int) : Prop :=
  ∃ row ∈ catalog.tables, row.oid.number? = some oid

/-- There is one row for a column. -/
theorem Keyed.eq_of_isAt {catalog : Catalog} (h : catalog.Keyed) {oid ordinal : Int}
    {row other : ColumnRow} (hrow : row ∈ catalog.columns) (hother : other ∈ catalog.columns)
    (hat : row.IsAt oid ordinal) (hotherAt : other.IsAt oid ordinal) : row = other := by
  have : Std.Symm fun row other : ColumnRow =>
      ∀ oid ordinal, row.IsAt oid ordinal → ¬ other.IsAt oid ordinal :=
    ⟨fun row other h oid ordinal hother hrow => h oid ordinal hrow hother⟩
  by_contra hne
  exact h.ordinals.forall hrow hother hne oid ordinal hat hotherAt

end Catalog

/-! ## From the rows to the snapshot -/

namespace Introspection

variable {catalog : Catalog} {types : Types} {found : List (TableKey × Column)}
  {snapshot : Snapshot}

/-- A table has the number of its row. -/
theorem oid_of_table {columns : Entries TableKey (List Column)} {row : TableRow} {result : Table}
    (h : table columns row = .ok result) {oid : Int} (hoid : row.oid.number? = some oid) :
    result.oid = some oid := by
  obtain ⟨-, -, hread, -⟩ := table_eq_ok_iff.mp h
  obtain ⟨hnull, -⟩ | ⟨-, n, hn, hresult⟩ := Decoder.optional_scalar_eq_ok_iff.mp hread
  · rw [hnull] at hoid
    cases hoid
  · rw [hresult, ← hoid, Scalar.number?_eq_some_iff.mpr hn]

namespace Built

/-- The tables of the snapshot are those of the rows. -/
theorem mem_tables_iff (h : Built catalog types found snapshot) (hkeyed : catalog.Keyed)
    {result : Table} : result ∈ snapshot.tables ↔
      ∃ row ∈ catalog.tables, table (Entries.group found) row = .ok result := by
  obtain ⟨tables, htables, hschemas⟩ := h.exists_tables
  have hkeys : (catalog.tables.map fun row => (row.schemaName.text?, row.name.text?)) =
      tables.map fun table => (some table.schemaName, some table.name) :=
    map_eq_map_of_related htables fun row result hfits => by
      obtain ⟨hname, hschema, -, -⟩ := table_eq_ok_iff.mp hfits
      rw [hname, hschema]
  have hnames : (tables.map fun table => (table.schemaName, table.name)).Nodup := by
    have hnodup := hkeyed.names
    rw [hkeys] at hnodup
    refine List.Nodup.of_map (fun key => (some key.1, some key.2)) ?_
    rwa [List.map_map]
  rw [Snapshot.tables, Introspection.mem_tables_iff hschemas, mem_filed_iff hnames]
  constructor
  · exact exists_of_mem_right htables
  · rintro ⟨row, hrow, hfits⟩
    obtain ⟨other, hother, hotherFits⟩ := exists_of_mem_left htables hrow
    rwa [← Checked.ok.inj (hotherFits.symm.trans hfits)]

theorem numbersApart (h : Built catalog types found snapshot) (hkeyed : catalog.Keyed) :
    snapshot.NumbersApart := by
  intro result hresult other hother hsame _
  obtain ⟨row, hrow, hfits⟩ := (h.mem_tables_iff hkeyed).mp hresult
  obtain ⟨otherRow, hotherRow, hotherFits⟩ := (h.mem_tables_iff hkeyed).mp hother
  obtain ⟨oid, hoid, -⟩ := hkeyed.numbered row hrow
  obtain ⟨otherOid, hotherOid, -⟩ := hkeyed.numbered otherRow hotherRow
  have hnumbers : row.oid.number? = otherRow.oid.number? := by
    rw [hoid, hotherOid, ← oid_of_table hfits hoid, ← oid_of_table hotherFits hotherOid, hsame]
  obtain rfl := List.inj_on_of_nodup_map hkeyed.oids hrow hotherRow hnumbers
  exact Checked.ok.inj (hfits.symm.trans hotherFits)

/-- A table of the catalogs is found under its number. -/
theorem tableByOid?_eq_some_iff (h : Built catalog types found snapshot) (hkeyed : catalog.Keyed)
    {oid : Int} {result : Table} : snapshot.tableByOid? oid = some result ↔
      ∃ row ∈ catalog.tables, row.oid.number? = some oid ∧
        table (Entries.group found) row = .ok result := by
  rw [(h.numbersApart hkeyed).tableByOid?_eq_some_iff, h.mem_tables_iff hkeyed]
  constructor
  · rintro ⟨⟨row, hrow, hfits⟩, hoid⟩
    obtain ⟨n, hn, -⟩ := hkeyed.numbered row hrow
    rw [oid_of_table hfits hn] at hoid
    exact ⟨row, hrow, hn.trans hoid, hfits⟩
  · rintro ⟨row, hrow, hoid, hfits⟩
    exact ⟨⟨row, hrow, hfits⟩, oid_of_table hfits hoid⟩

/-- The columns of a table are those of the rows with the number of the table. -/
theorem mem_columns_iff (h : Built catalog types found snapshot) (hkeyed : catalog.Keyed)
    {row : TableRow} (hrow : row ∈ catalog.tables) {result : Table}
    (hfits : table (Entries.group found) row = .ok result) {own : Column} :
    own ∈ result.columns ↔ ∃ columnRow ∈ catalog.columns,
      columnRow.tableOid.number? = row.oid.number? ∧ column types columnRow = .ok own := by
  obtain ⟨hname, hschema, -, hcolumns⟩ := table_eq_ok_iff.mp hfits
  rw [hcolumns, mem_columnsOf_iff h.columns hschema hname]
  refine exists_congr fun columnRow => and_congr_right fun hcolumn => ?_
  rw [hkeyed.agree columnRow hcolumn row hrow, and_assoc]

/-- A result column that is found to be a column of a table is the column of a row. -/
theorem exists_isColumn (h : Built catalog types found snapshot) (hkeyed : catalog.Keyed)
    {field : Field} {own : Column} (hown : Describe.tableColumn? snapshot field = some own) :
    field.tableOid ≠ 0 ∧ catalog.ListsTable field.tableOid ∧
      ∃ columnRow ∈ catalog.columns, columnRow.IsAt field.tableOid field.tableColumn ∧
        columnRow.nullable.truth? = some own.nullable := by
  rw [Describe.tableColumn?] at hown
  split at hown
  · cases hown
  · rename_i hzero
    obtain ⟨result, hresult, hcolumn⟩ := Option.bind_eq_some_iff.mp hown
    obtain ⟨row, hrow, hoid, hfits⟩ := (h.tableByOid?_eq_some_iff hkeyed).mp hresult
    obtain ⟨hmem, hordinal⟩ := Table.mem_of_columnAt? hcolumn
    obtain ⟨columnRow, hcolumnRow, hsame, hread⟩ := (h.mem_columns_iff hkeyed hrow hfits).mp hmem
    obtain ⟨-, hnullable, hnumber, -⟩ := column_eq_ok_iff.mp hread
    rw [hordinal] at hnumber
    exact ⟨hzero, ⟨row, hrow, hoid⟩, columnRow, hcolumnRow, ⟨hsame.trans hoid, hnumber⟩, hnullable⟩

/-- The column of a row is found when its table is listed. -/
theorem isSome_tableColumn? (h : Built catalog types found snapshot) (hkeyed : catalog.Keyed)
    {field : Field} (hzero : field.tableOid ≠ 0) (hlists : catalog.ListsTable field.tableOid)
    {columnRow : ColumnRow} (hcolumnRow : columnRow ∈ catalog.columns)
    (hcolumn : columnRow.IsAt field.tableOid field.tableColumn) :
    (Describe.tableColumn? snapshot field).isSome = true := by
  obtain ⟨row, hrow, hoid⟩ := hlists
  obtain ⟨htableOid, hordinal⟩ := hcolumn
  obtain ⟨tables, htables, -⟩ := h.exists_tables
  obtain ⟨result, -, hfits⟩ := exists_of_mem_left htables hrow
  obtain ⟨entry, -, -, hread⟩ := exists_of_mem_left (columns_eq_ok_iff.mp h.columns) hcolumnRow
  have hmem : entry.2 ∈ result.columns := (h.mem_columns_iff hkeyed hrow hfits).mpr
    ⟨columnRow, hcolumnRow, htableOid.trans hoid.symm, hread⟩
  have hnumber : entry.2.ordinal = field.tableColumn := by
    obtain ⟨-, -, hown, -⟩ := column_eq_ok_iff.mp hread
    exact Option.some.inj (hown.symm.trans hordinal)
  have hresult := (h.tableByOid?_eq_some_iff hkeyed).mpr ⟨row, hrow, hoid, hfits⟩
  rw [Describe.tableColumn?, if_neg hzero, hresult, Option.bind_some, ← hnumber]
  exact Table.isSome_columnAt? hmem

/-- A result column is found to be a column of a table when the catalogs list the table and have the
column. -/
theorem isSome_tableColumn?_iff (h : Built catalog types found snapshot) (hkeyed : catalog.Keyed)
    {field : Field} : (Describe.tableColumn? snapshot field).isSome = true ↔
      field.tableOid ≠ 0 ∧ catalog.ListsTable field.tableOid ∧
        ∃ columnRow ∈ catalog.columns, columnRow.IsAt field.tableOid field.tableColumn := by
  constructor
  · intro hsome
    obtain ⟨own, hown⟩ := Option.isSome_iff_exists.mp hsome
    obtain ⟨hzero, hlists, columnRow, hmem, hat, -⟩ := h.exists_isColumn hkeyed hown
    exact ⟨hzero, hlists, columnRow, hmem, hat⟩
  · rintro ⟨hzero, hlists, columnRow, hmem, hat⟩
    exact h.isSome_tableColumn? hkeyed hzero hlists hmem hat

end Built

end Introspection

/-! ## Result columns -/

namespace Describe

variable (snapshot : Snapshot) (encoding : Encoding) (field : Field)

@[simp] theorem name_outputColumn :
    (outputColumn snapshot encoding field).name = fieldName encoding field := by
  rw [outputColumn]
  split <;> rfl

@[simp] theorem dataType_outputColumn :
    (outputColumn snapshot encoding field).dataType = typeOf snapshot field.typeOid := by
  rw [outputColumn]
  split <;> rfl

@[simp] theorem fromTable_outputColumn :
    (outputColumn snapshot encoding field).fromTable = (tableColumn? snapshot field).isSome := by
  rw [outputColumn]
  cases tableColumn? snapshot field <;> rfl

theorem nullable_outputColumn : (outputColumn snapshot encoding field).nullable =
    ((tableColumn? snapshot field).map Column.nullable).getD true := by
  rw [outputColumn]
  cases tableColumn? snapshot field <;> rfl

end Describe

/-- What a result column is, given how the server reports it. -/
structure OutputColumn.Reported (catalog : Catalog) (snapshot : Snapshot) (encoding : Encoding)
    (field : Field) (column : OutputColumn) : Prop where
  /-- The name is the one that the server reports. -/
  named : ∀ octets, field.name = some octets → octets ≠ [] →
    column.name = String.ofList (encoding.decode octets)
  /-- There is a name for columns without one. -/
  nameless : field.name = none ∨ field.name = some [] → column.name = "?column?"
  /-- The type is that of the registry. -/
  typed : ∀ type, snapshot.typeByOid? field.typeOid = some type → column.dataType = type
  /-- A type that the registry does not have is unknown. -/
  untyped : snapshot.typeByOid? field.typeOid = none → column.dataType = .unknown
  /-- The column is a column of a table when the catalogs list the table and have the column. -/
  fromTable_iff : column.fromTable = true ↔ field.tableOid ≠ 0 ∧
    catalog.ListsTable field.tableOid ∧
    ∃ columnRow ∈ catalog.columns, columnRow.IsAt field.tableOid field.tableColumn
  /-- A column of a table is as nullable as its row says. -/
  nullable : column.fromTable = true → ∀ columnRow ∈ catalog.columns,
    columnRow.IsAt field.tableOid field.tableColumn →
      columnRow.nullable.truth? = some column.nullable
  /-- Nothing is known of other columns. -/
  other : column.fromTable = false → column.nullable = true

variable {catalog : Catalog} {snapshot : Snapshot}

theorem reported_outputColumn {types : Types} {found : List (TableKey × Column)}
    (h : Built catalog types found snapshot) (hkeyed : catalog.Keyed) (encoding : Encoding)
    (field : Field) :
    OutputColumn.Reported catalog snapshot encoding field
      (Describe.outputColumn snapshot encoding field) := by
  constructor
  case named =>
    intro octets hoctets hne
    obtain ⟨b, rest, rfl⟩ := List.exists_cons_of_ne_nil hne
    rw [Describe.name_outputColumn, Describe.fieldName, hoctets]
  case nameless =>
    rw [Describe.name_outputColumn, Describe.fieldName]
    rintro (hnone | hempty)
    · rw [hnone]
      rfl
    · rw [hempty]
      rfl
  case typed =>
    intro type hfound
    rw [Describe.dataType_outputColumn, Describe.typeOf, hfound]
    rfl
  case untyped =>
    intro hnone
    rw [Describe.dataType_outputColumn, Describe.typeOf, hnone]
    rfl
  case fromTable_iff =>
    rw [Describe.fromTable_outputColumn]
    exact h.isSome_tableColumn?_iff hkeyed
  case nullable =>
    rw [Describe.fromTable_outputColumn, Describe.nullable_outputColumn]
    intro hsome other hother hotherAt
    obtain ⟨own, hown⟩ := Option.isSome_iff_exists.mp hsome
    obtain ⟨-, -, columnRow, hmem, hat, hnullable⟩ := h.exists_isColumn hkeyed hown
    rw [hkeyed.eq_of_isAt hother hmem hotherAt hat, hnullable, hown]
    rfl
  case other =>
    rw [Describe.fromTable_outputColumn, Describe.nullable_outputColumn]
    intro hfalse
    rw [Option.isSome_eq_false_iff, Option.isNone_iff_eq_none] at hfalse
    rw [hfalse]
    rfl

/-- The columns of an accepted description are what the server reports, in its order, with the types
of the registry; a column of a table of the catalogs is as nullable as its row says, and any other
column is nullable. -/
theorem described_columns_reported {dsn target : String} {events : List CatalogEvent}
    (hkeyed : catalog.Keyed)
    (hsnapshot : takeSnapshot catalog dsn = (.ok (.ok snapshot), events)) {server : Server}
    {query : String} {description : Description} {sent : List Sent}
    (hdescribe : describe target server snapshot query = (.ok (.ok description), sent))
    (hsent : sent ≠ []) :
    ∃ rewritten report, Query.rewrite query.toList = .ok rewritten ∧
      server.describe rewritten.text = .reports report ∧ report.accepted = true ∧
      List.Forall₂ (OutputColumn.Reported catalog snapshot server.encoding) report.fields
        description.columns := by
  obtain ⟨types, found, hbuilt⟩ := exists_built (congrArg Prod.fst hsnapshot)
  rcases describe_cases target server snapshot query with ⟨-, error, h⟩ | ⟨settled, -, h⟩ |
    ⟨rewritten, ⟨hrewrite, -⟩, h⟩
  · rw [hdescribe] at h
    cases h
  · rw [hdescribe] at h
    exact absurd (congrArg Prod.snd h) hsent
  · rw [hdescribe] at h
    obtain ⟨-, report, hreport, haccepted, rfl⟩ :=
      accepted_of_overServer (congrArg Prod.fst h).symm
    refine ⟨rewritten, report, hrewrite, hreport, haccepted, ?_⟩
    rw [Describe.description, List.forall₂_map_right_iff]
    exact List.forall₂_same.mpr fun field _ =>
      reported_outputColumn hbuilt hkeyed server.encoding field

/-- A database of one table with one column. -/
def oneTable : Catalog where
  refusal := none
  closeFailure := none
  failure := fun _ => none
  types := []
  labels := []
  namespaces := [.text "public"]
  tables := [⟨.int 7, .text "t", .text "public"⟩]
  columns := [⟨.text "public", .int 7, .text "t", .text "a", .int 23, .int 0, .bool false, .int 1⟩]
  functions := []

/-- A server that reports this column for every text. -/
def oneTableServer : Server :=
  let report (fields : List Field) : Answer := .reports ⟨true, none, none, none, [], fields⟩
  ⟨none, .utf8, fun _ => report [], fun _ => report [⟨some [97], 23, 7, 1⟩]⟩

theorem keyed_oneTable : oneTable.Keyed where
  numbered row hrow := by
    obtain rfl := List.mem_singleton.mp hrow
    exact ⟨7, rfl, by decide⟩
  oids := List.nodup_singleton _
  names := List.nodup_singleton _
  agree columnRow hcolumn row hrow := by
    obtain rfl := List.mem_singleton.mp hcolumn
    obtain rfl := List.mem_singleton.mp hrow
    exact iff_of_true rfl ⟨rfl, rfl⟩
  ordinals := List.pairwise_singleton _ _

theorem passes_oneTable (part : CatalogPart) : Passes oneTable part := by
  have hregistry : registry oneTable.types (labelsRead oneTable) = .ok [] := rfl
  refine ⟨rfl, fits_of_registry hregistry ?_ ?_ ?_ ?_ ?_ part⟩
  · simp [Entries.keys]
  · simp [oneTable, ColumnFits]
  · simp [oneTable]
  · simp [oneTable, TableFits]
  · simp [oneTable]

/-- The server accepts every text that can be encoded. -/
theorem overServer_oneTableServer (snapshot : Snapshot) {rewritten : Query.Rewritten}
    (h : rewritten.text.any Text.isSurrogate = false) :
    ∃ description sent, Describe.overServer "" oneTableServer snapshot rewritten =
      (.ok (.ok description), sent) ∧ sent ≠ [] := by
  have htakes : oneTableServer.Takes rewritten.text (Text.utf8 rewritten.text) := by
    refine ⟨rfl, ?_⟩
    simp [oneTableServer, Encoding.encode, Encoding.size?, h]
  rw [overServer_of_takes htakes]
  exact ⟨_, _, rfl, by simp⟩

theorem describe_oneTableServer (snapshot : Snapshot) :
    ∃ description sent, describe "" oneTableServer snapshot "SELECT a FROM t" =
      (.ok (.ok description), sent) ∧ sent ≠ [] := by
  have hrewrite : Query.rewrite "SELECT a FROM t".toList =
      .ok ⟨"SELECT a FROM t".toList, []⟩ := by decide +kernel
  have hcall : Query.call? "SELECT a FROM t".toList = none := by decide +kernel
  have hplain : "SELECT a FROM t".toList.any Text.isSurrogate = false := by decide
  simp only [describe, hrewrite, Describe.byRegistry, hcall]
  exact overServer_oneTableServer snapshot hplain

/-- A query of the one column. -/
theorem described_columns_of_oneTable :
    oneTable.Keyed ∧ ∃ snapshot events, takeSnapshot oneTable "" = (.ok (.ok snapshot), events) ∧
      ∃ description sent, describe "" oneTableServer snapshot "SELECT a FROM t" =
        (.ok (.ok description), sent) ∧ sent ≠ [] ∧
      ∃ rewritten report, Query.rewrite "SELECT a FROM t".toList = .ok rewritten ∧
        oneTableServer.describe rewritten.text = .reports report ∧ report.accepted = true ∧
        List.Forall₂ (OutputColumn.Reported oneTable snapshot oneTableServer.encoding)
          report.fields description.columns := by
  obtain ⟨snapshot, hresult⟩ :=
    (taken oneTable "").exists_snapshot_iff.mpr ⟨rfl, passes_oneTable⟩
  have hsnapshot : takeSnapshot oneTable "" =
      (.ok (.ok snapshot), (takeSnapshot oneTable "").2) := Prod.ext hresult rfl
  obtain ⟨description, sent, hdescribe, hsent⟩ := describe_oneTableServer snapshot
  exact ⟨keyed_oneTable, snapshot, _, hsnapshot, description, sent, hdescribe, hsent,
    described_columns_reported keyed_oneTable hsnapshot hdescribe hsent⟩

end QueryAudit
