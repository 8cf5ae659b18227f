import QueryAudit.Proofs.Introspection.Trace
import QueryAudit.Proofs.Renaming

/-!
# Shapes do not come from names

Two catalogs that differ in the names of types only are introspected side by side. Types are
resolved along the same links in both, and wherever a type is put together the names go into names
and nowhere else, so that the snapshots have the same shapes in all places.
-/

namespace QueryAudit

/-- The row without the name of the type. -/
def TypeRow.nameless (row : TypeRow) : TypeRow :=
  { row with name := .null }

namespace Introspection

/-! ## Types -/

/-- Types apart from their names. -/
def shapes (types : Types) : Types :=
  Entries.mapValues DataType.shape types

variable {rows rows' : Entries Scalar TypeRow} {labels : Entries Scalar (List Scalar)}

theorem link?_nameless (row : TypeRow) : TypeRow.link? row.nameless = TypeRow.link? row :=
  rfl

theorem link?_eq_of_nameless {row row' : TypeRow} (h : row.nameless = row'.nameless) :
    TypeRow.link? row = TypeRow.link? row' := by
  rw [← link?_nameless, h, link?_nameless]

/-- The name of a type goes into its name and nowhere else. -/
theorem shape_leafType {row row' : TypeRow} {type type' : DataType}
    (hrow : row.nameless = row'.nameless) (h : leafType labels row = .ok type)
    (h' : leafType labels row' = .ok type') : type.shape = type'.shape := by
  have hkind : row.kind = row'.kind := (congrArg TypeRow.kind hrow :)
  have hoid : row.oid = row'.oid := (congrArg TypeRow.oid hrow :)
  by_cases henum : row.kind = .text "e"
  · obtain ⟨name, texts, -, htexts, rfl⟩ := (leafType_enum_eq_ok_iff henum).mp h
    obtain ⟨name', texts', -, htexts', rfl⟩ := (leafType_enum_eq_ok_iff (hkind ▸ henum)).mp h'
    rw [labelsOf, hoid, ← labelsOf] at htexts
    have hread : (labelsOf labels row').map Scalar.text? = texts.map some :=
      map_eq_map_of_related htexts fun _ _ h => h
    have hread' : (labelsOf labels row').map Scalar.text? = texts'.map some :=
      map_eq_map_of_related htexts' fun _ _ h => h
    have hsame : texts = texts' :=
      List.map_injective_iff.mpr (Option.some_injective _) (hread.symm.trans hread')
    rw [DataType.shape_enumeration, DataType.shape_enumeration, hsame]
  · obtain ⟨name, -, rfl⟩ := (leafType_plain_eq_ok_iff henum).mp h
    obtain ⟨name', -, rfl⟩ := (leafType_plain_eq_ok_iff (hkind ▸ henum)).mp h'
    rw [DataType.shape_scalar, DataType.shape_scalar]

theorem shapes_put (types : Types) (oid : Scalar) (type : DataType) :
    shapes (types.put oid type) = (shapes types).put oid type.shape :=
  Entries.mapValues_put _ _ _

section Resolve

variable {links : Nat} {oid : Scalar} {resolved resolved' after after' : Types}
  {type type' : DataType}

/-- Side by side, types are resolved to the same shapes: the same links are followed in both. -/
theorem shape_resolve (hrows : Entries.mapValues TypeRow.nameless rows =
      Entries.mapValues TypeRow.nameless rows') (hresolved : shapes resolved = shapes resolved')
    (h : resolve rows labels links oid resolved = .ok (type, after))
    (h' : resolve rows' labels links oid resolved' = .ok (type', after')) :
    type.shape = type'.shape ∧ shapes after = shapes after' := by
  induction links, oid using follow_induction rows resolved
    generalizing type type' after after' with
  | known links oid known hknown =>
    obtain ⟨known', hknown', hshape⟩ := Entries.exists_get?_of_mapValues_eq hresolved hknown
    rw [resolve_of_known hknown] at h
    rw [resolve_of_known hknown'] at h'
    cases h
    cases h'
    exact ⟨hshape, hresolved⟩
  | cut links oid hnew hcut =>
    have hnew' := Entries.get?_eq_none_of_mapValues_eq hresolved hnew
    have hcut' := hcut.imp_left (Entries.get?_eq_none_of_mapValues_eq hrows)
    rw [resolve_of_cut hnew hcut] at h
    rw [resolve_of_cut hnew' hcut'] at h'
    cases h
    cases h'
    exact ⟨rfl, hresolved⟩
  | leaf links oid row hnew hrow hlink =>
    have hnew' := Entries.get?_eq_none_of_mapValues_eq hresolved hnew
    obtain ⟨row', hrow', hsame⟩ := Entries.exists_get?_of_mapValues_eq hrows hrow
    rw [resolve_of_leaf hnew hrow hlink] at h
    rw [resolve_of_leaf hnew' hrow' (link?_eq_of_nameless hsame ▸ hlink)] at h'
    obtain ⟨leaf, hleaf, hfound⟩ := map_eq_ok_iff.mp h
    obtain ⟨leaf', hleaf', hfound'⟩ := map_eq_ok_iff.mp h'
    cases hfound
    cases hfound'
    have hshape := shape_leafType hsame hleaf hleaf'
    exact ⟨hshape, by rw [shapes_put, shapes_put, hresolved, hshape]⟩
  | base links oid row target hnew hrow hlink ih =>
    have hnew' := Entries.get?_eq_none_of_mapValues_eq hresolved hnew
    obtain ⟨row', hrow', hsame⟩ := Entries.exists_get?_of_mapValues_eq hrows hrow
    rw [resolve_of_base hnew hrow hlink] at h
    rw [resolve_of_base hnew' hrow' (link?_eq_of_nameless hsame ▸ hlink)] at h'
    obtain ⟨found, hrest, hfound⟩ := map_eq_ok_iff.mp h
    obtain ⟨found', hrest', hfound'⟩ := map_eq_ok_iff.mp h'
    cases hfound
    cases hfound'
    obtain ⟨hshape, hafter⟩ := ih hrest hrest'
    exact ⟨hshape, by rw [shapes_put, shapes_put, hafter, hshape]⟩
  | element links oid row target hnew hrow hlink ih =>
    have hnew' := Entries.get?_eq_none_of_mapValues_eq hresolved hnew
    obtain ⟨row', hrow', hsame⟩ := Entries.exists_get?_of_mapValues_eq hrows hrow
    rw [resolve_of_element hnew hrow hlink] at h
    rw [resolve_of_element hnew' hrow' (link?_eq_of_nameless hsame ▸ hlink)] at h'
    obtain ⟨found, hrest, hfound⟩ := map_eq_ok_iff.mp h
    obtain ⟨found', hrest', hfound'⟩ := map_eq_ok_iff.mp h'
    cases hfound
    cases hfound'
    obtain ⟨hshape, hafter⟩ := ih hrest hrest'
    have harray : (DataType.arrayOf found.1).shape = (DataType.arrayOf found'.1).shape := by
      rw [DataType.shape_arrayOf, DataType.shape_arrayOf, hshape]
    exact ⟨harray, by rw [shapes_put, shapes_put, hafter, harray]⟩

theorem shapes_resolveAll (hrows : Entries.mapValues TypeRow.nameless rows =
      Entries.mapValues TypeRow.nameless rows') {oids : List Scalar}
    (hresolved : shapes resolved = shapes resolved')
    (h : resolveAll rows labels oids resolved = .ok after)
    (h' : resolveAll rows' labels oids resolved' = .ok after') : shapes after = shapes after' := by
  induction oids generalizing resolved resolved' with
  | nil =>
    cases h
    cases h'
    exact hresolved
  | cons oid rest ih =>
    obtain ⟨⟨type, next⟩, hfirst, hrest⟩ := bind_eq_ok_iff.mp h
    obtain ⟨⟨type', next'⟩, hfirst', hrest'⟩ := bind_eq_ok_iff.mp h'
    exact ih (shape_resolve hrows hresolved hfirst hfirst').2 hrest hrest'

end Resolve

/-- Rows that differ in the names of types are found under the same numbers. -/
theorem mapValues_rowsByOid_eq {typeRows typeRows' : List TypeRow}
    (h : typeRows.map TypeRow.nameless = typeRows'.map TypeRow.nameless) :
    Entries.mapValues TypeRow.nameless (rowsByOid typeRows) =
      Entries.mapValues TypeRow.nameless (rowsByOid typeRows') := by
  have hblank (typeRows : List TypeRow) :
      Entries.mapValues TypeRow.nameless (rowsByOid typeRows) =
        Entries.ofList ((typeRows.map TypeRow.nameless).map fun row => (row.oid, row)) := by
    rw [rowsByOid, Entries.mapValues_ofList, Entries.mapValues, List.map_map, List.map_map]
    rfl
  rw [hblank, hblank, h]

/-- The registries of catalogs that differ in the names of types have the same shapes. -/
theorem shapes_registry {typeRows typeRows' : List TypeRow} {types types' : Types}
    (hrows : typeRows.map TypeRow.nameless = typeRows'.map TypeRow.nameless)
    (h : registry typeRows labels = .ok types) (h' : registry typeRows' labels = .ok types') :
    shapes types = shapes types' := by
  have hbyOid := mapValues_rowsByOid_eq hrows
  have hkeys : (rowsByOid typeRows).keys = (rowsByOid typeRows').keys := by
    rw [← Entries.keys_mapValues (rowsByOid typeRows), hbyOid, Entries.keys_mapValues]
  rw [registry, hkeys] at h
  exact shapes_resolveAll hbyOid rfl h h'

/-! ## Columns, tables and schemas -/

section Built

variable {types types' : Types}

theorem shape_typeOf (h : shapes types = shapes types') (oid : Scalar) :
    (typeOf types oid).shape = (typeOf types' oid).shape := by
  rw [typeOf, typeOf]
  cases hfound : types.get? oid with
  | some type =>
    obtain ⟨type', hfound', hshape⟩ := Entries.exists_get?_of_mapValues_eq h hfound
    rw [hfound']
    exact hshape
  | none => rw [Entries.get?_eq_none_of_mapValues_eq h hfound]

theorem isArray_eq_of_shape {type type' : DataType} (h : type.shape = type'.shape) :
    type.isArray = type'.isArray := by
  rw [← DataType.isArray_rename blank type, ← DataType.isArray_rename blank type']
  exact congrArg DataType.isArray h

theorem shape_columnType (h : shapes types = shapes types') (row : ColumnRow) :
    (columnType types row).shape = (columnType types' row).shape := by
  have htype := shape_typeOf h row.typeOid
  have harray := isArray_eq_of_shape htype
  simp only [columnType, harray]
  split
  · rw [DataType.shape_arrayOf, DataType.shape_arrayOf, htype]
  · exact htype

/-- The columns of alike types have the same shapes. -/
theorem shape_columns (h : shapes types = shapes types') {rows : List ColumnRow}
    {found found' : List (TableKey × Column)} (hfound : columns types rows = .ok found)
    (hfound' : columns types' rows = .ok found') :
    Entries.mapValues (Column.rename blank) found =
      Entries.mapValues (Column.rename blank) found' := by
  refine map_eq_map_of_runs (fun row => row) rfl (columns_eq_ok_iff.mp hfound)
    (columns_eq_ok_iff.mp hfound') ?_
  rintro row ⟨key, name, type, nullable, ordinal⟩ _ ⟨key', name', type', nullable', ordinal'⟩ rfl
    ⟨hkey, hown⟩ ⟨hkey', hown'⟩
  obtain ⟨hname, hnullable, hordinal, htype⟩ := column_eq_ok_iff.mp hown
  obtain ⟨hname', hnullable', hordinal', htype'⟩ := column_eq_ok_iff.mp hown'
  obtain rfl : key = key' := hkey.trans hkey'.symm
  obtain rfl : name = name' := Option.some.inj (hname.symm.trans hname')
  obtain rfl : nullable = nullable' := Option.some.inj (hnullable.symm.trans hnullable')
  obtain rfl : ordinal = ordinal' := Option.some.inj (hordinal.symm.trans hordinal')
  obtain rfl : type = columnType types row := htype
  obtain rfl : type' = columnType types' row := htype'
  have hshape : (columnType types row).rename blank = (columnType types' row).rename blank :=
    shape_columnType h row
  rw [Column.rename, Column.rename, hshape]

/-- The tables of alike columns have the same shapes. -/
theorem shape_tables {found found' : List (TableKey × Column)}
    (h : Entries.mapValues (Column.rename blank) found =
      Entries.mapValues (Column.rename blank) found')
    {rows : List TableRow} {tables tables' : List Table}
    (htables : List.Forall₂ (fun row result => table (Entries.group found) row = .ok result)
      rows tables)
    (htables' : List.Forall₂ (fun row result => table (Entries.group found') row = .ok result)
      rows tables') : tables.map (Table.rename blank) = tables'.map (Table.rename blank) := by
  have hown (key : TableKey) :
      (((Entries.group found).get? key).getD []).map (Column.rename blank) =
        (((Entries.group found').get? key).getD []).map (Column.rename blank) := by
    have hgroup : Entries.mapValues (List.map (Column.rename blank)) (Entries.group found) =
        Entries.mapValues (List.map (Column.rename blank)) (Entries.group found') := by
      rw [Entries.mapValues_group, Entries.mapValues_group, h]
    cases hfound : (Entries.group found).get? key with
    | some own =>
      obtain ⟨own', hfound', hsame⟩ := Entries.exists_get?_of_mapValues_eq hgroup hfound
      rw [hfound']
      exact hsame
    | none => rw [Entries.get?_eq_none_of_mapValues_eq hgroup hfound]
  refine map_eq_map_of_runs (fun row => row) rfl htables htables' ?_
  rintro row ⟨name, schemaName, oid, own⟩ _ ⟨name', schemaName', oid', own'⟩ rfl hfits hfits'
  obtain ⟨hname, hschema, hoid, hcolumns⟩ := table_eq_ok_iff.mp hfits
  obtain ⟨hname', hschema', hoid', hcolumns'⟩ := table_eq_ok_iff.mp hfits'
  obtain rfl : name = name' := Option.some.inj (hname.symm.trans hname')
  obtain rfl : schemaName = schemaName' := Option.some.inj (hschema.symm.trans hschema')
  obtain rfl : oid = oid' := Checked.ok.inj (hoid.symm.trans hoid')
  obtain rfl : own = _ := hcolumns
  obtain rfl : own' = _ := hcolumns'
  rw [Table.rename, Table.rename, hown]

/-- Filing tables takes their names and those of their schemas, which are no names of types. -/
theorem mapValues_filed (f : String → String) (namespaces : List Scalar) (tables : List Table) :
    Entries.mapValues (Entries.mapValues (Table.rename f)) (filed namespaces tables) =
      filed namespaces (tables.map (Table.rename f)) := by
  have hempty : Entries.mapValues (Entries.mapValues (Table.rename f)) (emptySchemas namespaces) =
      emptySchemas namespaces := by
    rw [emptySchemas, Entries.mapValues_ofList, Entries.mapValues, List.map_map]
    rfl
  have hstep (schemas : Entries Scalar (Entries String Table)) (table : Table) :
      fileTable (Entries.mapValues (Entries.mapValues (Table.rename f)) schemas) (table.rename f) =
        Entries.mapValues (Entries.mapValues (Table.rename f)) (fileTable schemas table) :=
    (Entries.mapValues_update (fun tables => Entries.mapValues_put tables table.name table)
      schemas _ []).symm
  rw [filed, filed, List.foldl_map]
  conv_rhs => rw [← hempty]
  refine (List.foldl_hom (Entries.mapValues (Entries.mapValues (Table.rename f))) ?_).symm
  exact hstep

/-- The schemas of alike columns have the same shapes. -/
theorem shape_schemas {found found' : List (TableKey × Column)}
    (h : Entries.mapValues (Column.rename blank) found =
      Entries.mapValues (Column.rename blank) found')
    {namespaces : List Scalar} {rows : List TableRow} {result result' : Entries String Schema}
    (hresult : schemas (Entries.group found) namespaces rows = .ok result)
    (hresult' : schemas (Entries.group found') namespaces rows = .ok result') :
    Entries.mapValues (Schema.rename blank) result =
      Entries.mapValues (Schema.rename blank) result' := by
  obtain ⟨tables, htables, hschemas⟩ := exists_tables_of_schemas hresult
  obtain ⟨tables', htables', hschemas'⟩ := exists_tables_of_schemas hresult'
  have hfiled : Entries.mapValues (Entries.mapValues (Table.rename blank))
        (filed namespaces tables) =
      Entries.mapValues (Entries.mapValues (Table.rename blank)) (filed namespaces tables') := by
    rw [mapValues_filed, mapValues_filed, shape_tables h htables htables']
  refine map_eq_map_of_runs _ hfiled hschemas hschemas' ?_
  rintro ⟨key, own⟩ ⟨name, schema⟩ ⟨key', own'⟩ ⟨name', schema'⟩ hsame ⟨hname, hschema⟩
    ⟨hname', hschema'⟩
  obtain ⟨rfl, hown⟩ := Prod.ext_iff.mp hsame
  obtain rfl : name = name' := Option.some.inj (hname.symm.trans hname')
  obtain rfl : schema = ⟨name, own⟩ := hschema
  obtain rfl : schema' = ⟨name, own'⟩ := hschema'
  exact congrArg (fun tables => (name, (⟨name, tables⟩ : Schema))) hown

/-! ## Functions -/

theorem shape_functions (h : shapes types = shapes types') {rows : List FunctionRow}
    {result result' : Entries String (List Signature)} (hresult : functions types rows = .ok result)
    (hresult' : functions types' rows = .ok result') :
    Entries.mapValues (List.map (Signature.rename blank)) result =
      Entries.mapValues (List.map (Signature.rename blank)) result' := by
  obtain ⟨named, hnamed, rfl⟩ := map_eq_ok_iff.mp hresult
  obtain ⟨named', hnamed', rfl⟩ := map_eq_ok_iff.mp hresult'
  suffices hsame : Entries.mapValues (Signature.rename blank) named =
      Entries.mapValues (Signature.rename blank) named' by
    rw [Entries.mapValues_group, Entries.mapValues_group, hsame]
  refine map_eq_map_of_runs (fun row => row) rfl (mapM_eq_ok_iff.mp hnamed)
    (mapM_eq_ok_iff.mp hnamed') ?_
  rintro row ⟨key, own, schemaName, names, parameters, returnType, set, composite⟩ _
    ⟨key', own', schemaName', names', parameters', returnType', set', composite'⟩ rfl hfits hfits'
  obtain ⟨name, hrow, hkey, hsignature⟩ := namedSignature_eq_ok_iff.mp hfits
  obtain ⟨name', hrow', hkey', hsignature'⟩ := namedSignature_eq_ok_iff.mp hfits'
  obtain ⟨hown, hschema, hnames, hset, hparameters, hreturn, hcomposite⟩ :=
    signature_eq_ok_iff.mp hsignature
  obtain ⟨hown', hschema', hnames', hset', hparameters', hreturn', hcomposite'⟩ :=
    signature_eq_ok_iff.mp hsignature'
  obtain rfl : name = name' := Scalar.text.inj (hrow.symm.trans hrow')
  obtain rfl : key = key' := hkey.trans hkey'.symm
  obtain rfl : own = own' := Option.some.inj (hown.symm.trans hown')
  obtain rfl : schemaName = schemaName' := Option.some.inj (hschema.symm.trans hschema')
  obtain rfl : names = names' := Checked.ok.inj (hnames.symm.trans hnames')
  obtain rfl : set = set' := Option.some.inj (hset.symm.trans hset')
  obtain rfl : composite = composite' := hcomposite.trans hcomposite'.symm
  obtain rfl : parameters = (row.argumentTypes.getD []).map (typeOf types) := hparameters
  obtain rfl : parameters' = (row.argumentTypes.getD []).map (typeOf types') := hparameters'
  obtain rfl : returnType = typeOf types row.returnType := hreturn
  obtain rfl : returnType' = typeOf types' row.returnType := hreturn'
  have hshape (oid : Scalar) : (typeOf types oid).rename blank = (typeOf types' oid).rename blank :=
    shape_typeOf h oid
  have hshapes : DataType.rename blank ∘ typeOf types = DataType.rename blank ∘ typeOf types' :=
    funext hshape
  simp only [Signature.rename, List.map_map, hshape, hshapes]

theorem shape_numbered (h : shapes types = shapes types') {result result' : Entries Int DataType}
    (hresult : numbered types = .ok result) (hresult' : numbered types' = .ok result') :
    Entries.mapValues DataType.shape result = Entries.mapValues DataType.shape result' := by
  obtain ⟨read, hread, rfl⟩ := numbered_eq_ok_iff.mp hresult
  obtain ⟨read', hread', rfl⟩ := numbered_eq_ok_iff.mp hresult'
  suffices hsame : Entries.mapValues DataType.shape read = Entries.mapValues DataType.shape read' by
    rw [Entries.mapValues_ofList, Entries.mapValues_ofList, hsame]
  refine map_eq_map_of_runs _ h hread hread' ?_
  rintro ⟨key, type⟩ ⟨oid, numbered⟩ ⟨key', type'⟩ ⟨oid', numbered'⟩ hsame ⟨hoid, hvalue⟩
    ⟨hoid', hvalue'⟩
  obtain ⟨rfl, hshape⟩ := Prod.ext_iff.mp hsame
  obtain rfl : oid = oid' := Option.some.inj (hoid.symm.trans hoid')
  obtain rfl : numbered = type := hvalue
  obtain rfl : numbered' = type' := hvalue'
  exact congrArg (oid, ·) hshape

end Built

/-! ## Snapshots -/

/-- Snapshots whose types have the same shapes in all places: in the registry, in the columns of
tables, and in the parameters and the results of functions. -/
structure SameShapes (snapshot other : Snapshot) : Prop where
  /-- The same types have the same numbers. -/
  types : Entries.mapValues DataType.shape snapshot.types =
    Entries.mapValues DataType.shape other.types
  /-- The schemas differ in the names of types only. -/
  schemas : Entries.mapValues (Schema.rename blank) snapshot.schemas =
    Entries.mapValues (Schema.rename blank) other.schemas
  /-- The functions differ in the names of types only. -/
  functions : Entries.mapValues (List.map (Signature.rename blank)) snapshot.functions =
    Entries.mapValues (List.map (Signature.rename blank)) other.functions

/-- Catalogs that differ in nothing but the names in the rows of types. -/
structure Renamed (catalog other : Catalog) : Prop where
  /-- Everything but the types is the same. -/
  rest : other = { catalog with types := other.types }
  /-- The types are the same apart from the names. -/
  types : catalog.types.map TypeRow.nameless = other.types.map TypeRow.nameless

variable {catalog other : Catalog}

theorem sameShapes_of_built {types types' : Types} {found found' : List (TableKey × Column)}
    {snapshot snapshot' : Snapshot} (hrenamed : Renamed catalog other)
    (h : Built catalog types found snapshot) (h' : Built other types' found' snapshot') :
    SameShapes snapshot snapshot' := by
  obtain ⟨hrest, htypes⟩ := hrenamed
  rw [hrest] at h'
  have hshapes := shapes_registry htypes h.registry h'.registry
  have hcolumns := shape_columns hshapes h.columns h'.columns
  exact ⟨shape_numbered hshapes (fitted_eq_ok_iff.mp h.numbered) (fitted_eq_ok_iff.mp h'.numbered),
    shape_schemas hcolumns h.schemas h'.schemas, shape_functions hshapes h.functions h'.functions⟩

/-- A name that is a text fits wherever another one did. -/
theorem TypeFits.of_nameless {labels : List LabelRow} {old row : TypeRow}
    (h : TypeFits labels old) (hsame : old.nameless = row.nameless)
    (hname : ∃ name, row.name = .text name) : TypeFits labels row := by
  have hkind : old.kind = row.kind := (congrArg TypeRow.kind hsame :)
  have hoid : old.oid = row.oid := (congrArg TypeRow.oid hsame :)
  rw [TypeFits, hkind, hoid] at h
  rw [TypeFits]
  by_cases henum : row.kind = .text "e"
  · rw [if_pos henum] at h ⊢
    obtain ⟨name, hname⟩ := hname
    exact ⟨⟨name, by rw [hname]; rfl⟩, h.2⟩
  · rw [if_neg henum]
    exact hname

/-- Catalogs pass under new names that are texts. -/
theorem passes_of_renamed (hrenamed : Renamed catalog other)
    (htexts : ∀ row ∈ other.types, ∃ name, row.name = .text name)
    (hpasses : ∀ part, Passes catalog part) (part : CatalogPart) : Passes other part := by
  obtain ⟨hrest, htypes⟩ := hrenamed
  generalize other.types = rows at hrest htypes htexts
  subst hrest
  have henums : Fits { catalog with types := rows } .enums := by
    intro oid row hrow hlink
    obtain ⟨old, hold, hsame⟩ :=
      Entries.exists_get?_of_mapValues_eq (mapValues_rowsByOid_eq htypes).symm hrow
    have hfits := (hpasses .enums).2 oid old hold (link?_eq_of_nameless hsame ▸ hlink)
    exact hfits.of_nameless hsame.symm (htexts row (mem_of_get?_rowsByOid hrow))
  refine ⟨(hpasses part).1, ?_⟩
  cases part with
  | types => trivial
  | enums => exact henums
  | columns => exact (hpasses .columns).2
  | namespaces => trivial
  | tables => exact (hpasses .tables).2
  | functions =>
    refine ⟨(hpasses .functions).2.1, fun types htypes' oid hoid => ?_⟩
    obtain ⟨old, hold⟩ := exists_registry_iff_fits.mpr (hpasses .enums).2
    have hshapes := shapes_registry htypes hold htypes'
    have hkeys : old.keys = types.keys := by
      rw [← Entries.keys_mapValues old, ← Entries.keys_mapValues types]
      exact congrArg Entries.keys hshapes
    exact (hpasses .functions).2.2 old hold oid (hkeys ▸ hoid)

/-- The shapes of types never come from names: where catalogs differ in nothing but the names of
types, their snapshots have the same shapes in all places, and new names that are texts leave the
catalogs with a snapshot. -/
theorem sameShapes_of_renamed (hrenamed : Renamed catalog other) (dsn target : String) :
    (∀ snapshot snapshot', (takeSnapshot catalog dsn).1 = .ok (.ok snapshot) →
      (takeSnapshot other target).1 = .ok (.ok snapshot') → SameShapes snapshot snapshot') ∧
      ((∀ row ∈ other.types, ∃ name, row.name = .text name) →
        (∃ snapshot, (takeSnapshot catalog dsn).1 = .ok (.ok snapshot)) →
          ∃ snapshot, (takeSnapshot other target).1 = .ok (.ok snapshot)) := by
  constructor
  · intro snapshot snapshot' h h'
    obtain ⟨types, found, hbuilt⟩ := exists_built h
    obtain ⟨types', found', hbuilt'⟩ := exists_built h'
    exact sameShapes_of_built hrenamed hbuilt hbuilt'
  · intro htexts h
    obtain ⟨hrefusal, hpasses⟩ := (taken catalog dsn).exists_snapshot_iff.mp h
    have hrefusal' : other.refusal = none := by
      rw [hrenamed.rest]
      exact hrefusal
    exact (taken other target).exists_snapshot_iff.mpr
      ⟨hrefusal', passes_of_renamed hrenamed htexts hpasses⟩

/-- A database of one type and the arrays of it, both under one name. -/
def oneType (name : String) : Catalog where
  refusal := none
  closeFailure := none
  failure := fun _ => none
  types := [⟨.int 23, .text name, .text "b", .text "N", .int 0, .int 0⟩,
    ⟨.int 1007, .text name, .text "b", .text "A", .int 23, .int 0⟩]
  labels := []
  namespaces := []
  tables := []
  columns := []
  functions := []

theorem renamed_oneType (name name' : String) : Renamed (oneType name) (oneType name') :=
  ⟨rfl, rfl⟩

theorem registry_oneType (name : String) :
    registry (oneType name).types (labelsRead (oneType name)) =
      .ok [(.int 23, .scalar (TypeMap.canonicalName name)),
        (.int 1007, .arrayOf (.scalar (TypeMap.canonicalName name)))] :=
  rfl

theorem passes_oneType (name : String) (part : CatalogPart) : Passes (oneType name) part :=
  ⟨rfl, fits_typesOnly (registry_oneType name) (by simp [Entries.keys]) part⟩

/-- A name that looks like that of an array. -/
theorem sameShapes_oneType :
    Renamed (oneType "int4") (oneType "_int4[]") ∧ ∃ snapshot snapshot',
      (takeSnapshot (oneType "int4") "").1 = .ok (.ok snapshot) ∧
        (takeSnapshot (oneType "_int4[]") "").1 = .ok (.ok snapshot') ∧
        SameShapes snapshot snapshot' := by
  have hrenamed := renamed_oneType "int4" "_int4[]"
  obtain ⟨snapshot, h⟩ :=
    (taken (oneType "int4") "").exists_snapshot_iff.mpr ⟨rfl, passes_oneType "int4"⟩
  obtain ⟨snapshot', h'⟩ :=
    (taken (oneType "_int4[]") "").exists_snapshot_iff.mpr ⟨rfl, passes_oneType "_int4[]"⟩
  exact ⟨hrenamed, snapshot, snapshot', h, h',
    (sameShapes_of_renamed hrenamed "" "").1 snapshot snapshot' h h'⟩

end Introspection

end QueryAudit
