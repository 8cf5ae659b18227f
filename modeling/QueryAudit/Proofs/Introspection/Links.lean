import QueryAudit.Proofs.Introspection.Fitting

/-!
# Types along their links

The type of a number when every link is followed and nothing is kept: a domain is what its base is,
an array is an array of its element, and a row without a link speaks for itself. Resolving keeps
what it has seen and stops at the greatest number of links. Where all chains of links end before
that, the registry has just the types along the links, in whatever order the rows come.
-/

namespace QueryAudit

/-- The row of the type with a number. Of several rows with one number the last one counts. -/
def Catalog.typeRow? (catalog : Catalog) : Scalar → Option TypeRow :=
  (Introspection.rowsByOid catalog.types).get?

namespace Introspection

variable {find : Scalar → Option TypeRow} {labels : List LabelRow}

/-! ## Chains of links -/

/-- The number of the type to which a link leads. -/
def Link.target : Link → Scalar
  | .base oid => oid
  | .element oid => oid

/-- From the number at most so many links are followed, one after the other, until a row has no link
or a number has no row. -/
inductive EndsWithin (find : Scalar → Option TypeRow) : Nat → Scalar → Prop where
  /-- A number without a row. -/
  | absent {links : Nat} {oid : Scalar} : find oid = none → EndsWithin find links oid
  /-- A row without a link. -/
  | leaf {links : Nat} {oid : Scalar} {row : TypeRow} : find oid = some row →
    TypeRow.link? row = none → EndsWithin find links oid
  /-- A row with a link, which is one more. -/
  | link {links : Nat} {oid : Scalar} {row : TypeRow} {link : Link} : find oid = some row →
    TypeRow.link? row = some link → EndsWithin find links link.target →
    EndsWithin find (links + 1) oid

/-- Behind a link there is one link less to follow. -/
theorem EndsWithin.of_link {links : Nat} {oid : Scalar} {row : TypeRow} {link : Link}
    (h : EndsWithin find links oid) (hrow : find oid = some row)
    (hlink : TypeRow.link? row = some link) :
    ∃ rest, links = rest + 1 ∧ EndsWithin find rest link.target := by
  cases h with
  | absent hnone =>
    rw [hrow] at hnone
    cases hnone
  | leaf hother hnone =>
    obtain rfl := Option.some.inj (hrow.symm.trans hother)
    rw [hlink] at hnone
    cases hnone
  | link hother hlink' hrest =>
    obtain rfl := Option.some.inj (hrow.symm.trans hother)
    obtain rfl := Option.some.inj (hlink.symm.trans hlink')
    exact ⟨_, rfl, hrest⟩

/-! ## The type at the end of a chain -/

/-- The labels of the enumeration with a number, in the order of their rows. -/
def labelsAt (labels : List LabelRow) (oid : Scalar) : List Scalar :=
  (labels.filter fun label => oid == label.oid).map LabelRow.label

theorem labelsOf_labelsRead (catalog : Catalog) (row : TypeRow) :
    labelsOf (labelsRead catalog) row = labelsAt catalog.labels row.oid := by
  rw [labelsOf, labelsRead, Entries.getD_get?_group, Entries.valuesAt, List.filter_map,
    List.map_map]
  rfl

/-- The type of a number, found by following the links from it. -/
inductive Denotes (find : Scalar → Option TypeRow) (labels : List LabelRow) :
    Scalar → DataType → Prop where
  /-- A number without a row is a type about which nothing is known. -/
  | absent {oid : Scalar} : find oid = none → Denotes find labels oid .unknown
  /-- A domain is the type under it. -/
  | domain {oid base : Scalar} {row : TypeRow} {type : DataType} : find oid = some row →
    TypeRow.link? row = some (.base base) → Denotes find labels base type →
    Denotes find labels oid type
  /-- An array is an array of its element. -/
  | array {oid element : Scalar} {row : TypeRow} {type : DataType} : find oid = some row →
    TypeRow.link? row = some (.element element) → Denotes find labels element type →
    Denotes find labels oid (.arrayOf type)
  /-- An enumeration has the labels with its number. -/
  | enumeration {oid : Scalar} {row : TypeRow} {name : String} {texts : List String} :
    find oid = some row → TypeRow.link? row = none → row.kind = .text "e" →
    row.name.text? = some name →
    List.Forall₂ (fun label text => label.text? = some text) (labelsAt labels row.oid) texts →
    Denotes find labels oid (.enumeration name texts)
  /-- Any other type has the name that the catalog uses for it. -/
  | plain {oid : Scalar} {row : TypeRow} {name : String} : find oid = some row →
    TypeRow.link? row = none → row.kind ≠ .text "e" → row.name = .text name →
    Denotes find labels oid (.scalar (TypeMap.canonicalName name))

namespace Denotes

variable {oid : Scalar} {row : TypeRow} {type : DataType} {catalog : Catalog}

/-- Alike numbers denote the same types. -/
theorem congr {rows : Entries Scalar TypeRow} {other : Scalar}
    (h : Denotes rows.get? labels oid type) (halike : oid == other) :
    Denotes rows.get? labels other type := by
  have hget := Entries.get?_congr rows halike
  cases h with
  | absent hnone => exact .absent (hget ▸ hnone)
  | domain hrow hlink hbase => exact .domain (hget ▸ hrow) hlink hbase
  | array hrow hlink helement => exact .array (hget ▸ hrow) hlink helement
  | enumeration hrow hlink hkind hname htexts =>
    exact .enumeration (hget ▸ hrow) hlink hkind hname htexts
  | plain hrow hlink hkind hname => exact .plain (hget ▸ hrow) hlink hkind hname

/-- What a row with this number says of the type. -/
theorem of_row (h : Denotes find catalog.labels oid type) (hrow : find oid = some row) :
    (∃ base, TypeRow.link? row = some (.base base) ∧ Denotes find catalog.labels base type) ∨
      (∃ element inner, TypeRow.link? row = some (.element element) ∧
        Denotes find catalog.labels element inner ∧ type = .arrayOf inner) ∨
      TypeRow.link? row = none ∧ leafType (labelsRead catalog) row = .ok type := by
  cases h with
  | absent hnone =>
    rw [hrow] at hnone
    cases hnone
  | domain hother hlink hbase =>
    obtain rfl := Option.some.inj (hrow.symm.trans hother)
    exact Or.inl ⟨_, hlink, hbase⟩
  | array hother hlink helement =>
    obtain rfl := Option.some.inj (hrow.symm.trans hother)
    exact Or.inr (Or.inl ⟨_, _, hlink, helement, rfl⟩)
  | enumeration hother hlink hkind hname htexts =>
    obtain rfl := Option.some.inj (hrow.symm.trans hother)
    rw [← labelsOf_labelsRead] at htexts
    exact Or.inr (Or.inr ⟨hlink, (leafType_enum_eq_ok_iff hkind).mpr ⟨_, _, hname, htexts, rfl⟩⟩)
  | plain hother hlink hkind hname =>
    obtain rfl := Option.some.inj (hrow.symm.trans hother)
    exact Or.inr (Or.inr ⟨hlink, (leafType_plain_eq_ok_iff hkind).mpr ⟨_, hname, rfl⟩⟩)

/-- A row without a link denotes what is made of the row alone. -/
theorem leaf_iff (hrow : find oid = some row) (hlink : TypeRow.link? row = none) :
    Denotes find catalog.labels oid type ↔ leafType (labelsRead catalog) row = .ok type := by
  constructor
  · intro h
    rcases h.of_row hrow with ⟨_, hbase, -⟩ | ⟨_, _, helement, -, -⟩ | ⟨-, hleaf⟩
    · rw [hlink] at hbase
      cases hbase
    · rw [hlink] at helement
      cases helement
    · exact hleaf
  · intro hleaf
    by_cases hkind : row.kind = .text "e"
    · obtain ⟨name, texts, hname, htexts, rfl⟩ := (leafType_enum_eq_ok_iff hkind).mp hleaf
      rw [labelsOf_labelsRead] at htexts
      exact .enumeration hrow hlink hkind hname htexts
    · obtain ⟨name, hname, rfl⟩ := (leafType_plain_eq_ok_iff hkind).mp hleaf
      exact .plain hrow hlink hkind hname

theorem unique_of_leaf {other : DataType} (h : Denotes find catalog.labels oid type)
    (h' : Denotes find catalog.labels oid other) (hrow : find oid = some row)
    (hlink : TypeRow.link? row = none) : type = other := by
  have hleaf := (leaf_iff hrow hlink).mp h
  have hleaf' := (leaf_iff hrow hlink).mp h'
  exact Except.ok.inj (hleaf.symm.trans hleaf')

/-- A number denotes one type at most. -/
theorem unique {other : DataType} (h : Denotes find catalog.labels oid type)
    (h' : Denotes find catalog.labels oid other) : type = other := by
  induction h generalizing other with
  | absent hnone =>
    cases h' with
    | absent => rfl
    | domain hrow | array hrow | enumeration hrow | plain hrow =>
      rw [hnone] at hrow
      cases hrow
  | domain hrow hlink _ ih =>
    rcases h'.of_row hrow with ⟨base, hbase, hrest⟩ | ⟨_, _, helement, -, -⟩ | ⟨hnone, -⟩
    · rw [hlink] at hbase
      cases hbase
      exact ih hrest
    · rw [hlink] at helement
      cases helement
    · rw [hlink] at hnone
      cases hnone
  | array hrow hlink _ ih =>
    rcases h'.of_row hrow with ⟨_, hbase, -⟩ | ⟨element, inner, helement, hrest, rfl⟩ | ⟨hnone, -⟩
    · rw [hlink] at hbase
      cases hbase
    · rw [hlink] at helement
      cases helement
      rw [ih hrest]
    · rw [hlink] at hnone
      cases hnone
  | enumeration hrow hlink hkind hname htexts =>
    exact unique_of_leaf (.enumeration hrow hlink hkind hname htexts) h' hrow hlink
  | plain hrow hlink hkind hname =>
    exact unique_of_leaf (.plain hrow hlink hkind hname) h' hrow hlink

end Denotes

/-! ## What the registry holds -/

/-- Every type that has been resolved is the one that its number denotes. -/
def Faithful (rows : Entries Scalar TypeRow) (labels : List LabelRow) (types : Types) : Prop :=
  ∀ oid type, types.get? oid = some type → Denotes rows.get? labels oid type

variable {rows : Entries Scalar TypeRow} {catalog : Catalog}

theorem Faithful.put {types : Types} (h : Faithful rows labels types) {oid : Scalar}
    {type : DataType} (htype : Denotes rows.get? labels oid type) :
    Faithful rows labels (types.put oid type) := by
  intro other found hfound
  rw [Entries.get?_put] at hfound
  split at hfound
  · rename_i halike
    cases hfound
    exact htype.congr (BEq.symm halike)
  · exact h other found hfound

/-- Where the chain ends before the greatest number of links, what is resolved is the type at its
end, whether it is looked up or followed. -/
theorem faithful_resolve {links : Nat} {oid : Scalar} {resolved after : Types} {type : DataType}
    (h : resolve rows (labelsRead catalog) links oid resolved = .ok (type, after)) {chain : Nat}
    (hends : EndsWithin rows.get? chain oid) (hchain : chain < links)
    (hresolved : Faithful rows catalog.labels resolved) :
    Denotes rows.get? catalog.labels oid type ∧ Faithful rows catalog.labels after := by
  refine resolve_induction rows (labelsRead catalog)
    (P := fun links oid resolved type after => ∀ chain, EndsWithin rows.get? chain oid →
      chain < links → Faithful rows catalog.labels resolved →
        Denotes rows.get? catalog.labels oid type ∧ Faithful rows catalog.labels after)
    ?known ?cut ?leaf ?base ?element h chain hends hchain hresolved
  case known =>
    intro _ oid resolved type hknown _ _ _ hresolved
    exact ⟨hresolved oid type hknown, hresolved⟩
  case cut =>
    rintro links oid resolved - (hnone | rfl) chain - hchain hresolved
    · exact ⟨.absent hnone, hresolved⟩
    · exact absurd hchain (Nat.not_lt_zero chain)
  case leaf =>
    intro _ oid resolved row type hrow hlink hleaf _ _ _ hresolved
    have htype := (Denotes.leaf_iff hrow hlink).mpr hleaf
    exact ⟨htype, hresolved.put htype⟩
  case base =>
    intro links oid resolved row base type after hrow hlink ih chain hends hchain hresolved
    -- Behind the link there is one link less to follow and one less that may be followed.
    obtain ⟨rest, rfl, hrest⟩ := hends.of_link hrow hlink
    obtain ⟨hbase, hafter⟩ := ih rest hrest (Nat.lt_of_succ_lt_succ hchain) hresolved
    have htype := Denotes.domain hrow hlink hbase
    exact ⟨htype, hafter.put htype⟩
  case element =>
    intro links oid resolved row element type after hrow hlink ih chain hends hchain hresolved
    obtain ⟨rest, rfl, hrest⟩ := hends.of_link hrow hlink
    obtain ⟨helement, hafter⟩ := ih rest hrest (Nat.lt_of_succ_lt_succ hchain) hresolved
    have htype := Denotes.array hrow hlink helement
    exact ⟨htype, hafter.put htype⟩

theorem faithful_resolveAll {oids : List Scalar} {resolved types : Types}
    (h : resolveAll rows (labelsRead catalog) oids resolved = .ok types)
    (hends : ∀ oid ∈ oids, EndsWithin rows.get? linkLimit oid)
    (hresolved : Faithful rows catalog.labels resolved) : Faithful rows catalog.labels types := by
  induction oids generalizing resolved with
  | nil =>
    cases h
    exact hresolved
  | cons oid rest ih =>
    obtain ⟨⟨type, after⟩, hfirst, hrest⟩ := bind_eq_ok_iff.mp h
    have hoid := hends oid List.mem_cons_self
    have hafter := (faithful_resolve hfirst hoid (Nat.lt_succ_self linkLimit) hresolved).2
    exact ih hrest (fun other hother => hends other (List.mem_cons_of_mem _ hother)) hafter

theorem faithful_registry {types : Types}
    (h : registry catalog.types (labelsRead catalog) = .ok types)
    (hends : ∀ row ∈ catalog.types, EndsWithin catalog.typeRow? linkLimit row.oid) :
    Faithful (rowsByOid catalog.types) catalog.labels types := by
  refine faithful_resolveAll h (fun oid hoid => ?_) fun oid type hnone => by cases hnone
  obtain ⟨pair, hpair, rfl⟩ := List.mem_map.mp (Entries.mem_keys_ofList hoid)
  obtain ⟨row, hrow, rfl⟩ := List.mem_map.mp hpair
  exact hends row hrow

theorem Faithful.get?_eq_some_iff {types : Types}
    (hfaithful : Faithful (rowsByOid catalog.types) catalog.labels types)
    (h : registry catalog.types (labelsRead catalog) = .ok types) {row : TypeRow}
    (hrow : row ∈ catalog.types) {type : DataType} :
    types.get? row.oid = some type ↔ Denotes catalog.typeRow? catalog.labels row.oid type := by
  constructor
  · exact hfaithful row.oid type
  · intro htype
    obtain ⟨found, hfound⟩ := exists_get?_registry h hrow
    rw [hfound, htype.unique (hfaithful row.oid found hfound)]

/-- A registry is missing when some number denotes nothing, because a name or a label is no text. -/
theorem exists_registry_of_denotes
    (h : ∀ row ∈ catalog.types, ∃ type, Denotes catalog.typeRow? catalog.labels row.oid type) :
    ∃ types, registry catalog.types (labelsRead catalog) = .ok types := by
  refine exists_registry_iff.mpr fun oid row hrow hlink => ?_
  obtain ⟨type, htype⟩ := h row (mem_of_get?_rowsByOid hrow)
  have hown : catalog.typeRow? row.oid = some row :=
    (Entries.get?_congr _ (BEq.symm (beq_of_get?_rowsByOid hrow))).trans hrow
  exact ⟨type, (Denotes.leaf_iff hown hlink).mp htype⟩

/-- Faithful registries of the same rows are the same. -/
theorem Faithful.get?_eq {rows' : Entries Scalar TypeRow} {types types' : Types}
    (h : Faithful rows catalog.labels types) (h' : Faithful rows' catalog.labels types')
    (hrows : rows'.get? = rows.get?)
    (hkeys : ∀ oid, (types'.get? oid).isSome = (types.get? oid).isSome) (oid : Scalar) :
    types'.get? oid = types.get? oid := by
  have hkey := hkeys oid
  cases hfound : types.get? oid with
  | some type =>
    rw [hfound] at hkey
    obtain ⟨type', hfound'⟩ := Option.isSome_iff_exists.mp hkey
    have htype' := h' oid type' hfound'
    rw [hrows] at htype'
    rw [hfound', htype'.unique (h oid type hfound)]
  | none =>
    rw [hfound] at hkey
    exact Option.not_isSome_iff_eq_none.mp (ne_true_of_eq_false hkey)

/-- The registry does not depend on the order of rows with numbers of their own. -/
theorem exists_registry_of_perm {types : Types}
    (hends : ∀ row ∈ catalog.types, EndsWithin catalog.typeRow? linkLimit row.oid)
    (h : registry catalog.types (labelsRead catalog) = .ok types) (hapart : OidsApart catalog.types)
    {rows : List TypeRow} (hperm : catalog.types.Perm rows) :
    ∃ types', registry rows (labelsRead catalog) = .ok types' ∧
      ∀ oid, types'.get? oid = types.get? oid := by
  let other : Catalog := { catalog with types := rows }
  have hrows : other.typeRow? = catalog.typeRow? := hapart.get?_rowsByOid_of_perm hperm
  have hfaithful := faithful_registry h hends
  have hends' : ∀ row ∈ other.types, EndsWithin other.typeRow? linkLimit row.oid := by
    intro row hrow
    rw [hrows]
    exact hends row (hperm.mem_iff.mpr hrow)
  have hdenotes : ∀ row ∈ other.types, ∃ type,
      Denotes other.typeRow? other.labels row.oid type := by
    intro row hrow
    obtain ⟨type, htype⟩ := exists_get?_registry h (hperm.mem_iff.mpr hrow)
    rw [hrows]
    exact ⟨type, hfaithful row.oid type htype⟩
  obtain ⟨types', h'⟩ := exists_registry_of_denotes hdenotes
  have hfaithful' : Faithful (rowsByOid rows) catalog.labels types' := faithful_registry h' hends'
  refine ⟨types', h', hfaithful.get?_eq hfaithful' hrows fun oid => ?_⟩
  rw [isSome_get?_registry h', isSome_get?_registry h]
  exact congrArg Option.isSome (congrFun hrows oid)

/-- Where at most sixteen links are followed from any row, the registry has for each row the type
that its number denotes, and it is there when every number denotes one. The order of the rows does
not count where no two rows have the same number. -/
theorem registry_denotes
    (hends : ∀ row ∈ catalog.types, EndsWithin catalog.typeRow? 16 row.oid) :
    ((∃ types, registry catalog.types (labelsRead catalog) = .ok types) ↔
        ∀ row ∈ catalog.types, ∃ type, Denotes catalog.typeRow? catalog.labels row.oid type) ∧
      ∀ types, registry catalog.types (labelsRead catalog) = .ok types →
        (∀ row ∈ catalog.types, ∀ type, types.get? row.oid = some type ↔
          Denotes catalog.typeRow? catalog.labels row.oid type) ∧
        (OidsApart catalog.types → ∀ rows, catalog.types.Perm rows →
          ∃ types', registry rows (labelsRead catalog) = .ok types' ∧
            ∀ oid, types'.get? oid = types.get? oid) := by
  constructor
  · refine ⟨?_, exists_registry_of_denotes⟩
    rintro ⟨types, htypes⟩ row hrow
    obtain ⟨type, htype⟩ := exists_get?_registry htypes hrow
    exact ⟨type, faithful_registry htypes hends row.oid type htype⟩
  · intro types htypes
    refine ⟨fun row hrow type => ?_, fun hapart rows hperm => ?_⟩
    · exact (faithful_registry htypes hends).get?_eq_some_iff htypes hrow
    · exact exists_registry_of_perm hends htypes hapart hperm

/-- The row of an enumeration of moods. -/
def mood : TypeRow :=
  ⟨.int 2, .text "mood", .text "e", .text "E", .int 0, .int 0⟩

/-- A database with an enumeration, the arrays of it, a domain over these arrays, and a domain over
a type that is not there. -/
def moods : Catalog :=
  typesOnly
    [⟨.int 4, .text "feelings", .text "d", .text "A", .int 0, .int 3⟩,
      ⟨.int 3, .text "mood[]", .text "b", .text "A", .int 2, .int 0⟩, mood,
      ⟨.int 5, .text "orphan", .text "d", .text "S", .int 0, .int 99⟩]
    [⟨.int 2, .text "sad"⟩, ⟨.int 2, .text "happy"⟩]

theorem endsWithin_moods : ∀ row ∈ moods.types, EndsWithin moods.typeRow? 16 row.oid := by
  have hmood : EndsWithin moods.typeRow? 14 (.int 2) := .leaf rfl rfl
  have harray : EndsWithin moods.typeRow? 15 (.int 3) := .link rfl rfl hmood
  have hfeelings : EndsWithin moods.typeRow? 16 (.int 4) := .link rfl rfl harray
  have hnothing : EndsWithin moods.typeRow? 15 (.int 99) := .absent rfl
  have horphan : EndsWithin moods.typeRow? 16 (.int 5) := .link rfl rfl hnothing
  simp only [moods, typesOnly, List.forall_mem_cons]
  exact ⟨hfeelings, .link rfl rfl (.leaf rfl rfl), .leaf rfl rfl, horphan, by simp⟩

/-- The domain over the arrays of moods is an array of moods, in whatever order the rows come. -/
theorem feelings_denote_moods :
    (∀ row ∈ moods.types, EndsWithin moods.typeRow? 16 row.oid) ∧
      ∃ types, registry moods.types (labelsRead moods) = .ok types ∧
        types.get? (.int 4) = some (.arrayOf (.enumeration "mood" ["sad", "happy"])) ∧
        types.get? (.int 5) = some .unknown ∧
        ∃ types', registry moods.types.reverse (labelsRead moods) = .ok types' ∧
          ∀ oid, types'.get? oid = types.get? oid := by
  have hmood : Denotes moods.typeRow? moods.labels (.int 2)
      (.enumeration "mood" ["sad", "happy"]) :=
    .enumeration rfl rfl rfl rfl (.cons rfl (.cons rfl .nil))
  have harray : Denotes moods.typeRow? moods.labels (.int 3)
      (.arrayOf (.enumeration "mood" ["sad", "happy"])) := .array rfl rfl hmood
  have hfeelings : Denotes moods.typeRow? moods.labels (.int 4)
      (.arrayOf (.enumeration "mood" ["sad", "happy"])) := .domain rfl rfl harray
  have hnothing : Denotes moods.typeRow? moods.labels (.int 99) .unknown := .absent rfl
  have horphan : Denotes moods.typeRow? moods.labels (.int 5) .unknown := .domain rfl rfl hnothing
  obtain ⟨hexists, hregistry⟩ := registry_denotes endsWithin_moods
  obtain ⟨types, htypes⟩ := hexists.mpr (by
    simp only [moods, typesOnly, List.forall_mem_cons]
    exact ⟨⟨_, hfeelings⟩, ⟨_, harray⟩, ⟨_, hmood⟩, ⟨_, horphan⟩, by simp⟩)
  obtain ⟨hdenotes, horder⟩ := hregistry types htypes
  have hapart : OidsApart moods.types := by decide
  refine ⟨endsWithin_moods, types, htypes, ?_, ?_, horder hapart _ (List.reverse_perm _).symm⟩
  · exact (hdenotes _ List.mem_cons_self _).mpr hfeelings
  · exact (hdenotes ⟨.int 5, .text "orphan", .text "d", .text "S", .int 0, .int 99⟩
      (by simp [moods, typesOnly]) _).mpr horphan

end Introspection

end QueryAudit
