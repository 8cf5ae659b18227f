import QueryAudit.Proofs.Entries
import QueryAudit.Proofs.Introspection.Rows

/-!
# The registry of types

Types are resolved one after the other, each along its links, and what was resolved is kept. One
principle of induction follows the links; with it the registry is seen to have a type for every row
and for nothing else, and to fail for nothing but a row without a link that does not fit.
-/

namespace QueryAudit.Introspection

variable {rows : Entries Scalar TypeRow} {labels : Entries Scalar (List Scalar)}

/-! ## Along the links -/

theorem resolve_of_known {resolved : Types} {oid : Scalar} {type : DataType}
    (h : resolved.get? oid = some type) (links : Nat) :
    resolve rows labels links oid resolved = .ok (type, resolved) := by
  unfold resolve
  simp only [h]

theorem resolve_of_cut {resolved : Types} {oid : Scalar} {links : Nat}
    (h : resolved.get? oid = none) (hcut : rows.get? oid = none ∨ links = 0) :
    resolve rows labels links oid resolved = .ok (.unknown, resolved) := by
  unfold resolve
  cases hrow : rows.get? oid with
  | none => simp only [h]
  | some row =>
    obtain rfl : links = 0 := by simpa [hrow] using hcut
    simp only [h]

section Row

variable {resolved : Types} {oid : Scalar} {row : TypeRow}

theorem resolve_of_leaf (h : resolved.get? oid = none) (hrow : rows.get? oid = some row)
    (hlink : TypeRow.link? row = none) (links : Nat) :
    resolve rows labels (links + 1) oid resolved =
      (fun type => (type, resolved.put oid type)) <$> leafType labels row := by
  conv => lhs; unfold resolve
  simp only [h, hrow, hlink]
  cases leafType labels row <;> rfl

theorem resolve_of_base {base : Scalar} (h : resolved.get? oid = none)
    (hrow : rows.get? oid = some row) (hlink : TypeRow.link? row = some (.base base))
    (links : Nat) :
    resolve rows labels (links + 1) oid resolved =
      (fun found => (found.1, found.2.put oid found.1)) <$>
        resolve rows labels links base resolved := by
  conv => lhs; unfold resolve
  simp only [h, hrow, hlink]
  cases resolve rows labels links base resolved <;> rfl

theorem resolve_of_element {element : Scalar} (h : resolved.get? oid = none)
    (hrow : rows.get? oid = some row) (hlink : TypeRow.link? row = some (.element element))
    (links : Nat) :
    resolve rows labels (links + 1) oid resolved =
      (fun found => (.arrayOf found.1, found.2.put oid (.arrayOf found.1))) <$>
        resolve rows labels links element resolved := by
  conv => lhs; unfold resolve
  simp only [h, hrow, hlink]
  cases resolve rows labels links element resolved <;> rfl

end Row

variable (rows) in
/-- From a number, links are followed up to one whose type is known, one where the chain is cut off,
or one whose row has no link. -/
theorem follow_induction (resolved : Types) {P : Nat → Scalar → Prop}
    (known : ∀ links oid type, resolved.get? oid = some type → P links oid)
    (cut : ∀ links oid, resolved.get? oid = none → rows.get? oid = none ∨ links = 0 → P links oid)
    (leaf : ∀ links oid row, resolved.get? oid = none → rows.get? oid = some row →
      TypeRow.link? row = none → P (links + 1) oid)
    (base : ∀ links oid row base, resolved.get? oid = none → rows.get? oid = some row →
      TypeRow.link? row = some (.base base) → P links base → P (links + 1) oid)
    (element : ∀ links oid row element, resolved.get? oid = none → rows.get? oid = some row →
      TypeRow.link? row = some (.element element) → P links element → P (links + 1) oid)
    (links : Nat) (oid : Scalar) : P links oid := by
  induction links generalizing oid with
  | zero =>
    cases hknown : resolved.get? oid with
    | some type => exact known _ _ _ hknown
    | none => exact cut _ _ hknown (Or.inr rfl)
  | succ links ih =>
    cases hknown : resolved.get? oid with
    | some type => exact known _ _ _ hknown
    | none =>
      cases hrow : rows.get? oid with
      | none => exact cut _ _ hknown (Or.inl hrow)
      | some row =>
        cases hlink : TypeRow.link? row with
        | none => exact leaf _ _ _ hknown hrow hlink
        | some link =>
          cases link with
          | base target => exact base _ _ _ _ hknown hrow hlink (ih target)
          | element target => exact element _ _ _ _ hknown hrow hlink (ih target)

variable (rows labels) in
/-- What holds of a type that is known already and of one that is cut off, and is carried over each
link, holds of every type that is resolved. -/
theorem resolve_induction {P : Nat → Scalar → Types → DataType → Types → Prop}
    (known : ∀ links oid resolved type, resolved.get? oid = some type →
      P links oid resolved type resolved)
    (cut : ∀ links oid resolved, resolved.get? oid = none → rows.get? oid = none ∨ links = 0 →
      P links oid resolved .unknown resolved)
    (leaf : ∀ links oid resolved row type, rows.get? oid = some row → TypeRow.link? row = none →
      leafType labels row = .ok type → P (links + 1) oid resolved type (resolved.put oid type))
    (base : ∀ links oid resolved row base type after, rows.get? oid = some row →
      TypeRow.link? row = some (.base base) → P links base resolved type after →
      P (links + 1) oid resolved type (after.put oid type))
    (element : ∀ links oid resolved row element type after, rows.get? oid = some row →
      TypeRow.link? row = some (.element element) → P links element resolved type after →
      P (links + 1) oid resolved (.arrayOf type) (after.put oid (.arrayOf type)))
    {links : Nat} {oid : Scalar} {resolved : Types} {type : DataType} {after : Types}
    (h : resolve rows labels links oid resolved = .ok (type, after)) :
    P links oid resolved type after := by
  induction links, oid using follow_induction rows resolved generalizing type after with
  | known links oid found hknown =>
    rw [resolve_of_known hknown] at h
    cases h
    exact known _ _ _ _ hknown
  | cut links oid hnew hcut =>
    rw [resolve_of_cut hnew hcut] at h
    cases h
    exact cut _ _ _ hnew hcut
  | leaf links oid row hnew hrow hlink =>
    rw [resolve_of_leaf hnew hrow hlink] at h
    obtain ⟨found, hleaf, hfound⟩ := map_eq_ok_iff.mp h
    cases hfound
    exact leaf _ _ _ _ _ hrow hlink hleaf
  | base links oid row target hnew hrow hlink ih =>
    rw [resolve_of_base hnew hrow hlink] at h
    obtain ⟨found, hrest, hfound⟩ := map_eq_ok_iff.mp h
    cases hfound
    exact base _ _ _ _ _ _ _ hrow hlink (ih hrest)
  | element links oid row target hnew hrow hlink ih =>
    rw [resolve_of_element hnew hrow hlink] at h
    obtain ⟨found, hrest, hfound⟩ := map_eq_ok_iff.mp h
    cases hfound
    exact element _ _ _ _ _ _ _ hrow hlink (ih hrest)

/-- When no type is resolved, a row on the way does not fit. -/
theorem exists_of_resolve_eq_error {links : Nat} {oid : Scalar} {resolved : Types}
    {halt : CatalogHalt} (h : resolve rows labels links oid resolved = .error halt) :
    ∃ oid row, rows.get? oid = some row ∧ TypeRow.link? row = none ∧
      leafType labels row = .error halt := by
  induction links, oid using follow_induction rows resolved with
  | known links oid found hknown =>
    rw [resolve_of_known hknown] at h
    cases h
  | cut links oid hnew hcut =>
    rw [resolve_of_cut hnew hcut] at h
    cases h
  | leaf links oid row hnew hrow hlink =>
    rw [resolve_of_leaf hnew hrow hlink] at h
    exact ⟨oid, row, hrow, hlink, map_eq_error_iff.mp h⟩
  | base links oid row target hnew hrow hlink ih =>
    rw [resolve_of_base hnew hrow hlink] at h
    exact ih (map_eq_error_iff.mp h)
  | element links oid row target hnew hrow hlink ih =>
    rw [resolve_of_element hnew hrow hlink] at h
    exact ih (map_eq_error_iff.mp h)

/-! ## What is resolved -/

/-- Every type stands for a row, and is the type of that row when the row has no link. -/
def Grounded (rows : Entries Scalar TypeRow) (labels : Entries Scalar (List Scalar))
    (types : Types) : Prop :=
  ∀ oid type, types.get? oid = some type → ∃ row, rows.get? oid = some row ∧
    (TypeRow.link? row = none → leafType labels row = .ok type)

/-- Nothing that was resolved is lost. -/
def Keeps (types after : Types) : Prop :=
  ∀ oid, (types.get? oid).isSome = true → (after.get? oid).isSome = true

theorem Keeps.put {types after : Types} (h : Keeps types after) (oid : Scalar) (type : DataType) :
    Keeps types (after.put oid type) := by
  intro other hother
  rw [Entries.get?_put]
  split
  · rfl
  · exact h other hother

theorem isSome_get?_put_self (types : Types) (oid : Scalar) (type : DataType) :
    ((types.put oid type).get? oid).isSome = true := by
  rw [Entries.get?_put, BEq.rfl, if_pos rfl]
  rfl

/-- A row that is entered with its type keeps the types grounded. -/
theorem Grounded.put {types : Types} (h : Grounded rows labels types) {oid : Scalar}
    {row : TypeRow} {type : DataType} (hrow : rows.get? oid = some row)
    (hleaf : TypeRow.link? row = none → leafType labels row = .ok type) :
    Grounded rows labels (types.put oid type) := by
  intro other found hfound
  rw [Entries.get?_put] at hfound
  split at hfound
  · rename_i halike
    cases hfound
    exact ⟨row, (Entries.get?_congr rows halike).trans hrow, hleaf⟩
  · exact h other found hfound

section Resolved

variable {links : Nat} {oid : Scalar} {resolved after : Types} {type : DataType}

theorem grounded_resolve (h : resolve rows labels links oid resolved = .ok (type, after))
    (hresolved : Grounded rows labels resolved) : Grounded rows labels after := by
  refine resolve_induction rows labels
    (P := fun _ _ resolved _ after => Grounded rows labels resolved → Grounded rows labels after)
    ?_ ?_ ?_ ?_ ?_ h hresolved
  · exact fun _ _ _ _ _ hground => hground
  · exact fun _ _ _ _ _ hground => hground
  · exact fun _ _ _ _ _ hrow _ hleaf hground => hground.put hrow fun _ => hleaf
  · intro _ _ _ _ _ _ _ hrow hlink hrest hground
    exact (hrest hground).put hrow fun hnone => by simp [hlink] at hnone
  · intro _ _ _ _ _ _ _ hrow hlink hrest hground
    exact (hrest hground).put hrow fun hnone => by simp [hlink] at hnone

theorem keeps_resolve (h : resolve rows labels links oid resolved = .ok (type, after)) :
    Keeps resolved after := by
  refine resolve_induction rows labels
    (P := fun _ _ resolved _ after => Keeps resolved after) ?_ ?_ ?_ ?_ ?_ h
  · exact fun _ _ _ _ _ _ h => h
  · exact fun _ _ _ _ _ _ h => h
  · exact fun _ oid resolved _ type _ _ _ => Keeps.put (fun _ h => h) oid type
  · exact fun _ oid _ _ _ type _ _ _ hkeeps => hkeeps.put oid type
  · exact fun _ oid _ _ _ type _ _ _ hkeeps => hkeeps.put oid _

/-- A row has been resolved unless it is too far away. -/
theorem isSome_get?_resolve (h : resolve rows labels links oid resolved = .ok (type, after))
    (hlinks : 0 < links) (hrow : (rows.get? oid).isSome = true) :
    (after.get? oid).isSome = true := by
  refine resolve_induction rows labels
    (P := fun links oid _ _ after =>
      0 < links → (rows.get? oid).isSome = true → (after.get? oid).isSome = true)
    ?_ ?_ ?_ ?_ ?_ h hlinks hrow
  · intro _ _ _ _ hknown _ _
    rw [hknown]
    rfl
  · rintro _ _ _ _ (hnone | rfl) hlinks hrow
    · simp [hnone] at hrow
    · exact absurd hlinks (Nat.lt_irrefl 0)
  · exact fun _ _ _ _ _ _ _ _ _ _ => isSome_get?_put_self _ _ _
  · exact fun _ _ _ _ _ _ _ _ _ _ _ _ => isSome_get?_put_self _ _ _
  · exact fun _ _ _ _ _ _ _ _ _ _ _ _ => isSome_get?_put_self _ _ _

end Resolved

theorem resolveAll_spec {oids : List Scalar} {resolved types : Types}
    (h : resolveAll rows labels oids resolved = .ok types)
    (hresolved : Grounded rows labels resolved) :
    Grounded rows labels types ∧ Keeps resolved types ∧
      ∀ oid ∈ oids, (rows.get? oid).isSome = true → (types.get? oid).isSome = true := by
  induction oids generalizing resolved with
  | nil =>
    cases h
    exact ⟨hresolved, fun _ h => h, by simp⟩
  | cons oid rest ih =>
    obtain ⟨⟨type, after⟩, hfirst, hrest⟩ := bind_eq_ok_iff.mp h
    obtain ⟨hground, hkeeps, hall⟩ := ih hrest (grounded_resolve hfirst hresolved)
    refine ⟨hground, fun other hother => hkeeps other (keeps_resolve hfirst other hother), ?_⟩
    intro other hother hrow
    rcases List.mem_cons.mp hother with rfl | hmem
    · exact hkeeps other (isSome_get?_resolve hfirst (Nat.succ_pos _) hrow)
    · exact hall other hmem hrow

theorem exists_of_resolveAll_eq_error {oids : List Scalar} {resolved : Types} {halt : CatalogHalt}
    (h : resolveAll rows labels oids resolved = .error halt) :
    ∃ oid row, rows.get? oid = some row ∧ TypeRow.link? row = none ∧
      leafType labels row = .error halt := by
  induction oids generalizing resolved with
  | nil => cases h
  | cons oid rest ih =>
    rw [resolveAll] at h
    cases hfirst : resolve rows labels (linkLimit + 1) oid resolved with
    | error other =>
      rw [hfirst] at h
      exact exists_of_resolve_eq_error (hfirst.trans (congrArg _ (Except.error.inj h)))
    | ok found =>
      rw [hfirst] at h
      exact ih h

section Property

variable {Q : DataType → Prop} (unknown : Q .unknown) (array : ∀ type, Q type → Q (.arrayOf type))
  (leaf : ∀ oid row type, rows.get? oid = some row → TypeRow.link? row = none →
    leafType labels row = .ok type → Q type)

include unknown array leaf

/-- What holds of the types of rows without links and of the unknown type, and of an array when it
holds of the element, holds of every type that is resolved, however far the links are followed. -/
theorem dictionary_resolve {links : Nat} {oid : Scalar} {resolved after : Types} {type : DataType}
    (h : resolve rows labels links oid resolved = .ok (type, after))
    (hresolved : resolved.Dictionary Q) : Q type ∧ after.Dictionary Q := by
  refine resolve_induction rows labels
    (P := fun _ _ resolved type after => resolved.Dictionary Q → Q type ∧ after.Dictionary Q)
    ?known ?cut ?leaf ?base ?element h hresolved
  case known =>
    intro _ oid resolved type hknown hresolved
    obtain ⟨entry, hentry, -, rfl⟩ := Entries.exists_of_get? hknown
    exact ⟨hresolved.values entry hentry, hresolved⟩
  case cut => exact fun _ _ _ _ _ hresolved => ⟨unknown, hresolved⟩
  case leaf =>
    intro _ oid _ row type hrow hlink hleaf hresolved
    have htype := leaf oid row type hrow hlink hleaf
    exact ⟨htype, hresolved.put oid htype⟩
  case base =>
    intro _ oid _ _ _ _ _ _ _ ih hresolved
    obtain ⟨htype, hafter⟩ := ih hresolved
    exact ⟨htype, hafter.put oid htype⟩
  case element =>
    intro _ oid _ _ _ type _ _ _ ih hresolved
    obtain ⟨htype, hafter⟩ := ih hresolved
    exact ⟨array type htype, hafter.put oid (array type htype)⟩

theorem dictionary_resolveAll {oids : List Scalar} {resolved types : Types}
    (h : resolveAll rows labels oids resolved = .ok types) (hresolved : resolved.Dictionary Q) :
    types.Dictionary Q := by
  induction oids generalizing resolved with
  | nil =>
    cases h
    exact hresolved
  | cons oid rest ih =>
    obtain ⟨⟨type, after⟩, hfirst, hrest⟩ := bind_eq_ok_iff.mp h
    exact ih hrest (dictionary_resolve unknown array leaf hfirst hresolved).2

end Property

/-! ## The whole registry -/

variable {typeRows : List TypeRow} {types : Types}

/-- What is found by its number is a row. -/
theorem mem_of_get?_rowsByOid {oid : Scalar} {row : TypeRow}
    (h : (rowsByOid typeRows).get? oid = some row) : row ∈ typeRows := by
  obtain ⟨entry, hentry, -, hvalue⟩ := Entries.exists_of_get? h
  have hwritten := Entries.mem_values_of_mem_ofList hentry
  rw [List.map_map, hvalue] at hwritten
  obtain ⟨_, hmem, rfl⟩ := List.mem_map.mp hwritten
  exact hmem

theorem beq_of_get?_rowsByOid {oid : Scalar} {row : TypeRow}
    (h : (rowsByOid typeRows).get? oid = some row) : oid == row.oid := by
  rw [rowsByOid, Entries.get?_ofList] at h
  obtain ⟨pair, hpair, halike, rfl⟩ := Entries.mem_valuesAt.mp (List.mem_of_getLast? h)
  obtain ⟨row, -, rfl⟩ := List.mem_map.mp hpair
  exact halike

/-- Some row is found under the number of a row. -/
theorem isSome_get?_rowsByOid {row : TypeRow} (h : row ∈ typeRows) :
    ((rowsByOid typeRows).get? row.oid).isSome = true :=
  Entries.isSome_get?_ofList.mpr ⟨_, List.mem_map_of_mem h, BEq.rfl⟩

/-- No two rows have the same number. -/
def OidsApart (typeRows : List TypeRow) : Prop :=
  typeRows.Pairwise fun row other => (row.oid == other.oid) = false

instance : Decidable (OidsApart typeRows) :=
  inferInstanceAs (Decidable (typeRows.Pairwise _))

/-- Rows with numbers of their own stay as they come. -/
theorem OidsApart.rowsByOid_eq (h : OidsApart typeRows) :
    rowsByOid typeRows = typeRows.map fun row => (row.oid, row) := by
  refine Entries.ofList_eq_self ?_
  rw [Entries.Distinct, Entries.keys, List.map_map, List.pairwise_map]
  exact h

/-- A row with a number of its own is found under it. -/
theorem OidsApart.get?_rowsByOid (h : OidsApart typeRows) {row : TypeRow} (hrow : row ∈ typeRows) :
    (rowsByOid typeRows).get? row.oid = some row := by
  have hdistinct : Entries.Distinct (rowsByOid typeRows) := Entries.distinct_ofList _
  have hentry : (row.oid, row) ∈ rowsByOid typeRows := by
    rw [h.rowsByOid_eq]
    exact List.mem_map_of_mem hrow
  exact hdistinct.get?_of_mem hentry BEq.rfl

/-- The order of rows with numbers of their own does not count. -/
theorem OidsApart.get?_rowsByOid_of_perm (h : OidsApart typeRows) {others : List TypeRow}
    (hperm : typeRows.Perm others) : (rowsByOid others).get? = (rowsByOid typeRows).get? := by
  have hsymm (row other : TypeRow) (hne : (row.oid == other.oid) = false) :
      (other.oid == row.oid) = false := by rwa [BEq.comm]
  have hothers : OidsApart others := (hperm.pairwise_iff fun {row other} => hsymm row other).mp h
  have hdistinct : Entries.Distinct (rowsByOid typeRows) := Entries.distinct_ofList _
  have hrows : (rowsByOid typeRows).Perm (rowsByOid others) := by
    rw [h.rowsByOid_eq, hothers.rowsByOid_eq]
    exact hperm.map _
  exact funext (hdistinct.get?_of_perm hrows)

theorem grounded_registry (h : registry typeRows labels = .ok types) :
    Grounded (rowsByOid typeRows) labels types := by
  refine (resolveAll_spec h ?_).1
  intro oid type hnone
  cases hnone

/-- The registry has a type for every row and for nothing else. -/
theorem isSome_get?_registry (h : registry typeRows labels = .ok types) (oid : Scalar) :
    (types.get? oid).isSome = ((rowsByOid typeRows).get? oid).isSome := by
  rw [Bool.eq_iff_iff]
  constructor
  · intro hsome
    obtain ⟨type, htype⟩ := Option.isSome_iff_exists.mp hsome
    obtain ⟨row, hrow, -⟩ := grounded_registry h oid type htype
    rw [hrow]
    rfl
  · intro hsome
    obtain ⟨row, hrow⟩ := Option.isSome_iff_exists.mp hsome
    obtain ⟨entry, hentry, halike, -⟩ := Entries.exists_of_get? hrow
    have hkey : entry.1 ∈ (rowsByOid typeRows).keys := List.mem_map_of_mem hentry
    have hentryRow : ((rowsByOid typeRows).get? entry.1).isSome = true := by
      rw [← Entries.get?_congr _ halike]
      exact hsome
    rw [Entries.get?_congr _ halike]
    refine (resolveAll_spec h ?_).2.2 entry.1 hkey hentryRow
    intro oid type hnone
    cases hnone

/-- A type of every row is in the registry. -/
theorem exists_get?_registry (h : registry typeRows labels = .ok types) {row : TypeRow}
    (hrow : row ∈ typeRows) : ∃ type, types.get? row.oid = some type := by
  have hsome := isSome_get?_rowsByOid hrow
  rw [← isSome_get?_registry h] at hsome
  exact Option.isSome_iff_exists.mp hsome

/-- The registry is a dictionary of types that have every property of the unknown type and of rows
without links that arrays take over from their elements. -/
theorem dictionary_registry {Q : DataType → Prop} (unknown : Q .unknown)
    (array : ∀ type, Q type → Q (.arrayOf type))
    (leaf : ∀ row ∈ typeRows, ∀ type, TypeRow.link? row = none → leafType labels row = .ok type →
      Q type) (h : registry typeRows labels = .ok types) : types.Dictionary Q := by
  refine dictionary_resolveAll unknown array (fun oid row type hrow => ?_) h
    ⟨List.Pairwise.nil, fun entry hentry => absurd hentry List.not_mem_nil⟩
  exact leaf row (mem_of_get?_rowsByOid hrow) type

/-- There is a registry when every row without a link fits. -/
theorem exists_registry_iff :
    (∃ types, registry typeRows labels = .ok types) ↔
      ∀ oid row, (rowsByOid typeRows).get? oid = some row → TypeRow.link? row = none →
        ∃ type, leafType labels row = .ok type := by
  constructor
  · rintro ⟨types, h⟩ oid row hrow hlink
    have hsome := isSome_get?_registry h oid
    rw [hrow] at hsome
    obtain ⟨type, htype⟩ := Option.isSome_iff_exists.mp hsome
    obtain ⟨other, hother, hleaf⟩ := grounded_registry h oid type htype
    obtain rfl := Option.some.inj (hrow.symm.trans hother)
    exact ⟨type, hleaf hlink⟩
  · intro hfit
    cases h : registry typeRows labels with
    | ok types => exact ⟨types, rfl⟩
    | error halt =>
      obtain ⟨oid, row, hrow, hlink, hleaf⟩ := exists_of_resolveAll_eq_error h
      obtain ⟨type, htype⟩ := hfit oid row hrow hlink
      rw [htype] at hleaf
      cases hleaf

end QueryAudit.Introspection
