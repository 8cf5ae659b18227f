import QueryAudit.Proofs.Introspection.Fitting
import QueryAudit.Proofs.LetterCase
import QueryAudit.Proofs.Renaming

/-!
# Well-formed types

What the registry puts together is well formed at every depth, also where links run in a circle: the
resolver gives up after a number of links, not when it meets a row again, and enters a row anew each
time it comes back over it. So the types along a circle hold one another as often as links were
followed, around a type about which nothing is known.
-/

namespace QueryAudit

namespace DataType

/-- The type itself and the types inside it, from the outside in. -/
def levels : DataType → List DataType
  | ⟨name, none, isEnum, labels⟩ => [⟨name, none, isEnum, labels⟩]
  | ⟨name, some element, isEnum, labels⟩ =>
    ⟨name, some element, isEnum, labels⟩ :: element.levels

/-- A type that is right as far as it can be seen without looking into its element. -/
structure Sound (type : DataType) : Prop where
  /-- Arrays and nothing else have an element. -/
  isArray_iff : type.isArray = true ↔ ∃ element, type.element = some element
  /-- An array has the name of its element. -/
  name_eq : ∀ element, type.element = some element → type.name = element.name
  /-- An array is no enumeration. -/
  isEnum_eq : type.isArray = true → type.isEnum = false
  /-- The name is normalised. -/
  normalized : normalizeTypeName type.name = type.name

/-- A type that is right at every depth. -/
def WellFormed (type : DataType) : Prop :=
  ∀ level ∈ type.levels, level.Sound

theorem levels_of_element_eq_none {type : DataType} (h : type.element = none) :
    type.levels = [type] := by
  obtain ⟨name, element, isEnum, labels⟩ := type
  subst h
  rfl

theorem levels_arrayOf (element : DataType) :
    (arrayOf element).levels = arrayOf element :: element.levels :=
  rfl

/-- A type without an element needs nothing but a normalised name. -/
theorem wellFormed_of_element_eq_none {type : DataType} (h : type.element = none)
    (hname : normalizeTypeName type.name = type.name) : type.WellFormed := by
  rw [WellFormed, levels_of_element_eq_none h, List.forall_mem_singleton]
  have harray : type.isArray = false := by rw [isArray, h, Option.isSome_none]
  refine ⟨by simp [harray, h], fun element helement => ?_, by simp [harray], hname⟩
  rw [h] at helement
  cases helement

theorem wellFormed_scalar (name : String) : (scalar name).WellFormed :=
  wellFormed_of_element_eq_none rfl (normalizeTypeName_normalizeTypeName name)

theorem wellFormed_enumeration (name : String) (labels : List String) :
    (enumeration name labels).WellFormed :=
  wellFormed_of_element_eq_none rfl (normalizeTypeName_normalizeTypeName name)

/-- The array normalises the name of its element once more, which changes nothing. -/
theorem WellFormed.arrayOf {element : DataType} (h : element.WellFormed) :
    (DataType.arrayOf element).WellFormed := by
  have hname : normalizeTypeName element.name = element.name := by
    have hself : element ∈ element.levels := by
      obtain ⟨name, inner, isEnum, labels⟩ := element
      cases inner <;> exact List.mem_cons_self
    exact (h element hself).normalized
  rw [WellFormed, levels_arrayOf, List.forall_mem_cons]
  refine ⟨⟨by simp [DataType.arrayOf, isArray], ?_, fun _ => rfl, ?_⟩, h⟩
  · intro inner hinner
    obtain rfl := Option.some.inj hinner
    exact hname
  · exact normalizeTypeName_normalizeTypeName element.name

end DataType

namespace Introspection

variable {catalog : Catalog}

theorem wellFormed_leafType {row : TypeRow} {type : DataType}
    (h : leafType (labelsRead catalog) row = .ok type) : type.WellFormed := by
  by_cases hkind : row.kind = .text "e"
  · obtain ⟨name, labels, -, -, rfl⟩ := (leafType_enum_eq_ok_iff hkind).mp h
    exact DataType.wellFormed_enumeration name labels
  · obtain ⟨name, -, rfl⟩ := (leafType_plain_eq_ok_iff hkind).mp h
    exact DataType.wellFormed_scalar _

/-- Where names and labels are texts, a type is made of every row without a link. -/
theorem exists_leafType_of_texts {row : TypeRow} (hname : ∃ name, row.name = .text name)
    (hlabels : ∀ label ∈ catalog.labels, ∃ text, label.label = .text text) :
    ∃ type, leafType (labelsRead catalog) row = .ok type := by
  rw [exists_leafType_iff, TypeFits]
  split
  · obtain ⟨name, hname⟩ := hname
    refine ⟨⟨name, by rw [hname]; rfl⟩, fun label hlabel _ => ?_⟩
    obtain ⟨text, htext⟩ := hlabels label hlabel
    exact ⟨text, by rw [htext]; rfl⟩
  · exact hname

/-- Where the names of types and the labels are texts there is always a registry, whatever the links
are. It has one type for each number of a row, none for any other number, and all types in it are
well formed. -/
theorem registry_wellFormed (hnames : ∀ row ∈ catalog.types, ∃ name, row.name = .text name)
    (hlabels : ∀ label ∈ catalog.labels, ∃ text, label.label = .text text) :
    ∃ types, registry catalog.types (labelsRead catalog) = .ok types ∧ types.Distinct ∧
      (∀ oid, (∃ entry ∈ types, oid == entry.1) ↔ ∃ row ∈ catalog.types, oid == row.oid) ∧
      ∀ entry ∈ types, entry.2.WellFormed := by
  have hleaf (oid : Scalar) (row : TypeRow)
      (hrow : (rowsByOid catalog.types).get? oid = some row) (_ : TypeRow.link? row = none) :
      ∃ type, leafType (labelsRead catalog) row = .ok type :=
    exists_leafType_of_texts (hnames row (mem_of_get?_rowsByOid hrow)) hlabels
  obtain ⟨types, htypes⟩ := exists_registry_iff.mpr hleaf
  have hdictionary : types.Dictionary DataType.WellFormed :=
    dictionary_registry (DataType.wellFormed_scalar "unknown") (fun _ => DataType.WellFormed.arrayOf)
      (fun _ _ _ _ hleaf => wellFormed_leafType hleaf) htypes
  refine ⟨types, htypes, hdictionary.distinct, fun oid => ?_, hdictionary.values⟩
  have hfound : (types.get? oid).isSome = true ↔ ∃ entry ∈ types, oid == entry.1 :=
    List.lookup_isSome_iff
  rw [← hfound, isSome_get?_registry htypes, rowsByOid, Entries.isSome_get?_ofList]
  simp only [List.mem_map, exists_exists_and_eq_and]

/-- A database of an array of arrays of itself, a domain over itself, and arrays of a type that is
not there. -/
def circles : Catalog :=
  typesOnly
    [⟨.int 1, .text "Circle", .text "b", .text "A", .int 2, .int 0⟩,
      ⟨.int 2, .text "Circle[]", .text "b", .text "A", .int 1, .int 0⟩,
      ⟨.int 3, .text "self", .text "d", .text "S", .int 0, .int 3⟩,
      ⟨.int 4, .text "lost[]", .text "b", .text "A", .int 99, .int 0⟩]
    []

/-- A registry of circles. -/
theorem circles_wellFormed :
    (∀ row ∈ circles.types, ∃ name, row.name = .text name) ∧
      (∀ label ∈ circles.labels, ∃ text, label.label = .text text) ∧
      ∃ types, registry circles.types (labelsRead circles) = .ok types ∧ types.Distinct ∧
        (∀ oid, (∃ entry ∈ types, oid == entry.1) ↔ ∃ row ∈ circles.types, oid == row.oid) ∧
        ∀ entry ∈ types, entry.2.WellFormed := by
  have hnames : ∀ row ∈ circles.types, ∃ name, row.name = .text name := by
    simp [circles, typesOnly]
  have hlabels : ∀ label ∈ circles.labels, ∃ text, label.label = .text text := by
    simp [circles, typesOnly]
  exact ⟨hnames, hlabels, registry_wellFormed hnames hlabels⟩

end Introspection

end QueryAudit
