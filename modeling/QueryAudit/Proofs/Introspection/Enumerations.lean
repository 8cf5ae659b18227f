import QueryAudit.Proofs.Introspection.Links
import QueryAudit.Proofs.Introspection.Trace

/-!
# The labels of enumerations

A snapshot has the labels of enumerations under the names of their types, and the names of types are
normalised: what differs in letter case or in blanks only is one name. So nothing is lost as long as
no other enumeration has the same normalised name. Where two of them share one, the snapshot has the
labels of one of them under it. Domains over enumerations are types of the same name with the same
labels, and change nothing.
-/

namespace QueryAudit.Introspection

variable {catalog : Catalog} {types : Types} {row : TypeRow} {name : String} {texts : List String}

/-! ## What a row declares -/

/-- A row of an enumeration. An array with an element is an array, of whatever kind it is. -/
def IsEnumeration (row : TypeRow) : Prop :=
  row.kind = .text "e" ∧ ¬ (row.category = .text "A" ∧ row.element.isPresent)

/-- The normalised name of an enumeration, and the labels with its number in the order of their
rows. -/
structure Declares (labels : List LabelRow) (row : TypeRow) (name : String)
    (texts : List String) : Prop where
  /-- The name is that of the row, normalised. -/
  named : ∃ text, row.name.text? = some text ∧ normalizeTypeName text = name
  /-- The labels are those of the number of the row. -/
  labelled : List.Forall₂ (fun label text => label.text? = some text) (labelsAt labels row.oid) texts

theorem IsEnumeration.link?_eq_none (h : IsEnumeration row) : TypeRow.link? row = none := by
  obtain ⟨hkind, harray⟩ := h
  have hdomain : ¬ (row.kind = .text "d" ∧ row.base.isPresent) := by
    rw [hkind]
    simp
  rw [TypeRow.link?, if_neg hdomain, if_neg harray]

theorem isEnumeration_of_link?_eq_none (hkind : row.kind = .text "e")
    (hlink : TypeRow.link? row = none) : IsEnumeration row := by
  refine ⟨hkind, fun harray => ?_⟩
  rw [TypeRow.link?, if_pos harray] at hlink
  split at hlink <;> cases hlink

/-- A row declares one name with one list of labels. -/
theorem Declares.unique {labels : List LabelRow} {name' : String} {texts' : List String}
    (h : Declares labels row name texts) (h' : Declares labels row name' texts') :
    name = name' ∧ texts = texts' := by
  obtain ⟨text, htext, rfl⟩ := h.named
  obtain ⟨text', htext', rfl⟩ := h'.named
  obtain rfl := Option.some.inj (htext.symm.trans htext')
  have hone : Relator.RightUnique fun (label : Scalar) (text : String) => label.text? = some text :=
    fun {_ _ _} h h' => Option.some.inj (h.symm.trans h')
  exact ⟨rfl, hone.forall₂ h.labelled h'.labelled⟩

/-- The type of an enumeration has what the row declares. -/
theorem leafType_eq_ok_iff_declares {type : DataType} (h : IsEnumeration row) :
    leafType (labelsRead catalog) row = .ok type ↔
      ∃ name texts, Declares catalog.labels row name texts ∧ type = ⟨name, none, true, texts⟩ := by
  rw [leafType_enum_eq_ok_iff h.1, labelsOf_labelsRead]
  constructor
  · rintro ⟨text, texts, hname, htexts, rfl⟩
    exact ⟨_, texts, ⟨⟨text, hname, rfl⟩, htexts⟩, rfl⟩
  · rintro ⟨_, texts, ⟨⟨text, hname, rfl⟩, htexts⟩, rfl⟩
    exact ⟨text, texts, hname, htexts, rfl⟩

/-! ## What the registry has of it -/

/-- The name and the labels of an enumeration are what some row declares. -/
def Declared (catalog : Catalog) (type : DataType) : Prop :=
  type.isEnum = true → ∃ row ∈ catalog.types, IsEnumeration row ∧
    Declares catalog.labels row type.name type.enumValues

/-- No enumeration is made up: those that are reached over domains are declared as well. -/
theorem declared_registry (h : registry catalog.types (labelsRead catalog) = .ok types) :
    types.Dictionary (Declared catalog) := by
  refine dictionary_registry ?unknown ?array ?leaf h
  case unknown =>
    intro henum
    cases henum
  case array =>
    intro type _ henum
    cases henum
  case leaf =>
    intro row hrow type hlink hleaf henum
    by_cases hkind : row.kind = .text "e"
    · have hrowEnum := isEnumeration_of_link?_eq_none hkind hlink
      obtain ⟨name, texts, hdeclares, rfl⟩ := (leafType_eq_ok_iff_declares hrowEnum).mp hleaf
      exact ⟨row, hrow, hrowEnum, hdeclares⟩
    · obtain ⟨name, -, rfl⟩ := (leafType_plain_eq_ok_iff hkind).mp hleaf
      cases henum

/-- Every row of an enumeration that has a number of its own is in the registry with what it
declares. -/
theorem exists_declares (h : registry catalog.types (labelsRead catalog) = .ok types)
    (hapart : OidsApart catalog.types) (hrow : row ∈ catalog.types) (henum : IsEnumeration row) :
    ∃ name texts, Declares catalog.labels row name texts ∧
      types.get? row.oid = some ⟨name, none, true, texts⟩ := by
  obtain ⟨type, htype⟩ := exists_get?_registry h hrow
  obtain ⟨other, hother, hleaf⟩ := grounded_registry h row.oid type htype
  obtain rfl := Option.some.inj ((hapart.get?_rowsByOid hrow).symm.trans hother)
  obtain ⟨name, texts, hdeclares, rfl⟩ :=
    (leafType_eq_ok_iff_declares henum).mp (hleaf henum.link?_eq_none)
  exact ⟨name, texts, hdeclares, htype⟩

/-! ## Labels by name -/

theorem mem_enumerated_iff {pair : String × List String} :
    pair ∈ (types.filterMap fun (_, type) =>
        if type.isEnum && !type.isArray then some (type.name, type.enumValues) else none) ↔
      ∃ entry ∈ types, entry.2.isEnum = true ∧ entry.2.isArray = false ∧
        (entry.2.name, entry.2.enumValues) = pair := by
  simp [and_assoc]

/-- Under the name of an enumeration of the registry there are the labels of a row that declares
this name. -/
theorem exists_get?_enums (h : registry catalog.types (labelsRead catalog) = .ok types)
    {oid : Scalar} (htype : types.get? oid = some ⟨name, none, true, texts⟩) :
    ∃ other ∈ catalog.types, IsEnumeration other ∧ ∃ labels,
      Declares catalog.labels other name labels ∧ (enums types).get? name = some labels := by
  obtain ⟨entry, hentry, -, hvalue⟩ := Entries.exists_of_get? htype
  have hwritten : ((enums types).get? name).isSome = true := by
    refine Entries.isSome_get?_ofList.mpr ⟨(name, texts), mem_enumerated_iff.mpr ?_, BEq.rfl⟩
    exact ⟨entry, hentry, by rw [hvalue], by rw [hvalue]; rfl, by rw [hvalue]⟩
  obtain ⟨labels, hlabels⟩ := Option.isSome_iff_exists.mp hwritten
  -- The last of the types of this name counts, and it may be that of another row.
  have hlast := hlabels
  rw [enums, Entries.get?_ofList] at hlast
  obtain ⟨pair, hpair, hname, rfl⟩ := Entries.mem_valuesAt.mp (List.mem_of_getLast? hlast)
  obtain ⟨source, hsource, henum, -, rfl⟩ := mem_enumerated_iff.mp hpair
  obtain rfl := eq_of_beq hname
  obtain ⟨other, hother, hotherEnum, hdeclares⟩ :=
    (declared_registry h).values source hsource henum
  exact ⟨other, hother, hotherEnum, _, hdeclares, hlabels⟩

/-- Where no two types have the same number, a snapshot is taken in which every enumeration is
found: its type is in the registry, and under the name of the type there are the labels of an
enumeration of this name. These are the labels of the row itself when no other enumeration declares
the name. -/
theorem enumerations_found (hrefusal : catalog.refusal = none)
    (hpasses : ∀ part, Passes catalog part) (hapart : OidsApart catalog.types) (dsn : String) :
    ∃ types snapshot, registry catalog.types (labelsRead catalog) = .ok types ∧
      (takeSnapshot catalog dsn).1 = .ok (.ok snapshot) ∧
      ∀ row ∈ catalog.types, IsEnumeration row → ∃ name texts,
        Declares catalog.labels row name texts ∧
        types.get? row.oid = some ⟨name, none, true, texts⟩ ∧
        (∃ other ∈ catalog.types, IsEnumeration other ∧ ∃ labels,
          Declares catalog.labels other name labels ∧ snapshot.enums.get? name = some labels) ∧
        ((∀ other ∈ catalog.types, IsEnumeration other →
            ∀ labels, Declares catalog.labels other name labels → other = row) →
          snapshot.enums.get? name = some texts) := by
  obtain ⟨snapshot, types, found, htaken, hbuilt⟩ :=
    exists_built_of_passes hrefusal hpasses dsn
  refine ⟨types, snapshot, hbuilt.registry, htaken, fun row hrow henum => ?_⟩
  obtain ⟨name, texts, hdeclares, htype⟩ := exists_declares hbuilt.registry hapart hrow henum
  obtain ⟨other, hother, hotherEnum, labels, hlabels, hfound⟩ :=
    exists_get?_enums hbuilt.registry htype
  rw [← hbuilt.enums] at hfound
  refine ⟨name, texts, hdeclares, htype, ⟨other, hother, hotherEnum, labels, hlabels, hfound⟩,
    fun halone => ?_⟩
  obtain rfl := halone other hother hotherEnum labels hlabels
  rw [hfound, (hlabels.unique hdeclares).2]

theorem registry_moods :
    registry moods.types (labelsRead moods) =
      .ok [(.int 2, .enumeration "mood" ["sad", "happy"]),
        (.int 3, .arrayOf (.enumeration "mood" ["sad", "happy"])),
        (.int 4, .arrayOf (.enumeration "mood" ["sad", "happy"])), (.int 5, .unknown)] :=
  rfl

theorem passes_moods (part : CatalogPart) : Passes moods part :=
  ⟨rfl, fits_typesOnly registry_moods (by simp [Entries.keys]) part⟩

/-- The labels of moods are found, also when there are arrays of moods and domains over them. -/
theorem moods_found :
    moods.refusal = none ∧ (∀ part, Passes moods part) ∧ OidsApart moods.types ∧
      ∃ snapshot, (takeSnapshot moods "").1 = .ok (.ok snapshot) ∧
        snapshot.enums.get? "mood" = some ["sad", "happy"] := by
  have hrefusal : moods.refusal = none := rfl
  have hapart : OidsApart moods.types := by decide
  have hmood : mood ∈ moods.types := by simp [moods, typesOnly]
  have hdeclares : Declares moods.labels mood "mood" ["sad", "happy"] :=
    ⟨⟨"mood", rfl, by decide +kernel⟩, .cons rfl (.cons rfl .nil)⟩
  have halone : ∀ other ∈ moods.types, IsEnumeration other → other = mood := by
    simp only [moods, typesOnly, List.forall_mem_cons]
    simp [IsEnumeration, mood]
  obtain ⟨types, snapshot, -, htaken, hfound⟩ :=
    enumerations_found hrefusal passes_moods hapart ""
  obtain ⟨name, texts, hown, -, -, hlabels⟩ := hfound mood hmood ⟨rfl, by simp [mood]⟩
  obtain ⟨rfl, rfl⟩ := hown.unique hdeclares
  exact ⟨hrefusal, passes_moods, hapart, snapshot, htaken,
    hlabels fun other hother henum _ _ => halone other hother henum⟩

/-! ## Names that differ in letter case -/

/-- A database of two enumerations whose names are told apart by letter case alone. -/
def quotedMoods : Catalog :=
  typesOnly
    [⟨.int 1, .text "\"Mood\"", .text "e", .text "E", .int 0, .int 0⟩,
      ⟨.int 2, .text "\"MOOD\"", .text "e", .text "E", .int 0, .int 0⟩]
    [⟨.int 1, .text "sad"⟩, ⟨.int 2, .text "happy"⟩]

theorem registry_quotedMoods :
    registry quotedMoods.types (labelsRead quotedMoods) =
      .ok [(.int 1, .enumeration "\"Mood\"" ["sad"]),
        (.int 2, .enumeration "\"MOOD\"" ["happy"])] :=
  rfl

theorem passes_quotedMoods (part : CatalogPart) : Passes quotedMoods part :=
  ⟨rfl, fits_typesOnly registry_quotedMoods (by simp [Entries.keys]) part⟩

/-- Two names that are not the same do not keep two enumerations apart when they are normalised to
one: the labels of the first are lost. -/
theorem quotedMoods_lost :
    OidsApart quotedMoods.types ∧ (quotedMoods.types.map TypeRow.name).Nodup ∧
      ∃ snapshot, (takeSnapshot quotedMoods "").1 = .ok (.ok snapshot) ∧
        ∃ row ∈ quotedMoods.types, IsEnumeration row ∧
          Declares quotedMoods.labels row "\"mood\"" ["sad"] ∧
          snapshot.enums.get? "\"mood\"" = some ["happy"] := by
  have hnames : (quotedMoods.types.map TypeRow.name).Nodup := by decide
  have hapart : OidsApart quotedMoods.types := by decide
  have hname : normalizeTypeName "\"Mood\"" = "\"mood\"" := by decide +kernel
  have hname' : normalizeTypeName "\"MOOD\"" = "\"mood\"" := by decide +kernel
  obtain ⟨snapshot, types, found, htaken, hbuilt⟩ :=
    exists_built_of_passes rfl passes_quotedMoods ""
  obtain rfl := Except.ok.inj (hbuilt.registry.symm.trans registry_quotedMoods)
  refine ⟨hapart, hnames, snapshot, htaken, _, List.mem_cons_self, ⟨rfl, by simp⟩,
    ⟨⟨_, rfl, hname⟩, .cons rfl .nil⟩, ?_⟩
  have hsad : DataType.enumeration "\"Mood\"" ["sad"] = ⟨"\"mood\"", none, true, ["sad"]⟩ := by
    rw [DataType.enumeration, hname]
  have hhappy : DataType.enumeration "\"MOOD\"" ["happy"] =
      ⟨"\"mood\"", none, true, ["happy"]⟩ := by
    rw [DataType.enumeration, hname']
  rw [hbuilt.enums, hsad, hhappy]
  rfl

end QueryAudit.Introspection
