import QueryAudit.Proofs.Documents
import QueryAudit.Proofs.LetterCase
import QueryAudit.Proofs.Renaming

/-!
# Types inside one another

A type that is read from a document has a bounded number of types inside one another, and written it
is read again at that number. Reading normalises the names, which changes nothing in a type that has
normalised names already; only a name that was given as octets may be another.
-/

namespace QueryAudit

namespace DataType

/-- A type with at most so many types inside one another, the outermost one included, whose names
all have the property. -/
inductive Within (N : String → Prop) : Nat → DataType → Prop where
  /-- A type without an element. -/
  | leaf {levels : Nat} {name : String} {isEnum : Bool} {labels : List String} (hname : N name) :
    Within N (levels + 1) ⟨name, none, isEnum, labels⟩
  /-- An array, which is one more than its element. -/
  | array {levels : Nat} {name : String} {element : DataType} {isEnum : Bool} {labels : List String}
    (hname : N name) (helement : Within N levels element) :
    Within N (levels + 1) ⟨name, some element, isEnum, labels⟩

variable {N : String → Prop} {levels : Nat} {type : DataType}

/-- Names that do not change make a type that does not change. -/
theorem Within.rename_eq_self {f : String → String}
    (h : Within (fun name => f name = name) levels type) : type.rename f = type := by
  induction h with
  | leaf hname => rw [rename_eq, hname, Option.map_none]
  | array hname _ ih => rw [rename_eq, hname, Option.map_some, ih]

/-! ## What is read -/

section Reading

variable {Q : Document → Prop}

theorem assemble_yields {name : String} {flag isEnum : Bool} {element : Option DataType}
    {labels : List String} (hname : N name) (helement : ∀ type ∈ element, Within N levels type) :
    (assemble name flag element isEnum labels).Yields (Within N (levels + 1)) := by
  intro type htype
  rw [assemble] at htype
  split at htype
  · obtain rfl := Checked.ok.inj htype
    cases element with
    | none => exact .leaf hname
    | some type => exact .array hname (helement type rfl)
  · cases htype

theorem decodeWith_yields {element : Checked (Option DataType)} {fields : Fields}
    (hname : Decoder.Yields Q decodeName N) (hfields : ∀ entry ∈ fields, Q entry.2)
    (helement : element.Yields fun element => ∀ type ∈ element, Within N levels type) :
    (decodeWith element fields).Yields (Within N (levels + 1)) :=
  .andThen <| .seq (.seq (.seq (.seq (.seq
      (.map (Fields.required_yields hfields _ hname)
        fun _ hname _ _ _ helement _ _ _ _ _ _ => assemble_yields hname helement)
      (.trivial _)) helement) (.trivial _)) (.trivial _)) (.trivial _)

/-- Nothing but an object is read as a type. -/
theorem other_yields {document : Document} (levels : Nat)
    (hobject : ∀ fields, document = .object fields → False)
    (hcyclic : ∀ name body, document = .cyclic name body → False)
    (hagain : ∀ name, document = .again name → False) (P : DataType → Prop) :
    (decodeWithin levels document).Yields P := by
  intro type htype
  rw [decodeWithin] at htype
  · split at htype <;> cases htype
  · exact hobject
  · exact hcyclic
  · exact hagain

/-- What is read at a number of levels has at most so many types inside one another. -/
theorem decodeWithin_yields (hQ : Hereditary Q) (hname : Decoder.Yields Q decodeName N)
    (levels : Nat) : Decoder.Yields Q (decodeWithin levels) (Within N levels) := by
  refine decodeWithin.induct
    (fun levels document => Q document → (decodeWithin levels document).Yields (Within N levels))
    (fun levels fields => (∀ entry ∈ fields, Q entry.2) →
      (decodeElement levels fields).Yields fun element => ∀ type ∈ element, Within N levels type)
    ?object0 ?object ?cyclic ?again ?other0 ?other ?nil ?element ?field levels
  case object0 =>
    intro _ _ type htype
    cases htype
  case object =>
    intro levels fields hlevels ih hdocument type htype
    rw [decodeWithin, if_neg hlevels, Fields.read] at htype
    split at htype
    · cases htype
    · obtain ⟨below, rfl⟩ := Nat.exists_eq_succ_of_ne_zero hlevels
      have hfields := hQ.value hdocument
      exact decodeWith_yields hname hfields (ih hfields) type htype
  case cyclic => exact fun _ _ _ ih hdocument => ih (hQ.body hdocument)
  case again =>
    intro _ _ _ type htype
    cases htype
  case other0 => exact fun _ hobject hcyclic hagain _ => other_yields 0 hobject hcyclic hagain _
  case other => exact fun _ _ _ hobject hcyclic hagain _ => other_yields _ hobject hcyclic hagain _
  case nil =>
    intro levels _ element helement
    obtain rfl := Checked.ok.inj helement
    exact fun type htype => absurd htype (Option.not_mem_none type)
  case element =>
    intro levels value rest ih hfields element helement
    rw [decodeElement, if_pos rfl, Checked.below_eq_ok_iff] at helement
    split at helement
    · obtain rfl := Checked.ok.inj helement
      exact fun type htype => absurd htype (Option.not_mem_none type)
    · obtain ⟨type, htype, rfl⟩ := Checked.map_eq_ok_iff.mp helement
      intro _ hmem
      obtain rfl := Option.some.inj hmem
      exact ih (hfields _ List.mem_cons_self) type htype
  case field =>
    intro levels key value rest hkey ih hfields
    rw [decodeElement, if_neg hkey]
    exact ih fun entry hentry => hfields entry (List.mem_cons_of_mem _ hentry)

theorem decode_yields (hQ : Hereditary Q) (hname : Decoder.Yields Q decodeName N) :
    Decoder.Yields Q decode (Within N nestingLimit) :=
  decodeWithin_yields hQ hname nestingLimit

end Reading

/-- A name that is no octets is normalised. -/
theorem decodeName_yields :
    Decoder.Yields Document.OctetFree decodeName fun name => normalizeTypeName name = name := by
  intro document hdocument name hname
  cases hdocument with
  | @scalar value hvalue =>
    cases value with
    | text s =>
      obtain rfl := Checked.ok.inj hname
      exact normalizeTypeName_normalizeTypeName s
    | binary octets => exact absurd rfl (hvalue octets)
    | _ => cases hname
  | _ => cases hname

/-! ## What is written -/

/-- The fields of a written type. -/
theorem encode_eq (type : DataType) :
    type.encode = Document.record
      [("name", some (.text type.name)),
        ("is_array", some (.bool type.element.isSome)),
        ("element", type.element.map encode),
        ("is_enum", some (.bool type.isEnum)),
        ("enum_values", some (.texts type.enumValues))] := by
  obtain ⟨name, element, isEnum, labels⟩ := type
  cases element <;> rfl

/-- The element is read like any other field that may be absent. -/
theorem decodeElement_eq (levels : Nat) (fields : Fields) :
    decodeElement levels fields = fields.optional "element" (decodeWithin levels) := by
  induction fields with
  | nil => rfl
  | cons field rest ih =>
    obtain ⟨key, value⟩ := field
    rw [decodeElement, Fields.optional, Fields.withDefault, Fields.get?, List.lookup_cons, BEq.comm]
    by_cases hkey : key = .text "element"
    · rw [if_pos hkey, Scalar.beq_text.mpr hkey]
      rfl
    · rw [if_neg hkey, Bool.eq_false_iff.mpr fun h => hkey (Scalar.beq_text.mp h)]
      exact ih

theorem isNull_encode (type : DataType) : type.encode.isNull = false := by
  rw [encode_eq]
  rfl

/-- A type is read when its fields are read from what was written. -/
theorem decodeWithin_record {fields : List (String × Option Document)} (names : List String)
    (h : Named names fields)
    (hread : Named names fields →
      decodeWith ((written fields).optional "element" (decodeWithin levels)) (written fields) =
        .ok type) : decodeWithin (levels + 1) (Document.record fields) = .ok type := by
  change decodeWithin (levels + 1) (.object (written fields)) = .ok type
  rw [decodeWithin, if_neg (Nat.succ_ne_zero levels), Nat.add_sub_cancel, h.read_eq,
    decodeElement_eq]
  exact hread h

/-- A type is read again at one more than the number of levels at which its element is. -/
theorem decodeWithin_encode_succ
    (h : ∀ element ∈ type.element,
      decodeWithin levels element.encode = .ok (element.rename normalizeTypeName)) :
    decodeWithin (levels + 1) type.encode = .ok (type.rename normalizeTypeName) := by
  rw [encode_eq, rename_eq]
  refine decodeWithin_record fieldNames ⟨rfl, by decide, by decide⟩ fun hn => ?_
  rw [decodeWith, hn.required_eq "name" decodeName (.text type.name) (by simp) rfl,
    hn.withDefault_eq "is_array" Decoder.bool (.bool type.element.isSome) (by simp) rfl,
    hn.optional_eq "element" (decodeWithin levels) encode (rename normalizeTypeName) type.element
      (by simp) h isNull_encode,
    hn.withDefault_eq "is_enum" Decoder.bool (.bool type.isEnum) (by simp) rfl,
    hn.withDefault_eq "enum_values" (Decoder.list Decoder.text) (.texts type.enumValues) (by simp)
      (Decoder.list_texts_eq _), hn.only_eq]
  exact if_pos Option.isSome_map.symm

/-- A type is read again at the number of levels that it has, with its names normalised. -/
theorem Within.decodeWithin_encode (h : Within N levels type) :
    decodeWithin levels type.encode = .ok (type.rename normalizeTypeName) := by
  induction h with
  | leaf => exact decodeWithin_encode_succ nofun
  | array _ _ ih =>
    refine decodeWithin_encode_succ fun element helement => ?_
    obtain rfl := Option.some.inj helement
    exact ih

theorem Within.decode_encode (h : Within N nestingLimit type) :
    decode type.encode = .ok (type.rename normalizeTypeName) :=
  h.decodeWithin_encode

theorem plain_encode (type : DataType) : type.encode.plain = type.encode := by
  have hplain {type : DataType}
      (h : ∀ element ∈ type.element, element.encode.plain = element.encode) :
      type.encode.plain = type.encode := by
    have helement : (type.element.map encode).map Document.plain = type.element.map encode := by
      rw [Option.map_map]
      exact Option.map_congr h
    rw [encode_eq, Document.plain_record]
    simp only [List.map_cons, List.map_nil, Option.map_some, helement, Document.plain_scalar,
      Document.plain_texts]
  induction type with
  | leaf => exact hplain nofun
  | array name element isEnum labels ih =>
    refine hplain fun element' helement => ?_
    obtain rfl := Option.some.inj helement
    exact ih

end DataType

end QueryAudit
