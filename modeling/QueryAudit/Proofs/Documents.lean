import QueryAudit.Document.Decoder
import QueryAudit.Proofs.Entries
import QueryAudit.Proofs.Results

/-!
# Reading documents and writing them

What every value has that a decoder yields, and what decoders make of a document that was written
field by field. A list is read as the list of what its items are read as, a dictionary keeps its
order because no two of its keys are alike, and a field is found under its name because the names
of a record differ.
-/

namespace QueryAudit

variable {α β : Type}

/-! ## Properties that are handed down -/

/-- A property that is handed down to all parts of a document that decoders look at. -/
structure Hereditary (Q : Document → Prop) : Prop where
  /-- A document that holds itself may be unrolled. -/
  unrolled {document : Document} (h : Q document) : Q document.unrolled
  /-- The items of a list. -/
  item {items : List Document} (h : Q (.list items)) : ∀ item ∈ items, Q item
  /-- The items of a set. -/
  element {items : List Scalar} (h : Q (.set items)) : ∀ item ∈ items, Q (.scalar item)
  /-- The values of an object. -/
  value {entries : List (Scalar × Document)} (h : Q (.object entries)) :
    ∀ entry ∈ entries, Q entry.2
  /-- The list or object that holds itself. -/
  body {name : Nat} {body : Document} (h : Q (.cyclic name body)) : Q body

theorem hereditary_true : Hereditary fun _ => True where
  unrolled _ := trivial
  item _ _ _ := trivial
  element _ _ _ := trivial
  value _ _ _ := trivial
  body _ := trivial

theorem fillItems_eq_map (name : Nat) (filling : Document) (items : List Document) :
    fillItems name filling items = items.map (Document.fill name filling) := by
  induction items with
  | nil => rfl
  | cons item rest ih => rw [fillItems, ih, List.map_cons]

theorem fillEntries_eq_map (name : Nat) (filling : Document) (entries : List (Scalar × Document)) :
    fillEntries name filling entries = Entries.mapValues (Document.fill name filling) entries := by
  induction entries with
  | nil => rfl
  | cons entry rest ih => rw [fillEntries, ih, Entries.mapValues, Entries.mapValues, List.map_cons]

namespace Document

/-- A document no value of which is given as octets. -/
inductive OctetFree : Document → Prop where
  /-- A value other than octets. -/
  | scalar {value : Scalar} (h : ∀ octets, value ≠ .binary octets) : OctetFree (.scalar value)
  /-- A list without octets. -/
  | list {items : List Document} (h : ∀ item ∈ items, OctetFree item) : OctetFree (.list items)
  /-- A set without octets. -/
  | set {items : List Scalar} (h : ∀ item ∈ items, ∀ octets, item ≠ .binary octets) :
    OctetFree (.set items)
  /-- An object without octets among its values. -/
  | object {entries : List (Scalar × Document)} (h : ∀ entry ∈ entries, OctetFree entry.2) :
    OctetFree (.object entries)
  /-- A list or object that holds itself. -/
  | cyclic {name : Nat} {body : Document} (h : OctetFree body) : OctetFree (.cyclic name body)
  /-- A place where a document holds itself. -/
  | again (name : Nat) : OctetFree (.again name)

/-- Filling places without octets brings none in. -/
theorem OctetFree.fill {document filling : Document} (h : document.OctetFree) (name : Nat)
    (hfilling : filling.OctetFree) : (Document.fill name filling document).OctetFree := by
  induction h with
  | scalar h => exact .scalar h
  | list _ ih =>
    rw [Document.fill, fillItems_eq_map]
    exact .list (List.forall_mem_map.mpr ih)
  | set h => exact .set h
  | object _ ih =>
    rw [Document.fill, fillEntries_eq_map]
    exact .object (List.forall_mem_map.mpr ih)
  | cyclic _ ih => exact .cyclic ih
  | again inner =>
    rw [Document.fill]
    split
    · exact hfilling
    · exact .again inner

theorem hereditary_octetFree : Hereditary OctetFree where
  unrolled h := by
    cases h with
    | cyclic hbody => exact hbody.fill _ (.cyclic hbody)
    | scalar h => exact .scalar h
    | list h => exact .list h
    | set h => exact .set h
    | object h => exact .object h
    | again name => exact .again name
  item h := by
    cases h with
    | list h => exact h
  element h item hitem := by
    cases h with
    | set h => exact .scalar (h item hitem)
  value h := by
    cases h with
    | object h => exact h
  body h := by
    cases h with
    | cyclic h => exact h

end Document

/-! ## What is read -/

/-- Whatever value is there has the property. -/
def Checked.Yields (x : Checked α) (P : α → Prop) : Prop :=
  ∀ a, x = .ok a → P a

namespace Checked.Yields

variable {P : α → Prop} {R : β → Prop} {x : Checked α}

theorem trivial (x : Checked α) : x.Yields fun _ => True :=
  fun _ _ => True.intro

theorem map {f : α → β} (hx : x.Yields P) (h : ∀ a, P a → R (f a)) : (f <$> x).Yields R := by
  intro b hb
  obtain ⟨a, ha, rfl⟩ := map_eq_ok_iff.mp hb
  exact h a (hx a ha)

/-- A property of functions: given a value with the one property, the result has the other. -/
theorem seq {g : Checked (α → β)} (hg : g.Yields fun f => ∀ a, P a → R (f a)) (hx : x.Yields P) :
    (g <*> x).Yields R := by
  intro b hb
  obtain ⟨f, a, hf, ha, rfl⟩ := seq_eq_ok_iff.mp hb
  exact hg f hf a (hx a ha)

theorem andThen {x : Checked (Checked β)} (hx : x.Yields fun y => y.Yields R) :
    (x.andThen id).Yields R := by
  intro b hb
  obtain ⟨y, hy, hb⟩ := andThen_eq_ok_iff.mp hb
  exact hx y hy b hb

end Checked.Yields

/-- The entries of an object are read when each key and each value is. -/
theorem Decoder.entries_eq_ok_iff {κ : Type} {decodeKey : Scalar → Checked κ} {decode : Decoder α}
    {pairs : List (Scalar × Document)} {results : List (κ × α)} :
    Decoder.entries decodeKey decode pairs = .ok results ↔
      List.Forall₂ (fun pair result =>
        decodeKey pair.1 = .ok result.1 ∧ decode pair.2 = .ok result.2) pairs results := by
  induction pairs generalizing results with
  | nil =>
    rw [Decoder.entries, List.forall₂_nil_left_iff]
    exact ⟨fun h => (Checked.ok.inj h).symm, fun h => h ▸ rfl⟩
  | cons pair rest ih =>
    simp only [Decoder.entries, Checked.seq_eq_ok_iff, Checked.map_eq_ok_iff, Decoder.key,
      Checked.below_eq_ok_iff, List.forall₂_cons_left_iff, ih]
    constructor
    · rintro ⟨_, others, ⟨_, value, ⟨key, hkey, rfl⟩, hvalue, rfl⟩, hothers, rfl⟩
      exact ⟨(key, value), others, ⟨hkey, hvalue⟩, hothers, rfl⟩
    · rintro ⟨result, others, ⟨hkey, hvalue⟩, hothers, rfl⟩
      exact ⟨_, others, ⟨_, _, ⟨_, hkey, rfl⟩, hvalue, rfl⟩, hothers, rfl⟩

/-- Whatever the decoder reads from a document with the one property has the other. -/
def Decoder.Yields (Q : Document → Prop) (decode : Decoder α) (P : α → Prop) : Prop :=
  ∀ document, Q document → (decode document).Yields P

section Reading

variable {Q : Document → Prop} {P : α → Prop} {decode : Decoder α}

namespace Decoder.Yields

theorem trivial (decode : Decoder α) : Decoder.Yields Q decode fun _ => True :=
  fun document _ => .trivial (decode document)

theorem list (hQ : Hereditary Q) (h : Decoder.Yields Q decode P) :
    Decoder.Yields Q (Decoder.list decode) fun as => ∀ a ∈ as, P a := by
  intro document hdocument as has a ha
  rw [Decoder.list] at has
  have hunrolled := hQ.unrolled hdocument
  revert has hunrolled
  cases document.unrolled with
  | list items =>
    intro has hitems
    obtain ⟨item, hitem, hread⟩ :=
      exists_of_mem_right ((Checked.itemsFrom_eq_ok_iff 0).mp has) ha
    exact h item (hQ.item hitems item hitem) a hread
  | set items =>
    intro has hitems
    obtain ⟨item, hitem, hread⟩ :=
      exists_of_mem_right ((Checked.itemsFrom_eq_ok_iff 0).mp has) ha
    exact h _ (hQ.element hitems item hitem) a hread
  | _ => nofun

theorem mapping {κ : Type} [BEq κ] [EquivBEq κ] (hQ : Hereditary Q)
    (h : Decoder.Yields Q decode P) (decodeKey : Scalar → Checked κ) :
    Decoder.Yields Q (Decoder.mapping decodeKey decode) (Entries.Dictionary P) := by
  intro document hdocument entries hentries
  rw [Decoder.mapping] at hentries
  have hunrolled := hQ.unrolled hdocument
  revert hentries hunrolled
  cases document.unrolled with
  | object pairs =>
    intro hentries hpairs
    obtain ⟨read, hread, rfl⟩ := Checked.map_eq_ok_iff.mp hentries
    refine ⟨Entries.distinct_ofList read, fun entry hentry => ?_⟩
    -- A key that comes again overwrites a value, with one that has been read as well.
    obtain ⟨result, hresult, hvalue⟩ := List.mem_map.mp (Entries.mem_values_of_mem_ofList hentry)
    obtain ⟨pair, hpair, -, hdecode⟩ := exists_of_mem_right (entries_eq_ok_iff.mp hread) hresult
    rw [← hvalue]
    exact h _ (hQ.value hpairs pair hpair) _ hdecode
  | _ => nofun

theorem record (hQ : Hereditary Q) {decode : Fields → Checked α}
    (h : ∀ fields : Fields, (∀ entry ∈ fields, Q entry.2) → (decode fields).Yields P) :
    Decoder.Yields Q (Decoder.record decode) P := by
  intro document hdocument a ha
  rw [Decoder.record] at ha
  have hunrolled := hQ.unrolled hdocument
  revert ha hunrolled
  cases document.unrolled with
  | object fields =>
    intro ha hfields
    simp only [Fields.read] at ha
    split at ha
    · cases ha
    · exact h fields (hQ.value hfields) a ha
  | _ => nofun

end Decoder.Yields

namespace Fields

variable {fields : Fields} (hfields : ∀ entry ∈ fields, Q entry.2) (name : String)
include hfields

theorem get?_property {value : Document} (h : fields.get? name = some value) : Q value := by
  obtain ⟨entry, hentry, -, rfl⟩ := Entries.exists_of_get? h
  exact hfields entry hentry

theorem required_yields (h : Decoder.Yields Q decode P) :
    (fields.required name decode).Yields P := by
  intro a ha
  rw [required] at ha
  split at ha
  · rename_i value hvalue
    exact h value (get?_property hfields name hvalue) a (Checked.below_eq_ok_iff.mp ha)
  · cases ha

theorem withDefault_yields {default : α} (hdefault : P default) (h : Decoder.Yields Q decode P) :
    (fields.withDefault name default decode).Yields P := by
  intro a ha
  rw [withDefault] at ha
  split at ha
  · rename_i value hvalue
    exact h value (get?_property hfields name hvalue) a (Checked.below_eq_ok_iff.mp ha)
  · obtain rfl := Checked.ok.inj ha
    exact hdefault

theorem list_yields (hQ : Hereditary Q) (h : Decoder.Yields Q decode P) :
    (fields.withDefault name [] (Decoder.list decode)).Yields fun as => ∀ a ∈ as, P a :=
  withDefault_yields hfields name (fun _ ha => absurd ha List.not_mem_nil) (.list hQ h)

theorem mapping_yields {κ : Type} [BEq κ] [EquivBEq κ] (hQ : Hereditary Q)
    (decodeKey : Scalar → Checked κ) (h : Decoder.Yields Q decode P) :
    (fields.withDefault name [] (Decoder.mapping decodeKey decode)).Yields
      (Entries.Dictionary P) :=
  withDefault_yields hfields name ⟨.nil, fun _ ha => absurd ha List.not_mem_nil⟩
    (.mapping hQ h decodeKey)

end Fields

end Reading

/-! ## What is written -/

/-- The entries of an object with the given fields. A field without a value is left out. -/
def written (fields : List (String × Option Document)) : Fields :=
  fields.filterMap fun field => field.2.map fun value => (.text field.1, value)

/-- The fields of a record, each with a name of its own that holds no surrogate. -/
structure Named (names : List String) (fields : List (String × Option Document)) : Prop where
  /-- The names of the fields. -/
  names_eq : fields.map Prod.fst = names
  /-- No two names are the same. -/
  nodup : names.Nodup
  /-- The names have no surrogates. -/
  noSurrogate : (names.all fun name => !Text.hasSurrogate name) = true

namespace Named

variable {names : List String} {fields : List (String × Option Document)}

theorem beq_text_eq_false {name other : String} (h : name ≠ other) :
    (Scalar.text name == Scalar.text other) = false := by
  rw [Bool.eq_false_iff, ne_eq, Scalar.beq_text]
  exact fun heq => h (Scalar.text.inj heq)

theorem get?_written_of_not_mem {name : String} (h : name ∉ fields.map Prod.fst) :
    (written fields).get? name = none := by
  rw [Fields.get?, List.lookup_eq_none_iff]
  intro entry hentry
  obtain ⟨field, hfield, hvalue⟩ := List.mem_filterMap.mp hentry
  obtain ⟨value, -, rfl⟩ := Option.map_eq_some_iff.mp hvalue
  have hne : name ≠ field.1 := fun heq => h (heq ▸ List.mem_map_of_mem hfield)
  exact congrArg not (beq_text_eq_false hne)

/-- A field is found under its name. -/
theorem get?_written (h : Named names fields) {name : String} {value : Option Document}
    (hfield : (name, value) ∈ fields) : (written fields).get? name = value := by
  have hnodup := h.names_eq ▸ h.nodup
  clear h
  induction fields with
  | nil => cases hfield
  | cons field rest ih =>
    obtain ⟨hnew, hrest⟩ := List.nodup_cons.mp hnodup
    rcases List.mem_cons.mp hfield with rfl | hmem
    · cases value with
      | none => exact @get?_written_of_not_mem rest name hnew
      | some value => simp [written, Fields.get?]
    · have hne := beq_text_eq_false fun heq : name = field.1 =>
        hnew (heq ▸ List.mem_map_of_mem hmem)
      rw [← ih hmem hrest]
      obtain ⟨other, value'⟩ := field
      cases value' with
      | none => rfl
      | some value' => simp [written, Fields.get?, List.lookup_cons, hne]

/-- Every key is the name of a field. -/
theorem exists_of_mem_written {entry : Scalar × Document} (h : entry ∈ written fields) :
    ∃ name ∈ fields.map Prod.fst, entry.1 = .text name := by
  obtain ⟨field, hfield, hvalue⟩ := List.mem_filterMap.mp h
  obtain ⟨value, -, rfl⟩ := Option.map_eq_some_iff.mp hvalue
  exact ⟨field.1, List.mem_map_of_mem hfield, rfl⟩

/-- The fields of a record may be read: no name has surrogates. -/
theorem read_eq (h : Named names fields) (decode : Fields → Checked α) :
    (written fields).read decode = decode (written fields) := by
  rw [Fields.read, if_neg]
  rw [Fields.hasSurrogateName, List.any_eq_true]
  rintro ⟨⟨key, value⟩, hentry, hsurrogate⟩
  obtain ⟨name, hname, rfl⟩ := exists_of_mem_written hentry
  have hplain := List.all_eq_true.mp h.noSurrogate name (h.names_eq ▸ hname)
  rw [Bool.not_eq_true', Bool.eq_false_iff] at hplain
  exact hplain hsurrogate

theorem decode_record (h : Named names fields) (decode : Fields → Checked α) :
    Decoder.record decode (Document.record fields) = decode (written fields) :=
  h.read_eq decode

/-- A record is read when its fields are read from what was written. -/
theorem record_eq {decode : Fields → Checked α} {a : α} (names : List String)
    (h : Named names fields) (hread : Named names fields → decode (written fields) = .ok a) :
    Decoder.record decode (Document.record fields) = .ok a :=
  (h.decode_record decode).trans (hread h)

variable (h : Named names fields)
include h

/-- No field of the record is foreign. -/
theorem only_eq : (written fields).only names = .ok () := by
  rw [Fields.only, if_pos]
  rw [List.isEmpty_iff, List.filterMap_eq_nil_iff]
  rintro ⟨key, value⟩ hentry
  obtain ⟨name, hname, rfl⟩ := exists_of_mem_written hentry
  rw [h.names_eq] at hname
  simp [Fields.foreignCause?, hname]

variable (name : String) (decode : Decoder α)

theorem required_eq {a : α} (document : Document) (hfield : (name, some document) ∈ fields)
    (hread : decode document = .ok a) : (written fields).required name decode = .ok a := by
  rw [Fields.required, h.get?_written hfield]
  exact Checked.below_eq_ok_iff.mpr hread

theorem withDefault_eq {default a : α} (document : Document)
    (hfield : (name, some document) ∈ fields) (hread : decode document = .ok a) :
    (written fields).withDefault name default decode = .ok a := by
  rw [Fields.withDefault, h.get?_written hfield]
  exact Checked.below_eq_ok_iff.mpr hread

/-- A field that is left out is read as absent. -/
theorem optional_eq (encode : β → Document) (f : β → α) (value : Option β)
    (hfield : (name, value.map encode) ∈ fields)
    (hread : ∀ b ∈ value, decode (encode b) = .ok (f b))
    (hpresent : ∀ b, (encode b).isNull = false) :
    (written fields).optional name decode = .ok (value.map f) := by
  rw [Fields.optional, Fields.withDefault, h.get?_written hfield]
  cases value with
  | none => rfl
  | some b =>
    refine Checked.below_eq_ok_iff.mpr ?_
    rw [Decoder.optional, hpresent, if_neg Bool.false_ne_true, hread b rfl]
    rfl

end Named

/-! Lists and dictionaries. -/

namespace Decoder

variable {decode : Decoder α} {encode : β → Document} {f : β → α}

theorem list_eq_ok_iff {values : List β} {results : List α} :
    Decoder.list decode (.list (values.map encode)) = .ok results ↔
      List.Forall₂ (fun value result => decode (encode value) = .ok result) values results := by
  rw [← List.forall₂_map_left_iff (R := fun document result => decode document = .ok result)]
  exact Checked.itemsFrom_eq_ok_iff 0

/-- A list is read item by item. -/
theorem list_map_eq {values : List β}
    (h : ∀ value ∈ values, decode (encode value) = .ok (f value)) :
    Decoder.list decode (.list (values.map encode)) = .ok (values.map f) := by
  rw [list_eq_ok_iff, List.forall₂_map_right_iff, List.forall₂_same]
  exact h

theorem list_texts_eq (ss : List String) : Decoder.list Decoder.text (.texts ss) = .ok ss := by
  have hread : Decoder.list Decoder.text (.list (ss.map Document.text)) = .ok (ss.map id) :=
    list_map_eq fun _ _ => rfl
  rwa [List.map_id] at hread

/-- A dictionary is read entry by entry, and the order stays. -/
theorem mapping_map_eq {κ : Type} [BEq κ] [EquivBEq κ] {decodeKey : Scalar → Checked κ}
    {encodeKey : κ → Scalar} {P : β → Prop} {entries : Entries κ β} (h : entries.Dictionary P)
    (hkey : ∀ key ∈ entries.keys, decodeKey (encodeKey key) = .ok key)
    (hvalue : ∀ value, P value → decode (encode value) = .ok (f value)) :
    Decoder.mapping decodeKey decode
        (.object (entries.map fun entry => (encodeKey entry.1, encode entry.2))) =
      .ok (Entries.mapValues f entries) := by
  have hread : Decoder.entries decodeKey decode
      (entries.map fun entry => (encodeKey entry.1, encode entry.2)) =
        .ok (Entries.mapValues f entries) := by
    rw [entries_eq_ok_iff, List.forall₂_map_left_iff, List.forall₂_map_right_iff,
      List.forall₂_same]
    exact fun entry hentry =>
      ⟨hkey entry.1 (List.mem_map_of_mem hentry), hvalue entry.2 (h.values entry hentry)⟩
  have hsame : Entries.ofList (Entries.mapValues f entries) = Entries.mapValues f entries := by
    refine Entries.ofList_eq_self ?_
    rw [Entries.Distinct, Entries.keys_mapValues]
    exact h.distinct
  exact Checked.map_eq_ok_iff.mpr ⟨_, hread, hsame⟩

theorem texts_map_eq {P : β → Prop} {entries : Entries String β} (h : entries.Dictionary P)
    (hvalue : ∀ value, P value → decode (encode value) = .ok (f value)) :
    Decoder.texts decode (.object (entries.map fun entry => (.text entry.1, encode entry.2))) =
      .ok (Entries.mapValues f entries) :=
  mapping_map_eq h (fun _ _ => rfl) hvalue

end Decoder

/-! ## Plain documents -/

theorem plainItems_eq_map (items : List Document) :
    plainItems items = items.map Document.plain := by
  induction items with
  | nil => rfl
  | cons item rest ih => rw [plainItems, ih, List.map_cons]

theorem plainEntries_eq_map (entries : List (Scalar × Document)) :
    plainEntries entries = entries.map fun entry => (entry.1.asKey, entry.2.plain) := by
  induction entries with
  | nil => rfl
  | cons entry rest ih => rw [plainEntries, ih, List.map_cons]

namespace Document

@[simp] theorem plain_scalar (value : Scalar) : (Document.scalar value).plain = .scalar value :=
  rfl

theorem plain_list {values : List β} {encode : β → Document}
    (h : ∀ value ∈ values, (encode value).plain = encode value) :
    (Document.list (values.map encode)).plain = .list (values.map encode) := by
  rw [plain, plainItems_eq_map, List.map_map]
  exact congrArg Document.list (List.map_congr_left h)

@[simp] theorem plain_texts (ss : List String) : (Document.texts ss).plain = .texts ss :=
  plain_list fun _ _ => rfl

/-- The plain form of a record is that of its fields. -/
theorem plain_record (fields : List (String × Option Document)) :
    (Document.record fields).plain =
      .record (fields.map fun field => (field.1, field.2.map plain)) := by
  rw [record, record, plain, plainEntries_eq_map, List.map_filterMap, List.filterMap_map]
  congr 2
  funext ⟨name, value⟩
  cases value <;> rfl

/-- A record whose fields are plain is plain. -/
theorem plain_record_eq_self {fields : List (String × Option Document)}
    (h : ∀ field ∈ fields, ∀ value ∈ field.2, value.plain = value) :
    (Document.record fields).plain = .record fields := by
  have hfields : ∀ field ∈ fields, (field.1, field.2.map plain) = field := fun field hfield =>
    Prod.ext rfl ((Option.map_congr (h field hfield)).trans Option.map_id')
  rw [plain_record, List.map_congr_left hfields, List.map_id']

/-- A dictionary whose keys are texts is plain when its values are. -/
theorem plain_dictionary {entries : Entries String β} {encode : β → Document}
    (h : ∀ entry ∈ entries, (encode entry.2).plain = encode entry.2) :
    (Document.object (entries.map fun entry => (.text entry.1, encode entry.2))).plain =
      .object (entries.map fun entry => (.text entry.1, encode entry.2)) := by
  rw [plain, plainEntries_eq_map, List.map_map]
  exact congrArg Document.object
    (List.map_congr_left fun entry hentry => Prod.ext rfl (h entry hentry))

end Document

end QueryAudit
