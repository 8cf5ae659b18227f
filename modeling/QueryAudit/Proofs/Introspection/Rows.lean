import QueryAudit.Introspection
import QueryAudit.Proofs.Results

/-!
# Rows that fit the snapshot

A catalog promises nothing about the values in its rows. Each value of a row has to stand for a
text, an integer or a truth value before a part of the snapshot is built from the row, and these
values are all that is asked of it. What the part holds are the values that are read.
-/

namespace QueryAudit

/-! ## Values -/

/-- The value that passed a check. -/
def Checked.value? {α : Type} : Checked α → Option α
  | .ok value => some value
  | .bad _ => none

theorem Checked.value?_eq_some_iff {α : Type} {x : Checked α} {a : α} :
    x.value? = some a ↔ x = .ok a := by
  cases x <;> simp [Checked.value?]

namespace Scalar

/-- The text for which a value stands. -/
def text? (value : Scalar) : Option String :=
  (Decoder.text (.scalar value)).value?

/-- The integer for which a value stands. -/
def number? (value : Scalar) : Option Int :=
  (Decoder.int (.scalar value)).value?

/-- The truth value for which a value stands. -/
def truth? (value : Scalar) : Option Bool :=
  (Decoder.bool (.scalar value)).value?

variable {value : Scalar}

theorem text?_eq_some_iff {s : String} :
    value.text? = some s ↔ Decoder.text (.scalar value) = .ok s :=
  Checked.value?_eq_some_iff

theorem number?_eq_some_iff {n : Int} :
    value.number? = some n ↔ Decoder.int (.scalar value) = .ok n :=
  Checked.value?_eq_some_iff

@[simp]
theorem text?_text (s : String) : (Scalar.text s).text? = some s :=
  rfl

@[simp]
theorem number?_int (n : Int) : (Scalar.int n).number? = some n :=
  rfl

@[simp]
theorem truth?_bool (b : Bool) : (Scalar.bool b).truth? = some b :=
  rfl

theorem truth?_eq_some_iff {b : Bool} :
    value.truth? = some b ↔ Decoder.bool (.scalar value) = .ok b :=
  Checked.value?_eq_some_iff

/-- What stands for a text is the same key as itself only. -/
theorem beq_iff_eq_of_text? {other : Scalar} {s : String} (h : other.text? = some s) :
    value == other ↔ value = other := by
  rw [beq_iff]
  cases other with
  | text t => rw [← beq_iff, beq_text]
  | binary octets =>
    constructor
    · intro hidentity
      cases value <;> simp [identity] at hidentity
      · split at hidentity <;> simp at hidentity
      · split at hidentity <;> simp at hidentity
      · rw [hidentity]
    · exact congrArg identity
  | _ => cases h

end Scalar

namespace Decoder

/-- An absent value stands for nothing, and any other for what is read from it. -/
theorem optional_scalar_eq_ok_iff {α : Type} {decode : Decoder α} {value : Scalar}
    {result : Option α} :
    Decoder.optional decode (.scalar value) = .ok result ↔
      (value = .null ∧ result = none) ∨
        value ≠ .null ∧ ∃ a, decode (.scalar value) = .ok a ∧ result = some a := by
  by_cases hnull : value = .null
  · subst hnull
    simp [Decoder.optional, Document.isNull, eq_comm]
  · have hpresent : (Document.scalar value).isNull = false := by
      cases value <;> first | rfl | exact absurd rfl hnull
    rw [Decoder.optional, hpresent, if_neg Bool.false_ne_true, Checked.map_eq_ok_iff]
    simp [hnull, eq_comm]

/-- The keys of a dictionary pass when each of them passes; of keys that are read alike the last
value counts. -/
theorem keys_eq_ok_iff {α β : Type} [BEq β] {decodeKey : Scalar → Checked β}
    {pairs : List (Scalar × α)} {result : Entries β α} :
    Decoder.keys decodeKey pairs = .ok result ↔
      ∃ read, List.Forall₂ (fun pair entry => decodeKey pair.1 = .ok entry.1 ∧ entry.2 = pair.2)
        pairs read ∧ Entries.ofList read = result := by
  have hread (pairs : List (Scalar × α)) (read : List (β × α)) :
      pairs.foldr (fun pair rest => (fun k rest => (k, pair.2) :: rest) <$>
        key decodeKey pair.1 <*> rest) (Checked.ok []) = .ok read ↔
      List.Forall₂ (fun pair entry => decodeKey pair.1 = .ok entry.1 ∧ entry.2 = pair.2)
        pairs read := by
    induction pairs generalizing read with
    | nil =>
      rw [List.foldr_nil, List.forall₂_nil_left_iff]
      exact ⟨fun h => (Checked.ok.inj h).symm, fun h => h ▸ rfl⟩
    | cons pair rest ih =>
      rw [List.foldr_cons, Checked.seq_eq_ok_iff, List.forall₂_cons_left_iff]
      simp only [← ih, Checked.map_eq_ok_iff, key, Checked.below_eq_ok_iff]
      constructor
      · rintro ⟨_, others, ⟨k, hk, rfl⟩, hothers, rfl⟩
        exact ⟨(k, pair.2), others, ⟨hk, rfl⟩, hothers, rfl⟩
      · rintro ⟨entry, others, ⟨hk, hvalue⟩, hothers, rfl⟩
        exact ⟨_, others, ⟨entry.1, hk, rfl⟩, hothers, by rw [← hvalue]⟩
  rw [Decoder.keys, Checked.map_eq_ok_iff]
  simp only [← hread]

end Decoder

namespace Introspection

/-! ## Parts of the snapshot and their rows -/

theorem fitted_eq_ok_iff {α : Type} {x : Checked α} {a : α} : fitted x = .ok a ↔ x = .ok a := by
  cases x <;> simp [fitted]

/-- Nothing but a text names a type. -/
theorem typeName_eq_ok_iff {name : Scalar} {s : String} :
    typeName name = .ok s ↔ name = .text s := by
  cases name <;> simp [typeName]

/-- The labels of an enumeration, as they are looked up. -/
def labelsOf (labels : Entries Scalar (List Scalar)) (row : TypeRow) : List Scalar :=
  (labels.get? row.oid).getD []

section LeafType

variable {labels : Entries Scalar (List Scalar)} {row : TypeRow} {type : DataType}

theorem leafType_enum_eq_ok_iff (h : row.kind = .text "e") :
    leafType labels row = .ok type ↔ ∃ name texts, row.name.text? = some name ∧
      List.Forall₂ (fun label text => label.text? = some text) (labelsOf labels row) texts ∧
      DataType.enumeration name texts = type := by
  have hlist (values : List Scalar) (texts : List String) :
      Decoder.list Decoder.text (.list (values.map .scalar)) = .ok texts ↔
        List.Forall₂ (fun label text => label.text? = some text) values texts := by
    change Checked.itemsFrom Decoder.text 0 (values.map .scalar) = .ok texts ↔ _
    simp only [Checked.itemsFrom_eq_ok_iff, List.forall₂_map_left_iff, Scalar.text?_eq_some_iff]
  rw [leafType, if_pos h, fitted_eq_ok_iff, DataType.decodeEnumeration]
  simp only [Checked.seq_eq_ok_iff, Checked.map_eq_ok_iff, Checked.below_eq_ok_iff, hlist,
    Scalar.text?_eq_some_iff]
  constructor
  · rintro ⟨_, texts, ⟨name, hname, rfl⟩, htexts, rfl⟩
    exact ⟨name, texts, hname, htexts, rfl⟩
  · rintro ⟨name, texts, hname, htexts, rfl⟩
    exact ⟨_, texts, ⟨name, hname, rfl⟩, htexts, rfl⟩

theorem leafType_plain_eq_ok_iff (h : row.kind ≠ .text "e") :
    leafType labels row = .ok type ↔
      ∃ name, row.name = .text name ∧ DataType.scalar (TypeMap.canonicalName name) = type := by
  rw [leafType, if_neg h, map_eq_ok_iff]
  simp only [typeName_eq_ok_iff]

end LeafType

theorem column_eq_ok_iff {types : Types} {row : ColumnRow} {result : Column} :
    column types row = .ok result ↔
      row.name.text? = some result.name ∧ row.nullable.truth? = some result.nullable ∧
        row.ordinal.number? = some result.ordinal ∧ result.dataType = columnType types row := by
  simp only [column, Checked.seq_eq_ok_iff, Checked.map_eq_ok_iff, Checked.below_eq_ok_iff,
    Scalar.text?_eq_some_iff, Scalar.truth?_eq_some_iff, Scalar.number?_eq_some_iff]
  constructor
  · rintro ⟨_, ordinal, ⟨_, nullable, ⟨name, hname, rfl⟩, hnullable, rfl⟩, hordinal, rfl⟩
    exact ⟨hname, hnullable, hordinal, rfl⟩
  · rintro ⟨hname, hnullable, hordinal, htype⟩
    exact ⟨_, _, ⟨_, _, ⟨_, hname, rfl⟩, hnullable, rfl⟩, hordinal, by rw [← htype]⟩

theorem table_eq_ok_iff {columns : Entries TableKey (List Column)} {row : TableRow}
    {result : Table} :
    table columns row = .ok result ↔
      row.name.text? = some result.name ∧ row.schemaName.text? = some result.schemaName ∧
        Decoder.optional Decoder.int (.scalar row.oid) = .ok result.oid ∧
        result.columns = (columns.get? (row.schemaName, row.name)).getD [] := by
  simp only [table, Checked.seq_eq_ok_iff, Checked.map_eq_ok_iff, Checked.below_eq_ok_iff,
    Scalar.text?_eq_some_iff]
  constructor
  · rintro ⟨_, oid, ⟨_, schemaName, ⟨name, hname, rfl⟩, hschema, rfl⟩, hoid, rfl⟩
    exact ⟨hname, hschema, hoid, rfl⟩
  · rintro ⟨hname, hschema, hoid, hcolumns⟩
    exact ⟨_, _, ⟨_, _, ⟨_, hname, rfl⟩, hschema, rfl⟩, hoid, by rw [← hcolumns]⟩

theorem schema_eq_ok_iff {entry : Scalar × Entries String Table} {result : Schema} :
    schema entry = .ok result ↔
      entry.1.text? = some result.name ∧ result.tables = entry.2 := by
  simp only [schema, Checked.map_eq_ok_iff, Checked.below_eq_ok_iff, Scalar.text?_eq_some_iff]
  constructor
  · rintro ⟨name, hname, rfl⟩
    exact ⟨hname, rfl⟩
  · rintro ⟨hname, htables⟩
    exact ⟨_, hname, by rw [← htables]⟩

theorem signature_eq_ok_iff {types : Types} {row : FunctionRow} {result : Signature} :
    signature types row = .ok result ↔
      row.name.text? = some result.name ∧ row.schemaName.text? = some result.schemaName ∧
        parameterNames (row.argumentTypes.getD []).length (inputNames row) =
          .ok result.parameterNames ∧
        row.returnsSet.truth? = some result.returnsSet ∧
        result.parameterTypes = (row.argumentTypes.getD []).map (typeOf types) ∧
        result.returnType = typeOf types row.returnType ∧
        result.returnsComposite =
          (row.returnKind == .text "c" || row.returnKind == .text "p") := by
  simp only [signature, Checked.seq_eq_ok_iff, Checked.map_eq_ok_iff, Checked.below_eq_ok_iff,
    Scalar.text?_eq_some_iff, Scalar.truth?_eq_some_iff]
  constructor
  · rintro ⟨_, returnsSet, ⟨_, names, ⟨_, schemaName, ⟨name, hname, rfl⟩, hschema, rfl⟩, hnames,
      rfl⟩, hset, rfl⟩
    exact ⟨hname, hschema, hnames, hset, rfl, rfl, rfl⟩
  · rintro ⟨hname, hschema, hnames, hset, htypes, hreturn, hcomposite⟩
    refine ⟨_, _, ⟨_, _, ⟨_, _, ⟨_, hname, rfl⟩, hschema, rfl⟩, hnames, rfl⟩, hset, ?_⟩
    rw [← htypes, ← hreturn, ← hcomposite]

theorem namedSignature_eq_ok_iff {types : Types} {row : FunctionRow} {entry : String × Signature} :
    namedSignature types row = .ok entry ↔
      ∃ name, row.name = .text name ∧ entry.1 = Text.lowered name ∧
        signature types row = .ok entry.2 := by
  rw [namedSignature]
  cases hname : row.name with
  | text name =>
    simp only [map_eq_ok_iff, fitted_eq_ok_iff, Scalar.text.injEq, exists_eq_left']
    constructor
    · rintro ⟨result, hresult, rfl⟩
      exact ⟨rfl, hresult⟩
    · rintro ⟨hkey, hresult⟩
      exact ⟨entry.2, hresult, by rw [← hkey]⟩
  | _ => simp

theorem numbered_eq_ok_iff {types : Types} {result : Entries Int DataType} :
    numbered types = .ok result ↔
      ∃ read, List.Forall₂ (fun pair entry => pair.1.number? = some entry.1 ∧ entry.2 = pair.2)
        types read ∧ Entries.ofList read = result := by
  simp only [numbered, Checked.below_eq_ok_iff, Decoder.keys_eq_ok_iff, Scalar.number?_eq_some_iff]

end Introspection

end QueryAudit
