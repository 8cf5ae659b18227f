import QueryAudit.Diagnostic
import QueryAudit.Proofs.Keys
import QueryAudit.Proofs.Nesting
import QueryAudit.Proofs.Vocabulary

/-!
# Records are read again

A record that has been read is written as a document from which it is read again, with its type
names normalised and everything else as it was. The same is read from the plain form of the
document, in which the catalog numbers of the types are texts, unless one of these is too long for a
numeral.
-/

namespace QueryAudit

/-! ## What is read -/

section Reading

variable {Q : Document → Prop} {P : DataType → Prop} (hQ : Hereditary Q)
  (htype : Decoder.Yields Q DataType.decode P)
include hQ htype

theorem Column.decode_yields : Decoder.Yields Q Column.decode (Column.Regular P) := by
  refine .record hQ fun _ hfields => ?_
  have hdataType := Fields.required_yields hfields "data_type" htype
  refine .seq (.seq (.seq (.seq (.map (.trivial _) ?_) hdataType) (.trivial _)) (.trivial _))
    (.trivial _)
  exact fun _ _ _ hdataType _ _ _ _ _ _ => hdataType

theorem Table.decode_yields : Decoder.Yields Q Table.decode (Table.Regular P) := by
  refine .record hQ fun _ hfields => ?_
  have hcolumns := Fields.list_yields hfields "columns" hQ (Column.decode_yields hQ htype)
  refine .seq (.seq (.seq (.seq (.map (.trivial _) ?_) (.trivial _)) (.trivial _)) hcolumns)
    (.trivial _)
  exact fun _ _ _ _ _ _ _ hcolumns _ _ => hcolumns

theorem Schema.decode_yields : Decoder.Yields Q Schema.decode (Schema.Regular P) := by
  refine .record hQ fun _ hfields => ?_
  have htables := Fields.mapping_yields hfields "tables" hQ (fun key => Decoder.text (.scalar key))
    (Table.decode_yields hQ htype)
  refine .seq (.seq (.map (.trivial _) ?_) htables) (.trivial _)
  exact fun _ _ _ htables _ _ => htables

theorem Signature.decode_yields : Decoder.Yields Q Signature.decode (Signature.Regular P) := by
  refine .record hQ fun _ hfields => ?_
  have htypes := Fields.list_yields hfields "parameter_types" hQ htype
  have hreturn := Fields.required_yields hfields "return_type" htype
  refine .seq (.seq (.seq (.seq (.seq (.seq (.seq (.map (.trivial _) ?_) (.trivial _)) (.trivial _))
    htypes) hreturn) (.trivial _)) (.trivial _)) (.trivial _)
  exact fun _ _ _ _ _ _ _ htypes _ hreturn _ _ _ _ _ _ => ⟨htypes, hreturn⟩

theorem Snapshot.decode_yields : Decoder.Yields Q Snapshot.decode (Snapshot.Regular P) := by
  refine .record hQ fun _ hfields => ?_
  have hschemas := Fields.mapping_yields hfields "schemas" hQ
    (fun key => Decoder.text (.scalar key)) (Schema.decode_yields hQ htype)
  have henums := Fields.mapping_yields hfields "enums" hQ
    (fun key => Decoder.text (.scalar key)) (.trivial (Decoder.list Decoder.text))
  have hfunctions := Fields.mapping_yields hfields "functions" hQ
    (fun key => Decoder.text (.scalar key)) (.list hQ (Signature.decode_yields hQ htype))
  have htypes := Fields.mapping_yields hfields "types" hQ
    (fun key => Decoder.int (.scalar key)) htype
  refine .seq (.seq (.seq (.seq (.map hschemas ?_) henums) hfunctions) htypes) (.trivial _)
  exact fun _ hschemas _ henums _ hfunctions _ htypes _ _ => ⟨hschemas, henums, hfunctions, htypes⟩

theorem Parameter.decode_yields : Decoder.Yields Q Parameter.decode (Parameter.Regular P) := by
  refine .record hQ fun _ hfields => ?_
  have hdataType := Fields.required_yields hfields "data_type" htype
  refine .seq (.seq (.seq (.map (.trivial _) ?_) (.trivial _)) hdataType) (.trivial _)
  exact fun _ _ _ _ _ hdataType _ _ => hdataType

theorem OutputColumn.decode_yields :
    Decoder.Yields Q OutputColumn.decode (OutputColumn.Regular P) := by
  refine .record hQ fun _ hfields => ?_
  have hdataType := Fields.required_yields hfields "data_type" htype
  refine .seq (.seq (.seq (.seq (.map (.trivial _) ?_) hdataType) (.trivial _)) (.trivial _))
    (.trivial _)
  exact fun _ _ _ hdataType _ _ _ _ _ _ => hdataType

theorem Description.decode_yields :
    Decoder.Yields Q Description.decode (Description.Regular P) := by
  refine .record hQ fun _ hfields => ?_
  have hparameters := Fields.list_yields hfields "parameters" hQ (Parameter.decode_yields hQ htype)
  have hcolumns := Fields.list_yields hfields "columns" hQ (OutputColumn.decode_yields hQ htype)
  refine .seq (.seq (.map hparameters ?_) hcolumns) (.trivial _)
  exact fun _ hparameters _ hcolumns _ _ => ⟨hparameters, hcolumns⟩

end Reading

/-! ## What is written -/

/-- A parameter without a name stays one. -/
theorem Signature.decode_encodeName (name : Option String) :
    Decoder.optional Decoder.text (encodeName name) = .ok name := by
  cases name <;> rfl

/-- The fields of a written snapshot, with the catalog numbers as given. -/
def Snapshot.fieldsWith (encodeOid : Int → Scalar) (snapshot : Snapshot) :
    List (String × Option Document) :=
  [("schemas",
      some (.object (snapshot.schemas.map fun entry => (.text entry.1, entry.2.encode)))),
    ("enums",
      some (.object (snapshot.enums.map fun entry => (.text entry.1, .texts entry.2)))),
    ("functions", some (.object (snapshot.functions.map fun entry =>
      (.text entry.1, .list (entry.2.map Signature.encode))))),
    ("types", some (.object (snapshot.types.map fun entry =>
      (encodeOid entry.1, entry.2.encode))))]

theorem Snapshot.encode_eq (snapshot : Snapshot) :
    snapshot.encode = Document.record (snapshot.fieldsWith .int) :=
  rfl

section Writing

variable {P : DataType → Prop} {f : String → String}
  (htype : ∀ type, P type → DataType.decode type.encode = .ok (type.rename f))
include htype

theorem Column.decode_encode {column : Column} (h : column.Regular P) :
    decode column.encode = .ok (column.rename f) := by
  refine Named.record_eq fieldNames ⟨rfl, by decide, by decide⟩ fun hn => ?_
  rw [hn.required_eq "name" Decoder.text (.text column.name) (by simp) rfl,
    hn.required_eq "data_type" DataType.decode column.dataType.encode (by simp) (htype _ h),
    hn.withDefault_eq "nullable" Decoder.bool (.bool column.nullable) (by simp) rfl,
    hn.required_eq "ordinal_position" Decoder.int (.int column.ordinal) (by simp) rfl, hn.only_eq]
  rfl

theorem Table.decode_encode {table : Table} (h : table.Regular P) :
    decode table.encode = .ok (table.rename f) := by
  have hcolumns := Decoder.list_map_eq fun column hcolumn =>
    Column.decode_encode htype (h column hcolumn)
  refine Named.record_eq fieldNames ⟨rfl, by decide, by decide⟩ fun hn => ?_
  rw [hn.required_eq "name" Decoder.text (.text table.name) (by simp) rfl,
    hn.required_eq "schema_name" Decoder.text (.text table.schemaName) (by simp) rfl,
    hn.optional_eq "oid" Decoder.int Document.int id table.oid (by simp) (fun _ _ => rfl)
      (fun _ => rfl),
    hn.withDefault_eq "columns" (Decoder.list Column.decode) _ (by simp) hcolumns, hn.only_eq,
    Option.map_id]
  rfl

theorem Schema.decode_encode {schema : Schema} (h : schema.Regular P) :
    decode schema.encode = .ok (schema.rename f) := by
  have htables := Decoder.texts_map_eq h fun _ => Table.decode_encode htype
  refine Named.record_eq fieldNames ⟨rfl, by decide, by decide⟩ fun hn => ?_
  rw [hn.required_eq "name" Decoder.text (.text schema.name) (by simp) rfl,
    hn.withDefault_eq "tables" (Decoder.texts Table.decode) _ (by simp) htables, hn.only_eq]
  rfl

theorem Signature.decode_encode {signature : Signature} (h : signature.Regular P) :
    decode signature.encode = .ok (signature.rename f) := by
  have hnames : Decoder.list (Decoder.optional Decoder.text)
      (.list (signature.parameterNames.map encodeName)) =
        .ok (signature.parameterNames.map id) :=
    Decoder.list_map_eq fun name _ => decode_encodeName name
  have htypes := Decoder.list_map_eq fun type hmem => htype type (h.parameterTypes type hmem)
  refine Named.record_eq fieldNames ⟨rfl, by decide, by decide⟩ fun hn => ?_
  rw [hn.required_eq "name" Decoder.text (.text signature.name) (by simp) rfl,
    hn.required_eq "schema_name" Decoder.text (.text signature.schemaName) (by simp) rfl,
    hn.withDefault_eq "parameter_names" (Decoder.list (Decoder.optional Decoder.text)) _ (by simp)
      hnames,
    hn.withDefault_eq "parameter_types" (Decoder.list DataType.decode) _ (by simp) htypes,
    hn.required_eq "return_type" DataType.decode signature.returnType.encode (by simp)
      (htype _ h.returnType),
    hn.withDefault_eq "returns_set" Decoder.bool (.bool signature.returnsSet) (by simp) rfl,
    hn.withDefault_eq "returns_composite" Decoder.bool (.bool signature.returnsComposite) (by simp)
      rfl, hn.only_eq, List.map_id]
  rfl

theorem Parameter.decode_encode {parameter : Parameter} (h : parameter.Regular P) :
    decode parameter.encode = .ok (parameter.rename f) := by
  refine Named.record_eq fieldNames ⟨rfl, by decide, by decide⟩ fun hn => ?_
  rw [hn.required_eq "position" Decoder.int (.int parameter.position) (by simp) rfl,
    hn.optional_eq "name" Decoder.text Document.text id parameter.name (by simp) (fun _ _ => rfl)
      (fun _ => rfl),
    hn.required_eq "data_type" DataType.decode parameter.dataType.encode (by simp) (htype _ h),
    hn.only_eq, Option.map_id]
  rfl

theorem OutputColumn.decode_encode {column : OutputColumn} (h : column.Regular P) :
    decode column.encode = .ok (column.rename f) := by
  refine Named.record_eq fieldNames ⟨rfl, by decide, by decide⟩ fun hn => ?_
  rw [hn.required_eq "name" Decoder.text (.text column.name) (by simp) rfl,
    hn.required_eq "data_type" DataType.decode column.dataType.encode (by simp) (htype _ h),
    hn.withDefault_eq "nullable" Decoder.bool (.bool column.nullable) (by simp) rfl,
    hn.withDefault_eq "from_table" Decoder.bool (.bool column.fromTable) (by simp) rfl, hn.only_eq]
  rfl

theorem Description.decode_encode {description : Description} (h : description.Regular P) :
    decode description.encode = .ok (description.rename f) := by
  have hparameters := Decoder.list_map_eq fun parameter hparameter =>
    Parameter.decode_encode htype (h.parameters parameter hparameter)
  have hcolumns := Decoder.list_map_eq fun column hcolumn =>
    OutputColumn.decode_encode htype (h.columns column hcolumn)
  refine Named.record_eq fieldNames ⟨rfl, by decide, by decide⟩ fun hn => ?_
  rw [hn.withDefault_eq "parameters" (Decoder.list Parameter.decode) _ (by simp) hparameters,
    hn.withDefault_eq "columns" (Decoder.list OutputColumn.decode) _ (by simp) hcolumns, hn.only_eq]
  rfl

/-- A snapshot is read when its catalog numbers are. -/
theorem Snapshot.decode_fieldsWith {snapshot : Snapshot} (h : snapshot.Regular P)
    {encodeOid : Int → Scalar}
    (hoid : ∀ oid ∈ snapshot.types.keys, Decoder.int (.scalar (encodeOid oid)) = .ok oid) :
    decode (Document.record (snapshot.fieldsWith encodeOid)) = .ok (snapshot.rename f) := by
  have hschemas := Decoder.texts_map_eq h.schemas fun _ => Schema.decode_encode htype
  have henums : Decoder.texts (Decoder.list Decoder.text)
      (.object (snapshot.enums.map fun entry => (.text entry.1, .texts entry.2))) =
        .ok snapshot.enums := by
    have hread := Decoder.texts_map_eq (f := id) h.enums fun labels _ =>
      Decoder.list_texts_eq labels
    rwa [Entries.mapValues_eq_self (g := id) h.enums fun _ _ => rfl] at hread
  have hfunctions := Decoder.texts_map_eq h.functions fun _ hsignatures =>
    Decoder.list_map_eq fun signature hsignature =>
      Signature.decode_encode htype (hsignatures signature hsignature)
  have htypes : Decoder.ints DataType.decode
      (.object (snapshot.types.map fun entry => (encodeOid entry.1, entry.2.encode))) =
        .ok (Entries.mapValues (DataType.rename f) snapshot.types) :=
    Decoder.mapping_map_eq h.types hoid htype
  refine Named.record_eq fieldNames ⟨rfl, by decide, by decide⟩ fun hn => ?_
  rw [hn.withDefault_eq "schemas" (Decoder.texts Schema.decode) _ (by simp [fieldsWith]) hschemas,
    hn.withDefault_eq "enums" (Decoder.texts (Decoder.list Decoder.text)) _ (by simp [fieldsWith])
      henums,
    hn.withDefault_eq "functions" (Decoder.texts (Decoder.list Signature.decode)) _
      (by simp [fieldsWith]) hfunctions,
    hn.withDefault_eq "types" (Decoder.ints DataType.decode) _ (by simp [fieldsWith]) htypes,
    hn.only_eq]
  rfl

end Writing

theorem SourceRange.decode_encode (range : SourceRange) : decode range.encode = .ok range := by
  refine Named.record_eq fieldNames ⟨rfl, by decide, by decide⟩ fun hn => ?_
  rw [hn.optional_eq "file" Decoder.text Document.text id range.file (by simp) (fun _ _ => rfl)
      (fun _ => rfl),
    hn.withDefault_eq "start_line" Decoder.int (.int range.startLine) (by simp) rfl,
    hn.withDefault_eq "start_column" Decoder.int (.int range.startColumn) (by simp) rfl,
    hn.optional_eq "end_line" Decoder.int Document.int id range.endLine (by simp)
      (fun _ _ => rfl) (fun _ => rfl),
    hn.optional_eq "end_column" Decoder.int Document.int id range.endColumn (by simp)
      (fun _ _ => rfl) (fun _ => rfl),
    hn.only_eq, Option.map_id, Option.map_id]
  rfl

theorem Diagnostic.decode_encode (diagnostic : Diagnostic) :
    decode diagnostic.encode = .ok diagnostic := by
  refine Named.record_eq fieldNames ⟨rfl, by decide, by decide⟩ fun hn => ?_
  rw [hn.withDefault_eq "severity" Vocabulary.decode _ (by simp)
      (Vocabulary.decode_text diagnostic.severity),
    hn.required_eq "code" Vocabulary.decode _ (by simp) (Vocabulary.decode_text diagnostic.code),
    hn.required_eq "message" Decoder.text (.text diagnostic.message) (by simp) rfl,
    hn.withDefault_eq "range" SourceRange.decode diagnostic.range.encode (by simp)
      diagnostic.range.decode_encode, hn.only_eq]
  rfl

/-! ## Plain forms -/

theorem Column.plain_encode (column : Column) : column.encode.plain = column.encode :=
  Document.plain_record_eq_self (by simp [DataType.plain_encode])

theorem Table.plain_encode (table : Table) : table.encode.plain = table.encode := by
  have hcolumns := Document.plain_list fun column (_ : column ∈ table.columns) =>
    column.plain_encode
  exact Document.plain_record_eq_self (by simp [hcolumns])

theorem Schema.plain_encode (schema : Schema) : schema.encode.plain = schema.encode := by
  have htables := Document.plain_dictionary fun entry (_ : entry ∈ schema.tables) =>
    entry.2.plain_encode
  exact Document.plain_record_eq_self (by simp [htables])

theorem Signature.plain_encode (signature : Signature) :
    signature.encode.plain = signature.encode := by
  have hnames : (Document.list (signature.parameterNames.map encodeName)).plain =
      .list (signature.parameterNames.map encodeName) :=
    Document.plain_list fun name _ => by cases name <;> rfl
  have htypes := Document.plain_list fun type (_ : type ∈ signature.parameterTypes) =>
    type.plain_encode
  exact Document.plain_record_eq_self (by simp [hnames, htypes, DataType.plain_encode])

theorem Parameter.plain_encode (parameter : Parameter) :
    parameter.encode.plain = parameter.encode :=
  Document.plain_record_eq_self (by simp [DataType.plain_encode])

theorem OutputColumn.plain_encode (column : OutputColumn) : column.encode.plain = column.encode :=
  Document.plain_record_eq_self (by simp [DataType.plain_encode])

theorem Description.plain_encode (description : Description) :
    description.encode.plain = description.encode := by
  have hparameters := Document.plain_list fun parameter (_ : parameter ∈ description.parameters) =>
    parameter.plain_encode
  have hcolumns := Document.plain_list fun column (_ : column ∈ description.columns) =>
    column.plain_encode
  exact Document.plain_record_eq_self (by simp [hparameters, hcolumns])

theorem SourceRange.plain_encode (range : SourceRange) : range.encode.plain = range.encode :=
  Document.plain_record_eq_self (by simp)

theorem Diagnostic.plain_encode (diagnostic : Diagnostic) :
    diagnostic.encode.plain = diagnostic.encode :=
  Document.plain_record_eq_self (by simp [SourceRange.plain_encode])

/-- In the plain form of a snapshot, the catalog numbers are numerals. -/
theorem Snapshot.plain_encode (snapshot : Snapshot) :
    snapshot.encode.plain =
      Document.record (snapshot.fieldsWith fun oid => .text (Text.integerText oid)) := by
  have hschemas := Document.plain_dictionary fun entry (_ : entry ∈ snapshot.schemas) =>
    entry.2.plain_encode
  have henums := Document.plain_dictionary fun entry (_ : entry ∈ snapshot.enums) =>
    Document.plain_texts entry.2
  have hfunctions := @Document.plain_dictionary _ snapshot.functions
    (fun signatures => .list (signatures.map Signature.encode))
    fun entry _ => Document.plain_list fun signature _ => signature.plain_encode
  have htypes : (Document.object (snapshot.types.map fun entry =>
      (.int entry.1, entry.2.encode))).plain =
        .object (snapshot.types.map fun entry =>
          (.text (Text.integerText entry.1), entry.2.encode)) := by
    rw [Document.plain, plainEntries_eq_map, List.map_map]
    exact congrArg Document.object (List.map_congr_left fun entry _ =>
      Prod.ext rfl entry.2.plain_encode)
  rw [encode_eq, Document.plain_record, fieldsWith, fieldsWith]
  simp only [List.map_cons, List.map_nil, Option.map_some, hschemas, henums, hfunctions, htypes]

/-- Nothing is read from numerals one of which is too long. -/
theorem Snapshot.isShort_of_decode_plain {snapshot result : Snapshot}
    (h : decode snapshot.encode.plain = .ok result) : ∀ oid ∈ snapshot.types.keys, IsShort oid := by
  have hn : Named fieldNames (snapshot.fieldsWith fun oid => .text (Text.integerText oid)) :=
    ⟨rfl, by decide, by decide⟩
  rw [plain_encode, decode, hn.decode_record] at h
  -- Only the check for foreign fields comes after the types.
  obtain ⟨_, _, hfields, -, -⟩ := Checked.seq_eq_ok_iff.mp h
  obtain ⟨_, types, -, htypes, -⟩ := Checked.seq_eq_ok_iff.mp hfields
  rw [Fields.withDefault, hn.get?_written (List.mem_of_getLast? rfl)] at htypes
  obtain ⟨read, hread, -⟩ := Checked.map_eq_ok_iff.mp (Checked.below_eq_ok_iff.mp htypes)
  intro oid hoid
  obtain ⟨entry, hentry, rfl⟩ := List.mem_map.mp hoid
  obtain ⟨result, -, hkey, -⟩ :=
    exists_of_mem_left (Decoder.entries_eq_ok_iff.mp hread) (List.mem_map_of_mem hentry)
  rw [Decoder.int_integerText] at hkey
  by_contra hlong
  rw [if_neg hlong] at hkey
  cases hkey

end QueryAudit
