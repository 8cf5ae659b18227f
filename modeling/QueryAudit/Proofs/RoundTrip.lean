import QueryAudit.Proofs.Records

/-!
# From a record to a document and back

A record of any kind is read again from the document that it is written as, with its type names
normalised; so it comes back as itself when they are normalised already. They are in a record that
was read from a document without octets. The plain form of the document is read in the same way, and
for a snapshot this takes that the numerals of its catalog numbers are short enough to be read.
-/

namespace QueryAudit

/-! ## One kind of record -/

/-- What writing a record and reading it again gives. -/
structure Rereads {α : Type} (decode : Decoder α) (encode : α → Document) (normal : α → α)
    (plainable : α → Prop) : Prop where
  /-- Whatever was read is read again. -/
  again {document : Document} {a : α} (h : decode document = .ok a) :
    decode (encode a) = .ok (normal a)
  /-- It is read again from the plain form, if that can be read. -/
  plain {document : Document} {a result : α} (h : decode document = .ok a) :
    decode (encode a).plain = .ok result ↔ normal a = result ∧ plainable a
  /-- Without octets, what is read is normal already. -/
  kept {document : Document} {a : α} (hfree : document.OctetFree) (h : decode document = .ok a) :
    normal a = a

/-- The limit on types inside one another is kept. -/
def DataType.IsShallow (type : DataType) : Prop :=
  type.Within (fun _ => True) nestingLimit

theorem DataType.decode_yields_isShallow :
    Decoder.Yields (fun _ => True) DataType.decode DataType.IsShallow :=
  decode_yields hereditary_true (.trivial decodeName)

theorem DataType.decode_yields_normal :
    Decoder.Yields Document.OctetFree DataType.decode fun type =>
      type.rename normalizeTypeName = type := by
  intro document hdocument type htype
  have hnames := decode_yields Document.hereditary_octetFree decodeName_yields document hdocument
  exact (hnames type htype).rename_eq_self

theorem DataType.decode_encode_of_isShallow (type : DataType) (h : type.IsShallow) :
    decode type.encode = .ok (type.rename normalizeTypeName) :=
  h.decode_encode

/-- A kind of record that is written in plain form is read again when it is for types of any
property. -/
theorem Rereads.of_types {α : Type} {decode : Decoder α} {encode : α → Document} {rename : α → α}
    {regular : (DataType → Prop) → α → Prop}
    (hread : ∀ {Q P}, Hereditary Q → Decoder.Yields Q DataType.decode P →
      Decoder.Yields Q decode (regular P))
    (hkept : ∀ {a}, regular (fun type => type.rename normalizeTypeName = type) a → rename a = a)
    (hagain : ∀ {a}, regular DataType.IsShallow a → decode (encode a) = .ok (rename a))
    (hplain : ∀ a, (encode a).plain = encode a) :
    Rereads decode encode rename fun _ => True := by
  have hshallow {document : Document} {a : α} (h : decode document = .ok a) :
      regular DataType.IsShallow a :=
    hread hereditary_true DataType.decode_yields_isShallow _ trivial _ h
  refine ⟨fun h => hagain (hshallow h), fun h => ?_, fun hfree h => ?_⟩
  · rw [hplain, hagain (hshallow h), Checked.ok.injEq, and_true]
  · exact hkept (hread Document.hereditary_octetFree DataType.decode_yields_normal _ hfree _ h)

theorem Snapshot.rereads : Rereads Snapshot.decode Snapshot.encode
    (Snapshot.rename normalizeTypeName) fun snapshot =>
      ∀ oid ∈ snapshot.types.keys, IsShort oid := by
  have hshallow {document : Document} {snapshot : Snapshot} (h : decode document = .ok snapshot) :
      snapshot.Regular DataType.IsShallow :=
    decode_yields hereditary_true DataType.decode_yields_isShallow _ trivial _ h
  refine ⟨fun h => ?again, fun {_ snapshot _} h => ?plain, fun hfree h => ?kept⟩
  case again =>
    exact decode_fieldsWith DataType.decode_encode_of_isShallow (hshallow h) fun _ _ => rfl
  case plain =>
    have hplain (hshort : ∀ oid ∈ snapshot.types.keys, IsShort oid) :
        decode snapshot.encode.plain = .ok (snapshot.rename normalizeTypeName) := by
      rw [plain_encode]
      refine decode_fieldsWith DataType.decode_encode_of_isShallow (hshallow h) fun oid hoid => ?_
      rw [Decoder.int_integerText, if_pos (hshort oid hoid)]
    constructor
    · intro hread
      have hshort := isShort_of_decode_plain hread
      rw [hplain hshort] at hread
      exact ⟨Checked.ok.inj hread, hshort⟩
    · rintro ⟨rfl, hshort⟩
      exact hplain hshort
  case kept =>
    exact rename_eq_self (decode_yields Document.hereditary_octetFree
      DataType.decode_yields_normal _ hfree _ h)

/-! ## All kinds of records -/

/-- The kinds of records that are written as documents and read from them. -/
inductive RecordKind where
  /-- Types. -/
  | dataType
  /-- Columns of a table. -/
  | column
  /-- Tables. -/
  | table
  /-- Schemas. -/
  | schema
  /-- Overloads of a function. -/
  | signature
  /-- Snapshots of a database. -/
  | snapshot
  /-- Parameters of a query. -/
  | parameter
  /-- Result columns of a query. -/
  | outputColumn
  /-- Descriptions of a query. -/
  | description
  /-- Places in a source file. -/
  | range
  /-- Findings. -/
  | diagnostic

namespace RecordKind

/-- The records of a kind. -/
def Model : RecordKind → Type
  | dataType => DataType
  | column => Column
  | table => Table
  | schema => Schema
  | signature => Signature
  | snapshot => Snapshot
  | parameter => Parameter
  | outputColumn => OutputColumn
  | description => Description
  | range => SourceRange
  | diagnostic => Diagnostic

/-- Decode a record of a kind. -/
def decode : (kind : RecordKind) → Decoder kind.Model
  | dataType => DataType.decode
  | column => Column.decode
  | table => Table.decode
  | schema => Schema.decode
  | signature => Signature.decode
  | snapshot => Snapshot.decode
  | parameter => Parameter.decode
  | outputColumn => OutputColumn.decode
  | description => Description.decode
  | range => SourceRange.decode
  | diagnostic => Diagnostic.decode

/-- The record as a document. -/
def encode : (kind : RecordKind) → kind.Model → Document
  | dataType => DataType.encode
  | column => Column.encode
  | table => Table.encode
  | schema => Schema.encode
  | signature => Signature.encode
  | snapshot => Snapshot.encode
  | parameter => Parameter.encode
  | outputColumn => OutputColumn.encode
  | description => Description.encode
  | range => SourceRange.encode
  | diagnostic => Diagnostic.encode

/-- The record with the names of all its types normalised. -/
def normal : (kind : RecordKind) → kind.Model → kind.Model
  | dataType => DataType.rename normalizeTypeName
  | column => Column.rename normalizeTypeName
  | table => Table.rename normalizeTypeName
  | schema => Schema.rename normalizeTypeName
  | signature => Signature.rename normalizeTypeName
  | snapshot => Snapshot.rename normalizeTypeName
  | parameter => Parameter.rename normalizeTypeName
  | outputColumn => OutputColumn.rename normalizeTypeName
  | description => Description.rename normalizeTypeName
  | range => id
  | diagnostic => id

/-- Whether the plain form of the record can be read: only the catalog numbers of a snapshot turn
into numerals there. -/
def Plainable : (kind : RecordKind) → kind.Model → Prop
  | snapshot => fun record => ∀ oid ∈ Entries.keys record.types, IsShort oid
  | _ => fun _ => True

theorem rereads (kind : RecordKind) :
    Rereads kind.decode kind.encode kind.normal kind.Plainable := by
  have htype := DataType.decode_encode_of_isShallow
  cases kind with
  | dataType => exact .of_types (fun _ h => h) (fun h => h) (htype _) DataType.plain_encode
  | column =>
    exact .of_types Column.decode_yields Column.rename_eq_self (Column.decode_encode htype)
      Column.plain_encode
  | table =>
    exact .of_types Table.decode_yields Table.rename_eq_self (Table.decode_encode htype)
      Table.plain_encode
  | schema =>
    exact .of_types Schema.decode_yields Schema.rename_eq_self (Schema.decode_encode htype)
      Schema.plain_encode
  | signature =>
    exact .of_types Signature.decode_yields Signature.rename_eq_self
      (Signature.decode_encode htype) Signature.plain_encode
  | snapshot => exact Snapshot.rereads
  | parameter =>
    exact .of_types Parameter.decode_yields Parameter.rename_eq_self
      (Parameter.decode_encode htype) Parameter.plain_encode
  | outputColumn =>
    exact .of_types OutputColumn.decode_yields OutputColumn.rename_eq_self
      (OutputColumn.decode_encode htype) OutputColumn.plain_encode
  | description =>
    exact .of_types Description.decode_yields Description.rename_eq_self
      (Description.decode_encode htype) Description.plain_encode
  | range =>
    exact .of_types (fun _ _ => .trivial _) (fun _ => rfl) (fun _ => SourceRange.decode_encode _)
      SourceRange.plain_encode
  | diagnostic =>
    exact .of_types (fun _ _ => .trivial _) (fun _ => rfl) (fun _ => Diagnostic.decode_encode _)
      Diagnostic.plain_encode

end RecordKind

/-- **When a record is read again as itself.** Whatever was read is read again from what it is
written as. Type names are normalised at every depth, and nothing else changes, neither the order
of a dictionary nor an item of a list; so the record comes back as itself if and only if its type
names are normalised already, and they are unless one was given as octets. The plain form is read in
the same way; of its keys, only the catalog number of a type can be one that is not read. -/
theorem record_reread_iff (kind : RecordKind) {document : Document} {record : kind.Model}
    (h : kind.decode document = .ok record) :
    kind.decode (kind.encode record) = .ok (kind.normal record) ∧
      (kind.decode (kind.encode record) = .ok record ↔ kind.normal record = record) ∧
      (kind.decode (kind.encode record).plain = .ok record ↔
        kind.normal record = record ∧ kind.Plainable record) ∧
      (document.OctetFree → kind.normal record = record) := by
  have hagain := kind.rereads.again h
  refine ⟨hagain, ?_, kind.rereads.plain h, fun hfree => kind.rereads.kept hfree h⟩
  rw [hagain, Checked.ok.injEq]

theorem column_reread :
    ∃ column : Column,
      Column.decode (.object [(.text "name", .text "id"),
        (.text "data_type", .object [(.text "name", .text " BigInt ")]),
        (.text "ordinal_position", .int 1)]) = .ok column ∧
      column.dataType.name = "bigint" ∧
      Column.decode column.encode = .ok column ∧
      Column.decode column.encode.plain = .ok column := by
  have hread : Column.decode (.object [(.text "name", .text "id"),
      (.text "data_type", .object [(.text "name", .text " BigInt ")]),
      (.text "ordinal_position", .int 1)]) = .ok ⟨"id", ⟨"bigint", none, false, []⟩, true, 1⟩ := rfl
  have htext (s : String) : (Document.text s).OctetFree := .scalar (by simp)
  have hint (n : Int) : (Document.int n).OctetFree := .scalar (by simp)
  obtain ⟨-, hagain, hplain, hfree⟩ := record_reread_iff .column hread
  have hnormal := hfree (.object (by simp [htext, hint, Document.OctetFree.object]))
  exact ⟨_, hread, rfl, hagain.mpr hnormal, hplain.mpr ⟨hnormal, trivial⟩⟩

/-- A name that is given as octets is taken as it is, and normalised when the type is read again. -/
theorem octet_name_reread_otherwise :
    ∃ type : DataType,
      DataType.decode (.object [(.text "name",
        .scalar (.binary [0x20, 0x56, 0x61, 0x72, 0x43, 0x68, 0x61, 0x72, 0x20]))]) = .ok type ∧
      DataType.decode type.encode ≠ .ok type := by
  refine ⟨⟨" VarChar ", none, false, []⟩, rfl, fun hsame => ?_⟩
  have hagain := DataType.decode_encode_of_isShallow ⟨" VarChar ", none, false, []⟩ (.leaf trivial)
  have hname := congrArg DataType.name (Checked.ok.inj (hagain.symm.trans hsame))
  revert hname
  decide

end QueryAudit
