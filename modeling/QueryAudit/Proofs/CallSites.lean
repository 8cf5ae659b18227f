import QueryAudit.Proofs.RoundTrip

/-!
# Call sites are read again

A call site that is written as a document is read again from it with everything that it has, apart
from the names of its parameters: reading takes the blanks off a name and then the markers, and what
is behind the markers is not looked at again. So the name of a parameter comes back as it is when it
is bare, and names that were read are bare unless a blank stood behind the markers.
-/

namespace QueryAudit

namespace ParameterUsage

/-! ## Bare names -/

/-- A name from which nothing is taken: no blank stands at an end of it, and no marker in front. -/
structure IsBare (name : String) : Prop where
  /-- No blank in front. -/
  front : name.toList.head?.any Text.isBlank = false
  /-- No marker in front. -/
  unmarked : name.toList.head? ≠ some '@'
  /-- No blank at the end. -/
  back : ∀ c ∈ name.toList.getLast?, Text.isBlank c = false

theorem toList_bareName (name : String) :
    (bareName name).toList = (Text.trim name.toList).dropWhile (· = '@') :=
  String.toList_ofList

/-- What is behind the markers has no marker in front, and no blank at its end. -/
theorem ends_bareName (name : String) :
    (bareName name).toList.head? ≠ some '@' ∧
      ∀ c ∈ (bareName name).toList.getLast?, Text.isBlank c = false := by
  rw [toList_bareName]
  constructor
  · intro hhead
    have hnot := List.head?_dropWhile_not (fun c => decide (c = '@')) (Text.trim name.toList)
    rw [hhead] at hnot
    exact absurd hnot (by decide)
  · intro c hc
    obtain ⟨markers, hmarkers⟩ := List.dropWhile_suffix (l := Text.trim name.toList) (· = '@')
    refine (Text.ends_trim name.toList).2 c ?_
    rw [← hmarkers, List.getLast?_append, Option.mem_def.mp hc]
    rfl

/-- Reading leaves exactly the bare names alone. -/
theorem bareName_eq_self_iff {name : String} : bareName name = name ↔ IsBare name := by
  constructor
  · intro h
    have hlist := toList_bareName name
    rw [h] at hlist
    -- Both steps take away only, so neither has taken anything.
    have hmarkers := List.dropWhile_sublist (l := Text.trim name.toList) (· = '@')
    rw [← hlist] at hmarkers
    have htrim := (Text.trim_sublist name.toList).antisymm hmarkers
    obtain ⟨hmarker, hback⟩ := ends_bareName name
    rw [h] at hmarker hback
    exact ⟨(Text.trim_eq_self_iff.mp htrim).1, hmarker, hback⟩
  · rintro ⟨hfront, hmarker, hback⟩
    have hdrop : name.toList.dropWhile (· = '@') = name.toList := by
      cases hname : name.toList with
      | nil => rfl
      | cons c rest =>
        rw [hname, List.head?_cons, ne_eq, Option.some.injEq] at hmarker
        exact List.dropWhile_cons_of_neg (by simpa using hmarker)
    rw [bareName, Text.trim_eq_self_iff.mpr ⟨hfront, hback⟩, hdrop, String.ofList_toList]

/-- What is left of a name is bare unless a blank stands behind the markers. -/
theorem isBare_bareName_iff {name : String} :
    IsBare (bareName name) ↔ (bareName name).toList.head?.any Text.isBlank = false :=
  ⟨IsBare.front, fun h => ⟨h, (ends_bareName name).1, (ends_bareName name).2⟩⟩

/-- The usage with its name made bare. -/
def bare (usage : ParameterUsage) : ParameterUsage :=
  { usage with name := bareName usage.name }

theorem bare_eq_self_iff {usage : ParameterUsage} : usage.bare = usage ↔ IsBare usage.name := by
  obtain ⟨name, function, range⟩ := usage
  rw [bare, ParameterUsage.mk.injEq, bareName_eq_self_iff]
  exact and_iff_left ⟨rfl, rfl⟩

end ParameterUsage

/-- The call site with the names of its parameters made bare. -/
def Operation.bare (operation : Operation) : Operation :=
  { operation with parameters := operation.parameters.map ParameterUsage.bare }

theorem Operation.bare_eq_self_iff {operation : Operation} :
    operation.bare = operation ↔
      ∀ usage ∈ operation.parameters, ParameterUsage.IsBare usage.name := by
  obtain ⟨query, range, parameters, reads, execution⟩ := operation
  have hmap : parameters.map ParameterUsage.bare = parameters.map id ↔
      ∀ usage ∈ parameters, usage.bare = usage := List.map_inj_left
  rw [List.map_id] at hmap
  simp only [bare, mk.injEq, true_and, and_true, hmap, ParameterUsage.bare_eq_self_iff]

/-! ## What is read -/

section Reading

variable {Q : Document → Prop} {N : String → Prop} (hQ : Hereditary Q)
  (hname : Decoder.Yields Q ParameterUsage.decodeName N)
include hQ hname

theorem ParameterUsage.decode_yields : Decoder.Yields Q decode fun usage => N usage.name := by
  refine .record hQ fun _ hfields => ?_
  have hnames := Fields.required_yields hfields "name" hname
  refine .seq (.seq (.seq (.map hnames ?_) (.trivial _)) (.trivial _)) (.trivial _)
  exact fun _ hname _ _ _ _ _ _ => hname

theorem Operation.decode_yields :
    Decoder.Yields Q decode fun operation => ∀ usage ∈ operation.parameters, N usage.name := by
  refine .record hQ fun _ hfields => ?_
  have hparameters := Fields.list_yields hfields "parameters" hQ
    (ParameterUsage.decode_yields hQ hname)
  refine .seq (.seq (.seq (.seq (.seq (.map (.trivial _) ?_) (.trivial _)) hparameters)
    (.trivial _)) (.trivial _)) (.trivial _)
  exact fun _ _ _ _ _ hparameters _ _ _ _ _ _ => hparameters

end Reading

/-- A name that is no octets is what was left of a text. -/
theorem ParameterUsage.decodeName_yields :
    Decoder.Yields Document.OctetFree decodeName fun name => ∃ s, bareName s = name := by
  intro document hdocument name hname
  cases hdocument with
  | @scalar value hvalue =>
    cases value with
    | text s => exact ⟨s, Checked.ok.inj hname⟩
    | binary octets => exact absurd rfl (hvalue octets)
    | _ => cases hname
  | _ => cases hname

/-! ## What is written -/

theorem ParameterUsage.decode_encode (usage : ParameterUsage) :
    decode usage.encode = .ok usage.bare := by
  refine Named.record_eq fieldNames ⟨rfl, by decide, by decide⟩ fun hn => ?_
  rw [hn.required_eq "name" decodeName (.text usage.name) (by simp) rfl,
    hn.required_eq "function" Decoder.text (.text usage.function) (by simp) rfl,
    hn.optional_eq "range" SourceRange.decode SourceRange.encode id usage.range (by simp)
      (fun range _ => range.decode_encode) (fun _ => rfl),
    hn.only_eq, Option.map_id]
  rfl

theorem ColumnRead.decode_encode (read : ColumnRead) : decode read.encode = .ok read := by
  refine Named.record_eq fieldNames ⟨rfl, by decide, by decide⟩ fun hn => ?_
  rw [hn.required_eq "column" Decoder.text (.text read.column) (by simp) rfl,
    hn.required_eq "function" Decoder.text (.text read.function) (by simp) rfl,
    hn.optional_eq "range" SourceRange.decode SourceRange.encode id read.range (by simp)
      (fun range _ => range.decode_encode) (fun _ => rfl),
    hn.only_eq, Option.map_id]
  rfl

/-- The text of a mode is none of the other names of execution functions. -/
theorem ExecutionMode.decode_text (mode : ExecutionMode) :
    decode (.text (Vocabulary.text mode)) = .ok mode := by
  rw [decode, parse_text]

theorem Operation.decode_encode (operation : Operation) :
    decode operation.encode = .ok operation.bare := by
  have hparameters := Decoder.list_map_eq fun usage (_ : usage ∈ operation.parameters) =>
    usage.decode_encode
  have hreads : Decoder.list ColumnRead.decode (.list (operation.reads.map ColumnRead.encode)) =
      .ok (operation.reads.map id) := Decoder.list_map_eq fun read _ => read.decode_encode
  refine Named.record_eq fieldNames ⟨rfl, by decide, by decide⟩ fun hn => ?_
  rw [hn.optional_eq "query" Decoder.text Document.text id operation.query (by simp)
      (fun _ _ => rfl) (fun _ => rfl),
    hn.withDefault_eq "range" SourceRange.decode operation.range.encode (by simp)
      operation.range.decode_encode,
    hn.withDefault_eq "parameters" (Decoder.list ParameterUsage.decode) _ (by simp) hparameters,
    hn.withDefault_eq "reads" (Decoder.list ColumnRead.decode) _ (by simp) hreads,
    hn.withDefault_eq "execution" ExecutionMode.decode _ (by simp)
      (ExecutionMode.decode_text operation.execution),
    hn.only_eq, Option.map_id, List.map_id]
  rfl

/-! ## All kinds of records of a call site -/

/-- The kinds of records that a call site is written as. -/
inductive CallSiteKind where
  /-- Call sites. -/
  | operation
  /-- Supplied parameters. -/
  | usage
  /-- Columns that are read. -/
  | read

namespace CallSiteKind

/-- The records of a kind. -/
def Model : CallSiteKind → Type
  | operation => Operation
  | usage => ParameterUsage
  | read => ColumnRead

/-- Decode a record of a kind. -/
def decode : (kind : CallSiteKind) → Decoder kind.Model
  | operation => Operation.decode
  | usage => ParameterUsage.decode
  | read => ColumnRead.decode

/-- The record as a document. -/
def encode : (kind : CallSiteKind) → kind.Model → Document
  | operation => Operation.encode
  | usage => ParameterUsage.encode
  | read => ColumnRead.encode

/-- The record with the names of all its parameters made bare. -/
def bare : (kind : CallSiteKind) → kind.Model → kind.Model
  | operation => Operation.bare
  | usage => ParameterUsage.bare
  | read => id

/-- The names of the parameters of a record. -/
def names : (kind : CallSiteKind) → kind.Model → List String
  | operation => fun record => (Operation.parameters record).map ParameterUsage.name
  | usage => fun record => [ParameterUsage.name record]
  | read => fun _ => []

theorem decode_encode (kind : CallSiteKind) (record : kind.Model) :
    kind.decode (kind.encode record) = .ok (kind.bare record) := by
  cases kind with
  | operation => exact Operation.decode_encode record
  | usage => exact ParameterUsage.decode_encode record
  | read => exact ColumnRead.decode_encode record

theorem bare_eq_self_iff (kind : CallSiteKind) (record : kind.Model) :
    kind.bare record = record ↔ ∀ name ∈ kind.names record, ParameterUsage.IsBare name := by
  cases kind with
  | operation => exact Operation.bare_eq_self_iff.trans List.forall_mem_map.symm
  | usage => exact ParameterUsage.bare_eq_self_iff.trans List.forall_mem_singleton.symm
  | read => exact iff_of_true rfl fun _ h => absurd h List.not_mem_nil

theorem decode_yields {Q : Document → Prop} {N : String → Prop} (hQ : Hereditary Q)
    (hname : Decoder.Yields Q ParameterUsage.decodeName N) (kind : CallSiteKind) :
    Decoder.Yields Q kind.decode fun record => ∀ name ∈ kind.names record, N name := by
  intro document hdocument record h
  cases kind with
  | operation =>
    exact List.forall_mem_map.mpr (Operation.decode_yields hQ hname document hdocument record h)
  | usage =>
    exact List.forall_mem_singleton.mpr
      (ParameterUsage.decode_yields hQ hname document hdocument record h)
  | read => exact fun _ h => absurd h List.not_mem_nil

end CallSiteKind

/-- **When a call site is read again as itself.** Every record of a call site is read again from
what it is written as, with the names of its parameters made bare and nothing else changed; so it
comes back as itself if and only if these names are bare already. In a record that was read from a
document without octets, only a name with a blank in front is not. -/
theorem call_site_reread_iff (kind : CallSiteKind) (record : kind.Model) :
    kind.decode (kind.encode record) = .ok (kind.bare record) ∧
      (kind.decode (kind.encode record) = .ok record ↔
        ∀ name ∈ kind.names record, ParameterUsage.IsBare name) ∧
      ∀ document : Document, document.OctetFree → kind.decode document = .ok record →
        (kind.decode (kind.encode record) = .ok record ↔
          ∀ name ∈ kind.names record, name.toList.head?.any Text.isBlank = false) := by
  have hiff : kind.decode (kind.encode record) = .ok record ↔
      ∀ name ∈ kind.names record, ParameterUsage.IsBare name := by
    rw [kind.decode_encode, Checked.ok.injEq, kind.bare_eq_self_iff]
  refine ⟨kind.decode_encode record, hiff, fun document hfree hread => hiff.trans ?_⟩
  refine forall₂_congr fun name hname => ?_
  obtain ⟨s, rfl⟩ := CallSiteKind.decode_yields Document.hereditary_octetFree
    ParameterUsage.decodeName_yields kind document hfree record hread name hname
  exact ParameterUsage.isBare_bareName_iff

theorem operation_reread :
    ∃ operation : Operation,
      Operation.decode (.object [(.text "query", .text "SELECT @user_id"),
        (.text "parameters", .list [.object [(.text "name", .text " @user_id "),
          (.text "function", .text "Sql.int64")]]),
        (.text "execution", .text "Sql.executeReaderAsync")]) = .ok operation ∧
      operation.parameters.map ParameterUsage.name = ["user_id"] ∧
      operation.execution = .rows ∧
      Operation.decode operation.encode = .ok operation := by
  have hread : Operation.decode (.object [(.text "query", .text "SELECT @user_id"),
      (.text "parameters", .list [.object [(.text "name", .text " @user_id "),
        (.text "function", .text "Sql.int64")]]),
      (.text "execution", .text "Sql.executeReaderAsync")]) =
        .ok ⟨some "SELECT @user_id", .start, [⟨"user_id", "Sql.int64", none⟩], [], .rows⟩ := rfl
  have htext (s : String) : (Document.text s).OctetFree := .scalar (by simp)
  have hfree : (Document.object [(.text "query", .text "SELECT @user_id"),
      (.text "parameters", .list [.object [(.text "name", .text " @user_id "),
        (.text "function", .text "Sql.int64")]]),
      (.text "execution", .text "Sql.executeReaderAsync")]).OctetFree :=
    .object (by simp [htext, Document.OctetFree.object, Document.OctetFree.list])
  refine ⟨_, hread, rfl, rfl, ?_⟩
  exact ((call_site_reread_iff .operation _).2.2 _ hfree hread).mpr (by decide)

/-- A blank behind the marker is kept, and taken off when the name is read again. -/
theorem name_behind_blank_reread_otherwise :
    ∃ usage : ParameterUsage,
      ParameterUsage.decode (.object [(.text "name", .text "@ a"),
        (.text "function", .text "Sql.int")]) = .ok usage ∧
      ParameterUsage.decode usage.encode ≠ .ok usage := by
  refine ⟨⟨" a", "Sql.int", none⟩, rfl, fun hsame => ?_⟩
  have hagain := ParameterUsage.decode_encode ⟨" a", "Sql.int", none⟩
  have hname := congrArg ParameterUsage.name (Checked.ok.inj (hagain.symm.trans hsame))
  revert hname
  decide

end QueryAudit
