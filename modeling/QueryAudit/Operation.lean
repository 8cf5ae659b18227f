import QueryAudit.Vocabulary

/-!
# Call sites

A call site as the scanner of the source code hands it over: the query text if it is a literal, the
parameters that are supplied, the columns that are read, and the function that runs the query.
-/

namespace QueryAudit

/-- A place in the source code. -/
structure SourceRange where
  /-- The file, when it is known. -/
  file : Option String
  /-- The first line, counted from one. -/
  startLine : Int
  /-- The first column. -/
  startColumn : Int
  /-- The last line. -/
  endLine : Option Int
  /-- The last column. -/
  endColumn : Option Int
  deriving DecidableEq

/-- A supplied parameter. -/
structure ParameterUsage where
  /-- The name, without the marker of placeholders. -/
  name : String
  /-- The writer, as the call site spells it. -/
  function : String
  /-- The place of the usage. -/
  range : Option SourceRange
  deriving DecidableEq

/-- A column that is read from the result. -/
structure ColumnRead where
  /-- The name of the column. -/
  column : String
  /-- The reader, as the call site spells it. -/
  function : String
  /-- The place of the read. -/
  range : Option SourceRange
  deriving DecidableEq

/-- A call site. -/
structure Operation where
  /-- The query text; none when it is put together at run time. -/
  query : Option String
  /-- The place of the call site. -/
  range : SourceRange
  /-- The supplied parameters, in source order. -/
  parameters : List ParameterUsage
  /-- The columns read, in source order. -/
  reads : List ColumnRead
  /-- The function that runs the query. -/
  execution : ExecutionMode
  deriving DecidableEq

namespace SourceRange

/-- The place that stands for an unknown one. -/
def start : SourceRange :=
  ⟨none, 1, 0, none, none⟩

/-- The place as messages show it. -/
def display (range : SourceRange) : String :=
  let location := Text.integerText range.startLine ++ ":" ++ Text.integerText range.startColumn
  match range.file with
  | none => location
  | some file => if file = "" then location else file ++ ":" ++ location

/-- The names of the fields of a written place. -/
def fieldNames : List String :=
  ["file", "start_line", "start_column", "end_line", "end_column"]

/-- Decode a place. -/
def decode : Decoder SourceRange := Decoder.record fun fields =>
  (fun file startLine startColumn endLine endColumn (_ : Unit) =>
      ⟨file, startLine, startColumn, endLine, endColumn⟩) <$>
    fields.optional "file" Decoder.text <*>
    fields.withDefault "start_line" 1 Decoder.int <*>
    fields.withDefault "start_column" 0 Decoder.int <*>
    fields.optional "end_line" Decoder.int <*>
    fields.optional "end_column" Decoder.int <*>
    fields.only fieldNames

/-- The place as a document. -/
def encode (range : SourceRange) : Document :=
  Document.record
    [("file", range.file.map Document.text),
      ("start_line", some (.int range.startLine)),
      ("start_column", some (.int range.startColumn)),
      ("end_line", range.endLine.map Document.int),
      ("end_column", range.endColumn.map Document.int)]

end SourceRange

namespace ParameterUsage

/-- The writer, when it is known. -/
def kind (usage : ParameterUsage) : WriterKind :=
  (WriterKind.parse usage.function).1

/-- Whether the writer accepts null. -/
def isOptional (usage : ParameterUsage) : Bool :=
  (WriterKind.parse usage.function).2

/-- A parameter name without the blanks around it and the markers in front. -/
def bareName (name : String) : String :=
  String.ofList ((Text.trim name.toList).dropWhile (· = '@'))

/-- Decode a parameter name. Of texts the bare name is taken, octets are taken as they are. -/
def decodeName : Decoder String
  | .scalar (.text s) => .ok (bareName s)
  | document => Decoder.text document

/-- The names of the fields of a written usage. -/
def fieldNames : List String :=
  ["name", "function", "range"]

/-- Decode a usage. -/
def decode : Decoder ParameterUsage := Decoder.record fun fields =>
  (fun name function range (_ : Unit) => ⟨name, function, range⟩) <$>
    fields.required "name" decodeName <*>
    fields.required "function" Decoder.text <*>
    fields.optional "range" SourceRange.decode <*>
    fields.only fieldNames

/-- The usage as a document. -/
def encode (usage : ParameterUsage) : Document :=
  Document.record
    [("name", some (.text usage.name)),
      ("function", some (.text usage.function)),
      ("range", usage.range.map SourceRange.encode)]

end ParameterUsage

namespace ColumnRead

/-- The reader, when it is known. -/
def kind (read : ColumnRead) : ReaderKind :=
  (ReaderKind.parse read.function).1

/-- Whether the reader accepts null. -/
def isOptional (read : ColumnRead) : Bool :=
  (ReaderKind.parse read.function).2

/-- The names of the fields of a written read. -/
def fieldNames : List String :=
  ["column", "function", "range"]

/-- Decode a read. -/
def decode : Decoder ColumnRead := Decoder.record fun fields =>
  (fun column function range (_ : Unit) => ⟨column, function, range⟩) <$>
    fields.required "column" Decoder.text <*>
    fields.required "function" Decoder.text <*>
    fields.optional "range" SourceRange.decode <*>
    fields.only fieldNames

/-- The read as a document. -/
def encode (read : ColumnRead) : Document :=
  Document.record
    [("column", some (.text read.column)),
      ("function", some (.text read.function)),
      ("range", read.range.map SourceRange.encode)]

end ColumnRead

namespace Operation

/-- The names of the fields of a written call site. -/
def fieldNames : List String :=
  ["query", "range", "parameters", "reads", "execution"]

/-- Decode a call site. -/
def decode : Decoder Operation := Decoder.record fun fields =>
  (fun query range parameters reads execution (_ : Unit) =>
      ⟨query, range, parameters, reads, execution⟩) <$>
    fields.optional "query" Decoder.text <*>
    fields.withDefault "range" SourceRange.start SourceRange.decode <*>
    fields.withDefault "parameters" [] (Decoder.list ParameterUsage.decode) <*>
    fields.withDefault "reads" [] (Decoder.list ColumnRead.decode) <*>
    fields.withDefault "execution" .rows ExecutionMode.decode <*>
    fields.only fieldNames

/-- The call site as a document. -/
def encode (operation : Operation) : Document :=
  Document.record
    [("query", operation.query.map Document.text),
      ("range", some operation.range.encode),
      ("parameters", some (.list (operation.parameters.map ParameterUsage.encode))),
      ("reads", some (.list (operation.reads.map ColumnRead.encode))),
      ("execution", some (.text (Vocabulary.text operation.execution)))]

end Operation

end QueryAudit
