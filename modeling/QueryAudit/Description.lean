import QueryAudit.DataType

/-!
# Descriptions of queries

What the database reports about a query without running it: its parameters in the order of their
positions, and the columns of its result.
-/

namespace QueryAudit

/-- A parameter of a query. -/
structure Parameter where
  /-- The number of the placeholder. -/
  position : Int
  /-- The name of the placeholder, when the query names it. -/
  name : Option String
  /-- The type that the database infers. -/
  dataType : DataType
  deriving BEq

/-- A column of a result. -/
structure OutputColumn where
  /-- The name of the column. -/
  name : String
  /-- The type of its values. -/
  dataType : DataType
  /-- Whether values may be null, as far as is known. -/
  nullable : Bool
  /-- Whether the column is a column of a table. -/
  fromTable : Bool
  deriving BEq

/-- The parameters and the result columns of a query. -/
structure Description where
  /-- The parameters. -/
  parameters : List Parameter
  /-- The result columns. -/
  columns : List OutputColumn
  deriving BEq

namespace Parameter

/-- The name under which a parameter is supplied: its own, or its position behind a dollar sign. -/
def key (parameter : Parameter) : String :=
  match parameter.name with
  | some name => name
  | none => "$" ++ Text.integerText parameter.position

/-- The names of the fields of a written parameter. -/
def fieldNames : List String :=
  ["position", "name", "data_type"]

/-- Decode a parameter. -/
def decode : Decoder Parameter := Decoder.record fun fields =>
  (fun position name dataType (_ : Unit) => ⟨position, name, dataType⟩) <$>
    fields.required "position" Decoder.int <*>
    fields.optional "name" Decoder.text <*>
    fields.required "data_type" DataType.decode <*>
    fields.only fieldNames

/-- The parameter as a document. -/
def encode (parameter : Parameter) : Document :=
  Document.record
    [("position", some (.int parameter.position)),
      ("name", parameter.name.map Document.text),
      ("data_type", some parameter.dataType.encode)]

end Parameter

namespace OutputColumn

/-- The names of the fields of a written result column. -/
def fieldNames : List String :=
  ["name", "data_type", "nullable", "from_table"]

/-- Decode a result column. -/
def decode : Decoder OutputColumn := Decoder.record fun fields =>
  (fun name dataType nullable fromTable (_ : Unit) => ⟨name, dataType, nullable, fromTable⟩) <$>
    fields.required "name" Decoder.text <*>
    fields.required "data_type" DataType.decode <*>
    fields.withDefault "nullable" true Decoder.bool <*>
    fields.withDefault "from_table" false Decoder.bool <*>
    fields.only fieldNames

/-- The result column as a document. -/
def encode (column : OutputColumn) : Document :=
  Document.record
    [("name", some (.text column.name)),
      ("data_type", some column.dataType.encode),
      ("nullable", some (.bool column.nullable)),
      ("from_table", some (.bool column.fromTable))]

end OutputColumn

namespace Description

/-- The names of the fields of a written description. -/
def fieldNames : List String :=
  ["parameters", "columns"]

/-- Decode a description. -/
def decode : Decoder Description := Decoder.record fun fields =>
  (fun parameters columns (_ : Unit) => ⟨parameters, columns⟩) <$>
    fields.withDefault "parameters" [] (Decoder.list Parameter.decode) <*>
    fields.withDefault "columns" [] (Decoder.list OutputColumn.decode) <*>
    fields.only fieldNames

/-- The description as a document. -/
def encode (description : Description) : Document :=
  Document.record
    [("parameters", some (.list (description.parameters.map Parameter.encode))),
      ("columns", some (.list (description.columns.map OutputColumn.encode)))]

end Description

end QueryAudit
