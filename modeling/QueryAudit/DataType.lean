import QueryAudit.Document.Decoder
import QueryAudit.Text.LetterCase

/-!
# Data types

A data type has a normalised name: no blanks at the ends, single spaces inside, lower case. An array
carries its element type, and whether a type is an array is told by the element alone, never by the
name. Two types are the same when they agree in the name and in being an array.
-/

namespace QueryAudit

/-- The normalised form of a type name. -/
def normalizeTypeName (name : String) : String :=
  String.ofList (Text.lower (Text.collapseBlanks (Text.trim name.toList)))

/-- A data type of the database. -/
structure DataType where
  /-- The normalised name; for an array, that of its element. -/
  name : String
  /-- The element type of an array. -/
  element : Option DataType
  /-- Whether the type is an enumeration that a user defined. -/
  isEnum : Bool
  /-- The labels of an enumeration, in the order of declaration. -/
  enumValues : List String

namespace DataType

/-- Arrays are the types that have an element. -/
def isArray (type : DataType) : Bool :=
  type.element.isSome

/-- A type that is neither an array nor an enumeration. -/
def scalar (name : String) : DataType :=
  ⟨normalizeTypeName name, none, false, []⟩

/-- The type of a value about which nothing is known. -/
def unknown : DataType :=
  scalar "unknown"

/-- The array with the given element type. -/
def arrayOf (element : DataType) : DataType :=
  ⟨normalizeTypeName element.name, some element, false, []⟩

/-- The enumeration with the given name and labels. -/
def enumeration (name : String) (labels : List String) : DataType :=
  ⟨normalizeTypeName name, none, true, labels⟩

/-- Whether two types agree in the name and in being an array. -/
def same (left right : DataType) : Bool :=
  left.name == right.name && left.isArray == right.isArray

instance : BEq DataType where
  beq := same

/-- The type as messages show it. -/
def display (type : DataType) : String :=
  if type.isArray then type.name ++ "[]" else type.name

/-- The names of the fields of a written type. -/
def fieldNames : List String :=
  ["name", "is_array", "element", "is_enum", "enum_values"]

/-- The reason why a type is refused whose array flag and element contradict each other. -/
def elementReason (name : String) : String :=
  "Array type '" ++ name ++ "' requires an element type and only arrays may have one"

/-- Decode a type name. Texts are normalised, octets are taken as they are. -/
def decodeName : Decoder String
  | .scalar (.text s) => .ok (normalizeTypeName s)
  | document => Decoder.text document

/-- Put a type together when the array flag agrees with the element. -/
def assemble (name : String) (flag : Bool) (element : Option DataType) (isEnum : Bool)
    (enumValues : List String) : Checked DataType :=
  if flag = element.isSome then .ok ⟨name, element, isEnum, enumValues⟩
  else .fail (.inconsistent (elementReason name))

/-- Decode the fields of a type, the element apart. -/
def decodeWith (element : Checked (Option DataType)) (fields : Fields) : Checked DataType :=
  ((fun name flag element isEnum labels (_ : Unit) => assemble name flag element isEnum labels) <$>
    fields.required "name" decodeName <*>
    fields.withDefault "is_array" false Decoder.bool <*>
    element <*>
    fields.withDefault "is_enum" false Decoder.bool <*>
    fields.withDefault "enum_values" [] (Decoder.list Decoder.text) <*>
    fields.only fieldNames).andThen id

/-- The greatest number of types inside one another, the outermost one included. -/
def nestingLimit : Nat := 255

mutual

/-- Decode a type in which at most so many types are inside one another. A type that holds itself
has no end. -/
def decodeWithin (levels : Nat) : Document → Checked DataType
  | .object fields =>
    if levels = 0 then .fail .endless
    else Fields.read fields (decodeWith (decodeElement (levels - 1) fields))
  | .cyclic _ body => decodeWithin levels body
  | .again _ => .fail .endless
  | _ => if levels = 0 then .fail .endless else .fail .notRecord

/-- Decode the element among the fields of a type. -/
def decodeElement (levels : Nat) : List (Scalar × Document) → Checked (Option DataType)
  | [] => .ok none
  | (key, value) :: rest =>
    if key = .text "element" then
      (if value.isNull then .ok none else some <$> decodeWithin levels value).below (.key "element")
    else decodeElement levels rest

end

/-- Decode a type. -/
def decode : Decoder DataType :=
  decodeWithin nestingLimit

/-- The type as a document. -/
def encode : DataType → Document
  | ⟨name, element, isEnum, enumValues⟩ =>
    Document.record
      [("name", some (.text name)),
        ("is_array", some (.bool element.isSome)),
        ("element", match element with
          | some type => some type.encode
          | none => none),
        ("is_enum", some (.bool isEnum)),
        ("enum_values", some (.texts enumValues))]

/-- An enumeration from raw catalog data: the name and the labels have to be texts. -/
def decodeEnumeration (name : Document) (labels : List Document) : Checked DataType :=
  enumeration <$> (Decoder.text name).below (.key "name") <*>
    (Decoder.list Decoder.text (.list labels)).below (.key "enum_values")

end DataType

end QueryAudit
