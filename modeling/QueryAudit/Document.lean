import QueryAudit.Calendar
import QueryAudit.Floating
import QueryAudit.Text.Utf8

/-!
# Documents

The raw data from which records are read and to which they are written: scalars, lists and objects.
An object keeps the order of its entries, and its keys are scalars, since a document in YAML may
have keys that are not texts. A document may also hold itself, without an end.
-/

namespace QueryAudit

/-- A value without parts. -/
inductive Scalar where
  /-- No value. -/
  | null
  /-- A truth value. -/
  | bool (b : Bool)
  /-- An integer. -/
  | int (n : Int)
  /-- A floating-point number. -/
  | real (x : Floating)
  /-- A text. -/
  | text (s : String)
  /-- A day. -/
  | date (day : Date)
  /-- A day with a time of day. -/
  | dateTime (time : DateTime)
  /-- Octets. -/
  | binary (octets : Text.Octets)
  deriving DecidableEq

namespace Scalar

/-- Whether a value stands for something: no value, false, zero and what is empty do not. -/
def isPresent : Scalar → Bool
  | .null => false
  | .bool b => b
  | .int n => n != 0
  | .real x => !x.isZero
  | .text s => s != ""
  | .binary octets => !octets.isEmpty
  | .date _ => true
  | .dateTime _ => true

/-- The class of a value, in the words of the reader of YAML files. -/
def className : Scalar → String
  | .null => "NoneType"
  | .bool _ => "bool"
  | .int _ => "int"
  | .real _ => "float"
  | .text _ => "str"
  | .date _ => "datetime.date"
  | .dateTime _ => "datetime.datetime"
  | .binary _ => "bytes"

/-- What makes two values the same key. -/
inductive Identity where
  /-- Numbers of all classes, and truth values as 0 and 1, by the integer that they are. -/
  | number (n : Int)
  /-- Times whose zone is known, by the point on the time line. -/
  | instant (micros : Int)
  /-- All other values by themselves. -/
  | value (value : Scalar)
  deriving DecidableEq

/-- The identity of a value as a key. -/
def identity : Scalar → Identity
  | .bool b => .number (if b then 1 else 0)
  | .int n => .number n
  | .real x =>
    match x.whole? with
    | some n => .number n
    | none => .value (.real x)
  | .dateTime time =>
    match time.instant? with
    | some micros => .instant micros
    | none => .value (.dateTime time)
  | value => .value value

/-- Values are the same key when they have the same identity. -/
instance : BEq Scalar where
  beq left right := decide (left.identity = right.identity)

/-- Being the same key is to have the same identity. -/
theorem beq_iff {left right : Scalar} : left == right ↔ left.identity = right.identity :=
  decide_eq_true_iff

instance : EquivBEq Scalar where
  rfl := beq_iff.mpr rfl
  symm h := beq_iff.mpr (beq_iff.mp h).symm
  trans h h' := beq_iff.mpr ((beq_iff.mp h).trans (beq_iff.mp h'))

/-- A text is the same key as itself only. -/
@[simp] theorem beq_text {value : Scalar} {s : String} : value == .text s ↔ value = .text s := by
  rw [beq_iff]
  cases value <;> simp [identity] <;> split <;> simp

end Scalar

/-- Raw data. -/
inductive Document where
  /-- A value without parts. -/
  | scalar (value : Scalar)
  /-- A list. -/
  | list (items : List Document)
  /-- A set. -/
  | set (items : List Scalar)
  /-- An object. -/
  | object (entries : List (Scalar × Document))
  /-- A list or object that holds itself, at every place inside `body` that names it. -/
  | cyclic (name : Nat) (body : Document)
  /-- The list or object with the name, around this place. -/
  | again (name : Nat)

namespace Document

/-- No value. -/
abbrev null : Document := .scalar .null

/-- A truth value. -/
abbrev bool (b : Bool) : Document := .scalar (.bool b)

/-- An integer. -/
abbrev int (n : Int) : Document := .scalar (.int n)

/-- A text. -/
abbrev text (s : String) : Document := .scalar (.text s)

/-- A list of texts. -/
def texts (ss : List String) : Document := .list (ss.map text)

/-- Whether the document is the absent value. -/
def isNull : Document → Bool
  | .scalar .null => true
  | _ => false

/-- An object with the given fields. A field without a value is left out. -/
def record (fields : List (String × Option Document)) : Document :=
  .object (fields.filterMap fun field => field.2.map fun value => (.text field.1, value))

/-- The class of a document, in the words of the reader of YAML files. -/
def className : Document → String
  | .scalar value => value.className
  | .list _ => "list"
  | .set _ => "set"
  | .object _ => "dict"
  | .cyclic _ body => body.className
  | .again _ => "dict"

/-- Whether a document stands for something: what is empty does not. -/
def isPresent : Document → Bool
  | .scalar value => value.isPresent
  | .list items => !items.isEmpty
  | .set items => !items.isEmpty
  | .object entries => !entries.isEmpty
  | .cyclic _ _ => true
  | .again _ => true

end Document

mutual

/-- The document with another one in all places that name it. -/
def Document.fill (name : Nat) (filling : Document) : Document → Document
  | .scalar value => .scalar value
  | .list items => .list (fillItems name filling items)
  | .set items => .set items
  | .object entries => .object (fillEntries name filling entries)
  | .cyclic inner body => .cyclic inner (Document.fill name filling body)
  | .again inner => if inner = name then filling else .again inner

/-- The items of a list with a document in all places that name it. -/
def fillItems (name : Nat) (filling : Document) : List Document → List Document
  | [] => []
  | item :: rest => Document.fill name filling item :: fillItems name filling rest

/-- The entries of an object with a document in all places that name it. -/
def fillEntries (name : Nat) (filling : Document) :
    List (Scalar × Document) → List (Scalar × Document)
  | [] => []
  | (key, value) :: rest => (key, Document.fill name filling value) :: fillEntries name filling rest

end

/-- The document with its outermost list or object in sight: one that holds itself is unrolled
once. -/
def Document.unrolled : Document → Document
  | .cyclic name body => Document.fill name (.cyclic name body) body
  | document => document

/-- A key as a text: numbers as decimal numerals, the rest of the keys that records have are texts
already. -/
def Scalar.asKey : Scalar → Scalar
  | .int n => .text (Text.integerText n)
  | key => key

mutual

/-- The document in plain form, in which the keys of all objects are texts. -/
def Document.plain : Document → Document
  | .scalar value => .scalar value
  | .list items => .list (plainItems items)
  | .set items => .set items
  | .object entries => .object (plainEntries entries)
  | .cyclic name body => .cyclic name body.plain
  | .again name => .again name

/-- The plain forms of the items of a list. -/
def plainItems : List Document → List Document
  | [] => []
  | item :: rest => item.plain :: plainItems rest

/-- The plain forms of the entries of an object. -/
def plainEntries : List (Scalar × Document) → List (Scalar × Document)
  | [] => []
  | (key, value) :: rest => (key.asKey, value.plain) :: plainEntries rest

end

end QueryAudit
