import QueryAudit.Document.Numeral
import QueryAudit.Entries
import QueryAudit.Floating.Shortest

/-!
# Decoding documents

Decoders of the values that records are made of, and for their fields. Decoders are lenient where a
value can be meant in one way only: a numeral in a text is an integer, and so is a number without a
fraction. Octets are taken for the text that they write in UTF-8, and no other value ever is. A text
with surrogates is a text and stands for nothing else.
-/

namespace QueryAudit

/-- A decoder of one kind of value. -/
abbrev Decoder (α : Type) := Document → Checked α

namespace Decoder

variable {α β : Type}

/-- The text that octets write in UTF-8. -/
def octetsText? (octets : Text.Octets) : Option String :=
  match Text.utf8Strict octets with
  | .ok s => some (String.ofList s)
  | .error _ => none

/-- Read a text. -/
def text : Decoder String
  | .scalar (.text s) => .ok s
  | .scalar (.binary octets) =>
    match octetsText? octets with
    | some s => .ok s
    | none => .fail .notUnicode
  | _ => .fail .notText

/-- The least number that is too large for 64 bits with a sign. -/
def wordBound : Int := 0x8000000000000000

/-- The integer that a floating-point number is, when it lies strictly between the bounds of 64
bits. -/
def ofReal (x : Floating) : Checked Int :=
  match x, x.whole? with
  | .finite _ _ _, some n => if -wordBound < n ∧ n < wordBound then .ok n else .fail .outOfRange
  | .finite _ _ _, none => .fail .fraction
  | _, _ => .fail .notFinite

/-- Read an integer: integers, truth values as 0 and 1, numbers without a fraction that fit into 64
bits, and numerals. -/
def int : Decoder Int
  | .scalar (.int n) => .ok n
  | .scalar (.bool b) => .ok (if b then 1 else 0)
  | .scalar (.real x) => ofReal x
  | .scalar (.text s) =>
    if Text.hasSurrogate s then .fail .notUnicode else Numeral.lenient s.toList
  | .scalar (.binary octets) =>
    match octetsText? octets with
    | some s => Numeral.lenient s.toList
    | none => .fail .notNumeral
  | _ => .fail .notInteger

/-- The words that stand for truth values, in any letter case. -/
def truthWords : List (String × Bool) :=
  [("0", false), ("off", false), ("f", false), ("false", false), ("n", false), ("no", false),
    ("1", true), ("on", true), ("t", true), ("true", true), ("y", true), ("yes", true)]

/-- Read a truth value: truth values, the numbers 0 and 1, and the words for them. Other integers
are no truth values, and what is not an integer of 64 bits could not be one. -/
def bool : Decoder Bool
  | .scalar (.bool b) => .ok b
  | .scalar (.int n) => if -wordBound ≤ n ∧ n < wordBound then ofNumber n else .fail .notBoolean
  | .scalar (.real x) =>
    match ofReal x with
    | .ok n => ofNumber n
    | .bad _ => .fail .notBoolean
  | .scalar (.text s) => if Text.hasSurrogate s then .fail .notUnicode else ofWord s
  | .scalar (.binary octets) =>
    match octetsText? octets with
    | some s => ofWord s
    | none => .fail .notTruthValue
  | _ => .fail .notBoolean
where
  /-- Only 0 and 1 stand for truth values. -/
  ofNumber (n : Int) : Checked Bool :=
    if n = 0 then .ok false else if n = 1 then .ok true else .fail .notTruthValue
  /-- Only the words for them stand for truth values. -/
  ofWord (s : String) : Checked Bool :=
    match truthWords.lookup (s.map Char.toLower) with
    | some b => .ok b
    | none => .fail .notTruthValue

/-- Read a value that may be absent. -/
def optional (decode : Decoder α) : Decoder (Option α) := fun document =>
  if document.isNull then .ok none else some <$> decode document

/-- Read a list; a set will do. -/
def list (decode : Decoder α) : Decoder (List α) := fun document =>
  match document.unrolled with
  | .list items => Checked.itemsFrom decode 0 items
  | .set items => Checked.itemsFrom (fun item => decode (.scalar item)) 0 items
  | _ => .fail .notList

/-- An integer as a step. One that does not fit into 64 bits is named by its digits, if it can be
written. -/
def intStep (n : Int) : Step :=
  if -wordBound ≤ n ∧ n < wordBound then .index n
  else if n.natAbs < Text.numeralBound then .key (Text.integerText n)
  else .key "<unprintable int object>"

/-- The step to the value of a key. Truth values count as 0 and 1; keys that are neither texts nor
integers are shown. -/
def keyStep : Scalar → Step
  | .text s => .key (Text.replaceSurrogates s)
  | .int n => intStep n
  | .bool b => .index (if b then 1 else 0)
  | .null => .key "None"
  | .real x => .key x.display
  | .date day => .key day.display
  | .dateTime time => .key time.display
  | .binary octets => .key (Text.displayOctets octets)

/-- Check a key of an object. -/
def key (decodeKey : Scalar → Checked β) (key : Scalar) : Checked β :=
  ((decodeKey key).below (.key "[key]")).below (keyStep key)

/-- Check the entries of an object one by one. -/
def entries (decodeKey : Scalar → Checked β) (decode : Decoder α) :
    List (Scalar × Document) → Checked (List (β × α))
  | [] => .ok []
  | (k, value) :: rest =>
    (fun k value rest => (k, value) :: rest) <$> key decodeKey k <*>
      (decode value).below (keyStep k) <*> entries decodeKey decode rest

/-- Check the keys of a dictionary whose values are known; keys that are read alike are one key. -/
def keys [BEq β] (decodeKey : Scalar → Checked β) (pairs : List (Scalar × α)) :
    Checked (Entries β α) :=
  let checkedPairs := pairs.foldr (fun (k, value) rest =>
    (fun k rest => (k, value) :: rest) <$> key decodeKey k <*> rest) (Checked.ok [])
  Entries.ofList <$> checkedPairs

/-- Read an object that maps keys to values; keys that are read alike are one key. -/
def mapping [BEq β] (decodeKey : Scalar → Checked β) (decode : Decoder α) :
    Decoder (Entries β α) := fun document =>
  match document.unrolled with
  | .object pairs => Entries.ofList <$> entries decodeKey decode pairs
  | _ => .fail .notMapping

/-- Read an object whose keys are texts. -/
def texts (decode : Decoder α) : Decoder (Entries String α) :=
  mapping (fun key => text (.scalar key)) decode

/-- Read an object whose keys are integers. -/
def ints (decode : Decoder α) : Decoder (Entries Int α) :=
  mapping (fun key => int (.scalar key)) decode

end Decoder

/-- The entries of an object that is read as a record. -/
abbrev Fields := List (Scalar × Document)

namespace Fields

variable {α : Type}

/-- The value of a field. -/
def get? (fields : Fields) (name : String) : Option Document :=
  fields.lookup (.text name)

/-- Read a field that must have a value. -/
def required (fields : Fields) (name : String) (decode : Decoder α) : Checked α :=
  match fields.get? name with
  | some value => (decode value).below (.key name)
  | none => .bad [⟨[.key name], .missing⟩]

/-- Read a field that has a default. -/
def withDefault (fields : Fields) (name : String) (default : α) (decode : Decoder α) : Checked α :=
  match fields.get? name with
  | some value => (decode value).below (.key name)
  | none => .ok default

/-- Read a field that may be absent. -/
def optional (fields : Fields) (name : String) (decode : Decoder α) : Checked (Option α) :=
  fields.withDefault name none (Decoder.optional decode)

/-- Why a key that is no field is refused. -/
def foreignCause? (names : List String) : Scalar → Option Cause
  | .text name => if names.contains name then none else some .unknownField
  | _ => some .keyNotText

/-- Refuse every key that names no field, in the order of the keys. -/
def only (fields : Fields) (names : List String) : Checked Unit :=
  let issues := fields.filterMap fun (key, _) =>
    (foreignCause? names key).map fun cause => (⟨[Decoder.keyStep key], cause⟩ : Issue)
  if issues.isEmpty then .ok () else .bad issues

/-- Whether the name of a field has surrogates. -/
def hasSurrogateName (fields : Fields) : Bool :=
  fields.any fun
    | (.text name, _) => Text.hasSurrogate name
    | _ => false

/-- Read the fields of a record. When the name of a field has surrogates, nothing else counts. -/
def read (fields : Fields) (decode : Fields → Checked α) : Checked α :=
  if fields.hasSurrogateName then .fail .notUnicode else decode fields

end Fields

/-- Read a record from the fields of an object. -/
def Decoder.record {α : Type} (decode : Fields → Checked α) : Decoder α := fun document =>
  match document.unrolled with
  | .object fields => Fields.read fields decode
  | _ => .fail .notRecord

end QueryAudit
