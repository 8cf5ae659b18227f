import QueryAudit.Text.Cut
import QueryAudit.Yaml.Timestamp

/-!
# Plain scalars

What a scalar without quotes and without a tag stands for is told by its form; a line end after it
does not count. Of the numbers, those with colons are written in base sixty; underscores may stand
between digits.
-/

namespace QueryAudit.Yaml

/-- The tag of a core type. -/
def coreTag (name : String) : String :=
  "tag:yaml.org,2002:" ++ name

/-- The tag of texts. -/
def textTag : String := coreTag "str"

/-- The tag of lists. -/
def sequenceTag : String := coreTag "seq"

/-- The tag of mappings. -/
def mappingTag : String := coreTag "map"

/-- The tag of the absent value. -/
def nullTag : String := coreTag "null"

/-- The tag of truth values. -/
def boolTag : String := coreTag "bool"

/-- The tag of integers. -/
def intTag : String := coreTag "int"

/-- The tag of floating-point numbers. -/
def floatTag : String := coreTag "float"

/-- The tag of timestamps. -/
def timestampTag : String := coreTag "timestamp"

/-- The tag of the key that merges another mapping. -/
def mergeTag : String := coreTag "merge"

/-- The tag of the key for the value of a mapping that stands for a scalar. -/
def valueTag : String := coreTag "value"

/-- The tag of the marks of YAML itself. -/
def markTag : String := coreTag "yaml"

/-- The words for the absent value. -/
def nullWords : List String :=
  ["", "~", "null", "Null", "NULL"]

/-- The words for truth values. -/
def boolWords : List String :=
  ["yes", "Yes", "YES", "no", "No", "NO", "true", "True", "TRUE", "false", "False", "FALSE", "on",
    "On", "ON", "off", "Off", "OFF"]

/-- A digit or an underscore. -/
def isDigitOrUnderscore (c : Char) : Bool :=
  Text.isDigit c || c == '_'

/-- A text without the sign in front. -/
def dropSign : List Char → List Char
  | c :: rest => if c == '-' || c == '+' then rest else c :: rest
  | [] => []

/-- Whether a text is a digit of base sixty. -/
def isSixtieth : List Char → Bool
  | [d] => Text.isDigit d
  | [t, d] => decide ('0' ≤ t ∧ t ≤ '5') && Text.isDigit d
  | _ => false

/-- Whether a text starts with a digit and has only digits and underscores. -/
def isDigits : List Char → Bool
  | d :: rest => Text.isDigit d && rest.all isDigitOrUnderscore
  | [] => false

/-- Whether pieces of a text between colons are a number of base sixty. -/
def isSexagesimal : List (List Char) → Bool
  | first :: second :: rest => isDigits first && (second :: rest).all isSixtieth
  | _ => false

/-- Whether a text without its sign is an integer. -/
def isUnsignedInt : List Char → Bool
  | '0' :: 'b' :: digits =>
    !digits.isEmpty && digits.all fun c => c == '0' || c == '1' || c == '_'
  | '0' :: 'x' :: digits =>
    !digits.isEmpty && digits.all fun c =>
      isDigitOrUnderscore c || decide ('a' ≤ c ∧ c ≤ 'f') || decide ('A' ≤ c ∧ c ≤ 'F')
  | '0' :: digits => digits.all fun c => decide ('0' ≤ c ∧ c ≤ '7') || c == '_'
  | s => isDigits s || isSexagesimal (Text.cutAll ':' s)

/-- Whether a text is an exponent, or nothing. -/
def isExponent : List Char → Bool
  | [] => true
  | e :: sign :: digits =>
    (e == 'e' || e == 'E') && (sign == '-' || sign == '+') && !digits.isEmpty &&
      digits.all Text.isDigit
  | _ => false

/-- Whether a text has the places of a number after its point, and an exponent or none. -/
def isPlaces (s : List Char) : Bool :=
  isExponent (s.dropWhile isDigitOrUnderscore)

/-- Whether a text without its sign is a floating-point number. -/
def isUnsignedFloat (s : List Char) : Bool :=
  match Text.cutFirst '.' s with
  | (whole, some places) =>
    (isDigits whole && isPlaces places) ||
      (isSexagesimal (Text.cutAll ':' whole) && places.all isDigitOrUnderscore) ||
      (whole.isEmpty && ["inf", "Inf", "INF"].contains (String.ofList places))
  | (_, none) => false

/-- Whether a text is a floating-point number. Only numbers with digits before the point and
infinities have a sign. -/
def isFloat (s : List Char) : Bool :=
  isUnsignedFloat (dropSign s) ||
    match s with
    | '.' :: places =>
      (places.head?.any Text.isDigit && isPlaces places) ||
        ["nan", "NaN", "NAN"].contains (String.ofList places)
    | _ => false

/-- The tag of a text that does not end in a line end, by its form. -/
def formTag (text : List Char) : String :=
  let s := String.ofList text
  if boolWords.contains s then boolTag
  else if isFloat text then floatTag
  else if isUnsignedInt (dropSign text) then intTag
  else if s == "<<" then mergeTag
  else if nullWords.contains s then nullTag
  else if (Timestamp.ofText? text).any Timestamp.isPlain then timestampTag
  else if s == "=" then valueTag
  else if ["!", "&", "*"].contains s then markTag
  else textTag

/-- The tag of a plain scalar. A line end alone is a text. -/
def plainTag (s : String) : String :=
  if s = "\n" then textTag else formTag (Timestamp.dropLineEnd s.toList)

end QueryAudit.Yaml
