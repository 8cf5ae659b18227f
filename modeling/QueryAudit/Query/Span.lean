import QueryAudit.Text.Alphanumeric

/-!
# Spans of query text

Query text is cut into spans of code and spans to skip: string literals, quoted identifiers,
comments and dollar-quoted bodies. The texts of the spans put together are the query text. Nothing
else about the query is understood here; an unterminated span runs to the end of the text.
-/

namespace QueryAudit.Query

/-- A piece of query text. -/
structure Span where
  /-- The characters. -/
  text : List Char
  /-- Whether the piece is code. -/
  isCode : Bool
  deriving DecidableEq

/-- A character that may stand in an identifier. -/
def isIdentifierChar (c : Char) : Bool :=
  Text.isAlphanumeric c || c == '_' || c == '$'

/-- A character with which the name of a placeholder or of a dollar quote starts. -/
def isNameStart (c : Char) : Bool :=
  c.isAlpha || c == '_'

/-- A character of the name of a placeholder or of a dollar quote. -/
def isNameChar (c : Char) : Bool :=
  c.isAlphanum || c == '_'

/-- The longest name at the start of a text; empty when no name starts there. -/
def leadingName : List Char → List Char
  | [] => []
  | c :: rest => if isNameStart c then c :: rest.takeWhile isNameChar else []

/-- The number of characters up to and with the closing quote, after the opening one. A doubled
quote stands for one inside, and with `escapes` a backslash takes the next character with it. -/
def quotedLength (quote : Char) (escapes : Bool) : List Char → Nat
  | [] => 0
  | [_] => 1
  | c :: d :: rest =>
    if escapes && c == '\\' then 2 + quotedLength quote escapes rest
    else if c == quote then
      if d == quote then 2 + quotedLength quote escapes rest else 1
    else 1 + quotedLength quote escapes (d :: rest)

/-- The number of characters up to the end of a block comment at the given depth. Block comments
nest. -/
def commentLength (depth : Nat) : List Char → Nat
  | [] => 0
  | [_] => 1
  | c :: d :: rest =>
    if c == '/' && d == '*' then 2 + commentLength (depth + 1) rest
    else if c == '*' && d == '/' then
      if depth ≤ 1 then 2 else 2 + commentLength (depth - 1) rest
    else 1 + commentLength depth (d :: rest)

/-- The number of characters before the first occurrence of a tag. -/
def lengthBefore? (tag : List Char) : List Char → Option Nat
  | [] => if tag.isEmpty then some 0 else none
  | c :: rest =>
    if tag.isPrefixOf (c :: rest) then some 0 else (lengthBefore? tag rest).map (· + 1)

/-- The tag of a dollar quote, given what follows its first dollar sign. -/
def dollarTag? (rest : List Char) : Option (List Char) :=
  let name := leadingName rest
  match rest.drop name.length with
  | '$' :: _ => some ('$' :: name ++ ['$'])
  | _ => none

/-- The number of characters after its first dollar sign that belong to a dollar-quoted body. -/
def dollarLength (tag rest : List Char) : Nat :=
  let opening := tag.length - 1
  let body := rest.drop opening
  match lengthBefore? tag body with
  | some n => opening + n + tag.length
  | none => rest.length

/-- A single quote opens a literal with backslash escapes when an `e` stands right before it that is
not the end of a longer identifier. -/
def opensEscapes : List Char → Bool
  | [] => false
  | [c] => c == 'e' || c == 'E'
  | c :: d :: _ => (c == 'e' || c == 'E') && !isIdentifierChar d

/-- When a skipped span starts with `c`, the number of its further characters. The text before `c`
is given in reverse, the text after it as `rest`. -/
def skippedAfter? (before : List Char) (c : Char) (rest : List Char) : Option Nat :=
  if c == '\'' then some (quotedLength '\'' (opensEscapes before) rest)
  else if c == '"' then some (quotedLength '"' false rest)
  else if c == '-' && rest.head? == some '-' then
    some (rest.takeWhile (· != '\n')).length
  else if c == '/' && rest.head? == some '*' then some (1 + commentLength 1 rest.tail)
  else if c == '$' && !before.head?.any isIdentifierChar then
    (dollarTag? rest).map fun tag => dollarLength tag rest
  else none

/-- The span of the code read so far, which is given in reverse. -/
def codeSpan (code : List Char) : List Span :=
  if code.isEmpty then [] else [⟨code.reverse, true⟩]

/-- Cut a text into spans, given in reverse the text before it and the code read so far. -/
def spansFrom (before code : List Char) (text : List Char) : List Span :=
  match text with
  | [] => codeSpan code
  | c :: rest =>
    match skippedAfter? before c rest with
    | none => spansFrom (c :: before) (c :: code) rest
    | some k =>
      codeSpan code ++ ⟨c :: rest.take k, false⟩ ::
        spansFrom ((c :: rest.take k).reverse ++ before) [] (rest.drop k)
termination_by text.length
decreasing_by
  · simp
  · simp only [List.length_drop, List.length_cons]; omega

/-- The spans of a query text. -/
def spans (text : List Char) : List Span :=
  spansFrom [] [] text

/-- The spans by their first and last place in the text, counted from `start`. -/
def offsets (start : Nat) : List Span → List (Nat × Nat × Bool)
  | [] => []
  | span :: rest =>
    let stop := start + span.text.length
    (start, stop, span.isCode) :: offsets stop rest

/-- The characters of a query text, each with the mark whether it is code. -/
def marked (text : List Char) : List (Char × Bool) :=
  (spans text).flatMap fun span => span.text.map fun c => (c, span.isCode)

/-- The code spans, each with the character right before it. -/
def codeAfter (before : Option Char) : List Span → List (Option Char × List Char)
  | [] => []
  | span :: rest =>
    let next := codeAfter (span.text.getLast?.or before) rest
    if span.isCode then (before, span.text) :: next else next

end QueryAudit.Query
