import QueryAudit.Query.Span
import QueryAudit.Text.Blank
import QueryAudit.Text.LetterCase

/-!
# Single function calls

A query of the form `SELECT fn(arg, …)` and nothing more, apart from blanks and semicolons at the
end. The closing parenthesis is the one at which the parentheses of the code balance, and arguments
are separated by the commas of the code outside all brackets.
-/

namespace QueryAudit.Query

/-- A query that calls one function. -/
structure Call where
  /-- The name, folded as the database folds identifiers. -/
  name : String
  /-- The schema, folded likewise, when the name is qualified. -/
  schemaName : Option String
  /-- The arguments, without blanks around them. -/
  arguments : List String
  deriving DecidableEq

/-- Drop the blanks at the start of a text. -/
def skipBlanks (s : List Char) : List Char :=
  s.dropWhile Text.isBlank

/-- Whether a character is the given letter in any case. A long s counts as an s. -/
def isLetter (letter c : Char) : Bool :=
  c.toLower == letter || (letter == 's' && c.toNat == 0x17F)

/-- Drop a keyword from the start of a text, in any letter case. -/
def dropKeyword? : List Char → List Char → Option (List Char)
  | [], s => some s
  | letter :: word, c :: rest => if isLetter letter c then dropKeyword? word rest else none
  | _ :: _, [] => none

/-- An identifier at the start of a text, folded, with what follows it. A quoted identifier is not
empty and keeps its letters, with doubled quotes undone; a plain one is folded to lower case. -/
def identifier? : List Char → Option (String × List Char)
  | '"' :: rest => quoted [] rest
  | c :: rest =>
    if isNameStart c then
      let name := c :: rest.takeWhile fun d => isNameChar d || d == '$'
      some (String.ofList (Text.lower name), rest.drop (name.length - 1))
    else none
  | [] => none
where
  /-- The rest of a quoted identifier, given in reverse what was read of it. -/
  quoted (read : List Char) : List Char → Option (String × List Char)
    | '"' :: '"' :: rest => quoted ('"' :: read) rest
    | '"' :: rest => if read.isEmpty then none else some (String.ofList read.reverse, rest)
    | c :: rest => quoted (c :: read) rest
    | [] => none

/-- A name with an optional qualifier and an opening parenthesis: the qualifier, the name, and what
follows the parenthesis. -/
def callHead? (s : List Char) : Option (Option String × String × List Char) := do
  let (first, afterFirst) ← identifier? s
  match skipBlanks afterFirst with
  | '(' :: rest => some (none, first, rest)
  | '.' :: rest =>
    let (second, afterSecond) ← identifier? (skipBlanks rest)
    match skipBlanks afterSecond with
    | '(' :: rest => some (some first, second, rest)
    | _ => none
  | _ => none

/-- The number of characters before the closing parenthesis, at the given depth inside it. -/
def lengthInside? (depth : Nat) : List (Char × Bool) → Option Nat
  | [] => none
  | (c, isCode) :: rest =>
    if isCode && c == '(' then (lengthInside? (depth + 1) rest).map (· + 1)
    else if isCode && c == ')' then
      if depth = 0 then some 0 else (lengthInside? (depth - 1) rest).map (· + 1)
    else (lengthInside? depth rest).map (· + 1)

/-- Cut marked text at the commas of the code at bracket depth zero. Round and square brackets count
alike, and the depth may fall below zero. -/
def cutAtCommas (depth : Int) (current : List Char) : List (Char × Bool) → List (List Char)
  | [] => [current.reverse]
  | (c, isCode) :: rest =>
    if isCode && c == ',' && depth == 0 then current.reverse :: cutAtCommas depth [] rest
    else
      let next :=
        if isCode && (c == '(' || c == '[') then depth + 1
        else if isCode && (c == ')' || c == ']') then depth - 1
        else depth
      cutAtCommas next (c :: current) rest

/-- The arguments in the text between the parentheses; none when it is blank. -/
def splitArguments (inner : List Char) : List (List Char) :=
  match (cutAtCommas 0 [] (marked inner)).map Text.trim with
  | [[]] => []
  | arguments => arguments

/-- Whether nothing but blanks, then semicolons, then blanks, is left. -/
def isStatementEnd (s : List Char) : Bool :=
  (skipBlanks ((skipBlanks s).dropWhile (· == ';'))).isEmpty

/-- The call that a query consists of, if it is nothing else. -/
def call? (query : List Char) : Option Call := do
  let afterSelect ← dropKeyword? "select".toList (skipBlanks query)
  guard (afterSelect.head?.any Text.isBlank)
  let (schemaName, name, afterOpening) ← callHead? (skipBlanks afterSelect)
  let tail := (marked query).drop (query.length - afterOpening.length)
  let length ← lengthInside? 0 tail
  guard (isStatementEnd (afterOpening.drop (length + 1)))
  return ⟨name, schemaName, (splitArguments (afterOpening.take length)).map String.ofList⟩

end QueryAudit.Query
