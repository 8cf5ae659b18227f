import QueryAudit.Query.Span
import QueryAudit.Text.LetterCase
import QueryAudit.Text.Numeral
import QueryAudit.Entries

/-!
# Placeholders

Queries name their parameters `@name`; the database knows only `$1`, `$2` and so on. Rewriting gives
every name a number after the numbers that the query uses already, one number for all spellings of
a name that differ in letter case only. What is not code is copied as it is.
-/

namespace QueryAudit.Query

/-- A piece of query text, by what rewriting does with it. -/
inductive Piece where
  /-- Text that is copied. -/
  | copied (text : List Char)
  /-- The placeholder `@name`. -/
  | placeholder (name : List Char)
  deriving DecidableEq

/-- The text of a piece in the query. -/
def Piece.source : Piece → List Char
  | .copied text => text
  | .placeholder name => '@' :: name

/-- Cut code into pieces. Two `@` in a row are copied, and so is an `@` right after an identifier or
one without a name. -/
def codePieces (afterIdentifier : Bool) (code : List Char) : List Piece :=
  match code with
  | [] => []
  | '@' :: '@' :: rest => .copied ['@', '@'] :: codePieces false rest
  | c :: rest =>
    if c == '@' && !afterIdentifier && !(leadingName rest).isEmpty then
      let name := leadingName rest
      .placeholder name :: codePieces true (rest.drop name.length)
    else .copied [c] :: codePieces (isIdentifierChar c) rest
termination_by code.length
decreasing_by
  · simp only [List.length_cons]; omega
  · simp only [List.length_drop, List.length_cons]; omega
  · simp only [List.length_cons]; omega

/-- The pieces of a span. -/
def Span.pieces (span : Span) : List Piece :=
  if span.isCode then codePieces false span.text else [.copied span.text]

/-- The names of the placeholders among pieces, in order. -/
def placeholderNames (pieces : List Piece) : List (List Char) :=
  pieces.filterMap fun
    | .copied _ => none
    | .placeholder name => some name

/-- The digits of every `$n` in code that does not follow an identifier. -/
def positionalDigits (afterIdentifier : Bool) (code : List Char) : List (List Char) :=
  match code with
  | [] => []
  | c :: rest =>
    let digits := rest.takeWhile Text.isDigit
    if c == '$' && !digits.isEmpty then
      let next := positionalDigits true (rest.drop digits.length)
      if afterIdentifier then next else digits :: next
    else positionalDigits (isIdentifierChar c) rest
termination_by code.length
decreasing_by
  · simp only [List.length_drop, List.length_cons]; omega
  · simp

/-- The digits of the positional placeholders of a query, in order. -/
def positionals (query : List Span) : List (List Char) :=
  (codeAfter none query).flatMap fun (before, code) =>
    positionalDigits (before.any isIdentifierChar) code

/-- Names with one spelling each: the lower-case name with its first spelling, in order of first
use. -/
def distinctNames (names : List (List Char)) : Entries (List Char) (List Char) :=
  Entries.firsts (names.map fun name => (Text.lower name, name))

/-- A rewritten query. -/
structure Rewritten where
  /-- The text with numbered placeholders. -/
  text : List Char
  /-- The first spelling of every name by its position, in order of first use. -/
  names : List (Nat × String)
  deriving DecidableEq

/-- The position of a name when the names are numbered after `highest`. -/
def numberOf (highest : Nat) (names : Entries (List Char) (List Char)) (name : List Char) : Nat :=
  highest + 1 + names.findIdx fun entry => entry.1 == Text.lower name

/-- A piece with its placeholder numbered. -/
def Piece.numbered (highest : Nat) (names : Entries (List Char) (List Char)) : Piece → List Char
  | .copied text => text
  | .placeholder name => '$' :: Text.numeral (numberOf highest names name)

/-- Number the placeholders of a query after `highest`. -/
def rewriteAfter (highest : Nat) (query : List Span) : Rewritten :=
  let pieces := query.flatMap Span.pieces
  let names := distinctNames (placeholderNames pieces)
  ⟨pieces.flatMap (Piece.numbered highest names),
    (names.zipIdx (highest + 1)).map fun (entry, position) => (position, String.ofList entry.2)⟩

/-- The largest number among the positional placeholders, 0 when there is none. Numerals that are
too long are refused. -/
def highestPosition (query : List Span) : Except Text.NumeralError Nat := do
  let numbers ← (positionals query).mapM Text.readDigits
  return numbers.foldl max 0

/-- Rewrite the named placeholders of a query. -/
def rewrite (query : List Char) : Except Text.NumeralError Rewritten := do
  let cut := spans query
  let highest ← highestPosition cut
  let rewritten := rewriteAfter highest cut
  if highest + rewritten.names.length < Text.numeralBound then return rewritten
  else throw .tooLarge

/-- The position of a name; markers in front and letter case do not count. -/
def Rewritten.positionOf? (rewritten : Rewritten) (name : String) : Option Nat :=
  let key := Text.lower (name.toList.dropWhile (· == '@'))
  (rewritten.names.find? fun entry => Text.lower entry.2.toList == key).map Prod.fst

/-- The name at a position. -/
def Rewritten.nameAt? (rewritten : Rewritten) (position : Nat) : Option String :=
  rewritten.names.lookup position

/-- A single placeholder. -/
inductive Placeholder where
  /-- The placeholder `@name`. -/
  | named (name : String)
  /-- The placeholder `$n`. -/
  | positional (n : Nat)
  deriving DecidableEq

/-- The placeholder that an argument consists of, if it is nothing else. -/
def barePlaceholder? (argument : List Char) : Except Text.NumeralError (Option Placeholder) :=
  match Text.trim argument with
  | '@' :: c :: rest =>
    if isNameStart c && rest.all isNameChar then .ok (some (.named (String.ofList (c :: rest))))
    else .ok none
  | '$' :: d :: rest =>
    if (d :: rest).all Text.isDigit then
      (Text.readDigits (d :: rest)).map fun n => some (.positional n)
    else .ok none
  | _ => .ok none

/-- A character after which no placeholder is looked for in an argument. -/
def hidesPlaceholder (c : Char) : Bool :=
  isNameChar c || c == '$' || c == '@'

/-- Whether code has a placeholder, given whether the character before it hides one. -/
def codeMentions (hidden : Bool) : List Char → Bool
  | c :: d :: rest =>
    (!hidden && (c == '@' && isNameStart d || c == '$' && Text.isDigit d)) ||
      codeMentions (hidesPlaceholder c) (d :: rest)
  | _ => false

/-- Whether the code of a text has placeholders. -/
def hasPlaceholders (text : List Char) : Bool :=
  (codeAfter none (spans text)).any fun (before, code) =>
    codeMentions (before.any hidesPlaceholder) code

end QueryAudit.Query
