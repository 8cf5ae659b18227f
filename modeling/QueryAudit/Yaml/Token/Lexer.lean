import QueryAudit.Yaml.Word

/-!
# Cutting a YAML text into tokens

A scalar or an opening bracket is a key if a colon follows it on its line, which shows only later:
until then its place is kept as a candidate, and tokens from the first candidate on are not handed
out. When the text turns out to be malformed, the tokens handed out by then are the ones that the
grammar has seen.
-/

namespace QueryAudit.Yaml

/-- A token that may turn out to be the start of a key. -/
structure Candidate where
  /-- The number of the token. -/
  token : Nat
  /-- Whether it has to be a key, since it starts a line of a mapping. -/
  required : Bool
  /-- The place of the token. -/
  place : Cursor

/-- The state between two tokens. -/
structure Lexer where
  /-- The place in the text. -/
  cursor : Cursor
  /-- The number of open brackets; negative after a bracket that closes nothing. -/
  depth : Int
  /-- The indentation of the innermost block, -1 outside all blocks. -/
  indent : Int
  /-- The indentations of the blocks around it. -/
  indents : List Int
  /-- Whether a key may start here. -/
  allowsKey : Bool
  /-- The candidates by depth. -/
  candidates : List (Int × Candidate)
  /-- The tokens so far, the last one first. -/
  tokens : List Token
  /-- The number of tokens so far. -/
  count : Nat

/-- A step of the lexer. -/
abbrev Lex := StateT Lexer (Except Fault)

namespace Lexer

/-- The state at the start of a text. -/
def start (text : List Char) : Lexer :=
  ⟨.start text, 0, -1, [], true, [], [], 0⟩

/-- The tokens that are handed out: those before the first candidate. -/
def released (lexer : Lexer) : List Token :=
  let limit := lexer.candidates.foldl (fun n entry => min n entry.2.token) lexer.count
  lexer.tokens.reverse.take limit

/-- Whether the lexer is outside all brackets. -/
def inBlock (lexer : Lexer) : Bool :=
  lexer.depth == 0

/-- The column of the place. -/
def column (lexer : Lexer) : Int :=
  lexer.cursor.column

/-- Add a token. -/
def add (lexer : Lexer) (token : Token) : Lexer :=
  { lexer with tokens := token :: lexer.tokens, count := lexer.count + 1 }

/-- Insert a token in front of the token with the given number. -/
def insert (lexer : Lexer) (number : Nat) (token : Token) : Lexer :=
  let later := lexer.count - number
  { lexer with
    tokens := lexer.tokens.take later ++ token :: lexer.tokens.drop later
    count := lexer.count + 1 }

/-- The indentations that end when a line starts at a column, and those that stay. -/
def unwound (column : Int) (indent : Int) : List Int → Nat × Int × List Int
  | [] => (0, indent, [])
  | outer :: rest =>
    if column < indent then
      let (ended, last, stay) := unwound column outer rest
      (ended + 1, last, stay)
    else (0, indent, outer :: rest)

/-- End the blocks that are indented further than a column. -/
def unwind (lexer : Lexer) (column : Int) : Lexer :=
  if lexer.inBlock then
    let (ended, indent, indents) := unwound column lexer.indent lexer.indents
    { lexer with
      indent, indents
      tokens := List.replicate ended .blockEnd ++ lexer.tokens
      count := lexer.count + ended }
  else lexer

/-- Start a block at a column, and say whether it is a new one. -/
def indentTo (lexer : Lexer) (column : Int) : Bool × Lexer :=
  if lexer.indent < column then
    (true, { lexer with indent := column, indents := lexer.indent :: lexer.indents })
  else (false, lexer)

end Lexer

namespace Lex

/-- Take a step through the text. -/
def scan {α : Type} (step : Scan α) : Lex α := do
  let lexer ← get
  let (value, cursor) ← (step.run lexer.cursor : Except Fault (α × Cursor))
  set { lexer with cursor }
  return value

/-- Add a token. -/
def add (token : Token) : Lex Unit :=
  modify fun lexer => lexer.add token

/-- Say whether a key may start now. -/
def allowKey (allowed : Bool) : Lex Unit :=
  modify fun lexer => { lexer with allowsKey := allowed }

/-- Give up the candidates that are out of reach: a key and its colon stand on one line, not too far
apart. A candidate that has to be a key cannot be given up. -/
def dropStale : Lex Unit := do
  let lexer ← get
  let isStale := fun (candidate : Candidate) =>
    candidate.place.line != lexer.cursor.line ||
      decide (candidate.place.index + 1024 < lexer.cursor.index)
  if lexer.candidates.any fun entry => isStale entry.2 && entry.2.required then
    throw .token
  set { lexer with candidates := lexer.candidates.filter fun entry => !isStale entry.2 }

/-- Give up the candidate of the present depth. -/
def dropCandidate : Lex Unit := do
  let lexer ← get
  match lexer.candidates.lookup lexer.depth with
  | none => return
  | some candidate =>
    if candidate.required then throw .token
    set { lexer with
      candidates := lexer.candidates.filter fun entry => entry.1 != lexer.depth }

/-- Make the next token a candidate, if a key may start here. -/
def saveCandidate : Lex Unit := do
  if (← get).allowsKey then
    dropCandidate
    modify fun lexer =>
      let required := lexer.inBlock && lexer.indent == lexer.column
      { lexer with
        candidates :=
          (lexer.depth, ⟨lexer.count, required, lexer.cursor⟩) :: lexer.candidates }

/-- Go to the start of the next token. -/
def skipToToken : Nat → Lex Unit
  | 0 => return
  | fuel + 1 => do
    let ended ← scan do
      let cursor ← get
      if cursor.index = 0 ∧ cursor.peek = byteOrderMark then Scan.skip 1
      Scan.skipWhile (· == ' ')
      Scan.skipComment
      Scan.lineBreak?
    if ended.isSome then
      if (← get).inBlock then allowKey true
      skipToToken fuel

/-- End all blocks before a token that stands outside them. -/
def leaveBlocks : Lex Unit := do
  modify fun lexer => lexer.unwind (-1)
  dropCandidate
  allowKey false

/-- A document marker. -/
def documentMark (token : Token) : Lex Unit := do
  leaveBlocks
  scan (Scan.skip 3)
  add token

/-- An opening bracket. -/
def openBracket (token : Token) : Lex Unit := do
  saveCandidate
  modify fun lexer => { lexer with depth := lexer.depth + 1 }
  allowKey true
  scan (Scan.skip 1)
  add token

/-- A closing bracket. -/
def closeBracket (token : Token) : Lex Unit := do
  dropCandidate
  modify fun lexer => { lexer with depth := lexer.depth - 1 }
  allowKey false
  scan (Scan.skip 1)
  add token

/-- A comma between brackets. -/
def comma : Lex Unit := do
  allowKey true
  dropCandidate
  scan (Scan.skip 1)
  add .comma

/-- Start a block here, if it is a new one. -/
def startBlock (token : Token) : Lex Unit := do
  let lexer ← get
  let (isNew, next) := lexer.indentTo lexer.column
  set (if isNew then next.add token else next)

/-- Outside brackets, the token needs a place where a key may start. -/
def requireKeyPlace : Lex Unit := do
  let lexer ← get
  if lexer.inBlock && !lexer.allowsKey then
    throw .token

/-- The dash before an item. -/
def item : Lex Unit := do
  requireKeyPlace
  if (← get).inBlock then startBlock .blockSequence
  allowKey true
  dropCandidate
  scan (Scan.skip 1)
  add .item

/-- The mark before a key. -/
def keyMark : Lex Unit := do
  requireKeyPlace
  if (← get).inBlock then startBlock .blockMapping
  allowKey (← get).inBlock
  dropCandidate
  scan (Scan.skip 1)
  add .key

/-- The colon before a value. It makes the candidate before it a key. -/
def valueMark : Lex Unit := do
  let lexer ← get
  match lexer.candidates.lookup lexer.depth with
  | some candidate =>
    let keyed := { lexer with
      candidates := lexer.candidates.filter fun entry => entry.1 != lexer.depth
      allowsKey := false }.insert candidate.token .key
    if lexer.inBlock then
      let (isNew, next) := keyed.indentTo candidate.place.column
      set (if isNew then next.insert candidate.token .blockMapping else next)
    else set keyed
  | none =>
    requireKeyPlace
    if lexer.inBlock then startBlock .blockMapping
    allowKey lexer.inBlock
    dropCandidate
  scan (Scan.skip 1)
  add .value

/-- A token that may be a key and is not followed by one. -/
def keyLike (step : Scan Token) : Lex Unit := do
  saveCandidate
  allowKey false
  add (← scan step)

/-- A block scalar. -/
def blockText (folded : Bool) : Lex Unit := do
  allowKey true
  dropCandidate
  let indent := (← get).indent
  add (.scalar (← scan (blockScalar folded indent)) false)

/-- A plain scalar. -/
def plainText : Lex Unit := do
  saveCandidate
  let lexer ← get
  let (text, broken) ← scan (plainScalar (!lexer.inBlock) (lexer.indent + 1))
  allowKey broken
  add (.scalar text true)

/-- A directive. -/
def directiveLine : Lex Unit := do
  leaveBlocks
  add (.directive (← scan directive))

/-- The end of the text. -/
def streamEnd : Lex Unit := do
  leaveBlocks
  modify fun lexer => { lexer with candidates := [] }
  add .streamEnd

/-- A character that cannot start a plain scalar. -/
def indicators : List Char :=
  ['-', '?', ':', ',', '[', ']', '{', '}', '#', '&', '*', '!', '|', '>', '\'', '"', '%', '@',
    '\x60']

/-- Whether a plain scalar starts at a place. -/
def startsPlain (lexer : Lexer) : Bool :=
  let c := lexer.cursor.peek
  !(isGapOrEnd c || indicators.contains c) ||
    (!isGapOrEnd (lexer.cursor.peekAt 1) &&
      (c == '-' || (lexer.inBlock && (c == '?' || c == ':'))))

/-- Read the token at the place, with the tokens of blocks that come before it. The result tells
whether it was the end of the text. -/
def token : Lex Bool := do
  skipToToken ((← get).cursor.rest.length + 1)
  dropStale
  modify fun lexer => lexer.unwind lexer.column
  let lexer ← get
  let cursor := lexer.cursor
  let c := cursor.peek
  let beforeGap := isGapOrEnd (cursor.peekAt 1)
  let atMark := cursor.column == 0 && cursor.atDocumentMark
  if cursor.rest.isEmpty then
    streamEnd
    return true
  if c == '%' && cursor.column == 0 then directiveLine
  else if c == '-' && atMark then documentMark .documentStart
  else if c == '.' && atMark then documentMark .documentEnd
  else if c == '[' then openBracket .openSequence
  else if c == '{' then openBracket .openMapping
  else if c == ']' then closeBracket .closeSequence
  else if c == '}' then closeBracket .closeMapping
  else if c == ',' then comma
  else if c == '-' && beforeGap then item
  else if c == '?' && (!lexer.inBlock || beforeGap) then keyMark
  else if c == ':' && (!lexer.inBlock || beforeGap) then valueMark
  else if c == '*' then keyLike (Token.alias <$> anchorName)
  else if c == '&' then keyLike (Token.anchor <$> anchorName)
  else if c == '!' then keyLike tag
  else if c == '|' && lexer.inBlock then blockText false
  else if c == '>' && lexer.inBlock then blockText true
  else if c == '\'' then keyLike ((Token.scalar · false) <$> quotedScalar false)
  else if c == '"' then keyLike ((Token.scalar · false) <$> quotedScalar true)
  else if startsPlain lexer then plainText
  else throw .token
  return false

end Lex

/-- The tokens that are handed out, and the fault that ends them, if there is one. -/
def tokensFrom (lexer : Lexer) : Nat → List Token × Option Fault
  | 0 => (lexer.released, some .token)
  | fuel + 1 =>
    match (do let ended ← Lex.token; Lex.dropStale; return ended : Lex Bool).run lexer with
    | .error fault => (lexer.released, some fault)
    | .ok (true, next) => (next.tokens.reverse, none)
    | .ok (false, next) => tokensFrom next fuel

/-- Cut a text into tokens. Every step reads a character or ends the text. -/
def tokens (text : List Char) : List Token × Option Fault :=
  tokensFrom (.start text) (text.length + 2)

end QueryAudit.Yaml
