import QueryAudit.Text.Utf8
import QueryAudit.Yaml.ScalarText
import QueryAudit.Yaml.Token

/-!
# Scanning anchors, tags and directives

The tokens that start with an indicator and go on with a word: `&name`, `*name`, `!tag`, `%NAME`.
-/

namespace QueryAudit.Yaml

open Scan

/-- A word, which has to be there. -/
def word : Scan String := do
  let taken ← takeWhile isWordChar
  if taken.isEmpty then throw .token
  return String.ofList taken

/-- A character that may follow the name of an anchor. -/
def followsAnchor (c : Char) : Bool :=
  isGapOrEnd c || ['?', ':', ',', ']', '}', '%', '@', '\x60'].contains c

/-- The name after the indicator of an anchor or a reference. -/
def anchorName : Scan String := do
  skip 1
  let name ← word
  require followsAnchor
  return name

/-- The octets that percent escapes in a row stand for. -/
def escapedOctets : Nat → Scan Text.Octets
  | 0 => return []
  | fuel + 1 => do
    if (← peek) == '%' then
      skip 1
      let octet ← hexValue 2
      return octet :: (← escapedOctets fuel)
    else return []

/-- A character of a tag. -/
def isTagChar (c : Char) : Bool :=
  isWordChar c || [';', '/', '?', ':', '@', '&', '=', '+', '$', ',', '.', '!', '~', '*', '\'', '(',
    ')', '[', ']', '%'].contains c

/-- The characters of a tag, with percent escapes undone. -/
def tagPieces : Nat → Scan (List Char)
  | 0 => return []
  | fuel + 1 => do
    let run ← takeWhile fun c => isTagChar c && c != '%'
    if (← peek) == '%' then
      match Text.utf8Strict (← escapedOctets (← Scan.fuel)) with
      | .ok meant => return run ++ meant ++ (← tagPieces fuel)
      | .error _ => throw .token
    else return run

/-- A tag or the start of one, which may not be empty. -/
def tagText : Scan String := do
  unless isTagChar (← peek) do
    throw .token
  return String.ofList (← tagPieces (← fuel))

/-- The handle of a tag: `!`, or a word between two of them. -/
def tagHandle : Scan String := do
  require (· == '!')
  skip 1
  if (← peek) == ' ' then return "!"
  let name ← takeWhile isWordChar
  if (← peek) == '!' then
    skip 1
    return String.ofList ('!' :: name ++ ['!'])
  else throw .token

/-- Whether a tag starts with a handle of its own: another mark comes before the next space. -/
def hasHandle (afterMark : List Char) : Bool :=
  (afterMark.takeWhile fun c => !isSpaceOrEnd c).contains '!'

/-- A tag. -/
def tag : Scan Token := do
  let c ← peekAt 1
  let token ←
    if c == '<' then
      skip 2
      let suffix ← tagText
      require (· == '>')
      skip 1
      pure (Token.tag none suffix)
    else if isGapOrEnd c then
      skip 1
      pure (.tag none "!")
    else if hasHandle ((← get).rest.drop 1) then
      let handle ← tagHandle
      pure (.tag (some handle) (← tagText))
    else
      skip 1
      pure (.tag (some "!") (← tagText))
  require isSpaceOrEnd
  return token

/-- A decimal numeral. -/
def number : Scan Nat := do
  let digits ← takeWhile Text.isDigit
  if digits.isEmpty then throw .token
  return Text.digitsValue digits

/-- A directive, up to the end of its line. -/
def directive : Scan Directive := do
  skip 1
  let name ← word
  require isSpaceOrEnd
  let directive ←
    if name == "YAML" then
      skipWhile (· == ' ')
      let major ← number
      require (· == '.')
      skip 1
      let _ ← number
      require isSpaceOrEnd
      pure (Directive.version major)
    else if name == "TAG" then
      skipWhile (· == ' ')
      let handle ← tagHandle
      require (· == ' ')
      skipWhile (· == ' ')
      let start ← tagText
      require isSpaceOrEnd
      pure (.handle handle start)
    else
      skipWhile fun c => !isBreak c
      pure .other
  skipLineRest
  return directive

end QueryAudit.Yaml
