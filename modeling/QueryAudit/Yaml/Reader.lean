import QueryAudit.Yaml.Node.Document
import QueryAudit.Yaml.Node.Grammar

/-!
# Reading YAML

The document of a YAML text. Of the control characters a text may hold tabs and line ends only, and
an empty text is the absent value.
-/

namespace QueryAudit.Yaml

/-- A text with all its line ends written as line feeds. -/
def unifyLines : List Char → List Char
  | '\r' :: '\n' :: rest => '\n' :: unifyLines rest
  | '\r' :: rest => '\n' :: unifyLines rest
  | c :: rest => c :: unifyLines rest
  | [] => []

/-- A character that a text may hold. -/
def isAllowed (c : Char) : Bool :=
  let n := c.toNat
  c == '\t' || c == '\n' || c == '\r' || decide (0x20 ≤ n ∧ n ≤ 0x7E) || n == 0x85 ||
    decide (0xA0 ≤ n ∧ n ≤ 0xFFFD) || decide (0x10000 ≤ n) && !Text.isSurrogate c

/-- Read a YAML text. -/
def read (s : String) : Except Fault Document := do
  let text := unifyLines s.toList
  if text.all isAllowed then
    match ← parse text with
    | none => return .null
    | some (graph, root) => documentAt graph root
  else throw .character

end QueryAudit.Yaml
