/-!
# Tokens of YAML

The words from which the grammar of YAML is built. The block tokens have no text of their own: they
stand where the indentation grows and shrinks.
-/

namespace QueryAudit.Yaml

/-- What a directive says. -/
inductive Directive where
  /-- The version of the language. -/
  | version (major : Nat)
  /-- A handle that stands for the start of a tag. -/
  | handle (handle start : String)
  /-- Something without meaning here. -/
  | other
  deriving DecidableEq

/-- A token. -/
inductive Token where
  /-- The end of the text. -/
  | streamEnd
  /-- A directive. -/
  | directive (directive : Directive)
  /-- The marker `---`. -/
  | documentStart
  /-- The marker `...`. -/
  | documentEnd
  /-- The start of an indented list. -/
  | blockSequence
  /-- The start of an indented mapping. -/
  | blockMapping
  /-- The end of an indented list or mapping. -/
  | blockEnd
  /-- An opening square bracket. -/
  | openSequence
  /-- An opening brace. -/
  | openMapping
  /-- A closing square bracket. -/
  | closeSequence
  /-- A closing brace. -/
  | closeMapping
  /-- The dash before an item. -/
  | item
  /-- A comma. -/
  | comma
  /-- The start of a key. -/
  | key
  /-- The start of a value. -/
  | value
  /-- A reference to an anchor. -/
  | alias (name : String)
  /-- The name of the node that follows. -/
  | anchor (name : String)
  /-- The tag of the node that follows; the handle stands for the start of the tag. -/
  | tag (handle : Option String) (suffix : String)
  /-- A scalar, and whether it has no quotes. -/
  | scalar (text : String) (plain : Bool)
  deriving DecidableEq

end QueryAudit.Yaml
