import QueryAudit.Operation

/-!
# Findings

What the analysis reports about a call site: a code, a message and the place.
-/

namespace QueryAudit

/-- A finding about a call site. -/
structure Diagnostic where
  /-- How grave the finding is. -/
  severity : Severity
  /-- The kind of finding. -/
  code : DiagnosticCode
  /-- The wording. -/
  message : String
  /-- The place. -/
  range : SourceRange
  deriving DecidableEq

namespace Diagnostic

/-- Whether the finding is a warning. -/
def isWarning (diagnostic : Diagnostic) : Bool :=
  diagnostic.severity == .warning

/-- The finding in one line. -/
def display (diagnostic : Diagnostic) : String :=
  diagnostic.range.display ++ ": " ++ Vocabulary.text diagnostic.severity ++ " " ++
    Vocabulary.text diagnostic.code ++ ": " ++ diagnostic.message

/-- The names of the fields of a written finding. -/
def fieldNames : List String :=
  ["severity", "code", "message", "range"]

/-- Decode a finding. -/
def decode : Decoder Diagnostic := Decoder.record fun fields =>
  (fun severity code message range (_ : Unit) => ⟨severity, code, message, range⟩) <$>
    fields.withDefault "severity" .warning Vocabulary.decode <*>
    fields.required "code" Vocabulary.decode <*>
    fields.required "message" Decoder.text <*>
    fields.withDefault "range" SourceRange.start SourceRange.decode <*>
    fields.only fieldNames

/-- The finding as a document. -/
def encode (diagnostic : Diagnostic) : Document :=
  Document.record
    [("severity", some (.text (Vocabulary.text diagnostic.severity))),
      ("code", some (.text (Vocabulary.text diagnostic.code))),
      ("message", some (.text diagnostic.message)),
      ("range", some diagnostic.range.encode)]

end Diagnostic

end QueryAudit
