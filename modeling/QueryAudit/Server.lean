import QueryAudit.Text.Utf8

/-!
# The server, as far as descriptions need it

A server is what it answers: whether it accepts a connection, in which encoding it talks, and what
it says when a statement is prepared or described. A conversation is the list of what was sent.
-/

namespace QueryAudit

/-- The encodings of a connection. -/
inductive Encoding where
  /-- UTF-8. -/
  | utf8
  /-- Seven-bit characters. -/
  | ascii
  /-- The first 256 characters, one octet each. -/
  | latin1
  deriving DecidableEq

namespace Encoding

/-- The name of an encoding in messages. -/
def name : Encoding → String
  | .utf8 => "utf-8"
  | .ascii => "ascii"
  | .latin1 => "iso8859-1"

/-- The number of characters that an encoding of one octet a character can write. -/
def size? : Encoding → Option Nat
  | .utf8 => none
  | .ascii => some 128
  | .latin1 => some 256

/-- Write a text, or say why it cannot be written. -/
def encode (encoding : Encoding) (text : List Char) : Except String Text.Octets :=
  match encoding.size? with
  | none => if text.any Text.isSurrogate then .error Text.surrogateReason else .ok (Text.utf8 text)
  | some size =>
    if text.all fun c => decide (c.toNat < size) then .ok (text.map Char.toNat)
    else .error ("ordinal not in range(" ++ toString size ++ ")")

/-- Read octets, with the replacement character for what the encoding does not have. -/
def decode (encoding : Encoding) (octets : Text.Octets) : List Char :=
  match encoding with
  | .utf8 => Text.utf8Lenient octets
  | .ascii => octets.map fun b => if b < 128 then Char.ofNat b else Text.replacement
  | .latin1 => octets.map Char.ofNat

end Encoding

/-- A result column as the server reports it. -/
structure Field where
  /-- The name, in the encoding of the connection. -/
  name : Option Text.Octets
  /-- The catalog number of the type. -/
  typeOid : Int
  /-- The catalog number of the table, 0 when the column is computed. -/
  tableOid : Int
  /-- The number of the column in its table. -/
  tableColumn : Int

/-- What the server reports about a step. -/
structure Report where
  /-- Whether the step was accepted. -/
  accepted : Bool
  /-- The primary message of a rejection. -/
  primary : Option Text.Octets
  /-- The code of a rejection. -/
  sqlState : Option Text.Octets
  /-- The whole message of a rejection. -/
  errorMessage : Option Text.Octets
  /-- The catalog numbers of the parameter types. -/
  parameters : List Int
  /-- The result columns. -/
  fields : List Field

/-- What happens in a step: the connection breaks with a message, or the server reports. -/
inductive Answer where
  /-- The connection breaks. -/
  | breaks (message : String)
  /-- The server reports. -/
  | reports (report : Report)

/-- Whether a step was accepted. -/
def Answer.isAccepted : Answer → Bool
  | .breaks _ => false
  | .reports report => report.accepted

/-- A server. -/
structure Server where
  /-- The message with which it refuses connections, if it does. -/
  refusal : Option String
  /-- The encoding of connections. -/
  encoding : Encoding
  /-- The answer to preparing a text. -/
  prepare : List Char → Answer
  /-- The answer to describing the prepared text. -/
  describe : List Char → Answer

/-- What is sent to a server. -/
inductive Sent where
  /-- A connection is opened; every statement commits by itself. -/
  | connect (dsn : String)
  /-- A text is prepared under the statement name. -/
  | prepare (octets : Text.Octets)
  /-- The prepared statement is described. -/
  | describe
  /-- The prepared statement is given back. -/
  | deallocate
  deriving DecidableEq

/-- The name of the prepared statement. -/
def statementName : String :=
  "sqlcheck_describe"

end QueryAudit
