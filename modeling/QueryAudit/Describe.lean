import QueryAudit.Registry
import QueryAudit.Server

/-!
# Describing queries

A query is described by the function registry when that settles it, and by the server otherwise: the
rewritten text is prepared and described under a statement name and given back, and it is never run.
What was sent is part of the result. A rejection by the server, a broken connection and a text that
the encoding cannot write are results; two things escape as faults, a numeral in the query that is
too long and an error code that is not UTF-8.
-/

namespace QueryAudit

/-- A query that the database did not accept. -/
structure Rejection where
  /-- The text of the error. -/
  message : String
  /-- The text as it was sent. -/
  query : Option String
  /-- The code of the error. -/
  sqlState : Option String
  deriving DecidableEq

/-- What keeps a describer from giving any result. -/
inductive Fault where
  /-- A positional placeholder has too many digits. -/
  | numeral (error : Text.NumeralError)
  /-- The code of a rejection is not UTF-8. -/
  | undecodable (error : Text.Utf8Error)
  /-- The description at hand does not decode. -/
  | undescribed (issues : List Issue)
  /-- The describer broke off with a message. -/
  | raised (message : String)
  deriving DecidableEq

/-- The wording of a fault. -/
def Fault.message : Fault → String
  | .numeral error => error.message
  | .undecodable error => error.message
  | .undescribed issues => toString issues.length ++ " validation errors for QueryDescription"
  | .raised message => message

/-- The result of describing a query. -/
abbrev Described := Except Rejection Description

namespace Describe

/-- The type with the given catalog number; unknown when the snapshot does not have it. -/
def typeOf (snapshot : Snapshot) (oid : Int) : DataType :=
  (snapshot.typeByOid? oid).getD .unknown

/-- The name that a column gets when the server reports none. -/
def namelessColumn : String :=
  "?column?"

/-- The name of a result column. -/
def fieldName (encoding : Encoding) (field : Field) : String :=
  match field.name with
  | some (b :: octets) => String.ofList (encoding.decode (b :: octets))
  | _ => namelessColumn

/-- The column of a table that a result column is. -/
def tableColumn? (snapshot : Snapshot) (field : Field) : Option Column :=
  if field.tableOid = 0 then none
  else (snapshot.tableByOid? field.tableOid).bind fun table => table.columnAt? field.tableColumn

/-- A result column. A column of a table is as nullable as that one, and nothing is known about
others. -/
def outputColumn (snapshot : Snapshot) (encoding : Encoding) (field : Field) : OutputColumn :=
  let name := fieldName encoding field
  let type := typeOf snapshot field.typeOid
  match tableColumn? snapshot field with
  | some column => ⟨name, type, column.nullable, true⟩
  | none => ⟨name, type, true, false⟩

/-- The parameters, numbered from `position` on. -/
def parametersFrom (snapshot : Snapshot) (rewritten : Query.Rewritten) (position : Nat) :
    List Int → List Parameter
  | [] => []
  | oid :: rest =>
    ⟨position, rewritten.nameAt? position, typeOf snapshot oid⟩ ::
      parametersFrom snapshot rewritten (position + 1) rest

/-- The description in an accepted report. -/
def description (snapshot : Snapshot) (encoding : Encoding) (rewritten : Query.Rewritten)
    (report : Report) : Description :=
  ⟨parametersFrom snapshot rewritten 1 report.parameters,
    report.fields.map (outputColumn snapshot encoding)⟩

/-- Octets that say something. -/
def said? (octets : Option Text.Octets) : Option Text.Octets :=
  octets.filter fun octets => !octets.isEmpty

/-- The rejection of a text in a report: the primary message, else the whole one. -/
def rejection (text : List Char) (report : Report) : Except Fault Rejection :=
  let octets := ((said? report.primary).or (said? report.errorMessage)).getD
    (Text.utf8 "unknown error".toList)
  let message := String.ofList (Text.trim (Text.utf8Lenient octets))
  match said? report.sqlState with
  | none => .ok ⟨message, some (String.ofList text), none⟩
  | some code =>
    match Text.utf8Strict code with
    | .ok code => .ok ⟨message, some (String.ofList text), some (String.ofList code)⟩
    | .error error => .error (.undecodable error)

/-- The rejection of a text because the connection broke. -/
def broken (text : List Char) (message : String) : Rejection :=
  ⟨Text.trimmed message, some (String.ofList text), none⟩

/-- The result in the answer to a step; `next` gives it when the step was accepted. -/
def afterAnswer (text : List Char) (answer : Answer) (next : Report → Except Fault Described) :
    Except Fault Described :=
  match answer with
  | .breaks message => .ok (.error (broken text message))
  | .reports report =>
    if report.accepted then next report else (rejection text report).map .error

/-- Describe a rewritten query by asking the server. -/
def overServer (dsn : String) (server : Server) (snapshot : Snapshot)
    (rewritten : Query.Rewritten) : Except Fault Described × List Sent :=
  let text := rewritten.text
  match server.refusal with
  | some message => (.ok (.error (broken text message)), [.connect dsn])
  | none =>
    match server.encoding.encode text with
    | .error reason =>
      let message := "Query text cannot be encoded in the database encoding " ++
        server.encoding.name ++ ": " ++ reason
      (.ok (.error ⟨message, some (String.ofList text), none⟩), [.connect dsn])
    | .ok octets =>
      let prepared := server.prepare text
      let result := afterAnswer text prepared fun _ =>
        afterAnswer text (server.describe text) fun report =>
          .ok (.ok (description snapshot server.encoding rewritten report))
      let sent := [.connect dsn, .prepare octets] ++
        if prepared.isAccepted then [.describe, .deallocate] else []
      (result, sent)

/-- Describe a query by the registry, if it settles the query. -/
def byRegistry (snapshot : Snapshot) (query : List Char) (rewritten : Query.Rewritten) :
    Except Text.NumeralError (Option Description) :=
  match Query.call? query with
  | none => .ok none
  | some call => Registry.describe snapshot call rewritten

end Describe

/-- Describe a query. -/
def describe (dsn : String) (server : Server) (snapshot : Snapshot) (query : String) :
    Except Fault Described × List Sent :=
  match Query.rewrite query.toList with
  | .error error => (.error (.numeral error), [])
  | .ok rewritten =>
    match Describe.byRegistry snapshot query.toList rewritten with
    | .error error => (.error (.numeral error), [])
    | .ok (some description) => (.ok (.ok description), [])
    | .ok none => Describe.overServer dsn server snapshot rewritten

end QueryAudit
