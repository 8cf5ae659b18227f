import QueryAudit.Analysis
import QueryAudit.Describe

/-!
# Sessions

A session analyses many call sites against one snapshot and asks its describer once for every query
text: the first result is kept, and a fault keeps nothing, so that the text is asked for again. In a
batch a fault becomes a finding of its own and touches no other call site.
-/

namespace QueryAudit

/-- What a describer says about a query, and which texts it sent out for that. -/
structure Reply where
  /-- The result, unless the describer failed. -/
  result : Except Fault Described
  /-- The texts that were sent out. -/
  sent : List String

/-- A describer. -/
abbrev Describer := String → Reply

/-- The describer that asks the registry and the server. -/
def serverDescriber (dsn : String) (server : Server) (snapshot : Snapshot) : Describer :=
    fun query =>
  let (result, sent) := describe dsn server snapshot query
  let texts := sent.filterMap fun
    | .prepare octets => some (String.ofList (server.encoding.decode octets))
    | _ => none
  ⟨result, texts⟩

/-- The findings about a call site, given what the describer says about its query. -/
def Operation.findings (operation : Operation) (describe : String → Except Fault Described) :
    Except Fault (List Diagnostic) :=
  match operation.query with
  | none => .ok []
  | some query =>
    match describe query with
    | .error fault => .error fault
    | .ok (.error rejection) =>
      .ok [Analysis.warning .describeFailed rejection.message operation.range]
    | .ok (.ok description) => .ok (Analysis.check operation description)

/-- The finding that stands for a fault. -/
def Operation.analysisFailed (operation : Operation) (fault : Fault) : Diagnostic :=
  ⟨.error, .analysisFailed, "Analysis failed: " ++ fault.message, operation.range⟩

/-- What a session has learned. -/
structure Session where
  /-- The results by query text. -/
  results : Entries String Described
  /-- All texts that were sent out, in order. -/
  sent : List String

namespace Session

/-- A session that has learned nothing. -/
def start : Session :=
  ⟨[], []⟩

/-- Describe a query, from memory if possible. -/
def describe (ask : Describer) (session : Session) (query : String) :
    Except Fault Described × Session :=
  match session.results.get? query with
  | some result => (.ok result, session)
  | none =>
    let reply := ask query
    let sent := session.sent ++ reply.sent
    match reply.result with
    | .ok result => (.ok result, ⟨session.results.put query result, sent⟩)
    | .error fault => (.error fault, ⟨session.results, sent⟩)

/-- Analyse a call site. -/
def analyze (ask : Describer) (session : Session) (operation : Operation) :
    Except Fault (List Diagnostic) × Session :=
  match operation.query with
  | none => (operation.findings fun query => (ask query).result, session)
  | some query =>
    let (result, next) := session.describe ask query
    (operation.findings fun _ => result, next)

/-- Analyse a call site whose fault is a finding. -/
def analyzeIsolated (ask : Describer) (session : Session) (operation : Operation) :
    List Diagnostic × Session :=
  match session.analyze ask operation with
  | (.ok diagnostics, next) => (diagnostics, next)
  | (.error fault, next) => ([operation.analysisFailed fault], next)

/-- Analyse a batch of call sites; the findings come in the order of the call sites. -/
def analyzeAll (ask : Describer) (session : Session) :
    List Operation → List (List Diagnostic) × Session
  | [] => ([], session)
  | operation :: rest =>
    let (diagnostics, next) := session.analyzeIsolated ask operation
    let (others, last) := analyzeAll ask next rest
    (diagnostics :: others, last)

end Session

end QueryAudit
