import QueryAudit.Callers

/-!
# Batches in any order

Nothing says in which order a session comes to the call sites of a batch. They may be analysed one
after the other in any order, or at the same time, each in a thread of its own that is a caller of
the describer. The findings are put together in the order of the call sites in all cases.

What the describer says about a text is fixed here, as far as it does not fail by chance, and it is
written down which texts it is asked for.
-/

namespace QueryAudit

/-- A describer with a fixed outcome for every text, which tells for what it is asked. -/
def Describer.recording (outcome : String → Except Fault Described) : Describer :=
  fun query => ⟨outcome query, [query]⟩

/-- The findings about a call site when a fault becomes a finding. -/
def Operation.isolated (operation : Operation) (describe : String → Except Fault Described) :
    List Diagnostic :=
  match operation.findings describe with
  | .ok diagnostics => diagnostics
  | .error fault => [operation.analysisFailed fault]

/-- Analyse call sites, each given with its place in the batch, one after the other; the findings
come in the order of the places. -/
def Session.analyzeInOrder (ask : Describer) (session : Session)
    (executed : List (Operation × Nat)) : List (List Diagnostic) × Session :=
  let (found, last) := session.analyzeAll ask (executed.map Prod.fst)
  let placed := (executed.map Prod.snd).zip found
  ((placed.mergeSort fun a b => decide (a.1 ≤ b.1)).map Prod.snd, last)

namespace Callers

variable {ι : Type} [DecidableEq ι]

/-- Whether a step calls the inner describer. -/
def Act.isAsk : Act → Bool
  | .ask => true
  | _ => false

/-- Only the given answer of the inner describer is possible. -/
def Act.Fits (answer : Except Fault Described) : Act → Prop
  | .answer result => result = answer
  | _ => True

/-- The states that callers of a describer with fixed outcomes can come to, each taking its steps in
any order, with the callers that have called the inner describer by then. -/
inductive Runs (texts : ι → String) (outcome : String → Except Fault Described) :
    State ι → List ι → Prop
  /-- No step. -/
  | start : Runs texts outcome start []
  /-- One more step. -/
  | step {before after : State ι} {asked : List ι} {c : ι} {act : Act}
      (runs : Runs texts outcome before asked) (step : Step texts before c act after)
      (fits : act.Fits (outcome (texts c))) :
      Runs texts outcome after (if act.isAsk then asked ++ [c] else asked)

/-- No caller can take another step. -/
def Rests (texts : ι → String) (outcome : String → Except Fault Described) (s : State ι) : Prop :=
  ∀ c act s', Step texts s c act s' → ¬ act.Fits (outcome (texts c))

end Callers

namespace Batch

/-- A call site of a batch that has a query text, by its place: the caller in its thread. -/
abbrev Site (operations : List Operation) : Type :=
  {place : Fin operations.length // (operations.get place).query.isSome = true}

variable {operations : List Operation}

/-- The query text of a call site. -/
def Site.text (site : Site operations) : String :=
  (operations.get site.1).query.get site.2

/-- The findings of a thread: what the analysis makes of the result of the call, once it has ended.
A thread without a query text calls nobody. -/
def threadFindings (s : Callers.State (Site operations)) (place : Fin operations.length) :
    List Diagnostic :=
  let operation := operations.get place
  if hasText : operation.query.isSome = true then
    match s.points ⟨place, hasText⟩ with
    | .left result => operation.isolated fun _ => result
    | _ => []
  else operation.isolated fun _ => .error (.raised "")

/-- The findings of all threads, in the order of the call sites. -/
def findings (s : Callers.State (Site operations)) : List (List Diagnostic) :=
  List.ofFn (threadFindings s)

end Batch

end QueryAudit
