import QueryAudit.Query.Call
import QueryAudit.Query.Placeholder
import QueryAudit.Snapshot
import QueryAudit.Description

/-!
# The function registry

A query that calls one user function can be described from the signature alone. The registry settles
a call only when a single overload fits, when it returns one plain value, and when every argument
that has a placeholder is a placeholder and nothing else.
-/

namespace QueryAudit.Registry

/-- The overloads that a call can mean: as many parameters as arguments, and the schema if the call
names one. -/
def candidates (snapshot : Snapshot) (call : Query.Call) : List Signature :=
  (snapshot.overloads call.name).filter fun signature =>
    signature.arity == call.arguments.length &&
      (call.schemaName.isNone || call.schemaName == some signature.schemaName)

/-- Whether an overload returns one plain value. -/
def returnsPlain (signature : Signature) : Bool :=
  !signature.returnsSet && !signature.returnsComposite

/-- What an argument says about the parameters. -/
inductive Finding where
  /-- The argument has no placeholder. -/
  | nothing
  /-- The argument is the placeholder with this position. -/
  | position (n : Nat)
  /-- The argument has a placeholder inside an expression, or one that was not numbered. -/
  | unsettled
  deriving DecidableEq

/-- Look at an argument. -/
def inspect (rewritten : Query.Rewritten) (argument : String) :
    Except Text.NumeralError Finding := do
  match ← Query.barePlaceholder? argument.toList with
  | none => return if Query.hasPlaceholders argument.toList then .unsettled else .nothing
  | some (.positional n) => return .position n
  | some (.named name) =>
    match rewritten.positionOf? name with
    | some n => return .position n
    | none => return .unsettled

/-- The positions of the placeholders among the arguments, each with the type of the first parameter
where it occurs; none when an argument is unsettled. -/
def collect (rewritten : Query.Rewritten) (known : Entries Nat DataType) :
    List (String × DataType) → Except Text.NumeralError (Option (Entries Nat DataType))
  | [] => .ok (some known)
  | (argument, type) :: rest => do
    match ← inspect rewritten argument with
    | .unsettled => return none
    | .nothing => collect rewritten known rest
    | .position n => collect rewritten (known.putNew n type) rest

/-- The description of a call of the given overload, if its arguments are settled. -/
def describeWith (signature : Signature) (call : Query.Call) (rewritten : Query.Rewritten) :
    Except Text.NumeralError (Option Description) := do
  match ← collect rewritten [] (call.arguments.zip signature.parameterTypes) with
  | none => return none
  | some positions =>
    let sorted := positions.mergeSort fun a b => decide (a.1 ≤ b.1)
    return some
      { parameters := sorted.map fun (n, type) => ⟨n, rewritten.nameAt? n, type⟩
        columns := [⟨signature.name, signature.returnType, true, false⟩] }

/-- The description of a call, if the registry settles it. -/
def describe (snapshot : Snapshot) (call : Query.Call) (rewritten : Query.Rewritten) :
    Except Text.NumeralError (Option Description) :=
  match candidates snapshot call with
  | [signature] =>
    if returnsPlain signature then describeWith signature call rewritten else .ok none
  | _ => .ok none

end QueryAudit.Registry
