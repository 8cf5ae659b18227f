import QueryAudit.Describe

/-!
# Failures

What the parts of the library hand on when they fail: a database that cannot be reached or read ends
a session, and a rejected query concerns its call site alone. Two failures are the same when they
are of one kind and have one message; where a query was rejected does not count.
-/

namespace QueryAudit

/-- The kinds of failures. -/
inductive FailureKind where
  /-- Any failure. -/
  | general
  /-- The database cannot be reached or read. -/
  | connection
  /-- A query was rejected. -/
  | rejection
  deriving DecidableEq

/-- A failure. -/
inductive Failure where
  /-- Any failure. -/
  | general (message : String)
  /-- The database cannot be reached or read. -/
  | connection (message : String)
  /-- A query was rejected. -/
  | rejected (rejection : Rejection)
  deriving DecidableEq

namespace Failure

/-- The kind of a failure. -/
def kind : Failure → FailureKind
  | .general _ => .general
  | .connection _ => .connection
  | .rejected _ => .rejection

/-- The message of a failure. -/
def message : Failure → String
  | .general message => message
  | .connection message => message
  | .rejected rejection => rejection.message

/-- What tells failures apart. -/
def identity (failure : Failure) : FailureKind × String :=
  (failure.kind, failure.message)

/-- Whether two failures are the same. -/
def same (left right : Failure) : Bool :=
  left.identity == right.identity

/-- Being the same is to have the same identity. -/
theorem same_iff (left right : Failure) :
    left.same right = true ↔ left.identity = right.identity := by
  simp [same]

end Failure

end QueryAudit
