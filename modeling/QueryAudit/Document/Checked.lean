import QueryAudit.Document

/-!
# Checked values

Reading a record from a document either gives the record or all the issues of the document, each
with the path from the root to the place where it lies. The parts of a record are checked
independently, so their issues add up in the order of the parts.
-/

namespace QueryAudit

/-- One step from a document into it. -/
inductive Step where
  /-- To the value of a key. -/
  | key (name : String)
  /-- To an item of a list, or to the value of a key that is a number. -/
  | index (n : Int)
  deriving DecidableEq

/-- What is wrong at a place. -/
inductive Cause where
  /-- A required field has no value. -/
  | missing
  /-- No field has this name. -/
  | unknownField
  /-- The key of a field is not a text. -/
  | keyNotText
  /-- Not a text. -/
  | notText
  /-- Octets that are no text. -/
  | notUnicode
  /-- Nothing that could be an integer. -/
  | notInteger
  /-- A text that is not a decimal numeral. -/
  | notNumeral
  /-- A number with a fraction. -/
  | fraction
  /-- A number that is out of reach. -/
  | outOfRange
  /-- An infinity, or not a number. -/
  | notFinite
  /-- Nothing that could be a truth value. -/
  | notBoolean
  /-- A text or an integer that does not stand for a truth value. -/
  | notTruthValue
  /-- Not a list. -/
  | notList
  /-- Not an object that maps keys to values. -/
  | notMapping
  /-- Not an object with the fields of a record. -/
  | notRecord
  /-- A record inside itself, or too many of one kind inside one another. -/
  | endless
  /-- Not a member of a closed vocabulary. -/
  | notMember
  /-- Records cannot be changed. -/
  | frozen
  /-- The parts are right and do not fit together. -/
  | inconsistent (reason : String)
  deriving DecidableEq

/-- Something wrong with a document. -/
structure Issue where
  /-- The way from the root to the place. -/
  path : List Step
  /-- What is wrong there. -/
  cause : Cause
  deriving DecidableEq

/-- A value read from a document, or everything that is wrong with the document. -/
inductive Checked (α : Type) where
  /-- The value. -/
  | ok (value : α)
  /-- The issues. -/
  | bad (issues : List Issue)

namespace Checked

variable {α β : Type}

/-- A single issue at the root. -/
def fail (cause : Cause) : Checked α :=
  .bad [⟨[], cause⟩]

/-- Apply a function to the value. -/
def map (f : α → β) : Checked α → Checked β
  | .ok value => .ok (f value)
  | .bad issues => .bad issues

/-- Combine two independent checks; the issues of both are kept. -/
def both (f : Checked (α → β)) (x : Checked α) : Checked β :=
  match f, x with
  | .ok f, .ok value => .ok (f value)
  | .ok _, .bad issues => .bad issues
  | .bad issues, .ok _ => .bad issues
  | .bad first, .bad second => .bad (first ++ second)

instance : Functor Checked where
  map := map

instance : Applicative Checked where
  pure := .ok
  seq f x := both f (x ())

/-- Go on only when the value is there. -/
def andThen (x : Checked α) (next : α → Checked β) : Checked β :=
  match x with
  | .ok value => next value
  | .bad issues => .bad issues

/-- Place a check below a step: the paths of its issues start with the step. -/
def below (step : Step) : Checked α → Checked α
  | .ok value => .ok value
  | .bad issues => .bad (issues.map fun issue => { issue with path := step :: issue.path })

/-- Check the items of a list, counted from `start`. -/
def itemsFrom (check : α → Checked β) (start : Nat) : List α → Checked (List β)
  | [] => .ok []
  | item :: rest =>
    List.cons <$> below (.index start) (check item) <*> itemsFrom check (start + 1) rest

/-- The result as an exception. -/
def toExcept : Checked α → Except (List Issue) α
  | .ok value => .ok value
  | .bad issues => .error issues

@[simp] theorem map_ok (f : α → β) (value : α) : f <$> (Checked.ok value) = .ok (f value) := rfl

@[simp] theorem seq_ok (f : α → β) (value : α) :
    (Checked.ok f <*> Checked.ok value) = .ok (f value) := rfl

@[simp] theorem pure_eq (value : α) : (pure value : Checked α) = .ok value := rfl

@[simp] theorem below_ok (step : Step) (value : α) : below step (.ok value) = .ok value := rfl

@[simp] theorem andThen_ok (value : α) (next : α → Checked β) :
    andThen (.ok value) next = next value := rfl

end Checked

end QueryAudit
