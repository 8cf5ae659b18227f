import QueryAudit.Session

/-!
# Callers at the same time

The describer of a session may be called by many threads. Every query text has a lock of its own,
which is made when the text first comes up; the table of locks is itself behind a guard. A caller
takes the guard only to get the lock of its text. Under that lock it looks for a result, asks the
inner describer when there is none, and keeps the answer; a fault goes to the caller and is not kept.

A step is what one caller does at once, and callers take steps in any order. The inner describer is
not described here: it answers anything, or it raises.
-/

namespace QueryAudit.Callers

/-- How far a caller is that has the guard. -/
inductive Fetching where
  /-- It has taken the guard. -/
  | begun
  /-- The text has no lock yet. -/
  | missing
  /-- The lock of the text is at hand. -/
  | found (lock : Nat)

/-- How far a caller is that has the lock of its text. -/
inductive Stage where
  /-- It has acquired the lock. -/
  | entered
  /-- There is no result for the text. -/
  | missed
  /-- The inner describer is at work. -/
  | asking
  /-- The inner describer has answered. -/
  | answered (value : Described)
  /-- There is a result for the text. -/
  | ready
  /-- The lock is about to be released, and the call to end. -/
  | returning (result : Except Fault Described)

/-- Where a caller is. -/
inductive Point where
  /-- The call has begun. -/
  | called
  /-- The caller has the guard. -/
  | fetching (stage : Fetching)
  /-- The caller waits for the lock of its text. -/
  | waiting (lock : Nat)
  /-- The caller has the lock of its text. -/
  | holding (lock : Nat) (stage : Stage)
  /-- The call has ended: it has returned a result or raised a fault. -/
  | left (result : Except Fault Described)

/-- What the callers share, and where each of them is. -/
structure State (ι : Type) where
  /-- Who has the guard. -/
  guard : Option ι
  /-- The locks by query text. -/
  locks : Entries String Nat
  /-- Who has a lock. -/
  holders : Nat → Option ι
  /-- The results by query text. -/
  results : Entries String Described
  /-- Where the callers are. -/
  points : ι → Point

/-- What a caller can do. -/
inductive Act where
  /-- Take the guard. -/
  | takeGuard
  /-- Look up the lock of the text. -/
  | findLock
  /-- Make a lock for the text. -/
  | makeLock
  /-- Give the guard back. -/
  | leaveGuard
  /-- Acquire the lock of the text. -/
  | acquire
  /-- Look for a result. -/
  | look
  /-- Call the inner describer. -/
  | ask
  /-- Get the answer of the inner describer, or what it raises. -/
  | answer (result : Except Fault Described)
  /-- Keep the answer. -/
  | store
  /-- Read the result. -/
  | read
  /-- Release the lock and end the call. -/
  | release

variable {ι : Type}

/-- No caller has taken a step, and nothing is known. A call that comes up later takes its first step
later. -/
def start : State ι :=
  ⟨none, [], fun _ => none, [], fun _ => .called⟩

namespace State

/-- One caller is at another point. -/
def move [DecidableEq ι] (s : State ι) (caller : ι) (point : Point) : State ι :=
  { s with points := fun other => if other = caller then point else s.points other }

/-- The guard has another holder, or none. -/
def setGuard (s : State ι) (holder : Option ι) : State ι :=
  { s with guard := holder }

/-- A new lock is entered for a text. -/
def addLock (s : State ι) (text : String) : State ι :=
  { s with locks := s.locks.put text s.locks.length }

/-- One lock has another holder, or none. -/
def setHolder (s : State ι) (lock : Nat) (holder : Option ι) : State ι :=
  { s with holders := fun other => if other = lock then holder else s.holders other }

/-- The result of a text is kept. -/
def keep (s : State ι) (text : String) (result : Described) : State ι :=
  { s with results := s.results.put text result }

end State

/-- What one caller can do in a state, given the query texts of the callers. -/
inductive Step [DecidableEq ι] (texts : ι → String) (s : State ι) (c : ι) : Act → State ι → Prop
  /-- The guard is free. -/
  | takeGuard (point : s.points c = .called) (free : s.guard = none) :
      Step texts s c .takeGuard ((s.setGuard (some c)).move c (.fetching .begun))
  /-- The text has a lock. -/
  | lockFound {lock : Nat} (point : s.points c = .fetching .begun)
      (found : s.locks.get? (texts c) = some lock) :
      Step texts s c .findLock (s.move c (.fetching (.found lock)))
  /-- The text has no lock. -/
  | lockMissing (point : s.points c = .fetching .begun)
      (missing : s.locks.get? (texts c) = none) :
      Step texts s c .findLock (s.move c (.fetching .missing))
  /-- The text gets a lock. -/
  | makeLock (point : s.points c = .fetching .missing) :
      Step texts s c .makeLock
        ((s.addLock (texts c)).move c (.fetching (.found s.locks.length)))
  /-- The guard is free again. -/
  | leaveGuard {lock : Nat} (point : s.points c = .fetching (.found lock)) :
      Step texts s c .leaveGuard ((s.setGuard none).move c (.waiting lock))
  /-- The lock is free. -/
  | acquire {lock : Nat} (point : s.points c = .waiting lock) (free : s.holders lock = none) :
      Step texts s c .acquire ((s.setHolder lock (some c)).move c (.holding lock .entered))
  /-- There is a result. -/
  | resultFound {lock : Nat} {value : Described} (point : s.points c = .holding lock .entered)
      (found : s.results.get? (texts c) = some value) :
      Step texts s c .look (s.move c (.holding lock .ready))
  /-- There is no result. -/
  | resultMissing {lock : Nat} (point : s.points c = .holding lock .entered)
      (missing : s.results.get? (texts c) = none) :
      Step texts s c .look (s.move c (.holding lock .missed))
  /-- The inner describer begins. -/
  | ask {lock : Nat} (point : s.points c = .holding lock .missed) :
      Step texts s c .ask (s.move c (.holding lock .asking))
  /-- The inner describer returns. -/
  | answered {lock : Nat} {value : Described} (point : s.points c = .holding lock .asking) :
      Step texts s c (.answer (.ok value)) (s.move c (.holding lock (.answered value)))
  /-- The inner describer raises, and the fault goes on to the caller. -/
  | raised {lock : Nat} {fault : Fault} (point : s.points c = .holding lock .asking) :
      Step texts s c (.answer (.error fault)) (s.move c (.holding lock (.returning (.error fault))))
  /-- The answer is kept. -/
  | store {lock : Nat} {value : Described} (point : s.points c = .holding lock (.answered value)) :
      Step texts s c .store ((s.keep (texts c) value).move c (.holding lock .ready))
  /-- The result is read. -/
  | read {lock : Nat} {value : Described} (point : s.points c = .holding lock .ready)
      (found : s.results.get? (texts c) = some value) :
      Step texts s c .read (s.move c (.holding lock (.returning (.ok value))))
  /-- The lock is free again, and the call has ended. -/
  | release {lock : Nat} {result : Except Fault Described}
      (point : s.points c = .holding lock (.returning result)) :
      Step texts s c .release ((s.setHolder lock none).move c (.left result))

/-- The states that the callers can come to, each taking its steps in any order. -/
inductive Reaches [DecidableEq ι] (texts : ι → String) (s : State ι) : State ι → Prop
  /-- No step. -/
  | refl : Reaches texts s s
  /-- One more step. -/
  | step {before after : State ι} {c : ι} {act : Act} (reaches : Reaches texts s before)
      (step : Step texts before c act after) : Reaches texts s after

end QueryAudit.Callers
