import ModelVault.Service.Deadline
import ModelVault.Service.Status

/-!
A value that is set once and that any number of parties wait for. Each wait goes through phases, and
between two of them anybody else may act: it looks at the value, then begins to watch, then ends with
the value or at its deadline, whichever its next look finds, and the value counts when both are there.
-/

namespace ModelVault

/-- Why setting or waiting failed. -/
inductive PromiseError where
  | alreadySet
  | deadlineExceeded
  | closed
  deriving DecidableEq, Repr

def PromiseError.message : PromiseError → String
  | alreadySet => "promise has already been set"
  | deadlineExceeded => "deadline exceeded while waiting for the backend to be ready"
  | closed => "promise was abandoned before being set"

/-- The status of a request that fails so. -/
def PromiseError.status (failure : PromiseError) : Status where
  code := if failure = deadlineExceeded then .deadlineExceeded else .internal
  message := failure.message

/-- Where a wait stands. -/
inductive WaitPhase (α : Type) where
  | started
  | lookedInVain
  | watching
  | ended (outcome : Except PromiseError α)

/-- A party that waits, until a deadline in milliseconds if it has one. -/
structure Wait (α : Type) where
  name : String
  deadline : Option Nat
  phase : WaitPhase α

/-- A value that may have been set, the time in milliseconds, and those who wait. -/
structure Promise (α : Type) where
  value? : Option α
  clock : Nat
  waits : List (Wait α)

namespace Wait

variable {α : Type}

/-- The deadline has passed at a time. -/
def isDue (wait : Wait α) (clock : Nat) : Bool :=
  wait.deadline.any (· ≤ clock)

/-- The next phase of a wait. -/
def advance (value? : Option α) (clock : Nat) (wait : Wait α) : Wait α :=
  match wait.phase with
  | .started =>
    match value? with
    | some value => { wait with phase := .ended (.ok value) }
    | none => { wait with phase := .lookedInVain }
  | .lookedInVain => { wait with phase := .watching }
  | .watching =>
    match value? with
    | some value => { wait with phase := .ended (.ok value) }
    | none =>
      if wait.isDue clock then { wait with phase := .ended (.error .deadlineExceeded) } else wait
  | .ended _ => wait

/-- Advance until the wait has ended or watches. -/
def poll (value? : Option α) (clock : Nat) (wait : Wait α) : Wait α :=
  ((wait.advance value? clock).advance value? clock).advance value? clock

/-- What the wait ended with. -/
def outcome? (wait : Wait α) : Option (Except PromiseError α) :=
  match wait.phase with
  | .ended outcome => some outcome
  | _ => none

end Wait

namespace Promise

variable {α : Type}

/-- A promise that nobody has set or waits for, at the beginning of time. -/
def new : Promise α := ⟨none, 0, []⟩

/-- Set the value, which only the first can, and wake everybody who waits. -/
def set (value : α) (promise : Promise α) : Except PromiseError Unit × Promise α :=
  match promise.value? with
  | some _ => (.error .alreadySet, promise)
  | none =>
    (.ok (), { promise with
      value? := some value
      waits := promise.waits.map (·.poll (some value) promise.clock) })

/-- The deadline, in milliseconds, of a wait that begins now. -/
def deadline? (promise : Promise α) (timeout : Option Nat) : Option Nat :=
  (Deadline.left? timeout).map fun nanos => promise.clock + Deadline.ticks nanos

/-- Begin a wait and let it go as far as it gets. -/
def start (name : String) (deadline : Option Nat) (promise : Promise α) : Promise α :=
  let wait : Wait α := ⟨name, deadline, .started⟩
  { promise with waits := promise.waits ++ [wait.poll promise.value? promise.clock] }

/-- Let everybody who waits look again. -/
def settle (promise : Promise α) : Promise α :=
  { promise with waits := promise.waits.map (·.poll promise.value? promise.clock) }

/-- Let time pass until `clock`. Waits that are due by then have ended, but for those whose deadline is
this very moment. -/
def elapse (clock : Nat) (promise : Promise α) : Promise α :=
  { promise with
    clock := max promise.clock clock
    waits := promise.waits.map fun wait =>
      if promise.clock < clock then wait.poll promise.value? (clock - 1) else wait }

def wait? (name : String) (promise : Promise α) : Option (Wait α) :=
  promise.waits.find? (·.name = name)

def drop (name : String) (promise : Promise α) : Promise α :=
  { promise with waits := promise.waits.filter (·.name ≠ name) }

/-- Wait with nobody acting in between; without an outcome when nothing ends the wait. -/
def await (deadline : Option Nat) (promise : Promise α) : Option (Except PromiseError α) × Promise α :=
  match promise.value?, deadline with
  | some value, _ => (some (.ok value), promise)
  | none, some due => (some (.error .deadlineExceeded), promise.elapse due)
  | none, none => (none, promise)

/-- Let time pass until the wait of a name ends; without an outcome when nothing ends it. -/
def join (name : String) (promise : Promise α) : Option (Except PromiseError α) × Promise α :=
  let promise := promise.settle
  match promise.wait? name with
  | none => (none, promise)
  | some wait =>
    match wait.outcome?, wait.deadline with
    | some outcome, _ => (some outcome, promise)
    | none, some due => (some (.error .deadlineExceeded), (promise.elapse due).settle)
    | none, none => (none, promise)

end Promise

end ModelVault
