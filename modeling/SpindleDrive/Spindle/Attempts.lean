import SpindleDrive.DriverError

/-!
# Attempts at an exchange

A blocking exchange that fails is tried again at once, a given number of times; one that does not
block is tried once, and its failure is passed over.

* `OperationState` — where the exchange of an operation stands.
* `sendRepeatedly` — the blocking exchange; after each failure it is told which attempt failed.
* `sendOnce` — the other one.

Both work over any monad that can send, so they can be run on a transport alone as well as from
within the driver.
-/

namespace SpindleDrive

/-- Where an operation stands. -/
inductive OperationState where
  | idle
  /-- The first attempt is under way. -/
  | sending
  /-- The attempt with this number failed, and the next is under way. -/
  | retrying (attempt : Nat)
  /-- The last exchange used up all its attempts. -/
  | failed
  deriving DecidableEq, Repr, Inhabited

namespace OperationState

/-- An operation that is under way refuses to be started again. -/
def isBusy : OperationState → Bool
  | sending | retrying _ => true
  | idle | failed => false

def isFailed : OperationState → Bool
  | failed => true
  | _ => false

/-- Where an operation stands when its exchange is over. -/
def after {ε α : Type} : Except ε α → OperationState
  | .ok _ => idle
  | .error _ => failed

end OperationState

/-- What one exchange gives: a reply that is there already, or none yet. -/
abbrev Exchange := Except TransportError (Option Reply)

variable {m : Type → Type} [Monad m]

/-- Tries up to `left` more times, the next attempt having the given number; `last` is the error
to give when no attempt is left. -/
def attempt (send : m Exchange) (onFailure : Nat → m Unit) :
    (left number : Nat) → (last : TransportError) → m Exchange
  | 0, _, last => pure (.error last)
  | left + 1, number, _ => do
    match ← send with
    | .ok reply => pure (.ok reply)
    | .error e =>
      onFailure number
      attempt send onFailure left (number + 1) e

/-- Sends a request and waits for it, up to `retries` times and at least once. -/
def sendRepeatedly (send : Request → SendMode → m Exchange) (request : Request) (retries : Nat)
    (onFailure : Nat → m Unit) : m (Except DriverError (Option Reply)) := do
  let attempts := max retries 1
  match ← attempt (send request .blocking) onFailure attempts 1 .timeout with
  | .ok reply => return .ok reply
  | .error last => return .error (.exhausted request.kind attempts last)

/-- Sends a request once without waiting; a failure leaves no trace. -/
def sendOnce (send : Request → SendMode → m Exchange) (request : Request) : m (Option Reply) := do
  match ← send request .nonBlocking with
  | .ok reply => return reply
  | .error _ => return none

end SpindleDrive
