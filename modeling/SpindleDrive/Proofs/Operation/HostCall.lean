import Mathlib.Control.Monad.Basic
import SpindleDrive.Proofs.Operation.Rules

/-!
# The calls of a host

Everything that a host can have a spindle do, as one type, so that a statement about all of it is
one statement.

* `HostCall`, `Answer` — the calls and what comes back.
* `HostCall.waits`, `HostCall.refusal?` — whether a call waits for the drive, and whether it is
  refused at once.
* `Spindle.carryOut`, `Spindle.carryOutWith` — the operation that a call is, and the same with any
  receiver of replies.
* `Spindle.leads_refused` — a call that is refused does nothing else.
-/

namespace SpindleDrive

/-- A call by the host. -/
inductive HostCall where
  | bind (selection : Selection)
  | applySettings (settings : HostSettings) (changed : SettingsChanged)
  | setState (state : SpindleState) (rpm : Binary32)
  | setSpeed (rpm : Binary32) (blocking : Bool)
  | getState
  | getData
  | requestMaxSpeed
  | deliver (reply : Reply)
  deriving DecidableEq, Repr

namespace HostCall

/-- Whether the caller waits until the drive has taken a command. -/
def waits : HostCall → Bool
  | setState .. => true
  | setSpeed _ blocking => blocking
  | _ => false

/-- Why a spindle in this state refuses a call at once, if it does. -/
def refusal? (c : SpindleContext) : HostCall → Option DriverError
  | setState .. =>
    if !c.isSelected then some .notSelected
    else if c.statusOp.isBusy then some (.reentrant .setStatus)
    else none
  | setSpeed .. =>
    if !c.isSelected then some .notSelected
    else if c.speedOp.isBusy then some (.reentrant .setSpeed)
    else none
  | requestMaxSpeed => if !c.isSelected then some .notSelected else none
  | _ => none

end HostCall

/-- What a call gives back. -/
inductive Answer where
  | done
  | outcome (result : Except DriverError Unit)
  | state (state : SpindleState)
  | data (data : SpeedData)
  deriving DecidableEq, Repr

namespace Answer

/-- Whether the call failed because every attempt at an exchange did. -/
def isExhausted : Answer → Bool
  | outcome (.error (.exhausted ..)) => true
  | _ => false

/-- Whether a call for a speed has programmed one: it was not refused, and if it was a command the
drive could be reached for it. -/
def isProgrammed : Answer → Bool
  | outcome (.ok ()) => true
  | outcome (.error (.exhausted .setSpeed ..)) => true
  | _ => false

end Answer

namespace Spindle

/-- The operation that a call is. -/
def carryOut {World : Type} (s : Spindle) (env : Surroundings World) (patience : Nat) :
    HostCall → Operation World Answer
  | .bind selection => (fun _ => .done) <$> s.bind env patience selection
  | .applySettings settings changed => (fun _ => .done) <$> applySettings env settings changed
  | .setState state rpm => .outcome <$> s.setState env patience state rpm
  | .setSpeed rpm blocking => .outcome <$> s.setSpeed env patience rpm blocking
  | .getState => .state <$> s.getState env patience
  | .getData => .data <$> getData
  | .requestMaxSpeed => .outcome <$> s.requestMaxSpeed env patience
  | .deliver reply => (fun _ => .done) <$> s.deliver env patience reply

/-- The operation that a call is, with any receiver of replies. -/
def carryOutWith {World : Type} (s : Spindle) (env : Surroundings World)
    (onReply : Reply → Operation World Unit) : HostCall → Operation World Answer
  | .bind selection => (fun _ => .done) <$> s.bindWith env onReply selection
  | .applySettings settings changed => (fun _ => .done) <$> applySettings env settings changed
  | .setState state rpm => .outcome <$> s.setStateWith env onReply state rpm
  | .setSpeed rpm blocking => .outcome <$> s.sendSpeed env onReply rpm blocking
  | .getState => .state <$> s.getStateWith env onReply
  | .getData => .data <$> getData
  | .requestMaxSpeed => .outcome <$> s.requestMaxSpeedWith env onReply
  | .deliver reply => (fun _ => .done) <$> onReply reply

lemma carryOut_eq_with {World : Type} (s : Spindle) (env : Surroundings World) (patience : Nat) :
    s.carryOut env patience = s.carryOutWith env (s.deliver env patience) := by
  funext call
  cases call <;> rfl

/-- A spindle to try things on, with two attempts at each exchange, and its first state. -/
def sample : Spindle × SpindleContext :=
  (make ⟨0⟩ { retries := 2 }).toOption.get rfl

/-- The first state of a spindle to try things on, once it is selected. -/
def sampleSelected : SpindleContext :=
  { sample.2 with selection := some ⟨⟨0⟩, 0⟩ }

end Spindle

open Operation

/-- A call that is refused does nothing else. -/
lemma Spindle.leads_refused {World : Type} {s : Spindle} {env : Surroundings World}
    {patience : Nat} {c : SpindleContext} {w : World} {call : HostCall} {e : DriverError}
    (h : call.refusal? c = some e) :
    Leads (s.carryOut env patience call)
      (fun r c' w' => r = some (.outcome (.error e)) ∧ c' = c ∧ w' = w) c w := by
  cases call with
  | setState state rpm =>
      rw [HostCall.refusal?] at h
      simp only [carryOut, leads_map]
      refine leads_setState (fun hsel => ?_) (fun hsel hbusy => ?_) fun hsel hbusy => ?_
      · simp_all
      · simp_all
      · simp [hsel, hbusy] at h
  | setSpeed rpm blocking =>
      rw [HostCall.refusal?] at h
      simp only [carryOut, leads_map]
      refine leads_sendSpeed (fun hsel => ?_) (fun hsel hbusy => ?_) fun hsel hbusy => ?_
      · simp_all
      · simp_all
      · simp [hsel, hbusy] at h
  | requestMaxSpeed =>
      rw [HostCall.refusal?] at h
      simp only [carryOut, leads_map]
      refine leads_requestMaxSpeed (fun hsel => ?_) (fun hsel _ => ?_) fun hsel _ _ => ?_
      · simp_all
      · simp [hsel] at h
      · simp [hsel] at h
  | bind | applySettings | getState | getData | deliver => simp [HostCall.refusal?] at h

end SpindleDrive
