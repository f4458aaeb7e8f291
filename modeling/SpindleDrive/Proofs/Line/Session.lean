import SpindleDrive.Proofs.Line.Basic

/-!
# Sessions of a host

A bus may hand over every reply at once, or keep those that nobody waits for until the host fetches
them.  Here is a host that fetches after every call, and goes on until nothing waits: a reply that
is delivered can make the spindle send a speed again, whose reply then waits in turn.

* `Line.drain`, `Line.drainAll` — the replies are fetched, round after round.
* `Line.serve` — a call, after which the replies are fetched.
* `Event`, `Line.session` — what can happen in a session, and all of it.
-/

namespace SpindleDrive

open Operation

namespace Line

/-- More steps than reading replies can take, as in the simulation. -/
def patience : Operation Line Nat :=
  fun (c, l) => (some (c.inbox.length + l.refusals.length + 8), (c, l))

@[simp] lemma leads_patience {Q : Option Nat → SpindleContext → Line → Prop} {c : SpindleContext}
    {l : Line} :
    Leads patience Q c l ↔ Q (some (c.inbox.length + l.refusals.length + 8)) c l :=
  Iff.rfl

def deliver (s : Spindle) (reply : Reply) : Operation Line Unit := do
  let n ← patience
  s.deliver (surroundings s.id) n reply

/-- Takes the replies that wait on the bus, and delivers each. -/
def pump (s : Spindle) : Operation Line Unit := do
  let pending ← observe (·.rig.bus.pending)
  affect fun l => { l with rig := l.rig.modifyBus (·.takePending.2) }
  pending.forM (deliver s)

/-- Fetches replies until none waits, in at most so many rounds. -/
def drain (s : Spindle) : Nat → Operation Line Unit
  | 0 => diverge
  | rounds + 1 => do
    let pending ← observe (·.rig.bus.pending)
    if pending.isEmpty then pure ()
    else
      pump s
      drain s rounds

def drainAll (s : Spindle) : Operation Line Unit := do
  let rounds ← patience
  drain s rounds

/-- An operation, after which the replies are fetched. -/
def drained {α : Type} (s : Spindle) (op : Operation Line α) : Operation Line α := do
  let result ← op
  drainAll s
  return result

/-- A call, after which the replies are fetched. -/
def serve (s : Spindle) (call : HostCall) : Operation Line Answer := do
  let n ← patience
  drained s (s.carryOut (surroundings s.id) n call)

/-- What can change from outside between two calls. -/
structure Conditions where
  elapsed : UInt64
  coldStart : Bool
  up : Bool
  failing : Nat
  faults : List (Option TransportError)
  refusals : List ExceptionCode

def Conditions.apply (k : Conditions) (l : Line) : Line :=
  { l with
    faults := k.faults
    rig :=
      { l.rig with
        host := { l.rig.host with elapsed := k.elapsed, coldStart := k.coldStart }
        bus :=
          { l.rig.bus with up := k.up, failing := k.failing, refusals := k.refusals } } }

end Line

/-- What happens in a session: a call with the fetching of its replies, or a change of the
conditions. -/
inductive Event where
  | call (hostCall : HostCall)
  | change (conditions : Line.Conditions)

/-- One thing that happens, with the answer if it is a call. -/
def Event.run (s : Spindle) : Event → Operation Line (Option Answer)
  | .call hostCall => some <$> Line.serve s hostCall
  | .change conditions => do
    affect conditions.apply
    return none

def Line.session (s : Spindle) : List Event → Operation Line (List (Option Answer))
  | [] => pure []
  | event :: rest => do
    let answer ← event.run s
    let answers ← Line.session s rest
    return answer :: answers

end SpindleDrive
