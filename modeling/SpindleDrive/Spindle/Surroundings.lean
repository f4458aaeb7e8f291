import SpindleDrive.Spindle.Context

/-!
# What a spindle acts on

An operation of a spindle changes the spindle's own state and that of everything around it: the
transport, the host, and the descriptor that it shares with the host.

* `Surroundings` — what an operation can ask of a world of any type.
* `Operation` — a change of a spindle's state and of the world, with a result.  An operation that
  never comes back, because it waits for a transport that waits for it, has none; what it has done
  until then stays done.

An exchange sees the state of the spindle and may change it, since the transport may call the
spindle before the exchange is over.  Whatever reply is read is entered in a journal; nothing that
a spindle does depends on it.
-/

namespace SpindleDrive

/-- What an operation can ask of a world. -/
structure Surroundings (World : Type) where
  isUp : World → Bool
  silence : World → World
  /-- An exchange without a result never ends. -/
  send : Request → SendMode → SpindleContext → World →
    Option Exchange × SpindleContext × World
  elapsed : World → UInt64
  isColdStart : World → Bool
  /-- Enters a reply that is read, with the flag of the cold start as it was found and the state
  of the spindle before. -/
  journal : Reply → Bool → SpindleContext → World → World
  raiseAlarm : World → World
  tolerance : World → Binary32
  setTolerance : Binary32 → World → World

/-- A change of a spindle's state and of the world around it. -/
abbrev Operation (World : Type) : Type → Type :=
  OptionT (StateM (SpindleContext × World))

namespace Operation

variable {World : Type}

def context : Operation World SpindleContext :=
  fun (c, w) => (some c, (c, w))

def update (f : SpindleContext → SpindleContext) : Operation World Unit :=
  fun (c, w) => (some (), (f c, w))

def observe {α : Type} (f : World → α) : Operation World α :=
  fun (c, w) => (some (f w), (c, w))

def affect (f : World → World) : Operation World Unit :=
  fun (c, w) => (some (), (c, f w))

def exchange (env : Surroundings World) (request : Request) (mode : SendMode) :
    Operation World Exchange :=
  fun (c, w) => env.send request mode c w

/-- Never comes back. -/
def diverge {α : Type} : Operation World α := fun st => (none, st)

end Operation

end SpindleDrive
