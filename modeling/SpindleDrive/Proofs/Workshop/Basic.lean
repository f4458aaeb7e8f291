import Mathlib.Logic.Function.Basic
import SpindleDrive.Proofs.Operation.Taken

/-!
# A workshop of spindles

Any number of spindles, each with surroundings of any kind, that share one world.  A transport may
call spindles while it carries out an exchange, its own or others, as long as none of these calls
needs a bus; one that does never comes back, since the bus is taken.  What matters about a run is
noted down, so that a statement about runs is a statement about notes.

* `Note` — what is noted.
* `Scene` — the states of all spindles, the world, and the notes.
* `Workshop` — the spindles, what is around each of them, and the calls that transports make.
* `Workshop.surroundings` — the workshop as a spindle sees it.
* `Workshop.call` — a call by the host.
* `Workshop.Reaches` — the scenes between calls, the world being free to change meanwhile.
* `Workshop.dead` — the smallest workshop, in which nothing is ever answered.

Nothing is assumed of the surroundings: a transport can answer with any reply to anything, with an
error, or never, and the flag of the cold start and the clock can read as they like.
-/

namespace SpindleDrive

/-- What is noted while spindles work. -/
inductive Note (ι : Type) where
  | called (i : ι) (call : HostCall)
  /-- A request is handed to the transport, the spindles being in these states. -/
  | sending (i : ι) (request : Request) (mode : SendMode) (contexts : ι → SpindleContext)
  | exchanged (i : ι) (request : Request) (mode : SendMode) (result : Exchange)
  /-- A reply is read, the spindle being in this state before. -/
  | read (i : ι) (reply : Reply) (coldStart : Bool) (before : SpindleContext)
  | alarm (i : ι)

/-- Everything in a workshop that changes. -/
structure Scene (ι World : Type) where
  contexts : ι → SpindleContext
  world : World
  /-- What is noted, the latest first. -/
  notes : List (Note ι) := []

namespace Scene

variable {ι World : Type}

def note (σ : Scene ι World) (n : Note ι) : Scene ι World := { σ with notes := n :: σ.notes }

def put [DecidableEq ι] (σ : Scene ι World) (i : ι) (c : SpindleContext) : Scene ι World :=
  { σ with contexts := Function.update σ.contexts i c }

@[simp] lemma note_contexts (σ : Scene ι World) (n : Note ι) :
    (σ.note n).contexts = σ.contexts := rfl
@[simp] lemma note_world (σ : Scene ι World) (n : Note ι) : (σ.note n).world = σ.world := rfl
@[simp] lemma note_notes (σ : Scene ι World) (n : Note ι) : (σ.note n).notes = n :: σ.notes := rfl

section

variable [DecidableEq ι]

@[simp] lemma put_contexts_self (σ : Scene ι World) (i : ι) (c : SpindleContext) :
    (σ.put i c).contexts i = c :=
  Function.update_self ..

lemma put_contexts_of_ne (σ : Scene ι World) {i j : ι} (h : j ≠ i) (c : SpindleContext) :
    (σ.put i c).contexts j = σ.contexts j :=
  Function.update_of_ne h ..

@[simp] lemma put_contexts (σ : Scene ι World) (i : ι) : σ.put i (σ.contexts i) = σ := by
  rw [put, Function.update_eq_self]

@[simp] lemma put_world (σ : Scene ι World) (i : ι) (c : SpindleContext) :
    (σ.put i c).world = σ.world := rfl
@[simp] lemma put_notes (σ : Scene ι World) (i : ι) (c : SpindleContext) :
    (σ.put i c).notes = σ.notes := rfl

end

end Scene

/-- Spindles with their surroundings. -/
structure Workshop (ι World : Type) where
  spindle : ι → Spindle
  /-- What is around a spindle.  Its transport reaches the spindles by calls only, so the state
  that an exchange gives back is not looked at. -/
  outside : ι → Surroundings World
  /-- The calls that a transport makes during an exchange, one after the other. -/
  calls : ι → Request → SendMode → Scene ι World → List (ι × InnerCall)

namespace Workshop

open Operation

variable {ι World : Type}

/-- The workshop as a spindle sees it while its bus is taken. -/
def quiet (shop : Workshop ι World) (i : ι) : Surroundings (Scene ι World) where
  isUp σ := (shop.outside i).isUp σ.world
  silence σ := { σ with world := (shop.outside i).silence σ.world }
  send _ _ c σ := (none, c, σ)
  elapsed σ := (shop.outside i).elapsed σ.world
  isColdStart σ := (shop.outside i).isColdStart σ.world
  journal reply coldStart c σ :=
    { σ with world := (shop.outside i).journal reply coldStart c σ.world }.note
      (.read i reply coldStart c)
  raiseAlarm σ := { σ with world := (shop.outside i).raiseAlarm σ.world }.note (.alarm i)
  tolerance σ := (shop.outside i).tolerance σ.world
  setTolerance tolerance σ :=
    { σ with world := (shop.outside i).setTolerance tolerance σ.world }

variable [DecidableEq ι]

/-- A call from inside an exchange; none that waits for the bus comes back. -/
def reenter (shop : Workshop ι World) (patience : Nat) (i : ι) (call : InnerCall)
    (σ : Scene ι World) : Option Unit × Scene ι World :=
  match call.asHost? with
  | none => (some (), σ)
  | some call =>
    match ((shop.spindle i).carryOut (shop.quiet i) patience call).run.run (σ.contexts i, σ) with
    | (answer?, c, σ) => (answer?.map fun _ => (), σ.put i c)

def reenterAll (shop : Workshop ι World) (patience : Nat) :
    List (ι × InnerCall) → Scene ι World → Option Unit × Scene ι World
  | [], σ => (some (), σ)
  | (i, call) :: rest, σ =>
    match shop.reenter patience i call σ with
    | (some (), σ) => shop.reenterAll patience rest σ
    | (none, σ) => (none, σ)

/-- The end of an exchange, once all calls that it makes have come back. -/
def finish (shop : Workshop ι World) (i : ι) (request : Request) (mode : SendMode)
    (σ : Scene ι World) : Option Exchange × Scene ι World :=
  match (shop.outside i).send request mode (σ.contexts i) σ.world with
  | (some result, _, world) =>
    (some result, { σ with world }.note (.exchanged i request mode result))
  | (none, _, world) => (none, { σ with world })

/-- One exchange: it is noted, the transport makes its calls, and then it comes to an end. -/
def exchange (shop : Workshop ι World) (patience : Nat) (i : ι) (request : Request)
    (mode : SendMode) (σ : Scene ι World) : Option Exchange × Scene ι World :=
  let σ := σ.note (.sending i request mode σ.contexts)
  match shop.reenterAll patience (shop.calls i request mode σ) σ with
  | (some (), σ) => shop.finish i request mode σ
  | (none, σ) => (none, σ)

/-- The workshop as a spindle sees it.  During an exchange its state is in the workshop, where the
transport can call it. -/
def surroundings (shop : Workshop ι World) (patience : Nat) (i : ι) :
    Surroundings (Scene ι World) :=
  { shop.quiet i with
    send := fun request mode c σ =>
      let (result, σ) := shop.exchange patience i request mode (σ.put i c)
      (result, σ.contexts i, σ) }

/-- A call by the host, with its answer if it comes back. -/
def call (shop : Workshop ι World) (patience : Nat) (i : ι) (call : HostCall)
    (σ : Scene ι World) : Option Answer × Scene ι World :=
  let σ := σ.note (.called i call)
  let (answer, c, σ) :=
    ((shop.spindle i).carryOut (shop.surroundings patience i) patience call).run.run
      (σ.contexts i, σ)
  (answer, σ.put i c)

/-- A scene before the first call: every spindle is as it was made. -/
def IsNew (shop : Workshop ι World) (σ : Scene ι World) : Prop :=
  σ.notes = [] ∧
    ∀ i, ∃ id config, Spindle.make id config = .ok (shop.spindle i, σ.contexts i)

/-- The scenes between calls.  Each call has come back before the next is made, and between two of
them the world may change in any way. -/
inductive Reaches (shop : Workshop ι World) (start : Scene ι World) : Scene ι World → Prop where
  | refl : Reaches shop start start
  | outside {σ : Scene ι World} (world : World) (h : Reaches shop start σ) :
      Reaches shop start { σ with world }
  | call {σ : Scene ι World} (patience : Nat) (i : ι) (call : HostCall) (answer : Answer)
      (h : Reaches shop start σ) (back : (shop.call patience i call σ).1 = some answer) :
      Reaches shop start (shop.call patience i call σ).2

/-! ## A dead line -/

/-- One spindle on a bus that never comes up. -/
def dead : Workshop Unit Unit where
  spindle _ := Spindle.sample.1
  outside _ :=
    { isUp _ := false
      silence w := w
      send _ _ c w := (some (.error .notUp), c, w)
      elapsed _ := 0
      isColdStart _ := false
      journal _ _ _ w := w
      raiseAlarm w := w
      tolerance _ := .zero
      setTolerance _ w := w }
  calls _ _ _ _ := []

def deadStart : Scene Unit Unit where
  contexts _ := Spindle.sample.2
  world := ()

def deadSelected : Scene Unit Unit := (dead.call 1 () (.bind ⟨⟨0⟩, 0⟩) deadStart).2

/-- The scene once the spindle has been told to start, in vain. -/
def deadFailed : Scene Unit Unit :=
  (dead.call 1 () (.setState .cw (.ofNat 600)) deadSelected).2

end Workshop

end SpindleDrive
