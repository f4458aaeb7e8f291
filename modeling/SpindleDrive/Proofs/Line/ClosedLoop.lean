import SpindleDrive.Proofs.Line.Basic
import SpindleDrive.Proofs.Number.Zero

/-!
# The loop of a spindle and its drive

A selected spindle and a drive of its model, at its address, that refuses nothing: whatever fails on
the line between them, the answer to a command says what has become of the drive.

* `Writes` — a request that a drive echoes and follows.
* `Coupled` — the spindle and the drive belong together, and nothing is going on between them.
* `MotionCommand`, `MotionCommand.after?` — the commands, and the drive after each of their ends.
* `Line.Runs` — runs of commands, the line being free to change in between.
* **`drive_follows`** — after any run, every command comes back, with the drive as its end says,
  and every reading of the speed says what the drive holds.
-/

namespace SpindleDrive

open Operation

/-- The register of the frequency is another than that of the commands, whatever the model. -/
lemma DriveModel.frequency_ne_command (m : DriveModel) :
    m.registers.frequency ≠ m.registers.command := by
  cases m <;> decide

/-! ## Writes -/

/-- **A write**: the drive echoes the request and goes from one state to another.  The echo is no
refusal, and the drive stays at its address and keeps its registers. -/
structure Writes (request : Request) (d d' : SimulatedDrive) : Prop where
  handle : d.handle request.frame = (some request.frame, d')
  accepted : exceptionCode? request.frame = none
  address : d'.address = d.address
  registers : d'.registers = d.registers

/-- The drive after a command to run or stop. -/
def SimulatedDrive.runAs (d : SimulatedDrive) (state : SpindleState) (rpm : Binary32) :
    SimulatedDrive :=
  { d with running := state.on && !rpm.isZero, reverse := state.ccw }

/-- A drive obeys such a command field by field; a speed of either zero stops it. -/
lemma SimulatedDrive.obey_run (d : SimulatedDrive) (state : SpindleState) (rpm : Binary32) :
    d.obey (.run (.forRequest state.on rpm) (.ofCcw state.ccw)) = d.runAs state rpm := by
  obtain ⟨on, ccw, atSpeed⟩ := state
  cases on <;> cases ccw <;> cases hz : rpm.isZero <;>
    simp [obey, runAs, CommandWord.run, CommandWord.idle, RunStop.forRequest, Direction.ofCcw, hz]

lemma writes_command {d : SimulatedDrive} {address : UInt8} {registers : RegisterMap}
    (haddress : d.address = address) (hregisters : d.registers = registers)
    (state : SpindleState) (rpm : Binary32) :
    Writes (.command address registers (.run (.forRequest state.on rpm) (.ofCcw state.ccw)))
      d (d.runAs state rpm) where
  handle := by rw [← haddress, ← hregisters, d.handle_command, d.obey_run]
  accepted := exceptionCode?_writeFrame ..
  address := rfl
  registers := rfl

lemma writes_speed {d : SimulatedDrive} {address : UInt8} {registers : RegisterMap}
    (haddress : d.address = address) (hregisters : d.registers = registers)
    (hne : registers.frequency ≠ registers.command) (code : UInt16) :
    Writes (.speed address registers code) d { d with frequency := code } where
  handle := by
    subst haddress hregisters
    exact d.handle_speed code hne
  accepted := exceptionCode?_writeFrame ..
  address := rfl
  registers := rfl

/-! ## Writes over a line -/

namespace Line

/-- A bus that refuses nothing lets the drive answer. -/
lemma bus_reply_write {b : SimulatedBus} {request : Request} {d' : SimulatedDrive}
    (hrefusals : b.refusals = []) (h : Writes request b.drive d') :
    b.reply? request =
      (some ⟨request.kind, .response request.frame⟩, { b with drive := d' }) := by
  rw [SimulatedBus.reply?]
  rw [hrefusals]
  simp only [h.handle, Option.map_some, Reply.ofFrame, h.accepted]

/-- Such a bus hands a write to the drive or loses it before. -/
lemma bus_send_write {b : SimulatedBus} {request : Request} {mode : SendMode}
    {d' : SimulatedDrive} (hrefusals : b.refusals = []) (h : Writes request b.drive d') :
    (b.send request mode).2.refusals = [] ∧
      match (b.send request mode).1 with
      | .error _ => (b.send request mode).2.drive = b.drive
      | .ok reply? => (b.send request mode).2.drive = d' ∧
        ∀ reply, reply? = some reply → reply = ⟨request.kind, .response request.frame⟩ := by
  rw [SimulatedBus.send]
  dsimp only
  split
  · exact ⟨hrefusals, rfl⟩
  split
  · exact ⟨hrefusals, rfl⟩
  · rw [bus_reply_write (b := { b with log := (request, mode) :: b.log }) hrefusals h]
    cases mode
    · refine ⟨hrefusals, rfl, ?_⟩
      rintro reply ⟨⟩
      rfl
    · exact ⟨hrefusals, rfl, by simp [SimulatedBus.hand]⟩

@[simp] lemma send_requests (l : Line) (request : Request) (mode : SendMode) :
    (l.send request mode).2.requests = request :: l.requests := by
  rw [send]
  split <;> rfl

end Line

section Writing

variable {s : Spindle} {d d' : SimulatedDrive} {c : SpindleContext} {l : Line} {request : Request}

/-- **A write over a line** reaches the drive exactly if its exchange comes about. -/
lemma leads_exchange_write (mode : SendMode) (h : Writes request l.drive d')
    (hrefusals : l.refusals = []) :
    Leads (exchange (Line.surroundings s.id) request mode)
      (fun r c' l' => c' = c ∧ l'.refusals = [] ∧ l'.requests = request :: l.requests ∧
        r = some (l.send request mode).1 ∧
        match r with
        | none => False
        | some (.error _) => l'.drive = l.drive
        | some (.ok reply?) => l'.drive = d' ∧
          ∀ reply, reply? = some reply → reply = ⟨request.kind, .response request.frame⟩) c l := by
  have hsend : (l.send request mode).2.refusals = [] ∧
      match (l.send request mode).1 with
      | .error _ => (l.send request mode).2.drive = l.drive
      | .ok reply? => (l.send request mode).2.drive = d' ∧
        ∀ reply, reply? = some reply → reply = ⟨request.kind, .response request.frame⟩ := by
    rw [Line.send]
    split
    · exact ⟨hrefusals, rfl⟩
    · exact Line.bus_send_write hrefusals h
  have hrequests := l.send_requests request mode
  rw [leads_exchange]
  dsimp only [Line.surroundings]
  generalize l.send request mode = sent at hsend hrequests ⊢
  obtain ⟨e | reply?, l'⟩ := sent
  · exact ⟨rfl, hsend.1, hrequests, rfl, hsend.2⟩
  · exact ⟨rfl, hsend.1, hrequests, rfl, hsend.2⟩

/-- **Writing until it is done or the attempts are used up.**  `P` is what the marks of the attempts
leave alone. -/
lemma leads_write (P : SpindleContext → Prop) {mark : Nat → SpindleContext → SpindleContext}
    (h : Writes request d d') (hdrive : l.drive = d) (hrefusals : l.refusals = []) (hP : P c)
    (hmark : ∀ n c, P c → P (mark n c)) (retries : Nat) :
    Leads (sendRepeatedly (exchange (Line.surroundings s.id)) request retries
        fun n => update (mark n))
      (fun r c' l' => P c' ∧ l'.refusals = [] ∧
        match r with
        | none => False
        | some (.error e) => l'.drive = d ∧ ∃ n last, e = .exhausted request.kind n last
        | some (.ok reply?) => l'.drive = d' ∧
          ∀ reply, reply? = some reply → reply = ⟨request.kind, .response request.frame⟩) c l := by
  refine leads_sendRepeatedly (fun _ _ c' l' => P c' ∧ l'.refusals = [] ∧ l'.drive = d)
    ⟨hP, hrefusals, hdrive⟩ ?_ ?_
  · rintro k last c' l' - ⟨hP', hrefusals', rfl⟩
    refine (leads_exchange_write .blocking h hrefusals').mono ?_
    rintro (_ | e | reply?) c'' l'' ⟨rfl, hafter, -, -, hsend⟩
    · exact hsend.elim
    · exact ⟨hmark _ _ hP', hafter, hsend⟩
    · exact ⟨hP', hafter, hsend⟩
  · rintro last c' l' ⟨hP', hrefusals', hdrive'⟩
    exact ⟨hP', hrefusals', hdrive', _, _, rfl⟩

end Writing

/-! ## The loop -/

/-- **The loop is closed.**  The spindle is selected and has nothing under way, and the drive at the
other end of the line is one of its model, at its address, that refuses nothing. -/
structure Coupled (s : Spindle) (c : SpindleContext) (l : Line) : Prop where
  selected : c.isSelected = true
  status : c.statusOp.isBusy = false
  speed : c.speedOp.isBusy = false
  reading : c.reading = false
  inbox : c.inbox = []
  address : l.drive.address = c.address
  registers : l.drive.registers = s.registers
  refusals : l.refusals = []

/-- A command to a spindle: to start or stop, to set the speed and wait, or to set it and go on. -/
inductive MotionCommand where
  | run (state : SpindleState) (rpm : Binary32)
  | speed (rpm : Binary32)
  | update (rpm : Binary32)
  deriving DecidableEq

namespace MotionCommand

def call : MotionCommand → HostCall
  | run state rpm => .setState state rpm
  | speed rpm => .setSpeed rpm true
  | update rpm => .setSpeed rpm false

/-- The drive after a command has come to one of its ends, and `none` for what is no end of it.
For a command that does not wait, `through` tells whether its exchange has come about. -/
def after? (s : Spindle) (d : SimulatedDrive) (through : Bool) :
    MotionCommand → Except DriverError Unit → Option SimulatedDrive
  | run state rpm, .ok () =>
    some { d.runAs state rpm with frequency := s.reader.scale.toCode rpm }
  | run _ _, .error (.exhausted .setStatus _ _) => some d
  | run state rpm, .error (.exhausted .setSpeed _ _) => some (d.runAs state rpm)
  | speed rpm, .ok () => some { d with frequency := s.reader.scale.toCode rpm }
  | speed _, .error (.exhausted .setSpeed _ _) => some d
  | update rpm, .ok () =>
    some (if through then { d with frequency := s.reader.scale.toCode rpm } else d)
  | _, _ => none

/-- A command to run ends as its speed does, once the drive runs. -/
lemma after?_run {s : Spindle} {d d' : SimulatedDrive} {state : SpindleState} {rpm : Binary32}
    {result : Except DriverError Unit}
    (h : (speed rpm).after? s (d.runAs state rpm) false result = some d') :
    (run state rpm).after? s d false result = some d' := by
  rcases result with e | ⟨⟩
  · cases e with
    | exhausted kind n last =>
        cases kind with
        | setSpeed => exact h
        | setStatus | getSpeed | getMaxSpeed => simp [after?] at h
    | transport | protocol | config | notSelected | reentrant | missingPart | registryFull =>
        simp [after?] at h
  · exact h

end MotionCommand

namespace Coupled

variable {s : Spindle} {c c' : SpindleContext} {l l' : Line} {patience : Nat}

/-- A change of the context that leaves the loop alone, with one of the drive. -/
lemma frame (h : Coupled s c l) (hselection : c'.selection = c.selection)
    (haddress : c'.address = c.address) (hstatus : c'.statusOp.isBusy = false)
    (hspeed : c'.speedOp.isBusy = false) (hreading : c'.reading = false) (hinbox : c'.inbox = [])
    (hdrive : l'.drive.address = l.drive.address ∧ l'.drive.registers = l.drive.registers)
    (hrefusals : l'.refusals = []) : Coupled s c' l' where
  selected := by rw [SpindleContext.isSelected, hselection]; exact h.selected
  status := hstatus
  speed := hspeed
  reading := hreading
  inbox := hinbox
  address := by rw [hdrive.1, haddress]; exact h.address
  registers := hdrive.2.trans h.registers
  refusals := hrefusals

/-- The acknowledgement of a write changes nothing that matters to the loop. -/
lemma leads_acknowledge (h : Coupled s c l) (kind : RequestKind) (frame : Frame)
    (reply? : Option Reply)
    (hreply : ∀ reply, reply? = some reply → reply = ⟨kind, .response frame⟩)
    (patience : Nat) :
    Leads (s.deliverAny (Line.surroundings s.id) (patience + 2) reply?)
      (fun r c' l' => r = some () ∧ Coupled s c' l' ∧ l' = l) c l := by
  refine leads_deliverAny (fun _ => ⟨rfl, h, rfl⟩) fun reply hsome => ?_
  obtain rfl := hreply reply hsome
  refine leads_deliver_response h.reading h.inbox fun _ => ⟨rfl, ?_, rfl⟩
  exact h.frame rfl rfl h.status h.speed h.reading rfl ⟨rfl, rfl⟩ h.refusals

/-- **Setting the speed.**  The drive has the new frequency if the call comes back well, and is as
it was if the attempts were used up. -/
lemma leads_setSpeed (h : Coupled s c l) (rpm : Binary32) :
    Leads (s.setSpeed (Line.surroundings s.id) (patience + 2) rpm true)
      (fun r c' l' => ∃ result, r = some result ∧ Coupled s c' l' ∧
        (MotionCommand.speed rpm).after? s l.drive false result = some l'.drive) c l := by
  refine Operation.leads_setSpeed (Operation.leads_sendSpeed (fun hsel => ?_)
    (fun _ hbusy => ?_) fun _ _ => ?_)
  · simp [h.selected] at hsel
  · simp [h.speed] at hbusy
  simp only [Spindle.exchangeSpeed, if_true]
  have hwrite := writes_speed h.address h.registers s.config.model.frequency_ne_command
    (s.reader.scale.toCode rpm)
  refine (leads_write (fun c' => ∃ op, c' = { c with speedOp := op }) hwrite rfl h.refusals
    ⟨_, rfl⟩ ?_ s.retries).mono ?_
  · rintro n c' ⟨op, rfl⟩
    exact ⟨_, rfl⟩
  rintro (_ | e | reply?) c' l' ⟨⟨op, rfl⟩, hrefusals, h'⟩
  · exact h'.elim
  · obtain ⟨hdrive, n, last, rfl⟩ := h'
    refine ⟨_, rfl, ?_, congrArg some hdrive.symm⟩
    exact h.frame rfl rfl h.status rfl h.reading h.inbox
      ⟨congrArg _ hdrive, congrArg _ hdrive⟩ hrefusals
  · obtain ⟨hdrive, hreply⟩ := h'
    have hcoupled : Coupled s
        ({ c with speedOp := op }.endSpeed rpm ((Line.surroundings s.id).tolerance l') .idle) l' :=
      h.frame rfl rfl h.status rfl h.reading h.inbox
        ⟨by rw [hdrive], by rw [hdrive]⟩ hrefusals
    have hack := hcoupled.leads_acknowledge .setSpeed _ reply? hreply patience
    cases reply? with
    | none => exact ⟨_, rfl, hcoupled, congrArg some hdrive.symm⟩
    | some reply =>
        refine hack.mono ?_
        rintro r c'' l'' ⟨rfl, hcoupled'', rfl⟩
        exact ⟨_, rfl, hcoupled'', congrArg some hdrive.symm⟩

/-- **Starting and stopping.**  The drive obeys once the command has gone through, and has the new
frequency once the speed has. -/
lemma leads_setState (h : Coupled s c l) (state : SpindleState) (rpm : Binary32) :
    Leads (s.setState (Line.surroundings s.id) (patience + 2) state rpm)
      (fun r c' l' => ∃ result, r = some result ∧ Coupled s c' l' ∧
        (MotionCommand.run state rpm).after? s l.drive false result = some l'.drive) c l := by
  refine Operation.leads_setState (fun hsel => ?_) (fun _ hbusy => ?_) fun _ _ => ?_
  · simp [h.selected] at hsel
  · simp [h.status] at hbusy
  have hwrite := writes_command h.address h.registers state rpm
  refine (leads_write (fun c' => ∃ op, c' = { c.takeCommand state with statusOp := op }) hwrite rfl
    h.refusals ⟨_, rfl⟩ ?_ s.retries).mono ?_
  · rintro n c' ⟨op, rfl⟩
    exact ⟨_, rfl⟩
  rintro (_ | e | reply?) c' l' ⟨⟨op, rfl⟩, hrefusals, h'⟩
  · exact h'.elim
  · obtain ⟨hdrive, n, last, rfl⟩ := h'
    refine ⟨_, rfl, ?_, congrArg some hdrive.symm⟩
    exact h.frame rfl rfl rfl h.speed h.reading h.inbox
      ⟨congrArg _ hdrive, congrArg _ hdrive⟩ hrefusals
  · obtain ⟨hdrive, hreply⟩ := h'
    have hcoupled : Coupled s
        { { c.takeCommand state with statusOp := op } with statusOp := .idle } l' :=
      h.frame rfl rfl rfl h.speed h.reading h.inbox ⟨by rw [hdrive]; rfl, by rw [hdrive]; rfl⟩
        hrefusals
    refine (hcoupled.leads_acknowledge .setStatus _ reply? hreply patience).mono ?_
    rintro r c'' l'' ⟨rfl, hcoupled'', rfl⟩
    refine (hcoupled''.leads_setSpeed rpm).mono ?_
    rintro r c₃ l₃ ⟨result, rfl, hcoupled₃, hafter⟩
    rw [hdrive] at hafter
    exact ⟨result, rfl, hcoupled₃, MotionCommand.after?_run hafter⟩

/-- The one request of a command that does not wait. -/
def request (s : Spindle) (c : SpindleContext) (rpm : Binary32) : Request :=
  .speed c.address s.registers (s.reader.scale.toCode rpm)

/-- **Updating the speed.**  One request is handed over, and the drive has the new frequency exactly
if its exchange comes about. -/
lemma leads_update (h : Coupled s c l) (rpm : Binary32) :
    Leads (s.setSpeed (Line.surroundings s.id) (patience + 2) rpm false)
      (fun r c' l' => r = some (.ok ()) ∧ Coupled s c' l' ∧
        l'.requests = request s c rpm :: l.requests ∧
        (MotionCommand.update rpm).after? s l.drive (l.send (request s c rpm) .nonBlocking).1.isOk
          (.ok ()) = some l'.drive) c l := by
  refine Operation.leads_setSpeed (Operation.leads_sendSpeed (fun hsel => ?_)
    (fun _ hbusy => ?_) fun _ _ => ?_)
  · simp [h.selected] at hsel
  · simp [h.speed] at hbusy
  rw [Spindle.exchangeSpeed, if_neg Bool.false_ne_true, leads_map]
  have hwrite : Writes (request s c rpm) l.drive
      { l.drive with frequency := s.reader.scale.toCode rpm } :=
    writes_speed h.address h.registers s.config.model.frequency_ne_command _
  refine leads_sendOnce ((leads_exchange_write .nonBlocking hwrite h.refusals).mono ?_)
  rintro (_ | e | reply?) c' l' ⟨rfl, hrefusals, hrequests, hresult, hsend⟩
  · exact hsend.elim
  · have hthrough : (l.send (request s c rpm) .nonBlocking).1.isOk = false := by
      rw [← Option.some.inj hresult]
      rfl
    refine ⟨rfl, ?_, hrequests, by rw [hthrough]; exact congrArg some hsend.symm⟩
    exact h.frame rfl rfl h.status rfl h.reading h.inbox
      ⟨congrArg _ hsend, congrArg _ hsend⟩ hrefusals
  · obtain ⟨hdrive, hreply⟩ := hsend
    have hthrough : (l.send (request s c rpm) .nonBlocking).1.isOk = true := by
      rw [← Option.some.inj hresult]
      rfl
    have hcoupled : Coupled s
        ({ c with speedOp := .sending }.endSpeed rpm ((Line.surroundings s.id).tolerance l') .idle)
        l' :=
      h.frame rfl rfl h.status rfl h.reading h.inbox ⟨by rw [hdrive], by rw [hdrive]⟩ hrefusals
    have hafter : (MotionCommand.update rpm).after? s l.drive
        (l.send (request s c rpm) .nonBlocking).1.isOk (.ok ()) = some l'.drive := by
      rw [hthrough]
      exact congrArg some hdrive.symm
    have hack := hcoupled.leads_acknowledge .setSpeed _ reply? hreply patience
    cases reply? with
    | none => exact ⟨rfl, hcoupled, hrequests, hafter⟩
    | some reply =>
        refine hack.mono ?_
        rintro r c'' l'' ⟨rfl, hcoupled'', rfl⟩
        exact ⟨rfl, hcoupled'', hrequests, hafter⟩

/-! ## Readings -/

/-- The reply to a reading of the speed, whenever it is produced. -/
lemma reply_readOutput (h : Coupled s c l) :
    (l.rig.bus.reply? (.readOutput c.address s.registers)).1 =
      some ⟨.getSpeed, .response
        (ReadReply.toFrame { address := l.drive.address, value := l.drive.output })⟩ := by
  rw [SimulatedBus.reply?]
  have hrefusals : l.rig.bus.refusals = [] := h.refusals
  have hhandle : l.rig.bus.drive.handle (Request.readOutput c.address s.registers).frame =
      (some (ReadReply.toFrame { address := l.drive.address, value := l.drive.output }),
        l.drive) := by
    rw [← h.address, ← h.registers]
    exact l.drive.handle_readOutput
  rw [hrefusals]
  simp only [hhandle, Option.map_some, Reply.ofFrame, ReadReply.exceptionCode?_toFrame]
  rfl

end Coupled

/-- The speed that a drive has: that of its frequency while it runs, and none else. -/
def Spindle.speedOf (s : Spindle) (d : SimulatedDrive) : Binary32 :=
  if d.running then s.reader.scale.toSpeed d.frequency else .zero

/-- The code that a drive reports stands for the speed that it has. -/
lemma Spindle.toSpeed_output (s : Spindle) (d : SimulatedDrive) :
    s.reader.scale.toSpeed d.output = s.speedOf d := by
  rw [SimulatedDrive.output, speedOf]
  split
  · rfl
  · exact s.reader.scale.toSpeed_zero

/-- A reading that is dispatched becomes the measured speed, wherever the spindle is by then. -/
lemma leads_deliver_reading {World : Type} (s : Spindle) (env : Surroundings World) (patience : Nat)
    {c : SpindleContext} (w : World) (hreading : c.reading = false) (hinbox : c.inbox = [])
    (r : ReadReply) :
    Leads (s.deliver env (patience + 2) ⟨.getSpeed, .response r.toFrame⟩)
      (fun result c' _ => result = some () ∧
        c'.data.measured = s.reader.scale.toSpeed r.value) c w := by
  refine leads_deliver_response hreading hinbox fun c' => ⟨rfl, ?_⟩
  simp [Spindle.takeIn, ReplyReader.read, ReplyReader.readResponse, ReadReply.ofFrame_toFrame,
    SpeedData.measure]

/-! ## Runs -/

namespace MotionCommand

/-- Whether the exchange of a command that does not wait comes about, as the line is. -/
def goesThrough (s : Spindle) (c : SpindleContext) (l : Line) : MotionCommand → Bool
  | update rpm => (l.send (Coupled.request s c rpm) .nonBlocking).1.isOk
  | run .. | speed _ => false

end MotionCommand

/-- **Every command comes back**, to one of its ends, and the drive is as that end says. -/
lemma Coupled.leads_command {s : Spindle} {c : SpindleContext} {l : Line} (h : Coupled s c l)
    (patience : Nat) (command : MotionCommand) :
    Leads (s.carryOut (Line.surroundings s.id) (patience + 2) command.call)
      (fun r c' l' => ∃ result, r = some (.outcome result) ∧ Coupled s c' l' ∧
        command.after? s l.drive (command.goesThrough s c l) result = some l'.drive ∧
        ∀ rpm, command = .update rpm → l'.requests = Coupled.request s c rpm :: l.requests)
      c l := by
  cases command <;> simp only [MotionCommand.call, Spindle.carryOut, leads_map]
  case run state rpm =>
    refine (h.leads_setState state rpm).mono ?_
    rintro r c' l' ⟨result, rfl, hcoupled, hafter⟩
    exact ⟨result, rfl, hcoupled, hafter, by simp⟩
  case speed rpm =>
    refine (h.leads_setSpeed rpm).mono ?_
    rintro r c' l' ⟨result, rfl, hcoupled, hafter⟩
    exact ⟨result, rfl, hcoupled, hafter, by simp⟩
  case update rpm =>
    refine (h.leads_update rpm).mono ?_
    rintro r c' l' ⟨rfl, hcoupled, hrequests, hafter⟩
    refine ⟨.ok (), rfl, hcoupled, hafter, ?_⟩
    rintro rpm' ⟨⟩
    exact hrequests

/-- Runs of commands.  Between two of them the line may change in any way that leaves the drive as
it is and orders no refusal: the faults that are to come, the clock, the replies that wait. -/
inductive Line.Runs (s : Spindle) (c₀ : SpindleContext) (l₀ : Line) :
    SpindleContext → Line → Prop where
  | refl : Line.Runs s c₀ l₀ c₀ l₀
  | outside {c : SpindleContext} {l l' : Line} (h : Line.Runs s c₀ l₀ c l)
      (drive : l'.drive = l.drive) (refusals : l'.refusals = l.refusals) : Line.Runs s c₀ l₀ c l'
  | command {c c' : SpindleContext} {l l' : Line} (patience : Nat) (command : MotionCommand)
      (answer : Answer) (h : Line.Runs s c₀ l₀ c l)
      (back : (s.carryOut (Line.surroundings s.id) (patience + 2) command.call).run.run (c, l) =
        (some answer, c', l')) : Line.Runs s c₀ l₀ c' l'

/-- A run leaves the loop closed. -/
lemma Line.Runs.coupled {s : Spindle} {c₀ c : SpindleContext} {l₀ l : Line}
    (h : Coupled s c₀ l₀) (runs : Line.Runs s c₀ l₀ c l) : Coupled s c l := by
  induction runs with
  | refl => exact h
  | outside _ drive refusals ih =>
      exact ih.frame rfl rfl ih.status ih.speed ih.reading ih.inbox
        ⟨congrArg _ drive, congrArg _ drive⟩ (refusals.trans ih.refusals)
  | command patience command answer _ back ih =>
      have hcommand := ih.leads_command patience command
      simp only [Leads, back] at hcommand
      obtain ⟨result, -, hcoupled, -⟩ := hcommand
      exact hcoupled

/-- **The drive follows the spindle.**  The loop being closed at the start, after any run of
commands, whatever has failed on the line:

* every command comes back to one of its ends, and the drive is as `MotionCommand.after?` says of
  it; a command that does not wait hands over a single request, and its drive has the new frequency
  exactly if that goes through;
* the drive answers a reading of the speed, and the answer, dispatched whenever nothing else is
  being read, becomes the measured speed: that of the frequency while the drive runs, and zero
  otherwise. -/
theorem drive_follows (s : Spindle) {c₀ c : SpindleContext} {l₀ l : Line} (h : Coupled s c₀ l₀)
    (runs : Line.Runs s c₀ l₀ c l) :
    (∀ (patience : Nat) (command : MotionCommand), ∃ result c' l',
      (s.carryOut (Line.surroundings s.id) (patience + 2) command.call).run.run (c, l) =
        (some (.outcome result), c', l') ∧
      command.after? s l.drive (command.goesThrough s c l) result = some l'.drive ∧
      ∀ rpm, command = .update rpm → l'.requests = Coupled.request s c rpm :: l.requests) ∧
    ∃ reply, (l.rig.bus.reply? (.readOutput c.address s.registers)).1 = some reply ∧
      reply.kind = .getSpeed ∧
      ∀ (World : Type) (env : Surroundings World) patience c' w,
        c'.reading = false → c'.inbox = [] → ∃ c'' w'',
          (s.deliver env (patience + 2) reply).run.run (c', w) = (some (), c'', w'') ∧
          c''.data.measured =
            if l.drive.running then s.reader.scale.toSpeed l.drive.frequency else .zero := by
  have hcoupled := runs.coupled h
  refine ⟨fun patience command => ?_, ?_⟩
  · have hcommand := hcoupled.leads_command patience command
    simp only [Leads] at hcommand
    generalize (s.carryOut (Line.surroundings s.id) (patience + 2) command.call).run.run (c, l)
      = ended at hcommand ⊢
    obtain ⟨answer, c', l'⟩ := ended
    obtain ⟨result, rfl, -, hafter, hrequests⟩ := hcommand
    exact ⟨result, c', l', rfl, hafter, hrequests⟩
  · refine ⟨_, hcoupled.reply_readOutput, rfl, ?_⟩
    intro World env patience c' w hreading hinbox
    have hdeliver := leads_deliver_reading s env patience w hreading hinbox
      { address := l.drive.address, value := l.drive.output }
    rw [s.toSpeed_output] at hdeliver
    exact ⟨_, _, Prod.ext hdeliver.1 rfl, hdeliver.2⟩

/-- A line on which the first exchange comes about and the next two fail. -/
def Line.broken : Line where
  rig := { bus := .ofDrive (.ofModel 1 .yl620) }
  faults := [none, some .timeout, some .checksum]

/-- On such a line a spindle that is told to start is exhausted by the speed, and its drive runs. -/
theorem drive_follows_broken :
    Coupled Spindle.sample.1 Spindle.sampleSelected Line.broken ∧
      ∃ c' l', (Spindle.sample.1.carryOut (Line.surroundings Spindle.sample.1.id) 2
          (.setState .cw (.ofNat 600))).run.run (Spindle.sampleSelected, Line.broken) =
            (some (.outcome (.error (.exhausted .setSpeed 2 .checksum))), c', l') ∧
        some (Line.broken.drive.runAs .cw (.ofNat 600)) = some l'.drive :=
  have h : Coupled Spindle.sample.1 Spindle.sampleSelected Line.broken :=
    ⟨rfl, rfl, rfl, rfl, rfl, rfl, rfl, rfl⟩
  have ⟨_, c', l', back, after, _⟩ :=
    (drive_follows Spindle.sample.1 h .refl).1 0 (.run .cw (.ofNat 600))
  have exhausted : ((Spindle.sample.1.carryOut (Line.surroundings Spindle.sample.1.id) 2
      (.setState .cw (.ofNat 600))).run.run (Spindle.sampleSelected, Line.broken)).1 =
        some (.outcome (.error (.exhausted .setSpeed 2 .checksum))) := rfl
  have result := Answer.outcome.inj
    (Option.some.inj ((congrArg Prod.fst back).symm.trans exhausted))
  ⟨h, c', l', by rw [← result]; exact back, by rw [result] at after; exact after⟩

end SpindleDrive
