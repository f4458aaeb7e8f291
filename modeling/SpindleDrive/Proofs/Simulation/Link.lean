import SpindleDrive.Proofs.Line.ClosedLoop
import SpindleDrive.Simulation.Run

/-!
# A spindle on a rig

A selected spindle with nothing under way, and at the other end of its bus a drive that answers it.
Exchanges may be due to fail, but no reply is a refusal.  Then every operation of the spindle comes
back, and what it leaves behind can be written down.

* `Answers` — a request that the drive answers, with the reply.
* `Linked` — the spindle and the rig.
* `Rig.readings` — the readings of the speed that a bus has been asked for.
* `Rig.leads_sendRepeatedly` — a row of attempts: the failures that are due are used up first.
* **`Linked.leads_setState`**, `Linked.leads_getState` — the operations.
-/

namespace SpindleDrive

open Operation

/-! ## Answers -/

/-- **An answer**: the drive replies with a frame that is no refusal, and goes from one state to
another. -/
structure Answers (request : Request) (d : SimulatedDrive) (frame : Frame) (d' : SimulatedDrive) :
    Prop where
  handle : d.handle request.frame = (some frame, d')
  accepted : exceptionCode? frame = none

lemma Writes.answers {request : Request} {d d' : SimulatedDrive} (h : Writes request d d') :
    Answers request d request.frame d' :=
  ⟨h.handle, h.accepted⟩

lemma answers_readOutput {d : SimulatedDrive} {address : UInt8} {registers : RegisterMap}
    (haddress : d.address = address) (hregisters : d.registers = registers) :
    Answers (.readOutput address registers) d
      (ReadReply.toFrame { address := d.address, value := d.output }) d where
  handle := by
    subst haddress hregisters
    exact d.handle_readOutput
  accepted := ReadReply.exceptionCode?_toFrame _

lemma answers_readMax {d : SimulatedDrive} {address : UInt8} {registers : RegisterMap}
    {request : Request} (haddress : d.address = address) (hregisters : d.registers = registers)
    (h : Request.readMax? address registers = some request) :
    ∃ value, Answers request d (ReadReply.toFrame { address := d.address, value }) d := by
  subst haddress hregisters
  obtain ⟨register, hregister, rfl⟩ := Option.map_eq_some_iff.1 h
  have hread : ∃ value, d.read register = ReadReply.toFrame { address := d.address, value } := by
    rw [SimulatedDrive.read]
    split
    · exact ⟨_, rfl⟩
    · rw [if_pos hregister.symm]
      exact ⟨_, rfl⟩
  obtain ⟨value, hvalue⟩ := hread
  refine ⟨value, ?_, ReadReply.exceptionCode?_toFrame _⟩
  rw [← hvalue]
  exact d.handle_read register 1

/-- The reply of a drive to a reading of its speed. -/
def SimulatedDrive.reading (d : SimulatedDrive) : Reply :=
  ⟨.getSpeed, .response (ReadReply.toFrame { address := d.address, value := d.output })⟩

/-- Such a reply is no refusal. -/
lemma SimulatedDrive.isException_of_readings {d : SimulatedDrive} {replies : List Reply}
    (h : ∀ reply ∈ replies, reply = d.reading) : ∀ reply ∈ replies, reply.isException = false := by
  intro reply hmem
  rw [h reply hmem]
  rfl

/-- **An exchange with a drive that answers.**  A failure that is due comes first. -/
lemma SimulatedBus.send_of_answers {b : SimulatedBus} {request : Request} {frame : Frame}
    {d' : SimulatedDrive} (hup : b.up = true) (hrefusals : b.refusals = [])
    (h : Answers request b.drive frame d') (mode : SendMode) :
    b.send request mode =
      if 0 < b.failing then
        (.error .timeout, { b with log := (request, mode) :: b.log, failing := b.failing - 1 })
      else
        match mode with
        | .blocking =>
          (.ok (some ⟨request.kind, .response frame⟩),
            { b with log := (request, mode) :: b.log, drive := d' })
        | .nonBlocking =>
          (.ok none,
            { b with
              log := (request, mode) :: b.log
              drive := d'
              pending := b.pending ++ [⟨request.kind, .response frame⟩] }) := by
  by_cases hfailing : 0 < b.failing
  · simp [send, hup, hfailing]
  · simp only [send, hup, hfailing, reply?, hrefusals, h.handle, Option.map_some, Reply.ofFrame,
      h.accepted, Bool.not_true, Bool.false_eq_true, if_false]
    cases mode <;> rfl

namespace Rig

/-- The readings of the speed among some requests. -/
def readings (log : List (Request × SendMode)) : Nat :=
  log.countP fun sent => decide (sent.1.kind = .getSpeed)

lemma readings_cons (sent : Request × SendMode) (log : List (Request × SendMode)) :
    readings (sent :: log) = readings log + if sent.1.kind = .getSpeed then 1 else 0 := by
  simp [readings, List.countP_cons]

/-- A rig on which every exchange comes to a failure that is due or to an answer. -/
structure Answering (r : Rig) : Prop where
  up : r.bus.up = true
  refusals : r.bus.refusals = []
  queued : r.synchronous = false

/-- The rig after a question, with the reply that waits for its delivery unless it was lost. -/
def asked (r : Rig) (request : Request) (frame : Frame) : Rig :=
  { r with
    bus :=
      { r.bus with
        log := (request, .nonBlocking) :: r.bus.log
        failing := r.bus.failing - 1
        pending :=
          if 0 < r.bus.failing then r.bus.pending
          else r.bus.pending ++ [⟨request.kind, .response frame⟩] } }

/-- **What a question about the speed leaves of a rig**, be it asked or not, `more` being the
replies that wait because of it. -/
structure Questioned (r : Rig) (more : List Reply) (r' : Rig) : Prop where
  drive : r'.bus.drive = r.bus.drive
  host : r'.host = r.host
  registry : r'.registry = r.registry
  pending : r'.bus.pending = r.bus.pending ++ more
  replies : ∀ reply ∈ more, reply = r.bus.drive.reading
  readings : readings r.bus.log ≤ readings r'.bus.log
  failing : r'.bus.failing =
    r.bus.failing - (Rig.readings r'.bus.log - Rig.readings r.bus.log)

lemma Questioned.refl (r : Rig) : Questioned r [] r where
  drive := rfl
  host := rfl
  registry := rfl
  pending := (List.append_nil _).symm
  replies := by simp
  readings := Nat.le_refl _
  failing := by omega

lemma Questioned.asked (r : Rig) (address : UInt8) (registers : RegisterMap) :
    Questioned r (if 0 < r.bus.failing then [] else [r.bus.drive.reading])
      (r.asked (.readOutput address registers)
        (ReadReply.toFrame { address := r.bus.drive.address, value := r.bus.drive.output })) where
  drive := rfl
  host := rfl
  registry := rfl
  pending := by
    rw [Rig.asked]
    split
    · exact (List.append_nil _).symm
    · rfl
  replies := by
    split
    · simp
    · simp
  readings := by
    rw [Rig.asked, readings_cons]
    exact Nat.le_add_right _ _
  failing := by
    have hkind : (Request.readOutput address registers).kind = .getSpeed := rfl
    rw [Rig.asked, readings_cons, if_pos hkind, Nat.add_sub_cancel_left]

section Exchanges

variable {r : Rig} {c : SpindleContext} {request : Request} {frame : Frame} {d' : SimulatedDrive}
  {id : SpindleId}

/-- **A row of attempts.**  The failures that are due are used up, and the next attempt is answered
unless there is none left.  `P` is what the marks of the attempts leave alone. -/
lemma leads_sendRepeatedly (h : r.Answering) (hanswers : Answers request r.bus.drive frame d')
    (hkind : request.kind ≠ .getSpeed) (P : SpindleContext → Prop)
    {mark : Nat → SpindleContext → SpindleContext} {retries : Nat} (hretries : 0 < retries)
    (hP : P c) (hmark : ∀ n c, P c → P (mark n c)) :
    Leads (sendRepeatedly (exchange (surroundings id)) request retries fun n => update (mark n))
      (fun result c' r' => P c' ∧ ∃ log, readings log = readings r.bus.log ∧
        if r.bus.failing < retries then
          result = some (.ok (some ⟨request.kind, .response frame⟩)) ∧
            r' = { r with bus := { r.bus with log, failing := 0, drive := d' } }
        else
          result = some (.error (.exhausted request.kind retries .timeout)) ∧
            r' = { r with bus := { r.bus with log, failing := r.bus.failing - retries } }) c r := by
  have hmax : max retries 1 = retries := Nat.max_eq_left hretries
  refine Operation.leads_sendRepeatedly (fun k last c' r' => P c' ∧ last = .timeout ∧
    k ≤ r.bus.failing ∧ ∃ log, readings log = readings r.bus.log ∧
      r' = { r with bus := { r.bus with log, failing := r.bus.failing - k } }) ?_ ?_ ?_
  · exact ⟨hP, rfl, Nat.zero_le _, r.bus.log, rfl, rfl⟩
  · rintro k last c' _ hk ⟨hP', -, hle, log, hlog, rfl⟩
    rw [hmax] at hk
    have hmode : (if r.synchronous then SendMode.blocking else .blocking) = .blocking := ite_self _
    have hlog' : readings ((request, .blocking) :: log) = readings r.bus.log := by
      rw [readings_cons, if_neg hkind, hlog, Nat.add_zero]
    rw [leads_exchange]
    dsimp only [surroundings, send]
    rw [hmode, SimulatedBus.send_of_answers
      (b := { r.bus with log, failing := r.bus.failing - k }) h.up h.refusals hanswers]
    by_cases hdue : 0 < r.bus.failing - k
    · rw [if_pos hdue]
      exact ⟨hmark _ _ hP', rfl, by omega, _, hlog', by rw [Nat.sub_sub]⟩
    · rw [if_neg hdue]
      refine ⟨hP', _, hlog', ?_⟩
      rw [if_pos (by omega), show r.bus.failing - k = 0 by omega]
      exact ⟨rfl, rfl⟩
  · rintro _ c' _ ⟨hP', rfl, hle, log, hlog, rfl⟩
    rw [hmax] at hle ⊢
    refine ⟨hP', log, hlog, ?_⟩
    rw [if_neg (by omega)]
    exact ⟨rfl, rfl⟩

/-- **A question** that nobody waits for. -/
lemma leads_sendOnce (h : r.Answering) (hanswers : Answers request r.bus.drive frame r.bus.drive) :
    Leads (sendOnce (exchange (surroundings id)) request)
      (fun result c' r' => result = some none ∧ c' = c ∧ r' = r.asked request frame) c r := by
  refine Operation.leads_sendOnce ?_
  have hmode : (if r.synchronous then SendMode.blocking else .nonBlocking) = .nonBlocking := by
    rw [h.queued]
    rfl
  rw [leads_exchange]
  dsimp only [surroundings, send]
  rw [hmode, SimulatedBus.send_of_answers h.up h.refusals hanswers, asked]
  by_cases hdue : 0 < r.bus.failing
  · rw [if_pos hdue, if_pos hdue]
    exact ⟨rfl, rfl, rfl⟩
  · rw [if_neg hdue, if_neg hdue, Nat.eq_zero_of_not_pos hdue]
    exact ⟨rfl, rfl, rfl⟩

end Exchanges

end Rig

/-- **The link**: a selected spindle with nothing under way, on a rig on which its drive answers. -/
structure Linked (s : Spindle) (c : SpindleContext) (r : Rig) : Prop extends Rig.Answering r where
  selected : c.isSelected = true
  status : c.statusOp.isBusy = false
  speed : c.speedOp.isBusy = false
  reading : c.reading = false
  inbox : c.inbox = []
  address : r.bus.drive.address = c.address
  registers : r.bus.drive.registers = s.registers

/-- The spindle after a command that has gone through. -/
def SpindleContext.started (c : SpindleContext) (state : SpindleState) (rpm tolerance : Binary32) :
    SpindleContext :=
  { c with
    state := { c.state with on := state.on, ccw := state.ccw }
    data := (c.takeCommand state).data.program rpm tolerance
    statusOp := .idle
    speedOp := .idle
    exceptions := c.exceptions.clear
    inbox := [] }

/-- The drive after a command that has gone through. -/
def SimulatedDrive.started (d : SimulatedDrive) (state : SpindleState) (rpm : Binary32)
    (code : UInt16) : SimulatedDrive :=
  { d.runAs state rpm with frequency := code }

/-- The speed of a drive after a command that has gone through. -/
lemma Spindle.speedOf_started (s : Spindle) (d : SimulatedDrive) (state : SpindleState)
    (rpm : Binary32) :
    s.speedOf (d.started state rpm (s.reader.scale.toCode rpm)) =
      if state.on && !rpm.isZero then s.reader.scale.toSpeed (s.reader.scale.toCode rpm)
      else .zero :=
  rfl

/-- The tolerance that is set is the one that is found, where there is a descriptor. -/
lemma Registry.tolerance_modify {registry : Registry} {id : SpindleId} {d : Descriptor}
    (h : registry.get? id = some d) (tolerance : Binary32) :
    (registry.modify id ({ · with tolerance })).tolerance id = tolerance := by
  have hget : registry.descriptors[id.value.toNat]? = some d := h
  simp [Registry.tolerance, Registry.get?, Registry.modify, hget]

namespace Linked

variable {s : Spindle} {c : SpindleContext} {r : Rig} {patience : Nat}

/-- **Setting the speed** with no failure due. -/
lemma leads_setSpeed (h : Linked s c r) (hretries : 0 < s.retries) (hfailing : r.bus.failing = 0)
    (rpm : Binary32) :
    Leads (s.setSpeed (Rig.surroundings s.id) (patience + 2) rpm true)
      (fun result c' r' => ∃ log, Rig.readings log = Rig.readings r.bus.log ∧
        result = some (.ok ()) ∧
        c' = { c with
          data := c.data.program rpm (r.registry.tolerance s.id)
          speedOp := .idle
          exceptions := c.exceptions.clear
          inbox := [] } ∧
        r' = { r with
          bus := { r.bus with
            log, failing := 0
            drive := { r.bus.drive with frequency := s.reader.scale.toCode rpm } } }) c r := by
  have hspeed := writes_speed h.address h.registers s.config.model.frequency_ne_command
    (s.reader.scale.toCode rpm)
  have hkind : (Request.speed c.address s.registers (s.reader.scale.toCode rpm)).kind ≠
      .getSpeed := by
    rintro ⟨⟩
  refine Operation.leads_setSpeed (Operation.leads_sendSpeed (fun hsel => ?_)
    (fun _ hbusy => ?_) fun _ _ => ?_)
  · simp [h.selected] at hsel
  · simp [h.speed] at hbusy
  rw [Spindle.exchangeSpeed, if_pos rfl]
  refine (Rig.leads_sendRepeatedly h.toAnswering hspeed.answers hkind
    (fun c' => ∃ progress, c' = { c with speedOp := progress }) hretries ⟨_, rfl⟩ ?_).mono ?_
  · rintro n _ ⟨_, rfl⟩
    exact ⟨_, rfl⟩
  rintro result _ r₁ ⟨⟨progress, rfl⟩, log, hlog, hsent⟩
  rw [hfailing, if_pos hretries] at hsent
  obtain ⟨rfl, rfl⟩ := hsent
  exact leads_deliver_response h.reading h.inbox fun _ =>
    ⟨log, hlog, rfl, rfl, rfl⟩

/-- **Starting and stopping.**  The attempts at the command use up the failures that are due.  If
they use up themselves, the drive has heard nothing, and the host is alarmed; otherwise the drive
has followed, and the spindle knows the band around the speed that was asked for. -/
theorem leads_setState (h : Linked s c r) (hretries : 0 < s.retries) (state : SpindleState)
    (rpm : Binary32) :
    Leads (s.setState (Rig.surroundings s.id) (patience + 2) state rpm)
      (fun result c' r' => ∃ log, Rig.readings log = Rig.readings r.bus.log ∧
        if r.bus.failing < s.retries then
          result = some (.ok ()) ∧ c' = c.started state rpm (r.registry.tolerance s.id) ∧
            r' = { r with
              bus := { r.bus with
                log, failing := 0
                drive := r.bus.drive.started state rpm (s.reader.scale.toCode rpm) } }
        else
          result = some (.error (.exhausted .setStatus s.retries .timeout)) ∧
            c' = { c.takeCommand state with statusOp := .failed } ∧
            r' = { r with
              bus := { r.bus with log, failing := r.bus.failing - s.retries }
              host := r.host.raiseAlarm .spindle }) c r := by
  have hcommand := writes_command h.address h.registers state rpm
  have hkind {registers : RegisterMap} {address : UInt8} {word : CommandWord} :
      (Request.command address registers word).kind ≠ .getSpeed := by
    rintro ⟨⟩
  refine Operation.leads_setState (fun hsel => ?_) (fun _ hbusy => ?_) fun _ _ => ?_
  · simp [h.selected] at hsel
  · simp [h.status] at hbusy
  refine (Rig.leads_sendRepeatedly h.toAnswering hcommand.answers hkind
    (fun c' => ∃ progress, c' = { c.takeCommand state with statusOp := progress })
    hretries ⟨_, rfl⟩ ?_).mono ?_
  · rintro n _ ⟨_, rfl⟩
    exact ⟨_, rfl⟩
  rintro result _ r₁ ⟨⟨progress, rfl⟩, log, hlog, hsent⟩
  by_cases hdue : r.bus.failing < s.retries
  case neg =>
    rw [if_neg hdue] at hsent
    obtain ⟨rfl, rfl⟩ := hsent
    refine ⟨log, hlog, ?_⟩
    rw [if_neg hdue]
    exact ⟨rfl, rfl, rfl⟩
  rw [if_pos hdue] at hsent
  obtain ⟨rfl, rfl⟩ := hsent
  have hreading : { c.takeCommand state with statusOp := .idle }.reading = false := h.reading
  refine leads_deliver_response hreading h.inbox fun _ => ?_
  -- the command has been followed, and the link is as it was
  have hlinked : Linked s
      { { c.takeCommand state with statusOp := .idle } with
        exceptions := c.exceptions.clear, inbox := [] }
      { r with bus := { r.bus with log, failing := 0, drive := r.bus.drive.runAs state rpm } } :=
    ⟨⟨h.up, h.refusals, h.queued⟩, h.selected, rfl, h.speed, h.reading, rfl, h.address, h.registers⟩
  refine (hlinked.leads_setSpeed hretries rfl rpm).mono ?_
  rintro _ _ _ ⟨log', hlog', rfl, rfl, rfl⟩
  refine ⟨log', hlog'.trans hlog, ?_⟩
  rw [if_pos hdue]
  exact ⟨rfl, rfl, rfl⟩

/-- **Asking for the state.**  There may be a reading, which is asked for if the clock says so and
comes back unless a failure is due. -/
theorem leads_getState (h : Linked s c r) :
    Leads (s.getState (Rig.surroundings s.id) patience)
      (fun result c' r' => result = some c'.state ∧ Linked s c' r' ∧ ∃ lastPoll more,
        c' = { c with
          state := { c.state with atSpeed := c.data.commanded.atSpeed }
          lastPoll := some lastPoll } ∧
        Rig.Questioned r more r' ∧
        (c.pollDue r.host.elapsed s.config.pollInterval = true → r.bus.failing = 0 →
          more = [r.bus.drive.reading])) c r := by
  refine Operation.leads_getState (fun hrest => ?_) fun _ hpolled => ?_
  · have hdue : c.pollDue r.host.elapsed s.config.pollInterval = false := by
      rw [h.selected, Bool.true_and] at hrest
      exact hrest
    obtain ⟨lastPoll, hlast⟩ : ∃ lastPoll, c.lastPoll = some lastPoll := by
      cases hlast : c.lastPoll with
      | none => simp [SpindleContext.pollDue, hlast] at hdue
      | some lastPoll => exact ⟨lastPoll, rfl⟩
    refine ⟨rfl, ⟨h.toAnswering, h.selected, h.status, h.speed, h.reading, h.inbox, h.address,
      h.registers⟩, lastPoll, [], by rw [← hlast], .refl r, ?_⟩
    simp [hdue]
  · refine (Rig.leads_sendOnce h.toAnswering (answers_readOutput h.address h.registers)).mono ?_
    rintro _ _ _ ⟨rfl, rfl, rfl⟩
    refine ⟨rfl, ⟨⟨h.up, h.refusals, h.queued⟩, h.selected, h.status, h.speed, h.reading, h.inbox,
      h.address, h.registers⟩, _, _, rfl, .asked r _ _, ?_⟩
    intro _ hfailing
    simp [hfailing]

end Linked

end SpindleDrive
