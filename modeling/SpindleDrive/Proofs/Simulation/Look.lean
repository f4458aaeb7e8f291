import SpindleDrive.Proofs.Simulation.Link

/-!
# Looking at a spindle on a rig

The host asks for the state, delivers the replies that wait on the bus, and asks again.  A look
leaves everything as it was but what is known about the spindle, and the failures that its readings
have met with.

* `Spindle.takeAll`, `SpindleContext.Informed` — replies taken in one after the other.
* `Rig.leads_pump` — the delivery of what waits on the bus.
* `Spindle.look`, `Looked` — a look and what it leaves behind.
* **`Linked.leads_look`**, `Looked.measured` — a look comes back, and a reading that is not lost is
  what is known after it.
-/

namespace SpindleDrive

open Operation

/-! ## Deliveries -/

/-- Takes in replies one after the other, with nothing left to wait. -/
def Spindle.takeAll (s : Spindle) (coldStart : Bool) (replies : List Reply) (c : SpindleContext) :
    SpindleContext :=
  replies.foldl (fun c reply => s.takeIn reply [] coldStart c) c

/-- **What replies cannot change**, however many are taken in. -/
structure SpindleContext.Informed (c c' : SpindleContext) : Prop where
  address : c'.address = c.address
  selection : c'.selection = c.selection
  state : c'.state = c.state
  statusOp : c'.statusOp = c.statusOp
  speedOp : c'.speedOp = c.speedOp
  lastPoll : c'.lastPoll = c.lastPoll
  reading : c'.reading = c.reading
  inbox : c.inbox = [] → c'.inbox = []
  accepts : c'.data.accepts = c.data.accepts

namespace SpindleContext.Informed

variable {c c' c'' : SpindleContext}

lemma refl (c : SpindleContext) : c.Informed c :=
  ⟨rfl, rfl, rfl, rfl, rfl, rfl, rfl, id, rfl⟩

lemma trans (h : c.Informed c') (h' : c'.Informed c'') : c.Informed c'' :=
  ⟨h'.address.trans h.address, h'.selection.trans h.selection, h'.state.trans h.state,
    h'.statusOp.trans h.statusOp, h'.speedOp.trans h.speedOp, h'.lastPoll.trans h.lastPoll,
    h'.reading.trans h.reading, fun hinbox => h'.inbox (h.inbox hinbox),
    h'.accepts.trans h.accepts⟩

lemma takeIn (s : Spindle) (reply : Reply) (coldStart : Bool) (c : SpindleContext) :
    c.Informed (s.takeIn reply [] coldStart c) where
  address := rfl
  selection := rfl
  state := rfl
  statusOp := rfl
  speedOp := rfl
  lastPoll := rfl
  reading := rfl
  inbox _ := rfl
  accepts := by
    rw [Spindle.takeIn]
    show (s.reader.read reply coldStart c.data c.exceptions).2.1.accepts = c.data.accepts
    rw [s.reader.read_data_eq]
    split <;> rfl

lemma takeAll (s : Spindle) (coldStart : Bool) (replies : List Reply) (c : SpindleContext) :
    c.Informed (s.takeAll coldStart replies c) := by
  induction replies generalizing c with
  | nil => exact .refl c
  | cons reply rest ih => exact (takeIn s reply coldStart c).trans (ih _)

end SpindleContext.Informed

/-- To measure a speed again changes nothing. -/
lemma SpeedData.measure_measure (data : SpeedData) (rpm : Binary32) :
    (data.measure rpm).measure rpm = data.measure rpm :=
  rfl

/-- A reading is the measured speed. -/
lemma Spindle.takeIn_reading (s : Spindle) (d : SimulatedDrive) (coldStart : Bool)
    (c : SpindleContext) :
    (s.takeIn d.reading [] coldStart c).data = c.data.measure (s.speedOf d) ∧
      (s.takeIn d.reading [] coldStart c).maxSpeed = c.maxSpeed := by
  rw [← s.toSpeed_output]
  simp [Spindle.takeIn, SimulatedDrive.reading, ReplyReader.read, ReplyReader.readResponse,
    ReadReply.ofFrame_toFrame]

/-- Readings of one drive say no more than the first of them. -/
lemma Spindle.takeAll_readings (s : Spindle) (coldStart : Bool) {d : SimulatedDrive}
    {replies : List Reply} (h : ∀ reply ∈ replies, reply = d.reading) (c : SpindleContext) :
    (s.takeAll coldStart replies c).data =
        (if replies = [] then c.data else c.data.measure (s.speedOf d)) ∧
      (s.takeAll coldStart replies c).maxSpeed = c.maxSpeed := by
  induction replies generalizing c with
  | nil => exact ⟨rfl, rfl⟩
  | cons reply rest ih =>
      obtain rfl : reply = d.reading := h reply List.mem_cons_self
      obtain ⟨hdata, hmax⟩ := s.takeIn_reading d coldStart c
      obtain ⟨ihdata, ihmax⟩ := ih (fun reply hmem => h reply (List.mem_cons_of_mem _ hmem))
        (s.takeIn d.reading [] coldStart c)
      rw [hdata] at ihdata
      rw [Spindle.takeAll, List.foldl_cons]
      refine ⟨ihdata.trans ?_, ihmax.trans hmax⟩
      rw [if_neg (List.cons_ne_nil _ _), SpeedData.measure_measure, ite_self]

/-- Replies leave the link as it is. -/
lemma Linked.informed {s : Spindle} {c c' : SpindleContext} {r : Rig} (h : Linked s c r)
    (h' : c.Informed c') : Linked s c' r where
  toAnswering := h.toAnswering
  selected := by rw [SpindleContext.isSelected, h'.selection]; exact h.selected
  status := by rw [h'.statusOp, h.status]
  speed := by rw [h'.speedOp, h.speed]
  reading := by rw [h'.reading, h.reading]
  inbox := h'.inbox h.inbox
  address := by rw [h'.address, h.address]
  registers := h.registers

/-- So does their removal from the bus. -/
lemma Linked.delivered {s : Spindle} {c : SpindleContext} {r : Rig} (h : Linked s c r) :
    Linked s c { r with bus := { r.bus with pending := [] } } :=
  ⟨⟨h.up, h.refusals, h.queued⟩, h.selected, h.status, h.speed, h.reading, h.inbox, h.address,
    h.registers⟩

namespace Rig

variable {s : Spindle} {c : SpindleContext} {r : Rig}

@[simp] lemma leads_patience {Q : Option Nat → SpindleContext → Rig → Prop} :
    Leads patience Q c r ↔ Q (some (c.inbox.length + r.bus.refusals.length + 8)) c r :=
  Iff.rfl

/-- One reply after the other is taken in, none of them being a refusal. -/
lemma leads_forM_deliver (replies : List Reply) :
    ∀ {c : SpindleContext}, c.reading = false → c.inbox = [] →
      (∀ reply ∈ replies, reply.isException = false) →
      Leads (replies.forM (deliver s))
        (fun result c' r' => result = some () ∧ c' = s.takeAll r.host.coldStart replies c ∧ r' = r)
        c r := by
  induction replies with
  | nil => exact fun _ _ _ => ⟨rfl, rfl, rfl⟩
  | cons reply rest ih =>
      intro c hreading hinbox hcalm
      obtain ⟨kind, frame | code⟩ := reply
      case exception => simp [Reply.isException] at hcalm
      show Leads (deliver s _ >>= fun _ => rest.forM (deliver s)) _ c r
      simp only [deliver, leads_bind, leads_patience]
      exact leads_deliver_response hreading hinbox fun _ =>
        ih hreading rfl fun reply hmem => hcalm reply (List.mem_cons_of_mem _ hmem)

/-- **Delivering what waits on the bus**, none of it being a refusal. -/
theorem leads_pump (hreading : c.reading = false) (hinbox : c.inbox = [])
    (hcalm : ∀ reply ∈ r.bus.pending, reply.isException = false) :
    Leads (pump s)
      (fun result c' r' => result = some () ∧
        c' = s.takeAll r.host.coldStart r.bus.pending c ∧
        r' = { r with bus := { r.bus with pending := [] } }) c r := by
  simp only [pump, leads_bind, leads_observe, leads_affect]
  exact leads_forM_deliver (r := r.modifyBus (·.takePending.2)) _ hreading hinbox hcalm

end Rig

/-! ## Looking at a spindle -/

/-- Asks for the state, has the replies delivered, and asks again. -/
def Spindle.look (s : Spindle) : Operation Rig SpindleState := do
  let env := Rig.surroundings s.id
  let _ ← s.getState env (← Rig.patience)
  Rig.pump s
  s.getState env (← Rig.patience)

/-- **What a look leaves behind.**  The replies that waited have been taken in, and after them the
reading of this look, if there was one and it was not lost; only readings can wait afterwards. -/
structure Looked (s : Spindle) (c : SpindleContext) (r : Rig) (c' : SpindleContext) (r' : Rig) :
    Prop where
  linked : Linked s c' r'
  drive : r'.bus.drive = r.bus.drive
  host : r'.host = r.host
  registry : r'.registry = r.registry
  state : c'.state = { c.state with atSpeed := c'.data.commanded.atSpeed }
  polled : c'.lastPoll.isSome = true
  pending : ∀ reply ∈ r'.bus.pending, reply = r.bus.drive.reading
  readings : Rig.readings r.bus.log ≤ Rig.readings r'.bus.log
  failing : r'.bus.failing =
    r.bus.failing - (Rig.readings r'.bus.log - Rig.readings r.bus.log)
  delivered : ∃ c₁ more, c₁.data = c.data ∧ c₁.maxSpeed = c.maxSpeed ∧
    c'.data = (s.takeAll r.host.coldStart (r.bus.pending ++ more) c₁).data ∧
    c'.maxSpeed = (s.takeAll r.host.coldStart (r.bus.pending ++ more) c₁).maxSpeed ∧
    (∀ reply ∈ more, reply = r.bus.drive.reading) ∧
    (c.pollDue r.host.elapsed s.config.pollInterval = true → r.bus.failing = 0 →
      more = [r.bus.drive.reading])

/-- **A look** comes back with the state that is known at its end. -/
theorem Linked.leads_look {s : Spindle} {c : SpindleContext} {r : Rig} (h : Linked s c r)
    (hcalm : ∀ reply ∈ r.bus.pending, reply.isException = false) :
    Leads s.look (fun told c' r' => told = some c'.state ∧ Looked s c r c' r') c r := by
  simp only [Spindle.look, leads_bind, Rig.leads_patience]
  refine h.leads_getState.mono ?_
  rintro _ _ r₁ ⟨rfl, h₁, lastPoll, more, rfl, hfirst, hmore⟩
  have hcalm₁ : ∀ reply ∈ r₁.bus.pending, reply.isException = false := by
    rw [hfirst.pending]
    exact List.forall_mem_append.2 ⟨hcalm, SimulatedDrive.isException_of_readings hfirst.replies⟩
  refine (Rig.leads_pump h₁.reading h₁.inbox hcalm₁).mono ?_
  rintro _ _ _ ⟨rfl, rfl, rfl⟩
  have hinformed := SpindleContext.Informed.takeAll s r₁.host.coldStart r₁.bus.pending
    { c with
      state := { c.state with atSpeed := c.data.commanded.atSpeed }, lastPoll := some lastPoll }
  have h₂ := (h₁.informed hinformed).delivered
  refine h₂.leads_getState.mono ?_
  rintro _ _ r₃ ⟨rfl, h₃, lastPoll', more', rfl, hsecond, -⟩
  refine ⟨rfl, ?_⟩
  constructor
  case linked => exact h₃
  case drive => exact hsecond.drive.trans hfirst.drive
  case host => exact hsecond.host.trans hfirst.host
  case registry => exact hsecond.registry.trans hfirst.registry
  case state => rw [hinformed.state]
  case polled => rfl
  case pending =>
    intro reply hmem
    rw [hsecond.pending, List.nil_append] at hmem
    rw [hsecond.replies reply hmem]
    exact congrArg _ hfirst.drive
  case readings => exact Nat.le_trans hfirst.readings hsecond.readings
  case failing =>
    have hreadings := hfirst.readings
    have hreadings' := hsecond.readings
    have hfailing := hfirst.failing
    have hfailing' := hsecond.failing
    dsimp only at hreadings' hfailing'
    omega
  case delivered =>
    refine ⟨{ c with
      state := { c.state with atSpeed := c.data.commanded.atSpeed }, lastPoll := some lastPoll },
      more, rfl, rfl, ?_, ?_, hfirst.replies, hmore⟩
    · rw [← hfirst.pending, ← hfirst.host]
    · rw [← hfirst.pending, ← hfirst.host]

/-- **A reading that is not lost** is the measured speed at the end of a look, with the verdict of
the band on it. -/
lemma Looked.measured {s : Spindle} {c c' : SpindleContext} {r r' : Rig} (h : Looked s c r c' r')
    (hdue : c.pollDue r.host.elapsed s.config.pollInterval = true) (hfailing : r.bus.failing = 0) :
    c'.data.measured = s.speedOf r.bus.drive ∧
      c'.data.commanded.atSpeed = c.data.accepts (s.speedOf r.bus.drive) := by
  obtain ⟨c₁, more, hdata, -, hdata', -, -, hmore⟩ := h.delivered
  have haccepts :=
    (SpindleContext.Informed.takeAll s r.host.coldStart r.bus.pending c₁).accepts
  rw [hdata', hmore hdue hfailing, Spindle.takeAll, List.foldl_append, List.foldl_cons,
    List.foldl_nil, (s.takeIn_reading _ _ _).1, ← hdata, ← haccepts]
  exact ⟨rfl, rfl⟩

/-- **With nothing but readings waiting**, a look leaves the speeds as they were or measures the
speed of the drive, which it does if its own reading is not lost. -/
lemma Looked.data {s : Spindle} {c c' : SpindleContext} {r r' : Rig} (h : Looked s c r c' r')
    (hpending : ∀ reply ∈ r.bus.pending, reply = r.bus.drive.reading) :
    c'.maxSpeed = c.maxSpeed ∧
      (c'.data = c.data ∨ c'.data = c.data.measure (s.speedOf r.bus.drive)) ∧
      (c.pollDue r.host.elapsed s.config.pollInterval = true → r.bus.failing = 0 →
        c'.data = c.data.measure (s.speedOf r.bus.drive)) := by
  obtain ⟨c₁, more, hdata, hmax, hdata', hmax', hreplies, hmore⟩ := h.delivered
  have hall : ∀ reply ∈ r.bus.pending ++ more, reply = r.bus.drive.reading :=
    List.forall_mem_append.2 ⟨hpending, hreplies⟩
  obtain ⟨htaken, hkept⟩ := s.takeAll_readings r.host.coldStart hall c₁
  rw [← hdata', hdata] at htaken
  rw [← hmax', hmax] at hkept
  refine ⟨hkept, ?_, fun hdue hfailing => ?_⟩
  · rw [htaken]
    split
    · exact .inl rfl
    · exact .inr rfl
  · rw [htaken, if_neg (by simp [hmore hdue hfailing])]

end SpindleDrive
