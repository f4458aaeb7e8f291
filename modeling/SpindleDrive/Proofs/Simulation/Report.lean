import SpindleDrive.Proofs.Operation.Previewing
import SpindleDrive.Proofs.Simulation.Look

/-!
# What a simulated run reports

A run selects its spindle, starts it with some failures due, looks at it tick by tick and stops it.
The failures are first those of the start; what the start leaves of them falls on the readings of
the ticks, and what these leave falls on the stop.

* `Simulation.Reports` — what a report says, given how often the speed was read.
* `Simulation.Opened`, `Simulation.Begun`, `Ticked` — the run before the start, before the ticks,
  and between them.
* `Simulation.leads_tick`, `Simulation.leads_ticking` — what a tick keeps, and what is seen.
* **`Simulation.report_of_run`** — every run for a valid configuration ends with such a report.
-/

namespace SpindleDrive

open Operation

namespace Simulation

/-- The speed that a drive reaches when it is asked for the speed of the run. -/
def reached (sim : Simulation) (s : Spindle) : Binary32 :=
  if sim.rpm.isZero then .zero else s.reader.scale.toSpeed (s.reader.scale.toCode sim.rpm)

/-- The verdict on that speed: it is in the band of the tolerance, or there is no check. -/
def verdict (sim : Simulation) (s : Spindle) : Bool :=
  !sim.tolerance.isNonneg ||
    (Binary32.le (sim.rpm * (SpeedData.one - sim.tolerance / SpeedData.hundred)) (sim.reached s) &&
      Binary32.le (sim.reached s) (sim.rpm * (SpeedData.one + sim.tolerance / SpeedData.hundred)))

/-- **What a report says** of a run that has read the speed so often, answered or not.  The start
and the stop make `s.retries` attempts each. -/
structure Reports (sim : Simulation) (s : Spindle) (readings : Nat) (report : SimulationReport) :
    Prop where
  polls : report.polls.length = sim.ticks.toNat
  maxSpeed : report.maxSpeed.isSome = s.registers.maxFrequency.isSome
  alarms : report.alarms =
    if sim.failures < s.retries then 0
    else if sim.failures < 2 * s.retries + readings then 1
    else 2
  started : sim.failures < s.retries → ∀ poll ∈ report.polls,
    poll = ⟨{ on := true, ccw := sim.ccw, atSpeed := sim.verdict s }, sim.reached s⟩
  stopped : s.retries ≤ sim.failures → ∀ poll ∈ report.polls,
    poll.state.on = true ∧ poll.rpm = .zero

end Simulation

/-! ## The highest speed -/

/-- A reply that tells the highest frequency of a drive. -/
def Reply.TellsMax (reply : Reply) : Prop :=
  ∃ told : ReadReply, reply = ⟨.getMaxSpeed, .response told.toFrame⟩

/-- Such replies tell the highest speed, and nothing else. -/
lemma Spindle.takeAll_max (s : Spindle) (coldStart : Bool) {replies : List Reply}
    (h : ∀ reply ∈ replies, reply.TellsMax) (c : SpindleContext) :
    (s.takeAll coldStart replies c).data = c.data ∧
      (s.takeAll coldStart replies c).maxSpeed.isSome =
        (c.maxSpeed.isSome || !replies.isEmpty) := by
  induction replies generalizing c with
  | nil => exact ⟨rfl, (Bool.or_false _).symm⟩
  | cons reply rest ih =>
      obtain ⟨told, rfl⟩ := h reply List.mem_cons_self
      obtain ⟨hdata, hmax⟩ := ih (fun reply hmem => h reply (List.mem_cons_of_mem _ hmem))
        (s.takeIn ⟨.getMaxSpeed, .response told.toFrame⟩ [] coldStart c)
      rw [Spindle.takeAll, List.foldl_cons]
      refine ⟨hdata.trans ?_, hmax.trans ?_⟩
      · simp [Spindle.takeIn, ReplyReader.read, ReplyReader.readResponse,
          ReadReply.ofFrame_toFrame]
      · simp [Spindle.takeIn, ReplyReader.read, ReplyReader.readResponse,
          ReadReply.ofFrame_toFrame]

/-- A rig on which nothing has happened but questions that are not about the speed, with the replies
to them. -/
def Rig.Probed (r : Rig) (replies : List Reply) (r' : Rig) : Prop :=
  ∃ log, Rig.readings log = Rig.readings r.bus.log ∧
    r' = { r with bus := { r.bus with log, pending := r.bus.pending ++ replies } }

lemma Linked.probed {s : Spindle} {c : SpindleContext} {r r' : Rig} {replies : List Reply}
    (h : Linked s c r) (h' : r.Probed replies r') : Linked s c r' := by
  obtain ⟨log, -, rfl⟩ := h'
  exact ⟨⟨h.up, h.refusals, h.queued⟩, h.selected, h.status, h.speed, h.reading, h.inbox,
    h.address, h.registers⟩

lemma Rig.Probed.trans {r r' r'' : Rig} {replies replies' : List Reply}
    (h : r.Probed replies r') (h' : r'.Probed replies' r'') :
    r.Probed (replies ++ replies') r'' := by
  obtain ⟨log, hlog, rfl⟩ := h
  obtain ⟨log', hlog', rfl⟩ := h'
  exact ⟨log', hlog'.trans hlog, by rw [List.append_assoc]⟩

/-- A question that is not lost. -/
lemma Rig.probed_asked {r : Rig} {request : Request} (hkind : request.kind ≠ .getSpeed)
    (hfailing : r.bus.failing = 0) (frame : Frame) :
    r.Probed [⟨request.kind, .response frame⟩] (r.asked request frame) := by
  refine ⟨(request, .nonBlocking) :: r.bus.log, ?_, ?_⟩
  · rw [readings_cons, if_neg hkind, Nat.add_zero]
  · simp [asked, hfailing]

/-- **Asking for the highest speed** with no failure due: there is a reply if there is a
register. -/
lemma Linked.leads_requestMaxSpeed {s : Spindle} {c : SpindleContext} {r : Rig} {patience : Nat}
    (h : Linked s c r) (hfailing : r.bus.failing = 0) :
    Leads (s.requestMaxSpeed (Rig.surroundings s.id) patience)
      (fun result c' r' => result = some (.ok ()) ∧ c' = c ∧ ∃ replies, r.Probed replies r' ∧
        (∀ reply ∈ replies, reply.TellsMax) ∧
        (!replies.isEmpty) = s.registers.maxFrequency.isSome) c r := by
  refine Operation.leads_requestMaxSpeed (fun hsel => ?_) (fun _ habsent => ?_)
    fun _ request hrequest => ?_
  · simp [h.selected] at hsel
  · have hnone : s.registers.maxFrequency = none := Option.map_eq_none_iff.1 habsent
    refine ⟨rfl, rfl, [], ⟨r.bus.log, rfl, ?_⟩, by simp, by simp [hnone]⟩
    rw [List.append_nil]
  · obtain ⟨value, hanswers⟩ := answers_readMax h.address h.registers hrequest
    obtain ⟨register, hregister, rfl⟩ := Option.map_eq_some_iff.1 hrequest
    refine (Rig.leads_sendOnce h.toAnswering hanswers).mono ?_
    rintro _ _ _ ⟨rfl, rfl, rfl⟩
    refine ⟨rfl, rfl, _, Rig.probed_asked (by rintro ⟨⟩) hfailing _, ?_, ?_⟩
    · intro reply hmem
      exact ⟨_, List.mem_singleton.1 hmem⟩
    · rw [hregister]
      rfl

/-- **Delivering what tells the highest speed.** -/
lemma Linked.leads_pumpMax {s : Spindle} {c : SpindleContext} {r : Rig} (h : Linked s c r)
    (htells : ∀ reply ∈ r.bus.pending, reply.TellsMax) :
    Leads (Rig.pump s)
      (fun told c' r' => told = some () ∧ Linked s c' r' ∧ c.Informed c' ∧ c'.data = c.data ∧
        c'.maxSpeed.isSome = (c.maxSpeed.isSome || !r.bus.pending.isEmpty) ∧
        r' = { r with bus := { r.bus with pending := [] } }) c r := by
  have hcalm : ∀ reply ∈ r.bus.pending, reply.isException = false := by
    intro reply hmem
    obtain ⟨told, rfl⟩ := htells reply hmem
    rfl
  refine (Rig.leads_pump h.reading h.inbox hcalm).mono ?_
  rintro _ _ _ ⟨rfl, rfl, rfl⟩
  have hinformed := SpindleContext.Informed.takeAll s r.host.coldStart r.bus.pending c
  obtain ⟨hdata, hmax⟩ := s.takeAll_max r.host.coldStart htells c
  exact ⟨rfl, (h.informed hinformed).delivered, hinformed, hdata, hmax, rfl⟩

/-! ## The start of a run -/

namespace Simulation

/-- The spindle as it is taken into use. -/
def taken (s : Spindle) (c : SpindleContext) : SpindleContext :=
  { c with
    selection := some ⟨s.id, 0⟩
    data := { c.data with programmed := noSpeed }
    address := s.config.modbusAddress 0 }

/-- **Before the start**: the spindle is selected, the tolerance is set, and nothing is due. -/
structure Opened (sim : Simulation) (s : Spindle) (c : SpindleContext) (r : Rig) : Prop
    extends Linked s c r where
  tolerance : r.registry.tolerance s.id = sim.tolerance
  checked : c.data.checked = sim.tolerance.isNonneg
  measured : c.data.measured = .zero
  unpolled : c.lastPoll = none
  maxSpeed : c.maxSpeed.isSome = s.registers.maxFrequency.isSome
  running : r.bus.drive.running = false
  pending : r.bus.pending = []
  readings : Rig.readings r.bus.log = 0
  alarms : r.host.alarms = []

/-- **Taking the spindle into use**, which may ask for the highest speed. -/
lemma leads_taken {s : Spindle} {c : SpindleContext} {r : Rig} {patience : Nat}
    (h : Linked s (taken s c) (r.modifyBus (·.silence))) (hfailing : r.bus.failing = 0) :
    Leads (s.bind (Rig.surroundings s.id) patience ⟨s.id, 0⟩)
      (fun told c' r' => told = some () ∧ c' = taken s c ∧ ∃ replies,
        (r.modifyBus (·.silence)).Probed replies r' ∧ (∀ reply ∈ replies, reply.TellsMax) ∧
        ((!replies.isEmpty) = true → s.registers.maxFrequency.isSome = true)) c r := by
  refine leads_bindTo (fun hother => absurd rfl hother) fun _ => ?_
  dsimp only
  split
  · refine (h.leads_requestMaxSpeed hfailing).mono ?_
    rintro _ _ r' ⟨rfl, rfl, replies, hprobed, htells, hregister⟩
    exact ⟨rfl, rfl, replies, hprobed, htells, fun hsome => hregister ▸ hsome⟩
  · exact ⟨rfl, rfl, [], ⟨r.bus.log, rfl, by rw [List.append_nil]; rfl⟩, by simp, by simp⟩

/-- **Selecting the spindle of a run** that has been made and entered. -/
lemma leads_select (sim : Simulation) {s : Spindle} {exceptions : ExceptionCounter}
    {registry : Registry} {d : Descriptor} (hentered : registry.get? s.id = some d) :
    Leads (sim.select s) (fun told c r => told = some () ∧ sim.Opened s c r)
      { address := s.config.modbusAddress 0, exceptions } (rig s.config registry) := by
  simp only [select, leads_bind, Rig.leads_patience]
  refine leads_applySettings (fun hunchanged => by simp at hunchanged) fun _ => ?_
  have h₁ : Linked s
      (taken s
        { address := s.config.modbusAddress 0, exceptions
          data := { checked := sim.tolerance.isNonneg } })
      ((rig s.config (registry.modify s.id ({ · with tolerance := sim.tolerance }))).modifyBus
        (·.silence)) :=
    ⟨⟨rfl, rfl, rfl⟩, rfl, rfl, rfl, rfl, rfl, rfl, rfl⟩
  refine (leads_taken h₁ rfl).mono ?_
  rintro _ _ r₂ ⟨rfl, rfl, replies, hprobed, htells, hregister⟩
  have h₂ := h₁.probed hprobed
  have hfailing : r₂.bus.failing = 0 := by
    obtain ⟨_, -, rfl⟩ := hprobed
    rfl
  refine (h₂.leads_requestMaxSpeed hfailing).mono ?_
  rintro _ _ r₃ ⟨rfl, rfl, replies', hprobed', htells', hregister'⟩
  have htold : ∀ reply ∈ replies ++ replies', reply.TellsMax :=
    List.forall_mem_append.2 ⟨htells, htells'⟩
  have h₃ := h₂.probed hprobed'
  obtain ⟨log, hlog, rfl⟩ := hprobed.trans hprobed'
  refine (h₃.leads_pumpMax htold).mono ?_
  rintro _ c _ ⟨rfl, h₄, hinformed, hdata, hmax, rfl⟩
  refine ⟨rfl, ?_⟩
  constructor
  case toLinked => exact h₄
  case tolerance => exact Registry.tolerance_modify hentered sim.tolerance
  case checked => exact congrArg SpeedData.checked hdata
  case measured => exact congrArg SpeedData.measured hdata
  case unpolled => exact hinformed.lastPoll
  case maxSpeed =>
    have hsome : (!(replies ++ replies').isEmpty) = s.registers.maxFrequency.isSome := by
      cases replies with
      | nil => exact hregister'
      | cons => exact (hregister rfl).symm
    exact hmax.trans hsome
  case running => rfl
  case pending => rfl
  case readings => exact hlog
  case alarms => rfl

/-- **Before the ticks**: the start has used up as many failures as it has attempts, and with one
attempt left over the drive runs at its speed. -/
structure Begun (sim : Simulation) (s : Spindle) (c : SpindleContext) (r : Rig) : Prop
    extends Linked s c r where
  on : c.state.on = true
  ccw : c.state.ccw = sim.ccw
  measured : c.data.measured = .zero
  unpolled : c.lastPoll = none
  maxSpeed : c.maxSpeed.isSome = s.registers.maxFrequency.isSome
  pending : r.bus.pending = []
  readings : Rig.readings r.bus.log = 0
  failing : r.bus.failing = sim.failures - s.retries
  alarms : r.host.alarms.length = if sim.failures < s.retries then 0 else 1
  driven : s.speedOf r.bus.drive = if sim.failures < s.retries then sim.reached s else .zero
  accepts : sim.failures < s.retries → c.data.accepts (sim.reached s) = sim.verdict s

/-- **Starting the spindle of a run.** -/
lemma Opened.leads_start {sim : Simulation} {s : Spindle} {c : SpindleContext} {r : Rig}
    (h : sim.Opened s c r) (hretries : 0 < s.retries) :
    Leads (command s sim.state sim.rpm) (fun told c' r' => told = some () ∧ sim.Begun s c' r') c
      (r.modifyBus (·.failNext sim.failures)) := by
  have hlinked : Linked s c (r.modifyBus (·.failNext sim.failures)) :=
    ⟨⟨h.up, h.refusals, h.queued⟩, h.selected, h.status, h.speed, h.reading, h.inbox, h.address,
      h.registers⟩
  have hon : sim.state.on = true := by
    rw [state]
    split <;> rfl
  have hccw : sim.state.ccw = sim.ccw := by
    rw [state]
    cases sim.ccw <;> rfl
  simp only [command, leads_bind, Rig.leads_patience]
  refine (hlinked.leads_setState hretries sim.state sim.rpm).mono ?_
  rintro _ c' r' ⟨log, hlog, hstarted⟩
  have hreadings : Rig.readings log = 0 := hlog.trans h.readings
  have hfailures : (r.modifyBus (·.failNext sim.failures)).bus.failing = sim.failures := rfl
  rw [hfailures] at hstarted
  by_cases hdue : sim.failures < s.retries
  case pos =>
    rw [if_pos hdue] at hstarted
    obtain ⟨rfl, rfl, rfl⟩ := hstarted
    refine ⟨rfl, ?_⟩
    constructor
    case toLinked =>
      exact ⟨⟨h.up, h.refusals, h.queued⟩, h.selected, rfl, rfl, h.reading, rfl, h.address,
        h.registers⟩
    case on => exact hon
    case ccw => exact hccw
    case measured => exact h.measured
    case unpolled => exact h.unpolled
    case maxSpeed => exact h.maxSpeed
    case pending => exact h.pending
    case readings => exact hreadings
    case failing => exact (Nat.sub_eq_zero_of_le (Nat.le_of_lt hdue)).symm
    case alarms =>
      rw [if_pos hdue]
      exact congrArg List.length h.alarms
    case driven =>
      rw [if_pos hdue, s.speedOf_started, hon, reached]
      cases sim.rpm.isZero <;> rfl
    case accepts =>
      intro _
      have htolerance : (r.modifyBus (·.failNext sim.failures)).registry.tolerance s.id =
          sim.tolerance := h.tolerance
      rw [htolerance]
      simp [SpindleContext.started, SpindleContext.takeCommand, SpeedData.program,
        SpeedData.accepts, verdict, h.checked]
  case neg =>
    rw [if_neg hdue] at hstarted
    obtain ⟨rfl, rfl, rfl⟩ := hstarted
    refine ⟨rfl, ?_⟩
    constructor
    case toLinked =>
      exact ⟨⟨h.up, h.refusals, h.queued⟩, h.selected, rfl, h.speed, h.reading, h.inbox,
        h.address, h.registers⟩
    case on => exact hon
    case ccw => exact hccw
    case measured => exact h.measured
    case unpolled => exact h.unpolled
    case maxSpeed => exact h.maxSpeed
    case pending => exact h.pending
    case readings => exact hreadings
    case failing => rfl
    case alarms =>
      rw [if_neg hdue]
      show (r.host.alarms ++ [Alarm.spindle]).length = 1
      rw [h.alarms]
      rfl
    case driven =>
      rw [if_neg hdue]
      show s.speedOf r.bus.drive = .zero
      rw [Spindle.speedOf, h.running]
      rfl
    case accepts => exact fun hpos => absurd hpos hdue

end Simulation

/-! ## The ticks -/

/-- **What ticks leave** of the spindle and the rig that they began with: the speeds are as they
were or with the speed of the drive measured, and the readings have used up the failures due. -/
structure Ticked (s : Spindle) (c₀ : SpindleContext) (r₀ : Rig) (c : SpindleContext) (r : Rig) :
    Prop extends Linked s c r where
  drive : r.bus.drive = r₀.bus.drive
  alarms : r.host.alarms = r₀.host.alarms
  on : c.state.on = c₀.state.on
  ccw : c.state.ccw = c₀.state.ccw
  maxSpeed : c.maxSpeed = c₀.maxSpeed
  data : c.data = c₀.data ∨ c.data = c₀.data.measure (s.speedOf r₀.bus.drive)
  pending : ∀ reply ∈ r.bus.pending, reply = r₀.bus.drive.reading
  readings : Rig.readings r₀.bus.log ≤ Rig.readings r.bus.log
  failing : r.bus.failing =
    r₀.bus.failing - (Rig.readings r.bus.log - Rig.readings r₀.bus.log)
  fresh : r₀.bus.failing = 0 →
    c.lastPoll = none ∨ c.data = c₀.data.measure (s.speedOf r₀.bus.drive)

lemma Ticked.refl {s : Spindle} {c : SpindleContext} {r : Rig} (h : Linked s c r)
    (hpending : r.bus.pending = []) (hunpolled : c.lastPoll = none) : Ticked s c r c r where
  toLinked := h
  drive := rfl
  alarms := rfl
  on := rfl
  ccw := rfl
  maxSpeed := rfl
  data := .inl rfl
  pending := by simp [hpending]
  readings := Nat.le_refl _
  failing := by omega
  fresh _ := .inl hunpolled

/-- A look at the end of a tick. -/
lemma Ticked.looked {s : Spindle} {c₀ c c' : SpindleContext} {r₀ r r' : Rig}
    (h : Ticked s c₀ r₀ c r) {length : UInt64}
    (h' : Looked s c { r with host := r.host.advance length } c' r') : Ticked s c₀ r₀ c' r' := by
  have hpending : ∀ reply ∈ r.bus.pending, reply = r.bus.drive.reading := by
    rw [h.drive]
    exact h.pending
  obtain ⟨hmax, hdata, hmeasured⟩ := h'.data hpending
  dsimp only at hdata hmeasured
  rw [h.drive] at hdata hmeasured
  have honce : c.data.measure (s.speedOf r₀.bus.drive) =
      c₀.data.measure (s.speedOf r₀.bus.drive) := by
    rcases h.data with hdata | hdata
    · rw [hdata]
    · rw [hdata, SpeedData.measure_measure]
  constructor
  case toLinked => exact h'.linked
  case drive => exact h'.drive.trans h.drive
  case alarms => exact (congrArg SimulatedHost.alarms h'.host).trans h.alarms
  case on => exact (congrArg SpindleState.on h'.state).trans h.on
  case ccw => exact (congrArg SpindleState.ccw h'.state).trans h.ccw
  case maxSpeed => exact hmax.trans h.maxSpeed
  case data =>
    rcases hdata with hdata | hdata
    · rw [hdata]
      exact h.data
    · exact .inr (hdata.trans honce)
  case pending =>
    intro reply hmem
    rw [h'.pending reply hmem]
    exact congrArg _ h.drive
  case readings => exact Nat.le_trans h.readings h'.readings
  case failing =>
    have hreadings := h.readings
    have hreadings' := h'.readings
    have hfailing := h.failing
    have hfailing' := h'.failing
    dsimp only at hreadings' hfailing'
    omega
  case fresh =>
    intro hnone
    right
    have hfailing : r.bus.failing = 0 := by rw [h.failing, hnone, Nat.zero_sub]
    rcases h.fresh hnone with hunpolled | hknown
    · have hdue : c.pollDue (r.host.advance length).elapsed s.config.pollInterval = true := by
        simp [SpindleContext.pollDue, hunpolled]
      exact (hmeasured hdue hfailing).trans honce
    · rcases hdata with hdata | hdata
      · exact hdata.trans hknown
      · exact hdata.trans honce

/-- **What is seen at a tick**, which is the drive's speed with the verdict on it if no reading can
have been lost. -/
structure Seen (s : Spindle) (c₀ : SpindleContext) (r₀ : Rig) (poll : Poll) : Prop where
  on : poll.state.on = c₀.state.on
  ccw : poll.state.ccw = c₀.state.ccw
  rpm : poll.rpm = c₀.data.measured ∨ poll.rpm = s.speedOf r₀.bus.drive
  fresh : r₀.bus.failing = 0 → poll.rpm = s.speedOf r₀.bus.drive ∧
    poll.state.atSpeed = c₀.data.accepts (s.speedOf r₀.bus.drive)

namespace Simulation

variable {sim : Simulation} {s : Spindle} {c₀ c : SpindleContext} {r₀ r : Rig}

/-- **A tick** keeps what ticks leave. -/
lemma leads_tick (h : Ticked s c₀ r₀ c r) :
    Leads (sim.tick s) (fun told c' r' => Ticked s c₀ r₀ c' r' ∧
      ∃ poll, told = some poll ∧ Seen s c₀ r₀ poll) c r := by
  have hlook : sim.tick s = (do
      affect fun r => { r with host := r.host.advance sim.tickLength }
      let state ← s.look
      let data ← Spindle.getData
      return ⟨state, data.measured⟩) := by
    simp only [tick, Spindle.look, bind_assoc]
  have hlinked : Linked s c { r with host := r.host.advance sim.tickLength } :=
    ⟨⟨h.up, h.refusals, h.queued⟩, h.selected, h.status, h.speed, h.reading, h.inbox, h.address,
      h.registers⟩
  have hcalm := SimulatedDrive.isException_of_readings h.pending
  simp only [hlook, Spindle.getData, leads_bind, leads_affect, leads_context, leads_pure]
  refine (hlinked.leads_look hcalm).mono ?_
  rintro _ c' r' ⟨rfl, hlooked⟩
  have hticked := h.looked hlooked
  refine ⟨hticked, _, rfl, ?_⟩
  constructor
  case on => exact hticked.on
  case ccw => exact hticked.ccw
  case rpm =>
    rcases hticked.data with hdata | hdata
    · exact .inl (by rw [hdata])
    · exact .inr (by rw [hdata]; rfl)
  case fresh =>
    intro hnone
    rcases hticked.fresh hnone with hunpolled | hknown
    · have hpolled := hlooked.polled
      simp [hunpolled] at hpolled
    · have hverdict := congrArg SpindleState.atSpeed hlooked.state
      exact ⟨by rw [hknown]; rfl, hverdict.trans (by rw [hknown]; rfl)⟩

/-- **Ticks in a row**: each of them sees something, in addition to what was seen before. -/
theorem leads_ticking (n : Nat) : ∀ {seen : List Poll} {c : SpindleContext} {r : Rig},
    Ticked s c₀ r₀ c r →
    Leads (sim.ticking s seen n) (fun told c' r' => Ticked s c₀ r₀ c' r' ∧
      ∃ polls, told = some (seen.reverse ++ polls) ∧ polls.length = n ∧
        ∀ poll ∈ polls, Seen s c₀ r₀ poll) c r := by
  induction n with
  | zero =>
      intro seen c r h
      exact ⟨h, [], by rw [List.append_nil], rfl, by simp⟩
  | succ n ih =>
      intro seen c r h
      rw [ticking, leads_bind]
      refine (leads_tick h).mono ?_
      rintro _ c r ⟨h, poll, rfl, hseen⟩
      refine (ih h).mono ?_
      rintro _ c r ⟨h, polls, rfl, hlength, hpolls⟩
      refine ⟨h, poll :: polls, ?_, congrArg (· + 1) hlength, ?_⟩
      · rw [List.reverse_cons, List.append_assoc]
        rfl
      · exact List.forall_mem_cons.2 ⟨hseen, hpolls⟩

/-! ## The whole run -/

/-- **Stopping the spindle** alarms the host if the failures that are due use up the attempts. -/
lemma leads_stop (h : Linked s c r) (hretries : 0 < s.retries) :
    Leads (command s .off .zero) (fun told c' r' => told = some () ∧ c'.reading = false ∧
      c'.inbox = [] ∧ c'.maxSpeed = c.maxSpeed ∧ r'.bus.pending = r.bus.pending ∧
      Rig.readings r'.bus.log = Rig.readings r.bus.log ∧
      r'.host.alarms.length =
        r.host.alarms.length + if r.bus.failing < s.retries then 0 else 1) c r := by
  simp only [command, leads_bind, Rig.leads_patience]
  refine (h.leads_setState hretries .off .zero).mono ?_
  rintro _ c' r' ⟨log, hlog, hstopped⟩
  by_cases hdue : r.bus.failing < s.retries
  case pos =>
    rw [if_pos hdue] at hstopped ⊢
    obtain ⟨rfl, rfl, rfl⟩ := hstopped
    exact ⟨rfl, h.reading, rfl, rfl, rfl, hlog, rfl⟩
  case neg =>
    rw [if_neg hdue] at hstopped ⊢
    obtain ⟨rfl, rfl, rfl⟩ := hstopped
    exact ⟨rfl, h.reading, h.inbox, rfl, rfl, hlog, List.length_append⟩

/-- **The run** of a spindle that has been made and entered. -/
theorem leads_operate (sim : Simulation) {s : Spindle} (hretries : 0 < s.retries)
    {exceptions : ExceptionCounter} {registry : Registry} {d : Descriptor}
    (hentered : registry.get? s.id = some d) :
    Leads (sim.operate s)
      (fun told _ r => ∃ report, told = some report ∧
        sim.Reports s (Rig.readings r.bus.log) report)
      { address := s.config.modbusAddress 0, exceptions } (rig s.config registry) := by
  simp only [operate, leads_bind, leads_affect]
  refine (sim.leads_select hentered).mono ?_
  rintro _ c r ⟨rfl, hopened⟩
  refine (hopened.leads_start hretries).mono ?_
  rintro _ c₀ r₀ ⟨rfl, hbegun⟩
  refine (leads_ticking sim.ticks.toNat
    (Ticked.refl hbegun.toLinked hbegun.pending hbegun.unpolled)).mono ?_
  rintro _ c₁ r₁ ⟨hticked, polls, rfl, hlength, hseen⟩
  refine (leads_stop hticked.toLinked hretries).mono ?_
  rintro _ c₂ r₂ ⟨rfl, hreading, hinbox, hmax, hpending, hreadings, halarms⟩
  have hwaiting : ∀ reply ∈ r₂.bus.pending, reply = r₀.bus.drive.reading := by
    rw [hpending]
    exact hticked.pending
  have hcalm := SimulatedDrive.isException_of_readings hwaiting
  refine (Rig.leads_pump hreading hinbox hcalm).mono ?_
  rintro _ _ _ ⟨rfl, rfl, rfl⟩
  simp only [leads_context, leads_observe, leads_pure]
  refine ⟨_, rfl, ?_⟩
  constructor
  case polls => exact hlength
  case maxSpeed =>
    dsimp only
    rw [(s.takeAll_readings _ hwaiting c₂).2, hmax, hticked.maxSpeed]
    exact hbegun.maxSpeed
  case alarms =>
    have hfailing := hticked.failing
    rw [hbegun.failing, hbegun.readings] at hfailing
    dsimp only
    rw [halarms, hticked.alarms, hbegun.alarms, hreadings]
    by_cases hstarted : sim.failures < s.retries
    · rw [if_pos hstarted, if_pos hstarted, if_pos (by omega)]
    · rw [if_neg hstarted, if_neg hstarted]
      by_cases hstopped : sim.failures < 2 * s.retries + Rig.readings r₁.bus.log
      · rw [if_pos hstopped, if_pos (by omega)]
      · rw [if_neg hstopped, if_neg (by omega)]
  case started =>
    intro hstarted poll hmem
    have hpoll := hseen poll hmem
    have hfailing : r₀.bus.failing = 0 := by rw [hbegun.failing]; omega
    obtain ⟨hrpm, hverdict⟩ := hpoll.fresh hfailing
    rw [hbegun.driven, if_pos hstarted] at hrpm hverdict
    rw [hbegun.accepts hstarted] at hverdict
    have hon := hpoll.on.trans hbegun.on
    have hccw := hpoll.ccw.trans hbegun.ccw
    obtain ⟨⟨on, ccw, atSpeed⟩, rpm⟩ := poll
    dsimp only at hrpm hverdict hon hccw
    rw [hrpm, hverdict, hon, hccw]
  case stopped =>
    intro hstopped poll hmem
    have hpoll := hseen poll hmem
    refine ⟨hpoll.on.trans hbegun.on, ?_⟩
    rcases hpoll.rpm with hrpm | hrpm
    · rw [hrpm, hbegun.measured]
    · rw [hrpm, hbegun.driven, if_neg (Nat.not_lt.2 hstopped)]

/-- **What a run reports.**  For every valid configuration the run comes to its end, and there is a
report: there are as many polls as ticks, a highest speed exactly if the model has a register for
it, and so many alarms as the start and the stop have used up their attempts.  The readings are all
requests of that kind, which are sent by the ticks alone. -/
theorem report_of_run {c : Config} (valid : c.validate = .ok ()) (sim : Simulation) :
    ∃ s context registry report c' r',
      ({ config := some c } : SpindlePlan).build {} = .ok ((s, context), registry) ∧
      s.config = c ∧ c.speedScale = .ok s.reader.scale ∧
      (sim.operate s).run.run (context, rig c registry) = (some report, c', r') ∧
      sim.run c = .ok (some report) ∧ sim.Reports s (Rig.readings r'.bus.log) report := by
  obtain ⟨s, scale, hscale, hid, rfl, rfl, hmake⟩ := Spindle.exists_make ⟨0⟩ valid
  have hbuild : ({ config := some s.config } : SpindlePlan).build {} = .ok
      ((s, { address := s.config.modbusAddress 0
             exceptions := .ofBound s.config.retries.toNat }),
        { descriptors := [({ config := some s.config } : SpindlePlan).descriptor] }) :=
    SpindlePlan.build_of_make rfl rfl valid rfl hmake
  have hretries : 0 < s.retries := (Spindle.make_eq_ok hmake).2.1
  have hentered : ({ descriptors := [({ config := some s.config } : SpindlePlan).descriptor] } :
      Registry).get? s.id = some ({ config := some s.config } : SpindlePlan).descriptor := by
    rw [hid]
    rfl
  obtain ⟨report, c', r', hrun, hreports⟩ := (sim.leads_operate hretries hentered).exists_run
  refine ⟨s, _, _, report, c', r', hbuild, rfl, hscale, hrun, ?_, hreports⟩
  rw [run, hbuild]
  exact congrArg (fun told => Except.ok told.1) hrun

/-- With three attempts at the start and three failures, the spindle is never started. -/
theorem report_of_failed_start :
    ({ retries := 3 } : Config).validate = .ok () ∧
    ∃ report, ({ ticks := 3, failures := 3 } : Simulation).run { retries := 3 } =
        .ok (some report) ∧
      report.polls.length = 3 ∧ report.alarms = 1 ∧ ∀ poll ∈ report.polls, poll.rpm = .zero := by
  have hvalid : ({ retries := 3 } : Config).validate = .ok () := by decide +kernel
  obtain ⟨s, _, _, report, _, r', -, hconfig, -, -, hrun, hreports⟩ :=
    report_of_run hvalid { ticks := 3, failures := 3 }
  have hretries : s.retries = 3 := by rw [Spindle.retries, hconfig]; rfl
  refine ⟨hvalid, report, hrun, hreports.polls, ?_, fun poll hmem => ?_⟩
  · rw [hreports.alarms, hretries, if_neg (Nat.lt_irrefl 3), if_pos]
    exact Nat.lt_of_lt_of_le (by decide) (Nat.le_add_right 6 _)
  · exact (hreports.stopped (Nat.le_of_eq hretries) poll hmem).2

end Simulation

end SpindleDrive
