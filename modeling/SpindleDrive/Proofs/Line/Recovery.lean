import SpindleDrive.Proofs.Line.Delivery
import SpindleDrive.Proofs.Line.ClosedLoop
import SpindleDrive.Proofs.Number.Sign

/-!
# Recovery from refusals

A drive that refuses for a while is sent the speed again after each refusal, and in the end it takes
it.  On a line that hands over every reply at once all of this happens within one call; the other
way of delivery comes to the same, as the two agree.

* `Line.answer` — the reply to a write on a line without faults, and the line after it.
* `Healthy` — nothing but refusals stands between the spindle and its drive.
* `Healthy.leads_readReply_refusal` — the step: one refusal is read, and the speed is sent again.
* **`Healthy.leads_readReplies_refusals`** — the run, by induction on the refusals to come.
* `Recovered` — the spindle and the line once the drive has taken a speed.
* **`speed_recovers`** — a speed gets through any number of refusals, with an alarm for each time
  that they fill the count.
-/

namespace SpindleDrive

open Operation

/-- **Nothing stands between the spindle and its drive** but refusals: the spindle is selected and
no speed is under way, every exchange comes about, and the host does not start up. -/
structure Healthy (s : Spindle) (c : SpindleContext) (l : Line) : Prop where
  selected : c.isSelected = true
  idle : c.speedOp.isBusy = false
  address : l.drive.address = c.address
  registers : l.drive.registers = s.registers
  faults : l.faults = []
  up : l.rig.bus.up = true
  failing : l.rig.bus.failing = 0
  warm : l.rig.host.coldStart = false

namespace Line

/-- The line after an exchange, with what has become of the drive and of the refusals to come. -/
def served (l : Line) (request : Request) (drive : SimulatedDrive)
    (refusals : List ExceptionCode) : Line :=
  { l.hear request with
    rig :=
      { l.rig with
        bus := { l.rig.bus with drive, refusals, log := (request, .blocking) :: l.rig.bus.log } } }

/-- The line once the host has been alarmed so many times. -/
def alarmed (l : Line) (times : Nat) : Line :=
  { l with
    rig :=
      { l.rig with
        host :=
          { l.rig.host with alarms := l.rig.host.alarms ++ List.replicate times .spindle } } }

lemma raiseAlarm_eq (id : SpindleId) (l : Line) (full : Bool) :
    (if full then (surroundings id).raiseAlarm l else l) = l.alarmed full.toNat := by
  cases full
  · simp [alarmed]
  · rfl

/-- The reply to a write that takes the drive to `d'`, and the line after it.  A refusal that is
ordered comes before the drive. -/
def answer (l : Line) (request : Request) (d' : SimulatedDrive) : Reply × Line :=
  match l.refusals with
  | refusal :: rest => (.exception request.kind refusal, l.served request l.drive rest)
  | [] => (⟨request.kind, .response request.frame⟩, l.served request d' [])

/-- A bus that is up and loses nothing has a reply for whoever waits. -/
lemma bus_send_answer {l : Line} {request : Request} {d' : SimulatedDrive}
    (hup : l.rig.bus.up = true) (hfailing : l.rig.bus.failing = 0)
    (hwrite : Writes request l.rig.bus.drive d') :
    l.rig.bus.send request .blocking =
      (.ok (some (l.answer request d').1), (l.answer request d').2.rig.bus) := by
  rw [SimulatedBus.send]
  dsimp only
  rw [if_neg (by simp [hup]), if_neg (by simp [hfailing]), answer]
  cases hrefusals : l.refusals with
  | cons refusal rest =>
      have hsome : l.rig.bus.refusals = refusal :: rest := hrefusals
      simp only [SimulatedBus.reply?, hsome]
      rfl
  | nil =>
      have hnone : l.rig.bus.refusals = [] := hrefusals
      have hreply := bus_reply_write
        (b := { l.rig.bus with log := (request, .blocking) :: l.rig.bus.log }) hnone hwrite
      dsimp only at hreply
      rw [hreply]
      simp [SimulatedBus.hand, served, hnone]

end Line

/-- **The drive has taken a speed**, and nothing is left of the refusals but the alarms that they
have raised since the line was as `l`. -/
structure Recovered (s : Spindle) (l : Line) (rpm : Binary32) (alarms : Nat) (c' : SpindleContext)
    (l' : Line) : Prop where
  drive : l'.drive = { l.drive with frequency := s.reader.scale.toCode rpm }
  programmed : c'.data.programmed = rpm
  exceptions : c'.exceptions = .ofBound s.retries
  speedOp : c'.speedOp = .idle
  inbox : c'.inbox = []
  reading : c'.reading = false
  refusals : l'.refusals = []
  pending : l'.rig.bus.pending = l.rig.bus.pending
  alarms : l'.rig.host.alarms = l.rig.host.alarms ++ List.replicate alarms .spindle

section Prompt

variable {s : Spindle} {c : SpindleContext} {l : Line}

namespace Healthy

/-- The reply to a speed, and the line after it. -/
def answer (s : Spindle) (c : SpindleContext) (l : Line) (rpm : Binary32) : Reply × Line :=
  l.answer (Coupled.request s c rpm) { l.drive with frequency := s.reader.scale.toCode rpm }

/-- An exchange for a speed comes about, whether the sender waits or not. -/
lemma send (h : Healthy s c l) (hprompt : l.rig.synchronous = true) (rpm : Binary32)
    (mode : SendMode) :
    l.send (Coupled.request s c rpm) mode =
      (.ok (some (answer s c l rpm).1), (answer s c l rpm).2) := by
  have hwrite : Writes (Coupled.request s c rpm) l.rig.bus.drive
      { l.rig.bus.drive with frequency := s.reader.scale.toCode rpm } :=
    writes_speed h.address h.registers s.config.model.frequency_ne_command _
  have hmode : (if l.rig.synchronous then SendMode.blocking else mode) = .blocking := by
    rw [hprompt, if_pos rfl]
  have hbus := Line.bus_send_answer h.up h.failing hwrite
  simp only [Line.send, h.faults, Rig.send, hmode, hbus, List.head?_nil, Option.join_none]
  unfold answer Line.answer
  cases l.refusals <;> rfl

/-- **Sending a speed**: the reply is there, and whoever takes it finds the speed programmed. -/
lemma leads_sendSpeed (h : Healthy s c l) (hprompt : l.rig.synchronous = true)
    {onReply : Reply → Operation Line Unit} {rpm : Binary32} {blocking : Bool}
    {Q : Option (Except DriverError Unit) → SpindleContext → Line → Prop}
    (answered : ∀ reply l', answer s c l rpm = (reply, l') →
      Leads (onReply reply) (fun r c l => Q (r.map .ok) c l)
        (c.endSpeed rpm ((Line.surroundings s.id).tolerance l') .idle) l') :
    Leads (s.sendSpeed (Line.surroundings s.id) onReply rpm blocking) Q c l := by
  have hsend (mode : SendMode) :
      Leads (exchange (Line.surroundings s.id) (Coupled.request s c rpm) mode)
        (fun r c' l' => ∃ reply, r = some (.ok (some reply)) ∧
          c' = { c with speedOp := .sending } ∧ answer s c l rpm = (reply, l'))
        { c with speedOp := .sending } l := by
    rw [leads_exchange]
    dsimp only [Line.surroundings]
    rw [h.send hprompt rpm mode]
    exact ⟨_, rfl, rfl, rfl⟩
  exact leads_sendSpeed_answered (fun reply l' => answer s c l rpm = (reply, l')) h.selected h.idle
    hsend answered

/-! ## Refusals that are read -/

/-- A refusal that is read is counted, and else the spindle is as it was. -/
lemma takeIn_refusal (s : Spindle) (c : SpindleContext) (kind : RequestKind) (code : ExceptionCode)
    (rest : List Reply) :
    s.takeIn (.exception kind code) rest false c =
      { c with inbox := rest, exceptions := c.exceptions.record.2 } := rfl

/-- A refusal of a speed has the speed sent again, and an alarm raised if it fills the count. -/
lemma read_refusal (r : ReplyReader) (code : ExceptionCode) (data : SpeedData)
    (counter : ExceptionCounter) :
    (r.read (.exception .setSpeed code) false data counter).1 =
      .refused .setSpeed code (some data.reissueSpeed) counter.record.1 := rfl

/-- **One refusal is read.**  It is counted, the speed is sent again, and if the count is full an
alarm is raised after that; the reply to the speed is the next one to read. -/
lemma leads_readReply_refusal (h : Healthy s c l) (hprompt : l.rig.synchronous = true)
    {code : ExceptionCode} (hinbox : c.inbox = [.exception .setSpeed code]) :
    Leads (s.readReply (Line.surroundings s.id))
      (fun r c' l' => r = some true ∧ ∃ reply l₁, answer s c l c.data.reissueSpeed = (reply, l₁) ∧
        c' =
          { c.endSpeed c.data.reissueSpeed ((Line.surroundings s.id).tolerance l₁) .idle with
            inbox := [reply]
            exceptions := c.exceptions.record.2 } ∧
        l' = l₁.alarmed c.exceptions.record.1.toNat) c l := by
  have hwarm : (Line.surroundings s.id).isColdStart l = false := h.warm
  refine leads_readReply (fun hempty => by simp [hinbox] at hempty) fun reply rest hqueue => ?_
  obtain ⟨rfl, rfl⟩ : .exception .setSpeed code = reply ∧ [] = rest := by
    simpa [hinbox] using hqueue
  rw [hwarm, takeIn_refusal, read_refusal]
  refine leads_heed (leads_reissue (fun hnone => ?_) fun rpm hrpm => ?_)
  · simp [Finding.reissue?] at hnone
  obtain rfl : c.data.reissueSpeed = rpm := by simpa [Finding.reissue?] using hrpm
  have htaken : Healthy s { c with inbox := [], exceptions := c.exceptions.record.2 } l :=
    ⟨h.selected, h.idle, h.address, h.registers, h.faults, h.up, h.failing, h.warm⟩
  refine htaken.leads_sendSpeed hprompt fun next l₁ hanswer => ?_
  exact ⟨rfl, next, l₁, hanswer, rfl, Line.raiseAlarm_eq ..⟩

/-- The exchange of a speed leaves the line healthy. -/
lemma answered (h : Healthy s c l) {rpm : Binary32} {reply : Reply} {l₁ : Line}
    (hanswer : answer s c l rpm = (reply, l₁)) {c' : SpindleContext}
    (hselection : c'.selection = c.selection) (haddress : c'.address = c.address)
    (hidle : c'.speedOp.isBusy = false) : Healthy s c' l₁ := by
  have hserved : ∃ drive refusals, l₁ = l.served (Coupled.request s c rpm) drive refusals ∧
      drive.address = l.drive.address ∧ drive.registers = l.drive.registers := by
    rw [answer, Line.answer] at hanswer
    cases hrefusals : l.refusals with
    | nil =>
        rw [hrefusals] at hanswer
        obtain ⟨-, rfl⟩ := Prod.mk.inj hanswer
        exact ⟨_, _, rfl, rfl, rfl⟩
    | cons refusal rest =>
        rw [hrefusals] at hanswer
        obtain ⟨-, rfl⟩ := Prod.mk.inj hanswer
        exact ⟨_, _, rfl, rfl, rfl⟩
  obtain ⟨drive, refusals, rfl, hdrive, hregisters⟩ := hserved
  have hfaults : l.faults.tail = [] := by rw [h.faults, List.tail_nil]
  exact
    { selected := by rw [SpindleContext.isSelected, hselection]; exact h.selected
      idle := hidle
      address := by rw [haddress, ← h.address]; exact hdrive
      registers := hregisters.trans h.registers
      faults := hfaults
      up := h.up
      failing := h.failing
      warm := h.warm }

/-- So does an alarm. -/
lemma alarmed (h : Healthy s c l) (times : Nat) : Healthy s c (l.alarmed times) :=
  ⟨h.selected, h.idle, h.address, h.registers, h.faults, h.up, h.failing, h.warm⟩

end Healthy

/-- Counting a refusal keeps the count below its bound. -/
lemma exists_record {n bound : Nat} (h : n < bound) :
    ∃ n', (ExceptionCounter.record ⟨n, bound⟩).2 = ⟨n', bound⟩ ∧ n' < bound ∧ ∀ left,
      (n + 1 + left) / bound =
        (ExceptionCounter.record ⟨n, bound⟩).1.toNat + (n' + left) / bound := by
  by_cases hfull : bound ≤ n + 1
  · refine ⟨0, by simp [ExceptionCounter.record, hfull, ExceptionCounter.clear], by omega, ?_⟩
    intro left
    have hbound : n + 1 + left = left + bound := by omega
    rw [hbound, Nat.add_div_right left (by omega)]
    simp [ExceptionCounter.record, hfull, Nat.add_comm]
  · refine ⟨n + 1, by simp [ExceptionCounter.record, hfull], by omega, fun left => ?_⟩
    simp [ExceptionCounter.record, hfull]

/-- A refusal that has been read leaves the rest of the recovery to the refusals to come. -/
lemma Recovered.of_refusal {l' : Line} {c₁ : SpindleContext} {l₁ : Line} {rpm : Binary32}
    {first later : Nat} (h : Recovered s l' rpm later c₁ l₁) (hdrive : l'.drive = l.drive)
    (hpending : l'.rig.bus.pending = l.rig.bus.pending)
    (halarms : l'.rig.host.alarms = l.rig.host.alarms ++ List.replicate first .spindle) :
    Recovered s l rpm (first + later) c₁ l₁ where
  drive := by rw [h.drive, hdrive]
  programmed := h.programmed
  exceptions := h.exceptions
  speedOp := h.speedOp
  inbox := h.inbox
  reading := h.reading
  refusals := h.refusals
  pending := h.pending.trans hpending
  alarms := by rw [h.alarms, halarms, List.append_assoc,
    List.replicate_append_replicate]

/-- **The refusals of a speed are read one after the other**, and then the drive takes the speed.
The induction is on the refusals to come; the count lies below its bound whenever one is read. -/
theorem Healthy.leads_readReplies_refusals (refusals : List ExceptionCode) :
    ∀ {c : SpindleContext} {l : Line} {code : ExceptionCode} {n patience : Nat},
      Healthy s c l → l.rig.synchronous = true → l.refusals = refusals →
      c.inbox = [.exception .setSpeed code] → c.exceptions = ⟨n, s.retries⟩ → n < s.retries →
      refusals.length + 3 ≤ patience →
      Leads (s.readReplies (Line.surroundings s.id) patience)
        (fun r c' l' => r = some () ∧
          Recovered s l c.data.reissueSpeed ((n + 1 + refusals.length) / s.retries) c' l') c l := by
  induction refusals with
  | nil =>
      intro c l code n patience h hprompt hrefusals hinbox hcount hn hpatience
      obtain ⟨patience, rfl⟩ := Nat.exists_eq_add_of_le' hpatience
      obtain ⟨n', hrecord, hn', hdue⟩ := exists_record hn
      refine leads_readReplies_succ ((h.leads_readReply_refusal hprompt hinbox).mono ?_)
      rintro _ c' l' ⟨rfl, reply, l₁, hanswer, rfl, rfl⟩
      rw [Healthy.answer, Line.answer, hrefusals] at hanswer
      obtain ⟨rfl, rfl⟩ := Prod.mk.inj hanswer
      refine leads_readReplies_response rfl ⟨rfl, ?_⟩
      rw [List.length_nil, hdue, Nat.div_eq_of_lt (by omega), Nat.add_zero, hcount]
      exact
        { drive := rfl
          programmed := rfl
          exceptions := by
            show (ExceptionCounter.record ⟨n, s.retries⟩).2.clear = _
            rw [hrecord]
            rfl
          speedOp := rfl
          inbox := rfl
          reading := rfl
          refusals := rfl
          pending := rfl
          alarms := rfl }
  | cons refusal rest ih =>
      intro c l code n patience h hprompt hrefusals hinbox hcount hn hpatience
      obtain ⟨patience, rfl⟩ := Nat.exists_eq_add_of_le' hpatience
      obtain ⟨n', hrecord, hn', hdue⟩ := exists_record hn
      refine leads_readReplies_succ ((h.leads_readReply_refusal hprompt hinbox).mono ?_)
      rintro _ c' l' ⟨rfl, reply, l₁, hanswer, hc', rfl⟩
      have hanswered : Healthy s c' l₁ := by
        refine h.answered hanswer ?_ ?_ ?_ <;> rw [hc'] <;> rfl
      have hspeed : c'.data.reissueSpeed = c.data.reissueSpeed := by
        rw [hc']
        exact Binary32.clampBelow_clampBelow _
      have hnext : c'.exceptions = ⟨n', s.retries⟩ := by
        rw [hc', hcount]
        exact hrecord
      rw [Healthy.answer, Line.answer, hrefusals] at hanswer
      obtain ⟨rfl, rfl⟩ := Prod.mk.inj hanswer
      refine (ih (hanswered.alarmed _) hprompt rfl (by rw [hc']; rfl) hnext hn' (by simp)).mono ?_
      rintro r c'' l'' ⟨rfl, hrecovered⟩
      have hlength : n + 1 + (refusal :: rest).length = n + 1 + (1 + rest.length) := by
        rw [List.length_cons, Nat.add_comm rest.length]
      rw [hspeed] at hrecovered
      rw [hlength, hdue, ← Nat.add_assoc, ← hcount]
      exact ⟨rfl, hrecovered.of_refusal rfl rfl rfl⟩

end Prompt

/-! ## A speed and all its replies -/

/-- **A spindle is ready for a speed**: the line is healthy but for refusals, none has been counted,
and no reply waits anywhere. -/
structure Ready (s : Spindle) (c : SpindleContext) (l : Line) : Prop extends Healthy s c l where
  retries : 0 < s.retries
  exceptions : c.exceptions = .ofBound s.retries
  reading : c.reading = false
  inbox : c.inbox = []
  pending : l.rig.bus.pending = []

section Serving

variable {s : Spindle} {c : SpindleContext} {l : Line}

/-- The speed that is programmed in the end: a refusal makes the driver send it again as one that
is not below zero. -/
def Line.lastSpeed (l : Line) (rpm : Binary32) : Binary32 :=
  if l.refusals = [] then rpm else rpm.clampBelow

lemma toCode_lastSpeed (scale : SpeedScale) (l : Line) (rpm : Binary32) :
    scale.toCode (l.lastSpeed rpm) = scale.toCode rpm := by
  rw [Line.lastSpeed]
  split
  · rfl
  · exact scale.toCode_clampBelow rpm

/-- On a line that hands over every reply at once, the call itself goes through all refusals. -/
lemma Ready.leads_setSpeed (h : Ready s c l) (hprompt : l.rig.synchronous = true) (rpm : Binary32)
    (blocking : Bool) {patience : Nat} (hpatience : l.refusals.length + 3 ≤ patience) :
    Leads (s.setSpeed (Line.surroundings s.id) patience rpm blocking)
      (fun r c' l' => r = some (.ok ()) ∧
        Recovered s l (l.lastSpeed rpm) (l.refusals.length / s.retries) c' l') c l := by
  refine Operation.leads_setSpeed (h.leads_sendSpeed hprompt fun reply l₁ hanswer => ?_)
  cases hrefusals : l.refusals with
  | nil =>
      obtain ⟨patience, rfl⟩ : ∃ n, patience = n + 2 := ⟨patience - 2, by omega⟩
      rw [Healthy.answer, Line.answer, hrefusals] at hanswer
      obtain ⟨rfl, rfl⟩ := Prod.mk.inj hanswer
      refine leads_deliver_response h.reading h.inbox fun _ => ⟨rfl, ?_⟩
      exact
        { drive := by rw [Line.lastSpeed, if_pos hrefusals]; rfl
          programmed := by rw [Line.lastSpeed, if_pos hrefusals]; rfl
          exceptions := by
            show c.exceptions.clear = _
            rw [h.exceptions]
            rfl
          speedOp := rfl
          inbox := rfl
          reading := h.reading
          refusals := rfl
          pending := rfl
          alarms := by simp [Line.served, Line.surroundings, Line.hear] }
  | cons refusal rest =>
      have hanswered (inbox : List Reply) :
          Healthy s
            { c.endSpeed rpm ((Line.surroundings s.id).tolerance l₁) .idle with
              inbox, reading := true } l₁ :=
        h.answered hanswer rfl rfl rfl
      rw [Healthy.answer, Line.answer, hrefusals] at hanswer
      obtain ⟨rfl, rfl⟩ := Prod.mk.inj hanswer
      refine leads_deliver (fun hbusy => ?_) fun _ => ?_
      · have hidle : c.reading = true := hbusy
        simp [h.reading] at hidle
      have hlength : rest.length + 3 ≤ patience := by
        rw [hrefusals, List.length_cons] at hpatience
        omega
      have hinbox : c.inbox ++ [Reply.exception .setSpeed refusal] =
          [Reply.exception .setSpeed refusal] := by
        rw [h.inbox, List.nil_append]
      refine (Healthy.leads_readReplies_refusals rest (hanswered _) hprompt rfl hinbox
        h.exceptions h.retries hlength).mono ?_
      rintro r c' l' ⟨rfl, hrecovered⟩
      have hspeed : l.lastSpeed rpm = rpm.clampBelow := by simp [Line.lastSpeed, hrefusals]
      have hwhole : Recovered s l rpm.clampBelow (0 + (0 + 1 + rest.length) / s.retries) c' l' :=
        hrecovered.of_refusal rfl rfl (by simp [Line.served, Line.hear])
      rw [hspeed, List.length_cons, Nat.add_comm rest.length]
      rw [Nat.zero_add, Nat.zero_add] at hwhole
      exact ⟨rfl, hwhole⟩

/-- The whole of it: the call, and the fetching of the replies, of which none waits. -/
lemma Ready.leads_serve (h : Ready s c l) (hprompt : l.rig.synchronous = true) (rpm : Binary32)
    (blocking : Bool) :
    Leads (Line.serve s (.setSpeed rpm blocking))
      (fun r c' l' => r = some (.outcome (.ok ())) ∧
        Recovered s l (l.lastSpeed rpm) (l.refusals.length / s.retries) c' l') c l := by
  simp only [Line.serve, Line.drained, Spindle.carryOut, leads_bind, leads_map,
    Line.leads_patience]
  refine (h.leads_setSpeed hprompt rpm blocking (by omega)).mono ?_
  rintro r c' l' ⟨rfl, hrecovered⟩
  have hdrain : Leads (Line.drainAll s) (fun r c₁ l₁ => r = some () ∧ c₁ = c' ∧ l₁ = l') c' l' := by
    rw [Leads, run_drainAll_nil (hrecovered.pending.trans h.pending)]
    exact ⟨rfl, rfl, rfl⟩
  refine hdrain.mono ?_
  rintro r c₁ l₁ ⟨rfl, rfl, rfl⟩
  exact ⟨rfl, hrecovered⟩

/-- The other way of delivery comes to the same. -/
lemma Recovered.of_level {x y : Stand Line} {rpm : Binary32} {alarms : Nat}
    (h : Recovered s l rpm alarms x.1 x.2) (hlevel : Level x y)
    (hpending : l.rig.bus.pending = []) : Recovered s l rpm alarms y.1 y.2 := by
  have hnone := hlevel.pending_eq
  obtain ⟨⟨-, ⟨atSpeed, hcontext⟩, log, hline⟩, -, -⟩ := hlevel
  rw [hline] at hnone ⊢
  rw [hcontext]
  exact
    { drive := h.drive
      programmed := h.programmed
      exceptions := h.exceptions
      speedOp := h.speedOp
      inbox := h.inbox
      reading := h.reading
      refusals := h.refusals
      pending := hnone.trans hpending.symm
      alarms := h.alarms }

/-- **A speed gets through any number of refusals.**  The spindle being ready, one speed is set,
whether the host waits for it or not, and replies are fetched until none waits; the line may hand
over every reply at once or keep back those that nobody waits for.  Then the call comes back well.
The drive has the frequency of the speed and is else as it was, nothing is under way, counted or
waiting, and the host has been alarmed once for each time that the refusals fill the count.  The
speed is programmed as it was given, and as one that is not below zero if it was refused. -/
theorem speed_recovers (h : Ready s c l) (rpm : Binary32) (blocking : Bool) :
    ∃ c' l', (Line.serve s (.setSpeed rpm blocking)).run.run (c, l) =
        (some (.outcome (.ok ())), c', l') ∧
      l'.drive = { l.drive with frequency := s.reader.scale.toCode rpm } ∧
      c'.exceptions = .ofBound s.retries ∧ c'.speedOp = .idle ∧
      c'.inbox = [] ∧ c'.reading = false ∧ l'.refusals = [] ∧ l'.rig.bus.pending = [] ∧
      l'.rig.host.alarms =
        l.rig.host.alarms ++ List.replicate (l.refusals.length / s.retries) .spindle ∧
      c'.data.programmed = if l.refusals = [] then rpm else rpm.clampBelow := by
  have houtset : AtOutset c l := ⟨h.reading, h.inbox, h.pending, s.config.model, h.registers⟩
  have hready : Ready s c (l.handing true) :=
    ⟨⟨h.selected, h.idle, h.address, h.registers, h.faults, h.up, h.failing, h.warm⟩, h.retries,
      h.exceptions, h.reading, h.inbox, h.pending⟩
  have hprompt := hready.leads_serve rfl rpm blocking
  obtain ⟨answer, x, answer', y, hfirst, hsecond, hanswer, hlevel⟩ :=
    together_serve (s := s) houtset.level (.setSpeed rpm blocking)
  simp only [Leads, hfirst] at hprompt
  obtain ⟨hback, hhanded⟩ := hprompt
  obtain rfl : answer = .outcome (.ok ()) := Option.some.inj hback
  have hrecovered : Recovered s l (l.lastSpeed rpm) (l.refusals.length / s.retries) x.1 x.2 :=
    ⟨hhanded.drive, hhanded.programmed, hhanded.exceptions, hhanded.speedOp, hhanded.inbox,
      hhanded.reading, hhanded.refusals, hhanded.pending, hhanded.alarms⟩
  -- Whichever way the line delivers, one of the two runs is that of the line.
  have hrun : ∃ c' l', (Line.serve s (.setSpeed rpm blocking)).run.run (c, l) =
      (some (.outcome (.ok ())), c', l') ∧
      Recovered s l (l.lastSpeed rpm) (l.refusals.length / s.retries) c' l' := by
    cases hway : l.rig.synchronous with
    | true =>
        have hself : l.handing true = l := by rw [Line.handing, ← hway]
        rw [hself] at hfirst
        exact ⟨_, _, hfirst, hrecovered⟩
    | false =>
        have hself : l.handing false = l := by rw [Line.handing, ← hway]
        rw [hself] at hsecond
        obtain rfl : answer' = .outcome (.ok ()) := by
          cases answer' with
          | outcome result => simpa [Answer.unjudged] using hanswer
          | done | state last | data d => simp [Answer.unjudged] at hanswer
        exact ⟨_, _, hsecond, hrecovered.of_level hlevel h.pending⟩
  obtain ⟨c', l', hserved, hend⟩ := hrun
  refine ⟨c', l', hserved, ?_, hend.exceptions, hend.speedOp, hend.inbox, hend.reading,
    hend.refusals, hend.pending.trans h.pending, hend.alarms, hend.programmed⟩
  rw [hend.drive, toCode_lastSpeed]

end Serving

/-- Three refusals on a line that keeps replies back: with a count of two there is one alarm, and a
speed below zero is programmed as zero in the end. -/
theorem speed_recovers_contrary :
    Ready Spindle.sample.1 Spindle.sampleSelected Line.contrary ∧
      ∃ c' l', (Line.serve Spindle.sample.1 (.setSpeed (.ofInt (-600)) false)).run.run
          (Spindle.sampleSelected, Line.contrary) = (some (.outcome (.ok ())), c', l') ∧
        l'.rig.host.alarms = [.spindle] ∧ c'.data.programmed = .zero := by
  have h : Ready Spindle.sample.1 Spindle.sampleSelected Line.contrary :=
    ⟨⟨rfl, rfl, rfl, rfl, rfl, rfl, rfl, rfl⟩, by decide, rfl, rfl, rfl, rfl⟩
  obtain ⟨c', l', hserved, -, -, -, -, -, -, -, halarms, hprogrammed⟩ :=
    speed_recovers h (.ofInt (-600)) false
  refine ⟨h, c', l', hserved, halarms, ?_⟩
  rw [hprogrammed]
  decide +kernel

end SpindleDrive
