import SpindleDrive.Proofs.Line.ClosedLoop
import SpindleDrive.Proofs.Line.Delivery
import SpindleDrive.Proofs.Operation.Upkeep

/-!
# A command that the drive refuses

A refusal is a reply, so that a command that is refused has been sent with success, and nothing that
the driver does of itself sends it again: speeds are sent again, and readings only read.  What the
drive does about a command is settled by its one exchange that comes about.

* `Line.bus_write`, `Line.send_write` — what an exchange of a write does to the drive and to the
  refusals to come.
* `Line.Stays` — the drive runs and turns as it did, and its registers are those of the spindle.
* `upholds_stays` — every step of a spindle but a command leaves it so.
* `leads_session` — so do calls that are permitted, with the fetching of replies, one after the
  other.
* **`motion_of_command`** — a command that comes back well has been followed if no refusal was
  ordered before, and else has had no effect, however often the host polls afterwards.
-/

namespace SpindleDrive

open Operation Surroundings

/-! ## What an exchange does to the drive -/

namespace Line

variable {l : Line} {request : Request} {mode : SendMode}

/-- The drive hears a request once or not at all. -/
lemma send_drive (l : Line) (request : Request) (mode : SendMode) :
    (l.send request mode).2.drive = l.drive ∨
      (l.send request mode).2.drive = (l.drive.handle request.frame).2 := by
  have hreply (b : SimulatedBus) : (b.reply? request).2.drive = b.drive ∨
      (b.reply? request).2.drive = (b.drive.handle request.frame).2 := by
    rw [SimulatedBus.reply?]
    split
    · exact .inl rfl
    · exact .inr rfl
  have hbus (b : SimulatedBus) (mode : SendMode) : (b.send request mode).2.drive = b.drive ∨
      (b.send request mode).2.drive = (b.drive.handle request.frame).2 := by
    rw [SimulatedBus.send]
    dsimp only
    split
    · exact .inl rfl
    split
    · exact .inl rfl
    · have hdrive := hreply { b with log := (request, mode) :: b.log }
      split
      · rename_i b' hb'
        rw [hb'] at hdrive
        exact hdrive
      · rename_i reply b' hb'
        rw [hb'] at hdrive
        cases mode <;> exact hdrive
  rw [send]
  split
  · exact .inl rfl
  · exact hbus _ _

/-- A write on a bus, be there refusals to come or not. -/
lemma bus_write (b : SimulatedBus) (mode : SendMode) {d' : SimulatedDrive}
    (h : Writes request b.drive d') :
    match (b.send request mode).1 with
    | .error _ =>
      (b.send request mode).2.drive = b.drive ∧ (b.send request mode).2.refusals = b.refusals
    | .ok _ => (b.send request mode).2.drive = if b.refusals = [] then d' else b.drive := by
  cases hrefusals : b.refusals with
  | nil =>
      have hwritten := @bus_send_write b request mode d' hrefusals h
      revert hwritten
      cases (b.send request mode).1 with
      | error e => exact fun hwritten => ⟨hwritten.2, hwritten.1⟩
      | ok reply? => exact fun hwritten => hwritten.2.1
  | cons refusal rest =>
      rw [SimulatedBus.send]
      by_cases hup : b.up = true
      case neg => simp [hup, hrefusals]
      by_cases hfailing : 0 < b.failing
      case pos => simp [hup, hfailing, hrefusals]
      simp only [hup, hfailing, SimulatedBus.reply?, hrefusals]
      cases mode <;> simp [SimulatedBus.hand]

/-- **An exchange of a write.**  If it does not come about, the drive and the refusals to come are
as they were; if it does, the drive has followed unless there was a refusal to come. -/
lemma send_write (mode : SendMode) {d' : SimulatedDrive} (h : Writes request l.drive d') :
    match (l.send request mode).1 with
    | .error _ =>
      (l.send request mode).2.drive = l.drive ∧ (l.send request mode).2.refusals = l.refusals
    | .ok _ => (l.send request mode).2.drive = if l.refusals = [] then d' else l.drive := by
  cases hfault : l.faults.head?.join with
  | some error =>
      have hsend : l.send request mode = (.error error, l.hear request) := by simp [send, hfault]
      rw [hsend]
      exact ⟨rfl, rfl⟩
  | none =>
      have hsend : l.send request mode = ((l.rig.send request mode).1,
          { l.hear request with rig := (l.rig.send request mode).2 }) := by simp [send, hfault]
      rw [hsend]
      exact bus_write l.rig.bus (if l.rig.synchronous then .blocking else mode) h

end Line

/-! ## What polls leave alone -/

/-- The drive at the end of a line has the registers of the spindle, and moves in this way. -/
structure Line.Stays (s : Spindle) (motion : Bool × Bool) (l : Line) : Prop where
  registers : l.drive.registers = s.registers
  motion : l.drive.motion = motion

/-- No routine request is a write of the command register. -/
lemma Spindle.IsRoutine.ne_command {s : Spindle} {request : Request} (h : s.IsRoutine request)
    (hwrite : FunctionCode.ofByte? request.frame.functionByte = some .writeRegister) :
    request.frame.register ≠ s.registers.command := by
  have hread : FunctionCode.ofByte? FunctionCode.readHoldingRegisters.toByte ≠
      some .writeRegister := by decide
  cases h with
  | speed address code =>
      rw [Request.speed, writeFrame_eq, Frame.message_register]
      exact s.config.model.frequency_ne_command
  | readOutput address =>
      rw [Request.readOutput, readFrame_eq, Frame.message_functionByte] at hwrite
      exact absurd hwrite hread
  | readMax hmax =>
      obtain ⟨register, -, rfl⟩ := Option.map_eq_some_iff.1 hmax
      rw [readFrame_eq, Frame.message_functionByte] at hwrite
      exact absurd hwrite hread

section Polling

variable {s : Spindle} {c : SpindleContext} {l : Line} {motion : Bool × Bool}
  {I E : SpindleContext → Line → Prop}

/-- **Whatever a spindle does but command, its drive stays in motion or at rest.** -/
lemma upholds_stays (s : Spindle) (motion : Bool × Bool) :
    (Line.surroundings s.id).Upholds s (fun _ l => l.Stays s motion) fun _ _ => True where
  ended _ _ _ := trivial
  book _ _ _ _ h := h
  program _ _ _ _ h := h
  read _ _ _ _ h := h
  raiseAlarm _ _ h := ⟨h.registers, h.motion⟩
  send request hroutine := by
    intro mode c l h
    have hmotion := l.drive.handle_motion request.frame fun hwrite => by
      rw [h.registers]
      exact hroutine.ne_command hwrite
    have hregisters := l.drive.handle_registers request.frame
    rw [leads_exchange]
    show Line.Stays s motion (l.send request mode).2
    rcases l.send_drive request mode with hdrive | hdrive
    · exact ⟨by rw [hdrive, h.registers], by rw [hdrive, h.motion]⟩
    · exact ⟨by rw [hdrive, hregisters, h.registers], by rw [hdrive, hmotion, h.motion]⟩

/-! ## Sessions of permitted calls -/

/-- A reply that is taken from the bus is no longer there. -/
def Line.fetched (l : Line) : Line := { l with rig := l.rig.modifyBus (·.takePending.2) }

lemma leads_forM_deliver (h : (Line.surroundings s.id).Upholds s I E) (replies : List Reply) :
    ∀ {c : SpindleContext} {l : Line}, I c l →
      Leads (replies.forM (Line.deliver s)) (Settled I E) c l := by
  induction replies with
  | nil => exact fun hI => hI
  | cons reply rest ih =>
      intro c l hI
      show Leads (Line.deliver s reply >>= fun _ => rest.forM (Line.deliver s)) _ c l
      simp only [Line.deliver, leads_bind, Line.leads_patience]
      refine (h.leads_deliver _ reply hI).mono ?_
      rintro (_ | _) c l hI
      · exact hI
      · exact ih hI

lemma leads_drain (h : (Line.surroundings s.id).Upholds s I E)
    (hfetched : ∀ c l, I c l → I c l.fetched) (rounds : Nat) :
    ∀ {c : SpindleContext} {l : Line}, I c l →
      Leads (Line.drain s rounds) (Settled I E) c l := by
  induction rounds with
  | zero => exact fun hI => h.ended _ _ hI
  | succ rounds ih =>
      intro c l hI
      simp only [Line.drain, leads_bind, leads_observe]
      split
      · exact hI
      · simp only [Line.pump, leads_bind, leads_observe, leads_affect]
        refine (leads_forM_deliver h _ (hfetched c l hI)).mono ?_
        rintro (_ | _) c l hI
        · exact hI
        · exact ih hI

/-- A call that is permitted, with the fetching of its replies. -/
lemma leads_drained {α : Type} {op : Operation Line α}
    (h : (Line.surroundings s.id).Upholds s I E) (hfetched : ∀ c l, I c l → I c l.fetched)
    (hop : Leads op (Settled I E) c l) : Leads (Line.drained s op) (Settled I E) c l := by
  rw [Line.drained, leads_bind]
  refine hop.mono ?_
  rintro (_ | a) c l hI
  · exact hI
  · simp only [Line.drainAll, leads_bind, Line.leads_patience]
    refine (leads_drain h hfetched _ hI).mono ?_
    rintro (_ | _) c l hI <;> exact hI

/-- What an event has to uphold: a call what it does of its own, a change of conditions all of
it. -/
def Event.Permits (s : Spindle) (I E : SpindleContext → Line → Prop) : Event → Prop
  | .call hostCall => Upholds.Permits (Line.surroundings s.id) s I E hostCall
  | .change conditions => ∀ c l, I c l → I c (conditions.apply l)

/-- **A session of permitted events upholds the condition.** -/
theorem leads_session (h : (Line.surroundings s.id).Upholds s I E)
    (hfetched : ∀ c l, I c l → I c l.fetched) (events : List Event) :
    (∀ event ∈ events, event.Permits s I E) → ∀ {c : SpindleContext} {l : Line}, I c l →
      Leads (Line.session s events) (Settled I E) c l := by
  induction events with
  | nil => exact fun _ _ _ hI => hI
  | cons event rest ih =>
      intro hpermits c l hI
      have hfirst : Leads (event.run s) (Settled I E) c l := by
        have hevent := hpermits event List.mem_cons_self
        cases event with
        | call hostCall =>
            simp only [Event.run, leads_map, Line.serve, leads_bind, Line.leads_patience]
            refine (leads_drained h hfetched (h.leads_carryOut _ hostCall hevent hI)).mono ?_
            rintro (_ | _) c l hI <;> exact hI
        | change conditions => exact hevent c l hI
      rw [Line.session, leads_bind]
      refine hfirst.mono ?_
      rintro (_ | answer) c l hI
      · exact hI
      · simp only [leads_bind]
        refine (ih (fun event hmem => hpermits event (List.mem_cons_of_mem _ hmem)) hI).mono ?_
        rintro (_ | _) c l hI <;> exact hI

/-! ## The command -/

/-- The motion that the drive is left in: the one that is asked for, unless a refusal comes
first. -/
def Line.motionAfter (l : Line) (state : SpindleState) (rpm : Binary32) : Bool × Bool :=
  if l.refusals = [] then (state.on && !rpm.isZero, state.ccw) else l.drive.motion

/-- **A command is decided by its exchange**: the drive obeys it, or has been spared it by a
refusal.  Attempts that fail do not use up refusals, and the speed that is sent afterwards does not
move the drive. -/
lemma leads_setState_motion (haddress : l.drive.address = c.address)
    (hregisters : l.drive.registers = s.registers) (state : SpindleState) (rpm : Binary32)
    (patience : Nat) :
    Leads (s.setState (Line.surroundings s.id) patience state rpm)
      (fun r _ l' => r = some (.ok ()) → l'.Stays s (l.motionAfter state rpm)) c l := by
  have hupholds := upholds_stays s (l.motionAfter state rpm)
  refine leads_setState (fun _ hok => by simp at hok) (fun _ _ hok => by simp at hok) fun _ _ => ?_
  have hwrite := writes_command haddress hregisters state rpm
  refine leads_sendRepeatedly (fun _ _ _ l' => l'.drive = l.drive ∧ l'.refusals = l.refusals)
    ⟨rfl, rfl⟩ ?_ fun last c' l' _ hok => by simp at hok
  rintro k last c' l' - ⟨hdrive, hrefusals⟩
  rw [← hdrive] at hwrite
  have hsent := Line.send_write .blocking hwrite
  rw [leads_exchange]
  dsimp only [Line.surroundings]
  generalize l'.send _ SendMode.blocking = sent at hsent ⊢
  obtain ⟨e | reply?, l''⟩ := sent
  · exact ⟨hsent.1.trans hdrive, hsent.2.trans hrefusals⟩
  · have hstays : l''.Stays s (l.motionAfter state rpm) := by
      have hafter : l''.drive = if l.refusals = [] then l.drive.runAs state rpm else l.drive := by
        rw [← hrefusals, ← hdrive]
        exact hsent
      constructor
      · rw [hafter]
        split <;> exact hregisters
      · rw [hafter, Line.motionAfter]
        split <;> rfl
    refine (hupholds.leads_deliverAny patience reply? hstays).mono ?_
    rintro (_ | _) c₁ l₁ hstays
    · simp
    · refine (hupholds.leads_setSpeed patience rpm true hstays).mono ?_
      rintro (_ | result) c₂ l₂ hstays
      · simp
      · exact fun _ => hstays

lemma fetched_stays {l : Line} (h : l.Stays s motion) : l.fetched.Stays s motion :=
  ⟨h.registers, h.motion⟩

/-- The replies that are fetched after the command do not move the drive either. -/
lemma leads_serve_motion (haddress : l.drive.address = c.address)
    (hregisters : l.drive.registers = s.registers) (state : SpindleState) (rpm : Binary32) :
    Leads (Line.serve s (.setState state rpm))
      (fun r _ l' => r = some (.outcome (.ok ())) → l'.Stays s (l.motionAfter state rpm)) c l := by
  simp only [Line.serve, Line.drained, Spindle.carryOut, leads_bind, leads_map, Line.leads_patience]
  refine (leads_setState_motion haddress hregisters state rpm _).mono ?_
  rintro (_ | e | ⟨⟩) c' l' hstays
  · simp
  · refine .of_forall ?_
    rintro (_ | _) c₁ l₁ <;> simp
  · simp only [Line.drainAll, leads_bind, Line.leads_patience]
    refine (leads_drain (upholds_stays s _) (fun _ _ => fetched_stays) _ (hstays rfl)).mono ?_
    rintro (_ | _) c₁ l₁ hstays
    · simp
    · exact fun _ => hstays

end Polling

/-- A host that polls: it asks for the state, and the conditions may change meanwhile. -/
def Event.isPoll : Event → Bool
  | .call .getState | .change _ => true
  | .call _ => false

/-- **What becomes of a command.**  A spindle is told to start or stop over a line to its drive, on
which exchanges may fail and replies may be refusals in any pattern, and then the host polls as
often as it likes, under any conditions.  If nothing waited before, all of this comes back.  If the
command came back well, the drive is in the motion that was asked for in case no refusal was to
come, and otherwise it is still in the motion that it was in before. -/
theorem motion_of_command (s : Spindle) {c : SpindleContext} {l : Line}
    (haddress : l.drive.address = c.address) (hregisters : l.drive.registers = s.registers)
    (state : SpindleState) (rpm : Binary32) {polls : List Event}
    (hpolls : ∀ event ∈ polls, event.isPoll = true) :
    (AtOutset c l → ∃ answers x,
      (Line.session s (.call (.setState state rpm) :: polls)).run.run (c, l) =
        (some answers, x)) ∧
    ∀ answers c' l', (Line.session s (.call (.setState state rpm) :: polls)).run.run (c, l) =
        (some (some (.outcome (.ok ())) :: answers), c', l') →
      l'.drive.motion =
        if l.refusals = [] then (state.on && !rpm.isZero, state.ccw) else l.drive.motion := by
  refine ⟨fun h => h.exists_session s _, fun answers c' l' back => ?_⟩
  have hpermits : ∀ event ∈ polls, event.Permits s
      (fun _ l' => l'.Stays s (l.motionAfter state rpm)) fun _ _ => True := by
    intro event hmem
    have hpoll := hpolls event hmem
    cases event with
    | change conditions => exact fun _ _ h => ⟨h.registers, h.motion⟩
    | call hostCall =>
        cases hostCall with
        | getState => trivial
        | bind | applySettings | setState | setSpeed | getData | requestMaxSpeed | deliver =>
            simp [Event.isPoll] at hpoll
  have hsession : Leads (Line.session s (.call (.setState state rpm) :: polls))
      (fun r _ l' => ∀ answers, r = some (some (.outcome (.ok ())) :: answers) →
        l'.Stays s (l.motionAfter state rpm)) c l := by
    simp only [Line.session, Event.run, leads_bind, leads_map]
    refine (leads_serve_motion haddress hregisters state rpm).mono ?_
    rintro (_ | answer) c₁ l₁ hstays
    · simp
    by_cases hok : answer = .outcome (.ok ())
    · refine (leads_session (upholds_stays s _) (fun _ _ => fetched_stays) polls hpermits
        (hstays (congrArg some hok))).mono ?_
      rintro (_ | answers) c₂ l₂ hstays
      · simp
      · exact fun _ _ => hstays
    · refine .of_forall ?_
      rintro (_ | answers) c₂ l₂ <;> simp [hok]
  simp only [Leads, back] at hsession
  exact (hsession answers rfl).motion

/-- A line to a drive that runs and is to refuse once. -/
def Line.headstrong : Line where
  rig :=
    { bus :=
        { drive := { SimulatedDrive.ofModel 1 .yl620 with running := true, frequency := 100 }
          refusals := [.slaveDeviceBusy] } }

/-- Conditions under which nothing is out of order, a while later. -/
def Line.Conditions.fair : Line.Conditions where
  elapsed := 1000
  coldStart := false
  up := true
  failing := 0
  faults := []
  refusals := []

/-- Two polls, the second under fair conditions. -/
def Event.polls : List Event := [.call .getState, .change .fair, .call .getState]

/-- A drive that refuses to stop goes on running while the host polls: the command came back well,
and no alarm is raised. -/
theorem motion_of_refused_stop :
    ∃ answers c' l', (Line.session Spindle.sample.1
          (.call (.setState .off .zero) :: Event.polls)).run.run
        (Spindle.sampleSelected, Line.headstrong) =
          (some (some (.outcome (.ok ())) :: answers), c', l') ∧
      l'.rig.host.alarms = [] ∧ l'.drive.motion = (true, false) := by
  have hpolls : ∀ event ∈ Event.polls, event.isPoll = true := by decide
  have hmotion := (motion_of_command Spindle.sample.1 (c := Spindle.sampleSelected)
    (l := Line.headstrong) rfl rfl .off .zero hpolls).2
  have hends (x) (hrun : (Line.session Spindle.sample.1
        (.call (.setState .off .zero) :: Event.polls)).run.run
          (Spindle.sampleSelected, Line.headstrong) = x) :
      x.1 = some [some (.outcome (.ok ())), some (.state .off), none,
        some (.state { atSpeed := true })] ∧ x.2.2.rig.host.alarms = [] := by
    subst hrun
    decide +kernel
  generalize hrun : (Line.session Spindle.sample.1 _).run.run _ = x
  obtain ⟨answers?, c', l'⟩ := x
  obtain ⟨rfl, halarms⟩ := hends _ hrun
  exact ⟨_, c', l', rfl, halarms, hmotion _ c' l' hrun⟩

end SpindleDrive
