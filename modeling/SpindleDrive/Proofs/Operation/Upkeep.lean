import SpindleDrive.Proofs.Operation.Conduct

/-!
# What every operation upholds

A spindle does few things to its state and to the world, whatever the call: it programs a speed,
takes in a reply, raises an alarm, hands over a request, and keeps its books.  A condition that
each of these upholds is upheld by every call that does no more.  The three calls that do more are
permitted one by one.

* `Spindle.IsRoutine` — the requests that any call can give rise to: speeds and readings.
* `Surroundings.Upholds` — every step of a spindle upholds a condition `I`, and an operation that
  never comes back leaves at least `E`.
* `Upholds.Permits` — what a call has to uphold beyond that.
* `Upholds.permits_of_heardAlike` — a condition that looks only at what a spindle has heard.
* `Surroundings.Carries`, **`Carries.leads_carryOutWith`** — the same with any receiver of replies,
  a reading of the speed being left to account for itself.
* `Surroundings.Retains` — the same with the driver as the receiver.
* **`Upholds.leads_carryOut`** — a call that is permitted upholds the condition.
* `Upholds.leads_setSpeed_programmed`, `leads_setState_programmed` — what the programming of a
  speed brings about on top of that holds after a call that has programmed one.
* `Surroundings.Spares`, `Keeps`, **`Keeps.leads_carryOut`** — a condition on the world alone that
  nothing around a spindle breaks is upheld by every call.
-/

namespace SpindleDrive

open Operation

/-- A request that is no command: a speed or a reading, to any address. -/
inductive Spindle.IsRoutine (s : Spindle) : Request → Prop where
  | speed (address : UInt8) (code : UInt16) : s.IsRoutine (.speed address s.registers code)
  | readOutput (address : UInt8) : s.IsRoutine (.readOutput address s.registers)
  | readMax {address : UInt8} {request : Request}
      (h : Request.readMax? address s.registers = some request) : s.IsRoutine request

namespace Surroundings

variable {World : Type} {env : Surroundings World} {I E : SpindleContext → World → Prop}
  {s : Spindle} {c : SpindleContext} {w : World}

/-- An exchange of a request upholds the condition, however it is made. -/
def Bears (env : Surroundings World) (I E : SpindleContext → World → Prop) (request : Request) :
    Prop :=
  ∀ mode c w, I c w → Leads (exchange env request mode) (Settled I E) c w

/-- **Every step of a spindle upholds the condition `I`**, and `E` is what can be said of an
operation that is cut short. -/
structure Upholds (env : Surroundings World) (s : Spindle) (I E : SpindleContext → World → Prop) :
    Prop where
  ended : ∀ c w, I c w → E c w
  book : ∀ c c' w, c.Resembles c' → I c w → I c' w
  program : ∀ rpm progress c w, I c w → I (c.endSpeed rpm (env.tolerance w) progress) w
  read : ∀ reply rest c w, I c w →
    I (s.takeIn reply rest (env.isColdStart w) c) (env.journal reply (env.isColdStart w) c w)
  raiseAlarm : ∀ c w, I c w → I c (env.raiseAlarm w)
  send : ∀ request, s.IsRoutine request → env.Bears I E request

/-- **What a call has to uphold beyond the steps that all calls share.**  Being selected or not,
hearing of settings, and taking a command each change a state in a way of their own. -/
def Upholds.Permits (env : Surroundings World) (s : Spindle)
    (I E : SpindleContext → World → Prop) : HostCall → Prop
  | .bind selection => ∀ c w, I c w →
    if selection.id = s.id then
      I { c with
          selection := some selection
          data := { c.data with programmed := noSpeed }
          address := s.config.modbusAddress selection.binding } (env.silence w)
    else I { c with selection := none } w
  | .applySettings settings changed => changed.spindle = true → ∀ c w, I c w →
    I { c with data := { c.data with checked := settings.tolerance.isNonneg } }
      (env.setTolerance settings.tolerance w)
  | .setState state rpm =>
    (∀ c w, I c w → I (c.takeCommand state) w) ∧
      ∀ address, env.Bears I E
        (.command address s.registers (.run (.forRequest state.on rpm) (.ofCcw state.ccw)))
  | .setSpeed .. | .getState | .getData | .requestMaxSpeed | .deliver _ => True

end Surroundings

/-- **Another state with what has been heard.**  Whatever a host tells a spindle to do, the replies
that wait and those that have been counted are what they were, and so is the last reading. -/
structure SpindleContext.HeardAlike (c c' : SpindleContext) : Prop where
  exceptions : c'.exceptions = c.exceptions
  lastPoll : c'.lastPoll = c.lastPoll
  inbox : c'.inbox = c.inbox
  reading : c'.reading = c.reading

namespace Surroundings

variable {World : Type} {env : Surroundings World} {I E : SpindleContext → World → Prop}
  {s : Spindle} {c : SpindleContext} {w : World}

/-- A condition that looks only at what a spindle has heard permits every call. -/
lemma Upholds.permits_of_heardAlike (told : ∀ c c' w, c.HeardAlike c' → I c w → I c' w)
    (silence : ∀ c w, I c w → I c (env.silence w))
    (setTolerance : ∀ tolerance c w, I c w → I c (env.setTolerance tolerance w))
    (command : ∀ address word, env.Bears I E (.command address s.registers word))
    (call : HostCall) : Permits env s I E call := by
  cases call with
  | bind selection =>
      intro c w hI
      split
      · exact silence _ w (told c _ w ⟨rfl, rfl, rfl, rfl⟩ hI)
      · exact told c _ w ⟨rfl, rfl, rfl, rfl⟩ hI
  | applySettings settings changed =>
      intro _ c w hI
      exact setTolerance _ _ w (told c _ w ⟨rfl, rfl, rfl, rfl⟩ hI)
  | setState state rpm =>
      exact ⟨fun c w hI => told c _ w ⟨rfl, rfl, rfl, rfl⟩ hI, fun address => command address _⟩
  | setSpeed | getState | getData | requestMaxSpeed | deliver => trivial

/-! ## With any receiver of replies -/

/-- Every step of a spindle upholds the condition `I` but for the reading of its speed, and so does
whoever receives its replies. -/
structure Carries (env : Surroundings World) (s : Spindle)
    (onReply : Reply → Operation World Unit) (I E : SpindleContext → World → Prop) : Prop
    extends env.Handles onReply I E where
  program : ∀ rpm progress c w, I c w → I (c.endSpeed rpm (env.tolerance w) progress) w
  send : ∀ request, s.IsRoutine request → request.kind ≠ .getSpeed → env.Bears I E request

namespace Carries

variable {onReply : Reply → Operation World Unit}

/-- A speed is programmed when its exchange is over. -/
lemma leads_programmed (h : env.Carries s onReply I E) {address : UInt8} (rpm : Binary32)
    (blocking : Bool) (hI : I c w) :
    Leads (s.exchangeSpeed env (.speed address s.registers (s.reader.scale.toCode rpm)) blocking)
      (Programmed env rpm I E) c w := by
  refine (leads_exchangeSpeed_settled (h.send _ (.speed ..) (by simp [Request.speed]))
    (fun n c w => h.book c _ w (c.stages_speedOp _)) blocking hI).mono ?_
  intro r c w hend
  rcases r with _ | outcome
  · exact hend
  · exact h.program rpm _ c w hend

lemma leads_asked (h : env.Carries s onReply I E) {request : Request}
    (hmax : Request.readMax? c.address s.registers = some request) (hI : I c w) :
    Leads (sendOnce (exchange env) request) (Settled I E) c w := by
  have hkind : request.kind ≠ .getSpeed := by
    obtain ⟨register, -, rfl⟩ := Option.map_eq_some_iff.1 hmax
    simp
  exact leads_sendOnce_settled (h.send request (.readMax hmax) hkind .nonBlocking) hI

lemma leads_setSpeed (h : env.Carries s onReply I E) (rpm : Binary32) (blocking : Bool)
    (hI : I c w) : Leads (s.sendSpeed env onReply rpm blocking) (Settled I E) c w :=
  h.leads_sendSpeed (fun _ => hI) fun _ _ =>
    h.leads_programmed rpm blocking (h.book c _ w (c.stages_speedOp _) hI)

/-- **A call that is permitted upholds the condition**, and a reading of the speed is left to
account for itself. -/
theorem leads_carryOutWith (h : env.Carries s onReply I E) (call : HostCall)
    (hpermits : Upholds.Permits env s I E call)
    (polled : call = .getState → c.isSelected = true →
      c.pollDue (env.elapsed w) s.config.pollInterval = true →
      Leads (sendOnce (exchange env) (.readOutput c.address s.registers)) (Settled I E)
        { c with lastPoll := some (env.elapsed w) } w) (hI : I c w) :
    Leads (s.carryOutWith env onReply call) (Settled I E) c w := by
  cases call with
  | bind selection =>
      have hend := hpermits c w hI
      refine leads_map_settled _ (h.leads_bindWith (fun hid => ?_) (fun hid => ?_)
        fun _ _ _ hI _ hmax => h.leads_asked hmax hI)
      · rwa [if_neg hid] at hend
      · rwa [if_pos hid] at hend
  | applySettings settings changed =>
      exact leads_map_settled _
        (Operation.leads_applySettings (fun _ => hI) fun hchanged => hpermits hchanged c w hI)
  | setState state rpm =>
      obtain ⟨htake, hbears⟩ := hpermits
      refine leads_map_settled _ (h.leads_setStateWith h.toHandles (fun _ => hI)
        (fun _ _ hI => hI) (fun _ _ => ?_) fun c w _ hI => h.leads_programmed rpm true hI)
      exact leads_sendRepeatedly_settled (hbears _ .blocking)
        (fun n c w hI => h.book c _ w (c.stages_statusOp _) hI) (htake c w hI)
  | setSpeed rpm blocking => exact leads_map_settled _ (h.leads_setSpeed rpm blocking hI)
  | getState => exact leads_map_settled _ (h.leads_getStateWith (fun _ => hI) (polled rfl))
  | getData => exact hI
  | requestMaxSpeed =>
      exact leads_map_settled _
        (h.leads_requestMaxSpeedWith (fun _ _ hmax => h.leads_asked hmax hI) hI)
  | deliver reply => exact leads_map_settled _ (h.reply reply c w hI)

end Carries

/-! ## The driver as the receiver -/

/-- **Every step of a spindle but the reading of its speed upholds the condition `I`.** -/
structure Retains (env : Surroundings World) (s : Spindle)
    (I E : SpindleContext → World → Prop) : Prop where
  ended : ∀ c w, I c w → E c w
  book : ∀ c c' w, c.Abides c' → I c w → I c' w
  program : ∀ rpm progress c w, I c w → I (c.endSpeed rpm (env.tolerance w) progress) w
  read : ∀ reply rest c w, I c w →
    I (s.takeIn reply rest (env.isColdStart w) c) (env.journal reply (env.isColdStart w) c w)
  raiseAlarm : ∀ c w, I c w → I c (env.raiseAlarm w)
  send : ∀ request, s.IsRoutine request → request.kind ≠ .getSpeed → env.Bears I E request

namespace Retains

/-- A reply that is read may have a speed sent again, which is upheld as any speed is. -/
lemma reads (h : env.Retains s I E) : env.Reads s (fun _ _ => True) I E where
  ended := h.ended
  book := h.book
  raiseAlarm := h.raiseAlarm
  read := h.read
  due _ _ _ _ _ _ := trivial
  speed rpm c w _ _ hI := by
    refine (leads_exchangeSpeed_settled (h.send _ (.speed ..) (by simp [Request.speed]))
      (fun n c w => h.book c _ w (c.stages_speedOp _).toAbides) false hI).mono ?_
    intro r c w hend
    rcases r with _ | outcome
    · exact hend
    · exact h.program rpm _ c w hend

lemma carries (h : env.Retains s I E) (patience : Nat) :
    env.Carries s (s.deliver env patience) I E where
  toHandles := h.reads.handles patience
  program := h.program
  send := h.send

end Retains

namespace Upholds

lemma retains (h : env.Upholds s I E) : env.Retains s I E where
  ended := h.ended
  book c c' w hc hI := h.book c c' w hc.toResembles hI
  program := h.program
  read := h.read
  raiseAlarm := h.raiseAlarm
  send request hroutine _ := h.send request hroutine

lemma leads_deliver (h : env.Upholds s I E) (patience : Nat) (reply : Reply) (hI : I c w) :
    Leads (s.deliver env patience reply) (Settled I E) c w :=
  h.retains.reads.leads_deliver patience reply hI

lemma leads_deliverAny (h : env.Upholds s I E) (patience : Nat) (reply? : Option Reply)
    (hI : I c w) : Leads (s.deliverAny env patience reply?) (Settled I E) c w :=
  (h.retains.carries patience).leads_handOver reply? hI

lemma leads_setSpeed (h : env.Upholds s I E) (patience : Nat) (rpm : Binary32) (blocking : Bool)
    (hI : I c w) : Leads (s.setSpeed env patience rpm blocking) (Settled I E) c w :=
  (h.retains.carries patience).leads_setSpeed rpm blocking hI

/-- **A call that is permitted upholds the condition**; one that never comes back leaves `E`. -/
theorem leads_carryOut (h : env.Upholds s I E) (patience : Nat) (call : HostCall)
    (hpermits : Permits env s I E call) (hI : I c w) :
    Leads (s.carryOut env patience call) (Settled I E) c w := by
  rw [Spindle.carryOut_eq_with]
  refine (h.retains.carries patience).leads_carryOutWith call hpermits (fun _ _ _ => ?_) hI
  exact leads_sendOnce_settled (h.send _ (.readOutput _) .nonBlocking)
    (h.book c _ w (c.resembles_lastPoll _) hI)

variable {patience : Nat}

/-! ## Programming a speed -/

section Programmed

variable {J : SpindleContext → World → Prop}

/-- A speed that is not refused is programmed, and what that brings about lasts. -/
lemma leads_setSpeed_programmed (h : env.Upholds s I E) (hJ : env.Upholds s J E)
    (hprogram : ∀ rpm progress c w, I c w → J (c.endSpeed rpm (env.tolerance w) progress) w)
    (rpm : Binary32) (blocking : Bool) (hI : I c w) :
    Leads (s.setSpeed env patience rpm blocking)
      (fun r c w => ∀ a, r = some a → (Answer.outcome a).isProgrammed = true → J c w) c w := by
  refine Operation.leads_setSpeed (Operation.leads_sendSpeed (fun _ => ?_) (fun _ _ => ?_)
    fun _ _ => ?_)
  · rintro a ⟨⟩ hprogrammed
    simp [Answer.isProgrammed] at hprogrammed
  · rintro a ⟨⟩ hprogrammed
    simp [Answer.isProgrammed] at hprogrammed
  have hbegun : I { c with speedOp := .sending } w :=
    h.book c _ w (c.resembles_speedOp _) hI
  refine (leads_exchangeSpeed_settled (h.send _ (.speed ..))
    (fun n c w => h.book c _ w (c.resembles_speedOp _)) blocking hbegun).mono ?_
  rintro (_ | e | _ | reply) c w hI
  · simp
  · exact fun _ _ _ => hJ.raiseAlarm _ w (hprogram rpm .failed c w hI)
  · exact fun _ _ _ => hprogram rpm .idle c w hI
  · refine (hJ.leads_deliver patience reply (hprogram rpm .idle c w hI)).mono ?_
    rintro (_ | _) c w hJ
    · simp
    · exact fun _ _ _ => hJ

/-- So it is after a command, if the drive could be reached for it. -/
lemma leads_setState_programmed (h : env.Upholds s I E) (hJ : env.Upholds s J E)
    (hprogram : ∀ rpm progress c w, I c w → J (c.endSpeed rpm (env.tolerance w) progress) w)
    {state : SpindleState} {rpm : Binary32} (hpermits : Permits env s I E (.setState state rpm))
    (hI : I c w) :
    Leads (s.setState env patience state rpm)
      (fun r c w => ∀ a, r = some a → (Answer.outcome a).isProgrammed = true → J c w) c w := by
  obtain ⟨htake, hbears⟩ := hpermits
  have hmark (n : Nat) (c : SpindleContext) (w : World) (hI : I c w) :
      I { c with statusOp := .retrying n } w :=
    h.book c _ w (c.resembles_statusOp _) hI
  refine Operation.leads_setState (fun _ => ?_) (fun _ _ => ?_) fun _ _ => ?_
  · rintro a ⟨⟩ hprogrammed
    simp [Answer.isProgrammed] at hprogrammed
  · rintro a ⟨⟩ hprogrammed
    simp [Answer.isProgrammed] at hprogrammed
  refine ((leads_sendRepeatedly_settled (hbears _ .blocking) hmark (htake c w hI)).and
    leads_sendRepeatedly_exhausted).mono ?_
  rintro (_ | e | reply?) c w ⟨hI, hexhausted⟩
  · simp
  · obtain ⟨attempts, last, rfl⟩ := hexhausted e rfl
    rintro a ⟨⟩ hprogrammed
    simp [Answer.isProgrammed, Request.command] at hprogrammed
  · have hidle : I { c with statusOp := .idle } w :=
      h.book c _ w (c.resembles_statusOp _) hI
    refine (h.leads_deliverAny patience reply? hidle).mono ?_
    rintro (_ | _) c w hI
    · simp
    · exact h.leads_setSpeed_programmed hJ hprogram rpm true hI

end Programmed

end Upholds

/-! ## Conditions on the world alone -/

/-- Nothing that a spindle does by itself breaks a condition on the world. -/
structure Spares (env : Surroundings World) (I : World → Prop) : Prop where
  send : ∀ request mode c w, I w → I (env.send request mode c w).2.2
  journal : ∀ reply coldStart c w, I w → I (env.journal reply coldStart c w)
  raiseAlarm : ∀ w, I w → I (env.raiseAlarm w)

/-- Nothing around a spindle breaks a condition on the world. -/
structure Keeps (env : Surroundings World) (I : World → Prop) : Prop extends env.Spares I where
  silence : ∀ w, I w → I (env.silence w)
  setTolerance : ∀ tolerance w, I w → I (env.setTolerance tolerance w)

variable {I : World → Prop}

lemma Spares.bears (h : env.Spares I) (request : Request) :
    env.Bears (fun _ => I) (fun _ => I) request := by
  intro mode c w hI
  rw [Operation.leads_exchange]
  have hsent := h.send request mode c w hI
  rcases (env.send request mode c w).1 with _ | _ <;> exact hsent

lemma Spares.upholds (h : env.Spares I) (s : Spindle) :
    env.Upholds s (fun _ => I) (fun _ => I) where
  ended _ _ hI := hI
  book _ _ _ _ hI := hI
  program _ _ _ _ hI := hI
  read reply _ c w hI := h.journal reply _ c w hI
  raiseAlarm _ w hI := h.raiseAlarm w hI
  send request _ := h.bears request

namespace Keeps

lemma permits (h : env.Keeps I) (s : Spindle) (call : HostCall) :
    Upholds.Permits env s (fun _ => I) (fun _ => I) call :=
  Upholds.permits_of_heardAlike (fun _ _ _ _ hI => hI) (fun _ w hI => h.silence w hI)
    (fun tolerance _ w hI => h.setTolerance tolerance w hI) (fun _ _ => h.bears _) call

/-- **No call breaks what the surroundings keep**, whether it comes back or not. -/
theorem leads_carryOut (h : env.Keeps I) (patience : Nat) (call : HostCall) (hI : I w) :
    Leads (s.carryOut env patience call) (fun _ _ w => I w) c w := by
  refine ((h.upholds s).leads_carryOut patience call (h.permits s call) hI).mono ?_
  rintro (_ | _) c w hI <;> exact hI

end Keeps

end Surroundings

end SpindleDrive
