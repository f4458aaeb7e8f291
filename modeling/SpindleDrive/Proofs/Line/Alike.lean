import SpindleDrive.Proofs.Line.Session
import SpindleDrive.Proofs.Operation.Together

/-!
# A prompt line and one that keeps replies back

Two stands of a spindle are alike if they differ only by how replies come: the first is on a line
that hands over every reply at once, the second on one where those that nobody waits for are kept.
What the spindle sends leaves them alike.

* `Alike` — the first stand with the second, where some replies wait.
* `Reply.weight` — a bound for the refusals that a reply can have the driver run into.
* `Sent` — what an exchange leaves alone, and what it says of the reply.
* `together_exchange`, `together_sendOnce`, `together_sendRepeatedly` — exchanges side by side.
* **`together_sendSpeed`** — a speed is sent side by side; what a reply does to the first stand at
  once, it does to the second when it is delivered.
-/

namespace SpindleDrive

open Operation

/-! ## Stands that are alike -/

/-- The state of a spindle with another copy of the verdict. -/
def SpindleContext.seen (c : SpindleContext) (atSpeed : Bool) : SpindleContext :=
  { c with state := { c.state with atSpeed } }

namespace SpindleContext

variable (c : SpindleContext) (atSpeed : Bool)

@[simp] lemma seen_address : (c.seen atSpeed).address = c.address := rfl

@[simp] lemma seen_isSelected : (c.seen atSpeed).isSelected = c.isSelected := rfl

@[simp] lemma seen_statusOp : (c.seen atSpeed).statusOp = c.statusOp := rfl

@[simp] lemma seen_speedOp : (c.seen atSpeed).speedOp = c.speedOp := rfl

@[simp] lemma seen_data : (c.seen atSpeed).data = c.data := rfl

@[simp] lemma seen_inbox : (c.seen atSpeed).inbox = c.inbox := rfl

@[simp] lemma seen_reading : (c.seen atSpeed).reading = c.reading := rfl

@[simp] lemma seen_pollDue (now interval : UInt64) :
    (c.seen atSpeed).pollDue now interval = c.pollDue now interval := rfl

end SpindleContext

namespace Line

/-- The line with replies that wait, on a bus that keeps them. -/
def queued (l : Line) (pending : List Reply) (log : List (Request × SendMode)) : Line :=
  { l with rig := { l.rig with synchronous := false, bus := { l.rig.bus with pending, log } } }

@[simp] lemma queued_elapsed (l : Line) (pending : List Reply) (log : List (Request × SendMode))
    (id : SpindleId) :
    (surroundings id).elapsed (l.queued pending log) = (surroundings id).elapsed l := rfl

/-- A line that hands over every reply at once, to a drive of one of the models. -/
structure Prompt (l : Line) : Prop where
  synchronous : l.rig.synchronous = true
  pending : l.rig.bus.pending = []
  model : ∃ m : DriveModel, l.drive.registers = m.registers

end Line

/-- **Two stands that are alike**: the first on a line that hands over every reply at once, the
second with some replies that wait.  The copy of the verdict that asking for the state hands over
may differ. -/
structure Alike (pending : List Reply) (x y : Stand Line) : Prop where
  prompt : x.2.Prompt
  context : ∃ atSpeed, y.1 = x.1.seen atSpeed
  line : ∃ log, y.2 = x.2.queued pending log

/-- A change that neither reads the copy of the verdict nor touches what is left alone while the
spindle sends: the replies that wait to be read and the state. -/
structure SpindleContext.IsApart (f : SpindleContext → SpindleContext) : Prop where
  seen : ∀ c atSpeed, f (c.seen atSpeed) = (f c).seen atSpeed
  reading : ∀ c, (f c).reading = c.reading
  inbox : ∀ c, (f c).inbox = c.inbox
  state : ∀ c, (f c).state = c.state

/-- A change of the line that has nothing to do with how replies come. -/
structure Line.IsApart (g : Line → Line) : Prop where
  queued : ∀ l pending log, g (l.queued pending log) = (g l).queued pending log
  prompt : ∀ l, l.Prompt → (g l).Prompt

/-- What lasts while the spindle deals with replies: the state stays, and no refusal is ordered. -/
structure Lasts (x x' : Stand Line) : Prop where
  state : x'.1.state = x.1.state
  refusals : x'.2.refusals.length ≤ x.2.refusals.length

/-- What lasts while the spindle sends: the replies that wait to be read stay, too. -/
structure Abides (x x' : Stand Line) : Prop extends Lasts x x' where
  reading : x'.1.reading = x.1.reading
  inbox : x'.1.inbox = x.1.inbox

/-- A reply that does not make the driver send a speed again. -/
def Reply.isCalm (r : Reply) : Bool := !(r.kind = .setSpeed && r.isException)

/-- A bound for the refusals that a reply can have the driver run into. -/
def Reply.weight (r : Reply) (l : Line) : Nat :=
  if r.isCalm then 0 else l.refusals.length + 1

/-- What is said of a request with its reply, if there is one: it is a reply of that kind, and one
to a speed is either calm or a refusal that was ordered. -/
structure Answered (l l' : Line) (request : Request) (reply? : Option Reply) : Prop where
  kind : ∀ reply, reply? = some reply → reply.kind = request.kind
  weight : ∀ address m code, request = .speed address (DriveModel.registers m) code →
    ∀ reply, reply? = some reply → reply.weight l' ≤ l.refusals.length

lemma Answered.none (l l' : Line) (request : Request) : Answered l l' request none where
  kind := by simp
  weight := by simp

/-! ## Exchanges on the bus -/

def replyOf? {ε : Type} : Except ε (Option Reply) → Option Reply
  | .ok reply? => reply?
  | .error _ => none

namespace SendMode

/-- What a sender gets if replies are kept back from those that do not wait. -/
def handed : SendMode → Exchange → Exchange
  | blocking, result => result
  | nonBlocking, .ok _ => .ok none
  | nonBlocking, .error e => .error e

/-- The reply that is kept back. -/
def kept? : SendMode → Exchange → Option Reply
  | blocking, _ => none
  | nonBlocking, result => replyOf? result

end SendMode

section Bus

variable (b : SimulatedBus) (request : Request)

/-- What else waits makes no difference to an exchange.  For a sender that does not wait the reply
joins those that wait. -/
lemma bus_send_queued (mode : SendMode) (pending : List Reply) (log : List (Request × SendMode)) :
    ({ b with pending, log } : SimulatedBus).send request mode =
      (mode.handed (b.send request .blocking).1,
        { (b.send request .blocking).2 with
          pending := pending ++ (mode.kept? (b.send request .blocking).1).toList
          log := (request, mode) :: log }) := by
  unfold SimulatedBus.send
  dsimp only
  split
  · cases mode <;> simp [SendMode.handed, SendMode.kept?, replyOf?]
  split
  · cases mode <;> simp [SendMode.handed, SendMode.kept?, replyOf?]
  · unfold SimulatedBus.reply?
    dsimp only
    cases b.refusals with
    | cons code rest =>
        cases mode <;>
          simp [SendMode.handed, SendMode.kept?, replyOf?, SimulatedBus.hand]
    | nil =>
        dsimp only
        cases (b.drive.handle request.frame).1 with
        | none => cases mode <;> simp [SendMode.handed, SendMode.kept?, replyOf?]
        | some frame =>
            cases mode <;>
              simp [SendMode.handed, SendMode.kept?, replyOf?, SimulatedBus.hand]

/-- An exchange lets nothing wait at a sender who waits and orders no refusal.  It gives either a
refusal that was ordered, or the reply of the drive. -/
lemma bus_send_abides :
    (b.send request .blocking).2.pending = b.pending ∧
      (b.send request .blocking).2.drive.registers = b.drive.registers ∧
      (b.send request .blocking).2.refusals.length ≤ b.refusals.length ∧
      ∀ reply, replyOf? (b.send request .blocking).1 = some reply →
        reply.kind = request.kind ∧
          ((b.send request .blocking).2.refusals.length < b.refusals.length ∨
            ∃ frame, (b.drive.handle request.frame).1 = some frame ∧
              reply = .ofFrame request.kind frame) := by
  have hregisters := b.drive.handle_registers request.frame
  rw [SimulatedBus.send]
  dsimp only
  split
  · exact ⟨rfl, rfl, Nat.le_refl _, by simp [replyOf?]⟩
  split
  · exact ⟨rfl, rfl, Nat.le_refl _, by simp [replyOf?]⟩
  · rw [SimulatedBus.reply?]
    dsimp only
    cases hrefusals : b.refusals with
    | cons code rest =>
        refine ⟨rfl, rfl, Nat.le_succ _, ?_⟩
        rintro reply ⟨⟩
        exact ⟨rfl, .inl (Nat.lt_succ_self _)⟩
    | nil =>
        dsimp only
        cases hframe : (b.drive.handle request.frame).1 with
        | none =>
            refine ⟨rfl, hregisters, Nat.le_refl _, ?_⟩
            simp [replyOf?]
        | some frame =>
            refine ⟨rfl, hregisters, Nat.le_refl _, ?_⟩
            rintro reply ⟨⟩
            refine ⟨?_, .inr ⟨frame, rfl, rfl⟩⟩
            rw [Reply.ofFrame]
            split <;> rfl

end Bus

/-- A drive of one model takes a frequency from a driver of any other, if it hears it at all. -/
lemma handle_speed_calm {d : SimulatedDrive} {m m' : DriveModel} (h : d.registers = m.registers)
    (address : UInt8) (code : UInt16) {frame : Frame}
    (hframe : (d.handle (Request.speed address m'.registers code).frame).1 = some frame) :
    exceptionCode? frame = none := by
  by_cases haddress : address = d.address
  · subst haddress
    have hwrite := d.handle_write m'.registers.frequency code
    have hsame : m'.registers.frequency = d.registers.frequency := by
      rw [h]
      cases m <;> cases m' <;> rfl
    have hne : m'.registers.frequency ≠ d.registers.command := by
      rw [h]
      cases m <;> cases m' <;> decide
    rw [SimulatedDrive.write, if_neg hne, if_pos hsame] at hwrite
    change (d.handle (writeFrame d.address m'.registers.frequency code)).1 = some frame at hframe
    rw [hwrite] at hframe
    obtain rfl : writeFrame d.address m'.registers.frequency code = frame :=
      Option.some.inj hframe
    exact exceptionCode?_writeFrame ..
  · have hother : (Request.speed address m'.registers code).frame.address ≠ d.address := by
      rw [Request.speed, writeFrame_eq, Frame.message_address]
      exact haddress
    rw [SimulatedDrive.handle, if_pos hother] at hframe
    simp at hframe

/-! ## Exchanges on the line -/

namespace Line

variable {l : Line} {request : Request}

/-- On a prompt line it does not matter whether the sender waits. -/
lemma Prompt.send_eq (h : l.Prompt) (mode : SendMode) :
    l.send request mode = l.send request .blocking := by
  simp only [send, Rig.send]
  rw [h.synchronous]
  rfl

/-- A prompt line stays one, and answers. -/
lemma Prompt.send (h : l.Prompt) (request : Request) (mode : SendMode) :
    (l.send request mode).2.Prompt ∧
      (l.send request mode).2.refusals.length ≤ l.refusals.length ∧
      Answered l (l.send request mode).2 request (replyOf? (l.send request mode).1) := by
  rw [h.send_eq]
  obtain ⟨hpending, hregisters, hrefusals, hreply⟩ := bus_send_abides l.rig.bus request
  obtain ⟨m, hm⟩ := h.model
  rw [Line.send]
  split
  · exact ⟨⟨h.synchronous, h.pending, m, hm⟩, Nat.le_refl _, .none ..⟩
  · rw [Rig.send]
    rw [h.synchronous]
    refine ⟨⟨rfl, hpending.trans h.pending, m, hregisters.trans hm⟩, hrefusals,
      fun reply hsome => (hreply reply hsome).1, ?_⟩
    rintro address m' code rfl reply hsome
    obtain ⟨-, hordered | ⟨frame, hframe, rfl⟩⟩ := hreply reply hsome
    · rw [Reply.weight]
      split
      · exact Nat.zero_le _
      · exact hordered
    · have haccepted := handle_speed_calm hm address code hframe
      simp [Reply.weight, Reply.isCalm, Reply.ofFrame, haccepted, Reply.isException]

/-- A line that keeps replies back serves a sender in the same way, but for the reply. -/
lemma Prompt.send_queued (h : l.Prompt) (request : Request) (mode : SendMode)
    (pending : List Reply) (log : List (Request × SendMode)) :
    ∃ log', (l.queued pending log).send request mode =
      (mode.handed (l.send request mode).1,
        (l.send request mode).2.queued
          (pending ++ (mode.kept? (l.send request mode).1).toList) log') := by
  have hbus := bus_send_queued l.rig.bus request mode pending log
  rw [h.send_eq mode]
  simp only [Line.send, Rig.send]
  rw [h.synchronous]
  cases hfault : l.faults.head?.join with
  | some error =>
      exact ⟨log, by cases mode <;>
        simp [queued, hear, hfault, SendMode.handed, SendMode.kept?, replyOf?]⟩
  | none => exact ⟨(request, mode) :: log, by simp [queued, hear, hfault, hbus]⟩

end Line

/-! ## Changes -/

section Changes

variable {s : Spindle} {pending : List Reply} {x x' x'' y : Stand Line} {request : Request}
  {reply? : Option Reply} {f : SpindleContext → SpindleContext}

lemma Alike.update (h : Alike pending x y) (hf : SpindleContext.IsApart f) :
    Alike pending (f x.1, x.2) (f y.1, y.2) where
  prompt := h.prompt
  context := by
    obtain ⟨atSpeed, hcontext⟩ := h.context
    exact ⟨atSpeed, by rw [hcontext, hf.seen]⟩
  line := h.line

lemma Alike.affect {g : Line → Line} (h : Alike pending x y) (hg : Line.IsApart g) :
    Alike pending (x.1, g x.2) (y.1, g y.2) where
  prompt := hg.prompt _ h.prompt
  context := h.context
  line := by
    obtain ⟨log, hline⟩ := h.line
    exact ⟨log, by rw [hline, hg.queued]⟩

lemma isApart_raiseAlarm (id : SpindleId) : Line.IsApart (Line.surroundings id).raiseAlarm :=
  ⟨fun _ _ _ => rfl, fun _ h => ⟨h.synchronous, h.pending, h.model⟩⟩

lemma Alike.pending_eq (h : Alike pending x y) : y.2.rig.bus.pending = pending := by
  obtain ⟨log, hline⟩ := h.line
  rw [hline]
  rfl

lemma Alike.refusals_eq (h : Alike pending x y) : y.2.refusals = x.2.refusals := by
  obtain ⟨log, hline⟩ := h.line
  rw [hline]
  rfl

lemma Alike.tolerance_eq (h : Alike pending x y) (id : SpindleId) :
    (Line.surroundings id).tolerance y.2 = (Line.surroundings id).tolerance x.2 := by
  obtain ⟨log, hline⟩ := h.line
  rw [hline]
  rfl

lemma Alike.inbox_eq (h : Alike pending x y) : y.1.inbox = x.1.inbox := by
  obtain ⟨atSpeed, hcontext⟩ := h.context
  rw [hcontext, SpindleContext.seen_inbox]

lemma Alike.reading_eq (h : Alike pending x y) : y.1.reading = x.1.reading := by
  obtain ⟨atSpeed, hcontext⟩ := h.context
  rw [hcontext, SpindleContext.seen_reading]

lemma Alike.data_eq (h : Alike pending x y) : y.1.data = x.1.data := by
  obtain ⟨atSpeed, hcontext⟩ := h.context
  rw [hcontext, SpindleContext.seen_data]

lemma Lasts.refl (x : Stand Line) : Lasts x x := ⟨rfl, Nat.le_refl _⟩

lemma Lasts.trans (h : Lasts x x') (h' : Lasts x' x'') : Lasts x x'' where
  state := h'.state.trans h.state
  refusals := Nat.le_trans h'.refusals h.refusals

lemma Abides.refl (x : Stand Line) : Abides x x := ⟨.refl x, rfl, rfl⟩

lemma Abides.trans (h : Abides x x') (h' : Abides x' x'') : Abides x x'' where
  toLasts := h.toLasts.trans h'.toLasts
  reading := h'.reading.trans h.reading
  inbox := h'.inbox.trans h.inbox

lemma Abides.update (hf : SpindleContext.IsApart f) (x : Stand Line) : Abides x (f x.1, x.2) where
  state := hf.state _
  refusals := Nat.le_refl _
  reading := hf.reading _
  inbox := hf.inbox _

lemma Abides.raiseAlarm (h : Abides x x') (id : SpindleId) :
    Abides x (x'.1, (Line.surroundings id).raiseAlarm x'.2) :=
  ⟨⟨h.state, h.refusals⟩, h.reading, h.inbox⟩

/-- **A request has been sent**, and this is what is left alone and said of its reply. -/
structure Sent (request : Request) (reply? : Option Reply) (x x' : Stand Line) : Prop
    extends Abides x x' where
  answers : Answered x.2 x'.2 request reply?

lemma Abides.sent (h : Abides x x') (h' : Sent request reply? x' x'') :
    Sent request reply? x x'' where
  toAbides := h.trans h'.toAbides
  answers :=
    { kind := h'.answers.kind
      weight := fun address m code hrequest reply hsome =>
        Nat.le_trans (h'.answers.weight address m code hrequest reply hsome) h.refusals }

end Changes

/-! ## Exchanges side by side -/

section Sending

variable {s : Spindle} {pending : List Reply} {x y : Stand Line}

/-- An exchange comes to the same for both; what the second sender does not wait for is kept. -/
lemma together_exchange (h : Alike pending x y) (request : Request) (mode : SendMode) :
    Together (exchange (Line.surroundings s.id) request mode)
      (exchange (Line.surroundings s.id) request mode)
      (fun a b x' y' => b = mode.handed a ∧ Alike (pending ++ (mode.kept? a).toList) x' y' ∧
        Sent request (replyOf? a) x x') x y := by
  obtain ⟨hprompt, hcontext, log, hline⟩ := h
  obtain ⟨hafter, hrefusals, hanswers⟩ := hprompt.send request mode
  obtain ⟨log', hqueued⟩ := hprompt.send_queued request mode pending log
  rw [← hline] at hqueued
  refine ⟨_, (x.1, (x.2.send request mode).2), _, (y.1, (y.2.send request mode).2), rfl, rfl, ?_⟩
  rw [hqueued]
  exact ⟨rfl, ⟨hafter, hcontext, log', rfl⟩, ⟨⟨rfl, hrefusals⟩, rfl, rfl⟩, hanswers⟩

/-- A single attempt: the second sender has no reply yet. -/
lemma together_sendOnce (h : Alike pending x y) (request : Request) :
    Together (sendOnce (exchange (Line.surroundings s.id)) request)
      (sendOnce (exchange (Line.surroundings s.id)) request)
      (fun a b x' y' => b = none ∧ Alike (pending ++ a.toList) x' y' ∧ Sent request a x x')
      x y := by
  rw [sendOnce]
  refine (together_exchange h request .nonBlocking).bind ?_
  rintro (e | reply?) b x' y' ⟨rfl, halike, hsent⟩
  · exact together_pure ⟨rfl, halike, hsent⟩
  · exact together_pure ⟨rfl, halike, hsent⟩

/-- Attempts in a row, with what is noted down in between. -/
lemma together_attempt {mark : Nat → SpindleContext → SpindleContext}
    (hmark : ∀ n, SpindleContext.IsApart (mark n)) (request : Request) (left : Nat) :
    ∀ number last x y, Alike pending x y →
      Together
        (attempt (exchange (Line.surroundings s.id) request .blocking)
          (fun n => update (mark n)) left number last)
        (attempt (exchange (Line.surroundings s.id) request .blocking)
          (fun n => update (mark n)) left number last)
        (fun a b x' y' => b = a ∧ Alike pending x' y' ∧ Sent request (replyOf? a) x x') x y := by
  induction left with
  | zero =>
      intro number last x y h
      exact together_pure ⟨rfl, h, .refl x, .none ..⟩
  | succ left ih =>
      intro number last x y h
      rw [attempt]
      refine (together_exchange h request .blocking).bind ?_
      rintro (e | reply?) b x' y' ⟨rfl, halike, hsent⟩
      · simp only [SendMode.kept?, Option.toList_none, List.append_nil] at halike
        simp only [SendMode.handed, together_update_left, together_update_right]
        refine (ih (number + 1) e _ _ (halike.update (hmark number))).mono ?_
        rintro a b x'' y'' ⟨rfl, halike', hsent'⟩
        exact ⟨rfl, halike', (hsent.toAbides.trans (.update (hmark number) x')).sent hsent'⟩
      · simp only [SendMode.kept?, Option.toList_none, List.append_nil] at halike
        exact together_pure ⟨rfl, halike, hsent⟩

/-- Sending until it is done or the attempts are used up. -/
lemma together_sendRepeatedly {mark : Nat → SpindleContext → SpindleContext}
    (hmark : ∀ n, SpindleContext.IsApart (mark n)) (h : Alike pending x y) (request : Request)
    (retries : Nat) :
    Together
      (sendRepeatedly (exchange (Line.surroundings s.id)) request retries
        fun n => update (mark n))
      (sendRepeatedly (exchange (Line.surroundings s.id)) request retries
        fun n => update (mark n))
      (fun a b x' y' => b = a ∧ Alike pending x' y' ∧ Sent request (replyOf? a) x x') x y := by
  rw [sendRepeatedly]
  refine (together_attempt hmark request (max retries 1) 1 .timeout x y h).bind ?_
  rintro (e | reply?) b x' y' ⟨rfl, halike, hsent⟩
  · exact together_pure ⟨rfl, halike, hsent⟩
  · exact together_pure ⟨rfl, halike, hsent⟩

lemma isApart_speedOp (progress : OperationState) :
    SpindleContext.IsApart fun c => { c with speedOp := progress } :=
  ⟨fun _ _ => rfl, fun _ => rfl, fun _ => rfl, fun _ => rfl⟩

lemma isApart_statusOp (progress : OperationState) :
    SpindleContext.IsApart fun c => { c with statusOp := progress } :=
  ⟨fun _ _ => rfl, fun _ => rfl, fun _ => rfl, fun _ => rfl⟩

lemma isApart_endSpeed (rpm tolerance : Binary32) (progress : OperationState) :
    SpindleContext.IsApart (·.endSpeed rpm tolerance progress) :=
  ⟨fun _ _ => rfl, fun _ => rfl, fun _ => rfl, fun _ => rfl⟩

/-- **The exchange for a speed.**  What the second sender does not wait for is kept. -/
lemma together_exchangeSpeed (h : Alike pending x y) (request : Request) (blocking : Bool) :
    Together (s.exchangeSpeed (Line.surroundings s.id) request blocking)
      (s.exchangeSpeed (Line.surroundings s.id) request blocking)
      (fun a b x' y' => Sent request (replyOf? a) x x' ∧
        if blocking then b = a ∧ Alike pending x' y'
        else (∃ reply?, a = .ok reply?) ∧ b = .ok none ∧
          Alike (pending ++ (replyOf? a).toList) x' y') x y := by
  rw [Spindle.exchangeSpeed]
  cases blocking
  · simp only [Bool.false_eq_true, if_false]
    refine together_map ((together_sendOnce h request).mono ?_)
    rintro reply? b x' y' ⟨rfl, halike, hsent⟩
    exact ⟨hsent, ⟨reply?, rfl⟩, rfl, halike⟩
  · simp only [if_true]
    refine (together_sendRepeatedly (fun n => isApart_speedOp (.retrying n)) h request
      s.retries).mono ?_
    rintro a b x' y' ⟨rfl, halike, hsent⟩
    exact ⟨hsent, rfl, halike⟩

/-- **A speed is sent side by side**, and the second program goes on with `k`.  Either there is no
reply, or both senders have waited for it, or it is there for the first alone. -/
theorem together_sendSpeed {β : Type} {f g : Reply → Operation Line Unit}
    {k : Except DriverError Unit → Operation Line β}
    {R : Except DriverError Unit → β → Stand Line → Stand Line → Prop} {rpm : Binary32}
    {blocking : Bool} (h : Alike pending x y)
    (ended : ∀ result x' y', Alike pending x' y' → Abides x x' →
      Together (pure result) (k result) R x' y')
    (got : blocking = true → ∀ reply x' y', Alike pending x' y' → Abides x x' →
      Together (f reply) (g reply >>= fun _ => k (.ok ())) (fun _ => R (.ok ())) x' y')
    (late : blocking = false → ∀ reply x' y', Alike (pending ++ [reply]) x' y' → Abides x x' →
      reply.weight x'.2 ≤ x.2.refusals.length →
      Together (f reply) (k (.ok ())) (fun _ => R (.ok ())) x' y') :
    Together (s.sendSpeed (Line.surroundings s.id) f rpm blocking)
      (s.sendSpeed (Line.surroundings s.id) g rpm blocking >>= k) R x y := by
  obtain ⟨c, l⟩ := x
  obtain ⟨c', l'⟩ := y
  obtain ⟨atSpeed, rfl⟩ : ∃ atSpeed, c' = c.seen atSpeed := h.context
  simp only [Spindle.sendSpeed, bind_assoc, together_context_left, together_context_right,
    SpindleContext.seen_isSelected, SpindleContext.seen_speedOp, SpindleContext.seen_address]
  by_cases hselected : c.isSelected = true
  case neg =>
    simpa [hselected] using ended (.error .notSelected) _ _ h (.refl _)
  by_cases hbusy : c.speedOp.isBusy = true
  case pos =>
    simpa [hselected, hbusy] using ended (.error (.reentrant .setSpeed)) _ _ h (.refl _)
  simp only [hselected, hbusy, Bool.not_true, Bool.false_eq_true, if_false, bind_assoc,
    together_update_left, together_update_right]
  have hbegun : Abides (c, l) ({ c with speedOp := .sending }, l) :=
    .update (isApart_speedOp .sending) (c, l)
  refine (together_exchangeSpeed (h.update (isApart_speedOp .sending)) _ blocking).bind ?_
  rintro outcome outcome' x' y' ⟨hsent, hends⟩
  have hsent := hbegun.sent hsent
  simp only [together_observe_left, together_observe_right, together_update_left,
    together_update_right]
  have hprogram (progress : OperationState) :
      SpindleContext.IsApart (·.endSpeed rpm ((Line.surroundings s.id).tolerance x'.2) progress) :=
    isApart_endSpeed ..
  have habides (progress : OperationState) :=
    hsent.toAbides.trans (.update (hprogram progress) x')
  cases blocking
  · -- If there is a reply, the first sender has it, and for the second it waits.
    obtain ⟨⟨reply?, rfl⟩, rfl, halike⟩ := hends
    rw [halike.tolerance_eq]
    cases reply? with
    | none =>
        simp only [replyOf?, Option.toList_none, List.append_nil] at halike
        exact ended (.ok ()) _ _ (halike.update (hprogram .idle)) (habides .idle)
    | some reply =>
        refine (late rfl reply _ _ (halike.update (hprogram .idle)) (habides .idle) ?_).bind_left ?_
        · exact hsent.answers.weight _ _ _ rfl reply rfl
        · intro _ b x'' y'' hR
          exact together_pure hR
  · obtain ⟨rfl, halike⟩ := hends
    rw [halike.tolerance_eq]
    rcases outcome' with e | _ | reply
    · have hraise := isApart_raiseAlarm s.id
      exact ended (.error e) _ _ ((halike.update (hprogram .failed)).affect hraise)
        ((habides .failed).raiseAlarm s.id)
    · exact ended (.ok ()) _ _ (halike.update (hprogram .idle)) (habides .idle)
    · simp only [OperationState.after, bind_assoc, pure_bind]
      refine (got rfl reply _ _ (halike.update (hprogram .idle)) (habides .idle)).bind_left ?_
      intro _ b x'' y'' hR
      exact together_pure hR

end Sending

end SpindleDrive
