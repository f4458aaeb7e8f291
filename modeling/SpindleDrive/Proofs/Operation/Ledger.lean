import SpindleDrive.Proofs.Operation.Taken

/-!
# What a call has to account for

Two things come of what is read in a spindle's inbox: an alarm, and a speed that is sent again.  A
ledger has an entry for each of them, with the opposite entry for the reading that causes it, so
that whatever is read balances out, and what remains is what the call does of its own.

* `SpindleContext.isEscalatedBy`, `SpindleContext.isReissuedBy` — what the reading of a reply
  causes: an alarm, a speed that is sent again.
* `Request.isUpdate`, `HostCall.isUpdate` — a speed that nobody waits for, and the call for one.
* `Surroundings.Ledger` — the entries: a fine for an alarm, a price for a speed without waiting.
* **`Ledger.leads_carryOut`** — a call that comes back leaves the balance as it was, but for the
  fine if it comes back exhausted, and the price if it is a speed without waiting.
-/

namespace SpindleDrive

open Operation

/-! ## Entries -/

/-- Whether a reply that is read in this state is one the host is alarmed for. -/
def SpindleContext.isEscalatedBy (c : SpindleContext) (reply : Reply) (coldStart : Bool) : Bool :=
  reply.isException && (coldStart || decide (c.exceptions.bound ≤ c.exceptions.count + 1))

/-- Whether a spindle in this state sends a speed rather than refuse to. -/
def SpindleContext.sendsSpeed (c : SpindleContext) : Bool := c.isSelected && !c.speedOp.isBusy

/-- Whether a reply that is read in this state has the speed sent again.  The count of refusals
has no say in it. -/
def SpindleContext.isReissuedBy (c : SpindleContext) (reply : Reply) (coldStart : Bool) : Bool :=
  decide (reply.kind = .setSpeed) && reply.isException && !coldStart && c.sendsSpeed

/-- The reader finds a reply alarming in just these cases. -/
lemma ReplyReader.read_escalates (r : ReplyReader) (reply : Reply) (coldStart : Bool)
    (c : SpindleContext) :
    (r.read reply coldStart c.data c.exceptions).1.escalates = c.isEscalatedBy reply coldStart := by
  obtain ⟨kind, frame | code⟩ := reply
  · simpa [read, SpindleContext.isEscalatedBy, Reply.isException] using
      r.readResponse_escalates kind frame c.data
  · cases coldStart
    · simp only [read, readException, SpindleContext.isEscalatedBy, Reply.isException,
        ExceptionCounter.record]
      by_cases hbound : c.exceptions.bound ≤ c.exceptions.count + 1
      · simp [hbound, Finding.escalates]
      · simp [hbound, Finding.escalates]
    · rfl

/-- The reader finds a speed to send again in any refusal of one, but for a cold start. -/
lemma ReplyReader.read_reissues (r : ReplyReader) (reply : Reply) (coldStart : Bool)
    (c : SpindleContext) :
    ((r.read reply coldStart c.data c.exceptions).1.reissue?.isSome && c.sendsSpeed) =
      c.isReissuedBy reply coldStart := by
  obtain ⟨kind, frame | code⟩ := reply
  · simp [read, r.readResponse_reissue?, SpindleContext.isReissuedBy, Reply.isException]
  · cases coldStart
    · cases kind <;>
        simp [read, readException, Finding.reissue?, SpindleContext.isReissuedBy,
          Reply.isException]
    · simp [read, readException, Finding.reissue?, SpindleContext.isReissuedBy]

/-- Whether a request is a speed that the sender does not wait for. -/
def Request.isUpdate (request : Request) (mode : SendMode) : Bool :=
  decide (request.kind = .setSpeed) && decide (mode = .nonBlocking)

/-- Whether a call, made in this state, has a speed sent without waiting. -/
def HostCall.isUpdate (c : SpindleContext) : HostCall → Bool
  | setSpeed _ blocking => !blocking && c.sendsSpeed
  | _ => false

/-- While the bus is taken no such call comes back. -/
lemma Surroundings.IsTaken.leads_update {World : Type} {env : Surroundings World}
    (h : env.IsTaken) {s : Spindle} {c : SpindleContext} {w : World} {patience : Nat}
    {call : HostCall} (hupdate : call.isUpdate c = true) :
    Leads (s.carryOut env patience call) (fun r _ _ => r = none) c w := by
  cases call with
  | setSpeed rpm blocking =>
      simp only [HostCall.isUpdate, SpindleContext.sendsSpeed, Bool.and_eq_true,
        Bool.not_eq_true'] at hupdate
      simp only [Spindle.carryOut, leads_map]
      refine Operation.leads_setSpeed (Operation.leads_sendSpeed (fun hsel => ?_)
        (fun _ hbusy => ?_) fun _ _ => ?_)
      · simp [hsel] at hupdate
      · simp [hbusy] at hupdate
      · refine (h.leads_exchangeSpeed _ blocking).mono ?_
        rintro _ c w rfl
        rfl
  | bind | applySettings | setState | getState | getData | requestMaxSpeed | deliver =>
      simp [HostCall.isUpdate] at hupdate

/-- What the host is due for the end of a command: an alarm if it is exhausted. -/
def due (r : Except DriverError Unit) : Int :=
  if (Answer.outcome r).isExhausted then 1 else 0

@[simp] lemma due_ok (u : Unit) : due (.ok u) = 0 := rfl
@[simp] lemma due_notSelected : due (.error .notSelected) = 0 := rfl
@[simp] lemma due_reentrant (kind : RequestKind) : due (.error (.reentrant kind)) = 0 := rfl
@[simp] lemma due_exhausted (kind : RequestKind) (attempts : Nat) (last : TransportError) :
    due (.error (.exhausted kind attempts last)) = 1 := rfl

lemma isExhausted_of_due {r : Except DriverError Unit} (h : due r = 0) :
    (Answer.outcome r).isExhausted = false := by
  cases hr : (Answer.outcome r).isExhausted
  · rfl
  · simp [due, hr] at h

/-- **A ledger.**  An alarm adds the fine and a speed that nobody waits for adds the price; the
reading of a reply takes away the fine and the price of what it causes.  An exchange that never
ends is not entered. -/
structure Surroundings.Ledger {World : Type} (env : Surroundings World) (balance : World → Int)
    (fine price : Int) : Prop where
  silence : ∀ w, balance (env.silence w) = balance w
  send : ∀ request mode c w, (env.send request mode c w).1.isSome = true →
    balance (env.send request mode c w).2.2 =
      balance w + if request.isUpdate mode then price else 0
  journal : ∀ reply coldStart c w, balance (env.journal reply coldStart c w) =
    balance w - (if c.isEscalatedBy reply coldStart then fine else 0) -
      if c.isReissuedBy reply coldStart then price else 0
  raiseAlarm : ∀ w, balance (env.raiseAlarm w) = balance w + fine
  setTolerance : ∀ tolerance w, balance (env.setTolerance tolerance w) = balance w

namespace Surroundings.Ledger

variable {World : Type} {env : Surroundings World} {balance : World → Int} {fine price : Int}
  {s : Spindle} {c : SpindleContext} {w : World}

/-! ## Exchanges -/

/-- A single attempt, that nobody waits for. -/
lemma leads_sendOnce (t : env.Ledger balance fine price) (request : Request) :
    Leads (sendOnce (exchange env) request)
      (fun r _ w' => r.isSome = true →
        balance w' = balance w + if request.kind = .setSpeed then price else 0) c w := by
  have hsend : Leads (exchange env request .nonBlocking)
      (fun r _ w' => r.isSome = true →
        balance w' = balance w + if request.kind = .setSpeed then price else 0) c w := by
    intro hback
    simpa [Request.isUpdate] using t.send request .nonBlocking c w hback
  refine Operation.leads_sendOnce (hsend.mono ?_)
  rintro (_ | _ | _) c w hw
  · exact hw
  · exact fun _ => hw rfl
  · exact fun _ => hw rfl

/-- A blocking exchange is not entered, and if it fails it is exhausted. -/
lemma leads_sendRepeatedly (t : env.Ledger balance fine price) (request : Request) (retries : Nat)
    (mark : Nat → SpindleContext → SpindleContext) :
    Leads (sendRepeatedly (exchange env) request retries fun n => update (mark n))
      (fun r _ w' => ∀ outcome, r = some outcome →
        balance w' = balance w ∧ ∀ e, outcome = .error e → due (.error e) = 1) c w := by
  have hsend (c : SpindleContext) (w : World) : Leads (exchange env request .blocking)
      (fun r _ w' => r.isSome = true → balance w' = balance w) c w := by
    intro hback
    simpa [Request.isUpdate] using t.send request .blocking c w hback
  refine Operation.leads_sendRepeatedly (fun _ _ _ w' => balance w' = balance w) rfl
    (fun k last c w' _ hw => (hsend c w').mono ?_) fun last c w' hw => ?_
  · rintro (_ | e | reply?) c w'' hw'
    · simp
    · exact (hw' rfl).trans hw
    · rintro outcome ⟨⟩
      exact ⟨(hw' rfl).trans hw, by simp⟩
  · rintro outcome ⟨⟩
    refine ⟨hw, ?_⟩
    rintro e ⟨⟩
    exact due_exhausted ..

/-- The exchange for a speed; without waiting it does not fail, and has its price. -/
lemma leads_exchangeSpeed (t : env.Ledger balance fine price) {request : Request}
    (hspeed : request.kind = .setSpeed) (blocking : Bool) :
    Leads (s.exchangeSpeed env request blocking)
      (fun r _ w' => ∀ outcome, r = some outcome →
        balance w' = balance w + (if blocking then 0 else price) ∧
          ∀ e, outcome = .error e → due (.error e) = 1 ∧ blocking = true) c w := by
  cases blocking
  · simp only [Spindle.exchangeSpeed, Bool.false_eq_true, if_false, leads_map]
    refine (t.leads_sendOnce request).mono ?_
    rintro (_ | reply?) c w' hw
    · simp
    · rintro outcome ⟨⟩
      exact ⟨by simpa [hspeed] using hw rfl, by simp⟩
  · simpa [Spindle.exchangeSpeed] using t.leads_sendRepeatedly request s.retries _

/-- **Sending a speed** owes the fine if it is exhausted, which it never is without waiting, and
without waiting it has its price unless it is refused. -/
lemma leads_sendSpeed (t : env.Ledger balance fine price)
    {onReply : Reply → Operation World Unit}
    (hReply : ∀ reply c w,
      Leads (onReply reply) (fun r _ w' => r.isSome = true → balance w' = balance w) c w)
    (rpm : Binary32) (blocking : Bool) :
    Leads (s.sendSpeed env onReply rpm blocking)
      (fun r _ w' => ∀ a, r = some a →
        balance w' =
          balance w + fine * due a + (if !blocking && c.sendsSpeed then price else 0) ∧
          (blocking = false → due a = 0)) c w := by
  refine Operation.leads_sendSpeed (fun hsel => ?_) (fun _ hbusy => ?_) fun hsel hbusy => ?_
  · rintro a ⟨⟩
    simp [SpindleContext.sendsSpeed, hsel]
  · rintro a ⟨⟩
    simp [SpindleContext.sendsSpeed, hbusy]
  have hprice : (if !blocking && c.sendsSpeed then price else 0) =
      if blocking then 0 else price := by
    cases blocking <;> simp [SpindleContext.sendsSpeed, hsel, hbusy]
  rw [hprice]
  refine (t.leads_exchangeSpeed rfl blocking).mono ?_
  rintro (_ | e | _ | reply) c w' h
  · simp
  · obtain ⟨hw, he⟩ := h _ rfl
    obtain ⟨hdue, hblock⟩ := he e rfl
    rintro a ⟨⟩
    refine ⟨?_, by simp [hblock]⟩
    rw [t.raiseAlarm, hw, hdue]
    omega
  · rintro a ⟨⟩
    exact ⟨by simpa using (h _ rfl).1, fun _ => rfl⟩
  · refine (hReply reply _ w').mono ?_
    rintro (_ | _) c w'' hw
    · simp
    · rintro a ⟨⟩
      exact ⟨by simpa [(h _ rfl).1] using hw rfl, fun _ => rfl⟩

/-! ## Readings -/

lemma leads_reissue (t : env.Ledger balance fine price) (rpm? : Option Binary32) :
    Leads (s.reissue env rpm?)
      (fun r _ w' => r.isSome = true →
        balance w' = balance w + if rpm?.isSome && c.sendsSpeed then price else 0) c w := by
  refine Operation.leads_reissue (fun hnone _ => by simp [hnone]) fun rpm hrpm => ?_
  refine (t.leads_sendSpeed (fun reply c w => (leads_enqueue reply).2 fun _ => rfl) rpm
    false).mono ?_
  rintro (_ | a) c' w' h
  · simp
  · obtain ⟨hw, hdue⟩ := h a rfl
    intro _
    rw [hw, hdue rfl, hrpm]
    simp

/-- **Reading a reply balances out**: what is taken away when it is entered in the journal comes
back with the speed that is sent again and with the alarm. -/
lemma leads_readReply (t : env.Ledger balance fine price) :
    Leads (s.readReply env) (fun r _ w' => r.isSome = true → balance w' = balance w) c w := by
  refine Operation.leads_readReply (fun _ _ => rfl) fun reply rest _ => ?_
  refine leads_heed ((t.leads_reissue _).mono ?_)
  rintro (_ | _) c' w' hw
  · simp
  · intro _
    have hjournal := t.journal reply (env.isColdStart w) c w
    have hreissue := hw rfl
    have hsends : (s.takeIn reply rest (env.isColdStart w) c).sendsSpeed = c.sendsSpeed := rfl
    rw [hsends, ReplyReader.read_reissues] at hreissue
    rw [ReplyReader.read_escalates]
    cases hesc : c.isEscalatedBy reply (env.isColdStart w)
    · simp only [hesc, Bool.false_eq_true, if_false] at hjournal ⊢
      omega
    · simp only [hesc, if_true] at hjournal ⊢
      rw [t.raiseAlarm]
      omega

lemma leads_deliver (t : env.Ledger balance fine price) (patience : Nat) (reply : Reply) :
    Leads (s.deliver env patience reply)
      (fun r _ w' => r.isSome = true → balance w' = balance w) c w := by
  refine Operation.leads_deliver (fun _ _ => rfl) fun _ => ?_
  refine leads_readReplies (fun _ w' => balance w' = balance w) (fun _ _ _ => by simp)
    (fun c w' hw => ?_) patience _ w rfl
  refine t.leads_readReply.mono ?_
  rintro (_ | _ | _) c w'' hw'
  · simp
  · exact fun _ => (hw' rfl).trans hw
  · exact (hw' rfl).trans hw

lemma leads_deliverAny (t : env.Ledger balance fine price) (patience : Nat)
    (reply? : Option Reply) :
    Leads (s.deliverAny env patience reply?)
      (fun r _ w' => r.isSome = true → balance w' = balance w) c w :=
  Operation.leads_deliverAny (fun _ _ => rfl) fun reply _ => t.leads_deliver patience reply

/-! ## Calls -/

lemma leads_setSpeed (t : env.Ledger balance fine price) (patience : Nat) (rpm : Binary32)
    (blocking : Bool) :
    Leads (s.setSpeed env patience rpm blocking)
      (fun r _ w' => ∀ a, r = some a →
        balance w' =
          balance w + fine * due a + (if !blocking && c.sendsSpeed then price else 0) ∧
          (blocking = false → due a = 0)) c w :=
  t.leads_sendSpeed (fun reply _ _ => t.leads_deliver patience reply) rpm blocking

/-- Of the two alarms that a command to start or stop can owe, it owes at most one. -/
lemma leads_setState (t : env.Ledger balance fine price) (patience : Nat) (state : SpindleState)
    (rpm : Binary32) :
    Leads (s.setState env patience state rpm)
      (fun r _ w' => ∀ a, r = some a → balance w' = balance w + fine * due a) c w := by
  refine Operation.leads_setState (fun _ => ?_) (fun _ _ => ?_) fun _ _ => ?_
  · rintro a ⟨⟩
    simp
  · rintro a ⟨⟩
    simp
  refine (t.leads_sendRepeatedly _ _ _).mono ?_
  rintro (_ | e | reply?) c w' h
  · simp
  · obtain ⟨hw, he⟩ := h _ rfl
    rintro a ⟨⟩
    rw [t.raiseAlarm, hw, he e rfl, Int.mul_one]
  · refine (t.leads_deliverAny patience reply?).mono ?_
    rintro (_ | _) c w'' hw
    · simp
    · refine (t.leads_setSpeed patience rpm true).mono fun r c w''' h' a ha => ?_
      rw [(h' a ha).1, hw rfl, (h _ rfl).1]
      simp

/-- The reading of a register is not entered, and neither is what its reply causes. -/
lemma leads_reading (t : env.Ledger balance fine price) (patience : Nat) {request : Request}
    (hreading : request.kind ≠ .setSpeed) :
    Leads (sendOnce (exchange env) request >>= s.deliverAny env patience)
      (fun r _ w' => r.isSome = true → balance w' = balance w) c w := by
  rw [leads_bind]
  refine (t.leads_sendOnce request).mono ?_
  rintro (_ | reply?) c w' hw
  · simp
  · refine (t.leads_deliverAny patience reply?).mono ?_
    rintro (_ | _) c w'' hw'
    · simp
    · intro _
      rw [hw' rfl, hw rfl, if_neg hreading, Int.add_zero]

lemma leads_getState (t : env.Ledger balance fine price) (patience : Nat) :
    Leads (s.getState env patience)
      (fun r _ w' => r.isSome = true → balance w' = balance w) c w := by
  refine Operation.leads_getState (fun _ _ => rfl) fun _ _ => ?_
  have hreading : (Request.readOutput c.address s.registers).kind ≠ .setSpeed := by
    simp [Request.readOutput]
  have hread := t.leads_reading (s := s) (c := { c with lastPoll := some (env.elapsed w) }) (w := w)
    patience hreading
  rw [leads_bind] at hread
  refine hread.mono ?_
  rintro (_ | reply?) c w' h
  · simp
  · refine h.mono ?_
    rintro (_ | _) c w'' hw
    · simp
    · exact fun _ => hw rfl

lemma leads_requestMaxSpeed (t : env.Ledger balance fine price) (patience : Nat) :
    Leads (s.requestMaxSpeed env patience)
      (fun r _ w' => ∀ a, r = some a → balance w' = balance w + fine * due a ∧ due a = 0) c w := by
  refine Operation.leads_requestMaxSpeed (fun _ => ?_) (fun _ _ => ?_) fun _ request hmax => ?_
  · rintro a ⟨⟩
    simp
  · rintro a ⟨⟩
    simp
  have hreading : request.kind ≠ .setSpeed := by
    obtain ⟨register, -, rfl⟩ := Option.map_eq_some_iff.1 hmax
    simp
  have hread := t.leads_reading (s := s) (c := c) (w := w) patience hreading
  rw [leads_bind] at hread
  refine hread.mono ?_
  rintro (_ | reply?) c w' h
  · simp
  · refine h.mono ?_
    rintro (_ | _) c w'' hw
    · simp
    · rintro a ⟨⟩
      simpa using hw rfl

lemma leads_bindTo (t : env.Ledger balance fine price) (patience : Nat) (selection : Selection) :
    Leads (s.bind env patience selection)
      (fun r _ w' => r.isSome = true → balance w' = balance w) c w := by
  refine Operation.leads_bindTo (fun _ _ => rfl) fun _ => ?_
  dsimp only
  split
  · refine (t.leads_requestMaxSpeed patience).mono ?_
    rintro (_ | a) c w' h
    · simp
    · obtain ⟨hw, hdue⟩ := h a rfl
      intro _
      rw [hw, hdue, t.silence, Int.mul_zero, Int.add_zero]
  · exact fun _ => t.silence w

lemma leads_applySettings (t : env.Ledger balance fine price) (settings : HostSettings)
    (changed : SettingsChanged) :
    Leads (Spindle.applySettings env settings changed)
      (fun r _ w' => r.isSome = true → balance w' = balance w) c w :=
  Operation.leads_applySettings (fun _ _ => rfl) fun _ _ => t.setTolerance _ w

/-- **A call that comes back leaves the balance as it was**, but for the fine if it is exhausted,
which only a call that waits for the drive can be, and for the price if it has a speed sent without
waiting. -/
theorem leads_carryOut (t : env.Ledger balance fine price) (patience : Nat) (call : HostCall) :
    Leads (s.carryOut env patience call)
      (fun r _ w' => ∀ answer, r = some answer →
        balance w' = balance w + (if answer.isExhausted then fine else 0) +
            (if call.isUpdate c then price else 0) ∧
          (call.waits = false → answer.isExhausted = false)) c w := by
  have plain : ∀ {α : Type} {op : Operation World α} (f : α → Answer),
      (∀ a, (f a).isExhausted = false) → call.isUpdate c = false →
      Leads op (fun r _ w' => r.isSome = true → balance w' = balance w) c w →
      Leads (f <$> op) (fun r _ w' => ∀ answer, r = some answer →
        balance w' = balance w + (if answer.isExhausted then fine else 0) +
            (if call.isUpdate c then price else 0) ∧
          (call.waits = false → answer.isExhausted = false)) c w := by
    intro α op f hf hupdate h
    rw [leads_map]
    refine h.mono ?_
    rintro (_ | a) c w' hw
    · simp
    · rintro answer ⟨⟩
      exact ⟨by simpa [hf a, hupdate] using hw rfl, fun _ => hf a⟩
  have command : ∀ {op : Operation World (Except DriverError Unit)},
      Leads op (fun r _ w' => ∀ a, r = some a →
        balance w' = balance w + fine * due a + (if call.isUpdate c then price else 0) ∧
          (call.waits = false → due a = 0)) c w →
      Leads (Answer.outcome <$> op) (fun r _ w' => ∀ answer, r = some answer →
        balance w' = balance w + (if answer.isExhausted then fine else 0) +
            (if call.isUpdate c then price else 0) ∧
          (call.waits = false → answer.isExhausted = false)) c w := by
    intro op h
    rw [leads_map]
    refine h.mono ?_
    rintro (_ | a) c w' hw
    · simp
    · rintro answer ⟨⟩
      obtain ⟨hbalance, hwaits⟩ := hw a rfl
      refine ⟨?_, fun hnot => isExhausted_of_due (hwaits hnot)⟩
      rw [hbalance, due]
      split
      · rw [Int.mul_one]
      · rw [Int.mul_zero]
  cases call with
  | bind selection => exact plain _ (fun _ => rfl) rfl (t.leads_bindTo patience selection)
  | applySettings settings changed =>
      exact plain _ (fun _ => rfl) rfl (t.leads_applySettings settings changed)
  | setState state rpm =>
      exact command ((t.leads_setState patience state rpm).mono fun _ _ _ h a ha =>
        ⟨by simpa [HostCall.isUpdate] using h a ha, by simp [HostCall.waits]⟩)
  | setSpeed rpm blocking => exact command (t.leads_setSpeed patience rpm blocking)
  | getState => exact plain _ (fun _ => rfl) rfl (t.leads_getState patience)
  | getData => exact plain _ (fun _ => rfl) rfl fun _ => rfl
  | requestMaxSpeed =>
      exact command ((t.leads_requestMaxSpeed patience).mono fun _ _ _ h a ha =>
        ⟨by simpa [HostCall.isUpdate] using (h a ha).1, fun _ => (h a ha).2⟩)
  | deliver reply => exact plain _ (fun _ => rfl) rfl (t.leads_deliver patience reply)

end Surroundings.Ledger

end SpindleDrive
