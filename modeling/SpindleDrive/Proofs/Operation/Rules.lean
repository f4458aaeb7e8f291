import SpindleDrive.Proofs.Operation.Leads
import SpindleDrive.Proofs.Operation.Receiver

/-!
# One rule for each operation of a spindle

`Leads` statements about the operations of a spindle, each reduced to what its parts have to do.
Whoever proves something of all operations uses these rules and looks into no operation.

* `leads_sendSpeed`, `leads_setSpeed`, `leads_setState` — a command is refused at once, or its
  exchange comes to one of four ends: it never ends, it fails, it gives no reply or it gives one.
* `leads_readReply`, **`leads_readReplies`**, `leads_deliver` — a reply is entered in the journal,
  taken in and heeded; the loop over the inbox has an invariant.
* `leads_getState`, `leads_requestMaxSpeed`, `leads_bindTo`, `leads_applySettings` — the rest.
* `leads_setStateWith` and its like — the same where replies have a receiver of any kind.
-/

namespace SpindleDrive

namespace Operation

variable {World : Type} {s : Spindle} {env : Surroundings World} {patience : Nat}
  {c : SpindleContext} {w : World}

/-! ## Commands -/

/-- **Sending a speed.**  The exchange is made with the operation under way; when it is over the
speed is programmed, and a reply that is there goes on. -/
theorem leads_sendSpeed {onReply : Reply → Operation World Unit} {rpm : Binary32} {blocking : Bool}
    {Q : Option (Except DriverError Unit) → SpindleContext → World → Prop}
    (unselected : c.isSelected = false → Q (some (.error .notSelected)) c w)
    (busy : c.isSelected = true → c.speedOp.isBusy = true →
      Q (some (.error (.reentrant .setSpeed))) c w)
    (exchanged : c.isSelected = true → c.speedOp.isBusy = false →
      Leads
        (s.exchangeSpeed env (.speed c.address s.registers (s.reader.scale.toCode rpm)) blocking)
        (fun r c w =>
          match r with
          | none => Q none c w
          | some (.error e) =>
            Q (some (.error e)) (c.endSpeed rpm (env.tolerance w) .failed) (env.raiseAlarm w)
          | some (.ok none) => Q (some (.ok ())) (c.endSpeed rpm (env.tolerance w) .idle) w
          | some (.ok (some reply)) =>
            Leads (onReply reply) (fun r c w => Q (r.map .ok) c w)
              (c.endSpeed rpm (env.tolerance w) .idle) w)
        { c with speedOp := .sending } w) :
    Leads (s.sendSpeed env onReply rpm blocking) Q c w := by
  simp only [Spindle.sendSpeed, leads_bind, leads_context]
  by_cases hsel : c.isSelected = true
  · by_cases hbusy : c.speedOp.isBusy = true
    · simpa [hsel, hbusy] using busy hsel hbusy
    · simp only [hsel, hbusy, Bool.not_true, Bool.false_eq_true, if_false, leads_bind,
        leads_update, leads_observe]
      refine (exchanged hsel (by simpa using hbusy)).mono ?_
      rintro (_ | e | _ | reply) c w h
      · exact h
      · simpa [OperationState.after] using h
      · exact h
      · simp only [leads_bind]
        refine h.mono ?_
        rintro (_ | _) c w h <;> exact h
  · simpa [hsel] using unselected (by simpa using hsel)

/-- Sending a speed to whoever answers at once, whether the sender waits or not: the first attempt
is the only one, and `A` is what is known of the reply. -/
theorem leads_sendSpeed_answered {onReply : Reply → Operation World Unit} {rpm : Binary32}
    {blocking : Bool} {Q : Option (Except DriverError Unit) → SpindleContext → World → Prop}
    (A : Reply → World → Prop) (hselected : c.isSelected = true) (hidle : c.speedOp.isBusy = false)
    (hsend : ∀ mode, Leads
      (exchange env (.speed c.address s.registers (s.reader.scale.toCode rpm)) mode)
      (fun r c' w' => ∃ reply, r = some (.ok (some reply)) ∧ c' = { c with speedOp := .sending } ∧
        A reply w') { c with speedOp := .sending } w)
    (answered : ∀ reply w', A reply w' →
      Leads (onReply reply) (fun r c w => Q (r.map .ok) c w)
        (c.endSpeed rpm (env.tolerance w') .idle) w') :
    Leads (s.sendSpeed env onReply rpm blocking) Q c w := by
  refine leads_sendSpeed (fun hsel => ?_) (fun _ hbusy => ?_) fun _ _ => ?_
  · simp [hselected] at hsel
  · simp [hidle] at hbusy
  rw [Spindle.exchangeSpeed]
  split
  · refine leads_sendRepeatedly
      (fun k _ c' w' => k = 0 ∧ c' = { c with speedOp := .sending } ∧ w' = w) ⟨rfl, rfl, rfl⟩ ?_ ?_
    · rintro k last c' w' - ⟨rfl, rfl, rfl⟩
      refine (hsend .blocking).mono ?_
      rintro r c' w' ⟨reply, rfl, rfl, hanswer⟩
      exact answered reply w' hanswer
    · rintro last c' w' ⟨hnone, -⟩
      omega
  · rw [leads_map]
    refine leads_sendOnce ((hsend .nonBlocking).mono ?_)
    rintro r c' w' ⟨reply, rfl, rfl, hanswer⟩
    exact answered reply w' hanswer

/-- **Starting or stopping.**  The command is taken at once.  After its exchange a reply is
handed over, and then the speed is sent. -/
theorem leads_setStateWith {onReply : Reply → Operation World Unit} {state : SpindleState}
    {rpm : Binary32} {Q : Option (Except DriverError Unit) → SpindleContext → World → Prop}
    (unselected : c.isSelected = false → Q (some (.error .notSelected)) c w)
    (busy : c.isSelected = true → c.statusOp.isBusy = true →
      Q (some (.error (.reentrant .setStatus))) c w)
    (exchanged : c.isSelected = true → c.statusOp.isBusy = false →
      Leads (sendRepeatedly (exchange env)
          (.command c.address s.registers (.run (.forRequest state.on rpm) (.ofCcw state.ccw)))
          s.retries fun attempt => update fun c => { c with statusOp := .retrying attempt })
        (fun r c w =>
          match r with
          | none => Q none c w
          | some (.error e) =>
            Q (some (.error e)) { c with statusOp := .failed } (env.raiseAlarm w)
          | some (.ok reply?) =>
            Leads (Spindle.handOver onReply reply?) (fun r c w =>
              match r with
              | none => Q none c w
              | some () => Leads (s.sendSpeed env onReply rpm true) Q c w)
              { c with statusOp := .idle } w)
        (c.takeCommand state) w) :
    Leads (s.setStateWith env onReply state rpm) Q c w := by
  simp only [Spindle.setStateWith, leads_bind, leads_context]
  by_cases hsel : c.isSelected = true
  · by_cases hbusy : c.statusOp.isBusy = true
    · simpa [hsel, hbusy] using busy hsel hbusy
    · simp only [hsel, hbusy, Bool.not_true, Bool.false_eq_true, if_false, leads_bind,
        leads_update]
      refine (exchanged hsel (by simpa using hbusy)).mono ?_
      rintro (_ | e | reply?) c w h
      · exact h
      · simpa using h
      · simp only [leads_bind, leads_update]
        refine h.mono ?_
        rintro (_ | _) c w h <;> exact h
  · simpa [hsel] using unselected (by simpa using hsel)

/-- Starting or stopping, the reply being delivered. -/
theorem leads_setState {state : SpindleState} {rpm : Binary32}
    {Q : Option (Except DriverError Unit) → SpindleContext → World → Prop}
    (unselected : c.isSelected = false → Q (some (.error .notSelected)) c w)
    (busy : c.isSelected = true → c.statusOp.isBusy = true →
      Q (some (.error (.reentrant .setStatus))) c w)
    (exchanged : c.isSelected = true → c.statusOp.isBusy = false →
      Leads (sendRepeatedly (exchange env)
          (.command c.address s.registers (.run (.forRequest state.on rpm) (.ofCcw state.ccw)))
          s.retries fun attempt => update fun c => { c with statusOp := .retrying attempt })
        (fun r c w =>
          match r with
          | none => Q none c w
          | some (.error e) =>
            Q (some (.error e)) { c with statusOp := .failed } (env.raiseAlarm w)
          | some (.ok reply?) =>
            Leads (s.deliverAny env patience reply?) (fun r c w =>
              match r with
              | none => Q none c w
              | some () => Leads (s.setSpeed env patience rpm true) Q c w)
              { c with statusOp := .idle } w)
        (c.takeCommand state) w) :
    Leads (s.setState env patience state rpm) Q c w := by
  rw [Spindle.setState_eq_with]
  exact leads_setStateWith unselected busy exchanged

/-! ## Replies -/

/-- Sending a speed again: whatever comes of it, it is over. -/
theorem leads_reissueWith {onReply : Reply → Operation World Unit}
    {Q : Option Unit → SpindleContext → World → Prop} {rpm? : Option Binary32}
    (none : rpm? = none → Q (some ()) c w)
    (some : ∀ rpm, rpm? = some rpm →
      Leads (s.sendSpeed env onReply rpm false) (fun r c w => Q (r.map fun _ => ()) c w) c w) :
    Leads (s.reissueWith env onReply rpm?) Q c w := by
  cases rpm? with
  | none => exact none rfl
  | some rpm =>
      simp only [Spindle.reissueWith, leads_bind]
      refine (some rpm rfl).mono ?_
      rintro (_ | _) c w h <;> exact h

theorem leads_reissue {Q : Option Unit → SpindleContext → World → Prop} {rpm? : Option Binary32}
    (none : rpm? = none → Q (some ()) c w)
    (some : ∀ rpm, rpm? = some rpm →
      Leads (s.sendSpeed env Spindle.enqueue rpm false) (fun r c w => Q (r.map fun _ => ()) c w)
        c w) :
    Leads (s.reissue env rpm?) Q c w := by
  rw [Spindle.reissue_eq_with]
  exact leads_reissueWith none some

/-- Heeding a finding: the alarm comes after the speed that is sent again. -/
theorem leads_heedWith {onReply : Reply → Operation World Unit}
    {Q : Option Unit → SpindleContext → World → Prop} {finding : Finding}
    (reissued : Leads (s.reissueWith env onReply finding.reissue?) (fun r c w =>
      match r with
      | some () => Q (some ()) c (if finding.escalates then env.raiseAlarm w else w)
      | none => Q none c w) c w) :
    Leads (s.heedWith env onReply finding) Q c w := by
  rw [Spindle.heedWith, leads_bind]
  refine reissued.mono ?_
  rintro (_ | _) c w h
  · exact h
  · cases hf : finding.escalates <;> simpa [hf] using h

theorem leads_heed {Q : Option Unit → SpindleContext → World → Prop} {finding : Finding}
    (reissued : Leads (s.reissue env finding.reissue?) (fun r c w =>
      match r with
      | some () => Q (some ()) c (if finding.escalates then env.raiseAlarm w else w)
      | none => Q none c w) c w) :
    Leads (s.heed env finding) Q c w := by
  rw [Spindle.reissue_eq_with] at reissued
  rw [Spindle.heed_eq_with]
  exact leads_heedWith reissued

/-- Reading one reply. -/
theorem leads_readReply {Q : Option Bool → SpindleContext → World → Prop}
    (empty : c.inbox = [] → Q (some false) { c with reading := false } w)
    (heeded : ∀ reply rest, c.inbox = reply :: rest →
      Leads (s.heed env (s.reader.read reply (env.isColdStart w) c.data c.exceptions).1)
        (fun r c w => Q (r.map fun _ => true) c w) (s.takeIn reply rest (env.isColdStart w) c)
        (env.journal reply (env.isColdStart w) c w)) :
    Leads (s.readReply env) Q c w := by
  simp only [Spindle.readReply, leads_bind, leads_observe, leads_context]
  rcases hc : c.inbox with _ | ⟨reply, rest⟩
  · exact empty hc
  · simp only [leads_bind, leads_affect, leads_update]
    refine (heeded reply rest hc).mono ?_
    rintro (_ | _) c w h <;> exact h

/-- One more step of reading: the loop goes on for as long as there was a reply. -/
theorem leads_readReplies_succ {Q : Option Unit → SpindleContext → World → Prop} {n : Nat}
    (h : Leads (s.readReply env) (fun r c w =>
      match r with
      | none => Q none c w
      | some false => Q (some ()) c w
      | some true => Leads (s.readReplies env n) Q c w) c w) :
    Leads (s.readReplies env (n + 1)) Q c w := by
  rw [Spindle.readReplies, leads_bind]
  refine h.mono ?_
  rintro (_ | _ | _) c w h <;> exact h

/-- **Reading all replies.**  `I` holds whenever the next reply is looked for; whether the inbox is
ever empty is left open, and `Q none` is what holds if the patience is over before. -/
theorem leads_readReplies (I : SpindleContext → World → Prop)
    {Q : Option Unit → SpindleContext → World → Prop}
    (endless : ∀ c w, I c w → Q none c w)
    (step : ∀ c w, I c w → Leads (s.readReply env) (fun r c w =>
      match r with
      | none => Q none c w
      | some false => Q (some ()) c w
      | some true => I c w) c w) :
    ∀ patience c w, I c w → Leads (s.readReplies env patience) Q c w := by
  intro patience
  induction patience with
  | zero => exact endless
  | succ n ih =>
      intro c w hI
      refine leads_readReplies_succ ((step c w hI).mono ?_)
      rintro (_ | _ | _) c w h
      · exact h
      · exact h
      · exact ih c w h

/-- A reply that comes in while others are read waits; any other is read at once. -/
theorem leads_deliver {Q : Option Unit → SpindleContext → World → Prop} {reply : Reply}
    (queued : c.reading = true → Q (some ()) { c with inbox := c.inbox ++ [reply] } w)
    (read : c.reading = false → Leads (s.readReplies env patience) Q
      { c with inbox := c.inbox ++ [reply], reading := true } w) :
    Leads (s.deliver env patience reply) Q c w := by
  simp only [Spindle.deliver, leads_bind, leads_enqueue, leads_context]
  cases hr : c.reading
  · simpa using read hr
  · simpa [hr] using queued hr

/-- With no reply to read the reading is over. -/
theorem leads_readReplies_empty {Q : Option Unit → SpindleContext → World → Prop}
    (hinbox : c.inbox = []) (done : Q (some ()) { c with reading := false } w) :
    Leads (s.readReplies env (patience + 1)) Q c w :=
  leads_readReplies_succ (leads_readReply (fun _ => done)
    fun reply rest hqueue => by simp [hinbox] at hqueue)

/-- The last reply of the inbox, if it has nothing sent again, is taken in, and at most an alarm is
raised. -/
theorem leads_readReplies_calm {Q : Option Unit → SpindleContext → World → Prop} {reply : Reply}
    (hinbox : c.inbox = [reply])
    (hcalm :
      (s.reader.read reply (env.isColdStart w) c.data c.exceptions).1.reissue? = none)
    (taken : Q (some ()) { s.takeIn reply [] (env.isColdStart w) c with reading := false }
      (if (s.reader.read reply (env.isColdStart w) c.data c.exceptions).1.escalates then
        env.raiseAlarm (env.journal reply (env.isColdStart w) c w)
      else env.journal reply (env.isColdStart w) c w)) :
    Leads (s.readReplies env (patience + 2)) Q c w := by
  refine leads_readReplies_succ (leads_readReply (fun hempty => by simp [hinbox] at hempty)
    fun first rest hqueue => ?_)
  obtain ⟨rfl, rfl⟩ : first = reply ∧ rest = [] := by simpa [hinbox, eq_comm] using hqueue
  refine leads_heed (leads_reissue (fun _ => ?_) fun rpm hrpm => ?_)
  · exact leads_readReplies_empty rfl taken
  · simp [hcalm] at hrpm

/-- A reply that has nothing sent again is taken in, and at most an alarm is raised. -/
theorem leads_deliver_calm {Q : Option Unit → SpindleContext → World → Prop} {reply : Reply}
    (hreading : c.reading = false) (hinbox : c.inbox = [])
    (hcalm :
      (s.reader.read reply (env.isColdStart w) c.data c.exceptions).1.reissue? = none)
    (taken : ∀ c', Q (some ()) (s.takeIn reply [] (env.isColdStart w) c)
      (if (s.reader.read reply (env.isColdStart w) c.data c.exceptions).1.escalates then
        env.raiseAlarm (env.journal reply (env.isColdStart w) c' w)
      else env.journal reply (env.isColdStart w) c' w)) :
    Leads (s.deliver env (patience + 2) reply) Q c w := by
  refine leads_deliver (fun hr => by simp [hr] at hreading) fun _ => ?_
  have hqueue : c.inbox ++ [reply] = [reply] := by rw [hinbox, List.nil_append]
  refine leads_readReplies_calm hqueue hcalm ?_
  have hend := taken { c with inbox := c.inbox ++ [reply], reading := true }
  obtain ⟨address, selection, state, data, statusOp, speedOp, exceptions, lastPoll, maxSpeed,
    inbox, reading⟩ := c
  obtain rfl : reading = false := hreading
  exact hend

/-- The last reply of the inbox, if it is no refusal, is taken in, and that is all. -/
theorem leads_readReplies_response {Q : Option Unit → SpindleContext → World → Prop}
    {kind : RequestKind} {frame : Frame} (hinbox : c.inbox = [⟨kind, .response frame⟩])
    (taken : Q (some ())
      { s.takeIn ⟨kind, .response frame⟩ [] (env.isColdStart w) c with reading := false }
      (env.journal ⟨kind, .response frame⟩ (env.isColdStart w) c w)) :
    Leads (s.readReplies env (patience + 2)) Q c w := by
  refine leads_readReplies_calm hinbox (s.reader.readResponse_reissue? kind frame c.data) ?_
  simp only [ReplyReader.read, s.reader.readResponse_escalates, Bool.false_eq_true, if_false]
  exact taken

/-- A reply that is no refusal is taken in, and that is all. -/
theorem leads_deliver_response {Q : Option Unit → SpindleContext → World → Prop}
    {kind : RequestKind} {frame : Frame} (hreading : c.reading = false) (hinbox : c.inbox = [])
    (taken : ∀ c', Q (some ()) (s.takeIn ⟨kind, .response frame⟩ [] (env.isColdStart w) c)
      (env.journal ⟨kind, .response frame⟩ (env.isColdStart w) c' w)) :
    Leads (s.deliver env (patience + 2) ⟨kind, .response frame⟩) Q c w := by
  refine leads_deliver_calm hreading hinbox
    (s.reader.readResponse_reissue? kind frame c.data) fun c' => ?_
  simp only [ReplyReader.read, s.reader.readResponse_escalates, Bool.false_eq_true, if_false]
  exact taken c'

theorem leads_handOver {Q : Option Unit → SpindleContext → World → Prop}
    {onReply : Reply → Operation World Unit} {reply? : Option Reply}
    (none : reply? = none → Q (some ()) c w)
    (some : ∀ reply, reply? = some reply → Leads (onReply reply) Q c w) :
    Leads (Spindle.handOver onReply reply?) Q c w := by
  cases reply? with
  | none => exact none rfl
  | some reply => exact some reply rfl

theorem leads_deliverAny {Q : Option Unit → SpindleContext → World → Prop} {reply? : Option Reply}
    (none : reply? = none → Q (some ()) c w)
    (some : ∀ reply, reply? = some reply → Leads (s.deliver env patience reply) Q c w) :
    Leads (s.deliverAny env patience reply?) Q c w := by
  rw [Spindle.deliverAny_eq_with]
  exact leads_handOver none some

theorem leads_setSpeed {rpm : Binary32} {blocking : Bool}
    {Q : Option (Except DriverError Unit) → SpindleContext → World → Prop}
    (sent : Leads (s.sendSpeed env (s.deliver env patience) rpm blocking) Q c w) :
    Leads (s.setSpeed env patience rpm blocking) Q c w :=
  sent

/-! ## Questions and notices -/

/-- **Asking for the state**: the verdict is handed over after a reading, if there is one. -/
theorem leads_getStateWith {onReply : Reply → Operation World Unit}
    {Q : Option SpindleState → SpindleContext → World → Prop}
    (rest : (c.isSelected && c.pollDue (env.elapsed w) s.config.pollInterval) = false →
      Q (some { c.state with atSpeed := c.data.commanded.atSpeed })
        { c with state := { c.state with atSpeed := c.data.commanded.atSpeed } } w)
    (polled : c.isSelected = true → c.pollDue (env.elapsed w) s.config.pollInterval = true →
      Leads (sendOnce (exchange env) (.readOutput c.address s.registers)) (fun r c w =>
        match r with
        | none => Q none c w
        | some reply? => Leads (Spindle.handOver onReply reply?) (fun r c w =>
          match r with
          | none => Q none c w
          | some () => Q (some { c.state with atSpeed := c.data.commanded.atSpeed })
              { c with state := { c.state with atSpeed := c.data.commanded.atSpeed } } w) c w)
        { c with lastPoll := some (env.elapsed w) } w) :
    Leads (s.getStateWith env onReply) Q c w := by
  simp only [Spindle.getStateWith, leads_bind, leads_observe, leads_context]
  cases hd : c.isSelected && c.pollDue (env.elapsed w) s.config.pollInterval
  · simpa using rest hd
  · obtain ⟨hsel, hdue⟩ := Bool.and_eq_true_iff.1 hd
    simp only [if_true, leads_bind, leads_update, leads_context, leads_pure]
    refine (polled hsel hdue).mono ?_
    rintro (_ | reply?) c w h
    · exact h
    · refine h.mono ?_
      rintro (_ | _) c w h <;> exact h

/-- Asking for the state, the reply being delivered. -/
theorem leads_getState {Q : Option SpindleState → SpindleContext → World → Prop}
    (rest : (c.isSelected && c.pollDue (env.elapsed w) s.config.pollInterval) = false →
      Q (some { c.state with atSpeed := c.data.commanded.atSpeed })
        { c with state := { c.state with atSpeed := c.data.commanded.atSpeed } } w)
    (polled : c.isSelected = true → c.pollDue (env.elapsed w) s.config.pollInterval = true →
      Leads (sendOnce (exchange env) (.readOutput c.address s.registers)) (fun r c w =>
        match r with
        | none => Q none c w
        | some reply? => Leads (s.deliverAny env patience reply?) (fun r c w =>
          match r with
          | none => Q none c w
          | some () => Q (some { c.state with atSpeed := c.data.commanded.atSpeed })
              { c with state := { c.state with atSpeed := c.data.commanded.atSpeed } } w) c w)
        { c with lastPoll := some (env.elapsed w) } w) :
    Leads (s.getState env patience) Q c w := by
  rw [Spindle.getState_eq_with]
  exact leads_getStateWith rest polled

/-- What the host is told about the verdict is what the spindle knows at the end. -/
theorem leads_getState_told :
    Leads (s.getState env patience)
      (fun r c _ => ∀ state, r = some state → state.atSpeed = c.data.commanded.atSpeed) c w := by
  refine leads_getState (fun _ => ?_) fun _ _ => .of_forall ?_
  · rintro state ⟨⟩
    rfl
  rintro (_ | reply?) c w
  · simp
  refine .of_forall ?_
  rintro (_ | _) c w
  · simp
  · rintro state ⟨⟩
    rfl

/-- **Asking for the highest speed**, where there is a register for it. -/
theorem leads_requestMaxSpeedWith {onReply : Reply → Operation World Unit}
    {Q : Option (Except DriverError Unit) → SpindleContext → World → Prop}
    (unselected : c.isSelected = false → Q (some (.error .notSelected)) c w)
    (absent : c.isSelected = true → Request.readMax? c.address s.registers = none →
      Q (some (.ok ())) c w)
    (asked : c.isSelected = true →
      ∀ request, Request.readMax? c.address s.registers = some request →
      Leads (sendOnce (exchange env) request) (fun r c w =>
        match r with
        | none => Q none c w
        | some reply? =>
          Leads (Spindle.handOver onReply reply?) (fun r c w => Q (r.map .ok) c w) c w) c w) :
    Leads (s.requestMaxSpeedWith env onReply) Q c w := by
  simp only [Spindle.requestMaxSpeedWith, leads_bind, leads_context]
  by_cases hsel : c.isSelected = true
  · simp only [hsel, Bool.not_true, Bool.false_eq_true, if_false]
    split
    · rename_i request hr
      simp only [leads_bind]
      refine (asked hsel request hr).mono ?_
      rintro (_ | reply?) c w h
      · exact h
      · refine h.mono ?_
        rintro (_ | _) c w h <;> exact h
    · rename_i hr
      exact absent hsel hr
  · simpa [hsel] using unselected (by simpa using hsel)

theorem leads_requestMaxSpeed {Q : Option (Except DriverError Unit) → SpindleContext → World → Prop}
    (unselected : c.isSelected = false → Q (some (.error .notSelected)) c w)
    (absent : c.isSelected = true → Request.readMax? c.address s.registers = none →
      Q (some (.ok ())) c w)
    (asked : c.isSelected = true →
      ∀ request, Request.readMax? c.address s.registers = some request →
      Leads (sendOnce (exchange env) request) (fun r c w =>
        match r with
        | none => Q none c w
        | some reply? =>
          Leads (s.deliverAny env patience reply?) (fun r c w => Q (r.map .ok) c w) c w) c w) :
    Leads (s.requestMaxSpeed env patience) Q c w := by
  rw [Spindle.requestMaxSpeed_eq_with]
  exact leads_requestMaxSpeedWith unselected absent asked

/-- **Hearing of a selection**; that the highest speed cannot be asked for is passed over. -/
theorem leads_bindWith {onReply : Reply → Operation World Unit}
    {Q : Option Unit → SpindleContext → World → Prop} {selection : Selection}
    (other : selection.id ≠ s.id → Q (some ()) { c with selection := none } w)
    (mine : selection.id = s.id →
      let c := { c with
        selection := some selection
        data := { c.data with programmed := noSpeed }
        address := s.config.modbusAddress selection.binding }
      if s.config.queryMaxOnSelect then
        Leads (s.requestMaxSpeedWith env onReply) (fun r c w => Q (r.map fun _ => ()) c w) c
          (env.silence w)
      else Q (some ()) c (env.silence w)) :
    Leads (s.bindWith env onReply selection) Q c w := by
  rw [Spindle.bindWith]
  by_cases hid : selection.id = s.id
  · have hm := mine hid
    simp only [hid, ne_eq, not_true_eq_false, if_false, leads_bind, leads_update, leads_affect]
    cases hq : s.config.queryMaxOnSelect
    · simpa [hq] using hm
    · simp only [hq, if_true, leads_bind] at hm ⊢
      refine hm.mono ?_
      rintro (_ | _) c w h <;> exact h
  · simpa [hid] using other hid

theorem leads_bindTo {Q : Option Unit → SpindleContext → World → Prop} {selection : Selection}
    (other : selection.id ≠ s.id → Q (some ()) { c with selection := none } w)
    (mine : selection.id = s.id →
      let c := { c with
        selection := some selection
        data := { c.data with programmed := noSpeed }
        address := s.config.modbusAddress selection.binding }
      if s.config.queryMaxOnSelect then
        Leads (s.requestMaxSpeed env patience) (fun r c w => Q (r.map fun _ => ()) c w) c
          (env.silence w)
      else Q (some ()) c (env.silence w)) :
    Leads (s.bind env patience selection) Q c w := by
  rw [Spindle.bind_eq_with]
  exact leads_bindWith other mine

theorem leads_applySettings {Q : Option Unit → SpindleContext → World → Prop}
    {settings : HostSettings} {changed : SettingsChanged}
    (unchanged : changed.spindle = false → Q (some ()) c w)
    (taken : changed.spindle = true →
      Q (some ()) { c with data := { c.data with checked := settings.tolerance.isNonneg } }
        (env.setTolerance settings.tolerance w)) :
    Leads (Spindle.applySettings env settings changed) Q c w := by
  rw [Spindle.applySettings]
  cases hc : changed.spindle
  · simpa using unchanged hc
  · simpa using taken hc

end Operation

end SpindleDrive
