import SpindleDrive.Proofs.Workshop.Alarms
import SpindleDrive.Proofs.Workshop.Progress

/-!
# A spindle that is not selected

A spindle that is not selected refuses to send, whatever it is called for, but it goes on reading.
Replies to what it has asked before come in late, and each is read as ever: a reading is kept, a
refusal is counted, and the host is alarmed by one that fills the count or comes in a cold start.

* `HostCall.isPlain` — commands, questions and replies; notices of the host are none.
* `HostCall.idleAnswer`, `Spindle.idle`, `Surroundings.idle` — what a call gives back and leaves.
* **`Spindle.leads_idle`** — a plain call does that and no more; in particular it comes back.
* `SpindleContext.Rests` — what stays as it is.
* `Workshop.Idles` — runs of plain calls, the world being free to change meanwhile.
* **`Workshop.idle_of_run`** — after such a run nothing has been sent, and of the spindle nothing
  has changed but what its replies say.
* `Workshop.late_replies` — a late reading is kept, and two late refusals alarm the host.
-/

namespace SpindleDrive

open Operation

/-! ## One call -/

namespace HostCall

/-- A command, a question or a reply, and no notice of the host. -/
def isPlain : HostCall → Bool
  | bind _ | applySettings .. => false
  | setState .. | setSpeed .. | getState | getData | requestMaxSpeed | deliver _ => true

/-- What a spindle in this state gives back when it is not selected. -/
def idleAnswer (c : SpindleContext) : HostCall → Answer
  | setState .. | setSpeed .. | requestMaxSpeed => .outcome (.error .notSelected)
  | getState => .state { c.state with atSpeed := c.data.commanded.atSpeed }
  | getData => .data c.data
  | bind _ | applySettings .. | deliver _ => .done

end HostCall

/-- A spindle in this state that has taken a reply out of its inbox to read it. -/
def SpindleContext.opening (c : SpindleContext) (reply : Reply) : SpindleContext :=
  { c with inbox := [reply], reading := true }

/-- That a reply has been taken out to be read has no part in whether it escalates. -/
lemma SpindleContext.isEscalatedBy_opening (c : SpindleContext) (reply reply' : Reply)
    (coldStart : Bool) :
    (c.opening reply).isEscalatedBy reply' coldStart = c.isEscalatedBy reply' coldStart := rfl

/-- What a call leaves of a spindle that is not selected. -/
def Spindle.idle (s : Spindle) (coldStart : Bool) (c : SpindleContext) :
    HostCall → SpindleContext
  | .getState => { c with state := { c.state with atSpeed := c.data.commanded.atSpeed } }
  | .deliver reply => s.takeIn reply [] coldStart c
  | _ => c

/-- What a call to a spindle that is not selected leaves of the world: a reply is entered in the
journal, and the host may be alarmed. -/
def Surroundings.idle {World : Type} (env : Surroundings World) (c : SpindleContext) (w : World) :
    HostCall → World
  | .deliver reply =>
    let w' := env.journal reply (env.isColdStart w) (c.opening reply) w
    if c.isEscalatedBy reply (env.isColdStart w) then env.raiseAlarm w' else w'
  | _ => w

section

variable {World : Type} {s : Spindle} {env : Surroundings World} {patience : Nat}
  {c : SpindleContext} {w : World}

/-- No speed is sent again. -/
lemma Spindle.leads_reissue_unselected {Q : Option Unit → SpindleContext → World → Prop}
    {rpm? : Option Binary32} (unselected : c.isSelected = false) (h : Q (some ()) c w) :
    Leads (s.reissue env rpm?) Q c w := by
  refine leads_reissue (fun _ => h) fun rpm _ => ?_
  refine leads_sendSpeed (fun _ => h) (fun hsel => ?_) fun hsel => ?_
  · simp [unselected] at hsel
  · simp [unselected] at hsel

/-- A reply that has come to a spindle that is not selected is read, and no speed is sent. -/
lemma Spindle.leads_deliver_idle (unselected : c.isSelected = false) (hreading : c.reading = false)
    (hinbox : c.inbox = []) (hpatience : 2 ≤ patience) (reply : Reply) :
    Leads (s.deliver env patience reply)
      (fun r c' w' => r = some () ∧ c' = s.takeIn reply [] (env.isColdStart w) c ∧
        w' = env.idle c w (.deliver reply)) c w := by
  obtain ⟨n, rfl⟩ : ∃ n, patience = n + 2 := ⟨patience - 2, by omega⟩
  refine leads_deliver (fun h => by simp [hreading] at h) fun _ => ?_
  refine leads_readReplies_succ (leads_readReply (fun h => by simp [hinbox] at h) ?_)
  intro reply' rest hqueue
  obtain ⟨rfl, rfl⟩ : reply' = reply ∧ rest = [] := by
    simpa [hinbox, eq_comm] using hqueue
  refine leads_heed (leads_reissue_unselected unselected ?_)
  refine leads_readReplies_succ (leads_readReply (fun _ => ⟨rfl, ?_, ?_⟩) fun _ _ h => ?_)
  · show { s.takeIn reply' [] _ (c.opening reply') with reading := false } = _
    rw [← hreading]
    rfl
  · rw [ReplyReader.read_escalates, hinbox]
    rfl
  · simp [takeIn] at h

/-- **A plain call to a spindle that is not selected** comes back; a command or a question changes
nothing, and a reply is read. -/
theorem Spindle.leads_idle (unselected : c.isSelected = false) (hreading : c.reading = false)
    (hinbox : c.inbox = []) (hpatience : 2 ≤ patience) {call : HostCall}
    (plain : call.isPlain = true) :
    Leads (s.carryOut env patience call)
      (fun r c' w' => r = some (call.idleAnswer c) ∧ c' = s.idle (env.isColdStart w) c call ∧
        w' = env.idle c w call) c w := by
  cases call with
  | bind => simp [HostCall.isPlain] at plain
  | applySettings => simp [HostCall.isPlain] at plain
  | setState state rpm =>
      have hrefused : (HostCall.setState state rpm).refusal? c = some .notSelected := by
        simp [HostCall.refusal?, unselected]
      exact Spindle.leads_refused hrefused
  | setSpeed rpm blocking =>
      have hrefused : (HostCall.setSpeed rpm blocking).refusal? c = some .notSelected := by
        simp [HostCall.refusal?, unselected]
      exact Spindle.leads_refused hrefused
  | requestMaxSpeed =>
      have hrefused : HostCall.requestMaxSpeed.refusal? c = some .notSelected := by
        simp [HostCall.refusal?, unselected]
      exact Spindle.leads_refused hrefused
  | getState =>
      rw [carryOut, leads_map]
      refine leads_getState (fun _ => ⟨rfl, rfl, rfl⟩) fun hsel => ?_
      simp [unselected] at hsel
  | getData => exact ⟨rfl, rfl, rfl⟩
  | deliver reply =>
      rw [carryOut, leads_map]
      refine (Spindle.leads_deliver_idle unselected hreading hinbox hpatience reply).mono ?_
      intro r c' w' hend
      rcases hend with ⟨rfl, hc, hw⟩
      exact ⟨rfl, hc, hw⟩

end

/-! ## What stays as it is -/

/-- **What reading leaves as it was** of a spindle: everything but the last measurement with its
verdict, the count of refusals, and the highest speed. -/
structure SpindleContext.Rests (c c' : SpindleContext) : Prop extends c.Stands c' where
  address : c'.address = c.address
  selection : c'.selection = c.selection
  on : c'.state.on = c.state.on
  ccw : c'.state.ccw = c.state.ccw
  lastPoll : c'.lastPoll = c.lastPoll
  data : ∃ measured atSpeed, c'.data =
    { c.data with measured, commanded := { c.data.commanded with atSpeed } }

namespace SpindleContext

variable {c c' : SpindleContext}

lemma Rests.refl (c : SpindleContext) : c.Rests c :=
  ⟨.refl c, rfl, rfl, rfl, rfl, rfl, c.data.measured, c.data.commanded.atSpeed, rfl⟩

lemma Rests.trans {c'' : SpindleContext} (h : c.Rests c') (h' : c'.Rests c'') : c.Rests c'' where
  toStands := h.toStands.trans h'.toStands
  address := h'.address.trans h.address
  selection := h'.selection.trans h.selection
  on := h'.on.trans h.on
  ccw := h'.ccw.trans h.ccw
  lastPoll := h'.lastPoll.trans h.lastPoll
  data := by
    obtain ⟨_, _, hdata⟩ := h.data
    obtain ⟨measured, atSpeed, hdata'⟩ := h'.data
    exact ⟨measured, atSpeed, by rw [hdata', hdata]⟩

/-- One more reply is read. -/
lemma Rests.takeIn (h : c.Rests c') (s : Spindle) (reply : Reply) (coldStart : Bool) :
    c.Rests (s.takeIn reply [] coldStart c') where
  toStands := ⟨⟨h.reading, fun _ _ => rfl⟩, h.statusOp, h.speedOp⟩
  address := h.address
  selection := h.selection
  on := h.on
  ccw := h.ccw
  lastPoll := h.lastPoll
  data := by
    rcases h.data with ⟨measured, atSpeed, hdata⟩
    have hread : (s.takeIn reply [] coldStart c').data =
        (s.reader.read reply coldStart c'.data c'.exceptions).2.1 := rfl
    rw [hread, s.reader.read_data_eq, hdata]
    split
    · exact ⟨_, _, rfl⟩
    · exact ⟨measured, atSpeed, rfl⟩

/-- The verdict that is handed over is not part of it. -/
lemma Rests.told (h : c.Rests c') (state : SpindleState) (on : state.on = c.state.on)
    (ccw : state.ccw = c.state.ccw) : c.Rests { c' with state } :=
  ⟨⟨⟨h.reading, h.inbox⟩, h.statusOp, h.speedOp⟩, h.address, h.selection, on, ccw, h.lastPoll,
    h.data⟩

end SpindleContext

variable {ι World : Type}

/-- What a spindle is after the replies that are read in some notes, the latest first. -/
def Spindle.digest (s : Spindle) (c : SpindleContext) : List (Note ι) → SpindleContext
  | [] => c
  | .read _ reply coldStart _ :: older => s.takeIn reply [] coldStart (s.digest c older)
  | _ :: older => s.digest c older

lemma Spindle.rests_digest (s : Spindle) (c : SpindleContext) (notes : List (Note ι)) :
    c.Rests (s.digest c notes) := by
  induction notes with
  | nil => exact .refl c
  | cons n older ih =>
      cases n with
      | read i reply coldStart before => exact ih.takeIn s reply coldStart
      | called | sending | exchanged | alarm => exact ih

lemma Spindle.digest_append (s : Spindle) (c : SpindleContext) (newer older : List (Note ι)) :
    s.digest c (newer ++ older) = s.digest (s.digest c older) newer := by
  induction newer with
  | nil => rfl
  | cons n newer ih => cases n <;> simp [digest, ih]

/-- What the host has been told makes no difference. -/
lemma Spindle.digest_told (s : Spindle) (c : SpindleContext) (state : SpindleState)
    (notes : List (Note ι)) :
    s.digest { c with state } notes = { s.digest c notes with state } := by
  induction notes with
  | nil => rfl
  | cons n older ih =>
      cases n with
      | read i reply coldStart before =>
          simp only [digest, ih]
          rfl
      | called | sending | exchanged | alarm => exact ih

namespace Note

/-- The reply that the host delivers, if a call is noted that does. -/
def delivered? : Note ι → Option Reply
  | called _ (.deliver reply) => some reply
  | _ => none

/-- The reply that is read, if the reading of one is noted. -/
def read? : Note ι → Option Reply
  | read _ reply _ _ => some reply
  | _ => none

end Note

/-! ## Runs -/

namespace Workshop

variable [DecidableEq ι] {shop : Workshop ι World} {patience : Nat} {i : ι} {σ σ' : Scene ι World}

/-- Plain calls to one spindle, the world being free to change between them. -/
inductive Idles (shop : Workshop ι World) (i : ι) (σ : Scene ι World) : Scene ι World → Prop where
  | refl : Idles shop i σ σ
  | outside {σ' : Scene ι World} (world : World) (h : Idles shop i σ σ') :
      Idles shop i σ { σ' with world }
  | call {σ' : Scene ι World} (patience : Nat) (enough : 2 ≤ patience) (call : HostCall)
      (plain : call.isPlain = true) (h : Idles shop i σ σ') :
      Idles shop i σ (shop.call patience i call σ').2

/-- **What becomes of a scene** while one of its spindles is not selected and is called. -/
structure Idled (shop : Workshop ι World) (i : ι) (σ : Scene ι World) (made : List (Note ι))
    (σ' : Scene ι World) : Prop where
  notes : σ'.notes = made ++ σ.notes
  /-- Nothing is sent. -/
  silent : ∀ n ∈ made, n.isTraffic = true → n.isCall = true
  /-- The replies that are read are those that are delivered. -/
  read : made.filterMap Note.read? = made.filterMap Note.delivered?
  /-- Each alarm is that of a refusal that is read. -/
  alarms : made.countP Note.isAlarm = made.countP Note.isEscalated
  /-- The spindle is as the replies leave it, but for the verdict that it has handed over. -/
  learnt : ∃ atSpeed, σ'.contexts i =
    { (shop.spindle i).digest (σ.contexts i) made with
      state := { (σ.contexts i).state with atSpeed } }
  others : ∀ j, j ≠ i → σ'.contexts j = σ.contexts j

/-- A plain call to a spindle that is not selected. -/
lemma call_of_unselected (unselected : (σ.contexts i).isSelected = false)
    (hreading : (σ.contexts i).reading = false) (hinbox : (σ.contexts i).inbox = [])
    (enough : 2 ≤ patience) {call : HostCall} (plain : call.isPlain = true) :
    shop.call patience i call σ =
      (some (call.idleAnswer (σ.contexts i)),
        ((shop.surroundings patience i).idle (σ.contexts i) (σ.note (.called i call)) call).put i
          ((shop.spindle i).idle ((shop.outside i).isColdStart σ.world) (σ.contexts i) call)) := by
  rcases hcall : shop.call patience i call σ with ⟨answer?, σ'⟩
  rcases exists_of_call (Spindle.leads_idle unselected hreading hinbox enough plain) hcall with
    ⟨c, σ'', ⟨rfl, rfl, rfl⟩, rfl⟩
  rfl

namespace Idled

variable {σ'' : Scene ι World} {made new : List (Note ι)}

omit [DecidableEq ι] in
lemma refl (shop : Workshop ι World) (i : ι) (σ : Scene ι World) : shop.Idled i σ [] σ :=
  ⟨rfl, by simp, rfl, rfl, ⟨(σ.contexts i).state.atSpeed, rfl⟩, fun _ _ => rfl⟩

omit [DecidableEq ι] in
lemma trans (h : shop.Idled i σ made σ') (h' : shop.Idled i σ' new σ'') :
    shop.Idled i σ (new ++ made) σ'' where
  notes := by rw [h'.notes, h.notes, List.append_assoc]
  silent := by
    intro n hn
    rcases List.mem_append.1 hn with hn | hn
    · exact h'.silent n hn
    · exact h.silent n hn
  read := by rw [List.filterMap_append, List.filterMap_append, h'.read, h.read]
  alarms := by rw [List.countP_append, List.countP_append, h'.alarms, h.alarms]
  learnt := by
    rcases h.learnt with ⟨told, hlearnt⟩
    rcases h'.learnt with ⟨told', hlearnt'⟩
    refine ⟨told', ?_⟩
    rw [hlearnt', hlearnt, Spindle.digest_append, Spindle.digest_told]
  others := by
    intro j hj
    rw [h'.others j hj, h.others j hj]

omit [DecidableEq ι] in
lemma rests (h : shop.Idled i σ made σ') : (σ.contexts i).Rests (σ'.contexts i) := by
  rcases h.learnt with ⟨atSpeed, hlearnt⟩
  rw [hlearnt]
  exact ((shop.spindle i).rests_digest (σ.contexts i) made).told _ rfl rfl

/-- A call that delivers no reply is noted, and nothing else. -/
lemma of_called (shop : Workshop ι World) {call : HostCall}
    (hcall : (Note.called i call).delivered? = none) (atSpeed : Bool) :
    shop.Idled i σ [.called i call] ((σ.note (.called i call)).put i
      { σ.contexts i with state := { (σ.contexts i).state with atSpeed } }) where
  notes := rfl
  silent := by simp [Note.isCall]
  read := by simp [Note.read?, hcall]
  alarms := rfl
  learnt := ⟨atSpeed, by rw [Scene.put_contexts_self]; rfl⟩
  others j hj := Scene.put_contexts_of_ne (σ.note (.called i call)) hj _

/-- A reply is delivered and read, and if it escalates the host is alarmed. -/
lemma of_delivered (shop : Workshop ι World) (patience : Nat) (reply : Reply) :
    ∃ made, shop.Idled i σ made
      (((shop.surroundings patience i).idle (σ.contexts i) (σ.note (.called i (.deliver reply)))
        (.deliver reply)).put i
          ((shop.spindle i).takeIn reply [] ((shop.outside i).isColdStart σ.world)
            (σ.contexts i))) := by
  have hlearnt (σ' : Scene ι World) := Scene.put_contexts_self σ' i
    ((shop.spindle i).takeIn reply [] ((shop.outside i).isColdStart σ.world) (σ.contexts i))
  have hothers (σ' : Scene ι World) (hσ' : σ'.contexts = σ.contexts) (j : ι) (hj : j ≠ i) :
      (σ'.put i ((shop.spindle i).takeIn reply [] ((shop.outside i).isColdStart σ.world)
        (σ.contexts i))).contexts j = σ.contexts j := by
    rw [Scene.put_contexts_of_ne σ' hj, hσ']
  simp only [Surroundings.idle]
  split
  · rename_i hescalates
    refine ⟨[.alarm i, .read i reply _ _, .called i (.deliver reply)], rfl, ?_, rfl, ?_,
      ⟨_, hlearnt _⟩, hothers _ rfl⟩
    · simp [Note.isTraffic, Note.isCall]
    · simp [List.countP_cons, Note.isAlarm, Note.isEscalated, SpindleContext.isEscalatedBy_opening,
        hescalates]
  · rename_i hescalates
    refine ⟨[.read i reply _ _, .called i (.deliver reply)], rfl, ?_, rfl, ?_,
      ⟨_, hlearnt _⟩, hothers _ rfl⟩
    · simp [Note.isTraffic, Note.isCall]
    · simp [Note.isAlarm, Note.isEscalated, SpindleContext.isEscalatedBy_opening, hescalates]

/-- **A plain call** to a spindle that is not selected comes back with nothing sent. -/
theorem of_call (shop : Workshop ι World) (unselected : (σ.contexts i).isSelected = false)
    (hreading : (σ.contexts i).reading = false) (hinbox : (σ.contexts i).inbox = [])
    (enough : 2 ≤ patience) {call : HostCall} (plain : call.isPlain = true) :
    (shop.call patience i call σ).1 = some (call.idleAnswer (σ.contexts i)) ∧
      ∃ made, shop.Idled i σ made (shop.call patience i call σ).2 := by
  rw [call_of_unselected unselected hreading hinbox enough plain]
  refine ⟨rfl, ?_⟩
  cases call with
  | bind => simp [HostCall.isPlain] at plain
  | applySettings => simp [HostCall.isPlain] at plain
  | setState state rpm => exact ⟨_, of_called shop rfl (σ.contexts i).state.atSpeed⟩
  | setSpeed rpm blocking => exact ⟨_, of_called shop rfl (σ.contexts i).state.atSpeed⟩
  | getState => exact ⟨_, of_called shop rfl (σ.contexts i).data.commanded.atSpeed⟩
  | getData => exact ⟨_, of_called shop rfl (σ.contexts i).state.atSpeed⟩
  | requestMaxSpeed => exact ⟨_, of_called shop rfl (σ.contexts i).state.atSpeed⟩
  | deliver reply => exact of_delivered shop patience reply

end Idled

/-- **What becomes of a spindle that is not selected.**  In any workshop, after any run, let a
spindle be not selected, and let the host give it commands, ask it and deliver replies to it, in any
order and at any time.  Each of these calls comes back, and a command is refused.  Nothing is sent.
The replies that are delivered are read: the spindle knows what they say and counts what they
refuse, and the host is alarmed for those that are escalated.  Everything else about the spindle is
as it was, and if no reply is delivered that is everything but the verdict that it has told. -/
theorem idle_of_run (shop : Workshop ι World) {start σ σ' : Scene ι World} (new : shop.IsNew start)
    (reached : shop.Reaches start σ) {i : ι} (unselected : (σ.contexts i).isSelected = false)
    (run : shop.Idles i σ σ') :
    (∃ made, shop.Idled i σ made σ') ∧ (σ.contexts i).Rests (σ'.contexts i) ∧
      ∀ patience call, 2 ≤ patience → call.isPlain = true →
        (shop.call patience i call σ').1 = some (call.idleAnswer (σ'.contexts i)) := by
  have hrest := (reached.calm new).rest i
  have hcall {σ' : Scene ι World} {made : List (Note ι)} (h : shop.Idled i σ made σ')
      {patience : Nat} (enough : 2 ≤ patience) {call : HostCall} (plain : call.isPlain = true) := by
    have hselected : (σ'.contexts i).isSelected = false := by
      rw [SpindleContext.isSelected, h.rests.selection]
      exact unselected
    exact Idled.of_call shop hselected (h.rests.reading.trans hrest.reading)
      (h.rests.inbox hrest.reading hrest.inbox) enough plain
  have hidled : ∃ made, shop.Idled i σ made σ' := by
    induction run with
    | refl => exact ⟨[], .refl shop i σ⟩
    | outside world _ ih =>
        rcases ih with ⟨made, h⟩
        exact ⟨made, h.notes, h.silent, h.read, h.alarms, h.learnt, h.others⟩
    | call patience enough call plain _ ih =>
        rcases ih with ⟨made, h⟩
        rcases (hcall h enough plain).2 with ⟨new, h'⟩
        exact ⟨new ++ made, h.trans h'⟩
  rcases hidled with ⟨made, h⟩
  exact ⟨⟨made, h⟩, h.rests, fun _ _ enough plain => (hcall h enough plain).1⟩

/-! ## Late replies -/

/-- A spindle that was selected, and that another has taken the place of. -/
def deadLeft : Scene Unit Unit := (dead.call 1 () (.bind ⟨⟨1⟩, 0⟩) deadSelected).2

/-- A reply to a question of before. -/
def lateReading : Reply := ⟨.getSpeed, .response (ReadReply.toFrame ⟨1, 100⟩)⟩

/-- A refusal of a question of before. -/
def lateRefusal : Reply := .exception .getSpeed .slaveDeviceBusy

/-- The dead spindle that another has taken the place of has told that it is stopped, read the reply
that came late, and done nothing else. -/
theorem idle_of_dead_run :
    dead.IsNew deadStart ∧ dead.Reaches deadStart deadLeft ∧
      (deadLeft.contexts ()).isSelected = false ∧
      ∃ σ', dead.Idles () deadLeft σ' ∧ (∃ made, dead.Idled () deadLeft made σ') ∧
        (deadLeft.contexts ()).Rests (σ'.contexts ()) ∧
        (dead.call 2 () (.setState .cw (.ofNat 600)) σ').1 =
          some (.outcome (.error .notSelected)) := by
  have new : dead.IsNew deadStart := ⟨rfl, fun _ => ⟨⟨0⟩, { retries := 2 }, rfl⟩⟩
  have reached : dead.Reaches deadStart deadLeft :=
    .call 1 () _ .done (.call 1 () _ .done .refl rfl) rfl
  have run : dead.Idles () deadLeft (dead.call 2 () (.deliver lateReading)
      (dead.call 2 () .getState deadLeft).2).2 :=
    .call 2 (Nat.le_refl 2) _ rfl (.call 2 (Nat.le_refl 2) _ rfl .refl)
  rcases idle_of_run dead new reached rfl run with ⟨hidled, hrests, hcalls⟩
  exact ⟨new, reached, rfl, _, run, hidled, hrests, hcalls 2 _ (Nat.le_refl 2) rfl⟩

/-- **Late replies are not passed over**: a reading that comes to the spindle after it has lost its
place is kept, and the second refusal alarms the host. -/
theorem late_replies :
    dead.Reaches deadStart deadLeft ∧ (deadLeft.contexts ()).isSelected = false ∧
      ((dead.call 2 () (.deliver lateReading) deadLeft).2.contexts ()).data ≠
        (deadLeft.contexts ()).data ∧
      deadLeft.notes.countP Note.isAlarm = 0 ∧
      (dead.call 2 () (.deliver lateRefusal)
        (dead.call 2 () (.deliver lateRefusal) deadLeft).2).2.notes.countP Note.isAlarm = 1 :=
  ⟨.call 1 () _ .done (.call 1 () _ .done .refl rfl) rfl, rfl, by decide +kernel, rfl, rfl⟩

end Workshop

end SpindleDrive
