import SpindleDrive.Preview
import SpindleDrive.Proofs.Host.Enrolment
import SpindleDrive.Proofs.Operation.Rules

/-!
# What is shown ahead of time

The requests of a command can be shown without a bus, from the configuration alone.  A spindle finds
its own way to them: through its selection, its address and its scale, through two loops of attempts
and the reading of replies.  Where every exchange comes about and nothing is refused, the two agree.

* `Spindle.exists_make` — a spindle can be made of a valid configuration.
* `Surroundings.Obliges` — a transport that takes every request and refuses none.
* `SpindleContext.IsFree`, `SpindleContext.Keeps` — a selected spindle that is at work on nothing,
  and what an exchange leaves alone.
* `Surroundings.Sends` — what an operation has sent, the spindle being free again.
* `Obliges.sends_setState` and its like — what each operation sends.
* **`sent_of_preview`** — a spindle sends what the preview shows.
-/

namespace SpindleDrive

open Operation

/-! ## Valid configurations -/

/-- **A spindle can be made of every valid configuration**, and it has the scale of its register. -/
theorem Spindle.exists_make (id : SpindleId) {c : Config} (h : c.validate = .ok ()) :
    ∃ s scale, c.speedScale = .ok scale ∧ s.id = id ∧ s.config = c ∧ s.reader.scale = scale ∧
      Spindle.make id c =
        .ok (s, { address := c.modbusAddress 0, exceptions := .ofBound c.retries.toNat }) := by
  obtain ⟨frequency, highest, hscale, -, hmake⟩ := Spindle.make_of_validate h
  exact ⟨_, frequency, hscale, rfl, rfl, rfl, hmake id⟩

/-! ## A transport that takes everything -/

variable {World : Type}

/-- A reply that is there and is a refusal is none that is wanted. -/
def Reply.IsCalm? (reply? : Option Reply) : Prop :=
  ∀ reply, reply? = some reply → reply.isException = false

namespace SpindleContext

/-- **A selected spindle with no reply to read**, at an address. -/
structure IsRead (c : SpindleContext) (address : UInt8) : Prop where
  selected : c.isSelected = true
  address : c.address = address
  reading : c.reading = false
  inbox : c.inbox = []

/-- **A selected spindle that is at work on nothing**, at an address. -/
structure IsFree (c : SpindleContext) (address : UInt8) : Prop extends c.IsRead address where
  statusOp : c.statusOp.isBusy = false
  speedOp : c.speedOp.isBusy = false

/-- **What an exchange leaves alone**, whatever it lets the spindle hear: all that the spindle goes
by when it sends, except for its speeds. -/
structure Keeps (c c' : SpindleContext) : Prop where
  selection : c'.selection = c.selection
  address : c'.address = c.address
  statusOp : c'.statusOp = c.statusOp
  speedOp : c'.speedOp = c.speedOp
  lastPoll : c'.lastPoll = c.lastPoll
  reading : c'.reading = c.reading
  inbox : c'.inbox = c.inbox

lemma IsRead.of_keeps {c c' : SpindleContext} {address : UInt8} (h : c.IsRead address)
    (hkeeps : c.Keeps c') : c'.IsRead address where
  selected := by rw [isSelected, hkeeps.selection]; exact h.selected
  address := hkeeps.address.trans h.address
  reading := hkeeps.reading.trans h.reading
  inbox := hkeeps.inbox.trans h.inbox

end SpindleContext

/-- **A transport that takes every request and refuses none.**  Its replies, if they come at once,
can say anything, and it can have the spindle read others meanwhile; `sent` is what has been handed
to it. -/
structure Surroundings.Obliges (env : Surroundings World)
    (sent : World → List (Request × SendMode)) : Prop where
  send : ∀ request mode c w, c.reading = false → c.inbox = [] →
    ∃ reply? c' w', env.send request mode c w = (some (.ok reply?), c', w') ∧
      Reply.IsCalm? reply? ∧ c.Keeps c' ∧ sent w' = sent w ++ [(request, mode)]
  journal : ∀ reply coldStart c w, sent (env.journal reply coldStart c w) = sent w

/-- **What has been sent** since a spindle was in one state and the world in another; the spindle is
free, and the clock at its last poll is what it was. -/
structure Surroundings.Sends (sent : World → List (Request × SendMode)) (address : UInt8)
    (requests : List (Request × SendMode)) (c : SpindleContext) (w : World) (c' : SpindleContext)
    (w' : World) : Prop where
  free : c'.IsFree address
  lastPoll : c'.lastPoll = c.lastPoll
  sent : sent w' = sent w ++ requests

namespace Surroundings.Obliges

variable {env : Surroundings World} {sent : World → List (Request × SendMode)} {s : Spindle}
  {c : SpindleContext} {w : World} {address : UInt8} {patience : Nat}

/-! ## Exchanges -/

lemma leads_exchange (h : env.Obliges sent) (hread : c.IsRead address) (request : Request)
    (mode : SendMode) :
    Leads (exchange env request mode)
      (fun r c' w' => ∃ reply?, r = some (.ok reply?) ∧ Reply.IsCalm? reply? ∧ c.Keeps c' ∧
        sent w' = sent w ++ [(request, mode)]) c w := by
  obtain ⟨reply?, c', w', hsend, hend⟩ := h.send request mode c w hread.reading hread.inbox
  rw [Operation.leads_exchange, hsend]
  exact ⟨reply?, rfl, hend⟩

/-- The first attempt is the only one. -/
lemma leads_sendRepeatedly (h : env.Obliges sent) (hread : c.IsRead address) (request : Request)
    (retries : Nat) (mark : Nat → SpindleContext → SpindleContext) :
    Leads (sendRepeatedly (exchange env) request retries fun n => update (mark n))
      (fun r c' w' => ∃ reply?, r = some (.ok reply?) ∧ Reply.IsCalm? reply? ∧ c.Keeps c' ∧
        sent w' = sent w ++ [(request, .blocking)]) c w := by
  refine Operation.leads_sendRepeatedly (fun k _ c' w' => k = 0 ∧ c' = c ∧ w' = w)
    ⟨rfl, rfl, rfl⟩ ?_ ?_
  · rintro k last c' w' - ⟨rfl, rfl, rfl⟩
    refine (h.leads_exchange hread request .blocking).mono ?_
    rintro r c'' w'' ⟨reply?, rfl, hend⟩
    exact ⟨reply?, rfl, hend⟩
  · rintro last c' w' ⟨hnone, -⟩
    omega

lemma leads_sendOnce (h : env.Obliges sent) (hread : c.IsRead address) (request : Request) :
    Leads (sendOnce (exchange env) request)
      (fun r c' w' => ∃ reply?, r = some reply? ∧ Reply.IsCalm? reply? ∧ c.Keeps c' ∧
        sent w' = sent w ++ [(request, .nonBlocking)]) c w := by
  refine Operation.leads_sendOnce ((h.leads_exchange hread request .nonBlocking).mono ?_)
  rintro r c' w' ⟨reply?, rfl, hend⟩
  exact ⟨reply?, rfl, hend⟩

/-! ## Replies -/

/-- A reply that is no refusal is taken in, and nothing is sent for it. -/
lemma sends_deliverAny (h : env.Obliges sent) (hfree : c.IsFree address) (reply? : Option Reply)
    (hcalm : Reply.IsCalm? reply?) :
    Leads (s.deliverAny env (patience + 2) reply?)
      (fun r c' w' => r = some () ∧ Sends sent address [] c w c' w') c w := by
  refine leads_deliverAny (fun _ => ⟨rfl, hfree, rfl, by simp⟩) fun reply hreply => ?_
  obtain ⟨kind, frame | code⟩ := reply
  · refine leads_deliver_response hfree.reading hfree.inbox fun c' => ⟨rfl, ?_, rfl, ?_⟩
    · exact { hfree with inbox := rfl }
    · rw [h.journal, List.append_nil]
  · exact absurd (hcalm _ hreply) (by simp [Reply.isException])

/-! ## Operations -/

/-- **Setting a speed sends it once.** -/
lemma sends_setSpeed (h : env.Obliges sent) (hfree : c.IsFree address) (rpm : Binary32) :
    Leads (s.setSpeed env (patience + 2) rpm true)
      (fun r c' w' => r = some (.ok ()) ∧ Sends sent address
        [(.speed address s.registers (s.reader.scale.toCode rpm), .blocking)] c w c' w') c w := by
  obtain rfl := hfree.address
  refine leads_setSpeed (leads_sendSpeed (fun hsel => ?_) (fun _ hbusy => ?_) fun _ _ => ?_)
  · simp [hfree.selected] at hsel
  · simp [hfree.speedOp] at hbusy
  have hsending : SpindleContext.IsRead { c with speedOp := .sending } c.address :=
    { hfree.toIsRead with selected := hfree.selected }
  refine (h.leads_sendRepeatedly hsending _ _ _).mono ?_
  rintro r c' w' ⟨reply?, rfl, hcalm, hkeeps, hsent⟩
  have hended : (c'.endSpeed rpm (env.tolerance w') .idle).IsFree c.address :=
    { hsending.of_keeps hkeeps with
      selected := (hsending.of_keeps hkeeps).selected
      statusOp := by
        rw [SpindleContext.endSpeed, hkeeps.statusOp]
        exact hfree.statusOp
      speedOp := rfl }
  cases reply? with
  | none => exact ⟨rfl, hended, hkeeps.lastPoll, hsent⟩
  | some reply =>
      refine (h.sends_deliverAny hended (some reply) hcalm).mono ?_
      rintro r c'' w'' ⟨rfl, hsends⟩
      exact ⟨rfl, hsends.free, hsends.lastPoll.trans hkeeps.lastPoll, by
        rw [hsends.sent, hsent, List.append_nil]⟩

/-- **Starting or stopping sends the command and the speed.** -/
lemma sends_setState (h : env.Obliges sent) (hfree : c.IsFree address) (state : SpindleState)
    (rpm : Binary32) :
    Leads (s.setState env (patience + 2) state rpm)
      (fun r c' w' => r = some (.ok ()) ∧ Sends sent address
        [(.command address s.registers (.run (.forRequest state.on rpm) (.ofCcw state.ccw)),
            .blocking),
          (.speed address s.registers (s.reader.scale.toCode rpm), .blocking)] c w c' w') c w := by
  obtain rfl := hfree.address
  refine leads_setState (fun hsel => ?_) (fun _ hbusy => ?_) fun _ _ => ?_
  · simp [hfree.selected] at hsel
  · simp [hfree.statusOp] at hbusy
  have htaken : (c.takeCommand state).IsRead c.address :=
    { hfree.toIsRead with selected := hfree.selected }
  refine (h.leads_sendRepeatedly htaken _ _ _).mono ?_
  rintro r c' w' ⟨reply?, rfl, hcalm, hkeeps, hsent⟩
  have hidle : SpindleContext.IsFree { c' with statusOp := .idle } c.address :=
    { htaken.of_keeps hkeeps with
      selected := (htaken.of_keeps hkeeps).selected
      statusOp := rfl
      speedOp := by
        rw [hkeeps.speedOp]
        exact hfree.speedOp }
  refine (h.sends_deliverAny hidle _ hcalm).mono ?_
  rintro r c'' w'' ⟨rfl, hread⟩
  refine (h.sends_setSpeed hread.free rpm).mono ?_
  rintro r c₃ w₃ ⟨rfl, hsends⟩
  refine ⟨rfl, hsends.free, ?_, ?_⟩
  · exact hsends.lastPoll.trans (hread.lastPoll.trans hkeeps.lastPoll)
  · rw [hsends.sent, hread.sent, hsent]
    simp

/-- What is left to do after a request that does not wait. -/
lemma sends_handOver (h : env.Obliges sent) (hfree : c.IsFree address) {c' : SpindleContext}
    {w' : World} {request : Request} {mode : SendMode} {reply? : Option Reply}
    (hcalm : Reply.IsCalm? reply?) (hkeeps : c.Keeps c')
    (hsent : sent w' = sent w ++ [(request, mode)]) :
    Leads (s.deliverAny env (patience + 2) reply?)
      (fun r c'' w'' => r = some () ∧ Sends sent address [(request, mode)] c w c'' w'') c' w' := by
  have hfree' : c'.IsFree address :=
    { hfree.toIsRead.of_keeps hkeeps with
      statusOp := by rw [hkeeps.statusOp, hfree.statusOp]
      speedOp := by rw [hkeeps.speedOp, hfree.speedOp] }
  refine (h.sends_deliverAny hfree' _ hcalm).mono ?_
  rintro r c'' w'' ⟨rfl, hread⟩
  refine ⟨rfl, hread.free, hread.lastPoll.trans hkeeps.lastPoll, ?_⟩
  rw [hread.sent, hsent, List.append_nil]

/-- **Asking for the state for the first time sends a reading.** -/
lemma sends_getState (h : env.Obliges sent) (hfree : c.IsFree address) (first : c.lastPoll = none) :
    Leads (s.getState env (patience + 2))
      (fun r c' w' => ∃ told, r = some told ∧ c'.IsFree address ∧
        sent w' = sent w ++ [(.readOutput address s.registers, .nonBlocking)]) c w := by
  obtain rfl := hfree.address
  refine leads_getState (fun hrest => ?_) fun _ _ => ?_
  · simp [hfree.selected, SpindleContext.pollDue, first] at hrest
  have hpolled : SpindleContext.IsFree { c with lastPoll := some (env.elapsed w) } c.address :=
    { hfree with selected := hfree.selected }
  refine (h.leads_sendOnce hpolled.toIsRead _).mono ?_
  rintro r c' w' ⟨reply?, rfl, hcalm, hkeeps, hsent⟩
  refine (h.sends_handOver hpolled hcalm hkeeps hsent).mono ?_
  rintro r c'' w'' ⟨rfl, hsends⟩
  exact ⟨_, rfl, { hsends.free with selected := hsends.free.selected }, hsends.sent⟩

/-- **Asking for the highest speed sends a reading** where there is a register for it. -/
lemma sends_requestMaxSpeed (h : env.Obliges sent) (hfree : c.IsFree address) :
    Leads (s.requestMaxSpeed env (patience + 2))
      (fun r c' w' => r = some (.ok ()) ∧ Sends sent address
        ((Request.readMax? address s.registers).toList.map (·, .nonBlocking)) c w c' w') c w := by
  obtain rfl := hfree.address
  refine leads_requestMaxSpeed (fun hsel => ?_) (fun _ hnone => ?_) fun _ request hrequest => ?_
  · simp [hfree.selected] at hsel
  · rw [hnone]
    exact ⟨rfl, hfree, rfl, by simp⟩
  refine (h.leads_sendOnce hfree.toIsRead _).mono ?_
  rintro r c' w' ⟨reply?, rfl, hcalm, hkeeps, hsent⟩
  refine (h.sends_handOver hfree hcalm hkeeps hsent).mono ?_
  rintro r c'' w'' ⟨rfl, hsends⟩
  rw [hrequest]
  exact ⟨rfl, hsends⟩

/-- **A spindle that is selected is free**, at the address of its binding, and was never polled. -/
lemma leads_bindTo (h : env.Obliges sent) {selection : Selection} (mine : selection.id = s.id)
    (fresh : c = { address := s.config.modbusAddress 0, exceptions := c.exceptions }) :
    Leads (s.bind env (patience + 2) selection)
      (fun r c' _ => r = some () ∧ c'.IsFree (s.config.modbusAddress selection.binding) ∧
        c'.lastPoll = none) c w := by
  refine Operation.leads_bindTo (fun other => absurd mine other) fun _ => ?_
  have hfree : SpindleContext.IsFree
      { c with
        selection := some selection
        data := { c.data with programmed := noSpeed }
        address := s.config.modbusAddress selection.binding }
      (s.config.modbusAddress selection.binding) := by
    rw [fresh]
    exact ⟨⟨rfl, rfl, rfl, rfl⟩, rfl, rfl⟩
  have hnever : c.lastPoll = none := by rw [fresh]
  dsimp only
  split
  · refine (h.sends_requestMaxSpeed hfree).mono ?_
    rintro r c' w' ⟨rfl, hsends⟩
    exact ⟨rfl, hsends.free, hsends.lastPoll.trans hnever⟩
  · exact ⟨rfl, hfree, hnever⟩

end Surroundings.Obliges

/-! ## The preview -/

/-- Takes replies that come in one after the other. -/
def Spindle.deliverAll (s : Spindle) (env : Surroundings World) (patience : Nat) :
    List Reply → Operation World Unit
  | [] => pure ()
  | reply :: replies => do
    s.deliver env patience reply
    s.deliverAll env patience replies

/-- **A command and both readings after it.**  Before each of the three come replies that are
late. -/
def Spindle.commandAndRead (s : Spindle) (env : Surroundings World) (patience : Nat)
    (state : SpindleState) (rpm : Binary32) (late : Fin 3 → List Reply) :
    Operation World (Except DriverError Unit × Except DriverError Unit) := do
  s.deliverAll env patience (late 0)
  let commanded ← s.setState env patience state rpm
  s.deliverAll env patience (late 1)
  let _ ← s.getState env patience
  s.deliverAll env patience (late 2)
  let asked ← s.requestMaxSpeed env patience
  return (commanded, asked)

/-- Replies of which none is a refusal have nothing sent for them. -/
lemma Surroundings.Obliges.sends_deliverAll {env : Surroundings World}
    {sent : World → List (Request × SendMode)} {s : Spindle} {address : UInt8} {patience : Nat}
    (h : env.Obliges sent) {replies : List Reply}
    (hcalm : ∀ reply ∈ replies, reply.isException = false) {c : SpindleContext} {w : World}
    (hfree : c.IsFree address) :
    Leads (s.deliverAll env (patience + 2) replies)
      (fun r c' w' => r = some () ∧ Sends sent address [] c w c' w') c w := by
  induction replies generalizing c w with
  | nil => exact ⟨rfl, hfree, rfl, by simp⟩
  | cons reply replies ih =>
      obtain ⟨hreply, hreplies⟩ := List.forall_mem_cons.1 hcalm
      simp only [Spindle.deliverAll, leads_bind]
      refine (h.sends_deliverAny hfree (some reply) ?_).mono ?_
      · rintro _ ⟨⟩
        exact hreply
      rintro r c' w' ⟨rfl, hfirst⟩
      refine (ih hreplies hfirst.free).mono ?_
      rintro r c'' w'' ⟨rfl, hrest⟩
      exact ⟨rfl, hrest.free, hrest.lastPoll.trans hfirst.lastPoll, by
        rw [hrest.sent, hfirst.sent, List.append_nil, List.append_nil]⟩

/-- The requests of a preview with its readings, by the scale of the configuration. -/
lemma Preview.requests_eq {c : Config} {scale : SpeedScale} (hscale : c.speedScale = .ok scale)
    (state : SpindleState) (rpm : Binary32) (binding : UInt8) :
    ({ state, rpm, binding, queries := true } : Preview).requests c =
      .ok ([.command (c.modbusAddress binding) c.model.registers
              (.run (.forRequest state.on rpm) (.ofCcw state.ccw)),
            .speed (c.modbusAddress binding) c.model.registers (scale.toCode rpm)] ++
          .readOutput (c.modbusAddress binding) c.model.registers ::
            (Request.readMax? (c.modbusAddress binding) c.model.registers).toList) := by
  rw [Preview.requests, hscale]
  rfl

/-- **A spindle sends what the preview shows.**  Of every valid configuration there is a preview and
a spindle can be made.  Selected under any number, over any transport that takes every request and
refuses none, the spindle comes back from a command and both readings, whatever replies come at once
and whatever replies come late, and what it has sent for them is the preview. -/
theorem Spindle.sent_of_preview {c : Config} (valid : c.validate = .ok ()) (id : SpindleId)
    (binding : UInt8) (state : SpindleState) (rpm : Binary32) :
    ∃ requests s made,
      ({ state, rpm, binding, queries := true } : Preview).requests c = .ok requests ∧
      Spindle.make id c = .ok (s, made) ∧
      ∀ {World : Type} (env : Surroundings World) (sent : World → List (Request × SendMode)),
        env.Obliges sent → ∀ (patience : Nat) (late : Fin 3 → List Reply),
        (∀ i, ∀ reply ∈ late i, reply.isException = false) → ∀ w,
        Leads (s.bind env (patience + 2) ⟨id, binding⟩)
          (fun bound c' w' => bound = some () ∧
            Leads (s.commandAndRead env (patience + 2) state rpm late)
              (fun results _ w'' => results = some (.ok (), .ok ()) ∧
                (sent w'').map Prod.fst = (sent w').map Prod.fst ++ requests) c' w') made w := by
  obtain ⟨s, scale, hscale, hid, hconfig, hreader, hmake⟩ := Spindle.exists_make id valid
  have hregisters : s.registers = c.model.registers := by rw [Spindle.registers, hconfig]
  refine ⟨_, s, _, Preview.requests_eq hscale state rpm binding, hmake, ?_⟩
  intro World env sent h patience late hcalm w
  refine (h.leads_bindTo hid.symm (by rw [hconfig])).mono ?_
  rintro bound c₀ w₀ ⟨rfl, hfree, hnever⟩
  refine ⟨rfl, ?_⟩
  simp only [Spindle.commandAndRead, leads_bind, leads_pure]
  refine (h.sends_deliverAll (hcalm 0) hfree).mono ?_
  rintro r c₁ w₁ ⟨rfl, h₁⟩
  refine (h.sends_setState h₁.free state rpm).mono ?_
  rintro r c₂ w₂ ⟨rfl, h₂⟩
  refine (h.sends_deliverAll (hcalm 1) h₂.free).mono ?_
  rintro r c₃ w₃ ⟨rfl, h₃⟩
  have hfirst : c₃.lastPoll = none := by
    rw [h₃.lastPoll, h₂.lastPoll, h₁.lastPoll, hnever]
  refine (h.sends_getState h₃.free hfirst).mono ?_
  rintro r c₄ w₄ ⟨told, rfl, hfree₄, h₄⟩
  refine (h.sends_deliverAll (hcalm 2) hfree₄).mono ?_
  rintro r c₅ w₅ ⟨rfl, h₅⟩
  refine (h.sends_requestMaxSpeed h₅.free).mono ?_
  rintro r c₆ w₆ ⟨rfl, h₆⟩
  refine ⟨rfl, ?_⟩
  rw [h₆.sent, h₅.sent, h₄, h₃.sent, h₂.sent, h₁.sent, hconfig, hregisters, hreader]
  simp [Function.comp_def]

/-- Surroundings in which nothing happens but what is sent, and every request comes back at once as
its own reply. -/
def Surroundings.echoing : Surroundings (List (Request × SendMode)) where
  isUp _ := true
  silence w := w
  send request mode c w :=
    (some (.ok (some ⟨request.kind, .response request.frame⟩)), c, w ++ [(request, mode)])
  elapsed _ := 0
  isColdStart _ := false
  journal _ _ _ w := w
  raiseAlarm w := w
  tolerance _ := .zero
  setTolerance _ w := w

lemma Surroundings.echoing_obliges : echoing.Obliges id where
  send _ _ _ _ _ _ := by
    refine ⟨_, _, _, rfl, ?_, ⟨rfl, rfl, rfl, rfl, rfl, rfl, rfl⟩, rfl⟩
    rintro _ ⟨⟩
    rfl
  journal _ _ _ _ := rfl

theorem Spindle.sent_of_preview_echoing :
    Config.validate {} = .ok () ∧
    ∃ requests s made,
      ({ state := .counterClockwise, rpm := .ofNat 3000, binding := 7, queries := true } :
        Preview).requests {} = .ok requests ∧
      Spindle.make ⟨0⟩ {} = .ok (s, made) ∧
      Leads (s.bind .echoing 2 ⟨⟨0⟩, 7⟩)
        (fun bound c' w' => bound = some () ∧
          Leads (s.commandAndRead .echoing 2 .counterClockwise (.ofNat 3000) fun _ => [])
            (fun results _ w'' => results = some (.ok (), .ok ()) ∧
              w''.map Prod.fst = w'.map Prod.fst ++ requests) c' w') made [] := by
  obtain ⟨requests, s, made, hpreview, hmake, hsent⟩ :=
    Spindle.sent_of_preview (c := {}) rfl ⟨0⟩ 7 .counterClockwise (.ofNat 3000)
  exact ⟨rfl, requests, s, made, hpreview, hmake,
    hsent .echoing _ Surroundings.echoing_obliges 0 (fun _ => []) (by simp) []⟩

end SpindleDrive
