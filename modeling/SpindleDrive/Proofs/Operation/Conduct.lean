import SpindleDrive.Proofs.Operation.HostCall

/-!
# How a spindle conducts itself

Whatever a spindle is called for, it does the same few things: it reads replies, sends a speed
again that a reply has made due, raises alarms, asks for readings and keeps its books.  What is
known of a spindle while it does so is a condition on its state and on the world, and this file
says when such a condition lasts.

* `SpindleContext.Resembles` — two states that differ in bookkeeping only.
* `SpindleContext.Abides`, `SpindleContext.Stages` — the same for less of the books.
* `Settled` — what holds at the end of an operation.
* `Spindle.IsReading` — the requests for a reading, to the address of the spindle.
* `leads_sendRepeatedly_settled` and its like — if an exchange keeps a condition, so do several
  attempts at it.
* `Surroundings.Handles` — what operations do around their exchanges keeps a condition, and so does
  whoever receives the replies.
* `Handles.leads_sendSpeed` and its like — each operation is left to account for the exchange that
  is its own, and a speed that is sent may leave more than held before.
* `Surroundings.Reads` — what the reading of replies brings with it keeps a condition, the exchange
  of a speed and the programming that follows it being one thing.
* **`Reads.leads_deliver`** — a condition that lasts lasts through the reading of replies.
* `Surroundings.Conducts` — each of the things that all calls do keeps a condition.
* `Conducts.leads_setSpeed` and its like — so do the calls.

A request is handed over at the address that the spindle has at the time, and a speed is sent only
if it is due.  This is what an account of single requests needs to know.
-/

namespace SpindleDrive

open Operation

/-- **Another state of the books.**  How far the operations are, when the speed was last read, the
replies that wait to be read and the copy of the verdict are free. -/
structure SpindleContext.Resembles (c c' : SpindleContext) : Prop where
  address : c'.address = c.address
  selection : c'.selection = c.selection
  on : c'.state.on = c.state.on
  ccw : c'.state.ccw = c.state.ccw
  data : c'.data = c.data
  exceptions : c'.exceptions = c.exceptions
  maxSpeed : c'.maxSpeed = c.maxSpeed

namespace SpindleContext

variable (c : SpindleContext)

lemma resembles_statusOp (progress : OperationState) :
    c.Resembles { c with statusOp := progress } :=
  ⟨rfl, rfl, rfl, rfl, rfl, rfl, rfl⟩

lemma resembles_speedOp (progress : OperationState) : c.Resembles { c with speedOp := progress } :=
  ⟨rfl, rfl, rfl, rfl, rfl, rfl, rfl⟩

lemma resembles_queue (inbox : List Reply) (reading : Bool) :
    c.Resembles { c with inbox, reading } :=
  ⟨rfl, rfl, rfl, rfl, rfl, rfl, rfl⟩

lemma resembles_lastPoll (now : UInt64) : c.Resembles { c with lastPoll := some now } :=
  ⟨rfl, rfl, rfl, rfl, rfl, rfl, rfl⟩

lemma resembles_told (atSpeed : Bool) : c.Resembles { c with state := { c.state with atSpeed } } :=
  ⟨rfl, rfl, rfl, rfl, rfl, rfl, rfl⟩

/-- Another state of the books, but for the clock at the last reading of the speed. -/
structure Abides (c c' : SpindleContext) : Prop extends c.Resembles c' where
  lastPoll : c'.lastPoll = c.lastPoll

/-- Another stage of the operations: how far they are and the copy of the verdict are free. -/
structure Stages (c c' : SpindleContext) : Prop extends c.Abides c' where
  inbox : c'.inbox = c.inbox
  reading : c'.reading = c.reading

lemma abides_queue (inbox : List Reply) (reading : Bool) : c.Abides { c with inbox, reading } :=
  ⟨c.resembles_queue inbox reading, rfl⟩

lemma stages_statusOp (progress : OperationState) : c.Stages { c with statusOp := progress } :=
  ⟨⟨c.resembles_statusOp progress, rfl⟩, rfl, rfl⟩

lemma stages_speedOp (progress : OperationState) : c.Stages { c with speedOp := progress } :=
  ⟨⟨c.resembles_speedOp progress, rfl⟩, rfl, rfl⟩

lemma stages_told (atSpeed : Bool) : c.Stages { c with state := { c.state with atSpeed } } :=
  ⟨⟨c.resembles_told atSpeed, rfl⟩, rfl, rfl⟩

end SpindleContext

/-- A request for a reading, to an address. -/
inductive Spindle.IsReading (s : Spindle) (address : UInt8) : Request → Prop where
  | output : s.IsReading address (.readOutput address s.registers)
  | highest {request : Request} (h : Request.readMax? address s.registers = some request) :
      s.IsReading address request

/-- What holds at the end of an operation: `I` if it comes back, and else `E`. -/
def Settled {World α : Type} (I E : SpindleContext → World → Prop) :
    Option α → SpindleContext → World → Prop
  | some _ => I
  | none => E

/-- What holds at the end of the exchange of a speed, once the speed is programmed. -/
def Programmed {World ε α : Type} (env : Surroundings World) (rpm : Binary32)
    (I E : SpindleContext → World → Prop) :
    Option (Except ε α) → SpindleContext → World → Prop
  | some outcome => fun c w => I (c.endSpeed rpm (env.tolerance w) (.after outcome)) w
  | none => E

/-! ## Exchanges -/

namespace Operation

variable {World : Type} {env : Surroundings World} {s : Spindle}
  {I E : SpindleContext → World → Prop} {request : Request} {c : SpindleContext} {w : World}

/-- Where both are the same it makes no difference whether the operation comes back. -/
lemma leads_settled {α : Type} {op : Operation World α} :
    Leads op (Settled I I) c w ↔ Leads op (fun _ => I) c w := by
  refine ⟨fun h => h.mono ?_, fun h => h.mono ?_⟩
  · intro r c w hend
    rcases r with _ | _ <;> exact hend
  · intro r c w hend
    rcases r with _ | _ <;> exact hend

/-- What an operation gives back has no part in it. -/
lemma leads_map_settled {α β : Type} {op : Operation World α} (f : α → β)
    (h : Leads op (Settled I E) c w) : Leads (f <$> op) (Settled I E) c w := by
  rw [leads_map]
  refine h.mono ?_
  intro r c w hend
  rcases r with _ | _ <;> exact hend

lemma leads_sendOnce_settled
    (h : ∀ c w, I c w → Leads (exchange env request .nonBlocking) (Settled I E) c w) (hI : I c w) :
    Leads (sendOnce (exchange env) request) (Settled I E) c w := by
  refine Operation.leads_sendOnce ((h c w hI).mono ?_)
  intro r c w hend
  rcases r with _ | _ | _ <;> exact hend

lemma leads_sendRepeatedly_settled {retries : Nat} {mark : Nat → SpindleContext → SpindleContext}
    (h : ∀ c w, I c w → Leads (exchange env request .blocking) (Settled I E) c w)
    (hmark : ∀ n c w, I c w → I (mark n c) w) (hI : I c w) :
    Leads (sendRepeatedly (exchange env) request retries fun n => update (mark n))
      (Settled I E) c w := by
  refine Operation.leads_sendRepeatedly (fun _ _ => I) hI (fun k last c w _ hI => ?_)
    fun _ _ _ hI => hI
  refine (h c w hI).mono ?_
  intro r c w hend
  rcases r with _ | e | reply?
  · exact hend
  · exact hmark _ c w hend
  · exact hend

lemma leads_exchangeSpeed_settled
    (h : ∀ mode c w, I c w → Leads (exchange env request mode) (Settled I E) c w)
    (mark : ∀ n c w, I c w → I { c with speedOp := .retrying n } w) (blocking : Bool) (hI : I c w) :
    Leads (s.exchangeSpeed env request blocking) (Settled I E) c w := by
  rw [Spindle.exchangeSpeed]
  split
  · exact leads_sendRepeatedly_settled (h .blocking) mark hI
  · rw [leads_map]
    refine (leads_sendOnce_settled (h .nonBlocking) hI).mono ?_
    intro r c w hend
    rcases r with _ | _ <;> exact hend

end Operation

namespace Surroundings

variable {World : Type}

/-! ## Around an exchange -/

/-- **What operations do around their exchanges keeps the condition `I`**, and so does whoever
receives the replies; `E` is what can be said of an operation that never comes back. -/
structure Handles (env : Surroundings World) (onReply : Reply → Operation World Unit)
    (I E : SpindleContext → World → Prop) : Prop where
  ended : ∀ c w, I c w → E c w
  book : ∀ c c' w, c.Stages c' → I c w → I c' w
  raiseAlarm : ∀ c w, I c w → I c (env.raiseAlarm w)
  reply : ∀ reply c w, I c w → Leads (onReply reply) (Settled I E) c w

namespace Handles

variable {env : Surroundings World} {s : Spindle} {onReply : Reply → Operation World Unit}
  {I J E : SpindleContext → World → Prop} {c : SpindleContext} {w : World}

lemma leads_handOver (h : env.Handles onReply I E) (reply? : Option Reply) (hI : I c w) :
    Leads (Spindle.handOver onReply reply?) (Settled I E) c w :=
  Operation.leads_handOver (fun _ => hI) fun reply _ => h.reply reply c w hI

/-- A speed that is sent leaves `J` if its exchange does. -/
lemma leads_sendSpeed (h : env.Handles onReply J E) {rpm : Binary32} {blocking : Bool}
    (refused : c.isSelected = false ∨ c.speedOp.isBusy = true → J c w)
    (exchanged : c.isSelected = true → c.speedOp.isBusy = false →
      Leads
        (s.exchangeSpeed env (.speed c.address s.registers (s.reader.scale.toCode rpm)) blocking)
        (Programmed env rpm J E) { c with speedOp := .sending } w) :
    Leads (s.sendSpeed env onReply rpm blocking) (Settled J E) c w := by
  refine Operation.leads_sendSpeed (fun hsel => refused (.inl hsel))
    (fun _ hbusy => refused (.inr hbusy)) fun hsel hbusy => ?_
  refine (exchanged hsel hbusy).mono ?_
  intro r c w hend
  rcases r with _ | e | _ | reply
  · exact hend
  · exact h.raiseAlarm _ w hend
  · exact hend
  · refine (h.reply reply _ w hend).mono ?_
    intro r c w hend
    rcases r with _ | _ <;> exact hend

/-- Starting or stopping.  `I` is what the command leaves and what its reply does not change, and
`J` is what the speed leaves that follows it. -/
lemma leads_setStateWith (h : env.Handles onReply I E) (h' : env.Handles onReply J E)
    {state : SpindleState} {rpm : Binary32}
    (refused : c.isSelected = false ∨ c.statusOp.isBusy = true → J c w)
    (weaken : ∀ c w, I c w → J c w)
    (commanded : c.isSelected = true → c.statusOp.isBusy = false →
      Leads (sendRepeatedly (exchange env)
          (.command c.address s.registers (.run (.forRequest state.on rpm) (.ofCcw state.ccw)))
          s.retries fun attempt => update fun c => { c with statusOp := .retrying attempt })
        (Settled I E) (c.takeCommand state) w)
    (exchanged : ∀ c w, c.isSelected = true → I c w →
      Leads (s.exchangeSpeed env (.speed c.address s.registers (s.reader.scale.toCode rpm)) true)
        (Programmed env rpm J E) c w) :
    Leads (s.setStateWith env onReply state rpm) (Settled J E) c w := by
  refine Operation.leads_setStateWith (fun hsel => refused (.inl hsel))
    (fun _ hbusy => refused (.inr hbusy)) fun hsel hbusy => ?_
  refine (commanded hsel hbusy).mono ?_
  intro r c w hend
  have hbook (progress : OperationState) (c : SpindleContext) (w : World) (hI : I c w) :
      I { c with statusOp := progress } w :=
    h.book c _ w (c.stages_statusOp progress) hI
  rcases r with _ | e | reply?
  · exact hend
  · exact weaken _ _ (h.raiseAlarm _ w (hbook .failed c w hend))
  · refine (h.leads_handOver reply? (hbook .idle c w hend)).mono ?_
    intro r c w hend
    rcases r with _ | _
    · exact hend
    · exact h'.leads_sendSpeed (fun _ => weaken c w hend) fun hsel _ =>
        exchanged { c with speedOp := .sending } w hsel (h.book c _ w (c.stages_speedOp _) hend)

/-- Asking for the state.  The reading, if there is one, may leave more than held before. -/
lemma leads_getStateWith (h : env.Handles onReply J E)
    (rest : (c.isSelected && c.pollDue (env.elapsed w) s.config.pollInterval) = false → J c w)
    (polled : c.isSelected = true → c.pollDue (env.elapsed w) s.config.pollInterval = true →
      Leads (sendOnce (exchange env) (.readOutput c.address s.registers)) (Settled J E)
        { c with lastPoll := some (env.elapsed w) } w) :
    Leads (s.getStateWith env onReply) (Settled J E) c w := by
  refine Operation.leads_getStateWith (fun hrest => ?_) fun hsel hdue => ?_
  · exact h.book c _ w (c.stages_told _) (rest hrest)
  refine (polled hsel hdue).mono ?_
  intro r c w hend
  rcases r with _ | reply?
  · exact hend
  · refine (h.leads_handOver reply? hend).mono ?_
    intro r c w hend
    rcases r with _ | _
    · exact hend
    · exact h.book c _ w (c.stages_told _) hend

lemma leads_requestMaxSpeedWith (h : env.Handles onReply I E)
    (asked : c.isSelected = true →
      ∀ request, Request.readMax? c.address s.registers = some request →
        Leads (sendOnce (exchange env) request) (Settled I E) c w) (hI : I c w) :
    Leads (s.requestMaxSpeedWith env onReply) (Settled I E) c w := by
  refine Operation.leads_requestMaxSpeedWith (fun _ => hI) (fun _ _ => hI)
    fun hsel request hmax => ?_
  refine (asked hsel request hmax).mono ?_
  intro r c w hend
  rcases r with _ | reply?
  · exact hend
  · refine (h.leads_handOver reply? hend).mono ?_
    intro r c w hend
    rcases r with _ | _ <;> exact hend

/-- Hearing of a selection, which is the one thing that changes the selection and the address. -/
lemma leads_bindWith (h : env.Handles onReply I E) {selection : Selection}
    (other : selection.id ≠ s.id → I { c with selection := none } w)
    (mine : selection.id = s.id →
      I { c with
          selection := some selection
          data := { c.data with programmed := noSpeed }
          address := s.config.modbusAddress selection.binding } (env.silence w))
    (asked : ∀ c w, c.isSelected = true → I c w →
      ∀ request, Request.readMax? c.address s.registers = some request →
        Leads (sendOnce (exchange env) request) (Settled I E) c w) :
    Leads (s.bindWith env onReply selection) (Settled I E) c w := by
  refine Operation.leads_bindWith other fun hid => ?_
  dsimp only
  split
  · refine (h.leads_requestMaxSpeedWith (fun hsel => asked _ _ hsel (mine hid)) (mine hid)).mono ?_
    intro r c w hend
    rcases r with _ | _ <;> exact hend
  · exact mine hid

/-- Heeding a finding, with whatever the exchange of a speed leaves that is sent again. -/
lemma leads_heedWith (h : env.Handles onReply I E) (finding : Finding)
    (reissued : ∀ rpm, finding.reissue? = some rpm → c.isSelected = true →
      Leads (s.exchangeSpeed env (.speed c.address s.registers (s.reader.scale.toCode rpm)) false)
        (Programmed env rpm I E) { c with speedOp := .sending } w) (hI : I c w) :
    Leads (s.heedWith env onReply finding) (Settled I E) c w := by
  have halarm (c : SpindleContext) (w : World) (hI : I c w) :
      I c (if finding.escalates then env.raiseAlarm w else w) := by
    split
    · exact h.raiseAlarm c w hI
    · exact hI
  refine Operation.leads_heedWith (Operation.leads_reissueWith (fun _ => halarm c w hI)
    fun rpm hrpm => ?_)
  refine (h.leads_sendSpeed (fun _ => hI) fun hsel _ => reissued rpm hrpm hsel).mono ?_
  intro r c w hend
  rcases r with _ | _
  · exact hend
  · exact halarm c w hend

end Handles

/-! ## Reading replies -/

/-- **What the reading of replies brings with it keeps the condition `I`**, and `E` is what can be
said of an operation that never comes back.  `Due` says of a speed that there is a reason to send it
without waiting; reading a refusal of a speed is one. -/
structure Reads (env : Surroundings World) (s : Spindle) (Due : Binary32 → World → Prop)
    (I E : SpindleContext → World → Prop) : Prop where
  ended : ∀ c w, I c w → E c w
  book : ∀ c c' w, c.Abides c' → I c w → I c' w
  raiseAlarm : ∀ c w, I c w → I c (env.raiseAlarm w)
  read : ∀ reply rest c w, I c w →
    I (s.takeIn reply rest (env.isColdStart w) c) (env.journal reply (env.isColdStart w) c w)
  due : ∀ reply c w rpm, I c w →
    (s.reader.read reply (env.isColdStart w) c.data c.exceptions).1.reissue? = some rpm →
    Due rpm (env.journal reply (env.isColdStart w) c w)
  speed : ∀ rpm c w, c.isSelected = true → Due rpm w → I c w →
    Leads (s.exchangeSpeed env (.speed c.address s.registers (s.reader.scale.toCode rpm)) false)
      (Programmed env rpm I E) c w

namespace Reads

variable {env : Surroundings World} {s : Spindle} {Due : Binary32 → World → Prop}
  {I E : SpindleContext → World → Prop} {c : SpindleContext} {w : World}

/-- The reply to a speed that is sent again waits its turn. -/
lemma handles_enqueue (h : env.Reads s Due I E) : env.Handles Spindle.enqueue I E where
  ended := h.ended
  book c c' w hc hI := h.book c c' w hc.toAbides hI
  raiseAlarm := h.raiseAlarm
  reply reply c w hI := (leads_enqueue reply).2 (h.book c _ w (c.abides_queue _ _) hI)

lemma leads_heed (h : env.Reads s Due I E) (finding : Finding)
    (hdue : ∀ rpm, finding.reissue? = some rpm → Due rpm w) (hI : I c w) :
    Leads (s.heed env finding) (Settled I E) c w :=
  h.handles_enqueue.leads_heedWith finding (fun rpm hrpm hsel =>
    h.speed rpm { c with speedOp := .sending } w hsel (hdue rpm hrpm)
      (h.book c _ w (c.stages_speedOp _).toAbides hI)) hI

/-- **Reading replies keeps the condition**: it is the invariant of the loop over the inbox. -/
lemma leads_deliver (h : env.Reads s Due I E) (patience : Nat) (reply : Reply) (hI : I c w) :
    Leads (s.deliver env patience reply) (Settled I E) c w := by
  refine Operation.leads_deliver (fun _ => ?_) fun _ => ?_
  · exact h.book c _ w (c.abides_queue _ _) hI
  refine leads_readReplies I h.ended (fun c w hI => ?_) patience _ w ?_
  · refine leads_readReply (fun _ => ?_) fun reply rest _ => ?_
    · exact h.book c _ w (c.abides_queue _ _) hI
    · refine (h.leads_heed _ (fun rpm => h.due reply c w rpm hI) (h.read reply rest c w hI)).mono ?_
      intro r c w hend
      rcases r with _ | _ <;> exact hend
  · exact h.book c _ w (c.abides_queue _ _) hI

/-- So the driver may receive the replies. -/
lemma handles (h : env.Reads s Due I E) (patience : Nat) :
    env.Handles (s.deliver env patience) I E where
  ended := h.ended
  book c c' w hc hI := h.book c c' w hc.toAbides hI
  raiseAlarm := h.raiseAlarm
  reply reply _ _ hI := h.leads_deliver patience reply hI

end Reads

/-! ## Conduct -/

/-- **What all calls do keeps the condition `I`**, and `E` is what can be said of an operation that
never comes back.  `Due` says of a speed that there is a reason to send it without waiting; reading
a refusal of a speed is one. -/
structure Conducts (env : Surroundings World) (s : Spindle) (Due : Binary32 → World → Prop)
    (I E : SpindleContext → World → Prop) : Prop where
  ended : ∀ c w, I c w → E c w
  book : ∀ c c' w, c.Resembles c' → I c w → I c' w
  raiseAlarm : ∀ c w, I c w → I c (env.raiseAlarm w)
  read : ∀ reply rest c w, I c w →
    I (s.takeIn reply rest (env.isColdStart w) c) (env.journal reply (env.isColdStart w) c w)
  due : ∀ reply c w rpm, I c w →
    (s.reader.read reply (env.isColdStart w) c.data c.exceptions).1.reissue? = some rpm →
    Due rpm (env.journal reply (env.isColdStart w) c w)
  speed : ∀ rpm c w, c.isSelected = true → Due rpm w → I c w →
    Leads (s.exchangeSpeed env (.speed c.address s.registers (s.reader.scale.toCode rpm)) false)
      (Programmed env rpm I E) c w
  reading : ∀ request c w, c.isSelected = true → s.IsReading c.address request → I c w →
    Leads (sendOnce (exchange env) request) (Settled I E) c w

namespace Conducts

variable {env : Surroundings World} {s : Spindle} {Due : Binary32 → World → Prop}
  {I J E : SpindleContext → World → Prop} {c : SpindleContext} {w : World} {patience : Nat}

lemma reads (h : env.Conducts s Due I E) : env.Reads s Due I E where
  ended := h.ended
  book c c' w hc hI := h.book c c' w hc.toResembles hI
  raiseAlarm := h.raiseAlarm
  read := h.read
  due := h.due
  speed := h.speed

lemma leads_deliver (h : env.Conducts s Due I E) (patience : Nat) (reply : Reply) (hI : I c w) :
    Leads (s.deliver env patience reply) (Settled I E) c w :=
  h.reads.leads_deliver patience reply hI

/-- Setting a speed, with whatever its exchange leaves. -/
lemma leads_setSpeed (h : env.Conducts s Due J E) {rpm : Binary32} {blocking : Bool}
    (refused : c.isSelected = false ∨ c.speedOp.isBusy = true → J c w)
    (exchanged : c.isSelected = true → c.speedOp.isBusy = false →
      Leads
        (s.exchangeSpeed env (.speed c.address s.registers (s.reader.scale.toCode rpm)) blocking)
        (Programmed env rpm J E) { c with speedOp := .sending } w) :
    Leads (s.setSpeed env patience rpm blocking) (Settled J E) c w :=
  (h.reads.handles patience).leads_sendSpeed refused exchanged

/-- Starting or stopping, with whatever its exchanges leave. -/
lemma leads_setState (h : env.Conducts s Due I E) (h' : env.Conducts s Due J E)
    {state : SpindleState} {rpm : Binary32}
    (refused : c.isSelected = false ∨ c.statusOp.isBusy = true → J c w)
    (weaken : ∀ c w, I c w → J c w)
    (commanded : c.isSelected = true → c.statusOp.isBusy = false →
      Leads (sendRepeatedly (exchange env)
          (.command c.address s.registers (.run (.forRequest state.on rpm) (.ofCcw state.ccw)))
          s.retries fun attempt => update fun c => { c with statusOp := .retrying attempt })
        (Settled I E) (c.takeCommand state) w)
    (exchanged : ∀ c w, c.isSelected = true → I c w →
      Leads (s.exchangeSpeed env (.speed c.address s.registers (s.reader.scale.toCode rpm)) true)
        (Programmed env rpm J E) c w) :
    Leads (s.setState env patience state rpm) (Settled J E) c w :=
  (h.reads.handles patience).leads_setStateWith (h'.reads.handles patience) refused weaken
    commanded exchanged

lemma leads_getState (h : env.Conducts s Due I E) (hI : I c w) :
    Leads (s.getState env patience) (Settled I E) c w :=
  (h.reads.handles patience).leads_getStateWith (fun _ => hI) fun hsel _ =>
    h.reading _ { c with lastPoll := some (env.elapsed w) } w hsel .output
      (h.book c _ w (c.resembles_lastPoll _) hI)

lemma leads_requestMaxSpeed (h : env.Conducts s Due I E) (hI : I c w) :
    Leads (s.requestMaxSpeed env patience) (Settled I E) c w :=
  (h.reads.handles patience).leads_requestMaxSpeedWith
    (fun hsel request hmax => h.reading request c w hsel (.highest hmax) hI) hI

/-- Hearing of a selection. -/
lemma leads_bindTo (h : env.Conducts s Due I E) {selection : Selection}
    (other : selection.id ≠ s.id → I { c with selection := none } w)
    (mine : selection.id = s.id →
      I { c with
          selection := some selection
          data := { c.data with programmed := noSpeed }
          address := s.config.modbusAddress selection.binding } (env.silence w)) :
    Leads (s.bind env patience selection) (Settled I E) c w :=
  (h.reads.handles patience).leads_bindWith other mine fun c w hsel hI request hmax =>
    h.reading request c w hsel (.highest hmax) hI

end Conducts

end Surroundings

end SpindleDrive
