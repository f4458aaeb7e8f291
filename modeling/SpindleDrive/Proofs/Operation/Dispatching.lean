import SpindleDrive.Proofs.Operation.Mirroring
import SpindleDrive.Proofs.Operation.Upkeep

/-!
# The dispatch of replies

A reply is passed to the driver by the host, by an exchange that has waited for it, from inside an
exchange, or, while replies are being read, by the exchange of a speed that one of them has made
due.  Here the driver calls itself in all of these cases, also in the last, where it would start on
the inbox once more if the flag did not tell it that this is being done; and a record is kept of
what becomes of the replies.

* `Dispatch` — what there is to record.
* `Spindle.receive`, `Spindle.dispatch` — a reply is passed to the driver, and the loop over the
  inbox, in which every reply to a speed that is sent again is passed on in the same way.
* `leads_receive_closed` — a reply that begins a loop is not passed on until the loop is over.
* `Surroundings.Files` — a condition that holds of the spindle, the record and the world together.
* **`Files.leads_receive`** — it survives the passing of a reply, whatever follows from it.
* **`mirrors_receive`** — what there is to see besides the record is what the driver does that has
  such replies wait at once.
-/

namespace SpindleDrive

open Operation

/-- What happens in the dispatch of replies. -/
inductive Dispatch where
  /-- A reply is passed to the driver. -/
  | passed (reply : Reply)
  /-- A loop over the inbox begins. -/
  | opened
  /-- A reply is given to be read. -/
  | given (reply : Reply)
  /-- The loop is over, the spindle being left in this state. -/
  | closed (left : SpindleContext)
  deriving DecidableEq, Repr

namespace Spindle

variable {World : Type} (s : Spindle) (record : Dispatch → World → World) (env : Surroundings World)

/-- A reply is passed to the driver, which starts on the inbox unless it is at it. -/
def receive (loop : Operation World Unit) (reply : Reply) : Operation World Unit := do
  affect (record (.passed reply))
  enqueue reply
  let c ← context
  if !c.reading then
    affect (record .opened)
    update fun c => { c with reading := true }
    loop

/-- Reads the oldest reply of the inbox and does what it asks for; `false` when there is none. -/
def dispatchReply (onReply : Reply → Operation World Unit) : Operation World Bool := do
  let coldStart ← observe env.isColdStart
  let c ← context
  match c.inbox with
  | [] =>
    update fun c => { c with reading := false }
    let left ← context
    affect (record (.closed left))
    return false
  | reply :: rest =>
    affect (record (.given reply))
    affect (env.journal reply coldStart c)
    update (s.takeIn reply rest coldStart)
    s.heedWith env onReply (s.reader.read reply coldStart c.data c.exceptions).1
    return true

/-- The loop over the inbox.  A reply that comes of a speed sent again is passed to the driver. -/
def dispatch : Nat → Operation World Unit
  | 0 => diverge
  | patience + 1 => do
    if ← s.dispatchReply record env (receive record (dispatch patience)) then dispatch patience

/-- A reply that is passed on while others are read waits; with any other the loop begins. -/
lemma leads_receive {record : Dispatch → World → World} {loop : Operation World Unit}
    {reply : Reply} {Q : Option Unit → SpindleContext → World → Prop} {c : SpindleContext}
    {w : World}
    (queued : c.reading = true →
      Q (some ()) { c with inbox := c.inbox ++ [reply] } (record (.passed reply) w))
    (opened : c.reading = false →
      Leads loop Q { c with inbox := c.inbox ++ [reply], reading := true }
        (record .opened (record (.passed reply) w))) :
    Leads (receive record loop reply) Q c w := by
  simp only [receive, leads_bind, leads_affect, leads_enqueue, leads_context]
  cases hr : c.reading
  · simpa using opened hr
  · simpa [hr] using queued hr

variable {s record env} {onReply : Reply → Operation World Unit} {c : SpindleContext} {w : World}

/-- The step that finds the inbox empty is recorded, and is the last. -/
lemma leads_dispatchReply_closed :
    Leads (s.dispatchReply record env onReply)
      (fun r c' w' => r = some false →
        c'.reading = false ∧ c'.inbox = [] ∧ ∃ w'', w' = record (.closed c') w'') c w := by
  simp only [dispatchReply, leads_bind, leads_observe, leads_context]
  rcases hinbox : c.inbox with _ | ⟨reply, rest⟩
  · simp only [leads_bind, leads_update, leads_context, leads_affect, leads_pure]
    exact fun _ => ⟨trivial, hinbox, w, rfl⟩
  · simp only [leads_bind, leads_affect, leads_update, leads_pure]
    refine .of_forall fun r c' w' => ?_
    cases r <;> simp

/-- **A loop that comes to an end** leaves no reply waiting, and the spindle ready for another. -/
lemma leads_dispatch_closed (patience : Nat) : ∀ c w,
    Leads (s.dispatch record env patience)
      (fun r c' w' => r = some () →
        c'.reading = false ∧ c'.inbox = [] ∧ ∃ w'', w' = record (.closed c') w'') c w := by
  induction patience with
  | zero => exact fun c w hback => nomatch hback
  | succ patience ih =>
      intro c w
      rw [dispatch, leads_bind]
      refine leads_dispatchReply_closed.mono ?_
      rintro (_ | _ | _) c w hclosed
      · simp
      · exact fun _ => hclosed rfl
      · exact ih c w

/-- So does the passing of a reply, if it begins a loop and comes back: the end of the loop is the
last that happens. -/
theorem leads_receive_closed (patience : Nat) (reply : Reply) (hreading : c.reading = false) :
    Leads (receive record (s.dispatch record env patience) reply)
      (fun r c' w' => r = some () →
        c'.reading = false ∧ c'.inbox = [] ∧ ∃ w'', w' = record (.closed c') w'') c w := by
  refine leads_receive (fun hr => ?_) fun _ => leads_dispatch_closed patience _ _
  simp [hreading] at hr

end Spindle

/-! ## What the record is in keeping with -/

namespace Surroundings

variable {World : Type}

/-- That replies are being read is left as it is by every exchange that ends. -/
def KeepsReading (env : Surroundings World) : Prop :=
  ∀ request, env.Bears (fun c _ => c.reading = true) (fun _ _ => True) request

/-- **A condition `I` on the spindle, the record and the world** that every step of a dispatch keeps
which is recorded, and every step that is not. -/
structure Files (env : Surroundings World) (s : Spindle) (record : Dispatch → World → World)
    (I : SpindleContext → World → Prop) : Prop where
  passed : ∀ reply c w, I c w → I { c with inbox := c.inbox ++ [reply] } (record (.passed reply) w)
  opened : ∀ c w, c.reading = false → I c w → I { c with reading := true } (record .opened w)
  given : ∀ reply rest c w, c.reading = true → c.inbox = reply :: rest → I c w →
    I (s.takeIn reply rest (env.isColdStart w) c)
      (env.journal reply (env.isColdStart w) c (record (.given reply) w))
  closed : ∀ c w, c.reading = true → c.inbox = [] → I c w →
    I { c with reading := false } (record (.closed { c with reading := false }) w)
  book : ∀ c c' w, c.Stages c' → I c w → I c' w
  program : ∀ rpm progress c w, I c w → I (c.endSpeed rpm (env.tolerance w) progress) w
  raiseAlarm : ∀ c w, I c w → I c (env.raiseAlarm w)
  send : ∀ request, s.IsRoutine request → env.Bears I I request

namespace Files

variable {env : Surroundings World} {s : Spindle} {record : Dispatch → World → World}
  {I : SpindleContext → World → Prop} {loop : Operation World Unit} {c : SpindleContext} {w : World}

/-- Where nothing is asked for, nothing is broken. -/
lemma trivial (env : Surroundings World) (s : Spindle) (record : Dispatch → World → World) :
    env.Files s record fun _ _ => True where
  passed _ _ _ _ := True.intro
  opened _ _ _ _ := True.intro
  given _ _ _ _ _ _ _ := True.intro
  closed _ _ _ _ _ := True.intro
  book _ _ _ _ _ := True.intro
  program _ _ _ _ _ := True.intro
  raiseAlarm _ _ _ := True.intro
  send request _ mode c w _ := by
    rw [leads_settled]
    exact .of_forall fun _ _ _ => True.intro

/-- While replies are being read a reply that comes in waits its turn. -/
lemma handles_reading (h : env.Files s record I) (loop : Operation World Unit) :
    env.Handles (Spindle.receive record loop) (fun c w => c.reading = true ∧ I c w) I where
  ended _ _ hI := hI.2
  book c c' w hc hI := ⟨hc.reading.trans hI.1, h.book c c' w hc hI.2⟩
  raiseAlarm c w hI := ⟨hI.1, h.raiseAlarm c w hI.2⟩
  reply reply c w hI := by
    obtain ⟨hreading, hI⟩ := hI
    refine Spindle.leads_receive (fun _ => ⟨hreading, h.passed reply c w hI⟩) fun hr => ?_
    simp [hreading] at hr

/-- An exchange of a speed leaves the loop where it is. -/
lemma leads_programmed (h : env.Files s record I) (hkeeps : env.KeepsReading) {address : UInt8}
    (rpm : Binary32) (hreading : c.reading = true) (hI : I c w) :
    Leads (s.exchangeSpeed env (.speed address s.registers (s.reader.scale.toCode rpm)) false)
      (Programmed env rpm (fun c w => c.reading = true ∧ I c w) I) c w := by
  have hexchange (mode : SendMode) (c : SpindleContext) (w : World)
      (hI : c.reading = true ∧ I c w) :
      Leads (exchange env (.speed address s.registers (s.reader.scale.toCode rpm)) mode)
        (Settled (fun c w => c.reading = true ∧ I c w) I) c w := by
    refine ((hkeeps _ mode c w hI.1).and (h.send _ (.speed ..) mode c w hI.2)).mono ?_
    rintro (_ | _) c w ⟨hreading, hI⟩
    · exact hI
    · exact ⟨hreading, hI⟩
  refine (leads_exchangeSpeed_settled hexchange
    (fun n c w hI => ⟨hI.1, h.book c _ w (c.stages_speedOp _) hI.2⟩) false ⟨hreading, hI⟩).mono ?_
  intro r c w hend
  rcases r with _ | outcome
  · exact hend
  · exact ⟨hend.1, h.program rpm _ c w hend.2⟩

/-- **One step of the loop**: if there was a reply the loop goes on. -/
lemma leads_dispatchReply (h : env.Files s record I) (hkeeps : env.KeepsReading)
    (hreading : c.reading = true) (hI : I c w) :
    Leads (s.dispatchReply record env (Spindle.receive record loop))
      (fun r c w => I c w ∧ (r = some true → c.reading = true)) c w := by
  simp only [Spindle.dispatchReply, leads_bind, leads_observe, leads_context]
  rcases hinbox : c.inbox with _ | ⟨reply, rest⟩
  · simpa using h.closed c w hreading hinbox hI
  · simp only [leads_bind, leads_affect, leads_update, leads_pure]
    have hgiven := h.given reply rest c w hreading hinbox hI
    have htaken : (s.takeIn reply rest (env.isColdStart w) c).reading = true := hreading
    refine ((h.handles_reading loop).leads_heedWith (I := fun c w => c.reading = true ∧ I c w) _
      (fun rpm _ _ => ?_) ⟨htaken, hgiven⟩).mono ?_
    · exact h.leads_programmed hkeeps rpm htaken
        (h.book _ _ _ (SpindleContext.stages_speedOp _ _) hgiven)
    · rintro (_ | _) c w hend
      · exact ⟨hend, by simp⟩
      · exact ⟨hend.2, fun _ => hend.1⟩

/-- The loop keeps the condition, whether it comes to an end or not. -/
lemma leads_dispatch (h : env.Files s record I) (hkeeps : env.KeepsReading) (patience : Nat) :
    ∀ c w, c.reading = true → I c w →
      Leads (s.dispatch record env patience) (fun _ => I) c w := by
  induction patience with
  | zero => exact fun c w _ hI => hI
  | succ patience ih =>
      intro c w hreading hI
      rw [Spindle.dispatch, leads_bind]
      refine (h.leads_dispatchReply hkeeps hreading hI).mono ?_
      rintro (_ | _ | _) c w ⟨hI, hgoes⟩
      · exact hI
      · exact hI
      · exact ih c w (hgoes rfl) hI

/-- **The passing of a reply keeps the condition**, whatever follows from it. -/
theorem leads_receive (h : env.Files s record I) (hkeeps : env.KeepsReading) (patience : Nat)
    (reply : Reply) (hI : I c w) :
    Leads (Spindle.receive record (s.dispatch record env patience) reply) (fun _ => I) c w := by
  have hpassed := h.passed reply c w hI
  refine Spindle.leads_receive (fun _ => hpassed) fun hreading => ?_
  have hopened := h.opened { c with inbox := c.inbox ++ [reply] } _ hreading hpassed
  exact h.leads_dispatch hkeeps patience _ _ rfl hopened

/-- So the condition is kept by every call in which the driver receives the replies in this way. -/
lemma carries (h : env.Files s record I) (hkeeps : env.KeepsReading) (patience : Nat) :
    env.Carries s (Spindle.receive record (s.dispatch record env patience)) I I where
  ended _ _ hI := hI
  book := h.book
  raiseAlarm := h.raiseAlarm
  reply reply _ _ hI := leads_settled.2 (h.leads_receive hkeeps patience reply hI)
  program := h.program
  send request hroutine _ := h.send request hroutine

end Files

end Surroundings

/-! ## What there is to see -/

namespace Operation

variable {World World' α : Type} {view : World' → World} {env' : Surroundings World'}
  {env : Surroundings World} {s : Spindle} {record : Dispatch → World' → World'}
  {loop : Operation World' Unit} {c : SpindleContext} {w : World'}

section

variable (h : env'.Mirrors view env) (hrecord : ∀ event w, view (record event w) = view w)
  (hkeeps : env'.KeepsReading)

include hrecord

/-- While replies are being read, passing one on is letting it wait. -/
lemma mirrorsAt_receive (hreading : c.reading = true) (reply : Reply) :
    MirrorsAt view (Spindle.receive record loop reply) (Spindle.enqueue reply) c w := by
  show Leads (Spindle.receive record loop reply) (fun r c' w' =>
    (Spindle.enqueue reply).run.run (c, view w) = (r, c', view w')) c w
  refine Spindle.leads_receive (fun _ => ?_) fun hr => ?_
  · rw [hrecord]
    rfl
  · simp [hreading] at hr

include h hkeeps

/-- So a speed that is sent again is sent as by the driver that does so. -/
lemma mirrorsAt_sendSpeed (hreading : c.reading = true) (rpm : Binary32) :
    MirrorsAt view (s.sendSpeed env' (Spindle.receive record loop) rpm false)
      (s.sendSpeed env Spindle.enqueue rpm false) c w := by
  refine MirrorsAt.context_bind ?_
  split
  · exact Mirrors.pure _ c w
  split
  · exact Mirrors.pure _ c w
  refine MirrorsAt.update_bind (MirrorsAt.bind (Mirrors.exchangeSpeed h _ false _ w) ?_)
  have hleaves : Leads
      (s.exchangeSpeed env' (.speed c.address s.registers (s.reader.scale.toCode rpm)) false)
      (Settled (fun c _ => c.reading = true) fun _ _ => True) { c with speedOp := .sending } w :=
    leads_exchangeSpeed_settled (hkeeps _) (fun n c w hr => hr) false hreading
  refine hleaves.mono ?_
  rintro _ c w hreading outcome rfl
  refine MirrorsAt.observe_bind h.tolerance (MirrorsAt.update_bind ?_)
  rcases outcome with e | _ | reply
  · exact (Mirrors.affect h.raiseAlarm).bind (fun _ => .pure _) _ w
  · exact Mirrors.pure _ _ w
  · refine MirrorsAt.bind (mirrorsAt_receive hrecord ?_ reply) (.of_forall fun _ c w _ _ =>
      Mirrors.pure _ c w)
    exact hreading

lemma mirrorsAt_heed (hreading : c.reading = true) (finding : Finding) :
    MirrorsAt view (s.heedWith env' (Spindle.receive record loop) finding) (s.heed env finding)
      c w := by
  have halarm (c : SpindleContext) (w : World') :
      MirrorsAt view (if finding.escalates then affect env'.raiseAlarm else pure ())
        (if finding.escalates then affect env.raiseAlarm else pure ()) c w := by
    split
    · exact Mirrors.affect h.raiseAlarm c w
    · exact Mirrors.pure () c w
  refine MirrorsAt.bind ?_ (.of_forall fun _ c w _ _ => halarm c w)
  cases finding.reissue? with
  | none => exact Mirrors.pure () c w
  | some rpm =>
      exact (mirrorsAt_sendSpeed h hrecord hkeeps hreading rpm).bind
        (.of_forall fun _ c w _ _ => Mirrors.pure () c w)

/-- One step of the loop. -/
lemma mirrorsAt_dispatchReply (hreading : c.reading = true) :
    MirrorsAt view (s.dispatchReply record env' (Spindle.receive record loop)) (s.readReply env)
      c w := by
  refine MirrorsAt.observe_bind h.isColdStart (MirrorsAt.context_bind ?_)
  rcases c.inbox with _ | ⟨reply, rest⟩
  · show (some false, { c with reading := false }, view w) =
      (some false, { c with reading := false },
        view (record (.closed { c with reading := false }) w))
    rw [hrecord]
  · refine MirrorsAt.affect_bind (fun w => hrecord _ w) ?_
    refine MirrorsAt.bind (Mirrors.affect (fun w => h.journal reply _ c w) _ _) ?_
    rw [leads_affect]
    rintro _ -
    refine MirrorsAt.update_bind (MirrorsAt.bind (mirrorsAt_heed h hrecord hkeeps ?_ _)
      (.of_forall fun _ c w _ _ => Mirrors.pure _ c w))
    exact hreading

/-- The loop that starts anew for a reply which comes of another is the loop that lets it wait:
while replies are being read none does start. -/
lemma mirrorsAt_dispatch (patience : Nat) : ∀ c w, c.reading = true →
    MirrorsAt view (s.dispatch record env' patience) (s.readReplies env patience) c w := by
  induction patience with
  | zero => exact fun c w _ => rfl
  | succ patience ih =>
      intro c w hreading
      refine MirrorsAt.bind (mirrorsAt_dispatchReply h hrecord hkeeps hreading) ?_
      refine ((Surroundings.Files.trivial env' s record).leads_dispatchReply hkeeps hreading
        True.intro).mono ?_
      rintro r c w ⟨-, hgoes⟩ more rfl
      cases more with
      | true => exact ih c w (hgoes rfl)
      | false => exact Mirrors.pure () c w

/-- **The passing of a reply shows as its delivery.** -/
theorem mirrors_receive (patience : Nat) (reply : Reply) :
    Mirrors view (Spindle.receive record (s.dispatch record env' patience) reply)
      (s.deliver env patience reply) := by
  intro c w
  refine MirrorsAt.affect_bind (fun w => hrecord _ w) (MirrorsAt.update_bind
    (MirrorsAt.context_bind ?_))
  split
  · refine MirrorsAt.affect_bind (fun w => hrecord _ w) (MirrorsAt.update_bind ?_)
    exact mirrorsAt_dispatch h hrecord hkeeps patience _ _ rfl
  · exact Mirrors.pure () _ _

end

end Operation

end SpindleDrive
