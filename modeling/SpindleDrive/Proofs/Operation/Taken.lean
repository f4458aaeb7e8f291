import SpindleDrive.Bench.Basic
import SpindleDrive.Proofs.Operation.HostCall

/-!
# Calls while the bus is taken

A spindle that is called from inside an exchange finds the bus taken: whatever it sends never comes
to an end.  So a call of this kind that comes back has sent nothing, and this file says what it can
have done.

* `Surroundings.IsTaken` — no exchange in these surroundings ends.
* `SpindleContext.Stands` — what is left as it was: how far both operations are, and whether
  replies are being read, with the inbox empty if they are not.
* **`IsTaken.leads_inner`** — a call that a transport can make leaves it so if it comes back, and
  it does not come back exhausted.
-/

namespace SpindleDrive

open Operation

/-- No exchange in these surroundings comes to an end. -/
def Surroundings.IsTaken {World : Type} (env : Surroundings World) : Prop :=
  ∀ request mode c w, (env.send request mode c w).1 = none

/-- Whether replies are being read stays as it was, and an inbox that is not being read stays
empty. -/
structure SpindleContext.QueueStands (c c' : SpindleContext) : Prop where
  reading : c'.reading = c.reading
  inbox : c.reading = false → c.inbox = [] → c'.inbox = []

/-- **What an exchange leaves as it was**, whoever is called meanwhile. -/
structure SpindleContext.Stands (c c' : SpindleContext) : Prop extends c.QueueStands c' where
  statusOp : c'.statusOp = c.statusOp
  speedOp : c'.speedOp = c.speedOp

namespace SpindleContext

variable {c c' c'' : SpindleContext}

lemma QueueStands.refl (c : SpindleContext) : c.QueueStands c := ⟨rfl, fun _ h => h⟩

lemma QueueStands.trans (h : c.QueueStands c') (h' : c'.QueueStands c'') : c.QueueStands c'' where
  reading := h'.reading.trans h.reading
  inbox hr hi := h'.inbox (h.reading.trans hr) (h.inbox hr hi)

lemma Stands.refl (c : SpindleContext) : c.Stands c := ⟨.refl c, rfl, rfl⟩

lemma Stands.trans (h : c.Stands c') (h' : c'.Stands c'') : c.Stands c'' where
  toQueueStands := h.toQueueStands.trans h'.toQueueStands
  statusOp := h'.statusOp.trans h.statusOp
  speedOp := h'.speedOp.trans h.speedOp

end SpindleContext

/-- The call that a transport makes, as a host would make it. -/
def InnerCall.asHost? : InnerCall → Option HostCall
  | setState state rpm => some (.setState state rpm)
  | setSpeed rpm blocking => some (.setSpeed rpm blocking)
  | deliver reply => some (.deliver reply)
  | getData => some .getData
  | unsupported => none

namespace Surroundings.IsTaken

variable {World : Type} {env : Surroundings World} {s : Spindle} {c : SpindleContext} {w : World}

/-! ## Nothing that is sent comes back -/

lemma leads_exchange (h : env.IsTaken) (request : Request) (mode : SendMode) :
    Leads (exchange env request mode) (fun r _ _ => r = none) c w :=
  h request mode c w

lemma leads_sendOnce (h : env.IsTaken) (request : Request) :
    Leads (sendOnce (exchange env) request) (fun r _ _ => r = none) c w := by
  refine Operation.leads_sendOnce ((h.leads_exchange request .nonBlocking).mono ?_)
  rintro _ c w rfl
  rfl

/-- There is a first attempt, and it is the last thing that happens. -/
lemma leads_sendRepeatedly (h : env.IsTaken) (request : Request) (retries : Nat)
    (mark : Nat → SpindleContext → SpindleContext) :
    Leads (sendRepeatedly (exchange env) request retries fun n => update (mark n))
      (fun r _ _ => r = none) c w := by
  refine Operation.leads_sendRepeatedly (fun k _ _ _ => k = 0) rfl (fun k last c w _ _ => ?_)
    fun last c w hk => ?_
  · refine (h.leads_exchange request .blocking).mono ?_
    rintro _ c w rfl
    rfl
  · omega

lemma leads_exchangeSpeed (h : env.IsTaken) (request : Request) (blocking : Bool) :
    Leads (s.exchangeSpeed env request blocking) (fun r _ _ => r = none) c w := by
  rw [Spindle.exchangeSpeed]
  split
  · exact h.leads_sendRepeatedly request s.retries _
  · rw [leads_map]
    refine (h.leads_sendOnce request).mono ?_
    rintro _ c w rfl
    rfl

/-! ## What comes back was refused -/

/-- A speed is not sent unless it is refused. -/
lemma leads_sendSpeed (h : env.IsTaken) {onReply : Reply → Operation World Unit} (rpm : Binary32)
    (blocking : Bool) :
    Leads (s.sendSpeed env onReply rpm blocking)
      (fun r c' _ => ∀ a, r = some a → c' = c ∧ (Answer.outcome a).isExhausted = false) c w := by
  refine Operation.leads_sendSpeed (fun _ => ?_) (fun _ _ => ?_) fun _ _ => ?_
  · rintro a ⟨⟩
    exact ⟨rfl, rfl⟩
  · rintro a ⟨⟩
    exact ⟨rfl, rfl⟩
  · refine (h.leads_exchangeSpeed _ blocking).mono ?_
    rintro _ c w rfl
    simp

lemma leads_setState (h : env.IsTaken) (patience : Nat) (state : SpindleState) (rpm : Binary32) :
    Leads (s.setState env patience state rpm)
      (fun r c' w' => ∀ a, r = some a →
        c' = c ∧ w' = w ∧ (Answer.outcome a).isExhausted = false) c w := by
  refine Operation.leads_setState (fun _ => ?_) (fun _ _ => ?_) fun _ _ => ?_
  · rintro a ⟨⟩
    exact ⟨rfl, rfl, rfl⟩
  · rintro a ⟨⟩
    exact ⟨rfl, rfl, rfl⟩
  · refine (h.leads_sendRepeatedly _ _ _).mono ?_
    rintro _ c w rfl
    simp

lemma leads_heed (h : env.IsTaken) (finding : Finding) :
    Leads (s.heed env finding) (fun r c' _ => r.isSome = true → c' = c) c w := by
  refine Operation.leads_heed (Operation.leads_reissue (fun _ => by simp) fun rpm _ => ?_)
  refine (h.leads_sendSpeed rpm false).mono ?_
  rintro (_ | a) c' w' hc
  · simp
  · simp [(hc a rfl).1]

/-- Replies can be read as long as none of them makes the spindle send. -/
lemma leads_deliver (h : env.IsTaken) (patience : Nat) (reply : Reply) :
    Leads (s.deliver env patience reply) (fun r c' _ => r.isSome = true → c.Stands c') c w := by
  refine Operation.leads_deliver (fun hr _ => ⟨⟨rfl, by simp [hr]⟩, rfl, rfl⟩) fun hr => ?_
  refine leads_readReplies
    (fun c' _ => c'.statusOp = c.statusOp ∧ c'.speedOp = c.speedOp ∧ c'.reading = true)
    (fun _ _ _ => by simp) (fun c' w' hI => ?_) patience _ w ⟨rfl, rfl, rfl⟩
  obtain ⟨hstatus, hspeed, hreading⟩ := hI
  refine leads_readReply (fun hempty _ => ⟨⟨hr.symm, fun _ _ => hempty⟩, hstatus, hspeed⟩)
    fun reply rest _ => ?_
  refine (h.leads_heed _).mono ?_
  rintro (_ | _) c'' w'' hc
  · simp
  · obtain rfl := hc rfl
    exact ⟨hstatus, hspeed, hreading⟩

/-- **A call from inside an exchange leaves everything as it stands if it comes back**, and it does
not come back exhausted. -/
theorem leads_inner (h : env.IsTaken) (patience : Nat) {inner : InnerCall} {call : HostCall}
    (hcall : inner.asHost? = some call) :
    Leads (s.carryOut env patience call)
      (fun r c' _ => ∀ answer, r = some answer → c.Stands c' ∧ answer.isExhausted = false) c w := by
  cases inner <;> cases hcall <;> simp only [Spindle.carryOut, leads_map]
  case setState state rpm =>
    refine (h.leads_setState patience state rpm).mono ?_
    rintro (_ | a) c' w' hc
    · simp
    · obtain ⟨rfl, -, ha⟩ := hc a rfl
      rintro answer ⟨⟩
      exact ⟨.refl _, ha⟩
  case setSpeed rpm blocking =>
    refine (h.leads_sendSpeed rpm blocking).mono ?_
    rintro (_ | a) c' w' hc
    · simp
    · obtain ⟨rfl, ha⟩ := hc a rfl
      rintro answer ⟨⟩
      exact ⟨.refl _, ha⟩
  case deliver reply =>
    refine (h.leads_deliver patience reply).mono ?_
    rintro (_ | _) c' w' hc
    · simp
    · rintro answer ⟨⟩
      exact ⟨hc rfl, rfl⟩
  case getData =>
    rintro answer ⟨⟩
    exact ⟨.refl _, rfl⟩

end Surroundings.IsTaken

end SpindleDrive
