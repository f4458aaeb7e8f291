import SpindleDrive.Proofs.Workshop.Moments

/-!
# Replies that wait

A reply waits only while others are being read.  Whoever finds a spindle that is not reading, be it
the host between two calls or a transport in the middle of an exchange, finds its inbox empty, and
can take it that the next reply is read at once.

* `SpindleContext.IsTidy` — no reply waits unless others are being read.
* `Scene.Tidy` — so it is for all spindles, now and whenever a request was handed over.
* `Scene.Steady` — and one of them is reading, or is not, as it was.
* `leads_deliver_tidy` — a reply that is delivered leaves all this; it is the loop over the inbox
  that has to be looked at.
* **`Workshop.tidy_of_run`** — so it is at every moment of every run.
-/

namespace SpindleDrive

open Operation Surroundings

/-- **No reply waits** unless others are being read. -/
def SpindleContext.IsTidy (c : SpindleContext) : Prop := c.reading = false → c.inbox = []

variable {ι World : Type}

namespace Scene

/-- All spindles are tidy, and they were whenever a request was handed over. -/
structure Tidy (σ : Scene ι World) : Prop where
  now : ∀ j, (σ.contexts j).IsTidy
  past : ∀ i request mode contexts, .sending i request mode contexts ∈ σ.notes →
    ∀ j, (contexts j).IsTidy

/-- All spindles are tidy, and the one in hand is reading if `reading` says so. -/
def Steady [DecidableEq ι] (i : ι) (reading : Bool) (c : SpindleContext) (σ : Scene ι World) :
    Prop :=
  Scene.At Tidy i c σ ∧ c.reading = reading

namespace Tidy

variable {i j : ι} {σ : Scene ι World} {c c' : SpindleContext}

lemma world (h : σ.Tidy) (world : World) : Scene.Tidy { σ with world } := ⟨h.now, h.past⟩

/-- A note that shows no spindle. -/
lemma note (h : σ.Tidy) {n : Note ι}
    (hn : ∀ i request mode contexts, n ≠ .sending i request mode contexts) : (σ.note n).Tidy := by
  refine ⟨h.now, ?_⟩
  intro i request mode contexts hmem
  rcases List.mem_cons.1 hmem with hfirst | hmem
  · exact absurd hfirst.symm (hn i request mode contexts)
  · exact h.past i request mode contexts hmem

/-- A note that shows all of them as they are. -/
lemma sending (h : σ.Tidy) (i : ι) (request : Request) (mode : SendMode) :
    (σ.note (.sending i request mode σ.contexts)).Tidy := by
  refine ⟨h.now, ?_⟩
  intro j request' mode' contexts hmem
  rcases List.mem_cons.1 hmem with hfirst | hmem
  · obtain ⟨-, -, -, rfl⟩ := Note.sending.inj hfirst
    exact h.now
  · exact h.past j request' mode' contexts hmem

variable [DecidableEq ι]

lemma put (h : (σ.put i c).Tidy) (hc : c'.IsTidy) : (σ.put i c').Tidy := by
  refine ⟨fun j => ?_, h.past⟩
  by_cases hj : j = i
  · subst hj
    rwa [put_contexts_self]
  · have hnow := h.now j
    rw [put_contexts_of_ne _ hj] at hnow ⊢
    exact hnow

lemma isTidy (h : Scene.At Tidy i c σ) : c.IsTidy := by
  have hnow := h.now i
  rwa [put_contexts_self] at hnow

end Tidy

namespace Steady

variable [DecidableEq ι] {i : ι} {reading : Bool} {σ : Scene ι World} {c c' : SpindleContext}

/-- Another state that hears as before. -/
lemma put (h : Steady i reading c σ) (hinbox : c'.inbox = c.inbox)
    (hreading : c'.reading = c.reading) : Steady i reading c' σ := by
  refine ⟨Tidy.put h.1 ?_, hreading.trans h.2⟩
  intro hnot
  rw [hinbox]
  exact Tidy.isTidy h.1 (hreading.symm.trans hnot)

/-- While replies are being read any number of them may wait. -/
lemma queue (h : Steady i reading c σ) (hreading : c'.reading = true) : Steady i true c' σ := by
  refine ⟨Tidy.put h.1 fun hnot => ?_, hreading⟩
  simp [hreading] at hnot

end Steady

end Scene

namespace Workshop

open Scene

variable [DecidableEq ι] {shop : Workshop ι World} {patience : Nat} {j : ι} {σ : Scene ι World}

/-! ## One call -/

section

variable (send : Request → SendMode → SpindleContext → Scene ι World →
    Option Exchange × SpindleContext × Scene ι World)
  (bears : ∀ request reading, ({ shop.quiet j with send } : Surroundings (Scene ι World)).Bears
    (Steady j reading) (Scene.At Tidy j) request)

variable {reading : Bool} {onReply : Reply → Operation (Scene ι World) Unit}

/-- Around its exchanges a spindle changes nothing about its inbox. -/
lemma handles_steady
    (hreply : ∀ reply c σ, Steady j reading c σ →
      Leads (onReply reply) (SpindleDrive.Settled (Steady j reading) (Scene.At Tidy j)) c σ) :
    ({ shop.quiet j with send } : Surroundings (Scene ι World)).Handles onReply (Steady j reading)
      (Scene.At Tidy j) where
  ended _ _ h := h.1
  book _ _ _ hc h := h.put hc.inbox hc.reading
  raiseAlarm c σ h := ⟨Tidy.note (Tidy.world h.1 _) (by simp), h.2⟩
  reply := hreply

include bears

lemma carries_steady
    (hreply : ∀ reply c σ, Steady j reading c σ →
      Leads (onReply reply) (SpindleDrive.Settled (Steady j reading) (Scene.At Tidy j)) c σ) :
    ({ shop.quiet j with send } : Surroundings (Scene ι World)).Carries (shop.spindle j) onReply
      (Steady j reading) (Scene.At Tidy j) where
  toHandles := handles_steady send hreply
  program _ _ _ _ h := h.put rfl rfl
  send request _ _ := bears request reading

/-- One reply of the inbox. -/
lemma leads_readReply_tidy {c : SpindleContext} (h : Steady j true c σ) :
    Leads ((shop.spindle j).readReply { shop.quiet j with send }) (fun r c' σ' =>
      match r with
      | none => Scene.At Tidy j c' σ'
      | some false => Steady j false c' σ'
      | some true => Steady j true c' σ') c σ := by
  have hwaits (reply : Reply) (c : SpindleContext) (σ : Scene ι World) (h : Steady j true c σ) :
      Leads (Spindle.enqueue reply) (SpindleDrive.Settled (Steady j true) (Scene.At Tidy j))
        c σ :=
    (leads_enqueue reply).2 (h.queue h.2)
  have hcarries := carries_steady send bears hwaits
  refine leads_readReply (fun hempty => ?_) fun reply rest _ => ?_
  · exact ⟨Tidy.put h.1 fun _ => hempty, rfl⟩
  · have hnoted : Steady j true c
        (({ shop.quiet j with send } : Surroundings (Scene ι World)).journal reply
          ((shop.outside j).isColdStart σ.world) c σ) :=
      ⟨Tidy.note (Tidy.world h.1 _) (by simp), h.2⟩
    have htaken : Steady j true
        ((shop.spindle j).takeIn reply rest ((shop.outside j).isColdStart σ.world) c) _ :=
      hnoted.queue h.2
    refine (hcarries.toHandles.leads_heedWith _ (fun rpm _ _ => ?_) htaken).mono ?_
    · exact hcarries.leads_programmed rpm false (htaken.put rfl rfl)
    · rintro (_ | _) c' σ' hend
      · exact hend
      · exact hend

/-- **A reply that is delivered** leaves no other waiting unless replies were being read before. -/
lemma leads_deliver_tidy (reply : Reply) {c : SpindleContext} (h : Steady j reading c σ) :
    Leads ((shop.spindle j).deliver { shop.quiet j with send } patience reply)
      (SpindleDrive.Settled (Steady j reading) (Scene.At Tidy j)) c σ := by
  refine leads_deliver (fun hr => ?_) fun hr => ?_
  · obtain rfl : true = reading := hr.symm.trans h.2
    exact h.queue h.2
  · obtain rfl : false = reading := hr.symm.trans h.2
    refine leads_readReplies (Steady j true) (fun c σ h => h.1) (fun c σ h => ?_) patience _ σ
      (h.queue rfl)
    refine (leads_readReply_tidy send bears h).mono ?_
    rintro (_ | _ | _) c' σ' hend
    · exact hend
    · exact hend
    · exact hend

/-- So does every call. -/
lemma leads_carryOut_tidy (call : HostCall) {c : SpindleContext} (h : Scene.At Tidy j c σ) :
    Leads ((shop.spindle j).carryOut { shop.quiet j with send } patience call)
      (fun _ => Scene.At Tidy j) c σ := by
  have hreply : ∀ reply c' σ', Steady j c.reading c' σ' →
      Leads ((shop.spindle j).deliver { shop.quiet j with send } patience reply)
        (SpindleDrive.Settled (Steady j c.reading) (Scene.At Tidy j)) c' σ' :=
    fun reply _ _ h => leads_deliver_tidy send bears reply h
  have hcarries := carries_steady send bears hreply
  have hpermits : Upholds.Permits { shop.quiet j with send } (shop.spindle j)
      (Steady j c.reading) (Scene.At Tidy j) call := by
    refine Upholds.permits_of_heardAlike ?_ ?_ ?_ (fun _ _ => bears _ _) call
    · exact fun c c' σ hc h => h.put hc.inbox hc.reading
    · exact fun c σ h => ⟨Tidy.world h.1 _, h.2⟩
    · exact fun tolerance c σ h => ⟨Tidy.world h.1 _, h.2⟩
  rw [Spindle.carryOut_eq_with]
  refine (hcarries.leads_carryOutWith call hpermits (fun _ _ _ => ?_) ⟨h, rfl⟩).mono ?_
  · exact leads_sendOnce_settled (bears _ _ .nonBlocking) (Steady.put ⟨h, rfl⟩ rfl rfl)
  · rintro (_ | _) c' σ' hend
    · exact hend
    · exact hend.1

end

/-- Nothing that happens inside an exchange leaves a reply waiting. -/
lemma lasts_tidy : shop.Lasts (shop.driver patience) Tidy where
  inner j inner call σ _ h := by
    refine leads_carryOut_tidy (shop.quiet j).send (fun _ _ _ _ _ h => h.1) call ?_
    rwa [Scene.At, Scene.put_contexts]
  finish j request mode σ h := by
    rw [finish]
    split
    · exact Tidy.note (h.world _) (by simp)
    · exact h.world _

/-- Nor does an exchange, and if it ends the spindle is reading as it was. -/
lemma bears_steady (request : Request) (reading : Bool) :
    (shop.surroundingsWith (shop.driver patience) j).Bears (Steady j reading) (Scene.At Tidy j)
      request := by
  intro mode c σ h
  have hbegun : ((σ.put j c).note (.sending j request mode (σ.put j c).contexts)).Tidy :=
    Tidy.sending h.1 j request mode
  have hstands : Leads (Operation.exchange (shop.surroundings patience j) request mode)
      (fun r c' _ => r.isSome = true → c'.reading = c.reading) c σ := by
    refine leads_exchange (fun _ _ _ => by simp) ?_
    intro result c' σ' hstands _ _ _
    exact hstands.reading
  rw [surroundings_eq_with] at hstands
  refine ((lasts_tidy.leads_exchange hbegun).and hstands).mono ?_
  rintro (_ | _) c' σ' ⟨htidy, hreading⟩
  · exact htidy
  · exact ⟨htidy, (hreading rfl).trans h.2⟩

/-- **No call leaves a reply waiting**, whether it comes back or not. -/
lemma tidy_call (j : ι) (call : HostCall) (h : σ.Tidy) :
    (shop.call patience j call σ).2.Tidy := by
  have hcalled : (σ.note (.called j call)).Tidy := h.note (by simp)
  rw [call_eq_with]
  refine leads_carryOut_tidy (shop.surroundingsWith (shop.driver patience) j).send
    (fun request => bears_steady request) call ?_
  rwa [Scene.At, Scene.put_contexts]

/-! ## Runs -/

omit [DecidableEq ι] in
lemma IsNew.tidy {start : Scene ι World} (new : shop.IsNew start) : start.Tidy := by
  obtain ⟨hnotes, hmade⟩ := new
  refine ⟨fun j _ => ?_, by simp [hnotes]⟩
  obtain ⟨id, config, hmake⟩ := hmade j
  obtain ⟨-, -, hc⟩ := Spindle.make_eq_ok hmake
  rw [hc]

/-- **A spindle that is not reading has no reply waiting**, in any workshop, whatever the transports
answer and whomever they call meanwhile.  So it is between calls, wherever a call has got to that
never comes back, and whenever a request is handed over. -/
theorem tidy_of_run (shop : Workshop ι World) {start : Scene ι World} (new : shop.IsNew start)
    (ends : shop.Ends start σ) : σ.Tidy := by
  have hreached {σ : Scene ι World} (h : shop.Reaches start σ) : σ.Tidy := by
    induction h with
    | refl => exact new.tidy
    | outside world _ ih => exact ih.world world
    | call patience j call answer _ _ ih => exact tidy_call j call ih
  cases ends with
  | between h => exact hreached h
  | within h patience j call => exact tidy_call j call (hreached h)

end Workshop

end SpindleDrive
