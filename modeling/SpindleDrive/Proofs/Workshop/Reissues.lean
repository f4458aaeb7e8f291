import Mathlib.Data.Prod.Basic
import SpindleDrive.Proofs.Workshop.Ledger

/-!
# How often a speed is sent again

A refusal of a speed has the speed sent again, whether or not it is the one that fills the count of
refusals and alarms the host.  So the count bounds nothing: there are as many speeds as there are
refusals of them, and against a drive that refuses every speed at once the driver sends for ever.

* `Note.isUpdate`, `Note.isReissued` — a speed that nobody waits for, and the reading of a refusal
  that has one sent.
* **`Workshop.reissues_of_call`** — during a call there are as many of the one as of the other, and
  one more if the call is itself one for such a speed.
* `Surroundings.Refuses` — a drive that refuses every speed, at once.
* **`Refuses.leads_setSpeed`** — from such a drive no call for a speed ever comes back.
* `Workshop.contrary` — a drive that refuses some exchanges, at once; `contrary_never_ends` and
  `reissues_past_bound` are what becomes of a speed there.
-/

namespace SpindleDrive

open Operation

namespace Note

variable {ι : Type}

/-- Whether a speed is noted that is sent without waiting. -/
def isUpdate : Note ι → Bool
  | sending _ request mode _ => request.isUpdate mode
  | _ => false

/-- Whether the reading of a reply is noted that has a speed sent again. -/
def isReissued : Note ι → Bool
  | read _ reply coldStart before => before.isReissuedBy reply coldStart
  | _ => false

/-- Whether a reply that is read is a refusal, if the reading of one is noted. -/
def refused? : Note ι → Option Bool
  | read _ reply _ _ => some reply.isException
  | _ => none

/-- If nothing but speeds has a price, notes are worth the speeds that no reply has caused. -/
lemma sum_worth_updates (notes : List (Note ι)) :
    (notes.map (worth 0 1)).sum = notes.countP isUpdate - notes.countP isReissued := by
  induction notes with
  | nil => rfl
  | cons n rest ih =>
      rw [List.map_cons, List.sum_cons, ih, List.countP_cons, List.countP_cons]
      cases n with
      | sending i request mode contexts =>
          cases h : request.isUpdate mode
          · simp [worth, isUpdate, isReissued, h]
          · simp only [worth, isUpdate, isReissued, h, if_true, Bool.false_eq_true, if_false]
            omega
      | read i reply coldStart before =>
          cases h : before.isReissuedBy reply coldStart
          · simp [worth, isUpdate, isReissued, h]
          · simp only [worth, isUpdate, isReissued, h, if_true, ite_self, Bool.false_eq_true,
              if_false]
            omega
      | called | exchanged | alarm => simp [worth, isUpdate, isReissued]

end Note

namespace Workshop

variable {ι World : Type} [DecidableEq ι]

/-- **How often a speed is sent again.**  In any workshop, whatever the transports answer and
whomever they call meanwhile, a call by the host that comes back has sent a speed without waiting
once for each refusal of a speed that was read during it, outside a cold start and with the spindle
free to send, and once more if it is itself a call for such a speed that is not refused.  How many
refusals make an alarm does not matter. -/
theorem reissues_of_call (shop : Workshop ι World) (patience : Nat) (i : ι) (call : HostCall)
    (σ σ' : Scene ι World) (answer : Answer)
    (back : shop.call patience i call σ = (some answer, σ')) :
    ∃ made, σ'.notes = made ++ σ.notes ∧
      made.countP Note.isUpdate =
        made.countP Note.isReissued + if call.isUpdate (σ.contexts i) then 1 else 0 := by
  obtain ⟨made, hnotes, hsum, -⟩ := shop.balance_of_call patience i call σ σ' answer 0 1 back
  refine ⟨made, hnotes, ?_⟩
  rw [Note.sum_worth_updates, ite_self, Int.zero_add] at hsum
  cases hupdate : call.isUpdate (σ.contexts i)
  · simp only [hupdate, Bool.false_eq_true, if_false] at hsum ⊢
    omega
  · simp only [hupdate, if_true] at hsum ⊢
    omega

end Workshop

/-! ## A drive that refuses every speed -/

/-- **A drive that refuses every speed**, at once and outside a cold start. -/
structure Surroundings.Refuses {World : Type} (env : Surroundings World) : Prop where
  send : ∀ request mode c w, request.kind = .setSpeed → ∃ code w',
    env.send request mode c w = (some (.ok (some (.exception .setSpeed code))), c, w')
  warm : ∀ w, env.isColdStart w = false

/-- Once a speed has been sent, the next can be. -/
lemma SpindleContext.sendsSpeed_of_idle {c c' : SpindleContext} (h : c.sendsSpeed = true)
    (hselection : c'.selection = c.selection) (hidle : c'.speedOp = .idle) :
    c'.sendsSpeed = true := by
  rw [sendsSpeed, isSelected] at h ⊢
  rw [hselection, hidle]
  rw [Bool.and_eq_true] at h
  simp [h.1, OperationState.isBusy]

namespace Surroundings.Refuses

variable {World : Type} {env : Surroundings World} {s : Spindle} {c : SpindleContext} {w : World}

/-- Whoever sends a speed has a refusal to deal with. -/
lemma leads_sendSpeed (h : env.Refuses) {onReply : Reply → Operation World Unit} {rpm : Binary32}
    {blocking : Bool} {Q : Option (Except DriverError Unit) → SpindleContext → World → Prop}
    (hsends : c.sendsSpeed = true)
    (refused : ∀ code w', Leads (onReply (.exception .setSpeed code))
      (fun r c w => Q (r.map .ok) c w) (c.endSpeed rpm (env.tolerance w') .idle) w') :
    Leads (s.sendSpeed env onReply rpm blocking) Q c w := by
  obtain ⟨hselected, hidle⟩ : c.isSelected = true ∧ c.speedOp.isBusy = false := by
    simpa [SpindleContext.sendsSpeed] using hsends
  refine leads_sendSpeed_answered (fun reply _ => ∃ code, reply = .exception .setSpeed code)
    hselected hidle (fun mode => ?_) ?_
  · rw [leads_exchange]
    obtain ⟨code, w', hsend⟩ := h.send
      (.speed c.address s.registers (s.reader.scale.toCode rpm)) mode
      { c with speedOp := .sending } w rfl
    rw [hsend]
    exact ⟨_, rfl, rfl, code, rfl⟩
  · rintro _ w' ⟨code, rfl⟩
    exact refused code w'

/-- **Reading a refusal leaves another one to read**: this is the invariant of a loop that never
ends. -/
lemma leads_readReplies (h : env.Refuses) (patience : Nat) {code : ExceptionCode}
    (hsends : c.sendsSpeed = true) (hinbox : c.inbox = [.exception .setSpeed code]) :
    Leads (s.readReplies env patience) (fun r _ _ => r = none) c w := by
  refine Operation.leads_readReplies
    (fun c _ => c.sendsSpeed = true ∧ ∃ code, c.inbox = [.exception .setSpeed code])
    (fun _ _ _ => rfl) ?_ patience c w ⟨hsends, code, hinbox⟩
  rintro c w ⟨hsends, code, hinbox⟩
  refine leads_readReply (fun hempty => by simp [hinbox] at hempty) fun reply rest hqueue => ?_
  obtain ⟨rfl, rfl⟩ : .exception .setSpeed code = reply ∧ [] = rest := by
    simpa [hinbox] using hqueue
  rw [h.warm]
  refine leads_heed (leads_reissue (fun hnone => ?_) fun rpm _ => ?_)
  · simp [ReplyReader.read, ReplyReader.readException, Finding.reissue?, Reply.exception] at hnone
  · refine h.leads_sendSpeed hsends fun code w' => (leads_enqueue _).2 ?_
    exact ⟨SpindleContext.sendsSpeed_of_idle hsends rfl rfl, code, rfl⟩

/-- **No call for a speed comes back** from such a drive, whether its caller waits or not and
however patient it is. -/
theorem leads_setSpeed (h : env.Refuses) (patience : Nat) (rpm : Binary32) (blocking : Bool)
    (hsends : c.sendsSpeed = true) (hreading : c.reading = false) (hinbox : c.inbox = []) :
    Leads (s.setSpeed env patience rpm blocking) (fun r _ _ => r = none) c w := by
  refine Operation.leads_setSpeed (h.leads_sendSpeed hsends fun code w' => ?_)
  have hnext (data : SpeedData) (inbox : List Reply) (reading : Bool) :
      SpindleContext.sendsSpeed { c with data, speedOp := .idle, inbox, reading } = true :=
    SpindleContext.sendsSpeed_of_idle hsends rfl rfl
  have hqueue : c.inbox ++ [Reply.exception .setSpeed code] = [.exception .setSpeed code] := by
    rw [hinbox, List.nil_append]
  refine leads_deliver (fun hbusy => ?_) fun _ => ?_
  · have hread : c.reading = true := hbusy
    simp [hreading] at hread
  · refine (h.leads_readReplies patience (hnext _ _ _) hqueue).mono ?_
    rintro _ c w rfl
    rfl

end Surroundings.Refuses

namespace Workshop

/-! ## A workshop with such a drive -/

/-- One spindle on a bus that hands over every reply at once.  The drive refuses some exchanges,
which are counted, and echoes the others. -/
def contrary (refuses : Nat → Bool) : Workshop Unit Nat where
  spindle _ := Spindle.sample.1
  outside _ :=
    { isUp _ := true
      silence count := count
      send request _ c count :=
        let reply := if refuses count then .exception request.kind .slaveDeviceBusy
          else ⟨request.kind, .response request.frame⟩
        (some (.ok (some reply)), c, count + 1)
      elapsed _ := 0
      isColdStart _ := false
      journal _ _ _ count := count
      raiseAlarm count := count
      tolerance _ := .zero
      setTolerance _ count := count }
  calls _ _ _ _ := []

/-- The spindle is selected, and nothing has been sent. -/
def contraryStart : Scene Unit Nat where
  contexts _ := Spindle.sampleSelected
  world := 0

/-- **Against a drive that refuses everything the spindle sends for ever.** -/
theorem contrary_never_ends (patience : Nat) (rpm : Binary32) (blocking : Bool) :
    ((contrary fun _ => true).call patience () (.setSpeed rpm blocking) contraryStart).1 =
      none := by
  have hrefuses : ((contrary fun _ => true).surroundings patience ()).Refuses := by
    refine ⟨fun request mode c σ hspeed => ?_, fun _ => rfl⟩
    let sent := ((contrary fun _ => true).surroundings patience ()).send request mode c σ
    have hresult : sent.1 = some (.ok (some (.exception .setSpeed .slaveDeviceBusy))) := by
      rw [← hspeed]
      rfl
    have hcontext : sent.2.1 = c := by
      show (σ.put () c).contexts () = c
      exact Scene.put_contexts_self σ () c
    exact ⟨.slaveDeviceBusy, sent.2.2, Prod.ext hresult (Prod.ext hcontext rfl)⟩
  have hnever := hrefuses.leads_setSpeed (s := Spindle.sample.1) (c := Spindle.sampleSelected)
    (w := contraryStart.note (.called () (.setSpeed rpm blocking))) patience rpm blocking
    rfl rfl rfl
  have hcall : Leads ((contrary fun _ => true).spindle () |>.carryOut
      ((contrary fun _ => true).surroundings patience ()) patience (.setSpeed rpm blocking))
      (fun r _ _ => r = none) Spindle.sampleSelected
      (contraryStart.note (.called () (.setSpeed rpm blocking))) := by
    rw [Spindle.carryOut, leads_map]
    refine hnever.mono ?_
    rintro _ c σ rfl
    rfl
  exact hcall

/-- A drive that refuses its first five exchanges has the driver send a speed five times more, and
once for the call. -/
theorem reissues_of_contrary_call :
    ∃ σ' made, (contrary (· < 5)).call 9 () (.setSpeed (.ofNat 600) false) contraryStart =
        (some (.outcome (.ok ())), σ') ∧
      σ'.notes = made ++ contraryStart.notes ∧
      made.countP Note.isUpdate = made.countP Note.isReissued + 1 := by
  obtain ⟨σ', back⟩ : ∃ σ', (contrary (· < 5)).call 9 () (.setSpeed (.ofNat 600) false)
      contraryStart = (some (.outcome (.ok ())), σ') := ⟨_, Prod.fst_eq_iff.1 (by decide +kernel)⟩
  obtain ⟨made, hmade, hreissues⟩ := reissues_of_call _ _ _ _ _ _ _ back
  exact ⟨σ', made, back, hmade, hreissues⟩

/-- **The bound of the count is no bound of the chain**: with a count of two the speed is sent again
five times on five refusals in a row, the last reply alone being none. -/
theorem reissues_past_bound :
    Spindle.sample.1.retries = 2 ∧
      ∃ σ', (contrary (· < 5)).call 9 () (.setSpeed (.ofNat 600) false) contraryStart =
          (some (.outcome (.ok ())), σ') ∧
        σ'.notes.filterMap Note.refused? = [false, true, true, true, true, true] ∧
        σ'.notes.countP Note.isReissued = 5 := by
  exact ⟨rfl, _, Prod.fst_eq_iff.1 (by decide +kernel), by decide +kernel, by decide +kernel⟩

end Workshop

end SpindleDrive
