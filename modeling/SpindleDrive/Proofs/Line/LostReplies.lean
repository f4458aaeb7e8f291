import SpindleDrive.Proofs.Line.ClosedLoop
import SpindleDrive.Proofs.Operation.Upkeep

/-!
# Replies that are lost

An attempt that fails may have reached the drive, and only the reply was lost.  Then the next
attempt has the drive do the same once more.  This is harmless, since of all that a command word can
ask for a driver leaves out what adds up: turning the direction round, and resetting faults.

* `Request.IsDriverWrite` — the writes that a driver sends, to drives of any model at any address.
* `SimulatedDrive.handleAll` — one frame after the other.
* `Request.IsDriverWrite.handled` — a drive passes a write over, or follows it and stays as it is
  when it comes again.
* `BusView.Comes`, `Surroundings.LosesReplies` — a bus on which a failed request may have been
  heard.
* `LosesReplies.leads_sendRepeatedly`, `LosesReplies.leads_deliver` — a row of attempts, and the
  replies after it.
* `FlakyBus` — a bus with a script of what is lost.
* **`repeated_writes`** — however often a write is repeated, it is as if the drive had heard it
  once; and so a command that comes back well leaves the drive as its two frames do.
-/

namespace SpindleDrive

open Operation

/-! ## Writes -/

/-- A write that a driver sends: a command to run or stop, or a speed. -/
inductive Request.IsDriverWrite : Request → Prop where
  | command (address : UInt8) (m : DriveModel) (state : SpindleState) (rpm : Binary32) :
    IsDriverWrite
      (.command address m.registers (.run (.forRequest state.on rpm) (.ofCcw state.ccw)))
  | speed (address : UInt8) (m : DriveModel) (scale : SpeedScale) (rpm : Binary32) :
    IsDriverWrite (.speed address m.registers (scale.toCode rpm))

/-- All models take commands and frequencies in the same registers. -/
lemma DriveModel.write_registers (m m' : DriveModel) :
    m.registers.command = m'.registers.command ∧
      m.registers.frequency = m'.registers.frequency := by
  cases m <;> cases m' <;> exact ⟨rfl, rfl⟩

namespace SimulatedDrive

/-- Answers frames one after the other. -/
def handleAll (d : SimulatedDrive) : List Frame → List (Option Frame) × SimulatedDrive
  | [] => ([], d)
  | frame :: rest =>
    let (reply, d) := d.handle frame
    let (replies, d) := d.handleAll rest
    (reply :: replies, d)

variable {d : SimulatedDrive} {frame : Frame}

lemma handleAll_cons (d : SimulatedDrive) (frame : Frame) (rest : List Frame) :
    d.handleAll (frame :: rest) =
      ((d.handle frame).1 :: ((d.handle frame).2.handleAll rest).1,
        ((d.handle frame).2.handleAll rest).2) :=
  rfl

/-- Frames one after the other, in two parts. -/
lemma handleAll_append (d : SimulatedDrive) (frames more : List Frame) :
    d.handleAll (frames ++ more) =
      ((d.handleAll frames).1 ++ ((d.handleAll frames).2.handleAll more).1,
        ((d.handleAll frames).2.handleAll more).2) := by
  induction frames generalizing d with
  | nil => rfl
  | cons frame rest ih =>
      rw [List.cons_append, handleAll_cons, ih]
      rfl

/-- A write for another drive is passed over. -/
lemma handle_writeFrame_of_address_ne {address : UInt8} (h : d.address ≠ address)
    (register value : UInt16) : d.handle (writeFrame address register value) = (none, d) := by
  rw [handle, writeFrame_eq, Frame.message_address, if_pos (Ne.symm h)]

/-- A frame that changes nothing changes nothing any number of times. -/
lemma handleAll_replicate_of_fixed {reply : Option Frame} (h : d.handle frame = (reply, d))
    (n : Nat) : d.handleAll (List.replicate n frame) = (List.replicate n reply, d) := by
  induction n with
  | zero => rfl
  | succ n ih => rw [List.replicate_succ, handleAll_cons, h, ih, List.replicate_succ]

/-- A frame that changes nothing the second time changes nothing any later time. -/
lemma handleAll_replicate (h : (d.handle frame).2.handle frame = d.handle frame) {n : Nat}
    (hn : 0 < n) :
    d.handleAll (List.replicate n frame) =
      (List.replicate n (d.handle frame).1, (d.handle frame).2) := by
  obtain ⟨n, rfl⟩ : ∃ k, n = k + 1 := ⟨n - 1, by omega⟩
  have hfixed : (d.handle frame).2.handle frame = ((d.handle frame).1, (d.handle frame).2) := h
  rw [List.replicate_succ, handleAll_cons, handleAll_replicate_of_fixed hfixed,
    List.replicate_succ]

end SimulatedDrive

/-- **A write is passed over, or it is followed** in such a way that the drive stays as it is when
the write comes again. -/
lemma Request.IsDriverWrite.handled {request : Request} (h : request.IsDriverWrite)
    {d : SimulatedDrive} {m : DriveModel} (hmodel : d.registers = m.registers) :
    d.handle request.frame = (none, d) ∨ ∃ d', Writes request d d' ∧ Writes request d' d' := by
  cases h with
  | command address m' state rpm =>
      have hrequest (word : CommandWord) :
          Request.command address m'.registers word = .command address m.registers word := by
        rw [Request.command, Request.command, (m'.write_registers m).1]
      by_cases haddress : d.address = address
      · rw [hrequest]
        exact .inr ⟨_, writes_command haddress hmodel state rpm,
          writes_command (d := d.runAs state rpm) haddress hmodel state rpm⟩
      · exact .inl (SimulatedDrive.handle_writeFrame_of_address_ne haddress _ _)
  | speed address m' scale rpm =>
      have hrequest : Request.speed address m'.registers (scale.toCode rpm) =
          .speed address m.registers (scale.toCode rpm) := by
        rw [Request.speed, Request.speed, (m'.write_registers m).2]
      by_cases haddress : d.address = address
      · rw [hrequest]
        exact .inr ⟨_, writes_speed haddress hmodel m.frequency_ne_command _,
          writes_speed (d := { d with frequency := scale.toCode rpm }) haddress hmodel
            m.frequency_ne_command _⟩
      · exact .inl (SimulatedDrive.handle_writeFrame_of_address_ne haddress _ _)

/-- **A write that comes again** gets the same reply and changes nothing. -/
lemma Request.IsDriverWrite.handle_again {request : Request} (h : request.IsDriverWrite)
    {d : SimulatedDrive} {m : DriveModel} (hmodel : d.registers = m.registers) :
    (d.handle request.frame).2.handle request.frame = d.handle request.frame := by
  rcases h.handled hmodel with hpassed | ⟨d', hwrites, hagain⟩
  · rw [hpassed]
    exact hpassed
  · rw [hwrites.handle]
    exact hagain.handle

/-- The two frames of a command to start or stop, the state first and then the speed. -/
def Spindle.commandFrames (s : Spindle) (address : UInt8) (state : SpindleState)
    (rpm : Binary32) : List Frame :=
  [(Request.command address s.registers
      (.run (.forRequest state.on rpm) (.ofCcw state.ccw))).frame,
    (Request.speed address s.registers (s.reader.scale.toCode rpm)).frame]

/-! ## A bus that loses replies -/

variable {World : Type}

/-- What can be seen of a bus: its drive, and how many refusals there have been. -/
structure BusView (World : Type) where
  drive : World → SimulatedDrive
  refusals : World → Nat

/-- **What an exchange comes to** on a bus that may lose a request, or the reply to it.  A refusal
is counted, and what else comes of it is left open. -/
inductive BusView.Comes (bus : BusView World) (request : Request) (w : World) :
    Option Exchange → World → Prop where
  | endless {w' : World} (refusals : bus.refusals w' = bus.refusals w) : Comes bus request w none w'
  | unheard {w' : World} (e : TransportError) (refusals : bus.refusals w' = bus.refusals w)
      (drive : bus.drive w' = bus.drive w) : Comes bus request w (some (.error e)) w'
  | unanswered {w' : World} (e : TransportError) (refusals : bus.refusals w' = bus.refusals w)
      (drive : bus.drive w' = ((bus.drive w).handle request.frame).2) :
      Comes bus request w (some (.error e)) w'
  | refused {w' : World} (result : Option Exchange)
      (refusals : bus.refusals w' = bus.refusals w + 1) : Comes bus request w result w'
  | answered {w' : World} {frame : Frame} {reply? : Option Reply}
      (refusals : bus.refusals w' = bus.refusals w)
      (handle : (bus.drive w).handle request.frame = (some frame, bus.drive w'))
      (reply : ∀ reply, reply? = some reply → reply = ⟨request.kind, .response frame⟩) :
      Comes bus request w (some (.ok reply?)) w'

/-- Refusals are never taken back. -/
lemma BusView.Comes.refusals_le {bus : BusView World} {request : Request} {w w' : World}
    {result : Option Exchange} (h : bus.Comes request w result w') :
    bus.refusals w ≤ bus.refusals w' := by
  cases h with
  | endless hrefusals | unheard _ hrefusals | unanswered _ hrefusals | answered hrefusals =>
      exact Nat.le_of_eq hrefusals.symm
  | refused _ hrefusals =>
      rw [hrefusals]
      exact Nat.le_succ _

/-- **A bus that loses replies**, and does nothing else to the spindle or the drive. -/
structure Surroundings.LosesReplies (env : Surroundings World) (bus : BusView World) : Prop where
  apart : ∀ request mode c w, (env.send request mode c w).2.1 = c
  send : ∀ request mode c w,
    bus.Comes request w (env.send request mode c w).1 (env.send request mode c w).2.2
  journal : ∀ reply coldStart c w, bus.drive (env.journal reply coldStart c w) = bus.drive w ∧
    bus.refusals (env.journal reply coldStart c w) = bus.refusals w
  raiseAlarm : ∀ w, bus.drive (env.raiseAlarm w) = bus.drive w ∧
    bus.refusals (env.raiseAlarm w) = bus.refusals w

namespace Surroundings.LosesReplies

variable {env : Surroundings World} {bus : BusView World} {s : Spindle} {c : SpindleContext}
  {w : World} {m : DriveModel} {patience : Nat}

/-- Once there have been too many refusals, there are too many for good. -/
lemma spares (h : env.LosesReplies bus) (n : Nat) : env.Spares (n < bus.refusals ·) where
  send request mode c w hlt := Nat.lt_of_lt_of_le hlt (h.send request mode c w).refusals_le
  journal reply coldStart c w hlt := by rwa [(h.journal reply coldStart c w).2]
  raiseAlarm w hlt := by rwa [(h.raiseAlarm w).2]

lemma alarmIf (h : env.LosesReplies bus) (escalates : Bool) (w : World) :
    bus.drive (if escalates then env.raiseAlarm w else w) = bus.drive w ∧
      bus.refusals (if escalates then env.raiseAlarm w else w) = bus.refusals w := by
  cases escalates with
  | false => exact ⟨rfl, rfl⟩
  | true => exact h.raiseAlarm w

/-- **A row of attempts at a write** that succeeds without a refusal has the drive as if it had
heard the write once.  `P` is what the marks of the attempts leave alone. -/
lemma leads_sendRepeatedly (h : env.LosesReplies bus) {request : Request}
    (hwrite : request.IsDriverWrite) (hmodel : (bus.drive w).registers = m.registers)
    (P : SpindleContext → Prop) {mark : Nat → SpindleContext → SpindleContext} {retries : Nat}
    (hP : P c) (hmark : ∀ n c, P c → P (mark n c)) :
    Leads (sendRepeatedly (exchange env) request retries fun n => update (mark n))
      (fun result c' w' => P c' ∧ bus.refusals w ≤ bus.refusals w' ∧
        (bus.refusals w' = bus.refusals w → ∀ reply?, result = some (.ok reply?) →
          bus.drive w' = ((bus.drive w).handle request.frame).2 ∧
            ∀ reply, reply? = some reply → reply.isException = false)) c w := by
  -- while attempts fail, the drive has heard nothing or what amounts to one write
  refine Operation.leads_sendRepeatedly (fun _ _ c' w' => P c' ∧
    bus.refusals w ≤ bus.refusals w' ∧ (bus.refusals w' = bus.refusals w →
      bus.drive w' = bus.drive w ∨ bus.drive w' = ((bus.drive w).handle request.frame).2)) ?_ ?_ ?_
  · exact ⟨hP, Nat.le_refl _, fun _ => .inl rfl⟩
  · rintro k last c' w' - ⟨hP', hle, hheard⟩
    have hsame (hclean : bus.refusals w' = bus.refusals w) :
        ((bus.drive w').handle request.frame).2 = ((bus.drive w).handle request.frame).2 := by
      rcases hheard hclean with hdrive | hdrive
      · rw [hdrive]
      · rw [hdrive, hwrite.handle_again hmodel]
    have happart := h.apart request .blocking c' w'
    have hcomes := h.send request .blocking c' w'
    rw [leads_exchange]
    generalize env.send request .blocking c' w' = sent at happart hcomes ⊢
    obtain ⟨result, c'', w''⟩ := sent
    obtain rfl : c'' = c' := happart
    cases hcomes with
    | endless hrefusals => exact ⟨hP', by omega, by rintro - _ ⟨⟩⟩
    | unheard e hrefusals hdrive =>
        refine ⟨hmark _ _ hP', by omega, fun hclean => ?_⟩
        rw [hdrive]
        exact hheard (hrefusals.symm.trans hclean)
    | unanswered e hrefusals hdrive =>
        refine ⟨hmark _ _ hP', by omega, fun hclean => .inr ?_⟩
        rw [hdrive]
        exact hsame (hrefusals.symm.trans hclean)
    | refused _ hrefusals =>
        have hmore : bus.refusals w < bus.refusals w'' :=
          Nat.lt_of_le_of_lt hle (Nat.lt_of_lt_of_eq (Nat.lt_succ_self _) hrefusals.symm)
        have hne : bus.refusals w'' ≠ bus.refusals w := Nat.ne_of_gt hmore
        rcases result with _ | e | reply?
        · exact ⟨hP', Nat.le_of_lt hmore, fun hclean => absurd hclean hne⟩
        · exact ⟨hmark _ _ hP', Nat.le_of_lt hmore, fun hclean => absurd hclean hne⟩
        · exact ⟨hP', Nat.le_of_lt hmore, fun hclean => absurd hclean hne⟩
    | answered hrefusals hhandle hreply =>
        refine ⟨hP', by omega, ?_⟩
        rintro hclean _ ⟨⟩
        refine ⟨?_, fun reply hsome => ?_⟩
        · rw [← hsame (hrefusals.symm.trans hclean), hhandle]
        · rw [hreply reply hsome]
          rfl
  · rintro last c' w' ⟨hP', hle, -⟩
    exact ⟨hP', hle, by rintro - _ ⟨⟩⟩

/-- **Replies that are no refusals** leave the bus alone, however many of them wait. -/
lemma leads_deliver (h : env.LosesReplies bus) {reply : Reply}
    (hreply : reply.isException = false)
    (hinbox : ∀ reply ∈ c.inbox, reply.isException = false) :
    Leads (s.deliver env patience reply) (fun _ c' w' => bus.drive w' = bus.drive w ∧
      bus.refusals w' = bus.refusals w ∧ c'.address = c.address ∧
      ∀ reply ∈ c'.inbox, reply.isException = false) c w := by
  have hqueue : ∀ reply' ∈ c.inbox ++ [reply], reply'.isException = false :=
    List.forall_mem_append.2 ⟨hinbox, List.forall_mem_singleton.2 hreply⟩
  refine Operation.leads_deliver (fun _ => ⟨rfl, rfl, rfl, hqueue⟩) fun _ => ?_
  refine leads_readReplies (fun c' w' => bus.drive w' = bus.drive w ∧
    bus.refusals w' = bus.refusals w ∧ c'.address = c.address ∧
    ∀ reply ∈ c'.inbox, reply.isException = false) (fun _ _ hI => hI) ?_ _ _ _
    ⟨rfl, rfl, rfl, hqueue⟩
  rintro c' w' ⟨hdrive, hrefusals, haddress, hcalm⟩
  refine leads_readReply (fun _ => ⟨hdrive, hrefusals, haddress, hcalm⟩) fun first rest hfirst => ?_
  have hnone : first.isException = false := hcalm first (hfirst ▸ List.mem_cons_self)
  have hrest : ∀ reply ∈ rest, reply.isException = false :=
    fun reply hmem => hcalm reply (hfirst ▸ List.mem_cons_of_mem _ hmem)
  obtain ⟨hdrive', hrefusals'⟩ := h.journal first (env.isColdStart w') c' w'
  refine leads_heed (leads_reissue (fun _ => ?_) fun rpm hrpm => ?_)
  · obtain ⟨hdrive'', hrefusals''⟩ := h.alarmIf _ _
    exact ⟨hdrive''.trans (hdrive'.trans hdrive), hrefusals''.trans (hrefusals'.trans hrefusals),
      haddress, hrest⟩
  · obtain ⟨code, rfl⟩ := ReplyReader.exists_exception_of_reissue? hrpm
    simp [Reply.isException] at hnone

/-- **The speed that follows a command.** -/
lemma leads_setSpeed (h : env.LosesReplies bus) (hmodel : (bus.drive w).registers = m.registers)
    (hinbox : ∀ reply ∈ c.inbox, reply.isException = false) (rpm : Binary32) :
    Leads (s.setSpeed env patience rpm true)
      (fun result _ w' => result = some (.ok ()) → bus.refusals w' = bus.refusals w →
        bus.drive w' = ((bus.drive w).handle
          (Request.speed c.address s.registers (s.reader.scale.toCode rpm)).frame).2) c w := by
  refine Operation.leads_setSpeed (Operation.leads_sendSpeed (fun _ => by rintro ⟨⟩)
    (fun _ _ => by rintro ⟨⟩) fun _ _ => ?_)
  rw [Spindle.exchangeSpeed, if_pos rfl]
  have hwrite : (Request.speed c.address s.registers (s.reader.scale.toCode rpm)).IsDriverWrite :=
    .speed c.address s.config.model s.reader.scale rpm
  refine (h.leads_sendRepeatedly (c := { c with speedOp := .sending }) hwrite hmodel
    (fun c' => c'.inbox = c.inbox) rfl ?_).mono ?_
  · exact fun _ _ hP => hP
  rintro (_ | e | _ | reply) c₁ w₁ ⟨hinbox₁, hle, hsent⟩
  · rintro ⟨⟩
  · rintro ⟨⟩
  · exact fun _ hclean => (hsent hclean none rfl).1
  by_cases hclean : bus.refusals w₁ = bus.refusals w
  case pos =>
    obtain ⟨hdrive, hreply⟩ := hsent hclean (some reply) rfl
    have hwaiting : ∀ reply ∈ c₁.inbox, reply.isException = false := by
      rw [hinbox₁]
      exact hinbox
    refine (h.leads_deliver (c := c₁.endSpeed rpm _ _) (hreply reply rfl) hwaiting).mono ?_
    rintro _ c₂ w₂ ⟨hdrive₂, -⟩ _ _
    exact hdrive₂.trans hdrive
  case neg =>
    have hmore : bus.refusals w < bus.refusals w₁ :=
      Nat.lt_of_le_of_ne hle (Ne.symm hclean)
    refine (((h.spares _).upholds s).leads_deliver patience reply hmore).mono ?_
    rintro (_ | _) c₂ w₂ hmore₂ _ hclean₂
    · exact absurd hclean₂ (Nat.ne_of_gt hmore₂)
    · exact absurd hclean₂ (Nat.ne_of_gt hmore₂)

/-- **A command over a bus that loses replies**: if it comes back well, and nothing was refused, the
drive is as if each of the two frames had come once. -/
lemma leads_setState (h : env.LosesReplies bus) (hmodel : (bus.drive w).registers = m.registers)
    (hinbox : ∀ reply ∈ c.inbox, reply.isException = false) (patience : Nat)
    (state : SpindleState) (rpm : Binary32) :
    Leads (s.setState env patience state rpm)
      (fun result _ w' => result = some (.ok ()) → bus.refusals w' = bus.refusals w →
        bus.drive w' = ((bus.drive w).handleAll (s.commandFrames c.address state rpm)).2) c w := by
  refine Operation.leads_setState (fun _ => by rintro ⟨⟩) (fun _ _ => by rintro ⟨⟩) fun _ _ => ?_
  have hwrite : (Request.command c.address s.registers
      (.run (.forRequest state.on rpm) (.ofCcw state.ccw))).IsDriverWrite :=
    .command c.address s.config.model state rpm
  refine (h.leads_sendRepeatedly (c := c.takeCommand state) hwrite hmodel
    (fun c' => c'.inbox = c.inbox ∧ c'.address = c.address) ⟨rfl, rfl⟩ ?_).mono ?_
  · exact fun _ _ hP => hP
  rintro (_ | e | reply?) c₁ w₁ ⟨⟨hinbox₁, haddress₁⟩, hle, hsent⟩
  · rintro ⟨⟩
  · rintro ⟨⟩
  by_cases hclean : bus.refusals w₁ = bus.refusals w
  case neg =>
    have hmore : bus.refusals w < bus.refusals w₁ :=
      Nat.lt_of_le_of_ne hle (Ne.symm hclean)
    have hupholds := (h.spares (bus.refusals w)).upholds s
    refine (hupholds.leads_deliverAny patience reply? hmore).mono ?_
    rintro (_ | _) c₂ w₂ hmore₂
    · rintro ⟨⟩
    refine (hupholds.leads_setSpeed patience rpm true hmore₂).mono ?_
    rintro (_ | _) c₃ w₃ hmore₃ _ hclean₃
    · exact absurd hclean₃ (Nat.ne_of_gt hmore₃)
    · exact absurd hclean₃ (Nat.ne_of_gt hmore₃)
  obtain ⟨hdrive, hreply⟩ := hsent hclean reply? rfl
  have hmodel₁ : (bus.drive w₁).registers = m.registers := by
    rw [hdrive, SimulatedDrive.handle_registers, hmodel]
  have hwaiting : ∀ reply ∈ c₁.inbox, reply.isException = false := by
    rw [hinbox₁]
    exact hinbox
  -- with a reply to deliver or without, the speed goes to a drive that has heard the command
  have hspeed {c₂ : SpindleContext} {w₂ : World} (hdrive₂ : bus.drive w₂ = bus.drive w₁)
      (hrefusals₂ : bus.refusals w₂ = bus.refusals w₁) (haddress₂ : c₂.address = c₁.address)
      (hwaiting₂ : ∀ reply ∈ c₂.inbox, reply.isException = false) :
      Leads (s.setSpeed env patience rpm true)
        (fun result _ w' => result = some (.ok ()) → bus.refusals w' = bus.refusals w →
          bus.drive w' =
            ((bus.drive w).handleAll (s.commandFrames c.address state rpm)).2) c₂ w₂ := by
    refine (h.leads_setSpeed (hdrive₂ ▸ hmodel₁) hwaiting₂ rpm).mono ?_
    intro result c₃ w₃ hset hok hclean₃
    rw [hset hok (hclean₃.trans (hrefusals₂.trans hclean).symm), hdrive₂, hdrive, haddress₂,
      haddress₁]
    simp only [Spindle.commandFrames, SimulatedDrive.handleAll]
  refine leads_deliverAny (fun _ => hspeed rfl rfl rfl hwaiting) fun reply hsome => ?_
  refine (h.leads_deliver (c := { c₁ with statusOp := .idle }) (hreply reply hsome)
    hwaiting).mono ?_
  rintro (_ | _) c₂ w₂ ⟨hdrive₂, hrefusals₂, haddress₂, hwaiting₂⟩
  · rintro ⟨⟩
  · exact hspeed hdrive₂ hrefusals₂ haddress₂ hwaiting₂

end Surroundings.LosesReplies

/-! ## A bus with a script -/

/-- What becomes of an exchange. -/
inductive Fate where
  | unheard
  | unanswered
  | carried
  deriving DecidableEq, Repr

/-- A bus with a script of what becomes of the next exchanges; those after them are carried. -/
structure FlakyBus where
  drive : SimulatedDrive
  fates : List Fate := []
  refusals : Nat := 0

namespace FlakyBus

def view : BusView FlakyBus := ⟨drive, refusals⟩

def send (b : FlakyBus) (request : Request) : Exchange × FlakyBus :=
  let answer := b.drive.handle request.frame
  match b.fates.head?.getD .carried with
  | .unheard => (.error .timeout, { b with fates := b.fates.tail })
  | .unanswered => (.error .timeout, { b with fates := b.fates.tail, drive := answer.2 })
  | .carried =>
    match answer.1 with
    | none => (.error .timeout, { b with fates := b.fates.tail, drive := answer.2 })
    | some frame =>
      match exceptionCode? frame with
      | some code =>
        (.ok (some (.exception request.kind code)),
          { b with fates := b.fates.tail, drive := answer.2, refusals := b.refusals + 1 })
      | none =>
        (.ok (some ⟨request.kind, .response frame⟩),
          { b with fates := b.fates.tail, drive := answer.2 })

/-- The bus as a spindle sees it, with a host that does not matter. -/
def surroundings : Surroundings FlakyBus where
  isUp _ := true
  silence b := b
  send request _ c b := (some (b.send request).1, c, (b.send request).2)
  elapsed _ := 0
  isColdStart _ := false
  journal _ _ _ b := b
  raiseAlarm b := b
  tolerance _ := .zero
  setTolerance _ b := b

lemma losesReplies : surroundings.LosesReplies view where
  apart _ _ _ _ := rfl
  send request mode c b := by
    dsimp only [surroundings]
    rw [send]
    split
    · exact .unheard _ rfl rfl
    · exact .unanswered _ rfl rfl
    split
    · exact .unanswered _ rfl rfl
    split
    · exact .refused _ rfl
    · rename_i frame hanswer _ _
      refine .answered rfl (Prod.ext hanswer rfl) ?_
      rintro _ ⟨⟩
      rfl
  journal _ _ _ _ := ⟨rfl, rfl⟩
  raiseAlarm _ := ⟨rfl, rfl⟩

/-- A drive that hears the first write twice, and then the second. -/
def sample : FlakyBus where
  drive := .ofModel 1 .yl620
  fates := [.unanswered, .carried, .unanswered, .carried]

end FlakyBus

/-! ## Writes that are repeated -/

/-- **Repeating a write is safe.**  Whatever the state of a drive, a write that a driver sends
leaves it after any number of times as it does after one, with the same reply each time.  So over a
bus on which failed attempts may have been heard, a command that comes back well with nothing
refused leaves the drive as its two frames do, each of them heard once. -/
theorem repeated_writes :
    (∀ (d : SimulatedDrive) (m : DriveModel) (request : Request) (n : Nat),
      d.registers = m.registers → request.IsDriverWrite → 0 < n →
      d.handleAll (List.replicate n request.frame) =
        (List.replicate n (d.handle request.frame).1, (d.handle request.frame).2)) ∧
    ∀ {World : Type} {env : Surroundings World} {bus : BusView World} (s : Spindle)
      (c c' : SpindleContext) (w w' : World) (m : DriveModel) (patience : Nat)
      (state : SpindleState) (rpm : Binary32), env.LosesReplies bus →
      (bus.drive w).registers = m.registers →
      (∀ reply ∈ c.inbox, reply.isException = false) →
      (s.setState env patience state rpm).run.run (c, w) = (some (.ok ()), c', w') →
      bus.refusals w' = bus.refusals w →
      bus.drive w' = ((bus.drive w).handleAll (s.commandFrames c.address state rpm)).2 := by
  constructor
  · intro d m request n hmodel hwrite hn
    exact SimulatedDrive.handleAll_replicate (hwrite.handle_again hmodel) hn
  · intro World env bus s c c' w w' m patience state rpm h hmodel hinbox hrun hclean
    have hset := h.leads_setState (s := s) hmodel hinbox patience state rpm
    rw [Leads, hrun] at hset
    exact hset rfl hclean

/-- The command to run at twelve thousand revolutions goes through in the end. -/
theorem repeated_writes_over_flakyBus :
    FlakyBus.surroundings.LosesReplies FlakyBus.view ∧
    FlakyBus.sample.drive.registers = DriveModel.yl620.registers ∧
    (∀ reply ∈ Spindle.sampleSelected.inbox, reply.isException = false) ∧
    FlakyBus.sample.drive.handleAll
        (List.replicate 3 (Request.speed 1 DriveModel.yl620.registers
          (Spindle.sample.1.reader.scale.toCode (.ofNat 12000))).frame) =
      (List.replicate 3 (FlakyBus.sample.drive.handle (Request.speed 1 DriveModel.yl620.registers
          (Spindle.sample.1.reader.scale.toCode (.ofNat 12000))).frame).1,
        (FlakyBus.sample.drive.handle (Request.speed 1 DriveModel.yl620.registers
          (Spindle.sample.1.reader.scale.toCode (.ofNat 12000))).frame).2) ∧
    ∃ c' b', (Spindle.sample.1.setState FlakyBus.surroundings 8 .cw (.ofNat 12000)).run.run
        (Spindle.sampleSelected, FlakyBus.sample) = (some (.ok ()), c', b') ∧
      b'.refusals = FlakyBus.sample.refusals ∧
      b'.drive = (FlakyBus.sample.drive.handleAll
        (Spindle.sample.1.commandFrames Spindle.sampleSelected.address .cw (.ofNat 12000))).2 := by
  have hmodel : FlakyBus.sample.drive.registers = DriveModel.yl620.registers := rfl
  have hinbox : ∀ reply ∈ Spindle.sampleSelected.inbox, reply.isException = false := by decide
  have hok : ((Spindle.sample.1.setState FlakyBus.surroundings 8 .cw (.ofNat 12000)).run.run
      (Spindle.sampleSelected, FlakyBus.sample)).1 = some (.ok ()) := by decide +kernel
  have hclean : ((Spindle.sample.1.setState FlakyBus.surroundings 8 .cw (.ofNat 12000)).run.run
      (Spindle.sampleSelected, FlakyBus.sample)).2.2.refusals = FlakyBus.sample.refusals := by
    decide +kernel
  have hrepeat := repeated_writes.1 FlakyBus.sample.drive .yl620
    (.speed 1 DriveModel.yl620.registers (Spindle.sample.1.reader.scale.toCode (.ofNat 12000))) 3
    hmodel (.speed 1 .yl620 Spindle.sample.1.reader.scale (.ofNat 12000)) (by decide)
  refine ⟨FlakyBus.losesReplies, hmodel, hinbox, hrepeat, ?_⟩
  generalize hrun : (Spindle.sample.1.setState FlakyBus.surroundings 8 .cw (.ofNat 12000)).run.run
    (Spindle.sampleSelected, FlakyBus.sample) = ended at hok hclean ⊢
  obtain ⟨result, c', b'⟩ := ended
  obtain rfl : result = some (.ok ()) := hok
  have hheard := repeated_writes.2 Spindle.sample.1 Spindle.sampleSelected c' FlakyBus.sample b'
    .yl620 8 .cw (.ofNat 12000) FlakyBus.losesReplies hmodel hinbox hrun hclean
  exact ⟨c', b', rfl, hclean, hheard⟩

end SpindleDrive
