import SpindleDrive.Proofs.Number.Order
import SpindleDrive.Proofs.Operation.Conduct
import SpindleDrive.Proofs.Operation.Previewing

/-!
# Commands without a speed

A command is sent as two words, and each says in its own way that the spindle is to stand still: the
command word by its stop, and the frequency by its zero.  The first looks at the request alone, the
second at what a scale makes of it.  So they agree wherever a speed of zero is meant, and a request
to run at what is no speed, at a speed below zero or at one too small for the drive starts the drive
and leaves it without a frequency.

* `Surroundings.Records` — a transport that keeps the requests that were waited for, whatever else
  it does.
* `Records.leads_deliver` — no request is waited for while replies are read.
* `Records.leads_sendRepeatedly` — what a row of attempts leaves that succeeds.
* `RunStop.forRequest_eq_stop_iff`, `SpeedScale.IsNothing` — what each of the words calls zero.
* **`Spindle.words_of_command`** — what a command that succeeds has sent.
* `Spindle.start_without_speed` — a drive that is started and told no speed.
-/

namespace SpindleDrive

open Operation

/-! ## Requests that are waited for -/

/-- **A transport that keeps the requests that were waited for.**  It may give any result and may do
to the spindle what it likes; what is handed over without waiting is not kept. -/
structure Surroundings.Records {World : Type} (env : Surroundings World)
    (waited : World → List Request) : Prop where
  blocking : ∀ request c w,
    waited (env.send request .blocking c w).2.2 = waited w ++ [request]
  nonBlocking : ∀ request c w, waited (env.send request .nonBlocking c w).2.2 = waited w
  journal : ∀ reply coldStart c w, waited (env.journal reply coldStart c w) = waited w
  raiseAlarm : ∀ w, waited (env.raiseAlarm w) = waited w

namespace Surroundings.Records

variable {World : Type} {env : Surroundings World} {waited : World → List Request} {s : Spindle}
  {c : SpindleContext} {w : World} {request : Request} {patience : Nat}

/-- **A row of attempts that succeeds** has waited for its request so many times. -/
lemma leads_sendRepeatedly (h : env.Records waited) (retries : Nat)
    (mark : Nat → SpindleContext → SpindleContext) :
    Leads (sendRepeatedly (exchange env) request retries fun n => update (mark n))
      (fun r _ w' => ∀ reply?, r = some (.ok reply?) →
        ∃ failed, waited w' = waited w ++ List.replicate (failed + 1) request) c w := by
  refine Operation.leads_sendRepeatedly
    (fun k _ _ w' => waited w' = waited w ++ List.replicate k request) (by simp) ?_ ?_
  · intro k last c' w' _ hwaited
    have hmore : waited (env.send request .blocking c' w').2.2 =
        waited w ++ List.replicate (k + 1) request := by
      rw [h.blocking, hwaited, List.append_assoc, ← List.replicate_succ']
    rw [Operation.leads_exchange]
    rcases (env.send request .blocking c' w').1 with _ | e | reply?
    · simp
    · exact hmore
    · intro _ _
      exact ⟨k, hmore⟩
  · intro last c' w' _ reply? hend
    simp at hend

/-- A speed that is sent again is not waited for. -/
lemma leads_exchangeSpeed (h : env.Records waited) :
    Leads (s.exchangeSpeed env request false) (fun _ _ w' => waited w' = waited w) c w := by
  rw [Spindle.exchangeSpeed, if_neg Bool.false_ne_true, leads_map]
  refine leads_sendOnce ?_
  rw [Operation.leads_exchange]
  have hsame := h.nonBlocking request c w
  rcases (env.send request .nonBlocking c w).1 with _ | e | reply?
  · exact hsame
  · exact hsame
  · exact hsame

/-- Reading replies leaves alone what has been waited for. -/
lemma reads (h : env.Records waited) (log : List Request) :
    env.Reads s (fun _ _ => True) (fun _ w => waited w = log) (fun _ w => waited w = log) where
  ended _ _ hlog := hlog
  book _ _ _ _ hlog := hlog
  raiseAlarm _ w hlog := (h.raiseAlarm w).trans hlog
  read _ _ _ _ hlog := (h.journal ..).trans hlog
  due _ _ _ _ _ _ := trivial
  speed rpm c w _ _ hlog := by
    refine h.leads_exchangeSpeed.mono ?_
    intro r c' w' hsame
    cases r with
    | none => exact hsame.trans hlog
    | some outcome => exact hsame.trans hlog

lemma leads_deliverAny (h : env.Records waited) (reply? : Option Reply) :
    Leads (s.deliverAny env patience reply?) (fun _ _ w' => waited w' = waited w) c w :=
  leads_settled.1 (((h.reads (waited w)).handles patience).leads_handOver reply? rfl)

/-- **A speed that is set** has been waited for, at the address that the spindle had then. -/
lemma leads_setSpeed (h : env.Records waited) (rpm : Binary32) :
    Leads (s.setSpeed env patience rpm true)
      (fun r _ w' => r = some (.ok ()) → ∃ failed, waited w' = waited w ++
        List.replicate (failed + 1) (.speed c.address s.registers (s.reader.scale.toCode rpm)))
      c w := by
  refine Operation.leads_setSpeed (leads_sendSpeed (by simp) (by simp) fun _ _ => ?_)
  refine (h.leads_sendRepeatedly s.retries _).mono ?_
  intro r c' w' hsent
  rcases r with _ | e | _ | reply
  · simp
  · simp
  · intro _
    exact hsent none rfl
  · refine (h.leads_deliverAny (some reply)).mono ?_
    intro _ _ w'' hsame _
    obtain ⟨failed, hwaited⟩ := hsent (some reply) rfl
    exact ⟨failed, hsame.trans hwaited⟩

end Surroundings.Records

/-! ## What comes to nothing -/

/-- The command word stops for a spindle that is to be off and for both zeros. -/
lemma RunStop.forRequest_eq_stop_iff {on : Bool} {rpm : Binary32} :
    forRequest on rpm = .stop ↔ on = false ∨ rpm.isZero = true := by
  cases on <;> cases h : rpm.isZero <;> simp [forRequest, h]

lemma RunStop.forRequest_eq_start_iff {on : Bool} {rpm : Binary32} :
    forRequest on rpm = .start ↔ on = true ∧ rpm.isZero = false := by
  cases on <;> cases h : rpm.isZero <;> simp [forRequest, h]

open Binary32 in
/-- **The speeds that come to nothing without being zero.**  Half a unit is half of what one code is
apart from the next. -/
inductive SpeedScale.IsFaint (s : SpeedScale) (rpm : Binary32) : Prop where
  | nan (h : rpm.isNaN = true)
  | below (h : lt rpm zero = true)
  | little (hpos : rpm.isPositive = true) (h : lt (rpm * s.units / s.rpmPerHz) half = true)

/-- **Which speeds have the code zero**, those that are zero being apart. -/
theorem SpeedScale.toCode_eq_zero_iff_isFaint {s : SpeedScale} {rpm : Binary32} :
    s.toCode rpm = 0 ↔ rpm.isZero = true ∨ s.IsFaint rpm := by
  rw [toCode_eq_zero_iff, Binary32.isPositive_eq_false_iff]
  constructor
  · rintro ((hzero | hnan | hbelow) | hlittle)
    · exact .inl hzero
    · exact .inr (.nan hnan)
    · exact .inr (.below hbelow)
    · cases hpos : rpm.isPositive with
      | true => exact .inr (.little hpos hlittle)
      | false =>
          obtain hzero | hnan | hbelow := Binary32.isPositive_eq_false_iff.1 hpos
          · exact .inl hzero
          · exact .inr (.nan hnan)
          · exact .inr (.below hbelow)
  · rintro (hzero | hnan | hbelow | ⟨-, hlittle⟩)
    · exact .inl (.inl hzero)
    · exact .inl (.inr (.inl hnan))
    · exact .inl (.inr (.inr hbelow))
    · exact .inr hlittle

/-- A speed that is faint is not zero. -/
lemma SpeedScale.IsFaint.isZero {s : SpeedScale} {rpm : Binary32} (h : s.IsFaint rpm) :
    rpm.isZero = false := by
  cases h with
  | nan h =>
      cases rpm with
      | nan => rfl
      | signed => simp [Binary32.isNaN] at h
  | below h =>
      rcases rpm with _ | ⟨negative, code, hcode⟩
      · rfl
      · have hplace : Binary32.place negative code < 0 := Binary32.lt_signed.1 h
        refine decide_eq_false ?_
        rintro rfl
        cases negative <;> simp [Binary32.place] at hplace
  | little hpos => exact Binary32.isZero_of_isPositive hpos

/-! ## The two words of a command -/

/-- **How the two words of a command stand to one another.**  They agree that the spindle is to
stand still, except at a speed that is faint: there a spindle that is to be on is started. -/
structure SpeedScale.IsSpoken (s : SpeedScale) (on : Bool) (rpm : Binary32) (word : CommandWord)
    (code : UInt16) : Prop where
  stops_or_starts : word.runStop = .stop ∨ word.runStop = .start
  stop_iff : word.runStop = .stop ↔ on = false ∨ rpm.isZero = true
  zero_iff : code = 0 ↔ rpm.isZero = true ∨ s.IsFaint rpm
  start_at_zero_iff : word.runStop = .start ∧ code = 0 ↔ on = true ∧ s.IsFaint rpm

lemma SpeedScale.isSpoken (s : SpeedScale) (on ccw : Bool) (rpm : Binary32) :
    s.IsSpoken on rpm (.run (.forRequest on rpm) (.ofCcw ccw)) (s.toCode rpm) where
  stops_or_starts := by
    cases on <;> cases h : rpm.isZero <;> simp [CommandWord.run, RunStop.forRequest, h]
  stop_iff := RunStop.forRequest_eq_stop_iff
  zero_iff := toCode_eq_zero_iff_isFaint
  start_at_zero_iff := by
    have hstart : (CommandWord.run (.forRequest on rpm) (.ofCcw ccw)).runStop = .start ↔
        on = true ∧ rpm.isZero = false := RunStop.forRequest_eq_start_iff
    rw [hstart, toCode_eq_zero_iff_isFaint]
    constructor
    · rintro ⟨⟨hon, hzero⟩, hzero' | hfaint⟩
      · simp [hzero] at hzero'
      · exact ⟨hon, hfaint⟩
    · rintro ⟨hon, hfaint⟩
      exact ⟨⟨hon, hfaint.isZero⟩, .inr hfaint⟩

/-- **What a command that succeeds has sent.**  A spindle can be made of every valid configuration.
Whatever the transport gives and does, and whatever state the spindle is in, a command that succeeds
has waited for a command word and then for a frequency and for nothing else, each of them once or
several times over; and the two say the same unless the speed is faint. -/
theorem Spindle.words_of_command {config : Config} (valid : config.validate = .ok ())
    (id : SpindleId) :
    ∃ s made, Spindle.make id config = .ok (s, made) ∧ config.speedScale = .ok s.reader.scale ∧
      ∀ {World : Type} (env : Surroundings World) (waited : World → List Request),
        env.Records waited → ∀ (patience : Nat) (state : SpindleState) (rpm : Binary32)
        (c : SpindleContext) (w : World),
        Leads (s.setState env patience state rpm)
          (fun r _ w' => r = some (.ok ()) → ∃ word code address commands speeds,
            waited w' = waited w ++
              List.replicate (commands + 1) (.command c.address s.registers word) ++
              List.replicate (speeds + 1) (.speed address s.registers code) ∧
            s.reader.scale.IsSpoken state.on rpm word code) c w := by
  obtain ⟨s, scale, hscale, -, -, hreader, hmake⟩ := Spindle.exists_make id valid
  subst hreader
  refine ⟨s, _, hmake, hscale, ?_⟩
  intro World env waited h patience state rpm c w
  refine leads_setState (by simp) (by simp) fun _ _ => ?_
  refine (h.leads_sendRepeatedly s.retries _).mono ?_
  intro r c₁ w₁ hcommand
  rcases r with _ | e | reply?
  · simp
  · simp
  obtain ⟨commands, hcommand⟩ := hcommand reply? rfl
  refine (h.leads_deliverAny reply?).mono ?_
  intro r c₂ w₂ hsame
  rcases r with _ | _
  · simp
  refine (h.leads_setSpeed rpm).mono ?_
  intro r c₃ w₃ hspeed hsuccess
  obtain ⟨speeds, hspeed⟩ := hspeed hsuccess
  refine ⟨_, _, c₂.address, commands, speeds, ?_, s.reader.scale.isSpoken state.on state.ccw rpm⟩
  rw [hspeed, hsame, hcommand]

/-- The requests of a log that were waited for. -/
def awaited (log : List (Request × SendMode)) : List Request :=
  log.filterMap fun entry =>
    match entry.2 with
    | .blocking => some entry.1
    | .nonBlocking => none

lemma Surroundings.echoing_records : echoing.Records awaited where
  blocking request c w := by simp [awaited, echoing]
  nonBlocking request c w := by simp [awaited, echoing]
  journal _ _ _ _ := rfl
  raiseAlarm _ := rfl

/-- The command to run backwards at a speed that is below zero. -/
theorem Spindle.words_of_faint_command :
    Config.validate {} = .ok () ∧
    ∃ s made, Spindle.make ⟨0⟩ {} = .ok (s, made) ∧
      Leads (s.setState .echoing 2 .counterClockwise (.ofInt (-5)))
        (fun r _ w' => r = some (.ok ()) ∧ ∃ word code address commands speeds,
          awaited w' =
            List.replicate (commands + 1) (.command made.address s.registers word) ++
              List.replicate (speeds + 1) (.speed address s.registers code) ∧
          s.reader.scale.IsSpoken true (.ofInt (-5)) word code)
        { made with selection := some ⟨⟨0⟩, 0⟩ } [] := by
  have hvalid : Config.validate {} = .ok () := rfl
  obtain ⟨s, made, hmake, -, hwords⟩ := Spindle.words_of_command hvalid ⟨0⟩
  obtain ⟨-, -, hmade⟩ := Spindle.make_eq_ok hmake
  have hfree : SpindleContext.IsFree { made with selection := some ⟨⟨0⟩, 0⟩ } made.address := by
    subst hmade
    exact ⟨⟨rfl, rfl, rfl, rfl⟩, rfl, rfl⟩
  have hsuccess : Leads (s.setState .echoing 2 .counterClockwise (.ofInt (-5)))
      (fun r _ _ => r = some (.ok ())) { made with selection := some ⟨⟨0⟩, 0⟩ } [] := by
    refine (Surroundings.echoing_obliges.sends_setState hfree .counterClockwise
      (.ofInt (-5))).mono ?_
    intro r c' w' hsends
    exact hsends.1
  refine ⟨hvalid, s, made, hmake, ?_⟩
  refine (hsuccess.and (hwords .echoing awaited Surroundings.echoing_records 2 .counterClockwise
    (.ofInt (-5)) _ [])).mono ?_
  rintro r c' w' ⟨hdone, hwaited⟩
  exact ⟨hdone, hwaited hdone⟩

/-- **A drive that is started and told no speed**: it is asked to run at a speed below zero, which
the command word takes for a speed and the frequency for none. -/
theorem Spindle.start_without_speed :
    Config.validate {} = .ok () ∧
    ∃ s made, Spindle.make ⟨0⟩ {} = .ok (s, made) ∧
      Leads (s.setState .echoing 2 .cw (.ofInt (-5)))
        (fun r _ w' => r = some (.ok ()) ∧
          w' = [(.command 1 s.registers (.run .start .forward), .blocking),
            (.speed 1 s.registers 0, .blocking)])
        { made with selection := some ⟨⟨0⟩, 0⟩ } [] := by
  refine ⟨rfl, _, _, rfl, ?_⟩
  refine (Surroundings.echoing_obliges.sends_setState (w := [])
    ⟨⟨rfl, rfl, rfl, rfl⟩, rfl, rfl⟩ .cw (.ofInt (-5))).mono ?_
  rintro r c' w' ⟨rfl, hsends⟩
  have hword : RunStop.forRequest true (.ofInt (-5)) = .start := by decide
  have hcode (scale : SpeedScale) : scale.toCode (.ofInt (-5)) = 0 :=
    SpeedScale.toCode_of_not_isPositive (by decide)
  have hsent : w' = _ := hsends.sent
  refine ⟨rfl, hsent.trans ?_⟩
  rw [hcode]
  exact congrArg (fun runStop => [(Request.command 1 _ (.run runStop .forward), SendMode.blocking),
    (Request.speed 1 _ 0, SendMode.blocking)]) hword

end SpindleDrive
