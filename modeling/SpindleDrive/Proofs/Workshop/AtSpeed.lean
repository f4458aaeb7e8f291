import Mathlib.Data.Prod.Basic
import SpindleDrive.Proofs.Number.Sign
import SpindleDrive.Proofs.Workshop.Watched

/-!
# The verdict that a spindle is at speed

The verdict compares the last reading with two limits.  These are the band of the speed that was
programmed last, and they stay when a selection or a turn takes the programmed speed back; as long
as no call has programmed a speed both may still be zero, and so is the reading of a drive that
stands.  So the verdict is always about a band, but there need not be a programmed speed that goes
with it.

* `SpeedData.HasBand` — the limits are those of a speed.
* `SpeedData.IsJudged` — what always holds of the speeds of a spindle that is checked, one lemma for
  each way in which they change.
* `SpeedHistory` — whether a call has programmed a speed, and whether the programmed speed holds: it
  has been set, and the spindle has been neither selected nor turned round since.
* `Workshop.FixesTolerance`, `Workshop.Course` — a workshop and its runs, the tolerance of one
  spindle staying as it is.
* `sustains_judged`, `judges_of_call`, `Course.judges` — what is preserved by one step, by one call,
  and by a run.
* **`band_of_atSpeed`** — what can be said when a spindle claims to be at speed.
* `atSpeed_without_speed` — a spindle that claims it with no programmed speed.
-/

namespace SpindleDrive

open Operation

/-! ## The speeds -/

namespace SpeedData

/-- The limits are the band of a speed. -/
def HasBand (d : SpeedData) (rpm tolerance : Binary32) : Prop :=
  d.low = rpm * (one - tolerance / hundred) ∧ d.high = rpm * (one + tolerance / hundred)

/-- The last reading lies in the band of a speed. -/
def InBand (d : SpeedData) (rpm tolerance : Binary32) : Prop :=
  Binary32.le (rpm * (one - tolerance / hundred)) d.measured = true ∧
    Binary32.le d.measured (rpm * (one + tolerance / hundred)) = true

/-- The limits are still those of a spindle that has just been made. -/
def IsUnset (d : SpeedData) : Prop := d.low = .zero ∧ d.high = .zero

/-- **What always holds of the speeds of a spindle that is checked.**  The programmed speed is the
one whose band the limits are, unless it has been taken back; and once a speed is set the limits are
a band for good. -/
structure IsJudged (d : SpeedData) (tolerance : Binary32) (isSet : Bool) : Prop where
  checked : d.checked = true
  measured : d.measured.isUnsigned = true
  verdict : d.commanded.atSpeed = true →
    Binary32.le d.low d.measured = true ∧ Binary32.le d.measured d.high = true
  limits : ∃ rpm, (d.programmed = rpm ∨ d.programmed = noSpeed) ∧
    (d.HasBand rpm tolerance ∨ isSet = false ∧ rpm = .zero ∧ d.IsUnset)

variable {d : SpeedData} {tolerance : Binary32} {isSet : Bool}

lemma isJudged_checked (tolerance : Binary32) : IsJudged { checked := true } tolerance false where
  checked := rfl
  measured := rfl
  verdict h := by simp at h
  limits := ⟨.zero, .inl rfl, .inr ⟨rfl, rfl, rfl, rfl⟩⟩

lemma hasBand_program (d : SpeedData) (rpm tolerance : Binary32) :
    (d.program rpm tolerance).HasBand rpm tolerance :=
  ⟨rfl, rfl⟩

namespace IsJudged

/-- Less can be said. -/
lemma weaken {isSet' : Bool} (h : d.IsJudged tolerance isSet)
    (hle : isSet' = true → isSet = true) : d.IsJudged tolerance isSet' where
  checked := h.checked
  measured := h.measured
  verdict := h.verdict
  limits := by
    obtain ⟨rpm, hprogrammed, hband | ⟨hset, hunset⟩⟩ := h.limits
    · exact ⟨rpm, hprogrammed, .inl hband⟩
    · have hset' : isSet' = false := by
        rw [← Bool.not_eq_true]
        exact fun htrue => by simp [hle htrue] at hset
      exact ⟨rpm, hprogrammed, .inr ⟨hset', hunset⟩⟩

/-- Programming a speed moves the limits along and takes the verdict back. -/
lemma program (h : d.IsJudged tolerance isSet) (rpm : Binary32) (isSet' : Bool) :
    (d.program rpm tolerance).IsJudged tolerance isSet' where
  checked := h.checked
  measured := h.measured
  verdict hatSpeed := by simp [SpeedData.program] at hatSpeed
  limits := ⟨rpm, .inl rfl, .inl (d.hasBand_program rpm tolerance)⟩

/-- A reading is compared with the limits, since the spindle is checked. -/
lemma measure (h : d.IsJudged tolerance isSet) {rpm : Binary32} (hrpm : rpm.isUnsigned = true) :
    (d.measure rpm).IsJudged tolerance isSet where
  checked := h.checked
  measured := hrpm
  verdict hatSpeed := by
    have haccepts : d.accepts rpm = true := hatSpeed
    rw [accepts, h.checked, Bool.not_true, Bool.false_or, Bool.and_eq_true] at haccepts
    exact haccepts
  limits := h.limits

/-- A selection takes the programmed speed back and leaves the limits. -/
lemma withdraw (h : d.IsJudged tolerance isSet) :
    ({ d with programmed := noSpeed } : SpeedData).IsJudged tolerance isSet where
  checked := h.checked
  measured := h.measured
  verdict := h.verdict
  limits := by
    obtain ⟨rpm, -, hlimits⟩ := h.limits
    exact ⟨rpm, .inr rfl, hlimits⟩

/-- The check may be turned on again. -/
lemma check (h : d.IsJudged tolerance isSet) :
    ({ d with checked := true } : SpeedData).IsJudged tolerance isSet :=
  ⟨rfl, h.measured, h.verdict, h.limits⟩

/-- A command takes the programmed speed back if it turns the spindle round. -/
lemma takeCommand {c : SpindleContext} (h : c.data.IsJudged tolerance isSet)
    (state : SpindleState) : (c.takeCommand state).data.IsJudged tolerance isSet where
  checked := h.checked
  measured := h.measured
  verdict := h.verdict
  limits := by
    obtain ⟨rpm, hprogrammed, hlimits⟩ := h.limits
    refine ⟨rpm, ?_, hlimits⟩
    by_cases hturned : c.state.ccw = state.ccw
    · simpa [SpindleContext.takeCommand, hturned] using hprogrammed
    · simp [SpindleContext.takeCommand, hturned]

/-- **The verdict of a spindle whose limits are the band of a speed**: the reading lies in the band,
and since it has no sign the speed is not below zero. -/
lemma inBand (h : d.IsJudged tolerance isSet) (htolerance : tolerance.isNonneg = true)
    (hatSpeed : d.commanded.atSpeed = true) {rpm : Binary32} (hband : d.HasBand rpm tolerance) :
    rpm.isNonneg = true ∧ d.InBand rpm tolerance := by
  obtain ⟨hlow, hhigh⟩ := h.verdict hatSpeed
  obtain ⟨hlimit, hlimit'⟩ := hband
  rw [hlimit] at hlow
  rw [hlimit'] at hhigh
  have hfactor : Binary32.le one (one + tolerance / hundred) = true :=
    Binary32.le_one_add (Binary32.isNonneg_div htolerance (by decide) (by decide))
  exact ⟨Binary32.isNonneg_of_mul hfactor (Binary32.isNonneg_of_le h.measured hhigh), hlow, hhigh⟩

/-- With limits of zero the verdict is that the drive stands. -/
lemma isZero_of_isUnset (h : d.IsJudged tolerance isSet) (hatSpeed : d.commanded.atSpeed = true)
    (hunset : d.IsUnset) : d.measured.isZero = true := by
  obtain ⟨hlow, hhigh⟩ := h.verdict hatSpeed
  rw [hunset.1] at hlow
  rw [hunset.2] at hhigh
  exact Binary32.isZero_of_le hlow hhigh

end IsJudged

end SpeedData

/-- A reply changes the speeds only if it is a reading of the speed. -/
lemma ReplyReader.read_data (r : ReplyReader) (reply : Reply) (coldStart : Bool) (d : SpeedData)
    (counter : ExceptionCounter) :
    (r.read reply coldStart d counter).2.1 = d ∨
      ∃ code, (r.read reply coldStart d counter).2.1 = d.measure (r.scale.toSpeed code) := by
  rw [r.read_data_eq]
  split
  · exact .inr ⟨_, rfl⟩
  · exact .inl rfl

/-! ## The spindle -/

/-- **What the calls of a run tell of the speed of a spindle.** -/
structure SpeedHistory where
  /-- A call has programmed a speed. -/
  isSet : Bool := false
  /-- The programmed speed holds: it has been set, and the spindle has been neither selected nor
  turned round since. -/
  holds : Bool := false

/-- The speeds are judged, and if the programmed speed is said to hold the limits are its band. -/
def SpindleContext.IsJudged (tolerance : Binary32) (history : SpeedHistory) (c : SpindleContext) :
    Prop :=
  c.data.IsJudged tolerance history.isSet ∧
    (history.holds = true → c.data.HasBand c.data.programmed tolerance)

namespace HostCall

/-- A call that does not set another tolerance. -/
def LeavesTolerance (tolerance : Binary32) : HostCall → Prop
  | .applySettings settings changed => changed.spindle = true → settings.tolerance = tolerance
  | _ => True

/-- Whether a call that came back has programmed a speed. -/
def programs (answer : Answer) : HostCall → Bool
  | .setState .. | .setSpeed .. => answer.isProgrammed
  | .bind _ | .applySettings .. | .getState | .getData | .requestMaxSpeed | .deliver _ => false

/-- **Whether the programmed speed holds after a call** that came back. -/
def holdsAfter (s : Spindle) (c : SpindleContext) (answer : Answer) (holds : Bool) :
    HostCall → Bool
  | .bind selection => holds && decide (selection.id ≠ s.id)
  | .setState state rpm =>
    answer.isProgrammed ||
      (holds && ((refusal? c (.setState state rpm)).isSome || c.state.ccw == state.ccw))
  | .setSpeed .. => answer.isProgrammed || holds
  | .applySettings .. | .getState | .getData | .requestMaxSpeed | .deliver _ => holds

end HostCall

/-- **The history of the speed after a call** that came back. -/
def SpeedHistory.after (history : SpeedHistory) (s : Spindle) (c : SpindleContext)
    (call : HostCall) (answer : Answer) : SpeedHistory where
  isSet := call.programs answer || history.isSet
  holds := call.holdsAfter s c answer history.holds

namespace Workshop

variable {ι World : Type} {shop : Workshop ι World} {i : ι} {tolerance : Binary32}

/-- The tolerance of a spindle is what it is until its own settings change. -/
structure FixesTolerance (shop : Workshop ι World) (i : ι) (tolerance : Binary32) : Prop where
  spares : ∀ j, (shop.outside j).Spares fun w => (shop.outside i).tolerance w = tolerance
  silence : ∀ j w, (shop.outside i).tolerance w = tolerance →
    (shop.outside i).tolerance ((shop.outside j).silence w) = tolerance
  setTolerance : ∀ j x w, (j = i → x = tolerance) → (shop.outside i).tolerance w = tolerance →
    (shop.outside i).tolerance ((shop.outside j).setTolerance x w) = tolerance

/-- **What every spindle does by itself leaves the speeds judged.** -/
lemma sustains_judged (fixed : shop.FixesTolerance i tolerance) (history : SpeedHistory) :
    shop.Sustains i (SpindleContext.IsJudged tolerance history)
      fun w => (shop.outside i).tolerance w = tolerance where
  book c c' hr hP := by
    rw [SpindleContext.IsJudged, hr.data]
    exact hP
  program rpm progress c w hW hP := by
    rw [hW]
    exact ⟨hP.1.program rpm _, fun _ => c.data.hasBand_program rpm tolerance⟩
  read reply rest coldStart c hP := by
    obtain ⟨hjudged, hband⟩ := hP
    obtain hsame | ⟨code, hmeasured⟩ :=
      (shop.spindle i).reader.read_data reply coldStart c.data c.exceptions
    · have hdata : ((shop.spindle i).takeIn reply rest coldStart c).data = c.data := hsame
      rw [SpindleContext.IsJudged, hdata]
      exact ⟨hjudged, hband⟩
    · have hdata : ((shop.spindle i).takeIn reply rest coldStart c).data =
          c.data.measure ((shop.spindle i).reader.scale.toSpeed code) := hmeasured
      rw [SpindleContext.IsJudged, hdata]
      exact ⟨hjudged.measure (SpeedScale.isUnsigned_toSpeed _ code), hband⟩
  spares := fixed.spares

variable [DecidableEq ι] {patience : Nat} {σ σ' : Scene ι World} {answer : Answer}
  {history : SpeedHistory}

/-- The speeds of one spindle are judged, and its tolerance is as it was. -/
def Judges (shop : Workshop ι World) (i : ι) (tolerance : Binary32) (history : SpeedHistory) :
    Scene ι World → Prop :=
  Scene.Meets i (SpindleContext.IsJudged tolerance history)
    fun w => (shop.outside i).tolerance w = tolerance

omit [DecidableEq ι] in
/-- Less can be said. -/
lemma Judges.weaken {history' : SpeedHistory} (h : shop.Judges i tolerance history σ)
    (hset : history'.isSet = true → history.isSet = true)
    (hle : history'.holds = true → history.holds = true) : shop.Judges i tolerance history' σ :=
  ⟨⟨h.1.1.weaken hset, fun hholds => h.1.2 (hle hholds)⟩, h.2⟩

/-! ## Calls -/

/-- A call that programs a speed makes it hold. -/
lemma judges_of_programmed (fixed : shop.FixesTolerance i tolerance) {call : HostCall}
    (hcall : (∃ rpm blocking, call = .setSpeed rpm blocking) ∨
      ∃ state rpm, call = .setState state rpm)
    (h : shop.Judges i tolerance history σ)
    (back : shop.call patience i call σ = (some answer, σ'))
    (hprogrammed : answer.isProgrammed = true) :
    shop.Judges i tolerance { isSet := true, holds := true } σ' := by
  have hprogram (rpm : Binary32) (progress : OperationState) (c : SpindleContext) (w : World)
      (hW : (shop.outside i).tolerance w = tolerance) (hP : c.IsJudged tolerance {}) :
      SpindleContext.IsJudged tolerance { isSet := true, holds := true }
        (c.endSpeed rpm ((shop.outside i).tolerance w) progress) := by
    rw [hW]
    exact ⟨hP.1.program rpm true, fun _ => c.data.hasBand_program rpm tolerance⟩
  refine (sustains_judged fixed {}).meets_of_programmed (sustains_judged fixed _) hprogram ?_
    hprogrammed (h.weaken (by simp) (by simp)) back
  obtain hspeed | ⟨state, rpm, rfl⟩ := hcall
  · exact .inl hspeed
  · exact .inr ⟨state, rpm, rfl, fun c hP => ⟨hP.1.takeCommand state, by simp⟩⟩

/-- A command leaves the programmed speed if it does not turn the spindle round. -/
lemma judges_of_setState (fixed : shop.FixesTolerance i tolerance) {state : SpindleState}
    {rpm : Binary32} (h : shop.Judges i tolerance history σ)
    (back : shop.call patience i (.setState state rpm) σ = (some answer, σ')) :
    shop.Judges i tolerance
      { history with holds := history.holds && (σ.contexts i).state.ccw == state.ccw } σ' := by
  by_cases hturned : (σ.contexts i).state.ccw = state.ccw
  · have hsustains := (sustains_judged fixed history).and_ccw state.ccw
    have hkept := hsustains.meets_of_call ⟨⟨h.1, hturned⟩, h.2⟩ back
      (hsustains.permits_setState rpm ?_)
    · exact Judges.weaken ⟨hkept.1.1, hkept.2⟩ id (by simp +contextual)
    · rintro c ⟨⟨hjudged, hband⟩, hsame⟩
      have hprogrammed : (c.takeCommand state).data.programmed = c.data.programmed := by
        simp [SpindleContext.takeCommand, hsame]
      refine ⟨⟨hjudged.takeCommand state, fun hholds => ?_⟩, rfl⟩
      rw [hprogrammed]
      exact hband hholds
  · have hsustains := sustains_judged fixed { history with holds := false }
    have hkept := hsustains.meets_of_call (h.weaken id (by simp)) back
      (hsustains.permits_setState rpm fun c hP => ⟨hP.1.takeCommand state, by simp⟩)
    exact Judges.weaken hkept id (by simp [hturned])

/-- **One call of the spindle**, if it comes back, leaves its speeds judged, as far as the call lets
its history stand. -/
lemma judges_of_call (fixed : shop.FixesTolerance i tolerance)
    (htolerance : tolerance.isNonneg = true) {call : HostCall}
    (leaves : call.LeavesTolerance tolerance) (h : shop.Judges i tolerance history σ)
    (back : shop.call patience i call σ = (some answer, σ')) :
    shop.Judges i tolerance
      (history.after (shop.spindle i) (σ.contexts i) call answer) σ' := by
  have hsustains := sustains_judged fixed
  cases call with
  | bind selection =>
      have hweak : shop.Judges i tolerance
          (history.after (shop.spindle i) (σ.contexts i) (.bind selection) answer) σ :=
        h.weaken id (by simp +contextual [SpeedHistory.after, HostCall.holdsAfter])
      refine (hsustains _).meets_of_call hweak back fun c σ hI => ?_
      split
      · rename_i hid
        refine hI.step rfl (fun _ _ hP => ⟨hP.1.withdraw, fun hholds => ?_⟩)
          (fixed.silence i σ.world)
        simp [SpeedHistory.after, HostCall.holdsAfter, hid] at hholds
      · exact hI.step rfl (fun _ _ hP => hP) id
  | applySettings settings changed =>
      refine (hsustains history).meets_of_call h back fun hchanged c σ hI => ?_
      have hsame : settings.tolerance = tolerance := leaves hchanged
      rw [hsame, htolerance]
      exact hI.step rfl (fun _ _ hP => ⟨hP.1.check, hP.2⟩)
        (fixed.setTolerance i _ σ.world fun _ => rfl)
  | setState state rpm =>
      cases hprogrammed : answer.isProgrammed
      · cases hrefusal : HostCall.refusal? (σ.contexts i) (.setState state rpm) with
        | some e =>
            obtain ⟨c, σ'', ⟨-, rfl, rfl⟩, rfl⟩ :=
              exists_of_call (Spindle.leads_refused hrefusal) back
            refine Judges.weaken (Scene.Meets.begun h i _) ?_ ?_
            · simp [SpeedHistory.after, HostCall.programs, hprogrammed]
            · simp [SpeedHistory.after, HostCall.holdsAfter, hprogrammed, hrefusal]
        | none =>
            refine (judges_of_setState fixed h back).weaken ?_ ?_
            · simp [SpeedHistory.after, HostCall.programs, hprogrammed]
            · simp [SpeedHistory.after, HostCall.holdsAfter, hprogrammed, hrefusal]
      · exact (judges_of_programmed fixed (.inr ⟨state, rpm, rfl⟩) h back hprogrammed).weaken
          (fun _ => rfl) fun _ => rfl
  | setSpeed rpm blocking =>
      cases hprogrammed : answer.isProgrammed
      · refine Judges.weaken ((hsustains history).meets_of_call h back trivial) ?_ ?_
        · simp [SpeedHistory.after, HostCall.programs, hprogrammed]
        · simp [SpeedHistory.after, HostCall.holdsAfter, hprogrammed]
      · exact (judges_of_programmed fixed (.inl ⟨rpm, blocking, rfl⟩) h back hprogrammed).weaken
          (fun _ => rfl) fun _ => rfl
  | getState | getData | requestMaxSpeed | deliver =>
      exact (hsustains history).meets_of_call h back trivial

/-! ## Runs -/

/-- **The runs of a workshop that leave the tolerance of a spindle as it is**, with the history of
its speed.  Every call comes back before the next is made, and in between the world may change in
any way that leaves the tolerance. -/
inductive Course (shop : Workshop ι World) (i : ι) (tolerance : Binary32)
    (start : Scene ι World) : SpeedHistory → Scene ι World → Prop where
  | refl : Course shop i tolerance start {} start
  | outside {history : SpeedHistory} {σ : Scene ι World} (world : World)
      (run : Course shop i tolerance start history σ)
      (fixed : (shop.outside i).tolerance world = tolerance) :
      Course shop i tolerance start history { σ with world }
  | other {history : SpeedHistory} {σ σ' : Scene ι World} (patience : Nat) {j : ι} (hj : j ≠ i)
      (call : HostCall) (answer : Answer) (run : Course shop i tolerance start history σ)
      (back : shop.call patience j call σ = (some answer, σ')) :
      Course shop i tolerance start history σ'
  | own {history : SpeedHistory} {σ σ' : Scene ι World} (patience : Nat) (call : HostCall)
      (answer : Answer) (run : Course shop i tolerance start history σ)
      (leaves : call.LeavesTolerance tolerance)
      (back : shop.call patience i call σ = (some answer, σ')) :
      Course shop i tolerance start
        (history.after (shop.spindle i) (σ.contexts i) call answer) σ'

/-- **A run leaves the speeds judged** if the spindle has just been made and is checked. -/
lemma Course.judges {start : Scene ι World} (fixed : shop.FixesTolerance i tolerance)
    (htolerance : tolerance.isNonneg = true)
    (fresh : (start.contexts i).data = { checked := true })
    (hstart : (shop.outside i).tolerance start.world = tolerance)
    (run : shop.Course i tolerance start history σ) : shop.Judges i tolerance history σ := by
  induction run with
  | refl =>
      refine ⟨⟨?_, by simp⟩, hstart⟩
      rw [fresh]
      exact SpeedData.isJudged_checked tolerance
  | outside world run hworld ih => exact ⟨ih.1, hworld⟩
  | other patience hj call answer run back ih =>
      refine (sustains_judged fixed _).meets_of_call ih back ?_
      exact (sustains_judged fixed _).permits_of_ne hj (fixed.silence _)
        (fun x w => fixed.setTolerance _ x w fun h => absurd h hj) call
  | own patience call answer run leaves back ih =>
      exact judges_of_call fixed htolerance leaves ih back

/-! ## A spindle on a dead line -/

/-- The scene once the spindle is checked, before anything else has happened. -/
def deadChecked : Scene Unit Unit :=
  (dead.call 2 () (.applySettings {} { spindle := true }) deadStart).2

def deadCheckedSelected : Scene Unit Unit := (dead.call 2 () (.bind ⟨⟨0⟩, 0⟩) deadChecked).2

/-- A reading of a speed, by its code. -/
def reading (code : UInt16) : Reply := ⟨.getSpeed, .response (ReadReply.toFrame ⟨1, code⟩)⟩

/-- The scene once it has been read that the drive stands, no speed having been set. -/
def deadStanding : Scene Unit Unit := (dead.call 2 () (.deliver (reading 0)) deadCheckedSelected).2

/-- The scene once a speed has been set, in vain. -/
def deadSet : Scene Unit Unit :=
  (dead.call 2 () (.setSpeed (.ofNat 600) false) deadCheckedSelected).2

/-- The scene once this speed has been read. -/
def deadTurning : Scene Unit Unit := (dead.call 2 () (.deliver (reading 100)) deadSet).2

lemma dead_fixesTolerance : dead.FixesTolerance () .zero where
  spares _ := ⟨fun _ _ _ _ h => h, fun _ _ _ _ h => h, fun _ h => h⟩
  silence _ _ h := h
  setTolerance _ _ _ _ h := h

lemma course_deadCheckedSelected : dead.Course () .zero deadChecked {} deadCheckedSelected :=
  .own 2 (.bind ⟨⟨0⟩, 0⟩) .done .refl trivial rfl

/-! ## The verdict -/

/-- What the host is told is the verdict that the speeds hold. -/
lemma atSpeed_of_call {state : SpindleState}
    (back : shop.call patience i .getState σ = (some (.state state), σ')) :
    state.atSpeed = (σ'.contexts i).data.commanded.atSpeed := by
  have hcarry : Leads
      ((shop.spindle i).carryOut (shop.surroundings patience i) patience .getState)
      (fun r c _ => ∀ state, r = some (.state state) → state.atSpeed = c.data.commanded.atSpeed)
      (σ.contexts i) (σ.note (.called i .getState)) := by
    rw [Spindle.carryOut, leads_map]
    refine leads_getState_told.mono ?_
    rintro (_ | told) c σ htold
    · simp
    · rintro state ⟨⟩
      exact htold told rfl
  obtain ⟨c, σ'', htold, rfl⟩ := exists_of_call hcarry back
  rw [Scene.put_contexts_self]
  exact htold state rfl

/-- **What it means to be at speed.**  A spindle has been made and is checked with a tolerance that
is not negative; then it is selected, commanded, asked and answered in any way, over any transports,
but its tolerance stays as it is.  Whenever it claims to be at speed, its last reading lies in the
band of a speed that is not below zero, which its limits still are, and its programmed speed is this
one or has been taken back; or no call has programmed a speed, its limits are still zero, and it
stands.  If a speed has been set, and the spindle has been neither selected nor turned round since,
its programmed speed is not below zero and the reading lies in its band. -/
theorem band_of_atSpeed (shop : Workshop ι World) (i : ι) {tolerance : Binary32}
    (fixed : shop.FixesTolerance i tolerance) (htolerance : tolerance.isNonneg = true)
    {start σ σ' : Scene ι World} (fresh : (start.contexts i).data = { checked := true })
    (hstart : (shop.outside i).tolerance start.world = tolerance) {history : SpeedHistory}
    (run : shop.Course i tolerance start history σ) {patience : Nat} {state : SpindleState}
    (back : shop.call patience i .getState σ = (some (.state state), σ'))
    (hatSpeed : state.atSpeed = true) :
    let d := (σ'.contexts i).data
    ((∃ rpm, rpm.isNonneg = true ∧ d.HasBand rpm tolerance ∧ d.InBand rpm tolerance ∧
        (d.programmed = rpm ∨ d.programmed = noSpeed)) ∨
      history.isSet = false ∧ d.IsUnset ∧ d.measured.isZero = true ∧
        (d.programmed = .zero ∨ d.programmed = noSpeed)) ∧
    (history.holds = true → d.hasProgrammed = true ∧ d.InBand d.programmed tolerance) := by
  intro d
  have hleaves : HostCall.LeavesTolerance tolerance .getState := trivial
  obtain ⟨⟨hjudged, hband⟩, -⟩ := judges_of_call fixed htolerance hleaves
    (run.judges fixed htolerance fresh hstart) back
  have hverdict : d.commanded.atSpeed = true := (atSpeed_of_call back).symm.trans hatSpeed
  refine ⟨?_, fun hholds => hjudged.inBand htolerance hverdict (hband hholds)⟩
  obtain ⟨rpm, hprogrammed, hlimits | ⟨hset, rfl, hunset⟩⟩ := hjudged.limits
  · obtain ⟨hnonneg, hin⟩ := hjudged.inBand htolerance hverdict hlimits
    exact .inl ⟨rpm, hnonneg, hlimits, hin, hprogrammed⟩
  · exact .inr ⟨hset, hunset, hjudged.isZero_of_isUnset hverdict hunset, hprogrammed⟩

/-- A spindle for which a speed of 600 has been set, and for which 600 has been read, is at speed,
and its programmed speed goes with the reading. -/
theorem band_of_dead_atSpeed :
    ∃ state σ', dead.Course () .zero deadChecked { isSet := true, holds := true } deadTurning ∧
      dead.call 2 () .getState deadTurning = (some (.state state), σ') ∧
      state.atSpeed = true ∧ (σ'.contexts ()).data.hasProgrammed = true ∧
      (σ'.contexts ()).data.InBand (σ'.contexts ()).data.programmed .zero := by
  have run : dead.Course () .zero deadChecked { isSet := true, holds := true } deadTurning :=
    .own 2 (.deliver (reading 100)) .done
      (.own 2 (.setSpeed (.ofNat 600) false) (.outcome (.ok ())) course_deadCheckedSelected
        trivial rfl) trivial rfl
  obtain ⟨σ', back⟩ : ∃ σ', dead.call 2 () .getState deadTurning =
      (some (.state { atSpeed := true }), σ') := ⟨_, Prod.fst_eq_iff.1 (by decide +kernel)⟩
  have hband := band_of_atSpeed dead () dead_fixesTolerance (by decide) rfl rfl run back rfl
  exact ⟨_, σ', run, back, rfl, hband.2 rfl⟩

/-- **At speed without a speed**: a spindle that has been checked from the beginning is selected, a
reading comes in that the drive stands, and it claims to be at speed with no programmed speed. -/
theorem atSpeed_without_speed :
    dead.FixesTolerance () .zero ∧ (deadChecked.contexts ()).data = { checked := true } ∧
      dead.Course () .zero deadChecked {} deadStanding ∧
      ∃ state σ', dead.call 2 () .getState deadStanding = (some (.state state), σ') ∧
        state.atSpeed = true ∧ (σ'.contexts ()).data.hasProgrammed = false := by
  have run : dead.Course () .zero deadChecked {} deadStanding :=
    .own 2 (.deliver (reading 0)) .done course_deadCheckedSelected trivial rfl
  exact ⟨dead_fixesTolerance, rfl, run, { atSpeed := true }, _,
    Prod.fst_eq_iff.1 (by decide +kernel), rfl, by decide +kernel⟩

end Workshop

end SpindleDrive
