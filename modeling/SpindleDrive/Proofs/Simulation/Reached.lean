import SpindleDrive.Proofs.Number.Bands
import SpindleDrive.Proofs.Simulation.Look

/-!
# Whether a spindle reaches its speed

A drive on which nothing fails follows its set frequency, which is the requested speed rounded to
the resolution of the drive.  The band of a tolerance lies around the request itself, so the verdict
is that of the band on the rounded speed.

* `Spindle.startAndRead` — a tolerance, a command, and the state once a reading has been delivered.
* **`atSpeed_of_reading`** — the spindle is told to be at speed exactly if the rounded speed is in
  the band of the request, and always if the request needs no rounding.
* `atSpeed_missed` — ten revolutions are rounded to twelve, and no reading ever brings them into a
  band of five per cent.
-/

namespace SpindleDrive

open Operation

/-- The host sets a tolerance and gives a command to run; when its clock stands at `now` it asks for
the state, has the replies delivered, and asks again. -/
def Spindle.startAndRead (s : Spindle) (tolerance rpm : Binary32) (ccw : Bool) (now : UInt64) :
    Operation Rig (Except DriverError Unit × SpindleState) := do
  let env := Rig.surroundings s.id
  applySettings env { tolerance } { spindle := true }
  let result ← s.setState env (← Rig.patience) { on := true, ccw } rpm
  affect fun r => { r with host := { r.host with elapsed := now } }
  let state ← s.look
  return (result, state)

/-- **When a spindle is at speed.**  With nothing failing, and a tolerance that is not negative, the
command comes back well, and the first reading after it settles the verdict: it is that of the band
around the requested speed on the speed that the drive's resolution leaves of it.  A speed that
needs no rounding is always reached. -/
theorem atSpeed_of_reading {s : Spindle} {c : SpindleContext} {r : Rig} (h : Linked s c r)
    (hretries : 0 < s.retries) (hfailing : r.bus.failing = 0)
    (hcalm : ∀ reply ∈ r.bus.pending, reply.isException = false)
    {d : Descriptor} (hentered : r.registry.get? s.id = some d) {tolerance rpm : Binary32}
    (htolerance : tolerance.isNonneg = true) (hrpm : rpm.isPositive = true) (ccw : Bool)
    {now : UInt64} (hdue : c.pollDue now s.config.pollInterval = true) :
    ∃ atSpeed c' r', (s.startAndRead tolerance rpm ccw now).run.run (c, r) =
        (some (.ok (), { on := true, ccw, atSpeed }), c', r') ∧
      c'.data.measured = s.reader.scale.toSpeed (s.reader.scale.toCode rpm) ∧
      atSpeed = (Binary32.le (rpm * (SpeedData.one - tolerance / SpeedData.hundred))
          c'.data.measured &&
        Binary32.le c'.data.measured (rpm * (SpeedData.one + tolerance / SpeedData.hundred))) ∧
      (rpm.isFinite = true → c'.data.measured = rpm → atSpeed = true) := by
  suffices h : Leads (s.startAndRead tolerance rpm ccw now)
      (fun told c' _ => ∃ result, told = some result ∧ ∃ atSpeed,
        result = (.ok (), { on := true, ccw, atSpeed }) ∧
        c'.data.measured = s.reader.scale.toSpeed (s.reader.scale.toCode rpm) ∧
        atSpeed = (Binary32.le (rpm * (SpeedData.one - tolerance / SpeedData.hundred))
            c'.data.measured &&
          Binary32.le c'.data.measured (rpm * (SpeedData.one + tolerance / SpeedData.hundred))) ∧
        (rpm.isFinite = true → c'.data.measured = rpm → atSpeed = true)) c r by
    obtain ⟨_, c', r', hrun, atSpeed, rfl, hread⟩ := h.exists_run
    exact ⟨atSpeed, c', r', hrun, hread⟩
  simp only [Spindle.startAndRead, leads_bind, Rig.leads_patience]
  refine leads_applySettings (fun hunchanged => by simp at hunchanged) fun _ => ?_
  -- the tolerance is set, and the command goes through
  have h₁ : Linked s { c with data := { c.data with checked := tolerance.isNonneg } }
      { r with registry := r.registry.modify s.id ({ · with tolerance }) } :=
    ⟨⟨h.up, h.refusals, h.queued⟩, h.selected, h.status, h.speed, h.reading, h.inbox, h.address,
      h.registers⟩
  refine (h₁.leads_setState hretries { on := true, ccw } rpm).mono ?_
  rintro _ _ _ ⟨log, -, hstarted⟩
  rw [if_pos (hfailing.trans_lt hretries)] at hstarted
  obtain ⟨rfl, rfl, rfl⟩ := hstarted
  simp only [leads_affect]
  -- the clock is set, and the drive runs at the frequency of the speed
  have h₂ : Linked s
      ({ c with data := { c.data with checked := tolerance.isNonneg } }.started { on := true, ccw }
        rpm ((r.registry.modify s.id ({ · with tolerance })).tolerance s.id))
      { r with
        registry := r.registry.modify s.id ({ · with tolerance })
        bus := { r.bus with
          log, failing := 0
          drive := r.bus.drive.started { on := true, ccw } rpm (s.reader.scale.toCode rpm) }
        host := { r.host with elapsed := now } } :=
    ⟨⟨h.up, h.refusals, h.queued⟩, h.selected, rfl, rfl, h.reading, rfl, h.address, h.registers⟩
  refine (h₂.leads_look hcalm).mono ?_
  rintro _ c' r' ⟨rfl, hlooked⟩
  simp only [leads_pure]
  obtain ⟨hmeasured, hverdict⟩ := hlooked.measured hdue rfl
  have hreached : c'.data.measured = s.reader.scale.toSpeed (s.reader.scale.toCode rpm) := by
    rw [hmeasured, s.speedOf_started, Binary32.isZero_of_isPositive hrpm]
    rfl
  have htold : c'.data.commanded.atSpeed =
      (Binary32.le (rpm * (SpeedData.one - tolerance / SpeedData.hundred)) c'.data.measured &&
        Binary32.le c'.data.measured
          (rpm * (SpeedData.one + tolerance / SpeedData.hundred))) := by
    rw [hverdict, ← hmeasured, SpindleContext.started, Registry.tolerance_modify hentered]
    simp [SpeedData.accepts, SpeedData.program, SpindleContext.takeCommand, htolerance]
  refine ⟨_, rfl, _, Prod.ext rfl hlooked.state, hreached, htold, fun hfinite hexact => ?_⟩
  have hband := SpeedData.accepts_program { checked := true } hrpm hfinite htolerance
  rw [htold, hexact]
  simpa [SpeedData.accepts, SpeedData.program] using hband

/-- A rig on which nothing fails, with the drive of a first spindle that is entered. -/
def Rig.healthy : Rig where
  bus := .ofDrive (.ofModel 1 .yl620)
  registry := { descriptors := [{ name := "First", capabilities := .drive }] }

lemma Rig.healthy_linked : Linked Spindle.sample.1 Spindle.sampleSelected .healthy :=
  ⟨⟨rfl, rfl, rfl⟩, rfl, rfl, rfl, rfl, rfl, rfl, rfl⟩

/-- Six hundred revolutions need no rounding. -/
theorem atSpeed_of_exact_reading :
    Linked Spindle.sample.1 Spindle.sampleSelected .healthy ∧ 0 < Spindle.sample.1.retries ∧
    Rig.healthy.bus.failing = 0 ∧
    (∀ reply ∈ Rig.healthy.bus.pending, reply.isException = false) ∧
    (∃ d, Rig.healthy.registry.get? Spindle.sample.1.id = some d) ∧
    (Binary32.ofNat 5).isNonneg = true ∧ (Binary32.ofNat 600).isPositive = true ∧
    Spindle.sampleSelected.pollDue 0 Spindle.sample.1.config.pollInterval = true ∧
    ∃ c' r', (Spindle.sample.1.startAndRead (.ofNat 5) (.ofNat 600) false 0).run.run
      (Spindle.sampleSelected, .healthy) =
        (some (.ok (), { on := true, atSpeed := true }), c', r') := by
  have hretries : 0 < Spindle.sample.1.retries := by decide
  have hcalm : ∀ reply ∈ Rig.healthy.bus.pending, reply.isException = false := by decide
  have hentered : Rig.healthy.registry.get? Spindle.sample.1.id =
      some { name := "First", capabilities := .drive } := rfl
  have htolerance : (Binary32.ofNat 5).isNonneg = true := by decide +kernel
  have hrpm : (Binary32.ofNat 600).isPositive = true := by decide +kernel
  have hdue : Spindle.sampleSelected.pollDue 0 Spindle.sample.1.config.pollInterval = true := by
    decide
  obtain ⟨atSpeed, c', r', hrun, hmeasured, -, hreached⟩ := atSpeed_of_reading
    Rig.healthy_linked hretries rfl hcalm hentered htolerance hrpm false hdue
  have hfinite : (Binary32.ofNat 600).isFinite = true := by decide +kernel
  have hexact : Spindle.sample.1.reader.scale.toSpeed
      (Spindle.sample.1.reader.scale.toCode (.ofNat 600)) = .ofNat 600 := by decide +kernel
  rw [hreached hfinite (hmeasured.trans hexact)] at hrun
  exact ⟨Rig.healthy_linked, hretries, rfl, hcalm, ⟨_, hentered⟩, htolerance, hrpm, hdue, c', r',
    hrun⟩

/-- Ten revolutions are rounded to twelve, which no band of five per cent around ten holds: the
spindle is not told to be at speed, though nothing fails. -/
theorem atSpeed_missed :
    Linked Spindle.sample.1 Spindle.sampleSelected .healthy ∧
    Spindle.sample.1.config.validate = .ok () ∧ Rig.healthy.bus.failing = 0 ∧
    (Binary32.ofNat 5).isNonneg = true ∧ (Binary32.ofNat 10).isPositive = true ∧
    Binary32.le (.ofNat 10) (Spindle.sample.1.reader.scale.toSpeed 65535) = true ∧
    Spindle.sampleSelected.pollDue 0 Spindle.sample.1.config.pollInterval = true ∧
    ((Spindle.sample.1.startAndRead (.ofNat 5) (.ofNat 10) false 0).run.run
      (Spindle.sampleSelected, .healthy)).1 = some (.ok (), { on := true, atSpeed := false }) :=
  ⟨Rig.healthy_linked, by decide +kernel, rfl, by decide +kernel, by decide +kernel,
    by decide +kernel, by decide, by decide +kernel⟩

end SpindleDrive
