import SpindleDrive.Host.Registry
import SpindleDrive.Spindle.Context

/-!
# Setting up a spindle

A spindle needs a transport and a host, may be given a configuration and a name, and is entered in
the host's register.  It is made once it is entered, since it carries its number in the register.

* `SpindlePlan` — what a spindle is set up from.
* `Enrolment` — a change of the register with a result; a failure leaves the register as it is then,
  whatever has been entered.
* `SpindlePlan.enter` — sets the spindle up, step by step.
* `SpindlePlan.build` — the same with the register that is left by success alone.
-/

namespace SpindleDrive

/-- What a spindle is set up from. -/
structure SpindlePlan where
  hasTransport : Bool := true
  hasHost : Bool := true
  config : Option Config := none
  name : Option String := none
  deriving DecidableEq, Repr

/-- A change of the register with a result.  A failure keeps the register that there is then. -/
abbrev Enrolment : Type → Type := ExceptT DriverError (StateM Registry)

namespace Enrolment

variable {α : Type} {registry : Registry}

theorem run_get_bind (f : Registry → Enrolment α) :
    (ExceptT.run (get >>= f)).run registry = (f registry).run.run registry := rfl

theorem run_set_bind (after : Registry) (f : PUnit → Enrolment α) :
    (ExceptT.run (set after >>= f)).run registry = (f ()).run.run after := rfl

end Enrolment

namespace SpindlePlan

/-- The configuration, the default one if none is given. -/
def settings (p : SpindlePlan) : Config := p.config.getD {}

/-- The descriptor to enter: its name is that of the drive model if none is given. -/
def descriptor (p : SpindlePlan) : Descriptor where
  name := p.name.getD p.settings.model.title
  capabilities := .drive

/-- Sets the spindle up.  The first of these is reported: no transport, no host, a configuration
that cannot be used, no room in the register.  The spindle is entered before it is made. -/
def enter (p : SpindlePlan) : Enrolment (Spindle × SpindleContext) := do
  if !p.hasTransport then throw (.missingPart .transport)
  if !p.hasHost then throw (.missingPart .host)
  ofExcept (p.settings.validate.mapError .config)
  match (← get).register p.descriptor with
  | none => throw .registryFull
  | some (id, registry) =>
    set registry
    ofExcept ((Spindle.make id p.settings).mapError .config)

/-- The spindle with the register that it is entered in, or the failure alone. -/
def build (p : SpindlePlan) (registry : Registry) :
    Except DriverError ((Spindle × SpindleContext) × Registry) :=
  let (made, registry) := p.enter.run.run registry
  made.map (·, registry)

/-- A failure under another name is a failure still. -/
theorem eq_ok_of_mapError {ε ε' α : Type} {x : Except ε α} {f : ε → ε'} {a : α}
    (h : x.mapError f = .ok a) : x = .ok a := by
  cases x with
  | error e =>
      have herror : Except.error (f e) = Except.ok a := h
      cases herror
  | ok b =>
      have hok : (.ok b : Except ε' α) = .ok a := h
      cases hok
      rfl

/-- **What setting up comes to**, step by step, with the register that it leaves. -/
theorem run_enter (p : SpindlePlan) (registry : Registry) :
    p.enter.run.run registry =
      if p.hasTransport = false then (.error (.missingPart .transport), registry)
      else if p.hasHost = false then (.error (.missingPart .host), registry)
      else
        match p.settings.validate, registry.register p.descriptor with
        | .error e, _ => (.error (.config e), registry)
        | .ok (), none => (.error .registryFull, registry)
        | .ok (), some (id, registry) =>
          ((Spindle.make id p.settings).mapError .config, registry) := by
  cases htransport : p.hasTransport with
  | false =>
      rw [enter, htransport]
      rfl
  | true =>
      cases hhost : p.hasHost with
      | false =>
          rw [enter, htransport, hhost]
          rfl
      | true =>
          cases hvalid : p.settings.validate with
          | error e =>
              rw [enter, htransport, hhost, hvalid]
              rfl
          | ok =>
              have hpassed : p.settings.validate.mapError DriverError.config = .ok () := by
                rw [hvalid]
                rfl
              rw [enter, htransport, hhost, hpassed]
              cases hroom : registry.register p.descriptor with
              | none =>
                  simp only [Bool.not_true, Bool.false_eq_true, if_false, pure_bind, ofExcept,
                    Enrolment.run_get_bind, hroom]
                  rfl
              | some entered =>
                  simp only [Bool.not_true, Bool.false_eq_true, if_false, pure_bind, ofExcept,
                    Enrolment.run_get_bind, hroom, Enrolment.run_set_bind]
                  cases Spindle.make entered.1 p.settings with
                  | error e => rfl
                  | ok made => rfl

/-- A spindle that is built is entered, and the register is the one that it is entered in. -/
theorem run_enter_of_build {p : SpindlePlan} {before after : Registry}
    {made : Spindle × SpindleContext} (h : p.build before = .ok (made, after)) :
    p.enter.run.run before = (.ok made, after) := by
  rw [build] at h
  rcases hrun : p.enter.run.run before with ⟨e | entered, left⟩
  · rw [hrun] at h
    cases h
  · rw [hrun] at h
    cases h
    rfl

/-- What is set up has been entered in the register, and its configuration can be used. -/
theorem build_eq_ok {p : SpindlePlan} {before after : Registry} {made : Spindle × SpindleContext}
    (h : p.build before = .ok (made, after)) :
    p.settings.validate = .ok () ∧ ∃ id, before.register p.descriptor = some (id, after) ∧
      Spindle.make id p.settings = .ok made := by
  have hrun := run_enter_of_build h
  rw [run_enter] at hrun
  split at hrun
  · cases hrun
  split at hrun
  · cases hrun
  split at hrun
  · cases hrun
  · cases hrun
  · rename_i id entered hvalid hroom
    obtain ⟨hmake, rfl⟩ := Prod.mk.inj hrun
    exact ⟨hvalid, id, hroom, eq_ok_of_mapError hmake⟩

/-- With every part there and room in the register, a spindle that can be made is set up. -/
theorem build_of_make {p : SpindlePlan} {before after : Registry} {id : SpindleId}
    {made : Spindle × SpindleContext} (htransport : p.hasTransport = true)
    (hhost : p.hasHost = true) (hvalid : p.settings.validate = .ok ())
    (hroom : before.register p.descriptor = some (id, after))
    (hmake : Spindle.make id p.settings = .ok made) : p.build before = .ok (made, after) := by
  simp only [build, run_enter, htransport, hhost, hvalid, hroom, hmake]
  rfl

end SpindlePlan

end SpindleDrive
