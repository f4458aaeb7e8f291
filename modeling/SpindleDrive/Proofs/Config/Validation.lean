import Mathlib.Tactic.Lemma
import SpindleDrive.Config.Basic

/-!
# Valid configurations

* **`validate_eq_ok_iff`** — a configuration is accepted for its ratio, its retries and its
  addresses, and for nothing else.
* `ratio_of_validate`, `isSlaveAddress_of_validate` — what it has then.
* `exists_scaleFor` — it has its scales, since `DriveModel.units_ne_zero`.
-/

namespace SpindleDrive

namespace Config

variable {c : Config}

lemma validate_eq_ok_iff_fault? : c.validate = .ok () ↔ c.fault? = none := by
  rw [validate]
  cases c.fault? with
  | none => simp
  | some fault => simp

/-- **What a configuration is accepted for.** -/
theorem validate_eq_ok_iff :
    c.validate = .ok () ↔
      (c.rpmPerHz.isFinite = true ∧ c.rpmPerHz.isPositive = true) ∧ c.retries ≠ 0 ∧
        ∀ address ∈ c.addresses, isSlaveAddress address = true := by
  rw [validate_eq_ok_iff_fault?, fault?]
  by_cases hratio : c.rpmPerHz.isFinite = true ∧ c.rpmPerHz.isPositive = true
  · rw [if_neg (by simp [hratio])]
    by_cases hretries : c.retries = 0
    · simp [hretries]
    · simp [hratio, hretries]
  · rw [if_pos (by simpa using hratio)]
    simp [hratio]

lemma ratio_of_validate (h : c.validate = .ok ()) :
    c.rpmPerHz.isFinite = true ∧ c.rpmPerHz.isPositive = true :=
  (validate_eq_ok_iff.1 h).1

lemma isSlaveAddress_of_validate (h : c.validate = .ok ()) {address : UInt8}
    (hmem : address ∈ c.addresses) : isSlaveAddress address = true :=
  (validate_eq_ok_iff.1 h).2.2 address hmem

/-- **A valid configuration has a scale** for every resolution that is not zero. -/
theorem exists_scaleFor (h : c.validate = .ok ()) {units : UInt16} (hu : units ≠ 0) :
    ∃ scale, c.scaleFor units = .ok scale := by
  refine ⟨⟨c.rpmPerHz, units, (ratio_of_validate h).1, (ratio_of_validate h).2, hu⟩, ?_⟩
  rw [scaleFor, SpeedScale.make, dif_pos (ratio_of_validate h), dif_neg hu]
  rfl

end Config

/-- No model counts in parts of nothing. -/
lemma DriveModel.units_ne_zero (m : DriveModel) :
    m.registers.unitsPerHz ≠ 0 ∧ m.registers.maxFrequencyUnitsPerHz ≠ 0 := by
  cases m <;> decide

end SpindleDrive
