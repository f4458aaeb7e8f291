import SpindleDrive.Proofs.Workshop.Ledger

/-!
# What the host is alarmed for

Alarms are raised in three places that nest in each other: where a command has used up its
attempts, where a speed has, and where a reply is read.  Seen from outside there are two reasons
only, and each of them counts once.

* `Note.isAlarm`, `Note.isEscalated` — an alarm, and the reading of a reply that causes one: a
  refusal that is read during a cold start, or that makes the count of refusals reach its bound.
* **`Workshop.alarms_of_call`** — the alarms of a call are its escalated readings, and one more if
  it comes back exhausted.
-/

namespace SpindleDrive

namespace Note

variable {ι : Type}

/-- Whether an alarm is noted. -/
def isAlarm : Note ι → Bool
  | alarm _ => true
  | _ => false

/-- Whether the reading of a reply is noted that the host is alarmed for. -/
def isEscalated : Note ι → Bool
  | read _ reply coldStart before => before.isEscalatedBy reply coldStart
  | _ => false

/-- If nothing but alarms has a price, notes are worth the alarms that no reply has caused. -/
lemma sum_worth_alarms (notes : List (Note ι)) :
    (notes.map (worth 1 0)).sum = notes.countP isAlarm - notes.countP isEscalated := by
  induction notes with
  | nil => rfl
  | cons n rest ih =>
      rw [List.map_cons, List.sum_cons, ih, List.countP_cons, List.countP_cons]
      cases n with
      | alarm i =>
          simp only [worth, isAlarm, isEscalated, if_true, Bool.false_eq_true, if_false]
          omega
      | read i reply coldStart before =>
          cases h : before.isEscalatedBy reply coldStart
          · simp [worth, isAlarm, isEscalated, h]
          · simp only [worth, isAlarm, isEscalated, h, if_true, ite_self, Bool.false_eq_true,
              if_false]
            omega
      | called | sending | exchanged =>
          simp only [worth, isAlarm, isEscalated, Bool.false_eq_true, if_false, ite_self]
          omega

end Note

namespace Workshop

variable {ι World : Type} [DecidableEq ι]

/-- **What the host is alarmed for.**  In any workshop, whatever the transports answer and whomever
they call meanwhile, a call by the host that comes back has raised one alarm for each refusal read
during it that was found in a cold start or filled the count of refusals, and one more if every
attempt of it failed.  Only a call that waits for the drive can fail in that way, and a call that
is refused leaves no trace but its own. -/
theorem alarms_of_call (shop : Workshop ι World) (patience : Nat) (i : ι) (call : HostCall)
    (σ σ' : Scene ι World) (answer : Answer)
    (back : shop.call patience i call σ = (some answer, σ')) :
    ∃ made, σ'.notes = made ++ σ.notes ∧
      made.countP Note.isAlarm =
        made.countP Note.isEscalated + (if answer.isExhausted then 1 else 0) ∧
      (call.waits = false → answer.isExhausted = false) ∧
      (∀ e, call.refusal? (σ.contexts i) = some e →
        answer = .outcome (.error e) ∧ made = [.called i call]) := by
  obtain ⟨made, hnotes, hsum, hwaits⟩ :=
    shop.balance_of_call patience i call σ σ' answer 1 0 back
  refine ⟨made, hnotes, ?_, hwaits, fun e he => ?_⟩
  · rw [Note.sum_worth_alarms] at hsum
    cases hex : answer.isExhausted
    · simp only [hex, Bool.false_eq_true, if_false, ite_self] at hsum ⊢
      omega
    · simp only [hex, if_true, ite_self] at hsum ⊢
      omega
  · obtain ⟨c', σ₂, ⟨hanswer, rfl, rfl⟩, hσ⟩ := exists_of_call (Spindle.leads_refused he) back
    have happend : [Note.called i call] ++ σ.notes = made ++ σ.notes := by
      rw [← hnotes, hσ]
      rfl
    exact ⟨Option.some.inj hanswer, (List.append_cancel_right happend).symm⟩

/-- On a dead line a spindle that is to start comes back exhausted, so it has raised one alarm. -/
theorem alarms_of_dead_call :
    dead.call 1 () (.setState .cw (.ofNat 600)) deadSelected =
        (some (.outcome (.error (.exhausted .setStatus 2 .notUp))), deadFailed) ∧
      ∃ made, deadFailed.notes = made ++ deadSelected.notes ∧
        made.countP Note.isAlarm = made.countP Note.isEscalated + 1 :=
  have back : dead.call 1 () (.setState .cw (.ofNat 600)) deadSelected =
      (some (.outcome (.error (.exhausted .setStatus 2 .notUp))), deadFailed) := rfl
  have ⟨made, hmade, halarms, _⟩ := alarms_of_call _ _ _ _ _ _ _ back
  ⟨back, made, hmade, halarms⟩

end Workshop

end SpindleDrive
