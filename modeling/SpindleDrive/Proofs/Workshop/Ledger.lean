import Mathlib.Algebra.Ring.Int.Defs
import SpindleDrive.Proofs.Operation.Ledger
import SpindleDrive.Proofs.Workshop.Notes

/-!
# The notes of a workshop as a ledger

Every note is an entry, so that what has been noted during a call adds up to what the call accounts
for.  The calls that a transport makes during an exchange add up to nothing: one that owes anything
would have to send.

* `Note.worth`, `Scene.balance` — the entries of a fine for alarms and a price for speeds that
  nobody waits for.
* `balance_reenter` — a call from inside an exchange.
* **`surroundings_ledger`** — what a spindle sees of a workshop keeps the ledger.
* **`balance_of_call`** — the notes of a call by the host add up to what the call owes.
-/

namespace SpindleDrive

open Operation

variable {ι World : Type} {fine price : Int}

/-- What a note enters. -/
def Note.worth (fine price : Int) : Note ι → Int
  | alarm _ => fine
  | sending _ request mode _ => if request.isUpdate mode then price else 0
  | read _ reply coldStart before =>
    -(if before.isEscalatedBy reply coldStart then fine else 0) -
      if before.isReissuedBy reply coldStart then price else 0
  | called .. | exchanged .. => 0

namespace Scene

/-- What all notes add up to. -/
def balance (fine price : Int) (σ : Scene ι World) : Int :=
  (σ.notes.map (Note.worth fine price)).sum

lemma balance_note (σ : Scene ι World) (n : Note ι) :
    (σ.note n).balance fine price = σ.balance fine price + n.worth fine price := by
  rw [balance, note_notes, List.map_cons, List.sum_cons, Int.add_comm]
  rfl

/-- The world is not entered. -/
lemma balance_world (σ : Scene ι World) (world : World) :
    ({ σ with world } : Scene ι World).balance fine price = σ.balance fine price := rfl

/-- What has been noted adds what it is worth itself. -/
lemma balance_of_made {σ σ' : Scene ι World} {made : List (Note ι)}
    (h : σ'.notes = made ++ σ.notes) :
    σ'.balance fine price =
      σ.balance fine price + (made.map (Note.worth fine price)).sum := by
  rw [balance, balance, h, List.map_append, List.sum_append, Int.add_comm]

end Scene

namespace Workshop

variable {shop : Workshop ι World} {patience : Nat} {i : ι}

lemma quiet_ledger (shop : Workshop ι World) (i : ι) (fine price : Int) :
    (shop.quiet i).Ledger (Scene.balance fine price) fine price where
  silence _ := rfl
  send _ _ _ _ h := by simp [quiet] at h
  journal reply coldStart c σ := by
    refine (Scene.balance_note _ _).trans ?_
    rw [Scene.balance_world, Note.worth]
    omega
  raiseAlarm σ := (Scene.balance_note _ _).trans (by rw [Scene.balance_world, Note.worth])
  setTolerance _ _ := rfl

variable [DecidableEq ι]

/-- A call from inside an exchange owes nothing if it comes back: it is not exhausted, and it has
sent nothing. -/
lemma balance_reenter (shop : Workshop ι World) (patience : Nat) (i : ι) (call : InnerCall)
    (σ : Scene ι World) (back : (shop.reenter patience i call σ).1.isSome = true) :
    σ.balance fine price = (shop.reenter patience i call σ).2.balance fine price := by
  refine of_reenter (R := fun σ' => σ.balance fine price = σ'.balance fine price) rfl
    (fun hostCall hcall => ?_) back
  have hinner := (shop.quiet_isTaken i).leads_inner (s := shop.spindle i) (c := σ.contexts i)
    (w := σ) patience hcall
  have hledger := (shop.quiet_ledger i fine price).leads_carryOut (s := shop.spindle i)
    (c := σ.contexts i) (w := σ) patience hostCall
  cases hupdate : hostCall.isUpdate (σ.contexts i)
  · refine (hinner.and hledger).mono ?_
    rintro r c σ' ⟨hinner, hledger⟩ answer rfl
    have hbalance := (hledger answer rfl).1
    rw [(hinner answer rfl).2, hupdate] at hbalance
    simpa [Scene.balance] using hbalance.symm
  · refine ((shop.quiet_isTaken i).leads_update hupdate).mono ?_
    rintro _ c σ' rfl
    simp

/-- **A workshop keeps the ledger**, since an exchange that ends has made only calls that came
back. -/
theorem surroundings_ledger (shop : Workshop ι World) (patience : Nat) (i : ι)
    (fine price : Int) :
    (shop.surroundings patience i).Ledger (Scene.balance fine price) fine price where
  silence := (shop.quiet_ledger i fine price).silence
  journal := (shop.quiet_ledger i fine price).journal
  raiseAlarm := (shop.quiet_ledger i fine price).raiseAlarm
  setTolerance := (shop.quiet_ledger i fine price).setTolerance
  send request mode c σ := by
    refine (Operation.leads_exchange _ request mode).1 (leads_exchange_of
      (Q := fun r _ σ' => r.isSome = true → σ'.balance fine price =
        σ.balance fine price + if request.isUpdate mode then price else 0)
      (R := fun σ σ' => σ.balance fine price = σ'.balance fine price) (fun _ => rfl)
      (fun _ _ _ h h' => h.trans h')
      (fun i call σ back => shop.balance_reenter patience i call σ back) (fun _ _ => by simp) ?_)
    intro result σ' hcalls _
    rw [Scene.balance_note, Note.worth] at hcalls
    rw [Scene.balance_note, Scene.balance_world, ← hcalls, Note.worth, Int.add_zero]
    rfl

/-- **The notes of a call add up to what it owes.**  The fine is owed by a call that waits for the
drive only. -/
theorem balance_of_call (shop : Workshop ι World) (patience : Nat) (i : ι) (call : HostCall)
    (σ σ' : Scene ι World) (answer : Answer) (fine price : Int)
    (back : shop.call patience i call σ = (some answer, σ')) :
    ∃ made, σ'.notes = made ++ σ.notes ∧
      (made.map (Note.worth fine price)).sum =
          (if answer.isExhausted then fine else 0) +
            (if call.isUpdate (σ.contexts i) then price else 0) ∧
      (call.waits = false → answer.isExhausted = false) := by
  obtain ⟨made, hmade⟩ := shop.exists_made_call patience i call σ
  have hnotes : σ'.notes = (made ++ [.called i call]) ++ σ.notes := by
    simpa [back] using hmade
  have hledger := (shop.surroundings_ledger patience i fine price).leads_carryOut
    (s := shop.spindle i) (c := σ.contexts i) (w := σ.note (.called i call)) patience call
  obtain ⟨c, σ'', h, rfl⟩ := exists_of_call hledger back
  obtain ⟨hbalance, hwaits⟩ := h answer rfl
  refine ⟨made ++ [.called i call], hnotes, ?_, hwaits⟩
  have hcalled : (σ.note (.called i call)).balance fine price = σ.balance fine price := by
    rw [Scene.balance_note, Note.worth, Int.add_zero]
  have hput : (σ''.put i c).balance fine price = σ''.balance fine price := rfl
  have hsum : (σ''.put i c).balance fine price = σ.balance fine price +
      ((made ++ [Note.called i call]).map (Note.worth fine price)).sum :=
    Scene.balance_of_made hnotes
  omega

end Workshop

end SpindleDrive
