import SpindleDrive.Proofs.Workshop.Showing

/-!
# Remembering tolerances

A speed is programmed under the tolerance that the descriptor of the spindle holds at that moment,
and afterwards nothing tells which that was: the host may change it at any time, also while an
exchange is under way.  So that it can be spoken of, a workshop is given a memory, which no spindle
sees, of the tolerances that were held when the exchanges of one spindle ended.

* `Workshop.remembering` — the workshop with this memory.
* `Scene.seen` — what there is to see of a scene with it.
* **`Workshop.call_seen`** — every call does what it does without.
* `Workshop.Recalls` — runs of a workshop with the tolerances that are remembered of them.
-/

namespace SpindleDrive

open Operation

variable {ι World : Type}

/-- What there is to see of a scene with a memory of tolerances. -/
def Scene.seen (σ : Scene ι (World × List Binary32)) : Scene ι World where
  contexts := σ.contexts
  world := σ.world.1
  notes := σ.notes

/-- A scene with a memory. -/
def Scene.recalling (σ : Scene ι World) (held : List Binary32) :
    Scene ι (World × List Binary32) where
  contexts := σ.contexts
  world := (σ.world, held)
  notes := σ.notes

namespace Workshop

variable [DecidableEq ι]

/-- **A workshop with a memory**: when an exchange of one spindle ends, the tolerance that is held
for the spindle is remembered, the latest first. -/
def remembering (shop : Workshop ι World) (i : ι) : Workshop ι (World × List Binary32) where
  spindle := shop.spindle
  outside j :=
    { isUp w := (shop.outside j).isUp w.1
      silence w := ((shop.outside j).silence w.1, w.2)
      send request mode c w :=
        match (shop.outside j).send request mode c w.1 with
        | (some result, c, world) =>
          (some result, c, world,
            if j = i then (shop.outside j).tolerance world :: w.2 else w.2)
        | (none, c, world) => (none, c, world, w.2)
      elapsed w := (shop.outside j).elapsed w.1
      isColdStart w := (shop.outside j).isColdStart w.1
      journal reply coldStart c w := ((shop.outside j).journal reply coldStart c w.1, w.2)
      raiseAlarm w := ((shop.outside j).raiseAlarm w.1, w.2)
      tolerance w := (shop.outside j).tolerance w.1
      setTolerance tolerance w := ((shop.outside j).setTolerance tolerance w.1, w.2) }
  calls j request mode σ := shop.calls j request mode σ.seen

variable {shop : Workshop ι World} {i : ι}

/-- An exchange that never ends is not remembered. -/
lemma remembering_send_none {j : ι} {request : Request} {mode : SendMode} {c : SpindleContext}
    {w : World × List Binary32}
    (h : (((shop.remembering i).outside j).send request mode c w).1 = none) :
    (((shop.remembering i).outside j).send request mode c w).2.2.2 = w.2 := by
  simp only [remembering] at h ⊢
  rcases hsend : (shop.outside j).send request mode c w.1 with ⟨_ | result, c', world⟩
  · rfl
  · rw [hsend] at h
    cases h

lemma remembering_send_some {j : ι} {request : Request} {mode : SendMode} {c : SpindleContext}
    {w : World × List Binary32} {result : Exchange}
    (h : (((shop.remembering i).outside j).send request mode c w).1 = some result) :
    (((shop.remembering i).outside j).send request mode c w).2.2.2 =
      if j = i then
        (shop.outside j).tolerance
          (((shop.remembering i).outside j).send request mode c w).2.2.1 :: w.2
      else w.2 := by
  simp only [remembering] at h ⊢
  rcases hsend : (shop.outside j).send request mode c w.1 with ⟨_ | result, c', world⟩
  · rw [hsend] at h
    cases h
  · rfl

/-- The memory is not to be seen. -/
lemma remembering_outside (shop : Workshop ι World) (i j : ι) :
    ((shop.remembering i).outside j).Mirrors Prod.fst (shop.outside j) where
  silence _ := rfl
  send request mode c w := by
    simp only [remembering]
    rcases (shop.outside j).send request mode c w.1 with ⟨_ | result, c', world⟩
    · rfl
    · rfl
  elapsed _ := rfl
  isColdStart _ := rfl
  journal _ _ _ _ := rfl
  raiseAlarm _ := rfl
  tolerance _ := rfl
  setTolerance _ _ := rfl

/-- Neither is it in a call from inside an exchange. -/
lemma remembering_shows (shop : Workshop ι World) (patience : Nat) (i : ι) :
    Shows Prod.fst (shop.remembering i) ((shop.remembering i).driver patience) shop
      (shop.driver patience) where
  outside := remembering_outside shop i
  calls _ _ _ _ := rfl
  inner j _ call _ :=
    Mirrors.carryOut (s := shop.spindle j) (Shows.quiet (remembering_outside shop i) j) patience
      call

/-- **No call sees the memory.** -/
theorem call_seen (shop : Workshop ι World) (patience : Nat) (i j : ι) (call : HostCall)
    (σ : Scene ι (World × List Binary32)) :
    shop.call patience j call σ.seen =
      (((shop.remembering i).call patience j call σ).1,
        ((shop.remembering i).call patience j call σ).2.seen) := by
  have hcarry := Mirrors.carryOut (s := shop.spindle j)
    ((remembering_shows shop patience i).surroundings j) patience call
  rw [call_eq_with, call_eq_with]
  exact Shows.call hcarry σ

/-- So every call does what it does in the workshop with the memory. -/
lemma call_recalling (shop : Workshop ι World) (patience : Nat) (i j : ι) (call : HostCall)
    (σ : Scene ι World) (held : List Binary32) :
    shop.call patience j call σ =
      (((shop.remembering i).call patience j call (σ.recalling held)).1,
        ((shop.remembering i).call patience j call (σ.recalling held)).2.seen) :=
  call_seen shop patience i j call (σ.recalling held)

/-- **Runs with what is remembered of them**: the tolerances that were held when the exchanges of
one spindle ended. -/
inductive Recalls (shop : Workshop ι World) (i : ι) (start : Scene ι World) :
    List Binary32 → Scene ι World → Prop where
  | refl : Recalls shop i start [] start
  | outside {held : List Binary32} {σ : Scene ι World} (world : World)
      (h : Recalls shop i start held σ) : Recalls shop i start held { σ with world }
  | call {held : List Binary32} {σ : Scene ι World} (patience : Nat) (j : ι) (call : HostCall)
      (answer : Answer) (h : Recalls shop i start held σ)
      (back : (shop.call patience j call σ).1 = some answer) :
      Recalls shop i start
        ((shop.remembering i).call patience j call (σ.recalling held)).2.world.2
        (shop.call patience j call σ).2

end Workshop

end SpindleDrive
