import SpindleDrive.Proofs.Workshop.Notes

/-!
# One spindle of a workshop, watched

A condition on one spindle has to survive what the spindle does, what all others do, and whatever
the transports have any of them do from inside an exchange.  For most of this it is enough that the
condition survives the few steps which a spindle takes by itself; only selections, settings and
commands of the spindle that is watched have to be looked at one by one.

* `Scene.Meets` — one spindle meets a condition, and the world another.
* `Workshop.Sustains` — both survive every step that a spindle takes by itself.
* `Sustains.meets_reenter` — so they survive the calls from inside an exchange.  A command is not
  among these, since it would have to send.
* **`Sustains.upholds`** — every spindle of the workshop upholds them.
* `Sustains.permits_setState`, `permits_of_ne` — calls that are permitted: commands that the
  condition survives, and all calls of other spindles.
* **`Sustains.meets_of_call`** — the conditions survive a call by the host that is permitted and
  comes back.
* **`Sustains.meets_of_programmed`** — what the programming of a speed brings about survives a call
  that has programmed one.
* `Sustains.and_ccw` — the direction survives along with any condition.
-/

namespace SpindleDrive

open Operation Surroundings

variable {ι World : Type} [DecidableEq ι]

namespace Scene

/-- One spindle meets a condition, and the world another. -/
def Meets (i : ι) (P : SpindleContext → Prop) (W : World → Prop) (σ : Scene ι World) : Prop :=
  P (σ.contexts i) ∧ W σ.world

variable {i j : ι} {P : SpindleContext → Prop} {W : World → Prop} {σ σ' : Scene ι World}
  {c c' : SpindleContext}

@[simp] lemma meets_put_self : (σ.put i c).Meets i P W ↔ P c ∧ W σ.world := by
  rw [Meets, put_contexts_self, put_world]

/-- What is noted has no part in it. -/
lemma Meets.begun (h : σ.Meets i P W) (j : ι) (n : Note ι) :
    ((σ.note n).put j (σ.contexts j)).Meets i P W := by
  have hput : (σ.note n).put j (σ.contexts j) = σ.note n := put_contexts (σ.note n) j
  rw [hput]
  exact h

/-- A step of any spindle: if it is the one that is watched its state has to meet the condition, and
if not it has no part in it. -/
lemma Meets.step (h : (σ.put j c).Meets i P W) (contexts : σ'.contexts = σ.contexts)
    (own : j = i → W σ.world → P c → P c') (world : W σ.world → W σ'.world) :
    (σ'.put j c').Meets i P W := by
  obtain ⟨hP, hW⟩ := h
  refine ⟨?_, world hW⟩
  by_cases hj : i = j
  · subst hj
    rw [put_contexts_self] at hP ⊢
    exact own rfl hW hP
  · rw [put_contexts_of_ne _ hj] at hP ⊢
    rwa [contexts]

end Scene

namespace Workshop

/-- **What a spindle does by itself sustains** a condition on the spindle that is watched and one on
the world. -/
structure Sustains (shop : Workshop ι World) (i : ι) (P : SpindleContext → Prop)
    (W : World → Prop) : Prop where
  book : ∀ c c', c.Resembles c' → P c → P c'
  program : ∀ rpm progress c w, W w → P c →
    P (c.endSpeed rpm ((shop.outside i).tolerance w) progress)
  read : ∀ reply rest coldStart c, P c → P ((shop.spindle i).takeIn reply rest coldStart c)
  spares : ∀ j, (shop.outside j).Spares W

namespace Sustains

variable {shop : Workshop ι World} {patience : Nat} {i j : ι} {P : SpindleContext → Prop}
  {W : World → Prop} {σ σ' : Scene ι World}

/-- With any transport that bears the conditions a spindle upholds them. -/
lemma upholds_of_bears (h : shop.Sustains i P W) (j : ι)
    {send : Request → SendMode → SpindleContext → Scene ι World →
      Option Exchange × SpindleContext × Scene ι World}
    (bears : ∀ request, ({ shop.quiet j with send } : Surroundings (Scene ι World)).Bears
      (fun c σ => (σ.put j c).Meets i P W) (fun _ _ => True) request) :
    ({ shop.quiet j with send } : Surroundings (Scene ι World)).Upholds (shop.spindle j)
      (fun c σ => (σ.put j c).Meets i P W) fun _ _ => True where
  ended _ _ _ := trivial
  book c c' σ hr hI := hI.step rfl (fun _ _ => h.book c c' hr) id
  program rpm progress c σ hI := by
    refine hI.step rfl (fun hj hW hP => ?_) id
    subst hj
    exact h.program rpm progress c σ.world hW hP
  read reply rest c σ hI := by
    refine hI.step rfl (fun hj _ hP => ?_) ((h.spares j).journal _ _ c σ.world)
    subst hj
    exact h.read reply rest _ c hP
  raiseAlarm c σ hI := hI.step rfl (fun _ _ hP => hP) ((h.spares j).raiseAlarm σ.world)
  send request _ := bears request

/-! ## Calls from inside an exchange -/

lemma upholds_quiet (h : shop.Sustains i P W) (j : ι) :
    (shop.quiet j).Upholds (shop.spindle j) (fun c σ => (σ.put j c).Meets i P W)
      fun _ _ => True := by
  refine h.upholds_of_bears j fun request mode c σ _ => ?_
  refine ((shop.quiet_isTaken j).leads_exchange request mode).mono ?_
  rintro _ c σ rfl
  trivial

/-- A call from inside an exchange leaves the conditions met if it comes back. -/
lemma meets_reenter (h : shop.Sustains i P W) (j : ι) (call : InnerCall) (σ : Scene ι World)
    (back : (shop.reenter patience j call σ).1.isSome = true) (hmeets : σ.Meets i P W) :
    (shop.reenter patience j call σ).2.Meets i P W := by
  refine of_reenter hmeets (fun hostCall hcall => ?_) back
  have hput : (σ.put j (σ.contexts j)).Meets i P W := by rwa [Scene.put_contexts]
  have hcarry (hpermits : Upholds.Permits (shop.quiet j) (shop.spindle j)
      (fun c σ => (σ.put j c).Meets i P W) (fun _ _ => True) hostCall) :
      Leads ((shop.spindle j).carryOut (shop.quiet j) patience hostCall)
        (fun r c σ' => ∀ answer, r = some answer → (σ'.put j c).Meets i P W) (σ.contexts j) σ := by
    refine ((h.upholds_quiet j).leads_carryOut patience hostCall hpermits hput).mono ?_
    rintro _ c σ' hend answer rfl
    exact hend
  cases call <;> cases hcall
  case setState state rpm =>
    -- a command that comes back was refused, so that nothing has changed
    rw [Spindle.carryOut, leads_map]
    refine ((shop.quiet_isTaken j).leads_setState patience state rpm).mono ?_
    rintro (_ | a) c σ' hrefused
    · simp
    · obtain ⟨rfl, rfl, -⟩ := hrefused a rfl
      exact fun _ _ => hput
  case setSpeed => exact hcarry trivial
  case deliver => exact hcarry trivial
  case getData => exact hcarry trivial

/-! ## Calls by the host -/

lemma bears (h : shop.Sustains i P W) (j : ι) (request : Request) :
    (shop.surroundings patience j).Bears (fun c σ => (σ.put j c).Meets i P W)
      (fun _ _ => True) request := by
  intro mode c σ hI
  refine leads_exchange_of (R := fun σ σ' => σ.Meets i P W → σ'.Meets i P W) (fun _ h => h)
    (fun _ _ _ h h' hmeets => h' (h hmeets))
    (fun j call σ back hmeets => h.meets_reenter j call σ back hmeets) (fun _ _ => trivial) ?_
  intro result σ' hcalls
  obtain ⟨hP, hW⟩ := hcalls hI
  have hend : (σ'.put j (σ'.contexts j)).Meets i P W := by
    rw [Scene.put_contexts]
    exact ⟨hP, hW⟩
  exact hend.step rfl (fun _ _ hP => hP) ((h.spares j).send request mode _ σ'.world)

/-- **Every spindle of the workshop upholds the conditions** on the one that is watched. -/
theorem upholds (h : shop.Sustains i P W) (patience : Nat) (j : ι) :
    (shop.surroundings patience j).Upholds (shop.spindle j)
      (fun c σ => (σ.put j c).Meets i P W) fun _ _ => True :=
  h.upholds_of_bears j (h.bears j)

/-- A command that the condition survives is permitted. -/
lemma permits_setState (h : shop.Sustains i P W) {state : SpindleState} (rpm : Binary32)
    (take : ∀ c, P c → P (c.takeCommand state)) :
    Upholds.Permits (shop.surroundings patience i) (shop.spindle i)
      (fun c σ => (σ.put i c).Meets i P W) (fun _ _ => True) (.setState state rpm) :=
  ⟨fun c _ hI => hI.step rfl (fun _ _ => take c) id, fun _ => h.bears i _⟩

/-- **A call that is permitted leaves the conditions met** if it comes back. -/
theorem meets_of_call (h : shop.Sustains i P W) {call : HostCall} {answer : Answer}
    (hmeets : σ.Meets i P W) (back : shop.call patience j call σ = (some answer, σ'))
    (hpermits : Upholds.Permits (shop.surroundings patience j) (shop.spindle j)
      (fun c σ => (σ.put j c).Meets i P W) (fun _ _ => True) call) : σ'.Meets i P W := by
  obtain ⟨c, σ'', hend, rfl⟩ := exists_of_call
    ((h.upholds patience j).leads_carryOut patience call hpermits (hmeets.begun j _)) back
  exact hend

/-- **A call that programs a speed** leaves met what the programming brings about, if a command does
not prevent it. -/
theorem meets_of_programmed {P' : SpindleContext → Prop} (h : shop.Sustains i P W)
    (h' : shop.Sustains i P' W)
    (program : ∀ rpm progress c w, W w → P c →
      P' (c.endSpeed rpm ((shop.outside i).tolerance w) progress))
    {call : HostCall} {answer : Answer}
    (hcall : (∃ rpm blocking, call = .setSpeed rpm blocking) ∨
      ∃ state rpm, call = .setState state rpm ∧ ∀ c, P c → P (c.takeCommand state))
    (hprogrammed : answer.isProgrammed = true) (hmeets : σ.Meets i P W)
    (back : shop.call patience i call σ = (some answer, σ')) : σ'.Meets i P' W := by
  have hprogram (rpm : Binary32) (progress : OperationState) (c : SpindleContext)
      (σ : Scene ι World) (hI : (σ.put i c).Meets i P W) :
      (σ.put i (c.endSpeed rpm ((shop.surroundings patience i).tolerance σ) progress)).Meets i P'
        W := by
    rw [Scene.meets_put_self] at hI ⊢
    exact ⟨program rpm progress c σ.world hI.2 hI.1, hI.2⟩
  have hcarry : Leads
      ((shop.spindle i).carryOut (shop.surroundings patience i) patience call)
      (fun r c σ' => ∀ answer, r = some answer → answer.isProgrammed = true →
        (σ'.put i c).Meets i P' W) (σ.contexts i) (σ.note (.called i call)) := by
    obtain ⟨rpm, blocking, rfl⟩ | ⟨state, rpm, rfl, take⟩ := hcall
    · rw [Spindle.carryOut, leads_map]
      refine ((h.upholds patience i).leads_setSpeed_programmed (h'.upholds patience i) hprogram rpm
        blocking (hmeets.begun i _)).mono ?_
      rintro (_ | a) c σ' hend
      · simp
      · rintro answer ⟨⟩
        exact hend a rfl
    · rw [Spindle.carryOut, leads_map]
      refine ((h.upholds patience i).leads_setState_programmed (h'.upholds patience i) hprogram
        (h.permits_setState rpm take) (hmeets.begun i _)).mono ?_
      rintro (_ | a) c σ' hend
      · simp
      · rintro answer ⟨⟩
        exact hend a rfl
  obtain ⟨c, σ'', hend, rfl⟩ := exists_of_call hcarry back
  exact hend answer rfl hprogrammed

/-- Other spindles may be called for anything, if the world puts up with it. -/
lemma permits_of_ne (h : shop.Sustains i P W) (hj : j ≠ i)
    (silence : ∀ w, W w → W ((shop.outside j).silence w))
    (setTolerance : ∀ tolerance w, W w → W ((shop.outside j).setTolerance tolerance w))
    (call : HostCall) :
    Upholds.Permits (shop.surroundings patience j) (shop.spindle j)
      (fun c σ => (σ.put j c).Meets i P W) (fun _ _ => True) call :=
  Upholds.permits_of_heardAlike
    (fun _ _ _ _ hI => hI.step rfl (fun h => absurd h hj) id)
    (fun _ σ hI => hI.step rfl (fun h => absurd h hj) (silence σ.world))
    (fun tolerance _ σ hI => hI.step rfl (fun h => absurd h hj) (setTolerance tolerance σ.world))
    (fun _ _ => h.bears j _) call

omit [DecidableEq ι] in
/-- The direction survives along with any condition. -/
lemma and_ccw (h : shop.Sustains i P W) (ccw : Bool) :
    shop.Sustains i (fun c => P c ∧ c.state.ccw = ccw) W where
  book c c' hr hP := ⟨h.book c c' hr hP.1, hr.ccw.trans hP.2⟩
  program rpm progress c w hW hP := ⟨h.program rpm progress c w hW hP.1, hP.2⟩
  read reply rest coldStart c hP := ⟨h.read reply rest coldStart c hP.1, hP.2⟩
  spares := h.spares

end Sustains

end Workshop

end SpindleDrive
