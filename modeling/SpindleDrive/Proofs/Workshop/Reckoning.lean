import SpindleDrive.Proofs.Workshop.Underway

/-!
# Spindles agree with their accounts

A call enters in the account of a spindle what it brings about, and brings it about at once or by
what it does underway.  So between calls a spindle holds what its account comes to, and it does
whenever a request is handed over.

* `Underway.begin` — a call begins with what it enters.
* `leads_setState_underway` and its like — each kind of call leaves accounts right.
* **`leads_carryOut_accounted`** — so does every call.
* `Recalls.isAccounted` — so does every run.
* **`account_of_run`** — a spindle agrees with its account after every run, and at every request of
  one more call.
-/

namespace SpindleDrive

open Operation Surroundings

variable {ι World : Type} [DecidableEq ι]

namespace Workshop

variable {shop : Workshop ι World} {i j : ι} {rpm : Binary32} {F : Nat → Prop}
  {c' : SpindleContext} {σ : Scene ι (World × List Binary32)}

/-! ## Calls -/

section

variable (h : σ.IsAccounted (shop.spindle i) i)

include h

/-- A call begins with what it enters, and with no attempt made. -/
lemma Underway.begin {call : HostCall} (asked : askedSpeed j (.called j call :: σ.notes) = rpm)
    (hF : F 0)
    (own : j = i → (σ.contexts j).Agrees ((shop.spindle i).account i σ.notes σ.world.2) →
      c'.Agrees (((shop.spindle i).enteredBy? ((shop.spindle i).account i σ.notes σ.world.2)
        call).toList ++ (shop.spindle i).account i σ.notes σ.world.2)) :
    shop.Underway i j rpm F c' (σ.note (.called j call)) := by
  refine ⟨h.called j call fun hj => own hj ?_, asked, hF⟩
  rw [hj]
  exact h.agrees

/-- So does one that enters nothing. -/
lemma Underway.begin_of_none {call : HostCall}
    (asked : askedSpeed j (.called j call :: σ.notes) = rpm) (hF : F 0)
    (hcall : ∀ account, (shop.spindle i).enteredBy? account call = none) :
    shop.Underway i j rpm F (σ.contexts j) (σ.note (.called j call)) :=
  begin h asked hF fun _ hagrees => by rwa [hcall]

lemma leads_bindTo_underway (patience : Nat) (selection : Selection) :
    Leads ((shop.spindle j).bind ((shop.remembering i).surroundings patience j) patience selection)
      (SpindleDrive.Settled (shop.Underway i j (askedSpeed j σ.notes) fun _ => True)
        (shop.WasTold i)) (σ.contexts j) (σ.note (.called j (.bind selection))) := by
  have hconducts := shop.conducts_underway patience i j (askedSpeed j σ.notes) fun _ => True
  refine hconducts.leads_bindTo (fun hid => ?_) fun hid => ?_
  · refine .begin h (askedSpeed_called ..) trivial fun hj hagrees => ?_
    subst hj
    rw [Spindle.enteredBy?, if_neg hid]
    exact hagrees.released
  · have hbound : shop.Underway i j (askedSpeed j σ.notes) (fun _ => True)
        { σ.contexts j with
          selection := some selection
          data := { (σ.contexts j).data with programmed := noSpeed }
          address := (shop.spindle j).config.modbusAddress selection.binding }
        (σ.note (.called j (.bind selection))) := by
      refine .begin h (askedSpeed_called ..) trivial fun hj hagrees => ?_
      subst hj
      rw [Spindle.enteredBy?, if_pos hid]
      exact hagrees.bound selection _
    -- asking the bus for silence changes the world and is not noted
    exact ⟨⟨hbound.accounted.agrees, hbound.accounted.told⟩, hbound.asked, trivial⟩

lemma leads_applySettings_underway (settings : HostSettings) (changed : SettingsChanged) :
    Leads
      (Spindle.applySettings ((shop.remembering i).surroundings patience j) settings changed)
      (SpindleDrive.Settled (shop.Underway i j (askedSpeed j σ.notes) fun _ => True)
        (shop.WasTold i)) (σ.contexts j)
      (σ.note (.called j (.applySettings settings changed))) := by
  refine leads_applySettings (fun hchanged => ?_) fun hchanged => ?_
  · refine .begin h (askedSpeed_called ..) trivial fun _ hagrees => ?_
    rw [Spindle.enteredBy?, hchanged]
    exact hagrees
  · have htaken : shop.Underway i j (askedSpeed j σ.notes) (fun _ => True)
        { σ.contexts j with
          data := { (σ.contexts j).data with checked := settings.tolerance.isNonneg } }
        (σ.note (.called j (.applySettings settings changed))) := by
      refine .begin h (askedSpeed_called ..) trivial fun _ hagrees => ?_
      rw [Spindle.enteredBy?, hchanged]
      exact hagrees.setChecked _
    exact ⟨⟨htaken.accounted.agrees, htaken.accounted.told⟩, htaken.asked, trivial⟩

/-- A command is entered unless it is refused, and it is refused unless the spindle is selected. -/
lemma leads_setState_underway (retries : 0 < (shop.spindle j).retries)
    (idle : (σ.contexts j).statusOp.isBusy = false) (patience : Nat) (state : SpindleState)
    (rpm : Binary32) :
    Leads ((shop.spindle j).setState ((shop.remembering i).surroundings patience j) patience state
        rpm)
      (SpindleDrive.Settled (shop.Underway i j rpm fun _ => True) (shop.WasTold i)) (σ.contexts j)
      (σ.note (.called j (.setState state rpm))) := by
  have hasked : askedSpeed j (.called j (.setState state rpm) :: σ.notes) = rpm :=
    askedSpeed_called ..
  refine (shop.conducts_underway patience i j rpm (· = 0)).leads_setState
    (shop.conducts_underway patience i j rpm fun _ => True) (fun hrefused => ?_)
    (fun _ _ h => h.mono fun _ _ => trivial) (fun hsel _ => ?_)
    fun _ _ _ h => h.leads_exchangeSpeed_asked retries
  · refine .begin h hasked trivial fun hj hagrees => ?_
    subst hj
    have hsel : (σ.contexts j).isSelected = false := by
      rcases hrefused with hsel | hbusy
      · exact hsel
      · rw [idle] at hbusy
        cases hbusy
    rw [Spindle.enteredBy?, ← hagrees.selected, hsel]
    exact hagrees
  · have htaken : shop.Underway i j rpm (· = 0) ((σ.contexts j).takeCommand state)
        (σ.note (.called j (.setState state rpm))) := by
      refine .begin h hasked rfl fun hj hagrees => ?_
      subst hj
      rw [Spindle.enteredBy?, ← hagrees.selected, hsel]
      exact hagrees.commanded state
    exact leads_sendRepeatedly_settled (fun c σ h => h.leads_exchange (by simp [Request.command]))
      (fun n c σ h => h.book (c.resembles_statusOp _)) htaken

lemma leads_setSpeed_underway (retries : 0 < (shop.spindle j).retries) (patience : Nat)
    (rpm : Binary32) (blocking : Bool) :
    Leads ((shop.spindle j).setSpeed ((shop.remembering i).surroundings patience j) patience rpm
        blocking)
      (SpindleDrive.Settled (shop.Underway i j rpm fun _ => True) (shop.WasTold i)) (σ.contexts j)
      (σ.note (.called j (.setSpeed rpm blocking))) := by
  have hasked : askedSpeed j (.called j (.setSpeed rpm blocking) :: σ.notes) = rpm :=
    askedSpeed_called ..
  have hbegun : shop.Underway i j rpm (· = 0) (σ.contexts j)
      (σ.note (.called j (.setSpeed rpm blocking))) := .begin_of_none h hasked rfl fun _ => rfl
  have hsending : shop.Underway i j rpm (· = 0) { σ.contexts j with speedOp := .sending }
      (σ.note (.called j (.setSpeed rpm blocking))) :=
    hbegun.book (SpindleContext.resembles_speedOp _ _)
  refine (shop.conducts_underway patience i j rpm fun _ => True).leads_setSpeed
    (fun _ => hbegun.mono fun _ _ => trivial) fun _ _ => ?_
  cases blocking with
  | true => exact hsending.leads_exchangeSpeed_asked retries
  | false =>
      refine Underway.leads_exchangeSpeed_once (fun hj => ?_) (hsending.mono fun _ _ => trivial)
      subst hj
      exact hasked

/-- **Every call leaves accounts right**, and whenever it hands over a request they are. -/
theorem leads_carryOut_accounted (retries : 0 < (shop.spindle j).retries)
    (idle : (σ.contexts j).statusOp.isBusy = false) (patience : Nat) (call : HostCall) :
    Leads ((shop.spindle j).carryOut ((shop.remembering i).surroundings patience j) patience call)
      (SpindleDrive.Settled (fun c σ => (σ.put j c).IsAccounted (shop.spindle i) i)
        (shop.WasTold i)) (σ.contexts j) (σ.note (.called j call)) := by
  have settle {rpm : Binary32} {F : Nat → Prop} {α : Type}
      {op : Operation (Scene ι (World × List Binary32)) α} {c : SpindleContext}
      {σ : Scene ι (World × List Binary32)} (f : α → Answer)
      (h : Leads op (SpindleDrive.Settled (shop.Underway i j rpm F) (shop.WasTold i)) c σ) :
      Leads (f <$> op)
        (SpindleDrive.Settled (fun c σ => (σ.put j c).IsAccounted (shop.spindle i) i)
          (shop.WasTold i)) c σ := by
    refine (leads_map_settled f h).mono ?_
    intro r c σ hend
    rcases r with _ | _
    · exact hend
    · exact Underway.accounted hend
  have hconducts (call : HostCall) := shop.conducts_underway patience i j
    (askedSpeed j (.called j call :: σ.notes)) fun _ => True
  cases call with
  | bind selection => exact settle _ (leads_bindTo_underway h patience selection)
  | applySettings settings changed =>
      exact settle _ (leads_applySettings_underway h settings changed)
  | setState state rpm =>
      exact settle _ (leads_setState_underway h retries idle patience state rpm)
  | setSpeed rpm blocking =>
      exact settle _ (leads_setSpeed_underway h retries patience rpm blocking)
  | getState =>
      exact settle _ ((hconducts .getState).leads_getState
        (.begin_of_none h rfl trivial fun _ => rfl))
  | getData =>
      have hbegun : shop.Underway i j (askedSpeed j (.called j .getData :: σ.notes)) (fun _ => True)
        (σ.contexts j) (σ.note (.called j .getData)) := .begin_of_none h rfl trivial fun _ => rfl
      exact hbegun.accounted
  | requestMaxSpeed =>
      exact settle _ ((hconducts .requestMaxSpeed).leads_requestMaxSpeed
        (.begin_of_none h rfl trivial fun _ => rfl))
  | deliver reply =>
      exact settle _ ((hconducts (.deliver reply)).leads_deliver patience reply
        (.begin_of_none h rfl trivial fun _ => rfl))

end

/-- What a call by the host leaves. -/
lemma told_of_call (retries : 0 < (shop.spindle j).retries)
    (idle : (σ.contexts j).statusOp.isBusy = false) (h : σ.IsAccounted (shop.spindle i) i)
    (patience : Nat) (call : HostCall) :
    (shop.spindle i).Told i ((shop.remembering i).call patience j call σ).2.notes
        ((shop.remembering i).call patience j call σ).2.world.2 ∧
      (((shop.remembering i).call patience j call σ).1.isSome = true →
        ((shop.remembering i).call patience j call σ).2.IsAccounted (shop.spindle i) i) := by
  rcases hcall : (shop.remembering i).call patience j call σ with ⟨answer?, σ'⟩
  rcases exists_of_call (leads_carryOut_accounted h retries idle patience call) hcall with
    ⟨c, σ'', hend, rfl⟩
  cases answer? with
  | none => exact ⟨hend, by simp⟩
  | some answer => exact ⟨hend.told, fun _ => hend⟩

/-! ## Runs -/

section Runs

variable {start σ : Scene ι World} {held : List Binary32}

lemma Recalls.reaches (h : shop.Recalls i start held σ) : shop.Reaches start σ := by
  induction h with
  | refl => exact .refl
  | outside world _ ih => exact .outside world ih
  | call patience j call answer _ back ih => exact .call patience j call answer ih back

/-- Of every run the tolerances can be remembered. -/
lemma Reaches.exists_recalls (h : shop.Reaches start σ) (i : ι) :
    ∃ held, shop.Recalls i start held σ := by
  induction h with
  | refl => exact ⟨[], .refl⟩
  | outside world _ ih =>
      rcases ih with ⟨held, h⟩
      exact ⟨held, .outside world h⟩
  | call patience j call answer _ back ih =>
      rcases ih with ⟨held, h⟩
      exact ⟨_, .call patience j call answer h back⟩

/-- **Through every run accounts stay right.** -/
lemma Recalls.isAccounted (new : shop.IsNew start) (h : shop.Recalls i start held σ) :
    (σ.recalling held).IsAccounted (shop.spindle i) i := by
  induction h with
  | refl =>
      rcases new.2 i with ⟨id, config, hmake⟩
      have hnotes : (start.recalling []).notes = [] := new.1
      refine ⟨?_, ?_⟩
      · rw [hnotes]
        exact Spindle.agrees_make hmake
      · rw [hnotes]
        exact Spindle.told_nil
  | outside world _ ih => exact ⟨ih.agrees, ih.told⟩
  | @call held σ patience j call answer h back ih =>
      have hidle := (((h.reaches.calm new).rest j).settled .setStatus).idle
      rw [call_recalling shop patience i j call σ held] at back ⊢
      exact (told_of_call (new.retries j) hidle ih patience call).2
        (Option.isSome_iff_exists.2 ⟨answer, back⟩)

/-- **A spindle agrees with its account.**  In any workshop, after any run and at every request that
is handed over in a further call, whether or not it comes back:

* on, off and the direction are those of the latest command that was not refused, in the state as in
  what is told with the speeds, whatever became of its requests;
* the programmed speed is the latest that was sent or given up, or none if the spindle has been
  selected or turned round since;
* the limits are the band of that speed under the tolerance that was held then;
* the verdict is that on the latest reading, if no speed has been programmed since.

A command is refused between calls exactly if the latest selection was not of the spindle. -/
theorem account_of_run (shop : Workshop ι World) (new : shop.IsNew start)
    (reached : shop.Reaches start σ) (i : ι) :
    (∃ held, shop.Recalls i start held σ) ∧
      ∀ held, shop.Recalls i start held σ →
        (σ.contexts i).Agrees ((shop.spindle i).account i σ.notes held) ∧
        (∀ state rpm, (HostCall.setState state rpm).refusal? (σ.contexts i) =
          if ((shop.spindle i).account i σ.notes held).isSelected then none
          else some .notSelected) ∧
        ∀ patience j call, (shop.spindle i).Told i (shop.call patience j call σ).2.notes
          ((shop.remembering i).call patience j call (σ.recalling held)).2.world.2 := by
  refine ⟨reached.exists_recalls i, ?_⟩
  intro held run
  have haccounted := run.isAccounted new
  have hidle (j : ι) := (((reached.calm new).rest j).settled .setStatus).idle
  refine ⟨haccounted.agrees, ?_, ?_⟩
  · intro state rpm
    have hselected : (σ.contexts i).isSelected =
        ((shop.spindle i).account i σ.notes held).isSelected := haccounted.agrees.selected
    have hstatus : (σ.contexts i).statusOp.isBusy = false := hidle i
    rw [HostCall.refusal?, ← hselected, hstatus]
    cases (σ.contexts i).isSelected <;> rfl
  · intro patience j call
    rw [call_recalling shop patience i j call σ held]
    exact (told_of_call (new.retries j) (hidle j) haccounted patience call).1

end Runs

/-- The scene once the dead spindle has been given a speed, in vain. -/
def deadProgrammed : Scene Unit Unit :=
  (dead.call 1 () (.setSpeed (.ofNat 300) true) deadFailed).2

/-- The dead spindle that was selected, told to start and given another speed agrees with an account
of this. -/
theorem account_of_dead_run :
    dead.IsNew deadStart ∧ dead.Reaches deadStart deadProgrammed ∧
      ∃ held, dead.Recalls () deadStart held deadProgrammed ∧
        (deadProgrammed.contexts ()).Agrees
          [.programmed (.ofNat 300) .zero, .commanded .cw, .bound] := by
  have new : dead.IsNew deadStart := ⟨rfl, fun _ => ⟨⟨0⟩, { retries := 2 }, rfl⟩⟩
  have reached : dead.Reaches deadStart deadProgrammed :=
    .call 1 () _ _ (.call 1 () _ _ (.call 1 () _ _ .refl rfl) rfl) rfl
  have run : dead.Recalls () deadStart _ deadProgrammed :=
    .call 1 () _ _ (.call 1 () _ _ (.call 1 () _ _ .refl rfl) rfl) rfl
  exact ⟨new, reached, _, run, ((account_of_run dead new reached ()).2 _ run).1⟩

end Workshop

end SpindleDrive
