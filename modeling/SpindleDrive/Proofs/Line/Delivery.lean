import SpindleDrive.Proofs.Line.Fetching

/-!
# Two ways of delivery

Two sessions of a host run side by side, over the same faults and refusals.  In the first every
reply is handed over at once; in the second those that nobody waits for are kept back, and fetched
after each call.

* `Answer.unjudged` — an answer without the copy of the verdict that may differ.
* `together_setSpeed`, `together_setState` and their like — each call, against the call after which
  the replies are fetched.
* `together_event` — the step, and `together_session`, the run.
* **`deliveries_agree`** — both sessions come back, and agree on everything but that copy.
-/

namespace SpindleDrive

open Operation

/-- A state without the copy of the verdict. -/
def SpindleState.unjudged (state : SpindleState) : SpindleState := { state with atSpeed := false }

/-- An answer without it. -/
def Answer.unjudged : Answer → Answer
  | .state last => .state last.unjudged
  | answer => answer

section Calls

variable {s : Spindle} {x x' y y' : Stand Line} {n : Nat}

lemma Level.abides (h : Level x y) (halike : Alike [] x' y') (habides : Abides x x') :
    Level x' y' where
  toAlike := halike
  reading := habides.reading.trans h.reading
  inbox := habides.inbox.trans h.inbox

/-- A change of the spindle's state leaves the two stands level. -/
lemma Level.update {f : SpindleContext → SpindleContext} (h : Level x y)
    (hf : SpindleContext.IsApart f) : Level (f x.1, x.2) (f y.1, y.2) where
  toAlike := h.toAlike.update hf
  reading := (hf.reading _).trans h.reading
  inbox := (hf.inbox _).trans h.inbox

lemma Level.affect {g : Line → Line} (h : Level x y) (hg : Line.IsApart g) :
    Level (x.1, g x.2) (y.1, g y.2) where
  toAlike := h.toAlike.affect hg
  reading := h.reading
  inbox := h.inbox

/-- With nothing going on there is nothing to fetch. -/
lemma Level.together_drained {α β : Type} {a : α} {b : β}
    {R : α → β → Stand Line → Stand Line → Prop} (h : Level x y) (hR : R a b x y) :
    Together (pure a) (Line.drainAll s >>= fun _ => pure b) R x y := by
  rw [together_congr_right (run_bind_of_some (run_drainAll_nil h.pending_eq))]
  exact together_pure hR

lemma together_drained_map {α β γ δ : Type} {f : α → γ} {g : β → δ} {op : Operation Line α}
    {op' : Operation Line β} {R : γ → δ → Stand Line → Stand Line → Prop}
    (h : Together op (Line.drained s op') (fun a b => R (f a) (g b)) x y) :
    Together (f <$> op) (Line.drained s (g <$> op')) R x y := by
  have hmap : Line.drained s (g <$> op') = g <$> Line.drained s op' := by
    simp only [Line.drained, map_eq_pure_bind, bind_assoc, pure_bind]
  rw [hmap]
  exact together_map h

lemma together_setSpeed (h : Level x y) (hn : x.2.refusals.length + 4 ≤ n) (rpm : Binary32)
    (blocking : Bool) :
    Together (s.setSpeed (Line.surroundings s.id) n rpm blocking)
      (Line.drained s (s.setSpeed (Line.surroundings s.id) n rpm blocking))
      (fun a b x' y' => b = a ∧ Level x' y') x y := by
  rw [Spindle.setSpeed, Line.drained]
  refine together_sendSpeed h.toAlike (fun result x' y' halike habides => ?_)
    (fun _ reply x' y' halike habides => ?_) fun _ reply x' y' halike habides _ => ?_
  · have hlevel := h.abides halike habides
    exact hlevel.together_drained ⟨rfl, hlevel⟩
  · have hrefusals := habides.refusals
    rw [← bind_assoc]
    refine (together_deliver (h.abides halike habides) reply (by omega)).bind_right ?_
    rintro - - x'' y'' ⟨-, hlevel⟩
    exact together_pure ⟨rfl, hlevel⟩
  · have hrefusals := habides.refusals
    refine (together_deliver_late halike (habides.reading.trans h.reading)
      (habides.inbox.trans h.inbox) (by omega)).bind_right ?_
    rintro - - x'' y'' ⟨-, hlevel⟩
    exact together_pure ⟨rfl, hlevel⟩

/-- A reply, if there is one, that the first host has at once and the second fetches. -/
lemma together_deliverAny_late {reply? : Option Reply} (h : Level x y)
    (halike : Alike reply?.toList x' y') (habides : Abides x x')
    (hn : x.2.refusals.length + 4 ≤ n) :
    Together (s.deliverAny (Line.surroundings s.id) n reply?) (Line.drainAll s)
      (fun _ _ x'' y'' => Lasts x' x'' ∧ Level x'' y'') x' y' := by
  have hrefusals := habides.refusals
  cases reply? with
  | none =>
      have hlevel := h.abides halike habides
      exact ⟨(), x', (), y', rfl, run_drainAll_nil hlevel.pending_eq, .refl x', hlevel⟩
  | some reply =>
      exact together_deliver_late halike (habides.reading.trans h.reading)
        (habides.inbox.trans h.inbox) (by omega)

lemma together_requestMaxSpeed (h : Level x y) (hn : x.2.refusals.length + 4 ≤ n) :
    Together (s.requestMaxSpeed (Line.surroundings s.id) n)
      (Line.drained s (s.requestMaxSpeed (Line.surroundings s.id) n))
      (fun a b x' y' => b = a ∧ Level x' y') x y := by
  obtain ⟨c, l⟩ := x
  obtain ⟨c', l'⟩ := y
  obtain ⟨atSpeed, rfl⟩ : ∃ atSpeed, c' = c.seen atSpeed := h.context
  simp only [Spindle.requestMaxSpeed, Line.drained, together_context_left, bind_assoc,
    together_context_right, SpindleContext.seen_isSelected, SpindleContext.seen_address]
  by_cases hselected : c.isSelected = true
  case neg => simpa [hselected] using h.together_drained ⟨rfl, h⟩
  simp only [hselected, Bool.not_true, Bool.false_eq_true, if_false]
  split
  · rename_i request _
    simp only [bind_assoc]
    refine (together_sendOnce h.toAlike request).bind ?_
    rintro reply? - x' y' ⟨rfl, halike, hsent⟩
    refine (together_deliverAny_late h halike hsent.toAbides hn).bind ?_
    rintro - - x'' y'' ⟨-, hlevel⟩
    exact together_pure ⟨rfl, hlevel⟩
  · exact h.together_drained ⟨rfl, h⟩

/-- The acknowledgement of a command, or its refusal, gives rise to nothing. -/
lemma together_deliverAny_calm {reply? : Option Reply} (h : Level x y)
    (hkind : ∀ reply, reply? = some reply → reply.kind = .setStatus) (hn : 2 ≤ n) :
    Together (s.deliverAny (Line.surroundings s.id) n reply?)
      (s.deliverAny (Line.surroundings s.id) n reply?)
      (fun _ _ x' y' => Lasts x x' ∧ Level x' y') x y := by
  cases reply? with
  | none => exact together_pure ⟨.refl x, h⟩
  | some reply =>
      have hcalm : reply.isCalm = true := by simp [Reply.isCalm, hkind reply rfl]
      exact together_deliver_calm h hcalm hn

lemma together_setState (h : Level x y) (hn : x.2.refusals.length + 4 ≤ n)
    (state : SpindleState) (rpm : Binary32) :
    Together (s.setState (Line.surroundings s.id) n state rpm)
      (Line.drained s (s.setState (Line.surroundings s.id) n state rpm))
      (fun a b x' y' => b = a ∧ Level x' y') x y := by
  obtain ⟨c, l⟩ := x
  obtain ⟨c', l'⟩ := y
  obtain ⟨atSpeed, rfl⟩ : ∃ atSpeed, c' = c.seen atSpeed := h.context
  simp only [Spindle.setState, Line.drained, together_context_left, together_context_right,
    SpindleContext.seen_isSelected, SpindleContext.seen_statusOp, SpindleContext.seen_address,
    bind_assoc]
  by_cases hselected : c.isSelected = true
  case neg => simpa [hselected] using h.together_drained ⟨rfl, h⟩
  by_cases hbusy : c.statusOp.isBusy = true
  case pos => simpa [hselected, hbusy] using h.together_drained ⟨rfl, h⟩
  simp only [hselected, hbusy, Bool.not_true, Bool.false_eq_true, if_false, bind_assoc,
    together_update_left, together_update_right]
  have htaken : Level (c.takeCommand state, l) ((c.seen atSpeed).takeCommand state, l') :=
    ⟨⟨h.prompt, ⟨atSpeed, rfl⟩, h.line⟩, h.reading, h.inbox⟩
  refine (together_sendRepeatedly (fun n => isApart_statusOp (.retrying n)) htaken.toAlike _
    s.retries).bind ?_
  rintro _ outcome x' y' ⟨rfl, halike, hsent⟩
  have hlevel := htaken.abides halike hsent.toAbides
  have hrefusals : x'.2.refusals.length + 4 ≤ n :=
    Nat.le_trans (Nat.add_le_add_right hsent.refusals 4) hn
  rcases outcome with e | reply?
  · have hfailed := (hlevel.update (isApart_statusOp .failed)).affect (isApart_raiseAlarm s.id)
    exact hfailed.together_drained ⟨rfl, hfailed⟩
  · simp only [bind_assoc, together_update_left, together_update_right]
    refine (together_deliverAny_calm (hlevel.update (isApart_statusOp .idle))
      hsent.answers.kind (by omega)).bind ?_
    rintro - - x'' y'' ⟨hlasts, hlevel'⟩
    have hrefusals' : x''.2.refusals.length ≤ x'.2.refusals.length := hlasts.refusals
    exact together_setSpeed hlevel' (by omega) rpm true

/-- The copy of the verdict at the first spindle does not matter. -/
lemma Alike.seen_left {pending : List Reply} (h : Alike pending x y) (atSpeed : Bool) :
    Alike pending (x.1.seen atSpeed, x.2) y where
  prompt := h.prompt
  context := by
    obtain ⟨was, hcontext⟩ := h.context
    exact ⟨was, hcontext⟩
  line := h.line

lemma Alike.seen_right {pending : List Reply} (h : Alike pending x y) (atSpeed : Bool) :
    Alike pending x (y.1.seen atSpeed, y.2) where
  prompt := h.prompt
  context := by
    obtain ⟨was, hcontext⟩ := h.context
    exact ⟨atSpeed, by rw [hcontext]; rfl⟩
  line := h.line

lemma isApart_lastPoll (now : UInt64) :
    SpindleContext.IsApart fun c => { c with lastPoll := some now } :=
  ⟨fun _ _ => rfl, fun _ => rfl, fun _ => rfl, fun _ => rfl⟩

/-- **Asking for the state.**  The first host has the verdict of a reading that the second has yet
to fetch. -/
lemma together_getState (h : Level x y) (hn : x.2.refusals.length + 4 ≤ n) :
    Together (s.getState (Line.surroundings s.id) n)
      (Line.drained s (s.getState (Line.surroundings s.id) n))
      (fun a b x' y' => b.unjudged = a.unjudged ∧ Level x' y') x y := by
  obtain ⟨c, l⟩ := x
  obtain ⟨c', l'⟩ := y
  have halike := h.toAlike
  obtain ⟨hprompt, ⟨atSpeed, rfl⟩, log, rfl⟩ := halike
  simp only [Spindle.getState, Line.drained, together_observe_left, together_observe_right,
    together_context_left, together_context_right, SpindleContext.seen_isSelected,
    SpindleContext.seen_address, SpindleContext.seen_pollDue, Line.queued_elapsed, bind_assoc]
  by_cases hdue : (c.isSelected &&
      c.pollDue ((Line.surroundings s.id).elapsed l) s.config.pollInterval) = true
  case neg =>
    simp only [hdue, Bool.false_eq_true, if_false, bind_assoc, together_update_left,
      together_update_right, together_context_left, together_context_right, pure_bind]
    have hjudged := (h.toAlike.seen_left c.data.commanded.atSpeed).seen_right
      c.data.commanded.atSpeed
    have hlevel : Level (c.seen c.data.commanded.atSpeed, l)
        ((c.seen atSpeed).seen c.data.commanded.atSpeed, l.queued [] log) :=
      ⟨hjudged, h.reading, h.inbox⟩
    exact hlevel.together_drained ⟨rfl, hlevel⟩
  case pos =>
    simp only [hdue, if_true, bind_assoc, together_update_left, together_update_right]
    have hpolled := h.toAlike.update (isApart_lastPoll ((Line.surroundings s.id).elapsed l))
    refine (together_sendOnce hpolled _).bind ?_
    rintro reply? - x' y' ⟨rfl, hkept, hsent⟩
    have habides := (Abides.update (isApart_lastPoll _) (c, l)).trans hsent.toAbides
    -- The second host has its answer before it fetches the reading.
    simp only [Spindle.deliverAny, together_pure_bind_right, together_update_right,
      together_context_right]
    refine (together_deliverAny_late h (hkept.seen_right _) habides hn).bind ?_
    rintro - - x'' y'' ⟨hlasts, hlevel⟩
    simp only [together_update_left, together_context_left]
    have hjudged := hlevel.toAlike.seen_left x''.1.data.commanded.atSpeed
    refine together_pure ⟨?_, hjudged, hlevel.reading, hlevel.inbox⟩
    obtain ⟨was, hcontext⟩ := hkept.context
    rw [hcontext, hlasts.state]
    rfl

lemma isApart_silence (id : SpindleId) : Line.IsApart (Line.surroundings id).silence :=
  ⟨fun _ _ _ => rfl, fun _ h => ⟨h.synchronous, h.pending, h.model⟩⟩

lemma isApart_setTolerance (id : SpindleId) (tolerance : Binary32) :
    Line.IsApart ((Line.surroundings id).setTolerance tolerance) :=
  ⟨fun _ _ _ => rfl, fun _ h => ⟨h.synchronous, h.pending, h.model⟩⟩

lemma together_bindTo (h : Level x y) (hn : x.2.refusals.length + 4 ≤ n) (selection : Selection) :
    Together (s.bind (Line.surroundings s.id) n selection)
      (Line.drained s (s.bind (Line.surroundings s.id) n selection))
      (fun _ _ x' y' => Level x' y') x y := by
  rw [Spindle.bind, Line.drained]
  by_cases hid : selection.id = s.id
  case neg =>
    have hunselected : SpindleContext.IsApart fun c => { c with selection := none } :=
      ⟨fun _ _ => rfl, fun _ => rfl, fun _ => rfl, fun _ => rfl⟩
    have hlevel := h.update hunselected
    simp only [hid, ne_eq, not_false_eq_true, if_true, together_update_only,
      together_update_right]
    exact hlevel.together_drained hlevel
  case pos =>
    have hselected : SpindleContext.IsApart fun c =>
        { c with
          selection := some selection
          data := { c.data with programmed := noSpeed }
          address := s.config.modbusAddress selection.binding } :=
      ⟨fun _ _ => rfl, fun _ => rfl, fun _ => rfl, fun _ => rfl⟩
    have hlevel := (h.update hselected).affect (isApart_silence s.id)
    simp only [hid, ne_eq, not_true_eq_false, if_false, bind_assoc, together_update_left,
      together_update_right, together_affect_left, together_affect_right]
    cases s.config.queryMaxOnSelect
    · exact hlevel.together_drained hlevel
    · refine together_drained_map ((together_requestMaxSpeed hlevel hn).mono ?_)
      rintro a b x' y' ⟨-, hlevel'⟩
      exact hlevel'

lemma together_applySettings (h : Level x y) (settings : HostSettings)
    (changed : SettingsChanged) :
    Together (Spindle.applySettings (Line.surroundings s.id) settings changed)
      (Line.drained s (Spindle.applySettings (Line.surroundings s.id) settings changed))
      (fun _ _ x' y' => Level x' y') x y := by
  rw [Spindle.applySettings, Line.drained]
  cases changed.spindle
  · exact h.together_drained h
  · have hchecked : SpindleContext.IsApart fun c =>
        { c with data := { c.data with checked := settings.tolerance.isNonneg } } :=
      ⟨fun _ _ => rfl, fun _ => rfl, fun _ => rfl, fun _ => rfl⟩
    have hlevel := (h.affect (isApart_setTolerance s.id settings.tolerance)).update hchecked
    simp only [if_true, bind_assoc, together_affect_left, together_affect_right,
      together_update_only, together_update_right]
    exact hlevel.together_drained hlevel

/-- **Every call, against the call after which the replies are fetched.** -/
theorem together_carryOut (h : Level x y) (hn : x.2.refusals.length + 4 ≤ n) (call : HostCall) :
    Together (s.carryOut (Line.surroundings s.id) n call)
      (Line.drained s (s.carryOut (Line.surroundings s.id) n call))
      (fun a b x' y' => b.unjudged = a.unjudged ∧ Level x' y') x y := by
  cases call with
  | bind selection =>
      refine together_drained_map ((together_bindTo h hn selection).mono ?_)
      exact fun _ _ _ _ hlevel => ⟨rfl, hlevel⟩
  | applySettings settings changed =>
      refine together_drained_map ((together_applySettings h settings changed).mono ?_)
      exact fun _ _ _ _ hlevel => ⟨rfl, hlevel⟩
  | setState state rpm =>
      refine together_drained_map ((together_setState h hn state rpm).mono ?_)
      rintro _ _ _ _ ⟨rfl, hlevel⟩
      exact ⟨rfl, hlevel⟩
  | setSpeed rpm blocking =>
      refine together_drained_map ((together_setSpeed h hn rpm blocking).mono ?_)
      rintro _ _ _ _ ⟨rfl, hlevel⟩
      exact ⟨rfl, hlevel⟩
  | getState =>
      refine together_drained_map ((together_getState h hn).mono ?_)
      exact fun _ _ _ _ ⟨hstate, hlevel⟩ => ⟨congrArg Answer.state hstate, hlevel⟩
  | getData =>
      exact h.together_drained ⟨congrArg Answer.data h.data_eq, h⟩
  | requestMaxSpeed =>
      refine together_drained_map ((together_requestMaxSpeed h hn).mono ?_)
      rintro _ _ _ _ ⟨rfl, hlevel⟩
      exact ⟨rfl, hlevel⟩
  | deliver reply =>
      have hdrained : Line.drained s (s.deliver (Line.surroundings s.id) n reply) =
          (s.deliver (Line.surroundings s.id) n reply >>= fun _ => Line.drainAll s) >>=
            fun _ => pure () := by
        rw [bind_assoc]
        rfl
      refine together_drained_map ?_
      rw [hdrained]
      refine (together_deliver h reply hn).bind_right ?_
      rintro - - x' y' ⟨-, hlevel⟩
      exact together_pure ⟨rfl, hlevel⟩

end Calls

/-! ## Sessions -/

section Sessions

variable {s : Spindle} {x y : Stand Line}

/-- A call with the fetching of its replies; the first host finds none to fetch. -/
lemma together_serve (h : Level x y) (call : HostCall) :
    Together (Line.serve s call) (Line.serve s call)
      (fun a b x' y' => b.unjudged = a.unjudged ∧ Level x' y') x y := by
  have hsteps : y.1.inbox.length + y.2.refusals.length + 8 =
      x.1.inbox.length + x.2.refusals.length + 8 := by
    rw [h.inbox_eq, h.refusals_eq]
  rw [Line.serve]
  rw [together_congr_left (run_bind_of_some run_patience),
    together_congr_right (run_bind_of_some run_patience), hsteps]
  refine (together_carryOut h (by omega) call).bind_left ?_
  intro answer answer' x' y' hend
  rw [together_congr_left (run_bind_of_some (run_drainAll_nil hend.2.prompt.pending))]
  exact together_pure hend

/-- **The step of a session**: a call or a change of the conditions. -/
lemma together_event (h : Level x y) (event : Event) :
    Together (event.run s) (event.run s)
      (fun a b x' y' => b.map Answer.unjudged = a.map Answer.unjudged ∧ Level x' y') x y := by
  cases event with
  | call hostCall =>
      refine together_map ((together_serve h hostCall).mono ?_)
      exact fun _ _ _ _ ⟨hanswer, hlevel⟩ => ⟨congrArg some hanswer, hlevel⟩
  | change conditions =>
      have hapart : Line.IsApart conditions.apply :=
        ⟨fun _ _ _ => rfl, fun _ h => ⟨h.synchronous, h.pending, h.model⟩⟩
      exact together_pure ⟨rfl, h.affect hapart⟩

/-- **The run of a session.** -/
theorem together_session (events : List Event) :
    ∀ {x y : Stand Line}, Level x y →
      Together (Line.session s events) (Line.session s events)
        (fun answers answers' x' y' =>
          answers'.map (Option.map Answer.unjudged) = answers.map (Option.map Answer.unjudged) ∧
            Level x' y') x y := by
  induction events with
  | nil => exact fun h => together_pure ⟨rfl, h⟩
  | cons event rest ih =>
      intro x y h
      rw [Line.session]
      refine (together_event h event).bind ?_
      rintro answer answer' x' y' ⟨hanswer, hlevel⟩
      refine (ih hlevel).bind ?_
      rintro answers answers' x'' y'' ⟨hanswers, hlevel'⟩
      exact together_pure ⟨by rw [List.map_cons, List.map_cons, hanswer, hanswers], hlevel'⟩

end Sessions

/-- A line that hands over every reply at once, or keeps back those that nobody waits for. -/
def Line.handing (l : Line) (synchronous : Bool) : Line :=
  { l with rig := { l.rig with synchronous } }

/-- A session can begin: nothing is going on, and the drive is one of the models. -/
structure AtOutset (c : SpindleContext) (l : Line) : Prop where
  reading : c.reading = false
  inbox : c.inbox = []
  pending : l.rig.bus.pending = []
  model : ∃ m : DriveModel, l.drive.registers = m.registers

/-- So it is with a new spindle and a new bus, whatever refusals are ordered. -/
lemma AtOutset.of_make {id : SpindleId} {config : Config} {s : Spindle} {c : SpindleContext}
    (h : Spindle.make id config = .ok (s, c)) (address : UInt8) (m : DriveModel)
    (refusals : List ExceptionCode) :
    AtOutset c { rig := { bus := { drive := .ofModel address m, refusals } } } := by
  obtain ⟨-, -, rfl⟩ := Spindle.make_eq_ok h
  exact ⟨rfl, rfl, rfl, m, rfl⟩

/-- **Two ends of a session agree.**  Whatever the host and the drive can see is the same, and no
reply waits. -/
structure Agree (x y : Stand Line) : Prop where
  requests : y.2.requests = x.2.requests
  data : y.1.data = x.1.data
  state : y.1.state.unjudged = x.1.state.unjudged
  statusOp : y.1.statusOp = x.1.statusOp
  speedOp : y.1.speedOp = x.1.speedOp
  exceptions : y.1.exceptions = x.1.exceptions
  maxSpeed : y.1.maxSpeed = x.1.maxSpeed
  selection : y.1.selection = x.1.selection
  address : y.1.address = x.1.address
  alarms : y.2.rig.host.alarms = x.2.rig.host.alarms
  drive : y.2.drive = x.2.drive
  pending : x.2.rig.bus.pending = [] ∧ y.2.rig.bus.pending = []

lemma AtOutset.level {c : SpindleContext} {l : Line} (h : AtOutset c l) :
    Level (c, l.handing true) (c, l.handing false) where
  prompt := ⟨rfl, h.pending, h.model⟩
  context := ⟨c.state.atSpeed, rfl⟩
  line := by
    refine ⟨l.rig.bus.log, ?_⟩
    simp only [Line.queued, Line.handing]
    rw [← h.pending]
  reading := h.reading
  inbox := h.inbox

/-- A session from such a line comes back, whichever way replies come. -/
lemma AtOutset.exists_session {c : SpindleContext} {l : Line} (h : AtOutset c l) (s : Spindle)
    (events : List Event) :
    ∃ answers x, (Line.session s events).run.run (c, l) = (some answers, x) := by
  obtain ⟨answers, x, answers', y, hfirst, hsecond, -⟩ := together_session (s := s) events h.level
  cases hway : l.rig.synchronous with
  | true =>
      have hself : l.handing true = l := by rw [Line.handing, ← hway]
      rw [hself] at hfirst
      exact ⟨answers, x, hfirst⟩
  | false =>
      have hself : l.handing false = l := by rw [Line.handing, ← hway]
      rw [hself] at hsecond
      exact ⟨answers', y, hsecond⟩

lemma Level.agree {x y : Stand Line} (h : Level x y) : Agree x y := by
  have hpending := h.pending_eq
  obtain ⟨⟨hprompt, ⟨atSpeed, hcontext⟩, log, hline⟩, hreading, hinbox⟩ := h
  obtain ⟨c, l⟩ := y
  obtain rfl : c = x.1.seen atSpeed := hcontext
  obtain rfl : l = x.2.queued [] log := hline
  exact ⟨rfl, rfl, rfl, rfl, rfl, rfl, rfl, rfl, rfl, rfl, rfl, hprompt.pending, hpending⟩

/-- **The two ways of delivery agree.**  The same things happen in two sessions: calls, after each
of which the host fetches replies until none waits, and changes of the clock, of the flag of the
cold start and of the failures and refusals to come.  In the one every reply is handed over at once,
in the other those that nobody waits for are kept back.  Then both sessions come back, they give the
same answers, but for the copy of the verdict in an answer to `HostCall.getState`, and they agree.

As this holds for every list of events, it holds after each event of a session. -/
theorem deliveries_agree (s : Spindle) {c : SpindleContext} {l : Line} (h : AtOutset c l)
    (events : List Event) :
    ∃ answers answers' x y,
      (Line.session s events).run.run (c, l.handing true) = (some answers, x) ∧
      (Line.session s events).run.run (c, l.handing false) = (some answers', y) ∧
      answers'.map (Option.map Answer.unjudged) = answers.map (Option.map Answer.unjudged) ∧
      Agree x y := by
  obtain ⟨answers, x, answers', y, hfirst, hsecond, hanswers, hlevel⟩ :=
    together_session events h.level
  exact ⟨answers, answers', x, y, hfirst, hsecond, hanswers, hlevel.agree⟩

/-- A line whose drive is to refuse three times. -/
def Line.contrary : Line where
  rig :=
    { bus :=
        { drive := .ofModel 1 .yl620
          refusals := [.illegalFunction, .illegalDataAddress, .illegalDataValue] } }

/-- Taking the spindle into use and setting its speed without waiting. -/
def Event.sample : List Event :=
  [.call (.bind ⟨⟨0⟩, 0⟩), .call (.setSpeed (.ofNat 600) false)]

/-- On such a line the speed is sent four times, and one alarm is raised, in either way. -/
theorem deliveries_agree_contrary :
    AtOutset Spindle.sample.2 Line.contrary ∧
      ∃ answers answers' x y,
        (Line.session Spindle.sample.1 Event.sample).run.run
          (Spindle.sample.2, Line.contrary.handing true) = (some answers, x) ∧
        (Line.session Spindle.sample.1 Event.sample).run.run
          (Spindle.sample.2, Line.contrary.handing false) = (some answers', y) ∧
        Agree x y ∧ x.2.requests.length = 4 ∧ y.2.requests.length = 4 ∧
        x.2.rig.host.alarms.length = 1 := by
  have hmake : Spindle.make ⟨0⟩ { retries := 2 } = .ok Spindle.sample := rfl
  have h : AtOutset Spindle.sample.2 Line.contrary := .of_make hmake 1 .yl620 _
  obtain ⟨answers, answers', x, y, hfirst, hsecond, -, hagree⟩ :=
    deliveries_agree Spindle.sample.1 h Event.sample
  have hcounts : ((Line.session Spindle.sample.1 Event.sample).run.run
      (Spindle.sample.2, Line.contrary.handing true)).2.2.requests.length = 4 ∧
      ((Line.session Spindle.sample.1 Event.sample).run.run
        (Spindle.sample.2, Line.contrary.handing true)).2.2.rig.host.alarms.length = 1 := by
    decide +kernel
  rw [hfirst] at hcounts
  refine ⟨h, answers, answers', x, y, hfirst, hsecond, hagree, hcounts.1, ?_, hcounts.2⟩
  rw [hagree.requests]
  exact hcounts.1

end SpindleDrive
