import SpindleDrive.Proofs.Workshop.Tracking

/-!
# Replies do not steer

What a spindle sends is settled by the calls of its host, by the clock, and by how its exchanges
end.  What the drive replies is kept for the host to look at; in one case only does a reply have
something sent, and that is a refusal of a speed that is read outside a cold start.

* `HostCall.isHearing` — calls that have to do with replies.
* `tracksAt_carryOut` — every other call is accompanied by itself, made to a spindle that hears
  nothing.
* `Workshop.Aside` — what goes on beside a spindle, and `aside_of_ne`, `aside_of_hearing` — the
  calls that do.
* `Workshop.Asked` — runs with what a host has one spindle do.
* **`Asked.isReplayed`** — such a run is replayed by a spindle that hears nothing.
* `SpindleContext.Concurs` — two spindles that agree in what they have been told to do.
* **`Workshop.steered_alike`** — two runs with the same calls that differ in their replies send the
  same and come to such states.
-/

namespace SpindleDrive

open Operation Surroundings

variable {ι World : Type}

/-! ## Calls -/

namespace HostCall

/-- A call that has to do with replies: one that delivers a reply, or asks for what replies have
said. -/
def isHearing : HostCall → Bool
  | deliver _ | getData => true
  | bind _ | applySettings .. | setState .. | setSpeed .. | getState | requestMaxSpeed => false

end HostCall

namespace SpindleState

/-- A state without the verdict. -/
def withoutVerdict (state : SpindleState) : SpindleState := { state with atSpeed := false }

end SpindleState

/-- An answer without the verdict, if it is a state. -/
def Answer.withoutVerdict : Answer → Answer
  | state told => .state told.withoutVerdict
  | done => .done
  | outcome result => .outcome result
  | data speeds => .data speeds

namespace Workshop

variable [DecidableEq ι] {shop : Workshop ι World} {patience : Nat} {i : ι} {now : UInt64}

namespace OwnsTolerance

variable (h : shop.OwnsTolerance i)

include h

/-- A single attempt gives no reply. -/
lemma tracks_sendOnce (request : Request) :
    shop.Tracks i (sendOnce (Operation.exchange (shop.surroundings patience i)) request)
      (sendOnce (Operation.exchange (Tape.surroundings now)) request) fun _ y => y = none := by
  refine (h.tracks_exchange request .nonBlocking).bind_of_graph fun result => ?_
  cases result <;> exact .pure rfl

/-- Attempts in a row. -/
lemma tracks_attempt (request : Request) {mark : Nat → SpindleContext → SpindleContext}
    (hmark : ∀ n b c, b.Rests c → (mark n b).Rests (mark n c)) (left : Nat) :
    ∀ number last, shop.Tracks i
      (attempt (Operation.exchange (shop.surroundings patience i) request .blocking)
        (fun n => update (mark n)) left number last)
      (attempt (Operation.exchange (Tape.surroundings now) request .blocking)
        (fun n => update (mark n)) left number last) fun x y => y = x.map fun _ => none := by
  induction left with
  | zero => exact fun _ _ => .pure rfl
  | succ left ih =>
      intro number last
      refine (h.tracks_exchange request .blocking).bind_of_graph fun result => ?_
      cases result with
      | ok reply? => exact .pure rfl
      | error e =>
          exact (Tracks.update (hmark number)).bind_of_eq fun _ => ih (number + 1) e

lemma tracks_sendRepeatedly (request : Request) (retries : Nat)
    {mark : Nat → SpindleContext → SpindleContext}
    (hmark : ∀ n b c, b.Rests c → (mark n b).Rests (mark n c)) :
    shop.Tracks i
      (sendRepeatedly (Operation.exchange (shop.surroundings patience i)) request retries
        fun n => update (mark n))
      (sendRepeatedly (Operation.exchange (Tape.surroundings now)) request retries
        fun n => update (mark n)) fun x y => y = x.map fun _ => none := by
  refine (h.tracks_attempt request hmark _ 1 .timeout).bind_of_graph fun result => ?_
  cases result <;> exact .pure rfl

lemma tracks_exchangeSpeed (request : Request) (blocking : Bool) :
    shop.Tracks i
      ((shop.spindle i).exchangeSpeed (shop.surroundings patience i) request blocking)
      ((shop.spindle i).exchangeSpeed (Tape.surroundings now) request blocking)
      fun x y => y = x.map fun _ => none := by
  cases blocking with
  | true => exact h.tracks_sendRepeatedly request _ fun n b c hb => hb.withSpeedOp (.retrying n)
  | false => exact (h.tracks_sendOnce request).map_of_graph fun _ => rfl

/-- A reply, if there is one, is delivered; the other spindle has none. -/
lemma tracks_handOver (reply? : Option Reply) :
    shop.Tracks i
      (Spindle.handOver ((shop.spindle i).deliver (shop.surroundings patience i) patience) reply?)
      (pure ()) Eq := by
  cases reply? with
  | none => exact .pure rfl
  | some reply => exact h.tracks_deliver reply

lemma tracks_sendSpeed (onReply : Reply → Operation Tape Unit) (rpm : Binary32) (blocking : Bool) :
    shop.Tracks i
      ((shop.spindle i).sendSpeed (shop.surroundings patience i)
        ((shop.spindle i).deliver (shop.surroundings patience i) patience) rpm blocking)
      ((shop.spindle i).sendSpeed (Tape.surroundings now) onReply rpm blocking) Eq := by
  refine Tracks.context.bind (fun c => ⟨c, .refl c⟩) fun c b hb => ?_
  rw [hb.isSelected_eq, hb.speedOp, hb.address]
  split
  · exact .pure rfl
  split
  · exact .pure rfl
  refine (Tracks.update fun b c hb => hb.withSpeedOp .sending).bind_of_eq fun _ => ?_
  refine (h.tracks_exchangeSpeed _ blocking).bind_of_graph fun outcome => ?_
  refine Tracks.tolerance.bind_of_eq fun tolerance => ?_
  rcases outcome with e | _ | reply
  · refine (Tracks.update fun b c hb => hb.endSpeed rpm tolerance .failed).bind_of_eq fun _ => ?_
    exact h.tracks_raiseAlarm.bind_of_eq fun _ => .pure rfl
  · exact (Tracks.update fun b c hb => hb.endSpeed rpm tolerance .idle).bind_of_eq fun _ =>
      .pure rfl
  · refine (Tracks.update fun b c hb => hb.endSpeed rpm tolerance .idle).bind_of_eq fun _ => ?_
    exact (h.tracks_deliver reply).bind_of_eq fun _ => .pure rfl

lemma tracks_setState (onReply : Reply → Operation Tape Unit) (state : SpindleState)
    (rpm : Binary32) :
    shop.Tracks i
      ((shop.spindle i).setStateWith (shop.surroundings patience i)
        ((shop.spindle i).deliver (shop.surroundings patience i) patience) state rpm)
      ((shop.spindle i).setStateWith (Tape.surroundings now) onReply state rpm) Eq := by
  refine Tracks.context.bind (fun c => ⟨c, .refl c⟩) fun c b hb => ?_
  rw [hb.isSelected_eq, hb.statusOp, hb.address]
  split
  · exact .pure rfl
  split
  · exact .pure rfl
  refine (Tracks.update fun b c hb => hb.takeCommand state).bind_of_eq fun _ => ?_
  refine (h.tracks_sendRepeatedly _ _ fun n b c hb =>
    hb.withStatusOp (.retrying n)).bind_of_graph fun outcome => ?_
  rcases outcome with e | reply?
  · refine (Tracks.update fun b c hb => hb.withStatusOp .failed).bind_of_eq fun _ => ?_
    exact h.tracks_raiseAlarm.bind_of_eq fun _ => .pure rfl
  · refine (Tracks.update fun b c hb => hb.withStatusOp .idle).bind_of_eq fun _ => ?_
    exact (h.tracks_handOver reply?).bind_of_eq fun _ => h.tracks_sendSpeed onReply rpm true

lemma tracks_requestMaxSpeed (onReply : Reply → Operation Tape Unit) :
    shop.Tracks i
      ((shop.spindle i).requestMaxSpeedWith (shop.surroundings patience i)
        ((shop.spindle i).deliver (shop.surroundings patience i) patience))
      ((shop.spindle i).requestMaxSpeedWith (Tape.surroundings now) onReply) Eq := by
  refine Tracks.context.bind (fun c => ⟨c, .refl c⟩) fun c b hb => ?_
  rw [hb.isSelected_eq, hb.address]
  split
  · exact .pure rfl
  split
  · refine (h.tracks_sendOnce _).bind_of_graph fun reply? => ?_
    exact (h.tracks_handOver reply?).bind_of_eq fun _ => .pure rfl
  · exact .pure rfl

lemma tracks_bind (onReply : Reply → Operation Tape Unit) (selection : Selection) :
    shop.Tracks i
      ((shop.spindle i).bindWith (shop.surroundings patience i)
        ((shop.spindle i).deliver (shop.surroundings patience i) patience) selection)
      ((shop.spindle i).bindWith (Tape.surroundings now) onReply selection) Eq := by
  rw [Spindle.bindWith, Spindle.bindWith]
  split
  · exact Tracks.update fun b c hb => hb.unselect
  refine (Tracks.update fun b c hb => hb.select selection _).bind_of_eq fun _ => ?_
  refine h.tracks_silence.bind_of_eq fun _ => ?_
  split
  · exact (h.tracks_requestMaxSpeed onReply).bind_of_eq fun _ => .pure rfl
  · exact .pure rfl

lemma tracks_applySettings (settings : HostSettings) (changed : SettingsChanged) :
    shop.Tracks i (Spindle.applySettings (shop.surroundings patience i) settings changed)
      (Spindle.applySettings (Tape.surroundings now) settings changed) Eq := by
  rw [Spindle.applySettings, Spindle.applySettings]
  split
  · exact (h.tracks_setTolerance settings.tolerance).bind_of_eq fun _ =>
      Tracks.update fun b c hb => hb.check _
  · exact .pure rfl

omit h in
/-- The verdict that is told is not the same. -/
lemma tracks_told :
    shop.Tracks i
      (do
        update fun c => { c with state := { c.state with atSpeed := c.data.commanded.atSpeed } }
        return (← context).state)
      (do
        update fun c => { c with state := { c.state with atSpeed := c.data.commanded.atSpeed } }
        return (← context).state)
      fun state state' => state.withoutVerdict = state'.withoutVerdict := by
  refine (Tracks.update fun b c hb => hb.tell).bind_of_eq fun _ => ?_
  refine Tracks.context.bind (fun c => ⟨c, .refl c⟩) fun c b hb => .pure ?_
  rw [SpindleState.withoutVerdict, SpindleState.withoutVerdict, hb.on, hb.ccw]

/-- Asking for the state, which is where the clock is looked at. -/
lemma tracksAt_getState (onReply : Reply → Operation Tape Unit) (c : SpindleContext)
    {σ : Scene ι World} (hnow : (shop.outside i).elapsed σ.world = now) :
    shop.TracksAt i
      ((shop.spindle i).getStateWith (shop.surroundings patience i)
        ((shop.spindle i).deliver (shop.surroundings patience i) patience))
      ((shop.spindle i).getStateWith (Tape.surroundings now) onReply)
      (fun state state' => state.withoutVerdict = state'.withoutVerdict) c σ := by
  refine TracksAt.elapsed_bind hnow (Tracks.bind Tracks.context (fun c => ⟨c, .refl c⟩)
    (fun c b hb => ?_) c σ)
  rw [hb.isSelected_eq, hb.pollDue_eq, hb.address]
  split
  · refine (Tracks.update fun b c hb => hb.withLastPoll now).bind_of_eq fun _ => ?_
    refine (h.tracks_sendOnce _).bind_of_graph fun reply? => ?_
    exact (h.tracks_handOver reply?).bind_of_eq fun _ => tracks_told
  · exact tracks_told

/-- **Every call is accompanied by itself**, if it has nothing to do with replies.  The clock is
looked at by the question for the state alone. -/
theorem tracksAt_carryOut {call : HostCall} (hcall : call.isHearing = false)
    (c : SpindleContext) {σ : Scene ι World}
    (hnow : call = .getState → (shop.outside i).elapsed σ.world = now) :
    shop.TracksAt i
      ((shop.spindle i).carryOut (shop.surroundings patience i) patience call)
      ((shop.spindle i).carryOut (Tape.surroundings now) 0 call)
      (fun answer answer' => answer.withoutVerdict = answer'.withoutVerdict) c σ := by
  rw [Spindle.carryOut_eq_with, Spindle.carryOut_eq_with]
  cases call with
  | bind selection =>
      refine (h.tracks_bind _ selection).map_of_eq (fun _ => ?_) c σ
      rfl
  | applySettings settings changed =>
      refine (h.tracks_applySettings settings changed).map_of_eq (fun _ => ?_) c σ
      rfl
  | setState state rpm =>
      refine (h.tracks_setState _ state rpm).map_of_eq (fun _ => ?_) c σ
      rfl
  | setSpeed rpm blocking =>
      refine (h.tracks_sendSpeed _ rpm blocking).map_of_eq (fun _ => ?_) c σ
      rfl
  | getState =>
      exact (h.tracksAt_getState _ c (hnow rfl)).map (fun state => ⟨state, rfl⟩)
        fun _ _ htold => congrArg Answer.state htold
  | requestMaxSpeed =>
      refine (h.tracks_requestMaxSpeed _).map_of_eq (fun _ => ?_) c σ
      rfl
  | getData | deliver => simp [HostCall.isHearing] at hcall

end OwnsTolerance

/-! ## What goes on beside -/

/-- **A scene that something has gone on in beside a spindle**: it has sent nothing and is as it
was, but for what it has heard. -/
structure Aside (shop : Workshop ι World) (i : ι) (σ σ' : Scene ι World) : Prop where
  grown : ∃ made, σ'.notes = made ++ σ.notes
  results : Note.results i σ'.notes = Note.results i σ.notes
  requests : Note.requests i σ'.notes = Note.requests i σ.notes
  rests : (σ.contexts i).Rests (σ'.contexts i)
  tolerance : (shop.outside i).tolerance σ'.world = (shop.outside i).tolerance σ.world

namespace Aside

variable {σ σ' σ'' : Scene ι World} {j : ι}

lemma trans (h : shop.Aside i σ σ') (h' : shop.Aside i σ' σ'') : shop.Aside i σ σ'' where
  grown := by
    obtain ⟨made, hmade⟩ := h.grown
    obtain ⟨made', hmade'⟩ := h'.grown
    exact ⟨made' ++ made, by rw [hmade', hmade, List.append_assoc]⟩
  results := h'.results.trans h.results
  requests := h'.requests.trans h.requests
  rests := h.rests.trans h'.rests
  tolerance := h'.tolerance.trans h.tolerance

/-- A note that is neither of a sending of the spindle nor of an end. -/
lemma note (σ : Scene ι World) {n : Note ι} (hresult : n.result? i = none)
    (hrequest : n.request? i = none) : shop.Aside i σ (σ.note n) where
  grown := ⟨[n], rfl⟩
  results := by simp [Note.results, hresult]
  requests := by simp [Note.requests, hrequest]
  rests := .refl _
  tolerance := rfl

lemma world (σ : Scene ι World) {world : World}
    (h : (shop.outside i).tolerance world = (shop.outside i).tolerance σ.world) :
    shop.Aside i σ { σ with world } :=
  ⟨⟨[], rfl⟩, rfl, rfl, .refl _, h⟩

lemma put (h : shop.Aside i σ σ') (hj : j ≠ i) (c : SpindleContext) :
    shop.Aside i σ (σ'.put j c) where
  grown := h.grown
  results := h.results
  requests := h.requests
  rests := by
    rw [Scene.put_contexts_of_ne _ hj.symm]
    exact h.rests
  tolerance := h.tolerance

/-- Traffic of others makes no difference. -/
lemma of_traffic {made : List (Note ι)} (hmade : σ'.notes = made ++ σ.notes)
    (hothers : ∀ n ∈ made.filter Note.isTraffic, n.result? i = none ∧ n.request? i = none)
    (htolerance : (shop.outside i).tolerance σ'.world = (shop.outside i).tolerance σ.world)
    (hrests : (σ.contexts i).Rests (σ'.contexts i)) : shop.Aside i σ σ' where
  grown := ⟨made, hmade⟩
  results := by
    rw [hmade, Note.results_append, Note.results_eq_nil fun n hn => (hothers n hn).1,
      List.append_nil]
  requests := by
    rw [hmade, Note.requests_append, Note.requests_eq_nil fun n hn => (hothers n hn).2,
      List.append_nil]
  rests := hrests
  tolerance := htolerance

end Aside

namespace OwnsTolerance

variable {σ σ' σ₀ : Scene ι World} {j : ι} {answer : Answer} (h : shop.OwnsTolerance i)

include h

/-- An exchange of another spindle. -/
lemma bears_aside (hj : j ≠ i) (request : Request) :
    (shop.surroundings patience j).Bears (fun _ σ' => shop.Aside i σ₀ σ') (fun _ _ => True)
      request := by
  intro mode c σ haside
  refine (h.leads_exchange request mode j).mono ?_
  rintro (_ | result) c' σ' ⟨made, hmade, hend⟩
  · trivial
  obtain ⟨hfilter, htolerance, -, hrests⟩ := hend result rfl
  refine haside.trans (.of_traffic hmade ?_ htolerance (hrests i hj.symm))
  simp [hfilter, Note.result?, Note.request?, hj]

/-- **A call of another spindle** goes on beside. -/
lemma aside_of_ne (hj : j ≠ i) (call : HostCall)
    (back : shop.call patience j call σ = (some answer, σ')) : shop.Aside i σ σ' := by
  have hupholds : (shop.surroundings patience j).Upholds (shop.spindle j)
      (fun _ σ' => shop.Aside i σ σ') (fun _ _ => True) :=
    { ended := fun _ _ _ => trivial
      book := fun _ _ _ _ haside => haside
      program := fun _ _ _ _ haside => haside
      read := fun reply _ c σ' haside => (haside.trans (.world σ'
        ((h.spares _ j).journal reply ((shop.outside j).isColdStart σ'.world) c σ'.world
          rfl))).trans (.note _ rfl rfl)
      raiseAlarm := fun _ σ' haside =>
        (haside.trans (.world σ' ((h.spares _ j).raiseAlarm σ'.world rfl))).trans (.note _ rfl rfl)
      send := fun request _ => h.bears_aside hj request }
  have hpermits : Upholds.Permits (shop.surroundings patience j) (shop.spindle j)
      (fun _ σ' => shop.Aside i σ σ') (fun _ _ => True) call :=
    Upholds.permits_of_heardAlike (fun _ _ _ _ haside => haside)
      (fun _ σ' haside => haside.trans (.world σ' (h.silence j σ'.world)))
      (fun tolerance _ σ' haside =>
        haside.trans (.world σ' (h.others j tolerance σ'.world hj)))
      (fun _ _ => h.bears_aside hj _) call
  obtain ⟨c, σ'', haside, rfl⟩ := exists_of_call
    (hupholds.leads_carryOut patience call hpermits (.note σ rfl rfl)) back
  exact Aside.put haside hj c

/-- So does a call that has to do with replies. -/
lemma aside_of_hearing {call : HostCall} (hcall : call.isHearing = true)
    (back : shop.call patience i call σ = (some answer, σ'))
    (hundisturbed : Note.Undisturbed i σ'.notes) : shop.Aside i σ σ' := by
  have hcarry : Leads
      ((shop.spindle i).carryOut (shop.surroundings patience i) patience call)
      (fun r c' σ' => ∃ made, σ'.notes = made ++ (σ.note (.called i call)).notes ∧
        (r.isSome = true → Note.Undisturbed i σ'.notes → made.filter Note.isTraffic = [] ∧
          (shop.outside i).tolerance σ'.world = (shop.outside i).tolerance σ.world ∧
          (σ.contexts i).Rests c')) (σ.contexts i) (σ.note (.called i call)) := by
    cases call with
    | deliver reply =>
        rw [Spindle.carryOut, leads_map]
        refine (h.leads_deliver reply).mono ?_
        rintro r c' σ' ⟨made, hmade, hrests⟩
        exact ⟨made, hmade, fun hback => hrests (by simpa using hback)⟩
    | getData => exact ⟨[], rfl, fun _ _ => ⟨rfl, rfl, .refl _⟩⟩
    | bind | applySettings | setState | setSpeed | getState | requestMaxSpeed =>
        simp [HostCall.isHearing] at hcall
  obtain ⟨c, σ'', ⟨made, hmade, hrests⟩, rfl⟩ := exists_of_call hcarry back
  obtain ⟨hfilter, htolerance, hrests⟩ := hrests rfl hundisturbed
  refine (Aside.note σ rfl rfl).trans (.of_traffic hmade (by simp [hfilter]) htolerance ?_)
  rwa [Scene.put_contexts_self]

end OwnsTolerance

/-! ## Runs -/

/-- **Runs of a workshop with what a host has one spindle do**: the calls, each at a reading of the
clock, and their answers, the latest first.  Meanwhile replies are delivered to the spindle, other
spindles are called, and the world changes, but for the tolerance of the spindle. -/
inductive Asked (shop : Workshop ι World) (i : ι) (start : Scene ι World) :
    List (HostCall × UInt64) → List Answer → Scene ι World → Prop where
  | refl : Asked shop i start [] [] start
  | outside {asks : List (HostCall × UInt64)} {answers : List Answer} {σ : Scene ι World}
      (world : World) (run : Asked shop i start asks answers σ)
      (kept : (shop.outside i).tolerance world = (shop.outside i).tolerance σ.world) :
      Asked shop i start asks answers { σ with world }
  | aside {asks : List (HostCall × UInt64)} {answers : List Answer} {σ σ' : Scene ι World}
      (patience : Nat) (j : ι) (call : HostCall) (answer : Answer)
      (run : Asked shop i start asks answers σ) (beside : j = i → call.isHearing = true)
      (back : shop.call patience j call σ = (some answer, σ')) : Asked shop i start asks answers σ'
  | ask {asks : List (HostCall × UInt64)} {answers : List Answer} {σ σ' : Scene ι World}
      (patience : Nat) (call : HostCall) (now : UInt64) (answer : Answer)
      (run : Asked shop i start asks answers σ) (plain : call.isHearing = false)
      (clock : call = .getState → (shop.outside i).elapsed σ.world = now)
      (back : shop.call patience i call σ = (some answer, σ')) :
      Asked shop i start ((call, now) :: asks) (answer :: answers) σ'

/-- **What a run is without its replies**: a spindle that hears nothing gives the same answers,
comes to the same state but for what has been heard, and sends the same, when its exchanges end in
the same way. -/
def IsReplayed (shop : Workshop ι World) (i : ι) (start : Scene ι World)
    (asks : List (HostCall × UInt64)) (answers : List Answer) (σ : Scene ι World) : Prop :=
  ∃ answers' b, answers.map Answer.withoutVerdict = answers'.map Answer.withoutVerdict ∧
    b.Rests (σ.contexts i) ∧
    Tape.Plays ((shop.spindle i).replay asks) (start.contexts i)
      ((shop.outside i).tolerance start.world) (Note.results i σ.notes) answers' b
      ((shop.outside i).tolerance σ.world) (Note.requests i σ.notes)

variable {start σ σ' : Scene ι World} {asks : List (HostCall × UInt64)} {answers : List Answer}

/-- What goes on beside makes no difference to it. -/
lemma IsReplayed.aside (h : shop.IsReplayed i start asks answers σ) (haside : shop.Aside i σ σ') :
    shop.IsReplayed i start asks answers σ' := by
  obtain ⟨answers', b, hanswers, hb, hplays⟩ := h
  refine ⟨answers', b, hanswers, hb.trans haside.rests, ?_⟩
  rw [haside.results, haside.requests, haside.tolerance]
  exact hplays

/-- One more call. -/
lemma IsReplayed.ask (own : shop.OwnsTolerance i) (h : shop.IsReplayed i start asks answers σ)
    {call : HostCall} {answer : Answer} (plain : call.isHearing = false)
    (clock : call = .getState → (shop.outside i).elapsed σ.world = now)
    (back : shop.call patience i call σ = (some answer, σ'))
    (hundisturbed : Note.Undisturbed i σ'.notes) :
    shop.IsReplayed i start ((call, now) :: asks) (answer :: answers) σ' := by
  obtain ⟨answers', b, hanswers, hb, hplays⟩ := h
  obtain ⟨c, σ'', ⟨made, hmade, htracked⟩, rfl⟩ := exists_of_call
    (own.tracksAt_carryOut plain (σ.contexts i) (σ := σ.note (.called i call)) clock) back
  obtain ⟨answer', b', hanswer, hb', hplays'⟩ := htracked answer rfl hundisturbed b hb
  rw [Scene.note_world] at hplays'
  have hresults : Note.results i (σ''.put i c).notes =
      Note.results i σ.notes ++ Note.results i made := by
    rw [Scene.put_notes, hmade, Note.results_append]
    rfl
  have hrequests : Note.requests i (σ''.put i c).notes =
      Note.requests i σ.notes ++ Note.requests i made := by
    rw [Scene.put_notes, hmade, Note.requests_append]
    rfl
  refine ⟨answer' :: answers', b', ?_, ?_, ?_⟩
  · rw [List.map_cons, List.map_cons, hanswer, hanswers]
  · rwa [Scene.put_contexts_self]
  · rw [hresults, hrequests, Spindle.replay]
    exact hplays.bind (hplays'.map _)

/-- **Every run that is undisturbed is replayed** by a spindle that hears nothing. -/
theorem Asked.isReplayed (new : shop.IsNew start) (own : shop.OwnsTolerance i)
    (run : shop.Asked i start asks answers σ) (hundisturbed : Note.Undisturbed i σ.notes) :
    shop.IsReplayed i start asks answers σ := by
  induction run with
  | refl =>
      refine ⟨[], start.contexts i, rfl, .refl _, ?_⟩
      rw [new.1]
      exact .pure [] _ _
  | outside world run kept ih => exact (ih hundisturbed).aside (.world _ kept)
  | aside patience j call answer run beside back ih =>
      rename_i σ σ'
      have haside : shop.Aside i σ σ' := by
        by_cases hj : j = i
        · subst hj
          exact own.aside_of_hearing (beside rfl) back hundisturbed
        · exact own.aside_of_ne hj call back
      obtain ⟨made, hmade⟩ := haside.grown
      rw [hmade] at hundisturbed
      exact (ih (Note.undisturbed_append.1 hundisturbed).2).aside haside
  | ask patience call now answer run plain clock back ih =>
      rename_i σ σ'
      obtain ⟨made, hmade⟩ := shop.exists_made_call patience i call σ
      rw [back] at hmade
      have holder : Note.Undisturbed i σ.notes := by
        rw [hmade] at hundisturbed
        exact fun n hn =>
          hundisturbed n (List.mem_append_right _ (List.mem_cons_of_mem _ hn))
      exact (ih holder).ask own plain clock back hundisturbed

end Workshop

/-! ## Two runs -/

/-- **Two spindles that agree in what they have been told to do** and how far they are with it. -/
structure SpindleContext.Concurs (c c' : SpindleContext) : Prop where
  selection : c.selection = c'.selection
  address : c.address = c'.address
  statusOp : c.statusOp = c'.statusOp
  speedOp : c.speedOp = c'.speedOp
  on : c.state.on = c'.state.on
  ccw : c.state.ccw = c'.state.ccw
  programmed : c.data.programmed = c'.data.programmed
  low : c.data.low = c'.data.low
  high : c.data.high = c'.data.high

/-- Two spindles do that differ from one in what they have heard. -/
lemma SpindleContext.Rests.concurs {b c c' : SpindleContext} (h : b.Rests c)
    (h' : b.Rests c') : c.Concurs c' := by
  obtain ⟨measured, atSpeed, hdata⟩ := h.data
  obtain ⟨measured', atSpeed', hdata'⟩ := h'.data
  exact
    { selection := h.selection.trans h'.selection.symm
      address := h.address.trans h'.address.symm
      statusOp := h.statusOp.trans h'.statusOp.symm
      speedOp := h.speedOp.trans h'.speedOp.symm
      on := h.on.trans h'.on.symm
      ccw := h.ccw.trans h'.ccw.symm
      programmed := by rw [hdata, hdata']
      low := by rw [hdata, hdata']
      high := by rw [hdata, hdata'] }

namespace Workshop

variable [DecidableEq ι] {ι' World' : Type} [DecidableEq ι'] {shop : Workshop ι World}
  {shop' : Workshop ι' World'} {i : ι} {i' : ι'} {start σ : Scene ι World}
  {start' σ' : Scene ι' World'} {asks : List (HostCall × UInt64)} {answers answers' : List Answer}

omit [DecidableEq ι] [DecidableEq ι'] in
/-- Spindles that are made alike begin alike. -/
lemma IsNew.contexts_eq (new : shop.IsNew start) (new' : shop'.IsNew start')
    (same : shop.spindle i = shop'.spindle i') : start.contexts i = start'.contexts i' := by
  obtain ⟨id, config, hmake⟩ := new.2 i
  obtain ⟨id', config', hmake'⟩ := new'.2 i'
  obtain ⟨hconfig, -, hc⟩ := Spindle.make_eq_ok hmake
  obtain ⟨hconfig', -, hc'⟩ := Spindle.make_eq_ok hmake'
  rw [hc, hc', ← hconfig, ← hconfig', same]

/-- **Replies do not steer.**  A spindle is run twice, in any two workshops, with the same calls at
the same readings of the clock.  The replies may differ in every way, in what they say, in when they
come, and in whether they come at all; so may whatever else goes on in the two workshops, as long as
the tolerance of the spindle is its own.  If no refusal of a speed is read outside a cold start in
either run, and no exchange ends in another way than its counterpart, then the same has been sent in
the same modes, the calls have been answered alike but for the verdict, and the two agree in what
they have been told to do. -/
theorem steered_alike (shop : Workshop ι World) (shop' : Workshop ι' World')
    (same : shop.spindle i = shop'.spindle i') (own : shop.OwnsTolerance i)
    (own' : shop'.OwnsTolerance i') (new : shop.IsNew start) (new' : shop'.IsNew start')
    (tolerance : (shop.outside i).tolerance start.world = (shop'.outside i').tolerance start'.world)
    (run : shop.Asked i start asks answers σ) (run' : shop'.Asked i' start' asks answers' σ')
    (undisturbed : Note.Undisturbed i σ.notes) (undisturbed' : Note.Undisturbed i' σ'.notes)
    (ends : ∀ (k : Nat) x y, (Note.results i σ.notes)[k]? = some x →
      (Note.results i' σ'.notes)[k]? = some y → x = y) :
    Note.requests i σ.notes = Note.requests i' σ'.notes ∧
      answers.map Answer.withoutVerdict = answers'.map Answer.withoutVerdict ∧
      (σ.contexts i).Concurs (σ'.contexts i') := by
  obtain ⟨told, b, htold, hb, hplays⟩ := run.isReplayed new own undisturbed
  obtain ⟨told', b', htold', hb', hplays'⟩ := run'.isReplayed new' own' undisturbed'
  rw [← same, ← new.contexts_eq new' same, ← tolerance] at hplays'
  obtain ⟨rfl, rfl, hrequests⟩ := hplays.alike hplays' ends
  exact ⟨hrequests, htold.trans htold'.symm, hb.concurs hb'⟩

/-! ## A bus that takes everything -/

/-- One spindle on a bus that takes every request and answers at once or not at all, the world being
the tolerance. -/
def obliging (answer : Request → Option Reply) : Workshop Unit Binary32 where
  spindle _ := Spindle.sample.1
  outside _ :=
    { isUp _ := true
      silence w := w
      send request _ c w := (some (.ok (answer request)), c, w)
      elapsed _ := 0
      isColdStart _ := false
      journal _ _ _ w := w
      raiseAlarm w := w
      tolerance w := w
      setTolerance tolerance _ := tolerance }
  calls _ _ _ _ := []

lemma obliging_ownsTolerance (answer : Request → Option Reply) :
    (obliging answer).OwnsTolerance () where
  spares _ _ := ⟨fun _ _ _ _ h => h, fun _ _ _ _ h => h, fun _ h => h⟩
  silence _ _ := rfl
  others _ _ _ hj := absurd rfl hj
  own _ _ := rfl

def obligingStart : Scene Unit Binary32 where
  contexts _ := Spindle.sample.2
  world := .ofNat 5

/-- The scene once the spindle is selected. -/
def obligingSelected (answer : Request → Option Reply) : Scene Unit Binary32 :=
  ((obliging answer).call 9 () (.bind ⟨⟨0⟩, 0⟩) obligingStart).2

/-- The scene once it has been told to start. -/
def obligingStarted (answer : Request → Option Reply) : Scene Unit Binary32 :=
  ((obliging answer).call 9 () (.setState .cw (.ofNat 600)) (obligingSelected answer)).2

/-- The scene once it has been asked for its state. -/
def obligingAsked (answer : Request → Option Reply) : Scene Unit Binary32 :=
  ((obliging answer).call 9 () .getState (obligingStarted answer)).2

/-- The calls that are made, the latest first. -/
def obligingAsks : List (HostCall × UInt64) :=
  [(.getState, 0), (.setState .cw (.ofNat 600), 0), (.bind ⟨⟨0⟩, 0⟩, 0)]

/-- How they are answered, but for the verdict. -/
def obligingAnswers (atSpeed : Bool) : List Answer :=
  [.state { SpindleState.cw with atSpeed }, .outcome (.ok ()), .done]

/-- The scene once a refusal of a question of before has come in. -/
def obligingRefused : Scene Unit Binary32 :=
  ((obliging fun _ => some lateReading).call 9 () (.deliver lateRefusal)
    (obligingAsked fun _ => some lateReading)).2

/-- A spindle that hears nothing, and one that is given the same reading in answer to everything and
a refusal afterwards: the verdicts that they tell differ, but the same has been sent. -/
theorem steered_alike_of_obliging_runs :
    (obliging fun _ => none).Asked () obligingStart obligingAsks (obligingAnswers false)
        (obligingAsked fun _ => none) ∧
      (obliging fun _ => some lateReading).Asked () obligingStart obligingAsks
        (obligingAnswers true) obligingRefused ∧
      (Note.requests () (obligingAsked fun _ => none).notes).length = 3 ∧
      Note.requests () (obligingAsked fun _ => none).notes =
        Note.requests () obligingRefused.notes := by
  have new (answer : Request → Option Reply) : (obliging answer).IsNew obligingStart :=
    ⟨rfl, fun _ => ⟨⟨0⟩, { retries := 2 }, rfl⟩⟩
  have asked (answer : Request → Option Reply) (atSpeed : Bool)
      (started : ((obliging answer).call 9 () (.setState .cw (.ofNat 600))
        (obligingSelected answer)).1 = some (.outcome (.ok ())))
      (told : ((obliging answer).call 9 () .getState (obligingStarted answer)).1 =
        some (.state { SpindleState.cw with atSpeed })) :
      (obliging answer).Asked () obligingStart obligingAsks (obligingAnswers atSpeed)
        (obligingAsked answer) := by
    have selected : (obliging answer).Asked () obligingStart [(.bind ⟨⟨0⟩, 0⟩, 0)] [.done]
        (obligingSelected answer) :=
      .ask 9 _ 0 .done .refl rfl (fun h => by cases h) rfl
    exact .ask 9 .getState 0 _
      (.ask 9 _ 0 _ selected rfl (fun h => by cases h) (Prod.ext started rfl)) rfl
      (fun _ => rfl) (Prod.ext told rfl)
  have run := asked (fun _ => none) false (by decide +kernel) (by decide +kernel)
  have run' : (obliging fun _ => some lateReading).Asked () obligingStart obligingAsks
      (obligingAnswers true) obligingRefused :=
    .aside 9 () (.deliver lateRefusal) .done
      (asked (fun _ => some lateReading) true (by decide +kernel) (by decide +kernel))
      (fun _ => rfl) (Prod.ext (by decide +kernel) rfl)
  have hresults : Note.results () (obligingAsked fun _ => none).notes =
      Note.results () obligingRefused.notes := by decide +kernel
  refine ⟨run, run', by decide +kernel, ?_⟩
  refine (steered_alike (obliging fun _ => none) (obliging fun _ => some lateReading) rfl
    (obliging_ownsTolerance _) (obliging_ownsTolerance _) (new _) (new _) rfl run run'
    (by decide +kernel) (by decide +kernel) fun k x y hx hy => ?_).1
  rw [hresults] at hx
  exact Option.some.inj (hx.symm.trans hy)

end Workshop

end SpindleDrive
