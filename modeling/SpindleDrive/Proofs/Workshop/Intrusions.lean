import SpindleDrive.Proofs.Workshop.Dispatches
import SpindleDrive.Proofs.Workshop.Sending
import SpindleDrive.Proofs.Workshop.Tracking

/-!
# Calls that come to nothing

From inside an exchange a transport may call for the speeds, or command a spindle that is at work on
a command of the same kind already.  The first changes nothing, the second is refused, and all the
rest goes on as if neither had been made: whatever a spindle looks at before it refuses, it has
changed nothing by then.

* `HostCall.idleAnswer?` — how such a call is answered.
* `Workshop.withoutIdle` — the same workshop where no transport makes such a call.
* `Workshop.Tells` — runs with what the host was told.
* `Workshop.Makes` — the calls that a transport makes during an exchange, each in its scene.
* `reenterAll_erase` — calls that come to nothing can be left out of a list.
* `isSelected_of_busy` — whoever is at work while a request is handed over is selected.
* **`Workshop.intrusions_of_run`** — in every run they are answered as they should be, and the run
  is the same without them.
-/

namespace SpindleDrive

open Operation

/-! ## One call -/

/-- **How a call is answered that comes to nothing**, if it does: the speeds are told, and a command
finds its own operation under way. -/
def HostCall.idleAnswer? (c : SpindleContext) : HostCall → Option Answer
  | getData => some (.data c.data)
  | setState .. =>
    if c.statusOp.isBusy then some (.outcome (.error (.reentrant .setStatus))) else none
  | setSpeed .. =>
    if c.speedOp.isBusy then some (.outcome (.error (.reentrant .setSpeed))) else none
  | _ => none

/-- A call from inside an exchange that comes to nothing. -/
def InnerCall.isIdle (c : SpindleContext) (call : InnerCall) : Bool :=
  (call.asHost?.bind (HostCall.idleAnswer? c)).isSome

/-- Whether a call comes to nothing depends on how far both operations are. -/
lemma InnerCall.isIdle_of_stands {c c' : SpindleContext} (h : c.Stands c') (call : InnerCall) :
    call.isIdle c' = call.isIdle c := by
  cases call with
  | setState | setSpeed =>
      simp only [isIdle, asHost?, Option.bind_some, HostCall.idleAnswer?, h.statusOp, h.speedOp]
  | deliver | getData | unsupported => rfl

namespace Spindle

variable {World : Type} {s : Spindle} {env : Surroundings World} {patience : Nat}
  {c : SpindleContext} {w : World} {call : HostCall} {answer : Answer}

/-- A call that is refused comes back with the refusal, and everything is as it was. -/
lemma run_refused {e : DriverError} (h : call.refusal? c = some e) :
    (s.carryOut env patience call).run.run (c, w) = (some (.outcome (.error e)), c, w) := by
  have hrefused : Leads (s.carryOut env patience call)
      (fun r c' w' => r = some (.outcome (.error e)) ∧ c' = c ∧ w' = w) c w := leads_refused h
  exact Prod.ext hrefused.1 (Prod.ext hrefused.2.1 hrefused.2.2)

/-- **A call that comes to nothing** is answered and changes nothing, if the spindle is selected. -/
lemma run_idle (hselected : c.isSelected = true) (h : call.idleAnswer? c = some answer) :
    (s.carryOut env patience call).run.run (c, w) = (some answer, c, w) := by
  cases call with
  | getData =>
      cases h
      rfl
  | setState | setSpeed =>
      simp only [HostCall.idleAnswer?, Option.ite_none_right_eq_some, Option.some.injEq] at h
      obtain ⟨hbusy, rfl⟩ := h
      exact run_refused (by simp [HostCall.refusal?, hselected, hbusy])
  | bind | applySettings | getState | requestMaxSpeed | deliver => cases h

/-- It changes nothing in any case: a spindle that is not selected refuses it as well. -/
lemma exists_run_idle (h : call.idleAnswer? c = some answer) :
    ∃ told, (s.carryOut env patience call).run.run (c, w) = (some told, c, w) := by
  by_cases hselected : c.isSelected = true
  · exact ⟨answer, run_idle hselected h⟩
  cases call with
  | getData => exact ⟨_, rfl⟩
  | setState | setSpeed =>
      exact ⟨_, run_refused (e := .notSelected) (by simp [HostCall.refusal?, hselected])⟩
  | bind | applySettings | getState | requestMaxSpeed | deliver => cases h

end Spindle

/-! ## A workshop without such calls -/

variable {ι World : Type}

namespace Workshop

/-- **The same workshop where no transport makes a call that comes to nothing.**  How far the
operations are is looked at when the request is handed over; no call from inside the exchange moves
them. -/
def withoutIdle (shop : Workshop ι World) : Workshop ι World :=
  { shop with
    calls := fun i request mode σ =>
      (shop.calls i request mode σ).filter fun (j, call) => !call.isIdle (σ.contexts j) }

variable [DecidableEq ι]

/-- Runs with the calls that the host has made and what it was told, the latest first. -/
inductive Tells (shop : Workshop ι World) (start : Scene ι World) :
    List (ι × HostCall × Answer) → Scene ι World → Prop where
  | refl : Tells shop start [] start
  | outside {told : List (ι × HostCall × Answer)} {σ : Scene ι World} (world : World)
      (run : Tells shop start told σ) : Tells shop start told { σ with world }
  | call {told : List (ι × HostCall × Answer)} {σ σ' : Scene ι World} (patience : Nat) (i : ι)
      (call : HostCall) (answer : Answer) (run : Tells shop start told σ)
      (back : shop.call patience i call σ = (some answer, σ')) :
      Tells shop start ((i, call, answer) :: told) σ'

/-- **The calls that a transport makes** once a request has been handed over, this being the latest
of the notes: whom it calls, for what, and in which scene. -/
inductive Makes (shop : Workshop ι World) (patience : Nat) :
    List (Note ι) → ι → InnerCall → Scene ι World → Prop where
  | call {i j : ι} {request : Request} {mode : SendMode} {contexts : ι → SpindleContext}
      {older : List (Note ι)} {before after : List (ι × InnerCall)} {inner : InnerCall}
      {σ : Scene ι World} (world : World)
      (made : shop.calls i request mode
        ⟨contexts, world, .sending i request mode contexts :: older⟩ =
          before ++ (j, inner) :: after)
      (reached : shop.reenterAll patience before
        ⟨contexts, world, .sending i request mode contexts :: older⟩ = (some (), σ)) :
      Makes shop patience (.sending i request mode contexts :: older) j inner σ

variable {shop : Workshop ι World} {patience : Nat} {start σ : Scene ι World}
  {told : List (ι × HostCall × Answer)}

lemma Tells.reaches (run : shop.Tells start told σ) : shop.Reaches start σ := by
  induction run with
  | refl => exact .refl
  | outside world _ ih => exact .outside world ih
  | call patience i call answer _ back ih =>
      have hreaches := Reaches.call patience i call answer ih (congrArg Prod.fst back)
      rwa [back] at hreaches

/-! ## Nothing is lost without them -/

/-- A call that comes to nothing leaves the scene as it is. -/
lemma reenter_of_isIdle (shop : Workshop ι World) (patience : Nat) {j : ι} {call : InnerCall}
    {σ : Scene ι World} (idle : call.isIdle (σ.contexts j) = true) :
    shop.reenter patience j call σ = (some (), σ) := by
  obtain ⟨answer, hanswer⟩ := Option.isSome_iff_exists.1 idle
  obtain ⟨hostCall, hcall, hidle⟩ := Option.bind_eq_some_iff.1 hanswer
  obtain ⟨told, htold⟩ : ∃ told,
      ((shop.spindle j).carryOut (shop.quiet j) patience hostCall).run.run (σ.contexts j, σ) =
        (some told, σ.contexts j, σ) := Spindle.exists_run_idle hidle
  rw [reenter, hcall]
  simp only [htold, Option.map_some, Scene.put_contexts]

/-- **Calls that come to nothing can be left out**, if the operations are as far as they were when
it was seen that they do. -/
lemma reenterAll_erase (shop : Workshop ι World) (patience : Nat)
    (contexts : ι → SpindleContext) (calls : List (ι × InnerCall)) :
    ∀ σ : Scene ι World, (∀ j, (contexts j).Stands (σ.contexts j)) →
      shop.reenterAll patience (calls.filter fun (j, call) => !call.isIdle (contexts j)) σ =
        shop.reenterAll patience calls σ := by
  induction calls with
  | nil => exact fun σ _ => rfl
  | cons entry rest ih =>
      obtain ⟨j, call⟩ := entry
      intro σ hstands
      have hidle := InnerCall.isIdle_of_stands (hstands j) call
      cases hcall : call.isIdle (contexts j) with
      | true =>
          rw [hcall] at hidle
          rw [List.filter_cons_of_neg (by simp [hcall]), reenterAll,
            shop.reenter_of_isIdle patience hidle]
          exact ih σ hstands
      | false =>
          rw [List.filter_cons_of_pos (by simp [hcall]), reenterAll, reenterAll]
          have hafter := shop.stands_reenter patience j call σ
          rcases hreenter : shop.reenter patience j call σ with ⟨_ | _, σ'⟩
          · rfl
          · rw [hreenter] at hafter
            exact ih σ' fun k => (hstands k).trans (hafter rfl k)

lemma withoutIdle_reenterAll (shop : Workshop ι World) (patience : Nat)
    (calls : List (ι × InnerCall)) :
    ∀ σ, shop.withoutIdle.reenterAll patience calls σ = shop.reenterAll patience calls σ := by
  induction calls with
  | nil => exact fun σ => rfl
  | cons entry rest ih =>
      intro σ
      rw [reenterAll, reenterAll]
      rw [show shop.withoutIdle.reenter patience entry.1 entry.2 σ =
        shop.reenter patience entry.1 entry.2 σ from rfl]
      rcases shop.reenter patience entry.1 entry.2 σ with ⟨_ | _, σ'⟩
      · rfl
      · exact ih σ'

lemma withoutIdle_exchange (shop : Workshop ι World) (patience : Nat) (i : ι) (request : Request)
    (mode : SendMode) (σ : Scene ι World) :
    shop.withoutIdle.exchange patience i request mode σ =
      shop.exchange patience i request mode σ := by
  have hcalls := shop.reenterAll_erase patience σ.contexts
    (shop.calls i request mode (σ.note (.sending i request mode σ.contexts)))
    (σ.note (.sending i request mode σ.contexts)) fun j => .refl _
  simp only [exchange, withoutIdle_reenterAll]
  rw [show shop.withoutIdle.calls i request mode (σ.note (.sending i request mode σ.contexts)) =
    (shop.calls i request mode (σ.note (.sending i request mode σ.contexts))).filter
      fun (j, call) => !call.isIdle (σ.contexts j) from rfl, hcalls]
  rfl

/-- **Every call by the host comes to the same.** -/
theorem withoutIdle_call (shop : Workshop ι World) (patience : Nat) (i : ι) (call : HostCall)
    (σ : Scene ι World) :
    shop.withoutIdle.call patience i call σ = shop.call patience i call σ := by
  have hsurroundings : shop.withoutIdle.surroundings patience i = shop.surroundings patience i := by
    simp only [surroundings, withoutIdle_exchange]
    rfl
  rw [Workshop.call, hsurroundings]
  rfl

lemma Tells.withoutIdle (run : shop.Tells start told σ) : shop.withoutIdle.Tells start told σ := by
  induction run with
  | refl => exact .refl
  | outside world _ ih => exact .outside world ih
  | call patience i call answer _ back ih =>
      exact .call patience i call answer ih ((shop.withoutIdle_call patience i call _).trans back)

/-! ## How they are answered -/

omit [DecidableEq ι] in
/-- Nothing is noted yet, and no spindle is selected. -/
lemma IsNew.inPlace (new : shop.IsNew start) (i : ι) : shop.InPlace i start := by
  obtain ⟨hnotes, hmade⟩ := new
  obtain ⟨id, config, hmake⟩ := hmade i
  refine ⟨?_, by simp [Scene.traffic, hnotes]⟩
  rw [(Spindle.make_eq_ok hmake).2.2]
  rintro _ ⟨⟩

/-- **Whoever is at work while a request is handed over is selected**: it is the spindle that hands
it over. -/
lemma isSelected_of_busy (new : shop.IsNew start) (reached : shop.Reaches start σ) {call : HostCall}
    {i j k : ι} {request : Request} {mode : SendMode} {contexts : ι → SpindleContext}
    {newer older : List (Note ι)} {kind : RequestKind}
    (noted : (shop.call patience k call σ).2.notes =
      newer ++ .sending i request mode contexts :: older)
    (busy : ((contexts j).progress kind).isBusy = true) : (contexts j).isSelected = true := by
  have htraffic : (shop.call patience k call σ).2.traffic =
      newer.filter Note.isTraffic ++
        .sending i request mode contexts :: older.filter Note.isTraffic := by
    rw [Scene.traffic, noted, List.filter_append, List.filter_cons_of_pos rfl]
  have hordered : Ordered (shop.call patience k call σ).2.traffic := by
    have hcalm := (reached.calm new).call (new.retries k) patience call
    cases hanswer : (shop.call patience k call σ).1 with
    | none =>
        rw [hanswer] at hcalm
        exact hcalm
    | some answer =>
        rw [hanswer] at hcalm
        exact hcalm.ordered
  rw [htraffic] at hordered
  have hrightful := (reached.inPlace (new.inPlace i)).traffic_of_call patience k call
    (.sending i request mode contexts) (by rw [htraffic]; simp)
  by_cases hj : j = i
  · subst hj
    obtain ⟨selection, hselection, -⟩ := hrightful rfl
    rw [SpindleContext.isSelected, hselection]
    rfl
  · rw [hordered.inOrder.others j hj kind] at busy
    cases busy

/-- A call from inside an exchange that comes back leaves every spindle in its place. -/
lemma rests_reenterAll (shop : Workshop ι World) (patience : Nat) {calls : List (ι × InnerCall)}
    {σ σ' : Scene ι World} (back : shop.reenterAll patience calls σ = (some (), σ')) (j : ι) :
    (σ.contexts j).Rests (σ'.contexts j) := by
  have hall : (shop.reenterAll patience calls σ).1.isSome = true →
      (σ.contexts j).Rests ((shop.reenterAll patience calls σ).2.contexts j) :=
    of_reenterAll (R := fun σ σ' : Scene ι World => (σ.contexts j).Rests (σ'.contexts j))
      (fun _ => .refl _) (fun _ _ _ hfirst hsecond => hfirst.trans hsecond)
      (fun i call σ back => shop.rests_reenter patience i call σ back j) calls σ
  rw [back] at hall
  exact hall rfl

/-- **Calls that come to nothing are not seen.**  From a scene in which every spindle is new,
whatever the transports answer and whomever they call meanwhile, a run is one of the workshop
without such calls as well: the host is told the same, and the scene at the end is the same, with
all spindles, the world, and the notes of every request with its mode and the states of all
spindles, of every result, every reply that was read and every alarm.  So it is with a further call,
whether it comes back or not.  And of the calls that the transports make all the while, those for
the speeds are given them, and commands to a spindle that is at work on one of the same kind come
back as reentrant; neither changes anything. -/
theorem intrusions_of_run (shop : Workshop ι World) (new : shop.IsNew start)
    (run : shop.Tells start told σ) (patience : Nat) (i : ι) (call : HostCall) :
    shop.withoutIdle.Tells start told σ ∧
    shop.withoutIdle.call patience i call σ = shop.call patience i call σ ∧
    ∀ newer notes, (shop.call patience i call σ).2.notes = newer ++ notes →
      ∀ patience' j inner τ, shop.Makes patience' notes j inner τ →
      ∀ hostCall answer, InnerCall.asHost? inner = some hostCall →
        hostCall.idleAnswer? (τ.contexts j) = some answer →
        ((shop.spindle j).carryOut (shop.quiet j) patience' hostCall).run.run (τ.contexts j, τ) =
          (some answer, τ.contexts j, τ) := by
  refine ⟨run.withoutIdle, shop.withoutIdle_call patience i call σ, ?_⟩
  intro newer notes hnotes patience' j inner τ hmakes hostCall answer hinner hanswer
  obtain @⟨k, _, request, mode, contexts, older, before, after, _, _, world, _, hreached⟩ := hmakes
  have hrests := shop.rests_reenterAll patience' hreached j
  by_cases hdata : hostCall = .getData
  · subst hdata
    cases hanswer
    rfl
  have hbusy : ∃ kind, ((contexts j).progress kind).isBusy = true := by
    cases hostCall with
    | setState state rpm =>
        refine ⟨.setStatus, ?_⟩
        simp only [HostCall.idleAnswer?, Option.ite_none_right_eq_some] at hanswer
        rw [← hrests.progress .setStatus]
        exact hanswer.1
    | setSpeed rpm blocking =>
        refine ⟨.setSpeed, ?_⟩
        simp only [HostCall.idleAnswer?, Option.ite_none_right_eq_some] at hanswer
        rw [← hrests.progress .setSpeed]
        exact hanswer.1
    | getData => exact absurd rfl hdata
    | bind | applySettings | getState | requestMaxSpeed | deliver => cases hanswer
  obtain ⟨kind, hbusy⟩ := hbusy
  have hselected : (τ.contexts j).isSelected = true := by
    rw [hrests.isSelected_eq]
    exact isSelected_of_busy new run.reaches hnotes hbusy
  exact Spindle.run_idle hselected hanswer

/-! ## A transport that meddles -/

/-- One spindle on a bus that takes every request and is asked for nothing more.  Whenever a command
is handed over the transport commands the spindle in the same way, twice, and asks for its speeds.
-/
def meddling : Workshop Unit Nat :=
  { contrary (fun _ => false) with
    calls := fun _ request _ _ =>
      match request.kind with
      | .setStatus => [((), .setState .off .zero), ((), .getData), ((), .setState .cw .zero)]
      | .setSpeed => [((), .setSpeed .zero false), ((), .getData), ((), .setSpeed .zero true)]
      | .getSpeed | .getMaxSpeed => [((), .getData)] }

/-- The scene once the spindle is selected. -/
def meddlingSelected : Scene Unit Nat :=
  (meddling.call 9 () (.bind ⟨⟨0⟩, 0⟩) contraryMade).2

/-- The scene once it has been told to start. -/
def meddlingStarted : Scene Unit Nat :=
  (meddling.call 9 () (.setState .cw (.ofNat 600)) meddlingSelected).2

/-- Whether a note is of a speed that is handed over with the spindle at work on it. -/
def isSpeedUnderway : Note Unit → Bool
  | .sending _ request _ contexts =>
    request.kind = .setSpeed && (contexts ()).speedOp.isBusy
  | _ => false

/-- The spindle is told to start, the transport meddles with the command and with the speed, and the
host is told what it is told if the transport does not.  The transport is told off. -/
theorem intrusions_of_meddling_run :
    meddling.IsNew contraryMade ∧
      meddling.Tells contraryMade
        [((), .setState .cw (.ofNat 600), .outcome (.ok ())), ((), .bind ⟨⟨0⟩, 0⟩, .done)]
        meddlingStarted ∧
      meddling.withoutIdle.Tells contraryMade
        [((), .setState .cw (.ofNat 600), .outcome (.ok ())), ((), .bind ⟨⟨0⟩, 0⟩, .done)]
        meddlingStarted ∧
      ∃ newer notes τ,
        (meddling.call 9 () .getData meddlingStarted).2.notes = newer ++ notes ∧
        meddling.Makes 9 notes () (.setSpeed .zero false) τ ∧
        ((meddling.spindle ()).carryOut (meddling.quiet ()) 9 (.setSpeed .zero false)).run.run
            (τ.contexts (), τ) =
          (some (.outcome (.error (.reentrant .setSpeed))), τ.contexts (), τ) := by
  have new : meddling.IsNew contraryMade := ⟨rfl, fun _ => ⟨⟨0⟩, { retries := 2 }, rfl⟩⟩
  have selected : meddling.Tells contraryMade [((), .bind ⟨⟨0⟩, 0⟩, .done)] meddlingSelected :=
    .call 9 () _ .done .refl (Prod.ext (by decide +kernel) rfl)
  have started : meddling.Tells contraryMade
      [((), .setState .cw (.ofNat 600), .outcome (.ok ())), ((), .bind ⟨⟨0⟩, 0⟩, .done)]
      meddlingStarted :=
    .call 9 () _ (.outcome (.ok ())) selected (Prod.ext (by decide +kernel) rfl)
  obtain ⟨alike, -, answered⟩ := intrusions_of_run meddling new started 9 () .getData
  have hsent : (meddling.call 9 () .getData meddlingStarted).2.notes.any isSpeedUnderway := by
    decide +kernel
  obtain ⟨n, hn, hunderway⟩ := List.any_eq_true.1 hsent
  obtain ⟨newer, older, hnotes⟩ := List.append_of_mem hn
  cases n with
  | sending i request mode contexts =>
      simp only [isSpeedUnderway, Bool.and_eq_true, decide_eq_true_eq] at hunderway
      obtain ⟨hkind, hbusy⟩ := hunderway
      have hmakes : meddling.Makes 9 (.sending i request mode contexts :: older) ()
          (.setSpeed .zero false)
          ⟨contexts, 0, .sending i request mode contexts :: older⟩ := by
        have hcalls : meddling.calls i request mode
            ⟨contexts, 0, .sending i request mode contexts :: older⟩ =
            [] ++ ((), .setSpeed .zero false) :: [((), .getData), ((), .setSpeed .zero true)] := by
          simp [meddling, hkind]
        exact .call 0 hcalls rfl
      refine ⟨new, started, alike, newer, _, _, hnotes, hmakes, ?_⟩
      exact answered newer _ hnotes 9 () _ _ hmakes _ _ rfl (if_pos hbusy)
  | called | exchanged | read | alarm => cases hunderway

end Workshop

end SpindleDrive
