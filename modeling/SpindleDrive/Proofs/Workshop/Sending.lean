import SpindleDrive.Proofs.Drive.Requests
import SpindleDrive.Proofs.Workshop.Watched
import SpindleDrive.Spindle.Registration

/-!
# What spindles send

A spindle is posted by the selection that it hears of, which gives it the address it sends to, and
nothing else moves it.  So all the traffic of a call is that of the spindle which is called, at the
post where the call has it, and what it hands over there is a proper request to that address.

* `Post`, `Spindle.hear` — how a spindle is selected and where it sends, and what a call does to it.
* `Note.IsWorkOf`, `Scene.Works` — the traffic of one spindle at its post.
* `Note.IsRightful` — a request is handed over while the spindle is selected, and is proper at the
  address for the selection.
* `conducts_atPost` — spindles stay at their posts whatever they do by themselves.
* **`works_of_call`** — what a call sends is the work of the spindle that is called.
* `InPlace.call` — a spindle stays in its place through every call.
* **`requests_of_run`** — all requests of a spindle are in their place, and so are those of one more
  call, whether it comes back or not.
-/

namespace SpindleDrive

open Operation Surroundings

/-- Where a spindle is posted: how it is selected, if it is, and the address that it sends to. -/
structure Post where
  selection : Option Selection
  address : UInt8

def SpindleContext.post (c : SpindleContext) : Post := ⟨c.selection, c.address⟩

/-- Where a call posts a spindle.  Only hearing of a selection moves it. -/
def Spindle.hear (s : Spindle) (p : Post) : HostCall → Post
  | .bind selection =>
    if selection.id = s.id then ⟨some selection, s.config.modbusAddress selection.binding⟩
    else { p with selection := none }
  | _ => p

/-- A spindle can be posted so: if it is selected it is by its own number, and its address is the
one for the selection. -/
def Post.IsOf (p : Post) (s : Spindle) : Prop :=
  ∀ selection, p.selection = some selection →
    selection.id = s.id ∧ p.address = s.config.modbusAddress selection.binding

lemma Spindle.isOf_hear {s : Spindle} {p : Post} (h : p.IsOf s) (call : HostCall) :
    (s.hear p call).IsOf s := by
  cases call with
  | bind selection =>
      rw [hear]
      split
      · rintro _ ⟨⟩
        exact ⟨‹_›, rfl⟩
      · rintro _ ⟨⟩
  | _ => exact h

variable {ι World : Type}

/-- **The traffic of one spindle at its post**: exchanges of its own, for proper requests that are
handed over while it is selected. -/
def Note.IsWorkOf (i : ι) (registers : RegisterMap) (p : Post) : Note ι → Prop
  | sending j request mode contexts =>
    j = i ∧ p.selection.isSome = true ∧ (contexts i).post = p ∧
      request.IsProper registers p.address mode
  | exchanged j .. => j = i
  | called .. | read .. | alarm .. => False

/-- A request of one spindle is handed over while the spindle is selected, and is proper at the
address for the selection. -/
def Note.IsRightful (i : ι) (s : Spindle) : Note ι → Prop
  | sending j request mode contexts => j = i →
    ∃ selection, (contexts i).selection = some selection ∧ selection.id = s.id ∧
      request.IsProper s.registers (s.config.modbusAddress selection.binding) mode
  | _ => True

lemma Note.IsWorkOf.isRightful {i : ι} {s : Spindle} {p : Post} {n : Note ι}
    (h : n.IsWorkOf i s.registers p) (hp : p.IsOf s) : n.IsRightful i s := by
  cases n with
  | sending j request mode contexts =>
      rcases h with ⟨-, hselected, hpost, hproper⟩
      intro _
      rcases Option.isSome_iff_exists.1 hselected with ⟨selection, hselection⟩
      rcases hp selection hselection with ⟨hid, haddress⟩
      refine ⟨selection, ?_, hid, haddress ▸ hproper⟩
      rw [← hselection, ← hpost]
      rfl
  | called | exchanged | read | alarm => trivial

/-- The work of another spindle is right as far as this one is concerned. -/
lemma Note.IsWorkOf.isRightful_of_ne {i j : ι} {registers : RegisterMap} {s : Spindle} {p : Post}
    {n : Note ι} (h : n.IsWorkOf j registers p) (hj : j ≠ i) : n.IsRightful i s := by
  cases n with
  | sending k request mode contexts => exact fun hk => absurd (h.1.symm.trans hk) hj
  | called | exchanged | read | alarm => trivial

/-- All traffic since some time is that of one spindle at its post. -/
def Scene.Works (i : ι) (registers : RegisterMap) (p : Post) (older : List (Note ι))
    (σ : Scene ι World) : Prop :=
  ∃ made, σ.traffic = made ++ older ∧ ∀ n ∈ made, n.IsWorkOf i registers p

namespace Scene

variable {i : ι} {registers : RegisterMap} {p : Post} {older : List (Note ι)} {σ σ' : Scene ι World}

lemma Works.cons {n : Note ι} (h : σ.Works i registers p older)
    (traffic : σ'.traffic = n :: σ.traffic) (own : n.IsWorkOf i registers p) :
    σ'.Works i registers p older := by
  rcases h with ⟨made, hmade, hown⟩
  refine ⟨n :: made, by rw [traffic, hmade, List.cons_append], ?_⟩
  intro n hn
  rcases List.mem_cons.1 hn with rfl | hn
  · exact own
  · exact hown n hn

lemma isKept_works (i : ι) (registers : RegisterMap) (p : Post) (older : List (Note ι)) :
    IsKept fun σ : Scene ι World => σ.Works i registers p older where
  world _ _ h := h
  note σ n hn h := by
    rcases h with ⟨made, hmade, hown⟩
    exact ⟨made, by rw [traffic_note, hn]; exact hmade, hown⟩

end Scene

namespace Workshop

variable {shop : Workshop ι World} {patience : Nat} {i : ι} {p : Post} {older : List (Note ι)}

/-- A spindle is at its post, and has been since some time. -/
def AtPost (shop : Workshop ι World) (i : ι) (p : Post) (older : List (Note ι))
    (c : SpindleContext) (σ : Scene ι World) : Prop :=
  c.post = p ∧ σ.Works i (shop.spindle i).registers p older

/-- What can be said of an operation that does not come back. -/
def WasAtPost (shop : Workshop ι World) (i : ι) (p : Post) (older : List (Note ι))
    (_ : SpindleContext) (σ : Scene ι World) : Prop :=
  σ.Works i (shop.spindle i).registers p older

/-- The post of a spindle is nothing that it changes by itself. -/
lemma sustains_post (shop : Workshop ι World) (i : ι) (p : Post) :
    shop.Sustains i (fun c => c.post = p) fun _ => True where
  book c c' hr hP := by
    rw [← hP, SpindleContext.post, hr.selection, hr.address]
    rfl
  program _ _ _ _ _ hP := hP
  read _ _ _ _ hP := hP
  spares _ := ⟨fun _ _ _ _ _ => trivial, fun _ _ _ _ _ => trivial, fun _ _ => trivial⟩

variable {c c' : SpindleContext} {σ : Scene ι World}

lemma AtPost.book (h : shop.AtPost i p older c σ) (hr : c.Resembles c') :
    shop.AtPost i p older c' σ :=
  ⟨(shop.sustains_post i p).book c c' hr h.1, h.2⟩

variable [DecidableEq ι]

/-- A proper request is the work of a spindle, and during its exchange there is no other. -/
lemma AtPost.leads_exchange {request : Request} {mode : SendMode}
    (selected : p.selection.isSome = true)
    (proper : request.IsProper (shop.spindle i).registers p.address mode)
    (h : shop.AtPost i p older c σ) :
    Leads (Operation.exchange (shop.surroundings patience i) request mode)
      (SpindleDrive.Settled (shop.AtPost i p older) (shop.WasAtPost i p older)) c σ := by
  rcases h with ⟨hpost, hworks⟩
  have hsending : Note.IsWorkOf i (shop.spindle i).registers p
      (.sending i request mode (σ.put i c).contexts) :=
    ⟨rfl, selected, by rw [Scene.put_contexts_self, hpost], proper⟩
  have htraffic : Leads (Operation.exchange (shop.surroundings patience i) request mode)
      (fun _ _ σ' => σ'.Works i (shop.spindle i).registers p older) c σ := by
    refine Workshop.leads_exchange (fun c' σ' htraffic => ?_)
      fun result c' σ' _ _ htraffic => ?_
    · exact hworks.cons htraffic hsending
    · rcases hworks with ⟨made, hmade, hown⟩
      refine ⟨_ :: _ :: made, by rw [htraffic, hmade]; rfl, ?_⟩
      simpa [hsending] using ⟨rfl, hown⟩
  have hbears : (shop.surroundings patience i).Bears
      (fun c σ => (σ.put i c).Meets i (fun c => c.post = p) fun _ => True) (fun _ _ => True)
      request := (shop.sustains_post i p).bears i request
  refine (htraffic.and (hbears mode c σ (Scene.meets_put_self.2 ⟨hpost, trivial⟩))).mono ?_
  intro r c' σ' hend
  rcases hend with ⟨hworks, hmeets⟩
  rcases r with _ | result
  · exact hworks
  · have hput : (σ'.put i c').Meets i (fun c => c.post = p) fun _ => True := hmeets
    exact ⟨(Scene.meets_put_self.1 hput).1, hworks⟩

/-- So is a speed, with however many attempts. -/
lemma AtPost.leads_exchangeSpeed (rpm : Binary32) (blocking : Bool) (hsel : c.isSelected = true)
    (h : shop.AtPost i p older c σ) :
    Leads ((shop.spindle i).exchangeSpeed (shop.surroundings patience i)
        (.speed c.address (shop.spindle i).registers ((shop.spindle i).reader.scale.toCode rpm))
        blocking)
      (Programmed (shop.surroundings patience i) rpm (shop.AtPost i p older)
        (shop.WasAtPost i p older)) c σ := by
  have hpost := h.1
  subst hpost
  refine (leads_exchangeSpeed_settled (E := shop.WasAtPost i c.post older)
    (fun mode c' σ' h' => ?_) (fun n c' _ h' => h'.book (c'.resembles_speedOp _)) blocking
    h).mono ?_
  · exact AtPost.leads_exchange (p := c.post) hsel (Request.isProper_speed ..) h'
  · intro r c' σ' hend
    rcases r with _ | outcome <;> exact hend

/-- Spindles stay at their posts whatever they do by themselves. -/
lemma conducts_atPost (shop : Workshop ι World) (patience : Nat) (i : ι) (p : Post)
    (older : List (Note ι)) :
    (shop.surroundings patience i).Conducts (shop.spindle i) (fun _ _ => True)
      (shop.AtPost i p older) (shop.WasAtPost i p older) where
  ended c σ h := h.2
  book c c' σ hr h := h.book hr
  raiseAlarm c σ h := ⟨h.1, (shop.quiet_keeps i (Scene.isKept_works ..)).raiseAlarm σ h.2⟩
  read reply rest c σ h :=
    ⟨h.1, (shop.quiet_keeps i (Scene.isKept_works ..)).journal reply _ c σ h.2⟩
  due _ _ _ _ _ _ := trivial
  speed rpm c σ hsel _ h := h.leads_exchangeSpeed rpm false hsel
  reading request c σ hsel hreading h := by
    have hpost := h.1
    subst hpost
    have hproper : request.IsProper (shop.spindle i).registers c.post.address .nonBlocking := by
      cases hreading with
      | output => exact Request.isProper_readOutput ..
      | highest hmax => exact Request.isProper_readMax _ _ hmax
    exact leads_sendOnce_settled (fun _ _ h' => h'.leads_exchange hsel hproper) h

/-- **A call posts a spindle, and there it works.** -/
lemma leads_carryOut_atPost (shop : Workshop ι World) (patience : Nat) (i : ι) (call : HostCall) :
    Leads ((shop.spindle i).carryOut (shop.surroundings patience i) patience call)
      (SpindleDrive.Settled (shop.AtPost i ((shop.spindle i).hear c.post call) σ.traffic)
        (shop.WasAtPost i ((shop.spindle i).hear c.post call) σ.traffic)) c σ := by
  have hbegun (p : Post) : σ.Works i (shop.spindle i).registers p σ.traffic := ⟨[], rfl, by simp⟩
  have hstays : shop.AtPost i c.post σ.traffic c σ := ⟨rfl, hbegun _⟩
  have h := shop.conducts_atPost patience i ((shop.spindle i).hear c.post call) σ.traffic
  cases call with
  | bind selection =>
      refine leads_map_settled _ (h.leads_bindTo (fun hid => ?_) fun hid => ?_)
      · rw [Spindle.hear, if_neg hid]
        exact ⟨rfl, hbegun _⟩
      · rw [Spindle.hear, if_pos hid]
        exact ⟨rfl, hbegun _⟩
  | applySettings settings changed =>
      exact leads_map_settled _ (leads_applySettings (fun _ => hstays) fun _ => hstays)
  | setState state rpm =>
      refine leads_map_settled _ (h.leads_setState h (fun _ => hstays) (fun _ _ h => h)
        (fun hsel _ => ?_) fun c' σ' hsel h' => h'.leads_exchangeSpeed rpm true hsel)
      have htaken : shop.AtPost i c.post σ.traffic (c.takeCommand state) σ := hstays
      refine leads_sendRepeatedly_settled (fun c' σ' h' => ?_) (fun n c σ h' => ?_) htaken
      · exact h'.leads_exchange hsel (Request.isProper_command ..)
      · exact h'.book (c.resembles_statusOp _)
  | setSpeed rpm blocking =>
      refine leads_map_settled _ (h.leads_setSpeed (fun _ => hstays) fun hsel _ => ?_)
      exact AtPost.leads_exchangeSpeed (c := { c with speedOp := .sending }) rpm blocking hsel
        hstays
  | getState => exact leads_map_settled _ (h.leads_getState hstays)
  | getData => exact hstays
  | requestMaxSpeed => exact leads_map_settled _ (h.leads_requestMaxSpeed hstays)
  | deliver reply => exact leads_map_settled _ (h.leads_deliver patience reply hstays)

/-! ## Calls by the host -/

/-- **What a call sends** is the work of the spindle that is called, at the post where it is. -/
theorem works_of_call (shop : Workshop ι World) (patience : Nat) (i : ι) (call : HostCall)
    (σ : Scene ι World) :
    (shop.call patience i call σ).2.Works i (shop.spindle i).registers
      ((shop.spindle i).hear (σ.contexts i).post call) (.called i call :: σ.traffic) := by
  rcases hcall : shop.call patience i call σ with ⟨answer?, σ'⟩
  rcases exists_of_call (shop.leads_carryOut_atPost patience i call) hcall with
    ⟨c, σ'', hend, rfl⟩
  cases answer? with
  | none => exact hend
  | some answer => exact hend.2

/-- A call that comes back leaves the spindle at its post. -/
lemma post_of_call {call : HostCall} {answer : Answer} {σ' : Scene ι World}
    (back : shop.call patience i call σ = (some answer, σ')) :
    (σ'.contexts i).post = (shop.spindle i).hear (σ.contexts i).post call := by
  obtain ⟨c, σ'', hend, rfl⟩ := exists_of_call (shop.leads_carryOut_atPost patience i call) back
  rw [Scene.put_contexts_self]
  exact hend.1

/-- It leaves all others where they are. -/
lemma post_of_call_of_ne {j : ι} {call : HostCall} {answer : Answer} {σ' : Scene ι World}
    (back : shop.call patience j call σ = (some answer, σ')) (hj : j ≠ i) :
    (σ'.contexts i).post = (σ.contexts i).post :=
  have hsustains := shop.sustains_post i (σ.contexts i).post
  (hsustains.meets_of_call ⟨rfl, trivial⟩ back
    (hsustains.permits_of_ne hj (fun _ _ => trivial) (fun _ _ _ => trivial) call)).1

/-! ## Runs -/

/-- One spindle is in its place, and so were all requests of it. -/
structure InPlace (shop : Workshop ι World) (i : ι) (σ : Scene ι World) : Prop where
  post : (σ.contexts i).post.IsOf (shop.spindle i)
  traffic : ∀ n ∈ σ.traffic, n.IsRightful i (shop.spindle i)

/-- In particular the requests of a call are in their place, whether it comes back or not. -/
lemma InPlace.traffic_of_call (h : shop.InPlace i σ) (patience : Nat) (j : ι) (call : HostCall) :
    ∀ n ∈ (shop.call patience j call σ).2.traffic, n.IsRightful i (shop.spindle i) := by
  rcases shop.works_of_call patience j call σ with ⟨made, hmade, hown⟩
  intro n hn
  rw [hmade] at hn
  rcases List.mem_append.1 hn with hn | hn
  · by_cases hj : j = i
    · subst hj
      exact (hown n hn).isRightful (Spindle.isOf_hear h.post call)
    · exact (hown n hn).isRightful_of_ne hj
  · rcases List.mem_cons.1 hn with rfl | hn
    · trivial
    · exact h.traffic n hn

/-- **A spindle stays in its place** through every call that comes back. -/
lemma InPlace.call (h : shop.InPlace i σ) {j : ι} {call : HostCall} {answer : Answer}
    (back : (shop.call patience j call σ).1 = some answer) :
    shop.InPlace i (shop.call patience j call σ).2 where
  post := by
    by_cases hj : j = i
    · subst hj
      rw [post_of_call (Prod.ext back rfl)]
      exact Spindle.isOf_hear h.post call
    · rw [post_of_call_of_ne (Prod.ext back rfl) hj]
      exact h.post
  traffic := h.traffic_of_call patience j call

lemma Reaches.inPlace {start σ : Scene ι World} (h : shop.Reaches start σ)
    (hstart : shop.InPlace i start) : shop.InPlace i σ := by
  induction h with
  | refl => exact hstart
  | outside world _ ih => exact ⟨ih.post, ih.traffic⟩
  | call patience j call answer _ back ih => exact ih.call back

omit [DecidableEq ι] in
lemma inPlace_of_build {plan : SpindlePlan} {before after : Registry} {start : Scene ι World}
    (built : plan.build before = .ok ((shop.spindle i, start.contexts i), after))
    (unused : start.notes = []) : shop.InPlace i start := by
  rcases SpindlePlan.build_eq_ok built with ⟨-, id, -, hmake⟩
  refine ⟨?_, by simp [Scene.traffic, unused]⟩
  rw [(Spindle.make_eq_ok hmake).2.2]
  rintro _ ⟨⟩

/-- **Every request is the work of a spindle that is selected**, and goes to the address for its
selection.  In any workshop, whatever the transports answer and whomever they call meanwhile, and
whatever the host does with this spindle and with others, each request that the spindle hands over
has one of the four shapes and goes to the drive that the host has selected. -/
theorem requests_of_run {plan : SpindlePlan} {before after : Registry} {start σ : Scene ι World}
    {request : Request} {mode : SendMode} {contexts : ι → SpindleContext}
    (built : plan.build before = .ok ((shop.spindle i, start.contexts i), after))
    (unused : start.notes = []) (reached : shop.Reaches start σ) (patience : Nat) (j : ι)
    (call : HostCall)
    (sent : .sending i request mode contexts ∈ (shop.call patience j call σ).2.notes) :
    ∃ selection, (contexts i).selection = some selection ∧ selection.id = (shop.spindle i).id ∧
      Config.isSlaveAddress (plan.settings.modbusAddress selection.binding) = true ∧
      request.IsProper plan.settings.model.registers
        (plan.settings.modbusAddress selection.binding) mode := by
  rcases SpindlePlan.build_eq_ok built with ⟨hvalid, id, -, hmake⟩
  have hconfig : (shop.spindle i).config = plan.settings := (Spindle.make_eq_ok hmake).1
  have htraffic : .sending i request mode contexts ∈ (shop.call patience j call σ).2.traffic :=
    List.mem_filter.2 ⟨sent, rfl⟩
  have hplace := reached.inPlace (inPlace_of_build built unused)
  rcases hplace.traffic_of_call patience j call _ htraffic rfl with
    ⟨selection, hselection, hid, hproper⟩
  rw [Spindle.registers, hconfig] at hproper
  exact ⟨selection, hselection, hid, Config.isSlaveAddress_modbusAddress hvalid _, hproper⟩

/-- On a dead line a spindle that is told to start hands over a command for the selected drive. -/
theorem requests_of_dead_run :
    SpindlePlan.build { config := some { retries := 2 } } {} =
        .ok ((dead.spindle (), deadStart.contexts ()), ⟨[⟨"Yalang VFD YL620A", .drive, .zero⟩]⟩) ∧
      deadStart.notes = [] ∧ dead.Reaches deadStart deadSelected ∧
      ∃ contexts, .sending () (.command 1 DriveModel.yl620.registers (.run .start .forward))
          .blocking contexts ∈ (dead.call 1 () (.setState .cw (.ofNat 600)) deadSelected).2.notes ∧
        ∃ selection, (contexts ()).selection = some selection ∧ selection.id = ⟨0⟩ ∧
          Config.isSlaveAddress (Config.modbusAddress { retries := 2 } selection.binding) = true ∧
          (Request.command 1 DriveModel.yl620.registers (.run .start .forward)).IsProper
            DriveModel.yl620.registers (Config.modbusAddress { retries := 2 } selection.binding)
            .blocking := by
  have built : SpindlePlan.build { config := some { retries := 2 } } {} =
      .ok ((dead.spindle (), deadStart.contexts ()),
        ⟨[⟨"Yalang VFD YL620A", .drive, .zero⟩]⟩) := rfl
  have run : dead.Reaches deadStart deadSelected := .call 1 () _ .done .refl rfl
  have sent : ∃ contexts,
      .sending () (.command 1 DriveModel.yl620.registers (.run .start .forward)) .blocking
          contexts ∈
        (dead.call 1 () (.setState .cw (.ofNat 600)) deadSelected).2.notes :=
    ⟨_, .tail _ (.tail _ (.head _))⟩
  rcases sent with ⟨contexts, sent⟩
  exact ⟨built, rfl, run, contexts, sent,
    requests_of_run built rfl run 1 () (.setState .cw (.ofNat 600)) sent⟩

end Workshop

end SpindleDrive
