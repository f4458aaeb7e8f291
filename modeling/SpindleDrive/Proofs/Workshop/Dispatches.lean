import SpindleDrive.Proofs.Operation.Dispatching
import SpindleDrive.Proofs.Workshop.Progress
import SpindleDrive.Proofs.Workshop.Reissues
import SpindleDrive.Proofs.Workshop.Showing

/-!
# The order of replies

Replies come to a spindle from the host, from its own exchanges, and from inside exchanges of any
spindle, and some of them while others are being read.  Here every spindle keeps a record of what
becomes of them, which nothing in the workshop sees.

* `Dispatch.Follows` — how a record goes on, with the replies that wait at its end.
* `Dispatch.Orderly` — what this says wherever a record is cut.
* `Workshop.recording`, `Workshop.recorded` — the workshop with the records, and a call in it.
* `Workshop.Records` — runs with what is recorded of them.
* **`Workshop.dispatches_of_run`** — every reply that is passed to a spindle is given to be read
  once, in its turn and by the one loop that is under way, before the passing of the first is over.
-/

namespace SpindleDrive

open Operation

/-! ## Records -/

namespace Dispatch

/-- The replies that were passed to the driver, in this order.  The record has the latest first. -/
def repliesPassed : List Dispatch → List Reply
  | [] => []
  | .passed reply :: older => repliesPassed older ++ [reply]
  | _ :: older => repliesPassed older

/-- The replies that were given to be read, in this order. -/
def repliesGiven : List Dispatch → List Reply
  | [] => []
  | .given reply :: older => repliesGiven older ++ [reply]
  | _ :: older => repliesGiven older

/-- How many loops have begun that are not over. -/
def loops : List Dispatch → Nat
  | [] => 0
  | .opened :: older => loops older + 1
  | .closed _ :: older => loops older - 1
  | _ :: older => loops older

/-- **A record of a spindle** that is reading its replies or is not, with those that wait. -/
inductive Follows : List Dispatch → Bool → List Reply → Prop where
  | nil : Follows [] false []
  | passed {events : List Dispatch} {reading : Bool} {waiting : List Reply} (reply : Reply)
      (h : Follows events reading waiting) :
      Follows (.passed reply :: events) reading (waiting ++ [reply])
  | opened {events : List Dispatch} {waiting : List Reply} (h : Follows events false waiting) :
      Follows (.opened :: events) true waiting
  | given {events : List Dispatch} {reply : Reply} {rest : List Reply}
      (h : Follows events true (reply :: rest)) : Follows (.given reply :: events) true rest
  | closed {events : List Dispatch} (left : SpindleContext) (h : Follows events true [])
      (reading : left.reading = false) (inbox : left.inbox = []) :
      Follows (.closed left :: events) false []

/-- **What holds of a record wherever it is cut.** -/
structure Orderly (events : List Dispatch) : Prop where
  /-- No loop begins while one is under way. -/
  opened : ∀ newer older, events = newer ++ .opened :: older → loops older = 0
  /-- The loop that is under way reads the first of the replies that have not been read. -/
  given : ∀ newer older reply, events = newer ++ .given reply :: older →
    loops older = 1 ∧ ∃ rest, repliesPassed older = repliesGiven older ++ reply :: rest
  /-- Once it is over there is none left, and the spindle is ready for another. -/
  closed : ∀ newer older left, events = newer ++ .closed left :: older →
    loops older = 1 ∧ repliesGiven older = repliesPassed older ∧
      left.reading = false ∧ left.inbox = []

namespace Follows

variable {events : List Dispatch} {reading : Bool} {waiting : List Reply}

/-- Whatever has been passed and not been given waits. -/
lemma repliesPassed_eq (h : Follows events reading waiting) :
    repliesPassed events = repliesGiven events ++ waiting := by
  induction h with
  | nil => rfl
  | passed reply _ ih => simp [repliesPassed, repliesGiven, ih]
  | opened _ ih => exact ih
  | given _ ih => simp [repliesPassed, repliesGiven, ih]
  | closed _ _ _ _ ih => exact ih

/-- There is a loop while replies are being read, and only one. -/
lemma loops_eq (h : Follows events reading waiting) : loops events = if reading then 1 else 0 := by
  induction h with
  | nil => rfl
  | passed reply _ ih => exact ih
  | opened _ ih => simp [loops, ih]
  | given _ ih => exact ih
  | closed _ _ _ _ ih => simp [loops, ih]

/-- A record was one at any time before. -/
lemma of_append {newer older : List Dispatch} (h : Follows (newer ++ older) reading waiting) :
    ∃ reading waiting, Follows older reading waiting := by
  induction newer generalizing reading waiting with
  | nil => exact ⟨_, _, h⟩
  | cons event newer ih => cases h <;> exact ih ‹_›

theorem orderly (h : Follows events reading waiting) : Orderly events where
  opened newer older hevents := by
    rw [hevents] at h
    obtain ⟨_, _, _ | _ | ⟨hopened⟩⟩ := h.of_append
    simpa using hopened.loops_eq
  given newer older reply hevents := by
    rw [hevents] at h
    obtain ⟨_, rest, hgiven⟩ := h.of_append
    cases hgiven with
    | given hgiven => exact ⟨by simpa using hgiven.loops_eq, rest, hgiven.repliesPassed_eq⟩
  closed newer older left hevents := by
    rw [hevents] at h
    obtain ⟨_, _, hclosed⟩ := h.of_append
    cases hclosed with
    | closed _ hclosed hreading hinbox =>
        refine ⟨by simpa using hclosed.loops_eq, ?_, hreading, hinbox⟩
        simpa using hclosed.repliesPassed_eq.symm

end Follows

end Dispatch

/-! ## A workshop with records -/

variable {ι World : Type}

/-- A scene with a record of each spindle. -/
def Scene.filing (σ : Scene ι World) (records : ι → List Dispatch) :
    Scene ι (World × (ι → List Dispatch)) where
  contexts := σ.contexts
  world := (σ.world, records)
  notes := σ.notes

/-- A scene is what there is to see of it together with its records. -/
lemma Scene.filing_view (σ : Scene ι (World × (ι → List Dispatch))) :
    (σ.view Prod.fst).filing σ.world.2 = σ := rfl

/-- One more event in the record of a spindle. -/
def Scene.record [DecidableEq ι] (i : ι) (event : Dispatch)
    (σ : Scene ι (World × (ι → List Dispatch))) : Scene ι (World × (ι → List Dispatch)) where
  contexts := σ.contexts
  world := (σ.world.1, Function.update σ.world.2 i (event :: σ.world.2 i))
  notes := σ.notes

namespace Workshop

/-- **A workshop with records** of what becomes of replies. -/
def recording (shop : Workshop ι World) : Workshop ι (World × (ι → List Dispatch)) where
  spindle := shop.spindle
  outside i :=
    { isUp w := (shop.outside i).isUp w.1
      silence w := ((shop.outside i).silence w.1, w.2)
      send request mode c w :=
        match (shop.outside i).send request mode c w.1 with
        | (result?, c, world) => (result?, c, world, w.2)
      elapsed w := (shop.outside i).elapsed w.1
      isColdStart w := (shop.outside i).isColdStart w.1
      journal reply coldStart c w := ((shop.outside i).journal reply coldStart c w.1, w.2)
      raiseAlarm w := ((shop.outside i).raiseAlarm w.1, w.2)
      tolerance w := (shop.outside i).tolerance w.1
      setTolerance tolerance w := ((shop.outside i).setTolerance tolerance w.1, w.2) }
  calls i request mode σ := shop.calls i request mode (σ.view Prod.fst)

/-- The records are not to be seen. -/
lemma recording_outside (shop : Workshop ι World) (i : ι) :
    (shop.recording.outside i).Mirrors Prod.fst (shop.outside i) where
  silence _ := rfl
  send _ _ _ _ := rfl
  elapsed _ := rfl
  isColdStart _ := rfl
  journal _ _ _ _ := rfl
  raiseAlarm _ := rfl
  tolerance _ := rfl
  setTolerance _ _ := rfl

/-- An exchange that never ends leaves nothing to be said of replies that are being read. -/
lemma quiet_keepsReading (shop : Workshop ι World) (i : ι) : (shop.quiet i).KeepsReading :=
  fun _ _ _ _ _ => trivial

variable [DecidableEq ι]

/-- The spindles pass on the replies that they receive, and keep their records. -/
def recorder (shop : Workshop ι World) (patience : Nat) :
    Carrier ι (World × (ι → List Dispatch)) :=
  fun i env call => (shop.spindle i).carryOutWith env
    (Spindle.receive (Scene.record i) ((shop.spindle i).dispatch (Scene.record i) env patience))
    call

/-- A call by the host with what is recorded meanwhile. -/
def recorded (shop : Workshop ι World) (patience : Nat) (i : ι) (call : HostCall)
    (σ : Scene ι (World × (ι → List Dispatch))) :
    Option Answer × Scene ι (World × (ι → List Dispatch)) :=
  shop.recording.callWith (shop.recorder patience) i call σ

variable {shop : Workshop ι World} {patience : Nat} {i j : ι}

/-! ## What there is to see -/

/-- Whoever carries out calls for the host passes on the replies as the driver delivers them. -/
lemma mirrors_recorder {env' : Surroundings (Scene ι (World × (ι → List Dispatch)))}
    {env : Surroundings (Scene ι World)} (h : env'.Mirrors (Scene.view Prod.fst) env)
    (hkeeps : env'.KeepsReading) (call : HostCall) :
    Mirrors (Scene.view Prod.fst) (shop.recorder patience i env' call)
      (shop.driver patience i env call) := by
  have hrecord (event : Dispatch) (σ : Scene ι (World × (ι → List Dispatch))) :
      (Scene.record i event σ).view Prod.fst = σ.view Prod.fst := rfl
  rw [driver, Spindle.carryOut_eq_with]
  exact Mirrors.carryOutWith h (mirrors_receive h hrecord hkeeps patience) call

lemma recording_shows (shop : Workshop ι World) (patience : Nat) :
    Shows Prod.fst shop.recording (shop.recorder patience) shop (shop.driver patience) where
  outside := recording_outside shop
  calls _ _ _ _ := rfl
  inner i _ call _ := mirrors_recorder (Shows.quiet (recording_outside shop) i)
    (quiet_keepsReading shop.recording i) call

/-- Whoever is called during an exchange, replies that are being read go on being read. -/
lemma recording_keepsReading (shop : Workshop ι World) (patience : Nat) (i : ι) :
    (shop.recording.surroundingsWith (shop.recorder patience) i).KeepsReading := by
  intro request mode c σ hreading
  have hreal : Leads (Operation.exchange (shop.surroundings patience i) request mode)
      (fun r c' _ => r.isSome = true → c'.reading = true) c (σ.view Prod.fst) :=
    Workshop.leads_exchange (fun _ _ _ => by simp)
      fun _ _ _ hstands _ _ _ => hstands.reading.trans hreading
  rw [surroundings_eq_with] at hreal
  have hshown := (Mirrors.exchange ((recording_shows shop patience).surroundings i) request
    mode).leads hreal
  refine hshown.mono ?_
  rintro (_ | _) c' σ' hkept
  · trivial
  · exact hkept rfl

/-- **No call sees the records.** -/
theorem recorded_seen (shop : Workshop ι World) (patience : Nat) (i : ι) (call : HostCall)
    (σ : Scene ι (World × (ι → List Dispatch))) :
    shop.call patience i call (σ.view Prod.fst) =
      ((shop.recorded patience i call σ).1,
        (shop.recorded patience i call σ).2.view Prod.fst) := by
  rw [call_eq_with]
  exact Shows.call (mirrors_recorder ((recording_shows shop patience).surroundings i)
    (recording_keepsReading shop patience i) call) σ

end Workshop

/-! ## What the records say -/

/-- The replies that a spindle has read by the notes, in this order. -/
def Note.repliesRead [DecidableEq ι] (i : ι) : List (Note ι) → List Reply
  | [] => []
  | .read j reply _ _ :: older =>
    if j = i then repliesRead i older ++ [reply] else repliesRead i older
  | _ :: older => repliesRead i older

namespace Scene

variable [DecidableEq ι] {σ σ' : Scene ι (World × (ι → List Dispatch))} {i : ι}
  {c c' : SpindleContext}

/-- **The record of a spindle is in keeping with it**: with its queue, and with the replies that it
has read by the notes. -/
structure Files (σ : Scene ι (World × (ι → List Dispatch))) (i : ι) : Prop where
  follows : Dispatch.Follows (σ.world.2 i) (σ.contexts i).reading (σ.contexts i).inbox
  given : Dispatch.repliesGiven (σ.world.2 i) = Note.repliesRead i σ.notes

/-- So is every record. -/
def Filed (σ : Scene ι (World × (ι → List Dispatch))) : Prop := ∀ i, σ.Files i

namespace Filed

open Dispatch

lemma of_eq (h : σ.Filed) (hcontexts : σ'.contexts = σ.contexts)
    (hrecords : σ'.world.2 = σ.world.2)
    (hnotes : ∀ i, Note.repliesRead i σ'.notes = Note.repliesRead i σ.notes) : σ'.Filed := by
  intro i
  refine ⟨?_, ?_⟩
  · rw [hcontexts, hrecords]
    exact (h i).follows
  · rw [hrecords, hnotes]
    exact (h i).given

/-- What there is to see of the world is free. -/
lemma world (h : σ.Filed) (world : World) :
    Scene.Filed { σ with world := (world, σ.world.2) } :=
  h.of_eq rfl rfl fun _ => rfl

/-- A step of one spindle that leaves its queue as it is. -/
lemma put (h : (σ.put i c).Filed) (hreading : c'.reading = c.reading)
    (hinbox : c'.inbox = c.inbox) : (σ.put i c').Filed := by
  intro j
  refine ⟨?_, (h j).given⟩
  have hj := (h j).follows
  by_cases hji : j = i
  · subst hji
    rw [put_contexts_self] at hj ⊢
    rw [hreading, hinbox]
    exact hj
  · rw [put_contexts_of_ne _ hji] at hj ⊢
    exact hj

/-- A step that is recorded and reads nothing. -/
lemma record (h : (σ.put i c).Filed) {event : Dispatch}
    (hstep : Follows (σ.world.2 i) c.reading c.inbox →
      Follows (event :: σ.world.2 i) c'.reading c'.inbox)
    (hevent : repliesGiven (event :: σ.world.2 i) = repliesGiven (σ.world.2 i)) :
    ((σ.record i event).put i c').Filed := by
  intro j
  obtain ⟨hfollows, hgiven⟩ := h j
  by_cases hji : j = i
  · subst hji
    rw [put_contexts_self] at hfollows
    refine ⟨?_, ?_⟩
    · rw [put_contexts_self]
      simpa only [Scene.record, put_world, Function.update_self] using hstep hfollows
    · simpa only [Scene.record, put_world, put_notes, Function.update_self, hevent] using hgiven
  · rw [put_contexts_of_ne _ hji] at hfollows
    refine ⟨?_, ?_⟩
    · rw [put_contexts_of_ne _ hji]
      simpa only [Scene.record, put_world, Function.update_of_ne hji] using hfollows
    · simpa only [Scene.record, put_world, put_notes, Function.update_of_ne hji] using hgiven

/-- A reply is given to be read. -/
lemma read (h : (σ.put i c).Filed) {reply : Reply} {rest : List Reply} {coldStart : Bool}
    (hreading : c.reading = true) (hinbox : c.inbox = reply :: rest)
    (hreading' : c'.reading = true) (hinbox' : c'.inbox = rest) (world : World) :
    (Scene.put (Scene.note
      { σ.record i (.given reply) with world := (world, (σ.record i (.given reply)).world.2) }
      (.read i reply coldStart c)) i c').Filed := by
  intro j
  obtain ⟨hfollows, hgiven⟩ := h j
  by_cases hji : j = i
  · subst hji
    rw [put_contexts_self, hreading, hinbox] at hfollows
    refine ⟨?_, ?_⟩
    · rw [put_contexts_self, hreading', hinbox']
      simpa only [Scene.record, put_world, note_world, Function.update_self] using
        Follows.given hfollows
    · simpa [Scene.record, repliesGiven, Note.repliesRead] using hgiven
  · rw [put_contexts_of_ne _ hji] at hfollows
    refine ⟨?_, ?_⟩
    · rw [put_contexts_of_ne _ hji]
      simpa only [Scene.record, put_world, note_world, note_contexts,
        Function.update_of_ne hji] using hfollows
    · simpa [Scene.record, Note.repliesRead, Function.update_of_ne hji, Ne.symm hji] using hgiven

end Filed

end Scene

namespace Workshop

open Surroundings

variable [DecidableEq ι] {shop : Workshop ι World} {patience : Nat} {i : ι}

section

variable (send : Request → SendMode → SpindleContext → Scene ι (World × (ι → List Dispatch)) →
    Option Exchange × SpindleContext × Scene ι (World × (ι → List Dispatch)))
  (bears : ∀ request,
    ({ shop.recording.quiet i with send } : Surroundings (Scene ι (World × _))).Bears
      (Scene.At Scene.Filed i) (Scene.At Scene.Filed i) request)

include bears

/-- Whatever the transport, every step of a spindle is recorded as it should be. -/
lemma files_recording :
    ({ shop.recording.quiet i with send } : Surroundings (Scene ι (World × _))).Files
      (shop.spindle i) (Scene.record i) (Scene.At Scene.Filed i) where
  passed reply c σ h := Scene.Filed.record h (fun hfollows => .passed reply hfollows) rfl
  opened c σ hreading h := by
    refine Scene.Filed.record h (fun hfollows => ?_) rfl
    rw [hreading] at hfollows
    exact .opened hfollows
  given reply rest c σ hreading hinbox h := by
    refine Scene.Filed.read h hreading hinbox ?_ ?_
      ((shop.outside i).journal reply ((shop.outside i).isColdStart σ.world.1) c σ.world.1)
    · exact hreading
    · rfl
  closed c σ hreading hinbox h := by
    refine Scene.Filed.record h (fun hfollows => ?_) rfl
    rw [hreading, hinbox] at hfollows
    simpa only [hinbox] using
      Dispatch.Follows.closed { c with reading := false } hfollows rfl hinbox
  book c c' σ hc h := Scene.Filed.put h hc.reading hc.inbox
  program _ _ _ _ h := Scene.Filed.put h rfl rfl
  raiseAlarm c σ h := Scene.Filed.of_eq h rfl rfl fun _ => rfl
  send request _ := bears request

/-- So is every call. -/
lemma leads_recorder (hkeeps :
    ({ shop.recording.quiet i with send } : Surroundings (Scene ι (World × _))).KeepsReading)
    (call : HostCall) {c : SpindleContext} {σ : Scene ι (World × (ι → List Dispatch))}
    (h : (σ.put i c).Filed) :
    Leads (shop.recorder patience i { shop.recording.quiet i with send } call)
      (fun _ => Scene.At Scene.Filed i) c σ := by
  have hpermits : Upholds.Permits { shop.recording.quiet i with send } (shop.spindle i)
      (Scene.At Scene.Filed i) (Scene.At Scene.Filed i) call := by
    refine Upholds.permits_of_heardAlike ?_ ?_ ?_ (fun _ _ => bears _) call
    · exact fun c c' σ hc h => Scene.Filed.put h hc.reading hc.inbox
    · exact fun c σ h => Scene.Filed.world h _
    · exact fun tolerance c σ h => Scene.Filed.world h _
  have hcarries := (files_recording send bears).carries hkeeps patience
  refine leads_settled.1 (hcarries.leads_carryOutWith call hpermits (fun _ _ _ => ?_) h)
  exact leads_sendOnce_settled (bears _ .nonBlocking) (Scene.Filed.put h rfl rfl)

end

/-- Nothing that happens inside an exchange spoils a record. -/
lemma lasts_filed : shop.recording.Lasts (shop.recorder patience) Scene.Filed where
  inner i inner call σ _ h := by
    refine leads_recorder (shop.recording.quiet i).send (fun _ _ _ _ h => h)
      (quiet_keepsReading shop.recording i) call ?_
    rwa [Scene.put_contexts]
  finish i request mode σ h := by
    rw [finish]
    split
    · rename_i hsend
      exact h.of_eq rfl (congrArg (fun sent => sent.2.2.2) hsend).symm fun _ => rfl
    · rename_i hsend
      exact h.of_eq rfl (congrArg (fun sent => sent.2.2.2) hsend).symm fun _ => rfl

/-- **No call spoils a record**, whether it comes back or not. -/
lemma filed_recorded (call : HostCall) {σ : Scene ι (World × (ι → List Dispatch))} (h : σ.Filed) :
    (shop.recorded patience i call σ).2.Filed := by
  refine leads_recorder (shop.recording.surroundingsWith (shop.recorder patience) i).send
    (fun request mode c σ h => ?_) (recording_keepsReading shop patience i) call ?_
  · have hbegun : ((σ.put i c).note (.sending i request mode (σ.put i c).contexts)).Filed :=
      Scene.Filed.of_eq h rfl rfl fun _ => rfl
    exact leads_settled.2 (lasts_filed.leads_exchange hbegun)
  · rw [Scene.put_contexts]
    exact h.of_eq rfl rfl fun _ => rfl

/-! ## Runs -/

/-- **Runs with what is recorded of them.** -/
inductive Records (shop : Workshop ι World) (start : Scene ι World) :
    (ι → List Dispatch) → Scene ι World → Prop where
  | refl : Records shop start (fun _ => []) start
  | outside {records : ι → List Dispatch} {σ : Scene ι World} (world : World)
      (h : Records shop start records σ) : Records shop start records { σ with world }
  | call {records : ι → List Dispatch} {σ : Scene ι World} (patience : Nat) (i : ι)
      (call : HostCall) (answer : Answer) (h : Records shop start records σ)
      (back : (shop.call patience i call σ).1 = some answer) :
      Records shop start (shop.recorded patience i call (σ.filing records)).2.world.2
        (shop.call patience i call σ).2

variable {records : ι → List Dispatch} {start σ : Scene ι World}

lemma Records.reaches (run : shop.Records start records σ) : shop.Reaches start σ := by
  induction run with
  | refl => exact .refl
  | outside world _ ih => exact .outside world ih
  | call patience i call answer _ back ih => exact .call patience i call answer ih back

/-- Every run has a record. -/
lemma Reaches.exists_records (reached : shop.Reaches start σ) :
    ∃ records, shop.Records start records σ := by
  induction reached with
  | refl => exact ⟨_, .refl⟩
  | outside world _ ih =>
      obtain ⟨records, run⟩ := ih
      exact ⟨records, .outside world run⟩
  | call patience i call answer _ back ih =>
      obtain ⟨records, run⟩ := ih
      exact ⟨_, .call patience i call answer run back⟩

lemma Records.filed (new : shop.IsNew start) (run : shop.Records start records σ) :
    (σ.filing records).Filed := by
  induction run with
  | refl =>
      obtain ⟨hnotes, hmade⟩ := new
      intro i
      obtain ⟨id, config, hmake⟩ := hmade i
      obtain ⟨-, -, hc⟩ := Spindle.make_eq_ok hmake
      refine ⟨?_, ?_⟩
      · rw [show (start.filing fun _ => []).contexts i = start.contexts i from rfl, hc]
        exact .nil
      · rw [show (start.filing fun _ => []).notes = start.notes from rfl, hnotes]
        rfl
  | outside world _ ih => exact ih.world world
  | @call records σ patience i call answer _ _ ih =>
      have hseen := recorded_seen shop patience i call (σ.filing records)
      rw [show (σ.filing records).view Prod.fst = σ from rfl] at hseen
      rw [hseen, Scene.filing_view]
      exact filed_recorded call ih

/-- **Every reply is read once, and in its turn.**  In any workshop, whatever the transports answer
and whomever they call meanwhile, between calls a spindle has been given the replies that were
passed to it, in the same order; none waits, and it is not reading.  Throughout a further call,
whether that comes back or not, its record is orderly: no loop begins while another is under way, a
loop gives the first reply that has not been given yet, and when it is over, and so the passing of
the reply that it began with, all have been given.  The call is what it is without a record, and
what has been given is what the notes say was read. -/
theorem dispatches_of_run (shop : Workshop ι World) (new : shop.IsNew start)
    (run : shop.Records start records σ) (patience : Nat) (i : ι) (call : HostCall) (j : ι) :
    (Dispatch.repliesGiven (records j) = Dispatch.repliesPassed (records j) ∧
      (σ.contexts j).inbox = [] ∧ (σ.contexts j).reading = false) ∧
    shop.call patience i call σ =
      ((shop.recorded patience i call (σ.filing records)).1,
        (shop.recorded patience i call (σ.filing records)).2.view Prod.fst) ∧
    Dispatch.Orderly ((shop.recorded patience i call (σ.filing records)).2.world.2 j) ∧
    Dispatch.repliesGiven ((shop.recorded patience i call (σ.filing records)).2.world.2 j) =
      Note.repliesRead j (shop.call patience i call σ).2.notes := by
  have hfiled := run.filed new
  have hcall : (shop.recorded patience i call (σ.filing records)).2.Filed :=
    filed_recorded call hfiled
  have hseen := recorded_seen shop patience i call (σ.filing records)
  rw [show (σ.filing records).view Prod.fst = σ from rfl] at hseen
  have hrest := (run.reaches.calm new).rest j
  refine ⟨⟨?_, hrest.inbox, hrest.reading⟩, hseen, (hcall j).follows.orderly, ?_⟩
  · have hfollows := (hfiled j).follows
    rw [show (σ.filing records).contexts j = σ.contexts j from rfl, hrest.inbox] at hfollows
    have hpassed := hfollows.repliesPassed_eq
    rw [List.append_nil] at hpassed
    exact hpassed.symm
  · rw [hseen]
    exact (hcall j).given

/-- One spindle as it was made, on a bus whose drive refuses two exchanges. -/
def contraryMade : Scene Unit Nat where
  contexts _ := Spindle.sample.2
  world := 0

/-- The scene once the spindle is selected. -/
def contrarySelected : Scene Unit Nat :=
  ((contrary (· < 2)).call 1 () (.bind ⟨⟨0⟩, 0⟩) contraryMade).2

/-- Two refusals and an echo come in, the last two while replies are being read, and one loop reads
them all. -/
theorem dispatches_of_contrary_run :
    (contrary (· < 2)).IsNew contraryMade ∧
      ∃ records σ, (contrary (· < 2)).Records contraryMade records σ ∧
        (Dispatch.repliesPassed (records ())).map Reply.isException = [true, true, false] ∧
        (records ()).count .opened = 1 ∧
        Dispatch.repliesGiven (records ()) = Dispatch.repliesPassed (records ()) := by
  have new : (contrary (· < 2)).IsNew contraryMade :=
    ⟨rfl, fun _ => ⟨⟨0⟩, { retries := 2 }, rfl⟩⟩
  have selected : (contrary (· < 2)).Records contraryMade _ contrarySelected :=
    .call 1 () _ .done .refl (by decide +kernel)
  have run := Records.call 9 () (.setSpeed (.ofNat 600) false) (.outcome (.ok ())) selected
    (by decide +kernel)
  refine ⟨new, _, _, run, by decide +kernel, by decide +kernel, ?_⟩
  exact (dispatches_of_run _ new run 1 () .getData ()).1.1

end Workshop

end SpindleDrive
