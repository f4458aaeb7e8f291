import Mathlib.Data.List.Chain
import SpindleDrive.Proofs.Workshop.Moments

/-!
# How often a speed is read

Whoever asks a spindle for its state may do so as often as he likes; on the bus a reading appears
only when the poll interval is over.  The clock may stand still or go back, the spindle may lose its
place and find it again, and a reading may be dropped: what counts is the clock at the last reading
that was sent.

* `Note.isPoll` — a reading of the speed is handed over.
* `Scene.Polled` — how many readings there were, and what the spindle remembers of the last one.
* `Workshop.DueAt` — a question for the state that a reading is due for.
* **`Workshop.polled_call`** — a call adds one reading if it is such a question, and else none.
* `Workshop.Clocked` — runs with the clock at each of their readings.
* **`Workshop.polls_of_run`** — what a run sends, and how far apart.
-/

namespace SpindleDrive

open Operation Surroundings

/-- A reading is due unless one was sent within the interval. -/
lemma SpindleContext.pollDue_iff {c : SpindleContext} {now interval : UInt64} :
    c.pollDue now interval = true ↔
      ∀ last ∈ c.lastPoll, interval.toNat ≤ now.toNat - last.toNat := by
  rw [pollDue]
  cases c.lastPoll with
  | none => simp
  | some last => simp

/-- Readings that are so far apart are not many. -/
lemma length_le_of_spaced {interval : Nat} (hinterval : 0 < interval) {clocks : List UInt64}
    (spaced : clocks.IsChain fun newer older => older.toNat + interval ≤ newer.toNat) :
    ∀ newest ∈ clocks.head?, ∀ oldest ∈ clocks.getLast?,
      clocks.length ≤ (newest.toNat - oldest.toNat) / interval + 1 := by
  have hfit : ∀ newest ∈ clocks.head?, ∀ oldest ∈ clocks.getLast?,
      (clocks.length - 1) * interval + oldest.toNat ≤ newest.toNat := by
    induction clocks with
    | nil => simp
    | cons clock older ih =>
        rcases older with _ | ⟨next, older⟩
        · simp
        · obtain ⟨hstep, htail⟩ := List.isChain_cons_cons.1 spaced
          rintro newest ⟨⟩ oldest holdest
          have hrest := ih htail next rfl oldest (by simpa using holdest)
          simp only [List.length_cons, Nat.add_sub_cancel, Nat.add_mul, Nat.one_mul] at hrest ⊢
          omega
  intro newest hnewest oldest holdest
  have hcount : clocks.length - 1 ≤ (newest.toNat - oldest.toNat) / interval := by
    rw [Nat.le_div_iff_mul_le hinterval]
    have := hfit newest hnewest oldest holdest
    omega
  omega

variable {ι World : Type} [DecidableEq ι]

/-- Whether a note is of a reading of the speed that one spindle hands over. -/
def Note.isPoll (i : ι) : Note ι → Bool
  | .sending j request _ _ => decide (j = i) && decide (request.kind = .getSpeed)
  | _ => false

/-- The readings of the speed that have been handed over, by the notes. -/
def Note.polls (i : ι) (notes : List (Note ι)) : Nat := notes.countP (isPoll i)

namespace Scene

/-- There have been so many readings, and this is what the spindle remembers of the last. -/
structure Polled (i : ι) (count : Nat) (last : Option UInt64) (σ : Scene ι World) : Prop where
  polls : Note.polls i σ.notes = count
  last : (σ.contexts i).lastPoll = last

namespace Polled

variable {i j : ι} {count : Nat} {last : Option UInt64} {σ : Scene ι World}
  {c c' : SpindleContext}

lemma world (h : σ.Polled i count last) (world : World) :
    Scene.Polled i count last { σ with world } :=
  ⟨h.polls, h.last⟩

lemma note (h : σ.Polled i count last) {n : Note ι} (hn : n.isPoll i = false) :
    (σ.note n).Polled i count last := by
  refine ⟨?_, h.last⟩
  rw [note_notes, Note.polls, List.countP_cons_of_neg (by simp [hn])]
  exact h.polls

/-- A step that leaves the memory alone, if it is the spindle that is looked at. -/
lemma put (h : (σ.put j c).Polled i count last) (hc : j = i → c'.lastPoll = c.lastPoll) :
    (σ.put j c').Polled i count last := by
  refine ⟨h.polls, ?_⟩
  have hlast := h.last
  by_cases hj : i = j
  · subst hj
    rw [put_contexts_self] at hlast ⊢
    exact (hc rfl).trans hlast
  · rwa [put_contexts_of_ne _ hj] at hlast ⊢

/-- A reading that the spindle hands over, with the clock in its memory. -/
lemma poll (h : (σ.put i c).Polled i count last) (now : UInt64) {request : Request}
    (hkind : request.kind = .getSpeed) (mode : SendMode) (contexts : ι → SpindleContext) :
    ((σ.put i { c with lastPoll := some now }).note (.sending i request mode contexts)).Polled i
      (count + 1) (some now) := by
  refine ⟨?_, ?_⟩
  · rw [note_notes, put_notes, Note.polls,
      List.countP_cons_of_pos (by simp [Note.isPoll, hkind])]
    exact congrArg (· + 1) h.polls
  · rw [note_contexts, put_contexts_self]

end Polled

end Scene

namespace Workshop

variable {shop : Workshop ι World} {patience : Nat} {i j : ι} {σ : Scene ι World} {count : Nat}
  {last : Option UInt64}

/-! ## One call -/

section

variable (send : Request → SendMode → SpindleContext → Scene ι World →
    Option Exchange × SpindleContext × Scene ι World)
  (bears : ∀ request, (j = i → request.kind ≠ .getSpeed) →
    ({ shop.quiet j with send } : Surroundings (Scene ι World)).Bears
      (Scene.At (Scene.Polled i count last) j) (Scene.At (Scene.Polled i count last) j) request)

include bears

/-- Nothing but a question for the state sends a reading. -/
lemma retains_polled :
    ({ shop.quiet j with send } : Surroundings (Scene ι World)).Retains (shop.spindle j)
      (Scene.At (Scene.Polled i count last) j) (Scene.At (Scene.Polled i count last) j) where
  ended _ _ h := h
  book _ _ _ hc h := Scene.Polled.put h fun _ => hc.lastPoll
  program _ _ _ _ h := Scene.Polled.put h fun _ => rfl
  read reply rest c σ h := by
    have hworld := Scene.Polled.world h
      ((shop.outside j).journal reply ((shop.outside j).isColdStart σ.world) c σ.world)
    exact Scene.Polled.put (hworld.note (n := .read j reply _ c) rfl) fun _ => rfl
  raiseAlarm c σ h :=
    (Scene.Polled.world h ((shop.outside j).raiseAlarm σ.world)).note (n := .alarm j) rfl
  send request _ hkind := bears request fun _ => hkind

/-- A call that no reading is due for sends none. -/
lemma leads_carryOut_rest (call : HostCall) {c : SpindleContext} {σ : Scene ι World}
    (rest : j = i → call = .getState → c.isSelected = true →
      c.pollDue ((shop.outside j).elapsed σ.world) (shop.spindle j).config.pollInterval = false)
    (h : (σ.put j c).Polled i count last) :
    Leads ((shop.spindle j).carryOut { shop.quiet j with send } patience call)
      (fun _ => Scene.At (Scene.Polled i count last) j) c σ := by
  have hpermits : Upholds.Permits { shop.quiet j with send } (shop.spindle j)
      (Scene.At (Scene.Polled i count last) j) (Scene.At (Scene.Polled i count last) j) call := by
    refine Upholds.permits_of_heardAlike ?_ ?_ ?_ ?_ call
    · exact fun c c' σ hc h => Scene.Polled.put h fun _ => hc.lastPoll
    · exact fun c σ h => Scene.Polled.world h _
    · exact fun tolerance c σ h => Scene.Polled.world h _
    · exact fun address word => bears _ fun _ => by simp [Request.command]
  rw [Spindle.carryOut_eq_with]
  refine leads_settled.1 (((retains_polled send bears).carries patience).leads_carryOutWith call
    hpermits (fun hcall hsel hdue => ?_) h)
  -- a reading is due, so the question is put to another spindle
  have hj : j ≠ i := fun hj => absurd ((rest hj hcall hsel).symm.trans hdue) (by simp)
  exact leads_sendOnce_settled (bears _ (fun h => absurd h hj) .nonBlocking)
    (Scene.Polled.put h fun h => absurd h hj)

end

/-- Inside an exchange no spindle is asked for its state. -/
lemma lasts_polled : shop.Lasts (shop.driver patience) (Scene.Polled i count last) where
  inner j inner call σ hcall h := by
    refine leads_carryOut_rest (shop.quiet j).send (fun _ _ _ _ _ h => h) call ?_ ?_
    · rintro - rfl
      cases inner <;> cases hcall
    · rwa [Scene.put_contexts]
  finish j request mode σ h := by
    rw [finish]
    split
    · exact (h.world _).note (n := .exchanged j request mode _) rfl
    · exact h.world _

lemma bears_surroundings (request : Request) (hkind : j = i → request.kind ≠ .getSpeed) :
    (shop.surroundingsWith (shop.driver patience) j).Bears
      (Scene.At (Scene.Polled i count last) j) (Scene.At (Scene.Polled i count last) j)
      request := by
  intro mode c σ h
  refine leads_settled.2 (lasts_polled.leads_exchange (Scene.Polled.note h ?_))
  simpa [Note.isPoll] using hkind

lemma handles_polled (shop : Workshop ι World) (patience : Nat) (i j : ι) (count : Nat)
    (last : Option UInt64) :
    (shop.surroundingsWith (shop.driver patience) j).Handles
      ((shop.spindle j).deliver (shop.surroundingsWith (shop.driver patience) j) patience)
      (Scene.At (Scene.Polled i count last) j) (Scene.At (Scene.Polled i count last) j) :=
  ((retains_polled _ fun request hkind => bears_surroundings request hkind).carries
    patience).toHandles

/-- Whether a call is a question to a spindle for its state that a reading is due for. -/
def DueAt (shop : Workshop ι World) (i j : ι) (call : HostCall) (σ : Scene ι World) : Prop :=
  j = i ∧ call = .getState ∧ (σ.contexts i).isSelected = true ∧
    (σ.contexts i).pollDue ((shop.outside i).elapsed σ.world)
      (shop.spindle i).config.pollInterval = true

/-- **A question that a reading is due for sends one.** -/
lemma polled_call_of_dueAt (h : σ.Polled i count last) {call : HostCall}
    (due : shop.DueAt i j call σ) :
    (shop.call patience j call σ).2.Polled i (count + 1)
      (some ((shop.outside i).elapsed σ.world)) := by
  obtain ⟨rfl, rfl, hsel, hdue⟩ := due
  have hcalled : ((σ.note (.called j .getState)).put j (σ.contexts j)).Polled j count last := by
    rw [show σ.contexts j = (σ.note (.called j .getState)).contexts j from rfl, Scene.put_contexts]
    exact h.note rfl
  have hleads : Leads ((shop.spindle j).carryOut (shop.surroundingsWith (shop.driver patience) j)
      patience .getState)
      (fun _ => Scene.At
        (Scene.Polled j (count + 1) (some ((shop.outside j).elapsed σ.world))) j)
      (σ.contexts j) (σ.note (.called j .getState)) := by
    refine leads_settled.1 (leads_map_settled _ ((shop.handles_polled patience j j
      (count + 1) _).leads_getStateWith (fun hrest => ?_) fun _ _ => leads_sendOnce ?_))
    · exact absurd (hrest.symm.trans (Bool.and_eq_true_iff.2 ⟨hsel, hdue⟩)) (by simp)
    · refine (lasts_polled.leads_exchange (hcalled.poll _ rfl .nonBlocking _)).mono ?_
      intro r c σ' hend
      rcases r with _ | _ | _ <;> exact hend
  rw [call_eq_with]
  exact hleads

/-- Any other call sends none. -/
lemma polled_call_of_not_dueAt (h : σ.Polled i count last) {call : HostCall}
    (rest : ¬ shop.DueAt i j call σ) :
    (shop.call patience j call σ).2.Polled i count last := by
  rw [call_eq_with]
  refine leads_carryOut_rest (shop.surroundingsWith (shop.driver patience) j).send
    (fun request hkind => bears_surroundings request hkind) call ?_ ?_
  · rintro rfl rfl hsel
    exact Bool.eq_false_iff.2 fun hdue => rest ⟨rfl, rfl, hsel, hdue⟩
  · rw [Scene.put_contexts]
    exact h.note rfl

lemma polls_sub_of_dueAt {call : HostCall} (due : shop.DueAt i j call σ) :
    Note.polls i (shop.call patience j call σ).2.notes - Note.polls i σ.notes = 1 := by
  rw [(polled_call_of_dueAt ⟨rfl, rfl⟩ due).polls, Nat.add_sub_cancel_left]

lemma polls_sub_of_not_dueAt {call : HostCall} (rest : ¬ shop.DueAt i j call σ) :
    Note.polls i (shop.call patience j call σ).2.notes - Note.polls i σ.notes = 0 := by
  rw [(polled_call_of_not_dueAt ⟨rfl, rfl⟩ rest).polls, Nat.sub_self]

/-! ## Runs -/

/-- **Runs with the clock at each of their readings**, the latest first.  The clock of a reading is
that at the beginning of the call that sends it.  A call has a part in the run whether or not it
comes back. -/
inductive Clocked (shop : Workshop ι World) (i : ι) (start : Scene ι World) :
    List UInt64 → Scene ι World → Prop where
  | refl : Clocked shop i start [] start
  | outside {clocks : List UInt64} {σ : Scene ι World} (world : World)
      (h : Clocked shop i start clocks σ) : Clocked shop i start clocks { σ with world }
  | call {clocks : List UInt64} {σ : Scene ι World} (patience : Nat) (j : ι) (call : HostCall)
      (h : Clocked shop i start clocks σ) :
      Clocked shop i start
        (List.replicate
            (Note.polls i (shop.call patience j call σ).2.notes - Note.polls i σ.notes)
            ((shop.outside i).elapsed σ.world) ++ clocks)
        (shop.call patience j call σ).2

namespace Clocked

variable {start : Scene ι World} {clocks : List UInt64} {call : HostCall}

lemma poll (run : shop.Clocked i start clocks σ) (patience : Nat) (due : shop.DueAt i j call σ) :
    shop.Clocked i start ((shop.outside i).elapsed σ.world :: clocks)
      (shop.call patience j call σ).2 := by
  have hnext := run.call patience j call
  rwa [polls_sub_of_dueAt due] at hnext

lemma rest (run : shop.Clocked i start clocks σ) (patience : Nat)
    (rest : ¬ shop.DueAt i j call σ) :
    shop.Clocked i start clocks (shop.call patience j call σ).2 := by
  have hnext := run.call patience j call
  rwa [polls_sub_of_not_dueAt rest] at hnext

end Clocked

/-- Every run has its readings. -/
lemma Ends.exists_clocked {start : Scene ι World} (ends : shop.Ends start σ) (i : ι) :
    ∃ clocks, shop.Clocked i start clocks σ := by
  have hreached {σ : Scene ι World} (h : shop.Reaches start σ) :
      ∃ clocks, shop.Clocked i start clocks σ := by
    induction h with
    | refl => exact ⟨[], .refl⟩
    | outside world _ ih =>
        obtain ⟨clocks, hclocks⟩ := ih
        exact ⟨clocks, hclocks.outside world⟩
    | call patience j call answer _ _ ih =>
        obtain ⟨clocks, hclocks⟩ := ih
        exact ⟨_, hclocks.call patience j call⟩
  cases ends with
  | between h => exact hreached h
  | within h patience j call =>
      obtain ⟨clocks, hclocks⟩ := hreached h
      exact ⟨_, hclocks.call patience j call⟩

namespace Clocked

variable {start : Scene ι World} {clocks : List UInt64}

/-- The spindle remembers the clock at the latest reading, and no reading came too early. -/
lemma polled (new : shop.IsNew start) (run : shop.Clocked i start clocks σ) :
    σ.Polled i clocks.length clocks.head? ∧
      clocks.IsChain fun newer older =>
        (shop.spindle i).config.pollInterval.toNat ≤ newer.toNat - older.toNat := by
  induction run with
  | refl =>
      obtain ⟨hnotes, hmade⟩ := new
      obtain ⟨id, config, hmake⟩ := hmade i
      refine ⟨⟨?_, ?_⟩, .nil⟩
      · rw [hnotes]
        rfl
      · rw [(Spindle.make_eq_ok hmake).2.2]
        rfl
  | outside world _ ih => exact ⟨ih.1.world world, ih.2⟩
  | @call clocks σ patience j call _ ih =>
      obtain ⟨hpolled, hspaced⟩ := ih
      by_cases hdue : shop.DueAt i j call σ
      · rw [polls_sub_of_dueAt hdue]
        refine ⟨polled_call_of_dueAt hpolled hdue,
          List.isChain_cons.2 ⟨fun last hlast => ?_, hspaced⟩⟩
        have hlong := SpindleContext.pollDue_iff.1 hdue.2.2.2
        rw [hpolled.last] at hlong
        exact hlong last hlast
      · rw [polls_sub_of_not_dueAt hdue]
        exact ⟨polled_call_of_not_dueAt hpolled hdue, hspaced⟩

end Clocked

/-- **How often a spindle reads its speed.**  In any workshop, whatever the clock reads, whatever
the transports do and whatever else the host calls for, a reading is handed over by a question to
the selected spindle for its state, if there was none before or the poll interval is over since the
latest, and by no other call.  So if there is an interval the clock has advanced by at least as much
from each reading to the next, and there are no more of them than fit between the first and the
last. -/
theorem polls_of_run (shop : Workshop ι World) {start σ : Scene ι World} {i : ι}
    {clocks : List UInt64} (new : shop.IsNew start) (run : shop.Clocked i start clocks σ) :
    Note.polls i σ.notes = clocks.length ∧
      (∀ patience j call, Note.polls i (shop.call patience j call σ).2.notes =
        Note.polls i σ.notes +
          if j = i ∧ call = .getState ∧ (σ.contexts i).isSelected = true ∧
              clocks.head?.all fun last => (shop.spindle i).config.pollInterval.toNat ≤
                ((shop.outside i).elapsed σ.world).toNat - last.toNat then 1 else 0) ∧
      (0 < (shop.spindle i).config.pollInterval.toNat →
        (clocks.IsChain fun newer older =>
          older.toNat + (shop.spindle i).config.pollInterval.toNat ≤ newer.toNat) ∧
        ∀ newest ∈ clocks.head?, ∀ oldest ∈ clocks.getLast?,
          clocks.length ≤
            (newest.toNat - oldest.toNat) / (shop.spindle i).config.pollInterval.toNat + 1) := by
  obtain ⟨hpolled, hspaced⟩ := run.polled new
  refine ⟨hpolled.polls, fun patience j call => ?_, fun hinterval => ?_⟩
  · have hiff : shop.DueAt i j call σ ↔ j = i ∧ call = .getState ∧
        (σ.contexts i).isSelected = true ∧
          clocks.head?.all fun last => (shop.spindle i).config.pollInterval.toNat ≤
            ((shop.outside i).elapsed σ.world).toNat - last.toNat := by
      rw [DueAt, SpindleContext.pollDue_iff, hpolled.last]
      simp only [Option.all_eq_true, decide_eq_true_eq, Option.mem_def]
    split
    · rename_i hdue
      rw [(polled_call_of_dueAt hpolled (hiff.2 hdue)).polls, hpolled.polls]
    · rename_i hrest
      rw [(polled_call_of_not_dueAt hpolled (mt hiff.1 hrest)).polls, hpolled.polls, Nat.add_zero]
  · have hchain : clocks.IsChain fun newer older =>
        older.toNat + (shop.spindle i).config.pollInterval.toNat ≤ newer.toNat :=
      hspaced.imp fun newer older hlong => by omega
    exact ⟨hchain, length_le_of_spaced hinterval hchain⟩

/-! ## A dead line with a clock -/

/-- One spindle on a bus that never comes up, the world being the clock. -/
def ticking : Workshop Unit UInt64 where
  spindle _ := Spindle.sample.1
  outside _ :=
    { isUp _ := false
      silence w := w
      send _ _ c w := (some (.error .notUp), c, w)
      elapsed w := w
      isColdStart _ := false
      journal _ _ _ w := w
      raiseAlarm w := w
      tolerance _ := .zero
      setTolerance _ w := w }
  calls _ _ _ _ := []

def tickingStart : Scene Unit UInt64 where
  contexts _ := Spindle.sample.2
  world := 30

def tickingSelected : Scene Unit UInt64 := (ticking.call 1 () (.bind ⟨⟨0⟩, 0⟩) tickingStart).2

/-- The scene once the selected spindle has been asked for its state. -/
def tickingAsked : Scene Unit UInt64 := (ticking.call 1 () .getState tickingSelected).2

/-- The scene once it has been asked again, at 100 and at 130. -/
def tickingAskedAgain : Scene Unit UInt64 :=
  let early := (ticking.call 1 () .getState { tickingAsked with world := 100 }).2
  (ticking.call 1 () .getState { early with world := 130 }).2

/-- At an interval of 100 the second question comes too early for a reading, the clock at the first
being 30. -/
theorem polls_of_ticking_run :
    ticking.IsNew tickingStart ∧ ticking.Clocked () tickingStart [130, 30] tickingAskedAgain ∧
      (ticking.spindle ()).config.pollInterval.toNat = 100 ∧
      Note.polls () tickingAskedAgain.notes = 2 ∧
      ∀ newest ∈ [(130 : UInt64), 30].head?, ∀ oldest ∈ [(130 : UInt64), 30].getLast?,
        2 ≤ (newest.toNat - oldest.toNat) / 100 + 1 := by
  have new : ticking.IsNew tickingStart := ⟨rfl, fun _ => ⟨⟨0⟩, { retries := 2 }, rfl⟩⟩
  have selected : ticking.Clocked () tickingStart [] tickingSelected :=
    Clocked.refl.rest 1 fun due => by cases due.2.1
  have first : ticking.Clocked () tickingStart [30] tickingAsked :=
    selected.poll 1 ⟨rfl, rfl, rfl, rfl⟩
  have early : ticking.Clocked () tickingStart [30]
      (ticking.call 1 () .getState { tickingAsked with world := 100 }).2 :=
    (first.outside 100).rest 1 fun due => by cases due.2.2.2
  have run : ticking.Clocked () tickingStart [130, 30] tickingAskedAgain :=
    (early.outside 130).poll 1 ⟨rfl, rfl, rfl, rfl⟩
  have hpolls := polls_of_run ticking new run
  exact ⟨new, run, rfl, hpolls.1, (hpolls.2.2 (by decide)).2⟩

end Workshop

end SpindleDrive
