import SpindleDrive.Proofs.Operation.Unheard
import SpindleDrive.Proofs.Workshop.Unselected
import SpindleDrive.Proofs.Workshop.Watched

/-!
# An operation without its replies

Whatever the transports of a workshop do, an operation of a spindle is accompanied by the same
operation of a spindle that hears nothing.  The exchanges of the one end as the other's do, replies
being left aside; and as long as no reply has a speed sent again, the two send the same.

* `Note.results`, `Note.requests` — how the exchanges of a spindle have ended, and what it has sent.
* `Note.isSteering` — the reading of a reply that may have a speed sent again.
* `SpindleContext.Rests` — a spindle at rest that has heard nothing, and one that has heard
  replies.
* `Workshop.OwnsTolerance` — nobody but the spindle itself changes its tolerance.
* `Workshop.Tracks` — an operation is accompanied by another.
* **`tracks_exchange`, `tracks_deliver`** — an exchange is accompanied by one without replies, and
  the delivery of a reply by nothing at all.
-/

namespace SpindleDrive

open Operation Surroundings

variable {ι World : Type}

/-! ## Notes -/

namespace Note

section

variable [DecidableEq ι]

/-- How an exchange of a spindle ends, if the end of one is noted; replies are left aside. -/
def result? (i : ι) : Note ι → Option (Except TransportError Unit)
  | exchanged j _ _ result => if j = i then some (result.map fun _ => ()) else none
  | _ => none

/-- What a spindle sends, and how, if a sending is noted. -/
def request? (i : ι) : Note ι → Option (Request × SendMode)
  | sending j request mode _ => if j = i then some (request, mode) else none
  | _ => none

/-- **How the exchanges of a spindle have ended**, the first of them first. -/
def results (i : ι) (notes : List (Note ι)) : List (Except TransportError Unit) :=
  (notes.filterMap (result? i)).reverse

/-- **What a spindle has sent**, and in which mode, the first first. -/
def requests (i : ι) (notes : List (Note ι)) : List (Request × SendMode) :=
  (notes.filterMap (request? i)).reverse

/-- Whether the reading of a refusal of a speed is noted, outside a cold start. -/
def isSteering (i : ι) : Note ι → Bool
  | read j reply coldStart _ =>
    decide (j = i) && decide (reply.kind = .setSpeed) && reply.isException && !coldStart
  | _ => false

/-- No reply is noted that may have had a speed sent again. -/
def Undisturbed (i : ι) (notes : List (Note ι)) : Prop := ∀ n ∈ notes, n.isSteering i = false

instance (i : ι) (notes : List (Note ι)) : Decidable (Undisturbed i notes) :=
  inferInstanceAs (Decidable (∀ n ∈ notes, n.isSteering i = false))

variable {i : ι} {newer older notes : List (Note ι)}

lemma results_append : results i (newer ++ older) = results i older ++ results i newer := by
  simp [results]

lemma requests_append : requests i (newer ++ older) = requests i older ++ requests i newer := by
  simp [requests]

lemma undisturbed_append :
    Undisturbed i (newer ++ older) ↔ Undisturbed i newer ∧ Undisturbed i older := by
  simp [Undisturbed, or_imp, forall_and]

/-- Only traffic counts. -/
lemma results_traffic (i : ι) (notes : List (Note ι)) :
    results i (notes.filter isTraffic) = results i notes := by
  have hkept (n : Note ι) : (if n.isTraffic = true then n.result? i else none) = n.result? i := by
    cases n <;> rfl
  simp only [results, List.filterMap_filter, hkept]

lemma requests_traffic (i : ι) (notes : List (Note ι)) :
    requests i (notes.filter isTraffic) = requests i notes := by
  have hkept (n : Note ι) :
      (if n.isTraffic = true then n.request? i else none) = n.request? i := by
    cases n <;> rfl
  simp only [requests, List.filterMap_filter, hkept]

lemma results_eq_nil (h : ∀ n ∈ notes.filter isTraffic, n.result? i = none) :
    results i notes = [] := by
  rw [← results_traffic, results, List.filterMap_eq_nil_iff.2 h, List.reverse_nil]

lemma requests_eq_nil (h : ∀ n ∈ notes.filter isTraffic, n.request? i = none) :
    requests i notes = [] := by
  rw [← requests_traffic, requests, List.filterMap_eq_nil_iff.2 h, List.reverse_nil]

end

end Note

/-- The traffic among the notes that have been made is what the traffic has grown by. -/
lemma Scene.filter_made {σ σ' : Scene ι World} {made notes : List (Note ι)}
    (hmade : σ'.notes = made ++ σ.notes) (htraffic : σ'.traffic = notes ++ σ.traffic) :
    made.filter Note.isTraffic = notes := by
  rw [traffic, hmade, List.filter_append] at htraffic
  exact List.append_cancel_right htraffic

/-- **Nothing but the reading of replies has been noted since some time**, unless one of them may
have had a speed sent again. -/
structure Scene.Hears [DecidableEq ι] (i : ι) (t : List (Note ι)) (σ : Scene ι World) : Prop where
  grown : ∃ made, σ.notes = made ++ t
  traffic : Note.Undisturbed i σ.notes → σ.traffic = t.filter Note.isTraffic

namespace Scene.Hears

variable [DecidableEq ι] {i : ι} {t : List (Note ι)} {σ : Scene ι World}

lemma world (h : σ.Hears i t) (world : World) : Scene.Hears i t { σ with world } :=
  ⟨h.grown, h.traffic⟩

lemma note (h : σ.Hears i t) {n : Note ι} (hn : n.isTraffic = false) : (σ.note n).Hears i t := by
  obtain ⟨made, hmade⟩ := h.grown
  refine ⟨⟨n :: made, by rw [note_notes, hmade, List.cons_append]⟩, fun hundisturbed => ?_⟩
  rw [traffic_note, hn]
  exact h.traffic fun m hm => hundisturbed m (List.mem_cons_of_mem n hm)

end Scene.Hears

/-! ## Operations that are accompanied -/

namespace SpindleContext.Rests

variable {b c : SpindleContext}

lemma isSelected_eq (h : b.Rests c) : c.isSelected = b.isSelected :=
  congrArg Option.isSome h.selection

lemma pollDue_eq (h : b.Rests c) (now interval : UInt64) :
    c.pollDue now interval = b.pollDue now interval := by
  rw [pollDue, pollDue, h.lastPoll]

/-! Changes that are made to both. -/

lemma withStatusOp (h : b.Rests c) (progress : OperationState) :
    ({ b with statusOp := progress } : SpindleContext).Rests { c with statusOp := progress } :=
  { h with statusOp := rfl }

lemma withSpeedOp (h : b.Rests c) (progress : OperationState) :
    ({ b with speedOp := progress } : SpindleContext).Rests { c with speedOp := progress } :=
  { h with speedOp := rfl }

lemma withLastPoll (h : b.Rests c) (now : UInt64) :
    ({ b with lastPoll := some now } : SpindleContext).Rests { c with lastPoll := some now } :=
  { h with lastPoll := rfl }

lemma takeCommand (h : b.Rests c) (state : SpindleState) :
    (b.takeCommand state).Rests (c.takeCommand state) :=
  { h with
    statusOp := rfl
    on := rfl
    ccw := rfl
    data := by
      obtain ⟨measured, atSpeed, hdata⟩ := h.data
      refine ⟨measured, atSpeed, ?_⟩
      simp only [SpindleContext.takeCommand, hdata, h.ccw] }

lemma endSpeed (h : b.Rests c) (rpm tolerance : Binary32) (progress : OperationState) :
    (b.endSpeed rpm tolerance progress).Rests (c.endSpeed rpm tolerance progress) :=
  { h with
    speedOp := rfl
    data := by
      obtain ⟨measured, atSpeed, hdata⟩ := h.data
      refine ⟨measured, false, ?_⟩
      simp only [SpindleContext.endSpeed, SpeedData.program, hdata] }

/-- The verdict is told as far as it is known to each. -/
lemma tell (h : b.Rests c) :
    ({ b with state := { b.state with atSpeed := b.data.commanded.atSpeed } } :
        SpindleContext).Rests
      { c with state := { c.state with atSpeed := c.data.commanded.atSpeed } } :=
  { h with on := h.on, ccw := h.ccw }

lemma check (h : b.Rests c) (checked : Bool) :
    ({ b with data := { b.data with checked } } : SpindleContext).Rests
      { c with data := { c.data with checked } } :=
  { h with
    data := by
      obtain ⟨measured, atSpeed, hdata⟩ := h.data
      refine ⟨measured, atSpeed, ?_⟩
      simp only [hdata] }

lemma unselect (h : b.Rests c) :
    ({ b with selection := none } : SpindleContext).Rests { c with selection := none } :=
  { h with selection := rfl }

lemma select (h : b.Rests c) (selection : Selection) (address : UInt8) :
    ({ b with
        selection := some selection
        data := { b.data with programmed := noSpeed }
        address } : SpindleContext).Rests
      { c with
        selection := some selection
        data := { c.data with programmed := noSpeed }
        address } :=
  { h with
    selection := rfl
    address := rfl
    data := by
      obtain ⟨measured, atSpeed, hdata⟩ := h.data
      refine ⟨measured, atSpeed, ?_⟩
      simp only [hdata] }

end SpindleContext.Rests

namespace Workshop

variable [DecidableEq ι] {shop : Workshop ι World} {patience : Nat} {i : ι}

/-- **How an operation ends that is accompanied** by another which hears nothing.  If it comes back,
undisturbed, then so does the other, from a state that differs in what has been heard and on a tape
that says how the exchanges end; the results are as they should be, the states still differ in no
more than that, and the same has been sent. -/
def Tracked {α β : Type} (shop : Workshop ι World) (i : ι) (op' : Operation Tape β)
    (R : α → β → Prop) (c : SpindleContext) (σ : Scene ι World) (r : Option α)
    (c' : SpindleContext) (σ' : Scene ι World) : Prop :=
  ∃ made, σ'.notes = made ++ σ.notes ∧
    ∀ a, r = some a → Note.Undisturbed i σ'.notes → ∀ b, b.Rests c →
      ∃ a' b', R a a' ∧ b'.Rests c' ∧
        Tape.Plays op' b ((shop.outside i).tolerance σ.world) (Note.results i made) a' b'
          ((shop.outside i).tolerance σ'.world) (Note.requests i made)

/-- An operation is accompanied from one state. -/
def TracksAt {α β : Type} (shop : Workshop ι World) (i : ι)
    (op : Operation (Scene ι World) α) (op' : Operation Tape β) (R : α → β → Prop)
    (c : SpindleContext) (σ : Scene ι World) : Prop :=
  Leads op (shop.Tracked i op' R c σ) c σ

/-- **An operation is accompanied by another** that hears nothing. -/
def Tracks {α β : Type} (shop : Workshop ι World) (i : ι) (op : Operation (Scene ι World) α)
    (op' : Operation Tape β) (R : α → β → Prop) : Prop :=
  ∀ c σ, shop.TracksAt i op op' R c σ

variable {α β γ δ : Type} {op : Operation (Scene ι World) α} {op' : Operation Tape β}
  {f : α → Operation (Scene ι World) γ} {f' : β → Operation Tape δ} {R : α → β → Prop}
  {S : γ → δ → Prop} {now : UInt64} {c : SpindleContext} {σ : Scene ι World}

/-- What follows has to be accompanied whatever result the first operation has. -/
lemma TracksAt.bind (h : shop.TracksAt i op op' R c σ) (total : ∀ a, ∃ a', R a a')
    (hf : ∀ a a', R a a' → shop.Tracks i (f a) (f' a') S) :
    shop.TracksAt i (op >>= f) (op' >>= f') S c σ := by
  rw [TracksAt, leads_bind]
  refine Leads.mono h ?_
  rintro (_ | a) c₁ σ₁ ⟨made, hmade, htracks⟩
  · exact ⟨made, hmade, by simp⟩
  -- the results that the other operation can have are taken together
  have hall : Leads (f a)
      (fun r c₂ σ₂ => ∀ a', R a a' → shop.Tracked i (f' a') S c₁ σ₁ r c₂ σ₂) c₁ σ₁ :=
    fun a' hR => hf a a' hR c₁ σ₁
  refine hall.mono ?_
  intro r c₂ σ₂ hnext
  obtain ⟨a₀, hR₀⟩ := total a
  obtain ⟨made₂, hmade₂, -⟩ := hnext a₀ hR₀
  refine ⟨made₂ ++ made, by rw [hmade₂, hmade, List.append_assoc], ?_⟩
  rintro g rfl hundisturbed b hb
  have holder : Note.Undisturbed i σ₁.notes := by
    rw [hmade₂] at hundisturbed
    exact (Note.undisturbed_append.1 hundisturbed).2
  obtain ⟨a', b₁, hR, hb₁, hplays⟩ := htracks a rfl holder b hb
  obtain ⟨made', hmade', htracks'⟩ := hnext a' hR
  obtain rfl : made' = made₂ := List.append_cancel_right (hmade'.symm.trans hmade₂)
  obtain ⟨g', b₂, hS, hb₂, hplays'⟩ := htracks' g rfl hundisturbed b₁ hb₁
  refine ⟨g', b₂, hS, hb₂, ?_⟩
  rw [Note.results_append, Note.requests_append]
  exact hplays.bind hplays'

lemma Tracks.pure {a : α} {a' : β} (h : R a a') :
    shop.Tracks i (Pure.pure a) (Pure.pure a') R := by
  intro c σ
  rw [TracksAt, leads_pure]
  refine ⟨[], rfl, ?_⟩
  rintro _ ⟨⟩ - b hb
  exact ⟨a', b, h, hb, .pure a' b _⟩

/-- The result may be put in another way. -/
lemma TracksAt.map {g : α → γ} {g' : β → δ} (h : shop.TracksAt i op op' R c σ)
    (total : ∀ a, ∃ a', R a a') (hg : ∀ a a', R a a' → S (g a) (g' a')) :
    shop.TracksAt i (g <$> op) (g' <$> op') S c σ := by
  rw [map_eq_pure_bind, map_eq_pure_bind]
  exact h.bind total fun a a' hR => .pure (hg a a' hR)

/-- The clocks show the same. -/
lemma TracksAt.elapsed_bind {f : UInt64 → Operation (Scene ι World) γ}
    {f' : UInt64 → Operation Tape δ} (hnow : (shop.outside i).elapsed σ.world = now)
    (h : shop.TracksAt i (f now) (f' now) S c σ) :
    shop.TracksAt i (observe (shop.surroundings patience i).elapsed >>= f)
      (observe (Tape.surroundings now).elapsed >>= f') S c σ := by
  subst hnow
  exact h

namespace Tracks

lemma bind (h : shop.Tracks i op op' R) (total : ∀ a, ∃ a', R a a')
    (hf : ∀ a a', R a a' → shop.Tracks i (f a) (f' a') S) :
    shop.Tracks i (op >>= f) (op' >>= f') S :=
  fun c σ => (h c σ).bind total hf

/-- The result of the one says what the result of the other is. -/
lemma bind_of_graph {result : α → β} (h : shop.Tracks i op op' fun a a' => a' = result a)
    (hf : ∀ a, shop.Tracks i (f a) (f' (result a)) S) : shop.Tracks i (op >>= f) (op' >>= f') S :=
  h.bind (fun _ => ⟨_, rfl⟩) fun a _ ha => ha ▸ hf a

lemma bind_of_eq {op' : Operation Tape α} {f' : α → Operation Tape δ}
    (h : shop.Tracks i op op' Eq) (hf : ∀ a, shop.Tracks i (f a) (f' a) S) :
    shop.Tracks i (op >>= f) (op' >>= f') S :=
  h.bind (fun a => ⟨a, rfl⟩) fun a _ ha => ha ▸ hf a

lemma map_of_graph {result : α → β} {g : α → γ} {g' : β → δ}
    (h : shop.Tracks i op op' fun a a' => a' = result a) (hg : ∀ a, S (g a) (g' (result a))) :
    shop.Tracks i (g <$> op) (g' <$> op') S :=
  fun c σ => (h c σ).map (fun _ => ⟨_, rfl⟩) fun a _ ha => ha ▸ hg a

lemma map_of_eq {op' : Operation Tape α} {g : α → γ} {g' : α → δ}
    (h : shop.Tracks i op op' Eq) (hg : ∀ a, S (g a) (g' a)) :
    shop.Tracks i (g <$> op) (g' <$> op') S :=
  fun c σ => (h c σ).map (fun a => ⟨a, rfl⟩) fun a _ ha => ha ▸ hg a

/-- What is looked up in the two states may differ in what has been heard. -/
lemma context : shop.Tracks i context context (fun c b => b.Rests c) := by
  intro c σ
  rw [TracksAt, leads_context]
  refine ⟨[], rfl, ?_⟩
  rintro _ ⟨⟩ - b hb
  exact ⟨b, b, hb, hb, .of_forall fun _ _ => rfl⟩

/-- A change of both states that leaves them matching. -/
lemma update {change change' : SpindleContext → SpindleContext}
    (h : ∀ b c, b.Rests c → (change' b).Rests (change c)) :
    shop.Tracks i (update change) (update change') Eq := by
  intro c σ
  rw [TracksAt, leads_update]
  refine ⟨[], rfl, ?_⟩
  rintro _ ⟨⟩ - b hb
  exact ⟨(), _, rfl, h b c hb, .of_forall fun _ _ => rfl⟩

/-- What the tolerance is, the tape knows. -/
lemma tolerance : shop.Tracks i (observe (shop.surroundings patience i).tolerance)
    (observe (Tape.surroundings now).tolerance) Eq := by
  intro c σ
  rw [TracksAt, leads_observe]
  refine ⟨[], rfl, ?_⟩
  rintro _ ⟨⟩ - b hb
  exact ⟨_, b, rfl, hb, .of_forall fun _ _ => rfl⟩

end Tracks

/-- **An operation that sends nothing** and leaves a spindle at rest as it is, but for what it has
heard, is accompanied by nothing at all. -/
lemma TracksAt.of_rests (a' : β)
    (h : Leads op (fun r c' σ' => ∃ made, σ'.notes = made ++ σ.notes ∧
      ∀ a, r = some a → Note.Undisturbed i σ'.notes →
        R a a' ∧ made.filter Note.isTraffic = [] ∧
          (shop.outside i).tolerance σ'.world = (shop.outside i).tolerance σ.world ∧
          c.Rests c') c σ) :
    shop.TracksAt i op (pure a') R c σ := by
  refine Leads.mono h ?_
  rintro r c' σ' ⟨made, hmade, hrests⟩
  refine ⟨made, hmade, fun a ha hundisturbed b hb => ?_⟩
  obtain ⟨hR, hfilter, htolerance, hrests⟩ := hrests a ha hundisturbed
  refine ⟨a', b, hR, hb.trans hrests, ?_⟩
  rw [htolerance, Note.results_eq_nil (by simp [hfilter]), Note.requests_eq_nil (by simp [hfilter])]
  exact .pure a' b _

/-! ## Steps -/

/-- **Nobody but a spindle itself changes its tolerance**, and what it sets is what it then has. -/
structure OwnsTolerance (shop : Workshop ι World) (i : ι) : Prop where
  spares : ∀ tolerance j, (shop.outside j).Spares fun w => (shop.outside i).tolerance w = tolerance
  silence : ∀ j w,
    (shop.outside i).tolerance ((shop.outside j).silence w) = (shop.outside i).tolerance w
  others : ∀ j tolerance w, j ≠ i →
    (shop.outside i).tolerance ((shop.outside j).setTolerance tolerance w) =
      (shop.outside i).tolerance w
  own : ∀ tolerance w,
    (shop.outside i).tolerance ((shop.outside i).setTolerance tolerance w) = tolerance

namespace OwnsTolerance

variable (h : shop.OwnsTolerance i)

include h

omit [DecidableEq ι] in
lemma sustains (tolerance : Binary32) :
    shop.Sustains i (fun _ => True) fun w => (shop.outside i).tolerance w = tolerance where
  book _ _ _ _ := trivial
  program _ _ _ _ _ _ := trivial
  read _ _ _ _ _ := trivial
  spares := h.spares tolerance

lemma tracks_raiseAlarm : shop.Tracks i (affect (shop.surroundings patience i).raiseAlarm)
    (affect (Tape.surroundings now).raiseAlarm) Eq := by
  intro c σ
  refine TracksAt.of_rests () ?_
  rw [leads_affect]
  refine ⟨[.alarm i], rfl, fun _ _ _ => ⟨rfl, rfl, ?_, .refl c⟩⟩
  exact (h.spares _ i).raiseAlarm σ.world rfl

lemma tracks_silence : shop.Tracks i (affect (shop.surroundings patience i).silence)
    (affect (Tape.surroundings now).silence) Eq := by
  intro c σ
  refine TracksAt.of_rests () ?_
  rw [leads_affect]
  exact ⟨[], rfl, fun _ _ _ => ⟨rfl, rfl, h.silence i σ.world, .refl c⟩⟩

lemma tracks_setTolerance (tolerance : Binary32) :
    shop.Tracks i (affect ((shop.surroundings patience i).setTolerance tolerance))
      (affect ((Tape.surroundings now).setTolerance tolerance)) Eq := by
  intro c σ
  rw [TracksAt, leads_affect]
  refine ⟨[], rfl, ?_⟩
  rintro _ ⟨⟩ - b hb
  refine ⟨(), b, rfl, hb, ?_⟩
  rw [show (shop.outside i).tolerance
    ((shop.surroundings patience i).setTolerance tolerance σ).world = tolerance from
      h.own tolerance σ.world]
  exact .of_forall fun _ _ => rfl

end OwnsTolerance

end Workshop

/-! ## Replies -/

namespace SpindleContext.Rests

variable {c c' : SpindleContext}

/-- A reply is read while others wait. -/
lemma takeIn_queued {reading : Bool} (h : c.Rests { c' with inbox := [], reading }) (s : Spindle)
    (reply : Reply) (rest : List Reply) (coldStart : Bool)  :
    c.Rests { s.takeIn reply rest coldStart c' with inbox := [], reading } :=
  h.takeIn s reply coldStart

/-- The last reply has been read. -/
lemma closed (h : c.Rests { c' with inbox := [], reading := false }) (hinbox : c'.inbox = []) :
    c.Rests { c' with reading := false } := by
  rw [← hinbox] at h
  exact h

end SpindleContext.Rests

/-- **Reading replies leaves a spindle as it is** but for what they say, as long as heeding them
changes nothing.  `calm` says of the world that this has been so, and `W` holds whether it has or
not. -/
lemma Spindle.leads_deliver_rests {World : Type} {s : Spindle} {env : Surroundings World}
    {patience : Nat} {c : SpindleContext} {w : World} (W calm : World → Prop) (reply : Reply)
    (heeded : ∀ reply rest c w, W w →
      Leads (s.heed env (s.reader.read reply (env.isColdStart w) c.data c.exceptions).1)
        (fun r c' w' => W w' ∧ (r.isSome = true → calm w' →
          calm w ∧ c' = s.takeIn reply rest (env.isColdStart w) c))
        (s.takeIn reply rest (env.isColdStart w) c) (env.journal reply (env.isColdStart w) c w))
    (hW : W w) :
    Leads (s.deliver env patience reply)
      (fun r c' w' => W w' ∧ (r.isSome = true → calm w' → c.Rests c')) c w := by
  refine leads_deliver (fun hr => ⟨hW, fun _ _ => ?_⟩) fun hr => ?_
  · exact ⟨⟨⟨rfl, fun hr' => by simp [hr] at hr'⟩, rfl, rfl⟩, rfl, rfl, rfl, rfl, rfl, _, _, rfl⟩
  refine leads_readReplies
    (fun c' w' => W w' ∧ (calm w' → c.Rests { c' with inbox := [], reading := false }))
    (fun _ _ hI => ⟨hI.1, by simp⟩) (fun c' w' hI => ?_) patience _ w ⟨hW, fun _ => ?_⟩
  · obtain ⟨hW, hrests⟩ := hI
    refine leads_readReply (fun hempty => ⟨hW, fun _ hcalm => (hrests hcalm).closed hempty⟩)
      fun reply rest _ => ?_
    refine (heeded reply rest c' w' hW).mono ?_
    rintro (_ | _) c'' w'' ⟨hW'', hheeded⟩
    · exact ⟨hW'', by simp⟩
    · refine ⟨hW'', fun hcalm => ?_⟩
      obtain ⟨hcalm', rfl⟩ := hheeded rfl hcalm
      exact (hrests hcalm').takeIn_queued s reply rest _
  · exact ⟨⟨⟨hr.symm, fun _ _ => rfl⟩, rfl, rfl⟩, rfl, rfl, rfl, rfl, rfl, _, _, rfl⟩

/-- A call from inside an exchange that comes back leaves a spindle so. -/
lemma Surroundings.IsTaken.leads_inner_rests {World : Type} {env : Surroundings World}
    (h : env.IsTaken) {s : Spindle} {c : SpindleContext} {w : World} (patience : Nat)
    {inner : InnerCall} {call : HostCall} (hcall : inner.asHost? = some call) :
    Leads (s.carryOut env patience call) (fun r c' _ => r.isSome = true → c.Rests c') c w := by
  cases inner <;> cases hcall <;> simp only [Spindle.carryOut, leads_map]
  case setState state rpm =>
    refine (h.leads_setState patience state rpm).mono ?_
    rintro (_ | a) c' w' hc
    · simp
    · obtain ⟨rfl, -, -⟩ := hc a rfl
      exact fun _ => .refl _
  case setSpeed rpm blocking =>
    refine (h.leads_sendSpeed rpm blocking).mono ?_
    rintro (_ | a) c' w' hc
    · simp
    · obtain ⟨rfl, -⟩ := hc a rfl
      exact fun _ => .refl _
  case deliver reply =>
    have hheeded (reply : Reply) (rest : List Reply) (c : SpindleContext) (w : World) :
        Leads (s.heed env (s.reader.read reply (env.isColdStart w) c.data c.exceptions).1)
          (fun r c' _ => True ∧ (r.isSome = true → True →
            True ∧ c' = s.takeIn reply rest (env.isColdStart w) c))
          (s.takeIn reply rest (env.isColdStart w) c)
          (env.journal reply (env.isColdStart w) c w) :=
      (h.leads_heed _).mono fun r c' w' hc => ⟨trivial, fun hback _ => ⟨trivial, hc hback⟩⟩
    refine (Spindle.leads_deliver_rests (fun _ => True) (fun _ => True) reply
      (fun reply rest c w _ => hheeded reply rest c w) trivial).mono ?_
    rintro (_ | _) c' w' ⟨-, hrests⟩
    · simp
    · exact fun _ => hrests rfl trivial
  case getData => exact fun _ => .refl _

namespace Workshop

variable [DecidableEq ι] {shop : Workshop ι World} {patience : Nat} {i : ι} {now : UInt64}

/-- So does every call that a transport makes, whomever it calls. -/
lemma rests_reenter (shop : Workshop ι World) (patience : Nat) (j : ι) (call : InnerCall)
    (σ : Scene ι World) (back : (shop.reenter patience j call σ).1.isSome = true) (i : ι) :
    (σ.contexts i).Rests ((shop.reenter patience j call σ).2.contexts i) := by
  refine of_reenter (R := fun σ' => (σ.contexts i).Rests (σ'.contexts i)) (.refl _)
    (fun hostCall hcall => ?_) back
  have hinner := (shop.quiet_isTaken j).leads_inner_rests (s := shop.spindle j)
    (c := σ.contexts j) (w := σ) patience hcall
  have hothers := (shop.quiet_keeps j (Scene.isKept_contexts σ.contexts)).leads_carryOut
    (s := shop.spindle j) (c := σ.contexts j) patience hostCall rfl
  refine (hinner.and hothers).mono ?_
  rintro r c σ' ⟨hinner, hothers⟩ answer rfl
  by_cases hj : i = j
  · subst hj
    simpa using hinner rfl
  · rw [Scene.put_contexts_of_ne _ hj, hothers]
    exact .refl _

variable {σ : Scene ι World} {c : SpindleContext}

/-- A finding that has a speed sent again comes of a reply that does. -/
lemma isSteering_of_reissue? {s : Spindle} {reply : Reply} {coldStart : Bool} {c : SpindleContext}
    {rpm : Binary32}
    (hreissue : (s.reader.read reply coldStart c.data c.exceptions).1.reissue? = some rpm) :
    (Note.read i reply coldStart c).isSteering i = true := by
  obtain ⟨kind, frame | code⟩ := reply
  · simp [ReplyReader.read, s.reader.readResponse_reissue?] at hreissue
  · cases coldStart
    · cases kind <;>
        simp [ReplyReader.read, ReplyReader.readException, Finding.reissue?] at hreissue
      simp [Note.isSteering, Reply.isException]
    · simp [ReplyReader.read, ReplyReader.readException, Finding.reissue?] at hreissue

/-- A reply is read and heeded.  If it has no speed sent again, an alarm is all that comes of it. -/
lemma leads_heed_hears (reply : Reply) (rest : List Reply) {t : List (Note ι)} (hσ : σ.Hears i t) :
    Leads ((shop.spindle i).heed (shop.surroundings patience i)
        ((shop.spindle i).reader.read reply ((shop.surroundings patience i).isColdStart σ) c.data
          c.exceptions).1)
      (fun r c' σ' => σ'.Hears i t ∧ (r.isSome = true → Note.Undisturbed i σ'.notes →
        Note.Undisturbed i σ.notes ∧ c' = (shop.spindle i).takeIn reply rest
          ((shop.surroundings patience i).isColdStart σ) c))
      ((shop.spindle i).takeIn reply rest ((shop.surroundings patience i).isColdStart σ) c)
      ((shop.surroundings patience i).journal reply
        ((shop.surroundings patience i).isColdStart σ) c σ) := by
  generalize (shop.surroundings patience i).isColdStart σ = coldStart
  cases hreissue : ((shop.spindle i).reader.read reply coldStart c.data
      c.exceptions).1.reissue? with
  | none =>
      have hread : ((shop.surroundings patience i).journal reply coldStart c σ).Hears i t :=
        (hσ.world _).note rfl
      refine Operation.leads_heed (leads_reissue (fun _ => ?_) fun rpm hrpm => ?_)
      · dsimp only
        split
        · refine ⟨(hread.world _).note rfl, fun _ hundisturbed => ⟨?_, rfl⟩⟩
          exact fun n hn =>
            hundisturbed n (List.mem_cons_of_mem _ (List.mem_cons_of_mem _ hn))
        · exact ⟨hread, fun _ hundisturbed =>
            ⟨fun n hn => hundisturbed n (List.mem_cons_of_mem _ hn), rfl⟩⟩
      · simp [hreissue] at hrpm
  | some rpm =>
      have hgrows := ((shop.surroundings_grows patience i
        (.read i reply coldStart c :: σ.notes)).upholds (shop.spindle i)).retains.reads.leads_heed
        (c := (shop.spindle i).takeIn reply rest coldStart c)
        (w := (shop.surroundings patience i).journal reply coldStart c σ)
        ((shop.spindle i).reader.read reply coldStart c.data c.exceptions).1
        (fun _ _ => trivial) ⟨[], rfl⟩
      refine (leads_settled.1 hgrows).mono ?_
      rintro r c' σ' ⟨made, hmade⟩
      have hdisturbed : ¬ Note.Undisturbed i σ'.notes := by
        intro hundisturbed
        have hread := hundisturbed (.read i reply coldStart c) (by rw [hmade]; simp)
        rw [isSteering_of_reissue? hreissue] at hread
        simp at hread
      obtain ⟨older, holder⟩ := hσ.grown
      refine ⟨⟨⟨made ++ .read i reply coldStart c :: older, ?_⟩, fun h => absurd h hdisturbed⟩,
        fun _ h => absurd h hdisturbed⟩
      rw [hmade, holder, List.append_assoc, List.cons_append]

namespace OwnsTolerance

variable (h : shop.OwnsTolerance i)

include h

/-! ## Steps that send, and steps that read -/

/-- **An exchange of any spindle** that comes to an end leaves every spindle as it is, but for what
it has heard, and this one its tolerance; the exchange is all the traffic there has been. -/
lemma leads_exchange (request : Request) (mode : SendMode) (j : ι) :
    Leads (Operation.exchange (shop.surroundings patience j) request mode)
      (fun r c' σ' => ∃ made, σ'.notes = made ++ σ.notes ∧ ∀ result, r = some result →
        made.filter Note.isTraffic =
            [.exchanged j request mode result, .sending j request mode (σ.put j c).contexts] ∧
          (shop.outside i).tolerance σ'.world = (shop.outside i).tolerance σ.world ∧
          c.Rests c' ∧ ∀ k, k ≠ j → (σ.contexts k).Rests (σ'.contexts k)) c σ := by
  have hgrows : Leads (Operation.exchange (shop.surroundings patience j) request mode)
      (fun _ _ σ' => ∃ made, σ'.notes = made ++ σ.notes) c σ :=
    (shop.surroundings_grows patience j σ.notes).send request mode c σ ⟨[], rfl⟩
  have htraffic : Leads (Operation.exchange (shop.surroundings patience j) request mode)
      (fun r _ σ' => ∀ result, r = some result → σ'.traffic =
        [.exchanged j request mode result, .sending j request mode (σ.put j c).contexts] ++
          σ.traffic) c σ := by
    refine Workshop.leads_exchange (fun _ _ _ => by simp) ?_
    rintro result c' σ' - - htraffic _ ⟨⟩
    exact htraffic
  have hrests : Leads (Operation.exchange (shop.surroundings patience j) request mode)
      (fun r c' σ' => r.isSome = true →
        (shop.outside i).tolerance σ'.world = (shop.outside i).tolerance σ.world ∧
          c.Rests c' ∧ ∀ k, k ≠ j → (σ.contexts k).Rests (σ'.contexts k)) c σ := by
    refine leads_exchange_of
      (R := fun σ σ' => (∀ k, (σ.contexts k).Rests (σ'.contexts k)) ∧
        (shop.outside i).tolerance σ'.world = (shop.outside i).tolerance σ.world)
      (fun σ => ⟨fun k => .refl _, rfl⟩)
      (fun σ σ' σ'' h h' => ⟨fun k => (h.1 k).trans (h'.1 k), h'.2.trans h.2⟩)
      (fun k call σ back => ⟨fun k' => shop.rests_reenter patience k call σ back k', ?_⟩)
      (fun _ _ => by simp) ?_
    · exact ((h.sustains _).meets_reenter k call σ back ⟨trivial, rfl⟩).2
    · rintro result σ' ⟨hrests, htolerance⟩ -
      refine ⟨(h.spares _ j).send request mode _ σ'.world htolerance, by simpa using hrests j,
        fun k hk => ?_⟩
      simpa [Scene.put_contexts_of_ne _ hk] using hrests k
  refine ((hgrows.and htraffic).and hrests).mono ?_
  rintro r c' σ' ⟨⟨⟨made, hmade⟩, htraffic⟩, hrests⟩
  refine ⟨made, hmade, ?_⟩
  rintro result rfl
  exact ⟨Scene.filter_made hmade (htraffic result rfl), hrests rfl⟩

/-- **An exchange is accompanied** by one that ends in the same way and gives no reply. -/
theorem tracks_exchange (request : Request) (mode : SendMode) :
    shop.Tracks i (Operation.exchange (shop.surroundings patience i) request mode)
      (Operation.exchange (Tape.surroundings now) request mode)
      fun x y => y = x.map fun _ => none := by
  intro c σ
  refine (h.leads_exchange request mode i).mono ?_
  rintro r c' σ' ⟨made, hmade, hend⟩
  refine ⟨made, hmade, ?_⟩
  rintro result rfl - b hb
  obtain ⟨hfilter, htolerance, hrests, -⟩ := hend result rfl
  refine ⟨_, b, rfl, hb.trans hrests, ?_⟩
  have hresults : Note.results i made = [result.map fun _ => ()] := by
    rw [← Note.results_traffic, hfilter]
    simp [Note.results, Note.result?]
  have hrequests : Note.requests i made = [(request, mode)] := by
    rw [← Note.requests_traffic, hfilter]
    simp [Note.requests, List.filterMap_cons, Note.request?]
  rw [hresults, hrequests, htolerance]
  cases result <;> exact fun _ _ => rfl

/-- **What the delivery of a reply leaves** if it comes back, undisturbed. -/
lemma leads_deliver (reply : Reply) :
    Leads ((shop.spindle i).deliver (shop.surroundings patience i) patience reply)
      (fun r c' σ' => ∃ made, σ'.notes = made ++ σ.notes ∧
        (r.isSome = true → Note.Undisturbed i σ'.notes → made.filter Note.isTraffic = [] ∧
          (shop.outside i).tolerance σ'.world = (shop.outside i).tolerance σ.world ∧
          c.Rests c')) c σ := by
  have htolerance := ((h.sustains _).upholds patience i).leads_deliver patience reply
    (c := c) (w := σ) ⟨trivial, rfl⟩
  have hrests : Leads ((shop.spindle i).deliver (shop.surroundings patience i) patience reply)
      (fun r c' σ' => σ'.Hears i σ.notes ∧
        (r.isSome = true → Note.Undisturbed i σ'.notes → c.Rests c')) c σ :=
    Spindle.leads_deliver_rests (Scene.Hears i σ.notes) (fun σ' => Note.Undisturbed i σ'.notes)
      reply (fun reply rest c σ' hσ' => leads_heed_hears reply rest hσ') ⟨⟨[], rfl⟩, fun _ => rfl⟩
  refine (hrests.and htolerance).mono ?_
  rintro (_ | _) c' σ' ⟨⟨⟨⟨made, hmade⟩, htraffic⟩, hrests⟩, htolerance⟩
  · exact ⟨made, hmade, by simp⟩
  · refine ⟨made, hmade, fun hback hundisturbed => ⟨?_, htolerance.2, hrests hback hundisturbed⟩⟩
    exact Scene.filter_made hmade ((htraffic hundisturbed).trans (List.nil_append _).symm)

/-- **The delivery of a reply is accompanied by nothing.** -/
theorem tracks_deliver (reply : Reply) :
    shop.Tracks i ((shop.spindle i).deliver (shop.surroundings patience i) patience reply) (pure ())
      Eq := by
  intro c σ
  refine TracksAt.of_rests () ((h.leads_deliver reply).mono ?_)
  rintro r c' σ' ⟨made, hmade, hrests⟩
  refine ⟨made, hmade, ?_⟩
  rintro _ rfl hundisturbed
  exact ⟨rfl, hrests rfl hundisturbed⟩

end OwnsTolerance

end Workshop

end SpindleDrive
