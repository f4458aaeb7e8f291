import SpindleDrive.Proofs.Line.Alike

/-!
# Replies that are read and replies that are fetched

On a line that hands over every reply at once, a speed that is sent again and refused again is read
within the same call: the replies go through the inbox one by one.  On a line that keeps replies
back, each of them is a delivery of its own, when the host fetches it.  The two come to the same.

* `Waiting`, `Level` — two stands while a reply is to be read, and when nothing is going on.
* `together_readReply` — the step: both drivers read one reply.
* **`together_drain`** — the run: the rest of a loop over the inbox against the rest of the rounds.
* `together_deliver`, `together_deliver_late`, `together_deliver_calm` — a delivery, according to
  who has the reply and what it can give rise to.
-/

namespace SpindleDrive

open Operation

/-- **A reply is to be read**, if there is one: by the first driver, which is reading, in its inbox,
and by the second when it is delivered.  `both` tells whether the second is reading as well. -/
structure Waiting (both : Bool) (reply? : Option Reply) (x y : Stand Line) : Prop where
  reading : x.1.reading = true
  inbox : x.1.inbox = reply?.toList
  alike : Alike reply?.toList ({ x.1 with inbox := [], reading := both }, x.2) y

/-- **Two stands that are level**: no reply is being read, and none waits anywhere. -/
structure Level (x y : Stand Line) : Prop extends Alike [] x y where
  reading : x.1.reading = false
  inbox : x.1.inbox = []

/-- Only a refusal of a speed makes the driver send one. -/
lemma ReplyReader.not_isCalm_of_reissue? {r : ReplyReader} {reply : Reply} {coldStart : Bool}
    {data : SpeedData} {counter : ExceptionCounter} {rpm : Binary32}
    (h : (r.read reply coldStart data counter).1.reissue? = some rpm) : reply.isCalm = false := by
  obtain ⟨code, rfl⟩ := exists_exception_of_reissue? h
  rfl

section Reading

variable {s : Spindle} {x y : Stand Line}

/-- Without an inbox there is nothing that the first driver has yet to read. -/
lemma Alike.waiting (h : Alike [] x y) (hreading : x.1.reading = true) (hinbox : x.1.inbox = []) :
    Waiting true none x y := by
  refine ⟨hreading, hinbox, ?_⟩
  rw [← hinbox, ← hreading]
  exact h

/-- Sending a speed again: if that gives a reply, it is yet to be read. -/
lemma together_reissue (h : Alike [] x y) (hreading : x.1.reading = true) (hinbox : x.1.inbox = [])
    (rpm? : Option Binary32) :
    Together (s.reissue (Line.surroundings s.id) rpm?) (s.reissue (Line.surroundings s.id) rpm?)
      (fun _ _ x' y' => Lasts x x' ∧ ∃ next?, Waiting true next? x' y' ∧
        ∀ next, next? = some next → rpm?.isSome = true ∧ next.weight x'.2 ≤ x.2.refusals.length)
      x y := by
  cases rpm? with
  | none => exact together_pure ⟨.refl x, none, h.waiting hreading hinbox, by simp⟩
  | some rpm =>
      have hsent : Together
          (s.sendSpeed (Line.surroundings s.id) Spindle.enqueue rpm false)
          (s.sendSpeed (Line.surroundings s.id) Spindle.enqueue rpm false >>= fun _ => pure ())
          (fun _ _ x' y' => Lasts x x' ∧ ∃ next?, Waiting true next? x' y' ∧
            ∀ next, next? = some next → next.weight x'.2 ≤ x.2.refusals.length) x y := by
        refine together_sendSpeed h (fun result x' y' halike habides => ?_) (by simp)
          fun _ reply x' y' halike habides hweight => ?_
        · refine together_pure ⟨habides.toLasts, none, halike.waiting ?_ ?_, by simp⟩
          · exact habides.reading.trans hreading
          · exact habides.inbox.trans hinbox
        · -- The first driver finds the reply in its inbox, the bus of the second keeps it.
          have hempty := habides.inbox.trans hinbox
          have hstill := habides.reading.trans hreading
          refine ⟨(), _, (), _, rfl, rfl, ⟨habides.state, habides.refusals⟩, some reply,
            ⟨hstill, by simp [hempty], ?_⟩, ?_⟩
          · rw [← hempty, ← hstill]
            exact halike
          · rintro next ⟨⟩
            exact hweight
      refine hsent.bind_left ?_
      rintro - ⟨⟩ x' y' ⟨hlasts, next?, hwaiting, hweight⟩
      exact together_pure ⟨hlasts, next?, hwaiting, fun next hnext => ⟨rfl, hweight next hnext⟩⟩

lemma Waiting.raiseAlarm {both : Bool} {reply? : Option Reply} (h : Waiting both reply? x y)
    (id : SpindleId) :
    Waiting both reply? (x.1, (Line.surroundings id).raiseAlarm x.2)
      (y.1, (Line.surroundings id).raiseAlarm y.2) :=
  ⟨h.reading, h.inbox, h.alike.affect (isApart_raiseAlarm id)⟩

lemma together_heed (h : Alike [] x y) (hreading : x.1.reading = true) (hinbox : x.1.inbox = [])
    (finding : Finding) :
    Together (s.heed (Line.surroundings s.id) finding) (s.heed (Line.surroundings s.id) finding)
      (fun _ _ x' y' => Lasts x x' ∧ ∃ next?, Waiting true next? x' y' ∧
        ∀ next, next? = some next →
          finding.reissue?.isSome = true ∧ next.weight x'.2 ≤ x.2.refusals.length)
      x y := by
  rw [Spindle.heed]
  refine (together_reissue h hreading hinbox finding.reissue?).bind ?_
  rintro - - x' y' ⟨hlasts, next?, hwaiting, hweight⟩
  cases finding.escalates
  · exact together_pure ⟨hlasts, next?, hwaiting, hweight⟩
  · exact ⟨(), _, (), _, rfl, rfl, ⟨hlasts.state, hlasts.refusals⟩, next?,
      hwaiting.raiseAlarm s.id, hweight⟩

/-- **One reply is read** by both drivers.  If a speed is sent again and that gives a reply, the
first driver has it in its inbox, and the bound for the refusals has become less. -/
theorem together_readReply (h : Alike [] x y) (hreading : x.1.reading = true) {reply : Reply}
    (hinbox : x.1.inbox = [reply]) :
    Together (s.readReply (Line.surroundings s.id)) (s.readReply (Line.surroundings s.id))
      (fun a b x' y' => a = true ∧ b = true ∧ Lasts x x' ∧ ∃ next?, Waiting true next? x' y' ∧
        ∀ next, next? = some next → next.weight x'.2 < reply.weight x.2)
      x y := by
  obtain ⟨c, l⟩ := x
  obtain ⟨c', l'⟩ := y
  obtain ⟨hprompt, ⟨atSpeed, rfl⟩, log, rfl⟩ := h
  have hc : c.inbox = [reply] := hinbox
  simp only [Spindle.readReply, together_observe_left, together_observe_right,
    together_context_left, together_context_right, SpindleContext.seen_inbox, hc]
  simp only [together_affect_left, together_affect_right, together_update_left,
    together_update_right]
  have htaken : Alike [] (s.takeIn reply [] ((Line.surroundings s.id).isColdStart l) c, l)
      (s.takeIn reply [] ((Line.surroundings s.id).isColdStart l) (c.seen atSpeed),
        l.queued [] log) :=
    ⟨hprompt, ⟨atSpeed, rfl⟩, log, rfl⟩
  refine (together_heed htaken hreading rfl _).bind ?_
  rintro - - x' y' ⟨hlasts, next?, hwaiting, hweight⟩
  refine together_pure ⟨rfl, rfl, ⟨hlasts.state, hlasts.refusals⟩, next?, hwaiting, ?_⟩
  intro next hnext
  obtain ⟨hsome, hle⟩ := hweight next hnext
  obtain ⟨rpm, hrpm⟩ := Option.isSome_iff_exists.1 hsome
  have hcalm : reply.isCalm = false := ReplyReader.not_isCalm_of_reissue? hrpm
  have hreply : reply.weight l = l.refusals.length + 1 := by simp [Reply.weight, hcalm]
  calc next.weight x'.2 ≤ l.refusals.length := hle
    _ < reply.weight l := by omega

/-- A driver that finds no reply has read them all. -/
lemma run_readReplies_nil {World : Type} (env : Surroundings World) (n : Nat)
    {c : SpindleContext} (w : World) (h : c.inbox = []) :
    (s.readReplies env (n + 1)).run.run (c, w) = (some (), { c with reading := false }, w) := by
  have hleads : Leads (s.readReplies env (n + 1))
      (fun r c' w' => (r, c', w') = (some (), { c with reading := false }, w)) c w := by
    refine leads_readReplies_succ (leads_readReply (fun _ => rfl) fun reply rest hcons => ?_)
    simp [h] at hcons
  exact hleads

lemma run_deliver {World : Type} (env : Surroundings World) (n : Nat) (reply : Reply)
    {c : SpindleContext} (w : World) (hreading : c.reading = false) (hinbox : c.inbox = []) :
    (s.deliver env n reply).run.run (c, w) =
      (s.readReplies env n).run.run ({ c with inbox := [reply], reading := true }, w) := by
  obtain ⟨address, selection, state, data, statusOp, speedOp, exceptions, lastPoll, maxSpeed,
    inbox, reading⟩ := c
  obtain rfl : inbox = [] := hinbox
  obtain rfl : reading = false := hreading
  rfl

/-- The second driver has read its replies and comes to the end of them. -/
lemma Waiting.together_end {α β : Type} {next? : Option Reply} (h : Waiting true next? x y)
    {first : Operation Line α} {k : Unit → Operation Line β}
    {R : α → β → Stand Line → Stand Line → Prop} (n : Nat)
    (go : ∀ y', Waiting false next? x y' → Together first (k ()) R x y') :
    Together first (s.readReplies (Line.surroundings s.id) (n + 1) >>= k) R x y := by
  have hinbox : y.1.inbox = [] := h.alike.inbox_eq
  have hend := run_readReplies_nil (s := s) (Line.surroundings s.id) n y.2 hinbox
  rw [together_congr_right (run_bind_of_some hend)]
  refine go _ ⟨h.reading, h.inbox, h.alike.prompt, ?_, h.alike.line⟩
  obtain ⟨atSpeed, hcontext⟩ := h.alike.context
  exact ⟨atSpeed, by rw [hcontext]; rfl⟩

/-- **One round of reading**: both drivers read a reply, the second then reads no other, and the
first may have one more in its inbox. -/
lemma together_readReplies {β : Type} (h : Alike [] x y) (hreading : x.1.reading = true)
    {reply : Reply} (hinbox : x.1.inbox = [reply]) {k : Unit → Operation Line β}
    {R : Unit → β → Stand Line → Stand Line → Prop} {n m : Nat}
    (go : ∀ next? x' y', Lasts x x' → Waiting false next? x' y' →
      (∀ next, next? = some next → next.weight x'.2 < reply.weight x.2) →
      Together (s.readReplies (Line.surroundings s.id) n) (k ()) R x' y') :
    Together (s.readReplies (Line.surroundings s.id) (n + 1))
      (s.readReplies (Line.surroundings s.id) (m + 2) >>= k) R x y := by
  rw [Spindle.readReplies, Spindle.readReplies, bind_assoc]
  refine (together_readReply h hreading hinbox).bind ?_
  rintro a b x' y' ⟨rfl, rfl, hlasts, next?, hwaiting, hweight⟩
  simp only [if_true]
  exact hwaiting.together_end m fun y'' hend => go next? x' y'' hlasts hend hweight

/-! ## Rounds of fetching -/

/-- A line on which nothing waits needs no fetching. -/
lemma run_drain_nil (rounds : Nat) (h : y.2.rig.bus.pending = []) :
    (Line.drain s (rounds + 1)).run.run y = (some (), y) := by
  have hleads : Leads (Line.drain s (rounds + 1)) (fun r c l => (r, c, l) = (some (), y))
      y.1 y.2 := by
    simp [Line.drain, h]
  exact hleads

lemma run_patience : Line.patience.run.run y =
    (some (y.1.inbox.length + y.2.refusals.length + 8), y) := rfl

lemma run_drainAll : (Line.drainAll s).run.run y =
    (Line.drain s (y.1.inbox.length + y.2.refusals.length + 8)).run.run y :=
  run_bind_of_some run_patience

lemma run_drainAll_nil (h : y.2.rig.bus.pending = []) :
    (Line.drainAll s).run.run y = (some (), y) := by
  rw [run_drainAll, run_drain_nil _ h]

/-- A single reply that waits is delivered to a driver that is not reading, and read there. -/
lemma run_pump {reply : Reply} (hpending : y.2.rig.bus.pending = [reply])
    (hreading : y.1.reading = false) (hinbox : y.1.inbox = []) :
    (Line.pump s).run.run y =
      (s.readReplies (Line.surroundings s.id) (y.2.refusals.length + 8)).run.run
        ({ y.1 with inbox := [reply], reading := true },
          { y.2 with rig := y.2.rig.modifyBus (·.takePending.2) }) := by
  have hone : [reply].forM (Line.deliver s) = Line.deliver s reply :=
    bind_pure (Line.deliver s reply)
  have hsteps : y.1.inbox.length + y.2.refusals.length + 8 = y.2.refusals.length + 8 := by
    simp [hinbox]
  rw [Line.pump, run_observe_bind, run_affect_bind, hpending, hone, Line.deliver,
    run_bind_of_some run_patience, run_deliver _ _ _ _ hreading hinbox, ← hsteps]
  rfl

/-- Where a reply waits, a round of fetching delivers it, and the next rounds follow. -/
lemma run_drain_cons (rounds : Nat) {reply : Reply} (hpending : y.2.rig.bus.pending = [reply])
    (hreading : y.1.reading = false) (hinbox : y.1.inbox = []) :
    (Line.drain s (rounds + 1)).run.run y =
      (s.readReplies (Line.surroundings s.id) (y.2.refusals.length + 8) >>= fun _ =>
        Line.drain s rounds).run.run
        ({ y.1 with inbox := [reply], reading := true },
          { y.2 with rig := y.2.rig.modifyBus (·.takePending.2) }) := by
  have hround : (Line.drain s (rounds + 1)).run.run y =
      (Line.pump s >>= fun _ => Line.drain s rounds).run.run y := by
    rw [Line.drain, run_observe_bind, hpending]
    rfl
  rw [hround]
  exact run_bind_congr (run_pump hpending hreading hinbox)

lemma Waiting.fetch {reply : Reply} (h : Waiting false (some reply) x y) :
    Alike [] x ({ y.1 with inbox := [reply], reading := true },
      { y.2 with rig := y.2.rig.modifyBus (·.takePending.2) }) where
  prompt := h.alike.prompt
  context := by
    obtain ⟨atSpeed, hcontext⟩ := h.alike.context
    refine ⟨atSpeed, ?_⟩
    have hinbox : x.1.inbox = [reply] := h.inbox
    rw [hcontext, ← hinbox, ← h.reading]
    rfl
  line := by
    obtain ⟨log, hline⟩ := h.alike.line
    exact ⟨log, by rw [hline]; rfl⟩

/-- Once there is no reply left, the first driver stops reading. -/
lemma together_readReplies_nil (h : Waiting false none x y) (n : Nat) :
    Together (s.readReplies (Line.surroundings s.id) (n + 1)) (pure ())
      (fun _ _ x' y' => Lasts x x' ∧ Level x' y') x y := by
  have hinbox : x.1.inbox = [] := h.inbox
  have halike := h.alike
  rw [← hinbox] at halike
  exact ⟨(), _, (), y, run_readReplies_nil _ n x.2 hinbox, rfl, ⟨rfl, Nat.le_refl _⟩, halike, rfl,
    hinbox⟩

/-- **The rest of a loop over the inbox comes to the same as the rest of the rounds.**  `k` is more
than the refusals that the reply can have the driver run into. -/
theorem together_drain (k : Nat) :
    ∀ {reply? : Option Reply} {x y : Stand Line} {n rounds : Nat}, Waiting false reply? x y →
      (∀ reply, reply? = some reply → reply.weight x.2 < k) → k ≤ n → k ≤ rounds →
      Together (s.readReplies (Line.surroundings s.id) (n + 1)) (Line.drain s (rounds + 1))
        (fun _ _ x' y' => Lasts x x' ∧ Level x' y') x y := by
  induction k with
  | zero =>
      intro reply? x y n rounds h hweight _ _
      cases reply? with
      | none =>
          rw [together_congr_right (run_drain_nil rounds h.alike.pending_eq)]
          exact together_readReplies_nil h n
      | some reply => exact absurd (hweight reply rfl) (Nat.not_lt_zero _)
  | succ k ih =>
      intro reply? x y n rounds h hweight hn hrounds
      cases reply? with
      | none =>
          rw [together_congr_right (run_drain_nil rounds h.alike.pending_eq)]
          exact together_readReplies_nil h n
      | some reply =>
          -- The first driver reads from its inbox what the second host fetches in this round.
          obtain ⟨n, rfl⟩ := Nat.exists_eq_add_of_le' hn
          obtain ⟨rounds, rfl⟩ := Nat.exists_eq_add_of_le' hrounds
          rw [together_congr_right (run_drain_cons _ h.alike.pending_eq h.alike.reading_eq
            h.alike.inbox_eq)]
          refine together_readReplies h.fetch h.reading h.inbox ?_
          intro next? x' y' hlasts hnext hless
          have hbound (next : Reply) (hsome : next? = some next) : next.weight x'.2 < k :=
            Nat.lt_of_lt_of_le (hless next hsome) (Nat.le_of_lt_succ (hweight reply rfl))
          refine (ih hnext hbound (Nat.le_add_left ..) (Nat.le_add_left ..)).mono ?_
          rintro - - x'' y'' ⟨hlasts', hlevel⟩
          exact ⟨hlasts.trans hlasts', hlevel⟩

/-! ## Deliveries -/

/-- Whatever the first driver has yet to read, the second host fetches. -/
lemma together_drainAll {reply? : Option Reply} (h : Waiting false reply? x y) {n : Nat}
    (hn : x.2.refusals.length + 3 ≤ n) :
    Together (s.readReplies (Line.surroundings s.id) n) (Line.drainAll s)
      (fun _ _ x' y' => Lasts x x' ∧ Level x' y') x y := by
  have hweight (reply : Reply) : reply.weight x.2 < x.2.refusals.length + 2 := by
    rw [Reply.weight]
    split <;> omega
  have hrefusals : y.2.refusals = x.2.refusals := h.alike.refusals_eq
  obtain ⟨m, rfl⟩ : ∃ m, n = m + 1 := ⟨n - 1, by omega⟩
  rw [together_congr_right run_drainAll, hrefusals]
  exact together_drain (x.2.refusals.length + 2) h (fun reply _ => hweight reply) (by omega)
    (by omega)

/-- A reply that the first host has at once, and the second fetches. -/
lemma together_deliver_late {reply : Reply} (h : Alike [reply] x y) (hreading : x.1.reading = false)
    (hinbox : x.1.inbox = []) {n : Nat} (hn : x.2.refusals.length + 3 ≤ n) :
    Together (s.deliver (Line.surroundings s.id) n reply) (Line.drainAll s)
      (fun _ _ x' y' => Lasts x x' ∧ Level x' y') x y := by
  rw [together_congr_left (run_deliver _ n reply x.2 hreading hinbox)]
  have hwaiting : Waiting false (some reply)
      ({ x.1 with inbox := [reply], reading := true }, x.2) y := by
    refine ⟨rfl, rfl, ?_⟩
    rw [← hreading, ← hinbox]
    exact h
  refine (together_drainAll hwaiting hn).mono ?_
  rintro - - x' y' ⟨hlasts, hlevel⟩
  exact ⟨⟨hlasts.state, hlasts.refusals⟩, hlevel⟩

/-- A reply that both hosts have, after which the second goes on. -/
lemma together_deliver_then {β : Type} {reply : Reply} {k : Unit → Operation Line β}
    {R : Unit → β → Stand Line → Stand Line → Prop} (h : Level x y) {n m : Nat}
    (go : ∀ next? x' y', Lasts x x' → Waiting false next? x' y' →
      (∀ next, next? = some next → next.weight x'.2 < reply.weight x.2) →
      Together (s.readReplies (Line.surroundings s.id) n) (k ()) R x' y') :
    Together (s.deliver (Line.surroundings s.id) (n + 1) reply)
      (s.deliver (Line.surroundings s.id) (m + 2) reply >>= k) R x y := by
  have hreading : y.1.reading = false := h.reading_eq.trans h.reading
  have hinbox : y.1.inbox = [] := h.inbox_eq.trans h.inbox
  rw [together_congr_left (run_deliver _ _ reply x.2 h.reading h.inbox),
    together_congr_right (run_bind_congr (run_deliver _ _ reply y.2 hreading hinbox))]
  have hbegun : Alike [] ({ x.1 with inbox := [reply], reading := true }, x.2)
      ({ y.1 with inbox := [reply], reading := true }, y.2) := by
    obtain ⟨atSpeed, hcontext⟩ := h.context
    exact ⟨h.prompt, ⟨atSpeed, by rw [hcontext]; rfl⟩, h.line⟩
  refine together_readReplies hbegun rfl rfl fun next? x' y' hlasts => ?_
  exact go next? x' y' ⟨hlasts.state, hlasts.refusals⟩

/-- **A reply that both hosts have**: what it gives rise to is read by the first driver at once,
and fetched by the second host. -/
lemma together_deliver (h : Level x y) (reply : Reply) {n : Nat}
    (hn : x.2.refusals.length + 4 ≤ n) :
    Together (s.deliver (Line.surroundings s.id) n reply)
      (s.deliver (Line.surroundings s.id) n reply >>= fun _ => Line.drainAll s)
      (fun _ _ x' y' => Lasts x x' ∧ Level x' y') x y := by
  obtain ⟨m, rfl⟩ : ∃ m, n = m + 2 := ⟨n - 2, by omega⟩
  refine together_deliver_then h fun next? x' y' hlasts hwaiting _ => ?_
  have hrefusals := hlasts.refusals
  refine (together_drainAll hwaiting (by omega)).mono ?_
  rintro - - x'' y'' ⟨hlasts', hlevel⟩
  exact ⟨hlasts.trans hlasts', hlevel⟩

/-- A calm reply gives rise to nothing. -/
lemma together_deliver_calm (h : Level x y) {reply : Reply} (hcalm : reply.isCalm = true)
    {n : Nat} (hn : 2 ≤ n) :
    Together (s.deliver (Line.surroundings s.id) n reply)
      (s.deliver (Line.surroundings s.id) n reply)
      (fun _ _ x' y' => Lasts x x' ∧ Level x' y') x y := by
  obtain ⟨n, rfl⟩ := Nat.exists_eq_add_of_le' hn
  have hthen : Together (s.deliver (Line.surroundings s.id) (n + 2) reply)
      (s.deliver (Line.surroundings s.id) (n + 2) reply >>= pure)
      (fun _ _ x' y' => Lasts x x' ∧ Level x' y') x y := by
    refine together_deliver_then h fun next? x' y' hlasts hwaiting hless => ?_
    cases next? with
    | some next => simpa [Reply.weight, hcalm] using hless next rfl
    | none =>
        refine (together_readReplies_nil hwaiting n).mono ?_
        rintro - - x'' y'' ⟨hlasts', hlevel⟩
        exact ⟨hlasts.trans hlasts', hlevel⟩
  rwa [bind_pure] at hthen

end Reading

end SpindleDrive
