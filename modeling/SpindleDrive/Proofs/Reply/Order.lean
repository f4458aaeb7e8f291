import SpindleDrive.Proofs.Operation.Previewing
import SpindleDrive.Proofs.Reply.Effect
import SpindleDrive.Proofs.Workshop.Waiting

/-!
# The order of good replies

Replies that are no refusals come in one after the other.  Each of them is taken in and has nothing
sent, so what they leave is settled by the last reading of either kind: a later one takes the place
of an earlier one, and the two kinds do not meet.

* `Reply.lastRead?` — the last value that replies read for one kind of request.
* `Spindle.caughtUp` — a state that has caught up with two such values.
* `takeIn_response`, `caughtUp_caughtUp` — one reply, and one reply after another.
* `Surroundings.Journals` — a world that is changed by entries in the journal and by nothing else.
* `leads_deliverAll_responses` — where the deliveries lead.
* **`Spindle.order_of_responses`** — their order matters among the readings of one kind only, and
  so a reply that comes in twice is as good as one.

All this is said of a tidy state, in which no reply waits unless others are being read.  Whatever
state of a spindle a run shows is tidy, by `Workshop.tidy_of_run`.
-/

namespace SpindleDrive

open Operation

/-! ## Last readings -/

namespace Reply

variable {kind : RequestKind}

/-- Whether a reply is a reading of this kind that can be understood. -/
def isReadingOf (kind : RequestKind) (reply : Reply) : Bool := (reply.valueRead? kind).isSome

/-- The last value that replies read for requests of this kind. -/
def lastRead? (kind : RequestKind) (replies : List Reply) : Option UInt16 :=
  (replies.filterMap (valueRead? kind)).getLast?

/-- The values of later replies take the place of that of the first. -/
lemma lastRead?_cons (kind : RequestKind) (reply : Reply) (replies : List Reply) :
    lastRead? kind (reply :: replies) = (lastRead? kind replies).or (reply.valueRead? kind) := by
  cases h : reply.valueRead? kind with
  | none => simp [lastRead?, h]
  | some value =>
      rw [lastRead?, List.filterMap_cons_some h, List.getLast?_cons, lastRead?]
      cases (replies.filterMap (valueRead? kind)).getLast? <;> rfl

/-- All other replies can be left out. -/
lemma lastRead?_filter (kind : RequestKind) (replies : List Reply) :
    lastRead? kind (replies.filter (isReadingOf kind)) = lastRead? kind replies := by
  have hvalue (reply : Reply) :
      (if isReadingOf kind reply = true then reply.valueRead? kind else none) =
        reply.valueRead? kind := by
    cases h : reply.valueRead? kind with
    | none => simp
    | some value => simp [isReadingOf, h]
  rw [lastRead?, List.filterMap_filter]
  simp only [hvalue]
  rfl

/-- A reply that comes twice reads what it reads once. -/
lemma lastRead?_twice (kind : RequestKind) (before after : List Reply) (reply : Reply) :
    lastRead? kind (before ++ reply :: reply :: after) =
      lastRead? kind (before ++ reply :: after) := by
  induction before with
  | nil =>
      simp only [List.nil_append, lastRead?_cons, Option.or_assoc, Option.or_self]
  | cons first before ih => simp only [List.cons_append, lastRead?_cons, ih]

end Reply

/-! ## Catching up -/

namespace Spindle

variable {s : Spindle} {c : SpindleContext}

/-- **A state that has caught up** with the last readings, if there are any; `heard` says whether
any reply has come in that is no refusal. -/
def caughtUp (s : Spindle) (speed? maxSpeed? : Option UInt16) (heard : Bool)
    (c : SpindleContext) : SpindleContext :=
  { c with
    data := speed?.elim c.data fun value => c.data.measure (s.reader.scale.toSpeed value)
    maxSpeed := (maxSpeed?.map s.reader.maxScale.toSpeed).or c.maxSpeed
    exceptions := if heard then c.exceptions.clear else c.exceptions }

/-- A reply that is no refusal is caught up with when it is taken in. -/
lemma takeIn_response {reply : Reply} (hplain : reply.isException = false) (coldStart : Bool) :
    s.takeIn reply c.inbox coldStart c =
      s.caughtUp (reply.valueRead? .getSpeed) (reply.valueRead? .getMaxSpeed) true c := by
  have hfinds := s.reader.finds_read reply coldStart c.data c.exceptions
  rw [takeIn]
  revert hfinds
  generalize s.reader.read reply coldStart c.data c.exceptions = out
  obtain ⟨finding, data, exceptions⟩ := out
  intro hfinds
  cases hfinds with
  | measured value hvalue =>
      have hother : reply.valueRead? .getMaxSpeed = none :=
        Reply.valueRead?_of_kind_ne (by simp [Reply.kind_of_valueRead? hvalue])
      rw [hvalue, hother]
      rfl
  | maxSpeed value hvalue =>
      have hother : reply.valueRead? .getSpeed = none :=
        Reply.valueRead?_of_kind_ne (by simp [Reply.kind_of_valueRead? hvalue])
      rw [hvalue, hother]
      rfl
  | malformed hkind hplain hvalue =>
      rw [Reply.valueRead?_of_kind_eq_none hvalue, Reply.valueRead?_of_kind_eq_none hvalue]
      rfl
  | acknowledged hkind hplain =>
      have hspeed : reply.valueRead? .getSpeed = none :=
        Reply.valueRead?_of_kind_ne (by rcases hkind with h | h <;> simp [h])
      have hmax : reply.valueRead? .getMaxSpeed = none :=
        Reply.valueRead?_of_kind_ne (by rcases hkind with h | h <;> simp [h])
      rw [hspeed, hmax]
      rfl
  | startingUp code hrefusal hcold => simp [hplain] at hrefusal
  | refused code hrefusal hcold => simp [hplain] at hrefusal

/-- **Catching up twice** is catching up with the later values, where there are any: the verdict is
that of the last measurement alone, on limits that none of them moves. -/
lemma caughtUp_caughtUp (speed? speed?' maxSpeed? maxSpeed?' : Option UInt16)
    (heard heard' : Bool) :
    s.caughtUp speed?' maxSpeed?' heard' (s.caughtUp speed? maxSpeed? heard c) =
      s.caughtUp (speed?'.or speed?) (maxSpeed?'.or maxSpeed?) (heard || heard') c := by
  simp only [caughtUp, SpindleContext.mk.injEq, true_and, and_true]
  refine ⟨?_, ?_, ?_⟩
  · cases speed?' with
    | none => rfl
    | some value =>
        cases speed? with
        | none => rfl
        | some earlier => rfl
  · cases heard with
    | false => rfl
    | true => exact ite_self _
  · rw [← Option.or_assoc, Option.map_or]

end Spindle

/-! ## Deliveries -/

variable {World : Type} {env : Surroundings World} {s : Spindle} {c : SpindleContext}

/-- **The world is changed by the entries of these replies in the journal**, in this order, and by
nothing else: nothing is sent, and no alarm is raised. -/
inductive Surroundings.Journals (env : Surroundings World) : List Reply → World → World → Prop
  | nil (w : World) : Journals env [] w w
  | cons {reply : Reply} {replies : List Reply} {w w' : World} (before : SpindleContext)
      (h : Journals env replies (env.journal reply (env.isColdStart w) before w) w') :
      Journals env (reply :: replies) w w'

/-- **Where the deliveries lead.**  Every one of them comes back. -/
lemma leads_deliverAll_responses {replies : List Reply}
    (hplain : ∀ reply ∈ replies, reply.isException = false) (hreading : c.reading = false)
    (hinbox : c.inbox = []) (patience : Nat) (w : World) :
    Leads (s.deliverAll env (patience + 2) replies)
      (fun r c' w' => r = some () ∧ env.Journals replies w w' ∧
        c' = s.caughtUp (Reply.lastRead? .getSpeed replies)
          (Reply.lastRead? .getMaxSpeed replies) (!replies.isEmpty) c) c w := by
  induction replies generalizing c w with
  | nil => exact ⟨rfl, .nil w, rfl⟩
  | cons reply replies ih =>
      obtain ⟨hreply, hreplies⟩ := List.forall_mem_cons.1 hplain
      obtain ⟨kind, frame | code⟩ := reply
      · simp only [Spindle.deliverAll, leads_bind]
        refine leads_deliver_response hreading hinbox fun before => ?_
        have htaken := Spindle.takeIn_response (s := s) (c := c) hreply (env.isColdStart w)
        rw [hinbox] at htaken
        rw [htaken]
        refine (ih (c := s.caughtUp _ _ true c) hreplies hreading hinbox _).mono ?_
        rintro r c' w' ⟨rfl, hjournal, rfl⟩
        refine ⟨rfl, .cons before hjournal, ?_⟩
        rw [Spindle.caughtUp_caughtUp, Reply.lastRead?_cons, Reply.lastRead?_cons]
        rfl
      · simp [Reply.isException] at hreply

/-- The state of a spindle after replies that are delivered one after the other. -/
def Spindle.after (s : Spindle) (env : Surroundings World) (patience : Nat) (replies : List Reply)
    (c : SpindleContext) (w : World) : SpindleContext :=
  ((s.deliverAll env patience replies).run.run (c, w)).2.1

/-- The state depends on three things. -/
lemma Spindle.after_eq {replies : List Reply}
    (hplain : ∀ reply ∈ replies, reply.isException = false) (hreading : c.reading = false)
    (hinbox : c.inbox = []) (patience : Nat) (w : World) :
    s.after env (patience + 2) replies c w =
      s.caughtUp (Reply.lastRead? .getSpeed replies) (Reply.lastRead? .getMaxSpeed replies)
        (!replies.isEmpty) c :=
  (leads_deliverAll_responses hplain hreading hinbox patience w).2.2

/-- **The order of good replies does not matter**, but for that among the readings of the speed and
that among the readings of the highest speed.  For any spindle that is not reading replies, in any
surroundings, replies of which none is a refusal are all delivered; the journal is all of the world
that is changed by them, so that nothing is sent and no alarm is raised.  The state that they leave
is settled by the last reading of either kind and by whether there is a reply at all.  So it is the
same for every rearrangement that leaves the readings of either kind in order, and the same if a
reply comes in twice in a row. -/
theorem Spindle.order_of_responses (s : Spindle) (env : Surroundings World) (patience : Nat)
    (htidy : c.IsTidy) (hreading : c.reading = false) {replies : List Reply}
    (hplain : ∀ reply ∈ replies, reply.isException = false) (w : World) :
    Leads (s.deliverAll env (patience + 2) replies)
      (fun r c' w' => r = some () ∧ env.Journals replies w w' ∧
        c' = s.caughtUp (Reply.lastRead? .getSpeed replies)
          (Reply.lastRead? .getMaxSpeed replies) (!replies.isEmpty) c) c w ∧
    (∀ others : List Reply, others.Perm replies →
      (∀ kind, kind = .getSpeed ∨ kind = .getMaxSpeed →
        others.filter (Reply.isReadingOf kind) = replies.filter (Reply.isReadingOf kind)) →
      ∀ w', s.after env (patience + 2) others c w' = s.after env (patience + 2) replies c w) ∧
    (∀ before reply after, replies = before ++ reply :: after →
      ∀ w', s.after env (patience + 2) (before ++ reply :: reply :: after) c w' =
        s.after env (patience + 2) replies c w) := by
  have hinbox : c.inbox = [] := htidy hreading
  refine ⟨leads_deliverAll_responses hplain hreading hinbox patience w, ?_, ?_⟩
  · intro others hperm hreadings w'
    have hothers : ∀ reply ∈ others, reply.isException = false := by
      intro reply hreply
      exact hplain reply (hperm.mem_iff.1 hreply)
    have hlast (kind : RequestKind) (hkind : kind = .getSpeed ∨ kind = .getMaxSpeed) :
        Reply.lastRead? kind others = Reply.lastRead? kind replies := by
      rw [← Reply.lastRead?_filter, hreadings kind hkind, Reply.lastRead?_filter]
    have hempty : others.isEmpty = replies.isEmpty := by
      rw [Bool.eq_iff_iff, List.isEmpty_iff, List.isEmpty_iff, ← List.length_eq_zero_iff,
        hperm.length_eq, List.length_eq_zero_iff]
    rw [after_eq hothers hreading hinbox, after_eq hplain hreading hinbox,
      hlast _ (.inl rfl), hlast _ (.inr rfl), hempty]
  · rintro before reply after rfl w'
    have htwice : ∀ r ∈ before ++ reply :: reply :: after, r.isException = false := by
      intro r hr
      refine hplain r ?_
      simpa using hr
    have hempty : (before ++ reply :: reply :: after).isEmpty =
        (before ++ reply :: after).isEmpty := by
      cases before <;> rfl
    rw [after_eq htwice hreading hinbox, after_eq hplain hreading hinbox,
      Reply.lastRead?_twice, Reply.lastRead?_twice, hempty]

/-- Two readings of the speed and one of the highest speed, among others that say nothing of
either. -/
def Reply.someResponses : List Reply :=
  [⟨.getSpeed, .response (ReadReply.toFrame ⟨1, 100⟩)⟩,
    ⟨.setSpeed, .response (writeFrame 1 0x2001 200)⟩,
    ⟨.getMaxSpeed, .response (ReadReply.toFrame ⟨1, 5000⟩)⟩,
    ⟨.getSpeed, .response (ReadReply.toFrame ⟨1, 200⟩)⟩,
    ⟨.getSpeed, .response (.ofBytes [1, 3, 2, 7])⟩]

/-- The same with the highest speed first and what cannot be understood early. -/
def Reply.someRearranged : List Reply :=
  [⟨.getMaxSpeed, .response (ReadReply.toFrame ⟨1, 5000⟩)⟩,
    ⟨.getSpeed, .response (.ofBytes [1, 3, 2, 7])⟩,
    ⟨.getSpeed, .response (ReadReply.toFrame ⟨1, 100⟩)⟩,
    ⟨.getSpeed, .response (ReadReply.toFrame ⟨1, 200⟩)⟩,
    ⟨.setSpeed, .response (writeFrame 1 0x2001 200)⟩]

theorem Spindle.order_of_some_responses :
    sample.2.IsTidy ∧ sample.2.reading = false ∧
    (∀ reply ∈ Reply.someResponses, reply.isException = false) ∧
    (sample.1.after .echoing 2 Reply.someResponses sample.2 []).data.measured = .ofNat 1200 ∧
    sample.1.after .echoing 2 Reply.someRearranged sample.2 [] =
      sample.1.after .echoing 2 Reply.someResponses sample.2 [] := by
  have htidy : sample.2.IsTidy := fun _ => rfl
  have hreading : sample.2.reading = false := rfl
  have hplain : ∀ reply ∈ Reply.someResponses, reply.isException = false := by decide +kernel
  have horder := sample.1.order_of_responses .echoing 0 htidy hreading hplain []
  refine ⟨htidy, hreading, hplain, by decide +kernel, ?_⟩
  refine horder.2.1 Reply.someRearranged (by decide +kernel) ?_ []
  rintro kind (rfl | rfl)
  · decide +kernel
  · decide +kernel

end SpindleDrive
