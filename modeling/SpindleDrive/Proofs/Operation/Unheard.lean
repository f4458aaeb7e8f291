import SpindleDrive.Proofs.Operation.HostCall
import SpindleDrive.Proofs.Operation.Together

/-!
# A spindle that hears nothing

The smallest surroundings in which a spindle can work: it is settled beforehand how its exchanges
end, well or badly, and none of them ever gives a reply.  What a spindle does here depends on its
calls and on the ends of its exchanges, and on nothing else.

* `Tape` — the ends that are to come, and what has been sent.
* `Tape.surroundings` — an exchange takes the next end off the tape.
* `Tape.Plays` — what an operation takes off a tape and sends, whatever follows on the tape.
* **`Plays.alike`** — two ways in which an operation plays, the ends of the one agreeing with the
  ends of the other as far as both go, are the same.
* `Spindle.replay` — the calls of a host, made in these surroundings.
-/

namespace SpindleDrive

open Operation

/-- What a spindle works with that hears nothing. -/
structure Tape where
  /-- How the exchanges to come end, the next first. -/
  results : List (Except TransportError Unit)
  /-- What has been sent, in this order. -/
  sent : List (Request × SendMode)
  tolerance : Binary32

namespace Tape

/-- **Surroundings without replies**, the clock standing still.  An exchange ends as the tape says;
one for which it says nothing never ends. -/
def surroundings (now : UInt64) : Surroundings Tape where
  isUp _ := true
  silence tape := tape
  send request mode c tape :=
    match tape.results with
    | [] => (none, c, tape)
    | result :: rest =>
      (some (result.map fun _ => none), c,
        { tape with results := rest, sent := tape.sent ++ [(request, mode)] })
  elapsed _ := now
  isColdStart _ := false
  journal _ _ _ tape := tape
  raiseAlarm tape := tape
  tolerance tape := tape.tolerance
  setTolerance tolerance tape := { tape with tolerance }

/-- **What an operation makes of a tape.**  From a state and a tolerance it takes these ends off the
tape, whatever follows them there, and comes back with a result; it leaves a state and a tolerance,
and these requests have been sent. -/
def Plays {α : Type} (op : Operation Tape α) (c : SpindleContext) (tolerance : Binary32)
    (results : List (Except TransportError Unit)) (a : α) (c' : SpindleContext)
    (tolerance' : Binary32) (requests : List (Request × SendMode)) : Prop :=
  ∀ rest sent, op.run.run (c, ⟨results ++ rest, sent, tolerance⟩) =
    (some a, c', ⟨rest, sent ++ requests, tolerance'⟩)

namespace Plays

variable {α β : Type} {op : Operation Tape α} {f : α → Operation Tape β}
  {c c' c'' : SpindleContext} {tolerance tolerance' tolerance'' : Binary32}
  {results results' : List (Except TransportError Unit)}
  {requests requests' : List (Request × SendMode)} {a a' : α} {b : β}

/-- An operation that does not look at the tape. -/
lemma of_forall (h : ∀ rest sent,
    op.run.run (c, ⟨rest, sent, tolerance⟩) = (some a, c', ⟨rest, sent, tolerance'⟩)) :
    Plays op c tolerance [] a c' tolerance' [] := by
  intro rest sent
  rw [List.nil_append, List.append_nil, h]

lemma pure (a : α) (c : SpindleContext) (tolerance : Binary32) :
    Plays (Pure.pure a) c tolerance [] a c tolerance [] :=
  of_forall fun _ _ => rfl

/-- One operation after another. -/
lemma bind (h : Plays op c tolerance results a c' tolerance' requests)
    (h' : Plays (f a) c' tolerance' results' b c'' tolerance'' requests') :
    Plays (op >>= f) c tolerance (results ++ results') b c'' tolerance''
      (requests ++ requests') := by
  intro rest sent
  rw [List.append_assoc, run_bind_of_some (h _ _), h', List.append_assoc]

/-- The result may be put in another way. -/
lemma map (h : Plays op c tolerance results a c' tolerance' requests) (f : α → β) :
    Plays (f <$> op) c tolerance results (f a) c' tolerance' requests := by
  rw [map_eq_pure_bind, ← List.append_nil results, ← List.append_nil requests]
  exact h.bind (pure (f a) c' tolerance')

/-- Of two lists that do not contradict each other the shorter begins the longer. -/
lemma exists_append_of_agree {γ : Type} {l l' : List γ} (hle : l.length ≤ l'.length)
    (agree : ∀ (k : Nat) x y, l[k]? = some x → l'[k]? = some y → x = y) :
    ∃ more, l ++ more = l' := by
  refine List.prefix_iff_getElem?.2 fun k hk => ?_
  have hk' : l'[k]? = some l'[k] := List.getElem?_eq_getElem (Nat.lt_of_lt_of_le hk hle)
  rw [hk', agree k l[k] l'[k] (List.getElem?_eq_getElem hk) hk']

/-- **An operation plays in one way only.**  The ends it takes need not be known to be the same,
only not to contradict each other. -/
theorem alike (h : Plays op c tolerance results a c' tolerance' requests)
    (h' : Plays op c tolerance results' a' c'' tolerance'' requests')
    (agree : ∀ (k : Nat) x y, results[k]? = some x → results'[k]? = some y → x = y) :
    a = a' ∧ c' = c'' ∧ requests = requests' := by
  -- both can be played from one tape, which goes on after the longer of the two
  have hcommon : ∃ more more', results ++ more = results' ++ more' := by
    rcases Nat.le_total results.length results'.length with hle | hle
    · obtain ⟨more, hmore⟩ := exists_append_of_agree hle agree
      exact ⟨more, [], by rw [hmore, List.append_nil]⟩
    · obtain ⟨more, hmore⟩ :=
        exists_append_of_agree hle fun k x y hx hy => (agree k y x hy hx).symm
      exact ⟨[], more, by rw [hmore, List.append_nil]⟩
  obtain ⟨more, more', hcommon⟩ := hcommon
  have hend := (h more []).symm.trans (hcommon ▸ h' more' [])
  rw [List.nil_append, List.nil_append] at hend
  cases hend
  exact ⟨rfl, rfl, rfl⟩

end Plays

end Tape

/-- **The calls of a host** and their answers, the latest first, each call at a reading of the
clock. -/
def Spindle.replay (s : Spindle) : List (HostCall × UInt64) → Operation Tape (List Answer)
  | [] => pure []
  | (call, now) :: older => do
    let answers ← s.replay older
    let answer ← s.carryOut (Tape.surroundings now) 0 call
    return answer :: answers

end SpindleDrive
