import Mathlib.Tactic.Lemma
import SpindleDrive.Spindle.Selection

/-!
# Where an operation leads

An operation of a spindle is a function, so from one state it leads to one end: it comes back with
a result, or it never does and has none.  `Leads` is the statement that a condition holds of that
end, and this file gives the rules by which such a statement about an operation becomes one about
its parts.

* `Operation.Leads` — the condition at the end of an operation.
* `leads_bind` and its like — one equivalence for each way of building an operation, so that a
  straight piece of a program is walked through by `simp`.
* **`leads_sendRepeatedly`** — the rule of the one loop that makes attempts: what holds after so
  many failures is an invariant, and one more attempt is all that has to be looked at.

The loop that reads replies has no rule of its own; it is a recursion on patience, and each
property of it is an induction.
-/

namespace SpindleDrive

namespace Operation

variable {World α β : Type}

/-- **Where an operation leads.**  From a spindle and a world it comes to an end with `Q`, the
result being `none` if the operation never comes back. -/
def Leads (op : Operation World α) (Q : Option α → SpindleContext → World → Prop)
    (c : SpindleContext) (w : World) : Prop :=
  let (result, c, w) := op.run.run (c, w)
  Q result c w

section Rules

variable {Q R : Option α → SpindleContext → World → Prop} {c : SpindleContext} {w : World}

/-- A weaker condition holds at the end as well. -/
theorem Leads.mono {op : Operation World α} (h : Leads op Q c w)
    (hQR : ∀ r c w, Q r c w → R r c w) : Leads op R c w :=
  hQR _ _ _ h

/-- What can be said separately can be said at once. -/
theorem Leads.and {op : Operation World α} (hQ : Leads op Q c w) (hR : Leads op R c w) :
    Leads op (fun r c w => Q r c w ∧ R r c w) c w :=
  ⟨hQ, hR⟩

/-- What always holds holds at the end. -/
theorem Leads.of_forall {op : Operation World α} (h : ∀ r c w, Q r c w) : Leads op Q c w :=
  h _ _ _

/-- An operation that leads to a result comes back with it. -/
theorem Leads.exists_run {op : Operation World α} {P : α → SpindleContext → World → Prop}
    (h : Leads op (fun r c w => ∃ a, r = some a ∧ P a c w) c w) :
    ∃ a c' w', op.run.run (c, w) = (some a, c', w') ∧ P a c' w' := by
  obtain ⟨a, hresult, hP⟩ := h
  exact ⟨a, _, _, Prod.ext hresult rfl, hP⟩

@[simp] theorem leads_pure (a : α) :
    Leads (pure a : Operation World α) Q c w ↔ Q (some a) c w :=
  Iff.rfl

@[simp] theorem leads_bind (op : Operation World β) (f : β → Operation World α) :
    Leads (op >>= f) Q c w ↔
      Leads op (fun r c w =>
        match r with
        | some b => Leads (f b) Q c w
        | none => Q none c w) c w := by
  rcases h : op.run.run (c, w) with ⟨_ | b, c', w'⟩
  · simp only [Leads, OptionT.run_bind, Option.elimM, StateT.run_bind, h]
    rfl
  · simp only [Leads, OptionT.run_bind, Option.elimM, StateT.run_bind, h]
    rfl

@[simp] theorem leads_map (op : Operation World β) (f : β → α) :
    Leads (f <$> op) Q c w ↔ Leads op (fun r => Q (r.map f)) c w := by
  rw [map_eq_pure_bind, leads_bind]
  refine ⟨fun h => h.mono fun r c w hr => ?_, fun h => h.mono fun r c w hr => ?_⟩
  · cases r with
    | none => exact hr
    | some b => exact hr
  · cases r with
    | none => exact hr
    | some b => exact hr

@[simp] theorem leads_context {Q : Option SpindleContext → SpindleContext → World → Prop} :
    Leads context Q c w ↔ Q (some c) c w :=
  Iff.rfl

@[simp] theorem leads_update {Q : Option Unit → SpindleContext → World → Prop}
    (f : SpindleContext → SpindleContext) : Leads (update f) Q c w ↔ Q (some ()) (f c) w :=
  Iff.rfl

@[simp] theorem leads_observe (f : World → α) : Leads (observe f) Q c w ↔ Q (some (f w)) c w :=
  Iff.rfl

@[simp] theorem leads_affect {Q : Option Unit → SpindleContext → World → Prop}
    (f : World → World) : Leads (affect f) Q c w ↔ Q (some ()) c (f w) :=
  Iff.rfl

/-- An exchange leads where the transport takes it. -/
theorem leads_exchange {Q : Option Exchange → SpindleContext → World → Prop}
    (env : Surroundings World) (request : Request) (mode : SendMode) :
    Leads (exchange env request mode) Q c w ↔
      Q (env.send request mode c w).1 (env.send request mode c w).2.1
        (env.send request mode c w).2.2 :=
  Iff.rfl

/-- A reply that only joins the queue. -/
@[simp] theorem leads_enqueue {Q : Option Unit → SpindleContext → World → Prop} (reply : Reply) :
    Leads (Spindle.enqueue reply) Q c w ↔
      Q (some ()) { c with inbox := c.inbox ++ [reply] } w :=
  Iff.rfl

end Rules

/-! ## Sending -/

section Sending

variable {env : Surroundings World} {request : Request} {c : SpindleContext} {w : World}

/-- A single attempt: its failure is the absence of a reply. -/
theorem leads_sendOnce {Q : Option (Option Reply) → SpindleContext → World → Prop}
    (h : Leads (exchange env request .nonBlocking) (fun r c w =>
      match r with
      | some (.ok reply?) => Q (some reply?) c w
      | some (.error _) => Q (some none) c w
      | none => Q none c w) c w) :
    Leads (sendOnce (exchange env) request) Q c w := by
  rw [sendOnce, leads_bind]
  refine h.mono fun r c w hr => ?_
  rcases r with _ | e | reply?
  · exact hr
  · exact hr
  · exact hr

/-- Attempts in a row.  `Inv k last` is what holds after `k` failures, `last` being the latest
error and `mark k` what the driver notes down after the `k`-th. -/
theorem leads_attempt {mark : Nat → SpindleContext → SpindleContext}
    (Inv : Nat → TransportError → SpindleContext → World → Prop)
    {Q : Option Exchange → SpindleContext → World → Prop} {total : Nat}
    (step : ∀ k last c w, k < total → Inv k last c w →
      Leads (exchange env request .blocking) (fun r c w =>
        match r with
        | some (.ok reply?) => Q (some (.ok reply?)) c w
        | some (.error e) => Inv (k + 1) e (mark (k + 1) c) w
        | none => Q none c w) c w)
    (stop : ∀ last c w, Inv total last c w → Q (some (.error last)) c w) :
    ∀ left k last c w, k + left = total → Inv k last c w →
      Leads (attempt (exchange env request .blocking) (fun n => update (mark n)) left (k + 1) last)
        Q c w := by
  intro left
  induction left with
  | zero =>
      intro k last c w hk hInv
      obtain rfl : k = total := by omega
      exact stop last c w hInv
  | succ left ih =>
      intro k last c w hk hInv
      rw [attempt, leads_bind]
      refine (step k last c w (by omega) hInv).mono fun r c w hr => ?_
      rcases r with _ | e | reply?
      · exact hr
      · simp only [leads_bind, leads_update]
        exact ih (k + 1) e (mark (k + 1) c) w (by omega) hr
      · exact hr

/-- **Sending until it succeeds or the attempts are used up.**  `Inv k last` is what holds after
`k` failures. -/
theorem leads_sendRepeatedly {retries : Nat} {mark : Nat → SpindleContext → SpindleContext}
    (Inv : Nat → TransportError → SpindleContext → World → Prop)
    {Q : Option (Except DriverError (Option Reply)) → SpindleContext → World → Prop}
    (start : Inv 0 .timeout c w)
    (step : ∀ k last c w, k < max retries 1 → Inv k last c w →
      Leads (exchange env request .blocking) (fun r c w =>
        match r with
        | some (.ok reply?) => Q (some (.ok reply?)) c w
        | some (.error e) => Inv (k + 1) e (mark (k + 1) c) w
        | none => Q none c w) c w)
    (stop : ∀ last c w, Inv (max retries 1) last c w →
      Q (some (.error (.exhausted request.kind (max retries 1) last))) c w) :
    Leads (sendRepeatedly (exchange env) request retries fun n => update (mark n)) Q c w := by
  rw [sendRepeatedly, leads_bind]
  refine leads_attempt Inv (fun k last c w hk hInv => ?_) stop (max retries 1) 0 .timeout c w
    (Nat.zero_add _) start
  refine (step k last c w hk hInv).mono fun r c w hr => ?_
  rcases r with _ | e | reply?
  · exact hr
  · exact hr
  · exact hr

/-- If sending fails it is because its attempts are used up. -/
theorem leads_sendRepeatedly_exhausted {retries : Nat}
    {mark : Nat → SpindleContext → SpindleContext} :
    Leads (sendRepeatedly (exchange env) request retries fun n => update (mark n))
      (fun r _ _ => ∀ e, r = some (.error e) →
        ∃ attempts last, e = .exhausted request.kind attempts last) c w := by
  refine leads_sendRepeatedly (fun _ _ _ _ => True) trivial (fun k last c w _ _ => ?_)
    fun last c w _ => ?_
  · refine .of_forall ?_
    rintro (_ | e | reply?) c w <;> simp
  · rintro e ⟨⟩
    exact ⟨_, _, rfl⟩

end Sending

end Operation

end SpindleDrive
