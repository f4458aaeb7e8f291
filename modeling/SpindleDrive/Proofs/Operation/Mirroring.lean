import SpindleDrive.Proofs.Operation.HostCall

/-!
# Worlds with more in them

A spindle knows of the world only what its surroundings let it see.  So if a world is given a part
that no spindle sees, to write down there what would be forgotten otherwise, every operation does
what it did, and the rest of the world is as it would have been.

* `Surroundings.Mirrors` — surroundings of a world with more in it that show the same.
* `Operation.Mirrors` — an operation in such a world that does the same.
* `Operation.MirrorsAt` — one that does so from one state.
* **`Mirrors.carryOutWith`**, `Mirrors.carryOut` — every call does the same.
-/

namespace SpindleDrive

variable {World World' α β : Type} {view : World' → World}

/-- Surroundings of a world with more in it, `view` being what there is to see: whatever is done
shows as it would have been done in the other world. -/
structure Surroundings.Mirrors (view : World' → World) (env' : Surroundings World')
    (env : Surroundings World) : Prop where
  silence : ∀ w, env.silence (view w) = view (env'.silence w)
  send : ∀ request mode c w, env.send request mode c (view w) =
    ((env'.send request mode c w).1, (env'.send request mode c w).2.1,
      view (env'.send request mode c w).2.2)
  elapsed : ∀ w, env.elapsed (view w) = env'.elapsed w
  isColdStart : ∀ w, env.isColdStart (view w) = env'.isColdStart w
  journal : ∀ reply coldStart c w,
    env.journal reply coldStart c (view w) = view (env'.journal reply coldStart c w)
  raiseAlarm : ∀ w, env.raiseAlarm (view w) = view (env'.raiseAlarm w)
  tolerance : ∀ w, env.tolerance (view w) = env'.tolerance w
  setTolerance : ∀ tolerance w,
    env.setTolerance tolerance (view w) = view (env'.setTolerance tolerance w)

namespace Operation

/-- An operation in a world with more in it shows as another does. -/
def Mirrors (view : World' → World) (op' : Operation World' α) (op : Operation World α) : Prop :=
  ∀ c w, op.run.run (c, view w) =
    ((op'.run.run (c, w)).1, (op'.run.run (c, w)).2.1, view (op'.run.run (c, w)).2.2)

/-- It does so from one state. -/
def MirrorsAt (view : World' → World) (op' : Operation World' α) (op : Operation World α)
    (c : SpindleContext) (w : World') : Prop :=
  op.run.run (c, view w) =
    ((op'.run.run (c, w)).1, (op'.run.run (c, w)).2.1, view (op'.run.run (c, w)).2.2)

/-- What follows has to show as it should from where the first operation leads. -/
lemma MirrorsAt.bind {op' : Operation World' α} {op : Operation World α}
    {f' : α → Operation World' β} {f : α → Operation World β} {c : SpindleContext} {w : World'}
    (h : MirrorsAt view op' op c w)
    (hf : Leads op' (fun r c w => ∀ a, r = some a → MirrorsAt view (f' a) (f a) c w) c w) :
    MirrorsAt view (op' >>= f') (op >>= f) c w := by
  rw [MirrorsAt] at h
  rw [Leads] at hf
  rcases hop' : op'.run.run (c, w) with ⟨_ | a, c', w'⟩
  · rw [hop'] at h
    simp only [MirrorsAt, OptionT.run_bind, Option.elimM, StateT.run_bind, h, hop']
    rfl
  · rw [hop'] at h hf
    simp only [MirrorsAt, OptionT.run_bind, Option.elimM, StateT.run_bind, h, hop']
    exact hf a rfl

namespace MirrorsAt

variable {op' : Operation World' α} {op : Operation World α} {c : SpindleContext} {w : World'}

lemma context_bind {f' : SpindleContext → Operation World' α}
    {f : SpindleContext → Operation World α} (h : MirrorsAt view (f' c) (f c) c w) :
    MirrorsAt view (context >>= f') (context >>= f) c w := h

lemma update_bind {change : SpindleContext → SpindleContext} {f' : Unit → Operation World' α}
    {f : Unit → Operation World α} (h : MirrorsAt view (f' ()) (f ()) (change c) w) :
    MirrorsAt view (update change >>= f') (update change >>= f) c w := h

lemma observe_bind {see' : World' → β} {see : World → β} {f' : β → Operation World' α}
    {f : β → Operation World α} (hsee : ∀ w, see (view w) = see' w)
    (h : MirrorsAt view (f' (see' w)) (f (see' w)) c w) :
    MirrorsAt view (observe see' >>= f') (observe see >>= f) c w := by
  show (f (see (view w))).run.run (c, view w) = _
  rw [hsee]
  exact h

/-- A change that there is nothing to see of. -/
lemma affect_bind {change : World' → World'} {f' : Unit → Operation World' α}
    (hchange : ∀ w, view (change w) = view w) (h : MirrorsAt view (f' ()) op c (change w)) :
    MirrorsAt view (affect change >>= f') op c w := by
  rw [MirrorsAt, hchange] at h
  exact h

end MirrorsAt

namespace Mirrors

variable {op' : Operation World' α} {op : Operation World α}

/-- What there is to see of where an operation leads is where the other one leads. -/
lemma leads (h : Mirrors view op' op) {P : Option α → SpindleContext → Prop} {c : SpindleContext}
    {w : World'} (hop : Leads op (fun r c _ => P r c) c (view w)) :
    Leads op' (fun r c _ => P r c) c w := by
  rw [Leads, h c w] at hop
  exact hop

lemma pure (a : α) : Mirrors view (Pure.pure a) (Pure.pure a) := fun _ _ => rfl

lemma bind {f' : α → Operation World' β} {f : α → Operation World β} (h : Mirrors view op' op)
    (hf : ∀ a, Mirrors view (f' a) (f a)) : Mirrors view (op' >>= f') (op >>= f) :=
  fun c w => MirrorsAt.bind (h c w) (.of_forall fun _ c w a _ => hf a c w)

lemma map {f : α → β} (h : Mirrors view op' op) : Mirrors view (f <$> op') (f <$> op) := by
  rw [map_eq_pure_bind, map_eq_pure_bind]
  exact h.bind fun a => .pure (f a)

lemma context : Mirrors view context context := fun _ _ => rfl

lemma update (f : SpindleContext → SpindleContext) : Mirrors view (update f) (update f) :=
  fun _ _ => rfl

lemma observe {f' : World' → α} {f : World → α} (h : ∀ w, f (view w) = f' w) :
    Mirrors view (observe f') (observe f) := by
  intro c w
  show (some (f (view w)), c, view w) = (some (f' w), c, view w)
  rw [h]

lemma affect {f' : World' → World'} {f : World → World} (h : ∀ w, f (view w) = view (f' w)) :
    Mirrors view (affect f') (affect f) := by
  intro c w
  show (some (), c, f (view w)) = (some (), c, view (f' w))
  rw [h]

lemma diverge : Mirrors view (diverge : Operation World' α) diverge := fun _ _ => rfl

variable {env' : Surroundings World'} {env : Surroundings World} {s : Spindle}
  (h : env'.Mirrors view env)

include h

/-! ## Sending -/

lemma exchange (request : Request) (mode : SendMode) :
    Mirrors view (exchange env' request mode) (exchange env request mode) :=
  fun c w => h.send request mode c w

lemma sendOnce (request : Request) :
    Mirrors view (sendOnce (Operation.exchange env') request)
      (sendOnce (Operation.exchange env) request) := by
  refine (exchange h request .nonBlocking).bind fun result => ?_
  cases result <;> exact .pure _

lemma attempt (request : Request) (mark : Nat → SpindleContext → SpindleContext) (left : Nat) :
    ∀ number last,
      Mirrors view
        (attempt (Operation.exchange env' request .blocking) (fun n => Operation.update (mark n))
          left number last)
        (attempt (Operation.exchange env request .blocking) (fun n => Operation.update (mark n))
          left number last) := by
  induction left with
  | zero => exact fun _ last => .pure _
  | succ left ih =>
      intro number last
      refine (exchange h request .blocking).bind fun result => ?_
      cases result with
      | ok reply => exact .pure _
      | error e => exact (update (mark number)).bind fun _ => ih (number + 1) e

lemma sendRepeatedly (request : Request) (retries : Nat)
    (mark : Nat → SpindleContext → SpindleContext) :
    Mirrors view
      (sendRepeatedly (Operation.exchange env') request retries fun n => Operation.update (mark n))
      (sendRepeatedly (Operation.exchange env) request retries fun n =>
        Operation.update (mark n)) := by
  refine (attempt h request mark _ 1 .timeout).bind fun result => ?_
  cases result <;> exact .pure _

lemma exchangeSpeed (request : Request) (blocking : Bool) :
    Mirrors view (s.exchangeSpeed env' request blocking)
      (s.exchangeSpeed env request blocking) := by
  cases blocking with
  | true => exact sendRepeatedly h request s.retries _
  | false => exact (sendOnce h request).map

lemma sendSpeed {onReply' : Reply → Operation World' Unit} {onReply : Reply → Operation World Unit}
    (hReply : ∀ reply, Mirrors view (onReply' reply) (onReply reply)) (rpm : Binary32)
    (blocking : Bool) :
    Mirrors view (s.sendSpeed env' onReply' rpm blocking)
      (s.sendSpeed env onReply rpm blocking) := by
  refine Mirrors.context.bind fun c => ?_
  split
  · exact .pure _
  split
  · exact .pure _
  refine (update _).bind fun _ => (exchangeSpeed h _ blocking).bind fun outcome => ?_
  refine (observe h.tolerance).bind fun tolerance => (update _).bind fun _ => ?_
  rcases outcome with e | _ | reply
  · exact (affect h.raiseAlarm).bind fun _ => .pure _
  · exact .pure _
  · exact (hReply reply).bind fun _ => .pure _

/-! ## Replies -/

omit h in
lemma enqueue (reply : Reply) :
    Mirrors view (Spindle.enqueue reply : Operation World' Unit) (Spindle.enqueue reply) :=
  update _

lemma heed (finding : Finding) : Mirrors view (s.heed env' finding) (s.heed env finding) := by
  have hreissue :
      Mirrors view (s.reissue env' finding.reissue?) (s.reissue env finding.reissue?) := by
    cases finding.reissue? with
    | none => exact .pure _
    | some rpm => exact (sendSpeed h enqueue rpm false).bind fun _ => .pure _
  refine hreissue.bind fun _ => ?_
  split
  · exact affect h.raiseAlarm
  · exact .pure _

lemma readReply : Mirrors view (s.readReply env') (s.readReply env) := by
  refine (observe h.isColdStart).bind fun coldStart => Mirrors.context.bind fun c => ?_
  split
  · exact (update _).bind fun _ => .pure _
  · refine (affect fun w => h.journal _ coldStart c w).bind fun _ => (update _).bind fun _ => ?_
    exact (heed h _).bind fun _ => .pure _

lemma readReplies (patience : Nat) :
    Mirrors view (s.readReplies env' patience) (s.readReplies env patience) := by
  induction patience with
  | zero => exact diverge
  | succ n ih =>
      refine (readReply h).bind fun more => ?_
      split
      · exact ih
      · exact .pure _

lemma deliver (patience : Nat) (reply : Reply) :
    Mirrors view (s.deliver env' patience reply) (s.deliver env patience reply) := by
  refine (enqueue reply).bind fun _ => Mirrors.context.bind fun c => ?_
  split
  · exact (update _).bind fun _ => readReplies h patience
  · exact .pure _

/-! ## Calls -/

section

variable {onReply' : Reply → Operation World' Unit} {onReply : Reply → Operation World Unit}
  (hReply : ∀ reply, Mirrors view (onReply' reply) (onReply reply))

include hReply

omit h in
lemma handOver (reply? : Option Reply) :
    Mirrors view (Spindle.handOver onReply' reply?) (Spindle.handOver onReply reply?) := by
  cases reply? with
  | none => exact .pure _
  | some reply => exact hReply reply

lemma setStateWith (state : SpindleState) (rpm : Binary32) :
    Mirrors view (s.setStateWith env' onReply' state rpm)
      (s.setStateWith env onReply state rpm) := by
  refine Mirrors.context.bind fun c => ?_
  split
  · exact .pure _
  split
  · exact .pure _
  refine (update _).bind fun _ => (sendRepeatedly h _ s.retries _).bind fun outcome => ?_
  rcases outcome with e | reply?
  · exact (update _).bind fun _ => (affect h.raiseAlarm).bind fun _ => .pure _
  · exact (update _).bind fun _ => (handOver hReply reply?).bind fun _ =>
      sendSpeed h hReply rpm true

lemma getStateWith : Mirrors view (s.getStateWith env' onReply') (s.getStateWith env onReply) := by
  refine (observe h.elapsed).bind fun now => Mirrors.context.bind fun c => ?_
  have htold : Mirrors view
      (do
        Operation.update fun c =>
          { c with state := { c.state with atSpeed := c.data.commanded.atSpeed } }
        return (← Operation.context).state)
      (do
        Operation.update fun c =>
          { c with state := { c.state with atSpeed := c.data.commanded.atSpeed } }
        return (← Operation.context).state) :=
    (update _).bind fun _ => Mirrors.context.bind fun c => .pure _
  split
  · refine (update _).bind fun _ => (sendOnce h _).bind fun reply? => ?_
    exact (handOver hReply reply?).bind fun _ => htold
  · exact htold

lemma requestMaxSpeedWith :
    Mirrors view (s.requestMaxSpeedWith env' onReply') (s.requestMaxSpeedWith env onReply) := by
  refine Mirrors.context.bind fun c => ?_
  split
  · exact .pure _
  split
  · refine (sendOnce h _).bind fun reply? => ?_
    exact (handOver hReply reply?).bind fun _ => .pure _
  · exact .pure _

lemma bindWith (selection : Selection) :
    Mirrors view (s.bindWith env' onReply' selection) (s.bindWith env onReply selection) := by
  rw [Spindle.bindWith, Spindle.bindWith]
  split
  · exact update _
  refine (update _).bind fun _ => (affect h.silence).bind fun _ => ?_
  split
  · exact (requestMaxSpeedWith h hReply).bind fun _ => .pure _
  · exact .pure _

/-- **Every call does the same** if whoever receives the replies does. -/
theorem carryOutWith (call : HostCall) :
    Mirrors view (s.carryOutWith env' onReply' call) (s.carryOutWith env onReply call) := by
  cases call with
  | bind selection => exact (bindWith h hReply selection).map
  | applySettings settings changed =>
      refine map ?_
      rw [Spindle.applySettings, Spindle.applySettings]
      split
      · exact (affect fun w => h.setTolerance _ w).bind fun _ => update _
      · exact .pure _
  | setState state rpm => exact (setStateWith h hReply state rpm).map
  | setSpeed rpm blocking => exact (sendSpeed h hReply rpm blocking).map
  | getState => exact (getStateWith h hReply).map
  | getData => exact (Mirrors.context.bind fun c => .pure _).map
  | requestMaxSpeed => exact (requestMaxSpeedWith h hReply).map
  | deliver reply => exact (hReply reply).map

end

/-- So it does with the driver as the receiver. -/
theorem carryOut (patience : Nat) (call : HostCall) :
    Mirrors view (s.carryOut env' patience call) (s.carryOut env patience call) := by
  rw [Spindle.carryOut_eq_with, Spindle.carryOut_eq_with]
  exact carryOutWith h (deliver h patience) call

end Mirrors

end Operation

end SpindleDrive
