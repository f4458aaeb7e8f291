import SpindleDrive.Proofs.Workshop.Notes

/-!
# Every moment of a run

A statement about a run may have to hold between its calls, at every moment of a call, and also
where a call has got to that never comes back.  So this file follows a scene through an exchange,
the states of all spindles included, and leaves open how a spindle carries out the calls that are
made meanwhile.

* `Carrier` — how the spindles of a workshop carry out calls.
* `Workshop.exchangeWith`, `Workshop.callWith` — an exchange and a call by the host, with any
  carrier.
* `Workshop.call_eq_with` — the carrier of a workshop is the driver.
* `Workshop.Lasts` — a condition that survives what happens inside an exchange.
* **`Lasts.leads_exchange`** — if it holds once the request is noted, it holds at the end, whether
  the exchange has come to one or not.
* `Workshop.Ends` — the scenes where a run can end.
-/

namespace SpindleDrive

open Operation

variable {ι World : Type}

/-- How spindles carry out calls in surroundings. -/
abbrev Carrier (ι World : Type) : Type :=
  ι → Surroundings (Scene ι World) → HostCall → Operation (Scene ι World) Answer

/-- A condition on scenes, for an operation of one spindle that has its state in hand. -/
def Scene.At [DecidableEq ι] (Φ : Scene ι World → Prop) (i : ι) (c : SpindleContext)
    (σ : Scene ι World) : Prop :=
  Φ (σ.put i c)

namespace Workshop

/-- The driver carries out the calls. -/
def driver (shop : Workshop ι World) (patience : Nat) : Carrier ι World :=
  fun i env call => (shop.spindle i).carryOut env patience call

variable [DecidableEq ι] (shop : Workshop ι World) (carry : Carrier ι World)

/-! ## With any carrier -/

/-- A call from inside an exchange. -/
def reenterWith (i : ι) (call : InnerCall) (σ : Scene ι World) : Option Unit × Scene ι World :=
  match call.asHost? with
  | none => (some (), σ)
  | some call =>
    match (carry i (shop.quiet i) call).run.run (σ.contexts i, σ) with
    | (answer?, c, σ) => (answer?.map fun _ => (), σ.put i c)

def reenterAllWith : List (ι × InnerCall) → Scene ι World → Option Unit × Scene ι World
  | [], σ => (some (), σ)
  | (i, call) :: rest, σ =>
    match shop.reenterWith carry i call σ with
    | (some (), σ) => reenterAllWith rest σ
    | (none, σ) => (none, σ)

/-- One exchange. -/
def exchangeWith (i : ι) (request : Request) (mode : SendMode) (σ : Scene ι World) :
    Option Exchange × Scene ι World :=
  let σ := σ.note (.sending i request mode σ.contexts)
  match shop.reenterAllWith carry (shop.calls i request mode σ) σ with
  | (some (), σ) => shop.finish i request mode σ
  | (none, σ) => (none, σ)

/-- The workshop as a spindle sees it. -/
def surroundingsWith (i : ι) : Surroundings (Scene ι World) :=
  { shop.quiet i with
    send := fun request mode c σ =>
      let (result, σ) := shop.exchangeWith carry i request mode (σ.put i c)
      (result, σ.contexts i, σ) }

/-- A call by the host. -/
def callWith (i : ι) (call : HostCall) (σ : Scene ι World) : Option Answer × Scene ι World :=
  let σ := σ.note (.called i call)
  let (answer, c, σ) := (carry i (shop.surroundingsWith carry i) call).run.run (σ.contexts i, σ)
  (answer, σ.put i c)

lemma reenterAll_eq_with (patience : Nat) (calls : List (ι × InnerCall)) :
    ∀ σ, shop.reenterAll patience calls σ =
      shop.reenterAllWith (shop.driver patience) calls σ := by
  induction calls with
  | nil => exact fun σ => rfl
  | cons call rest ih =>
      intro σ
      rw [reenterAll, reenterAllWith]
      rw [show shop.reenter patience call.1 call.2 σ =
        shop.reenterWith (shop.driver patience) call.1 call.2 σ from rfl]
      rcases shop.reenterWith (shop.driver patience) call.1 call.2 σ with ⟨_ | _, σ'⟩
      · rfl
      · exact ih σ'

lemma surroundings_eq_with (patience : Nat) (i : ι) :
    shop.surroundings patience i = shop.surroundingsWith (shop.driver patience) i := by
  have hexchange (request : Request) (mode : SendMode) (σ : Scene ι World) :
      shop.exchange patience i request mode σ =
        shop.exchangeWith (shop.driver patience) i request mode σ := by
    rw [exchangeWith, ← reenterAll_eq_with]
    rfl
  simp only [surroundings, surroundingsWith, hexchange]

/-- **The driver is the carrier** in every call. -/
lemma call_eq_with (patience : Nat) (i : ι) (call : HostCall) (σ : Scene ι World) :
    shop.call patience i call σ = shop.callWith (shop.driver patience) i call σ := by
  rw [Workshop.call, callWith, surroundings_eq_with]
  rfl

/-! ## A condition that lasts -/

/-- **What happens inside an exchange breaks no condition `Φ`**: neither the calls that a transport
makes, whether they come back or not, nor the end of the exchange. -/
structure Lasts (Φ : Scene ι World → Prop) : Prop where
  inner : ∀ i inner call σ, InnerCall.asHost? inner = some call → Φ σ →
    Leads (carry i (shop.quiet i) call) (fun _ => Scene.At Φ i) (σ.contexts i) σ
  finish : ∀ i request mode σ, Φ σ → Φ (shop.finish i request mode σ).2

namespace Lasts

variable {shop : Workshop ι World} {carry : Carrier ι World} {Φ : Scene ι World → Prop}

lemma reenter (h : shop.Lasts carry Φ) (i : ι) (call : InnerCall) (σ : Scene ι World) (hΦ : Φ σ) :
    Φ (shop.reenterWith carry i call σ).2 := by
  rw [reenterWith]
  split
  · exact hΦ
  · rename_i hostCall hcall
    exact h.inner i call hostCall σ hcall hΦ

lemma reenterAll (h : shop.Lasts carry Φ) (calls : List (ι × InnerCall)) :
    ∀ σ, Φ σ → Φ (shop.reenterAllWith carry calls σ).2 := by
  induction calls with
  | nil => exact fun σ hΦ => hΦ
  | cons call rest ih =>
      intro σ hΦ
      have hfirst := h.reenter call.1 call.2 σ hΦ
      rw [reenterAllWith]
      split
      · rename_i σ' hσ'
        rw [hσ'] at hfirst
        exact ih σ' hfirst
      · rename_i σ' hσ'
        rw [hσ'] at hfirst
        exact hfirst

/-- **An exchange keeps a condition that lasts** once its request is noted. -/
theorem leads_exchange (h : shop.Lasts carry Φ) {i : ι} {request : Request} {mode : SendMode}
    {c : SpindleContext} {σ : Scene ι World}
    (begun : Φ ((σ.put i c).note (.sending i request mode (σ.put i c).contexts))) :
    Leads (Operation.exchange (shop.surroundingsWith carry i) request mode)
      (fun _ => Scene.At Φ i) c σ := by
  have hall := h.reenterAll
    (shop.calls i request mode ((σ.put i c).note (.sending i request mode (σ.put i c).contexts)))
    _ begun
  have hend : Φ (shop.exchangeWith carry i request mode (σ.put i c)).2 := by
    rw [exchangeWith]
    split
    · rename_i σ' hσ'
      rw [hσ'] at hall
      exact h.finish i request mode σ' hall
    · rename_i σ' hσ'
      rw [hσ'] at hall
      exact hall
  rw [Operation.leads_exchange, Scene.At]
  simpa only [surroundingsWith, Scene.put, Function.update_eq_self] using hend

end Lasts

/-! ## Ends of runs -/

/-- **Where a run can end**: between calls, or wherever one more call has got to, whether it comes
back or not. -/
inductive Ends (start : Scene ι World) : Scene ι World → Prop where
  | between {σ : Scene ι World} (h : shop.Reaches start σ) : Ends start σ
  | within {σ : Scene ι World} (h : shop.Reaches start σ) (patience : Nat) (i : ι)
      (call : HostCall) : Ends start (shop.call patience i call σ).2

end Workshop

end SpindleDrive
