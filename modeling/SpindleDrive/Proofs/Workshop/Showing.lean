import SpindleDrive.Proofs.Operation.Mirroring
import SpindleDrive.Proofs.Workshop.Moments

/-!
# Workshops with more in them

If the world of a workshop is given a part that no spindle and no transport sees, the workshop does
what it did.  So something can be written down there that a statement about the workshop has to
speak of, and the statement is about the workshop as it was.

* `Scene.view` — what there is to see of a scene.
* `Workshop.Shows` — a workshop with more in it, whose spindles carry out the calls from inside an
  exchange as the other's do.
* **`Shows.surroundings`** — then every spindle has surroundings that show the same.
* **`Shows.call`** — and a call by the host that is carried out the same way comes to the same.
-/

namespace SpindleDrive

open Operation

variable {ι World World' : Type}

/-- What there is to see of a scene in a world with more in it. -/
def Scene.view (see : World' → World) (σ : Scene ι World') : Scene ι World where
  contexts := σ.contexts
  world := see σ.world
  notes := σ.notes

namespace Workshop

/-- **A workshop with more in it**, of which `see` shows what there is to see. -/
structure Shows (see : World' → World) (shop' : Workshop ι World') (carry' : Carrier ι World')
    (shop : Workshop ι World) (carry : Carrier ι World) : Prop where
  outside : ∀ i, (shop'.outside i).Mirrors see (shop.outside i)
  calls : ∀ i request mode σ, shop'.calls i request mode σ = shop.calls i request mode (σ.view see)
  inner : ∀ i inner call, InnerCall.asHost? inner = some call →
    Mirrors (Scene.view see) (carry' i (shop'.quiet i) call) (carry i (shop.quiet i) call)

namespace Shows

variable {see : World' → World} {shop' : Workshop ι World'} {carry' : Carrier ι World'}
  {shop : Workshop ι World} {carry : Carrier ι World}

/-- What a spindle sees while its bus is taken. -/
lemma quiet (outside : ∀ i, (shop'.outside i).Mirrors see (shop.outside i)) (i : ι) :
    (shop'.quiet i).Mirrors (Scene.view see) (shop.quiet i) where
  silence σ := congrArg (fun world => Scene.mk σ.contexts world σ.notes)
    ((outside i).silence σ.world)
  send _ _ _ _ := rfl
  elapsed σ := (outside i).elapsed σ.world
  isColdStart σ := (outside i).isColdStart σ.world
  journal reply coldStart c σ :=
    congrArg (fun world => Scene.mk σ.contexts world (.read i reply coldStart c :: σ.notes))
      ((outside i).journal reply coldStart c σ.world)
  raiseAlarm σ := congrArg (fun world => Scene.mk σ.contexts world (.alarm i :: σ.notes))
    ((outside i).raiseAlarm σ.world)
  tolerance σ := (outside i).tolerance σ.world
  setTolerance tolerance σ := congrArg (fun world => Scene.mk σ.contexts world σ.notes)
    ((outside i).setTolerance tolerance σ.world)

variable (h : Shows see shop' carry' shop carry)

include h

lemma finish (i : ι) (request : Request) (mode : SendMode) (σ : Scene ι World') :
    shop.finish i request mode (σ.view see) =
      ((shop'.finish i request mode σ).1, (shop'.finish i request mode σ).2.view see) := by
  have hsend := (h.outside i).send request mode (σ.contexts i) σ.world
  simp only [Workshop.finish]
  rw [show (σ.view see).contexts i = σ.contexts i from rfl,
    show (σ.view see).world = see σ.world from rfl, hsend]
  rcases (shop'.outside i).send request mode (σ.contexts i) σ.world with ⟨_ | result, c, world⟩
  · rfl
  · rfl

variable [DecidableEq ι]

lemma reenter (i : ι) (call : InnerCall) (σ : Scene ι World') :
    shop.reenterWith carry i call (σ.view see) =
      ((shop'.reenterWith carry' i call σ).1, (shop'.reenterWith carry' i call σ).2.view see) := by
  rw [reenterWith, reenterWith]
  split
  · rfl
  · rename_i hostCall hcall
    have hcarry := h.inner i call hostCall hcall (σ.contexts i) σ
    rw [show (σ.view see).contexts i = σ.contexts i from rfl, hcarry]
    rfl

lemma reenterAll (calls : List (ι × InnerCall)) :
    ∀ σ : Scene ι World', shop.reenterAllWith carry calls (σ.view see) =
      ((shop'.reenterAllWith carry' calls σ).1,
        (shop'.reenterAllWith carry' calls σ).2.view see) := by
  induction calls with
  | nil => exact fun σ => rfl
  | cons call rest ih =>
      intro σ
      rw [reenterAllWith, reenterAllWith, h.reenter]
      rcases shop'.reenterWith carry' call.1 call.2 σ with ⟨_ | _, σ'⟩
      · rfl
      · exact ih σ'

lemma exchange (i : ι) (request : Request) (mode : SendMode) (σ : Scene ι World') :
    shop.exchangeWith carry i request mode (σ.view see) =
      ((shop'.exchangeWith carry' i request mode σ).1,
        (shop'.exchangeWith carry' i request mode σ).2.view see) := by
  have hbegun : (σ.view see).note (.sending i request mode (σ.view see).contexts) =
    (σ.note (.sending i request mode σ.contexts)).view see := rfl
  simp only [exchangeWith, h.calls]
  rw [hbegun, h.reenterAll]
  rcases shop'.reenterAllWith carry'
    (shop.calls i request mode ((σ.note (.sending i request mode σ.contexts)).view see))
    (σ.note (.sending i request mode σ.contexts)) with ⟨_ | _, σ'⟩
  · rfl
  · exact h.finish i request mode σ'

/-- **What a spindle sees** of the two workshops is the same. -/
theorem surroundings (i : ι) :
    (shop'.surroundingsWith carry' i).Mirrors (Scene.view see) (shop.surroundingsWith carry i) where
  silence := (quiet h.outside i).silence
  send request mode c σ := by
    simp only [surroundingsWith]
    rw [show (σ.view see).put i c = (σ.put i c).view see from rfl, h.exchange]
    rfl
  elapsed := (quiet h.outside i).elapsed
  isColdStart := (quiet h.outside i).isColdStart
  journal := (quiet h.outside i).journal
  raiseAlarm := (quiet h.outside i).raiseAlarm
  tolerance := (quiet h.outside i).tolerance
  setTolerance := (quiet h.outside i).setTolerance

omit h in
/-- **A call by the host that is carried out the same way** comes to the same. -/
theorem call {i : ι} {call : HostCall}
    (hcarry : Mirrors (Scene.view see) (carry' i (shop'.surroundingsWith carry' i) call)
      (carry i (shop.surroundingsWith carry i) call)) (σ : Scene ι World') :
    shop.callWith carry i call (σ.view see) =
      ((shop'.callWith carry' i call σ).1, (shop'.callWith carry' i call σ).2.view see) := by
  have hcall := hcarry (σ.contexts i) (σ.note (.called i call))
  simp only [callWith]
  rw [show ((σ.view see).note (.called i call)).contexts i = σ.contexts i from rfl,
    show (σ.view see).note (.called i call) = (σ.note (.called i call)).view see from rfl, hcall]
  rfl

end Shows

end Workshop

end SpindleDrive
