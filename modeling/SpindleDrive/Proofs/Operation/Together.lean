import SpindleDrive.Proofs.Operation.Leads

/-!
# Two operations side by side

To compare two runs of the driver, each in a world of its own, they are walked through together:
`Together` says that both come back, and how their results and ends are related.  The two programs
need not be the same.

* `Operation.Together` — both operations come back, related by `R`.
* `Together.bind`, `Together.step_left`, `Together.step_right` — a piece of both programs, or of
  one of them, is done first.
* `together_update_left` and its like — the steps that always come back, one side at a time.
-/

namespace SpindleDrive

namespace Operation

variable {World World' α β γ δ : Type}

/-- A spindle's state with the world around it. -/
abbrev Stand (World : Type) : Type := SpindleContext × World

/-- **Both operations come back**, with results and ends that are related. -/
def Together (first : Operation World α) (second : Operation World' β)
    (R : α → β → Stand World → Stand World' → Prop) (x : Stand World) (y : Stand World') : Prop :=
  ∃ a x' b y', first.run.run x = (some a, x') ∧ second.run.run y = (some b, y') ∧ R a b x' y'

section Rules

variable {first : Operation World α} {second : Operation World' β}
  {M : α → β → Stand World → Stand World' → Prop} {R : γ → δ → Stand World → Stand World' → Prop}
  {x : Stand World} {y : Stand World'}

/-- An operation that comes back goes on with what follows it. -/
lemma run_bind_of_some {op : Operation World α} {f : α → Operation World γ} {a : α}
    {x' : Stand World} (h : op.run.run x = (some a, x')) :
    (op >>= f).run.run x = (f a).run.run x' := by
  simp only [OptionT.run_bind, Option.elimM, StateT.run_bind, h]
  rfl

lemma run_observe_bind {f : α → Operation World γ} (see : World → α) :
    (observe see >>= f).run.run x = (f (see x.2)).run.run x := rfl

lemma run_affect_bind {f : Unit → Operation World γ} (change : World → World) :
    (affect change >>= f).run.run x = (f ()).run.run (x.1, change x.2) := rfl

/-- What follows sees only how an operation ends. -/
lemma run_bind_congr {op op' : Operation World α} {f : α → Operation World γ}
    {x' : Stand World} (h : op.run.run x = op'.run.run x') :
    (op >>= f).run.run x = (op' >>= f).run.run x' := by
  simp only [OptionT.run_bind, Option.elimM, StateT.run_bind, h]

/-- A program may be replaced by one that ends in the same way. -/
lemma together_congr_left {M : α → β → Stand World → Stand World' → Prop}
    {first' : Operation World α} {x' : Stand World} (h : first.run.run x = first'.run.run x') :
    Together first second M x y ↔ Together first' second M x' y := by
  rw [Together, Together, h]

lemma together_congr_right {M : α → β → Stand World → Stand World' → Prop}
    {second' : Operation World' β} {y' : Stand World'}
    (h : second.run.run y = second'.run.run y') :
    Together first second M x y ↔ Together first second' M x y' := by
  rw [Together, Together, h]

lemma Together.mono {M' : α → β → Stand World → Stand World' → Prop}
    (h : Together first second M x y) (hM : ∀ a b x y, M a b x y → M' a b x y) :
    Together first second M' x y := by
  obtain ⟨a, x', b, y', hfirst, hsecond, hab⟩ := h
  exact ⟨a, x', b, y', hfirst, hsecond, hM a b x' y' hab⟩

/-- Two programs are walked through piece by piece. -/
lemma Together.bind {f : α → Operation World γ} {g : β → Operation World' δ}
    (h : Together first second M x y)
    (next : ∀ a b x y, M a b x y → Together (f a) (g b) R x y) :
    Together (first >>= f) (second >>= g) R x y := by
  obtain ⟨a, x', b, y', hfirst, hsecond, hab⟩ := h
  obtain ⟨c, x'', d, y'', hf, hg, hcd⟩ := next a b x' y' hab
  exact ⟨c, x'', d, y'', by rw [run_bind_of_some hfirst, hf], by rw [run_bind_of_some hsecond, hg],
    hcd⟩

lemma together_pure {c : γ} {d : δ} (h : R c d x y) :
    Together (pure c : Operation World γ) (pure d : Operation World' δ) R x y :=
  ⟨c, x, d, y, rfl, rfl, h⟩

/-- What a function makes of the results is seen by the relation. -/
lemma together_map {f : α → γ} {g : β → δ}
    (h : Together first second (fun a b => R (f a) (g b)) x y) :
    Together (f <$> first) (g <$> second) R x y := by
  rw [map_eq_pure_bind, map_eq_pure_bind]
  exact h.bind fun _ _ _ _ hab => together_pure hab

/-- The first program is done and the second goes on. -/
lemma Together.bind_right {R : α → δ → Stand World → Stand World' → Prop}
    {g : β → Operation World' δ} (h : Together first second M x y)
    (next : ∀ a b x y, M a b x y → Together (pure a) (g b) R x y) :
    Together first (second >>= g) R x y := by
  have hbind := h.bind next
  rwa [bind_pure] at hbind

/-- The second program is done and the first goes on. -/
lemma Together.bind_left {R : γ → β → Stand World → Stand World' → Prop}
    {f : α → Operation World γ} (h : Together first second M x y)
    (next : ∀ a b x y, M a b x y → Together (f a) (pure b) R x y) :
    Together (first >>= f) second R x y := by
  have hbind := h.bind next
  rwa [bind_pure] at hbind

end Rules

/-! ## Steps of one side -/

section Steps

variable {op : Operation World α} {other : Operation World' β}
  {R : α → β → Stand World → Stand World' → Prop} {x : Stand World} {y : Stand World'}

@[simp] lemma together_pure_bind_right {g : γ → Operation World' β} {b : γ} :
    Together op (pure b >>= g) R x y ↔ Together op (g b) R x y := by
  rw [pure_bind]

@[simp] lemma together_context_left {f : SpindleContext → Operation World α} :
    Together (context >>= f) other R x y ↔ Together (f x.1) other R x y :=
  Iff.rfl

@[simp] lemma together_context_right {g : SpindleContext → Operation World' β} :
    Together op (context >>= g) R x y ↔ Together op (g y.1) R x y :=
  Iff.rfl

@[simp] lemma together_update_left {f : Unit → Operation World α}
    (change : SpindleContext → SpindleContext) :
    Together (update change >>= f) other R x y ↔ Together (f ()) other R (change x.1, x.2) y :=
  Iff.rfl

@[simp] lemma together_update_right {g : Unit → Operation World' β}
    (change : SpindleContext → SpindleContext) :
    Together op (update change >>= g) R x y ↔ Together op (g ()) R x (change y.1, y.2) :=
  Iff.rfl

/-- A change with which the first program ends. -/
lemma together_update_only (change : SpindleContext → SpindleContext)
    {R : Unit → β → Stand World → Stand World' → Prop} :
    Together (update change) other R x y ↔ Together (pure ()) other R (change x.1, x.2) y :=
  Iff.rfl

@[simp] lemma together_observe_left {f : γ → Operation World α} (see : World → γ) :
    Together (observe see >>= f) other R x y ↔ Together (f (see x.2)) other R x y :=
  Iff.rfl

@[simp] lemma together_observe_right {g : γ → Operation World' β} (see : World' → γ) :
    Together op (observe see >>= g) R x y ↔ Together op (g (see y.2)) R x y :=
  Iff.rfl

@[simp] lemma together_affect_left {f : Unit → Operation World α} (change : World → World) :
    Together (affect change >>= f) other R x y ↔ Together (f ()) other R (x.1, change x.2) y :=
  Iff.rfl

@[simp] lemma together_affect_right {g : Unit → Operation World' β} (change : World' → World') :
    Together op (affect change >>= g) R x y ↔ Together op (g ()) R x (y.1, change y.2) :=
  Iff.rfl

end Steps

end Operation

end SpindleDrive
