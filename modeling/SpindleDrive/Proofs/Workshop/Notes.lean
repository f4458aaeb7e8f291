import SpindleDrive.Proofs.Operation.Upkeep
import SpindleDrive.Proofs.Workshop.Basic

/-!
# The course of an exchange in a workshop

What is noted stays noted, and what the transport's calls into spindles can do during an exchange
is bounded: none of them is traffic, and none moves an operation on.

* `Scene.traffic` — the notes of calls by the host and of exchanges.
* `Scene.IsKept` — a condition on scenes that does not depend on the world or on notes that are
  no traffic.
* `exists_made_call` — the notes after a call are those before it with some more.
* `of_reenter`, `of_reenterAll` — what the calls from inside an exchange bring about.
* **`leads_exchange_within`** — the rule of one exchange: what lasts while the transport makes its
  calls, and what they bring about if they come back.
* **`leads_exchange`** — so an exchange adds its sending and its end to the traffic, and leaves
  every spindle as it stands.
* `leads_exchange_of` — the rule where nothing need be said of exchanges that never end.
-/

namespace SpindleDrive

namespace Note

variable {ι : Type}

/-- Whether a note is of a call by the host or of an exchange. -/
def isTraffic : Note ι → Bool
  | called .. | sending .. | exchanged .. => true
  | read .. | alarm .. => false

end Note

namespace Scene

variable {ι World : Type}

/-- The notes of calls by the host and of exchanges, the latest first. -/
def traffic (σ : Scene ι World) : List (Note ι) := σ.notes.filter Note.isTraffic

lemma traffic_note (σ : Scene ι World) (n : Note ι) :
    (σ.note n).traffic = if n.isTraffic then n :: σ.traffic else σ.traffic := by
  rw [traffic, note_notes, List.filter_cons]
  rfl

/-- Not touched by the world or by notes that are no traffic. -/
structure IsKept (I : Scene ι World → Prop) : Prop where
  world : ∀ σ world, I σ → I { σ with world }
  note : ∀ σ n, n.isTraffic = false → I σ → I (σ.note n)

/-- The traffic is such a thing. -/
lemma isKept_traffic (t : List (Note ι)) : IsKept fun σ : Scene ι World => σ.traffic = t where
  world _ _ h := h
  note σ n hn h := by rw [traffic_note, hn, ← h]; rfl

/-- So are the states of the spindles, which only calls change. -/
lemma isKept_contexts (contexts : ι → SpindleContext) :
    IsKept fun σ : Scene ι World => σ.contexts = contexts where
  world _ _ h := h
  note _ _ _ h := h

/-- That something has been noted is touched by no note at all. -/
lemma isKept_suffix (t : List (Note ι)) :
    IsKept fun σ : Scene ι World => ∃ made, σ.notes = made ++ t where
  world _ _ h := h
  note := by
    rintro σ n - ⟨made, h⟩
    exact ⟨n :: made, by rw [note_notes, h, List.cons_append]⟩

end Scene

namespace Workshop

open Operation

variable {ι World : Type} {shop : Workshop ι World} {patience : Nat} {i : ι}

lemma quiet_isTaken (shop : Workshop ι World) (i : ι) : (shop.quiet i).IsTaken :=
  fun _ _ _ _ => rfl

/-! ## What is kept -/

variable {I : Scene ι World → Prop} {σ : Scene ι World}

lemma quiet_keeps (shop : Workshop ι World) (i : ι) (hI : Scene.IsKept I) :
    (shop.quiet i).Keeps I where
  silence σ h := hI.world σ _ h
  send _ _ _ _ h := h
  journal _ _ _ σ h := hI.note _ _ rfl (hI.world σ _ h)
  raiseAlarm σ h := hI.note _ _ rfl (hI.world σ _ h)
  setTolerance _ σ h := hI.world σ _ h

variable [DecidableEq ι]

lemma keeps_reenter (shop : Workshop ι World) (patience : Nat) (hI : ∀ i, (shop.quiet i).Keeps I)
    (hput : ∀ σ i c, I σ → I (σ.put i c)) (i : ι) (call : InnerCall) (h : I σ) :
    I (shop.reenter patience i call σ).2 := by
  rw [reenter]
  split
  · exact h
  · rename_i call _
    have hkept := (hI i).leads_carryOut (s := shop.spindle i) (c := σ.contexts i) patience call h
    exact hput _ _ _ hkept

lemma keeps_reenterAll (shop : Workshop ι World) (patience : Nat)
    (hI : ∀ i, (shop.quiet i).Keeps I) (hput : ∀ σ i c, I σ → I (σ.put i c))
    (calls : List (ι × InnerCall)) :
    ∀ σ, I σ → I (shop.reenterAll patience calls σ).2 := by
  induction calls with
  | nil => exact fun σ h => h
  | cons call rest ih =>
      intro σ h
      have hfirst := shop.keeps_reenter patience hI hput call.1 call.2 h
      rw [reenterAll]
      split
      · rename_i σ' hσ'
        rw [hσ'] at hfirst
        exact ih σ' hfirst
      · rename_i σ' hσ'
        rw [hσ'] at hfirst
        exact hfirst

/-- What no note touches is kept by everything that a spindle sees. -/
lemma surroundings_keeps (hI : Scene.IsKept I) (hput : ∀ σ i c, I σ → I (σ.put i c))
    (hnote : ∀ σ n, I σ → I (σ.note n)) : (shop.surroundings patience i).Keeps I where
  silence := (shop.quiet_keeps i hI).silence
  journal := (shop.quiet_keeps i hI).journal
  raiseAlarm := (shop.quiet_keeps i hI).raiseAlarm
  setTolerance := (shop.quiet_keeps i hI).setTolerance
  send request mode c σ h := by
    have hall := shop.keeps_reenterAll patience (fun i => shop.quiet_keeps i hI) hput
      (shop.calls i request mode ((σ.put i c).note (.sending i request mode (σ.put i c).contexts)))
      _ (hnote _ (.sending i request mode (σ.put i c).contexts) (hput σ i c h))
    simp only [surroundings, exchange]
    split
    · rename_i σ' hσ'
      rw [hσ'] at hall
      rw [finish]
      split
      · exact hnote _ _ (hI.world σ' _ hall)
      · exact hI.world σ' _ hall
    · rename_i σ' hσ'
      rw [hσ'] at hall
      exact hall

/-- Where a call by the host leads. -/
lemma exists_of_call {call : HostCall} {answer? : Option Answer} {σ' : Scene ι World}
    {Q : Option Answer → SpindleContext → Scene ι World → Prop}
    (h : Leads ((shop.spindle i).carryOut (shop.surroundings patience i) patience call) Q
      (σ.contexts i) (σ.note (.called i call)))
    (ends : shop.call patience i call σ = (answer?, σ')) :
    ∃ c σ'', Q answer? c σ'' ∧ σ' = σ''.put i c := by
  rw [Workshop.call] at ends
  obtain ⟨rfl, rfl⟩ := Prod.mk.inj ends
  exact ⟨_, _, h, rfl⟩

/-- **Nothing that is noted is taken back.** -/
lemma surroundings_grows (shop : Workshop ι World) (patience : Nat) (i : ι) (t : List (Note ι)) :
    (shop.surroundings patience i).Keeps fun σ' => ∃ made, σ'.notes = made ++ t := by
  refine surroundings_keeps (Scene.isKept_suffix t) (fun _ _ _ h => h) ?_
  rintro σ' n ⟨made, hmade⟩
  exact ⟨n :: made, by rw [Scene.note_notes, hmade, List.cons_append]⟩

/-- So a call leaves the notes that there are, and the note of itself. -/
lemma exists_made_call (shop : Workshop ι World) (patience : Nat) (i : ι) (call : HostCall)
    (σ : Scene ι World) :
    ∃ made, (shop.call patience i call σ).2.notes = made ++ (.called i call :: σ.notes) := by
  exact (shop.surroundings_grows patience i (.called i call :: σ.notes)).leads_carryOut
    (s := shop.spindle i) (c := σ.contexts i) (w := σ.note (.called i call)) patience call ⟨[], rfl⟩

/-! ## Calls from inside an exchange -/

/-- What a call from inside an exchange brings about if it comes back. -/
lemma of_reenter {R : Scene ι World → Prop} {call : InnerCall} (unsupported : R σ)
    (called : ∀ hostCall, call.asHost? = some hostCall →
      Leads ((shop.spindle i).carryOut (shop.quiet i) patience hostCall)
        (fun r c σ' => ∀ answer, r = some answer → R (σ'.put i c)) (σ.contexts i) σ)
    (back : (shop.reenter patience i call σ).1.isSome = true) :
    R (shop.reenter patience i call σ).2 := by
  rw [reenter] at back ⊢
  split at back
  · exact unsupported
  · rename_i hostCall hcall
    obtain ⟨answer, hanswer⟩ := Option.isSome_iff_exists.1 ((Option.isSome_map ..).symm.trans back)
    exact called hostCall hcall answer hanswer

/-- What each call brings about, all of them together do. -/
lemma of_reenterAll {R : Scene ι World → Scene ι World → Prop} (refl : ∀ σ, R σ σ)
    (trans : ∀ σ σ' σ'', R σ σ' → R σ' σ'' → R σ σ'')
    (step : ∀ i call σ, (shop.reenter patience i call σ).1.isSome = true →
      R σ (shop.reenter patience i call σ).2) (calls : List (ι × InnerCall)) :
    ∀ σ, (shop.reenterAll patience calls σ).1.isSome = true →
      R σ (shop.reenterAll patience calls σ).2 := by
  induction calls with
  | nil => exact fun σ _ => refl σ
  | cons call rest ih =>
      intro σ back
      have hfirst := step call.1 call.2 σ
      rw [reenterAll] at back ⊢
      split at back
      · rename_i σ' hσ'
        rw [hσ'] at hfirst
        exact trans σ σ' _ (hfirst rfl) (ih σ' back)
      · simp at back

/-- A call from inside an exchange leaves every spindle as it stands if it comes back. -/
lemma stands_reenter (shop : Workshop ι World) (patience : Nat) (i : ι) (call : InnerCall)
    (σ : Scene ι World) (back : (shop.reenter patience i call σ).1.isSome = true) (j : ι) :
    (σ.contexts j).Stands ((shop.reenter patience i call σ).2.contexts j) := by
  refine of_reenter (R := fun σ' => (σ.contexts j).Stands (σ'.contexts j)) (.refl _)
    (fun hostCall hcall => ?_) back
  have hinner := (shop.quiet_isTaken i).leads_inner (s := shop.spindle i) (c := σ.contexts i)
    (w := σ) patience hcall
  have hothers := (shop.quiet_keeps i (Scene.isKept_contexts σ.contexts)).leads_carryOut
    (s := shop.spindle i) (c := σ.contexts i) patience hostCall rfl
  refine (hinner.and hothers).mono ?_
  rintro r c σ' ⟨hinner, hothers⟩ answer rfl
  by_cases hj : j = i
  · subst hj
    simpa using (hinner answer rfl).1
  · rw [Scene.put_contexts_of_ne _ hj, hothers]
    exact .refl _

/-! ## One exchange -/

/-- **How an exchange ends.**  While the transport makes its calls `K` lasts, whether they come back
or not; if they do, what each of them brings about in `R` they bring about together, and the world
is as the transport leaves it. -/
theorem leads_exchange_within {request : Request} {mode : SendMode} {c : SpindleContext}
    {Q : Option Exchange → SpindleContext → Scene ι World → Prop} {K : Scene ι World → Prop}
    {R : Scene ι World → Scene ι World → Prop} (quiet : ∀ j, (shop.quiet j).Keeps K)
    (put : ∀ σ j c, K σ → K (σ.put j c)) (refl : ∀ σ, R σ σ)
    (trans : ∀ σ σ' σ'', R σ σ' → R σ' σ'' → R σ σ'')
    (step : ∀ j call σ, (shop.reenter patience j call σ).1.isSome = true →
      R σ (shop.reenter patience j call σ).2)
    (begun : K ((σ.put i c).note (.sending i request mode (σ.put i c).contexts)))
    (lost : ∀ σ', ((shop.outside i).send request mode (σ'.contexts i) σ'.world).1 = none → K σ' →
      K { σ' with world := ((shop.outside i).send request mode (σ'.contexts i) σ'.world).2.2 })
    (hung : ∀ c' σ', K σ' → Q none c' σ')
    (ended : ∀ result σ',
      ((shop.outside i).send request mode (σ'.contexts i) σ'.world).1 = some result → K σ' →
      R ((σ.put i c).note (.sending i request mode (σ.put i c).contexts)) σ' →
      Q (some result) (σ'.contexts i)
        (Scene.note { σ' with
            world := ((shop.outside i).send request mode (σ'.contexts i) σ'.world).2.2 }
          (.exchanged i request mode result))) :
    Leads (Operation.exchange (shop.surroundings patience i) request mode) Q c σ := by
  rw [Operation.leads_exchange]
  have hcalls := of_reenterAll refl trans step
    (shop.calls i request mode ((σ.put i c).note (.sending i request mode (σ.put i c).contexts)))
    ((σ.put i c).note (.sending i request mode (σ.put i c).contexts))
  have hkept := shop.keeps_reenterAll patience quiet put
    (shop.calls i request mode ((σ.put i c).note (.sending i request mode (σ.put i c).contexts)))
    _ begun
  simp only [surroundings, exchange]
  split
  · rename_i σ' hσ'
    rw [hσ'] at hcalls hkept
    have hlost := lost σ'
    have hend := fun result => ended result σ'
    rw [finish]
    split
    · rename_i result c' world hsend
      rw [hsend] at hend
      exact hend result rfl hkept (hcalls rfl)
    · rename_i c' world hsend
      rw [hsend] at hlost
      exact hung _ _ (hlost rfl hkept)
  · rename_i σ' hσ'
    rw [hσ'] at hkept
    exact hung _ _ hkept

/-- **What an exchange does.**  Its sending is noted with the states of all spindles; if it ends,
its end is noted, and every spindle is as it stood. -/
theorem leads_exchange {request : Request} {mode : SendMode} {c : SpindleContext}
    {Q : Option Exchange → SpindleContext → Scene ι World → Prop}
    (hung : ∀ c' σ',
      σ'.traffic = .sending i request mode (σ.put i c).contexts :: σ.traffic → Q none c' σ')
    (ended : ∀ result c' σ', c.Stands c' →
      (∀ j, j ≠ i → (σ.contexts j).Stands (σ'.contexts j)) →
      σ'.traffic = .exchanged i request mode result ::
        .sending i request mode (σ.put i c).contexts :: σ.traffic →
      Q (some result) c' σ') :
    Leads (Operation.exchange (shop.surroundings patience i) request mode) Q c σ := by
  refine leads_exchange_within
    (K := fun σ' => σ'.traffic = .sending i request mode (σ.put i c).contexts :: σ.traffic)
    (R := fun σ σ' => ∀ j, (σ.contexts j).Stands (σ'.contexts j))
    (fun j => shop.quiet_keeps j (Scene.isKept_traffic _)) (fun _ _ _ htraffic => htraffic)
    (fun _ _ => .refl _) (fun _ _ _ h h' j => (h j).trans (h' j))
    (fun j call σ' back k => shop.stands_reenter patience j call σ' back k) (Scene.traffic_note ..)
    (fun _ _ htraffic => htraffic) (fun c' σ' htraffic => hung c' σ' htraffic) ?_
  intro result σ' _ htraffic hstands
  refine ended result _ _ (by simpa using hstands i) (fun j hj => ?_) ?_
  · simpa [Scene.put_contexts_of_ne _ hj] using hstands j
  · rw [Scene.traffic_note]
    exact congrArg (List.cons _) htraffic

/-- **How an exchange ends**, if it does: the calls that the transport makes have come back, which
brings about `R` if each of them does, and the world is as the transport leaves it. -/
theorem leads_exchange_of {request : Request} {mode : SendMode} {c : SpindleContext}
    {Q : Option Exchange → SpindleContext → Scene ι World → Prop}
    {R : Scene ι World → Scene ι World → Prop} (refl : ∀ σ, R σ σ)
    (trans : ∀ σ σ' σ'', R σ σ' → R σ' σ'' → R σ σ'')
    (step : ∀ i call σ, (shop.reenter patience i call σ).1.isSome = true →
      R σ (shop.reenter patience i call σ).2)
    (hung : ∀ c' σ', Q none c' σ')
    (ended : ∀ result σ', R ((σ.put i c).note (.sending i request mode (σ.put i c).contexts)) σ' →
      Q (some result) (σ'.contexts i)
        (Scene.note { σ' with
            world := ((shop.outside i).send request mode (σ'.contexts i) σ'.world).2.2 }
          (.exchanged i request mode result))) :
    Leads (Operation.exchange (shop.surroundings patience i) request mode) Q c σ :=
  leads_exchange_within (K := fun _ => True)
    (fun j => shop.quiet_keeps j ⟨fun _ _ _ => trivial, fun _ _ _ _ => trivial⟩)
    (fun _ _ _ _ => trivial) refl trans step trivial (fun _ _ _ => trivial)
    (fun c' σ' _ => hung c' σ') fun result σ' _ _ hcalls => ended result σ' hcalls

end Workshop

end SpindleDrive
