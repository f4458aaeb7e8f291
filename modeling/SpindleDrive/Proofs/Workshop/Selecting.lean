import SpindleDrive.Proofs.Workshop.Sending

/-!
# Spindles that take turns

The host tells all its spindles which of them is selected, one after the other, and each draws its
own conclusion: one takes the place, and all others leave it.  While the news goes round the spindle
that takes the place may already ask for its highest speed, though the one before may not have
heard yet.  Since no spindle sends of itself, only the new one ever does.

* `Enrolled` — spindles that have been set up with one register.
* `Observer`, `Workshop.broadcast` — whoever hears of selections, and the news that goes round.
* `Workshop.Hosts` — runs of a host that selects spindles and calls them.
* `takes_of_broadcast` — whoever is among the observers takes the place or leaves it.
* `Enrolled.unique` — no two spindles have one number.
* **`Workshop.selected_of_run`** — one spindle at most is selected, the one that was last announced,
  and it alone sends.
* `Workshop.pair` — two spindles of a kind that take turns.
-/

namespace SpindleDrive

open Operation

variable {ι World : Type}

/-- Whoever hears of selections: a spindle, or someone else with a part of the world. -/
inductive Observer (ι World : Type) where
  | spindle (i : ι)
  | other (hear : Selection → World → World)

/-- A call other than the news of a selection. -/
def HostCall.isBind : HostCall → Bool
  | bind _ => true
  | _ => false

/-- From one scene to another all requests are those of spindles that may send. -/
def Scene.OnlySends (may : ι → Prop) (σ σ' : Scene ι World) : Prop :=
  ∃ made, σ'.traffic = made ++ σ.traffic ∧
    ∀ i request mode contexts, .sending i request mode contexts ∈ made → may i

namespace Scene

variable {may may' : ι → Prop} {σ σ' σ'' : Scene ι World}

lemma OnlySends.mono (h : σ.OnlySends may σ') (hmay : ∀ i, may i → may' i) :
    σ.OnlySends may' σ' := by
  rcases h with ⟨made, hmade, hsenders⟩
  exact ⟨made, hmade, fun i request mode contexts hsending =>
    hmay i (hsenders i request mode contexts hsending)⟩

lemma OnlySends.refl (may : ι → Prop) (σ : Scene ι World) : σ.OnlySends may σ :=
  ⟨[], rfl, by simp⟩

lemma OnlySends.trans (h : σ.OnlySends may σ') (h' : σ'.OnlySends may σ'') :
    σ.OnlySends may σ'' := by
  rcases h with ⟨older, holder, hsenders⟩
  rcases h' with ⟨newer, hnewer, hsenders'⟩
  refine ⟨newer ++ older, by rw [hnewer, holder, List.append_assoc], ?_⟩
  intro i request mode contexts hsending
  rcases List.mem_append.1 hsending with hsending | hsending
  · exact hsenders' i request mode contexts hsending
  · exact hsenders i request mode contexts hsending

end Scene

namespace Workshop

/-- **Spindles set up with one register**, in the states that they have at first. -/
inductive Enrolled (shop : Workshop ι World) (contexts : ι → SpindleContext) :
    Registry → List ι → Prop where
  | empty : Enrolled shop contexts {} []
  | other {register register' : Registry} {members : List ι} (d : Descriptor) (id : SpindleId)
      (entered : register.register d = some (id, register'))
      (h : Enrolled shop contexts register members) : Enrolled shop contexts register' members
  | spindle {register register' : Registry} {members : List ι} (plan : SpindlePlan) (i : ι)
      (built : plan.build register = .ok ((shop.spindle i, contexts i), register'))
      (h : Enrolled shop contexts register members) :
      Enrolled shop contexts register' (i :: members)

variable [DecidableEq ι]

/-- The news of a selection goes round, from one observer to the next. -/
def broadcast (shop : Workshop ι World) (patience : Nat) (selection : Selection) :
    List (Observer ι World) → Scene ι World → Option Unit × Scene ι World
  | [], σ => (some (), σ)
  | .other hear :: rest, σ =>
    shop.broadcast patience selection rest { σ with world := hear selection σ.world }
  | .spindle i :: rest, σ =>
    match shop.call patience i (.bind selection) σ with
    | (some _, σ) => shop.broadcast patience selection rest σ
    | (none, σ) => (none, σ)

/-- Runs of a host that announces selections to its observers and calls spindles for anything else,
with the number that was announced last. -/
inductive Hosts (shop : Workshop ι World) (observers : List (Observer ι World))
    (start : Scene ι World) : Option SpindleId → Scene ι World → Prop where
  | refl : Hosts shop observers start none start
  | outside {id? : Option SpindleId} {σ : Scene ι World} (world : World)
      (h : Hosts shop observers start id? σ) : Hosts shop observers start id? { σ with world }
  | call {id? : Option SpindleId} {σ : Scene ι World} (patience : Nat) (i : ι) (call : HostCall)
      (answer : Answer) (plain : call.isBind = false) (h : Hosts shop observers start id? σ)
      (back : (shop.call patience i call σ).1 = some answer) :
      Hosts shop observers start id? (shop.call patience i call σ).2
  | select {id? : Option SpindleId} {σ : Scene ι World} (patience : Nat) (register : Registry)
      (id : SpindleId) (binding : UInt8) (selection : Selection)
      (chosen : register.select id binding = some selection)
      (h : Hosts shop observers start id? σ)
      (back : (shop.broadcast patience selection observers σ).1 = some ()) :
      Hosts shop observers start (some id) (shop.broadcast patience selection observers σ).2

/-! ## Numbers -/

section Numbers

variable {shop : Workshop ι World} {contexts : ι → SpindleContext} {register : Registry}
  {members : List ι}

omit [DecidableEq ι]

/-- The number of a spindle that is set up is the size of the register before. -/
lemma id_of_build {plan : SpindlePlan} {register' : Registry} {i : ι} {c : SpindleContext}
    (built : plan.build register = .ok ((shop.spindle i, c), register')) :
    (shop.spindle i).id.value.toNat = register.size ∧ register'.size = register.size + 1 := by
  rcases SpindlePlan.build_eq_ok built with ⟨-, id, hregister, hmake⟩
  rw [Spindle.make_id hmake]
  exact Registry.size_of_register hregister

lemma Enrolled.id_lt (h : shop.Enrolled contexts register members) :
    ∀ i ∈ members, (shop.spindle i).id.value.toNat < register.size := by
  induction h with
  | empty => simp
  | other d id entered _ ih =>
      intro i hi
      have hlt := ih i hi
      rcases Registry.size_of_register entered with ⟨-, hsize⟩
      omega
  | spindle plan i built _ ih =>
      rcases id_of_build built with ⟨hid, hsize⟩
      intro j hj
      rcases List.mem_cons.1 hj with rfl | hj
      · omega
      · have hlt := ih j hj
        omega

/-- **No two spindles have one number**: each is the first free one, and the numbers go up. -/
theorem Enrolled.unique (h : shop.Enrolled contexts register members) :
    ∀ i ∈ members, ∀ j ∈ members, (shop.spindle i).id = (shop.spindle j).id → i = j := by
  induction h with
  | empty => simp
  | other _ _ _ _ ih => exact ih
  | @spindle register register' members plan i built h ih =>
      rcases id_of_build built with ⟨hid, -⟩
      have hnew (j : ι) (hj : j ∈ members) : (shop.spindle j).id ≠ (shop.spindle i).id := by
        intro heq
        have hlt := h.id_lt j hj
        rw [heq, hid] at hlt
        omega
      intro j hj k hk heq
      rcases List.mem_cons.1 hj with rfl | hj'
      · rcases List.mem_cons.1 hk with rfl | hk'
        · rfl
        · exact absurd heq.symm (hnew k hk')
      · rcases List.mem_cons.1 hk with rfl | hk'
        · exact absurd heq (hnew j hj')
        · exact ih j hj' k hk' heq

/-- A spindle that has been set up is not selected yet. -/
lemma Enrolled.unselected (h : shop.Enrolled contexts register members) :
    ∀ i ∈ members, (contexts i).isSelected = false := by
  induction h with
  | empty => simp
  | other _ _ _ _ ih => exact ih
  | spindle plan i built _ ih =>
      intro j hj
      rcases List.mem_cons.1 hj with rfl | hj
      · rcases SpindlePlan.build_eq_ok built with ⟨-, id, -, hmake⟩
        rw [(Spindle.make_eq_ok hmake).2.2]
        rfl
      · exact ih j hj

end Numbers

/-! ## One call -/

variable {shop : Workshop ι World} {patience : Nat} {i j : ι} {σ σ' : Scene ι World}

/-- Only the spindle that is called sends, and only if it is selected or takes its place. -/
lemma onlySends_of_call (shop : Workshop ι World) (patience : Nat) (i : ι) (call : HostCall)
    (σ : Scene ι World) :
    σ.OnlySends
      (fun j => j = i ∧ ((shop.spindle i).hear (σ.contexts i).post call).selection.isSome = true)
      (shop.call patience i call σ).2 := by
  rcases shop.works_of_call patience i call σ with ⟨made, hmade, hown⟩
  refine ⟨made ++ [.called i call], by rw [hmade]; simp, ?_⟩
  intro j request mode contexts hsending
  rcases List.mem_append.1 hsending with hsending | hsending
  · rcases hown _ hsending with ⟨hj, hselected, -⟩
    exact ⟨hj, hselected⟩
  · simp at hsending

/-- A call that is no news of a selection leaves all spindles in their places or out of them. -/
lemma isSelected_of_call {call : HostCall} {answer : Answer} (plain : call.isBind = false)
    (back : shop.call patience j call σ = (some answer, σ')) (i : ι) :
    (σ'.contexts i).isSelected = (σ.contexts i).isSelected := by
  have hpost : (σ'.contexts i).post = (σ.contexts i).post := by
    by_cases hj : j = i
    · subst hj
      rw [post_of_call back]
      cases call with
      | bind => simp [HostCall.isBind] at plain
      | _ => rfl
    · exact post_of_call_of_ne back hj
  exact congrArg (·.selection.isSome) hpost

/-- A spindle that hears of a selection takes the place if the number is its own, and leaves it if
not. -/
lemma isSelected_of_bind {selection : Selection} {answer : Answer}
    (back : shop.call patience i (.bind selection) σ = (some answer, σ')) :
    (σ'.contexts i).isSelected = true ↔ selection.id = (shop.spindle i).id := by
  have hpost : (σ'.contexts i).isSelected =
      ((shop.spindle i).hear (σ.contexts i).post (.bind selection)).selection.isSome :=
    congrArg (·.selection.isSome) (post_of_call back)
  rw [hpost, Spindle.hear]
  split
  · simpa
  · simpa

/-! ## One broadcast -/

/-- **While news goes round, only the spindle that it is about sends.** -/
theorem onlySends_of_broadcast (shop : Workshop ι World) (patience : Nat) (selection : Selection)
    (observers : List (Observer ι World)) :
    ∀ σ : Scene ι World, σ.OnlySends (fun i => (shop.spindle i).id = selection.id)
      (shop.broadcast patience selection observers σ).2 := by
  induction observers with
  | nil => exact fun σ => .refl _ σ
  | cons observer rest ih =>
      intro σ
      cases observer with
      | other hear => exact ih { σ with world := hear selection σ.world }
      | spindle i =>
          have hcall : σ.OnlySends (fun i => (shop.spindle i).id = selection.id)
              (shop.call patience i (.bind selection) σ).2 := by
            refine (shop.onlySends_of_call patience i (.bind selection) σ).mono ?_
            intro j hj
            rcases hj with ⟨rfl, htakes⟩
            by_contra hother
            rw [Spindle.hear, if_neg (Ne.symm hother)] at htakes
            simp at htakes
          rw [broadcast]
          split
          · rename_i answer σ' hback
            rw [hback] at hcall
            exact hcall.trans (ih σ')
          · rename_i σ' hback
            rw [hback] at hcall
            exact hcall

/-- **Whoever is among the observers takes the place or leaves it**, and nobody undoes this. -/
theorem takes_of_broadcast {selection : Selection} {observers : List (Observer ι World)} :
    ∀ σ : Scene ι World,
      (.spindle i ∈ observers ∨
        ((σ.contexts i).isSelected = true ↔ selection.id = (shop.spindle i).id)) →
      (shop.broadcast patience selection observers σ).1 = some () →
      (((shop.broadcast patience selection observers σ).2.contexts i).isSelected = true ↔
        selection.id = (shop.spindle i).id) := by
  induction observers with
  | nil => simp [broadcast]
  | cons observer rest ih =>
      intro σ hi
      cases observer with
      | other hear =>
          refine ih { σ with world := hear selection σ.world } ?_
          simpa using hi
      | spindle j =>
          rw [broadcast]
          split
          · rename_i answer σ' hback
            refine ih σ' ?_
            by_cases hj : j = i
            · subst hj
              exact .inr (isSelected_of_bind hback)
            · have hpost := post_of_call_of_ne hback hj
              rcases hi with hi | hi
              · rcases List.mem_cons.1 hi with hi | hi
                · cases hi
                  exact absurd rfl hj
                · exact .inl hi
              · rw [SpindleContext.isSelected, show (σ'.contexts i).selection = _ from
                  congrArg Post.selection hpost]
                exact .inr hi
          · simp

/-! ## Runs -/

/-- The spindle that was announced last is selected, and no other. -/
lemma Hosts.isSelected {observers : List (Observer ι World)} {start : Scene ι World}
    {id? : Option SpindleId} (h : shop.Hosts observers start id? σ)
    (hstart : ∀ i, (start.contexts i).isSelected = false)
    (heard : ∀ i, .spindle i ∈ observers) :
    ∀ i, (σ.contexts i).isSelected = true ↔ id? = some (shop.spindle i).id := by
  induction h with
  | refl => simp [hstart]
  | outside world _ ih => exact ih
  | call patience j call answer plain _ back ih =>
      intro i
      rw [isSelected_of_call plain (Prod.ext back rfl) i]
      exact ih i
  | select patience register id binding selection chosen _ back _ =>
      intro i
      rw [takes_of_broadcast _ (.inl (heard i)) back, Registry.id_of_select chosen]
      simp

/-- **One spindle at a time.**  All spindles of a workshop have been set up with one register, and
all hear of selections, in any order and between any others.  The host selects spindles, whether
they are of this workshop or not, and calls them for anything and at any time.  Then a spindle is
selected exactly if it is the one that was announced last, and there is no more than one.  From the
moment of an announcement to the next all requests are those of the spindle with that number: none
are handed over if no spindle of the workshop has it, and none before the first announcement. -/
theorem selected_of_run (shop : Workshop ι World) {register : Registry} {members : List ι}
    {observers : List (Observer ι World)} {start σ : Scene ι World} {id? : Option SpindleId}
    (enrolled : shop.Enrolled start.contexts register members) (all : ∀ i, i ∈ members)
    (heard : ∀ i, .spindle i ∈ observers) (run : shop.Hosts observers start id? σ) :
    (∀ i, (σ.contexts i).isSelected = true ↔ id? = some (shop.spindle i).id) ∧
    (∀ i j, (σ.contexts i).isSelected = true → (σ.contexts j).isSelected = true → i = j) ∧
    (∀ patience i call, call.isBind = false →
      σ.OnlySends (fun j => id? = some (shop.spindle j).id) (shop.call patience i call σ).2) ∧
    ∀ patience (register : Registry) id binding selection,
      register.select id binding = some selection →
      σ.OnlySends (fun j => (shop.spindle j).id = id)
        (shop.broadcast patience selection observers σ).2 := by
  have hselected := run.isSelected (fun i => enrolled.unselected i (all i)) heard
  refine ⟨hselected, ?_, ?_, ?_⟩
  · intro i j hi hj
    have hid := ((hselected i).1 hi).symm.trans ((hselected j).1 hj)
    exact enrolled.unique i (all i) j (all j) (Option.some.inj hid)
  · intro patience i call plain
    refine (shop.onlySends_of_call patience i call σ).mono ?_
    intro j hj
    rcases hj with ⟨rfl, hsends⟩
    refine (hselected j).1 ?_
    cases call with
    | bind => simp [HostCall.isBind] at plain
    | _ => exact hsends
  · intro patience register id binding selection chosen
    rw [← Registry.id_of_select chosen]
    exact shop.onlySends_of_broadcast patience selection observers σ

/-! ## Two spindles on a dead line -/

/-- One of two spindles of a kind, which ask for their highest speed when they are selected. -/
def pairSpindle (second : Bool) : Spindle × SpindleContext :=
  (Spindle.make ⟨if second then 1 else 0⟩ { retries := 2, queryMaxOnSelect := true }).toOption.get
    (by cases second <;> rfl)

/-- Both of them on a bus that never comes up. -/
def pair : Workshop Bool Unit where
  spindle second := (pairSpindle second).1
  outside _ := dead.outside ()
  calls _ _ _ _ := []

def pairStart : Scene Bool Unit where
  contexts second := (pairSpindle second).2
  world := ()

/-- The register of the two, with a spindle of another kind after them. -/
def pairRegister : Registry :=
  ⟨[⟨"Yalang VFD YL620A", .drive, .zero⟩, ⟨"Yalang VFD YL620A", .drive, .zero⟩,
    ⟨"PWM", {}, .zero⟩]⟩

/-- Those who hear of selections there, the second spindle before the first. -/
def pairObservers : List (Observer Bool Unit) :=
  [.other fun _ w => w, .spindle true, .spindle false]

/-- The first spindle is announced and given a speed, and then the second is announced, which is
selected while the first is not.  During the news of the first one requests are handed over, all of
them by that one, and none are during the news of the spindle of another kind. -/
theorem selected_of_pair_run :
    pair.Enrolled pairStart.contexts pairRegister [true, false] ∧
      (∀ i, .spindle i ∈ pairObservers) ∧
      ∃ σ, pair.Hosts pairObservers pairStart (some ⟨1⟩) σ ∧
        (σ.contexts true).isSelected = true ∧ (σ.contexts false).isSelected = false ∧
        σ.OnlySends (· = false) (pair.broadcast 1 ⟨⟨0⟩, 0⟩ pairObservers σ).2 ∧
        σ.traffic.length < (pair.broadcast 1 ⟨⟨0⟩, 0⟩ pairObservers σ).2.traffic.length ∧
        σ.OnlySends (fun _ => False) (pair.broadcast 1 ⟨⟨2⟩, 0⟩ pairObservers σ).2 := by
  have enrolled : pair.Enrolled pairStart.contexts pairRegister [true, false] :=
    .other ⟨"PWM", {}, .zero⟩ ⟨2⟩ rfl
      (.spindle { config := some { retries := 2, queryMaxOnSelect := true } } true rfl
        (.spindle { config := some { retries := 2, queryMaxOnSelect := true } } false rfl .empty))
  have all : ∀ i, i ∈ [true, false] := by decide
  have heard : ∀ i, .spindle i ∈ pairObservers := by
    rintro (_ | _)
    · exact .tail _ (.tail _ (.head _))
    · exact .tail _ (.head _)
  have first : pair.Hosts pairObservers pairStart (some ⟨0⟩)
      (pair.broadcast 1 ⟨⟨0⟩, 0⟩ pairObservers pairStart).2 :=
    .select 1 pairRegister ⟨0⟩ 0 ⟨⟨0⟩, 0⟩ rfl .refl rfl
  have called :=
    Hosts.call 1 false (.setSpeed (.ofNat 600) true) (.outcome (.error _)) rfl first rfl
  have run := Hosts.select 1 pairRegister ⟨1⟩ 0 ⟨⟨1⟩, 0⟩ rfl called rfl
  rcases selected_of_run pair enrolled all heard run with ⟨hselected, hunique, -, hnews⟩
  have hsecond := (hselected true).2 rfl
  refine ⟨enrolled, heard, _, run, hsecond, ?_, ?_, ?_, ?_⟩
  · refine Bool.eq_false_iff.2 fun hfirst => ?_
    exact absurd (hunique false true hfirst hsecond) (by decide)
  · refine (hnews 1 pairRegister ⟨0⟩ 0 ⟨⟨0⟩, 0⟩ rfl).mono ?_
    decide
  · decide +kernel
  · refine (hnews 1 pairRegister ⟨2⟩ 0 ⟨⟨2⟩, 0⟩ rfl).mono ?_
    decide

end Workshop

end SpindleDrive
