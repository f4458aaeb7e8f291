import Mathlib.Tactic.Lemma
import SpindleDrive.Proofs.Config.Validation
import SpindleDrive.Spindle.Registration

/-!
# Setting up one spindle after the other

A spindle is entered in the register before it is made, so a failure in the making would leave its
entry behind.  There is no such failure: the making looks for the same faults that have been looked
for before, and for scales that every other configuration has.

* `Spindle.make_of_validate` — a spindle is made of every valid configuration, under any number.
* `SpindlePlan.Refused`, `SpindlePlan.Entered` — the reason why a spindle is not set up, the first
  that there is, and what there is once it is.
* `SpindlePlan.Comes`, `SpindlePlan.comes_enter` — one plan comes to one of the two, and if it is
  refused the register stays what it was.
* `SpindlePlan.enterAll`, `SpindlePlan.Follows` — several plans one after the other, and their
  outcomes.
* `Follows.numbers_eq`, `Follows.descriptors_eq` — the numbers are given out in a row, and the
  entries stand in the register in that order.
* **`SpindlePlan.follows_enterAll`** — what becomes of any plans in any register.
-/

namespace SpindleDrive

/-- **A spindle can be made of every valid configuration**, whatever its number: both registers have
their scales. -/
theorem Spindle.make_of_validate {c : Config} (h : c.validate = .ok ()) :
    ∃ frequency highest, c.speedScale = .ok frequency ∧ c.maxSpeedScale = .ok highest ∧
      ∀ id, Spindle.make id c =
        .ok ({ id, config := c, reader := { scale := frequency, maxScale := highest } },
          { address := c.modbusAddress 0, exceptions := .ofBound c.retries.toNat }) := by
  obtain ⟨frequency, hfrequency⟩ := Config.exists_scaleFor h c.model.units_ne_zero.1
  obtain ⟨highest, hhighest⟩ := Config.exists_scaleFor h c.model.units_ne_zero.2
  refine ⟨frequency, highest, hfrequency, hhighest, ?_⟩
  intro id
  simp only [Spindle.make, h, Config.speedScale, Config.maxSpeedScale, hfrequency, hhighest]
  rfl

/-- A register that is full takes no entry, and any other one more under its number. -/
lemma Registry.register_cases (r : Registry) (d : Descriptor) :
    (capacity ≤ r.size ∧ r.register d = none) ∨
      r.size < capacity ∧ ∃ id, id.value.toNat = r.size ∧
        r.register d = some (id, { descriptors := r.descriptors ++ [d] }) := by
  rcases Nat.lt_or_ge r.size capacity with hroom | hfull
  · have hentered : r.register d =
        some (⟨UInt8.ofNat r.size⟩, { descriptors := r.descriptors ++ [d] }) := if_pos hroom
    exact .inr ⟨hroom, _, (size_of_register hentered).1, hentered⟩
  · exact .inl ⟨hfull, if_neg (Nat.not_lt.2 hfull)⟩

namespace SpindlePlan

/-! ## One plan -/

/-- **Why a spindle is not set up.**  A reason counts only if there is none before it. -/
inductive Refused (p : SpindlePlan) (registry : Registry) : DriverError → Prop where
  | noTransport (transport : p.hasTransport = false) :
      Refused p registry (.missingPart .transport)
  | noHost (transport : p.hasTransport = true) (host : p.hasHost = false) :
      Refused p registry (.missingPart .host)
  | unusable {fault : ConfigFault} (transport : p.hasTransport = true) (host : p.hasHost = true)
      (fault_eq : p.settings.fault? = some fault) :
      Refused p registry (.config (.invalid fault))
  | full (transport : p.hasTransport = true) (host : p.hasHost = true)
      (valid : p.settings.validate = .ok ()) (full : Registry.capacity ≤ registry.size) :
      Refused p registry .registryFull

/-- **What there is once a spindle is set up**: one more entry in the register, and a spindle under
its number that is not selected. -/
structure Entered (p : SpindlePlan) (before : Registry) (s : Spindle) (c : SpindleContext)
    (after : Registry) : Prop where
  transport : p.hasTransport = true
  host : p.hasHost = true
  valid : p.settings.validate = .ok ()
  room : before.size < Registry.capacity
  number : s.id.value.toNat = before.size
  descriptors : after.descriptors = before.descriptors ++ [p.descriptor]
  entry : after.get? s.id = some p.descriptor
  config : s.config = p.settings
  scale : p.settings.speedScale = .ok s.reader.scale
  maxScale : p.settings.maxSpeedScale = .ok s.reader.maxScale
  unselected : c.selection = none
  address : c.address = p.settings.modbusAddress 0

lemma Entered.size {p : SpindlePlan} {before after : Registry} {s : Spindle} {c : SpindleContext}
    (h : p.Entered before s c after) : after.size = before.size + 1 := by
  rw [Registry.size, h.descriptors, List.length_append]
  rfl

/-- What setting up can come to. -/
inductive Comes (p : SpindlePlan) (before : Registry) :
    Except DriverError (Spindle × SpindleContext) → Registry → Prop where
  | refused {e : DriverError} (why : p.Refused before e) : Comes p before (.error e) before
  | entered {s : Spindle} {c : SpindleContext} {after : Registry}
      (what : p.Entered before s c after) : Comes p before (.ok (s, c)) after

/-- **The step.**  A plan is refused for the first reason that there is, or its spindle is set up;
the spindle that has been entered can always be made. -/
theorem comes_enter (p : SpindlePlan) (before : Registry) :
    p.Comes before (p.enter.run.run before).1 (p.enter.run.run before).2 := by
  rw [run_enter]
  cases htransport : p.hasTransport with
  | false => exact .refused (.noTransport htransport)
  | true =>
      cases hhost : p.hasHost with
      | false => exact .refused (.noHost htransport hhost)
      | true =>
          cases hfault : p.settings.fault? with
          | some fault =>
              have hinvalid : p.settings.validate = .error (.invalid fault) := by
                rw [Config.validate, hfault]
              rw [hinvalid]
              exact .refused (.unusable htransport hhost hfault)
          | none =>
              have hvalid := Config.validate_eq_ok_iff_fault?.2 hfault
              obtain ⟨frequency, highest, hfrequency, hhighest, hmake⟩ :=
                Spindle.make_of_validate hvalid
              rw [hvalid]
              obtain ⟨hfull, hregister⟩ | ⟨hroom, id, hid, hregister⟩ :=
                before.register_cases p.descriptor
              · rw [hregister]
                exact .refused (.full htransport hhost hvalid hfull)
              · rw [hregister]
                simp only [hmake]
                exact .entered {
                  transport := htransport
                  host := hhost
                  valid := hvalid
                  room := hroom
                  number := hid
                  descriptors := rfl
                  entry := by simp [Registry.get?, hid, Registry.size]
                  config := rfl
                  scale := hfrequency
                  maxScale := hhighest
                  unselected := rfl
                  address := rfl }

/-! ## Several plans -/

/-- Sets spindles up one after the other; what fails is passed over. -/
def enterAll :
    List SpindlePlan → StateM Registry (List (Except DriverError (Spindle × SpindleContext)))
  | [] => return []
  | p :: plans => do
    let outcome ← p.enter.run
    let outcomes ← enterAll plans
    return outcome :: outcomes

/-- **The outcomes of several plans**, each in the register that the one before it has left. -/
inductive Follows : List SpindlePlan → Registry →
    List (Except DriverError (Spindle × SpindleContext)) → Registry → Prop where
  | nil (registry : Registry) : Follows [] registry [] registry
  | cons {p : SpindlePlan} {plans : List SpindlePlan} {before between after : Registry}
      {outcome : Except DriverError (Spindle × SpindleContext)}
      {outcomes : List (Except DriverError (Spindle × SpindleContext))}
      (first : p.Comes before outcome between) (rest : Follows plans between outcomes after) :
      Follows (p :: plans) before (outcome :: outcomes) after

/-- The numbers of the spindles that have been set up. -/
def numbers (outcomes : List (Except DriverError (Spindle × SpindleContext))) : List Nat :=
  outcomes.filterMap fun outcome => outcome.toOption.map fun made => made.1.id.value.toNat

/-- The entries for the spindles that have been set up. -/
def entries (plans : List SpindlePlan)
    (outcomes : List (Except DriverError (Spindle × SpindleContext))) : List Descriptor :=
  (plans.zip outcomes).filterMap fun (p, outcome) => outcome.toOption.map fun _ => p.descriptor

lemma Entered.numbers_cons {p : SpindlePlan} {before after : Registry} {s : Spindle}
    {c : SpindleContext} (h : p.Entered before s c after)
    (outcomes : List (Except DriverError (Spindle × SpindleContext))) :
    numbers (.ok (s, c) :: outcomes) = before.size :: numbers outcomes := by
  simp [numbers, Except.toOption, h.number]

variable {plans : List SpindlePlan} {before after : Registry}
  {outcomes : List (Except DriverError (Spindle × SpindleContext))}

/-- **The run.**  Every plan comes to what it comes to in the register that it finds. -/
lemma follows_run (plans : List SpindlePlan) (before : Registry) :
    Follows plans before ((enterAll plans).run before).1 ((enterAll plans).run before).2 := by
  induction plans generalizing before with
  | nil => exact .nil before
  | cons p plans ih => exact .cons (p.comes_enter before) (ih _)

/-- **Numbers are given out in a row**, beginning with the number of entries that there were. -/
lemma Follows.numbers_eq (h : Follows plans before outcomes after) :
    numbers outcomes = List.range' before.size (numbers outcomes).length := by
  induction h with
  | nil => rfl
  | cons first rest ih =>
      cases first with
      | refused why => exact ih
      | entered what =>
          rw [what.size] at ih
          rw [what.numbers_cons, List.length_cons, List.range'_succ]
          exact congrArg _ ih

/-- There is room for every number that is given out. -/
lemma Follows.numbers_lt (h : Follows plans before outcomes after) :
    ∀ n ∈ numbers outcomes, n < Registry.capacity := by
  induction h with
  | nil => simp [numbers]
  | cons first rest ih =>
      cases first with
      | refused why => exact ih
      | entered what =>
          rw [what.numbers_cons, List.forall_mem_cons]
          exact ⟨what.room, ih⟩

/-- **The register keeps its entries**, and the new ones come after them in their order. -/
lemma Follows.descriptors_eq (h : Follows plans before outcomes after) :
    after.descriptors = before.descriptors ++ entries plans outcomes := by
  induction h with
  | nil => simp [entries]
  | @cons p plans before between after outcome outcomes first rest ih =>
      cases first with
      | refused why => exact ih
      | @entered s c _ what =>
          have hentries : entries (p :: plans) (.ok (s, c) :: outcomes) =
              p.descriptor :: entries plans outcomes := by
            simp [entries, Except.toOption]
          rw [hentries, ih, what.descriptors, List.append_assoc]
          rfl

/-- **Setting up spindles is atomic**, whatever the register holds and whatever the plans are.  Each
plan is refused for the first reason that there is, and leaves the register as it was; or it adds
one entry and gives a spindle that is not selected, under the number of entries before it.  So the
numbers go up by one and are never given out again, the last one being 255.  The making of a spindle
that has been entered cannot fail, since every valid configuration has both its scales. -/
theorem follows_enterAll (plans : List SpindlePlan) (before : Registry) :
    ∃ outcomes after, (enterAll plans).run before = (outcomes, after) ∧
      Follows plans before outcomes after ∧
      numbers outcomes = List.range' before.size (numbers outcomes).length ∧
      (numbers outcomes).Nodup ∧ (∀ n ∈ numbers outcomes, n ≤ 255) ∧
      after.descriptors = before.descriptors ++ entries plans outcomes ∧
      ∀ c : Config, c.validate = .ok () →
        ∃ frequency highest, c.speedScale = .ok frequency ∧ c.maxSpeedScale = .ok highest ∧
          ∀ id, ∃ made, Spindle.make id c = .ok made := by
  obtain ⟨outcomes, after, hrun⟩ :
      ∃ outcomes after, (enterAll plans).run before = (outcomes, after) := ⟨_, _, rfl⟩
  have hfollows := follows_run plans before
  rw [hrun] at hfollows
  refine ⟨outcomes, after, hrun, hfollows, hfollows.numbers_eq, ?_, ?_, hfollows.descriptors_eq, ?_⟩
  · rw [hfollows.numbers_eq]
    exact List.nodup_range'
  · intro n hn
    exact Nat.le_of_lt_succ (hfollows.numbers_lt n hn)
  · intro c hvalid
    obtain ⟨frequency, highest, hfrequency, hhighest, hmake⟩ := Spindle.make_of_validate hvalid
    exact ⟨frequency, highest, hfrequency, hhighest, fun id => ⟨_, hmake id⟩⟩

end SpindlePlan

end SpindleDrive
