import SpindleDrive.Proofs.Workshop.Moments
import SpindleDrive.Proofs.Workshop.Unselected

/-!
# Refusals in a row

A spindle holds no more of the refusals it has read than one small number, which starts again at
every answer and at every alarm.  What it stands for is the number of refusals in a row, of whatever
requests they were refusals and however many alarms there have been meanwhile.

* `ExceptionCounter.record_mod` — one more refusal.
* `Note.refusals` — the refusals in a row that have been noted.
* `Spindle.tally` — the counter that they make.
* `Spindle.Counts` — how a reply is counted, and whether it escalates.
* `Scene.Counted` — the counter is this tally now, and it was whenever a note shows it.
* **`Workshop.count_of_run`** — so it is at every moment of every run; nothing but the reading of
  replies has a part in it.
-/

namespace SpindleDrive

open Operation

/-- **One more refusal** after `n` in a row is alarming if it completes another full count. -/
lemma ExceptionCounter.record_mod {bound : Nat} (hbound : 0 < bound) (n : Nat) :
    record ⟨n % bound, bound⟩ = (decide (bound ∣ n + 1), ⟨(n + 1) % bound, bound⟩) := by
  have hlt := Nat.mod_lt n hbound
  have hnext := Nat.add_mod_eq_ite (m := n) (n := 1) (k := bound)
  have hdvd : bound ∣ n + 1 ↔ (n + 1) % bound = 0 := Nat.dvd_iff_mod_eq_zero
  rcases Nat.lt_or_ge 1 bound with hone | hone
  · rw [Nat.mod_eq_of_lt hone] at hnext
    by_cases hfull : bound ≤ n % bound + 1
    · have hzero : (n + 1) % bound = 0 := by
        rw [hnext, if_pos hfull]
        omega
      simp [record, hfull, hdvd, hzero, clear]
    · have hsucc : (n + 1) % bound = n % bound + 1 := by
        rw [hnext, if_neg hfull]
      simp [record, hfull, hdvd, hsucc]
  · obtain rfl : bound = 1 := by omega
    simp [record, Nat.mod_one, clear]

variable {ι World : Type} [DecidableEq ι]

/-- **The refusals in a row** that a spindle has read, by the notes, the latest first: those since
the last reply that was none, understood or not.  What comes in a cold start is left out. -/
def Note.refusals (i : ι) : List (Note ι) → Nat
  | [] => 0
  | .read j reply coldStart _ :: older =>
    if j ≠ i then refusals i older
    else if !reply.isException then 0
    else if coldStart then refusals i older
    else refusals i older + 1
  | _ :: older => refusals i older

/-- Whatever is no reply that the spindle reads makes no difference. -/
lemma Note.refusals_append {i : ι} {newer older : List (Note ι)}
    (hnewer : ∀ reply coldStart before, .read i reply coldStart before ∉ newer) :
    refusals i (newer ++ older) = refusals i older := by
  induction newer with
  | nil => rfl
  | cons n newer ih =>
      have htail := ih fun reply coldStart before hmem =>
        hnewer reply coldStart before (List.mem_cons_of_mem n hmem)
      cases n with
      | read j reply coldStart before =>
          by_cases hj : j = i
          · subst hj
            exact absurd List.mem_cons_self (hnewer reply coldStart before)
          · simpa [refusals, hj] using htail
      | called | sending | exchanged | alarm => simpa [refusals] using htail

namespace Spindle

/-- The counter that the noted refusals make. -/
def tally (s : Spindle) (i : ι) (notes : List (Note ι)) : ExceptionCounter :=
  ⟨Note.refusals i notes % s.retries, s.retries⟩

/-- **How a reply is counted** that is read after some notes. -/
structure Counts (s : Spindle) (i : ι) (older : List (Note ι)) (reply : Reply) (coldStart : Bool)
    (c : SpindleContext) : Prop where
  before : c.exceptions = s.tally i older
  /-- One more fits into a word of 32 bits. -/
  fits : c.exceptions.count + 1 < 2 ^ 32
  after : (s.reader.read reply coldStart c.data c.exceptions).2.2 =
    s.tally i (.read i reply coldStart c :: older)
  /-- Out of a cold start just those replies escalate that make the row a multiple of the bound. -/
  warm : coldStart = false →
    ((s.reader.read reply coldStart c.data c.exceptions).1.escalates = true ↔
      0 < Note.refusals i (.read i reply coldStart c :: older) ∧
        s.retries ∣ Note.refusals i (.read i reply coldStart c :: older))
  /-- In a cold start every refusal escalates, and none is counted. -/
  cold : coldStart = true →
    (s.reader.read reply coldStart c.data c.exceptions).1.escalates = reply.isException ∧
      (reply.isException = true →
        (s.reader.read reply coldStart c.data c.exceptions).2.2 = c.exceptions)

lemma tally_count_lt {s : Spindle} (hretries : 0 < s.retries) (i : ι) (notes : List (Note ι)) :
    (s.tally i notes).count < s.retries :=
  Nat.mod_lt _ hretries

lemma retries_lt (s : Spindle) : s.retries < 2 ^ 32 := s.config.retries.toNat_lt

/-- Whatever reply it is, and whenever it is read. -/
lemma counts_of_before {s : Spindle} (hretries : 0 < s.retries) {i : ι} {older : List (Note ι)}
    {c : SpindleContext} (hbefore : c.exceptions = s.tally i older) (reply : Reply)
    (coldStart : Bool) : s.Counts i older reply coldStart c := by
  have hlt := tally_count_lt hretries i older
  have hword := s.retries_lt
  have hfits : c.exceptions.count + 1 < 2 ^ 32 := by
    rw [hbefore]
    omega
  obtain ⟨kind, frame | code⟩ := reply
  · refine ⟨hbefore, hfits, ?_, ?_, ?_⟩
    · simp [ReplyReader.read, hbefore, tally, Note.refusals, Reply.isException,
        ExceptionCounter.clear]
    · simp [ReplyReader.read_escalates, SpindleContext.isEscalatedBy, Note.refusals,
        Reply.isException]
    · simp [ReplyReader.read_escalates, SpindleContext.isEscalatedBy, Reply.isException]
  · cases coldStart with
    | true =>
        refine ⟨hbefore, hfits, ?_, by simp, ?_⟩
        · simp [ReplyReader.read, ReplyReader.readException, hbefore, tally, Note.refusals,
            Reply.isException]
        · simp [ReplyReader.read, ReplyReader.readException, Finding.escalates,
            Reply.isException]
    | false =>
        have hrecord := ExceptionCounter.record_mod hretries (Note.refusals i older)
        refine ⟨hbefore, hfits, ?_, ?_, by simp⟩
        · simp [ReplyReader.read, ReplyReader.readException, hbefore, tally, hrecord,
            Note.refusals, Reply.isException]
        · simp [ReplyReader.read, ReplyReader.readException, hbefore, tally, hrecord,
            Finding.escalates, Note.refusals, Reply.isException]

/-- The state of the spindle that a note shows, if it shows one. -/
def shownBy? (i : ι) : Note ι → Option SpindleContext
  | .sending _ _ _ contexts => some (contexts i)
  | .read j _ _ before => if j = i then some before else none
  | _ => none

end Spindle

/-! ## Scenes -/

/-- **The counter is the tally of what is noted**, and it was whenever a note shows the spindle. -/
structure Scene.Counted (s : Spindle) (i : ι) (σ : Scene ι World) : Prop where
  now : (σ.contexts i).exceptions = s.tally i σ.notes
  past : ∀ newer older n c, σ.notes = newer ++ n :: older → Spindle.shownBy? i n = some c →
    c.exceptions = s.tally i older

namespace Scene.Counted

variable {s : Spindle} {i j : ι} {σ : Scene ι World} {c c' : SpindleContext}

lemma world (h : σ.Counted s i) (world : World) : Scene.Counted s i { σ with world } :=
  ⟨h.now, h.past⟩

/-- A step that does not count. -/
lemma put (h : (σ.put j c).Counted s i) (hc : c'.exceptions = c.exceptions) :
    (σ.put j c').Counted s i := by
  refine ⟨?_, h.past⟩
  have hnow := h.now
  by_cases hj : i = j
  · subst hj
    rw [put_contexts_self] at hnow ⊢
    exact hc.trans hnow
  · rw [put_contexts_of_ne _ hj] at hnow ⊢
    exact hnow

/-- What one more note shows is how the spindle is. -/
lemma past_note (h : σ.Counted s i) {n : Note ι}
    (hn : ∀ c, Spindle.shownBy? i n = some c → c.exceptions = (σ.contexts i).exceptions) :
    ∀ newer older m c, n :: σ.notes = newer ++ m :: older → Spindle.shownBy? i m = some c →
      c.exceptions = s.tally i older := by
  rintro (_ | ⟨_, newer⟩) older m c hnotes hm
  · obtain ⟨rfl, rfl⟩ := List.cons.inj hnotes
    exact (hn c hm).trans h.now
  · exact h.past newer older m c (List.cons.inj hnotes).2 hm

/-- A note that counts nothing. -/
lemma note (h : σ.Counted s i) {n : Note ι}
    (hcounts : Note.refusals i (n :: σ.notes) = Note.refusals i σ.notes)
    (hn : ∀ c, Spindle.shownBy? i n = some c → c.exceptions = (σ.contexts i).exceptions) :
    (σ.note n).Counted s i := by
  refine ⟨?_, h.past_note hn⟩
  rw [note_contexts, note_notes, Spindle.tally, hcounts]
  exact h.now

/-- A reply that the spindle has in hand is noted and taken in. -/
lemma read (hretries : 0 < s.retries) (h : (σ.put i c).Counted s i) (reply : Reply)
    (rest : List Reply) (coldStart : Bool) :
    ((σ.note (.read i reply coldStart c)).put i (s.takeIn reply rest coldStart c)).Counted s i := by
  have hbefore : c.exceptions = s.tally i σ.notes := by
    simpa using h.now
  refine ⟨?_, ?_⟩
  · rw [put_contexts_self]
    exact (Spindle.counts_of_before hretries hbefore reply coldStart).after
  · refine h.past_note (n := .read i reply coldStart c) fun c' hc' => ?_
    obtain rfl : c = c' := by simpa [Spindle.shownBy?] using hc'
    rw [put_contexts_self]

/-- The replies of another spindle are not counted. -/
lemma read_of_ne (hj : j ≠ i) (h : (σ.put j c).Counted s i) (reply : Reply) (coldStart : Bool) :
    ((σ.note (.read j reply coldStart c)).put j c').Counted s i := by
  have hnote : ((σ.put j c).note (.read j reply coldStart c)).Counted s i :=
    h.note (by simp [Note.refusals, hj]) (by simp [Spindle.shownBy?, hj])
  refine ⟨?_, hnote.past⟩
  have hnow := hnote.now
  rw [note_contexts, put_contexts_of_ne _ hj.symm] at hnow
  rwa [put_contexts_of_ne _ hj.symm]

end Scene.Counted

/-! ## Runs -/

namespace Workshop

open Surroundings

variable {shop : Workshop ι World} {patience : Nat} {i j : ι} {σ : Scene ι World}

section

variable (send : Request → SendMode → SpindleContext → Scene ι World →
    Option Exchange × SpindleContext × Scene ι World)
  (hretries : 0 < (shop.spindle i).retries)
  (bears : ∀ request, ({ shop.quiet j with send } : Surroundings (Scene ι World)).Bears
    (Scene.At (Scene.Counted (shop.spindle i) i) j)
    (Scene.At (Scene.Counted (shop.spindle i) i) j) request)

include hretries bears

/-- Whatever the transport, a spindle counts the replies that it reads and no others. -/
lemma upholds_counted :
    ({ shop.quiet j with send } : Surroundings (Scene ι World)).Upholds (shop.spindle j)
      (Scene.At (Scene.Counted (shop.spindle i) i) j)
      (Scene.At (Scene.Counted (shop.spindle i) i) j) where
  ended _ _ h := h
  book _ _ _ hc h := Scene.Counted.put h hc.exceptions
  program _ _ _ _ h := Scene.Counted.put h rfl
  read reply rest c σ h := by
    have hworld := Scene.Counted.world h
      ((shop.outside j).journal reply ((shop.outside j).isColdStart σ.world) c σ.world)
    by_cases hj : j = i
    · subst hj
      exact Scene.Counted.read hretries hworld reply rest _
    · exact Scene.Counted.read_of_ne hj hworld reply _
  raiseAlarm c σ h :=
    (Scene.Counted.world h ((shop.outside j).raiseAlarm σ.world)).note rfl (by
      simp [Spindle.shownBy?])
  send request _ := bears request

/-- So does every call. -/
lemma leads_carryOut_counted (call : HostCall) {c : SpindleContext} {σ : Scene ι World}
    (h : (σ.put j c).Counted (shop.spindle i) i) :
    Leads ((shop.spindle j).carryOut { shop.quiet j with send } patience call)
      (fun _ => Scene.At (Scene.Counted (shop.spindle i) i) j) c σ := by
  have hpermits : Upholds.Permits { shop.quiet j with send } (shop.spindle j)
      (Scene.At (Scene.Counted (shop.spindle i) i) j)
      (Scene.At (Scene.Counted (shop.spindle i) i) j) call := by
    refine Upholds.permits_of_heardAlike ?_ ?_ ?_ (fun _ _ => bears _) call
    · exact fun c c' σ hc h => Scene.Counted.put h hc.exceptions
    · exact fun c σ h => Scene.Counted.world h _
    · exact fun tolerance c σ h => Scene.Counted.world h _
  exact leads_settled.1
    ((upholds_counted send hretries bears).leads_carryOut patience call hpermits h)

end

/-- Nothing that happens inside an exchange miscounts. -/
lemma lasts_counted (hretries : 0 < (shop.spindle i).retries) :
    shop.Lasts (shop.driver patience) (Scene.Counted (shop.spindle i) i) where
  inner j inner call σ _ h := by
    refine leads_carryOut_counted (shop.quiet j).send hretries ?_ call ?_
    · exact fun _ _ _ _ h => h
    · rwa [Scene.put_contexts]
  finish j request mode σ h := by
    rw [finish]
    split
    · exact (h.world _).note rfl (by simp [Spindle.shownBy?])
    · exact h.world _

/-- **No call miscounts**, whether it comes back or not. -/
lemma counted_call (hretries : 0 < (shop.spindle i).retries) (j : ι) (call : HostCall)
    (h : σ.Counted (shop.spindle i) i) :
    (shop.call patience j call σ).2.Counted (shop.spindle i) i := by
  rw [call_eq_with]
  refine leads_carryOut_counted (shop.surroundingsWith (shop.driver patience) j).send hretries
    (fun request mode c σ h => ?_) call ?_
  · have hbegun : ((σ.put j c).note (.sending j request mode (σ.put j c).contexts)).Counted
        (shop.spindle i) i :=
      Scene.Counted.note h rfl (by simp [Spindle.shownBy?])
    exact leads_settled.2 ((lasts_counted hretries).leads_exchange hbegun)
  · rw [Scene.put_contexts]
    exact h.note rfl (by simp [Spindle.shownBy?])

lemma IsNew.counted {start : Scene ι World} (new : shop.IsNew start) (i : ι) :
    0 < (shop.spindle i).retries ∧ start.Counted (shop.spindle i) i := by
  obtain ⟨hnotes, hmade⟩ := new
  obtain ⟨id, config, hmake⟩ := hmade i
  obtain ⟨hconfig, hretries, hc⟩ := Spindle.make_eq_ok hmake
  refine ⟨hretries, ?_, ?_⟩
  · rw [hc, hnotes, Spindle.tally, Note.refusals, Nat.zero_mod, Spindle.retries, hconfig]
    rfl
  · intro newer older n c h
    rw [hnotes] at h
    simp at h

lemma Ends.counted {start : Scene ι World} (new : shop.IsNew start) (ends : shop.Ends start σ)
    (i : ι) : σ.Counted (shop.spindle i) i := by
  obtain ⟨hretries, hstart⟩ := new.counted i
  have hreached {σ : Scene ι World} (h : shop.Reaches start σ) : σ.Counted (shop.spindle i) i := by
    induction h with
    | refl => exact hstart
    | outside world _ ih => exact ih.world world
    | call patience j call answer _ _ ih => exact counted_call hretries j call ih
  cases ends with
  | between h => exact hreached h
  | within h patience j call => exact counted_call hretries j call (hreached h)

/-- **What the count of refusals stands for.**  In any workshop, whatever the transports answer,
whomever they call meanwhile and whether or not a call comes back, the count that a spindle holds is
the number of refusals that it has read in a row, modulo its bound: so it stays below the bound, and
a refusal escalates just when it completes another full count, but for a cold start, in which every
refusal escalates and none is counted.  This holds wherever the run ends, whenever a request is
handed over and whenever a reply is read.  A call during which the spindle reads no reply leaves the
count as it was. -/
theorem count_of_run (shop : Workshop ι World) {start σ : Scene ι World} (new : shop.IsNew start)
    (ends : shop.Ends start σ) (i : ι) :
    (0 < (shop.spindle i).retries ∧ (shop.spindle i).retries < 2 ^ 32) ∧
      ((σ.contexts i).exceptions = (shop.spindle i).tally i σ.notes ∧
        (σ.contexts i).exceptions.count < (shop.spindle i).retries) ∧
      (∀ newer older j request mode contexts,
        σ.notes = newer ++ .sending j request mode contexts :: older →
          (contexts i).exceptions = (shop.spindle i).tally i older) ∧
      (∀ newer older reply coldStart before,
        σ.notes = newer ++ .read i reply coldStart before :: older →
          (shop.spindle i).Counts i older reply coldStart before) ∧
      ∀ newer σ', shop.Ends start σ' → σ.notes = newer ++ σ'.notes →
        (∀ reply coldStart before, .read i reply coldStart before ∉ newer) →
          (σ.contexts i).exceptions = (σ'.contexts i).exceptions := by
  obtain ⟨hretries, -⟩ := new.counted i
  have hcounted := ends.counted new i
  refine ⟨⟨hretries, (shop.spindle i).retries_lt⟩, ⟨hcounted.now, ?_⟩, ?_, ?_, ?_⟩
  · rw [hcounted.now]
    exact Spindle.tally_count_lt hretries i σ.notes
  · intro newer older j request mode contexts hnotes
    exact hcounted.past newer older _ _ hnotes rfl
  · intro newer older reply coldStart before hnotes
    exact Spindle.counts_of_before hretries
      (hcounted.past newer older _ before hnotes (by simp [Spindle.shownBy?])) reply coldStart
  · intro newer σ' ends' hnotes hnewer
    rw [hcounted.now, (ends'.counted new i).now, hnotes, Spindle.tally, Spindle.tally,
      Note.refusals_append hnewer]

/-- The scene once three late refusals have come to the spindle that another has taken the place
of. -/
def deadRefused : Scene Unit Unit :=
  (dead.call 2 () (.deliver lateRefusal) (dead.call 2 () (.deliver lateRefusal)
    (dead.call 2 () (.deliver lateRefusal) deadLeft).2).2).2

/-- With two attempts to an exchange the third refusal in a row is the first of another count. -/
theorem count_of_dead_run :
    dead.IsNew deadStart ∧ dead.Ends deadStart deadRefused ∧
      Note.refusals () deadRefused.notes = 3 ∧ (dead.spindle ()).retries = 2 ∧
      (deadRefused.contexts ()).exceptions = ⟨1, 2⟩ := by
  have new : dead.IsNew deadStart := ⟨rfl, fun _ => ⟨⟨0⟩, { retries := 2 }, rfl⟩⟩
  have left : dead.Reaches deadStart deadLeft :=
    .call 1 () _ .done (.call 1 () _ .done .refl rfl) rfl
  have ends : dead.Ends deadStart deadRefused :=
    .between (.call 2 () _ .done (.call 2 () _ .done (.call 2 () _ .done left rfl) rfl) rfl)
  exact ⟨new, ends, rfl, rfl, (count_of_run dead new ends ()).2.1.1⟩

end Workshop

end SpindleDrive
