import SpindleDrive.Proofs.Workshop.Accounts
import SpindleDrive.Proofs.Workshop.Remembering
import SpindleDrive.Proofs.Workshop.Watched

/-!
# Accounts in the course of a call

While a call is under way a spindle lags behind its account only from the end of an exchange for a
speed until the speed is programmed, and nobody is called in between.  What has to be known besides
is which speed the host has asked for and how many attempts at it have failed, since it is by these
that the account tells what is programmed and when.

* `Scene.IsAccounted` — a spindle agrees with its account, and did whenever a request was handed
  over.
* `Workshop.Underway` — what is known in the course of a call.
* `Workshop.IsDue` — a speed is the one that is to be sent without waiting.
* `isAccounted_reenter` — calls from inside an exchange leave accounts right.
* `leads_exchange_accounted` — the rule of one exchange: accounts are right until its end is noted.
* `Underway.leads_exchange_speed` — an exchange for a speed completes the sending, or it is one more
  attempt that has failed.
* **`conducts_underway`** — whatever a spindle does in the course of a call leaves accounts right.

A call may be to any spindle `j`, the account being that of a spindle `i`.
-/

namespace SpindleDrive

open Operation Surroundings

variable {ι World : Type} [DecidableEq ι]

namespace Scene

/-- **A spindle agrees with its account**, and did whenever a request was handed over. -/
structure IsAccounted (s : Spindle) (i : ι) (σ : Scene ι (World × List Binary32)) : Prop where
  agrees : (σ.contexts i).Agrees (s.account i σ.notes σ.world.2)
  told : s.Told i σ.notes σ.world.2

variable {s : Spindle} {i j : ι} {c c' : SpindleContext} {σ σ' : Scene ι (World × List Binary32)}

/-- A step of any spindle.  If it is not the one whose account it is, nothing is entered. -/
lemma IsAccounted.step (h : (σ.put j c).IsAccounted s i) (contexts : σ'.contexts = σ.contexts)
    (told : s.Told i σ'.notes σ'.world.2)
    (own : j = i → c.Agrees (s.account i σ.notes σ.world.2) →
      c'.Agrees (s.account i σ'.notes σ'.world.2))
    (other : j ≠ i → s.account i σ'.notes σ'.world.2 = s.account i σ.notes σ.world.2) :
    (σ'.put j c').IsAccounted s i := by
  refine ⟨?_, told⟩
  have hagrees := h.agrees
  by_cases hj : i = j
  · subst hj
    rw [put_contexts_self] at hagrees ⊢
    exact own rfl hagrees
  · rw [put_contexts_of_ne _ hj] at hagrees ⊢
    rw [contexts]
    show (σ.contexts i).Agrees (s.account i σ'.notes σ'.world.2)
    rw [other fun h => hj h.symm]
    exact hagrees

/-- A call is noted with what it enters. -/
lemma IsAccounted.called (h : σ.IsAccounted s i) (j : ι) (call : HostCall)
    (own : j = i → c.Agrees
      ((s.enteredBy? (s.account i σ.notes σ.world.2) call).toList ++
        s.account i σ.notes σ.world.2)) :
    ((σ.note (.called j call)).put j c).IsAccounted s i := by
  have hput : (σ.put j (σ.contexts j)).IsAccounted s i := by
    rwa [put_contexts]
  have haccount : s.account i (.called j call :: σ.notes) σ.world.2 = _ := Spindle.account_called
  refine hput.step rfl (h.told.cons (by simp) rfl) (fun hj _ => ?_) fun hj => ?_
  · show c.Agrees (s.account i (_ :: σ.notes) σ.world.2)
    rw [haccount, if_pos hj]
    exact own hj
  · show s.account i (_ :: σ.notes) σ.world.2 = _
    rw [haccount, if_neg hj]
    rfl

/-- An exchange is over.  If it was the spindle's own its tolerance is remembered, and the speed
that it was for is entered if it completes the sending. -/
lemma IsAccounted.exchanged {request : Request} {mode : SendMode} {result : Exchange}
    {world : World} {tolerance : Binary32} (h : σ.IsAccounted s i)
    (own : j = i → c.Agrees
      ((if request.kind = .setSpeed ∧ Workshop.completes s i request mode result σ.notes then
        some (Entry.programmed (Workshop.dueSpeed i mode (Workshop.beforeSending σ.notes)
          (s.account i σ.notes σ.world.2)) tolerance)
        else none).toList ++ s.account i σ.notes σ.world.2)) :
    (((Scene.note { σ with
        world := (world, if j = i then tolerance :: σ.world.2 else σ.world.2) }
      (.exchanged j request mode result)) : Scene ι (World × List Binary32)).put j c).IsAccounted
        s i := by
  by_cases hj : j = i
  · subst hj
    simp only [if_true]
    have htold : s.Told j (.exchanged j request mode result :: σ.notes) (tolerance :: σ.world.2) :=
      h.told.cons (by simp) (by simp [Note.isExchangeOf])
    refine ⟨?_, htold⟩
    have haccount : s.account j (.exchanged j request mode result :: σ.notes)
        (tolerance :: σ.world.2) = _ := Spindle.account_exchanged_self
    rw [put_contexts_self]
    exact haccount ▸ own rfl
  · simp only [if_neg hj]
    have htold : s.Told i (.exchanged j request mode result :: σ.notes) σ.world.2 :=
      h.told.cons (by simp) (by simp [Note.isExchangeOf, hj])
    refine ⟨?_, htold⟩
    have haccount : s.account i (.exchanged j request mode result :: σ.notes) σ.world.2 = _ :=
      Spindle.account_exchanged_of_ne hj
    rw [put_contexts_of_ne _ fun heq => hj heq.symm]
    exact haccount ▸ h.agrees

end Scene

namespace Workshop

/-- **What is known in the course of a call to a spindle** `j`, the account being that of a spindle
`i`: the speed that was asked for, and how many attempts at a speed have failed. -/
structure Underway (shop : Workshop ι World) (i j : ι) (rpm : Binary32) (F : Nat → Prop)
    (c : SpindleContext) (σ : Scene ι (World × List Binary32)) : Prop where
  accounted : (σ.put j c).IsAccounted (shop.spindle i) i
  asked : askedSpeed j σ.notes = rpm
  failed : F (failures j .setSpeed σ.notes)

/-- What can be said of an operation that does not come back. -/
def WasTold (shop : Workshop ι World) (i : ι) (_ : SpindleContext)
    (σ : Scene ι (World × List Binary32)) : Prop :=
  (shop.spindle i).Told i σ.notes σ.world.2

/-- A spindle may send a speed: if the account is its own it is the one that is due. -/
def IsDue (shop : Workshop ι World) (i j : ι) (mode : SendMode) (rpm : Binary32)
    (σ : Scene ι (World × List Binary32)) : Prop :=
  j = i → dueSpeed i mode σ.notes ((shop.spindle i).account i σ.notes σ.world.2) = rpm

variable {shop : Workshop ι World} {patience : Nat} {i j : ι} {rpm : Binary32} {F : Nat → Prop}
  {c c' : SpindleContext} {σ σ' : Scene ι (World × List Binary32)}

namespace Underway

lemma mono {G : Nat → Prop} (h : shop.Underway i j rpm F c σ) (hF : ∀ n, F n → G n) :
    shop.Underway i j rpm G c σ :=
  ⟨h.accounted, h.asked, hF _ h.failed⟩

lemma book (h : shop.Underway i j rpm F c σ) (hr : c.Resembles c') :
    shop.Underway i j rpm F c' σ :=
  ⟨h.accounted.step rfl h.accounted.told (fun _ hagrees => hagrees.book hr) fun _ => rfl, h.asked,
    h.failed⟩

/-- A note that is no traffic, with what it enters. -/
lemma noted (h : shop.Underway i j rpm F c σ) {n : Note ι} (hn : n.isTraffic = false)
    (world : World)
    (own : j = i → c.Agrees ((shop.spindle i).account i σ.notes σ.world.2) →
      c'.Agrees ((shop.spindle i).account i (n :: σ.notes) σ.world.2))
    (other : j ≠ i → (shop.spindle i).account i (n :: σ.notes) σ.world.2 =
      (shop.spindle i).account i σ.notes σ.world.2) :
    shop.Underway i j rpm F c' (Scene.note { σ with world := (world, σ.world.2) } n) where
  accounted := h.accounted.step rfl (h.accounted.told.cons_of_isTraffic hn) own other
  asked := by
    have hasked : askedSpeed j (n :: σ.notes) = _ := askedSpeed_cons_of_isTraffic hn
    exact hasked.trans h.asked
  failed := by
    have hfailed : failures j .setSpeed (n :: σ.notes) = _ :=
      failures_cons_of_isTraffic hn j .setSpeed
    exact hfailed ▸ h.failed

lemma alarm (h : shop.Underway i j rpm F c σ) (world : World) :
    shop.Underway i j rpm F c (Scene.note { σ with world := (world, σ.world.2) } (.alarm j)) := by
  refine h.noted rfl world (fun _ hagrees => ?_) fun _ => Spindle.account_alarm
  rw [Spindle.account_alarm]
  exact hagrees

lemma read (h : shop.Underway i j rpm F c σ) (reply : Reply) (rest : List Reply) (coldStart : Bool)
    (world : World) :
    shop.Underway i j rpm F ((shop.spindle j).takeIn reply rest coldStart c)
      (Scene.note { σ with world := (world, σ.world.2) } (.read j reply coldStart c)) := by
  refine h.noted rfl world (fun hj hagrees => ?_) fun hj => ?_
  · subst hj
    rw [Spindle.account_read, if_pos rfl]
    exact hagrees.takeIn (shop.spindle j) reply rest coldStart
  · rw [Spindle.account_read, if_neg hj]
    rfl

/-- Reading a refusal makes a speed due. -/
lemma isDue (h : shop.Underway i j rpm F c σ) {reply : Reply} {coldStart : Bool} {world : World}
    {rpm' : Binary32}
    (hreissue : ((shop.spindle j).reader.read reply coldStart c.data c.exceptions).1.reissue? =
      some rpm') :
    shop.IsDue i j .nonBlocking rpm'
      (Scene.note { σ with world := (world, σ.world.2) } (.read j reply coldStart c)) := by
  intro hj
  subst hj
  have hagrees := h.accounted.agrees
  rw [Scene.put_contexts_self] at hagrees
  have hspeed :
      ((shop.spindle j).account j (.read j reply coldStart c :: σ.notes) σ.world.2).speed =
      ((shop.spindle j).account j σ.notes σ.world.2).speed :=
    Spindle.speed_account_cons rfl
  rw [ReplyReader.read_reissue?_eq hreissue, SpeedData.reissueSpeed, hagrees.speed]
  simp only [dueSpeed, justRead, Scene.note_notes, Scene.note_world, decide_true, Bool.and_true,
    if_true]
  rw [hspeed]
  rfl

end Underway

/-- Whatever becomes of exchanges, the rest of what spindles do leaves accounts right. -/
lemma conducts_of_speed (shop : Workshop ι World) (i j : ι) (rpm : Binary32) (F : Nat → Prop)
    {E : SpindleContext → Scene ι (World × List Binary32) → Prop}
    {send : Request → SendMode → SpindleContext → Scene ι (World × List Binary32) →
      Option Exchange × SpindleContext × Scene ι (World × List Binary32)}
    (ended : ∀ c σ, shop.Underway i j rpm F c σ → E c σ)
    (speed : ∀ rpm' c σ, shop.IsDue i j .nonBlocking rpm' σ → shop.Underway i j rpm F c σ →
      Leads ((shop.spindle j).exchangeSpeed { (shop.remembering i).quiet j with send }
          (.speed c.address (shop.spindle j).registers ((shop.spindle j).reader.scale.toCode rpm'))
          false)
        (Programmed { (shop.remembering i).quiet j with send } rpm' (shop.Underway i j rpm F) E)
        c σ)
    (reading : ∀ request c σ, request.kind ≠ .setSpeed → shop.Underway i j rpm F c σ →
      Leads (sendOnce (Operation.exchange { (shop.remembering i).quiet j with send }) request)
        (SpindleDrive.Settled (shop.Underway i j rpm F) E) c σ) :
    ({ (shop.remembering i).quiet j with send } :
      Surroundings (Scene ι (World × List Binary32))).Conducts (shop.spindle j)
        (shop.IsDue i j .nonBlocking) (shop.Underway i j rpm F) E where
  ended := ended
  book _ _ _ hr h := h.book hr
  raiseAlarm _ _ h := h.alarm _
  read reply rest _ _ h := h.read reply rest _ _
  due _ _ _ _ h hreissue := h.isDue hreissue
  speed rpm' c σ _ hdue h := speed rpm' c σ hdue h
  reading request c σ _ hreading h := by
    refine reading request c σ ?_ h
    cases hreading with
    | output => simp [Request.readOutput]
    | highest hmax =>
        rcases Option.map_eq_some_iff.1 hmax with ⟨register, -, rfl⟩
        simp

/-! ## Calls from inside an exchange -/

/-- With a bus that is taken no speed comes to be programmed. -/
lemma leads_programmed_quiet {request : Request} {blocking : Bool} {rpm' : Binary32}
    {I : SpindleContext → Scene ι (World × List Binary32) → Prop} :
    Leads ((shop.spindle j).exchangeSpeed ((shop.remembering i).quiet j) request blocking)
      (Programmed ((shop.remembering i).quiet j) rpm' I fun _ _ => True) c σ := by
  refine (((shop.remembering i).quiet_isTaken j).leads_exchangeSpeed request blocking).mono ?_
  intro r c σ hr
  rw [hr]
  trivial

/-- Nothing that is sent comes to an end there. -/
lemma conducts_quiet (shop : Workshop ι World) (i j : ι) (rpm : Binary32) (F : Nat → Prop) :
    ((shop.remembering i).quiet j).Conducts (shop.spindle j) (shop.IsDue i j .nonBlocking)
      (shop.Underway i j rpm F) fun _ _ => True := by
  have htaken := (shop.remembering i).quiet_isTaken j
  refine conducts_of_speed shop i j rpm F (fun _ _ _ => trivial)
    (fun _ _ _ _ _ => leads_programmed_quiet) fun request c σ _ _ => ?_
  refine (htaken.leads_sendOnce request).mono ?_
  intro r c σ hr
  rw [hr]
  trivial

/-- A call from inside an exchange leaves accounts right if it comes back. -/
lemma isAccounted_reenter (shop : Workshop ι World) (patience : Nat) (i j : ι) (call : InnerCall)
    (σ : Scene ι (World × List Binary32))
    (back : ((shop.remembering i).reenter patience j call σ).1.isSome = true)
    (h : σ.IsAccounted (shop.spindle i) i) :
    ((shop.remembering i).reenter patience j call σ).2.IsAccounted (shop.spindle i) i := by
  refine of_reenter h (fun hostCall hcall => ?_) back
  have hput : (σ.put j (σ.contexts j)).IsAccounted (shop.spindle i) i := by
    rwa [Scene.put_contexts]
  have hbegun : shop.Underway i j _ (fun _ => True) (σ.contexts j) σ := ⟨hput, rfl, trivial⟩
  have hconducts := shop.conducts_quiet i j (askedSpeed j σ.notes) fun _ => True
  have htaken := (shop.remembering i).quiet_isTaken j
  have settle {α : Type} {op : Operation (Scene ι (World × List Binary32)) α} (f : α → Answer)
      (hop : Leads op
        (SpindleDrive.Settled (shop.Underway i j (askedSpeed j σ.notes) fun _ => True)
          fun _ _ => True) (σ.contexts j) σ) :
      Leads (f <$> op)
        (fun r c σ' => ∀ answer, r = some answer → (σ'.put j c).IsAccounted (shop.spindle i) i)
        (σ.contexts j) σ := by
    refine (leads_map_settled f hop).mono ?_
    intro r c σ' hend answer hanswer
    rw [hanswer] at hend
    exact Underway.accounted hend
  cases call <;> cases hcall
  case setState state rpm =>
    -- a command that comes back was refused, so that nothing has changed
    rw [Spindle.carryOut, leads_map]
    refine (htaken.leads_setState patience state rpm).mono ?_
    intro r c σ' hrefused answer hanswer
    cases r with
    | none => cases hanswer
    | some a =>
        rcases hrefused a rfl with ⟨rfl, rfl, -⟩
        exact hput
  case setSpeed rpm blocking =>
    exact settle _ (hconducts.leads_setSpeed (fun _ => hbegun) fun _ _ => leads_programmed_quiet)
  case deliver reply => exact settle _ (hconducts.leads_deliver patience reply hbegun)
  case getData => exact fun _ _ => hput

/-! ## One exchange -/

/-- Notes have been added that are no traffic, and nothing has been remembered. -/
def Adds (older : List (Note ι)) (held : List Binary32)
    (σ : Scene ι (World × List Binary32)) : Prop :=
  ∃ newer, σ.notes = newer ++ older ∧ (∀ n ∈ newer, n.isTraffic = false) ∧ σ.world.2 = held

omit [DecidableEq ι] in
lemma Adds.note {older : List (Note ι)} {held : List Binary32} (h : Adds older held σ) (n : Note ι)
    (hn : n.isTraffic = false) (world : World) :
    Adds older held (Scene.note { σ with world := (world, σ.world.2) } n) := by
  rcases h with ⟨newer, hnotes, hnewer, hheld⟩
  refine ⟨n :: newer, by rw [Scene.note_notes, hnotes, List.cons_append], ?_, hheld⟩
  intro m hm
  rcases List.mem_cons.1 hm with rfl | hm
  · exact hn
  · exact hnewer m hm

namespace Adds

variable {older : List (Note ι)} {held : List Binary32} {request : Request} {mode : SendMode}
  {contexts : ι → SpindleContext}

omit [DecidableEq ι] in
lemma before (h : Adds (.sending j request mode contexts :: older) held σ) :
    beforeSending σ.notes = older := by
  rcases h with ⟨newer, hnotes, hnewer, -⟩
  rw [hnotes]
  exact beforeSending_append hnewer j request mode contexts

lemma asked (h : Adds (.sending j request mode contexts :: older) held σ) (k : ι) :
    askedSpeed k σ.notes = askedSpeed k older := by
  rcases h with ⟨newer, hnotes, hnewer, -⟩
  rw [hnotes, askedSpeed_append hnewer, askedSpeed_cons_of_isCall rfl]

lemma failed (h : Adds (.sending j request mode contexts :: older) held σ) (k : ι)
    (kind : RequestKind) : failures k kind σ.notes = failures k kind older := by
  rcases h with ⟨newer, hnotes, hnewer, -⟩
  rw [hnotes, failures_append hnewer, failures_sending]

lemma speed (h : Adds (.sending j request mode contexts :: older) held σ) (s : Spindle) (k : ι) :
    (s.account k σ.notes σ.world.2).speed = (s.account k older held).speed := by
  rcases h with ⟨newer, hnotes, hnewer, hheld⟩
  rw [hnotes, hheld, Spindle.speed_account_append hnewer, Spindle.account_sending]

end Adds

lemma keeps_adds (shop : Workshop ι World) (i j : ι) (older : List (Note ι))
    (held : List Binary32) : ((shop.remembering i).quiet j).Keeps (Adds older held) where
  silence _ h := h
  send _ _ _ _ h := h
  journal _ _ _ _ h := h.note _ rfl _
  raiseAlarm _ h := h.note _ rfl _
  setTolerance _ _ h := h

/-- **How an exchange ends**, accounts being right before: they are when the transport has made its
calls, and then the tolerance is remembered if the exchange was the spindle's own. -/
lemma leads_exchange_accounted {request : Request} {mode : SendMode}
    {Q : Option Exchange → SpindleContext → Scene ι (World × List Binary32) → Prop}
    (h : (σ.put j c).IsAccounted (shop.spindle i) i)
    (hung : ∀ c' σ', shop.WasTold i c' σ' → Q none c' σ')
    (ended : ∀ result (σ' : Scene ι (World × List Binary32)) world,
      σ'.IsAccounted (shop.spindle i) i →
      Adds (.sending j request mode (σ.put j c).contexts :: σ.notes) σ.world.2 σ' →
      Q (some result) (σ'.contexts j)
        (Scene.note { σ' with
            world := (world,
              if j = i then (shop.outside j).tolerance world :: σ'.world.2 else σ'.world.2) }
          (.exchanged j request mode result))) :
    Leads (Operation.exchange ((shop.remembering i).surroundings patience j) request mode)
      Q c σ := by
  have hsent : (shop.spindle i).Told i
      (.sending j request mode (σ.put j c).contexts :: σ.notes) σ.world.2 :=
    h.told.sending h.agrees
  have hbegun : ((σ.put j c).note (.sending j request mode (σ.put j c).contexts)).IsAccounted
      (shop.spindle i) i := by
    refine ⟨?_, hsent⟩
    rw [Scene.note_notes, Spindle.account_sending]
    exact h.agrees
  refine leads_exchange_within
    (K := Adds (.sending j request mode (σ.put j c).contexts :: σ.notes) σ.world.2)
    (R := fun σ σ' => σ.IsAccounted (shop.spindle i) i → σ'.IsAccounted (shop.spindle i) i)
    (fun k => shop.keeps_adds i k _ _) (fun _ _ _ hadds => hadds) (fun _ haccounted => haccounted)
    (fun _ _ _ hfirst hsecond haccounted => hsecond (hfirst haccounted))
    (fun k call σ back => shop.isAccounted_reenter patience i k call σ back)
    ⟨[], rfl, by simp, rfl⟩ (fun σ' hnone hadds => ?_) (fun c' σ' hadds => ?_)
    fun result σ' hsome hadds hcalls => ?_
  -- if the transport hangs, or one of its calls does, it is known what was told and no more
  · rcases hadds with ⟨newer, hnotes, hnewer, hheld⟩
    exact ⟨newer, hnotes, hnewer, (remembering_send_none hnone).trans hheld⟩
  · rcases hadds with ⟨newer, hnotes, hnewer, hheld⟩
    refine hung c' σ' ?_
    rw [WasTold, hnotes, hheld]
    exact hsent.append hnewer
  · have hend := ended result σ'
      (((shop.remembering i).outside j).send request mode (σ'.contexts j) σ'.world).2.2.1
      (hcalls hbegun) hadds
    rw [← remembering_send_some hsome] at hend
    exact hend

namespace Underway

/-- An exchange that is for no speed leaves everything as it was known. -/
lemma leads_exchange {request : Request} {mode : SendMode} (other : request.kind ≠ .setSpeed)
    (h : shop.Underway i j rpm F c σ) :
    Leads (Operation.exchange ((shop.remembering i).surroundings patience j) request mode)
      (SpindleDrive.Settled (shop.Underway i j rpm F) (shop.WasTold i)) c σ := by
  refine leads_exchange_accounted h.accounted (fun c' σ' htold => htold) ?_
  intro result σ' world haccounted hadds
  refine ⟨haccounted.exchanged fun hj => ?_, ?_, ?_⟩
  · subst hj
    simp only [other, false_and, if_false]
    exact haccounted.agrees
  · rw [Scene.note_notes, askedSpeed_cons_of_isCall rfl]
    exact (hadds.asked j).trans h.asked
  · rw [Scene.note_notes, failures_exchanged, hadds.failed]
    simpa [other] using h.failed

/-- **An exchange for a speed** is the last one for it, and then the speed can be programmed, or it
is one more attempt that has failed. -/
lemma leads_exchange_speed {request : Request} {mode : SendMode} {rpm' : Binary32}
    {Q : Option Exchange → SpindleContext → Scene ι (World × List Binary32) → Prop}
    (speed : request.kind = .setSpeed) (hdue : shop.IsDue i j mode rpm' σ)
    (h : shop.Underway i j rpm F c σ) (hung : ∀ c' σ', shop.WasTold i c' σ' → Q none c' σ')
    (completed : ∀ result n c' σ', F n →
      (mode.isFailedAttempt result = true → n + 1 = (shop.spindle j).retries) →
      (∀ progress, shop.Underway i j rpm
        (· = n + if mode.isFailedAttempt result = true then 1 else 0)
        (c'.endSpeed rpm' (((shop.remembering i).surroundings patience j).tolerance σ') progress)
        σ') →
      Q (some result) c' σ')
    (again : ∀ result n c' σ', F n → mode.isFailedAttempt result = true →
      n + 1 ≠ (shop.spindle j).retries → shop.Underway i j rpm (· = n + 1) c' σ' →
      Q (some result) c' σ') :
    Leads (Operation.exchange ((shop.remembering i).surroundings patience j) request mode)
      Q c σ := by
  refine leads_exchange_accounted h.accounted hung ?_
  intro result σ' world haccounted hadds
  have hasked : askedSpeed j (.exchanged j request mode result :: σ'.notes) = rpm := by
    rw [askedSpeed_cons_of_isCall rfl]
    exact (hadds.asked j).trans h.asked
  have hfailed : failures j .setSpeed (.exchanged j request mode result :: σ'.notes) =
      failures j .setSpeed σ.notes + if mode.isFailedAttempt result = true then 1 else 0 := by
    rw [failures_exchanged, hadds.failed]
    simp [speed]
  have hcompletes : completes (shop.spindle j) j request mode result σ'.notes =
      (!mode.isFailedAttempt result ||
        failures j .setSpeed σ.notes + 1 = (shop.spindle j).retries) := by
    rw [completes, speed, hadds.failed]
  -- the account completes the sending exactly if the attempts are used up or one has succeeded
  by_cases hover : mode.isFailedAttempt result = true →
    failures j .setSpeed σ.notes + 1 = (shop.spindle j).retries
  · refine completed result _ _ _ h.failed hover fun progress => ⟨?_, hasked, hfailed⟩
    refine haccounted.exchanged fun hj => ?_
    subst hj
    have hlast : completes (shop.spindle j) j request mode result σ'.notes = true := by
      rw [hcompletes]
      cases hattempt : mode.isFailedAttempt result with
      | false => rfl
      | true => simpa using hover hattempt
    have hspeed : dueSpeed j mode (beforeSending σ'.notes)
        ((shop.spindle j).account j σ'.notes σ'.world.2) = rpm' := by
      rw [hadds.before, dueSpeed_congr (hadds.speed _ _)]
      exact hdue rfl
    simp only [speed, hlast, and_self, if_true, hspeed]
    exact haccounted.agrees.programmed rpm' _ progress
  · rw [Classical.not_imp] at hover
    rcases hover with ⟨hattempt, hmore⟩
    refine again result _ _ _ h.failed hattempt hmore ⟨?_, hasked, ?_⟩
    · refine haccounted.exchanged fun hj => ?_
      subst hj
      have hlast : completes (shop.spindle j) j request mode result σ'.notes = false := by
        rw [hcompletes, hattempt]
        simpa using hmore
      simp only [hlast, Bool.false_eq_true, and_false, if_false]
      exact haccounted.agrees
    · rw [Scene.note_notes, hfailed, if_pos hattempt]

/-- A speed that is due can be programmed when it has been sent without waiting. -/
lemma leads_exchangeSpeed_once {rpm' : Binary32} {address : UInt8} {code : UInt16}
    (hdue : shop.IsDue i j .nonBlocking rpm' σ) (h : shop.Underway i j rpm F c σ) :
    Leads ((shop.spindle j).exchangeSpeed ((shop.remembering i).surroundings patience j)
        (.speed address (shop.spindle j).registers code) false)
      (Programmed ((shop.remembering i).surroundings patience j) rpm' (shop.Underway i j rpm F)
        (shop.WasTold i)) c σ := by
  rw [Spindle.exchangeSpeed, if_neg Bool.false_ne_true, leads_map]
  refine Operation.leads_sendOnce (h.leads_exchange_speed rfl hdue (fun c' σ' htold => htold)
    (fun result n c' σ' hn _ hprogrammed => ?_) fun result n c' σ' _ hattempt _ _ => ?_)
  · have hend (progress : OperationState) := (hprogrammed progress).mono (G := F) fun m hm => by
      simpa [SendMode.isFailedAttempt, hm] using hn
    cases result with
    | error e => exact hend _
    | ok reply? => exact hend _
  · simp [SendMode.isFailedAttempt] at hattempt

/-- **The speed that was asked for** can be programmed when an attempt has succeeded, or when all
attempts have failed.  Before that, as many have failed as were made. -/
lemma leads_exchangeSpeed_asked {address : UInt8} {code : UInt16}
    (retries : 0 < (shop.spindle j).retries) (h : shop.Underway i j rpm (· = 0) c σ) :
    Leads ((shop.spindle j).exchangeSpeed ((shop.remembering i).surroundings patience j)
        (.speed address (shop.spindle j).registers code) true)
      (Programmed ((shop.remembering i).surroundings patience j) rpm
        (shop.Underway i j rpm fun _ => True) (shop.WasTold i)) c σ := by
  have htotal : max (shop.spindle j).retries 1 = (shop.spindle j).retries := Nat.max_eq_left retries
  rw [Spindle.exchangeSpeed, if_pos rfl]
  -- the failures are those that the notes count; the last one enters the speed, so that from then
  -- on the spindle agrees with its account only once the speed is programmed
  refine Operation.leads_sendRepeatedly
    (fun k _ c σ => (k < (shop.spindle j).retries → shop.Underway i j rpm (· = k) c σ) ∧
      (k = (shop.spindle j).retries → ∀ progress, shop.Underway i j rpm (fun _ => True)
        (c.endSpeed rpm (((shop.remembering i).surroundings patience j).tolerance σ) progress) σ))
    ⟨fun _ => h, fun hzero => absurd hzero (Nat.ne_of_lt retries)⟩
    (fun k last c σ hk hInv => ?_) fun last c σ hInv => hInv.2 htotal _
  rw [htotal] at hk
  have hunder := hInv.1 hk
  have hdue : shop.IsDue i j .blocking rpm σ := by
    intro hj
    subst hj
    rw [← hunder.asked]
    simp [dueSpeed]
  refine hunder.leads_exchange_speed rfl hdue (fun c' σ' htold => htold)
    (fun result n c' σ' hn hlast hprogrammed => ?_) fun result n c' σ' hn hattempt hmore hnext => ?_
  · cases result with
    | ok reply? => exact (hprogrammed _).mono fun _ _ => trivial
    | error e =>
        have hcount : k + 1 = (shop.spindle j).retries := hn ▸ hlast rfl
        exact ⟨fun hlt => absurd hcount (Nat.ne_of_lt hlt),
          fun _ progress => (hprogrammed progress).mono fun _ _ => trivial⟩
  · cases result with
    | ok reply? => simp [SendMode.isFailedAttempt, Except.isOk, Except.toBool] at hattempt
    | error e =>
        subst hn
        exact ⟨fun _ => hnext.book (SpindleContext.resembles_speedOp _ _),
          fun hcount => absurd hcount hmore⟩

end Underway

/-- **Whatever a spindle does in the course of a call** leaves accounts right. -/
lemma conducts_underway (shop : Workshop ι World) (patience : Nat) (i j : ι) (rpm : Binary32)
    (F : Nat → Prop) :
    ((shop.remembering i).surroundings patience j).Conducts (shop.spindle j)
      (shop.IsDue i j .nonBlocking) (shop.Underway i j rpm F) (shop.WasTold i) :=
  conducts_of_speed shop i j rpm F (fun _ _ h => h.accounted.told)
    (fun _ _ _ hdue h => h.leads_exchangeSpeed_once hdue)
    fun _ _ _ other h => leads_sendOnce_settled (fun _ _ h => h.leads_exchange other) h

end Workshop

end SpindleDrive
