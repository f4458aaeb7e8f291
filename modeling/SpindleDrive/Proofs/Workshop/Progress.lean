import SpindleDrive.Proofs.Workshop.Notes

/-!
# How far operations are

An operation is under way from the start of its exchange to the end of it, and the number of the
attempt is there to be seen.  While one is under way nothing else is, in any spindle; once the call
is over nothing is, and an operation that used up its attempts is marked until it is started again.

* `Workshop.failures` — the attempts of the current call that have failed, as the traffic tells.
* `Workshop.InOrder` — the states in which a request may be handed over, given the traffic before.
* `Workshop.AtRest` — the state of a spindle between calls.
* `Workshop.Sound` — what holds at every moment of a call, an operation being under way or not.
* **`Workshop.states_of_run`** — every request is handed over in order, and between calls every
  spindle is at rest.
-/

namespace SpindleDrive

/-- Where the operation stands that a kind of request belongs to; a reading belongs to none. -/
def SpindleContext.progress (c : SpindleContext) : RequestKind → OperationState
  | .setStatus => c.statusOp
  | .setSpeed => c.speedOp
  | .getSpeed | .getMaxSpeed => .idle

/-- Whether a kind of request belongs to an operation. -/
def RequestKind.isCommand : RequestKind → Bool
  | setStatus | setSpeed => true
  | getSpeed | getMaxSpeed => false

/-- Where an operation stands when so many of its attempts have failed and the next is made. -/
def OperationState.underway : Nat → OperationState
  | 0 => .sending
  | n + 1 => .retrying (n + 1)

lemma SpindleContext.Stands.progress {c c' : SpindleContext} (h : c.Stands c')
    (kind : RequestKind) : c'.progress kind = c.progress kind := by
  cases kind with
  | setStatus => exact h.statusOp
  | setSpeed => exact h.speedOp
  | getSpeed => rfl
  | getMaxSpeed => rfl

/-- Notes where the operation of a kind of request stands. -/
def SpindleContext.mark (c : SpindleContext) (kind : RequestKind) (progress : OperationState) :
    SpindleContext :=
  match kind with
  | .setStatus => { c with statusOp := progress }
  | .setSpeed => { c with speedOp := progress }
  | .getSpeed | .getMaxSpeed => c

lemma SpindleContext.mark_progress (c : SpindleContext) {kind : RequestKind}
    (h : kind.isCommand = true) (progress : OperationState) :
    (c.mark kind progress).progress kind = progress := by
  cases kind with
  | setStatus | setSpeed => rfl
  | getSpeed | getMaxSpeed => simp [RequestKind.isCommand] at h

lemma SpindleContext.mark_progress_of_ne (c : SpindleContext) {kind other : RequestKind}
    (h : other ≠ kind) (progress : OperationState) :
    (c.mark kind progress).progress other = c.progress other := by
  cases kind with
  | setStatus =>
    cases other with
    | setStatus => exact absurd rfl h
    | setSpeed | getSpeed | getMaxSpeed => rfl
  | setSpeed =>
    cases other with
    | setSpeed => exact absurd rfl h
    | setStatus | getSpeed | getMaxSpeed => rfl
  | getSpeed | getMaxSpeed => rfl

lemma SpindleContext.mark_queueStands (c : SpindleContext) (kind : RequestKind)
    (progress : OperationState) : c.QueueStands (c.mark kind progress) := by
  cases kind <;> exact ⟨rfl, fun _ h => h⟩

/-- Whether an exchange is an attempt that failed, and not one without waiting. -/
def SendMode.isFailedAttempt (mode : SendMode) (result : Exchange) : Bool :=
  mode = .blocking && !result.isOk

namespace Note

variable {ι : Type} [DecidableEq ι]

/-- Whether a note is of a call by the host. -/
def isCall : Note ι → Bool
  | called .. => true
  | _ => false

/-- Whether a note is of a failed attempt of a spindle at a kind of request. -/
def isFailure (i : ι) (kind : RequestKind) : Note ι → Bool
  | exchanged j request mode result =>
    i = j && request.kind = kind && mode.isFailedAttempt result
  | _ => false

end Note

namespace Workshop

open Operation

variable {ι World : Type} [DecidableEq ι]

/-! ## What the traffic tells -/

/-- The attempts of a spindle at a kind of request that have failed since the host's call. -/
def failures (i : ι) (kind : RequestKind) (traffic : List (Note ι)) : Nat :=
  (traffic.takeWhile (!·.isCall)).countP (Note.isFailure i kind)

/-- The attempts that had failed when the last exchange for a kind of request was over: none if it
succeeded or was made without waiting. -/
def lastFailures (i : ι) (kind : RequestKind) : List (Note ι) → Nat
  | [] => 0
  | .exchanged j request mode result :: older =>
    if i = j ∧ request.kind = kind then
      if mode.isFailedAttempt result then failures i kind older + 1 else 0
    else lastFailures i kind older
  | _ :: older => lastFailures i kind older

/-- **A request is handed over in order.**  Its own operation is at the attempt that follows the
failed ones; no other operation of any spindle is under way. -/
structure InOrder (i : ι) (request : Request) (mode : SendMode) (contexts : ι → SpindleContext)
    (older : List (Note ι)) : Prop where
  own : request.kind.isCommand = true → (contexts i).progress request.kind =
    .underway (if mode = .blocking then failures i request.kind older else 0)
  rest : ∀ kind, kind ≠ request.kind → ((contexts i).progress kind).isBusy = false
  others : ∀ j, j ≠ i → ∀ kind, ((contexts j).progress kind).isBusy = false

/-- Every request was handed over in order. -/
def Ordered : List (Note ι) → Prop
  | [] => True
  | .sending i request mode contexts :: older =>
    InOrder i request mode contexts older ∧ Ordered older
  | _ :: older => Ordered older

/-- An operation is over, and marked exactly if its last attempts were used up. -/
structure Settled (s : Spindle) (i : ι) (c : SpindleContext) (traffic : List (Note ι))
    (kind : RequestKind) : Prop where
  idle : (c.progress kind).isBusy = false
  failed_iff : c.progress kind = .failed ↔ lastFailures i kind traffic = s.retries

/-- **A spindle at rest.**  Its operations are over, and no reply waits or is being read. -/
structure AtRest (s : Spindle) (i : ι) (c : SpindleContext) (traffic : List (Note ι)) : Prop where
  settled : ∀ kind, Settled s i c traffic kind
  reading : c.reading = false
  inbox : c.inbox = []

section Traffic

variable {i j : ι} {kind : RequestKind} {traffic : List (Note ι)} {request : Request}
  {mode : SendMode} {result : Exchange} {contexts : ι → SpindleContext}

@[simp] lemma failures_called (i j : ι) (kind : RequestKind) (call : HostCall)
    (traffic : List (Note ι)) : failures i kind (.called j call :: traffic) = 0 := rfl

@[simp] lemma failures_sending :
    failures i kind (.sending j request mode contexts :: traffic) = failures i kind traffic := by
  simp [failures, Note.isCall, Note.isFailure]

lemma failures_exchanged :
    failures i kind (.exchanged j request mode result :: traffic) = failures i kind traffic +
      if i = j ∧ request.kind = kind ∧ mode.isFailedAttempt result = true then 1 else 0 := by
  simp [failures, Note.isCall, Note.isFailure, List.countP_cons, and_assoc]

lemma lastFailures_exchanged_self :
    lastFailures i request.kind (.exchanged i request mode result :: traffic) =
      if mode.isFailedAttempt result then failures i request.kind traffic + 1 else 0 := by
  simp [lastFailures]

lemma lastFailures_exchanged_of_ne (h : i = j → request.kind ≠ kind) :
    lastFailures i kind (.exchanged j request mode result :: traffic) =
      lastFailures i kind traffic := by
  rw [lastFailures, if_neg]
  rintro ⟨hij, hkind⟩
  exact h hij hkind

/-- What ordered traffic says of a request in it. -/
lemma Ordered.inOrder {newer : List (Note ι)}
    (h : Ordered (newer ++ .sending i request mode contexts :: traffic)) :
    InOrder i request mode contexts traffic := by
  induction newer with
  | nil => exact h.1
  | cons n newer ih =>
      cases n with
      | sending => exact ih h.2
      | called | exchanged | read | alarm => exact ih h

end Traffic

/-! ## One moment of a call -/

/-- **What holds at every moment of a call** by the host to a spindle.  All operations are settled
but that of the kind of request that is being exchanged, if there is one; `count` are the attempts
that have failed during the call. -/
structure Sound (shop : Workshop ι World) (i : ι) (exchanging : Option RequestKind)
    (count : RequestKind → Nat) (c : SpindleContext) (σ : Scene ι World) : Prop where
  settled : ∀ kind, exchanging ≠ some kind → Settled (shop.spindle i) i c σ.traffic kind
  others : ∀ j, j ≠ i → AtRest (shop.spindle j) j (σ.contexts j) σ.traffic
  ordered : Ordered σ.traffic
  failures : ∀ kind, failures i kind σ.traffic = count kind

/-- What is known of a call when it has come back. -/
def Over (shop : Workshop ι World) (i : ι) {α : Type} (r : Option α) (c : SpindleContext)
    (σ : Scene ι World) : Prop :=
  match r with
  | none => Ordered σ.traffic
  | some _ => (c.reading = false ∧ c.inbox = []) ∧ ∃ count, shop.Sound i none count c σ

variable {shop : Workshop ι World} {patience : Nat} {i : ι} {count : RequestKind → Nat}
  {c c' : SpindleContext} {σ σ' : Scene ι World} {kind : RequestKind}

namespace Sound

lemma opened (h : shop.Sound i none count c σ) (kind : RequestKind) :
    shop.Sound i (some kind) count c σ :=
  { h with settled := fun other _ => h.settled other (by simp) }

lemma closed (h : shop.Sound i (some kind) count c σ)
    (hkind : Settled (shop.spindle i) i c σ.traffic kind) : shop.Sound i none count c σ where
  settled other _ := by
    by_cases hother : kind = other
    · exact hother ▸ hkind
    · exact h.settled other (by simpa using hother)
  others := h.others
  ordered := h.ordered
  failures := h.failures

/-- Only the progress of operations matters, and not that of the one under way. -/
lemma congr {exchanging : Option RequestKind} (h : shop.Sound i exchanging count c σ)
    (hc : ∀ kind, exchanging ≠ some kind → c'.progress kind = c.progress kind) :
    shop.Sound i exchanging count c' σ where
  settled kind hkind :=
    ⟨by rw [hc kind hkind]; exact (h.settled kind hkind).idle,
      by rw [hc kind hkind]; exact (h.settled kind hkind).failed_iff⟩
  others := h.others
  ordered := h.ordered
  failures := h.failures

lemma mark (h : shop.Sound i (some kind) count c σ) (progress : OperationState) :
    shop.Sound i (some kind) count (c.mark kind progress) σ :=
  h.congr fun _ hother => c.mark_progress_of_ne (fun heq => hother (by rw [heq])) progress

/-- When an exchange is over everything is sound again, and its failures are up to date. -/
lemma exchanged {request : Request} {mode : SendMode} {result : Exchange}
    (h : shop.Sound i (some request.kind) count c σ)
    (order : InOrder i request mode (σ.put i c).contexts σ.traffic) (hc : c.Stands c')
    (hσ : ∀ j, j ≠ i → (σ.contexts j).Stands (σ'.contexts j))
    (htraffic : σ'.traffic = .exchanged i request mode result ::
      .sending i request mode (σ.put i c).contexts :: σ.traffic) :
    shop.Sound i (some request.kind)
      (if mode.isFailedAttempt result then
        Function.update count request.kind (count request.kind + 1) else count) c' σ' where
  settled kind hkind := by
    have hne : request.kind ≠ kind := fun heq => hkind (by rw [heq])
    have hsettled := h.settled kind hkind
    refine ⟨by rw [hc.progress]; exact hsettled.idle, ?_⟩
    rw [hc.progress, htraffic, lastFailures_exchanged_of_ne fun _ => hne]
    exact hsettled.failed_iff
  others j hj := by
    have hrest := h.others j hj
    refine ⟨fun kind => ⟨?_, ?_⟩, (hσ j hj).reading.trans hrest.reading,
      (hσ j hj).inbox hrest.reading hrest.inbox⟩
    · rw [(hσ j hj).progress]
      exact (hrest.settled kind).idle
    · rw [(hσ j hj).progress, htraffic, lastFailures_exchanged_of_ne fun heq => absurd heq hj]
      exact (hrest.settled kind).failed_iff
  ordered := by
    rw [htraffic]
    exact ⟨order, h.ordered⟩
  failures kind := by
    rw [htraffic, failures_exchanged, failures_sending, h.failures]
    by_cases hfailed : mode.isFailedAttempt result = true
    · by_cases hkind : request.kind = kind
      · subst hkind
        simp [hfailed]
      · simp [hfailed, hkind, Function.update_of_ne (Ne.symm hkind)]
    · simp [hfailed]

/-! ## Exchanges -/

/-- **One exchange.**  The request is handed over in order, whether or not the exchange ends. -/
lemma leads_exchange (request : Request) (mode : SendMode)
    (h : shop.Sound i (some request.kind) count c σ)
    (own : request.kind.isCommand = true → c.progress request.kind =
      .underway (if mode = .blocking then count request.kind else 0)) :
    Leads (Operation.exchange (shop.surroundings patience i) request mode) (fun r c' σ' =>
      match r with
      | none => Ordered σ'.traffic
      | some result => c.Stands c' ∧
        shop.Sound i (some request.kind)
          (if mode.isFailedAttempt result then
            Function.update count request.kind (count request.kind + 1) else count) c' σ' ∧
        lastFailures i request.kind σ'.traffic =
          if mode.isFailedAttempt result then count request.kind + 1 else 0) c σ := by
  have order : InOrder i request mode (σ.put i c).contexts σ.traffic := by
    refine ⟨fun hcommand => ?_, fun kind hkind => ?_, fun j hj kind => ?_⟩
    · rw [Scene.put_contexts_self, h.failures]
      exact own hcommand
    · rw [Scene.put_contexts_self]
      exact (h.settled kind (by simpa using hkind.symm)).idle
    · rw [Scene.put_contexts_of_ne _ hj]
      exact ((h.others j hj).settled kind).idle
  refine Workshop.leads_exchange (fun c' σ' htraffic => ?_)
    fun result c' σ' hc hσ htraffic => ⟨hc, h.exchanged order hc hσ htraffic, ?_⟩
  · simp only [htraffic]
    exact ⟨order, h.ordered⟩
  · rw [htraffic, lastFailures_exchanged_self, failures_sending, h.failures]

/-- An exchange without waiting leaves no failures behind, however it ends. -/
lemma leads_sendOnce {request : Request} (h : shop.Sound i (some request.kind) count c σ)
    (own : request.kind.isCommand = true → c.progress request.kind = .sending) :
    Leads (sendOnce (Operation.exchange (shop.surroundings patience i)) request) (fun r c' σ' =>
      match r with
      | none => Ordered σ'.traffic
      | some _ => c.Stands c' ∧ shop.Sound i (some request.kind) count c' σ' ∧
        lastFailures i request.kind σ'.traffic = 0) c σ := by
  refine Operation.leads_sendOnce ((h.leads_exchange request .nonBlocking (by
    simpa [OperationState.underway] using own)).mono ?_)
  rintro (_ | _ | _) c' σ' h'
  · exact h'
  · exact h'
  · exact h'

/-- **Attempts in a row.**  The number of the attempt is that of the failed ones and one more; when
they are used up as many have failed as there are. -/
lemma leads_sendRepeatedly (patience : Nat) (request : Request)
    (retries : 0 < (shop.spindle i).retries)
    (h : shop.Sound i (some request.kind) count c σ) (command : request.kind.isCommand = true)
    (own : c.progress request.kind = .sending) (fresh : count request.kind = 0) :
    Leads (sendRepeatedly (Operation.exchange (shop.surroundings patience i)) request
        (shop.spindle i).retries fun n => update (·.mark request.kind (.retrying n)))
      (fun r c' σ' =>
        match r with
        | none => Ordered σ'.traffic
        | some outcome => c.QueueStands c' ∧
          (∃ n, shop.Sound i (some request.kind) (Function.update count request.kind n) c' σ') ∧
          lastFailures i request.kind σ'.traffic =
            if outcome.isOk then 0 else (shop.spindle i).retries) c σ := by
  have hmax : max (shop.spindle i).retries 1 = (shop.spindle i).retries := by omega
  refine Operation.leads_sendRepeatedly
    (fun k _ c' σ' => c.QueueStands c' ∧ c'.progress request.kind = .underway k ∧
      shop.Sound i (some request.kind) (Function.update count request.kind k) c' σ' ∧
      (k ≠ 0 → lastFailures i request.kind σ'.traffic = k))
    ⟨.refl c, own, by rwa [← fresh, Function.update_eq_self], by simp⟩ ?_ ?_
  · rintro k last c' σ' - ⟨hqueue, hprogress, hsound, -⟩
    refine (hsound.leads_exchange request .blocking fun _ => by simpa using hprogress).mono ?_
    rintro (_ | e | reply?) c'' σ'' h'
    · exact h'
    · obtain ⟨hstands, hsound', hlast⟩ := h'
      simp only [SendMode.isFailedAttempt, Except.isOk, Except.toBool, decide_true, Bool.not_false,
        Bool.and_true, if_true, Function.update_self, Function.update_idem] at hsound' hlast
      refine ⟨(hqueue.trans hstands.toQueueStands).trans (c''.mark_queueStands ..),
        c''.mark_progress command _, hsound'.mark _, fun _ => hlast⟩
    · obtain ⟨hstands, hsound', hlast⟩ := h'
      exact ⟨hqueue.trans hstands.toQueueStands, ⟨k, hsound'⟩, hlast⟩
  · rintro last c' σ' ⟨hqueue, -, hsound, hlast⟩
    rw [hmax] at hsound hlast
    exact ⟨hqueue, ⟨_, hsound⟩, hlast (by omega)⟩

/-! ## The ends of operations -/

/-- What does not touch the traffic, the states of other spindles or the two operations leaves
everything as sound as it was. -/
lemma framed {exchanging : Option RequestKind} (h : shop.Sound i exchanging count c σ)
    (htraffic : σ'.traffic = σ.traffic) (hcontexts : σ'.contexts = σ.contexts)
    (hstatus : c'.statusOp = c.statusOp) (hspeed : c'.speedOp = c.speedOp) :
    shop.Sound i exchanging count c' σ' := by
  have hscene : shop.Sound i exchanging count c σ' :=
    { settled := by rw [htraffic]; exact h.settled
      others := by rw [htraffic, hcontexts]; exact h.others
      ordered := by rw [htraffic]; exact h.ordered
      failures := by rw [htraffic]; exact h.failures }
  refine hscene.congr fun kind _ => ?_
  cases kind with
  | setStatus => exact hstatus
  | setSpeed => exact hspeed
  | getSpeed => rfl
  | getMaxSpeed => rfl

/-- The operation whose exchange is over is settled once its progress says how it ended. -/
lemma ended (retries : 0 < (shop.spindle i).retries) (h : shop.Sound i (some kind) count c σ)
    (ok : Bool)
    (hlast : lastFailures i kind σ.traffic = if ok then 0 else (shop.spindle i).retries)
    (hkind : c'.progress kind = if ok then .idle else .failed)
    (hothers : ∀ other, other ≠ kind → c'.progress other = c.progress other) :
    shop.Sound i none count c' σ := by
  refine closed (h.congr fun other hother => hothers other fun heq => hother (by rw [heq])) ?_
  refine ⟨?_, ?_⟩
  · rw [hkind]
    cases ok <;> rfl
  · rw [hkind, hlast]
    cases ok
    · simp
    · simp only [if_true]
      exact ⟨by simp, fun hzero => absurd hzero (by omega)⟩

/-- The exchange for a speed: only one that waits counts its failures. -/
lemma leads_exchangeSpeed {request : Request} {blocking : Bool}
    (retries : 0 < (shop.spindle i).retries) (speed : request.kind = .setSpeed)
    (h : shop.Sound i (some .setSpeed) count c σ) (own : c.speedOp = .sending)
    (fresh : blocking = true → count .setSpeed = 0) :
    Leads ((shop.spindle i).exchangeSpeed (shop.surroundings patience i) request blocking)
      (fun r c' σ' =>
        match r with
        | none => Ordered σ'.traffic
        | some outcome => c.QueueStands c' ∧
          (∃ n, shop.Sound i (some .setSpeed) (Function.update count .setSpeed n) c' σ' ∧
            (blocking = false → n = count .setSpeed)) ∧
          lastFailures i .setSpeed σ'.traffic =
            if outcome.isOk then 0 else (shop.spindle i).retries) c σ := by
  rw [← speed] at h
  cases blocking
  · simp only [Spindle.exchangeSpeed, Bool.false_eq_true, if_false, leads_map]
    refine (h.leads_sendOnce fun _ => by rw [speed]; exact own).mono ?_
    rintro (_ | reply?) c' σ' h'
    · exact h'
    · rw [speed] at h'
      obtain ⟨hstands, hsound, hlast⟩ := h'
      exact ⟨hstands.toQueueStands,
        ⟨count .setSpeed, by rwa [Function.update_eq_self], fun _ => rfl⟩, hlast⟩
  · have hsend := h.leads_sendRepeatedly patience request retries (by rw [speed]; rfl)
      (by rw [speed]; exact own) (by rw [speed]; exact fresh rfl)
    rw [speed] at hsend
    refine hsend.mono ?_
    rintro (_ | outcome) c' σ' h'
    · exact h'
    · obtain ⟨hqueue, ⟨n, hsound⟩, hlast⟩ := h'
      exact ⟨hqueue, ⟨n, hsound, by simp⟩, hlast⟩

/-- **Sending a speed.**  It is in order if no speed has failed before in this call or no attempts
are made; after it everything is settled. -/
lemma leads_sendSpeed {onReply : Reply → Operation (Scene ι World) Unit} {rpm : Binary32}
    {blocking : Bool} (retries : 0 < (shop.spindle i).retries)
    (hReply : ∀ reply count c' σ', c.QueueStands c' → shop.Sound i none count c' σ' →
      Leads (onReply reply) (fun r c'' σ'' =>
        match r with
        | none => Ordered σ''.traffic
        | some () => c.QueueStands c'' ∧ shop.Sound i none count c'' σ'') c' σ')
    (h : shop.Sound i none count c σ) (fresh : blocking = true → count .setSpeed = 0) :
    Leads ((shop.spindle i).sendSpeed (shop.surroundings patience i) onReply rpm blocking)
      (fun r c' σ' =>
        match r with
        | none => Ordered σ'.traffic
        | some _ => c.QueueStands c' ∧
          ∃ n, shop.Sound i none (Function.update count .setSpeed n) c' σ' ∧
            (blocking = false → n = count .setSpeed)) c σ := by
  have hsame : shop.Sound i none (Function.update count .setSpeed (count .setSpeed)) c σ := by
    rwa [Function.update_eq_self]
  refine Operation.leads_sendSpeed (fun _ => ⟨.refl c, _, hsame, fun _ => rfl⟩)
    (fun _ _ => ⟨.refl c, _, hsame, fun _ => rfl⟩) fun _ _ => ?_
  refine ((h.opened .setSpeed).mark .sending |>.leads_exchangeSpeed retries rfl rfl fresh).mono ?_
  rintro (_ | outcome) c' σ' h'
  · exact h'
  obtain ⟨hqueue, ⟨n, hsound, hn⟩, hlast⟩ := h'
  have hend : ∀ tolerance, shop.Sound i none (Function.update count .setSpeed n)
      (c'.endSpeed rpm tolerance (.after outcome)) σ' := fun tolerance =>
    hsound.ended retries outcome.isOk hlast (by cases outcome <;> rfl) fun other hother => by
      cases other with
      | setSpeed => exact absurd rfl hother
      | setStatus | getSpeed | getMaxSpeed => rfl
  have hqueue' : ∀ tolerance progress, c.QueueStands (c'.endSpeed rpm tolerance progress) :=
    fun _ _ => ⟨hqueue.reading, hqueue.inbox⟩
  obtain e | _ | reply := outcome
  · exact ⟨hqueue' _ _, n, (hend _).framed rfl rfl rfl rfl, hn⟩
  · exact ⟨hqueue' _ _, n, hend _, hn⟩
  · refine (hReply reply _ _ σ' (hqueue' _ _) (hend _)).mono ?_
    rintro (_ | _) c'' σ'' h''
    · exact h''
    · exact ⟨h''.1, n, h''.2, hn⟩

/-! ## Replies -/

/-- Sending a speed again while replies are read: its reply joins the queue. -/
lemma leads_heed (retries : 0 < (shop.spindle i).retries) (finding : Finding)
    (h : shop.Sound i none count c σ) (hreading : c.reading = true) :
    Leads ((shop.spindle i).heed (shop.surroundings patience i) finding) (fun r c' σ' =>
      match r with
      | none => Ordered σ'.traffic
      | some () => c'.reading = true ∧ shop.Sound i none count c' σ') c σ := by
  have halarm : ∀ {c' : SpindleContext} {σ' : Scene ι World}, shop.Sound i none count c' σ' →
      shop.Sound i none count c'
        (if finding.escalates then (shop.surroundings patience i).raiseAlarm σ' else σ') := by
    intro c' σ' h'
    split
    · exact h'.framed rfl rfl rfl rfl
    · exact h'
  refine Operation.leads_heed (Operation.leads_reissue (fun _ => ⟨hreading, halarm h⟩)
    fun rpm _ => ?_)
  refine (h.leads_sendSpeed retries (fun reply count' c' σ' hqueue h' => ?_) (by simp)).mono ?_
  · exact (leads_enqueue reply).2
      ⟨⟨hqueue.reading, by simp [hreading]⟩, h'.framed rfl rfl rfl rfl⟩
  · rintro (_ | _) c' σ' h'
    · exact h'
    · obtain ⟨hqueue, n, hsound, hn⟩ := h'
      rw [hn rfl, Function.update_eq_self] at hsound
      exact ⟨hqueue.reading.trans hreading, halarm hsound⟩

/-- **Reading replies.**  Each may send a speed again, one after the other; in the end none
waits. -/
lemma leads_deliver (retries : 0 < (shop.spindle i).retries) (patience' : Nat) (reply : Reply)
    (h : shop.Sound i none count c σ) (hreading : c.reading = false) :
    Leads ((shop.spindle i).deliver (shop.surroundings patience i) patience' reply) (fun r c' σ' =>
      match r with
      | none => Ordered σ'.traffic
      | some () => (c'.reading = false ∧ c'.inbox = []) ∧ shop.Sound i none count c' σ') c σ := by
  refine Operation.leads_deliver (fun hr => by simp [hr] at hreading) fun _ => ?_
  refine leads_readReplies (fun c' σ' => c'.reading = true ∧ shop.Sound i none count c' σ')
    (fun _ _ h' => h'.2.ordered) (fun c' σ' h' => ?_) patience' _ σ
    ⟨rfl, h.framed rfl rfl rfl rfl⟩
  obtain ⟨hreading', hsound⟩ := h'
  refine leads_readReply (fun hempty => ⟨⟨rfl, hempty⟩, hsound.framed rfl rfl rfl rfl⟩)
    fun reply rest _ => ?_
  have hjournal : shop.Sound i none count ((shop.spindle i).takeIn reply rest
      ((shop.surroundings patience i).isColdStart σ') c')
      ((shop.surroundings patience i).journal reply
        ((shop.surroundings patience i).isColdStart σ') c' σ') :=
    hsound.framed rfl rfl rfl rfl
  refine (hjournal.leads_heed retries _ hreading').mono ?_
  rintro (_ | _) c'' σ'' h''
  · exact h''
  · exact h''

lemma leads_deliverAny (retries : 0 < (shop.spindle i).retries) (patience' : Nat)
    (reply? : Option Reply) (h : shop.Sound i none count c σ) (hreading : c.reading = false)
    (hinbox : c.inbox = []) :
    Leads ((shop.spindle i).deliverAny (shop.surroundings patience i) patience' reply?)
      (fun r c' σ' =>
        match r with
        | none => Ordered σ'.traffic
        | some () => (c'.reading = false ∧ c'.inbox = []) ∧ shop.Sound i none count c' σ') c σ :=
  Operation.leads_deliverAny (fun _ => ⟨⟨hreading, hinbox⟩, h⟩) fun reply _ =>
    h.leads_deliver retries patience' reply hreading

/-! ## Calls -/

lemma leads_setSpeed (retries : 0 < (shop.spindle i).retries) (rpm : Binary32) (blocking : Bool)
    (h : shop.Sound i none count c σ) (fresh : count .setSpeed = 0) (hreading : c.reading = false)
    (hinbox : c.inbox = []) :
    Leads ((shop.spindle i).setSpeed (shop.surroundings patience i) patience rpm blocking)
      (shop.Over i) c σ := by
  refine (h.leads_sendSpeed retries (fun reply count' c' σ' hqueue h' => ?_)
    fun _ => fresh).mono ?_
  · refine (h'.leads_deliver retries patience reply (hqueue.reading.trans hreading)).mono ?_
    rintro (_ | _) c'' σ'' h''
    · exact h''
    · obtain ⟨⟨hreading', hinbox'⟩, hsound⟩ := h''
      exact ⟨⟨hreading'.trans hreading.symm, fun _ _ => hinbox'⟩, hsound⟩
  · rintro (_ | _) c' σ' h'
    · exact h'
    · obtain ⟨hqueue, n, hsound, -⟩ := h'
      exact ⟨⟨hqueue.reading.trans hreading, hqueue.inbox hreading hinbox⟩, _, hsound⟩

/-- The speed that follows a start is the first that waits in this call. -/
lemma leads_setState (retries : 0 < (shop.spindle i).retries) (state : SpindleState)
    (rpm : Binary32) (h : shop.Sound i none count c σ) (fresh : ∀ kind, count kind = 0)
    (hreading : c.reading = false) (hinbox : c.inbox = []) :
    Leads ((shop.spindle i).setState (shop.surroundings patience i) patience state rpm)
      (shop.Over i) c σ := by
  refine Operation.leads_setState (fun _ => ⟨⟨hreading, hinbox⟩, _, h⟩)
    (fun _ _ => ⟨⟨hreading, hinbox⟩, _, h⟩) fun _ _ => ?_
  have htaken : shop.Sound i (some .setStatus) count (c.takeCommand state) σ :=
    (h.opened .setStatus).congr fun kind hkind => by
      cases kind with
      | setStatus => exact absurd rfl hkind
      | setSpeed | getSpeed | getMaxSpeed => rfl
  have hsend := htaken.leads_sendRepeatedly patience
    (.command c.address (shop.spindle i).registers
      (.run (.forRequest state.on rpm) (.ofCcw state.ccw))) retries rfl rfl (fresh _)
  refine hsend.mono ?_
  rintro (_ | outcome) c' σ' h'
  · exact h'
  obtain ⟨hqueue, ⟨n, hsound⟩, hlast⟩ := h'
  have hreading' : c'.reading = false := hqueue.reading.trans hreading
  have hinbox' : c'.inbox = [] := hqueue.inbox hreading hinbox
  have hend : shop.Sound i none (Function.update count .setStatus n)
      { c' with statusOp := if outcome.isOk then .idle else .failed } σ' :=
    hsound.ended retries outcome.isOk hlast rfl fun other hother => by
      cases other with
      | setStatus => exact absurd rfl hother
      | setSpeed | getSpeed | getMaxSpeed => rfl
  obtain e | reply? := outcome
  · exact ⟨⟨hreading', hinbox'⟩, _, hend.framed rfl rfl rfl rfl⟩
  · refine (hend.leads_deliverAny retries patience reply? hreading' hinbox').mono ?_
    rintro (_ | _) c'' σ'' h''
    · exact h''
    · obtain ⟨⟨hreading'', hinbox''⟩, hsound''⟩ := h''
      refine hsound''.leads_setSpeed retries rpm true ?_ hreading'' hinbox''
      rw [Function.update_of_ne (by decide)]
      exact fresh .setSpeed

/-- A reading is no operation, so nothing is under way during its exchange. -/
lemma leads_reading (retries : 0 < (shop.spindle i).retries) {request : Request}
    (reading : request.kind.isCommand = false) (h : shop.Sound i none count c σ)
    (hreading : c.reading = false) (hinbox : c.inbox = []) :
    Leads (sendOnce (Operation.exchange (shop.surroundings patience i)) request) (fun r c' σ' =>
      match r with
      | none => Ordered σ'.traffic
      | some _ => (c'.reading = false ∧ c'.inbox = []) ∧ shop.Sound i none count c' σ') c σ := by
  refine ((h.opened request.kind).leads_sendOnce (by simp [reading])).mono ?_
  rintro (_ | reply?) c' σ' h'
  · exact h'
  · obtain ⟨hstands, hsound, hlast⟩ := h'
    refine ⟨⟨hstands.reading.trans hreading, hstands.inbox hreading hinbox⟩, ?_⟩
    refine hsound.ended retries true hlast ?_ fun _ _ => rfl
    cases hkind : request.kind <;> simp [hkind, RequestKind.isCommand] at reading ⊢ <;> rfl

lemma leads_getState (retries : 0 < (shop.spindle i).retries) (h : shop.Sound i none count c σ)
    (hreading : c.reading = false) (hinbox : c.inbox = []) :
    Leads ((shop.spindle i).getState (shop.surroundings patience i) patience)
      (shop.Over i) c σ := by
  refine Operation.leads_getState (fun _ => ⟨⟨hreading, hinbox⟩, _, h.framed rfl rfl rfl rfl⟩)
    fun _ _ => ?_
  have hpolled : shop.Sound i none count
      { c with lastPoll := some ((shop.surroundings patience i).elapsed σ) } σ :=
    h.framed rfl rfl rfl rfl
  refine (hpolled.leads_reading retries rfl hreading hinbox).mono ?_
  rintro (_ | reply?) c' σ' h'
  · exact h'
  · obtain ⟨⟨hreading', hinbox'⟩, hsound⟩ := h'
    refine (hsound.leads_deliverAny retries patience reply? hreading' hinbox').mono ?_
    rintro (_ | _) c'' σ'' h''
    · exact h''
    · exact ⟨h''.1, _, h''.2.framed rfl rfl rfl rfl⟩

lemma leads_requestMaxSpeed (retries : 0 < (shop.spindle i).retries)
    (h : shop.Sound i none count c σ) (hreading : c.reading = false) (hinbox : c.inbox = []) :
    Leads ((shop.spindle i).requestMaxSpeed (shop.surroundings patience i) patience)
      (shop.Over i) c σ := by
  refine Operation.leads_requestMaxSpeed (fun _ => ⟨⟨hreading, hinbox⟩, _, h⟩)
    (fun _ _ => ⟨⟨hreading, hinbox⟩, _, h⟩) fun _ request hrequest => ?_
  obtain ⟨register, -, rfl⟩ := Option.map_eq_some_iff.1 hrequest
  refine (h.leads_reading retries rfl hreading hinbox).mono ?_
  rintro (_ | reply?) c' σ' h'
  · exact h'
  · obtain ⟨⟨hreading', hinbox'⟩, hsound⟩ := h'
    refine (hsound.leads_deliverAny retries patience reply? hreading' hinbox').mono ?_
    rintro (_ | _) c'' σ'' h''
    · exact h''
    · exact ⟨h''.1, _, h''.2⟩

lemma leads_bindTo (retries : 0 < (shop.spindle i).retries) (selection : Selection)
    (h : shop.Sound i none count c σ) (hreading : c.reading = false) (hinbox : c.inbox = []) :
    Leads ((shop.spindle i).bind (shop.surroundings patience i) patience selection)
      (shop.Over i) c σ := by
  refine Operation.leads_bindTo (fun _ => ⟨⟨hreading, hinbox⟩, _, h.framed rfl rfl rfl rfl⟩)
    fun _ => ?_
  have hbound : shop.Sound i none count
      { c with
        selection := some selection
        data := { c.data with programmed := noSpeed }
        address := (shop.spindle i).config.modbusAddress selection.binding }
      ((shop.surroundings patience i).silence σ) :=
    h.framed rfl rfl rfl rfl
  dsimp only
  split
  · refine (hbound.leads_requestMaxSpeed retries hreading hinbox).mono ?_
    rintro (_ | _) c' σ' h' <;> exact h'
  · exact ⟨⟨hreading, hinbox⟩, _, hbound⟩

/-- **Every call is sound from its beginning to its end**, and when it has come back everything is
settled. -/
theorem leads_carryOut (patience : Nat) (retries : 0 < (shop.spindle i).retries) (call : HostCall)
    (h : shop.Sound i none count c σ) (fresh : ∀ kind, count kind = 0)
    (hreading : c.reading = false) (hinbox : c.inbox = []) :
    Leads ((shop.spindle i).carryOut (shop.surroundings patience i) patience call)
      (shop.Over i) c σ := by
  have map : ∀ {α : Type} {op : Operation (Scene ι World) α} (f : α → Answer),
      Leads op (shop.Over i) c σ → Leads op (fun r => shop.Over i (r.map f)) c σ := by
    intro α op f hop
    refine hop.mono ?_
    rintro (_ | _) c' σ' h' <;> exact h'
  cases call <;> simp only [Spindle.carryOut, leads_map]
  case bind selection => exact map _ (h.leads_bindTo retries selection hreading hinbox)
  case applySettings settings changed =>
    exact map _ (leads_applySettings (fun _ => ⟨⟨hreading, hinbox⟩, _, h⟩) fun _ =>
      ⟨⟨hreading, hinbox⟩, _, h.framed rfl rfl rfl rfl⟩)
  case setState state rpm => exact map _ (h.leads_setState retries state rpm fresh hreading hinbox)
  case setSpeed rpm blocking =>
    exact map _ (h.leads_setSpeed retries rpm blocking (fresh _) hreading hinbox)
  case getState => exact map _ (h.leads_getState retries hreading hinbox)
  case getData => exact ⟨⟨hreading, hinbox⟩, _, h⟩
  case requestMaxSpeed => exact map _ (h.leads_requestMaxSpeed retries hreading hinbox)
  case deliver reply =>
    refine (h.leads_deliver retries patience reply hreading).mono ?_
    rintro (_ | _) c' σ' h'
    · exact h'
    · exact ⟨h'.1, _, h'.2⟩

end Sound

/-! ## Runs -/

/-- Between calls every spindle is at rest, and what was handed over was in order. -/
structure Calm (shop : Workshop ι World) (σ : Scene ι World) : Prop where
  rest : ∀ i, AtRest (shop.spindle i) i (σ.contexts i) σ.traffic
  ordered : Ordered σ.traffic

/-- A call that is only noted yet disturbs no spindle. -/
lemma AtRest.called {s : Spindle} {traffic : List (Note ι)} (h : AtRest s i c traffic) (j : ι)
    (call : HostCall) : AtRest s i c (.called j call :: traffic) :=
  ⟨fun kind => ⟨(h.settled kind).idle, (h.settled kind).failed_iff⟩, h.reading, h.inbox⟩

/-- A call begins with no attempts made. -/
lemma Calm.sound (h : shop.Calm σ) (i : ι) (call : HostCall) :
    shop.Sound i none (fun _ => 0) (σ.contexts i) (σ.note (.called i call)) where
  settled kind _ := ((h.rest i).called i call).settled kind
  others j _ := (h.rest j).called i call
  ordered := h.ordered
  failures kind := failures_called i i kind call σ.traffic

/-- What a call that has come back leaves is calm again. -/
lemma calm_of_sound (h : shop.Sound i none count c σ) (hreading : c.reading = false)
    (hinbox : c.inbox = []) : shop.Calm (σ.put i c) where
  rest j := by
    by_cases hj : j = i
    · subst hj
      rw [Scene.put_contexts_self]
      exact ⟨fun kind => h.settled kind (by simp), hreading, hinbox⟩
    · rw [Scene.put_contexts_of_ne _ hj]
      exact h.others j hj
  ordered := h.ordered

lemma Calm.call (h : shop.Calm σ) (retries : 0 < (shop.spindle i).retries) (patience : Nat)
    (call : HostCall) :
    match (shop.call patience i call σ).1 with
    | none => Ordered (shop.call patience i call σ).2.traffic
    | some _ => shop.Calm (shop.call patience i call σ).2 := by
  have hrest := h.rest i
  have hover := (h.sound i call).leads_carryOut patience retries call
    (fun _ => rfl) hrest.reading hrest.inbox
  obtain ⟨c, σ', hend, hσ'⟩ := exists_of_call hover
    (show shop.call patience i call σ =
      ((shop.call patience i call σ).1, (shop.call patience i call σ).2) from rfl)
  rw [hσ']
  cases hanswer : (shop.call patience i call σ).1 with
  | none =>
      rw [hanswer] at hend
      exact hend
  | some answer =>
      rw [hanswer] at hend
      obtain ⟨⟨hreading, hinbox⟩, count, hsound⟩ := hend
      exact calm_of_sound hsound hreading hinbox

omit [DecidableEq ι] in
/-- A spindle that was set up makes at least one attempt. -/
lemma IsNew.retries {start : Scene ι World} (new : shop.IsNew start) (i : ι) :
    0 < (shop.spindle i).retries := by
  obtain ⟨id, config, hmake⟩ := new.2 i
  exact (Spindle.make_eq_ok hmake).2.1

lemma IsNew.calm {start : Scene ι World} (new : shop.IsNew start) : shop.Calm start := by
  have htraffic : start.traffic = [] := by rw [Scene.traffic, new.1, List.filter_nil]
  refine ⟨fun i => ?_, by rw [htraffic]; trivial⟩
  obtain ⟨id, config, hmake⟩ := new.2 i
  obtain ⟨-, -, hc⟩ := Spindle.make_eq_ok hmake
  refine ⟨fun kind => ?_, by rw [hc], by rw [hc]⟩
  have hidle : (start.contexts i).progress kind = .idle := by
    rw [hc]
    cases kind <;> rfl
  have hretries := new.retries i
  refine ⟨by rw [hidle]; rfl, ?_⟩
  rw [hidle, htraffic, lastFailures]
  exact ⟨by simp, fun hzero => absurd hzero (Nat.ne_of_lt hretries)⟩

lemma Reaches.calm {start : Scene ι World} (new : shop.IsNew start) (h : shop.Reaches start σ) :
    shop.Calm σ := by
  induction h with
  | refl => exact new.calm
  | outside world h ih => exact ⟨ih.rest, ih.ordered⟩
  | call patience i call answer h back ih =>
      have hcall := ih.call (new.retries i) patience call
      rw [back] at hcall
      exact hcall

/-- **How far operations are.**  From a scene in which every spindle is new, whatever the transports
answer and whomever they call meanwhile:

* between calls every operation is idle or failed, failed exactly if all attempts of its last
  exchange were used up and failed, no reply waits, and none is being read;
* whenever a request is handed over during a call, whether or not the call comes back, the
  operation of the request is at the attempt that follows those that have failed, and no other
  operation of any spindle is under way. -/
theorem states_of_run (shop : Workshop ι World) {start σ : Scene ι World} (new : shop.IsNew start)
    (h : shop.Reaches start σ) :
    (∀ i, (∀ kind, ((σ.contexts i).progress kind = .idle ∨ (σ.contexts i).progress kind = .failed) ∧
        ((σ.contexts i).progress kind = .failed ↔
          lastFailures i kind σ.traffic = (shop.spindle i).retries)) ∧
      (σ.contexts i).inbox = [] ∧ (σ.contexts i).reading = false) ∧
    ∀ patience i call newer older j request mode contexts,
      (shop.call patience i call σ).2.traffic =
        newer ++ .sending j request mode contexts :: older →
      InOrder j request mode contexts older := by
  have hcalm := h.calm new
  refine ⟨fun i => ?_, ?_⟩
  · have hrest := hcalm.rest i
    refine ⟨fun kind => ⟨?_, (hrest.settled kind).failed_iff⟩, hrest.inbox, hrest.reading⟩
    have hidle := (hrest.settled kind).idle
    cases hp : (σ.contexts i).progress kind <;> simp_all [OperationState.isBusy]
  · intro patience i call newer older j request mode contexts htraffic
    have hcall := hcalm.call (new.retries i) patience call
    have hordered : Ordered (shop.call patience i call σ).2.traffic := by
      cases hanswer : (shop.call patience i call σ).1 with
      | none =>
          rw [hanswer] at hcall
          exact hcall
      | some answer =>
          rw [hanswer] at hcall
          exact hcall.ordered
    rw [htraffic] at hordered
    exact hordered.inOrder

/-- On a dead line a spindle that is selected and told to start ends with a failed operation, both
attempts having failed, and sends a speed in order when it is told to. -/
theorem states_of_dead_run :
    (dead.IsNew deadStart ∧ dead.Reaches deadStart deadFailed) ∧
      (deadFailed.contexts ()).statusOp = .failed ∧
      lastFailures () .setStatus deadFailed.traffic = (dead.spindle ()).retries ∧
      ∀ newer older j request mode contexts,
        (dead.call 1 () (.setSpeed (.ofNat 600) true) deadFailed).2.traffic =
          newer ++ .sending j request mode contexts :: older →
        InOrder j request mode contexts older :=
  have new : dead.IsNew deadStart := ⟨rfl, fun _ => ⟨⟨0⟩, { retries := 2 }, rfl⟩⟩
  have run : dead.Reaches deadStart deadFailed := .call 1 () _ _ (.call 1 () _ _ .refl rfl) rfl
  have ⟨rest, order⟩ := states_of_run dead new run
  have failed : (deadFailed.contexts ()).statusOp = .failed := rfl
  ⟨⟨new, run⟩, failed, ((rest ()).1 .setStatus).2.1 failed,
    order 1 () (.setSpeed (.ofNat 600) true)⟩

end Workshop

end SpindleDrive
