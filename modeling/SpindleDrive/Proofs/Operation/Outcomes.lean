import SpindleDrive.Proofs.Number.Sign
import SpindleDrive.Proofs.Operation.HostCall

/-!
# What a command comes to, result by result

A command to start or stop goes through two rows of attempts, with the reading of a reply between
them and perhaps more replies after them.  Which requests are sent, and how the command ends, is
settled by the results that the transport gives one after the other.

* `SendResult`, `SendResult.failures` — the result of one request, and the failures in a row of
  them.
* `Move`, `Surroundings.Plays` — what a spindle does for all to see, and a transport that gives
  these results whatever it is asked.
* `Attempted`, `Aftermath`, `SpeedEnd`, `CommandEnd` — what comes of a row of attempts, of the
  replies after a speed, of a speed and of a command.
* `Plays.leads_sendRepeatedly` — a row of attempts comes to what its results say.
* `Plays.leads_readReply`, **`Plays.leads_readReplies`** — the replies to a speed: the step reads
  one and sends the speed again if it is refused, the run goes on for as long as it is.
* **`Spindle.outcome_of_results`** — the requests and the end of a command, for every row of
  results.
-/

namespace SpindleDrive

open Operation

/-! ## Results -/

/-- What a transport gives for a request, but for the tag that it returns with an answer. -/
abbrev SendResult := Except TransportError (Option ReplyOutcome)

namespace SendResult

/-- The result as an exchange: an answer comes under the tag of its request. -/
def tagged (kind : RequestKind) (result : SendResult) : Exchange :=
  result.map fun outcome? => outcome?.map fun outcome => ⟨kind, outcome⟩

/-- The answer that is there at once, if there is one. -/
def answer? : SendResult → Option ReplyOutcome
  | .ok outcome? => outcome?
  | .error _ => none

def isRefusal (result : SendResult) : Bool :=
  match result.answer? with
  | some (.exception _) => true
  | _ => false

/-- **The failures before the first success**, counted from one result on and up to a bound. -/
def failures (results : Nat → SendResult) (start : Nat) : Nat → Nat
  | 0 => 0
  | bound + 1 =>
    match results start with
    | .error _ => failures results (start + 1) bound + 1
    | .ok _ => 0

variable {results : Nat → SendResult} {start k bound : Nat}

lemma failures_succ_of_error {e : TransportError} (h : results start = .error e) :
    failures results start (bound + 1) = failures results (start + 1) bound + 1 := by
  rw [failures, h]

/-- Failures that are known come first in the count. -/
lemma failures_add (h : ∀ i < k, ∃ e, results (start + i) = .error e) :
    failures results start (k + bound) = k + failures results (start + k) bound := by
  induction k generalizing start with
  | zero => simp
  | succ k ih =>
      obtain ⟨e, he⟩ : ∃ e, results start = .error e := h 0 (Nat.zero_lt_succ k)
      have hrest := @ih (start + 1) fun i hi => by
        rw [Nat.add_assoc, Nat.add_comm 1]
        exact h (i + 1) (Nat.succ_lt_succ hi)
      rw [Nat.add_right_comm k, failures_succ_of_error he, hrest, Nat.add_assoc start,
        Nat.add_comm 1 k]
      omega

lemma failures_eq_bound (h : ∀ i < bound, ∃ e, results (start + i) = .error e) :
    failures results start bound = bound := by
  have hadd : failures results start (bound + 0) = bound + failures results (start + bound) 0 :=
    failures_add h
  simpa [failures] using hadd

lemma failures_eq_of_ok (h : ∀ i < k, ∃ e, results (start + i) = .error e) (hk : k < bound)
    {outcome? : Option ReplyOutcome} (hok : results (start + k) = .ok outcome?) :
    failures results start bound = k := by
  obtain ⟨rest, rfl⟩ : ∃ rest, bound = k + (rest + 1) := ⟨bound - k - 1, by omega⟩
  rw [failures_add h, failures, hok, Nat.add_zero]

end SendResult

/-! ## Moves -/

/-- What a spindle does for all to see. -/
inductive Move where
  | sent (request : Request) (mode : SendMode)
  | read (reply : Reply)
  | alarm
  deriving DecidableEq, Repr

namespace Move

def isSent : Move → Bool
  | sent .. => true
  | read _ | alarm => false

/-- The requests among some moves. -/
def sends (moves : List Move) : Nat := moves.countP isSent

@[simp] lemma sends_append (moves more : List Move) :
    sends (moves ++ more) = sends moves + sends more :=
  List.countP_append

lemma sends_cons (move : Move) (moves : List Move) :
    sends (move :: moves) = sends moves + if move.isSent then 1 else 0 :=
  List.countP_cons

@[simp] lemma sends_alarmIf (escalated : Bool) :
    sends (if escalated then [alarm] else []) = 0 := by
  cases escalated <;> rfl

@[simp] lemma sends_replicate_sent (n : Nat) (request : Request) (mode : SendMode) :
    sends (List.replicate n (sent request mode)) = n := by
  simp [sends, List.countP_replicate, isSent]

/-- The moves that the reading of an answer comes to if it has nothing sent again. -/
def reading (kind : RequestKind) (escalated : Bool) : Option ReplyOutcome → List Move
  | none => []
  | some outcome => read ⟨kind, outcome⟩ :: if escalated then [alarm] else []

@[simp] lemma sends_reading (kind : RequestKind) (escalated : Bool)
    (outcome? : Option ReplyOutcome) : sends (reading kind escalated outcome?) = 0 := by
  cases outcome? <;> cases escalated <;> rfl

/-- What may follow a speed: it is sent again without waiting, and replies to it are read. -/
def IsAftermath (speed : Request) : Move → Prop
  | .sent request mode => request = speed ∧ mode = .nonBlocking
  | .read reply => reply.kind = .setSpeed
  | .alarm => True

lemma isAftermath_of_mem_alarmIf {speed : Request} {escalated : Bool} {move : Move}
    (h : move ∈ if escalated then [alarm] else []) : move.IsAftermath speed := by
  obtain rfl : move = .alarm := by
    cases escalated with
    | false => simp at h
    | true => simpa using h
  trivial

end Move

variable {World : Type}

/-- **A transport that gives these results**, one to each request that is sent to it, whatever the
request is.  The moves of the spindle can be seen from the world. -/
structure Surroundings.Plays (env : Surroundings World) (results : Nat → SendResult)
    (moves : World → List Move) : Prop where
  send : ∀ request mode c w, ∃ w',
    env.send request mode c w =
      (some ((results (Move.sends (moves w))).tagged request.kind), c, w') ∧
    moves w' = moves w ++ [.sent request mode]
  journal : ∀ reply coldStart c w,
    moves (env.journal reply coldStart c w) = moves w ++ [.read reply]
  raiseAlarm : ∀ w, moves (env.raiseAlarm w) = moves w ++ [.alarm]

/-- **What a row of attempts comes to**, and how many there are.  Either all of them fail, and the
last error is given, or the first success is the last attempt. -/
inductive Attempted (results : Nat → SendResult) (start retries : Nat) (kind : RequestKind) :
    Except DriverError (Option Reply) → Nat → Prop where
  | exhausted {last : TransportError}
      (failures : SendResult.failures results start retries = retries)
      (last_eq : results (start + (retries - 1)) = .error last) :
      Attempted results start retries kind (.error (.exhausted kind retries last)) retries
  | answered {outcome? : Option ReplyOutcome}
      (failures : SendResult.failures results start retries < retries)
      (ok : results (start + SendResult.failures results start retries) = .ok outcome?) :
      Attempted results start retries kind (.ok (outcome?.map fun outcome => ⟨kind, outcome⟩))
        (SendResult.failures results start retries + 1)

/-- What is done after a speed that was sent: the same speed may be sent again, for as long as each
result is a refusal, and with enough patience the reading ends once one is none. -/
structure Aftermath (results : Nat → SendResult) (start patience : Nat) (speed : Request)
    (r : Option Unit) (rest : List Move) : Prop where
  result : r = none ∨ r = some ()
  isAftermath : ∀ move ∈ rest, move.IsAftermath speed
  settled : ∀ j, (results (start + j)).isRefusal = false → j + 2 ≤ patience →
    r = some () ∧ Move.sends rest ≤ j

/-- With nothing to read nothing is done. -/
lemma Aftermath.done {results : Nat → SendResult} {start patience : Nat} {speed : Request} :
    Aftermath results start patience speed (some ()) [] where
  result := .inr rfl
  isAftermath := by simp
  settled := fun j _ _ => ⟨rfl, Nat.zero_le j⟩

/-- **How the sending of a speed ends**, and its moves, by the failures in its row of attempts. -/
inductive SpeedEnd (results : Nat → SendResult) (start retries patience : Nat) (speed : Request) :
    Option (Except DriverError Unit) → OperationState → List Move → Prop where
  | exhausted {last : TransportError}
      (failures : SendResult.failures results start retries = retries)
      (last_eq : results (start + (retries - 1)) = .error last) :
      SpeedEnd results start retries patience speed
        (some (.error (.exhausted .setSpeed retries last))) .failed
        (List.replicate retries (.sent speed .blocking) ++ [.alarm])
  | answered {outcome? : Option ReplyOutcome} {r : Option Unit} {progress : OperationState}
      {rest : List Move} (failures : SendResult.failures results start retries < retries)
      (ok : results (start + SendResult.failures results start retries) = .ok outcome?)
      (aftermath : Aftermath results (start + SendResult.failures results start retries) patience
        speed r rest) :
      SpeedEnd results start retries patience speed (r.map .ok) progress
        (List.replicate (SendResult.failures results start retries + 1) (.sent speed .blocking) ++
          rest)

/-- **How a command ends**, and its moves, by the failures in its two rows of attempts.

If the drive is never reached, everything is as before but for what the host asked for; a speed
that was programmed for the other direction no longer holds. -/
inductive CommandEnd (results : Nat → SendResult) (start retries patience : Nat)
    (command speed : Request) (state : SpindleState) (c : SpindleContext) :
    Option (Except DriverError Unit) → SpindleContext → List Move → Prop where
  | unreached {last : TransportError}
      (failures : SendResult.failures results start retries = retries)
      (last_eq : results (start + (retries - 1)) = .error last) :
      CommandEnd results start retries patience command speed state c
        (some (.error (.exhausted .setStatus retries last)))
        { c with
          state := { c.state with on := state.on, ccw := state.ccw }
          data :=
            { c.data with
              programmed := if c.state.ccw = state.ccw then c.data.programmed else noSpeed
              commanded := { c.data.commanded with on := state.on, ccw := state.ccw } }
          statusOp := .failed }
        (List.replicate retries (.sent command .blocking) ++ [.alarm])
  | reached {status? : Option ReplyOutcome} {escalated : Bool}
      {r : Option (Except DriverError Unit)} {c' : SpindleContext} {made : List Move}
      (failures : SendResult.failures results start retries < retries)
      (ok : results (start + SendResult.failures results start retries) = .ok status?)
      (refusal_of_escalated : escalated = true → SendResult.isRefusal (.ok status?) = true)
      (idle : c'.statusOp = .idle)
      (speedEnd : SpeedEnd results (start + SendResult.failures results start retries + 1) retries
        patience speed r c'.speedOp made) :
      CommandEnd results start retries patience command speed state c r c'
        (List.replicate (SendResult.failures results start retries + 1) (.sent command .blocking) ++
          Move.reading .setStatus escalated status? ++ made)

namespace Surroundings.Plays

variable {env : Surroundings World} {results : Nat → SendResult} {moves : World → List Move}
  {s : Spindle} {c : SpindleContext} {w : World} {request : Request} {mode : SendMode}
  {patience : Nat}

/-- The moves if there is an alarm and if there is none. -/
lemma moves_alarmIf (h : env.Plays results moves) (escalated : Bool) {made : List Move}
    (hmade : moves w = made) :
    moves (if escalated then env.raiseAlarm w else w) =
      made ++ if escalated then [.alarm] else [] := by
  cases escalated with
  | false => simpa using hmade
  | true => simpa [hmade] using h.raiseAlarm w

/-! ## Attempts -/

lemma leads_exchange (h : env.Plays results moves) :
    Leads (exchange env request mode)
      (fun r c' w' => r = some ((results (Move.sends (moves w))).tagged request.kind) ∧ c' = c ∧
        moves w' = moves w ++ [.sent request mode]) c w := by
  obtain ⟨w', hsend, hmoves⟩ := h.send request mode c w
  rw [Operation.leads_exchange, hsend]
  exact ⟨rfl, rfl, hmoves⟩

/-- **A row of attempts.**  After `k` failures there have been `k` requests; `P` is what the marks
of the attempts leave alone. -/
lemma leads_sendRepeatedly (h : env.Plays results moves) (P : SpindleContext → Prop)
    {mark : Nat → SpindleContext → SpindleContext} {retries : Nat} (hretries : 0 < retries)
    (hP : P c) (hmark : ∀ n c, P c → P (mark n c)) :
    Leads (sendRepeatedly (exchange env) request retries fun n => update (mark n))
      (fun r c' w' => ∃ result times, r = some result ∧
        Attempted results (Move.sends (moves w)) retries request.kind result times ∧ P c' ∧
        moves w' = moves w ++ List.replicate times (.sent request .blocking)) c w := by
  have hmax : max retries 1 = retries := Nat.max_eq_left hretries
  refine Operation.leads_sendRepeatedly (fun k last c' w' => P c' ∧
    moves w' = moves w ++ List.replicate k (.sent request .blocking) ∧
    (∀ i < k, ∃ e, results (Move.sends (moves w) + i) = .error e) ∧
    (0 < k → results (Move.sends (moves w) + (k - 1)) = .error last)) ?_ ?_ ?_
  · exact ⟨hP, by simp, by simp, by simp⟩
  · rintro k last c' w' hk ⟨hP', hmoves, herrors, -⟩
    rw [hmax] at hk
    refine h.leads_exchange.mono ?_
    rintro _ _ w'' ⟨rfl, rfl, hmoves'⟩
    rw [hmoves, Move.sends_append, Move.sends_replicate_sent]
    rw [hmoves, List.append_assoc, ← List.replicate_succ'] at hmoves'
    cases hresult : results (Move.sends (moves w) + k) with
    | error e =>
        refine ⟨hmark _ _ hP', hmoves', fun i hi => ?_, fun _ => hresult⟩
        rcases Nat.lt_succ_iff_lt_or_eq.1 hi with hlt | rfl
        · exact herrors i hlt
        · exact ⟨e, hresult⟩
    | ok outcome? =>
        have hfailures := SendResult.failures_eq_of_ok herrors hk hresult
        rw [← hfailures] at hk hresult
        rw [← hfailures] at hmoves'
        exact ⟨_, _, rfl, .answered hk hresult, hP', hmoves'⟩
  · rintro last c' w' ⟨hP', hmoves, herrors, hlast⟩
    rw [hmax] at hmoves herrors hlast ⊢
    exact ⟨_, retries, rfl, .exhausted (SendResult.failures_eq_bound herrors) (hlast hretries),
      hP', hmoves⟩

/-! ## Replies -/

/-- The reply to a command is read, and nothing is sent for it, be it a refusal or not. -/
lemma leads_deliverAny_calm (h : env.Plays results moves) {kind : RequestKind}
    (hkind : kind ≠ .setSpeed) (hreading : c.reading = false) (hinbox : c.inbox = [])
    (outcome? : Option ReplyOutcome) :
    Leads (s.deliverAny env (patience + 2) (outcome?.map fun outcome => ⟨kind, outcome⟩))
      (fun r c' w' => r = some () ∧ c'.address = c.address ∧ c'.isSelected = c.isSelected ∧
        c'.statusOp = c.statusOp ∧ c'.speedOp = c.speedOp ∧ c'.reading = false ∧ c'.inbox = [] ∧
        ∃ escalated, (escalated = true → SendResult.isRefusal (.ok outcome?) = true) ∧
          moves w' = moves w ++ Move.reading kind escalated outcome?) c w := by
  cases outcome? with
  | none =>
      exact ⟨rfl, rfl, rfl, rfl, rfl, hreading, hinbox, false, by simp, by simp [Move.reading]⟩
  | some outcome =>
      refine leads_deliver_calm hreading hinbox ?_ fun c' => ?_
      · rw [Option.eq_none_iff_forall_ne_some]
        intro rpm hrpm
        obtain ⟨code, hreply⟩ := ReplyReader.exists_exception_of_reissue? hrpm
        exact hkind (congrArg Reply.kind hreply)
      refine ⟨rfl, rfl, rfl, rfl, rfl, hreading, rfl,
        (s.reader.read ⟨kind, outcome⟩ (env.isColdStart w) c.data c.exceptions).1.escalates,
        fun hescalates => ?_, ?_⟩
      · obtain ⟨code, rfl⟩ := ReplyReader.exists_exception_of_escalates hescalates
        rfl
      · have hjournal := h.journal ⟨kind, outcome⟩ (env.isColdStart w) c' w
        simpa [Move.reading] using h.moves_alarmIf _ hjournal

/-! ## Speeds that are sent again -/

/-- A spindle that reads replies and would send the speed of this code again, with its command
done. -/
structure Resends (s : Spindle) (address : UInt8) (code : UInt16) (c : SpindleContext) : Prop where
  selected : c.isSelected = true
  address_eq : c.address = address
  statusIdle : c.statusOp = .idle
  speedIdle : c.speedOp.isBusy = false
  reading : c.reading = true
  code_eq : s.reader.scale.toCode c.data.reissueSpeed = code

variable {address : UInt8} {code : UInt16}

lemma Resends.request_eq (h : Resends s address code c) :
    Request.speed c.address s.registers (s.reader.scale.toCode c.data.reissueSpeed) =
      .speed address s.registers code := by
  rw [h.address_eq, h.code_eq]

/-- Sending a speed again changes nothing of what would be sent the next time. -/
lemma Resends.endSpeed (h : Resends s address code c) (tolerance : Binary32) :
    Resends s address code (c.endSpeed c.data.reissueSpeed tolerance .idle) where
  selected := h.selected
  address_eq := h.address_eq
  statusIdle := h.statusIdle
  speedIdle := rfl
  reading := h.reading
  code_eq := by
    rw [← h.code_eq]
    exact s.reader.scale.toCode_clampBelow _

/-- The reply to a speed says nothing of speeds. -/
lemma takeIn_data (outcome : ReplyOutcome) (coldStart : Bool) :
    (s.takeIn ⟨.setSpeed, outcome⟩ [] coldStart c).data = c.data :=
  s.reader.read_data_eq ⟨.setSpeed, outcome⟩ coldStart c.data c.exceptions

/-- Taking in the reply to a speed changes nothing of what would be sent again. -/
lemma Resends.takeIn (h : Resends s address code c) (outcome : ReplyOutcome) (coldStart : Bool) :
    Resends s address code (s.takeIn ⟨.setSpeed, outcome⟩ [] coldStart c) where
  selected := h.selected
  address_eq := h.address_eq
  statusIdle := h.statusIdle
  speedIdle := h.speedIdle
  reading := h.reading
  code_eq := by rw [takeIn_data, h.code_eq]

/-- A reply that comes in is one more to read. -/
lemma Resends.enqueue (h : Resends s address code c) (replies : List Reply) :
    Resends s address code { c with inbox := replies } :=
  ⟨h.selected, h.address_eq, h.statusIdle, h.speedIdle, h.reading, h.code_eq⟩

/-- The replies to a speed that a result brings. -/
def speedReplies (result : SendResult) : List Reply :=
  (result.answer?.map fun outcome => ⟨.setSpeed, outcome⟩).toList

/-- **The step.**  One reply to a speed is read.  Either nothing is sent, and there is no more to
read; or the reply is a refusal, the same speed is sent again, and its answer is what there is to
read. -/
lemma leads_readReply (h : env.Plays results moves) {outcome : ReplyOutcome}
    (hresends : Resends s address code c) (hinbox : c.inbox = [⟨.setSpeed, outcome⟩]) :
    Leads (s.readReply env)
      (fun r c' w' => r = some true ∧ Resends s address code c' ∧ ∃ made,
        moves w' = moves w ++ made ∧
        (∀ move ∈ made, move.IsAftermath (.speed address s.registers code)) ∧
        (Move.sends made = 0 ∧ c'.inbox = [] ∨
          Move.sends made = 1 ∧ c'.inbox = speedReplies (results (Move.sends (moves w))) ∧
            SendResult.isRefusal (.ok (some outcome)) = true)) c w := by
  refine Operation.leads_readReply (fun hempty => by simp [hinbox] at hempty)
    fun reply rest hqueue => ?_
  obtain ⟨rfl, rfl⟩ : reply = ⟨.setSpeed, outcome⟩ ∧ rest = [] := by
    simpa [hinbox, eq_comm] using hqueue
  have htaken := hresends.takeIn outcome (env.isColdStart w)
  have hjournal := h.journal ⟨.setSpeed, outcome⟩ (env.isColdStart w) c w
  refine leads_heed (leads_reissue (fun _ => ?_) fun rpm hrpm => ?_)
  · refine ⟨rfl, htaken, _, (h.moves_alarmIf _ hjournal).trans (List.append_assoc ..), ?_,
      .inl ⟨by simp [Move.sends_cons, Move.isSent], rfl⟩⟩
    simp only [List.cons_append, List.nil_append, List.forall_mem_cons]
    exact ⟨rfl, fun move => Move.isAftermath_of_mem_alarmIf⟩
  have hrefusal : SendResult.isRefusal (.ok (some outcome)) = true := by
    obtain ⟨code, hreply⟩ := ReplyReader.exists_exception_of_reissue? hrpm
    obtain rfl : outcome = .exception code := congrArg Reply.outcome hreply
    rfl
  have hspeed : rpm =
      (s.takeIn ⟨.setSpeed, outcome⟩ [] (env.isColdStart w) c).data.reissueSpeed := by
    rw [takeIn_data, ReplyReader.read_reissue?_eq hrpm]
  subst hspeed
  refine leads_sendSpeed (fun hsel => ?_) (fun _ hbusy => ?_) fun _ _ => ?_
  · simp [htaken.selected] at hsel
  · simp [htaken.speedIdle] at hbusy
  rw [Spindle.exchangeSpeed, if_neg Bool.false_ne_true, leads_map, htaken.request_eq]
  refine leads_sendOnce (h.leads_exchange.mono ?_)
  rintro _ _ w' ⟨rfl, rfl, hmoves⟩
  have hsends : Move.sends (moves (env.journal ⟨.setSpeed, outcome⟩ (env.isColdStart w) c w)) =
      Move.sends (moves w) := by simp [hjournal, Move.sends, Move.isSent]
  rw [hjournal, List.append_assoc] at hmoves
  rw [hsends]
  have hended := htaken.endSpeed (env.tolerance w')
  have hmade : ∀ escalated : Bool, ∃ made,
      moves (if escalated then env.raiseAlarm w' else w') = moves w ++ made ∧
      (∀ move ∈ made, move.IsAftermath (.speed address s.registers code)) ∧
      Move.sends made = 1 := by
    intro escalated
    refine ⟨_, (h.moves_alarmIf escalated hmoves).trans (List.append_assoc ..), ?_, ?_⟩
    · simp only [List.cons_append, List.nil_append, List.forall_mem_cons]
      exact ⟨rfl, ⟨rfl, rfl⟩, fun move => Move.isAftermath_of_mem_alarmIf⟩
    · simp [Move.sends_cons, Move.isSent]
  obtain ⟨made, hmade, haftermath, hone⟩ :=
    hmade (s.reader.read ⟨.setSpeed, outcome⟩ (env.isColdStart w) c.data c.exceptions).1.escalates
  rcases results (Move.sends (moves w)) with e | _ | outcome'
  · exact ⟨rfl, hended, made, hmade, haftermath, .inr ⟨hone, rfl, hrefusal⟩⟩
  · exact ⟨rfl, hended, made, hmade, haftermath, .inr ⟨hone, rfl, hrefusal⟩⟩
  · exact ⟨rfl, hended.enqueue _, made, hmade, haftermath, .inr ⟨hone, rfl, hrefusal⟩⟩

/-- **The run.**  All that follows a speed is its aftermath. -/
lemma leads_readReplies (h : env.Plays results moves) (start : Nat)
    (hresends : Resends s address code c) (hinbox : c.inbox = speedReplies (results start))
    (hsends : Move.sends (moves w) = start + 1) :
    Leads (s.readReplies env patience)
      (fun r c' w' => c'.statusOp = .idle ∧ ∃ rest, moves w' = moves w ++ rest ∧
        Aftermath results start patience (.speed address s.registers code) r rest) c w := by
  have hnil : ∀ {w : World}, moves w = moves w ++ [] := (List.append_nil _).symm
  induction patience generalizing start c w with
  | zero => exact ⟨hresends.statusIdle, [], hnil, .inl rfl, by simp, by omega⟩
  | succ patience ih =>
      rcases hresult : results start with e | _ | outcome
      · rw [hresult] at hinbox
        exact leads_readReplies_empty hinbox ⟨hresends.statusIdle, [], hnil, .done⟩
      · rw [hresult] at hinbox
        exact leads_readReplies_empty hinbox ⟨hresends.statusIdle, [], hnil, .done⟩
      rw [hresult] at hinbox
      refine leads_readReplies_succ ((h.leads_readReply hresends hinbox).mono ?_)
      rintro _ c' w' ⟨rfl, hresends', made, hmade, haftermath,
        ⟨hnone, hinbox'⟩ | ⟨hone, hinbox', hrefusal⟩⟩
      · cases patience with
        | zero => exact ⟨hresends'.statusIdle, made, hmade, .inl rfl, haftermath, by omega⟩
        | succ patience =>
            exact leads_readReplies_empty hinbox' ⟨hresends'.statusIdle, made, hmade, .inr rfl,
              haftermath, fun j _ _ => ⟨rfl, by omega⟩⟩
      · rw [hsends] at hinbox'
        have hsends' : Move.sends (moves w') = start + 1 + 1 := by
          rw [hmade, Move.sends_append, hsends, hone]
        refine (ih (start + 1) hresends' hinbox' hsends').mono ?_
        rintro r c'' w'' ⟨hidle, rest, hrest, hfollowing⟩
        refine ⟨hidle, made ++ rest, by rw [hrest, hmade, List.append_assoc], hfollowing.result,
          List.forall_mem_append.2 ⟨haftermath, hfollowing.isAftermath⟩, ?_⟩
        rintro (_ | j) hj hpatience
        · simp [hresult, hrefusal] at hj
        · obtain ⟨rfl, hle⟩ := hfollowing.settled j (by rwa [Nat.add_assoc, Nat.add_comm 1])
            (by omega)
          exact ⟨rfl, by rw [Move.sends_append, hone]; omega⟩

/-! ## The two rows of attempts -/

/-- The delivery of what a speed is answered with. -/
lemma leads_deliverAny_aftermath (h : env.Plays results moves) (start : Nat)
    (hresends : Resends s address code { c with reading := true }) (hreading : c.reading = false)
    (hinbox : c.inbox = []) {outcome? : Option ReplyOutcome}
    (hresult : results start = .ok outcome?) (hsends : Move.sends (moves w) = start + 1) :
    Leads (s.deliverAny env patience (outcome?.map fun outcome => ⟨.setSpeed, outcome⟩))
      (fun r c' w' => c'.statusOp = .idle ∧ ∃ rest, moves w' = moves w ++ rest ∧
        Aftermath results start patience (.speed address s.registers code) r rest) c w := by
  cases outcome? with
  | none => exact ⟨hresends.statusIdle, [], (List.append_nil _).symm, .done⟩
  | some outcome =>
      refine leads_deliver (fun hbusy => by simp [hreading] at hbusy) fun _ => ?_
      refine h.leads_readReplies start (hresends.enqueue _) ?_ hsends
      rw [hinbox, hresult]
      rfl

/-- Sending a speed and waiting for it. -/
lemma leads_setSpeed (h : env.Plays results moves) {rpm : Binary32} (hretries : 0 < s.retries)
    (hselected : c.isSelected = true) (hstatus : c.statusOp = .idle)
    (hspeed : c.speedOp.isBusy = false) (hreading : c.reading = false) (hinbox : c.inbox = []) :
    Leads (s.setSpeed env patience rpm true)
      (fun r c' w' => c'.statusOp = .idle ∧ ∃ made, moves w' = moves w ++ made ∧
        SpeedEnd results (Move.sends (moves w)) s.retries patience
          (.speed c.address s.registers (s.reader.scale.toCode rpm)) r c'.speedOp made) c w := by
  refine Operation.leads_setSpeed (leads_sendSpeed (fun hsel => ?_) (fun _ hbusy => ?_)
    fun _ _ => ?_)
  · simp [hselected] at hsel
  · simp [hspeed] at hbusy
  rw [Spindle.exchangeSpeed, if_pos rfl]
  refine (h.leads_sendRepeatedly (fun c' => ∃ progress, c' = { c with speedOp := progress })
    hretries ⟨_, rfl⟩ ?_).mono ?_
  · rintro n _ ⟨_, rfl⟩
    exact ⟨_, rfl⟩
  rintro _ _ w' ⟨result, times, rfl, hattempted, ⟨progress, rfl⟩, hmoves⟩
  cases hattempted with
  | exhausted hfailures hlast =>
      refine ⟨hstatus, _, ?_, .exhausted hfailures hlast⟩
      rw [h.raiseAlarm, hmoves, List.append_assoc]
  | @answered outcome? hfailures hok =>
      have hresends : Resends s c.address (s.reader.scale.toCode rpm)
          { { c with speedOp := progress }.endSpeed rpm (env.tolerance w') .idle with
            reading := true } :=
        ⟨hselected, rfl, hstatus, rfl, rfl, s.reader.scale.toCode_clampBelow rpm⟩
      have hsends := congrArg Move.sends hmoves
      rw [Move.sends_append, Move.sends_replicate_sent, ← Nat.add_assoc] at hsends
      have hrun : Leads
          (s.deliverAny env patience (outcome?.map fun outcome => ⟨.setSpeed, outcome⟩))
          (fun r c' w' => c'.statusOp = .idle ∧ ∃ made, moves w' = moves w ++ made ∧
            SpeedEnd results (Move.sends (moves w)) s.retries patience
              (.speed c.address s.registers (s.reader.scale.toCode rpm)) (r.map .ok) c'.speedOp
              made)
          ({ c with speedOp := progress }.endSpeed rpm (env.tolerance w') .idle) w' := by
        refine (h.leads_deliverAny_aftermath _ hresends hreading hinbox hok hsends).mono ?_
        rintro r c'' w'' ⟨hidle, rest, hrest, haftermath⟩
        refine ⟨hidle, _, ?_, .answered hfailures hok haftermath⟩
        rw [hrest, hmoves, List.append_assoc]
      cases outcome? with
      | none => exact hrun
      | some outcome => exact hrun

end Surroundings.Plays

/-- **A command, result by result.**  The results that the transport gives settle which requests a
command to start or stop makes, how it ends and what it leaves behind. -/
theorem Spindle.outcome_of_results {env : Surroundings World} {results : Nat → SendResult}
    {moves : World → List Move} {s : Spindle} {c : SpindleContext} {w : World}
    (henv : env.Plays results moves) (hretries : 0 < s.retries) (hselected : c.isSelected = true)
    (hstatus : c.statusOp.isBusy = false) (hspeed : c.speedOp.isBusy = false)
    (hreading : c.reading = false) (hinbox : c.inbox = []) (state : SpindleState) (rpm : Binary32)
    (patience : Nat) :
    Leads (s.setState env (patience + 2) state rpm)
      (fun r c' w' => ∃ made, moves w' = moves w ++ made ∧
        CommandEnd results (Move.sends (moves w)) s.retries (patience + 2)
          (.command c.address s.registers (.run (.forRequest state.on rpm) (.ofCcw state.ccw)))
          (.speed c.address s.registers (s.reader.scale.toCode rpm)) state c r c' made) c w := by
  refine leads_setState (fun hsel => ?_) (fun _ hbusy => ?_) fun _ _ => ?_
  · simp [hselected] at hsel
  · simp [hstatus] at hbusy
  refine (henv.leads_sendRepeatedly
    (fun c' => ∃ progress, c' = { c.takeCommand state with statusOp := progress })
    hretries ⟨_, rfl⟩ ?_).mono ?_
  · rintro n _ ⟨_, rfl⟩
    exact ⟨_, rfl⟩
  rintro _ _ w₁ ⟨result, times, rfl, hattempted, ⟨progress, rfl⟩, hmoves₁⟩
  cases hattempted with
  | exhausted hfailures hlast =>
      refine ⟨_, ?_, .unreached hfailures hlast⟩
      rw [henv.raiseAlarm, hmoves₁, List.append_assoc]
  | @answered status? hfailures hok =>
      have hreading₁ : { c.takeCommand state with statusOp := .idle }.reading = false := hreading
      have hkind : RequestKind.setStatus ≠ .setSpeed := by decide
      refine (henv.leads_deliverAny_calm hkind hreading₁ hinbox status?).mono ?_
      rintro _ c₂ w₂ ⟨rfl, haddress, hselected₂, hstatus₂, hspeed₂, hreading₂, hinbox₂, escalated,
        hescalated, hmoves₂⟩
      refine (henv.leads_setSpeed hretries (hselected₂.trans hselected) hstatus₂
        ((congrArg _ hspeed₂).trans hspeed) hreading₂ hinbox₂).mono ?_
      rintro r c₃ w₃ ⟨hidle, made, hmade, hend⟩
      have hsends := congrArg Move.sends hmoves₂
      rw [hmoves₁, Move.sends_append, Move.sends_append, Move.sends_replicate_sent,
        Move.sends_reading, Nat.add_zero, ← Nat.add_assoc] at hsends
      rw [hsends, haddress] at hend
      refine ⟨_, ?_, .reached hfailures hok hescalated hidle hend⟩
      rw [hmade, hmoves₂, hmoves₁]
      simp only [List.append_assoc]

/-- Surroundings that write down every move and give these results. -/
def Surroundings.playing (results : Nat → SendResult) : Surroundings (List Move) where
  isUp _ := true
  silence w := w
  send request mode c w :=
    (some ((results (Move.sends w)).tagged request.kind), c, w ++ [.sent request mode])
  elapsed _ := 0
  isColdStart _ := false
  journal reply _ _ w := w ++ [.read reply]
  raiseAlarm w := w ++ [.alarm]
  tolerance _ := .zero
  setTolerance _ w := w

lemma Surroundings.playing_plays (results : Nat → SendResult) :
    (playing results).Plays results fun w => w where
  send _ _ _ _ := ⟨_, rfl, rfl⟩
  journal _ _ _ _ := rfl
  raiseAlarm _ := rfl

/-- The results of a bus that loses the first request of a command and the first one of its speed,
and of a drive that is busy for the next one of each. -/
def lateResults : Nat → SendResult
  | 0 | 2 => .error .timeout
  | 1 | 3 => .ok (some (.exception .slaveDeviceBusy))
  | _ => .ok none

theorem Spindle.outcome_of_lateResults :
    (Surroundings.playing lateResults).Plays lateResults (fun w => w) ∧ 0 < sample.1.retries ∧
    sampleSelected.isSelected = true ∧ sampleSelected.statusOp.isBusy = false ∧
    sampleSelected.speedOp.isBusy = false ∧ sampleSelected.reading = false ∧
    sampleSelected.inbox = [] ∧
    Leads (sample.1.setState (.playing lateResults) 3 .cw (.ofNat 3000))
      (fun r c' w' => ∃ made, w' = made ∧
        CommandEnd lateResults 0 sample.1.retries 3
          (.command sampleSelected.address sample.1.registers
            (.run (.forRequest true (.ofNat 3000)) (.ofCcw false)))
          (.speed sampleSelected.address sample.1.registers
            (sample.1.reader.scale.toCode (.ofNat 3000))) .cw sampleSelected r c' made)
      sampleSelected [] := by
  have hretries : 0 < sample.1.retries := by decide
  exact ⟨Surroundings.playing_plays _, hretries, rfl, rfl, rfl, rfl, rfl,
    outcome_of_results (c := sampleSelected) (w := []) (Surroundings.playing_plays lateResults)
      hretries rfl rfl rfl rfl rfl .cw (.ofNat 3000) 1⟩

end SpindleDrive
