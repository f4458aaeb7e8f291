import SpindleDrive.Proofs.Drive.Obedience

/-!
# What goes through a simulated bus

A bus is sent requests, and in between it is told what is to go wrong and the replies that wait are
fetched or thrown away.  Here is a book of all that: whatever the calls are and however they follow
each other, nothing that is ordered, sent or answered gets lost or comes twice.

* `Passage` — what becomes of a request, with the reply or the error that follows from it.
* `SendMode.given`, `SendMode.queued` — what of it the sender gets at once, and what has to wait.
* `BusCall`, `SimulatedBus.carryOutAll` — the calls to a bus, and a row of them.
* `SimulatedBus.Conveys` — the passage that a request has on a bus, by what is to go wrong first.
* `BusEntry`, `SimulatedBus.Enters`, `SimulatedBus.Books` — an entry in the book for each call.
* `undropped` — the replies in the book that are not thrown away.
* `SimulatedBus.Balanced` — how the book and the bus agree.
* `conveys_send`, `Enters.balanced` — one request, and one entry.
* **`SimulatedBus.balanced_of_calls`** — every row of calls.
-/

namespace SpindleDrive

/-! ## Requests -/

/-- What becomes of a request. -/
inductive Passage where
  | down
  | failed
  | refused (code : ExceptionCode)
  /-- The drive hears it, and passes it over since it is for another one. -/
  | ignored
  | answered (frame : Frame)
  deriving DecidableEq, Repr

namespace Passage

/-- The reply to a request of a kind, or the error that stands in for it. -/
def outcome (kind : RequestKind) : Passage → Except TransportError Reply
  | down => .error .notUp
  | failed | ignored => .error .timeout
  | refused code => .ok (.exception kind code)
  | answered frame => .ok (.ofFrame kind frame)

/-- A reply bears the tag of its request. -/
lemma kind_of_outcome {kind : RequestKind} {passage : Passage} {reply : Reply}
    (h : passage.outcome kind = .ok reply) : reply.kind = kind := by
  cases passage with
  | down | failed | ignored => simp [outcome] at h
  | refused code =>
      obtain rfl : Reply.exception kind code = reply := by simpa [outcome] using h
      rfl
  | answered frame =>
      obtain rfl : Reply.ofFrame kind frame = reply := by simpa [outcome] using h
      rw [Reply.ofFrame]
      split <;> rfl

end Passage

namespace SendMode

/-- What a sender gets at once. -/
def given : SendMode → Except TransportError Reply → Exchange
  | blocking, outcome => outcome.map some
  | nonBlocking, outcome => outcome.map fun _ => none

/-- What joins the replies that wait. -/
def queued : SendMode → Except TransportError Reply → List Reply
  | blocking, _ => []
  | nonBlocking, outcome => outcome.toOption.toList

variable (mode : SendMode) (e : TransportError)

@[simp] lemma given_error : mode.given (.error e) = .error e := by cases mode <;> rfl

@[simp] lemma queued_error : mode.queued (.error e) = [] := by cases mode <;> rfl

end SendMode

namespace SimulatedBus

lemma hand_fst (b : SimulatedBus) (mode : SendMode) (reply : Reply) :
    .ok (b.hand mode reply).1 = mode.given (.ok reply) := by
  cases mode <;> rfl

lemma hand_snd (b : SimulatedBus) (mode : SendMode) (reply : Reply) :
    (b.hand mode reply).2 = { b with pending := b.pending ++ mode.queued (.ok reply) } := by
  cases mode with
  | blocking => simp [hand, SendMode.queued]
  | nonBlocking => rfl

/-- **What a bus makes of a request**: the passage that it has, and the bus after it.  What is to go
wrong goes wrong in a fixed order, and one thing at a time. -/
inductive Conveys (b : SimulatedBus) (request : Request) : Passage → SimulatedBus → Prop where
  | down (hup : b.up = false) : Conveys b request .down b
  | failed {left : Nat} (hup : b.up = true) (hfailing : b.failing = left + 1) :
      Conveys b request .failed { b with failing := left }
  | refused {code : ExceptionCode} {rest : List ExceptionCode} (hup : b.up = true)
      (hfailing : b.failing = 0) (hrefusals : b.refusals = code :: rest) :
      Conveys b request (.refused code) { b with refusals := rest }
  | ignored (hup : b.up = true) (hfailing : b.failing = 0) (hrefusals : b.refusals = [])
      (haddress : request.frame.address ≠ b.drive.address) : Conveys b request .ignored b
  | answered {frame : Frame} {drive : SimulatedDrive} (hup : b.up = true)
      (hfailing : b.failing = 0) (hrefusals : b.refusals = [])
      (hhandle : b.drive.handle request.frame = (some frame, drive)) :
      Conveys b request (.answered frame) { b with drive }

/-- The bus with a request written down, and with its reply among those that wait if nobody waits
for it. -/
def noted (b : SimulatedBus) (request : Request) (mode : SendMode) (passage : Passage) :
    SimulatedBus :=
  { b with
    log := (request, mode) :: b.log
    pending := b.pending ++ mode.queued (passage.outcome request.kind) }

/-- **A request has one of these passages**, and it settles what the sender is given. -/
lemma conveys_send (b : SimulatedBus) (request : Request) (mode : SendMode) :
    ∃ passage b', b.Conveys request passage b' ∧
      b.send request mode =
        (mode.given (passage.outcome request.kind), b'.noted request mode passage) := by
  by_cases hup : b.up = true
  · cases hfailing : b.failing with
    | succ left =>
        refine ⟨.failed, _, .failed hup hfailing, ?_⟩
        simp [send, noted, hup, hfailing, Passage.outcome]
    | zero =>
        cases hrefusals : b.refusals with
        | cons code rest =>
            refine ⟨.refused code, _, .refused hup hfailing hrefusals, ?_⟩
            simp [send, reply?, noted, hup, hfailing, hrefusals, hand_fst, hand_snd,
              Passage.outcome]
        | nil =>
            rcases hhandle : b.drive.handle request.frame with ⟨_ | frame, drive⟩
            · have haddress : request.frame.address ≠ b.drive.address := by
                rw [← (b.drive.handled_handle request.frame).absent_iff, hhandle]
              obtain rfl : b.drive = drive := by
                simpa [SimulatedDrive.handle, haddress] using congrArg Prod.snd hhandle
              refine ⟨.ignored, b, .ignored hup hfailing hrefusals haddress, ?_⟩
              simp [send, reply?, noted, hup, hfailing, hrefusals, hhandle, Passage.outcome]
            · refine ⟨.answered frame, _, .answered hup hfailing hrefusals hhandle, ?_⟩
              simp [send, reply?, noted, hup, hfailing, hrefusals, hhandle, hand_fst, hand_snd,
                Passage.outcome]
  · rw [Bool.not_eq_true] at hup
    refine ⟨.down, b, .down hup, ?_⟩
    simp [send, noted, hup, Passage.outcome]

end SimulatedBus

/-! ## Calls -/

/-- A call to a bus. -/
inductive BusCall where
  | send (request : Request) (mode : SendMode)
  | setUp (up : Bool)
  | failNext (count : Nat)
  | refuseNext (code : ExceptionCode)
  | takePending
  | dropPending
  deriving DecidableEq, Repr

/-- What a call gives back. -/
inductive BusAnswer where
  | done
  | exchange (result : Exchange)
  | replies (replies : List Reply)
  | count (n : Nat)

namespace SimulatedBus

def carryOut (b : SimulatedBus) : BusCall → BusAnswer × SimulatedBus
  | .send request mode => (.exchange (b.send request mode).1, (b.send request mode).2)
  | .setUp up => (.done, b.setUp up)
  | .failNext count => (.done, b.failNext count)
  | .refuseNext code => (.done, b.refuseNext code)
  | .takePending => (.replies b.takePending.1, b.takePending.2)
  | .dropPending => (.count b.dropPending.1, b.dropPending.2)

/-- Carries out calls one after the other. -/
def carryOutAll (b : SimulatedBus) : List BusCall → List BusAnswer × SimulatedBus
  | [] => ([], b)
  | call :: rest =>
    let (answer, b) := b.carryOut call
    let (answers, b) := b.carryOutAll rest
    (answer :: answers, b)

end SimulatedBus

/-! ## The book -/

/-- What is entered for a call. -/
inductive BusEntry where
  | sent (request : Request) (mode : SendMode) (passage : Passage)
  | switched (up : Bool)
  | failing (count : Nat)
  | refusing (code : ExceptionCode)
  | taken (replies : List Reply)
  | dropped (count : Nat)
  deriving DecidableEq, Repr

namespace BusEntry

/-- The call that an entry is for. -/
def call : BusEntry → BusCall
  | sent request mode _ => .send request mode
  | switched up => .setUp up
  | failing count => .failNext count
  | refusing code => .refuseNext code
  | taken _ => .takePending
  | dropped _ => .dropPending

/-- The answer that an entry tells of. -/
def answer : BusEntry → BusAnswer
  | sent request mode passage => .exchange (mode.given (passage.outcome request.kind))
  | switched _ | failing _ | refusing _ => .done
  | taken replies => .replies replies
  | dropped count => .count count

/-- The requests that are sent. -/
def requests : BusEntry → List (Request × SendMode)
  | sent request mode _ => [(request, mode)]
  | _ => []

/-- The refusals that are ordered. -/
def ordered : BusEntry → List ExceptionCode
  | refusing code => [code]
  | _ => []

/-- The refusals that take the place of replies. -/
def refused : BusEntry → List ExceptionCode
  | sent _ _ (.refused code) => [code]
  | _ => []

/-- The frames that the drive hears, with what it answers. -/
def heard : BusEntry → List (Frame × Option Frame)
  | sent request _ .ignored => [(request.frame, none)]
  | sent request _ (.answered frame) => [(request.frame, some frame)]
  | _ => []

/-- Whether a failure that was ordered is used up. -/
def isFailed : BusEntry → Bool
  | sent _ _ .failed => true
  | _ => false

/-- The replies that begin to wait. -/
def queued : BusEntry → List Reply
  | sent request mode passage => mode.queued (passage.outcome request.kind)
  | _ => []

/-- The replies that are fetched. -/
def fetched : BusEntry → List Reply
  | taken replies => replies
  | _ => []

/-- How many replies are thrown away. -/
def lost : BusEntry → Nat
  | dropped count => count
  | _ => 0

/-- Whether no reply waits after the entry. -/
def clears : BusEntry → Bool
  | taken _ | dropped _ => true
  | _ => false

end BusEntry

/-- Whether the replies that wait will be thrown away, by the entries that follow: the first of them
that clears the replies away does not fetch them. -/
def areDropped (later : List BusEntry) : Bool :=
  match later.find? (·.clears) with
  | some (.dropped _) => true
  | _ => false

/-- **The replies in the book that are not thrown away**, in the order in which they begin to
wait. -/
def undropped : List BusEntry → List Reply
  | [] => []
  | entry :: later => (if areDropped later then [] else entry.queued) ++ undropped later

namespace SimulatedBus

/-- **What an entry says of the bus** before its call and after it. -/
inductive Enters (b : SimulatedBus) : BusEntry → SimulatedBus → Prop where
  | sent {request : Request} {passage : Passage} {b' : SimulatedBus} (mode : SendMode)
      (conveys : b.Conveys request passage b') :
      Enters b (.sent request mode passage) (b'.noted request mode passage)
  | switched (up : Bool) : Enters b (.switched up) { b with up }
  | failing (count : Nat) : Enters b (.failing count) { b with failing := count }
  | refusing (code : ExceptionCode) :
      Enters b (.refusing code) { b with refusals := b.refusals ++ [code] }
  | taken : Enters b (.taken b.pending) { b with pending := [] }
  | dropped : Enters b (.dropped b.pending.length) { b with pending := [] }

/-- **A book of calls**, with the bus at its beginning and at its end. -/
inductive Books : SimulatedBus → List BusEntry → SimulatedBus → Prop where
  | nil (b : SimulatedBus) : Books b [] b
  | cons {b b' b'' : SimulatedBus} {entry : BusEntry} {entries : List BusEntry}
      (enters : b.Enters entry b') (books : Books b' entries b'') : Books b (entry :: entries) b''

/-- **How a book and the bus agree**, the bus being at the beginning and at the end of the book. -/
structure Balanced (b : SimulatedBus) (entries : List BusEntry) (b' : SimulatedBus) : Prop where
  /-- A reply has the tag of its request. -/
  tagged : ∀ request mode passage, BusEntry.sent request mode passage ∈ entries →
    ∀ reply, passage.outcome request.kind = .ok reply → reply.kind = request.kind
  /-- Every request is written down, in order, whatever becomes of it. -/
  sent : b'.sent = b.sent ++ entries.flatMap (·.requests)
  /-- Failures are used up one by one, until their number is set again. -/
  failures : (∀ count, BusEntry.failing count ∉ entries) →
    b'.failing + entries.countP (·.isFailed) = b.failing
  /-- Refusals take the place of replies in the order in which they are ordered. -/
  refusals : entries.flatMap (·.refused) ++ b'.refusals =
    b.refusals ++ entries.flatMap (·.ordered)
  /-- The drive hears no other frames, and the replies in the book are its answers. -/
  drive : b.drive.handleAll ((entries.flatMap (·.heard)).map Prod.fst) =
    ((entries.flatMap (·.heard)).map Prod.snd, b'.drive)
  /-- The replies that are fetched, and those that still wait, are the ones that are not thrown
  away. -/
  replies : entries.flatMap (·.fetched) ++ b'.pending =
    (if areDropped entries then [] else b.pending) ++ undropped entries
  /-- Each reply is fetched, thrown away or still there. -/
  count : (entries.flatMap (·.fetched)).length + (entries.map (·.lost)).sum + b'.pending.length =
    b.pending.length + (entries.flatMap (·.queued)).length

/-! ### One entry -/

section Entry

variable {b b' b'' : SimulatedBus} {request : Request} {passage : Passage} {entry : BusEntry}
  {entries : List BusEntry}

lemma Conveys.log_eq (h : b.Conveys request passage b') : b'.log = b.log := by
  cases h <;> rfl

lemma Conveys.pending_eq (h : b.Conveys request passage b') : b'.pending = b.pending := by
  cases h <;> rfl

/-- Each call has its entry. -/
lemma exists_enters (b : SimulatedBus) (call : BusCall) :
    ∃ entry, entry.call = call ∧ entry.answer = (b.carryOut call).1 ∧
      b.Enters entry (b.carryOut call).2 := by
  cases call with
  | send request mode =>
      obtain ⟨passage, b', hconveys, hsend⟩ := b.conveys_send request mode
      refine ⟨.sent request mode passage, rfl, ?_, ?_⟩
      · rw [carryOut, hsend, BusEntry.answer]
      · rw [carryOut, hsend]
        exact .sent mode hconveys
  | setUp up => exact ⟨.switched up, rfl, rfl, .switched up⟩
  | failNext count => exact ⟨.failing count, rfl, rfl, .failing count⟩
  | refuseNext code => exact ⟨.refusing code, rfl, rfl, .refusing code⟩
  | takePending => exact ⟨.taken b.pending, rfl, rfl, .taken⟩
  | dropPending => exact ⟨.dropped b.pending.length, rfl, rfl, .dropped⟩

lemma Enters.sent_eq (h : b.Enters entry b') : b'.sent = b.sent ++ entry.requests := by
  cases h with
  | sent mode conveys => simp [SimulatedBus.sent, noted, conveys.log_eq, BusEntry.requests]
  | switched | failing | refusing | taken | dropped => exact (List.append_nil _).symm

lemma Enters.failing_eq (h : b.Enters entry b') (hset : ∀ count, entry ≠ .failing count) :
    b'.failing + (if entry.isFailed then 1 else 0) = b.failing := by
  cases h with
  | sent mode conveys =>
      cases conveys with
      | failed hup hfailing => exact hfailing.symm
      | down | refused | ignored | answered => rfl
  | failing count => exact absurd rfl (hset count)
  | switched | refusing | taken | dropped => rfl

lemma Enters.refusals_eq (h : b.Enters entry b') :
    entry.refused ++ b'.refusals = b.refusals ++ entry.ordered := by
  cases h with
  | sent mode conveys =>
      cases conveys with
      | refused hup hfailing hrefusals =>
          simp [BusEntry.refused, BusEntry.ordered, noted, hrefusals]
      | down | failed | ignored | answered => exact (List.append_nil _).symm
  | switched | failing | refusing | taken | dropped =>
      simp [BusEntry.refused, BusEntry.ordered]

lemma Enters.drive_eq (h : b.Enters entry b') :
    b.drive.handleAll (entry.heard.map Prod.fst) = (entry.heard.map Prod.snd, b'.drive) := by
  cases h with
  | sent mode conveys =>
      cases conveys with
      | ignored hup hfailing hrefusals haddress =>
          simp [BusEntry.heard, noted, SimulatedDrive.handleAll, SimulatedDrive.handle, haddress]
      | answered hup hfailing hrefusals hhandle =>
          simp [BusEntry.heard, noted, SimulatedDrive.handleAll, hhandle]
      | down | failed | refused => rfl
  | switched | failing | refusing | taken | dropped => rfl

/-- **What an entry does to the replies that wait**: it adds to them, fetches all of them or throws
all of them away. -/
lemma Enters.pending_cases (h : b.Enters entry b') (later : List BusEntry) :
    (b'.pending = b.pending ++ entry.queued ∧ entry.fetched = [] ∧ entry.lost = 0 ∧
        areDropped (entry :: later) = areDropped later) ∨
      (b'.pending = [] ∧ entry.queued = [] ∧ entry.fetched = b.pending ∧ entry.lost = 0 ∧
        areDropped (entry :: later) = false) ∨
      (b'.pending = [] ∧ entry.queued = [] ∧ entry.fetched = [] ∧
        entry.lost = b.pending.length ∧ areDropped (entry :: later) = true) := by
  cases h with
  | sent mode conveys =>
      refine .inl ⟨?_, rfl, rfl, rfl⟩
      rw [noted, conveys.pending_eq]
      rfl
  | switched | failing | refusing => exact .inl ⟨(List.append_nil _).symm, rfl, rfl, rfl⟩
  | taken => exact .inr (.inl ⟨rfl, rfl, rfl, rfl, rfl⟩)
  | dropped => exact .inr (.inr ⟨rfl, rfl, rfl, rfl, rfl⟩)

lemma Enters.replies_cons (h : b.Enters entry b') (h' : b'.Balanced entries b'') :
    (entry :: entries).flatMap (·.fetched) ++ b''.pending =
      (if areDropped (entry :: entries) then [] else b.pending) ++
        undropped (entry :: entries) := by
  rw [List.flatMap_cons, List.append_assoc, h'.replies, undropped]
  rcases h.pending_cases entries with ⟨hpending, hfetched, -, hdropped⟩ |
    ⟨hpending, hqueued, hfetched, -, hdropped⟩ | ⟨hpending, hqueued, hfetched, -, hdropped⟩
  · rw [hpending, hfetched, hdropped]
    cases areDropped entries <;> simp
  · simp [hpending, hqueued, hfetched, hdropped]
  · simp [hpending, hqueued, hfetched, hdropped]

lemma Enters.count_cons (h : b.Enters entry b') (h' : b'.Balanced entries b'') :
    ((entry :: entries).flatMap (·.fetched)).length + ((entry :: entries).map (·.lost)).sum +
        b''.pending.length =
      b.pending.length + ((entry :: entries).flatMap (·.queued)).length := by
  have hrest := h'.count
  simp only [List.flatMap_cons, List.length_append, List.map_cons, List.sum_cons]
  rcases h.pending_cases entries with ⟨hpending, hfetched, hlost, -⟩ |
    ⟨hpending, hqueued, hfetched, hlost, -⟩ | ⟨hpending, hqueued, hfetched, hlost, -⟩
  · rw [hpending, List.length_append] at hrest
    rw [hfetched, hlost, List.length_nil]
    omega
  · rw [hpending, List.length_nil] at hrest
    rw [hqueued, hfetched, hlost, List.length_nil]
    omega
  · rw [hpending, List.length_nil] at hrest
    rw [hqueued, hfetched, hlost, List.length_nil]
    omega

/-- **The step.**  An entry before a book that agrees with the bus leaves them in agreement. -/
lemma Enters.balanced (h : b.Enters entry b') (h' : b'.Balanced entries b'') :
    b.Balanced (entry :: entries) b'' where
  tagged _ _ _ _ _ := Passage.kind_of_outcome
  sent := by rw [h'.sent, h.sent_eq, List.flatMap_cons, List.append_assoc]
  failures hset := by
    have hfirst := h.failing_eq fun count heq => hset count (heq ▸ List.mem_cons_self)
    have hrest := h'.failures fun count hmem => hset count (List.mem_cons_of_mem entry hmem)
    rw [List.countP_cons]
    omega
  refusals := by
    calc (entry :: entries).flatMap (·.refused) ++ b''.refusals
        = entry.refused ++ (entries.flatMap (·.refused) ++ b''.refusals) := by
          rw [List.flatMap_cons, List.append_assoc]
      _ = (entry.refused ++ b'.refusals) ++ entries.flatMap (·.ordered) := by
          rw [h'.refusals, List.append_assoc]
      _ = b.refusals ++ (entry :: entries).flatMap (·.ordered) := by
          rw [h.refusals_eq, List.append_assoc, List.flatMap_cons]
  drive := by
    simp only [List.flatMap_cons, List.map_append]
    rw [SimulatedDrive.handleAll_append, h.drive_eq, h'.drive]
  replies := h.replies_cons h'
  count := h.count_cons h'

end Entry

/-! ### All entries -/

lemma Balanced.nil (b : SimulatedBus) : b.Balanced [] b where
  tagged _ _ _ _ _ := Passage.kind_of_outcome
  sent := (List.append_nil _).symm
  failures _ := rfl
  refusals := (List.append_nil _).symm
  drive := rfl
  replies := (List.append_nil _).symm
  count := by simp

/-- **The run.**  A book agrees with the bus. -/
lemma Books.balanced {b b' : SimulatedBus} {entries : List BusEntry} (h : Books b entries b') :
    b.Balanced entries b' := by
  induction h with
  | nil b => exact .nil b
  | cons enters _ ih => exact enters.balanced ih

lemma exists_books (b : SimulatedBus) (calls : List BusCall) :
    ∃ entries, entries.map BusEntry.call = calls ∧
      entries.map BusEntry.answer = (b.carryOutAll calls).1 ∧
      Books b entries (b.carryOutAll calls).2 := by
  induction calls generalizing b with
  | nil => exact ⟨[], rfl, rfl, .nil b⟩
  | cons call rest ih =>
      obtain ⟨entry, hcall, hanswer, henters⟩ := b.exists_enters call
      obtain ⟨entries, hcalls, hanswers, hbooks⟩ := ih (b.carryOut call).2
      refine ⟨entry :: entries, ?_, ?_, .cons henters hbooks⟩
      · rw [List.map_cons, hcall, hcalls]
      · rw [List.map_cons, hanswer, hanswers]
        rfl

/-- **Nothing gets lost on a bus, and nothing comes twice.**  For every row of calls there is a book
with an entry for each, which tells of its answer and of what it does to the bus; and the book
agrees with the bus at the end, be it on the requests, the failures and refusals that were ordered,
what the drive hears, or the replies that wait, are fetched and are thrown away. -/
theorem balanced_of_calls (b : SimulatedBus) (calls : List BusCall) :
    ∃ entries, entries.map BusEntry.call = calls ∧
      entries.map BusEntry.answer = (b.carryOutAll calls).1 ∧
      Books b entries (b.carryOutAll calls).2 ∧ b.Balanced entries (b.carryOutAll calls).2 := by
  obtain ⟨entries, hcalls, hanswers, hbooks⟩ := b.exists_books calls
  exact ⟨entries, hcalls, hanswers, hbooks, hbooks.balanced⟩

/-- Of three requests that nobody waits for one is refused, the reply to the next is thrown away
with the refusal, and that to the last is fetched. -/
example :
    ((ofDrive (.ofModel 1 .yl620)).carryOutAll
      [.refuseNext .slaveDeviceBusy,
        .send (.readOutput 1 DriveModel.yl620.registers) .nonBlocking,
        .send (.speed 1 DriveModel.yl620.registers 500) .nonBlocking, .dropPending,
        .send (.readOutput 1 DriveModel.yl620.registers) .nonBlocking, .takePending]).1 =
      [.done, .exchange (.ok none), .exchange (.ok none), .count 2, .exchange (.ok none),
        .replies [⟨.getSpeed, .response (ReadReply.toFrame { address := 1, value := 0 })⟩]] := by
  rfl

end SimulatedBus

end SpindleDrive
