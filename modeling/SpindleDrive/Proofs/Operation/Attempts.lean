import Mathlib.Tactic.Lemma
import SpindleDrive.Spindle.Attempts

/-!
# The course of the attempts at a request

A request that has to be answered is sent again when it fails, up to a bound.  How often it is
sent, which failures are reported and when, and what is given at the end, all follows from the
results that the transport gives one after the other.

* `worldAfter`, `resultAfter` — where failures in a row leave a world, and what the attempt gives
  that follows them.
* `sendRepeatedly_of_ok`, `sendRepeatedly_of_errors` — the law of the loop, for any transport in
  any world: it stops at the first success, and else at the bound.
* `SendingStep`, `scripted`, `report` — a world in which everything is written down, with a
  transport that gives whatever results there are to give.
* `failuresBefore` — the failures before the first success.
* **`course_of_sending`** — what is done and what is given, for every sequence of results.
-/

namespace SpindleDrive

/-! ## Any transport -/

section AnyTransport

variable {World : Type} (send : Request → SendMode → StateM World Exchange)
  (onFailure : Nat → StateM World Unit) (request : Request) (w : World)

/-- **The world after so many failures**: the request is sent, then its failure is reported, and so
on. -/
def worldAfter : Nat → World
  | 0 => w
  | k + 1 => (onFailure (k + 1) (send request .blocking (worldAfter k)).2).2

/-- What the attempt gives that follows so many failures. -/
def resultAfter (k : Nat) : Exchange :=
  (send request .blocking (worldAfter send onFailure request w k)).1

variable {send onFailure request w} {k left retries : Nat} {last : TransportError}
  {reply? : Option Reply}

/-- A failure is reported, and leaves one attempt less. -/
lemma attempt_of_error {e : TransportError}
    (h : resultAfter send onFailure request w k = .error e) :
    attempt (send request .blocking) onFailure (left + 1) (k + 1) last
        (worldAfter send onFailure request w k) =
      attempt (send request .blocking) onFailure left (k + 1 + 1) e
        (worldAfter send onFailure request w (k + 1)) := by
  rw [worldAfter]
  rw [resultAfter] at h
  rcases hsend : send request .blocking (worldAfter send onFailure request w k) with ⟨result, w'⟩
  obtain rfl : result = .error e := by simpa [hsend] using h
  simp only [attempt, bind, StateT.bind, hsend]
  rfl

/-- A success ends the attempts. -/
lemma attempt_of_ok (h : resultAfter send onFailure request w k = .ok reply?) :
    attempt (send request .blocking) onFailure (left + 1) (k + 1) last
        (worldAfter send onFailure request w k) =
      (.ok reply?, (send request .blocking (worldAfter send onFailure request w k)).2) := by
  rw [resultAfter] at h
  rcases hsend : send request .blocking (worldAfter send onFailure request w k) with ⟨result, w'⟩
  obtain rfl : result = .ok reply? := by simpa [hsend] using h
  simp only [attempt, bind, StateT.bind, hsend]
  rfl

/-- Failures in a row use up as many attempts, and it is the latest error that is kept. -/
lemma exists_attempt_eq (h : ∀ i < k, ∃ e, resultAfter send onFailure request w i = .error e) :
    ∃ last, (0 < k → resultAfter send onFailure request w (k - 1) = .error last) ∧
      ∀ left, attempt (send request .blocking) onFailure (k + left) 1 .timeout w =
        attempt (send request .blocking) onFailure left (k + 1) last
          (worldAfter send onFailure request w k) := by
  induction k with
  | zero =>
      refine ⟨.timeout, by simp, fun left => ?_⟩
      rw [Nat.zero_add]
      rfl
  | succ k ih =>
      obtain ⟨previous, -, hrow⟩ := ih fun i hi => h i (Nat.lt_succ_of_lt hi)
      obtain ⟨e, he⟩ := h k (Nat.lt_succ_self k)
      refine ⟨e, fun _ => he, fun left => ?_⟩
      calc attempt (send request .blocking) onFailure (k + 1 + left) 1 .timeout w
          = attempt (send request .blocking) onFailure (k + (left + 1)) 1 .timeout w := by
            rw [Nat.add_assoc, Nat.add_comm 1]
        _ = attempt (send request .blocking) onFailure (left + 1) (k + 1) previous
              (worldAfter send onFailure request w k) := hrow (left + 1)
        _ = _ := attempt_of_error he

/-- What the attempts come to is given to the caller, an error with the request and the bound. -/
lemma sendRepeatedly_eq :
    sendRepeatedly send request retries onFailure w =
      ((attempt (send request .blocking) onFailure (max retries 1) 1 .timeout w).1.mapError
          (.exhausted request.kind (max retries 1)),
        (attempt (send request .blocking) onFailure (max retries 1) 1 .timeout w).2) := by
  rcases hattempt : attempt (send request .blocking) onFailure (max retries 1) 1 .timeout w with
    ⟨_ | _, w'⟩
  · simp only [sendRepeatedly, bind, StateT.bind, hattempt]
    rfl
  · simp only [sendRepeatedly, bind, StateT.bind, hattempt]
    rfl

/-- **The first success is the last attempt.** -/
theorem sendRepeatedly_of_ok
    (herrors : ∀ i < k, ∃ e, resultAfter send onFailure request w i = .error e)
    (hk : k < max retries 1) (hok : resultAfter send onFailure request w k = .ok reply?) :
    sendRepeatedly send request retries onFailure w =
      (.ok reply?, (send request .blocking (worldAfter send onFailure request w k)).2) := by
  obtain ⟨last, -, hrow⟩ := exists_attempt_eq herrors
  obtain ⟨left, hleft⟩ : ∃ left, max retries 1 = k + (left + 1) :=
    ⟨max retries 1 - k - 1, by omega⟩
  rw [sendRepeatedly_eq, hleft, hrow, attempt_of_ok hok]
  rfl

/-- **If all of them fail, the bound is reached**, and the error of the last one is given. -/
theorem sendRepeatedly_of_errors
    (herrors : ∀ i < max retries 1, ∃ e, resultAfter send onFailure request w i = .error e)
    (hlast : resultAfter send onFailure request w (max retries 1 - 1) = .error last) :
    sendRepeatedly send request retries onFailure w =
      (.error (.exhausted request.kind (max retries 1) last),
        worldAfter send onFailure request w (max retries 1)) := by
  obtain ⟨latest, hlatest, hrow⟩ := exists_attempt_eq herrors
  obtain rfl : last = latest := by
    simpa [hlast] using hlatest (Nat.lt_of_lt_of_le Nat.zero_lt_one (Nat.le_max_right _ _))
  rw [sendRepeatedly_eq, ← Nat.add_zero (max retries 1), hrow]
  rfl

end AnyTransport

/-! ## Failures before the first success -/

/-- **The failures before the first success** among so many results; all of them if none is a
success. -/
def failuresBefore (results : Nat → Exchange) (bound : Nat) : Nat :=
  ((List.range bound).map results).findIdx Except.isOk

section Failures

variable {results : Nat → Exchange} {bound : Nat}

lemma failuresBefore_le (results : Nat → Exchange) (bound : Nat) :
    failuresBefore results bound ≤ bound := by
  calc failuresBefore results bound
      ≤ ((List.range bound).map results).length := List.findIdx_le_length
    _ = bound := by simp

lemma exists_error_of_lt {i : Nat} (hi : i < failuresBefore results bound) :
    ∃ e, results i = .error e := by
  have hnot := List.not_of_lt_findIdx hi
  rw [List.getElem_map, List.getElem_range] at hnot
  cases hresult : results i with
  | error e => exact ⟨e, rfl⟩
  | ok reply? => simp [hresult, Except.isOk, Except.toBool] at hnot

lemma exists_ok_of_lt_bound (h : failuresBefore results bound < bound) :
    ∃ reply?, results (failuresBefore results bound) = .ok reply? := by
  have hlength : failuresBefore results bound < ((List.range bound).map results).length := by
    simpa using h
  have hok : (results (failuresBefore results bound)).isOk = true := by
    simpa [failuresBefore] using List.findIdx_getElem (p := Except.isOk) (w := hlength)
  cases hresult : results (failuresBefore results bound) with
  | error e => simp [hresult, Except.isOk, Except.toBool] at hok
  | ok reply? => exact ⟨reply?, rfl⟩

end Failures

/-! ## Results as they come -/

/-- What is done while a request is being sent. -/
inductive SendingStep where
  | sent (request : Request) (mode : SendMode)
  /-- The failure of the attempt with this number is reported. -/
  | reported (number : Nat)
  deriving DecidableEq, Repr

namespace SendingStep

def sent? : SendingStep → Option (Request × SendMode)
  | sent request mode => some (request, mode)
  | reported _ => none

def reported? : SendingStep → Option Nat
  | sent .. => none
  | reported number => some number

/-- The requests among some steps, with their modes. -/
def requests (steps : List SendingStep) : List (Request × SendMode) := steps.filterMap sent?

/-- The numbers of the failures that are reported among some steps. -/
def reports (steps : List SendingStep) : List Nat := steps.filterMap reported?

/-- An attempt that fails: each is sent, and its failure is reported before anything else. -/
def failed (request : Request) (number : Nat) : List SendingStep :=
  [sent request .blocking, reported number]

/-- The attempts that fail, from the first on. -/
def failures (request : Request) (k : Nat) : List SendingStep :=
  (List.range' 1 k).flatMap (failed request)

variable (request : Request) (k : Nat)

lemma failures_succ :
    failures request (k + 1) = failures request k ++ failed request (k + 1) := by
  rw [failures, List.range'_1_concat, List.flatMap_append, Nat.add_comm 1]
  simp [failures]

@[simp] lemma requests_failures :
    requests (failures request k) = List.replicate k (request, .blocking) := by
  induction k with
  | zero => rfl
  | succ k ih =>
      rw [failures_succ, requests, List.filterMap_append, ← requests, ih, List.replicate_succ']
      rfl

@[simp] lemma reports_failures : reports (failures request k) = List.range' 1 k := by
  induction k with
  | zero => rfl
  | succ k ih =>
      rw [failures_succ, reports, List.filterMap_append, ← reports, ih, List.range'_1_concat,
        Nat.add_comm 1]
      rfl

end SendingStep

/-- **A transport that gives these results**, one to each request, and writes the requests down. -/
def scripted (results : Nat → Exchange) (request : Request) (mode : SendMode) :
    StateM (List SendingStep) Exchange :=
  fun steps => (results (SendingStep.requests steps).length, steps ++ [.sent request mode])

/-- A report of a failure, which is written down as well. -/
def report (number : Nat) : StateM (List SendingStep) Unit :=
  fun steps => ((), steps ++ [.reported number])

section Scripted

variable (results : Nat → Exchange) (request : Request)

lemma worldAfter_scripted (k : Nat) :
    worldAfter (scripted results) report request [] k = SendingStep.failures request k := by
  induction k with
  | zero => rfl
  | succ k ih =>
      rw [worldAfter, ih, SendingStep.failures_succ]
      simp [scripted, report, SendingStep.failed]

lemma resultAfter_scripted (k : Nat) :
    resultAfter (scripted results) report request [] k = results k := by
  rw [resultAfter, worldAfter_scripted]
  simp [scripted]

end Scripted

/-- **The course of the attempts at a request**, of which so many failed before any success. -/
structure SendingCourse (results : Nat → Exchange) (request : Request) (bound failed : Nat)
    (ends : Except DriverError (Option Reply)) (steps : List SendingStep) : Prop where
  le_bound : failed ≤ bound
  errors : ∀ i < failed, ∃ e, results i = .error e
  /-- The same request is sent for each failure and for the success, within the bound. -/
  requests : SendingStep.requests steps =
    List.replicate (min (failed + 1) bound) (request, .blocking)
  reports : SendingStep.reports steps = List.range' 1 (min failed bound)
  /-- Each failure is reported after its attempt and before the next one. -/
  order : steps = SendingStep.failures request failed ++
    if failed < bound then [.sent request .blocking] else []
  answered : failed < bound → ∃ reply?, results failed = .ok reply? ∧ ends = .ok reply?
  /-- The error that is given is that of the last attempt. -/
  exhausted : failed = bound → ∃ last, results (bound - 1) = .error last ∧
    ends = .error (.exhausted request.kind bound last)

section Course

variable {results : Nat → Exchange} {request : Request} {bound : Nat}

lemma sendingCourse_of_ok {reply? : Option Reply} (hlt : failuresBefore results bound < bound)
    (hok : results (failuresBefore results bound) = .ok reply?) :
    SendingCourse results request bound (failuresBefore results bound) (.ok reply?)
      (SendingStep.failures request (failuresBefore results bound) ++
        [.sent request .blocking]) where
  le_bound := failuresBefore_le results bound
  errors _ hi := exists_error_of_lt hi
  requests := by
    rw [Nat.min_eq_left hlt, List.replicate_succ', ← SendingStep.requests_failures]
    exact List.filterMap_append
  reports := by
    rw [Nat.min_eq_left (Nat.le_of_lt hlt), SendingStep.reports, List.filterMap_append,
      ← SendingStep.reports, SendingStep.reports_failures]
    exact List.append_nil _
  order := by rw [if_pos hlt]
  answered _ := ⟨reply?, hok, rfl⟩
  exhausted heq := absurd heq (Nat.ne_of_lt hlt)

lemma sendingCourse_of_errors {last : TransportError}
    (heq : failuresBefore results bound = bound) (hlast : results (bound - 1) = .error last) :
    SendingCourse results request bound (failuresBefore results bound)
      (.error (.exhausted request.kind bound last)) (SendingStep.failures request bound) where
  le_bound := failuresBefore_le results bound
  errors _ hi := exists_error_of_lt hi
  requests := by
    rw [heq, Nat.min_eq_right (Nat.le_succ bound), SendingStep.requests_failures]
  reports := by rw [heq, Nat.min_self, SendingStep.reports_failures]
  order := by rw [heq, if_neg (Nat.lt_irrefl bound), List.append_nil]
  answered hlt := absurd heq (Nat.ne_of_lt hlt)
  exhausted _ := ⟨last, hlast, rfl⟩

/-- A request that is sent without waiting is sent once, and a failure leaves nothing. -/
lemma sendOnce_scripted (results : Nat → Exchange) (request : Request) :
    sendOnce (scripted results) request [] =
      ((results 0).toOption.join, [.sent request .nonBlocking]) := by
  have hsend : scripted results request .nonBlocking [] =
      (results 0, [.sent request .nonBlocking]) := rfl
  simp only [sendOnce, bind, StateT.bind, hsend]
  cases results 0 with
  | error e => rfl
  | ok reply? => cases reply? <;> rfl

end Course

/-- **Every sequence of results settles the course of the attempts**, whatever the request and
however many attempts there may be; and with it what becomes of a request that is sent without
waiting. -/
theorem course_of_sending (results : Nat → Exchange) (request : Request) (retries : Nat) :
    SendingCourse results request (max retries 1) (failuresBefore results (max retries 1))
        (sendRepeatedly (scripted results) request retries report []).1
        (sendRepeatedly (scripted results) request retries report []).2 ∧
      sendOnce (scripted results) request [] =
        ((results 0).toOption.join, [.sent request .nonBlocking]) := by
  refine ⟨?_, sendOnce_scripted results request⟩
  have herrors : ∀ i < failuresBefore results (max retries 1),
      ∃ e, resultAfter (scripted results) report request [] i = .error e := by
    intro i hi
    rw [resultAfter_scripted]
    exact exists_error_of_lt hi
  rcases Nat.lt_or_eq_of_le (failuresBefore_le results (max retries 1)) with hlt | heq
  · obtain ⟨reply?, hok⟩ := exists_ok_of_lt_bound hlt
    rw [sendRepeatedly_of_ok herrors hlt ((resultAfter_scripted ..).trans hok),
      worldAfter_scripted]
    exact sendingCourse_of_ok hlt hok
  · rw [heq] at herrors
    obtain ⟨last, hlast⟩ := herrors (max retries 1 - 1) (by omega)
    rw [sendRepeatedly_of_errors herrors hlast, worldAfter_scripted]
    rw [resultAfter_scripted] at hlast
    exact sendingCourse_of_errors heq hlast

/-- Two failures and a success, with the bound at three. -/
example (request : Request) (reply : Reply) :
    sendRepeatedly (scripted fun n => if n < 2 then .error .timeout else .ok (some reply)) request
        3 report [] =
      (.ok (some reply),
        [.sent request .blocking, .reported 1, .sent request .blocking, .reported 2,
          .sent request .blocking]) := rfl

end SpindleDrive
