import SpindleDrive.Bus.Transport
import SpindleDrive.Spindle.ExceptionCounter
import SpindleDrive.Spindle.SpeedData

/-!
# What a reply says

A reply is told by the tag of its request: a write is acknowledged, a reading gives a speed, a
refusal may ask for the speed to be sent again and may be one too many.

* `Finding` — what there is to say about a reply.
* `ReplyReader` — the conversions for the two frequency registers.
* `ReplyReader.read` — the finding, with the speeds and the count of refusals after it.
* `ReplyReader.read_data_eq` — of all replies only a reading changes the speeds.

Nothing here sends or raises an alarm; a finding says what is to be done.
-/

namespace SpindleDrive

/-- What a reply was found to say. -/
inductive Finding where
  | acknowledged (kind : RequestKind)
  | measured (rpm : Binary32) (atSpeed : Bool)
  | maxSpeed (rpm : Binary32)
  /-- A reading whose frame is not the reply to a read. -/
  | malformed (kind : RequestKind)
  /-- A refusal: the speed to send again, if any, and whether the host is to be alarmed. -/
  | refused (kind : RequestKind) (code : ExceptionCode) (reissue : Option Binary32)
      (escalate : Bool)
  deriving DecidableEq, Repr

namespace Finding

def escalates : Finding → Bool
  | refused _ _ _ escalate => escalate
  | _ => false

def reissue? : Finding → Option Binary32
  | refused _ _ reissue _ => reissue
  | _ => none

end Finding

/-- The code of a speed that a reply reads, if it is a reading and can be understood. -/
def Reply.reading? (reply : Reply) : Option UInt16 :=
  match reply.kind, reply.outcome with
  | .getSpeed, .response frame => (ReadReply.ofFrame frame).toOption.map (·.value)
  | _, _ => none

/-- The conversions of the output register and of the register of the highest frequency. -/
structure ReplyReader where
  scale : SpeedScale
  maxScale : SpeedScale
  deriving DecidableEq, Repr

namespace ReplyReader

/-- What a frame says that is no refusal, with the speeds after it. -/
def readResponse (r : ReplyReader) (kind : RequestKind) (frame : Frame) (data : SpeedData) :
    Finding × SpeedData :=
  match kind with
  | .getSpeed =>
    match ReadReply.ofFrame frame with
    | .ok reply =>
      let rpm := r.scale.toSpeed reply.value
      let data := data.measure rpm
      (.measured rpm data.commanded.atSpeed, data)
    | .error _ => (.malformed kind, data)
  | .getMaxSpeed =>
    match ReadReply.ofFrame frame with
    | .ok reply => (.maxSpeed (r.maxScale.toSpeed reply.value), data)
    | .error _ => (.malformed kind, data)
  | .setStatus | .setSpeed => (.acknowledged kind, data)

/-- Only a refusal raises an alarm. -/
theorem readResponse_escalates (r : ReplyReader) (kind : RequestKind) (frame : Frame)
    (data : SpeedData) : (r.readResponse kind frame data).1.escalates = false := by
  unfold readResponse
  split <;> try split
  all_goals rfl

/-- Only a refusal makes the driver send a speed again. -/
theorem readResponse_reissue? (r : ReplyReader) (kind : RequestKind) (frame : Frame)
    (data : SpeedData) : (r.readResponse kind frame data).1.reissue? = none := by
  unfold readResponse
  split <;> try split
  all_goals rfl

/-- What a refusal says.  While the host starts up it is alarming at once and is not counted.
Only a speed is sent again; the next poll makes up for the rest. -/
def readException (kind : RequestKind) (code : ExceptionCode) (coldStart : Bool)
    (data : SpeedData) (counter : ExceptionCounter) : Finding × ExceptionCounter :=
  if coldStart then (.refused kind code none true, counter)
  else
    let reissue := if kind = .setSpeed then some data.reissueSpeed else none
    let (escalate, counter) := counter.record
    (.refused kind code reissue escalate, counter)

/-- Reads a reply.  Whatever is no refusal starts the count of refusals again, even if it cannot
be understood. -/
def read (r : ReplyReader) (reply : Reply) (coldStart : Bool) (data : SpeedData)
    (counter : ExceptionCounter) : Finding × SpeedData × ExceptionCounter :=
  match reply.outcome with
  | .response frame =>
    let (finding, data) := r.readResponse reply.kind frame data
    (finding, data, counter.clear)
  | .exception code =>
    let (finding, counter) := readException reply.kind code coldStart data counter
    (finding, data, counter)

/-- **Only a reading changes the speeds**, by the speed that it reads. -/
theorem read_data_eq (r : ReplyReader) (reply : Reply) (coldStart : Bool) (data : SpeedData)
    (counter : ExceptionCounter) :
    (r.read reply coldStart data counter).2.1 =
      match reply.reading? with
      | some code => data.measure (r.scale.toSpeed code)
      | none => data := by
  rcases reply with ⟨kind, frame | code⟩
  · cases kind with
    | getSpeed =>
        simp only [read, readResponse, Reply.reading?]
        split <;> simp [*, Except.toOption]
    | getMaxSpeed =>
        simp only [read, readResponse, Reply.reading?]
        split <;> rfl
    | setStatus => rfl
    | setSpeed => rfl
  · cases kind <;> rfl

/-- **The speed to send again** is the programmed one. -/
theorem read_reissue?_eq {r : ReplyReader} {reply : Reply} {coldStart : Bool} {data : SpeedData}
    {counter : ExceptionCounter} {rpm : Binary32}
    (h : (r.read reply coldStart data counter).1.reissue? = some rpm) :
    rpm = data.reissueSpeed := by
  rcases reply with ⟨kind, frame | code⟩
  · simp [read, r.readResponse_reissue?] at h
  · cases coldStart with
    | true => simp [read, readException, Finding.reissue?] at h
    | false =>
        by_cases hkind : kind = .setSpeed
        · simpa [read, readException, Finding.reissue?, hkind, eq_comm] using h
        · simp [read, readException, Finding.reissue?, hkind] at h

/-- **Only the refusal of a speed** has one sent again. -/
theorem exists_exception_of_reissue? {r : ReplyReader} {reply : Reply} {coldStart : Bool}
    {data : SpeedData} {counter : ExceptionCounter} {rpm : Binary32}
    (h : (r.read reply coldStart data counter).1.reissue? = some rpm) :
    ∃ code, reply = ⟨.setSpeed, .exception code⟩ := by
  rcases reply with ⟨kind, frame | code⟩
  · simp [read, r.readResponse_reissue?] at h
  · cases coldStart with
    | true => simp [read, readException, Finding.reissue?] at h
    | false =>
        by_cases hkind : kind = .setSpeed
        · exact ⟨code, by rw [hkind]⟩
        · simp [read, readException, Finding.reissue?, hkind] at h

/-- **Only a refusal** is alarming. -/
theorem exists_exception_of_escalates {r : ReplyReader} {reply : Reply} {coldStart : Bool}
    {data : SpeedData} {counter : ExceptionCounter}
    (h : (r.read reply coldStart data counter).1.escalates = true) :
    ∃ code, reply.outcome = .exception code := by
  rcases reply with ⟨kind, frame | code⟩
  · simp [read, r.readResponse_escalates] at h
  · exact ⟨code, rfl⟩

end ReplyReader

end SpindleDrive
