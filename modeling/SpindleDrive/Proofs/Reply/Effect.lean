import SpindleDrive.Proofs.Reply.Grammar
import SpindleDrive.Spindle.Finding

/-!
# What a reply may change

The reader is handed the speeds of a spindle and its count of refusals.  It may enter a measurement
and it keeps the count; nothing else of what it is handed is its to change.

* `Reply.valueRead?` — the value that a reply reads as the answer to a request of some kind.
* `ReplyReader.Finds` — everything that the reader does, case by case.
* `ReplyReader.finds_read` — what it does with a reply is one of these cases.
* `ReplyReader.Effect` — what may change, when it does, and what each finding stands for.
* **`ReplyReader.effect_of_read`** — no reply has any other effect, whatever its frame.

The reader itself is opened for `finds_read` only: what a finding stands for is read off the cases.
-/

namespace SpindleDrive

/-! ## The value of a reply -/

/-- The value that a reply reads, if it answers a request of this kind and its frame is the reply to
a read. -/
def Reply.valueRead? (kind : RequestKind) (reply : Reply) : Option UInt16 :=
  match reply.outcome with
  | .response frame =>
    if reply.kind = kind then (ReadReply.ofFrame frame).toOption.map (·.value) else none
  | .exception _ => none

namespace Reply

variable {kind : RequestKind} {reply : Reply} {value : UInt16}

/-- **A value is read** from the reply to a read, with the right tag. -/
theorem valueRead?_eq_some_iff :
    reply.valueRead? kind = some value ↔
      ∃ frame address, reply = ⟨kind, .response frame⟩ ∧
        ReadReply.ofFrame frame = .ok ⟨address, value⟩ := by
  constructor
  · intro h
    obtain ⟨tag, frame | code⟩ := reply
    · by_cases htag : tag = kind
      · subst htag
        cases hframe : ReadReply.ofFrame frame with
        | error e => simp [valueRead?, hframe, Except.toOption] at h
        | ok r =>
            obtain rfl : r.value = value := by simpa [valueRead?, hframe, Except.toOption] using h
            exact ⟨frame, r.address, rfl, hframe⟩
      · simp [valueRead?, htag] at h
    · simp [valueRead?] at h
  · rintro ⟨frame, address, rfl, hframe⟩
    simp [valueRead?, hframe, Except.toOption]

/-- A refusal reads nothing. -/
lemma valueRead?_of_isException (h : reply.isException = true) : reply.valueRead? kind = none := by
  obtain ⟨tag, frame | code⟩ := reply
  · simp [isException] at h
  · rfl

/-- A reply reads nothing for requests of another kind. -/
lemma valueRead?_of_kind_ne (h : reply.kind ≠ kind) : reply.valueRead? kind = none := by
  obtain ⟨tag, frame | code⟩ := reply
  · exact if_neg h
  · rfl

/-- What reads a value is an answer of that kind. -/
lemma kind_of_valueRead? (h : reply.valueRead? kind = some value) : reply.kind = kind := by
  obtain ⟨frame, address, rfl, -⟩ := valueRead?_eq_some_iff.1 h
  rfl

lemma not_isException_of_valueRead? (h : reply.valueRead? kind = some value) :
    reply.isException = false := by
  obtain ⟨frame, address, rfl, -⟩ := valueRead?_eq_some_iff.1 h
  rfl

/-- What reads nothing for its own kind reads nothing at all. -/
lemma valueRead?_of_kind_eq_none (h : reply.valueRead? reply.kind = none) :
    reply.valueRead? kind = none := by
  by_cases hkind : reply.kind = kind
  · rw [← hkind, h]
  · exact valueRead?_of_kind_ne hkind

end Reply

namespace ReplyReader

variable {r : ReplyReader} {reply : Reply} {coldStart : Bool} {before after : SpeedData}
  {counter counter' : ExceptionCounter} {finding : Finding}

/-! ## Case by case -/

/-- **What the reader does**: the finding, the speeds and the count after a reply. -/
inductive Finds (r : ReplyReader) (reply : Reply) (coldStart : Bool) (before : SpeedData)
    (counter : ExceptionCounter) : Finding → SpeedData → ExceptionCounter → Prop
  | measured (value : UInt16) (hvalue : reply.valueRead? .getSpeed = some value) :
      Finds r reply coldStart before counter
        (.measured (r.scale.toSpeed value) (before.accepts (r.scale.toSpeed value)))
        (before.measure (r.scale.toSpeed value)) counter.clear
  | maxSpeed (value : UInt16) (hvalue : reply.valueRead? .getMaxSpeed = some value) :
      Finds r reply coldStart before counter (.maxSpeed (r.maxScale.toSpeed value)) before
        counter.clear
  | malformed (hkind : reply.kind = .getSpeed ∨ reply.kind = .getMaxSpeed)
      (hplain : reply.isException = false) (hvalue : reply.valueRead? reply.kind = none) :
      Finds r reply coldStart before counter (.malformed reply.kind) before counter.clear
  | acknowledged (hkind : reply.kind = .setSpeed ∨ reply.kind = .setStatus)
      (hplain : reply.isException = false) :
      Finds r reply coldStart before counter (.acknowledged reply.kind) before counter.clear
  | startingUp (code : ExceptionCode) (hrefusal : reply.isException = true)
      (hcold : coldStart = true) :
      Finds r reply coldStart before counter (.refused reply.kind code none true) before counter
  | refused (code : ExceptionCode) (hrefusal : reply.isException = true)
      (hcold : coldStart = false) :
      Finds r reply coldStart before counter
        (.refused reply.kind code
          (if reply.kind = .setSpeed then some before.programmed.clampBelow else none)
          counter.record.1)
        before counter.record.2

/-- The frame of a reading gives its value, or it is not the reply to a read. -/
lemma finds_readResponse (r : ReplyReader) (kind : RequestKind) (frame : Frame) (coldStart : Bool)
    (data : SpeedData) (counter : ExceptionCounter) :
    Finds r ⟨kind, .response frame⟩ coldStart data counter (r.readResponse kind frame data).1
      (r.readResponse kind frame data).2 counter.clear := by
  have hvalue : ∀ tag, Reply.valueRead? tag ⟨tag, .response frame⟩ =
      (ReadReply.ofFrame frame).toOption.map (·.value) := fun tag => if_pos rfl
  cases kind with
  | setSpeed => exact .acknowledged (.inl rfl) rfl
  | setStatus => exact .acknowledged (.inr rfl) rfl
  | getSpeed =>
      specialize hvalue .getSpeed
      rw [readResponse]
      cases hframe : ReadReply.ofFrame frame with
      | ok answer => exact .measured answer.value (by rw [hvalue, hframe]; rfl)
      | error e => exact .malformed (.inl rfl) rfl (by rw [hvalue, hframe]; rfl)
  | getMaxSpeed =>
      specialize hvalue .getMaxSpeed
      rw [readResponse]
      cases hframe : ReadReply.ofFrame frame with
      | ok answer => exact .maxSpeed answer.value (by rw [hvalue, hframe]; rfl)
      | error e => exact .malformed (.inr rfl) rfl (by rw [hvalue, hframe]; rfl)

/-- **What the reader does with a reply** is one of the cases. -/
theorem finds_read (r : ReplyReader) (reply : Reply) (coldStart : Bool) (data : SpeedData)
    (counter : ExceptionCounter) :
    Finds r reply coldStart data counter (r.read reply coldStart data counter).1
      (r.read reply coldStart data counter).2.1 (r.read reply coldStart data counter).2.2 := by
  obtain ⟨kind, frame | code⟩ := reply
  · exact r.finds_readResponse kind frame coldStart data counter
  · cases coldStart with
    | true => exact .startingUp code rfl rfl
    | false => exact .refused code rfl rfl

namespace Finds

/-- A measurement is found exactly where the speed is read. -/
lemma measured_iff (h : Finds r reply coldStart before counter finding after counter')
    {rpm : Binary32} {verdict : Bool} :
    finding = .measured rpm verdict ↔
      ∃ value, reply.valueRead? .getSpeed = some value ∧ rpm = r.scale.toSpeed value ∧
        verdict = before.accepts rpm := by
  cases h with
  | measured value hvalue =>
      simp only [hvalue, Finding.measured.injEq, Option.some.injEq, exists_eq_left']
      constructor
      · rintro ⟨rfl, rfl⟩
        exact ⟨rfl, rfl⟩
      · rintro ⟨rfl, rfl⟩
        exact ⟨rfl, rfl⟩
  | maxSpeed value hvalue =>
      have hkind := Reply.kind_of_valueRead? hvalue
      simp [Reply.valueRead?_of_kind_ne, hkind]
  | malformed hkind hplain hvalue => simp [Reply.valueRead?_of_kind_eq_none hvalue]
  | acknowledged hkind hplain =>
      rcases hkind with hkind | hkind
      · simp [Reply.valueRead?_of_kind_ne, hkind]
      · simp [Reply.valueRead?_of_kind_ne, hkind]
  | startingUp code hrefusal hcold => simp [Reply.valueRead?_of_isException hrefusal]
  | refused code hrefusal hcold => simp [Reply.valueRead?_of_isException hrefusal]

/-- The highest speed is found exactly where it is read. -/
lemma maxSpeed_iff (h : Finds r reply coldStart before counter finding after counter')
    {rpm : Binary32} :
    finding = .maxSpeed rpm ↔
      ∃ value, reply.valueRead? .getMaxSpeed = some value ∧ rpm = r.maxScale.toSpeed value := by
  cases h with
  | measured value hvalue =>
      have hkind := Reply.kind_of_valueRead? hvalue
      simp [Reply.valueRead?_of_kind_ne, hkind]
  | maxSpeed value hvalue => simp [hvalue, eq_comm]
  | malformed hkind hplain hvalue => simp [Reply.valueRead?_of_kind_eq_none hvalue]
  | acknowledged hkind hplain =>
      rcases hkind with hkind | hkind
      · simp [Reply.valueRead?_of_kind_ne, hkind]
      · simp [Reply.valueRead?_of_kind_ne, hkind]
  | startingUp code hrefusal hcold => simp [Reply.valueRead?_of_isException hrefusal]
  | refused code hrefusal hcold => simp [Reply.valueRead?_of_isException hrefusal]

/-- A reading is malformed exactly where it is no refusal and reads nothing. -/
lemma malformed_iff (h : Finds r reply coldStart before counter finding after counter')
    {kind : RequestKind} :
    finding = .malformed kind ↔
      reply.kind = kind ∧ (kind = .getSpeed ∨ kind = .getMaxSpeed) ∧
        reply.isException = false ∧ reply.valueRead? kind = none := by
  cases h with
  | measured value hvalue =>
      have hkind := Reply.kind_of_valueRead? hvalue
      simp only [reduceCtorEq, false_iff]
      rintro ⟨rfl, -, -, hnone⟩
      simp [hkind, hvalue] at hnone
  | maxSpeed value hvalue =>
      have hkind := Reply.kind_of_valueRead? hvalue
      simp only [reduceCtorEq, false_iff]
      rintro ⟨rfl, -, -, hnone⟩
      simp [hkind, hvalue] at hnone
  | malformed hkind hplain hvalue =>
      simp only [Finding.malformed.injEq]
      constructor
      · rintro rfl
        exact ⟨rfl, hkind, hplain, hvalue⟩
      · rintro ⟨rfl, -⟩
        rfl
  | acknowledged hkind hplain =>
      simp only [reduceCtorEq, false_iff]
      rintro ⟨rfl, hreading, -⟩
      rcases hkind with hkind | hkind
      · simp [hkind] at hreading
      · simp [hkind] at hreading
  | startingUp code hrefusal hcold => simp [hrefusal]
  | refused code hrefusal hcold => simp [hrefusal]

/-- A speed is to be sent again exactly after the refusal of one, but for a cold start. -/
lemma reissue?_eq_some_iff (h : Finds r reply coldStart before counter finding after counter')
    {rpm : Binary32} :
    finding.reissue? = some rpm ↔
      reply.kind = .setSpeed ∧ reply.isException = true ∧ coldStart = false ∧
        rpm = before.programmed.clampBelow := by
  cases h with
  | measured value hvalue => simp [Finding.reissue?, Reply.not_isException_of_valueRead? hvalue]
  | maxSpeed value hvalue => simp [Finding.reissue?, Reply.not_isException_of_valueRead? hvalue]
  | malformed hkind hplain hvalue => simp [Finding.reissue?, hplain]
  | acknowledged hkind hplain => simp [Finding.reissue?, hplain]
  | startingUp code hrefusal hcold => simp [Finding.reissue?, hcold]
  | refused code hrefusal hcold =>
      by_cases hkind : reply.kind = .setSpeed
      · simp [Finding.reissue?, hkind, hrefusal, hcold, eq_comm]
      · simp [Finding.reissue?, hkind]

/-- The host is to be alarmed by a refusal while it starts up, and by the last of a count. -/
lemma escalates_iff (h : Finds r reply coldStart before counter finding after counter') :
    finding.escalates = true ↔
      reply.isException = true ∧ (coldStart = true ∨ counter.record.1 = true) := by
  cases h with
  | measured value hvalue => simp [Finding.escalates, Reply.not_isException_of_valueRead? hvalue]
  | maxSpeed value hvalue => simp [Finding.escalates, Reply.not_isException_of_valueRead? hvalue]
  | malformed hkind hplain hvalue => simp [Finding.escalates, hplain]
  | acknowledged hkind hplain => simp [Finding.escalates, hplain]
  | startingUp code hrefusal hcold => simp [Finding.escalates, hrefusal, hcold]
  | refused code hrefusal hcold => simp [Finding.escalates, hrefusal, hcold]

/-- The count is started again by what is no refusal, left alone while the host starts up, and goes
on by one otherwise. -/
lemma counter_eq (h : Finds r reply coldStart before counter finding after counter') :
    counter' =
      if reply.isException = false then counter.clear
      else if coldStart = true then counter
      else counter.record.2 := by
  cases h with
  | measured value hvalue => simp [Reply.not_isException_of_valueRead? hvalue]
  | maxSpeed value hvalue => simp [Reply.not_isException_of_valueRead? hvalue]
  | malformed hkind hplain hvalue => simp [hplain]
  | acknowledged hkind hplain => simp [hplain]
  | startingUp code hrefusal hcold => simp [hrefusal, hcold]
  | refused code hrefusal hcold => simp [hrefusal, hcold]

/-- Only a measurement changes the speeds. -/
lemma data_eq (h : Finds r reply coldStart before counter finding after counter') :
    (∃ rpm, finding = .measured rpm (before.accepts rpm) ∧ after = before.measure rpm) ∨
      (∀ rpm verdict, finding ≠ .measured rpm verdict) ∧ after = before := by
  cases h with
  | measured value hvalue => exact .inl ⟨_, rfl, rfl⟩
  | maxSpeed value hvalue => exact .inr ⟨by simp, rfl⟩
  | malformed hkind hplain hvalue => exact .inr ⟨by simp, rfl⟩
  | acknowledged hkind hplain => exact .inr ⟨by simp, rfl⟩
  | startingUp code hrefusal hcold => exact .inr ⟨by simp, rfl⟩
  | refused code hrefusal hcold => exact .inr ⟨by simp, rfl⟩

lemma eq_of_unmeasured (h : Finds r reply coldStart before counter finding after counter')
    (hnone : ∀ rpm verdict, finding ≠ .measured rpm verdict) : after = before := by
  rcases h.data_eq with ⟨rpm, hfinding, -⟩ | ⟨-, hafter⟩
  · exact absurd hfinding (hnone _ _)
  · exact hafter

lemma entered (h : Finds r reply coldStart before counter finding after counter')
    {rpm : Binary32} {verdict : Bool} (hmeasured : finding = .measured rpm verdict) :
    after.measured = rpm ∧ after.commanded.atSpeed = verdict := by
  rcases h.data_eq with ⟨speed, hfinding, rfl⟩ | ⟨hnone, -⟩
  · obtain ⟨rfl, rfl⟩ : speed = rpm ∧ before.accepts speed = verdict := by
      simpa [hfinding] using hmeasured
    exact ⟨rfl, rfl⟩
  · exact absurd hmeasured (hnone _ _)

/-- A measurement leaves what was asked for. -/
lemma kept (h : Finds r reply coldStart before counter finding after counter') :
    after = { before with
      measured := after.measured
      commanded := { before.commanded with atSpeed := after.commanded.atSpeed } } := by
  rcases h.data_eq with ⟨rpm, -, rfl⟩ | ⟨-, rfl⟩
  · rfl
  · rfl

end Finds

/-! ## The effect -/

/-- **What a reply may change**: the finding, the speeds and the count after it. -/
structure Effect (r : ReplyReader) (reply : Reply) (coldStart : Bool) (before : SpeedData)
    (counter : ExceptionCounter) (finding : Finding) (after : SpeedData)
    (counter' : ExceptionCounter) : Prop where
  /-- The programmed speed, its limits and the state that was asked for stay. -/
  programmed : after.programmed = before.programmed
  limits : after.low = before.low ∧ after.high = before.high ∧ after.checked = before.checked
  commanded : after.commanded.on = before.commanded.on ∧ after.commanded.ccw = before.commanded.ccw
  /-- Nothing else changes but by a measurement. -/
  unmeasured : (∀ rpm verdict, finding ≠ .measured rpm verdict) → after = before
  entered : ∀ rpm verdict, finding = .measured rpm verdict →
    after.measured = rpm ∧ after.commanded.atSpeed = verdict
  /-- The verdict is that on the limits there were. -/
  measured_iff : ∀ rpm verdict, finding = .measured rpm verdict ↔
    ∃ value, reply.valueRead? .getSpeed = some value ∧ rpm = r.scale.toSpeed value ∧
      verdict = before.accepts rpm
  maxSpeed_iff : ∀ rpm, finding = .maxSpeed rpm ↔
    ∃ value, reply.valueRead? .getMaxSpeed = some value ∧ rpm = r.maxScale.toSpeed value
  malformed_iff : ∀ kind, finding = .malformed kind ↔
    reply.kind = kind ∧ (kind = .getSpeed ∨ kind = .getMaxSpeed) ∧ reply.isException = false ∧
      reply.valueRead? kind = none
  reissue_iff : ∀ rpm, finding.reissue? = some rpm ↔
    reply.kind = .setSpeed ∧ reply.isException = true ∧ coldStart = false ∧
      rpm = before.programmed.clampBelow
  escalates_iff : finding.escalates = true ↔
    reply.isException = true ∧ (coldStart = true ∨ counter.record.1 = true)
  counted : counter' =
    if reply.isException = false then counter.clear
    else if coldStart = true then counter
    else counter.record.2

/-- **No reply has any other effect**, whatever it answers and whatever its frame: a speed is
measured only by a frame that is the reply to a read of the speed, the highest speed is read with
the scale of its own register, and the count is kept for readings that cannot be understood too. -/
theorem effect_of_read (r : ReplyReader) (reply : Reply) (coldStart : Bool) (data : SpeedData)
    (counter : ExceptionCounter) :
    Effect r reply coldStart data counter (r.read reply coldStart data counter).1
      (r.read reply coldStart data counter).2.1 (r.read reply coldStart data counter).2.2 := by
  have h := r.finds_read reply coldStart data counter
  exact {
    programmed := by rw [h.kept]
    limits := by rw [h.kept]; exact ⟨rfl, rfl, rfl⟩
    commanded := by rw [h.kept]; exact ⟨rfl, rfl⟩
    unmeasured := h.eq_of_unmeasured
    entered := fun _ _ => h.entered
    measured_iff := fun _ _ => h.measured_iff
    maxSpeed_iff := fun _ => h.maxSpeed_iff
    malformed_iff := fun _ => h.malformed_iff
    reissue_iff := fun _ => h.reissue?_eq_some_iff
    escalates_iff := h.escalates_iff
    counted := h.counter_eq }

end ReplyReader

end SpindleDrive
