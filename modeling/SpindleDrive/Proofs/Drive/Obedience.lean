import SpindleDrive.Proofs.Line.LostReplies
import SpindleDrive.Proofs.Reply.Grammar

/-!
# What a drive makes of a row of frames

A drive is sent frames of any bytes.  What it refuses it does not do in part, what it reads it
leaves alone, and what it accepts it says in a reply that the readers understand.  So its state
after any row of frames can be told from the frames and the replies alone.

* `SimulatedDrive.Accepts` — the frames that a drive has a register for.
* `SimulatedDrive.Handled` — everything that it does with a frame, case by case.
* `handled_handle` — what it does is one of these cases.
* `SimulatedDrive.Answered` — what can be said of a frame, the reply to it, and the drive before and
  after it.
* `SimulatedDrive.acceptedValues` — the values of the commands or of the frequencies that were
  accepted, by the frames and the replies.
* `SimulatedDrive.Told` — what follows from these values for the drive.
* `answered_handle`, `Handled.told` — one frame.
* **`SimulatedDrive.state_of_exchanges`** — every frame of a row, and where the row leaves the
  drive.
-/

namespace SpindleDrive

/-! ## Bytes of functions -/

lemma FunctionCode.ofByte?_eq_some_iff {byte : UInt8} {function : FunctionCode} :
    ofByte? byte = some function ↔ byte = function.toByte := by
  constructor
  · intro h
    rw [ofByte?] at h
    split at h
    · rename_i hread
      cases h
      exact hread
    · split at h
      · rename_i hwrite
        cases h
        exact hwrite
      · cases h
  · rintro rfl
    exact ofByte?_toByte function

/-- Whatever the function, it can be marked as a refusal. -/
lemma isExceptionByte_or (byte : UInt8) : isExceptionByte (byte ||| exceptionFlag) = true := by
  rw [isExceptionByte_eq_testBit, UInt8.toNat_or, Nat.testBit_or]
  exact Bool.or_true _

lemma isExceptionByte_exceptionFrame (address : UInt8) (function : FunctionCode)
    (code : ExceptionCode) :
    isExceptionByte (exceptionFrame address function code).functionByte = true := by
  have hfunction : (exceptionFrame address function code).functionByte = function.exceptionByte :=
    Frame.buffer_ofBytes _ 1 (by decide)
  rw [hfunction]
  exact isExceptionByte_or _

lemma ReadReply.isExceptionByte_toFrame (r : ReadReply) :
    isExceptionByte r.toFrame.functionByte = false := by
  have hfunction : r.toFrame.functionByte = FunctionCode.readHoldingRegisters.toByte :=
    Frame.buffer_ofBytes _ 1 (by decide)
  rw [hfunction]
  rfl

/-- A frame that is long enough for a write and has its function is read as one. -/
lemma WriteReply.ofFrame_of_functionByte {f : Frame} (hlength : 6 ≤ f.length)
    (hfunction : f.functionByte = FunctionCode.writeRegister.toByte) :
    ofFrame f = .ok { address := f.address, register := f.register, value := f.value } := by
  rw [ofFrame_eq, checkFunction_bind_eq_ok_iff]
  refine ⟨UInt8.le_trans (by decide) hlength, hfunction, ?_⟩
  rw [if_neg (UInt8.not_lt.2 hlength)]

/-- What the field of a command word makes of a drive that runs or does not. -/
def RunStop.follow : RunStop → Bool → Bool
  | start, _ => true
  | jog, _ => true
  | stop, _ => false
  | noFunction, running => running

/-- What the field of a command word makes of the direction. -/
def Direction.follow : Direction → Bool → Bool
  | forward, _ => false
  | reverse, _ => true
  | toggle, reversed => !reversed
  | noFunction, reversed => reversed

namespace SimulatedDrive

variable {d d' : SimulatedDrive} {request : Frame} {reply? : Option Frame}

/-! ## One frame -/

/-- **A frame that the drive has a register for**: a write of one that can be written, or a read of
one that can be read. -/
structure Accepts (d : SimulatedDrive) (request : Frame) : Prop where
  long : 6 ≤ request.length
  mapped :
    request.functionByte = FunctionCode.writeRegister.toByte ∧
        (request.register = d.registers.command ∨ request.register = d.registers.frequency) ∨
      request.functionByte = FunctionCode.readHoldingRegisters.toByte ∧
        (request.register = d.registers.outputFrequency ∨
          some request.register = d.registers.maxFrequency)

/-- **What a drive does with a frame**: its reply, if there is one, and the drive after it. -/
inductive Handled (d : SimulatedDrive) (request : Frame) : Option Frame → SimulatedDrive → Prop
  | passed (haddress : request.address ≠ d.address) : Handled d request none d
  | refused (reply : Frame) (haddress : request.address = d.address)
      (hflag : isExceptionByte reply.functionByte = true) (hnot : ¬d.Accepts request) :
      Handled d request (some reply) d
  | command (haddress : request.address = d.address) (hlength : 6 ≤ request.length)
      (hfunction : request.functionByte = FunctionCode.writeRegister.toByte)
      (hregister : request.register = d.registers.command) :
      Handled d request (some request) (d.obey (.ofByte request.value.toUInt8))
  | frequency (haddress : request.address = d.address) (hlength : 6 ≤ request.length)
      (hfunction : request.functionByte = FunctionCode.writeRegister.toByte)
      (hother : request.register ≠ d.registers.command)
      (hregister : request.register = d.registers.frequency) :
      Handled d request (some request) { d with frequency := request.value }
  | output (haddress : request.address = d.address) (hlength : 6 ≤ request.length)
      (hfunction : request.functionByte = FunctionCode.readHoldingRegisters.toByte)
      (hregister : request.register = d.registers.outputFrequency) :
      Handled d request (some (ReadReply.toFrame { address := d.address, value := d.output })) d
  | highest (haddress : request.address = d.address) (hlength : 6 ≤ request.length)
      (hfunction : request.functionByte = FunctionCode.readHoldingRegisters.toByte)
      (hother : request.register ≠ d.registers.outputFrequency)
      (hregister : some request.register = d.registers.maxFrequency) :
      Handled d request
        (some (ReadReply.toFrame { address := d.address, value := d.maxFrequency })) d

/-- A write that is long enough. -/
lemma handled_write (haddress : request.address = d.address) (hlength : 6 ≤ request.length)
    (hfunction : request.functionByte = FunctionCode.writeRegister.toByte) :
    d.Handled request (some (d.write request request.register request.value).1)
      (d.write request request.register request.value).2 := by
  rw [write]
  by_cases hcommand : request.register = d.registers.command
  · rw [if_pos hcommand]
    exact .command haddress hlength hfunction hcommand
  by_cases hfrequency : request.register = d.registers.frequency
  · rw [if_neg hcommand, if_pos hfrequency]
    exact .frequency haddress hlength hfunction hcommand hfrequency
  · rw [if_neg hcommand, if_neg hfrequency]
    refine .refused _ haddress (isExceptionByte_exceptionFrame _ _ _) ?_
    rintro ⟨-, ⟨-, hmapped⟩ | ⟨hread, -⟩⟩
    · rcases hmapped with h | h
      · exact hcommand h
      · exact hfrequency h
    · simp [hfunction, FunctionCode.toByte] at hread

/-- A read that is long enough. -/
lemma handled_read (haddress : request.address = d.address) (hlength : 6 ≤ request.length)
    (hfunction : request.functionByte = FunctionCode.readHoldingRegisters.toByte) :
    d.Handled request (some (d.read request.register)) d := by
  rw [read]
  by_cases houtput : request.register = d.registers.outputFrequency
  · rw [if_pos houtput]
    exact .output haddress hlength hfunction houtput
  by_cases hhighest : some request.register = d.registers.maxFrequency
  · rw [if_neg houtput, if_pos hhighest]
    exact .highest haddress hlength hfunction houtput hhighest
  · rw [if_neg houtput, if_neg hhighest]
    refine .refused _ haddress (isExceptionByte_exceptionFrame _ _ _) ?_
    rintro ⟨-, ⟨hwrite, -⟩ | ⟨-, hmapped⟩⟩
    · simp [hfunction, FunctionCode.toByte] at hwrite
    · rcases hmapped with h | h
      · exact houtput h
      · exact hhighest h

/-- **A drive does one of these things.** -/
theorem handled_handle (d : SimulatedDrive) (request : Frame) :
    d.Handled request (d.handle request).1 (d.handle request).2 := by
  rw [handle]
  by_cases haddress : request.address = d.address
  · rw [if_neg (not_not.2 haddress)]
    by_cases hshort : request.length < 6
    · rw [if_pos hshort]
      refine .refused _ haddress (isExceptionByte_exceptionFrame _ _ _) ?_
      rintro ⟨hlong, -⟩
      exact UInt8.not_lt.2 hlong hshort
    · rw [if_neg hshort]
      have hlength := UInt8.not_lt.1 hshort
      cases hfunction : FunctionCode.ofByte? request.functionByte with
      | none =>
          refine .refused _ haddress ?_ ?_
          · rw [Frame.functionByte, Frame.buffer_ofBytes _ 1 (by decide)]
            exact isExceptionByte_or _
          · rintro ⟨-, ⟨hwrite, -⟩ | ⟨hread, -⟩⟩
            · simp [hwrite, FunctionCode.ofByte?_toByte] at hfunction
            · simp [hread, FunctionCode.ofByte?_toByte] at hfunction
      | some function =>
          rw [FunctionCode.ofByte?_eq_some_iff] at hfunction
          cases function with
          | readHoldingRegisters => exact handled_read haddress hlength hfunction
          | writeRegister => exact handled_write haddress hlength hfunction
  · rw [if_pos haddress]
    exact .passed haddress

/-- Whether there is a reply, and it is no refusal. -/
def isAccepting (reply? : Option Frame) : Bool :=
  reply?.any fun reply => !isExceptionByte reply.functionByte

/-- **What can be said of a frame, the reply to it, and the drive before and after it.** -/
structure Answered (d : SimulatedDrive) (request : Frame) (reply? : Option Frame)
    (d' : SimulatedDrive) : Prop where
  absent_iff : reply? = none ↔ request.address ≠ d.address
  /-- What is not accepted is not done in part. -/
  unchanged : isAccepting reply? = false → d' = d
  read_unchanged : request.functionByte = FunctionCode.readHoldingRegisters.toByte → d' = d
  accepting_iff : isAccepting reply? = true ↔ request.address = d.address ∧ d.Accepts request
  /-- The reply to a read gives the register that was asked for. -/
  read : ∀ reply, reply? = some reply → isExceptionByte reply.functionByte = false →
    request.functionByte = FunctionCode.readHoldingRegisters.toByte →
    ∃ value, ReadReply.ofFrame reply = .ok ⟨d.address, value⟩ ∧
      (request.register = d.registers.outputFrequency ∧
          value = (if d.running then d.frequency else 0) ∨
        request.register ≠ d.registers.outputFrequency ∧
          some request.register = d.registers.maxFrequency ∧ value = d.maxFrequency)
  /-- The reply to a write is its echo. -/
  write : ∀ reply, reply? = some reply → isExceptionByte reply.functionByte = false →
    request.functionByte = FunctionCode.writeRegister.toByte →
    reply = request ∧
      WriteReply.ofFrame reply = .ok ⟨d.address, request.register, request.value⟩

lemma Handled.absent_iff (h : d.Handled request reply? d') :
    reply? = none ↔ request.address ≠ d.address := by
  cases h with
  | passed haddress => simp [haddress]
  | refused reply haddress => simp [haddress]
  | command haddress => simp [haddress]
  | frequency haddress => simp [haddress]
  | output haddress => simp [haddress]
  | highest haddress => simp [haddress]

/-- Neither of the functions in use is the mark of a refusal. -/
lemma isAccepting_request {function : FunctionCode}
    (hfunction : request.functionByte = function.toByte) :
    isAccepting (some request) = true := by
  simp [isAccepting, hfunction, isExceptionByte_toByte]

lemma isAccepting_toFrame (r : ReadReply) : isAccepting (some r.toFrame) = true := by
  simp [isAccepting, r.isExceptionByte_toFrame]

lemma Handled.unchanged (h : d.Handled request reply? d') (hnot : isAccepting reply? = false) :
    d' = d := by
  cases h with
  | passed | refused | output | highest => rfl
  | command haddress hlength hfunction => simp [isAccepting_request hfunction] at hnot
  | frequency haddress hlength hfunction => simp [isAccepting_request hfunction] at hnot

lemma Handled.read_unchanged (h : d.Handled request reply? d')
    (hread : request.functionByte = FunctionCode.readHoldingRegisters.toByte) : d' = d := by
  cases h with
  | passed | refused | output | highest => rfl
  | command haddress hlength hfunction => simp [hread, FunctionCode.toByte] at hfunction
  | frequency haddress hlength hfunction => simp [hread, FunctionCode.toByte] at hfunction

lemma Handled.accepting_iff (h : d.Handled request reply? d') :
    isAccepting reply? = true ↔ request.address = d.address ∧ d.Accepts request := by
  cases h with
  | passed haddress => simp [isAccepting, haddress]
  | refused reply haddress hflag hnot => simp [isAccepting, hflag, hnot]
  | command haddress hlength hfunction hregister =>
      exact iff_of_true (isAccepting_request hfunction)
        ⟨haddress, hlength, .inl ⟨hfunction, .inl hregister⟩⟩
  | frequency haddress hlength hfunction hother hregister =>
      exact iff_of_true (isAccepting_request hfunction)
        ⟨haddress, hlength, .inl ⟨hfunction, .inr hregister⟩⟩
  | output haddress hlength hfunction hregister =>
      exact iff_of_true (isAccepting_toFrame _)
        ⟨haddress, hlength, .inr ⟨hfunction, .inl hregister⟩⟩
  | highest haddress hlength hfunction hother hregister =>
      exact iff_of_true (isAccepting_toFrame _)
        ⟨haddress, hlength, .inr ⟨hfunction, .inr hregister⟩⟩

lemma Handled.read {reply : Frame} (h : d.Handled request reply? d') (hreply : reply? = some reply)
    (hplain : isExceptionByte reply.functionByte = false)
    (hread : request.functionByte = FunctionCode.readHoldingRegisters.toByte) :
    ∃ value, ReadReply.ofFrame reply = .ok ⟨d.address, value⟩ ∧
      (request.register = d.registers.outputFrequency ∧
          value = (if d.running then d.frequency else 0) ∨
        request.register ≠ d.registers.outputFrequency ∧
          some request.register = d.registers.maxFrequency ∧ value = d.maxFrequency) := by
  cases h with
  | passed haddress => simp at hreply
  | refused _ haddress hflag =>
      obtain rfl := Option.some.inj hreply
      simp [hplain] at hflag
  | command haddress hlength hfunction => simp [hread, FunctionCode.toByte] at hfunction
  | frequency haddress hlength hfunction => simp [hread, FunctionCode.toByte] at hfunction
  | output haddress hlength hfunction hregister =>
      obtain rfl := Option.some.inj hreply
      exact ⟨_, ReadReply.ofFrame_toFrame _, .inl ⟨hregister, rfl⟩⟩
  | highest haddress hlength hfunction hother hregister =>
      obtain rfl := Option.some.inj hreply
      exact ⟨_, ReadReply.ofFrame_toFrame _, .inr ⟨hother, hregister, rfl⟩⟩

lemma Handled.write {reply : Frame} (h : d.Handled request reply? d') (hreply : reply? = some reply)
    (hplain : isExceptionByte reply.functionByte = false)
    (hwrite : request.functionByte = FunctionCode.writeRegister.toByte) :
    reply = request ∧
      WriteReply.ofFrame reply = .ok ⟨d.address, request.register, request.value⟩ := by
  cases h with
  | passed haddress => simp at hreply
  | refused _ haddress hflag =>
      obtain rfl := Option.some.inj hreply
      simp [hplain] at hflag
  | command haddress hlength =>
      obtain rfl := Option.some.inj hreply
      rw [← haddress]
      exact ⟨rfl, WriteReply.ofFrame_of_functionByte hlength hwrite⟩
  | frequency haddress hlength =>
      obtain rfl := Option.some.inj hreply
      rw [← haddress]
      exact ⟨rfl, WriteReply.ofFrame_of_functionByte hlength hwrite⟩
  | output haddress hlength hfunction => simp [hwrite, FunctionCode.toByte] at hfunction
  | highest haddress hlength hfunction => simp [hwrite, FunctionCode.toByte] at hfunction

/-- **One frame**, whatever its bytes and its length. -/
theorem answered_handle (d : SimulatedDrive) (request : Frame) :
    d.Answered request (d.handle request).1 (d.handle request).2 := by
  have h := d.handled_handle request
  exact {
    absent_iff := h.absent_iff
    unchanged := h.unchanged
    read_unchanged := h.read_unchanged
    accepting_iff := h.accepting_iff
    read := fun _ => h.read
    write := fun _ => h.write }

/-! ## A row of frames -/

/-- Any frame of a row finds the drive as those before it have left it. -/
lemma handleAll_getElem? (d : SimulatedDrive) (requests : List Frame) {n : Nat} {request : Frame}
    (hrequest : requests[n]? = some request) :
    (d.handleAll requests).1[n]? = some ((d.handleAll (requests.take n)).2.handle request).1 ∧
      (d.handleAll (requests.take (n + 1))).2 =
        ((d.handleAll (requests.take n)).2.handle request).2 := by
  induction requests generalizing d n with
  | nil => simp at hrequest
  | cons first rest ih =>
      cases n with
      | zero =>
          obtain rfl : first = request := by simpa using hrequest
          exact ⟨rfl, rfl⟩
      | succ n => exact ih (d.handle first).2 (by simpa using hrequest)

/-- What a write can be a write of. -/
inductive Written where
  | command
  | frequency
  deriving DecidableEq

/-- What a write of a register is a write of, if of anything.  The command register goes first, for
whatever map of the registers. -/
def written? (registers : RegisterMap) (register : UInt16) : Option Written :=
  if register = registers.command then some .command
  else if register = registers.frequency then some .frequency
  else none

/-- The values of the commands or of the frequencies that were accepted, by the frames and the
replies. -/
def acceptedValues (registers : RegisterMap) (written : Written)
    (exchanges : List (Frame × Option Frame)) : List UInt16 :=
  (exchanges.filter fun (request, reply?) =>
    request.functionByte == FunctionCode.writeRegister.toByte &&
      written? registers request.register == some written &&
      isAccepting reply?).map fun (request, _) => request.value

variable {registers : RegisterMap} {written : Written}

lemma acceptedValues_cons (registers : RegisterMap) (written : Written)
    (exchange : Frame × Option Frame) (exchanges : List (Frame × Option Frame)) :
    acceptedValues registers written (exchange :: exchanges) =
      acceptedValues registers written [exchange] ++
        acceptedValues registers written exchanges := by
  rw [acceptedValues, acceptedValues, acceptedValues, ← List.map_append, ← List.filter_append]
  rfl

/-- An accepted write adds its value to those of its own sort. -/
lemma acceptedValues_of_write (hfunction : request.functionByte = FunctionCode.writeRegister.toByte)
    (hwritten : written? registers request.register = some written) (sort : Written) :
    acceptedValues registers sort [(request, some request)] =
      if written = sort then [request.value] else [] := by
  have haccepting := isAccepting_request hfunction
  by_cases hsort : written = sort
  · simp [acceptedValues, hfunction, hwritten, haccepting, hsort]
  · simp [acceptedValues, hfunction, hwritten, hsort]

/-- What is not accepted adds nothing. -/
lemma acceptedValues_of_not_isAccepting (hnot : isAccepting reply? = false) (sort : Written) :
    acceptedValues registers sort [(request, reply?)] = [] := by
  simp [acceptedValues, hnot]

/-- Neither does a read. -/
lemma acceptedValues_of_read
    (hfunction : request.functionByte = FunctionCode.readHoldingRegisters.toByte)
    (sort : Written) : acceptedValues registers sort [(request, reply?)] = [] := by
  simp [acceptedValues, hfunction, FunctionCode.toByte]

/-- **What an exchange adds**: nothing, a command that the drive has obeyed, or a frequency that it
keeps. -/
lemma Handled.adds (h : d.Handled request reply? d') :
    (d' = d ∧ ∀ sort, acceptedValues d.registers sort [(request, reply?)] = []) ∨
      (d' = d.obey (.ofByte request.value.toUInt8) ∧
        ∀ sort, acceptedValues d.registers sort [(request, reply?)] =
          if .command = sort then [request.value] else []) ∨
      (d' = { d with frequency := request.value } ∧
        ∀ sort, acceptedValues d.registers sort [(request, reply?)] =
          if .frequency = sort then [request.value] else []) := by
  cases h with
  | passed haddress => exact .inl ⟨rfl, acceptedValues_of_not_isAccepting rfl⟩
  | refused reply haddress hflag =>
      exact .inl ⟨rfl, acceptedValues_of_not_isAccepting (by simp [isAccepting, hflag])⟩
  | command haddress hlength hfunction hregister =>
      exact .inr (.inl ⟨rfl, acceptedValues_of_write hfunction (if_pos hregister)⟩)
  | frequency haddress hlength hfunction hother hregister =>
      have hwritten : written? d.registers request.register = some .frequency := by
        rw [written?, if_neg hother, if_pos hregister]
      exact .inr (.inr ⟨rfl, acceptedValues_of_write hfunction hwritten⟩)
  | output haddress hlength hfunction => exact .inl ⟨rfl, acceptedValues_of_read hfunction⟩
  | highest haddress hlength hfunction => exact .inl ⟨rfl, acceptedValues_of_read hfunction⟩

/-- Where the run or stop fields of commands leave a drive. -/
def runAfter (commands : List UInt16) (running : Bool) : Bool :=
  commands.foldl
    (fun running value => (CommandWord.ofByte value.toUInt8).runStop.follow running) running

/-- Where the direction fields of commands leave it. -/
def reverseAfter (commands : List UInt16) (reversed : Bool) : Bool :=
  commands.foldl
    (fun reversed value => (CommandWord.ofByte value.toUInt8).direction.follow reversed) reversed

lemma obey_running (d : SimulatedDrive) (word : CommandWord) :
    (d.obey word).running = word.runStop.follow d.running := by
  rw [obey]
  cases word.runStop <;> rfl

lemma obey_reverse (d : SimulatedDrive) (word : CommandWord) :
    (d.obey word).reverse = word.direction.follow d.reverse := by
  rw [obey]
  cases word.direction <;> rfl

/-- **What can be told of a drive from the exchanges** with it: `d` is the drive before them. -/
structure Told (d : SimulatedDrive) (exchanges : List (Frame × Option Frame))
    (d' : SimulatedDrive) : Prop where
  address : d'.address = d.address
  registers : d'.registers = d.registers
  maxFrequency : d'.maxFrequency = d.maxFrequency
  /-- The frequency is the last one that was accepted. -/
  frequency : d'.frequency =
    (acceptedValues d.registers .frequency exchanges).getLast?.getD d.frequency
  running : d'.running = runAfter (acceptedValues d.registers .command exchanges) d.running
  reverse : d'.reverse = reverseAfter (acceptedValues d.registers .command exchanges) d.reverse

/-- One exchange. -/
lemma Handled.told (h : d.Handled request reply? d') : d.Told [(request, reply?)] d' := by
  rcases h.adds with ⟨rfl, hadds⟩ | ⟨rfl, hadds⟩ | ⟨rfl, hadds⟩
  · refine ⟨rfl, rfl, rfl, ?_, ?_, ?_⟩
    · rw [hadds]
      rfl
    · rw [hadds]
      rfl
    · rw [hadds]
      rfl
  · refine ⟨rfl, rfl, rfl, ?_, ?_, ?_⟩
    · rw [hadds]
      rfl
    · rw [hadds]
      exact obey_running d _
    · rw [hadds]
      exact obey_reverse d _
  · refine ⟨rfl, rfl, rfl, ?_, ?_, ?_⟩
    · rw [hadds]
      rfl
    · rw [hadds]
      rfl
    · rw [hadds]
      rfl

/-- One exchange and then others. -/
lemma Told.cons {exchange : Frame × Option Frame} {exchanges : List (Frame × Option Frame)}
    {d'' : SimulatedDrive} (h : d.Told [exchange] d') (h' : d'.Told exchanges d'') :
    d.Told (exchange :: exchanges) d'' where
  address := h'.address.trans h.address
  registers := h'.registers.trans h.registers
  maxFrequency := h'.maxFrequency.trans h.maxFrequency
  frequency := by
    rw [h'.frequency, h.registers, h.frequency, acceptedValues_cons _ _ exchange exchanges,
      List.getLast?_append]
    cases (acceptedValues d.registers .frequency exchanges).getLast? <;> rfl
  running := by
    rw [h'.running, h.registers, h.running, acceptedValues_cons _ _ exchange exchanges,
      runAfter, runAfter, runAfter, List.foldl_append]
  reverse := by
    rw [h'.reverse, h.registers, h.reverse, acceptedValues_cons _ _ exchange exchanges,
      reverseAfter, reverseAfter, reverseAfter, List.foldl_append]

/-- A row of frames with the replies to them. -/
lemma told_handleAll (d : SimulatedDrive) (requests : List Frame) :
    d.Told (requests.zip (d.handleAll requests).1) (d.handleAll requests).2 := by
  induction requests generalizing d with
  | nil => exact ⟨rfl, rfl, rfl, rfl, rfl, rfl⟩
  | cons request rest ih => exact (d.handled_handle request).told.cons (ih _)

/-- **The state of a drive can be told from the exchanges.**  Whatever frames it is sent, of any
bytes and any length, each of them is answered as it should be: there is no reply exactly if the
frame is for another address; what is not accepted, and what is a read, changes nothing; an accepted
read gives the register that was asked for, and an accepted write comes back as its echo, both in a
form that the readers understand.  After any row of frames the frequency is that of the last
accepted write of a frequency, and the drive runs and is turned round as the fields of the accepted
commands leave it, taken one after the other. -/
theorem state_of_exchanges (d : SimulatedDrive) (requests : List Frame) :
    (∀ n request, requests[n]? = some request →
      ∃ reply?, (d.handleAll requests).1[n]? = some reply? ∧
        Answered (d.handleAll (requests.take n)).2 request reply?
          (d.handleAll (requests.take (n + 1))).2) ∧
      d.Told (requests.zip (d.handleAll requests).1) (d.handleAll requests).2 := by
  refine ⟨fun n request hrequest => ?_, told_handleAll d requests⟩
  obtain ⟨hreply, hnext⟩ := d.handleAll_getElem? requests hrequest
  refine ⟨_, hreply, ?_⟩
  rw [hnext]
  exact answered_handle _ request

/-- A write that is cut off, one for another drive, a read that is marked as a refusal, a start in
the other direction, a frequency, a read of it, a write of a register that there is none of, and a
command that only turns the direction round. -/
def someFrames : List Frame :=
  [.ofBytes [1, 0x06, 0x20, 0x00], writeFrame 2 0x2001 700, .ofBytes [1, 0x83, 0x20, 0x0B, 0, 1],
    writeFrame 1 0x2000 0x22, writeFrame 1 0x2001 500, readFrame 1 0x200B 1,
    writeFrame 1 0x2005 600, writeFrame 1 0x2000 0x30]

example : ((ofModel 1 .yl620).handleAll someFrames).2 =
    { ofModel 1 .yl620 with running := true, reverse := false, frequency := 500 } := by
  decide +kernel

end SimulatedDrive

end SpindleDrive
