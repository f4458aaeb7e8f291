import SpindleDrive.Proofs.Config.Validation
import SpindleDrive.Proofs.Drive.Answers

/-!
# The requests of a driver, byte by byte

A driver asks four things of a drive, and each has one shape on the wire.  The shapes are stated
here on the bytes themselves, so that nothing has to be known of how a request is built.

* `Request.IsWrite`, `Request.IsRead` — the bytes of a write and of a read of one register.
* `CommandWord.IsRun` — a word that starts or stops the motor in a direction and does nothing else.
* `Request.IsProper` — the four requests, each with the way in which it may be sent.
* **`isProper_command`** and its like — what a driver builds is proper.
* `isSlaveAddress_modbusAddress` — the addresses of a valid configuration are those of slaves.
-/

namespace SpindleDrive

/-- The bytes in use are those that a frame is made of, if they fit. -/
theorem Frame.bytes_ofBytes {data : List UInt8} (h : data.length ≤ frameCapacity) :
    (Frame.ofBytes data).bytes = data := by
  have hlength : (Frame.ofBytes data).length.toNat = data.length := by
    rw [Frame.length_ofBytes, Nat.min_eq_left h]
  refine List.ext_getElem ?_ ?_
  · simp [Frame.bytes, hlength, h]
  · intro i hi hi'
    simp only [Frame.bytes, List.getElem_take, Vector.getElem_toList]
    rw [Frame.buffer_ofBytes _ i (by omega)]
    simp [hi']

/-! ## Words -/

/-- A word that starts or stops the motor in a direction and does nothing else. -/
structure CommandWord.IsRun (w : CommandWord) : Prop where
  runStop : w.runStop = .stop ∨ w.runStop = .start
  spare : w.spare = 0
  direction : w.direction = .forward ∨ w.direction = .reverse
  faultReset : w.faultReset = .noFunction

lemma CommandWord.isRun_run (on : Bool) (rpm : Binary32) (ccw : Bool) :
    (CommandWord.run (.forRequest on rpm) (.ofCcw ccw)).IsRun where
  runStop := by
    show RunStop.forRequest on rpm = _ ∨ RunStop.forRequest on rpm = _
    rw [RunStop.forRequest]
    split <;> simp
  spare := rfl
  direction := by
    show Direction.ofCcw ccw = _ ∨ Direction.ofCcw ccw = _
    cases ccw <;> simp [Direction.ofCcw]
  faultReset := rfl

/-- A byte in a word leaves the high byte zero. -/
lemma wordBytes_toUInt16 (b : UInt8) : wordBytes b.toUInt16 = (0, b) := by
  refine Prod.ext ?_ (UInt8.toUInt8_toUInt16 b)
  have hb : b.toNat < 256 := b.toNat_lt
  apply UInt8.toNat_inj.1
  simp only [wordBytes, UInt16.toNat_toUInt8, UInt16.toNat_shiftRight, UInt8.toNat_toUInt16]
  show b.toNat >>> 8 % 256 = 0
  rw [Nat.shiftRight_eq_div_pow]
  omega

/-! ## Shapes -/

namespace Request

/-- A write of a register: six bytes with zeros after them, and a reply that is as long with its
checksum. -/
structure IsWrite (r : Request) (address : UInt8) (register value : UInt16) : Prop where
  bytes : r.frame.bytes =
    [address, 0x06, (wordBytes register).1, (wordBytes register).2, (wordBytes value).1,
      (wordBytes value).2]
  length : r.frame.length = 6
  padded : r.frame.IsPadded
  replyLength : r.replyLength = 8

/-- A read of one register: six bytes with zeros after them, and a reply that is a byte shorter
than that to a write. -/
structure IsRead (r : Request) (address : UInt8) (register : UInt16) : Prop where
  bytes : r.frame.bytes =
    [address, 0x03, (wordBytes register).1, (wordBytes register).2, 0, 1]
  length : r.frame.length = 6
  padded : r.frame.IsPadded
  replyLength : r.replyLength = 7

/-- **What a driver asks of a drive** at an address, and how. -/
inductive IsProper (registers : RegisterMap) (address : UInt8) (r : Request) : SendMode → Prop where
  | command (value : UInt16) (kind : r.kind = .setStatus)
      (isWrite : r.IsWrite address registers.command value) (high : (wordBytes value).1 = 0)
      (isRun : (CommandWord.ofByte (wordBytes value).2).IsRun) :
      IsProper registers address r .blocking
  | speed (mode : SendMode) (value : UInt16) (kind : r.kind = .setSpeed)
      (isWrite : r.IsWrite address registers.frequency value) : IsProper registers address r mode
  | output (kind : r.kind = .getSpeed) (isRead : r.IsRead address registers.outputFrequency) :
      IsProper registers address r .nonBlocking
  | highest (register : UInt16) (present : registers.maxFrequency = some register)
      (kind : r.kind = .getMaxSpeed) (isRead : r.IsRead address register) :
      IsProper registers address r .nonBlocking

variable (address : UInt8) (registers : RegisterMap)

lemma isWrite_writeFrame (kind : RequestKind) (register value : UInt16) :
    IsWrite ⟨kind, writeFrame address register value, writeReplyLength⟩ address register value where
  bytes := by rw [writeFrame_eq]; exact Frame.bytes_ofBytes (Nat.le_of_ble_eq_true rfl)
  length := rfl
  padded := Frame.isPadded_ofBytes _
  replyLength := rfl

lemma isRead_readFrame (kind : RequestKind) (register : UInt16) :
    IsRead ⟨kind, readFrame address register 1, readReplyLength⟩ address register where
  bytes := by rw [readFrame_eq]; exact Frame.bytes_ofBytes (Nat.le_of_ble_eq_true rfl)
  length := rfl
  padded := Frame.isPadded_ofBytes _
  replyLength := rfl

/-- **A command is proper** if it is waited for. -/
theorem isProper_command (on : Bool) (rpm : Binary32) (ccw : Bool) :
    (command address registers (.run (.forRequest on rpm) (.ofCcw ccw))).IsProper registers address
      .blocking := by
  refine .command _ rfl (isWrite_writeFrame address _ _ _) ?_ ?_
  · rw [wordBytes_toUInt16]
  · rw [wordBytes_toUInt16, CommandWord.ofByte_toByte]
    exact CommandWord.isRun_run on rpm ccw

lemma isProper_speed (code : UInt16) (mode : SendMode) :
    (speed address registers code).IsProper registers address mode :=
  .speed mode code rfl (isWrite_writeFrame address _ _ _)

lemma isProper_readOutput :
    (readOutput address registers).IsProper registers address .nonBlocking :=
  .output rfl (isRead_readFrame address _ _)

lemma isProper_readMax {request : Request} (h : readMax? address registers = some request) :
    request.IsProper registers address .nonBlocking := by
  rcases Option.map_eq_some_iff.1 h with ⟨register, hregister, rfl⟩
  exact .highest register hregister rfl (isRead_readFrame address _ _)

end Request

/-! ## Addresses -/

namespace Config

/-- **Whatever the host's number for a spindle is, its address is that of a slave.** -/
theorem isSlaveAddress_modbusAddress {c : Config} (h : c.validate = .ok ()) (binding : UInt8) :
    isSlaveAddress (c.modbusAddress binding) = true := by
  rw [modbusAddress]
  cases hbinding : c.addresses[binding.toNat]? with
  | some address => exact isSlaveAddress_of_validate h (List.mem_of_getElem? hbinding)
  | none =>
      cases haddresses : c.addresses with
      | nil => rfl
      | cons first rest => exact isSlaveAddress_of_validate h (by simp [haddresses])

end Config

end SpindleDrive
