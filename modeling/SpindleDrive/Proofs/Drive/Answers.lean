import Mathlib.Tactic.Lemma
import SpindleDrive.Bus.Transport
import SpindleDrive.Drive.Simulated

/-!
# How a drive answers a driver

The driver builds frames and the drive takes them apart.  Here the two meet: a drive reads back
what was written into a frame, follows the commands that a driver sends, and its replies say what
it holds.

* `wordOfBytes_wordBytes` — a word survives the way over the wire.
* `CommandWord.ofByte_toByte` — so does a command word.
* **`handle_command`, `handle_speed`** — a drive echoes a write and follows it.
* **`handle_readOutput`** — a drive answers a read of the output frequency with what it puts out.
* `handle_registers` — nothing makes a drive change its registers.
* `handle_motion` — only a write of the command register makes it start, stop or turn round.

The answers are those of a drive that has the address and the registers that the driver expects.
-/

namespace SpindleDrive

/-! ## The wire -/

/-- The bytes of a word make up the word. -/
theorem wordOfBytes_wordBytes (w : UInt16) :
    wordOfBytes (wordBytes w).1 (wordBytes w).2 = w := by
  apply UInt16.toNat_inj.1
  have hw : w.toNat < 65536 := w.toNat_lt
  have hhigh : w.toNat >>> 8 = w.toNat / 256 := Nat.shiftRight_eq_div_pow ..
  have hshift : (w.toNat / 256 % 256) <<< 8 % 65536 = (w.toNat / 256) <<< 8 := by
    rw [Nat.shiftLeft_eq, Nat.shiftLeft_eq]
    omega
  have hlow : w.toNat % 256 < 2 ^ 8 := Nat.mod_lt _ (by decide)
  simp only [wordOfBytes, wordBytes, UInt16.toNat_or, UInt16.toNat_shiftLeft,
    UInt8.toNat_toUInt16, UInt16.toNat_toUInt8, UInt16.toNat_shiftRight]
  show (w.toNat >>> 8 % 256) <<< 8 % 65536 ||| w.toNat % 256 = w.toNat
  rw [hhigh, hshift, ← Nat.shiftLeft_add_eq_or_of_lt hlow, Nat.shiftLeft_eq]
  omega

namespace CommandWord

/-- A byte holds a command word without loss. -/
theorem ofByte_toByte (w : CommandWord) : ofByte w.toByte = w := by
  obtain ⟨runStop, spare, direction, faultReset⟩ := w
  revert spare
  cases runStop <;> cases direction <;> cases faultReset <;> decide

/-- The high byte of the command register is not looked at. -/
lemma ofByte_toUInt16 (w : CommandWord) : ofByte w.toByte.toUInt16.toUInt8 = w := by
  rw [UInt8.toUInt8_toUInt16, ofByte_toByte]

end CommandWord

namespace Frame

variable (address function : UInt8) (register value : UInt16)

/-- The frame of a function with two words after it. -/
def message : Frame :=
  .ofBytes [address, function, (wordBytes register).1, (wordBytes register).2,
    (wordBytes value).1, (wordBytes value).2]

@[simp] lemma message_address : (message address function register value).address = address :=
  buffer_ofBytes _ 0 (by decide)

@[simp] lemma message_functionByte :
    (message address function register value).functionByte = function :=
  buffer_ofBytes _ 1 (by decide)

@[simp] lemma message_length : (message address function register value).length = 6 := rfl

@[simp] lemma message_register :
    (message address function register value).register = register := by
  rw [Frame.register, wordAt, message, buffer_ofBytes _ 2, buffer_ofBytes _ 3]
  exact wordOfBytes_wordBytes register

@[simp] lemma message_value : (message address function register value).value = value := by
  rw [Frame.value, wordAt, message, buffer_ofBytes _ 4, buffer_ofBytes _ 5]
  exact wordOfBytes_wordBytes value

end Frame

lemma writeFrame_eq (address : UInt8) (register value : UInt16) :
    writeFrame address register value =
      .message address FunctionCode.writeRegister.toByte register value := rfl

lemma readFrame_eq (address : UInt8) (register count : UInt16) :
    readFrame address register count =
      .message address FunctionCode.readHoldingRegisters.toByte register count := rfl

/-- A write is no refusal, and so neither is its echo. -/
lemma exceptionCode?_writeFrame (address : UInt8) (register value : UInt16) :
    exceptionCode? (writeFrame address register value) = none := by
  rw [writeFrame_eq, exceptionCode?, Frame.message_functionByte]
  rfl

namespace ReadReply

/-- A reply to a read is no refusal. -/
lemma exceptionCode?_toFrame (r : ReadReply) : exceptionCode? r.toFrame = none := by
  have hfunction : r.toFrame.functionByte = FunctionCode.readHoldingRegisters.toByte :=
    Frame.buffer_ofBytes _ 1 (by decide)
  rw [exceptionCode?, hfunction]
  rfl

/-- **A reply to a read is read back** as what it was. -/
theorem ofFrame_toFrame (r : ReadReply) : ofFrame r.toFrame = .ok r := by
  have haddress : r.toFrame.address = r.address := Frame.buffer_ofBytes _ 0 (by decide)
  have hfunction : r.toFrame.functionByte = FunctionCode.readHoldingRegisters.toByte :=
    Frame.buffer_ofBytes _ 1 (by decide)
  have hlength : r.toFrame.length = 5 := rfl
  have hcount : r.toFrame.buffer[2] = 2 := Frame.buffer_ofBytes _ 2 (by decide)
  have hvalue : r.toFrame.wordAt 3 = r.value := by
    rw [Frame.wordAt, toFrame, Frame.buffer_ofBytes _ 3, Frame.buffer_ofBytes _ 4]
    exact wordOfBytes_wordBytes r.value
  have hcheck : checkFunction r.toFrame .readHoldingRegisters = .ok () := by
    rw [checkFunction, exceptionCode?_toFrame, hfunction, hlength]
    rfl
  rw [ofFrame, hcheck]
  simp only [hlength, hcount, haddress, hvalue]
  rfl

end ReadReply

namespace SimulatedDrive

variable (d : SimulatedDrive)

/-- A write that reaches the drive is looked at register by register. -/
lemma handle_write (register value : UInt16) :
    d.handle (writeFrame d.address register value) =
      (some (d.write (writeFrame d.address register value) register value).1,
        (d.write (writeFrame d.address register value) register value).2) := by
  rw [handle, writeFrame_eq]
  simp only [Frame.message_address, Frame.message_length, Frame.message_functionByte,
    Frame.message_register, Frame.message_value, FunctionCode.ofByte?_toByte]
  rw [if_neg (by simp), if_neg (by decide)]

/-- **A command is echoed and followed.** -/
theorem handle_command (word : CommandWord) :
    d.handle (Request.command d.address d.registers word).frame =
      (some (Request.command d.address d.registers word).frame, d.obey word) := by
  have hwrite := d.handle_write d.registers.command word.toByte.toUInt16
  rw [write, if_pos rfl, CommandWord.ofByte_toUInt16] at hwrite
  exact hwrite

/-- **A frequency is echoed and kept**, its register being another than that for commands. -/
theorem handle_speed (code : UInt16) (h : d.registers.frequency ≠ d.registers.command) :
    d.handle (Request.speed d.address d.registers code).frame =
      (some (Request.speed d.address d.registers code).frame, { d with frequency := code }) := by
  have hwrite := d.handle_write d.registers.frequency code
  rw [write, if_neg h, if_pos rfl] at hwrite
  exact hwrite

lemma write_registers (request : Frame) (register value : UInt16) :
    (d.write request register value).2.registers = d.registers := by
  rw [write]
  split
  · rfl
  split <;> rfl

/-- A drive keeps its registers whatever it is asked. -/
lemma handle_registers (request : Frame) : (d.handle request).2.registers = d.registers := by
  rw [handle]
  split
  · rfl
  split
  · rfl
  split
  · exact d.write_registers ..
  · rfl
  · rfl

/-- A read that reaches the drive changes nothing. -/
lemma handle_read (register count : UInt16) :
    d.handle (readFrame d.address register count) = (some (d.read register), d) := by
  rw [handle, readFrame_eq]
  simp only [Frame.message_address, Frame.message_length, Frame.message_functionByte,
    Frame.message_register, FunctionCode.ofByte?_toByte]
  rw [if_neg (by simp), if_neg (by decide)]

/-- **The output frequency is read off.** -/
theorem handle_readOutput :
    d.handle (Request.readOutput d.address d.registers).frame =
      (some (ReadReply.toFrame { address := d.address, value := d.output }), d) := by
  have hread := d.handle_read d.registers.outputFrequency 1
  rw [read, if_pos rfl] at hread
  exact hread

/-! ## Motion -/

/-- Whether a drive runs, and whether it turns the other way. -/
def motion : Bool × Bool := (d.running, d.reverse)

/-- **Only the command register moves a drive.** -/
theorem handle_motion (request : Frame)
    (h : FunctionCode.ofByte? request.functionByte = some .writeRegister →
      request.register ≠ d.registers.command) :
    (d.handle request).2.motion = d.motion := by
  rw [handle]
  split
  · rfl
  split
  · rfl
  split
  · rename_i hwrite
    dsimp only
    rw [write, if_neg (h hwrite)]
    split <;> rfl
  · rfl
  · rfl

end SimulatedDrive

end SpindleDrive
