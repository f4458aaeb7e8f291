import Mathlib.Data.Nat.Bitwise
import SpindleDrive.Bus.Transport
import SpindleDrive.Proofs.Drive.Requests

/-!
# The grammar of replies

Whether a frame is the reply to a read, the reply to a write or a refusal is settled by its bytes
in use.  The readers look at them one condition after the other; here each reader is held against
the frame that it reads back, byte by byte, and the two readers and the transport against each
other.

* `wordBytes_wordOfBytes` — any two bytes are those of the word that they make up.
* `Frame.take_bytes` — the first bytes in use, one by one.
* `isExceptionByte_eq_testBit`, `exceptionCode?_eq_some_iff` — what makes a frame a refusal.
* `checkFunction_eq_ok_iff`, `checkFunction_eq_exception_iff` — what a reader looks at first.
* `ReadReply.ofFrame_eq_ok_iff`, `WriteReply.ofFrame_eq_ok_iff` — the frames that begin as those
  which the writers build, and no others.
* **`Frame.reads_as`** — what any frame is to the readers and to the transport.

Bytes past the last field are not looked at, and neither is anything past the bytes in use: zeros
that fill the buffer never pass for data.
-/

namespace SpindleDrive

/-! ## Bytes -/

/-- Two bytes are those of the word that they make up. -/
lemma wordBytes_wordOfBytes (high low : UInt8) :
    wordBytes (wordOfBytes high low) = (high, low) := by
  have hhigh : high.toNat < 256 := high.toNat_lt
  have hlow : low.toNat < 2 ^ 8 := low.toNat_lt
  have hshift : high.toNat <<< 8 % 65536 = high.toNat <<< 8 := by
    rw [Nat.shiftLeft_eq]
    omega
  have hword : (wordOfBytes high low).toNat = high.toNat * 256 + low.toNat := by
    simp only [wordOfBytes, UInt16.toNat_or, UInt16.toNat_shiftLeft, UInt8.toNat_toUInt16]
    show high.toNat <<< 8 % 65536 ||| low.toNat = _
    rw [hshift, ← Nat.shiftLeft_add_eq_or_of_lt hlow, Nat.shiftLeft_eq]
  refine Prod.ext (UInt8.toNat_inj.1 ?_) (UInt8.toNat_inj.1 ?_)
  · simp only [wordBytes, UInt16.toNat_toUInt8, UInt16.toNat_shiftRight, hword]
    show (high.toNat * 256 + low.toNat) >>> 8 % 256 = _
    rw [Nat.shiftRight_eq_div_pow]
    omega
  · simp only [wordBytes, UInt16.toNat_toUInt8, hword]
    omega

/-- A word is settled by its bytes. -/
lemma wordOfBytes_eq_iff {high low : UInt8} {w : UInt16} :
    wordOfBytes high low = w ↔ high = (wordBytes w).1 ∧ low = (wordBytes w).2 := by
  constructor
  · intro h
    rw [← h, wordBytes_wordOfBytes]
    exact ⟨rfl, rfl⟩
  · rintro ⟨rfl, rfl⟩
    exact wordOfBytes_wordBytes w

/-- The exception flag is the top bit. -/
lemma isExceptionByte_eq_testBit (b : UInt8) : isExceptionByte b = b.toNat.testBit 7 := by
  have hflag : (b &&& exceptionFlag).toNat = (b.toNat.testBit 7).toNat * 2 ^ 7 := by
    rw [UInt8.toNat_and]
    exact Nat.and_two_pow b.toNat 7
  cases h : b.toNat.testBit 7
  · have hzero : b &&& exceptionFlag = 0 := UInt8.toNat_inj.1 (by rw [hflag, h]; rfl)
    simp [isExceptionByte, hzero]
  · have hset : b &&& exceptionFlag ≠ 0 := by
      intro hzero
      rw [hzero, h] at hflag
      simp at hflag
    simp [isExceptionByte, hset]

variable {f : Frame}

/-- **The first bytes in use** are the first of the buffer. -/
lemma Frame.take_bytes {n : Nat} (hn : n ≤ frameCapacity) (hused : n ≤ f.length.toNat) :
    f.bytes.take n = List.ofFn fun i : Fin n => f.buffer[i.val] := by
  refine List.ext_getElem ?_ fun i hi hi' => ?_
  · simp only [bytes, List.length_take, Vector.length_toList, List.length_ofFn]
    omega
  · simp [bytes]

/-! ## Refusals -/

/-- The third byte is there if three bytes are in use. -/
lemma Frame.third_byte : f.bytes[2]? = if 3 ≤ f.length then some f.buffer[2] else none := by
  have hused : 3 ≤ f.length ↔ 2 < f.length.toNat := Iff.rfl
  have hbuffer : f.buffer[2]? = some f.buffer[2] := Vector.getElem?_eq_getElem (by decide)
  simp [bytes, List.getElem?_take, hused, hbuffer]

/-- **A frame is a refusal** if the top bit of its second byte is set.  The third byte is the
reason, and where there is none the reason is not known. -/
theorem exceptionCode?_eq_some_iff {code : ExceptionCode} :
    exceptionCode? f = some code ↔
      2 ≤ f.length ∧ f.functionByte.toNat.testBit 7 = true ∧
        code = f.bytes[2]?.elim .unknown .ofByte := by
  have hreason : f.bytes[2]?.elim .unknown .ofByte =
      if 3 ≤ f.length then ExceptionCode.ofByte f.buffer[2] else .unknown := by
    rw [Frame.third_byte]
    split <;> rfl
  rw [← isExceptionByte_eq_testBit, hreason, exceptionCode?]
  split
  · rename_i h
    simp only [reduceCtorEq, false_iff]
    rintro ⟨hlength, hflag, -⟩
    rcases h with hshort | hplain
    · exact UInt8.not_lt.2 hlength hshort
    · simp [hplain] at hflag
  · rename_i h
    simp only [not_or, UInt8.not_lt, Bool.not_eq_false] at h
    simp [h, eq_comm]

/-- Neither of the functions in use has the exception flag. -/
lemma isExceptionByte_toByte (function : FunctionCode) :
    isExceptionByte function.toByte = false := by
  cases function <;> rfl

/-- A reader goes on with the frames of its function. -/
lemma checkFunction_eq_ok_iff {function : FunctionCode} :
    checkFunction f function = .ok () ↔ 2 ≤ f.length ∧ f.functionByte = function.toByte := by
  rw [checkFunction]
  cases h : exceptionCode? f with
  | some code =>
      have hflag := (exceptionCode?_eq_some_iff.1 h).2.1
      rw [← isExceptionByte_eq_testBit] at hflag
      simp only [reduceCtorEq, false_iff]
      rintro ⟨-, hfunction⟩
      simp [hfunction, isExceptionByte_toByte] at hflag
  | none =>
      by_cases hlength : f.length < 2
      · simp [hlength]
      · by_cases hfunction : f.functionByte = function.toByte
        · simp [hlength, hfunction, UInt8.not_lt.1 hlength]
        · simp [hlength, hfunction]

/-- What stops it first is a refusal. -/
lemma checkFunction_eq_exception_iff {function : FunctionCode} {code : ExceptionCode} :
    checkFunction f function = .error (.exception code) ↔ exceptionCode? f = some code := by
  rw [checkFunction]
  cases h : exceptionCode? f with
  | some reason => simp
  | none =>
      simp only [reduceCtorEq, iff_false]
      split
      · simp
      · split <;> simp

section Readers

variable {α : Type} {function : FunctionCode} {fields : Except ProtocolError α}

/-- A reader that goes on with some fields gives what these give, for the frames of its function. -/
lemma checkFunction_bind_eq_ok_iff {a : α} :
    (checkFunction f function >>= fun _ => fields) = .ok a ↔
      2 ≤ f.length ∧ f.functionByte = function.toByte ∧ fields = .ok a := by
  rw [← and_assoc, ← checkFunction_eq_ok_iff]
  cases checkFunction f function with
  | error e => simp [bind, Except.bind]
  | ok => simp [bind, Except.bind]

/-- If the fields give no reason of their own, a reason is that of a refusal. -/
lemma checkFunction_bind_eq_exception_iff {code : ExceptionCode}
    (hfields : fields ≠ .error (.exception code)) :
    (checkFunction f function >>= fun _ => fields) = .error (.exception code) ↔
      exceptionCode? f = some code := by
  have hcheck : checkFunction f function = .error (.exception code) ↔ _ :=
    checkFunction_eq_exception_iff
  rw [← hcheck]
  cases checkFunction f function with
  | error e => simp [bind, Except.bind]
  | ok => simpa [bind, Except.bind] using hfields

end Readers

/-! ## Replies -/

namespace ReadReply

variable {r : ReadReply}

/-- The fields of a reply to a read. -/
lemma ofFrame_eq (f : Frame) :
    ofFrame f = checkFunction f .readHoldingRegisters >>= fun _ =>
      if f.length < 5 then .error (.invalidLength 5 f.length.toNat)
      else if f.buffer[2] = 2 then .ok { address := f.address, value := f.wordAt 3 }
      else .error (.invalidValue .byteCount f.buffer[2].toUInt16) := by
  rw [ofFrame]
  refine bind_congr fun _ => ?_
  by_cases hlength : f.length < 5
  · simp only [hlength, if_true]
    rfl
  · by_cases hcount : f.buffer[2] = 2
    · simp only [hlength, hcount]
      rfl
    · simp only [hlength, hcount, ne_eq, not_false_eq_true, if_true, if_false]
      rfl

lemma bytes_toFrame (r : ReadReply) :
    r.toFrame.bytes =
      [r.address, FunctionCode.readHoldingRegisters.toByte, 2, (wordBytes r.value).1,
        (wordBytes r.value).2] :=
  Frame.bytes_ofBytes (Nat.le_of_ble_eq_true rfl)

/-- **The frames that are read** are those that begin as the reply does which is read from them. -/
theorem ofFrame_eq_ok_iff :
    ofFrame f = .ok r ↔ 5 ≤ f.length ∧ f.bytes.take 5 = r.toFrame.bytes := by
  rw [ofFrame_eq, checkFunction_bind_eq_ok_iff, bytes_toFrame]
  by_cases hlength : 5 ≤ f.length
  · have hused : 5 ≤ f.length.toNat := hlength
    have htwo : 2 ≤ f.length := UInt8.le_trans (by decide) hlength
    rw [Frame.take_bytes (by decide) hused, if_neg (UInt8.not_lt.2 hlength)]
    show _ ↔ _ ∧ [f.buffer[0], f.buffer[1], f.buffer[2], f.buffer[3], f.buffer[4]] = _
    obtain ⟨address, value⟩ := r
    by_cases hcount : f.buffer[2] = 2
    · simp only [htwo, hlength, hcount, Frame.address, Frame.functionByte, Frame.wordAt,
        List.cons.injEq, true_and, and_true, if_true, Except.ok.injEq, mk.injEq, wordOfBytes_eq_iff]
      exact and_left_comm
    · simp [hcount]
  · simp [hlength, UInt8.not_le.1 hlength]

/-- **A reader is stopped by a refusal**, and by nothing else with its reason. -/
theorem ofFrame_eq_exception_iff {code : ExceptionCode} :
    ofFrame f = .error (.exception code) ↔ exceptionCode? f = some code := by
  rw [ofFrame_eq]
  refine checkFunction_bind_eq_exception_iff ?_
  split
  · simp
  · split <;> simp

end ReadReply

namespace WriteReply

variable {r : WriteReply}

/-- The fields of a reply to a write. -/
lemma ofFrame_eq (f : Frame) :
    ofFrame f = checkFunction f .writeRegister >>= fun _ =>
      if f.length < 6 then .error (.invalidLength 6 f.length.toNat)
      else .ok { address := f.address, register := f.register, value := f.value } := by
  rw [ofFrame]
  refine bind_congr fun _ => ?_
  split <;> rfl

lemma bytes_toFrame (r : WriteReply) :
    r.toFrame.bytes =
      [r.address, FunctionCode.writeRegister.toByte, (wordBytes r.register).1,
        (wordBytes r.register).2, (wordBytes r.value).1, (wordBytes r.value).2] :=
  Frame.bytes_ofBytes (Nat.le_of_ble_eq_true rfl)

/-- **The frames that are read** are those that begin as the write does which is read from them. -/
theorem ofFrame_eq_ok_iff :
    ofFrame f = .ok r ↔ 6 ≤ f.length ∧ f.bytes.take 6 = r.toFrame.bytes := by
  rw [ofFrame_eq, checkFunction_bind_eq_ok_iff, bytes_toFrame]
  by_cases hlength : 6 ≤ f.length
  · have hused : 6 ≤ f.length.toNat := hlength
    have htwo : 2 ≤ f.length := UInt8.le_trans (by decide) hlength
    rw [Frame.take_bytes (by decide) hused, if_neg (UInt8.not_lt.2 hlength)]
    show _ ↔ _ ∧
      [f.buffer[0], f.buffer[1], f.buffer[2], f.buffer[3], f.buffer[4], f.buffer[5]] = _
    obtain ⟨address, register, value⟩ := r
    simp only [htwo, hlength, Frame.address, Frame.functionByte, Frame.register, Frame.value,
      Frame.wordAt, List.cons.injEq, true_and, and_true, Except.ok.injEq, mk.injEq,
      wordOfBytes_eq_iff, and_assoc]
    exact and_left_comm
  · simp [hlength, UInt8.not_le.1 hlength]

/-- **A reader is stopped by a refusal**, and by nothing else with its reason. -/
theorem ofFrame_eq_exception_iff {code : ExceptionCode} :
    ofFrame f = .error (.exception code) ↔ exceptionCode? f = some code := by
  rw [ofFrame_eq]
  refine checkFunction_bind_eq_exception_iff ?_
  split <;> simp

end WriteReply

/-- The transport takes a frame for a refusal if it is one, whatever it was asked. -/
lemma Reply.ofFrame_eq_exception_iff {kind : RequestKind} {code : ExceptionCode} :
    Reply.ofFrame kind f = .exception kind code ↔ exceptionCode? f = some code := by
  rw [Reply.ofFrame, Reply.exception]
  cases exceptionCode? f with
  | some reason => simp
  | none => simp

/-- The refusal that a drive builds is read back with its reason. -/
lemma exceptionCode?_exceptionFrame (address : UInt8) (function : FunctionCode)
    (code : ExceptionCode) :
    exceptionCode? (exceptionFrame address function code) = some code := by
  have hbytes : (exceptionFrame address function code).bytes =
      [address, function.exceptionByte, code.toByte] :=
    Frame.bytes_ofBytes (Nat.le_of_ble_eq_true rfl)
  have hfunction : (exceptionFrame address function code).functionByte = function.exceptionByte :=
    Frame.buffer_ofBytes _ 1 (by decide)
  have hlength : (exceptionFrame address function code).length = 3 := rfl
  rw [exceptionCode?_eq_some_iff, hbytes, hfunction, hlength]
  refine ⟨by decide, ?_, ?_⟩
  · cases function <;> decide
  · exact (ExceptionCode.ofByte_toByte code).symm

/-- No frame is a reply to both, since the two have different functions. -/
lemma ReadReply.ofFrame_ne_ok_of_write {r : ReadReply} {w : WriteReply}
    (hwrite : WriteReply.ofFrame f = .ok w) : ReadReply.ofFrame f ≠ .ok r := by
  intro hread
  rw [ReadReply.ofFrame_eq, checkFunction_bind_eq_ok_iff] at hread
  rw [WriteReply.ofFrame_eq, checkFunction_bind_eq_ok_iff] at hwrite
  have hfunction := hread.2.1.symm.trans hwrite.2.1
  simp [FunctionCode.toByte] at hfunction

/-- **What a frame is.**  Any frame, made of any bytes, is the reply to a read exactly if it begins
with the five bytes of that reply, and the reply to a write exactly if it begins with the six bytes
of that write; it is never both.  Both readers and the transport take it for a refusal with the same
reason, and they do so exactly if the top bit of its second byte is set: the third byte is the
reason, which is unknown if it is missing.  So every refusal that is built is read back. -/
theorem Frame.reads_as (f : Frame) :
    (∀ r : ReadReply, ReadReply.ofFrame f = .ok r ↔
      5 ≤ f.length ∧ f.bytes.take 5 = r.toFrame.bytes) ∧
    (∀ w : WriteReply, WriteReply.ofFrame f = .ok w ↔
      6 ≤ f.length ∧ f.bytes.take 6 = (writeFrame w.address w.register w.value).bytes) ∧
    (∀ kind code,
      (ReadReply.ofFrame f = .error (.exception code) ↔
        Reply.ofFrame kind f = .exception kind code) ∧
      (WriteReply.ofFrame f = .error (.exception code) ↔
        Reply.ofFrame kind f = .exception kind code) ∧
      (Reply.ofFrame kind f = .exception kind code ↔
        2 ≤ f.length ∧ f.functionByte.toNat.testBit 7 = true ∧
          code = f.bytes[2]?.elim .unknown .ofByte)) ∧
    (∀ address function code,
      ReadReply.ofFrame (exceptionFrame address function code) = .error (.exception code) ∧
      WriteReply.ofFrame (exceptionFrame address function code) = .error (.exception code)) ∧
    ¬∃ r w, ReadReply.ofFrame f = .ok r ∧ WriteReply.ofFrame f = .ok w := by
  refine ⟨fun r => ReadReply.ofFrame_eq_ok_iff, fun w => WriteReply.ofFrame_eq_ok_iff,
    fun kind code => ⟨?_, ?_, ?_⟩, fun address function code => ⟨?_, ?_⟩, ?_⟩
  · rw [ReadReply.ofFrame_eq_exception_iff, Reply.ofFrame_eq_exception_iff]
  · rw [WriteReply.ofFrame_eq_exception_iff, Reply.ofFrame_eq_exception_iff]
  · rw [Reply.ofFrame_eq_exception_iff, exceptionCode?_eq_some_iff]
  · rw [ReadReply.ofFrame_eq_exception_iff, exceptionCode?_exceptionFrame]
  · rw [WriteReply.ofFrame_eq_exception_iff, exceptionCode?_exceptionFrame]
  · rintro ⟨r, w, hread, hwrite⟩
    exact ReadReply.ofFrame_ne_ok_of_write hwrite hread

end SpindleDrive
