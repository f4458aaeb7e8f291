/-!
# Frames on the bus

A frame is the address of a slave with the message for it; the checksum is left to the transport.
Frames live in a buffer of sixteen bytes with a count of those in use.

* `Frame` — the buffer and the count, as they are stored; any sixteen bytes and any count can be
  read back from storage.
* `Frame.ofBytes` — the frame of a byte string, cut at sixteen bytes and padded with zeros.
* `Frame.bytes` — the bytes in use.
* `Frame.IsPadded` — the count fits the buffer and everything past it is zero, which every frame
  made by `ofBytes` satisfies.
* `Frame.toText` — the bytes in use as pairs of hexadecimal digits.
-/

namespace SpindleDrive

/-- The high and the low byte of a register or a value, in the order of the wire. -/
def wordBytes (word : UInt16) : UInt8 × UInt8 :=
  ((word >>> 8).toUInt8, word.toUInt8)

def wordOfBytes (high low : UInt8) : UInt16 :=
  (high.toUInt16 <<< 8) ||| low.toUInt16

/-- The bytes that a frame can hold. -/
abbrev frameCapacity : Nat := 16

/-- The bytes that the checksum adds on the wire. -/
def checksumLength : Nat := 2

/-- A frame as it is stored: sixteen bytes, of which the first `length` are in use. -/
structure Frame where
  buffer : Vector UInt8 frameCapacity
  length : UInt8
  deriving DecidableEq, Repr

namespace Frame

/-- The frame of a byte string: what does not fit is dropped, what is unused is zero. -/
def ofBytes (data : List UInt8) : Frame where
  buffer := Vector.ofFn fun i => data.getD i.val 0
  length := UInt8.ofNat (min data.length frameCapacity)

def bytes (f : Frame) : List UInt8 :=
  f.buffer.toList.take f.length.toNat

/-- The count fits the buffer, and the bytes past it are zero. -/
def IsPadded (f : Frame) : Prop :=
  f.length.toNat ≤ frameCapacity ∧ ∀ i : Fin frameCapacity, f.length.toNat ≤ i → f.buffer[i] = 0

instance (f : Frame) : Decidable f.IsPadded :=
  inferInstanceAs (Decidable (_ ∧ _))

/-- The slave's address, the first byte. -/
def address (f : Frame) : UInt8 := f.buffer[0]

/-- The function byte, the second, with its exception flag if it has one. -/
def functionByte (f : Frame) : UInt8 := f.buffer[1]

/-- The word in the bytes at `i` and after it. -/
def wordAt (f : Frame) (i : Nat) (h : i + 1 < frameCapacity := by decide) : UInt16 :=
  wordOfBytes f.buffer[i] f.buffer[i + 1]

/-- The register that a request or the reply to a write names. -/
def register (f : Frame) : UInt16 := f.wordAt 2

/-- The word after the register. -/
def value (f : Frame) : UInt16 := f.wordAt 4

/-- The length on the wire, the checksum included. -/
def wireLength (f : Frame) : Nat := f.length.toNat + checksumLength

/-! ## Text -/

/-- A digit of a hexadecimal number, in upper case. -/
def hexDigit (n : UInt8) : Char :=
  if n < 10 then Char.ofNat (n.toNat + '0'.toNat) else Char.ofNat (n.toNat - 10 + 'A'.toNat)

def hexByte (b : UInt8) : String :=
  String.ofList [hexDigit (b >>> 4), hexDigit (b &&& 0x0F)]

/-- The bytes in use as hexadecimal pairs with a blank between them. -/
def toText (f : Frame) : String :=
  " ".intercalate (f.bytes.map hexByte)

/-! ## Small laws -/

theorem length_ofBytes (data : List UInt8) :
    (ofBytes data).length.toNat = min data.length frameCapacity := by
  have h : min data.length frameCapacity ≤ 16 := Nat.min_le_right ..
  simp only [ofBytes, UInt8.toNat_ofNat']
  omega

theorem buffer_ofBytes (data : List UInt8) (i : Nat) (h : i < frameCapacity) :
    (ofBytes data).buffer[i] = data.getD i 0 := by
  simp [ofBytes]

/-- Every frame made of a byte string is padded. -/
theorem isPadded_ofBytes (data : List UInt8) : (ofBytes data).IsPadded := by
  refine ⟨?_, fun i hi => ?_⟩
  · rw [length_ofBytes]
    exact Nat.min_le_right ..
  · rw [length_ofBytes] at hi
    have hlen : data.length ≤ i.val := by
      have := i.isLt
      omega
    show (ofBytes data).buffer[i.val] = 0
    rw [buffer_ofBytes, List.getD_eq_getElem?_getD, List.getElem?_eq_none hlen]
    rfl

end Frame

end SpindleDrive
