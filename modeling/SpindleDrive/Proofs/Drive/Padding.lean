import SpindleDrive.Proofs.Drive.Requests
import SpindleDrive.Storage

/-!
# Padded frames

A frame is a buffer of sixteen bytes with a count of those in use, and nothing in its type keeps the
count within the buffer or the rest of the buffer at zero.  Whoever makes a frame has to see to it.
Everything that builds a frame does; reading one from storage does not.

* `eq_ofBytes_bytes` — a padded frame is the frame of its bytes, and so is settled by them.
* `isPadded_handle` — a drive answers padded frames with padded frames.
* `ofStored?_toStored` — every frame can come from storage.
* `Frame.Arises` — all the ways for a frame to come into the program.
* **`isPadded_arises_iff`** — every frame is padded exactly as long as those from storage are.
-/

namespace SpindleDrive

namespace Frame

variable {f g : Frame}

/-! ## What padding is for -/

/-- The bytes in use are as many as the count says exactly if the count fits the buffer. -/
lemma length_bytes_iff : f.bytes.length = f.length.toNat ↔ f.length.toNat ≤ frameCapacity := by
  have hlength : f.bytes.length = min f.length.toNat frameCapacity := by simp [bytes]
  omega

lemma bytes_getD (h : f.length.toNat ≤ frameCapacity) {i : Nat} (hi : i < f.length.toNat) :
    f.bytes.getD i 0 = f.buffer[i] := by
  have hlength : i < f.bytes.length := by rwa [length_bytes_iff.2 h]
  rw [List.getD_eq_getElem?_getD, List.getElem?_eq_getElem hlength]
  simp [bytes]

/-- **A padded frame is the frame of its bytes.** -/
theorem eq_ofBytes_bytes (h : f.IsPadded) : f = ofBytes f.bytes := by
  obtain ⟨hfits, hzero⟩ := h
  have hcount : f.bytes.length = f.length.toNat := length_bytes_iff.2 hfits
  have hlength : f.length = (ofBytes f.bytes).length := by
    apply UInt8.toNat_inj.1
    rw [length_ofBytes, hcount, Nat.min_eq_left hfits]
  have hbuffer : f.buffer = (ofBytes f.bytes).buffer := by
    apply Vector.ext
    intro i hi
    rw [buffer_ofBytes _ i hi]
    by_cases hused : i < f.length.toNat
    · rw [bytes_getD hfits hused]
    · have hpast : f.bytes.length ≤ i := by omega
      rw [List.getD_eq_getElem?_getD, List.getElem?_eq_none hpast]
      exact hzero ⟨i, hi⟩ (Nat.not_lt.1 hused)
  obtain ⟨buffer, length⟩ := f
  exact Frame.mk.injEq .. ▸ ⟨hbuffer, hlength⟩

/-- Padded frames with the same bytes are the same. -/
lemma eq_iff_bytes_eq (hf : f.IsPadded) (hg : g.IsPadded) : f = g ↔ f.bytes = g.bytes := by
  constructor
  · intro h
    rw [h]
  · intro h
    rw [eq_ofBytes_bytes hf, eq_ofBytes_bytes hg, h]

/-! ## Storage -/

lemma byte?_toNat (b : UInt8) : (StoredValue.integer b.toNat).byte? = some b := by
  have hb : b.toNat < 256 := b.toNat_lt
  have hrange : (0 : Int) ≤ b.toNat ∧ (b.toNat : Int) < 256 := by omega
  simp [StoredValue.byte?, hrange]

lemma mapM_byte?_toNat (bytes : List UInt8) :
    (bytes.map fun b => StoredValue.integer b.toNat).mapM StoredValue.byte? = some bytes := by
  induction bytes with
  | nil => rfl
  | cons b bytes ih => simp [byte?_toNat, ih]

/-- **Every frame can come from storage**, whatever its bytes and its count are. -/
theorem ofStored?_toStored (f : Frame) : ofStored? f.toStored = some f := by
  obtain ⟨buffer, length⟩ := f
  have hbytes : (StoredValue.list (buffer.toList.map fun b => .integer b.toNat)).bytes? =
      some buffer.toList := mapM_byte?_toNat buffer.toList
  have hbuffer : buffer.toList.toArray = buffer.toArray := rfl
  have hparts : ofParts? (.list (buffer.toList.map fun b => .integer b.toNat))
      (.integer length.toNat) = some ⟨buffer, length⟩ := by
    simp [ofParts?, hbytes, byte?_toNat, hbuffer]
  exact hparts

end Frame

/-! ## Drives -/

namespace SimulatedDrive

variable {d : SimulatedDrive} {request reply : Frame}

/-- A write that is accepted is echoed. -/
lemma isPadded_write (hrequest : request.IsPadded) (register value : UInt16) :
    (d.write request register value).1.IsPadded := by
  rw [write]
  split
  · exact hrequest
  split
  · exact hrequest
  · exact Frame.isPadded_ofBytes _

lemma isPadded_read (register : UInt16) : (d.read register).IsPadded := by
  rw [read]
  split
  · exact Frame.isPadded_ofBytes _
  split
  · exact Frame.isPadded_ofBytes _
  · exact Frame.isPadded_ofBytes _

/-- **A drive answers padded frames with padded frames**: it echoes them or makes its own. -/
theorem isPadded_handle (hrequest : request.IsPadded)
    (answered : (d.handle request).1 = some reply) : reply.IsPadded := by
  rw [handle] at answered
  split at answered
  · simp at answered
  split at answered
  · obtain rfl := Option.some.inj answered
    exact Frame.isPadded_ofBytes _
  split at answered
  · obtain rfl := Option.some.inj answered
    exact isPadded_write hrequest _ _
  · obtain rfl := Option.some.inj answered
    exact isPadded_read _
  · obtain rfl := Option.some.inj answered
    exact Frame.isPadded_ofBytes _

end SimulatedDrive

/-! ## All frames -/

namespace Frame

/-- **The ways for a frame to come into the program**: from bytes, as a request, as a reply, as the
answer of a drive, and from storage, where `stored` are the values that are kept there. -/
inductive Arises (stored : StoredValue → Prop) : Frame → Prop where
  | ofBytes (data : List UInt8) : Arises stored (.ofBytes data)
  | write (address : UInt8) (register value : UInt16) :
      Arises stored (writeFrame address register value)
  | read (address : UInt8) (register count : UInt16) :
      Arises stored (readFrame address register count)
  | command (address : UInt8) (registers : RegisterMap) (word : CommandWord) :
      Arises stored (Request.command address registers word).frame
  | speed (address : UInt8) (registers : RegisterMap) (code : UInt16) :
      Arises stored (Request.speed address registers code).frame
  | readOutput (address : UInt8) (registers : RegisterMap) :
      Arises stored (Request.readOutput address registers).frame
  | readMax (address : UInt8) (registers : RegisterMap) (request : Request)
      (present : Request.readMax? address registers = some request) : Arises stored request.frame
  | refusal (address : UInt8) (function : FunctionCode) (code : ExceptionCode) :
      Arises stored (exceptionFrame address function code)
  | readReply (reply : ReadReply) : Arises stored reply.toFrame
  | writeReply (reply : WriteReply) : Arises stored reply.toFrame
  | answer (drive : SimulatedDrive) (request reply : Frame) (arises : Arises stored request)
      (answered : (drive.handle request).1 = some reply) : Arises stored reply
  | stored (value : StoredValue) (f : Frame) (kept : stored value)
      (found : ofStored? value = some f) : Arises stored f

variable {stored : StoredValue → Prop}

/-- Nothing but storage breaks the padding. -/
lemma Arises.isPadded (h : Arises stored f)
    (hstored : ∀ value f, stored value → ofStored? value = some f → f.IsPadded) : f.IsPadded := by
  induction h with
  | ofBytes data => exact isPadded_ofBytes data
  | write address register value => exact isPadded_ofBytes _
  | read address register count => exact isPadded_ofBytes _
  | command address registers word => exact isPadded_ofBytes _
  | speed address registers code => exact isPadded_ofBytes _
  | readOutput address registers => exact isPadded_ofBytes _
  | readMax address registers request present =>
      cases Request.isProper_readMax address registers present with
      | highest register _ _ isRead => exact isRead.padded
      | output _ isRead => exact isRead.padded
      | speed _ _ _ isWrite => exact isWrite.padded
  | refusal address function code => exact isPadded_ofBytes _
  | readReply reply => exact isPadded_ofBytes _
  | writeReply reply => exact isPadded_ofBytes _
  | answer drive request reply _ answered ih => exact SimulatedDrive.isPadded_handle ih answered
  | stored value f kept found => exact hstored value f kept found

/-- **Frames are padded, but for those from storage.**  All frames that come into the program are
padded exactly if those are that are read from storage, where any sixteen bytes with any count make
a frame.  Of a padded frame there are as many bytes in use as the count says, and two of them are
equal exactly if their bytes in use are. -/
theorem isPadded_arises_iff (stored : StoredValue → Prop) :
    ((∀ f, Arises stored f → f.IsPadded) ↔
      ∀ value f, stored value → ofStored? value = some f → f.IsPadded) ∧
    (∀ f : Frame, ofStored? f.toStored = some f) ∧
    (∀ f : Frame, f.IsPadded → f.bytes.length = f.length.toNat) ∧
    ∀ f g : Frame, f.IsPadded → g.IsPadded → (f = g ↔ f.bytes = g.bytes) := by
  refine ⟨⟨fun h value f kept found => ?_, fun h f arises => ?_⟩, ofStored?_toStored, ?_, ?_⟩
  · exact h f (.stored value f kept found)
  · exact arises.isPadded h
  · exact fun f hf => length_bytes_iff.2 hf.1
  · exact fun f g hf hg => eq_iff_bytes_eq hf hg

/-- A record of sixteen zeros with a count of seventeen. -/
def overlong : StoredValue :=
  .record [("adu", .list (List.replicate 16 (.integer 0))), ("len", .integer 17)]

/-- A record of the same zeros of which one is in use, and one of a byte past it that is not. -/
def unclean : StoredValue :=
  .record [("adu", .list (.integer 0 :: .integer 7 :: List.replicate 14 (.integer 0))),
    ("len", .integer 1)]

/-- With nothing in storage every frame is padded, as is the refusal with which a drive answers the
read of a register that it does not have. -/
theorem isPadded_of_answer :
    (∀ value f, (fun _ : StoredValue => False) value → ofStored? value = some f → f.IsPadded) ∧
      ∃ reply : Frame,
        ((SimulatedDrive.ofModel 1 .gs20).handle (readFrame 1 0 1)).1 = some reply ∧
        reply.bytes = [1, 0x83, 2] ∧ reply.IsPadded := by
  have hnone : ∀ value f, (fun _ : StoredValue => False) value → ofStored? value = some f →
      f.IsPadded := fun _ _ h => h.elim
  refine ⟨hnone, exceptionFrame 1 .readHoldingRegisters .illegalDataAddress, by decide +kernel,
    by decide +kernel, ?_⟩
  exact (isPadded_arises_iff fun _ => False).1.2 hnone _
    (.answer (.ofModel 1 .gs20) (readFrame 1 0 1) _ (.read 1 0 1) (by decide +kernel))

/-- **What comes from storage need not be padded**: a count that goes past the buffer is read back,
and so is a byte past those in use, which tells apart two frames with the same bytes. -/
theorem stored_unpadded :
    (∃ f, ofStored? overlong = some f ∧ Arises (· = overlong) f ∧ ¬f.IsPadded ∧
        f.bytes.length ≠ f.length.toNat) ∧
      ∃ f, ofStored? unclean = some f ∧ Arises (· = unclean) f ∧ ¬f.IsPadded ∧
        f ≠ ofBytes [0] ∧ f.bytes = (ofBytes [0]).bytes := by
  have hoverlong : ofStored? overlong = some ⟨Vector.replicate 16 0, 17⟩ := by decide +kernel
  have hunclean : ofStored? unclean = some { ofBytes [0, 7] with length := 1 } := by decide +kernel
  refine ⟨⟨_, hoverlong, .stored _ _ rfl hoverlong, by decide +kernel, by decide +kernel⟩, ?_⟩
  exact ⟨_, hunclean, .stored _ _ rfl hunclean, by decide +kernel, by decide +kernel,
    by decide +kernel⟩

end Frame

end SpindleDrive
