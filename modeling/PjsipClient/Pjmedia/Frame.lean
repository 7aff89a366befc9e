/-
Audio frames (`pjmedia/pjmedia_api.rs`) and the raw frames of the conference bridge.

Lengths and addresses are natural numbers: a frame that exists fits in the address space, so no
length computed from one overflows `usize`.
-/

import PjsipClient.Error

namespace PjsipClient

/-- The constant `BITS_PER_SAMPLE`. -/
def bitsPerSample : ℕ := 16

/-- A `std::time::Duration`. -/
structure Duration where
  nanos : ℕ
  deriving DecidableEq, Repr

def Duration.asMicros (time : Duration) : ℕ := time.nanos / 1000

/-- Samples with their time. -/
structure Frame where
  data : List Int16
  time : Duration
  deriving DecidableEq

/-- Why `CustomStreamMediaPortTx::send` fails. -/
inductive SendError
  | sendErr
  | invalidSizeFrameError (frame : Frame)
  deriving DecidableEq

/-- The method `i16::to_le_bytes`. -/
def toLeBytes (sample : Int16) : List UInt8 :=
  [sample.toUInt16.toUInt8, (sample.toUInt16 >>> 8).toUInt8]

/-- The samples' bytes one after another. -/
def leBytes (data : List Int16) : List UInt8 := data.flatMap toLeBytes

theorem length_leBytes (data : List Int16) : (leBytes data).length = data.length * 2 := by
  induction data with
  | nil => rfl
  | cons sample data ih =>
    show (toLeBytes sample ++ leBytes data).length = (data.length + 1) * 2
    rw [List.length_append, ih, Nat.succ_mul, Nat.add_comm]
    rfl

/-- The method `Vec::resize`: cut off, or filled up with the value. -/
def resize {α : Type} (items : List α) (length : ℕ) (value : α) : List α :=
  items.take length ++ List.replicate (length - items.length) value

theorem length_resize {α : Type} (items : List α) (length : ℕ) (value : α) :
    (resize items length value).length = length := by
  unfold resize
  rw [List.length_append, List.length_take, List.length_replicate]
  omega

/-! ### Raw frames -/

/-- The frame types `PJMEDIA_FRAME_TYPE_NONE` and `PJMEDIA_FRAME_TYPE_AUDIO`. -/
def pjmediaFrameTypeNone : ℕ := 0

def pjmediaFrameTypeAudio : ℕ := 1

/-- A `pjmedia_frame`: its type, the address and size of its buffer in bytes, its timestamp. -/
structure PjmediaFrame where
  type : ℕ
  buf : ℕ
  size : ℕ
  timestamp : ℕ
  deriving DecidableEq, Repr

/-- The bytes of the process. -/
abbrev Memory := ℕ → UInt8

/-- The memory with the given bytes at an address. -/
def Memory.write (memory : Memory) (address : ℕ) (bytes : List UInt8) : Memory := fun at_ =>
  if address ≤ at_ then (bytes[at_ - address]?).getD (memory at_) else memory at_

/-- The bytes at an address. -/
def Memory.read (memory : Memory) (address length : ℕ) : List UInt8 :=
  (List.range length).map fun offset => memory (address + offset)

/-- The method `copy_from_slice` on the `length` bytes at an address: a panic unless the lengths
agree. -/
def copyFromSlice (memory : Memory) (address length : ℕ) (src : List UInt8) : Except Unit Memory :=
  if src.length = length then .ok (memory.write address src) else .error ()

end PjsipClient
