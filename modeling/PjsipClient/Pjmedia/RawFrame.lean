/-
From a raw frame of the conference bridge to a `Frame` (`pjmedia/pjmedia_api.rs`).

The samples are the little-endian pairs of the buffer. The time is the raw timestamp, a number of
samples, times the duration of one sample in whole microseconds; `pj_elapsed_nanosec` is pjlib's and a
parameter here.
-/

import PjsipClient.Lib.Machine
import PjsipClient.Pjmedia.Frame

namespace PjsipClient

open Machine

/-- The method `i16::from_le_bytes`. -/
def fromLeBytes (low high : UInt8) : Int16 := (low.toUInt16 ||| (high.toUInt16 <<< 8)).toInt16

/-- The samples of a buffer, by `array_chunks::<2>`: a last single byte is dropped. -/
def fromLeChunks : List UInt8 → List Int16
  | low :: high :: rest => fromLeBytes low high :: fromLeChunks rest
  | _ => []

/-- The frame brings no samples: its buffer is null or empty. -/
def PjmediaFrame.isVoid (frame : PjmediaFrame) : Bool :=
  decide (frame.buf = 0) || decide (frame.size = 0)

def sampleDuration (sampleRate : UInt32) (channelsCount : UInt64) : Except Panic Duration := do
  let perChannel ← divU64 1000000 channelsCount
  let sampleTimeUsec ← divU64 perChannel sampleRate.toUInt64
  pure ⟨sampleTimeUsec.toNat * 1000⟩

/-- The product `u32 * Duration`: a panic when the seconds do not fit. -/
def Duration.scale (time : Duration) (count : UInt32) : Except Panic Duration :=
  if time.nanos * count.toNat < 2 ^ 64 * 1000000000 then .ok ⟨time.nanos * count.toNat⟩
  else .error .overflow

section Elapsed

variable (pjElapsedNanosec : ℕ → ℕ → UInt32)

def getSamplesDiff (timestamp1 timestamp2 : ℕ) : UInt32 := pjElapsedNanosec timestamp1 timestamp2

def Frame.fromRawFrame (memory : Memory) (rawFrame : PjmediaFrame) (sampleRate : UInt32)
    (channelsCount : UInt64) : Except Panic (Except PjsuaError Frame) := do
  let rest ← remainder rawFrame.size rawFrame.size
  if rest ≠ 0 then
    pure (.error ⟨-1, .text "frame buffer is not even cannot construct i16 array"⟩)
  else
    let samplesElapsed := getSamplesDiff pjElapsedNanosec 0 rawFrame.timestamp
    let sampleTime ← sampleDuration sampleRate channelsCount
    let time ← sampleTime.scale samplesElapsed
    pure (.ok ⟨fromLeChunks (memory.read rawFrame.buf rawFrame.size), time⟩)

/-- The frame that a raw frame with some bytes stands for. -/
def Frame.ofRaw (memory : Memory) (rawFrame : PjmediaFrame) (sampleRate : UInt32)
    (channelsCount : UInt64) : Frame where
  data := fromLeChunks (memory.read rawFrame.buf rawFrame.size)
  time := ⟨1000000 / channelsCount.toNat / sampleRate.toNat * 1000 *
    (getSamplesDiff pjElapsedNanosec 0 rawFrame.timestamp).toNat⟩

/-- With at least one sample a second in at least one channel there is a duration of a sample. -/
theorem sampleDuration_eq {sampleRate : UInt32} {channelsCount : UInt64}
    (rated : 0 < sampleRate.toNat) (channels : 0 < channelsCount.toNat) :
    sampleDuration sampleRate channelsCount =
      .ok ⟨1000000 / channelsCount.toNat / sampleRate.toNat * 1000⟩ := by
  unfold sampleDuration
  rw [divU64_of_pos 1000000 channels]
  show (divU64 (1000000 / channelsCount) sampleRate.toUInt64 >>= _) = _
  rw [divU64_of_pos _ (show 0 < sampleRate.toUInt64.toNat from rated)]
  show Except.ok (Duration.mk (((1000000 / channelsCount) / sampleRate.toUInt64).toNat * 1000)) = _
  rw [UInt64.toNat_div, UInt64.toNat_div]
  rfl

/-- A sample lasts a second at most, so that no timestamp overflows. -/
theorem scale_sampleDuration (count channels rate : ℕ) (bounded : count < 2 ^ 32) :
    1000000 / channels / rate * 1000 * count < 2 ^ 64 * 1000000000 := by
  have short : 1000000 / channels / rate ≤ 1000000 :=
    (Nat.div_le_self _ _).trans (Nat.div_le_self _ _)
  calc 1000000 / channels / rate * 1000 * count ≤ 1000000 * 1000 * 2 ^ 32 :=
        Nat.mul_le_mul (Nat.mul_le_mul_right 1000 short) bounded.le
    _ < 2 ^ 64 * 1000000000 := by decide

/-- **A raw frame with some bytes is decoded**, whatever its size. -/
theorem fromRawFrame_eq {rawFrame : PjmediaFrame} {sampleRate : UInt32} {channelsCount : UInt64}
    (memory : Memory) (filled : 0 < rawFrame.size) (rated : 0 < sampleRate.toNat)
    (channels : 0 < channelsCount.toNat) :
    Frame.fromRawFrame pjElapsedNanosec memory rawFrame sampleRate channelsCount =
      .ok (.ok (.ofRaw pjElapsedNanosec memory rawFrame sampleRate channelsCount)) := by
  unfold Frame.fromRawFrame
  rw [remainder_self filled, sampleDuration_eq rated channels]
  have fits := scale_sampleDuration (getSamplesDiff pjElapsedNanosec 0 rawFrame.timestamp).toNat
    channelsCount.toNat sampleRate.toNat (UInt32.toNat_lt _)
  show (Duration.scale _ _ >>= _) = _
  unfold Duration.scale
  rw [if_pos fits]
  rfl

end Elapsed

end PjsipClient
