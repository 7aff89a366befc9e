/-
The samples of a raw frame (`pjmedia/pjmedia_api.rs`), against the way in which
`custom_port_get_frame` encodes them.

`from_raw_frame` wants to refuse a buffer of an odd size, and compares the remainder of the size by
itself instead. So it refuses nothing, drops the last byte of an odd buffer, and divides by zero when
the buffer is empty.

* `leBytes_fromLeChunks`, `fromLeChunks_leBytes` — decoding and encoding are inverse to each other, on
  the buffers of even size and on all lists of samples.
* `decodesSamples_iff` — `from_raw_frame` decodes a buffer as it should exactly when its size is even
  and not zero.
-/

import PjsipClient.Lib.Bytes
import PjsipClient.Pjmedia.RawFrame

namespace PjsipClient

open Machine

/-! ### One sample -/

/-- The low byte counts once, the high byte 256 times. -/
theorem toNat_or_shiftLeft (low high : UInt8) :
    (low.toUInt16 ||| (high.toUInt16 <<< 8)).toNat = low.toNat + 256 * high.toNat := by
  have lowBound := low.toNat_lt
  have highBound := high.toNat_lt
  have uncut : high.toNat <<< ((8 : UInt16).toNat % 16) % 2 ^ 16 = high.toNat * 2 ^ 8 := by
    show high.toNat <<< 8 % 2 ^ 16 = _
    rw [Nat.shiftLeft_eq]
    omega
  rw [UInt16.toNat_or, UInt16.toNat_shiftLeft, UInt8.toNat_toUInt16, UInt8.toNat_toUInt16, uncut,
    Nat.or_comm, ← Nat.shiftLeft_eq, ← Nat.shiftLeft_add_eq_or_of_lt (by omega)]
  omega

/-- The high byte of a sample. -/
theorem toNat_shiftRight (bits : UInt16) : (bits >>> 8).toUInt8.toNat = bits.toNat / 256 := by
  have bound := bits.toNat_lt
  rw [UInt16.toNat_toUInt8, UInt16.toNat_shiftRight]
  show bits.toNat >>> 8 % 2 ^ 8 = _
  rw [Nat.shiftRight_eq_div_pow]
  omega

/-- **Two bytes come back** from the sample they make. -/
theorem toLeBytes_fromLeBytes (low high : UInt8) :
    toLeBytes (fromLeBytes low high) = [low, high] := by
  have pair := toNat_or_shiftLeft low high
  have lowBound := low.toNat_lt
  have highBound := high.toNat_lt
  unfold toLeBytes fromLeBytes
  rw [UInt16.toUInt16_toInt16]
  congr 1
  · apply UInt8.toNat_inj.mp
    rw [UInt16.toNat_toUInt8, pair]
    omega
  · congr 1
    apply UInt8.toNat_inj.mp
    rw [toNat_shiftRight, pair]
    omega

/-- **A sample comes back** from its two bytes. -/
theorem fromLeBytes_toLeBytes (sample : Int16) :
    fromLeBytes sample.toUInt16.toUInt8 (sample.toUInt16 >>> 8).toUInt8 = sample := by
  have whole : sample.toUInt16.toUInt8.toUInt16 |||
      ((sample.toUInt16 >>> 8).toUInt8.toUInt16 <<< 8) = sample.toUInt16 := by
    apply UInt16.toNat_inj.mp
    rw [toNat_or_shiftLeft, UInt16.toNat_toUInt8, toNat_shiftRight]
    omega
  unfold fromLeBytes
  rw [whole]
  exact Int16.toInt16_toUInt16 sample

/-! ### Whole buffers -/

/-- One sample for every two bytes, and nothing for a byte that is left. -/
theorem length_fromLeChunks (bytes : List UInt8) :
    (fromLeChunks bytes).length = bytes.length / 2 := by
  induction bytes using fromLeChunks.induct with
  | case1 low high rest ih =>
    rw [fromLeChunks, List.length_cons, ih, List.length_cons, List.length_cons]
    omega
  | case2 bytes short =>
    match bytes with
    | [] => rfl
    | [_] => simp [fromLeChunks]
    | low :: high :: rest => exact absurd rfl (short low high rest)

/-- **Encoding undoes decoding** for a buffer of even size. -/
theorem leBytes_fromLeChunks {bytes : List UInt8} (even : bytes.length % 2 = 0) :
    leBytes (fromLeChunks bytes) = bytes := by
  induction bytes using fromLeChunks.induct with
  | case1 low high rest ih =>
    have evenRest : rest.length % 2 = 0 := by
      rw [List.length_cons, List.length_cons] at even
      omega
    rw [fromLeChunks]
    show toLeBytes (fromLeBytes low high) ++ leBytes (fromLeChunks rest) = _
    rw [toLeBytes_fromLeBytes, ih evenRest]
    rfl
  | case2 bytes short =>
    match bytes with
    | [] => rfl
    | [_] => cases even
    | low :: high :: rest => exact absurd rfl (short low high rest)

/-- **Decoding undoes encoding.** -/
theorem fromLeChunks_leBytes (samples : List Int16) : fromLeChunks (leBytes samples) = samples := by
  induction samples with
  | nil => rfl
  | cons sample samples ih =>
    show fromLeBytes _ _ :: fromLeChunks (leBytes samples) = _
    rw [fromLeBytes_toLeBytes, ih]

theorem Memory.length_read (memory : Memory) (address length : ℕ) :
    (memory.read address length).length = length :=
  Bytes.length_readBytes memory address length

/-! ### Raw frames -/

section Elapsed

variable (pjElapsedNanosec : ℕ → ℕ → UInt32)

/-- What `from_raw_frame` should do with the bytes of a raw frame. -/
structure DecodesSamples (memory : Memory) (rawFrame : PjmediaFrame) (sampleRate : UInt32)
    (channelsCount : UInt64) : Prop where
  /-- A buffer is refused exactly when its size is odd. -/
  refused : 0 < rawFrame.size →
    ((∃ error, Frame.fromRawFrame pjElapsedNanosec memory rawFrame sampleRate channelsCount =
      .ok (.error error)) ↔ rawFrame.size % 2 = 1)
  /-- Any other is decoded, and encoding gives its bytes back. -/
  decoded : 0 < rawFrame.size → rawFrame.size % 2 = 0 →
    ∃ frame, Frame.fromRawFrame pjElapsedNanosec memory rawFrame sampleRate channelsCount =
        .ok (.ok frame) ∧
      frame.data.length = rawFrame.size / 2 ∧
      leBytes frame.data = memory.read rawFrame.buf rawFrame.size
  /-- The encoding of a list of samples is decoded to these samples. -/
  inverse : ∀ samples, memory.read rawFrame.buf rawFrame.size = leBytes samples →
    ∃ frame, Frame.fromRawFrame pjElapsedNanosec memory rawFrame sampleRate channelsCount =
        .ok (.ok frame) ∧ frame.data = samples

/-- The remainder by zero of an empty buffer. -/
theorem fromRawFrame_empty {rawFrame : PjmediaFrame} {sampleRate : UInt32} {channelsCount : UInt64}
    (memory : Memory) (empty : rawFrame.size = 0) :
    Frame.fromRawFrame pjElapsedNanosec memory rawFrame sampleRate channelsCount =
      .error .divideByZero := by
  unfold Frame.fromRawFrame
  rw [empty]
  rfl

/-- **A raw frame is decoded as it should be** exactly when its buffer has an even number of bytes,
and not none. -/
theorem decodesSamples_iff (memory : Memory) (rawFrame : PjmediaFrame) {sampleRate : UInt32}
    {channelsCount : UInt64} (rated : 0 < sampleRate.toNat) (channels : 0 < channelsCount.toNat) :
    DecodesSamples pjElapsedNanosec memory rawFrame sampleRate channelsCount ↔
      0 < rawFrame.size ∧ rawFrame.size % 2 = 0 := by
  constructor
  · intro decodes
    rcases Nat.eq_zero_or_pos rawFrame.size with empty | filled
    · obtain ⟨frame, given, _⟩ := decodes.inverse [] (by rw [empty]; rfl)
      rw [fromRawFrame_empty pjElapsedNanosec memory empty] at given
      cases given
    · have given := fromRawFrame_eq pjElapsedNanosec memory filled rated channels
      refine ⟨filled, ?_⟩
      by_contra odd
      obtain ⟨error, refused⟩ := (decodes.refused filled).mpr (by omega)
      rw [given] at refused
      cases refused
  · rintro ⟨filled, even⟩
    have given := fromRawFrame_eq pjElapsedNanosec memory filled rated channels
    have length := memory.length_read rawFrame.buf rawFrame.size
    refine ⟨fun _ => ⟨?_, fun odd => ?_⟩, fun _ _ => ⟨_, given, ?_, ?_⟩, fun samples encoded => ?_⟩
    · rintro ⟨error, refused⟩
      rw [given] at refused
      cases refused
    · omega
    · show (fromLeChunks (memory.read rawFrame.buf rawFrame.size)).length = _
      rw [length_fromLeChunks, length]
    · exact leBytes_fromLeChunks (by rw [length]; exact even)
    · refine ⟨_, given, ?_⟩
      show fromLeChunks (memory.read rawFrame.buf rawFrame.size) = samples
      rw [encoded, fromLeChunks_leBytes]

end Elapsed

theorem decodesSamples_iff_twoSamples :
    DecodesSamples (fun _ elapsed => .ofNat elapsed) (fun address => .ofNat address)
        ⟨pjmediaFrameTypeAudio, 64, 4, 0⟩ 8000 1 ↔ 0 < 4 ∧ 4 % 2 = 0 :=
  decodesSamples_iff _ _ ⟨pjmediaFrameTypeAudio, 64, 4, 0⟩ (by decide) (by decide)

/-- A single byte passes for a frame without samples. -/
theorem not_decodesSamples :
    ¬ ∀ (pjElapsedNanosec : ℕ → ℕ → UInt32) (memory : Memory) (rawFrame : PjmediaFrame)
      (sampleRate : UInt32) (channelsCount : UInt64), 0 < sampleRate.toNat →
        0 < channelsCount.toNat → 0 < rawFrame.size →
          DecodesSamples pjElapsedNanosec memory rawFrame sampleRate channelsCount := by
  intro decodes
  obtain ⟨error, refused⟩ := ((decodes (fun _ elapsed => .ofNat elapsed) (fun _ => 7)
    ⟨pjmediaFrameTypeAudio, 64, 1, 0⟩ 8000 1 (by decide) (by decide) (by decide)).refused
    (by decide)).mpr rfl
  rw [fromRawFrame_eq _ _ (by decide) (by decide) (by decide)] at refused
  cases refused

end PjsipClient
