/-
The arithmetic of `port_format` (`pjmedia/pjmedia_api.rs`).

The public constructors of the ports pass on whatever rate, number of channels and frame length they
are given. `port_format` divides by the first two before its guard runs, multiplies them in 32 bits,
and converts the number of channels and the length of a frame to 32 bits. `portFormatTracked` is
`port_format` with a note whether any of this has lost something.

* `erase_portFormatTracked` — without the note it is `port_format`.
* `exactFormat_iff` — `port_format` is total and exact exactly for the arguments that are not zero and
  small enough (`FormatFits`).
-/

import PjsipClient.Lib.Tracked
import PjsipClient.Pjmedia.Format

namespace PjsipClient

open Machine

def performPjmediaFormatChecksTracked (profile : Profile) (samplesPerFrame : UInt64)
    (audioFormatDetail : PjmediaAudioFormatDetail) : Tracked (Except PjsuaError Unit) := do
  let perChannel ← Tracked.divU64 samplesPerFrame audioFormatDetail.channelCount.toUInt64
  let scaled ← Tracked.mulU64 profile perChannel 1000
  let portPtime ← Tracked.divU64 scaled audioFormatDetail.clockRate.toUInt64
  if portPtime = 0 then
    pure (.error samplesPerFrameTooLow)
  else pure (.ok ())

/-- `port_format`, with a note of what the products and the conversions lose. -/
def portFormatTracked (profile : Profile) (sampleRate : UInt32)
    (channelsCount samplesPerFrame : UInt64) : Tracked (Except PjsuaError PjmediaFormat) := do
  let micros ← Tracked.mulU64 profile samplesPerFrame 1000000
  let perChannel ← Tracked.divU64 micros channelsCount
  let frameTimeUsec ← Tracked.divU64 perChannel sampleRate.toUInt64
  let channels ← Tracked.toUInt32 channelsCount
  let samplesPerSecond ← Tracked.mulU32 profile sampleRate channels
  let avgBps ← Tracked.mulU32 profile samplesPerSecond (.ofNat bitsPerSample)
  let frameTime ← Tracked.toUInt32 frameTimeUsec
  let det : PjmediaAudioFormatDetail := {
    clockRate := sampleRate
    channelCount := channels
    bitsPerSample := .ofNat bitsPerSample
    frameTimeUsec := frameTime
    avgBps := avgBps
    maxBps := avgBps }
  match ← performPjmediaFormatChecksTracked profile samplesPerFrame det with
  | .ok () => pure (.ok ⟨pjmediaFormatL16, pjmediaTypeAudio, pjmediaFormatDetailAudio, det⟩)
  | .error error => pure (.error error)

/-! ### The note changes nothing -/

theorem erase_performChecksTracked (profile : Profile) (samplesPerFrame : UInt64)
    (det : PjmediaAudioFormatDetail) :
    (performPjmediaFormatChecksTracked profile samplesPerFrame det).erase =
      performPjmediaFormatChecksZeroDivision profile samplesPerFrame det := by
  unfold performPjmediaFormatChecksTracked performPjmediaFormatChecksZeroDivision
  simp only [Tracked.erase_bind, Tracked.divU64, Tracked.mulU64, Tracked.erase_note]
  refine bind_congr fun perChannel => bind_congr fun scaled => bind_congr fun portPtime => ?_
  split <;> rfl

/-- **Without its note** it is `port_format`. -/
theorem erase_portFormatTracked (profile : Profile) (sampleRate : UInt32)
    (channelsCount samplesPerFrame : UInt64) :
    (portFormatTracked profile sampleRate channelsCount samplesPerFrame).erase =
      portFormat profile sampleRate channelsCount samplesPerFrame := by
  unfold portFormatTracked portFormat
  simp only [Tracked.erase_bind, Tracked.divU64, Tracked.mulU64, Tracked.mulU32, Tracked.toUInt32,
    Tracked.erase_note, erase_performChecksTracked]
  refine bind_congr fun micros => bind_congr fun perChannel => bind_congr fun frameTimeUsec => ?_
  show (mulU32 profile sampleRate channelsCount.toUInt32 >>= _) = _
  refine bind_congr fun samplesPerSecond => bind_congr fun avgBps => ?_
  show (performPjmediaFormatChecksZeroDivision profile samplesPerFrame _ >>= _) = _
  refine bind_congr fun checked => ?_
  cases checked <;> rfl

/-! ### What is total and exact -/

/-- The details of a format, as exact integers. -/
structure ExactDetail (sampleRate : UInt32) (channelsCount samplesPerFrame : UInt64)
    (det : PjmediaAudioFormatDetail) : Prop where
  clockRate : det.clockRate = sampleRate
  channelCount : det.channelCount.toNat = channelsCount.toNat
  frameTimeUsec : det.frameTimeUsec.toNat =
    samplesPerFrame.toNat * 1000000 / (channelsCount.toNat * sampleRate.toNat)
  avgBps : det.avgBps.toNat = sampleRate.toNat * channelsCount.toNat * 16
  maxBps : det.maxBps.toNat = sampleRate.toNat * channelsCount.toNat * 16

/-- `port_format` answers, loses nothing on its way, and gives an exact format. -/
structure ExactFormat (profile : Profile) (sampleRate : UInt32)
    (channelsCount samplesPerFrame : UInt64) : Prop where
  answers : ∃ answer, portFormat profile sampleRate channelsCount samplesPerFrame = .ok answer
  lossless : ∃ answer,
    (portFormatTracked profile sampleRate channelsCount samplesPerFrame).Exactly answer
  exact : ∀ format, portFormat profile sampleRate channelsCount samplesPerFrame = .ok (.ok format) →
    ExactDetail sampleRate channelsCount samplesPerFrame format.det

/-- The arguments are not zero, and small enough: the length of a frame in microseconds as a product of
64 bits and as a number of 32 bits, and the bits of a second in 32 bits. -/
structure FormatFits (sampleRate : UInt32) (channelsCount samplesPerFrame : UInt64) : Prop where
  rated : 0 < sampleRate.toNat
  hasChannel : 0 < channelsCount.toNat
  product : samplesPerFrame.toNat * 1000000 < 2 ^ 64
  time : samplesPerFrame.toNat * 1000000 < channelsCount.toNat * sampleRate.toNat * 2 ^ 32
  bitRate : sampleRate.toNat * channelsCount.toNat * 16 < 2 ^ 32

variable {profile : Profile} {sampleRate : UInt32} {channelsCount samplesPerFrame : UInt64}

/-- Channels for which the bits of a second fit are not cut off. -/
theorem FormatFits.channels_lt (fits : FormatFits sampleRate channelsCount samplesPerFrame) :
    channelsCount.toNat < 2 ^ 32 :=
  calc channelsCount.toNat ≤ sampleRate.toNat * channelsCount.toNat :=
        Nat.le_mul_of_pos_left _ fits.rated
    _ ≤ sampleRate.toNat * channelsCount.toNat * 16 := Nat.le_mul_of_pos_right _ (by decide)
    _ < 2 ^ 32 := fits.bitRate

/-- The samples of a second are not cut off either. -/
theorem FormatFits.samples_lt (fits : FormatFits sampleRate channelsCount samplesPerFrame) :
    sampleRate.toNat * channelsCount.toNat < 2 ^ 32 :=
  (Nat.le_mul_of_pos_right _ (by decide)).trans_lt fits.bitRate

/-- Nor is the length of a frame in microseconds. -/
theorem FormatFits.time_lt (fits : FormatFits sampleRate channelsCount samplesPerFrame) :
    samplesPerFrame.toNat * 1000000 / (channelsCount.toNat * sampleRate.toNat) < 2 ^ 32 := by
  rw [Nat.div_lt_iff_lt_mul (Nat.mul_pos fits.hasChannel fits.rated), Nat.mul_comm (2 ^ 32)]
  exact fits.time

/-- The guard loses nothing when its divisors are not zero and the number of samples is small. -/
theorem lossless_performChecks {det : PjmediaAudioFormatDetail}
    (hasChannel : 0 < det.channelCount.toUInt64.toNat) (rated : 0 < det.clockRate.toUInt64.toNat)
    (product : samplesPerFrame.toNat * 1000000 < 2 ^ 64) :
    (performPjmediaFormatChecksTracked profile samplesPerFrame det).Lossless := by
  have scaledFits : (samplesPerFrame / det.channelCount.toUInt64).toNat * 1000 < 2 ^ 64 :=
    calc (samplesPerFrame / det.channelCount.toUInt64).toNat * 1000
        ≤ samplesPerFrame.toNat * 1000000 := by
          rw [UInt64.toNat_div]
          exact Nat.mul_le_mul (Nat.div_le_self _ _) (by decide)
      _ < 2 ^ 64 := product
  unfold performPjmediaFormatChecksTracked
  refine Tracked.lossless_bind_iff.mpr ⟨_, Tracked.exactly_divU64_iff.mpr ⟨hasChannel, rfl⟩, ?_⟩
  refine Tracked.lossless_bind_iff.mpr ⟨_, Tracked.exactly_mulU64_iff.mpr ⟨scaledFits, rfl⟩, ?_⟩
  refine Tracked.lossless_bind_iff.mpr ⟨_, Tracked.exactly_divU64_iff.mpr ⟨rated, rfl⟩, ?_⟩
  split
  · exact Tracked.lossless_pure _
  · exact Tracked.lossless_pure _

/-- The number of channels after its conversion. -/
theorem toNat_channels (small : channelsCount.toNat < 2 ^ 32) :
    channelsCount.toUInt32.toNat = channelsCount.toNat := by
  rw [UInt64.toNat_toUInt32, Nat.mod_eq_of_lt small]

/-- The length of a frame in microseconds before its conversion. -/
theorem toNat_frameTime (product : samplesPerFrame.toNat * 1000000 < 2 ^ 64) :
    (samplesPerFrame * 1000000 / channelsCount / sampleRate.toUInt64).toNat =
      samplesPerFrame.toNat * 1000000 / (channelsCount.toNat * sampleRate.toNat) := by
  have whole : (samplesPerFrame * 1000000).toNat = samplesPerFrame.toNat * 1000000 :=
    (UInt64.toNat_mul _ _).trans (Nat.mod_eq_of_lt product)
  rw [UInt64.toNat_div, UInt64.toNat_div, whole, Nat.div_div_eq_div_mul]
  rfl

/-- The samples of a second. -/
theorem toNat_samples (small : channelsCount.toNat < 2 ^ 32)
    (samples : sampleRate.toNat * channelsCount.toNat < 2 ^ 32) :
    (sampleRate * channelsCount.toUInt32).toNat = sampleRate.toNat * channelsCount.toNat := by
  rw [UInt32.toNat_mul, toNat_channels small, Nat.mod_eq_of_lt samples]

/-- **What loses nothing fits.** -/
theorem fits_of_lossless
    (lossless : (portFormatTracked profile sampleRate channelsCount samplesPerFrame).Lossless) :
    FormatFits sampleRate channelsCount samplesPerFrame := by
  unfold portFormatTracked at lossless
  obtain ⟨_, product, lossless⟩ := Tracked.lossless_bind_iff.mp lossless
  obtain ⟨productFits, rfl⟩ := Tracked.exactly_mulU64_iff.mp product
  obtain ⟨_, channels, lossless⟩ := Tracked.lossless_bind_iff.mp lossless
  obtain ⟨hasChannel, rfl⟩ := Tracked.exactly_divU64_iff.mp channels
  obtain ⟨_, rates, lossless⟩ := Tracked.lossless_bind_iff.mp lossless
  obtain ⟨rated, rfl⟩ := Tracked.exactly_divU64_iff.mp rates
  obtain ⟨_, cast, lossless⟩ := Tracked.lossless_bind_iff.mp lossless
  obtain ⟨channelsFit, rfl⟩ := Tracked.exactly_toUInt32_iff.mp cast
  obtain ⟨_, samples, lossless⟩ := Tracked.lossless_bind_iff.mp lossless
  obtain ⟨samplesFit, rfl⟩ := Tracked.exactly_mulU32_iff.mp samples
  obtain ⟨_, bits, lossless⟩ := Tracked.lossless_bind_iff.mp lossless
  obtain ⟨bitsFit, rfl⟩ := Tracked.exactly_mulU32_iff.mp bits
  obtain ⟨_, time, _⟩ := Tracked.lossless_bind_iff.mp lossless
  obtain ⟨timeFits, rfl⟩ := Tracked.exactly_toUInt32_iff.mp time
  have unitPositive : 0 < channelsCount.toNat * sampleRate.toNat := Nat.mul_pos hasChannel rated
  refine ⟨rated, hasChannel, productFits, ?_, ?_⟩
  · rw [toNat_frameTime productFits, Nat.div_lt_iff_lt_mul unitPositive,
      Nat.mul_comm (2 ^ 32)] at timeFits
    exact timeFits
  · rw [toNat_channels channelsFit] at samplesFit
    rw [toNat_samples channelsFit samplesFit] at bitsFit
    exact bitsFit

/-- **What fits loses nothing.** -/
theorem FormatFits.lossless (fits : FormatFits sampleRate channelsCount samplesPerFrame) :
    (portFormatTracked profile sampleRate channelsCount samplesPerFrame).Lossless := by
  have channelsFit := fits.channels_lt
  have samplesFit := fits.samples_lt
  have timeFits : (samplesPerFrame * 1000000 / channelsCount / sampleRate.toUInt64).toNat <
      2 ^ 32 := by
    rw [toNat_frameTime fits.product]
    exact fits.time_lt
  have bitsFit : (sampleRate * channelsCount.toUInt32).toNat * 16 < 2 ^ 32 := by
    rw [toNat_samples channelsFit samplesFit]
    exact fits.bitRate
  have channelCount := toNat_channels channelsFit
  unfold portFormatTracked
  refine Tracked.lossless_bind_iff.mpr ⟨_, Tracked.exactly_mulU64_iff.mpr ⟨fits.product, rfl⟩, ?_⟩
  refine Tracked.lossless_bind_iff.mpr ⟨_, Tracked.exactly_divU64_iff.mpr ⟨fits.hasChannel, rfl⟩, ?_⟩
  refine Tracked.lossless_bind_iff.mpr ⟨_, Tracked.exactly_divU64_iff.mpr ⟨fits.rated, rfl⟩, ?_⟩
  refine Tracked.lossless_bind_iff.mpr ⟨_, Tracked.exactly_toUInt32_iff.mpr ⟨channelsFit, rfl⟩, ?_⟩
  refine Tracked.lossless_bind_iff.mpr ⟨_, Tracked.exactly_mulU32_iff.mpr
    ⟨by rw [channelCount]; exact samplesFit, rfl⟩, ?_⟩
  refine Tracked.lossless_bind_iff.mpr ⟨_, Tracked.exactly_mulU32_iff.mpr ⟨bitsFit, rfl⟩, ?_⟩
  refine Tracked.lossless_bind_iff.mpr ⟨_, Tracked.exactly_toUInt32_iff.mpr ⟨timeFits, rfl⟩, ?_⟩
  have hasChannel : 0 < channelsCount.toUInt32.toUInt64.toNat := by
    rw [UInt32.toNat_toUInt64, channelCount]
    exact fits.hasChannel
  refine Tracked.Lossless.bind (lossless_performChecks ?_ ?_ fits.product) fun checked => ?_
  · exact hasChannel
  · exact fits.rated
  · cases checked with
    | ok _ => exact Tracked.lossless_pure _
    | error error => exact Tracked.lossless_pure _

/-- The bits of a second in a format that `port_format` returned. -/
theorem avgBps_of_portFormat {format : PjmediaFormat}
    (given : portFormat profile sampleRate channelsCount samplesPerFrame = .ok (.ok format)) :
    format.det.avgBps.toNat =
        sampleRate.toNat * (channelsCount.toNat % 2 ^ 32) % 2 ^ 32 * 16 % 2 ^ 32 ∧
      format.det.maxBps = format.det.avgBps := by
  unfold portFormat at given
  obtain ⟨micros, _, given⟩ := bind_eq_ok given
  obtain ⟨perChannel, _, given⟩ := bind_eq_ok given
  obtain ⟨frameTimeUsec, _, given⟩ := bind_eq_ok given
  obtain ⟨samplesPerSecond, samples, given⟩ := bind_eq_ok given
  obtain ⟨avgBps, bits, given⟩ := bind_eq_ok given
  obtain ⟨checked, _, given⟩ := bind_eq_ok given
  cases checked with
  | error error => cases given
  | ok _ =>
    cases given
    refine ⟨?_, rfl⟩
    show avgBps.toNat = _
    rw [mulU32_eq_ok bits, mulU32_eq_ok samples, UInt64.toNat_toUInt32]
    rfl

/-- **The format is exact** when the arguments fit. -/
theorem FormatFits.exact (fits : FormatFits sampleRate channelsCount samplesPerFrame)
    {format : PjmediaFormat}
    (given : portFormat profile sampleRate channelsCount samplesPerFrame = .ok (.ok format)) :
    ExactDetail sampleRate channelsCount samplesPerFrame format.det := by
  have formats := formats_of_portFormat given
  obtain ⟨avgBps, maxBps⟩ := avgBps_of_portFormat given
  have channelsFit := fits.channels_lt
  rw [Nat.mod_eq_of_lt channelsFit, Nat.mod_eq_of_lt fits.samples_lt, Nat.mod_eq_of_lt fits.bitRate]
    at avgBps
  refine ⟨formats.clockRate, ?_, ?_, avgBps, maxBps ▸ avgBps⟩
  · rw [formats.channelCount, Nat.mod_eq_of_lt channelsFit]
  · rw [formats.frameTimeUsec, Nat.mod_eq_of_lt fits.product, Nat.mod_eq_of_lt fits.time_lt]

/-- **`port_format` is total and exact** exactly for arguments that are not zero and small enough. -/
theorem exactFormat_iff (profile : Profile) (sampleRate : UInt32)
    (channelsCount samplesPerFrame : UInt64) :
    ExactFormat profile sampleRate channelsCount samplesPerFrame ↔
      FormatFits sampleRate channelsCount samplesPerFrame := by
  constructor
  · intro total
    exact fits_of_lossless total.lossless
  · intro fits
    refine ⟨?_, fits.lossless, fun format given => fits.exact given⟩
    rw [← erase_portFormatTracked]
    exact fits.lossless.answers

/-- A port without channels makes `port_format` divide by zero. -/
theorem not_exactFormat :
    ¬ ∀ profile sampleRate channelsCount samplesPerFrame,
      ExactFormat profile sampleRate channelsCount samplesPerFrame := by
  intro total
  obtain ⟨answer, given⟩ := (total .wrapping 8000 0 160).answers
  cases given

end PjsipClient
