/-
The format of a media port (`pjmedia/pjmedia_api.rs`).

`port_format` describes a port to pjmedia by the length of its frames in whole microseconds, from
which pjmedia computes the samples per frame again (`PjmediaAudioFormatDetail.samplesPerFrame`). The
guard against a division by zero in the conference bridge looks at the samples per frame that the
port was created with, and the bridge divides by a time it computes from its own.

* `samplesPerFrame_eq_iff` — both ends agree on the frame length exactly when the frame lasts a whole
  number of microseconds and no number is cut off.
* `bridgePtime_ne_zero_iff` — the bridge's port time is not zero exactly when the frame outlasts
  `shortestFrame`.

`usize` is 64 bits wide.
-/

import PjsipClient.Error
import PjsipClient.Lib.Machine
import PjsipClient.Pjmedia.Frame

namespace PjsipClient

open Machine

/-- The constant `PJMEDIA_FORMAT_L16`. -/
def pjmediaFormatL16 : UInt32 := 0

/-- The constant `PJMEDIA_TYPE_AUDIO`. -/
def pjmediaTypeAudio : UInt32 := 1

/-- The constant `PJMEDIA_FORMAT_DETAIL_AUDIO`. -/
def pjmediaFormatDetailAudio : UInt32 := 1

/-- The format details of audio, `pjmedia_audio_format_detail`. -/
structure PjmediaAudioFormatDetail where
  clockRate : UInt32
  channelCount : UInt32
  frameTimeUsec : UInt32
  bitsPerSample : UInt32
  avgBps : UInt32
  maxBps : UInt32
  deriving DecidableEq

/-- A `pjmedia_format` with audio details. -/
structure PjmediaFormat where
  id : UInt32
  type : UInt32
  detailType : UInt32
  det : PjmediaAudioFormatDetail
  deriving DecidableEq

/-- The error of a frame that is too short for the bridge. -/
def samplesPerFrameTooLow : PjsuaError where
  code := -1
  message := .text ("samples_per_frame is too low! port_ptime = samples_per_frame / " ++
    "channel_count * 1000 / clock_rate is 0! Reference: https://github.com/pjsip/pjproject/" ++
    "blob/7ff31e311373dc81174a5cb24698da5377885897/pjmedia/src/pjmedia/conference.c#L265-L389. " ++
    "Division by zero happens at conference.c:387 if (conf_ptime % port_ptime)")

def performPjmediaFormatChecksZeroDivision (profile : Profile) (samplesPerFrame : UInt64)
    (audioFormatDetail : PjmediaAudioFormatDetail) : Except Panic (Except PjsuaError Unit) := do
  let perChannel ← divU64 samplesPerFrame audioFormatDetail.channelCount.toUInt64
  let scaled ← mulU64 profile perChannel 1000
  let portPtime ← divU64 scaled audioFormatDetail.clockRate.toUInt64
  if portPtime = 0 then
    pure (.error samplesPerFrameTooLow)
  else pure (.ok ())

def portFormat (profile : Profile) (sampleRate : UInt32) (channelsCount samplesPerFrame : UInt64) :
    Except Panic (Except PjsuaError PjmediaFormat) := do
  let micros ← mulU64 profile samplesPerFrame 1000000
  let perChannel ← divU64 micros channelsCount
  let frameTimeUsec ← divU64 perChannel sampleRate.toUInt64
  let samplesPerSecond ← mulU32 profile sampleRate channelsCount.toUInt32
  let avgBps ← mulU32 profile samplesPerSecond (.ofNat bitsPerSample)
  let det : PjmediaAudioFormatDetail := {
    clockRate := sampleRate
    channelCount := channelsCount.toUInt32
    bitsPerSample := .ofNat bitsPerSample
    frameTimeUsec := frameTimeUsec.toUInt32
    avgBps := avgBps
    maxBps := avgBps }
  match ← performPjmediaFormatChecksZeroDivision profile samplesPerFrame det with
  | .ok () => pure (.ok ⟨pjmediaFormatL16, pjmediaTypeAudio, pjmediaFormatDetailAudio, det⟩)
  | .error error => pure (.error error)

/-! ### What the bridge makes of a format -/

/-- The samples per frame that pjmedia computes from a format, `PJMEDIA_AFD_SPF`. -/
def PjmediaAudioFormatDetail.samplesPerFrame (det : PjmediaAudioFormatDetail) : ℕ :=
  det.frameTimeUsec.toNat * det.clockRate.toNat * det.channelCount.toNat / 1000000

/-- The port time in milliseconds by which the conference bridge divides. -/
def PjmediaAudioFormatDetail.bridgePtime (det : PjmediaAudioFormatDetail) : ℕ :=
  det.samplesPerFrame / det.channelCount.toNat * 1000 / det.clockRate.toNat

/-! ### What `port_format` accepts -/

/-- What is known of a format that `port_format` returned. -/
structure Formats (sampleRate : UInt32) (channelsCount samplesPerFrame : UInt64)
    (det : PjmediaAudioFormatDetail) : Prop where
  clockRate : det.clockRate = sampleRate
  channelCount : det.channelCount.toNat = channelsCount.toNat % 2 ^ 32
  frameTimeUsec : det.frameTimeUsec.toNat =
    samplesPerFrame.toNat * 1000000 % 2 ^ 64 / (channelsCount.toNat * sampleRate.toNat) % 2 ^ 32
  rated : 0 < sampleRate.toNat
  hasChannel : 0 < det.channelCount.toNat
  hasSample : 0 < samplesPerFrame.toNat

/-- The guard lets only a frame with a sample for each channel pass. -/
theorem hasSample_of_checks {profile : Profile} {samplesPerFrame : UInt64}
    {det : PjmediaAudioFormatDetail}
    (passed : performPjmediaFormatChecksZeroDivision profile samplesPerFrame det = .ok (.ok ())) :
    0 < det.channelCount.toNat ∧ 0 < samplesPerFrame.toNat := by
  unfold performPjmediaFormatChecksZeroDivision at passed
  obtain ⟨perChannel, channels, passed⟩ := bind_eq_ok passed
  obtain ⟨scaled, product, passed⟩ := bind_eq_ok passed
  obtain ⟨portPtime, quotient, passed⟩ := bind_eq_ok passed
  obtain ⟨hasChannel, perChannelEq⟩ := divU64_eq_ok channels
  obtain ⟨scaledEq, _⟩ := mulU64_eq_ok product
  obtain ⟨_, portPtimeEq⟩ := divU64_eq_ok quotient
  refine ⟨hasChannel, Nat.pos_of_ne_zero fun none => ?_⟩
  have nothing : portPtime = 0 := by
    refine UInt64.toNat_inj.mp ?_
    rw [portPtimeEq, scaledEq, perChannelEq, none, Nat.zero_div, Nat.zero_mul, Nat.zero_mod,
      Nat.zero_div]
    rfl
  rw [if_pos nothing] at passed
  cases passed

/-- **The format** that `port_format` returns. -/
theorem formats_of_portFormat {profile : Profile} {sampleRate : UInt32}
    {channelsCount samplesPerFrame : UInt64} {format : PjmediaFormat}
    (given : portFormat profile sampleRate channelsCount samplesPerFrame = .ok (.ok format)) :
    Formats sampleRate channelsCount samplesPerFrame format.det := by
  unfold portFormat at given
  obtain ⟨micros, product, given⟩ := bind_eq_ok given
  obtain ⟨perChannel, channels, given⟩ := bind_eq_ok given
  obtain ⟨frameTimeUsec, rates, given⟩ := bind_eq_ok given
  obtain ⟨samplesPerSecond, _, given⟩ := bind_eq_ok given
  obtain ⟨avgBps, _, given⟩ := bind_eq_ok given
  obtain ⟨checked, checks, given⟩ := bind_eq_ok given
  obtain ⟨microsEq, _⟩ := mulU64_eq_ok product
  obtain ⟨_, perChannelEq⟩ := divU64_eq_ok channels
  obtain ⟨rated, frameTimeUsecEq⟩ := divU64_eq_ok rates
  cases checked with
  | error error => cases given
  | ok _ =>
    obtain ⟨hasChannel, hasSample⟩ := hasSample_of_checks checks
    cases given
    refine ⟨rfl, UInt64.toNat_toUInt32 channelsCount, ?_, rated, hasChannel, hasSample⟩
    rw [UInt64.toNat_toUInt32, frameTimeUsecEq, perChannelEq, microsEq, Nat.div_div_eq_div_mul]
    rfl

/-! ### The frame length -/

/-- A frame lasts a whole number of microseconds, and neither its length nor the number of channels is
cut off. -/
structure WholeMicros (sampleRate : UInt32) (channelsCount samplesPerFrame : UInt64) : Prop where
  whole : channelsCount.toNat * sampleRate.toNat ∣ samplesPerFrame.toNat * 1000000
  product : samplesPerFrame.toNat * 1000000 < 2 ^ 64
  time : samplesPerFrame.toNat * 1000000 < channelsCount.toNat * sampleRate.toNat * 2 ^ 32
  channels : channelsCount.toNat < 2 ^ 32

theorem Formats.channels_le {sampleRate : UInt32} {channelsCount samplesPerFrame : UInt64}
    {det : PjmediaAudioFormatDetail} (formats : Formats sampleRate channelsCount samplesPerFrame det) :
    det.channelCount.toNat ≤ channelsCount.toNat := by
  rw [formats.channelCount]
  exact Nat.mod_le _ _

/-- The whole length comes back when no conversion cuts anything off. -/
theorem Formats.whole_iff {sampleRate : UInt32} {channelsCount samplesPerFrame : UInt64}
    {det : PjmediaAudioFormatDetail} (formats : Formats sampleRate channelsCount samplesPerFrame det) :
    det.samplesPerFrame = samplesPerFrame.toNat ↔
      WholeMicros sampleRate channelsCount samplesPerFrame := by
  have channels := formats.hasChannel.trans_le formats.channels_le
  have unitPositive : 0 < channelsCount.toNat * sampleRate.toNat :=
    Nat.mul_pos channels formats.rated
  have scaledPositive : 0 < samplesPerFrame.toNat * 1000000 :=
    Nat.mul_pos formats.hasSample (by decide)
  have below : samplesPerFrame.toNat * 1000000 % 2 ^ 64 / (channelsCount.toNat * sampleRate.toNat) %
      2 ^ 32 * sampleRate.toNat * det.channelCount.toNat ≤ samplesPerFrame.toNat * 1000000 :=
    calc _ ≤ samplesPerFrame.toNat * 1000000 % 2 ^ 64 / (channelsCount.toNat * sampleRate.toNat) *
          sampleRate.toNat * channelsCount.toNat :=
          Nat.mul_le_mul (Nat.mul_le_mul_right _ (Nat.mod_le _ _)) formats.channels_le
      _ = samplesPerFrame.toNat * 1000000 % 2 ^ 64 / (channelsCount.toNat * sampleRate.toNat) *
          (channelsCount.toNat * sampleRate.toNat) := by
          rw [Nat.mul_assoc, Nat.mul_comm sampleRate.toNat]
      _ ≤ samplesPerFrame.toNat * 1000000 % 2 ^ 64 := Nat.div_mul_le_self _ _
      _ ≤ samplesPerFrame.toNat * 1000000 := Nat.mod_le _ _
  unfold PjmediaAudioFormatDetail.samplesPerFrame
  rw [formats.clockRate, formats.frameTimeUsec, div_eq_iff_of_le (by decide) below,
    cut_div_mul_eq_iff scaledPositive formats.channels_le channels formats.rated,
    formats.channelCount, Nat.mod_eq_iff_lt (by decide), Nat.mod_eq_iff_lt (by decide),
    Nat.mod_eq_iff_lt (by decide), Nat.div_lt_iff_lt_mul unitPositive, Nat.mul_comm (2 ^ 32)]
  exact ⟨fun ⟨whole, product, time, channels⟩ => ⟨whole, product, time, channels⟩,
    fun met => ⟨met.whole, met.product, met.time, met.channels⟩⟩

/-- **Both ends agree on the frame length** exactly when the frame lasts a whole number of
microseconds. -/
theorem samplesPerFrame_eq_iff {profile : Profile} {sampleRate : UInt32}
    {channelsCount samplesPerFrame : UInt64} {format : PjmediaFormat}
    (given : portFormat profile sampleRate channelsCount samplesPerFrame = .ok (.ok format)) :
    format.det.samplesPerFrame = samplesPerFrame.toNat ↔
      WholeMicros sampleRate channelsCount samplesPerFrame :=
  (formats_of_portFormat given).whole_iff

/-- Twenty milliseconds at 8000 Hz. -/
def telephoneFormat : PjmediaFormat where
  id := pjmediaFormatL16
  type := pjmediaTypeAudio
  detailType := pjmediaFormatDetailAudio
  det := ⟨8000, 1, 20000, 16, 128000, 128000⟩

theorem samplesPerFrame_eq_iff_telephone :
    portFormat .checked 8000 1 160 = .ok (.ok telephoneFormat) ∧
      (telephoneFormat.det.samplesPerFrame = (160 : UInt64).toNat ↔ WholeMicros 8000 1 160) :=
  ⟨rfl, @samplesPerFrame_eq_iff .checked 8000 1 160 telephoneFormat rfl⟩

/-- At 44100 Hz the bridge takes a frame of 100 samples for one of 99. -/
theorem not_samplesPerFrame_eq :
    ¬ ∀ profile sampleRate channelsCount samplesPerFrame format,
      portFormat profile sampleRate channelsCount samplesPerFrame = .ok (.ok format) →
        format.det.samplesPerFrame = samplesPerFrame.toNat := by
  intro agrees
  exact absurd (agrees .checked 44100 1 100 _ rfl) (by decide)

/-! ### The port time -/

/-- The shortest whole number of microseconds in which a rate has as many samples as a millisecond
begins. -/
def shortestFrame (sampleRate : UInt32) : ℕ :=
  1000000 * (sampleRate.toNat ⌈/⌉ 1000) ⌈/⌉ sampleRate.toNat

/-- What the conversions leave of a frame is at least as long as the shortest frame, both counted in
samples of a microsecond. -/
def OutlastsShortest (sampleRate : UInt32) (channelsCount samplesPerFrame : UInt64) : Prop :=
  shortestFrame sampleRate * (channelsCount.toNat * sampleRate.toNat) ≤
    samplesPerFrame.toNat * 1000000 % 2 ^ 64 % (channelsCount.toNat * sampleRate.toNat * 2 ^ 32)

/-- **The bridge divides by a port time that is not zero** exactly when the frame outlasts the
shortest frame of its rate. -/
theorem bridgePtime_ne_zero_iff {profile : Profile} {sampleRate : UInt32}
    {channelsCount samplesPerFrame : UInt64} {format : PjmediaFormat}
    (given : portFormat profile sampleRate channelsCount samplesPerFrame = .ok (.ok format)) :
    format.det.bridgePtime ≠ 0 ↔ OutlastsShortest sampleRate channelsCount samplesPerFrame := by
  have formats := formats_of_portFormat given
  have unitPositive : 0 < channelsCount.toNat * sampleRate.toNat :=
    Nat.mul_pos (formats.hasChannel.trans_le formats.channels_le) formats.rated
  unfold PjmediaAudioFormatDetail.bridgePtime PjmediaAudioFormatDetail.samplesPerFrame
  -- the number of channels cancels
  rw [Nat.div_div_eq_div_mul, Nat.mul_div_mul_right _ _ formats.hasChannel, formats.clockRate,
    div_mul_div_ne_zero_iff formats.rated (by decide) (by decide), formats.frameTimeUsec,
    le_div_mod_iff unitPositive]
  rfl

theorem bridgePtime_ne_zero_iff_telephone :
    portFormat .checked 8000 1 160 = .ok (.ok telephoneFormat) ∧
      (telephoneFormat.det.bridgePtime ≠ 0 ↔ OutlastsShortest 8000 1 160) :=
  ⟨rfl, @bridgePtime_ne_zero_iff .checked 8000 1 160 telephoneFormat rfl⟩

/-- At 44100 Hz a frame of 45 samples passes the guard, and the bridge divides by zero. -/
theorem not_bridgePtime_ne_zero :
    ¬ ∀ profile sampleRate channelsCount samplesPerFrame format,
      portFormat profile sampleRate channelsCount samplesPerFrame = .ok (.ok format) →
        format.det.bridgePtime ≠ 0 := by
  intro sound
  exact absurd rfl (sound .checked 44100 1 45 _ rfl)

end PjsipClient
