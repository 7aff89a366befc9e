/-
The time of captured and of played frames (`pjmedia/pjmedia_api.rs`,
`pjmedia/pjmedia_port_audio_stream.rs`).

`from_raw_frame` takes the timestamp of a raw frame for a number of samples, of which `get_samples_diff`
gives the low 32 bits, and multiplies it by the length of a sample in whole microseconds.
`custom_port_get_frame` writes the microseconds of a frame's time into the timestamp instead.

* `driftFree_iff` — a stream of captured frames keeps its time exactly when the rounding of each
  sample adds up to less than a microsecond and no number of samples is cut off.
* `timeSurvives_iff` — a time that is written and read back is the same exactly when it is zero or a
  sample lasts a microsecond.
-/

import PjsipClient.Lib.Ticks
import PjsipClient.Pjmedia.AudioStream
import PjsipClient.Pjmedia.RawFrame

namespace PjsipClient

open Machine

/-- The seconds of a duration, with their fraction. -/
def Duration.seconds (time : Duration) : ℚ := time.nanos / 10 ^ 9

/-- A raw frame, and the memory that its buffer is in. -/
structure RawFrame where
  memory : Memory
  frame : PjmediaFrame

/-- Raw frames as the bridge hands them to a sink port, one after another: each has some bytes and a
timestamp of 64 bits, and no timestamp goes back. -/
structure RawStream where
  frames : List RawFrame
  filled : ∀ raw ∈ frames, 0 < raw.frame.size
  stamped : ∀ raw ∈ frames, raw.frame.timestamp < UInt64.size
  ordered : frames.Pairwise fun earlier later => earlier.frame.timestamp ≤ later.frame.timestamp

/-- With the timestamps of Linux, `pj_elapsed_nanosec` gives the low 32 bits of what has elapsed since
zero. -/
def CountsNanoseconds (pjElapsedNanosec : ℕ → ℕ → UInt32) : Prop :=
  ∀ timestamp < UInt64.size, pjElapsedNanosec 0 timestamp = .ofNat timestamp

section Elapsed

variable (pjElapsedNanosec : ℕ → ℕ → UInt32)

def RawFrame.decode (raw : RawFrame) (sampleRate : UInt32) (channelsCount : UInt64) :
    Except Panic (Except PjsuaError Frame) :=
  Frame.fromRawFrame pjElapsedNanosec raw.memory raw.frame sampleRate channelsCount

/-- The frames that are captured from a stream keep its time. -/
structure DriftFree (sampleRate : UInt32) (channelsCount : UInt64) (stream : RawStream) : Prop where
  /-- Each is less than a microsecond from the time of its samples. -/
  accurate : ∀ raw ∈ stream.frames, ∃ frame,
    raw.decode pjElapsedNanosec sampleRate channelsCount = .ok (.ok frame) ∧
      |frame.time.seconds - raw.frame.timestamp / (sampleRate.toNat * channelsCount.toNat : ℕ)| <
        1 / 10 ^ 6
  /-- None is a microsecond or more before an earlier one. -/
  ordered : stream.frames.Pairwise fun earlier later => ∀ first second,
    earlier.decode pjElapsedNanosec sampleRate channelsCount = .ok (.ok first) →
      later.decode pjElapsedNanosec sampleRate channelsCount = .ok (.ok second) →
        first.time.seconds < second.time.seconds + 1 / 10 ^ 6

variable {pjElapsedNanosec} {sampleRate : UInt32} {channelsCount : UInt64}

/-- The time of a decoded frame, in rounded samples. -/
theorem time_ofRaw (counts : CountsNanoseconds pjElapsedNanosec) (memory : Memory)
    {rawFrame : PjmediaFrame} (stamped : rawFrame.timestamp < UInt64.size) :
    (Frame.ofRaw pjElapsedNanosec memory rawFrame sampleRate channelsCount).time =
      ⟨Ticks.time 1000000 (2 ^ 32) (sampleRate.toNat * channelsCount.toNat) rawFrame.timestamp *
        1000⟩ := by
  unfold Frame.ofRaw getSamplesDiff Ticks.time
  rw [counts _ stamped, Nat.div_div_eq_div_mul, Nat.mul_comm sampleRate.toNat, Nat.mul_right_comm]
  rfl

theorem seconds_ofRaw (counts : CountsNanoseconds pjElapsedNanosec) (memory : Memory)
    {rawFrame : PjmediaFrame} (stamped : rawFrame.timestamp < UInt64.size) :
    (Frame.ofRaw pjElapsedNanosec memory rawFrame sampleRate channelsCount).time.seconds =
      (Ticks.time 1000000 (2 ^ 32) (sampleRate.toNat * channelsCount.toNat) rawFrame.timestamp : ℚ) /
        (1000000 : ℕ) := by
  rw [time_ofRaw counts memory stamped]
  unfold Duration.seconds
  push_cast
  ring

/-! ### Captured streams -/

/-- A captured frame is less than a microsecond from the time of its samples exactly when its number
of samples is close. -/
theorem accurate_iff (counts : CountsNanoseconds pjElapsedNanosec) (rated : 0 < sampleRate.toNat)
    (channels : 0 < channelsCount.toNat) {raw : RawFrame} (filled : 0 < raw.frame.size)
    (stamped : raw.frame.timestamp < UInt64.size) :
    (∃ frame, raw.decode pjElapsedNanosec sampleRate channelsCount = .ok (.ok frame) ∧
        |frame.time.seconds - raw.frame.timestamp / (sampleRate.toNat * channelsCount.toNat : ℕ)| <
          1 / 10 ^ 6) ↔
      Ticks.Close 1000000 (2 ^ 32) (sampleRate.toNat * channelsCount.toNat)
        raw.frame.timestamp := by
  have given := fromRawFrame_eq pjElapsedNanosec raw.memory filled rated channels
  have million : (10 ^ 6 : ℚ) = (1000000 : ℕ) := by norm_num
  rw [← Ticks.abs_time_sub_lt_iff (by decide) (by decide) (Nat.mul_pos rated channels), million]
  constructor
  · rintro ⟨frame, decoded, near⟩
    unfold RawFrame.decode at decoded
    rw [given] at decoded
    cases decoded
    rwa [seconds_ofRaw counts raw.memory stamped] at near
  · intro near
    refine ⟨_, given, ?_⟩
    rwa [seconds_ofRaw counts raw.memory stamped]

/-- **A stream keeps its time** exactly when the number of samples of each of its frames is close. -/
theorem driftFree_iff (counts : CountsNanoseconds pjElapsedNanosec) (rated : 0 < sampleRate.toNat)
    (channels : 0 < channelsCount.toNat) (stream : RawStream) :
    DriftFree pjElapsedNanosec sampleRate channelsCount stream ↔
      ∀ raw ∈ stream.frames, Ticks.Close 1000000 (2 ^ 32)
        (sampleRate.toNat * channelsCount.toNat) raw.frame.timestamp := by
  have each : ∀ raw ∈ stream.frames, _ := fun raw member =>
    accurate_iff counts rated channels (stream.filled raw member) (stream.stamped raw member)
  constructor
  · intro driftFree raw member
    exact (each raw member).mp (driftFree.accurate raw member)
  · intro near
    refine ⟨fun raw member => (each raw member).mpr (near raw member), ?_⟩
    refine stream.ordered.imp_of_mem fun {earlier later} earlierMember laterMember ordered => ?_
    intro first second decodedFirst decodedSecond
    have firstGiven := fromRawFrame_eq pjElapsedNanosec earlier.memory
      (stream.filled earlier earlierMember) rated channels
    have secondGiven := fromRawFrame_eq pjElapsedNanosec later.memory
      (stream.filled later laterMember) rated channels
    cases firstGiven.symm.trans decodedFirst
    cases secondGiven.symm.trans decodedSecond
    rw [seconds_ofRaw counts _ (stream.stamped earlier earlierMember),
      seconds_ofRaw counts _ (stream.stamped later laterMember)]
    have before := Ticks.time_lt_of_le (by decide) ordered (near later laterMember)
    have cast : (Ticks.time 1000000 (2 ^ 32) (sampleRate.toNat * channelsCount.toNat)
        earlier.frame.timestamp : ℚ) < (Ticks.time 1000000 (2 ^ 32)
          (sampleRate.toNat * channelsCount.toNat) later.frame.timestamp + 1 : ℕ) :=
      Nat.cast_lt.mpr before
    push_cast at cast ⊢
    linarith

end Elapsed

/-- Two frames of one sample, 20 milliseconds apart at 8000 Hz. -/
def telephoneStream : RawStream where
  frames := [⟨fun _ => 0, pjmediaFrameTypeAudio, 64, 2, 160⟩,
    ⟨fun _ => 0, pjmediaFrameTypeAudio, 64, 2, 320⟩]
  filled := by simp
  stamped := by simp [UInt64.size]
  ordered := by simp

theorem driftFree_iff_telephone :
    DriftFree (fun _ elapsed => .ofNat elapsed) 8000 1 telephoneStream ↔
      ∀ raw ∈ telephoneStream.frames, Ticks.Close 1000000 (2 ^ 32)
        ((8000 : UInt32).toNat * (1 : UInt64).toNat) raw.frame.timestamp :=
  driftFree_iff (fun _ _ => rfl) (by decide) (by decide) telephoneStream

/-- At 44100 Hz a second of samples takes 970200 microseconds. -/
theorem not_driftFree :
    ¬ ∀ pjElapsedNanosec (sampleRate : UInt32) (channelsCount : UInt64) stream,
      CountsNanoseconds pjElapsedNanosec → 0 < sampleRate.toNat → 0 < channelsCount.toNat →
        DriftFree pjElapsedNanosec sampleRate channelsCount stream := by
  intro keeps
  have counts : CountsNanoseconds fun _ elapsed => .ofNat elapsed := fun _ _ => rfl
  have rated : 0 < (44100 : UInt32).toNat := by decide
  have channels : 0 < (1 : UInt64).toNat := by decide
  let second : RawFrame := ⟨fun _ => 0, pjmediaFrameTypeAudio, 64, 2, 44100⟩
  have near := (@accurate_iff _ 44100 1 counts rated channels second (by decide) (by decide)).mp
    ((keeps _ 44100 1 ⟨[second], by simp [second], by simp [second, UInt64.size], by simp⟩ counts
      rated channels).accurate second (List.mem_singleton_self _))
  exact absurd near (by decide)

/-! ### Played frames -/

namespace AudioStream

/-- The frame's time is that of `count` samples, each a whole number of microseconds long, and both
numbers fit into 32 bits. -/
structure WholeSamples (sampleRate : UInt32) (channelsCount : UInt64) (frame : Frame) (count : ℕ) :
    Prop where
  divides : sampleRate.toNat * channelsCount.toNat ∣ 1000000
  time : frame.time = ⟨count * (1000000 / (sampleRate.toNat * channelsCount.toNat)) * 1000⟩
  count_lt : count < 2 ^ 32
  micros_lt : count * (1000000 / (sampleRate.toNat * channelsCount.toNat)) < 2 ^ 32

/-- Whatever samples come with it, but not without any, the timestamp of `encoded` is read back as the
frame's time. -/
def TimeSurvives (pjElapsedNanosec : ℕ → ℕ → UInt32) (sampleRate : UInt32) (channelsCount : UInt64)
    (frame : Frame) (encoded : PjmediaFrame) : Prop :=
  ∀ (memory : Memory) (rawFrame : PjmediaFrame), 0 < rawFrame.size →
    rawFrame.timestamp = encoded.timestamp →
      ∃ back, Frame.fromRawFrame pjElapsedNanosec memory rawFrame sampleRate channelsCount =
        .ok (.ok back) ∧ back.time = frame.time

section Elapsed

variable {pjElapsedNanosec : ℕ → ℕ → UInt32} {sampleRate : UInt32} {channelsCount : UInt64}
  {frame : Frame} {count : ℕ}

/-- What the callback writes into the timestamp: microseconds. -/
theorem timestamp_eq {portData after : MediaPortData} {memory filled : Memory}
    {txFrame encoded : PjmediaFrame} {framesRx : FramesChannel}
    (audio : txFrame.type = pjmediaFrameTypeAudio)
    (received : portData.framesRx.recv = .ready (some frame, framesRx))
    (written : customPortGetFrame portData memory txFrame = .ok (after, filled, encoded)) :
    encoded.timestamp = frame.time.asMicros % UInt64.size := by
  rw [customPortGetFrame_some audio received] at written
  split at written
  · cases written
    rfl
  · cases written

/-- The microseconds of a whole number of samples. -/
theorem WholeSamples.asMicros (whole : WholeSamples sampleRate channelsCount frame count) :
    frame.time.asMicros % UInt64.size =
      count * (1000000 / (sampleRate.toNat * channelsCount.toNat)) := by
  rw [whole.time, Duration.asMicros, Nat.mul_div_cancel _ (by decide)]
  exact Nat.mod_eq_of_lt (whole.micros_lt.trans (by decide))

/-- A sample is as long as a divisor of a million says, and not shorter than a microsecond. -/
theorem WholeSamples.sample_pos (whole : WholeSamples sampleRate channelsCount frame count) :
    0 < 1000000 / (sampleRate.toNat * channelsCount.toNat) :=
  Nat.div_pos (Nat.le_of_dvd (by decide) whole.divides)
    (Nat.pos_of_dvd_of_pos whole.divides (by decide))

/-- **The time that is read back**: every microsecond counts as a sample. -/
theorem WholeSamples.time_ofRaw (whole : WholeSamples sampleRate channelsCount frame count)
    (counts : ∀ timestamp < 2 ^ 32, (pjElapsedNanosec 0 timestamp).toNat = timestamp)
    (memory : Memory) {rawFrame : PjmediaFrame}
    (stamped : rawFrame.timestamp =
      count * (1000000 / (sampleRate.toNat * channelsCount.toNat))) :
    (Frame.ofRaw pjElapsedNanosec memory rawFrame sampleRate channelsCount).time.nanos =
      frame.time.nanos * (1000000 / (sampleRate.toNat * channelsCount.toNat)) := by
  have elapsed := counts rawFrame.timestamp (by rw [stamped]; exact whole.micros_lt)
  unfold Frame.ofRaw getSamplesDiff
  rw [elapsed, stamped, whole.time, Nat.div_div_eq_div_mul, Nat.mul_comm channelsCount.toNat]
  ring

/-- **The frame's time survives** exactly when it is zero or a sample lasts a microsecond. -/
theorem timeSurvives_iff
    (counts : ∀ timestamp < 2 ^ 32, (pjElapsedNanosec 0 timestamp).toNat = timestamp)
    (rated : 0 < sampleRate.toNat) (channels : 0 < channelsCount.toNat)
    (whole : WholeSamples sampleRate channelsCount frame count)
    {portData after : MediaPortData} {memory filled : Memory} {txFrame encoded : PjmediaFrame}
    {framesRx : FramesChannel} (audio : txFrame.type = pjmediaFrameTypeAudio)
    (received : portData.framesRx.recv = .ready (some frame, framesRx))
    (written : customPortGetFrame portData memory txFrame = .ok (after, filled, encoded)) :
    TimeSurvives pjElapsedNanosec sampleRate channelsCount frame encoded ↔
      count = 0 ∨ sampleRate.toNat * channelsCount.toNat = 1000000 := by
  have stamped := (timestamp_eq audio received written).trans whole.asMicros
  have samplePos := whole.sample_pos
  have unit : 1000000 / (sampleRate.toNat * channelsCount.toNat) = 1 ↔
      sampleRate.toNat * channelsCount.toNat = 1000000 := by
    rw [Nat.div_eq_iff_eq_mul_left (Nat.mul_pos rated channels) whole.divides, Nat.one_mul, eq_comm]
  have still : frame.time.nanos = 0 ↔ count = 0 := by
    rw [whole.time]
    show count * _ * 1000 = 0 ↔ _
    rw [Nat.mul_eq_zero, or_iff_left (by decide), Nat.mul_eq_zero, or_iff_left samplePos.ne']
  -- a time is its multiple by the length of a sample only if one of the two is trivial
  have same : frame.time.nanos * (1000000 / (sampleRate.toNat * channelsCount.toNat)) =
      frame.time.nanos ↔ count = 0 ∨ sampleRate.toNat * channelsCount.toNat = 1000000 := by
    rw [mul_right_eq_self₀, unit, still, or_comm]
  rw [← same]
  constructor
  · intro survives
    let oneSample : PjmediaFrame := { encoded with size := 2 }
    have filled : 0 < oneSample.size := Nat.zero_lt_two
    obtain ⟨back, decoded, time⟩ := survives (fun _ => 0) oneSample filled rfl
    rw [fromRawFrame_eq pjElapsedNanosec _ filled rated channels] at decoded
    cases decoded
    have stampedSample : oneSample.timestamp = _ := stamped
    have nanos := whole.time_ofRaw counts (fun _ => 0) stampedSample
    exact nanos.symm.trans (congrArg Duration.nanos time)
  · intro equal memory rawFrame some read
    refine ⟨_, fromRawFrame_eq pjElapsedNanosec memory some rated channels, ?_⟩
    have nanos := whole.time_ofRaw counts memory (read.trans stamped)
    rw [equal] at nanos
    exact congrArg Duration.mk nanos

end Elapsed

/-- A port whose next frame is two samples at the time of the eighth. -/
def eighthSample : MediaPortData := ⟨⟨[⟨[1, 2], ⟨1000000⟩⟩], true, true, by decide⟩, 8000, 1⟩

theorem ofNat_counts :
    ∀ timestamp < 2 ^ 32, (UInt32.ofNat timestamp).toNat = timestamp :=
  fun _ small => UInt32.toNat_ofNat_of_lt small

theorem wholeSamples_eighth : WholeSamples 8000 1 ⟨[1, 2], ⟨1000000⟩⟩ 8 :=
  ⟨⟨125, rfl⟩, rfl, by decide, by decide⟩

theorem timeSurvives_iff_eighth :
    ∃ after filled encoded,
      customPortGetFrame eighthSample (fun _ => 0) ⟨pjmediaFrameTypeAudio, 64, 2, 0⟩ =
        .ok (after, filled, encoded) ∧
      (TimeSurvives (fun _ elapsed => .ofNat elapsed) 8000 1 ⟨[1, 2], ⟨1000000⟩⟩ encoded ↔
        8 = 0 ∨ (8000 : UInt32).toNat * (1 : UInt64).toNat = 1000000) := by
  refine ⟨_, _, _, rfl, ?_⟩
  exact @timeSurvives_iff (fun _ elapsed => .ofNat elapsed) 8000 1 _ 8 ofNat_counts (by decide)
    (by decide) wholeSamples_eighth eighthSample _ (fun _ => 0) _
    ⟨pjmediaFrameTypeAudio, 64, 2, 0⟩ _ _ rfl rfl rfl

/-- One millisecond at 8000 Hz comes back as 125 milliseconds. -/
theorem not_timeSurvives :
    ¬ ∀ (pjElapsedNanosec : ℕ → ℕ → UInt32) (sampleRate : UInt32) (channelsCount : UInt64) frame
      count portData after memory filled txFrame encoded framesRx,
      (∀ timestamp < 2 ^ 32, (pjElapsedNanosec 0 timestamp).toNat = timestamp) →
      0 < sampleRate.toNat → 0 < channelsCount.toNat →
      WholeSamples sampleRate channelsCount frame count →
      txFrame.type = pjmediaFrameTypeAudio →
      portData.framesRx.recv = .ready (some frame, framesRx) →
      customPortGetFrame portData memory txFrame = .ok (after, filled, encoded) →
        TimeSurvives pjElapsedNanosec sampleRate channelsCount frame encoded := by
  intro survives
  obtain ⟨back, decoded, time⟩ := survives (fun _ elapsed => .ofNat elapsed) 8000 1 _ 8 eighthSample _
    (fun _ => 0) _ ⟨pjmediaFrameTypeAudio, 64, 2, 0⟩ _ _ ofNat_counts (by decide) (by decide)
    wholeSamples_eighth rfl rfl rfl (fun _ => 0) ⟨pjmediaFrameTypeAudio, 64, 2, 1000⟩ (by decide) rfl
  rw [fromRawFrame_eq _ _ (by decide) (by decide) (by decide)] at decoded
  cases decoded
  exact absurd time (by decide)

end AudioStream

end PjsipClient
