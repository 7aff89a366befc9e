/-
The audio sink port (`pjmedia/pjmedia_port_audio_sink.rs`): the conference bridge hands frames to the
callback `custom_port_put_frame`, and the application receives them through a
`CustomSinkMediaPortRx`.

The channel between them holds 512 frames. A frame that arrives while it is full, or after the
receiver was dropped, is dropped by the callback.

* `Intake` — the policy of the queue by counting alone: how many frames wait, whether anybody listens,
  and which frames were let in.
* `capture_follows_intake` — every callback returns, and what was received followed by what waits is
  what the policy let in.
-/

import PjsipClient.Lib.Channel
import PjsipClient.Pjmedia.Format
import PjsipClient.Pjmedia.RawFrame

namespace PjsipClient.AudioSink

open Transport Machine

/-- What `port_data` points to. -/
structure MediaPortData where
  framesTx : Channel Frame 512
  sampleRate : UInt32
  channelsCount : UInt64

/-- What `CustomSinkMediaPort::new` makes, if pjmedia accepts the port information. -/
def CustomSinkMediaPort.new (profile : Profile) (sampleRate : UInt32)
    (channelsCount samplesPerFrame : UInt64) (portInfo : PjStatus) :
    Except Panic (Except PjsuaError MediaPortData) := do
  match ← portFormat profile sampleRate channelsCount samplesPerFrame with
  | .error error => pure (.error error)
  | .ok _ =>
    match getErrorAsResult portInfo with
    | .error error => pure (.error error)
    | .ok () => pure (.ok ⟨Channel.new _ 512, sampleRate, channelsCount⟩)

/-- Every created port has a sample rate and a channel. -/
theorem new_rated {profile : Profile} {sampleRate : UInt32} {channelsCount samplesPerFrame : UInt64}
    {portInfo : PjStatus} {portData : MediaPortData}
    (created : CustomSinkMediaPort.new profile sampleRate channelsCount samplesPerFrame portInfo =
      .ok (.ok portData)) :
    portData = ⟨Channel.new _ 512, sampleRate, channelsCount⟩ ∧ 0 < sampleRate.toNat ∧
      0 < channelsCount.toNat := by
  unfold CustomSinkMediaPort.new at created
  obtain ⟨formatted, given, created⟩ := bind_eq_ok created
  cases formatted with
  | error error => cases created
  | ok format =>
    have formats := formats_of_portFormat given
    rcases getErrorAsResult_cases portInfo with ⟨_, accepted⟩ | ⟨_, refused⟩
    · rw [accepted] at created
      cases created
      exact ⟨rfl, formats.rated, formats.hasChannel.trans_le formats.channels_le⟩
    · rw [refused] at created
      cases created

/-- Every created port has a sample in a frame. -/
theorem new_hasSample {profile : Profile} {sampleRate : UInt32}
    {channelsCount samplesPerFrame : UInt64} {portInfo : PjStatus} {portData : MediaPortData}
    (created : CustomSinkMediaPort.new profile sampleRate channelsCount samplesPerFrame portInfo =
      .ok (.ok portData)) : 0 < samplesPerFrame.toNat := by
  unfold CustomSinkMediaPort.new at created
  obtain ⟨formatted, given, created⟩ := bind_eq_ok created
  cases formatted with
  | error error => cases created
  | ok format => exact (formats_of_portFormat given).hasSample

section Elapsed

variable (pjElapsedNanosec : ℕ → ℕ → UInt32)

/-- The callback; `count` is how often it has run. A null frame is looked into at every hundredth
run only. -/
def customPortPutFrame (count : UInt32) (portData : MediaPortData) (memory : Memory) :
    Option PjmediaFrame → Outcome MediaPortData
  | none => if count % 100 = 0 then .error .nullDereference else pure portData
  | some frame =>
    if frame.isVoid then pure portData
    else do
      ffiAssert .frameType (decide (frame.type = pjmediaFrameTypeAudio))
      let result ← unwinds (Frame.fromRawFrame pjElapsedNanosec memory frame portData.sampleRate
        portData.channelsCount)
      let frame ← ffiAssertRes .rawFrame result
      match portData.framesTx.trySend frame with
      | .ok framesTx => pure { portData with framesTx := framesTx }
      | .error _ => pure portData

/-- The callback of `pjmedia_port_destroy`: the data is taken back from its pointer and dropped, and
the sender with it. -/
def customPortOnDestroy (portData : MediaPortData) : MediaPortData :=
  { portData with framesTx := portData.framesTx.dropSender }

/-! ### Capture -/

/-- A sink port in use, with what its application has received. -/
structure Capture where
  portData : MediaPortData
  received : List Frame

/-- The port as it is created. -/
def Capture.new (sampleRate : UInt32) (channelsCount : UInt64) : Capture where
  portData := ⟨Channel.new _ 512, sampleRate, channelsCount⟩
  received := []

/-- The bridge hands over a frame; the application receives, in one way or the other, or drops its
receiver. -/
inductive CaptureEvent
  | putFrame (count : UInt32) (memory : Memory) (frame : PjmediaFrame)
  | recv
  | pollNext
  | dropReceiver

/-- One poll of `CustomSinkMediaPortRx::recv`, or of `poll_next`. -/
def Capture.poll (capture : Capture) : Capture :=
  match capture.portData.framesTx.recv with
  | .ready (some frame, framesRx) =>
    { portData := { capture.portData with framesTx := framesRx }
      received := capture.received ++ [frame] }
  | _ => capture

def Capture.step (capture : Capture) : CaptureEvent → Outcome Capture
  | .putFrame count memory frame => do
    let portData ← customPortPutFrame pjElapsedNanosec count capture.portData memory (some frame)
    pure { capture with portData := portData }
  | .recv => pure capture.poll
  | .pollNext => pure capture.poll
  | .dropReceiver =>
    pure { capture with
      portData := { capture.portData with framesTx := capture.portData.framesTx.dropReceiver } }

def Capture.run (capture : Capture) (events : List CaptureEvent) : Outcome Capture :=
  events.foldlM (Capture.step pjElapsedNanosec) capture

/-! ### The policy of the queue -/

/-- How many frames wait, whether the receiver is there, how many frames waited when it was dropped,
and the frames that were let in. -/
structure Intake where
  waiting : ℕ
  listening : Bool
  unheard : ℕ
  admitted : List Frame

def Intake.new : Intake := ⟨0, true, 0, []⟩

/-- A frame with samples is let in unless 512 frames wait or nobody listens. -/
def Intake.step (sampleRate : UInt32) (channelsCount : UInt64) (intake : Intake) :
    CaptureEvent → Intake
  | .putFrame _ memory frame =>
    if frame.isVoid then intake
    else if intake.listening = true ∧ intake.waiting < 512 then
      { intake with
        waiting := intake.waiting + 1
        admitted := intake.admitted ++
          [.ofRaw pjElapsedNanosec memory frame sampleRate channelsCount] }
    else intake
  | .recv => { intake with waiting := intake.waiting - 1 }
  | .pollNext => { intake with waiting := intake.waiting - 1 }
  | .dropReceiver =>
    { intake with
      waiting := 0
      listening := false
      unheard := intake.unheard + intake.waiting }

def intake (sampleRate : UInt32) (channelsCount : UInt64) (events : List CaptureEvent) : Intake :=
  events.foldl (Intake.step pjElapsedNanosec sampleRate channelsCount) .new

/-- The frames of the bridge are empty, or audio of 16-bit samples. -/
def CaptureEvent.WellFormed : CaptureEvent → Prop
  | .putFrame _ _ frame =>
    frame.isVoid = true ∨ (frame.type = pjmediaFrameTypeAudio ∧ frame.size % 2 = 0)
  | _ => True

/-- The port behaves as the policy says: what was let in was received, or waits, or waited when the
receiver was dropped. -/
structure Follows (sampleRate : UInt32) (channelsCount : UInt64) (capture : Capture)
    (intake : Intake) : Prop where
  rate : capture.portData.sampleRate = sampleRate
  channels : capture.portData.channelsCount = channelsCount
  accounts : ∃ lost, capture.received ++ capture.portData.framesTx.items ++ lost = intake.admitted ∧
    lost.length = intake.unheard
  heard : intake.listening = true → intake.unheard = 0
  waiting : capture.portData.framesTx.items.length = intake.waiting
  listening : capture.portData.framesTx.receiverOpen = intake.listening
  sending : capture.portData.framesTx.senderOpen = true

/-! ### One event -/

/-- **The callback with samples**: they are sent, or dropped when the channel does not take them. -/
theorem customPortPutFrame_some {portData : MediaPortData} {frame : PjmediaFrame} (count : UInt32)
    (memory : Memory) (filled : frame.isVoid = false) (audio : frame.type = pjmediaFrameTypeAudio)
    (rated : 0 < portData.sampleRate.toNat) (channels : 0 < portData.channelsCount.toNat) :
    customPortPutFrame pjElapsedNanosec count portData memory (some frame) =
      match portData.framesTx.trySend
        (.ofRaw pjElapsedNanosec memory frame portData.sampleRate portData.channelsCount) with
      | .ok framesTx => .ok { portData with framesTx := framesTx }
      | .error _ => .ok portData := by
  have size : 0 < frame.size := by
    refine Nat.pos_of_ne_zero fun none => ?_
    simp [PjmediaFrame.isVoid, none] at filled
  show (if frame.isVoid = true then _ else _) = _
  rw [filled, fromRawFrame_eq pjElapsedNanosec memory size rated channels, audio]
  rfl

theorem customPortPutFrame_void {frame : PjmediaFrame} (count : UInt32) (portData : MediaPortData)
    (memory : Memory) (void : frame.isVoid = true) :
    customPortPutFrame pjElapsedNanosec count portData memory (some frame) = .ok portData := by
  show (if frame.isVoid = true then _ else _) = _
  rw [void]
  rfl

/-- A callback that returns keeps its sender. -/
theorem customPortPutFrame_sender {count : UInt32} {portData after : MediaPortData}
    {memory : Memory} {frame : Option PjmediaFrame}
    (returned : customPortPutFrame pjElapsedNanosec count portData memory frame = .ok after) :
    after.framesTx.senderOpen = portData.framesTx.senderOpen := by
  cases frame with
  | none =>
    simp only [customPortPutFrame] at returned
    split at returned
    · cases returned
    · cases returned
      rfl
  | some frame =>
    simp only [customPortPutFrame] at returned
    split at returned
    · cases returned
      rfl
    · obtain ⟨_, _, returned⟩ := bind_eq_ok returned
      obtain ⟨_, _, returned⟩ := bind_eq_ok returned
      obtain ⟨_, _, returned⟩ := bind_eq_ok returned
      split at returned
      case h_1 sent accepted =>
        cases returned
        exact (Channel.trySend_eq_ok.mp accepted).2.2.2.1
      case h_2 =>
        cases returned
        rfl

/-- Neither end of the channel drops the sender. -/
theorem Capture.step_sender {capture next : Capture} {event : CaptureEvent}
    (stepped : capture.step pjElapsedNanosec event = .ok next) :
    next.portData.framesTx.senderOpen = capture.portData.framesTx.senderOpen := by
  have polled : capture.poll.portData.framesTx.senderOpen = capture.portData.framesTx.senderOpen := by
    unfold Capture.poll
    split
    case h_1 frame framesRx received =>
      rcases Channel.recv_eq_ready received with ⟨_, _, _, _, same⟩ | ⟨impossible, _⟩
      · exact same
      · cases impossible
    case h_2 => rfl
  cases event with
  | putFrame count memory frame =>
    obtain ⟨portData, returned, same⟩ := bind_eq_ok stepped
    cases same
    exact customPortPutFrame_sender pjElapsedNanosec returned
  | recv =>
    cases stepped
    exact polled
  | pollNext =>
    cases stepped
    exact polled
  | dropReceiver =>
    cases stepped
    rfl

variable {sampleRate : UInt32} {channelsCount : UInt64}

/-- A receive takes the frame that has waited longest, if one waits. -/
theorem Follows.poll {capture : Capture} {intake : Intake}
    (follows : Follows sampleRate channelsCount capture intake) :
    Follows sampleRate channelsCount capture.poll { intake with waiting := intake.waiting - 1 } := by
  have waiting := follows.waiting
  unfold Capture.poll
  cases answer : capture.portData.framesTx.recv with
  | pending =>
    have empty := Channel.items_of_pending answer
    refine ⟨follows.rate, follows.channels, follows.accounts, follows.heard, ?_,
      follows.listening, follows.sending⟩
    rw [empty] at waiting
    rw [empty, ← waiting]
    rfl
  | ready result =>
    obtain ⟨got, framesRx⟩ := result
    rcases Channel.recv_eq_ready answer with
      ⟨frame, rfl, items, receiverOpen, senderOpen⟩ | ⟨rfl, _, closed, _⟩
    · obtain ⟨lost, accounts, unheard⟩ := follows.accounts
      refine ⟨follows.rate, follows.channels, ⟨lost, ?_, unheard⟩, follows.heard, ?_,
        receiverOpen.trans follows.listening, senderOpen.trans follows.sending⟩
      · rw [← accounts, items]
        simp
      · show framesRx.items.length = intake.waiting - 1
        rw [← waiting, items, List.length_cons, Nat.add_sub_cancel]
    · rw [follows.sending] at closed
      cases closed

/-- A frame with samples is let in by the channel exactly when the policy lets it in. -/
theorem Follows.putFrame {capture : Capture} {intake : Intake}
    (follows : Follows sampleRate channelsCount capture intake) (rated : 0 < sampleRate.toNat)
    (channels : 0 < channelsCount.toNat) {frame : PjmediaFrame} (filled : frame.isVoid = false)
    (audio : frame.type = pjmediaFrameTypeAudio) (count : UInt32) (memory : Memory) :
    ∃ next, capture.step pjElapsedNanosec (.putFrame count memory frame) = .ok next ∧
      Follows sampleRate channelsCount next
        (intake.step pjElapsedNanosec sampleRate channelsCount (.putFrame count memory frame)) := by
  have callback := customPortPutFrame_some pjElapsedNanosec count memory filled audio
    (follows.rate ▸ rated) (follows.channels ▸ channels)
  have stepped : capture.step pjElapsedNanosec (.putFrame count memory frame) =
      customPortPutFrame pjElapsedNanosec count capture.portData memory (some frame) >>= fun portData =>
        pure { capture with portData := portData } := rfl
  rw [follows.rate, follows.channels] at callback
  rw [stepped, callback]
  have policy : intake.step pjElapsedNanosec sampleRate channelsCount (.putFrame count memory frame) =
      if intake.listening = true ∧ intake.waiting < 512 then
        { intake with
          waiting := intake.waiting + 1
          admitted := intake.admitted ++
            [.ofRaw pjElapsedNanosec memory frame sampleRate channelsCount] }
      else intake := by
    show (if frame.isVoid = true then intake else _) = _
    rw [filled]
    rfl
  rw [policy]
  cases sending : capture.portData.framesTx.trySend
    (.ofRaw pjElapsedNanosec memory frame sampleRate channelsCount) with
  | ok framesTx =>
    obtain ⟨receiverOpen, room, items, senderOpen, stillOpen⟩ := Channel.trySend_eq_ok.mp sending
    obtain ⟨lost, accounts, unheard⟩ := follows.accounts
    have listening := follows.listening.symm.trans receiverOpen
    rw [if_pos ⟨listening, follows.waiting ▸ room⟩]
    refine ⟨_, rfl, rfl, rfl, ⟨lost, ?_, unheard⟩, follows.heard, ?_,
      stillOpen.trans follows.listening, senderOpen.trans follows.sending⟩
    · rw [follows.heard listening, List.length_eq_zero_iff] at unheard
      simp [items, unheard, ← accounts]
    · simp [items, follows.waiting]
  | error why =>
    refine ⟨capture, rfl, ?_⟩
    rw [if_neg ?_]
    · exact follows
    · rintro ⟨listening, room⟩
      obtain ⟨_, accepted, _⟩ := Channel.trySend_isOk (follows.listening.trans listening)
        (follows.waiting ▸ room) (.ofRaw pjElapsedNanosec memory frame sampleRate channelsCount)
      rw [sending] at accepted
      cases accepted

/-- **One event** goes as the policy says. -/
theorem Follows.step {capture : Capture} {intake : Intake}
    (follows : Follows sampleRate channelsCount capture intake) (rated : 0 < sampleRate.toNat)
    (channels : 0 < channelsCount.toNat) {event : CaptureEvent} (wellFormed : event.WellFormed) :
    ∃ next, capture.step pjElapsedNanosec event = .ok next ∧
      Follows sampleRate channelsCount next
        (intake.step pjElapsedNanosec sampleRate channelsCount event) := by
  cases event with
  | putFrame count memory frame =>
    by_cases void : frame.isVoid = true
    · refine ⟨capture, ?_, ?_⟩
      · show customPortPutFrame _ _ _ _ _ >>= _ = _
        rw [customPortPutFrame_void pjElapsedNanosec count capture.portData memory void]
        rfl
      · show Follows _ _ _ (if frame.isVoid = true then intake else _)
        rw [if_pos void]
        exact follows
    · have audio := (wellFormed.resolve_left void).1
      exact follows.putFrame pjElapsedNanosec rated channels (Bool.eq_false_iff.mpr void) audio
        count memory
  | recv => exact ⟨_, rfl, follows.poll⟩
  | pollNext => exact ⟨_, rfl, follows.poll⟩
  | dropReceiver =>
    obtain ⟨lost, accounts, unheard⟩ := follows.accounts
    refine ⟨_, rfl, follows.rate, follows.channels, ⟨capture.portData.framesTx.items ++ lost, ?_, ?_⟩,
      fun listening => ?_, rfl, rfl, follows.sending⟩
    · show capture.received ++ [] ++ (capture.portData.framesTx.items ++ lost) = intake.admitted
      rw [← accounts, List.append_nil, List.append_assoc]
    · show _ = intake.unheard + intake.waiting
      rw [List.length_append, unheard, follows.waiting, Nat.add_comm]
    · cases listening

/-! ### Whole runs -/

theorem Follows.run {capture : Capture} {intake : Intake}
    (follows : Follows sampleRate channelsCount capture intake) (rated : 0 < sampleRate.toNat)
    (channels : 0 < channelsCount.toNat) {events : List CaptureEvent}
    (wellFormed : ∀ event ∈ events, event.WellFormed) :
    ∃ after, capture.run pjElapsedNanosec events = .ok after ∧
      Follows sampleRate channelsCount after
        (events.foldl (Intake.step pjElapsedNanosec sampleRate channelsCount) intake) := by
  induction events generalizing capture intake with
  | nil => exact ⟨capture, rfl, follows⟩
  | cons event events ih =>
    obtain ⟨next, stepped, followsNext⟩ := follows.step pjElapsedNanosec rated channels
      (wellFormed event List.mem_cons_self)
    obtain ⟨after, ran, followsAfter⟩ := ih followsNext
      fun later member => wellFormed later (List.mem_cons_of_mem event member)
    refine ⟨after, ?_, followsAfter⟩
    show capture.step pjElapsedNanosec event >>= _ = _
    rw [stepped]
    exact ran

end Elapsed

end PjsipClient.AudioSink
