/-
The audio stream port (`pjmedia/pjmedia_port_audio_stream.rs`): the application sends frames through
a `CustomStreamMediaPortTx`, and the conference bridge takes one at a time through the callback
`custom_port_get_frame`.

`send` divides the number of samples by the number of bytes in a sample before it compares it with
the samples per frame, and fills a short frame up to that many bytes. What it accepts therefore has
`2 * samplesPerFrame` samples, or one more (`normalise_accepts`). The callback takes the bridge's
buffer to be twice as long as it is, which agrees with the first length and not with the second.

* `playAll_of_fit` — without a frame of `2 * samplesPerFrame + 1` samples, no callback fails.
* `playoutAgrees_iff` — and a frame of that length, once it is taken out, ends the process.
-/

import PjsipClient.Lib.Channel
import PjsipClient.Pjmedia.Format

namespace PjsipClient.AudioStream

open Transport Machine

/-- The frames' channel: `futures_mpsc::channel(512)`, which has room for one more frame for its one
sender. -/
abbrev FramesChannel := Channel Frame 513

/-- What `port_data` points to. -/
structure MediaPortData where
  framesRx : FramesChannel
  sampleRate : UInt32
  channelsCount : ℕ

/-- The application's end. `CustomStreamMediaPort::new` is the only constructor, and it gives the
sample size of the crate. -/
structure CustomStreamMediaPortTx where
  bitsPerSample : ℕ
  samplesPerFrame : ℕ
  sampleSize : bitsPerSample = PjsipClient.bitsPerSample

/-- The assertion of `send` holds of every sender. -/
theorem CustomStreamMediaPortTx.whole_bytes (tx : CustomStreamMediaPortTx) :
    tx.bitsPerSample % 8 = 0 ∧ tx.bitsPerSample / 8 = 2 := by
  rw [tx.sampleSize]
  exact ⟨rfl, rfl⟩

/-- What `CustomStreamMediaPort::new` makes when it succeeds: the port's data and the sender. -/
def CustomStreamMediaPort.made (sampleRate : UInt32) (channelsCount samplesPerFrame : ℕ) :
    MediaPortData × CustomStreamMediaPortTx :=
  (⟨Channel.new _ 513, sampleRate, channelsCount⟩, ⟨PjsipClient.bitsPerSample, samplesPerFrame, rfl⟩)

/-- `CustomStreamMediaPort::new`, with what pjmedia answers about the port information. -/
def CustomStreamMediaPort.new (profile : Profile) (sampleRate : UInt32)
    (channelsCount samplesPerFrame : UInt64) (portInfo : PjStatus) :
    Except Panic (Except PjsuaError (MediaPortData × CustomStreamMediaPortTx)) := do
  match ← portFormat profile sampleRate channelsCount samplesPerFrame with
  | .error error => pure (.error error)
  | .ok _ =>
    match getErrorAsResult portInfo with
    | .error error => pure (.error error)
    | .ok () => pure (.ok (made sampleRate channelsCount.toNat samplesPerFrame.toNat))

/-- A created port is made so, and has a sample rate, a channel and a sample in a frame. -/
theorem CustomStreamMediaPort.made_of_new {profile : Profile} {sampleRate : UInt32}
    {channelsCount samplesPerFrame : UInt64} {portInfo : PjStatus}
    {port : MediaPortData × CustomStreamMediaPortTx}
    (created : new profile sampleRate channelsCount samplesPerFrame portInfo = .ok (.ok port)) :
    port = made sampleRate channelsCount.toNat samplesPerFrame.toNat ∧ 0 < sampleRate.toNat ∧
      0 < channelsCount.toNat ∧ 0 < samplesPerFrame.toNat := by
  unfold new at created
  obtain ⟨formatted, given, created⟩ := bind_eq_ok created
  cases formatted with
  | error error => cases created
  | ok format =>
    have formats := formats_of_portFormat given
    rcases getErrorAsResult_cases portInfo with ⟨_, accepted⟩ | ⟨_, refused⟩
    · rw [accepted] at created
      cases created
      exact ⟨rfl, formats.rated, formats.hasChannel.trans_le formats.channels_le,
        formats.hasSample⟩
    · rw [refused] at created
      cases created

/-- A frame of one sample takes a millisecond at least. -/
example : CustomStreamMediaPort.new .checked 1000 1 1 pjSuccess =
    .ok (.ok (CustomStreamMediaPort.made 1000 1 1)) := rfl

/-- The first half of `send`: refuse a long frame, fill up a short one. -/
def CustomStreamMediaPortTx.normalise (tx : CustomStreamMediaPortTx) (frame : Frame) :
    Except SendError Frame :=
  let bytesInSample := tx.bitsPerSample / 8
  if frame.data.length / bytesInSample > tx.samplesPerFrame then
    .error (.invalidSizeFrameError frame)
  else if frame.data.length / bytesInSample < tx.samplesPerFrame then
    .ok { data := resize frame.data (tx.samplesPerFrame * bytesInSample) 0, time := frame.time }
  else .ok frame

/-- `send`: it waits while the channel is full. -/
def CustomStreamMediaPortTx.send (tx : CustomStreamMediaPortTx) (frame : Frame)
    (framesTx : FramesChannel) : Poll (Except SendError FramesChannel) :=
  match tx.normalise frame with
  | .error error => .ready (.error error)
  | .ok frame =>
    match framesTx.startSend frame with
    | .ok framesTx => .ready (.ok framesTx)
    | .error (.full _) => .pending
    | .error (.closed _) => .ready (.error .sendErr)

/-- The body of the callback, under `catch_unwind`. -/
def getFrame (portData : MediaPortData) (memory : Memory) (txFrame : PjmediaFrame) :
    Except Unit (MediaPortData × Memory × PjmediaFrame) :=
  if txFrame.type = pjmediaFrameTypeAudio then
    match portData.framesRx.recv with
    | .ready (some rxFrame, framesRx) => do
      let rxFrameBytes := leBytes rxFrame.data
      let memory ← copyFromSlice memory txFrame.buf (txFrame.size * 2) rxFrameBytes
      pure ({ portData with framesRx := framesRx }, memory,
        { txFrame with timestamp := rxFrame.time.asMicros % UInt64.size })
    | _ =>
      pure (portData, memory.write txFrame.buf (List.replicate txFrame.size 0),
        { txFrame with timestamp := 0, size := 0, type := pjmediaFrameTypeNone })
  else pure (portData, memory, txFrame)

/-- The callback: a panic that `catch_unwind` caught ends the process. -/
def customPortGetFrame (portData : MediaPortData) (memory : Memory) (txFrame : PjmediaFrame) :
    Outcome (MediaPortData × Memory × PjmediaFrame) :=
  ffiAssertRes .getFrame (getFrame portData memory txFrame)

/-! ### What `send` accepts -/

theorem normalise_eq (tx : CustomStreamMediaPortTx) (frame : Frame) :
    tx.normalise frame =
      if frame.data.length / 2 > tx.samplesPerFrame then .error (.invalidSizeFrameError frame)
      else if frame.data.length / 2 < tx.samplesPerFrame then
        .ok { data := resize frame.data (tx.samplesPerFrame * 2) 0, time := frame.time }
      else .ok frame := by
  unfold CustomStreamMediaPortTx.normalise
  rw [tx.whole_bytes.2]

/-- **An accepted frame** has twice the samples per frame, or one sample more and is left as it
was. -/
theorem normalise_accepts {tx : CustomStreamMediaPortTx} {frame accepted : Frame}
    (ok : tx.normalise frame = .ok accepted) :
    accepted.data.length = tx.samplesPerFrame * 2 ∨
      (accepted = frame ∧ frame.data.length = tx.samplesPerFrame * 2 + 1) := by
  rw [normalise_eq] at ok
  split at ok
  · cases ok
  · split at ok
    · cases ok
      exact Or.inl (length_resize _ _ _)
    · cases ok
      by_cases odd : frame.data.length = tx.samplesPerFrame * 2 + 1
      · exact Or.inr ⟨rfl, odd⟩
      · exact Or.inl (by omega)

/-- The one length that slips through as it is. -/
theorem normalise_odd {tx : CustomStreamMediaPortTx} {frame : Frame}
    (odd : frame.data.length = tx.samplesPerFrame * 2 + 1) : tx.normalise frame = .ok frame := by
  rw [normalise_eq, if_neg (by omega), if_neg (by omega)]

/-! ### Playout -/

/-- A stream port in use: both ends of its channel, and the memory the bridge's buffers are in. -/
structure Playout where
  tx : CustomStreamMediaPortTx
  portData : MediaPortData
  memory : Memory

/-- The port as it is created. -/
def Playout.new (sampleRate : UInt32) (channelsCount samplesPerFrame : ℕ) (memory : Memory) :
    Playout where
  tx := (CustomStreamMediaPort.made sampleRate channelsCount samplesPerFrame).2
  portData := (CustomStreamMediaPort.made sampleRate channelsCount samplesPerFrame).1
  memory := memory

/-- The port with another content of its channel. -/
def Playout.withFrames (port : Playout) (frames : FramesChannel) : Playout :=
  { port with portData := { port.portData with framesRx := frames } }

/-- The port with another memory. -/
def Playout.withMemory (port : Playout) (memory : Memory) : Playout := { port with memory := memory }

/-- The application sends a frame; the bridge asks for one, at some address. -/
inductive PlayoutEvent
  | send (frame : Frame)
  | getFrame (buf timestamp : ℕ)

/-- The frame that the bridge supplies for 16-bit audio. -/
def bridgeFrame (samplesPerFrame buf timestamp : ℕ) : PjmediaFrame where
  type := pjmediaFrameTypeAudio
  buf := buf
  size := samplesPerFrame * 2
  timestamp := timestamp

/-- One event. A send that is refused, or that has to wait, leaves the channel as it is. -/
def Playout.play (port : Playout) : PlayoutEvent → Outcome Playout
  | .send frame =>
    match port.tx.send frame port.portData.framesRx with
    | .ready (.ok framesTx) => pure (port.withFrames framesTx)
    | _ => pure port
  | .getFrame buf timestamp => do
    let (portData, memory, _) ← customPortGetFrame port.portData port.memory
      (bridgeFrame port.tx.samplesPerFrame buf timestamp)
    pure { port with portData := portData, memory := memory }

def Playout.playAll (port : Playout) (events : List PlayoutEvent) : Outcome Playout :=
  events.foldlM Playout.play port

theorem playAll_cons (port : Playout) (event : PlayoutEvent) (events : List PlayoutEvent) :
    port.playAll (event :: events) = port.play event >>= fun next => next.playAll events := rfl

/-- The frames that the application passes to `send`, in order. -/
def submitted (events : List PlayoutEvent) : List Frame :=
  events.filterMap fun event =>
    match event with
    | .send frame => some frame
    | .getFrame _ _ => none

/-- Both ends of the port agree on the frame length for these frames: however they are interleaved
with the bridge's requests, every callback returns. -/
def PlayoutAgrees (sampleRate : UInt32) (channelsCount samplesPerFrame : ℕ) (frames : List Frame) :
    Prop :=
  ∀ memory events, submitted events = frames →
    ∃ after, (Playout.new sampleRate channelsCount samplesPerFrame memory).playAll events = .ok after

/-- Every frame in the channel fills the buffer as the callback sees it. -/
def Playout.Fits (port : Playout) : Prop :=
  ∀ frame ∈ port.portData.framesRx.items, frame.data.length = port.tx.samplesPerFrame * 2

/-! ### One event -/

/-- A send that goes through is the send of the normalised frame. -/
theorem send_eq_ok {tx : CustomStreamMediaPortTx} {frame : Frame} {framesTx after : FramesChannel} :
    tx.send frame framesTx = .ready (.ok after) ↔
      ∃ accepted, tx.normalise frame = .ok accepted ∧ framesTx.startSend accepted = .ok after := by
  unfold CustomStreamMediaPortTx.send
  cases tx.normalise frame with
  | error error => simp
  | ok accepted =>
    simp only [Except.ok.injEq, exists_eq_left']
    cases framesTx.startSend accepted with
    | error why => cases why <;> simp
    | ok sent => simp

theorem play_send_ok {port : Playout} {frame : Frame} {framesTx : FramesChannel}
    (sent : port.tx.send frame port.portData.framesRx = .ready (.ok framesTx)) :
    port.play (.send frame) = .ok (port.withFrames framesTx) := by
  show (match port.tx.send frame port.portData.framesRx with
    | .ready (.ok framesTx) => pure (port.withFrames framesTx)
    | _ => pure port) = _
  rw [sent]
  rfl

theorem play_send_other {port : Playout} {frame : Frame}
    (unsent : ∀ framesTx, port.tx.send frame port.portData.framesRx ≠ .ready (.ok framesTx)) :
    port.play (.send frame) = .ok port := by
  show (match port.tx.send frame port.portData.framesRx with
    | .ready (.ok framesTx) => pure (port.withFrames framesTx)
    | _ => pure port) = _
  cases answer : port.tx.send frame port.portData.framesRx with
  | pending => rfl
  | ready result =>
    cases result with
    | error error => rfl
    | ok framesTx => exact absurd answer (unsent framesTx)

/-- The callback with a frame waiting: a copy of its bytes, or the end of the process. -/
theorem customPortGetFrame_some {portData : MediaPortData} {txFrame : PjmediaFrame} {frame : Frame}
    {framesRx : FramesChannel} (audio : txFrame.type = pjmediaFrameTypeAudio)
    (received : portData.framesRx.recv = .ready (some frame, framesRx)) (memory : Memory) :
    customPortGetFrame portData memory txFrame =
      if frame.data.length = txFrame.size then
        .ok ({ portData with framesRx := framesRx }, memory.write txFrame.buf (leBytes frame.data),
          { txFrame with timestamp := frame.time.asMicros % UInt64.size })
      else .error (.exit .getFrame) := by
  unfold customPortGetFrame getFrame
  rw [if_pos audio, received]
  show ffiAssertRes .getFrame
    (copyFromSlice memory txFrame.buf (txFrame.size * 2) (leBytes frame.data) >>= _) = _
  unfold copyFromSlice
  rw [length_leBytes]
  by_cases agree : frame.data.length = txFrame.size
  · rw [if_pos agree, if_pos (by rw [agree])]
    rfl
  · rw [if_neg agree, if_neg (by omega)]
    rfl

/-- The callback with no frame waiting: silence. -/
theorem customPortGetFrame_none {portData : MediaPortData} {txFrame : PjmediaFrame}
    (audio : txFrame.type = pjmediaFrameTypeAudio)
    (nothing : ∀ frame framesRx, portData.framesRx.recv ≠ .ready (some frame, framesRx))
    (memory : Memory) :
    customPortGetFrame portData memory txFrame =
      .ok (portData, memory.write txFrame.buf (List.replicate txFrame.size 0),
        { txFrame with timestamp := 0, size := 0, type := pjmediaFrameTypeNone }) := by
  unfold customPortGetFrame getFrame
  rw [if_pos audio]
  cases answer : portData.framesRx.recv with
  | pending => rfl
  | ready result =>
    obtain ⟨got, framesRx⟩ := result
    cases got with
    | none => rfl
    | some frame => exact absurd answer (nothing frame framesRx)

theorem play_getFrame (port : Playout) (buf timestamp : ℕ) :
    port.play (.getFrame buf timestamp) =
      (customPortGetFrame port.portData port.memory
        (bridgeFrame port.tx.samplesPerFrame buf timestamp)).map
          fun answer => { port with portData := answer.1, memory := answer.2.1 } := by
  show customPortGetFrame _ _ _ >>= _ = _
  cases customPortGetFrame port.portData port.memory
    (bridgeFrame port.tx.samplesPerFrame buf timestamp) <;> rfl

/-- A request that finds a frame: it is copied if it fills the buffer as the callback sees it. -/
theorem play_getFrame_some {port : Playout} {frame : Frame} {framesRx : FramesChannel}
    (received : port.portData.framesRx.recv = .ready (some frame, framesRx)) (buf timestamp : ℕ) :
    port.play (.getFrame buf timestamp) =
      if frame.data.length = port.tx.samplesPerFrame * 2 then
        .ok ((port.withFrames framesRx).withMemory (port.memory.write buf (leBytes frame.data)))
      else .error (.exit .getFrame) := by
  rw [play_getFrame, customPortGetFrame_some rfl received]
  show Except.map _ (if frame.data.length = port.tx.samplesPerFrame * 2 then _ else _) = _
  split <;> rfl

/-- A request that finds no frame. -/
theorem play_getFrame_none {port : Playout}
    (nothing : ∀ frame framesRx, port.portData.framesRx.recv ≠ .ready (some frame, framesRx))
    (buf timestamp : ℕ) :
    port.play (.getFrame buf timestamp) =
      .ok (port.withMemory
        (port.memory.write buf (List.replicate (port.tx.samplesPerFrame * 2) 0))) := by
  rw [play_getFrame, customPortGetFrame_none rfl nothing]
  rfl

/-- A step keeps the sender and the fit, if the frame it sends is not one sample too long. -/
theorem Playout.Fits.play {port : Playout} (fits : port.Fits) (event : PlayoutEvent)
    (fit : ∀ frame, event = .send frame → frame.data.length ≠ port.tx.samplesPerFrame * 2 + 1) :
    ∃ next, port.play event = .ok next ∧ next.tx = port.tx ∧ next.Fits := by
  cases event with
  | send frame =>
    by_cases goes : ∃ framesTx, port.tx.send frame port.portData.framesRx = .ready (.ok framesTx)
    · obtain ⟨framesTx, sent⟩ := goes
      obtain ⟨accepted, normalised, queued⟩ := send_eq_ok.mp sent
      have items := (Channel.trySend_eq_ok.mp (Channel.startSend_eq_ok.mp queued).2).2.2.1
      refine ⟨_, play_send_ok sent, rfl, fun other member => ?_⟩
      have found : other ∈ port.portData.framesRx.items ++ [accepted] := items ▸ member
      rcases List.mem_append.mp found with old | new
      · exact fits other old
      · rw [List.mem_singleton.mp new]
        rcases normalise_accepts normalised with good | ⟨_, odd⟩
        · exact good
        · exact absurd odd (fit frame rfl)
    · exact ⟨port, play_send_other fun framesTx sent => goes ⟨framesTx, sent⟩, rfl, fits⟩
  | getFrame buf timestamp =>
    by_cases waiting : ∃ frame framesRx, port.portData.framesRx.recv = .ready (some frame, framesRx)
    · obtain ⟨frame, framesRx, received⟩ := waiting
      rcases Channel.recv_eq_ready received with ⟨same, got, items, _, _⟩ | ⟨impossible, _⟩
      · cases got
        have agree : frame.data.length = port.tx.samplesPerFrame * 2 :=
          fits frame (by rw [items]; exact List.mem_cons_self)
        rw [play_getFrame_some received, if_pos agree]
        refine ⟨_, rfl, rfl, fun other member => ?_⟩
        exact fits other (by rw [items]; exact List.mem_cons_of_mem _ member)
      · cases impossible
    · rw [play_getFrame_none fun frame framesRx received => waiting ⟨frame, framesRx, received⟩]
      exact ⟨_, rfl, rfl, fits⟩

/-! ### Whole runs -/

/-- **Without a frame one sample too long, no callback fails.** -/
theorem playAll_of_fit {port : Playout} (fits : port.Fits) {events : List PlayoutEvent}
    (fit : ∀ frame ∈ submitted events, frame.data.length ≠ port.tx.samplesPerFrame * 2 + 1) :
    ∃ after, port.playAll events = .ok after := by
  induction events generalizing port with
  | nil => exact ⟨port, rfl⟩
  | cons event events ih =>
    obtain ⟨next, played, same, fitsNext⟩ := fits.play event fun frame isSend =>
      fit frame (by subst isSend; exact List.mem_cons_self)
    obtain ⟨after, rest⟩ := ih fitsNext fun frame member => by
      rw [same]
      refine fit frame ?_
      cases event with
      | send first => exact List.mem_cons_of_mem _ member
      | getFrame _ _ => exact member
    exact ⟨after, by rw [playAll_cons, played]; exact rest⟩

/-- Send each frame and play it at once. -/
def sendAndPlay (frames : List Frame) : List PlayoutEvent :=
  frames.flatMap fun frame => [.send frame, .getFrame 0 0]

theorem submitted_sendAndPlay (frames : List Frame) : submitted (sendAndPlay frames) = frames := by
  induction frames with
  | nil => rfl
  | cons frame frames ih =>
    show frame :: submitted (sendAndPlay frames) = frame :: frames
    rw [ih]

/-- An open port with nothing waiting. -/
structure Playout.Idle (port : Playout) : Prop where
  nothing : port.portData.framesRx.items = []
  senderOpen : port.portData.framesRx.senderOpen = true
  receiverOpen : port.portData.framesRx.receiverOpen = true

/-- Send one frame to an idle port and play it. -/
def Playout.playOne (port : Playout) (frame : Frame) : Outcome Playout :=
  port.play (.send frame) >>= fun sent => sent.play (.getFrame 0 0)

theorem playAll_sendAndPlay_cons (port : Playout) (frame : Frame) (frames : List Frame) :
    port.playAll (sendAndPlay (frame :: frames)) =
      port.playOne frame >>= fun next => next.playAll (sendAndPlay frames) := by
  show port.play (.send frame) >>= (fun sent => sent.play (.getFrame 0 0) >>= _) = _
  unfold Playout.playOne
  cases port.play (.send frame) <;> rfl

/-- A refused frame leaves the channel empty, and the bridge gets silence. -/
theorem Playout.Idle.playOne_refused {port : Playout} (idle : port.Idle) {frame : Frame}
    {error : SendError} (refused : port.tx.normalise frame = .error error) :
    ∃ next, port.playOne frame = .ok next ∧ next.tx = port.tx ∧ next.Idle := by
  have sent : port.play (.send frame) = .ok port := play_send_other fun framesTx sent => by
    obtain ⟨accepted, ok, _⟩ := send_eq_ok.mp sent
    rw [refused] at ok
    cases ok
  have nothing : ∀ got framesRx, port.portData.framesRx.recv ≠ .ready (some got, framesRx) := by
    intro got framesRx received
    rw [Channel.recv_nil idle.nothing idle.senderOpen] at received
    cases received
  unfold Playout.playOne
  rw [sent]
  exact ⟨_, play_getFrame_none nothing 0 0, rfl, idle.nothing, idle.senderOpen, idle.receiverOpen⟩

/-- An accepted frame is the one that is played. -/
theorem Playout.Idle.playOne_accepted {port : Playout} (idle : port.Idle) {frame accepted : Frame}
    (ok : port.tx.normalise frame = .ok accepted) :
    ∃ next, next.tx = port.tx ∧ next.Idle ∧
      port.playOne frame =
        if accepted.data.length = port.tx.samplesPerFrame * 2 then .ok next
        else .error (.exit .getFrame) := by
  obtain ⟨framesTx, queued, items, stillOpen⟩ := Channel.trySend_isOk idle.receiverOpen
    (by rw [idle.nothing]; exact Nat.succ_pos _) accepted
  rw [idle.nothing, List.nil_append] at items
  obtain ⟨framesRx, received, rest, receiverOpen, senderOpen⟩ := Channel.recv_cons items
  have kept : framesTx.senderOpen = true :=
    (Channel.trySend_eq_ok.mp queued).2.2.2.1.trans idle.senderOpen
  refine ⟨(port.withFrames framesRx).withMemory (port.memory.write 0 (leBytes accepted.data)), rfl,
    ⟨rest, senderOpen.trans kept, receiverOpen.trans stillOpen⟩, ?_⟩
  unfold Playout.playOne
  have started := Channel.startSend_eq_ok.mpr ⟨idle.senderOpen, queued⟩
  rw [play_send_ok (send_eq_ok.mpr ⟨accepted, ok, started⟩)]
  show (port.withFrames framesTx).play (.getFrame 0 0) = _
  exact play_getFrame_some received 0 0

/-- **A frame one sample too long ends the process** once it is played. -/
theorem sendAndPlay_exits {port : Playout} (idle : port.Idle) {frames : List Frame}
    (long : ∃ frame ∈ frames, frame.data.length = port.tx.samplesPerFrame * 2 + 1)
    (after : Playout) : port.playAll (sendAndPlay frames) ≠ .ok after := by
  induction frames generalizing port with
  | nil =>
    obtain ⟨frame, member, _⟩ := long
    cases member
  | cons frame frames ih =>
    intro ran
    rw [playAll_sendAndPlay_cons] at ran
    obtain ⟨bad, member, length⟩ := long
    cases normalised : port.tx.normalise frame with
    | error error =>
      obtain ⟨next, played, same, idleNext⟩ := idle.playOne_refused normalised
      rw [played] at ran
      refine ih idleNext ⟨bad, ?_, by rw [same]; exact length⟩ ran
      rcases List.mem_cons.mp member with rfl | later
      · rw [normalise_odd length] at normalised
        cases normalised
      · exact later
    | ok accepted =>
      obtain ⟨next, same, idleNext, played⟩ := idle.playOne_accepted normalised
      rw [played] at ran
      by_cases good : accepted.data.length = port.tx.samplesPerFrame * 2
      · rw [if_pos good] at ran
        refine ih idleNext ⟨bad, ?_, by rw [same]; exact length⟩ ran
        rcases List.mem_cons.mp member with rfl | later
        · rw [normalise_odd length] at normalised
          cases normalised
          omega
        · exact later
      · rw [if_neg good] at ran
        cases ran

/-- **The two ends agree exactly when no frame has `2 * samplesPerFrame + 1` samples.** -/
theorem playoutAgrees_iff (sampleRate : UInt32) (channelsCount samplesPerFrame : ℕ)
    (frames : List Frame) :
    PlayoutAgrees sampleRate channelsCount samplesPerFrame frames ↔
      ∀ frame ∈ frames, frame.data.length ≠ 2 * samplesPerFrame + 1 := by
  rw [Nat.mul_comm]
  constructor
  · intro agrees frame member length
    obtain ⟨after, ran⟩ := agrees (fun _ => 0) (sendAndPlay frames) (submitted_sendAndPlay frames)
    exact sendAndPlay_exits ⟨rfl, rfl, rfl⟩ ⟨frame, member, length⟩ after ran
  · rintro fit memory events rfl
    exact playAll_of_fit (fun _ member => absurd member List.not_mem_nil) fit

/-- With one sample per frame, three samples are accepted and end the process. -/
theorem not_playoutAgrees_three :
    ¬ PlayoutAgrees 1000 1 1 [⟨[0, 0, 0], ⟨0⟩⟩] := by
  intro agrees
  obtain ⟨after, ran⟩ := agrees (fun _ => 0) [.send ⟨[0, 0, 0], ⟨0⟩⟩, .getFrame 0 0] rfl
  have exits : (Playout.new 1000 1 1 fun _ => 0).playAll
      [.send ⟨[0, 0, 0], ⟨0⟩⟩, .getFrame 0 0] = .error (.exit .getFrame) := rfl
  rw [exits] at ran
  cases ran

end PjsipClient.AudioStream
