/-
From the sink port to the stream port: frames that the application receives and sends on.

The bridge hands frames of its own size to `custom_port_put_frame` of the sink port, and asks
`custom_port_get_frame` of the stream port for frames of that size; what it hands to the stream port
goes to `custom_port_get_frame` as well. In between, the application receives each frame and passes it
to `send`, or forwards the sink port's `Stream` into the stream port's `Sink`.

`send` doubles a frame of the bridge's size with silence. That is the length that the callback copies,
so it goes past a buffer of the frame's size; the bridge reads the first half back, and that is the
frame. The `Sink` implementation leaves the frame as it is, and the callback fails.

* `relay_plays` — through `send`, what the sink port has let in is what the callbacks of the stream
  port have given out, in order, and then what is under way; a callback that finds a frame waiting
  returns if its buffer is twice the frame's size, and otherwise writes past it.
* `relay_by_sink_iff` — through the sink, nothing is ever played: a request is answered, with
  silence, as long as no frame waits.
-/

import PjsipClient.Pjmedia.AudioSink
import PjsipClient.Pjmedia.Samples
import PjsipClient.Pjmedia.StreamSession

namespace PjsipClient.AudioStream

open Transport Transition Machine

/-! ### Relays -/

/-- How the application sends a frame on. -/
inductive Way
  | send
  | sink
  deriving DecidableEq, Repr

/-- A sink port and a stream port, with the bytes of the frames that the sink port has let in. -/
structure Relay where
  sink : AudioSink.MediaPortData
  captured : List (List UInt8)
  /-- The frame that waits until the sink of the stream port is ready. -/
  inHand : Option Frame
  stream : Session

inductive RelayEvent
  /-- `put_frame` of the sink port. -/
  | putFrame (count : UInt32) (memory : Memory) (frame : PjmediaFrame)
  /-- The application receives a frame, to send it on. -/
  | forward
  /-- The future that sends a frame on is polled. -/
  | poll
  /-- `get_frame` of the stream port, for a frame whose buffer has `spare` bytes more than its size. -/
  | getFrame (spare : ℕ) (memory : Memory) (frame : PjmediaFrame)
  /-- `put_frame` of the stream port, with such a frame. -/
  | takeFrame (spare : ℕ) (memory : Memory) (frame : PjmediaFrame)

/-- A frame that the bridge hands over: empty, or audio of its size. -/
def BridgePuts (samplesPerFrame : ℕ) (frame : PjmediaFrame) : Prop :=
  frame.isVoid = true ∨ (frame.type = pjmediaFrameTypeAudio ∧ frame.size = samplesPerFrame * 2)

/-- A frame that the bridge passes to the stream port: audio is of its size. -/
def BridgeGets (samplesPerFrame : ℕ) (frame : PjmediaFrame) : Prop :=
  frame.type = pjmediaFrameTypeAudio → frame.size = samplesPerFrame * 2

instance (samplesPerFrame : ℕ) (frame : PjmediaFrame) :
    Decidable (BridgePuts samplesPerFrame frame) := inferInstanceAs (Decidable (_ ∨ _))

instance (samplesPerFrame : ℕ) (frame : PjmediaFrame) :
    Decidable (BridgeGets samplesPerFrame frame) := inferInstanceAs (Decidable (_ → _))

/-- The frame of a call that has not put it in yet. -/
def Session.pending (s : Session) : List Frame :=
  s.running.toList.flatMap fun call => if call.sending = .flushing then [] else [call.frame]

/-- How many bytes behind the frame's size a callback fills: a frame that it takes out is copied into
a slice of twice the size, silence takes the size. -/
def Session.overrun (s : Session) (frame : PjmediaFrame) : ℕ :=
  if frame.type = pjmediaFrameTypeAudio ∧ s.waiting ≠ [] then frame.size else 0

/-- What the bridge reads of a frame that was filled. -/
def CustomStreamMediaPortTx.readBack (tx : CustomStreamMediaPortTx) (bytes : List UInt8) :
    List UInt8 := bytes.take (tx.samplesPerFrame * 2)

namespace Relay

/-- Two new ports. -/
def start (sink : AudioSink.MediaPortData) (tx : CustomStreamMediaPortTx) : Relay where
  sink := sink
  captured := []
  inHand := none
  stream := .start sink.sampleRate sink.channelsCount.toNat tx.samplesPerFrame

/-- What `get_frame` and `put_frame` of the stream port have put into the frames that they were
given. -/
def takenOut (tx : CustomStreamMediaPortTx) (s : Relay) : List (List UInt8) :=
  s.stream.out.map fun out => tx.readBack out.copied.bytes

/-- What `get_frame` has, which the bridge reads back. -/
def played (tx : CustomStreamMediaPortTx) (s : Relay) : List (List UInt8) :=
  (s.stream.out.filter TakenOut.played).map fun out => tx.readBack out.copied.bytes

/-- What was captured and not taken out: the frames that wait in the stream port, the frame that a
call has in hand, and the frames that wait in the sink port. -/
def underWay (tx : CustomStreamMediaPortTx) (s : Relay) : List (List UInt8) :=
  (s.stream.waiting.map fun frame => tx.readBack (leBytes frame.data)) ++
    (s.stream.pending ++ s.sink.framesTx.items).map fun frame => leBytes frame.data

/-- The application has received a frame, which leaves the sink port with `framesRx`. -/
def received (s : Relay) (framesRx : Channel Frame 512) : Relay :=
  { s with sink := { s.sink with framesTx := framesRx } }

/-- It goes on with the frame. -/
def forward (tx : CustomStreamMediaPortTx) (s : Relay) (frame : Frame) : Way → Option Relay
  | .send => (s.stream.step tx (.send frame)).map fun stream => { s with stream := stream }
  | .sink => if s.inHand = none then some { s with inHand := some frame } else none

/-- A call of `send` is polled, or the sink is asked whether it is ready, and is handed the frame. -/
def poll (tx : CustomStreamMediaPortTx) (s : Relay) : Way → Option Relay
  | .send => (s.stream.step tx .poll).map fun stream => { s with stream := stream }
  | .sink => s.inHand.bind fun frame =>
    match CustomStreamMediaPortTx.pollReady s.stream.framesTx with
    | .ready (.ok ()) => (s.stream.step tx (.startSend frame)).map fun stream =>
        { s with inHand := none, stream := stream }
    | .pending => some s
    -- the ports of a relay stay, and so does the channel
    | .ready (.error _) => none

/-- A callback of the stream port; `none` when it ends the process, or goes past the buffer. -/
def callback (tx : CustomStreamMediaPortTx) (s : Relay) (spare : ℕ) (frame : PjmediaFrame)
    (called : SessionEvent) : Option Relay :=
  if BridgeGets tx.samplesPerFrame frame ∧ s.stream.overrun frame ≤ spare then
    (s.stream.step tx called).map fun stream => { s with stream := stream }
  else none

section Elapsed

variable (pjElapsedNanosec : ℕ → ℕ → UInt32)

/-- A `put_frame` callback that returned; a frame that was let in counts. -/
def captures (s : Relay) (bytes : List UInt8) (sink : AudioSink.MediaPortData) : Relay :=
  { s with
    sink := sink
    captured := s.captured ++
      if sink.framesTx.items.length = s.sink.framesTx.items.length then [] else [bytes] }

/-- One event; `none` when a callback ends the process, or goes past its buffer. -/
def step (way : Way) (tx : CustomStreamMediaPortTx) (s : Relay) : RelayEvent → Option Relay
  | .putFrame count memory frame =>
    if BridgePuts tx.samplesPerFrame frame then
      match AudioSink.customPortPutFrame pjElapsedNanosec count s.sink memory (some frame) with
      | .ok sink => some (s.captures (memory.read frame.buf frame.size) sink)
      | .error _ => none
    else none
  | .forward =>
    match s.sink.framesTx.recv with
    | .ready (some frame, framesRx) => (s.received framesRx).forward tx frame way
    | _ => none
  | .poll => s.poll tx way
  | .getFrame spare memory frame => s.callback tx spare frame (.getFrame memory frame)
  | .takeFrame spare memory frame => s.callback tx spare frame (.putFrame memory frame)

end Elapsed

end Relay

/-- The runs of a relay in which no callback ends the process or goes past its buffer. -/
def relaySystem (pjElapsedNanosec : ℕ → ℕ → UInt32) (way : Way) (tx : CustomStreamMediaPortTx) :
    System Relay RelayEvent := ⟨Relay.step pjElapsedNanosec way tx⟩

/-! ### What a frame of the bridge's size becomes -/

/-- The frame with as much silence behind it. -/
def CustomStreamMediaPortTx.filled (tx : CustomStreamMediaPortTx) (frame : Frame) : Frame where
  data := resize frame.data (tx.samplesPerFrame * 2) 0
  time := frame.time

section Sized

variable {tx : CustomStreamMediaPortTx} {frame : Frame}

theorem normalise_sized (sized : frame.data.length = tx.samplesPerFrame) :
    tx.normalise frame = .ok (tx.filled frame) := by
  rw [normalise_eq, if_neg (by omega)]
  by_cases none : tx.samplesPerFrame = 0
  · obtain ⟨data, time⟩ := frame
    obtain rfl : data = [] := List.eq_nil_of_length_eq_zero (sized.trans none)
    simp [CustomStreamMediaPortTx.filled, resize, none]
  · rw [if_pos (by omega)]
    rfl

/-- The first half of the bytes are those of the frame. -/
theorem readBack_filled (sized : frame.data.length = tx.samplesPerFrame) :
    tx.readBack (leBytes (tx.filled frame).data) = leBytes frame.data := by
  have whole : frame.data.take (tx.samplesPerFrame * 2) = frame.data :=
    List.take_of_length_le (by omega)
  have bytes : (leBytes frame.data).length = tx.samplesPerFrame * 2 := by
    rw [length_leBytes, sized]
  simp only [CustomStreamMediaPortTx.readBack, CustomStreamMediaPortTx.filled, resize, whole]
  unfold leBytes at bytes ⊢
  rw [List.flatMap_append, List.take_left' bytes]

end Sized

/-! ### The callback of the stream port -/

namespace Session

variable {s t : Session} {played : Bool} {frame : PjmediaFrame}

/-- It returns when the frames that wait have the length that it copies. -/
theorem callback_returns (played : Bool) (memory : Memory) (fits : frame.type = pjmediaFrameTypeAudio →
      ∀ first ∈ s.waiting, first.data.length = frame.size) :
    ∃ t, s.callback played memory frame = some t := by
  unfold callback
  by_cases audio : frame.type = pjmediaFrameTypeAudio
  · cases waiting : s.waiting with
    | nil =>
      rw [customPortGetFrame_none audio (recv_of_nothing waiting)]
      exact ⟨_, rfl⟩
    | cons first rest =>
      obtain ⟨framesRx, received, _⟩ := Channel.recv_cons waiting
      have agree := fits audio first (by simp [waiting])
      rw [customPortGetFrame_some audio received, if_pos agree]
      exact ⟨_, rfl⟩
  · rw [customPortGetFrame_other s.portData memory audio]
    exact ⟨_, rfl⟩

/-- Nothing behind its overrun is written. -/
theorem write_within {memory after : Memory} {portData : MediaPortData} {filled : PjmediaFrame}
    (called : customPortGetFrame s.portData memory frame = .ok (portData, after, filled)) {offset : ℕ}
    (behind : frame.size + s.overrun frame ≤ offset) :
    after (frame.buf + offset) = memory (frame.buf + offset) := by
  unfold overrun at behind
  by_cases audio : frame.type = pjmediaFrameTypeAudio
  · cases waiting : s.waiting with
    | nil =>
      rw [customPortGetFrame_none audio (recv_of_nothing waiting)] at called
      cases called
      refine memory.write_beyond frame.buf ?_
      rw [List.length_replicate]
      omega
    | cons first rest =>
      obtain ⟨framesRx, received, _⟩ := Channel.recv_cons waiting
      rw [customPortGetFrame_some audio received] at called
      rw [if_pos ⟨audio, by simp [waiting]⟩] at behind
      by_cases agree : first.data.length = frame.size
      · rw [if_pos agree] at called
        cases called
        refine memory.write_beyond frame.buf ?_
        rw [length_leBytes, agree]
        omega
      · rw [if_neg agree] at called
        cases called
  · rw [customPortGetFrame_other s.portData memory audio] at called
    cases called
    rfl

/-- When none of them has that length, it returns only where it takes none. -/
theorem nothing_of_callback {memory : Memory}
    (misfits : frame.type = pjmediaFrameTypeAudio →
      ∀ first ∈ s.waiting, first.data.length ≠ frame.size)
    (called : s.callback played memory frame = some t) :
    t = s ∧ (frame.type = pjmediaFrameTypeAudio → s.waiting = []) := by
  unfold callback at called
  by_cases audio : frame.type = pjmediaFrameTypeAudio
  · cases waiting : s.waiting with
    | nil =>
      rw [customPortGetFrame_none audio (recv_of_nothing waiting)] at called
      exact ⟨by simpa [took, waiting] using called.symm, fun _ => rfl⟩
    | cons first rest =>
      obtain ⟨framesRx, received, _⟩ := Channel.recv_cons waiting
      have disagree := misfits audio first (by simp [waiting])
      rw [customPortGetFrame_some audio received, if_neg disagree] at called
      cases called
  · rw [customPortGetFrame_other s.portData memory audio] at called
    exact ⟨by simpa [took, audio] using called.symm, fun is => absurd is audio⟩

end Session

/-! ### The sink port -/

namespace Relay

variable {tx : CustomStreamMediaPortTx} {s t : Relay}

/-- The frames hold what was captured, and each has the bridge's size. -/
structure Caught (tx : CustomStreamMediaPortTx) (captured : List (List UInt8))
    (frames : List Frame) : Prop where
  bytes : captured = frames.map fun frame => leBytes frame.data
  sized : ∀ frame ∈ frames, frame.data.length = tx.samplesPerFrame

theorem Caught.nil (tx : CustomStreamMediaPortTx) : Caught tx [] [] :=
  ⟨rfl, fun _ member => absurd member List.not_mem_nil⟩

theorem Caught.append {captured letIn : List (List UInt8)} {frames more : List Frame}
    (caught : Caught tx captured frames) (added : Caught tx letIn more) :
    Caught tx (captured ++ letIn) (frames ++ more) := by
  refine ⟨?_, fun frame member => ?_⟩
  · rw [caught.bytes, added.bytes, List.map_append]
  · rcases List.mem_append.mp member with old | new
    · exact caught.sized frame old
    · exact added.sized frame new

/-- The sink port's data, as it is used. -/
structure Rated (sink : AudioSink.MediaPortData) : Prop where
  receiver : sink.framesTx.receiverOpen = true
  sender : sink.framesTx.senderOpen = true
  rated : 0 < sink.sampleRate.toNat
  channels : 0 < sink.channelsCount.toNat

theorem Rated.received {sink : AudioSink.MediaPortData} {frame : Frame}
    {framesRx : Channel Frame 512} (rated : Rated sink)
    (received : sink.framesTx.recv = .ready (some frame, framesRx)) :
    sink.framesTx.items = frame :: framesRx.items ∧ Rated { sink with framesTx := framesRx } := by
  rcases Channel.recv_eq_ready received with ⟨_, same, items, receiver, sender⟩ | ⟨none, _⟩
  · cases same
    exact ⟨items, receiver.trans rated.receiver, sender.trans rated.sender, rated.rated,
      rated.channels⟩
  · cases none

/-- **A frame of the bridge**: the callback returns, and what it lets in is held behind the frames that
wait. -/
theorem Rated.putFrame (pjElapsedNanosec : ℕ → ℕ → UInt32) {frame : PjmediaFrame}
    (rated : Rated s.sink) (puts : BridgePuts tx.samplesPerFrame frame) (count : UInt32)
    (memory : Memory) :
    ∃ sink, AudioSink.customPortPutFrame pjElapsedNanosec count s.sink memory (some frame) =
        .ok sink ∧ Rated sink ∧ ∃ letIn more,
      (s.captures (memory.read frame.buf frame.size) sink).captured = s.captured ++ letIn ∧
        sink.framesTx.items = s.sink.framesTx.items ++ more ∧ Caught tx letIn more := by
  have nothing : ∃ letIn more,
      (s.captures (memory.read frame.buf frame.size) s.sink).captured = s.captured ++ letIn ∧
        s.sink.framesTx.items = s.sink.framesTx.items ++ more ∧ Caught tx letIn more :=
    ⟨[], [], by simp [captures], (List.append_nil _).symm, .nil tx⟩
  by_cases void : frame.isVoid = true
  · have called := AudioSink.customPortPutFrame_void pjElapsedNanosec count s.sink memory void
    exact ⟨s.sink, called, rated, nothing⟩
  · obtain ⟨audio, size⟩ := puts.resolve_left void
    have called := AudioSink.customPortPutFrame_some pjElapsedNanosec count memory
      (Bool.eq_false_iff.mpr void) audio rated.rated rated.channels
    rw [called]
    cases queued : s.sink.framesTx.trySend (.ofRaw pjElapsedNanosec memory frame s.sink.sampleRate
      s.sink.channelsCount) with
    | error why => exact ⟨s.sink, rfl, rated, nothing⟩
    | ok framesTx =>
      obtain ⟨_, _, items, sender, receiver⟩ := Channel.trySend_eq_ok.mp queued
      have length := memory.length_read frame.buf frame.size
      have bytes : leBytes (fromLeChunks (memory.read frame.buf frame.size)) =
          memory.read frame.buf frame.size :=
        leBytes_fromLeChunks (by omega)
      have sized : (fromLeChunks (memory.read frame.buf frame.size)).length = tx.samplesPerFrame := by
        rw [length_fromLeChunks, length]
        omega
      refine ⟨_, rfl, ⟨receiver.trans rated.receiver, sender.trans rated.sender, rated.rated,
        rated.channels⟩, [memory.read frame.buf frame.size], _, ?_, items, ?_, ?_⟩
      · show s.captured ++ (if framesTx.items.length = _ then [] else [_]) = _
        rw [items]
        simp
      · rw [← bytes]
        rfl
      · intro frame member
        obtain rfl := List.mem_singleton.mp member
        exact sized

/-- What a frame that is sent on does. -/
theorem forward_cases {pjElapsedNanosec : ℕ → ℕ → UInt32} {way : Way} (rated : Rated s.sink)
    (stepped : s.step pjElapsedNanosec way tx .forward = some t) :
    ∃ frame framesRx, s.sink.framesTx.items = frame :: Channel.items framesRx ∧
      Rated (s.received framesRx).sink ∧ (s.received framesRx).forward tx frame way = some t := by
  cases received : s.sink.framesTx.recv with
  | pending => simp [step, received] at stepped
  | ready result =>
    obtain ⟨got, framesRx⟩ := result
    cases got with
    | none => simp [step, received] at stepped
    | some frame =>
      obtain ⟨items, kept⟩ := rated.received received
      simp only [step, received] at stepped
      exact ⟨frame, framesRx, items, kept, stepped⟩

/-- What a callback of the stream port does. -/
theorem callback_eq_some {spare : ℕ} {frame : PjmediaFrame} {called : SessionEvent} :
    s.callback tx spare frame called = some t ↔
      (BridgeGets tx.samplesPerFrame frame ∧ s.stream.overrun frame ≤ spare) ∧
        ∃ stream, s.stream.step tx called = some stream ∧ { s with stream := stream } = t := by
  simp [callback]

/-- It takes the first frame out, or does nothing. -/
theorem took_of_called {spare : ℕ} {memory : Memory} {frame : PjmediaFrame} {called : SessionEvent}
    (either : called = .getFrame memory frame ∨ called = .putFrame memory frame)
    (returned : s.callback tx spare frame called = some t) :
    ∃ played stream, BridgeGets tx.samplesPerFrame frame ∧ s.stream.framesTx.receiverOpen = true ∧
      s.stream.callback played memory frame = some stream ∧ t = { s with stream := stream } := by
  obtain ⟨⟨gets, _⟩, stream, stepped, rfl⟩ := callback_eq_some.mp returned
  rcases either with rfl | rfl
  · obtain ⟨isOpen, answered⟩ := Option.ite_none_right_eq_some.mp stepped
    exact ⟨true, stream, gets, isOpen, answered, rfl⟩
  · obtain ⟨isOpen, answered⟩ := Option.ite_none_right_eq_some.mp stepped
    exact ⟨false, stream, gets, isOpen, answered, rfl⟩

/-- When the frames that wait have the length that it copies, it needs the room. -/
theorem callback_iff {spare : ℕ} {memory : Memory} {frame : PjmediaFrame} {called : SessionEvent}
    (either : called = .getFrame memory frame ∨ called = .putFrame memory frame)
    (gets : BridgeGets tx.samplesPerFrame frame) (isOpen : s.stream.framesTx.receiverOpen = true)
    (fits : frame.type = pjmediaFrameTypeAudio →
      ∀ first ∈ s.stream.waiting, first.data.length = frame.size) :
    (∃ t, s.callback tx spare frame called = some t) ↔ s.stream.overrun frame ≤ spare := by
  constructor
  · rintro ⟨t, returned⟩
    exact (callback_eq_some.mp returned).1.2
  · intro enough
    rcases either with rfl | rfl
    · obtain ⟨stream, answered⟩ := Session.callback_returns true memory fits
      exact ⟨_, callback_eq_some.mpr
        ⟨⟨gets, enough⟩, stream, by simp [Session.step, isOpen, answered], rfl⟩⟩
    · obtain ⟨stream, answered⟩ := Session.callback_returns false memory fits
      exact ⟨_, callback_eq_some.mpr
        ⟨⟨gets, enough⟩, stream, by simp [Session.step, isOpen, answered], rfl⟩⟩

theorem Rated.puts (pjElapsedNanosec : ℕ → ℕ → UInt32) (way : Way) {frame : PjmediaFrame}
    (rated : Rated s.sink) (puts : BridgePuts tx.samplesPerFrame frame) (count : UInt32)
    (memory : Memory) :
    ∃ t, s.step pjElapsedNanosec way tx (.putFrame count memory frame) = some t := by
  obtain ⟨sink, returned, _⟩ := rated.putFrame pjElapsedNanosec puts count memory
  exact ⟨s.captures (memory.read frame.buf frame.size) sink, by simp [step, puts, returned]⟩

/-! ### Through `send` -/

/-- The frames that were sent, what is in hand and what waits in the sink port are what was captured,
of the bridge's size; the calls have put in each frame that was sent, filled up. -/
structure Forwards (tx : CustomStreamMediaPortTx) (s : Relay) (sent : List Frame) : Prop where
  went : s.stream.went tx = sent.map tx.filled
  caught : Caught tx s.captured (sent ++ (s.stream.pending ++ s.sink.framesTx.items))

structure Kept (tx : CustomStreamMediaPortTx) (s : Relay) : Prop where
  sink : Rated s.sink
  stream : s.stream.Kept tx
  linked : s.stream.framesTx.IsOpen
  forwards : ∃ sent, s.Forwards tx sent

theorem kept_start {sink : AudioSink.MediaPortData} (rated : Rated sink)
    (empty : sink.framesTx.items = []) : (start sink tx).Kept tx := by
  refine ⟨rated, Session.kept_start tx _ _ _, ⟨rfl, rfl⟩, [], rfl, ?_⟩
  simpa [start, empty, Session.pending, Session.start] using Caught.nil tx

/-- What the sent frames were filled up to is what was copied out, and then what waits. -/
theorem Kept.copied {sent : List Frame} (kept : s.Kept tx) (forwards : s.Forwards tx sent) :
    (sent.map tx.filled).map Copied.of =
      s.stream.out.map TakenOut.copied ++ s.stream.waiting.map Copied.of := by
  have inOrder := kept.stream.accounted.inOrder
  rw [forwards.went, kept.stream.early kept.linked.receiver, List.nil_append] at inOrder
  exact inOrder

/-- **In order**: what was captured is what was taken out, and then what is under way. -/
theorem Kept.inOrder (kept : s.Kept tx) : s.captured = s.takenOut tx ++ s.underWay tx := by
  obtain ⟨sent, forwards⟩ := kept.forwards
  have back : sent.map (fun frame => leBytes frame.data) =
      s.takenOut tx ++ s.stream.waiting.map fun frame => tx.readBack (leBytes frame.data) := by
    have read := congrArg (List.map fun copied : Copied => tx.readBack copied.bytes)
      (kept.copied forwards)
    simp only [List.map_append, List.map_map] at read
    refine Eq.trans (List.map_congr_left fun frame member => ?_) read
    exact (readBack_filled (forwards.caught.sized frame (List.mem_append_left _ member))).symm
  rw [forwards.caught.bytes, List.map_append, back, underWay, List.append_assoc]

theorem played_sublist (tx : CustomStreamMediaPortTx) (s : Relay) :
    (s.played tx).Sublist (s.takenOut tx) :=
  List.filter_sublist.map _

/-- Every frame that waits in the stream port has the length that the callback copies. -/
theorem Kept.fits (kept : s.Kept tx) {frame : Frame} (waits : frame ∈ s.stream.waiting) :
    frame.data.length = tx.samplesPerFrame * 2 := by
  obtain ⟨sent, forwards⟩ := kept.forwards
  have copied : Copied.of frame ∈ (sent.map tx.filled).map Copied.of := by
    rw [kept.copied forwards]
    exact List.mem_append_right _ (List.mem_map_of_mem waits)
  obtain ⟨filled, member, same⟩ := List.mem_map.mp copied
  obtain ⟨original, _, rfl⟩ := List.mem_map.mp member
  have bytes : (leBytes (tx.filled original).data).length = (leBytes frame.data).length :=
    congrArg (fun copied : Copied => copied.bytes.length) same
  rw [length_leBytes, length_leBytes] at bytes
  have length : (tx.filled original).data.length = tx.samplesPerFrame * 2 := length_resize _ _ _
  omega

/-- A call that has sent its frame, or returned, has none in hand. -/
theorem pending_polled_sent {sending : Sending} (stream : Session) (frame : Frame)
    (sent : sending.hasSent = true) : (stream.polled frame sending).pending = [] := by
  cases sending with
  | called frame => cases sent
  | feeding frame => cases sent
  | flushing => simp [Session.polled, Session.pending]
  | returned result => simp [Session.polled, Session.pending]

theorem hasSent_of_flushed {framesTx : FramesChannel} {sending : Sending}
    (flushed : Flushed framesTx sending) : sending.hasSent = true := by
  cases flushed <;> rfl

/-- **One poll** keeps the accounts of the relay. -/
theorem Kept.poll {call : Running} {answer : Sending × FramesChannel} (kept : s.Kept tx)
    (running : s.stream.running = some call) (answered : Polled tx call s.stream.framesTx answer) :
    { s with stream := (s.stream.withFrames answer.2).polled call.frame answer.1 }.Kept tx := by
  obtain ⟨sent, forwards⟩ := kept.forwards
  have linked : ((s.stream.withFrames answer.2).polled call.frame answer.1).framesTx.IsOpen := by
    obtain ⟨_, _, _, sender, receiver⟩ := answered.went
    rw [Session.framesTx, (Session.polled_frame _ call.frame answer.1).1]
    exact ⟨receiver.trans kept.linked.receiver, sender.trans kept.linked.sender⟩
  refine ⟨kept.sink, kept.stream.poll running answered, linked, ?_⟩
  have wentBefore : s.stream.went tx = s.stream.done.flatMap (Done.went tx) ++ call.went tx := by
    simp [Session.went, running]
  have pendingBefore : s.stream.pending = if call.sending = .flushing then [] else [call.frame] := by
    simp [Session.pending, running]
  have size : call.sending ≠ .flushing → call.frame.data.length = tx.samplesPerFrame :=
    fun before => forwards.caught.sized call.frame (by simp [pendingBefore, before])
  obtain ⟨went, caught⟩ := forwards
  rw [pendingBefore] at caught
  cases answered with
  | refused first normalised =>
    have before : call.sending ≠ .flushing := by simp [first]
    rw [normalise_sized (size before)] at normalised
    cases normalised
  | feeds before normalised full =>
    refine ⟨sent, ?_, ?_⟩
    · rw [Session.went_polled, ← went, wentBefore]
      simp [Running.went, before, Sending.hasSent, Session.withFrames]
    · simpa [Session.polled, Session.pending, before] using caught
  | shut before normalised closed =>
    rcases closed with closed | closed
    · exact absurd (closed.symm.trans kept.linked.sender) (by simp)
    · exact absurd (closed.symm.trans kept.linked.receiver) (by simp)
  | sent before normalised queued flushed =>
    have accepts : tx.accepts call.frame = [tx.filled call.frame] := by
      simp [CustomStreamMediaPortTx.accepts, normalise_sized (size before)]
    refine ⟨sent ++ [call.frame], ?_, ?_⟩
    · rw [Session.went_polled, List.map_append, ← went, wentBefore]
      simp [Running.went, before, hasSent_of_flushed flushed, accepts, Session.withFrames]
    · rw [pending_polled_sent _ _ (hasSent_of_flushed flushed)]
      simpa [before] using caught
  | flushes before flushed =>
    refine ⟨sent, ?_, ?_⟩
    · rw [Session.went_polled, ← went, wentBefore]
      simp [Running.went, before, hasSent_of_flushed flushed, Session.withFrames]
    · rw [pending_polled_sent _ _ (hasSent_of_flushed flushed)]
      simpa [before] using caught

/-- **A callback of the stream port** returns exactly if its buffer has the room. -/
theorem Kept.callback_iff {spare : ℕ} {memory : Memory} {frame : PjmediaFrame}
    {called : SessionEvent} (kept : s.Kept tx)
    (either : called = .getFrame memory frame ∨ called = .putFrame memory frame)
    (gets : BridgeGets tx.samplesPerFrame frame) :
    (∃ t, s.callback tx spare frame called = some t) ↔
      (frame.type = pjmediaFrameTypeAudio → s.stream.waiting ≠ [] → frame.size ≤ spare) := by
  rw [Relay.callback_iff either gets kept.linked.receiver fun audio first waits =>
    (kept.fits waits).trans (gets audio).symm]
  unfold Session.overrun
  by_cases fills : frame.type = pjmediaFrameTypeAudio ∧ s.stream.waiting ≠ []
  · rw [if_pos fills]
    exact ⟨fun enough _ _ => enough, fun enough => enough fills.1 fills.2⟩
  · rw [if_neg fills]
    exact ⟨fun _ audio waits => absurd ⟨audio, waits⟩ fills, fun _ => Nat.zero_le spare⟩

/-- What a callback of the stream port leaves. -/
theorem Kept.called {spare : ℕ} {memory : Memory} {frame : PjmediaFrame} {called : SessionEvent}
    (kept : s.Kept tx) (either : called = .getFrame memory frame ∨ called = .putFrame memory frame)
    (returned : s.callback tx spare frame called = some t) : t.Kept tx := by
  obtain ⟨played, stream, _, isOpen, answered, rfl⟩ := took_of_called either returned
  have taken := Session.took_of_callback answered
  have streamKept := kept.stream.took isOpen taken
  obtain ⟨sent, forwards⟩ := kept.forwards
  cases taken with
  | nothing => exact kept
  | frame items receiver sender =>
    exact ⟨kept.sink, streamKept,
      ⟨receiver.trans kept.linked.receiver, sender.trans kept.linked.sender⟩,
      sent, forwards.went, forwards.caught⟩

/-- **One event.** -/
theorem Kept.step {pjElapsedNanosec : ℕ → ℕ → UInt32} {e : RelayEvent} (kept : s.Kept tx)
    (stepped : s.step pjElapsedNanosec .send tx e = some t) : t.Kept tx := by
  cases e with
  | putFrame count memory frame =>
    obtain ⟨puts, called⟩ := Option.ite_none_right_eq_some.mp stepped
    obtain ⟨sink, returned, rated, letIn, more, same, items, added⟩ :=
      kept.sink.putFrame pjElapsedNanosec puts count memory
    rw [returned] at called
    cases called
    obtain ⟨sent, went, caught⟩ := kept.forwards
    refine ⟨rated, kept.stream, kept.linked, sent, went, ?_⟩
    rw [same]
    simpa [captures, items] using caught.append added
  | forward =>
    obtain ⟨frame, framesRx, items, rated, forwarded⟩ := forward_cases kept.sink stepped
    obtain ⟨stream, called, rfl⟩ := Option.map_eq_some_iff.mp forwarded
    have streamKept := kept.stream.step called
    obtain ⟨free, given⟩ := Option.ite_none_right_eq_some.mp called
    have idle : s.stream.running = none := free
    cases given
    obtain ⟨sent, went, caught⟩ := kept.forwards
    have pending : s.stream.pending = [] := by simp [Session.pending, idle]
    rw [pending, items] at caught
    refine ⟨rated, streamKept, kept.linked, sent, ?_, ?_⟩
    · rw [← went]
      simp [received, Session.went, idle, Running.went]
    · simpa [received, Session.pending] using caught
  | poll =>
    obtain ⟨stream, called, rfl⟩ := Option.map_eq_some_iff.mp stepped
    obtain ⟨call, running, given⟩ := Option.bind_eq_some_iff.mp called
    obtain ⟨answer, answered, polled⟩ := (kept.stream.stands call running).poll s.stream.framesTx
    rw [answered] at given
    cases given
    exact kept.poll running polled
  | getFrame spare memory frame => exact kept.called (Or.inl rfl) stepped
  | takeFrame spare memory frame => exact kept.called (Or.inr rfl) stepped

/-! ### Through the sink -/

/-- Nothing was played: what was captured waits, in the stream port, in hand and in the sink port. -/
structure BySink (tx : CustomStreamMediaPortTx) (s : Relay) : Prop where
  sink : Rated s.sink
  linked : s.stream.framesTx.IsOpen
  idle : s.stream.running = none
  nothing : s.stream.out = []
  caught : Caught tx s.captured (s.stream.waiting ++ (s.inHand.toList ++ s.sink.framesTx.items))

theorem bySink_start {sink : AudioSink.MediaPortData} (rated : Rated sink)
    (empty : sink.framesTx.items = []) : (start sink tx).BySink tx := by
  refine ⟨rated, ⟨rfl, rfl⟩, rfl, rfl, ?_⟩
  simpa [start, empty, Session.waiting, Session.framesTx, Session.start, CustomStreamMediaPort.made,
    Channel.new] using Caught.nil tx

/-- A frame of the bridge's size is shorter than what the callback copies. -/
theorem BySink.misfits (bySink : s.BySink tx) (sampled : 0 < tx.samplesPerFrame)
    {frame : PjmediaFrame} (size : frame.size = tx.samplesPerFrame * 2) :
    ∀ first ∈ s.stream.waiting, first.data.length ≠ frame.size := by
  intro first waits
  have sized := bySink.caught.sized first (List.mem_append_left _ waits)
  omega

/-- A sink with room is ready, and accepts the frame. -/
theorem pushed_of_room {framesTx : FramesChannel} (frame : Frame) (isOpen : framesTx.IsOpen)
    (room : framesTx.items.length < 513) :
    CustomStreamMediaPortTx.pollReady framesTx = .ready (.ok ()) ∧
      ∃ after, pushed frame framesTx = (true, after) ∧ after.items = framesTx.items ++ [frame] ∧
        after.IsOpen := by
  refine ⟨Channel.pollReady_room isOpen room, ?_⟩
  obtain ⟨after, queued, items, _⟩ := Channel.trySend_isOk isOpen.receiver room frame
  refine ⟨after, ?_, items, isOpen.trySend queued⟩
  simp [pushed, CustomStreamMediaPortTx.startSend, isOpen.startSend, queued]

/-- **One poll** of the sink hands it the frame, unless it is full. -/
theorem BySink.poll (bySink : s.BySink tx) (polled : s.poll tx .sink = some t) : t.BySink tx := by
  obtain ⟨frame, inHand, answered⟩ := Option.bind_eq_some_iff.mp polled
  by_cases room : s.stream.framesTx.items.length < 513
  · obtain ⟨ready, after, accepted, waits, linked⟩ := pushed_of_room frame bySink.linked room
    simp only [ready, Session.step, bySink.idle, accepted, if_true, Option.map_some,
      Option.some.injEq] at answered
    obtain rfl := answered
    have all : after.items ++ s.sink.framesTx.items =
        s.stream.waiting ++ (s.inHand.toList ++ s.sink.framesTx.items) := by
      rw [waits, inHand, List.append_assoc]
      rfl
    have caught := bySink.caught
    rw [← all] at caught
    exact ⟨bySink.sink, linked, bySink.idle, bySink.nothing, caught⟩
  · have pending : CustomStreamMediaPortTx.pollReady s.stream.framesTx = .pending :=
      Channel.pollReady_full bySink.linked room
    simp only [pending, Option.some.injEq] at answered
    exact answered ▸ bySink

/-- What a callback of the stream port leaves: everything. -/
theorem BySink.called {spare : ℕ} {memory : Memory} {frame : PjmediaFrame} {called : SessionEvent}
    (bySink : s.BySink tx) (sampled : 0 < tx.samplesPerFrame)
    (either : called = .getFrame memory frame ∨ called = .putFrame memory frame)
    (returned : s.callback tx spare frame called = some t) : t.BySink tx := by
  obtain ⟨played, stream, gets, _, answered, rfl⟩ := took_of_called either returned
  obtain ⟨rfl, _⟩ := Session.nothing_of_callback
    (fun audio => bySink.misfits sampled (gets audio)) answered
  exact bySink

/-- **One event.** -/
theorem BySink.step {pjElapsedNanosec : ℕ → ℕ → UInt32} {e : RelayEvent} (bySink : s.BySink tx)
    (sampled : 0 < tx.samplesPerFrame) (stepped : s.step pjElapsedNanosec .sink tx e = some t) :
    t.BySink tx := by
  cases e with
  | putFrame count memory frame =>
    obtain ⟨puts, called⟩ := Option.ite_none_right_eq_some.mp stepped
    obtain ⟨sink, returned, rated, letIn, more, same, items, added⟩ :=
      bySink.sink.putFrame pjElapsedNanosec puts count memory
    rw [returned] at called
    cases called
    refine ⟨rated, bySink.linked, bySink.idle, bySink.nothing, ?_⟩
    rw [same]
    simpa [captures, items] using bySink.caught.append added
  | forward =>
    obtain ⟨frame, framesRx, items, rated, forwarded⟩ := forward_cases bySink.sink stepped
    obtain ⟨free, given⟩ := Option.ite_none_right_eq_some.mp forwarded
    cases given
    have all : s.stream.waiting ++ (some frame).toList ++ framesRx.items =
        s.stream.waiting ++ (s.inHand.toList ++ s.sink.framesTx.items) := by
      rw [show s.inHand = none from free, items, List.append_assoc]
      rfl
    have caught := bySink.caught
    rw [← all, List.append_assoc] at caught
    exact ⟨rated, bySink.linked, bySink.idle, bySink.nothing, caught⟩
  | poll => exact bySink.poll stepped
  | getFrame spare memory frame => exact bySink.called sampled (Or.inl rfl) stepped
  | takeFrame spare memory frame => exact bySink.called sampled (Or.inr rfl) stepped

/-- **A request of the bridge** is answered exactly while no frame waits. -/
theorem BySink.gets_iff (pjElapsedNanosec : ℕ → ℕ → UInt32) (bySink : s.BySink tx)
    (sampled : 0 < tx.samplesPerFrame) (spare : ℕ) (memory : Memory) {frame : PjmediaFrame}
    (audio : frame.type = pjmediaFrameTypeAudio) (size : frame.size = tx.samplesPerFrame * 2) :
    (∃ t, s.step pjElapsedNanosec .sink tx (.getFrame spare memory frame) = some t) ↔
      s.stream.waiting = [] := by
  constructor
  · rintro ⟨t, stepped⟩
    obtain ⟨played, stream, _, _, returned, _⟩ := took_of_called (Or.inl rfl) stepped
    exact (Session.nothing_of_callback (fun _ => bySink.misfits sampled size) returned).2 audio
  · intro nothing
    have fits : frame.type = pjmediaFrameTypeAudio →
        ∀ first ∈ s.stream.waiting, first.data.length = frame.size :=
      fun _ first waits => by simp [nothing] at waits
    refine (callback_iff (Or.inl rfl) (fun _ => size) bySink.linked.receiver fits).mpr ?_
    simp [Session.overrun, nothing]

end Relay

/-- **Captured and played**: over any run in which the application passes on what it receives through
`send`, what the sink port has let in is what the callbacks of the stream port have given out, in
order, and then what is under way; what was played is in that order. The callback of the sink port
returns, and so does one of the stream port, exactly if no frame waits or its buffer is twice the
frame's size. -/
theorem relay_plays (pjElapsedNanosec : ℕ → ℕ → UInt32) {profile : Profile} {sampleRate : UInt32}
    {channelsCount : UInt64} {tx : CustomStreamMediaPortTx} {portInfo : PjStatus}
    {portData : AudioSink.MediaPortData} {es : List RelayEvent} {s : Relay}
    (created : AudioSink.CustomSinkMediaPort.new profile sampleRate channelsCount
      (.ofNat tx.samplesPerFrame) portInfo = .ok (.ok portData))
    (ran : (relaySystem pjElapsedNanosec .send tx).run (.start portData tx) es = some s) :
    s.captured = s.takenOut tx ++ s.underWay tx ∧ (s.played tx).Sublist (s.takenOut tx) ∧
      (∀ count memory frame, BridgePuts tx.samplesPerFrame frame →
        ∃ t, s.step pjElapsedNanosec .send tx (.putFrame count memory frame) = some t) ∧
      ∀ spare memory frame e, BridgeGets tx.samplesPerFrame frame →
        (e = .getFrame spare memory frame ∨ e = .takeFrame spare memory frame) →
        ((∃ t, s.step pjElapsedNanosec .send tx e = some t) ↔
          (frame.type = pjmediaFrameTypeAudio → s.stream.waiting ≠ [] → frame.size ≤ spare)) := by
  obtain ⟨rfl, rated, channels⟩ := AudioSink.new_rated created
  have kept : s.Kept tx :=
    (relaySystem pjElapsedNanosec .send tx).run_keeps
      (fun _ _ _ before stepped => before.step stepped)
      (Relay.kept_start ⟨rfl, rfl, rated, channels⟩ rfl) ran
  refine ⟨kept.inOrder, s.played_sublist tx, fun count memory frame puts => ?_, ?_⟩
  · exact kept.sink.puts pjElapsedNanosec .send puts count memory
  · rintro spare memory frame e gets (rfl | rfl)
    · exact kept.callback_iff (Or.inl rfl) gets
    · exact kept.callback_iff (Or.inr rfl) gets

/-- Frames of one sample, a thousand times a second. -/
def oneSample : CustomStreamMediaPortTx := ⟨16, 1, rfl⟩

theorem oneSample_created :
    AudioSink.CustomSinkMediaPort.new .checked 1000 1 (.ofNat oneSample.samplesPerFrame) 0 =
      .ok (.ok ⟨Channel.new _ 512, 1000, 1⟩) := rfl

/-- A frame is captured, sent on and played, another is taken out by `put_frame`, and a third waits in
the sink port. -/
def capturedAndPlayed : List RelayEvent :=
  [.putFrame 0 (fun _ => 7) ⟨pjmediaFrameTypeAudio, 16, 2, 0⟩, .forward, .poll,
    .putFrame 1 (fun _ => 9) ⟨pjmediaFrameTypeAudio, 16, 2, 1⟩,
    .getFrame 2 (fun _ => 0) ⟨pjmediaFrameTypeAudio, 64, 2, 0⟩, .forward, .poll,
    .takeFrame 2 (fun _ => 0) ⟨pjmediaFrameTypeAudio, 64, 2, 0⟩,
    .putFrame 2 (fun _ => 5) ⟨pjmediaFrameTypeAudio, 16, 2, 2⟩]

theorem relay_plays_capturedAndPlayed :
    ∃ s, (relaySystem (fun _ elapsed => .ofNat elapsed) .send oneSample).run
        (.start ⟨Channel.new _ 512, 1000, 1⟩ oneSample) capturedAndPlayed = some s ∧
      s.captured = s.takenOut oneSample ++ s.underWay oneSample :=
  ⟨_, rfl, (relay_plays (fun _ elapsed => .ofNat elapsed) oneSample_created
    (rfl : (relaySystem (fun _ elapsed => .ofNat elapsed) .send oneSample).run
      (.start ⟨Channel.new _ 512, 1000, 1⟩ oneSample) capturedAndPlayed = some _)).1⟩

/-- **A relay through the sink**: over any run nothing is played, everything that was captured waits,
in the stream port, in hand or in the sink port, and a request of the bridge for audio is answered
exactly while no frame waits in the stream port. -/
theorem relay_by_sink_iff (pjElapsedNanosec : ℕ → ℕ → UInt32) {profile : Profile}
    {sampleRate : UInt32} {channelsCount : UInt64} {tx : CustomStreamMediaPortTx}
    {portInfo : PjStatus} {portData : AudioSink.MediaPortData} {es : List RelayEvent} {s : Relay}
    (created : AudioSink.CustomSinkMediaPort.new profile sampleRate channelsCount
      (.ofNat tx.samplesPerFrame) portInfo = .ok (.ok portData))
    (ran : (relaySystem pjElapsedNanosec .sink tx).run (.start portData tx) es = some s) :
    s.stream.out = [] ∧
      s.captured =
        (s.stream.waiting ++ (s.inHand.toList ++ s.sink.framesTx.items)).map
          (fun frame => leBytes frame.data) ∧
      ∀ spare memory frame, frame.type = pjmediaFrameTypeAudio →
        frame.size = tx.samplesPerFrame * 2 →
        ((∃ t, s.step pjElapsedNanosec .sink tx (.getFrame spare memory frame) = some t) ↔
          s.stream.waiting = []) := by
  have sampled : 0 < tx.samplesPerFrame := by
    have whole := AudioSink.new_hasSample created
    rw [UInt64.toNat_ofNat'] at whole
    exact Nat.pos_of_ne_zero fun none => by simp [none] at whole
  obtain ⟨rfl, rated, channels⟩ := AudioSink.new_rated created
  have bySink : s.BySink tx :=
    (relaySystem pjElapsedNanosec .sink tx).run_keeps
      (fun _ _ _ before stepped => before.step sampled stepped)
      (Relay.bySink_start ⟨rfl, rfl, rated, channels⟩ rfl) ran
  exact ⟨bySink.nothing, bySink.caught.bytes, fun spare memory _ audio size =>
    bySink.gets_iff pjElapsedNanosec sampled spare memory audio size⟩

/-- A frame is captured and pushed through the sink. -/
def pushedOn : List RelayEvent :=
  [.putFrame 0 (fun _ => 7) ⟨pjmediaFrameTypeAudio, 16, 2, 0⟩, .forward, .poll]

/-- The request that follows ends the process. -/
theorem relay_by_sink_iff_pushedOn :
    ∃ s, (relaySystem (fun _ elapsed => .ofNat elapsed) .sink oneSample).run
        (.start ⟨Channel.new _ 512, 1000, 1⟩ oneSample) pushedOn = some s ∧
      ((∃ t, s.step (fun _ elapsed => .ofNat elapsed) .sink oneSample
          (.getFrame 0 (fun _ => 0) ⟨pjmediaFrameTypeAudio, 64, 2, 0⟩) = some t) ↔
        s.stream.waiting = []) :=
  ⟨_, rfl, (relay_by_sink_iff (fun _ elapsed => .ofNat elapsed) oneSample_created
    (rfl : (relaySystem (fun _ elapsed => .ofNat elapsed) .sink oneSample).run
      (.start ⟨Channel.new _ 512, 1000, 1⟩ oneSample) pushedOn = some _)).2.2 0 _
    ⟨pjmediaFrameTypeAudio, 64, 2, 0⟩ rfl rfl⟩

end PjsipClient.AudioStream
