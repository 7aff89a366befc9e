/-
The stream port in the conference bridge (`pjmedia/pjmedia_port_audio_stream.rs`): its callbacks, and
what one of them does to the bridge's memory.

`CustomStreamMediaPort::new` leaves the port's `put_frame` empty, and `CustomStreamMediaPortAdded::new`
sets it to `custom_port_get_frame`. A frame that the bridge hands over is then overwritten by the next
frame of the application, which never gets to a `get_frame`.

* `staysInside_iff` — what `custom_port_get_frame` leaves of the frame it fills: it writes twice as
  many bytes as the frame has, unless the frame is empty.
* `onlyPlayoutConsumes_iff` — only `get_frame` takes frames out, and in order, exactly in the runs in
  which the bridge hands over no audio.
-/

import PjsipClient.Lib.Bytes
import PjsipClient.Pjmedia.StreamSend

namespace PjsipClient

/-! ### The bridge's memory -/

/-- A write changes nothing behind what is written. -/
theorem Memory.write_beyond (memory : Memory) (address : ℕ) {bytes : List UInt8} {offset : ℕ}
    (beyond : bytes.length ≤ offset) :
    memory.write address bytes (address + offset) = memory (address + offset) :=
  Bytes.writeBytes_of_outside (Or.inr (Nat.add_le_add_left beyond address))

/-- What was written is read. -/
theorem Memory.read_write (memory : Memory) (address : ℕ) (bytes : List UInt8) :
    (memory.write address bytes).read address bytes.length = bytes :=
  Bytes.readBytes_writeBytes memory address bytes

namespace AudioStream

open Transport Transition

/-! ### One callback -/

/-- The callback has changed no byte from `size` on, and if it took a frame out, the bytes that the
bridge reads back are all the bytes of that frame. -/
def StaysInside (portData : MediaPortData) (memory : Memory) (txFrame : PjmediaFrame) : Prop :=
  ∀ after memory' txFrame',
    customPortGetFrame portData memory txFrame = .ok (after, memory', txFrame') →
      (∀ offset, txFrame.size ≤ offset →
        memory' (txFrame.buf + offset) = memory (txFrame.buf + offset)) ∧
        ∀ frame framesRx, portData.framesRx.recv = .ready (some frame, framesRx) →
          memory'.read txFrame.buf txFrame'.size = leBytes frame.data

/-- **The callback stays inside the frame** exactly when the frame it would take out does not fill
twice the frame's size, or there is nothing to fill. -/
theorem staysInside_iff {txFrame : PjmediaFrame} (portData : MediaPortData) (memory : Memory)
    (audio : txFrame.type = pjmediaFrameTypeAudio) :
    StaysInside portData memory txFrame ↔
      ∀ frame, portData.framesRx.items.head? = some frame →
        frame.data.length = txFrame.size → txFrame.size = 0 := by
  cases answer : portData.framesRx.items with
  | nil =>
    have nothing : ∀ frame framesRx, portData.framesRx.recv ≠ .ready (some frame, framesRx) := by
      intro frame framesRx received
      rcases Channel.recv_eq_ready received with ⟨_, _, items, _⟩ | ⟨impossible, _⟩
      · rw [answer] at items
        cases items
      · cases impossible
    refine iff_of_true ?_ fun frame head => by cases head
    intro after memory' txFrame' given
    rw [customPortGetFrame_none audio nothing] at given
    cases given
    refine ⟨fun offset beyond => ?_, fun frame framesRx received =>
      absurd received (nothing frame framesRx)⟩
    exact memory.write_beyond txFrame.buf (by rwa [List.length_replicate])
  | cons frame rest =>
    obtain ⟨framesRx, received, _⟩ := Channel.recv_cons answer
    have callback := customPortGetFrame_some audio received memory
    constructor
    · intro inside other head agree
      cases head
      rw [if_pos agree] at callback
      have read := (inside _ _ _ callback).2 frame framesRx received
      have lengths := congrArg List.length read
      rw [length_leBytes, agree, Memory.read, List.length_map, List.length_range] at lengths
      change txFrame.size = _ at lengths
      omega
    · intro empty after memory' txFrame' given
      rw [callback] at given
      split at given
      case isTrue agree =>
        have zero := empty frame rfl agree
        have silent : frame.data = [] := List.length_eq_zero_iff.mp (agree.trans zero)
        cases given
        refine ⟨fun offset _ => ?_, fun other channel taken => ?_⟩
        · exact memory.write_beyond txFrame.buf (by rw [silent]; exact Nat.zero_le _)
        · rw [received] at taken
          cases taken
          change Memory.read _ _ txFrame.size = _
          rw [zero, silent]
          rfl
      case isFalse => cases given

/-- A frame that does not fit ends the process, and nothing was written. -/
theorem staysInside_refused :
    StaysInside ⟨⟨[⟨[1, 2, 3], ⟨0⟩⟩], true, true, by decide⟩, 1000, 1⟩ (fun _ => 0)
      ⟨pjmediaFrameTypeAudio, 64, 2, 0⟩ := by
  refine (staysInside_iff _ _ rfl).mpr fun frame head agree => ?_
  cases head
  cases agree

/-- A frame of two bytes is filled with the four bytes of two samples. -/
theorem not_staysInside_two :
    ¬ ∀ portData memory (txFrame : PjmediaFrame), txFrame.type = pjmediaFrameTypeAudio →
      StaysInside portData memory txFrame := by
  intro inside
  have changed := (inside ⟨⟨[⟨[1, 2], ⟨0⟩⟩], true, true, by decide⟩, 1000, 1⟩ (fun _ => 0)
    ⟨pjmediaFrameTypeAudio, 64, 2, 0⟩ rfl _ _ _ rfl).1 2 (le_refl 2)
  exact absurd changed (by decide)

/-! ### The port in the bridge -/

/-- A callback of a media port. -/
abbrev PortCallback :=
  MediaPortData → Memory → PjmediaFrame → Outcome (MediaPortData × Memory × PjmediaFrame)

/-- The parts of a `pjmedia_port` that the crate sets. -/
structure PjmediaPort where
  getFrame : Option PortCallback
  putFrame : Option PortCallback
  portData : MediaPortData

/-- The port that `CustomStreamMediaPort::new` makes. -/
def CustomStreamMediaPort.base (sampleRate : UInt32) (channelsCount samplesPerFrame : ℕ) :
    PjmediaPort where
  getFrame := some customPortGetFrame
  putFrame := none
  portData := (CustomStreamMediaPort.made sampleRate channelsCount samplesPerFrame).1

/-- What `CustomStreamMediaPortAdded::new` does to a port that the bridge has accepted. -/
def CustomStreamMediaPortAdded.new (base : PjmediaPort) : PjmediaPort :=
  { base with putFrame := some customPortGetFrame }

/-- The callback of `pjmedia_port_destroy`: the data is taken back from its pointer and dropped, and
the receiver with it. -/
def customPortOnDestroy (portData : MediaPortData) : MediaPortData :=
  { portData with framesRx := portData.framesRx.dropReceiver }

/-- What a frame becomes in the bridge: bytes and a timestamp. -/
structure Copied where
  bytes : List UInt8
  timestamp : ℕ
  deriving DecidableEq

def Copied.of (frame : Frame) : Copied := ⟨leBytes frame.data, frame.time.asMicros % UInt64.size⟩

/-- A `put_frame` callback: the frame handed to it, its bytes and the frames waiting, before and
after. -/
structure PutSeen where
  before : PjmediaFrame × List UInt8 × List Frame
  after : PjmediaFrame × List UInt8 × List Frame
  deriving DecidableEq

/-- A stream port in the bridge, with the frames that were put into its channel, what its `get_frame`
callbacks have copied, and its `put_frame` callbacks. -/
structure AddedPort where
  tx : CustomStreamMediaPortTx
  base : PjmediaPort
  enqueued : List Frame
  copied : List Copied
  puts : List PutSeen

/-- The port once it was added. -/
def AddedPort.start (sampleRate : UInt32) (channelsCount samplesPerFrame : ℕ) : AddedPort where
  tx := (CustomStreamMediaPort.made sampleRate channelsCount samplesPerFrame).2
  base := CustomStreamMediaPortAdded.new
    (CustomStreamMediaPort.base sampleRate channelsCount samplesPerFrame)
  enqueued := []
  copied := []
  puts := []

/-- The application sends a frame or pushes it through the sink; the bridge calls with a frame of its
own, in a memory of any content. -/
inductive PortEvent
  | send (frame : Frame)
  | startSend (frame : Frame)
  | getFrame (memory : Memory) (frame : PjmediaFrame)
  | putFrame (memory : Memory) (frame : PjmediaFrame)

namespace AddedPort

/-- The channel after a frame was pushed, and what was put in. -/
def push (port : AddedPort) (framesTx : FramesChannel) : AddedPort :=
  { port with
    base := { port.base with portData := { port.base.portData with framesRx := framesTx } }
    enqueued := port.enqueued ++ framesTx.items.drop port.base.portData.framesRx.items.length }

/-- A `get_frame` callback that returned: an audio frame of the bridge that found a frame waiting has
its bytes and its timestamp. -/
def got (port : AddedPort) (frame : PjmediaFrame) (portData : MediaPortData) (memory : Memory)
    (filled : PjmediaFrame) : AddedPort :=
  { port with
    base := { port.base with portData := portData }
    copied := port.copied ++
      if frame.type = pjmediaFrameTypeAudio ∧ port.base.portData.framesRx.items ≠ [] then
        [⟨memory.read frame.buf (frame.size * 2), filled.timestamp⟩]
      else [] }

/-- A `put_frame` callback that returned. -/
def put (port : AddedPort) (before : Memory) (frame : PjmediaFrame) (portData : MediaPortData)
    (after : Memory) (left : PjmediaFrame) : AddedPort :=
  { port with
    base := { port.base with portData := portData }
    puts := port.puts ++
      [⟨(frame, before.read frame.buf frame.size, port.base.portData.framesRx.items),
        (left, after.read frame.buf frame.size, portData.framesRx.items)⟩] }

/-- One event; `none` when a callback aborts. The bridge does not call an empty callback. -/
def step (port : AddedPort) : PortEvent → Option AddedPort
  | .send frame => some (port.push (pushedBySend port.tx frame port.base.portData.framesRx))
  | .startSend frame => some (port.push (pushedBySink frame port.base.portData.framesRx))
  | .getFrame memory frame =>
    match port.base.getFrame with
    | none => some port
    | some callback =>
      match callback port.base.portData memory frame with
      | .ok (portData, after, filled) => some (port.got frame portData after filled)
      | .error _ => none
  | .putFrame memory frame =>
    match port.base.putFrame with
    | none => some port
    | some callback =>
      match callback port.base.portData memory frame with
      | .ok (portData, after, left) => some (port.put memory frame portData after left)
      | .error _ => none

end AddedPort

/-- The runs of a stream port in which no callback aborts. -/
def portSystem : System AddedPort PortEvent := ⟨AddedPort.step⟩

/-- What was put in is what the `get_frame` callbacks have copied, in order, and then what waits; and
no `put_frame` callback has changed its frame or taken a frame out. -/
structure AddedPort.OnlyPlayoutConsumes (port : AddedPort) : Prop where
  inOrder : port.enqueued.map Copied.of =
    port.copied ++ port.base.portData.framesRx.items.map Copied.of
  untouched : ∀ seen ∈ port.puts, seen.after = seen.before

/-- The bridge hands over no audio. -/
def PortEvent.PutsNoAudio : PortEvent → Prop
  | .putFrame _ frame => frame.type ≠ pjmediaFrameTypeAudio
  | _ => True

/-! ### One event -/

/-- A frame that is no audio is left alone. -/
theorem customPortGetFrame_other {txFrame : PjmediaFrame} (portData : MediaPortData)
    (memory : Memory) (other : txFrame.type ≠ pjmediaFrameTypeAudio) :
    customPortGetFrame portData memory txFrame = .ok (portData, memory, txFrame) := by
  unfold customPortGetFrame getFrame
  rw [if_neg other]
  rfl

/-- `send` adds to what waits, or nothing. -/
theorem pushedBySend_items (tx : CustomStreamMediaPortTx) (frame : Frame) {framesTx : FramesChannel}
    (isOpen : framesTx.IsOpen) :
    framesTx.items <+: (pushedBySend tx frame framesTx).items ∧
      (pushedBySend tx frame framesTx).IsOpen := by
  cases normalised : tx.normalise frame with
  | error error =>
    rw [pushedBySend_refused normalised]
    exact ⟨List.prefix_rfl, isOpen⟩
  | ok accepted =>
    have same : pushedBySend tx frame framesTx = (Sending.feed accepted framesTx).2 := by
      simp [pushedBySend, Sending.poll, normalised]
    rw [same]
    rcases Sending.feed_open accepted isOpen with waits | ⟨sent, queued, flushed⟩
    · rw [waits]
      exact ⟨List.prefix_rfl, isOpen⟩
    · have stillOpen := isOpen.trySend queued
      rw [flushed, (Sending.flush_open stillOpen).1, (Channel.trySend_eq_ok.mp queued).2.2.1]
      exact ⟨List.prefix_append _ _, stillOpen⟩

theorem pushedBySink_items (frame : Frame) {framesTx : FramesChannel} (isOpen : framesTx.IsOpen) :
    framesTx.items <+: (pushedBySink frame framesTx).items ∧
      (pushedBySink frame framesTx).IsOpen := by
  rcases pushedBySink_cases frame framesTx with same | ⟨sent, queued, same⟩
  · rw [same]
    exact ⟨List.prefix_rfl, isOpen⟩
  · rw [same, (Channel.trySend_eq_ok.mp queued).2.2.1]
    exact ⟨List.prefix_append _ _, isOpen.trySend queued⟩

theorem pushedBySend_receiver (tx : CustomStreamMediaPortTx) (frame : Frame)
    (framesTx : FramesChannel) :
    (pushedBySend tx frame framesTx).receiverOpen = framesTx.receiverOpen := by
  have flushed : ∀ sent : FramesChannel, (Sending.flush sent).2 = sent := by
    intro sent
    unfold Sending.flush
    split <;> rfl
  have fed : ∀ accepted, (Sending.feed accepted framesTx).2.receiverOpen = framesTx.receiverOpen := by
    intro accepted
    unfold Sending.feed
    split
    case h_1 => rfl
    case h_2 => rfl
    case h_3 =>
      split
      case h_1 sent queued =>
        rw [flushed]
        exact (Channel.trySend_eq_ok.mp (Channel.startSend_eq_ok.mp queued).2).2.2.2.2
      case h_2 => rfl
  cases normalised : tx.normalise frame with
  | error error => rw [pushedBySend_refused normalised]
  | ok accepted =>
    have same : pushedBySend tx frame framesTx = (Sending.feed accepted framesTx).2 := by
      simp [pushedBySend, Sending.poll, normalised]
    rw [same, fed]

theorem pushedBySink_receiver (frame : Frame) (framesTx : FramesChannel) :
    (pushedBySink frame framesTx).receiverOpen = framesTx.receiverOpen := by
  rcases pushedBySink_cases frame framesTx with same | ⟨sent, queued, same⟩
  · rw [same]
  · rw [same]
    exact (Channel.trySend_eq_ok.mp queued).2.2.2.2

/-- A callback that returns keeps its receiver. -/
theorem customPortGetFrame_receiver {portData after : MediaPortData} {memory written : Memory}
    {txFrame filled : PjmediaFrame}
    (returned : customPortGetFrame portData memory txFrame = .ok (after, written, filled)) :
    after.framesRx.receiverOpen = portData.framesRx.receiverOpen := by
  by_cases audio : txFrame.type = pjmediaFrameTypeAudio
  · by_cases waiting : ∃ first framesRx, portData.framesRx.recv = .ready (some first, framesRx)
    · obtain ⟨first, framesRx, received⟩ := waiting
      rw [customPortGetFrame_some audio received] at returned
      split at returned
      · cases returned
        rcases Channel.recv_eq_ready received with ⟨_, _, _, same, _⟩ | ⟨impossible, _⟩
        · exact same
        · cases impossible
      · cases returned
    · rw [customPortGetFrame_none audio fun first framesRx received =>
        waiting ⟨first, framesRx, received⟩] at returned
      cases returned
      rfl
  · rw [customPortGetFrame_other portData memory audio] at returned
    cases returned
    rfl

namespace AddedPort

/-- A port whose `get_frame` plays, as long as the bridge hands over no audio. -/
structure Plays (port : AddedPort) : Prop where
  getFrame : port.base.getFrame = some customPortGetFrame
  putFrame : port.base.putFrame = some customPortGetFrame
  isOpen : port.base.portData.framesRx.IsOpen
  consumes : port.OnlyPlayoutConsumes

theorem Plays.push {port : AddedPort} (plays : port.Plays) {framesTx : FramesChannel}
    (pushed : port.base.portData.framesRx.items <+: framesTx.items) (isOpen : framesTx.IsOpen) :
    (port.push framesTx).Plays := by
  refine ⟨plays.getFrame, plays.putFrame, isOpen, ?_, plays.consumes.untouched⟩
  obtain ⟨added, items⟩ := pushed
  show (port.enqueued ++ framesTx.items.drop _).map Copied.of = port.copied ++ framesTx.items.map _
  rw [← items, List.drop_left, List.map_append, List.map_append, plays.consumes.inOrder,
    List.append_assoc]

/-- A `get_frame` with audio takes the first frame that waits, and copies all of it. -/
theorem Plays.getAudio {port next : AddedPort} {memory : Memory} {frame : PjmediaFrame}
    (plays : port.Plays) (audio : frame.type = pjmediaFrameTypeAudio)
    (stepped : port.step (.getFrame memory frame) = some next) : next.Plays := by
  simp only [step, plays.getFrame] at stepped
  have inOrder := plays.consumes.inOrder
  cases waiting : port.base.portData.framesRx.items with
  | nil =>
    have pending := Channel.recv_nil waiting plays.isOpen.sender
    rw [customPortGetFrame_none audio (fun _ _ received => by rw [pending] at received; cases received)]
      at stepped
    cases stepped
    refine ⟨plays.getFrame, plays.putFrame, plays.isOpen, ?_, plays.consumes.untouched⟩
    simpa [got, waiting] using inOrder
  | cons first rest =>
    obtain ⟨framesRx, received, items, receiver, sender⟩ := Channel.recv_cons waiting
    rw [customPortGetFrame_some audio received] at stepped
    by_cases agree : first.data.length = frame.size
    · rw [if_pos agree] at stepped
      cases stepped
      refine ⟨plays.getFrame, plays.putFrame, ⟨receiver.trans plays.isOpen.receiver,
        sender.trans plays.isOpen.sender⟩, ?_, plays.consumes.untouched⟩
      have bytes : (memory.write frame.buf (leBytes first.data)).read frame.buf (frame.size * 2) =
          leBytes first.data := by
        rw [← agree, ← length_leBytes]
        exact Memory.read_write _ _ _
      rw [waiting] at inOrder
      simp [got, waiting, audio, bytes, items, inOrder, Copied.of]
    · rw [if_neg agree] at stepped
      cases stepped

/-- **One event** keeps the port playing, if the bridge hands over no audio. -/
theorem Plays.step {port next : AddedPort} {event : PortEvent} (plays : port.Plays)
    (noAudio : event.PutsNoAudio) (stepped : port.step event = some next) : next.Plays := by
  cases event with
  | send frame =>
    cases stepped
    obtain ⟨pushed, isOpen⟩ := pushedBySend_items port.tx frame plays.isOpen
    exact plays.push pushed isOpen
  | startSend frame =>
    cases stepped
    obtain ⟨pushed, isOpen⟩ := pushedBySink_items frame plays.isOpen
    exact plays.push pushed isOpen
  | getFrame memory frame =>
    by_cases audio : frame.type = pjmediaFrameTypeAudio
    · exact plays.getAudio audio stepped
    · simp only [AddedPort.step, plays.getFrame, customPortGetFrame_other _ _ audio,
        Option.some.injEq] at stepped
      subst stepped
      refine ⟨plays.getFrame, plays.putFrame, plays.isOpen, ?_, plays.consumes.untouched⟩
      simpa [got, audio] using plays.consumes.inOrder
  | putFrame memory frame =>
    simp only [AddedPort.step, plays.putFrame, customPortGetFrame_other _ _ noAudio,
      Option.some.injEq] at stepped
    subst stepped
    refine ⟨plays.getFrame, plays.putFrame, plays.isOpen, plays.consumes.inOrder, ?_⟩
    intro seen member
    rcases List.mem_append.mp member with old | new
    · exact plays.consumes.untouched seen old
    · rw [List.mem_singleton.mp new]

/-- Both callbacks of the port are `custom_port_get_frame`. -/
def Wired (port : AddedPort) : Prop :=
  port.base.getFrame = some customPortGetFrame ∧ port.base.putFrame = some customPortGetFrame

/-- Some `put_frame` callback has changed its frame, or taken a frame out. -/
def Touched (port : AddedPort) : Prop := ∃ seen ∈ port.puts, seen.after ≠ seen.before

/-- **What `get_frame` does**: nothing without a callback, and otherwise what the callback returns. -/
theorem step_getFrame {port next : AddedPort} {memory : Memory} {frame : PjmediaFrame}
    (stepped : port.step (.getFrame memory frame) = some next) :
    port.base.getFrame = none ∧ next = port ∨
      ∃ callback portData after filled, port.base.getFrame = some callback ∧
        callback port.base.portData memory frame = .ok (portData, after, filled) ∧
          next = port.got frame portData after filled := by
  simp only [step] at stepped
  split at stepped
  case h_1 unset =>
    cases stepped
    exact Or.inl ⟨unset, rfl⟩
  case h_2 callback set =>
    split at stepped
    case h_1 portData after filled returned =>
      cases stepped
      exact Or.inr ⟨callback, portData, after, filled, set, returned, rfl⟩
    case h_2 => cases stepped

/-- **What `put_frame` does**, likewise. -/
theorem step_putFrame {port next : AddedPort} {memory : Memory} {frame : PjmediaFrame}
    (stepped : port.step (.putFrame memory frame) = some next) :
    port.base.putFrame = none ∧ next = port ∨
      ∃ callback portData after left, port.base.putFrame = some callback ∧
        callback port.base.portData memory frame = .ok (portData, after, left) ∧
          next = port.put memory frame portData after left := by
  simp only [step] at stepped
  split at stepped
  case h_1 unset =>
    cases stepped
    exact Or.inl ⟨unset, rfl⟩
  case h_2 callback set =>
    split at stepped
    case h_1 portData after left returned =>
      cases stepped
      exact Or.inr ⟨callback, portData, after, left, set, returned, rfl⟩
    case h_2 => cases stepped

/-- The events change neither the callbacks nor the record of the past. -/
theorem frame_of_step {port next : AddedPort} {event : PortEvent}
    (stepped : port.step event = some next) :
    next.base.getFrame = port.base.getFrame ∧ next.base.putFrame = port.base.putFrame ∧
      port.puts ⊆ next.puts := by
  cases event with
  | send frame =>
    cases stepped
    exact ⟨rfl, rfl, List.Subset.refl _⟩
  | startSend frame =>
    cases stepped
    exact ⟨rfl, rfl, List.Subset.refl _⟩
  | getFrame memory frame =>
    rcases step_getFrame stepped with ⟨_, rfl⟩ | ⟨callback, portData, after, filled, _, _, rfl⟩
    · exact ⟨rfl, rfl, List.Subset.refl _⟩
    · exact ⟨rfl, rfl, List.Subset.refl _⟩
  | putFrame memory frame =>
    rcases step_putFrame stepped with ⟨_, rfl⟩ | ⟨callback, portData, after, left, _, _, rfl⟩
    · exact ⟨rfl, rfl, List.Subset.refl _⟩
    · exact ⟨rfl, rfl, List.subset_append_left _ _⟩

/-- A port whose `put_frame` is not set yet, or is `custom_port_get_frame`. -/
def Made (port : AddedPort) : Prop :=
  port.base.getFrame = some customPortGetFrame ∧
    (port.base.putFrame = none ∨ port.base.putFrame = some customPortGetFrame)

/-- Neither end of the channel drops the receiver. -/
theorem step_receiver {port next : AddedPort} {event : PortEvent} (made : port.Made)
    (stepped : port.step event = some next) :
    next.base.portData.framesRx.receiverOpen = port.base.portData.framesRx.receiverOpen := by
  cases event with
  | send frame =>
    cases stepped
    exact pushedBySend_receiver port.tx frame port.base.portData.framesRx
  | startSend frame =>
    cases stepped
    exact pushedBySink_receiver frame port.base.portData.framesRx
  | getFrame memory frame =>
    rcases step_getFrame stepped with ⟨_, rfl⟩ | ⟨callback, portData, after, filled, set, returned, rfl⟩
    · rfl
    · cases made.1.symm.trans set
      exact customPortGetFrame_receiver returned
  | putFrame memory frame =>
    rcases step_putFrame stepped with ⟨_, rfl⟩ | ⟨callback, portData, after, left, set, returned, rfl⟩
    · rfl
    · rcases made.2 with unset | wired
      · cases unset.symm.trans set
      · cases wired.symm.trans set
        exact customPortGetFrame_receiver returned

/-- **Audio that is handed over** is replaced by a frame that waits, or by silence. -/
theorem touched_of_putAudio {port next : AddedPort} {memory : Memory} {frame : PjmediaFrame}
    (wired : port.Wired) (audio : frame.type = pjmediaFrameTypeAudio)
    (stepped : port.step (.putFrame memory frame) = some next) : next.Touched := by
  rcases step_putFrame stepped with ⟨unset, _⟩ | ⟨callback, portData, after, left, set, returned, rfl⟩
  · cases wired.2.symm.trans unset
  cases wired.2.symm.trans set
  refine ⟨_, List.mem_append_right _ (List.mem_singleton_self _), fun equal => ?_⟩
  by_cases waiting : ∃ first framesRx, port.base.portData.framesRx.recv = .ready (some first, framesRx)
  · obtain ⟨first, framesRx, received⟩ := waiting
    rw [customPortGetFrame_some audio received] at returned
    rcases Channel.recv_eq_ready received with ⟨_, same, items, _⟩ | ⟨impossible, _⟩
    · cases same
      split at returned
      · cases returned
        have shorter := congrArg (fun seen : PjmediaFrame × List UInt8 × List Frame =>
          seen.2.2.length) equal
        simp only [items, List.length_cons] at shorter
        omega
      · cases returned
    · cases impossible
  · rw [customPortGetFrame_none audio fun first framesRx received =>
      waiting ⟨first, framesRx, received⟩] at returned
    cases returned
    have silenced := congrArg (fun seen : PjmediaFrame × List UInt8 × List Frame =>
      seen.1.type) equal
    have same : pjmediaFrameTypeNone = pjmediaFrameTypeAudio := silenced.trans audio
    exact absurd same (by decide)

/-! ### Whole runs -/

theorem plays_start (sampleRate : UInt32) (channelsCount samplesPerFrame : ℕ) :
    (start sampleRate channelsCount samplesPerFrame).Plays :=
  ⟨rfl, rfl, ⟨rfl, rfl⟩, rfl, fun _ member => absurd member List.not_mem_nil⟩

end AddedPort

/-- **Only `get_frame` consumes what was sent**, in exactly the runs in which the bridge hands over no
audio. -/
theorem onlyPlayoutConsumes_iff (sampleRate : UInt32) (channelsCount samplesPerFrame : ℕ)
    {events : List PortEvent} {port : AddedPort}
    (ran : portSystem.run (.start sampleRate channelsCount samplesPerFrame) events = some port) :
    port.OnlyPlayoutConsumes ↔ ∀ event ∈ events, event.PutsNoAudio := by
  constructor
  · intro consumes event member
    by_contra handed
    cases event with
    | putFrame memory frame =>
      have audio : frame.type = pjmediaFrameTypeAudio := not_not.mp handed
      have touched : port.Touched := by
        refine portSystem.run_establishes AddedPort.Wired ?_ ?_ ?_ ⟨rfl, rfl⟩ ran member
        · intro before event after wired stepped
          obtain ⟨getFrame, putFrame, _⟩ := AddedPort.frame_of_step stepped
          exact ⟨getFrame.trans wired.1, putFrame.trans wired.2⟩
        · intro before after wired stepped
          exact AddedPort.touched_of_putAudio wired audio stepped
        · rintro before event after ⟨seen, known, changed⟩ stepped
          exact ⟨seen, (AddedPort.frame_of_step stepped).2.2 known, changed⟩
      obtain ⟨seen, known, changed⟩ := touched
      exact changed (consumes.untouched seen known)
    | _ => exact handed trivial
  · intro noAudio
    have plays : port.Plays :=
      portSystem.run_keeps_of_meets (fun _ _ _ noAudio before stepped => before.step noAudio stepped)
        (portSystem.meets_of_mem noAudio _)
        (AddedPort.plays_start sampleRate channelsCount samplesPerFrame) ran
    exact plays.consumes

/-- A frame is sent and played, and the bridge has nothing to hand over. -/
def playedOnce : List PortEvent :=
  [.send ⟨[1, 2], ⟨0⟩⟩, .putFrame (fun _ => 0) ⟨pjmediaFrameTypeNone, 32, 2, 0⟩,
    .getFrame (fun _ => 0) ⟨pjmediaFrameTypeAudio, 64, 2, 0⟩]

theorem onlyPlayoutConsumes_playedOnce :
    ∃ port, portSystem.run (.start 1000 1 1) playedOnce = some port ∧ port.OnlyPlayoutConsumes := by
  refine ⟨_, rfl, ?_⟩
  refine (onlyPlayoutConsumes_iff 1000 1 1
    (show portSystem.run (.start 1000 1 1) playedOnce = some _ from rfl)).mpr ?_
  intro event member
  simp only [playedOnce, List.mem_cons, List.not_mem_nil, or_false] at member
  rcases member with rfl | rfl | rfl
  · exact trivial
  · exact (by decide : pjmediaFrameTypeNone ≠ pjmediaFrameTypeAudio)
  · exact trivial

/-- The bridge hands over audio before the frame is played: the frame goes into the buffer of the
`put_frame` callback. -/
theorem not_onlyPlayoutConsumes_audio :
    ¬ ∀ events port, portSystem.run (.start 1000 1 1) events = some port →
      port.OnlyPlayoutConsumes := by
  intro consumes
  have inOrder := (consumes [.send ⟨[1, 2], ⟨0⟩⟩,
    .putFrame (fun _ => 0) ⟨pjmediaFrameTypeAudio, 32, 2, 0⟩] _ rfl).inOrder
  exact absurd inOrder (by decide)

end AudioStream

end PjsipClient
