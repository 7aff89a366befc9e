/-
A stream port over its whole life (`pjmedia/pjmedia_port_audio_stream.rs`), with all that its sender can
do: calls of `send` that are polled, finished or cancelled, frames pushed through the `Sink`
implementation, and `poll_close`; and with the bridge's callbacks up to `custom_port_on_destroy`.

The sender is borrowed while a `send` is under way, so a session has one call at a time. A sender that
was closed answers as if nobody received.

* `session_accounts` — what went in, by the answers that the application got, is what the callbacks
  have taken out, in order, then what was lost with the port or waits. A call that failed put nothing
  in; a cancelled one put its frame in if it was waiting for the flush.
* `send_returns` — two frames taken out, or the end of the port, and one more poll are enough for a
  call of `send` to return.
-/

import PjsipClient.Pjmedia.StreamPort

namespace PjsipClient.AudioStream

open Transport Transition

/-! ### Sessions -/

/-- A call of `send` that has not returned. -/
structure Running where
  frame : Frame
  sending : Sending
  deriving DecidableEq

/-- A call of the sender that is over. -/
inductive Done
  | send (frame : Frame) (result : Except SendError Unit)
  /-- The future was dropped when it had come so far. -/
  | cancelled (call : Running)
  | startSend (frame : Frame) (accepted : Bool)
  deriving DecidableEq

/-- What a callback took out: by `get_frame` or by `put_frame`, and what it wrote into its frame. -/
structure TakenOut where
  played : Bool
  copied : Copied
  deriving DecidableEq

/-- A stream port, the calls of its sender, and what has become of the frames. -/
structure Session where
  portData : MediaPortData
  running : Option Running
  done : List Done
  out : List TakenOut
  /-- The frames that waited when the port was destroyed. -/
  lost : List Frame

inductive SessionEvent
  | send (frame : Frame)
  | poll
  /-- The future of the running `send` is dropped. -/
  | cancel
  | startSend (frame : Frame)
  /-- The sender is closed, or dropped. -/
  | pollClose
  | getFrame (memory : Memory) (frame : PjmediaFrame)
  | putFrame (memory : Memory) (frame : PjmediaFrame)
  | onDestroy

/-- `start_send`, with whether it accepts the frame. -/
def pushed (frame : Frame) (framesTx : FramesChannel) : Bool × FramesChannel :=
  match CustomStreamMediaPortTx.startSend frame framesTx with
  | .ok sent => (true, sent)
  | .error _ => (false, framesTx)

namespace Session

/-- A new port with its sender. -/
def start (sampleRate : UInt32) (channelsCount samplesPerFrame : ℕ) : Session where
  portData := (CustomStreamMediaPort.made sampleRate channelsCount samplesPerFrame).1
  running := none
  done := []
  out := []
  lost := []

def framesTx (s : Session) : FramesChannel := s.portData.framesRx

def waiting (s : Session) : List Frame := s.framesTx.items

def withFrames (s : Session) (framesTx : FramesChannel) : Session :=
  { s with portData := { s.portData with framesRx := framesTx } }

/-- The future has come this far. -/
def polled (s : Session) (frame : Frame) : Sending → Session
  | .returned result => { s with running := none, done := s.done ++ [.send frame result] }
  | sending => { s with running := some ⟨frame, sending⟩ }

/-- The future was dropped. -/
def cancelled (s : Session) (call : Running) : Session :=
  { s with running := none, done := s.done ++ [.cancelled call] }

/-- A push through the sink was answered. -/
def answered (s : Session) (frame : Frame) (answer : Bool × FramesChannel) : Session :=
  { s.withFrames answer.2 with done := s.done ++ [.startSend frame answer.1] }

/-- A callback that returned: an audio frame that found a frame waiting has its bytes and its
timestamp. -/
def took (s : Session) (played : Bool) (frame : PjmediaFrame) (portData : MediaPortData)
    (memory : Memory) (filled : PjmediaFrame) : Session :=
  { s with
    portData := portData
    out := s.out ++
      if frame.type = pjmediaFrameTypeAudio ∧ s.waiting ≠ [] then
        [⟨played, ⟨memory.read frame.buf (frame.size * 2), filled.timestamp⟩⟩]
      else [] }

/-- The bridge calls `custom_port_get_frame`, which is both callbacks of the port; `none` when it ends
the process. -/
def callback (s : Session) (played : Bool) (memory : Memory) (frame : PjmediaFrame) :
    Option Session :=
  match customPortGetFrame s.portData memory frame with
  | .ok (portData, after, filled) => some (s.took played frame portData after filled)
  | .error _ => none

def step (tx : CustomStreamMediaPortTx) (s : Session) : SessionEvent → Option Session
  | .send frame =>
    if s.running = none then some { s with running := some ⟨frame, .called frame⟩ } else none
  | .poll => s.running.bind fun call =>
      (call.sending.poll tx s.framesTx).map fun (sending, framesTx) =>
        (s.withFrames framesTx).polled call.frame sending
  | .cancel => s.running.map s.cancelled
  | .startSend frame =>
    if s.running = none then some (s.answered frame (pushed frame s.framesTx)) else none
  | .pollClose => if s.running = none then some (s.withFrames s.framesTx.dropSender) else none
  | .getFrame memory frame =>
    if s.framesTx.receiverOpen then s.callback true memory frame else none
  | .putFrame memory frame =>
    if s.framesTx.receiverOpen then s.callback false memory frame else none
  | .onDestroy =>
    if s.framesTx.receiverOpen then
      some { s with portData := customPortOnDestroy s.portData, lost := s.waiting }
    else none

end Session

/-- The runs of a stream port in which no callback ends the process. -/
def sessionSystem (tx : CustomStreamMediaPortTx) : System Session SessionEvent := ⟨Session.step tx⟩

/-! ### What went in -/

/-- What `send` puts in of a frame. -/
def CustomStreamMediaPortTx.accepts (tx : CustomStreamMediaPortTx) (frame : Frame) : List Frame :=
  match tx.normalise frame with
  | .ok accepted => [accepted]
  | .error _ => []

/-- What a call of `send` has put in so far. -/
def Running.went (tx : CustomStreamMediaPortTx) (call : Running) : List Frame :=
  if call.sending = .flushing then tx.accepts call.frame else []

/-- What a call that is over has put in, by the answer that it gave. -/
def Done.went (tx : CustomStreamMediaPortTx) : Done → List Frame
  | send frame (.ok _) => tx.accepts frame
  | send _ (.error _) => []
  | cancelled call => call.went tx
  | startSend frame accepted => if accepted then [frame] else []

/-- What went into the channel, by the answers of the calls. -/
def Session.went (tx : CustomStreamMediaPortTx) (s : Session) : List Frame :=
  s.done.flatMap (Done.went tx) ++ s.running.toList.flatMap (Running.went tx)

/-- The sender was closed, or the port was destroyed. -/
def Session.Shut (s : Session) : Prop :=
  s.framesTx.senderOpen = false ∨ s.framesTx.receiverOpen = false

/-- What went in is what was taken out, in order, and then what was lost with the port or waits; and a
`send` fails for a frame that is too long, and when the channel is shut. -/
structure Session.Accounted (tx : CustomStreamMediaPortTx) (s : Session) : Prop where
  inOrder : (s.went tx).map Copied.of =
    s.out.map TakenOut.copied ++ (s.lost ++ s.waiting).map Copied.of
  refused : ∀ frame error, .send frame (.error error) ∈ s.done →
    tx.normalise frame = .error error ∨ error = .sendErr ∧ s.Shut

/-! ### One poll -/

/-- Where a call of `send` can stand. -/
inductive Running.Stands (tx : CustomStreamMediaPortTx) (call : Running) : Prop
  | called (was : call.sending = .called call.frame)
  | feeding {accepted : Frame} (was : call.sending = .feeding accepted)
      (normalised : tx.normalise call.frame = .ok accepted)
  | flushing {accepted : Frame} (was : call.sending = .flushing)
      (normalised : tx.normalise call.frame = .ok accepted)

/-- An open channel holds all it can. -/
structure Full (framesTx : FramesChannel) : Prop where
  isOpen : framesTx.IsOpen
  full : framesTx.items.length = 513

/-- What a flush answers. -/
inductive Flushed (framesTx : FramesChannel) : Sending → Prop
  | waits (full : Full framesTx) : Flushed framesTx .flushing
  | returned : Flushed framesTx (.returned (.ok ()))

/-- What a poll of the future does. -/
inductive Polled (tx : CustomStreamMediaPortTx) (call : Running) (framesTx : FramesChannel) :
    Sending × FramesChannel → Prop
  | refused {error : SendError} (first : call.sending = .called call.frame)
      (normalised : tx.normalise call.frame = .error error) :
      Polled tx call framesTx (.returned (.error error), framesTx)
  | feeds {accepted : Frame} (before : call.sending ≠ .flushing)
      (normalised : tx.normalise call.frame = .ok accepted) (full : Full framesTx) :
      Polled tx call framesTx (.feeding accepted, framesTx)
  | shut {accepted : Frame} (before : call.sending ≠ .flushing)
      (normalised : tx.normalise call.frame = .ok accepted)
      (closed : framesTx.senderOpen = false ∨ framesTx.receiverOpen = false) :
      Polled tx call framesTx (.returned (.error .sendErr), framesTx)
  | sent {accepted : Frame} {after : FramesChannel} {sending : Sending}
      (before : call.sending ≠ .flushing) (normalised : tx.normalise call.frame = .ok accepted)
      (queued : framesTx.trySend accepted = .ok after) (flushed : Flushed after sending) :
      Polled tx call framesTx (sending, after)
  | flushes {sending : Sending} (before : call.sending = .flushing)
      (flushed : Flushed framesTx sending) :
      Polled tx call framesTx (sending, framesTx)

theorem full_of_no_room {framesTx : FramesChannel} (isOpen : framesTx.IsOpen)
    (room : ¬ framesTx.items.length < 513) : Full framesTx :=
  ⟨isOpen, le_antisymm framesTx.bounded (not_lt.mp room)⟩

/-- A flush changes nothing, and waits or returns. -/
theorem Sending.flush_flushed (framesTx : FramesChannel) :
    ∃ sending, Sending.flush framesTx = (sending, framesTx) ∧ Flushed framesTx sending := by
  by_cases isOpen : framesTx.IsOpen
  · by_cases room : framesTx.items.length < 513
    · exact ⟨_, by simp [flush, Channel.pollFlush, Channel.pollReady_room isOpen room], .returned⟩
    · exact ⟨_, by simp [flush, Channel.pollFlush, Channel.pollReady_full isOpen room],
        .waits (full_of_no_room isOpen room)⟩
  · exact ⟨_, Sending.flush_shut isOpen, .returned⟩

theorem polled_of_feed {tx : CustomStreamMediaPortTx} {call : Running} {accepted : Frame}
    (framesTx : FramesChannel) (before : call.sending ≠ .flushing)
    (normalised : tx.normalise call.frame = .ok accepted) :
    Polled tx call framesTx (Sending.feed accepted framesTx) := by
  by_cases isOpen : framesTx.IsOpen
  · by_cases room : framesTx.items.length < 513
    · obtain ⟨after, queued, _⟩ := Channel.trySend_isOk isOpen.receiver room accepted
      obtain ⟨sending, same, flushed⟩ := Sending.flush_flushed after
      have fed : Sending.feed accepted framesTx = (sending, after) := by
        simp [Sending.feed, Channel.pollReady_room isOpen room, isOpen.startSend, queued, same]
      rw [fed]
      exact .sent before normalised queued flushed
    · have fed : Sending.feed accepted framesTx = (.feeding accepted, framesTx) := by
        simp [Sending.feed, Channel.pollReady_full isOpen room]
      rw [fed]
      exact .feeds before normalised (full_of_no_room isOpen room)
  · rw [Sending.feed_shut accepted isOpen]
    exact .shut before normalised (Channel.not_isOpen_iff.mp isOpen)

/-- **One poll** of the future. -/
theorem Running.Stands.poll {tx : CustomStreamMediaPortTx} {call : Running}
    (stands : call.Stands tx) (framesTx : FramesChannel) :
    ∃ answer, call.sending.poll tx framesTx = some answer ∧ Polled tx call framesTx answer := by
  cases stands with
  | called was =>
    have before : call.sending ≠ .flushing := by simp [was]
    cases normalised : tx.normalise call.frame with
    | error error => exact ⟨_, by simp [was, Sending.poll, normalised], .refused was normalised⟩
    | ok accepted =>
      exact ⟨_, by simp [was, Sending.poll, normalised], polled_of_feed framesTx before normalised⟩
  | feeding was normalised =>
    exact ⟨_, by simp [was, Sending.poll],
      polled_of_feed framesTx (by simp [was]) normalised⟩
  | flushing was normalised =>
    obtain ⟨sending, same, flushed⟩ := Sending.flush_flushed framesTx
    exact ⟨(sending, framesTx), by simp [was, Sending.poll, same], .flushes was flushed⟩

/-- The frame is in, or was. -/
def Sending.hasSent : Sending → Bool
  | flushing | returned (.ok _) => true
  | _ => false

/-- What a poll puts in is what the future has put in since. -/
theorem Polled.went {tx : CustomStreamMediaPortTx} {call : Running} {framesTx : FramesChannel}
    {answer : Sending × FramesChannel} (polled : Polled tx call framesTx answer) :
    ∃ more, answer.2.items = framesTx.items ++ more ∧
      (if answer.1.hasSent then tx.accepts call.frame else []) = call.went tx ++ more ∧
      answer.2.senderOpen = framesTx.senderOpen ∧ answer.2.receiverOpen = framesTx.receiverOpen := by
  cases polled with
  | refused first normalised =>
    exact ⟨[], by simp, by simp [Sending.hasSent, Running.went, first], rfl, rfl⟩
  | feeds before normalised full =>
    exact ⟨[], by simp, by simp [Sending.hasSent, Running.went, before], rfl, rfl⟩
  | shut before normalised closed =>
    exact ⟨[], by simp, by simp [Sending.hasSent, Running.went, before], rfl, rfl⟩
  | sent before normalised queued flushed =>
    rename_i accepted after sending
    obtain ⟨_, _, items, sender, receiver⟩ := Channel.trySend_eq_ok.mp queued
    have done : sending.hasSent = true := by cases flushed <;> rfl
    refine ⟨[accepted], items, ?_, sender, receiver⟩
    simp [done, Running.went, before, CustomStreamMediaPortTx.accepts, normalised]
  | flushes before flushed =>
    rename_i sending
    have done : sending.hasSent = true := by cases flushed <;> rfl
    exact ⟨[], by simp, by simp [done, Running.went, before], rfl, rfl⟩

/-- Where the call stands after a poll that does not return. -/
theorem Polled.stands {tx : CustomStreamMediaPortTx} {call : Running} {framesTx : FramesChannel}
    {answer : Sending × FramesChannel} (polled : Polled tx call framesTx answer)
    (stands : call.Stands tx) :
    (∃ result, answer.1 = .returned result) ∨ Running.Stands tx ⟨call.frame, answer.1⟩ := by
  cases polled with
  | refused first normalised => exact Or.inl ⟨_, rfl⟩
  | feeds before normalised full => exact Or.inr (.feeding rfl normalised)
  | shut before normalised closed => exact Or.inl ⟨_, rfl⟩
  | sent before normalised queued flushed =>
    cases flushed with
    | waits full => exact Or.inr (.flushing rfl normalised)
    | returned => exact Or.inl ⟨_, rfl⟩
  | flushes before flushed =>
    cases flushed with
    | waits full =>
      cases stands with
      | called was => exact absurd (was.symm.trans before) (by simp)
      | feeding was normalised => exact absurd (was.symm.trans before) (by simp)
      | flushing was normalised => exact Or.inr (.flushing rfl normalised)
    | returned => exact Or.inl ⟨_, rfl⟩

/-- The errors that a poll returns. -/
theorem Polled.error {tx : CustomStreamMediaPortTx} {call : Running} {framesTx : FramesChannel}
    {answer : Sending × FramesChannel} (polled : Polled tx call framesTx answer) {error : SendError}
    (failed : answer.1 = .returned (.error error)) :
    tx.normalise call.frame = .error error ∨
      error = .sendErr ∧ (framesTx.senderOpen = false ∨ framesTx.receiverOpen = false) := by
  cases polled with
  | refused first normalised =>
    cases failed
    exact Or.inl normalised
  | feeds before normalised full => cases failed
  | shut before normalised closed =>
    cases failed
    exact Or.inr ⟨rfl, closed⟩
  | sent before normalised queued flushed =>
    cases flushed <;> cases failed
  | flushes before flushed =>
    cases flushed <;> cases failed

namespace Session

variable {tx : CustomStreamMediaPortTx} {s t : Session} {e : SessionEvent}

/-! ### One event -/

/-- The session keeps its accounts, a running call stands somewhere, and nothing was lost before the
port was destroyed. -/
structure Kept (tx : CustomStreamMediaPortTx) (s : Session) : Prop where
  accounted : s.Accounted tx
  stands : ∀ call, s.running = some call → call.Stands tx
  early : s.framesTx.receiverOpen = true → s.lost = []

theorem kept_start (tx : CustomStreamMediaPortTx) (sampleRate : UInt32)
    (channelsCount samplesPerFrame : ℕ) :
    (start sampleRate channelsCount samplesPerFrame).Kept tx :=
  ⟨⟨rfl, fun _ _ member => absurd member List.not_mem_nil⟩, fun _ none => absurd none (by simp [start]),
    fun _ => rfl⟩

/-- What the future has put in counts from the poll on. -/
theorem went_polled (s : Session) (frame : Frame) (sending : Sending) :
    (s.polled frame sending).went tx = s.done.flatMap (Done.went tx) ++
      if sending.hasSent then tx.accepts frame else [] := by
  cases sending with
  | called frame => simp [polled, Session.went, Running.went, Sending.hasSent]
  | feeding frame => simp [polled, Session.went, Running.went, Sending.hasSent]
  | flushing => simp [polled, Session.went, Running.went, Sending.hasSent]
  | returned result =>
    cases result <;> simp [polled, Session.went, Done.went, Sending.hasSent]

/-- What a poll leaves as it was. -/
theorem polled_frame (s : Session) (frame : Frame) (sending : Sending) :
    (s.polled frame sending).portData = s.portData ∧ (s.polled frame sending).out = s.out ∧
      (s.polled frame sending).lost = s.lost := by
  cases sending <;> exact ⟨rfl, rfl, rfl⟩

/-- A poll records its result, if there is one. -/
theorem mem_done_polled {frame : Frame} {sending : Sending} {call : Done}
    (member : call ∈ (s.polled frame sending).done) :
    call ∈ s.done ∨ ∃ result, sending = .returned result ∧ call = .send frame result := by
  cases sending with
  | returned result =>
    rcases List.mem_append.mp member with old | new
    · exact Or.inl old
    · exact Or.inr ⟨result, rfl, List.mem_singleton.mp new⟩
  | _ => exact Or.inl member

theorem Kept.poll {call : Running} {answer : Sending × FramesChannel} (kept : s.Kept tx)
    (running : s.running = some call) (answered : Polled tx call s.framesTx answer) :
    ((s.withFrames answer.2).polled call.frame answer.1).Kept tx := by
  obtain ⟨more, items, went, sender, receiver⟩ := answered.went
  obtain ⟨portData, out, lost⟩ := polled_frame (s.withFrames answer.2) call.frame answer.1
  have frames : ((s.withFrames answer.2).polled call.frame answer.1).framesTx = answer.2 := by
    rw [framesTx, portData]
    rfl
  refine ⟨⟨?_, ?_⟩, ?_, ?_⟩
  · have before : s.went tx = s.done.flatMap (Done.went tx) ++ call.went tx := by
      simp [Session.went, running]
    have inOrder := kept.accounted.inOrder
    rw [before] at inOrder
    rw [went_polled, went, out, lost, waiting, frames, items]
    simp only [List.map_append, ← List.append_assoc] at inOrder ⊢
    rw [show (s.withFrames answer.2).done = s.done from rfl, inOrder]
    rfl
  · intro frame error member
    unfold Shut
    rw [frames, sender, receiver]
    rcases mem_done_polled member with old | ⟨result, returned, same⟩
    · exact kept.accounted.refused frame error old
    · cases same
      exact answered.error returned
  · intro next goes
    rcases answered.stands (kept.stands call running) with ⟨result, returned⟩ | stands
    · rw [returned] at goes
      cases goes
    · cases sending : answer.1 with
      | returned result =>
        rw [sending] at goes
        cases goes
      | _ =>
        rw [sending] at goes stands
        cases goes
        exact stands
  · intro isOpen
    rw [lost]
    exact kept.early (receiver ▸ frames ▸ isOpen)

/-- What a callback that returns has done: nothing, or it took the first frame out, with all its
bytes. -/
inductive Took (s : Session) (played : Bool) : Session → Prop
  | nothing : Took s played s
  | frame {first : Frame} {framesRx : FramesChannel} (items : s.waiting = first :: framesRx.items)
      (receiver : framesRx.receiverOpen = s.framesTx.receiverOpen)
      (sender : framesRx.senderOpen = s.framesTx.senderOpen) :
      Took s played { s.withFrames framesRx with out := s.out ++ [⟨played, .of first⟩] }

theorem recv_of_nothing (waiting : s.waiting = []) :
    ∀ first framesRx, s.portData.framesRx.recv ≠ .ready (some first, framesRx) := by
  intro first framesRx received
  rcases Channel.recv_eq_ready received with ⟨_, _, items, _⟩ | ⟨none, _⟩
  · exact absurd (waiting.symm.trans items) (by simp)
  · cases none

theorem took_of_callback {played : Bool} {memory : Memory} {frame : PjmediaFrame}
    (called : s.callback played memory frame = some t) : Took s played t := by
  unfold callback at called
  by_cases audio : frame.type = pjmediaFrameTypeAudio
  · cases waiting : s.waiting with
    | nil =>
      rw [customPortGetFrame_none audio (recv_of_nothing waiting)] at called
      obtain rfl : s = t := by simpa [took, waiting] using called
      exact .nothing
    | cons first rest =>
      obtain ⟨framesRx, received, items, receiver, sender⟩ := Channel.recv_cons waiting
      rw [customPortGetFrame_some audio received] at called
      by_cases agree : first.data.length = frame.size
      · rw [if_pos agree] at called
        have bytes : (memory.write frame.buf (leBytes first.data)).read frame.buf (frame.size * 2) =
            leBytes first.data := by
          rw [← agree, ← length_leBytes]
          exact Memory.read_write _ _ _
        obtain rfl : { s.withFrames framesRx with out := s.out ++ [⟨played, .of first⟩] } = t := by
          simpa [took, waiting, audio, bytes, Copied.of, withFrames] using called
        exact .frame (by rw [waiting, items]) receiver sender
      · rw [if_neg agree] at called
        cases called
  · rw [customPortGetFrame_other s.portData memory audio] at called
    obtain rfl : s = t := by simpa [took, audio] using called
    exact .nothing

theorem Kept.took {played : Bool} (kept : s.Kept tx) (isOpen : s.framesTx.receiverOpen = true)
    (taken : Took s played t) : t.Kept tx := by
  cases taken with
  | nothing => exact kept
  | frame items receiver sender =>
    rename_i first framesRx
    refine ⟨⟨?_, ?_⟩, kept.stands, fun _ => kept.early isOpen⟩
    · have inOrder := kept.accounted.inOrder
      rw [items, kept.early isOpen] at inOrder
      refine inOrder.trans ?_
      simp [waiting, framesTx, withFrames, kept.early isOpen]
    · intro frame error member
      unfold Shut
      rw [show framesTx _ = framesRx from rfl, receiver, sender]
      exact kept.accounted.refused frame error member

/-- A cancelled call counts as it did. -/
theorem went_cancelled {call : Running} (running : s.running = some call) :
    (s.cancelled call).went tx = s.went tx := by
  simp [cancelled, Session.went, Done.went, running]

/-- An accepted push counts. -/
theorem went_answered {answer : Bool × FramesChannel} (frame : Frame) (idle : s.running = none) :
    (s.answered frame answer).went tx = s.went tx ++ if answer.1 then [frame] else [] := by
  simp [answered, withFrames, Session.went, Done.went, idle]

/-- What a push through the sink does to the channel. -/
theorem pushed_cases (frame : Frame) (framesTx : FramesChannel) :
    pushed frame framesTx = (false, framesTx) ∨
      ∃ after, framesTx.trySend frame = .ok after ∧ pushed frame framesTx = (true, after) := by
  unfold pushed CustomStreamMediaPortTx.startSend
  cases sending : framesTx.startSend frame with
  | ok after => exact Or.inr ⟨after, (Channel.startSend_eq_ok.mp sending).2, rfl⟩
  | error why => exact Or.inl rfl

theorem Kept.startSend (kept : s.Kept tx) (frame : Frame) (idle : s.running = none) :
    (s.answered frame (pushed frame s.framesTx)).Kept tx := by
  have stands : ∀ call, s.running = some call → call.Stands tx := fun call goes =>
    absurd (idle.symm.trans goes) (by simp)
  have old : ∀ {accepted : Bool} {other error}, .send other (.error error) ∈
      s.done ++ [.startSend frame accepted] → .send other (.error error) ∈ s.done := by
    intro accepted other error member
    simpa using member
  have inOrder := kept.accounted.inOrder
  rcases pushed_cases frame s.framesTx with refused | ⟨after, queued, accepted⟩
  · rw [refused]
    refine ⟨⟨?_, ?_⟩, stands, kept.early⟩
    · rw [went_answered frame idle]
      simpa [answered, withFrames, waiting, framesTx] using inOrder
    · exact fun other error member => kept.accounted.refused other error (old member)
  · obtain ⟨isOpen, _, items, sender, receiver⟩ := Channel.trySend_eq_ok.mp queued
    rw [accepted]
    refine ⟨⟨?_, ?_⟩, stands, fun _ => kept.early isOpen⟩
    · rw [went_answered frame idle]
      show (s.went tx ++ [frame]).map _ = s.out.map _ ++ (s.lost ++ after.items).map _
      rw [items, List.map_append, inOrder]
      simp [waiting]
    · intro other error member
      unfold Shut
      rw [show framesTx _ = after from rfl, sender, receiver]
      exact kept.accounted.refused other error (old member)

/-- **One event keeps the accounts.** -/
theorem Kept.step (kept : s.Kept tx) (stepped : s.step tx e = some t) : t.Kept tx := by
  cases e with
  | send frame =>
    obtain ⟨idle, given⟩ := Option.ite_none_right_eq_some.mp stepped
    cases given
    refine ⟨⟨?_, kept.accounted.refused⟩, ?_, kept.early⟩
    · have same : { s with running := some ⟨frame, .called frame⟩ }.went tx = s.went tx := by
        simp [Session.went, idle, Running.went]
      rw [same]
      exact kept.accounted.inOrder
    · intro call goes
      cases goes
      exact .called rfl
  | poll =>
    obtain ⟨call, running, given⟩ := Option.bind_eq_some_iff.mp stepped
    obtain ⟨answer, answered, polled⟩ := (kept.stands call running).poll s.framesTx
    rw [answered] at given
    cases given
    exact kept.poll running polled
  | cancel =>
    obtain ⟨call, running, rfl⟩ := Option.map_eq_some_iff.mp stepped
    refine ⟨⟨?_, ?_⟩, fun _ none => (by cases none), kept.early⟩
    · rw [went_cancelled running]
      exact kept.accounted.inOrder
    · intro frame error member
      refine kept.accounted.refused frame error ?_
      simpa [cancelled] using member
  | startSend frame =>
    obtain ⟨idle, given⟩ := Option.ite_none_right_eq_some.mp stepped
    cases given
    exact kept.startSend frame idle
  | pollClose =>
    obtain ⟨idle, given⟩ := Option.ite_none_right_eq_some.mp stepped
    cases given
    exact ⟨⟨kept.accounted.inOrder, fun frame error member =>
      (kept.accounted.refused frame error member).imp_right fun shut => ⟨shut.1, Or.inl rfl⟩⟩,
      kept.stands, kept.early⟩
  | getFrame memory frame =>
    obtain ⟨isOpen, called⟩ := Option.ite_none_right_eq_some.mp stepped
    exact kept.took isOpen (took_of_callback called)
  | putFrame memory frame =>
    obtain ⟨isOpen, called⟩ := Option.ite_none_right_eq_some.mp stepped
    exact kept.took isOpen (took_of_callback called)
  | onDestroy =>
    obtain ⟨isOpen, given⟩ := Option.ite_none_right_eq_some.mp stepped
    cases given
    refine ⟨⟨?_, ?_⟩, kept.stands, fun stillOpen => (by cases stillOpen)⟩
    · have inOrder := kept.accounted.inOrder
      rw [kept.early isOpen] at inOrder
      refine inOrder.trans ?_
      simp [waiting, framesTx, customPortOnDestroy, Channel.dropReceiver]
    · intro frame error member
      exact (kept.accounted.refused frame error member).imp_right fun shut => ⟨shut.1, Or.inr rfl⟩

end Session

/-- **The accounts of a stream port**: over any run, what the calls of the sender put in, by their
answers, is what the callbacks took out, in order, and then what was lost with the port or waits. -/
theorem session_accounts (tx : CustomStreamMediaPortTx) (sampleRate : UInt32) (channelsCount : ℕ)
    {es : List SessionEvent} {s : Session}
    (ran : (sessionSystem tx).run (.start sampleRate channelsCount tx.samplesPerFrame) es = some s) :
    s.Accounted tx := by
  have kept : s.Kept tx :=
    (sessionSystem tx).run_keeps (fun _ _ _ before stepped => before.step stepped)
      (Session.kept_start tx sampleRate channelsCount tx.samplesPerFrame) ran
  exact kept.accounted

/-- A frame is sent and played, a call is cancelled, a frame is pushed and lost with the port, and a
call after the close fails. -/
def everyWay : List SessionEvent :=
  [.send ⟨[1, 2], ⟨0⟩⟩, .poll, .send ⟨[3, 4], ⟨0⟩⟩, .cancel, .startSend ⟨[5, 6], ⟨0⟩⟩,
    .getFrame (fun _ => 0) (bridgeFrame 1 0 0), .pollClose, .onDestroy, .send ⟨[7, 8], ⟨0⟩⟩, .poll]

theorem session_accounts_everyWay :
    ∃ s, (sessionSystem ⟨16, 1, rfl⟩).run (.start 1000 1 1) everyWay = some s ∧
      s.Accounted ⟨16, 1, rfl⟩ :=
  ⟨_, rfl, session_accounts ⟨16, 1, rfl⟩ 1000 1
    (rfl : (sessionSystem ⟨16, 1, rfl⟩).run (.start 1000 1 1) everyWay = some _)⟩

/-! ### Calls return -/

/-- The events while the application awaits its call. -/
def SessionEvent.Awaits : SessionEvent → Prop
  | poll | getFrame _ _ | putFrame _ _ | onDestroy => True
  | _ => False

/-- The place that a call will still need. -/
def Running.needs (call : Running) : ℕ := if call.sending = .flushing then 0 else 1

namespace Session

variable {tx : CustomStreamMediaPortTx} {s t : Session} {e : SessionEvent} {call : Running}

/-- The call has returned, and this is recorded. -/
def Returned (before : Session) (frame : Frame) (t : Session) : Prop :=
  t.running = none ∧ ∃ result, t.done = before.done ++ [.send frame result]

/-- The call is under way: what waits, what it needs and what was taken out since are no more than
the places of the channel and one. -/
structure UnderWay (before : Session) (frame : Frame) (t : Session) : Prop where
  running : ∃ call, t.running = some call ∧ call.frame = frame ∧
    t.waiting.length + call.needs + t.out.length ≤ 514 + before.out.length
  done : t.done = before.done

/-- Where a poll leaves the call. -/
theorem UnderWay.poll {before : Session} {frame : Frame} {answer : Sending × FramesChannel}
    (underWay : UnderWay before frame s) (running : s.running = some call)
    (answered : Polled tx call s.framesTx answer) :
    Returned before frame ((s.withFrames answer.2).polled call.frame answer.1) ∨
      UnderWay before frame ((s.withFrames answer.2).polled call.frame answer.1) := by
  obtain ⟨other, same, rfl, places⟩ := underWay.running
  cases running.symm.trans same
  have returned : ∀ result channel, Returned before call.frame
      ((s.withFrames channel).polled call.frame (.returned result)) := by
    intro result channel
    refine ⟨rfl, result, ?_⟩
    rw [← underWay.done]
    rfl
  cases answered with
  | refused first normalised => exact Or.inl (returned _ _)
  | feeds before normalised full =>
    refine Or.inr ⟨⟨_, rfl, rfl, ?_⟩, underWay.done⟩
    simpa [Running.needs, before, waiting, framesTx, withFrames, polled] using places
  | shut before normalised closed => exact Or.inl (returned _ _)
  | sent before normalised queued flushed =>
    cases flushed with
    | waits full =>
      have items := (Channel.trySend_eq_ok.mp queued).2.2.1
      refine Or.inr ⟨⟨_, rfl, rfl, ?_⟩, underWay.done⟩
      simpa [Running.needs, before, waiting, framesTx, withFrames, polled, items] using places
    | returned => exact Or.inl (returned _ _)
  | flushes before flushed =>
    cases flushed with
    | waits full =>
      refine Or.inr ⟨⟨_, rfl, rfl, ?_⟩, underWay.done⟩
      simpa [Running.needs, before, waiting, framesTx, withFrames, polled] using places
    | returned => exact Or.inl (returned _ _)

theorem UnderWay.took {before : Session} {frame : Frame} {played : Bool}
    (underWay : UnderWay before frame s) (taken : Took s played t) : UnderWay before frame t := by
  cases taken with
  | nothing => exact underWay
  | frame items receiver sender =>
    obtain ⟨call, running, same, places⟩ := underWay.running
    refine ⟨⟨call, running, same, ?_⟩, underWay.done⟩
    rw [items, List.length_cons] at places
    simp only [waiting, framesTx, withFrames, List.length_append, List.length_singleton]
    omega

theorem Returned.took {before : Session} {frame : Frame} {played : Bool}
    (returned : Returned before frame s) (taken : Took s played t) : Returned before frame t := by
  cases taken with
  | nothing => exact returned
  | frame items receiver sender => exact returned

/-- **One event** while the call is awaited. -/
theorem awaited_step {before : Session} {frame : Frame} (awaits : e.Awaits) (kept : s.Kept tx)
    (awaited : Returned before frame s ∨ UnderWay before frame s) (stepped : s.step tx e = some t) :
    Returned before frame t ∨ UnderWay before frame t := by
  cases e with
  | poll =>
    obtain ⟨call, running, given⟩ := Option.bind_eq_some_iff.mp stepped
    obtain ⟨answer, answered, polled⟩ := (kept.stands call running).poll s.framesTx
    rw [answered] at given
    cases given
    rcases awaited with returned | underWay
    · exact absurd (returned.1.symm.trans running) (by simp)
    · exact underWay.poll running polled
  | getFrame memory frame =>
    obtain ⟨isOpen, called⟩ := Option.ite_none_right_eq_some.mp stepped
    exact awaited.imp (·.took (took_of_callback called)) (·.took (took_of_callback called))
  | putFrame memory frame =>
    obtain ⟨isOpen, called⟩ := Option.ite_none_right_eq_some.mp stepped
    exact awaited.imp (·.took (took_of_callback called)) (·.took (took_of_callback called))
  | onDestroy =>
    obtain ⟨isOpen, given⟩ := Option.ite_none_right_eq_some.mp stepped
    cases given
    refine awaited.imp id fun underWay => ?_
    obtain ⟨call, running, same, places⟩ := underWay.running
    refine ⟨⟨call, running, same, ?_⟩, underWay.done⟩
    simp only [waiting, framesTx, customPortOnDestroy, Channel.dropReceiver, List.length_nil]
    omega
  | _ => cases awaits

/-- With a place free for the frame and one more, or nobody to receive, a poll returns. -/
theorem UnderWay.returns {before : Session} {frame : Frame} (kept : s.Kept tx)
    (underWay : UnderWay before frame s)
    (enough : before.out.length + 2 ≤ s.out.length ∨ s.framesTx.receiverOpen = false) :
    ∃ u, s.step tx .poll = some u ∧ Returned before frame u := by
  obtain ⟨call, running, same, places⟩ := underWay.running
  obtain ⟨answer, answered, polled⟩ := (kept.stands call running).poll s.framesTx
  have stepped : s.step tx .poll =
      some ((s.withFrames answer.2).polled call.frame answer.1) := by
    simp [step, running, answered]
  refine ⟨_, stepped, ?_⟩
  rcases underWay.poll running polled with returned | stillUnderWay
  · exact returned
  · obtain ⟨next, goes, _, _⟩ := stillUnderWay.running
    -- whatever keeps the call waiting is a full channel, and there is none
    have full : ∃ sending channel, answer = (sending, channel) ∧ Full channel ∧
        channel.items.length ≤ s.waiting.length + call.needs := by
      cases polled with
      | refused first normalised => cases goes
      | feeds before normalised full => exact ⟨_, _, rfl, full, Nat.le_add_right _ _⟩
      | shut before normalised closed => cases goes
      | sent before normalised queued flushed =>
        cases flushed with
        | waits full =>
          refine ⟨_, _, rfl, full, ?_⟩
          rw [(Channel.trySend_eq_ok.mp queued).2.2.1]
          simp [Running.needs, before, waiting]
        | returned => cases goes
      | flushes before flushed =>
        cases flushed with
        | waits full => exact ⟨_, _, rfl, full, Nat.le_add_right _ _⟩
        | returned => cases goes
    obtain ⟨sending, channel, rfl, full, bound⟩ := full
    obtain ⟨_, _, _, _, receiver⟩ := polled.went
    rcases enough with taken | closed
    · have := full.full
      omega
    · exact absurd (full.isOpen.receiver.symm.trans receiver) (by simp [closed])

end Session

/-- **No call of `send` gets stuck**: when two frames were taken out since any time of the call, or
the port was destroyed, it has returned or returns at the next poll. -/
theorem send_returns (tx : CustomStreamMediaPortTx) (sampleRate : UInt32) (channelsCount : ℕ)
    {es fs : List SessionEvent} {s t : Session} {call : Running}
    (ran : (sessionSystem tx).run (.start sampleRate channelsCount tx.samplesPerFrame) es = some s)
    (running : s.running = some call) (awaits : ∀ e ∈ fs, e.Awaits)
    (waited : (sessionSystem tx).run s fs = some t)
    (enough : s.out.length + 2 ≤ t.out.length ∨ t.framesTx.receiverOpen = false) :
    Session.Returned s call.frame t ∨
      ∃ u, t.step tx .poll = some u ∧ Session.Returned s call.frame u := by
  have kept : s.Kept tx :=
    (sessionSystem tx).run_keeps (fun _ _ _ before stepped => before.step stepped)
      (Session.kept_start tx sampleRate channelsCount tx.samplesPerFrame) ran
  have underWay : Session.UnderWay s call.frame s := by
    refine ⟨⟨call, running, rfl, ?_⟩, rfl⟩
    have bounded : s.waiting.length ≤ 513 := s.framesTx.bounded
    have one : call.needs ≤ 1 := by
      unfold Running.needs
      split <;> omega
    omega
  have awaited : t.Kept tx ∧
      (Session.Returned s call.frame t ∨ Session.UnderWay s call.frame t) :=
    (sessionSystem tx).run_keeps_of_meets
      (fun u e _ (awaits : e.Awaits) (held : u.Kept tx ∧
          (Session.Returned s call.frame u ∨ Session.UnderWay s call.frame u)) stepped =>
        ⟨held.1.step stepped, Session.awaited_step awaits held.1 held.2 stepped⟩)
      ((sessionSystem tx).meets_of_mem awaits s) ⟨kept, Or.inr underWay⟩ waited
  exact awaited.2.imp_right fun underWay => underWay.returns awaited.1 enough

namespace Session

variable (tx : CustomStreamMediaPortTx) {s : Session}

/-- Frames that are pushed while there is room for them wait. -/
theorem run_pushes (frame : Frame) (count : ℕ) (idle : s.running = none) (isOpen : s.framesTx.IsOpen)
    (room : s.waiting.length + count ≤ 513) :
    ∃ t, (sessionSystem tx).run s (List.replicate count (.startSend frame)) = some t ∧
      t.running = none ∧ t.framesTx.IsOpen ∧ t.waiting = s.waiting ++ List.replicate count frame ∧
      t.out = s.out := by
  induction count generalizing s with
  | zero => exact ⟨s, rfl, idle, isOpen, by simp, rfl⟩
  | succ count ih =>
    have free : s.framesTx.items.length < 513 := by
      show s.waiting.length < 513
      omega
    obtain ⟨after, queued, items, _⟩ := Channel.trySend_isOk isOpen.receiver free frame
    have accepted : pushed frame s.framesTx = (true, after) := by
      simp [pushed, CustomStreamMediaPortTx.startSend, isOpen.startSend, queued]
    have stepped : (sessionSystem tx).step s (.startSend frame) =
        some (s.answered frame (true, after)) := by
      simp [sessionSystem, step, idle, accepted]
    have waits : (s.answered frame (true, after)).waiting = s.waiting ++ [frame] := items
    obtain ⟨t, ran, stillIdle, stillOpen, waiting, out⟩ :=
      ih (s := s.answered frame (true, after)) idle (isOpen.trySend queued) (by simp [waits]; omega)
    refine ⟨t, (sessionSystem tx).run_cons_eq_some.mpr ⟨_, stepped, ran⟩, stillIdle, stillOpen, ?_, out⟩
    rw [waiting, waits, List.replicate_succ, List.append_assoc, List.singleton_append]

/-- A call that finds the channel full waits. -/
theorem run_send_full (frame : Frame) {accepted : Frame} (idle : s.running = none) (full : Full s.framesTx)
    (normalised : tx.normalise frame = .ok accepted) :
    (sessionSystem tx).run s [.send frame, .poll] =
      some { s with running := some ⟨frame, .feeding accepted⟩ } := by
  have room : ¬ s.framesTx.items.length < 513 := by
    rw [full.full]
    exact Nat.lt_irrefl 513
  have polled : (Sending.called frame).poll tx s.framesTx =
      some (.feeding accepted, s.framesTx) := by
    simp [Sending.poll, normalised, Sending.feed, Channel.pollReady_full full.isOpen room]
  have called : (sessionSystem tx).step s (.send frame) =
      some { s with running := some ⟨frame, .called frame⟩ } := by
    simp [sessionSystem, step, idle]
  refine (sessionSystem tx).run_cons_eq_some.mpr ⟨_, called, ?_⟩
  refine (sessionSystem tx).run_cons_eq_some.mpr ⟨_, ?_, rfl⟩
  show (Option.some _).bind _ = _
  simp only [Option.bind_some]
  show ((Sending.called frame).poll tx s.framesTx).map _ = _
  rw [polled]
  rfl

/-- A frame that waits is played. -/
theorem step_getFrame_waiting (memory : Memory) (frame : PjmediaFrame) {first : Frame}
    {rest : List Frame} (isOpen : s.framesTx.receiverOpen = true) (waiting : s.waiting = first :: rest)
    (audio : frame.type = pjmediaFrameTypeAudio) (agree : first.data.length = frame.size) :
    ∃ t, (sessionSystem tx).step s (.getFrame memory frame) = some t ∧ t.waiting = rest ∧
      t.out.length = s.out.length + 1 ∧ t.framesTx.receiverOpen = true := by
  obtain ⟨framesRx, received, items, receiver, _⟩ := Channel.recv_cons waiting
  have called : customPortGetFrame s.portData memory frame =
      .ok ({ s.portData with framesRx := framesRx }, memory.write frame.buf (leBytes first.data),
        { frame with timestamp := first.time.asMicros % UInt64.size }) := by
    rw [customPortGetFrame_some audio received, if_pos agree]
  have played : (sessionSystem tx).step s (.getFrame memory frame) =
      some (s.took true frame { s.portData with framesRx := framesRx }
        (memory.write frame.buf (leBytes first.data))
        { frame with timestamp := first.time.asMicros % UInt64.size }) := by
    simp [sessionSystem, step, isOpen, callback, called]
  refine ⟨_, played, items, ?_, receiver.trans isOpen⟩
  simp [took, audio, waiting]

end Session

/-- All that the channel holds is pushed, and a call is made and waits. -/
def calledWhenFull : List SessionEvent :=
  List.replicate 513 (.startSend ⟨[1, 2], ⟨0⟩⟩) ++ [.send ⟨[5, 6], ⟨0⟩⟩, .poll]

def twoPlayed : List SessionEvent :=
  [.getFrame (fun _ => 0) (bridgeFrame 1 0 0), .getFrame (fun _ => 0) (bridgeFrame 1 0 0)]

/-- The call waits for room, two frames are played, and it has returned or returns. -/
theorem send_returns_twoPlayed :
    ∃ s t, (sessionSystem ⟨16, 1, rfl⟩).run (.start 1000 1 1) calledWhenFull = some s ∧
      s.running = some ⟨⟨[5, 6], ⟨0⟩⟩, .feeding ⟨[5, 6], ⟨0⟩⟩⟩ ∧
      (sessionSystem ⟨16, 1, rfl⟩).run s twoPlayed = some t ∧
      (Session.Returned s ⟨[5, 6], ⟨0⟩⟩ t ∨
        ∃ u, t.step ⟨16, 1, rfl⟩ .poll = some u ∧ Session.Returned s ⟨[5, 6], ⟨0⟩⟩ u) := by
  obtain ⟨full, pushes, idle, isOpen, waiting, _⟩ :=
    Session.run_pushes ⟨16, 1, rfl⟩ (s := .start 1000 1 1) ⟨[1, 2], ⟨0⟩⟩ 513 rfl ⟨rfl, rfl⟩
      (le_refl 513)
  have length : full.waiting.length = 513 := by
    rw [waiting, List.length_append, List.length_replicate]
    rfl
  have calls := Session.run_send_full ⟨16, 1, rfl⟩ ⟨[5, 6], ⟨0⟩⟩ idle ⟨isOpen, length⟩ rfl
  obtain ⟨one, first, waitsOne, outOne, openOne⟩ :=
    Session.step_getFrame_waiting ⟨16, 1, rfl⟩ (fun _ => 0) (bridgeFrame 1 0 0)
      (s := { full with running := some ⟨⟨[5, 6], ⟨0⟩⟩, .feeding ⟨[5, 6], ⟨0⟩⟩⟩ })
      isOpen.receiver waiting rfl rfl
  obtain ⟨two, second, _, outTwo, _⟩ :=
    Session.step_getFrame_waiting ⟨16, 1, rfl⟩ (fun _ => 0) (bridgeFrame 1 0 0) openOne waitsOne
      rfl rfl
  have ran := (sessionSystem ⟨16, 1, rfl⟩).run_append_eq_some.mpr ⟨full, pushes, calls⟩
  have played : (sessionSystem ⟨16, 1, rfl⟩).run _ twoPlayed = some two :=
    (sessionSystem ⟨16, 1, rfl⟩).run_cons_eq_some.mpr
      ⟨one, first, (sessionSystem ⟨16, 1, rfl⟩).run_cons_eq_some.mpr ⟨two, second, rfl⟩⟩
  have awaits : ∀ e ∈ twoPlayed, e.Awaits := by simp [twoPlayed, SessionEvent.Awaits]
  exact ⟨_, two, ran, rfl, played,
    send_returns ⟨16, 1, rfl⟩ 1000 1 ran rfl awaits played (Or.inl (by omega))⟩

end PjsipClient.AudioStream
