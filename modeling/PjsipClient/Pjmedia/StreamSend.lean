/-
The two ways into the stream port (`pjmedia/pjmedia_port_audio_stream.rs`): the future of
`CustomStreamMediaPortTx::send`, poll by poll, and the `Sink` implementation.

A `Sending` is the future of `send`. Its first poll normalises the frame; then it waits for room in
the channel, sends, and waits until the channel has room again. The `Sink` implementation hands a
frame on to the channel as it is.

* `sending_of_run` — whatever `normalise` answers is what becomes of the frame, in every schedule of
  polls and receives.
* `sendsAsSpecified_iff` — that is what a sender of `samplesPerFrame` samples should do only for the
  longest frames, since `send` compares in the wrong unit.
* `sinkAgrees_iff` — under every schedule, both ways put the same into an open channel only for frames
  that are left as they are.
-/

import PjsipClient.Lib.System
import PjsipClient.Pjmedia.AudioStream

namespace PjsipClient.AudioStream

open Transport Transition

/-! ### The future of `send` -/

/-- How far a call of `send` has come. -/
inductive Sending
  /-- It was not polled. -/
  | called (frame : Frame)
  /-- It waits for room. -/
  | feeding (frame : Frame)
  /-- The frame is in the channel. -/
  | flushing
  | returned (result : Except SendError Unit)
  deriving DecidableEq

namespace Sending

def flush (framesTx : FramesChannel) : Sending × FramesChannel :=
  match framesTx.pollFlush with
  | .pending => (flushing, framesTx)
  | .ready (.ok ()) => (returned (.ok ()), framesTx)
  | .ready (.error _) => (returned (.error .sendErr), framesTx)

def feed (frame : Frame) (framesTx : FramesChannel) : Sending × FramesChannel :=
  match framesTx.pollReady with
  | .pending => (feeding frame, framesTx)
  | .ready (.error _) => (returned (.error .sendErr), framesTx)
  | .ready (.ok ()) =>
    match framesTx.startSend frame with
    | .ok framesTx => flush framesTx
    | .error _ => (returned (.error .sendErr), framesTx)

/-- One poll; `none` after the future has returned. -/
def poll (tx : CustomStreamMediaPortTx) (framesTx : FramesChannel) :
    Sending → Option (Sending × FramesChannel)
  | called frame =>
    match tx.normalise frame with
    | .error error => some (returned (.error error), framesTx)
    | .ok frame => some (feed frame framesTx)
  | feeding frame => some (feed frame framesTx)
  | flushing => some (flush framesTx)
  | returned _ => none

end Sending

/-- A call of `send`, the channel, and what the port has taken out of it meanwhile. -/
structure SendState where
  sending : Sending
  framesTx : FramesChannel
  taken : List Frame

/-- A call of `send` that was not polled yet. -/
def SendState.start (frame : Frame) (framesTx : FramesChannel) : SendState :=
  ⟨.called frame, framesTx, []⟩

inductive SendEvent
  | poll
  | take
  deriving DecidableEq, Repr

def SendState.step (tx : CustomStreamMediaPortTx) (s : SendState) : SendEvent → Option SendState
  | .poll => (s.sending.poll tx s.framesTx).map fun (sending, framesTx) =>
      { s with sending := sending, framesTx := framesTx }
  | .take =>
    match s.framesTx.recv with
    | .ready (some frame, framesRx) =>
      some { s with framesTx := framesRx, taken := s.taken ++ [frame] }
    | _ => none

/-- The polls of one `send`, and what the port takes out. -/
def sendSystem (tx : CustomStreamMediaPortTx) : System SendState SendEvent := ⟨SendState.step tx⟩

/-- The frames that went into the channel since it had the given content. -/
def SendState.Enqueued (s : SendState) (before : FramesChannel) (frames : List Frame) : Prop :=
  s.taken ++ s.framesTx.items = before.items ++ frames

/-! ### What becomes of the frame -/

/-- Where a `send` can stand, by what `normalise` says about its frame. -/
inductive Stands (tx : CustomStreamMediaPortTx) (frame : Frame) (before : FramesChannel)
    (s : SendState) : Prop
  | called (was : s.sending = .called frame) (enqueued : s.Enqueued before [])
  | refused {error : SendError} (normalised : tx.normalise frame = .error error)
      (was : s.sending = .returned (.error error)) (enqueued : s.Enqueued before [])
  | feeding {accepted : Frame} (normalised : tx.normalise frame = .ok accepted)
      (was : s.sending = .feeding accepted) (enqueued : s.Enqueued before [])
  | sent {accepted : Frame} (normalised : tx.normalise frame = .ok accepted)
      (was : s.sending = .flushing ∨ s.sending = .returned (.ok ()))
      (enqueued : s.Enqueued before [accepted])

/-- A flush of an open channel waits or returns. -/
theorem Sending.flush_open {framesTx : FramesChannel} (isOpen : framesTx.IsOpen) :
    (Sending.flush framesTx).2 = framesTx ∧
      ((Sending.flush framesTx).1 = .flushing ∨ (Sending.flush framesTx).1 = .returned (.ok ())) := by
  unfold Sending.flush Channel.pollFlush
  by_cases room : framesTx.items.length < 513
  · rw [Channel.pollReady_room isOpen room]
    exact ⟨rfl, Or.inr rfl⟩
  · rw [Channel.pollReady_full isOpen room]
    exact ⟨rfl, Or.inl rfl⟩

/-- Feeding an open channel waits, or puts the frame in. -/
theorem Sending.feed_open {framesTx : FramesChannel} (frame : Frame) (isOpen : framesTx.IsOpen) :
    Sending.feed frame framesTx = (.feeding frame, framesTx) ∨
      ∃ sent, framesTx.trySend frame = .ok sent ∧ Sending.feed frame framesTx = Sending.flush sent := by
  unfold Sending.feed
  by_cases room : framesTx.items.length < 513
  · obtain ⟨sent, accepted, _⟩ := Channel.trySend_isOk isOpen.receiver room frame
    rw [Channel.pollReady_room isOpen room, isOpen.startSend, accepted]
    exact Or.inr ⟨sent, rfl, rfl⟩
  · rw [Channel.pollReady_full isOpen room]
    exact Or.inl rfl

/-- Feeding waits with the frame, or leaves it in the channel. -/
theorem Sending.feed_stands {tx : CustomStreamMediaPortTx} {frame accepted : Frame}
    {before framesTx : FramesChannel} {taken : List Frame}
    (normalised : tx.normalise frame = .ok accepted) (isOpen : framesTx.IsOpen)
    (enqueued : taken ++ framesTx.items = before.items ++ []) :
    Stands tx frame before
        ⟨(Sending.feed accepted framesTx).1, (Sending.feed accepted framesTx).2, taken⟩ ∧
      (Sending.feed accepted framesTx).2.IsOpen := by
  rcases Sending.feed_open accepted isOpen with waits | ⟨sent, queued, same⟩
  · rw [waits]
    exact ⟨.feeding normalised rfl enqueued, isOpen⟩
  · rw [same]
    obtain ⟨kept, stands⟩ := Sending.flush_open (isOpen.trySend queued)
    rw [kept]
    refine ⟨.sent normalised stands ?_, isOpen.trySend queued⟩
    show taken ++ sent.items = before.items ++ [accepted]
    rw [(Channel.trySend_eq_ok.mp queued).2.2.1, ← List.append_assoc, enqueued, List.append_nil]

/-- **One poll** leaves the frame where it should be. -/
theorem Stands.poll {tx : CustomStreamMediaPortTx} {frame : Frame} {before : FramesChannel}
    {s : SendState} {polled : Sending × FramesChannel} (stands : Stands tx frame before s)
    (isOpen : s.framesTx.IsOpen) (given : s.sending.poll tx s.framesTx = some polled) :
    Stands tx frame before ⟨polled.1, polled.2, s.taken⟩ ∧ polled.2.IsOpen := by
  cases stands with
  | called was enqueued =>
    rw [was] at given
    cases normalised : tx.normalise frame with
    | error error =>
      simp only [Sending.poll, normalised, Option.some.injEq] at given
      subst given
      exact ⟨.refused normalised rfl enqueued, isOpen⟩
    | ok accepted =>
      simp only [Sending.poll, normalised, Option.some.injEq] at given
      subst given
      exact Sending.feed_stands normalised isOpen enqueued
  | refused normalised was enqueued =>
    rw [was] at given
    cases given
  | feeding normalised was enqueued =>
    rw [was] at given
    obtain rfl := Option.some.inj given
    exact Sending.feed_stands normalised isOpen enqueued
  | sent normalised was enqueued =>
    rcases was with was | was
    · rw [was] at given
      obtain rfl := Option.some.inj given
      obtain ⟨kept, flushed⟩ := Sending.flush_open isOpen
      rw [kept]
      exact ⟨.sent normalised flushed enqueued, isOpen⟩
    · rw [was] at given
      cases given

/-- What the port takes out was in the channel. -/
theorem SendState.Enqueued.take {s : SendState} {before framesRx : FramesChannel} {first : Frame}
    {frames : List Frame} (enqueued : s.Enqueued before frames)
    (items : s.framesTx.items = first :: framesRx.items) :
    (⟨s.sending, framesRx, s.taken ++ [first]⟩ : SendState).Enqueued before frames := by
  show s.taken ++ [first] ++ framesRx.items = before.items ++ frames
  rw [← enqueued, items, List.append_assoc, List.singleton_append]

theorem Stands.take {tx : CustomStreamMediaPortTx} {frame : Frame} {before : FramesChannel}
    {s : SendState} {framesRx : FramesChannel} {first : Frame} (stands : Stands tx frame before s)
    (items : s.framesTx.items = first :: framesRx.items) :
    Stands tx frame before ⟨s.sending, framesRx, s.taken ++ [first]⟩ := by
  cases stands with
  | called was enqueued => exact .called was (enqueued.take items)
  | refused normalised was enqueued => exact .refused normalised was (enqueued.take items)
  | feeding normalised was enqueued => exact .feeding normalised was (enqueued.take items)
  | sent normalised was enqueued => exact .sent normalised was (enqueued.take items)

/-- **One step** leaves the frame where it should be. -/
theorem Stands.step {tx : CustomStreamMediaPortTx} {frame : Frame} {before : FramesChannel}
    {s t : SendState} {e : SendEvent} (stands : Stands tx frame before s) (isOpen : s.framesTx.IsOpen)
    (stepped : s.step tx e = some t) : Stands tx frame before t ∧ t.framesTx.IsOpen := by
  cases e with
  | poll =>
    obtain ⟨polled, given, rfl⟩ := Option.map_eq_some_iff.mp stepped
    exact stands.poll isOpen given
  | take =>
    unfold SendState.step at stepped
    split at stepped
    case h_1 => contradiction
    case h_2 =>
      split at stepped
      case h_1 first framesRx received =>
        cases stepped
        rcases Channel.recv_eq_ready received with ⟨_, same, items, receiver, sender⟩ | ⟨gone, _⟩
        · cases same
          exact ⟨stands.take items, receiver.trans isOpen.receiver, sender.trans isOpen.sender⟩
        · cases gone
      case h_2 => cases stepped

theorem stands_start (tx : CustomStreamMediaPortTx) (frame : Frame) (before : FramesChannel) :
    Stands tx frame before (.start frame before) := by
  refine .called rfl ?_
  show before.items = before.items ++ []
  rw [List.append_nil]

/-- **The frame of a `send`, at any time**: what `normalise` says becomes of it. -/
theorem sending_of_run {tx : CustomStreamMediaPortTx} {frame : Frame} {before : FramesChannel}
    (isOpen : before.IsOpen) {es : List SendEvent} {s : SendState}
    (ran : (sendSystem tx).run (.start frame before) es = some s) :
    Stands tx frame before s ∧ s.framesTx.IsOpen :=
  (sendSystem tx).run_keeps
    (fun _ _ _ (held : Stands tx frame before _ ∧ Channel.IsOpen _) stepped => held.1.step held.2 stepped)
    ⟨stands_start tx frame before, isOpen⟩ ran

/-- With room for the frame and for one more, feeding returns. -/
theorem Sending.feed_returns {framesTx : FramesChannel} (frame : Frame) (isOpen : framesTx.IsOpen)
    (room : framesTx.items.length + 1 < 513) :
    (Sending.feed frame framesTx).1 = .returned (.ok ()) := by
  have free : framesTx.items.length < 513 := Nat.lt_of_succ_lt room
  obtain ⟨sent, queued, items, _⟩ := Channel.trySend_isOk isOpen.receiver free frame
  have left : sent.items.length < 513 := by
    rw [items, List.length_append, List.length_singleton]
    exact room
  simp [feed, flush, Channel.pollFlush, Channel.pollReady_room isOpen free, isOpen.startSend, queued,
    Channel.pollReady_room (isOpen.trySend queued) left]

/-- With that room, a poll of a call that has not returned returns. -/
theorem Sending.poll_returns (tx : CustomStreamMediaPortTx) {framesTx : FramesChannel}
    {sending : Sending} (isOpen : framesTx.IsOpen) (room : framesTx.items.length + 1 < 513)
    (unfinished : ∀ result, sending ≠ .returned result) :
    ∃ result channel, sending.poll tx framesTx = some (.returned result, channel) := by
  cases sending with
  | called frame =>
    cases normalised : tx.normalise frame with
    | error error => exact ⟨.error error, framesTx, by simp [poll, normalised]⟩
    | ok accepted =>
      exact ⟨.ok (), (feed accepted framesTx).2, by
        simp [poll, normalised, ← feed_returns accepted isOpen room]⟩
  | feeding frame =>
    exact ⟨.ok (), (feed frame framesTx).2, by simp [poll, ← feed_returns frame isOpen room]⟩
  | flushing =>
    refine ⟨.ok (), framesTx, ?_⟩
    simp [poll, flush, Channel.pollFlush, Channel.pollReady_room isOpen (Nat.lt_of_succ_lt room)]
  | returned result => exact absurd rfl (unfinished result)

/-! ### What `send` should do -/

/-- A frame filled up to the samples per frame. -/
def CustomStreamMediaPortTx.padded (tx : CustomStreamMediaPortTx) (frame : Frame) : Frame where
  data := frame.data ++ List.replicate (tx.samplesPerFrame - frame.data.length) 0
  time := frame.time

/-- A frame of at most `samplesPerFrame` samples is put into the channel once, filled up, and then
`send` succeeds; a longer one is given back and nothing is put in. -/
def SendState.AsSpecified (tx : CustomStreamMediaPortTx) (frame : Frame) (before : FramesChannel)
    (s : SendState) : Prop :=
  if frame.data.length ≤ tx.samplesPerFrame then
    (s.Enqueued before [] ∧ ∀ result, s.sending ≠ .returned result) ∨
      (s.Enqueued before [tx.padded frame] ∧ ∀ result, s.sending = .returned result → result = .ok ())
  else
    s.Enqueued before [] ∧
      ∀ result, s.sending = .returned result → result = .error (.invalidSizeFrameError frame)

/-- `send` does so at any time of any schedule, and it returns when it is polled with room. -/
structure SendsAsSpecified (tx : CustomStreamMediaPortTx) (frame : Frame) : Prop where
  lawful : ∀ before, before.IsOpen → ∀ es s,
    (sendSystem tx).run (.start frame before) es = some s → s.AsSpecified tx frame before
  prompt : ∀ before, before.IsOpen → ∀ es s,
    (sendSystem tx).run (.start frame before) es = some s → s.framesTx.items.length + 1 < 513 →
      (∀ result, s.sending ≠ .returned result) →
        ∃ t result, s.step tx .poll = some t ∧ t.sending = .returned result

/-- A long frame is refused and nothing else happens. -/
theorem asSpecified_of_long {tx : CustomStreamMediaPortTx} {frame : Frame} {before : FramesChannel}
    {s : SendState} (stands : Stands tx frame before s)
    (long : 2 * tx.samplesPerFrame + 2 ≤ frame.data.length) : s.AsSpecified tx frame before := by
  have refused : tx.normalise frame = .error (.invalidSizeFrameError frame) := by
    rw [normalise_eq, if_pos (by omega)]
  unfold SendState.AsSpecified
  rw [if_neg (by omega)]
  cases stands with
  | called was enqueued => exact ⟨enqueued, fun result same => by rw [was] at same; cases same⟩
  | refused normalised was enqueued =>
    rw [refused] at normalised
    cases normalised
    refine ⟨enqueued, fun result same => ?_⟩
    rw [was] at same
    cases same
    rfl
  | feeding normalised was enqueued =>
    rw [refused] at normalised
    cases normalised
  | sent normalised was enqueued =>
    rw [refused] at normalised
    cases normalised

/-- An accepted frame that is what it should be is sent as it should be. -/
theorem asSpecified_of_padded {tx : CustomStreamMediaPortTx} {frame : Frame} {before : FramesChannel}
    {s : SendState} (stands : Stands tx frame before s)
    (short : frame.data.length ≤ tx.samplesPerFrame)
    (padded : tx.normalise frame = .ok (tx.padded frame)) : s.AsSpecified tx frame before := by
  unfold SendState.AsSpecified
  rw [if_pos short]
  cases stands with
  | called was enqueued =>
    exact Or.inl ⟨enqueued, fun result same => by rw [was] at same; cases same⟩
  | refused normalised was enqueued =>
    rw [padded] at normalised
    cases normalised
  | feeding normalised was enqueued =>
    exact Or.inl ⟨enqueued, fun result same => by rw [was] at same; cases same⟩
  | sent normalised was enqueued =>
    rw [padded] at normalised
    cases normalised
    refine Or.inr ⟨enqueued, fun result same => ?_⟩
    rcases was with was | was
    · rw [was] at same
      cases same
    · rw [was] at same
      cases same
      rfl

/-- What the first poll of `send` does on an empty channel. -/
theorem run_poll_empty {tx : CustomStreamMediaPortTx} {frame accepted : Frame}
    (normalised : tx.normalise frame = .ok accepted) :
    ∃ s, (sendSystem tx).run (.start frame (.new _ 513)) [.poll] = some s ∧
      s.Enqueued (.new _ 513) [accepted] ∧ s.sending = .returned (.ok ()) := by
  refine ⟨⟨.returned (.ok ()), ⟨[accepted], true, true, Nat.le_add_left 1 512⟩, []⟩, ?_, rfl, rfl⟩
  rw [System.run_cons_eq_some]
  refine ⟨_, ?_, rfl⟩
  show ((Sending.called frame).poll tx (.new _ 513)).map _ = _
  simp only [Sending.poll, normalised]
  rfl

/-- **`send` does what it should** exactly for frames that are longer than twice the samples per
frame by two at least, and for an empty frame of an empty length. -/
theorem sendsAsSpecified_iff (tx : CustomStreamMediaPortTx) (frame : Frame) :
    SendsAsSpecified tx frame ↔
      2 * tx.samplesPerFrame + 2 ≤ frame.data.length ∨
        (tx.samplesPerFrame = 0 ∧ frame.data.length = 0) := by
  constructor
  · intro specified
    by_contra other
    push Not at other
    obtain ⟨long, nonempty⟩ := other
    -- the frame is accepted, and put into an empty channel at the first poll
    obtain ⟨accepted, normalised, size⟩ : ∃ accepted, tx.normalise frame = .ok accepted ∧
        (accepted.data.length = tx.samplesPerFrame * 2 ∨
          accepted.data.length = tx.samplesPerFrame * 2 + 1) := by
      cases answer : tx.normalise frame with
      | error error =>
        rw [normalise_eq, if_neg (by omega)] at answer
        split at answer <;> cases answer
      | ok accepted =>
        refine ⟨accepted, rfl, ?_⟩
        rcases normalise_accepts answer with even | ⟨rfl, odd⟩
        · exact Or.inl even
        · exact Or.inr odd
    obtain ⟨s, ran, enqueued, returned⟩ := run_poll_empty normalised
    have lawful := specified.lawful _ ⟨rfl, rfl⟩ _ s ran
    unfold SendState.AsSpecified at lawful
    split at lawful
    case isTrue short =>
      rcases lawful with ⟨_, unfinished⟩ | ⟨padded, _⟩
      · exact unfinished _ returned
      · have same : [accepted] = [tx.padded frame] := enqueued.symm.trans padded
        have length := congrArg (fun frames : List Frame => frames.map (·.data.length)) same
        simp [CustomStreamMediaPortTx.padded] at length
        omega
    case isFalse =>
      have refused := lawful.2 _ returned
      cases refused
  · intro condition
    refine ⟨?_, ?_⟩
    · intro before isOpen es s ran
      have stands := (sending_of_run isOpen ran).1
      rcases condition with long | ⟨none, empty⟩
      · exact asSpecified_of_long stands long
      · refine asSpecified_of_padded stands (by omega) ?_
        rw [normalise_eq, empty, none]
        simp [CustomStreamMediaPortTx.padded, none]
    · intro before isOpen es s ran room unfinished
      obtain ⟨result, channel, polled⟩ :=
        Sending.poll_returns tx (sending_of_run isOpen ran).2 room unfinished
      exact ⟨_, result, Option.map_eq_some_iff.mpr ⟨_, polled, rfl⟩, rfl⟩

/-- With two samples per frame, a frame of one sample is filled up to four. -/
theorem not_sendsAsSpecified_one : ¬ ∀ tx frame, SendsAsSpecified tx frame := by
  intro specified
  obtain ⟨s, ran, enqueued, returned⟩ := run_poll_empty
    (show (CustomStreamMediaPortTx.mk 16 2 rfl).normalise ⟨[7], ⟨0⟩⟩ = .ok ⟨[7, 0, 0, 0], ⟨0⟩⟩
      from rfl)
  have lawful := (specified _ _).lawful _ ⟨rfl, rfl⟩ _ s ran
  rcases lawful with ⟨_, unfinished⟩ | ⟨padded, _⟩
  · exact unfinished _ returned
  · exact absurd (enqueued.symm.trans padded) (by decide)

/-! ### The `Sink` implementation -/

/-- `poll_ready` and `start_send` of `impl Sink<Frame> for CustomStreamMediaPortTx`: the sender's
own. -/
def CustomStreamMediaPortTx.pollReady (framesTx : FramesChannel) :
    Poll (Except PollSendError Unit) := framesTx.pollReady

def CustomStreamMediaPortTx.startSend (item : Frame) (framesTx : FramesChannel) :
    Except (TrySendError Frame) FramesChannel := framesTx.startSend item

/-- How far a push through the sink has come. -/
inductive Pushing
  /-- It waits until the sink is ready. -/
  | waiting (item : Frame)
  | returned (result : Except PollSendError Unit)
  deriving DecidableEq

/-- `poll_ready`, and `start_send` once that succeeds; `none` once it has returned. -/
def Pushing.poll (framesTx : FramesChannel) : Pushing → Option (Pushing × FramesChannel)
  | waiting item =>
    match CustomStreamMediaPortTx.pollReady framesTx with
    | .pending => some (waiting item, framesTx)
    | .ready (.error error) => some (returned (.error error), framesTx)
    | .ready (.ok ()) =>
      match CustomStreamMediaPortTx.startSend item framesTx with
      | .ok framesTx => some (returned (.ok ()), framesTx)
      | .error _ => some (returned (.error .disconnected), framesTx)
  | returned _ => none

/-- The channel after the first poll of a push through the sink. -/
def pushedBySink (frame : Frame) (framesTx : FramesChannel) : FramesChannel :=
  ((Pushing.waiting frame).poll framesTx).elim framesTx Prod.snd

theorem pushedBySink_cases (frame : Frame) (framesTx : FramesChannel) :
    pushedBySink frame framesTx = framesTx ∨
      ∃ sent, framesTx.trySend frame = .ok sent ∧ pushedBySink frame framesTx = sent := by
  unfold pushedBySink
  cases ready : CustomStreamMediaPortTx.pollReady framesTx with
  | pending => exact Or.inl (by simp [Pushing.poll, ready])
  | ready answer =>
    cases answer with
    | error error => exact Or.inl (by simp [Pushing.poll, ready])
    | ok =>
      cases sending : CustomStreamMediaPortTx.startSend frame framesTx with
      | ok sent =>
        exact Or.inr ⟨sent, (Channel.startSend_eq_ok.mp sending).2, by
          simp [Pushing.poll, ready, sending]⟩
      | error error => exact Or.inl (by simp [Pushing.poll, ready, sending])

/-- The channel after the first poll of `send`. -/
def pushedBySend (tx : CustomStreamMediaPortTx) (frame : Frame) (framesTx : FramesChannel) :
    FramesChannel := ((Sending.called frame).poll tx framesTx).elim framesTx Prod.snd

theorem pushedBySend_refused {tx : CustomStreamMediaPortTx} {frame : Frame} {error : SendError}
    (normalised : tx.normalise frame = .error error) (framesTx : FramesChannel) :
    pushedBySend tx frame framesTx = framesTx := by
  simp [pushedBySend, Sending.poll, normalised]

/-- What `CustomStreamMediaPortTx.send` leaves in the channel is what the future puts there. -/
theorem pushedBySend_of_send {tx : CustomStreamMediaPortTx} {frame : Frame}
    {framesTx after : FramesChannel} (sent : tx.send frame framesTx = .ready (.ok after)) :
    pushedBySend tx frame framesTx = after := by
  obtain ⟨accepted, normalised, started⟩ := send_eq_ok.mp sent
  obtain ⟨alive, queued⟩ := Channel.startSend_eq_ok.mp started
  obtain ⟨receiver, room, _⟩ := Channel.trySend_eq_ok.mp queued
  have isOpen : framesTx.IsOpen := ⟨receiver, alive⟩
  have fed : Sending.feed accepted framesTx = Sending.flush after := by
    simp [Sending.feed, Channel.pollReady_room isOpen room, isOpen.startSend, queued]
  simp [pushedBySend, Sending.poll, normalised, fed, (Sending.flush_open (isOpen.trySend queued)).1]

/-! ### Both ways under one schedule -/

/-- A way into the port: how far it has come, the channel, and the frames that have left it. -/
structure Entry (ω : Type) where
  way : ω
  framesTx : FramesChannel
  gone : List Frame

inductive EntryEvent
  | poll
  /-- The port takes a frame out, if there is one. -/
  | take
  /-- The port is destroyed, and what waits with it. -/
  | destroy
  deriving DecidableEq, Repr

namespace Entry

section Way

variable {ω : Type} (poll : FramesChannel → ω → Option (ω × FramesChannel))

def step (s : Entry ω) : EntryEvent → Entry ω
  | .poll =>
    match poll s.framesTx s.way with
    | some (way, framesTx) => { s with way := way, framesTx := framesTx }
    | none => s
  | .take =>
    match s.framesTx.recv with
    | .ready (some frame, framesRx) =>
      { s with framesTx := framesRx, gone := s.gone ++ [frame] }
    | _ => s
  | .destroy =>
    { s with framesTx := s.framesTx.dropReceiver, gone := s.gone ++ s.framesTx.items }

def after (s : Entry ω) (es : List EntryEvent) : Entry ω := es.foldl (step poll) s

end Way

/-- All frames that were in the channel or came into it. -/
def frames {ω : Type} (s : Entry ω) : List Frame := s.gone ++ s.framesTx.items

end Entry

/-- Both ways put the same into the channel, at any time of any schedule: the frame that `send` would
put in, and nothing when `send` refuses it. -/
def SinkAgrees (tx : CustomStreamMediaPortTx) (framesTx : FramesChannel) (frame : Frame) : Prop :=
  ∀ es, (Entry.after Pushing.poll ⟨.waiting frame, framesTx, []⟩ es).frames =
    (Entry.after (Sending.poll tx) ⟨.called frame, framesTx, []⟩ es).frames

/-! #### Through a shut channel -/

theorem Pushing.poll_shut {framesTx : FramesChannel} {pushing : Pushing}
    {answer : Pushing × FramesChannel} (shut : ¬ framesTx.IsOpen)
    (given : pushing.poll framesTx = some answer) : answer.2 = framesTx := by
  cases pushing with
  | waiting item =>
    simp only [poll, CustomStreamMediaPortTx.pollReady, Channel.pollReady_shut shut,
      Option.some.injEq] at given
    rw [← given]
  | returned result => cases given

theorem Sending.feed_shut {framesTx : FramesChannel} (frame : Frame) (shut : ¬ framesTx.IsOpen) :
    Sending.feed frame framesTx = (.returned (.error .sendErr), framesTx) := by
  simp [feed, Channel.pollReady_shut shut]

theorem Sending.flush_shut {framesTx : FramesChannel} (shut : ¬ framesTx.IsOpen) :
    Sending.flush framesTx = (.returned (.ok ()), framesTx) := by
  simp [flush, Channel.pollFlush_shut shut]

theorem Sending.poll_shut (tx : CustomStreamMediaPortTx) {framesTx : FramesChannel}
    {sending : Sending} {answer : Sending × FramesChannel} (shut : ¬ framesTx.IsOpen)
    (given : sending.poll tx framesTx = some answer) : answer.2 = framesTx := by
  cases sending with
  | called frame =>
    cases normalised : tx.normalise frame with
    | error error =>
      simp only [poll, normalised, Option.some.injEq] at given
      rw [← given]
    | ok accepted =>
      simp only [poll, normalised, feed_shut accepted shut, Option.some.injEq] at given
      rw [← given]
  | feeding frame =>
    simp only [poll, feed_shut frame shut, Option.some.injEq] at given
    rw [← given]
  | flushing =>
    simp only [poll, flush_shut shut, Option.some.injEq] at given
    rw [← given]
  | returned result => cases given

/-! #### Side by side -/

/-- A push through the sink and a call of `send` are equally far. -/
inductive Abreast (frame : Frame) : Pushing → Sending → Prop
  | called : Abreast frame (.waiting frame) (.called frame)
  | feeding : Abreast frame (.waiting frame) (.feeding frame)
  | flushing (result : Except PollSendError Unit) : Abreast frame (.returned result) .flushing
  | returned (result : Except PollSendError Unit) (answer : Except SendError Unit) :
      Abreast frame (.returned result) (.returned answer)

/-- Both have the same channel. Unless it is shut, `send` leaves the frame as it is, and they are
equally far. -/
structure Alike (tx : CustomStreamMediaPortTx) (frame : Frame) (s : Entry Pushing)
    (t : Entry Sending) : Prop where
  framesTx : s.framesTx = t.framesTx
  gone : s.gone = t.gone
  abreast : t.framesTx.IsOpen → tx.normalise frame = .ok frame ∧ Abreast frame s.way t.way

section Alike

variable {tx : CustomStreamMediaPortTx} {frame : Frame} {s : Entry Pushing} {t : Entry Sending}

theorem Alike.frames (alike : Alike tx frame s t) : s.frames = t.frames := by
  unfold Entry.frames
  rw [alike.framesTx, alike.gone]

/-- A poll that leaves the channel as it was. -/
theorem Entry.poll_kept {ω : Type} {poll : FramesChannel → ω → Option (ω × FramesChannel)}
    {u : Entry ω} (keeps : ∀ answer, poll u.framesTx u.way = some answer → answer.2 = u.framesTx) :
    (u.step poll .poll).framesTx = u.framesTx ∧ (u.step poll .poll).gone = u.gone := by
  unfold Entry.step
  cases given : poll u.framesTx u.way with
  | none => exact ⟨rfl, rfl⟩
  | some answer => exact ⟨keeps answer given, rfl⟩

/-- The frame is in the channel, and `send` waits for the flush or has returned. -/
theorem alike_of_sent (gone : List Frame) (sent : FramesChannel)
    (normalised : tx.normalise frame = .ok frame) (result : Except PollSendError Unit) :
    Alike tx frame ⟨.returned result, sent, gone⟩
      ⟨(Sending.flush sent).1, (Sending.flush sent).2, gone⟩ := by
  by_cases isOpen : sent.IsOpen
  · obtain ⟨same, flushed⟩ := Sending.flush_open isOpen
    refine ⟨same.symm, rfl, fun _ => ⟨normalised, ?_⟩⟩
    show Abreast frame (.returned result) (Sending.flush sent).1
    rcases flushed with flushing | returned
    · rw [flushing]
      exact .flushing result
    · rw [returned]
      exact .returned result (.ok ())
  · rw [Sending.flush_shut isOpen]
    exact ⟨rfl, rfl, fun isOpen' => absurd isOpen' isOpen⟩

/-- Both wait for room, or both put the frame in. -/
theorem alike_of_waiting (gone : List Frame) {framesTx : FramesChannel} {pushing : Pushing}
    {pushed : FramesChannel} (normalised : tx.normalise frame = .ok frame) (isOpen : framesTx.IsOpen)
    (polled : (Pushing.waiting frame).poll framesTx = some (pushing, pushed)) :
    Alike tx frame ⟨pushing, pushed, gone⟩
      ⟨(Sending.feed frame framesTx).1, (Sending.feed frame framesTx).2, gone⟩ := by
  by_cases room : framesTx.items.length < 513
  · obtain ⟨sent, queued, _⟩ := Channel.trySend_isOk isOpen.receiver room frame
    have fed : Sending.feed frame framesTx = Sending.flush sent := by
      simp [Sending.feed, Channel.pollReady_room isOpen room, isOpen.startSend, queued]
    simp only [Pushing.poll, CustomStreamMediaPortTx.pollReady, Channel.pollReady_room isOpen room,
      CustomStreamMediaPortTx.startSend, isOpen.startSend, queued, Option.some.injEq,
      Prod.mk.injEq] at polled
    obtain ⟨rfl, rfl⟩ := polled
    rw [fed]
    exact alike_of_sent gone sent normalised (.ok ())
  · have fed : Sending.feed frame framesTx = (.feeding frame, framesTx) := by
      simp [Sending.feed, Channel.pollReady_full isOpen room]
    simp only [Pushing.poll, CustomStreamMediaPortTx.pollReady, Channel.pollReady_full isOpen room,
      Option.some.injEq, Prod.mk.injEq] at polled
    obtain ⟨rfl, rfl⟩ := polled
    rw [fed]
    exact ⟨rfl, rfl, fun _ => ⟨normalised, .feeding⟩⟩

theorem Pushing.poll_waiting (frame : Frame) (framesTx : FramesChannel) :
    ∃ pushing pushed, (Pushing.waiting frame).poll framesTx = some (pushing, pushed) := by
  cases ready : CustomStreamMediaPortTx.pollReady framesTx with
  | pending => exact ⟨_, _, by simp only [poll, ready]; rfl⟩
  | ready answer =>
    cases answer with
    | error error => exact ⟨_, _, by simp only [poll, ready]; rfl⟩
    | ok =>
      cases sending : CustomStreamMediaPortTx.startSend frame framesTx with
      | ok sent => exact ⟨_, _, by simp only [poll, ready, sending]; rfl⟩
      | error error => exact ⟨_, _, by simp only [poll, ready, sending]; rfl⟩

/-- **One poll of each.** -/
theorem Alike.poll (alike : Alike tx frame s t) :
    Alike tx frame (s.step Pushing.poll .poll) (t.step (Sending.poll tx) .poll) := by
  obtain ⟨pushing, framesTx, gone⟩ := s
  obtain ⟨sending, channel, left⟩ := t
  obtain rfl : framesTx = channel := alike.framesTx
  obtain rfl : gone = left := alike.gone
  by_cases isOpen : framesTx.IsOpen
  · obtain ⟨normalised, abreast⟩ := alike.abreast isOpen
    obtain ⟨next, pushed, polled⟩ := Pushing.poll_waiting frame framesTx
    cases abreast with
    | called =>
      have goes := alike_of_waiting gone normalised isOpen polled
      simpa [Entry.step, polled, Sending.poll, normalised] using goes
    | feeding =>
      have goes := alike_of_waiting gone normalised isOpen polled
      simpa [Entry.step, polled, Sending.poll] using goes
    | flushing result =>
      have goes := alike_of_sent gone framesTx normalised result
      simpa [Entry.step, Pushing.poll, Sending.poll] using goes
    | returned result answer =>
      exact alike
  · obtain ⟨sinkFrames, sinkGone⟩ := Entry.poll_kept
      (u := ⟨pushing, framesTx, gone⟩) fun _ given => Pushing.poll_shut isOpen given
    obtain ⟨sendFrames, sendGone⟩ := Entry.poll_kept
      (u := ⟨sending, framesTx, gone⟩) fun _ given => Sending.poll_shut tx isOpen given
    refine ⟨sinkFrames.trans sendFrames.symm, sinkGone.trans sendGone.symm, fun stillOpen => ?_⟩
    rw [sendFrames] at stillOpen
    exact absurd stillOpen isOpen

/-- **One event.** -/
theorem Alike.step (alike : Alike tx frame s t) (e : EntryEvent) :
    Alike tx frame (s.step Pushing.poll e) (t.step (Sending.poll tx) e) := by
  cases e with
  | poll => exact alike.poll
  | take =>
    obtain ⟨pushing, framesTx, gone⟩ := s
    obtain ⟨sending, channel, left⟩ := t
    obtain rfl : framesTx = channel := alike.framesTx
    obtain rfl : gone = left := alike.gone
    cases received : framesTx.recv with
    | pending => simpa [Entry.step, received] using alike
    | ready answer =>
      obtain ⟨got, framesRx⟩ := answer
      cases got with
      | none => simpa [Entry.step, received] using alike
      | some first =>
        rcases Channel.recv_eq_ready received with ⟨_, _, _, receiver, sender⟩ | ⟨none, _⟩
        · simp only [Entry.step, received]
          exact ⟨rfl, rfl, fun isOpen =>
            alike.abreast ⟨receiver ▸ isOpen.receiver, sender ▸ isOpen.sender⟩⟩
        · cases none
  | destroy =>
    refine ⟨?_, ?_, fun isOpen => ?_⟩
    · simp only [Entry.step, alike.framesTx]
    · simp only [Entry.step, alike.framesTx, alike.gone]
    · cases isOpen.receiver

/-- **Any schedule.** -/
theorem Alike.after (es : List EntryEvent) (alike : Alike tx frame s t) :
    Alike tx frame (s.after Pushing.poll es) (t.after (Sending.poll tx) es) := by
  induction es generalizing s t with
  | nil => exact alike
  | cons e es ih => exact ih (alike.step e)

end Alike

/-! #### When they agree -/

/-- A channel that the port has taken a frame out of, if there was one, has room. -/
theorem Entry.take_room {ω : Type} (poll : FramesChannel → ω → Option (ω × FramesChannel)) (way : ω)
    {framesTx : FramesChannel} (isOpen : framesTx.IsOpen) :
    ∃ rest gone, Entry.step poll ⟨way, framesTx, []⟩ .take = ⟨way, rest, gone⟩ ∧ rest.IsOpen ∧
      gone ++ rest.items = framesTx.items ∧ rest.items.length < 513 := by
  cases waiting : framesTx.items with
  | nil =>
    have pending := Channel.recv_nil waiting isOpen.sender
    exact ⟨framesTx, [], by simp [step, pending], isOpen, by simp [waiting], by simp [waiting]⟩
  | cons first others =>
    obtain ⟨rest, received, items, receiver, sender⟩ := Channel.recv_cons waiting
    have bounded := framesTx.bounded
    rw [waiting, List.length_cons] at bounded
    refine ⟨rest, [first], by simp [step, received],
      ⟨receiver.trans isOpen.receiver, sender.trans isOpen.sender⟩, by simp [items], ?_⟩
    rw [items]
    exact bounded

/-- With room, a push through the sink puts the frame in. -/
theorem frames_of_push (frame : Frame) {framesTx : FramesChannel} (isOpen : framesTx.IsOpen) :
    (Entry.after Pushing.poll ⟨.waiting frame, framesTx, []⟩ [.take, .poll]).frames =
      framesTx.items ++ [frame] := by
  obtain ⟨rest, gone, taken, restOpen, items, room⟩ :=
    Entry.take_room Pushing.poll (.waiting frame) isOpen
  obtain ⟨sent, queued, added, _⟩ := Channel.trySend_isOk restOpen.receiver room frame
  have pushed : (Pushing.waiting frame).poll rest = some (.returned (.ok ()), sent) := by
    simp [Pushing.poll, CustomStreamMediaPortTx.pollReady, CustomStreamMediaPortTx.startSend,
      Channel.pollReady_room restOpen room, restOpen.startSend, queued]
  show ((Entry.step Pushing.poll _ .take).step Pushing.poll .poll).frames = _
  rw [taken]
  simp [Entry.step, pushed, Entry.frames, added, ← items]

/-- With room, a call of `send` puts in what `normalise` accepts. -/
theorem frames_of_send (tx : CustomStreamMediaPortTx) (frame : Frame) {framesTx : FramesChannel}
    (isOpen : framesTx.IsOpen) :
    (Entry.after (Sending.poll tx) ⟨.called frame, framesTx, []⟩ [.take, .poll]).frames =
      framesTx.items ++ (tx.normalise frame).toOption.toList := by
  obtain ⟨rest, gone, taken, restOpen, items, room⟩ :=
    Entry.take_room (Sending.poll tx) (.called frame) isOpen
  show ((Entry.step (Sending.poll tx) _ .take).step (Sending.poll tx) .poll).frames = _
  rw [taken]
  cases normalised : tx.normalise frame with
  | error error =>
    simp [Entry.step, Sending.poll, normalised, Entry.frames, ← items, Except.toOption]
  | ok accepted =>
    obtain ⟨sent, queued, added, _⟩ := Channel.trySend_isOk restOpen.receiver room accepted
    have fed : Sending.feed accepted rest = Sending.flush sent := by
      simp [Sending.feed, Channel.pollReady_room restOpen room, restOpen.startSend, queued]
    simp [Entry.step, Sending.poll, normalised, fed, Entry.frames, added,
      (Sending.flush_open (restOpen.trySend queued)).1, ← items, Except.toOption]

/-- `send` leaves a frame as it is exactly if it has twice the samples per frame, or one more. -/
theorem normalise_same_iff {tx : CustomStreamMediaPortTx} {frame : Frame} :
    tx.normalise frame = .ok frame ↔
      2 * tx.samplesPerFrame ≤ frame.data.length ∧
        frame.data.length ≤ 2 * tx.samplesPerFrame + 1 := by
  constructor
  · intro same
    rcases normalise_accepts same with even | ⟨_, odd⟩ <;> omega
  · rintro ⟨shortest, longest⟩
    rw [normalise_eq, if_neg (by omega), if_neg (by omega)]

/-- **Both ways agree** exactly for a frame of twice the samples per frame, or one sample more, unless
the sender was closed or nobody receives. -/
theorem sinkAgrees_iff (tx : CustomStreamMediaPortTx) (framesTx : FramesChannel) (frame : Frame) :
    SinkAgrees tx framesTx frame ↔
      (2 * tx.samplesPerFrame ≤ frame.data.length ∧
        frame.data.length ≤ 2 * tx.samplesPerFrame + 1) ∨
        framesTx.senderOpen = false ∨ framesTx.receiverOpen = false := by
  rw [← normalise_same_iff, ← Channel.not_isOpen_iff]
  constructor
  · intro agrees
    by_contra other
    obtain ⟨changed, isOpen⟩ := not_or.mp other
    have same := agrees [.take, .poll]
    rw [frames_of_push frame (not_not.mp isOpen), frames_of_send tx frame (not_not.mp isOpen),
      List.append_cancel_left_eq] at same
    cases normalised : tx.normalise frame with
    | error error =>
      rw [normalised] at same
      cases same
    | ok accepted =>
      rw [normalised] at same
      cases same
      exact changed normalised
  · intro condition es
    have alike : Alike tx frame ⟨.waiting frame, framesTx, []⟩ ⟨.called frame, framesTx, []⟩ :=
      ⟨rfl, rfl, fun isOpen => ⟨condition.resolve_right (not_not.mpr isOpen), .called⟩⟩
    exact (alike.after es).frames

/-- With one sample per frame, the sink lets a frame of four samples in that `send` refuses. -/
theorem not_sinkAgrees_four : ¬ ∀ tx framesTx frame, SinkAgrees tx framesTx frame := by
  intro agrees
  have same := agrees ⟨16, 1, rfl⟩ (.new _ 513) ⟨[1, 2, 3, 4], ⟨0⟩⟩ [.poll]
  exact absurd same (by decide)

end PjsipClient.AudioStream
