/-
The data behind the two ports of a call, and the channels it holds an end of.

`CustomSinkMediaPort::new` and `CustomStreamMediaPort::new` put their `MediaPortData` behind a raw
pointer. It is released by `custom_port_on_destroy`, which `pjmedia_port_destroy` calls, and only the
drop of a port that was added calls that. A `PortedCall` is a call with the two ports that its
application has made for it: who has each of them, how often its data was released, and its channel.

* `CallObject.Moves.passes` — what a move does to a port that was passed to `add`.
* `Ledger` — who has a port, and whether it was added and removed, say how often its data was released.
  Kept by every step.
* `portData_released_iff` — a port that is gone has released its data, and its channel is closed,
  exactly when the port was added and its removal did not fail.
-/

import PjsipClient.PjsuaCall.World
import PjsipClient.Pjmedia.AudioSink
import PjsipClient.Pjmedia.StreamPort

namespace PjsipClient

open Transport Transition

/-! ### What a call object has of its ports -/

/-- A port that was passed to `add`: as it was passed, in the wrapper of a port in the bridge, or
dropped. -/
inductive Custody
  | unadded
  | added
  | nothing
  deriving DecidableEq, Repr

def DropStage.drops : DropStage → List PortKind
  | removePort kind _ | destroyPort kind _ => [kind]
  | _ => []

def Owned.drops : Owned → List PortKind
  | handle => []
  | port kind _ => [kind]

namespace Phase

/-- The ports that `add` has not added yet. -/
def arguments : Phase → List PortKind
  | addSink => [.sink, .stream]
  | addStream _ => [.stream]
  | _ => []

/-- The added ports, up to the end of their drop. -/
def wrappers : Phase → List PortKind
  | addStream _ => [.sink]
  | sendMedia _ | awaitAnswer _ | awaitState _ _ | inCall _ => [.sink, .stream]
  | dropping stage rest _ => stage.drops ++ rest.flatMap Owned.drops
  | _ => []

def custody (phase : Phase) (kind : PortKind) : Custody :=
  if kind ∈ phase.arguments then .unadded
  else if kind ∈ phase.wrappers then .added
  else .nothing

theorem arguments_drop (plan : List Owned) (after : After) : (drop plan after).arguments = [] := by
  cases plan <;> rfl

theorem wrappers_drop (plan : List Owned) (after : After) :
    (drop plan after).wrappers = plan.flatMap Owned.drops := by
  cases plan with
  | nil => rfl
  | cons owned rest => cases owned <;> rfl

theorem custody_drop (plan : List Owned) (after : After) (kind : PortKind) :
    (drop plan after).custody kind = if kind ∈ plan.flatMap Owned.drops then .added else .nothing := by
  simp [custody, arguments_drop, wrappers_drop]

theorem custody_dropping (stage : DropStage) (rest : List Owned) (after : After) (kind : PortKind) :
    (dropping stage rest after).custody kind =
      if kind ∈ stage.drops ++ rest.flatMap Owned.drops then .added else .nothing := by
  simp [custody, arguments, wrappers]

end Phase

/-! ### The events of a port -/

/-- The port is added to the bridge. -/
def AppEvent.adds (kind : PortKind) : AppEvent → Bool
  | addPort added _ status => decide (added = kind ∧ status = pjSuccess)
  | _ => false

/-- The removal of the port from the bridge fails. -/
def AppEvent.failsRemoval (kind : PortKind) : AppEvent → Bool
  | removePort removed _ status => decide (removed = kind ∧ status ≠ pjSuccess)
  | _ => false

/-- `pjmedia_port_destroy` is called for the port. -/
def AppEvent.destroys (kind : PortKind) : AppEvent → Bool
  | destroyPort destroyed _ _ => decide (destroyed = kind)
  | _ => false

namespace CallObject

/-- What a move does to a port that was passed to `add`. -/
inductive Passes (o t : CallObject) (e : AppEvent) (kind : PortKind) : Prop
  | kept (same : t.phase.custody kind = o.phase.custody kind) (passed : e ≠ .add)
      (adds : e.adds kind = false) (removal : e.failsRemoval kind = false)
      (destroys : e.destroys kind = false)
  | passed (event : e = .add) (was : o.phase.custody kind = .nothing)
      (is : t.phase.custody kind = .unadded)
  | added (adds : e.adds kind = true) (removal : e.failsRemoval kind = false)
      (destroys : e.destroys kind = false) (was : o.phase.custody kind = .unadded)
      (is : t.phase.custody kind = .added)
  | refused (passed : e ≠ .add) (adds : e.adds kind = false) (removal : e.failsRemoval kind = false)
      (destroys : e.destroys kind = false) (was : o.phase.custody kind = .unadded)
      (is : t.phase.custody kind = .nothing)
  | stuck (adds : e.adds kind = false) (removal : e.failsRemoval kind = true)
      (destroys : e.destroys kind = false) (was : o.phase.custody kind = .added)
      (is : t.phase.custody kind = .nothing)
  | destroyed (adds : e.adds kind = false) (removal : e.failsRemoval kind = false)
      (destroys : e.destroys kind = true) (was : o.phase.custody kind = .added)
      (is : t.phase.custody kind = .nothing)

/-- The drop of an added port goes on to the next value: the port is gone, and the other is not
concerned. -/
theorem Passes.of_next {o t : CallObject} {e : AppEvent} {stage : DropStage} {rest : List Owned}
    {after next : After} {dropped : PortKind} (drops : stage.drops = [dropped])
    (was : o.phase = .dropping stage rest after) (is : t.phase = .drop rest next)
    (distinct : o.phase.wrappers.Nodup) (kind : PortKind)
    (last : o.phase.custody dropped = .added → t.phase.custody dropped = .nothing →
      Passes o t e dropped)
    (other : kind ≠ dropped → e ≠ .add ∧ e.adds kind = false ∧ e.failsRemoval kind = false ∧
      e.destroys kind = false) : Passes o t e kind := by
  by_cases same : kind = dropped
  · subst same
    have absent : kind ∉ rest.flatMap Owned.drops := by
      have distinct : (stage.drops ++ rest.flatMap Owned.drops).Nodup := by
        rw [was] at distinct
        exact distinct
      rw [drops, List.singleton_append] at distinct
      exact (List.nodup_cons.mp distinct).1
    refine last ?_ ?_
    · rw [was, Phase.custody_dropping, drops]
      simp
    · rw [is, Phase.custody_drop, if_neg absent]
  · obtain ⟨passed, adds, removal, destroys⟩ := other same
    refine .kept ?_ passed adds removal destroys
    rw [was, is, Phase.custody_dropping, Phase.custody_drop, drops]
    simp [same]

/-- **What becomes of a port.** -/
theorem Moves.passes {o t : CallObject} {e : AppEvent} (moved : Moves o e t)
    (distinct : o.phase.wrappers.Nodup) (going : t.phase ≠ .aborted) (kind : PortKind) :
    Passes o t e kind := by
  cases moved with
  | add was =>
    refine .passed rfl ?_ ?_
    · rw [was]
      rfl
    · cases kind <;> rfl
  | addSink was =>
    cases kind with
    | sink => exact .added (by simp [AppEvent.adds]) rfl rfl (by rw [was]; rfl) rfl
    | stream =>
      exact .kept (by rw [was]; rfl) (fun same => by cases same) (by simp [AppEvent.adds]) rfl rfl
  | addStream was =>
    cases kind with
    | sink =>
      exact .kept (by rw [was]; rfl) (fun same => by cases same) (by simp [AppEvent.adds]) rfl rfl
    | stream => exact .added (by simp [AppEvent.adds]) rfl rfl (by rw [was]; rfl) rfl
  | addSinkFailed was failed =>
    exact .refused (fun same => by cases same) (by simp [AppEvent.adds, failed]) rfl rfl
      (by rw [was]; cases kind <;> rfl) (by cases kind <;> rfl)
  | addStreamFailed was failed =>
    cases kind with
    | sink =>
      exact .kept (by rw [was]; rfl) (fun same => by cases same) (by simp [AppEvent.adds]) rfl rfl
    | stream =>
      exact .refused (fun same => by cases same) (by simp [AppEvent.adds, failed]) rfl rfl
        (by rw [was]; rfl) rfl
  | removePort was =>
    refine .kept ?_ (fun same => by cases same) rfl (by simp [AppEvent.failsRemoval]) rfl
    rw [was]
    rfl
  | removeFailed was failed =>
    refine .of_next rfl was (Phase.panic_of_going going) distinct kind ?_ fun other => ?_
    · exact .stuck rfl (by simp [AppEvent.failsRemoval, failed]) rfl
    · exact ⟨fun event => (by cases event), rfl, by simp [AppEvent.failsRemoval, Ne.symm other], rfl⟩
  | destroyPort was =>
    refine .of_next rfl was rfl distinct kind ?_ fun other => ?_
    · exact .destroyed rfl rfl (by simp [AppEvent.destroys])
    · exact ⟨fun event => (by cases event), rfl, rfl, by simp [AppEvent.destroys, Ne.symm other]⟩
  | destroyFailed was failed =>
    refine .of_next rfl was (Phase.panic_of_going going) distinct kind ?_ fun other => ?_
    · exact .destroyed rfl rfl (by simp [AppEvent.destroys])
    · exact ⟨fun event => (by cases event), rfl, rfl, by simp [AppEvent.destroys, Ne.symm other]⟩
  | hangupFailed was failed =>
    refine .kept ?_ (fun event => by cases event) rfl rfl rfl
    show (Phase.panic _ _).custody kind = _
    rw [Phase.panic_of_going going, was, Phase.custody_dropping, Phase.custody_dropping]
    rfl
  | freeFields was =>
    refine .kept ?_ (fun event => by cases event) rfl rfl rfl
    rw [was, Phase.custody_drop, Phase.custody_dropping]
    rfl
  | checkActive active was =>
    refine .kept ?_ (fun event => by cases event) rfl rfl rfl
    rw [was]
    cases active <;> rfl
  | drop planned =>
    refine .kept ?_ (fun event => by cases event) rfl rfl rfl
    rw [Phase.custody_drop]
    cases was : o.phase <;> rw [was] at planned <;> cases planned <;> cases kind <;> rfl
  | runJob status spawned => exact .kept rfl (fun event => by cases event) rfl rfl rfl
  | new was => exact .kept (by rw [was]; rfl) (fun event => by cases event) rfl rfl rfl
  | newFailed was failed => exact .kept (by rw [was]; rfl) (fun event => by cases event) rfl rfl rfl
  | _ =>
    exact .kept (by rw [‹o.phase = _›]; cases kind <;> rfl) (fun event => by cases event) rfl rfl rfl

/-- **A port is dropped once.** -/
theorem Moves.wrappers_nodup {o t : CallObject} {e : AppEvent} (moved : Moves o e t)
    (distinct : o.phase.wrappers.Nodup) : t.phase.wrappers.Nodup := by
  cases moved with
  | runJob status spawned => exact distinct
  | drop planned =>
    rw [Phase.wrappers_drop]
    cases was : o.phase <;> rw [was] at planned <;> cases planned <;> simp [Owned.drops]
  | freeFields was =>
    rw [was] at distinct
    rw [Phase.wrappers_drop]
    exact distinct
  | destroyPort was =>
    rw [was] at distinct
    rw [Phase.wrappers_drop]
    exact (List.nodup_cons.mp distinct).2
  | removePort was =>
    rw [was] at distinct
    exact distinct
  | checkActive active was =>
    rw [was] at distinct
    cases active <;> exact distinct
  | hangupCall was =>
    rw [was] at distinct
    exact distinct
  | hangupFailed was failed =>
    rw [was] at distinct
    exact Phase.panic_of (·.wrappers.Nodup) _ distinct List.nodup_nil
  | removeFailed was failed =>
    rw [was] at distinct
    refine Phase.panic_of (·.wrappers.Nodup) _ ?_ List.nodup_nil
    rw [Phase.wrappers_drop]
    exact (List.nodup_cons.mp distinct).2
  | destroyFailed was failed =>
    rw [was] at distinct
    refine Phase.panic_of (·.wrappers.Nodup) _ ?_ List.nodup_nil
    rw [Phase.wrappers_drop]
    exact (List.nodup_cons.mp distinct).2
  | _ => simp [result, Phase.wrappers, Phase.drop, DropStage.drops, Owned.start, Owned.drops]

end CallObject

/-! ### A call with its ports -/

/-- Who has a port that `new` made: a call has it from `add` on. -/
inductive PortHolder
  | application
  | call
  | nobody
  deriving DecidableEq, Repr

structure PortedCall where
  world : World
  holder : PortKind → PortHolder
  /-- How often the data was taken back from its pointer. -/
  released : PortKind → ℕ
  sink : AudioSink.Capture
  stream : AudioStream.AddedPort

inductive PortsEvent
  | call (event : CallEvent)
  /-- The application drops a port that it has not passed to `add`. -/
  | dropPort (kind : PortKind)
  /-- The bridge hands a frame to the sink port, or the application's end is used. -/
  | sink (event : AudioSink.CaptureEvent)
  /-- The application sends to the stream port, or the bridge calls one of its callbacks. -/
  | stream (event : AudioStream.PortEvent)

/-- The bridge calls a callback of the port. -/
def PortsEvent.callsBack : PortsEvent → Option PortKind
  | sink (.putFrame _ _ _) => some .sink
  | stream (.getFrame _ _) | stream (.putFrame _ _) => some .stream
  | _ => none

namespace PortedCall

/-- A call with two ports that were just made. -/
def start (world : World) (sinkRate : UInt32) (sinkChannels : UInt64) (streamRate : UInt32)
    (streamChannels samplesPerFrame : ℕ) : PortedCall where
  world := world
  holder := fun _ => .application
  released := fun _ => 0
  sink := .new sinkRate sinkChannels
  stream :=
    { tx := (AudioStream.CustomStreamMediaPort.made streamRate streamChannels samplesPerFrame).2
      base := AudioStream.CustomStreamMediaPort.base streamRate streamChannels samplesPerFrame
      enqueued := []
      copied := []
      puts := [] }

def phase (s : PortedCall) : Phase := s.world.object.phase

/-- `CustomStreamMediaPortAdded::new` after the bridge has accepted the port. That of the sink port
sets the callback that is set already. -/
def streamAdded (s : PortedCall) : PortedCall :=
  { s with
    stream := { s.stream with base := AudioStream.CustomStreamMediaPortAdded.new s.stream.base } }

/-- `pjmedia_port_destroy` calls `on_destroy` once. -/
def destroy (s : PortedCall) : PortKind → PortedCall
  | .sink =>
    { s with
      released := Function.update s.released .sink (s.released .sink + 1)
      sink := { s.sink with portData := AudioSink.customPortOnDestroy s.sink.portData } }
  | .stream =>
    { s with
      released := Function.update s.released .stream (s.released .stream + 1)
      stream :=
        { s.stream with
          base :=
            { s.stream.base with
              portData := AudioStream.customPortOnDestroy s.stream.base.portData } } }

/-- What an event of the call does to its ports; `none` if the application does not have the ports
that it passes to `add`. -/
def handOver (s : PortedCall) : CallEvent → Option PortedCall
  | .app .add =>
    if s.holder .sink = .application ∧ s.holder .stream = .application then
      some { s with holder := fun _ => .call }
    else none
  | .app (.addPort .stream _ status) => if status = pjSuccess then some s.streamAdded else some s
  | .app (.destroyPort kind _ _) => some (s.destroy kind)
  | _ => some s

section Elapsed

variable (pjElapsedNanosec : ℕ → ℕ → UInt32)

/-- The bridge calls back only into a port that is in it and was not freed; nothing goes on in a
process that has ended. -/
def step (s : PortedCall) (e : PortsEvent) : Option PortedCall :=
  if s.world.abort = none ∧ s.phase ≠ .aborted ∧
      ∀ kind ∈ e.callsBack, kind ∈ s.world.ports.map Prod.fst ∧ s.phase.custody kind = .added then
    match e with
    | .call event =>
      (s.world.step event).bind fun world =>
        (s.handOver event).map fun next => { next with world := world }
    | .dropPort kind =>
      if s.holder kind = .application then
        some { s with holder := Function.update s.holder kind .nobody }
      else none
    | .sink event =>
      match s.sink.step pjElapsedNanosec event with
      | .ok sink => some { s with sink := sink }
      | .error _ => none
    | .stream event => (s.stream.step event).map fun stream => { s with stream := stream }
  else none

end Elapsed

end PortedCall

/-- One call with its ports. -/
def portedSystem (pjElapsedNanosec : ℕ → ℕ → UInt32) : System PortedCall PortsEvent :=
  ⟨PortedCall.step pjElapsedNanosec⟩

def PortsEvent.adds (kind : PortKind) : PortsEvent → Bool
  | call (.app event) => event.adds kind
  | _ => false

def PortsEvent.failsRemoval (kind : PortKind) : PortsEvent → Bool
  | call (.app event) => event.failsRemoval kind
  | _ => false

/-- The port was added to the bridge, and did not stay there when it was dropped. -/
def AddedAndRemoved (kind : PortKind) (es : List PortsEvent) : Prop :=
  (∃ e ∈ es, e.adds kind = true) ∧ ∀ e ∈ es, e.failsRemoval kind = false

namespace PortedCall

/-- The port's life has ended: its value was dropped, with or without an unwinding panic. An abort of
the process drops nothing. -/
def Gone (s : PortedCall) (kind : PortKind) : Prop :=
  s.phase ≠ .aborted ∧
    (s.holder kind = .nobody ∨ s.holder kind = .call ∧ s.phase.custody kind = .nothing)

/-- The application sees that the port is gone: `recv` returns `None` after the frames that wait, and
`send` returns `SendErr`. -/
def ClosesChannel (s : PortedCall) : PortKind → Prop
  | .sink => s.sink.portData.framesTx.Drains s.sink.portData.framesTx.items
  | .stream => ∀ {frame accepted : Frame}, s.stream.tx.normalise frame = .ok accepted →
      s.stream.tx.send frame s.stream.base.portData.framesRx = .ready (.error .sendErr)

end PortedCall

/-! ### The ledger -/

/-- Nothing was done to the port in the bridge. -/
def Untouched (kind : PortKind) (past : List PortsEvent) : Prop :=
  ∀ e ∈ past, e.adds kind = false ∧ e.failsRemoval kind = false

/-- Who has a port, and how often its data was released. -/
inductive Ledger (kind : PortKind) (past : List PortsEvent) : PortHolder → Custody → ℕ → Prop
  | application (untouched : Untouched kind past) : Ledger kind past .application .nothing 0
  | discarded (untouched : Untouched kind past) : Ledger kind past .nobody .nothing 0
  | unadded (untouched : Untouched kind past) : Ledger kind past .call .unadded 0
  | added (done : AddedAndRemoved kind past) : Ledger kind past .call .added 0
  | released (done : AddedAndRemoved kind past) : Ledger kind past .call .nothing 1
  | leaked (undone : ¬ AddedAndRemoved kind past) : Ledger kind past .call .nothing 0

theorem Untouched.append {kind : PortKind} {past : List PortsEvent} {e : PortsEvent}
    (untouched : Untouched kind past) (adds : e.adds kind = false)
    (removal : e.failsRemoval kind = false) : Untouched kind (past ++ [e]) := by
  intro event member
  rcases List.mem_append.mp member with old | new
  · exact untouched event old
  · rw [List.mem_singleton.mp new]
    exact ⟨adds, removal⟩

theorem Untouched.undone {kind : PortKind} {past : List PortsEvent}
    (untouched : Untouched kind past) : ¬ AddedAndRemoved kind past := by
  rintro ⟨⟨e, member, adds⟩, _⟩
  cases (untouched e member).1.symm.trans adds

theorem addedAndRemoved_append {kind : PortKind} {past : List PortsEvent} {e : PortsEvent} :
    AddedAndRemoved kind (past ++ [e]) ↔
      ((∃ event ∈ past, event.adds kind = true) ∨ e.adds kind = true) ∧
        (∀ event ∈ past, event.failsRemoval kind = false) ∧ e.failsRemoval kind = false := by
  simp [AddedAndRemoved, or_imp, forall_and, or_and_right, exists_or]

theorem addedAndRemoved_quiet {kind : PortKind} {past : List PortsEvent} {e : PortsEvent}
    (adds : e.adds kind = false) (removal : e.failsRemoval kind = false) :
    AddedAndRemoved kind (past ++ [e]) ↔ AddedAndRemoved kind past := by
  rw [addedAndRemoved_append, adds, removal]
  simp [AddedAndRemoved]

/-- An event that does not concern the port in the bridge. -/
theorem Ledger.quiet {kind : PortKind} {past : List PortsEvent} {e : PortsEvent}
    {holder : PortHolder} {custody : Custody} {n : ℕ} (ledger : Ledger kind past holder custody n)
    (adds : e.adds kind = false) (removal : e.failsRemoval kind = false) :
    Ledger kind (past ++ [e]) holder custody n := by
  cases ledger with
  | application untouched => exact .application (untouched.append adds removal)
  | discarded untouched => exact .discarded (untouched.append adds removal)
  | unadded untouched => exact .unadded (untouched.append adds removal)
  | added done => exact .added ((addedAndRemoved_quiet adds removal).mpr done)
  | released done => exact .released ((addedAndRemoved_quiet adds removal).mpr done)
  | leaked undone => exact .leaked fun done => undone ((addedAndRemoved_quiet adds removal).mp done)

/-- **What a move writes into the ledger**: a port passed to `add` was the application's, and a
destroyed port releases its data. -/
theorem Ledger.passes {kind : PortKind} {past : List PortsEvent} {event : AppEvent}
    {o t : CallObject} {holder after : PortHolder} {n : ℕ}
    (ledger : Ledger kind past holder (o.phase.custody kind) n)
    (passes : o.Passes t event kind)
    (handed : event = .add → holder = .application ∧ after = .call)
    (same : event ≠ .add → after = holder) :
    Ledger kind (past ++ [.call (.app event)]) after (t.phase.custody kind)
      (n + if event.destroys kind = true then 1 else 0) := by
  cases passes with
  | kept custody passed adds removal destroys =>
    rw [custody, same passed, destroys]
    exact ledger.quiet adds removal
  | passed add was is =>
    obtain ⟨had, has⟩ := handed add
    subst add had has
    rw [was] at ledger
    rw [is]
    cases ledger with
    | application untouched => exact .unadded (untouched.append rfl rfl)
  | added adds removal destroys was is =>
    have passed : event ≠ .add := fun add => by
      subst add
      cases adds
    rw [was] at ledger
    rw [is, same passed, destroys]
    cases ledger with
    | unadded untouched =>
      refine .added (addedAndRemoved_append.mpr ⟨Or.inr adds, ?_, removal⟩)
      exact fun earlier member => (untouched earlier member).2
  | refused passed adds removal destroys was is =>
    rw [was] at ledger
    rw [is, same passed, destroys]
    cases ledger with
    | unadded untouched =>
      have still : Untouched kind (past ++ [.call (.app event)]) := untouched.append adds removal
      exact .leaked still.undone
  | stuck adds removal destroys was is =>
    have passed : event ≠ .add := fun add => by
      subst add
      cases removal
    rw [was] at ledger
    rw [is, same passed, destroys]
    cases ledger with
    | added done =>
      refine .leaked fun still => ?_
      cases removal.symm.trans (addedAndRemoved_append.mp still).2.2
  | destroyed adds removal destroys was is =>
    have passed : event ≠ .add := fun add => by
      subst add
      cases destroys
    rw [was] at ledger
    rw [is, same passed, destroys]
    cases ledger with
    | added done =>
      have still : AddedAndRemoved kind (past ++ [.call (.app event)]) :=
        (@addedAndRemoved_quiet kind past (.call (.app event)) adds removal).mpr done
      exact .released still

namespace PortedCall

/-! ### The channels' ends -/

/-- The port's end of a channel is there as long as its data was not released. -/
structure Ends (s : PortedCall) : Prop where
  sink : s.sink.portData.framesTx.senderOpen = decide (s.released .sink = 0)
  stream : s.stream.base.portData.framesRx.receiverOpen = decide (s.released .stream = 0)
  made : s.stream.Made

/-- **Released data closes the channel.** -/
theorem Ends.closes {s : PortedCall} (ends : s.Ends) {kind : PortKind}
    (released : s.released kind = 1) : s.ClosesChannel kind := by
  cases kind with
  | sink =>
    refine Channel.drains_of_closed ?_
    rw [ends.sink, released]
    rfl
  | stream =>
    intro frame accepted normalised
    have gone : s.stream.base.portData.framesRx.receiverOpen = false := by
      rw [ends.stream, released]
      rfl
    simp [AudioStream.CustomStreamMediaPortTx.send, normalised, Channel.startSend_closed gone]

theorem Ends.destroy {s : PortedCall} (ends : s.Ends) (kind : PortKind) : (s.destroy kind).Ends := by
  cases kind with
  | sink =>
    refine ⟨?_, ?_, ends.made⟩
    · simp [PortedCall.destroy, AudioSink.customPortOnDestroy, Channel.dropSender]
    · simpa [PortedCall.destroy] using ends.stream
  | stream =>
    refine ⟨?_, ?_, ends.made⟩
    · simpa [PortedCall.destroy] using ends.sink
    · simp [PortedCall.destroy, AudioStream.customPortOnDestroy, Channel.dropReceiver]

theorem Ends.streamAdded {s : PortedCall} (ends : s.Ends) : s.streamAdded.Ends :=
  ⟨ends.sink, ends.stream, ends.made.1, Or.inr rfl⟩

theorem handOver_own {s : PortedCall} {e : CallEvent} (own : e.operation = none) :
    s.handOver e = some s := by
  cases e with
  | app event => cases own
  | _ => rfl

/-- **What an operation does to the ports**: `add` takes both, and a destroyed port releases its
data. -/
structure HandsOver (s next : PortedCall) (event : AppEvent) : Prop where
  ends : s.Ends → next.Ends
  passed : event = .add → ∀ kind, s.holder kind = .application ∧ next.holder kind = .call
  same : event ≠ .add → ∀ kind, next.holder kind = s.holder kind
  released : ∀ kind, next.released kind =
    s.released kind + if event.destroys kind = true then 1 else 0

theorem handOver_app {s next : PortedCall} {event : AppEvent}
    (handed : s.handOver (.app event) = some next) : HandsOver s next event := by
  have quiet : (∀ kind, event.destroys kind = false) → event ≠ .add → next = s ∨ next = s.streamAdded →
      HandsOver s next event := by
    rintro undestroyed other (rfl | rfl)
    · exact ⟨id, fun add => absurd add other, fun _ _ => rfl, fun kind => by simp [undestroyed kind]⟩
    · exact ⟨Ends.streamAdded, fun add => absurd add other, fun _ _ => rfl,
        fun kind => by simp [undestroyed kind, streamAdded]⟩
  cases event with
  | add =>
    obtain ⟨had, same⟩ := Option.ite_none_right_eq_some.mp handed
    cases same
    refine ⟨fun ends => ⟨ends.sink, ends.stream, ends.made⟩, fun _ kind => ⟨?_, rfl⟩,
      fun other => absurd rfl other, fun _ => rfl⟩
    cases kind with
    | sink => exact had.1
    | stream => exact had.2
  | addPort kind slot status =>
    refine quiet (fun _ => rfl) (fun same => by cases same) ?_
    cases kind with
    | sink =>
      cases handed
      exact Or.inl rfl
    | stream =>
      have handed : (if status = pjSuccess then some s.streamAdded else some s) = some next := handed
      split at handed
      · cases handed
        exact Or.inr rfl
      · cases handed
        exact Or.inl rfl
  | destroyPort destroyed slot status =>
    cases handed
    refine ⟨fun ends => ends.destroy destroyed, fun same => (by cases same), fun _ kind => ?_,
      fun kind => ?_⟩
    · cases destroyed <;> rfl
    · cases destroyed <;> cases kind <;> simp [destroy, AppEvent.destroys]
  | _ =>
    cases handed
    exact quiet (fun _ => rfl) (fun same => by cases same) (Or.inl rfl)

/-! ### The steps -/

/-- The ledger and the ends of the channels, for a call with these events behind it. -/
structure Kept (past : List PortsEvent) (s : PortedCall) : Prop where
  distinct : s.phase.wrappers.Nodup
  ledger : s.phase ≠ .aborted → ∀ kind,
    Ledger kind past (s.holder kind) (s.phase.custody kind) (s.released kind)
  ends : s.Ends

variable {pjElapsedNanosec : ℕ → ℕ → UInt32} {past : List PortsEvent} {s t : PortedCall}

/-- Steps that leave the call and the bridge alone. -/
theorem Kept.quiet {e : PortsEvent} (kept : s.Kept past) (adds : ∀ kind, e.adds kind = false)
    (removal : ∀ kind, e.failsRemoval kind = false) (object : t.world.object = s.world.object)
    (holder : t.holder = s.holder) (released : t.released = s.released) (ends : t.Ends) :
    t.Kept (past ++ [e]) := by
  have phase : t.phase = s.phase := congrArg CallObject.phase object
  refine ⟨phase ▸ kept.distinct, fun going kind => ?_, ends⟩
  rw [phase] at going
  rw [holder, released, phase]
  exact (kept.ledger going kind).quiet (adds kind) (removal kind)

/-- A step of the call. -/
theorem Kept.call {event : CallEvent} {world : World} {next : PortedCall} (kept : s.Kept past)
    (went : s.world.step event = some world) (handed : s.handOver event = some next) :
    Kept (past ++ [.call event]) { next with world := world } := by
  have going := World.going_of_step went
  obtain ⟨_, steps⟩ := World.steps_of_step went
  rcases steps.pjsua_or_app with
    ⟨object, _, _, _, _, own⟩ | ⟨event, object, _, rfl, moved, effects, rfl⟩
  · cases (handOver_own own).symm.trans handed
    have quiet : ∀ kind, (PortsEvent.call event).adds kind = false ∧
        (PortsEvent.call event).failsRemoval kind = false := fun kind => by
      cases event <;> first | exact ⟨rfl, rfl⟩ | cases own
    exact kept.quiet (fun kind => (quiet kind).1) (fun kind => (quiet kind).2) object rfl rfl
      ⟨kept.ends.sink, kept.ends.stream, kept.ends.made⟩
  · have hands := handOver_app handed
    have ends := hands.ends kept.ends
    refine ⟨moved.wrappers_nodup kept.distinct, fun goes kind => ?_, ends.sink, ends.stream, ends.made⟩
    have ledger := (kept.ledger going kind).passes (moved.passes kept.distinct goes kind)
      (fun add => hands.passed add kind) (fun other => hands.same other kind)
    rwa [← hands.released kind] at ledger

/-- A port that the application drops. -/
theorem Kept.dropPort {kind : PortKind} (kept : s.Kept past) (going : s.phase ≠ .aborted)
    (had : s.holder kind = .application) :
    Kept (past ++ [.dropPort kind])
      { s with holder := Function.update s.holder kind .nobody } := by
  refine ⟨kept.distinct, fun _ other => ?_, kept.ends.sink, kept.ends.stream, kept.ends.made⟩
  have ledger := @Ledger.quiet _ _ (.dropPort kind) _ _ _ (kept.ledger going other) rfl rfl
  show Ledger other _ (Function.update s.holder kind .nobody other) (s.phase.custody other) _
  by_cases same : other = kind
  · subst same
    rw [had] at ledger
    rw [Function.update_self]
    generalize s.phase.custody other = custody at ledger ⊢
    generalize s.released other = released at ledger ⊢
    cases ledger with
    | application untouched => exact .discarded untouched
  · rwa [Function.update_of_ne same]

/-- **One step keeps the ledger.** -/
theorem Kept.step {e : PortsEvent} (kept : s.Kept past)
    (stepped : s.step pjElapsedNanosec e = some t) : t.Kept (past ++ [e]) := by
  obtain ⟨⟨_, going, _⟩, stepped⟩ := Option.ite_none_right_eq_some.mp stepped
  cases e with
  | call event =>
    obtain ⟨world, went, stepped⟩ := Option.bind_eq_some_iff.mp stepped
    obtain ⟨next, handed, rfl⟩ := Option.map_eq_some_iff.mp stepped
    exact kept.call went handed
  | dropPort kind =>
    obtain ⟨had, same⟩ := Option.ite_none_right_eq_some.mp stepped
    cases same
    exact kept.dropPort going had
  | sink event =>
    simp only at stepped
    split at stepped
    case h_1 sink used =>
      cases stepped
      refine kept.quiet (fun _ => rfl) (fun _ => rfl) rfl rfl rfl ⟨?_, kept.ends.stream, kept.ends.made⟩
      exact (AudioSink.Capture.step_sender pjElapsedNanosec used).trans kept.ends.sink
    case h_2 => cases stepped
  | stream event =>
    obtain ⟨stream, used, rfl⟩ := Option.map_eq_some_iff.mp stepped
    obtain ⟨getFrame, putFrame, _⟩ := AudioStream.AddedPort.frame_of_step used
    refine kept.quiet (fun _ => rfl) (fun _ => rfl) rfl rfl rfl ⟨kept.ends.sink, ?_, ?_⟩
    · exact (AudioStream.AddedPort.step_receiver kept.ends.made used).trans kept.ends.stream
    · exact ⟨getFrame.trans kept.ends.made.1, putFrame ▸ kept.ends.made.2⟩

theorem kept_start (callId confPort : Int) (inv : PjsipInvState) (media : CallMediaStatus)
    (outstanding : Bool) (sinkRate : UInt32) (sinkChannels : UInt64) (streamRate : UInt32)
    (streamChannels samplesPerFrame : ℕ) :
    (start (.start callId confPort inv media outstanding) sinkRate sinkChannels streamRate
      streamChannels samplesPerFrame).Kept [] := by
  refine ⟨List.nodup_nil, fun _ kind => ?_, rfl, rfl, rfl, Or.inl rfl⟩
  cases kind <;> exact .application fun e member => absurd member List.not_mem_nil

/-- What the ledger says of a port that is gone. -/
theorem Kept.released_iff (kept : s.Kept past) {kind : PortKind} (gone : s.Gone kind) :
    s.released kind = 1 ↔ AddedAndRemoved kind past := by
  obtain ⟨going, lost⟩ := gone
  have ledger := kept.ledger going kind
  generalize s.phase.custody kind = custody at ledger lost
  generalize s.released kind = released at ledger ⊢
  generalize s.holder kind = holder at ledger lost
  cases ledger with
  | application untouched => simp at lost
  | discarded untouched => simp [untouched.undone]
  | unadded untouched => simp at lost
  | added done => simp at lost
  | released done => simp [done]
  | leaked undone => simp [undone]

end PortedCall

/-- **A port that is gone has released its data once, and closed its channel**, exactly when it was
added to the bridge and its removal did not fail. -/
theorem portData_released_iff (pjElapsedNanosec : ℕ → ℕ → UInt32) (callId confPort : Int)
    (inv : PjsipInvState) (media : CallMediaStatus) (outstanding : Bool) (sinkRate : UInt32)
    (sinkChannels : UInt64) (streamRate : UInt32) (streamChannels samplesPerFrame : ℕ)
    {es : List PortsEvent} {s : PortedCall}
    (ran : (portedSystem pjElapsedNanosec).run (.start (.start callId confPort inv media outstanding)
      sinkRate sinkChannels streamRate streamChannels samplesPerFrame) es = some s)
    {kind : PortKind} (gone : s.Gone kind) :
    (s.released kind = 1 ∧ s.ClosesChannel kind) ↔ AddedAndRemoved kind es := by
  have start := PortedCall.kept_start callId confPort inv media outstanding sinkRate sinkChannels
    streamRate streamChannels samplesPerFrame
  have kept : s.Kept es :=
    @System.run_keeps_past _ _ (portedSystem pjElapsedNanosec) PortedCall.Kept
      (fun _ _ _ _ before stepped => before.step stepped) [] es _ s start ran
  rw [← kept.released_iff gone]
  exact ⟨And.left, fun released => ⟨released, kept.ends.closes released⟩⟩

/-- A clock that counts nanoseconds. -/
def nanosecondClock (_ elapsed : ℕ) : UInt32 := .ofNat elapsed

/-- `add` is cancelled while it waits for its answer; a frame was sent before. -/
def cancelledWithPorts : List PortsEvent :=
  [.call (.app (.setUserData pjSuccess)), .call (.app .answerSessionProgress), .call (.app .add),
    .call (.app (.addPort .sink 5 pjSuccess)), .call (.app (.addPort .stream 6 pjSuccess)),
    .stream (.send ⟨[1, 2], ⟨0⟩⟩), .call (.app (.sendMediaData (.ofPorts 5 6))),
    .call (.app .drop), .call (.app (.removePort .stream 6 pjSuccess)),
    .call (.app (.destroyPort .stream 6 pjSuccess))]

theorem portData_released_iff_cancelled :
    ∃ s, (portedSystem nanosecondClock).run
        (.start (.start 0 3 .incoming .none false) 1000 1 1000 1 1) cancelledWithPorts = some s ∧
      ((s.released .stream = 1 ∧ s.ClosesChannel .stream) ↔
        AddedAndRemoved .stream cancelledWithPorts) := by
  refine ⟨_, rfl, ?_⟩
  refine portData_released_iff nanosecondClock 0 3 .incoming .none false 1000 1 1000 1 1
    (show (portedSystem nanosecondClock).run
      (.start (.start 0 3 .incoming .none false) 1000 1 1000 1 1) cancelledWithPorts = some _ from rfl)
    ⟨fun same => ?_, Or.inr ⟨rfl, rfl⟩⟩
  cases same

/-- The bridge refuses the stream port: its data stays behind the pointer, and the sender waits on a
channel that nobody empties. -/
theorem not_portData_released :
    ¬ ∀ es s kind, (portedSystem nanosecondClock).run
        (.start (.start 0 3 .incoming .none false) 1000 1 1000 1 1) es = some s → s.Gone kind →
      s.released kind = 1 ∧ s.ClosesChannel kind := by
  intro closes
  have released := (closes
    [.call (.app (.setUserData pjSuccess)), .call (.app .answerSessionProgress), .call (.app .add),
      .call (.app (.addPort .sink 5 pjSuccess)), .call (.app (.addPort .stream 0 70004))] _ .stream rfl
    ⟨fun same => (by cases same), Or.inr ⟨rfl, rfl⟩⟩).1
  cases released

end PjsipClient
