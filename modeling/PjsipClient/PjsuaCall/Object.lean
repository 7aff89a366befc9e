/-
The application's side of one call (`pjsua_call.rs`), from the notification that `next_call` takes
out to the drop of the call's handle.

A `CallObject` is the call object that the application holds at the moment (`PjsuaIncomingCall`,
`PjsuaCallSetup`, a running `add`, `PjsuaCall`), the blocking job it has spawned, and what its
functions have returned. It moves by one pjsua call or channel operation at a time (`AppEvent`), so
that callbacks can come in between. Drop glue is a list of the owned parts still to be dropped
(`Owned`), each in its own stages (`DropStage`); a panic in it unwinds through the rest.

`CallObject.Moves` lists the moves; `CallObject.moves_of_step` is what every invariant starts from.
-/

import PjsipClient.PjsuaCall.Types

namespace PjsipClient

open Transport

/-! ### Awaiting a state -/

def awaitCallState (expected : PjsipInvState) (stateRecv : Option OnStateChangedSendData) :
    Except PjsuaError Unit :=
  match stateRecv with
  | some (_, stateRecv) =>
    if stateRecv = expected then .ok () else .error ⟨-1, .text "Unexpected state"⟩
  | none => .error ⟨-1, .text "Unexpected state"⟩

theorem awaitCallState_eq_ok {expected state : PjsipInvState} {callId : Int} :
    awaitCallState expected (some (callId, state)) = .ok () ↔ state = expected := by
  show (if state = expected then _ else _) = _ ↔ _
  split <;> simp_all

/-! ### Blocking jobs -/

/-- The answer codes of `answer_code`. -/
inductive AnswerCode
  | sessionProgress
  | ok
  deriving DecidableEq, Repr

def AnswerCode.asU32 : AnswerCode → ℕ
  | .sessionProgress => 183
  | .ok => 200

/-- The code with which `reject_incoming` hangs up. -/
def rejectCode : ℕ := 486

/-- The code with which `hangup_call` hangs up. -/
def hangupCode : ℕ := 200

/-- The closures given to `spawn_blocking_pjsua`. -/
inductive Job
  | acceptIncoming (answerState : AnswerCode)
  | rejectIncoming
  deriving DecidableEq, Repr

/-- A job that was spawned runs, whether or not its `JoinHandle` is still awaited. -/
inductive JobState
  | none
  | spawned (job : Job)
  | finished (job : Job) (result : Except PjsuaError Unit)
  deriving DecidableEq

/-! ### Drop glue -/

inductive PortKind
  | sink
  | stream
  deriving DecidableEq, Repr

/-- The values with a `Drop` of their own: the call handle and the added media ports. -/
inductive Owned
  | handle
  | port (kind : PortKind) (slot : Int)
  deriving DecidableEq, Repr

/-- The operations in which these values are dropped. -/
inductive DropStage
  | checkActive
  | hangup
  | freeFields
  | removePort (kind : PortKind) (slot : Int)
  | destroyPort (kind : PortKind) (slot : Int)
  deriving DecidableEq, Repr

def Owned.start : Owned → DropStage
  | handle => .checkActive
  | port kind slot => .removePort kind slot

/-- What a function of the call object returned. -/
inductive Return
  | nextCall (result : Except PjsuaError Unit)
  | reject (result : Except PjsuaError Unit)
  | add (result : Except PjsuaError Unit)
  | awaitHangup (result : Except PjsuaError Unit)
  | hangup
  deriving DecidableEq

/-- What follows the drops: the function returns (or its future is gone and nothing is returned),
`reject` goes on to its job, or the unwinding of a panic goes on. -/
inductive After
  | leave (value : Option Return)
  | spawnReject
  | unwind
  deriving DecidableEq

/-! ### The call object -/

/-- The slots of the ports that `add` added. -/
structure AddedPorts where
  sink : Int
  stream : Int
  deriving DecidableEq, Repr

/-- The states that a call awaits, in this order. -/
inductive Awaited
  | connecting
  | confirmed
  | disconnected
  deriving DecidableEq, Repr

def Awaited.state : Awaited → PjsipInvState
  | connecting => .connecting
  | confirmed => .confirmed
  | disconnected => .disconnected

inductive Phase
  /-- `next_call` has taken the notification out. -/
  | notified
  /-- A `PjsuaIncomingCall`. -/
  | incoming
  /-- A `PjsuaCallSetup`. -/
  | setup
  | addSink
  | addStream (sinkAdded : Int)
  | sendMedia (ports : AddedPorts)
  | awaitAnswer (ports : AddedPorts)
  | awaitState (awaited : Awaited) (ports : AddedPorts)
  /-- A `PjsuaCall`. -/
  | inCall (ports : AddedPorts)
  | awaitReject
  | dropping (stage : DropStage) (rest : List Owned) (after : After)
  | dropped (after : After)
  | ended
  | panicked
  | aborted
  deriving DecidableEq

namespace Phase

/-- Drop the given values in order. -/
def drop : List Owned → After → Phase
  | [], after => dropped after
  | owned :: rest, after => dropping owned.start rest after

/-- A panic in drop glue: the rest is dropped while unwinding. A second panic aborts. -/
def panic (resume : After → Phase) : After → Phase
  | .unwind => aborted
  | _ => resume .unwind

/-- What is dropped, in order, with the call object or with the future that holds it. A `PjsuaCall`
drops its fields in the order of their declaration; in `add` the locals go in reverse order. -/
def dropPlan : Phase → Option (List Owned)
  | incoming | setup => some [.handle]
  | awaitAnswer ports => some [.port .stream ports.stream, .port .sink ports.sink, .handle]
  | awaitState _ ports | inCall ports =>
    some [.port .sink ports.sink, .port .stream ports.stream, .handle]
  | awaitReject => some []
  | _ => none

end Phase

structure CallObject where
  phase : Phase
  job : JobState
  returns : List Return
  deriving DecidableEq

/-- What the application does, with what it is answered. The last group are the operations of the
drop glue. -/
inductive AppEvent
  | setUserData (status : PjStatus)
  | answerSessionProgress
  | reject
  | add
  | addPort (kind : PortKind) (slot : Int) (status : PjStatus)
  | sendMediaData (data : CallMediaData)
  | runJob (job : Job) (status : PjStatus)
  | joinJob
  | recvState (stateRecv : Option OnStateChangedSendData)
  | awaitHangup
  | hangup
  | drop
  | checkActive (active : Bool)
  | hangupCall (status : PjStatus)
  | freeFields
  | removePort (kind : PortKind) (slot : Int) (status : PjStatus)
  | destroyPort (kind : PortKind) (slot : Int) (status : PjStatus)
  | finish
  deriving DecidableEq

/-- The events at which the application calls neither pjsua nor a channel, or makes a call that only
its own port sees. -/
def AppEvent.isQuiet : AppEvent → Bool
  | answerSessionProgress | reject | add | joinJob | awaitHangup | hangup | drop
  | destroyPort _ _ _ | finish => true
  | _ => false

namespace CallObject

/-- A notification that was just taken out. -/
def fresh : CallObject := ⟨.notified, .none, []⟩

/-- The functions return `value`. -/
def result (o : CallObject) (phase : Phase) (value : Return) : CallObject :=
  { o with phase := phase, returns := o.returns ++ [value] }

/-- `PjsuaIncomingCall::new`, that is `PjsuaCallHandle::new`. -/
def new (o : CallObject) (status : PjStatus) : Option CallObject :=
  match o.phase with
  | .notified =>
    match getErrorAsResult status with
    | .ok () => some (o.result .incoming (.nextCall (.ok ())))
    | .error error => some (o.result .ended (.nextCall (.error error)))
  | _ => none

/-- The two `add` calls of `PjsuaCallSetup::add`. -/
def addPort (o : CallObject) (kind : PortKind) (slot : Int) (status : PjStatus) :
    Option CallObject :=
  match o.phase, kind with
  | .addSink, .sink =>
    match getErrorAsResult status with
    | .ok () => some { o with phase := .addStream slot }
    | .error error =>
      some { o with phase := .drop [.handle] (.leave (some (.add (.error error)))) }
  | .addStream sinkAdded, .stream =>
    match getErrorAsResult status with
    | .ok () => some { o with phase := .sendMedia ⟨sinkAdded, slot⟩ }
    | .error error =>
      some { o with
        phase := .drop [.port .sink sinkAdded, .handle] (.leave (some (.add (.error error)))) }
  | _, _ => none

/-- The media data is sent and the answer is spawned. -/
def sendMediaData (o : CallObject) (data : CallMediaData) : Option CallObject :=
  match o.phase with
  | .sendMedia ports =>
    if data = .ofPorts ports.sink ports.stream then
      some { o with phase := .awaitAnswer ports, job := .spawned (.acceptIncoming .ok) }
    else none
  | _ => none

/-- `accept_incoming` and `reject_incoming`: their result is that of their one pjsua call. -/
def runJob (o : CallObject) (job : Job) (status : PjStatus) : Option CallObject :=
  if o.job = .spawned job then some { o with job := .finished job (getErrorAsResult status) }
  else none

/-- The `.await` of a spawned job, in `add` and in `reject`. -/
def joinJob (o : CallObject) : Option CallObject :=
  match o.phase, o.job with
  | .awaitAnswer ports, .finished (.acceptIncoming _) (.ok ()) =>
    some { o with phase := .awaitState .connecting ports }
  | .awaitAnswer ports, .finished (.acceptIncoming _) (.error error) =>
    some { o with
      phase := .drop [.port .stream ports.stream, .port .sink ports.sink, .handle]
        (.leave (some (.add (.error error)))) }
  | .awaitReject, .finished .rejectIncoming result => some (o.result .ended (.reject result))
  | _, _ => none

/-- `await_call_state`, twice in `add` and once in `await_hangup`. -/
def recvState (o : CallObject) (stateRecv : Option OnStateChangedSendData) : Option CallObject :=
  match o.phase with
  | .awaitState awaited ports =>
    match awaited, awaitCallState awaited.state stateRecv with
    | .connecting, .ok () => some { o with phase := .awaitState .confirmed ports }
    | .confirmed, .ok () => some (o.result (.inCall ports) (.add (.ok ())))
    | .disconnected, result =>
      some { o with
        phase := .drop [.port .sink ports.sink, .port .stream ports.stream, .handle]
          (.leave (some (.awaitHangup result))) }
    | _, .error error =>
      some { o with
        phase := .drop [.port .sink ports.sink, .port .stream ports.stream, .handle]
          (.leave (some (.add (.error error)))) }
  | _ => none

def awaitHangup (o : CallObject) : Option CallObject :=
  match o.phase with
  | .inCall ports => some { o with phase := .awaitState .disconnected ports }
  | _ => none

/-- `PjsuaCallSetup::hangup` drops the setup; `PjsuaCall::hangup` moves the handle out of the call
and drops it first. -/
def hangup (o : CallObject) : Option CallObject :=
  match o.phase with
  | .setup => some { o with phase := .drop [.handle] (.leave (some .hangup)) }
  | .inCall ports =>
    some { o with
      phase := .drop [.handle, .port .sink ports.sink, .port .stream ports.stream]
        (.leave (some .hangup)) }
  | _ => none

/-- The operations of the drop glue. -/
def dropStep (o : CallObject) (stage : DropStage) (rest : List Owned) (after : After) :
    AppEvent → Option CallObject
  | .checkActive active =>
    if stage = .checkActive then
      some { o with phase := .dropping (if active then .hangup else .freeFields) rest after }
    else none
  | .hangupCall status =>
    if stage = .hangup then
      match getErrorAsResult status with
      | .ok () => some { o with phase := .dropping .freeFields rest after }
      | .error _ => some { o with phase := .panic (.dropping .freeFields rest) after }
    else none
  | .freeFields =>
    if stage = .freeFields then some { o with phase := .drop rest after } else none
  | .removePort kind slot status =>
    if stage = .removePort kind slot then
      match getErrorAsResult status with
      | .ok () => some { o with phase := .dropping (.destroyPort kind slot) rest after }
      | .error _ => some { o with phase := .panic (.drop rest) after }
    else none
  | .destroyPort kind slot status =>
    if stage = .destroyPort kind slot then
      match getErrorAsResult status with
      | .ok () => some { o with phase := .drop rest after }
      | .error _ => some { o with phase := .panic (.drop rest) after }
    else none
  | _ => none

def dropGlue (o : CallObject) (e : AppEvent) : Option CallObject :=
  match o.phase with
  | .dropping stage rest after => o.dropStep stage rest after e
  | _ => none

/-- Everything is dropped. -/
def finish (o : CallObject) : Option CallObject :=
  match o.phase with
  | .dropped (.leave value) =>
    some { o with phase := .ended, returns := o.returns ++ value.toList }
  | .dropped .spawnReject =>
    some { o with phase := .awaitReject, job := .spawned .rejectIncoming }
  | .dropped .unwind => some { o with phase := .panicked }
  | _ => none

def step (o : CallObject) (e : AppEvent) : Option CallObject :=
  match e with
  | .setUserData status => o.new status
  | .answerSessionProgress =>
    if o.phase = .incoming then some { o with phase := .setup } else none
  | .reject =>
    if o.phase = .incoming then some { o with phase := .drop [.handle] .spawnReject } else none
  | .add => if o.phase = .setup then some { o with phase := .addSink } else none
  | .addPort kind slot status => o.addPort kind slot status
  | .sendMediaData data => o.sendMediaData data
  | .runJob job status => o.runJob job status
  | .joinJob => o.joinJob
  | .recvState stateRecv => o.recvState stateRecv
  | .awaitHangup => o.awaitHangup
  | .hangup => o.hangup
  | .drop => o.phase.dropPlan.map fun plan => { o with phase := .drop plan (.leave none) }
  | .finish => o.finish
  | e => o.dropGlue e

/-- A handle that hangs up goes on, however pjsua answers. -/
theorem hangupCall_of_hangup {o : CallObject} {rest : List Owned} {after : After}
    (was : o.phase = .dropping .hangup rest after) (status : PjStatus) :
    ∃ t, o.step (.hangupCall status) = some t := by
  have glue : o.step (.hangupCall status) = o.dropStep .hangup rest after (.hangupCall status) := by
    show o.dropGlue _ = _
    unfold dropGlue
    rw [was]
  rw [glue]
  rcases getErrorAsResult_cases status with ⟨_, given⟩ | ⟨_, given⟩
  · exact ⟨{ o with phase := .dropping .freeFields rest after }, by simp [dropStep, given]⟩
  · exact ⟨{ o with phase := .panic (.dropping .freeFields rest) after }, by simp [dropStep, given]⟩

/-! ### The moves -/

/-- The moves of a call object, one constructor for each way a function goes on. -/
inductive Moves (o : CallObject) : AppEvent → CallObject → Prop
  | new (was : o.phase = .notified) :
      Moves o (.setUserData pjSuccess) (o.result .incoming (.nextCall (.ok ())))
  | newFailed {status : PjStatus} (was : o.phase = .notified) (failed : status ≠ pjSuccess) :
      Moves o (.setUserData status) (o.result .ended (.nextCall (.error (.ofStatus status))))
  | answerSessionProgress (was : o.phase = .incoming) :
      Moves o .answerSessionProgress { o with phase := .setup }
  | reject (was : o.phase = .incoming) :
      Moves o .reject { o with phase := .drop [.handle] .spawnReject }
  | setupHangup (was : o.phase = .setup) :
      Moves o .hangup { o with phase := .drop [.handle] (.leave (some .hangup)) }
  | add (was : o.phase = .setup) : Moves o .add { o with phase := .addSink }
  | addSink {slot : Int} (was : o.phase = .addSink) :
      Moves o (.addPort .sink slot pjSuccess) { o with phase := .addStream slot }
  | addSinkFailed {slot : Int} {status : PjStatus} (was : o.phase = .addSink)
      (failed : status ≠ pjSuccess) :
      Moves o (.addPort .sink slot status) { o with
        phase := .drop [.handle] (.leave (some (.add (.error (.ofStatus status))))) }
  | addStream {sinkAdded slot : Int} (was : o.phase = .addStream sinkAdded) :
      Moves o (.addPort .stream slot pjSuccess) { o with phase := .sendMedia ⟨sinkAdded, slot⟩ }
  | addStreamFailed {sinkAdded slot : Int} {status : PjStatus} (was : o.phase = .addStream sinkAdded)
      (failed : status ≠ pjSuccess) :
      Moves o (.addPort .stream slot status) { o with
        phase := .drop [.port .sink sinkAdded, .handle]
          (.leave (some (.add (.error (.ofStatus status))))) }
  | sendMediaData {ports : AddedPorts} (was : o.phase = .sendMedia ports) :
      Moves o (.sendMediaData (.ofPorts ports.sink ports.stream))
        { o with phase := .awaitAnswer ports, job := .spawned (.acceptIncoming .ok) }
  | runJob {job : Job} (status : PjStatus) (spawned : o.job = .spawned job) :
      Moves o (.runJob job status) { o with job := .finished job (getErrorAsResult status) }
  | answered {ports : AddedPorts} {code : AnswerCode} (was : o.phase = .awaitAnswer ports)
      (finished : o.job = .finished (.acceptIncoming code) (.ok ())) :
      Moves o .joinJob { o with phase := .awaitState .connecting ports }
  | answerFailed {ports : AddedPorts} {code : AnswerCode} {error : PjsuaError}
      (was : o.phase = .awaitAnswer ports)
      (finished : o.job = .finished (.acceptIncoming code) (.error error)) :
      Moves o .joinJob { o with
        phase := .drop [.port .stream ports.stream, .port .sink ports.sink, .handle]
          (.leave (some (.add (.error error)))) }
  | rejected {result : Except PjsuaError Unit} (was : o.phase = .awaitReject)
      (finished : o.job = .finished .rejectIncoming result) :
      Moves o .joinJob (o.result .ended (.reject result))
  | connecting {ports : AddedPorts} {got : Option OnStateChangedSendData}
      (was : o.phase = .awaitState .connecting ports)
      (expected : awaitCallState .connecting got = .ok ()) :
      Moves o (.recvState got) { o with phase := .awaitState .confirmed ports }
  | confirmed {ports : AddedPorts} {got : Option OnStateChangedSendData}
      (was : o.phase = .awaitState .confirmed ports)
      (expected : awaitCallState .confirmed got = .ok ()) :
      Moves o (.recvState got) (o.result (.inCall ports) (.add (.ok ())))
  | unexpected {awaited : Awaited} {ports : AddedPorts} {got : Option OnStateChangedSendData}
      {error : PjsuaError} (was : o.phase = .awaitState awaited ports)
      (adding : awaited ≠ .disconnected)
      (refused : awaitCallState awaited.state got = .error error) :
      Moves o (.recvState got) { o with
        phase := .drop [.port .sink ports.sink, .port .stream ports.stream, .handle]
          (.leave (some (.add (.error error)))) }
  | disconnected {ports : AddedPorts} {got : Option OnStateChangedSendData}
      (was : o.phase = .awaitState .disconnected ports) :
      Moves o (.recvState got) { o with
        phase := .drop [.port .sink ports.sink, .port .stream ports.stream, .handle]
          (.leave (some (.awaitHangup (awaitCallState .disconnected got)))) }
  | awaitHangup {ports : AddedPorts} (was : o.phase = .inCall ports) :
      Moves o .awaitHangup { o with phase := .awaitState .disconnected ports }
  | hangup {ports : AddedPorts} (was : o.phase = .inCall ports) :
      Moves o .hangup { o with
        phase := .drop [.handle, .port .sink ports.sink, .port .stream ports.stream]
          (.leave (some .hangup)) }
  | drop {plan : List Owned} (planned : o.phase.dropPlan = some plan) :
      Moves o .drop { o with phase := .drop plan (.leave none) }
  | checkActive {rest : List Owned} {after : After} (active : Bool)
      (was : o.phase = .dropping .checkActive rest after) :
      Moves o (.checkActive active)
        { o with phase := .dropping (if active then .hangup else .freeFields) rest after }
  | hangupCall {rest : List Owned} {after : After} (was : o.phase = .dropping .hangup rest after) :
      Moves o (.hangupCall pjSuccess) { o with phase := .dropping .freeFields rest after }
  | hangupFailed {rest : List Owned} {after : After} {status : PjStatus}
      (was : o.phase = .dropping .hangup rest after) (failed : status ≠ pjSuccess) :
      Moves o (.hangupCall status) { o with phase := .panic (.dropping .freeFields rest) after }
  | freeFields {rest : List Owned} {after : After}
      (was : o.phase = .dropping .freeFields rest after) :
      Moves o .freeFields { o with phase := .drop rest after }
  | removePort {kind : PortKind} {slot : Int} {rest : List Owned} {after : After}
      (was : o.phase = .dropping (.removePort kind slot) rest after) :
      Moves o (.removePort kind slot pjSuccess)
        { o with phase := .dropping (.destroyPort kind slot) rest after }
  | removeFailed {kind : PortKind} {slot : Int} {rest : List Owned} {after : After}
      {status : PjStatus} (was : o.phase = .dropping (.removePort kind slot) rest after)
      (failed : status ≠ pjSuccess) :
      Moves o (.removePort kind slot status) { o with phase := .panic (.drop rest) after }
  | destroyPort {kind : PortKind} {slot : Int} {rest : List Owned} {after : After}
      (was : o.phase = .dropping (.destroyPort kind slot) rest after) :
      Moves o (.destroyPort kind slot pjSuccess) { o with phase := .drop rest after }
  | destroyFailed {kind : PortKind} {slot : Int} {rest : List Owned} {after : After}
      {status : PjStatus} (was : o.phase = .dropping (.destroyPort kind slot) rest after)
      (failed : status ≠ pjSuccess) :
      Moves o (.destroyPort kind slot status) { o with phase := .panic (.drop rest) after }
  | left {value : Option Return} (was : o.phase = .dropped (.leave value)) :
      Moves o .finish { o with phase := .ended, returns := o.returns ++ value.toList }
  | rejecting (was : o.phase = .dropped .spawnReject) :
      Moves o .finish { o with phase := .awaitReject, job := .spawned .rejectIncoming }
  | unwound (was : o.phase = .dropped .unwind) : Moves o .finish { o with phase := .panicked }

theorem moves_of_new {o t : CallObject} {status : PjStatus} (stepped : o.new status = some t) :
    Moves o (.setUserData status) t := by
  unfold new at stepped
  split at stepped
  case h_1 was =>
    rcases getErrorAsResult_cases status with ⟨rfl, given⟩ | ⟨failed, given⟩
    · rw [given] at stepped
      cases stepped
      exact .new was
    · rw [given] at stepped
      cases stepped
      exact .newFailed was failed
  case h_2 => cases stepped

theorem moves_of_addPort {o t : CallObject} {kind : PortKind} {slot : Int} {status : PjStatus}
    (stepped : o.addPort kind slot status = some t) : Moves o (.addPort kind slot status) t := by
  unfold addPort at stepped
  split at stepped
  case h_1 was =>
    rcases getErrorAsResult_cases status with ⟨rfl, given⟩ | ⟨failed, given⟩
    · rw [given] at stepped
      cases stepped
      exact .addSink was
    · rw [given] at stepped
      cases stepped
      exact .addSinkFailed was failed
  case h_2 sinkAdded was =>
    rcases getErrorAsResult_cases status with ⟨rfl, given⟩ | ⟨failed, given⟩
    · rw [given] at stepped
      cases stepped
      exact .addStream was
    · rw [given] at stepped
      cases stepped
      exact .addStreamFailed was failed
  case h_3 => cases stepped

theorem moves_of_sendMediaData {o t : CallObject} {data : CallMediaData}
    (stepped : o.sendMediaData data = some t) : Moves o (.sendMediaData data) t := by
  unfold sendMediaData at stepped
  split at stepped
  case h_1 ports was =>
    split at stepped
    case isTrue same =>
      cases stepped
      rw [same]
      exact .sendMediaData was
    case isFalse => cases stepped
  case h_2 => cases stepped

theorem moves_of_runJob {o t : CallObject} {job : Job} {status : PjStatus}
    (stepped : o.runJob job status = some t) : Moves o (.runJob job status) t := by
  unfold runJob at stepped
  split at stepped
  case isTrue spawned =>
    cases stepped
    exact .runJob status spawned
  case isFalse => cases stepped

theorem moves_of_joinJob {o t : CallObject} (stepped : o.joinJob = some t) :
    Moves o .joinJob t := by
  unfold joinJob at stepped
  split at stepped
  case h_1 was finished =>
    cases stepped
    exact .answered was finished
  case h_2 was finished =>
    cases stepped
    exact .answerFailed was finished
  case h_3 was finished =>
    cases stepped
    exact .rejected was finished
  case h_4 => cases stepped

theorem moves_of_recvState {o t : CallObject} {got : Option OnStateChangedSendData}
    (stepped : o.recvState got = some t) : Moves o (.recvState got) t := by
  unfold recvState at stepped
  split at stepped
  case h_1 awaited ports was =>
    cases given : awaitCallState awaited.state got with
    | ok value =>
      rw [given] at stepped
      cases awaited with
      | connecting =>
        cases stepped
        exact .connecting was given
      | confirmed =>
        cases stepped
        exact .confirmed was given
      | disconnected =>
        cases stepped
        rw [← given]
        exact .disconnected was
    | error error =>
      rw [given] at stepped
      cases awaited with
      | connecting =>
        cases stepped
        exact .unexpected was (by decide) given
      | confirmed =>
        cases stepped
        exact .unexpected was (by decide) given
      | disconnected =>
        cases stepped
        rw [← given]
        exact .disconnected was
  case h_2 => cases stepped

theorem moves_of_hangup {o t : CallObject} (stepped : o.hangup = some t) : Moves o .hangup t := by
  unfold hangup at stepped
  split at stepped
  case h_1 was =>
    cases stepped
    exact .setupHangup was
  case h_2 was =>
    cases stepped
    exact .hangup was
  case h_3 => cases stepped

theorem moves_of_finish {o t : CallObject} (stepped : o.finish = some t) : Moves o .finish t := by
  unfold finish at stepped
  split at stepped
  case h_1 was =>
    cases stepped
    exact .left was
  case h_2 was =>
    cases stepped
    exact .rejecting was
  case h_3 was =>
    cases stepped
    exact .unwound was
  case h_4 => cases stepped

theorem moves_of_dropStep {o t : CallObject} {e : AppEvent} {stage : DropStage} {rest : List Owned}
    {after : After} (was : o.phase = .dropping stage rest after)
    (stepped : o.dropStep stage rest after e = some t) : Moves o e t := by
  cases e with
  | checkActive active =>
    obtain ⟨rfl, moved⟩ := Option.ite_none_right_eq_some.mp stepped
    cases moved
    exact .checkActive active was
  | hangupCall status =>
    obtain ⟨rfl, moved⟩ := Option.ite_none_right_eq_some.mp stepped
    rcases getErrorAsResult_cases status with ⟨rfl, given⟩ | ⟨failed, given⟩
    · rw [given] at moved
      cases moved
      exact .hangupCall was
    · rw [given] at moved
      cases moved
      exact .hangupFailed was failed
  | freeFields =>
    obtain ⟨rfl, moved⟩ := Option.ite_none_right_eq_some.mp stepped
    cases moved
    exact .freeFields was
  | removePort kind slot status =>
    obtain ⟨rfl, moved⟩ := Option.ite_none_right_eq_some.mp stepped
    rcases getErrorAsResult_cases status with ⟨rfl, given⟩ | ⟨failed, given⟩
    · rw [given] at moved
      cases moved
      exact .removePort was
    · rw [given] at moved
      cases moved
      exact .removeFailed was failed
  | destroyPort kind slot status =>
    obtain ⟨rfl, moved⟩ := Option.ite_none_right_eq_some.mp stepped
    rcases getErrorAsResult_cases status with ⟨rfl, given⟩ | ⟨failed, given⟩
    · rw [given] at moved
      cases moved
      exact .destroyPort was
    · rw [given] at moved
      cases moved
      exact .destroyFailed was failed
  | _ => cases stepped

theorem moves_of_dropGlue {o t : CallObject} {e : AppEvent} (stepped : o.dropGlue e = some t) :
    Moves o e t := by
  unfold dropGlue at stepped
  split at stepped
  case h_1 was => exact moves_of_dropStep was stepped
  case h_2 => cases stepped

theorem moves_of_awaitHangup {o t : CallObject} (stepped : o.awaitHangup = some t) :
    Moves o .awaitHangup t := by
  unfold awaitHangup at stepped
  split at stepped
  case h_1 was =>
    cases stepped
    exact .awaitHangup was
  case h_2 => cases stepped

/-- **Every step is one of the moves.** -/
theorem moves_of_step {o t : CallObject} {e : AppEvent} (stepped : o.step e = some t) :
    Moves o e t := by
  cases e with
  | setUserData status => exact moves_of_new stepped
  | answerSessionProgress =>
    obtain ⟨was, moved⟩ := Option.ite_none_right_eq_some.mp stepped
    cases moved
    exact .answerSessionProgress was
  | reject =>
    obtain ⟨was, moved⟩ := Option.ite_none_right_eq_some.mp stepped
    cases moved
    exact .reject was
  | add =>
    obtain ⟨was, moved⟩ := Option.ite_none_right_eq_some.mp stepped
    cases moved
    exact .add was
  | addPort kind slot status => exact moves_of_addPort stepped
  | sendMediaData data => exact moves_of_sendMediaData stepped
  | runJob job status => exact moves_of_runJob stepped
  | joinJob => exact moves_of_joinJob stepped
  | recvState got => exact moves_of_recvState stepped
  | awaitHangup => exact moves_of_awaitHangup stepped
  | hangup => exact moves_of_hangup stepped
  | drop =>
    obtain ⟨plan, planned, rfl⟩ := Option.map_eq_some_iff.mp stepped
    exact .drop planned
  | finish => exact moves_of_finish stepped
  | checkActive active => exact moves_of_dropGlue stepped
  | hangupCall status => exact moves_of_dropGlue stepped
  | freeFields => exact moves_of_dropGlue stepped
  | removePort kind slot status => exact moves_of_dropGlue stepped
  | destroyPort kind slot status => exact moves_of_dropGlue stepped

end CallObject

/-- What holds of the phase that unwinds a panic, and when the process aborts, holds after it. -/
theorem Phase.panic_of {resume : After → Phase} (p : Phase → Prop) (after : After)
    (unwinds : p (resume .unwind)) (aborts : p .aborted) : p (Phase.panic resume after) := by
  cases after with
  | leave value => exact unwinds
  | spawnReject => exact unwinds
  | unwind => exact aborts

/-- A panic that does not abort unwinds. -/
theorem Phase.panic_of_going {resume : After → Phase} {after : After}
    (going : Phase.panic resume after ≠ .aborted) : Phase.panic resume after = resume .unwind := by
  cases after with
  | unwind => exact absurd rfl going
  | _ => rfl

theorem Phase.drop_ne_aborted (plan : List Owned) (after : After) :
    Phase.drop plan after ≠ .aborted := by
  cases plan <;> exact fun same => by cases same

/-! ### Before any drop -/

/-- Nothing has been dropped yet. -/
def Phase.isLive : Phase → Bool
  | notified | incoming | setup | addSink | addStream _ | sendMedia _ | awaitAnswer _
  | awaitState _ _ | inCall _ => true
  | _ => false

theorem Phase.isLive_drop (plan : List Owned) (after : After) :
    (Phase.drop plan after).isLive = false := by
  cases plan <;> rfl

theorem Phase.isLive_panic {resume : After → Phase} (after : After)
    (unwinds : (resume .unwind).isLive = false) : (Phase.panic resume after).isLive = false :=
  Phase.panic_of (·.isLive = false) after unwinds rfl

namespace CallObject

/-- The moves after which nothing has been dropped yet. -/
inductive Advances (o : CallObject) : AppEvent → CallObject → Prop
  | new (was : o.phase = .notified) :
      Advances o (.setUserData pjSuccess) (o.result .incoming (.nextCall (.ok ())))
  | answerSessionProgress (was : o.phase = .incoming) :
      Advances o .answerSessionProgress { o with phase := .setup }
  | add (was : o.phase = .setup) : Advances o .add { o with phase := .addSink }
  | addSink {slot : Int} (was : o.phase = .addSink) :
      Advances o (.addPort .sink slot pjSuccess) { o with phase := .addStream slot }
  | addStream {sinkAdded slot : Int} (was : o.phase = .addStream sinkAdded) :
      Advances o (.addPort .stream slot pjSuccess) { o with phase := .sendMedia ⟨sinkAdded, slot⟩ }
  | sendMediaData {ports : AddedPorts} (was : o.phase = .sendMedia ports) :
      Advances o (.sendMediaData (.ofPorts ports.sink ports.stream))
        { o with phase := .awaitAnswer ports, job := .spawned (.acceptIncoming .ok) }
  | runJob {job : Job} (status : PjStatus) (spawned : o.job = .spawned job) :
      Advances o (.runJob job status) { o with job := .finished job (getErrorAsResult status) }
  | answered {ports : AddedPorts} {code : AnswerCode} (was : o.phase = .awaitAnswer ports)
      (finished : o.job = .finished (.acceptIncoming code) (.ok ())) :
      Advances o .joinJob { o with phase := .awaitState .connecting ports }
  | connecting {ports : AddedPorts} {got : Option OnStateChangedSendData}
      (was : o.phase = .awaitState .connecting ports)
      (expected : awaitCallState .connecting got = .ok ()) :
      Advances o (.recvState got) { o with phase := .awaitState .confirmed ports }
  | confirmed {ports : AddedPorts} {got : Option OnStateChangedSendData}
      (was : o.phase = .awaitState .confirmed ports)
      (expected : awaitCallState .confirmed got = .ok ()) :
      Advances o (.recvState got) (o.result (.inCall ports) (.add (.ok ())))
  | awaitHangup {ports : AddedPorts} (was : o.phase = .inCall ports) :
      Advances o .awaitHangup { o with phase := .awaitState .disconnected ports }

theorem Moves.advances {o t : CallObject} {e : AppEvent} (moved : Moves o e t)
    (live : t.phase.isLive = true) : Advances o e t := by
  have absurdly : ∀ {phase : Phase}, phase.isLive = false → phase.isLive = true →
      Advances o e t := by
    intro phase dead live
    cases dead.symm.trans live
  cases moved with
  | new was => exact .new was
  | answerSessionProgress was => exact .answerSessionProgress was
  | add was => exact .add was
  | addSink was => exact .addSink was
  | addStream was => exact .addStream was
  | sendMediaData was => exact .sendMediaData was
  | runJob status spawned => exact .runJob status spawned
  | answered was finished => exact .answered was finished
  | connecting was expected => exact .connecting was expected
  | confirmed was expected => exact .confirmed was expected
  | awaitHangup was => exact .awaitHangup was
  | drop planned => exact absurdly (Phase.isLive_drop _ _) live
  | freeFields was => exact absurdly (Phase.isLive_drop _ _) live
  | destroyPort was => exact absurdly (Phase.isLive_drop _ _) live
  | hangupFailed was failed => exact absurdly (Phase.isLive_panic _ rfl) live
  | removeFailed was failed =>
    exact absurdly (Phase.isLive_panic _ (Phase.isLive_drop _ _)) live
  | destroyFailed was failed =>
    exact absurdly (Phase.isLive_panic _ (Phase.isLive_drop _ _)) live
  | _ => cases live

end CallObject

/-! ### Before the media data is sent -/

/-- The media data has still to be sent. -/
def Phase.beforeMedia : Phase → Bool
  | notified | incoming | setup | addSink | addStream _ | sendMedia _ => true
  | _ => false

theorem Phase.isLive_of_beforeMedia {phase : Phase} (before : phase.beforeMedia = true) :
    phase.isLive = true := by
  cases phase <;> first | rfl | cases before

/-- The media data is sent once: no move leads back. -/
theorem CallObject.Moves.beforeMedia {o t : CallObject} {e : AppEvent} (moved : o.Moves e t)
    (before : t.phase.beforeMedia = true) : o.phase.beforeMedia = true := by
  cases moved.advances (Phase.isLive_of_beforeMedia before) with
  | runJob status spawned => exact before
  | new was =>
    rw [was]
    rfl
  | answerSessionProgress was =>
    rw [was]
    rfl
  | add was =>
    rw [was]
    rfl
  | addSink was =>
    rw [was]
    rfl
  | addStream was =>
    rw [was]
    rfl
  | _ => cases before

/-! ### Where the handle's drop stands -/

theorem Phase.drop_start (plan : List Owned) {rest : List Owned} {after after' : After}
    {stage : DropStage} (drops : Phase.drop plan after = .dropping stage rest after') :
    stage ≠ .hangup ∧ stage ≠ .freeFields := by
  cases plan with
  | nil => cases drops
  | cons owned plan =>
    cases drops
    cases owned with
    | handle => exact ⟨by decide, by decide⟩
    | port kind slot => exact ⟨fun same => (by cases same), fun same => (by cases same)⟩

theorem Phase.panic_eq_dropping {resume : After → Phase} {after after' : After} {stage : DropStage}
    {rest : List Owned} (drops : Phase.panic resume after = .dropping stage rest after') :
    resume .unwind = .dropping stage rest after' := by
  cases after with
  | leave value => exact drops
  | spawnReject => exact drops
  | unwind => cases drops

namespace CallObject

/-- How a call object comes to stand at a stage of its drop glue. -/
inductive Staged (o t : CallObject) : AppEvent → DropStage → Prop
  | stayed {e : AppEvent} {stage : DropStage} (same : t.phase = o.phase) : Staged o t e stage
  | active : Staged o t (.checkActive true) .hangup
  | ended : Staged o t (.checkActive false) .freeFields
  | hungUp (status : PjStatus) : Staged o t (.hangupCall status) .freeFields
  | elsewhere {e : AppEvent} {stage : DropStage}
      (away : stage ≠ .hangup ∧ stage ≠ .freeFields) : Staged o t e stage

/-- **The stages of the handle's drop**: the check decides whether a hang-up comes, and the fields
are freed after either. -/
theorem Moves.staged {o t : CallObject} {e : AppEvent} (moved : Moves o e t) {stage : DropStage}
    {rest : List Owned} {after : After} (drops : t.phase = .dropping stage rest after) :
    Staged o t e stage := by
  cases moved with
  | runJob status spawned => exact .stayed rfl
  | checkActive active was =>
    cases active with
    | true =>
      cases drops
      exact .active
    | false =>
      cases drops
      exact .ended
  | hangupCall was =>
    cases drops
    exact .hungUp _
  | hangupFailed was failed =>
    cases Phase.panic_eq_dropping drops
    exact .hungUp _
  | removePort was =>
    cases drops
    exact .elsewhere ⟨fun same => (by cases same), fun same => (by cases same)⟩
  | removeFailed was failed => exact .elsewhere (Phase.drop_start _ (Phase.panic_eq_dropping drops))
  | destroyFailed was failed => exact .elsewhere (Phase.drop_start _ (Phase.panic_eq_dropping drops))
  | destroyPort was => exact .elsewhere (Phase.drop_start _ drops)
  | freeFields was => exact .elsewhere (Phase.drop_start _ drops)
  | drop planned => exact .elsewhere (Phase.drop_start _ drops)
  | hangup was => exact .elsewhere (Phase.drop_start [_, _, _] drops)
  | setupHangup was => exact .elsewhere (Phase.drop_start [_] drops)
  | reject was => exact .elsewhere (Phase.drop_start [_] drops)
  | addSinkFailed was failed => exact .elsewhere (Phase.drop_start [_] drops)
  | addStreamFailed was failed => exact .elsewhere (Phase.drop_start [_, _] drops)
  | answerFailed was finished => exact .elsewhere (Phase.drop_start [_, _, _] drops)
  | unexpected was adding refused => exact .elsewhere (Phase.drop_start [_, _, _] drops)
  | disconnected was => exact .elsewhere (Phase.drop_start [_, _, _] drops)
  | _ => cases drops

/-! ### What the functions return -/

end CallObject

/-- What is returned once the drops are done. -/
def Phase.promised : Phase → List Return
  | dropping _ _ (.leave value) | dropped (.leave value) => value.toList
  | _ => []

theorem Phase.promised_drop (plan : List Owned) (after : After) :
    (Phase.drop plan after).promised = (Phase.dropped after).promised := by
  cases plan <;> cases after <;> rfl

theorem Phase.promised_dropping (stage : DropStage) (rest : List Owned) (after : After) :
    (Phase.dropping stage rest after).promised = (Phase.dropped after).promised := by
  cases after <;> rfl

theorem Phase.promised_panic {resume : After → Phase} (after : After)
    (unwinds : (resume .unwind).promised = []) : (Phase.panic resume after).promised = [] :=
  Phase.panic_of (·.promised = []) after unwinds rfl

namespace CallObject

/-- What was returned or is about to be, when the drops are done. -/
def promised (o : CallObject) : List Return := o.returns ++ o.phase.promised

/-- The moves that decide what a function returns. -/
inductive Promises (o : CallObject) : AppEvent → Return → Prop
  | nextCall {e : AppEvent} (result : Except PjsuaError Unit) : Promises o e (.nextCall result)
  | hangup {e : AppEvent} : Promises o e .hangup
  | portFailed {kind : PortKind} {slot : Int} {status : PjStatus}
      (was : o.phase = .addSink ∨ ∃ sinkAdded, o.phase = .addStream sinkAdded)
      (failed : status ≠ pjSuccess) :
      Promises o (.addPort kind slot status) (.add (.error (.ofStatus status)))
  | answerFailed {ports : AddedPorts} {code : AnswerCode} {error : PjsuaError}
      (was : o.phase = .awaitAnswer ports)
      (finished : o.job = .finished (.acceptIncoming code) (.error error)) :
      Promises o .joinJob (.add (.error error))
  | rejected {result : Except PjsuaError Unit} (was : o.phase = .awaitReject)
      (finished : o.job = .finished .rejectIncoming result) :
      Promises o .joinJob (.reject result)
  | confirmed {ports : AddedPorts} {got : Option OnStateChangedSendData}
      (was : o.phase = .awaitState .confirmed ports)
      (expected : awaitCallState .confirmed got = .ok ()) :
      Promises o (.recvState got) (.add (.ok ()))
  | unexpected {awaited : Awaited} {ports : AddedPorts} {got : Option OnStateChangedSendData}
      {error : PjsuaError} (was : o.phase = .awaitState awaited ports)
      (adding : awaited ≠ .disconnected)
      (refused : awaitCallState awaited.state got = .error error) :
      Promises o (.recvState got) (.add (.error error))
  | disconnected {ports : AddedPorts} {got : Option OnStateChangedSendData}
      (was : o.phase = .awaitState .disconnected ports) :
      Promises o (.recvState got) (.awaitHangup (awaitCallState .disconnected got))

theorem mem_promised_result {o : CallObject} {phase : Phase} {value r : Return}
    (quiet : phase.promised = []) (member : r ∈ (o.result phase value).promised) :
    r ∈ o.promised ∨ r = value := by
  unfold promised at member
  rw [show (o.result phase value).phase = phase from rfl, quiet, List.append_nil] at member
  rcases List.mem_append.mp member with old | new
  · exact Or.inl (List.mem_append_left _ old)
  · exact Or.inr (List.mem_singleton.mp new)

/-- The functions return nothing new at a move that promises what was promised before. -/
theorem mem_promised_phase {o : CallObject} {phase : Phase} {job : JobState} {r : Return}
    (known : r ∈ phase.promised → r ∈ o.phase.promised)
    (member : r ∈ (⟨phase, job, o.returns⟩ : CallObject).promised) : r ∈ o.promised := by
  rcases List.mem_append.mp member with old | new
  · exact List.mem_append_left _ old
  · exact List.mem_append_right _ (known new)

theorem mem_promised_quiet {o : CallObject} {phase : Phase} {job : JobState} {r : Return}
    (quiet : phase.promised = []) (member : r ∈ (⟨phase, job, o.returns⟩ : CallObject).promised) :
    r ∈ o.promised := by
  refine mem_promised_phase ?_ member
  rw [quiet]
  exact fun impossible => absurd impossible List.not_mem_nil

/-- Drop glue that goes on. -/
theorem mem_promised_glue {o : CallObject} {phase : Phase} {stage : DropStage} {rest : List Owned}
    {after : After} {job : JobState} {r : Return} (was : o.phase = .dropping stage rest after)
    (same : phase.promised = (Phase.dropped after).promised)
    (member : r ∈ (⟨phase, job, o.returns⟩ : CallObject).promised) : r ∈ o.promised := by
  refine mem_promised_phase ?_ member
  rw [was, Phase.promised_dropping, same]
  exact id

/-- Drop glue that starts promises the value it was given. -/
theorem mem_promised_drop {o : CallObject} {plan : List Owned} {value : Return} {job : JobState}
    {r : Return}
    (member : r ∈ (⟨.drop plan (.leave (some value)), job, o.returns⟩ : CallObject).promised) :
    r ∈ o.promised ∨ r = value := by
  rcases List.mem_append.mp member with old | new
  · exact Or.inl (List.mem_append_left _ old)
  · have known : r ∈ (Phase.drop plan (.leave (some value))).promised := new
    rw [Phase.promised_drop] at known
    exact Or.inr (List.mem_singleton.mp known)

/-- **Every return is promised by one of the moves**, when the drops that go before it start. -/
theorem Moves.promised {o t : CallObject} {e : AppEvent} (moved : Moves o e t) {r : Return}
    (member : r ∈ t.promised) : r ∈ o.promised ∨ Promises o e r := by
  cases moved with
  | new was =>
    rcases mem_promised_result rfl member with old | rfl
    · exact Or.inl old
    · exact Or.inr (.nextCall _)
  | newFailed was failed =>
    rcases mem_promised_result rfl member with old | rfl
    · exact Or.inl old
    · exact Or.inr (.nextCall _)
  | rejected was finished =>
    rcases mem_promised_result rfl member with old | rfl
    · exact Or.inl old
    · exact Or.inr (.rejected was finished)
  | confirmed was expected =>
    rcases mem_promised_result rfl member with old | rfl
    · exact Or.inl old
    · exact Or.inr (.confirmed was expected)
  | setupHangup was =>
    rcases mem_promised_drop member with old | rfl
    · exact Or.inl old
    · exact Or.inr .hangup
  | hangup was =>
    rcases mem_promised_drop member with old | rfl
    · exact Or.inl old
    · exact Or.inr .hangup
  | addSinkFailed was failed =>
    rcases mem_promised_drop member with old | rfl
    · exact Or.inl old
    · exact Or.inr (.portFailed (Or.inl was) failed)
  | addStreamFailed was failed =>
    rcases mem_promised_drop member with old | rfl
    · exact Or.inl old
    · exact Or.inr (.portFailed (Or.inr ⟨_, was⟩) failed)
  | answerFailed was finished =>
    rcases mem_promised_drop member with old | rfl
    · exact Or.inl old
    · exact Or.inr (.answerFailed was finished)
  | unexpected was adding refused =>
    rcases mem_promised_drop member with old | rfl
    · exact Or.inl old
    · exact Or.inr (.unexpected was adding refused)
  | disconnected was =>
    rcases mem_promised_drop member with old | rfl
    · exact Or.inl old
    · exact Or.inr (.disconnected was)
  | drop planned =>
    refine Or.inl (mem_promised_quiet ?_ member)
    rw [Phase.promised_drop]
    rfl
  | left was =>
    refine Or.inl ?_
    rw [CallObject.promised, was]
    rwa [CallObject.promised, show Phase.ended.promised = [] from rfl, List.append_nil] at member
  | freeFields was => exact Or.inl (mem_promised_glue was (Phase.promised_drop _ _) member)
  | destroyPort was => exact Or.inl (mem_promised_glue was (Phase.promised_drop _ _) member)
  | checkActive active was =>
    exact Or.inl (mem_promised_glue was (Phase.promised_dropping _ _ _) member)
  | hangupCall was => exact Or.inl (mem_promised_glue was (Phase.promised_dropping _ _ _) member)
  | removePort was => exact Or.inl (mem_promised_glue was (Phase.promised_dropping _ _ _) member)
  | hangupFailed was failed =>
    exact Or.inl (mem_promised_quiet (Phase.promised_panic _ rfl) member)
  | removeFailed was failed =>
    exact Or.inl (mem_promised_quiet (Phase.promised_panic _ (Phase.promised_drop _ _)) member)
  | destroyFailed was failed =>
    exact Or.inl (mem_promised_quiet (Phase.promised_panic _ (Phase.promised_drop _ _)) member)
  | runJob status spawned => exact Or.inl (mem_promised_phase id member)
  | _ => exact Or.inl (mem_promised_quiet rfl member)

end CallObject

end PjsipClient
