/-
One call seen from both sides: the application's call object, and pjsua with its callbacks.

A `World` is the state of the call in pjsua (invite state, media status, the registered user data,
the ports of the call in the conference bridge) together with the `CallObject` of the application
and a record of what was requested, reported and received. Its steps interleave freely: a state
change and the `on_call_state` that follows it are two steps, `on_call_media_state` takes one step to
receive the media data and one for each connection, and the application moves by one operation.

What is assumed of pjsua is in the guards: a transition runs its callback before the next transition,
nothing follows Disconnected, a call is active until its state is Disconnected, and no callback comes
after a `pjsua_call_hangup` that returned (`silenced`). Hanging up an active call runs
`on_call_state` for Disconnected before it returns. Every result about a `World` has these assumptions.

A callback asks for the user data and uses it in one step here; a `Flight` (`UserData.lean`) takes the
two apart.
-/

import PjsipClient.Lib.System
import PjsipClient.PjsuaConfig.Callbacks
import PjsipClient.PjsuaCall.Object

namespace PjsipClient

open Transport Transition

/-! ### Ports and their connections -/

/-- A port of the call in the conference bridge. -/
abbrev MediaPort := PortKind × Int

/-- The connection that a port of the call takes part in. -/
def MediaPort.pair (confPort : Int) : MediaPort → Int × Int
  | (.sink, slot) => (confPort, slot)
  | (.stream, slot) => (slot, confPort)

/-- The ports named by media data, in the order in which they are connected. -/
def CallMediaData.mediaPorts (data : CallMediaData) : List MediaPort :=
  data.sinksSlots.map (fun entry => (.sink, entry.slot)) ++
    data.streamSlots.map fun entry => (.stream, entry.slot)

theorem CallMediaData.mediaPorts_pairs (data : CallMediaData) (confPort : Int) :
    data.mediaPorts.map (MediaPort.pair confPort) = data.pairs confPort := by
  unfold mediaPorts pairs
  rw [List.map_append, List.map_map, List.map_map]
  rfl

/-! ### Requests -/

/-- The hang-ups that an event issues, with their codes. -/
def AppEvent.hangups : AppEvent → List (ℕ × PjStatus)
  | runJob .rejectIncoming status => [(rejectCode, status)]
  | hangupCall status => [(hangupCode, status)]
  | _ => []

/-- The answers that an event issues, with their codes. -/
def AppEvent.answers : AppEvent → List (ℕ × PjStatus)
  | runJob (.acceptIncoming code) status => [(code.asU32, status)]
  | _ => []

theorem AppEvent.requests_quiet {event : AppEvent} (quiet : event.isQuiet = true) :
    event.hangups = [] ∧ event.answers = [] := by
  cases event <;> first | exact ⟨rfl, rfl⟩ | cases quiet

/-! ### The state -/

/-- What `pjsua_call_get_user_data` points to. -/
inductive UserDataPointer
  | null
  | live (userData : StateChangedUserData)
  | dangling
  deriving DecidableEq

def UserDataPointer.of : Option StateChangedUserData → UserDataPointer
  | none => null
  | some userData => live userData

structure World where
  callId : Int
  confPort : Int
  inv : PjsipInvState
  media : CallMediaStatus
  /-- The state has changed and its `on_call_state` has not run. -/
  outstanding : Bool
  /-- A `pjsua_call_hangup` has returned. -/
  silenced : Bool
  userData : UserDataPointer
  object : CallObject
  /-- The ports added and not yet removed. -/
  ports : List MediaPort
  removed : List MediaPort
  /-- What a running `on_call_media_state` has still to connect. -/
  connecting : List MediaPort
  connections : Connections
  /-- The ports passed to `pjsua_conf_connect`, and whether each was still there. -/
  attempts : List (MediaPort × Bool)
  /-- The states reported to the user data, and the states received by the application. -/
  history : History OnStateChangedSendData
  /-- The final answers requested, by code. -/
  answers : List (ℕ × PjStatus)
  /-- The hang-ups requested, by code. -/
  hangups : List (ℕ × PjStatus)
  abort : Option Abort
  deriving DecidableEq

inductive CallEvent
  | setState (state : PjsipInvState)
  | onCallState
  | setMedia (status : CallMediaStatus)
  | onCallMediaState
  | connect (status : PjStatus)
  | app (event : AppEvent)
  deriving DecidableEq

/-- The operation of the application that an event is. -/
def CallEvent.operation : CallEvent → Option AppEvent
  | app event => some event
  | _ => none

namespace World

/-- A call whose notification was just taken out, in any state. -/
def start (callId confPort : Int) (inv : PjsipInvState) (media : CallMediaStatus)
    (outstanding : Bool) : World where
  callId := callId
  confPort := confPort
  inv := inv
  media := media
  outstanding := outstanding
  silenced := false
  userData := .null
  object := .fresh
  ports := []
  removed := []
  connecting := []
  connections := []
  attempts := []
  history := .empty
  answers := []
  hangups := []
  abort := none

/-- What `pjsua_call_get_info` says. -/
def callInfo (w : World) : CallInfo := CallInfo.of w.media w.inv

/-! ### The callbacks -/

/-- `on_call_state` runs. -/
def callState (w : World) : World :=
  match w.userData with
  | .null => w
  | .dangling => { w with abort := some .useAfterFree }
  | .live userData =>
    match onCallState w.callId (pjSuccess, w.callInfo) (some userData) with
    | .ok userData =>
      { w with userData := .of userData, history := w.history.send (w.callId, w.inv) }
    | .error abort =>
      { w with history := w.history.send (w.callId, w.inv), abort := some abort }

/-- The first part of `on_call_media_state`, with the user data it has found. -/
def recvMedia (w : World) (userData : Option StateChangedUserData) : World :=
  match recvCallMediaData (pjSuccess, w.callInfo) userData with
  | .error abort => { w with abort := some abort }
  | .ok (userData, none) => { w with userData := .of userData }
  | .ok (userData, some data) =>
    match getCallConfPort w.confPort with
    | .error _ => { w with userData := .of userData, abort := some (.exit .confPort) }
    | .ok _ => { w with userData := .of userData, connecting := data.mediaPorts }

/-- `on_call_media_state` runs up to its connections; it follows the pointer only for a hook-up. -/
def mediaState (w : World) : World :=
  match w.userData with
  | .null => w.recvMedia none
  | .live userData => w.recvMedia (some userData)
  | .dangling =>
    if w.callInfo.isHookup then { w with abort := some .useAfterFree } else w

/-- `on_call_media_state` makes its next connection. -/
def connect (w : World) (status : PjStatus) (port : MediaPort) (rest : List MediaPort) : World :=
  let attempts := w.attempts ++ [(port, decide (port ∈ w.ports))]
  match connectSlots (fun _ _ => status) (port.pair w.confPort).1 (port.pair w.confPort).2
      w.connections with
  | .ok connections =>
    { w with connecting := rest, attempts := attempts, connections := connections }
  | .error abort => { w with connecting := rest, attempts := attempts, abort := some abort }

/-! ### The calls of the application -/

/-- `pjsua_call_hangup`: an active call that it ends is reported before it returns. -/
def pjsuaCallHangup (w : World) (code : ℕ) (status : PjStatus) : World :=
  let ended :=
    if status = pjSuccess ∧ w.inv ≠ .disconnected then
      if w.silenced then { w with inv := .disconnected }
      else callState { w with inv := .disconnected }
    else w
  { ended with hangups := w.hangups ++ [(code, status)], silenced := true }

/-- `pjsua_conf_remove_port`. -/
def removePort (w : World) (kind : PortKind) (slot : Int) (status : PjStatus) : World :=
  if status = pjSuccess then
    { w with ports := w.ports.erase (kind, slot), removed := w.removed ++ [(kind, slot)] }
  else w

/-- The media data is sent through the one-shot channel of the user data. -/
def sendMediaData (w : World) (data : CallMediaData) : Option World :=
  match w.userData with
  | .live userData => some { w with userData := .live (userData.withSent data) }
  | _ => none

/-- What a receive from the state channel does to it, if `stateRecv` is what is received. -/
def recvState (w : World) (stateRecv : Option OnStateChangedSendData) : Option World :=
  match w.userData, stateRecv with
  | .live userData, some item =>
    match userData.onStateChangedTx.recv with
    | .ready (some received, rx) =>
      if received = item then
        some { w with
          userData := .live { userData with onStateChangedTx := rx }
          history := w.history.receive item }
      else none
    | _ => none
  | _, _ => none

/-- What the application's operation does to the call; `none` if pjsua does not answer so. -/
def effect (w : World) : AppEvent → Option World
  | .setUserData status =>
    some { w with userData := if status = pjSuccess then .live .new else w.userData }
  | .addPort kind slot status =>
    some { w with ports := if status = pjSuccess then w.ports ++ [(kind, slot)] else w.ports }
  | .sendMediaData data => w.sendMediaData data
  | .runJob (.acceptIncoming code) status =>
    some { w with answers := w.answers ++ [(code.asU32, status)] }
  | .runJob .rejectIncoming status => some (w.pjsuaCallHangup rejectCode status)
  | .recvState stateRecv => w.recvState stateRecv
  | .checkActive active => if active = decide (w.inv ≠ .disconnected) then some w else none
  | .hangupCall status => some (w.pjsuaCallHangup hangupCode status)
  | .freeFields => some { w with userData := .dangling }
  | .removePort kind slot status => some (w.removePort kind slot status)
  | _ => some w

/-- One event. No callback comes to a call that is silenced. -/
def step (w : World) (e : CallEvent) : Option World :=
  if w.abort = none ∧ w.object.phase ≠ .aborted then
    match e with
    | .setState state =>
      if w.outstanding = false ∧ w.inv ≠ .disconnected then
        some { w with inv := state, outstanding := true }
      else none
    | .onCallState =>
      if w.outstanding = true ∧ w.silenced = false ∧ w.connecting = [] then
        some { w.callState with outstanding := false }
      else none
    | .setMedia status => some { w with media := status }
    | .onCallMediaState =>
      if w.silenced = false ∧ w.connecting = [] then some w.mediaState else none
    | .connect status =>
      match w.connecting with
      | [] => none
      | port :: rest => some (w.connect status port rest)
    | .app event =>
      (w.object.step event).bind fun object =>
        (w.effect event).map fun next => { next with object := object }
  else none

end World

/-- One call, with the application that handles it. -/
def callSystem : System World CallEvent := ⟨World.step⟩

namespace World

/-! ### What the callbacks do to the state -/

/-- **`on_call_state`** by the pointer that it finds. -/
inductive Reported (w : World) : World → Prop
  | unregistered (found : w.userData = .null) : Reported w w
  | dangling (found : w.userData = .dangling) : Reported w { w with abort := some .useAfterFree }
  | sent {userData : StateChangedUserData} {tx : Channel OnStateChangedSendData 3}
      (found : w.userData = .live userData)
      (accepted : userData.onStateChangedTx.trySend (w.callId, w.inv) = .ok tx) :
      Reported w { w with
        userData := .live { userData with onStateChangedTx := tx }
        history := w.history.send (w.callId, w.inv) }
  | refused {userData : StateChangedUserData} {why : TrySendError OnStateChangedSendData}
      (found : w.userData = .live userData)
      (rejected : userData.onStateChangedTx.trySend (w.callId, w.inv) = .error why) :
      Reported w { w with
        history := w.history.send (w.callId, w.inv), abort := some (.exit .stateSent) }

theorem callState_reported (w : World) : Reported w w.callState := by
  unfold callState
  split
  case h_1 found => exact .unregistered found
  case h_2 found => exact .dangling found
  case h_3 userData found =>
    rw [callInfo, onCallState_eq]
    cases sending : userData.onStateChangedTx.trySend (w.callId, w.inv) with
    | ok tx => exact .sent found sending
    | error why => exact .refused found sending

/-- What a callback leaves as it was: the state of the call, the application's object and what it
has requested. -/
structure SameCall (w v : World) : Prop where
  inv : v.inv = w.inv
  media : v.media = w.media
  confPort : v.confPort = w.confPort
  callId : v.callId = w.callId
  outstanding : v.outstanding = w.outstanding
  silenced : v.silenced = w.silenced
  object : v.object = w.object
  ports : v.ports = w.ports
  removed : v.removed = w.removed
  answers : v.answers = w.answers
  hangups : v.hangups = w.hangups

theorem Reported.same {w v : World} (reported : Reported w v) : SameCall w v := by
  cases reported <;> exact ⟨rfl, rfl, rfl, rfl, rfl, rfl, rfl, rfl, rfl, rfl, rfl⟩

/-- What everything but a media callback leaves as it was: the connections. -/
structure SameConnections (w v : World) : Prop where
  confPort : v.confPort = w.confPort
  connecting : v.connecting = w.connecting
  connections : v.connections = w.connections
  attempts : v.attempts = w.attempts

theorem Reported.sameConnections {w v : World} (reported : Reported w v) :
    SameConnections w v := by
  cases reported <;> exact ⟨rfl, rfl, rfl, rfl⟩

/-- **`on_call_media_state`** by what it finds. -/
inductive MediaSeen (w : World) : World → Prop
  | idle (idle : w.callInfo.isHookup = false) : MediaSeen w w
  | unregistered (hookup : w.callInfo.isHookup = true) (found : w.userData = .null) :
      MediaSeen w { w with abort := some .nullDereference }
  | dangling (hookup : w.callInfo.isHookup = true) (found : w.userData = .dangling) :
      MediaSeen w { w with abort := some .useAfterFree }
  | noReceiver {userData : StateChangedUserData} (hookup : w.callInfo.isHookup = true)
      (found : w.userData = .live userData) (none : userData.callMediaDataRx = none) :
      MediaSeen w w
  | unsent {userData : StateChangedUserData} {rx : Oneshot CallMediaData}
      (hookup : w.callInfo.isHookup = true) (found : w.userData = .live userData)
      (receiver : userData.callMediaDataRx = some rx) (unsent : ∀ data, rx ≠ .sent data) :
      MediaSeen w { w with abort := some (.exit .mediaDataReceived) }
  | noPort {userData : StateChangedUserData} {data : CallMediaData}
      (hookup : w.callInfo.isHookup = true) (found : w.userData = .live userData)
      (sent : userData.callMediaDataRx = some (.sent data))
      (invalid : w.confPort = pjsuaInvalidId) :
      MediaSeen w { w with
        userData := .live { userData with callMediaDataRx := some .closed }
        abort := some (.exit .confPort) }
  | received {userData : StateChangedUserData} {data : CallMediaData}
      (hookup : w.callInfo.isHookup = true) (found : w.userData = .live userData)
      (sent : userData.callMediaDataRx = some (.sent data))
      (valid : w.confPort ≠ pjsuaInvalidId) :
      MediaSeen w { w with
        userData := .live { userData with callMediaDataRx := some .closed }
        connecting := data.mediaPorts }

theorem MediaSeen.same {w v : World} (seen : MediaSeen w v) : SameCall w v := by
  cases seen <;> exact ⟨rfl, rfl, rfl, rfl, rfl, rfl, rfl, rfl, rfl, rfl, rfl⟩

theorem callInfo_isHookup (w : World) :
    w.callInfo.isHookup = true ↔ w.media = .active ∧ w.inv = .confirmed := by
  rw [callInfo, CallInfo.isHookup_of, decide_eq_true_iff]

theorem callInfo_valid (w : World) : w.callInfo.Valid := ⟨w.media, w.inv, rfl⟩

theorem recvMedia_idle {w : World} (userData : Option StateChangedUserData)
    (idle : w.callInfo.isHookup = false) (found : w.userData = .of userData) :
    w.recvMedia userData = w := by
  unfold recvMedia
  rw [recvCallMediaData_idle w.callInfo_valid idle]
  show { w with userData := .of userData } = w
  rw [← found]

theorem recvMedia_live {w : World} {userData : StateChangedUserData}
    (found : w.userData = .live userData) (hookup : w.callInfo.isHookup = true) :
    MediaSeen w (w.recvMedia (some userData)) := by
  cases receiver : userData.callMediaDataRx with
  | none =>
    have same : w.recvMedia (some userData) = w := by
      unfold recvMedia
      rw [show w.callInfo = CallInfo.of .active .confirmed from of_decide_eq_true hookup]
      have nothing : recvCallMediaData (pjSuccess, CallInfo.of .active .confirmed)
          (some userData) = .ok (some userData, none) := by
        obtain ⟨tx, rx⟩ := userData
        cases receiver
        rfl
      rw [nothing]
      show { w with userData := .live userData } = w
      rw [← found]
    rw [same]
    exact .noReceiver hookup found receiver
  | some rx =>
    unfold recvMedia
    cases rx with
    | sent data =>
      rw [recvCallMediaData_sent hookup receiver]
      by_cases valid : w.confPort = pjsuaInvalidId
      · have refused : getCallConfPort w.confPort = .error ⟨-1, .text "Invalid conf slot"⟩ :=
          if_pos valid
        simp only [refused]
        exact .noPort hookup found receiver valid
      · simp only [getCallConfPort_valid valid]
        exact .received hookup found receiver valid
    | empty =>
      have unsent : ∀ data : CallMediaData, Oneshot.empty ≠ .sent data := fun _ same => by cases same
      rw [recvCallMediaData_exit hookup receiver unsent]
      exact .unsent hookup found receiver unsent
    | closed =>
      have unsent : ∀ data : CallMediaData, Oneshot.closed ≠ .sent data := fun _ same => by cases same
      rw [recvCallMediaData_exit hookup receiver unsent]
      exact .unsent hookup found receiver unsent

theorem mediaState_seen (w : World) : MediaSeen w w.mediaState := by
  unfold mediaState
  cases kind : w.callInfo.isHookup with
  | false =>
    split
    case h_1 found =>
      rw [recvMedia_idle none kind found]
      exact .idle kind
    case h_2 userData found =>
      rw [recvMedia_idle (some userData) kind found]
      exact .idle kind
    case h_3 => exact .idle kind
  | true =>
    split
    case h_1 found =>
      unfold recvMedia
      rw [show w.callInfo = CallInfo.of .active .confirmed from of_decide_eq_true kind]
      exact .unregistered kind found
    case h_2 userData found => exact recvMedia_live found kind
    case h_3 found => exact .dangling kind found

/-- **One connection**: made, or refused by pjsua. -/
theorem connect_eq (w : World) (status : PjStatus) (port : MediaPort) (rest : List MediaPort) :
    w.connect status port rest = { w with
      connecting := rest
      attempts := w.attempts ++ [(port, decide (port ∈ w.ports))]
      connections :=
        if status = pjSuccess then w.connections ++ [port.pair w.confPort] else w.connections
      abort := if status = pjSuccess then w.abort else some (.exit .confConnect) } := by
  unfold connect connectSlots
  rcases getErrorAsResult_cases status with ⟨success, given⟩ | ⟨failed, given⟩
  · rw [given, if_pos success, if_pos success]
    rfl
  · rw [given, if_neg failed, if_neg failed]
    rfl

/-- **`pjsua_call_hangup`**: silent, or with the report of the end of an active call. -/
inductive HungUp (w : World) (code : ℕ) (status : PjStatus) : World → Prop
  | silent {inv : PjsipInvState} (ended : inv = w.inv ∨ inv = .disconnected) :
      HungUp w code status
        { w with inv := inv, hangups := w.hangups ++ [(code, status)], silenced := true }
  | reported {v : World} (accepted : status = pjSuccess) (active : w.inv ≠ .disconnected)
      (heard : w.silenced = false) (reported : Reported { w with inv := .disconnected } v) :
      HungUp w code status
        { v with hangups := w.hangups ++ [(code, status)], silenced := true }

theorem pjsuaCallHangup_hungUp (w : World) (code : ℕ) (status : PjStatus) :
    HungUp w code status (w.pjsuaCallHangup code status) := by
  unfold pjsuaCallHangup
  split
  case isTrue ends =>
    by_cases silent : w.silenced = true
    · rw [if_pos silent]
      exact .silent (Or.inr rfl)
    · rw [if_neg silent]
      exact .reported ends.1 ends.2 (Bool.eq_false_iff.mpr silent) (callState_reported _)
  case isFalse => exact .silent (Or.inl rfl)

theorem HungUp.sameConnections {w v : World} {code : ℕ} {status : PjStatus}
    (hungUp : HungUp w code status v) : SameConnections w v := by
  cases hungUp with
  | silent ended => exact ⟨rfl, rfl, rfl, rfl⟩
  | reported accepted active heard reported =>
    have same := reported.sameConnections
    exact ⟨same.confPort, same.connecting, same.connections, same.attempts⟩

/-! ### The steps -/

/-- **The effects of the application's operations.** Those that pjsua does not see are `quiet`. -/
inductive Effects (w : World) : AppEvent → World → Prop
  | setUserData (status : PjStatus) :
      Effects w (.setUserData status)
        { w with userData := if status = pjSuccess then .live .new else w.userData }
  | addPort (kind : PortKind) (slot : Int) (status : PjStatus) :
      Effects w (.addPort kind slot status)
        { w with ports := if status = pjSuccess then w.ports ++ [(kind, slot)] else w.ports }
  | sendMediaData {data : CallMediaData} {userData : StateChangedUserData}
      (found : w.userData = .live userData) :
      Effects w (.sendMediaData data) { w with userData := .live (userData.withSent data) }
  | answer (code : AnswerCode) (status : PjStatus) :
      Effects w (.runJob (.acceptIncoming code) status)
        { w with answers := w.answers ++ [(code.asU32, status)] }
  | reject {status : PjStatus} {v : World} (hungUp : HungUp w rejectCode status v) :
      Effects w (.runJob .rejectIncoming status) v
  | recvState {item : OnStateChangedSendData} {userData : StateChangedUserData}
      {rx : Channel OnStateChangedSendData 3} (found : w.userData = .live userData)
      (received : userData.onStateChangedTx.recv = .ready (some item, rx)) :
      Effects w (.recvState (some item)) { w with
        userData := .live { userData with onStateChangedTx := rx }
        history := w.history.receive item }
  | checkActive {active : Bool} (answered : active = decide (w.inv ≠ .disconnected)) :
      Effects w (.checkActive active) w
  | hangupCall {status : PjStatus} {v : World} (hungUp : HungUp w hangupCode status v) :
      Effects w (.hangupCall status) v
  | freeFields : Effects w .freeFields { w with userData := .dangling }
  | removePort (kind : PortKind) (slot : Int) :
      Effects w (.removePort kind slot pjSuccess)
        { w with ports := w.ports.erase (kind, slot), removed := w.removed ++ [(kind, slot)] }
  | removeFailed {kind : PortKind} {slot : Int} {status : PjStatus} (failed : status ≠ pjSuccess) :
      Effects w (.removePort kind slot status) w
  | quiet {event : AppEvent} (quiet : event.isQuiet = true) : Effects w event w

theorem Effects.sameConnections {w v : World} {event : AppEvent} (effects : Effects w event v) :
    SameConnections w v := by
  cases effects with
  | reject hungUp => exact hungUp.sameConnections
  | hangupCall hungUp => exact hungUp.sameConnections
  | _ => exact ⟨rfl, rfl, rfl, rfl⟩

theorem HungUp.recorded {w v : World} {code : ℕ} {status : PjStatus}
    (hungUp : HungUp w code status v) :
    v.hangups = w.hangups ++ [(code, status)] ∧ v.answers = w.answers := by
  cases hungUp with
  | silent ended => exact ⟨rfl, rfl⟩
  | reported accepted active heard reported =>
    refine ⟨rfl, ?_⟩
    cases reported <;> rfl

/-- **What is requested is what the events issue.** -/
theorem Effects.recorded {w v : World} {event : AppEvent} (effects : Effects w event v) :
    v.hangups = w.hangups ++ event.hangups ∧ v.answers = w.answers ++ event.answers := by
  cases effects with
  | reject hungUp =>
    obtain ⟨hangups, answers⟩ := hungUp.recorded
    exact ⟨hangups, by rw [answers]; exact (List.append_nil _).symm⟩
  | hangupCall hungUp =>
    obtain ⟨hangups, answers⟩ := hungUp.recorded
    exact ⟨hangups, by rw [answers]; exact (List.append_nil _).symm⟩
  | answer code status => exact ⟨(List.append_nil _).symm, rfl⟩
  | quiet quiet =>
    obtain ⟨hangups, answers⟩ := AppEvent.requests_quiet quiet
    rw [hangups, answers]
    exact ⟨(List.append_nil _).symm, (List.append_nil _).symm⟩
  | _ => exact ⟨(List.append_nil _).symm, (List.append_nil _).symm⟩

theorem effects_of_effect {w v : World} {event : AppEvent} (effected : w.effect event = some v) :
    Effects w event v := by
  cases event with
  | setUserData status =>
    cases effected
    exact .setUserData status
  | addPort kind slot status =>
    cases effected
    exact .addPort kind slot status
  | sendMediaData data =>
    have sent : w.sendMediaData data = some v := effected
    unfold sendMediaData at sent
    split at sent
    case h_1 userData found =>
      cases sent
      exact .sendMediaData found
    case h_2 => cases sent
  | runJob job status =>
    cases job with
    | acceptIncoming code =>
      cases effected
      exact .answer code status
    | rejectIncoming =>
      cases effected
      exact .reject (pjsuaCallHangup_hungUp w rejectCode status)
  | recvState stateRecv =>
    have received : w.recvState stateRecv = some v := effected
    unfold recvState at received
    split at received
    case h_1 userData item found =>
      split at received
      case h_1 rx given =>
        obtain ⟨rfl, moved⟩ := Option.ite_none_right_eq_some.mp received
        cases moved
        exact .recvState found given
      case h_2 => cases received
    case h_2 => cases received
  | checkActive active =>
    obtain ⟨answered, same⟩ := Option.ite_none_right_eq_some.mp effected
    cases same
    exact .checkActive answered
  | hangupCall status =>
    cases effected
    exact .hangupCall (pjsuaCallHangup_hungUp w hangupCode status)
  | freeFields =>
    cases effected
    exact .freeFields
  | removePort kind slot status =>
    cases effected
    unfold removePort
    by_cases success : status = pjSuccess
    · rw [if_pos success, success]
      exact .removePort kind slot
    · rw [if_neg success]
      exact .removeFailed success
  | _ =>
    cases effected
    exact .quiet rfl

/-- The steps of a call, one constructor for each kind of event. -/
inductive Steps (w : World) : CallEvent → World → Prop
  | setState {state : PjsipInvState} (idle : w.outstanding = false)
      (alive : w.inv ≠ .disconnected) :
      Steps w (.setState state) { w with inv := state, outstanding := true }
  | onCallState (due : w.outstanding = true) (heard : w.silenced = false)
      (between : w.connecting = []) : Steps w .onCallState { w.callState with outstanding := false }
  | setMedia {status : CallMediaStatus} : Steps w (.setMedia status) { w with media := status }
  | onCallMediaState (heard : w.silenced = false) (between : w.connecting = []) :
      Steps w .onCallMediaState w.mediaState
  | connect {status : PjStatus} {port : MediaPort} {rest : List MediaPort}
      (next : w.connecting = port :: rest) : Steps w (.connect status) (w.connect status port rest)
  | app {event : AppEvent} {object : CallObject} {next : World}
      (moved : w.object.Moves event object) (effects : w.Effects event next) :
      Steps w (.app event) { next with object := object }

theorem going_of_step {w v : World} {e : CallEvent} (stepped : w.step e = some v) :
    w.object.phase ≠ .aborted := (Option.ite_none_right_eq_some.mp stepped).1.2

/-- **Every step of the call is one of these.** -/
theorem steps_of_step {w v : World} {e : CallEvent} (stepped : w.step e = some v) :
    w.abort = none ∧ Steps w e v := by
  obtain ⟨⟨running, _⟩, stepped⟩ := Option.ite_none_right_eq_some.mp stepped
  refine ⟨running, ?_⟩
  cases e with
  | setState state =>
    obtain ⟨⟨idle, alive⟩, moved⟩ := Option.ite_none_right_eq_some.mp stepped
    cases moved
    exact .setState idle alive
  | onCallState =>
    obtain ⟨⟨due, heard, between⟩, moved⟩ := Option.ite_none_right_eq_some.mp stepped
    cases moved
    exact .onCallState due heard between
  | setMedia status =>
    cases stepped
    exact .setMedia
  | onCallMediaState =>
    obtain ⟨⟨heard, between⟩, moved⟩ := Option.ite_none_right_eq_some.mp stepped
    cases moved
    exact .onCallMediaState heard between
  | connect status =>
    cases next : w.connecting with
    | nil => simp [next] at stepped
    | cons port rest =>
      simp only [next] at stepped
      cases stepped
      exact .connect next
  | app event =>
    obtain ⟨object, moved, stepped⟩ := Option.bind_eq_some_iff.mp stepped
    obtain ⟨next, effected, rfl⟩ := Option.map_eq_some_iff.mp stepped
    exact .app (CallObject.moves_of_step moved) (effects_of_effect effected)

/-- The report of a change of state, when nothing keeps pjsua from it. -/
theorem step_onCallState {w : World} (alive : w.abort = none) (going : w.object.phase ≠ .aborted)
    (due : w.outstanding = true) (heard : w.silenced = false) (between : w.connecting = []) :
    w.step .onCallState = some { w.callState with outstanding := false } := by
  show (if _ then (if _ then some _ else none) else none) = _
  rw [if_pos ⟨alive, going⟩, if_pos ⟨due, heard, between⟩]

theorem step_onCallMediaState {w : World} (alive : w.abort = none)
    (going : w.object.phase ≠ .aborted) (heard : w.silenced = false) (between : w.connecting = []) :
    w.step .onCallMediaState = some w.mediaState := by
  show (if _ then (if _ then some _ else none) else none) = _
  rw [if_pos ⟨alive, going⟩, if_pos ⟨heard, between⟩]

theorem step_connect {w : World} {port : MediaPort} {rest : List MediaPort} (alive : w.abort = none)
    (going : w.object.phase ≠ .aborted) (next : w.connecting = port :: rest) (status : PjStatus) :
    w.step (.connect status) = some (w.connect status port rest) := by
  show (if _ then (match w.connecting with | [] => none | port :: rest => _) else none) = _
  rw [if_pos ⟨alive, going⟩, next]

/-- A callback that nothing interrupts, and whose connections succeed, makes all of them. -/
theorem run_connects (rest : List MediaPort) :
    ∀ w : World, w.connecting = rest → w.abort = none → w.object.phase ≠ .aborted →
      callSystem.run w (rest.map fun _ => .connect pjSuccess) = some { w with
        connecting := []
        attempts := w.attempts ++ rest.map fun port => (port, decide (port ∈ w.ports))
        connections := w.connections ++ rest.map (MediaPort.pair w.confPort) } := by
  induction rest with
  | nil =>
    intro w next alive going
    simp only [List.map_nil, List.append_nil, System.run_nil]
    rw [← next]
  | cons port rest ih =>
    intro w next alive going
    have stepped : callSystem.step w (.connect pjSuccess) = some (w.connect pjSuccess port rest) :=
      step_connect alive going next pjSuccess
    have made := ih (w.connect pjSuccess port rest) (by rw [connect_eq])
      (by rw [connect_eq]; exact alive) (by rw [connect_eq]; exact going)
    rw [List.map_cons, System.run_cons, stepped, Option.bind_some, made, connect_eq]
    simp only [↓reduceIte, List.append_assoc, List.singleton_append, List.map_cons]

/-- A running callback can make its connections and return. -/
theorem drained {w : World} (alive : w.abort = none) (going : w.object.phase ≠ .aborted) :
    ∃ es v, callSystem.run w es = some v ∧ v.connecting = [] ∧ v.abort = none ∧
      v.userData = w.userData ∧ SameCall w v :=
  ⟨_, _, run_connects w.connecting w rfl alive going, rfl, alive, rfl,
    ⟨rfl, rfl, rfl, rfl, rfl, rfl, rfl, rfl, rfl, rfl, rfl⟩⟩

/-- An operation of the application that its object and pjsua both allow. -/
theorem step_app {w next : World} {event : AppEvent} {object : CallObject} (alive : w.abort = none)
    (going : w.object.phase ≠ .aborted) (moved : w.object.step event = some object)
    (effected : w.effect event = some next) :
    w.step (.app event) = some { next with object := object } := by
  show (if _ then (w.object.step event).bind _ else none) = _
  rw [if_pos ⟨alive, going⟩, moved]
  show (w.effect event).map _ = _
  rw [effected]
  rfl

/-- pjsua's own steps change neither the application's object, nor what it has requested, nor its
ports. -/
theorem Steps.pjsua_or_app {w v : World} {e : CallEvent} (steps : Steps w e v) :
    (v.object = w.object ∧ v.hangups = w.hangups ∧ v.answers = w.answers ∧ v.ports = w.ports ∧
      v.removed = w.removed ∧ e.operation = none) ∨
      ∃ event object next, e = .app event ∧ w.object.Moves event object ∧
        Effects w event next ∧ v = { next with object := object } := by
  cases steps with
  | setState idle alive => exact Or.inl ⟨rfl, rfl, rfl, rfl, rfl, rfl⟩
  | onCallState due heard between =>
    have same := w.callState_reported.same
    exact Or.inl ⟨same.object, same.hangups, same.answers, same.ports, same.removed, rfl⟩
  | setMedia => exact Or.inl ⟨rfl, rfl, rfl, rfl, rfl, rfl⟩
  | onCallMediaState heard between =>
    have same := w.mediaState_seen.same
    exact Or.inl ⟨same.object, same.hangups, same.answers, same.ports, same.removed, rfl⟩
  | connect next =>
    rw [connect_eq]
    exact Or.inl ⟨rfl, rfl, rfl, rfl, rfl, rfl⟩
  | app moved effects => exact Or.inr ⟨_, _, _, rfl, moved, effects, rfl⟩

end World

end PjsipClient
