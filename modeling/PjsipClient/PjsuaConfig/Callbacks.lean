/-
The callbacks that the crate registers with pjsua (`pjsua_config.rs`).

Each callback is a function of what pjsua answers to the calls it makes, of the user data it finds
(`none` is the null pointer), and of the state it changes. It gives an `Outcome`: the new state, or
the way the process ends.
-/

import PjsipClient.PjsuaCall.Types

namespace PjsipClient

open Transport

/-! ### Incoming calls -/

/-- What `on_incoming_call` sends: the account id and the call id. -/
abbrev OnIncomingCallSendData := Int × Int

/-- The user data of an account. -/
structure AccountConfigUserData where
  onIncomingCallTx : Channel OnIncomingCallSendData 10
  deriving DecidableEq

/-- The part of `pjsip_rx_data` that the callback looks at: the address of its transport, if any. -/
structure PjsipRxData where
  transport : Option ℕ
  deriving DecidableEq

def onIncomingCall (accId callId : Int) (rxData : Option PjsipRxData)
    (accountUserData : Option AccountConfigUserData) : Outcome AccountConfigUserData := do
  ffiAssert .rxDataNotNull rxData.isSome
  let rxData ← unwrap rxData
  let _transport ← unwrap rxData.transport
  ffiAssert .accountUserDataNotNull accountUserData.isSome
  let accountUserData ← unwrap accountUserData
  let onIncomingCallTx ← expect (accountUserData.onIncomingCallTx.trySend (accId, callId))
  pure { accountUserData with onIncomingCallTx := onIncomingCallTx }

/-! ### Call states -/

/-- The callback does nothing for a call that no `PjsuaCallHandle` was made for. -/
def onCallState (callId : Int) (callGetInfo : PjStatus × CallInfo) :
    Option StateChangedUserData → Outcome (Option StateChangedUserData)
  | none => pure none
  | some userData => do
    let state ← ffiAssertRes .invState (PjsipInvState.tryFrom callGetInfo.2.state)
    let tx ← ffiAssertRes .stateSent (userData.onStateChangedTx.trySend (callId, state))
    pure (some { userData with onStateChangedTx := tx })

/-! ### Media states -/

/-- What pjsua answers to the calls that `on_call_media_state` makes. -/
structure Pjsua where
  callGetInfo : PjStatus × CallInfo
  callGetConfPort : Int
  confConnect : Int → Int → PjStatus

/-- The connections of the conference bridge, from the first slot to the second. -/
abbrev Connections := List (Int × Int)

def connectSlots (confConnect : Int → Int → PjStatus) (stream sink : Int)
    (connections : Connections) : Outcome Connections := do
  ffiAssertRes .confConnect (getErrorAsResult (confConnect stream sink))
  pure (connections ++ [(stream, sink)])

/-- The part of `on_call_media_state` before the connections: with active media in a confirmed call
it takes the media data out of the one-shot channel, whose receiver stays in the user data. -/
def recvCallMediaData (callGetInfo : PjStatus × CallInfo) (userData : Option StateChangedUserData) :
    Outcome (Option StateChangedUserData × Option CallMediaData) := do
  let callInfo ← ffiAssertRes .callInfo (getCallInfo callGetInfo)
  let mediaStatus ← ffiAssertRes .mediaStatus (CallMediaStatus.tryFrom callInfo.mediaStatus)
  let callState ← ffiAssertRes .invState (PjsipInvState.tryFrom callInfo.state)
  if mediaStatus = .active ∧ callState = .confirmed then
    match userData with
    | none => .error .nullDereference
    | some userData =>
      match userData.callMediaDataRx with
      | none => pure (some userData, none)
      | some callMediaDataRx =>
        match callMediaDataRx.tryRecv with
        | (.ok callMediaData, rx) =>
          pure (some { userData with callMediaDataRx := some rx }, some callMediaData)
        | (.error _, _) => .error (.exit .mediaDataReceived)
  else pure (userData, none)

def onCallMediaState (pjsua : Pjsua) (userData : Option StateChangedUserData)
    (connections : Connections) : Outcome (Option StateChangedUserData × Connections) := do
  let (userData, received) ← recvCallMediaData pjsua.callGetInfo userData
  match received with
  | none => pure (userData, connections)
  | some callMediaData =>
    let callConfPort ← ffiAssertRes .confPort (getCallConfPort pjsua.callGetConfPort)
    let connections ← callMediaData.sinksSlots.foldlM
      (fun connections entry => connectSlots pjsua.confConnect callConfPort entry.slot connections)
      connections
    let connections ← callMediaData.streamSlots.foldlM
      (fun connections entry => connectSlots pjsua.confConnect entry.slot callConfPort connections)
      connections
    pure (userData, connections)

/-! ### What the callbacks do, one equation for each case -/

/-- On a live account with valid receive data the callback is exactly the send, and a refused send
is a panic. -/
theorem onIncomingCall_eq (accId callId : Int) (rxData : PjsipRxData) (transport : ℕ)
    (userData : AccountConfigUserData) (valid : rxData.transport = some transport) :
    onIncomingCall accId callId (some rxData) (some userData) =
      (expect (userData.onIncomingCallTx.trySend (accId, callId))).map
        fun tx => { userData with onIncomingCallTx := tx } := by
  obtain ⟨found⟩ := rxData
  cases valid
  rfl

/-- A report in a known state is exactly the send of that state. -/
theorem onCallState_eq (callId : Int) (status : PjStatus) (media : CallMediaStatus)
    (state : PjsipInvState) (userData : StateChangedUserData) :
    onCallState callId (status, CallInfo.of media state) (some userData) =
      (ffiAssertRes .stateSent (userData.onStateChangedTx.trySend (callId, state))).map
        fun tx => some { userData with onStateChangedTx := tx } := by
  show ffiAssertRes _ (PjsipInvState.tryFrom state.toU32) >>= _ = _
  rw [PjsipInvState.tryFrom_toU32]
  rfl

/-- The callback sees media that is active in a call that is confirmed. -/
def CallInfo.isHookup (info : CallInfo) : Bool := info = CallInfo.of .active .confirmed

theorem CallInfo.isHookup_of (media : CallMediaStatus) (state : PjsipInvState) :
    (CallInfo.of media state).isHookup = decide (media = .active ∧ state = .confirmed) := by
  cases media <;> cases state <;> rfl

theorem recvCallMediaData_of (media : CallMediaStatus) (state : PjsipInvState)
    (userData : Option StateChangedUserData) :
    recvCallMediaData (pjSuccess, CallInfo.of media state) userData =
      if media = .active ∧ state = .confirmed then
        recvCallMediaData (pjSuccess, CallInfo.of .active .confirmed) userData
      else .ok (userData, none) := by
  cases media <;> cases state <;> rfl

/-- Without active media in a confirmed call, nothing is received. -/
theorem recvCallMediaData_idle {info : CallInfo} (valid : info.Valid) (idle : info.isHookup = false)
    (userData : Option StateChangedUserData) :
    recvCallMediaData (pjSuccess, info) userData = .ok (userData, none) := by
  obtain ⟨media, state, rfl⟩ := valid
  rw [CallInfo.isHookup_of, decide_eq_false_iff_not] at idle
  rw [recvCallMediaData_of, if_neg idle]

/-- The first time, the media data is there. -/
theorem recvCallMediaData_sent {info : CallInfo} (hookup : info.isHookup = true)
    {userData : StateChangedUserData} {data : CallMediaData}
    (sent : userData.callMediaDataRx = some (.sent data)) :
    recvCallMediaData (pjSuccess, info) (some userData) =
      .ok (some { userData with callMediaDataRx := some .closed }, some data) := by
  obtain rfl : info = CallInfo.of .active .confirmed := of_decide_eq_true hookup
  obtain ⟨tx, rx⟩ := userData
  cases sent
  rfl

/-- With nothing to receive, `ffi_assert!(false)` ends the process. -/
theorem recvCallMediaData_exit {info : CallInfo} (hookup : info.isHookup = true)
    {userData : StateChangedUserData} {rx : Oneshot CallMediaData}
    (field : userData.callMediaDataRx = some rx) (unsent : ∀ data, rx ≠ .sent data) :
    recvCallMediaData (pjSuccess, info) (some userData) =
      .error (.exit .mediaDataReceived) := by
  obtain rfl : info = CallInfo.of .active .confirmed := of_decide_eq_true hookup
  obtain ⟨tx, found⟩ := userData
  cases field
  cases rx with
  | empty => rfl
  | sent data => exact absurd rfl (unsent data)
  | closed => rfl

/-! ### The connections of one hook-up -/

/-- The connections made for the media data of a call: the call's port to each sink slot, then each
stream slot to the call's port. -/
def CallMediaData.pairs (data : CallMediaData) (confPort : Int) : List (Int × Int) :=
  data.sinksSlots.map (fun entry => (confPort, entry.slot)) ++
    data.streamSlots.map fun entry => (entry.slot, confPort)

/-- Make the given connections in order. -/
def connectAll (confConnect : Int → Int → PjStatus) (pairs : List (Int × Int))
    (connections : Connections) : Outcome Connections :=
  pairs.foldlM (fun connections pair => connectSlots confConnect pair.1 pair.2 connections)
    connections

theorem connectAll_cons (confConnect : Int → Int → PjStatus) (pair : Int × Int)
    (pairs : List (Int × Int)) (connections : Connections) :
    connectAll confConnect (pair :: pairs) connections =
      connectSlots confConnect pair.1 pair.2 connections >>= connectAll confConnect pairs := rfl

/-- Connections that pjsua accepts are all made, each once and in order. -/
theorem connectAll_success {confConnect : Int → Int → PjStatus} {pairs : List (Int × Int)}
    (succeeds : ∀ pair ∈ pairs, confConnect pair.1 pair.2 = pjSuccess) (connections : Connections) :
    connectAll confConnect pairs connections = .ok (connections ++ pairs) := by
  induction pairs generalizing connections with
  | nil =>
    rw [List.append_nil]
    rfl
  | cons pair pairs ih =>
    have first : connectSlots confConnect pair.1 pair.2 connections = .ok (connections ++ [pair]) := by
      unfold connectSlots
      rw [succeeds pair List.mem_cons_self]
      rfl
    have rest := ih (fun other member => succeeds other (List.mem_cons_of_mem _ member))
      (connections ++ [pair])
    rw [connectAll_cons, first]
    show connectAll confConnect pairs (connections ++ [pair]) = _
    rw [rest, List.append_assoc, List.singleton_append]

/-- Connections are all made, or the callback does not return. -/
theorem connectAll_eq_ok {confConnect : Int → Int → PjStatus} {pairs : List (Int × Int)}
    {connections after : Connections} (made : connectAll confConnect pairs connections = .ok after) :
    after = connections ++ pairs := by
  induction pairs generalizing connections with
  | nil =>
    cases made
    exact (List.append_nil _).symm
  | cons pair pairs ih =>
    rw [connectAll_cons] at made
    unfold connectSlots at made
    rcases getErrorAsResult_cases (confConnect pair.1 pair.2) with ⟨_, given⟩ | ⟨_, given⟩
    · rw [given] at made
      have rest : connectAll confConnect pairs (connections ++ [pair]) = .ok after := made
      rw [ih rest, List.append_assoc, List.singleton_append]
    · rw [given] at made
      cases made

/-- **The callback in two parts**: receive the media data, then make its connections. -/
theorem onCallMediaState_eq (pjsua : Pjsua) (userData : Option StateChangedUserData)
    (connections : Connections) :
    onCallMediaState pjsua userData connections =
      recvCallMediaData pjsua.callGetInfo userData >>= fun answer =>
        match answer.2 with
        | none => pure (answer.1, connections)
        | some data =>
          ffiAssertRes .confPort (getCallConfPort pjsua.callGetConfPort) >>= fun confPort =>
            (connectAll pjsua.confConnect (data.pairs confPort) connections).map
              fun connections => (answer.1, connections) := by
  unfold onCallMediaState
  congr 1
  funext answer
  obtain ⟨userData, received⟩ := answer
  cases received with
  | none => rfl
  | some data =>
    show _ >>= _ = _ >>= _
    congr 1
    funext confPort
    unfold connectAll CallMediaData.pairs
    rw [List.foldlM_append, List.foldlM_map]
    simp only [List.foldlM_map]
    cases data.sinksSlots.foldlM
      (fun connections entry => connectSlots pjsua.confConnect confPort entry.slot connections)
      connections with
    | error abort => rfl
    | ok middle => rfl

end PjsipClient
