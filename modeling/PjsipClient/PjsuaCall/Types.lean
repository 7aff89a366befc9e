/-
The data of a call (`pjsua_call.rs`): the invite state and the media status with their conversions
from the numbers of pjsip, the media data that `PjsuaCallSetup::add` sends, and the user data that
`PjsuaCallHandle::new` registers with pjsua.
-/

import PjsipClient.Error
import PjsipClient.Lib.Channel

namespace PjsipClient

open Transport

/-- The state of an INVITE session. -/
inductive PjsipInvState
  | null
  | calling
  | incoming
  | early
  | connecting
  | confirmed
  | disconnected
  deriving DecidableEq, Repr

/-- `TryFrom<u32> for PjsipInvState`. -/
def PjsipInvState.tryFrom (value : UInt32) : Except Unit PjsipInvState :=
  match value.toNat with
  | 0 => .ok .null
  | 1 => .ok .calling
  | 2 => .ok .incoming
  | 3 => .ok .early
  | 4 => .ok .connecting
  | 5 => .ok .confirmed
  | 6 => .ok .disconnected
  | _ => .error ()

/-- The number pjsip uses for a state, `pjsip_inv_state`. -/
def PjsipInvState.toU32 : PjsipInvState → UInt32
  | .null => 0
  | .calling => 1
  | .incoming => 2
  | .early => 3
  | .connecting => 4
  | .confirmed => 5
  | .disconnected => 6

@[simp] theorem PjsipInvState.tryFrom_toU32 (state : PjsipInvState) :
    tryFrom state.toU32 = .ok state := by
  cases state <;> rfl

/-- The status of a call's media. -/
inductive CallMediaStatus
  | none
  | active
  | localHold
  | remoteHold
  | error
  deriving DecidableEq, Repr

/-- `TryFrom<u32> for CallMediaStatus`; the numbers are those of `pjsua_call_media_status`. -/
def CallMediaStatus.tryFrom (value : UInt32) : Except Unit CallMediaStatus :=
  match value.toNat with
  | 0 => .ok .none
  | 1 => .ok .active
  | 2 => .ok .localHold
  | 3 => .ok .remoteHold
  | 4 => .ok .error
  | _ => .error ()

/-- The number pjsua uses for a status. -/
def CallMediaStatus.toU32 : CallMediaStatus → UInt32
  | .none => 0
  | .active => 1
  | .localHold => 2
  | .remoteHold => 3
  | .error => 4

@[simp] theorem CallMediaStatus.tryFrom_toU32 (status : CallMediaStatus) :
    tryFrom status.toU32 = .ok status := by
  cases status <;> rfl

/-- A conference-bridge slot that the call is to be connected with. -/
structure CallMediaEntry where
  slot : Int
  deriving DecidableEq, Repr

/-- The slots that hear the call and the slots that the call hears. -/
structure CallMediaData where
  sinksSlots : List CallMediaEntry
  streamSlots : List CallMediaEntry
  deriving DecidableEq, Repr

/-- The media data that `PjsuaCallSetup::add` sends for its two ports. -/
def CallMediaData.ofPorts (sinkAdded streamAdded : Int) : CallMediaData where
  sinksSlots := [⟨sinkAdded⟩]
  streamSlots := [⟨streamAdded⟩]

/-- What `on_call_state` sends. -/
abbrev OnStateChangedSendData := Int × PjsipInvState

/-- The user data of a call: the state channel it reports to, and the receiver of its media data.
Each channel is carried whole, with the end that the call handle keeps. -/
structure StateChangedUserData where
  onStateChangedTx : Channel OnStateChangedSendData 3
  callMediaDataRx : Option (Oneshot CallMediaData)
  deriving DecidableEq

/-- The user data that `PjsuaCallHandle::new` boxes. -/
def StateChangedUserData.new : StateChangedUserData where
  onStateChangedTx := Channel.new _ 3
  callMediaDataRx := some .empty

/-- The same user data once `PjsuaCallSetup::add` has sent its media data. -/
def StateChangedUserData.withSent (userData : StateChangedUserData) (data : CallMediaData) :
    StateChangedUserData :=
  { userData with callMediaDataRx := some (.sent data) }

/-- The parts of `pjsua_call_info` that the crate reads. -/
structure CallInfo where
  mediaStatus : UInt32
  state : UInt32
  deriving DecidableEq

/-- The call information of a call in a given state. -/
def CallInfo.of (status : CallMediaStatus) (state : PjsipInvState) : CallInfo :=
  ⟨status.toU32, state.toU32⟩

/-- Both numbers stand for something. -/
def CallInfo.Valid (info : CallInfo) : Prop :=
  ∃ status state, info = CallInfo.of status state

/-- `get_call_info`, from what `pjsua_call_get_info` answered. -/
def getCallInfo (answer : PjStatus × CallInfo) : Except PjsuaError CallInfo := do
  getErrorAsResult answer.1
  pure answer.2

/-- `get_call_conf_port`, from what `pjsua_call_get_conf_port` answered. -/
def getCallConfPort (confSlot : Int) : Except PjsuaError Int :=
  if confSlot = pjsuaInvalidId then .error ⟨-1, .text "Invalid conf slot"⟩ else .ok confSlot

theorem getCallConfPort_valid {confSlot : Int} (valid : confSlot ≠ pjsuaInvalidId) :
    getCallConfPort confSlot = .ok confSlot := if_neg valid

end PjsipClient
