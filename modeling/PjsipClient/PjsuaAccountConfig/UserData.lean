/-
The user data of the accounts, and the callbacks that use it (`pjsua_account_config.rs`).

`AccountConfig::new` puts the sender of the account's channel into a box and keeps a raw pointer to it,
which `pjsua_acc_add` copies into pjsua's table of accounts. Only the drop of an `AccountConfigAdded`
frees a box: it asks pjsua for the pointer, deletes the account and takes the box back. A callback asks
pjsua for the pointer as well, and uses it later, on pjsua's own thread.

`Accounts` has all boxes, named in the order in which they were made; a configuration, or the account
that it becomes, is named by the box that it was made with.

* `Accounts.steps_of_step` — what each event can do.
* `Accounts.Kept` — what pjsua, the callbacks and the drops know of each box. Kept by every step.
-/

import Mathlib.Logic.Function.Basic
import PjsipClient.Lib.System
import PjsipClient.PjsuaAccountConfig.Config
import PjsipClient.PjsuaAccountConfig.Delivery

namespace PjsipClient

open Transport Transition

/-! ### The accounts of a process -/

/-- How far the drop of an `AccountConfigAdded` is, with the pointer that it got. -/
inductive AccountDrop
  | accDel (userData : ℕ)
  | free (userData : ℕ)
  | fields
  deriving DecidableEq, Repr

/-- What has become of a configuration. -/
inductive AccountValue
  | unmade
  | config
  | added (accountId : Int)
  | dropping (accountId : Int) (stage : AccountDrop)
  | gone
  deriving DecidableEq, Repr

def AccountValue.accountId : AccountValue → Option Int
  | added accountId | dropping accountId _ => some accountId
  | _ => none

/-- The user data in its box, with what went through its channel and how often it was freed. -/
structure UserDataBox where
  userData : AccountConfigUserData
  history : History OnIncomingCallSendData
  freed : ℕ
  deriving DecidableEq

def UserDataBox.new : UserDataBox := ⟨⟨.new _ 10⟩, .empty, 0⟩

/-- `Box::from_raw` and the drop, and the sender is gone. -/
def UserDataBox.free (box : UserDataBox) : UserDataBox :=
  { box with
    userData := ⟨box.userData.onIncomingCallTx.dropSender⟩
    freed := box.freed + 1 }

def UserDataBox.dropReceiver (box : UserDataBox) : UserDataBox :=
  { box with userData := ⟨box.userData.onIncomingCallTx.dropReceiver⟩ }

/-- A notification was sent. -/
def UserDataBox.send (box : UserDataBox) (userData : AccountConfigUserData)
    (call : OnIncomingCallSendData) : UserDataBox :=
  { box with userData := userData, history := box.history.send call }

def UserDataBox.receive (box : UserDataBox) (rx : Channel OnIncomingCallSendData 10)
    (call : OnIncomingCallSendData) : UserDataBox :=
  { box with userData := ⟨rx⟩, history := box.history.receive call }

/-- An `on_incoming_call` that has the pointer and has not used it yet. -/
structure IncomingCallback where
  accountId : Int
  callId : Int
  transport : ℕ
  userData : ℕ
  deriving DecidableEq, Repr

structure Accounts where
  made : ℕ
  value : ℕ → AccountValue
  box : ℕ → UserDataBox
  /-- The pointers that pjsua has, by account id. -/
  registered : Int → Option ℕ
  callbacks : List IncomingCallback
  abort : Option Abort

inductive AccountsEvent
  | new (username password domain : Str)
  | dropConfig (config : ℕ)
  | addToInstanceInit (config : ℕ) (pjsuaAccAdd : PjStatus) (accountId : Int)
  | nextCall (account : ℕ)
  /-- The drop of an `AccountConfigAdded` asks for the pointer. -/
  | drop (account : ℕ)
  | accDel (account : ℕ) (pjsuaAccDel : PjStatus)
  | free (account : ℕ)
  | dropFields (account : ℕ)
  /-- The callback asks for the pointer. -/
  | onIncomingCall (accountId callId : Int) (transport : ℕ)
  /-- The callback of this index sends. -/
  | trySend (callback : ℕ)
  deriving DecidableEq

namespace Accounts

def start : Accounts where
  made := 0
  value := fun _ => .unmade
  box := fun _ => .new
  registered := fun _ => none
  callbacks := []
  abort := none

def become (s : Accounts) (b : ℕ) (value : AccountValue) : Accounts :=
  { s with value := Function.update s.value b value }

def setBox (s : Accounts) (b : ℕ) (box : UserDataBox) : Accounts :=
  { s with box := Function.update s.box b box }

/-- The value of the box is dropped with its receiver. -/
def dropValue (s : Accounts) (b : ℕ) : Accounts := (s.become b .gone).setBox b (s.box b).dropReceiver

def register (s : Accounts) (accountId : Int) (userData : Option ℕ) : Accounts :=
  { s with registered := Function.update s.registered accountId userData }

@[simp] theorem become_value_self (s : Accounts) (b : ℕ) (value : AccountValue) :
    (s.become b value).value b = value := Function.update_self _ _ _

@[simp] theorem setBox_box_self (s : Accounts) (b : ℕ) (box : UserDataBox) :
    (s.setBox b box).box b = box := Function.update_self _ _ _

@[simp] theorem setBox_value (s : Accounts) (b : ℕ) (box : UserDataBox) :
    (s.setBox b box).value = s.value := rfl

@[simp] theorem register_value (s : Accounts) (accountId : Int) (userData : Option ℕ) :
    (s.register accountId userData).value = s.value := rfl

/-- `AccountConfig::new`: the box is made before the strings are looked at. -/
def new (s : Accounts) (username password domain : Str) : Accounts :=
  let made := { s with made := s.made + 1 }
  match AccountConfig.new s.made username password domain with
  | .ok _ => made.become s.made .config
  | .error _ => made.dropValue s.made

/-- pjsua gives an id that no account has. -/
def addToInstanceInit (s : Accounts) (config : ℕ) (pjsuaAccAdd : PjStatus) (accountId : Int) :
    Option Accounts :=
  match getErrorAsResult pjsuaAccAdd with
  | .error _ => some (s.dropValue config)
  | .ok () =>
    if s.registered accountId = none then
      let added := s.register accountId (some config)
      match ffiAssert .accountUserDataNotNull (added.registered accountId).isSome with
      | .ok () => some (added.become config (.added accountId))
      | .error abort => some { added with abort := some abort }
    else none

def nextCall (s : Accounts) (account : ℕ) : Accounts :=
  match IncomingCallReceiver.nextCall (s.box account).userData.onIncomingCallTx with
  | .pending => s
  | .ready (.ok (call, rx)) => s.setBox account ((s.box account).receive rx call)
  | .ready (.error abort) => { s with abort := some abort }

/-- The first steps of the drop; without a pointer the assertion panics, and the fields are dropped. -/
def drop (s : Accounts) (account : ℕ) (accountId : Int) : Accounts :=
  match s.registered accountId with
  | some userData => s.become account (.dropping accountId (.accDel userData))
  | none => s.become account (.dropping accountId .fields)

/-- An error of `pjsua_acc_del` is only printed. -/
def accDel (s : Accounts) (account : ℕ) (accountId : Int) (userData : ℕ) (pjsuaAccDel : PjStatus) :
    Accounts :=
  let next := s.become account (.dropping accountId (.free userData))
  match getErrorAsResult pjsuaAccDel with
  | .ok () => next.register accountId none
  | .error _ => next

def free (s : Accounts) (account : ℕ) (accountId : Int) (userData : ℕ) : Accounts :=
  (s.become account (.dropping accountId .fields)).setBox userData (s.box userData).free

def onIncomingCall (s : Accounts) (accountId callId : Int) (transport : ℕ) : Accounts :=
  match s.registered accountId with
  | some userData =>
    { s with callbacks := s.callbacks ++ [⟨accountId, callId, transport, userData⟩] }
  | none => { s with abort := some (.exit .accountUserDataNotNull) }

/-- The rest of the callback, with what is behind its pointer by now. -/
def trySend (s : Accounts) (index : ℕ) (callback : IncomingCallback) : Accounts :=
  let box := s.box callback.userData
  if box.freed = 0 then
    match PjsipClient.onIncomingCall callback.accountId callback.callId
      (some ⟨some callback.transport⟩) (some box.userData) with
    | .ok userData =>
      { s.setBox callback.userData (box.send userData (callback.accountId, callback.callId)) with
        callbacks := s.callbacks.eraseIdx index }
    | .error abort => { s with abort := some abort }
  else { s with abort := some .useAfterFree }

/-- One event, in a process that has not ended. -/
def step (s : Accounts) (e : AccountsEvent) : Option Accounts :=
  if s.abort = none then
    match e with
    | .new username password domain => some (s.new username password domain)
    | .dropConfig config => if s.value config = .config then some (s.dropValue config) else none
    | .addToInstanceInit config pjsuaAccAdd accountId =>
      if s.value config = .config then s.addToInstanceInit config pjsuaAccAdd accountId else none
    | .nextCall account =>
      match s.value account with
      | .added _ => some (s.nextCall account)
      | _ => none
    | .drop account =>
      match s.value account with
      | .added accountId => some (s.drop account accountId)
      | _ => none
    | .accDel account pjsuaAccDel =>
      match s.value account with
      | .dropping accountId (.accDel userData) =>
        some (s.accDel account accountId userData pjsuaAccDel)
      | _ => none
    | .free account =>
      match s.value account with
      | .dropping accountId (.free userData) => some (s.free account accountId userData)
      | _ => none
    | .dropFields account =>
      match s.value account with
      | .dropping _ .fields => some (s.dropValue account)
      | _ => none
    | .onIncomingCall accountId callId transport =>
      some (s.onIncomingCall accountId callId transport)
    | .trySend index =>
      match s.callbacks[index]? with
      | some callback => some (s.trySend index callback)
      | none => none
  else none

end Accounts

def accountsSystem : System Accounts AccountsEvent := ⟨Accounts.step⟩

namespace Accounts

variable {s t : Accounts} {e : AccountsEvent}

/-! ### The steps -/

/-- What one event can do. -/
inductive Steps (s : Accounts) : AccountsEvent → Accounts → Prop
  | made {username password domain : Str}
      (accepts : AccountConfig.Accepts username password domain) :
      Steps s (.new username password domain)
        (become { s with made := s.made + 1 } s.made .config)
  | unmade {username password domain : Str}
      (refuses : ¬ AccountConfig.Accepts username password domain) :
      Steps s (.new username password domain) (dropValue { s with made := s.made + 1 } s.made)
  | dropConfig {b : ℕ} (was : s.value b = .config) : Steps s (.dropConfig b) (s.dropValue b)
  | added {b : ℕ} {accountId : Int} (was : s.value b = .config)
      (fresh : s.registered accountId = none) :
      Steps s (.addToInstanceInit b pjSuccess accountId)
        ((s.register accountId (some b)).become b (.added accountId))
  | addFailed {b : ℕ} {accountId : Int} {status : PjStatus} (was : s.value b = .config)
      (failed : status ≠ pjSuccess) :
      Steps s (.addToInstanceInit b status accountId) (s.dropValue b)
  | pending {b : ℕ} {accountId : Int} (was : s.value b = .added accountId)
      (waits : (s.box b).userData.onIncomingCallTx.recv = .pending) : Steps s (.nextCall b) s
  | received {b : ℕ} {accountId : Int} {call : OnIncomingCallSendData}
      {rx : Channel OnIncomingCallSendData 10} (was : s.value b = .added accountId)
      (got : (s.box b).userData.onIncomingCallTx.recv = .ready (some call, rx)) :
      Steps s (.nextCall b) (s.setBox b ((s.box b).receive rx call))
  | closed {b : ℕ} {accountId : Int} {rx : Channel OnIncomingCallSendData 10}
      (was : s.value b = .added accountId)
      (got : (s.box b).userData.onIncomingCallTx.recv = .ready (none, rx)) :
      Steps s (.nextCall b) { s with abort := some .panic }
  | drop {b userData : ℕ} {accountId : Int} (was : s.value b = .added accountId)
      (found : s.registered accountId = some userData) :
      Steps s (.drop b) (s.become b (.dropping accountId (.accDel userData)))
  | dropUnknown {b : ℕ} {accountId : Int} (was : s.value b = .added accountId)
      (unknown : s.registered accountId = none) :
      Steps s (.drop b) (s.become b (.dropping accountId .fields))
  | deleted {b userData : ℕ} {accountId : Int}
      (was : s.value b = .dropping accountId (.accDel userData)) :
      Steps s (.accDel b pjSuccess)
        ((s.become b (.dropping accountId (.free userData))).register accountId none)
  | undeleted {b userData : ℕ} {accountId : Int} {status : PjStatus}
      (was : s.value b = .dropping accountId (.accDel userData)) (failed : status ≠ pjSuccess) :
      Steps s (.accDel b status) (s.become b (.dropping accountId (.free userData)))
  | free {b userData : ℕ} {accountId : Int}
      (was : s.value b = .dropping accountId (.free userData)) :
      Steps s (.free b) (s.free b accountId userData)
  | dropFields {b : ℕ} {accountId : Int} (was : s.value b = .dropping accountId .fields) :
      Steps s (.dropFields b) (s.dropValue b)
  | called {accountId callId : Int} {transport userData : ℕ}
      (found : s.registered accountId = some userData) :
      Steps s (.onIncomingCall accountId callId transport)
        { s with callbacks := s.callbacks ++ [⟨accountId, callId, transport, userData⟩] }
  | uncalled {accountId callId : Int} {transport : ℕ} (unknown : s.registered accountId = none) :
      Steps s (.onIncomingCall accountId callId transport)
        { s with abort := some (.exit .accountUserDataNotNull) }
  | sent {index : ℕ} {callback : IncomingCallback} {tx : Channel OnIncomingCallSendData 10}
      (running : s.callbacks[index]? = some callback) (live : (s.box callback.userData).freed = 0)
      (accepted : (s.box callback.userData).userData.onIncomingCallTx.trySend
        (callback.accountId, callback.callId) = .ok tx) :
      Steps s (.trySend index)
        { s.setBox callback.userData
            ((s.box callback.userData).send ⟨tx⟩ (callback.accountId, callback.callId)) with
          callbacks := s.callbacks.eraseIdx index }
  | refused {index : ℕ} {callback : IncomingCallback}
      {error : TrySendError OnIncomingCallSendData}
      (running : s.callbacks[index]? = some callback) (live : (s.box callback.userData).freed = 0)
      (refusal : (s.box callback.userData).userData.onIncomingCallTx.trySend
        (callback.accountId, callback.callId) = .error error) :
      Steps s (.trySend index) { s with abort := some .panic }
  | dangled {index : ℕ} {callback : IncomingCallback}
      (running : s.callbacks[index]? = some callback)
      (freed : (s.box callback.userData).freed ≠ 0) :
      Steps s (.trySend index) { s with abort := some .useAfterFree }

theorem steps_nextCall {b : ℕ} {accountId : Int} (was : s.value b = .added accountId) :
    Steps s (.nextCall b) (s.nextCall b) := by
  unfold nextCall IncomingCallReceiver.nextCall
  cases got : (s.box b).userData.onIncomingCallTx.recv with
  | pending => exact .pending was got
  | ready answer =>
    obtain ⟨call, rx⟩ := answer
    cases call with
    | none => exact .closed was got
    | some call => exact .received was got

theorem steps_trySend {index : ℕ} {callback : IncomingCallback}
    (running : s.callbacks[index]? = some callback) :
    Steps s (.trySend index) (s.trySend index callback) := by
  unfold trySend
  by_cases live : (s.box callback.userData).freed = 0
  · rw [if_pos live, onIncomingCall_eq _ _ _ callback.transport _ rfl]
    cases sent : (s.box callback.userData).userData.onIncomingCallTx.trySend
      (callback.accountId, callback.callId) with
    | ok tx => exact .sent running live sent
    | error error => exact .refused running live sent
  · rw [if_neg live]
    exact .dangled running live

theorem steps_addToInstanceInit {b : ℕ} {status : PjStatus} {accountId : Int}
    (was : s.value b = .config) (added : s.addToInstanceInit b status accountId = some t) :
    Steps s (.addToInstanceInit b status accountId) t := by
  unfold addToInstanceInit at added
  rcases getErrorAsResult_cases status with ⟨rfl, given⟩ | ⟨failed, given⟩
  · rw [given] at added
    obtain ⟨fresh, added⟩ := Option.ite_none_right_eq_some.mp added
    simp only [register, Function.update_self, Option.isSome_some, ffiAssert, if_true,
      Option.some.injEq] at added
    subst added
    exact .added was fresh
  · rw [given] at added
    cases added
    exact .addFailed was failed

/-- **The steps of the accounts.** -/
theorem steps_of_step (stepped : s.step e = some t) : s.abort = none ∧ Steps s e t := by
  obtain ⟨going, stepped⟩ := Option.ite_none_right_eq_some.mp stepped
  refine ⟨going, ?_⟩
  cases e with
  | new username password domain =>
    cases stepped
    unfold new
    rw [AccountConfig.new_eq]
    by_cases accepts : AccountConfig.Accepts username password domain
    · rw [if_pos accepts]
      exact .made accepts
    · rw [if_neg accepts]
      exact .unmade accepts
  | dropConfig b =>
    obtain ⟨was, rfl⟩ := Option.ite_none_right_eq_some.mp stepped |>.imp_right Option.some.inj
    exact .dropConfig was
  | addToInstanceInit b status accountId =>
    obtain ⟨was, added⟩ := Option.ite_none_right_eq_some.mp stepped
    exact steps_addToInstanceInit was added
  | nextCall b =>
    simp only at stepped
    split at stepped
    · cases stepped
      exact steps_nextCall ‹_›
    · cases stepped
  | drop b =>
    simp only at stepped
    split at stepped
    · rename_i accountId was
      cases stepped
      unfold Accounts.drop
      cases found : s.registered accountId with
      | none => exact .dropUnknown was found
      | some userData => exact .drop was found
    · cases stepped
  | accDel b status =>
    simp only at stepped
    split at stepped
    · rename_i accountId userData was
      cases stepped
      unfold Accounts.accDel
      rcases getErrorAsResult_cases status with ⟨rfl, given⟩ | ⟨failed, given⟩
      · rw [given]
        exact .deleted was
      · rw [given]
        exact .undeleted was failed
    · cases stepped
  | free b =>
    simp only at stepped
    split at stepped
    · cases stepped
      exact .free ‹_›
    · cases stepped
  | dropFields b =>
    simp only at stepped
    split at stepped
    · cases stepped
      exact .dropFields ‹_›
    · cases stepped
  | onIncomingCall accountId callId transport =>
    cases stepped
    unfold Accounts.onIncomingCall
    cases found : s.registered accountId with
    | none => exact .uncalled found
    | some userData => exact .called found
  | trySend index =>
    simp only at stepped
    split at stepped
    · cases stepped
      exact steps_trySend ‹_›
    · cases stepped

end Accounts

/-! ### What a box has to do with its value -/

/-- The box is there, with both ends of its channel. -/
structure UserDataBox.Live (box : UserDataBox) : Prop where
  unfreed : box.freed = 0
  sender : box.userData.onIncomingCallTx.senderOpen = true
  receiver : box.userData.onIncomingCallTx.receiverOpen = true

namespace UserDataBox

variable {box : UserDataBox} {call : OnIncomingCallSendData}
  {channel : Channel OnIncomingCallSendData 10}

theorem live_new : UserDataBox.new.Live := ⟨rfl, rfl, rfl⟩

theorem Live.send (live : box.Live)
    (sent : box.userData.onIncomingCallTx.trySend call = .ok channel) :
    (box.send ⟨channel⟩ call).Live := by
  obtain ⟨_, _, _, sender, receiver⟩ := Channel.trySend_eq_ok.mp sent
  exact ⟨live.unfreed, sender.trans live.sender, receiver.trans live.receiver⟩

theorem Live.receive (live : box.Live)
    (got : box.userData.onIncomingCallTx.recv = .ready (some call, channel)) :
    (box.receive channel call).Live := by
  rcases Channel.recv_eq_ready got with ⟨_, _, _, receiver, sender⟩ | ⟨impossible, _⟩
  · exact ⟨live.unfreed, sender.trans live.sender, receiver.trans live.receiver⟩
  · cases impossible

end UserDataBox

/-- What a box is while its value is this one. -/
inductive AccountValue.Keeps (b : ℕ) : AccountValue → UserDataBox → Prop
  | unmade {box : UserDataBox} (new : box = .new) : Keeps b .unmade box
  | config {box : UserDataBox} (new : box = .new) : Keeps b .config box
  | added {accountId : Int} {box : UserDataBox} (live : box.Live) : Keeps b (.added accountId) box
  | accDel {accountId : Int} {box : UserDataBox} (live : box.Live) :
      Keeps b (.dropping accountId (.accDel b)) box
  | free {accountId : Int} {box : UserDataBox} (live : box.Live) :
      Keeps b (.dropping accountId (.free b)) box
  | fields {accountId : Int} {box : UserDataBox} (freed : box.freed = 1) :
      Keeps b (.dropping accountId .fields) box
  | gone {box : UserDataBox} (freed : box.freed ≤ 1) : Keeps b .gone box

/-- pjsua may know the value under this id, or have known it. -/
def AccountValue.Knows (freed : ℕ) (accountId : Int) : AccountValue → Prop
  | added id | dropping id _ => id = accountId
  | gone => freed = 1
  | _ => False

/-- pjsua has the pointer of the value under this id. -/
def AccountValue.Registered (accountId : Int) : AccountValue → Prop
  | added id | dropping id (.accDel _) => id = accountId
  | _ => False

/-- A callback sends to the box of a value that pjsua knows. -/
theorem AccountValue.Keeps.send {value : AccountValue} {b : ℕ} {box : UserDataBox} {accountId : Int}
    {call : OnIncomingCallSendData} {channel : Channel OnIncomingCallSendData 10}
    (keeps : value.Keeps b box) (knows : value.Knows box.freed accountId)
    (sent : box.userData.onIncomingCallTx.trySend call = .ok channel) :
    value.Keeps b (box.send ⟨channel⟩ call) := by
  cases keeps with
  | unmade => exact knows.elim
  | config => exact knows.elim
  | added live => exact .added (live.send sent)
  | accDel live => exact .accDel (live.send sent)
  | free live => exact .free (live.send sent)
  | fields freed => exact .fields freed
  | gone freed => exact .gone freed

/-- A box that pjsua knows and that is there is there with both ends. -/
theorem AccountValue.Keeps.live {value : AccountValue} {b : ℕ} {box : UserDataBox} {accountId : Int}
    (keeps : value.Keeps b box) (knows : value.Knows box.freed accountId)
    (unfreed : box.freed = 0) : box.Live := by
  cases keeps with
  | unmade => exact knows.elim
  | config => exact knows.elim
  | added live => exact live
  | accDel live => exact live
  | free live => exact live
  | fields freed => simp [unfreed] at freed
  | gone _ =>
    have freed : box.freed = 1 := knows
    simp [unfreed] at freed

theorem AccountValue.Keeps.freed_le {value : AccountValue} {b : ℕ} {box : UserDataBox}
    (keeps : value.Keeps b box) : box.freed ≤ 1 := by
  cases keeps with
  | unmade new => simp [new, UserDataBox.new]
  | config new => simp [new, UserDataBox.new]
  | added live => simp [live.unfreed]
  | accDel live => simp [live.unfreed]
  | free live => simp [live.unfreed]
  | fields freed => exact le_of_eq freed
  | gone freed => exact freed

namespace Accounts

variable {s t : Accounts} {e : AccountsEvent}

/-- What holds in every reachable state. -/
structure Kept (s : Accounts) : Prop where
  beyond : ∀ b, s.made ≤ b → s.value b = .unmade
  keeps : ∀ b, (s.value b).Keeps b (s.box b)
  registered : ∀ b accountId, (s.value b).Registered accountId → s.registered accountId = some b
  known : ∀ accountId b, s.registered accountId = some b →
    (s.value b).Knows (s.box b).freed accountId
  running : ∀ callback ∈ s.callbacks,
    (s.value callback.userData).Knows (s.box callback.userData).freed callback.accountId

theorem kept_start : start.Kept :=
  ⟨fun _ _ => rfl, fun _ => .unmade rfl, fun _ _ impossible => impossible.elim,
    fun _ _ impossible => (by cases impossible), fun _ member => absurd member List.not_mem_nil⟩

theorem Kept.below (kept : s.Kept) {b : ℕ} (made : s.value b ≠ .unmade) : b < s.made :=
  Nat.lt_of_not_le fun beyond => made (kept.beyond b beyond)

/-- **A step that changes one value and its box.** -/
theorem Kept.change (kept : s.Kept) {b : ℕ} (value : AccountValue) (box : UserDataBox)
    (made : s.made ≤ t.made) (below : b < t.made)
    (isValue : t.value = Function.update s.value b value)
    (isBox : t.box = Function.update s.box b box)
    (isRegistered : t.registered = s.registered) (callbacks : ∀ c ∈ t.callbacks, c ∈ s.callbacks)
    (keeps : value.Keeps b box)
    (registered : ∀ accountId, value.Registered accountId → s.registered accountId = some b)
    (knows : ∀ accountId, (s.value b).Knows (s.box b).freed accountId →
      value.Knows box.freed accountId) : t.Kept := by
  have known : ∀ c accountId, (s.value c).Knows (s.box c).freed accountId →
      (t.value c).Knows (t.box c).freed accountId := by
    intro c accountId before
    rw [isValue, isBox]
    by_cases same : c = b
    · subst same
      simpa using knows accountId before
    · simpa [Function.update_of_ne same] using before
  refine ⟨?_, ?_, ?_, ?_, ?_⟩
  · intro c beyond
    rw [isValue, Function.update_of_ne (by omega)]
    exact kept.beyond c (by omega)
  · intro c
    rw [isValue, isBox]
    by_cases same : c = b
    · subst same
      simpa using keeps
    · simpa [Function.update_of_ne same] using kept.keeps c
  · intro c accountId has
    rw [isRegistered]
    rw [isValue] at has
    by_cases same : c = b
    · subst same
      exact registered accountId (by simpa using has)
    · exact kept.registered c accountId (by simpa [Function.update_of_ne same] using has)
  · intro accountId c found
    rw [isRegistered] at found
    exact known c accountId (kept.known accountId c found)
  · intro c member
    exact known _ _ (kept.running c (callbacks c member))

/-- **A step that changes an entry of pjsua's table.** -/
theorem Kept.reregister (kept : s.Kept) {accountId : Int} (entry : Option ℕ)
    (registered : ∀ b, (s.value b).Registered accountId → entry = some b)
    (known : ∀ b, entry = some b → (s.value b).Knows (s.box b).freed accountId) :
    (s.register accountId entry).Kept := by
  refine ⟨kept.beyond, kept.keeps, ?_, ?_, kept.running⟩
  · intro b other has
    by_cases same : other = accountId
    · subst same
      simpa [register] using registered b has
    · simpa [register, Function.update_of_ne same] using kept.registered b other has
  · intro other b found
    by_cases same : other = accountId
    · subst same
      exact known b (by simpa [register] using found)
    · exact kept.known other b (by simpa [register, Function.update_of_ne same] using found)

/-- A box is as it was made until its configuration is added. -/
theorem Kept.box_new (kept : s.Kept) {b : ℕ}
    (early : s.value b = .unmade ∨ s.value b = .config) : s.box b = .new := by
  have keeps := kept.keeps b
  rcases early with was | was <;> rw [was] at keeps <;> cases keeps <;> assumption

theorem Kept.live (kept : s.Kept) {b : ℕ} {accountId : Int} (was : s.value b = .added accountId) :
    (s.box b).Live := by
  have keeps := kept.keeps b
  rw [was] at keeps
  cases keeps with
  | added live => exact live

/-- The drop has the pointer of its own box. -/
theorem Kept.own_accDel (kept : s.Kept) {b userData : ℕ} {accountId : Int}
    (was : s.value b = .dropping accountId (.accDel userData)) : userData = b ∧ (s.box b).Live := by
  have keeps := kept.keeps b
  rw [was] at keeps
  cases keeps with
  | accDel live => exact ⟨rfl, live⟩

theorem Kept.own_free (kept : s.Kept) {b userData : ℕ} {accountId : Int}
    (was : s.value b = .dropping accountId (.free userData)) : userData = b ∧ (s.box b).Live := by
  have keeps := kept.keeps b
  rw [was] at keeps
  cases keeps with
  | free live => exact ⟨rfl, live⟩

theorem Kept.freed_of_fields (kept : s.Kept) {b : ℕ} {accountId : Int}
    (was : s.value b = .dropping accountId .fields) : (s.box b).freed = 1 := by
  have keeps := kept.keeps b
  rw [was] at keeps
  cases keeps with
  | fields freed => exact freed

/-- The value becomes another one and its box stays. -/
theorem Kept.become (kept : s.Kept) {b : ℕ} (made : s.value b ≠ .unmade) (value : AccountValue)
    (keeps : value.Keeps b (s.box b))
    (registered : ∀ accountId, value.Registered accountId → s.registered accountId = some b)
    (knows : ∀ accountId, (s.value b).Knows (s.box b).freed accountId →
      value.Knows (s.box b).freed accountId) : (s.become b value).Kept :=
  kept.change value (s.box b) le_rfl (kept.below made) rfl (Function.update_eq_self b s.box).symm rfl
    (fun _ => id) keeps registered knows

/-- The value is dropped with its receiver. -/
theorem Kept.dropValue (kept : s.Kept) {b : ℕ} (made : s.value b ≠ .unmade)
    (freed : (s.box b).freed ≤ 1)
    (knows : ∀ accountId, (s.value b).Knows (s.box b).freed accountId → (s.box b).freed = 1) :
    (s.dropValue b).Kept :=
  kept.change .gone (s.box b).dropReceiver le_rfl (kept.below made) rfl rfl rfl (fun _ => id)
    (.gone freed) (fun _ impossible => impossible.elim) knows

/-- The box of a value changes, and is as much a box of it as before. -/
theorem Kept.setBox (kept : s.Kept) {b : ℕ} (made : s.value b ≠ .unmade) (box : UserDataBox)
    (callbacks : List IncomingCallback) (old : ∀ c ∈ callbacks, c ∈ s.callbacks)
    (freed : box.freed = (s.box b).freed) (keeps : (s.value b).Keeps b box) :
    Kept { s.setBox b box with callbacks := callbacks } :=
  kept.change (s.value b) box le_rfl (kept.below made) (Function.update_eq_self b s.value).symm rfl rfl
    old keeps (kept.registered b) (fun _ before => freed ▸ before)

/-- A configuration that is added under a fresh id. -/
theorem Kept.added (kept : s.Kept) {b : ℕ} {accountId : Int} (was : s.value b = .config)
    (fresh : s.registered accountId = none) :
    ((s.register accountId (some b)).become b (.added accountId)).Kept := by
  have isNew : s.box b = .new := kept.box_new (Or.inr was)
  have unknown : ∀ freed id, ¬ (s.value b).Knows freed id := by
    intro freed id knows
    rw [was] at knows
    exact knows
  have known : ∀ c id, (s.value c).Knows (s.box c).freed id →
      (Function.update s.value b (.added accountId) c).Knows (s.box c).freed id := by
    intro c id before
    by_cases same : c = b
    · subst same
      exact absurd before (unknown _ _)
    · rwa [Function.update_of_ne same]
  refine ⟨?_, ?_, ?_, ?_, ?_⟩
  · intro c beyond
    have made : s.value b ≠ .unmade := by simp [was]
    have below : b < s.made := kept.below made
    have other : c ≠ b := ne_of_gt (lt_of_lt_of_le below beyond)
    show Function.update s.value b (.added accountId) c = .unmade
    rw [Function.update_of_ne other]
    exact kept.beyond c beyond
  · intro c
    show (Function.update s.value b (.added accountId) c).Keeps c (s.box c)
    by_cases same : c = b
    · subst same
      rw [Function.update_self, isNew]
      exact .added UserDataBox.live_new
    · rw [Function.update_of_ne same]
      exact kept.keeps c
  · intro c id has
    replace has : (Function.update s.value b (.added accountId) c).Registered id := has
    show Function.update s.registered accountId (some b) id = some c
    by_cases same : c = b
    · subst same
      rw [Function.update_self] at has
      subst has
      exact Function.update_self _ _ _
    · rw [Function.update_of_ne same] at has
      have before : s.registered id = some c := kept.registered c id has
      have other : id ≠ accountId := by
        rintro rfl
        simp [fresh] at before
      rw [Function.update_of_ne other, before]
  · intro id c found
    replace found : Function.update s.registered accountId (some b) id = some c := found
    by_cases same : id = accountId
    · subst same
      rw [Function.update_self] at found
      cases found
      show (Function.update s.value b (.added id) b).Knows _ id
      rw [Function.update_self]
      rfl
    · rw [Function.update_of_ne same] at found
      exact known c id (kept.known id c found)
  · intro callback member
    exact known _ _ (kept.running callback member)

/-- An account that pjsua deletes is known no more. -/
theorem Kept.deleted (kept : s.Kept) {b userData : ℕ} {accountId : Int}
    (was : s.value b = .dropping accountId (.accDel userData)) :
    ((s.become b (.dropping accountId (.free userData))).register accountId none).Kept := by
  obtain ⟨rfl, live⟩ := kept.own_accDel was
  have made : s.value userData ≠ .unmade := by simp [was]
  have found : s.registered accountId = some userData :=
    kept.registered userData accountId (by rw [was]; rfl)
  have next : (s.become userData (.dropping accountId (.free userData))).Kept := by
    refine kept.become made _ (.free live) (fun _ impossible => impossible.elim) fun id knows => ?_
    rw [was] at knows
    exact knows
  refine next.reregister none ?_ (fun _ impossible => by cases impossible)
  intro c has
  replace has : (Function.update s.value userData (.dropping accountId (.free userData)) c).Registered
    accountId := has
  by_cases same : c = userData
  · subst same
    rw [Function.update_self] at has
    exact has.elim
  · rw [Function.update_of_ne same] at has
    have other : s.registered accountId = some c := kept.registered c accountId has
    rw [found] at other
    exact absurd (Option.some.inj other).symm same

theorem Kept.abort (kept : s.Kept) (abort : Abort) : Kept { s with abort := some abort } :=
  ⟨kept.beyond, kept.keeps, kept.registered, kept.known, kept.running⟩

/-- **One step keeps the accounts.** -/
theorem Kept.step (kept : s.Kept) (stepped : s.step e = some t) : t.Kept := by
  obtain ⟨_, steps⟩ := steps_of_step stepped
  have unmade : s.value s.made = .unmade := kept.beyond s.made le_rfl
  have grown : Kept { s with made := s.made + 1 } :=
    ⟨fun b beyond => kept.beyond b (Nat.le_of_succ_le beyond), kept.keeps, kept.registered,
      kept.known, kept.running⟩
  have unknown : ∀ b, s.value b = .unmade ∨ s.value b = .config →
      ∀ freed id, ¬ (s.value b).Knows freed id := by
    rintro b (was | was) freed id knows <;> rw [was] at knows <;> exact knows
  cases steps with
  | made accepts =>
    refine grown.change .config (s.box s.made) le_rfl (Nat.lt_succ_self _) rfl
      (Function.update_eq_self _ _).symm rfl (fun _ => id) (.config (kept.box_new (Or.inl unmade)))
      (fun _ impossible => impossible.elim) fun id knows => ?_
    exact absurd knows (unknown _ (Or.inl unmade) _ id)
  | unmade refuses =>
    have isNew : s.box s.made = .new := kept.box_new (Or.inl unmade)
    refine grown.change .gone (s.box s.made).dropReceiver le_rfl (Nat.lt_succ_self _) rfl rfl rfl
      (fun _ => id) (.gone ?_) (fun _ impossible => impossible.elim) fun id knows => ?_
    · simp [isNew, UserDataBox.dropReceiver, UserDataBox.new]
    · exact absurd knows (unknown _ (Or.inl unmade) _ id)
  | @dropConfig b was =>
    have isNew : s.box b = .new := kept.box_new (Or.inr was)
    refine kept.dropValue (by simp [was]) (by simp [isNew, UserDataBox.new]) fun id knows => ?_
    exact absurd knows (unknown _ (Or.inr was) _ id)
  | @addFailed b _ _ was failed =>
    have isNew : s.box b = .new := kept.box_new (Or.inr was)
    refine kept.dropValue (by simp [was]) (by simp [isNew, UserDataBox.new]) fun id knows => ?_
    exact absurd knows (unknown _ (Or.inr was) _ id)
  | added was fresh => exact kept.added was fresh
  | pending was waits => exact kept
  | received was got =>
    refine kept.setBox (by simp [was]) _ s.callbacks (fun _ => id) rfl ?_
    rw [was]
    exact .added ((kept.live was).receive got)
  | closed was got => exact kept.abort _
  | drop was found =>
    have own := kept.registered _ _ (by rw [was]; rfl)
    rw [found] at own
    cases own
    refine kept.become (by simp [was]) _ (.accDel (kept.live was)) ?_ ?_
    · rintro id rfl
      exact found
    · intro id knows
      rw [was] at knows
      exact knows
  | dropUnknown was unregistered =>
    have own := kept.registered _ _ (by rw [was]; rfl)
    simp [unregistered] at own
  | deleted was => exact kept.deleted was
  | undeleted was failed =>
    obtain ⟨rfl, live⟩ := kept.own_accDel was
    refine kept.become (by simp [was]) _ (.free live) (fun _ impossible => impossible.elim) ?_
    intro id knows
    rw [was] at knows
    exact knows
  | free was =>
    obtain ⟨rfl, live⟩ := kept.own_free was
    refine kept.change _ _ le_rfl (kept.below (by simp [was])) rfl rfl rfl (fun _ => id) (.fields ?_)
      (fun _ impossible => impossible.elim) fun id knows => ?_
    · simp [UserDataBox.free, live.unfreed]
    · rw [was] at knows
      exact knows
  | dropFields was =>
    have freed : (s.box _).freed = 1 := kept.freed_of_fields was
    exact kept.dropValue (by simp [was]) (le_of_eq freed) fun _ _ => freed
  | called found =>
    refine ⟨kept.beyond, kept.keeps, kept.registered, kept.known, ?_⟩
    intro callback member
    rcases List.mem_append.mp member with old | added
    · exact kept.running callback old
    · rw [List.mem_singleton.mp added]
      exact kept.known _ _ found
  | uncalled unregistered => exact kept.abort _
  | @sent index callback tx running live accepted =>
    have knows := kept.running _ (List.mem_of_getElem? running)
    have made : s.value callback.userData ≠ .unmade := by
      intro was
      rw [was] at knows
      exact knows
    exact kept.setBox made _ _ (fun _ => List.mem_of_mem_eraseIdx) rfl
      ((kept.keeps _).send knows accepted)
  | refused running live refusal => exact kept.abort _
  | dangled running freed => exact kept.abort _

end Accounts

end PjsipClient
