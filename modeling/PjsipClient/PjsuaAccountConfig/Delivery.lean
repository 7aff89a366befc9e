/-
The delivery of incoming calls to the application (`pjsua_account_config.rs`).

`on_incoming_call` puts `(account id, call id)` into the account's channel of capacity 10, which
`AccountConfigAdded::next_call` reads. A notification stays in the channel when the remote cancels
the call, so a burst of calls fills it while the application is busy, and the send of the eleventh
waiting notification is refused, which the callback answers by a panic.

* `backlog` — how many notifications a run of events leaves waiting, from the events alone.
* `deliverAll_of_roomy` — while the backlog is below the capacity at every arrival, every
  notification is delivered once and in order.
* `deliversInOrder_iff` — and it is delivered so only then.
-/

import Mathlib.Data.List.Induction
import PjsipClient.PjsuaConfig.Callbacks

namespace PjsipClient

open Transport

/-- The receiving end of `AccountConfigAdded`: pending while nothing waits; a closed channel would
be a panic of the application. -/
def IncomingCallReceiver.nextCall (onIncomingCallRx : Channel OnIncomingCallSendData 10) :
    Poll (Outcome (OnIncomingCallSendData × Channel OnIncomingCallSendData 10)) :=
  match onIncomingCallRx.recv with
  | .pending => .pending
  | .ready (some call, rx) => .ready (.ok (call, rx))
  | .ready (none, _) => .ready (.error .panic)

/-- An added account: its id, the user data registered with pjsua, and what went through the
channel. -/
structure Account where
  accountId : Int
  userData : AccountConfigUserData
  history : History OnIncomingCallSendData
  deriving DecidableEq

/-- The account as `AccountConfig::new` and `add_to_instance_init` leave it. -/
def Account.added (accountId : Int) : Account where
  accountId := accountId
  userData := ⟨Channel.new _ 10⟩
  history := .empty

/-- What can happen around a live account. -/
inductive AccountEvent
  | onIncomingCall (callId : Int) (transport : ℕ)
  | remoteCancel (callId : Int)
  | nextCall
  deriving DecidableEq, Repr

/-- One event. A `nextCall` with nothing waiting stays pending, here or until it is cancelled. -/
def Account.deliver (account : Account) : AccountEvent → Outcome Account
  | .onIncomingCall callId transport => do
    let userData ← onIncomingCall account.accountId callId (some ⟨some transport⟩)
      (some account.userData)
    pure { account with
      userData := userData
      history := account.history.send (account.accountId, callId) }
  | .remoteCancel _ => pure account
  | .nextCall =>
    match IncomingCallReceiver.nextCall account.userData.onIncomingCallTx with
    | .pending => pure account
    | .ready answer => do
      let (call, rx) ← answer
      pure { account with userData := ⟨rx⟩, history := account.history.receive call }

def Account.deliverAll (account : Account) (events : List AccountEvent) : Outcome Account :=
  events.foldlM Account.deliver account

/-- The notifications that a run of events brings, in order. -/
def arrivals (accountId : Int) (events : List AccountEvent) : List OnIncomingCallSendData :=
  events.filterMap fun event =>
    match event with
    | .onIncomingCall callId _ => some (accountId, callId)
    | _ => none

/-- How many notifications wait after one more event, by counting. -/
def backlogStep (waiting : ℕ) : AccountEvent → ℕ
  | .onIncomingCall _ _ => waiting + 1
  | .remoteCancel _ => waiting
  | .nextCall => waiting - 1

/-- How many notifications a run of events leaves waiting. -/
def backlog (events : List AccountEvent) : ℕ := events.foldl backlogStep 0

/-- At every arrival there is room for one more notification. -/
def Roomy (events : List AccountEvent) : Prop :=
  ∀ before callId transport after,
    events = before ++ .onIncomingCall callId transport :: after → backlog before < 10

/-- Every callback returns, and `next_call` takes the notifications out in arrival order: what it
took, followed by what is waiting, is what arrived. -/
def DeliversInOrder (accountId : Int) (events : List AccountEvent) : Prop :=
  ∀ seen, seen <+: events → ∃ account,
    (Account.added accountId).deliverAll seen = .ok account ∧
      account.history.received ++ account.userData.onIncomingCallTx.items = arrivals accountId seen ∧
      account.userData.onIncomingCallTx.items.length = backlog seen

/-! ### One event -/

theorem deliverAll_concat (account : Account) (events : List AccountEvent) (event : AccountEvent) :
    account.deliverAll (events ++ [event]) =
      account.deliverAll events >>= fun next => next.deliver event := by
  unfold Account.deliverAll
  rw [List.foldlM_append]
  congr 1
  funext next
  rw [List.foldlM_cons]
  cases next.deliver event <;> rfl

theorem backlog_concat (events : List AccountEvent) (event : AccountEvent) :
    backlog (events ++ [event]) = backlogStep (backlog events) event := by
  unfold backlog
  rw [List.foldl_append, List.foldl_cons, List.foldl_nil]

theorem arrivals_concat (accountId : Int) (events : List AccountEvent) (event : AccountEvent) :
    arrivals accountId (events ++ [event]) =
      arrivals accountId events ++ arrivals accountId [event] := List.filterMap_append

/-- The account after `events`, as the delivery promises it. -/
structure DeliveredSoFar (account : Account) (events : List AccountEvent) : Prop where
  arrived : account.history.sent = arrivals account.accountId events
  accounts : account.history.Accounts account.userData.onIncomingCallTx
  senderOpen : account.userData.onIncomingCallTx.senderOpen = true
  receiverOpen : account.userData.onIncomingCallTx.receiverOpen = true
  waiting : account.userData.onIncomingCallTx.items.length = backlog events

/-- An arrival is the send of its notification, and a refused send is a panic. -/
theorem deliver_onIncomingCall (account : Account) (callId : Int) (transport : ℕ) :
    account.deliver (.onIncomingCall callId transport) =
      (expect (account.userData.onIncomingCallTx.trySend (account.accountId, callId))).map
        fun tx => { account with
          userData := ⟨tx⟩, history := account.history.send (account.accountId, callId) } := by
  show onIncomingCall _ _ _ _ >>= _ = _
  rw [onIncomingCall_eq _ _ _ transport _ rfl]
  cases expect (account.userData.onIncomingCallTx.trySend (account.accountId, callId)) <;> rfl

theorem DeliveredSoFar.onIncomingCall {account : Account} {events : List AccountEvent}
    (delivered : DeliveredSoFar account events) (room : backlog events < 10) (callId : Int)
    (transport : ℕ) :
    ∃ next, account.deliver (.onIncomingCall callId transport) = .ok next ∧
      next.accountId = account.accountId ∧
      DeliveredSoFar next (events ++ [.onIncomingCall callId transport]) := by
  obtain ⟨tx, sent, items, isOpen⟩ := Channel.trySend_isOk delivered.receiverOpen
    (by rw [delivered.waiting]; exact room) (account.accountId, callId)
  have still : tx.senderOpen = true :=
    (Channel.trySend_eq_ok.mp sent).2.2.2.1.trans delivered.senderOpen
  refine ⟨{ account with
    userData := ⟨tx⟩, history := account.history.send (account.accountId, callId) }, ?_, rfl, ?_⟩
  · rw [deliver_onIncomingCall, sent]
    rfl
  · refine ⟨?_, delivered.accounts.trySend sent, still, isOpen, ?_⟩
    · rw [arrivals_concat, ← delivered.arrived]
      rfl
    · rw [backlog_concat, ← delivered.waiting]
      show tx.items.length = _
      rw [items, List.length_append]
      rfl

theorem DeliveredSoFar.nextCall {account : Account} {events : List AccountEvent}
    (delivered : DeliveredSoFar account events) :
    ∃ next, account.deliver .nextCall = .ok next ∧ next.accountId = account.accountId ∧
      DeliveredSoFar next (events ++ [.nextCall]) := by
  have noArrival : arrivals account.accountId (events ++ [.nextCall]) =
      arrivals account.accountId events := by
    rw [arrivals_concat]
    exact List.append_nil _
  cases waiting : account.userData.onIncomingCallTx.items with
  | nil =>
    have pending := Channel.recv_nil waiting delivered.senderOpen
    refine ⟨account, ?_, rfl, ?_⟩
    · show (match IncomingCallReceiver.nextCall _ with | .pending => _ | .ready answer => _) = _
      unfold IncomingCallReceiver.nextCall
      rw [pending]
      rfl
    · refine ⟨?_, delivered.accounts, delivered.senderOpen, delivered.receiverOpen, ?_⟩
      · rw [noArrival, delivered.arrived]
      · rw [backlog_concat, ← delivered.waiting, waiting]
        rfl
  | cons call rest =>
    obtain ⟨rx, received, items, receiverOpen, senderOpen⟩ := Channel.recv_cons waiting
    refine ⟨{ account with userData := ⟨rx⟩, history := account.history.receive call }, ?_, rfl, ?_⟩
    · show (match IncomingCallReceiver.nextCall _ with | .pending => _ | .ready answer => _) = _
      unfold IncomingCallReceiver.nextCall
      rw [received]
      rfl
    · refine ⟨?_, delivered.accounts.recv received, ?_, ?_, ?_⟩
      · rw [noArrival, ← delivered.arrived]
        rfl
      · exact senderOpen.trans delivered.senderOpen
      · exact receiverOpen.trans delivered.receiverOpen
      · rw [backlog_concat, ← delivered.waiting, waiting]
        show rx.items.length = _
        rw [items]
        rfl

theorem DeliveredSoFar.remoteCancel {account : Account} {events : List AccountEvent}
    (delivered : DeliveredSoFar account events) (callId : Int) :
    DeliveredSoFar account (events ++ [.remoteCancel callId]) := by
  refine ⟨?_, delivered.accounts, delivered.senderOpen, delivered.receiverOpen, ?_⟩
  · rw [arrivals_concat, delivered.arrived]
    exact (List.append_nil _).symm
  · rw [backlog_concat, delivered.waiting]
    rfl

/-! ### Whole runs -/

theorem Roomy.of_prefix {events seen : List AccountEvent} (roomy : Roomy events)
    (earlier : seen <+: events) : Roomy seen := by
  obtain ⟨later, rfl⟩ := earlier
  intro before callId transport after split
  refine roomy before callId transport (after ++ later) ?_
  rw [split, List.append_assoc, List.cons_append]

/-- **With room at every arrival, everything is delivered.** -/
theorem deliverAll_of_roomy (accountId : Int) {events : List AccountEvent} (roomy : Roomy events) :
    ∃ account, (Account.added accountId).deliverAll events = .ok account ∧
      account.accountId = accountId ∧ DeliveredSoFar account events := by
  induction events using List.reverseRecOn with
  | nil => exact ⟨Account.added accountId, rfl, rfl, ⟨rfl, History.accounts_new, rfl, rfl, rfl⟩⟩
  | append_singleton events event ih =>
    obtain ⟨account, ran, rfl, delivered⟩ := ih (roomy.of_prefix (List.prefix_append _ _))
    have step : ∃ next, account.deliver event = .ok next ∧ next.accountId = account.accountId ∧
        DeliveredSoFar next (events ++ [event]) := by
      cases event with
      | onIncomingCall callId transport =>
        exact delivered.onIncomingCall (roomy events callId transport [] rfl) callId transport
      | remoteCancel callId => exact ⟨account, rfl, rfl, delivered.remoteCancel callId⟩
      | nextCall => exact delivered.nextCall
    obtain ⟨next, stepped, same, deliveredNext⟩ := step
    refine ⟨next, ?_, same, deliveredNext⟩
    rw [deliverAll_concat, ran]
    exact stepped

/-- A full channel turns an arrival into a panic. -/
theorem deliver_full {account : Account} {callId : Int} {transport : ℕ}
    (full : account.userData.onIncomingCallTx.items.length = 10) :
    account.deliver (.onIncomingCall callId transport) = .error .panic := by
  rw [deliver_onIncomingCall]
  cases isOpen : account.userData.onIncomingCallTx.receiverOpen with
  | true =>
    rw [Channel.trySend_full isOpen full]
    rfl
  | false =>
    unfold Channel.trySend
    rw [isOpen]
    rfl

/-- **Incoming calls are delivered exactly when every arrival finds fewer than ten waiting.** -/
theorem deliversInOrder_iff (accountId : Int) (events : List AccountEvent) :
    DeliversInOrder accountId events ↔
      ∀ before callId transport after,
        events = before ++ .onIncomingCall callId transport :: after → backlog before < 10 := by
  constructor
  · rintro delivers before callId transport after rfl
    obtain ⟨account, ran, _, waiting⟩ := delivers before (List.prefix_append _ _)
    have earlier : before ++ [AccountEvent.onIncomingCall callId transport] <+:
        before ++ .onIncomingCall callId transport :: after :=
      ⟨after, by rw [List.append_assoc, List.singleton_append]⟩
    obtain ⟨next, ranNext, _⟩ := delivers _ earlier
    by_contra crowded
    have full : account.userData.onIncomingCallTx.items.length = 10 := by
      have := account.userData.onIncomingCallTx.bounded
      omega
    rw [deliverAll_concat, ran] at ranNext
    have panics : account.deliver (.onIncomingCall callId transport) = .ok next := ranNext
    rw [deliver_full full] at panics
    cases panics
  · intro roomy seen earlier
    obtain ⟨account, ran, rfl, delivered⟩ :=
      deliverAll_of_roomy accountId (Roomy.of_prefix roomy earlier)
    exact ⟨account, ran, delivered.accounts.symm.trans delivered.arrived, delivered.waiting⟩

/-- Eleven calls before the application looks at one, each but the last cancelled. -/
def burst : List AccountEvent :=
  (List.range 10).flatMap (fun callId => [.onIncomingCall callId 0, .remoteCancel callId]) ++
    [.onIncomingCall 10 0]

theorem not_deliversInOrder_burst : ¬ DeliversInOrder 0 burst := by
  intro delivers
  obtain ⟨account, ran, _⟩ := delivers burst List.prefix_rfl
  have panics : (Account.added 0).deliverAll burst = .error .panic := by decide
  rw [panics] at ran
  cases ran

end PjsipClient
