/-
Which call an operation acts on.

pjsua takes its call ids from a finite pool and gives an id out again once its call has ended. Only
the id travels through the notification queue, the call object and its blocking jobs, so an
operation acts on whichever call has the id by then. Here every incoming call has an identity of its
own, which the program does not see, and every operation that names the id is recorded with the call
it was meant for and the call that has the id.

* `Pool` — the ids, the notification queues of the accounts and all call objects, in any interleaving.
* `calls_identified` — every operation acts on its own call or on none, and none comes after the drop of
  its handle, in a run that gives out no id while a notification waits under it or a call object may
  still name it, and leaves no job behind when a handle is dropped.
* `unidentified_of_shared` — any other step can be continued to an operation that names another
  call or comes after the drop of its handle.
-/

import Mathlib.Data.Fintype.Defs
import PjsipClient.Lib.System
import PjsipClient.PjsuaAccountConfig.Delivery
import PjsipClient.PjsuaCall.Jobs

namespace PjsipClient

open Transport Transition

/-- A waiting notification, with the identity of the call it is about. -/
structure Notification (ids : ℕ) where
  call : ℕ
  callId : Fin ids
  deriving DecidableEq

/-- What `on_incoming_call` sends for it. -/
def Notification.data {ids : ℕ} (accId : ℕ) (notification : Notification ids) :
    OnIncomingCallSendData := ((accId : Int), ((notification.callId : ℕ) : Int))

/-- A call object, with the identity of the call whose notification produced it. -/
structure Held (ids : ℕ) where
  call : ℕ
  callId : Fin ids
  object : CallObject
  deriving DecidableEq

/-- An operation naming a call id: the call it is issued for, the call that has the id, and whether
the handle was already dropped. -/
structure Issued where
  call : ℕ
  occupant : Option ℕ
  dropped : Bool
  deriving DecidableEq, Repr

structure Pool (accounts ids : ℕ) where
  /-- The call that has the id. -/
  occupant : Fin ids → Option ℕ
  /-- The number of calls so far, the identity of the next one. -/
  calls : ℕ
  /-- The notifications waiting for the `next_call` of each account. -/
  waiting : Fin accounts → Channel (Notification ids) 10
  objects : List (Held ids)
  issued : List Issued
  aborted : Bool

inductive PoolEvent (accounts ids : ℕ)
  | onIncomingCall (accId : Fin accounts) (callId : Fin ids)
  /-- The call that has the id is over, by a CANCEL, a BYE or a hang-up. -/
  | ended (callId : Fin ids)
  | nextCall (accId : Fin accounts)
  /-- The application moves its call object of this index. -/
  | app (index : ℕ) (event : AppEvent)
  deriving DecidableEq

namespace Pool

variable {accounts ids : ℕ}

def start : Pool accounts ids where
  occupant := fun _ => none
  calls := 0
  waiting := fun _ => .new _ 10
  objects := []
  issued := []
  aborted := false

/-- A call comes in under a free id. A refused send ends the process, and the run with it. -/
def onIncomingCall (p : Pool accounts ids) (accId : Fin accounts) (callId : Fin ids) :
    Option (Pool accounts ids) :=
  if p.occupant callId = none then
    match (p.waiting accId).trySend ⟨p.calls, callId⟩ with
    | .ok tx => some { p with
        occupant := Function.update p.occupant callId (some p.calls)
        calls := p.calls + 1
        waiting := Function.update p.waiting accId tx }
    | .error _ => none
  else none

/-- `next_call` takes the oldest notification out and makes a call object from it. -/
def nextCall (p : Pool accounts ids) (accId : Fin accounts) : Option (Pool accounts ids) :=
  match (p.waiting accId).recv with
  | .ready (some notification, rx) => some { p with
      waiting := Function.update p.waiting accId rx
      objects := p.objects ++ [⟨notification.call, notification.callId, .fresh⟩] }
  | _ => none

/-- pjsua answers so: a call is active while it has its id. -/
def answers (p : Pool accounts ids) (callId : Fin ids) : AppEvent → Bool
  | .checkActive active => active == (p.occupant callId).isSome
  | _ => true

/-- The record of an operation of the call object, if it names the call id. -/
def record (p : Pool accounts ids) (held : Held ids) (event : AppEvent) : List Issued :=
  if event.namesCall then
    [⟨held.call, p.occupant held.callId, held.object.phase.handleDropped⟩]
  else []

def app (p : Pool accounts ids) (index : ℕ) (event : AppEvent) : Option (Pool accounts ids) :=
  match p.objects[index]? with
  | none => none
  | some held =>
    if p.answers held.callId event then
      (held.object.step event).map fun next => { p with
        objects := p.objects.set index { held with object := next }
        issued := p.issued ++ p.record held event
        aborted := decide (next.phase = .aborted) }
    else none

def step (p : Pool accounts ids) (e : PoolEvent accounts ids) : Option (Pool accounts ids) :=
  if p.aborted then none
  else
    match e with
    | .onIncomingCall accId callId => p.onIncomingCall accId callId
    | .ended callId =>
      if (p.occupant callId).isSome then
        some { p with occupant := Function.update p.occupant callId none }
      else none
    | .nextCall accId => p.nextCall accId
    | .app index event => p.app index event

/-- **Call identity**: every operation acts on the call it was issued for or on no call, and was
issued before its handle was dropped. -/
def Identified (p : Pool accounts ids) : Prop :=
  ∀ operation ∈ p.issued, (operation.occupant = none ∨ operation.occupant = some operation.call) ∧
    operation.dropped = false

end Pool

/-- The calls of a pool of ids, with the application that handles them. -/
def callPool (accounts ids : ℕ) : System (Pool accounts ids) (PoolEvent accounts ids) := ⟨Pool.step⟩

/-- No id is given to a new call while a notification waits under it or a call object may still name
it, and every move of a call object keeps its jobs. -/
def SharesNoId {accounts ids : ℕ} (p : Pool accounts ids) : PoolEvent accounts ids → Prop
  | .onIncomingCall _ callId =>
    (∀ accId, ∀ notification ∈ (p.waiting accId).items, notification.callId ≠ callId) ∧
      ∀ held ∈ p.objects, held.callId = callId → held.object.mayName = false
  | .app index event => ∀ held ∈ p.objects[index]?, KeepsJobs held.object event
  | _ => True

instance {accounts ids : ℕ} (p : Pool accounts ids) :
    (e : PoolEvent accounts ids) → Decidable (SharesNoId p e)
  | .onIncomingCall _ _ => inferInstanceAs (Decidable (_ ∧ _))
  | .ended _ => isTrue trivial
  | .nextCall _ => isTrue trivial
  | .app index _ => inferInstanceAs (Decidable (∀ held ∈ p.objects[index]?, _))

namespace Pool

variable {accounts ids : ℕ}

/-! ### The steps -/

/-- The steps of the pool. -/
inductive Steps (p : Pool accounts ids) : PoolEvent accounts ids → Pool accounts ids → Prop
  | onIncomingCall {accId : Fin accounts} {callId : Fin ids} {tx : Channel (Notification ids) 10}
      (free : p.occupant callId = none)
      (sent : (p.waiting accId).trySend ⟨p.calls, callId⟩ = .ok tx) :
      Steps p (.onIncomingCall accId callId) { p with
        occupant := Function.update p.occupant callId (some p.calls)
        calls := p.calls + 1
        waiting := Function.update p.waiting accId tx }
  | ended {callId : Fin ids} (taken : (p.occupant callId).isSome = true) :
      Steps p (.ended callId) { p with occupant := Function.update p.occupant callId none }
  | nextCall {accId : Fin accounts} {notification : Notification ids}
      {rx : Channel (Notification ids) 10}
      (received : (p.waiting accId).recv = .ready (some notification, rx)) :
      Steps p (.nextCall accId) { p with
        waiting := Function.update p.waiting accId rx
        objects := p.objects ++ [⟨notification.call, notification.callId, .fresh⟩] }
  | app {index : ℕ} {event : AppEvent} {held : Held ids} {next : CallObject}
      (found : p.objects[index]? = some held) (answered : p.answers held.callId event = true)
      (moved : held.object.Moves event next) :
      Steps p (.app index event) { p with
        objects := p.objects.set index { held with object := next }
        issued := p.issued ++ p.record held event
        aborted := decide (next.phase = .aborted) }

theorem steps_of_onIncomingCall {p q : Pool accounts ids} {accId : Fin accounts} {callId : Fin ids}
    (stepped : p.onIncomingCall accId callId = some q) :
    Steps p (.onIncomingCall accId callId) q := by
  obtain ⟨free, sends⟩ := Option.ite_none_right_eq_some.mp stepped
  cases sent : (p.waiting accId).trySend ⟨p.calls, callId⟩ with
  | ok tx =>
    rw [sent] at sends
    cases sends
    exact .onIncomingCall free sent
  | error why =>
    rw [sent] at sends
    cases sends

theorem steps_of_nextCall {p q : Pool accounts ids} {accId : Fin accounts}
    (stepped : p.nextCall accId = some q) : Steps p (.nextCall accId) q := by
  unfold nextCall at stepped
  split at stepped
  case h_1 notification rx received =>
    cases stepped
    exact .nextCall received
  case h_2 => cases stepped

theorem steps_of_app {p q : Pool accounts ids} {index : ℕ} {event : AppEvent}
    (stepped : p.app index event = some q) : Steps p (.app index event) q := by
  unfold app at stepped
  split at stepped
  case h_1 => cases stepped
  case h_2 held found =>
    obtain ⟨answered, moves⟩ := Option.ite_none_right_eq_some.mp stepped
    obtain ⟨next, moved, rfl⟩ := Option.map_eq_some_iff.mp moves
    exact .app found answered (CallObject.moves_of_step moved)

theorem steps_of_step {p q : Pool accounts ids} {e : PoolEvent accounts ids}
    (stepped : p.step e = some q) : p.aborted = false ∧ Steps p e q := by
  unfold step at stepped
  split at stepped
  case isTrue => cases stepped
  case isFalse going =>
    refine ⟨Bool.eq_false_iff.mpr going, ?_⟩
    cases e with
    | onIncomingCall accId callId => exact steps_of_onIncomingCall stepped
    | ended callId =>
      obtain ⟨taken, moved⟩ := Option.ite_none_right_eq_some.mp stepped
      cases moved
      exact .ended taken
    | nextCall accId => exact steps_of_nextCall stepped
    | app index event => exact steps_of_app stepped

/-! ### One account's queue is the channel of its callback -/

/-- The user data of an account, as the program has it: without the identities. -/
def userData (p : Pool accounts ids) (accId : Fin accounts) : AccountConfigUserData :=
  ⟨(p.waiting accId).map (Notification.data accId)⟩

/-- **An incoming call is `on_incoming_call`** on the user data of its account. -/
theorem onIncomingCall_userData {p q : Pool accounts ids} {accId : Fin accounts} {callId : Fin ids}
    (stepped : p.onIncomingCall accId callId = some q) (transport : ℕ) :
    PjsipClient.onIncomingCall ((accId : ℕ) : Int) ((callId : ℕ) : Int) (some ⟨some transport⟩)
      (some (p.userData accId)) = .ok (q.userData accId) := by
  have steps := steps_of_onIncomingCall stepped
  cases steps with
  | onIncomingCall free sent =>
    rename_i tx
    have mapped := Channel.trySend_map (Notification.data accId) sent
    have given : (p.userData accId).onIncomingCallTx.trySend (((accId : ℕ) : Int), ((callId : ℕ) : Int)) =
        .ok (tx.map (Notification.data accId)) := mapped
    rw [onIncomingCall_eq _ _ _ transport _ rfl, given]
    unfold userData
    simp only [Function.update_self]
    rfl

/-- **`next_call`** receives what the pool's account receives. -/
theorem nextCall_userData {p q : Pool accounts ids} {accId : Fin accounts}
    (stepped : p.nextCall accId = some q) :
    ∃ notification : Notification ids,
      IncomingCallReceiver.nextCall (p.userData accId).onIncomingCallTx =
        .ready (.ok (notification.data accId, (q.userData accId).onIncomingCallTx)) ∧
      q.objects = p.objects ++ [⟨notification.call, notification.callId, .fresh⟩] := by
  have steps := steps_of_nextCall stepped
  cases steps with
  | nextCall received =>
    rename_i notification rx
    have given : (p.userData accId).onIncomingCallTx.recv =
        .ready (some (notification.data accId), rx.map (Notification.data accId)) :=
      Channel.recv_map (Notification.data accId) received
    refine ⟨notification, ?_, rfl⟩
    unfold IncomingCallReceiver.nextCall
    rw [given]
    unfold userData
    simp only [Function.update_self]

/-! ### Every name is the name of its own call -/

/-- The call has the id, or no call has it. -/
def Owns (p : Pool accounts ids) (callId : Fin ids) (call : ℕ) : Prop :=
  ∀ other, p.occupant callId = some other → other = call

/-- A call object that names its own call as long as it may, and whose job is gone with the handle. -/
structure HeldFits (p : Pool accounts ids) (held : Held ids) : Prop where
  owns : held.object.mayName = true → p.Owns held.callId held.call
  fits : held.object.JobFits
  settled : p.aborted = false → held.object.Settled

/-- Every notification and every call object names its own call. -/
structure Tied (p : Pool accounts ids) : Prop where
  queued : ∀ accId, ∀ notification ∈ (p.waiting accId).items,
    p.Owns notification.callId notification.call
  held : ∀ held ∈ p.objects, p.HeldFits held
  identified : p.Identified

/-- The items of the queues, when the queue of one account is replaced. -/
theorem mem_waiting_update {waiting : Fin accounts → Channel (Notification ids) 10}
    {accId other : Fin accounts} {channel : Channel (Notification ids) 10}
    {notification : Notification ids}
    (member : notification ∈ (Function.update waiting accId channel other).items) :
    notification ∈ channel.items ∨ notification ∈ (waiting other).items := by
  by_cases same : other = accId
  · subst same
    rw [Function.update_self] at member
    exact Or.inl member
  · rw [Function.update_of_ne same] at member
    exact Or.inr member

theorem items_of_recv {c rx : Channel (Notification ids) 10} {notification : Notification ids}
    (received : c.recv = .ready (some notification, rx)) : c.items = notification :: rx.items := by
  rcases Channel.recv_eq_ready received with ⟨item, same, items, _⟩ | ⟨impossible, _⟩
  · cases same
    exact items
  · cases impossible

/-- A new call takes no id that another call is named by. -/
theorem Owns.update {p : Pool accounts ids} {callId other : Fin ids} {call : ℕ}
    {taken : Option ℕ} (owns : p.Owns other call) (apart : other ≠ callId) {found : ℕ}
    (occupied : Function.update p.occupant callId taken other = some found) : found = call := by
  rw [Function.update_of_ne apart] at occupied
  exact owns found occupied

/-- The end of a call leaves every name as it was, or the name of no call. -/
theorem Owns.ended {p : Pool accounts ids} {callId other : Fin ids} {call : ℕ}
    (owns : p.Owns other call) {found : ℕ}
    (occupied : Function.update p.occupant callId none other = some found) : found = call := by
  by_cases same : other = callId
  · subst same
    rw [Function.update_self] at occupied
    cases occupied
  · exact owns.update same occupied

theorem Tied.onIncomingCall {p : Pool accounts ids} {accId : Fin accounts} {callId : Fin ids}
    {tx : Channel (Notification ids) 10} (tied : p.Tied)
    (shares : SharesNoId p (.onIncomingCall accId callId))
    (sent : (p.waiting accId).trySend ⟨p.calls, callId⟩ = .ok tx) :
    Tied { p with
      occupant := Function.update p.occupant callId (some p.calls)
      calls := p.calls + 1
      waiting := Function.update p.waiting accId tx } := by
  obtain ⟨unqueued, unheld⟩ := shares
  obtain ⟨_, _, items, _, _⟩ := Channel.trySend_eq_ok.mp sent
  have queued : ∀ other, ∀ notification ∈ (p.waiting other).items, ∀ found,
      Function.update p.occupant callId (some p.calls) notification.callId = some found →
        found = notification.call := by
    intro other notification member found occupied
    exact (tied.queued other notification member).update (unqueued other notification member) occupied
  refine ⟨?_, ?_, tied.identified⟩
  · intro other notification member found occupied
    rcases mem_waiting_update member with last | earlier
    · rw [items] at last
      rcases List.mem_append.mp last with earlier | new
      · exact queued accId notification earlier found occupied
      · obtain rfl := List.mem_singleton.mp new
        have taken : Function.update p.occupant callId (some p.calls) callId = some found := occupied
        rw [Function.update_self] at taken
        exact (Option.some.inj taken).symm
    · exact queued other notification earlier found occupied
  · intro held member
    have before := tied.held held member
    refine ⟨?_, before.fits, before.settled⟩
    intro may found occupied
    have apart : held.callId ≠ callId := by
      intro same
      cases may.symm.trans (unheld held member same)
    exact (before.owns may).update apart occupied

theorem Tied.ended {p : Pool accounts ids} (tied : p.Tied) (callId : Fin ids) :
    Tied { p with occupant := Function.update p.occupant callId none } := by
  refine ⟨?_, ?_, tied.identified⟩
  · intro accId notification member found occupied
    exact (tied.queued accId notification member).ended occupied
  · intro held member
    have before := tied.held held member
    exact ⟨fun may found occupied => (before.owns may).ended occupied, before.fits, before.settled⟩

/-- The call object of a notification names the notification's call. -/
theorem Tied.nextCall {p : Pool accounts ids} {accId : Fin accounts}
    {notification : Notification ids} {rx : Channel (Notification ids) 10} (tied : p.Tied)
    (received : (p.waiting accId).recv = .ready (some notification, rx)) :
    Tied { p with
      waiting := Function.update p.waiting accId rx
      objects := p.objects ++ [⟨notification.call, notification.callId, .fresh⟩] } := by
  have items := items_of_recv received
  refine ⟨?_, ?_, tied.identified⟩
  · intro other queued member
    rcases mem_waiting_update member with left | earlier
    · exact tied.queued accId queued (by rw [items]; exact List.mem_cons_of_mem _ left)
    · exact tied.queued other queued earlier
  · intro held member
    rcases List.mem_append.mp member with earlier | new
    · have before := tied.held held earlier
      exact ⟨before.owns, before.fits, before.settled⟩
    · obtain rfl := List.mem_singleton.mp new
      refine ⟨fun _ => ?_, CallObject.jobFits_fresh, fun _ gone => by cases gone⟩
      have owns := tied.queued accId notification (by rw [items]; exact List.mem_cons_self)
      exact owns

/-- **An operation of a tied call object is its own.** -/
theorem HeldFits.record {p : Pool accounts ids} {held : Held ids} {event : AppEvent}
    {next : CallObject} (fits : p.HeldFits held) (going : p.aborted = false)
    (moved : held.object.Moves event next) {operation : Issued}
    (recorded : operation ∈ p.record held event) :
    (operation.occupant = none ∨ operation.occupant = some operation.call) ∧
      operation.dropped = false := by
  unfold Pool.record at recorded
  split at recorded
  case isFalse => cases recorded
  case isTrue names =>
    obtain rfl := List.mem_singleton.mp recorded
    have present : held.object.phase.handleDropped = false := by
      by_contra gone
      have dropped : held.object.phase.handleDropped = true := by simpa using gone
      cases (fits.settled going dropped).symm.trans (moved.names_dropped names dropped)
    refine ⟨?_, present⟩
    show p.occupant held.callId = none ∨ p.occupant held.callId = some held.call
    cases occupied : p.occupant held.callId with
    | none => exact Or.inl rfl
    | some other =>
      exact Or.inr (congrArg some (fits.owns (moved.names names) other occupied))

theorem Tied.app {p : Pool accounts ids} {index : ℕ} {event : AppEvent} {held : Held ids}
    {next : CallObject} (tied : p.Tied) (going : p.aborted = false)
    (shares : SharesNoId p (.app index event)) (found : p.objects[index]? = some held)
    (moved : held.object.Moves event next) :
    Tied { p with
      objects := p.objects.set index { held with object := next }
      issued := p.issued ++ p.record held event
      aborted := decide (next.phase = .aborted) } := by
  have before := tied.held held (List.mem_of_getElem? found)
  have keeps : KeepsJobs held.object event := shares held found
  refine ⟨tied.queued, ?_, ?_⟩
  · intro other member
    rcases List.mem_or_eq_of_mem_set member with earlier | rfl
    · have same := tied.held other earlier
      exact ⟨same.owns, same.fits, fun _ => same.settled going⟩
    · refine ⟨fun may => before.owns (moved.mayName may), moved.jobFits before.fits, ?_⟩
      intro running
      have alive : next.phase ≠ .aborted := of_decide_eq_false running
      exact moved.settled keeps before.fits alive (before.settled going)
  · intro operation member
    rcases List.mem_append.mp member with earlier | new
    · exact tied.identified operation earlier
    · exact before.record going moved new

/-- **One step keeps every name tied to its call.** -/
theorem Tied.step {p q : Pool accounts ids} {e : PoolEvent accounts ids} (shares : SharesNoId p e)
    (tied : p.Tied) (stepped : p.step e = some q) : q.Tied := by
  obtain ⟨going, steps⟩ := steps_of_step stepped
  cases steps with
  | onIncomingCall free sent => exact tied.onIncomingCall shares sent
  | ended taken => exact tied.ended _
  | nextCall received => exact tied.nextCall received
  | app found answered moved => exact tied.app going shares found moved

theorem tied_start : (start : Pool accounts ids).Tied := by
  refine ⟨?_, ?_, ?_⟩
  · intro accId notification member
    cases member
  · intro held member
    cases member
  · intro operation member
    cases member

end Pool

/-- **Every operation acts on its own call**, in a run that gives out no id that is still named and
leaves no job behind. -/
theorem calls_identified {accounts ids : ℕ} {es : List (PoolEvent accounts ids)} {p : Pool accounts ids}
    (shares : (callPool accounts ids).Meets SharesNoId .start es)
    (ran : (callPool accounts ids).run .start es = some p) : p.Identified := by
  have tied : p.Tied :=
    (callPool accounts ids).run_keeps_of_meets
      (fun _ _ _ shares before stepped => before.step shares stepped) shares Pool.tied_start ran
  exact tied.identified

/-- One id for two calls, the first of which is dropped before the second comes in. -/
def reused : List (PoolEvent 1 1) :=
  [.onIncomingCall 0 0, .nextCall 0, .app 0 (.setUserData pjSuccess), .app 0 .drop,
    .app 0 (.checkActive true), .app 0 (.hangupCall pjSuccess), .ended 0, .app 0 .freeFields,
    .app 0 .finish, .onIncomingCall 0 0, .nextCall 0, .app 1 (.setUserData pjSuccess)]

theorem calls_identified_reused : ∃ p, (callPool 1 1).run .start reused = some p ∧ p.Identified := by
  refine ⟨_, rfl, ?_⟩
  exact calls_identified (by decide : (callPool 1 1).Meets SharesNoId .start reused) rfl

/-- The first call is cancelled while its notification waits, and the second gets its id. -/
theorem not_calls_identified :
    ¬ ∀ es p, (callPool 1 1).run .start es = some p → p.Identified := by
  intro holds
  have acted := holds [.onIncomingCall 0 0, .ended 0, .onIncomingCall 0 0, .nextCall 0,
    .app 0 (.setUserData pjSuccess)] _ rfl ⟨0, some 1, false⟩ List.mem_cons_self
  revert acted
  decide

/-! ### Any other step -/

namespace Pool

variable {accounts ids : ℕ}

/-- The identities given out so far are below the next one. -/
structure Numbered (p : Pool accounts ids) : Prop where
  queued : ∀ accId, ∀ notification ∈ (p.waiting accId).items, notification.call < p.calls
  held : ∀ held ∈ p.objects, held.call < p.calls

theorem Numbered.step {p q : Pool accounts ids} {e : PoolEvent accounts ids} (numbered : p.Numbered)
    (stepped : p.step e = some q) : q.Numbered := by
  obtain ⟨_, steps⟩ := steps_of_step stepped
  cases steps with
  | onIncomingCall free sent =>
    obtain ⟨_, _, items, _, _⟩ := Channel.trySend_eq_ok.mp sent
    refine ⟨?_, fun held member => Nat.lt_succ_of_lt (numbered.held held member)⟩
    intro other notification member
    rcases mem_waiting_update member with last | earlier
    · rw [items] at last
      rcases List.mem_append.mp last with earlier | new
      · exact Nat.lt_succ_of_lt (numbered.queued _ notification earlier)
      · obtain rfl := List.mem_singleton.mp new
        exact Nat.lt_succ_self p.calls
    · exact Nat.lt_succ_of_lt (numbered.queued other notification earlier)
  | ended taken => exact ⟨numbered.queued, numbered.held⟩
  | nextCall received =>
    have items := items_of_recv received
    refine ⟨?_, ?_⟩
    · intro other queued member
      rcases mem_waiting_update member with left | earlier
      · exact numbered.queued _ queued (by rw [items]; exact List.mem_cons_of_mem _ left)
      · exact numbered.queued other queued earlier
    · intro held member
      rcases List.mem_append.mp member with earlier | new
      · exact numbered.held held earlier
      · obtain rfl := List.mem_singleton.mp new
        exact numbered.queued _ _ (by rw [items]; exact List.mem_cons_self)
  | app found answered moved =>
    rename_i index event held next
    refine ⟨numbered.queued, ?_⟩
    intro other member
    rcases List.mem_or_eq_of_mem_set member with earlier | rfl
    · exact numbered.held other earlier
    · exact numbered.held held (List.mem_of_getElem? found)

theorem numbered_start : (start : Pool accounts ids).Numbered := by
  refine ⟨?_, ?_⟩
  · intro accId notification member
    cases member
  · intro held member
    cases member

/-- A move of a call object that pjsua answers as it does. -/
theorem step_app {p : Pool accounts ids} {index : ℕ} {event : AppEvent} {held : Held ids}
    {next : CallObject} (going : p.aborted = false) (found : p.objects[index]? = some held)
    (answered : p.answers held.callId event = true)
    (stepped : held.object.step event = some next) :
    (callPool accounts ids).step p (.app index event) = some { p with
      objects := p.objects.set index { held with object := next }
      issued := p.issued ++ p.record held event
      aborted := decide (next.phase = .aborted) } := by
  show (if p.aborted then none else p.app index event) = _
  rw [if_neg (by rw [going]; exact Bool.false_ne_true)]
  unfold app
  rw [found]
  show (if p.answers held.callId event then _ else none) = _
  rw [if_pos answered, stepped]
  rfl

/-- An operation on another call. -/
theorem unidentified_of_other {p : Pool accounts ids} {call other : ℕ} {dropped : Bool}
    (issued : ⟨call, some other, dropped⟩ ∈ p.issued) (apart : other ≠ call) : ¬ p.Identified := by
  intro identified
  rcases (identified _ issued).1 with impossible | same
  · cases impossible
  · exact apart (Option.some.inj same)

/-- An operation after the drop of the handle. -/
theorem unidentified_of_dropped {p : Pool accounts ids} {call : ℕ} {occupant : Option ℕ}
    (issued : ⟨call, occupant, true⟩ ∈ p.issued) : ¬ p.Identified := by
  intro identified
  cases (identified _ issued).2

/-- **A call object whose id another call has** comes to act on that call. -/
theorem unidentified_of_reaches {object : CallObject} (reaches : object.Reaches) (index : ℕ)
    {call other : ℕ} {callId : Fin ids} (apart : other ≠ call) :
    ∀ p : Pool accounts ids, p.aborted = false → p.objects[index]? = some ⟨call, callId, object⟩ →
      p.occupant callId = some other →
        ∃ es q, (callPool accounts ids).run p es = some q ∧ ¬ q.Identified := by
  induction reaches with
  | names stepped names active =>
    rename_i o t e
    intro p going found occupied
    have answered : p.answers callId e = true := by
      cases e with
      | checkActive found =>
        cases found with
        | true =>
          show (true == (p.occupant callId).isSome) = true
          rw [occupied]
          rfl
        | false => exact absurd rfl active
      | _ => rfl
    have issued : ⟨call, some other, o.phase.handleDropped⟩ ∈
        p.issued ++ p.record ⟨call, callId, o⟩ e := by
      unfold Pool.record
      rw [if_pos names, occupied]
      exact List.mem_append_right _ (List.mem_singleton_self _)
    exact ⟨[.app index e], _, (callPool accounts ids).run_cons_eq_some.mpr
      ⟨_, step_app going found answered stepped, rfl⟩, unidentified_of_other issued apart⟩
  | quietly stepped quiet running further ih =>
    rename_i o t e
    intro p going found occupied
    have answered : p.answers callId e = true := by
      cases e with
      | checkActive found => cases quiet
      | _ => rfl
    have moved := step_app going found answered stepped
    have inside : index < p.objects.length := (List.getElem?_eq_some_iff.mp found).1
    have kept : (p.objects.set index ⟨call, callId, t⟩)[index]? = some ⟨call, callId, t⟩ :=
      List.getElem?_set_self inside
    obtain ⟨es, q, ran, unidentified⟩ := ih
      { p with
        objects := p.objects.set index ⟨call, callId, t⟩
        issued := p.issued ++ p.record ⟨call, callId, o⟩ e
        aborted := decide (t.phase = .aborted) } (decide_eq_false running) kept occupied
    exact ⟨.app index e :: es, q, (callPool accounts ids).run_cons_eq_some.mpr ⟨_, moved, ran⟩,
      unidentified⟩

/-- **A waiting notification comes to be a call object.** -/
theorem reaches_fresh {accId : Fin accounts} {notification : Notification ids}
    {items : List (Notification ids)} (member : notification ∈ items) :
    ∀ p : Pool accounts ids, (p.waiting accId).items = items → p.aborted = false →
      ∃ (es : List (PoolEvent accounts ids)) (q : Pool accounts ids) (index : ℕ),
        (callPool accounts ids).run p es = some q ∧
          q.objects[index]? = some ⟨notification.call, notification.callId, .fresh⟩ ∧
          q.occupant = p.occupant ∧ q.aborted = false := by
  induction items with
  | nil => cases member
  | cons first rest ih =>
    intro p waiting going
    obtain ⟨rx, received, left, _, _⟩ := Channel.recv_cons waiting
    have stepped : (callPool accounts ids).step p (.nextCall accId) = some { p with
        waiting := Function.update p.waiting accId rx
        objects := p.objects ++ [⟨first.call, first.callId, .fresh⟩] } := by
      show (if p.aborted then none else p.nextCall accId) = _
      rw [if_neg (by rw [going]; exact Bool.false_ne_true)]
      unfold nextCall
      rw [received]
    rcases List.mem_cons.mp member with rfl | later
    · refine ⟨[.nextCall accId], _, p.objects.length, (callPool accounts ids).run_cons_eq_some.mpr
        ⟨_, stepped, rfl⟩, ?_, rfl, going⟩
      exact List.getElem?_concat_length
    · have shorter : (Function.update p.waiting accId rx accId).items = rest := by
        rw [Function.update_self, left]
      obtain ⟨es, q, index, ran, found, same, still⟩ := ih later { p with
        waiting := Function.update p.waiting accId rx
        objects := p.objects ++ [⟨first.call, first.callId, .fresh⟩] } shorter going
      exact ⟨.nextCall accId :: es, q, index, (callPool accounts ids).run_cons_eq_some.mpr
        ⟨_, stepped, ran⟩, found, same, still⟩

/-- A job that is left when the handle is gone runs after it. -/
theorem unidentified_of_left {p : Pool accounts ids} {index : ℕ} {held : Held ids} {job : Job}
    (going : p.aborted = false) (found : p.objects[index]? = some held)
    (gone : held.object.phase.handleDropped = true) (spawned : held.object.job = .spawned job) :
    ∃ es q, (callPool accounts ids).run p es = some q ∧ ¬ q.Identified := by
  have runs : held.object.step (.runJob job pjSuccess) =
      some { held.object with job := .finished job (.ok ()) } := if_pos spawned
  have issued : ⟨held.call, p.occupant held.callId, true⟩ ∈
      p.issued ++ p.record held (.runJob job pjSuccess) := by
    refine List.mem_append_right _ ?_
    rw [← gone]
    exact List.mem_singleton_self _
  exact ⟨[.app index (.runJob job pjSuccess)], _, (callPool accounts ids).run_cons_eq_some.mpr
    ⟨_, step_app going found rfl runs, rfl⟩, unidentified_of_dropped issued⟩

/-- A move that does not keep its jobs leaves one behind the handle. -/
theorem left_of_moves {o t : CallObject} {e : AppEvent} (moved : o.Moves e t)
    (loses : ¬ KeepsJobs o e) :
    t.phase.handleDropped = true ∧ t.phase ≠ .aborted ∧ ∃ job, t.job = .spawned job := by
  by_cases frees : e = .freeFields
  · subst frees
    cases moved with
    | freeFields was =>
      rename_i rest after
      have lost : o.phase.freesHandle = true ∧ o.job.isSpawned = true := by
        by_contra keeps
        refine loses ⟨fun _ last => ?_, fun same => by cases same⟩
        by_contra spawned
        exact keeps ⟨last, by simpa using spawned⟩
      obtain ⟨last, spawned⟩ := lost
      rw [was] at last
      refine ⟨?_, Phase.drop_ne_aborted rest after, ?_⟩
      · rw [Phase.handleDropped_drop]
        exact last
      · cases found : o.job with
        | spawned job => exact ⟨job, rfl⟩
        | _ =>
          rw [found] at spawned
          cases spawned
  · have spawning : e = .finish ∧ o.phase = .dropped .spawnReject := by
      by_contra keeps
      exact loses ⟨fun same => absurd same frees, fun finish was => keeps ⟨finish, was⟩⟩
    obtain ⟨rfl, was⟩ := spawning
    cases moved with
    | rejecting _ => exact ⟨rfl, fun same => (by cases same), _, rfl⟩
    | left other => cases was.symm.trans other
    | unwound other => cases was.symm.trans other

/-- A new call under an id that is still named. -/
theorem Numbered.unidentified_of_onIncomingCall {p : Pool accounts ids} {accId : Fin accounts}
    {callId : Fin ids} {tx : Channel (Notification ids) 10} (numbered : p.Numbered)
    (going : p.aborted = false)
    (sent : (p.waiting accId).trySend ⟨p.calls, callId⟩ = .ok tx)
    (shared : ¬ SharesNoId p (.onIncomingCall accId callId)) :
    ∃ es q, (callPool accounts ids).run { p with
        occupant := Function.update p.occupant callId (some p.calls)
        calls := p.calls + 1
        waiting := Function.update p.waiting accId tx } es = some q ∧ ¬ q.Identified := by
  have occupied : Function.update p.occupant callId (some p.calls) callId = some p.calls :=
    Function.update_self _ _ _
  by_cases unqueued : ∀ accId, ∀ notification ∈ (p.waiting accId).items,
      notification.callId ≠ callId
  · have named : ∃ held ∈ p.objects, held.callId = callId ∧ held.object.mayName = true := by
      by_contra unnamed
      refine shared ⟨unqueued, fun held member same => ?_⟩
      by_contra may
      exact unnamed ⟨held, member, same, by simpa using may⟩
    obtain ⟨held, member, rfl, may⟩ := named
    obtain ⟨index, found⟩ := List.mem_iff_getElem?.mp member
    exact unidentified_of_reaches (CallObject.reaches_of_mayName may) index
      (Nat.ne_of_gt (numbered.held held member)) _ going found occupied
  · have queued : ∃ other, ∃ notification ∈ (p.waiting other).items,
        notification.callId = callId := by
      by_contra none
      exact unqueued fun other notification member same => none ⟨other, notification, member, same⟩
    obtain ⟨other, notification, member, rfl⟩ := queued
    have apart : p.calls ≠ notification.call :=
      Nat.ne_of_gt (numbered.queued other notification member)
    have still : notification ∈ (Function.update p.waiting accId tx other).items := by
      by_cases same : other = accId
      · subst same
        rw [Function.update_self, (Channel.trySend_eq_ok.mp sent).2.2.1]
        exact List.mem_append_left _ member
      · rw [Function.update_of_ne same]
        exact member
    obtain ⟨es, q, index, ran, found, same, alive⟩ := reaches_fresh still { p with
      occupant := Function.update p.occupant notification.callId (some p.calls)
      calls := p.calls + 1
      waiting := Function.update p.waiting accId tx } rfl going
    obtain ⟨fs, r, ranOn, unidentified⟩ :=
      unidentified_of_reaches (CallObject.reaches_of_mayName rfl) index apart q alive found
        (same ▸ occupied)
    exact ⟨es ++ fs, r, (callPool accounts ids).run_append_eq_some.mpr ⟨q, ran, ranOn⟩,
      unidentified⟩

end Pool

/-- **The condition is exact**: a step that breaks it, after any run, can be continued to an operation
that names the id of another call or comes after the drop of its handle. -/
theorem unidentified_of_shared {accounts ids : ℕ} {es : List (PoolEvent accounts ids)}
    {p q : Pool accounts ids} {e : PoolEvent accounts ids}
    (ran : (callPool accounts ids).run .start es = some p)
    (stepped : (callPool accounts ids).step p e = some q) (shared : ¬ SharesNoId p e) :
    ∃ fs r, (callPool accounts ids).run q fs = some r ∧ ¬ r.Identified := by
  have numbered : p.Numbered :=
    (callPool accounts ids).run_keeps (fun _ _ _ before stepped => before.step stepped)
      Pool.numbered_start ran
  obtain ⟨going, steps⟩ := Pool.steps_of_step stepped
  cases steps with
  | onIncomingCall free sent => exact numbered.unidentified_of_onIncomingCall going sent shared
  | ended taken => exact absurd trivial shared
  | nextCall received => exact absurd trivial shared
  | app found answered moved =>
    rename_i index event held next
    have loses : ¬ KeepsJobs held.object event := by
      intro keeps
      refine shared ?_
      intro other same
      cases Option.some.inj (found.symm.trans same)
      exact keeps
    obtain ⟨gone, alive, job, spawned⟩ := Pool.left_of_moves moved loses
    have inside : index < p.objects.length := (List.getElem?_eq_some_iff.mp found).1
    exact Pool.unidentified_of_left (decide_eq_false alive) (List.getElem?_set_self inside) gone
      spawned

end PjsipClient
