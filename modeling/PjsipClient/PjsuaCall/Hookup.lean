/-
The hook-up of a call's media in a whole run (`on_call_media_state` and `on_call_state`).

After `add` has sent the media data, the two connections are made by the first media callback that
finds the call confirmed with active media. `on_call_state` never makes them, so media that becomes
active before the call is confirmed stays unconnected unless pjsua delivers another media callback.

* `onCallMediaState_run` — a callback that nothing interrupts does what `onCallMediaState` does.
* `World.HookupProgress` — the connections of a run, by the number of hook-up callbacks in it.
* `hookedUp_iff` — once every callback has been handled, the call is connected exactly when one of them
  was a hook-up.
-/

import PjsipClient.PjsuaCall.World

namespace PjsipClient

open Transport Transition

/-! ### One callback, uninterrupted -/

/-- A callback that has received the media data returns only when the call has a port and every
connection is made. -/
theorem connected_of_returns {confPort : Int} {confConnect : Int → Int → PjStatus}
    {data : CallMediaData} {next after : Option StateChangedUserData} {before connections : Connections}
    (returns : (ffiAssertRes .confPort (getCallConfPort confPort) >>= fun confPort =>
      (connectAll confConnect (data.pairs confPort) before).map
        fun connections => (next, connections)) = .ok (after, connections)) :
    getCallConfPort confPort = .ok confPort ∧ next = after ∧
      connectAll confConnect (data.pairs confPort) before = .ok connections := by
  by_cases invalid : confPort = pjsuaInvalidId
  · have refused : getCallConfPort confPort = .error ⟨-1, .text "Invalid conf slot"⟩ := if_pos invalid
    rw [refused] at returns
    cases returns
  · have valid := getCallConfPort_valid invalid
    rw [valid] at returns
    have connects : (connectAll confConnect (data.pairs confPort) before).map
        (fun connections => (next, connections)) = .ok (after, connections) := returns
    cases made : connectAll confConnect (data.pairs confPort) before with
    | error abort =>
      rw [made] at connects
      cases connects
    | ok all =>
      rw [made] at connects
      cases connects
      exact ⟨valid, rfl, rfl⟩

/-- **A media callback that nothing interrupts**: if `onCallMediaState` returns, its steps can follow
one another, and they leave what it leaves. -/
theorem onCallMediaState_run {w : World} {userData after : Option StateChangedUserData}
    {confConnect : Int → Int → PjStatus} {connections : Connections}
    (found : w.userData = .of userData) (alive : w.abort = none)
    (going : w.object.phase ≠ .aborted) (heard : w.silenced = false) (between : w.connecting = [])
    (returns : onCallMediaState ⟨(pjSuccess, w.callInfo), w.confPort, confConnect⟩ userData
      w.connections = .ok (after, connections)) :
    ∃ es v, callSystem.run w (.onCallMediaState :: es) = some v ∧ (∀ e ∈ es, e = .connect pjSuccess) ∧
      v.userData = .of after ∧ v.connections = connections ∧ v.connecting = [] ∧ v.abort = none := by
  have started : callSystem.step w .onCallMediaState = some (w.recvMedia userData) := by
    have seen : w.mediaState = w.recvMedia userData := by
      unfold World.mediaState
      rw [found]
      cases userData <;> rfl
    exact seen ▸ World.step_onCallMediaState alive going heard between
  rw [onCallMediaState_eq] at returns
  unfold World.recvMedia at started
  cases given : recvCallMediaData (pjSuccess, w.callInfo) userData with
  | error abort =>
    rw [given] at returns
    cases returns
  | ok answer =>
    obtain ⟨next, received⟩ := answer
    rw [given] at returns started
    cases received with
    | none =>
      cases returns
      exact ⟨[], _, callSystem.run_cons_eq_some.mpr ⟨_, started, rfl⟩,
        fun e member => absurd member List.not_mem_nil, rfl, rfl, between, alive⟩
    | some data =>
      obtain ⟨valid, rfl, made⟩ := connected_of_returns returns
      simp only [valid] at started
      have ran := World.run_connects data.mediaPorts
        { w with userData := .of next, connecting := data.mediaPorts } rfl alive going
      refine ⟨data.mediaPorts.map fun _ => .connect pjSuccess, _,
        callSystem.run_cons_eq_some.mpr ⟨_, started, ran⟩, ?_, rfl, ?_, rfl, alive⟩
      · intro e member
        obtain ⟨port, _, same⟩ := List.mem_map.mp member
        exact same.symm
      · rw [connectAll_eq_ok made, ← data.mediaPorts_pairs]

/-- The user data, if there is any, has `rx` as its one-shot channel. -/
def UserDataPointer.Holds (rx : Oneshot CallMediaData) : UserDataPointer → Prop
  | live userData => userData.callMediaDataRx = some rx
  | _ => True

namespace World

variable {rx : Oneshot CallMediaData}

theorem Reported.holds {w v : World} (reported : Reported w v) (held : w.userData.Holds rx) :
    v.userData.Holds rx := by
  cases reported with
  | sent found accepted =>
    rw [found] at held
    exact held
  | _ => exact held

theorem HungUp.holds {w v : World} {code : ℕ} {status : PjStatus} (hungUp : HungUp w code status v)
    (held : w.userData.Holds rx) : v.userData.Holds rx := by
  cases hungUp with
  | silent ended => exact held
  | reported accepted active heard reported => exact reported.holds held

/-- **Only the set-up of the handle and the media data change what the channel holds.** -/
theorem Effects.holds_of_other {w next : World} {event : AppEvent} (effects : Effects w event next)
    (made : ∀ status, event ≠ .setUserData status) (unsent : ∀ data, event ≠ .sendMediaData data)
    (held : w.userData.Holds rx) : next.userData.Holds rx := by
  cases effects with
  | setUserData status => exact absurd rfl (made status)
  | sendMediaData found => exact absurd rfl (unsent _)
  | reject hungUp => exact hungUp.holds held
  | hangupCall hungUp => exact hungUp.holds held
  | recvState found received =>
    rw [found] at held
    exact held
  | freeFields => trivial
  | _ => exact held

/-- Once the media data was sent, no operation of the application changes what the channel holds. -/
theorem Effects.holds {w next : World} {event : AppEvent} {object : CallObject}
    (effects : Effects w event next) (moved : w.object.Moves event object)
    (sent : w.object.phase.beforeMedia = false) (held : w.userData.Holds rx) :
    next.userData.Holds rx := by
  refine effects.holds_of_other ?_ ?_ held
  · rintro status rfl
    cases moved with
    | new was | newFailed was failed =>
      rw [was] at sent
      cases sent
  · rintro data rfl
    cases moved with
    | sendMediaData was =>
      rw [was] at sent
      cases sent

/-! ### Before and after the hook-up -/

/-- Before any hook-up: the media data waits and nothing is connected. -/
structure Unhooked (data : CallMediaData) (w : World) : Prop where
  sent : w.object.phase.beforeMedia = false
  held : w.userData.Holds (.sent data)
  connecting : w.connecting = []
  connections : w.connections = []

/-- After the hook-up: what is connected and what has still to be is what the media data names. -/
structure Hooked (data : CallMediaData) (w : World) : Prop where
  sent : w.object.phase.beforeMedia = false
  held : w.userData.Holds .closed
  named : w.connections ++ w.connecting.map (MediaPort.pair w.confPort) = data.pairs w.confPort

/-- After `n` hook-up callbacks, if no callback has ended the process. -/
def HookupProgress (data : CallMediaData) (n : ℕ) (w : World) : Prop :=
  w.abort = none → (n = 0 ∧ Unhooked data w) ∨ (n = 1 ∧ Hooked data w)

variable {data : CallMediaData}

theorem Unhooked.same {w v : World} (unhooked : Unhooked data w)
    (sent : v.object.phase.beforeMedia = false) (held : v.userData.Holds (.sent data))
    (same : SameConnections w v) : Unhooked data v :=
  ⟨sent, held, same.connecting.trans unhooked.connecting,
    same.connections.trans unhooked.connections⟩

theorem Hooked.same {w v : World} (hooked : Hooked data w)
    (sent : v.object.phase.beforeMedia = false) (held : v.userData.Holds .closed)
    (same : SameConnections w v) : Hooked data v := by
  refine ⟨sent, held, ?_⟩
  rw [same.connections, same.connecting, same.confPort]
  exact hooked.named

/-- The event is a media callback that finds active media in a confirmed call. -/
def isHookup (w : World) (e : CallEvent) : Bool :=
  e = .onCallMediaState ∧ w.callInfo.isHookup = true

theorem MediaSeen.eq_of_idle {w v : World} (seen : MediaSeen w v)
    (idle : w.callInfo.isHookup = false) : v = w := by
  cases seen with
  | idle => rfl
  | noReceiver => rfl
  | unregistered hookup => cases idle.symm.trans hookup
  | dangling hookup => cases idle.symm.trans hookup
  | unsent hookup => cases idle.symm.trans hookup
  | noPort hookup => cases idle.symm.trans hookup
  | received hookup => cases idle.symm.trans hookup

/-- A hook-up callback takes the media data out, once. -/
theorem HookupProgress.mediaSeen {n : ℕ} {w v : World} (hookup : w.callInfo.isHookup = true)
    (progress : (n = 0 ∧ Unhooked data w) ∨ (n = 1 ∧ Hooked data w)) (seen : MediaSeen w v) :
    HookupProgress data (n + 1) v := by
  intro alive
  rcases progress with ⟨rfl, unhooked⟩ | ⟨rfl, hooked⟩
  · have held := unhooked.held
    cases seen with
    | idle idle =>
      rw [idle] at hookup
      cases hookup
    | received seen found sent valid =>
      rw [found] at held
      cases sent.symm.trans held
      refine Or.inr ⟨rfl, unhooked.sent, rfl, ?_⟩
      show w.connections ++ data.mediaPorts.map _ = _
      rw [unhooked.connections, List.nil_append, CallMediaData.mediaPorts_pairs]
    | noReceiver _ found none =>
      rw [found] at held
      cases none.symm.trans held
    | unsent _ found receiver unsent =>
      cases alive
    | _ => cases alive
  · have held := hooked.held
    cases seen with
    | idle idle =>
      rw [idle] at hookup
      cases hookup
    | received _ found sent valid =>
      rw [found] at held
      cases sent.symm.trans held
    | noReceiver _ found none =>
      rw [found] at held
      cases none.symm.trans held
    | _ => cases alive

/-- A callback that has started to connect goes on with what the media data names. -/
theorem HookupProgress.connect {n : ℕ} {w : World} {port : MediaPort} {rest : List MediaPort}
    (progress : (n = 0 ∧ Unhooked data w) ∨ (n = 1 ∧ Hooked data w))
    (next : w.connecting = port :: rest) (status : PjStatus) :
    HookupProgress data n (w.connect status port rest) := by
  rw [connect_eq]
  intro alive
  have success : status = pjSuccess := by
    by_contra failed
    have stopped : (if status = pjSuccess then w.abort else some (.exit .confConnect)) = none := alive
    rw [if_neg failed] at stopped
    cases stopped
  rcases progress with ⟨rfl, unhooked⟩ | ⟨rfl, hooked⟩
  · rw [unhooked.connecting] at next
    cases next
  · refine Or.inr ⟨rfl, hooked.sent, hooked.held, ?_⟩
    show (if status = pjSuccess then _ else _) ++ _ = _
    rw [if_pos success, ← hooked.named, next, List.map_cons, List.append_assoc,
      List.singleton_append]

/-- **One step of the hook-up.** -/
theorem HookupProgress.step {n : ℕ} {w v : World} {e : CallEvent}
    (progress : HookupProgress data n w) (stepped : w.step e = some v) :
    HookupProgress data (n + if w.isHookup e then 1 else 0) v := by
  obtain ⟨alive, steps⟩ := steps_of_step stepped
  have now := progress alive
  have carried : w.isHookup e = false →
      (w.object.phase.beforeMedia = false → v.object.phase.beforeMedia = false ∧
        ∀ rx, w.userData.Holds rx → v.userData.Holds rx) → SameConnections w v →
      HookupProgress data (n + if w.isHookup e then 1 else 0) v := by
    intro other kept same running
    rw [other]
    rcases now with ⟨count, unhooked⟩ | ⟨count, hooked⟩
    · obtain ⟨sent, holds⟩ := kept unhooked.sent
      exact Or.inl ⟨count, unhooked.same sent (holds _ unhooked.held) same⟩
    · obtain ⟨sent, holds⟩ := kept hooked.sent
      exact Or.inr ⟨count, hooked.same sent (holds _ hooked.held) same⟩
  cases steps with
  | setState idle active =>
    exact carried rfl (fun sent => ⟨sent, fun _ held => held⟩) ⟨rfl, rfl, rfl, rfl⟩
  | setMedia => exact carried rfl (fun sent => ⟨sent, fun _ held => held⟩) ⟨rfl, rfl, rfl, rfl⟩
  | onCallState due heard between =>
    have same := w.callState_reported.sameConnections
    refine carried rfl ?_ ⟨same.confPort, same.connecting, same.connections, same.attempts⟩
    intro sent
    refine ⟨?_, fun rx held => w.callState_reported.holds held⟩
    exact w.callState_reported.same.object ▸ sent
  | onCallMediaState heard between =>
    cases hookup : w.callInfo.isHookup with
    | true =>
      have counted : w.isHookup .onCallMediaState = true := decide_eq_true ⟨rfl, hookup⟩
      rw [counted]
      exact HookupProgress.mediaSeen hookup now w.mediaState_seen
    | false =>
      have other : w.isHookup .onCallMediaState = false := by
        refine decide_eq_false ?_
        rintro ⟨_, found⟩
        rw [hookup] at found
        cases found
      rw [w.mediaState_seen.eq_of_idle hookup] at carried ⊢
      exact carried other (fun sent => ⟨sent, fun _ held => held⟩) ⟨rfl, rfl, rfl, rfl⟩
  | connect next =>
    rw [show w.isHookup (.connect _) = false from rfl]
    exact HookupProgress.connect now next _
  | app moved effects =>
    have same := effects.sameConnections
    refine carried rfl ?_ ⟨same.confPort, same.connecting, same.connections, same.attempts⟩
    intro sent
    refine ⟨?_, fun rx held => effects.holds moved sent held⟩
    rw [Bool.eq_false_iff] at sent ⊢
    exact fun before => sent (moved.beforeMedia before)

/-! ### Until the media data is sent -/

/-- Until the media data is sent, nothing waits and nothing is connected. -/
structure Unsent (w : World) : Prop where
  held : w.userData.Holds .empty
  connecting : w.connecting = []
  connections : w.connections = []

theorem Unsent.same {w v : World} (unsent : Unsent w) (held : v.userData.Holds .empty)
    (same : SameConnections w v) : Unsent v :=
  ⟨held, same.connecting.trans unsent.connecting, same.connections.trans unsent.connections⟩

theorem Unsent.mediaSeen {w v : World} (unsent : Unsent w) (seen : MediaSeen w v) : Unsent v := by
  have held := unsent.held
  cases seen with
  | noPort hookup found sent invalid =>
    rw [found] at held
    cases sent.symm.trans held
  | received hookup found sent valid =>
    rw [found] at held
    cases sent.symm.trans held
  | _ => exact ⟨held, unsent.connecting, unsent.connections⟩

/-- No operation before it sends media data. -/
theorem Effects.holds_empty {w next : World} {event : AppEvent} {object : CallObject}
    (effects : Effects w event next) (moved : w.object.Moves event object)
    (before : object.phase.beforeMedia = true) (held : w.userData.Holds .empty) :
    next.userData.Holds .empty := by
  by_cases made : ∃ status, event = .setUserData status
  · obtain ⟨status, rfl⟩ := made
    cases effects with
    | setUserData =>
      show UserDataPointer.Holds .empty (if _ then _ else _)
      split
      · exact rfl
      · exact held
    | quiet quiet => exact held
  · refine effects.holds_of_other (fun status same => made ⟨status, same⟩) ?_ held
    rintro data rfl
    cases moved with
    | sendMediaData was => cases before

theorem unsent_step {w v : World} {e : CallEvent}
    (unsent : w.object.phase.beforeMedia = true → Unsent w) (stepped : w.step e = some v) :
    v.object.phase.beforeMedia = true → Unsent v := by
  obtain ⟨_, steps⟩ := steps_of_step stepped
  intro before
  cases steps with
  | setState idle active => exact (unsent before).same (unsent before).held ⟨rfl, rfl, rfl, rfl⟩
  | setMedia => exact (unsent before).same (unsent before).held ⟨rfl, rfl, rfl, rfl⟩
  | onCallState due heard between =>
    have now := unsent (w.callState_reported.same.object ▸ before)
    have same := w.callState_reported.sameConnections
    exact now.same (w.callState_reported.holds now.held)
      ⟨same.confPort, same.connecting, same.connections, same.attempts⟩
  | onCallMediaState heard between =>
    exact (unsent (w.mediaState_seen.same.object ▸ before)).mediaSeen w.mediaState_seen
  | connect next =>
    rw [connect_eq] at before
    rw [(unsent before).connecting] at next
    cases next
  | app moved effects =>
    have now := unsent (moved.beforeMedia before)
    have same := effects.sameConnections
    exact now.same (effects.holds_empty moved before now.held)
      ⟨same.confPort, same.connecting, same.connections, same.attempts⟩

/-- When the media data has just been sent, the hook-up is still to come. -/
theorem unhooked_of_sent {w v : World} {data : CallMediaData}
    (unsent : w.object.phase.beforeMedia = true → Unsent w)
    (sent : w.step (.app (.sendMediaData data)) = some v) :
    Unhooked data v ∧ ∃ sinkAdded streamAdded, data = .ofPorts sinkAdded streamAdded := by
  obtain ⟨_, steps⟩ := steps_of_step sent
  cases steps with
  | app moved effects =>
    cases moved with
    | sendMediaData was =>
      have now := unsent (by rw [was]; rfl)
      cases effects with
      | sendMediaData found => exact ⟨⟨rfl, rfl, now.connecting, now.connections⟩, _, _, rfl⟩
      | quiet quiet => cases quiet

end World

/-- The connections of the call are those that its media data names. -/
def World.HookedUp (data : CallMediaData) (w : World) : Prop :=
  w.connections = data.pairs w.confPort

/-- **Whether a call's media is hooked up**: once its callbacks have been handled, the call is
connected exactly when one of them found active media in the confirmed call. -/
theorem hookedUp_iff (callId confPort : Int) (inv : PjsipInvState) (media : CallMediaStatus)
    (outstanding : Bool) (before after : List CallEvent) (data : CallMediaData) {mid w : World}
    (sent : callSystem.run (World.start callId confPort inv media outstanding)
      (before ++ [.app (.sendMediaData data)]) = some mid)
    (ran : callSystem.run mid after = some w) (alive : w.abort = none) (idle : w.connecting = []) :
    w.HookedUp data ↔ 0 < callSystem.tally World.isHookup mid after := by
  obtain ⟨last, ranBefore, ranSend⟩ := callSystem.run_append_eq_some.mp sent
  obtain ⟨_, stepped, same⟩ := callSystem.run_cons_eq_some.mp ranSend
  cases same
  have begun : (World.start callId confPort inv media outstanding).object.phase.beforeMedia = true →
      World.Unsent (World.start callId confPort inv media outstanding) :=
    fun _ => ⟨trivial, rfl, rfl⟩
  have unsent : last.object.phase.beforeMedia = true → World.Unsent last :=
    callSystem.run_keeps (fun _ _ _ known stepped => World.unsent_step known stepped) begun ranBefore
  obtain ⟨unhooked, sinkAdded, streamAdded, named⟩ := World.unhooked_of_sent unsent stepped
  have waiting : World.HookupProgress data 0 mid := fun _ => Or.inl ⟨rfl, unhooked⟩
  have progress := callSystem.run_tally (fun _ _ _ _ known stepped => known.step stepped) waiting ran
  rw [Nat.zero_add] at progress
  unfold World.HookedUp
  rcases progress alive with ⟨count, unhooked⟩ | ⟨count, hooked⟩
  · rw [count, unhooked.connections, named]
    exact ⟨fun empty => (by cases empty), fun positive => absurd positive (lt_irrefl 0)⟩
  · have made := hooked.named
    rw [idle, List.map_nil, List.append_nil] at made
    exact ⟨fun _ => count ▸ Nat.one_pos, fun _ => made⟩

/-- A call is set up up to its media data. -/
def settingUp : List CallEvent :=
  [.app (.setUserData pjSuccess), .app .answerSessionProgress, .app .add,
    .app (.addPort .sink 5 pjSuccess), .app (.addPort .stream 6 pjSuccess)]

/-- Its media becomes active once it is confirmed. -/
def confirmedFirst : List CallEvent :=
  [.app (.runJob (.acceptIncoming .ok) pjSuccess), .app .joinJob, .setState .connecting,
    .onCallState, .setState .confirmed, .onCallState, .setMedia .active, .onCallMediaState,
    .connect pjSuccess, .connect pjSuccess]

theorem hookedUp_confirmedFirst :
    ∃ mid w, callSystem.run (World.start 0 3 .incoming .none false)
        (settingUp ++ [.app (.sendMediaData (.ofPorts 5 6))]) = some mid ∧
      callSystem.run mid confirmedFirst = some w ∧
      (w.HookedUp (.ofPorts 5 6) ↔ 0 < callSystem.tally World.isHookup mid confirmedFirst) :=
  ⟨_, _, rfl, rfl, hookedUp_iff 0 3 .incoming .none false settingUp confirmedFirst (.ofPorts 5 6)
    rfl rfl rfl rfl⟩

/-- Its media becomes active while it is connecting, and `on_call_state` does not look again. -/
def activeFirst : List CallEvent :=
  [.app (.runJob (.acceptIncoming .ok) pjSuccess), .app .joinJob, .setState .connecting,
    .onCallState, .setMedia .active, .onCallMediaState, .setState .confirmed, .onCallState]

theorem not_hookedUp_activeFirst :
    ¬ ∀ before after data mid w, callSystem.run (World.start 0 3 .incoming .none false)
        (before ++ [.app (.sendMediaData data)]) = some mid →
      callSystem.run mid after = some w →
      0 < callSystem.tally (fun v e => e = .onCallMediaState ∧ v.media = .active) mid after →
      0 < callSystem.tally (fun v e => e = .onCallState ∧ v.inv = .confirmed) mid after →
      w.media = .active → w.abort = none → w.connecting = [] → w.HookedUp data := by
  intro hooks
  have connected := hooks settingUp activeFirst (.ofPorts 5 6) _ _ rfl rfl (by decide) (by decide)
    rfl rfl rfl
  cases connected

end PjsipClient
