/-
The conference-bridge slots that `on_call_media_state` connects, and the ports that own them.

The media data names the slots of the two ports that `add` has added. It waits in the user data until
a media callback takes it out, and it outlives the ports: a dropped `PjsuaCall` or a cancelled `add`
removes the ports before the handle hangs up, and `PjsuaCall::hangup` may remove them while a callback
is still connecting.

* `connects_live` — every slot that is connected belongs to a port that was added and not removed, in
  a run in which the media data is not taken out after a removal and no port is removed that a callback
  has still to connect.
* `removed_connected` — any other step lets the callback connect a removed port.
-/

import PjsipClient.PjsuaCall.Ports

namespace PjsipClient

open Transport Transition

namespace World

/-! ### Live slots -/

/-- A media callback takes the media data out before any port is removed, and no port is removed that
a callback has still to connect. -/
def RemovedAfterConnects (w : World) (e : CallEvent) : Prop :=
  (e = .onCallMediaState → w.callInfo.isHookup = true → w.userData.mediaData ≠ none →
    w.removed = []) ∧
    ∀ port ∈ w.connecting, e ≠ .app (.removePort port.1 port.2 pjSuccess)

instance (w : World) (e : CallEvent) : Decidable (RemovedAfterConnects w e) :=
  inferInstanceAs (Decidable (_ ∧ ∀ port ∈ w.connecting, _))

/-- Every port passed to `pjsua_conf_connect` was there. -/
def ConnectsLive (w : World) : Prop := ∀ attempt ∈ w.attempts, attempt.2 = true

/-- The ports that a running callback has still to connect are there. -/
structure Slotted (w : World) : Prop where
  placed : w.Placed
  connecting : ∀ port ∈ w.connecting, port ∈ w.ports
  attempted : w.ConnectsLive

/-- Steps that make no connection and take no port that is still to be connected. -/
theorem Slotted.same {w v : World} (slotted : w.Slotted) (placed : v.Placed)
    (ports : ∀ port ∈ w.connecting, port ∈ w.ports → port ∈ v.ports)
    (connections : SameConnections w v) : v.Slotted := by
  refine ⟨placed, ?_, ?_⟩
  · intro port later
    rw [connections.connecting] at later
    exact ports port later (slotted.connecting port later)
  · intro attempt made
    exact slotted.attempted attempt (connections.attempts ▸ made)

/-- A media callback that starts to connect has all its ports. -/
theorem Slotted.mediaSeen {w v : World} (slotted : w.Slotted) (placed : v.Placed)
    (kept : w.callInfo.isHookup = true → w.userData.mediaData ≠ none → w.removed = [])
    (seen : MediaSeen w v) : v.Slotted := by
  cases seen with
  | received hookup found sent valid =>
    rename_i userData data
    have waiting : w.userData.mediaData = some data := by
      rw [found]
      exact UserDataPointer.mediaData_sent sent
    have none : w.removed = [] := by
      refine kept hookup ?_
      rw [waiting]
      exact Option.some_ne_none data
    have named := slotted.placed.named waiting
    rw [none, List.append_nil] at named
    exact ⟨placed, fun port later => named.mem_iff.mpr later, slotted.attempted⟩
  | _ => exact slotted.same placed (fun _ _ there => there) ⟨rfl, rfl, rfl, rfl⟩

theorem Slotted.connect {w : World} {port : MediaPort} {rest : List MediaPort}
    (slotted : w.Slotted) (next : w.connecting = port :: rest) (status : PjStatus)
    (placed : (w.connect status port rest).Placed) : (w.connect status port rest).Slotted := by
  refine ⟨placed, ?_, ?_⟩
  · rw [connect_eq]
    intro other later
    exact slotted.connecting other (next ▸ List.mem_cons_of_mem port later)
  · rw [connect_eq]
    intro attempt made
    rcases List.mem_append.mp made with old | new
    · exact slotted.attempted attempt old
    · rw [List.mem_singleton.mp new]
      exact decide_eq_true (slotted.connecting port (next ▸ List.mem_cons_self))

/-- A port leaves the call by being removed. -/
theorem Effects.ports_keep {w next : World} {event : AppEvent} (effects : Effects w event next)
    {port : MediaPort} (there : port ∈ w.ports)
    (kept : event ≠ .removePort port.1 port.2 pjSuccess) : port ∈ next.ports := by
  cases effects with
  | addPort kind slot status =>
    show port ∈ if status = pjSuccess then w.ports ++ [(kind, slot)] else w.ports
    split
    · exact List.mem_append_left _ there
    · exact there
  | removePort kind slot =>
    refine (List.mem_erase_of_ne ?_).mpr there
    rintro rfl
    exact kept rfl
  | reject hungUp => exact hungUp.mediaData.2.1 ▸ there
  | hangupCall hungUp => exact hungUp.mediaData.2.1 ▸ there
  | _ => exact there

/-- **One step keeps the slots.** -/
theorem Slotted.step {w v : World} {e : CallEvent} (kept : RemovedAfterConnects w e)
    (slotted : w.Slotted) (stepped : w.step e = some v) : v.Slotted := by
  have placed := slotted.placed.step stepped
  obtain ⟨_, steps⟩ := steps_of_step stepped
  cases steps with
  | setState idle alive => exact slotted.same placed (fun _ _ there => there) ⟨rfl, rfl, rfl, rfl⟩
  | setMedia => exact slotted.same placed (fun _ _ there => there) ⟨rfl, rfl, rfl, rfl⟩
  | onCallState due heard between =>
    have ports := w.callState_reported.same.ports
    have same := w.callState_reported.sameConnections
    exact slotted.same placed (fun _ _ there => ports ▸ there)
      ⟨same.confPort, same.connecting, same.connections, same.attempts⟩
  | onCallMediaState heard between => exact slotted.mediaSeen placed (kept.1 rfl) w.mediaState_seen
  | connect next => exact slotted.connect next _ placed
  | app moved effects =>
    have same := effects.sameConnections
    refine slotted.same placed ?_ ⟨same.confPort, same.connecting, same.connections, same.attempts⟩
    intro port later there
    exact effects.ports_keep there fun same => kept.2 port later (congrArg CallEvent.app same)

theorem slotted_start (callId confPort : Int) (inv : PjsipInvState) (media : CallMediaStatus)
    (outstanding : Bool) : (start callId confPort inv media outstanding).Slotted :=
  ⟨placed_start callId confPort inv media outstanding, fun _ later => (by cases later),
    fun _ made => (by cases made)⟩

end World

/-- **Live slots only**: in a run in which the media data is not taken out after a removal and no
port is removed that a callback has still to connect, every connected slot is there. -/
theorem connects_live (callId confPort : Int) (inv : PjsipInvState) (media : CallMediaStatus)
    (outstanding : Bool) {es : List CallEvent} {w : World}
    (kept : callSystem.Meets World.RemovedAfterConnects
      (World.start callId confPort inv media outstanding) es)
    (ran : callSystem.run (World.start callId confPort inv media outstanding) es = some w) :
    w.ConnectsLive := by
  have slotted : w.Slotted :=
    callSystem.run_keeps_of_meets (fun _ _ _ kept before stepped => before.step kept stepped)
      kept (World.slotted_start callId confPort inv media outstanding) ran
  exact slotted.attempted

/-- A call that is set up and answered; its media is not active yet. -/
def answered : List CallEvent :=
  [.app (.setUserData pjSuccess), .app .answerSessionProgress, .app .add,
    .app (.addPort .sink 5 pjSuccess), .app (.addPort .stream 6 pjSuccess),
    .app (.sendMediaData (.ofPorts 5 6)), .app (.runJob (.acceptIncoming .ok) pjSuccess),
    .app .joinJob, .setState .connecting, .onCallState, .app (.recvState (some (0, .connecting))),
    .setState .confirmed, .onCallState, .app (.recvState (some (0, .confirmed)))]

/-- The media becomes active, and the call is hung up after that. -/
def connectedThenHungUp : List CallEvent :=
  answered ++ [.setMedia .active, .onCallMediaState, .connect pjSuccess, .connect pjSuccess,
    .app .hangup, .app (.checkActive true), .app (.hangupCall pjSuccess), .app .freeFields,
    .app (.removePort .sink 5 pjSuccess), .app (.destroyPort .sink 5 pjSuccess),
    .app (.removePort .stream 6 pjSuccess)]

theorem connects_live_hungUp :
    ∃ w, callSystem.run (World.start 0 3 .incoming .none false) connectedThenHungUp = some w ∧
      w.ConnectsLive := by
  refine ⟨_, rfl, ?_⟩
  exact connects_live 0 3 .incoming .none false
    (by decide : callSystem.Meets World.RemovedAfterConnects _ connectedThenHungUp) rfl

/-- A `PjsuaCall` is dropped, and its media becomes active before its handle hangs up. -/
theorem not_connects_live :
    ¬ ∀ es w, callSystem.run (World.start 0 3 .incoming .none false) es = some w →
      w.ConnectsLive := by
  intro live
  have made := live (answered ++ [.app .drop, .app (.removePort .sink 5 pjSuccess),
    .setMedia .active, .onCallMediaState, .connect pjSuccess]) _ rfl ((.sink, 5), false)
    List.mem_cons_self
  cases made

/-! ### Every other step reaches a removed port -/

namespace World

/-- With the media data waiting, a hook-up has all its ports to connect. -/
theorem MediaSeen.connecting {w v : World} (seen : MediaSeen w v)
    (hookup : w.callInfo.isHookup = true) {data : CallMediaData}
    (waiting : w.userData.mediaData = some data) (valid : w.confPort ≠ pjsuaInvalidId) :
    v.connecting = data.mediaPorts ∧ v.abort = w.abort := by
  have receiver : ∀ {userData : StateChangedUserData}, w.userData = .live userData →
      userData.callMediaDataRx = some (.sent data) := by
    intro userData found
    rw [found] at waiting
    have inside : userData.mediaData = some data := waiting
    unfold StateChangedUserData.mediaData at inside
    split at inside
    case h_1 other sent =>
      cases inside
      exact sent
    case h_2 => cases inside
  cases seen with
  | idle idle => cases idle.symm.trans hookup
  | unregistered hookup found =>
    rw [found] at waiting
    cases waiting
  | dangling hookup found =>
    rw [found] at waiting
    cases waiting
  | noReceiver hookup found none => cases none.symm.trans (receiver found)
  | unsent hookup found some unsent =>
    exact absurd (Option.some.inj (some.symm.trans (receiver found))) (unsent data)
  | noPort hookup found sent invalid => exact absurd invalid valid
  | received hookup found sent valid =>
    cases sent.symm.trans (receiver found)
    exact ⟨rfl, rfl⟩

/-- A callback that has still to connect a port that is not there comes to do so. -/
theorem connects_removed (port : MediaPort) (rest : List MediaPort) :
    ∀ w : World, w.connecting = rest → port ∈ rest → port ∉ w.ports → w.abort = none →
      w.object.phase ≠ .aborted → ∃ es v, callSystem.run w es = some v ∧ ¬ v.ConnectsLive := by
  induction rest with
  | nil =>
    intro w _ member
    cases member
  | cons first rest ih =>
    intro w next member gone alive going
    have stepped : callSystem.step w (.connect pjSuccess) = some (w.connect pjSuccess first rest) :=
      step_connect alive going next pjSuccess
    rcases List.mem_cons.mp member with rfl | later
    · refine ⟨[.connect pjSuccess], _, callSystem.run_cons_eq_some.mpr ⟨_, stepped, rfl⟩, ?_⟩
      intro live
      have made : (port, decide (port ∈ w.ports)) ∈ (w.connect pjSuccess port rest).attempts := by
        rw [connect_eq]
        exact List.mem_append_right _ (List.mem_singleton_self _)
      exact gone (of_decide_eq_true (live _ made))
    · obtain ⟨es, v, ran, dead⟩ := ih (w.connect pjSuccess first rest) (by rw [connect_eq]) later
        (by rw [connect_eq]; exact gone) (by rw [connect_eq]; exact alive)
        (by rw [connect_eq]; exact going)
      exact ⟨.connect pjSuccess :: es, v, callSystem.run_cons_eq_some.mpr ⟨_, stepped, ran⟩, dead⟩

/-- The media data taken out after a removal names a port that is not there. -/
theorem Placed.removed_named {w : World} (placed : w.Placed) {data : CallMediaData}
    (waiting : w.userData.mediaData = some data) (removed : w.removed ≠ []) :
    ∃ port ∈ data.mediaPorts, port ∉ w.ports := by
  obtain ⟨port, rest, found⟩ := List.exists_cons_of_ne_nil removed
  have member : port ∈ w.removed := by
    rw [found]
    exact List.mem_cons_self
  refine ⟨port, (placed.named waiting).mem_iff.mp (List.mem_append_right _ member), ?_⟩
  intro there
  exact List.disjoint_of_nodup_append placed.once there member

end World

/-- **The condition is exact**: a step that breaks it, after any run of a call with a conference port,
can be continued to a connection of a port that is not there. -/
theorem removed_connected (callId confPort : Int) (inv : PjsipInvState) (media : CallMediaStatus)
    (outstanding : Bool) {es : List CallEvent} {w v : World} {e : CallEvent}
    (ran : callSystem.run (World.start callId confPort inv media outstanding) es = some w)
    (valid : w.confPort ≠ pjsuaInvalidId) (stepped : callSystem.step w e = some v)
    (breaks : ¬ World.RemovedAfterConnects w e) :
    ∃ fs u, callSystem.run v fs = some u ∧ ¬ u.ConnectsLive := by
  have placed : w.Placed :=
    callSystem.run_keeps (fun _ _ _ before stepped => before.step stepped)
      (World.placed_start callId confPort inv media outstanding) ran
  have going := World.going_of_step stepped
  obtain ⟨alive, steps⟩ := World.steps_of_step stepped
  by_cases removing : ∃ port ∈ w.connecting, e = .app (.removePort port.1 port.2 pjSuccess)
  · obtain ⟨port, later, rfl⟩ := removing
    cases steps with
    | app moved effects =>
      cases moved with
      | removePort was =>
        cases effects with
        | removePort kind slot =>
          have once : w.ports.Nodup := (List.nodup_append.mp placed.once).1
          exact World.connects_removed port w.connecting _ rfl later once.not_mem_erase alive
            (fun same => by cases same)
        | removeFailed failed => exact absurd rfl failed
        | quiet quiet => cases quiet
      | removeFailed was failed => exact absurd rfl failed
  · have taken : e = .onCallMediaState ∧ w.callInfo.isHookup = true ∧
        w.userData.mediaData ≠ none ∧ w.removed ≠ [] := by
      by_contra fine
      refine breaks ⟨?_, fun port later same => removing ⟨port, later, same⟩⟩
      intro media hookup waiting
      by_contra removed
      exact fine ⟨media, hookup, waiting, removed⟩
    obtain ⟨rfl, hookup, some, removed⟩ := taken
    obtain ⟨data, waiting⟩ := Option.ne_none_iff_exists'.mp some
    obtain ⟨port, named, gone⟩ := placed.removed_named waiting removed
    cases steps with
    | onCallMediaState heard between =>
      have same := w.mediaState_seen.same
      obtain ⟨connecting, abort⟩ := w.mediaState_seen.connecting hookup waiting valid
      exact World.connects_removed port data.mediaPorts w.mediaState connecting named
        (same.ports ▸ gone) (abort.trans alive) (same.object ▸ going)

end PjsipClient
