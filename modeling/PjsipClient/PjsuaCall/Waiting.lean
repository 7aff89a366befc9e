/-
What a running function of a call waits for.

A function waits for pjsua only in `await_call_state`, and there only for a report: what was reported
and not received is in the state channel. So no report is slept through, and the report of
Disconnected least of all.

* `World.Listening` — the channel accounts for the reports, the application has heard what its phase
  says, and its job is there to be awaited. Kept by every step, for any reports in any order.
* `stuck_iff` — a running function can go on, whatever pjsua answers, unless it awaits a state and has
  received every report.
* `call_returns` — once Disconnected was reported, a running function returns or unwinds, or the
  process ends, within the operations that are left, whatever pjsua answers and whichever callbacks
  come in between.
-/

import PjsipClient.PjsuaCall.Handshake
import PjsipClient.PjsuaCall.Progress

namespace PjsipClient

open Transport Transition

/-! ### The job that is awaited -/

/-- The job that a phase awaits. -/
def Phase.awaitsJob : Phase → Option Job
  | awaitAnswer _ => some (.acceptIncoming .ok)
  | awaitReject => some .rejectIncoming
  | _ => none

theorem Phase.awaitsJob_drop (plan : List Owned) (after : After) :
    (Phase.drop plan after).awaitsJob = none := by
  cases plan <;> rfl

theorem Phase.awaitsJob_panic {resume : After → Phase} (after : After)
    (unwinds : (resume .unwind).awaitsJob = none) : (Phase.panic resume after).awaitsJob = none :=
  Phase.panic_of (·.awaitsJob = none) after unwinds rfl

namespace CallObject

/-- The job that is awaited was spawned, and perhaps has run. -/
def HasJob (o : CallObject) : Prop :=
  ∀ {job}, o.phase.awaitsJob = some job →
    o.job = .spawned job ∨ ∃ result, o.job = .finished job result

theorem hasJob_of_none {o : CallObject} (none : o.phase.awaitsJob = none) : o.HasJob := by
  intro job awaits
  cases none.symm.trans awaits

/-- **A job that is awaited stays.** -/
theorem Moves.hasJob {o t : CallObject} {e : AppEvent} (moved : Moves o e t) (has : o.HasJob) :
    t.HasJob := by
  cases moved with
  | runJob status spawned =>
    intro other awaits
    rcases has awaits with same | ⟨result, finished⟩
    · cases spawned.symm.trans same
      exact Or.inr ⟨_, rfl⟩
    · cases finished.symm.trans spawned
  | sendMediaData was =>
    intro job awaits
    cases awaits
    exact Or.inl rfl
  | rejecting was =>
    intro job awaits
    cases awaits
    exact Or.inl rfl
  | drop planned => exact hasJob_of_none (Phase.awaitsJob_drop _ _)
  | freeFields was => exact hasJob_of_none (Phase.awaitsJob_drop _ _)
  | destroyPort was => exact hasJob_of_none (Phase.awaitsJob_drop _ _)
  | hangupFailed was failed => exact hasJob_of_none (Phase.awaitsJob_panic _ rfl)
  | removeFailed was failed =>
    exact hasJob_of_none (Phase.awaitsJob_panic _ (Phase.awaitsJob_drop _ _))
  | destroyFailed was failed =>
    exact hasJob_of_none (Phase.awaitsJob_panic _ (Phase.awaitsJob_drop _ _))
  | _ => exact hasJob_of_none rfl

end CallObject

/-! ### Listening -/

namespace World

/-- A report that the state channel accepts is accounted for. -/
theorem Reported.accounted {w v : World} (reported : Reported w v) (alive : v.abort = none)
    (tracked : Tracked w.userData w.history) : Tracked v.userData v.history := by
  cases reported with
  | unregistered found => exact tracked
  | dangling found => cases alive
  | sent found accepted =>
    rw [found] at tracked
    cases tracked with
    | waiting accounts isOpen =>
      have still := (Channel.trySend_eq_ok.mp accepted).2.2.2.2.trans isOpen
      exact .waiting (accounts.trySend accepted) still
  | refused found rejected => cases alive

theorem HungUp.accounted {w v : World} {code : ℕ} {status : PjStatus}
    (hungUp : HungUp w code status v) (alive : v.abort = none)
    (tracked : Tracked w.userData w.history) : Tracked v.userData v.history := by
  cases hungUp with
  | silent ended => exact tracked
  | reported accepted active heard reported => exact reported.accounted alive tracked

theorem Effects.accounted {w next : World} {event : AppEvent} (effects : Effects w event next)
    (alive : next.abort = none) (tracked : Tracked w.userData w.history)
    (unregistered : ∀ status, event = .setUserData status → w.userData = .null) :
    Tracked next.userData next.history := by
  cases effects with
  | reject hungUp => exact hungUp.accounted alive tracked
  | hangupCall hungUp => exact hungUp.accounted alive tracked
  | setUserData status =>
    have none := unregistered status rfl
    rw [none] at tracked ⊢
    generalize w.history = history at tracked ⊢
    cases tracked with
    | unregistered =>
      show Tracked (if status = pjSuccess then .live .new else .null) .empty
      split
      · exact .waiting History.accounts_new rfl
      · exact .unregistered
  | sendMediaData found =>
    rw [found] at tracked
    cases tracked with
    | waiting accounts isOpen => exact .waiting accounts isOpen
  | recvState found received =>
    rw [found] at tracked
    cases tracked with
    | waiting accounts isOpen =>
      refine .waiting (accounts.recv received) ?_
      rcases Channel.recv_eq_ready received with ⟨item, _, _, same, _⟩ | ⟨impossible, _⟩
      · exact same.trans isOpen
      · cases impossible
  | freeFields => exact .freed tracked.inOrder
  | _ => exact tracked

/-- The call's user data is registered and there. -/
def Registered (w : World) : Prop := ∃ userData, w.userData = .live userData

theorem Reported.registered {w v : World} (reported : Reported w v) (registered : w.Registered) :
    v.Registered := by
  cases reported with
  | sent found accepted => exact ⟨_, rfl⟩
  | _ => exact registered

theorem MediaSeen.registered {w v : World} (seen : MediaSeen w v) (registered : w.Registered) :
    v.Registered := by
  cases seen with
  | noPort hookup found sent invalid => exact ⟨_, rfl⟩
  | received hookup found sent valid => exact ⟨_, rfl⟩
  | _ => exact registered

theorem HungUp.registered {w v : World} {code : ℕ} {status : PjStatus}
    (hungUp : HungUp w code status v) (registered : w.Registered) : v.Registered := by
  cases hungUp with
  | silent ended => exact registered
  | reported accepted active heard reported => exact reported.registered registered

/-- User data stays registered until the handle's fields are freed. -/
theorem Effects.registered {w next : World} {event : AppEvent} (effects : Effects w event next)
    (keeps : event ≠ .freeFields) (registered : w.Registered) : next.Registered := by
  cases effects with
  | freeFields => exact absurd rfl keeps
  | setUserData status =>
    show ∃ userData, (if status = pjSuccess then .live .new else w.userData) = .live userData
    split
    · exact ⟨_, rfl⟩
    · exact registered
  | sendMediaData found => exact ⟨_, rfl⟩
  | recvState found received => exact ⟨_, rfl⟩
  | reject hungUp => exact hungUp.registered registered
  | hangupCall hungUp => exact hungUp.registered registered
  | _ => exact registered

/-- What holds of every call at every point of a run. -/
structure Listening (w : World) : Prop where
  accounted : w.abort = none → Tracked w.userData w.history
  unregistered : w.object.phase = .notified → w.userData = .null
  registered : w.object.phase.isLive = true → w.object.phase ≠ .notified → w.Registered
  heard : ∀ {states}, w.object.phase.heard = some states → w.received = states
  fits : w.object.JobFits
  hasJob : w.object.HasJob

/-- What pjsua does by itself. -/
theorem Listening.pjsua {w v : World} (listening : w.Listening)
    (accounted : v.abort = none → Tracked v.userData v.history)
    (unregistered : w.userData = .null → v.userData = .null)
    (registered : w.Registered → v.Registered)
    (received : v.history.received = w.history.received) (object : v.object = w.object) :
    Listening v := by
  have same : v.received = w.received := by
    unfold World.received
    rw [received]
  refine ⟨accounted, ?_, ?_, ?_, ?_, ?_⟩
  · rw [object]
    exact fun was => unregistered (listening.unregistered was)
  · rw [object]
    exact fun live made => registered (listening.registered live made)
  · rw [object, same]
    exact listening.heard
  · rw [object]
    exact listening.fits
  · rw [object]
    exact listening.hasJob

/-- The object's phases with registered user data. -/
theorem Listening.registered_app {w next : World} {event : AppEvent} {object : CallObject}
    (listening : w.Listening) (moved : w.object.Moves event object) (effects : Effects w event next)
    (live : object.phase.isLive = true) (made : object.phase ≠ .notified) : next.Registered := by
  have goes : w.object.phase.isLive = true → w.object.phase ≠ .notified → event ≠ .freeFields →
      next.Registered := fun live made keeps =>
    effects.registered keeps (listening.registered live made)
  cases moved.advances live with
  | new was =>
    cases effects with
    | setUserData status => exact ⟨.new, rfl⟩
    | quiet quiet => cases quiet
  | runJob status spawned => exact goes live made fun same => by cases same
  | _ => exact goes (by simp [*, Phase.isLive]) (by simp [*]) (by simp)

/-- What the application's operations keep. -/
theorem Listening.app {w next : World} {event : AppEvent} {object : CallObject}
    (listening : w.Listening) (alive : w.abort = none) (moved : w.object.Moves event object)
    (effects : Effects w event next) : Listening { next with object := object } := by
  have registered := listening.registered_app moved effects
  refine ⟨?_, ?_, registered, ?_, moved.jobFits listening.fits, moved.hasJob listening.hasJob⟩
  · intro going
    refine effects.accounted going (listening.accounted alive) ?_
    rintro status rfl
    cases moved with
    | new was => exact listening.unregistered was
    | newFailed was failed => exact listening.unregistered was
  · intro was
    obtain ⟨before, job, status, rfl, spawned⟩ := moved.notified was
    cases (listening.fits.unspawned (by rw [before]; rfl)).symm.trans spawned
  · intro states heard
    show next.received = states
    rcases moved.heard heard with ⟨same, other⟩ | ⟨got, seen, state, rfl, before, expected, rfl⟩
    · rw [effects.received other]
      exact listening.heard same
    · obtain ⟨item, rfl, received⟩ := effects.received_recvState
      rw [received, listening.heard before, awaitCallState_eq_ok.mp expected]

/-- **Every step keeps the application listening**, whatever is reported. -/
theorem Listening.step {w v : World} {e : CallEvent} (listening : w.Listening)
    (stepped : w.step e = some v) : v.Listening := by
  obtain ⟨alive, steps⟩ := steps_of_step stepped
  have tracked := listening.accounted alive
  cases steps with
  | setState idle active => exact listening.pjsua (fun _ => tracked) id id rfl rfl
  | setMedia => exact listening.pjsua (fun _ => tracked) id id rfl rfl
  | onCallState due heard between =>
    obtain ⟨received, _, unregistered⟩ := w.callState_reported.history
    exact listening.pjsua (fun going => w.callState_reported.accounted going tracked) unregistered
      w.callState_reported.registered received w.callState_reported.same.object
  | onCallMediaState heard between =>
    have seen := w.mediaState_seen
    exact listening.pjsua (fun going => (seen.tracked tracked (by rw [alive]; exact nofun)).1)
      (seen.tracked tracked (by rw [alive]; exact nofun)).2.2 seen.registered (by rw [seen.history])
      seen.same.object
  | connect next =>
    rw [connect_eq]
    exact listening.pjsua (fun _ => tracked) id id rfl rfl
  | app moved effects => exact listening.app alive moved effects

theorem listening_start (callId confPort : Int) (inv : PjsipInvState) (media : CallMediaStatus)
    (outstanding : Bool) : Listening (start callId confPort inv media outstanding) := by
  refine ⟨fun _ => .unregistered, fun _ => rfl, fun _ made => absurd rfl made, ?_,
    CallObject.jobFits_fresh, CallObject.hasJob_of_none rfl⟩
  intro states heard
  cases heard
  rfl

end World

/-! ### Choices and answers -/

/-- What the application decides itself: which function it calls on a call object, and its drop. -/
def AppEvent.isChoice : AppEvent → Bool
  | answerSessionProgress | reject | add | awaitHangup | hangup | drop => true
  | _ => false

/-- A function of the call object or its drop glue is running. -/
def Phase.isRunning : Phase → Bool
  | incoming | setup | inCall _ | ended | panicked | aborted => false
  | _ => true

/-- What pjsua answers next: a status, and a slot if it is asked for one. -/
structure Answer where
  status : PjStatus
  slot : Int

/-- The operation is answered so. -/
def AppEvent.Answered (answer : Answer) : AppEvent → Prop
  | setUserData status | runJob _ status | hangupCall status | removePort _ _ status
  | destroyPort _ _ status => status = answer.status
  | addPort _ slot status => slot = answer.slot ∧ status = answer.status
  | _ => True

namespace CallObject

/-- An operation of a running function, with the given answers. -/
structure Continues (o : CallObject) (answer : Answer) (active : Bool) (event : AppEvent) :
    Prop where
  own : event.isChoice = false
  answered : event.Answered answer
  checked : ∀ other, event = .checkActive other → other = active
  unheard : ∀ got, event ≠ .recvState got
  moved : ∃ t, o.step event = some t

theorem continues_of_spawned {o : CallObject} {job : Job} (answer : Answer) (active : Bool)
    (spawned : o.job = .spawned job) : Continues o answer active (.runJob job answer.status) :=
  ⟨rfl, rfl, by simp, by simp, _, if_pos spawned⟩

/-- A job that was spawned can run, and one that has run can be awaited. -/
theorem continues_of_awaitsJob {o : CallObject} {job : Job} (has : o.HasJob)
    (awaits : o.phase.awaitsJob = some job) (answer : Answer) (active : Bool) :
    ∃ event, Continues o answer active event := by
  rcases has awaits with spawned | ⟨result, finished⟩
  · exact ⟨_, continues_of_spawned answer active spawned⟩
  · refine ⟨.joinJob, rfl, trivial, by simp, by simp, ?_⟩
    show ∃ t, o.joinJob = some t
    unfold joinJob
    cases was : o.phase with
    | awaitAnswer ports =>
      rw [was] at awaits
      cases awaits
      rw [finished]
      cases result <;> exact ⟨_, rfl⟩
    | awaitReject =>
      rw [was] at awaits
      cases awaits
      rw [finished]
      exact ⟨_, rfl⟩
    | _ =>
      rw [was] at awaits
      cases awaits

/-- Drop glue goes on, however pjsua answers. -/
theorem continues_of_dropping {o : CallObject} {stage : DropStage} {rest : List Owned}
    {after : After} (was : o.phase = .dropping stage rest after) (answer : Answer) (active : Bool) :
    ∃ event, Continues o answer active event := by
  have glue : ∀ event, o.dropGlue event = o.dropStep stage rest after event := by
    intro event
    unfold dropGlue
    rw [was]
  cases stage with
  | checkActive =>
    refine ⟨.checkActive active, rfl, trivial, ?_, by simp, ?_⟩
    · rintro other same
      cases same
      rfl
    · show ∃ t, o.dropGlue _ = some t
      rw [glue, dropStep, if_pos rfl]
      exact ⟨_, rfl⟩
  | hangup =>
    exact ⟨.hangupCall answer.status, rfl, rfl, by simp, by simp, hangupCall_of_hangup was _⟩
  | freeFields =>
    refine ⟨.freeFields, rfl, trivial, by simp, by simp, ?_⟩
    show ∃ t, o.dropGlue _ = some t
    rw [glue, dropStep, if_pos rfl]
    exact ⟨_, rfl⟩
  | removePort kind slot =>
    refine ⟨.removePort kind slot answer.status, rfl, rfl, by simp, by simp, ?_⟩
    show ∃ t, o.dropGlue _ = some t
    rw [glue]
    rcases getErrorAsResult_cases answer.status with ⟨_, given⟩ | ⟨_, given⟩
    · exact ⟨_, by rw [dropStep, if_pos rfl, given]⟩
    · exact ⟨_, by rw [dropStep, if_pos rfl, given]⟩
  | destroyPort kind slot =>
    refine ⟨.destroyPort kind slot answer.status, rfl, rfl, by simp, by simp, ?_⟩
    show ∃ t, o.dropGlue _ = some t
    rw [glue]
    rcases getErrorAsResult_cases answer.status with ⟨_, given⟩ | ⟨_, given⟩
    · exact ⟨_, by rw [dropStep, if_pos rfl, given]⟩
    · exact ⟨_, by rw [dropStep, if_pos rfl, given]⟩

theorem continues_of_notified {o : CallObject} (was : o.phase = .notified) (answer : Answer)
    (active : Bool) : ∃ event, Continues o answer active event := by
  refine ⟨.setUserData answer.status, rfl, rfl, by simp, by simp, ?_⟩
  show ∃ t, o.new _ = some t
  unfold new
  rw [was]
  rcases getErrorAsResult_cases answer.status with ⟨_, given⟩ | ⟨_, given⟩
  · exact ⟨_, by rw [given]⟩
  · exact ⟨_, by rw [given]⟩

/-- The two `add` calls of the ports. -/
theorem continues_of_addPort {o : CallObject} {kind : PortKind}
    (was : (o.phase = .addSink ∧ kind = .sink) ∨
      ∃ sinkAdded, o.phase = .addStream sinkAdded ∧ kind = .stream)
    (answer : Answer) (active : Bool) : ∃ event, Continues o answer active event := by
  refine ⟨.addPort kind answer.slot answer.status, rfl, ⟨rfl, rfl⟩, by simp, by simp, ?_⟩
  show ∃ t, o.addPort _ _ _ = some t
  unfold addPort
  rcases was with ⟨was, rfl⟩ | ⟨sinkAdded, was, rfl⟩
  · rw [was]
    rcases getErrorAsResult_cases answer.status with ⟨_, given⟩ | ⟨_, given⟩
    · exact ⟨_, by rw [given]⟩
    · exact ⟨_, by rw [given]⟩
  · rw [was]
    rcases getErrorAsResult_cases answer.status with ⟨_, given⟩ | ⟨_, given⟩
    · exact ⟨_, by rw [given]⟩
    · exact ⟨_, by rw [given]⟩

/-- **A running function that awaits no state can go on**, however pjsua answers. -/
theorem continues {o : CallObject} (running : o.phase.isRunning = true) (has : o.HasJob)
    (free : ∀ awaited ports, o.phase ≠ .awaitState awaited ports) (answer : Answer) (active : Bool) :
    ∃ event, Continues o answer active event := by
  cases was : o.phase with
  | notified => exact continues_of_notified was answer active
  | addSink => exact continues_of_addPort (Or.inl ⟨was, rfl⟩) answer active
  | addStream sinkAdded => exact continues_of_addPort (Or.inr ⟨_, was, rfl⟩) answer active
  | sendMedia ports =>
    refine ⟨.sendMediaData (.ofPorts ports.sink ports.stream), rfl, trivial, by simp, by simp, ?_⟩
    show ∃ t, o.sendMediaData _ = some t
    unfold sendMediaData
    rw [was]
    exact ⟨_, if_pos rfl⟩
  | awaitAnswer ports =>
    exact continues_of_awaitsJob has (by rw [was]; rfl) answer active
  | awaitReject => exact continues_of_awaitsJob has (by rw [was]; rfl) answer active
  | awaitState awaited ports => exact absurd was (free awaited ports)
  | dropping stage rest after => exact continues_of_dropping was answer active
  | dropped after =>
    refine ⟨.finish, rfl, trivial, by simp, by simp, ?_⟩
    show ∃ t, o.finish = some t
    unfold finish
    rw [was]
    cases after <;> exact ⟨_, rfl⟩
  | _ =>
    rw [was] at running
    cases running

/-- A state that arrives ends the wait for it. -/
theorem step_recvState {o : CallObject} {awaited : Awaited} {ports : AddedPorts}
    (was : o.phase = .awaitState awaited ports) (got : Option OnStateChangedSendData) :
    ∃ t, o.step (.recvState got) = some t := by
  show ∃ t, o.recvState got = some t
  unfold recvState
  rw [was]
  dsimp only
  cases awaitCallState awaited.state got <;> cases awaited <;> exact ⟨_, rfl⟩

/-- A function that awaits a state does nothing else. -/
theorem Moves.of_awaitState {o t : CallObject} {e : AppEvent} (moved : Moves o e t)
    (fits : o.JobFits) {awaited : Awaited} {ports : AddedPorts}
    (was : o.phase = .awaitState awaited ports) (own : e.isChoice = false) :
    ∃ got, e = .recvState got := by
  cases moved with
  | runJob status spawned =>
    obtain ⟨code, finished⟩ := fits.answered (by rw [was]; rfl)
    cases finished.symm.trans spawned
  | connecting now expected => exact ⟨_, rfl⟩
  | confirmed now expected => exact ⟨_, rfl⟩
  | unexpected now adding refused => exact ⟨_, rfl⟩
  | disconnected now => exact ⟨_, rfl⟩
  | drop planned => cases own
  | _ => cases was.symm.trans ‹o.phase = _›

end CallObject

/-! ### Going on -/

namespace World

/-- The call object can perform an operation that the application does not choose. -/
def Goes (w : World) (answer : Answer) : Prop :=
  ∃ event v, event.isChoice = false ∧ event.Answered answer ∧ w.step (.app event) = some v

/-- A state is awaited, and every report was received. -/
def AwaitsReport (w : World) : Prop :=
  (∃ awaited ports, w.object.phase = .awaitState awaited ports) ∧
    w.history.received = w.history.sent

/-- pjsua has an answer for every operation that the object continues with. -/
theorem Listening.effect {w : World} {answer : Answer} {event : AppEvent} (listening : w.Listening)
    (continues : w.object.Continues answer (decide (w.inv ≠ .disconnected)) event) :
    ∃ next, w.effect event = some next := by
  cases event with
  | sendMediaData data =>
    obtain ⟨t, stepped⟩ := continues.moved
    have registered : w.Registered := by
      cases CallObject.moves_of_step stepped with
      | sendMediaData was => exact listening.registered (by rw [was]; rfl) (by rw [was]; exact nofun)
    obtain ⟨userData, found⟩ := registered
    show ∃ next, w.sendMediaData data = some next
    unfold sendMediaData
    rw [found]
    exact ⟨_, rfl⟩
  | runJob job status => cases job <;> exact ⟨_, rfl⟩
  | recvState got => exact absurd rfl (continues.unheard got)
  | checkActive active => exact ⟨w, if_pos (continues.checked active rfl)⟩
  | _ => exact ⟨_, rfl⟩

/-- What was reported and not received is in the channel, and ends the wait. -/
theorem Listening.goes_of_unheard {w : World} (listening : w.Listening) (alive : w.abort = none)
    {awaited : Awaited} {ports : AddedPorts} (was : w.object.phase = .awaitState awaited ports)
    (unheard : w.history.received ≠ w.history.sent) (answer : Answer) : w.Goes answer := by
  obtain ⟨userData, found⟩ :=
    listening.registered (by rw [was]; rfl) (by rw [was]; exact nofun)
  have tracked := listening.accounted alive
  rw [found] at tracked
  cases tracked with
  | waiting accounts isOpen =>
    cases items : userData.onStateChangedTx.items with
    | nil =>
      refine absurd ?_ unheard
      rw [accounts, items, List.append_nil]
    | cons item rest =>
      obtain ⟨rx, received, _⟩ := Channel.recv_cons items
      obtain ⟨object, moved⟩ := CallObject.step_recvState was (some item)
      have effected : w.effect (.recvState (some item)) = some { w with
          userData := .live { userData with onStateChangedTx := rx }
          history := w.history.receive item } := by
        show w.recvState (some item) = _
        unfold recvState
        rw [found]
        dsimp only
        rw [received]
        exact if_pos rfl
      exact ⟨.recvState (some item), _, rfl, trivial,
        step_app alive (by rw [was]; exact nofun) moved effected⟩

/-- **Where a running function stands still.** -/
theorem Listening.goes_iff {w : World} (listening : w.Listening) (alive : w.abort = none)
    (running : w.object.phase.isRunning = true) (answer : Answer) :
    w.Goes answer ↔ ¬ w.AwaitsReport := by
  have going : w.object.phase ≠ .aborted := by
    intro aborted
    rw [aborted] at running
    cases running
  constructor
  · rintro ⟨event, v, own, _, stepped⟩ ⟨⟨awaited, ports, was⟩, heard⟩
    obtain ⟨_, steps⟩ := steps_of_step stepped
    cases steps with
    | app moved effects =>
      obtain ⟨got, rfl⟩ := moved.of_awaitState listening.fits was own
      have tracked := listening.accounted alive
      cases effects with
      | recvState found received =>
        rw [found] at tracked
        cases tracked with
        | waiting accounts isOpen =>
          rcases Channel.recv_eq_ready received with ⟨item, _, items, _⟩ | ⟨impossible, _⟩
          · have longer := congrArg List.length (accounts.symm.trans heard.symm)
            rw [items, List.length_append, List.length_cons] at longer
            omega
          · cases impossible
      | quiet quiet => cases quiet
  · intro free
    by_cases awaits : ∃ awaited ports, w.object.phase = .awaitState awaited ports
    · obtain ⟨awaited, ports, was⟩ := awaits
      exact listening.goes_of_unheard alive was (fun heard => free ⟨⟨_, _, was⟩, heard⟩) answer
    · obtain ⟨event, continues⟩ := CallObject.continues running listening.hasJob
        (fun awaited ports was => awaits ⟨awaited, ports, was⟩) answer
        (decide (w.inv ≠ .disconnected))
      obtain ⟨object, moved⟩ := continues.moved
      obtain ⟨next, effected⟩ := listening.effect continues
      exact ⟨event, _, continues.own, continues.answered, step_app alive going moved effected⟩

/-- No phase has heard that the call is over. -/
theorem Listening.awaits_disconnected {w : World} (listening : w.Listening)
    (awaits : w.AwaitsReport) : .disconnected ∉ w.reported := by
  obtain ⟨⟨awaited, ports, was⟩, heard⟩ := awaits
  have same : w.reported = w.received := by
    unfold reported received
    rw [heard]
  rw [same]
  cases awaited with
  | connecting => rw [listening.heard (by rw [was]; rfl)]; decide
  | confirmed => rw [listening.heard (by rw [was]; rfl)]; decide
  | disconnected => rw [listening.heard (by rw [was]; rfl)]; decide

end World

/-- **No report is slept through**: a running function can go on, whatever pjsua answers, unless it
awaits a state and has received every report; then Disconnected was not reported. -/
theorem stuck_iff (callId confPort : Int) (inv : PjsipInvState) (media : CallMediaStatus)
    (outstanding : Bool) {es : List CallEvent} {w : World}
    (ran : callSystem.run (World.start callId confPort inv media outstanding) es = some w)
    (alive : w.abort = none) (running : w.object.phase.isRunning = true) (answer : Answer) :
    (¬ w.Goes answer ↔ w.AwaitsReport) ∧ (w.AwaitsReport → .disconnected ∉ w.reported) := by
  have listening : w.Listening :=
    callSystem.run_keeps (fun _ _ _ before stepped => before.step stepped)
      (World.listening_start callId confPort inv media outstanding) ran
  refine ⟨?_, listening.awaits_disconnected⟩
  rw [listening.goes_iff alive running answer, not_not]

/-- An answered call whose remote is connecting. -/
def connectingCall : List CallEvent :=
  [.app (.setUserData pjSuccess), .app .answerSessionProgress, .app .add,
    .app (.addPort .sink 5 pjSuccess), .app (.addPort .stream 6 pjSuccess),
    .app (.sendMediaData (.ofPorts 5 6)), .app (.runJob (.acceptIncoming .ok) pjSuccess),
    .app .joinJob, .setState .connecting, .onCallState, .app (.recvState (some (0, .connecting)))]

theorem stuck_iff_connecting :
    ∃ w, callSystem.run (World.start 0 3 .incoming .none false) connectingCall = some w ∧
      ¬ w.Goes ⟨pjSuccess, 0⟩ := by
  refine ⟨_, rfl, ?_⟩
  have stuck := (stuck_iff 0 3 .incoming .none false
    (rfl : callSystem.run _ connectingCall = some _) rfl rfl ⟨pjSuccess, 0⟩).1
  exact stuck.mpr ⟨⟨.confirmed, ⟨5, 6⟩, rfl⟩, rfl⟩

/-! ### Coming to an end -/

/-- An operation that the application does not choose, with the given answer. -/
def CallEvent.GoesOn (answer : Answer) (e : CallEvent) : Prop :=
  ∃ event, e = .app event ∧ event.isChoice = false ∧ event.Answered answer

/-- The function has ended: it has returned, or a panic has unwound out of it, or the process is
gone. -/
def World.Ended (w : World) : Prop := w.abort ≠ none ∨ w.object.phase.isRunning = false

/-- **A call that is over comes to its end**: once Disconnected was reported, a running function
returns or unwinds, or the process ends, within the operations that are left, whatever pjsua answers to
each of them and whichever callbacks come in between. -/
theorem call_returns (callId confPort : Int) (inv : PjsipInvState) (media : CallMediaStatus)
    (outstanding : Bool) {es : List CallEvent} {w : World}
    (ran : callSystem.run (World.start callId confPort inv media outstanding) es = some w)
    (ended : .disconnected ∈ w.reported) :
    callSystem.Attains (fun e => e.operation = none) CallEvent.GoesOn World.Ended
      w.operationsLeft w := by
  have listening : w.Listening :=
    callSystem.run_keeps (fun _ _ _ before stepped => before.step stepped)
      (World.listening_start callId confPort inv media outstanding) ran
  have keeps : ∀ v e u, (v.Listening ∧ .disconnected ∈ v.reported) → callSystem.step v e = some u →
      u.Listening ∧ .disconnected ∈ u.reported := fun v e u before stepped =>
    ⟨before.1.step stepped, (World.reported_step stepped).subset before.2⟩
  have idle : ∀ v (e : CallEvent) u, e.operation = none → callSystem.step v e = some u →
      u.operationsLeft ≤ v.operationsLeft := fun v e u _ stepped =>
    le_trans (Nat.le_add_right _ _) (World.operationsLeft_step stepped)
  have progress : ∀ v, (v.Listening ∧ .disconnected ∈ v.reported) → ¬ v.Ended →
      ∀ answer, ∃ e u, CallEvent.GoesOn answer e ∧ callSystem.step v e = some u ∧
        u.operationsLeft < v.operationsLeft := by
    rintro v ⟨hears, ended⟩ going answer
    have alive : v.abort = none := not_not.mp fun aborted => going (Or.inl aborted)
    have running : v.object.phase.isRunning = true :=
      Bool.eq_true_of_not_eq_false fun returned => going (Or.inr returned)
    have goes : v.Goes answer :=
      (hears.goes_iff alive running answer).mpr fun awaits => hears.awaits_disconnected awaits ended
    obtain ⟨event, u, own, answered, stepped⟩ := goes
    exact ⟨_, u, ⟨event, rfl, own, answered⟩, stepped, World.operationsLeft_step stepped⟩
  have : Nonempty Answer := ⟨⟨pjSuccess, 0⟩⟩
  exact callSystem.attains_of_rank keeps idle progress ⟨listening, ended⟩ (le_refl _)

theorem call_returns_wholeCall :
    ∃ w, callSystem.run (World.start 0 3 .incoming .none false) (wholeCall.take 17) = some w ∧
      callSystem.Attains (fun e => e.operation = none) CallEvent.GoesOn World.Ended 9 w := by
  refine ⟨_, rfl, ?_⟩
  exact call_returns 0 3 .incoming .none false
    (rfl : callSystem.run _ (wholeCall.take 17) = some _) (by decide)

end PjsipClient
