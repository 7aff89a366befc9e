/-
The drop of the call's handle, while pjsua works on another thread.

`hangup_call` asks `pjsua_call_is_active` and then calls `pjsua_call_hangup`. Between the two the
remote can end the call: the hang-up is then refused, and `expect` panics in the drop.

* `World.SafeToDrop` — no step of a handle's drop panics, as long as pjsua refuses only the hang-up of
  a call that has ended.
* `dropsSafely_iff` — every state of a run is safe exactly when the remote never ends the call between
  a handle's check and its hang-up.
-/

import PjsipClient.PjsuaCall.Jobs
import PjsipClient.PjsuaCall.World

namespace PjsipClient

open Transport Transition

/-! ### The panic of a drop -/

/-- The handle has found the call active and has still to hang it up. -/
def Phase.hangsUp : Phase → Bool
  | dropping .hangup _ _ => true
  | _ => false

theorem Phase.eq_of_hangsUp {phase : Phase} (hangs : phase.hangsUp = true) :
    ∃ rest after, phase = .dropping .hangup rest after := by
  cases phase with
  | dropping stage rest after => cases stage <;> first | exact ⟨rest, after, rfl⟩ | cases hangs
  | _ => cases hangs

/-- A panic leaves the drop glue that goes on. -/
theorem Phase.dropping_ne_panic {stage next : DropStage} {rest left : List Owned} {after : After} :
    dropping stage rest after ≠ panic (dropping next left) after := by
  cases after <;> exact fun same => by cases same

theorem Phase.drop_ne_panic {next : DropStage} {rest : List Owned} {after : After} :
    drop rest after ≠ panic (dropping next rest) after := by
  cases rest with
  | nil => cases after <;> exact fun same => by cases same
  | cons owned rest => exact dropping_ne_panic

theorem Phase.hangsUp_drop (plan : List Owned) (after : After) :
    (drop plan after).hangsUp = false := by
  cases plan with
  | nil => rfl
  | cons owned rest => cases owned <;> rfl

namespace CallObject

/-- A step of the handle's drop that panics: its fields are dropped while unwinding. -/
def HandlePanics (o t : CallObject) : Prop :=
  ∃ stage rest after, stage.ofHandle = true ∧ o.phase = .dropping stage rest after ∧
    t.phase = .panic (.dropping .freeFields rest) after

/-- **Only a refused hang-up panics.** -/
theorem Moves.handlePanics {o t : CallObject} {e : AppEvent} (moved : Moves o e t)
    (panics : o.HandlePanics t) :
    o.phase.hangsUp = true ∧ ∃ status, e = .hangupCall status ∧ status ≠ pjSuccess := by
  obtain ⟨stage, rest, after, ofHandle, was, unwinds⟩ := panics
  cases moved with
  | hangupFailed dropping failed =>
    rw [dropping]
    exact ⟨rfl, _, rfl, failed⟩
  | hangupCall dropping =>
    cases was.symm.trans dropping
    exact absurd unwinds Phase.dropping_ne_panic
  | checkActive active dropping =>
    cases was.symm.trans dropping
    exact absurd unwinds Phase.dropping_ne_panic
  | freeFields dropping =>
    cases was.symm.trans dropping
    exact absurd unwinds Phase.drop_ne_panic
  | runJob status spawned => exact absurd (was.symm.trans unwinds) Phase.dropping_ne_panic
  | removePort dropping =>
    cases was.symm.trans dropping
    cases ofHandle
  | removeFailed dropping failed =>
    cases was.symm.trans dropping
    cases ofHandle
  | destroyPort dropping =>
    cases was.symm.trans dropping
    cases ofHandle
  | destroyFailed dropping failed =>
    cases was.symm.trans dropping
    cases ofHandle
  | drop planned =>
    rw [was] at planned
    cases planned
  | new other => cases was.symm.trans other
  | newFailed other failed => cases was.symm.trans other
  | _ => cases was.symm.trans ‹o.phase = _›

/-- The check leads to the hang-up, and only a job runs in between. -/
theorem Moves.hangsUp {o t : CallObject} {e : AppEvent} (moved : Moves o e t)
    (hangs : t.phase.hangsUp = true) :
    e = .checkActive true ∨ (t.phase = o.phase ∧ ∃ job status, e = .runJob job status ∧
      o.job = .spawned job) := by
  have absurdly : ∀ {phase : Phase}, phase.hangsUp = false → phase.hangsUp = true →
      e = .checkActive true ∨ (t.phase = o.phase ∧ ∃ job status, e = .runJob job status ∧
        o.job = .spawned job) := by
    intro phase still hangs
    cases still.symm.trans hangs
  cases moved with
  | runJob status spawned => exact Or.inr ⟨rfl, _, status, rfl, spawned⟩
  | checkActive active was =>
    cases active with
    | true => exact Or.inl rfl
    | false => cases hangs
  | drop planned => exact absurdly (Phase.hangsUp_drop _ _) hangs
  | freeFields was => exact absurdly (Phase.hangsUp_drop _ _) hangs
  | destroyPort was => exact absurdly (Phase.hangsUp_drop _ _) hangs
  | hangupFailed was failed =>
    exact absurdly (Phase.panic_of (·.hangsUp = false) _ rfl rfl) hangs
  | removeFailed was failed =>
    exact absurdly (Phase.panic_of (·.hangsUp = false) _ (Phase.hangsUp_drop _ _) rfl) hangs
  | destroyFailed was failed =>
    exact absurdly (Phase.panic_of (·.hangsUp = false) _ (Phase.hangsUp_drop _ _) rfl) hangs
  | _ => cases hangs

end CallObject

/-! ### Safe states -/

namespace World

/-- pjsua hangs an active call up, and refuses to hang up one that has ended. -/
def HangupAnswers (w : World) (e : CallEvent) : Prop :=
  ∀ status, e = .app (.hangupCall status) → (status = pjSuccess ↔ w.inv ≠ .disconnected)

/-- Whatever comes next, no handle's drop panics. -/
def SafeToDrop (w : World) : Prop :=
  ∀ e v, w.HangupAnswers e → w.step e = some v → ¬ w.object.HandlePanics v.object

/-- The remote does not end the call between a handle's check and its hang-up. -/
def EndsOutsideDrop (w : World) (e : CallEvent) : Prop :=
  w.object.phase.hangsUp = true → e ≠ .setState .disconnected

instance (w : World) (e : CallEvent) : Decidable (EndsOutsideDrop w e) :=
  inferInstanceAs (Decidable (_ → _))

theorem safeToDrop_of_active {w : World}
    (active : w.object.phase.hangsUp = true → w.inv ≠ .disconnected) : w.SafeToDrop := by
  intro e v answers stepped panics
  obtain ⟨_, steps⟩ := steps_of_step stepped
  rcases steps.pjsua_or_app with ⟨object, _⟩ | ⟨event, object, next, rfl, moved, effects, rfl⟩
  · obtain ⟨stage, rest, after, _, was, unwinds⟩ := panics
    rw [object] at unwinds
    exact Phase.dropping_ne_panic (was.symm.trans unwinds)
  · obtain ⟨hangs, status, rfl, refused⟩ := moved.handlePanics panics
    exact refused ((answers status rfl).mpr (active hangs))

/-- A handle that comes to hang up an ended call panics. -/
theorem not_safeToDrop_of_ended {w : World} (alive : w.abort = none)
    (hangs : w.object.phase.hangsUp = true) (ended : w.inv = .disconnected) : ¬ w.SafeToDrop := by
  intro safe
  obtain ⟨rest, after, was⟩ := Phase.eq_of_hangsUp hangs
  have refused : w.object.step (.hangupCall 1) =
      some { w.object with phase := .panic (.dropping .freeFields rest) after } := by
    show w.object.dropGlue _ = _
    unfold CallObject.dropGlue
    rw [was]
    rfl
  have stepped := step_app alive (fun same => by cases was.symm.trans same) refused
    (show w.effect (.hangupCall 1) = some _ from rfl)
  refine safe _ _ ?_ stepped ⟨.hangup, rest, after, rfl, was, rfl⟩
  intro status same
  cases same
  exact ⟨fun impossible => (by cases impossible), fun active => absurd ended active⟩

/-! ### The steps -/

/-- A handle that is about to hang up finds its call active, and a `reject` that hangs up has dropped
its handle. -/
structure Watched (w : World) : Prop where
  rejected : w.object.job = .spawned .rejectIncoming → w.object.phase.handleDropped = true
  active : w.object.phase.hangsUp = true → w.inv ≠ .disconnected

theorem rejected_moves {o t : CallObject} {e : AppEvent} (moved : o.Moves e t)
    (rejected : o.job = .spawned .rejectIncoming → o.phase.handleDropped = true)
    (spawned : t.job = .spawned .rejectIncoming) : t.phase.handleDropped = true := by
  have known : o.job = .spawned .rejectIncoming → t.phase.handleDropped = true := fun was => by
    rcases moved.handleDropped with same | ⟨gone, _⟩
    · exact same.trans (rejected was)
    · exact gone
  cases moved with
  | sendMediaData was => cases spawned
  | runJob status running => cases spawned
  | rejecting was => rfl
  | _ => exact known spawned

/-- **One step keeps the watch**, if the remote does not end the call in between. -/
theorem Watched.step {w v : World} {e : CallEvent} (outside : EndsOutsideDrop w e)
    (watched : w.Watched) (stepped : w.step e = some v) : v.Watched := by
  obtain ⟨_, steps⟩ := steps_of_step stepped
  cases steps with
  | setState idle alive =>
    refine ⟨watched.rejected, fun hangs ended => ?_⟩
    cases ended
    exact outside hangs rfl
  | setMedia => exact ⟨watched.rejected, watched.active⟩
  | onCallState due heard between =>
    have same := w.callState_reported.same
    refine ⟨same.object ▸ watched.rejected, fun hangs => ?_⟩
    exact same.inv ▸ watched.active (same.object ▸ hangs)
  | onCallMediaState heard between =>
    have same := w.mediaState_seen.same
    refine ⟨same.object ▸ watched.rejected, fun hangs => ?_⟩
    exact same.inv ▸ watched.active (same.object ▸ hangs)
  | connect next =>
    rw [connect_eq]
    exact ⟨watched.rejected, watched.active⟩
  | app moved effects =>
    refine ⟨rejected_moves moved watched.rejected, fun hangs => ?_⟩
    rcases moved.hangsUp hangs with rfl | ⟨same, job, status, rfl, spawned⟩
    · cases effects with
      | checkActive answered => simpa using answered
      | quiet quiet => cases quiet
    · have hung : w.object.phase.hangsUp = true := same ▸ hangs
      cases effects with
      | answer code status => exact watched.active hung
      | reject hungUp =>
        have gone := watched.rejected spawned
        obtain ⟨rest, after, was⟩ := Phase.eq_of_hangsUp hung
        rw [was] at gone
        cases gone
      | quiet quiet => cases quiet

theorem watched_start (callId confPort : Int) (inv : PjsipInvState) (media : CallMediaStatus)
    (outstanding : Bool) : (start callId confPort inv media outstanding).Watched :=
  ⟨fun spawned => (by cases spawned), fun hangs => (by cases hangs)⟩

end World

/-- **No drop of a handle panics**, in any state of a run, exactly when the remote never ends the call
between a handle's check and its hang-up. -/
theorem dropsSafely_iff (callId confPort : Int) (inv : PjsipInvState) (media : CallMediaStatus)
    (outstanding : Bool) {es : List CallEvent} {w : World}
    (ran : callSystem.run (World.start callId confPort inv media outstanding) es = some w) :
    (∀ fs v, fs <+: es →
      callSystem.run (World.start callId confPort inv media outstanding) fs = some v →
        v.SafeToDrop) ↔
      callSystem.Meets World.EndsOutsideDrop (World.start callId confPort inv media outstanding)
        es := by
  constructor
  · intro safe
    refine callSystem.meets_iff_split.mpr ?_
    rintro fs e gs v rfl before hangs rfl
    obtain ⟨m, reached, later⟩ := callSystem.run_append_eq_some.mp ran
    cases before.symm.trans reached
    obtain ⟨u, stepped, _⟩ := callSystem.run_cons_eq_some.mp later
    have ended : u.abort = none ∧ u.object.phase.hangsUp = true ∧ u.inv = .disconnected := by
      have moved : v.step (.setState .disconnected) = some u := stepped
      obtain ⟨alive, steps⟩ := World.steps_of_step moved
      cases steps with
      | setState idle active => exact ⟨alive, hangs, rfl⟩
    refine World.not_safeToDrop_of_ended ended.1 ended.2.1 ended.2.2 ?_
    refine safe (fs ++ [.setState .disconnected]) u ⟨gs, by simp⟩ ?_
    exact callSystem.run_append_eq_some.mpr
      ⟨v, before, callSystem.run_cons_eq_some.mpr ⟨u, stepped, rfl⟩⟩
  · intro outside fs v starts reached
    have watched : v.Watched :=
      callSystem.run_keeps_of_meets
        (fun _ _ _ outside before stepped => World.Watched.step outside before stepped)
        (callSystem.meets_start starts outside)
        (World.watched_start callId confPort inv media outstanding) reached
    exact World.safeToDrop_of_active watched.active

/-- The application drops a call, and the remote ends it after the drop. -/
def droppedThenEnded : List CallEvent :=
  [.app (.setUserData pjSuccess), .app .drop, .app (.checkActive true),
    .app (.hangupCall pjSuccess), .app .freeFields]

theorem dropsSafely_iff_dropped :
    ∃ w, callSystem.run (World.start 0 3 .incoming .none false) droppedThenEnded = some w ∧
      ((∀ fs v, fs <+: droppedThenEnded →
        callSystem.run (World.start 0 3 .incoming .none false) fs = some v → v.SafeToDrop) ↔
        callSystem.Meets World.EndsOutsideDrop (World.start 0 3 .incoming .none false)
          droppedThenEnded) := by
  refine ⟨_, rfl, ?_⟩
  exact dropsSafely_iff 0 3 .incoming .none false
    (show callSystem.run (World.start 0 3 .incoming .none false) droppedThenEnded = some _ from rfl)

/-- The remote cancels between the check and the hang-up, which pjsua refuses. -/
theorem not_dropsSafely :
    ¬ ∀ es w, callSystem.run (World.start 0 3 .incoming .none false) es = some w →
      w.SafeToDrop := by
  intro safe
  have reached := safe [.app (.setUserData pjSuccess), .app .drop, .app (.checkActive true),
    .setState .disconnected] _ rfl
  refine reached (.app (.hangupCall 171140)) _ ?_ rfl ⟨.hangup, [], .leave none, rfl, rfl, rfl⟩
  rintro status same
  cases same
  exact ⟨fun impossible => (by cases impossible), fun active => absurd rfl active⟩

end PjsipClient
