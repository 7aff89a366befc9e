/-
The hang-ups of a call: how many are issued, and with which code.

Every hang-up comes from the drop of the call's handle (code 200, if the call is still active) or from
the job of `reject` (code 486). `reject` drops the handle before it spawns its job, and
`hangup_call` does not know whether the call was ever answered.

* `terminated_once` — a call is hung up at most once, and by `reject` with its own code, if no
  `reject` drops its handle while the call is active.
* `unanswered_not_accepted` — no success code is sent for a call that was not answered, if no handle
  is dropped while its call is active and unanswered.
* `hangup_of_checkActive` — a handle that finds its call active hangs it up with 200.
-/

import PjsipClient.PjsuaCall.World

namespace PjsipClient

open Transport Transition

/-! ### The hang-ups that are left -/

/-- With `n` handles to drop, the hang-ups still to come. -/
def After.hangupsLeft (n : ℕ) : After → ℕ
  | spawnReject => max 1 n
  | _ => n

/-- The hang-ups that a phase can still lead to, if `reject` drops its handle without one. -/
def Phase.hangupsLeft : Phase → ℕ
  | dropping stage rest .spawnReject =>
    max 1 (rest.count .handle) + if stage = .hangup then 1 else 0
  | dropping stage rest _ =>
    rest.count .handle + if stage = .checkActive ∨ stage = .hangup then 1 else 0
  | dropped after => after.hangupsLeft 0
  | awaitReject | ended | panicked | aborted => 0
  | _ => 1

def JobState.hangupsLeft : JobState → ℕ
  | spawned .rejectIncoming => 1
  | _ => 0

def CallObject.hangupsLeft (o : CallObject) : ℕ := o.phase.hangupsLeft + o.job.hangupsLeft

/-- `reject` is dropping its handle. -/
def Phase.isRejecting : Phase → Bool
  | dropping _ _ .spawnReject => true
  | _ => false

theorem Phase.hangupsLeft_drop (plan : List Owned) (after : After) :
    (Phase.drop plan after).hangupsLeft ≤ after.hangupsLeft (plan.count .handle) := by
  cases plan with
  | nil => exact le_refl _
  | cons owned rest =>
    cases owned with
    | handle =>
      have more : (Owned.handle :: rest).count .handle = rest.count .handle + 1 :=
        List.count_cons_self
      cases after with
      | leave value => exact Nat.le_of_eq more.symm
      | spawnReject =>
        show max 1 (rest.count .handle) + 0 ≤ max 1 ((Owned.handle :: rest).count .handle)
        omega
      | unwind => exact Nat.le_of_eq more.symm
    | port kind slot =>
      have same : (Owned.port kind slot :: rest).count .handle = rest.count .handle :=
        List.count_cons_of_ne (fun equal => by cases equal)
      cases after with
      | leave value => exact Nat.le_of_eq same.symm
      | spawnReject => exact Nat.le_of_eq (congrArg (max 1) same).symm
      | unwind => exact Nat.le_of_eq same.symm

theorem Phase.hangupsLeft_panic {resume : After → Phase} {n : ℕ} (after : After)
    (unwinds : (resume .unwind).hangupsLeft ≤ n) : (Phase.panic resume after).hangupsLeft ≤ n :=
  Phase.panic_of (·.hangupsLeft ≤ n) after unwinds (Nat.zero_le n)

theorem Phase.hangupsLeft_dropPlan {phase : Phase} {plan : List Owned}
    (planned : phase.dropPlan = some plan) : plan.count .handle ≤ phase.hangupsLeft := by
  cases phase <;> cases planned <;> simp [Phase.hangupsLeft]

namespace CallObject

/-- Drop glue that goes on to the next value. -/
theorem hangupsLeft_next {stage : DropStage} {rest : List Owned} {after : After} :
    (Phase.drop rest after).hangupsLeft ≤ (Phase.dropping stage rest after).hangupsLeft := by
  refine le_trans (Phase.hangupsLeft_drop rest after) ?_
  cases after <;> exact Nat.le_add_right _ _

theorem hangupsLeft_unwind {stage : DropStage} {rest : List Owned} {after : After} :
    (Phase.panic (.drop rest) after).hangupsLeft ≤
      (Phase.dropping stage rest after).hangupsLeft := by
  refine Phase.hangupsLeft_panic after (le_trans (Phase.hangupsLeft_drop rest .unwind) ?_)
  have reject : rest.count .handle ≤ max 1 (rest.count .handle) := le_max_right _ _
  cases after with
  | leave value => exact Nat.le_add_right _ _
  | spawnReject => exact le_trans reject (Nat.le_add_right _ _)
  | unwind => exact Nat.le_add_right _ _

/-- **A move issues no hang-up that was not left**, unless `reject` drops the handle of an active
call. -/
theorem Moves.hangups {o t : CallObject} {e : AppEvent} (moved : Moves o e t)
    (ended : e = .checkActive true → o.phase.isRejecting = false) :
    t.hangupsLeft + e.hangups.length ≤ o.hangupsLeft := by
  unfold CallObject.hangupsLeft
  have starts : ∀ plan, plan.count .handle ≤ o.phase.hangupsLeft → ∀ value,
      (Phase.drop plan (.leave value)).hangupsLeft + o.job.hangupsLeft + 0 ≤
        o.phase.hangupsLeft + o.job.hangupsLeft := fun plan few value =>
    Nat.add_le_add_right (le_trans (Phase.hangupsLeft_drop plan (.leave value)) few) _
  cases moved with
  | drop planned => exact starts _ (Phase.hangupsLeft_dropPlan planned) none
  | setupHangup was => exact starts [_] (by rw [was]; exact le_refl 1) _
  | hangup was => exact starts [_, _, _] (by rw [was]; exact le_refl 1) _
  | addSinkFailed was failed => exact starts [_] (by rw [was]; exact le_refl 1) _
  | addStreamFailed was failed => exact starts [_, _] (by rw [was]; exact le_refl 1) _
  | answerFailed was finished => exact starts [_, _, _] (by rw [was]; exact le_refl 1) _
  | unexpected was adding refused => exact starts [_, _, _] (by rw [was]; exact le_refl 1) _
  | disconnected was => exact starts [_, _, _] (by rw [was]; exact le_refl 1) _
  | freeFields was =>
    rw [was]
    exact Nat.add_le_add_right hangupsLeft_next _
  | destroyPort was =>
    rw [was]
    exact Nat.add_le_add_right hangupsLeft_next _
  | removeFailed was failed =>
    rw [was]
    exact Nat.add_le_add_right hangupsLeft_unwind _
  | destroyFailed was failed =>
    rw [was]
    exact Nat.add_le_add_right hangupsLeft_unwind _
  | removePort was =>
    rename_i kind slot rest after
    rw [was]
    cases after <;> exact le_refl _
  | checkActive active was =>
    rename_i rest after
    rw [was] at ended ⊢
    cases active with
    | true =>
      cases after with
      | spawnReject => cases ended rfl
      | leave value => exact le_refl _
      | unwind => exact le_refl _
    | false => cases after <;> simp [Phase.hangupsLeft, AppEvent.hangups]
  | hangupCall was =>
    rename_i rest after
    have spent : (Phase.dropping .freeFields rest after).hangupsLeft + 1 ≤
        (Phase.dropping .hangup rest after).hangupsLeft := by
      cases after <;> exact le_refl _
    rw [was]
    show (Phase.dropping .freeFields rest after).hangupsLeft + o.job.hangupsLeft + 1 ≤ _
    omega
  | hangupFailed was failed =>
    rename_i rest after status
    have unwound : (Phase.panic (.dropping .freeFields rest) after).hangupsLeft ≤
        rest.count .handle := Phase.hangupsLeft_panic after (le_refl _)
    have spent : rest.count .handle + 1 ≤ (Phase.dropping .hangup rest after).hangupsLeft := by
      cases after with
      | leave value => exact le_refl _
      | spawnReject => exact Nat.succ_le_succ (le_max_right _ _)
      | unwind => exact le_refl _
    rw [was]
    show (Phase.panic (.dropping .freeFields rest) after).hangupsLeft + o.job.hangupsLeft + 1 ≤ _
    omega
  | runJob status spawned =>
    rename_i job
    rw [spawned]
    cases job <;> exact le_refl _
  | _ => simp [*, CallObject.result, Phase.hangupsLeft, After.hangupsLeft, JobState.hangupsLeft,
      Phase.drop, Owned.start, AppEvent.hangups]

/-- `reject` has been called, and has dropped its handle without a hang-up or still may. -/
inductive IsRejected (o : CallObject) : Prop
  | checking (was : o.phase = .dropping .checkActive [] .spawnReject)
  | freeing (was : o.phase = .dropping .freeFields [] .spawnReject)
  | spawning (was : o.phase = .dropped .spawnReject)
  | spawned
      (was : o.phase = .awaitReject ∨ o.phase = .dropped (.leave none) ∨ o.phase = .ended)
      (job : o.job = .spawned .rejectIncoming ∨ ∃ result, o.job = .finished .rejectIncoming result)

theorem Moves.isRejected {o t : CallObject} (moved : Moves o .reject t) : t.IsRejected := by
  cases moved with
  | reject was => exact .checking rfl

theorem Moves.keeps_rejected {o t : CallObject} {e : AppEvent} (moved : Moves o e t)
    (ended : e = .checkActive true → o.phase.isRejecting = false) (rejected : o.IsRejected) :
    t.IsRejected := by
  cases rejected with
  | checking was =>
    cases moved with
    | checkActive active now =>
      rw [was] at now ended
      cases now
      cases active with
      | true => cases ended rfl
      | false => exact .freeing rfl
    | runJob status spawned => exact .checking was
    | drop planned =>
      rw [was] at planned
      cases planned
    | _ => simp_all
  | freeing was =>
    cases moved with
    | freeFields now =>
      rw [was] at now
      cases now
      exact .spawning rfl
    | runJob status spawned => exact .freeing was
    | drop planned =>
      rw [was] at planned
      cases planned
    | _ => simp_all
  | spawning was =>
    cases moved with
    | rejecting now => exact .spawned (Or.inl rfl) (Or.inl rfl)
    | runJob status spawned => exact .spawning was
    | drop planned =>
      rw [was] at planned
      cases planned
    | _ => simp_all
  | spawned was job =>
    cases moved with
    | rejected now finished => exact .spawned (Or.inr (Or.inr rfl)) job
    | left now => exact .spawned (Or.inr (Or.inr rfl)) job
    | runJob status running =>
      rcases job with same | ⟨result, same⟩
      · rw [running] at same
        cases same
        exact .spawned was (Or.inr ⟨_, rfl⟩)
      · rw [running] at same
        cases same
    | drop planned =>
      rcases was with was | was | was
      · rw [was] at planned
        cases planned
        exact .spawned (Or.inr (Or.inl rfl)) job
      · rw [was] at planned
        cases planned
      · rw [was] at planned
        cases planned
    | _ => simp_all

/-- Until its job has run, a rejected call has its one hang-up left. -/
theorem IsRejected.hangupsLeft {o : CallObject} (rejected : o.IsRejected) :
    1 ≤ o.hangupsLeft ∨ ∃ result, o.job = .finished .rejectIncoming result := by
  unfold CallObject.hangupsLeft
  cases rejected with
  | checking was => exact Or.inl (by rw [was]; exact Nat.le_add_right 1 _)
  | freeing was => exact Or.inl (by rw [was]; exact Nat.le_add_right 1 _)
  | spawning was => exact Or.inl (by rw [was]; exact Nat.le_add_right 1 _)
  | spawned was job =>
    rcases job with running | finished
    · exact Or.inl (by rw [running]; exact Nat.le_add_left 1 _)
    · exact Or.inr finished

end CallObject

/-! ### At most one hang-up -/

namespace World

/-- When `reject` drops its handle, the call has ended. -/
def RejectedEnded (w : World) (e : CallEvent) : Prop :=
  ∀ active, e = .app (.checkActive active) → w.object.phase.isRejecting = true →
    w.inv = .disconnected

instance (w : World) (e : CallEvent) : Decidable (RejectedEnded w e) :=
  inferInstanceAs (Decidable (∀ _, _))

/-- The call is hung up at most once; after a `reject` it is hung up with the code of `reject` only,
and what `reject` returns is the result of that. -/
structure TerminatedOnce (w : World) (es : List CallEvent) : Prop where
  once : w.hangups.length ≤ 1
  code : .app .reject ∈ es → ∀ request ∈ w.hangups, request.1 = rejectCode
  result : ∀ {result}, Return.reject result ∈ w.object.returns →
    ∃ status, w.hangups = [(rejectCode, status)] ∧ result = getErrorAsResult status

/-- The hang-ups issued and left, and the results of `reject`. -/
structure Accounted (w : World) : Prop where
  budget : w.hangups.length + w.object.hangupsLeft ≤ 1
  rejected : ∀ {result}, (w.object.job = .finished .rejectIncoming result ∨
    .reject result ∈ w.object.promised) →
      ∃ status, w.hangups = [(rejectCode, status)] ∧ result = getErrorAsResult status

/-- The results that `reject` has or will have come from its own job. -/
theorem rejected_of_moves {o t : CallObject} {e : AppEvent} (moved : o.Moves e t)
    {result : Except PjsuaError Unit}
    (known : t.job = .finished .rejectIncoming result ∨ .reject result ∈ t.promised) :
    (o.job = .finished .rejectIncoming result ∨ .reject result ∈ o.promised) ∨
      ∃ status, e = .runJob .rejectIncoming status ∧ result = getErrorAsResult status := by
  rcases known with finished | member
  · cases moved with
    | runJob status spawned =>
      cases finished
      exact Or.inr ⟨status, rfl, rfl⟩
    | sendMediaData was => cases finished
    | rejecting was => cases finished
    | _ => exact Or.inl (Or.inl finished)
  · rcases moved.promised member with old | new
    · exact Or.inl (Or.inr old)
    · cases new with
      | rejected was finished => exact Or.inl (Or.inl finished)

theorem Accounted.app {w next : World} {event : AppEvent} {object : CallObject}
    (accounted : w.Accounted) (moved : w.object.Moves event object) (effects : Effects w event next)
    (ended : event = .checkActive true → w.object.phase.isRejecting = false) :
    Accounted { next with object := object } := by
  have left := moved.hangups ended
  have budget := accounted.budget
  obtain ⟨hangups, _⟩ := effects.recorded
  refine ⟨?_, ?_⟩
  · show next.hangups.length + object.hangupsLeft ≤ 1
    rw [hangups, List.length_append]
    omega
  · intro result known
    show ∃ status, next.hangups = _ ∧ _
    rw [hangups]
    rcases rejected_of_moves moved known with before | ⟨status, rfl, given⟩
    · obtain ⟨status, once, given⟩ := accounted.rejected before
      have issued : w.hangups.length = 1 := by rw [once]; rfl
      have none : event.hangups = [] := List.length_eq_zero_iff.mp (by omega)
      exact ⟨status, by rw [none, List.append_nil, once], given⟩
    · have issued : (AppEvent.runJob .rejectIncoming status).hangups.length = 1 := rfl
      have first : w.hangups = [] := List.length_eq_zero_iff.mp (by omega)
      exact ⟨status, by rw [first]; rfl, given⟩

theorem RejectedEnded.inactive {w next : World} {event : AppEvent}
    (ended : RejectedEnded w (.app event)) (effects : Effects w event next) :
    event = .checkActive true → w.object.phase.isRejecting = false := by
  rintro rfl
  by_contra rejecting
  have finished := ended true rfl (Bool.not_eq_false _ ▸ rejecting)
  cases effects with
  | checkActive answered =>
    rw [finished] at answered
    cases answered
  | quiet quiet => cases quiet

/-- **One step keeps the account.** -/
theorem Accounted.step {w v : World} {e : CallEvent} (ended : RejectedEnded w e)
    (accounted : w.Accounted) (stepped : w.step e = some v) : v.Accounted := by
  obtain ⟨_, steps⟩ := steps_of_step stepped
  rcases steps.pjsua_or_app with ⟨object, hangups, _⟩ | ⟨event, object, next, rfl, moved, effects, rfl⟩
  · refine ⟨?_, ?_⟩
    · rw [object, hangups]
      exact accounted.budget
    · rw [object, hangups]
      exact accounted.rejected
  · exact accounted.app moved effects (ended.inactive effects)

/-- A call that was rejected stays so. -/
theorem isRejected_step {w v : World} {e : CallEvent} (ended : RejectedEnded w e)
    (rejected : w.object.IsRejected) (stepped : w.step e = some v) : v.object.IsRejected := by
  obtain ⟨_, steps⟩ := steps_of_step stepped
  rcases steps.pjsua_or_app with ⟨object, _⟩ | ⟨event, object, next, rfl, moved, effects, rfl⟩
  · rw [object]
    exact rejected
  · exact moved.keeps_rejected (ended.inactive effects) rejected

theorem isRejected_of_step {w v : World} (stepped : w.step (.app .reject) = some v) :
    v.object.IsRejected := by
  obtain ⟨_, steps⟩ := steps_of_step stepped
  cases steps with
  | app moved effects => exact moved.isRejected

theorem Accounted.code {w : World} (accounted : w.Accounted) (rejected : w.object.IsRejected) :
    ∀ request ∈ w.hangups, request.1 = rejectCode := by
  have budget := accounted.budget
  intro request issued
  rcases rejected.hangupsLeft with left | ⟨result, finished⟩
  · have none : w.hangups = [] := List.length_eq_zero_iff.mp (by omega)
    rw [none] at issued
    cases issued
  · obtain ⟨status, once, _⟩ := accounted.rejected (Or.inl finished)
    rw [once, List.mem_singleton] at issued
    rw [issued]

theorem accounted_start (callId confPort : Int) (inv : PjsipInvState) (media : CallMediaStatus)
    (outstanding : Bool) : (start callId confPort inv media outstanding).Accounted := by
  refine ⟨le_refl 1, ?_⟩
  rintro result (finished | member)
  · cases finished
  · cases member

end World

/-- **A call is terminated at most once**, if no `reject` drops its handle while the call is
active. -/
theorem terminated_once (callId confPort : Int) (inv : PjsipInvState) (media : CallMediaStatus)
    (outstanding : Bool) {es : List CallEvent} {w : World}
    (ended : callSystem.Meets World.RejectedEnded
      (World.start callId confPort inv media outstanding) es)
    (ran : callSystem.run (World.start callId confPort inv media outstanding) es = some w) :
    w.TerminatedOnce es := by
  have accounted : w.Accounted :=
    callSystem.run_keeps_of_meets (fun _ _ _ ended before stepped => before.step ended stepped)
      ended (World.accounted_start callId confPort inv media outstanding) ran
  have marks : ∀ v u, callSystem.step v (.app .reject) = some u → u.object.IsRejected :=
    fun _ _ stepped => World.isRejected_of_step stepped
  have keeps : ∀ v e u, World.RejectedEnded v e → v.object.IsRejected →
      callSystem.step v e = some u → u.object.IsRejected :=
    fun _ _ _ ended before stepped => World.isRejected_step ended before stepped
  refine ⟨le_trans (Nat.le_add_right _ _) accounted.budget, ?_, ?_⟩
  · intro happened
    exact accounted.code (callSystem.run_establishes_of_meets marks keeps ended ran happened)
  · intro result returned
    exact accounted.rejected (Or.inr (List.mem_append_left _ returned))

/-- A call that the remote has cancelled is rejected. -/
def cancelledThenRejected : List CallEvent :=
  [.app (.setUserData pjSuccess), .setState .disconnected, .onCallState, .app .reject,
    .app (.checkActive false), .app .freeFields, .app .finish,
    .app (.runJob .rejectIncoming pjSuccess), .app .joinJob]

theorem terminated_once_cancelled :
    ∃ w, callSystem.run (World.start 0 3 .incoming .none false) cancelledThenRejected = some w ∧
      w.TerminatedOnce cancelledThenRejected := by
  refine ⟨_, rfl, ?_⟩
  exact terminated_once 0 3 .incoming .none false
    (by decide : callSystem.Meets World.RejectedEnded _ cancelledThenRejected) rfl

/-- An active call is rejected: the drop of its handle hangs it up, then the job does. -/
theorem not_terminated_once :
    ¬ ∀ es w, callSystem.run (World.start 0 3 .incoming .none false) es = some w →
      w.TerminatedOnce es := by
  intro terminated
  have once := (terminated [.app (.setUserData pjSuccess), .app .reject, .app (.checkActive true),
    .app (.hangupCall pjSuccess), .app .freeFields, .app .finish,
    .app (.runJob .rejectIncoming 171140)] _ rfl).once
  exact absurd once (by decide)

/-! ### No success code without an answer -/

namespace World

/-- A handle is dropped while the call is active only after the call was answered. -/
def DroppedAnswered (w : World) (e : CallEvent) : Prop :=
  ∀ active, e = .app (.checkActive active) → w.answers = [] → w.inv = .disconnected

instance (w : World) (e : CallEvent) : Decidable (DroppedAnswered w e) :=
  inferInstanceAs (Decidable (∀ _, _))

/-- Without an answer, no final response of the 2xx class is requested. -/
def NotAccepted (w : World) : Prop :=
  w.answers = [] → ∀ request ∈ w.hangups, ¬ (200 ≤ request.1 ∧ request.1 < 300)

/-- Until a call is answered, its handle does not come to hang it up. -/
structure Unanswered (w : World) : Prop where
  spared : w.answers = [] → ∀ rest after, w.object.phase ≠ .dropping .hangup rest after
  refused : w.answers = [] → ∀ request ∈ w.hangups, request.1 = rejectCode

theorem Unanswered.app {w next : World} {event : AppEvent} {object : CallObject}
    (unanswered : w.Unanswered) (moved : w.object.Moves event object) (effects : Effects w event next)
    (dropped : DroppedAnswered w (.app event)) : Unanswered { next with object := object } := by
  obtain ⟨hangups, answers⟩ := effects.recorded
  have before : next.answers = [] → w.answers = [] := by
    intro none
    rw [answers] at none
    exact (List.append_eq_nil_iff.mp none).1
  refine ⟨?_, ?_⟩
  · intro none rest after hanging
    have staged := moved.staged hanging
    generalize stageEq : DropStage.hangup = stage at staged
    cases staged with
    | stayed same => exact unanswered.spared (before none) rest after (same.symm.trans hanging)
    | active =>
      have finished := dropped true rfl (before none)
      cases effects with
      | checkActive answered =>
        rw [finished] at answered
        cases answered
      | quiet quiet => cases quiet
    | ended => cases stageEq
    | hungUp status => cases stageEq
    | elsewhere away => exact away.1 stageEq.symm
  · intro none request issued
    have known : request ∈ w.hangups ++ event.hangups := hangups ▸ issued
    rcases List.mem_append.mp known with old | new
    · exact unanswered.refused (before none) request old
    · cases moved with
      | runJob status spawned =>
        rename_i job
        cases job with
        | acceptIncoming code => cases new
        | rejectIncoming =>
          rw [List.mem_singleton.mp new]
      | hangupCall was => exact absurd was (unanswered.spared (before none) _ _)
      | hangupFailed was failed => exact absurd was (unanswered.spared (before none) _ _)
      | _ => cases new

/-- **One step keeps an unanswered call unanswered.** -/
theorem Unanswered.step {w v : World} {e : CallEvent} (dropped : DroppedAnswered w e)
    (unanswered : w.Unanswered) (stepped : w.step e = some v) : v.Unanswered := by
  obtain ⟨_, steps⟩ := steps_of_step stepped
  rcases steps.pjsua_or_app with ⟨object, hangups, answers, _⟩ |
    ⟨event, object, next, rfl, moved, effects, rfl⟩
  · refine ⟨?_, ?_⟩
    · rw [object, answers]
      exact unanswered.spared
    · rw [hangups, answers]
      exact unanswered.refused
  · exact unanswered.app moved effects dropped

theorem unanswered_start (callId confPort : Int) (inv : PjsipInvState) (media : CallMediaStatus)
    (outstanding : Bool) : (start callId confPort inv media outstanding).Unanswered :=
  ⟨fun _ _ _ hanging => (by cases hanging), fun _ _ issued => (by cases issued)⟩

end World

/-- **No call is accepted by accident**, if no handle is dropped while its call is active and
unanswered. -/
theorem unanswered_not_accepted (callId confPort : Int) (inv : PjsipInvState)
    (media : CallMediaStatus) (outstanding : Bool) {es : List CallEvent} {w : World}
    (dropped : callSystem.Meets World.DroppedAnswered
      (World.start callId confPort inv media outstanding) es)
    (ran : callSystem.run (World.start callId confPort inv media outstanding) es = some w) :
    w.NotAccepted := by
  have unanswered : w.Unanswered :=
    callSystem.run_keeps_of_meets (fun _ _ _ dropped before stepped => before.step dropped stepped)
      dropped (World.unanswered_start callId confPort inv media outstanding) ran
  intro none request issued
  rw [unanswered.refused none request issued]
  decide

/-- A call that the remote has cancelled is dropped. -/
def cancelledThenDropped : List CallEvent :=
  [.app (.setUserData pjSuccess), .app .answerSessionProgress, .setState .disconnected,
    .onCallState, .app .hangup, .app (.checkActive false), .app .freeFields, .app .finish]

theorem unanswered_not_accepted_cancelled :
    ∃ w, callSystem.run (World.start 0 3 .incoming .none false) cancelledThenDropped = some w ∧
      w.NotAccepted := by
  refine ⟨_, rfl, ?_⟩
  exact unanswered_not_accepted 0 3 .incoming .none false
    (by decide : callSystem.Meets World.DroppedAnswered _ cancelledThenDropped) rfl

/-- An incoming call that is dropped while it rings is answered with 200. -/
theorem not_unanswered_not_accepted :
    ¬ ∀ es w, callSystem.run (World.start 0 3 .incoming .none false) es = some w →
      w.NotAccepted := by
  intro refused
  have none := refused [.app (.setUserData pjSuccess), .app .drop, .app (.checkActive true),
    .app (.hangupCall pjSuccess)] _ rfl rfl (hangupCode, pjSuccess) List.mem_cons_self
  exact none (by decide)

/-! ### Any other check -/

/-- **An active handle is hung up with 200**: after the check that breaks either condition this
request comes, whether or not the call was answered. -/
theorem hangup_of_checkActive {w v : World}
    (checked : w.step (.app (.checkActive true)) = some v) (status : PjStatus) :
    ∃ u, v.step (.app (.hangupCall status)) = some u ∧
      u.hangups = w.hangups ++ [(hangupCode, status)] ∧ u.answers = w.answers := by
  obtain ⟨alive, steps⟩ := World.steps_of_step checked
  cases steps with
  | app moved effects =>
    cases moved with
    | checkActive active was =>
      rename_i rest after
      cases effects with
      | checkActive answered =>
        have hanging : ({ w.object with phase := .dropping .hangup rest after } : CallObject).phase =
          .dropping .hangup rest after := rfl
        have running : ({ w with
          object := { w.object with phase := .dropping .hangup rest after } } : World).abort = none :=
            alive
        obtain ⟨next, moved⟩ := CallObject.hangupCall_of_hangup hanging status
        have stepped := World.step_app running (fun same => by cases same) moved rfl
        exact ⟨_, stepped, (World.pjsuaCallHangup_hungUp _ hangupCode status).recorded⟩
      | quiet quiet => cases quiet

end PjsipClient
