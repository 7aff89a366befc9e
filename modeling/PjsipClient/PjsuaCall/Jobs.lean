/-
The blocking jobs of a call object, and the drop of its handle.

A job carries the bare call id, so it can outlive the handle it was spawned for: the future of `add`
is dropped while the answer job has still to run, and `reject` drops the handle before it spawns its
job.

* `CallObject.JobFits` — no job before the media data is sent, and a call goes on only once its
  answer has succeeded.
* `CallObject.Settled` — once the handle is gone, no job is left. Kept by every move that
  `KeepsJobs`.
* `CallObject.mayName` — an operation on behalf of the object may still name its call. No move makes
  it so again, and an object that may name its call can come to do so (`reaches_of_mayName`).
-/

import PjsipClient.PjsuaCall.Object

namespace PjsipClient

/-! ### The answer job -/

/-- The phases of a call that was answered with success. -/
def Phase.isAnswered : Phase → Bool
  | awaitState _ _ | inCall _ => true
  | _ => false

theorem Phase.isLive_of_isAnswered {phase : Phase} (answered : phase.isAnswered = true) :
    phase.isLive = true := by
  cases phase <;> first | rfl | cases answered

namespace CallObject

/-- The answer has still to be given. -/
def MayAnswer (o : CallObject) : Prop :=
  o.phase.beforeMedia = true ∨ ∃ code, o.job = .spawned (.acceptIncoming code)

/-- No job before the media data is sent, and a call goes on only once its answer has succeeded. -/
structure JobFits (o : CallObject) : Prop where
  unspawned : o.phase.beforeMedia = true → o.job = .none
  answered : o.phase.isAnswered = true → ∃ code, o.job = .finished (.acceptIncoming code) (.ok ())

theorem jobFits_fresh : JobFits fresh :=
  ⟨fun _ => rfl, fun answered => by cases answered⟩

/-- An answer is given once: no move makes it possible again. -/
theorem Moves.mayAnswer {o t : CallObject} {e : AppEvent} (moved : Moves o e t)
    (may : t.MayAnswer) : o.MayAnswer := by
  rcases may with before | ⟨code, spawned⟩
  · exact Or.inl (moved.beforeMedia before)
  · cases moved with
    | sendMediaData was =>
      refine Or.inl ?_
      rw [was]
      rfl
    | runJob status running => cases spawned
    | rejecting was => cases spawned
    | _ => exact Or.inr ⟨code, spawned⟩

theorem Moves.jobFits {o t : CallObject} {e : AppEvent} (moved : Moves o e t) (fits : o.JobFits) :
    t.JobFits := by
  refine ⟨?_, ?_⟩
  · intro before
    have none := fits.unspawned (moved.beforeMedia before)
    cases moved with
    | runJob status spawned => cases none.symm.trans spawned
    | sendMediaData was => cases before
    | rejecting was => cases before
    | _ => exact none
  · intro answered
    cases moved.advances (Phase.isLive_of_isAnswered answered) with
    | answered was finished => exact ⟨_, finished⟩
    | connecting was expected => exact fits.answered (by rw [was]; rfl)
    | confirmed was expected => exact fits.answered (by rw [was]; rfl)
    | awaitHangup was => exact fits.answered (by rw [was]; rfl)
    | runJob status spawned =>
      obtain ⟨code, finished⟩ := fits.answered answered
      cases finished.symm.trans spawned
    | _ => cases answered

end CallObject

/-! ### The drop of the handle -/

def DropStage.ofHandle : DropStage → Bool
  | checkActive | hangup | freeFields => true
  | _ => false

/-- The `PjsuaCallHandle` is gone. -/
def Phase.handleDropped : Phase → Bool
  | dropping stage rest _ => !stage.ofHandle && decide (.handle ∉ rest)
  | awaitReject | dropped _ | ended | panicked | aborted => true
  | _ => false

theorem Phase.handleDropped_drop (plan : List Owned) (after : After) :
    (Phase.drop plan after).handleDropped = decide (.handle ∉ plan) := by
  cases plan with
  | nil => rfl
  | cons owned rest =>
    cases owned with
    | handle => simp [drop, handleDropped, Owned.start, DropStage.ofHandle]
    | port kind slot => simp [drop, handleDropped, Owned.start, DropStage.ofHandle]

/-- Dropping an object with a handle starts with the handle still there. -/
theorem Phase.handleDropped_dropPlan {phase : Phase} {plan : List Owned}
    (planned : phase.dropPlan = some plan) : decide (.handle ∉ plan) = phase.handleDropped := by
  cases phase <;> cases planned <;> simp [handleDropped]

theorem Phase.handleDropped_panic (resume : After → Phase) (after : After) :
    (Phase.panic resume after).handleDropped = (resume .unwind).handleDropped ∨
      (Phase.panic resume after).handleDropped = true ∧ Phase.panic resume after = .aborted := by
  cases after with
  | leave value => exact Or.inl rfl
  | spawnReject => exact Or.inl rfl
  | unwind => exact Or.inr ⟨rfl, rfl⟩

/-- A port that cannot be removed leaves the handle as it was, unless the process aborts. -/
theorem Phase.handleDropped_unwound (rest : List Owned) (after : After) :
    (Phase.panic (.drop rest) after).handleDropped = decide (.handle ∉ rest) ∨
      (Phase.panic (.drop rest) after).handleDropped = true ∧
        Phase.panic (.drop rest) after = .aborted := by
  refine (handleDropped_panic (.drop rest) after).imp_left fun unwinds => ?_
  rw [unwinds, handleDropped_drop]

def JobState.isSpawned : JobState → Bool
  | spawned _ => true
  | _ => false

/-- The pjsua operations that name the call's id. -/
def AppEvent.namesCall : AppEvent → Bool
  | setUserData _ | runJob _ _ | checkActive _ | hangupCall _ => true
  | _ => false

/-- The drop of its fields is all that is left of the handle. -/
def Phase.freesHandle : Phase → Bool
  | dropping .freeFields rest _ => decide (.handle ∉ rest)
  | _ => false

/-- The handle's fields are not dropped before the call's job has run, and `reject` does not get from
the drop of the handle to its job. -/
def KeepsJobs (o : CallObject) (e : AppEvent) : Prop :=
  (e = .freeFields → o.phase.freesHandle = true → o.job.isSpawned = false) ∧
    (e = .finish → o.phase ≠ .dropped .spawnReject)

instance (o : CallObject) (e : AppEvent) : Decidable (KeepsJobs o e) :=
  inferInstanceAs (Decidable ((_ → _ → _) ∧ _))

namespace CallObject

/-- Once the handle is gone, no job is left to run. -/
def Settled (o : CallObject) : Prop := o.phase.handleDropped = true → o.job.isSpawned = false

/-- **The handle goes at the drop of its fields**, unless it was never made or the process aborts. -/
theorem Moves.handleDropped {o t : CallObject} {e : AppEvent} (moved : Moves o e t) :
    t.phase.handleDropped = o.phase.handleDropped ∨
      t.phase.handleDropped = true ∧
        (e = .freeFields ∧ o.phase.freesHandle = true ∨ o.phase = .notified ∨
          t.phase = .aborted) := by
  cases moved with
  | runJob status spawned => exact Or.inl rfl
  | newFailed was failed => exact Or.inr ⟨rfl, Or.inr (Or.inl was)⟩
  | freeFields was =>
    rename_i rest after
    by_cases again : Owned.handle ∈ rest
    · refine Or.inl ?_
      rw [was, Phase.handleDropped_drop, decide_eq_false (not_not.mpr again)]
      rfl
    · refine Or.inr ⟨?_, Or.inl ⟨rfl, ?_⟩⟩
      · rw [Phase.handleDropped_drop, decide_eq_true again]
      · rw [was]
        exact decide_eq_true again
  | drop planned =>
    refine Or.inl ?_
    rw [Phase.handleDropped_drop, Phase.handleDropped_dropPlan planned]
  | checkActive active was =>
    refine Or.inl ?_
    rw [was]
    cases active <;> rfl
  | hangupFailed was failed =>
    rename_i rest after status
    rcases Phase.handleDropped_panic (.dropping .freeFields rest) after with unwinds | aborts
    · refine Or.inl ?_
      rw [was]
      exact unwinds
    · exact Or.inr (aborts.imp_right fun aborted => Or.inr (Or.inr aborted))
  | removePort was =>
    refine Or.inl ?_
    rw [was]
    rfl
  | removeFailed was failed =>
    rename_i kind slot rest after status
    refine (Phase.handleDropped_unwound rest after).imp (fun unwinds => ?_) fun aborts => ?_
    · rw [was]
      exact unwinds
    · exact aborts.imp_right fun aborted => Or.inr (Or.inr aborted)
  | destroyPort was =>
    refine Or.inl ?_
    rw [was, Phase.handleDropped_drop]
    rfl
  | destroyFailed was failed =>
    rename_i kind slot rest after status
    refine (Phase.handleDropped_unwound rest after).imp (fun unwinds => ?_) fun aborts => ?_
    · rw [was]
      exact unwinds
    · exact aborts.imp_right fun aborted => Or.inr (Or.inr aborted)
  | new was => exact Or.inl (by rw [was]; rfl)
  | _ => exact Or.inl (by rw [‹o.phase = _›]; rfl)

/-- A job is spawned with the media data, and after the drop of a rejected call's handle. -/
theorem Moves.isSpawned {o t : CallObject} {e : AppEvent} (moved : Moves o e t)
    (spawned : t.job.isSpawned = true) :
    o.job.isSpawned = true ∨ t.phase.handleDropped = false ∨
      (e = .finish ∧ o.phase = .dropped .spawnReject) := by
  cases moved with
  | sendMediaData was => exact Or.inr (Or.inl rfl)
  | runJob status running => cases spawned
  | rejecting was => exact Or.inr (Or.inr ⟨rfl, was⟩)
  | _ => exact Or.inl spawned

/-- **One move that keeps the jobs leaves none behind.** -/
theorem Moves.settled {o t : CallObject} {e : AppEvent} (moved : Moves o e t)
    (keeps : KeepsJobs o e) (fits : o.JobFits) (going : t.phase ≠ .aborted)
    (settled : o.Settled) : t.Settled := by
  intro gone
  by_contra left
  have spawned : t.job.isSpawned = true := by simpa using left
  have before : o.job.isSpawned = true := by
    rcases moved.isSpawned spawned with before | present | ⟨finish, was⟩
    · exact before
    · cases present.symm.trans gone
    · exact absurd was (keeps.2 finish)
  have idle : o.job.isSpawned = false := by
    rcases moved.handleDropped with same | ⟨_, ⟨frees, last⟩ | was | aborted⟩
    · exact settled (same.symm.trans gone)
    · exact keeps.1 frees last
    · rw [fits.unspawned (by rw [was]; rfl)]
      rfl
    · exact absurd aborted going
  cases idle.symm.trans before

/-- After the drop of the handle only a job still names the call. -/
theorem Moves.names_dropped {o t : CallObject} {e : AppEvent} (moved : Moves o e t)
    (names : e.namesCall = true) (gone : o.phase.handleDropped = true) :
    o.job.isSpawned = true := by
  have present : ∀ {phase : Phase}, o.phase = phase → phase.handleDropped = false →
      o.job.isSpawned = true := by
    rintro _ rfl absent
    cases absent.symm.trans gone
  cases moved with
  | runJob status spawned =>
    rw [spawned]
    rfl
  | new was => exact present was rfl
  | newFailed was failed => exact present was rfl
  | checkActive active was => exact present was rfl
  | hangupCall was => exact present was rfl
  | hangupFailed was failed => exact present was rfl
  | _ => cases names

end CallObject

/-! ### Who may still name the call -/

/-- The handle's check and hang-up, or the job of `reject`, are still to come. -/
def Phase.mayName : Phase → Bool
  | dropping stage rest after =>
    decide (stage = .checkActive ∨ stage = .hangup ∨ .handle ∈ rest ∨ after = .spawnReject)
  | dropped after => decide (after = .spawnReject)
  | awaitReject | ended | panicked | aborted => false
  | _ => true

theorem Phase.mayName_drop (plan : List Owned) (after : After) :
    (Phase.drop plan after).mayName = decide (.handle ∈ plan ∨ after = .spawnReject) := by
  cases plan with
  | nil => simp [drop, mayName]
  | cons owned rest => cases owned <;> simp [drop, mayName, Owned.start]

/-- The unwinding of a panic names the call no more than the drops that are left. -/
theorem Phase.mayName_panic {rest : List Owned} {after : After}
    (may : (Phase.panic (.drop rest) after).mayName = true) : Owned.handle ∈ rest := by
  have unwinds : (Phase.drop rest .unwind).mayName = true → Owned.handle ∈ rest := by
    rw [Phase.mayName_drop]
    simp
  cases after with
  | leave value => exact unwinds may
  | spawnReject => exact unwinds may
  | unwind => cases may

namespace CallObject

/-- An operation on behalf of the object may still name its call. -/
def mayName (o : CallObject) : Bool := o.phase.mayName || o.job.isSpawned

theorem mayName_of_phase {o : CallObject} {phase : Phase} (was : o.phase = phase)
    (may : phase.mayName = true) : o.mayName = true := by
  unfold mayName
  rw [was, may, Bool.true_or]

/-- **No move makes an object name its call again.** -/
theorem Moves.mayName {o t : CallObject} {e : AppEvent} (moved : Moves o e t)
    (may : t.mayName = true) : o.mayName = true := by
  have either : t.phase.mayName = true ∨ t.job.isSpawned = true := by
    simpa [CallObject.mayName] using may
  have busy : ∀ {job : JobState}, job = o.job → job.isSpawned = true → o.mayName = true := by
    rintro _ rfl spawned
    simp [CallObject.mayName, spawned]
  have glue : ∀ {stage : DropStage} {rest : List Owned} {after : After},
      o.phase = .dropping stage rest after → Owned.handle ∈ rest ∨ after = .spawnReject →
        o.mayName = true := fun was left =>
    mayName_of_phase was (decide_eq_true (Or.inr (Or.inr left)))
  cases moved with
  | runJob status spawned => exact busy rfl (by rw [spawned]; rfl)
  | rejected was finished =>
    rcases either with impossible | spawned
    · cases impossible
    · exact busy rfl spawned
  | drop planned =>
    rcases either with phase | spawned
    · rw [Phase.mayName_drop] at phase
      cases was : o.phase with
      | awaitReject =>
        rw [was] at planned
        cases planned
        cases phase
      | incoming => exact mayName_of_phase was rfl
      | setup => exact mayName_of_phase was rfl
      | awaitAnswer ports => exact mayName_of_phase was rfl
      | awaitState awaited ports => exact mayName_of_phase was rfl
      | inCall ports => exact mayName_of_phase was rfl
      | _ =>
        rw [was] at planned
        cases planned
    · exact busy rfl spawned
  | freeFields was =>
    rcases either with phase | spawned
    · rw [Phase.mayName_drop] at phase
      exact glue was (of_decide_eq_true phase)
    · exact busy rfl spawned
  | removePort was =>
    rcases either with phase | spawned
    · refine glue was ?_
      simpa [Phase.mayName] using phase
    · exact busy rfl spawned
  | removeFailed was failed =>
    rcases either with phase | spawned
    · exact glue was (Or.inl (Phase.mayName_panic phase))
    · exact busy rfl spawned
  | destroyPort was =>
    rcases either with phase | spawned
    · rw [Phase.mayName_drop] at phase
      exact glue was (of_decide_eq_true phase)
    · exact busy rfl spawned
  | destroyFailed was failed =>
    rcases either with phase | spawned
    · exact glue was (Or.inl (Phase.mayName_panic phase))
    · exact busy rfl spawned
  | left was =>
    rcases either with impossible | spawned
    · cases impossible
    · exact busy rfl spawned
  | unwound was =>
    rcases either with impossible | spawned
    · cases impossible
    · exact busy rfl spawned
  | checkActive active was => exact mayName_of_phase was rfl
  | hangupCall was => exact mayName_of_phase was rfl
  | hangupFailed was failed => exact mayName_of_phase was rfl
  | _ => exact mayName_of_phase ‹o.phase = _› rfl

/-- Only an object that may name its call does. -/
theorem Moves.names {o t : CallObject} {e : AppEvent} (moved : Moves o e t)
    (names : e.namesCall = true) : o.mayName = true := by
  cases moved with
  | runJob status spawned => simp [CallObject.mayName, spawned, JobState.isSpawned]
  | new was => exact mayName_of_phase was rfl
  | newFailed was failed => exact mayName_of_phase was rfl
  | checkActive active was => exact mayName_of_phase was rfl
  | hangupCall was => exact mayName_of_phase was rfl
  | hangupFailed was failed => exact mayName_of_phase was rfl
  | _ => cases names

/-- Steps that name no call lead to one that does; the call is found active. -/
inductive Reaches : CallObject → Prop
  | names {o t : CallObject} {e : AppEvent} (stepped : o.step e = some t)
      (names : e.namesCall = true) (active : e ≠ .checkActive false) : Reaches o
  | quietly {o t : CallObject} {e : AppEvent} (stepped : o.step e = some t)
      (quiet : e.namesCall = false) (going : t.phase ≠ .aborted) (further : Reaches t) : Reaches o

theorem reaches_of_spawned {o : CallObject} (spawned : o.job.isSpawned = true) : o.Reaches := by
  obtain ⟨phase, job, returns⟩ := o
  cases job with
  | spawned job =>
    have runs : (⟨phase, .spawned job, returns⟩ : CallObject).step (.runJob job pjSuccess) =
        some ⟨phase, .finished job (.ok ()), returns⟩ := if_pos rfl
    exact .names runs rfl (fun same => by cases same)
  | _ => cases spawned

/-- The drop of a port in between. -/
theorem reaches_destroyPort {kind : PortKind} {slot : Int} {rest : List Owned} {after : After}
    {job : JobState} {returns : List Return} (further : Reaches ⟨.drop rest after, job, returns⟩) :
    Reaches ⟨.dropping (.destroyPort kind slot) rest after, job, returns⟩ := by
  have destroyed : (⟨.dropping (.destroyPort kind slot) rest after, job, returns⟩ :
      CallObject).step (.destroyPort kind slot pjSuccess) =
        some ⟨.drop rest after, job, returns⟩ := if_pos rfl
  exact .quietly destroyed rfl (Phase.drop_ne_aborted rest after) further

theorem reaches_removePort {kind : PortKind} {slot : Int} {rest : List Owned} {after : After}
    {job : JobState} {returns : List Return} (further : Reaches ⟨.drop rest after, job, returns⟩) :
    Reaches ⟨.dropping (.removePort kind slot) rest after, job, returns⟩ := by
  have removed : (⟨.dropping (.removePort kind slot) rest after, job, returns⟩ :
      CallObject).step (.removePort kind slot pjSuccess) =
        some ⟨.dropping (.destroyPort kind slot) rest after, job, returns⟩ := if_pos rfl
  exact .quietly removed rfl (fun same => by cases same) (reaches_destroyPort further)

/-- Drop glue reaches the check of a handle, or the job of `reject`. -/
theorem reaches_drop (rest : List Owned) (after : After) (job : JobState) (returns : List Return)
    (left : .handle ∈ rest ∨ after = .spawnReject) :
    Reaches ⟨.drop rest after, job, returns⟩ := by
  induction rest with
  | nil =>
    rcases left with impossible | rfl
    · cases impossible
    · have finished : (⟨.dropped .spawnReject, job, returns⟩ : CallObject).step .finish =
          some ⟨.awaitReject, .spawned .rejectIncoming, returns⟩ := rfl
      exact .quietly finished rfl (fun same => by cases same) (reaches_of_spawned rfl)
  | cons owned rest ih =>
    cases owned with
    | handle =>
      have checked : (⟨.dropping .checkActive rest after, job, returns⟩ : CallObject).step
          (.checkActive true) = some ⟨.dropping .hangup rest after, job, returns⟩ := rfl
      exact .names checked rfl (fun same => by cases same)
    | port kind slot =>
      refine reaches_removePort (ih (left.imp_left fun member => ?_))
      rcases List.mem_cons.mp member with impossible | later
      · cases impossible
      · exact later

/-- An object that is dropped with its handle. -/
theorem reaches_dropPlan {phase : Phase} {plan : List Owned} {job : JobState}
    {returns : List Return} (planned : phase.dropPlan = some plan) (left : .handle ∈ plan) :
    Reaches ⟨phase, job, returns⟩ := by
  have dropped : (⟨phase, job, returns⟩ : CallObject).step .drop =
      some ⟨.drop plan (.leave none), job, returns⟩ := by
    show phase.dropPlan.map _ = _
    rw [planned]
    rfl
  exact .quietly dropped rfl (Phase.drop_ne_aborted _ _) (reaches_drop plan _ job returns (Or.inl left))

/-- **An object that may name its call can come to do so.** -/
theorem reaches_of_mayName {o : CallObject} (may : o.mayName = true) : o.Reaches := by
  have either : o.phase.mayName = true ∨ o.job.isSpawned = true := by
    simpa [CallObject.mayName] using may
  rcases either with phase | spawned
  · obtain ⟨found, job, returns⟩ := o
    cases found with
    | notified =>
      have made : (⟨.notified, job, returns⟩ : CallObject).step (.setUserData pjSuccess) =
          some ⟨.incoming, job, returns ++ [.nextCall (.ok ())]⟩ := rfl
      exact .names made rfl (fun same => by cases same)
    | incoming => exact reaches_dropPlan rfl (by decide)
    | setup => exact reaches_dropPlan rfl (by decide)
    | addSink =>
      have refused : (⟨.addSink, job, returns⟩ : CallObject).step (.addPort .sink 0 1) =
          some ⟨.drop [.handle] (.leave (some (.add (.error (.ofStatus 1))))), job, returns⟩ := rfl
      exact .quietly refused rfl (fun same => by cases same)
        (reaches_drop [.handle] _ job returns (Or.inl (by decide)))
    | addStream sinkAdded =>
      have refused : (⟨.addStream sinkAdded, job, returns⟩ : CallObject).step
          (.addPort .stream 0 1) = some ⟨.drop [.port .sink sinkAdded, .handle]
            (.leave (some (.add (.error (.ofStatus 1))))), job, returns⟩ := rfl
      exact .quietly refused rfl (fun same => by cases same)
        (reaches_drop _ _ job returns (Or.inl (by simp)))
    | sendMedia ports =>
      have sent : (⟨.sendMedia ports, job, returns⟩ : CallObject).step
          (.sendMediaData (.ofPorts ports.sink ports.stream)) =
            some ⟨.awaitAnswer ports, .spawned (.acceptIncoming .ok), returns⟩ := if_pos rfl
      exact .quietly sent rfl (fun same => by cases same) (reaches_of_spawned rfl)
    | awaitAnswer ports => exact reaches_dropPlan rfl (by simp)
    | awaitState awaited ports => exact reaches_dropPlan rfl (by simp)
    | inCall ports => exact reaches_dropPlan rfl (by simp)
    | dropping stage rest after =>
      cases stage with
      | checkActive => exact reaches_drop (.handle :: rest) after job returns (Or.inl (by simp))
      | hangup =>
        have hungUp : (⟨.dropping .hangup rest after, job, returns⟩ : CallObject).step
            (.hangupCall pjSuccess) = some ⟨.dropping .freeFields rest after, job, returns⟩ := rfl
        exact .names hungUp rfl (fun same => by cases same)
      | freeFields =>
        have freed : (⟨.dropping .freeFields rest after, job, returns⟩ : CallObject).step
            .freeFields = some ⟨.drop rest after, job, returns⟩ := rfl
        exact .quietly freed rfl (Phase.drop_ne_aborted rest after)
          (reaches_drop rest after job returns (by simpa [Phase.mayName] using phase))
      | removePort kind slot =>
        exact reaches_removePort
          (reaches_drop rest after job returns (by simpa [Phase.mayName] using phase))
      | destroyPort kind slot =>
        exact reaches_destroyPort
          (reaches_drop rest after job returns (by simpa [Phase.mayName] using phase))
    | dropped after =>
      exact reaches_drop [] after job returns (Or.inr (of_decide_eq_true phase))
    | _ => cases phase
  · exact reaches_of_spawned spawned

end CallObject

end PjsipClient
