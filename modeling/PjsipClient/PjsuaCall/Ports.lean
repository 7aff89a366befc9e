/-
Where the ports of a call are: added and not yet removed, or removed.

* `CallObject.Moves.ported` — a move adds one port, removes one port, or leaves the ports that the
  drops have still to remove as they are, up to what a failure leaves behind.
* `World.Placed` — the media data names the ports of the call, and no port is added twice or comes
  back. Kept by every step.
-/

import Mathlib.Data.List.Nodup
import Mathlib.Data.List.Perm.Subperm
import PjsipClient.PjsuaCall.World

namespace PjsipClient

open Transport Transition
open scoped List

/-! ### The ports that are still to be removed -/

def DropStage.removes : DropStage → List MediaPort
  | removePort kind slot => [(kind, slot)]
  | _ => []

def Owned.removes : Owned → List MediaPort
  | handle => []
  | port kind slot => [(kind, slot)]

def AddedPorts.mediaPorts (ports : AddedPorts) : List MediaPort :=
  [(.sink, ports.sink), (.stream, ports.stream)]

/-- The ports that are removed when what the phase holds is dropped. -/
def Phase.removes : Phase → List MediaPort
  | addStream sinkAdded => [(.sink, sinkAdded)]
  | sendMedia ports | awaitAnswer ports | awaitState _ ports | inCall ports => ports.mediaPorts
  | dropping stage rest _ => stage.removes ++ rest.flatMap Owned.removes
  | _ => []

theorem Phase.removes_drop (plan : List Owned) (after : After) :
    (Phase.drop plan after).removes = plan.flatMap Owned.removes := by
  cases plan with
  | nil => rfl
  | cons owned rest => cases owned <;> rfl

theorem Phase.removes_panic {resume : After → Phase} {ports : List MediaPort} (after : After)
    (unwinds : (resume .unwind).removes = ports) : (Phase.panic resume after).removes <+~ ports :=
  Phase.panic_of (·.removes <+~ ports) after (unwinds ▸ List.Subperm.refl _)
    (List.nil_subperm)

/-- The events at which a port is added or removed. -/
def AppEvent.movesPorts : AppEvent → Bool
  | addPort _ _ status | removePort _ _ status => decide (status = pjSuccess)
  | _ => false

namespace CallObject

/-- How a move changes the ports that are still to be removed. -/
inductive Ported (o t : CallObject) : AppEvent → Prop
  | added {kind : PortKind} {slot : Int} (before : o.phase.beforeMedia = true)
      (fresh : ∀ port ∈ o.phase.removes, port.1 ≠ kind)
      (removes : t.phase.removes = o.phase.removes ++ [(kind, slot)]) :
      Ported o t (.addPort kind slot pjSuccess)
  | removed {kind : PortKind} {slot : Int} (late : t.phase.beforeMedia = false)
      (removes : o.phase.removes = (kind, slot) :: t.phase.removes) :
      Ported o t (.removePort kind slot pjSuccess)
  | kept {e : AppEvent} (quiet : e.movesPorts = false)
      (removes : t.phase.removes <+~ o.phase.removes)
      (early : t.phase.beforeMedia = true → t.phase.removes = o.phase.removes) : Ported o t e

/-- A move into drop glue, that loses ports at most. -/
theorem ported_late {o t : CallObject} {e : AppEvent} {ports : List MediaPort}
    (quiet : e.movesPorts = false) (late : t.phase.isLive = false)
    (removes : t.phase.removes <+~ ports) (was : o.phase.removes = ports) : Ported o t e :=
  .kept quiet (was ▸ removes) fun before => by
    cases late.symm.trans (Phase.isLive_of_beforeMedia before)

/-- A move between phases that have the same ports. -/
theorem ported_same {o t : CallObject} {e : AppEvent} (quiet : e.movesPorts = false)
    (same : t.phase.removes = o.phase.removes) : Ported o t e :=
  .kept quiet (same ▸ List.Subperm.refl _) fun _ => same

/-- Dropping an object removes the ports that it has, in some order. -/
theorem removes_dropPlan {phase : Phase} {plan : List Owned}
    (planned : phase.dropPlan = some plan) : plan.flatMap Owned.removes <+~ phase.removes := by
  cases phase with
  | awaitAnswer ports =>
    cases planned
    exact (List.Perm.swap _ _ []).subperm
  | _ =>
    cases planned <;> exact List.Subperm.refl _

/-- **The ports of a move.** -/
theorem Moves.ported {o t : CallObject} {e : AppEvent} (moved : Moves o e t) : Ported o t e := by
  cases moved with
  | addSink was =>
    refine .added (by rw [was]; rfl) ?_ (by rw [was]; rfl)
    rw [was]
    exact fun _ known => by cases known
  | addStream was =>
    refine .added (by rw [was]; rfl) ?_ (by rw [was]; rfl)
    rw [was]
    intro port known
    rw [List.mem_singleton.mp known]
    exact fun same => by cases same
  | removePort was => exact .removed rfl (by rw [was]; rfl)
  | runJob status spawned => exact ported_same rfl rfl
  | addSinkFailed was failed =>
    exact ported_late (decide_eq_false failed) rfl (List.Subperm.refl _) (by rw [was]; rfl)
  | addStreamFailed was failed =>
    exact ported_late (decide_eq_false failed) rfl (List.Subperm.refl _) (by rw [was]; rfl)
  | answerFailed was finished =>
    exact ported_late rfl rfl (List.Perm.swap _ _ []).subperm (congrArg Phase.removes was)
  | drop planned =>
    refine ported_late rfl (Phase.isLive_drop _ _) ?_ rfl
    rw [Phase.removes_drop]
    exact removes_dropPlan planned
  | freeFields was =>
    refine ported_late rfl (Phase.isLive_drop _ _) ?_ (congrArg Phase.removes was)
    rw [Phase.removes_drop]
    exact List.Subperm.refl _
  | destroyPort was =>
    refine ported_late rfl (Phase.isLive_drop _ _) ?_ (congrArg Phase.removes was)
    rw [Phase.removes_drop]
    exact List.Subperm.refl _
  | checkActive active was =>
    rename_i rest after
    refine ported_late rfl rfl (List.Subperm.refl _) ?_
    rw [was]
    cases active <;> rfl
  | hangupFailed was failed =>
    exact ported_late rfl (Phase.isLive_panic _ rfl) (Phase.removes_panic _ rfl)
      (by rw [was]; rfl)
  | removeFailed was failed =>
    refine ported_late (decide_eq_false failed)
      (Phase.isLive_panic _ (Phase.isLive_drop _ _)) ?_ rfl
    rw [was]
    exact (Phase.removes_panic _ (Phase.removes_drop _ _)).trans
      (List.sublist_append_right _ _).subperm
  | destroyFailed was failed =>
    refine ported_late rfl (Phase.isLive_panic _ (Phase.isLive_drop _ _)) ?_ rfl
    rw [was]
    exact Phase.removes_panic _ (Phase.removes_drop _ _)
  | new was => exact ported_same rfl (by rw [was]; rfl)
  | newFailed was failed => exact ported_same rfl (by rw [was]; rfl)
  | _ => exact ported_same rfl (by rw [‹o.phase = _›]; rfl)

end CallObject

/-! ### Where the ports are -/

/-- The media data that waits in the user data. -/
def StateChangedUserData.mediaData (userData : StateChangedUserData) : Option CallMediaData :=
  match userData.callMediaDataRx with
  | some (.sent data) => some data
  | _ => none

def UserDataPointer.mediaData : UserDataPointer → Option CallMediaData
  | live userData => userData.mediaData
  | _ => none

theorem UserDataPointer.mediaData_sent {userData : StateChangedUserData} {data : CallMediaData}
    (sent : userData.callMediaDataRx = some (.sent data)) :
    (live userData).mediaData = some data := by
  show userData.mediaData = some data
  unfold StateChangedUserData.mediaData
  rw [sent]

namespace World

theorem Reported.mediaData {w v : World} (reported : Reported w v) :
    v.userData.mediaData = w.userData.mediaData := by
  cases reported with
  | sent found accepted =>
    rw [found]
    rfl
  | _ => rfl

theorem HungUp.mediaData {w v : World} {code : ℕ} {status : PjStatus}
    (hungUp : HungUp w code status v) :
    v.userData.mediaData = w.userData.mediaData ∧ v.ports = w.ports ∧ v.removed = w.removed := by
  cases hungUp with
  | silent ended => exact ⟨rfl, rfl, rfl⟩
  | reported accepted active heard reported =>
    exact ⟨reported.mediaData, reported.same.ports, reported.same.removed⟩

/-- A media callback takes the media data out or leaves it. -/
theorem MediaSeen.mediaData {w v : World} (seen : MediaSeen w v) :
    v.userData.mediaData = w.userData.mediaData ∨ v.userData.mediaData = none := by
  cases seen with
  | noPort hookup found sent invalid => exact Or.inr rfl
  | received hookup found sent valid => exact Or.inr rfl
  | _ => exact Or.inl rfl

/-- The ports of the call are those that were added and not removed, each once, and the media data
names all that were ever added. -/
structure Placed (w : World) : Prop where
  early : w.object.phase.beforeMedia = true →
    w.ports = w.object.phase.removes ∧ w.removed = [] ∧ w.userData.mediaData = none
  listed : w.object.phase.removes <+~ w.ports
  once : (w.ports ++ w.removed).Nodup
  named : ∀ {data}, w.userData.mediaData = some data → w.ports ++ w.removed ~ data.mediaPorts

/-- Steps that move no port. -/
theorem Placed.same {w v : World} (placed : w.Placed)
    (late : v.object.phase.removes <+~ w.object.phase.removes)
    (early : v.object.phase.beforeMedia = true → w.object.phase.beforeMedia = true ∧
      v.object.phase.removes = w.object.phase.removes)
    (data : v.userData.mediaData = w.userData.mediaData ∨ v.userData.mediaData = none)
    (ports : v.ports = w.ports) (removed : v.removed = w.removed) : v.Placed := by
  refine ⟨?_, ?_, ?_, ?_⟩
  · intro before
    obtain ⟨was, same⟩ := early before
    obtain ⟨there, none, unsent⟩ := placed.early was
    refine ⟨?_, removed.trans none, ?_⟩
    · rw [ports, same]
      exact there
    · rcases data with kept | gone
      · exact kept.trans unsent
      · exact gone
  · rw [ports]
    exact late.trans placed.listed
  · rw [ports, removed]
    exact placed.once
  · intro found waiting
    rw [ports, removed]
    rcases data with kept | gone
    · exact placed.named (kept ▸ waiting)
    · cases gone.symm.trans waiting

/-- pjsua's own steps. -/
theorem Placed.pjsua {w v : World} (placed : w.Placed) (object : v.object = w.object)
    (data : v.userData.mediaData = w.userData.mediaData ∨ v.userData.mediaData = none)
    (ports : v.ports = w.ports) (removed : v.removed = w.removed) : v.Placed := by
  refine placed.same (object ▸ List.Subperm.refl _) ?_ data ports removed
  rw [object]
  exact fun before => ⟨before, rfl⟩

/-- What the application's operations leave of the ports and of the media data. -/
theorem Effects.unmoved {w next : World} {event : AppEvent} (effects : Effects w event next)
    (quiet : event.movesPorts = false) (unsent : ∀ data, event ≠ .sendMediaData data) :
    next.ports = w.ports ∧ next.removed = w.removed ∧
      (next.userData.mediaData = w.userData.mediaData ∨ next.userData.mediaData = none) := by
  cases effects with
  | setUserData status =>
    refine ⟨rfl, rfl, ?_⟩
    show UserDataPointer.mediaData (if _ then _ else _) = _ ∨
      UserDataPointer.mediaData (if _ then _ else _) = _
    split
    · exact Or.inr rfl
    · exact Or.inl rfl
  | addPort kind slot status => exact ⟨if_neg (of_decide_eq_false quiet), rfl, Or.inl rfl⟩
  | sendMediaData found => exact absurd rfl (unsent _)
  | answer code status => exact ⟨rfl, rfl, Or.inl rfl⟩
  | reject hungUp =>
    obtain ⟨data, ports, removed⟩ := hungUp.mediaData
    exact ⟨ports, removed, Or.inl data⟩
  | recvState found received =>
    refine ⟨rfl, rfl, Or.inl ?_⟩
    rw [found]
    rfl
  | checkActive answered => exact ⟨rfl, rfl, Or.inl rfl⟩
  | hangupCall hungUp =>
    obtain ⟨data, ports, removed⟩ := hungUp.mediaData
    exact ⟨ports, removed, Or.inl data⟩
  | freeFields => exact ⟨rfl, rfl, Or.inr rfl⟩
  | removePort kind slot => cases quiet
  | removeFailed failed => exact ⟨rfl, rfl, Or.inl rfl⟩
  | quiet quiet => exact ⟨rfl, rfl, Or.inl rfl⟩

theorem Placed.app {w next : World} {event : AppEvent} {object : CallObject} (placed : w.Placed)
    (moved : w.object.Moves event object) (effects : Effects w event next) :
    Placed { next with object := object } := by
  have ported := moved.ported
  cases ported with
  | added before fresh removes =>
    rename_i kind slot
    obtain ⟨there, none, unsent⟩ := placed.early before
    cases effects with
    | addPort kind slot status =>
      have grown : (if pjSuccess = pjSuccess then w.ports ++ [(kind, slot)] else w.ports) =
          object.phase.removes := by
        rw [if_pos rfl, there, removes]
      refine ⟨fun _ => ⟨grown, none, unsent⟩, grown ▸ List.Subperm.refl _, ?_, ?_⟩
      · show (_ ++ w.removed).Nodup
        rw [none, List.append_nil, if_pos rfl]
        have once := placed.once
        rw [none, List.append_nil] at once
        refine List.Nodup.append once (List.nodup_singleton _) ?_
        intro port known new
        rw [there] at known
        rw [List.mem_singleton.mp new] at known
        exact fresh _ known rfl
      · intro data waiting
        cases unsent.symm.trans waiting
    | quiet quiet => cases quiet
  | removed late removes =>
    rename_i kind slot
    cases effects with
    | removePort kind slot =>
      have member : (kind, slot) ∈ w.ports := by
        refine placed.listed.subset ?_
        rw [removes]
        exact List.mem_cons_self
      have moves : w.ports.erase (kind, slot) ++ (w.removed ++ [(kind, slot)]) ~
          w.ports ++ w.removed := by
        rw [← List.append_assoc]
        exact (List.perm_append_singleton _ _).trans
          ((List.perm_cons_erase member).symm.append_right w.removed)
      refine ⟨?_, ?_, ?_, ?_⟩
      · intro before
        cases late.symm.trans before
      · have shorter := placed.listed.erase (kind, slot)
        rw [removes, List.erase_cons_head] at shorter
        exact shorter
      · exact moves.nodup_iff.mpr placed.once
      · intro data waiting
        exact moves.trans (placed.named waiting)
    | removeFailed failed => exact absurd rfl failed
    | quiet quiet => cases quiet
  | kept quiet removes early =>
    by_cases sending : ∃ data, event = .sendMediaData data
    · obtain ⟨data, rfl⟩ := sending
      cases moved with
      | sendMediaData was =>
        obtain ⟨there, none, _⟩ := placed.early (by rw [was]; rfl)
        cases effects with
        | sendMediaData found =>
          refine ⟨fun before => (by cases before), removes.trans placed.listed, placed.once, ?_⟩
          intro data waiting
          cases waiting
          show w.ports ++ w.removed ~ _
          rw [there, none, was]
          exact List.Perm.refl _
        | quiet quiet => cases quiet
    · obtain ⟨ports, removed, data⟩ :=
        effects.unmoved quiet fun data same => sending ⟨data, same⟩
      exact placed.same removes (fun before => ⟨moved.beforeMedia before, early before⟩) data ports
        removed

/-- **One step keeps the ports where they belong.** -/
theorem Placed.step {w v : World} {e : CallEvent} (placed : w.Placed) (stepped : w.step e = some v) :
    v.Placed := by
  obtain ⟨_, steps⟩ := steps_of_step stepped
  cases steps with
  | setState idle alive => exact placed.pjsua rfl (Or.inl rfl) rfl rfl
  | setMedia => exact placed.pjsua rfl (Or.inl rfl) rfl rfl
  | onCallState due heard between =>
    have same := w.callState_reported.same
    exact placed.pjsua same.object (Or.inl w.callState_reported.mediaData) same.ports same.removed
  | onCallMediaState heard between =>
    have same := w.mediaState_seen.same
    exact placed.pjsua same.object w.mediaState_seen.mediaData same.ports same.removed
  | connect next =>
    rw [connect_eq]
    exact placed.pjsua rfl (Or.inl rfl) rfl rfl
  | app moved effects => exact placed.app moved effects

theorem placed_start (callId confPort : Int) (inv : PjsipInvState) (media : CallMediaStatus)
    (outstanding : Bool) : (start callId confPort inv media outstanding).Placed :=
  ⟨fun _ => ⟨rfl, rfl, rfl⟩, List.Subperm.refl _, List.nodup_nil, fun waiting => (by cases waiting)⟩

end World

end PjsipClient
