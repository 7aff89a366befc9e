/-
`PjsuaCallSetup::add` as a transaction on the conference bridge.

A `BridgedCall` is a call with the slots that are taken in the bridge and the log of the application's
operations. The bridge answers as assumed: `pjsua_conf_add_port` gives a slot that was free or fails
without effect, and `pjsua_conf_remove_port` of a slot that is taken succeeds. Whether
`pjmedia_port_destroy` and `pjsua_call_hangup` succeed is left open.

* `BridgedCall.Lends` — the slots taken since the start are those of the ports that the call object
  has still to remove. Kept by every step.
* `BridgedCall.InOrder` — the media data is sent before the answer, and no port is removed before a
  drop. Kept by every move of the call object.
* `add_atomic` — once its locals are dropped, `add` has left the bridge as it was, and a call that was
  active has been hung up; when it returns `Ok`, its two ports are there and were announced.
-/

import PjsipClient.Lib.Lease
import PjsipClient.PjsuaCall.Jobs
import PjsipClient.PjsuaCall.Ports

namespace PjsipClient

open Transport Transition Lease
open scoped List

/-! ### The bridge -/

/-- The port that an operation adds to the bridge. -/
def AppEvent.portAdded : AppEvent → Option MediaPort
  | addPort kind slot status => if status = pjSuccess then some (kind, slot) else none
  | _ => none

/-- The port that an operation removes from the bridge. -/
def AppEvent.portRemoved : AppEvent → Option MediaPort
  | removePort kind slot status => if status = pjSuccess then some (kind, slot) else none
  | _ => none

/-- The slots that are taken in the bridge after an event; `none` if the bridge does not answer so. -/
def confAnswer (slots : Finset Int) : CallEvent → Option (Finset Int)
  | .app (.addPort _ slot status) =>
    if status = pjSuccess then
      if slot ∈ slots then none else some (insert slot slots)
    else some slots
  | .app (.removePort _ slot status) =>
    if slot ∈ slots then
      if status = pjSuccess then some (slots.erase slot) else none
    else some slots
  | _ => some slots

/-- A call, the slots that are taken in the bridge, and what the application has done. -/
structure BridgedCall where
  world : World
  slots : Finset Int
  log : List AppEvent
  deriving DecidableEq

namespace BridgedCall

/-- A call whose notification was just taken out, with any ports in the bridge. -/
def start (callId confPort : Int) (inv : PjsipInvState) (media : CallMediaStatus)
    (outstanding : Bool) (slots : Finset Int) : BridgedCall :=
  ⟨.start callId confPort inv media outstanding, slots, []⟩

def phase (s : BridgedCall) : Phase := s.world.object.phase

def step (s : BridgedCall) (e : CallEvent) : Option BridgedCall :=
  (confAnswer s.slots e).bind fun slots =>
    (s.world.step e).map fun world => ⟨world, slots, s.log ++ e.operation.toList⟩

end BridgedCall

/-- One call with the bridge. -/
def bridgedSystem : System BridgedCall CallEvent := ⟨BridgedCall.step⟩

/-- The drops are done. -/
def Phase.localsDropped : Phase → Bool
  | dropped _ | ended | panicked => true
  | _ => false

namespace BridgedCall

/-- The ports added and the ports removed, in order. -/
def added (s : BridgedCall) : List MediaPort := s.log.filterMap AppEvent.portAdded

def removed (s : BridgedCall) : List MediaPort := s.log.filterMap AppEvent.portRemoved

/-- The handle's drop has hung the call up, or has found that it had ended. -/
def HangUpRequested (s : BridgedCall) : Prop :=
  (∃ status, .hangupCall status ∈ s.log) ∨
    (.checkActive false ∈ s.log ∧ s.world.inv = .disconnected)

/-- Nothing is left of `add`: the bridge is as before, and each port that was added was removed
once. -/
structure RolledBack (before : Finset Int) (s : BridgedCall) : Prop where
  bridge : s.slots = before
  removed : s.removed ~ s.added
  once : s.removed.Nodup
  hungUp : s.HangUpRequested

/-- The media data with the slots of `ports` was sent before an answer was given, and the answer was
accepted. -/
def Announced (ports : AddedPorts) (log : List AppEvent) : Prop :=
  ∃ earlier later, log = earlier ++ .sendMediaData (.ofPorts ports.sink ports.stream) :: later ∧
    (∀ event ∈ earlier, event.answers = []) ∧ .runJob (.acceptIncoming .ok) pjSuccess ∈ later

/-- `add` has returned its `PjsuaCall`: the two ports that were added are in the bridge, next to those
of before. -/
structure Established (before : Finset Int) (s : BridgedCall) (ports : AddedPorts) : Prop where
  phase : s.phase = .inCall ports
  added : s.added ~ ports.mediaPorts
  kept : s.removed = []
  live : s.slots = before ∪ {ports.sink, ports.stream}
  fresh : ports.sink ∉ before ∧ ports.stream ∉ before ∧ ports.sink ≠ ports.stream
  announced : Announced ports s.log

/-- What holds of a call for which `add` was called. -/
structure AddAtomic (before : Finset Int) (s : BridgedCall) : Prop where
  undone : s.phase.localsDropped = true → s.RolledBack before
  done : ∀ {e t}, s.step e = some t →
    t.world.object.returns = s.world.object.returns ++ [.add (.ok ())] →
      ∃ ports, t.Established before ports

end BridgedCall

/-! ### The steps -/

theorem AppEvent.portAdded_success (kind : PortKind) (slot : Int) :
    (AppEvent.addPort kind slot pjSuccess).portAdded = some (kind, slot) := by
  simp [AppEvent.portAdded]

theorem AppEvent.portRemoved_success (kind : PortKind) (slot : Int) :
    (AppEvent.removePort kind slot pjSuccess).portRemoved = some (kind, slot) := by
  simp [AppEvent.portRemoved]

/-- The events that move no port. -/
theorem AppEvent.unmoved {event : AppEvent} (quiet : event.movesPorts = false) :
    event.portAdded = none ∧ event.portRemoved = none := by
  cases event with
  | addPort kind slot status => exact ⟨if_neg (of_decide_eq_false quiet), rfl⟩
  | removePort kind slot status => exact ⟨rfl, if_neg (of_decide_eq_false quiet)⟩
  | _ => exact ⟨rfl, rfl⟩

namespace CallObject

/-- **The ports that are still to be removed stay the same** at a move that adds and removes none, if
the process does not abort. -/
theorem Moves.removes_perm {o t : CallObject} {e : AppEvent} (moved : Moves o e t)
    (quiet : e.movesPorts = false) (present : ∀ kind slot status, e ≠ .removePort kind slot status)
    (going : t.phase ≠ .aborted) : t.phase.removes ~ o.phase.removes := by
  cases moved with
  | addSink was => cases quiet
  | addStream was => cases quiet
  | removePort was => cases quiet
  | removeFailed was failed => exact absurd rfl (present _ _ _)
  | runJob status spawned => exact List.Perm.refl _
  | answerFailed was finished =>
    rw [was]
    exact List.Perm.swap _ _ []
  | drop planned =>
    rw [Phase.removes_drop]
    cases was : o.phase with
    | awaitAnswer ports =>
      rw [was] at planned
      cases planned
      exact List.Perm.swap _ _ []
    | _ =>
      rw [was] at planned
      cases planned <;> exact List.Perm.refl _
  | freeFields was =>
    rw [was, Phase.removes_drop]
    exact List.Perm.refl _
  | destroyPort was =>
    rw [was, Phase.removes_drop]
    exact List.Perm.refl _
  | destroyFailed was failed =>
    show (Phase.panic _ _).removes ~ _
    rw [was, Phase.panic_of_going going, Phase.removes_drop]
    exact List.Perm.refl _
  | hangupFailed was failed =>
    show (Phase.panic _ _).removes ~ _
    rw [was, Phase.panic_of_going going]
    exact List.Perm.refl _
  | checkActive active was =>
    rw [was]
    cases active <;> exact List.Perm.refl _
  | new was =>
    rw [was]
    exact List.Perm.refl _
  | newFailed was failed =>
    rw [was]
    exact List.Perm.refl _
  | _ =>
    rw [‹o.phase = _›]
    exact List.Perm.refl _

end CallObject

namespace World

/-- A call that has ended stays so. -/
theorem ended_step {w v : World} {e : CallEvent} (ended : w.inv = .disconnected)
    (stepped : w.step e = some v) : v.inv = .disconnected := by
  have hung : ∀ {code : ℕ} {status : PjStatus} {next : World}, HungUp w code status next →
      next.inv = .disconnected := by
    intro code status next hungUp
    cases hungUp with
    | silent inv =>
      rcases inv with same | disconnected
      · exact same.trans ended
      · exact disconnected
    | reported accepted active heard reported => exact reported.same.inv
  obtain ⟨_, steps⟩ := steps_of_step stepped
  cases steps with
  | setState idle alive => exact absurd ended alive
  | setMedia => exact ended
  | onCallState due heard between => exact w.callState_reported.same.inv.trans ended
  | onCallMediaState heard between => exact w.mediaState_seen.same.inv.trans ended
  | connect next =>
    rw [connect_eq]
    exact ended
  | app moved effects =>
    cases effects with
    | reject hungUp => exact (hung hungUp :)
    | hangupCall hungUp => exact (hung hungUp :)
    | _ => exact ended

/-- An operation that adds and removes no port. -/
theorem Effects.ports_quiet {w next : World} {event : AppEvent} (effects : Effects w event next)
    (quiet : event.movesPorts = false) : next.ports = w.ports ∧ next.removed = w.removed := by
  cases effects with
  | addPort kind slot status => exact ⟨if_neg (of_decide_eq_false quiet), rfl⟩
  | removePort kind slot => cases quiet
  | reject hungUp => exact hungUp.mediaData.2
  | hangupCall hungUp => exact hungUp.mediaData.2
  | _ => exact ⟨rfl, rfl⟩

theorem Effects.ports_added {w next : World} {kind : PortKind} {slot : Int}
    (effects : Effects w (.addPort kind slot pjSuccess) next) :
    next.ports = w.ports ++ [(kind, slot)] ∧ next.removed = w.removed := by
  cases effects with
  | addPort kind slot status => simp
  | quiet quiet => cases quiet

theorem Effects.ports_removed {w next : World} {kind : PortKind} {slot : Int}
    (effects : Effects w (.removePort kind slot pjSuccess) next) :
    next.ports = w.ports.erase (kind, slot) ∧ next.removed = w.removed ++ [(kind, slot)] := by
  cases effects with
  | removePort kind slot => exact ⟨rfl, rfl⟩
  | removeFailed failed => exact absurd rfl failed
  | quiet quiet => cases quiet

end World

theorem confAnswer_own {slots : Finset Int} {e : CallEvent} (own : e.operation = none) :
    confAnswer slots e = some slots := by
  cases e with
  | app event => cases own
  | _ => rfl

theorem confAnswer_quiet {slots after : Finset Int} {event : AppEvent}
    (quiet : event.movesPorts = false) (answered : confAnswer slots (.app event) = some after) :
    after = slots := by
  cases event with
  | addPort kind slot status =>
    have failed : status ≠ pjSuccess := of_decide_eq_false quiet
    simpa [confAnswer, failed, eq_comm] using answered
  | removePort kind slot status =>
    have failed : status ≠ pjSuccess := of_decide_eq_false quiet
    simp only [confAnswer, failed, ↓reduceIte] at answered
    split at answered
    · cases answered
    · cases answered
      rfl
  | _ =>
    cases answered
    rfl

namespace BridgedCall

variable {before : Finset Int} {s t : BridgedCall} {e : CallEvent}

/-- A step of the call that the bridge answers. -/
theorem step_eq_some : s.step e = some t ↔
    confAnswer s.slots e = some t.slots ∧ s.world.step e = some t.world ∧
      t.log = s.log ++ e.operation.toList := by
  obtain ⟨world, slots, log⟩ := t
  simp only [step, Option.bind_eq_some_iff, Option.map_eq_some_iff, BridgedCall.mk.injEq]
  constructor
  · rintro ⟨_, answered, _, went, rfl, rfl, rfl⟩
    exact ⟨answered, went, rfl⟩
  · rintro ⟨answered, went, rfl⟩
    exact ⟨_, answered, _, went, rfl, rfl, rfl⟩

/-! ### The bridge's ports -/

/-- The slots taken since the start are those of the ports that the call object has still to
remove, and the log agrees. -/
structure Lends (before : Finset Int) (s : BridgedCall) : Prop where
  placed : s.world.Placed
  listed : s.phase ≠ .aborted → s.phase.removes ~ s.world.ports
  lent : Lent before s.slots (s.world.ports.map Prod.snd)
  added : s.added ~ s.world.ports ++ s.world.removed
  removed : s.removed = s.world.removed

theorem added_append {more : List AppEvent} (log : t.log = s.log ++ more) :
    t.added = s.added ++ more.filterMap AppEvent.portAdded := by
  rw [added, log, List.filterMap_append]
  rfl

theorem removed_append {more : List AppEvent} (log : t.log = s.log ++ more) :
    t.removed = s.removed ++ more.filterMap AppEvent.portRemoved := by
  rw [removed, log, List.filterMap_append]
  rfl

/-- Steps that move no port. -/
theorem Lends.same (lends : s.Lends before) (placed : t.world.Placed)
    (listed : t.phase ≠ .aborted → t.phase.removes ~ s.phase.removes) (going : s.phase ≠ .aborted)
    (ports : t.world.ports = s.world.ports) (gone : t.world.removed = s.world.removed)
    (slots : t.slots = s.slots) (sameAdded : t.added = s.added) (sameRemoved : t.removed = s.removed) :
    t.Lends before := by
  refine ⟨placed, ?_, ?_, ?_, ?_⟩
  · intro goes
    rw [ports]
    exact (listed goes).trans (lends.listed going)
  · rw [ports, slots]
    exact lends.lent
  · rw [ports, gone, sameAdded]
    exact lends.added
  · rw [gone, sameRemoved]
    exact lends.removed

/-- A port that is added takes a slot that was free. -/
theorem Lends.addPort {kind : PortKind} {slot : Int} (lends : s.Lends before)
    (going : s.phase ≠ .aborted) (placed : t.world.Placed)
    (removes : t.phase.removes = s.phase.removes ++ [(kind, slot)])
    (ports : t.world.ports = s.world.ports ++ [(kind, slot)])
    (gone : t.world.removed = s.world.removed)
    (answered : confAnswer s.slots (.app (.addPort kind slot pjSuccess)) = some t.slots)
    (log : t.log = s.log ++ [.addPort kind slot pjSuccess]) : t.Lends before := by
  have free : slot ∉ s.slots ∧ t.slots = insert slot s.slots := by
    simp only [confAnswer, ↓reduceIte, Option.ite_none_left_eq_some, Option.some.injEq] at answered
    exact ⟨answered.1, answered.2.symm⟩
  have added : t.added = s.added ++ [(kind, slot)] := by
    rw [added_append log, List.filterMap_cons_some (AppEvent.portAdded_success kind slot)]
    rfl
  refine ⟨placed, fun _ => ?_, ?_, ?_, ?_⟩
  · rw [removes, ports]
    exact (lends.listed going).append_right _
  · rw [free.2, ports, List.map_append]
    exact (lends.lent.acquire free.1).perm (List.perm_append_singleton slot _).symm
  · rw [added, ports, gone]
    calc s.added ++ [(kind, slot)] ~ s.world.ports ++ s.world.removed ++ [(kind, slot)] :=
          lends.added.append_right _
      _ ~ s.world.ports ++ [(kind, slot)] ++ s.world.removed := by
          rw [List.append_assoc, List.append_assoc]
          exact List.perm_append_comm.append_left _
  · rw [removed_append log, gone]
    exact (List.append_nil _).trans lends.removed

/-- A port that is removed gives its slot back. -/
theorem Lends.removePort {kind : PortKind} {slot : Int} (lends : s.Lends before)
    (going : s.phase ≠ .aborted) (placed : t.world.Placed)
    (removes : s.phase.removes = (kind, slot) :: t.phase.removes)
    (ports : t.world.ports = s.world.ports.erase (kind, slot))
    (gone : t.world.removed = s.world.removed ++ [(kind, slot)])
    (answered : confAnswer s.slots (.app (.removePort kind slot pjSuccess)) = some t.slots)
    (log : t.log = s.log ++ [.removePort kind slot pjSuccess]) : t.Lends before := by
  have listed := lends.listed going
  rw [removes] at listed
  have member : (kind, slot) ∈ s.world.ports := listed.subset List.mem_cons_self
  have split : s.world.ports ~ (kind, slot) :: t.world.ports := by
    rw [ports]
    exact List.perm_cons_erase member
  have taken : slot ∈ s.slots := lends.lent.mem_of_held (List.mem_map_of_mem member)
  have slots : t.slots = s.slots.erase slot := by
    simpa [confAnswer, taken, eq_comm] using answered
  have added : t.added = s.added := (added_append log).trans (List.append_nil _)
  have removed : t.removed = s.removed ++ [(kind, slot)] := by
    rw [removed_append log, List.filterMap_cons_some (AppEvent.portRemoved_success kind slot)]
    rfl
  refine ⟨placed, fun _ => (listed.trans split).cons_inv, ?_, ?_, ?_⟩
  · rw [slots]
    exact (lends.lent.perm (split.map Prod.snd)).release
  · rw [added, gone]
    calc s.added ~ s.world.ports ++ s.world.removed := lends.added
      _ ~ t.world.ports ++ [(kind, slot)] ++ s.world.removed :=
          (split.trans (List.perm_append_singleton _ _).symm).append_right _
      _ ~ t.world.ports ++ (s.world.removed ++ [(kind, slot)]) := by
          rw [List.append_assoc]
          exact List.perm_append_comm.append_left _
  · rw [removed, gone, lends.removed]

/-- No removal fails: the port is in the bridge. -/
theorem Lends.removal_succeeds {event : AppEvent} {object : CallObject} {after : Finset Int}
    (lends : s.Lends before) (moved : s.world.object.Moves event object)
    (quiet : event.movesPorts = false) (answered : confAnswer s.slots (.app event) = some after) :
    ∀ kind slot status, event ≠ .removePort kind slot status := by
  rintro kind slot status rfl
  have failed : status ≠ pjSuccess := of_decide_eq_false quiet
  have removing : ∃ rest after, s.phase = .dropping (.removePort kind slot) rest after := by
    cases moved with
    | removePort was => exact ⟨_, _, was⟩
    | removeFailed was failed => exact ⟨_, _, was⟩
  obtain ⟨rest, next, was⟩ := removing
  have listed := lends.listed (by rw [was]; exact fun same => (by cases same))
  rw [was] at listed
  have taken : slot ∈ s.slots :=
    lends.lent.mem_of_held (List.mem_map_of_mem (listed.subset List.mem_cons_self))
  simp [confAnswer, taken, failed] at answered

/-- **One step keeps the bridge's ports accounted for.** -/
theorem Lends.step (lends : s.Lends before) (stepped : s.step e = some t) : t.Lends before := by
  obtain ⟨answered, went, log⟩ := step_eq_some.mp stepped
  have placed := lends.placed.step went
  have going := World.going_of_step went
  obtain ⟨_, steps⟩ := World.steps_of_step went
  obtain ⟨world, slots, _⟩ := t
  rcases steps.pjsua_or_app with
    ⟨object, _, _, ports, gone, own⟩ | ⟨event, object, next, rfl, moved, effects, rfl⟩
  · rw [confAnswer_own own] at answered
    rw [own] at log
    refine lends.same placed (fun _ => ?_) going ports gone (Option.some.inj answered).symm
      ((added_append log).trans (List.append_nil _))
      ((removed_append log).trans (List.append_nil _))
    rw [phase, phase, object]
  · cases moved.ported with
    | added before fresh removes =>
      obtain ⟨ports, gone⟩ := effects.ports_added
      exact lends.addPort going placed removes ports gone answered log
    | removed late removes =>
      obtain ⟨ports, gone⟩ := effects.ports_removed
      exact lends.removePort going placed removes ports gone answered log
    | kept quiet removes early =>
      have present := lends.removal_succeeds moved quiet answered
      obtain ⟨ports, gone⟩ := effects.ports_quiet quiet
      obtain ⟨unadded, unremoved⟩ := AppEvent.unmoved quiet
      refine lends.same placed (fun goes => moved.removes_perm quiet present goes) going ports gone
        (confAnswer_quiet quiet answered) ?_ ?_
      · rw [added_append log]
        simp [CallEvent.operation, unadded]
      · rw [removed_append log]
        simp [CallEvent.operation, unremoved]

end BridgedCall

/-! ### The order of `add` -/

/-- The ports that were announced. -/
def Phase.announced : Phase → Option AddedPorts
  | awaitAnswer ports | awaitState _ ports | inCall ports => some ports
  | _ => none

theorem Phase.isLive_of_announced {phase : Phase} {ports : AddedPorts}
    (announced : phase.announced = some ports) : phase.isLive = true := by
  cases phase <;> first | rfl | cases announced

namespace CallObject

/-- What is live was live. -/
theorem Advances.live {o t : CallObject} {e : AppEvent} (advances : Advances o e t)
    (live : t.phase.isLive = true) : o.phase.isLive = true ∧ e.portRemoved = none := by
  cases advances with
  | runJob status spawned => exact ⟨live, rfl⟩
  | _ => exact ⟨by rw [‹o.phase = _›]; rfl, rfl⟩

/-- The media data was sent before any answer, and the answer job is the only one. -/
def Announces (ports : AddedPorts) (log : List AppEvent) (job : JobState) : Prop :=
  ∃ earlier later, log = earlier ++ .sendMediaData (.ofPorts ports.sink ports.stream) :: later ∧
    (∀ event ∈ earlier, event.answers = []) ∧
    (job = .spawned (.acceptIncoming .ok) ∨
      ∃ status, job = .finished (.acceptIncoming .ok) (getErrorAsResult status) ∧
        .runJob (.acceptIncoming .ok) status ∈ later)

theorem Announces.append {ports : AddedPorts} {log : List AppEvent} {job : JobState}
    (announces : Announces ports log job) (event : AppEvent) :
    Announces ports (log ++ [event]) job := by
  obtain ⟨earlier, later, split, unanswered, jobs⟩ := announces
  refine ⟨earlier, later ++ [event], by rw [split, List.append_assoc, List.cons_append], unanswered,
    jobs.imp_right ?_⟩
  rintro ⟨status, finished, ran⟩
  exact ⟨status, finished, List.mem_append_left _ ran⟩

/-- What the log of an object says. -/
structure InOrder (log : List AppEvent) (o : CallObject) : Prop where
  fits : o.JobFits
  unremoved : o.phase.isLive = true → log.filterMap AppEvent.portRemoved = []
  unanswered : o.phase.beforeMedia = true → ∀ event ∈ log, event.answers = []
  announces : ∀ {ports}, o.phase.announced = some ports → Announces ports log o.job
  unpromised : Return.add (.ok ()) ∉ o.phase.promised

theorem inOrder_fresh : InOrder [] fresh :=
  ⟨jobFits_fresh, fun _ => rfl, fun _ _ member => absurd member List.not_mem_nil,
    fun announced => (by cases announced), List.not_mem_nil⟩

/-- No drop comes before the return of a `PjsuaCall`. -/
theorem Moves.unpromised {o t : CallObject} {e : AppEvent} (moved : Moves o e t)
    (unpromised : Return.add (.ok ()) ∉ o.phase.promised) :
    Return.add (.ok ()) ∉ t.phase.promised := by
  have glue : ∀ {stage : DropStage} {rest : List Owned} {after : After},
      o.phase = .dropping stage rest after →
        Return.add (.ok ()) ∉ (Phase.dropped after).promised := by
    intro stage rest after was
    rwa [was, Phase.promised_dropping] at unpromised
  cases moved with
  | runJob status spawned => exact unpromised
  | drop planned =>
    rw [Phase.promised_drop]
    exact List.not_mem_nil
  | freeFields was =>
    rw [Phase.promised_drop]
    exact glue was
  | destroyPort was =>
    rw [Phase.promised_drop]
    exact glue was
  | checkActive active was =>
    rw [Phase.promised_dropping]
    exact glue was
  | hangupCall was =>
    rw [Phase.promised_dropping]
    exact glue was
  | removePort was =>
    rw [Phase.promised_dropping]
    exact glue was
  | hangupFailed was failed =>
    rw [Phase.promised_panic _ rfl]
    exact List.not_mem_nil
  | removeFailed was failed =>
    rw [Phase.promised_panic _ (Phase.promised_drop _ _)]
    exact List.not_mem_nil
  | destroyFailed was failed =>
    rw [Phase.promised_panic _ (Phase.promised_drop _ _)]
    exact List.not_mem_nil
  | _ => simp [result, Phase.promised, Phase.drop]

/-- **`add` returns `Ok`** with a `PjsuaCall`. -/
theorem Moves.add_returns {o t : CallObject} {e : AppEvent} (moved : Moves o e t)
    (unpromised : Return.add (.ok ()) ∉ o.phase.promised)
    (returned : t.returns = o.returns ++ [.add (.ok ())]) : ∃ ports, t.phase = .inCall ports := by
  cases moved with
  | confirmed was expected => exact ⟨_, rfl⟩
  | left was =>
    rename_i value
    have promised : value.toList = [.add (.ok ())] := List.append_cancel_left returned
    rw [was] at unpromised
    refine absurd ?_ unpromised
    show Return.add (.ok ()) ∈ value.toList
    rw [promised]
    exact List.mem_singleton_self _
  | _ => simp [result] at returned

/-- **One move keeps the order.** -/
theorem Moves.inOrder {o t : CallObject} {e : AppEvent} {log : List AppEvent} (moved : Moves o e t)
    (inOrder : InOrder log o) : InOrder (log ++ [e]) t := by
  refine ⟨moved.jobFits inOrder.fits, ?_, ?_, ?_, moved.unpromised inOrder.unpromised⟩
  · intro live
    obtain ⟨was, unremoved⟩ := (moved.advances live).live live
    simp [inOrder.unremoved was, unremoved]
  · intro before event member
    have was := moved.beforeMedia before
    rcases List.mem_append.mp member with old | new
    · exact inOrder.unanswered was event old
    · rw [List.mem_singleton.mp new]
      have idle := inOrder.fits.unspawned was
      cases moved with
      | runJob status spawned => cases idle.symm.trans spawned
      | _ => rfl
  · intro ports announced
    cases moved.advances (Phase.isLive_of_announced announced) with
    | sendMediaData was =>
      cases announced
      exact ⟨log, [], rfl, inOrder.unanswered (by rw [was]; rfl), Or.inl rfl⟩
    | runJob status spawned =>
      obtain ⟨earlier, later, split, unanswered, jobs⟩ := inOrder.announces announced
      rcases jobs with accepting | ⟨_, finished, _⟩
      · cases accepting.symm.trans spawned
        exact ⟨earlier, later ++ [.runJob (.acceptIncoming .ok) status],
          by rw [split, List.append_assoc, List.cons_append], unanswered,
          Or.inr ⟨status, rfl, List.mem_append_right _ (List.mem_singleton_self _)⟩⟩
      · cases finished.symm.trans spawned
    | answered was finished =>
      exact (inOrder.announces (by rw [was]; exact announced)).append _
    | connecting was expected =>
      exact (inOrder.announces (by rw [was]; exact announced)).append _
    | confirmed was expected =>
      exact (inOrder.announces (by rw [was]; exact announced)).append _
    | awaitHangup was =>
      exact (inOrder.announces (by rw [was]; exact announced)).append _
    | _ => cases announced

end CallObject

/-! ### The hang-up -/

/-- The drop of the handle has still to look whether the call is active. -/
def Phase.checksCall : Phase → Bool
  | dropping stage rest _ => decide (stage = .checkActive ∨ stage = .hangup ∨ .handle ∈ rest)
  | notified | dropped _ | awaitReject | ended | panicked | aborted => false
  | _ => true

theorem Phase.checksCall_drop (plan : List Owned) (after : After) :
    (Phase.drop plan after).checksCall = decide (.handle ∈ plan) := by
  cases plan with
  | nil => rfl
  | cons owned rest => cases owned <;> simp [drop, checksCall, Owned.start]

namespace CallObject

/-- **The handle looks**, and hangs up what is active, before its drop is over. -/
theorem Moves.checksCall {o t : CallObject} {e : AppEvent} (moved : Moves o e t)
    (checks : o.phase.checksCall = true) (done : t.phase.checksCall = false)
    (going : t.phase ≠ .aborted) : e = .checkActive false ∨ ∃ status, e = .hangupCall status := by
  have same : t.phase.checksCall = o.phase.checksCall → e = .checkActive false ∨
      ∃ status, e = .hangupCall status := fun equal => by
    cases (done.symm.trans equal).trans checks
  cases moved with
  | hangupCall was => exact Or.inr ⟨_, rfl⟩
  | hangupFailed was failed => exact Or.inr ⟨_, rfl⟩
  | checkActive active was =>
    cases active with
    | true => cases done
    | false => exact Or.inl rfl
  | runJob status spawned => exact same rfl
  | freeFields was =>
    refine same ?_
    rw [was, Phase.checksCall_drop]
    simp [Phase.checksCall]
  | destroyPort was =>
    refine same ?_
    rw [was, Phase.checksCall_drop]
    simp [Phase.checksCall]
  | removePort was =>
    refine same ?_
    rw [was]
    simp [Phase.checksCall]
  | removeFailed was failed =>
    refine same ?_
    show (Phase.panic _ _).checksCall = _
    rw [was, Phase.panic_of_going going, Phase.checksCall_drop]
    simp [Phase.checksCall]
  | destroyFailed was failed =>
    refine same ?_
    show (Phase.panic _ _).checksCall = _
    rw [was, Phase.panic_of_going going, Phase.checksCall_drop]
    simp [Phase.checksCall]
  | drop planned =>
    refine same ?_
    rw [Phase.checksCall_drop, checks]
    cases was : o.phase <;> rw [was] at planned checks <;> cases planned <;> cases checks <;> simp
  | newFailed was failed =>
    rw [was] at checks
    cases checks
  | rejected was finished =>
    rw [was] at checks
    cases checks
  | left was =>
    rw [was] at checks
    cases checks
  | rejecting was =>
    rw [was] at checks
    cases checks
  | unwound was =>
    rw [was] at checks
    cases checks
  | _ => cases done

end CallObject

namespace BridgedCall

variable {before : Finset Int} {s t : BridgedCall} {e : CallEvent}

/-- The step of the call object. -/
theorem moves_of_step (stepped : s.step e = some t) :
    (e.operation = none ∧ t.world.object = s.world.object ∧ t.log = s.log) ∨
      ∃ event, e = .app event ∧ s.world.object.Moves event t.world.object ∧
        t.log = s.log ++ [event] := by
  obtain ⟨_, went, log⟩ := step_eq_some.mp stepped
  obtain ⟨_, steps⟩ := World.steps_of_step went
  obtain ⟨world, slots, _⟩ := t
  rcases steps.pjsua_or_app with
    ⟨object, _, _, _, _, own⟩ | ⟨event, object, next, rfl, moved, effects, rfl⟩
  · refine Or.inl ⟨own, object, ?_⟩
    rw [own] at log
    exact log.trans (List.append_nil _)
  · exact Or.inr ⟨event, rfl, moved, log⟩

theorem inOrder_step (inOrder : s.world.object.InOrder s.log) (stepped : s.step e = some t) :
    t.world.object.InOrder t.log := by
  rcases moves_of_step stepped with ⟨_, same, log⟩ | ⟨event, _, moved, log⟩
  · rw [same, log]
    exact inOrder
  · rw [log]
    exact moved.inOrder inOrder

/-- A call whose handle has looked is hung up, or has ended. -/
def Asked (s : BridgedCall) : Prop :=
  s.phase ≠ .aborted → s.phase.checksCall = false → s.HangUpRequested

theorem HangUpRequested.step (requested : s.HangUpRequested) (stepped : s.step e = some t) :
    t.HangUpRequested := by
  obtain ⟨_, went, log⟩ := step_eq_some.mp stepped
  rcases requested with ⟨status, known⟩ | ⟨known, ended⟩
  · exact Or.inl ⟨status, log ▸ List.mem_append_left _ known⟩
  · exact Or.inr ⟨log ▸ List.mem_append_left _ known, World.ended_step ended went⟩

/-- **The handle asks for the hang-up** in the step after which it looks no more. -/
theorem Asked.step (asked : s.Asked) (stepped : s.step e = some t) : t.Asked := by
  intro going done
  obtain ⟨_, went, _⟩ := step_eq_some.mp stepped
  cases checks : s.phase.checksCall with
  | false => exact (asked (World.going_of_step went) checks).step stepped
  | true =>
    rcases moves_of_step stepped with ⟨_, same, _⟩ | ⟨event, rfl, moved, log⟩
    · have still : t.phase = s.phase := congrArg CallObject.phase same
      rw [still, checks] at done
      cases done
    · have logged : event ∈ t.log := by
        rw [log]
        exact List.mem_append_right _ (List.mem_singleton_self _)
      rcases moved.checksCall checks done going with rfl | ⟨status, rfl⟩
      · refine Or.inr ⟨logged, ?_⟩
        obtain ⟨_, steps⟩ := World.steps_of_step went
        obtain ⟨world, _, _⟩ := t
        cases steps with
        | app moved effects =>
          cases effects with
          | checkActive answered => simpa using answered
          | quiet quiet => cases quiet
      · exact Or.inl ⟨status, logged⟩

theorem asked_of_add (stepped : s.step (.app .add) = some t) : t.Asked := by
  rcases moves_of_step stepped with ⟨own, _⟩ | ⟨event, same, moved, _⟩
  · cases own
  · cases same
    intro going done
    have started : t.phase.checksCall = true := by
      unfold phase
      generalize t.world.object = object at moved
      cases moved with
      | add was => rfl
    cases done.symm.trans started

/-! ### The transaction -/

/-- **Nothing is left** once the locals are dropped. -/
theorem Lends.rolledBack (lends : s.Lends before) (asked : s.Asked)
    (dropped : s.phase.localsDropped = true) : s.RolledBack before := by
  have after : s.phase ≠ .aborted ∧ s.phase.checksCall = false ∧ s.phase.removes = [] := by
    cases phase : s.phase <;> rw [phase] at dropped <;> cases dropped <;>
      simp [Phase.checksCall, Phase.removes]
  obtain ⟨going, looked, removes⟩ := after
  have none : s.world.ports = [] := by
    have listed := lends.listed going
    rw [removes] at listed
    exact List.nil_perm.mp listed
  have lent := lends.lent
  have added := lends.added
  have once := lends.placed.once
  rw [none] at lent added once
  refine ⟨lent.returned, ?_, ?_, asked going looked⟩
  · rw [lends.removed]
    exact added.symm
  · rw [lends.removed]
    exact once

/-- **A `PjsuaCall` has its two ports**, and has announced them. -/
theorem Lends.established (lends : s.Lends before) (inOrder : s.world.object.InOrder s.log)
    {ports : AddedPorts} (established : s.phase = .inCall ports) : s.Established before ports := by
  have removed : s.removed = [] := inOrder.unremoved (by
    show s.phase.isLive = true
    rw [established]
    rfl)
  have listed : ports.mediaPorts ~ s.world.ports := by
    have listed := lends.listed (by rw [established]; exact fun same => (by cases same))
    rwa [established] at listed
  have lent : Lent before s.slots [ports.sink, ports.stream] :=
    lends.lent.perm (listed.symm.map Prod.snd)
  refine ⟨established, ?_, removed, ?_, ?_, ?_⟩
  · have added := lends.added
    rw [← lends.removed, removed, List.append_nil] at added
    exact added.trans listed.symm
  · ext slot
    rw [lent.mem_iff slot, Finset.mem_union, Finset.mem_insert, Finset.mem_singleton, List.mem_cons,
      List.mem_singleton]
  · have once := lent.once
    exact ⟨lent.fresh _ List.mem_cons_self, lent.fresh _ (List.mem_cons_of_mem _ List.mem_cons_self),
      by simpa using once⟩
  · obtain ⟨earlier, later, split, unanswered, jobs⟩ := @inOrder.announces ports (by
      show s.phase.announced = _
      rw [established]
      rfl)
    obtain ⟨code, finished⟩ := inOrder.fits.answered (by
      show s.phase.isAnswered = true
      rw [established]
      rfl)
    refine ⟨earlier, later, split, unanswered, ?_⟩
    rcases jobs with spawned | ⟨status, given, ran⟩
    · cases spawned.symm.trans finished
    · rw [given] at finished
      rcases getErrorAsResult_cases status with ⟨rfl, _⟩ | ⟨_, failed⟩
      · exact ran
      · rw [failed] at finished
        cases finished

theorem lends_start (callId confPort : Int) (inv : PjsipInvState) (media : CallMediaStatus)
    (outstanding : Bool) (slots : Finset Int) :
    (start callId confPort inv media outstanding slots).Lends slots :=
  ⟨World.placed_start callId confPort inv media outstanding, fun _ => List.Perm.refl _, .start slots,
    List.Perm.refl _, rfl⟩

end BridgedCall

/-- **`add` is atomic**: once its locals are dropped, after an error or by cancellation at any await,
the bridge is as before and the call was hung up if it was active; and a `PjsuaCall` that it returns
has its two ports, whose slots were sent before the answer. -/
theorem add_atomic (callId confPort : Int) (inv : PjsipInvState) (media : CallMediaStatus)
    (outstanding : Bool) (slots : Finset Int) {es : List CallEvent} {s : BridgedCall}
    (ran : bridgedSystem.run (.start callId confPort inv media outstanding slots) es = some s)
    (called : .app .add ∈ es) : s.AddAtomic slots := by
  have lends : s.Lends slots :=
    bridgedSystem.run_keeps (fun _ _ _ before stepped => before.step stepped)
      (BridgedCall.lends_start callId confPort inv media outstanding slots) ran
  have inOrder : s.world.object.InOrder s.log :=
    bridgedSystem.run_keeps (fun _ _ _ before stepped => BridgedCall.inOrder_step before stepped)
      CallObject.inOrder_fresh ran
  have asked : s.Asked := by
    refine bridgedSystem.run_establishes (fun _ => True) (fun _ _ _ _ _ => trivial) ?_ ?_ trivial
      ran called
    · exact fun before after _ stepped => BridgedCall.asked_of_add stepped
    · exact fun before event after asked stepped => asked.step stepped
  refine ⟨lends.rolledBack asked, ?_⟩
  intro e t stepped returned
  have added : ∃ ports, t.phase = .inCall ports := by
    rcases BridgedCall.moves_of_step stepped with ⟨_, same, _⟩ | ⟨event, _, moved, _⟩
    · rw [same] at returned
      simp at returned
    · exact moved.add_returns inOrder.unpromised returned
  obtain ⟨ports, phase⟩ := added
  exact ⟨ports, (lends.step stepped).established (BridgedCall.inOrder_step inOrder stepped) phase⟩

/-- The stream port is refused: the sink port is removed again, and the call is hung up. -/
def streamRefused : List CallEvent :=
  [.app (.setUserData pjSuccess), .app .answerSessionProgress, .app .add,
    .app (.addPort .sink 5 pjSuccess), .app (.addPort .stream 0 70004),
    .app (.removePort .sink 5 pjSuccess), .app (.destroyPort .sink 5 pjSuccess),
    .app (.checkActive true), .app (.hangupCall pjSuccess), .app .freeFields, .app .finish]

theorem add_atomic_refused :
    ∃ s, bridgedSystem.run (.start 0 3 .incoming .none false {0}) streamRefused = some s ∧
      s.AddAtomic {0} := by
  refine ⟨_, rfl, ?_⟩
  exact add_atomic 0 3 .incoming .none false {0}
    (show bridgedSystem.run (.start 0 3 .incoming .none false {0}) streamRefused = some _ from rfl)
    (by decide)

end PjsipClient
