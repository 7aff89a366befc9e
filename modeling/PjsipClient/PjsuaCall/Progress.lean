/-
How much a call still does.

Each operation of a call object uses up one of the operations that its phase and its job leave, so
the application's side of a call always comes to an end.

* `operations_greatest` — a call object performs up to twenty operations.
* `pool_operations_le` — all call objects together perform at most twenty for each `next_call`.
-/

import Mathlib.Algebra.Order.Field.Basic
import Mathlib.Order.Bounds.Defs
import Mathlib.Algebra.BigOperators.Group.List.Basic
import PjsipClient.Lib.Ranking
import PjsipClient.PjsuaCall.World
import PjsipClient.PjsuaCall.Identity

namespace PjsipClient

open Transport Transition

/-! ### The operations that are left -/

/-- The operations in which a value is dropped, at most. -/
def Owned.operations : Owned → ℕ
  | handle => 3
  | port _ _ => 2

def DropStage.operationsLeft : DropStage → ℕ
  | checkActive => 3
  | hangup | removePort _ _ => 2
  | freeFields | destroyPort _ _ => 1

/-- After its drops `reject` still spawns, runs and awaits its job, or is dropped while it does. -/
def After.operationsLeft : After → ℕ
  | spawnReject => 4
  | _ => 1

def Phase.operationsLeft : Phase → ℕ
  | notified => 20
  | incoming => 19
  | setup => 18
  | addSink => 17
  | addStream _ => 16
  | sendMedia _ => 15
  | awaitAnswer _ => 13
  | awaitState .connecting _ => 12
  | awaitState .confirmed _ => 11
  | inCall _ => 10
  | awaitState .disconnected _ => 9
  | awaitReject => 2
  | dropping stage rest after =>
    stage.operationsLeft + (rest.map Owned.operations).sum + after.operationsLeft
  | dropped after => after.operationsLeft
  | ended | panicked | aborted => 0

def JobState.operationsLeft : JobState → ℕ
  | spawned _ => 1
  | _ => 0

def CallObject.operationsLeft (o : CallObject) : ℕ :=
  o.phase.operationsLeft + o.job.operationsLeft

theorem Owned.operationsLeft_start (owned : Owned) :
    owned.start.operationsLeft = owned.operations := by
  cases owned <;> rfl

theorem After.operationsLeft_pos (after : After) : 1 ≤ after.operationsLeft := by
  cases after with
  | spawnReject => decide
  | _ => exact Nat.le_refl 1

theorem DropStage.operationsLeft_pos (stage : DropStage) : 1 ≤ stage.operationsLeft := by
  cases stage with
  | checkActive => decide
  | hangup => decide
  | removePort kind slot => exact Nat.le_succ 1
  | _ => exact Nat.le_refl 1

theorem Phase.operationsLeft_drop (plan : List Owned) (after : After) :
    (Phase.drop plan after).operationsLeft =
      (plan.map Owned.operations).sum + after.operationsLeft := by
  cases plan with
  | nil => exact (Nat.zero_add _).symm
  | cons owned rest =>
    show owned.start.operationsLeft + _ + _ = _
    rw [owned.operationsLeft_start, List.map_cons, List.sum_cons]

theorem Phase.operationsLeft_panic {resume : After → Phase} {n : ℕ} (after : After)
    (unwinds : (resume .unwind).operationsLeft ≤ n) :
    (Phase.panic resume after).operationsLeft ≤ n :=
  Phase.panic_of (·.operationsLeft ≤ n) after unwinds (Nat.zero_le n)

/-- A drop has operations to spare for the object it starts from. -/
theorem Phase.operationsLeft_dropPlan {phase : Phase} {plan : List Owned}
    (planned : phase.dropPlan = some plan) :
    (Phase.drop plan (.leave none)).operationsLeft < phase.operationsLeft := by
  rw [operationsLeft_drop]
  cases phase with
  | awaitState awaited ports =>
    cases planned
    cases awaited <;> simp [operationsLeft, Owned.operations, After.operationsLeft]
  | _ => cases planned <;> simp [operationsLeft, Owned.operations, After.operationsLeft]

namespace CallObject

/-- Drop glue that goes on to the next value. -/
theorem operationsLeft_next {stage : DropStage} {rest : List Owned} {after : After} :
    (Phase.drop rest after).operationsLeft < (Phase.dropping stage rest after).operationsLeft := by
  rw [Phase.operationsLeft_drop]
  have spent := stage.operationsLeft_pos
  show _ < stage.operationsLeft + _ + _
  omega

theorem operationsLeft_unwind {stage : DropStage} {rest : List Owned} {after : After} :
    (Phase.panic (.drop rest) after).operationsLeft <
      (Phase.dropping stage rest after).operationsLeft := by
  have unwound : (Phase.panic (.drop rest) after).operationsLeft ≤
      (Phase.drop rest after).operationsLeft := by
    refine Phase.operationsLeft_panic after ?_
    rw [Phase.operationsLeft_drop, Phase.operationsLeft_drop]
    exact Nat.add_le_add_left after.operationsLeft_pos _
  exact Nat.lt_of_le_of_lt unwound operationsLeft_next

/-- **Every operation uses up one of those that are left.** -/
theorem Moves.operationsLeft {o t : CallObject} {e : AppEvent} (moved : Moves o e t) :
    t.operationsLeft < o.operationsLeft := by
  unfold CallObject.operationsLeft
  cases moved with
  | drop planned => exact Nat.add_lt_add_right (Phase.operationsLeft_dropPlan planned) _
  | freeFields was =>
    rw [was]
    exact Nat.add_lt_add_right operationsLeft_next _
  | destroyPort was =>
    rw [was]
    exact Nat.add_lt_add_right operationsLeft_next _
  | removeFailed was failed =>
    rw [was]
    exact Nat.add_lt_add_right operationsLeft_unwind _
  | destroyFailed was failed =>
    rw [was]
    exact Nat.add_lt_add_right operationsLeft_unwind _
  | hangupFailed was failed =>
    rename_i rest after status
    have unwound : (Phase.panic (.dropping .freeFields rest) after).operationsLeft ≤
        1 + (rest.map Owned.operations).sum + 1 :=
      Phase.operationsLeft_panic after (Nat.le_refl _)
    have left := after.operationsLeft_pos
    rw [was]
    refine Nat.add_lt_add_right (Nat.lt_of_le_of_lt unwound ?_) _
    show _ < 2 + (rest.map Owned.operations).sum + after.operationsLeft
    omega
  | checkActive active was =>
    rw [was]
    cases active <;> simp [Phase.operationsLeft, DropStage.operationsLeft]
  | hangupCall was =>
    rw [was]
    simp [Phase.operationsLeft, DropStage.operationsLeft]
  | removePort was =>
    rw [was]
    simp [Phase.operationsLeft, DropStage.operationsLeft]
  | runJob status spawned =>
    rw [spawned]
    exact Nat.lt_succ_self _
  | sendMediaData was =>
    rw [was]
    show 13 + 1 < 15 + o.job.operationsLeft
    omega
  | rejecting was =>
    rw [was]
    show 2 + 1 < 4 + o.job.operationsLeft
    omega
  | unexpected was adding refused =>
    rename_i awaited ports got error
    rw [was]
    refine Nat.add_lt_add_right ?_ _
    show 8 < (Phase.awaitState awaited ports).operationsLeft
    cases awaited <;> simp [Phase.operationsLeft]
  | _ => simp [*, CallObject.result, Phase.operationsLeft, After.operationsLeft,
      JobState.operationsLeft, Phase.drop, Owned.start, Owned.operations, DropStage.operationsLeft]

end CallObject

/-! ### At most twenty operations -/

def CallEvent.isOperation (e : CallEvent) : Bool := e.operation.isSome

namespace World

/-- The operations that are left to the call object. -/
def operationsLeft (w : World) : ℕ := w.object.operationsLeft

theorem operationsLeft_step {w v : World} {e : CallEvent} (stepped : w.step e = some v) :
    v.operationsLeft + (if e.isOperation then 1 else 0) ≤ w.operationsLeft := by
  unfold operationsLeft
  obtain ⟨_, steps⟩ := steps_of_step stepped
  rcases steps.pjsua_or_app with ⟨object, _, _, _, _, own⟩ | ⟨event, object, next, rfl, moved, _, rfl⟩
  · rw [object, CallEvent.isOperation, own]
    exact Nat.le_refl _
  · exact moved.operationsLeft

end World

/-- A call that reports another state after Confirmed, so that the drop of its handle hangs it up. -/
def hungUpByDrop : List CallEvent :=
  [.app (.setUserData pjSuccess), .app .answerSessionProgress, .app .add,
    .app (.addPort .sink 5 pjSuccess), .app (.addPort .stream 6 pjSuccess),
    .app (.sendMediaData (.ofPorts 5 6)), .app (.runJob (.acceptIncoming .ok) pjSuccess),
    .app .joinJob, .setState .connecting, .onCallState, .setState .confirmed, .onCallState,
    .app (.recvState (some (0, .connecting))), .app (.recvState (some (0, .confirmed))),
    .app .awaitHangup, .setState .early, .onCallState, .app (.recvState (some (0, .early))),
    .app (.removePort .sink 5 pjSuccess), .app (.destroyPort .sink 5 pjSuccess),
    .app (.removePort .stream 6 pjSuccess), .app (.destroyPort .stream 6 pjSuccess),
    .app (.checkActive true), .app (.hangupCall pjSuccess), .app .freeFields, .app .finish]

/-- **Twenty operations** are the most that a call object performs. -/
theorem operations_greatest : IsGreatest {n | ∃ callId confPort inv media outstanding es w,
    callSystem.run (World.start callId confPort inv media outstanding) es = some w ∧
      n = es.countP CallEvent.isOperation} 20 := by
  constructor
  · exact ⟨0, 3, .incoming, .none, false, hungUpByDrop, _, rfl, rfl⟩
  · rintro n ⟨callId, confPort, inv, media, outstanding, es, w, ran, rfl⟩
    have paid : w.operationsLeft + es.countP CallEvent.isOperation ≤
        20 + 0 * es.countP fun _ => false :=
      callSystem.run_countP_le (fun _ _ _ stepped => World.operationsLeft_step stepped) ran
    omega

namespace Pool

variable {accounts ids : ℕ}

/-- The operations that are left to all call objects together. -/
def operationsLeft (p : Pool accounts ids) : ℕ :=
  (p.objects.map fun held => held.object.operationsLeft).sum

end Pool

def PoolEvent.isOperation {accounts ids : ℕ} : PoolEvent accounts ids → Bool
  | app _ _ => true
  | _ => false

def PoolEvent.isNextCall {accounts ids : ℕ} : PoolEvent accounts ids → Bool
  | nextCall _ => true
  | _ => false

namespace Pool

variable {accounts ids : ℕ}

/-- An object that performs an operation has fewer left; the others keep theirs. -/
theorem sum_set_lt {held next : Held ids} {objects : List (Held ids)} {index : ℕ}
    (found : objects[index]? = some held)
    (fewer : next.object.operationsLeft < held.object.operationsLeft) :
    ((objects.set index next).map fun held => held.object.operationsLeft).sum <
      (objects.map fun held => held.object.operationsLeft).sum := by
  induction objects generalizing index with
  | nil => cases found
  | cons first objects ih =>
    cases index with
    | zero =>
      cases found
      rw [List.set_cons_zero, List.map_cons, List.map_cons, List.sum_cons, List.sum_cons]
      exact Nat.add_lt_add_right fewer _
    | succ index =>
      rw [List.set_cons_succ, List.map_cons, List.map_cons, List.sum_cons, List.sum_cons]
      exact Nat.add_lt_add_left (ih found) _

/-- **One step of the pool**: a new call object brings its twenty operations with it. -/
theorem operationsLeft_step {p q : Pool accounts ids} {e : PoolEvent accounts ids}
    (stepped : p.step e = some q) :
    q.operationsLeft + (if e.isOperation then 1 else 0) ≤
      p.operationsLeft + if e.isNextCall then 20 else 0 := by
  obtain ⟨_, steps⟩ := steps_of_step stepped
  cases steps with
  | onIncomingCall free sent => exact Nat.le_refl _
  | ended taken => exact Nat.le_refl _
  | nextCall received =>
    unfold operationsLeft
    rw [List.map_append, List.sum_append]
    exact Nat.le_refl _
  | app found answered moved => exact sum_set_lt found moved.operationsLeft

end Pool

/-- **All call objects together** perform at most twenty operations for each `next_call`. -/
theorem pool_operations_le {accounts ids : ℕ} {es : List (PoolEvent accounts ids)}
    {p : Pool accounts ids} (ran : (callPool accounts ids).run Pool.start es = some p) :
    es.countP PoolEvent.isOperation ≤ 20 * es.countP PoolEvent.isNextCall := by
  have paid : p.operationsLeft + es.countP PoolEvent.isOperation ≤
      0 + 20 * es.countP PoolEvent.isNextCall :=
    (callPool accounts ids).run_countP_le (fun _ _ _ stepped => Pool.operationsLeft_step stepped) ran
  omega

theorem pool_operations_le_reused :
    ∃ p, (callPool 1 1).run .start reused = some p ∧
      reused.countP PoolEvent.isOperation ≤ 20 * reused.countP PoolEvent.isNextCall := by
  refine ⟨_, rfl, ?_⟩
  exact pool_operations_le (rfl : (callPool 1 1).run .start reused = some _)

end PjsipClient
