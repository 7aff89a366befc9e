/-
The one instance of pjsua (`pjsua_softphone_api.rs`).

`PjsuaInstanceHandle::get_instance` keeps in the static `INSTANCE_CRATED` whether an instance was
created. It sets the flag before it calls `pjsua_create` and leaves it when that fails, and the drop of
a handle does not take it back. `Instances` is the flag with the handles that exist, over any sequence
of completed calls and drops.

* `live_le_one` — there is never more than one handle.
* `used_up` — once the flag is set and no handle exists, no call gives one any more.
* `singleton_iff` — the calls and drops of a run do what they should exactly when no handle is dropped
  and the first `pjsua_create` succeeds.
-/

import PjsipClient.Error
import PjsipClient.Lib.System

namespace PjsipClient

open Transition

/-- A `std::sync::Mutex`. -/
structure Mutex (α : Type) where
  locked : Bool
  value : α
  deriving DecidableEq, Repr

/-- The method `try_lock`: the value behind the lock, unless it is taken. -/
def Mutex.tryLock {α : Type} (mutex : Mutex α) : Option α :=
  if mutex.locked then none else some mutex.value

/-- The guard is dropped, and leaves a value behind. -/
def Mutex.release {α : Type} (value : α) : Mutex α := ⟨false, value⟩

/-- A `PjsuaInstanceHandle`, which has no data. -/
structure PjsuaInstanceHandle where
  deriving DecidableEq, Repr

/-- A call of `get_instance`, for the mutex and the status of `pjsua_create` should it be called. -/
def PjsuaInstanceHandle.getInstance (instanceCrated : Mutex Bool) (pjsuaCreate : PjStatus) :
    Mutex Bool × Except PjsuaError PjsuaInstanceHandle :=
  match instanceCrated.tryLock with
  | some false =>
    match getErrorAsResult pjsuaCreate with
    | .ok () => (.release true, .ok {})
    | .error error => (.release true, .error error)
  | some true =>
    (.release true, .error ⟨-1, .text "Pjsua instance already created"⟩)
  | none => (instanceCrated, .error ⟨-1, .text "Pjsua instance already created"⟩)

/-- The flag, and the number of handles that exist: on their own or in a `PjsuaInstanceUninit` or what
becomes of one. -/
structure Instances where
  instanceCrated : Mutex Bool
  live : ℕ
  deriving DecidableEq, Repr

/-- A call of `get_instance` that was completed, or the drop of a handle. The status of
`pjsua_destroy` is only printed. -/
inductive InstanceEvent
  | getInstance (pjsuaCreate : PjStatus)
  | drop (pjsuaDestroy : PjStatus)
  deriving DecidableEq, Repr

def InstanceEvent.isDrop : InstanceEvent → Bool
  | drop _ => true
  | getInstance _ => false

namespace Instances

/-- The program starts. -/
def start : Instances := ⟨⟨false, false⟩, 0⟩

/-- What a call gives in a state. -/
def answer (s : Instances) (pjsuaCreate : PjStatus) : Except PjsuaError PjsuaInstanceHandle :=
  (PjsuaInstanceHandle.getInstance s.instanceCrated pjsuaCreate).2

/-- What a call leaves of the mutex. -/
def after (s : Instances) (pjsuaCreate : PjStatus) : Mutex Bool :=
  (PjsuaInstanceHandle.getInstance s.instanceCrated pjsuaCreate).1

def step (s : Instances) : InstanceEvent → Option Instances
  | .getInstance pjsuaCreate =>
    match s.answer pjsuaCreate with
    | .ok _ => some ⟨s.after pjsuaCreate, s.live + 1⟩
    | .error _ => some ⟨s.after pjsuaCreate, s.live⟩
  | .drop _ => if 0 < s.live then some ⟨s.instanceCrated, s.live - 1⟩ else none

end Instances

/-- The calls and drops, one after another. -/
def instanceSystem : System Instances InstanceEvent := ⟨Instances.step⟩

namespace Instances

/-- What a call or a drop should do: a call succeeds exactly when no handle is there and `pjsua_create`
succeeds, a call that fails changes nothing, and after a drop the instance can be created again. -/
def Proper (s : Instances) : InstanceEvent → Prop
  | .getInstance pjsuaCreate =>
    ((∃ handle, s.answer pjsuaCreate = .ok handle) ↔ s.live = 0 ∧ pjsuaCreate = pjSuccess) ∧
      ∀ error, s.answer pjsuaCreate = .error error → s.after pjsuaCreate = s.instanceCrated
  | .drop pjsuaDestroy =>
    ∀ t, s.step (.drop pjsuaDestroy) = some t → ∃ handle, t.answer pjSuccess = .ok handle

/-- There is at most one handle at any time, and each call and drop does what it should. -/
structure Singleton (es : List InstanceEvent) : Prop where
  few : ∀ fs v, fs <+: es → instanceSystem.run start fs = some v → v.live ≤ 1
  proper : instanceSystem.Meets Proper start es

/-! ### The steps -/

/-- The mutex is free between the calls, and a handle has set the flag. -/
structure Guarded (s : Instances) : Prop where
  unlocked : s.instanceCrated.locked = false
  few : s.live ≤ 1
  flagged : 0 < s.live → s.instanceCrated.value = true

theorem guarded_start : start.Guarded :=
  ⟨rfl, Nat.zero_le _, fun some => absurd some (Nat.lt_irrefl 0)⟩

variable {s t : Instances}

/-- **What a call does**, when the mutex is free. -/
theorem Guarded.getInstance (guarded : s.Guarded) (pjsuaCreate : PjStatus) :
    s.after pjsuaCreate = .release true ∧
      (s.answer pjsuaCreate = .ok {} ∧ s.instanceCrated.value = false ∧ pjsuaCreate = pjSuccess ∨
        (∃ error, s.answer pjsuaCreate = .error error) ∧
          (s.instanceCrated.value = true ∨ pjsuaCreate ≠ pjSuccess)) := by
  obtain ⟨⟨locked, created⟩, live⟩ := s
  have unlocked : locked = false := guarded.unlocked
  subst unlocked
  cases created with
  | true => exact ⟨rfl, Or.inr ⟨⟨_, rfl⟩, Or.inl rfl⟩⟩
  | false =>
    unfold after answer PjsuaInstanceHandle.getInstance Mutex.tryLock
    rcases getErrorAsResult_cases pjsuaCreate with ⟨success, ok⟩ | ⟨failed, error⟩
    · rw [ok]
      exact ⟨rfl, Or.inl ⟨rfl, rfl, success⟩⟩
    · rw [error]
      exact ⟨rfl, Or.inr ⟨⟨_, rfl⟩, Or.inr failed⟩⟩

/-- **One step keeps the guard**, and only a call that finds the flag unset makes a handle. -/
theorem Guarded.step {e : InstanceEvent} (guarded : s.Guarded)
    (stepped : s.step e = some t) : t.Guarded := by
  cases e with
  | getInstance pjsuaCreate =>
    obtain ⟨left, given⟩ := guarded.getInstance pjsuaCreate
    unfold Instances.step at stepped
    rcases given with ⟨ok, unset, _⟩ | ⟨⟨error, failed⟩, _⟩
    · have none : s.live = 0 := by
        by_contra some
        rw [guarded.flagged (Nat.pos_of_ne_zero some)] at unset
        cases unset
      simp only [ok, left, none] at stepped
      cases stepped
      exact ⟨rfl, le_refl 1, fun _ => rfl⟩
    · simp only [failed, left] at stepped
      cases stepped
      exact ⟨rfl, guarded.few, fun _ => rfl⟩
  | drop pjsuaDestroy =>
    obtain ⟨some, same⟩ := Option.ite_none_right_eq_some.mp stepped
    cases same
    exact ⟨guarded.unlocked, Nat.le_trans (Nat.sub_le _ _) guarded.few,
      fun _ => guarded.flagged some⟩

/-! ### Whole runs -/

theorem guarded_of_run {es : List InstanceEvent} (ran : instanceSystem.run start es = some s) :
    s.Guarded :=
  instanceSystem.run_keeps (fun _ _ _ before stepped => before.step stepped) guarded_start ran

/-- **Never more than one handle.** -/
theorem live_le_one {es : List InstanceEvent} (ran : instanceSystem.run start es = some s) :
    s.live ≤ 1 :=
  (guarded_of_run ran).few

/-- A set flag without a handle. -/
def UsedUp (s : Instances) : Prop := s.instanceCrated = .release true ∧ s.live = 0

/-- **Used up for good**: once the flag is set and no handle exists, no later one does. -/
theorem used_up {es : List InstanceEvent} (start : s.UsedUp)
    (ran : instanceSystem.run s es = some t) : t.UsedUp := by
  refine instanceSystem.run_keeps ?_ start ran
  rintro ⟨_, _⟩ e u ⟨rfl, rfl⟩ stepped
  cases e with
  | getInstance pjsuaCreate =>
    cases stepped
    exact ⟨rfl, rfl⟩
  | drop pjsuaDestroy => cases stepped

/-- A drop leaves the flag set and no handle. -/
theorem usedUp_of_drop (pjsuaDestroy : PjStatus) (guarded : s.Guarded)
    (stepped : s.step (.drop pjsuaDestroy) = some t) : t.UsedUp := by
  obtain ⟨some, same⟩ := Option.ite_none_right_eq_some.mp stepped
  cases same
  have unlocked := guarded.unlocked
  have flagged := guarded.flagged some
  have few := guarded.few
  obtain ⟨⟨locked, created⟩, live⟩ := s
  refine ⟨?_, ?_⟩
  · exact congrArg₂ Mutex.mk unlocked flagged
  · exact Nat.sub_eq_zero_of_le few

/-- One handle and a set flag. -/
def running : Instances := ⟨.release true, 1⟩

/-- Calls that find the instance change nothing. -/
theorem run_running {es : List InstanceEvent} (undropped : ∀ e ∈ es, e.isDrop = false)
    (ran : instanceSystem.run running es = some s) : s = running := by
  refine @System.run_keeps_of_meets _ _ instanceSystem (fun _ e => e.isDrop = false)
    (fun v => v = running) ?_ running s es (instanceSystem.meets_of_mem undropped running) rfl ran
  rintro _ e t undropped rfl stepped
  cases e with
  | getInstance pjsuaCreate =>
    cases stepped
    rfl
  | drop pjsuaDestroy => cases undropped

theorem proper_running {e : InstanceEvent} (undropped : e.isDrop = false) : running.Proper e := by
  cases e with
  | getInstance pjsuaCreate =>
    refine ⟨⟨?_, fun both => (by cases both.1)⟩, fun _ _ => rfl⟩
    rintro ⟨handle, given⟩
    cases given
  | drop pjsuaDestroy => cases undropped

/-- What `get_instance` does first. -/
theorem proper_start_iff {pjsuaCreate : PjStatus} :
    start.Proper (.getInstance pjsuaCreate) ↔ pjsuaCreate = pjSuccess := by
  obtain ⟨left, given⟩ := guarded_start.getInstance pjsuaCreate
  constructor
  · rintro ⟨_, unchanged⟩
    rcases given with ⟨_, _, success⟩ | ⟨⟨error, failed⟩, _⟩
    · exact success
    · have same := left.symm.trans (unchanged error failed)
      cases same
  · rintro rfl
    exact ⟨⟨fun _ => ⟨rfl, rfl⟩, fun _ => ⟨{}, rfl⟩⟩, fun error failed => (by cases failed)⟩

end Instances

open Instances

/-- **The instance is a proper singleton** in a run exactly when no handle is dropped and the first
`pjsua_create` succeeds. -/
theorem singleton_iff {es : List InstanceEvent} {s : Instances}
    (ran : instanceSystem.run start es = some s) :
    Singleton es ↔ (∀ e ∈ es, e.isDrop = false) ∧
      ∀ pjsuaCreate, es.head? = some (.getInstance pjsuaCreate) → pjsuaCreate = pjSuccess := by
  constructor
  · intro singleton
    refine ⟨fun e member => ?_, fun pjsuaCreate first => ?_⟩
    · cases e with
      | getInstance pjsuaCreate => rfl
      | drop pjsuaDestroy =>
        obtain ⟨fs, gs, v, t, rfl, before, stepped, _⟩ := instanceSystem.run_split ran member
        have proper := instanceSystem.meets_iff_split.mp singleton.proper fs _ gs v rfl before
        obtain ⟨crated, _⟩ := usedUp_of_drop pjsuaDestroy (guarded_of_run before) stepped
        obtain ⟨handle, given⟩ := proper t stepped
        unfold answer at given
        rw [crated] at given
        cases given
    · obtain ⟨rest, rfl⟩ := List.head?_eq_some_iff.mp first
      exact proper_start_iff.mp singleton.proper.1
  · rintro ⟨undropped, first⟩
    refine ⟨fun fs v _ reached => live_le_one reached, ?_⟩
    cases es with
    | nil => trivial
    | cons e rest =>
      cases e with
      | drop pjsuaDestroy => cases undropped _ List.mem_cons_self
      | getInstance pjsuaCreate =>
        obtain rfl := first pjsuaCreate rfl
        refine ⟨proper_start_iff.mpr rfl, fun t stepped => ?_⟩
        cases stepped
        have later : ∀ e ∈ rest, e.isDrop = false := fun e member =>
          undropped e (List.mem_cons_of_mem _ member)
        refine instanceSystem.meets_iff_split.mpr ?_
        rintro fs e gs v rfl reached
        have still : v = running := run_running
          (fun d member => later d (List.mem_append_left _ member)) reached
        rw [still]
        exact proper_running (later e (List.mem_append_right _ List.mem_cons_self))

/-- The instance is created, and a second call is refused. -/
def refusedTwice : List InstanceEvent := [.getInstance pjSuccess, .getInstance pjSuccess]

theorem singleton_iff_refused :
    instanceSystem.run start refusedTwice = some running ∧
      (Singleton refusedTwice ↔ (∀ e ∈ refusedTwice, e.isDrop = false) ∧
        ∀ pjsuaCreate, refusedTwice.head? = some (.getInstance pjsuaCreate) →
          pjsuaCreate = pjSuccess) :=
  ⟨rfl, @singleton_iff refusedTwice running rfl⟩

/-- `pjsua_create` fails once, and then no call succeeds although there is no handle. -/
theorem not_singleton :
    ¬ ∀ es s, instanceSystem.run start es = some s → Singleton es := by
  intro singleton
  have proper := (singleton [.getInstance 70001, .getInstance pjSuccess] _ rfl).proper
  have second := instanceSystem.meets_iff_split.mp proper [.getInstance 70001]
    (.getInstance pjSuccess) [] _ rfl rfl
  obtain ⟨handle, given⟩ := second.1.mpr ⟨rfl, rfl⟩
  cases given

end PjsipClient
