/-
The registration of blocking threads with pjlib (`tokio_utils.rs`).

Every job of `spawn_blocking_pjsua` begins with `PjsuaThreadMeta::register`, which calls
`pj_thread_register` unless pjlib knows the thread, and puts its result into the thread-local
`THREAD_META`, whatever is there.

pjlib is given the address of a local of `register`, and goes on using the descriptor there; what gets
into the thread-local is a copy of it at another address. And tokio runs many jobs on one thread, so
that the second one drops the copy and the handle of the registration, and leaves zeros.

`BlockingThreads` is any number of threads on which jobs run in any order. What a job does to the
thread-local is one step: no other thread sees it, and the counter is taken by one atomic operation.

* `Registered` — what pjlib, the thread-local and the registration say about each other. Kept by every
  step.
* `registrationKept_iff` — the thread-local holds the descriptor that pjlib uses, and its handle,
  through a whole run exactly when no job of the run registers a thread.
* `handleKept_iff` — the handle and the contents of the descriptor are held exactly when no job comes
  to a thread that an earlier one has registered.
-/

import Mathlib.Logic.Function.Basic
import PjsipClient.Error
import PjsipClient.Lib.System

namespace PjsipClient

open Transition

/-- What a `pj_thread_t *` points to, if it is not null. -/
abbrev PjThread := ℕ

/-- Where a `pj_thread_desc` lies: it is a local of the call of `register` with this counter, part of
what such a call returns, or part of the thread-local of its thread. -/
inductive DescAddress
  | registerLocal (counter : ℕ)
  | returned
  | threadMeta
  deriving DecidableEq, Repr

/-- A `pj_thread_desc`: zeros, or what `pj_thread_register` has put there. -/
structure PjThreadDesc where
  address : DescAddress
  contents : Option PjThread
  deriving DecidableEq, Repr

/-- The descriptor is moved. -/
def PjThreadDesc.moveTo (descriptor : PjThreadDesc) (address : DescAddress) : PjThreadDesc :=
  { descriptor with address := address }

structure PjsuaThreadMeta where
  threadName : String
  descriptor : PjThreadDesc
  /-- The handle; `none` is the null pointer. -/
  pjThreadHandle : Option PjThread
  deriving DecidableEq, Repr

def PjsuaThreadMeta.moveTo (threadMeta : PjsuaThreadMeta) (address : DescAddress) :
    PjsuaThreadMeta := { threadMeta with descriptor := threadMeta.descriptor.moveTo address }

/-- What `pj_thread_register` answers if it is called: a status, and the handle that it gives when it
succeeds. -/
abbrev PjThreadRegister := PjStatus × PjThread

/-- What pjlib keeps of a call of `pj_thread_register`: the descriptor, where it was passed, and the
thread. -/
structure PjThreadRegistration where
  descriptor : PjThreadDesc
  thread : PjThread
  deriving DecidableEq, Repr

/-- The answer of `register`, with the registration that it has made, if any; an error is where
`ffi_assert_res` ends the process. -/
def PjsuaThreadMeta.register (counter : ℕ) (pjThreadIsRegistered : Bool)
    (pjThreadRegister : PjThreadRegister) :
    Except PjsuaError (PjsuaThreadMeta × Option PjThreadRegistration) := do
  let threadName := "pjsua_thread_tokio_" ++ toString counter
  let descriptor : PjThreadDesc := ⟨.registerLocal counter, none⟩
  if pjThreadIsRegistered then
    getErrorAsResult pjSuccess
    pure (⟨threadName, descriptor.moveTo .returned, none⟩, none)
  else
    getErrorAsResult pjThreadRegister.1
    let descriptor := { descriptor with contents := some pjThreadRegister.2 }
    pure (⟨threadName, descriptor.moveTo .returned, some pjThreadRegister.2⟩,
      some ⟨descriptor, pjThreadRegister.2⟩)

/-- A thread, with what the crate has done to register it. -/
structure PjsuaThread where
  /-- What `pj_thread_is_registered` answers on the thread. -/
  isRegistered : Bool
  /-- The thread-local `THREAD_META`. -/
  threadMeta : Option PjsuaThreadMeta
  ended : Bool
  /-- How often the crate has called `pj_thread_register`. -/
  calls : ℕ
  /-- What pjlib keeps of the registration by the crate. -/
  registration : Option PjThreadRegistration
  deriving DecidableEq, Repr

namespace PjsuaThread

def new : PjsuaThread := ⟨false, none, false, 0, none⟩

/-- A job's `register` has called `pj_thread_register` if pjlib did not know the thread. -/
def call (thread : PjsuaThread) : PjsuaThread :=
  { thread with calls := if thread.isRegistered then thread.calls else thread.calls + 1 }

/-- A job has moved what `register` answered into the thread-local. -/
def store (thread : PjsuaThread) (answer : PjsuaThreadMeta × Option PjThreadRegistration) :
    PjsuaThread :=
  { thread.call with
    isRegistered := true
    threadMeta := some (answer.1.moveTo .threadMeta)
    registration := if thread.isRegistered then thread.registration else answer.2 }

end PjsuaThread

/-- All threads, and the counter of their names. -/
structure BlockingThreads (ι : Type) where
  threadNameCounter : ℕ
  thread : ι → PjsuaThread
  exited : Bool

inductive ThreadEvent (ι : Type)
  /-- A job of `spawn_blocking_pjsua` begins on the thread. -/
  | job (thread : ι) (pjThreadRegister : PjThreadRegister)
  /-- The thread is registered with pjlib by others than the crate. -/
  | foreign (thread : ι)
  /-- The thread ends, and drops its thread-locals. -/
  | stop (thread : ι)

namespace BlockingThreads

variable {ι : Type}

def start : BlockingThreads ι := ⟨0, fun _ => .new, false⟩

variable [DecidableEq ι]

/-- One thread becomes another. -/
def set (s : BlockingThreads ι) (i : ι) (thread : PjsuaThread) : BlockingThreads ι :=
  { s with thread := Function.update s.thread i thread }

/-- A job begins. -/
def job (s : BlockingThreads ι) (i : ι) (pjThreadRegister : PjThreadRegister) : BlockingThreads ι :=
  match PjsuaThreadMeta.register s.threadNameCounter (s.thread i).isRegistered pjThreadRegister with
  | .ok answer =>
    { s.set i ((s.thread i).store answer) with threadNameCounter := s.threadNameCounter + 1 }
  | .error _ =>
    { s.set i (s.thread i).call with
      threadNameCounter := s.threadNameCounter + 1
      exited := true }

def step (s : BlockingThreads ι) : ThreadEvent ι → Option (BlockingThreads ι)
  | .job i pjThreadRegister =>
    if s.exited = false ∧ (s.thread i).ended = false then some (s.job i pjThreadRegister) else none
  | .foreign i =>
    if s.exited = false ∧ (s.thread i).ended = false then
      some (s.set i { s.thread i with isRegistered := true })
    else none
  | .stop i =>
    if s.exited = false ∧ (s.thread i).ended = false then
      some (s.set i { s.thread i with threadMeta := none, ended := true })
    else none

end BlockingThreads

/-- The threads, with jobs in any order. -/
def threadSystem (ι : Type) [DecidableEq ι] : System (BlockingThreads ι) (ThreadEvent ι) :=
  ⟨BlockingThreads.step⟩

/-- The crate registers the thread once at most, and then its thread-local holds the very descriptor
that pjlib uses, and the handle, until the thread ends. -/
structure PjsuaThread.Kept (thread : PjsuaThread) : Prop where
  once : thread.calls ≤ 1
  held : thread.ended = false → ∀ registration, thread.registration = some registration →
    ∃ threadMeta, thread.threadMeta = some threadMeta ∧
      threadMeta.descriptor = registration.descriptor ∧
      threadMeta.pjThreadHandle = some registration.thread

/-- The registrations are kept in every state of a run. -/
def RegistrationKept {ι : Type} [DecidableEq ι] (es : List (ThreadEvent ι)) : Prop :=
  ∀ fs v, fs <+: es → (threadSystem ι).run .start fs = some v → ∀ i, (v.thread i).Kept

/-- A job does not register its thread: pjlib knows it, or refuses. -/
def RegistersNone {ι : Type} (s : BlockingThreads ι) : ThreadEvent ι → Prop
  | .job i pjThreadRegister =>
    (s.thread i).isRegistered = true ∨ pjThreadRegister.1 ≠ pjSuccess
  | _ => True

instance {ι : Type} (s : BlockingThreads ι) : ∀ e, Decidable (RegistersNone s e)
  | .job _ _ => inferInstanceAs (Decidable (_ ∨ _))
  | .foreign _ | .stop _ => isTrue trivial

/-- The thread-local holds the handle of the registration, and what the descriptor contained, until
the thread ends. -/
def PjsuaThread.HandleKept (thread : PjsuaThread) : Prop :=
  thread.ended = false → ∀ registration, thread.registration = some registration →
    ∃ threadMeta, thread.threadMeta = some threadMeta ∧
      threadMeta.descriptor.contents = registration.descriptor.contents ∧
      threadMeta.pjThreadHandle = some registration.thread

def HandleKept {ι : Type} [DecidableEq ι] (es : List (ThreadEvent ι)) : Prop :=
  ∀ fs v, fs <+: es → (threadSystem ι).run .start fs = some v → ∀ i, (v.thread i).HandleKept

/-- A job does not come to a thread that the crate has registered. -/
def NotRegisteredBefore {ι : Type} (s : BlockingThreads ι) : ThreadEvent ι → Prop
  | .job i _ => (s.thread i).registration = none
  | _ => True

/-! ### The steps -/

def ThreadEvent.thread {ι : Type} : ThreadEvent ι → ι
  | job i _ | foreign i | stop i => i

/-- What a job makes when it registers its thread: a registration whose descriptor is elsewhere than
that of the thread-local. -/
structure Makes (threadMeta : PjsuaThreadMeta) (registration : PjThreadRegistration) : Prop where
  contents : threadMeta.descriptor.contents = registration.descriptor.contents
  handle : threadMeta.pjThreadHandle = some registration.thread
  elsewhere : threadMeta.descriptor ≠ registration.descriptor

/-- What an event does to its thread, and whether the process ends. -/
inductive Turns {ι : Type} (e : ThreadEvent ι) (thread : PjsuaThread) : Bool → PjsuaThread → Prop
  /-- A job comes to a thread that pjlib knows, and puts zeros into the thread-local. -/
  | again {i : ι} {pjThreadRegister : PjThreadRegister} (threadMeta : PjsuaThreadMeta)
      (job : e = .job i pjThreadRegister) (known : thread.isRegistered = true)
      (null : threadMeta.pjThreadHandle = none) :
      Turns e thread false { thread with threadMeta := some threadMeta }
  | registers {i : ι} {pjThreadRegister : PjThreadRegister} {threadMeta : PjsuaThreadMeta}
      {registration : PjThreadRegistration} (job : e = .job i pjThreadRegister)
      (unknown : thread.isRegistered = false) (accepted : pjThreadRegister.1 = pjSuccess)
      (makes : Makes threadMeta registration) :
      Turns e thread false { thread with
        isRegistered := true
        threadMeta := some threadMeta
        calls := thread.calls + 1
        registration := some registration }
  | fails {i : ι} {pjThreadRegister : PjThreadRegister} (job : e = .job i pjThreadRegister)
      (unknown : thread.isRegistered = false) (refused : pjThreadRegister.1 ≠ pjSuccess) :
      Turns e thread true { thread with calls := thread.calls + 1 }
  | foreign (other : ∀ i pjThreadRegister, e ≠ .job i pjThreadRegister) :
      Turns e thread false { thread with isRegistered := true }
  | stop (other : ∀ i pjThreadRegister, e ≠ .job i pjThreadRegister) :
      Turns e thread false { thread with threadMeta := none, ended := true }

/-- **What `register` gives**: no handle on a thread that pjlib knows, otherwise that of its
registration, if this succeeds, with a descriptor that is not where pjlib has it. -/
theorem PjsuaThreadMeta.register_cases (counter : ℕ) (isRegistered : Bool)
    (pjThreadRegister : PjThreadRegister) :
    (isRegistered = true ∧ ∃ threadMeta,
        register counter isRegistered pjThreadRegister = .ok (threadMeta, none) ∧
          threadMeta.pjThreadHandle = none) ∨
      (isRegistered = false ∧ pjThreadRegister.1 = pjSuccess ∧ ∃ threadMeta registration,
        register counter isRegistered pjThreadRegister = .ok (threadMeta, some registration) ∧
          Makes (threadMeta.moveTo .threadMeta) registration) ∨
      (isRegistered = false ∧ pjThreadRegister.1 ≠ pjSuccess ∧ ∃ error,
        register counter isRegistered pjThreadRegister = .error error) := by
  cases isRegistered with
  | true => exact Or.inl ⟨rfl, _, rfl, rfl⟩
  | false =>
    unfold register
    rcases getErrorAsResult_cases pjThreadRegister.1 with ⟨accepted, ok⟩ | ⟨refused, error⟩
    · rw [ok]
      refine Or.inr (Or.inl ⟨rfl, accepted, _, _, rfl, rfl, rfl, fun same => ?_⟩)
      cases congrArg PjThreadDesc.address same
    · rw [error]
      exact Or.inr (Or.inr ⟨rfl, refused, _, rfl⟩)

namespace PjsuaThread

theorem store_known {thread : PjsuaThread}
    (answer : PjsuaThreadMeta × Option PjThreadRegistration) (known : thread.isRegistered = true) :
    thread.store answer = { thread with threadMeta := some (answer.1.moveTo .threadMeta) } := by
  simp [store, call, known]

theorem store_unknown {thread : PjsuaThread}
    (answer : PjsuaThreadMeta × Option PjThreadRegistration)
    (unknown : thread.isRegistered = false) :
    thread.store answer = { thread with
      isRegistered := true
      threadMeta := some (answer.1.moveTo .threadMeta)
      calls := thread.calls + 1
      registration := answer.2 } := by
  simp [store, call, unknown]

theorem call_unknown {thread : PjsuaThread} (unknown : thread.isRegistered = false) :
    thread.call = { thread with calls := thread.calls + 1 } := by
  simp [call, unknown]

end PjsuaThread

namespace BlockingThreads

variable {ι : Type} [DecidableEq ι] {s t : BlockingThreads ι} {e : ThreadEvent ι}

/-- **What a job does**: it registers a thread that pjlib does not know, or ends the process, and it
puts zeros into the thread-local of any other. -/
theorem turns_of_job (i : ι) (pjThreadRegister : PjThreadRegister) (alive : s.exited = false) :
    ∃ after, Turns (.job i pjThreadRegister) (s.thread i) (s.job i pjThreadRegister).exited after ∧
      (s.job i pjThreadRegister).thread = Function.update s.thread i after := by
  unfold job
  rcases PjsuaThreadMeta.register_cases s.threadNameCounter (s.thread i).isRegistered
    pjThreadRegister with ⟨known, threadMeta, given, null⟩ |
      ⟨unknown, accepted, threadMeta, registration, given, makes⟩ | ⟨unknown, refused, error, given⟩
  · rw [given]
    refine ⟨_, ?_, rfl⟩
    show Turns _ _ s.exited _
    rw [alive, PjsuaThread.store_known _ known]
    exact .again _ rfl known null
  · rw [given]
    refine ⟨_, ?_, rfl⟩
    show Turns _ _ s.exited _
    rw [alive, PjsuaThread.store_unknown _ unknown]
    exact .registers rfl unknown accepted makes
  · rw [given]
    refine ⟨_, ?_, rfl⟩
    show Turns _ _ true _
    rw [PjsuaThread.call_unknown unknown]
    exact .fails rfl unknown refused

/-- **What a step does**: its thread turns, and the others stay as they are. -/
theorem turns_of_step (stepped : s.step e = some t) :
    s.exited = false ∧ (s.thread e.thread).ended = false ∧
      ∃ after, Turns e (s.thread e.thread) t.exited after ∧
        t.thread = Function.update s.thread e.thread after := by
  cases e with
  | job i pjThreadRegister =>
    obtain ⟨⟨alive, there⟩, same⟩ := Option.ite_none_right_eq_some.mp stepped
    cases same
    exact ⟨alive, there, turns_of_job i pjThreadRegister alive⟩
  | foreign i =>
    obtain ⟨⟨alive, there⟩, same⟩ := Option.ite_none_right_eq_some.mp stepped
    cases same
    refine ⟨alive, there, _, ?_, rfl⟩
    show Turns _ _ s.exited _
    rw [alive]
    exact .foreign fun _ _ same => (by cases same)
  | stop i =>
    obtain ⟨⟨alive, there⟩, same⟩ := Option.ite_none_right_eq_some.mp stepped
    cases same
    refine ⟨alive, there, _, ?_, rfl⟩
    show Turns _ _ s.exited _
    rw [alive]
    exact .stop fun _ _ same => (by cases same)

end BlockingThreads

/-! ### The registration of one thread -/

/-- What pjlib knows about a thread, against what the crate has done. -/
structure PjsuaThread.Registered (exited : Bool) (thread : PjsuaThread) : Prop where
  once : thread.calls ≤ 1
  called : exited = false → 0 < thread.calls → thread.isRegistered = true
  known : ∀ registration, thread.registration = some registration → thread.isRegistered = true

namespace Turns

variable {ι : Type} {e : ThreadEvent ι} {thread after : PjsuaThread} {exited : Bool}

/-- A thread that pjlib does not know was not registered by the crate. -/
theorem unregistered (before : thread.Registered false) (unknown : thread.isRegistered = false) :
    thread.calls = 0 ∧ thread.registration = none := by
  constructor
  · by_contra called
    have known := before.called rfl (Nat.pos_of_ne_zero called)
    rw [unknown] at known
    cases known
  · by_contra registered
    obtain ⟨registration, registration_eq⟩ := Option.ne_none_iff_exists'.mp registered
    have known := before.known registration registration_eq
    rw [unknown] at known
    cases known

/-- **One event keeps** what is known about its thread. -/
theorem registered (turns : Turns e thread exited after) (before : thread.Registered false) :
    after.Registered exited := by
  cases turns with
  | again threadMeta job known null => exact ⟨before.once, fun _ _ => known, before.known⟩
  | registers job unknown accepted makes =>
    obtain ⟨uncalled, _⟩ := unregistered before unknown
    refine ⟨?_, fun _ _ => rfl, fun _ _ => rfl⟩
    show thread.calls + 1 ≤ 1
    rw [uncalled]
  | fails job unknown refused =>
    obtain ⟨uncalled, unmade⟩ := unregistered before unknown
    refine ⟨?_, fun alive => (by cases alive), fun other same => ?_⟩
    · show thread.calls + 1 ≤ 1
      rw [uncalled]
    · cases unmade.symm.trans same
  | foreign other => exact ⟨before.once, fun _ _ => rfl, fun _ _ => rfl⟩
  | stop other => exact ⟨before.once, before.called, before.known⟩

/-- A thread that no job has registered stays so, if the next one does not register it either. -/
theorem unmade (turns : Turns e thread exited after) (unmade : thread.registration = none)
    (refuses : ∀ i pjThreadRegister, e = .job i pjThreadRegister →
      thread.isRegistered = true ∨ pjThreadRegister.1 ≠ pjSuccess) :
    after.registration = none := by
  cases turns with
  | registers job unknown accepted makes =>
    rcases refuses _ _ job with known | refused
    · cases unknown.symm.trans known
    · exact absurd accepted refused
  | _ => exact unmade

/-- **An event keeps the handle** unless it is a job on a registered thread. -/
theorem handleKept (turns : Turns e thread exited after) (before : thread.Registered false)
    (kept : thread.HandleKept)
    (fresh : ∀ i pjThreadRegister, e = .job i pjThreadRegister → thread.registration = none) :
    after.HandleKept := by
  cases turns with
  | again threadMeta job known null =>
    intro _ other same
    cases (fresh _ _ job).symm.trans same
  | registers job unknown accepted makes =>
    intro _ other same
    cases same
    exact ⟨_, rfl, makes.contents, makes.handle⟩
  | fails job unknown refused =>
    intro _ other same
    cases (unregistered before unknown).2.symm.trans same
  | foreign other => exact kept
  | stop other =>
    intro there
    cases there

end Turns

/-! ### Whole runs -/

namespace BlockingThreads

variable {ι : Type} [DecidableEq ι] {s t : BlockingThreads ι} {e : ThreadEvent ι} {i : ι}
  {pjThreadRegister : PjThreadRegister}

/-- What is known about every thread. -/
def Registered (s : BlockingThreads ι) : Prop := ∀ i, (s.thread i).Registered s.exited

theorem registered_start {ι : Type} : (start : BlockingThreads ι).Registered := by
  intro i
  exact ⟨Nat.zero_le 1, fun _ called => absurd called (Nat.lt_irrefl 0), fun _ same => by cases same⟩

/-- **One step keeps** what is known about the threads. -/
theorem Registered.step (registered : s.Registered) (stepped : s.step e = some t) :
    t.Registered := by
  obtain ⟨alive, _, after, turns, threads⟩ := turns_of_step stepped
  intro i
  have before := registered i
  rw [alive] at before
  rw [threads]
  by_cases same : i = e.thread
  · subst same
    rw [Function.update_self]
    exact turns.registered before
  · rw [Function.update_of_ne same]
    exact ⟨before.once, fun _ => before.called rfl, before.known⟩

theorem registered_of_run {es : List (ThreadEvent ι)} (ran : (threadSystem ι).run start es = some s) :
    s.Registered :=
  (threadSystem ι).run_keeps (fun _ _ _ before stepped => before.step stepped) registered_start ran

/-- A step in which no job registers its thread. -/
theorem unmade_step (unmade : ∀ i, (s.thread i).registration = none) (refuses : RegistersNone s e)
    (stepped : s.step e = some t) (i : ι) : (t.thread i).registration = none := by
  obtain ⟨_, _, after, turns, threads⟩ := turns_of_step stepped
  rw [threads]
  by_cases same : i = e.thread
  · subst same
    rw [Function.update_self]
    refine turns.unmade (unmade _) ?_
    rintro j pjThreadRegister rfl
    exact refuses
  · rw [Function.update_of_ne same]
    exact unmade i

/-- **One step keeps the handles** unless a job comes to a registered thread. -/
theorem handleKept_step (registered : s.Registered) (kept : ∀ i, (s.thread i).HandleKept)
    (fresh : NotRegisteredBefore s e) (stepped : s.step e = some t) (i : ι) :
    (t.thread i).HandleKept := by
  obtain ⟨alive, _, after, turns, threads⟩ := turns_of_step stepped
  have before := registered i
  rw [alive] at before
  rw [threads]
  by_cases same : i = e.thread
  · subst same
    rw [Function.update_self]
    refine turns.handleKept before (kept _) ?_
    rintro j pjThreadRegister rfl
    exact fresh
  · rw [Function.update_of_ne same]
    exact kept i

/-- What a job makes of its thread. -/
theorem turns_job (stepped : s.step (.job i pjThreadRegister) = some t) :
    (s.thread i).ended = false ∧
      Turns (.job i pjThreadRegister) (s.thread i) t.exited (t.thread i) := by
  obtain ⟨_, there, after, turns, threads⟩ := turns_of_step stepped
  have turned : t.thread i = after := by
    rw [threads]
    exact Function.update_self i after s.thread
  rw [turned]
  exact ⟨there, turns⟩

/-- **A job that registers its thread** leaves in the thread-local another descriptor than pjlib
has. -/
theorem moved_of_job (unknown : (s.thread i).isRegistered = false)
    (accepted : pjThreadRegister.1 = pjSuccess)
    (stepped : s.step (.job i pjThreadRegister) = some t) : ¬ (t.thread i).Kept := by
  intro kept
  obtain ⟨there, turns⟩ := turns_job stepped
  generalize t.thread i = after at kept turns
  generalize t.exited = exited at turns
  cases turns with
  | again threadMeta job known null => cases unknown.symm.trans known
  | registers job unknown accepted makes =>
    obtain ⟨held, same, descriptor, _⟩ := kept.held there _ rfl
    cases same
    exact makes.elsewhere descriptor
  | fails job unknown refused =>
    cases job
    exact refused accepted
  | foreign other => exact other _ _ rfl
  | stop other => exact other _ _ rfl

/-- **A later job drops the handle.** -/
theorem lost_of_job {registration : PjThreadRegistration} (registered : s.Registered)
    (found : (s.thread i).registration = some registration)
    (stepped : s.step (.job i pjThreadRegister) = some t) : ¬ (t.thread i).HandleKept := by
  intro kept
  have known := (registered i).known registration found
  obtain ⟨there, turns⟩ := turns_job stepped
  generalize t.thread i = after at kept turns
  generalize t.exited = exited at turns
  cases turns with
  | again other job _ null =>
    obtain ⟨held, same, _, handle⟩ := kept there registration found
    cases same
    cases null.symm.trans handle
  | registers job unknown accepted makes => cases known.symm.trans unknown
  | fails job unknown refused => cases known.symm.trans unknown
  | foreign other => exact other _ _ rfl
  | stop other => exact other _ _ rfl

/-- What does not hold of a thread after a step of a run does not hold along the run. -/
theorem not_along_of_step {property : PjsuaThread → Prop} {es fs gs : List (ThreadEvent ι)}
    {v : BlockingThreads ι} (ran : (threadSystem ι).run start es = some s)
    (split : es = fs ++ e :: gs) (reached : (threadSystem ι).run start fs = some v)
    (breaks : ∀ t, v.step e = some t → ¬ property (t.thread i)) :
    ¬ ∀ hs w, hs <+: es → (threadSystem ι).run start hs = some w → ∀ i, property (w.thread i) := by
  intro along
  subst split
  obtain ⟨u, before, after⟩ := (threadSystem ι).run_append_eq_some.mp ran
  cases before.symm.trans reached
  obtain ⟨t, stepped, _⟩ := (threadSystem ι).run_cons_eq_some.mp after
  refine breaks t stepped (along (fs ++ [e]) t ⟨gs, by simp⟩ ?_ i)
  exact (threadSystem ι).run_append_eq_some.mpr
    ⟨_, reached, (threadSystem ι).run_cons_eq_some.mpr ⟨t, stepped, rfl⟩⟩

end BlockingThreads

open BlockingThreads

/-- **Every registration is kept** in a run exactly when no job of the run registers its thread. -/
theorem registrationKept_iff {ι : Type} [DecidableEq ι] {es : List (ThreadEvent ι)}
    {s : BlockingThreads ι} (ran : (threadSystem ι).run start es = some s) :
    RegistrationKept es ↔ (threadSystem ι).Meets RegistersNone start es := by
  constructor
  · intro kept
    refine (threadSystem ι).meets_iff_split.mpr ?_
    intro fs e gs v split reached
    cases e with
    | job i pjThreadRegister =>
      by_contra registers
      obtain ⟨unknown, accepted⟩ := not_or.mp registers
      exact not_along_of_step ran split reached
        (fun _ => moved_of_job (Bool.eq_false_iff.mpr unknown) (not_not.mp accepted)) kept
    | foreign i => trivial
    | stop i => trivial
  · intro refuses fs v starts reached i
    have unmade : ∀ i, (v.thread i).registration = none :=
      (threadSystem ι).run_keeps_of_meets
        (fun _ _ _ refuses before stepped => unmade_step before refuses stepped)
        ((threadSystem ι).meets_start starts refuses) (fun _ => rfl) reached
    refine ⟨(registered_of_run reached i).once, ?_⟩
    intro _ registration found
    cases (unmade i).symm.trans found

/-- A job each on two threads that others have registered, of which the first ends. -/
def knownThreads : List (ThreadEvent Bool) :=
  [.foreign true, .job true (0, 7), .foreign false, .job false (0, 8), .stop true]

theorem registrationKept_iff_knownThreads :
    ∃ s, (threadSystem Bool).run start knownThreads = some s ∧ RegistrationKept knownThreads :=
  ⟨_, rfl, (registrationKept_iff rfl).mpr (by decide)⟩

/-- One job on one thread: pjlib has the address of a local of `register`. -/
theorem not_registrationKept :
    ¬ ∀ (es : List (ThreadEvent Bool)) s, (threadSystem Bool).run start es = some s →
      RegistrationKept es := by
  intro kept
  obtain ⟨held, same, descriptor, _⟩ :=
    (kept [.job true (0, 7)] _ rfl _ _ (List.prefix_refl _) rfl true).held rfl _ rfl
  cases same
  cases congrArg PjThreadDesc.address descriptor

/-- **Every handle is kept** in a run exactly when no job comes to a thread that an earlier job has
registered. -/
theorem handleKept_iff {ι : Type} [DecidableEq ι] {es : List (ThreadEvent ι)}
    {s : BlockingThreads ι} (ran : (threadSystem ι).run start es = some s) :
    HandleKept es ↔ (threadSystem ι).Meets NotRegisteredBefore start es := by
  constructor
  · intro kept
    refine (threadSystem ι).meets_iff_split.mpr ?_
    intro fs e gs v split reached
    cases e with
    | job i pjThreadRegister =>
      by_contra registered
      obtain ⟨registration, found⟩ := Option.ne_none_iff_exists'.mp registered
      exact not_along_of_step ran split reached
        (fun _ => lost_of_job (registered_of_run reached) found) kept
    | foreign i => trivial
    | stop i => trivial
  · intro fresh fs v starts reached
    have both : v.Registered ∧ ∀ i, (v.thread i).HandleKept := by
      refine @System.run_keeps_of_meets _ _ (threadSystem ι) NotRegisteredBefore
        (fun v => v.Registered ∧ ∀ i, (v.thread i).HandleKept) ?_ start v fs
        ((threadSystem ι).meets_start starts fresh) ⟨registered_start, ?_⟩ reached
      · rintro s e t fresh ⟨registered, kept⟩ stepped
        exact ⟨registered.step stepped, handleKept_step registered kept fresh stepped⟩
      · exact fun _ _ _ same => by cases same
    exact both.2

/-- Two threads with a job each, of which the first ends. -/
def oneJobEach : List (ThreadEvent Bool) := [.job true (0, 7), .job false (0, 8), .stop true]

theorem handleKept_iff_oneJobEach :
    ∃ s, (threadSystem Bool).run start oneJobEach = some s ∧
      (HandleKept oneJobEach ↔
        (threadSystem Bool).Meets NotRegisteredBefore start oneJobEach) :=
  ⟨_, rfl, handleKept_iff rfl⟩

end PjsipClient
