/-
The life of an instance (`pjsua_softphone_api.rs`), and the calls that pjsua gets meanwhile.

An instance is a chain of values, from `PjsuaInstanceUninit` to `PjsuaInstanceStarted`; each method
takes its value by move. A method that fails drops what it was given, and with it the
`PjsuaInstanceHandle`, whose drop calls `pjsua_destroy`. Added accounts borrow the started instance,
so it is not dropped before them. A `PjsuaMemoryPool` and a job of a blocking thread borrow nothing;
what is allocated in a pool borrows the pool.

`Process` has the values that the program holds and a log of its calls. `pjsuaSystem` reads a log and
stops at a call that pjsua is not ready for.

* `calls_lawful_iff` — pjsua is ready for every call exactly when every pool is made, used and released
  while an instance is held, and every job runs while a started one is.
* `destroyed_once` — `pjsua_create` is called at most once, and every instance that it made is held or
  was destroyed once.
-/

import PjsipClient.Lib.Refinement
import PjsipClient.PjsuaSoftphoneApi.Instance

namespace PjsipClient

open Transition

/-! ### The calls -/

/-- The calls of pjsua, with what is answered; those that only fill in a default config or read the
user data of an account are left out. -/
inductive ApiCall
  | create (status : PjStatus)
  | init (status : PjStatus)
  | setNullSndDev (status : PjStatus)
  | transportCreate (status : PjStatus)
  | start (status : PjStatus)
  | accAdd (status : PjStatus) (accountId : Int)
  | accDel (status : PjStatus) (accountId : Int)
  | poolCreate
  /-- `pj_pool_calloc`. -/
  | poolCalloc
  | poolRelease
  /-- The one call of a blocking job. -/
  | job
  | destroy (status : PjStatus)
  deriving DecidableEq, Repr

namespace ApiCall

def isCreate : ApiCall → Bool
  | create _ => true
  | _ => false

def creates : ApiCall → Bool
  | create status => decide (status = pjSuccess)
  | _ => false

def isDestroy : ApiCall → Bool
  | destroy _ => true
  | _ => false

end ApiCall

/-- How far pjsua is. -/
inductive PjsuaState
  | unmade
  | created
  | initialised
  | silent
  | transported
  | started (accounts : List Int)
  /-- A call of the set-up has failed. -/
  | failed
  | gone
  deriving DecidableEq, Repr

namespace PjsuaState

/-- pjsua was created and not destroyed. -/
def isAlive : PjsuaState → Bool
  | unmade | gone => false
  | _ => true

/-- No account is left to be deleted. -/
def isClear : PjsuaState → Bool
  | started accounts => accounts.isEmpty
  | _ => true

/-- The calls that pjsua is ready for. After a call that has failed it can only be destroyed. -/
def step : PjsuaState → ApiCall → Option PjsuaState
  | unmade, .create status => some (if status = pjSuccess then created else gone)
  | created, .init status => some (if status = pjSuccess then initialised else failed)
  | initialised, .setNullSndDev status => some (if status = pjSuccess then silent else failed)
  | silent, .transportCreate status => some (if status = pjSuccess then transported else failed)
  | transported, .start status => some (if status = pjSuccess then started [] else failed)
  | started accounts, .accAdd status accountId =>
    if status = pjSuccess then
      if accountId ∈ accounts then none else some (started (accounts ++ [accountId]))
    else some (started accounts)
  | started accounts, .accDel _ accountId =>
    if accountId ∈ accounts then some (started (accounts.erase accountId)) else none
  | started accounts, .job => some (started accounts)
  -- `pjsua_destroy` takes the factory of the pools with it, and their memory
  | pjsua, .poolCreate | pjsua, .poolCalloc | pjsua, .poolRelease =>
    if pjsua.isAlive then some pjsua else none
  | pjsua, .destroy _ => if pjsua.isAlive && pjsua.isClear then some gone else none
  | _, _ => none

end PjsuaState

/-- pjsua, as its calls come in. -/
def pjsuaSystem : System PjsuaState ApiCall := ⟨PjsuaState.step⟩

/-! ### The instance -/

/-- The values that an instance can be, with the accounts that borrow it. -/
inductive PjsuaInstance
  | uninit
  | init
  | initTransportConfigured
  | started (accounts : List Int)
  deriving DecidableEq, Repr

namespace PjsuaInstance

/-- The call of `pjsua_create` in `get_instance`. -/
def createCalls (instanceCrated : Mutex Bool) (pjsuaCreate : PjStatus) : List ApiCall :=
  match instanceCrated.tryLock with
  | some false => [.create pjsuaCreate]
  | _ => []

/-- Nothing borrows the value, so it can be moved or dropped. -/
def isFree : PjsuaInstance → Bool
  | started accounts => accounts.isEmpty
  | _ => true

def isStarted : PjsuaInstance → Bool
  | started _ => true
  | _ => false

/-- What pjsua is ready for while the value is held. -/
def pjsua : PjsuaInstance → PjsuaState
  | uninit => .created
  | init => .silent
  | initTransportConfigured => .transported
  | started accounts => .started accounts

end PjsuaInstance

/-- What a method that takes its value by move has called, and what it returns. -/
abbrev Moved := List ApiCall × Except PjsuaError PjsuaInstance

/-- `PjsuaInstanceUninit::init`, that is `PjsuaInstanceInit::from`; when it fails, the handle is
dropped. -/
def PjsuaInstanceUninit.init (pjsuaInit pjsuaSetNullSndDev pjsuaDestroy : PjStatus) : Moved :=
  match getErrorAsResult pjsuaInit with
  | .error error => ([.init pjsuaInit, .destroy pjsuaDestroy], .error error)
  | .ok () =>
    match getErrorAsResult pjsuaSetNullSndDev with
    | .error error =>
      ([.init pjsuaInit, .setNullSndDev pjsuaSetNullSndDev, .destroy pjsuaDestroy], .error error)
    | .ok () => ([.init pjsuaInit, .setNullSndDev pjsuaSetNullSndDev], .ok .init)

def PjsuaInstanceInit.setTransport (pjsuaTransportCreate pjsuaDestroy : PjStatus) : Moved :=
  match getErrorAsResult pjsuaTransportCreate with
  | .error error =>
    ([.transportCreate pjsuaTransportCreate, .destroy pjsuaDestroy], .error error)
  | .ok () => ([.transportCreate pjsuaTransportCreate], .ok .initTransportConfigured)

def PjsuaInstanceInitTransportConfigured.start (pjsuaStart pjsuaDestroy : PjStatus) : Moved :=
  match getErrorAsResult pjsuaStart with
  | .error error => ([.start pjsuaStart, .destroy pjsuaDestroy], .error error)
  | .ok () => ([.start pjsuaStart], .ok (.started []))

/-! ### The process -/

/-- The flag of `get_instance`, the values that are held, and the calls so far. -/
structure Process where
  instanceCrated : Mutex Bool
  instances : List PjsuaInstance
  pools : ℕ
  /-- The jobs that were spawned and have still to run. -/
  jobs : ℕ
  log : List ApiCall
  deriving DecidableEq

/-- What the program does; an instance is named by its index. -/
inductive ProcessEvent
  | getInstance (pjsuaCreate : PjStatus)
  | init (index : ℕ) (pjsuaInit pjsuaSetNullSndDev pjsuaDestroy : PjStatus)
  | setTransport (index : ℕ) (pjsuaTransportCreate pjsuaDestroy : PjStatus)
  | start (index : ℕ) (pjsuaStart pjsuaDestroy : PjStatus)
  | addAccount (index : ℕ) (pjsuaAccAdd : PjStatus) (accountId : Int)
  | dropAccount (index : ℕ) (pjsuaAccDel : PjStatus) (accountId : Int)
  | drop (index : ℕ) (pjsuaDestroy : PjStatus)
  /-- `PjsuaMemoryPool::new`, which gives nothing for a null pool. -/
  | newPool (isNull : Bool)
  /-- `PjsuaMemoryPool::alloc`, or `PjString::alloc` in a pool. -/
  | alloc
  | dropPool
  | spawnJob (index : ℕ)
  | runJob
  deriving DecidableEq, Repr

/-- The events that call pjsua for a `PjsuaMemoryPool`. -/
def ProcessEvent.usesPool : ProcessEvent → Bool
  | newPool _ | alloc | dropPool => true
  | _ => false

namespace Process

def start : Process := ⟨⟨false, false⟩, [], 0, 0, []⟩

/-- A method takes the value of this index by move, and gives another one back or none. -/
def move (p : Process) (index : ℕ) (moved : Moved) : Process :=
  { p with
    instances :=
      match moved.2 with
      | .ok next => p.instances.set index next
      | .error _ => p.instances.eraseIdx index
    log := p.log ++ moved.1 }

/-- `get_instance` returns. -/
def getInstance (p : Process) (pjsuaCreate : PjStatus) : Process :=
  { p with
    instanceCrated := (PjsuaInstanceHandle.getInstance p.instanceCrated pjsuaCreate).1
    instances :=
      match (PjsuaInstanceHandle.getInstance p.instanceCrated pjsuaCreate).2 with
      | .ok _ => p.instances ++ [.uninit]
      | .error _ => p.instances
    log := p.log ++ PjsuaInstance.createCalls p.instanceCrated pjsuaCreate }

/-- `AccountConfig::add_to_instance_init`; pjsua gives no account id that is in use. -/
def addAccount (p : Process) (index : ℕ) (pjsuaAccAdd : PjStatus) (accountId : Int)
    (accounts : List Int) : Option Process :=
  match getErrorAsResult pjsuaAccAdd with
  | .error _ => some { p with log := p.log ++ [.accAdd pjsuaAccAdd accountId] }
  | .ok () =>
    if accountId ∈ accounts then none
    else some { p with
      instances := p.instances.set index (.started (accounts ++ [accountId]))
      log := p.log ++ [.accAdd pjsuaAccAdd accountId] }

def step (p : Process) : ProcessEvent → Option Process
  | .getInstance pjsuaCreate => some (p.getInstance pjsuaCreate)
  | .init index pjsuaInit pjsuaSetNullSndDev pjsuaDestroy =>
    match p.instances[index]? with
    | some .uninit =>
      some (p.move index
        (PjsuaInstanceUninit.init pjsuaInit pjsuaSetNullSndDev pjsuaDestroy))
    | _ => none
  | .setTransport index pjsuaTransportCreate pjsuaDestroy =>
    match p.instances[index]? with
    | some .init =>
      some (p.move index (PjsuaInstanceInit.setTransport pjsuaTransportCreate pjsuaDestroy))
    | _ => none
  | .start index pjsuaStart pjsuaDestroy =>
    match p.instances[index]? with
    | some .initTransportConfigured =>
      some (p.move index (PjsuaInstanceInitTransportConfigured.start pjsuaStart pjsuaDestroy))
    | _ => none
  | .addAccount index pjsuaAccAdd accountId =>
    match p.instances[index]? with
    | some (.started accounts) => p.addAccount index pjsuaAccAdd accountId accounts
    | _ => none
  | .dropAccount index pjsuaAccDel accountId =>
    match p.instances[index]? with
    | some (.started accounts) =>
      if accountId ∈ accounts then
        some { p with
          instances := p.instances.set index (.started (accounts.erase accountId))
          log := p.log ++ [.accDel pjsuaAccDel accountId] }
      else none
    | _ => none
  | .drop index pjsuaDestroy =>
    match p.instances[index]? with
    | some held =>
      if held.isFree then
        some { p with
          instances := p.instances.eraseIdx index, log := p.log ++ [.destroy pjsuaDestroy] }
      else none
    | none => none
  | .newPool isNull =>
    some { p with pools := if isNull then p.pools else p.pools + 1, log := p.log ++ [.poolCreate] }
  | .alloc => if 0 < p.pools then some { p with log := p.log ++ [.poolCalloc] } else none
  | .dropPool =>
    if 0 < p.pools then some { p with pools := p.pools - 1, log := p.log ++ [.poolRelease] } else none
  | .spawnJob index =>
    match p.instances[index]? with
    | some (.started _) => some { p with jobs := p.jobs + 1 }
    | _ => none
  | .runJob => if 0 < p.jobs then some { p with jobs := p.jobs - 1, log := p.log ++ [.job] } else none

/-- A pool is made, used and released while an instance is held, a job runs while a started one
is. -/
def Covered (p : Process) (e : ProcessEvent) : Prop :=
  (e.usesPool = true → p.instances ≠ []) ∧
    (e = .runJob → ∃ held ∈ p.instances, held.isStarted = true)

instance (p : Process) (e : ProcessEvent) : Decidable (Covered p e) :=
  inferInstanceAs (Decidable ((_ → _) ∧ (_ → _)))

/-- pjsua is ready for every call. -/
def CallsLawful (p : Process) : Prop := (pjsuaSystem.run .unmade p.log).isSome = true

end Process

/-- The process, in any order of its steps. -/
def processSystem : System Process ProcessEvent := ⟨Process.step⟩

namespace Process

/-! ### The steps -/

/-- The methods that take an instance by move. -/
inductive Method : PjsuaInstance → ProcessEvent → ℕ → Moved → Prop
  | init {index : ℕ} (pjsuaInit pjsuaSetNullSndDev pjsuaDestroy : PjStatus) :
      Method .uninit (.init index pjsuaInit pjsuaSetNullSndDev pjsuaDestroy) index
        (PjsuaInstanceUninit.init pjsuaInit pjsuaSetNullSndDev pjsuaDestroy)
  | setTransport {index : ℕ} (pjsuaTransportCreate pjsuaDestroy : PjStatus) :
      Method .init (.setTransport index pjsuaTransportCreate pjsuaDestroy) index
        (PjsuaInstanceInit.setTransport pjsuaTransportCreate pjsuaDestroy)
  | start {index : ℕ} (pjsuaStart pjsuaDestroy : PjStatus) :
      Method .initTransportConfigured (.start index pjsuaStart pjsuaDestroy) index
        (PjsuaInstanceInitTransportConfigured.start pjsuaStart pjsuaDestroy)

/-- The steps of a process, one constructor for each way an instance, an account, a pool or a job
comes or goes. -/
inductive Steps (p : Process) : ProcessEvent → Process → Prop
  | getInstance (pjsuaCreate : PjStatus) :
      Steps p (.getInstance pjsuaCreate) (p.getInstance pjsuaCreate)
  | moved {e : ProcessEvent} {index : ℕ} {held : PjsuaInstance} {moved : Moved}
      (found : p.instances[index]? = some held) (method : Method held e index moved) :
      Steps p e (p.move index moved)
  | addRefused {index : ℕ} {pjsuaAccAdd : PjStatus} {accountId : Int} {accounts : List Int}
      (found : p.instances[index]? = some (.started accounts)) (failed : pjsuaAccAdd ≠ pjSuccess) :
      Steps p (.addAccount index pjsuaAccAdd accountId)
        { p with log := p.log ++ [.accAdd pjsuaAccAdd accountId] }
  | addAccount {index : ℕ} {accountId : Int} {accounts : List Int}
      (found : p.instances[index]? = some (.started accounts)) (free : accountId ∉ accounts) :
      Steps p (.addAccount index pjSuccess accountId)
        { p with
          instances := p.instances.set index (.started (accounts ++ [accountId]))
          log := p.log ++ [.accAdd pjSuccess accountId] }
  | dropAccount {index : ℕ} {pjsuaAccDel : PjStatus} {accountId : Int} {accounts : List Int}
      (found : p.instances[index]? = some (.started accounts)) (added : accountId ∈ accounts) :
      Steps p (.dropAccount index pjsuaAccDel accountId)
        { p with
          instances := p.instances.set index (.started (accounts.erase accountId))
          log := p.log ++ [.accDel pjsuaAccDel accountId] }
  | drop {index : ℕ} {pjsuaDestroy : PjStatus} {held : PjsuaInstance}
      (found : p.instances[index]? = some held) (free : held.isFree = true) :
      Steps p (.drop index pjsuaDestroy)
        { p with instances := p.instances.eraseIdx index, log := p.log ++ [.destroy pjsuaDestroy] }
  | newPool (isNull : Bool) :
      Steps p (.newPool isNull)
        { p with pools := if isNull then p.pools else p.pools + 1, log := p.log ++ [.poolCreate] }
  | alloc : Steps p .alloc { p with log := p.log ++ [.poolCalloc] }
  | dropPool :
      Steps p .dropPool { p with pools := p.pools - 1, log := p.log ++ [.poolRelease] }
  | spawnJob {index : ℕ} {accounts : List Int}
      (found : p.instances[index]? = some (.started accounts)) :
      Steps p (.spawnJob index) { p with jobs := p.jobs + 1 }
  | runJob : Steps p .runJob { p with jobs := p.jobs - 1, log := p.log ++ [.job] }

variable {p t : Process} {e : ProcessEvent}

theorem steps_of_addAccount {index : ℕ} {pjsuaAccAdd : PjStatus} {accountId : Int}
    {accounts : List Int} (found : p.instances[index]? = some (.started accounts))
    (stepped : p.addAccount index pjsuaAccAdd accountId accounts = some t) :
    Steps p (.addAccount index pjsuaAccAdd accountId) t := by
  unfold addAccount at stepped
  rcases getErrorAsResult_cases pjsuaAccAdd with ⟨rfl, given⟩ | ⟨failed, given⟩
  · rw [given] at stepped
    obtain ⟨free, same⟩ := Option.ite_none_left_eq_some.mp stepped
    cases same
    exact .addAccount found free
  · rw [given] at stepped
    cases stepped
    exact .addRefused found failed

/-- **Every step of the process is one of these.** -/
theorem steps_of_step (stepped : p.step e = some t) : Steps p e t := by
  unfold step at stepped
  split at stepped
  case h_1 pjsuaCreate =>
    cases stepped
    exact .getInstance pjsuaCreate
  case h_2 index pjsuaInit pjsuaSetNullSndDev pjsuaDestroy =>
    split at stepped
    case h_1 found =>
      cases stepped
      exact .moved found (.init _ _ _)
    case h_2 => cases stepped
  case h_3 index pjsuaTransportCreate pjsuaDestroy =>
    split at stepped
    case h_1 found =>
      cases stepped
      exact .moved found (.setTransport _ _)
    case h_2 => cases stepped
  case h_4 index pjsuaStart pjsuaDestroy =>
    split at stepped
    case h_1 found =>
      cases stepped
      exact .moved found (.start _ _)
    case h_2 => cases stepped
  case h_5 index pjsuaAccAdd accountId =>
    split at stepped
    case h_1 accounts found => exact steps_of_addAccount found stepped
    case h_2 => cases stepped
  case h_6 index pjsuaAccDel accountId =>
    split at stepped
    case h_1 accounts found =>
      obtain ⟨added, same⟩ := Option.ite_none_right_eq_some.mp stepped
      cases same
      exact .dropAccount found added
    case h_2 => cases stepped
  case h_7 index pjsuaDestroy =>
    split at stepped
    case h_1 held found =>
      obtain ⟨free, same⟩ := Option.ite_none_right_eq_some.mp stepped
      cases same
      exact .drop found free
    case h_2 => cases stepped
  case h_8 isNull =>
    cases stepped
    exact .newPool isNull
  case h_9 =>
    obtain ⟨_, same⟩ := Option.ite_none_right_eq_some.mp stepped
    cases same
    exact .alloc
  case h_10 =>
    obtain ⟨_, same⟩ := Option.ite_none_right_eq_some.mp stepped
    cases same
    exact .dropPool
  case h_11 index =>
    split at stepped
    case h_1 accounts found =>
      cases stepped
      exact .spawnJob found
    case h_2 => cases stepped
  case h_12 =>
    obtain ⟨_, same⟩ := Option.ite_none_right_eq_some.mp stepped
    cases same
    exact .runJob

/-- What pjsua is ready for once a method has returned. -/
def ready : Except PjsuaError PjsuaInstance → PjsuaState
  | .ok next => next.pjsua
  | .error _ => .gone

/-- After a call that has failed, the instance can be destroyed. -/
theorem run_failed {pjsua : PjsuaState} {call : ApiCall} (pjsuaDestroy : PjStatus)
    (fails : pjsua.step call = some .failed) :
    pjsuaSystem.run pjsua [call, .destroy pjsuaDestroy] = some .gone := by
  rw [System.run_cons]
  show (pjsua.step call).bind _ = _
  rw [fails]
  rfl

/-- **A method calls pjsua in order**, and destroys it when it fails. -/
theorem Method.reads {held : PjsuaInstance} {index : ℕ} {moved : Moved}
    (method : Method held e index moved) :
    pjsuaSystem.run held.pjsua moved.1 = some (ready moved.2) := by
  cases method with
  | init pjsuaInit pjsuaSetNullSndDev pjsuaDestroy =>
    unfold PjsuaInstanceUninit.init
    rcases getErrorAsResult_cases pjsuaInit with ⟨rfl, given⟩ | ⟨failed, given⟩
    · rw [given]
      dsimp only
      rcases getErrorAsResult_cases pjsuaSetNullSndDev with ⟨rfl, silenced⟩ | ⟨refused, silenced⟩
      · rw [silenced]
        rfl
      · have fails : PjsuaState.initialised.step (.setNullSndDev pjsuaSetNullSndDev) = some .failed :=
          congrArg some (if_neg refused)
        rw [silenced]
        exact run_failed pjsuaDestroy fails
    · rw [given]
      exact run_failed pjsuaDestroy (congrArg some (if_neg failed))
  | setTransport pjsuaTransportCreate pjsuaDestroy =>
    unfold PjsuaInstanceInit.setTransport
    rcases getErrorAsResult_cases pjsuaTransportCreate with ⟨rfl, given⟩ | ⟨failed, given⟩
    · rw [given]
      rfl
    · rw [given]
      exact run_failed pjsuaDestroy (congrArg some (if_neg failed))
  | start pjsuaStart pjsuaDestroy =>
    unfold PjsuaInstanceInitTransportConfigured.start
    rcases getErrorAsResult_cases pjsuaStart with ⟨rfl, given⟩ | ⟨failed, given⟩
    · rw [given]
      rfl
    · rw [given]
      exact run_failed pjsuaDestroy (congrArg some (if_neg failed))

/-! ### What pjsua is ready for -/

/-- What pjsua is ready for, by the flag and the instance that is held. -/
inductive Mirrors (p : Process) : PjsuaState → Prop
  | unmade (flag : p.instanceCrated = .release false) (none : p.instances = []) :
      Mirrors p .unmade
  | held {held : PjsuaInstance} (flag : p.instanceCrated = .release true)
      (one : p.instances = [held]) : Mirrors p held.pjsua
  | gone (flag : p.instanceCrated = .release true) (none : p.instances = []) : Mirrors p .gone

/-- An instance that is found is the only one. -/
theorem Mirrors.found {pjsua : PjsuaState} (mirrors : p.Mirrors pjsua) {index : ℕ}
    {held : PjsuaInstance} (found : p.instances[index]? = some held) :
    index = 0 ∧ p.instances = [held] ∧ pjsua = held.pjsua ∧ p.instanceCrated = .release true := by
  cases mirrors with
  | unmade flag none =>
    rw [none] at found
    cases found
  | held flag one =>
    rw [one] at found
    cases index with
    | zero =>
      cases found
      exact ⟨rfl, one, rfl, flag⟩
    | succ index => cases found
  | gone flag none =>
    rw [none] at found
    cases found

theorem isAlive_pjsua (held : PjsuaInstance) : held.pjsua.isAlive = true := by
  cases held <;> rfl

theorem isClear_pjsua (held : PjsuaInstance) : held.pjsua.isClear = held.isFree := by
  cases held <;> rfl

/-- The calls of a pool, when pjsua is there. -/
theorem run_pool {pjsua : PjsuaState} {call : ApiCall}
    (pool : call = .poolCreate ∨ call = .poolCalloc ∨ call = .poolRelease) :
    pjsuaSystem.run pjsua [call] = if pjsua.isAlive then some pjsua else none := by
  rw [System.run_cons]
  rcases pool with rfl | rfl | rfl <;> cases pjsua <;> rfl

theorem run_destroy (pjsua : PjsuaState) (pjsuaDestroy : PjStatus) :
    pjsuaSystem.run pjsua [.destroy pjsuaDestroy] =
      if pjsua.isAlive && pjsua.isClear then some .gone else none := by
  rw [System.run_cons]
  cases pjsua with
  | started accounts => cases accounts <;> rfl
  | _ => rfl

theorem Mirrors.isAlive {pjsua : PjsuaState} (mirrors : p.Mirrors pjsua) :
    pjsua.isAlive = true ↔ p.instances ≠ [] := by
  cases mirrors with
  | unmade flag none => simp [none, PjsuaState.isAlive]
  | held flag one => simp [one, isAlive_pjsua]
  | gone flag none => simp [none, PjsuaState.isAlive]

/-- The pools and the jobs do not matter. -/
theorem Mirrors.untouched {pjsua : PjsuaState} (mirrors : p.Mirrors pjsua)
    (flag : t.instanceCrated = p.instanceCrated) (instances : t.instances = p.instances) :
    t.Mirrors pjsua := by
  cases mirrors with
  | unmade unset none => exact .unmade (flag.trans unset) (instances.trans none)
  | held set one => exact .held (flag.trans set) (instances.trans one)
  | gone set none => exact .gone (flag.trans set) (instances.trans none)

/-- `get_instance` calls `pjsua_create` when the flag is unset. -/
theorem Mirrors.getInstance {pjsua : PjsuaState} (mirrors : p.Mirrors pjsua)
    (pjsuaCreate : PjStatus) :
    ∃ next, pjsuaSystem.run pjsua (PjsuaInstance.createCalls p.instanceCrated pjsuaCreate) =
        some next ∧ (p.getInstance pjsuaCreate).Mirrors next := by
  have refused : ∀ {instances : List PjsuaInstance}, p.instanceCrated = .release true →
      p.instances = instances →
        (p.getInstance pjsuaCreate).instanceCrated = .release true ∧
          (p.getInstance pjsuaCreate).instances = instances := by
    intro instances flag same
    unfold Process.getInstance
    rw [flag, same]
    exact ⟨rfl, rfl⟩
  cases mirrors with
  | unmade flag none =>
    have calls : PjsuaInstance.createCalls p.instanceCrated pjsuaCreate = [.create pjsuaCreate] := by
      rw [flag]
      rfl
    rw [calls]
    refine ⟨_, rfl, ?_⟩
    rcases getErrorAsResult_cases pjsuaCreate with ⟨success, ok⟩ | ⟨failed, error⟩
    · have given : PjsuaInstanceHandle.getInstance p.instanceCrated pjsuaCreate =
          (.release true, .ok {}) := by
        rw [flag]
        simp [PjsuaInstanceHandle.getInstance, Mutex.tryLock, Mutex.release, ok]
      rw [if_pos success]
      refine @Mirrors.held _ .uninit ?_ ?_ <;> simp [Process.getInstance, given, none]
    · have given : PjsuaInstanceHandle.getInstance p.instanceCrated pjsuaCreate =
          (.release true, .error (.ofStatus pjsuaCreate)) := by
        rw [flag]
        simp [PjsuaInstanceHandle.getInstance, Mutex.tryLock, Mutex.release, error]
      rw [if_neg failed]
      refine .gone ?_ ?_ <;> simp [Process.getInstance, given, none]
  | held flag one =>
    rw [flag]
    obtain ⟨still, same⟩ := refused flag one
    exact ⟨_, rfl, .held still same⟩
  | gone flag none =>
    rw [flag]
    obtain ⟨still, same⟩ := refused flag none
    exact ⟨_, rfl, .gone still same⟩

/-- The calls that a step adds to the log. -/
theorem Steps.grows (steps : Steps p e t) : p.log <+: t.log := by
  cases steps with
  | spawnJob found => exact List.prefix_rfl
  | _ => exact List.prefix_append _ _

/-- **pjsua is ready for the calls of a covered step.** -/
theorem Steps.reads {pjsua : PjsuaState} (steps : Steps p e t) (mirrors : p.Mirrors pjsua)
    (covered : p.Covered e) :
    ∃ word next, t.log = p.log ++ word ∧ pjsuaSystem.run pjsua word = some next ∧ t.Mirrors next := by
  cases steps with
  | getInstance pjsuaCreate =>
    obtain ⟨next, read, after⟩ := mirrors.getInstance pjsuaCreate
    exact ⟨_, next, rfl, read, after⟩
  | moved found method =>
    rename_i index held moved
    obtain ⟨rfl, one, rfl, flag⟩ := mirrors.found found
    refine ⟨_, _, rfl, method.reads, ?_⟩
    unfold Process.move
    cases moved.2 with
    | ok next => exact .held flag (by simp [one])
    | error error => exact .gone flag (by simp [one])
  | addRefused found failed =>
    obtain ⟨rfl, one, rfl, flag⟩ := mirrors.found found
    refine ⟨_, _, rfl, ?_, .held flag one⟩
    simp [System.run_cons, pjsuaSystem, PjsuaState.step, PjsuaInstance.pjsua, failed]
  | addAccount found free =>
    obtain ⟨rfl, one, rfl, flag⟩ := mirrors.found found
    refine ⟨_, _, rfl, ?_, .held flag (by simp only [one]; rfl)⟩
    simp [System.run_cons, pjsuaSystem, PjsuaState.step, PjsuaInstance.pjsua, free]
  | dropAccount found added =>
    obtain ⟨rfl, one, rfl, flag⟩ := mirrors.found found
    refine ⟨_, _, rfl, ?_, .held flag (by simp only [one]; rfl)⟩
    simp [System.run_cons, pjsuaSystem, PjsuaState.step, PjsuaInstance.pjsua, added]
  | drop found free =>
    rename_i index pjsuaDestroy held
    obtain ⟨rfl, one, rfl, flag⟩ := mirrors.found found
    refine ⟨_, .gone, rfl, ?_, .gone flag (by simp [one])⟩
    rw [run_destroy, isAlive_pjsua, isClear_pjsua, free]
    rfl
  | newPool isNull =>
    refine ⟨_, pjsua, rfl, ?_, mirrors.untouched rfl rfl⟩
    rw [run_pool (Or.inl rfl), if_pos (mirrors.isAlive.mpr (covered.1 rfl))]
  | alloc =>
    refine ⟨_, pjsua, rfl, ?_, mirrors.untouched rfl rfl⟩
    rw [run_pool (Or.inr (Or.inl rfl)), if_pos (mirrors.isAlive.mpr (covered.1 rfl))]
  | dropPool =>
    refine ⟨_, pjsua, rfl, ?_, mirrors.untouched rfl rfl⟩
    rw [run_pool (Or.inr (Or.inr rfl)), if_pos (mirrors.isAlive.mpr (covered.1 rfl))]
  | spawnJob found =>
    obtain ⟨rfl, one, rfl, flag⟩ := mirrors.found found
    exact ⟨[], _, (List.append_nil _).symm, rfl, .held flag one⟩
  | runJob =>
    obtain ⟨held, member, started⟩ := covered.2 rfl
    obtain ⟨index, found⟩ := List.getElem?_of_mem member
    obtain ⟨rfl, one, rfl, flag⟩ := mirrors.found found
    cases held with
    | started accounts => exact ⟨_, _, rfl, rfl, @Mirrors.held _ (.started accounts) flag one⟩
    | _ => cases started

/-- The events that need no instance are covered. -/
theorem covered_of_other (pooled : e.usesPool = false) (waits : e ≠ .runJob) : p.Covered e :=
  ⟨fun uses => absurd (pooled.symm.trans uses) Bool.false_ne_true, fun runs => absurd runs waits⟩

/-- **pjsua is not ready for the call of any other step.** -/
theorem Steps.refuses {pjsua : PjsuaState} (steps : Steps p e t) (mirrors : p.Mirrors pjsua)
    (uncovered : ¬ p.Covered e) :
    ∃ word, t.log = p.log ++ word ∧ pjsuaSystem.run pjsua word = none := by
  have dead : e.usesPool = true → e ≠ .runJob → ¬ pjsua.isAlive = true := fun _ waits alive =>
    uncovered ⟨fun _ => mirrors.isAlive.mp alive, fun runs => absurd runs waits⟩
  cases steps with
  | newPool isNull =>
    refine ⟨_, rfl, ?_⟩
    rw [run_pool (Or.inl rfl), if_neg (dead rfl nofun)]
  | alloc =>
    refine ⟨_, rfl, ?_⟩
    rw [run_pool (Or.inr (Or.inl rfl)), if_neg (dead rfl nofun)]
  | dropPool =>
    refine ⟨_, rfl, ?_⟩
    rw [run_pool (Or.inr (Or.inr rfl)), if_neg (dead rfl nofun)]
  | runJob =>
    refine ⟨_, rfl, ?_⟩
    cases mirrors with
    | unmade flag none => rfl
    | held flag one =>
      rename_i held
      cases held with
      | started accounts =>
        refine absurd ⟨nofun, fun _ => ⟨.started accounts, ?_, rfl⟩⟩ uncovered
        rw [one]
        exact List.mem_singleton_self _
      | _ => rfl
    | gone flag none => rfl
  | moved found method => cases method <;> exact (uncovered (covered_of_other rfl nofun)).elim
  | _ => exact (uncovered (covered_of_other rfl nofun)).elim

end Process

open Process

/-- **pjsua is ready for every call** of a process exactly when every pool is made, used and released
while an instance is held, and every job runs while a started one is. -/
theorem calls_lawful_iff {es : List ProcessEvent} {p : Process}
    (ran : processSystem.run Process.start es = some p) :
    p.CallsLawful ↔ processSystem.Meets Covered Process.start es :=
  processSystem.run_log_isSome_iff pjsuaSystem
    (fun _ _ _ stepped => (steps_of_step stepped).grows)
    (fun _ _ _ _ mirrors covered stepped => (steps_of_step stepped).reads mirrors covered)
    (fun _ _ _ _ mirrors uncovered stepped => (steps_of_step stepped).refuses mirrors uncovered)
    (.unmade rfl rfl : Process.start.Mirrors .unmade) rfl ran

/-- An instance that is started, has an account, and is dropped after its account and its pool. -/
def wholeLife : List ProcessEvent :=
  [.getInstance pjSuccess, .init 0 pjSuccess pjSuccess pjSuccess, .setTransport 0 pjSuccess pjSuccess,
    .start 0 pjSuccess pjSuccess, .newPool false, .alloc, .addAccount 0 pjSuccess 2,
    .getInstance pjSuccess, .spawnJob 0, .runJob, .dropAccount 0 pjSuccess 2, .dropPool, .drop 0 pjSuccess]

theorem calls_lawful_iff_wholeLife :
    ∃ p, processSystem.run Process.start wholeLife = some p ∧ p.CallsLawful := by
  refine ⟨_, rfl, ?_⟩
  exact (calls_lawful_iff (rfl : processSystem.run Process.start wholeLife = some _)).mpr (by decide)

/-- A pool that outlives its instance is allocated from after `pjsua_destroy`. -/
theorem not_calls_lawful :
    ¬ ∀ es p, processSystem.run Process.start es = some p → p.CallsLawful := by
  intro lawful
  have used := lawful [.getInstance pjSuccess, .newPool false, .drop 0 pjSuccess, .alloc] _ rfl
  cases used

/-! ### One instance, destroyed once -/

namespace Process

variable {p t : Process} {e : ProcessEvent}

/-- The instances that were made, held and destroyed. -/
structure Balanced (p : Process) : Prop where
  once : p.log.countP ApiCall.isCreate ≤ if p.instanceCrated.value then 1 else 0
  unlocked : p.instanceCrated.locked = false
  balance : p.log.countP ApiCall.isDestroy + p.instances.length = p.log.countP ApiCall.creates

/-- A method that fails destroys the instance, and no other does. -/
theorem Method.counts {held : PjsuaInstance} {index : ℕ} {moved : Moved}
    (method : Method held e index moved) :
    moved.1.countP ApiCall.isCreate = 0 ∧ moved.1.countP ApiCall.creates = 0 ∧
      moved.1.countP ApiCall.isDestroy = if moved.2.isOk then 0 else 1 := by
  cases method with
  | init pjsuaInit pjsuaSetNullSndDev pjsuaDestroy =>
    unfold PjsuaInstanceUninit.init
    cases getErrorAsResult pjsuaInit with
    | error error => exact ⟨rfl, rfl, rfl⟩
    | ok value => cases getErrorAsResult pjsuaSetNullSndDev <;> exact ⟨rfl, rfl, rfl⟩
  | setTransport pjsuaTransportCreate pjsuaDestroy =>
    unfold PjsuaInstanceInit.setTransport
    cases getErrorAsResult pjsuaTransportCreate <;> exact ⟨rfl, rfl, rfl⟩
  | start pjsuaStart pjsuaDestroy =>
    unfold PjsuaInstanceInitTransportConfigured.start
    cases getErrorAsResult pjsuaStart <;> exact ⟨rfl, rfl, rfl⟩

/-- A step that adds calls which neither create nor destroy, and keeps the instances as many. -/
theorem Balanced.quiet (balanced : p.Balanced) {calls : List ApiCall} {instances : List PjsuaInstance}
    (pools jobs : ℕ) (same : instances.length = p.instances.length)
    (creates : calls.countP ApiCall.isCreate = 0) (succeeds : calls.countP ApiCall.creates = 0)
    (destroys : calls.countP ApiCall.isDestroy = 0) :
    Balanced ⟨p.instanceCrated, instances, pools, jobs, p.log ++ calls⟩ := by
  refine ⟨?_, balanced.unlocked, ?_⟩
  · show (p.log ++ calls).countP _ ≤ _
    rw [List.countP_append, creates]
    exact balanced.once
  · show (p.log ++ calls).countP _ + instances.length = (p.log ++ calls).countP _
    rw [List.countP_append, List.countP_append, succeeds, destroys, same]
    exact balanced.balance

/-- A step that destroys the instance of an index. -/
theorem Balanced.destroyed (balanced : p.Balanced) {calls : List ApiCall} {index : ℕ}
    (inside : index < p.instances.length) (creates : calls.countP ApiCall.isCreate = 0)
    (succeeds : calls.countP ApiCall.creates = 0) (destroys : calls.countP ApiCall.isDestroy = 1) :
    Balanced { p with instances := p.instances.eraseIdx index, log := p.log ++ calls } := by
  have balance := balanced.balance
  refine ⟨?_, balanced.unlocked, ?_⟩
  · show (p.log ++ calls).countP _ ≤ _
    rw [List.countP_append, creates]
    exact balanced.once
  · show (p.log ++ calls).countP _ + (p.instances.eraseIdx index).length = (p.log ++ calls).countP _
    rw [List.countP_append, List.countP_append, succeeds, destroys,
      List.length_eraseIdx_of_lt inside]
    omega

/-- `get_instance` sets the flag, and calls `pjsua_create` only if it was unset. -/
theorem Balanced.getInstance (balanced : p.Balanced) (pjsuaCreate : PjStatus) :
    (p.getInstance pjsuaCreate).Balanced := by
  obtain ⟨⟨locked, created⟩, instances, pools, jobs, log⟩ := p
  have unlocked : locked = false := balanced.unlocked
  subst unlocked
  cases created with
  | true =>
    refine ⟨?_, rfl, ?_⟩
    · show (log ++ []).countP _ ≤ 1
      rw [List.append_nil]
      exact balanced.once
    · show (log ++ []).countP _ + instances.length = (log ++ []).countP _
      rw [List.append_nil]
      exact balanced.balance
  | false =>
    have none : log.countP ApiCall.isCreate ≤ 0 := balanced.once
    have balance : log.countP ApiCall.isDestroy + instances.length = log.countP ApiCall.creates :=
      balanced.balance
    rcases getErrorAsResult_cases pjsuaCreate with ⟨rfl, given⟩ | ⟨failed, given⟩
    · refine ⟨?_, rfl, ?_⟩
      · show (log ++ [ApiCall.create pjSuccess]).countP _ ≤ 1
        rw [List.countP_append]
        exact Nat.add_le_add_right none 1
      · show (log ++ [ApiCall.create pjSuccess]).countP _ +
          (instances ++ [PjsuaInstance.uninit]).length = (log ++ [ApiCall.create pjSuccess]).countP _
        rw [List.countP_append, List.countP_append, List.length_append]
        show _ + 0 + (_ + 1) = _ + 1
        omega
    · have refused : (PjsuaInstanceHandle.getInstance ⟨false, false⟩ pjsuaCreate) =
          (.release true, .error (.ofStatus pjsuaCreate)) := by
        unfold PjsuaInstanceHandle.getInstance
        rw [given]
        rfl
      refine ⟨?_, ?_, ?_⟩
      · show (log ++ [ApiCall.create pjsuaCreate]).countP _ ≤ _
        rw [List.countP_append]
        simp only [Process.getInstance, refused]
        exact Nat.add_le_add_right none 1
      · simp only [Process.getInstance, refused]
        rfl
      · simp only [Process.getInstance, refused]
        show (log ++ [ApiCall.create pjsuaCreate]).countP _ + _ =
          (log ++ [ApiCall.create pjsuaCreate]).countP _
        rw [List.countP_append, List.countP_append]
        have unmade : [ApiCall.create pjsuaCreate].countP ApiCall.creates = 0 := by
          simp [ApiCall.creates, failed]
        rw [unmade]
        exact balance

/-- **One step keeps the balance.** -/
theorem Balanced.step (balanced : p.Balanced) (stepped : p.step e = some t) : t.Balanced := by
  cases steps_of_step stepped with
  | getInstance pjsuaCreate => exact balanced.getInstance pjsuaCreate
  | moved found method =>
    rename_i index held moved
    obtain ⟨inside, _⟩ := List.getElem?_eq_some_iff.mp found
    obtain ⟨creates, succeeds, destroys⟩ := method.counts
    unfold Process.move
    cases result : moved.2 with
    | ok next =>
      rw [result] at destroys
      exact balanced.quiet p.pools p.jobs (List.length_set ..) creates succeeds destroys
    | error error =>
      rw [result] at destroys
      exact balanced.destroyed inside creates succeeds destroys
  | addRefused found failed => exact balanced.quiet p.pools p.jobs rfl rfl rfl rfl
  | addAccount found free => exact balanced.quiet p.pools p.jobs (List.length_set ..) rfl rfl rfl
  | dropAccount found added => exact balanced.quiet p.pools p.jobs (List.length_set ..) rfl rfl rfl
  | drop found free =>
    obtain ⟨inside, _⟩ := List.getElem?_eq_some_iff.mp found
    exact balanced.destroyed inside rfl rfl rfl
  | newPool isNull => exact balanced.quiet _ p.jobs rfl rfl rfl rfl
  | alloc => exact balanced.quiet p.pools p.jobs rfl rfl rfl rfl
  | dropPool => exact balanced.quiet _ p.jobs rfl rfl rfl rfl
  | spawnJob found => exact ⟨balanced.once, balanced.unlocked, balanced.balance⟩
  | runJob => exact balanced.quiet p.pools _ rfl rfl rfl rfl

end Process

/-- **Created once and destroyed once**: `pjsua_create` is called at most once, and every instance it
has made is held or was destroyed, whichever calls have failed. -/
theorem destroyed_once {es : List ProcessEvent} {p : Process}
    (ran : processSystem.run Process.start es = some p) :
    p.log.countP ApiCall.isCreate ≤ 1 ∧
      p.log.countP ApiCall.isDestroy + p.instances.length = p.log.countP ApiCall.creates := by
  have balanced : p.Balanced :=
    processSystem.run_keeps (fun _ _ _ before stepped => before.step stepped)
      ⟨Nat.zero_le _, rfl, rfl⟩ ran
  refine ⟨le_trans balanced.once ?_, balanced.balance⟩
  split <;> omega

/-- The transport cannot be made, and the instance with it is lost. -/
def transportRefused : List ProcessEvent :=
  [.getInstance pjSuccess, .init 0 pjSuccess pjSuccess pjSuccess, .setTransport 0 120098 pjSuccess,
    .getInstance pjSuccess]

theorem destroyed_once_refused :
    ∃ p, processSystem.run Process.start transportRefused = some p ∧
      p.log.countP ApiCall.isDestroy + p.instances.length = p.log.countP ApiCall.creates := by
  refine ⟨_, rfl, ?_⟩
  exact (destroyed_once (rfl : processSystem.run Process.start transportRefused = some _)).2

end PjsipClient
