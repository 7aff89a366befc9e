/-
The user data of a call is owned by its `PjsuaCallHandle`, and pjsua keeps a pointer to it.

A callback asks pjsua for the pointer, then for the call's info, and follows the pointer after that. A
`World` takes these as one step; a `Flight` takes them apart, so that everything else can come in
between: any number of callbacks are in flight, each with the pointer and the info that it got.

The handle's drop hangs up a call that is still active, after which no callback begins; one that has
begun goes on. A call that is already inactive is not hung up, and the pointer stays registered.

* `Flight.run_of_call` — the runs of a `World` are those in which nothing comes in between.
* `userData_live` — no callback follows a dangling pointer in a run that frees the handle's fields only
  when no callback that is in flight or due may still use them.
* `freed_awaited_used` — freeing them at any other time lets a callback do so.
-/

import PjsipClient.Lib.Refinement
import PjsipClient.PjsuaCall.World

namespace PjsipClient

open Transport Transition

/-! ### Callbacks in flight -/

/-- A callback that has asked for the user data and has not used it yet, with what
`pjsua_call_get_info` has told it. An `on_call_state` that gets no pointer returns at once. -/
inductive InFlight
  | onCallState (info : Option (CallMediaStatus × PjsipInvState))
  | onCallMediaState (registered : Bool) (info : Option (CallMediaStatus × PjsipInvState))
  deriving DecidableEq

namespace InFlight

def info : InFlight → Option (CallMediaStatus × PjsipInvState)
  | onCallState info | onCallMediaState _ info => info

def withInfo (info : CallMediaStatus × PjsipInvState) : InFlight → InFlight
  | onCallState _ => onCallState (some info)
  | onCallMediaState registered _ => onCallMediaState registered (some info)

def isCallState : InFlight → Bool
  | onCallState _ => true
  | _ => false

/-- Whether the callback may still follow its pointer, in a call of the given state. -/
def mayUse (inv : PjsipInvState) : InFlight → Bool
  | onCallState _ => true
  | onCallMediaState registered (some (media, state)) =>
    registered && (CallInfo.of media state).isHookup
  | onCallMediaState registered none => registered && decide (inv ≠ .disconnected)

end InFlight

/-- A call, and the callbacks in flight. -/
structure Flight where
  world : World
  callbacks : List InFlight
  deriving DecidableEq

/-- An event of the call, of which a callback's is its `pjsua_call_get_user_data`; or the callback of
this index goes on. -/
inductive FlightEvent
  | call (event : CallEvent)
  | getInfo (index : ℕ)
  | useUserData (index : ℕ)
  deriving DecidableEq

namespace World

/-- The call as `pjsua_call_get_info` has shown it. -/
def seen (w : World) (info : CallMediaStatus × PjsipInvState) : World :=
  { w with media := info.1, inv := info.2 }

/-- The call as it is, after what a callback did to the call that it has seen. -/
def unseen (w v : World) : World := { v with media := w.media, inv := w.inv }

/-- The rest of a callback. -/
def useUserData (w : World) (info : CallMediaStatus × PjsipInvState) : InFlight → World
  | .onCallState _ => { w.unseen (w.seen info).callState with outstanding := false }
  | .onCallMediaState true _ => w.unseen (w.seen info).mediaState
  | .onCallMediaState false _ =>
    if (CallInfo.of info.1 info.2).isHookup then { w with abort := some .nullDereference } else w

end World

namespace Flight

/-- `pjsua_call_get_user_data` of an `on_call_state`. -/
def onCallState (s : Flight) : Flight :=
  match s.world.userData with
  | .null => { s with world := { s.world with outstanding := false } }
  | _ => { s with callbacks := s.callbacks ++ [.onCallState none] }

/-- `pjsua_call_get_user_data` of an `on_call_media_state`. -/
def onCallMediaState (s : Flight) : Flight :=
  { s with
    callbacks := s.callbacks ++ [.onCallMediaState (decide (s.world.userData ≠ .null)) none] }

/-- A transition runs its `on_call_state` before the next one, unless the call is silenced; and no
callback begins in a silenced call. -/
def step (s : Flight) (e : FlightEvent) : Option Flight :=
  if s.world.abort = none ∧ s.world.object.phase ≠ .aborted then
    match e with
    | .call (.setState state) =>
      if (s.world.outstanding = false ∨ s.world.silenced = true) ∧ s.world.inv ≠ .disconnected then
        some { s with world := { s.world with inv := state, outstanding := true } }
      else none
    | .call .onCallState =>
      if s.world.outstanding = true ∧ s.world.silenced = false ∧
          ∀ callback ∈ s.callbacks, callback.isCallState = false then
        some s.onCallState
      else none
    | .call .onCallMediaState =>
      if s.world.silenced = false then some s.onCallMediaState else none
    | .call event => (s.world.step event).map fun world => { s with world := world }
    | .getInfo index =>
      match s.callbacks[index]? with
      | some callback =>
        if callback.info = none then
          some { s with
            callbacks := s.callbacks.set index (callback.withInfo (s.world.media, s.world.inv)) }
        else none
      | none => none
    | .useUserData index =>
      match s.callbacks[index]? with
      | some callback => callback.info.map fun info =>
          { world := s.world.useUserData info callback, callbacks := s.callbacks.eraseIdx index }
      | none => none
  else none

/-- A call whose notification was just taken out, in any state. -/
def start (callId confPort : Int) (inv : PjsipInvState) (media : CallMediaStatus)
    (outstanding : Bool) : Flight := ⟨.start callId confPort inv media outstanding, []⟩

end Flight

/-- One call with its callbacks in flight. -/
def flightSystem : System Flight FlightEvent := ⟨Flight.step⟩

/-- The handle's fields are freed when no change of state has still to be reported and no callback in
flight may still use them. -/
def FreedUnused (s : Flight) (e : FlightEvent) : Prop :=
  e = .call (.app .freeFields) →
    (s.world.outstanding = true → s.world.silenced = true) ∧
      ∀ callback ∈ s.callbacks, callback.mayUse s.world.inv = false

instance (s : Flight) (e : FlightEvent) : Decidable (FreedUnused s e) :=
  inferInstanceAs (Decidable (_ → _ ∧ _))

/-! ### What keeps the user data -/

namespace World

/-- What keeps callbacks from starting with freed user data: before the fields are freed the call is
over or silenced, and afterwards no report is outstanding. -/
structure Guarded (w : World) : Prop where
  freeing : ∀ {rest after}, w.object.phase = .dropping .freeFields rest after →
    w.silenced = true ∨ w.inv = .disconnected
  freed : w.userData = .dangling →
    w.silenced = true ∨ (w.inv = .disconnected ∧ w.outstanding = false)
  unused : w.abort ≠ some .useAfterFree

/-- A report through a pointer that does not dangle. -/
theorem Reported.unused {w v : World} (reported : Reported w v)
    (attached : w.userData ≠ .dangling) (unused : w.abort ≠ some .useAfterFree) :
    v.userData ≠ .dangling ∧ v.abort ≠ some .useAfterFree := by
  cases reported with
  | unregistered found => exact ⟨attached, unused⟩
  | dangling found => exact absurd found attached
  | sent found accepted => exact ⟨fun same => (by cases same), unused⟩
  | refused found rejected => exact ⟨attached, fun same => (by cases same)⟩

/-- A media callback that follows no dangling pointer. -/
theorem MediaSeen.unused {w v : World} (seen : MediaSeen w v)
    (attached : w.callInfo.isHookup = true → w.userData ≠ .dangling)
    (unused : w.abort ≠ some .useAfterFree) :
    (v.userData = .dangling → w.userData = .dangling) ∧ v.abort ≠ some .useAfterFree := by
  cases seen with
  | idle idle => exact ⟨id, unused⟩
  | unregistered hookup found => exact ⟨id, fun same => (by cases same)⟩
  | dangling hookup found => exact absurd found (attached hookup)
  | noReceiver hookup found none => exact ⟨id, unused⟩
  | unsent hookup found receiver unsent => exact ⟨id, fun same => (by cases same)⟩
  | noPort hookup found sent invalid =>
    exact ⟨fun dangling => (by cases dangling), fun same => (by cases same)⟩
  | received hookup found sent valid => exact ⟨fun dangling => (by cases dangling), unused⟩

theorem Reported.attached {w v : World} (reported : Reported w v)
    (dangling : v.userData = .dangling) : w.userData = .dangling := by
  cases reported with
  | sent found accepted => cases dangling
  | _ => exact dangling

/-- What a hang-up does to the state and to the user data. -/
theorem HungUp.ends {w v : World} {code : ℕ} {status : PjStatus} (hungUp : HungUp w code status v) :
    (v.inv = w.inv ∨ v.inv = .disconnected) ∧ (v.userData = .dangling → w.userData = .dangling) := by
  cases hungUp with
  | silent ended => exact ⟨ended, id⟩
  | reported accepted active heard reported => exact ⟨Or.inr reported.same.inv, reported.attached⟩

/-- No operation of the application but the drop frees the user data. -/
theorem Effects.attached {w next : World} {event : AppEvent} (effects : Effects w event next)
    (keeps : event ≠ .freeFields) (dangling : next.userData = .dangling) :
    w.userData = .dangling := by
  cases effects with
  | setUserData status =>
    by_cases accepted : status = pjSuccess
    · have registered : UserDataPointer.live .new = .dangling := by rwa [if_pos accepted] at dangling
      cases registered
    · have unchanged : w.userData = .dangling := by rwa [if_neg accepted] at dangling
      exact unchanged
  | sendMediaData found => cases dangling
  | recvState found received => cases dangling
  | reject hungUp => exact hungUp.ends.2 dangling
  | hangupCall hungUp => exact hungUp.ends.2 dangling
  | freeFields => exact absurd rfl keeps
  | _ => exact dangling

theorem Effects.inv {w next : World} {event : AppEvent} (effects : Effects w event next) :
    next.inv = w.inv ∨ next.inv = .disconnected := by
  cases effects with
  | reject hungUp => exact hungUp.ends.1
  | hangupCall hungUp => exact hungUp.ends.1
  | _ => exact Or.inl rfl

/-- A hang-up reports an active call only, whose user data is still there. -/
theorem Guarded.hungUp {w v : World} {code : ℕ} {status : PjStatus} (guarded : w.Guarded)
    (hungUp : HungUp w code status v) : v.silenced = true ∧ v.abort ≠ some .useAfterFree := by
  cases hungUp with
  | silent ended => exact ⟨rfl, guarded.unused⟩
  | reported accepted active heard reported =>
    refine ⟨rfl, (reported.unused ?_ guarded.unused).2⟩
    intro found
    rcases guarded.freed found with silent | ⟨finished, _⟩
    · rw [heard] at silent
      cases silent
    · exact active finished

/-- An operation of the application silences the call or leaves its state as it was. -/
theorem Effects.frame {w next : World} {event : AppEvent} (effects : Effects w event next) :
    next.silenced = true ∨
      (next.silenced = w.silenced ∧ next.inv = w.inv ∧ next.outstanding = w.outstanding) := by
  cases effects with
  | reject hungUp =>
    refine Or.inl ?_
    cases hungUp <;> rfl
  | hangupCall hungUp =>
    refine Or.inl ?_
    cases hungUp <;> rfl
  | _ => exact Or.inr ⟨rfl, rfl, rfl⟩

/-- No operation of the application uses freed user data. -/
theorem Guarded.effects {w next : World} {event : AppEvent} (guarded : w.Guarded)
    (effects : Effects w event next) : next.abort ≠ some .useAfterFree := by
  cases effects with
  | reject hungUp => exact (guarded.hungUp hungUp).2
  | hangupCall hungUp => exact (guarded.hungUp hungUp).2
  | _ => exact guarded.unused

/-- The fields come to be freed after a check that finds the call over, or after a hang-up. -/
theorem Guarded.freeing_app {w next : World} {event : AppEvent} {object : CallObject}
    (guarded : w.Guarded) (moved : w.object.Moves event object) (effects : Effects w event next)
    {rest : List Owned} {after : After} (frees : object.phase = .dropping .freeFields rest after) :
    next.silenced = true ∨ next.inv = .disconnected := by
  have staged := moved.staged frees
  generalize stageEq : DropStage.freeFields = stage at staged
  cases staged with
  | stayed same =>
    rcases effects.frame with silenced | ⟨silence, state, _⟩
    · exact Or.inl silenced
    · rw [silence, state]
      exact guarded.freeing (same.symm.trans frees)
  | active => cases stageEq
  | ended =>
    cases effects with
    | checkActive answered =>
      have finished : ¬ w.inv ≠ .disconnected := of_decide_eq_false answered.symm
      exact Or.inr (not_not.mp finished)
    | quiet quiet => cases quiet
  | hungUp status =>
    cases effects with
    | hangupCall hungUp => exact Or.inl (guarded.hungUp hungUp).1
    | quiet quiet => cases quiet
  | elsewhere away => exact absurd stageEq.symm away.2

/-- What leaves the state of the call and the application's object keeps the user data guarded. -/
theorem Guarded.frame {w v : World} (guarded : w.Guarded) (object : v.object = w.object)
    (inv : v.inv = w.inv) (silenced : v.silenced = w.silenced)
    (outstanding : w.outstanding = false → v.outstanding = false)
    (userData : v.userData = .dangling → w.userData = .dangling)
    (unused : v.abort ≠ some .useAfterFree) : v.Guarded := by
  refine ⟨?_, ?_, unused⟩
  · intro rest after frees
    rw [inv, silenced]
    exact guarded.freeing (object ▸ frees)
  · intro dangling
    rw [inv, silenced]
    exact (guarded.freed (userData dangling)).imp_right fun finished =>
      ⟨finished.1, outstanding finished.2⟩

/-- An operation of the application keeps it, if the fields are freed as they should be. -/
theorem Guarded.app {w next : World} {event : AppEvent} {object : CallObject} (guarded : w.Guarded)
    (moved : w.object.Moves event object) (effects : Effects w event next)
    (reported : event = .freeFields → w.outstanding = true → w.silenced = true) :
    Guarded { next with object := object } := by
  have unused := guarded.effects effects
  refine ⟨?_, ?_, unused⟩
  · intro rest after freeing
    have kept := guarded.freeing_app moved effects freeing
    exact kept
  · intro dangling
    have before : w.silenced = true ∨ (w.inv = .disconnected ∧ w.outstanding = false) := by
      by_cases frees : event = .freeFields
      · subst frees
        cases moved with
        | freeFields was =>
          cases outstanding : w.outstanding with
          | true => exact Or.inl (reported rfl outstanding)
          | false => exact (guarded.freeing was).imp_right fun finished => ⟨finished, rfl⟩
      · exact guarded.freed (effects.attached frees dangling)
    rcases effects.frame with silenced | ⟨silence, state, due⟩
    · exact Or.inl silenced
    · show next.silenced = true ∨ (next.inv = .disconnected ∧ next.outstanding = false)
      rw [silence, state, due]
      exact before

/-- The rest of a callback that does not use freed user data. -/
theorem Guarded.useUserData {w : World} {callback : InFlight}
    {info : CallMediaStatus × PjsipInvState} (guarded : w.Guarded) (told : callback.info = some info)
    (unused : w.userData = .dangling → callback.mayUse w.inv = false) :
    (w.useUserData info callback).Guarded ∧ (w.useUserData info callback).inv = w.inv ∧
      ((w.useUserData info callback).userData = .dangling → w.userData = .dangling) := by
  cases callback with
  | onCallState asked =>
    have attached : (w.seen info).userData ≠ .dangling := fun dangling => by cases unused dangling
    have reported := (w.seen info).callState_reported
    obtain ⟨still, unharmed⟩ := reported.unused attached guarded.unused
    have same := reported.same
    refine ⟨?_, rfl, fun dangling => absurd dangling still⟩
    exact guarded.frame same.object rfl same.silenced (fun _ => rfl)
      (fun dangling => absurd dangling still) unharmed
  | onCallMediaState registered asked =>
    cases told
    cases registered with
    | true =>
      have attached : (w.seen info).callInfo.isHookup = true → (w.seen info).userData ≠ .dangling := by
        intro hookup dangling
        have idle : (true && (CallInfo.of info.1 info.2).isHookup) = false := unused dangling
        rw [Bool.true_and] at idle
        exact Bool.false_ne_true (idle.symm.trans hookup)
      have found := (w.seen info).mediaState_seen
      obtain ⟨still, unharmed⟩ := found.unused attached guarded.unused
      have same := found.same
      refine ⟨?_, rfl, still⟩
      exact guarded.frame same.object rfl same.silenced (fun quiet => same.outstanding.trans quiet)
        still unharmed
    | false =>
      by_cases hookup : (CallInfo.of info.1 info.2).isHookup = true
      · have dereferenced : w.useUserData info (.onCallMediaState false (some info)) =
            { w with abort := some .nullDereference } := if_pos hookup
        rw [dereferenced]
        exact ⟨guarded.frame rfl rfl rfl id id (by simp), rfl, id⟩
      · have same : w.useUserData info (.onCallMediaState false (some info)) = w := if_neg hookup
        rw [same]
        exact ⟨guarded, rfl, id⟩

/-- Without a pointer, `on_call_media_state` goes on as its one step does. -/
theorem useUserData_null (w : World) (found : w.userData = .null) :
    w.useUserData (w.media, w.inv) (.onCallMediaState false (some (w.media, w.inv))) =
      w.mediaState := by
  show (if w.callInfo.isHookup then { w with abort := some .nullDereference } else w) = w.mediaState
  have seen := w.mediaState_seen
  generalize w.mediaState = v at seen
  cases seen with
  | idle idle => simp [idle]
  | unregistered hookup found => simp [hookup]
  | dangling hookup dangling => exact absurd (found.symm.trans dangling) (by simp)
  | noReceiver hookup live none => exact absurd (found.symm.trans live) (by simp)
  | unsent hookup live receiver unsent => exact absurd (found.symm.trans live) (by simp)
  | noPort hookup live sent invalid => exact absurd (found.symm.trans live) (by simp)
  | received hookup live sent valid => exact absurd (found.symm.trans live) (by simp)

theorem callState_dangling {w : World} (found : w.userData = .dangling) :
    w.callState.abort = some .useAfterFree := by
  unfold callState
  rw [found]

theorem mediaState_dangling {w : World} (found : w.userData = .dangling)
    (hookup : w.callInfo.isHookup = true) : w.mediaState.abort = some .useAfterFree := by
  unfold mediaState
  rw [found]
  exact congrArg World.abort (if_pos hookup)

theorem guarded_start (callId confPort : Int) (inv : PjsipInvState) (media : CallMediaStatus)
    (outstanding : Bool) : (start callId confPort inv media outstanding).Guarded :=
  ⟨fun frees => (by cases frees), fun dangling => (by cases dangling), fun same => (by cases same)⟩

end World

namespace Flight

/-! ### The steps -/

/-- The steps of a flight, one constructor for each kind of event. -/
inductive Steps (s : Flight) : FlightEvent → Flight → Prop
  | setState {state : PjsipInvState}
      (between : s.world.outstanding = false ∨ s.world.silenced = true)
      (alive : s.world.inv ≠ .disconnected) :
      Steps s (.call (.setState state))
        { s with world := { s.world with inv := state, outstanding := true } }
  | unregistered (due : s.world.outstanding = true) (heard : s.world.silenced = false)
      (found : s.world.userData = .null) :
      Steps s (.call .onCallState) { s with world := { s.world with outstanding := false } }
  | onCallState (due : s.world.outstanding = true) (heard : s.world.silenced = false) :
      Steps s (.call .onCallState) { s with callbacks := s.callbacks ++ [.onCallState none] }
  | onCallMediaState (heard : s.world.silenced = false) :
      Steps s (.call .onCallMediaState) s.onCallMediaState
  | setMedia {status : CallMediaStatus} :
      Steps s (.call (.setMedia status)) { s with world := { s.world with media := status } }
  | connect {status : PjStatus} {port : MediaPort} {rest : List MediaPort} :
      Steps s (.call (.connect status)) { s with world := s.world.connect status port rest }
  | app {event : AppEvent} {object : CallObject} {next : World}
      (moved : s.world.object.Moves event object) (effects : s.world.Effects event next) :
      Steps s (.call (.app event)) { s with world := { next with object := object } }
  | getInfo {index : ℕ} {callback : InFlight} (running : s.callbacks[index]? = some callback)
      (unasked : callback.info = none) :
      Steps s (.getInfo index) { s with
        callbacks := s.callbacks.set index (callback.withInfo (s.world.media, s.world.inv)) }
  | useUserData {index : ℕ} {callback : InFlight} {info : CallMediaStatus × PjsipInvState}
      (running : s.callbacks[index]? = some callback) (told : callback.info = some info) :
      Steps s (.useUserData index)
        { world := s.world.useUserData info callback, callbacks := s.callbacks.eraseIdx index }

/-- What is not a callback is as it is in the call. -/
theorem steps_of_call {s : Flight} {event : CallEvent} {world : World}
    (stepped : s.world.step event = some world) (setMedia : ∀ state, event ≠ .setState state)
    (onCallState : event ≠ .onCallState) (onCallMediaState : event ≠ .onCallMediaState) :
    Steps s (.call event) { s with world := world } := by
  cases (World.steps_of_step stepped).2 with
  | setState => exact absurd rfl (setMedia _)
  | onCallState => exact absurd rfl onCallState
  | setMedia => exact .setMedia
  | onCallMediaState => exact absurd rfl onCallMediaState
  | connect => exact .connect
  | app moved effects => exact .app moved effects

/-- **Every step of a flight is one of these.** -/
theorem steps_of_step {s t : Flight} {e : FlightEvent} (stepped : s.step e = some t) :
    s.world.abort = none ∧ Steps s e t := by
  obtain ⟨⟨alive, _⟩, stepped⟩ := Option.ite_none_right_eq_some.mp stepped
  refine ⟨alive, ?_⟩
  cases e with
  | call event =>
    cases event with
    | setState state =>
      obtain ⟨⟨between, alive⟩, moved⟩ := Option.ite_none_right_eq_some.mp stepped
      cases moved
      exact .setState between alive
    | onCallState =>
      obtain ⟨⟨due, heard, _⟩, moved⟩ := Option.ite_none_right_eq_some.mp stepped
      cases moved
      unfold Flight.onCallState
      split
      case h_1 found => exact .unregistered due heard found
      case h_2 => exact .onCallState due heard
    | onCallMediaState =>
      obtain ⟨heard, moved⟩ := Option.ite_none_right_eq_some.mp stepped
      cases moved
      exact .onCallMediaState heard
    | setMedia status =>
      obtain ⟨world, moved, rfl⟩ := Option.map_eq_some_iff.mp stepped
      exact steps_of_call moved (by simp) (by simp) (by simp)
    | connect status =>
      obtain ⟨world, moved, rfl⟩ := Option.map_eq_some_iff.mp stepped
      exact steps_of_call moved (by simp) (by simp) (by simp)
    | app event =>
      obtain ⟨world, moved, rfl⟩ := Option.map_eq_some_iff.mp stepped
      exact steps_of_call moved (by simp) (by simp) (by simp)
  | getInfo index =>
    cases running : s.callbacks[index]? with
    | none => simp [running] at stepped
    | some callback =>
      simp only [running] at stepped
      obtain ⟨unasked, moved⟩ := Option.ite_none_right_eq_some.mp stepped
      cases moved
      exact .getInfo running unasked
  | useUserData index =>
    cases running : s.callbacks[index]? with
    | none => simp [running] at stepped
    | some callback =>
      simp only [running] at stepped
      obtain ⟨info, told, rfl⟩ := Option.map_eq_some_iff.mp stepped
      exact .useUserData running told

/-! ### Safety -/

/-- The call is guarded, and no callback in flight may still use what was freed. -/
structure Guarded (s : Flight) : Prop where
  world : s.world.Guarded
  unused : s.world.userData = .dangling →
    ∀ callback ∈ s.callbacks, callback.mayUse s.world.inv = false

/-- Once the call is over, no more callbacks may use their pointers. -/
theorem mayUse_disconnected {callback : InFlight} {inv : PjsipInvState}
    (unused : callback.mayUse inv = false) : callback.mayUse .disconnected = false := by
  cases callback with
  | onCallState info => cases unused
  | onCallMediaState registered info =>
    cases info with
    | some info => exact unused
    | none => simp [InFlight.mayUse]

/-- A callback that may not use its pointer in a call that is not over never may. -/
theorem mayUse_of_alive {callback : InFlight} {inv after : PjsipInvState}
    (alive : inv ≠ .disconnected) (unused : callback.mayUse inv = false) :
    callback.mayUse after = false := by
  cases callback with
  | onCallState info => cases unused
  | onCallMediaState registered info =>
    cases info with
    | some info => exact unused
    | none =>
      have pointer : registered = false := by simpa [InFlight.mayUse, alive] using unused
      rw [pointer]
      rfl

/-- A callback that may not use its pointer may not when it was told about the call. -/
theorem mayUse_info {callback : InFlight} {inv : PjsipInvState}
    (unused : callback.mayUse inv = false) (unasked : callback.info = none)
    (media : CallMediaStatus) : (callback.withInfo (media, inv)).mayUse inv = false := by
  cases callback with
  | onCallState info => cases unused
  | onCallMediaState registered info =>
    cases unasked
    have idle : (registered && decide (inv ≠ .disconnected)) = false := unused
    show (registered && (CallInfo.of media inv).isHookup) = false
    cases registered with
    | false => rfl
    | true =>
      have finished : inv = .disconnected := by simpa using idle
      rw [finished]
      cases media <;> rfl

/-- **One step keeps the user data guarded.** -/
theorem Guarded.step {s t : Flight} {e : FlightEvent} (freed : FreedUnused s e)
    (guarded : s.Guarded) (stepped : s.step e = some t) : t.Guarded := by
  obtain ⟨_, steps⟩ := steps_of_step stepped
  cases steps with
  | setState between alive =>
    rename_i state
    have silenced : s.world.silenced = true ∨ s.world.inv = .disconnected →
        s.world.silenced = true := fun known => known.resolve_right alive
    refine ⟨⟨fun frees => Or.inl (silenced (guarded.world.freeing frees)), ?_,
      guarded.world.unused⟩, ?_⟩
    · intro dangling
      exact Or.inl ((guarded.world.freed dangling).resolve_right fun finished => alive finished.1)
    · -- no callback that has still to ask may use the pointer: the call was not over
      intro dangling callback member
      exact mayUse_of_alive alive (guarded.unused dangling callback member)
  | unregistered due heard found =>
    refine ⟨guarded.world.frame rfl rfl rfl (fun _ => rfl) id guarded.world.unused, ?_⟩
    intro dangling
    exact absurd (found.symm.trans dangling) (by simp)
  | onCallState due heard =>
    refine ⟨guarded.world, fun dangling => ?_⟩
    rcases guarded.world.freed dangling with silenced | ⟨_, reported⟩
    · exact absurd (heard.symm.trans silenced) (by simp)
    · exact absurd (due.symm.trans reported) (by simp)
  | onCallMediaState heard =>
    refine ⟨guarded.world, fun dangling callback member => ?_⟩
    rcases List.mem_append.mp member with old | new
    · exact guarded.unused dangling callback old
    · obtain rfl := List.mem_singleton.mp new
      have finished : s.world.inv = .disconnected := by
        rcases guarded.world.freed dangling with silenced | ⟨finished, _⟩
        · exact absurd (heard.symm.trans silenced) (by simp)
        · exact finished
      show (_ && decide (s.world.inv ≠ .disconnected)) = false
      simp [finished]
  | setMedia =>
    exact ⟨guarded.world.frame rfl rfl rfl id id guarded.world.unused, guarded.unused⟩
  | connect =>
    rw [World.connect_eq]
    refine ⟨guarded.world.frame rfl rfl rfl id id ?_, guarded.unused⟩
    show (if _ then s.world.abort else _) ≠ _
    split
    · exact guarded.world.unused
    · exact fun same => (by cases same)
  | app moved effects =>
    rename_i event object next
    have reported : event = .freeFields → s.world.outstanding = true → s.world.silenced = true :=
      fun frees => (freed (by rw [frees])).1
    refine ⟨guarded.world.app moved effects reported, fun dangling callback member => ?_⟩
    have unused : callback.mayUse s.world.inv = false := by
      by_cases frees : event = .freeFields
      · exact (freed (by rw [frees])).2 callback member
      · exact guarded.unused (effects.attached frees dangling) callback member
    rcases effects.inv with same | finished
    · show callback.mayUse next.inv = false
      rw [same]
      exact unused
    · show callback.mayUse next.inv = false
      rw [finished]
      exact mayUse_disconnected unused
  | getInfo running unasked =>
    refine ⟨guarded.world, fun dangling callback member => ?_⟩
    rcases List.mem_or_eq_of_mem_set member with old | rfl
    · exact guarded.unused dangling callback old
    · exact mayUse_info (guarded.unused dangling _ (List.mem_of_getElem? running)) unasked _
  | useUserData running told =>
    have unused := fun dangling => guarded.unused dangling _ (List.mem_of_getElem? running)
    obtain ⟨world, inv, still⟩ := guarded.world.useUserData told unused
    refine ⟨world, fun dangling callback member => ?_⟩
    show callback.mayUse (World.useUserData _ _ _).inv = false
    rw [inv]
    exact guarded.unused (still dangling) callback (List.mem_of_mem_eraseIdx member)

/-! ### The other direction -/

/-- The fields are freed and the pointer is still registered, in a process that goes on. -/
structure Freed (s : Flight) : Prop where
  alive : s.world.abort = none
  going : s.world.object.phase ≠ .aborted
  dangling : s.world.userData = .dangling

/-- A callback can come to follow the pointer. -/
def Faulty (s : Flight) : Prop :=
  ∃ fs t, flightSystem.run s fs = some t ∧ t.world.abort = some .useAfterFree

theorem Faulty.of_step {s t : Flight} {e : FlightEvent} (stepped : s.step e = some t)
    (faulty : t.Faulty) : s.Faulty := by
  obtain ⟨fs, u, ran, fault⟩ := faulty
  exact ⟨e :: fs, u, flightSystem.run_cons_eq_some.mpr ⟨t, stepped, ran⟩, fault⟩

section Freed

variable {s : Flight} {index : ℕ} {callback : InFlight}

theorem Freed.getInfo (freed : s.Freed) (running : s.callbacks[index]? = some callback)
    (unasked : callback.info = none) :
    s.step (.getInfo index) = some { s with
      callbacks := s.callbacks.set index (callback.withInfo (s.world.media, s.world.inv)) } := by
  simp [Flight.step, freed.alive, freed.going, running, unasked]

theorem Freed.useUserData {info : CallMediaStatus × PjsipInvState} (freed : s.Freed)
    (running : s.callbacks[index]? = some callback) (told : callback.info = some info) :
    s.step (.useUserData index) = some
      { world := s.world.useUserData info callback, callbacks := s.callbacks.eraseIdx index } := by
  simp [Flight.step, freed.alive, freed.going, running, told]

/-- A callback that was told what it needs follows the pointer. -/
theorem Freed.faulty_told {info : CallMediaStatus × PjsipInvState} (freed : s.Freed)
    (running : s.callbacks[index]? = some callback) (told : callback.info = some info)
    (uses : callback.mayUse s.world.inv = true) : s.Faulty := by
  refine Faulty.of_step (freed.useUserData running told) ⟨[], _, rfl, ?_⟩
  cases callback with
  | onCallState asked => exact World.callState_dangling (w := s.world.seen info) freed.dangling
  | onCallMediaState registered asked =>
    cases told
    obtain ⟨rfl, hookup⟩ := Bool.and_eq_true_iff.mp uses
    exact World.mediaState_dangling (w := s.world.seen info) freed.dangling hookup

/-- So does one that has still to be told, of a call that it is shown as confirmed with active
media. -/
theorem Freed.faulty_asking (freed : s.Freed) (running : s.callbacks[index]? = some callback)
    (unasked : callback.info = none) (media : s.world.media = .active)
    (inv : s.world.inv = .confirmed) (uses : callback.mayUse s.world.inv = true) : s.Faulty := by
  have bound : index < s.callbacks.length := (List.getElem?_eq_some_iff.mp running).1
  refine Faulty.of_step (freed.getInfo running unasked) ?_
  have told : (callback.withInfo (s.world.media, s.world.inv)).info =
      some (s.world.media, s.world.inv) := by cases callback <;> rfl
  refine Freed.faulty_told ⟨freed.alive, freed.going, freed.dangling⟩
    (List.getElem?_set_self bound) told ?_
  cases callback with
  | onCallState asked => rfl
  | onCallMediaState registered asked =>
    cases unasked
    have pointer : registered = true := (Bool.and_eq_true_iff.mp uses).1
    show (registered && (CallInfo.of s.world.media s.world.inv).isHookup) = true
    rw [pointer, media, inv]
    rfl

/-- An `on_call_state` in flight follows its pointer whatever it is told. -/
theorem Freed.faulty_callState {asked : Option (CallMediaStatus × PjsipInvState)} (freed : s.Freed)
    (running : s.callbacks[index]? = some (.onCallState asked)) : s.Faulty := by
  have bound : index < s.callbacks.length := (List.getElem?_eq_some_iff.mp running).1
  cases asked with
  | some info => exact freed.faulty_told running rfl rfl
  | none =>
    refine Faulty.of_step (freed.getInfo running rfl) ?_
    exact Freed.faulty_told ⟨freed.alive, freed.going, freed.dangling⟩
      (List.getElem?_set_self bound) rfl rfl

/-- A change of state that has still to be reported is reported through the pointer. -/
theorem Freed.faulty_due (freed : s.Freed) (due : s.world.outstanding = true)
    (heard : s.world.silenced = false) : s.Faulty := by
  by_cases begun : ∀ callback ∈ s.callbacks, callback.isCallState = false
  · have asks : s.step (.call .onCallState) =
        some { s with callbacks := s.callbacks ++ [.onCallState none] } := by
      simpa [Flight.step, freed.alive, freed.going, due, heard, onCallState, freed.dangling]
        using begun
    have running : (s.callbacks ++ [.onCallState none])[s.callbacks.length]? =
        some (.onCallState none) := by simp
    refine Faulty.of_step asks ?_
    exact Freed.faulty_callState ⟨freed.alive, freed.going, freed.dangling⟩ running
  · push Not at begun
    obtain ⟨callback, member, isCallState⟩ := begun
    obtain ⟨index, running⟩ := List.getElem?_of_mem member
    cases callback with
    | onCallState asked => exact freed.faulty_callState running
    | onCallMediaState registered asked => exact absurd rfl isCallState

/-- **A callback in flight that may use the pointer** can come to do so. -/
theorem Freed.faulty_inFlight (freed : s.Freed) (member : callback ∈ s.callbacks)
    (uses : callback.mayUse s.world.inv = true)
    (reported : s.world.outstanding = true → s.world.silenced = true) : s.Faulty := by
  obtain ⟨index, running⟩ := List.getElem?_of_mem member
  cases callback with
  | onCallState asked => exact freed.faulty_callState running
  | onCallMediaState registered asked =>
    cases asked with
    | some info => exact freed.faulty_told running rfl uses
    | none =>
      obtain ⟨rfl, alive⟩ := Bool.and_eq_true_iff.mp uses
      -- the call is confirmed and its media active before the callback asks
      have between : s.world.outstanding = false ∨ s.world.silenced = true := by
        cases outstanding : s.world.outstanding with
        | false => exact Or.inl rfl
        | true => exact Or.inr (reported outstanding)
      have confirms : s.step (.call (.setState .confirmed)) = some
          { s with world := { s.world with inv := .confirmed, outstanding := true } } := by
        simp [Flight.step, freed.alive, freed.going, between, of_decide_eq_true alive]
      have activates : Flight.step
          { s with world := { s.world with inv := .confirmed, outstanding := true } }
          (.call (.setMedia .active)) = some { s with
            world := { s.world with inv := .confirmed, outstanding := true, media := .active } } := by
        simp [Flight.step, World.step, freed.alive, freed.going]
      refine Faulty.of_step confirms (Faulty.of_step activates ?_)
      exact Freed.faulty_asking ⟨freed.alive, freed.going, freed.dangling⟩ running rfl rfl rfl rfl

end Freed

/-! ### Calls whose callbacks are not interrupted -/

/-- A callback that nothing interrupts. -/
theorem run_callback {w v : World} {event : CallEvent} {callback : InFlight} (alive : w.abort = none)
    (going : w.object.phase ≠ .aborted)
    (asks : Flight.step ⟨w, []⟩ (.call event) = some ⟨w, [callback]⟩)
    (unasked : callback.info = none)
    (used : w.useUserData (w.media, w.inv) (callback.withInfo (w.media, w.inv)) = v) :
    flightSystem.run ⟨w, []⟩ [.call event, .getInfo 0, .useUserData 0] = some ⟨v, []⟩ := by
  have told : Flight.step ⟨w, [callback]⟩ (.getInfo 0) =
      some ⟨w, [callback.withInfo (w.media, w.inv)]⟩ := by
    simp [Flight.step, alive, going, unasked]
  have uses : Flight.step ⟨w, [callback.withInfo (w.media, w.inv)]⟩ (.useUserData 0) =
      some ⟨v, []⟩ := by
    have known : (callback.withInfo (w.media, w.inv)).info = some (w.media, w.inv) := by
      cases callback <;> rfl
    simp [Flight.step, alive, going, known, used]
  exact flightSystem.run_cons_eq_some.mpr ⟨_, asks, flightSystem.run_cons_eq_some.mpr
    ⟨_, told, flightSystem.run_cons_eq_some.mpr ⟨_, uses, rfl⟩⟩⟩

/-- What is not a callback is one event of the flight. -/
theorem run_call {w v : World} {e : CallEvent}
    (stepped : Flight.step ⟨w, []⟩ (.call e) = some ⟨v, []⟩) :
    ∃ fs, flightSystem.run ⟨w, []⟩ fs = some ⟨v, []⟩ :=
  ⟨[.call e], flightSystem.run_cons_eq_some.mpr ⟨_, stepped, rfl⟩⟩

theorem unseen_of_same {w v : World} (same : World.SameCall w v) : w.unseen v = v := by
  unfold World.unseen
  rw [← same.media, ← same.inv]

/-- `pjsua_call_get_user_data` of an `on_call_state` that finds a pointer. -/
theorem step_onCallState {w : World} (alive : w.abort = none) (going : w.object.phase ≠ .aborted)
    (due : w.outstanding = true) (heard : w.silenced = false) (found : w.userData ≠ .null) :
    Flight.step ⟨w, []⟩ (.call .onCallState) = some ⟨w, [.onCallState none]⟩ := by
  have asks : Flight.onCallState ⟨w, []⟩ = ⟨w, [.onCallState none]⟩ := by
    unfold Flight.onCallState
    split
    case h_1 null => exact absurd null found
    case h_2 => rfl
  simp [Flight.step, alive, going, due, heard, asks]

/-- **One step of a call** whose callbacks nothing interrupts. -/
theorem run_of_step {w v : World} {e : CallEvent} (stepped : w.step e = some v) :
    ∃ fs, flightSystem.run ⟨w, []⟩ fs = some ⟨v, []⟩ := by
  have going := World.going_of_step stepped
  obtain ⟨alive, steps⟩ := World.steps_of_step stepped
  cases e with
  | setState state =>
    cases steps with
    | setState idle active =>
      refine run_call (e := .setState state) ?_
      simp [Flight.step, alive, going, idle, active]
  | onCallState =>
    cases steps with
    | onCallState due heard between =>
      by_cases found : w.userData = .null
      · refine run_call (e := .onCallState) ?_
        have same : w.callState = w := by
          unfold World.callState
          rw [found]
        simp [Flight.step, alive, going, due, heard, onCallState, found, same]
      · refine ⟨_, run_callback alive going (step_onCallState alive going due heard found) rfl ?_⟩
        show { w.unseen w.callState with outstanding := false } = _
        rw [unseen_of_same w.callState_reported.same]
  | onCallMediaState =>
    cases steps with
    | onCallMediaState heard between =>
      have asks : Flight.step ⟨w, []⟩ (.call .onCallMediaState) =
          some ⟨w, [.onCallMediaState (decide (w.userData ≠ .null)) none]⟩ := by
        simp [Flight.step, alive, going, heard, onCallMediaState]
      refine ⟨_, run_callback alive going asks rfl ?_⟩
      by_cases found : w.userData = .null
      · rw [show decide (w.userData ≠ .null) = false by simp [found]]
        exact w.useUserData_null found
      · rw [show decide (w.userData ≠ .null) = true by simp [found]]
        show w.unseen w.mediaState = w.mediaState
        exact unseen_of_same w.mediaState_seen.same
  | setMedia status =>
    refine run_call (e := .setMedia status) ?_
    simp [Flight.step, alive, going, stepped]
  | connect status =>
    refine run_call (e := .connect status) ?_
    simp [Flight.step, alive, going, stepped]
  | app event =>
    refine run_call (e := .app event) ?_
    simp [Flight.step, alive, going, stepped]

/-- **A run of the call** is a run in which no callback is interrupted. -/
theorem run_of_call {w v : World} {es : List CallEvent} (ran : callSystem.run w es = some v) :
    ∃ fs, flightSystem.run ⟨w, []⟩ fs = some ⟨v, []⟩ :=
  callSystem.run_refines flightSystem (fun w => ⟨w, []⟩)
    (fun _ _ _ stepped => run_of_step stepped) ran

end Flight

/-! ### The results -/

/-- **The registered user data is live when used**: in a run that frees the handle's fields only when
no callback is due or in flight that may still use them, no callback follows a dangling pointer. -/
theorem userData_live (callId confPort : Int) (inv : PjsipInvState) (media : CallMediaStatus)
    (outstanding : Bool) {es : List FlightEvent} {s : Flight}
    (freed : flightSystem.Meets FreedUnused
      (Flight.start callId confPort inv media outstanding) es)
    (ran : flightSystem.run (Flight.start callId confPort inv media outstanding) es = some s) :
    s.world.abort ≠ some .useAfterFree := by
  have guarded : s.Guarded :=
    flightSystem.run_keeps_of_meets (fun _ _ _ freed before stepped => before.step freed stepped)
      freed ⟨World.guarded_start callId confPort inv media outstanding, by simp [Flight.start]⟩ ran
  exact guarded.world.unused

/-- The state changes and is reported, and then the call is dropped while active, and hung up. -/
def droppedEarly : List FlightEvent :=
  [.call (.app (.setUserData pjSuccess)), .call (.setState .early), .call .onCallState, .getInfo 0,
    .useUserData 0, .call (.app .drop), .call (.app (.checkActive true)),
    .call (.app (.hangupCall pjSuccess)), .call (.app .freeFields), .call (.app .finish)]

theorem userData_live_dropped :
    ∃ s, flightSystem.run (Flight.start 0 3 .incoming .none false) droppedEarly = some s ∧
      s.world.abort ≠ some .useAfterFree := by
  refine ⟨_, rfl, ?_⟩
  exact userData_live 0 3 .incoming .none false
    (by decide : flightSystem.Meets FreedUnused _ droppedEarly) rfl

/-- The remote hangs up, and the call is dropped before `on_call_state` has run. -/
theorem not_userData_live :
    ¬ ∀ es s, flightSystem.run (Flight.start 0 3 .incoming .none false) es = some s →
      s.world.abort ≠ some .useAfterFree := by
  intro live
  exact live [.call (.app (.setUserData pjSuccess)), .call (.setState .disconnected),
    .call (.app .drop), .call (.app (.checkActive false)), .call (.app .freeFields),
    .call .onCallState, .getInfo 0, .useUserData 0] _ rfl rfl

/-- **The condition is exact**: after a step that breaks it, a callback can follow the dangling
pointer. -/
theorem freed_awaited_used {s t : Flight} {e : FlightEvent}
    (stepped : flightSystem.step s e = some t) (breaks : ¬ FreedUnused s e) :
    ∃ fs u, flightSystem.run t fs = some u ∧ u.world.abort = some .useAfterFree := by
  by_cases frees : e = .call (.app .freeFields)
  · subst frees
    have frees : s.step (.call (.app .freeFields)) = some t := stepped
    obtain ⟨alive, steps⟩ := Flight.steps_of_step frees
    cases steps with
    | app moved effects =>
      cases moved with
      | freeFields was =>
        rename_i rest after
        cases effects with
        | freeFields =>
          have freed : Flight.Freed { s with world := { s.world with
              userData := .dangling
              object := { s.world.object with phase := .drop rest after } } } :=
            ⟨alive, Phase.drop_ne_aborted rest after, rfl⟩
          by_cases reported : s.world.outstanding = true → s.world.silenced = true
          · have used : ∃ callback ∈ s.callbacks, callback.mayUse s.world.inv = true := by
              by_contra unused
              push Not at unused
              exact breaks fun _ => ⟨reported, fun callback member =>
                Bool.eq_false_iff.mpr (unused callback member)⟩
            obtain ⟨callback, member, uses⟩ := used
            exact freed.faulty_inFlight member uses reported
          · push Not at reported
            exact freed.faulty_due reported.1 (Bool.eq_false_iff.mpr reported.2)
        | quiet quiet => cases quiet
  · exact absurd (fun same => absurd same frees) breaks

end PjsipClient
