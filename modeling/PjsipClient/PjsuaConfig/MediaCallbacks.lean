/-
Sequences of `on_call_media_state` callbacks in the life of one call.

The media data that `PjsuaCallSetup::add` sent is received by the first callback that sees active
media in a confirmed call, a *hook-up* callback (`CallInfo.isHookup`). The receiver stays in the user
data, so the next hook-up callback finds the one-shot channel closed and exits the process.

* `runMediaCallbacks_sent` — a run of callbacks, by the number of hook-ups in it: none leaves the
  connections as they are, one makes all connections of the media data, two end the process.
* `mediaHookupStands_iff` — the hook-up stands through every callback exactly when the run holds at
  most one hook-up callback.
-/

import PjsipClient.PjsuaConfig.Callbacks

namespace PjsipClient

open Transport

/-- What a sequence of media callbacks works on: the user data and the connections of the bridge. -/
abbrev MediaState := Option StateChangedUserData × Connections

section Runs

variable (confPort : Int) (confConnect : Int → Int → PjStatus)

/-- One callback after another, each finding the call as its `CallInfo` says. -/
def runMediaCallbacks (state : MediaState) (infos : List CallInfo) : Outcome MediaState :=
  infos.foldlM (fun state info =>
    onCallMediaState ⟨(pjSuccess, info), confPort, confConnect⟩ state.1 state.2) state

theorem runMediaCallbacks_cons (state : MediaState) (info : CallInfo) (infos : List CallInfo) :
    runMediaCallbacks confPort confConnect state (info :: infos) =
      onCallMediaState ⟨(pjSuccess, info), confPort, confConnect⟩ state.1 state.2 >>= fun next =>
        runMediaCallbacks confPort confConnect next infos := rfl

/-- The number of hook-up callbacks. -/
def hookups (infos : List CallInfo) : ℕ := infos.countP CallInfo.isHookup

theorem hookups_cons_of_hookup {info : CallInfo} (infos : List CallInfo)
    (hookup : info.isHookup = true) : hookups (info :: infos) = hookups infos + 1 :=
  List.countP_cons_of_pos hookup

theorem hookups_cons_of_idle {info : CallInfo} (infos : List CallInfo)
    (idle : info.isHookup = false) : hookups (info :: infos) = hookups infos :=
  List.countP_cons_of_neg (by rw [idle]; exact Bool.false_ne_true)

variable {confPort confConnect}

/-- A callback that is no hook-up changes nothing. -/
theorem runMediaCallbacks_cons_idle {info : CallInfo} (valid : info.Valid)
    (idle : info.isHookup = false) (state : MediaState) (infos : List CallInfo) :
    runMediaCallbacks confPort confConnect state (info :: infos) =
      runMediaCallbacks confPort confConnect state infos := by
  rw [runMediaCallbacks_cons, onCallMediaState_eq, recvCallMediaData_idle valid idle]
  rfl

/-- **After the media data was received**, any further hook-up ends the process. -/
theorem runMediaCallbacks_closed {infos : List CallInfo} (valid : ∀ info ∈ infos, info.Valid)
    {userData : StateChangedUserData} (closed : userData.callMediaDataRx = some .closed)
    (connections : Connections) :
    runMediaCallbacks confPort confConnect (some userData, connections) infos =
      if hookups infos = 0 then .ok (some userData, connections)
      else .error (.exit .mediaDataReceived) := by
  induction infos with
  | nil => rfl
  | cons info infos ih =>
    have rest := ih fun other member => valid other (List.mem_cons_of_mem _ member)
    cases kind : info.isHookup with
    | false =>
      rw [runMediaCallbacks_cons_idle (valid info List.mem_cons_self) kind, rest,
        hookups_cons_of_idle infos kind]
    | true =>
      rw [runMediaCallbacks_cons, onCallMediaState_eq,
        recvCallMediaData_exit kind closed (fun _ same => by cases same),
        hookups_cons_of_hookup infos kind, if_neg (Nat.succ_ne_zero _)]
      rfl

/-- **While the media data is waiting**, the run is decided by its number of hook-ups. -/
theorem runMediaCallbacks_sent {infos : List CallInfo} (valid : ∀ info ∈ infos, info.Valid)
    (port : confPort ≠ pjsuaInvalidId) {data : CallMediaData}
    (succeeds : ∀ pair ∈ data.pairs confPort, confConnect pair.1 pair.2 = pjSuccess)
    {userData : StateChangedUserData} (sent : userData.callMediaDataRx = some (.sent data))
    (connections : Connections) :
    runMediaCallbacks confPort confConnect (some userData, connections) infos =
      if hookups infos = 0 then .ok (some userData, connections)
      else if hookups infos = 1 then
        .ok (some { userData with callMediaDataRx := some .closed },
          connections ++ data.pairs confPort)
      else .error (.exit .mediaDataReceived) := by
  induction infos with
  | nil => rfl
  | cons info infos ih =>
    have validRest : ∀ other ∈ infos, other.Valid :=
      fun other member => valid other (List.mem_cons_of_mem _ member)
    cases kind : info.isHookup with
    | false =>
      rw [runMediaCallbacks_cons_idle (valid info List.mem_cons_self) kind, ih validRest,
        hookups_cons_of_idle infos kind]
    | true =>
      rw [runMediaCallbacks_cons, onCallMediaState_eq, recvCallMediaData_sent kind sent]
      show (ffiAssertRes _ (getCallConfPort confPort) >>= fun found =>
        (connectAll confConnect (data.pairs found) connections).map _) >>= _ = _
      rw [getCallConfPort_valid port]
      show (connectAll confConnect (data.pairs confPort) connections).map _ >>= _ = _
      rw [connectAll_success succeeds]
      show runMediaCallbacks confPort confConnect
        (some { userData with callMediaDataRx := some .closed },
          connections ++ data.pairs confPort) infos = _
      rw [runMediaCallbacks_closed validRest rfl, hookups_cons_of_hookup infos kind,
        if_neg (Nat.succ_ne_zero _)]
      simp only [Nat.add_eq_right]

end Runs

/-! ### When the hook-up stands -/

/-- The media hook-up stands through a sequence of callbacks: after each of them the process runs,
and the connections of the media data have been made, each once, as soon as one callback has seen
active media in the confirmed call. -/
def MediaHookupStands (confPort : Int) (confConnect : Int → Int → PjStatus)
    (userData : StateChangedUserData) (data : CallMediaData) (connections : Connections)
    (infos : List CallInfo) : Prop :=
  ∀ seen, seen <+: infos → ∃ after,
    runMediaCallbacks confPort confConnect (some userData, connections) seen =
      .ok (some after,
        if seen.any CallInfo.isHookup then connections ++ data.pairs confPort else connections)

theorem hookups_eq_zero_iff {infos : List CallInfo} :
    hookups infos = 0 ↔ infos.any CallInfo.isHookup = false := by
  unfold hookups
  rw [List.countP_eq_zero, List.any_eq_false]

/-- **The hook-up stands exactly when at most one callback is a hook-up.** -/
theorem mediaHookupStands_iff {confPort : Int} {confConnect : Int → Int → PjStatus}
    {userData : StateChangedUserData} {data : CallMediaData} (connections : Connections)
    {infos : List CallInfo} (valid : ∀ info ∈ infos, info.Valid)
    (port : confPort ≠ pjsuaInvalidId)
    (succeeds : ∀ pair ∈ data.pairs confPort, confConnect pair.1 pair.2 = pjSuccess)
    (sent : userData.callMediaDataRx = some (.sent data)) :
    MediaHookupStands confPort confConnect userData data connections infos ↔
      infos.countP CallInfo.isHookup ≤ 1 := by
  constructor
  · intro stands
    obtain ⟨after, ran⟩ := stands infos List.prefix_rfl
    rw [runMediaCallbacks_sent valid port succeeds sent] at ran
    by_contra many
    have two : 2 ≤ hookups infos := Nat.lt_of_not_le many
    rw [if_neg (by omega), if_neg (by omega)] at ran
    cases ran
  · intro few seen earlier
    have fewer : hookups seen ≤ 1 := le_trans earlier.sublist.countP_le few
    have validSeen : ∀ info ∈ seen, info.Valid := fun info member => valid info (earlier.subset member)
    rw [runMediaCallbacks_sent validSeen port succeeds sent]
    by_cases none : hookups seen = 0
    · rw [if_pos none, hookups_eq_zero_iff.mp none]
      exact ⟨userData, rfl⟩
    · have one : hookups seen = 1 := by omega
      have some : seen.any CallInfo.isHookup = true := by
        rw [← Bool.not_eq_false]
        exact fun absent => none (hookups_eq_zero_iff.mpr absent)
      rw [if_neg none, if_pos one, some]
      exact ⟨_, rfl⟩

/-- Ringing, the hook-up, and a hold: the hook-up stands. -/
theorem mediaHookupStands_hold :
    MediaHookupStands 0 (fun _ _ => pjSuccess) (StateChangedUserData.new.withSent (.ofPorts 1 2))
      (.ofPorts 1 2) []
      [.of .active .early, .of .active .confirmed, .of .remoteHold .confirmed] := by
  refine (mediaHookupStands_iff [] ?_ (by decide) (fun _ _ => rfl) rfl).mpr (by decide)
  intro info member
  simp only [List.mem_cons, List.not_mem_nil, or_false] at member
  rcases member with rfl | rfl | rfl <;> exact ⟨_, _, rfl⟩

/-- The hook-up, a hold and the resume: three valid callbacks, and the process has exited. -/
theorem not_mediaHookupStands_resume :
    (∀ info ∈ [CallInfo.of .active .confirmed, .of .remoteHold .confirmed, .of .active .confirmed],
        info.Valid) ∧
      ¬ MediaHookupStands 0 (fun _ _ => pjSuccess)
        (StateChangedUserData.new.withSent (.ofPorts 1 2)) (.ofPorts 1 2) []
        [.of .active .confirmed, .of .remoteHold .confirmed, .of .active .confirmed] := by
  constructor
  · intro info member
    simp only [List.mem_cons, List.not_mem_nil, or_false] at member
    rcases member with rfl | rfl | rfl <;> exact ⟨_, _, rfl⟩
  · intro stands
    obtain ⟨after, ran⟩ := stands _ List.prefix_rfl
    have exits : runMediaCallbacks 0 (fun _ _ => pjSuccess)
        (some (StateChangedUserData.new.withSent (.ofPorts 1 2)), [])
        [.of .active .confirmed, .of .remoteHold .confirmed, .of .active .confirmed] =
          .error (.exit .mediaDataReceived) := rfl
    rw [exits] at ran
    cases ran

end PjsipClient
