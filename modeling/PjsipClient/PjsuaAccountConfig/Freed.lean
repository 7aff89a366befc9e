/-
When the user data of an account is freed.

* `userData_freed_iff` — the box of a value that is gone was freed once, or never; it was freed unless
  the configuration was lost before it was added.
* `userData_safe_iff` — no callback uses a freed box exactly when each box is freed after pjsua has
  deleted its account, while no callback has its pointer.
-/

import PjsipClient.Lib.Safety
import PjsipClient.PjsuaAccountConfig.UserData

namespace PjsipClient

open Transport Transition

namespace Accounts

variable {s t : Accounts} {e : AccountsEvent}

/-! ### Which boxes are freed -/

/-- The event loses the value of the box before its configuration is added: a string with a NUL, a
configuration that is dropped, an account that pjsua refuses. -/
def Loses (b : ℕ) (s : Accounts) : AccountsEvent → Prop
  | .new username password domain => s.made = b ∧ ¬ AccountConfig.Accepts username password domain
  | .dropConfig config => config = b
  | .addToInstanceInit config pjsuaAccAdd _ => config = b ∧ pjsuaAccAdd ≠ pjSuccess
  | _ => False

instance decidableLoses (b : ℕ) (s : Accounts) (e : AccountsEvent) : Decidable (Loses b s e) :=
  match e with
  | .new _ _ _ | .addToInstanceInit _ _ _ => inferInstanceAs (Decidable (_ ∧ _))
  | .dropConfig config => inferInstanceAs (Decidable (config = b))
  | .nextCall _ | .drop _ | .accDel _ _ | .free _ | .dropFields _ | .onIncomingCall _ _ _
  | .trySend _ => inferInstanceAs (Decidable False)

/-- Nothing has the box any more, and it was not freed. -/
def Leaked (b : ℕ) (s : Accounts) : Prop := s.value b = .gone ∧ (s.box b).freed = 0

/-- What a step does to one value and its box. -/
inductive Turns (b : ℕ) (s : Accounts) (e : AccountsEvent) (t : Accounts) : Prop
  | same (value : t.value b = s.value b) (freed : (t.box b).freed = (s.box b).freed)
      (kept : ¬ Loses b s e)
  | moved (had : s.value b ≠ .gone) (has : t.value b ≠ .gone) (kept : ¬ Loses b s e)
  | lost (loses : Loses b s e) (leaked : t.Leaked b)
  | dropped (had : s.value b ≠ .gone) (freed : (t.box b).freed = 1) (kept : ¬ Loses b s e)

/-- A step that concerns one value, told for that value. -/
theorem Turns.of_one {b c : ℕ} (values : ∀ d, d ≠ c → t.value d = s.value d)
    (boxes : ∀ d, d ≠ c → t.box d = s.box d) (concerns : ∀ d, Loses d s e → d = c)
    (own : Turns c s e t) : Turns b s e t := by
  by_cases same : b = c
  · subst same
    exact own
  · exact .same (values b same) (by rw [boxes b same]) fun loses => same (concerns b loses)

/-- **What a step does to each value.** -/
theorem Kept.turns (kept : s.Kept) (stepped : s.step e = some t) (b : ℕ) : Turns b s e t := by
  obtain ⟨_, steps⟩ := steps_of_step stepped
  have others : ∀ (c d : ℕ) (value : AccountValue), d ≠ c →
      Function.update s.value c value d = s.value d := fun _ _ _ other =>
    Function.update_of_ne other _ _
  have otherBoxes : ∀ (c d : ℕ) (box : UserDataBox), d ≠ c →
      Function.update s.box c box d = s.box d := fun _ _ _ other => Function.update_of_ne other _ _
  have lose : ∀ c, s.value c = .unmade ∨ s.value c = .config → ∀ d : Accounts,
      d.value c = .gone → d.box c = (s.box c).dropReceiver → d.Leaked c := by
    intro c early d value box
    refine ⟨value, ?_⟩
    rw [box, kept.box_new early]
    rfl
  have unmade : s.value s.made = .unmade := kept.beyond s.made le_rfl
  cases steps with
  | @made username password domain accepts =>
    refine .of_one (others s.made · _) (fun _ _ => rfl) (fun d loses => loses.1.symm)
      (.moved (by simp [unmade]) (by simp) fun loses => loses.2 accepts)
  | unmade refuses =>
    refine .of_one (others s.made · _) (otherBoxes s.made · _) (fun d loses => loses.1.symm)
      (.lost ⟨rfl, refuses⟩ (lose _ (Or.inl unmade) _ ?_ ?_))
    · exact Function.update_self _ _ _
    · exact Function.update_self _ _ _
  | @dropConfig c was =>
    refine .of_one (others c · _) (otherBoxes c · _) (fun d loses => Eq.symm loses)
      (.lost rfl (lose _ (Or.inr was) _ ?_ ?_))
    · exact Function.update_self _ _ _
    · exact Function.update_self _ _ _
  | @addFailed c _ _ was failed =>
    refine .of_one (others c · _) (otherBoxes c · _) (fun d loses => loses.1.symm)
      (.lost ⟨rfl, failed⟩ (lose _ (Or.inr was) _ ?_ ?_))
    · exact Function.update_self _ _ _
    · exact Function.update_self _ _ _
  | @added c _ was fresh =>
    refine .of_one (others c · _) (fun _ _ => rfl) (fun d loses => loses.1.symm)
      (.moved (by simp [was]) (by simp) fun loses => loses.2 rfl)
  | @received c _ _ _ was got =>
    refine .of_one (fun _ _ => rfl) (otherBoxes c · _) (fun d loses => loses.elim)
      (.same rfl (by simp [UserDataBox.receive]) fun loses => loses)
  | @drop c _ _ was found =>
    refine .of_one (others c · _) (fun _ _ => rfl) (fun d loses => loses.elim)
      (.moved (by simp [was]) (by simp) fun loses => loses)
  | @dropUnknown c _ was unknown =>
    refine .of_one (others c · _) (fun _ _ => rfl) (fun d loses => loses.elim)
      (.moved (by simp [was]) (by simp) fun loses => loses)
  | @deleted c _ _ was =>
    refine .of_one (others c · _) (fun _ _ => rfl) (fun d loses => loses.elim)
      (.moved (by simp [was]) (by simp) fun loses => loses)
  | @undeleted c _ _ _ was failed =>
    refine .of_one (others c · _) (fun _ _ => rfl) (fun d loses => loses.elim)
      (.moved (by simp [was]) (by simp) fun loses => loses)
  | @free c _ _ was =>
    obtain ⟨rfl, live⟩ := kept.own_free was
    refine .of_one (others _ · _) (otherBoxes _ · _) (fun d loses => loses.elim)
      (.moved (by simp [was]) (by simp [Accounts.free]) fun loses => loses)
  | @dropFields c _ was =>
    refine .of_one (others c · _) (otherBoxes c · _) (fun d loses => loses.elim)
      (.dropped (by simp [was]) ?_ fun loses => loses)
    simp [Accounts.dropValue, UserDataBox.dropReceiver, kept.freed_of_fields was]
  | @sent index callback _ running live accepted =>
    refine .of_one (fun _ _ => rfl) (otherBoxes callback.userData · _) (fun d loses => loses.elim)
      (.same rfl ?_ fun loses => loses)
    show ((s.setBox callback.userData _).box callback.userData).freed = _
    simp [UserDataBox.send]
  | _ => exact .same rfl rfl fun loses => loses

/-- A box is lost exactly when a step loses its value. -/
theorem marks_leaked (b : ℕ) :
    accountsSystem.Marks (fun _ => True) Kept (Leaked b) (fun v e => ¬ Loses b v e) := by
  refine ⟨fun _ _ _ _ => trivial, fun _ _ _ kept stepped => kept.step stepped, ?_, ?_, ?_⟩
  · rintro v e w kept unleaked keeps stepped ⟨gone, freed⟩
    cases kept.turns stepped b with
    | same value box _ => exact unleaked ⟨value ▸ gone, box ▸ freed⟩
    | moved _ has _ => exact has gone
    | lost loses _ => exact keeps loses
    | dropped _ once _ => simp [once] at freed
  · intro v e w kept loses stepped
    cases kept.turns stepped b with
    | lost _ leaked => exact leaked
    | same _ _ keeps => exact absurd keeps loses
    | moved _ _ keeps => exact absurd keeps loses
    | dropped _ _ keeps => exact absurd keeps loses
  · rintro v e w kept ⟨gone, freed⟩ stepped _
    cases kept.turns stepped b with
    | same value box _ => exact ⟨value.trans gone, box.trans freed⟩
    | lost _ leaked => exact leaked
    | moved had _ _ => exact absurd gone had
    | dropped had _ _ => exact absurd gone had

end Accounts

open Accounts

/-- **The box of an account is freed once, and by the account's own drop**; that of a configuration
which was lost before it was added is never freed. -/
theorem userData_freed_iff {es : List AccountsEvent} {s : Accounts}
    (ran : accountsSystem.run Accounts.start es = some s) (b : ℕ) :
    (s.box b).freed ≤ 1 ∧
      (s.value b = .gone →
        ((s.box b).freed = 1 ↔ accountsSystem.Meets (fun v e => ¬ Loses b v e) Accounts.start es)) := by
  have kept : s.Kept :=
    accountsSystem.run_keeps (fun _ _ _ before stepped => before.step stepped) kept_start ran
  have clean : ¬ Accounts.start.Leaked b := fun leaked => by simp [Leaked, Accounts.start] at leaked
  have atMost : (s.box b).freed ≤ 1 := (kept.keeps b).freed_le
  refine ⟨atMost, fun gone => ?_⟩
  rw [← System.not_marked_iff_meets (marks_leaked b) kept_start clean ran trivial, Leaked,
    and_iff_right gone]
  omega

/-- An account that gets a call, and a configuration that pjsua refuses. -/
def twoAccounts : List AccountsEvent :=
  [.new ['a'] ['b'] ['c'], .new ['d'] [] ['c'], .addToInstanceInit 0 pjSuccess 2,
    .addToInstanceInit 1 171173 3, .onIncomingCall 2 7 0, .trySend 0, .nextCall 0, .drop 0,
    .accDel 0 pjSuccess, .free 0, .dropFields 0]

theorem userData_freed_iff_twoAccounts :
    ∃ s, accountsSystem.run Accounts.start twoAccounts = some s ∧ (s.box 0).freed = 1 ∧
      (s.box 1).freed ≠ 1 := by
  have first := userData_freed_iff (rfl : accountsSystem.run Accounts.start twoAccounts = some _) 0
  have second := userData_freed_iff (rfl : accountsSystem.run Accounts.start twoAccounts = some _) 1
  refine ⟨_, rfl, (first.2 rfl).mpr (by decide), fun freed => ?_⟩
  exact absurd ((second.2 rfl).mp freed) (by decide)

namespace Accounts

variable {s t : Accounts} {e : AccountsEvent}

/-! ### Pointers to freed boxes -/

/-- Only its own drop frees a box. -/
theorem Kept.freed_of_step (kept : s.Kept) (stepped : s.step e = some t) (b : ℕ) :
    (t.box b).freed = (s.box b).freed + if e = .free b then 1 else 0 := by
  obtain ⟨_, steps⟩ := steps_of_step stepped
  have one : ∀ (c : ℕ) (box : UserDataBox), t.box = Function.update s.box c box →
      box.freed = (s.box c).freed → e ≠ .free b →
        (t.box b).freed = (s.box b).freed + if e = .free b then 1 else 0 := by
    intro c box boxes same other
    rw [boxes, if_neg other]
    by_cases own : b = c
    · subst own
      simp [same]
    · simp [own]
  have none : t.box = s.box → e ≠ .free b →
      (t.box b).freed = (s.box b).freed + if e = .free b then 1 else 0 := by
    intro boxes other
    rw [boxes, if_neg other, Nat.add_zero]
  cases steps with
  | unmade => exact one s.made _ rfl rfl (by simp)
  | @dropConfig c was => exact one c _ rfl rfl (by simp)
  | @addFailed c _ _ was failed => exact one c _ rfl rfl (by simp)
  | @dropFields c _ was => exact one c _ rfl rfl (by simp)
  | @received c _ _ _ was got => exact one c _ rfl rfl (by simp)
  | @sent index callback _ running live accepted => exact one callback.userData _ rfl rfl (by simp)
  | @free c userData _ was =>
    obtain ⟨rfl, live⟩ := kept.own_free was
    show (Function.update s.box userData (s.box userData).free b).freed = _
    by_cases own : b = userData
    · subst own
      simp [UserDataBox.free]
    · simp [own, Ne.symm own]
  | _ => exact none rfl (by simp)

/-- A callback that has a pointer had it, or got it from pjsua in this step. -/
theorem Steps.callback (steps : Steps s e t) {callback : IncomingCallback}
    (member : callback ∈ t.callbacks) :
    callback ∈ s.callbacks ∨ s.registered callback.accountId = some callback.userData := by
  cases steps with
  | called found =>
    rcases List.mem_append.mp member with old | added
    · exact Or.inl old
    · rw [List.mem_singleton.mp added]
      exact Or.inr found
  | sent running live accepted => exact Or.inl (List.mem_of_mem_eraseIdx member)
  | _ => exact Or.inl member

/-- A callback keeps a pointer to a freed box, or uses it. -/
theorem Steps.callback_stays (steps : Steps s e t) {callback : IncomingCallback}
    (member : callback ∈ s.callbacks) (freed : (s.box callback.userData).freed ≠ 0) :
    callback ∈ t.callbacks := by
  cases steps with
  | called found => exact List.mem_append_left _ member
  | @sent index other _ running live accepted =>
    have distinct : callback ≠ other := by
      rintro rfl
      exact freed live
    obtain ⟨place, at_place⟩ := List.getElem?_of_mem member
    refine List.mem_eraseIdx_iff_getElem?.mpr ⟨place, ?_, at_place⟩
    rintro rfl
    rw [running] at at_place
    exact distinct (Option.some.inj at_place).symm
  | _ => exact member

/-- A pointer that pjsua has was there, or is that of a configuration that is added. -/
theorem Kept.registered_of_step (kept : s.Kept) (stepped : s.step e = some t) {accountId : Int}
    {b : ℕ} (found : t.registered accountId = some b) :
    s.registered accountId = some b ∨ (t.box b).freed = 0 := by
  obtain ⟨_, steps⟩ := steps_of_step stepped
  cases steps with
  | @added c id was fresh =>
    replace found : Function.update s.registered id (some c) accountId = some b := found
    by_cases same : accountId = id
    · subst same
      rw [Function.update_self] at found
      cases found
      refine Or.inr ?_
      show (s.box b).freed = 0
      rw [kept.box_new (Or.inr was)]
      rfl
    · rw [Function.update_of_ne same] at found
      exact Or.inl found
  | @deleted c _ id was =>
    replace found : Function.update s.registered id none accountId = some b := found
    by_cases same : accountId = id
    · subst same
      rw [Function.update_self] at found
      cases found
    · rw [Function.update_of_ne same] at found
      exact Or.inl found
  | _ => exact Or.inl found

/-- pjsua keeps a pointer to a freed box. -/
theorem Kept.registered_stays (kept : s.Kept) (stepped : s.step e = some t) {accountId : Int} {b : ℕ}
    (found : s.registered accountId = some b) (freed : (s.box b).freed ≠ 0) :
    t.registered accountId = some b := by
  obtain ⟨_, steps⟩ := steps_of_step stepped
  cases steps with
  | @added c id was fresh =>
    have other : accountId ≠ id := by
      rintro rfl
      simp [fresh] at found
    show Function.update s.registered id (some c) accountId = some b
    rw [Function.update_of_ne other, found]
  | @deleted c _ id was =>
    obtain ⟨rfl, live⟩ := kept.own_accDel was
    have other : accountId ≠ id := by
      rintro rfl
      have own := kept.registered _ accountId (by rw [was]; rfl)
      rw [found] at own
      cases own
      exact freed live.unfreed
    show Function.update s.registered id none accountId = some b
    rw [Function.update_of_ne other, found]
  | _ => exact found

/-- A callback or pjsua has a pointer to a freed box. -/
def Dangles (s : Accounts) : Prop :=
  (∃ callback ∈ s.callbacks, (s.box callback.userData).freed ≠ 0) ∨
    ∃ accountId b, s.registered accountId = some b ∧ (s.box b).freed ≠ 0

/-- A box that is freed now is freed after pjsua has deleted its account, and no callback has its
pointer. -/
def FreesUnused (s : Accounts) : AccountsEvent → Prop
  | .free b =>
    (∀ callback ∈ s.callbacks, callback.userData ≠ b) ∧
      ∀ accountId ∈ (s.value b).accountId, s.registered accountId ≠ some b
  | _ => True

instance decidableFreesUnused (s : Accounts) (e : AccountsEvent) : Decidable (s.FreesUnused e) :=
  match e with
  | .free _ => inferInstanceAs (Decidable (_ ∧ _))
  | .new _ _ _ | .addToInstanceInit _ _ _ | .dropConfig _ | .nextCall _ | .drop _ | .accDel _ _
  | .dropFields _ | .onIncomingCall _ _ _ | .trySend _ => inferInstanceAs (Decidable True)

/-- The process goes on, or ends with the use of a freed box. -/
def Followed (s : Accounts) : Prop := s.abort = none ∨ s.abort = some .useAfterFree

/-- Only a callback with a pointer to a freed box uses one. -/
theorem Steps.used (steps : Steps s e t) (going : s.abort = none)
    (used : t.abort = some .useAfterFree) :
    ∃ callback ∈ s.callbacks, (s.box callback.userData).freed ≠ 0 := by
  have quiet : t.abort ≠ s.abort := by simp [going, used]
  cases steps with
  | dangled running freed => exact ⟨_, List.mem_of_getElem? running, freed⟩
  | uncalled unknown => simp at used
  | refused running live refusal => simp at used
  | closed was got => simp at used
  | _ => exact absurd rfl quiet

/-- pjsua has no pointer to a box that is freed after its account was deleted. -/
theorem Kept.unregistered (kept : s.Kept) {b : ℕ} (stepped : s.step (.free b) = some t)
    (unused : s.FreesUnused (.free b)) (accountId : Int) : s.registered accountId ≠ some b := by
  intro found
  have knows := kept.known accountId b found
  obtain ⟨_, steps⟩ := steps_of_step stepped
  cases steps with
  | free was =>
    rw [was] at knows
    have same : _ = accountId := knows
    subst same
    exact unused.2 _ (by rw [was]; rfl) found

/-- **What leaves pointers to freed boxes**: a box that is freed too early. -/
theorem marks_dangles :
    accountsSystem.Marks Followed Kept
      (fun s => s.abort = some .useAfterFree ∨ s.Dangles) FreesUnused := by
  refine ⟨fun v e w stepped => Or.inl (steps_of_step stepped).1,
    fun v e w kept stepped => kept.step stepped, ?_, ?_, ?_⟩
  · intro v e w kept clean unused stepped marked
    obtain ⟨going, steps⟩ := steps_of_step stepped
    obtain ⟨_, undangled⟩ := not_or.mp clean
    have stale : ∀ b, (w.box b).freed ≠ 0 → (v.box b).freed ≠ 0 ∨ e = .free b := by
      intro b after
      by_cases event : e = .free b
      · exact Or.inr event
      · rw [kept.freed_of_step stepped b, if_neg event] at after
        exact Or.inl after
    have registered : ∀ accountId b, v.registered accountId = some b → (w.box b).freed = 0 := by
      intro accountId b found
      by_contra after
      rcases stale b after with before | rfl
      · exact undangled (Or.inr ⟨accountId, b, found, before⟩)
      · exact kept.unregistered stepped unused accountId found
    rcases marked with used | ⟨callback, member, after⟩ | ⟨accountId, b, found, after⟩
    · exact undangled (Or.inl (steps.used going used))
    · rcases steps.callback member with old | found
      · rcases stale _ after with before | rfl
        · exact undangled (Or.inl ⟨callback, old, before⟩)
        · exact unused.1 callback old rfl
      · exact after (registered _ _ found)
    · rcases kept.registered_of_step stepped found with old | unfreed
      · exact after (registered accountId b old)
      · exact after unfreed
  · intro v e w kept used (stepped : v.step e = some w)
    cases e with
    | free b =>
      obtain ⟨_, steps⟩ := steps_of_step stepped
      have freed : (w.box b).freed ≠ 0 := by simp [kept.freed_of_step stepped b]
      refine Or.inr ?_
      by_cases running : ∃ callback ∈ v.callbacks, callback.userData = b
      · obtain ⟨callback, member, rfl⟩ := running
        cases steps
        exact Or.inl ⟨callback, member, freed⟩
      · have found : ∃ accountId, v.registered accountId = some b := by
          by_contra unknown
          exact used ⟨fun callback member same => running ⟨callback, member, same⟩,
            fun accountId _ found => unknown ⟨accountId, found⟩⟩
        obtain ⟨accountId, found⟩ := found
        cases steps
        exact Or.inr ⟨accountId, b, found, freed⟩
    | _ => exact absurd trivial used
  · rintro v e w kept marked stepped _
    obtain ⟨going, steps⟩ := steps_of_step stepped
    have stays : ∀ b, (v.box b).freed ≠ 0 → (w.box b).freed ≠ 0 := by
      intro b before
      rw [kept.freed_of_step stepped b]
      omega
    rcases marked with used | ⟨callback, member, before⟩ | ⟨accountId, b, found, before⟩
    · simp [going] at used
    · exact Or.inr (Or.inl ⟨callback, steps.callback_stays member before, stays _ before⟩)
    · exact Or.inr (Or.inr
        ⟨accountId, b, kept.registered_stays stepped found before, stays b before⟩)

end Accounts

/-- The events of pjsua. -/
def AccountsEvent.isCallback : AccountsEvent → Bool
  | onIncomingCall _ _ _ | trySend _ => true
  | _ => false

namespace Accounts

variable {s : Accounts}

/-- A callback that has a pointer to a freed box uses it. -/
theorem used_of_callback {callback : IncomingCallback} (going : s.abort = none)
    (member : callback ∈ s.callbacks) (freed : (s.box callback.userData).freed ≠ 0) :
    ∃ index t, s.step (.trySend index) = some t ∧ t.abort = some .useAfterFree := by
  obtain ⟨index, running⟩ := List.getElem?_of_mem member
  refine ⟨index, { s with abort := some .useAfterFree }, ?_, rfl⟩
  simp [step, going, running, trySend, freed]

/-- **A pointer to a freed box is used** by some callback. -/
theorem used_of_dangles (going : s.abort = none) (dangles : s.Dangles) :
    ∃ es t, (∀ e ∈ es, AccountsEvent.isCallback e = true) ∧ accountsSystem.run s es = some t ∧
      t.abort = some .useAfterFree := by
  rcases dangles with ⟨callback, member, freed⟩ | ⟨accountId, b, found, freed⟩
  · obtain ⟨index, t, stepped, used⟩ := used_of_callback going member freed
    refine ⟨[.trySend index], t, by simp [AccountsEvent.isCallback], ?_, used⟩
    exact accountsSystem.run_cons_eq_some.mpr ⟨t, stepped, rfl⟩
  · have called : s.step (.onIncomingCall accountId 0 0) =
        some { s with callbacks := s.callbacks ++ [⟨accountId, 0, 0, b⟩] } := by
      simp [step, going, onIncomingCall, found]
    obtain ⟨index, t, stepped, used⟩ :=
      @used_of_callback { s with callbacks := s.callbacks ++ [⟨accountId, 0, 0, b⟩] }
        ⟨accountId, 0, 0, b⟩ going (by simp) freed
    refine ⟨[.onIncomingCall accountId 0 0, .trySend index], t,
      by simp [AccountsEvent.isCallback], ?_, used⟩
    exact accountsSystem.run_cons_eq_some.mpr
      ⟨_, called, accountsSystem.run_cons_eq_some.mpr ⟨t, stepped, rfl⟩⟩

end Accounts

/-- **No callback uses a freed box**, in the run and whichever callbacks come after it, exactly when
each box is freed after pjsua has deleted its account, and while no callback has its pointer. -/
theorem userData_safe_iff {es : List AccountsEvent} {s : Accounts}
    (ran : accountsSystem.run Accounts.start es = some s)
    (followed : s.abort = none ∨ s.abort = some .useAfterFree) :
    accountsSystem.SafeFor (·.isCallback = true) (·.abort = some .useAfterFree) s ↔
      accountsSystem.Meets FreesUnused Accounts.start es := by
  have clean : ¬ (Accounts.start.abort = some .useAfterFree ∨ Accounts.start.Dangles) := by
    simp [Dangles, Accounts.start]
  refine System.safeFor_iff_meets marks_dangles ?_ (fun _ used => Or.inl used) ?_ kept_start clean ran
    followed
  · intro v e callback
    cases e with
    | onIncomingCall accountId callId transport => exact trivial
    | trySend index => exact trivial
    | _ => cases callback
  · intro v kept followed marked
    by_cases used : v.abort = some .useAfterFree
    · exact ⟨[], v, fun _ member => absurd member List.not_mem_nil, rfl, used⟩
    · exact used_of_dangles (followed.resolve_right used) (marked.resolve_left used)

/-- pjsua cannot delete the account, which gets another call after its box was freed. -/
def undeletedAccount : List AccountsEvent :=
  [.new ['a'] ['b'] ['c'], .addToInstanceInit 0 pjSuccess 2, .drop 0, .accDel 0 171173, .free 0]

theorem userData_safe_iff_undeleted :
    ∃ s, accountsSystem.run Accounts.start undeletedAccount = some s ∧
      ¬ accountsSystem.SafeFor (·.isCallback = true) (·.abort = some .useAfterFree) s := by
  refine ⟨_, rfl, fun safe => ?_⟩
  have unused := (userData_safe_iff
    (rfl : accountsSystem.run Accounts.start undeletedAccount = some _) (Or.inl rfl)).mp safe
  exact absurd unused (by decide)

end PjsipClient
