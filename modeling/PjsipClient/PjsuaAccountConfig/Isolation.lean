/-
An account among others, and what its callbacks can do to the process.

* `accounts_survive_iff` — the process goes on exactly as long as every callback finds its account,
  its box, and room in it; the drop of an account always finds its own box.
* `accounts_refine` — each account is delivered its own calls, as if it were the only one.
-/

import PjsipClient.Lib.Machine
import PjsipClient.PjsuaAccountConfig.Freed

namespace PjsipClient

open Transport Transition

namespace Accounts

variable {s t : Accounts} {e : AccountsEvent}

/-! ### How the process ends -/

/-- pjsua has the account of a call, and a callback that sends finds its box, with room in it. -/
def Answerable (s : Accounts) : AccountsEvent → Prop
  | .onIncomingCall accountId _ _ => (s.registered accountId).isSome = true
  | .trySend index =>
    ∀ callback ∈ s.callbacks[index]?, (s.box callback.userData).freed = 0 ∧
      (s.box callback.userData).userData.onIncomingCallTx.items.length < 10
  | _ => True

instance decidableAnswerable (s : Accounts) (e : AccountsEvent) : Decidable (s.Answerable e) :=
  match e with
  | .onIncomingCall accountId _ _ =>
    inferInstanceAs (Decidable ((s.registered accountId).isSome = true))
  | .trySend index =>
    inferInstanceAs (Decidable (∀ callback ∈ s.callbacks[index]?, _ ∧ _))
  | .new _ _ _ | .addToInstanceInit _ _ _ | .dropConfig _ | .nextCall _ | .drop _ | .accDel _ _
  | .free _ | .dropFields _ => inferInstanceAs (Decidable True)

/-- **What ends the process**: a callback that is not answerable, and nothing else. -/
theorem marks_ended :
    accountsSystem.Marks (fun _ => True) Kept (·.abort ≠ none) Answerable := by
  refine ⟨fun _ _ _ _ => trivial, fun v e w kept stepped => kept.step stepped, ?_, ?_, ?_⟩
  · intro v e w kept _ answerable stepped ended
    obtain ⟨going, steps⟩ := steps_of_step stepped
    cases steps with
    | closed was got =>
      rcases Channel.recv_eq_ready got with ⟨_, impossible, _⟩ | ⟨_, _, closed, _⟩
      · cases impossible
      · simp [(kept.live was).sender] at closed
    | uncalled unknown =>
      have found : (v.registered _).isSome = true := answerable
      simp [unknown] at found
    | refused running unfreed refusal =>
      obtain ⟨_, room⟩ := answerable _ running
      have live := (kept.keeps _).live (kept.running _ (List.mem_of_getElem? running)) unfreed
      obtain ⟨_, accepted, _⟩ := Channel.trySend_isOk live.receiver room _
      rw [refusal] at accepted
      cases accepted
    | dangled running freed => exact freed (answerable _ running).1
    | _ => exact ended going
  · intro v e w kept refused stepped ended
    obtain ⟨going, steps⟩ := steps_of_step stepped
    cases steps with
    | called found =>
      refine refused ?_
      simp [Answerable, found]
    | uncalled unknown => simp at ended
    | sent running unfreed accepted =>
      obtain ⟨_, room, _⟩ := Channel.trySend_eq_ok.mp accepted
      refine refused fun callback has => ?_
      rw [running] at has
      cases has
      exact ⟨unfreed, room⟩
    | refused running unfreed refusal => simp at ended
    | dangled running freed => simp at ended
    | _ => exact refused trivial
  · intro v e w kept ended stepped _
    exact absurd (steps_of_step stepped).1 ended

end Accounts

open Accounts

/-- **The process goes on** exactly as long as pjsua has the account of each call and each callback
finds its box, with fewer than ten calls in it; `next_call` and `add_to_instance_init` never end it. In
every state reached, pjsua has the pointer of each added account, which is that of its own box, so the
assertion in its drop holds. -/
theorem accounts_survive_iff {es : List AccountsEvent} {s : Accounts}
    (ran : accountsSystem.run Accounts.start es = some s) :
    (s.abort = none ↔ accountsSystem.Meets Answerable Accounts.start es) ∧
      ∀ b accountId, s.value b = .added accountId → s.registered accountId = some b := by
  have clean : ¬ Accounts.start.abort ≠ none := fun ended => ended rfl
  have kept : s.Kept :=
    accountsSystem.run_keeps (fun _ _ _ before stepped => before.step stepped) kept_start ran
  constructor
  · rw [← System.not_marked_iff_meets marks_ended kept_start clean ran trivial]
    exact not_not.symm
  · intro b accountId was
    exact kept.registered b accountId (by rw [was]; rfl)

theorem accounts_survive_iff_twoAccounts :
    ∃ s, accountsSystem.run Accounts.start twoAccounts = some s ∧ s.abort = none := by
  refine ⟨_, rfl, ?_⟩
  exact (accounts_survive_iff (rfl : accountsSystem.run Accounts.start twoAccounts = some _)).1.mpr
    (by decide)

/-! ### One account among others -/

/-- What a delivered event has sent. -/
theorem sent_of_deliver {before account : Account} {event : AccountEvent}
    (delivered : before.deliver event = .ok account)
    (accounts : before.history.Accounts before.userData.onIncomingCallTx) :
    account.accountId = before.accountId ∧
      account.history.sent = before.history.sent ++ arrivals before.accountId [event] ∧
      account.history.Accounts account.userData.onIncomingCallTx := by
  cases event with
  | remoteCancel callId =>
    cases delivered
    exact ⟨rfl, (List.append_nil _).symm, accounts⟩
  | onIncomingCall callId transport =>
    rw [deliver_onIncomingCall] at delivered
    cases accepted : before.userData.onIncomingCallTx.trySend (before.accountId, callId) with
    | error error =>
      rw [accepted] at delivered
      cases delivered
    | ok tx =>
      rw [accepted] at delivered
      cases delivered
      exact ⟨rfl, rfl, accounts.trySend accepted⟩
  | nextCall =>
    simp only [Account.deliver, IncomingCallReceiver.nextCall] at delivered
    cases got : before.userData.onIncomingCallTx.recv with
    | pending =>
      rw [got] at delivered
      cases delivered
      exact ⟨rfl, (List.append_nil _).symm, accounts⟩
    | ready answer =>
      obtain ⟨call, rx⟩ := answer
      rw [got] at delivered
      cases call with
      | none => cases delivered
      | some call =>
        cases delivered
        exact ⟨rfl, (List.append_nil _).symm, accounts.recv got⟩

/-- What was sent to an account that was delivered all this, and what it received and has waiting. -/
theorem sent_of_deliverAll {accountId : Int} {events : List AccountEvent} {account : Account}
    (delivered : (Account.added accountId).deliverAll events = .ok account) :
    account.accountId = accountId ∧ account.history.sent = arrivals accountId events ∧
      account.history.Accounts account.userData.onIncomingCallTx := by
  induction events using List.reverseRecOn generalizing account with
  | nil =>
    cases delivered
    exact ⟨rfl, rfl, History.accounts_new⟩
  | append_singleton events event ih =>
    rw [deliverAll_concat] at delivered
    obtain ⟨before, earlier, last⟩ := Machine.bind_eq_ok delivered
    obtain ⟨same, sent, accounts⟩ := ih earlier
    obtain ⟨still, more, after⟩ := sent_of_deliver last accounts
    refine ⟨still.trans same, ?_, after⟩
    rw [more, sent, same, ← arrivals_concat]

namespace Accounts

variable {s t : Accounts} {e : AccountsEvent}

/-- What the event is to the account of the box: a call of its own, or a `next_call`. -/
def deliveries (b : ℕ) (s : Accounts) : AccountsEvent → List AccountEvent
  | .nextCall account => if account = b then [.nextCall] else []
  | .trySend index =>
    match s.callbacks[index]? with
    | some callback =>
      if callback.userData = b then [.onIncomingCall callback.callId callback.transport] else []
    | none => []
  | _ => []

/-- The account of the box on its own. -/
def account (s : Accounts) (b : ℕ) (accountId : Int) : Account :=
  ⟨accountId, (s.box b).userData, (s.box b).history⟩

/-- The account of the box has been delivered its own events, and no others. -/
structure Delivered (b : ℕ) (past : List AccountEvent) (s : Accounts) : Prop where
  early : s.value b = .unmade ∨ s.value b = .config → past = []
  delivered : ∀ accountId, s.value b = .added accountId →
    (Account.added accountId).deliverAll past = .ok (s.account b accountId)

/-- A step that is nothing to the account of the box. -/
theorem Delivered.quiet {b : ℕ} {past : List AccountEvent} (before : s.Delivered b past)
    (nothing : s.deliveries b e = []) (value : t.value b = s.value b) (box : t.box b = s.box b) :
    t.Delivered b (past ++ s.deliveries b e) := by
  rw [nothing, List.append_nil]
  refine ⟨fun early => before.early (value ▸ early), fun accountId was => ?_⟩
  rw [account, box]
  exact before.delivered accountId (value ▸ was)

/-- The account of a value that is dropped is not followed. -/
theorem Delivered.over {b : ℕ} {past : List AccountEvent}
    (late : t.value b ≠ .unmade ∧ t.value b ≠ .config ∧ ∀ accountId, t.value b ≠ .added accountId) :
    t.Delivered b past :=
  ⟨fun early => (early.elim late.1 late.2.1).elim, fun accountId was => absurd was (late.2.2 accountId)⟩

/-- One more event of an account. -/
theorem deliverAll_snoc {accountId : Int} {past : List AccountEvent} {before after : Account}
    {event : AccountEvent} (delivered : (Account.added accountId).deliverAll past = .ok before)
    (last : before.deliver event = .ok after) :
    (Account.added accountId).deliverAll (past ++ [event]) = .ok after := by
  rw [deliverAll_concat, delivered]
  exact last

theorem deliver_pending {b : ℕ} {accountId : Int}
    (waits : (s.box b).userData.onIncomingCallTx.recv = .pending) :
    (s.account b accountId).deliver .nextCall = .ok (s.account b accountId) := by
  simp only [Account.deliver, IncomingCallReceiver.nextCall, account, waits]
  rfl

theorem deliver_received {b : ℕ} {accountId : Int} {call : OnIncomingCallSendData}
    {rx : Channel OnIncomingCallSendData 10}
    (got : (s.box b).userData.onIncomingCallTx.recv = .ready (some call, rx)) :
    (s.account b accountId).deliver .nextCall =
      .ok ((s.setBox b ((s.box b).receive rx call)).account b accountId) := by
  simp only [Account.deliver, IncomingCallReceiver.nextCall, account, got, setBox_box_self]
  rfl

theorem deliver_sent {b : ℕ} {accountId callId : Int} {transport : ℕ}
    {tx : Channel OnIncomingCallSendData 10}
    (accepted : (s.box b).userData.onIncomingCallTx.trySend (accountId, callId) = .ok tx) :
    (s.account b accountId).deliver (.onIncomingCall callId transport) =
      .ok ((s.setBox b ((s.box b).send ⟨tx⟩ (accountId, callId))).account b accountId) := by
  rw [deliver_onIncomingCall]
  simp only [account, accepted, setBox_box_self]
  rfl

/-- **One step of all accounts is a step of one of them**, or is nothing to it. -/
theorem Delivered.step {b : ℕ} {past : List AccountEvent} (kept : s.Kept)
    (before : s.Delivered b past) (stepped : s.step e = some t) (going : t.abort = none) :
    t.Delivered b (past ++ s.deliveries b e) := by
  obtain ⟨_, steps⟩ := steps_of_step stepped
  have become : ∀ (c : ℕ) (value : AccountValue), s.deliveries b e = [] →
      t.value = Function.update s.value c value → (∀ d, d ≠ c → t.box d = s.box d) →
      (b = c → t.Delivered b past) → t.Delivered b (past ++ s.deliveries b e) := by
    intro c value nothing values boxes own
    by_cases same : b = c
    · rw [nothing, List.append_nil]
      exact own same
    · exact before.quiet nothing (by rw [values, Function.update_of_ne same]) (boxes b same)
  have boxes : ∀ (c d : ℕ) (box : UserDataBox), d ≠ c → Function.update s.box c box d = s.box d :=
    fun _ _ _ other => Function.update_of_ne other _ _
  cases steps with
  | made accepts =>
    refine become s.made .config rfl rfl (fun _ _ => rfl) fun same => ⟨fun _ => ?_, ?_⟩
    · exact before.early (Or.inl (same ▸ kept.beyond s.made le_rfl))
    · rintro accountId was
      simp [same] at was
  | @added c accountId was fresh =>
    refine become c (.added accountId) rfl rfl (fun _ _ => rfl) ?_
    rintro rfl
    refine ⟨fun early => by simp at early, fun other has => ?_⟩
    have same : accountId = other := by simpa using has
    subst same
    rw [before.early (Or.inr was)]
    show Except.ok (Account.added accountId) = .ok (s.account b accountId)
    rw [account, kept.box_new (Or.inr was)]
    rfl
  | unmade refuses =>
    refine become s.made .gone rfl rfl (boxes s.made · _) fun same => .over ?_
    simp [same, dropValue]
  | @dropConfig c was =>
    refine become c .gone rfl rfl (boxes c · _) fun same => .over ?_
    simp [same, dropValue]
  | @addFailed c _ _ was failed =>
    refine become c .gone rfl rfl (boxes c · _) fun same => .over ?_
    simp [same, dropValue]
  | @dropFields c _ was =>
    refine become c .gone rfl rfl (boxes c · _) fun same => .over ?_
    simp [same, dropValue]
  | @drop c _ _ was found =>
    refine become c _ rfl rfl (fun _ _ => rfl) fun same => .over ?_
    simp [same]
  | @dropUnknown c _ was unknown =>
    refine become c _ rfl rfl (fun _ _ => rfl) fun same => .over ?_
    simp [same]
  | @deleted c _ _ was =>
    refine become c _ rfl rfl (fun _ _ => rfl) fun same => .over ?_
    simp [same]
  | @undeleted c _ _ _ was failed =>
    refine become c _ rfl rfl (fun _ _ => rfl) fun same => .over ?_
    simp [same]
  | @free c userData _ was =>
    obtain ⟨rfl, _⟩ := kept.own_free was
    refine become userData _ rfl rfl (boxes userData · _) fun same => .over ?_
    simp [same, Accounts.free]
  | @pending c _ was waits =>
    by_cases same : c = b
    · subst same
      refine ⟨fun early => by simp [was] at early, fun accountId has => ?_⟩
      simp only [deliveries, if_true]
      exact deliverAll_snoc (before.delivered accountId has) (deliver_pending waits)
    · exact before.quiet (if_neg same) rfl rfl
  | @received c _ call rx was got =>
    by_cases same : c = b
    · subst same
      refine ⟨fun early => by simp [was] at early, fun accountId has => ?_⟩
      simp only [deliveries, if_true]
      exact deliverAll_snoc (before.delivered accountId has) (deliver_received got)
    · exact before.quiet (if_neg same) rfl (boxes c b _ (Ne.symm same))
  | called found => exact before.quiet rfl rfl rfl
  | @sent index callback tx running unfreed accepted =>
    have knows := kept.running callback (List.mem_of_getElem? running)
    by_cases same : callback.userData = b
    · subst same
      refine ⟨fun early => ?_, fun accountId has => ?_⟩
      · rcases early with was | was
        · rw [show s.value callback.userData = _ from was] at knows
          exact knows.elim
        · rw [show s.value callback.userData = _ from was] at knows
          exact knows.elim
      · replace has : s.value callback.userData = .added accountId := has
        rw [has] at knows
        have own : accountId = callback.accountId := knows
        subst own
        simp only [deliveries, running, if_true]
        exact deliverAll_snoc (before.delivered _ has) (deliver_sent accepted)
    · refine before.quiet ?_ rfl (boxes callback.userData b _ (Ne.symm same))
      simp only [deliveries, running, if_neg same]
  | _ => simp at going

end Accounts

/-- **Each account is delivered its own calls, as if it were the only one**: an account among others
is where the same account on its own is after its own events, and what it received and has waiting are
the calls of these events, under its own id and in order. -/
theorem accounts_refine {es : List AccountsEvent} {s : Accounts}
    (ran : accountsSystem.run Accounts.start es = some s) (going : s.abort = none) {b : ℕ}
    {accountId : Int} (was : s.value b = .added accountId) :
    (Account.added accountId).deliverAll (accountsSystem.trace (deliveries b) Accounts.start es) =
        .ok (s.account b accountId) ∧
      (s.box b).history.received ++ (s.box b).userData.onIncomingCallTx.items =
        arrivals accountId (accountsSystem.trace (deliveries b) Accounts.start es) := by
  have start : Accounts.start.Delivered b [] := ⟨fun _ => rfl, fun id has => by cases has⟩
  have step : ∀ past v e w, v.Kept ∧ (v.abort = none → v.Delivered b past) →
      accountsSystem.step v e = some w →
        w.Kept ∧ (w.abort = none → w.Delivered b (past ++ v.deliveries b e)) := by
    rintro past v e w ⟨kept, before⟩ stepped
    exact ⟨kept.step stepped, (before (steps_of_step stepped).1).step kept stepped⟩
  have kept := System.run_trace step ⟨kept_start, fun _ => start⟩ ran
  have delivered := (kept.2 going).delivered accountId was
  rw [List.nil_append] at delivered
  obtain ⟨_, sent, accounts⟩ := sent_of_deliverAll delivered
  exact ⟨delivered, accounts.symm.trans sent⟩

theorem accounts_refine_twoAccounts :
    ∃ s, accountsSystem.run Accounts.start (twoAccounts.take 7) = some s ∧
      (s.box 0).history.received ++ (s.box 0).userData.onIncomingCallTx.items = [(2, 7)] := by
  refine ⟨_, rfl, ?_⟩
  exact (@accounts_refine _ _
    (rfl : accountsSystem.run Accounts.start (twoAccounts.take 7) = some _) rfl 0 2 rfl).2

end PjsipClient
