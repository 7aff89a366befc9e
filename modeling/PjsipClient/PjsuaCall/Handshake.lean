/-
The handshake between the reports of `on_call_state` and the waits of `add` and `await_hangup`.

pjsip reports Connecting, Confirmed and Disconnected in this order, each at most once and
Disconnected at any point. Then the state channel of three slots is never full, the application
receives the reports in order, and its strict waits end as they should: `add` succeeds exactly when
the call was reported Connecting and then Confirmed, and `await_hangup` always succeeds.

* `World.InStep` — what holds at every point of such a run: the reports against what is received and
  waiting, what the application has heard in each phase, and what its functions have returned.
* `handshake` — the four laws of the handshake.
-/

import PjsipClient.PjsuaCall.Jobs
import PjsipClient.PjsuaCall.World

namespace PjsipClient

open Transport Transition
open scoped List

/-! ### What the application has heard -/

/-- The states received when a phase is reached. -/
def Phase.heard : Phase → Option (List PjsipInvState)
  | notified | incoming | setup | addSink | addStream _ | sendMedia _ | awaitAnswer _
  | awaitState .connecting _ => some []
  | awaitState .confirmed _ => some [.connecting]
  | inCall _ | awaitState .disconnected _ => some [.connecting, .confirmed]
  | _ => none

theorem Phase.isLive_of_heard {phase : Phase} {states : List PjsipInvState}
    (heard : phase.heard = some states) : phase.isLive = true := by
  cases phase <;> first | rfl | cases heard

namespace CallObject

/-- A phase is reached without a receive, or by receiving the next state. -/
theorem Moves.heard {o t : CallObject} {e : AppEvent} (moved : Moves o e t)
    {states : List PjsipInvState} (heard : t.phase.heard = some states) :
    (o.phase.heard = some states ∧ ∀ got, e ≠ .recvState got) ∨
      ∃ got seen state, e = .recvState got ∧ o.phase.heard = some seen ∧
        awaitCallState state got = .ok () ∧ states = seen ++ [state] := by
  cases moved.advances (Phase.isLive_of_heard heard) with
  | connecting was expected =>
    cases heard
    exact Or.inr ⟨_, [], .connecting, rfl, by rw [was]; rfl, expected, rfl⟩
  | confirmed was expected =>
    cases heard
    exact Or.inr ⟨_, [.connecting], .confirmed, rfl, by rw [was]; rfl, expected, rfl⟩
  | runJob status spawned => exact Or.inl ⟨heard, fun _ same => (by cases same)⟩
  | _ => exact Or.inl ⟨by rw [‹o.phase = _›]; exact heard, fun _ same => (by cases same)⟩

end CallObject

/-! ### The answer job -/

/-- No move leads back to the notification. -/
theorem CallObject.Moves.notified {o t : CallObject} {e : AppEvent} (moved : o.Moves e t)
    (was : t.phase = .notified) :
    o.phase = .notified ∧ ∃ job status, e = .runJob job status ∧ o.job = .spawned job := by
  cases moved.advances (by rw [was]; rfl) with
  | runJob status spawned => exact ⟨was, _, status, rfl, spawned⟩
  | _ => cases was

namespace CallObject

/-- Once `add` knows what it returns, no answer is given any more. -/
theorem Promises.settled {o t : CallObject} {e : AppEvent} {result : Except PjsuaError Unit}
    (promises : Promises o e (.add result)) (moved : Moves o e t) (fits : o.JobFits) :
    ¬ t.MayAnswer := by
  have settles : t.phase.beforeMedia = false → (∀ code, t.job ≠ .spawned (.acceptIncoming code)) →
      ¬ t.MayAnswer := by
    rintro after idle (before | ⟨code, spawned⟩)
    · cases after.symm.trans before
    · exact idle code spawned
  cases promises with
  | portFailed was failed =>
    have none : o.job = .none := by
      refine fits.unspawned ?_
      rcases was with was | ⟨sinkAdded, was⟩ <;> rw [was] <;> rfl
    cases moved with
    | addSink _ => exact absurd rfl failed
    | addStream _ => exact absurd rfl failed
    | addSinkFailed _ _ =>
      exact settles rfl fun code spawned => by cases none.symm.trans spawned
    | addStreamFailed _ _ =>
      exact settles rfl fun code spawned => by cases none.symm.trans spawned
  | answerFailed was finished =>
    cases moved with
    | answered _ succeeded => cases finished.symm.trans succeeded
    | answerFailed _ _ => exact settles rfl fun code spawned => by cases finished.symm.trans spawned
    | rejected now _ => cases was.symm.trans now
  | confirmed was expected =>
    obtain ⟨code, finished⟩ := fits.answered (by rw [was]; rfl)
    have idle : ∀ code, o.job ≠ .spawned (.acceptIncoming code) := fun code spawned => by
      cases finished.symm.trans spawned
    cases moved <;> exact settles rfl idle
  | unexpected was adding refused =>
    obtain ⟨code, finished⟩ := fits.answered (by rw [was]; rfl)
    have idle : ∀ code, o.job ≠ .spawned (.acceptIncoming code) := fun code spawned => by
      cases finished.symm.trans spawned
    cases moved <;> exact settles rfl idle

end CallObject

/-! ### The reports -/

/-- The states that a call can report, in this order. -/
def handshakeOrder : List PjsipInvState := [.connecting, .confirmed, .disconnected]

/-- The reports cannot be Connecting and then Confirmed any more. -/
inductive Mismatch : List PjsipInvState → Prop
  | first {state : PjsipInvState} (other : state ≠ .connecting) (rest : List PjsipInvState) :
      Mismatch (state :: rest)
  | second {state : PjsipInvState} (other : state ≠ .confirmed) (rest : List PjsipInvState) :
      Mismatch (.connecting :: state :: rest)

theorem Mismatch.append {reported : List PjsipInvState} (mismatch : Mismatch reported)
    (more : List PjsipInvState) : Mismatch (reported ++ more) := by
  cases mismatch with
  | first other rest => exact .first other _
  | second other rest => exact .second other _

theorem Mismatch.not_sublist {reported : List PjsipInvState} (mismatch : Mismatch reported)
    (ordered : reported <+ handshakeOrder) :
    ¬ [PjsipInvState.connecting, .confirmed] <+ reported := by
  intro both
  cases mismatch with
  | first other rest =>
    have later := (ordered.of_cons_of_ne other).subset
    have heard := (both.of_cons_of_ne (Ne.symm other)).subset List.mem_cons_self
    exact absurd (later (List.mem_cons_of_mem _ heard)) (by decide)
  | second other rest =>
    have later := ((List.cons_sublist_cons.mp ordered).of_cons_of_ne other).subset
    have heard := ((List.cons_sublist_cons.mp both).of_cons_of_ne (Ne.symm other)).subset
      List.mem_cons_self
    exact absurd (later (List.mem_cons_of_mem _ heard)) (by decide)

/-- What the result of a successfully answered `add` says about the reports. -/
def AddReports (reported : List PjsipInvState) : Except PjsuaError Unit → Prop
  | .ok () => [.connecting, .confirmed] <+: reported
  | .error _ => Mismatch reported

theorem AddReports.mono {reported more : List PjsipInvState} {result : Except PjsuaError Unit}
    (known : AddReports reported result) (grown : reported <+: more) : AddReports more result := by
  obtain ⟨rest, rfl⟩ := grown
  cases result with
  | ok value => exact List.IsPrefix.trans known (List.prefix_append _ _)
  | error error => exact Mismatch.append known rest

/-! ### The reports, the channel and what is received -/

/-- The user data's channel accounts for the reports as long as it is there; afterwards what was
received is still an initial part of them. -/
inductive Tracked : UserDataPointer → History OnStateChangedSendData → Prop
  | unregistered : Tracked .null .empty
  | waiting {userData : StateChangedUserData} {history : History OnStateChangedSendData}
      (accounts : history.Accounts userData.onStateChangedTx)
      (isOpen : userData.onStateChangedTx.receiverOpen = true) : Tracked (.live userData) history
  | freed {history : History OnStateChangedSendData}
      (inOrder : history.received <+: history.sent) : Tracked .dangling history

theorem Tracked.inOrder {pointer : UserDataPointer} {history : History OnStateChangedSendData}
    (tracked : Tracked pointer history) : history.received <+: history.sent := by
  cases tracked with
  | unregistered => exact List.prefix_rfl
  | waiting accounts isOpen => exact accounts.received_prefix
  | freed inOrder => exact inOrder

namespace World

/-- The states reported to the user data. -/
def reported (w : World) : List PjsipInvState := w.history.sent.map Prod.snd

/-- The states received by the application. -/
def received (w : World) : List PjsipInvState := w.history.received.map Prod.snd

/-- **Three slots are enough**: a report that is one of at most three is accepted. -/
theorem Reported.tracked {w v : World} (reported : Reported w v)
    (tracked : Tracked w.userData w.history) (few : v.history.sent.length ≤ 3) :
    Tracked v.userData v.history ∧
      (w.abort ≠ some (.exit .stateSent) → v.abort ≠ some (.exit .stateSent)) := by
  cases reported with
  | unregistered found => exact ⟨tracked, id⟩
  | dangling found => exact ⟨tracked, fun _ same => (by cases same)⟩
  | sent found accepted =>
    rw [found] at tracked
    cases tracked with
    | waiting accounts isOpen =>
      have still := (Channel.trySend_eq_ok.mp accepted).2.2.2.2.trans isOpen
      exact ⟨.waiting (accounts.trySend accepted) still, id⟩
  | refused found rejected =>
    rename_i userData why
    rw [found] at tracked
    cases tracked with
    | waiting accounts isOpen =>
      have room : userData.onStateChangedTx.items.length < 3 := by
        have total : w.history.sent.length =
            w.history.received.length + userData.onStateChangedTx.items.length := by
          rw [accounts, List.length_append]
        have one : (w.history.send (w.callId, w.inv)).sent.length ≤ 3 := few
        rw [History.send, List.length_append, List.length_singleton] at one
        omega
      obtain ⟨tx, accepted, _⟩ := Channel.trySend_isOk isOpen room (w.callId, w.inv)
      cases rejected.symm.trans accepted

theorem Reported.history {w v : World} (reported : Reported w v) :
    v.history.received = w.history.received ∧ w.history.sent <+: v.history.sent ∧
      (w.userData = .null → v.userData = .null) := by
  cases reported with
  | unregistered found => exact ⟨rfl, List.prefix_rfl, id⟩
  | dangling found => exact ⟨rfl, List.prefix_rfl, id⟩
  | sent found accepted =>
    exact ⟨rfl, List.prefix_append _ _, fun none => by cases found.symm.trans none⟩
  | refused found rejected => exact ⟨rfl, List.prefix_append _ _, id⟩

/-- The history of a call as an operation leaves it. -/
theorem HungUp.history {w v : World} {code : ℕ} {status : PjStatus}
    (hungUp : HungUp w code status v) :
    v.history.received = w.history.received ∧ w.history.sent <+: v.history.sent := by
  cases hungUp with
  | silent ended => exact ⟨rfl, List.prefix_rfl⟩
  | reported accepted active heard reported =>
    obtain ⟨received, sent, _⟩ := reported.history
    exact ⟨received, sent⟩

theorem HungUp.tracked {w v : World} {code : ℕ} {status : PjStatus}
    (hungUp : HungUp w code status v) (tracked : Tracked w.userData w.history)
    (few : v.history.sent.length ≤ 3) (unsaturated : w.abort ≠ some (.exit .stateSent)) :
    Tracked v.userData v.history ∧ v.abort ≠ some (.exit .stateSent) := by
  cases hungUp with
  | silent ended => exact ⟨tracked, unsaturated⟩
  | reported accepted active heard reported =>
    obtain ⟨still, kept⟩ := reported.tracked tracked few
    exact ⟨still, kept unsaturated⟩

theorem Effects.sent_prefix {w next : World} {event : AppEvent} (effects : Effects w event next) :
    w.history.sent <+: next.history.sent := by
  cases effects with
  | reject hungUp => exact hungUp.history.2
  | hangupCall hungUp => exact hungUp.history.2
  | _ => exact List.prefix_rfl

/-- Only a receive changes what is received. -/
theorem Effects.received {w next : World} {event : AppEvent} (effects : Effects w event next)
    (other : ∀ got, event ≠ .recvState got) : next.received = w.received := by
  have same : next.history.received = w.history.received := by
    cases effects with
    | reject hungUp => exact hungUp.history.1
    | hangupCall hungUp => exact hungUp.history.1
    | recvState found received => exact absurd rfl (other _)
    | _ => rfl
  unfold World.received
  rw [same]

theorem Effects.received_recvState {w next : World} {got : Option OnStateChangedSendData}
    (effects : Effects w (.recvState got) next) :
    ∃ item, got = some item ∧ next.received = w.received ++ [item.2] := by
  cases effects with
  | recvState found received => exact ⟨_, rfl, List.map_append⟩
  | quiet quiet => cases quiet

theorem Effects.tracked {w next : World} {event : AppEvent} (effects : Effects w event next)
    (tracked : Tracked w.userData w.history)
    (unregistered : ∀ status, event = .setUserData status → w.userData = .null)
    (few : next.history.sent.length ≤ 3) (unsaturated : w.abort ≠ some (.exit .stateSent)) :
    Tracked next.userData next.history ∧ next.abort ≠ some (.exit .stateSent) := by
  cases effects with
  | reject hungUp => exact hungUp.tracked tracked few unsaturated
  | hangupCall hungUp => exact hungUp.tracked tracked few unsaturated
  | setUserData status =>
    refine ⟨?_, unsaturated⟩
    have none := unregistered status rfl
    rw [none] at tracked
    generalize kept : w.history = history at tracked
    cases tracked with
    | unregistered =>
      show Tracked (if status = pjSuccess then .live .new else w.userData) .empty
      rw [none]
      split
      · exact .waiting History.accounts_new rfl
      · exact .unregistered
  | sendMediaData found =>
    rw [found] at tracked
    cases tracked with
    | waiting accounts isOpen => exact ⟨.waiting accounts isOpen, unsaturated⟩
  | recvState found received =>
    rw [found] at tracked
    cases tracked with
    | waiting accounts isOpen =>
      refine ⟨.waiting (accounts.recv received) ?_, unsaturated⟩
      rcases Channel.recv_eq_ready received with ⟨item, _, _, same, _⟩ | ⟨impossible, _⟩
      · exact same.trans isOpen
      · cases impossible
  | freeFields => exact ⟨.freed tracked.inOrder, unsaturated⟩
  | _ => exact ⟨tracked, unsaturated⟩

/-! ### In step -/

/-- What holds of a call in a run of the handshake. -/
structure InStep (w : World) : Prop where
  tracked : Tracked w.userData w.history
  unsaturated : w.abort ≠ some (.exit .stateSent)
  unregistered : w.object.phase = .notified → w.userData = .null
  fits : w.object.JobFits
  heard : ∀ {states}, w.object.phase.heard = some states → w.received = states
  unanswered : w.object.MayAnswer → w.answers = []
  answered : ∀ {code result}, w.object.job = .finished (.acceptIncoming code) result →
    ∃ status, w.answers = [(code.asU32, status)] ∧ result = getErrorAsResult status
  added : ∀ {result}, .add result ∈ w.object.promised → ¬ w.object.MayAnswer ∧
    ((AnswerCode.ok.asU32, pjSuccess) ∈ w.answers → AddReports w.reported result)
  ended : ∀ {result}, .awaitHangup result ∈ w.object.promised →
    result = .ok () ∧ .disconnected ∈ w.reported

/-- What pjsua does by itself keeps the application in step. -/
theorem InStep.pjsua {w v : World} (inStep : InStep w)
    (tracked : Tracked v.userData v.history) (unsaturated : v.abort ≠ some (.exit .stateSent))
    (unregistered : w.userData = .null → v.userData = .null)
    (received : v.history.received = w.history.received)
    (sent : w.history.sent <+: v.history.sent) (object : v.object = w.object)
    (answers : v.answers = w.answers) : InStep v := by
  have grown : w.reported <+: v.reported := sent.map Prod.snd
  have same : v.received = w.received := by
    unfold World.received
    rw [received]
  refine ⟨tracked, unsaturated, ?_, ?_, ?_, ?_, ?_, ?_, ?_⟩
  · rw [object]
    exact fun was => unregistered (inStep.unregistered was)
  · rw [object]
    exact inStep.fits
  · rw [object, same]
    exact inStep.heard
  · rw [object, answers]
    exact inStep.unanswered
  · rw [object, answers]
    exact inStep.answered
  · rw [object, answers]
    intro result member
    obtain ⟨settled, known⟩ := inStep.added member
    exact ⟨settled, fun accepted => (known accepted).mono grown⟩
  · rw [object]
    intro result member
    obtain ⟨succeeded, ended⟩ := inStep.ended member
    exact ⟨succeeded, grown.subset ended⟩

section App

variable {w next : World} {event : AppEvent} {object : CallObject}

/-- The answers change only while the call may be answered. -/
theorem Effects.answers_settled (effects : Effects w event next)
    (moved : w.object.Moves event object) (settled : ¬ w.object.MayAnswer) :
    next.answers = w.answers := by
  rw [effects.recorded.2]
  cases moved with
  | runJob status spawned =>
    rename_i job
    cases job with
    | acceptIncoming code => exact absurd (Or.inr ⟨code, spawned⟩) settled
    | rejectIncoming => exact List.append_nil _
  | _ => exact List.append_nil _

theorem InStep.unanswered_app (inStep : InStep w) (moved : w.object.Moves event object)
    (effects : Effects w event next) (may : object.MayAnswer) : next.answers = [] := by
  have none := inStep.unanswered (moved.mayAnswer may)
  rw [effects.recorded.2, none]
  cases moved with
  | runJob status spawned =>
    rcases may with before | ⟨code, again⟩
    · cases (inStep.fits.unspawned before).symm.trans spawned
    · cases again
  | _ => rfl

theorem InStep.answered_app (inStep : InStep w) (moved : w.object.Moves event object)
    (effects : Effects w event next) {code : AnswerCode} {result : Except PjsuaError Unit}
    (finished : object.job = .finished (.acceptIncoming code) result) :
    ∃ status, next.answers = [(code.asU32, status)] ∧ result = getErrorAsResult status := by
  rw [effects.recorded.2]
  cases moved with
  | runJob status spawned =>
    cases finished
    rw [inStep.unanswered (Or.inr ⟨code, spawned⟩)]
    exact ⟨status, rfl, rfl⟩
  | sendMediaData was => cases finished
  | rejecting was => cases finished
  | _ => exact (inStep.answered finished).imp fun status known => ⟨by rw [known.1]; rfl, known.2⟩

theorem InStep.heard_app (inStep : InStep w) (moved : w.object.Moves event object)
    (effects : Effects w event next) {states : List PjsipInvState}
    (heard : object.phase.heard = some states) : next.received = states := by
  rcases moved.heard heard with ⟨same, other⟩ | ⟨got, seen, state, rfl, before, expected, rfl⟩
  · rw [effects.received other]
    exact inStep.heard same
  · obtain ⟨item, rfl, received⟩ := effects.received_recvState
    rw [received, inStep.heard before, awaitCallState_eq_ok.mp expected]

/-- What `add` returns is what its reports say, if its answer has succeeded. -/
theorem InStep.promises_add (inStep : InStep w) (effects : Effects w event next)
    (inOrder : next.received <+: next.reported) {result : Except PjsuaError Unit}
    (promises : w.object.Promises event (.add result))
    (accepted : (AnswerCode.ok.asU32, pjSuccess) ∈ next.answers) :
    AddReports next.reported result := by
  rw [effects.recorded.2] at accepted
  cases promises with
  | portFailed was failed =>
    have none : w.answers = [] := by
      refine inStep.unanswered (Or.inl ?_)
      rcases was with was | ⟨sinkAdded, was⟩ <;> rw [was] <;> rfl
    rw [none] at accepted
    cases accepted
  | answerFailed was finished =>
    obtain ⟨status, once, given⟩ := inStep.answered finished
    rw [once] at accepted
    have succeeded : pjSuccess = status := congrArg Prod.snd (List.mem_singleton.mp accepted)
    rw [← succeeded] at given
    cases given
  | confirmed was expected =>
    obtain ⟨item, rfl, received⟩ := effects.received_recvState
    have before : w.received = [.connecting] := inStep.heard (by rw [was]; rfl)
    rw [before, awaitCallState_eq_ok.mp expected] at received
    show [PjsipInvState.connecting, .confirmed] <+: next.reported
    rw [received] at inOrder
    exact inOrder
  | unexpected was adding refused =>
    rename_i awaited ports got error
    obtain ⟨item, rfl, received⟩ := effects.received_recvState
    have other : item.2 ≠ awaited.state := by
      intro same
      cases refused.symm.trans (awaitCallState_eq_ok.mpr same)
    cases awaited with
    | connecting =>
      have before : w.received = [] := inStep.heard (by rw [was]; rfl)
      rw [received, before] at inOrder
      obtain ⟨rest, whole⟩ := inOrder
      rw [← whole]
      exact .first other rest
    | confirmed =>
      have before : w.received = [.connecting] := inStep.heard (by rw [was]; rfl)
      rw [received, before] at inOrder
      obtain ⟨rest, whole⟩ := inOrder
      rw [← whole]
      exact .second other rest
    | disconnected => exact absurd rfl adding

/-- After Connecting and Confirmed only Disconnected is left. -/
theorem InStep.promises_awaitHangup (inStep : InStep w) (effects : Effects w event next)
    (inOrder : next.received <+: next.reported) (ordered : next.reported <+ handshakeOrder)
    {result : Except PjsuaError Unit} (promises : w.object.Promises event (.awaitHangup result)) :
    result = .ok () ∧ .disconnected ∈ next.reported := by
  cases promises with
  | disconnected was =>
    obtain ⟨item, rfl, received⟩ := effects.received_recvState
    have before : w.received = [.connecting, .confirmed] := inStep.heard (by rw [was]; rfl)
    rw [received, before] at inOrder
    have whole : [PjsipInvState.connecting, .confirmed, item.2] <+ handshakeOrder :=
      inOrder.sublist.trans ordered
    have last : item.2 = .disconnected :=
      List.mem_singleton.mp
        ((List.cons_sublist_cons.mp (List.cons_sublist_cons.mp whole)).subset List.mem_cons_self)
    refine ⟨awaitCallState_eq_ok.mpr last, inOrder.subset ?_⟩
    rw [last]
    decide

/-- **What the application does keeps it in step.** -/
theorem InStep.app (inStep : InStep w) (moved : w.object.Moves event object)
    (effects : Effects w event next) (ordered : next.reported <+ handshakeOrder) :
    InStep { next with object := object } := by
  have few : next.history.sent.length ≤ 3 := by
    have short := ordered.length_le
    unfold World.reported at short
    rw [List.length_map] at short
    exact short
  have registers : ∀ status, event = .setUserData status → w.userData = .null := by
    rintro status rfl
    cases moved with
    | new was => exact inStep.unregistered was
    | newFailed was failed => exact inStep.unregistered was
  obtain ⟨tracked, unsaturated⟩ :=
    effects.tracked inStep.tracked registers few inStep.unsaturated
  have inOrder : next.received <+: next.reported := tracked.inOrder.map Prod.snd
  have grown : w.reported <+: next.reported := effects.sent_prefix.map Prod.snd
  refine ⟨tracked, unsaturated, ?_, moved.jobFits inStep.fits, ?_, ?_, ?_, ?_, ?_⟩
  · intro was
    obtain ⟨before, job, status, rfl, spawned⟩ := moved.notified was
    cases (inStep.fits.unspawned (by rw [before]; rfl)).symm.trans spawned
  · exact fun heard => inStep.heard_app moved effects heard
  · intro may
    have none := inStep.unanswered_app moved effects may
    exact none
  · exact fun finished => inStep.answered_app moved effects finished
  · intro result member
    rcases moved.promised member with old | new
    · obtain ⟨settled, known⟩ := inStep.added old
      refine ⟨fun may => settled (moved.mayAnswer may), ?_⟩
      intro accepted
      exact (known (effects.answers_settled moved settled ▸ accepted)).mono grown
    · exact ⟨new.settled moved inStep.fits, inStep.promises_add effects inOrder new⟩
  · intro result member
    rcases moved.promised member with old | new
    · obtain ⟨succeeded, ended⟩ := inStep.ended old
      exact ⟨succeeded, grown.subset ended⟩
    · exact inStep.promises_awaitHangup effects inOrder ordered new

end App

theorem MediaSeen.history {w v : World} (seen : MediaSeen w v) : v.history = w.history := by
  cases seen <;> rfl

theorem MediaSeen.tracked {w v : World} (seen : MediaSeen w v)
    (tracked : Tracked w.userData w.history) (unsaturated : w.abort ≠ some (.exit .stateSent)) :
    Tracked v.userData v.history ∧ v.abort ≠ some (.exit .stateSent) ∧
      (w.userData = .null → v.userData = .null) := by
  cases seen with
  | noPort hookup found sent invalid =>
    rw [found] at tracked
    cases tracked with
    | waiting accounts isOpen =>
      exact ⟨.waiting accounts isOpen, fun same => (by cases same),
        fun none => by cases found.symm.trans none⟩
  | received hookup found sent valid =>
    rw [found] at tracked
    cases tracked with
    | waiting accounts isOpen =>
      exact ⟨.waiting accounts isOpen, unsaturated,
        fun none => by cases found.symm.trans none⟩
  | idle idle => exact ⟨tracked, unsaturated, id⟩
  | noReceiver hookup found none => exact ⟨tracked, unsaturated, id⟩
  | _ => exact ⟨tracked, fun same => (by cases same), id⟩

/-- The reports only grow. -/
theorem reported_step {w v : World} {e : CallEvent} (stepped : w.step e = some v) :
    w.reported <+: v.reported := by
  obtain ⟨_, steps⟩ := steps_of_step stepped
  have grown : w.history.sent <+: v.history.sent := by
    cases steps with
    | setState idle alive => exact List.prefix_rfl
    | onCallState due heard between => exact w.callState_reported.history.2.1
    | setMedia => exact List.prefix_rfl
    | onCallMediaState heard between => exact w.mediaState_seen.history ▸ List.prefix_rfl
    | connect next => exact connect_eq w _ _ _ ▸ List.prefix_rfl
    | app moved effects => exact effects.sent_prefix
  exact grown.map Prod.snd

/-- **One step of the handshake.** -/
theorem InStep.step {w v : World} {e : CallEvent} (ordered : v.reported <+ handshakeOrder)
    (inStep : InStep w) (stepped : w.step e = some v) : InStep v := by
  obtain ⟨_, steps⟩ := steps_of_step stepped
  cases steps with
  | setState idle alive =>
    exact inStep.pjsua inStep.tracked inStep.unsaturated id rfl List.prefix_rfl rfl rfl
  | setMedia =>
    exact inStep.pjsua inStep.tracked inStep.unsaturated id rfl List.prefix_rfl rfl rfl
  | onCallState due heard between =>
    have few : w.callState.history.sent.length ≤ 3 := by
      have short := ordered.length_le
      unfold World.reported at short
      rw [List.length_map] at short
      exact short
    have same := w.callState_reported.same
    obtain ⟨received, sent, unregistered⟩ := w.callState_reported.history
    obtain ⟨tracked, kept⟩ := w.callState_reported.tracked inStep.tracked few
    exact inStep.pjsua tracked (kept inStep.unsaturated) unregistered received sent same.object
      same.answers
  | onCallMediaState heard between =>
    have same := w.mediaState_seen.same
    have history := w.mediaState_seen.history
    have sent : w.history.sent <+: w.mediaState.history.sent := history ▸ List.prefix_rfl
    obtain ⟨tracked, unsaturated, unregistered⟩ :=
      w.mediaState_seen.tracked inStep.tracked inStep.unsaturated
    exact inStep.pjsua tracked unsaturated unregistered (by rw [history]) sent same.object
      same.answers
  | connect next =>
    rw [connect_eq]
    refine inStep.pjsua inStep.tracked ?_ id rfl List.prefix_rfl rfl rfl
    show (if _ then w.abort else _) ≠ _
    split
    · exact inStep.unsaturated
    · exact fun same => (by cases same)
  | app moved effects => exact inStep.app moved effects ordered

theorem inStep_start (callId confPort : Int) (inv : PjsipInvState) (media : CallMediaStatus)
    (outstanding : Bool) : InStep (start callId confPort inv media outstanding) := by
  refine ⟨.unregistered, fun same => (by cases same), fun _ => rfl, ?_, ?_, fun _ => rfl, ?_, ?_, ?_⟩
  · exact ⟨fun _ => rfl, fun answered => (by cases answered)⟩
  · intro states heard
    cases heard
    rfl
  · intro code result finished
    cases finished
  · intro result member
    cases member
  · intro result member
    cases member

/-- The laws of the handshake: no report is refused; what is received and then waits is what was
reported; `add` succeeds exactly if Connecting and then Confirmed were reported; `await_hangup`
succeeds, after Disconnected was reported. -/
structure HandshakeHolds (w : World) : Prop where
  accepted : w.abort ≠ some (.exit .stateSent)
  inOrder : w.history.received <+: w.history.sent
  waiting : ∀ {userData}, w.userData = .live userData →
    w.history.sent = w.history.received ++ userData.onStateChangedTx.items
  added : ∀ {result}, Return.add result ∈ w.object.returns →
    (AnswerCode.ok.asU32, pjSuccess) ∈ w.answers →
    (result = .ok () ↔ [.connecting, .confirmed] <+ w.reported)
  ended : ∀ {result}, Return.awaitHangup result ∈ w.object.returns →
    result = .ok () ∧ .disconnected ∈ w.reported

theorem InStep.holds {w : World} (inStep : InStep w) (ordered : w.reported <+ handshakeOrder) :
    w.HandshakeHolds := by
  refine ⟨inStep.unsaturated, inStep.tracked.inOrder, ?_, ?_, ?_⟩
  · intro userData found
    have tracked := inStep.tracked
    rw [found] at tracked
    cases tracked with
    | waiting accounts isOpen => exact accounts
  · intro result returned accepted
    have known := (inStep.added (List.mem_append_left _ returned)).2 accepted
    cases result with
    | ok value => exact ⟨fun _ => List.IsPrefix.sublist known, fun _ => rfl⟩
    | error error =>
      exact ⟨fun same => (by cases same), fun both => absurd both (Mismatch.not_sublist known ordered)⟩
  · intro result returned
    exact inStep.ended (List.mem_append_left _ returned)

end World

/-- **The handshake**: in a run in which pjsip reports Connecting, Confirmed and Disconnected in this
order, each at most once. -/
theorem handshake (callId confPort : Int) (inv : PjsipInvState) (media : CallMediaStatus)
    (outstanding : Bool) (es : List CallEvent) {w : World}
    (ran : callSystem.run (World.start callId confPort inv media outstanding) es = some w)
    (ordered : w.reported <+ handshakeOrder) : w.HandshakeHolds := by
  have keeps : ∀ v e u, (v.reported <+ handshakeOrder → v.InStep) → callSystem.step v e = some u →
      u.reported <+ handshakeOrder → u.InStep := by
    intro v e u before stepped ordered
    have earlier := (World.reported_step stepped).sublist.trans ordered
    exact (before earlier).step ordered stepped
  have inStep : w.reported <+ handshakeOrder → w.InStep :=
    callSystem.run_keeps keeps (fun _ => World.inStep_start callId confPort inv media outstanding) ran
  exact (inStep ordered).holds ordered

/-- A call that is answered, confirmed and hung up by the remote. -/
def wholeCall : List CallEvent :=
  [.app (.setUserData pjSuccess), .app .answerSessionProgress, .app .add,
    .app (.addPort .sink 5 pjSuccess), .app (.addPort .stream 6 pjSuccess),
    .app (.sendMediaData (.ofPorts 5 6)), .app (.runJob (.acceptIncoming .ok) pjSuccess),
    .app .joinJob, .setState .connecting, .onCallState, .setState .confirmed, .onCallState,
    .app (.recvState (some (0, .connecting))), .app (.recvState (some (0, .confirmed))),
    .app .awaitHangup, .setState .disconnected, .onCallState,
    .app (.recvState (some (0, .disconnected))), .app (.removePort .sink 5 pjSuccess),
    .app (.destroyPort .sink 5 pjSuccess), .app (.removePort .stream 6 pjSuccess),
    .app (.destroyPort .stream 6 pjSuccess), .app (.checkActive false), .app .freeFields,
    .app .finish]

theorem handshake_wholeCall :
    ∃ w, callSystem.run (World.start 0 3 .incoming .none false) wholeCall = some w ∧
      w.HandshakeHolds :=
  ⟨_, rfl, handshake 0 3 .incoming .none false wholeCall rfl (by decide)⟩

end PjsipClient
