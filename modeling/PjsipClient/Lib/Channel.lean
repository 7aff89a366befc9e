/-
Message channels.

* `Channel α capacity` — a bounded FIFO queue between one sender and one receiver. That it never
  holds more than `capacity` items is a field of the structure, so no overfull channel can be built.
* `Oneshot α` — a channel for a single value: the value can be received once, after which the
  receiver only ever sees a closed channel.
* `Channel.Drains` — what a receiver gets up to the end of its channel.
* `History α` — what an unbounded queue would have carried: the items sent and the items received.
  `History.Accounts` ties a channel to its history: what was sent is what was received followed by
  what is waiting. It is kept by every send that the channel accepts and by every receive.
-/

import Mathlib.Data.List.Basic

namespace Transport

variable {α : Type} {capacity : ℕ}

/-- The answer of an operation that may have to wait. -/
inductive Poll (β : Type)
  | pending
  | ready (value : β)
  deriving DecidableEq, Repr

/-! ### The bounded channel -/

/-- Why a non-blocking send fails; the item is given back. -/
inductive TrySendError (α : Type)
  | full (item : α)
  | closed (item : α)
  deriving DecidableEq, Repr

/-- Why a sender that is polled fails. -/
inductive PollSendError
  | disconnected
  deriving DecidableEq, Repr

/-- A bounded FIFO channel. -/
structure Channel (α : Type) (capacity : ℕ) where
  items : List α
  senderOpen : Bool
  receiverOpen : Bool
  bounded : items.length ≤ capacity
  deriving DecidableEq

namespace Channel

/-- A new channel: empty, both ends open. -/
def new (α : Type) (capacity : ℕ) : Channel α capacity := ⟨[], true, true, Nat.zero_le _⟩

theorem push_bounded {items : List α} (room : items.length < capacity) (item : α) :
    (items ++ [item]).length ≤ capacity := by
  rw [List.length_append, List.length_singleton]
  exact room

/-- Send without waiting: refused when the receiver is gone or the channel is full. -/
def trySend (c : Channel α capacity) (item : α) :
    Except (TrySendError α) (Channel α capacity) :=
  if c.receiverOpen then
    if room : c.items.length < capacity then
      .ok { c with items := c.items ++ [item], bounded := push_bounded room item }
    else .error (.full item)
  else .error (.closed item)

/-- Receive: the oldest item; with nothing waiting, wait for a sender or see that it is gone. -/
def recv (c : Channel α capacity) : Poll (Option α × Channel α capacity) :=
  match waiting : c.items with
  | item :: rest => .ready (some item,
      { c with items := rest, bounded := Nat.le_of_succ_le (by simpa [waiting] using c.bounded) })
  | [] => if c.senderOpen then .pending else .ready (none, c)

/-- The receiver is dropped, and what waits for it with it. -/
def dropReceiver (c : Channel α capacity) : Channel α capacity :=
  ⟨[], c.senderOpen, false, Nat.zero_le _⟩

/-- The sender is dropped; what waits can still be received. -/
def dropSender (c : Channel α capacity) : Channel α capacity := { c with senderOpen := false }

theorem trySend_eq_ok {c d : Channel α capacity} {item : α} :
    c.trySend item = .ok d ↔
      c.receiverOpen = true ∧ c.items.length < capacity ∧ d.items = c.items ++ [item] ∧
        d.senderOpen = c.senderOpen ∧ d.receiverOpen = c.receiverOpen := by
  obtain ⟨items, senderOpen, receiverOpen, bounded⟩ := c
  obtain ⟨items', senderOpen', receiverOpen', bounded'⟩ := d
  cases receiverOpen with
  | false => simp [trySend]
  | true =>
    by_cases room : items.length < capacity
    · simp [trySend, room, eq_comm]
    · simp [trySend, room]

/-- A send is accepted exactly when the receiver is there and there is room. -/
theorem trySend_isOk {c : Channel α capacity} (isOpen : c.receiverOpen = true)
    (room : c.items.length < capacity) (item : α) :
    ∃ d, c.trySend item = .ok d ∧ d.items = c.items ++ [item] ∧ d.receiverOpen = true := by
  refine ⟨{ c with items := c.items ++ [item], bounded := push_bounded room item }, ?_, rfl, isOpen⟩
  rw [trySend_eq_ok]
  exact ⟨isOpen, room, rfl, rfl, rfl⟩

theorem trySend_full {c : Channel α capacity} {item : α} (isOpen : c.receiverOpen = true)
    (full : c.items.length = capacity) : c.trySend item = .error (.full item) := by
  unfold trySend
  rw [if_pos isOpen, dif_neg (by omega)]

theorem recv_cons {c : Channel α capacity} {item : α} {rest : List α}
    (waiting : c.items = item :: rest) :
    ∃ d, c.recv = .ready (some item, d) ∧ d.items = rest ∧ d.receiverOpen = c.receiverOpen ∧
      d.senderOpen = c.senderOpen := by
  obtain ⟨items, senderOpen, receiverOpen, bounded⟩ := c
  subst waiting
  exact ⟨_, rfl, rfl, rfl, rfl⟩

theorem recv_nil {c : Channel α capacity} (empty : c.items = []) (alive : c.senderOpen = true) :
    c.recv = .pending := by
  obtain ⟨items, senderOpen, receiverOpen, bounded⟩ := c
  subst empty
  unfold recv
  exact if_pos alive

theorem items_of_pending {c : Channel α capacity} (waits : c.recv = .pending) : c.items = [] := by
  by_contra some
  obtain ⟨item, rest, items⟩ := List.exists_cons_of_ne_nil some
  obtain ⟨_, received, _⟩ := recv_cons items
  rw [waits] at received
  cases received

/-- What a completed receive can have been. -/
theorem recv_eq_ready {c d : Channel α capacity} {got : Option α}
    (received : c.recv = .ready (got, d)) :
    (∃ item, got = some item ∧ c.items = item :: d.items ∧ d.receiverOpen = c.receiverOpen ∧
        d.senderOpen = c.senderOpen) ∨
      (got = none ∧ c.items = [] ∧ c.senderOpen = false ∧ d = c) := by
  obtain ⟨items, senderOpen, receiverOpen, bounded⟩ := c
  cases items with
  | nil =>
    unfold recv at received
    cases senderOpen with
    | true => cases received
    | false =>
      cases received
      exact Or.inr ⟨rfl, rfl, rfl, rfl⟩
  | cons item rest =>
    cases received
    exact Or.inl ⟨item, rfl, rfl, rfl, rfl⟩

/-- The receiver gets these items, and then sees that the sender is gone. -/
inductive Drains : Channel α capacity → List α → Prop
  | done {c : Channel α capacity} (closed : c.recv = .ready (none, c)) : Drains c []
  | next {c d : Channel α capacity} {item : α} {items : List α}
      (received : c.recv = .ready (some item, d)) (rest : Drains d items) : Drains c (item :: items)

/-- **A channel whose sender is gone** is received to its end. -/
theorem drains_of_closed {c : Channel α capacity} (closed : c.senderOpen = false) :
    Drains c c.items := by
  generalize waiting : c.items = items
  induction items generalizing c with
  | nil =>
    refine .done ?_
    obtain ⟨_, senderOpen, _, _⟩ := c
    subst waiting closed
    rfl
  | cons item rest ih =>
    obtain ⟨d, received, items, _, senderOpen⟩ := recv_cons waiting
    exact .next received (ih (senderOpen.trans closed) items)

/-! #### Sending by polls -/

/-- Whether a send would be taken now: the sender is parked while the channel is full, and
disconnected when it was closed or nobody receives. -/
def pollReady (c : Channel α capacity) : Poll (Except PollSendError Unit) :=
  if c.senderOpen ∧ c.receiverOpen then
    if c.items.length < capacity then .ready (.ok ()) else .pending
  else .ready (.error .disconnected)

/-- Send without waiting, through a sender that may have been closed. -/
def startSend (c : Channel α capacity) (item : α) :
    Except (TrySendError α) (Channel α capacity) :=
  if c.senderOpen then c.trySend item else .error (.closed item)

/-- Whether everything sent is through: the sender is parked no more, or disconnected. -/
def pollFlush (c : Channel α capacity) : Poll (Except PollSendError Unit) :=
  match c.pollReady with
  | .ready (.error .disconnected) => .ready (.ok ())
  | answer => answer

/-- Both ends are there. -/
structure IsOpen (c : Channel α capacity) : Prop where
  receiver : c.receiverOpen = true
  sender : c.senderOpen = true

theorem isOpen_iff {c : Channel α capacity} :
    c.IsOpen ↔ c.receiverOpen = true ∧ c.senderOpen = true :=
  ⟨fun isOpen => ⟨isOpen.receiver, isOpen.sender⟩, fun both => ⟨both.1, both.2⟩⟩

theorem not_isOpen_iff {c : Channel α capacity} :
    ¬ c.IsOpen ↔ c.senderOpen = false ∨ c.receiverOpen = false := by
  rw [isOpen_iff, not_and_or, Bool.not_eq_true, Bool.not_eq_true, or_comm]

theorem pollReady_room {c : Channel α capacity} (isOpen : c.IsOpen)
    (room : c.items.length < capacity) : c.pollReady = .ready (.ok ()) := by
  simp [pollReady, isOpen.sender, isOpen.receiver, room]

theorem pollReady_full {c : Channel α capacity} (isOpen : c.IsOpen)
    (full : ¬ c.items.length < capacity) : c.pollReady = .pending := by
  simp [pollReady, isOpen.sender, isOpen.receiver, full]

theorem pollReady_shut {c : Channel α capacity} (shut : ¬ c.IsOpen) :
    c.pollReady = .ready (.error .disconnected) :=
  if_neg fun both => shut ⟨both.2, both.1⟩

theorem pollFlush_shut {c : Channel α capacity} (shut : ¬ c.IsOpen) :
    c.pollFlush = .ready (.ok ()) := by
  unfold pollFlush
  rw [pollReady_shut shut]

theorem startSend_eq_ok {c d : Channel α capacity} {item : α} :
    c.startSend item = .ok d ↔ c.senderOpen = true ∧ c.trySend item = .ok d := by
  unfold startSend
  cases c.senderOpen <;> simp

theorem startSend_closed {c : Channel α capacity} (gone : c.receiverOpen = false) (item : α) :
    c.startSend item = .error (.closed item) := by
  unfold startSend trySend
  cases c.senderOpen <;> simp [gone]

theorem IsOpen.startSend {c : Channel α capacity} (isOpen : c.IsOpen) (item : α) :
    c.startSend item = c.trySend item := if_pos isOpen.sender

/-- An accepted send leaves both ends there. -/
theorem IsOpen.trySend {c d : Channel α capacity} {item : α} (isOpen : c.IsOpen)
    (accepted : c.trySend item = .ok d) : d.IsOpen := by
  obtain ⟨_, _, _, sender, receiver⟩ := trySend_eq_ok.mp accepted
  exact ⟨receiver.trans isOpen.receiver, sender.trans isOpen.sender⟩

/-! #### The same channel with its items seen through a function -/

variable {β : Type}

/-- The channel with `f` applied to its items. -/
def map (f : α → β) (c : Channel α capacity) : Channel β capacity where
  items := c.items.map f
  senderOpen := c.senderOpen
  receiverOpen := c.receiverOpen
  bounded := by rw [List.length_map]; exact c.bounded

/-- An accepted send is accepted for the images as well. -/
theorem trySend_map (f : α → β) {c d : Channel α capacity} {item : α}
    (sent : c.trySend item = .ok d) : (c.map f).trySend (f item) = .ok (d.map f) := by
  obtain ⟨isOpen, room, items, senderOpen, receiverOpen⟩ := trySend_eq_ok.mp sent
  refine trySend_eq_ok.mpr ⟨isOpen, ?_, ?_, senderOpen, receiverOpen⟩
  · show (c.items.map f).length < capacity
    rwa [List.length_map]
  · show d.items.map f = c.items.map f ++ [f item]
    rw [items, List.map_append, List.map_singleton]

/-- A receive of the images gives the image of what is received. -/
theorem recv_map (f : α → β) {c d : Channel α capacity} {item : α}
    (received : c.recv = .ready (some item, d)) :
    (c.map f).recv = .ready (some (f item), d.map f) := by
  rcases recv_eq_ready received with ⟨found, same, items, isOpen, alive⟩ | ⟨impossible, _⟩
  · cases same
    obtain ⟨waiting, senderOpen, receiverOpen, bounded⟩ := c
    obtain ⟨waiting', senderOpen', receiverOpen', bounded'⟩ := d
    cases items
    cases isOpen
    cases alive
    rfl
  · cases impossible

end Channel

/-! ### The history of a channel -/

/-- The items put into a queue and the items taken out of it, each in order. -/
structure History (α : Type) where
  sent : List α
  received : List α
  deriving DecidableEq

namespace History

/-- Nothing sent, nothing received. -/
def empty : History α := ⟨[], []⟩

/-- One more item sent. -/
def send (h : History α) (item : α) : History α := { h with sent := h.sent ++ [item] }

/-- One more item received. -/
def receive (h : History α) (item : α) : History α := { h with received := h.received ++ [item] }

/-- **First in, first out, nothing lost and nothing twice**: what was sent is what was received and
then what is waiting. -/
def Accounts (h : History α) (c : Channel α capacity) : Prop := h.sent = h.received ++ c.items

theorem accounts_new : (empty : History α).Accounts (Channel.new α capacity) := rfl

theorem Accounts.trySend {h : History α} {c d : Channel α capacity} {item : α}
    (accounts : h.Accounts c) (sent : c.trySend item = .ok d) : (h.send item).Accounts d := by
  obtain ⟨_, _, items, _, _⟩ := Channel.trySend_eq_ok.mp sent
  show h.sent ++ [item] = h.received ++ d.items
  rw [accounts, items, List.append_assoc]

theorem Accounts.recv {h : History α} {c d : Channel α capacity} {item : α}
    (accounts : h.Accounts c) (received : c.recv = .ready (some item, d)) :
    (h.receive item).Accounts d := by
  rcases Channel.recv_eq_ready received with ⟨found, same, items, _, _⟩ | ⟨impossible, _⟩
  · cases same
    show h.sent = h.received ++ [item] ++ d.items
    rw [accounts, items, List.append_assoc, List.singleton_append]
  · cases impossible

theorem Accounts.received_prefix {h : History α} {c : Channel α capacity}
    (accounts : h.Accounts c) : h.received <+: h.sent := ⟨c.items, accounts.symm⟩

end History

/-! ### The one-shot channel -/

/-- A channel for one value: nothing sent yet, the value sent and not received, or no value to come
(it was received, or its sender is gone). -/
inductive Oneshot (α : Type)
  | empty
  | sent (value : α)
  | closed
  deriving DecidableEq, Repr

/-- Why a one-shot receiver has no value to give. -/
inductive TryRecvError
  | empty
  | closed
  deriving DecidableEq, Repr

namespace Oneshot

/-- Send the value; the sender is consumed, so this happens to an empty channel only. -/
def send (c : Oneshot α) (value : α) : Except α (Oneshot α) :=
  match c with
  | empty => .ok (sent value)
  | _ => .error value

/-- Receive without waiting. -/
def tryRecv : Oneshot α → Except TryRecvError α × Oneshot α
  | empty => (.error .empty, empty)
  | sent value => (.ok value, closed)
  | closed => (.error .closed, closed)

end Oneshot

end Transport
