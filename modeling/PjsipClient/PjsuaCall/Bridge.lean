/-
All calls of a process in the one conference bridge that they share.

The calls move in any interleaving, with each other and with pjsua, which puts ports of its own into
the bridge and takes them out again. A slot that is given back may be given to another call, and
`pjsua_conf_connect` names slots only, so a connection that comes after its port was removed joins the
call with whatever has the slot by then.

* `bridge_accounts` — each slot that the application has taken is removed by exactly one call object,
  and by nothing else; once every object is dropped the bridge has pjsua's own ports only.
* `calls_apart` — every connection joins a call with a port of its own, in a run in which each call is
  connected before its ports are removed.
* `crosstalk_of_removed` — any other step can be continued to a connection with a port of another call.
-/

import PjsipClient.Lib.Lease
import PjsipClient.PjsuaCall.Setup
import PjsipClient.PjsuaCall.Slots

namespace PjsipClient

open Transport Transition Lease
open scoped List

/-! ### The calls and the bridge -/

/-- The slots of the ports that the call has in the bridge. -/
def World.slots (w : World) : List Int := w.ports.map Prod.snd

/-- The slots that the call object has still to remove. -/
def World.toRemove (w : World) : List Int := w.object.phase.removes.map Prod.snd

/-- The process goes on with this call. -/
def World.Going (w : World) : Prop := w.abort = none ∧ w.object.phase ≠ .aborted

instance (w : World) : Decidable w.Going := inferInstanceAs (Decidable (_ ∧ _))

/-- A connection that was tried: the call, its port, the call that has the slot, and the answer. -/
structure Joined where
  call : ℕ
  port : MediaPort
  holder : Option ℕ
  status : PjStatus
  deriving DecidableEq, Repr

structure SharedBridge where
  /-- The slots of pjsua's own ports. -/
  own : Finset Int
  slots : Finset Int
  calls : List World
  joined : List Joined

inductive SharedEvent
  | pjsuaAdds (slot : Int)
  | pjsuaRemoves (slot : Int)
  /-- A call whose notification was just taken out. -/
  | incoming (callId confPort : Int) (inv : PjsipInvState) (media : CallMediaStatus)
      (outstanding : Bool)
  | call (index : ℕ) (event : CallEvent)
  deriving DecidableEq

namespace SharedBridge

/-- No calls yet, and any ports of pjsua. -/
def start (own : Finset Int) : SharedBridge := ⟨own, own, [], []⟩

/-- The call whose port has the slot. -/
def holder (b : SharedBridge) (slot : Int) : Option ℕ :=
  b.calls.findIdx? fun w => decide (slot ∈ w.slots)

/-- The connection that an event of a call tries. -/
def joins (b : SharedBridge) (index : ℕ) (w : World) : CallEvent → List Joined
  | .connect status => (w.connecting.take 1).map fun port => ⟨index, port, b.holder port.2, status⟩
  | _ => []

def call (b : SharedBridge) (index : ℕ) (event : CallEvent) : Option SharedBridge :=
  b.calls[index]?.bind fun w =>
    (confAnswer b.slots event).bind fun slots =>
      (w.step event).map fun next =>
        { b with
          slots := slots
          calls := b.calls.set index next
          joined := b.joined ++ b.joins index w event }

def step (b : SharedBridge) (e : SharedEvent) : Option SharedBridge :=
  if ∀ w ∈ b.calls, w.Going then
    match e with
    | .pjsuaAdds slot =>
      if slot ∈ b.slots then none
      else some { b with own := insert slot b.own, slots := insert slot b.slots }
    | .pjsuaRemoves slot =>
      if slot ∈ b.own then some { b with own := b.own.erase slot, slots := b.slots.erase slot }
      else none
    | .incoming callId confPort inv media outstanding =>
      some { b with calls := b.calls ++ [.start callId confPort inv media outstanding] }
    | .call index event => b.call index event
  else none

end SharedBridge

/-- Any number of calls in one bridge. -/
def sharedSystem : System SharedBridge SharedEvent := ⟨SharedBridge.step⟩

/-- The event of a call connects and removes in order. -/
def ConnectsFirst (b : SharedBridge) : SharedEvent → Prop
  | .call index event => ∀ w ∈ b.calls[index]?, World.RemovedAfterConnects w event
  | _ => True

instance (b : SharedBridge) : (e : SharedEvent) → Decidable (ConnectsFirst b e)
  | .call index _ => inferInstanceAs (Decidable (∀ w ∈ b.calls[index]?, _))
  | .pjsuaAdds _ => isTrue trivial
  | .pjsuaRemoves _ => isTrue trivial
  | .incoming _ _ _ _ _ => isTrue trivial

/-! ### What a step of one call does to the bridge -/

namespace World

/-- The slots before and after a step of one call. -/
inductive MovesSlots (bridge after : Finset Int) (w v : World) : Prop
  | taken {slot : Int} (free : slot ∉ bridge) (grown : after = insert slot bridge)
      (more : v.slots ~ slot :: w.slots)
  | returned {slot : Int} (shrunk : after = bridge.erase slot) (less : w.slots ~ slot :: v.slots)
  | kept (same : after = bridge) (held : v.slots = w.slots)

/-- What holds of one call in the bridge, whatever the other calls do: its ports are placed, the call
object has still to remove them, and no slot was taken twice before the first removal. -/
structure Bridged (w : World) : Prop where
  placed : w.Placed
  listed : w.object.phase ≠ .aborted → w.object.phase.removes ~ w.ports
  distinct : ((w.ports ++ w.removed).map Prod.snd).Nodup

theorem bridged_start (callId confPort : Int) (inv : PjsipInvState) (media : CallMediaStatus)
    (outstanding : Bool) : (start callId confPort inv media outstanding).Bridged :=
  ⟨placed_start callId confPort inv media outstanding, fun _ => List.Perm.refl _, List.nodup_nil⟩

section Step

variable {bridge after : Finset Int} {w v next : World} {e : CallEvent} {event : AppEvent}
  {object : CallObject}

/-- A removal of a port that is there succeeds. -/
theorem Bridged.removal_succeeds (bridged : w.Bridged) (known : ∀ slot ∈ w.slots, slot ∈ bridge)
    (moved : w.object.Moves event object) (quiet : event.movesPorts = false)
    (answered : confAnswer bridge (.app event) = some after) :
    ∀ kind slot status, event ≠ .removePort kind slot status := by
  rintro kind slot status rfl
  have failed : status ≠ pjSuccess := of_decide_eq_false quiet
  have removing : ∃ rest after, w.object.phase = .dropping (.removePort kind slot) rest after := by
    cases moved with
    | removePort was => exact ⟨_, _, was⟩
    | removeFailed was failed => exact ⟨_, _, was⟩
  obtain ⟨rest, next, was⟩ := removing
  have listed := bridged.listed (by simp [was])
  have there : (kind, slot) ∈ w.ports := by
    refine listed.subset ?_
    rw [was]
    exact List.mem_cons_self
  have taken : slot ∈ bridge := known slot (List.mem_map_of_mem there)
  simp [confAnswer, taken, failed] at answered

/-- An operation that moves no port. -/
theorem Bridged.quiet (bridged : w.Bridged) (placed : v.Placed) (ports : v.ports = w.ports)
    (gone : v.removed = w.removed)
    (listed : v.object.phase ≠ .aborted → v.object.phase.removes ~ w.ports) : v.Bridged := by
  refine ⟨placed, ?_, ?_⟩
  · rw [ports]
    exact listed
  · rw [ports, gone]
    exact bridged.distinct

/-- A port that is added takes a free slot. -/
theorem Bridged.addPort {kind : PortKind} {slot : Int} (bridged : w.Bridged)
    (going : w.object.phase ≠ .aborted) (known : ∀ slot ∈ w.slots, slot ∈ bridge)
    (answered : confAnswer bridge (.app (.addPort kind slot pjSuccess)) = some after)
    (placed : v.Placed) (early : w.removed = [])
    (removes : v.object.phase.removes = w.object.phase.removes ++ [(kind, slot)])
    (ports : v.ports = w.ports ++ [(kind, slot)]) (gone : v.removed = w.removed) :
    MovesSlots bridge after w v ∧ v.Bridged := by
  have free : slot ∉ bridge ∧ after = insert slot bridge := by
    simp only [confAnswer, ↓reduceIte, Option.ite_none_left_eq_some, Option.some.injEq] at answered
    exact ⟨answered.1, answered.2.symm⟩
  have more : v.slots ~ slot :: w.slots := by
    unfold slots
    rw [ports, List.map_append]
    exact List.perm_append_singleton slot _
  refine ⟨.taken free.1 free.2 more, placed, fun _ => ?_, ?_⟩
  · rw [removes, ports]
    exact (bridged.listed going).append_right _
  · rw [gone, early, List.append_nil]
    refine more.nodup_iff.mpr (List.nodup_cons.mpr ⟨fun held => free.1 (known slot held), ?_⟩)
    have distinct := bridged.distinct
    rw [early, List.append_nil] at distinct
    exact distinct

/-- A port that is removed gives its slot back. -/
theorem Bridged.removePort {kind : PortKind} {slot : Int} (bridged : w.Bridged)
    (going : w.object.phase ≠ .aborted) (known : ∀ slot ∈ w.slots, slot ∈ bridge)
    (answered : confAnswer bridge (.app (.removePort kind slot pjSuccess)) = some after)
    (placed : v.Placed) (removes : w.object.phase.removes = (kind, slot) :: v.object.phase.removes)
    (ports : v.ports = w.ports.erase (kind, slot)) (gone : v.removed = w.removed ++ [(kind, slot)]) :
    MovesSlots bridge after w v ∧ v.Bridged := by
  have listed := bridged.listed going
  rw [removes] at listed
  have there : (kind, slot) ∈ w.ports := listed.subset List.mem_cons_self
  have split : w.ports ~ (kind, slot) :: v.ports := by
    rw [ports]
    exact List.perm_cons_erase there
  have taken : slot ∈ bridge := known slot (List.mem_map_of_mem there)
  have shrunk : after = bridge.erase slot := by
    simpa [confAnswer, taken, eq_comm] using answered
  refine ⟨.returned shrunk (split.map Prod.snd), placed, fun _ => (listed.trans split).cons_inv, ?_⟩
  have moves : w.ports ++ w.removed ~ v.ports ++ v.removed := by
    rw [gone, ← List.append_assoc]
    calc w.ports ++ w.removed ~ (kind, slot) :: v.ports ++ w.removed := split.append_right _
      _ ~ v.ports ++ w.removed ++ [(kind, slot)] := (List.perm_append_singleton _ _).symm
  exact (moves.map Prod.snd).nodup_iff.mp bridged.distinct

/-- **One step of one call** takes a free slot, gives back a slot of its own, or leaves the bridge. -/
theorem Bridged.step (bridged : w.Bridged) (known : ∀ slot ∈ w.slots, slot ∈ bridge)
    (answered : confAnswer bridge e = some after) (stepped : w.step e = some v) :
    MovesSlots bridge after w v ∧ v.Bridged := by
  have placed := bridged.placed.step stepped
  have going := going_of_step stepped
  obtain ⟨_, steps⟩ := steps_of_step stepped
  rcases steps.pjsua_or_app with
    ⟨object, _, _, ports, gone, own⟩ | ⟨event, object, next, rfl, moved, effects, rfl⟩
  · rw [confAnswer_own own] at answered
    refine ⟨.kept (Option.some.inj answered).symm (by simp [slots, ports]), ?_⟩
    refine bridged.quiet placed ports gone fun goes => ?_
    rw [object]
    exact bridged.listed going
  · cases moved.ported with
    | added before fresh removes =>
      obtain ⟨ports, gone⟩ := effects.ports_added
      exact bridged.addPort going known answered placed (bridged.placed.early before).2.1 removes
        ports gone
    | removed late removes =>
      obtain ⟨ports, gone⟩ := effects.ports_removed
      exact bridged.removePort going known answered placed removes ports gone
    | kept quiet removes early =>
      have present := bridged.removal_succeeds known moved quiet answered
      obtain ⟨ports, gone⟩ := effects.ports_quiet quiet
      refine ⟨.kept (confAnswer_quiet quiet answered) (congrArg (List.map Prod.snd) ports), ?_⟩
      refine bridged.quiet placed ports gone fun goes => ?_
      exact (moved.removes_perm quiet present goes).trans (bridged.listed going)

end Step

end World

namespace SharedBridge

variable {b c : SharedBridge} {e : SharedEvent}

/-! ### The steps -/

/-- The steps of the calls in the bridge. -/
inductive Steps (b : SharedBridge) : SharedEvent → SharedBridge → Prop
  | pjsuaAdds {slot : Int} (free : slot ∉ b.slots) :
      Steps b (.pjsuaAdds slot) { b with own := insert slot b.own, slots := insert slot b.slots }
  | pjsuaRemoves {slot : Int} (known : slot ∈ b.own) :
      Steps b (.pjsuaRemoves slot)
        { b with own := b.own.erase slot, slots := b.slots.erase slot }
  | incoming (callId confPort : Int) (inv : PjsipInvState) (media : CallMediaStatus)
      (outstanding : Bool) :
      Steps b (.incoming callId confPort inv media outstanding)
        { b with calls := b.calls ++ [.start callId confPort inv media outstanding] }
  | call {index : ℕ} {event : CallEvent} {w next : World} {slots : Finset Int}
      (found : b.calls[index]? = some w) (answered : confAnswer b.slots event = some slots)
      (went : w.step event = some next) :
      Steps b (.call index event) { b with
        slots := slots
        calls := b.calls.set index next
        joined := b.joined ++ b.joins index w event }

theorem steps_of_call {index : ℕ} {event : CallEvent} (stepped : b.call index event = some c) :
    Steps b (.call index event) c := by
  unfold call at stepped
  simp only [Option.bind_eq_some_iff, Option.map_eq_some_iff] at stepped
  obtain ⟨w, found, slots, answered, next, went, rfl⟩ := stepped
  exact .call found answered went

theorem steps_of_step (stepped : b.step e = some c) : (∀ w ∈ b.calls, w.Going) ∧ Steps b e c := by
  obtain ⟨going, steps⟩ := Option.ite_none_right_eq_some.mp stepped
  refine ⟨going, ?_⟩
  cases e with
  | pjsuaAdds slot =>
    obtain ⟨free, added⟩ := Option.ite_none_left_eq_some.mp steps
    cases added
    exact .pjsuaAdds free
  | pjsuaRemoves slot =>
    obtain ⟨known, removed⟩ := Option.ite_none_right_eq_some.mp steps
    cases removed
    exact .pjsuaRemoves known
  | incoming callId confPort inv media outstanding =>
    cases steps
    exact .incoming callId confPort inv media outstanding
  | call index event => exact steps_of_call steps

/-! ### Whose the slots are -/

/-- The slots in the bridge are pjsua's own and those of the ports of the calls, each of one call. -/
structure Shared (b : SharedBridge) : Prop where
  lent : Lent b.own b.slots (b.calls.flatMap World.slots)
  bridged : ∀ w ∈ b.calls, w.Bridged

theorem shared_start (own : Finset Int) : (start own).Shared :=
  ⟨.start own, fun _ member => absurd member List.not_mem_nil⟩

theorem Shared.known {index : ℕ} {w : World} (shared : b.Shared) (found : b.calls[index]? = some w) :
    ∀ slot ∈ w.slots, slot ∈ b.slots := fun _ held =>
  shared.lent.mem_of_held (List.mem_flatMap.mpr ⟨w, List.mem_of_getElem? found, held⟩)

theorem Shared.call {index : ℕ} {w next : World} {slots : Finset Int} {joined : List Joined}
    (shared : b.Shared) (found : b.calls[index]? = some w)
    (moves : World.MovesSlots b.slots slots w next) (bridged : next.Bridged) :
    Shared { b with slots := slots, calls := b.calls.set index next, joined := joined } := by
  refine ⟨?_, ?_⟩
  · cases moves with
    | taken free grown more =>
      subst grown
      exact shared.lent.party_acquire found free more
    | returned shrunk less =>
      subst shrunk
      exact shared.lent.party_release found less
    | kept same held =>
      subst same
      exact shared.lent.party_same found (held ▸ List.Perm.refl _)
  · intro v member
    rcases List.mem_or_eq_of_mem_set member with old | rfl
    · exact shared.bridged v old
    · exact bridged

/-- **One step keeps the slots apart.** -/
theorem Shared.step (shared : b.Shared) (stepped : b.step e = some c) : c.Shared := by
  obtain ⟨_, steps⟩ := steps_of_step stepped
  cases steps with
  | pjsuaAdds free => exact ⟨shared.lent.lend free, shared.bridged⟩
  | pjsuaRemoves known => exact ⟨shared.lent.reclaim known, shared.bridged⟩
  | incoming callId confPort inv media outstanding =>
    refine ⟨?_, ?_⟩
    · simpa [World.slots, World.start] using shared.lent
    · intro w member
      rcases List.mem_append.mp member with old | new
      · exact shared.bridged w old
      · rw [List.mem_singleton.mp new]
        exact World.bridged_start callId confPort inv media outstanding
  | call found answered went =>
    obtain ⟨moves, bridged⟩ :=
      (shared.bridged _ (List.mem_of_getElem? found)).step (shared.known found) answered went
    exact shared.call found moves bridged

theorem shared_of_run {own : Finset Int} {es : List SharedEvent}
    (ran : sharedSystem.run (start own) es = some b) : b.Shared :=
  sharedSystem.run_keeps (fun _ _ _ before stepped => before.step stepped) (shared_start own) ran

/-- What the call objects have still to remove is what the calls have in the bridge. -/
theorem Shared.toRemove (shared : b.Shared) (going : ∀ w ∈ b.calls, w.object.phase ≠ .aborted) :
    b.calls.flatMap World.slots ~ b.calls.flatMap World.toRemove := by
  refine List.Perm.flatMap_left _ fun w member => ?_
  exact (((shared.bridged w member).listed (going w member)).map Prod.snd).symm

end SharedBridge

/-- A dropped object has nothing left to remove. -/
theorem World.toRemove_of_dropped {w : World} (dropped : w.object.phase.localsDropped = true) :
    w.toRemove = [] := by
  unfold toRemove
  cases was : w.object.phase <;> simp_all [Phase.localsDropped, Phase.removes]

/-- **The bridge's accounts**: while the process goes on, the slots in the bridge are pjsua's own and
those that the call objects have still to remove, each to be removed once and by one object; when all
objects are dropped, pjsua's own are left. -/
theorem bridge_accounts {own : Finset Int} {es : List SharedEvent} {b : SharedBridge}
    (ran : sharedSystem.run (.start own) es = some b)
    (going : ∀ w ∈ b.calls, w.object.phase ≠ .aborted) :
    Lent b.own b.slots (b.calls.flatMap World.toRemove) ∧
      ((∀ w ∈ b.calls, w.object.phase.localsDropped = true) → b.slots = b.own) := by
  have shared := SharedBridge.shared_of_run ran
  have lent := shared.lent.perm (shared.toRemove going)
  refine ⟨lent, fun dropped => ?_⟩
  have none : b.calls.flatMap World.toRemove = [] := by
    rw [List.flatMap_eq_nil_iff]
    exact fun w member => World.toRemove_of_dropped (dropped w member)
  rw [none] at lent
  exact lent.returned

/-- A call is connected and hung up, and the next one is given the slot of its sink port. -/
def slotReused : List SharedEvent :=
  [.incoming 0 3 .incoming .none false, .incoming 1 4 .incoming .none false] ++
    connectedThenHungUp.map (.call 0) ++
    [.call 1 (.app (.setUserData pjSuccess)), .call 1 (.app .answerSessionProgress),
      .call 1 (.app .add), .call 1 (.app (.addPort .sink 5 pjSuccess))]

theorem bridge_accounts_slotReused :
    ∃ b, sharedSystem.run (.start {0}) slotReused = some b ∧
      Lent b.own b.slots (b.calls.flatMap World.toRemove) ∧
        ((∀ w ∈ b.calls, w.object.phase.localsDropped = true) → b.slots = b.own) :=
  ⟨_, rfl, bridge_accounts (rfl : sharedSystem.run (.start {0}) slotReused = some _) (by decide)⟩

namespace SharedBridge

variable {b c : SharedBridge} {e : SharedEvent}

/-! ### Connections -/

/-- The slot of a call's port is held by that call. -/
theorem Shared.holder {index : ℕ} {w : World} {slot : Int} (shared : b.Shared)
    (found : b.calls[index]? = some w) (held : slot ∈ w.slots) : b.holder slot = some index := by
  obtain ⟨bound, rfl⟩ := List.getElem?_eq_some_iff.mp found
  refine List.findIdx?_eq_some_iff_getElem.mpr ⟨bound, decide_eq_true held, ?_⟩
  intro other before there
  have same := shared.lent.apart (List.getElem?_eq_getElem (before.trans bound)) found
    (of_decide_eq_true there) held
  exact absurd same (Nat.ne_of_lt before)

/-- The connection that an event tries is the next one of a running callback. -/
theorem mem_joins {index : ℕ} {w : World} {event : CallEvent} {entry : Joined}
    (member : entry ∈ b.joins index w event) :
    entry.call = index ∧ entry.port ∈ w.connecting ∧ entry.holder = b.holder entry.port.2 := by
  cases event with
  | connect status =>
    obtain ⟨port, next, rfl⟩ := List.mem_map.mp member
    exact ⟨rfl, List.mem_of_mem_take next, rfl⟩
  | _ => cases member

/-- Every connection that was tried was with a port of the call's own. -/
def JoinsOwn (b : SharedBridge) : Prop := ∀ entry ∈ b.joined, entry.holder = some entry.call

/-- No port is out of the bridge that a running callback has still to connect. -/
structure Apart (b : SharedBridge) : Prop where
  shared : b.Shared
  slotted : ∀ w ∈ b.calls, w.Slotted
  joined : b.JoinsOwn

/-- **One step keeps the calls apart.** -/
theorem Apart.step (apart : b.Apart) (kept : ConnectsFirst b e) (stepped : b.step e = some c) :
    c.Apart := by
  have shared := apart.shared.step stepped
  obtain ⟨_, steps⟩ := steps_of_step stepped
  cases steps with
  | pjsuaAdds free => exact ⟨shared, apart.slotted, apart.joined⟩
  | pjsuaRemoves known => exact ⟨shared, apart.slotted, apart.joined⟩
  | incoming callId confPort inv media outstanding =>
    refine ⟨shared, fun w member => ?_, apart.joined⟩
    rcases List.mem_append.mp member with old | new
    · exact apart.slotted w old
    · rw [List.mem_singleton.mp new]
      exact World.slotted_start callId confPort inv media outstanding
  | call found answered went =>
    have slotted := apart.slotted _ (List.mem_of_getElem? found)
    refine ⟨shared, fun w member => ?_, fun entry made => ?_⟩
    · rcases List.mem_or_eq_of_mem_set member with old | rfl
      · exact apart.slotted w old
      · exact slotted.step (kept _ found) went
    · rcases List.mem_append.mp made with old | new
      · exact apart.joined entry old
      · obtain ⟨call, next, holder⟩ := mem_joins new
        have held : entry.port.2 ∈ World.slots _ :=
          List.mem_map_of_mem (slotted.connecting entry.port next)
        rw [holder, call]
        exact apart.shared.holder found held

end SharedBridge

/-- **No crosstalk**: in a run in which each call is connected before its ports are removed, every
connection joins a call with a port of its own. -/
theorem calls_apart {own : Finset Int} {es : List SharedEvent} {b : SharedBridge}
    (kept : sharedSystem.Meets ConnectsFirst (.start own) es)
    (ran : sharedSystem.run (.start own) es = some b) : b.JoinsOwn := by
  have apart : b.Apart :=
    sharedSystem.run_keeps_of_meets (fun _ _ _ kept before stepped => before.step kept stepped) kept
      ⟨SharedBridge.shared_start own, fun _ member => absurd member List.not_mem_nil,
        fun _ made => absurd made List.not_mem_nil⟩ ran
  exact apart.joined

theorem calls_apart_slotReused :
    ∃ b, sharedSystem.run (.start {0}) slotReused = some b ∧ b.JoinsOwn :=
  ⟨_, rfl, calls_apart (by decide : sharedSystem.Meets ConnectsFirst (.start {0}) slotReused) rfl⟩

/-! ### Every other step can end in crosstalk -/

namespace World

/-- A step that breaks the order leaves a running callback with a port to connect that was removed. -/
theorem Bridged.removed_connecting {w v : World} {e : CallEvent} (bridged : w.Bridged)
    (valid : w.confPort ≠ pjsuaInvalidId) (stepped : w.step e = some v)
    (breaks : ¬ RemovedAfterConnects w e) :
    ∃ port ∈ v.connecting, port ∈ v.removed ∧ v.Going := by
  have going := going_of_step stepped
  obtain ⟨alive, steps⟩ := steps_of_step stepped
  by_cases removing : ∃ port ∈ w.connecting, e = .app (.removePort port.1 port.2 pjSuccess)
  · obtain ⟨port, later, rfl⟩ := removing
    cases steps with
    | app moved effects =>
      have same := effects.sameConnections.connecting
      obtain ⟨_, gone⟩ := effects.ports_removed
      refine ⟨port, same ▸ later, ?_, ?_⟩
      · show port ∈ World.removed _
        rw [gone]
        exact List.mem_append_right _ (List.mem_singleton_self _)
      · cases moved with
        | removePort was =>
          cases effects with
          | removePort kind slot => exact ⟨alive, by simp⟩
          | removeFailed failed => exact absurd rfl failed
          | quiet quiet => cases quiet
        | removeFailed was failed => exact absurd rfl failed
  · have taken : e = .onCallMediaState ∧ w.callInfo.isHookup = true ∧
        w.userData.mediaData ≠ none ∧ w.removed ≠ [] := by
      by_contra fine
      refine breaks ⟨?_, fun port later same => removing ⟨port, later, same⟩⟩
      intro media hookup waiting
      by_contra removed
      exact fine ⟨media, hookup, waiting, removed⟩
    obtain ⟨rfl, hookup, some, removed⟩ := taken
    obtain ⟨data, waiting⟩ := Option.ne_none_iff_exists'.mp some
    obtain ⟨port, rest, found⟩ := List.exists_cons_of_ne_nil removed
    have gone : port ∈ w.removed := by
      rw [found]
      exact List.mem_cons_self
    cases steps with
    | onCallMediaState heard between =>
      have same := w.mediaState_seen.same
      obtain ⟨connecting, abort⟩ := w.mediaState_seen.connecting hookup waiting valid
      refine ⟨port, ?_, same.removed ▸ gone, abort.trans alive, same.object ▸ going⟩
      rw [connecting]
      exact (bridged.placed.named waiting).mem_iff.mp (List.mem_append_right _ gone)

/-- The slot of a removed port is not the call's own. -/
theorem Bridged.slot_of_removed {w : World} {port : MediaPort} (bridged : w.Bridged)
    (gone : port ∈ w.removed) : port.2 ∉ w.slots := by
  intro held
  have distinct := bridged.distinct
  rw [List.map_append] at distinct
  exact List.disjoint_of_nodup_append distinct held (List.mem_map_of_mem gone)

end World

namespace SharedBridge

variable {b c : SharedBridge} {index : ℕ} {w v : World}

theorem step_call {event : CallEvent} {slots : Finset Int} (going : ∀ w ∈ b.calls, w.Going)
    (found : b.calls[index]? = some w) (answered : confAnswer b.slots event = some slots)
    (went : w.step event = some v) :
    sharedSystem.step b (.call index event) = some { b with
      slots := slots
      calls := b.calls.set index v
      joined := b.joined ++ b.joins index w event } := by
  show (if _ then b.call index event else none) = _
  rw [if_pos going]
  simp [call, found, answered, went]

/-- The other calls go on as before. -/
theorem going_set (going : ∀ w ∈ b.calls, w.Going) (goes : v.Going) :
    ∀ w ∈ b.calls.set index v, w.Going := by
  intro other member
  rcases List.mem_or_eq_of_mem_set member with old | rfl
  · exact going other old
  · exact goes

/-- A port to be connected whose slot another call has by then comes to be connected. -/
theorem Shared.crosstalk {port : MediaPort} {other : ℕ} {u : World} (apart : other ≠ index)
    (rest : List MediaPort) : ∀ b : SharedBridge, ∀ w : World, b.Shared → (∀ w ∈ b.calls, w.Going) →
      b.calls[index]? = some w → w.connecting = rest → port ∈ rest → b.calls[other]? = some u →
        port.2 ∈ u.slots → ∃ es c, sharedSystem.run b es = some c ∧
          ⟨index, port, some other, pjSuccess⟩ ∈ c.joined := by
  induction rest with
  | nil =>
    intro b w _ _ _ _ member
    cases member
  | cons first rest ih =>
    intro b w shared going found next member there held
    obtain ⟨alive, goes⟩ := going w (List.mem_of_getElem? found)
    have stepped := step_call going found (confAnswer_own rfl : _ = some b.slots)
      (World.step_connect alive goes next pjSuccess)
    rcases List.mem_cons.mp member with rfl | later
    · refine ⟨[.call index (.connect pjSuccess)], _,
        sharedSystem.run_cons_eq_some.mpr ⟨_, stepped, rfl⟩, ?_⟩
      refine List.mem_append_right _ ?_
      simp [joins, next, shared.holder there held]
    · have goesOn : (w.connect pjSuccess first rest).Going := by
        rw [World.connect_eq]
        exact ⟨alive, goes⟩
      have after := shared.step
        (show b.step (.call index (.connect pjSuccess)) = some _ from stepped)
      obtain ⟨es, c, ran, made⟩ := ih _ (w.connect pjSuccess first rest) after
        (going_set going goesOn) (List.getElem?_set_self (List.getElem?_eq_some_iff.mp found).1)
        (by rw [World.connect_eq]) later ((List.getElem?_set_ne apart.symm).trans there) held
      exact ⟨.call index (.connect pjSuccess) :: es, c,
        sharedSystem.run_cons_eq_some.mpr ⟨_, stepped, ran⟩, made⟩

/-- A run of a call alone with the bridge starts in a state that goes on, if it ends in one. -/
theorem going_of_run {s t : BridgedCall} {es : List CallEvent}
    (ran : bridgedSystem.run s es = some t) (going : t.world.Going) : s.world.Going := by
  cases es with
  | nil =>
    cases ran
    exact going
  | cons e es =>
    obtain ⟨m, stepped, _⟩ := bridgedSystem.run_cons_eq_some.mp ran
    obtain ⟨_, went, _⟩ := BridgedCall.step_eq_some.mp stepped
    exact ⟨(World.steps_of_step went).1, World.going_of_step went⟩

/-- **A call moves in the shared bridge as it does alone with it.** -/
theorem run_call {t : BridgedCall} (es : List CallEvent) (goes : t.world.Going) :
    ∀ (b : SharedBridge) (s : BridgedCall), (∀ w ∈ b.calls, w.Going) →
      b.calls[index]? = some s.world → b.slots = s.slots → bridgedSystem.run s es = some t →
        ∃ c, sharedSystem.run b (es.map (.call index)) = some c ∧ c.own = b.own ∧
          c.slots = t.slots ∧ c.calls = b.calls.set index t.world := by
  induction es with
  | nil =>
    intro b s going found same ran
    cases ran
    refine ⟨b, rfl, rfl, same, ?_⟩
    obtain ⟨bound, stored⟩ := List.getElem?_eq_some_iff.mp found
    rw [← stored, List.set_getElem_self]
  | cons e es ih =>
    intro b s going found same ran
    obtain ⟨m, stepped, rest⟩ := bridgedSystem.run_cons_eq_some.mp ran
    obtain ⟨answered, went, _⟩ := BridgedCall.step_eq_some.mp stepped
    have moved := step_call going found (same ▸ answered) went
    obtain ⟨c, reached, own, slots, calls⟩ := ih
      ⟨b.own, m.slots, b.calls.set index m.world, b.joined ++ b.joins index s.world e⟩ m
      (going_set going (going_of_run rest goes))
      (List.getElem?_set_self (List.getElem?_eq_some_iff.mp found).1) rfl rest
    refine ⟨c, sharedSystem.run_cons_eq_some.mpr ⟨_, moved, reached⟩, own, slots, ?_⟩
    rw [calls, List.set_set]

/-- What a call does to take a slot for its sink port. -/
def takesSlot (slot : Int) : List CallEvent :=
  [.app (.setUserData pjSuccess), .app .answerSessionProgress, .app .add,
    .app (.addPort .sink slot pjSuccess)]

theorem run_takesSlot {slot : Int} {slots : Finset Int} (free : slot ∉ slots) :
    ∃ t, bridgedSystem.run (.start 0 0 .incoming .none false slots) (takesSlot slot) = some t ∧
      t.world.Going ∧ slot ∈ t.world.slots := by
  have answered : confAnswer slots (.app (.addPort .sink slot pjSuccess)) =
      some (insert slot slots) := by
    simp [confAnswer, free]
  refine ⟨_, bridgedSystem.run_cons_eq_some.mpr ⟨_, rfl, bridgedSystem.run_cons_eq_some.mpr ⟨_, rfl,
    bridgedSystem.run_cons_eq_some.mpr ⟨_, rfl, bridgedSystem.run_cons_eq_some.mpr
      ⟨⟨_, insert slot slots, _⟩, BridgedCall.step_eq_some.mpr ⟨answered, rfl, rfl⟩, rfl⟩⟩⟩⟩, ?_, ?_⟩
  · exact ⟨rfl, by simp⟩
  · exact List.mem_singleton_self slot

/-- A free slot can be given to a call that comes in. -/
theorem newcomer {slot : Int} (going : ∀ w ∈ b.calls, w.Going) (free : slot ∉ b.slots) :
    ∃ (es : List SharedEvent) (c : SharedBridge) (u : World),
      sharedSystem.run b es = some c ∧ (∀ w ∈ c.calls, w.Going) ∧
      (∀ (i : ℕ) (w : World), b.calls[i]? = some w → c.calls[i]? = some w) ∧
      c.calls[b.calls.length]? = some u ∧ slot ∈ u.slots := by
  obtain ⟨t, ran, goes, held⟩ := run_takesSlot free
  let came : SharedBridge := { b with calls := b.calls ++ [.start 0 0 .incoming .none false] }
  have comes : sharedSystem.step b (.incoming 0 0 .incoming .none false) = some came := if_pos going
  have fresh : came.calls[b.calls.length]? = some (.start 0 0 .incoming .none false) := by
    simp [came]
  have all : ∀ w ∈ came.calls, w.Going := by
    intro w member
    rcases List.mem_append.mp member with old | new
    · exact going w old
    · rw [List.mem_singleton.mp new]
      exact ⟨rfl, by simp [World.start, CallObject.fresh]⟩
  obtain ⟨c, reached, _, _, calls⟩ := run_call (takesSlot slot) goes came _ all fresh rfl ran
  refine ⟨_ :: _, c, t.world, sharedSystem.run_cons_eq_some.mpr ⟨_, comes, reached⟩, ?_, ?_, ?_, held⟩
  · rw [calls]
    exact going_set all goes
  · intro i w found
    obtain ⟨bound, _⟩ := List.getElem?_eq_some_iff.mp found
    rw [calls, List.getElem?_set_ne (Nat.ne_of_gt bound)]
    exact (List.getElem?_append_left bound).trans found
  · rw [calls]
    exact List.getElem?_set_self (by simp [came])

/-- A callback that has still to connect a removed port can come to connect another call's port. -/
theorem Shared.crosstalk_of_connecting {port : MediaPort} (shared : b.Shared)
    (going : ∀ w ∈ b.calls, w.Going) (found : b.calls[index]? = some w)
    (later : port ∈ w.connecting) (gone : port.2 ∉ w.slots) :
    ∃ es c other, sharedSystem.run b es = some c ∧ other ≠ index ∧
      ⟨index, port, some other, pjSuccess⟩ ∈ c.joined := by
  -- the slot is free, or can be made free, or another call has it
  have ofFree : ∀ b : SharedBridge, b.Shared → (∀ w ∈ b.calls, w.Going) →
      b.calls[index]? = some w → port.2 ∉ b.slots → ∃ es c other,
        sharedSystem.run b es = some c ∧ other ≠ index ∧
          ⟨index, port, some other, pjSuccess⟩ ∈ c.joined := by
    intro b shared going found free
    obtain ⟨es, c, u, ran, goes, kept, there, held⟩ := newcomer going free
    have apart : b.calls.length ≠ index := by
      obtain ⟨bound, _⟩ := List.getElem?_eq_some_iff.mp found
      exact Nat.ne_of_gt bound
    have sharedAfter := sharedSystem.run_keeps (fun _ _ _ before stepped => before.step stepped)
      shared ran
    obtain ⟨fs, d, connected, made⟩ := Shared.crosstalk apart w.connecting c w sharedAfter goes
      (kept index w found) rfl later there held
    exact ⟨es ++ fs, d, b.calls.length,
      sharedSystem.run_append_eq_some.mpr ⟨c, ran, connected⟩, apart, made⟩
  by_cases taken : port.2 ∈ b.slots
  · rcases (shared.lent.mem_iff port.2).mp taken with own | someCall
    · have removed : sharedSystem.step b (.pjsuaRemoves port.2) =
          some { b with own := b.own.erase port.2, slots := b.slots.erase port.2 } := by
        show (if _ then (if _ then _ else _) else none) = _
        rw [if_pos going, if_pos own]
      obtain ⟨es, c, other, ran, apart, made⟩ := ofFree _
        (shared.step (show b.step (.pjsuaRemoves port.2) = some _ from removed)) going found
        (Finset.notMem_erase _ _)
      exact ⟨_ :: es, c, other, sharedSystem.run_cons_eq_some.mpr ⟨_, removed, ran⟩, apart, made⟩
    · obtain ⟨u, member, held⟩ := List.mem_flatMap.mp someCall
      obtain ⟨other, there⟩ := List.getElem?_of_mem member
      have apart : other ≠ index := by
        rintro rfl
        rw [there] at found
        cases found
        exact gone held
      obtain ⟨es, c, ran, made⟩ := Shared.crosstalk apart w.connecting b w shared going found rfl
        later there held
      exact ⟨es, c, other, ran, apart, made⟩
  · exact ofFree b shared going found taken

end SharedBridge

/-- **The condition is exact**: a step of a call that breaks it, after any run, can be continued to a
connection that joins the call with a port of another call. -/
theorem crosstalk_of_removed {own : Finset Int} {es : List SharedEvent} {b c : SharedBridge}
    {index : ℕ} {w : World} {event : CallEvent}
    (ran : sharedSystem.run (.start own) es = some b) (found : b.calls[index]? = some w)
    (valid : w.confPort ≠ pjsuaInvalidId) (breaks : ¬ World.RemovedAfterConnects w event)
    (stepped : sharedSystem.step b (.call index event) = some c) :
    ∃ fs d port other, sharedSystem.run c fs = some d ∧ other ≠ index ∧
      ⟨index, port, some other, pjSuccess⟩ ∈ d.joined := by
  have shared := SharedBridge.shared_of_run ran
  have moved : b.step (.call index event) = some c := stepped
  obtain ⟨going, steps⟩ := SharedBridge.steps_of_step moved
  have after := shared.step moved
  cases steps with
  | call there answered went =>
    cases found.symm.trans there
    obtain ⟨port, later, gone, goes⟩ :=
      (shared.bridged w (List.mem_of_getElem? found)).removed_connecting valid went breaks
    rename_i next slots
    have stored : (b.calls.set index next)[index]? = some next :=
      List.getElem?_set_self (List.getElem?_eq_some_iff.mp found).1
    have bridged := after.bridged _ (List.mem_of_getElem? stored)
    obtain ⟨fs, d, other, reached, apart, made⟩ :=
      after.crosstalk_of_connecting (SharedBridge.going_set going goes) stored later
        (bridged.slot_of_removed gone)
    exact ⟨fs, d, port, other, reached, apart, made⟩

/-- A call whose sink port is removed before its media becomes active. -/
def removedFirst : List SharedEvent :=
  [.incoming 0 3 .incoming .none false] ++ answered.map (.call 0) ++
    [.call 0 (.app .drop), .call 0 (.app (.removePort .sink 5 pjSuccess)), .call 0 (.setMedia .active)]

theorem crosstalk_of_removed_removedFirst :
    ∃ b c, sharedSystem.run (.start {0}) removedFirst = some b ∧
      sharedSystem.step b (.call 0 .onCallMediaState) = some c ∧
      ∃ fs d port other, sharedSystem.run c fs = some d ∧ other ≠ 0 ∧
        ⟨0, port, some other, pjSuccess⟩ ∈ d.joined :=
  ⟨_, _, rfl, rfl, crosstalk_of_removed (rfl : sharedSystem.run (.start {0}) removedFirst = some _)
    rfl (by decide) (by decide : ¬ World.RemovedAfterConnects _ .onCallMediaState) rfl⟩

end PjsipClient
