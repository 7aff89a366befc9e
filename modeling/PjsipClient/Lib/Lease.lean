/-
Names that are taken from a set and given back.

`Lent before taken held` says that a party holds the names `held`, which it has taken since the set
of taken names was `before`. It takes fresh names only (`Lent.acquire`) and gives back names that it
holds (`Lent.release`); a party that holds nothing has left the set as it was (`Lent.returned`).

Several parties that share the set hold together what each of them holds: a party takes and gives back
as if it were alone (`Lent.party_acquire`, `Lent.party_release`), and no name is held by two of them
(`Lent.apart`).
-/

import Mathlib.Data.Finset.Basic
import Mathlib.Data.List.Nodup
import Mathlib.Data.List.Perm.Basic

namespace Lease

open scoped List

variable {α : Type}

/-- The taken names are those of before and the held ones, and each of them was taken once. -/
structure Lent (before taken : Finset α) (held : List α) : Prop where
  mem_iff : ∀ a, a ∈ taken ↔ a ∈ before ∨ a ∈ held
  fresh : ∀ a ∈ held, a ∉ before
  once : held.Nodup

namespace Lent

variable {before taken : Finset α} {held other : List α} {a : α}

theorem start (before : Finset α) : Lent before before [] :=
  ⟨fun _ => by simp, fun _ member => absurd member List.not_mem_nil, List.nodup_nil⟩

/-- The order of the held names does not matter. -/
theorem perm (lent : Lent before taken held) (same : held ~ other) : Lent before taken other :=
  ⟨fun a => (lent.mem_iff a).trans (or_congr_right same.mem_iff),
    fun a member => lent.fresh a (same.mem_iff.mpr member), same.nodup_iff.mp lent.once⟩

theorem mem_of_held (lent : Lent before taken held) (member : a ∈ held) : a ∈ taken :=
  (lent.mem_iff a).mpr (Or.inr member)

/-- **With nothing held the set is what it was.** -/
theorem returned (lent : Lent before taken []) : taken = before := by
  ext a
  rw [lent.mem_iff a]
  simp

variable [DecidableEq α]

/-- **Taking a fresh name.** -/
theorem acquire (lent : Lent before taken held) (free : a ∉ taken) :
    Lent before (insert a taken) (a :: held) := by
  have outside := (lent.mem_iff a).not.mp free
  push Not at outside
  refine ⟨?_, ?_, List.nodup_cons.mpr ⟨outside.2, lent.once⟩⟩
  · intro b
    rw [Finset.mem_insert, lent.mem_iff, List.mem_cons]
    exact or_left_comm
  · intro b member
    rcases List.mem_cons.mp member with rfl | old
    · exact outside.1
    · exact lent.fresh b old

/-- **Giving a held name back.** -/
theorem release (lent : Lent before taken (a :: held)) : Lent before (taken.erase a) held := by
  obtain ⟨notHeld, once⟩ := List.nodup_cons.mp lent.once
  have outside := lent.fresh a List.mem_cons_self
  refine ⟨?_, fun b member => lent.fresh b (List.mem_cons_of_mem a member), once⟩
  intro b
  rw [Finset.mem_erase, lent.mem_iff, List.mem_cons]
  constructor
  · rintro ⟨other, old | same | stillHeld⟩
    · exact Or.inl old
    · exact absurd same other
    · exact Or.inr stillHeld
  · rintro (old | stillHeld)
    · exact ⟨fun same => outside (same ▸ old), Or.inl old⟩
    · exact ⟨fun same => notHeld (same ▸ stillHeld), Or.inr (Or.inr stillHeld)⟩

/-- Somebody else takes a fresh name. -/
theorem lend (lent : Lent before taken held) (free : a ∉ taken) :
    Lent (insert a before) (insert a taken) held := by
  have outside := (lent.mem_iff a).not.mp free
  push Not at outside
  refine ⟨?_, ?_, lent.once⟩
  · intro b
    simp only [Finset.mem_insert, lent.mem_iff]
    exact or_assoc.symm
  · intro b member
    rw [Finset.mem_insert, not_or]
    refine ⟨?_, lent.fresh b member⟩
    rintro rfl
    exact outside.2 member

/-- Somebody else gives a name back. -/
theorem reclaim (lent : Lent before taken held) (known : a ∈ before) :
    Lent (before.erase a) (taken.erase a) held := by
  refine ⟨?_, ?_, lent.once⟩
  · intro b
    simp only [Finset.mem_erase, lent.mem_iff]
    constructor
    · rintro ⟨other, old | member⟩
      · exact Or.inl ⟨other, old⟩
      · exact Or.inr member
    · rintro (⟨other, old⟩ | member)
      · exact ⟨other, Or.inl old⟩
      · refine ⟨?_, Or.inr member⟩
        rintro rfl
        exact lent.fresh b member known
  · intro b member erased
    exact lent.fresh b member (Finset.mem_of_mem_erase erased)

end Lent

/-! ### Several parties -/

section Parties

variable {π : Type} {holds : π → List α} {parties : List π} {i j : ℕ} {p q : π}

/-- What the parties hold together, with one of them in front, whatever becomes of it. -/
theorem flatMap_set_perm (holds : π → List α) (found : parties[i]? = some p) :
    ∃ rest, parties.flatMap holds ~ holds p ++ rest ∧
      ∀ q, (parties.set i q).flatMap holds ~ holds q ++ rest := by
  induction parties generalizing i with
  | nil => simp at found
  | cons first parties ih =>
    cases i with
    | zero =>
      obtain rfl : first = p := by simpa using found
      exact ⟨parties.flatMap holds, by simp, fun q => by simp⟩
    | succ i =>
      obtain ⟨rest, before, after⟩ := ih (by simpa using found)
      refine ⟨holds first ++ rest, ?_, ?_⟩
      · rw [List.flatMap_cons]
        exact (before.append_left _).trans (List.perm_append_comm_assoc _ _ _)
      · intro q
        rw [List.set_cons_succ, List.flatMap_cons]
        exact ((after q).append_left _).trans (List.perm_append_comm_assoc _ _ _)

namespace Lent

variable {before taken : Finset α} {a : α}

/-- A party that holds what it held. -/
theorem party_same (lent : Lent before taken (parties.flatMap holds)) (found : parties[i]? = some p)
    (same : holds q ~ holds p) : Lent before taken ((parties.set i q).flatMap holds) := by
  obtain ⟨rest, split, updated⟩ := flatMap_set_perm holds found
  exact lent.perm (split.trans ((same.symm.append_right rest).trans (updated q).symm))

/-- **No name is held by two parties.** -/
theorem apart (lent : Lent before taken (parties.flatMap holds)) (first : parties[i]? = some p)
    (second : parties[j]? = some q) (here : a ∈ holds p) (there : a ∈ holds q) : i = j := by
  by_contra other
  obtain ⟨_, pairwise⟩ := List.nodup_flatMap.mp lent.once
  obtain ⟨ltI, rfl⟩ := List.getElem?_eq_some_iff.mp first
  obtain ⟨ltJ, rfl⟩ := List.getElem?_eq_some_iff.mp second
  rcases Nat.lt_or_gt_of_ne other with less | greater
  · exact List.pairwise_iff_getElem.mp pairwise i j ltI ltJ less here there
  · exact List.pairwise_iff_getElem.mp pairwise j i ltJ ltI greater there here

variable [DecidableEq α]

/-- **One party takes a fresh name.** -/
theorem party_acquire (lent : Lent before taken (parties.flatMap holds))
    (found : parties[i]? = some p) (free : a ∉ taken) (more : holds q ~ a :: holds p) :
    Lent before (insert a taken) ((parties.set i q).flatMap holds) := by
  obtain ⟨rest, split, updated⟩ := flatMap_set_perm holds found
  refine (lent.acquire free).perm ?_
  calc a :: parties.flatMap holds ~ a :: (holds p ++ rest) := split.cons a
    _ ~ holds q ++ rest := more.symm.append_right rest
    _ ~ (parties.set i q).flatMap holds := (updated q).symm

/-- **One party gives a name back.** -/
theorem party_release (lent : Lent before taken (parties.flatMap holds))
    (found : parties[i]? = some p) (less : holds p ~ a :: holds q) :
    Lent before (taken.erase a) ((parties.set i q).flatMap holds) := by
  obtain ⟨rest, split, updated⟩ := flatMap_set_perm holds found
  have front : parties.flatMap holds ~ a :: (holds q ++ rest) :=
    split.trans (less.append_right rest)
  exact (lent.perm front).release.perm (updated q).symm

end Lent

end Parties

end Lease
