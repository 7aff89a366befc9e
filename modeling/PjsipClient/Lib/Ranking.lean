/-
Potentials and ranks of a transition system.

* `System.run_countP_le` — a run has no more events of one kind than the potential of its first state
  and its events of another kind pay for.
* `System.Attains` — one party reaches a goal within a number of moves of its own, whatever it is
  answered and whatever its environment does in between.
* `System.attains_of_rank` — it does so within the rank of the first state, if it can always lower the
  rank and its environment never raises it.
-/

import PjsipClient.Lib.System

namespace Transition

namespace System

variable {σ ε α : Type} (M : System σ ε)

/-! ### Potentials -/

/-- **The potential rule.** Steps of the kind `p` take one from the potential, steps of the kind `q`
may add up to `n` to it, and no other step raises it. -/
theorem run_countP_le {potential : σ → ℕ} {p q : ε → Bool} {n : ℕ}
    (pays : ∀ s e t, M.step s e = some t →
      potential t + (if p e then 1 else 0) ≤ potential s + if q e then n else 0)
    {s t : σ} {es : List ε} (ran : M.run s es = some t) :
    potential t + es.countP p ≤ potential s + n * es.countP q := by
  induction es generalizing s with
  | nil =>
    cases ran
    exact Nat.le_refl _
  | cons e es ih =>
    obtain ⟨m, stepped, rest⟩ := M.run_cons_eq_some.mp ran
    have here := pays s e m stepped
    have later := ih rest
    have added : n * (if q e then 1 else 0) = if q e then n else 0 := by
      split
      · exact Nat.mul_one n
      · exact Nat.mul_zero n
    rw [List.countP_cons, List.countP_cons, Nat.mul_add, added]
    omega

/-! ### Reaching a goal -/

variable (env : ε → Prop) (moves : α → ε → Prop) (goal : σ → Prop)

/-- The goal is reached within `n` moves: after any events of the environment it holds, or there is,
for every answer, a move with this answer after which the goal is reached within `n - 1` moves. -/
def Attains : ℕ → σ → Prop
  | 0, s => ∀ es t, (∀ e ∈ es, env e) → M.run s es = some t → goal t
  | n + 1, s => ∀ es t, (∀ e ∈ es, env e) → M.run s es = some t →
      goal t ∨ ∀ answer, ∃ e u, moves answer e ∧ M.step t e = some u ∧ Attains n u

variable {M env moves goal}

/-- **The rank rule.** A party that can always lower the rank, which no event of the environment
raises, reaches its goal. -/
theorem attains_of_rank {inv : σ → Prop} {rank : σ → ℕ}
    (keeps : ∀ s e t, inv s → M.step s e = some t → inv t)
    (idle : ∀ s e t, env e → M.step s e = some t → rank t ≤ rank s)
    (progress : ∀ s, inv s → ¬ goal s →
      ∀ answer : α, ∃ e t, moves answer e ∧ M.step s e = some t ∧ rank t < rank s)
    [Nonempty α] {n : ℕ} {s : σ} (holds : inv s) (low : rank s ≤ n) :
    M.Attains env moves goal n s := by
  have waits : ∀ {s t : σ} {es : List ε}, (∀ e ∈ es, env e) → M.run s es = some t →
      rank t ≤ rank s := by
    intro s t es own ran
    have below : ∀ u e v, env e → rank u ≤ rank s → M.step u e = some v → rank v ≤ rank s :=
      fun u e v only low stepped => Nat.le_trans (idle u e v only stepped) low
    exact @run_keeps_of_meets _ _ M (fun _ e => env e) (fun u => rank u ≤ rank s) below s t es
      (M.meets_of_mem own s) (Nat.le_refl _) ran
  induction n generalizing s with
  | zero =>
    intro es t own ran
    by_contra missed
    obtain ⟨e, u, _, _, lower⟩ :=
      progress t (M.run_keeps keeps holds ran) missed (Classical.arbitrary α)
    have still := waits own ran
    omega
  | succ n ih =>
    intro es t own ran
    by_cases reached : goal t
    · exact Or.inl reached
    · refine Or.inr fun answer => ?_
      have kept := M.run_keeps keeps holds ran
      obtain ⟨e, u, moved, stepped, lower⟩ := progress t kept reached answer
      have still := waits own ran
      exact ⟨e, u, moved, stepped, ih (keeps t e u kept stepped) (by omega)⟩

end System

end Transition
