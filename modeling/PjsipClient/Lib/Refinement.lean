/-
Two systems that run side by side.

`System.run_simulates` — a system goes along with another one over any run of steps that meet a
condition, if it goes along with each of them. `System.run_refines` — its runs are runs of another one
with finer steps, if each of its steps is.

A system that keeps a log, and a second system that says which logs are lawful:
`System.run_log_isSome_iff` — the log of a run is lawful exactly when every step meets a condition, if
the steps that meet it add a word that the second system can read, and the others add one that it
cannot.
-/

import PjsipClient.Lib.System

namespace Transition

namespace System

variable {σ ε τ δ : Type} (M : System σ ε)

/-- **The simulation rule.** -/
theorem run_simulates (N : System τ ε) {related : σ → τ → Prop} {cond : ε → Prop}
    (simulates : ∀ s u e t, related s u → cond e → M.step s e = some t →
      ∃ v, N.step u e = some v ∧ related t v)
    {s t : σ} {u : τ} {es : List ε} (meets : ∀ e ∈ es, cond e) (start : related s u)
    (ran : M.run s es = some t) : ∃ v, N.run u es = some v ∧ related t v := by
  induction es generalizing s u with
  | nil =>
    cases ran
    exact ⟨u, rfl, start⟩
  | cons e es ih =>
    obtain ⟨m, stepped, rest⟩ := M.run_cons_eq_some.mp ran
    obtain ⟨v, followed, after⟩ := simulates s u e m start (meets e List.mem_cons_self) stepped
    obtain ⟨w, followedRest, last⟩ :=
      ih (fun d member => meets d (List.mem_cons_of_mem e member)) after rest
    exact ⟨w, N.run_cons_eq_some.mpr ⟨v, followed, followedRest⟩, last⟩

variable (N : System τ δ)

/-- **The refinement rule.** -/
theorem run_refines (embed : σ → τ)
    (refines : ∀ s e t, M.step s e = some t → ∃ ds, N.run (embed s) ds = some (embed t))
    {s t : σ} {es : List ε} (ran : M.run s es = some t) :
    ∃ ds, N.run (embed s) ds = some (embed t) := by
  induction es generalizing s with
  | nil =>
    cases ran
    exact ⟨[], rfl⟩
  | cons e es ih =>
    obtain ⟨m, stepped, rest⟩ := M.run_cons_eq_some.mp ran
    obtain ⟨ds, first⟩ := refines s e m stepped
    obtain ⟨more, last⟩ := ih rest
    exact ⟨ds ++ more, N.run_append_eq_some.mpr ⟨embed m, first, last⟩⟩

/-- A log that goes on from one that cannot be read cannot be read. -/
theorem run_none_of_prefix {u : τ} {early later : List δ} (starts : early <+: later)
    (unread : N.run u early = none) : N.run u later = none := by
  obtain ⟨more, rfl⟩ := starts
  rw [N.run_append, unread]
  rfl

/-- The log of a run only grows, if it grows at each step. -/
theorem run_log_prefix {log : σ → List δ} (grows : ∀ s e t, M.step s e = some t → log s <+: log t)
    {s t : σ} {es : List ε} (ran : M.run s es = some t) : log s <+: log t :=
  M.run_keeps (fun u e v (before : log s <+: log u) stepped => before.trans (grows u e v stepped))
    List.prefix_rfl ran

/-- **The log rule.** -/
theorem run_log_isSome_iff {related : σ → τ → Prop} {cond : σ → ε → Prop} {log : σ → List δ}
    (grows : ∀ s e t, M.step s e = some t → log s <+: log t)
    (reads : ∀ s u e t, related s u → cond s e → M.step s e = some t →
      ∃ word v, log t = log s ++ word ∧ N.run u word = some v ∧ related t v)
    (refuses : ∀ s u e t, related s u → ¬ cond s e → M.step s e = some t →
      ∃ word, log t = log s ++ word ∧ N.run u word = none)
    {s t : σ} {u start : τ} {es : List ε} (known : related s u) (read : N.run start (log s) = some u)
    (ran : M.run s es = some t) : (N.run start (log t)).isSome = true ↔ M.Meets cond s es := by
  induction es generalizing s u with
  | nil =>
    cases ran
    rw [read]
    exact ⟨fun _ => trivial, fun _ => rfl⟩
  | cons e es ih =>
    obtain ⟨m, stepped, rest⟩ := M.run_cons_eq_some.mp ran
    rw [M.meets_cons_of_step stepped]
    by_cases met : cond s e
    · obtain ⟨word, v, added, readWord, after⟩ := reads s u e m known met stepped
      have readMore : N.run start (log m) = some v := by
        rw [added]
        exact N.run_append_eq_some.mpr ⟨u, read, readWord⟩
      rw [ih after readMore rest, and_iff_right met]
    · obtain ⟨word, added, unread⟩ := refuses s u e m known met stepped
      have stuck : N.run start (log m) = none := by
        rw [added, N.run_append, read]
        exact unread
      rw [N.run_none_of_prefix (M.run_log_prefix grows rest) stuck]
      exact ⟨fun impossible => (by cases impossible), fun both => absurd both.1 met⟩

end System

end Transition
