/-
Faults that a run has made possible.

* `System.not_marked_iff_meets` — a mark that a step sets exactly when it breaks a condition, and that
  stays, tells whether the run has met the condition.
* `System.safeFor_iff_meets` — if the marked states are those from which a fault can follow, a run is
  safe against certain events to come exactly when it has met the condition.
* `System.trace` — the words that the steps of a run add, and the run rule with them.
-/

import PjsipClient.Lib.System

namespace Transition

namespace System

variable {σ ε δ : Type} (M : System σ ε)

/-! ### Marks -/

/-- The states with a mark, along the runs of a system in which `held` holds and whose steps break
`cond` or do not. Nothing happens in a state that is not `live`. -/
structure Marks (live held mark : σ → Prop) (cond : σ → ε → Prop) : Prop where
  halts : ∀ s e t, M.step s e = some t → live s
  holds : ∀ s e t, held s → M.step s e = some t → held t
  keeps : ∀ s e t, held s → ¬ mark s → cond s e → M.step s e = some t → ¬ mark t
  sets : ∀ s e t, held s → ¬ cond s e → M.step s e = some t → mark t
  stays : ∀ s e t, held s → mark s → M.step s e = some t → live t → mark t

variable {M} {live held mark : σ → Prop} {cond : σ → ε → Prop}

/-- A state from which the run goes on is live, and so is one at its end. -/
theorem Marks.live_of_run (marks : M.Marks live held mark cond) {s t : σ} {es : List ε}
    (ran : M.run s es = some t) (alive : live t) : live s := by
  cases es with
  | nil =>
    cases ran
    exact alive
  | cons e es =>
    obtain ⟨m, stepped, _⟩ := M.run_cons_eq_some.mp ran
    exact marks.halts s e m stepped

/-- A mark stays to the end of the run. -/
theorem Marks.stays_run (marks : M.Marks live held mark cond) {s t : σ} {es : List ε}
    (start : held s) (marked : mark s) (ran : M.run s es = some t) (alive : live t) : mark t := by
  induction es generalizing s with
  | nil =>
    cases ran
    exact marked
  | cons e es ih =>
    obtain ⟨m, stepped, rest⟩ := M.run_cons_eq_some.mp ran
    have after : held m := marks.holds s e m start stepped
    exact ih after (marks.stays s e m start marked stepped (marks.live_of_run rest alive)) rest

/-- **The mark rule.** -/
theorem not_marked_iff_meets (marks : M.Marks live held mark cond) {s t : σ} {es : List ε}
    (start : held s) (clean : ¬ mark s) (ran : M.run s es = some t) (alive : live t) :
    ¬ mark t ↔ M.Meets cond s es := by
  induction es generalizing s with
  | nil =>
    cases ran
    exact ⟨fun _ => trivial, fun _ => clean⟩
  | cons e es ih =>
    obtain ⟨m, stepped, rest⟩ := M.run_cons_eq_some.mp ran
    have after : held m := marks.holds s e m start stepped
    rw [M.meets_cons_of_step stepped]
    by_cases met : cond s e
    · rw [and_iff_right met]
      exact ih after (marks.keeps s e m start clean met stepped) rest
    · have marked : mark t := marks.stays_run after (marks.sets s e m start met stepped) rest alive
      simp [met, marked]

/-! ### Faults to come -/

variable (M) in
/-- Whichever of the events `next` come, no fault is reached. -/
def SafeFor (next : ε → Prop) (fault : σ → Prop) (s : σ) : Prop :=
  ∀ es t, (∀ e ∈ es, next e) → M.run s es = some t → ¬ fault t

/-- **The safety rule.** -/
theorem safeFor_iff_meets {next : ε → Prop} {fault : σ → Prop}
    (marks : M.Marks live held mark cond) (met : ∀ s e, next e → cond s e)
    (faulty : ∀ s, fault s → mark s)
    (leads : ∀ s, held s → live s → mark s →
      ∃ es t, (∀ e ∈ es, next e) ∧ M.run s es = some t ∧ fault t)
    {s t : σ} {es : List ε} (start : held s) (clean : ¬ mark s) (ran : M.run s es = some t)
    (alive : live t) : M.SafeFor next fault t ↔ M.Meets cond s es := by
  have after : held t := M.run_keeps marks.holds start ran
  rw [← not_marked_iff_meets marks start clean ran alive]
  constructor
  · intro safe marked
    obtain ⟨fs, u, only, led, failed⟩ := leads t after alive marked
    exact safe fs u only led failed
  · intro unmarked fs u only went failed
    have meets : M.Meets cond t fs :=
      M.meets_iff_split.mpr fun before e later v split _ =>
        met v e (only e (by simp [split]))
    have step : ∀ v e w, cond v e → held v ∧ ¬ mark v → M.step v e = some w → held w ∧ ¬ mark w := by
      rintro v e w good ⟨before, unseen⟩ stepped
      exact ⟨marks.holds v e w before stepped, marks.keeps v e w before unseen good stepped⟩
    have kept : held u ∧ ¬ mark u := M.run_keeps_of_meets step meets ⟨after, unmarked⟩ went
    exact kept.2 (faulty u failed)

/-! ### The words of a run -/

variable (M) in
/-- The words that the steps of a run add, one after the other. -/
def trace (word : σ → ε → List δ) : σ → List ε → List δ
  | _, [] => []
  | s, e :: es => word s e ++ (M.step s e).elim [] fun t => trace word t es

/-- **The run rule with a trace.** -/
theorem run_trace {word : σ → ε → List δ} {inv : List δ → σ → Prop}
    (keeps : ∀ past s e t, inv past s → M.step s e = some t → inv (past ++ word s e) t)
    {past : List δ} {s t : σ} {es : List ε} (start : inv past s) (ran : M.run s es = some t) :
    inv (past ++ M.trace word s es) t := by
  induction es generalizing past s with
  | nil =>
    cases ran
    rwa [trace, List.append_nil]
  | cons e es ih =>
    obtain ⟨m, stepped, rest⟩ := M.run_cons_eq_some.mp ran
    have after := ih (keeps past s e m start stepped) rest
    rwa [trace, stepped, Option.elim_some, ← List.append_assoc]

end System

end Transition
