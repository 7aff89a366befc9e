/-
Partial transition systems and their runs.

A `System` answers `none` where an event cannot happen. A run is a list of events; what a run keeps
is derived from what one step keeps (`System.run_keeps`), possibly together with the events so far
(`System.run_keeps_past`), or for runs whose steps all meet a side condition on the state before the
step (`System.run_keeps_of_meets`). `System.tally` counts the steps of a run at which something holds.
-/

import Mathlib.Data.List.Basic

namespace Transition

variable {σ ε : Type}

/-- A transition system whose step is a partial function. -/
structure System (σ ε : Type) where
  step : σ → ε → Option σ

namespace System

variable (M : System σ ε)

/-- Perform the events in order; `none` as soon as one of them cannot happen. -/
def run : σ → List ε → Option σ
  | s, [] => some s
  | s, e :: es => (M.step s e).bind fun t => run t es

@[simp] theorem run_nil (s : σ) : M.run s [] = some s := rfl

theorem run_cons (s : σ) (e : ε) (es : List ε) :
    M.run s (e :: es) = (M.step s e).bind fun t => M.run t es := rfl

theorem run_cons_eq_some {s t : σ} {e : ε} {es : List ε} :
    M.run s (e :: es) = some t ↔ ∃ m, M.step s e = some m ∧ M.run m es = some t := by
  rw [run_cons, Option.bind_eq_some_iff]

theorem run_append (s : σ) (es fs : List ε) :
    M.run s (es ++ fs) = (M.run s es).bind fun t => M.run t fs := by
  induction es generalizing s with
  | nil => rfl
  | cons e es ih =>
    rw [List.cons_append, run_cons, run_cons, Option.bind_assoc]
    congr 1
    funext t
    exact ih t

theorem run_append_eq_some {s t : σ} {es fs : List ε} :
    M.run s (es ++ fs) = some t ↔ ∃ m, M.run s es = some m ∧ M.run m fs = some t := by
  rw [run_append, Option.bind_eq_some_iff]

/-- **The run rule.** What every step keeps, every run keeps. -/
theorem run_keeps {inv : σ → Prop} (keeps : ∀ s e t, inv s → M.step s e = some t → inv t)
    {s t : σ} {es : List ε} (start : inv s) (ran : M.run s es = some t) : inv t := by
  induction es generalizing s with
  | nil =>
    cases ran
    exact start
  | cons e es ih =>
    obtain ⟨m, stepped, rest⟩ := M.run_cons_eq_some.mp ran
    exact ih (keeps s e m start stepped) rest

/-- **The run rule with the past.** What every step keeps, together with the events so far, every run
keeps. -/
theorem run_keeps_past {inv : List ε → σ → Prop}
    (keeps : ∀ past s e t, inv past s → M.step s e = some t → inv (past ++ [e]) t)
    {past es : List ε} {s t : σ} (start : inv past s) (ran : M.run s es = some t) :
    inv (past ++ es) t := by
  induction es generalizing past s with
  | nil =>
    cases ran
    rwa [List.append_nil]
  | cons e es ih =>
    obtain ⟨m, stepped, rest⟩ := M.run_cons_eq_some.mp ran
    have after := ih (keeps past s e m start stepped) rest
    rwa [List.append_assoc, List.singleton_append] at after

/-- Every step of the run meets `cond`, which sees the state before the step and the event. -/
def Meets (cond : σ → ε → Prop) : σ → List ε → Prop
  | _, [] => True
  | s, e :: es => cond s e ∧ ∀ t, M.step s e = some t → Meets cond t es

theorem meets_cons_of_step {cond : σ → ε → Prop} {s t : σ} {e : ε} {es : List ε}
    (stepped : M.step s e = some t) : M.Meets cond s (e :: es) ↔ cond s e ∧ M.Meets cond t es := by
  refine and_congr_right fun _ => ?_
  constructor
  · intro rest
    exact rest t stepped
  · intro rest u same
    rw [stepped] at same
    cases same
    exact rest

/-- The condition holds at each event of the run, in the state that the events before it lead to. -/
theorem meets_iff_split {cond : σ → ε → Prop} {s : σ} {es : List ε} :
    M.Meets cond s es ↔
      ∀ fs e gs v, es = fs ++ e :: gs → M.run s fs = some v → cond v e := by
  induction es generalizing s with
  | nil =>
    refine ⟨fun _ fs e gs v split => ?_, fun _ => trivial⟩
    cases fs <;> cases split
  | cons d es ih =>
    constructor
    · rintro ⟨here, rest⟩ fs e gs v split ran
      cases fs with
      | nil =>
        cases split
        cases ran
        exact here
      | cons _ fs =>
        cases split
        obtain ⟨m, stepped, later⟩ := M.run_cons_eq_some.mp ran
        exact ih.mp (rest m stepped) fs e gs v rfl later
    · intro holds
      refine ⟨holds [] d es s rfl rfl, fun m stepped => ih.mpr ?_⟩
      rintro fs e gs v rfl ran
      exact holds (d :: fs) e gs v rfl (M.run_cons_eq_some.mpr ⟨m, stepped, ran⟩)

/-- The rest of a run meets what the whole run meets. -/
theorem meets_of_append {cond : σ → ε → Prop} {s m : σ} {fs gs : List ε}
    (meets : M.Meets cond s (fs ++ gs)) (ran : M.run s fs = some m) : M.Meets cond m gs := by
  refine M.meets_iff_split.mpr ?_
  rintro before e after v rfl reached
  refine M.meets_iff_split.mp meets (fs ++ before) e after v (by simp) ?_
  exact M.run_append_eq_some.mpr ⟨m, ran, reached⟩

/-- A run that starts another meets what that one meets. -/
theorem meets_start {cond : σ → ε → Prop} {s : σ} {es fs : List ε} (starts : fs <+: es)
    (meets : M.Meets cond s es) : M.Meets cond s fs := by
  obtain ⟨rest, rfl⟩ := starts
  refine M.meets_iff_split.mpr ?_
  rintro before e after v rfl ran
  exact M.meets_iff_split.mp meets before e (after ++ rest) v (by simp) ran

instance decidableMeets {cond : σ → ε → Prop} [∀ s e, Decidable (cond s e)] :
    ∀ s es, Decidable (M.Meets cond s es)
  | _, [] => isTrue trivial
  | s, e :: es =>
    match stepped : M.step s e with
    | some t =>
      have : Decidable (M.Meets cond t es) := decidableMeets t es
      decidable_of_iff (cond s e ∧ M.Meets cond t es) (M.meets_cons_of_step stepped).symm
    | none => decidable_of_iff (cond s e)
      ⟨fun met => ⟨met, fun t other => by rw [stepped] at other; cases other⟩, And.left⟩

/-- **The conditional run rule.** What every step meeting `cond` keeps, every run of such steps
keeps. -/
theorem run_keeps_of_meets {cond : σ → ε → Prop} {inv : σ → Prop}
    (keeps : ∀ s e t, cond s e → inv s → M.step s e = some t → inv t)
    {s t : σ} {es : List ε} (meets : M.Meets cond s es) (start : inv s)
    (ran : M.run s es = some t) : inv t := by
  induction es generalizing s with
  | nil =>
    cases ran
    exact start
  | cons e es ih =>
    obtain ⟨m, stepped, rest⟩ := M.run_cons_eq_some.mp ran
    exact ih (meets.2 m stepped) (keeps s e m meets.1 start stepped) rest

/-- A run in which an event has happened, cut at that event. -/
theorem run_split {s t : σ} {e : ε} {es : List ε} (ran : M.run s es = some t) (happened : e ∈ es) :
    ∃ fs gs m u, es = fs ++ e :: gs ∧ M.run s fs = some m ∧ M.step m e = some u ∧
      M.run u gs = some t := by
  obtain ⟨fs, gs, rfl⟩ := List.append_of_mem happened
  obtain ⟨m, before, after⟩ := M.run_append_eq_some.mp ran
  obtain ⟨u, stepped, rest⟩ := M.run_cons_eq_some.mp after
  exact ⟨fs, gs, m, u, rfl, before, stepped, rest⟩

/-- **The event rule.** What an event establishes and every step keeps holds at the end of a run in
which the event has happened. -/
theorem run_establishes_of_meets {cond : σ → ε → Prop} {inv : σ → Prop} {e : ε}
    (establishes : ∀ s t, M.step s e = some t → inv t)
    (keeps : ∀ s d t, cond s d → inv s → M.step s d = some t → inv t)
    {s t : σ} {es : List ε} (meets : M.Meets cond s es) (ran : M.run s es = some t)
    (happened : e ∈ es) : inv t := by
  obtain ⟨fs, gs, m, u, rfl, before, stepped, rest⟩ := M.run_split ran happened
  have later : M.Meets cond u gs := ((M.meets_of_append meets before).2 u stepped)
  exact M.run_keeps_of_meets keeps later (establishes m u stepped) rest

/-- **The event rule**, for an event that establishes something in the states in which `held` holds,
as it does along every run. -/
theorem run_establishes (held : σ → Prop) {inv : σ → Prop} {e : ε}
    (holds : ∀ s d t, held s → M.step s d = some t → held t)
    (establishes : ∀ s t, held s → M.step s e = some t → inv t)
    (keeps : ∀ s d t, inv s → M.step s d = some t → inv t)
    {s t : σ} {es : List ε} (start : held s) (ran : M.run s es = some t) (happened : e ∈ es) :
    inv t := by
  obtain ⟨fs, gs, m, u, rfl, before, stepped, rest⟩ := M.run_split ran happened
  exact M.run_keeps keeps (establishes m u (M.run_keeps holds start before) stepped) rest

/-- A condition on the event alone holds along the run when it holds of every event. -/
theorem meets_of_mem {cond : ε → Prop} {es : List ε} (holds : ∀ e ∈ es, cond e) (s : σ) :
    M.Meets (fun _ e => cond e) s es := by
  induction es generalizing s with
  | nil => exact trivial
  | cons e es ih =>
    exact ⟨holds e List.mem_cons_self,
      fun t _ => ih (fun d member => holds d (List.mem_cons_of_mem e member)) t⟩

/-- The number of steps of the run at which `p` holds. -/
def tally (p : σ → ε → Bool) : σ → List ε → ℕ
  | _, [] => 0
  | s, e :: es => (if p s e then 1 else 0) + ((M.step s e).elim 0 fun t => tally p t es)

theorem tally_cons_of_step {p : σ → ε → Bool} {s t : σ} {e : ε} {es : List ε}
    (stepped : M.step s e = some t) :
    M.tally p s (e :: es) = (if p s e then 1 else 0) + M.tally p t es := by
  rw [tally, stepped, Option.elim_some]

/-- **The counting rule.** An invariant that carries a number, raised by every step at which `p`
holds, carries at the end the number of those steps. -/
theorem run_tally {p : σ → ε → Bool} {inv : ℕ → σ → Prop}
    (keeps : ∀ n s e t, inv n s → M.step s e = some t → inv (n + if p s e then 1 else 0) t)
    {n : ℕ} {s t : σ} {es : List ε} (start : inv n s) (ran : M.run s es = some t) :
    inv (n + M.tally p s es) t := by
  induction es generalizing n s with
  | nil =>
    cases ran
    exact start
  | cons e es ih =>
    obtain ⟨m, stepped, rest⟩ := M.run_cons_eq_some.mp ran
    rw [M.tally_cons_of_step stepped, ← Nat.add_assoc]
    exact ih (keeps n s e m start stepped) rest

end System

end Transition
