/-
Time by counting ticks of a rounded length.

A unit of time, one second say, is divided into `scale` parts and into `rate` ticks. `Ticks.time` is
the time of `n` ticks as a program counts it that has rounded the length of a tick down to whole parts
and has cut the number of ticks to `size`. It is never ahead of the exact time (`time_mul_le`), and
`Ticks.Close` says when it is behind it by less than a part (`abs_time_sub_lt_iff`).
-/

import Mathlib.Algebra.Order.Field.Basic
import Mathlib.Algebra.Order.Ring.Nat
import Mathlib.Data.Rat.Cast.Order
import Mathlib.Tactic.FieldSimp
import Mathlib.Tactic.Linarith
import Mathlib.Tactic.Ring

namespace Ticks

/-- The parts that are counted for `n` ticks. -/
def time (scale size rate n : ℕ) : ℕ := scale / rate * (n % size)

/-- What the rounding leaves over for each tick adds up to less than a part, and no tick is cut off,
unless a tick is shorter than a part. -/
def Close (scale size rate n : ℕ) : Prop :=
  n * (scale % rate) < rate ∧ (n < size ∨ scale < rate)

instance (scale size rate n : ℕ) : Decidable (Close scale size rate n) :=
  inferInstanceAs (Decidable (_ ∧ _))

variable {scale size rate n : ℕ}

/-- The counted time is not ahead. -/
theorem time_mul_le (scale size rate n : ℕ) : time scale size rate n * rate ≤ scale * n :=
  calc time scale size rate n * rate = scale / rate * rate * (n % size) := Nat.mul_right_comm _ _ _
    _ ≤ scale * n := Nat.mul_le_mul (Nat.div_mul_le_self scale rate) (Nat.mod_le n size)

/-- **It is behind by less than a part** exactly when it is close. -/
theorem lt_time_mul_iff (sizePositive : 0 < size) :
    scale * n < (time scale size rate n + 1) * rate ↔ Close scale size rate n := by
  have split := Nat.div_add_mod' scale rate
  unfold time Close
  rcases Nat.lt_or_ge n size with uncut | cut
  · have all : scale * n = scale / rate * n * rate + n * (scale % rate) :=
      calc scale * n = (scale / rate * rate + scale % rate) * n := by rw [split]
        _ = scale / rate * n * rate + n * (scale % rate) := by ring
    rw [Nat.mod_eq_of_lt uncut, all, Nat.succ_mul, Nat.add_lt_add_iff_left]
    exact ⟨fun rest => ⟨rest, Or.inl uncut⟩, And.left⟩
  · rcases Nat.lt_or_ge scale rate with short | long
    · rw [Nat.div_eq_of_lt short, Nat.mod_eq_of_lt short, Nat.zero_mul, Nat.zero_add, Nat.one_mul,
        Nat.mul_comm]
      exact ⟨fun rest => ⟨rest, Or.inr short⟩, And.left⟩
    · -- the ticks that are cut off last a part at least
      refine iff_of_false (fun less => ?_) fun near => ?_
      · have fewer : n % size + 1 ≤ n := (Nat.mod_lt n sizePositive).trans_le cut
        have behind : (scale / rate * (n % size) + 1) * rate ≤ scale * n :=
          calc (scale / rate * (n % size) + 1) * rate
              = scale / rate * rate * (n % size) + rate := by ring
            _ ≤ scale * (n % size) + scale :=
                Nat.add_le_add (Nat.mul_le_mul_right _ (Nat.div_mul_le_self scale rate)) long
            _ = scale * (n % size + 1) := (Nat.mul_succ _ _).symm
            _ ≤ scale * n := Nat.mul_le_mul_left scale fewer
        exact absurd less behind.not_gt
      · rcases near.2 with uncut | short
        · exact absurd uncut cut.not_gt
        · exact absurd short long.not_gt

/-- **Less than a part from the exact time**, as fractions of the unit. -/
theorem abs_time_sub_lt_iff (scalePositive : 0 < scale) (sizePositive : 0 < size)
    (ratePositive : 0 < rate) :
    |(time scale size rate n : ℚ) / scale - n / rate| < 1 / scale ↔ Close scale size rate n := by
  have scaleCast : (0 : ℚ) < scale := Nat.cast_pos.mpr scalePositive
  have rateCast : (0 : ℚ) < rate := Nat.cast_pos.mpr ratePositive
  have notAhead : (time scale size rate n : ℚ) / scale ≤ n / rate := by
    rw [div_le_div_iff₀ scaleCast rateCast]
    have cast : ((time scale size rate n * rate : ℕ) : ℚ) ≤ (scale * n : ℕ) :=
      Nat.cast_le.mpr (time_mul_le scale size rate n)
    push_cast at cast
    linarith
  rw [← lt_time_mul_iff sizePositive, abs_sub_comm, abs_of_nonneg (sub_nonneg.mpr notAhead),
    sub_lt_iff_lt_add, ← add_div, div_lt_div_iff₀ rateCast scaleCast, ← Nat.cast_lt (α := ℚ)]
  push_cast
  rw [mul_comm (n : ℚ), add_comm (1 : ℚ)]

/-- **No time goes back** by a part to a close one. -/
theorem time_lt_of_le {earlier later : ℕ} (sizePositive : 0 < size) (ordered : earlier ≤ later)
    (near : Close scale size rate later) :
    time scale size rate earlier < time scale size rate later + 1 := by
  refine Nat.lt_of_mul_lt_mul_right (a := rate) ?_
  calc time scale size rate earlier * rate ≤ scale * earlier := time_mul_le scale size rate earlier
    _ ≤ scale * later := Nat.mul_le_mul_left scale ordered
    _ < (time scale size rate later + 1) * rate := (lt_time_mul_iff sizePositive).mpr near

end Ticks
