/-
Arithmetic of fixed width, as a compiled program performs it.

A product that does not fit wraps around, or panics when the program is built with overflow checks
(`Profile`); a division by zero panics in either case. The operations answer `Except Panic`, so that a
computation stops at its first panic, and each has one lemma that says when it gives a value and
which.

The last section is about the natural numbers: how a quantity behaves that is converted to a coarser
unit by a rounding division, and back.
-/

import Mathlib.Algebra.Order.Floor.Div
import Mathlib.Algebra.Order.Ring.Nat
import Mathlib.Data.Nat.Basic

namespace Machine

/-- What stops a computation. -/
inductive Panic
  | overflow
  | divideByZero
  deriving DecidableEq, Repr

/-- How overflow is treated. -/
inductive Profile
  | checked
  | wrapping
  deriving DecidableEq, Repr

/-- A computation gives a value when both of its parts do. -/
theorem bind_eq_ok {ε α β : Type} {x : Except ε α} {f : α → Except ε β} {b : β}
    (given : x >>= f = .ok b) : ∃ a, x = .ok a ∧ f a = .ok b := by
  cases x with
  | error error => cases given
  | ok a => exact ⟨a, rfl, given⟩

/-! ### Products and quotients -/

def mulU32 (profile : Profile) (a b : UInt32) : Except Panic UInt32 :=
  if profile = .checked ∧ 2 ^ 32 ≤ a.toNat * b.toNat then .error .overflow else .ok (a * b)

def mulU64 (profile : Profile) (a b : UInt64) : Except Panic UInt64 :=
  if profile = .checked ∧ 2 ^ 64 ≤ a.toNat * b.toNat then .error .overflow else .ok (a * b)

def divU64 (a b : UInt64) : Except Panic UInt64 :=
  if b = 0 then .error .divideByZero else .ok (a / b)

/-- A remainder of lengths. -/
def remainder (a b : ℕ) : Except Panic ℕ := if b = 0 then .error .divideByZero else .ok (a % b)

/-- A product of lengths. -/
def mulLength (profile : Profile) (a b : ℕ) : Except Panic ℕ :=
  if profile = .checked ∧ 2 ^ 64 ≤ a * b then .error .overflow else .ok (a * b % 2 ^ 64)

theorem mulU64_eq_ok {profile : Profile} {a b c : UInt64} (given : mulU64 profile a b = .ok c) :
    c.toNat = a.toNat * b.toNat % 2 ^ 64 ∧
      (profile = .checked → a.toNat * b.toNat < 2 ^ 64) := by
  unfold mulU64 at given
  split at given
  · cases given
  · rename_i fits
    cases given
    refine ⟨UInt64.toNat_mul a b, fun checked => ?_⟩
    by_contra large
    exact fits ⟨checked, Nat.le_of_not_lt large⟩

theorem mulU32_eq_ok {profile : Profile} {a b c : UInt32} (given : mulU32 profile a b = .ok c) :
    c.toNat = a.toNat * b.toNat % 2 ^ 32 := by
  unfold mulU32 at given
  split at given
  · cases given
  · cases given
    exact UInt32.toNat_mul a b

theorem divU64_eq_ok {a b c : UInt64} (given : divU64 a b = .ok c) :
    0 < b.toNat ∧ c.toNat = a.toNat / b.toNat := by
  unfold divU64 at given
  split at given
  · cases given
  · rename_i nonzero
    cases given
    refine ⟨Nat.pos_of_ne_zero fun zero => nonzero (UInt64.toNat_inj.mp zero), ?_⟩
    exact UInt64.toNat_div a b

theorem divU64_of_pos (a : UInt64) {b : UInt64} (positive : 0 < b.toNat) :
    divU64 a b = .ok (a / b) :=
  if_neg fun zero => by rw [zero] at positive; exact absurd positive (by decide)

theorem remainder_self {a : ℕ} (positive : 0 < a) : remainder a a = .ok 0 := by
  unfold remainder
  rw [if_neg positive.ne', Nat.mod_self]

theorem mulLength_of_lt {profile : Profile} {a b : ℕ} (fits : a * b < 2 ^ 64) :
    mulLength profile a b = .ok (a * b) := by
  unfold mulLength
  rw [if_neg fun large => absurd fits (Nat.not_lt.mpr large.2), Nat.mod_eq_of_lt fits]

/-! ### Rounding divisions -/

/-- A quantity that is at most `a * scale` gives `a` only when it is all of it. -/
theorem div_eq_iff_of_le {a b scale : ℕ} (positive : 0 < scale) (le : b ≤ a * scale) :
    b / scale = a ↔ b = a * scale := by
  constructor
  · intro same
    refine le_antisymm le ?_
    rw [← same]
    exact Nat.div_mul_le_self b scale
  · rintro rfl
    exact Nat.mul_div_cancel a positive

/-- **What is left of a quotient** that was cut to `width`, its dividend having been cut to `size`,
times a divisor of which one factor was cut to `rest`: it is the whole dividend exactly when nothing
was rounded and nothing cut off. -/
theorem cut_div_mul_eq_iff {a size width unit rest rate : ℕ} (positive : 0 < a) (cut : rest ≤ unit)
    (unitPositive : 0 < unit) (ratePositive : 0 < rate) :
    a % size / (unit * rate) % width * rate * rest = a ↔
      unit * rate ∣ a ∧ a % size = a ∧ a / (unit * rate) % width = a / (unit * rate) ∧
        rest = unit := by
  constructor
  · intro whole
    have exact_le : a % size / (unit * rate) % width * rate * rest ≤
        a % size / (unit * rate) * (unit * rate) :=
      calc a % size / (unit * rate) % width * rate * rest
          ≤ a % size / (unit * rate) * rate * unit :=
            Nat.mul_le_mul (Nat.mul_le_mul_right rate (Nat.mod_le _ _)) cut
        _ = a % size / (unit * rate) * (unit * rate) := by rw [Nat.mul_assoc, Nat.mul_comm rate]
    have below : a % size / (unit * rate) * (unit * rate) ≤ a % size := Nat.div_mul_le_self _ _
    have uncut : a % size = a := le_antisymm (Nat.mod_le _ _) (by omega)
    rw [uncut] at whole exact_le below
    have multiple : a / (unit * rate) * (unit * rate) = a := by omega
    have timePositive : 0 < a / (unit * rate) % width := by
      refine Nat.pos_of_ne_zero fun zero => ?_
      rw [zero, Nat.zero_mul, Nat.zero_mul] at whole
      exact positive.ne whole
    have scaled : a / (unit * rate) % width * rest = a / (unit * rate) * unit := by
      refine Nat.eq_of_mul_eq_mul_right ratePositive ?_
      rw [Nat.mul_right_comm, whole, Nat.mul_assoc, multiple]
    obtain ⟨time, all⟩ := (mul_eq_mul_iff_eq_and_eq_of_pos (Nat.mod_le _ _) cut timePositive
      unitPositive).mp scaled
    exact ⟨Dvd.intro_left _ multiple, uncut, time, all⟩
  · rintro ⟨divides, uncut, time, rfl⟩
    rw [uncut, time, Nat.mul_assoc, Nat.mul_comm rate]
    exact Nat.div_mul_cancel divides

/-- **A rounding quotient reaches a bound** exactly when the bound times the divisor fits. -/
theorem le_div_mod_iff {a bound unit size : ℕ} (positive : 0 < unit) :
    bound ≤ a / unit % size ↔ bound * unit ≤ a % (unit * size) := by
  rw [← Nat.mod_mul_right_div_self, Nat.le_div_iff_mul_le positive]

/-- **The thousandth part of a converted quantity does not vanish** exactly when the coarse quantity
reaches the rounded-up time of the thousandth part. -/
theorem div_mul_div_ne_zero_iff {a rate scale parts : ℕ} (ratePositive : 0 < rate)
    (scalePositive : 0 < scale) (partsPositive : 0 < parts) :
    a * rate / scale * parts / rate ≠ 0 ↔ scale * (rate ⌈/⌉ parts) ⌈/⌉ rate ≤ a := by
  rw [Nat.div_ne_zero_iff, and_iff_right ratePositive.ne', ceilDiv_le_iff_le_smul ratePositive,
    smul_eq_mul, Nat.mul_comm (a * rate / scale) parts, ← smul_eq_mul parts,
    ← ceilDiv_le_iff_le_smul partsPositive, Nat.le_div_iff_mul_le scalePositive,
    Nat.mul_comm scale, Nat.mul_comm rate a]

end Machine
