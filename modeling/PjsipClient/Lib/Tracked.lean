/-
Arithmetic of fixed width that notices what it loses.

A `Tracked` computation is one of `Machine` that also says whether every result so far was the exact
one: a product that has wrapped around, and a conversion that has cut something off, are noted and go
on. Without the notes it is the computation itself (`Tracked.erase`). `Tracked.Exactly` says that it
gives a value and has lost nothing, `Tracked.Lossless` that it does so for some value; the rules below
take that through the steps of a program.
-/

import PjsipClient.Lib.Machine

namespace Machine

/-- A computation with a note whether its results were exact. -/
def Tracked (α : Type) := Except Panic (α × Bool)

namespace Tracked

variable {α β : Type}

/-- A computation that loses something unless `lossless`. -/
def note (lossless : Bool) (x : Except Panic α) : Tracked α := x.map fun a => (a, lossless)

def bind (x : Tracked α) (f : α → Tracked β) : Tracked β :=
  match x with
  | .error panic => .error panic
  | .ok (a, first) => (f a).map fun (b, second) => (b, first && second)

instance : Monad Tracked where
  pure a := .ok (a, true)
  bind := bind

/-- The computation without its note. -/
def erase (x : Tracked α) : Except Panic α := Except.map Prod.fst x

/-- It gives this value, and nothing was lost. -/
def Exactly (x : Tracked α) (a : α) : Prop := x = .ok (a, true)

/-- It gives some value, and nothing was lost. -/
def Lossless (x : Tracked α) : Prop := ∃ a, x.Exactly a

/-! ### The rules -/

@[simp] theorem erase_note (lossless : Bool) (x : Except Panic α) :
    (note lossless x).erase = x := by
  cases x <;> rfl

theorem erase_bind (x : Tracked α) (f : α → Tracked β) :
    (x >>= f).erase = x.erase >>= fun a => (f a).erase := by
  cases x with
  | error panic => rfl
  | ok given =>
    obtain ⟨a, lossless⟩ := given
    show Except.map Prod.fst (Except.map _ (f a)) = Except.map Prod.fst (f a)
    cases f a <;> rfl

/-- **An exact value is the value.** -/
theorem Exactly.erase_eq {x : Tracked α} {a : α} (exactly : x.Exactly a) : x.erase = .ok a := by
  unfold Exactly at exactly
  rw [exactly]
  rfl

theorem exactly_note_iff {lossless : Bool} {x : Except Panic α} {a : α} :
    (note lossless x).Exactly a ↔ lossless = true ∧ x = .ok a := by
  cases x with
  | error panic => exact ⟨fun exactly => (by cases exactly), fun given => (by cases given.2)⟩
  | ok b =>
    constructor
    · intro exactly
      cases exactly
      exact ⟨rfl, rfl⟩
    · rintro ⟨rfl, given⟩
      cases given
      rfl

/-- **A program is exact** when each of its steps is. -/
theorem exactly_bind_iff {x : Tracked α} {f : α → Tracked β} {b : β} :
    (x >>= f).Exactly b ↔ ∃ a, x.Exactly a ∧ (f a).Exactly b := by
  cases x with
  | error panic =>
    exact ⟨fun exactly => (by cases exactly), fun ⟨_, exactly, _⟩ => (by cases exactly)⟩
  | ok given =>
    obtain ⟨a, first⟩ := given
    show Except.map _ (f a) = .ok (b, true) ↔ _
    constructor
    · intro exactly
      cases rest : f a with
      | error panic =>
        rw [rest] at exactly
        cases exactly
      | ok given =>
        obtain ⟨b', second⟩ := given
        rw [rest] at exactly
        injection exactly with same
        obtain ⟨rfl, both⟩ := Prod.mk.inj same
        obtain ⟨rfl, rfl⟩ := Bool.and_eq_true_iff.mp both
        exact ⟨a, rfl, rest⟩
    · rintro ⟨a', same, rest⟩
      cases same
      rw [rest]
      rfl

theorem Exactly.lossless {x : Tracked α} {a : α} (exactly : x.Exactly a) : x.Lossless := ⟨a, exactly⟩

theorem lossless_pure (a : α) : (pure a : Tracked α).Lossless := ⟨a, rfl⟩

/-- A program loses nothing when its first step gives an exact value with which the rest loses
nothing. -/
theorem lossless_bind_iff {x : Tracked α} {f : α → Tracked β} :
    (x >>= f).Lossless ↔ ∃ a, x.Exactly a ∧ (f a).Lossless := by
  unfold Lossless
  simp only [exactly_bind_iff]
  exact ⟨fun ⟨b, a, first, rest⟩ => ⟨a, first, b, rest⟩, fun ⟨a, first, b, rest⟩ => ⟨b, a, first, rest⟩⟩

theorem Lossless.bind {x : Tracked α} {f : α → Tracked β} (lossless : x.Lossless)
    (rest : ∀ a, (f a).Lossless) : (x >>= f).Lossless := by
  obtain ⟨a, exactly⟩ := lossless
  exact lossless_bind_iff.mpr ⟨a, exactly, rest a⟩

/-- **An answer without loss** is an answer. -/
theorem Lossless.answers {x : Tracked α} (lossless : x.Lossless) : ∃ a, x.erase = .ok a := by
  obtain ⟨a, exactly⟩ := lossless
  exact ⟨a, exactly.erase_eq⟩

/-! ### The operations -/

def mulU32 (profile : Profile) (a b : UInt32) : Tracked UInt32 :=
  note (decide (a.toNat * b.toNat < 2 ^ 32)) (Machine.mulU32 profile a b)

def mulU64 (profile : Profile) (a b : UInt64) : Tracked UInt64 :=
  note (decide (a.toNat * b.toNat < 2 ^ 64)) (Machine.mulU64 profile a b)

def divU64 (a b : UInt64) : Tracked UInt64 := note true (Machine.divU64 a b)

/-- The conversion `as u32`. -/
def toUInt32 (a : UInt64) : Tracked UInt32 := note (decide (a.toNat < 2 ^ 32)) (.ok a.toUInt32)

theorem exactly_mulU32_iff {profile : Profile} {a b c : UInt32} :
    (mulU32 profile a b).Exactly c ↔ a.toNat * b.toNat < 2 ^ 32 ∧ a * b = c := by
  unfold mulU32 Machine.mulU32
  rw [exactly_note_iff, decide_eq_true_iff]
  refine and_congr_right fun fits => ?_
  rw [if_neg fun large => fits.not_ge large.2, Except.ok.injEq]

theorem exactly_mulU64_iff {profile : Profile} {a b c : UInt64} :
    (mulU64 profile a b).Exactly c ↔ a.toNat * b.toNat < 2 ^ 64 ∧ a * b = c := by
  unfold mulU64 Machine.mulU64
  rw [exactly_note_iff, decide_eq_true_iff]
  refine and_congr_right fun fits => ?_
  rw [if_neg fun large => fits.not_ge large.2, Except.ok.injEq]

theorem exactly_divU64_iff {a b c : UInt64} :
    (divU64 a b).Exactly c ↔ 0 < b.toNat ∧ a / b = c := by
  unfold divU64
  rw [exactly_note_iff, eq_self_iff_true, true_and]
  constructor
  · intro given
    obtain ⟨positive, _⟩ := divU64_eq_ok given
    rw [divU64_of_pos a positive, Except.ok.injEq] at given
    exact ⟨positive, given⟩
  · rintro ⟨positive, rfl⟩
    exact divU64_of_pos a positive

theorem exactly_toUInt32_iff {a : UInt64} {b : UInt32} :
    (toUInt32 a).Exactly b ↔ a.toNat < 2 ^ 32 ∧ a.toUInt32 = b := by
  unfold toUInt32
  rw [exactly_note_iff, decide_eq_true_iff, Except.ok.injEq]

end Tracked

end Machine
