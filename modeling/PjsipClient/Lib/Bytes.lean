/-
Values in a memory of bytes.

A `Layout` says how the values of a type stand in memory: how many bytes they take, which bytes a value
is written as, and which value, if any, bytes are read as. An array of such values is its first
address, and element `i` stands `i` sizes after it (`element`).

* `load_store`, `load_store_of_apart` — a stored value is loaded again, and one elsewhere is kept.
* `load_zeroed` — what is loaded from zeroed memory is what the zero bytes are read as.
* `element_within_iff` — element `i` lies within the bytes of `n` elements exactly when `i < n`.
* `element_apart` — two elements do not overlap.
* `Region.read_write_apart`, `Region.read_write_start` — what a region holds after a write beside it,
  and after a write at its start.
-/

import Mathlib.Algebra.Order.Ring.Nat
import Mathlib.Data.List.Basic

namespace Bytes

variable {memory other : ℕ → UInt8} {address count : ℕ} {bytes : List UInt8}

/-! ### Bytes -/

def readBytes (memory : ℕ → UInt8) (address count : ℕ) : List UInt8 :=
  (List.range count).map fun offset => memory (address + offset)

def writeBytes (memory : ℕ → UInt8) (address : ℕ) (bytes : List UInt8) : ℕ → UInt8 := fun k =>
  if address ≤ k then (bytes[k - address]?).getD (memory k) else memory k

/-- The bytes are zero. -/
def Zeroed (memory : ℕ → UInt8) (address count : ℕ) : Prop :=
  ∀ k, address ≤ k → k < address + count → memory k = 0

theorem Zeroed.within {inner size : ℕ} (zeroed : Zeroed memory address count)
    (lower : address ≤ inner) (upper : inner + size ≤ address + count) :
    Zeroed memory inner size :=
  fun k above below => zeroed k (by omega) (by omega)

@[simp] theorem length_readBytes (memory : ℕ → UInt8) (address count : ℕ) :
    (readBytes memory address count).length = count := by
  unfold readBytes
  rw [List.length_map, List.length_range]

theorem getElem_readBytes {offset : ℕ} (inside : offset < (readBytes memory address count).length) :
    (readBytes memory address count)[offset] = memory (address + offset) := by
  simp [readBytes]

theorem readBytes_congr
    (same : ∀ k, address ≤ k → k < address + count → memory k = other k) :
    readBytes memory address count = readBytes other address count := by
  refine List.map_congr_left fun offset member => ?_
  rw [List.mem_range] at member
  exact same _ (by omega) (by omega)

theorem readBytes_add (memory : ℕ → UInt8) (address count more : ℕ) :
    readBytes memory address (count + more) =
      readBytes memory address count ++ readBytes memory (address + count) more := by
  unfold readBytes
  rw [List.range_add, List.map_append, List.map_map]
  simp only [Function.comp_def, Nat.add_assoc]

/-- **Zeroed bytes** are read as zeros. -/
theorem readBytes_zeroed (zeroed : Zeroed memory address count) :
    readBytes memory address count = List.replicate count 0 := by
  refine List.eq_replicate_iff.mpr ⟨length_readBytes _ _ _, fun byte member => ?_⟩
  obtain ⟨offset, inside, rfl⟩ := List.mem_map.mp member
  rw [List.mem_range] at inside
  exact zeroed _ (by omega) (by omega)

/-- Writing changes no byte outside of what is written. -/
theorem writeBytes_of_outside {k : ℕ} (outside : k < address ∨ address + bytes.length ≤ k) :
    writeBytes memory address bytes k = memory k := by
  unfold writeBytes
  split
  · rename_i above
    have beyond : bytes.length ≤ k - address := by omega
    rw [List.getElem?_eq_none beyond, Option.getD_none]
  · rfl

/-- Each byte is written to its place. -/
theorem writeBytes_inside {offset : ℕ} (inside : offset < bytes.length) :
    writeBytes memory address bytes (address + offset) = bytes[offset] := by
  unfold writeBytes
  rw [if_pos (Nat.le_add_right _ _), Nat.add_sub_cancel_left, List.getElem?_eq_getElem inside,
    Option.getD_some]

theorem writeBytes_zeros {k : ℕ} (above : address ≤ k) (below : k < address + count) :
    writeBytes memory address (List.replicate count 0) k = 0 := by
  obtain ⟨offset, rfl⟩ := Nat.exists_eq_add_of_le above
  have inside : offset < (List.replicate count (0 : UInt8)).length := by
    rw [List.length_replicate]
    omega
  rw [writeBytes_inside inside, List.getElem_replicate]

theorem zeroed_writeBytes_zeros (memory : ℕ → UInt8) (address count : ℕ) :
    Zeroed (writeBytes memory address (List.replicate count 0)) address count :=
  fun _ => writeBytes_zeros

/-- Zeros that are written into zeroed bytes change nothing. -/
theorem Zeroed.writeBytes_zeros {elsewhere size : ℕ} (zeroed : Zeroed memory address count) :
    Zeroed (writeBytes memory elsewhere (List.replicate size 0)) address count := by
  intro k above below
  by_cases inside : elsewhere ≤ k ∧ k < elsewhere + size
  · exact Bytes.writeBytes_zeros inside.1 inside.2
  · rw [writeBytes_of_outside (by rw [List.length_replicate]; omega)]
    exact zeroed k above below

/-- **What is written** is read. -/
theorem readBytes_writeBytes (memory : ℕ → UInt8) (address : ℕ) (bytes : List UInt8) :
    readBytes (writeBytes memory address bytes) address bytes.length = bytes := by
  refine List.ext_getElem (length_readBytes _ _ _) fun offset _ inside => ?_
  rw [getElem_readBytes, writeBytes_inside inside]

/-- **What is elsewhere** is kept. -/
theorem readBytes_writeBytes_of_apart {elsewhere : ℕ}
    (apart : elsewhere + count ≤ address ∨ address + bytes.length ≤ elsewhere) :
    readBytes (writeBytes memory address bytes) elsewhere count =
      readBytes memory elsewhere count :=
  readBytes_congr fun _ _ _ => writeBytes_of_outside (by omega)

/-! ### Values -/

/-- How the values of a type stand in memory. -/
structure Layout (α : Type) where
  size : ℕ
  write : α → List UInt8
  read : List UInt8 → Option α
  length_write : ∀ a, (write a).length = size
  read_write : ∀ a, read (write a) = some a

namespace Layout

variable {α : Type} (layout : Layout α)

/-- The value at an address, if the bytes there are those of a value. -/
def load (memory : ℕ → UInt8) (address : ℕ) : Option α :=
  layout.read (readBytes memory address layout.size)

def store (memory : ℕ → UInt8) (address : ℕ) (a : α) : ℕ → UInt8 :=
  writeBytes memory address (layout.write a)

/-- **A stored value is loaded again.** -/
@[simp] theorem load_store (memory : ℕ → UInt8) (address : ℕ) (a : α) :
    layout.load (layout.store memory address a) address = some a := by
  unfold load store
  rw [← layout.length_write a, readBytes_writeBytes, layout.read_write]

/-- **A value elsewhere is kept.** -/
theorem load_store_of_apart {elsewhere : ℕ} {a : α}
    (apart : elsewhere + layout.size ≤ address ∨ address + layout.size ≤ elsewhere) :
    layout.load (layout.store memory address a) elsewhere = layout.load memory elsewhere := by
  unfold load store
  rw [readBytes_writeBytes_of_apart]
  rw [layout.length_write]
  exact apart

/-- **Zeroed memory** holds what the zero bytes are read as. -/
theorem load_zeroed (zeroed : Zeroed memory address layout.size) :
    layout.load memory address = layout.read (List.replicate layout.size 0) := by
  unfold load
  rw [readBytes_zeroed zeroed]

/-! ### Elements of an array -/

/-- Where element `index` of the array at `start` stands. -/
def element (start index : ℕ) : ℕ := start + index * layout.size

@[simp] theorem element_zero (start : ℕ) : layout.element start 0 = start := by
  unfold element
  omega

theorem element_succ (start index : ℕ) :
    layout.element start (index + 1) = layout.element start index + layout.size := by
  unfold element
  rw [Nat.succ_mul, Nat.add_assoc]

theorem le_element (start index : ℕ) : start ≤ layout.element start index := Nat.le_add_right _ _

/-- **The elements of an array of `n`** are those that lie within its bytes. -/
theorem element_within_iff (sized : 0 < layout.size) (start index n : ℕ) :
    layout.element start index + layout.size ≤ start + n * layout.size ↔ index < n := by
  rw [← element_succ]
  unfold element
  rw [Nat.add_le_add_iff_left, Nat.mul_le_mul_right_iff sized, Nat.succ_le_iff]

/-- **Two elements do not overlap.** -/
theorem element_apart {start index other : ℕ} (before : index < other) :
    layout.element start index + layout.size ≤ layout.element start other := by
  rw [← element_succ]
  unfold element
  exact Nat.add_le_add_left (Nat.mul_le_mul_right _ before) _

/-! ### Bytes as values -/

/-- A byte stands for itself. -/
def u8 : Layout UInt8 where
  size := 1
  write byte := [byte]
  read
    | [byte] => some byte
    | _ => none
  length_write _ := rfl
  read_write _ := rfl

@[simp] theorem u8_size : u8.size = 1 := rfl

end Layout

/-- The bytes of a value of some size. -/
abbrev Raw (size : ℕ) : Type := { bytes : List UInt8 // bytes.length = size }

/-- Bytes stand for themselves. -/
def Layout.raw (size : ℕ) : Layout (Raw size) where
  size := size
  write value := value.1
  read bytes := if sized : bytes.length = size then some ⟨bytes, sized⟩ else none
  length_write value := value.2
  read_write value := dif_pos value.2

/-! ### Regions -/

/-- Bytes of the memory that stand one after another. -/
structure Region where
  start : ℕ
  size : ℕ
  deriving DecidableEq, Repr

namespace Region

variable {region other : Region}

/-- One ends before the other begins. -/
def Apart (region other : Region) : Prop :=
  region.start + region.size ≤ other.start ∨ other.start + other.size ≤ region.start

instance : Decidable (region.Apart other) := inferInstanceAs (Decidable (_ ∨ _))

theorem Apart.symm (apart : region.Apart other) : other.Apart region := Or.symm apart

/-- What is apart from a region is apart from what lies within it. -/
theorem Apart.within {inner : Region} (apart : region.Apart other) (lower : other.start ≤ inner.start)
    (upper : inner.start + inner.size ≤ other.start + other.size) : region.Apart inner := by
  unfold Apart at apart ⊢
  omega

def read (region : Region) (memory : ℕ → UInt8) : List UInt8 :=
  readBytes memory region.start region.size

@[simp] theorem length_read (region : Region) (memory : ℕ → UInt8) :
    (region.read memory).length = region.size := length_readBytes _ _ _

/-- **A write beside a region** leaves it as it is. -/
theorem read_write_apart (apart : region.Apart ⟨address, bytes.length⟩) (memory : ℕ → UInt8) :
    region.read (writeBytes memory address bytes) = region.read memory :=
  readBytes_writeBytes_of_apart apart

/-- **A write at the start of a region** leaves the rest of it as it is. -/
theorem read_write_start (within : bytes.length ≤ region.size) (memory : ℕ → UInt8) :
    region.read (writeBytes memory region.start bytes) =
      bytes ++ (region.read memory).drop bytes.length := by
  obtain ⟨rest, size⟩ := Nat.exists_eq_add_of_le within
  unfold read
  rw [size, readBytes_add, readBytes_add, readBytes_writeBytes,
    readBytes_writeBytes_of_apart (Or.inr le_rfl), List.drop_left' (length_readBytes _ _ _)]

/-- Zeroed bytes are read as zeros. -/
theorem read_zeroed (zeroed : Zeroed memory region.start region.size) :
    region.read memory = List.replicate region.size 0 := readBytes_zeroed zeroed

end Region

end Bytes
