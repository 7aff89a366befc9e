/-
The memory pool (`pjsua_memory_pool.rs`), and the strings that are allocated in it (`pj_types.rs`).

`alloc` asks `pj_pool_calloc` for the bytes of its elements, writes `T::default()` to the first element
only, and makes a slice that has as many elements as the block has bytes. So a buffer of elements of
more than one byte accepts indices behind its block, and of the elements after the first it holds what
zero bytes are.

* `load_alloc` — what the elements within the block hold.
* `allocatesAsAsked_iff` — a buffer is what was asked for exactly when its elements are bytes, and
  zero is their default or there is one of them.
* `pjString_alloc` — a string ends with a zero, which its length counts.
-/

import PjsipClient.Lib.Bytes
import PjsipClient.Pjmedia.Samples

namespace PjsipClient

open Machine Bytes

/-! ### Pools and buffers -/

/-- A pool; `new` gives none whose handle is null. -/
structure PjsuaMemoryPool where
  pjsuaPool : ℕ
  notNull : pjsuaPool ≠ 0

namespace PjsuaMemoryPool

/-- The function `new`, with the handle that `pjsua_pool_create` answers. -/
def new (pjsuaPoolCreate : String → ℕ → ℕ → ℕ) (initSize incrementSize : ℕ) :
    Option PjsuaMemoryPool :=
  if null : pjsuaPoolCreate "pjsua_buffer_rust" initSize incrementSize = 0 then none
  else some ⟨_, null⟩

end PjsuaMemoryPool

/-- A `&mut [T]`: the address of its first element, and how many it has. -/
structure Slice (T : Type) where
  start : ℕ
  length : ℕ
  deriving DecidableEq, Repr

structure PoolBuffer (T : Type) where
  poolBuffer : Slice T
  objectsCount : ℕ
  deriving DecidableEq, Repr

section Buffer

variable {T : Type} (layout : Layout T)

/-- The address of an element; `none` is the panic of an index out of bounds. -/
def Slice.get (slice : Slice T) (index : ℕ) : Option ℕ :=
  if index < slice.length then some (layout.element slice.start index) else none

def PoolBuffer.len (buffer : PoolBuffer T) : ℕ := buffer.objectsCount

/-- The method of `Index`, with the address of the element that it borrows. -/
def PoolBuffer.index (buffer : PoolBuffer T) (index : ℕ) : Option ℕ :=
  buffer.poolBuffer.get layout index

def PoolBuffer.asMut (buffer : PoolBuffer T) : Option ℕ := buffer.poolBuffer.get layout 0

theorem Slice.get_eq_some {slice : Slice T} {index element : ℕ} :
    slice.get layout index = some element ↔
      index < slice.length ∧ layout.element slice.start index = element := by
  unfold get
  by_cases inside : index < slice.length <;> simp [inside]

theorem Slice.isSome_get {slice : Slice T} {index : ℕ} :
    (slice.get layout index).isSome ↔ index < slice.length := by
  unfold get
  by_cases inside : index < slice.length <;> simp [inside]

/-- What `pj_pool_calloc` does to the bytes of the process, and the address it answers; it takes the
pool, and the number and the size of the elements. -/
abbrev PjPoolCalloc := Memory → ℕ → ℕ → ℕ → ℕ × Memory

variable [Inhabited T]

/-- The method `alloc`; `default` is `T::default()`. -/
def PjsuaMemoryPool.alloc (pjPoolCalloc : PjPoolCalloc) (pool : PjsuaMemoryPool) (profile : Profile)
    (memory : Memory) (objectsCount : ℕ) : Except Panic (PoolBuffer T × Memory) := do
  let elemSize := layout.size
  let (buffer, memory) := pjPoolCalloc memory pool.pjsuaPool objectsCount elemSize
  let memory := layout.store memory buffer default
  let poolBuffer := Slice.mk buffer (← mulLength profile objectsCount elemSize)
  return (⟨poolBuffer, objectsCount⟩, memory)

/-- The block of zeroed bytes that `pj_pool_calloc` gives; it lies in the address space. -/
structure Granted (start : ℕ) (zeros : Memory) (size : ℕ) : Prop where
  fits : start + size < 2 ^ 64
  zeroed : Zeroed zeros start size

/-- A buffer of as many elements as were asked for, each of them within the block at `start` and with
the default value. -/
structure AsAsked (start objectsCount : ℕ) (buffer : PoolBuffer T) (memory : Memory) : Prop where
  len : buffer.len = objectsCount
  accepts : ∀ index, (buffer.index layout index).isSome ↔ index < buffer.len
  within : ∀ index element, buffer.index layout index = some element →
    start ≤ element ∧ element + layout.size ≤ start + objectsCount * layout.size
  holds : ∀ index element, buffer.index layout index = some element →
    layout.load memory element = some default

/-- `alloc` gives such a buffer. -/
def AllocatesAsAsked (pjPoolCalloc : PjPoolCalloc) (pool : PjsuaMemoryPool) (profile : Profile)
    (memory : Memory) (objectsCount : ℕ) : Prop :=
  ∃ buffer after, pool.alloc layout pjPoolCalloc profile memory objectsCount = .ok (buffer, after) ∧
    AsAsked layout (pjPoolCalloc memory pool.pjsuaPool objectsCount layout.size).1 objectsCount
      buffer after

/-! ### What `alloc` gives -/

section Alloc

variable {layout} {start objectsCount : ℕ} {zeros : Memory}

/-- **The slice** has an element for each byte of the block. -/
theorem alloc_eq {pjPoolCalloc : PjPoolCalloc} {pool : PjsuaMemoryPool} {memory : Memory}
    (profile : Profile)
    (given : pjPoolCalloc memory pool.pjsuaPool objectsCount layout.size = (start, zeros))
    (granted : Granted start zeros (objectsCount * layout.size)) :
    pool.alloc layout pjPoolCalloc profile memory objectsCount =
      .ok (⟨⟨start, objectsCount * layout.size⟩, objectsCount⟩,
        layout.store zeros start default) := by
  have fits : objectsCount * layout.size < 2 ^ 64 :=
    lt_of_le_of_lt (Nat.le_add_left _ _) granted.fits
  simp only [PjsuaMemoryPool.alloc, given, mulLength_of_lt fits]
  rfl

/-- The first element is written, and those behind it are left as `pj_pool_calloc` gave them. -/
theorem load_alloc (zeroed : Zeroed zeros start (objectsCount * layout.size)) {index : ℕ}
    (sized : 0 < layout.size) (inside : index < objectsCount) :
    layout.load (layout.store zeros start default) (layout.element start index) =
      if index = 0 then some default else layout.read (List.replicate layout.size 0) := by
  by_cases first : index = 0
  · rw [if_pos first, first, layout.element_zero, layout.load_store]
  · have behind : layout.element start 0 + layout.size ≤ layout.element start index :=
      layout.element_apart (Nat.pos_of_ne_zero first)
    rw [layout.element_zero] at behind
    have within := (layout.element_within_iff sized start index objectsCount).mpr inside
    rw [if_neg first, layout.load_store_of_apart (Or.inr behind),
      layout.load_zeroed (zeroed.within (layout.le_element start index) within)]

/-- **All elements of the block are the default** when zero bytes are, or when there is only one. -/
theorem defaults_iff (zeroed : Zeroed zeros start (objectsCount * layout.size))
    (sized : 0 < layout.size) (asked : 1 ≤ objectsCount) :
    (∀ index < objectsCount,
        layout.load (layout.store zeros start default) (layout.element start index) =
          some default) ↔
      objectsCount = 1 ∨ layout.read (List.replicate layout.size 0) = some default := by
  constructor
  · intro defaults
    by_cases single : objectsCount = 1
    · exact Or.inl single
    · have second : 1 < objectsCount := by omega
      have loaded := defaults 1 second
      rw [load_alloc zeroed sized second, if_neg one_ne_zero] at loaded
      exact Or.inr loaded
  · intro enough index inside
    rw [load_alloc zeroed sized inside]
    split
    · rfl
    · rename_i later
      rcases enough with single | zero
      · omega
      · exact zero

/-- **The slice accepts as many indices as were asked for** when the elements are bytes. -/
theorem accepts_iff {size : ℕ} (asked : 1 ≤ objectsCount) (sized : 0 < size) :
    (∀ index, index < objectsCount * size ↔ index < objectsCount) ↔ size = 1 := by
  constructor
  · intro accepts
    by_contra wide
    have more : objectsCount * 2 ≤ objectsCount * size := Nat.mul_le_mul_left _ (by omega)
    exact absurd ((accepts objectsCount).mp (by omega)) (lt_irrefl _)
  · rintro rfl index
    rw [Nat.mul_one]

/-- **What the buffer is**, told by its parts. -/
theorem asAsked_iff {memory : Memory} (sized : 0 < layout.size) :
    AsAsked layout start objectsCount ⟨⟨start, objectsCount * layout.size⟩, objectsCount⟩ memory ↔
      (∀ index, index < objectsCount * layout.size ↔ index < objectsCount) ∧
        ∀ index < objectsCount,
          layout.load memory (layout.element start index) = some default := by
  constructor
  · intro asAsked
    have accepts : ∀ index, index < objectsCount * layout.size ↔ index < objectsCount :=
      fun index => (Slice.isSome_get layout).symm.trans (asAsked.accepts index)
    refine ⟨accepts, fun index inside => asAsked.holds index _ ?_⟩
    exact (Slice.get_eq_some layout).mpr ⟨(accepts index).mpr inside, rfl⟩
  · rintro ⟨accepts, defaults⟩
    have inside : ∀ index element,
        PoolBuffer.index layout ⟨⟨start, objectsCount * layout.size⟩, objectsCount⟩ index =
            some element →
          index < objectsCount ∧ layout.element start index = element := fun index element found => by
      obtain ⟨below, same⟩ := (Slice.get_eq_some layout).mp found
      exact ⟨(accepts index).mp below, same⟩
    refine ⟨rfl, fun index => (Slice.isSome_get layout).trans (accepts index), ?_, ?_⟩
    · intro index element found
      obtain ⟨below, rfl⟩ := inside index element found
      exact ⟨layout.le_element start index, (layout.element_within_iff sized _ _ _).mpr below⟩
    · intro index element found
      obtain ⟨below, rfl⟩ := inside index element found
      exact defaults index below

/-- **A buffer is what was asked for** exactly when its elements are bytes, and zero is their default
or there is only one of them. -/
theorem allocatesAsAsked_iff {pjPoolCalloc : PjPoolCalloc} {pool : PjsuaMemoryPool}
    {memory : Memory} (profile : Profile) (sized : 0 < layout.size) (asked : 1 ≤ objectsCount)
    (given : pjPoolCalloc memory pool.pjsuaPool objectsCount layout.size = (start, zeros))
    (granted : Granted start zeros (objectsCount * layout.size)) :
    AllocatesAsAsked layout pjPoolCalloc pool profile memory objectsCount ↔
      layout.size = 1 ∧ (objectsCount = 1 ∨ layout.read [0] = some default) := by
  have allocated := alloc_eq profile given granted
  have unfolded : AllocatesAsAsked layout pjPoolCalloc pool profile memory objectsCount ↔
      AsAsked layout start objectsCount ⟨⟨start, objectsCount * layout.size⟩, objectsCount⟩
        (layout.store zeros start default) := by
    unfold AllocatesAsAsked
    rw [allocated, given]
    constructor
    · rintro ⟨buffer, after, same, asAsked⟩
      cases same
      exact asAsked
    · exact fun asAsked => ⟨_, _, rfl, asAsked⟩
  rw [unfolded, asAsked_iff sized, accepts_iff asked sized, defaults_iff granted.zeroed sized asked]
  refine and_congr_right fun byte => ?_
  rw [byte, List.replicate_one]

end Alloc

end Buffer

/-- A pool whose free bytes begin at `start`. -/
def pjPoolCallocAt (start : ℕ) : PjPoolCalloc := fun memory _ count elem =>
  (start, writeBytes memory start (List.replicate (count * elem) 0))

theorem granted_pjPoolCallocAt (start : ℕ) (memory : Memory) {size : ℕ}
    (fits : start + size < 2 ^ 64) :
    Granted start (writeBytes memory start (List.replicate size 0)) size :=
  ⟨fits, zeroed_writeBytes_zeros memory start size⟩

/-- Two bytes. -/
theorem allocatesAsAsked_iff_twoBytes :
    AllocatesAsAsked Layout.u8 (pjPoolCallocAt 4096) ⟨1, one_ne_zero⟩ .checked (fun _ => 255) 2 :=
  (allocatesAsAsked_iff .checked Nat.one_pos (by decide) rfl
    (granted_pjPoolCallocAt 4096 _ (by decide))).mpr ⟨rfl, Or.inr rfl⟩

/-- The samples of a frame stand in memory as two bytes each. -/
def i16Layout : Layout Int16 where
  size := 2
  write := toLeBytes
  read
    | [low, high] => some (fromLeBytes low high)
    | _ => none
  length_write _ := rfl
  read_write sample := congrArg some (fromLeBytes_toLeBytes sample)

/-- A buffer of one sample accepts a second index, behind its block. -/
theorem not_allocatesAsAsked :
    Granted 4096 (pjPoolCallocAt 4096 (fun _ => 0) 1 1 i16Layout.size).2 (1 * i16Layout.size) ∧
      ¬ AllocatesAsAsked i16Layout (pjPoolCallocAt 4096) ⟨1, one_ne_zero⟩ .checked (fun _ => 0)
        1 := by
  have granted : Granted 4096 (pjPoolCallocAt 4096 (fun _ => 0) 1 1 i16Layout.size).2
      (1 * i16Layout.size) :=
    granted_pjPoolCallocAt 4096 _ (by decide)
  refine ⟨granted, ?_⟩
  rintro ⟨buffer, after, allocated, asAsked⟩
  rw [alloc_eq .checked rfl granted] at allocated
  cases allocated
  have second := (asAsked.accepts 1).mp (by decide)
  exact absurd second (by decide)

/-! ### Strings -/

/-- The `pj_str_t` of a `PjString`. -/
structure PjString where
  ptr : ℕ
  slen : ℕ
  deriving DecidableEq, Repr

/-- The function `alloc`, with the bytes of the string; `none` is a panic. -/
def PjString.alloc (pjPoolCalloc : PjPoolCalloc) (memPool : PjsuaMemoryPool) (profile : Profile)
    (memory : Memory) (string : List UInt8) : Option (PjString × Memory) := do
  let (poolBuffer, memory) ←
    (memPool.alloc Layout.u8 pjPoolCalloc profile memory (string.length + 1)).toOption
  let ptr ← poolBuffer.asMut Layout.u8
  return (⟨ptr, poolBuffer.len⟩, memory.write ptr string)

/-- **A string ends with a zero**, and its length counts the zero. -/
theorem pjString_alloc {pjPoolCalloc : PjPoolCalloc} {memPool : PjsuaMemoryPool}
    {memory zeros : Memory} {start : ℕ} (profile : Profile) (string : List UInt8)
    (given : pjPoolCalloc memory memPool.pjsuaPool (string.length + 1) 1 = (start, zeros))
    (granted : Granted start zeros (string.length + 1)) :
    ∃ after, PjString.alloc pjPoolCalloc memPool profile memory string =
        some (⟨start, string.length + 1⟩, after) ∧
      after.read start (string.length + 1) = string ++ [0] := by
  have allocated : memPool.alloc Layout.u8 pjPoolCalloc profile memory (string.length + 1) = _ :=
    alloc_eq profile given (by rwa [Layout.u8_size, Nat.mul_one])
  have first : PoolBuffer.asMut Layout.u8
      ⟨⟨start, (string.length + 1) * Layout.u8.size⟩, string.length + 1⟩ = some start :=
    (Slice.get_eq_some Layout.u8).mpr ⟨Nat.succ_pos _, Layout.u8.element_zero start⟩
  refine ⟨Memory.write (Layout.u8.store zeros start default) start string, ?_, ?_⟩
  · unfold PjString.alloc
    simp only [allocated, Except.toOption, Option.bind_eq_bind, Option.bind_some, first]
    rfl
  · have zeroed : Zeroed (writeBytes zeros start (List.replicate 1 0)) start (string.length + 1) :=
      granted.zeroed.writeBytes_zeros
    show readBytes (writeBytes (writeBytes zeros start (List.replicate 1 0)) start string) _ _ = _
    rw [readBytes_add, readBytes_writeBytes, readBytes_writeBytes_of_apart (Or.inr le_rfl),
      readBytes_zeroed (zeroed.within (Nat.le_add_right _ _) le_rfl), List.replicate_one]

end PjsipClient
