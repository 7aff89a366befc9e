/-
What the buffers of the memory pools hold, over a whole run (`pjsua_memory_pool.rs`, `pj_types.rs`).

A buffer is an address and a length, and so is a string; their bytes are in the memory of the
process, in which pjsua writes too. `Contents` says what each buffer and string is for: it holds its
bytes from the call that made it to the drop of its pool, and only a write through it changes them.

`pj_pool_calloc` gives zeroed bytes that nobody has, and pjsua writes only elsewhere.

* `pools_refine` — as long as each buffer is asked for with at least one element, the memory holds
  for each buffer and string just what it should.
-/

import PjsipClient.Lib.Refinement
import PjsipClient.PjsuaMemoryPool

namespace PjsipClient

open Machine Bytes Transition

/-! ### The memory -/

/-- A buffer, or the buffer of a string, with the handle of its pool. -/
structure Allocated where
  pool : ℕ
  elem : ℕ
  isString : Bool
  buffer : PoolBuffer (Raw elem)

/-- The bytes that were asked for. -/
def Allocated.region (allocated : Allocated) : Region :=
  ⟨allocated.buffer.poolBuffer.start, allocated.buffer.len * allocated.elem⟩

/-- The buffers are named in the order in which they were made. -/
structure Pools where
  memory : Memory
  alive : ℕ → Bool
  made : ℕ
  buffer : ℕ → Option Allocated

inductive PoolsEvent
  /-- `PjsuaMemoryPool::new`, with the handle that pjsua gives. -/
  | new (initSize incrementSize handle : ℕ)
  /-- `alloc`, with the default value, and the address that `pj_pool_calloc` gives. -/
  | alloc (pool : PjsuaMemoryPool) (elem : ℕ) (value : Raw elem) (objectsCount start : ℕ)
  /-- A value is assigned through `as_mut`. -/
  | asMut (buffer : ℕ) (value : List UInt8)
  | allocString (pool : PjsuaMemoryPool) (string : List UInt8) (start : ℕ)
  /-- Others write somewhere. -/
  | foreign (address : ℕ) (bytes : List UInt8)
  | drop (handle : ℕ)

namespace Pools

/-- Nobody has these bytes; about a block of none it says nothing. -/
def Free (s : Pools) (region : Region) : Prop :=
  ∀ b < s.made, ∀ allocated ∈ s.buffer b, region.Apart allocated.region

instance (s : Pools) (region : Region) : Decidable (s.Free region) :=
  inferInstanceAs (Decidable (∀ b < s.made, _))

/-- No pool was made; the memory holds anything. -/
def start (memory : Memory) : Pools := ⟨memory, fun _ => false, 0, fun _ => none⟩

def hold (s : Pools) (memory : Memory) (allocated : Allocated) : Pools :=
  { s with
    memory := memory
    made := s.made + 1
    buffer := Function.update s.buffer s.made (some allocated) }

/-- pjsua gives no handle that is in use. -/
def new (s : Pools) (initSize incrementSize handle : ℕ) : Option Pools :=
  match PjsuaMemoryPool.new (fun _ _ _ => handle) initSize incrementSize with
  | none => some s
  | some pool =>
    if s.alive pool.pjsuaPool then none
    else some { s with alive := Function.update s.alive pool.pjsuaPool true }

def alloc (s : Pools) (profile : Profile) (pool : PjsuaMemoryPool) (elem : ℕ) (value : Raw elem)
    (objectsCount start : ℕ) : Option Pools :=
  match @PjsuaMemoryPool.alloc (Raw elem) (.raw elem) ⟨value⟩ (pjPoolCallocAt start) pool profile
    s.memory objectsCount with
  | .ok (buffer, memory) => some (s.hold memory ⟨pool.pjsuaPool, elem, false, buffer⟩)
  | .error _ => none

/-- An assignment through the borrow; without an element it panics. -/
def asMut (s : Pools) (b : ℕ) (value : List UInt8) : Option Pools :=
  (s.buffer b).bind fun allocated =>
    if allocated.isString = false ∧ value.length = allocated.elem then
      (allocated.buffer.asMut (.raw allocated.elem)).map fun element =>
        { s with memory := s.memory.write element value }
    else none

def allocString (s : Pools) (profile : Profile) (pool : PjsuaMemoryPool) (string : List UInt8)
    (start : ℕ) : Option Pools :=
  (PjString.alloc (pjPoolCallocAt start) pool profile s.memory string).map fun (pjString, memory) =>
    s.hold memory ⟨pool.pjsuaPool, 1, true, ⟨⟨pjString.ptr, pjString.slen⟩, pjString.slen⟩⟩

/-- One event; `none` where it cannot happen or panics. -/
def step (profile : Profile) (s : Pools) : PoolsEvent → Option Pools
  | .new initSize incrementSize handle => s.new initSize incrementSize handle
  | .alloc pool elem value objectsCount start =>
    if s.alive pool.pjsuaPool = true ∧ start + objectsCount * elem < 2 ^ 64 ∧
        s.Free ⟨start, objectsCount * elem⟩ then
      s.alloc profile pool elem value objectsCount start
    else none
  | .asMut b value => s.asMut b value
  | .allocString pool string start =>
    if s.alive pool.pjsuaPool = true ∧ start + (string.length + 1) < 2 ^ 64 ∧
        s.Free ⟨start, string.length + 1⟩ then
      s.allocString profile pool string start
    else none
  | .foreign address bytes =>
    if s.Free ⟨address, bytes.length⟩ then some { s with memory := s.memory.write address bytes }
    else none
  | .drop handle =>
    if s.alive handle then
      some { s with
        alive := Function.update s.alive handle false
        buffer := fun b => (s.buffer b).filter fun allocated => decide (allocated.pool ≠ handle) }
    else none

end Pools

/-- The memory pools of a process. -/
def poolsSystem (profile : Profile) : System Pools PoolsEvent := ⟨Pools.step profile⟩

/-! ### What is to be held -/

/-- What a buffer or a string should hold. -/
structure Content where
  pool : ℕ
  elem : ℕ
  isString : Bool
  bytes : List UInt8
  deriving DecidableEq

/-- The first element becomes another value. -/
def Content.assign (content : Content) (value : List UInt8) : Content :=
  { content with bytes := value ++ content.bytes.drop content.elem }

structure Contents where
  alive : ℕ → Bool
  made : ℕ
  content : ℕ → Option Content

namespace Contents

def start : Contents := ⟨fun _ => false, 0, fun _ => none⟩

def hold (c : Contents) (content : Content) : Contents :=
  { c with made := c.made + 1, content := Function.update c.content c.made (some content) }

/-- A buffer holds its default and then zeros; a write through it replaces its first element. A
string holds its bytes and a zero, and nothing replaces them. -/
def step (c : Contents) : PoolsEvent → Option Contents
  | .new _ _ handle =>
    if handle = 0 then some c
    else if c.alive handle then none
    else some { c with alive := Function.update c.alive handle true }
  | .alloc pool elem value objectsCount _ =>
    if c.alive pool.pjsuaPool then
      some (c.hold ⟨pool.pjsuaPool, elem, false,
        value.1 ++ List.replicate (objectsCount * elem - elem) 0⟩)
    else none
  | .asMut b value =>
    (c.content b).bind fun content =>
      if content.isString = false ∧ value.length = content.elem ∧ content.bytes ≠ [] then
        some { c with content := Function.update c.content b (some (content.assign value)) }
      else none
  | .allocString pool string _ =>
    if c.alive pool.pjsuaPool then some (c.hold ⟨pool.pjsuaPool, 1, true, string ++ [0]⟩) else none
  | .foreign _ _ => some c
  | .drop handle =>
    if c.alive handle then
      some { c with
        alive := Function.update c.alive handle false
        content := fun b => (c.content b).filter fun content => decide (content.pool ≠ handle) }
    else none

end Contents

/-- What the buffers and the strings should hold, without a memory. -/
def contentsSystem : System Contents PoolsEvent := ⟨Contents.step⟩

/-- A buffer with at least one element. -/
def PoolsEvent.AsksSome : PoolsEvent → Prop
  | .alloc _ _ _ objectsCount _ => 1 ≤ objectsCount
  | _ => True

/-! ### How they go together -/

/-- What the memory holds for a buffer or a string. -/
def Allocated.content (allocated : Allocated) (memory : Memory) : Content where
  pool := allocated.pool
  elem := allocated.elem
  isString := allocated.isString
  bytes := allocated.region.read memory

namespace Pools

variable {profile : Profile} {s t : Pools} {c : Contents} {e : PoolsEvent}

def content (s : Pools) (b : ℕ) : Option Content :=
  (s.buffer b).map fun allocated => allocated.content s.memory

/-- No two buffers share a byte, and the slice of each has as many elements as it has bytes. -/
structure Placed (s : Pools) : Prop where
  made : ∀ b, s.made ≤ b → s.buffer b = none
  apart : ∀ b d allocated other, b ≠ d → s.buffer b = some allocated → s.buffer d = some other →
    allocated.region.Apart other.region
  fits : ∀ b allocated, s.buffer b = some allocated →
    allocated.region.start + allocated.region.size < 2 ^ 64 ∧
      allocated.buffer.poolBuffer.length = allocated.region.size

structure Refines (s : Pools) (c : Contents) : Prop where
  placed : s.Placed
  alive : s.alive = c.alive
  made : s.made = c.made
  content : ∀ b, s.content b = c.content b

theorem refines_start (memory : Memory) : (start memory).Refines .start :=
  ⟨⟨fun _ _ => rfl, fun _ _ _ _ _ none => by simp [start] at none,
    fun _ _ none => by simp [start] at none⟩, rfl, rfl, fun _ => rfl⟩

theorem Placed.known (placed : s.Placed) {b : ℕ} {allocated : Allocated}
    (has : s.buffer b = some allocated) : b < s.made := by
  by_contra late
  simp [placed.made b (by omega)] at has

/-- What is free is apart from every buffer. -/
theorem Placed.apart_of_free (placed : s.Placed) {region : Region} (free : s.Free region) {b : ℕ}
    {allocated : Allocated} (has : s.buffer b = some allocated) : allocated.region.Apart region :=
  (free b (placed.known has) allocated has).symm

/-- The memory was written in this region only. -/
def OnlyWrote (memory : Memory) (region : Region) (after : Memory) : Prop :=
  ∀ other : Region, other.Apart region → other.read after = other.read memory

theorem onlyWrote_write (memory : Memory) {region : Region} {address : ℕ} {bytes : List UInt8}
    (lower : region.start ≤ address) (upper : address + bytes.length ≤ region.start + region.size) :
    OnlyWrote memory region (memory.write address bytes) :=
  fun _ apart => Region.read_write_apart (apart.within lower upper) memory

theorem OnlyWrote.trans {memory middle after : Memory} {region : Region}
    (first : OnlyWrote memory region middle) (second : OnlyWrote middle region after) :
    OnlyWrote memory region after :=
  fun other apart => (second other apart).trans (first other apart)

theorem OnlyWrote.content {memory after : Memory} {region : Region} {allocated : Allocated}
    (wrote : OnlyWrote memory region after) (apart : allocated.region.Apart region) :
    allocated.content after = allocated.content memory := by
  unfold Allocated.content
  rw [wrote allocated.region apart]

theorem content_of_buffer {b : ℕ} {allocated : Allocated} (has : s.buffer b = some allocated) :
    s.content b = some (allocated.content s.memory) := by
  rw [Pools.content, has]
  rfl

/-- A buffer whose bytes were not written holds what it did. -/
theorem content_congr {b : ℕ} (same : t.buffer b = s.buffer b)
    (kept : ∀ allocated, s.buffer b = some allocated →
      allocated.content t.memory = allocated.content s.memory) : t.content b = s.content b := by
  unfold Pools.content
  rw [same]
  exact Option.map_congr fun allocated has => kept allocated has

/-- **A new buffer** takes bytes that nobody has, and nothing else is written. -/
theorem Refines.hold {memory : Memory} {allocated : Allocated} (refines : s.Refines c)
    (free : s.Free allocated.region) (wrote : OnlyWrote s.memory allocated.region memory)
    (fits : allocated.region.start + allocated.region.size < 2 ^ 64 ∧
      allocated.buffer.poolBuffer.length = allocated.region.size) :
    (s.hold memory allocated).Refines (c.hold (allocated.content memory)) := by
  have new : (s.hold memory allocated).buffer s.made = some allocated := Function.update_self _ _ _
  have old : ∀ b, b ≠ s.made → (s.hold memory allocated).buffer b = s.buffer b :=
    fun b other => Function.update_of_ne other _ _
  refine ⟨⟨?_, ?_, ?_⟩, refines.alive, ?_, ?_⟩
  · intro b late
    have later : s.made + 1 ≤ b := late
    rw [old b (by omega)]
    exact refines.placed.made b (by omega)
  · intro b d first second different hasFirst hasSecond
    by_cases firstNew : b = s.made
    · have secondOld : d ≠ s.made := fun same => different (firstNew.trans same.symm)
      rw [firstNew, new, Option.some.injEq] at hasFirst
      rw [old d secondOld] at hasSecond
      exact hasFirst ▸ (refines.placed.apart_of_free free hasSecond).symm
    · rw [old b firstNew] at hasFirst
      by_cases secondNew : d = s.made
      · rw [secondNew, new, Option.some.injEq] at hasSecond
        exact hasSecond ▸ refines.placed.apart_of_free free hasFirst
      · rw [old d secondNew] at hasSecond
        exact refines.placed.apart b d first second different hasFirst hasSecond
  · intro b other has
    by_cases isNew : b = s.made
    · rw [isNew, new, Option.some.injEq] at has
      exact has ▸ fits
    · rw [old b isNew] at has
      exact refines.placed.fits b other has
  · simp [Pools.hold, Contents.hold, refines.made]
  · intro b
    by_cases isNew : b = s.made
    · rw [isNew, content_of_buffer new]
      simp [Contents.hold, Pools.hold, refines.made]
    · have kept : (c.hold (allocated.content memory)).content b = s.content b := by
        simp [Contents.hold, ← refines.made, isNew, refines.content b]
      rw [kept]
      exact content_congr (old b isNew) fun other has =>
        wrote.content (refines.placed.apart_of_free free has)

/-! ### One event -/

/-- The memory with the zeros of `pj_pool_calloc`, and a value over the first of them. -/
def withBuffer (memory : Memory) (start size : ℕ) (value : List UInt8) : Memory :=
  (memory.write start (List.replicate size 0)).write start value

/-- What stands there is the value, and the zeros that are left. -/
theorem read_withBuffer (memory : Memory) (start : ℕ) {size : ℕ} {value : List UInt8}
    (room : value.length ≤ size) :
    Region.read ⟨start, size⟩ (withBuffer memory start size value) =
      value ++ List.replicate (size - value.length) 0 := by
  have zeros : Region.read ⟨start, size⟩ (memory.write start (List.replicate size 0)) =
      List.replicate size 0 := Region.read_zeroed (zeroed_writeBytes_zeros memory start size)
  refine (Region.read_write_start room _).trans ?_
  rw [zeros, List.drop_replicate]

theorem onlyWrote_withBuffer (memory : Memory) (start : ℕ) {size : ℕ} {value : List UInt8}
    (room : value.length ≤ size) :
    OnlyWrote memory ⟨start, size⟩ (withBuffer memory start size value) := by
  have zeros : OnlyWrote memory ⟨start, size⟩ (memory.write start (List.replicate size 0)) :=
    onlyWrote_write memory le_rfl (by simp)
  exact zeros.trans (onlyWrote_write _ le_rfl (Nat.add_le_add_left room start))

theorem alloc_eq_hold (profile : Profile) (pool : PjsuaMemoryPool) {elem : ℕ} (value : Raw elem)
    {objectsCount start : ℕ} (fits : start + objectsCount * elem < 2 ^ 64) :
    s.alloc profile pool elem value objectsCount start =
      some (s.hold (withBuffer s.memory start (objectsCount * elem) value.1)
        ⟨pool.pjsuaPool, elem, false, ⟨⟨start, objectsCount * elem⟩, objectsCount⟩⟩) := by
  have allocated := @alloc_eq (Raw elem) (.raw elem) ⟨value⟩ start objectsCount _
    (pjPoolCallocAt start) pool s.memory profile rfl (granted_pjPoolCallocAt start s.memory fits)
  unfold alloc
  rw [allocated]
  rfl

/-- **A buffer is made.** -/
theorem Refines.alloc (refines : s.Refines c) (profile : Profile) (pool : PjsuaMemoryPool) {elem : ℕ}
    (value : Raw elem) {objectsCount start : ℕ} (asksSome : 1 ≤ objectsCount)
    (fits : start + objectsCount * elem < 2 ^ 64) (free : s.Free ⟨start, objectsCount * elem⟩)
    (allocated : s.alloc profile pool elem value objectsCount start = some t) :
    t.Refines (c.hold ⟨pool.pjsuaPool, elem, false,
      value.1 ++ List.replicate (objectsCount * elem - elem) 0⟩) := by
  rw [alloc_eq_hold profile pool value fits] at allocated
  cases allocated
  have room : value.1.length ≤ objectsCount * elem :=
    value.2.symm ▸ Nat.le_mul_of_pos_left elem asksSome
  have held := read_withBuffer s.memory start room
  rw [value.2] at held
  rw [← held]
  exact refines.hold free (onlyWrote_withBuffer s.memory start room) ⟨fits, rfl⟩

/-- The default of a byte is a zero again, and the bytes of the string are put over it. -/
theorem allocString_eq_hold (profile : Profile) (pool : PjsuaMemoryPool) (string : List UInt8)
    {start : ℕ} (fits : start + (string.length + 1) < 2 ^ 64) :
    s.allocString profile pool string start =
      some (s.hold ((withBuffer s.memory start (string.length + 1) [0]).write start string)
        ⟨pool.pjsuaPool, 1, true, ⟨⟨start, string.length + 1⟩, string.length + 1⟩⟩) := by
  have given : pool.alloc Layout.u8 (pjPoolCallocAt start) profile s.memory (string.length + 1) =
      .ok (⟨⟨start, (string.length + 1) * 1⟩, string.length + 1⟩, _) :=
    alloc_eq profile rfl (granted_pjPoolCallocAt start s.memory (by simpa using fits))
  have first : PoolBuffer.asMut Layout.u8
      ⟨⟨start, (string.length + 1) * 1⟩, string.length + 1⟩ = some start :=
    (Slice.get_eq_some Layout.u8).mpr ⟨Nat.succ_pos _, Layout.u8.element_zero start⟩
  unfold allocString PjString.alloc
  simp only [given, Except.toOption, Option.bind_eq_bind, Option.bind_some, first]
  simp only [Layout.u8_size, Nat.mul_one]
  rfl

/-- **A string is made.** -/
theorem Refines.allocString (refines : s.Refines c) (profile : Profile) (pool : PjsuaMemoryPool)
    {string : List UInt8} {start : ℕ} (fits : start + (string.length + 1) < 2 ^ 64)
    (free : s.Free ⟨start, string.length + 1⟩)
    (allocated : s.allocString profile pool string start = some t) :
    t.Refines (c.hold ⟨pool.pjsuaPool, 1, true, string ++ [0]⟩) := by
  rw [allocString_eq_hold profile pool string fits] at allocated
  cases allocated
  have region : Allocated.region
      ⟨pool.pjsuaPool, 1, true, ⟨⟨start, string.length + 1⟩, string.length + 1⟩⟩ =
        ⟨start, string.length + 1⟩ := by
    simp [Allocated.region, PoolBuffer.len]
  have zeros : Region.read ⟨start, string.length + 1⟩
      (withBuffer s.memory start (string.length + 1) [0]) =
        [0] ++ List.replicate (string.length + 1 - [(0 : UInt8)].length) 0 :=
    read_withBuffer s.memory start (by simp)
  have held : Region.read ⟨start, string.length + 1⟩
      ((withBuffer s.memory start (string.length + 1) [0]).write start string) = string ++ [0] := by
    refine (Region.read_write_start (by simp) _).trans ?_
    rw [zeros, ← List.replicate_one, ← List.replicate_add, List.drop_replicate]
    simp
  have content : Allocated.content
      ⟨pool.pjsuaPool, 1, true, ⟨⟨start, string.length + 1⟩, string.length + 1⟩⟩
        ((withBuffer s.memory start (string.length + 1) [0]).write start string) =
      ⟨pool.pjsuaPool, 1, true, string ++ [0]⟩ := by
    rw [Allocated.content, region, held]
  rw [← content]
  refine refines.hold (region ▸ free) ?_ (by rw [region]; exact ⟨fits, rfl⟩)
  rw [region]
  exact (onlyWrote_withBuffer s.memory start (by simp)).trans (onlyWrote_write _ le_rfl (by simp))

/-- **A value is assigned**: only the first element of the buffer is written. -/
theorem Refines.asMut (refines : s.Refines c) {b : ℕ} {value : List UInt8}
    (assigned : s.asMut b value = some t) :
    ∃ d, c.step (.asMut b value) = some d ∧ t.Refines d := by
  obtain ⟨allocated, has, given⟩ := Option.bind_eq_some_iff.mp assigned
  obtain ⟨⟨isBuffer, size⟩, given⟩ := Option.ite_none_right_eq_some.mp given
  obtain ⟨element, got, rfl⟩ := Option.map_eq_some_iff.mp given
  obtain ⟨inside, rfl⟩ := (Slice.get_eq_some _).mp got
  rw [Layout.element_zero]
  have filled : 0 < allocated.region.size := (refines.placed.fits b allocated has).2 ▸ inside
  have several : 0 < allocated.buffer.len := Nat.pos_of_mul_pos_right filled
  have room : value.length ≤ allocated.region.size :=
    size.trans_le (Nat.le_mul_of_pos_left allocated.elem several)
  have wrote : OnlyWrote s.memory allocated.region
      (s.memory.write allocated.buffer.poolBuffer.start value) :=
    onlyWrote_write s.memory le_rfl (Nat.add_le_add_left room _)
  have written : allocated.content (s.memory.write allocated.buffer.poolBuffer.start value) =
      (allocated.content s.memory).assign value := by
    have read : allocated.region.read (s.memory.write allocated.buffer.poolBuffer.start value) = _ :=
      Region.read_write_start room s.memory
    rw [size] at read
    rw [Allocated.content, read]
    rfl
  have held : c.content b = some (allocated.content s.memory) := by
    rw [← refines.content b, content_of_buffer has]
  have more : allocated.region.read s.memory ≠ [] := by
    intro none
    have length := allocated.region.length_read s.memory
    simp [none] at length
    omega
  refine ⟨{ c with
      content := Function.update c.content b (some ((allocated.content s.memory).assign value)) },
    ?_, ⟨refines.placed.made, refines.placed.apart, refines.placed.fits⟩, refines.alive, refines.made,
    fun d => ?_⟩
  · have meets : (allocated.content s.memory).isString = false ∧
        value.length = (allocated.content s.memory).elem ∧
          (allocated.content s.memory).bytes ≠ [] := ⟨isBuffer, size, more⟩
    simp only [Contents.step, held, Option.bind_some, if_pos meets]
  · show _ = Function.update c.content b (some ((allocated.content s.memory).assign value)) d
    by_cases same : d = b
    · rw [same, Function.update_self, ← written]
      exact content_of_buffer has
    · rw [Function.update_of_ne same, ← refines.content d]
      exact content_congr rfl fun other hasOther =>
        wrote.content (refines.placed.apart d b other allocated same hasOther has)

/-- **Others write elsewhere.** -/
theorem Refines.foreign (refines : s.Refines c) {address : ℕ} {bytes : List UInt8}
    (free : s.Free ⟨address, bytes.length⟩) :
    { s with memory := s.memory.write address bytes }.Refines c := by
  have wrote : OnlyWrote s.memory ⟨address, bytes.length⟩ (s.memory.write address bytes) :=
    onlyWrote_write s.memory le_rfl le_rfl
  refine ⟨⟨refines.placed.made, refines.placed.apart, refines.placed.fits⟩, refines.alive,
    refines.made, fun b => ?_⟩
  rw [← refines.content b]
  exact content_congr rfl fun other has => wrote.content (refines.placed.apart_of_free free has)

/-- **A pool is dropped.** -/
theorem Refines.drop (refines : s.Refines c) (handle : ℕ) :
    { s with
      alive := Function.update s.alive handle false
      buffer := fun b => (s.buffer b).filter fun allocated =>
        decide (allocated.pool ≠ handle) }.Refines
      { c with
        alive := Function.update c.alive handle false
        content := fun b =>
          (c.content b).filter fun content => decide (content.pool ≠ handle) } := by
  have was : ∀ b allocated, ((s.buffer b).filter fun other => decide (other.pool ≠ handle)) =
      some allocated → s.buffer b = some allocated := fun b allocated has =>
    (Option.filter_eq_some_iff.mp has).1
  refine ⟨⟨?_, ?_, ?_⟩, ?_, refines.made, ?_⟩
  · intro b late
    simp [refines.placed.made b late]
  · exact fun b d first second different hasFirst hasSecond =>
      refines.placed.apart b d first second different (was b first hasFirst) (was d second hasSecond)
  · exact fun b allocated has => refines.placed.fits b allocated (was b allocated has)
  · rw [refines.alive]
  · intro b
    show (Option.filter _ (s.buffer b)).map _ = Option.filter _ (c.content b)
    rw [← refines.content b, Pools.content, Option.filter_map]
    rfl

/-- **A pool is made**, if pjsua gives one. -/
theorem Refines.new (refines : s.Refines c) {initSize incrementSize handle : ℕ}
    (made : s.new initSize incrementSize handle = some t) :
    ∃ d, c.step (.new initSize incrementSize handle) = some d ∧ t.Refines d := by
  by_cases null : handle = 0
  · simp only [Pools.new, PjsuaMemoryPool.new, null, dite_true, Option.some.injEq] at made
    subst made
    exact ⟨c, by simp [Contents.step, null], refines⟩
  · simp only [Pools.new, PjsuaMemoryPool.new, null, dite_false] at made
    obtain ⟨unused, same⟩ := Option.ite_none_left_eq_some.mp made
    cases same
    have unusedThere : ¬ c.alive handle = true := refines.alive ▸ unused
    refine ⟨{ c with alive := Function.update c.alive handle true }, ?_,
      ⟨refines.placed.made, refines.placed.apart, refines.placed.fits⟩, ?_, refines.made,
      refines.content⟩
    · simp [Contents.step, null, unusedThere]
    · rw [refines.alive]

/-- **One event** does to the memory what it should do to the contents. -/
theorem Refines.step (refines : s.Refines c) (asksSome : e.AsksSome)
    (stepped : s.step profile e = some t) : ∃ d, c.step e = some d ∧ t.Refines d := by
  cases e with
  | new initSize incrementSize handle => exact refines.new stepped
  | alloc pool elem value objectsCount start =>
    obtain ⟨⟨alive, fits, free⟩, allocated⟩ := Option.ite_none_right_eq_some.mp stepped
    exact ⟨_, if_pos (refines.alive ▸ alive),
      refines.alloc profile pool value asksSome fits free allocated⟩
  | asMut b value => exact refines.asMut stepped
  | allocString pool string start =>
    obtain ⟨⟨alive, fits, free⟩, allocated⟩ := Option.ite_none_right_eq_some.mp stepped
    exact ⟨_, if_pos (refines.alive ▸ alive), refines.allocString profile pool fits free allocated⟩
  | foreign address bytes =>
    obtain ⟨free, same⟩ := Option.ite_none_right_eq_some.mp stepped
    cases same
    exact ⟨c, rfl, refines.foreign free⟩
  | drop handle =>
    obtain ⟨alive, same⟩ := Option.ite_none_right_eq_some.mp stepped
    cases same
    exact ⟨_, if_pos (refines.alive ▸ alive), refines.drop handle⟩

/-- The run of the contents beside a run of the memory. -/
theorem refines_run (profile : Profile) (memory : Memory) {es : List PoolsEvent}
    (asksSome : ∀ e ∈ es, e.AsksSome) (ran : (poolsSystem profile).run (start memory) es = some s) :
    ∃ c, contentsSystem.run .start es = some c ∧ s.Refines c :=
  (poolsSystem profile).run_simulates contentsSystem
    (fun _ _ _ _ refines (some : PoolsEvent.AsksSome _) stepped => refines.step some stepped)
    asksSome (refines_start memory) ran

end Pools

/-- **The pools refine their contents**: in a run in which each buffer is asked for with at least one
element, the memory holds for each buffer and string what it should at the end. -/
theorem pools_refine (profile : Profile) (memory : Memory) {es : List PoolsEvent} {s : Pools}
    (asksSome : ∀ e ∈ es, e.AsksSome)
    (ran : (poolsSystem profile).run (.start memory) es = some s) :
    ∃ c, contentsSystem.run .start es = some c ∧ s.content = c.content := by
  obtain ⟨c, followed, refines⟩ := Pools.refines_run profile memory asksSome ran
  exact ⟨c, followed, funext refines.content⟩

/-- A string is made and a buffer of two elements, to whose first one a value is assigned; a second
string is made in another pool, which is dropped. -/
def twoPools : List PoolsEvent :=
  [.new 0 0 1, .allocString ⟨1, one_ne_zero⟩ [104, 105] 64,
    .alloc ⟨1, one_ne_zero⟩ 2 ⟨[1, 2], rfl⟩ 2 67, .asMut 1 [3, 4], .new 0 0 2,
    .allocString ⟨2, two_ne_zero⟩ [106] 128, .foreign 71 [9], .drop 2]

theorem pools_refine_twoPools :
    ∃ s, (poolsSystem .checked).run (.start fun _ => 255) twoPools = some s ∧
      ∃ c, contentsSystem.run .start twoPools = some c ∧ s.content = c.content := by
  refine ⟨_, rfl, pools_refine .checked (fun _ => 255) (fun e member => ?_)
    (rfl : (poolsSystem .checked).run (.start fun _ => 255) twoPools = some _)⟩
  simp only [twoPools, List.mem_cons, List.not_mem_nil, or_false] at member
  rcases member with rfl | rfl | rfl | rfl | rfl | rfl | rfl | rfl <;> simp [PoolsEvent.AsksSome]

end PjsipClient
