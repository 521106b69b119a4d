import NativeEvm.Word
import Mathlib.Logic.Function.Basic

/-!
# Frame — the shared control block and the planes it points to

`MessageFrameMemory` is a byte-exact header whose plane offsets point into the same shared
region.  The model keeps the header fields the interpreters read or write, and each plane as a
field of its own: the stack plane as slot-indexed words (slot `i` sits at
`stack_ptr + 32 * i`, and slots at or above `stack_size` are scratch that the handlers may
leave behind), the memory plane as a byte function, the code plane as a byte list read through
`code[i]`, and the storage plane as its `storage_slot_count` live entries.  Keeping the planes
apart is the layout precondition: they do not overlap.

Besides the frame, this file holds what both interpreters share verbatim: the handler result
`OpResult`, the tracer's `OperationResult`, the two stack-helper sets (`stack_top` /
`stack_alloc` / `stack_free` of `evm_optimized`, `stack_peek` / `stack_push` / `stack_pop` of
`evm_jumptable`) and `ensure_memory`.
-/

namespace NativeEvm

/-- One entry of the storage plane (`StorageEntry`; its 7 padding bytes are left out). -/
structure StorageEntry where
  address : Address
  key : Word
  value : Word
  original : Word
  isWarm : UInt8
  deriving DecidableEq

/-- The control block (`MessageFrameMemory`) with its planes.  Integer fields are `Int` where
the header declares them signed (`pc`, `gas_remaining`, `gas_refund`), `UInt32` for `code_size`,
whose 32-bit range the loop test depends on, and `Nat` otherwise. -/
@[ext] structure Frame where
  pc : Int
  gasRemaining : Int
  gasRefund : Int
  stackSize : Nat
  memorySize : Nat
  state : Nat
  isStatic : Nat
  codeSize : UInt32
  contract : Address
  haltReason : Nat
  maxStorageSlots : Nat
  /-- The stack plane, slot by slot. -/
  stack : Nat → Word
  /-- The memory plane, byte by byte. -/
  memory : Nat → UInt8
  /-- The code plane. -/
  code : List UInt8
  /-- The live storage entries `entries[0, storage_slot_count)`. -/
  storage : List StorageEntry

/-- `{pc_increment, gas_cost}` returned by every handler; a negative increment is an error. -/
structure OpResult where
  pcIncrement : Int
  gasCost : Int
  deriving DecidableEq

/-- The record handed to `trace_post_execution`. -/
structure OperationResult where
  gasCost : Int
  haltReason : Nat
  pcIncrement : Int
  deriving DecidableEq

/-- One upcall into the host tracer, with the frame it observes. -/
inductive TraceEvent where
  | pre (frame : Frame)
  | post (frame : Frame) (result : OperationResult)

/-- Whether an upcall is `trace_pre_execution`. -/
@[simp] def TraceEvent.isPre : TraceEvent → Bool
  | .pre _ => true
  | .post _ _ => false

/-- The frame an upcall observes. -/
@[simp] def TraceEvent.frame : TraceEvent → Frame
  | .pre f => f
  | .post f _ => f

/-- `static_cast<int32_t>` of a 32-bit unsigned value. -/
def toInt32 (n : Nat) : Int := if n < 2 ^ 31 then n else (n : Int) - 2 ^ 32

/-- `a += b` on an `int32_t`: the sum taken modulo `2^32` into `[-2^31, 2^31)`. -/
def addInt32 (a b : Int) : Int := toInt32 ((a + b) % 2 ^ 32).toNat

/-- Within the `int32_t` range the sum does not wrap. -/
theorem addInt32_of_lt {a b : Int} (h0 : -2 ^ 31 ≤ a + b) (h1 : a + b < 2 ^ 31) :
    addInt32 a b = a + b := by
  unfold addInt32 toInt32
  split_ifs <;> omega

/-- The integer `value` converted to `uint64_t` (as `u64_to_word(frame->pc, …)` does). -/
def toU64 (value : Int) : Nat := (value % 2 ^ 64).toNat

namespace Frame

variable (f : Frame)

/-- `storage_slot_count`. -/
def storageSlotCount : Nat := f.storage.length

/-- `ctx->code[i]`; a position outside the code plane reads as `0`. -/
def codeAt (i : Int) : UInt8 := if 0 ≤ i then f.code.getD i.toNat 0 else 0

/-- A byte that is not in the code, and is not the 0 read past its end, is never fetched. -/
theorem codeAt_ne {b : UInt8} (hb : b ∉ f.code) (h0 : b ≠ 0) (i : Int) : f.codeAt i ≠ b := by
  unfold codeAt
  split
  · rw [List.getD_eq_getElem?_getD]
    cases h : f.code[i.toNat]? with
    | none => exact h0.symm
    | some x => exact fun hx => hb (hx ▸ List.getElem?_mem h)
  · exact h0.symm

/-- `state = 4; halt_reason = reason`: EXCEPTIONAL_HALT with the given reason. -/
@[simp] def halt (reason : Nat) : Frame := { f with state := 4, haltReason := reason }

/-- Write the stack slot `slot`. -/
@[simp] def setStack (slot : Nat) (w : Word) : Frame := { f with stack := Function.update f.stack slot w }

/-- `memcpy(word, memory_base + offset, 32)`. -/
def loadWord (offset : Nat) : Word := Bytes.ofFn 32 fun i => f.memory (offset + i)

/-- `memcpy(memory_base + offset, bytes, len)`. -/
@[simp] def writeMemory (offset : Nat) (bytes : List UInt8) : Frame :=
  { f with memory := fun j =>
      if offset ≤ j ∧ j < offset + bytes.length then bytes.getD (j - offset) 0 else f.memory j }

/-- `dest < code_size && code[dest] == 0x5b`, the test of both `op_jump` handlers. -/
def validJumpDest (dest : Nat) : Bool := dest < f.codeSize.toNat && f.codeAt dest == 0x5b

/-- The word both `op_push_n` handlers build at `pc`: zeroed, then
`bytes_to_copy = min(n, (int)(code_size - pc - 1))` code bytes from `pc + 1` copied into its
last `bytes_to_copy` positions. -/
def pushWord (n : Nat) : Word :=
  let bytesToCopy := min (n : Int) (toInt32 ((f.codeSize.toNat - f.pc - 1) % 2 ^ 32).toNat)
  if 0 < bytesToCopy then
    let k := bytesToCopy.toNat
    Bytes.ofFn 32 fun i => if 32 - k ≤ i then f.codeAt (f.pc + 1 + (i - (32 - k) : Nat)) else 0
  else Bytes.zero 32

end Frame

/-! ## 1. The stack helpers of `evm_optimized` -/

/-- `stack_top(ctx, offset)`: the slot `offset` below the top, if the stack holds it. -/
def stackTop (f : Frame) (offset : Nat) : Option Nat :=
  if offset < f.stackSize then some (f.stackSize - 1 - offset) else none

/-- `stack_alloc`: claim the slot above the top, unless 1024 items are already there. -/
def stackAlloc (f : Frame) : Option (Nat × Frame) :=
  if 1024 ≤ f.stackSize then none else some (f.stackSize, { f with stackSize := f.stackSize + 1 })

/-- `stack_free(ctx, count)`: drop `count` items, or fail leaving the stack as it is. -/
def stackFree (f : Frame) (count : Nat) : Bool × Frame :=
  if f.stackSize < count then (false, f) else (true, { f with stackSize := f.stackSize - count })

theorem stackTop_eq_some {f : Frame} {offset slot : Nat} :
    stackTop f offset = some slot ↔ offset < f.stackSize ∧ slot = f.stackSize - 1 - offset := by
  unfold stackTop; split <;> simp_all [eq_comm]

theorem stackTop_of_lt {f : Frame} {offset : Nat} (h : offset < f.stackSize) :
    stackTop f offset = some (f.stackSize - 1 - offset) := if_pos h

theorem stackTop_of_le {f : Frame} {offset : Nat} (h : f.stackSize ≤ offset) :
    stackTop f offset = none := if_neg (by omega)

theorem stackAlloc_of_lt {f : Frame} (h : f.stackSize < 1024) :
    stackAlloc f = some (f.stackSize, { f with stackSize := f.stackSize + 1 }) := if_neg (by omega)

theorem stackAlloc_of_le {f : Frame} (h : 1024 ≤ f.stackSize) : stackAlloc f = none := if_pos h

@[simp] theorem stackFree_snd (f : Frame) (count : Nat) :
    (stackFree f count).2 =
      { f with stackSize := if f.stackSize < count then f.stackSize else f.stackSize - count } := by
  unfold stackFree; split <;> rfl

/-! ## 2. The stack helpers of `evm_jumptable` -/

/-- `stack_peek`, the same lookup as `stack_top`. -/
def stackPeek (f : Frame) (offset : Nat) : Option Nat := stackTop f offset

/-- `stack_push`: copy `value` into the slot above the top, unless 1024 items are there. -/
def stackPush (f : Frame) (value : Word) : Bool × Frame :=
  if 1024 ≤ f.stackSize then (false, f)
  else (true, { f.setStack f.stackSize value with stackSize := f.stackSize + 1 })

/-- `stack_pop`: copy out the top item and drop it, or fail on an empty stack. -/
def stackPop (f : Frame) : Option (Word × Frame) :=
  if f.stackSize = 0 then none
  else some (f.stack (f.stackSize - 1), { f with stackSize := f.stackSize - 1 })

theorem stackPush_of_lt {f : Frame} {value : Word} (h : f.stackSize < 1024) :
    stackPush f value = (true, { f.setStack f.stackSize value with stackSize := f.stackSize + 1 }) :=
  if_neg (by omega)

theorem stackPush_of_le {f : Frame} {value : Word} (h : 1024 ≤ f.stackSize) :
    stackPush f value = (false, f) := if_pos h

theorem stackPop_of_pos {f : Frame} (h : 0 < f.stackSize) :
    stackPop f = some (f.stack (f.stackSize - 1), { f with stackSize := f.stackSize - 1 }) :=
  if_neg (by omega)

theorem stackPop_of_zero {f : Frame} (h : f.stackSize = 0) : stackPop f = none := if_pos h

/-! ## 3. Memory growth -/

/-- The memory ceiling of both builds, `1024 * 1024` bytes. -/
def memoryLimit : Nat := 1024 * 1024

/-- `ensure_memory(offset, size)` for `uint32_t` arguments: grow memory to the next multiple of 32
covering `[offset, offset + size)`, zero-filling the new bytes.  The rounded size is computed in
64 bits and stored into a `uint32_t new_size`, hence the `% 2^32`. -/
def ensureMemory (f : Frame) (offset size : Nat) : Bool × Frame :=
  if size = 0 then (true, f)
  else
    let required := offset + size
    if f.memorySize < required then
      let newSize := (required + 31) / 32 * 32 % 2 ^ 32
      if memoryLimit < newSize then (false, f)
      else if f.memorySize < newSize then
        (true, { f with
          memory := fun j => if f.memorySize ≤ j ∧ j < newSize then 0 else f.memory j
          memorySize := newSize })
      else (true, f)
    else (true, f)

end NativeEvm
