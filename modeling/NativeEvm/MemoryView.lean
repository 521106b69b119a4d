import NativeEvm.Footprint
import NativeEvm.Switch.Run

/-!
# Memory view — the memory bytes a run can observe

`ensure_memory` zero-fills every byte it adds to memory, and `op_mload` reads only after it has
grown memory over `[offset, offset + 32)`.  So memory past `memory_size` should be invisible: a
run should not depend on what the plane holds there.  The `uint32_t` rounding in `ensure_memory`
breaks this in one place.  An access that ends within 32 bytes of `2^32` rounds to a small
size, so it succeeds without growing memory, and it touches bytes in
`[2^32 - 63, 2^32 + 31)` (`inWrapWindow`) that may lie past `memory_size`.

`SharesMemory` names the bytes a run from `f` may read: those below `memory_size` and those in
the window.  A handler call has its `MemoryFootprint` there.  From a frame whose plane agrees on
those bytes, it returns the same result and a frame that again agrees on the bytes its own frame
may read.  Most handlers never touch memory (`MemoryOblivious`); the three memory handlers of
each interpreter are checked against `ensure_memory` (`ensureMemory_reach`).  Over a run, this
gives `executeMessage_memory_view`: in all three interpreters, two frames that differ only in
memory bytes a run cannot read make the same upcalls and return the same frame, up to such bytes.
-/

namespace NativeEvm

/-! ## 1. Frames that differ only in memory -/

/-- `f` with the memory plane `memory` and the size `memorySize`. -/
def Frame.withMemory (f : Frame) (memory : Nat → UInt8) (memorySize : Nat) : Frame :=
  { f with memory, memorySize }

/-- The bytes past `2^32 - 64` that a 1- or 32-byte access at a `(uint32_t)` offset reaches
when the rounded size `ensure_memory` computes wraps around `2^32`. -/
def inWrapWindow (i : Nat) : Prop := 2 ^ 32 - 63 ≤ i ∧ i < 2 ^ 32 + 31

instance (i : Nat) : Decidable (inWrapWindow i) := inferInstanceAs (Decidable (_ ∧ _))

/-- A memory plane that agrees with `f`'s on every byte a run from `f` may read: below
`memory_size` and in the wrap window. -/
def Frame.SharesMemory (f : Frame) (memory : Nat → UInt8) : Prop :=
  ∀ i, i < f.memorySize ∨ inWrapWindow i → memory i = f.memory i

/-- `f'` is `f` but for memory bytes that `f` may not read. -/
structure Frame.SameMemoryView (f f' : Frame) : Prop where
  planes : f' = f.withMemory f'.memory f.memorySize
  shares : f.SharesMemory f'.memory

/-- A handler that neither reads nor writes memory or `memory_size`. -/
def MemoryOblivious {α : Type} (step : Frame → α × Frame) : Prop :=
  ∀ f memory memorySize,
    step (f.withMemory memory memorySize) = ((step f).1, (step f).2.withMemory memory memorySize)

/-- The memory footprint of the handler call `step` from `f`: from a frame that differs from `f`
only in memory bytes `f` may not read, the call returns the same result, and a frame that differs
from the one it returns from `f` only in bytes that frame may not read. -/
def MemoryFootprint {α : Type} (step : Frame → α × Frame) (f : Frame) : Prop :=
  ∀ f', f.SameMemoryView f' → (step f').1 = (step f).1 ∧ (step f).2.SameMemoryView (step f').2

section Planes

variable {f f' : Frame} {m : Nat → UInt8} {n : Nat}

@[simp] theorem Frame.withMemory_memory : (f.withMemory m n).memory = m := rfl
@[simp] theorem Frame.withMemory_memorySize : (f.withMemory m n).memorySize = n := rfl
@[simp] theorem Frame.withMemory_stack : (f.withMemory m n).stack = f.stack := rfl
@[simp] theorem Frame.withMemory_stackSize : (f.withMemory m n).stackSize = f.stackSize := rfl
@[simp] theorem Frame.withMemory_pc : (f.withMemory m n).pc = f.pc := rfl
@[simp] theorem Frame.withMemory_gasRemaining :
    (f.withMemory m n).gasRemaining = f.gasRemaining := rfl
@[simp] theorem Frame.withMemory_state : (f.withMemory m n).state = f.state := rfl
@[simp] theorem Frame.withMemory_isStatic : (f.withMemory m n).isStatic = f.isStatic := rfl
@[simp] theorem Frame.withMemory_codeSize : (f.withMemory m n).codeSize = f.codeSize := rfl
@[simp] theorem Frame.withMemory_code : (f.withMemory m n).code = f.code := rfl
@[simp] theorem Frame.withMemory_storage : (f.withMemory m n).storage = f.storage := rfl
@[simp] theorem Frame.withMemory_contract : (f.withMemory m n).contract = f.contract := rfl
@[simp] theorem Frame.withMemory_maxStorageSlots :
    (f.withMemory m n).maxStorageSlots = f.maxStorageSlots := rfl
@[simp] theorem Frame.withMemory_self : f.withMemory f.memory f.memorySize = f := rfl

theorem Frame.SameMemoryView.refl (f : Frame) : f.SameMemoryView f := ⟨rfl, fun _ _ => rfl⟩

/-- A frame update that leaves memory alone keeps two frames' view of memory the same. -/
theorem Frame.SameMemoryView.map (φ : Frame → Frame)
    (hφ : ∀ g memory memorySize, φ (g.withMemory memory memorySize) =
      (φ g).withMemory memory memorySize)
    (h : f.SameMemoryView f') : (φ f).SameMemoryView (φ f') := by
  have hself : φ f = (φ f).withMemory f.memory f.memorySize := by
    rw [← hφ, Frame.withMemory_self]
  rw [h.planes, hφ]
  refine ⟨?_, fun i hi => ?_⟩
  · rw [hself]; rfl
  · rw [hself] at hi ⊢
    exact h.shares i hi

/-- A handler that never touches memory has its footprint wherever it is called. -/
theorem MemoryOblivious.footprint {α : Type} {step : Frame → α × Frame}
    (hstep : MemoryOblivious step) (f : Frame) : MemoryFootprint step f := by
  intro f' h
  have hself : (step f).2 = (step f).2.withMemory f.memory f.memorySize := by
    conv_lhs => rw [← Frame.withMemory_self (f := f), hstep]
  rw [h.planes, hstep]
  refine ⟨rfl, ?_, fun i hi => ?_⟩
  · conv_rhs => rw [hself]
    rfl
  · rw [hself] at hi ⊢
    exact h.shares i hi

theorem stackTop_withMemory (offset : Nat) : stackTop (f.withMemory m n) offset = stackTop f offset :=
  rfl

theorem stackAlloc_withMemory :
    stackAlloc (f.withMemory m n) = (stackAlloc f).map fun p => (p.1, p.2.withMemory m n) := by
  simp only [stackAlloc, Frame.withMemory_stackSize]; split_ifs <;> rfl

theorem stackFree_withMemory (count : Nat) :
    stackFree (f.withMemory m n) count =
      ((stackFree f count).1, (stackFree f count).2.withMemory m n) := by
  simp only [stackFree, Frame.withMemory_stackSize]; split_ifs <;> rfl

theorem stackPop_withMemory :
    stackPop (f.withMemory m n) = (stackPop f).map fun p => (p.1, p.2.withMemory m n) := by
  simp only [stackPop, Frame.withMemory_stackSize]; split_ifs <;> rfl

theorem stackPush_withMemory (w : Word) :
    stackPush (f.withMemory m n) w = ((stackPush f w).1, (stackPush f w).2.withMemory m n) := by
  simp only [stackPush, Frame.withMemory_stackSize]; split_ifs <;> rfl

@[simp] theorem Frame.validJumpDest_withMemory (dest : Nat) :
    (f.withMemory m n).validJumpDest dest = f.validJumpDest dest := rfl

@[simp] theorem Frame.codeAt_withMemory (i : Int) : (f.withMemory m n).codeAt i = f.codeAt i := rfl

@[simp] theorem Frame.pushWord_withMemory (k : Nat) :
    (f.withMemory m n).pushWord k = f.pushWord k := rfl

theorem Frame.setStack_withMemory (slot : Nat) (w : Word) :
    (f.withMemory m n).setStack slot w = (f.setStack slot w).withMemory m n := rfl

theorem Frame.halt_withMemory (reason : Nat) :
    (f.withMemory m n).halt reason = (f.halt reason).withMemory m n := rfl

end Planes

/-! ## 2. `ensure_memory`, reads and writes -/

section Access

variable {f f' : Frame}

/-- `ensure_memory` from frames with the same view of memory: the same answer, and frames with
the same view again, since both fill the bytes they add with zeros. -/
theorem ensureMemory_sameMemoryView (h : f.SameMemoryView f') (offset size : Nat) :
    (ensureMemory f' offset size).1 = (ensureMemory f offset size).1 ∧
      (ensureMemory f offset size).2.SameMemoryView (ensureMemory f' offset size).2 := by
  rw [h.planes]
  unfold ensureMemory
  simp only [Frame.withMemory_memorySize]
  split_ifs
  all_goals refine ⟨rfl, rfl, fun i hi => ?_⟩
  all_goals try exact h.shares i hi
  dsimp only [Frame.withMemory_memory] at hi ⊢
  split_ifs with hnew
  · rfl
  · exact h.shares i (hi.imp_left fun _ => by omega)

/-- Where a successful `ensure_memory` of 1 to 32 bytes at a `(uint32_t)` offset lets the access
reach: below the new `memory_size`, or, when the rounded size wraps, into the window. -/
theorem ensureMemory_reach (f : Frame) {offset size : Nat} (hoffset : offset < 2 ^ 32)
    (hsize : size ≤ 32) (hok : (ensureMemory f offset size).1 = true) {i : Nat}
    (hlo : offset ≤ i) (hhi : i < offset + size) :
    i < (ensureMemory f offset size).2.memorySize ∨ inWrapWindow i := by
  simp only [ensureMemory, inWrapWindow] at hok ⊢
  split_ifs at hok ⊢ <;> simp only [Bool.false_eq_true] at hok ⊢ <;> omega

theorem loadWord_congr {g : Frame} {m : Nat → UInt8} (offset : Nat)
    (h : ∀ i, offset ≤ i → i < offset + 32 → m i = g.memory i) (n : Nat) :
    (g.withMemory m n).loadWord offset = g.loadWord offset :=
  Bytes.ofFn_congr fun i hi => h (offset + i) (by omega) (by omega)

/-- Writing the same bytes at the same offset keeps two frames' view of memory the same. -/
theorem writeMemory_sameMemoryView (h : f.SameMemoryView f') (offset : Nat)
    (bytes : List UInt8) :
    (f.writeMemory offset bytes).SameMemoryView (f'.writeMemory offset bytes) := by
  rw [h.planes]
  refine ⟨rfl, fun i hi => ?_⟩
  simp only [Frame.writeMemory, Frame.withMemory_memory]
  split_ifs
  · rfl
  · exact h.shares i hi

/-- The word a 32-byte read sees after a successful `ensure_memory` is the same from frames with
the same view of memory. -/
theorem ensureMemory_loadWord (h : f.SameMemoryView f') {offset : Nat} (hoffset : offset < 2 ^ 32)
    (hok : (ensureMemory f offset 32).1 = true) :
    (ensureMemory f' offset 32).2.loadWord offset = (ensureMemory f offset 32).2.loadWord offset := by
  have hg := (ensureMemory_sameMemoryView h offset 32).2
  rw [hg.planes]
  exact loadWord_congr offset
    (fun i hlo hhi => hg.shares i (ensureMemory_reach f hoffset (by decide) hok hlo hhi)) _

/-- `ensure_memory` of 32 bytes at a `(uint32_t)` offset, then a step `k` of the word read there:
its memory footprint is in the bytes its frame may read. -/
theorem ensureMemory_read_footprint {α : Type} (fail : Frame → α × Frame)
    (k : Word → Frame → α × Frame) (hfail : MemoryOblivious fail)
    (hk : ∀ w, MemoryOblivious (k w)) {offset : Nat} (hoffset : offset < 2 ^ 32) (f : Frame) :
    MemoryFootprint (fun f => match ensureMemory f offset 32 with
      | (false, g) => fail g
      | (true, g) => k (g.loadWord offset) g) f := by
  intro f' h
  obtain ⟨hok, hg⟩ := ensureMemory_sameMemoryView h offset 32
  have hread := ensureMemory_loadWord h hoffset
  dsimp only
  revert hok hg hread
  rcases ensureMemory f offset 32 with ⟨_ | _, g⟩ <;> rcases ensureMemory f' offset 32 with
    ⟨_ | _, g'⟩ <;> rintro ⟨⟩ hg hread <;> dsimp only at hg hread ⊢
  · exact (hfail.footprint g) g' hg
  · rw [hread rfl]
    exact (hk _).footprint g g' hg

/-- `ensure_memory` at an offset, then a step `k` of the frame with `bytes` written there. -/
theorem ensureMemory_write_footprint {α : Type} (fail : Frame → α × Frame) (k : Frame → α × Frame)
    (hfail : MemoryOblivious fail) (hk : MemoryOblivious k) (offset size : Nat)
    (bytes : Frame → List UInt8) (hbytes : ∀ g m n, bytes (g.withMemory m n) = bytes g)
    (f : Frame) :
    MemoryFootprint (fun f => match ensureMemory f offset size with
      | (false, g) => fail g
      | (true, g) => k (g.writeMemory offset (bytes g))) f := by
  intro f' h
  obtain ⟨hok, hg⟩ := ensureMemory_sameMemoryView h offset size
  dsimp only
  revert hok hg
  rcases ensureMemory f offset size with ⟨_ | _, g⟩ <;> rcases ensureMemory f' offset size with
    ⟨_ | _, g'⟩ <;> rintro ⟨⟩ hg <;> dsimp only at hg ⊢
  · exact (hfail.footprint g) g' hg
  · rw [hg.planes, hbytes, ← hg.planes]
    exact (hk.footprint _) _ (writeMemory_sameMemoryView hg offset (bytes g))

/-- A pop, then a step with its memory footprint where it is called: the pop touches no memory. -/
theorem stackPop_then_footprint {α : Type} (fail : Frame → α × Frame)
    (k : Word → Frame → α × Frame) (hfail : MemoryOblivious fail)
    (hk : ∀ w g, MemoryFootprint (k w) g) (f : Frame) :
    MemoryFootprint (fun f => match stackPop f with
      | none => fail f
      | some (w, g) => k w g) f := by
  intro f' h
  obtain ⟨m, rfl⟩ : ∃ m, f' = f.withMemory m f.memorySize := ⟨_, h.planes⟩
  dsimp only
  rw [stackPop_withMemory]
  rcases hp : stackPop f with _ | ⟨w, g⟩
  · exact hfail.footprint f _ h
  · simp only [stackPop] at hp
    split_ifs at hp
    cases hp
    exact hk _ _ _ ⟨rfl, h.shares⟩

end Access

/-! ## 3. The handlers of `evm_optimized` -/

namespace Optimized

section Handlers

theorem fail_oblivious : MemoryOblivious fail := fun _ _ _ => rfl

theorem binaryOp_oblivious (op : Word → Word → Word) (cost : Int) :
    MemoryOblivious (binaryOp op cost) := by
  intro f m n
  simp only [binaryOp, stackTop_withMemory, Frame.withMemory_stack, Frame.setStack_withMemory,
    stackFree_withMemory]
  split <;> rfl

theorem unaryOp_oblivious (op : Word → Word) (cost : Int) : MemoryOblivious (unaryOp op cost) := by
  intro f m n
  simp only [unaryOp, stackTop_withMemory, Frame.withMemory_stack, Frame.setStack_withMemory]
  split <;> rfl

theorem pushOp_oblivious (value : Frame → Word) (cost : Int)
    (hvalue : ∀ g m n, value (g.withMemory m n) = value g) : MemoryOblivious (pushOp value cost) := by
  intro f m n
  simp only [pushOp, stackAlloc_withMemory]
  rcases stackAlloc f with _ | ⟨slot, g⟩
  · rfl
  · simp only [Option.map_some', hvalue]; rfl

theorem opPop_oblivious : MemoryOblivious opPop := by
  intro f m n
  simp only [opPop, stackFree_withMemory]
  rcases stackFree f 1 with ⟨_ | _, g⟩ <;> rfl

theorem opSload_oblivious : MemoryOblivious opSload := by
  intro f m n
  simp only [opSload, stackTop_withMemory, Frame.withMemory_stack, Frame.withMemory_storage,
    Frame.withMemory_contract]
  split
  · rfl
  · split <;> rfl

theorem opSstore_oblivious : MemoryOblivious opSstore := by
  intro f m n
  simp only [opSstore, stackTop_withMemory, Frame.withMemory_stack, Frame.withMemory_storage,
    Frame.withMemory_contract, Frame.withMemory_isStatic, Frame.withMemory_maxStorageSlots]
  split_ifs
  · rfl
  split
  · split
    · simp only [stackFree, Frame.withMemory_stackSize]
      split_ifs <;> rfl
    · split
      · rfl
      · simp only [stackFree, Frame.withMemory_stackSize]
        split_ifs <;> rfl
  · rfl

theorem opJump_oblivious : MemoryOblivious opJump := by
  intro f m n
  simp only [opJump, stackTop_withMemory, Frame.withMemory_stack, stackFree_withMemory,
    Frame.validJumpDest_withMemory]
  split
  · rfl
  · split_ifs <;> rfl

theorem opJumpi_oblivious : MemoryOblivious opJumpi := by
  intro f m n
  simp only [opJumpi, stackTop_withMemory, Frame.withMemory_stack, stackFree_withMemory,
    Frame.validJumpDest_withMemory]
  split
  · split_ifs <;> rfl
  · rfl

theorem opPushN_oblivious (k : Nat) : MemoryOblivious fun f => opPushN f k := by
  intro f m n
  simp only [opPushN, stackAlloc_withMemory]
  rcases stackAlloc f with _ | ⟨slot, g⟩ <;> rfl

theorem opDupN_oblivious (k : Nat) : MemoryOblivious fun f => opDupN f k := by
  intro f m n
  simp only [opDupN, stackTop_withMemory, stackAlloc_withMemory]
  rcases stackTop f (k - 1) with _ | source
  · rfl
  · rcases stackAlloc f with _ | ⟨slot, g⟩ <;> rfl

theorem opSwapN_oblivious (k : Nat) : MemoryOblivious fun f => opSwapN f k := by
  intro f m n
  simp only [opSwapN, stackTop_withMemory]
  split <;> rfl

theorem opMload_memoryFootprint (f : Frame) : MemoryFootprint opMload f := by
  intro f' h
  obtain ⟨m, rfl⟩ : ∃ m, f' = f.withMemory m f.memorySize := ⟨_, h.planes⟩
  simp only [opMload, stackTop_withMemory, Frame.withMemory_stack]
  rcases stackTop f 0 with _ | slot
  · exact ⟨rfl, h⟩
  exact ensureMemory_read_footprint fail (fun w g => (⟨1, 3⟩, g.setStack slot w)) fail_oblivious
    (fun _ _ _ _ => rfl) (Nat.mod_lt _ (by decide)) f _ h

/-- The memory stores: offset on top, value below it, `ensure_memory`, the write, two items
freed. -/
theorem storeOp_memoryFootprint (size : Nat) (bytes : Word → List UInt8) (f : Frame) :
    MemoryFootprint (fun f => match stackTop f 0, stackTop f 1 with
      | some o, some v =>
        let offset := wordToU64 (f.stack o) % 2 ^ 32
        match ensureMemory f offset size with
        | (false, g) => fail g
        | (true, g) => (⟨1, 3⟩, (stackFree (g.writeMemory offset (bytes (g.stack v))) 2).2)
      | _, _ => fail f) f := by
  intro f' h
  obtain ⟨m, rfl⟩ : ∃ m, f' = f.withMemory m f.memorySize := ⟨_, h.planes⟩
  simp only [stackTop_withMemory, Frame.withMemory_stack]
  rcases stackTop f 0 with _ | o
  · exact ⟨rfl, h⟩
  rcases stackTop f 1 with _ | v
  · exact ⟨rfl, h⟩
  exact ensureMemory_write_footprint fail (fun g => (⟨1, 3⟩, (stackFree g 2).2)) fail_oblivious
    (fun g m n => by simp only [stackFree_withMemory]) _ size (fun g => bytes (g.stack v))
    (fun _ _ _ => rfl) f _ h

end Handlers

/-- Every handler `JUMP_TABLE` points to. -/
theorem Handler.exec_memoryFootprint (h : Handler) (f : Frame) : MemoryFootprint h.exec f := by
  cases h with
  | add | mul | sub | div | mod | lt | gt | eq | and | or | xor =>
    dsimp only [Handler.exec]; exact (binaryOp_oblivious _ _).footprint f
  | iszero | not => dsimp only [Handler.exec]; exact (unaryOp_oblivious _ _).footprint f
  | pc | gas | push0 =>
    dsimp only [Handler.exec]; exact (pushOp_oblivious _ _ fun _ _ _ => by rfl).footprint f
  | stop | jumpdest | stub | invalid => exact MemoryOblivious.footprint (fun _ _ _ => rfl) f
  | pop => exact opPop_oblivious.footprint f
  | sload => exact opSload_oblivious.footprint f
  | sstore => exact opSstore_oblivious.footprint f
  | jump => exact opJump_oblivious.footprint f
  | jumpi => exact opJumpi_oblivious.footprint f
  | push n => exact (opPushN_oblivious n).footprint f
  | dup n => exact (opDupN_oblivious n).footprint f
  | swap n => exact (opSwapN_oblivious n).footprint f
  | mload => exact opMload_memoryFootprint f
  | mstore => exact storeOp_memoryFootprint 32 Bytes.toList f
  | mstore8 => exact storeOp_memoryFootprint 1 (fun value => [value.get 31]) f

end Optimized

/-! ## 4. The handlers of `evm_jumptable` -/

namespace Jumptable

section Handlers

theorem fail_oblivious : MemoryOblivious fail := fun _ _ _ => rfl

theorem pushResult_oblivious (w : Word) (cost : Int) : MemoryOblivious (pushResult w cost) := by
  intro f m n
  simp only [pushResult, stackPush_withMemory]
  rcases stackPush f w with ⟨_ | _, g⟩ <;> rfl

theorem binaryOp_memoryFootprint (op : Word → Word → Word) (cost : Int) (f : Frame) :
    MemoryFootprint (binaryOp op cost) f :=
  stackPop_then_footprint fail _ fail_oblivious (fun a g => stackPop_then_footprint fail _
    fail_oblivious (fun b g => (pushResult_oblivious (op a b) cost).footprint g) g) f

theorem unaryOp_memoryFootprint (op : Word → Word) (cost : Int) (f : Frame) :
    MemoryFootprint (unaryOp op cost) f :=
  stackPop_then_footprint fail _ fail_oblivious
    (fun a g => (pushResult_oblivious (op a) cost).footprint g) f

theorem opPop_oblivious : MemoryOblivious opPop := by
  intro f m n
  simp only [opPop, stackPop_withMemory]
  rcases stackPop f with _ | ⟨w, g⟩ <;> rfl

theorem opMload_memoryFootprint (f : Frame) : MemoryFootprint opMload f :=
  stackPop_then_footprint fail _ fail_oblivious (fun w g => ensureMemory_read_footprint fail
    (fun w g => pushResult w 3 g) fail_oblivious (fun w => pushResult_oblivious w 3)
    (Nat.mod_lt (wordToU64 w) (by decide)) g) f

/-- The memory stores: pop the offset, pop the value, `ensure_memory`, the write. -/
theorem storeOp_memoryFootprint (size : Nat) (bytes : Word → List UInt8) (f : Frame) :
    MemoryFootprint (fun f => match stackPop f with
      | none => fail f
      | some (offsetWord, f) =>
        match stackPop f with
        | none => fail f
        | some (value, f) =>
          let offset := wordToU64 offsetWord % 2 ^ 32
          match ensureMemory f offset size with
          | (false, g) => fail g
          | (true, g) => (⟨1, 3⟩, g.writeMemory offset (bytes value))) f :=
  stackPop_then_footprint fail _ fail_oblivious (fun _ g => stackPop_then_footprint fail _
    fail_oblivious (fun v g => ensureMemory_write_footprint fail (fun g => (⟨1, 3⟩, g))
      fail_oblivious (fun _ _ _ => rfl) _ size (fun _ => bytes v) (fun _ _ _ => rfl) g) g) f

theorem opJump_memoryFootprint (f : Frame) : MemoryFootprint opJump f :=
  stackPop_then_footprint fail _ fail_oblivious (fun _ g => MemoryOblivious.footprint
    (fun g m n => by simp only [Frame.validJumpDest_withMemory]; split_ifs <;> rfl) g) f

theorem opJumpi_memoryFootprint (f : Frame) : MemoryFootprint opJumpi f :=
  stackPop_then_footprint fail _ fail_oblivious (fun _ g => stackPop_then_footprint fail _
    fail_oblivious (fun _ g => MemoryOblivious.footprint
      (fun g m n => by simp only [Frame.validJumpDest_withMemory]; split_ifs <;> rfl) g) g) f

theorem opPushN_oblivious (k : Nat) : MemoryOblivious fun f => opPushN f k := by
  intro f m n
  simp only [opPushN, Frame.pushWord_withMemory, stackPush_withMemory]
  rcases stackPush f (f.pushWord k) with ⟨_ | _, g⟩ <;> rfl

theorem opDupN_oblivious (k : Nat) : MemoryOblivious fun f => opDupN f k := by
  intro f m n
  simp only [opDupN, stackPeek, stackTop_withMemory, Frame.withMemory_stack]
  rcases stackTop f (k - 1) with _ | item
  · rfl
  · exact pushResult_oblivious _ 3 f m n

theorem opSwapN_oblivious (k : Nat) : MemoryOblivious fun f => opSwapN f k := by
  intro f m n
  simp only [opSwapN, stackPeek, stackTop_withMemory]
  split <;> rfl

end Handlers

/-- Every handler `JUMP_TABLE` points to. -/
theorem Handler.exec_memoryFootprint (h : Handler) (f : Frame) : MemoryFootprint h.exec f := by
  cases h with
  | add | mul | sub | div | mod | lt | gt | eq | and | or | xor =>
    exact binaryOp_memoryFootprint _ _ f
  | iszero | not => exact unaryOp_memoryFootprint _ _ f
  | pc | gas | push0 =>
    refine MemoryOblivious.footprint (fun g m n => ?_) f
    exact pushResult_oblivious _ 2 g m n
  | stop | jumpdest | stub | invalid => exact MemoryOblivious.footprint (fun _ _ _ => rfl) f
  | pop => exact opPop_oblivious.footprint f
  | jump => exact opJump_memoryFootprint f
  | jumpi => exact opJumpi_memoryFootprint f
  | push n => exact (opPushN_oblivious n).footprint f
  | dup n => exact (opDupN_oblivious n).footprint f
  | swap n => exact (opSwapN_oblivious n).footprint f
  | mload => exact opMload_memoryFootprint f
  | mstore => exact storeOp_memoryFootprint 32 Bytes.toList f
  | mstore8 => exact storeOp_memoryFootprint 1 (fun value => [value.get 31]) f

end Jumptable

/-! ## 5. The handlers of the `switch` interpreter -/

namespace Switch

section Handlers

/-- The result of a failing handler, `-1`. -/
theorem fail_oblivious : MemoryOblivious fun f => ((-1 : Int), f) := fun _ _ _ => rfl

theorem pushResult_oblivious (w : Word) : MemoryOblivious (pushResult w) := by
  intro f m n
  simp only [pushResult, stackPush_withMemory]
  rcases stackPush f w with ⟨_ | _, g⟩ <;> rfl

theorem binaryOp_memoryFootprint (op : Word → Word → Word) (f : Frame) :
    MemoryFootprint (binaryOp op) f :=
  stackPop_then_footprint _ _ fail_oblivious (fun a g => stackPop_then_footprint _ _
    fail_oblivious (fun b g => (pushResult_oblivious (op a b)).footprint g) g) f

theorem unaryOp_memoryFootprint (op : Word → Word) (f : Frame) :
    MemoryFootprint (unaryOp op) f :=
  stackPop_then_footprint _ _ fail_oblivious (fun a g => (pushResult_oblivious (op a)).footprint g) f

theorem opPop_oblivious : MemoryOblivious opPop := by
  intro f m n
  simp only [opPop, stackPop_withMemory]
  rcases stackPop f with _ | ⟨w, g⟩ <;> rfl

theorem opPush_oblivious (k : Nat) : MemoryOblivious fun f => opPush f k := by
  intro f m n
  simp only [opPush, Frame.pushWord_withMemory, stackPush_withMemory]
  rcases stackPush f (f.pushWord k) with ⟨_ | _, g⟩ <;> rfl

theorem opDup_oblivious (k : Nat) : MemoryOblivious fun f => opDup f k := by
  intro f m n
  simp only [opDup, stackPeek, stackTop_withMemory, Frame.withMemory_stack]
  rcases stackTop f (k - 1) with _ | item
  · rfl
  · exact pushResult_oblivious _ f m n

theorem opSwap_oblivious (k : Nat) : MemoryOblivious fun f => opSwap f k := by
  intro f m n
  simp only [opSwap, Frame.withMemory_stackSize, Frame.withMemory_stack]
  split_ifs <;> rfl

theorem jumpTo_oblivious (dest : Nat) : MemoryOblivious fun f => jumpTo f dest := by
  intro f m n
  simp only [jumpTo, Frame.withMemory_codeSize, Frame.codeAt_withMemory]
  split_ifs <;> rfl

theorem opMload_memoryFootprint (f : Frame) : MemoryFootprint opMload f :=
  stackPop_then_footprint _ _ fail_oblivious (fun w g => ensureMemory_read_footprint _
    (fun w g => pushResult w g) fail_oblivious pushResult_oblivious
    (Nat.mod_lt (wordToU64 w) (by decide)) g) f

theorem storeOp_memoryFootprint (size : Nat) (bytes : Word → List UInt8) (f : Frame) :
    MemoryFootprint (storeOp size bytes) f :=
  stackPop_then_footprint _ _ fail_oblivious (fun _ g => stackPop_then_footprint _ _
    fail_oblivious (fun v g => ensureMemory_write_footprint _ (fun g => ((1 : Int), g))
      fail_oblivious (fun _ _ _ => rfl) _ size (fun _ => bytes v) (fun _ _ _ => rfl) g) g) f

theorem opJump_memoryFootprint (f : Frame) : MemoryFootprint opJump f :=
  stackPop_then_footprint _ _ fail_oblivious
    (fun w g => (jumpTo_oblivious (wordToU64 w)).footprint g) f

theorem opJumpi_memoryFootprint (f : Frame) : MemoryFootprint opJumpi f :=
  stackPop_then_footprint _ _ fail_oblivious (fun w g => stackPop_then_footprint _ _
    fail_oblivious (fun _ g => MemoryOblivious.footprint (fun g m n => by
      split_ifs
      exacts [jumpTo_oblivious (wordToU64 w) g m n, rfl]) g) g) f

/-- `op_msize` reads `memory_size`, which frames with the same view of memory share. -/
theorem opMsize_memoryFootprint (f : Frame) : MemoryFootprint opMsize f := by
  intro f' h
  rw [h.planes]
  exact (pushResult_oblivious _).footprint f _ ⟨rfl, h.shares⟩

end Handlers

/-- Every case of the `switch`. -/
theorem Handler.exec_memoryFootprint (h : Handler) (f : Frame) : MemoryFootprint h.exec f := by
  cases h with
  | add | mul | sub | div | mod | lt | gt | eq | and | or | xor => exact binaryOp_memoryFootprint _ f
  | iszero | not => exact unaryOp_memoryFootprint _ f
  | pc | gas =>
    refine MemoryOblivious.footprint (fun g m n => ?_) f
    exact pushResult_oblivious _ g m n
  | push0 => exact (pushResult_oblivious _).footprint f
  | stop | jumpdest | stub | invalid => exact MemoryOblivious.footprint (fun _ _ _ => rfl) f
  | pop => exact opPop_oblivious.footprint f
  | jump => exact opJump_memoryFootprint f
  | jumpi => exact opJumpi_memoryFootprint f
  | push n => exact (opPush_oblivious n).footprint f
  | dup n => exact (opDup_oblivious n).footprint f
  | swap n => exact (opSwap_oblivious n).footprint f
  | mload => exact opMload_memoryFootprint f
  | mstore => exact storeOp_memoryFootprint 32 Bytes.toList f
  | mstore8 => exact storeOp_memoryFootprint 1 (fun value => [value.get 31]) f
  | msize => exact opMsize_memoryFootprint f

end Switch

/-- Both tables: every handler call. -/
theorem Build.dispatch_memoryFootprint (b : Build) (opcode : UInt8) (f : Frame) :
    MemoryFootprint (b.dispatch opcode) f := by
  cases b
  exacts [(Optimized.jumpTable.getD opcode.toNat .stub).exec_memoryFootprint f,
    (Jumptable.jumpTable.getD opcode.toNat .stub).exec_memoryFootprint f]

/-! ## 6. Passes and runs -/

section Passes

variable (hasTracer : Bool)

theorem Frame.SameMemoryView.halt {f f' : Frame} (h : f.SameMemoryView f') (reason : Nat) :
    (f.halt reason).SameMemoryView (f'.halt reason) :=
  h.map (Frame.halt · reason) fun _ _ _ => rfl

theorem Frame.SameMemoryView.charge {f f' : Frame} (h : f.SameMemoryView f') (cost : Int) :
    (f.charge cost).SameMemoryView (f'.charge cost) :=
  h.map (Frame.charge · cost) fun _ _ _ => rfl

theorem Frame.SameMemoryView.advance {f f' : Frame} (h : f.SameMemoryView f') (increment : Int) :
    (f.advance increment).SameMemoryView (f'.advance increment) :=
  h.map (Frame.advance · increment) fun _ _ _ => rfl

/-- A pass of the table loop from frames with the same view of memory, when every handler call
has its memory footprint: the same opcode, the same result, and passes that end the same way. -/
theorem loopBody_sameMemoryView (dispatch : UInt8 → Frame → OpResult × Frame)
    (hdispatch : ∀ opcode f, MemoryFootprint (dispatch opcode) f) {f f' : Frame}
    (h : f.SameMemoryView f') :
    (loopBody dispatch hasTracer f).Rel Frame.SameMemoryView (loopBody dispatch hasTracer f') := by
  obtain ⟨hr, hg⟩ := hdispatch (f.codeAt f.pc) f f' h
  obtain ⟨m, rfl⟩ : ∃ m, f' = f.withMemory m f.memorySize := ⟨_, h.planes⟩
  unfold loopBody dispatchStep
  simp only [Frame.withMemory_gasRemaining, Frame.withMemory_pc, Frame.codeAt_withMemory] at hr hg ⊢
  generalize dispatch (f.codeAt f.pc) f = p at hr hg
  generalize dispatch (f.codeAt f.pc) (f.withMemory m f.memorySize) = p' at hr hg
  obtain ⟨r, g⟩ := p
  obtain ⟨r', g'⟩ := p'
  dsimp only at hr hg ⊢
  subst hr
  obtain ⟨m', rfl⟩ : ∃ m', g' = g.withMemory m' g.memorySize := ⟨_, hg.planes⟩
  have hpre : List.Forall₂ (TraceEvent.Rel Frame.SameMemoryView) (traced hasTracer [.pre f])
      (traced hasTracer [.pre (f.withMemory m f.memorySize)]) :=
    forall₂_traced hasTracer (.cons (.pre h) .nil)
  simp only [Frame.withMemory_state, Frame.withMemory_gasRemaining]
  split_ifs
  · exact ⟨h.halt 1, .nil⟩
  · exact ⟨hg.halt 4, hpre⟩
  · exact ⟨hg, hpre⟩
  · exact ⟨hg.halt 1, hpre⟩
  · exact ⟨(hg.charge _).advance _,
      forall₂_traced hasTracer (.cons (.pre h) (.cons (.post (hg.charge _)) .nil))⟩

/-- A pass of the `switch` loop from frames with the same view of memory. -/
theorem Switch.loopBody_sameMemoryView {f f' : Frame} (h : f.SameMemoryView f') :
    (Switch.loopBody hasTracer f).Rel Frame.SameMemoryView (Switch.loopBody hasTracer f') := by
  obtain ⟨hr, hg⟩ := (Switch.handlerOf (f.codeAt f.pc).toNat).exec_memoryFootprint f f' h
  have hcode : f'.codeAt f'.pc = f.codeAt f.pc := by rw [h.planes]; rfl
  have hgas : f'.gasRemaining = f.gasRemaining := by rw [h.planes]; rfl
  simp only [Switch.loopBody, hcode, hgas]
  revert hr hg
  rcases (Switch.handlerOf (f.codeAt f.pc).toNat).exec f with ⟨r, g⟩
  rcases (Switch.handlerOf (f.codeAt f.pc).toNat).exec f' with ⟨r', g'⟩
  rintro ⟨⟩ hg
  obtain ⟨m', rfl⟩ : ∃ m', g' = g.withMemory m' g.memorySize := ⟨_, hg.planes⟩
  have hpre : List.Forall₂ (TraceEvent.Rel Frame.SameMemoryView) (traced hasTracer [.pre f])
      (traced hasTracer [.pre f']) :=
    forall₂_traced hasTracer (.cons (.pre h) .nil)
  simp only [Frame.withMemory_stackSize, Frame.charge, Frame.withMemory_gasRemaining]
  split_ifs
  · exact ⟨h.halt 1, .nil⟩
  · exact ⟨hg.halt 4, hpre⟩
  · exact ⟨hg.halt 5, hpre⟩
  · exact ⟨(hg.charge _).halt 1, hpre⟩
  · exact ⟨(hg.charge _).advance _,
      forall₂_traced hasTracer (.cons (.pre h) (.cons (.post (hg.charge _)) .nil))⟩

/-- Runs of one loop from frames with the same view of memory make related upcalls and return
related frames. -/
theorem runLoop_sameMemoryView {body : Frame → Iteration}
    (hbody : ∀ f f', f.SameMemoryView f' → (body f).Rel Frame.SameMemoryView (body f'))
    (fuel : Nat) {f f' : Frame} (h : f.SameMemoryView f') :
    List.Forall₂ (TraceEvent.Rel Frame.SameMemoryView) (runLoop body fuel f).2
      (runLoop body fuel f').2 ∧
    (runLoop body fuel f).1.SameMemoryView (runLoop body fuel f').1 :=
  runLoop_rel _ (fun f f' h => by rw [h.planes]; exact Iff.rfl) (fun f f' h _ => hbody f f' h)
    (fun f f' h => h.map Frame.finish fun _ _ _ => rfl) fuel f f' h

end Passes

/-! ## 7. Memory past `memory_size` is unobservable, but for the wrap window -/

/-- A plane holding `0xab` past `memory_size`, but for zeros in the window. -/
theorem scenario_sameMemoryView_junk (code : List UInt8) (gas : Int) :
    (Frame.scenario code gas).SameMemoryView ((Frame.scenario code gas).withMemory
      (fun i => if inWrapWindow i then 0 else 0xab) 0) :=
  ⟨rfl, fun i hi => by
    rcases hi with hi | hi
    · exact absurd hi (Nat.not_lt_zero i)
    · simp only [Frame.withMemory_memory, if_pos hi]; rfl⟩

/-- The window cannot be dropped: `PUSH4 0xffffffe0; MLOAD; STOP` from an empty memory reads the
plane past `memory_size`. -/
example :
    (Build.optimized.executeMessage false
      (Frame.scenario [0x63, 0xff, 0xff, 0xff, 0xe0, 0x51, 0x00] 20)).1.stack 0 ≠
    (Build.optimized.executeMessage false
      ((Frame.scenario [0x63, 0xff, 0xff, 0xff, 0xe0, 0x51, 0x00] 20).withMemory
        (fun _ => 1) 0)).1.stack 0 := by
  decide

end NativeEvm
