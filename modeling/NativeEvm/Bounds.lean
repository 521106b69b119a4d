import NativeEvm.Termination

/-!
# Bounds — the frame layout every step keeps

From a frame with `0 ≤ pc`, at most 1024 stack items, a memory size that is a multiple of 32
within the 1 MiB ceiling and a code of at most `2^31 - 33` bytes, every frame a run shows the
tracer, and the one it returns, is again such a frame; memory never shrinks; and each
pre-execution upcall sees an executing frame whose `pc` is inside the code.  A jump only reaches a
destination below `code_size`, and a frame that passes the loop test has `code_size < 2^31`, so
the destination survives the `int32_t` cast.  The cap on the code is needed: `pc` is an
`int32_t`, and on a longer code a `PUSH32` near the end wraps it negative
(`push32_at_code_end_wraps_pc`).

`ensure_memory` itself is sound only away from the top of the 32-bit offset range: the rounded
size is stored in a `uint32_t`, and for an access that ends within 32 bytes of `2^32` it wraps to
a small number, so the call reports success without growing memory.
-/

namespace NativeEvm

/-- The layout the loop keeps, on a code of at most `2^31 - 33` bytes, short enough that
`pc += pc_increment` cannot pass `2^31`. -/
structure Frame.Bounds (f : Frame) : Prop where
  pc_nonneg : 0 ≤ f.pc
  stackSize_le : f.stackSize ≤ 1024
  memorySize_mod : f.memorySize % 32 = 0
  memorySize_le : f.memorySize ≤ memoryLimit
  codeSize_le : f.codeSize.toNat ≤ 2 ^ 31 - 33

/-- What a pre-execution upcall sees: an executing frame with `pc` inside the code. -/
def TraceEvent.AtOpcode (e : TraceEvent) : Prop :=
  e.isPre → e.frame.state = 1 ∧ e.frame.pc < e.frame.codeSize.toNat

/-! ## 1. The `int32_t` casts -/

theorem toInt32_le (n : Nat) : toInt32 n ≤ n := by
  unfold toInt32; split <;> omega

/-- A cast `uint32_t` is below `2^31`. -/
theorem toInt32_le_of_lt_size {n : Nat} (h : n < 2 ^ 32) : toInt32 n ≤ 2 ^ 31 - 1 := by
  unfold toInt32; split <;> omega

/-- Below a code size that is positive as an `int32_t`, the cast keeps a destination
nonnegative. -/
theorem toInt32_nonneg_of_lt {n m : Nat} (hm : m < 2 ^ 32) (h0 : 0 < toInt32 m) (h : n < m) :
    0 ≤ toInt32 n := by
  unfold toInt32 at *; split_ifs at * <;> omega

theorem Frame.running_pc_lt {f : Frame} (hr : f.running) :
    f.state = 1 ∧ f.pc < f.codeSize.toNat :=
  ⟨hr.2, lt_of_lt_of_le hr.1 (toInt32_le _)⟩

/-! ## 2. One handler call, one pass -/

section Generic

variable {dispatch : UInt8 → Frame → OpResult × Frame} {cause : UInt8 → Frame → Frame → Prop}
  (hd : ∀ opcode f, Effect (cause opcode f) f (dispatch opcode f).1 (dispatch opcode f).2)
  (hasTracer : Bool)

/-- A handler call from an executing frame in bounds leaves a frame in bounds. -/
theorem Effect.bounds {c : Frame → Prop} {f g : Frame} {r : OpResult} (h : Effect c f r g)
    (hb : f.Bounds) (hr : f.running) : g.Bounds := by
  obtain ⟨-, -, hpc, hstack, hmem, -, hcodeSize, -⟩ := h
  have hpc' : 0 ≤ g.pc := by
    rcases hpc with hpc | ⟨-, dest, hdest, hpc⟩
    · exact hpc ▸ hb.pc_nonneg
    · rw [hpc]
      exact toInt32_nonneg_of_lt f.codeSize.toNat_lt_size (by have := hr.1; have := hb.1; omega)
        hdest
  exact ⟨hpc', by have := hb.2; omega, by have := hb.3; omega, by have := hb.4; omega,
    hcodeSize ▸ hb.5⟩

/-- A positive increment comes with `pc` unmoved, and from `0 ≤ pc < code_size ≤ 2^31 - 33` an
increment of at most 33 does not wrap the `int32_t` sum. -/
theorem Effect.advance_pc {c : Frame → Prop} {f g : Frame} {r : OpResult} (h : Effect c f r g)
    (h0 : 0 ≤ f.pc) (hcode : f.codeSize.toNat ≤ 2 ^ 31 - 33) (hr : f.running)
    (hpos : 0 < r.pcIncrement) : addInt32 g.pc r.pcIncrement = f.pc + r.pcIncrement := by
  have hlt := (Frame.running_pc_lt hr).2
  have hinc := h.increment
  rw [h.pc.resolve_right fun ⟨h0, _⟩ => by omega, addInt32_of_lt (by omega) (by omega)]

include hd

theorem dispatchStep_bounds (f : Frame) (hb : f.Bounds) (hr : f.running) :
    (dispatchStep dispatch hasTracer f).Keeps Frame.Bounds
      fun e => e.frame.Bounds ∧ e.AtOpcode := by
  have hpre : ∀ e ∈ [TraceEvent.pre f], e.frame.Bounds ∧ e.AtOpcode := by
    simpa [TraceEvent.AtOpcode, TraceEvent.isPre] using ⟨hb, Frame.running_pc_lt hr⟩
  obtain ⟨r, h, he, ⟨-, hs⟩ | ⟨-, -, hs⟩ | ⟨-, -, hs⟩⟩ :=
    dispatchStep_spec dispatch hasTracer f <;> rw [hs] <;>
    have hh := (effect_of_dispatch hd he).bounds hb hr
  · refine ⟨?_, forall_mem_traced hpre⟩
    dsimp only [Iteration.frame]
    split <;> exact ⟨hh.1, hh.2, hh.3, hh.4, hh.5⟩
  · exact ⟨⟨hh.1, hh.2, hh.3, hh.4, hh.5⟩, forall_mem_traced hpre⟩
  · refine ⟨⟨?_, hh.2, hh.3, hh.4, hh.5⟩, forall_mem_traced ?_⟩
    · simp only [Iteration.frame, Frame.advance, Frame.charge]
      split_ifs with hpos
      · rw [(effect_of_dispatch hd he).advance_pc hb.1 hb.5 hr hpos]
        have := hb.1
        omega
      · exact hh.1
    · simpa [TraceEvent.AtOpcode, TraceEvent.isPre] using
        ⟨⟨hb, Frame.running_pc_lt hr⟩, ⟨hh.1, hh.2, hh.3, hh.4, hh.5⟩⟩

theorem loopBody_bounds (f : Frame) (hb : f.Bounds) (hr : f.running) :
    (loopBody dispatch hasTracer f).Keeps Frame.Bounds fun e => e.frame.Bounds ∧ e.AtOpcode := by
  rcases loopBody_spec dispatch hasTracer f with ⟨-, hs⟩ | ⟨-, hs⟩ <;> rw [hs]
  · exact ⟨⟨hb.1, hb.2, hb.3, hb.4, hb.5⟩, by simp⟩
  · exact dispatchStep_bounds hd hasTracer f hb hr

/-- Memory never shrinks within a pass. -/
theorem loopBody_memorySize_sorted (f : Frame) :
    (f.memorySize :: (loopBody dispatch hasTracer f).events.map (Frame.memorySize ∘ TraceEvent.frame)
      ++ [(loopBody dispatch hasTracer f).frame.memorySize]).Sorted (· ≤ ·) := by
  rcases loopBody_spec dispatch hasTracer f with ⟨-, hs⟩ | ⟨-, hs⟩ <;> rw [hs]
  · simp
  obtain ⟨r, h, he, ⟨-, hs'⟩ | ⟨-, -, hs'⟩ | ⟨-, -, hs'⟩⟩ :=
    dispatchStep_spec dispatch hasTracer f <;> rw [hs'] <;>
    have hm : f.memorySize ≤ h.memorySize := by
      have := (effect_of_dispatch hd he).memorySize; omega
  · dsimp only [Iteration.frame, Iteration.events]
    split <;> cases hasTracer <;> simp [traced, hm]
  all_goals cases hasTracer <;> simp [traced, hm]

end Generic

/-! ## 3. Whole runs -/

/-- Per-step frame invariants, for both builds: from a frame in bounds, its code at most
`2^31 - 33` bytes, every upcall sees a frame in bounds, each pre-execution upcall an executing
frame with `0 ≤ pc < code_size`, the run returns a frame in bounds, and `memory_size` never goes
down along the way. -/
theorem executeMessage_bounds (b : Build) (hasTracer : Bool) (frame : Frame) (hb : frame.Bounds) :
    (∀ e ∈ (b.executeMessage hasTracer frame).2, e.frame.Bounds ∧ e.AtOpcode) ∧
    (b.executeMessage hasTracer frame).1.Bounds ∧
    (frame.memorySize :: (b.executeMessage hasTracer frame).2.map (fun e => e.frame.memorySize) ++
      [(b.executeMessage hasTracer frame).1.memorySize]).Sorted (· ≤ ·) := by
  rw [b.executeMessage_eq]
  obtain ⟨hfinal, hevents⟩ := runLoop_invariant Frame.Bounds _
    (loopBody_bounds b.dispatch_effect hasTracer) (fun f hf _ => ⟨hf.1, hf.2, hf.3, hf.4, hf.5⟩)
    (frame.gasRemaining.toNat + 2) { frame with state := 1 } ⟨hb.1, hb.2, hb.3, hb.4, hb.5⟩
  exact ⟨hevents, hfinal, runLoop_sorted Frame.memorySize
    (fun f _ => loopBody_memorySize_sorted b.dispatch_effect hasTracer f) (fun _ => rfl)
    (frame.gasRemaining.toNat + 2) { frame with state := 1 }⟩

theorem executeMessage_bounds_push0 :
    (Frame.scenario [0x5f, 0x00] 10).Bounds ∧
    (∀ e ∈ (Build.jumptable.executeMessage true (Frame.scenario [0x5f, 0x00] 10)).2,
      e.frame.Bounds ∧ e.AtOpcode) :=
  ⟨⟨le_refl _, by decide, rfl, by decide, by decide⟩,
    (executeMessage_bounds .jumptable true (Frame.scenario [0x5f, 0x00] 10)
      ⟨le_refl _, by decide, rfl, by decide, by decide⟩).1⟩

/-! ## 4. `pc` past `2^31`

`pc` is an `int32_t`, and the loop adds `pc_increment` to it unchecked.  On a code of `2^31 - 1`
bytes the loop test admits `pc = 2^31 - 2`; a `PUSH32` there asks for 33, and the sum wraps to
`-2^31 + 31`, which passes the test `pc < code_size` again.  The cap `code_size ≤ 2^31 - 33` of
`Frame.Bounds` is exactly what rules this out. -/

/-- `STOP` in either build. -/
theorem dispatch_stop (b : Build) (f : Frame) :
    b.dispatch 0x00 f = (⟨0, 0⟩, { f with state := 7 }) := by
  cases b <;> rfl

/-- `PUSH32` in either build, below 1024 items. -/
theorem dispatch_push32 (b : Build) {f : Frame} (h : f.stackSize < 1024) :
    b.dispatch 0x7f f =
      (⟨33, 3⟩,
        { f.setStack f.stackSize (f.pushWord 32) with stackSize := f.stackSize + 1 }) := by
  cases b
  · show Optimized.opPushN f 32 = _
    rw [Optimized.opPushN, stackAlloc, if_neg (by omega)]
    rfl
  · show Jumptable.opPushN f 32 = _
    rw [Jumptable.opPushN, stackPush, if_neg (by omega)]
    rfl

/-- A build's pass on `STOP`: the frame completes, and the loop test fails next. -/
theorem loopBody_stop {b : Build} {hasTracer : Bool} {r : Frame} (h3 : 3 ≤ r.gasRemaining)
    (hop : r.codeAt r.pc = 0x00) :
    loopBody b.dispatch hasTracer r =
      .next { r with state := 7 }
        (traced hasTracer [.pre r, .post { r with state := 7 } ⟨0, 0, 0⟩]) := by
  have hd : b.dispatch (r.codeAt r.pc) r = (⟨0, 0⟩, { r with state := 7 }) := by
    rw [hop]; exact dispatch_stop b r
  rw [loopBody_of_dispatch h3 hd le_rfl (by show (0 : Int) ≤ r.gasRemaining; omega)]
  simp [Frame.charge, Frame.advance]

/-- `2^31 - 1` bytes of `PUSH32`. -/
def push32Code : List UInt8 := List.replicate (2 ^ 31 - 1) 0x7f

/-- An executing frame with 100 gas and an empty stack at the last byte of `push32Code`. -/
def wrapFrame : Frame := { Frame.scenario push32Code 100 with pc := 2 ^ 31 - 2, state := 1 }

/-- The frame the `PUSH32` at `wrapFrame` leaves, charged 3 and before the `pc` update. -/
def wrapPushed : Frame :=
  { wrapFrame.setStack 0 (wrapFrame.pushWord 32) with stackSize := 1 }.charge 3

theorem wrapFrame_codeSize : wrapFrame.codeSize.toNat = 2 ^ 31 - 1 := by
  show push32Code.length.toUInt32.toNat = _
  rw [push32Code, List.length_replicate]
  rfl

theorem wrapFrame_codeAt : wrapFrame.codeAt wrapFrame.pc = 0x7f := by
  show (if (0 : Int) ≤ 2 ^ 31 - 2 then push32Code.getD (2 ^ 31 - 2 : Int).toNat 0 else 0) = _
  rw [if_pos (by decide), push32Code, List.getD_eq_getElem?_getD,
    List.getElem?_replicate_of_lt (by decide)]
  rfl

/-- `pc = 2^31 - 2` plus 33, as an `int32_t`. -/
theorem wrapPushed_advance_pc : (wrapPushed.advance 33).pc = -2 ^ 31 + 31 := by
  decide

theorem wrapPushed_advance_running : (wrapPushed.advance 33).running := by
  refine ⟨?_, rfl⟩
  rw [wrapPushed_advance_pc, show (wrapPushed.advance 33).codeSize = wrapFrame.codeSize from rfl,
    wrapFrame_codeSize]
  decide

/-- The `PUSH32` pass: the immediate lies past the end of the code, and `pc` is advanced by 33. -/
theorem loopBody_wrapFrame (b : Build) (hasTracer : Bool) :
    loopBody b.dispatch hasTracer wrapFrame =
      .next (wrapPushed.advance 33)
        (traced hasTracer [.pre wrapFrame, .post wrapPushed ⟨3, 0, 33⟩]) := by
  have hd : b.dispatch (wrapFrame.codeAt wrapFrame.pc) wrapFrame =
      (⟨33, 3⟩, { wrapFrame.setStack 0 (wrapFrame.pushWord 32) with stackSize := 1 }) := by
    rw [wrapFrame_codeAt]
    exact dispatch_push32 b (by decide)
  exact loopBody_of_dispatch (by decide) hd (by decide) (by decide)

/-- The whole run from `wrapFrame`: the `PUSH32`, then a `STOP` read at the wrapped `pc`, where the
model reads 0 below the code. -/
theorem executeMessage_wrapFrame (b : Build) (hasTracer : Bool) :
    b.executeMessage hasTracer wrapFrame =
      ({ wrapPushed.advance 33 with state := 7 },
        traced hasTracer [.pre wrapFrame, .post wrapPushed ⟨3, 0, 33⟩] ++
          traced hasTracer [.pre (wrapPushed.advance 33),
            .post { wrapPushed.advance 33 with state := 7 } ⟨0, 0, 0⟩]) := by
  have hrun : wrapFrame.running := by
    refine ⟨?_, rfl⟩
    rw [wrapFrame_codeSize]
    decide
  have hstop : (wrapPushed.advance 33).codeAt (wrapPushed.advance 33).pc = 0x00 := by
    unfold Frame.codeAt
    rw [if_neg (by rw [wrapPushed_advance_pc]; decide)]
  rw [Build.executeMessage_eq]
  show runLoop (loopBody b.dispatch hasTracer) (100 + 1 + 1) wrapFrame = _
  rw [runLoop_succ_next hrun (loopBody_wrapFrame b hasTracer),
    runLoop_succ_next wrapPushed_advance_running (loopBody_stop (by decide) hstop),
    runLoop_of_state_ne_one _ (show (7 : Nat) ≠ 1 by decide), List.append_nil]

/-- Away from the top of the offset range `ensure_memory` does what it promises: success leaves
`[offset, offset + size)` inside a memory within the ceiling. -/
theorem ensureMemory_covers (f : Frame) (offset size : Nat) (hsize : 0 < size)
    (hwrap : offset + size ≤ 2 ^ 32 - 32) (hm : f.memorySize ≤ memoryLimit)
    (hok : (ensureMemory f offset size).1 = true) :
    offset + size ≤ (ensureMemory f offset size).2.memorySize ∧
      (ensureMemory f offset size).2.memorySize ≤ memoryLimit := by
  unfold ensureMemory at hok ⊢
  dsimp only at hok ⊢
  split_ifs at hok ⊢ with h0 h1 h2 h3 <;> first | omega | skip
  all_goals
    have hround : (offset + size + 31) / 32 * 32 % 2 ^ 32 = (offset + size + 31) / 32 * 32 :=
      Nat.mod_eq_of_lt (by omega)
    simp only [hround] at *
    omega

theorem ensureMemory_covers_word :
    (ensureMemory (Frame.scenario [] 0) 0x40 32).1 = true ∧
    0x40 + 32 ≤ (ensureMemory (Frame.scenario [] 0) 0x40 32).2.memorySize :=
  ⟨by decide, (ensureMemory_covers _ _ _ (by decide) (by decide) (by decide) (by decide)).1⟩

/-- `PUSH1 1; PUSH4 0xffffffe0; MSTORE; STOP`. -/
def mstoreBelow4GiB : List UInt8 := [0x60, 0x01, 0x63, 0xff, 0xff, 0xff, 0xe0, 0x52, 0x00]

/-- An `MSTORE` whose 32 bytes end exactly at `2^32`: `new_size` wraps to 0, `ensure_memory`
returns true without growing memory, the write lands far past `memory_size`, and the run
completes. -/
theorem mstore_below_4GiB_writes_past_memory :
    (ensureMemory (Frame.scenario [] 0) 0xffffffe0 32).1 = true ∧
    (ensureMemory (Frame.scenario [] 0) 0xffffffe0 32).2.memorySize = 0 ∧
    (Build.optimized.executeMessage false (Frame.scenario mstoreBelow4GiB 100)).1.state = 7 ∧
    (Build.optimized.executeMessage false (Frame.scenario mstoreBelow4GiB 100)).1.memorySize = 0 ∧
    (Build.optimized.executeMessage false (Frame.scenario mstoreBelow4GiB 100)).1.memory
      0xffffffff = 1 := by
  decide

/-- `PUSH1 42; PUSH5 0x0100000000; MSTORE; PUSH0; MLOAD; STOP`: store 42 at `2^32`, load at 0. -/
def storeAt4GiBLoadAtZero : List UInt8 :=
  [0x60, 0x2a, 0x64, 0x01, 0x00, 0x00, 0x00, 0x00, 0x52, 0x5f, 0x51, 0x00]

/-- In both builds the `MSTORE` at `2^32`, far past the 1 MiB ceiling, does not halt: its offset is
cast to 0, memory grows to one word, the run completes, and the `MLOAD` at 0 reads the 42. -/
theorem mstore_at_4GiB_aliases_zero (b : Build) :
    (b.executeMessage false (Frame.scenario storeAt4GiBLoadAtZero 100)).1.state = 7 ∧
    (b.executeMessage false (Frame.scenario storeAt4GiBLoadAtZero 100)).1.memorySize = 32 ∧
    (b.executeMessage false (Frame.scenario storeAt4GiBLoadAtZero 100)).1.stack 0 =
      u64ToWord 42 := by
  cases b <;> decide

end NativeEvm
