import NativeEvm.Footprint
import NativeEvm.Word.Codec

/-!
# Mock — the tracer test interpreter (`mock_evm_with_tracer.cpp`)

The Panama build script links `mock_evm_with_tracer.cpp` as the native library.  Its
`execute_message` runs the loop of the real builds over three opcodes:
* `STOP` completes the frame;
* `ADD` adds the last bytes of the two top words ("last byte only for demo");
* `PUSH1` pushes the next code byte.
Every other opcode halts with `INVALID_OPERATION`.  The loop tests only `pc < code_size`, never
sets `state = 1`, and sets `state = 7` when the test fails.

Every run ends within `code_size - pc` passes, in `COMPLETED_SUCCESS` or in `EXCEPTIONAL_HALT`
with reason 1, 2, 4, 5 or 7 (`mock_run_ends`).  A run the mock completes, either build completes
as well (`mock_completion_matches_builds`).  The builds make the same upcalls one by one and leave
the same frame, with three exceptions.  The stack words differ in their high 31 bytes, where the
mock keeps zeros.  `STOP` reports a `pc_increment` of 1 in the mock and 0 in the builds.  And the
frames the upcalls see differ in `state`: the builds set `EXECUTING` on entry, the mock keeps the
entry state until `STOP`; both return their frame in state 7.
-/

namespace NativeEvm

namespace Mock

/-! ## 1. The interpreter -/

/-- `memset(item, 0, 32); item[31] = value;` -/
def byteWord (value : UInt8) : Word := ⟨List.replicate 31 0 ++ [value], by simp⟩

/-- `case 0x01` once two items are there: `stack_size -= 2`, the sum of the two last bytes
written to the slot freed last, `stack_size += 1`, then `gas_remaining -= 3`. -/
def addFrame (f : Frame) : Frame :=
  { f.setStack (f.stackSize - 2)
      (byteWord ((f.stack (f.stackSize - 2)).get 31 + (f.stack (f.stackSize - 1)).get 31)) with
    stackSize := f.stackSize - 1, gasRemaining := f.gasRemaining - 3 }

/-- `case 0x60` once its checks pass: `code[pc + 1]` pushed, then `gas_remaining -= 3`. -/
def push1Frame (f : Frame) : Frame :=
  { f.setStack f.stackSize (byteWord (f.codeAt (f.pc + 1))) with
    stackSize := f.stackSize + 1, gasRemaining := f.gasRemaining - 3 }

/-- The body of the `while` loop: the 3-gas floor, the fetch, `trace_pre_execution` and the
`switch`; `ADD` and `PUSH1` then charge, call `trace_post_execution` and add `pc_increment`. -/
def loopBody (hasTracer : Bool) (f : Frame) : Iteration :=
  if f.gasRemaining < 3 then .halt (f.halt 1) []
  else if f.codeAt f.pc = 0x00 then
    .halt { f with state := 7 } (traced hasTracer [.pre f, .post { f with state := 7 } ⟨0, 0, 1⟩])
  else if f.codeAt f.pc = 0x01 then
    if f.stackSize < 2 then .halt (f.halt 5) (traced hasTracer [.pre f])
    else .next { addFrame f with pc := f.pc + 1 }
      (traced hasTracer [.pre f, .post (addFrame f) ⟨3, 0, 1⟩])
  else if f.codeAt f.pc = 0x60 then
    if toInt32 f.codeSize.toNat ≤ f.pc + 1 then .halt (f.halt 7) (traced hasTracer [.pre f])
    else if 1024 ≤ f.stackSize then .halt (f.halt 4) (traced hasTracer [.pre f])
    else .next { push1Frame f with pc := f.pc + 2 }
      (traced hasTracer [.pre f, .post (push1Frame f) ⟨3, 0, 2⟩])
  else .halt (f.halt 2) (traced hasTracer [.pre f])

/-- `while (frame->pc < static_cast<int32_t>(frame->code_size))`, for at most `fuel` passes,
then `state = 7`. -/
def loop (hasTracer : Bool) : Nat → Frame → Frame × List TraceEvent
  | 0, f => (f, [])
  | fuel + 1, f =>
    if f.pc < toInt32 f.codeSize.toNat then
      match loopBody hasTracer f with
      | .halt g events => (g, events)
      | .next g events => ((loop hasTracer fuel g).1, events ++ (loop hasTracer fuel g).2)
    else ({ f with state := 7 }, [])

/-- The passes a run can take: `pc` grows in each. -/
def passes (f : Frame) : Nat := (toInt32 f.codeSize.toNat - f.pc).toNat + 1

/-- `execute_message(frame, tracer)` of the mock, on a non-null frame. -/
def executeMessage (hasTracer : Bool) (frame : Frame) : Frame × List TraceEvent :=
  loop hasTracer (passes frame) frame

/-! ## 2. One pass -/

/-- What one pass can do: `STOP`, one of the five halts, `ADD` or `PUSH1`. -/
theorem loopBody_cases (hasTracer : Bool) (f : Frame) :
    (3 ≤ f.gasRemaining ∧ f.codeAt f.pc = 0x00 ∧ loopBody hasTracer f =
      .halt { f with state := 7 } (traced hasTracer [.pre f, .post { f with state := 7 } ⟨0, 0, 1⟩])) ∨
    (∃ reason events, reason ∈ [1, 2, 4, 5, 7] ∧ loopBody hasTracer f = .halt (f.halt reason) events) ∨
    (3 ≤ f.gasRemaining ∧ f.codeAt f.pc = 0x01 ∧ 2 ≤ f.stackSize ∧ loopBody hasTracer f =
      .next { addFrame f with pc := f.pc + 1 } (traced hasTracer [.pre f, .post (addFrame f) ⟨3, 0, 1⟩])) ∨
    (3 ≤ f.gasRemaining ∧ f.codeAt f.pc = 0x60 ∧ f.pc + 1 < toInt32 f.codeSize.toNat ∧
      f.stackSize < 1024 ∧ loopBody hasTracer f = .next { push1Frame f with pc := f.pc + 2 }
        (traced hasTracer [.pre f, .post (push1Frame f) ⟨3, 0, 2⟩])) := by
  by_cases hgas : f.gasRemaining < 3
  · exact .inr (.inl ⟨1, _, by decide, by rw [loopBody, if_pos hgas]⟩)
  have h3 : 3 ≤ f.gasRemaining := by omega
  by_cases hstop : f.codeAt f.pc = 0x00
  · exact .inl ⟨h3, hstop, by rw [loopBody, if_neg hgas, if_pos hstop]⟩
  by_cases hadd : f.codeAt f.pc = 0x01
  · by_cases h2 : f.stackSize < 2
    · exact .inr (.inl ⟨5, _, by decide,
        by rw [loopBody, if_neg hgas, if_neg hstop, if_pos hadd, if_pos h2]⟩)
    · exact .inr (.inr (.inl ⟨h3, hadd, by omega,
        by rw [loopBody, if_neg hgas, if_neg hstop, if_pos hadd, if_neg h2]⟩))
  by_cases hpush : f.codeAt f.pc = 0x60
  · by_cases hbound : toInt32 f.codeSize.toNat ≤ f.pc + 1
    · exact .inr (.inl ⟨7, _, by decide, by
        rw [loopBody, if_neg hgas, if_neg hstop, if_neg hadd, if_pos hpush, if_pos hbound]⟩)
    by_cases hfull : 1024 ≤ f.stackSize
    · exact .inr (.inl ⟨4, _, by decide, by
        rw [loopBody, if_neg hgas, if_neg hstop, if_neg hadd, if_pos hpush, if_neg hbound,
          if_pos hfull]⟩)
    · exact .inr (.inr (.inr ⟨h3, hpush, by omega, by omega, by
        rw [loopBody, if_neg hgas, if_neg hstop, if_neg hadd, if_pos hpush, if_neg hbound,
          if_neg hfull]⟩))
  · exact .inr (.inl ⟨2, _, by decide,
      by rw [loopBody, if_neg hgas, if_neg hstop, if_neg hadd, if_neg hpush]⟩)

section Pass

variable {hasTracer : Bool} {f g : Frame} {events : List TraceEvent}

/-- A pass that returns leaves the frame completed or halted for one of five reasons. -/
theorem loopBody_halt (h : loopBody hasTracer f = .halt g events) :
    (g.state = 7 ∨ g.state = 4 ∧ g.haltReason ∈ [1, 2, 4, 5, 7]) ∧
      g.gasRemaining = f.gasRemaining ∧ g.stackSize = f.stackSize := by
  rcases loopBody_cases hasTracer f with ⟨-, -, hb⟩ | ⟨reason, events, hr, hb⟩ | ⟨-, -, -, hb⟩ |
    ⟨-, -, -, -, hb⟩ <;> rw [hb] at h <;> cases h
  · exact ⟨.inl rfl, rfl, rfl⟩
  · exact ⟨.inr ⟨rfl, hr⟩, rfl, rfl⟩

/-- A pass that goes back to the loop test costs 3 gas and moves `pc` forward. -/
theorem loopBody_next (h : loopBody hasTracer f = .next g events) :
    3 ≤ f.gasRemaining ∧ g.gasRemaining = f.gasRemaining - 3 ∧ f.pc < g.pc ∧
      g.codeSize = f.codeSize ∧ (f.stackSize ≤ 1024 → g.stackSize ≤ 1024) := by
  rcases loopBody_cases hasTracer f with ⟨-, -, hb⟩ | ⟨reason, events, -, hb⟩ |
    ⟨h3, -, h2, hb⟩ | ⟨h3, -, -, hfull, hb⟩ <;> rw [hb] at h <;> cases h
  · exact ⟨h3, rfl, show f.pc < f.pc + 1 by omega, rfl, fun _ => by simp [addFrame]; omega⟩
  · exact ⟨h3, rfl, show f.pc < f.pc + 2 by omega, rfl, fun _ => by simp [push1Frame]; omega⟩

end Pass

/-! ## 3. Whole runs -/

/-- How a run from `f` may leave the frame: completed, or halted for one of the five reasons, with
gas between 0 and what it had and at most 1024 items. -/
structure Ended (f g : Frame) : Prop where
  state : g.state = 7 ∨ g.state = 4 ∧ g.haltReason ∈ [1, 2, 4, 5, 7]
  gas_nonneg : 0 ≤ g.gasRemaining
  gas_le : g.gasRemaining ≤ f.gasRemaining
  stack_le : g.stackSize ≤ 1024

theorem Ended.of_gas_le {f g h : Frame} (he : Ended g h) (hle : g.gasRemaining ≤ f.gasRemaining) :
    Ended f h :=
  ⟨he.state, he.gas_nonneg, he.gas_le.trans hle, he.stack_le⟩

theorem loop_ends (hasTracer : Bool) :
    ∀ n f, passes f ≤ n → (∀ k, loop hasTracer (n + k) f = loop hasTracer n f) ∧
      (0 ≤ f.gasRemaining → f.stackSize ≤ 1024 → Ended f (loop hasTracer n f).1)
  | 0, f, hn => absurd hn (by simp [passes])
  | n + 1, f, hn => by
    have hfuel : ∀ k, n + 1 + k = (n + k) + 1 := fun k => by omega
    by_cases hr : f.pc < toInt32 f.codeSize.toNat
    · rcases hb : loopBody hasTracer f with ⟨g, events⟩ | ⟨g, events⟩
      · obtain ⟨hstate, hg, hs⟩ := loopBody_halt hb
        have hrun : ∀ m, loop hasTracer (m + 1) f = (g, events) := fun m => by
          simp only [loop, hr, hb, if_true]
        refine ⟨fun k => by rw [hfuel, hrun, hrun], fun hgas hstack => ?_⟩
        rw [hrun]
        show Ended f g
        exact ⟨hstate, by omega, by omega, by omega⟩
      · obtain ⟨h3, hg, hpc, hcs, hs⟩ := loopBody_next hb
        have hpasses : passes g ≤ n := by simp only [passes, hcs] at hn ⊢; omega
        obtain ⟨hk, hend⟩ := loop_ends hasTracer n g hpasses
        have hrun : ∀ m, loop hasTracer (m + 1) f =
            ((loop hasTracer m g).1, events ++ (loop hasTracer m g).2) := fun m => by
          simp only [loop, hr, hb, if_true]
        refine ⟨fun k => by rw [hfuel, hrun, hrun, hk], fun hgas hstack => ?_⟩
        rw [hrun]
        exact (hend (by omega) (hs hstack)).of_gas_le (by omega)
    · have hrun : ∀ m, loop hasTracer (m + 1) f = ({ f with state := 7 }, []) := fun m => by
        simp only [loop, hr, if_false]
      exact ⟨fun k => by rw [hfuel, hrun, hrun],
        fun hgas hstack => by rw [hrun]; exact ⟨.inl rfl, hgas, le_rfl, hstack⟩⟩

/-- Every run of the mock from a frame with gas and at most 1024 items is over within `passes`
passes of the loop: more fuel gives the same run.  It ends in `COMPLETED_SUCCESS`, or in
`EXCEPTIONAL_HALT` for lack of gas (1), an unknown opcode (2), a full stack (4), an `ADD` on fewer
than two items (5) or a `PUSH1` in the last code byte (7); the gas left is between 0 and what the
frame had, and the stack still holds at most 1024 items. -/
theorem mock_run_ends (hasTracer : Bool) (frame : Frame) (hgas : 0 ≤ frame.gasRemaining)
    (hstack : frame.stackSize ≤ 1024) :
    (∀ k, loop hasTracer (passes frame + k) frame = executeMessage hasTracer frame) ∧
      Ended frame (executeMessage hasTracer frame).1 :=
  ⟨(loop_ends hasTracer (passes frame) frame le_rfl).1,
    (loop_ends hasTracer (passes frame) frame le_rfl).2 hgas hstack⟩

theorem mock_run_ends_add :
    0 ≤ (Frame.scenario [0x60, 0x02, 0x60, 0x03, 0x01, 0x00] 9).gasRemaining ∧
      (Frame.scenario [0x60, 0x02, 0x60, 0x03, 0x01, 0x00] 9).stackSize ≤ 1024 ∧
      (∀ k, loop true (passes (Frame.scenario [0x60, 0x02, 0x60, 0x03, 0x01, 0x00] 9) + k)
          (Frame.scenario [0x60, 0x02, 0x60, 0x03, 0x01, 0x00] 9) =
        executeMessage true (Frame.scenario [0x60, 0x02, 0x60, 0x03, 0x01, 0x00] 9)) ∧
      Ended (Frame.scenario [0x60, 0x02, 0x60, 0x03, 0x01, 0x00] 9)
        (executeMessage true (Frame.scenario [0x60, 0x02, 0x60, 0x03, 0x01, 0x00] 9)).1 :=
  ⟨by decide, by decide, mock_run_ends true _ (by decide) (by decide)⟩

/-! ## 4. Beside the builds

Both builds run `STOP`, `ADD` and `PUSH1` with the costs and `pc` steps of the mock, on the same
slots; only the words differ, in all but their last byte.
-/

/-- A build's frame beside the mock's: the mock's frame with another stack, whose words end in the
same bytes, and another state. -/
def MockAgrees (m r : Frame) : Prop :=
  ∃ (stack : Nat → Word) (state : Nat), r = { m with stack, state } ∧
    ∀ i, (m.stack i).get 31 = (stack i).get 31

/-- The upcalls of the mock and of a build, one by one: frames related by `MockAgrees`, and the
same `OperationResult`, except for `STOP`, whose `pc_increment` is 1 in the mock and 0 in the
builds. -/
inductive MockEventRel : TraceEvent → TraceEvent → Prop
  | pre {m r : Frame} (h : MockAgrees m r) : MockEventRel (.pre m) (.pre r)
  | post {m r : Frame} {result : OperationResult} (h : MockAgrees m r) :
      MockEventRel (.post m result) (.post r result)
  | postStop {m r : Frame} (h : MockAgrees m r) :
      MockEventRel (.post m ⟨0, 0, 1⟩) (.post r ⟨0, 0, 0⟩)

@[simp] theorem byteWord_get_31 (value : UInt8) : (byteWord value).get 31 = value := rfl

/-- The last byte of a word is its low 64 bits modulo 256. -/
theorem wordToU64_mod_256 (word : Word) : wordToU64 word % 256 = (word.get 31).toNat := by
  have hb : (word.get 31).toNat < 256 := (word.get 31).toNat_lt_size
  rw [wordToU64, show List.range' 24 8 = [24, 25, 26, 27, 28, 29, 30, 31] from rfl]
  simp only [List.foldl_cons, List.foldl_nil, shiftLeft_or_toNat]
  omega

theorem u64ToWord_get_31 (value : Nat) : (u64ToWord value).get 31 = UInt8.ofNat (value % 256) := by
  rw [u64ToWord_eq_writeU64Low]
  simp [Bytes.get, writeU64Low, bigEndianBytes]

/-- The builds' `ADD` ends in the byte the mock's does. -/
theorem addWord_get_31 (a b : Word) :
    (u64ToWord ((wordToU64 a + wordToU64 b) % 2 ^ 64)).get 31 = b.get 31 + a.get 31 := by
  apply UInt8.toNat.inj
  rw [u64ToWord_get_31, toNat_ofNat_mod]
  have ha := wordToU64_mod_256 a
  have hb := wordToU64_mod_256 b
  show _ = ((b.get 31).toNat + (a.get 31).toNat) % 256
  omega

theorem codeAt_nonneg {f : Frame} {i : Int} (h : f.codeAt i ≠ 0) : 0 ≤ i := by
  unfold Frame.codeAt at h
  split at h
  · assumption
  · exact absurd rfl h

theorem get_ofFn {n i : Nat} (g : Nat → UInt8) (h : i < n) : (Bytes.ofFn n g).get i = g i := by
  simp [Bytes.get, Bytes.ofFn, List.getD_eq_getElem?_getD, h]

/-- The builds' `PUSH1` ends in the byte the mock's does, once the immediate is in the code. -/
theorem pushWord_one_get_31 {f : Frame} (h0 : 0 ≤ f.pc) (hlt : f.pc + 1 < toInt32 f.codeSize.toNat) :
    (f.pushWord 1).get 31 = f.codeAt (f.pc + 1) := by
  have hcs : f.codeSize.toNat < 2 ^ 32 := f.codeSize.toNat_lt_size
  have hsmall : f.codeSize.toNat < 2 ^ 31 ∧ toInt32 f.codeSize.toNat = f.codeSize.toNat := by
    unfold toInt32 at hlt ⊢
    split_ifs at hlt ⊢ <;> omega
  have hcopy : toInt32 (((f.codeSize.toNat : Int) - f.pc - 1) % 2 ^ 32).toNat =
      (f.codeSize.toNat : Int) - f.pc - 1 := by
    unfold toInt32
    split_ifs <;> omega
  have hmin : min ((1 : Nat) : Int) ((f.codeSize.toNat : Int) - f.pc - 1) = 1 := by omega
  simp only [Frame.pushWord, hcopy, hmin, Int.zero_lt_one, if_true]
  rw [get_ofFn _ (by decide)]
  simp

/-- `ADD` in either build, on two to 1024 items: the low-64-bit sum written over the item below
the top. -/
theorem dispatch_add (b : Build) {f : Frame} (h2 : 2 ≤ f.stackSize)
    (h1024 : f.stackSize ≤ 1024) :
    b.dispatch 0x01 f = (⟨1, 3⟩, { f.setStack (f.stackSize - 2) (u64ToWord
      ((wordToU64 (f.stack (f.stackSize - 1)) + wordToU64 (f.stack (f.stackSize - 2))) % 2 ^ 64))
        with stackSize := f.stackSize - 1 }) := by
  cases b
  · show Optimized.opAdd f = _
    rw [Optimized.opAdd, Optimized.binaryOp, stackTop_of_lt (by omega), stackTop_of_lt (by omega),
      Nat.sub_zero, show f.stackSize - 1 - 1 = f.stackSize - 2 by omega]
    simp [stackFree, show ¬ f.stackSize < 1 by omega]
  · show Jumptable.opAdd f = _
    rw [Jumptable.opAdd, Jumptable.binaryOp, stackPop_of_pos (by omega)]
    dsimp only
    rw [stackPop_of_pos (by dsimp only; omega)]
    dsimp only
    rw [Jumptable.pushResult, stackPush_of_lt (by dsimp only; omega)]
    simp [show f.stackSize - 1 - 1 = f.stackSize - 2 by omega,
      show f.stackSize - 2 + 1 = f.stackSize - 1 by omega]

/-- `PUSH1` in either build, below 1024 items. -/
theorem dispatch_push1 (b : Build) {f : Frame} (h : f.stackSize < 1024) :
    b.dispatch 0x60 f =
      (⟨2, 3⟩, { f.setStack f.stackSize (f.pushWord 1) with stackSize := f.stackSize + 1 }) := by
  cases b
  · show Optimized.opPushN f 1 = _
    rw [Optimized.opPushN, stackAlloc, if_neg (by omega)]
    rfl
  · show Jumptable.opPushN f 1 = _
    rw [Jumptable.opPushN, stackPush, if_neg (by omega)]
    rfl

theorem MockAgrees.withPc {m r : Frame} (h : MockAgrees m r) (pc : Int) :
    MockAgrees { m with pc } { r with pc } := by
  obtain ⟨stack, state, rfl, hs⟩ := h
  exact ⟨stack, state, rfl, hs⟩

/-- The frames the mock and a build leave after one `ADD`. -/
theorem MockAgrees.add {m : Frame} {stack : Nat → Word} {state : Nat}
    (hs : ∀ i, (m.stack i).get 31 = (stack i).get 31) :
    MockAgrees (addFrame m) (({ ({ m with stack, state } : Frame).setStack (m.stackSize - 2)
      (u64ToWord ((wordToU64 (stack (m.stackSize - 1)) + wordToU64 (stack (m.stackSize - 2))) %
        2 ^ 64)) with stackSize := m.stackSize - 1 }).charge 3) := by
  refine ⟨Function.update stack (m.stackSize - 2) _, state, rfl, fun i => ?_⟩
  by_cases hi : i = m.stackSize - 2
  · subst hi
    simp only [addFrame, Frame.setStack, Function.update_same, byteWord_get_31, hs]
    exact (addWord_get_31 _ _).symm
  · simp [addFrame, Function.update_noteq hi, hs i]

/-- The frames the mock and a build leave after one `PUSH1` whose immediate is in the code. -/
theorem MockAgrees.push1 {m : Frame} {stack : Nat → Word} {state : Nat}
    (hs : ∀ i, (m.stack i).get 31 = (stack i).get 31) (h0 : 0 ≤ m.pc)
    (hlt : m.pc + 1 < toInt32 m.codeSize.toNat) :
    MockAgrees (push1Frame m) (({ ({ m with stack, state } : Frame).setStack m.stackSize
      (m.pushWord 1) with stackSize := m.stackSize + 1 }).charge 3) := by
  refine ⟨Function.update stack m.stackSize _, state, rfl, fun i => ?_⟩
  by_cases hi : i = m.stackSize
  · subst hi
    simp [push1Frame, pushWord_one_get_31 h0 hlt]
  · simp [push1Frame, Function.update_noteq hi, hs i]

section Builds

variable {b : Build} {hasTracer : Bool} {r : Frame}

/-- A build's pass on `ADD` with two to 1024 items. -/
theorem build_add (h3 : 3 ≤ r.gasRemaining) (hop : r.codeAt r.pc = 0x01) (h2 : 2 ≤ r.stackSize)
    (h1024 : r.stackSize ≤ 1024) (hlt : r.pc < toInt32 r.codeSize.toNat) :
    NativeEvm.loopBody b.dispatch hasTracer r =
      .next { ({ r.setStack (r.stackSize - 2) (u64ToWord ((wordToU64 (r.stack (r.stackSize - 1)) +
          wordToU64 (r.stack (r.stackSize - 2))) % 2 ^ 64)) with stackSize := r.stackSize - 1 }).charge 3
          with pc := r.pc + 1 }
        (traced hasTracer [.pre r, .post (({ r.setStack (r.stackSize - 2) (u64ToWord
          ((wordToU64 (r.stack (r.stackSize - 1)) + wordToU64 (r.stack (r.stackSize - 2))) % 2 ^ 64))
            with stackSize := r.stackSize - 1 }).charge 3) ⟨3, 0, 1⟩]) := by
  have hd := dispatch_add b h2 h1024
  rw [← hop] at hd
  have h0 : 0 ≤ r.pc := codeAt_nonneg (by rw [hop]; decide)
  have hadd : addInt32 r.pc 1 = r.pc + 1 :=
    addInt32_of_lt (by omega) (by have := toInt32_le_of_lt_size r.codeSize.toNat_lt_size; omega)
  rw [loopBody_of_dispatch h3 hd (show (0 : Int) ≤ 1 by decide) (show (3 : Int) ≤ r.gasRemaining from h3)]
  simp [Frame.charge, Frame.advance, hadd]

/-- A build's pass on `PUSH1` below 1024 items. -/
theorem build_push1 (h3 : 3 ≤ r.gasRemaining) (hop : r.codeAt r.pc = 0x60)
    (hfull : r.stackSize < 1024) (hlt : r.pc + 1 < toInt32 r.codeSize.toNat) :
    NativeEvm.loopBody b.dispatch hasTracer r =
      .next { ({ r.setStack r.stackSize (r.pushWord 1) with stackSize := r.stackSize + 1 }).charge 3
          with pc := r.pc + 2 }
        (traced hasTracer [.pre r, .post (({ r.setStack r.stackSize (r.pushWord 1) with
          stackSize := r.stackSize + 1 }).charge 3) ⟨3, 0, 2⟩]) := by
  have hd := dispatch_push1 b hfull
  rw [← hop] at hd
  have h0 : 0 ≤ r.pc := codeAt_nonneg (by rw [hop]; decide)
  have hadd : addInt32 r.pc 2 = r.pc + 2 :=
    addInt32_of_lt (by omega) (by have := toInt32_le_of_lt_size r.codeSize.toNat_lt_size; omega)
  rw [loopBody_of_dispatch h3 hd (show (0 : Int) ≤ 2 by decide) (show (3 : Int) ≤ r.gasRemaining from h3)]
  simp [Frame.charge, Frame.advance, hadd]

end Builds

/-- From related frames, a run the mock completes is one the build completes, pass for pass. -/
theorem loop_sim (b : Build) (hasTracer : Bool) :
    ∀ n m r, MockAgrees m r → r.state = 1 → passes m ≤ n → m.stackSize ≤ 1024 →
      (loop hasTracer n m).1.state = 7 →
      (runLoop (NativeEvm.loopBody b.dispatch hasTracer) n r).1.state = 7 ∧
      MockAgrees (loop hasTracer n m).1 (runLoop (NativeEvm.loopBody b.dispatch hasTracer) n r).1 ∧
      List.Forall₂ MockEventRel (loop hasTracer n m).2
        (runLoop (NativeEvm.loopBody b.dispatch hasTracer) n r).2
  | 0, _, _, _, _, hn, _, _ => absurd hn (by simp [passes])
  | n + 1, m, _, ⟨s, st, rfl, hs⟩, hst, hn, hstack, hdone => by
    simp only at hst
    subst hst
    have hagree : MockAgrees m { m with stack := s, state := 1 } := ⟨s, 1, rfl, hs⟩
    by_cases hr : m.pc < toInt32 m.codeSize.toNat
    · have hreal : ({ m with stack := s, state := 1 } : Frame).running := ⟨hr, rfl⟩
      have hcode : ({ m with stack := s, state := 1 } : Frame).codeAt m.pc = m.codeAt m.pc := rfl
      rcases loopBody_cases hasTracer m with ⟨h3, hop, hb⟩ | ⟨reason, events, hreason, hb⟩ |
        ⟨h3, hop, h2, hb⟩ | ⟨h3, hop, hpc, hfull, hb⟩
      · -- `STOP`: the mock returns, the build's next loop test fails
        have hmock : loop hasTracer (n + 1) m = ({ m with state := 7 },
            traced hasTracer [.pre m, .post { m with state := 7 } ⟨0, 0, 1⟩]) := by
          simp only [loop, hr, hb, if_true]
        rw [hmock, runLoop_succ_next hreal (loopBody_stop h3 (hcode.trans hop)),
          runLoop_of_state_ne_one _ (show (7 : Nat) ≠ 1 by decide)]
        exact ⟨rfl, ⟨s, 7, rfl, hs⟩, by
          rw [List.append_nil]
          exact forall₂_traced hasTracer (.cons (.pre hagree) (.cons (.postStop ⟨s, 7, rfl, hs⟩) .nil))⟩
      · -- a halt leaves `EXCEPTIONAL_HALT`, not a completed frame
        simp only [loop, hr, hb, if_true, Frame.halt] at hdone
        exact absurd hdone (by decide)
      · -- `ADD`
        obtain ⟨-, -, -, -, hs'⟩ := loopBody_next hb
        have hmock : loop hasTracer (n + 1) m =
            ((loop hasTracer n { addFrame m with pc := m.pc + 1 }).1,
              traced hasTracer [.pre m, .post (addFrame m) ⟨3, 0, 1⟩] ++
                (loop hasTracer n { addFrame m with pc := m.pc + 1 }).2) := by
          simp only [loop, hr, hb, if_true]
        rw [hmock] at hdone ⊢
        rw [runLoop_succ_next hreal (build_add h3 (hcode.trans hop) h2 hstack hr)]
        obtain ⟨h7, hrel, hevents⟩ := loop_sim b hasTracer n _ _
          ((MockAgrees.add hs).withPc (m.pc + 1)) rfl
          (show (toInt32 m.codeSize.toNat - (m.pc + 1)).toNat + 1 ≤ n by simp only [passes] at hn; omega)
          (hs' hstack) hdone
        exact ⟨h7, hrel, List.rel_append
          (forall₂_traced hasTracer (.cons (.pre hagree) (.cons (.post (MockAgrees.add hs)) .nil))) hevents⟩
      · -- `PUSH1`
        obtain ⟨-, -, -, -, hs'⟩ := loopBody_next hb
        have h0 : 0 ≤ m.pc := codeAt_nonneg (by rw [hop]; decide)
        have hmock : loop hasTracer (n + 1) m =
            ((loop hasTracer n { push1Frame m with pc := m.pc + 2 }).1,
              traced hasTracer [.pre m, .post (push1Frame m) ⟨3, 0, 2⟩] ++
                (loop hasTracer n { push1Frame m with pc := m.pc + 2 }).2) := by
          simp only [loop, hr, hb, if_true]
        rw [hmock] at hdone ⊢
        rw [runLoop_succ_next hreal (build_push1 h3 (hcode.trans hop) hfull hpc)]
        obtain ⟨h7, hrel, hevents⟩ := loop_sim b hasTracer n _ _
          ((MockAgrees.push1 hs h0 hpc).withPc (m.pc + 2)) rfl
          (show (toInt32 m.codeSize.toNat - (m.pc + 2)).toNat + 1 ≤ n by simp only [passes] at hn; omega)
          (hs' hstack) hdone
        exact ⟨h7, hrel, List.rel_append
          (forall₂_traced hasTracer (.cons (.pre hagree) (.cons (.post (MockAgrees.push1 hs h0 hpc)) .nil)))
          hevents⟩
    · -- the loop test fails on both sides
      have hmock : loop hasTracer (n + 1) m = ({ m with state := 7 }, []) := by
        simp only [loop, hr, if_false]
      have hreal : ¬ ({ m with stack := s, state := 1 } : Frame).running := fun h => hr h.1
      rw [hmock, runLoop_succ_of_not_running hreal]
      exact ⟨rfl, ⟨s, 7, rfl, hs⟩, .nil⟩

/-- A run the mock completes, either build completes too, from the same frame, with the same
upcalls one by one, and the same final frame but for the high 31 bytes of the stack words, where
the mock writes zeros.  The upcalls differ only in `STOP`'s reported `pc_increment`, 1 in the mock
and 0 in the builds, and in the `state` of the frames they see, which the builds set to 1 and the
mock leaves as it was entered.  So on code the mock completes (`STOP`, `ADD` and `PUSH1` with enough gas,
operands and room), the builds compute the same `pc`, gas, stack size and last bytes. -/
theorem mock_completion_matches_builds (b : Build) (hasTracer : Bool) (frame : Frame)
    (hstack : frame.stackSize ≤ 1024) (hdone : (executeMessage hasTracer frame).1.state = 7) :
    (b.executeMessage hasTracer frame).1.state = 7 ∧
    MockAgrees (executeMessage hasTracer frame).1 (b.executeMessage hasTracer frame).1 ∧
    List.Forall₂ MockEventRel (executeMessage hasTracer frame).2 (b.executeMessage hasTracer frame).2 := by
  have hfuel : frame.gasRemaining.toNat + 2 + passes frame =
      passes frame + (frame.gasRemaining.toNat + 2) := Nat.add_comm _ _
  have hmock := (loop_ends hasTracer (passes frame) frame le_rfl).1 (frame.gasRemaining.toNat + 2)
  rw [Build.executeMessage_eq, ← executeMessage_fuel_stable (Build.dispatch_effect b) hasTracer frame
    (passes frame), hfuel]
  rw [executeMessage, ← hmock] at hdone ⊢
  exact loop_sim b hasTracer _ frame _ ⟨frame.stack, 1, rfl, fun _ => rfl⟩ rfl (by omega) hstack hdone

theorem mock_completion_matches_builds_add :
    (Frame.scenario [0x60, 0x02, 0x60, 0x03, 0x01, 0x00] 20).stackSize ≤ 1024 ∧
    (executeMessage true (Frame.scenario [0x60, 0x02, 0x60, 0x03, 0x01, 0x00] 20)).1.state = 7 ∧
    (Build.optimized.executeMessage true
      (Frame.scenario [0x60, 0x02, 0x60, 0x03, 0x01, 0x00] 20)).1.state = 7 ∧
    MockAgrees (executeMessage true (Frame.scenario [0x60, 0x02, 0x60, 0x03, 0x01, 0x00] 20)).1
      (Build.optimized.executeMessage true
        (Frame.scenario [0x60, 0x02, 0x60, 0x03, 0x01, 0x00] 20)).1 ∧
    List.Forall₂ MockEventRel
      (executeMessage true (Frame.scenario [0x60, 0x02, 0x60, 0x03, 0x01, 0x00] 20)).2
      (Build.optimized.executeMessage true
        (Frame.scenario [0x60, 0x02, 0x60, 0x03, 0x01, 0x00] 20)).2 :=
  have hstack : (Frame.scenario [0x60, 0x02, 0x60, 0x03, 0x01, 0x00] 20).stackSize ≤ 1024 := by
    decide
  have hdone :
      (executeMessage true (Frame.scenario [0x60, 0x02, 0x60, 0x03, 0x01, 0x00] 20)).1.state = 7 := by
    decide
  ⟨hstack, hdone, mock_completion_matches_builds .optimized true _ hstack hdone⟩

end Mock

/-! ## 5. The one-step mock (`mock_native_evm.cpp`) -/

namespace NativeMock

/-- The message `mock_native_evm` copies to the output plane. -/
def outputMessage : List UInt8 := "NATIVE_EVM_SUCCESS".toUTF8.toList

/-- `execute_message` of `mock_native_evm.cpp`, which `run_test_simple.sh` links, on a non-null
frame whose `output_ptr` is `outputPtr`: the frame it leaves, and the bytes it copies to the output
plane (`output_size` is their number) when `output_ptr != 0`.  It reads no code: `pc += 1`, the
charge of 3 or the `INSUFFICIENT_GAS` halt, the sum of the last bytes of the two top items when
there are two, and completion. -/
def executeMessage (outputPtr : Nat) (frame : Frame) : Frame × Option (List UInt8) :=
  let f := { frame with pc := frame.pc + 1 }
  if f.gasRemaining < 3 then (f.halt 1, none)
  else
    let f := { f with gasRemaining := f.gasRemaining - 3 }
    let f := if 2 ≤ f.stackSize then
        { f.setStack (f.stackSize - 2)
            (Mock.byteWord ((f.stack (f.stackSize - 1)).get 31 + (f.stack (f.stackSize - 2)).get 31)) with
          stackSize := f.stackSize - 1 }
      else f
    ({ f with state := 7 }, if outputPtr ≠ 0 then some outputMessage else none)

end NativeMock

end NativeEvm
