import NativeEvm.Bounds

/-!
# Footprint — the slots and code bytes a step may touch

`stack_top(ctx, offset)` hands out a slot only for `offset < stack_size`, `stack_alloc` and
`stack_push` only below 1024; `op_push_n` copies at most `code_size - pc - 1` immediate bytes;
and the jump handlers test `dest < code_size` before they read `code[dest]`.  So a handler call
reads the stack plane only below `stack_size` and the code plane only below `code_size`, writes
no stack slot at or above both its starting and its final `stack_size`, and never writes the code
plane (`Footprint`, proved handler by handler for both builds).

The loop fetches `code[pc]` only while `pc < code_size`.  So from `0 ≤ pc`, at most 1024 items
and a code of at most `2^31 - 33` bytes every fetch of a run is inside the code, no slot at or
above 1024 is ever written, and a run from a frame with other words above `stack_size` or other
bytes past `code_size` is the same run (`executeMessage_footprint`).  On a longer code the
`int32_t` `pc` can wrap negative and still pass the loop test, and the next fetch reads below the
code (`push32_at_code_end_fetches_below_code`).
-/

namespace NativeEvm

/-! ## 1. Planes a step cannot tell apart -/

/-- `f` with the stack plane `stack` and the code plane `code`. -/
def Frame.withPlanes (f : Frame) (stack : Nat → Word) (code : List UInt8) : Frame :=
  { f with stack := stack, code := code }

/-- The slots below `n` of `t`, over the stack plane `s`. -/
def overlay (n : Nat) (t s : Nat → Word) : Nat → Word := fun i => if i < n then t i else s i

/-- Planes that agree with those of `f` where `f` may be read: the slots below `stack_size` and
the code bytes below `code_size`. -/
structure Frame.Shares (f : Frame) (s : Nat → Word) (c : List UInt8) : Prop where
  stack : ∀ i, i < f.stackSize → s i = f.stack i
  code : ∀ i, i < f.codeSize.toNat → c.getD i 0 = f.code.getD i 0

/-- The footprint of the handler call `step` from `f` is in bounds: from `f` with any planes that
agree where `f` may be read, the call returns the same result and the frame it returns from `f`,
with the stack words of that frame below the larger of the two stack sizes, the other plane's
words above, and the other code plane.  So the call reads the stack only below `stack_size` and
the code only below `code_size`, writes no slot above both stack sizes, and never writes code. -/
def Footprint (step : Frame → OpResult × Frame) (f : Frame) : Prop :=
  ∀ s c, f.Shares s c → step (f.withPlanes s c) =
    ((step f).1, (step f).2.withPlanes
      (overlay (max f.stackSize (step f).2.stackSize) (step f).2.stack s) c)

section Planes

variable {f : Frame} {s : Nat → Word} {c : List UInt8}

@[simp] theorem Frame.withPlanes_stack : (f.withPlanes s c).stack = s := rfl
@[simp] theorem Frame.withPlanes_code : (f.withPlanes s c).code = c := rfl
@[simp] theorem Frame.withPlanes_stackSize : (f.withPlanes s c).stackSize = f.stackSize := rfl
@[simp] theorem Frame.withPlanes_memorySize : (f.withPlanes s c).memorySize = f.memorySize := rfl
@[simp] theorem Frame.withPlanes_pc : (f.withPlanes s c).pc = f.pc := rfl
@[simp] theorem Frame.withPlanes_codeSize : (f.withPlanes s c).codeSize = f.codeSize := rfl
@[simp] theorem Frame.withPlanes_isStatic : (f.withPlanes s c).isStatic = f.isStatic := rfl
@[simp] theorem Frame.withPlanes_state : (f.withPlanes s c).state = f.state := rfl
@[simp] theorem Frame.withPlanes_gasRemaining :
    (f.withPlanes s c).gasRemaining = f.gasRemaining := rfl
@[simp] theorem Frame.withPlanes_storage : (f.withPlanes s c).storage = f.storage := rfl
@[simp] theorem Frame.withPlanes_contract : (f.withPlanes s c).contract = f.contract := rfl
@[simp] theorem Frame.withPlanes_maxStorageSlots :
    (f.withPlanes s c).maxStorageSlots = f.maxStorageSlots := rfl
@[simp] theorem Frame.withPlanes_self : f.withPlanes f.stack f.code = f := rfl

theorem Frame.shares_self (f : Frame) : f.Shares f.stack f.code :=
  ⟨fun _ _ => rfl, fun _ _ => rfl⟩

@[simp] theorem stackTop_withPlanes (offset : Nat) :
    stackTop (f.withPlanes s c) offset = stackTop f offset := rfl

theorem stackAlloc_withPlanes :
    stackAlloc (f.withPlanes s c) = (stackAlloc f).map fun p => (p.1, p.2.withPlanes s c) := by
  simp only [stackAlloc, Frame.withPlanes_stackSize]; split_ifs <;> rfl

theorem stackFree_withPlanes (count : Nat) :
    stackFree (f.withPlanes s c) count =
      ((stackFree f count).1, (stackFree f count).2.withPlanes s c) := by
  simp only [stackFree, Frame.withPlanes_stackSize]; split_ifs <;> rfl

theorem setStack_withPlanes (slot : Nat) (w : Word) :
    (f.withPlanes s c).setStack slot w =
      (f.setStack slot w).withPlanes (Function.update s slot w) c := rfl

theorem ensureMemory_withPlanes (offset size : Nat) :
    ensureMemory (f.withPlanes s c) offset size =
      ((ensureMemory f offset size).1, (ensureMemory f offset size).2.withPlanes s c) := by
  simp only [ensureMemory, Frame.withPlanes_memorySize]; split_ifs <;> rfl

/-- The closing step of a handler call that writes the stack: the call from `f` with other planes
returns `(r, g)` with other planes, whose stack plane `s'` agrees with `g`'s below the larger
stack size `m` and with `s` above it. -/
theorem eq_overlay_pair {p : OpResult × Frame} {r : OpResult} {g : Frame} {s' : Nat → Word}
    (n m : Nat) (hp : p = (r, g.withPlanes s' c)) (hm : max n g.stackSize = m)
    (hlo : ∀ i, i < m → s' i = g.stack i) (hhi : ∀ i, m ≤ i → s' i = s i) :
    p = (r, g.withPlanes (overlay (max n g.stackSize) g.stack s) c) := by
  rw [hp, hm]
  congr 3
  funext i
  unfold overlay
  split
  · exact hlo i ‹_›
  · exact hhi i (by omega)

/-- The closing step of a handler call that leaves the stack plane as it is and frees items at
most. -/
theorem eq_overlay_keep {p : OpResult × Frame} {r : OpResult} {g : Frame}
    (hp : p = (r, g.withPlanes s c)) (hs : ∀ i, i < f.stackSize → s i = f.stack i)
    (hstack : g.stack = f.stack) (hsize : g.stackSize ≤ f.stackSize) :
    p = (r, g.withPlanes (overlay (max f.stackSize g.stackSize) g.stack s) c) :=
  eq_overlay_pair _ _ hp (max_eq_left hsize) (fun i hi => hstack ▸ hs i hi) (fun _ _ => rfl)

theorem Footprint.of_stack_eq {step : Frame → OpResult × Frame}
    (h : ∀ s c, f.Shares s c →
      step (f.withPlanes s c) = ((step f).1, (step f).2.withPlanes s c))
    (hstack : (step f).2.stack = f.stack) (hsize : (step f).2.stackSize ≤ f.stackSize) :
    Footprint step f :=
  fun s c hs => eq_overlay_keep (h s c hs) hs.stack hstack hsize

/-- Writing the same word into two stack planes keeps them agreeing below `n`. -/
theorem agree_update {t : Nat → Word} {n : Nat} (h : ∀ i, i < n → s i = t i) (slot : Nat)
    (w : Word) : ∀ i, i < n → Function.update s slot w i = Function.update t slot w i := by
  intro i hi
  by_cases hi' : i = slot
  · subst hi'; simp only [Function.update_same]
  · simp only [Function.update_noteq hi', h i hi]

/-- Writing the same word into the slot above `n` makes them agree below `n + 1`. -/
theorem agree_update_top {t : Nat → Word} {n : Nat} (h : ∀ i, i < n → s i = t i) (w : Word) :
    ∀ i, i < n + 1 → Function.update s n w i = Function.update t n w i := by
  intro i hi
  by_cases hi' : i = n
  · subst hi'; simp only [Function.update_same]
  · simp only [Function.update_noteq hi', h i (by omega)]

theorem update_above {slot n : Nat} (hslot : slot < n) (w : Word) :
    ∀ i, n ≤ i → Function.update s slot w i = s i :=
  fun _ hi => Function.update_noteq (by omega) _ _

theorem stackFree_stackSize_le (count : Nat) : (stackFree f count).2.stackSize ≤ f.stackSize := by
  simp only [stackFree_snd]; split <;> omega

theorem stackFree_of_le {count : Nat} (h : count ≤ f.stackSize) :
    stackFree f count = (true, { f with stackSize := f.stackSize - count }) := if_neg (by omega)

@[simp] theorem Frame.setStack_stackSize (slot : Nat) (w : Word) :
    (f.setStack slot w).stackSize = f.stackSize := rfl

theorem Frame.setStack_stack (slot : Nat) (w : Word) :
    (f.setStack slot w).stack = Function.update f.stack slot w := rfl

theorem stackFree_snd_stack (count : Nat) : (stackFree f count).2.stack = f.stack := by
  simp only [stackFree_snd]

theorem writeMemory_withPlanes (offset : Nat) (bytes : List UInt8) :
    (f.withPlanes s c).writeMemory offset bytes = (f.writeMemory offset bytes).withPlanes s c := rfl

theorem ensureMemory_snd_stack (offset size : Nat) :
    (ensureMemory f offset size).2.stack = f.stack ∧
      (ensureMemory f offset size).2.stackSize = f.stackSize := by
  obtain ⟨memory, memorySize, hg, -⟩ := ensureMemory_spec f offset size
  rw [hg]; exact ⟨rfl, rfl⟩

end Planes

/-! ## 2. Reads of the code plane -/

section Code

theorem Bytes.ofFn_congr {n : Nat} {g h : Nat → UInt8} (hgh : ∀ i, i < n → g i = h i) :
    Bytes.ofFn n g = Bytes.ofFn n h :=
  Bytes.ext (List.map_congr_left fun i hi => hgh i (List.mem_range.mp hi))

variable {f : Frame} {s : Nat → Word} {c : List UInt8}

variable (hc : ∀ i, i < f.codeSize.toNat → c.getD i 0 = f.code.getD i 0)
include hc

theorem codeAt_withPlanes {i : Int} (hi : i < f.codeSize.toNat) :
    (f.withPlanes s c).codeAt i = f.codeAt i := by
  unfold Frame.codeAt
  split
  · exact hc _ (by omega)
  · rfl

/-- The jump test reads `code[dest]` only once `dest < code_size` holds. -/
theorem validJumpDest_withPlanes (dest : Nat) :
    (f.withPlanes s c).validJumpDest dest = f.validJumpDest dest := by
  unfold Frame.validJumpDest
  by_cases h : dest < f.codeSize.toNat
  · rw [codeAt_withPlanes hc (by exact_mod_cast h)]; rfl
  · simp only [Frame.withPlanes_codeSize, h, decide_False, Bool.false_and]

/-- `op_push_n` copies no byte past `code_size`: `bytes_to_copy ≤ code_size - pc - 1`. -/
theorem pushWord_withPlanes (hlt : f.pc < f.codeSize.toNat) (n : Nat) :
    (f.withPlanes s c).pushWord n = f.pushWord n := by
  unfold Frame.pushWord
  simp only [Frame.withPlanes_codeSize, Frame.withPlanes_pc]
  split
  · refine Bytes.ofFn_congr fun i hi => ?_
    split
    · refine codeAt_withPlanes hc ?_
      have h32 := toInt32_le ((f.codeSize.toNat - f.pc - 1) % 2 ^ 32).toNat
      have hmin := min_le_right (n : Int) (toInt32 ((f.codeSize.toNat - f.pc - 1) % 2 ^ 32).toNat)
      omega
    · rfl
  · rfl

end Code

/-- `PUSH5 0x0100000007; JUMP; JUMPDEST; STOP`: a jump to `2^32 + 7`. -/
def jumpPast4GiB : List UInt8 := [0x64, 0x01, 0x00, 0x00, 0x00, 0x07, 0x56, 0x5b, 0x00]

/-- `PUSH1 1; PUSH5 0x0100000009; JUMPI; JUMPDEST; STOP`: a taken jump to `2^32 + 9`. -/
def jumpiPast4GiB : List UInt8 :=
  [0x60, 0x01, 0x64, 0x01, 0x00, 0x00, 0x00, 0x09, 0x57, 0x5b, 0x00]

/-- In both builds a destination `2^32 + j` past the end of the code is cast to `j`: the `JUMP`
to `2^32 + 7` and the `JUMPI` to `2^32 + 9` land on the `JUMPDEST` there, are charged 8 and 10,
and the runs complete. -/
theorem jump_past_4GiB_lands_in_code (b : Build) :
    (b.executeMessage false (Frame.scenario jumpPast4GiB 100)).1.state = 7 ∧
    (b.executeMessage false (Frame.scenario jumpPast4GiB 100)).1.gasRemaining = 100 - 3 - 8 - 1 ∧
    (b.executeMessage false (Frame.scenario jumpiPast4GiB 100)).1.state = 7 ∧
    (b.executeMessage false (Frame.scenario jumpiPast4GiB 100)).1.gasRemaining =
      100 - 3 - 3 - 10 - 1 := by
  cases b <;> decide

/-- `PUSH2` followed by the single byte `0xab`, in both builds: the byte is right-aligned, so the
word pushed is `0x00ab`, not `0xab00`; `pc` advances by 3 and the step is charged 3. -/
theorem truncated_push_right_aligns (b : Build) :
    (b.executeMessage false (Frame.scenario [0x61, 0xab] 10)).1.stack 0 = u64ToWord 0xab ∧
    (b.executeMessage false (Frame.scenario [0x61, 0xab] 10)).1.stackSize = 1 ∧
    (b.executeMessage false (Frame.scenario [0x61, 0xab] 10)).1.pc = 3 ∧
    (b.executeMessage false (Frame.scenario [0x61, 0xab] 10)).1.gasRemaining = 7 := by
  cases b <;> decide

/-! ## 3. The handlers of `evm_optimized` -/

namespace Optimized

section Handlers

variable (f : Frame)

theorem fail_footprint : Footprint fail f :=
  Footprint.of_stack_eq (fun _ _ _ => rfl) rfl le_rfl

theorem binaryOp_footprint (op : Word → Word → Word) (cost : Int) :
    Footprint (binaryOp op cost) f := by
  intro s c hs
  unfold binaryOp
  simp only [stackTop_withPlanes]
  rcases h0 : stackTop f 0 with _ | a
  · exact fail_footprint f s c hs
  rcases h1 : stackTop f 1 with _ | b
  · exact fail_footprint f s c hs
  obtain ⟨ha, rfl⟩ := stackTop_eq_some.mp h0
  obtain ⟨hb, rfl⟩ := stackTop_eq_some.mp h1
  dsimp only
  rw [Frame.withPlanes_stack, hs.stack _ (by omega), hs.stack _ (by omega), setStack_withPlanes,
    stackFree_withPlanes, stackFree_of_le (by simp; omega)]
  exact eq_overlay_pair _ _ rfl (max_eq_left (by simp)) (agree_update hs.stack _ _)
    (update_above (by omega) _)

theorem unaryOp_footprint (op : Word → Word) (cost : Int) : Footprint (unaryOp op cost) f := by
  intro s c hs
  unfold unaryOp
  simp only [stackTop_withPlanes]
  rcases h0 : stackTop f 0 with _ | a
  · exact fail_footprint f s c hs
  obtain ⟨ha, rfl⟩ := stackTop_eq_some.mp h0
  dsimp only
  rw [Frame.withPlanes_stack, hs.stack _ (by omega), setStack_withPlanes]
  exact eq_overlay_pair _ _ rfl (max_eq_left (by simp)) (agree_update hs.stack _ _)
    (update_above (by omega) _)

theorem pushOp_footprint (value : Frame → Word) (cost : Int)
    (hv : ∀ (g : Frame) s c, value (g.withPlanes s c) = value g) :
    Footprint (pushOp value cost) f := by
  intro s c hs
  unfold pushOp
  rw [stackAlloc_withPlanes]
  rcases Nat.lt_or_ge f.stackSize 1024 with h | h
  · rw [stackAlloc_of_lt h]
    dsimp only [Option.map_some']
    rw [setStack_withPlanes, hv]
    exact eq_overlay_pair _ _ rfl (by simp) (agree_update_top hs.stack _)
      (update_above (by omega) _)
  · rw [stackAlloc_of_le h]
    exact fail_footprint f s c hs

theorem opStop_footprint : Footprint opStop f :=
  Footprint.of_stack_eq (fun _ _ _ => rfl) rfl le_rfl

theorem opPop_footprint : Footprint opPop f := by
  intro s c hs
  unfold opPop
  rw [stackFree_withPlanes]
  rcases Nat.lt_or_ge f.stackSize 1 with h | h
  · rw [show stackFree f 1 = (false, f) from if_pos h]
    exact fail_footprint f s c hs
  · rw [stackFree_of_le h]
    exact eq_overlay_keep rfl hs.stack rfl (by simp)

theorem opMload_footprint : Footprint opMload f := by
  intro s c hs
  unfold opMload
  simp only [stackTop_withPlanes]
  rcases h0 : stackTop f 0 with _ | a
  · exact fail_footprint f s c hs
  obtain ⟨ha, rfl⟩ := stackTop_eq_some.mp h0
  dsimp only
  rw [Frame.withPlanes_stack, hs.stack _ (by omega), ensureMemory_withPlanes]
  obtain ⟨hgs, hgz⟩ := ensureMemory_snd_stack (f := f)
    (wordToU64 (f.stack (f.stackSize - 1 - 0)) % 2 ^ 32) 32
  rcases he : ensureMemory f (wordToU64 (f.stack (f.stackSize - 1 - 0)) % 2 ^ 32) 32 with
    ⟨_ | _, g⟩ <;> rw [he] at hgs hgz <;> dsimp only at hgs hgz ⊢
  · exact eq_overlay_keep rfl hs.stack hgs hgz.le
  · rw [setStack_withPlanes]
    exact eq_overlay_pair _ f.stackSize rfl (by simp [hgz])
      (fun i hi => by rw [Frame.setStack_stack, hgs]; exact agree_update hs.stack _ _ i hi)
      (update_above (by omega) _)

/-- The memory stores: offset and value read below `stack_size`, `ensure_memory`, a write, two
items freed. -/
theorem storeOp_footprint (size : Nat) (bytes : Word → List UInt8) :
    Footprint (fun f => match stackTop f 0, stackTop f 1 with
      | some o, some v =>
        let offset := wordToU64 (f.stack o) % 2 ^ 32
        match ensureMemory f offset size with
        | (false, g) => fail g
        | (true, g) => (⟨1, 3⟩, (stackFree (g.writeMemory offset (bytes (g.stack v))) 2).2)
      | _, _ => fail f) f := by
  intro s c hs
  simp only [stackTop_withPlanes]
  rcases h0 : stackTop f 0 with _ | o
  · exact fail_footprint f s c hs
  rcases h1 : stackTop f 1 with _ | v
  · exact fail_footprint f s c hs
  obtain ⟨ho, rfl⟩ := stackTop_eq_some.mp h0
  obtain ⟨hv, rfl⟩ := stackTop_eq_some.mp h1
  dsimp only
  rw [Frame.withPlanes_stack, hs.stack _ (by omega), ensureMemory_withPlanes]
  obtain ⟨hgs, hgz⟩ := ensureMemory_snd_stack (f := f)
    (wordToU64 (f.stack (f.stackSize - 1 - 0)) % 2 ^ 32) size
  rcases he : ensureMemory f (wordToU64 (f.stack (f.stackSize - 1 - 0)) % 2 ^ 32) size with
    ⟨_ | _, g⟩ <;> rw [he] at hgs hgz <;> dsimp only at hgs hgz ⊢
  · exact eq_overlay_keep rfl hs.stack hgs hgz.le
  · rw [Frame.withPlanes_stack, hs.stack _ (by omega), ← hgs, writeMemory_withPlanes,
      stackFree_withPlanes]
    exact eq_overlay_keep rfl hs.stack ((stackFree_snd_stack 2).trans hgs)
      (le_trans (stackFree_stackSize_le 2) hgz.le)

theorem opMstore_footprint : Footprint opMstore f := storeOp_footprint f 32 Bytes.toList

theorem opMstore8_footprint : Footprint opMstore8 f :=
  storeOp_footprint f 1 fun value => [value.get 31]

theorem opSload_footprint : Footprint opSload f := by
  intro s c hs
  unfold opSload
  simp only [stackTop_withPlanes]
  rcases h0 : stackTop f 0 with _ | a
  · exact fail_footprint f s c hs
  obtain ⟨ha, rfl⟩ := stackTop_eq_some.mp h0
  dsimp only
  simp only [Frame.withPlanes_stack, hs.stack (f.stackSize - 1 - 0) (by omega),
    Frame.withPlanes_storage, Frame.withPlanes_contract]
  rcases Storage.find f.storage f.contract (f.stack (f.stackSize - 1 - 0))
    with _ | ⟨i, entry⟩ <;> dsimp only <;>
    exact eq_overlay_pair _ f.stackSize rfl (max_eq_left le_rfl) (agree_update hs.stack _ _)
      (update_above (by omega) _)

theorem opSstore_footprint : Footprint opSstore f := by
  intro s c hs
  unfold opSstore
  simp only [stackTop_withPlanes, Frame.withPlanes_isStatic]
  split_ifs
  · exact eq_overlay_keep rfl hs.stack rfl le_rfl
  rcases h0 : stackTop f 0 with _ | k
  · exact fail_footprint f s c hs
  rcases h1 : stackTop f 1 with _ | v
  · exact fail_footprint f s c hs
  obtain ⟨hk, rfl⟩ := stackTop_eq_some.mp h0
  obtain ⟨hv, rfl⟩ := stackTop_eq_some.mp h1
  dsimp only
  simp only [Frame.withPlanes_stack, hs.stack (f.stackSize - 1 - 0) (by omega),
    hs.stack (f.stackSize - 1 - 1) (by omega), Frame.withPlanes_storage,
    Frame.withPlanes_contract, Frame.withPlanes_maxStorageSlots, stackFree_snd,
    Frame.withPlanes_stackSize, show ¬ f.stackSize < 2 by omega, if_false]
  rcases Storage.find f.storage f.contract (f.stack (f.stackSize - 1 - 0)) with _ | ⟨i, entry⟩
  · rcases Storage.add f.storage f.maxStorageSlots f.contract (f.stack (f.stackSize - 1 - 0)) with
      _ | entries
    · exact eq_overlay_keep rfl hs.stack rfl le_rfl
    · exact eq_overlay_keep rfl hs.stack rfl (Nat.sub_le _ _)
  · exact eq_overlay_keep rfl hs.stack rfl (Nat.sub_le _ _)

theorem opJump_footprint : Footprint opJump f := by
  intro s c hs
  unfold opJump
  simp only [stackTop_withPlanes]
  rcases h0 : stackTop f 0 with _ | d
  · exact fail_footprint f s c hs
  obtain ⟨hd, rfl⟩ := stackTop_eq_some.mp h0
  dsimp only
  rw [Frame.withPlanes_stack, hs.stack _ (by omega), validJumpDest_withPlanes hs.code,
    stackFree_withPlanes]
  split
  · exact eq_overlay_keep rfl hs.stack (stackFree_snd_stack 1) (stackFree_stackSize_le 1)
  · exact eq_overlay_keep rfl hs.stack rfl le_rfl

theorem opJumpi_footprint : Footprint opJumpi f := by
  intro s c hs
  unfold opJumpi
  simp only [stackTop_withPlanes]
  rcases h0 : stackTop f 0 with _ | d
  · exact fail_footprint f s c hs
  rcases h1 : stackTop f 1 with _ | k
  · exact fail_footprint f s c hs
  obtain ⟨hd, rfl⟩ := stackTop_eq_some.mp h0
  obtain ⟨hk, rfl⟩ := stackTop_eq_some.mp h1
  dsimp only
  rw [Frame.withPlanes_stack, hs.stack _ (by omega), hs.stack _ (by omega), stackFree_withPlanes,
    stackFree_of_le (show 2 ≤ f.stackSize by omega)]
  dsimp only
  rw [validJumpDest_withPlanes]
  · split_ifs <;> exact eq_overlay_keep rfl hs.stack rfl (Nat.sub_le _ _)
  · exact hs.code

theorem opJumpdest_footprint : Footprint opJumpdest f :=
  Footprint.of_stack_eq (fun _ _ _ => rfl) rfl le_rfl

theorem opPushN_footprint (hlt : f.pc < f.codeSize.toNat) (n : Nat) :
    Footprint (fun f => opPushN f n) f := by
  intro s c hs
  dsimp only
  unfold opPushN
  rw [stackAlloc_withPlanes]
  rcases Nat.lt_or_ge f.stackSize 1024 with h | h
  · rw [stackAlloc_of_lt h]
    dsimp only [Option.map_some']
    rw [setStack_withPlanes, pushWord_withPlanes]
    · exact eq_overlay_pair _ _ rfl (by simp) (agree_update_top hs.stack _)
        (update_above (by omega) _)
    · exact hs.code
    · exact hlt
  · rw [stackAlloc_of_le h]
    exact fail_footprint f s c hs

theorem opDupN_footprint (n : Nat) : Footprint (fun f => opDupN f n) f := by
  intro s c hs
  dsimp only
  unfold opDupN
  simp only [stackTop_withPlanes]
  rcases h0 : stackTop f (n - 1) with _ | source
  · exact fail_footprint f s c hs
  obtain ⟨hn, rfl⟩ := stackTop_eq_some.mp h0
  dsimp only
  rw [stackAlloc_withPlanes]
  rcases Nat.lt_or_ge f.stackSize 1024 with h | h
  · rw [stackAlloc_of_lt h]
    dsimp only [Option.map_some']
    rw [setStack_withPlanes, Frame.withPlanes_stack, hs.stack _ (by omega)]
    exact eq_overlay_pair _ _ rfl (by simp) (agree_update_top hs.stack _)
      (update_above (by omega) _)
  · rw [stackAlloc_of_le h]
    exact fail_footprint f s c hs

theorem opSwapN_footprint (n : Nat) : Footprint (fun f => opSwapN f n) f := by
  intro s c hs
  dsimp only
  unfold opSwapN
  simp only [stackTop_withPlanes]
  rcases h0 : stackTop f 0 with _ | top
  · exact fail_footprint f s c hs
  rcases h1 : stackTop f n with _ | other
  · exact fail_footprint f s c hs
  obtain ⟨ht, rfl⟩ := stackTop_eq_some.mp h0
  obtain ⟨ho, rfl⟩ := stackTop_eq_some.mp h1
  dsimp only
  rw [Frame.withPlanes_stack, hs.stack _ (by omega), hs.stack _ (by omega), setStack_withPlanes,
    setStack_withPlanes]
  exact eq_overlay_pair _ f.stackSize rfl (max_eq_left le_rfl)
    (agree_update (agree_update hs.stack _ _) _ _)
    (fun i hi => by rw [update_above (by omega) _ i hi, update_above (by omega) _ i hi])

theorem opStub_footprint : Footprint opStub f :=
  Footprint.of_stack_eq (fun _ _ _ => rfl) rfl le_rfl

theorem opInvalid_footprint : Footprint opInvalid f :=
  Footprint.of_stack_eq (fun _ _ _ => rfl) rfl le_rfl

end Handlers

/-- Every handler `JUMP_TABLE` points to, called from a frame whose `pc` is inside the code. -/
theorem Handler.exec_footprint (h : Handler) {f : Frame} (hlt : f.pc < f.codeSize.toNat) :
    Footprint h.exec f := by
  cases h with
  | stop => exact opStop_footprint f
  | add | mul | sub | div | mod | lt | gt | eq | and | or | xor =>
    dsimp only [Handler.exec]; exact binaryOp_footprint f _ _
  | iszero | not => dsimp only [Handler.exec]; exact unaryOp_footprint f _ _
  | pc | gas | push0 => dsimp only [Handler.exec]; exact pushOp_footprint f _ _ fun _ _ _ => rfl
  | pop => exact opPop_footprint f
  | mload => exact opMload_footprint f
  | mstore => exact opMstore_footprint f
  | mstore8 => exact opMstore8_footprint f
  | sload => exact opSload_footprint f
  | sstore => exact opSstore_footprint f
  | jump => exact opJump_footprint f
  | jumpi => exact opJumpi_footprint f
  | jumpdest => exact opJumpdest_footprint f
  | push n => exact opPushN_footprint f hlt n
  | dup n => exact opDupN_footprint f n
  | swap n => exact opSwapN_footprint f n
  | stub => exact opStub_footprint f
  | invalid => exact opInvalid_footprint f

end Optimized

/-! ## 4. The handlers of `evm_jumptable` -/

section Pops

variable {f : Frame} {s : Nat → Word} {c : List UInt8}

theorem stackPop_withPlanes (hs : ∀ i, i < f.stackSize → s i = f.stack i) :
    stackPop (f.withPlanes s c) = (stackPop f).map fun p => (p.1, p.2.withPlanes s c) := by
  unfold stackPop
  simp only [Frame.withPlanes_stackSize]
  split_ifs with h
  · rfl
  · rw [Frame.withPlanes_stack, hs _ (by omega)]; rfl

theorem stackPush_withPlanes (w : Word) :
    stackPush (f.withPlanes s c) w = ((stackPush f w).1, (stackPush f w).2.withPlanes
      (if 1024 ≤ f.stackSize then s else Function.update s f.stackSize w) c) := by
  unfold stackPush
  simp only [Frame.withPlanes_stackSize]
  split_ifs <;> rfl

end Pops

namespace Jumptable

section Handlers

variable (f : Frame)

theorem fail_footprint : Footprint fail f :=
  Footprint.of_stack_eq (fun _ _ _ => rfl) rfl le_rfl

/-- `push_result` into a frame `g` that `f` reached by pops and memory growth. -/
theorem pushResult_footprint {g : Frame} {s : Nat → Word} {c : List UInt8}
    (hg : g.stack = f.stack) (hle : g.stackSize ≤ f.stackSize)
    (hs : ∀ i, i < f.stackSize → s i = f.stack i) (w : Word) (cost : Int) :
    pushResult w cost (g.withPlanes s c) = ((pushResult w cost g).1,
      (pushResult w cost g).2.withPlanes
        (overlay (max f.stackSize (pushResult w cost g).2.stackSize) (pushResult w cost g).2.stack s)
        c) := by
  unfold pushResult
  rw [stackPush_withPlanes]
  by_cases h : 1024 ≤ g.stackSize
  · rw [stackPush_of_le h, if_pos h]
    exact eq_overlay_keep rfl hs hg hle
  · rw [stackPush_of_lt (by omega), if_neg h]
    refine eq_overlay_pair _ _ rfl rfl (fun i hi => ?_) (fun i hi => ?_)
    · by_cases hi' : i = g.stackSize
      · subst hi'; simp only [Frame.setStack_stack, Function.update_same]
      · simp only [Frame.setStack_stack, Function.update_noteq hi', hg]
        exact hs i (by simp at hi; omega)
    · exact Function.update_noteq (by simp at hi; omega) _ _

theorem binaryOp_footprint (op : Word → Word → Word) (cost : Int) :
    Footprint (binaryOp op cost) f := by
  intro s c hs
  unfold binaryOp
  rw [stackPop_withPlanes hs.stack]
  rcases Nat.lt_or_ge f.stackSize 1 with h0 | h0
  · rw [stackPop_of_zero (by omega)]
    exact fail_footprint f s c hs
  rw [stackPop_of_pos h0]
  dsimp only [Option.map_some']
  rw [stackPop_withPlanes]
  · rcases Nat.lt_or_ge f.stackSize 2 with h1 | h1
    · rw [stackPop_of_zero (by dsimp only; omega)]
      exact eq_overlay_keep rfl hs.stack rfl (by dsimp only [fail]; omega)
    · rw [stackPop_of_pos (by dsimp only; omega)]
      refine pushResult_footprint f ?_ ?_ hs.stack _ _
      · rfl
      · dsimp only; omega
  · exact fun i hi => hs.stack i (by dsimp only at hi; omega)

theorem unaryOp_footprint (op : Word → Word) (cost : Int) : Footprint (unaryOp op cost) f := by
  intro s c hs
  unfold unaryOp
  rw [stackPop_withPlanes hs.stack]
  rcases Nat.lt_or_ge f.stackSize 1 with h0 | h0
  · rw [stackPop_of_zero (by omega)]
    exact fail_footprint f s c hs
  · rw [stackPop_of_pos h0]
    refine pushResult_footprint f ?_ ?_ hs.stack _ _
    · rfl
    · dsimp only; omega

theorem opStop_footprint : Footprint opStop f :=
  Footprint.of_stack_eq (fun _ _ _ => rfl) rfl le_rfl

theorem opPop_footprint : Footprint opPop f := by
  intro s c hs
  unfold opPop
  rw [stackPop_withPlanes hs.stack]
  rcases Nat.lt_or_ge f.stackSize 1 with h0 | h0
  · rw [stackPop_of_zero (by omega)]
    exact fail_footprint f s c hs
  · rw [stackPop_of_pos h0]
    exact eq_overlay_keep rfl hs.stack rfl (by dsimp only [fail]; omega)

theorem opMload_footprint : Footprint opMload f := by
  intro s c hs
  unfold opMload pushResult
  rw [stackPop_withPlanes hs.stack]
  rcases Nat.lt_or_ge f.stackSize 1 with h0 | h0
  · rw [stackPop_of_zero (by omega)]
    exact fail_footprint f s c hs
  rw [stackPop_of_pos h0]
  dsimp only [Option.map_some']
  rw [ensureMemory_withPlanes]
  obtain ⟨hgs, hgz⟩ := ensureMemory_snd_stack (f := { f with stackSize := f.stackSize - 1 })
    (wordToU64 (f.stack (f.stackSize - 1)) % 2 ^ 32) 32
  rcases he : ensureMemory { f with stackSize := f.stackSize - 1 }
    (wordToU64 (f.stack (f.stackSize - 1)) % 2 ^ 32) 32 with ⟨_ | _, g⟩ <;>
    rw [he] at hgs hgz <;> dsimp only at hgs hgz ⊢
  · exact eq_overlay_keep rfl hs.stack hgs (by dsimp only [fail, Frame.writeMemory]; omega)
  · refine pushResult_footprint f ?_ ?_ hs.stack _ _
    · exact hgs
    · omega

/-- The memory stores: pop the offset, pop the value, `ensure_memory`, a write. -/
theorem storeOp_footprint (size : Nat) (bytes : Word → List UInt8) :
    Footprint (fun f => match stackPop f with
      | none => fail f
      | some (offsetWord, f) =>
        match stackPop f with
        | none => fail f
        | some (value, f) =>
          let offset := wordToU64 offsetWord % 2 ^ 32
          match ensureMemory f offset size with
          | (false, g) => fail g
          | (true, g) => (⟨1, 3⟩, g.writeMemory offset (bytes value))) f := by
  intro s c hs
  dsimp only
  rw [stackPop_withPlanes hs.stack]
  rcases Nat.lt_or_ge f.stackSize 1 with h0 | h0
  · rw [stackPop_of_zero (by omega)]
    exact fail_footprint f s c hs
  rw [stackPop_of_pos h0]
  dsimp only [Option.map_some']
  rw [stackPop_withPlanes]
  · rcases Nat.lt_or_ge f.stackSize 2 with h1 | h1
    · rw [stackPop_of_zero (by dsimp only; omega)]
      exact eq_overlay_keep rfl hs.stack rfl (by dsimp only [fail]; omega)
    rw [stackPop_of_pos (by dsimp only; omega)]
    dsimp only [Option.map_some']
    rw [ensureMemory_withPlanes]
    obtain ⟨hgs, hgz⟩ := ensureMemory_snd_stack
      (f := { f with stackSize := f.stackSize - 1 - 1 })
      (wordToU64 (f.stack (f.stackSize - 1)) % 2 ^ 32) size
    rcases he : ensureMemory { f with stackSize := f.stackSize - 1 - 1 }
      (wordToU64 (f.stack (f.stackSize - 1)) % 2 ^ 32) size with ⟨_ | _, g⟩ <;>
      rw [he] at hgs hgz <;> dsimp only at hgs hgz ⊢
    · exact eq_overlay_keep rfl hs.stack hgs (by dsimp only [fail, Frame.writeMemory]; omega)
    · exact eq_overlay_keep rfl hs.stack hgs (by dsimp only [fail, Frame.writeMemory]; omega)
  · exact fun i hi => hs.stack i (by dsimp only at hi; omega)

theorem opMstore_footprint : Footprint opMstore f := storeOp_footprint f 32 Bytes.toList

theorem opMstore8_footprint : Footprint opMstore8 f :=
  storeOp_footprint f 1 fun value => [value.get 31]

theorem opJump_footprint : Footprint opJump f := by
  intro s c hs
  unfold opJump
  rw [stackPop_withPlanes hs.stack]
  rcases Nat.lt_or_ge f.stackSize 1 with h0 | h0
  · rw [stackPop_of_zero (by omega)]
    exact fail_footprint f s c hs
  rw [stackPop_of_pos h0]
  dsimp only [Option.map_some']
  rw [validJumpDest_withPlanes]
  · split_ifs <;> exact eq_overlay_keep rfl hs.stack rfl (by dsimp only [fail, Frame.halt]; omega)
  · exact hs.code

theorem opJumpi_footprint : Footprint opJumpi f := by
  intro s c hs
  unfold opJumpi
  rw [stackPop_withPlanes hs.stack]
  rcases Nat.lt_or_ge f.stackSize 1 with h0 | h0
  · rw [stackPop_of_zero (by omega)]
    exact fail_footprint f s c hs
  rw [stackPop_of_pos h0]
  dsimp only [Option.map_some']
  rw [stackPop_withPlanes]
  · rcases Nat.lt_or_ge f.stackSize 2 with h1 | h1
    · rw [stackPop_of_zero (by dsimp only; omega)]
      exact eq_overlay_keep rfl hs.stack rfl (by dsimp only [fail]; omega)
    rw [stackPop_of_pos (by dsimp only; omega)]
    dsimp only [Option.map_some']
    rw [validJumpDest_withPlanes]
    · split_ifs <;>
        exact eq_overlay_keep rfl hs.stack rfl (by dsimp only [fail, Frame.halt]; omega)
    · exact hs.code
  · exact fun i hi => hs.stack i (by dsimp only at hi; omega)

theorem opPc_footprint : Footprint opPc f :=
  fun _ _ hs => pushResult_footprint f rfl le_rfl hs.stack _ _

theorem opGas_footprint : Footprint opGas f :=
  fun _ _ hs => pushResult_footprint f rfl le_rfl hs.stack _ _

theorem opJumpdest_footprint : Footprint opJumpdest f :=
  Footprint.of_stack_eq (fun _ _ _ => rfl) rfl le_rfl

theorem opPush0_footprint : Footprint opPush0 f :=
  fun _ _ hs => pushResult_footprint f rfl le_rfl hs.stack _ _

theorem opPushN_footprint (hlt : f.pc < f.codeSize.toNat) (n : Nat) :
    Footprint (fun f => opPushN f n) f := by
  intro s c hs
  dsimp only
  unfold opPushN
  rw [pushWord_withPlanes hs.code hlt, stackPush_withPlanes]
  by_cases h : 1024 ≤ f.stackSize
  · rw [stackPush_of_le h, if_pos h]
    exact eq_overlay_keep rfl hs.stack rfl le_rfl
  · rw [stackPush_of_lt (by omega), if_neg h]
    exact eq_overlay_pair _ _ rfl (by simp) (agree_update_top hs.stack _)
      (update_above (by omega) _)

theorem opDupN_footprint (n : Nat) : Footprint (fun f => opDupN f n) f := by
  intro s c hs
  dsimp only
  unfold opDupN stackPeek
  simp only [stackTop_withPlanes]
  rcases h0 : stackTop f (n - 1) with _ | item
  · exact fail_footprint f s c hs
  obtain ⟨hn, rfl⟩ := stackTop_eq_some.mp h0
  dsimp only
  rw [Frame.withPlanes_stack, hs.stack _ (by omega)]
  exact pushResult_footprint f rfl le_rfl hs.stack _ _

theorem opSwapN_footprint (n : Nat) : Footprint (fun f => opSwapN f n) f := by
  intro s c hs
  dsimp only
  unfold opSwapN stackPeek
  simp only [stackTop_withPlanes]
  rcases h0 : stackTop f 0 with _ | top
  · exact fail_footprint f s c hs
  rcases h1 : stackTop f n with _ | other
  · exact fail_footprint f s c hs
  obtain ⟨ht, rfl⟩ := stackTop_eq_some.mp h0
  obtain ⟨ho, rfl⟩ := stackTop_eq_some.mp h1
  dsimp only
  rw [Frame.withPlanes_stack, hs.stack _ (by omega), hs.stack _ (by omega), setStack_withPlanes,
    setStack_withPlanes]
  exact eq_overlay_pair _ f.stackSize rfl (max_eq_left le_rfl)
    (agree_update (agree_update hs.stack _ _) _ _)
    (fun i hi => by rw [update_above (by omega) _ i hi, update_above (by omega) _ i hi])

theorem opInvalid_footprint : Footprint opInvalid f :=
  Footprint.of_stack_eq (fun _ _ _ => rfl) rfl le_rfl

theorem opStub_footprint : Footprint opStub f :=
  Footprint.of_stack_eq (fun _ _ _ => rfl) rfl le_rfl

end Handlers

theorem Handler.exec_footprint (h : Handler) {f : Frame} (hlt : f.pc < f.codeSize.toNat) :
    Footprint h.exec f := by
  cases h with
  | stop => exact opStop_footprint f
  | add | mul | sub | div | mod | lt | gt | eq | and | or | xor =>
    dsimp only [Handler.exec]; exact binaryOp_footprint f _ _
  | iszero | not => dsimp only [Handler.exec]; exact unaryOp_footprint f _ _
  | pop => exact opPop_footprint f
  | mload => exact opMload_footprint f
  | mstore => exact opMstore_footprint f
  | mstore8 => exact opMstore8_footprint f
  | jump => exact opJump_footprint f
  | jumpi => exact opJumpi_footprint f
  | pc => exact opPc_footprint f
  | gas => exact opGas_footprint f
  | jumpdest => exact opJumpdest_footprint f
  | push0 => exact opPush0_footprint f
  | push n => exact opPushN_footprint f hlt n
  | dup n => exact opDupN_footprint f n
  | swap n => exact opSwapN_footprint f n
  | invalid => exact opInvalid_footprint f
  | stub => exact opStub_footprint f

end Jumptable

/-- Both tables: every handler call from a frame whose `pc` is inside the code. -/
theorem Build.dispatch_footprint (b : Build) (opcode : UInt8) {f : Frame}
    (hlt : f.pc < f.codeSize.toNat) : Footprint (b.dispatch opcode) f := by
  cases b
  exacts [(Optimized.jumpTable.getD opcode.toNat .stub).exec_footprint hlt,
    (Jumptable.jumpTable.getD opcode.toNat .stub).exec_footprint hlt]

/-! ## 5. What a footprint in bounds gives -/

section Consequences

variable {step : Frame → OpResult × Frame} {f : Frame} {s : Nat → Word} {c : List UInt8}

/-- A call with its footprint in bounds never writes the code plane... -/
theorem Footprint.code_eq (h : Footprint step f) : (step f).2.code = f.code := by
  have := congrArg (fun p => p.2.code) (h f.stack f.code f.shares_self)
  simpa using this

/-- ... nor a stack slot at or above both stack sizes. -/
theorem Footprint.stack_above (h : Footprint step f) {i : Nat}
    (hi : max f.stackSize (step f).2.stackSize ≤ i) : (step f).2.stack i = f.stack i := by
  have := congrArg (fun p => p.2.stack i) (h f.stack f.code f.shares_self)
  simp only [Frame.withPlanes_self, Frame.withPlanes_stack, overlay] at this
  rwa [if_neg (by omega)] at this

/-- From planes that `f` cannot tell from its own, a call that keeps `code_size` returns planes its
frame cannot tell from its own. -/
theorem Footprint.shares (h : Footprint step f) (hs : f.Shares s c)
    (hcodeSize : (step f).2.codeSize = f.codeSize) :
    (step f).2.Shares (overlay (max f.stackSize (step f).2.stackSize) (step f).2.stack s) c := by
  refine ⟨fun i hi => ?_, fun i hi => ?_⟩
  · simp only [overlay]
    rw [if_pos (by omega)]
  · rw [h.code_eq]
    exact hs.code i (hcodeSize ▸ hi)

end Consequences

/-- `f'` is `f` but for stack words at or above `stack_size` and code bytes at or past `code_size`,
which `f` may not read. -/
structure Frame.SameInBounds (f f' : Frame) : Prop where
  planes : f' = f.withPlanes f'.stack f'.code
  shares : f.Shares f'.stack f'.code

/-- What a run from `start` keeps: `pc` nonnegative, at most 1024 items, the stack slots at or
above 1024 as they were in `start`, and a code of at most `2^31 - 33` bytes. -/
structure Frame.InBounds (f start : Frame) : Prop where
  pc_nonneg : 0 ≤ f.pc
  stackSize_le : f.stackSize ≤ 1024
  stack_high : ∀ i, 1024 ≤ i → f.stack i = start.stack i
  codeSize_le : f.codeSize.toNat ≤ 2 ^ 31 - 33

/-! ## 6. Passes and runs -/

section Passes

variable (b : Build) (hasTracer : Bool)

theorem forall₂_traced {R : TraceEvent → TraceEvent → Prop} {l l' : List TraceEvent}
    (h : List.Forall₂ R l l') : List.Forall₂ R (traced hasTracer l) (traced hasTracer l') := by
  cases hasTracer
  exacts [.nil, h]

/-- A pass from an executing frame and one from the same frame with other planes it cannot tell
from its own: the fetch reads the same opcode, the handler call the same words, and the passes end
the same way. -/
theorem loopBody_sameInBounds {f : Frame} (hr : f.running) {s : Nat → Word} {c : List UInt8}
    (hs : f.Shares s c) :
    (loopBody b.dispatch hasTracer f).Rel Frame.SameInBounds
      (loopBody b.dispatch hasTracer (f.withPlanes s c)) := by
  have hlt := (Frame.running_pc_lt hr).2
  have hfp := b.dispatch_footprint (f.codeAt f.pc) hlt
  have hsh := hfp.shares hs (Build.dispatch_effect b _ f).codeSize
  unfold loopBody dispatchStep
  rw [Frame.withPlanes_pc, codeAt_withPlanes hs.code hlt, hfp s c hs]
  generalize b.dispatch (f.codeAt f.pc) f = p at hsh
  obtain ⟨r, g⟩ := p
  obtain ⟨hst, hco⟩ := hsh
  simp only [Frame.withPlanes_gasRemaining, Frame.withPlanes_state]
  split_ifs
  · exact ⟨⟨rfl, hs.stack, hs.code⟩, .nil⟩
  · exact ⟨⟨rfl, hst, hco⟩, forall₂_traced hasTracer (.cons (.pre ⟨rfl, hs⟩) .nil)⟩
  · exact ⟨⟨rfl, hst, hco⟩, forall₂_traced hasTracer (.cons (.pre ⟨rfl, hs⟩) .nil)⟩
  · exact ⟨⟨rfl, hst, hco⟩, forall₂_traced hasTracer (.cons (.pre ⟨rfl, hs⟩) .nil)⟩
  · exact ⟨⟨rfl, hst, hco⟩, forall₂_traced hasTracer
      (.cons (.pre ⟨rfl, hs⟩) (.cons (.post ⟨rfl, hst, hco⟩) .nil))⟩

/-- Runs from frames that agree where they may be read are the same run: their upcalls match one
by one, and so do the frames they return. -/
theorem runLoop_sameInBounds :
    ∀ fuel f f', f.SameInBounds f' →
      List.Forall₂ (TraceEvent.Rel Frame.SameInBounds)
        (runLoop (loopBody b.dispatch hasTracer) fuel f).2
        (runLoop (loopBody b.dispatch hasTracer) fuel f').2 ∧
      (runLoop (loopBody b.dispatch hasTracer) fuel f).1.SameInBounds
        (runLoop (loopBody b.dispatch hasTracer) fuel f').1 :=
  runLoop_rel _ (fun f f' h => by rw [h.planes]; exact Iff.rfl)
    (fun f f' h hr => by rw [h.planes]; exact loopBody_sameInBounds b hasTracer hr h.shares)
    (fun f f' h => by rw [h.planes]; exact ⟨rfl, h.shares.stack, h.shares.code⟩)

/-- A handler call from an executing frame in bounds leaves a frame in bounds. -/
theorem dispatch_inBounds {f start : Frame} (hb : f.InBounds start) (hr : f.running) :
    (b.dispatch (f.codeAt f.pc) f).2.InBounds start := by
  have hfp := b.dispatch_footprint (f.codeAt f.pc) (Frame.running_pc_lt hr).2
  obtain ⟨-, -, hpc, hstack, -, -, hcodeSize, -⟩ := Build.dispatch_effect b (f.codeAt f.pc) f
  refine ⟨?_, by have := hb.2; omega, fun i hi => ?_, hcodeSize ▸ hb.4⟩
  · rcases hpc with hpc | ⟨-, dest, hdest, hpc⟩
    · rw [hpc]
      exact hb.pc_nonneg
    · rw [hpc]
      exact toInt32_nonneg_of_lt f.codeSize.toNat_lt_size (by have := hr.1; have := hb.1; omega)
        hdest
  · rw [hfp.stack_above (by have := hb.2; omega), hb.stack_high i hi]

theorem loopBody_inBounds {f start : Frame} (hb : f.InBounds start) (hr : f.running) :
    (loopBody b.dispatch hasTracer f).Keeps (Frame.InBounds · start)
      fun e => e.frame.InBounds start ∧ e.AtOpcode := by
  have hpre : ∀ e ∈ [TraceEvent.pre f], e.frame.InBounds start ∧ e.AtOpcode := by
    simpa [TraceEvent.AtOpcode] using ⟨hb, Frame.running_pc_lt hr⟩
  rcases loopBody_spec b.dispatch hasTracer f with ⟨-, hs⟩ | ⟨-, hs⟩ <;> rw [hs]
  · exact ⟨⟨hb.1, hb.2, hb.3, hb.4⟩, by simp⟩
  obtain ⟨r, g, he, ⟨-, hs'⟩ | ⟨-, -, hs'⟩ | ⟨hnn, -, hs'⟩⟩ :=
    dispatchStep_spec b.dispatch hasTracer f <;> rw [hs'] <;>
    have hg : g.InBounds start := by have := dispatch_inBounds b hb hr; rwa [he] at this
  · refine ⟨?_, forall_mem_traced hpre⟩
    dsimp only [Iteration.frame]
    split <;> exact ⟨hg.1, hg.2, hg.3, hg.4⟩
  · exact ⟨⟨hg.1, hg.2, hg.3, hg.4⟩, forall_mem_traced hpre⟩
  · refine ⟨⟨?_, hg.2, hg.3, hg.4⟩, forall_mem_traced ?_⟩
    · simp only [Iteration.frame, Frame.advance, Frame.charge]
      split_ifs with hpos
      · rw [(effect_of_dispatch (Build.dispatch_effect b) he).advance_pc hb.1 hb.4 hr hpos]
        have := hb.1
        omega
      · exact hg.1
    · simpa [TraceEvent.AtOpcode] using
        ⟨⟨hb, Frame.running_pc_lt hr⟩, ⟨hg.1, hg.2, hg.3, hg.4⟩⟩

end Passes

/-! ## 7. Every access of a run is in bounds -/

/-- Code and stack planes are read and written only in bounds, in both builds.  From `0 ≤ pc`,
at most 1024 items and a code of at most `2^31 - 33` bytes: every frame the tracer sees, and the one returned, keeps `0 ≤ pc`, at
most 1024 items and the slots at or above 1024 untouched; each pre-execution upcall sees the
opcode fetched at `0 ≤ pc < code_size`, and a handler call from it whose footprint is in bounds;
and the run from the frame with any other words above `stack_size` or bytes past `code_size`
makes the same upcalls and returns the same frame, up to those words and bytes. -/
theorem executeMessage_footprint (b : Build) (hasTracer : Bool) (frame : Frame)
    (hpc : 0 ≤ frame.pc) (hstack : frame.stackSize ≤ 1024)
    (hcode : frame.codeSize.toNat ≤ 2 ^ 31 - 33) :
    (∀ e ∈ (b.executeMessage hasTracer frame).2, e.frame.InBounds frame ∧ e.AtOpcode ∧
      (e.isPre → Footprint (b.dispatch (e.frame.codeAt e.frame.pc)) e.frame)) ∧
    (b.executeMessage hasTracer frame).1.InBounds frame ∧
    ∀ s c, frame.Shares s c →
      List.Forall₂ (TraceEvent.Rel Frame.SameInBounds) (b.executeMessage hasTracer frame).2
        (b.executeMessage hasTracer (frame.withPlanes s c)).2 ∧
      (b.executeMessage hasTracer frame).1.SameInBounds
        (b.executeMessage hasTracer (frame.withPlanes s c)).1 := by
  rw [b.executeMessage_eq]
  obtain ⟨hfinal, hevents⟩ := runLoop_invariant (Frame.InBounds · frame) _
    (fun _ hf hr => loopBody_inBounds b hasTracer hf hr) (fun _ hf _ => ⟨hf.1, hf.2, hf.3, hf.4⟩)
    (frame.gasRemaining.toNat + 2) { frame with state := 1 } ⟨hpc, hstack, fun _ _ => rfl, hcode⟩
  refine ⟨fun e he => ⟨(hevents e he).1, (hevents e he).2,
    fun hp => b.dispatch_footprint _ ((hevents e he).2 hp).2⟩, hfinal, fun s c hs => ?_⟩
  exact runLoop_sameInBounds b hasTracer _ _ _ ⟨rfl, hs.stack, hs.code⟩

theorem executeMessage_footprint_push :
    0 ≤ (Frame.scenario [0x60, 0x01, 0x80, 0x00] 10).pc ∧
    (Frame.scenario [0x60, 0x01, 0x80, 0x00] 10).stackSize ≤ 1024 ∧
    (Frame.scenario [0x60, 0x01, 0x80, 0x00] 10).codeSize.toNat ≤ 2 ^ 31 - 33 ∧
    (Build.jumptable.executeMessage true (Frame.scenario [0x60, 0x01, 0x80, 0x00] 10)).1.InBounds
      (Frame.scenario [0x60, 0x01, 0x80, 0x00] 10) :=
  ⟨le_refl _, by decide, by decide,
    (executeMessage_footprint .jumptable true _ (le_refl _) (by decide) (by decide)).2.1⟩

/-- The cap on `code_size` is needed: with a code of `2^31 - 1` bytes, the pass after the `PUSH32`
at `pc = 2^31 - 2` starts from a frame that passes the loop test with `pc` wrapped to
`-2^31 + 31`, so its opcode fetch `code[pc]` reads below the code, in both builds. -/
theorem push32_at_code_end_fetches_below_code (b : Build) :
    0 ≤ wrapFrame.pc ∧ wrapFrame.stackSize ≤ 1024 ∧ wrapFrame.codeSize.toNat < 2 ^ 31 ∧
    ∃ g events, loopBody b.dispatch false wrapFrame = .next g events ∧ g.running ∧
      g.pc = -2 ^ 31 + 31 ∧ g.codeSize = wrapFrame.codeSize :=
  ⟨by decide, by decide, by rw [wrapFrame_codeSize]; decide, _, _, loopBody_wrapFrame b false,
    wrapPushed_advance_running, wrapPushed_advance_pc, rfl⟩

end NativeEvm
