import NativeEvm.Termination

/-!
# Stack discipline of the in-place handlers of `evm_optimized`

The handlers of `evm_optimized` compute into the slots of their operands through the pointers
`stack_top` and `stack_alloc` return, and move `stack_size` with `stack_alloc` and
`stack_free`.  For the handler of an opcode that takes `c` items and puts back `p`, a call that
does not fail leaves `s - c + p` items and every slot below `s - c` as it was; `op_swap_n`
changes no slot but the two it exchanges, and `op_dup_n` no slot below `s`.
-/

namespace NativeEvm.Optimized

/-- The items an opcode takes from the stack and puts back, for the EVM opcode each handler
implements (`op_sload` and `op_sstore` those of `SLOAD` and `SSTORE`); `none` for `op_stop`,
`op_stub` and `op_invalid`. -/
def Handler.stackArity : Handler → Option (Nat × Nat)
  | .add | .mul | .sub | .div | .mod | .lt | .gt | .eq | .and | .or | .xor => some (2, 1)
  | .iszero | .not | .mload | .sload => some (1, 1)
  | .pop | .jump => some (1, 0)
  | .mstore | .mstore8 | .sstore | .jumpi => some (2, 0)
  | .pc | .gas | .push0 | .push _ => some (0, 1)
  | .jumpdest => some (0, 0)
  | .dup n => some (n, n + 1)
  | .swap n => some (n + 1, n + 1)
  | .stop | .stub | .invalid => none

/-- A call from `f` that took `c` items and put back `p`, leaving `g`: `stack_size` went from
`s ≥ c` to `s - c + p`, and every slot below `s - c` is as it was. -/
structure Discipline (c p : Nat) (f g : Frame) : Prop where
  consumed_le : c ≤ f.stackSize
  stackSize : g.stackSize = f.stackSize - c + p
  below : ∀ i < f.stackSize - c, g.stack i = f.stack i

/-- The stronger frame conditions of `op_swap_n` and `op_dup_n`. -/
def Handler.Untouched : Handler → Frame → Frame → Prop
  | .swap n, f, g => ∀ i, i ≠ f.stackSize - 1 → i ≠ f.stackSize - 1 - n → g.stack i = f.stack i
  | .dup _, f, g => ∀ i < f.stackSize, g.stack i = f.stack i
  | _, _, _ => True

theorem ensureMemory_stack {f g : Frame} {offset size : Nat} {ok : Bool}
    (he : ensureMemory f offset size = (ok, g)) : g.stack = f.stack ∧ g.stackSize = f.stackSize := by
  obtain ⟨_, _, h, -⟩ := ensureMemory_spec f offset size
  rw [he] at h
  subst h
  exact ⟨rfl, rfl⟩

/-! ## 1. The handler families -/

section Families

variable (f : Frame)

theorem binaryOp_discipline (op : Word → Word → Word) (cost : Int) :
    0 ≤ (binaryOp op cost f).1.pcIncrement → Discipline 2 1 f (binaryOp op cost f).2 := by
  unfold binaryOp
  split
  · next a b ha hb =>
    obtain ⟨h1, rfl⟩ := stackTop_eq_some.mp hb
    refine fun _ => ⟨h1, ?_, fun i hi => ?_⟩ <;> simp only [stackFree_snd, Frame.setStack]
    · split <;> omega
    · exact Function.update_noteq (by omega) _ _
  · simp [fail]

theorem unaryOp_discipline (op : Word → Word) (cost : Int) :
    0 ≤ (unaryOp op cost f).1.pcIncrement → Discipline 1 1 f (unaryOp op cost f).2 := by
  unfold unaryOp
  split
  · next a ha =>
    obtain ⟨h1, rfl⟩ := stackTop_eq_some.mp ha
    refine fun _ => ⟨h1, ?_, fun i hi => ?_⟩ <;> simp only [Frame.setStack]
    · omega
    · exact Function.update_noteq (by omega) _ _
  · simp [fail]

theorem pushOp_discipline (value : Frame → Word) (cost : Int) :
    0 ≤ (pushOp value cost f).1.pcIncrement → Discipline 0 1 f (pushOp value cost f).2 := by
  unfold pushOp stackAlloc
  split_ifs
  · simp [fail]
  · exact fun _ => ⟨Nat.zero_le _, rfl, fun i hi => Function.update_noteq (by omega) _ _⟩

theorem opPop_discipline : 0 ≤ (opPop f).1.pcIncrement → Discipline 1 0 f (opPop f).2 := by
  unfold opPop stackFree
  split_ifs
  · simp [fail]
  · exact fun _ => ⟨by omega, rfl, fun _ _ => rfl⟩

theorem opMload_discipline : 0 ≤ (opMload f).1.pcIncrement → Discipline 1 1 f (opMload f).2 := by
  unfold opMload
  split
  · simp [fail]
  · next slot hs =>
    obtain ⟨h1, rfl⟩ := stackTop_eq_some.mp hs
    dsimp only
    split
    · simp [fail]
    · next g he =>
      obtain ⟨hst, hsz⟩ := ensureMemory_stack he
      refine fun _ => ⟨h1, ?_, fun i hi => ?_⟩ <;> simp only [Frame.setStack]
      · omega
      · rw [Function.update_noteq (by omega), hst]

/-- The stores: `ensure_memory`, a memory write, then two items freed. -/
theorem stackFree_writeMemory_discipline {offset size : Nat} {g : Frame}
    (he : ensureMemory f offset size = (true, g)) (h1 : 1 < f.stackSize) (bytes : List UInt8) :
    Discipline 2 0 f (stackFree (g.writeMemory offset bytes) 2).2 := by
  obtain ⟨hst, hsz⟩ := ensureMemory_stack he
  refine ⟨h1, ?_, fun _ _ => by simp [hst]⟩
  simp only [stackFree_snd, Frame.writeMemory, hsz]
  split <;> omega

theorem opMstore_discipline : 0 ≤ (opMstore f).1.pcIncrement → Discipline 2 0 f (opMstore f).2 := by
  unfold opMstore
  split
  · next o v ho hv =>
    dsimp only
    split
    · simp [fail]
    · next g he =>
      exact fun _ => stackFree_writeMemory_discipline f he (stackTop_eq_some.mp hv).1 _
  · simp [fail]

theorem opMstore8_discipline :
    0 ≤ (opMstore8 f).1.pcIncrement → Discipline 2 0 f (opMstore8 f).2 := by
  unfold opMstore8
  split
  · next o v ho hv =>
    dsimp only
    split
    · simp [fail]
    · next g he =>
      exact fun _ => stackFree_writeMemory_discipline f he (stackTop_eq_some.mp hv).1 _
  · simp [fail]

theorem opSload_discipline : 0 ≤ (opSload f).1.pcIncrement → Discipline 1 1 f (opSload f).2 := by
  unfold opSload
  split
  · simp [fail]
  · next slot hs =>
    obtain ⟨h1, rfl⟩ := stackTop_eq_some.mp hs
    split <;>
    · refine fun _ => ⟨h1, ?_, fun i hi => ?_⟩ <;> simp only [Frame.setStack]
      · omega
      · exact Function.update_noteq (by omega) _ _

/-- A completed call that only freed `c ≤ s` items: `op_sstore`, `op_jump`, `op_jumpi`. -/
theorem discipline_of_freed {c : Nat} {g : Frame} (h1 : c ≤ f.stackSize)
    (hsize : g.stackSize = (stackFree f c).2.stackSize) (hstack : g.stack = f.stack) :
    Discipline c 0 f g := by
  refine ⟨h1, ?_, fun _ _ => by rw [hstack]⟩
  rw [hsize, stackFree_snd]
  dsimp only
  split <;> omega

theorem opSstore_discipline : 0 ≤ (opSstore f).1.pcIncrement → Discipline 2 0 f (opSstore f).2 := by
  unfold opSstore
  split_ifs
  · simp [fail]
  · split
    · next k v hk hv =>
      have h1 := (stackTop_eq_some.mp hv).1
      dsimp only
      split
      · exact fun _ => discipline_of_freed f h1 (by simp) (by simp)
      · split
        · simp [fail]
        · exact fun _ => discipline_of_freed f h1 (by simp) (by simp)
    · simp [fail]

theorem opJump_discipline : 0 ≤ (opJump f).1.pcIncrement → Discipline 1 0 f (opJump f).2 := by
  unfold opJump
  split
  · simp [fail]
  · next d hd =>
    dsimp only
    split_ifs
    · exact fun _ => discipline_of_freed f (stackTop_eq_some.mp hd).1 (by simp) (by simp)
    · simp [fail]

theorem opJumpi_discipline : 0 ≤ (opJumpi f).1.pcIncrement → Discipline 2 0 f (opJumpi f).2 := by
  unfold opJumpi
  split
  · next d c hd hc =>
    have h1 := (stackTop_eq_some.mp hc).1
    dsimp only
    split_ifs
    · exact fun _ => discipline_of_freed f h1 (by simp) (by simp)
    · simp [fail]
    · exact fun _ => discipline_of_freed f h1 (by simp) (by simp)
  · simp [fail]

theorem opPushN_discipline (n : Nat) :
    0 ≤ (opPushN f n).1.pcIncrement → Discipline 0 1 f (opPushN f n).2 := by
  unfold opPushN stackAlloc
  split_ifs
  · simp [fail]
  · exact fun _ => ⟨Nat.zero_le _, rfl, fun i hi => Function.update_noteq (by omega) _ _⟩

/-- `op_dup_n` writes only the slot it allocates. -/
theorem opDupN_discipline (n : Nat) : 0 ≤ (opDupN f n).1.pcIncrement →
    Discipline n (n + 1) f (opDupN f n).2 ∧ ∀ i < f.stackSize, (opDupN f n).2.stack i = f.stack i := by
  unfold opDupN stackAlloc
  split
  · simp [fail]
  · next source hs =>
    have h1 := (stackTop_eq_some.mp hs).1
    split_ifs
    · simp [fail]
    · have hbelow : ∀ i < f.stackSize,
          Function.update f.stack f.stackSize (f.stack source) i = f.stack i :=
        fun i hi => Function.update_noteq (by omega) _ _
      exact fun _ => ⟨⟨by omega, by simp only [Frame.setStack]; omega, fun i hi => hbelow i (by omega)⟩,
        hbelow⟩

/-- `op_swap_n` writes only the two slots it exchanges. -/
theorem opSwapN_discipline (n : Nat) : 0 ≤ (opSwapN f n).1.pcIncrement →
    Discipline (n + 1) (n + 1) f (opSwapN f n).2 ∧
    ∀ i, i ≠ f.stackSize - 1 → i ≠ f.stackSize - 1 - n → (opSwapN f n).2.stack i = f.stack i := by
  unfold opSwapN
  split
  · next top other ht ho =>
    obtain ⟨-, rfl⟩ := stackTop_eq_some.mp ht
    obtain ⟨h1, rfl⟩ := stackTop_eq_some.mp ho
    have hothers : ∀ i, i ≠ f.stackSize - 1 → i ≠ f.stackSize - 1 - n →
        ((f.setStack (f.stackSize - 1 - 0) (f.stack (f.stackSize - 1 - n))).setStack
          (f.stackSize - 1 - n) (f.stack (f.stackSize - 1 - 0))).stack i = f.stack i := by
      intro i ht ho
      simp only [Frame.setStack, Nat.sub_zero]
      rw [Function.update_noteq ho, Function.update_noteq ht]
    exact fun _ => ⟨⟨by omega, by simp only [Frame.setStack]; omega,
      fun i hi => hothers i (by omega) (by omega)⟩, hothers⟩
  · simp [fail]

end Families

/-! ## 2. Every handler -/

/-- Stack discipline of `evm_optimized`: for the handler of every opcode of the EVM that takes
`c` items and puts back `p`, from any stack, a call that does not fail leaves `s - c + p` items
and the slots below `s - c` as they were; `op_swap_n` changes only the slots it exchanges and
`op_dup_n` no slot below `s`. -/
theorem Handler.exec_stack_discipline (h : Handler) {c p : Nat} (ha : h.stackArity = some (c, p))
    (f : Frame) (hok : 0 ≤ (h.exec f).1.pcIncrement) :
    Discipline c p f (h.exec f).2 ∧ h.Untouched f (h.exec f).2 := by
  cases h <;> simp only [stackArity, Option.some.injEq, Prod.mk.injEq, reduceCtorEq] at ha <;>
    obtain ⟨rfl, rfl⟩ := ha
  case add | mul | sub | div | mod | lt | gt | eq | and | or | xor =>
    dsimp only [Handler.exec] at hok ⊢; exact ⟨binaryOp_discipline f _ _ hok, trivial⟩
  case iszero | not =>
    dsimp only [Handler.exec] at hok ⊢; exact ⟨unaryOp_discipline f _ _ hok, trivial⟩
  case pc | gas | push0 =>
    dsimp only [Handler.exec] at hok ⊢; exact ⟨pushOp_discipline f _ _ hok, trivial⟩
  case pop => exact ⟨opPop_discipline f hok, trivial⟩
  case mload => exact ⟨opMload_discipline f hok, trivial⟩
  case mstore => exact ⟨opMstore_discipline f hok, trivial⟩
  case mstore8 => exact ⟨opMstore8_discipline f hok, trivial⟩
  case sload => exact ⟨opSload_discipline f hok, trivial⟩
  case sstore => exact ⟨opSstore_discipline f hok, trivial⟩
  case jump => exact ⟨opJump_discipline f hok, trivial⟩
  case jumpi => exact ⟨opJumpi_discipline f hok, trivial⟩
  case jumpdest => exact ⟨⟨Nat.zero_le _, rfl, fun _ _ => rfl⟩, trivial⟩
  case push n => exact ⟨opPushN_discipline f n hok, trivial⟩
  case dup n => exact opDupN_discipline f n hok
  case swap n => exact opSwapN_discipline f n hok

/-- Two items, for a `SWAP1`. -/
def twoItems : Frame := { Frame.scenario [] 0 with stackSize := 2 }

theorem exec_stack_discipline_swap :
    (Handler.swap 1).stackArity = some (2, 2) ∧
    0 ≤ ((Handler.swap 1).exec twoItems).1.pcIncrement ∧
    Discipline 2 2 twoItems ((Handler.swap 1).exec twoItems).2 :=
  ⟨rfl, by decide, (Handler.exec_stack_discipline (.swap 1) rfl twoItems (by decide)).1⟩

end NativeEvm.Optimized
