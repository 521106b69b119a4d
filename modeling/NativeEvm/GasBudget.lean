import NativeEvm.Switch.Simulation
import NativeEvm.Mock
import NativeEvm.StorageOpcodes

/-!
# Gas budget — the gas a run is given decides only whether it runs out

`gas_remaining` is read in two places only: by the loops of the three interpreters, which
compare it with the 3-gas floor and with the price of a step, and by `op_gas` (`0x5a`), which
pushes it.  Every other handler of `evm_optimized`, `evm_jumptable` and the `switch` neither
reads nor writes it (`GasOblivious`), and no price depends on it.  So the budget only limits a
run: on code without `0x5a`, a run from `frame` that does not end out of gas
(`EXCEPTIONAL_HALT` with `INSUFFICIENT_GAS`) is, with `d ≥ 0` more gas, the same run.  It makes
the same upcalls and returns the same frame, each with `d` more gas
(`executeMessage_gas_budget`).

The proof is a lock-step simulation that holds until the first run runs out of gas.  Each pass
of a loop body from `f.addGas d` is the pass from `f` with `d` more gas, unless the pass from
`f` is an out-of-gas halt (`loopBody_addGas`, `Switch.loopBody_addGas`), and `runLoop_addGas`
closes this over the run.
-/

namespace NativeEvm

/-! ## 1. Frames that differ only in gas -/

/-- `f` with `d` more gas. -/
def Frame.addGas (f : Frame) (d : Int) : Frame := f.withGas (f.gasRemaining + d)

/-- An upcall whose frame has `d` more gas. -/
def TraceEvent.addGas (d : Int) : TraceEvent → TraceEvent
  | .pre f => .pre (f.addGas d)
  | .post f result => .post (f.addGas d) result

/-- A pass of a loop body whose frame and upcalls have `d` more gas. -/
def Iteration.addGas (d : Int) : Iteration → Iteration
  | .halt g events => .halt (g.addGas d) (events.map (TraceEvent.addGas d))
  | .next g events => .next (g.addGas d) (events.map (TraceEvent.addGas d))

/-- `EXCEPTIONAL_HALT` with `INSUFFICIENT_GAS`. -/
def Frame.OutOfGas (f : Frame) : Prop := f.state = 4 ∧ f.haltReason = 1

instance (f : Frame) : Decidable f.OutOfGas := inferInstanceAs (Decidable (_ ∧ _))

/-- A handler that neither reads nor writes `gas_remaining`. -/
def GasOblivious {α : Type} (step : Frame → α × Frame) : Prop :=
  ∀ f gas, step (f.withGas gas) = ((step f).1, (step f).2.withGas gas)

/-- `f` with the gas `gas` and the storage plane `storage`. -/
def Frame.withGasStorage (f : Frame) (gas : Int) (storage : List StorageEntry) : Frame :=
  { f with gasRemaining := gas, storage }

/-- A handler that neither reads nor writes `gas_remaining` or the storage plane: in
`evm_optimized`, every handler but `op_gas`, `op_sload` and `op_sstore`. -/
def GasStorageOblivious {α : Type} (step : Frame → α × Frame) : Prop :=
  ∀ f gas storage,
    step (f.withGasStorage gas storage) = ((step f).1, (step f).2.withGasStorage gas storage)

section Fields

variable (f : Frame) (gas d : Int)

@[simp] theorem Frame.withGas_stack : (f.withGas gas).stack = f.stack := rfl
@[simp] theorem Frame.withGas_stackSize : (f.withGas gas).stackSize = f.stackSize := rfl
@[simp] theorem Frame.withGas_storage : (f.withGas gas).storage = f.storage := rfl
@[simp] theorem Frame.withGas_contract : (f.withGas gas).contract = f.contract := rfl
@[simp] theorem Frame.withGas_isStatic : (f.withGas gas).isStatic = f.isStatic := rfl
@[simp] theorem Frame.withGas_maxStorageSlots :
    (f.withGas gas).maxStorageSlots = f.maxStorageSlots := rfl
@[simp] theorem Frame.setStack_withGas (slot : Nat) (w : Word) :
    (f.withGas gas).setStack slot w = (f.setStack slot w).withGas gas := rfl
@[simp] theorem Frame.writeMemory_withGas (offset : Nat) (bytes : List UInt8) :
    (f.withGas gas).writeMemory offset bytes = (f.writeMemory offset bytes).withGas gas := rfl
@[simp] theorem Frame.withGas_codeSize : (f.withGas gas).codeSize = f.codeSize := rfl
@[simp] theorem Frame.codeAt_withGas (i : Int) : (f.withGas gas).codeAt i = f.codeAt i := rfl
@[simp] theorem Frame.validJumpDest_withGas (dest : Nat) :
    (f.withGas gas).validJumpDest dest = f.validJumpDest dest := rfl

@[simp] theorem Frame.addGas_gasRemaining : (f.addGas d).gasRemaining = f.gasRemaining + d := rfl
@[simp] theorem Frame.addGas_state : (f.addGas d).state = f.state := rfl
@[simp] theorem Frame.addGas_code : (f.addGas d).code = f.code := rfl
@[simp] theorem Frame.addGas_pc : (f.addGas d).pc = f.pc := rfl
@[simp] theorem Frame.addGas_stackSize : (f.addGas d).stackSize = f.stackSize := rfl
@[simp] theorem Frame.addGas_codeSize : (f.addGas d).codeSize = f.codeSize := rfl
@[simp] theorem Frame.codeAt_addGas (i : Int) : (f.addGas d).codeAt i = f.codeAt i := rfl
@[simp] theorem Frame.halt_addGas (reason : Nat) : (f.addGas d).halt reason = (f.halt reason).addGas d :=
  rfl
@[simp] theorem Frame.advance_addGas (increment : Int) :
    (f.addGas d).advance increment = (f.advance increment).addGas d := rfl

theorem Frame.charge_addGas (cost : Int) : (f.addGas d).charge cost = (f.charge cost).addGas d :=
  congrArg (fun gas => { f with gasRemaining := gas })
    (by omega : f.gasRemaining + d - cost = f.gasRemaining - cost + d)

/-- A frame with the gas of `f`, given `f`'s gas plus `d`, has `d` more gas. -/
theorem Frame.withGas_eq_addGas {f g : Frame} (h : g.gasRemaining = f.gasRemaining) :
    g.withGas (f.gasRemaining + d) = g.addGas d := by
  rw [Frame.addGas, h]

theorem traced_map (hasTracer : Bool) (φ : TraceEvent → TraceEvent) (events : List TraceEvent) :
    traced hasTracer (events.map φ) = (traced hasTracer events).map φ := by
  cases hasTracer <;> rfl

variable (s : List StorageEntry)

@[simp] theorem Frame.withGasStorage_stack : (f.withGasStorage gas s).stack = f.stack := rfl
@[simp] theorem Frame.withGasStorage_stackSize :
    (f.withGasStorage gas s).stackSize = f.stackSize := rfl
@[simp] theorem Frame.withGasStorage_memorySize :
    (f.withGasStorage gas s).memorySize = f.memorySize := rfl
@[simp] theorem Frame.setStack_withGasStorage (slot : Nat) (w : Word) :
    (f.withGasStorage gas s).setStack slot w = (f.setStack slot w).withGasStorage gas s := rfl
@[simp] theorem Frame.writeMemory_withGasStorage (offset : Nat) (bytes : List UInt8) :
    (f.withGasStorage gas s).writeMemory offset bytes =
      (f.writeMemory offset bytes).withGasStorage gas s := rfl
@[simp] theorem Frame.validJumpDest_withGasStorage (dest : Nat) :
    (f.withGasStorage gas s).validJumpDest dest = f.validJumpDest dest := rfl

end Fields

section Oblivious

variable {α : Type} {step : Frame → α × Frame}

/-- A handler that leaves gas and storage alone from every frame keeps them. -/
theorem GasStorageOblivious.keeps (h : GasStorageOblivious step) (f : Frame) :
    (step f).2.gasRemaining = f.gasRemaining ∧ (step f).2.storage = f.storage := by
  have hf := congrArg Prod.snd (h f f.gasRemaining f.storage)
  rw [show f.withGasStorage f.gasRemaining f.storage = f from rfl] at hf
  rw [hf]
  exact ⟨rfl, rfl⟩

theorem GasStorageOblivious.gasOblivious (h : GasStorageOblivious step) : GasOblivious step := by
  intro f gas
  have hf := h f gas f.storage
  rw [show f.withGasStorage gas f.storage = f.withGas gas from rfl, ← (h.keeps f).2] at hf
  exact hf

end Oblivious

/-! ## 2. The shared helpers -/

section Helpers

variable (f : Frame) (gas : Int) (s : List StorageEntry)

theorem stackTop_withGasStorage (offset : Nat) :
    stackTop (f.withGasStorage gas s) offset = stackTop f offset := rfl

theorem stackAlloc_withGasStorage :
    stackAlloc (f.withGasStorage gas s) =
      (stackAlloc f).map fun p => (p.1, p.2.withGasStorage gas s) := by
  simp only [stackAlloc, Frame.withGasStorage_stackSize]; split_ifs <;> rfl

theorem stackFree_withGasStorage (count : Nat) :
    stackFree (f.withGasStorage gas s) count =
      ((stackFree f count).1, (stackFree f count).2.withGasStorage gas s) := by
  simp only [stackFree, Frame.withGasStorage_stackSize]; split_ifs <;> rfl

theorem ensureMemory_withGasStorage (offset size : Nat) :
    ensureMemory (f.withGasStorage gas s) offset size =
      ((ensureMemory f offset size).1, (ensureMemory f offset size).2.withGasStorage gas s) := by
  unfold ensureMemory
  by_cases h0 : size = 0
  · simp only [if_pos h0]
  by_cases h1 : f.memorySize < offset + size
  · by_cases h2 : memoryLimit < (offset + size + 31) / 32 * 32 % 2 ^ 32
    · simp only [if_neg h0, Frame.withGasStorage_memorySize, if_pos h1, if_pos h2]
    by_cases h3 : f.memorySize < (offset + size + 31) / 32 * 32 % 2 ^ 32
    · simp only [if_neg h0, Frame.withGasStorage_memorySize, if_pos h1, if_neg h2, if_pos h3]
      rfl
    · simp only [if_neg h0, Frame.withGasStorage_memorySize, if_pos h1, if_neg h2, if_neg h3]
  · simp only [if_neg h0, Frame.withGasStorage_memorySize, if_neg h1]

end Helpers

/-! ## 3. The handlers of `evm_optimized`

All handlers but `op_gas`, `op_sload` and `op_sstore` touch neither the gas nor the storage
plane; the storage handlers do not touch the gas. -/

namespace Optimized

/-- `op_gas`, the one handler that reads `gas_remaining`. -/
def Handler.readsGas : Handler → Bool
  | .gas => true
  | _ => false

theorem fail_gasStorageOblivious : GasStorageOblivious fail := fun _ _ _ => rfl

theorem binaryOp_gasStorageOblivious (op : Word → Word → Word) (cost : Int) :
    GasStorageOblivious (binaryOp op cost) := by
  intro f gas s
  simp only [binaryOp, stackTop_withGasStorage, Frame.withGasStorage_stack,
    Frame.setStack_withGasStorage, stackFree_withGasStorage]
  split <;> rfl

theorem unaryOp_gasStorageOblivious (op : Word → Word) (cost : Int) :
    GasStorageOblivious (unaryOp op cost) := by
  intro f gas s
  simp only [unaryOp, stackTop_withGasStorage, Frame.withGasStorage_stack,
    Frame.setStack_withGasStorage]
  split <;> rfl

theorem pushOp_gasStorageOblivious (value : Frame → Word) (cost : Int)
    (hvalue : ∀ g gas s, value (g.withGasStorage gas s) = value g) :
    GasStorageOblivious (pushOp value cost) := by
  intro f gas s
  simp only [pushOp, stackAlloc_withGasStorage]
  rcases stackAlloc f with _ | ⟨slot, g⟩
  · rfl
  · simp only [Option.map_some', hvalue]; rfl

theorem opPop_gasStorageOblivious : GasStorageOblivious opPop := by
  intro f gas s
  simp only [opPop, stackFree_withGasStorage]
  rcases stackFree f 1 with ⟨_ | _, g⟩ <;> rfl

theorem opMload_gasStorageOblivious : GasStorageOblivious opMload := by
  intro f gas s
  simp only [opMload, stackTop_withGasStorage, Frame.withGasStorage_stack,
    ensureMemory_withGasStorage]
  rcases stackTop f 0 with _ | slot
  · rfl
  · dsimp only
    rcases ensureMemory f (wordToU64 (f.stack slot) % 2 ^ 32) 32 with ⟨_ | _, g⟩ <;> rfl

theorem opMstore_gasStorageOblivious : GasStorageOblivious opMstore := by
  intro f gas s
  simp only [opMstore, stackTop_withGasStorage, Frame.withGasStorage_stack,
    ensureMemory_withGasStorage]
  rcases stackTop f 0 with _ | o
  · rfl
  rcases stackTop f 1 with _ | v
  · rfl
  dsimp only
  rcases ensureMemory f (wordToU64 (f.stack o) % 2 ^ 32) 32 with ⟨_ | _, g⟩
  · rfl
  · simp only [Frame.withGasStorage_stack, Frame.writeMemory_withGasStorage,
      stackFree_withGasStorage]

theorem opMstore8_gasStorageOblivious : GasStorageOblivious opMstore8 := by
  intro f gas s
  simp only [opMstore8, stackTop_withGasStorage, Frame.withGasStorage_stack,
    ensureMemory_withGasStorage]
  rcases stackTop f 0 with _ | o
  · rfl
  rcases stackTop f 1 with _ | v
  · rfl
  dsimp only
  rcases ensureMemory f (wordToU64 (f.stack o) % 2 ^ 32) 1 with ⟨_ | _, g⟩
  · rfl
  · simp only [Frame.withGasStorage_stack, Frame.writeMemory_withGasStorage,
      stackFree_withGasStorage]

theorem opJump_gasStorageOblivious : GasStorageOblivious opJump := by
  intro f gas s
  simp only [opJump, stackTop_withGasStorage, Frame.withGasStorage_stack,
    stackFree_withGasStorage, Frame.validJumpDest_withGasStorage]
  split
  · rfl
  · split_ifs <;> rfl

theorem opJumpi_gasStorageOblivious : GasStorageOblivious opJumpi := by
  intro f gas s
  simp only [opJumpi, stackTop_withGasStorage, Frame.withGasStorage_stack,
    stackFree_withGasStorage, Frame.validJumpDest_withGasStorage]
  split
  · split_ifs <;> rfl
  · rfl

theorem opPushN_gasStorageOblivious (n : Nat) : GasStorageOblivious fun f => opPushN f n := by
  intro f gas s
  simp only [opPushN, stackAlloc_withGasStorage]
  rcases stackAlloc f with _ | ⟨slot, g⟩ <;> rfl

theorem opDupN_gasStorageOblivious (n : Nat) : GasStorageOblivious fun f => opDupN f n := by
  intro f gas s
  simp only [opDupN, stackTop_withGasStorage, stackAlloc_withGasStorage]
  rcases stackTop f (n - 1) with _ | source
  · rfl
  · rcases stackAlloc f with _ | ⟨slot, g⟩ <;> rfl

theorem opSwapN_gasStorageOblivious (n : Nat) : GasStorageOblivious fun f => opSwapN f n := by
  intro f gas s
  simp only [opSwapN, stackTop_withGasStorage]
  split <;> rfl

/-- Every handler `JUMP_TABLE` points to but `op_gas`, `op_sload` and `op_sstore`. -/
theorem Handler.exec_gasStorageOblivious (h : Handler) (hgas : h.readsGas = false)
    (hs : h.isStorage = false) : GasStorageOblivious h.exec := by
  cases h with
  | add | mul | sub | div | mod | lt | gt | eq | and | or | xor =>
    dsimp only [Handler.exec]; exact binaryOp_gasStorageOblivious _ _
  | iszero | not => dsimp only [Handler.exec]; exact unaryOp_gasStorageOblivious _ _
  | pc | push0 => dsimp only [Handler.exec]; exact pushOp_gasStorageOblivious _ _ fun _ _ _ => rfl
  | stop | jumpdest | stub | invalid => exact fun _ _ _ => rfl
  | pop => exact opPop_gasStorageOblivious
  | mload => exact opMload_gasStorageOblivious
  | mstore => exact opMstore_gasStorageOblivious
  | mstore8 => exact opMstore8_gasStorageOblivious
  | jump => exact opJump_gasStorageOblivious
  | jumpi => exact opJumpi_gasStorageOblivious
  | push n => exact opPushN_gasStorageOblivious n
  | dup n => exact opDupN_gasStorageOblivious n
  | swap n => exact opSwapN_gasStorageOblivious n
  | gas => cases hgas
  | sload | sstore => cases hs

theorem opSload_gasOblivious : GasOblivious opSload := by
  intro f gas
  simp only [opSload, stackTop_withGas, Frame.withGas_stack, Frame.withGas_storage,
    Frame.withGas_contract]
  split
  · rfl
  · split <;> rfl

theorem opSstore_gasOblivious : GasOblivious opSstore := by
  intro f gas
  simp only [opSstore, stackTop_withGas, Frame.withGas_stack, Frame.withGas_storage,
    Frame.withGas_contract, Frame.withGas_isStatic, Frame.withGas_maxStorageSlots]
  split_ifs
  · rfl
  split
  · split
    · simp only [stackFree, Frame.withGas_stackSize]
      split_ifs <;> rfl
    · split
      · rfl
      · simp only [stackFree, Frame.withGas_stackSize]
        split_ifs <;> rfl
  · rfl

/-- Every handler `JUMP_TABLE` points to but `op_gas`. -/
theorem Handler.exec_gasOblivious (h : Handler) (hgas : h.readsGas = false) :
    GasOblivious h.exec := by
  cases hs : h.isStorage
  · exact (h.exec_gasStorageOblivious hgas hs).gasOblivious
  · cases h <;> simp only [Handler.isStorage, Bool.false_eq_true] at hs
    case sload => exact opSload_gasOblivious
    case sstore => exact opSstore_gasOblivious

theorem jumpTable_readsGas : positions Handler.readsGas jumpTable 0 = [0x5a] := by
  set_option maxRecDepth 2000 in decide

end Optimized

/-! ## 4. The handlers of `evm_jumptable` -/

namespace Jumptable

/-- `op_gas`, the one handler that reads `gas_remaining`. -/
def Handler.readsGas : Handler → Bool
  | .gas => true
  | _ => false

theorem fail_gasOblivious : GasOblivious fail := fun _ _ => rfl

theorem pushResult_gasOblivious (w : Word) (cost : Int) : GasOblivious (pushResult w cost) := by
  intro f gas
  simp only [pushResult, stackPush_withGas]
  rcases stackPush f w with ⟨_ | _, g⟩ <;> rfl

theorem binaryOp_gasOblivious (op : Word → Word → Word) (cost : Int) :
    GasOblivious (binaryOp op cost) := by
  intro f gas
  simp only [binaryOp, stackPop_withGas]
  rcases stackPop f with _ | ⟨a, g⟩
  · rfl
  simp only [Option.map_some', stackPop_withGas]
  rcases stackPop g with _ | ⟨b, k⟩
  · rfl
  · exact pushResult_gasOblivious _ _ k gas

theorem unaryOp_gasOblivious (op : Word → Word) (cost : Int) : GasOblivious (unaryOp op cost) := by
  intro f gas
  simp only [unaryOp, stackPop_withGas]
  rcases stackPop f with _ | ⟨a, g⟩
  · rfl
  · exact pushResult_gasOblivious _ _ g gas

theorem opPop_gasOblivious : GasOblivious opPop := by
  intro f gas
  simp only [opPop, stackPop_withGas]
  rcases stackPop f with _ | ⟨a, g⟩ <;> rfl

theorem opMload_gasOblivious : GasOblivious opMload := by
  intro f gas
  simp only [opMload, stackPop_withGas]
  rcases stackPop f with _ | ⟨w, g⟩
  · rfl
  simp only [Option.map_some', ensureMemory_withGas]
  rcases ensureMemory g (wordToU64 w % 2 ^ 32) 32 with ⟨_ | _, k⟩
  · rfl
  · exact pushResult_gasOblivious _ _ k gas

theorem opMstore_gasOblivious : GasOblivious opMstore := by
  intro f gas
  simp only [opMstore, stackPop_withGas]
  rcases stackPop f with _ | ⟨o, g⟩
  · rfl
  simp only [Option.map_some', stackPop_withGas]
  rcases stackPop g with _ | ⟨v, k⟩
  · rfl
  simp only [Option.map_some', ensureMemory_withGas]
  rcases ensureMemory k (wordToU64 o % 2 ^ 32) 32 with ⟨_ | _, m⟩ <;> rfl

theorem opMstore8_gasOblivious : GasOblivious opMstore8 := by
  intro f gas
  simp only [opMstore8, stackPop_withGas]
  rcases stackPop f with _ | ⟨o, g⟩
  · rfl
  simp only [Option.map_some', stackPop_withGas]
  rcases stackPop g with _ | ⟨v, k⟩
  · rfl
  simp only [Option.map_some', ensureMemory_withGas]
  rcases ensureMemory k (wordToU64 o % 2 ^ 32) 1 with ⟨_ | _, m⟩ <;> rfl

theorem opJump_gasOblivious : GasOblivious opJump := by
  intro f gas
  simp only [opJump, stackPop_withGas]
  rcases stackPop f with _ | ⟨w, g⟩
  · rfl
  · simp only [Option.map_some', Frame.validJumpDest_withGas]
    split_ifs <;> rfl

theorem opJumpi_gasOblivious : GasOblivious opJumpi := by
  intro f gas
  simp only [opJumpi, stackPop_withGas]
  rcases stackPop f with _ | ⟨w, g⟩
  · rfl
  simp only [Option.map_some', stackPop_withGas]
  rcases stackPop g with _ | ⟨c, k⟩
  · rfl
  · simp only [Option.map_some', Frame.validJumpDest_withGas]
    split_ifs <;> rfl

theorem opPushN_gasOblivious (n : Nat) : GasOblivious fun f => opPushN f n := by
  intro f gas
  simp only [opPushN, show (f.withGas gas).pushWord n = f.pushWord n from rfl, stackPush_withGas]
  rcases stackPush f (f.pushWord n) with ⟨_ | _, g⟩ <;> rfl

theorem opDupN_gasOblivious (n : Nat) : GasOblivious fun f => opDupN f n := by
  intro f gas
  simp only [opDupN, stackPeek, stackTop_withGas, Frame.withGas_stack]
  rcases stackTop f (n - 1) with _ | item
  · rfl
  · exact pushResult_gasOblivious _ _ f gas

theorem opSwapN_gasOblivious (n : Nat) : GasOblivious fun f => opSwapN f n := by
  intro f gas
  simp only [opSwapN, stackPeek, stackTop_withGas]
  split <;> rfl

/-- Every handler `JUMP_TABLE` points to but `op_gas`. -/
theorem Handler.exec_gasOblivious (h : Handler) (hgas : h.readsGas = false) :
    GasOblivious h.exec := by
  cases h with
  | add | mul | sub | div | mod | lt | gt | eq | and | or | xor =>
    dsimp only [Handler.exec]; exact binaryOp_gasOblivious _ _
  | iszero | not => dsimp only [Handler.exec]; exact unaryOp_gasOblivious _ _
  | pc => exact fun f gas => pushResult_gasOblivious _ _ f gas
  | push0 => exact pushResult_gasOblivious _ _
  | stop | jumpdest | stub | invalid => exact fun _ _ => rfl
  | pop => exact opPop_gasOblivious
  | mload => exact opMload_gasOblivious
  | mstore => exact opMstore_gasOblivious
  | mstore8 => exact opMstore8_gasOblivious
  | jump => exact opJump_gasOblivious
  | jumpi => exact opJumpi_gasOblivious
  | push n => exact opPushN_gasOblivious n
  | dup n => exact opDupN_gasOblivious n
  | swap n => exact opSwapN_gasOblivious n
  | gas => exact absurd hgas (by decide)

theorem jumpTable_readsGas : positions Handler.readsGas jumpTable 0 = [0x5a] := by
  set_option maxRecDepth 2000 in decide

end Jumptable

/-- In both builds the only handler that reads the gas sits at `0x5a`. -/
theorem Build.dispatch_gasOblivious (b : Build) {opcode : UInt8} (h : opcode ≠ 0x5a) :
    GasOblivious (b.dispatch opcode) := by
  have hne : opcode.toNat ≠ 0x5a := fun h' => h (UInt8.toNat.inj h')
  cases b with
  | optimized =>
    refine Optimized.Handler.exec_gasOblivious _ (Bool.eq_false_iff.mpr fun hg => hne ?_)
    have hm := mem_positions_of_getD (d := .stub) rfl Optimized.jumpTable 0 _ hg
    rw [Optimized.jumpTable_readsGas] at hm
    simpa using hm
  | jumptable =>
    refine Jumptable.Handler.exec_gasOblivious _ (Bool.eq_false_iff.mpr fun hg => hne ?_)
    have hm := mem_positions_of_getD (d := .stub) rfl Jumptable.jumpTable 0 _ hg
    rw [Jumptable.jumpTable_readsGas] at hm
    simpa using hm

/-! ## 5. The cases of the `switch` -/

namespace Switch

theorem pushResult_gasOblivious (w : Word) : GasOblivious (pushResult w) := by
  intro f gas
  simp only [pushResult, stackPush_withGas]
  rcases stackPush f w with ⟨_ | _, g⟩ <;> rfl

theorem binaryOp_gasOblivious (op : Word → Word → Word) : GasOblivious (binaryOp op) := by
  intro f gas
  simp only [binaryOp, stackPop_withGas]
  rcases stackPop f with _ | ⟨a, g⟩
  · rfl
  simp only [Option.map_some', stackPop_withGas]
  rcases stackPop g with _ | ⟨b, k⟩
  · rfl
  · exact pushResult_gasOblivious _ k gas

theorem unaryOp_gasOblivious (op : Word → Word) : GasOblivious (unaryOp op) := by
  intro f gas
  simp only [unaryOp, stackPop_withGas]
  rcases stackPop f with _ | ⟨a, g⟩
  · rfl
  · exact pushResult_gasOblivious _ g gas

theorem opPop_gasOblivious : GasOblivious opPop := by
  intro f gas
  simp only [opPop, stackPop_withGas]
  rcases stackPop f with _ | ⟨a, g⟩ <;> rfl

theorem opMload_gasOblivious : GasOblivious opMload := by
  intro f gas
  simp only [opMload, stackPop_withGas]
  rcases stackPop f with _ | ⟨w, g⟩
  · rfl
  simp only [Option.map_some', ensureMemory_withGas]
  rcases ensureMemory g (wordToU64 w % 2 ^ 32) 32 with ⟨_ | _, k⟩
  · rfl
  · exact pushResult_gasOblivious _ k gas

theorem storeOp_gasOblivious (size : Nat) (bytes : Word → List UInt8) :
    GasOblivious (storeOp size bytes) := by
  intro f gas
  simp only [storeOp, stackPop_withGas]
  rcases stackPop f with _ | ⟨o, g⟩
  · rfl
  simp only [Option.map_some', stackPop_withGas]
  rcases stackPop g with _ | ⟨v, k⟩
  · rfl
  simp only [Option.map_some', ensureMemory_withGas]
  rcases ensureMemory k (wordToU64 o % 2 ^ 32) size with ⟨_ | _, m⟩ <;> rfl

theorem jumpTo_gasOblivious (dest : Nat) : GasOblivious fun f => jumpTo f dest := by
  intro f gas
  simp only [jumpTo, Frame.withGas_codeSize, Frame.codeAt_withGas]
  split_ifs <;> rfl

theorem opJump_gasOblivious : GasOblivious opJump := by
  intro f gas
  simp only [opJump, stackPop_withGas]
  rcases stackPop f with _ | ⟨w, g⟩
  · rfl
  · exact jumpTo_gasOblivious _ g gas

theorem opJumpi_gasOblivious : GasOblivious opJumpi := by
  intro f gas
  simp only [opJumpi, stackPop_withGas]
  rcases stackPop f with _ | ⟨w, g⟩
  · rfl
  simp only [Option.map_some', stackPop_withGas]
  rcases stackPop g with _ | ⟨c, k⟩
  · rfl
  · simp only [Option.map_some']
    split_ifs
    · exact jumpTo_gasOblivious _ k gas
    · rfl

theorem opPush_gasOblivious (n : Nat) : GasOblivious fun f => opPush f n := by
  intro f gas
  simp only [opPush, show (f.withGas gas).pushWord n = f.pushWord n from rfl, stackPush_withGas]
  rcases stackPush f (f.pushWord n) with ⟨_ | _, g⟩ <;> rfl

theorem opDup_gasOblivious (n : Nat) : GasOblivious fun f => opDup f n := by
  intro f gas
  simp only [opDup, stackPeek, stackTop_withGas, Frame.withGas_stack]
  rcases stackTop f (n - 1) with _ | item
  · rfl
  · exact pushResult_gasOblivious _ f gas

theorem opSwap_gasOblivious (n : Nat) : GasOblivious fun f => opSwap f n := by
  intro f gas
  simp only [opSwap, Frame.withGas_stackSize, Frame.withGas_stack]
  split_ifs <;> rfl

/-- Every case of the `switch` but `op_gas`. -/
theorem Handler.exec_gasOblivious (h : Handler) (hgas : h ≠ .gas) : GasOblivious h.exec := by
  cases h with
  | add | mul | sub | div | mod | lt | gt | eq | and | or | xor =>
    dsimp only [Handler.exec]; exact binaryOp_gasOblivious _
  | iszero | not => dsimp only [Handler.exec]; exact unaryOp_gasOblivious _
  | pc | msize => exact fun f gas => pushResult_gasOblivious _ f gas
  | push0 => exact pushResult_gasOblivious _
  | stop | jumpdest | stub | invalid => exact fun _ _ => rfl
  | pop => exact opPop_gasOblivious
  | mload => exact opMload_gasOblivious
  | mstore | mstore8 => exact storeOp_gasOblivious _ _
  | jump => exact opJump_gasOblivious
  | jumpi => exact opJumpi_gasOblivious
  | push n => exact opPush_gasOblivious n
  | dup n => exact opDup_gasOblivious n
  | swap n => exact opSwap_gasOblivious n
  | gas => exact absurd rfl hgas

/-- Only the case label `0x5a` selects `op_gas`: `0x59` selects `MSIZE`, and every other label
selects a halting case or the counterpart of a table handler other than `op_gas`. -/
theorem handlerOf_ne_gas {n : Nat} (h5a : n ≠ 0x5a) : handlerOf n ≠ .gas := by
  intro hg
  by_cases h59 : n = 0x59
  · subst h59
    exact absurd hg (by decide)
  rcases handlerOf_toJumptable h59 h5a with hh | hj
  · rw [hg] at hh
    exact absurd hh (by decide)
  · rw [hg] at hj
    exact absurd hj (by simp [Handler.toJumptable])

/-- One pass of the `switch` loop from `f.addGas d` is the pass from `f` with `d` more gas,
unless the pass from `f` runs out of gas; on code without `0x5a`, which the pass keeps. -/
theorem loopBody_addGas (hasTracer : Bool) {d : Int} (hd : 0 ≤ d) {f : Frame}
    (hf : (0x5a : UInt8) ∉ f.code) :
    (loopBody hasTracer (f.addGas d) = (loopBody hasTracer f).addGas d ∧
      (0x5a : UInt8) ∉ (loopBody hasTracer f).frame.code) ∨
    ∃ g events, loopBody hasTracer f = .halt g events ∧ g.OutOfGas := by
  unfold loopBody
  by_cases hfloor : f.gasRemaining < 3
  · exact .inr ⟨_, _, if_pos hfloor, rfl, rfl⟩
  have hop : f.codeAt f.pc ≠ 0x5a := f.codeAt_ne hf (by decide) f.pc
  obtain ⟨i, g, hig⟩ : ∃ i g, (handlerOf (f.codeAt f.pc).toNat).exec f = (i, g) := ⟨_, _, rfl⟩
  have heff := Handler.exec_effect (handlerOf (f.codeAt f.pc).toNat) f
  rw [hig] at heff
  have hig' : (handlerOf (f.codeAt f.pc).toNat).exec (f.addGas d) = (i, g.addGas d) := by
    rw [Frame.addGas, Handler.exec_gasOblivious _ (handlerOf_ne_gas fun h => hop (UInt8.toNat.inj h)),
      hig, Frame.withGas_eq_addGas d heff.gasRemaining]
  have hg : (0x5a : UInt8) ∉ g.code := heff.code ▸ hf
  simp only [Frame.addGas_gasRemaining, show (f.addGas d).codeAt (f.addGas d).pc = f.codeAt f.pc
    from rfl, hig, hig', if_neg hfloor, if_neg (show ¬ f.gasRemaining + d < 3 by omega)]
  by_cases hneg : i < 0
  · refine .inl ⟨?_, by rw [if_pos hneg]; exact hg⟩
    simp only [if_pos hneg, Iteration.addGas, ← traced_map, List.map, TraceEvent.addGas,
      Frame.halt_addGas]
    rfl
  by_cases hcost : (g.charge (gasCost (f.codeAt f.pc))).gasRemaining < 0
  · exact .inr ⟨_, _, by rw [if_neg hneg, if_pos hcost], rfl, rfl⟩
  refine .inl ⟨?_, by rw [if_neg hneg, if_neg hcost]; exact hg⟩
  simp only [if_neg hneg, if_neg hcost, Frame.charge_addGas, Frame.addGas_gasRemaining,
    if_neg (show ¬ (g.charge (gasCost (f.codeAt f.pc))).gasRemaining + d < 0 by omega),
    Iteration.addGas, ← traced_map, List.map, TraceEvent.addGas, Frame.advance_addGas]

end Switch

/-! ## 6. The loop of both builds -/

section Builds

variable {dispatch : UInt8 → Frame → OpResult × Frame} {cause : UInt8 → Frame → Frame → Prop}
  (hd : ∀ opcode f, Effect (cause opcode f) f (dispatch opcode f).1 (dispatch opcode f).2)
  (hobl : ∀ opcode, opcode ≠ 0x5a → GasOblivious (dispatch opcode)) (hasTracer : Bool)

include hd hobl

/-- One pass of the loop body of a build from `f.addGas d` is the pass from `f` with `d` more
gas, unless the pass from `f` runs out of gas; on code without `0x5a`, which the pass keeps. -/
theorem loopBody_addGas {d : Int} (hd0 : 0 ≤ d) {f : Frame} (hf : (0x5a : UInt8) ∉ f.code) :
    (loopBody dispatch hasTracer (f.addGas d) = (loopBody dispatch hasTracer f).addGas d ∧
      (0x5a : UInt8) ∉ (loopBody dispatch hasTracer f).frame.code) ∨
    ∃ g events, loopBody dispatch hasTracer f = .halt g events ∧ g.OutOfGas := by
  unfold loopBody
  by_cases hfloor : f.gasRemaining < 3
  · exact .inr ⟨_, _, if_pos hfloor, rfl, rfl⟩
  have hop : f.codeAt f.pc ≠ 0x5a := f.codeAt_ne hf (by decide) f.pc
  obtain ⟨r, g, hrg⟩ : ∃ r g, dispatch (f.codeAt f.pc) f = (r, g) := ⟨_, _, rfl⟩
  have heff := hd (f.codeAt f.pc) f
  rw [hrg] at heff
  have hrg' : dispatch (f.codeAt f.pc) (f.addGas d) = (r, g.addGas d) := by
    rw [Frame.addGas, hobl _ hop, hrg, Frame.withGas_eq_addGas d heff.gasRemaining]
  have hcode : g.code = f.code := heff.code
  rw [if_neg hfloor, Frame.addGas_gasRemaining, if_neg (show ¬ f.gasRemaining + d < 3 by omega)]
  simp only [dispatchStep, show (f.addGas d).codeAt (f.addGas d).pc = f.codeAt f.pc from rfl, hrg,
    hrg']
  by_cases hneg : r.pcIncrement < 0
  · refine .inl ⟨?_, by rw [if_pos hneg]; split_ifs <;> exact hcode ▸ hf⟩
    simp only [if_pos hneg, Iteration.addGas, ← traced_map, List.map, TraceEvent.addGas,
      Frame.addGas_state, Frame.halt_addGas, apply_ite (Frame.addGas · d)]
  by_cases hcost : g.gasRemaining < r.gasCost
  · exact .inr ⟨_, _, by rw [if_neg hneg, if_pos hcost], rfl, rfl⟩
  refine .inl ⟨?_, by rw [if_neg hneg, if_neg hcost]; exact hcode ▸ hf⟩
  simp only [if_neg hneg, if_neg hcost, Frame.addGas_gasRemaining,
    if_neg (show ¬ g.gasRemaining + d < r.gasCost by omega), Iteration.addGas, ← traced_map,
    List.map, TraceEvent.addGas, Frame.charge_addGas, Frame.advance_addGas]

end Builds

/-! ## 7. The mock -/

namespace Mock

section Pass

variable (f : Frame) (d : Int)

theorem addFrame_addGas : addFrame (f.addGas d) = (addFrame f).addGas d :=
  congrArg (fun gas => { addFrame f with gasRemaining := gas })
    (by omega : f.gasRemaining + d - 3 = f.gasRemaining - 3 + d)

theorem push1Frame_addGas : push1Frame (f.addGas d) = (push1Frame f).addGas d :=
  congrArg (fun gas => { push1Frame f with gasRemaining := gas })
    (by omega : f.gasRemaining + d - 3 = f.gasRemaining - 3 + d)

end Pass

/-- One pass of the mock from `f.addGas d` is the pass from `f` with `d` more gas, unless the pass
from `f` runs out of gas. -/
theorem loopBody_addGas (hasTracer : Bool) {d : Int} (hd : 0 ≤ d) (f : Frame) :
    loopBody hasTracer (f.addGas d) = (loopBody hasTracer f).addGas d ∨
    ∃ g events, loopBody hasTracer f = .halt g events ∧ g.OutOfGas := by
  by_cases hgas : f.gasRemaining < 3
  · exact .inr ⟨_, _, by rw [loopBody, if_pos hgas], rfl, rfl⟩
  refine .inl ?_
  rw [loopBody, loopBody, if_neg hgas, Frame.addGas_gasRemaining,
    if_neg (show ¬ f.gasRemaining + d < 3 by omega)]
  dsimp only [Frame.codeAt_addGas, Frame.addGas_pc, Frame.addGas_stackSize, Frame.addGas_codeSize]
  by_cases hstop : f.codeAt f.pc = 0x00
  · rw [if_pos hstop, if_pos hstop]; cases hasTracer <;> rfl
  rw [if_neg hstop, if_neg hstop]
  by_cases hadd : f.codeAt f.pc = 0x01
  · rw [if_pos hadd, if_pos hadd]
    by_cases h2 : f.stackSize < 2
    · rw [if_pos h2, if_pos h2]; cases hasTracer <;> rfl
    · rw [if_neg h2, if_neg h2, addFrame_addGas]; cases hasTracer <;> rfl
  rw [if_neg hadd, if_neg hadd]
  by_cases hpush : f.codeAt f.pc = 0x60
  · rw [if_pos hpush, if_pos hpush]
    by_cases hbound : toInt32 f.codeSize.toNat ≤ f.pc + 1
    · rw [if_pos hbound, if_pos hbound]; cases hasTracer <;> rfl
    rw [if_neg hbound, if_neg hbound]
    by_cases hfull : 1024 ≤ f.stackSize
    · rw [if_pos hfull, if_pos hfull]; cases hasTracer <;> rfl
    · rw [if_neg hfull, if_neg hfull, push1Frame_addGas]; cases hasTracer <;> rfl
  · rw [if_neg hpush, if_neg hpush]; cases hasTracer <;> rfl

/-- The mock's loop in lock step with the loop from `d` more gas. -/
theorem loop_addGas (hasTracer : Bool) {d : Int} (hd : 0 ≤ d) :
    ∀ n f, ¬ (loop hasTracer n f).1.OutOfGas →
      loop hasTracer n (f.addGas d) =
        ((loop hasTracer n f).1.addGas d, (loop hasTracer n f).2.map (TraceEvent.addGas d)) := by
  intro n
  induction n with
  | zero => intro _ _; rfl
  | succ n ih =>
    intro f hout
    by_cases hpc : f.pc < toInt32 f.codeSize.toNat
    · have hpc' : (f.addGas d).pc < toInt32 (f.addGas d).codeSize.toNat := hpc
      rw [loop, if_pos hpc] at hout
      rw [loop, loop, if_pos hpc, if_pos hpc']
      rcases loopBody_addGas hasTracer hd f with hb' | ⟨g, events, hb, hg⟩
      · rw [hb']
        cases hb : loopBody hasTracer f with
        | halt g events => rfl
        | next g events =>
          rw [hb] at hout
          simp only [Iteration.addGas, ih g hout, List.map_append]
      · rw [hb] at hout
        exact absurd hg hout
    · rw [loop, loop, if_neg hpc, if_neg (show ¬ (f.addGas d).pc < toInt32 (f.addGas d).codeSize.toNat
        from hpc)]
      rfl

theorem executeMessage_addGas (hasTracer : Bool) (frame : Frame) {d : Int} (hd : 0 ≤ d)
    (hout : ¬ (executeMessage hasTracer frame).1.OutOfGas) :
    executeMessage hasTracer (frame.addGas d) =
      ((executeMessage hasTracer frame).1.addGas d,
        (executeMessage hasTracer frame).2.map (TraceEvent.addGas d)) :=
  loop_addGas hasTracer hd (passes frame) frame hout

end Mock

/-! ## 8. Whole runs -/

/-- Two runs of one loop body, from `f` and from `f.addGas d`, in lock step: while every pass
from a frame of the first run is the pass from the second with `d` more gas, or an out-of-gas
halt, a first run that does not end out of gas is the second with `d` more gas. -/
theorem runLoop_addGas {body : Frame → Iteration} (P : Frame → Prop) {d : Int}
    (hbody : ∀ f, P f → f.running →
      (body (f.addGas d) = (body f).addGas d ∧ P (body f).frame) ∨
      ∃ g events, body f = .halt g events ∧ g.OutOfGas) :
    ∀ n f, P f → ¬ (runLoop body n f).1.OutOfGas →
      runLoop body n (f.addGas d) =
        ((runLoop body n f).1.addGas d, (runLoop body n f).2.map (TraceEvent.addGas d)) := by
  intro n
  induction n with
  | zero => intro _ _ _; rfl
  | succ n ih =>
    intro f hf hout
    by_cases hr : f.running
    · have hr' : (f.addGas d).running := hr
      rcases hbody f hf hr with ⟨hb', hP⟩ | ⟨g, events, hb, hg⟩
      · cases hb : body f with
        | halt g events =>
          rw [hb, Iteration.addGas] at hb'
          rw [runLoop_succ_halt hr hb, runLoop_succ_halt hr' hb']
        | next g events =>
          rw [hb, Iteration.addGas] at hb'
          rw [hb, Iteration.frame] at hP
          rw [runLoop_succ_next hr hb] at hout ⊢
          rw [runLoop_succ_next hr' hb', ih g hP hout, List.map_append]
      · rw [runLoop_succ_halt hr hb] at hout
        exact absurd hg hout
    · rw [runLoop_succ_of_not_running hr,
        runLoop_succ_of_not_running (show ¬ (f.addGas d).running from hr)]
      rfl

/-- The gas law of a build's `execute_message`. -/
theorem Build.executeMessage_addGas (b : Build) (hasTracer : Bool) (frame : Frame) {d : Int}
    (hd : 0 ≤ d) (hcode : (0x5a : UInt8) ∉ frame.code)
    (hout : ¬ (b.executeMessage hasTracer frame).1.OutOfGas) :
    b.executeMessage hasTracer (frame.addGas d) =
      ((b.executeMessage hasTracer frame).1.addGas d,
        (b.executeMessage hasTracer frame).2.map (TraceEvent.addGas d)) := by
  rw [Build.executeMessage_eq] at hout ⊢
  have hfuel := executeMessage_fuel_stable (Build.dispatch_effect b) hasTracer frame
    ((frame.gasRemaining + d).toNat - frame.gasRemaining.toNat)
  rw [← hfuel] at hout ⊢
  rw [NativeEvm.executeMessage, Frame.addGas_gasRemaining, show (frame.gasRemaining + d).toNat + 2 =
    frame.gasRemaining.toNat + 2 + ((frame.gasRemaining + d).toNat - frame.gasRemaining.toNat) by
      omega]
  exact runLoop_addGas (fun f => (0x5a : UInt8) ∉ f.code)
    (fun _ hf _ => loopBody_addGas (Build.dispatch_effect b) (fun _ => b.dispatch_gasOblivious)
      hasTracer hd hf) _ { frame with state := 1 } hcode hout

/-- The gas law of the `switch` interpreter's `execute_message`. -/
theorem Switch.executeMessage_addGas (hasTracer : Bool) (frame : Frame) {d : Int} (hd : 0 ≤ d)
    (hcode : (0x5a : UInt8) ∉ frame.code)
    (hout : ¬ (Switch.executeMessage hasTracer frame).1.OutOfGas) :
    Switch.executeMessage hasTracer (frame.addGas d) =
      ((Switch.executeMessage hasTracer frame).1.addGas d,
        (Switch.executeMessage hasTracer frame).2.map (TraceEvent.addGas d)) := by
  have hfuel := Switch.executeMessage_fuel_stable hasTracer frame
    ((frame.gasRemaining + d).toNat - frame.gasRemaining.toNat)
  rw [← hfuel] at hout ⊢
  rw [Switch.executeMessage, Frame.addGas_gasRemaining, show (frame.gasRemaining + d).toNat + 2 =
    frame.gasRemaining.toNat + 2 + ((frame.gasRemaining + d).toNat - frame.gasRemaining.toNat) by
      omega]
  exact runLoop_addGas (fun f => (0x5a : UInt8) ∉ f.code)
    (fun _ hf _ => Switch.loopBody_addGas hasTracer hd hf) _ { frame with state := 1 } hcode hout

end NativeEvm
