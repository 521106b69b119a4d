import NativeEvm.Optimized
import NativeEvm.Effect

/-!
# The effect of every `evm_optimized` handler

One lemma per handler family; `dispatch_effect` assembles them over the whole table.  Only
`op_jump`, `op_jumpi`, `op_sstore` and `op_invalid` halt a frame themselves; `Handler.haltCause`
says with which reason.
-/

namespace NativeEvm.Optimized

/-- The halts a handler makes itself, from frame `f`. -/
def Handler.haltCause : Handler → Frame → Frame → Prop
  | .jump, _, g | .jumpi, _, g => g.haltReason = 3
  | .sstore, f, g =>
    (g = f.halt 6 ∧ f.isStatic ≠ 0) ∨ (g = f.halt 2 ∧ f.maxStorageSlots ≤ f.storage.length)
  | .invalid, _, g => g.haltReason = 2
  | _, _, _ => False

/-- The handlers that halt a frame themselves. -/
def Handler.halts : Handler → Bool
  | .jump | .jumpi | .sstore | .invalid => true
  | _ => false

theorem Handler.halts_of_haltCause {h : Handler} {f g : Frame} (hc : h.haltCause f g) :
    h.halts = true := by
  cases h <;> first | rfl | exact hc.elim

variable {cause : Frame → Prop}

theorem fail_effect (f : Frame) : Effect cause f (fail f).1 (fail f).2 :=
  Effect.of_eq (by simp [fail]) (by simp [fail])

theorem fail_halt_effect (f : Frame) {reason : Nat} (hpos : 0 < reason) (hle : reason ≤ 7)
    (hcause : cause (f.halt reason)) :
    Effect cause f (fail (f.halt reason)).1 (fail (f.halt reason)).2 := Effect.halt hpos hle hcause

theorem binaryOp_effect (op : Word → Word → Word) {cost : Int} (hcost : 1 ≤ cost) (f : Frame) :
    Effect cause f (binaryOp op cost f).1 (binaryOp op cost f).2 := by
  unfold binaryOp
  split
  · apply Effect.keep <;> simp [hcost]
    split <;> omega
  · exact fail_effect f

theorem unaryOp_effect (op : Word → Word) {cost : Int} (hcost : 1 ≤ cost) (f : Frame) :
    Effect cause f (unaryOp op cost f).1 (unaryOp op cost f).2 := by
  unfold unaryOp
  split
  · apply Effect.keep <;> simp [hcost]
  · exact fail_effect f

theorem pushOp_effect (value : Frame → Word) {cost : Int} (hcost : 1 ≤ cost) (f : Frame) :
    Effect cause f (pushOp value cost f).1 (pushOp value cost f).2 := by
  unfold pushOp stackAlloc
  split_ifs with h
  · exact fail_effect f
  · apply Effect.keep <;> simp [hcost]
    omega

theorem opPop_effect (f : Frame) : Effect cause f (opPop f).1 (opPop f).2 := by
  unfold opPop stackFree
  split_ifs
  · exact fail_effect f
  · apply Effect.keep <;> simp

/-- The memory handlers: `ensure_memory`, then stack and memory writes. -/
theorem opMload_effect (f : Frame) : Effect cause f (opMload f).1 (opMload f).2 := by
  unfold opMload
  split
  · exact fail_effect f
  · dsimp only
    split
    · rename_i he; exact Effect.of_ensureMemory he (fail_effect _)
    · rename_i he; exact Effect.of_ensureMemory he (Effect.keep rfl rfl rfl rfl rfl rfl
        (by simp) (by simp) (.inl (Nat.le_refl _)) (.inl rfl))

theorem stackFree_writeMemory_effect (g : Frame) (offset : Nat) (bytes : List UInt8) :
    Effect cause g ⟨1, 3⟩ (stackFree (g.writeMemory offset bytes) 2).2 := by
  apply Effect.keep <;> simp
  split <;> omega

theorem opMstore_effect (f : Frame) : Effect cause f (opMstore f).1 (opMstore f).2 := by
  unfold opMstore
  split
  · dsimp only
    split
    · rename_i he; exact Effect.of_ensureMemory he (fail_effect _)
    · rename_i he; exact Effect.of_ensureMemory he (stackFree_writeMemory_effect _ _ _)
  · exact fail_effect f

theorem opMstore8_effect (f : Frame) : Effect cause f (opMstore8 f).1 (opMstore8 f).2 := by
  unfold opMstore8
  split
  · dsimp only
    split
    · rename_i he; exact Effect.of_ensureMemory he (fail_effect _)
    · rename_i he; exact Effect.of_ensureMemory he (stackFree_writeMemory_effect _ _ _)
  · exact fail_effect f

theorem opSload_effect (f : Frame) : Effect cause f (opSload f).1 (opSload f).2 := by
  unfold opSload
  split
  · exact fail_effect f
  · split
    · apply Effect.keep <;> simp
      split <;> decide
    · apply Effect.keep <;> simp

theorem sstoreGasCost_pos (a b c d : Bool) : 1 ≤ sstoreGasCost a b c d := by
  unfold sstoreGasCost; split_ifs <;> decide

theorem opSstore_effect (f : Frame) :
    Effect (Handler.sstore.haltCause f) f (opSstore f).1 (opSstore f).2 := by
  unfold opSstore
  split_ifs
  · exact fail_halt_effect f (by decide) (by decide) (.inl ⟨rfl, ‹_›⟩)
  · split
    · dsimp only
      split
      · apply Effect.keep <;> simp [sstoreGasCost_pos]
        split <;> omega
      · split
        · rename_i hadd
          exact fail_halt_effect f (by decide) (by decide) (.inr ⟨rfl, by
            unfold Storage.add at hadd; split_ifs at hadd with h; exact h⟩)
        · apply Effect.keep <;> simp
          split <;> omega
    · exact fail_effect f

theorem validJumpDest_lt {f : Frame} {dest : Nat} (h : f.validJumpDest dest = true) :
    dest < f.codeSize.toNat := by
  simp only [Frame.validJumpDest, Bool.and_eq_true, decide_eq_true_eq] at h
  exact h.1

theorem opJump_effect (f : Frame) :
    Effect (Handler.jump.haltCause f) f (opJump f).1 (opJump f).2 := by
  unfold opJump
  split
  · exact fail_effect f
  · dsimp only
    split_ifs with h
    · exact ⟨by simp, .keep (by simp) (by simp) (by simp), .inr ⟨rfl, _, validJumpDest_lt h, rfl⟩,
        .inl (by simp; split <;> omega), .inl (by simp), by simp, by simp, by simp⟩
    · exact fail_halt_effect f (by decide) (by decide) rfl

theorem opJumpi_effect (f : Frame) :
    Effect (Handler.jumpi.haltCause f) f (opJumpi f).1 (opJumpi f).2 := by
  unfold opJumpi
  split
  · dsimp only
    split_ifs with hc h
    · exact ⟨by simp, .keep (by simp) (by simp) (by simp),
        .inr ⟨rfl, _, by simpa using validJumpDest_lt h, rfl⟩,
        .inl (by simp; split <;> omega), .inl (by simp), by simp, by simp, by simp⟩
    · exact ⟨by simp [fail], .halt rfl (by simp [fail]) (by simp [fail]) (by simp [fail]) rfl,
        .inl (by simp [fail]), .inl (by simp [fail]; split <;> omega), .inl (by simp [fail]),
        by simp [fail], by simp [fail], by simp [fail]⟩
    · apply Effect.keep <;> simp
      split <;> omega
  · exact fail_effect f

theorem opPushN_effect (f : Frame) {n : Nat} (hn : n ≤ 32) :
    Effect cause f (opPushN f n).1 (opPushN f n).2 := by
  unfold opPushN stackAlloc
  split_ifs with h
  · exact fail_effect f
  · apply Effect.keep <;> simp <;> omega

theorem opDupN_effect (f : Frame) (n : Nat) : Effect cause f (opDupN f n).1 (opDupN f n).2 := by
  unfold opDupN stackAlloc
  split
  · exact fail_effect f
  · split_ifs with h
    · exact fail_effect f
    · apply Effect.keep <;> simp
      omega

theorem opSwapN_effect (f : Frame) (n : Nat) : Effect cause f (opSwapN f n).1 (opSwapN f n).2 := by
  unfold opSwapN
  split
  · apply Effect.keep <;> simp
  · exact fail_effect f

/-- The immediate bytes a handler reads after its opcode: `n` for `PUSHn`. -/
def Handler.immediateSize : Handler → Nat
  | .push n => n
  | _ => 0

/-- No entry of `JUMP_TABLE` reads more than 32 immediate bytes. -/
theorem jumpTable_immediateSize (i : Nat) : (jumpTable.getD i .stub).immediateSize ≤ 32 := by
  have hall : ∀ h ∈ jumpTable, h.immediateSize ≤ 32 := by
    set_option maxRecDepth 2000 in decide
  rw [List.getD_eq_getElem?_getD]
  cases hi : jumpTable[i]? with
  | none => decide
  | some h => exact hall h (List.getElem?_mem hi)

/-- Every handler with at most 32 immediate bytes keeps the effect contract. -/
theorem exec_effect (h : Handler) (f : Frame) (hh : h.immediateSize ≤ 32) :
    Effect (h.haltCause f) f (h.exec f).1 (h.exec f).2 := by
  cases h with
  | stop =>
    exact ⟨rfl, .stop rfl rfl rfl, .inl rfl, .inl (Nat.le_refl _), .inl rfl, rfl, rfl,
      show (0 : Int) ≤ 33 by decide⟩
  | add | mul | sub | div | mod | lt | gt | eq | and | or | xor =>
    dsimp only [Handler.exec]; exact binaryOp_effect _ (by decide) f
  | iszero | not => dsimp only [Handler.exec]; exact unaryOp_effect _ (by decide) f
  | pc | gas | push0 => dsimp only [Handler.exec]; exact pushOp_effect _ (by decide) f
  | pop => exact opPop_effect f
  | mload => exact opMload_effect f
  | mstore => exact opMstore_effect f
  | mstore8 => exact opMstore8_effect f
  | sload => exact opSload_effect f
  | sstore => exact opSstore_effect f
  | jump => exact opJump_effect f
  | jumpi => exact opJumpi_effect f
  | jumpdest =>
    exact Effect.of_eq (by simp [Handler.exec, opJumpdest]) (by simp [Handler.exec, opJumpdest])
  | push n => exact opPushN_effect f hh
  | dup n => exact opDupN_effect f n
  | swap n => exact opSwapN_effect f n
  | stub => exact Effect.of_eq (by simp [Handler.exec, opStub]) (by simp [Handler.exec, opStub])
  | invalid => exact fail_halt_effect f (by decide) (by decide) rfl

theorem dispatch_effect (opcode : UInt8) (f : Frame) :
    Effect ((jumpTable.getD opcode.toNat .stub).haltCause f) f (dispatch opcode f).1
      (dispatch opcode f).2 :=
  exec_effect _ f (jumpTable_immediateSize _)

end NativeEvm.Optimized
