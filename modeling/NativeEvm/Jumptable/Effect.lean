import NativeEvm.Jumptable
import NativeEvm.Effect

/-!
# The effect of every `evm_jumptable` handler

A copy-based handler pops, then pushes or writes; `Effect.of_pop` carries the effect of the rest
back over each pop.  Only `op_jump`, `op_jumpi` and `op_invalid` halt a frame themselves.
-/

namespace NativeEvm.Jumptable

/-- The halts a handler makes itself. -/
def Handler.haltCause : Handler → Frame → Prop
  | .jump, g | .jumpi, g => g.haltReason = 3
  | .invalid, g => g.haltReason = 2
  | _, _ => False

/-- The handlers that halt a frame themselves. -/
def Handler.halts : Handler → Bool
  | .jump | .jumpi | .invalid => true
  | _ => false

theorem Handler.halts_of_haltCause {h : Handler} {g : Frame} (hc : h.haltCause g) :
    h.halts = true := by
  cases h <;> first | rfl | exact hc.elim

variable {cause : Frame → Prop}

theorem fail_effect (f : Frame) : Effect cause f (fail f).1 (fail f).2 :=
  Effect.of_eq (by simp [fail]) (by simp [fail])

theorem pushResult_effect (w : Word) {cost : Int} (hcost : 1 ≤ cost) (f : Frame) :
    Effect cause f (pushResult w cost f).1 (pushResult w cost f).2 := by
  unfold pushResult stackPush
  split_ifs with h
  · exact fail_effect f
  · apply Effect.keep <;> simp [hcost]
    omega

theorem binaryOp_effect (op : Word → Word → Word) {cost : Int} (hcost : 1 ≤ cost) (f : Frame) :
    Effect cause f (binaryOp op cost f).1 (binaryOp op cost f).2 := by
  unfold binaryOp
  split
  · exact fail_effect f
  · rename_i hpop₁
    split
    · exact Effect.of_pop hpop₁ (fail_effect _)
    · rename_i hpop₂
      exact Effect.of_pop hpop₁ (Effect.of_pop hpop₂ (pushResult_effect _ hcost _))

theorem unaryOp_effect (op : Word → Word) {cost : Int} (hcost : 1 ≤ cost) (f : Frame) :
    Effect cause f (unaryOp op cost f).1 (unaryOp op cost f).2 := by
  unfold unaryOp
  split
  · exact fail_effect f
  · rename_i hpop
    exact Effect.of_pop hpop (pushResult_effect _ hcost _)

theorem opPop_effect (f : Frame) : Effect cause f (opPop f).1 (opPop f).2 := by
  unfold opPop
  split
  · rename_i hpop
    exact Effect.of_pop hpop (Effect.of_eq (by simp) (by simp))
  · exact fail_effect f

theorem opMload_effect (f : Frame) : Effect cause f (opMload f).1 (opMload f).2 := by
  unfold opMload
  split
  · exact fail_effect f
  · rename_i hpop
    refine Effect.of_pop hpop ?_
    dsimp only
    split
    · rename_i he; exact Effect.of_ensureMemory he (fail_effect _)
    · rename_i he; exact Effect.of_ensureMemory he (pushResult_effect _ (by decide) _)

theorem opMstore_effect (f : Frame) : Effect cause f (opMstore f).1 (opMstore f).2 := by
  unfold opMstore
  split
  · exact fail_effect f
  · rename_i hpop₁
    split
    · exact Effect.of_pop hpop₁ (fail_effect _)
    · rename_i hpop₂
      refine Effect.of_pop hpop₁ (Effect.of_pop hpop₂ ?_)
      dsimp only
      split
      · rename_i he; exact Effect.of_ensureMemory he (fail_effect _)
      · rename_i he; exact Effect.of_ensureMemory he (Effect.writeMemory (by simp) (by simp))

theorem opMstore8_effect (f : Frame) : Effect cause f (opMstore8 f).1 (opMstore8 f).2 := by
  unfold opMstore8
  split
  · exact fail_effect f
  · rename_i hpop₁
    split
    · exact Effect.of_pop hpop₁ (fail_effect _)
    · rename_i hpop₂
      refine Effect.of_pop hpop₁ (Effect.of_pop hpop₂ ?_)
      dsimp only
      split
      · rename_i he; exact Effect.of_ensureMemory he (fail_effect _)
      · rename_i he; exact Effect.of_ensureMemory he (Effect.writeMemory (by simp) (by simp))

theorem validJumpDest_lt {f : Frame} {dest : Nat} (h : f.validJumpDest dest = true) :
    dest < f.codeSize.toNat := by
  simp only [Frame.validJumpDest, Bool.and_eq_true, decide_eq_true_eq] at h
  exact h.1

/-- The jump at the end of `op_jump` and `op_jumpi`, once the operands are popped. -/
theorem jumpTo_effect (f : Frame) (dest : Nat) (cost : Int) (hcost : 1 ≤ cost) :
    Effect (fun g => g.haltReason = 3) f (if f.validJumpDest dest then (⟨0, cost⟩, { f with pc := toInt32 dest })
      else fail (f.halt 3)).1 (if f.validJumpDest dest then (⟨0, cost⟩, { f with pc := toInt32 dest })
      else fail (f.halt 3)).2 := by
  split_ifs with h
  · exact ⟨rfl, .keep rfl rfl (fun _ => hcost), .inr ⟨rfl, _, validJumpDest_lt h, rfl⟩,
      .inl (Nat.le_refl _), .inl rfl, rfl, rfl, show (0 : Int) ≤ 33 by decide⟩
  · exact Effect.halt (by decide) (by decide) rfl

theorem opJump_effect (f : Frame) : Effect Handler.jump.haltCause f (opJump f).1 (opJump f).2 := by
  unfold opJump
  split
  · exact fail_effect f
  · rename_i hpop
    exact Effect.of_pop hpop (jumpTo_effect _ _ _ (by decide))

theorem opJumpi_effect (f : Frame) :
    Effect Handler.jumpi.haltCause f (opJumpi f).1 (opJumpi f).2 := by
  unfold opJumpi
  split
  · exact fail_effect f
  · rename_i hpop₁
    split
    · exact Effect.of_pop hpop₁ (fail_effect _)
    · rename_i hpop₂
      refine Effect.of_pop hpop₁ (Effect.of_pop hpop₂ ?_)
      split
      · exact jumpTo_effect _ _ _ (by decide)
      · exact Effect.of_eq (by simp) (by simp)

theorem opPushN_effect (f : Frame) {n : Nat} (hn : n ≤ 32) :
    Effect cause f (opPushN f n).1 (opPushN f n).2 := by
  unfold opPushN stackPush
  split_ifs with h
  · exact fail_effect f
  · apply Effect.keep <;> simp <;> omega

theorem opDupN_effect (f : Frame) (n : Nat) : Effect cause f (opDupN f n).1 (opDupN f n).2 := by
  unfold opDupN
  split
  · exact fail_effect f
  · exact pushResult_effect _ (by decide) f

theorem opSwapN_effect (f : Frame) (n : Nat) : Effect cause f (opSwapN f n).1 (opSwapN f n).2 := by
  unfold opSwapN
  split
  · apply Effect.keep <;> simp
  · exact fail_effect f

/-- The immediate bytes a handler reads after its opcode: `n` for `PUSHn`. -/
def Handler.immediateSize : Handler → Nat
  | .push n => n
  | _ => 0

/-- No entry of `JUMP_TABLE` reads more than 32 immediate bytes. -/
theorem jumpTable_immediateSize (i : Nat) : (jumpTable.getD i .stub).immediateSize ≤ 32 := by
  have hall : ∀ h ∈ jumpTable, h.immediateSize ≤ 32 := by
    set_option maxRecDepth 2000 in decide
  rw [List.getD_eq_getElem?_getD]
  cases hi : jumpTable[i]? with
  | none => decide
  | some h => exact hall h (List.getElem?_mem hi)

/-- Every handler with at most 32 immediate bytes keeps the effect contract. -/
theorem exec_effect (h : Handler) (f : Frame) (hh : h.immediateSize ≤ 32) :
    Effect h.haltCause f (h.exec f).1 (h.exec f).2 := by
  cases h with
  | stop =>
    exact ⟨rfl, .stop rfl rfl rfl, .inl rfl, .inl (Nat.le_refl _), .inl rfl, rfl, rfl,
      show (0 : Int) ≤ 33 by decide⟩
  | add | mul | sub | div | mod | lt | gt | eq | and | or | xor =>
    exact binaryOp_effect _ (by decide) f
  | iszero | not => exact unaryOp_effect _ (by decide) f
  | pc | gas | push0 => exact pushResult_effect _ (by decide) f
  | pop => exact opPop_effect f
  | mload => exact opMload_effect f
  | mstore => exact opMstore_effect f
  | mstore8 => exact opMstore8_effect f
  | jump => exact opJump_effect f
  | jumpi => exact opJumpi_effect f
  | jumpdest =>
    exact Effect.of_eq (by simp [Handler.exec, opJumpdest]) (by simp [Handler.exec, opJumpdest])
  | push n => exact opPushN_effect f hh
  | dup n => exact opDupN_effect f n
  | swap n => exact opSwapN_effect f n
  | stub => exact Effect.of_eq (by simp [Handler.exec, opStub]) (by simp [Handler.exec, opStub])
  | invalid => exact Effect.halt (by decide) (by decide) rfl

theorem dispatch_effect (opcode : UInt8) (f : Frame) :
    Effect (jumpTable.getD opcode.toNat .stub).haltCause f (dispatch opcode f).1
      (dispatch opcode f).2 :=
  exec_effect _ f (jumpTable_immediateSize _)

end NativeEvm.Jumptable
