import NativeEvm.Switch
import NativeEvm.Effect
import NativeEvm.Run

/-!
# The effect of every case of the `switch`

What a case may change, proved once per handler family and assembled over `Handler`: never the
gas or the code; the state only to `COMPLETED_SUCCESS` by `STOP`, or to `EXCEPTIONAL_HALT` by a
case that halts the frame itself, `op_stub`, the `default` and the jump handlers, which return
0 and leave `pc` on their opcode.
-/

namespace NativeEvm.Switch

/-- The halt reasons a case sets itself. -/
def Handler.haltCause : Handler → Nat → Prop
  | .stub, reason | .invalid, reason => reason = 2
  | .jump, reason | .jumpi, reason => reason = 6 ∨ reason = 7
  | _, _ => False

/-- A reason a case sets is one of the spec's codes. -/
theorem Handler.haltCause_bounds {h : Handler} {reason : Nat} (hc : h.haltCause reason) :
    1 ≤ reason ∧ reason ≤ 7 := by
  cases h <;> simp only [Handler.haltCause] at hc <;> omega

/-- What a case `(pcIncrement, g) = h.exec f` may change. -/
structure Effect (h : Handler) (f : Frame) (pcIncrement : Int) (g : Frame) : Prop where
  gasRemaining : g.gasRemaining = f.gasRemaining
  code : g.code = f.code
  status : (g.state = f.state ∧ g.haltReason = f.haltReason) ∨
    (h = .stop ∧ g.state = 7 ∧ g.haltReason = f.haltReason) ∨
    (g.state = 4 ∧ pcIncrement = 0 ∧ g.pc = f.pc ∧ h.haltCause g.haltReason)

/-! ## 1. Frames that differ in the stack and memory only -/

/-- `g` has the gas, code, state, halt reason and `pc` of `f`. -/
structure Quiet (f g : Frame) : Prop where
  gasRemaining : g.gasRemaining = f.gasRemaining
  code : g.code = f.code
  state : g.state = f.state
  haltReason : g.haltReason = f.haltReason
  pc : g.pc = f.pc

theorem Quiet.refl (f : Frame) : Quiet f f := ⟨rfl, rfl, rfl, rfl, rfl⟩

theorem Quiet.trans {f g k : Frame} (h₁ : Quiet f g) (h₂ : Quiet g k) : Quiet f k :=
  ⟨h₂.gasRemaining.trans h₁.gasRemaining, h₂.code.trans h₁.code, h₂.state.trans h₁.state,
    h₂.haltReason.trans h₁.haltReason, h₂.pc.trans h₁.pc⟩

theorem quiet_of_stackPop {f g : Frame} {w : Word} (hp : stackPop f = some (w, g)) : Quiet f g := by
  unfold stackPop at hp
  split_ifs at hp
  cases hp
  exact ⟨rfl, rfl, rfl, rfl, rfl⟩

theorem quiet_of_ensureMemory {f g : Frame} {offset size : Nat} {ok : Bool}
    (he : ensureMemory f offset size = (ok, g)) : Quiet f g := by
  obtain ⟨_, _, hg, -⟩ := ensureMemory_spec f offset size
  rw [he] at hg
  dsimp only at hg
  subst hg
  exact ⟨rfl, rfl, rfl, rfl, rfl⟩

theorem quiet_writeMemory (f : Frame) (offset : Nat) (bytes : List UInt8) :
    Quiet f (f.writeMemory offset bytes) :=
  ⟨rfl, rfl, rfl, rfl, rfl⟩

variable {h : Handler}

theorem Effect.of_quiet {f g : Frame} {pcIncrement : Int} (hq : Quiet f g) :
    Effect h f pcIncrement g :=
  ⟨hq.gasRemaining, hq.code, .inl ⟨hq.state, hq.haltReason⟩⟩

theorem Effect.trans_quiet {f g k : Frame} {pcIncrement : Int} (hq : Quiet f g)
    (he : Effect h g pcIncrement k) : Effect h f pcIncrement k := by
  obtain ⟨hgas, hcode, hst⟩ := he
  refine ⟨hgas.trans hq.gasRemaining, hcode.trans hq.code, ?_⟩
  rcases hst with ⟨hs, hr⟩ | ⟨hstop, h7, hr⟩ | ⟨h4, h0, hpc, hc⟩
  · exact .inl ⟨hs.trans hq.state, hr.trans hq.haltReason⟩
  · exact .inr (.inl ⟨hstop, h7, hr.trans hq.haltReason⟩)
  · exact .inr (.inr ⟨h4, h0, hpc.trans hq.pc, hc⟩)

/-! ## 2. One lemma per family -/

section Families

variable (f : Frame)

theorem pushResult_effect (w : Word) : Effect h f (pushResult w f).1 (pushResult w f).2 := by
  unfold pushResult stackPush
  split_ifs <;> exact Effect.of_quiet ⟨rfl, rfl, rfl, rfl, rfl⟩

theorem binaryOp_effect (op : Word → Word → Word) :
    Effect h f (binaryOp op f).1 (binaryOp op f).2 := by
  unfold binaryOp
  split
  · exact Effect.of_quiet (Quiet.refl _)
  next a g hp =>
    split
    · exact Effect.of_quiet (quiet_of_stackPop hp)
    next b k hp' =>
      exact (pushResult_effect k _).trans_quiet ((quiet_of_stackPop hp).trans (quiet_of_stackPop hp'))

theorem unaryOp_effect (op : Word → Word) : Effect h f (unaryOp op f).1 (unaryOp op f).2 := by
  unfold unaryOp
  split
  · exact Effect.of_quiet (Quiet.refl _)
  next a g hp => exact (pushResult_effect g _).trans_quiet (quiet_of_stackPop hp)

theorem opPop_effect : Effect h f (opPop f).1 (opPop f).2 := by
  unfold opPop
  split
  next a g hp => exact Effect.of_quiet (quiet_of_stackPop hp)
  · exact Effect.of_quiet (Quiet.refl _)

theorem opPush_effect (n : Nat) : Effect h f (opPush f n).1 (opPush f n).2 := by
  unfold opPush stackPush
  split_ifs <;> exact Effect.of_quiet ⟨rfl, rfl, rfl, rfl, rfl⟩

theorem opDup_effect (n : Nat) : Effect h f (opDup f n).1 (opDup f n).2 := by
  unfold opDup
  split
  · exact Effect.of_quiet (Quiet.refl _)
  · exact pushResult_effect f _

theorem opSwap_effect (n : Nat) : Effect h f (opSwap f n).1 (opSwap f n).2 := by
  unfold opSwap
  split_ifs <;> exact Effect.of_quiet ⟨rfl, rfl, rfl, rfl, rfl⟩

/-- The memory handlers: pops, `ensure_memory`, then a push or a write. -/
theorem opMload_effect : Effect h f (opMload f).1 (opMload f).2 := by
  unfold opMload
  split
  · exact Effect.of_quiet (Quiet.refl _)
  next w g hp =>
    dsimp only
    split
    next k he => exact Effect.of_quiet ((quiet_of_stackPop hp).trans (quiet_of_ensureMemory he))
    next k he =>
      exact (pushResult_effect k _).trans_quiet ((quiet_of_stackPop hp).trans (quiet_of_ensureMemory he))

theorem storeOp_effect (size : Nat) (bytes : Word → List UInt8) :
    Effect h f (storeOp size bytes f).1 (storeOp size bytes f).2 := by
  unfold storeOp
  split
  · exact Effect.of_quiet (Quiet.refl _)
  next w g hp =>
    split
    · exact Effect.of_quiet (quiet_of_stackPop hp)
    next v k hp' =>
      have hq := (quiet_of_stackPop hp).trans (quiet_of_stackPop hp')
      dsimp only
      split
      next m he => exact Effect.of_quiet (hq.trans (quiet_of_ensureMemory he))
      next m he =>
        exact Effect.of_quiet ((hq.trans (quiet_of_ensureMemory he)).trans (quiet_writeMemory m _ _))

theorem opMstore_effect : Effect h f (opMstore f).1 (opMstore f).2 :=
  storeOp_effect f 32 Bytes.toList

theorem opMstore8_effect : Effect h f (opMstore8 f).1 (opMstore8 f).2 :=
  storeOp_effect f 1 fun value => [value.get 31]

/-- Both jump handlers end in `jumpTo`: a halt with 7 or 6, or a new `pc`. -/
theorem jumpTo_effect (dest : Nat) (hc : ∀ reason, reason = 6 ∨ reason = 7 → h.haltCause reason) :
    Effect h f (jumpTo f dest).1 (jumpTo f dest).2 := by
  unfold jumpTo
  split_ifs
  · exact ⟨rfl, rfl, .inr (.inr ⟨rfl, rfl, rfl, hc 7 (.inr rfl)⟩)⟩
  · exact ⟨rfl, rfl, .inr (.inr ⟨rfl, rfl, rfl, hc 6 (.inl rfl)⟩)⟩
  · exact ⟨rfl, rfl, .inl ⟨rfl, rfl⟩⟩

theorem opJump_effect : Effect .jump f (opJump f).1 (opJump f).2 := by
  unfold opJump
  split
  · exact Effect.of_quiet (Quiet.refl _)
  next d g hp => exact (jumpTo_effect g _ fun _ => id).trans_quiet (quiet_of_stackPop hp)

theorem opJumpi_effect : Effect .jumpi f (opJumpi f).1 (opJumpi f).2 := by
  unfold opJumpi
  split
  · exact Effect.of_quiet (Quiet.refl _)
  next d g hp =>
    split
    · exact Effect.of_quiet (quiet_of_stackPop hp)
    next c k hp' =>
      have hq := (quiet_of_stackPop hp).trans (quiet_of_stackPop hp')
      split
      · exact (jumpTo_effect k _ fun _ => id).trans_quiet hq
      · exact Effect.of_quiet hq

end Families

/-- Every case keeps the contract. -/
theorem Handler.exec_effect (h : Handler) (f : Frame) : Effect h f (h.exec f).1 (h.exec f).2 := by
  cases h
  case stop => exact ⟨rfl, rfl, .inr (.inl ⟨rfl, rfl, rfl⟩)⟩
  case stub | invalid => exact ⟨rfl, rfl, .inr (.inr ⟨rfl, rfl, rfl, rfl⟩)⟩
  case jump => exact opJump_effect f
  case jumpi => exact opJumpi_effect f
  case jumpdest => exact Effect.of_quiet (Quiet.refl f)
  case add | mul | sub | div | mod | lt | gt | eq | and | or | xor => exact binaryOp_effect f _
  case iszero | not => exact unaryOp_effect f _
  case pc | msize | gas | push0 => exact pushResult_effect f _
  case pop => exact opPop_effect f
  case mload => exact opMload_effect f
  case mstore => exact opMstore_effect f
  case mstore8 => exact opMstore8_effect f
  case push n => exact opPush_effect f n
  case dup n => exact opDup_effect f n
  case swap n => exact opSwap_effect f n

/-- The contract at a case's result. -/
theorem Handler.effect_of_exec {h : Handler} {f g : Frame} {pcIncrement : Int}
    (he : h.exec f = (pcIncrement, g)) : Effect h f pcIncrement g := by
  have hx := h.exec_effect f
  rwa [he] at hx

/-! ## 3. Which cases halt -/

theorem handlerOf_eq_jump {n : Nat} (h : handlerOf n = .jump) : n = 0x56 := by
  unfold handlerOf at h
  split at h <;> first | rfl | cases h | split_ifs at h

theorem handlerOf_eq_jumpi {n : Nat} (h : handlerOf n = .jumpi) : n = 0x57 := by
  unfold handlerOf at h
  split at h <;> first | rfl | cases h | split_ifs at h

/-- A case that sets a halt reason is a stub or the `default` (2), or a jump handler (6, 7). -/
theorem haltCause_handlerOf {b : UInt8} {reason : Nat} (h : (handlerOf b.toNat).haltCause reason) :
    (reason = 2 ∧ (handlerOf b.toNat = .stub ∨ handlerOf b.toNat = .invalid)) ∨
    ((reason = 6 ∨ reason = 7) ∧ (b = 0x56 ∨ b = 0x57)) := by
  generalize hb : handlerOf b.toNat = k at h
  cases k <;> simp only [Handler.haltCause] at h
  case stub | invalid => exact .inl ⟨h, by simp⟩
  case jump => exact .inr ⟨h, .inl (UInt8.toNat.inj (handlerOf_eq_jump hb))⟩
  case jumpi => exact .inr ⟨h, .inr (UInt8.toNat.inj (handlerOf_eq_jumpi hb))⟩

end NativeEvm.Switch
