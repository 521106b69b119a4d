import NativeEvm.Termination
import NativeEvm.Switch.Run

/-!
# Halt reasons — what an exceptional halt reports

An exceptional halt gets its `halt_reason` in one of three places: the loop's gas checks (1), the
loop's default for a handler that fails without halting the frame itself (4), or the handler.
Only `op_jump`/`op_jumpi` (3), `op_invalid` (2) and `op_sstore` (6 in a static frame, 2 on a full
storage plane) set one themselves, and a failing handler leaves `pc` on its opcode.  So 5
(`STACK_OVERFLOW`) and 7 (`OUT_OF_BOUNDS`) are never reported: a push onto 1024 items and a memory
access past the ceiling both end with the default 4.  The `switch` interpreter of part_002 reports
4 or 5 by the stack height instead, and 7 or 6 for a bad jump target (`NativeEvm.Switch.Run`).
-/

namespace NativeEvm

/-- The halt reasons a build can report for a frame halted at `code[pc]`. -/
def Build.NamesHaltCause (b : Build) (g : Frame) : Prop :=
  g.haltReason = 1 ∨ g.haltReason = 4 ∨
  (g.haltReason = 3 ∧ (g.codeAt g.pc = 0x56 ∨ g.codeAt g.pc = 0x57)) ∨
  (g.haltReason = 2 ∧ (0xfd ≤ g.codeAt g.pc ∨
    (b = .optimized ∧ g.codeAt g.pc = 0x45 ∧ g.maxStorageSlots ≤ g.storage.length))) ∨
  (g.haltReason = 6 ∧ b = .optimized ∧ g.codeAt g.pc = 0x45 ∧ g.isStatic ≠ 0)

/-! ## 1. Where a halt's reason comes from -/

section Generic

variable {dispatch : UInt8 → Frame → OpResult × Frame} {cause : UInt8 → Frame → Frame → Prop}
  (hd : ∀ opcode f, Effect (cause opcode f) f (dispatch opcode f).1 (dispatch opcode f).2)
  (hasTracer : Bool)

/-- A halted frame got its reason from a gas check, from the loop's default, or from the handler
at its `code[pc]`. -/
def HaltAccounted (cause : UInt8 → Frame → Frame → Prop) (g : Frame) : Prop :=
  g.state = 4 → g.haltReason = 1 ∨ g.haltReason = 4 ∨ ∃ f, cause (g.codeAt g.pc) f g

include hd

theorem dispatchStep_haltAccounted (f : Frame) (hr : f.running) :
    HaltAccounted cause (dispatchStep dispatch hasTracer f).frame := by
  obtain ⟨r, h, he, ⟨hneg, hs⟩ | ⟨-, -, hs⟩ | ⟨hnn, -, hs⟩⟩ :=
    dispatchStep_spec dispatch hasTracer f <;> rw [hs] <;> dsimp only [Iteration.frame] <;>
    intro h4 <;> have he' := effect_of_dispatch hd he
  · by_cases h1 : h.state = 1
    · rw [if_pos h1]
      exact .inr (.inl rfl)
    · rw [if_neg h1] at h4 ⊢
      rcases he'.of_neg hneg with ⟨hs', -⟩ | ⟨-, -, -, hcause⟩
      · exact absurd (hs'.trans hr.2) h1
      · have hat : h.codeAt h.pc = f.codeAt f.pc := by
          simp only [Frame.codeAt, he'.pc_of_neg hneg, he'.code]
        exact .inr (.inr ⟨f, hat ▸ hcause⟩)
  · exact .inl rfl
  · rcases (he'.of_nonneg hr.2 hnn).2 with ⟨hs', -⟩ | ⟨hs', -⟩ <;> simp [hs'] at h4

theorem loopBody_haltAccounted (f : Frame) (hr : f.running) :
    (loopBody dispatch hasTracer f).Keeps (HaltAccounted cause) fun _ => True := by
  refine ⟨?_, fun _ _ => trivial⟩
  rcases loopBody_spec dispatch hasTracer f with ⟨-, hs⟩ | ⟨-, hs⟩ <;> rw [hs]
  · exact fun _ => .inl rfl
  · exact dispatchStep_haltAccounted hd hasTracer f hr

theorem executeMessage_haltAccounted (frame : Frame) :
    HaltAccounted cause (executeMessage dispatch hasTracer frame).1 :=
  (runLoop_invariant _ _ (fun f _ hr => loopBody_haltAccounted hd hasTracer f hr)
    (fun f hf _ => by
      by_cases h1 : f.state = 1
      · simp [HaltAccounted, h1]
      · rwa [Frame.finish_of_ne h1])
    (frame.gasRemaining.toNat + 2) { frame with state := 1 } (by simp [HaltAccounted])).1

end Generic

/-! ## 2. Both builds, and the `switch` -/

theorem Build.executeMessage_names_halt_cause (b : Build) (hasTracer : Bool) (frame : Frame)
    (h4 : (b.executeMessage hasTracer frame).1.state = 4) :
    b.NamesHaltCause (b.executeMessage hasTracer frame).1 := by
  rw [b.executeMessage_eq] at h4 ⊢
  rcases executeMessage_haltAccounted b.dispatch_effect hasTracer frame h4 with
    h | h | ⟨f, hcause⟩
  · exact .inl h
  · exact .inr (.inl h)
  rcases Build.haltCause_opcode hcause with ⟨h3, hop⟩ | ⟨h2, hop⟩ | ⟨hb, hop, ⟨hg, hs⟩ | ⟨hg, hs⟩⟩
  · exact .inr (.inr (.inl ⟨h3, hop⟩))
  · exact .inr (.inr (.inr (.inl ⟨h2, .inl hop⟩)))
  · rw [hg] at hop ⊢
    exact .inr (.inr (.inr (.inr ⟨rfl, hb, hop, hs⟩)))
  · rw [hg] at hop ⊢
    exact .inr (.inr (.inr (.inl ⟨rfl, .inr ⟨hb, hop, hs⟩⟩)))

/-- `PUSH0` onto a full stack and `MLOAD` at the 1 MiB ceiling halt with 4 in the builds, not with
5 and 7; in the `switch`, `ADD` on an empty stack halts with 5, `PUSH0` onto a full stack with 4,
and `JUMP` past the code with 7. -/
example :
    (Build.optimized.executeMessage false
      { Frame.scenario [0x5f] 100 with stackSize := 1024 }).1.haltReason = 4 ∧
    (Build.optimized.executeMessage false
      (Frame.scenario [0x62, 0x10, 0x00, 0x00, 0x51] 100)).1.haltReason = 4 ∧
    (Switch.executeMessage false (Frame.scenario [0x01] 100)).1.haltReason = 5 ∧
    (Switch.executeMessage false
      { Frame.scenario [0x5f] 100 with stackSize := 1024 }).1.haltReason = 4 ∧
    (Switch.executeMessage false (Frame.scenario [0x60, 0x10, 0x56] 100)).1.haltReason = 7 := by
  decide

/-- `PUSH0; JUMP` to the byte `0x5f`, which is not `JUMPDEST`: the `switch` writes 6
(`ILLEGAL_STATE_CHANGE`) under its comment `INVALID_JUMP_DESTINATION`, where both builds write 3. -/
theorem switch_bad_jump_reports_six :
    (Switch.executeMessage false (Frame.scenario [0x5f, 0x56] 100)).1.state = 4 ∧
    (Switch.executeMessage false (Frame.scenario [0x5f, 0x56] 100)).1.haltReason = 6 ∧
    (Build.optimized.executeMessage false (Frame.scenario [0x5f, 0x56] 100)).1.haltReason = 3 ∧
    (Build.jumptable.executeMessage false (Frame.scenario [0x5f, 0x56] 100)).1.haltReason = 3 := by
  decide

end NativeEvm
