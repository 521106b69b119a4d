import NativeEvm.Switch.Effect
import NativeEvm.Termination

/-!
# The `switch` interpreter over a run

A pass of the `switch` loop ends in one of four ways: the 3-gas floor, a handler error (with
`stack_size >= 1024 ? 4 : 5`), the check `gas_remaining < 0` after the charge, or back to the
loop test.  With the effect contract of every case this gives the halt reasons of a whole run:
1 from the gas checks, 4 or 5 by the stack height at a handler error, 2 at a stub or the
`default`, 6 or 7 at a jump.  The loop never reports 3.
-/

namespace NativeEvm.Switch

/-! ## 1. One pass -/

section Body

variable (hasTracer : Bool) (f : Frame)

/-- The ways a pass can end, for a frame with at least 3 gas: the case at `code[pc]` returned
`(pcIncrement, g)`, then a handler error, a failed gas check after the charge, or a charged step
back to the loop test. -/
theorem loopBody_spec : (f.gasRemaining < 3 ∧ loopBody hasTracer f = .halt (f.halt 1) []) ∨
    3 ≤ f.gasRemaining ∧ ∃ pcIncrement g, (handlerOf (f.codeAt f.pc).toNat).exec f = (pcIncrement, g) ∧
      ((pcIncrement < 0 ∧ loopBody hasTracer f =
          .halt (g.halt (if 1024 ≤ g.stackSize then 4 else 5)) (traced hasTracer [.pre f])) ∨
       (0 ≤ pcIncrement ∧ g.gasRemaining < gasCost (f.codeAt f.pc) ∧ loopBody hasTracer f =
          .halt ((g.charge (gasCost (f.codeAt f.pc))).halt 1) (traced hasTracer [.pre f])) ∨
       (0 ≤ pcIncrement ∧ gasCost (f.codeAt f.pc) ≤ g.gasRemaining ∧ loopBody hasTracer f =
          .next ((g.charge (gasCost (f.codeAt f.pc))).advance pcIncrement)
            (traced hasTracer [.pre f, .post (g.charge (gasCost (f.codeAt f.pc)))
              ⟨gasCost (f.codeAt f.pc), 0, pcIncrement⟩]))) := by
  by_cases h3 : f.gasRemaining < 3
  · exact .inl ⟨h3, if_pos h3⟩
  refine .inr ⟨by omega, ?_⟩
  rcases he : (handlerOf (f.codeAt f.pc).toNat).exec f with ⟨pcIncrement, g⟩
  refine ⟨pcIncrement, g, rfl, ?_⟩
  simp only [loopBody, if_neg h3, he]
  by_cases h1 : pcIncrement < 0
  · exact .inl ⟨h1, if_pos h1⟩
  by_cases h2 : g.gasRemaining < gasCost (f.codeAt f.pc)
  · exact .inr (.inl ⟨by omega, h2, by rw [if_neg h1, if_pos (by simp only [Frame.charge]; omega)]⟩)
  · exact .inr (.inr ⟨by omega, by omega, by rw [if_neg h1, if_neg (by simp only [Frame.charge]; omega)]⟩)

end Body

/-! ## 2. Halt reasons -/

/-- The halt reasons the `switch` interpreter can report for a frame halted at `code[pc]`. -/
def NamesHaltCause (g : Frame) : Prop :=
  g.haltReason = 1 ∨ (g.haltReason = 4 ∧ 1024 ≤ g.stackSize) ∨
  (g.haltReason = 5 ∧ g.stackSize < 1024) ∨
  (g.haltReason = 2 ∧
    (handlerOf (g.codeAt g.pc).toNat = .stub ∨ handlerOf (g.codeAt g.pc).toNat = .invalid)) ∨
  ((g.haltReason = 6 ∨ g.haltReason = 7) ∧ (g.codeAt g.pc = 0x56 ∨ g.codeAt g.pc = 0x57))

/-- A halt the case made itself, kept by the charge and by an increment of 0. -/
theorem namesHaltCause_of_haltCause {g : Frame}
    (h : (handlerOf (g.codeAt g.pc).toNat).haltCause g.haltReason) : NamesHaltCause g := by
  rcases haltCause_handlerOf h with h2 | h67
  · exact .inr (.inr (.inr (.inl h2)))
  · exact .inr (.inr (.inr (.inr h67)))

theorem loopBody_names_halt_cause (hasTracer : Bool) (f : Frame) (hr : f.running) :
    (loopBody hasTracer f).Keeps (fun g => g.state = 4 → NamesHaltCause g) fun _ => True := by
  refine ⟨?_, fun _ _ => trivial⟩
  rcases loopBody_spec hasTracer f with ⟨-, hs⟩ | ⟨-, pcIncrement, g, he, ⟨-, hs⟩ | ⟨-, -, hs⟩ | ⟨hnn, -, hs⟩⟩ <;>
    rw [hs] <;> dsimp only [Iteration.frame] <;> intro h4
  · exact .inl rfl
  · by_cases hf : 1024 ≤ g.stackSize
    · exact .inr (.inl ⟨by simp [hf], hf⟩)
    · exact .inr (.inr (.inl ⟨by simp [hf], Nat.lt_of_not_le hf⟩))
  · exact .inl rfl
  have hx := Handler.effect_of_exec he
  simp only [Frame.advance, Frame.charge] at h4
  rcases hx.status with ⟨hs', -⟩ | ⟨-, h7, -⟩ | ⟨-, h0, hpc, hc⟩
  · have := hr.2
    omega
  · omega
  · subst h0
    apply namesHaltCause_of_haltCause
    simpa only [Frame.codeAt, Frame.advance, Frame.charge, hpc, hx.code, lt_irrefl, if_false]
      using hc

/-- A run of the `switch` interpreter that ends in `EXCEPTIONAL_HALT` reports 1 for gas, 4 or 5
by the stack height at a handler error, 2 at a stub or the `default`, 6 or 7 at a jump. -/
theorem executeMessage_names_halt_cause (hasTracer : Bool) (frame : Frame)
    (h4 : (executeMessage hasTracer frame).1.state = 4) :
    NamesHaltCause (executeMessage hasTracer frame).1 :=
  (runLoop_invariant _ (fun _ => True) (fun f _ hr => loopBody_names_halt_cause hasTracer f hr)
    (fun f hf _ => by
      by_cases h1 : f.state = 1
      · simp [h1]
      · rwa [Frame.finish_of_ne h1])
    (frame.gasRemaining.toNat + 2) { frame with state := 1 } (by simp)).1 h4

/-! ## 3. Every run ends -/

section Ends

variable (hasTracer : Bool)

/-- A pass back to the loop test spends the step's price, 3, keeping the gas nonnegative, unless
it is `STOP`, priced 0, which completes the frame. -/
theorem loopBody_decreases (f : Frame) (_hr : f.running) :
    (loopBody hasTracer f).Decreases f (gasCost (f.codeAt f.pc)) := by
  rcases loopBody_spec hasTracer f with ⟨-, h⟩ | ⟨-, pcIncrement, k, he, ⟨-, h⟩ | ⟨-, -, h⟩ | ⟨-, hle, h⟩⟩ <;>
    rw [h] <;> try trivial
  by_cases h0 : f.codeAt f.pc = 0x00
  · have hstop : (handlerOf (0x00 : UInt8).toNat).exec f = (0, { f with state := 7 }) := rfl
    rw [h0, hstop, Prod.mk.injEq] at he
    exact .inl (by rw [← he.2]; simp)
  · have hgas := (Handler.effect_of_exec he).gasRemaining
    simp only [gasCost, if_neg h0] at hle ⊢
    exact .inr ⟨by decide, by simp [hgas], by simp only [Frame.advance, Frame.charge]; omega⟩

theorem loopBody_progress : Progress (loopBody hasTracer) :=
  progress_of_decreases _ (loopBody_decreases hasTracer)

/-- Every `return` out of the loop body halts the frame. -/
theorem loopBody_halt_state {f g : Frame} {events : List TraceEvent}
    (hb : loopBody hasTracer f = .halt g events) : g.state ≠ 1 := by
  rcases loopBody_spec hasTracer f with ⟨-, h⟩ | ⟨-, _, _, -, ⟨-, h⟩ | ⟨-, -, h⟩ | ⟨-, -, h⟩⟩ <;>
    rw [h] at hb <;> cases hb <;> simp

theorem executeMessage_fuel_stable (frame : Frame) (k : Nat) :
    runLoop (loopBody hasTracer) (frame.gasRemaining.toNat + 2 + k) { frame with state := 1 } =
      executeMessage hasTracer frame :=
  runLoop_fuel_stable (loopBody_progress hasTracer) _ _ (passBound_start frame) k

theorem executeMessage_state_ne_one (frame : Frame) :
    (executeMessage hasTracer frame).1.state ≠ 1 :=
  runLoop_state_ne_one (loopBody_progress hasTracer)
    (fun _ _ _ _ hb => loopBody_halt_state hasTracer hb) _ _ (passBound_start frame)

theorem loopBody_settled (f : Frame) (hf : f.Settled) (hr : f.running) :
    (loopBody hasTracer f).Keeps Frame.Settled fun _ => True := by
  have hs : f.state = 1 := hr.2
  have h0 : f.haltReason = 0 := by unfold Frame.Settled at hf; omega
  refine ⟨?_, fun _ _ => trivial⟩
  rcases loopBody_spec hasTracer f with ⟨-, h⟩ | ⟨-, pcIncrement, k, he, ⟨-, h⟩ | ⟨-, -, h⟩ | ⟨-, -, h⟩⟩ <;>
    rw [h] <;> dsimp only [Iteration.frame]
  · simp [Frame.Settled]
  · unfold Frame.Settled; split <;> simp
  · simp [Frame.Settled]
  have hx := Handler.effect_of_exec he
  unfold Frame.Settled
  simp only [Frame.advance, Frame.charge]
  rcases hx.status with ⟨hst, hr'⟩ | ⟨-, h7, hr'⟩ | ⟨h4, -, -, hc⟩
  · omega
  · omega
  · have := Handler.haltCause_bounds hc
    omega

/-- A run of the `switch` interpreter entered with `halt_reason = 0` ends `COMPLETED_SUCCESS`
with reason 0, or `EXCEPTIONAL_HALT` with a reason in `1..7`. -/
theorem executeMessage_terminal_frame (frame : Frame) (h0 : frame.haltReason = 0) :
    (executeMessage hasTracer frame).1.Terminal := by
  have hsettled : (executeMessage hasTracer frame).1.Settled :=
    (runLoop_invariant Frame.Settled (fun _ => True) (loopBody_settled hasTracer)
      (fun f hf _ => by unfold Frame.Settled at hf ⊢; simp only [Frame.finish]; split <;> omega)
      (frame.gasRemaining.toNat + 2) { frame with state := 1 } (by simp [Frame.Settled, h0])).1
  have hne := executeMessage_state_ne_one hasTracer frame
  unfold Frame.Settled at hsettled
  exact ⟨by omega, ⟨fun _ => by omega, fun _ => by omega⟩, fun _ => by omega⟩

theorem executeMessage_terminal_frame_jump :
    (Frame.scenario [0x60, 0x10, 0x56] 100).haltReason = 0 ∧
    (executeMessage false (Frame.scenario [0x60, 0x10, 0x56] 100)).1.Terminal :=
  ⟨rfl, executeMessage_terminal_frame false _ rfl⟩

end Ends

end NativeEvm.Switch

namespace NativeEvm

/-! ## 4. Termination of the three loops -/

/-- Termination by gas, for `evm_optimized`, `evm_jumptable` and the `switch`: a pass from an
executing frame either `return`s, or leaves the frame out of `EXECUTING`, or spends its price,
at least 1, leaving the gas nonnegative.  So `gas_remaining + 2` passes end every run, more change
nothing, and no run ends `EXECUTING`. -/
theorem loops_terminate_by_gas :
    (∀ (b : Build) (hasTracer : Bool) (f : Frame), f.running →
      (loopBody b.dispatch hasTracer f).Decreases f (b.dispatch (f.codeAt f.pc) f).1.gasCost) ∧
    (∀ (hasTracer : Bool) (f : Frame), f.running →
      (Switch.loopBody hasTracer f).Decreases f (Switch.gasCost (f.codeAt f.pc))) ∧
    (∀ (b : Build) (hasTracer : Bool) (frame : Frame) (k : Nat),
      runLoop (loopBody b.dispatch hasTracer) (frame.gasRemaining.toNat + 2 + k)
          { frame with state := 1 } = b.executeMessage hasTracer frame ∧
        (b.executeMessage hasTracer frame).1.state ≠ 1) ∧
    (∀ (hasTracer : Bool) (frame : Frame) (k : Nat),
      runLoop (Switch.loopBody hasTracer) (frame.gasRemaining.toNat + 2 + k)
          { frame with state := 1 } = Switch.executeMessage hasTracer frame ∧
        (Switch.executeMessage hasTracer frame).1.state ≠ 1) :=
  ⟨fun b hasTracer => loopBody_decreases b.dispatch_effect hasTracer,
    Switch.loopBody_decreases,
    fun b hasTracer frame k => by
      rw [b.executeMessage_eq]
      exact ⟨executeMessage_fuel_stable b.dispatch_effect hasTracer frame k,
        executeMessage_state_ne_one b.dispatch_effect hasTracer frame⟩,
    fun hasTracer frame k =>
      ⟨Switch.executeMessage_fuel_stable hasTracer frame k,
        Switch.executeMessage_state_ne_one hasTracer frame⟩⟩

end NativeEvm
