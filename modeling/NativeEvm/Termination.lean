import NativeEvm.Build
import NativeEvm.Run

/-!
# Termination — every run ends, and ends settled

From the effect contract alone: a pass that goes back to the loop test spends what its handler
costs, at least one unit of gas (`loopBody_decreases`), so `gas_remaining + 2` passes always
finish the run and more change nothing; the run ends in `COMPLETED_SUCCESS` with `halt_reason`
untouched, or in `EXCEPTIONAL_HALT` with a reason in `1..7`.
-/

namespace NativeEvm

/-- A frame for running a short program: `code` at `pc = 0` with `gas`, and an empty stack, memory
and storage plane with room for 16 slots, in a non-static call. -/
def Frame.scenario (code : List UInt8) (gas : Int) : Frame where
  pc := 0
  gasRemaining := gas
  gasRefund := 0
  stackSize := 0
  memorySize := 0
  state := 0
  isStatic := 0
  codeSize := code.length.toUInt32
  contract := Bytes.zero 20
  haltReason := 0
  maxStorageSlots := 16
  stack := fun _ => Bytes.zero 32
  memory := fun _ => 0
  code := code
  storage := []

/-- How a run may end: completed with `halt_reason` still 0, or halted with a reason in
`1..7`; never `NOT_STARTED` or `EXECUTING`. -/
structure Frame.Terminal (g : Frame) : Prop where
  state : g.state = 7 ∨ g.state = 4
  completed_iff : g.state = 7 ↔ g.haltReason = 0
  halted : g.state = 4 → 1 ≤ g.haltReason ∧ g.haltReason ≤ 7

theorem passBound_start (frame : Frame) :
    passBound { frame with state := 1 } ≤ frame.gasRemaining.toNat + 2 := by
  simp [passBound]

section Generic

variable {dispatch : UInt8 → Frame → OpResult × Frame} {cause : UInt8 → Frame → Frame → Prop}
  (hd : ∀ opcode f, Effect (cause opcode f) f (dispatch opcode f).1 (dispatch opcode f).2)
  (hasTracer : Bool)

include hd

theorem effect_of_dispatch {opcode : UInt8} {f g : Frame} {r : OpResult}
    (he : dispatch opcode f = (r, g)) : Effect (cause opcode f) f r g := by
  have := hd opcode f
  rwa [he] at this

/-! ## 1. Progress -/

/-- A charged pass that keeps executing spends what its handler cost, at least one unit of gas;
a `STOP` that costs nothing completes the frame. -/
theorem loopBody_decreases (f : Frame) (hr : f.running) :
    (loopBody dispatch hasTracer f).Decreases f (dispatch (f.codeAt f.pc) f).1.gasCost := by
  rcases loopBody_spec dispatch hasTracer f with ⟨-, hs⟩ | ⟨-, hs⟩ <;> rw [hs]
  · trivial
  obtain ⟨r, h, he, ⟨-, hs'⟩ | ⟨-, -, hs'⟩ | ⟨hnn, hle, hs'⟩⟩ :=
    dispatchStep_spec dispatch hasTracer f <;> rw [hs'] <;> try trivial
  have he' := effect_of_dispatch hd he
  rw [he]
  rcases (he'.of_nonneg hr.2 hnn).2 with ⟨-, hcost⟩ | ⟨h7, -⟩
  · exact .inr ⟨hcost, by simp [he'.gasRemaining], by simp only [Frame.advance, Frame.charge]; omega⟩
  · exact .inl (by simp [h7])

theorem loopBody_progress : Progress (loopBody dispatch hasTracer) :=
  progress_of_decreases _ (loopBody_decreases hd hasTracer)

/-! ## 2. Enough fuel, and the run ends -/

/-- `execute_message`'s `gas_remaining + 2` passes are all a run can use: with more, the run is
the same. -/
theorem executeMessage_fuel_stable (frame : Frame) (k : Nat) :
    runLoop (loopBody dispatch hasTracer) (frame.gasRemaining.toNat + 2 + k)
      { frame with state := 1 } = executeMessage dispatch hasTracer frame :=
  runLoop_fuel_stable (loopBody_progress hd hasTracer) _ _ (passBound_start frame) k

theorem executeMessage_state_ne_one (frame : Frame) :
    (executeMessage dispatch hasTracer frame).1.state ≠ 1 :=
  runLoop_state_ne_one (loopBody_progress hd hasTracer)
    (fun _ _ _ _ hb => loopBody_halt_state dispatch hasTracer hb) _ _ (passBound_start frame)

/-! ## 3. Settled frames -/

/-- Running or completed with `halt_reason` 0, or halted with a reason in `1..7`. -/
def Frame.Settled (f : Frame) : Prop :=
  ((f.state = 1 ∨ f.state = 7) ∧ f.haltReason = 0) ∨
  (f.state = 4 ∧ 1 ≤ f.haltReason ∧ f.haltReason ≤ 7)

theorem dispatchStep_settled (f : Frame) (hf : f.Settled) (hr : f.running) :
    (dispatchStep dispatch hasTracer f).Keeps Frame.Settled fun _ => True := by
  have hs : f.state = 1 := hr.2
  have h0 : f.haltReason = 0 := by unfold Frame.Settled at hf; omega
  obtain ⟨r, h, he, ⟨hneg, hs'⟩ | ⟨-, -, hs'⟩ | ⟨hnn, -, hs'⟩⟩ :=
    dispatchStep_spec dispatch hasTracer f <;> rw [hs'] <;> refine ⟨?_, fun _ _ => trivial⟩ <;>
    dsimp only [Iteration.frame]
  · have he' := effect_of_dispatch hd he
    rcases he'.of_neg hneg with ⟨h1, -⟩ | ⟨h4, hpos, hle, -⟩
    · simp [Frame.Settled, h1, hs]
    · rw [if_neg (by omega)]
      unfold Frame.Settled
      omega
  · simp [Frame.Settled]
  · obtain ⟨hreason, ⟨hst, -⟩ | ⟨hst, -⟩⟩ := (effect_of_dispatch hd he).of_nonneg hs hnn <;>
      simp [Frame.Settled, hst, hreason, h0]

theorem loopBody_settled (f : Frame) (hf : f.Settled) (hr : f.running) :
    (loopBody dispatch hasTracer f).Keeps Frame.Settled fun _ => True := by
  rcases loopBody_spec dispatch hasTracer f with ⟨-, hs⟩ | ⟨-, hs⟩ <;> rw [hs]
  · have : f.state = 1 := hr.2
    exact ⟨by simp [Frame.Settled], by simp⟩
  · exact dispatchStep_settled hd hasTracer f hf hr

theorem executeMessage_terminal (frame : Frame) (h0 : frame.haltReason = 0) :
    (executeMessage dispatch hasTracer frame).1.Terminal := by
  have hsettled : (executeMessage dispatch hasTracer frame).1.Settled :=
    (runLoop_invariant Frame.Settled (fun _ => True)
    (loopBody_settled hd hasTracer)
    (fun f hf _ => by unfold Frame.Settled at hf ⊢; simp only [Frame.finish]; split <;> omega)
    (frame.gasRemaining.toNat + 2) { frame with state := 1 } (by simp [Frame.Settled, h0])).1
  have hne := executeMessage_state_ne_one hd hasTracer frame
  unfold Frame.Settled at hsettled
  exact ⟨by omega, ⟨fun _ => by omega, fun _ => by omega⟩, fun _ => by omega⟩

end Generic

/-! ## 4. Both builds -/

theorem executeMessage_terminal_state (b : Build) (hasTracer : Bool) (frame : Frame)
    (h0 : frame.haltReason = 0) : (b.executeMessage hasTracer frame).1.Terminal := by
  rw [b.executeMessage_eq]
  exact executeMessage_terminal b.dispatch_effect hasTracer frame h0

theorem executeMessage_terminal_state_stop :
    (Frame.scenario [0x00] 10).haltReason = 0 ∧
    (Build.optimized.executeMessage false (Frame.scenario [0x00] 10)).1.Terminal :=
  ⟨rfl, executeMessage_terminal_state .optimized false _ rfl⟩

end NativeEvm
