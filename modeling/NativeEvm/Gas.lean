import NativeEvm.Termination

/-!
# Gas — what a run charges

Handlers never write `gas_remaining` (`Effect.gasRemaining`); the loop charges a step once, after
the per-op check, and reports the charge to `trace_post_execution`.  So gas never goes negative,
and the gas a run spends is the sum of the costs its post-execution upcalls report; the step a run
halts at is not charged.

The 3-gas floor in front of the dispatch is more than an optimisation: a frame left with less
than 3 gas halts there with `INSUFFICIENT_GAS`, even before an opcode it could pay for (`STOP`
costs 0).  Without it the loop is `executeMessageWithoutFloor`; the two agree on every run that
never dispatches with less than 3 gas.
-/

namespace NativeEvm

/-- The gas an upcall reports as charged: the `gas_cost` of a post-execution upcall. -/
def TraceEvent.gasCharged : TraceEvent → Int
  | .pre _ => 0
  | .post _ result => result.gasCost

/-- `execute_message` without the `gas_remaining < 3` early exit: only the per-op check raises
`INSUFFICIENT_GAS`. -/
def executeMessageWithoutFloor (dispatch : UInt8 → Frame → OpResult × Frame) (hasTracer : Bool)
    (frame : Frame) : Frame × List TraceEvent :=
  runLoop (dispatchStep dispatch hasTracer) (frame.gasRemaining.toNat + 2) { frame with state := 1 }

/-! ## 1. The tracer does not change the run -/

theorem executeMessage_fst_untraced (dispatch : UInt8 → Frame → OpResult × Frame)
    (hasTracer : Bool) (frame : Frame) :
    (executeMessage dispatch hasTracer frame).1 = (executeMessage dispatch false frame).1 :=
  runLoop_fst_congr (loopBody_untraced dispatch hasTracer) _ _

section Generic

variable {dispatch : UInt8 → Frame → OpResult × Frame} {cause : UInt8 → Frame → Frame → Prop}
  (hd : ∀ opcode f, Effect (cause opcode f) f (dispatch opcode f).1 (dispatch opcode f).2)
  (hasTracer : Bool)

include hd

/-! ## 2. Gas stays nonnegative -/

theorem loopBody_gas_nonneg (f : Frame) (hf : 0 ≤ f.gasRemaining) :
    (loopBody dispatch hasTracer f).Keeps (fun g => 0 ≤ g.gasRemaining)
      (fun e => 0 ≤ e.frame.gasRemaining) := by
  rcases loopBody_spec dispatch hasTracer f with ⟨-, hs⟩ | ⟨-, hs⟩ <;> rw [hs]
  · exact ⟨hf, by simp⟩
  obtain ⟨r, h, he, ⟨-, hs'⟩ | ⟨-, -, hs'⟩ | ⟨-, hle, hs'⟩⟩ :=
    dispatchStep_spec dispatch hasTracer f <;> rw [hs'] <;>
    have hgas := (effect_of_dispatch hd he).gasRemaining
  · refine ⟨?_, forall_mem_traced (by simp [hf])⟩
    dsimp only [Iteration.frame]
    split <;> simp [hgas, hf]
  · exact ⟨by simp [hgas, hf], forall_mem_traced (by simp [hf])⟩
  · exact ⟨by simp; omega, forall_mem_traced (by simp; omega)⟩

/-! ## 3. Gas spent is gas reported -/

/-- With a tracer, a pass lowers `gas_remaining` by the cost its post-execution upcall reports. -/
theorem loopBody_gas_charged (f : Frame) :
    f.gasRemaining - (loopBody dispatch true f).frame.gasRemaining =
      ((loopBody dispatch true f).events.map TraceEvent.gasCharged).sum := by
  rcases loopBody_spec dispatch true f with ⟨-, hs⟩ | ⟨-, hs⟩ <;> rw [hs]
  · simp
  obtain ⟨r, h, he, ⟨-, hs'⟩ | ⟨-, -, hs'⟩ | ⟨-, -, hs'⟩⟩ :=
    dispatchStep_spec dispatch true f <;> rw [hs'] <;>
    have hgas := (effect_of_dispatch hd he).gasRemaining
  · dsimp only [Iteration.frame]
    split <;> simp [hgas, traced, TraceEvent.gasCharged]
  · simp [hgas, traced, TraceEvent.gasCharged]
  · simp [hgas, traced, TraceEvent.gasCharged]

theorem executeMessage_gas (frame : Frame) (hg : 0 ≤ frame.gasRemaining) :
    (∀ e ∈ (executeMessage dispatch true frame).2, 0 ≤ e.frame.gasRemaining) ∧
    0 ≤ (executeMessage dispatch true frame).1.gasRemaining ∧
    frame.gasRemaining - (executeMessage dispatch true frame).1.gasRemaining =
      ((executeMessage dispatch true frame).2.map TraceEvent.gasCharged).sum := by
  obtain ⟨hfinal, hevents⟩ := runLoop_invariant _ _ (fun f hf _ => loopBody_gas_nonneg hd true f hf)
    (fun f hf _ => hf) (frame.gasRemaining.toNat + 2) { frame with state := 1 } hg
  exact ⟨hevents, hfinal, runLoop_conserves (fun f => f.gasRemaining) _
    (fun f _ => loopBody_gas_charged hd f) (fun _ _ => rfl) _ { frame with state := 1 }⟩

end Generic

/-- Gas conservation, for both builds: no handler writes `gas_remaining`; from nonnegative gas,
gas stays nonnegative at every upcall and on return; the gas spent is the sum of the costs the
post-execution upcalls report (so the step the run halts at is not charged); and the tracer does
not change the final frame. -/
theorem executeMessage_gas_conservation (b : Build) (frame : Frame)
    (hg : 0 ≤ frame.gasRemaining) :
    (∀ opcode f, (b.dispatch opcode f).2.gasRemaining = f.gasRemaining) ∧
    (∀ e ∈ (b.executeMessage true frame).2, 0 ≤ e.frame.gasRemaining) ∧
    0 ≤ (b.executeMessage true frame).1.gasRemaining ∧
    frame.gasRemaining - (b.executeMessage true frame).1.gasRemaining =
      ((b.executeMessage true frame).2.map TraceEvent.gasCharged).sum ∧
    (b.executeMessage false frame).1 = (b.executeMessage true frame).1 := by
  rw [b.executeMessage_eq]
  obtain ⟨hevents, hfinal, hsum⟩ := executeMessage_gas b.dispatch_effect frame hg
  exact ⟨fun opcode f => (b.dispatch_effect opcode f).gasRemaining, hevents, hfinal, hsum,
    (executeMessage_fst_untraced b.dispatch true frame).symm⟩

theorem executeMessage_gas_conservation_push0 :
    0 ≤ (Frame.scenario [0x5f, 0x00] 10).gasRemaining ∧
    (Frame.scenario [0x5f, 0x00] 10).gasRemaining -
      (Build.optimized.executeMessage true (Frame.scenario [0x5f, 0x00] 10)).1.gasRemaining =
      ((Build.optimized.executeMessage true (Frame.scenario [0x5f, 0x00] 10)).2.map
        TraceEvent.gasCharged).sum :=
  ⟨by decide, (executeMessage_gas_conservation .optimized _ (by decide)).2.2.2.1⟩

/-! ## 4. The 3-gas floor -/

/-- A run with the floor is the run without it, as long as the latter never dispatches with less
than 3 gas (read off its pre-execution upcalls). -/
theorem runLoop_floor (dispatch : UInt8 → Frame → OpResult × Frame) (hasTracer : Bool) :
    ∀ n f, (∀ g, .pre g ∈ (runLoop (dispatchStep dispatch true) n f).2 → 3 ≤ g.gasRemaining) →
      runLoop (loopBody dispatch hasTracer) n f = runLoop (dispatchStep dispatch hasTracer) n f := by
  intro n
  induction n with
  | zero => intro _ _; rfl
  | succ n ih =>
    intro f hpre
    by_cases hr : f.running
    · have hfloor : 3 ≤ f.gasRemaining := by
        apply hpre
        cases hb : dispatchStep dispatch true f with
        | halt g events =>
          rw [runLoop_succ_halt hr hb]
          simpa [hb] using pre_mem_dispatchStep dispatch f
        | next g events =>
          rw [runLoop_succ_next hr hb]
          exact List.mem_append_left _ (by simpa [hb] using pre_mem_dispatchStep dispatch f)
      have hbody : loopBody dispatch hasTracer f = dispatchStep dispatch hasTracer f := by
        simp [loopBody, not_lt.mpr hfloor]
      have hu := (dispatchStep_untraced dispatch true f).trans
        (dispatchStep_untraced dispatch hasTracer f).symm
      cases hb : dispatchStep dispatch hasTracer f with
      | halt g events => rw [runLoop_succ_halt hr (hbody.trans hb), runLoop_succ_halt hr hb]
      | next g events =>
        rw [runLoop_succ_next hr (hbody.trans hb), runLoop_succ_next hr hb, ih g]
        cases hb' : dispatchStep dispatch true f <;>
          simp only [hb, hb', Iteration.untraced, reduceCtorEq, Iteration.next.injEq, and_true] at hu
        subst hu
        intro g' hg'
        apply hpre
        rw [runLoop_succ_next hr hb']
        exact List.mem_append_right _ hg'
    · rw [runLoop_succ_of_not_running hr, runLoop_succ_of_not_running hr]

/-- For both builds, the floor changes nothing on a run whose floor-free version dispatches
every opcode with at least 3 gas left. -/
theorem executeMessage_eq_without_floor (b : Build) (hasTracer : Bool) (frame : Frame)
    (h3 : ∀ e ∈ (executeMessageWithoutFloor b.dispatch true frame).2,
      e.isPre → 3 ≤ e.frame.gasRemaining) :
    b.executeMessage hasTracer frame = executeMessageWithoutFloor b.dispatch hasTracer frame := by
  rw [b.executeMessage_eq]
  exact runLoop_floor b.dispatch hasTracer _ _ fun g hg => h3 _ hg rfl

theorem executeMessage_eq_without_floor_push0 :
    (∀ e ∈ (executeMessageWithoutFloor Build.optimized.dispatch true
        (Frame.scenario [0x5f, 0x00] 10)).2, e.isPre → 3 ≤ e.frame.gasRemaining) ∧
    Build.optimized.executeMessage false (Frame.scenario [0x5f, 0x00] 10) =
      executeMessageWithoutFloor Build.optimized.dispatch false (Frame.scenario [0x5f, 0x00] 10) :=
  ⟨by decide, executeMessage_eq_without_floor .optimized false _ (by decide)⟩

/-- A `STOP` reached with 2 gas: the floor halts the frame with `INSUFFICIENT_GAS`, although
`STOP` costs nothing and the floor-free loop completes. -/
theorem floor_halts_before_paid_stop :
    (Build.optimized.executeMessage false (Frame.scenario [0x00] 2)).1.state = 4 ∧
    (Build.optimized.executeMessage false (Frame.scenario [0x00] 2)).1.haltReason = 1 ∧
    (executeMessageWithoutFloor Build.optimized.dispatch false
      (Frame.scenario [0x00] 2)).1.state = 7 := by
  decide

end NativeEvm
