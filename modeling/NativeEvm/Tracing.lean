import NativeEvm.Termination

/-!
# Tracing — how the upcalls of a run pair up

A charged step makes two upcalls, `trace_pre_execution` before the dispatch and
`trace_post_execution` after the charge; a step the loop ends in the dispatch, by a handler error
or a failed per-op gas check, makes only the first.  So the upcalls of a run are pairs, possibly
followed by one `pre` alone, and there is one more `pre` than `post` exactly when the run ends
that way.  Each `post` reports the cost and increment the handler returned and `halt_reason` 0,
and sees the gas of its `pre` less that cost; the first `pre` sees the entry frame, each later one
the frame of the `post` before it with `pc` moved, and the upcalls stop only where the run ends.
-/

namespace NativeEvm

/-! ## 1. The shape of a run's upcalls -/

section Upcalls

variable (dispatch : UInt8 → Frame → OpResult × Frame)

/-- A step the loop charged: the handler at `code[pc]` returned `(r, h)` without an error, the
cost was within `h`'s gas, the post-execution upcall saw `g`, `h` after the charge, and got
`result`. -/
def ChargedStep (f g : Frame) (result : OperationResult) : Prop :=
  ∃ r h, dispatch (f.codeAt f.pc) f = (r, h) ∧ 0 ≤ r.pcIncrement ∧ r.gasCost ≤ h.gasRemaining ∧
    g = h.charge r.gasCost ∧ result = ⟨r.gasCost, 0, r.pcIncrement⟩

/-- A step the loop ended in the dispatch: a handler error or a failed per-op gas check. -/
def HaltedStep (f : Frame) : Prop :=
  (dispatch (f.codeAt f.pc) f).1.pcIncrement < 0 ∨
    (dispatch (f.codeAt f.pc) f).2.gasRemaining < (dispatch (f.codeAt f.pc) f).1.gasCost

/-- The upcalls of a run from `f` entered with `halt_reason = reason`: a `pre` of the frame the
step starts from and its `post` for each charged step, the next step starting from the `post`'s
frame with `pc` moved by the reported increment; then at most one `pre` alone, for the step the
run halted at.  The upcalls stop only where the run does: at a frame the loop test rejects or
the 3-gas floor halts, or after that lone `pre`. -/
inductive Upcalls (reason : Nat) : Frame → List TraceEvent → Prop
  | finish {f : Frame} (h : ¬ f.running ∨ f.gasRemaining < 3) : Upcalls reason f []
  | halted {f : Frame} (hr : f.running) (h3 : 3 ≤ f.gasRemaining) (hstep : HaltedStep dispatch f) :
      Upcalls reason f [.pre f]
  | charged {f g : Frame} {result : OperationResult} {rest : List TraceEvent} (hr : f.running)
      (h3 : 3 ≤ f.gasRemaining) (hstep : ChargedStep dispatch f g result)
      (hgas : g.gasRemaining = f.gasRemaining - result.gasCost)
      (hreason : g.haltReason = reason)
      (hrest : Upcalls reason (g.advance result.pcIncrement) rest) :
      Upcalls reason f (.pre f :: .post g result :: rest)

/-- As many `pre` as `post` upcalls, or one more when the last upcall is a `pre` alone. -/
theorem Upcalls.countP_pre {reason : Nat} {f : Frame} {events : List TraceEvent}
    (h : Upcalls dispatch reason f events) :
    events.countP TraceEvent.isPre = events.countP (fun e => !e.isPre) ∨
    (events.countP TraceEvent.isPre = events.countP (fun e => !e.isPre) + 1 ∧
      ∃ f, events.getLast? = some (.pre f) ∧ HaltedStep dispatch f) := by
  induction h with
  | finish _ => exact .inl rfl
  | halted _ _ hstep => exact .inr ⟨rfl, _, rfl, hstep⟩
  | @charged f g result rest _ _ _ _ _ _ ih =>
    rcases ih with ih | ⟨ih, f', hlast, hstep⟩
    · exact .inl (by simp [List.countP_cons, ih])
    · refine .inr ⟨by simp [List.countP_cons, ih], f', ?_, hstep⟩
      cases rest with
      | nil => simp at hlast
      | cons e rest => simpa [List.getLast?_cons_cons] using hlast

end Upcalls

/-! ## 2. Every run has it -/

section Generic

variable {dispatch : UInt8 → Frame → OpResult × Frame} {cause : UInt8 → Frame → Frame → Prop}
  (hd : ∀ opcode f, Effect (cause opcode f) f (dispatch opcode f).1 (dispatch opcode f).2)

include hd

theorem runLoop_upcalls {reason : Nat} :
    ∀ n f, passBound f ≤ n → f.haltReason = reason →
      Upcalls dispatch reason f (runLoop (loopBody dispatch true) n f).2 := by
  intro n
  induction n with
  | zero => intro f hf; have := passBound_pos f; omega
  | succ n ih =>
    intro f hn hf
    by_cases hr : f.running
    · rcases loopBody_spec dispatch true f with ⟨hgas, hs⟩ | ⟨h3, hs⟩
      · rw [runLoop_succ_halt hr hs]; exact .finish (.inr hgas)
      obtain ⟨r, h, he, ⟨hneg, hs'⟩ | ⟨-, hlt, hs'⟩ | ⟨hnn, hle, hs'⟩⟩ :=
        dispatchStep_spec dispatch true f
      · rw [runLoop_succ_halt hr (hs.trans hs')]
        exact .halted hr h3 (.inl (by rw [he]; exact hneg))
      · rw [runLoop_succ_halt hr (hs.trans hs')]
        exact .halted hr h3 (.inr (by rw [he]; exact hlt))
      · rw [runLoop_succ_next hr (hs.trans hs')]
        have he' := effect_of_dispatch hd he
        have hreason : h.haltReason = reason := (he'.of_nonneg hr.2 hnn).1.trans hf
        have hbound := passBound_next (loopBody_progress hd true) hr (hs.trans hs')
        exact .charged hr h3 ⟨r, h, he, hnn, hle, rfl, rfl⟩ (by simp [he'.gasRemaining]) hreason
          (ih ((h.charge r.gasCost).advance r.pcIncrement) (by omega) hreason)
    · rw [runLoop_succ_of_not_running hr]
      exact .finish (.inl hr)

end Generic

/-- Upcalls pair up, for both builds, one pair per charged step from the entry frame on, except
for one `pre` alone at a run's end by a handler error or a failed per-op gas check. -/
theorem executeMessage_upcalls (b : Build) (frame : Frame) :
    Upcalls b.dispatch frame.haltReason { frame with state := 1 } (b.executeMessage true frame).2 ∧
    ((b.executeMessage true frame).2.countP TraceEvent.isPre =
        (b.executeMessage true frame).2.countP (fun e => !e.isPre) ∨
      ((b.executeMessage true frame).2.countP TraceEvent.isPre =
          (b.executeMessage true frame).2.countP (fun e => !e.isPre) + 1 ∧
        ∃ f, (b.executeMessage true frame).2.getLast? = some (.pre f) ∧
          HaltedStep b.dispatch f)) := by
  have h : Upcalls b.dispatch frame.haltReason { frame with state := 1 }
      (b.executeMessage true frame).2 := by
    rw [b.executeMessage_eq]
    exact runLoop_upcalls b.dispatch_effect _ _ (passBound_start frame) rfl
  exact ⟨h, h.countP_pre⟩

/-- `INVALID` as the first opcode: one `pre`, no `post`. -/
theorem invalid_opcode_unpaired_pre :
    (Build.optimized.executeMessage true (Frame.scenario [0xfe] 100)).2.countP
      TraceEvent.isPre = 1 ∧
    (Build.optimized.executeMessage true (Frame.scenario [0xfe] 100)).2.countP
      (fun e => !e.isPre) = 0 := by
  decide

end NativeEvm
