import NativeEvm.Switch.Run
import NativeEvm.Gas

/-!
# Gas and upcalls in the `switch` interpreter

The `switch` charges a step after its case has run and then checks `gas_remaining < 0`.  That
check never fires: the floor check leaves at least 3 gas, no case writes `gas_remaining`, and a
step costs 3, or 0 for `STOP`.  So gas stays nonnegative, and the gas a run spends is the sum of
the costs its post-execution upcalls report, the steps a case halts in included.  For the same
reason the upcalls of a run pair up except for one `pre` alone, left by a case that failed.
-/

namespace NativeEvm.Switch

/-! ## 1. One pass -/

theorem gasCost_cases (opcode : UInt8) : gasCost opcode = 0 ∨ gasCost opcode = 3 := by
  unfold gasCost
  split <;> simp

/-- The check after the charge never fires. -/
theorem charge_nonneg {f g : Frame} {pcIncrement : Int} (h3 : 3 ≤ f.gasRemaining)
    (he : (handlerOf (f.codeAt f.pc).toNat).exec f = (pcIncrement, g)) :
    gasCost (f.codeAt f.pc) ≤ g.gasRemaining := by
  have hgas := (Handler.effect_of_exec he).gasRemaining
  rcases gasCost_cases (f.codeAt f.pc) with h | h <;> omega

section Pass

variable (hasTracer : Bool) (f : Frame)

/-- From nonnegative gas a pass keeps gas nonnegative, and each upcall is charged 0 or 3. -/
theorem loopBody_gas_keeps (hf : 0 ≤ f.gasRemaining) :
    (loopBody hasTracer f).Keeps (fun g => 0 ≤ g.gasRemaining)
      (fun e => 0 ≤ e.frame.gasRemaining ∧ (e.gasCharged = 0 ∨ e.gasCharged = 3)) := by
  rcases loopBody_spec hasTracer f with ⟨-, hs⟩ | ⟨h3, i, g, he, ⟨-, hs⟩ | ⟨-, hlt, -⟩ | ⟨-, hle, hs⟩⟩
  · rw [hs]
    exact ⟨hf, by simp⟩
  · have hgas := (Handler.effect_of_exec he).gasRemaining
    rw [hs]
    exact ⟨by simp [hgas, hf], forall_mem_traced (by simp [hf, TraceEvent.gasCharged])⟩
  · exact absurd hlt (not_lt.mpr (charge_nonneg h3 he))
  · rw [hs]
    refine ⟨by simp; omega, forall_mem_traced fun e he => ?_⟩
    simp only [List.mem_cons, List.mem_singleton, List.not_mem_nil, or_false] at he
    rcases he with rfl | rfl
    · exact ⟨hf, .inl rfl⟩
    · exact ⟨by simp; omega, gasCost_cases _⟩

/-- With a tracer, a pass lowers `gas_remaining` by the cost its post-execution upcall reports. -/
theorem loopBody_gas_charged :
    f.gasRemaining - (loopBody true f).frame.gasRemaining =
      ((loopBody true f).events.map TraceEvent.gasCharged).sum := by
  rcases loopBody_spec true f with ⟨-, hs⟩ | ⟨h3, i, g, he, ⟨-, hs⟩ | ⟨-, hlt, -⟩ | ⟨-, -, hs⟩⟩
  · simp [hs]
  all_goals have hgas := (Handler.effect_of_exec he).gasRemaining
  · simp [hs, hgas, traced, TraceEvent.gasCharged]
  · exact absurd hlt (not_lt.mpr (charge_nonneg h3 he))
  · simp [hs, hgas, traced, TraceEvent.gasCharged]

/-- The tracer only observes. -/
theorem loopBody_untraced :
    (loopBody hasTracer f).untraced = (loopBody false f).untraced := by
  unfold loopBody
  split_ifs
  · rfl
  · generalize (handlerOf (f.codeAt f.pc).toNat).exec f = p
    obtain ⟨i, g⟩ := p
    dsimp only
    split_ifs <;> rfl

end Pass

/-! ## 2. Whole runs -/

/-- Gas accounting of the `switch`: from nonnegative gas, gas stays nonnegative at every upcall
and on return, every upcall is charged 0 or 3, the gas spent is the sum of the costs the
post-execution upcalls report, and the tracer does not change the final frame. -/
theorem executeMessage_gas_accounting (frame : Frame) (hg : 0 ≤ frame.gasRemaining) :
    (∀ e ∈ (executeMessage true frame).2,
      0 ≤ e.frame.gasRemaining ∧ (e.gasCharged = 0 ∨ e.gasCharged = 3)) ∧
    0 ≤ (executeMessage true frame).1.gasRemaining ∧
    frame.gasRemaining - (executeMessage true frame).1.gasRemaining =
      ((executeMessage true frame).2.map TraceEvent.gasCharged).sum ∧
    (executeMessage false frame).1 = (executeMessage true frame).1 := by
  obtain ⟨hfinal, hevents⟩ := runLoop_invariant _ _ (fun f hf _ => loopBody_gas_keeps true f hf)
    (fun f hf _ => hf) (frame.gasRemaining.toNat + 2) { frame with state := 1 } hg
  exact ⟨hevents, hfinal,
    runLoop_conserves (fun f => f.gasRemaining) _ (fun f _ => loopBody_gas_charged f)
      (fun _ _ => rfl) _ { frame with state := 1 },
    runLoop_fst_congr (fun f => (loopBody_untraced true f).symm) _ _⟩

theorem executeMessage_gas_accounting_push0 :
    0 ≤ (Frame.scenario [0x5f, 0x00] 10).gasRemaining ∧
    (Frame.scenario [0x5f, 0x00] 10).gasRemaining -
        (executeMessage true (Frame.scenario [0x5f, 0x00] 10)).1.gasRemaining =
      ((executeMessage true (Frame.scenario [0x5f, 0x00] 10)).2.map TraceEvent.gasCharged).sum :=
  ⟨by decide, (executeMessage_gas_accounting _ (by decide)).2.2.1⟩

/-! ## 3. Upcalls -/

/-- The upcalls of a `switch` run from `f`: a `pre` of the frame the step starts from and its
`post` for each charged step, the next step starting from the `post`'s frame with `pc` moved by
the case's increment; then at most one `pre` alone, for a step whose case failed.  The upcalls
stop only where the run does. -/
inductive Upcalls : Frame → List TraceEvent → Prop
  | finish {f : Frame} (h : ¬ f.running ∨ f.gasRemaining < 3) : Upcalls f []
  | failed {f : Frame} (hr : f.running) (h3 : 3 ≤ f.gasRemaining)
      (hneg : ((handlerOf (f.codeAt f.pc).toNat).exec f).1 < 0) : Upcalls f [.pre f]
  | charged {f : Frame} {rest : List TraceEvent} (hr : f.running) (h3 : 3 ≤ f.gasRemaining)
      (hnn : 0 ≤ ((handlerOf (f.codeAt f.pc).toNat).exec f).1)
      (hrest : Upcalls ((((handlerOf (f.codeAt f.pc).toNat).exec f).2.charge
        (gasCost (f.codeAt f.pc))).advance ((handlerOf (f.codeAt f.pc).toNat).exec f).1) rest) :
      Upcalls f (.pre f ::
        .post (((handlerOf (f.codeAt f.pc).toNat).exec f).2.charge (gasCost (f.codeAt f.pc)))
          ⟨gasCost (f.codeAt f.pc), 0, ((handlerOf (f.codeAt f.pc).toNat).exec f).1⟩ :: rest)

theorem runLoop_upcalls : ∀ n f, passBound f ≤ n → Upcalls f (runLoop (loopBody true) n f).2 := by
  intro n
  induction n with
  | zero => intro f hf; have := passBound_pos f; omega
  | succ n ih =>
    intro f hn
    by_cases hr : f.running
    · rcases loopBody_spec true f with ⟨hgas, hs⟩ |
        ⟨h3, i, g, he, ⟨hneg, hs⟩ | ⟨-, hlt, -⟩ | ⟨hnn, -, hs⟩⟩
      · rw [runLoop_succ_halt hr hs]
        exact .finish (.inr hgas)
      · rw [runLoop_succ_halt hr hs]
        exact .failed hr h3 (by rw [he]; exact hneg)
      · exact absurd hlt (not_lt.mpr (charge_nonneg h3 he))
      · rw [runLoop_succ_next hr hs]
        have hbound := passBound_next (loopBody_progress true) hr hs
        have h := Upcalls.charged hr h3 (by rw [he]; exact hnn)
          (by rw [he]; exact ih ((g.charge (gasCost (f.codeAt f.pc))).advance i) (by omega))
        rw [he] at h
        exact h
    · rw [runLoop_succ_of_not_running hr]
      exact .finish (.inl hr)

/-- As many `pre` as `post` upcalls, or one more when the last upcall is a `pre` alone. -/
theorem Upcalls.countP_pre {f : Frame} {events : List TraceEvent} (h : Upcalls f events) :
    events.countP TraceEvent.isPre = events.countP (fun e => !e.isPre) ∨
    (events.countP TraceEvent.isPre = events.countP (fun e => !e.isPre) + 1 ∧
      ∃ f, events.getLast? = some (.pre f) ∧ ((handlerOf (f.codeAt f.pc).toNat).exec f).1 < 0) := by
  induction h with
  | finish _ => exact .inl rfl
  | failed _ _ hneg => exact .inr ⟨rfl, _, rfl, hneg⟩
  | @charged f rest _ _ _ _ ih =>
    rcases ih with ih | ⟨ih, f', hlast, hneg⟩
    · exact .inl (by simp [List.countP_cons, ih])
    · refine .inr ⟨by simp [List.countP_cons, ih], f', ?_, hneg⟩
      cases rest with
      | nil => simp at hlast
      | cons e rest => simpa [List.getLast?_cons_cons] using hlast

/-- Upcalls of the `switch` pair up, one pair per charged step from the entry frame on, the steps
a case halts in included, except for one `pre` alone at a run's end, left by a case that failed;
never by the gas check after the charge. -/
theorem executeMessage_upcalls_paired (frame : Frame) :
    Upcalls { frame with state := 1 } (executeMessage true frame).2 ∧
    ((executeMessage true frame).2.countP TraceEvent.isPre =
        (executeMessage true frame).2.countP (fun e => !e.isPre) ∨
      ((executeMessage true frame).2.countP TraceEvent.isPre =
          (executeMessage true frame).2.countP (fun e => !e.isPre) + 1 ∧
        ∃ f, (executeMessage true frame).2.getLast? = some (.pre f) ∧
          ((handlerOf (f.codeAt f.pc).toNat).exec f).1 < 0)) :=
  have h := runLoop_upcalls _ { frame with state := 1 } (passBound_start frame)
  ⟨h, h.countP_pre⟩

/-- `INVALID` as the first opcode: the `switch` charges and traces the step it halts in. -/
example :
    (executeMessage true (Frame.scenario [0xfe] 100)).2.countP TraceEvent.isPre = 1 ∧
    (executeMessage true (Frame.scenario [0xfe] 100)).2.countP (fun e => !e.isPre) = 1 := by
  decide

end NativeEvm.Switch
