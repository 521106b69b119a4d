import NativeEvm.Loop
import Mathlib.Data.List.Sort
import Mathlib.Data.List.Forall2
import Mathlib.Algebra.BigOperators.Group.List
import Mathlib.Algebra.Ring.Int.Defs

/-!
# Run — from one pass of the loop body to a whole run

`dispatchStep_spec` and `loopBody_spec` say once how a pass can end.  Over them:
`runLoop_invariant` lifts a property every pass keeps to every frame a run observes,
`runLoop_conserves` adds up a quantity over a run, `runLoop_pairwise` and `runLoop_sorted` order
the frames a run shows, `runLoop_stepsRelate` relates each step's frames, `runLoop_rel` relates
two runs from related frames, and `runLoop_fuel_stable` shows that `executeMessage`'s
`gas_remaining + 2` passes are as good as unbounded ones, so the model is the C loop and not a
truncation of it.
-/

namespace NativeEvm

/-! ## 1. One pass -/

/-- The frame a pass leaves. -/
@[simp] def Iteration.frame : Iteration → Frame
  | .halt g _ | .next g _ => g

/-- The upcalls a pass makes. -/
@[simp] def Iteration.events : Iteration → List TraceEvent
  | .halt _ events | .next _ events => events

theorem mem_traced {hasTracer : Bool} {e : TraceEvent} {events : List TraceEvent}
    (h : e ∈ traced hasTracer events) : e ∈ events := by
  unfold traced at h
  split at h
  · exact h
  · simp at h

theorem forall_mem_traced {hasTracer : Bool} {Q : TraceEvent → Prop} {events : List TraceEvent}
    (h : ∀ e ∈ events, Q e) : ∀ e ∈ traced hasTracer events, Q e :=
  fun e he => h e (mem_traced he)

section Body

variable (dispatch : UInt8 → Frame → OpResult × Frame) (hasTracer : Bool)

/-- The three ways `dispatchStep` can end: a handler error, a failed per-op gas check, or a
charged step back to the loop test. -/
theorem dispatchStep_spec (f : Frame) : ∃ r g, dispatch (f.codeAt f.pc) f = (r, g) ∧
    ((r.pcIncrement < 0 ∧ dispatchStep dispatch hasTracer f =
        .halt (if g.state = 1 then g.halt 4 else g) (traced hasTracer [.pre f])) ∨
     (0 ≤ r.pcIncrement ∧ g.gasRemaining < r.gasCost ∧
        dispatchStep dispatch hasTracer f = .halt (g.halt 1) (traced hasTracer [.pre f])) ∨
     (0 ≤ r.pcIncrement ∧ r.gasCost ≤ g.gasRemaining ∧
        dispatchStep dispatch hasTracer f = .next ((g.charge r.gasCost).advance r.pcIncrement)
          (traced hasTracer [.pre f, .post (g.charge r.gasCost) ⟨r.gasCost, 0, r.pcIncrement⟩]))) := by
  rcases hd : dispatch (f.codeAt f.pc) f with ⟨r, g⟩
  refine ⟨r, g, rfl, ?_⟩
  simp only [dispatchStep, hd]
  by_cases h1 : r.pcIncrement < 0
  · exact .inl ⟨h1, if_pos h1⟩
  by_cases h2 : g.gasRemaining < r.gasCost
  · exact .inr (.inl ⟨by omega, h2, by rw [if_neg h1, if_pos h2]⟩)
  · exact .inr (.inr ⟨by omega, by omega, by rw [if_neg h1, if_neg h2]⟩)

/-- A traced pass starts with the pre-execution upcall. -/
theorem pre_mem_dispatchStep (f : Frame) : .pre f ∈ (dispatchStep dispatch true f).events := by
  obtain ⟨r, h, -, ⟨-, hs⟩ | ⟨-, -, hs⟩ | ⟨-, -, hs⟩⟩ := dispatchStep_spec dispatch true f <;>
    simp [hs, traced]

/-- `loopBody` is the 3-gas floor in front of `dispatchStep`. -/
theorem loopBody_spec (f : Frame) :
    (f.gasRemaining < 3 ∧ loopBody dispatch hasTracer f = .halt (f.halt 1) []) ∨
    (3 ≤ f.gasRemaining ∧ loopBody dispatch hasTracer f = dispatchStep dispatch hasTracer f) := by
  unfold loopBody
  split_ifs with h
  · exact .inl ⟨h, rfl⟩
  · exact .inr ⟨by omega, rfl⟩

/-- Every `return` out of the loop body leaves the frame out of `EXECUTING`. -/
theorem dispatchStep_halt_state {f g : Frame} {events : List TraceEvent}
    (hb : dispatchStep dispatch hasTracer f = .halt g events) : g.state ≠ 1 := by
  obtain ⟨r, h, -, ⟨-, hs⟩ | ⟨-, -, hs⟩ | ⟨-, -, hs⟩⟩ := dispatchStep_spec dispatch hasTracer f <;>
    rw [hs] at hb <;> cases hb
  · split <;> simp_all
  · simp

theorem loopBody_halt_state {f g : Frame} {events : List TraceEvent}
    (hb : loopBody dispatch hasTracer f = .halt g events) : g.state ≠ 1 := by
  rcases loopBody_spec dispatch hasTracer f with ⟨-, hs⟩ | ⟨-, hs⟩ <;> rw [hs] at hb
  · cases hb; simp
  · exact dispatchStep_halt_state dispatch hasTracer hb

/-- Without a tracer a pass makes no upcalls. -/
theorem dispatchStep_events_untraced (f : Frame) :
    (dispatchStep dispatch false f).events = [] := by
  obtain ⟨r, h, -, ⟨-, hs⟩ | ⟨-, -, hs⟩ | ⟨-, -, hs⟩⟩ := dispatchStep_spec dispatch false f <;>
    simp [hs, traced]

/-- The tracer only observes: a pass ends the same way, with the same frame, with or without. -/
theorem dispatchStep_untraced (f : Frame) :
    (dispatchStep dispatch hasTracer f).untraced = (dispatchStep dispatch false f).untraced := by
  simp only [dispatchStep]
  split_ifs <;> rfl

theorem loopBody_untraced (f : Frame) :
    (loopBody dispatch hasTracer f).untraced = (loopBody dispatch false f).untraced := by
  unfold loopBody
  split_ifs
  · rfl
  · exact dispatchStep_untraced dispatch hasTracer f

end Body

/-! ## 2. Unfolding `runLoop` -/

section Unfold

variable {body : Frame → Iteration} {fuel : Nat} {f g : Frame} {events : List TraceEvent}

theorem runLoop_succ_of_not_running (h : ¬ f.running) :
    runLoop body (fuel + 1) f = (f.finish, []) := by
  simp [runLoop, h]

theorem runLoop_succ_halt (h : f.running) (hb : body f = .halt g events) :
    runLoop body (fuel + 1) f = (g, events) := by
  simp [runLoop, h, hb]

theorem runLoop_succ_next (h : f.running) (hb : body f = .next g events) :
    runLoop body (fuel + 1) f = ((runLoop body fuel g).1, events ++ (runLoop body fuel g).2) := by
  simp [runLoop, h, hb]

theorem runLoop_of_state_ne_one (body : Frame → Iteration) {g : Frame} (h : g.state ≠ 1) :
    ∀ n, runLoop body n g = (g, [])
  | 0 => rfl
  | n + 1 => by rw [runLoop_succ_of_not_running (fun hr => h hr.2), Frame.finish_of_ne h]

/-- A pass whose handler neither fails nor runs out of gas. -/
theorem loopBody_of_dispatch {dispatch : UInt8 → Frame → OpResult × Frame} {hasTracer : Bool}
    {result : OpResult} (hgas : 3 ≤ f.gasRemaining)
    (hd : dispatch (f.codeAt f.pc) f = (result, g)) (hpc : 0 ≤ result.pcIncrement)
    (hcost : result.gasCost ≤ g.gasRemaining) :
    loopBody dispatch hasTracer f =
      .next ((g.charge result.gasCost).advance result.pcIncrement)
        (traced hasTracer [.pre f, .post (g.charge result.gasCost) ⟨result.gasCost, 0, result.pcIncrement⟩]) := by
  rw [loopBody, if_neg (by omega), dispatchStep, hd]
  simp only [if_neg (not_lt.mpr hpc), if_neg (not_lt.mpr hcost)]

end Unfold

/-! ## 3. Properties of a whole run -/

/-- A pass keeps `P` and `Q`: the frame it leaves satisfies `P`, each upcall it makes `Q`. -/
def Iteration.Keeps (P : Frame → Prop) (Q : TraceEvent → Prop) (it : Iteration) : Prop :=
  P it.frame ∧ ∀ e ∈ it.events, Q e

/-- A frame property kept by every pass and by the exit, with an upcall property every pass
keeps, holds of the final frame and of every upcall of the run. -/
theorem runLoop_invariant {body : Frame → Iteration} (P : Frame → Prop) (Q : TraceEvent → Prop)
    (hbody : ∀ f, P f → f.running → (body f).Keeps P Q)
    (hfinish : ∀ f, P f → ¬ f.running → P f.finish) :
    ∀ fuel f, P f → P (runLoop body fuel f).1 ∧ ∀ e ∈ (runLoop body fuel f).2, Q e := by
  intro fuel
  induction fuel with
  | zero => intro f hf; exact ⟨hf, fun e he => by simp [runLoop] at he⟩
  | succ n ih =>
    intro f hf
    by_cases hr : f.running
    · have hk := hbody f hf hr
      cases hb : body f with
      | halt g events =>
        rw [hb] at hk
        rwa [runLoop_succ_halt hr hb]
      | next g events =>
        rw [hb] at hk
        obtain ⟨hP, hQ⟩ := ih g hk.1
        rw [runLoop_succ_next hr hb]
        refine ⟨hP, fun e he => ?_⟩
        rcases List.mem_append.mp he with he | he
        exacts [hk.2 e he, hQ e he]
    · rw [runLoop_succ_of_not_running hr]
      exact ⟨hfinish f hf hr, by simp⟩

/-- A quantity `φ` of the frame that each pass lowers by the sum of `c` over its upcalls is
lowered by a whole run by the sum of `c` over all its upcalls. -/
theorem runLoop_conserves {body : Frame → Iteration} (φ : Frame → Int) (c : TraceEvent → Int)
    (hbody : ∀ f, f.running → φ f - φ (body f).frame = ((body f).events.map c).sum)
    (hfinish : ∀ f, ¬ f.running → φ f.finish = φ f) :
    ∀ fuel f, φ f - φ (runLoop body fuel f).1 = ((runLoop body fuel f).2.map c).sum := by
  intro fuel
  induction fuel with
  | zero => intro f; simp [runLoop]
  | succ n ih =>
    intro f
    by_cases hr : f.running
    · have hk := hbody f hr
      cases hb : body f with
      | halt g events =>
        rw [hb] at hk
        rw [runLoop_succ_halt hr hb]
        exact hk
      | next g events =>
        rw [hb] at hk
        have := ih g
        rw [runLoop_succ_next hr hb, List.map_append, List.sum_append]
        simp only [Iteration.frame, Iteration.events] at hk ⊢
        omega
    · rw [runLoop_succ_of_not_running hr, hfinish f hr]
      simp

/-- Joining two chains of a transitive `R` that meet at `b`. -/
theorem pairwise_bridge {α : Type} {R : α → α → Prop} (htrans : ∀ a b c, R a b → R b c → R a c)
    {l₁ l₂ : List α} {b : α} (h₁ : (l₁ ++ [b]).Pairwise R) (h₂ : (b :: l₂).Pairwise R) :
    (l₁ ++ l₂).Pairwise R := by
  simp only [List.pairwise_append, List.pairwise_cons, List.mem_singleton] at *
  exact ⟨h₁.1, h₂.2, fun x hx y hy => htrans x b y (h₁.2.2 x hx b rfl) (h₂.1 y hy)⟩

/-- A reflexive, transitive relation that every pass gives between the frames it shows in order
(the frame it starts from, those its upcalls see, the one it leaves), and the exit too, holds
between any two frames a run shows, in order. -/
theorem runLoop_pairwise {body : Frame → Iteration} (R : Frame → Frame → Prop)
    (hrefl : ∀ f, R f f) (htrans : ∀ a b c, R a b → R b c → R a c)
    (hbody : ∀ f, f.running →
      (f :: (body f).events.map TraceEvent.frame ++ [(body f).frame]).Pairwise R)
    (hfinish : ∀ f, ¬ f.running → R f f.finish) :
    ∀ fuel f, (f :: (runLoop body fuel f).2.map TraceEvent.frame ++
      [(runLoop body fuel f).1]).Pairwise R := by
  intro fuel
  induction fuel with
  | zero => intro f; simp [runLoop, hrefl]
  | succ n ih =>
    intro f
    by_cases hr : f.running
    · have hk := hbody f hr
      cases hb : body f with
      | halt g events =>
        rw [hb] at hk
        rwa [runLoop_succ_halt hr hb]
      | next g events =>
        rw [hb] at hk
        rw [runLoop_succ_next hr hb, List.map_append]
        simpa only [List.cons_append, List.append_assoc] using pairwise_bridge htrans hk (ih g)
    · rw [runLoop_succ_of_not_running hr]
      simpa using hfinish f hr

/-- A measure `μ` that never goes down within a pass never goes down over a run: listed at the
start, at each upcall and at the end, it is sorted. -/
theorem runLoop_sorted {body : Frame → Iteration} (μ : Frame → Nat)
    (hbody : ∀ f, f.running →
      (μ f :: (body f).events.map (μ ∘ TraceEvent.frame) ++ [μ (body f).frame]).Sorted (· ≤ ·))
    (hfinish : ∀ f, μ f.finish = μ f) :
    ∀ fuel f, (μ f :: (runLoop body fuel f).2.map (μ ∘ TraceEvent.frame) ++
      [μ (runLoop body fuel f).1]).Sorted (· ≤ ·) := by
  have hmap : ∀ f (events : List TraceEvent) g, μ f :: events.map (μ ∘ TraceEvent.frame) ++ [μ g] =
      (f :: events.map TraceEvent.frame ++ [g]).map μ := by simp
  intro fuel f
  rw [hmap, List.Sorted, List.pairwise_map]
  refine runLoop_pairwise (fun a b => μ a ≤ μ b) (fun _ => le_rfl) (fun _ _ _ => le_trans)
    (fun f hr => ?_)
    (fun f _ => (hfinish f).ge) fuel f
  rw [← List.pairwise_map, ← hmap]
  exact hbody f hr

/-- Two loop bodies that end each pass the same way, with the same frame, run to the same final
frame. -/
theorem runLoop_fst_congr {body₁ body₂ : Frame → Iteration}
    (h : ∀ f, (body₁ f).untraced = (body₂ f).untraced) :
    ∀ fuel f, (runLoop body₁ fuel f).1 = (runLoop body₂ fuel f).1 := by
  intro fuel
  induction fuel with
  | zero => intro f; rfl
  | succ n ih =>
    intro f
    by_cases hr : f.running
    · have hf := h f
      cases hb₁ : body₁ f <;> cases hb₂ : body₂ f <;>
        simp only [hb₁, hb₂, Iteration.untraced, Iteration.halt.injEq, Iteration.next.injEq,
          reduceCtorEq, and_true] at hf
      · rw [runLoop_succ_halt hr hb₁, runLoop_succ_halt hr hb₂, hf]
      · rw [runLoop_succ_next hr hb₁, runLoop_succ_next hr hb₂, hf, ih]
    · rw [runLoop_succ_of_not_running hr, runLoop_succ_of_not_running hr]

/-- Two upcalls of the same kind, and the same result, whose frames are related by `R`. -/
inductive TraceEvent.Rel (R : Frame → Frame → Prop) : TraceEvent → TraceEvent → Prop
  | pre {f f' : Frame} (h : R f f') : TraceEvent.Rel R (.pre f) (.pre f')
  | post {f f' : Frame} {result : OperationResult} (h : R f f') :
      TraceEvent.Rel R (.post f result) (.post f' result)

/-- Two passes that end the same way, with frames related by `R` and upcalls related one by
one. -/
def Iteration.Rel (R : Frame → Frame → Prop) : Iteration → Iteration → Prop
  | .halt g events, .halt g' events' => R g g' ∧ List.Forall₂ (TraceEvent.Rel R) events events'
  | .next g events, .next g' events' => R g g' ∧ List.Forall₂ (TraceEvent.Rel R) events events'
  | _, _ => False

/-- Two runs of one loop body from frames related by `R`, when `R` fixes the loop test and every
pass from related frames makes related passes: the runs make related upcalls, one by one, and
return related frames. -/
theorem runLoop_rel {body : Frame → Iteration} (R : Frame → Frame → Prop)
    (hrunning : ∀ f f', R f f' → (f'.running ↔ f.running))
    (hbody : ∀ f f', R f f' → f.running → (body f).Rel R (body f'))
    (hfinish : ∀ f f', R f f' → R f.finish f'.finish) :
    ∀ fuel f f', R f f' → List.Forall₂ (TraceEvent.Rel R) (runLoop body fuel f).2
      (runLoop body fuel f').2 ∧ R (runLoop body fuel f).1 (runLoop body fuel f').1 := by
  intro fuel
  induction fuel with
  | zero => intro f f' h; exact ⟨.nil, h⟩
  | succ n ih =>
    intro f f' h
    by_cases hr : f.running
    · have hr' := (hrunning f f' h).mpr hr
      have hk := hbody f f' h hr
      cases hb : body f <;> cases hb' : body f' <;> rw [hb, hb'] at hk <;>
        simp only [Iteration.Rel] at hk
      · rw [runLoop_succ_halt hr hb, runLoop_succ_halt hr' hb']
        exact ⟨hk.2, hk.1⟩
      · rw [runLoop_succ_next hr hb, runLoop_succ_next hr' hb']
        obtain ⟨hevents, hfinal⟩ := ih _ _ hk.1
        exact ⟨List.rel_append hk.2 hevents, hfinal⟩
    · have hr' : ¬ f'.running := fun h' => hr ((hrunning f f' h).mp h')
      rw [runLoop_succ_of_not_running hr, runLoop_succ_of_not_running hr']
      exact ⟨.nil, hfinish f f' h⟩

/-- The upcalls of a traced run read as steps: each `pre f` is followed by the `post` of the frame
`g` its step left, with `R f g`, or is the last upcall, of a step that left `final`. -/
inductive StepsRelate (R : Frame → Frame → Prop) (final : Frame) : List TraceEvent → Prop
  | nil : StepsRelate R final []
  | halted {f : Frame} (h : R f final) : StepsRelate R final [.pre f]
  | step {f g : Frame} {result : OperationResult} {rest : List TraceEvent} (h : R f g)
      (hrest : StepsRelate R final rest) : StepsRelate R final (.pre f :: .post g result :: rest)

/-- A relation between the frame a step starts from and each frame it can leave, after its handler
`(r, g)`: halted by an error, by the per-op gas check, or charged. -/
theorem runLoop_stepsRelate (dispatch : UInt8 → Frame → OpResult × Frame) (hasTracer : Bool)
    (R : Frame → Frame → Prop)
    (hR : ∀ f r g, f.running → dispatch (f.codeAt f.pc) f = (r, g) →
      (r.pcIncrement < 0 → R f (if g.state = 1 then g.halt 4 else g)) ∧
      (0 ≤ r.pcIncrement → R f (g.halt 1) ∧ R f (g.charge r.gasCost))) :
    ∀ n f, StepsRelate R (runLoop (loopBody dispatch hasTracer) n f).1
      (runLoop (loopBody dispatch hasTracer) n f).2 := by
  intro n
  induction n with
  | zero => intro _; exact .nil
  | succ n ih =>
    intro f
    by_cases hr : f.running
    · rcases loopBody_spec dispatch hasTracer f with ⟨-, hs⟩ | ⟨-, hs⟩
      · rw [runLoop_succ_halt hr hs]
        exact .nil
      obtain ⟨r, g, he, ⟨hneg, hs'⟩ | ⟨hnn, -, hs'⟩ | ⟨hnn, -, hs'⟩⟩ :=
        dispatchStep_spec dispatch hasTracer f
      · rw [runLoop_succ_halt hr (hs.trans hs')]
        cases hasTracer
        exacts [.nil, .halted ((hR f r g hr he).1 hneg)]
      · rw [runLoop_succ_halt hr (hs.trans hs')]
        cases hasTracer
        exacts [.nil, .halted ((hR f r g hr he).2 hnn).1]
      · rw [runLoop_succ_next hr (hs.trans hs')]
        cases hasTracer
        exacts [ih _, .step ((hR f r g hr he).2 hnn).2 (ih _)]
    · rw [runLoop_succ_of_not_running hr]
      exact .nil

/-! ## 4. Enough fuel -/

/-- The passes a run from `f` still needs: one per unit of gas it can spend, one for a `STOP`
that spends none, one for the failing loop test. -/
def passBound (f : Frame) : Nat := if f.state = 1 then f.gasRemaining.toNat + 2 else 1

/-- Every pass back to the loop test either leaves a frame that is no longer executing or spends
gas. -/
def Progress (body : Frame → Iteration) : Prop :=
  ∀ f g events, f.running → body f = .next g events →
    g.state = 1 → g.gasRemaining.toNat < f.gasRemaining.toNat

/-- How a pass from `f`, priced `cost`, may go back to the loop test: leaving the frame out of
`EXECUTING` (`STOP`, or a halt its handler made), or after spending `cost ≥ 1` with the gas left
still nonnegative.  A pass that `return`s ends the run. -/
def Iteration.Decreases (f : Frame) (cost : Int) : Iteration → Prop
  | .halt _ _ => True
  | .next g _ => g.state ≠ 1 ∨ (1 ≤ cost ∧ g.gasRemaining = f.gasRemaining - cost ∧ 0 ≤ g.gasRemaining)

/-- A loop body whose every pass decreases gas makes progress. -/
theorem progress_of_decreases {body : Frame → Iteration} (cost : Frame → Int)
    (h : ∀ f, f.running → (body f).Decreases f (cost f)) : Progress body := by
  intro f g events hr hb hs
  have hd := h f hr
  rw [hb] at hd
  rcases hd with h1 | ⟨hc, hg, hnn⟩
  · exact absurd hs h1
  · omega

theorem passBound_pos (f : Frame) : 1 ≤ passBound f := by
  unfold passBound; split <;> omega

/-- A pass back to the loop test uses up one of the passes the bound allows. -/
theorem passBound_next {body : Frame → Iteration} (hp : Progress body) {f g : Frame}
    {events : List TraceEvent} (hr : f.running) (hb : body f = .next g events) :
    passBound g + 1 ≤ passBound f := by
  have hs : f.state = 1 := hr.2
  unfold passBound
  rw [if_pos hs]
  split
  · have := hp f g events hr hb ‹_›; omega
  · omega

/-- With `passBound` passes the run is over: more fuel changes nothing. -/
theorem runLoop_fuel_stable {body : Frame → Iteration} (hp : Progress body) :
    ∀ n f, passBound f ≤ n → ∀ k, runLoop body (n + k) f = runLoop body n f := by
  intro n
  induction n with
  | zero => intro f hf; have := passBound_pos f; omega
  | succ n ih =>
    intro f hf k
    rw [show n + 1 + k = (n + k) + 1 by omega]
    by_cases hr : f.running
    · cases hb : body f with
      | halt g events => rw [runLoop_succ_halt hr hb, runLoop_succ_halt hr hb]
      | next g events =>
        have hg : passBound g ≤ n := by have := passBound_next hp hr hb; omega
        rw [runLoop_succ_next hr hb, runLoop_succ_next hr hb, ih g hg k]
    · rw [runLoop_succ_of_not_running hr, runLoop_succ_of_not_running hr]

/-- With `passBound` passes the run ends out of `EXECUTING`, provided every `return` out of the
body does. -/
theorem runLoop_state_ne_one {body : Frame → Iteration} (hp : Progress body)
    (hhalt : ∀ f g events, f.running → body f = .halt g events → g.state ≠ 1) :
    ∀ n f, passBound f ≤ n → (runLoop body n f).1.state ≠ 1 := by
  intro n
  induction n with
  | zero => intro f hf; have := passBound_pos f; omega
  | succ n ih =>
    intro f hf
    by_cases hr : f.running
    · cases hb : body f with
      | halt g events => rw [runLoop_succ_halt hr hb]; exact hhalt f g events hr hb
      | next g events =>
        have hg : passBound g ≤ n := by have := passBound_next hp hr hb; omega
        rw [runLoop_succ_next hr hb]
        exact ih g hg
    · rw [runLoop_succ_of_not_running hr]
      simp only [Frame.finish]
      split <;> simp_all

end NativeEvm
