import NativeEvm.Tracing
import NativeEvm.Switch.Run

/-!
# Replay — the upcalls of a run retell it

Between `trace_post_execution` for one opcode and `trace_pre_execution` for the next, the loop of
each interpreter only adds the reported `pc_increment` to `pc` (when it is positive) and tests the
loop condition.  So the upcalls a tracer receives are a log it can follow: the first `pre` sees
the entry frame in `EXECUTING`, each `pre` after a `post` sees that `post`'s frame with `pc`
moved by the increment the `post` reported, gas and everything else untouched, and the frame
returned is the last one seen, moved and then finished, or halted at the 3-gas floor (which makes
no upcall), or halted by the step of a lone last `pre` (`Replays`).

`runLoop_replays` proves this of any loop body whose passes have that shape
(`Iteration.Replays`); both builds and the `switch` have it (`executeMessage_replays`).
-/

namespace NativeEvm

/-- The upcalls `events` retell a run from `f` that returns `final`. -/
inductive Replays : Frame → List TraceEvent → Frame → Prop
  /-- The loop test fails: no upcall, and the frame is finished. -/
  | finish {f : Frame} (h : ¬ f.running) : Replays f [] f.finish
  /-- The 3-gas floor: no upcall, and the frame halts with `INSUFFICIENT_GAS`. -/
  | floor {f : Frame} (h : f.running) (hgas : f.gasRemaining < 3) : Replays f [] (f.halt 1)
  /-- A step that halts in the dispatch: a lone `pre` of the frame it starts from. -/
  | halted {f g : Frame} (h : f.running) (hs : g.state = 4) : Replays f [.pre f] g
  /-- A charged step: the `pre` of the frame it starts from, the `post` of the frame it leaves,
  and the rest of the run from that frame with `pc` moved by the reported increment. -/
  | step {f g final : Frame} {result : OperationResult} {rest : List TraceEvent} (h : f.running)
      (hrest : Replays (g.advance result.pcIncrement) rest final) :
      Replays f (.pre f :: .post g result :: rest) final

/-- A traced pass from `f` that has the shape `Replays` needs: a return at the floor without an
upcall, a return into `EXCEPTIONAL_HALT` after a lone `pre f`, or a `pre f` and a `post g` and
back to the loop test with `g`'s `pc` moved by the reported increment. -/
def Iteration.Replays (f : Frame) : Iteration → Prop
  | .halt g events => (f.gasRemaining < 3 ∧ g = f.halt 1 ∧ events = []) ∨
      (g.state = 4 ∧ events = [.pre f])
  | .next g events => ∃ g' result, g = g'.advance result.pcIncrement ∧
      events = [.pre f, .post g' result]

/-- A loop body that makes progress and whose passes have the shape of `Replays` retells every
run it makes with enough passes. -/
theorem runLoop_replays {body : Frame → Iteration} (hp : Progress body)
    (hstep : ∀ f, f.running → (body f).Replays f) :
    ∀ n f, passBound f ≤ n → Replays f (runLoop body n f).2 (runLoop body n f).1 := by
  intro n
  induction n with
  | zero => intro f hf; have := passBound_pos f; omega
  | succ n ih =>
    intro f hf
    by_cases hr : f.running
    · have hs := hstep f hr
      cases hb : body f with
      | halt g events =>
        rw [runLoop_succ_halt hr hb]
        rw [hb] at hs
        rcases hs with ⟨hgas, rfl, rfl⟩ | ⟨h4, rfl⟩
        exacts [.floor hr hgas, .halted hr h4]
      | next g events =>
        rw [runLoop_succ_next hr hb]
        rw [hb] at hs
        obtain ⟨g', result, rfl, rfl⟩ := hs
        exact .step hr (ih _ (by have := passBound_next hp hr hb; omega))
    · rw [runLoop_succ_of_not_running hr]
      exact .finish hr

/-- A traced pass of a build has the shape of `Replays`: a handler error leaves its frame
executing or halted, and the loop halts the former. -/
theorem loopBody_replays {dispatch : UInt8 → Frame → OpResult × Frame}
    {cause : UInt8 → Frame → Frame → Prop}
    (hd : ∀ opcode f, Effect (cause opcode f) f (dispatch opcode f).1 (dispatch opcode f).2)
    {f : Frame} (hr : f.running) : (loopBody dispatch true f).Replays f := by
  rcases loopBody_spec dispatch true f with ⟨hgas, hs⟩ | ⟨-, hs⟩
  · rw [hs]
    exact .inl ⟨hgas, rfl, rfl⟩
  obtain ⟨r, g, he, ⟨hneg, hs'⟩ | ⟨-, -, hs'⟩ | ⟨-, -, hs'⟩⟩ := dispatchStep_spec dispatch true f <;>
    rw [hs, hs']
  · have hstate : g.state = 1 ∨ g.state = 4 := by
      rcases (effect_of_dispatch hd he).of_neg hneg with ⟨h1, -⟩ | ⟨h4, -⟩
      exacts [.inl (h1.trans hr.2), .inr h4]
    refine .inr ⟨?_, rfl⟩
    split_ifs with h1
    · rfl
    · exact hstate.resolve_left h1
  · exact .inr ⟨rfl, rfl⟩
  · exact ⟨_, _, rfl, rfl⟩

/-- A traced pass of the `switch` has the shape of `Replays`. -/
theorem Switch.loopBody_replays {f : Frame} : (Switch.loopBody true f).Replays f := by
  rcases Switch.loopBody_spec true f with ⟨hgas, hs⟩ | ⟨-, _, _, -, ⟨-, hs⟩ | ⟨-, -, hs⟩ | ⟨-, -, hs⟩⟩ <;>
    rw [hs]
  · exact .inl ⟨hgas, rfl, rfl⟩
  · exact .inr ⟨rfl, rfl⟩
  · exact .inr ⟨rfl, rfl⟩
  · exact ⟨_, _, rfl, rfl⟩

/-- The upcalls of every traced run of `evm_optimized`, `evm_jumptable` and the `switch` retell
it: the first `pre` sees the entry frame in `EXECUTING`; each `pre` after a `post` sees the `post`'s
frame with `pc` moved by the `pc_increment` the `post` reported, and nothing else changed; and the
frame returned is the frame the last upcall saw, moved and finished, or halted at the 3-gas floor
without an upcall, or, after a lone `pre`, a frame in `EXCEPTIONAL_HALT`. -/
theorem executeMessage_replays (frame : Frame) :
    (∀ b : Build, Replays { frame with state := 1 } (b.executeMessage true frame).2
      (b.executeMessage true frame).1) ∧
    Replays { frame with state := 1 } (Switch.executeMessage true frame).2
      (Switch.executeMessage true frame).1 := by
  refine ⟨fun b => ?_, ?_⟩
  · rw [b.executeMessage_eq]
    exact runLoop_replays (loopBody_progress b.dispatch_effect true)
      (fun _ hr => loopBody_replays b.dispatch_effect hr) _ _ (passBound_start frame)
  · exact runLoop_replays (Switch.loopBody_progress true) (fun _ _ => Switch.loopBody_replays) _ _
      (passBound_start frame)

end NativeEvm
