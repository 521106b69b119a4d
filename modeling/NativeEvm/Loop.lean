import NativeEvm.Frame

/-!
# Loop — `execute_message`, the dispatch loop of both builds

`evm_optimized` and `evm_jumptable` run the same loop and differ only in the handler table, so
the loop is written once, over `dispatch opcode frame` (the call `JUMP_TABLE[opcode](&ctx)`).

Each pass of the loop body either `return`s out of `execute_message` or goes back to the loop
test; the host tracer is an observer, and each upcall is recorded with the frame it sees.  The
loop itself is `runLoop`, which takes the body as a parameter and counts passes with `fuel`;
`executeMessage` gives it `gas_remaining + 2` passes, which is always enough
(`executeMessage_fuel_stable`).
-/

namespace NativeEvm

/-- How one pass of the loop body ends: `return` out of `execute_message`, or back to the test. -/
inductive Iteration where
  | halt (frame : Frame) (events : List TraceEvent)
  | next (frame : Frame) (events : List TraceEvent)

/-- A pass with its upcalls dropped, as a run without a tracer sees it. -/
def Iteration.untraced : Iteration → Iteration
  | .halt g _ => .halt g []
  | .next g _ => .next g []

/-- The loop test `pc < static_cast<int32_t>(code_size) && state == 1`. -/
def Frame.running (f : Frame) : Prop := f.pc < toInt32 f.codeSize.toNat ∧ f.state = 1

instance (f : Frame) : Decidable f.running := inferInstanceAs (Decidable (_ ∧ _))

/-- `if (frame->state == 1) frame->state = 7;` once the loop test fails. -/
@[simp] def Frame.finish (f : Frame) : Frame := { f with state := if f.state = 1 then 7 else f.state }

theorem Frame.finish_of_ne {f : Frame} (h : f.state ≠ 1) : f.finish = f := by
  simp [Frame.finish, h]

/-- `gas_remaining -= gas_cost`. -/
@[simp] def Frame.charge (f : Frame) (cost : Int) : Frame :=
  { f with gasRemaining := f.gasRemaining - cost }

/-- `if (pc_increment > 0) pc += pc_increment`, on the `int32_t` `pc`. -/
@[simp] def Frame.advance (f : Frame) (increment : Int) : Frame :=
  { f with pc := if 0 < increment then addInt32 f.pc increment else f.pc }

/-- The upcalls `events`, made only when a tracer is attached. -/
def traced (hasTracer : Bool) (events : List TraceEvent) : List TraceEvent :=
  if hasTracer then events else []

section Body

variable (dispatch : UInt8 → Frame → OpResult × Frame) (hasTracer : Bool)

/-- The loop body after the 3-gas floor: fetch `code[pc]`, `trace_pre_execution`, dispatch, the
error check (defaulting `halt_reason` to 4), the per-op gas check, the charge,
`trace_post_execution`, the `pc` update. -/
def dispatchStep (f : Frame) : Iteration :=
  let (result, g) := dispatch (f.codeAt f.pc) f
  if result.pcIncrement < 0 then
    .halt (if g.state = 1 then g.halt 4 else g) (traced hasTracer [.pre f])
  else if g.gasRemaining < result.gasCost then
    .halt (g.halt 1) (traced hasTracer [.pre f])
  else
    let g := g.charge result.gasCost
    .next (g.advance result.pcIncrement)
      (traced hasTracer [.pre f, .post g ⟨result.gasCost, 0, result.pcIncrement⟩])

/-- The loop body: the 3-gas floor `if (gas_remaining < 3) { state = 4; halt_reason = 1;
return; }`, then `dispatchStep`. -/
def loopBody (f : Frame) : Iteration :=
  if f.gasRemaining < 3 then .halt (f.halt 1) [] else dispatchStep dispatch hasTracer f

end Body

/-- The while loop over `body`, for at most `fuel` passes. -/
def runLoop (body : Frame → Iteration) : Nat → Frame → Frame × List TraceEvent
  | 0, f => (f, [])
  | fuel + 1, f =>
    if f.running then
      match body f with
      | .halt g events => (g, events)
      | .next g events => ((runLoop body fuel g).1, events ++ (runLoop body fuel g).2)
    else (f.finish, [])

/-- `execute_message(frame, tracer)` on a non-null frame: the final frame and the tracer upcalls
made (none when `hasTracer` is false, i.e. no tracer or no `trace_pre_execution`). -/
def executeMessage (dispatch : UInt8 → Frame → OpResult × Frame) (hasTracer : Bool)
    (frame : Frame) : Frame × List TraceEvent :=
  runLoop (loopBody dispatch hasTracer) (frame.gasRemaining.toNat + 2) { frame with state := 1 }

end NativeEvm
