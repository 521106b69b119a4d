import NativeEvm.Switch.Run

/-!
# The `switch` interpreter against `evm_jumptable`

Both interpreters pop and push through the same stack helpers and grow memory through the same
`ensure_memory`, so on the opcodes both implement they compute the same frame.  They price steps
differently (3 for every opcode against the table's costs), so the frames they reach differ in
`gas_remaining`, and `GAS` (`0x5a`) pushes that difference.  `MSIZE` (`0x59`) is a `switch` case
and a stub of the table.  Every other difference ends the `switch` run: its stubs and `default`
halt where the table's stubs do nothing, and it checks a jump target on all 64 bits where the
table keeps 32.

So on code without `0x59` and `0x5a`, a `switch` run that completes is matched by the
`evm_jumptable` run from the same frame: that run completes with the same frame up to
`gas_remaining`, or it halts out of gas.
-/

namespace NativeEvm

/-- `f` with `gas_remaining = gas`. -/
def Frame.withGas (f : Frame) (gas : Int) : Frame := { f with gasRemaining := gas }

/-! ## 1. The helpers do not read gas -/

section Gas

variable (f : Frame) (gas : Int)

theorem stackPop_withGas :
    stackPop (f.withGas gas) = (stackPop f).map fun p => (p.1, p.2.withGas gas) := by
  unfold stackPop Frame.withGas
  dsimp only
  split_ifs <;> rfl

theorem stackPush_withGas (w : Word) :
    stackPush (f.withGas gas) w = ((stackPush f w).1, (stackPush f w).2.withGas gas) := by
  unfold stackPush Frame.withGas
  dsimp only
  split_ifs <;> rfl

theorem ensureMemory_withGas (offset size : Nat) :
    ensureMemory (f.withGas gas) offset size =
      ((ensureMemory f offset size).1, (ensureMemory f offset size).2.withGas gas) := by
  unfold ensureMemory Frame.withGas
  dsimp only
  split_ifs <;> rfl

theorem stackTop_withGas (offset : Nat) : stackTop (f.withGas gas) offset = stackTop f offset := rfl

end Gas

namespace Switch

/-! ## 2. One case against one table entry -/

/-- A `switch` case `p` and a `JUMP_TABLE` handler `q`, run from frames that differ in gas only
(`gas` is the table's): the case fails, or halts the frame, or both return the same increment and
frames that differ in gas only. -/
def StepSim (gas : Int) (p : Int × Frame) (q : OpResult × Frame) : Prop :=
  p.1 < 0 ∨ p.2.state = 4 ∨ (q.1.pcIncrement = p.1 ∧ q.2 = p.2.withGas gas)

theorem StepSim.fail {gas : Int} {g : Frame} (q : OpResult × Frame) : StepSim gas (-1, g) q :=
  .inl (show (-1 : Int) < 0 by decide)

theorem StepSim.same {gas : Int} {i : Int} {g : Frame} (cost : Int) :
    StepSim gas (i, g) (⟨i, cost⟩, g.withGas gas) :=
  .inr (.inr ⟨rfl, rfl⟩)

section Families

variable (f : Frame) (gas : Int)

theorem pushResult_sim (w : Word) (cost : Int) :
    StepSim gas (pushResult w f) (Jumptable.pushResult w cost (f.withGas gas)) := by
  unfold pushResult Jumptable.pushResult
  rw [stackPush_withGas]
  rcases stackPush f w with ⟨_ | _, g⟩
  · exact StepSim.fail _
  · exact StepSim.same cost

theorem binaryOp_sim (op₁ op₂ : Word → Word → Word) (hop : ∀ a b, op₁ a b = op₂ a b) (cost : Int) :
    StepSim gas (binaryOp op₁ f) (Jumptable.binaryOp op₂ cost (f.withGas gas)) := by
  unfold binaryOp Jumptable.binaryOp
  rw [stackPop_withGas]
  rcases stackPop f with _ | ⟨a, g⟩
  · exact StepSim.fail _
  dsimp only [Option.map]
  rw [stackPop_withGas]
  rcases stackPop g with _ | ⟨b, k⟩
  · exact StepSim.fail _
  · dsimp only [Option.map]
    rw [hop]
    exact pushResult_sim k gas _ cost

theorem unaryOp_sim (op : Word → Word) (cost : Int) :
    StepSim gas (unaryOp op f) (Jumptable.unaryOp op cost (f.withGas gas)) := by
  unfold unaryOp Jumptable.unaryOp
  rw [stackPop_withGas]
  rcases stackPop f with _ | ⟨a, g⟩
  · exact StepSim.fail _
  · exact pushResult_sim g gas _ cost

theorem opPop_sim : StepSim gas (opPop f) (Jumptable.opPop (f.withGas gas)) := by
  unfold opPop Jumptable.opPop
  rw [stackPop_withGas]
  rcases stackPop f with _ | ⟨a, g⟩
  · exact StepSim.fail _
  · exact StepSim.same 2

theorem opPush_sim (n : Nat) : StepSim gas (opPush f n) (Jumptable.opPushN (f.withGas gas) n) := by
  unfold opPush Jumptable.opPushN
  rw [show (f.withGas gas).pushWord n = f.pushWord n from rfl, stackPush_withGas]
  rcases stackPush f (f.pushWord n) with ⟨_ | _, g⟩
  · exact StepSim.fail _
  · exact StepSim.same 3

theorem opDup_sim (n : Nat) : StepSim gas (opDup f n) (Jumptable.opDupN (f.withGas gas) n) := by
  unfold opDup Jumptable.opDupN stackPeek
  rw [stackTop_withGas]
  rcases stackTop f (n - 1) with _ | item
  · exact StepSim.fail _
  · exact pushResult_sim f gas _ 3

theorem opSwap_sim (n : Nat) : StepSim gas (opSwap f n) (Jumptable.opSwapN (f.withGas gas) n) := by
  unfold opSwap Jumptable.opSwapN stackPeek
  split_ifs with h
  · exact StepSim.fail _
  · rw [stackTop_withGas, stackTop_withGas, stackTop_of_lt (show 0 < f.stackSize by omega),
      stackTop_of_lt (show n < f.stackSize by omega)]
    exact StepSim.same 3

theorem opMload_sim : StepSim gas (opMload f) (Jumptable.opMload (f.withGas gas)) := by
  unfold opMload Jumptable.opMload
  rw [stackPop_withGas]
  rcases stackPop f with _ | ⟨w, g⟩
  · exact StepSim.fail _
  dsimp only [Option.map]
  rw [ensureMemory_withGas]
  rcases ensureMemory g (wordToU64 w % 2 ^ 32) 32 with ⟨_ | _, k⟩
  · exact StepSim.fail _
  · exact pushResult_sim k gas _ 3

/-- The memory stores, against the table's two store handlers. -/
theorem storeOp_sim (size : Nat) (bytes : Word → List UInt8) :
    StepSim gas (storeOp size bytes f)
      (match stackPop (f.withGas gas) with
        | none => Jumptable.fail (f.withGas gas)
        | some (offsetWord, f) =>
          match stackPop f with
          | none => Jumptable.fail f
          | some (value, f) =>
            match ensureMemory f (wordToU64 offsetWord % 2 ^ 32) size with
            | (false, g) => Jumptable.fail g
            | (true, g) => (⟨1, 3⟩, g.writeMemory (wordToU64 offsetWord % 2 ^ 32) (bytes value))) := by
  unfold storeOp
  rw [stackPop_withGas]
  rcases stackPop f with _ | ⟨w, g⟩
  · exact StepSim.fail _
  dsimp only [Option.map]
  rw [stackPop_withGas]
  rcases stackPop g with _ | ⟨v, k⟩
  · exact StepSim.fail _
  dsimp only [Option.map]
  rw [ensureMemory_withGas]
  rcases ensureMemory k (wordToU64 w % 2 ^ 32) size with ⟨_ | _, m⟩
  · exact StepSim.fail _
  · exact StepSim.same 3

theorem opMstore_sim : StepSim gas (opMstore f) (Jumptable.opMstore (f.withGas gas)) :=
  storeOp_sim f gas 32 Bytes.toList

theorem opMstore8_sim : StepSim gas (opMstore8 f) (Jumptable.opMstore8 (f.withGas gas)) :=
  storeOp_sim f gas 1 fun value => [value.get 31]

/-- A jump the `switch` makes lands where the table's does: its target is below `code_size`,
so its low 32 bits are all of it. -/
theorem jumpTo_sim (dest : Nat) (cost : Int) :
    StepSim gas (jumpTo f dest)
      (if (f.withGas gas).validJumpDest (dest % 2 ^ 32) then
        (⟨0, cost⟩, { f.withGas gas with pc := toInt32 (dest % 2 ^ 32) })
      else Jumptable.fail ((f.withGas gas).halt 3)) := by
  unfold jumpTo
  by_cases h1 : f.codeSize.toNat ≤ dest
  · rw [if_pos h1]
    exact .inr (.inl rfl)
  by_cases h2 : f.codeAt dest ≠ 0x5b
  · rw [if_neg h1, if_pos h2]
    exact .inr (.inl rfl)
  have hlt : dest < 2 ^ 32 := lt_trans (not_le.mp h1) f.codeSize.toNat_lt_size
  have hv : f.validJumpDest dest = true := by
    simp [Frame.validJumpDest, not_le.mp h1, not_not.mp h2]
  rw [if_neg h1, if_neg h2, Nat.mod_eq_of_lt hlt, if_pos (show (f.withGas gas).validJumpDest dest = true from hv)]
  exact StepSim.same cost

theorem opJump_sim : StepSim gas (opJump f) (Jumptable.opJump (f.withGas gas)) := by
  unfold opJump Jumptable.opJump
  rw [stackPop_withGas]
  rcases stackPop f with _ | ⟨d, g⟩
  · exact StepSim.fail _
  · exact jumpTo_sim g gas _ 8

theorem opJumpi_sim : StepSim gas (opJumpi f) (Jumptable.opJumpi (f.withGas gas)) := by
  unfold opJumpi Jumptable.opJumpi
  rw [stackPop_withGas]
  rcases stackPop f with _ | ⟨d, g⟩
  · exact StepSim.fail _
  dsimp only [Option.map]
  rw [stackPop_withGas]
  rcases stackPop g with _ | ⟨c, k⟩
  · exact StepSim.fail _
  dsimp only [Option.map]
  split
  · exact jumpTo_sim k gas _ 10
  · exact StepSim.same 10

end Families

/-! ## 3. The `case` labels and `JUMP_TABLE` -/

/-- The table handler a case is compared with; none for `MSIZE` and `GAS`, which differ, and for
the cases that halt. -/
def Handler.toJumptable : Handler → Option Jumptable.Handler
  | .stop => some .stop | .add => some .add | .mul => some .mul | .sub => some .sub
  | .div => some .div | .mod => some .mod | .lt => some .lt | .gt => some .gt | .eq => some .eq
  | .iszero => some .iszero | .and => some .and | .or => some .or | .xor => some .xor
  | .not => some .not | .pop => some .pop | .mload => some .mload | .mstore => some .mstore
  | .mstore8 => some .mstore8 | .jump => some .jump | .jumpi => some .jumpi | .pc => some .pc
  | .jumpdest => some .jumpdest | .push0 => some .push0 | .push n => some (.push n)
  | .dup n => some (.dup n) | .swap n => some (.swap n)
  | .msize | .gas | .stub | .invalid => none

/-- The cases that halt the frame: `op_stub` and the `default`. -/
def Handler.halts : Handler → Bool
  | .stub | .invalid => true
  | _ => false

theorem u64ToWord_zero : u64ToWord 0 = Bytes.zero 32 := by decide

/-- Every case with a table counterpart computes what the counterpart computes. -/
theorem Handler.exec_sim {h : Handler} {j : Jumptable.Handler} (hj : h.toJumptable = some j)
    (f : Frame) (gas : Int) : StepSim gas (h.exec f) (j.exec (f.withGas gas)) := by
  cases h <;> cases hj
  case stop => exact StepSim.same 0
  case add | mul | sub | lt | gt | eq | and | or | xor =>
    exact binaryOp_sim f gas _ _ (fun _ _ => rfl) _
  case div | mod =>
    exact binaryOp_sim f gas _ _ (fun _ _ => by split <;> simp [u64ToWord_zero]) _
  case iszero | not => exact unaryOp_sim f gas _ _
  case pop => exact opPop_sim f gas
  case mload => exact opMload_sim f gas
  case mstore => exact opMstore_sim f gas
  case mstore8 => exact opMstore8_sim f gas
  case jump => exact opJump_sim f gas
  case jumpi => exact opJumpi_sim f gas
  case pc | push0 => exact pushResult_sim f gas _ 2
  case jumpdest => exact StepSim.same 1
  case push n => exact opPush_sim f gas n
  case dup n => exact opDup_sim f gas n
  case swap n => exact opSwap_sim f gas n

theorem Handler.halts_sim {h : Handler} (hh : h.halts = true) (f : Frame) (gas : Int)
    (q : OpResult × Frame) : StepSim gas (h.exec f) q := by
  cases h
  case stub | invalid => exact .inr (.inl rfl)
  all_goals exact absurd hh Bool.false_ne_true

theorem jumpTable_push : ∀ i < 32, Jumptable.jumpTable.getD (0x60 + i) .stub = .push (i + 1) := by
  decide

theorem jumpTable_dup : ∀ i < 16, Jumptable.jumpTable.getD (0x80 + i) .stub = .dup (i + 1) := by
  decide

theorem jumpTable_swap : ∀ i < 16, Jumptable.jumpTable.getD (0x90 + i) .stub = .swap (i + 1) := by
  decide

/-- Off `MSIZE` and `GAS`, a case label that does not halt selects the handler `JUMP_TABLE` has
at that opcode. -/
theorem handlerOf_toJumptable {n : Nat} (h59 : n ≠ 0x59) (h5a : n ≠ 0x5a) :
    (handlerOf n).halts = true ∨
      (handlerOf n).toJumptable = some (Jumptable.jumpTable.getD n .stub) := by
  unfold handlerOf
  split
  any_goals (left; rfl)
  any_goals (right; rfl)
  · exact absurd rfl h59
  · exact absurd rfl h5a
  split_ifs with hp hd hs
  · have := jumpTable_push (n - 0x60) (by omega)
    rw [Nat.add_sub_cancel' hp.1] at this
    exact .inr (by rw [this, show n - 0x60 + 1 = n - 0x5f by omega]; rfl)
  · have := jumpTable_dup (n - 0x80) (by omega)
    rw [Nat.add_sub_cancel' hd.1] at this
    exact .inr (by rw [this, show n - 0x80 + 1 = n - 0x7f by omega]; rfl)
  · have := jumpTable_swap (n - 0x90) (by omega)
    rw [Nat.add_sub_cancel' hs.1] at this
    exact .inr (by rw [this, show n - 0x90 + 1 = n - 0x8f by omega]; rfl)
  · exact .inl rfl

theorem dispatch_sim {opcode : UInt8} (h59 : opcode ≠ 0x59) (h5a : opcode ≠ 0x5a) (f : Frame)
    (gas : Int) : StepSim gas ((handlerOf opcode.toNat).exec f)
      (Jumptable.dispatch opcode (f.withGas gas)) := by
  have hne : ∀ b : UInt8, opcode ≠ b → opcode.toNat ≠ b.toNat := fun b h e => h (UInt8.toNat.inj e)
  rcases handlerOf_toJumptable (hne 0x59 h59) (hne 0x5a h5a) with hh | hj
  · exact Handler.halts_sim hh f gas _
  · exact Handler.exec_sim hj f gas

/-! ## 4. One pass against one pass -/

/-- A pass of the `switch` loop and a pass of the `evm_jumptable` loop, from frames that differ
in gas only. -/
inductive PassSim : Iteration → Iteration → Prop
  /-- The `switch` pass leaves a halted frame. -/
  | switchHalted {it₁ : Iteration} (it₂ : Iteration) (h4 : it₁.frame.state = 4) : PassSim it₁ it₂
  /-- The table's pass returns out of gas. -/
  | outOfGas (it₁ : Iteration) {g : Frame} {events : List TraceEvent} (h4 : g.state = 4)
      (h1 : g.haltReason = 1) : PassSim it₁ (.halt g events)
  /-- Both go back to the loop test, with frames that differ in gas only. -/
  | next {g₁ g₂ : Frame} {e₁ e₂ : List TraceEvent} (hg : g₂ = g₁.withGas g₂.gasRemaining) :
      PassSim (.next g₁ e₁) (.next g₂ e₂)

theorem loopBody_sim (hasTracer : Bool) (f : Frame) (gas : Int) (h59 : f.codeAt f.pc ≠ 0x59)
    (h5a : f.codeAt f.pc ≠ 0x5a) :
    PassSim (loopBody hasTracer f)
      (NativeEvm.loopBody Jumptable.dispatch hasTracer (f.withGas gas)) := by
  rcases loopBody_spec hasTracer f with ⟨-, hs⟩ | ⟨-, i, g, he, ⟨-, hs⟩ | ⟨-, -, hs⟩ | ⟨hnn, -, hs⟩⟩ <;>
    rw [hs]
  · exact .switchHalted _ rfl
  · exact .switchHalted _ rfl
  · exact .switchHalted _ rfl
  have hsim := dispatch_sim h59 h5a f gas
  rw [he] at hsim
  rcases hsim with hneg | h4 | ⟨hinc, hg⟩
  · exact absurd hneg (not_lt.mpr hnn)
  · exact .switchHalted _ h4
  rcases NativeEvm.loopBody_spec Jumptable.dispatch hasTracer (f.withGas gas) with ⟨-, hs'⟩ | ⟨-, hs'⟩ <;>
    rw [hs']
  · exact .outOfGas _ rfl rfl
  obtain ⟨r, g', hd, ⟨hneg', -⟩ | ⟨-, -, hs''⟩ | ⟨-, -, hs''⟩⟩ :=
    dispatchStep_spec Jumptable.dispatch hasTracer (f.withGas gas)
  all_goals
    have hd' : Jumptable.dispatch (f.codeAt f.pc) (f.withGas gas) = (r, g') := hd
    rw [hd'] at hinc hg
    dsimp only at hinc hg
  · exact absurd hneg' (by omega)
  · rw [hs'']
    exact .outOfGas _ rfl rfl
  · rw [hs'', hg, hinc]
    exact .next rfl

/-- A pass back to the loop test keeps the code. -/
theorem loopBody_next_code {hasTracer : Bool} {f g : Frame} {events : List TraceEvent}
    (hb : loopBody hasTracer f = .next g events) : g.code = f.code := by
  rcases loopBody_spec hasTracer f with ⟨-, hs⟩ | ⟨-, i, k, he, ⟨-, hs⟩ | ⟨-, -, hs⟩ | ⟨-, -, hs⟩⟩ <;>
    rw [hs] at hb <;> cases hb
  exact (Handler.effect_of_exec he).code

/-! ## 5. Whole runs -/

/-- The `evm_jumptable` frame `g₂` matches the `switch` frame `g₁`: it is the same frame up to
`gas_remaining`, or it halted out of gas. -/
def Matches (g₁ g₂ : Frame) : Prop :=
  g₂ = g₁.withGas g₂.gasRemaining ∨ (g₂.state = 4 ∧ g₂.haltReason = 1)

/-- A run from a frame that is no longer executing returns it as it is. -/
theorem runLoop_of_halted (body : Frame → Iteration) {g : Frame} (h : g.state ≠ 1) :
    ∀ n, (runLoop body n g).1 = g
  | 0 => rfl
  | n + 1 => by
    rw [runLoop_succ_of_not_running (fun hr => h hr.2)]
    exact Frame.finish_of_ne h

/-- A pass that leaves the frame no longer executing ends the run with that frame. -/
theorem runLoop_succ_of_frame_halted {body : Frame → Iteration} {f : Frame} (hr : f.running)
    (h : (body f).frame.state ≠ 1) (n : Nat) : (runLoop body (n + 1) f).1 = (body f).frame := by
  cases hb : body f with
  | halt g events => rw [runLoop_succ_halt hr hb]; rfl
  | next g events =>
    rw [hb] at h
    rw [runLoop_succ_next hr hb]
    exact runLoop_of_halted _ h n

theorem runLoop_sim (hasTracer : Bool) :
    ∀ n f gas, 0x59 ∉ f.code → 0x5a ∉ f.code → (runLoop (loopBody hasTracer) n f).1.state = 7 →
      Matches (runLoop (loopBody hasTracer) n f).1
        (runLoop (NativeEvm.loopBody Jumptable.dispatch hasTracer) n (f.withGas gas)).1 := by
  intro n
  induction n with
  | zero => intro _ _ _ _ _; exact .inl rfl
  | succ n ih =>
    intro f gas h59 h5a h7
    by_cases hr : f.running
    · have hr' : (f.withGas gas).running := hr
      have hp := loopBody_sim hasTracer f gas (f.codeAt_ne h59 (by decide) _)
        (f.codeAt_ne h5a (by decide) _)
      generalize hb₁ : loopBody hasTracer f = it₁ at hp
      generalize hb₂ : NativeEvm.loopBody Jumptable.dispatch hasTracer (f.withGas gas) = it₂ at hp
      cases hp with
      | switchHalted it₂ h4 =>
        rw [← hb₁] at h4
        rw [runLoop_succ_of_frame_halted hr (by omega)] at h7
        exact absurd (h4.symm.trans h7) (by decide)
      | outOfGas it₁ h4 h1 =>
        rw [runLoop_succ_halt hr' hb₂]
        exact .inr ⟨h4, h1⟩
      | @next g₁ g₂ e₁ e₂ hg =>
        rw [runLoop_succ_next hr hb₁] at h7 ⊢
        rw [runLoop_succ_next hr' hb₂, hg]
        have hcode := loopBody_next_code hb₁
        exact ih g₁ g₂.gasRemaining (hcode ▸ h59) (hcode ▸ h5a) h7
    · rw [runLoop_succ_of_not_running hr,
        runLoop_succ_of_not_running (show ¬ (f.withGas gas).running from hr)]
      exact .inl rfl

/-- `PUSH1 2; PUSH1 3; MUL; STOP` with 12 gas: the `switch` pays 3 for `MUL` and completes, the
table pays 5 and halts out of gas at the floor check before `STOP`. -/
example :
    (executeMessage false (Frame.scenario [0x60, 0x02, 0x60, 0x03, 0x02, 0x00] 12)).1.state = 7 ∧
    (Jumptable.executeMessage false
      (Frame.scenario [0x60, 0x02, 0x60, 0x03, 0x02, 0x00] 12)).1.haltReason = 1 := by
  decide

end Switch

end NativeEvm
