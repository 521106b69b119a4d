import NativeEvm.StorageOpcodes
import NativeEvm.Switch.Simulation

/-!
# Agreement — the two builds off the storage opcodes

`evm_optimized` checks its operands with `stack_top` and writes results in place;
`evm_jumptable` pops its operands into locals and pushes the result through `stack_push`.
Handler by handler the two return the same result and, unless the handler fails, the same frame;
a failing handler of `evm_jumptable` may already have popped operands, so after an error the
frames differ in `stack_size` only (`Agree`).

Their tables differ only at `0x44` and `0x45`, where `evm_optimized` has `op_sload` and
`op_sstore` and `evm_jumptable` has `op_stub`.  So on code without those two bytes, from at most
1024 stack items, the two builds step in lock-step: the same upcalls, and the same final frame
unless the run ended in a handler error (`executeMessage_builds_agree`).  At `0x44` they part.
With the `switch` interpreter matched against `evm_jumptable` (`NativeEvm.Switch.Simulation`),
this relates all three interpreters on their common opcodes.
-/

namespace NativeEvm

/-! ## 1. Handler calls that agree -/

/-- Two handler calls that agree: the same result, the same frame when the handler succeeds,
and frames that differ at most in `stack_size` when it fails. -/
structure Agree (p q : OpResult × Frame) : Prop where
  result : p.1 = q.1
  frame : 0 ≤ p.1.pcIncrement → p.2 = q.2
  failed : p.1.pcIncrement < 0 → { p.2 with stackSize := 0 } = { q.2 with stackSize := 0 }

theorem Agree.of_eq {p q : OpResult × Frame} (h : p = q) : Agree p q :=
  ⟨h ▸ rfl, fun _ => h ▸ rfl, fun _ => h ▸ rfl⟩

theorem Agree.fail {f g : Frame} (h : { f with stackSize := 0 } = { g with stackSize := 0 }) :
    Agree (⟨-1, 0⟩, f) (⟨-1, 0⟩, g) :=
  ⟨rfl, fun h' => by simp at h', fun _ => h⟩

theorem ensureMemory_stackSize (f : Frame) (k offset size : Nat) :
    ensureMemory { f with stackSize := k } offset size =
      ((ensureMemory f offset size).1, { (ensureMemory f offset size).2 with stackSize := k }) := by
  unfold ensureMemory; dsimp only; split_ifs <;> rfl

theorem Bytes.zipWith_comm {n : Nat} {op : UInt8 → UInt8 → UInt8} (hop : ∀ x y, op x y = op y x)
    (a b : Bytes n) : Bytes.zipWith op a b = Bytes.zipWith op b a :=
  Bytes.ext (List.zipWith_comm_of_comm op hop _ _)

theorem uint8_and_comm (x y : UInt8) : x &&& y = y &&& x :=
  congrArg UInt8.mk (BitVec.and_comm _ _)

theorem uint8_or_comm (x y : UInt8) : x ||| y = y ||| x :=
  congrArg UInt8.mk (BitVec.or_comm _ _)

theorem uint8_xor_comm (x y : UInt8) : x ^^^ y = y ^^^ x :=
  congrArg UInt8.mk (BitVec.xor_comm _ _)

section Handlers

variable (f : Frame)

theorem binaryOp_agree (op : Word → Word → Word) (cost : Int) (hf : f.stackSize ≤ 1024) :
    Agree (Optimized.binaryOp op cost f) (Jumptable.binaryOp op cost f) := by
  unfold Optimized.binaryOp Jumptable.binaryOp Jumptable.pushResult
  rcases Nat.lt_or_ge f.stackSize 1 with h0 | h0
  · rw [stackTop_of_le (by omega), stackPop_of_zero (by omega)]
    exact Agree.of_eq rfl
  rcases Nat.lt_or_ge f.stackSize 2 with h1 | h1
  · rw [stackTop_of_lt h0, stackTop_of_le (show f.stackSize ≤ 1 by omega), stackPop_of_pos h0]
    dsimp only
    rw [stackPop_of_zero (by dsimp only; omega)]
    exact Agree.fail rfl
  · rw [stackTop_of_lt h0, stackTop_of_lt h1, stackPop_of_pos h0]
    dsimp only
    rw [stackPop_of_pos (by dsimp only; omega)]
    dsimp only
    rw [stackPush_of_lt (by dsimp only; omega)]
    exact Agree.of_eq (by simp [Frame.ext_iff, show ¬ f.stackSize < 1 by omega]; omega)

theorem unaryOp_agree (op : Word → Word) (cost : Int) (hf : f.stackSize ≤ 1024) :
    Agree (Optimized.unaryOp op cost f) (Jumptable.unaryOp op cost f) := by
  unfold Optimized.unaryOp Jumptable.unaryOp Jumptable.pushResult
  rcases Nat.lt_or_ge f.stackSize 1 with h0 | h0
  · rw [stackTop_of_le (by omega), stackPop_of_zero (by omega)]
    exact Agree.of_eq rfl
  · rw [stackTop_of_lt h0, stackPop_of_pos h0]
    dsimp only
    rw [stackPush_of_lt (by dsimp only; omega)]
    exact Agree.of_eq (by simp [Frame.ext_iff]; omega)

theorem pushOp_agree (value : Frame → Word) (cost : Int)
    (hv : value { f with stackSize := f.stackSize + 1 } = value f) :
    Agree (Optimized.pushOp value cost f) (Jumptable.pushResult (value f) cost f) := by
  unfold Optimized.pushOp Jumptable.pushResult
  rcases Nat.lt_or_ge f.stackSize 1024 with h | h
  · rw [stackAlloc_of_lt h, stackPush_of_lt h]
    exact Agree.of_eq (by simp [Frame.ext_iff, hv])
  · rw [stackAlloc_of_le h, stackPush_of_le h]
    exact Agree.of_eq rfl

theorem opPop_agree : Agree (Optimized.opPop f) (Jumptable.opPop f) := by
  unfold Optimized.opPop Jumptable.opPop stackFree
  rcases Nat.lt_or_ge f.stackSize 1 with h0 | h0
  · rw [if_pos h0, stackPop_of_zero (by omega)]
    exact Agree.of_eq rfl
  · rw [if_neg (by omega), stackPop_of_pos h0]
    exact Agree.of_eq rfl

theorem opMload_agree (hf : f.stackSize ≤ 1024) :
    Agree (Optimized.opMload f) (Jumptable.opMload f) := by
  unfold Optimized.opMload Jumptable.opMload Jumptable.pushResult
  rcases Nat.lt_or_ge f.stackSize 1 with h0 | h0
  · rw [stackTop_of_le (by omega), stackPop_of_zero (by omega)]
    exact Agree.of_eq rfl
  rw [stackTop_of_lt h0, stackPop_of_pos h0, Nat.sub_zero]
  dsimp only
  rw [ensureMemory_stackSize f (f.stackSize - 1)]
  obtain ⟨mem, n, hg, -⟩ := ensureMemory_spec f (wordToU64 (f.stack (f.stackSize - 1)) % 2 ^ 32) 32
  rcases he : ensureMemory f (wordToU64 (f.stack (f.stackSize - 1)) % 2 ^ 32) 32 with ⟨_ | _, g⟩ <;>
    rw [he] at hg <;> subst hg <;> dsimp only
  · exact Agree.fail rfl
  · rw [stackPush_of_lt (by dsimp only; omega)]
    exact Agree.of_eq (by simp [Frame.ext_iff, Frame.loadWord]; omega)

/-- The memory stores: two operands, `ensure_memory`, a write. -/
theorem storeOp_agree (size : Nat) (bytes : Word → List UInt8) :
    Agree (match stackTop f 0, stackTop f 1 with
      | some o, some v =>
        let offset := wordToU64 (f.stack o) % 2 ^ 32
        match ensureMemory f offset size with
        | (false, g) => Optimized.fail g
        | (true, g) => (⟨1, 3⟩, (stackFree (g.writeMemory offset (bytes (g.stack v))) 2).2)
      | _, _ => Optimized.fail f)
    (match stackPop f with
      | none => Jumptable.fail f
      | some (offsetWord, f) =>
        match stackPop f with
        | none => Jumptable.fail f
        | some (value, f) =>
          let offset := wordToU64 offsetWord % 2 ^ 32
          match ensureMemory f offset size with
          | (false, g) => Jumptable.fail g
          | (true, g) => (⟨1, 3⟩, g.writeMemory offset (bytes value))) := by
  rcases Nat.lt_or_ge f.stackSize 1 with h0 | h0
  · rw [stackTop_of_le (by omega), stackPop_of_zero (by omega)]
    exact Agree.of_eq rfl
  rcases Nat.lt_or_ge f.stackSize 2 with h1 | h1
  · rw [stackTop_of_lt h0, stackTop_of_le (show f.stackSize ≤ 1 by omega), stackPop_of_pos h0]
    dsimp only
    rw [stackPop_of_zero (by dsimp only; omega)]
    exact Agree.fail rfl
  rw [stackTop_of_lt h0, stackTop_of_lt h1, stackPop_of_pos h0, Nat.sub_zero]
  dsimp only
  rw [stackPop_of_pos (by dsimp only; omega)]
  dsimp only
  rw [ensureMemory_stackSize f (f.stackSize - 1 - 1)]
  obtain ⟨mem, n, hg, -⟩ := ensureMemory_spec f (wordToU64 (f.stack (f.stackSize - 1)) % 2 ^ 32) size
  rcases he : ensureMemory f (wordToU64 (f.stack (f.stackSize - 1)) % 2 ^ 32) size with
    ⟨_ | _, g⟩ <;> rw [he] at hg <;> subst hg <;> dsimp only
  · exact Agree.fail rfl
  · exact Agree.of_eq (by simp [Frame.ext_iff, show ¬ f.stackSize < 2 by omega]; omega)

theorem opMstore_agree : Agree (Optimized.opMstore f) (Jumptable.opMstore f) :=
  storeOp_agree f 32 Bytes.toList

theorem opMstore8_agree : Agree (Optimized.opMstore8 f) (Jumptable.opMstore8 f) :=
  storeOp_agree f 1 fun value => [value.get 31]

theorem opJump_agree : Agree (Optimized.opJump f) (Jumptable.opJump f) := by
  unfold Optimized.opJump Jumptable.opJump
  rcases Nat.lt_or_ge f.stackSize 1 with h0 | h0
  · rw [stackTop_of_le (by omega), stackPop_of_zero (by omega)]
    exact Agree.of_eq rfl
  rw [stackTop_of_lt h0, stackPop_of_pos h0, Nat.sub_zero]
  dsimp only
  split_ifs with h1 h2 h2
  · exact Agree.of_eq (by simp [Frame.ext_iff, show ¬ f.stackSize < 1 by omega])
  · exact absurd h1 h2
  · exact absurd h2 h1
  · exact Agree.fail rfl

theorem opJumpi_agree : Agree (Optimized.opJumpi f) (Jumptable.opJumpi f) := by
  unfold Optimized.opJumpi Jumptable.opJumpi
  rcases Nat.lt_or_ge f.stackSize 1 with h0 | h0
  · rw [stackTop_of_le (by omega), stackPop_of_zero (by omega)]
    exact Agree.of_eq rfl
  rcases Nat.lt_or_ge f.stackSize 2 with h1 | h1
  · rw [stackTop_of_lt h0, stackTop_of_le (show f.stackSize ≤ 1 by omega), stackPop_of_pos h0]
    dsimp only
    rw [stackPop_of_zero (by dsimp only; omega)]
    exact Agree.fail rfl
  rw [stackTop_of_lt h0, stackTop_of_lt h1, stackPop_of_pos h0, Nat.sub_zero]
  dsimp only
  rw [stackPop_of_pos (by dsimp only; omega)]
  have hg : (stackFree f 2).2 = { f with stackSize := f.stackSize - 1 - 1 } := by
    simp [show ¬ f.stackSize < 2 by omega]; omega
  simp only [hg]
  split_ifs <;> exact Agree.of_eq rfl

theorem opPushN_agree (n : Nat) : Agree (Optimized.opPushN f n) (Jumptable.opPushN f n) := by
  unfold Optimized.opPushN Jumptable.opPushN
  rcases Nat.lt_or_ge f.stackSize 1024 with h | h
  · rw [stackAlloc_of_lt h, stackPush_of_lt h]
    exact Agree.of_eq rfl
  · rw [stackAlloc_of_le h, stackPush_of_le h]
    exact Agree.of_eq rfl

theorem opDupN_agree (n : Nat) : Agree (Optimized.opDupN f n) (Jumptable.opDupN f n) := by
  unfold Optimized.opDupN Jumptable.opDupN Jumptable.pushResult stackPeek
  cases stackTop f (n - 1) with
  | none => exact Agree.of_eq rfl
  | some source =>
    dsimp only
    rcases Nat.lt_or_ge f.stackSize 1024 with h | h
    · rw [stackAlloc_of_lt h, stackPush_of_lt h]
      exact Agree.of_eq rfl
    · rw [stackAlloc_of_le h, stackPush_of_le h]
      exact Agree.of_eq rfl


/-- `op_and`, `op_or` and `op_xor` of `evm_optimized` combine the operands the other way round,
which the commutativity of the byte operation makes immaterial. -/
theorem binaryOp_comm_agree {op : UInt8 → UInt8 → UInt8} (hop : ∀ x y, op x y = op y x)
    (cost : Int) (hf : f.stackSize ≤ 1024) :
    Agree (Optimized.binaryOp (fun a b => Bytes.zipWith op b a) cost f)
      (Jumptable.binaryOp (Bytes.zipWith op) cost f) := by
  have hswap : (fun a b : Word => Bytes.zipWith op b a) = Bytes.zipWith op :=
    funext fun a => funext fun b => Bytes.zipWith_comm hop b a
  rw [hswap]
  exact binaryOp_agree f _ cost hf

end Handlers

/-! ## 2. The two tables -/

/-- The `evm_jumptable` entry at the index of an `evm_optimized` entry: the same handler, and
`op_stub` for `op_sload` and `op_sstore`. -/
def Optimized.Handler.toJumptable : Optimized.Handler → Jumptable.Handler
  | .stop => .stop | .add => .add | .mul => .mul | .sub => .sub | .div => .div
  | .mod => .mod | .lt => .lt | .gt => .gt | .eq => .eq | .iszero => .iszero
  | .and => .and | .or => .or | .xor => .xor | .not => .not | .pop => .pop
  | .mload => .mload | .mstore => .mstore | .mstore8 => .mstore8
  | .sload => .stub | .sstore => .stub | .jump => .jump | .jumpi => .jumpi
  | .pc => .pc | .gas => .gas | .jumpdest => .jumpdest | .push0 => .push0
  | .push n => .push n | .dup n => .dup n | .swap n => .swap n | .stub => .stub
  | .invalid => .invalid

theorem Optimized.jumpTable_toJumptable :
    Optimized.jumpTable.map Optimized.Handler.toJumptable = Jumptable.jumpTable := by
  set_option maxRecDepth 4000 in rfl

theorem Optimized.Handler.exec_agree (h : Optimized.Handler) (hs : h.isStorage = false)
    (f : Frame) (hf : f.stackSize ≤ 1024) : Agree (h.exec f) (h.toJumptable.exec f) := by
  cases h <;> dsimp only [Optimized.Handler.exec, Jumptable.Handler.exec,
    Optimized.Handler.toJumptable] <;> try exact Agree.of_eq rfl
  case add | mul | sub | div | mod | lt | gt | eq => exact binaryOp_agree f _ _ hf
  case iszero | not => exact unaryOp_agree f _ _ hf
  case and => exact binaryOp_comm_agree f uint8_and_comm _ hf
  case or => exact binaryOp_comm_agree f uint8_or_comm _ hf
  case xor => exact binaryOp_comm_agree f uint8_xor_comm _ hf
  case pop => exact opPop_agree f
  case mload => exact opMload_agree f hf
  case mstore => exact opMstore_agree f
  case mstore8 => exact opMstore8_agree f
  case sload | sstore => cases hs
  case jump => exact opJump_agree f
  case jumpi => exact opJumpi_agree f
  case pc | gas | push0 => exact pushOp_agree f _ _ rfl
  case push n => exact opPushN_agree f n
  case dup n => exact opDupN_agree f n

/-- Away from `0x44` and `0x45` the two tables dispatch to handlers that agree. -/
theorem dispatch_agree {opcode : UInt8} (h44 : opcode ≠ 0x44) (h45 : opcode ≠ 0x45) (f : Frame)
    (hf : f.stackSize ≤ 1024) : Agree (Optimized.dispatch opcode f) (Jumptable.dispatch opcode f) := by
  unfold Optimized.dispatch Jumptable.dispatch
  rw [← Optimized.jumpTable_toJumptable,
    show Jumptable.Handler.stub = Optimized.Handler.toJumptable .stub from rfl, List.getD_map]
  exact (Optimized.jumpTable.getD opcode.toNat .stub).exec_agree
    (Optimized.isStorage_getD h44 h45) f hf

/-! ## 3. Runs in lock-step -/

/-- Two passes of the loop that agree: the same pass, or both halted in a handler error (a halt
for a reason other than `INSUFFICIENT_GAS`) with the same upcalls and frames that differ at most
in `stack_size`. -/
inductive IterationAgree : Iteration → Iteration → Prop
  | same (it : Iteration) : IterationAgree it it
  | failed {g₁ g₂ : Frame} {events : List TraceEvent} (h4 : g₁.state = 4)
      (h1 : g₁.haltReason ≠ 1) (hg : { g₁ with stackSize := 0 } = { g₂ with stackSize := 0 }) :
      IterationAgree (.halt g₁ events) (.halt g₂ events)

/-- Two runs that agree: the same upcalls, and the same final frame unless both were halted by a
handler error, in which case the frames may differ in `stack_size` only. -/
def RunAgree (p q : Frame × List TraceEvent) : Prop :=
  p.2 = q.2 ∧
    (p.1 = q.1 ∨ (p.1.state = 4 ∧ p.1.haltReason ≠ 1 ∧
      { p.1 with stackSize := 0 } = { q.1 with stackSize := 0 }))

/-- Loops whose passes agree, from frames an invariant `P` of the first loop holds in, make
runs that agree. -/
theorem runLoop_agree {body₁ body₂ : Frame → Iteration} (P : Frame → Prop)
    (hagree : ∀ f, P f → f.running → IterationAgree (body₁ f) (body₂ f))
    (hnext : ∀ f g events, P f → f.running → body₁ f = .next g events → P g) :
    ∀ n f, P f → RunAgree (runLoop body₁ n f) (runLoop body₂ n f) := by
  intro n
  induction n with
  | zero => intro _ _; exact ⟨rfl, .inl rfl⟩
  | succ n ih =>
    intro f hf
    by_cases hr : f.running
    · have h := hagree f hf hr
      generalize hb₁ : body₁ f = i₁ at h
      generalize hb₂ : body₂ f = i₂ at h
      cases h with
      | same =>
        cases i₁ with
        | halt g events =>
          rw [runLoop_succ_halt hr hb₁, runLoop_succ_halt hr hb₂]
          exact ⟨rfl, .inl rfl⟩
        | next g events =>
          rw [runLoop_succ_next hr hb₁, runLoop_succ_next hr hb₂]
          obtain ⟨hevents, hfinal⟩ := ih g (hnext f g events hf hr hb₁)
          exact ⟨congrArg (events ++ ·) hevents, hfinal⟩
      | failed h4 h1 hg =>
        rw [runLoop_succ_halt hr hb₁, runLoop_succ_halt hr hb₂]
        exact ⟨rfl, .inr ⟨h4, h1, hg⟩⟩
    · rw [runLoop_succ_of_not_running hr, runLoop_succ_of_not_running hr]
      exact ⟨rfl, .inl rfl⟩

section Lockstep

variable {d₁ d₂ : UInt8 → Frame → OpResult × Frame} (hasTracer : Bool)

/-- Handler calls that agree make passes that agree, when no handler halt reports
`INSUFFICIENT_GAS`. -/
theorem dispatchStep_agree {c : Frame → Prop} (hc : ∀ g, c g → g.haltReason ≠ 1) (f : Frame)
    (hr : f.running)
    (he : Effect c f (d₁ (f.codeAt f.pc) f).1 (d₁ (f.codeAt f.pc) f).2)
    (ha : Agree (d₁ (f.codeAt f.pc) f) (d₂ (f.codeAt f.pc) f)) :
    IterationAgree (dispatchStep d₁ hasTracer f) (dispatchStep d₂ hasTracer f) := by
  unfold dispatchStep
  generalize d₁ (f.codeAt f.pc) f = p at he ha
  generalize d₂ (f.codeAt f.pc) f = q at ha
  obtain ⟨r, g₁⟩ := p
  obtain ⟨r₂, g₂⟩ := q
  obtain ⟨hres, hframe, hfailed⟩ := ha
  dsimp only at hres hframe hfailed he ⊢
  subst hres
  by_cases hneg : r.pcIncrement < 0
  · have hg := hfailed hneg
    have hs : g₁.state = g₂.state := by have := congrArg Frame.state hg; exact this
    rw [if_pos hneg, if_pos hneg]
    by_cases h1 : g₁.state = 1
    · rw [if_pos h1, if_pos (hs ▸ h1)]
      exact .failed rfl (by simp [Frame.halt]) (congrArg (Frame.halt · 4) hg)
    · rw [if_neg h1, if_neg (hs ▸ h1)]
      rcases he.of_neg hneg with ⟨h, -⟩ | ⟨h4, -, -, hcause⟩
      · exact absurd (h.trans hr.2) h1
      · exact .failed h4 (hc g₁ hcause) hg
  · obtain rfl := hframe (by omega)
    exact .same _

theorem loopBody_agree {c : Frame → Prop} (hc : ∀ g, c g → g.haltReason ≠ 1) (f : Frame)
    (hr : f.running)
    (he : Effect c f (d₁ (f.codeAt f.pc) f).1 (d₁ (f.codeAt f.pc) f).2)
    (ha : Agree (d₁ (f.codeAt f.pc) f) (d₂ (f.codeAt f.pc) f)) :
    IterationAgree (loopBody d₁ hasTracer f) (loopBody d₂ hasTracer f) := by
  unfold loopBody
  split
  · exact .same _
  · exact dispatchStep_agree hasTracer hc f hr he ha

end Lockstep

/-- A pass that goes back to the loop test keeps the code and at most 1024 stack items. -/
theorem loopBody_next_frame {dispatch : UInt8 → Frame → OpResult × Frame}
    {cause : UInt8 → Frame → Frame → Prop}
    (hd : ∀ opcode f, Effect (cause opcode f) f (dispatch opcode f).1 (dispatch opcode f).2)
    (hasTracer : Bool) {f g : Frame} {events : List TraceEvent} (hf : f.stackSize ≤ 1024)
    (hb : loopBody dispatch hasTracer f = .next g events) :
    g.stackSize ≤ 1024 ∧ g.code = f.code := by
  rcases loopBody_spec dispatch hasTracer f with ⟨-, hs⟩ | ⟨-, hs⟩ <;> rw [hs] at hb
  · cases hb
  obtain ⟨r, h, he, ⟨-, hs'⟩ | ⟨-, -, hs'⟩ | ⟨-, -, hs'⟩⟩ :=
    dispatchStep_spec dispatch hasTracer f <;> rw [hs'] at hb <;> cases hb
  have he' := effect_of_dispatch hd he
  have := he'.stackSize
  exact ⟨by simp only [Frame.advance, Frame.charge]; omega, by simp [he'.code]⟩

/-! ## 4. Whole runs -/

/-- No handler halt of either build reports `INSUFFICIENT_GAS`. -/
theorem Build.haltCause_ne_one {b : Build} {opcode : UInt8} {f g : Frame}
    (h : b.haltCause opcode f g) : g.haltReason ≠ 1 := by
  rcases Build.haltCause_opcode h with ⟨h3, -⟩ | ⟨h2, -⟩ | ⟨-, -, ⟨rfl, -⟩ | ⟨rfl, -⟩⟩
  · omega
  · omega
  · simp [Frame.halt]
  · simp [Frame.halt]

theorem runLoop_builds_agree (hasTracer : Bool) :
    ∀ n f, f.stackSize ≤ 1024 → 0x44 ∉ f.code → 0x45 ∉ f.code →
      RunAgree (runLoop (loopBody Build.optimized.dispatch hasTracer) n f)
        (runLoop (loopBody Build.jumptable.dispatch hasTracer) n f) := by
  intro n f hf h44 h45
  refine runLoop_agree (fun f => f.stackSize ≤ 1024 ∧ 0x44 ∉ f.code ∧ 0x45 ∉ f.code)
    (fun f ⟨hs, h4, h5⟩ hr => loopBody_agree hasTracer (fun _ => Build.haltCause_ne_one) f hr
      (Build.dispatch_effect .optimized _ f)
      (dispatch_agree (f.codeAt_ne h4 (by decide) _) (f.codeAt_ne h5 (by decide) _) f hs))
    (fun f g events ⟨hs, h4, h5⟩ _ hb => ?_) n f ⟨hf, h44, h45⟩
  obtain ⟨hs', hcode⟩ := loopBody_next_frame (Build.dispatch_effect .optimized) hasTracer hs hb
  exact ⟨hs', hcode ▸ h4, hcode ▸ h5⟩

/-- `PUSH1 1; ADD` with one operand: `evm_optimized` fails before touching the stack,
`evm_jumptable` after popping its first operand. -/
example :
    (Build.optimized.executeMessage false (Frame.scenario [0x60, 0x01, 0x01] 100)).1.stackSize = 1 ∧
    (Build.jumptable.executeMessage false (Frame.scenario [0x60, 0x01, 0x01] 100)).1.stackSize = 0 := by
  decide

/-- `PUSH0; 0x44; STOP`: `evm_optimized` runs `op_sload` at `0x44`, a cold read of an absent slot
for 2100 gas, where `evm_jumptable` runs `op_stub` for 3. -/
theorem prevrandao_opcode_diverges :
    (Build.optimized.executeMessage false (Frame.scenario [0x5f, 0x44, 0x00] 10000)).1.gasRemaining
      = 7898 ∧
    (Build.jumptable.executeMessage false (Frame.scenario [0x5f, 0x44, 0x00] 10000)).1.gasRemaining
      = 9995 := by
  decide

/-! ## 5. The three interpreters -/

end NativeEvm
