import NativeEvm.Optimized.Effect
import NativeEvm.Jumptable.Effect

/-!
# Build — the two builds side by side

`evm_optimized` and `evm_jumptable` share `execute_message` and differ in their handler table.
`Build` names the two, so that a law of the loop is stated once for both; `Build.dispatch_effect`
is the effect contract of either table, and `Build.haltCause_opcode` says which opcodes a handler
halt can come from.
-/

namespace NativeEvm

/-! ## 1. Finding table entries -/

/-- The indices, counted from `i`, of the entries of a list that satisfy `p`. -/
def positions {α : Type} (p : α → Bool) : List α → Nat → List Nat
  | [], _ => []
  | a :: l, i => if p a then i :: positions p l (i + 1) else positions p l (i + 1)

/-- An entry that satisfies `p`, read with a default that does not, is at one of the
`positions`. -/
theorem mem_positions_of_getD {α : Type} {p : α → Bool} {d : α} (hd : p d = false) :
    ∀ (l : List α) (i n : Nat), p (l.getD n d) = true → i + n ∈ positions p l i := by
  intro l
  induction l with
  | nil => intro i n h; simp [hd] at h
  | cons a l ih =>
    intro i n h
    cases n with
    | zero => simp_all [positions]
    | succ n =>
      have := ih (i + 1) n (by simpa using h)
      rw [show i + (n + 1) = i + 1 + n by omega]
      unfold positions
      split <;> simp [this]

theorem Optimized.jumpTable_halts :
    positions Handler.halts jumpTable 0 = [0x45, 0x56, 0x57, 0xfd, 0xfe, 0xff] := by
  set_option maxRecDepth 2000 in decide

theorem Jumptable.jumpTable_halts :
    positions Handler.halts jumpTable 0 = [0x56, 0x57, 0xfd, 0xfe, 0xff] := by
  set_option maxRecDepth 2000 in decide

/-! ## 2. The two builds -/

/-- The two builds of the interpreter. -/
inductive Build where
  | optimized
  | jumptable
  deriving DecidableEq, Repr

/-- `JUMP_TABLE[opcode](&ctx)` of a build. -/
def Build.dispatch : Build → UInt8 → Frame → OpResult × Frame
  | .optimized => Optimized.dispatch
  | .jumptable => Jumptable.dispatch

/-- `execute_message` of a build. -/
def Build.executeMessage : Build → Bool → Frame → Frame × List TraceEvent
  | .optimized => Optimized.executeMessage
  | .jumptable => Jumptable.executeMessage

theorem Build.executeMessage_eq (b : Build) :
    b.executeMessage = NativeEvm.executeMessage b.dispatch := by
  cases b <;> rfl

/-- The halts the handler at `opcode` makes itself, from frame `f`. -/
def Build.haltCause : Build → UInt8 → Frame → Frame → Prop
  | .optimized, opcode, f => (Optimized.jumpTable.getD opcode.toNat .stub).haltCause f
  | .jumptable, opcode, _ => (Jumptable.jumpTable.getD opcode.toNat .stub).haltCause

theorem Build.dispatch_effect (b : Build) (opcode : UInt8) (f : Frame) :
    Effect (b.haltCause opcode f) f (b.dispatch opcode f).1 (b.dispatch opcode f).2 := by
  cases b
  exacts [Optimized.dispatch_effect opcode f, Jumptable.dispatch_effect opcode f]

/-- A handler halt comes from `JUMP`/`JUMPI` with reason 3, from `INVALID` (`0xfd..0xff`) with
reason 2, or from `op_sstore`, which `evm_optimized` places at `0x45`: reason 6 in a static
frame, 2 when the storage plane is full. -/
theorem Build.haltCause_opcode {b : Build} {opcode : UInt8} {f g : Frame}
    (h : b.haltCause opcode f g) :
    (g.haltReason = 3 ∧ (opcode = 0x56 ∨ opcode = 0x57)) ∨ (g.haltReason = 2 ∧ 0xfd ≤ opcode) ∨
    (b = .optimized ∧ opcode = 0x45 ∧ ((g = f.halt 6 ∧ f.isStatic ≠ 0) ∨
      (g = f.halt 2 ∧ f.maxStorageSlots ≤ f.storage.length))) := by
  have hlt := opcode.toNat_lt_size
  cases b with
  | optimized =>
    have hm := mem_positions_of_getD rfl _ 0 _ (Optimized.Handler.halts_of_haltCause h)
    rw [Optimized.jumpTable_halts, Nat.zero_add] at hm
    simp only [List.mem_cons, List.mem_singleton, List.not_mem_nil, or_false] at hm
    rcases hm with hn | hn | hn | hn | hn | hn <;> simp only [Build.haltCause, hn] at h
    · exact .inr (.inr ⟨rfl, UInt8.toNat.inj hn, h⟩)
    · exact .inl ⟨h, .inl (UInt8.toNat.inj hn)⟩
    · exact .inl ⟨h, .inr (UInt8.toNat.inj hn)⟩
    all_goals exact .inr (.inl ⟨h, show 0xfd ≤ opcode.toNat by omega⟩)
  | jumptable =>
    have hm := mem_positions_of_getD rfl _ 0 _ (Jumptable.Handler.halts_of_haltCause h)
    rw [Jumptable.jumpTable_halts, Nat.zero_add] at hm
    simp only [List.mem_cons, List.mem_singleton, List.not_mem_nil, or_false] at hm
    rcases hm with hn | hn | hn | hn | hn <;> simp only [Build.haltCause, hn] at h
    · exact .inl ⟨h, .inl (UInt8.toNat.inj hn)⟩
    · exact .inl ⟨h, .inr (UInt8.toNat.inj hn)⟩
    all_goals exact .inr (.inl ⟨h, show 0xfd ≤ opcode.toNat by omega⟩)

end NativeEvm
