import NativeEvm.Loop

/-!
# Effect — what one handler call may change

The loop only relies on a few facts about the handlers it dispatches: they never touch
`gas_remaining`; they set `state` and `halt_reason` only to halt (with a negative increment) or,
for `STOP`, to complete; they move `pc` only to a checked jump destination; they ask the loop to
advance `pc` by at most 33 bytes (`PUSH32` and its immediate); they grow the stack by at most one
item below 1024 and memory only through `ensure_memory`; and they leave the code alone.  `Effect cause f r g` collects these for a call `(r, g) = handler f`, where `cause` says
which halts the handler may make; each build proves it of its whole table
(`Optimized.dispatch_effect`, `Jumptable.dispatch_effect`), and every run-level theorem is derived
from it.
-/

namespace NativeEvm

/-- How a handler call may change `state` and `halt_reason`: not at all (and a call that
succeeds costs gas), an exceptional halt for a `cause` with a reason in `1..7` and a negative
increment, or `STOP`'s completion at no cost. -/
inductive Status (cause : Frame → Prop) (f : Frame) (r : OpResult) (g : Frame) : Prop
  | keep (hstate : g.state = f.state) (hreason : g.haltReason = f.haltReason)
      (hcost : 0 ≤ r.pcIncrement → 1 ≤ r.gasCost)
  | halt (hstate : g.state = 4) (hpos : 0 < g.haltReason) (hle : g.haltReason ≤ 7)
      (hinc : r.pcIncrement < 0) (hcause : cause g)
  | stop (hstate : g.state = 7) (hreason : g.haltReason = f.haltReason) (hr : r = ⟨0, 0⟩)

/-- What a handler call `(r, g) = handler f` may change. -/
structure Effect (cause : Frame → Prop) (f : Frame) (r : OpResult) (g : Frame) : Prop where
  gasRemaining : g.gasRemaining = f.gasRemaining
  status : Status cause f r g
  pc : g.pc = f.pc ∨ (r.pcIncrement = 0 ∧ ∃ dest < f.codeSize.toNat, g.pc = toInt32 dest)
  stackSize : g.stackSize ≤ f.stackSize ∨ (g.stackSize = f.stackSize + 1 ∧ f.stackSize < 1024)
  memorySize : g.memorySize = f.memorySize ∨
    (f.memorySize < g.memorySize ∧ g.memorySize % 32 = 0 ∧ g.memorySize ≤ memoryLimit)
  code : g.code = f.code
  codeSize : g.codeSize = f.codeSize
  increment : r.pcIncrement ≤ 33

/-! ## 1. The building blocks -/

variable {cause : Frame → Prop}

/-- `ensure_memory` changes only `memory` and `memory_size`, and grows the latter, if at all, to a
multiple of 32 within the ceiling. -/
theorem ensureMemory_spec (f : Frame) (offset size : Nat) :
    ∃ memory memorySize, (ensureMemory f offset size).2 = { f with memory, memorySize } ∧
      (memorySize = f.memorySize ∨
        (f.memorySize < memorySize ∧ memorySize % 32 = 0 ∧ memorySize ≤ memoryLimit)) := by
  unfold ensureMemory
  dsimp only
  split_ifs with h0 h1 h2 h3
  · exact ⟨f.memory, f.memorySize, rfl, .inl rfl⟩
  · exact ⟨f.memory, f.memorySize, rfl, .inl rfl⟩
  · refine ⟨_, _, rfl, .inr ⟨h3, ?_, by omega⟩⟩
    rw [Nat.mod_mod_of_dvd _ (by decide : 32 ∣ 2 ^ 32)]
    exact Nat.mul_mod_left _ _
  · exact ⟨f.memory, f.memorySize, rfl, .inl rfl⟩
  · exact ⟨f.memory, f.memorySize, rfl, .inl rfl⟩

/-- A handler that leaves the frame as it is. -/
theorem Effect.of_eq {f : Frame} {r : OpResult} (hcost : 0 ≤ r.pcIncrement → 1 ≤ r.gasCost)
    (hinc : r.pcIncrement ≤ 33) : Effect cause f r f :=
  ⟨rfl, .keep rfl rfl hcost, .inl rfl, .inl (Nat.le_refl _), .inl rfl, rfl, rfl, hinc⟩

/-- A handler that keeps `state`, `halt_reason`, `pc` and the code. -/
theorem Effect.keep {f g : Frame} {r : OpResult} (hgas : g.gasRemaining = f.gasRemaining)
    (hstate : g.state = f.state) (hreason : g.haltReason = f.haltReason) (hpc : g.pc = f.pc)
    (hcode : g.code = f.code) (hcodeSize : g.codeSize = f.codeSize)
    (hcost : 0 ≤ r.pcIncrement → 1 ≤ r.gasCost) (hinc : r.pcIncrement ≤ 33)
    (hstack : g.stackSize ≤ f.stackSize ∨ (g.stackSize = f.stackSize + 1 ∧ f.stackSize < 1024))
    (hmem : g.memorySize = f.memorySize ∨
      (f.memorySize < g.memorySize ∧ g.memorySize % 32 = 0 ∧ g.memorySize ≤ memoryLimit)) :
    Effect cause f r g :=
  ⟨hgas, .keep hstate hreason hcost, .inl hpc, hstack, hmem, hcode, hcodeSize, hinc⟩

/-- A handler that halts with `reason`, one its `cause` allows. -/
theorem Effect.halt {f : Frame} {reason : Nat} (hpos : 0 < reason) (hle : reason ≤ 7)
    (hcause : cause (f.halt reason)) : Effect cause f ⟨-1, 0⟩ (f.halt reason) :=
  ⟨rfl, .halt rfl hpos hle (by decide) hcause, .inl rfl, .inl (Nat.le_refl _), .inl rfl, rfl, rfl,
    by decide⟩

/-- `Status` only reads `state` and `halt_reason` of the frame before the call. -/
theorem Status.of_eq {f f' g : Frame} {r : OpResult} (h : Status cause f' r g)
    (hstate : f'.state = f.state) (hreason : f'.haltReason = f.haltReason) :
    Status cause f r g := by
  cases h with
  | keep h1 h2 h3 => exact .keep (h1.trans hstate) (h2.trans hreason) h3
  | halt h1 h2 h3 h4 h5 => exact .halt h1 h2 h3 h4 h5
  | stop h1 h2 h3 => exact .stop h1 (h2.trans hreason) h3

/-- A handler that pops before doing the rest keeps the effect of the rest. -/
theorem Effect.of_pop {f f' g : Frame} {w : Word} {r : OpResult} (hpop : stackPop f = some (w, f'))
    (h : Effect cause f' r g) : Effect cause f r g := by
  unfold stackPop at hpop
  split_ifs at hpop with h0
  cases hpop
  obtain ⟨hgas, hstatus, hpc, hstack, hmem, hcode, hcodeSize, hinc⟩ := h
  exact ⟨hgas, hstatus.of_eq rfl rfl, hpc, by simp at hstack; omega, hmem, hcode, hcodeSize, hinc⟩

/-- Two growths of `memory_size` in a row are one. -/
theorem memorySize_grows_trans {a b c : Nat}
    (hab : b = a ∨ (a < b ∧ b % 32 = 0 ∧ b ≤ memoryLimit))
    (hbc : c = b ∨ (b < c ∧ c % 32 = 0 ∧ c ≤ memoryLimit)) :
    c = a ∨ (a < c ∧ c % 32 = 0 ∧ c ≤ memoryLimit) := by
  omega

/-- A handler that grows memory before doing the rest keeps the effect of the rest. -/
theorem Effect.of_ensureMemory {f g k : Frame} {offset size : Nat} {ok : Bool} {r : OpResult}
    (he : ensureMemory f offset size = (ok, g)) (h : Effect cause g r k) : Effect cause f r k := by
  obtain ⟨memory, memorySize, hg, hn⟩ := ensureMemory_spec f offset size
  rw [he] at hg
  subst hg
  obtain ⟨hgas, hstatus, hpc, hstack, hmem, hcode, hcodeSize, hinc⟩ := h
  exact ⟨hgas, hstatus.of_eq rfl rfl, hpc, hstack, memorySize_grows_trans hn hmem, hcode, hcodeSize,
    hinc⟩

/-- A write to memory within the size `ensure_memory` made. -/
theorem Effect.writeMemory {f : Frame} {offset : Nat} {bytes : List UInt8} {r : OpResult}
    (hcost : 0 ≤ r.pcIncrement → 1 ≤ r.gasCost) (hinc : r.pcIncrement ≤ 33) :
    Effect cause f r (f.writeMemory offset bytes) :=
  Effect.keep rfl rfl rfl rfl rfl rfl hcost hinc (.inl (Nat.le_refl _)) (.inl rfl)

/-! ## 2. What the loop reads off an effect -/

section Loop

variable {f g : Frame} {r : OpResult}

/-- A call without an error from an executing frame either keeps executing, at a cost of at
least one, or is `STOP`'s completion at no cost; either way `halt_reason` is untouched. -/
theorem Effect.of_nonneg (h : Effect cause f r g) (hs : f.state = 1) (hinc : 0 ≤ r.pcIncrement) :
    g.haltReason = f.haltReason ∧ ((g.state = 1 ∧ 1 ≤ r.gasCost) ∨ (g.state = 7 ∧ r.gasCost = 0)) := by
  cases h.status with
  | keep h1 h2 h3 => exact ⟨h2, .inl ⟨h1.trans hs, h3 hinc⟩⟩
  | halt _ _ _ h4 => omega
  | stop h1 h2 h3 => exact ⟨h2, .inr ⟨h1, by rw [h3]⟩⟩

/-- A call with an error either left `state` and `halt_reason` alone or halted for its
`cause`. -/
theorem Effect.of_neg (h : Effect cause f r g) (hinc : r.pcIncrement < 0) :
    (g.state = f.state ∧ g.haltReason = f.haltReason) ∨
    (g.state = 4 ∧ 0 < g.haltReason ∧ g.haltReason ≤ 7 ∧ cause g) := by
  cases h.status with
  | keep h1 h2 => exact .inl ⟨h1, h2⟩
  | halt h1 h2 h3 _ h5 => exact .inr ⟨h1, h2, h3, h5⟩
  | stop _ _ h3 => subst h3; exact absurd hinc (by decide)

/-- A call with an error leaves `pc` where it was. -/
theorem Effect.pc_of_neg (h : Effect cause f r g) (hinc : r.pcIncrement < 0) : g.pc = f.pc :=
  h.pc.resolve_right fun ⟨h0, _⟩ => by omega

end Loop

end NativeEvm
