import NativeEvm.HaltReasons

/-!
# Storage opcodes — where `evm_optimized` puts `op_sload` and `op_sstore`

`JUMP_TABLE` of `evm_optimized` has `op_sload` and `op_sstore` in its row `0x40`–`0x47`, at
`0x44` and `0x45`, while `0x54` (`SLOAD`) and `0x55` (`SSTORE`) are `op_stub`.  So a program's
`SSTORE k v; SLOAD k` stores nothing and leaves `k` on the stack, and `0x44`/`0x45` read and
write storage, the latter halting a static frame with `ILLEGAL_STATE_CHANGE`.

The handlers themselves behave as `SLOAD` and `SSTORE` should: over the map
`Storage.load` that the plane stands for, `op_sload` reads and `op_sstore` writes one point, so a
load after a store of the same key reads the stored value.  Their prices do not follow the
warm/cold reading of an absent key, though: `op_sload` enters nothing for it, and `op_sstore`
appends it at a flat 20000 with the value as original; and a clear refunds 4800 on every store of
zero over a nonzero current value, so refunds for one slot add up.  Every other handler leaves the
plane and `gas_refund` alone, so a run of code without `0x44` and `0x45` never touches storage.
-/

namespace NativeEvm

/-! ## 1. The storage entries of the table -/

/-- The storage handlers, which only `evm_optimized` has. -/
def Optimized.Handler.isStorage : Optimized.Handler → Bool
  | .sload | .sstore => true
  | _ => false

theorem Optimized.jumpTable_storage :
    positions Optimized.Handler.isStorage Optimized.jumpTable 0 = [0x44, 0x45] := by
  set_option maxRecDepth 2000 in decide

/-- Every opcode but `0x44` and `0x45` dispatches to a handler other than `op_sload` and
`op_sstore`. -/
theorem Optimized.isStorage_getD {opcode : UInt8} (h44 : opcode ≠ 0x44) (h45 : opcode ≠ 0x45) :
    (Optimized.jumpTable.getD opcode.toNat .stub).isStorage = false := by
  by_contra h
  have hm := mem_positions_of_getD rfl _ 0 _ (Bool.not_eq_false _ ▸ h)
  rw [Optimized.jumpTable_storage, Nat.zero_add] at hm
  simp only [List.mem_cons, List.mem_singleton, List.not_mem_nil, or_false] at hm
  rcases hm with hn | hn
  exacts [h44 (UInt8.toNat.inj hn), h45 (UInt8.toNat.inj hn)]

/-- `PUSH1 0x2a; PUSH1 7; SSTORE; PUSH1 7; SLOAD; STOP`: store 42 at key 7, load key 7. -/
def storeThenLoad : List UInt8 := [0x60, 0x2a, 0x60, 0x07, 0x55, 0x60, 0x07, 0x54, 0x00]

/-- `SSTORE` and `SLOAD` are `op_stub` in `evm_optimized`: the round trip completes with nothing
stored and the key 7, not the value 42, on top of three stack items. -/
theorem sload_after_sstore_reads_key :
    (Build.optimized.executeMessage false (Frame.scenario storeThenLoad 50000)).1.state = 7 ∧
    (Build.optimized.executeMessage false (Frame.scenario storeThenLoad 50000)).1.storage = [] ∧
    (Build.optimized.executeMessage false (Frame.scenario storeThenLoad 50000)).1.stackSize = 3 ∧
    (Build.optimized.executeMessage false (Frame.scenario storeThenLoad 50000)).1.stack 2 =
      u64ToWord 7 := by
  decide

/-- `0x45` (`GASLIMIT`) is `op_sstore` in `evm_optimized`: it halts a static frame with
`ILLEGAL_STATE_CHANGE`, and in a non-static one `PUSH0; PUSH0; 0x45; STOP` appends a storage
entry. -/
theorem gaslimit_opcode_writes_storage :
    (Build.optimized.executeMessage false { Frame.scenario [0x45] 100 with isStatic := 1 }).1.state
      = 4 ∧
    (Build.optimized.executeMessage false
      { Frame.scenario [0x45] 100 with isStatic := 1 }).1.haltReason = 6 ∧
    (Build.optimized.executeMessage false
      (Frame.scenario [0x5f, 0x5f, 0x45, 0x00] 30000)).1.state = 7 ∧
    (Build.optimized.executeMessage false
      (Frame.scenario [0x5f, 0x5f, 0x45, 0x00] 30000)).1.storage.length = 1 := by
  decide

/-! ## 2. The storage handlers over the map -/

/-- What `op_sstore` from `f` does to a map `s`: the value below the top is stored at the key on
top, in `f`'s account. -/
def Frame.sstoreMap (f : Frame) (s : Address → Word → Word) : Address → Word → Word :=
  fun address key =>
    if address = f.contract ∧ key = f.stack (f.stackSize - 1) then f.stack (f.stackSize - 2)
    else s address key

/-- `op_sload` replaces the key on top by the value the map holds for it, keeps the stack height,
and changes the map nowhere (it only warms the entry). -/
theorem opSload_spec (f : Frame) (h : 0 < f.stackSize) :
    (Optimized.opSload f).1.pcIncrement = 1 ∧ (Optimized.opSload f).2.stackSize = f.stackSize ∧
    (Optimized.opSload f).2.stack (f.stackSize - 1) =
      Storage.load f.storage f.contract (f.stack (f.stackSize - 1)) ∧
    Storage.load (Optimized.opSload f).2.storage = Storage.load f.storage := by
  unfold Optimized.opSload
  rw [stackTop_of_lt h, Nat.sub_zero]
  dsimp only
  rcases hf : Storage.find f.storage f.contract (f.stack (f.stackSize - 1)) with _ | ⟨i, entry⟩
  · simp [Storage.load, hf]
  · obtain ⟨-, ha, hk⟩ := Storage.find_eq_some hf
    dsimp only
    refine ⟨rfl, rfl, by simp [Storage.load, hf], funext fun address => funext fun key => ?_⟩
    by_cases hs : address = f.contract ∧ key = f.stack (f.stackSize - 1)
    · obtain ⟨rfl, rfl⟩ := hs
      rw [Storage.load_set_self { entry with isWarm := 1 } hf ha hk]
      simp [Storage.load, hf]
    · exact Storage.load_set_other { entry with isWarm := 1 } hf ha hk hs

theorem opSload_stackSize_pos {f : Frame} (h : 0 ≤ (Optimized.opSload f).1.pcIncrement) :
    0 < f.stackSize := by
  unfold Optimized.opSload at h
  rcases Nat.eq_zero_or_pos f.stackSize with h0 | h0
  · rw [stackTop_of_le (by omega)] at h
    simp [Optimized.fail] at h
  · exact h0

/-- Everything `op_sstore` can do: halt a static frame, fail on fewer than two items, halt on a
full plane at an absent key, append the absent key warm with the value as current and original,
or rewrite the entry found in place.  The key is the word on top, the value the one below. -/
theorem opSstore_cases (f : Frame) :
    (f.isStatic ≠ 0 ∧ Optimized.opSstore f = Optimized.fail (f.halt 6)) ∨
    (f.isStatic = 0 ∧ f.stackSize < 2 ∧ Optimized.opSstore f = Optimized.fail f) ∨
    (f.isStatic = 0 ∧ 2 ≤ f.stackSize ∧
      Storage.find f.storage f.contract (f.stack (f.stackSize - 1)) = none ∧
      f.maxStorageSlots ≤ f.storage.length ∧
      Optimized.opSstore f = Optimized.fail (f.halt 2)) ∨
    (f.isStatic = 0 ∧ 2 ≤ f.stackSize ∧
      Storage.find f.storage f.contract (f.stack (f.stackSize - 1)) = none ∧
      f.storage.length < f.maxStorageSlots ∧
      Optimized.opSstore f = (⟨1, 20000⟩, { f with
        stackSize := f.stackSize - 2
        storage := f.storage ++ [{ Storage.newEntry f.contract (f.stack (f.stackSize - 1)) with
          value := f.stack (f.stackSize - 2), original := f.stack (f.stackSize - 2),
          isWarm := 1 }] })) ∨
    (f.isStatic = 0 ∧ 2 ≤ f.stackSize ∧ ∃ i e,
      Storage.find f.storage f.contract (f.stack (f.stackSize - 1)) = some (i, e) ∧
      Optimized.opSstore f = (⟨1, Optimized.sstoreGasCost (isZero (f.stack (f.stackSize - 2)))
          (isZero e.original) (isZero e.value) (e.isWarm ≠ 0)⟩, { f with
        stackSize := f.stackSize - 2
        gasRefund := f.gasRefund +
          if isZero (f.stack (f.stackSize - 2)) && !isZero e.value then 4800 else 0
        storage := f.storage.set i
          { e with value := f.stack (f.stackSize - 2), isWarm := 1 } })) := by
  unfold Optimized.opSstore
  by_cases hst : f.isStatic ≠ 0
  · exact .inl ⟨hst, if_pos hst⟩
  rw [if_neg hst]
  rw [ne_eq, not_not] at hst
  rcases Nat.lt_or_ge f.stackSize 2 with h1 | h1
  · rw [stackTop_of_le (show f.stackSize ≤ 1 by omega)]
    exact .inr (.inl ⟨hst, h1, by cases stackTop f 0 <;> rfl⟩)
  have h2 : ¬ f.stackSize < 2 := by omega
  rw [stackTop_of_lt (show 0 < f.stackSize by omega),
    stackTop_of_lt (show 1 < f.stackSize by omega), Nat.sub_zero,
    show f.stackSize - 1 - 1 = f.stackSize - 2 by omega]
  dsimp only
  rcases hf : Storage.find f.storage f.contract (f.stack (f.stackSize - 1)) with _ | ⟨i, e⟩
  · unfold Storage.add
    by_cases hfull : f.maxStorageSlots ≤ f.storage.length
    · exact .inr (.inr (.inl ⟨hst, h1, rfl, hfull, by rw [if_pos hfull]⟩))
    refine .inr (.inr (.inr (.inl ⟨hst, h1, rfl, by omega, ?_⟩)))
    rw [if_neg hfull]
    simp only [stackFree_snd, h2, if_false, List.set_append_right _ _ (le_refl _), Nat.sub_self,
      List.set_cons_zero]
  · exact .inr (.inr (.inr (.inr
      ⟨hst, h1, i, e, rfl, by simp only [stackFree_snd, h2, if_false]⟩)))

/-- A completed `op_sstore` writes the value below the top at the key on top, in the frame's own
account, and changes the map nowhere else. -/
theorem opSstore_spec (f : Frame) (h : 0 ≤ (Optimized.opSstore f).1.pcIncrement) :
    Storage.load (Optimized.opSstore f).2.storage = f.sstoreMap (Storage.load f.storage) := by
  rcases opSstore_cases f with ⟨-, he⟩ | ⟨-, -, he⟩ | ⟨-, -, -, -, he⟩ |
      ⟨-, -, hf, -, he⟩ | ⟨-, -, i, e, hf, he⟩ <;> rw [he] at h ⊢
  any_goals simp [Optimized.fail] at h
  · exact Storage.load_append _ hf rfl rfl
  · obtain ⟨-, ha, hk⟩ := Storage.find_eq_some hf
    exact Storage.load_set _ hf ha hk

/-- Read after write: once `op_sstore` has completed, `op_sload` of the same key in the same
account, from any frame holding the storage plane it left, reads the stored value. -/
theorem sload_reads_last_sstore (f g : Frame) (hs : 0 ≤ (Optimized.opSstore f).1.pcIncrement)
    (hg : g.storage = (Optimized.opSstore f).2.storage) (hc : g.contract = f.contract)
    (hpos : 0 < g.stackSize) (hk : g.stack (g.stackSize - 1) = f.stack (f.stackSize - 1)) :
    (Optimized.opSload g).2.stack (g.stackSize - 1) = f.stack (f.stackSize - 2) := by
  rw [(opSload_spec g hpos).2.2.1, hg, hc, hk, opSstore_spec f hs]
  exact if_pos ⟨rfl, rfl⟩

/-- Key 7 on top of value 42, in an empty plane. -/
def storeSevenFrame : Frame :=
  { Frame.scenario [] 100 with
    stackSize := 2
    stack := fun slot => if slot = 1 then u64ToWord 7 else u64ToWord 42 }

/-- Key 7 on top, over the plane `op_sstore` left. -/
def loadSevenFrame : Frame :=
  { (Optimized.opSstore storeSevenFrame).2 with
    stackSize := 1
    stack := fun _ => u64ToWord 7 }

theorem sload_reads_last_sstore_seven :
    0 ≤ (Optimized.opSstore storeSevenFrame).1.pcIncrement ∧
    (Optimized.opSload loadSevenFrame).2.stack (loadSevenFrame.stackSize - 1) =
      storeSevenFrame.stack (storeSevenFrame.stackSize - 2) :=
  ⟨by decide, sload_reads_last_sstore _ _ (by decide) rfl rfl (by decide) (by decide)⟩

/-! ## 3. Absent slots and refunds -/

/-- The spec's reading of an absent slot: `f` with the cold zero entry for `(contract, key)`
appended. -/
def Frame.withColdZero (f : Frame) (key : Word) : Frame :=
  { f with storage := f.storage ++ [Storage.newEntry f.contract key] }

section ColdZero

variable (f : Frame) (key : Word)

@[simp] theorem Frame.withColdZero_storage :
    (f.withColdZero key).storage = f.storage ++ [Storage.newEntry f.contract key] := rfl
@[simp] theorem Frame.withColdZero_stack : (f.withColdZero key).stack = f.stack := rfl
@[simp] theorem Frame.withColdZero_stackSize : (f.withColdZero key).stackSize = f.stackSize := rfl
@[simp] theorem Frame.withColdZero_contract : (f.withColdZero key).contract = f.contract := rfl

end ColdZero

/-- An absent slot is not a cold zero slot.  With the key `k` on top and no entry for it,
`op_sload` reads zero at 2100 from `f` and from `f.withColdZero k` alike, but enters nothing in
`f` while it warms the appended entry.  A non-static `op_sstore` of `v` with room for an entry
costs 20000 at the absent slot and appends it with `v` as original, while at the cold zero entry
it pays the EIP-2200 price of a cold slot whose original and current values are zero (2100 for
`v = 0`) and keeps the original 0. -/
theorem absent_slot_not_cold_zero (f : Frame)
    (hf : Storage.find f.storage f.contract (f.stack (f.stackSize - 1)) = none) :
    (0 < f.stackSize →
      (Optimized.opSload (f.withColdZero (f.stack (f.stackSize - 1)))).1 =
        (Optimized.opSload f).1 ∧
      (Optimized.opSload f).1.gasCost = 2100 ∧
      (Optimized.opSload (f.withColdZero (f.stack (f.stackSize - 1)))).2.stack =
        (Optimized.opSload f).2.stack ∧
      (Optimized.opSload f).2.storage = f.storage ∧
      (Optimized.opSload (f.withColdZero (f.stack (f.stackSize - 1)))).2.storage =
        f.storage ++ [{ Storage.newEntry f.contract (f.stack (f.stackSize - 1)) with isWarm := 1 }]) ∧
    (f.isStatic = 0 → 2 ≤ f.stackSize → f.storage.length < f.maxStorageSlots →
      (Optimized.opSstore f).1.gasCost = 20000 ∧
      (Optimized.opSstore (f.withColdZero (f.stack (f.stackSize - 1)))).1.gasCost =
        Optimized.sstoreGasCost (isZero (f.stack (f.stackSize - 2))) true true false ∧
      (Optimized.opSstore f).2.storage = f.storage ++
        [{ Storage.newEntry f.contract (f.stack (f.stackSize - 1)) with
            value := f.stack (f.stackSize - 2), original := f.stack (f.stackSize - 2), isWarm := 1 }] ∧
      (Optimized.opSstore (f.withColdZero (f.stack (f.stackSize - 1)))).2.storage = f.storage ++
        [{ Storage.newEntry f.contract (f.stack (f.stackSize - 1)) with
            value := f.stack (f.stackSize - 2), isWarm := 1 }]) := by
  have hcold : Storage.find (f.storage ++ [Storage.newEntry f.contract (f.stack (f.stackSize - 1))])
      f.contract (f.stack (f.stackSize - 1)) =
        some (f.storage.length, Storage.newEntry f.contract (f.stack (f.stackSize - 1))) := by
    rw [Storage.find, Storage.findFrom_append, ← Storage.find, hf]
    simp [Storage.newEntry]
  refine ⟨fun h0 => ?_, fun hst h2 hlt => ?_⟩
  · unfold Optimized.opSload
    simp only [Frame.withColdZero_stackSize, Frame.withColdZero_stack, Frame.withColdZero_contract,
      Frame.withColdZero_storage, stackTop_of_lt h0,
      stackTop_of_lt (show 0 < (f.withColdZero (f.stack (f.stackSize - 1))).stackSize from h0),
      Nat.sub_zero, hf, hcold]
    simp [Storage.newEntry, Frame.setStack]
  · rcases opSstore_cases f with ⟨hst', -⟩ | ⟨-, h1, -⟩ | ⟨-, -, -, hfull, -⟩ |
      ⟨-, -, -, -, he⟩ | ⟨-, -, i, e, hf', -⟩
    · exact absurd hst hst'
    · omega
    · omega
    · rcases opSstore_cases (f.withColdZero (f.stack (f.stackSize - 1))) with ⟨hst', -⟩ |
        ⟨-, h1, -⟩ | ⟨-, -, hf', -⟩ | ⟨-, -, hf', -⟩ | ⟨-, -, i, e, hf', he'⟩
      · exact absurd hst hst'
      · simp only [Frame.withColdZero_stackSize] at h1; omega
      · exact nomatch hcold.symm.trans hf'
      · exact nomatch hcold.symm.trans hf'
      · rw [Frame.withColdZero_storage, Frame.withColdZero_contract, Frame.withColdZero_stack,
          Frame.withColdZero_stackSize, hcold] at hf'
        cases hf'
        rw [he, he']
        have hz : isZero (Bytes.zero 32) = true := by decide
        refine ⟨rfl, ?_, rfl, ?_⟩ <;> simp [Storage.newEntry, hz]
    · exact nomatch hf.symm.trans hf'

/-- Key 0 on top of value 0, in an account whose plane has no entry for key 0. -/
def absentKeyFrame : Frame := { Frame.scenario [] 100 with stackSize := 2 }

theorem absent_slot_not_cold_zero_sstore :
    Storage.find absentKeyFrame.storage absentKeyFrame.contract
      (absentKeyFrame.stack (absentKeyFrame.stackSize - 1)) = none ∧
    (Optimized.opSstore absentKeyFrame).1.gasCost = 20000 :=
  ⟨rfl, ((absent_slot_not_cold_zero absentKeyFrame rfl).2 rfl (by decide) (by decide)).1⟩

/-- An absent slot is priced cold at every read, a cold zero entry only at the first; and an
`op_sstore` of zero costs 20000 at an absent slot, 2100 at a cold zero entry.  Both frames read
the same words throughout. -/
theorem absent_slot_differs_from_cold_zero :
    (Optimized.opSload absentKeyFrame).1.gasCost = 2100 ∧
    (Optimized.opSload (Optimized.opSload absentKeyFrame).2).1.gasCost = 2100 ∧
    (Optimized.opSload (absentKeyFrame.withColdZero (Bytes.zero 32))).1.gasCost = 2100 ∧
    (Optimized.opSload (Optimized.opSload (absentKeyFrame.withColdZero (Bytes.zero 32))).2).1.gasCost
      = 100 ∧
    (Optimized.opSstore absentKeyFrame).1.gasCost = 20000 ∧
    (Optimized.opSstore (absentKeyFrame.withColdZero (Bytes.zero 32))).1.gasCost = 2100 := by
  decide

/-- `PUSH0; PUSH0; 0x45; PUSH1 1; PUSH0; 0x45; PUSH0; PUSH0; 0x45; STOP`: clear key 0, set it to
1, clear it again (`0x45` is `op_sstore` in `evm_optimized`). -/
def clearSetClear : List UInt8 := [0x5f, 0x5f, 0x45, 0x60, 0x01, 0x5f, 0x45, 0x5f, 0x5f, 0x45, 0x00]

/-- The run of `clearSetClear` with the slot `(contract, 0)` holding 1 at frame entry, cold. -/
def slotHoldingOne : Frame :=
  { Frame.scenario clearSetClear 30000 with
    storage := [{ address := Bytes.zero 20, key := Bytes.zero 32, value := u64ToWord 1,
                  original := u64ToWord 1, isWarm := 0 }] }

/-- `PUSH1 1; PUSH0; 0x45; PUSH0; PUSH0; 0x45; STOP`: set the absent key 0 to 1, then clear it. -/
def setThenClear : List UInt8 := [0x60, 0x01, 0x5f, 0x45, 0x5f, 0x5f, 0x45, 0x00]

/-- The storage plane and `gas_refund`: what only `op_sload` and `op_sstore` write. -/
def Frame.storagePart (f : Frame) : List StorageEntry × Int := (f.storage, f.gasRefund)

/-- What no handler writes: the account storage is addressed in, the plane's capacity, and
`is_static`. -/
def Frame.account (f : Frame) : Address × Nat × Nat := (f.contract, f.maxStorageSlots, f.isStatic)

theorem keeps_storage_of_ensureMemory {f g : Frame} {offset size : Nat} {ok : Bool}
    (he : ensureMemory f offset size = (ok, g)) :
    g.storagePart = f.storagePart ∧ g.account = f.account := by
  obtain ⟨_, _, hg, -⟩ := ensureMemory_spec f offset size
  rw [he] at hg
  dsimp only at hg
  subst hg
  exact ⟨rfl, rfl⟩

namespace Optimized

variable (f : Frame)

theorem binaryOp_keeps_storage (op : Word → Word → Word) (cost : Int) :
    (binaryOp op cost f).2.storagePart = f.storagePart ∧
      (binaryOp op cost f).2.account = f.account := by
  unfold binaryOp; split <;> simp [fail, Frame.storagePart, Frame.account]

theorem unaryOp_keeps_storage (op : Word → Word) (cost : Int) :
    (unaryOp op cost f).2.storagePart = f.storagePart ∧
      (unaryOp op cost f).2.account = f.account := by
  unfold unaryOp; split <;> simp [fail, Frame.storagePart, Frame.account]

theorem pushOp_keeps_storage (value : Frame → Word) (cost : Int) :
    (pushOp value cost f).2.storagePart = f.storagePart ∧
      (pushOp value cost f).2.account = f.account := by
  unfold pushOp stackAlloc; split_ifs <;> simp [fail, Frame.storagePart, Frame.account]

theorem opPop_keeps_storage :
    (opPop f).2.storagePart = f.storagePart ∧ (opPop f).2.account = f.account := by
  unfold opPop stackFree; split_ifs <;> simp [fail, Frame.storagePart, Frame.account]

theorem opMload_keeps_storage :
    (opMload f).2.storagePart = f.storagePart ∧ (opMload f).2.account = f.account := by
  unfold opMload
  split
  · exact ⟨rfl, rfl⟩
  · dsimp only
    split <;> rename_i he <;>
      simpa [fail, Frame.storagePart, Frame.account] using keeps_storage_of_ensureMemory he

theorem opMstore_keeps_storage :
    (opMstore f).2.storagePart = f.storagePart ∧ (opMstore f).2.account = f.account := by
  unfold opMstore
  split
  · dsimp only
    split <;> rename_i he <;>
      simpa [fail, Frame.storagePart, Frame.account] using keeps_storage_of_ensureMemory he
  · exact ⟨rfl, rfl⟩

theorem opMstore8_keeps_storage :
    (opMstore8 f).2.storagePart = f.storagePart ∧ (opMstore8 f).2.account = f.account := by
  unfold opMstore8
  split
  · dsimp only
    split <;> rename_i he <;>
      simpa [fail, Frame.storagePart, Frame.account] using keeps_storage_of_ensureMemory he
  · exact ⟨rfl, rfl⟩

theorem opJump_keeps_storage :
    (opJump f).2.storagePart = f.storagePart ∧ (opJump f).2.account = f.account := by
  unfold opJump
  split <;> (try dsimp only; split_ifs) <;> simp [fail, Frame.storagePart, Frame.account]

theorem opJumpi_keeps_storage :
    (opJumpi f).2.storagePart = f.storagePart ∧ (opJumpi f).2.account = f.account := by
  unfold opJumpi
  split <;> (try dsimp only; split_ifs) <;> simp [fail, Frame.storagePart, Frame.account]

theorem opPushN_keeps_storage (n : Nat) :
    (opPushN f n).2.storagePart = f.storagePart ∧ (opPushN f n).2.account = f.account := by
  unfold opPushN stackAlloc; split_ifs <;> simp [fail, Frame.storagePart, Frame.account]

theorem opDupN_keeps_storage (n : Nat) :
    (opDupN f n).2.storagePart = f.storagePart ∧ (opDupN f n).2.account = f.account := by
  unfold opDupN stackAlloc
  split <;> (try split_ifs) <;> simp [fail, Frame.storagePart, Frame.account]

theorem opSwapN_keeps_storage (n : Nat) :
    (opSwapN f n).2.storagePart = f.storagePart ∧ (opSwapN f n).2.account = f.account := by
  unfold opSwapN; split <;> simp [fail, Frame.storagePart, Frame.account]

/-- Every handler but `op_sload` and `op_sstore` keeps the storage plane and `gas_refund`, on
success and on failure alike, and no handler changes the account they are read under. -/
theorem Handler.exec_keeps_storage (h : Handler) (hs : h.isStorage = false) :
    (h.exec f).2.storagePart = f.storagePart ∧ (h.exec f).2.account = f.account := by
  cases h <;> dsimp only [Handler.exec]
  case add | mul | sub | div | mod | lt | gt | eq | and | or | xor =>
    exact binaryOp_keeps_storage f _ _
  case iszero | not => exact unaryOp_keeps_storage f _ _
  case pc | gas | push0 => exact pushOp_keeps_storage f _ _
  case pop => exact opPop_keeps_storage f
  case mload => exact opMload_keeps_storage f
  case mstore => exact opMstore_keeps_storage f
  case mstore8 => exact opMstore8_keeps_storage f
  case sload | sstore => cases hs
  case jump => exact opJump_keeps_storage f
  case jumpi => exact opJumpi_keeps_storage f
  case push n => exact opPushN_keeps_storage f n
  case dup n => exact opDupN_keeps_storage f n
  case swap n => exact opSwapN_keeps_storage f n
  all_goals exact ⟨rfl, rfl⟩

theorem dispatch_storagePart {opcode : UInt8} (h44 : opcode ≠ 0x44) (h45 : opcode ≠ 0x45) :
    (dispatch opcode f).2.storagePart = f.storagePart :=
  ((jumpTable.getD opcode.toNat .stub).exec_keeps_storage f (isStorage_getD h44 h45)).1

end Optimized

/-! ## 5. Whole runs without the storage opcodes -/

/-- What a pass of `evm_optimized` keeps when the opcode it fetches is neither `0x44` nor
`0x45`: the storage plane, `gas_refund` and the code, in the frame it leaves and in the frames
its upcalls see. -/
theorem loopBody_storagePart (hasTracer : Bool) (f : Frame)
    (h44 : f.codeAt f.pc ≠ 0x44) (h45 : f.codeAt f.pc ≠ 0x45) :
    (loopBody Optimized.dispatch hasTracer f).Keeps
      (fun g => g.storagePart = f.storagePart ∧ g.code = f.code)
      (fun e => e.frame.storagePart = f.storagePart) := by
  rcases loopBody_spec Optimized.dispatch hasTracer f with ⟨-, hb⟩ | ⟨-, hb⟩ <;> rw [hb]
  · exact ⟨⟨rfl, rfl⟩, by simp⟩
  obtain ⟨r, h, he, ⟨-, hs⟩ | ⟨-, -, hs⟩ | ⟨-, -, hs⟩⟩ :=
    dispatchStep_spec Optimized.dispatch hasTracer f <;> rw [hs] <;>
    have hpart : h.storagePart = f.storagePart := by
      have := Optimized.dispatch_storagePart f h44 h45; rwa [he] at this
  all_goals
    have hcode : h.code = f.code := (effect_of_dispatch (Build.dispatch_effect .optimized) he).code
    simp only [Frame.storagePart, Prod.mk.injEq] at hpart
  · refine ⟨?_, forall_mem_traced (by simp)⟩
    dsimp only [Iteration.frame]
    split <;> simp [Frame.storagePart, hpart, hcode]
  · exact ⟨by simp [Frame.storagePart, hpart, hcode], forall_mem_traced (by simp)⟩
  · exact ⟨by simp [Frame.storagePart, hpart, hcode],
      forall_mem_traced (by simp [Frame.storagePart, hpart])⟩

/-- The map a completed step of `evm_optimized` from `f` leaves, from the map `s` it found:
`0x45` stores, every other opcode leaves the map as it was. -/
def storeStep (f : Frame) (s : Address → Word → Word) : Address → Word → Word :=
  if f.codeAt f.pc = 0x45 then f.sstoreMap s else s

/-- The upcalls of a run over which storage behaves as a map, from the map `s`: each `pre` sees
the map the earlier completed steps built, and each completed `0x44` step leaves on top the
value that map holds for its key. -/
inductive ReadsLastStore : (Address → Word → Word) → List TraceEvent → Prop
  | nil (s : Address → Word → Word) : ReadsLastStore s []
  | halted (s : Address → Word → Word) {f : Frame} (hs : Storage.load f.storage = s) :
      ReadsLastStore s [.pre f]
  | step (s : Address → Word → Word) {f g : Frame} {result : OperationResult}
      {rest : List TraceEvent} (hs : Storage.load f.storage = s)
      (hload : f.codeAt f.pc = 0x44 →
        g.stack (g.stackSize - 1) = s f.contract (f.stack (f.stackSize - 1)))
      (hrest : ReadsLastStore (storeStep f s) rest) :
      ReadsLastStore s (.pre f :: .post g result :: rest)

theorem Optimized.dispatch_sload : Optimized.dispatch 0x44 = Optimized.opSload := rfl

theorem Optimized.dispatch_sstore : Optimized.dispatch 0x45 = Optimized.opSstore := rfl

/-- One completed step of `evm_optimized` over the map: `storeStep` is what it does to the map,
and at `0x44` the value it leaves on top is the map's value for its key. -/
theorem dispatch_storeStep (f : Frame)
    (h : 0 ≤ (Optimized.dispatch (f.codeAt f.pc) f).1.pcIncrement) :
    Storage.load (Optimized.dispatch (f.codeAt f.pc) f).2.storage =
      storeStep f (Storage.load f.storage) ∧
    (f.codeAt f.pc = 0x44 →
      (Optimized.dispatch (f.codeAt f.pc) f).2.stack
          ((Optimized.dispatch (f.codeAt f.pc) f).2.stackSize - 1) =
        Storage.load f.storage f.contract (f.stack (f.stackSize - 1))) := by
  by_cases h44 : f.codeAt f.pc = 0x44
  · rw [h44, Optimized.dispatch_sload] at h ⊢
    obtain ⟨-, hsize, htop, hmap⟩ := opSload_spec f (opSload_stackSize_pos h)
    refine ⟨by rw [hmap, storeStep, if_neg (by rw [h44]; decide)], fun _ => ?_⟩
    rw [hsize, htop]
  by_cases h45 : f.codeAt f.pc = 0x45
  · rw [h45, Optimized.dispatch_sstore] at h ⊢
    exact ⟨by rw [opSstore_spec f h, storeStep, if_pos h45], fun h' => absurd h' (by decide)⟩
  · have hpart := Optimized.dispatch_storagePart f h44 h45
    simp only [Frame.storagePart, Prod.mk.injEq] at hpart
    exact ⟨by rw [hpart.1, storeStep, if_neg h45], fun h' => absurd h' h44⟩

theorem runLoop_reads_last_store :
    ∀ n f, ReadsLastStore (Storage.load f.storage)
      (runLoop (loopBody Optimized.dispatch true) n f).2 := by
  intro n
  induction n with
  | zero => intro _; exact .nil _
  | succ n ih =>
    intro f
    by_cases hr : f.running
    · rcases loopBody_spec Optimized.dispatch true f with ⟨-, hs⟩ | ⟨-, hs⟩
      · rw [runLoop_succ_halt hr hs]
        exact .nil _
      obtain ⟨r, h, he, ⟨-, hs'⟩ | ⟨-, -, hs'⟩ | ⟨hnn, -, hs'⟩⟩ :=
        dispatchStep_spec Optimized.dispatch true f
      · rw [runLoop_succ_halt hr (hs.trans hs')]
        exact .halted _ rfl
      · rw [runLoop_succ_halt hr (hs.trans hs')]
        exact .halted _ rfl
      · rw [runLoop_succ_next hr (hs.trans hs')]
        obtain ⟨hmap, hload⟩ := dispatch_storeStep f (by rw [he]; exact hnn)
        rw [he] at hmap hload
        have hrest := ih ((h.charge r.gasCost).advance r.pcIncrement)
        simp only [Frame.advance, Frame.charge] at hrest
        rw [hmap] at hrest
        exact .step _ rfl hload hrest
    · rw [runLoop_succ_of_not_running hr]
      exact .nil _

/-- Storage is a map over every run of `evm_optimized`: each pre-execution upcall sees the map
that the earlier completed `0x45` steps built from the entry plane, and each completed `0x44`
step leaves on top the value that map holds for its key, that is the value of the last completed
store to it, else of the entry plane, else zero. -/
theorem executeMessage_reads_last_store (frame : Frame) :
    ReadsLastStore (Storage.load frame.storage) (Build.optimized.executeMessage true frame).2 := by
  rw [Build.executeMessage_eq]
  exact runLoop_reads_last_store _ { frame with state := 1 }

end NativeEvm
