import NativeEvm.GasBudget
import NativeEvm.MemoryView

/-!
# Storage isolation — a run of `evm_optimized` sees storage only in its own account

The storage plane holds the pre-loaded slots of every account of the block, and `op_sload` and
`op_sstore` look their key up with `storage::find` under `frame.contract`.  `find` passes over
the entries of other accounts, `storage::add` compares only the count of entries with
`max_storage_slots` and appends at index `count`, and an entry is rewritten only where `find`
found it.  So what other accounts hold never reaches a run.  Two frames whose planes have the
same length and agree entry by entry, but where both entries belong to other accounts
(`Storage.AgreeOn`), make the same run: the same upcalls, one by one, and the same returned
frame, up to such entries (`executeMessage_storage_isolation`).

No handler but these two touches the plane: all but `op_gas` touch neither gas nor storage
(`GasStorageOblivious`), and `op_gas` reads only the gas.
-/

namespace NativeEvm

/-! ## 1. Planes that differ only in other accounts' entries -/

/-- Planes of one length that agree entry by entry, but where both entries belong to accounts
other than `account`. -/
def Storage.AgreeOn (account : Address) (entries entries' : List StorageEntry) : Prop :=
  List.Forall₂ (fun e e' => e = e' ∨ e.address ≠ account ∧ e'.address ≠ account) entries entries'

instance (account : Address) (entries entries' : List StorageEntry) :
    Decidable (Storage.AgreeOn account entries entries') :=
  inferInstanceAs (Decidable (List.Forall₂ _ _ _))

namespace Storage.AgreeOn

variable {account : Address} {entries entries' : List StorageEntry}

theorem length_eq (h : AgreeOn account entries entries') : entries.length = entries'.length :=
  List.Forall₂.length_eq h

/-- `storage::find` in `account` cannot tell the planes apart. -/
theorem findFrom_eq (h : AgreeOn account entries entries') (key : Word) (i : Nat) :
    findFrom account key i entries = findFrom account key i entries' := by
  induction h generalizing i with
  | nil => rfl
  | cons he _ ih =>
    rcases he with rfl | ⟨ha, ha'⟩
    · simp only [findFrom, ih]
    · rw [findFrom, findFrom, if_neg fun h => ha h.1, if_neg fun h => ha' h.1, ih]

theorem find_eq (h : AgreeOn account entries entries') (key : Word) :
    find entries account key = find entries' account key :=
  h.findFrom_eq key 0

theorem set (h : AgreeOn account entries entries') (j : Nat) (e : StorageEntry) :
    AgreeOn account (entries.set j e) (entries'.set j e) := by
  induction h generalizing j with
  | nil => exact .nil
  | cons he ht ih =>
    cases j with
    | zero => exact .cons (.inl rfl) ht
    | succ j => exact .cons he (ih j)

theorem append (h : AgreeOn account entries entries') (e : StorageEntry) :
    AgreeOn account (entries ++ [e]) (entries' ++ [e]) :=
  List.rel_append h (.cons (.inl rfl) .nil)

end Storage.AgreeOn

/-- `f` with the storage plane `storage`. -/
def Frame.withStorage (f : Frame) (storage : List StorageEntry) : Frame := { f with storage }

/-- `f'` is `f` but for storage entries of accounts other than `f`'s. -/
structure Frame.SameOwnStorage (f f' : Frame) : Prop where
  planes : f' = f.withStorage f'.storage
  agree : Storage.AgreeOn f.contract f.storage f'.storage

/-- A handler that neither reads nor writes the storage plane. -/
def StorageOblivious (step : Frame → OpResult × Frame) : Prop :=
  ∀ f storage, step (f.withStorage storage) = ((step f).1, (step f).2.withStorage storage)

/-- The storage footprint of the handler call `step` from `f` is `f`'s account: from a frame
that differs from `f` only in other accounts' entries, the call returns the same result, and a
frame that differs from the one it returns from `f` only in such entries. -/
def StorageFootprint (step : Frame → OpResult × Frame) (f : Frame) : Prop :=
  ∀ f', f.SameOwnStorage f' → (step f').1 = (step f).1 ∧ (step f).2.SameOwnStorage (step f').2

section Planes

variable {f f' : Frame} {s : List StorageEntry}

@[simp] theorem Frame.withStorage_storage : (f.withStorage s).storage = s := rfl
@[simp] theorem Frame.withStorage_contract : (f.withStorage s).contract = f.contract := rfl
@[simp] theorem Frame.withStorage_isStatic : (f.withStorage s).isStatic = f.isStatic := rfl
@[simp] theorem Frame.withStorage_maxStorageSlots :
    (f.withStorage s).maxStorageSlots = f.maxStorageSlots := rfl
@[simp] theorem Frame.withStorage_stack : (f.withStorage s).stack = f.stack := rfl
@[simp] theorem Frame.withStorage_stackSize : (f.withStorage s).stackSize = f.stackSize := rfl
@[simp] theorem Frame.withStorage_gasRemaining :
    (f.withStorage s).gasRemaining = f.gasRemaining := rfl
@[simp] theorem Frame.withStorage_state : (f.withStorage s).state = f.state := rfl
@[simp] theorem Frame.withStorage_pc : (f.withStorage s).pc = f.pc := rfl
@[simp] theorem Frame.codeAt_withStorage (i : Int) : (f.withStorage s).codeAt i = f.codeAt i := rfl

theorem stackTop_withStorage (offset : Nat) : stackTop (f.withStorage s) offset = stackTop f offset :=
  rfl

/-- A map of frames that leaves the plane and the account alone keeps the relation. -/
theorem Frame.SameOwnStorage.map (h : f.SameOwnStorage f') (φ : Frame → Frame)
    (hφ : ∀ g s, φ (g.withStorage s) = (φ g).withStorage s) (hs : ∀ g, (φ g).storage = g.storage)
    (hc : ∀ g, (φ g).contract = g.contract) : (φ f).SameOwnStorage (φ f') := by
  obtain ⟨s, rfl⟩ : ∃ s, f' = f.withStorage s := ⟨_, h.planes⟩
  rw [hφ]
  exact ⟨rfl, by rw [hs, hc]; exact h.agree⟩

theorem Frame.SameOwnStorage.halt (h : f.SameOwnStorage f') (reason : Nat) :
    (f.halt reason).SameOwnStorage (f'.halt reason) :=
  h.map (Frame.halt · reason) (fun _ _ => rfl) (fun _ => rfl) fun _ => rfl

theorem Frame.SameOwnStorage.charge (h : f.SameOwnStorage f') (cost : Int) :
    (f.charge cost).SameOwnStorage (f'.charge cost) :=
  h.map (Frame.charge · cost) (fun _ _ => rfl) (fun _ => rfl) fun _ => rfl

theorem Frame.SameOwnStorage.advance (h : f.SameOwnStorage f') (increment : Int) :
    (f.advance increment).SameOwnStorage (f'.advance increment) :=
  h.map (Frame.advance · increment) (fun _ _ => rfl) (fun _ => rfl) fun _ => rfl

theorem Frame.SameOwnStorage.stackFree (h : f.SameOwnStorage f') (count : Nat) :
    (stackFree f count).2.SameOwnStorage (stackFree f' count).2 :=
  h.map (fun g => (NativeEvm.stackFree g count).2) (fun _ _ => by simp only [stackFree_snd]; rfl)
    (fun _ => by simp only [stackFree_snd]) fun _ => by simp only [stackFree_snd]

/-- A handler that never touches the plane, and keeps it and the account from `f`, has its
footprint in `f`'s account. -/
theorem StorageOblivious.footprint {step : Frame → OpResult × Frame} (hobl : StorageOblivious step)
    (hs : (step f).2.storage = f.storage) (hc : (step f).2.contract = f.contract) :
    StorageFootprint step f := by
  intro f' h
  obtain ⟨s, rfl⟩ : ∃ s, f' = f.withStorage s := ⟨_, h.planes⟩
  rw [hobl]
  exact ⟨rfl, rfl, by rw [hs, hc]; exact h.agree⟩

theorem GasStorageOblivious.storageOblivious {step : Frame → OpResult × Frame}
    (h : GasStorageOblivious step) : StorageOblivious step := by
  intro f s
  have hf := h f f.gasRemaining s
  rw [show f.withGasStorage f.gasRemaining s = f.withStorage s from rfl, ← (h.keeps f).1] at hf
  exact hf

end Planes

/-! ## 2. The handlers of `evm_optimized` -/

namespace Optimized

theorem opGas_storageOblivious : StorageOblivious opGas := by
  intro f s
  simp only [opGas, pushOp, stackAlloc, Frame.withStorage_stackSize]
  split_ifs <;> rfl

/-- `op_sload` finds the same entry in both planes, and warms it in both. -/
theorem opSload_storageFootprint (f : Frame) : StorageFootprint opSload f := by
  intro f' h
  obtain ⟨s, rfl⟩ : ∃ s, f' = f.withStorage s := ⟨_, h.planes⟩
  have hagree : Storage.AgreeOn f.contract f.storage s := h.agree
  unfold opSload
  rw [stackTop_withStorage]
  rcases stackTop f 0 with _ | slot
  · exact ⟨rfl, h⟩
  · simp only [Frame.withStorage_storage, Frame.withStorage_contract, Frame.withStorage_stack,
      ← hagree.find_eq]
    rcases Storage.find f.storage f.contract (f.stack slot) with _ | ⟨i, e⟩
    · exact ⟨rfl, rfl, hagree⟩
    · exact ⟨rfl, rfl, hagree.set i _⟩

/-- `op_sstore` finds the same entry in both planes, or none in both; it rewrites it in both,
or appends the same entry to planes of one length, or halts both on a full plane. -/
theorem opSstore_storageFootprint (f : Frame) : StorageFootprint opSstore f := by
  intro f' h
  obtain ⟨s, rfl⟩ : ∃ s, f' = f.withStorage s := ⟨_, h.planes⟩
  have hagree : Storage.AgreeOn f.contract f.storage s := h.agree
  unfold opSstore
  simp only [Frame.withStorage_isStatic, stackTop_withStorage, Frame.withStorage_stack,
    Frame.withStorage_storage, Frame.withStorage_contract, Frame.withStorage_maxStorageSlots,
    ← hagree.find_eq, Storage.add, ← hagree.length_eq]
  by_cases hst : f.isStatic ≠ 0
  · rw [if_pos hst, if_pos hst]
    exact ⟨rfl, h.halt 6⟩
  rw [if_neg hst, if_neg hst]
  rcases stackTop f 0 with _ | k
  · exact ⟨rfl, h⟩
  rcases stackTop f 1 with _ | v
  · exact ⟨rfl, h⟩
  dsimp only
  rcases Storage.find f.storage f.contract (f.stack k) with _ | ⟨i, e⟩
  · by_cases hfull : f.maxStorageSlots ≤ f.storage.length
    · rw [if_pos hfull, if_pos hfull]
      exact ⟨rfl, h.halt 2⟩
    · rw [if_neg hfull, if_neg hfull]
      exact ⟨rfl, Frame.SameOwnStorage.stackFree ⟨rfl, (hagree.append _).set _ _⟩ 2⟩
  · exact ⟨rfl, Frame.SameOwnStorage.stackFree ⟨rfl, hagree.set i _⟩ 2⟩

theorem Handler.exec_storageOblivious (h : Handler) (hs : h.isStorage = false) :
    StorageOblivious h.exec := by
  cases hg : h.readsGas
  · exact (h.exec_gasStorageOblivious hg hs).storageOblivious
  · cases h <;> simp only [Handler.readsGas, Bool.false_eq_true] at hg
    exact opGas_storageOblivious

/-- Every handler of `JUMP_TABLE` has its storage footprint in the frame's account. -/
theorem Handler.exec_storageFootprint (h : Handler) (f : Frame) : StorageFootprint h.exec f := by
  cases hs : h.isStorage
  · obtain ⟨hpart, hacc⟩ := h.exec_keeps_storage f hs
    exact (h.exec_storageOblivious hs).footprint (congrArg Prod.fst hpart)
      (congrArg Prod.fst hacc)
  · cases h <;> simp only [Handler.isStorage, Bool.false_eq_true] at hs
    case sload => exact opSload_storageFootprint f
    case sstore => exact opSstore_storageFootprint f

theorem dispatch_storageFootprint (opcode : UInt8) (f : Frame) :
    StorageFootprint (dispatch opcode) f :=
  (jumpTable.getD opcode.toNat .stub).exec_storageFootprint f

end Optimized

/-! ## 3. Passes and runs -/

section Passes

variable (hasTracer : Bool)

/-- A pass of `evm_optimized` from frames that differ only in other accounts' entries: the same
opcode, the same result, and passes that end the same way. -/
theorem loopBody_sameOwnStorage {f f' : Frame} (h : f.SameOwnStorage f') :
    (loopBody Optimized.dispatch hasTracer f).Rel Frame.SameOwnStorage
      (loopBody Optimized.dispatch hasTracer f') := by
  obtain ⟨hr, hg⟩ := Optimized.dispatch_storageFootprint (f.codeAt f.pc) f f' h
  obtain ⟨s, rfl⟩ : ∃ s, f' = f.withStorage s := ⟨_, h.planes⟩
  unfold loopBody dispatchStep
  simp only [Frame.withStorage_gasRemaining, Frame.withStorage_pc, Frame.codeAt_withStorage] at hr hg ⊢
  generalize Optimized.dispatch (f.codeAt f.pc) f = p at hr hg
  generalize Optimized.dispatch (f.codeAt f.pc) (f.withStorage s) = p' at hr hg
  obtain ⟨r, g⟩ := p
  obtain ⟨r', g'⟩ := p'
  dsimp only at hr hg ⊢
  subst hr
  obtain ⟨s', rfl⟩ : ∃ s', g' = g.withStorage s' := ⟨_, hg.planes⟩
  have hpre : List.Forall₂ (TraceEvent.Rel Frame.SameOwnStorage) (traced hasTracer [.pre f])
      (traced hasTracer [.pre (f.withStorage s)]) :=
    forall₂_traced hasTracer (.cons (.pre h) .nil)
  simp only [Frame.withStorage_state, Frame.withStorage_gasRemaining]
  split_ifs
  · exact ⟨h.halt 1, .nil⟩
  · exact ⟨hg.halt 4, hpre⟩
  · exact ⟨hg, hpre⟩
  · exact ⟨hg.halt 1, hpre⟩
  · exact ⟨(hg.charge _).advance _,
      forall₂_traced hasTracer (.cons (.pre h) (.cons (.post (hg.charge _)) .nil))⟩

theorem runLoop_sameOwnStorage (fuel : Nat) {f f' : Frame} (h : f.SameOwnStorage f') :
    List.Forall₂ (TraceEvent.Rel Frame.SameOwnStorage)
      (runLoop (loopBody Optimized.dispatch hasTracer) fuel f).2
      (runLoop (loopBody Optimized.dispatch hasTracer) fuel f').2 ∧
    (runLoop (loopBody Optimized.dispatch hasTracer) fuel f).1.SameOwnStorage
      (runLoop (loopBody Optimized.dispatch hasTracer) fuel f').1 :=
  runLoop_rel _ (fun f f' h => by rw [h.planes]; exact Iff.rfl)
    (fun _ _ h _ => loopBody_sameOwnStorage hasTracer h)
    (fun _ _ h => h.map Frame.finish (fun _ _ => rfl) (fun _ => rfl) fun _ => rfl) fuel f f' h

end Passes

/-! ## 4. Other accounts' entries are invisible to a run -/

/-- In `evm_optimized`, a run reads and writes storage only in its own account: two frames that
differ only in storage entries of other accounts, at the same positions of planes of one length,
make the same upcalls, one by one, and return the same frame, up to such entries. -/
theorem executeMessage_storage_isolation (hasTracer : Bool) {frame frame' : Frame}
    (h : frame.SameOwnStorage frame') :
    List.Forall₂ (TraceEvent.Rel Frame.SameOwnStorage)
      (Build.optimized.executeMessage hasTracer frame).2
      (Build.optimized.executeMessage hasTracer frame').2 ∧
    (Build.optimized.executeMessage hasTracer frame).1.SameOwnStorage
      (Build.optimized.executeMessage hasTracer frame').1 := by
  have hstart := h.map (fun f => { f with state := 1 }) (fun _ _ => rfl) (fun _ => rfl)
    fun _ => rfl
  have hfuel : frame'.gasRemaining.toNat + 2 = frame.gasRemaining.toNat + 2 := by
    rw [h.planes]; rfl
  rw [Build.executeMessage_eq, NativeEvm.executeMessage, NativeEvm.executeMessage, hfuel]
  exact runLoop_sameOwnStorage hasTracer _ hstart

/-- `PUSH0; 0x44; STOP` (`op_sload` of key 0) in the account `Bytes.zero 20`, over a plane
holding key 0 of another account with the value `v`. -/
def foreignSlotFrame (v : Nat) : Frame :=
  { Frame.scenario [0x5f, 0x44, 0x00] 10000 with
    storage := [{ address := Bytes.ofFn 20 fun _ => 1, key := Bytes.zero 32,
                  value := u64ToWord v, original := u64ToWord v, isWarm := 0 }] }

theorem executeMessage_storage_isolation_foreign :
    (foreignSlotFrame 5).SameOwnStorage (foreignSlotFrame 9) ∧
    (Build.optimized.executeMessage true (foreignSlotFrame 5)).1.SameOwnStorage
      (Build.optimized.executeMessage true (foreignSlotFrame 9)).1 :=
  have h : (foreignSlotFrame 5).SameOwnStorage (foreignSlotFrame 9) := ⟨rfl, by decide⟩
  ⟨h, (executeMessage_storage_isolation true h).2⟩

end NativeEvm
