import NativeEvm.StorageOpcodes

/-!
# Storage plane — its representation invariant over runs of `evm_optimized`

`storage::find` returns the first entry for `(address, key)` and `storage::add` appends an entry
only below `max_storage_slots`, so the plane stays a set of distinct slots within its capacity
as long as `op_sstore` appends only keys it did not find.  Over a whole run every frame shown
has such a plane, grown out of the one before it (`Frame.PlaneGrows`): never shorter, each entry
with its slot and original, warm once warm, and the entries of other accounts as they were; and
each `op_sload` or `op_sstore` step leaves the entry it looked up warm (`Frame.WarmsLookup`).
-/

namespace NativeEvm

/-! ## 1. How the plane grows -/

/-- The plane of `g` grew out of that of `f`, in the same account, and is well formed if that of
`f` was. -/
structure Frame.PlaneGrows (f g : Frame) : Prop where
  account : g.account = f.account
  grows : Storage.Grows f.contract f.storage g.storage
  wf : Storage.Wf f.maxStorageSlots f.storage → Storage.Wf f.maxStorageSlots g.storage

theorem Frame.PlaneGrows.refl (f : Frame) : f.PlaneGrows f := ⟨rfl, .refl _, id⟩

theorem Frame.PlaneGrows.trans {f g k : Frame} (h : f.PlaneGrows g) (h' : g.PlaneGrows k) :
    f.PlaneGrows k := by
  obtain ⟨hc, hm, -⟩ : g.contract = f.contract ∧ g.maxStorageSlots = f.maxStorageSlots ∧ _ :=
    Prod.mk.inj_iff.mp h.account |>.imp_right Prod.mk.inj_iff.mp
  refine ⟨h'.account.trans h.account, h.grows.trans (hc ▸ h'.grows), fun hw => ?_⟩
  exact hm ▸ h'.wf (hm ▸ h.wf hw)

/-- Only the plane and the account matter. -/
theorem Frame.PlaneGrows.of_eq {f g k : Frame} (h : f.PlaneGrows g) (hs : k.storage = g.storage)
    (ha : k.account = g.account) : f.PlaneGrows k :=
  ⟨ha.trans h.account, hs ▸ h.grows, hs ▸ h.wf⟩

theorem Frame.PlaneGrows.of_eq_left {f g x : Frame} (h : f.PlaneGrows g) (hs : x.storage = f.storage)
    (ha : x.account = f.account) : x.PlaneGrows g := by
  obtain ⟨hc, hm, -⟩ : x.contract = f.contract ∧ x.maxStorageSlots = f.maxStorageSlots ∧ _ :=
    Prod.mk.inj_iff.mp ha |>.imp_right Prod.mk.inj_iff.mp
  exact ⟨h.account.trans ha.symm, by rw [hs, hc]; exact h.grows, by rw [hs, hm]; exact h.wf⟩

/-- The frames a pass shows: `f`, frames with its plane, then frames with the plane of the
`g` its handler left. -/
theorem pairwise_planeGrows {f g : Frame} (hfg : f.PlaneGrows g) (l₁ l₂ : List Frame)
    (h₁ : ∀ x ∈ l₁, x.storage = f.storage ∧ x.account = f.account)
    (h₂ : ∀ x ∈ l₂, x.storage = g.storage ∧ x.account = g.account) :
    (f :: l₁ ++ l₂).Pairwise Frame.PlaneGrows := by
  have hf : ∀ x ∈ f :: l₁, x.storage = f.storage ∧ x.account = f.account :=
    List.forall_mem_cons.mpr ⟨⟨rfl, rfl⟩, h₁⟩
  rw [List.pairwise_append]
  refine ⟨List.pairwise_of_forall_mem_list fun x hx y hy => ?_,
    List.pairwise_of_forall_mem_list fun x hx y hy => ?_, fun x hx y hy => ?_⟩
  · exact ((Frame.PlaneGrows.refl f).of_eq (hf y hy).1 (hf y hy).2).of_eq_left (hf x hx).1
      (hf x hx).2
  · exact ((Frame.PlaneGrows.refl g).of_eq (h₂ y hy).1 (h₂ y hy).2).of_eq_left (h₂ x hx).1
      (h₂ x hx).2
  · exact (hfg.of_eq (h₂ y hy).1 (h₂ y hy).2).of_eq_left (hf x hx).1 (hf x hx).2

/-- The contents of an entry, its warmth left out. -/
def StorageEntry.contents (e : StorageEntry) : Address × Word × Word × Word :=
  (e.address, e.key, e.value, e.original)

/-! ## 2. The storage handlers -/

section Handlers

variable (f : Frame)

/-- `op_sload` warms the entry it finds for the key on top, and changes nothing else of the
plane, `gas_refund` or the account. -/
theorem opSload_plane :
    f.PlaneGrows (Optimized.opSload f).2 ∧
    (Optimized.opSload f).2.storage.map StorageEntry.contents =
      f.storage.map StorageEntry.contents ∧
    (Optimized.opSload f).2.gasRefund = f.gasRefund ∧
    (0 < f.stackSize → ∀ i e,
      Storage.find f.storage f.contract (f.stack (f.stackSize - 1)) = some (i, e) →
        ∃ e', (Optimized.opSload f).2.storage[i]? = some e' ∧ e'.isWarm = 1) := by
  unfold Optimized.opSload
  rcases Nat.eq_zero_or_pos f.stackSize with h0 | h0
  · rw [stackTop_of_le (by omega)]
    exact ⟨.refl f, rfl, rfl, fun h => absurd h (by omega)⟩
  rw [stackTop_of_lt h0, Nat.sub_zero]
  dsimp only
  rcases hf : Storage.find f.storage f.contract (f.stack (f.stackSize - 1)) with _ | ⟨i, e⟩
  · exact ⟨.of_eq (.refl f) rfl rfl, rfl, rfl, fun _ _ _ h => by cases h⟩
  · obtain ⟨hi, ha, -⟩ := Storage.find_eq_some hf
    have hkept : Storage.EntryKept f.contract e { e with isWarm := 1 } :=
      ⟨rfl, rfl, rfl, fun _ => rfl, fun hne => absurd ha hne⟩
    refine ⟨⟨rfl, .set hi hkept, fun hw => hw.set hi rfl rfl⟩,
      Storage.map_set_of_getElem? _ hi rfl, rfl, fun _ i' e' h => ?_⟩
    cases h
    exact ⟨_, List.getElem?_set_self (List.getElem?_eq_some_iff.mp hi).1, rfl⟩

/-- `op_sstore` grows the plane in the frame's account.  A static frame halts with
`ILLEGAL_STATE_CHANGE`; otherwise, with its two operands, the entry it finds for the key on top
is left warm, and an absent key is appended warm, or, on a full plane, the frame halts with
`INVALID_OPERATION`. -/
theorem opSstore_plane :
    f.PlaneGrows (Optimized.opSstore f).2 ∧
    (f.isStatic ≠ 0 → Optimized.opSstore f = Optimized.fail (f.halt 6)) ∧
    (f.isStatic = 0 → 1 < f.stackSize →
      (∀ i e, Storage.find f.storage f.contract (f.stack (f.stackSize - 1)) = some (i, e) →
        ∃ e', (Optimized.opSstore f).2.storage[i]? = some e' ∧ e'.isWarm = 1) ∧
      (Storage.find f.storage f.contract (f.stack (f.stackSize - 1)) = none →
        (f.storage.length < f.maxStorageSlots ∧
          ∃ e', (Optimized.opSstore f).2.storage[f.storage.length]? = some e' ∧ e'.isWarm = 1) ∨
        (f.maxStorageSlots ≤ f.storage.length ∧
          Optimized.opSstore f = Optimized.fail (f.halt 2)))) := by
  rcases opSstore_cases f with ⟨hst, he⟩ | ⟨hst, h1, he⟩ | ⟨hst, -, hf, hfull, he⟩ |
      ⟨hst, -, hf, hlt, he⟩ | ⟨hst, -, i, e, hf, he⟩ <;> rw [he]
  · exact ⟨.of_eq (.refl f) rfl rfl, fun _ => rfl, fun h => absurd h hst⟩
  · exact ⟨.of_eq (.refl f) rfl rfl, fun h => absurd hst h, fun _ h => absurd h (by omega)⟩
  · exact ⟨.of_eq (.refl f) rfl rfl, fun h => absurd hst h,
      fun _ _ => ⟨fun _ _ h => (nomatch hf.symm.trans h), fun _ => .inr ⟨hfull, rfl⟩⟩⟩
  · refine ⟨⟨rfl, .append rfl, fun hw => hw.append hf (by omega)⟩, fun h => absurd hst h,
      fun _ _ => ⟨fun _ _ h => (nomatch hf.symm.trans h), fun _ => .inl ⟨hlt, ?_⟩⟩⟩
    rw [List.getElem?_append_right (le_refl _), Nat.sub_self]
    exact ⟨_, rfl, rfl⟩
  · obtain ⟨hi, ha, -⟩ := Storage.find_eq_some hf
    have hkept : Storage.EntryKept f.contract e
        { e with value := f.stack (f.stackSize - 2), isWarm := 1 } :=
      ⟨rfl, rfl, rfl, fun _ => rfl, fun hne => absurd ha hne⟩
    refine ⟨⟨rfl, .set hi hkept, fun hw => hw.set hi rfl rfl⟩, fun h => absurd hst h,
      fun _ _ => ⟨fun i' e' h => ?_, fun h => nomatch hf.symm.trans h⟩⟩
    cases hf.symm.trans h
    exact ⟨_, List.getElem?_set_self (List.getElem?_eq_some_iff.mp hi).1, rfl⟩

end Handlers

/-- Every handler of `evm_optimized` grows the plane. -/
theorem Optimized.Handler.exec_planeGrows (h : Optimized.Handler) (f : Frame) :
    f.PlaneGrows (h.exec f).2 := by
  cases hs : h.isStorage
  · obtain ⟨hpart, hacc⟩ := h.exec_keeps_storage f hs
    exact .of_eq (.refl f) (congrArg Prod.fst hpart) hacc
  · cases h <;> first | exact (opSload_plane f).1 | exact (opSstore_plane f).1 | cases hs

/-! ## 3. One step -/

/-- What a step from `f` leaves in `g` of the entry it looks up for the key on top, in `f`'s
account, when it is `op_sload` (`0x44`) or a non-static `op_sstore` (`0x45`) with its operands:
the entry it finds is warm; for `op_sstore`, an absent key is appended warm, or, on a full plane,
the frame halts with `INVALID_OPERATION` and the plane is as it was. -/
def Frame.WarmsLookup (f g : Frame) : Prop :=
  ((f.codeAt f.pc = 0x44 ∧ 0 < f.stackSize) ∨
    (f.codeAt f.pc = 0x45 ∧ f.isStatic = 0 ∧ 1 < f.stackSize)) →
  (∀ i e, Storage.find f.storage f.contract (f.stack (f.stackSize - 1)) = some (i, e) →
    ∃ e', g.storage[i]? = some e' ∧ e'.isWarm = 1) ∧
  (f.codeAt f.pc = 0x45 → Storage.find f.storage f.contract (f.stack (f.stackSize - 1)) = none →
    (f.storage.length < f.maxStorageSlots ∧
      ∃ e', g.storage[f.storage.length]? = some e' ∧ e'.isWarm = 1) ∨
    (f.maxStorageSlots ≤ f.storage.length ∧ g.state = 4 ∧ g.haltReason = 2 ∧
      g.storage = f.storage))

/-- The lookups of a step, read off its handler's result `(r, g)`, hold of every frame `k` the loop
makes of `g`: one with `g`'s plane, and `g` itself after a failed call that halted the frame. -/
theorem dispatch_warmsLookup {f g k : Frame} {r : OpResult}
    (he : Optimized.dispatch (f.codeAt f.pc) f = (r, g)) (hk : k.storage = g.storage)
    (hhalt : r.pcIncrement < 0 → g.state ≠ 1 → k = g) : f.WarmsLookup k := by
  rintro (⟨h44, h0⟩ | ⟨h45, hst, h1⟩)
  · rw [h44, Optimized.dispatch_sload] at he
    have hfound := (opSload_plane f).2.2.2 h0
    rw [he] at hfound
    exact ⟨fun i e hf => hk ▸ hfound i e hf, fun h => absurd (h44.symm.trans h) (by decide)⟩
  · rw [h45, Optimized.dispatch_sstore] at he
    obtain ⟨hfound, habsent⟩ := (opSstore_plane f).2.2 hst h1
    rw [he] at hfound habsent
    refine ⟨fun i e hf => hk ▸ hfound i e hf, fun _ hf => ?_⟩
    rcases habsent hf with ⟨hlt, hw⟩ | ⟨hfull, hfail⟩
    · exact .inl ⟨hlt, hk ▸ hw⟩
    · simp only [Optimized.fail, Prod.mk.injEq] at hfail
      obtain ⟨rfl, rfl⟩ := hfail
      rw [hhalt (by decide) (by simp)]
      exact .inr ⟨hfull, rfl, rfl, rfl⟩

/-- A pass of `evm_optimized` grows the plane, from the frame it starts from through every frame it
shows. -/
theorem loopBody_planeGrows (hasTracer : Bool) (f : Frame) :
    (f :: (loopBody Optimized.dispatch hasTracer f).events.map TraceEvent.frame ++
      [(loopBody Optimized.dispatch hasTracer f).frame]).Pairwise Frame.PlaneGrows := by
  rcases loopBody_spec Optimized.dispatch hasTracer f with ⟨-, hs⟩ | ⟨-, hs⟩ <;> rw [hs]
  · exact pairwise_planeGrows (.refl f) [] [f.halt 1] (by simp) (by simp [Frame.account])
  obtain ⟨r, g, he, ⟨-, hs'⟩ | ⟨-, -, hs'⟩ | ⟨-, -, hs'⟩⟩ :=
    dispatchStep_spec Optimized.dispatch hasTracer f <;> rw [hs'] <;>
    have hg : f.PlaneGrows g := by
      have h := (Optimized.jumpTable.getD (f.codeAt f.pc).toNat .stub).exec_planeGrows f
      change f.PlaneGrows (Optimized.dispatch (f.codeAt f.pc) f).2 at h
      rwa [he] at h
  · cases hasTracer
    · exact pairwise_planeGrows hg [] [if g.state = 1 then g.halt 4 else g] (by simp)
        (by simp only [List.mem_singleton]; rintro x rfl; split <;> exact ⟨rfl, rfl⟩)
    · exact pairwise_planeGrows hg [f] [if g.state = 1 then g.halt 4 else g] (by simp)
        (by simp only [List.mem_singleton]; rintro x rfl; split <;> exact ⟨rfl, rfl⟩)
  · cases hasTracer
    · exact pairwise_planeGrows hg [] [g.halt 1] (by simp) (by simp [Frame.account])
    · exact pairwise_planeGrows hg [f] [g.halt 1] (by simp) (by simp [Frame.account])
  · cases hasTracer
    · exact pairwise_planeGrows hg [] [(g.charge r.gasCost).advance r.pcIncrement] (by simp)
        (by simp [Frame.account])
    · exact pairwise_planeGrows hg [f] [g.charge r.gasCost, (g.charge r.gasCost).advance r.pcIncrement]
        (by simp) (by simp [Frame.account])

/-! ## 4. Whole runs -/

/-- The storage plane over every run of `evm_optimized` entered with a well-formed plane: every
frame the run shows (the one it is entered with, those its upcalls see, the one it returns) has a
well-formed plane, grown out of that of every earlier one; and each `op_sload` or `op_sstore`
step leaves the entry it looked up or appended warm, or halts on a full plane with
`INVALID_OPERATION`, the plane as it was. -/
theorem executeMessage_storage_plane (hasTracer : Bool) (frame : Frame)
    (hwf : Storage.Wf frame.maxStorageSlots frame.storage) :
    (∀ g ∈ frame :: (Build.optimized.executeMessage hasTracer frame).2.map TraceEvent.frame ++
        [(Build.optimized.executeMessage hasTracer frame).1],
      Storage.Wf frame.maxStorageSlots g.storage) ∧
    (frame :: (Build.optimized.executeMessage hasTracer frame).2.map TraceEvent.frame ++
        [(Build.optimized.executeMessage hasTracer frame).1]).Pairwise Frame.PlaneGrows ∧
    StepsRelate Frame.WarmsLookup (Build.optimized.executeMessage hasTracer frame).1
      (Build.optimized.executeMessage hasTracer frame).2 := by
  rw [Build.executeMessage_eq]
  have hrun := runLoop_pairwise Frame.PlaneGrows Frame.PlaneGrows.refl (fun _ _ _ => .trans)
    (fun f _ => loopBody_planeGrows hasTracer f) (fun f _ => .of_eq (.refl f) rfl rfl)
    (frame.gasRemaining.toNat + 2) { frame with state := 1 }
  have hchain : (frame :: (executeMessage Build.optimized.dispatch hasTracer frame).2.map
      TraceEvent.frame ++ [(executeMessage Build.optimized.dispatch hasTracer frame).1]).Pairwise
      Frame.PlaneGrows := by
    rw [List.cons_append, List.pairwise_cons] at hrun ⊢
    exact ⟨fun g hg => (hrun.1 g hg).of_eq_left rfl rfl, hrun.2⟩
  refine ⟨fun g hg => ?_, hchain,
    runLoop_stepsRelate _ hasTracer _ (fun f r g _ he => ⟨fun _ => dispatch_warmsLookup he
      (by split <;> rfl) (fun _ h => if_neg h), fun hnn => ⟨dispatch_warmsLookup he rfl
      (fun h => absurd hnn (not_le.mpr h)), dispatch_warmsLookup he rfl
      (fun h => absurd hnn (not_le.mpr h))⟩⟩) _ _⟩
  rcases List.mem_cons.mp (List.cons_append _ _ _ ▸ hg) with rfl | hg'
  · exact hwf
  · exact (List.rel_of_pairwise_cons (List.cons_append _ _ _ ▸ hchain) hg').wf hwf

theorem executeMessage_storage_plane_sstore :
    Storage.Wf (Frame.scenario [0x5f, 0x5f, 0x45, 0x00] 30000).maxStorageSlots
      (Frame.scenario [0x5f, 0x5f, 0x45, 0x00] 30000).storage ∧
    StepsRelate Frame.WarmsLookup
      (Build.optimized.executeMessage true (Frame.scenario [0x5f, 0x5f, 0x45, 0x00] 30000)).1
      (Build.optimized.executeMessage true (Frame.scenario [0x5f, 0x5f, 0x45, 0x00] 30000)).2 :=
  ⟨⟨List.nodup_nil, by decide⟩, (executeMessage_storage_plane true
    (Frame.scenario [0x5f, 0x5f, 0x45, 0x00] 30000) ⟨List.nodup_nil, by decide⟩).2.2⟩

/-! ## 5. Static frames -/

/-- What a static frame may not change: the contents of every entry, their number with them, and
`gas_refund`. -/
def Frame.storedValues (f : Frame) : List (Address × Word × Word × Word) × Int :=
  (f.storage.map StorageEntry.contents, f.gasRefund)

/-- In a static frame no handler changes the stored values. -/
theorem Optimized.Handler.exec_storedValues (h : Optimized.Handler) {f : Frame}
    (hs : f.isStatic ≠ 0) : (h.exec f).2.storedValues = f.storedValues := by
  cases hst : h.isStorage
  · have hpart := (h.exec_keeps_storage f hst).1
    simp only [Frame.storagePart, Prod.mk.injEq] at hpart
    simp [Frame.storedValues, hpart]
  · cases h <;> first
      | exact Prod.ext (opSload_plane f).2.1 (opSload_plane f).2.2.1
      | exact congrArg (fun p : OpResult × Frame => p.2.storedValues) ((opSstore_plane f).2.1 hs)
      | cases hst

/-- A pass from a static frame keeps the stored values and `is_static`. -/
theorem loopBody_static (hasTracer : Bool) (f : Frame) (hs : f.isStatic ≠ 0) :
    (loopBody Optimized.dispatch hasTracer f).Keeps
      (fun g => g.storedValues = f.storedValues ∧ g.isStatic = f.isStatic)
      (fun e => e.frame.storedValues = f.storedValues ∧ e.frame.isStatic = f.isStatic) := by
  rcases loopBody_spec Optimized.dispatch hasTracer f with ⟨-, hb⟩ | ⟨-, hb⟩ <;> rw [hb]
  · exact ⟨⟨rfl, rfl⟩, by simp⟩
  obtain ⟨r, g, he, ⟨-, hb'⟩ | ⟨-, -, hb'⟩ | ⟨-, -, hb'⟩⟩ :=
    dispatchStep_spec Optimized.dispatch hasTracer f <;> rw [hb'] <;>
    obtain ⟨hv, hst⟩ : g.storedValues = f.storedValues ∧ g.isStatic = f.isStatic := by
      have hv := (Optimized.jumpTable.getD (f.codeAt f.pc).toNat .stub).exec_storedValues hs
      have hacc := (Optimized.jumpTable.getD (f.codeAt f.pc).toNat .stub).exec_planeGrows f |>.account
      change (Optimized.dispatch (f.codeAt f.pc) f).2.storedValues = _ at hv
      change (Optimized.dispatch (f.codeAt f.pc) f).2.account = _ at hacc
      rw [he] at hv hacc
      exact ⟨hv, congrArg (fun a => a.2.2) hacc⟩
  · refine ⟨?_, forall_mem_traced (by simp)⟩
    dsimp only [Iteration.frame]
    split <;> exact ⟨hv, hst⟩
  · exact ⟨⟨hv, hst⟩, forall_mem_traced (by simp)⟩
  · refine ⟨⟨hv, hst⟩, forall_mem_traced fun e he => ?_⟩
    simp only [List.mem_cons, List.not_mem_nil, or_false] at he
    rcases he with rfl | rfl
    exacts [⟨rfl, rfl⟩, ⟨hv, hst⟩]

/-- A static frame cannot write storage: over every run of `evm_optimized` entered with
`is_static ≠ 0`, every frame shown has the entry contents, their number and the `gas_refund` it
was entered with; each step at `0x45`, where `op_sstore` sits, halts with `ILLEGAL_STATE_CHANGE`;
and a run that ends with that reason ends at a `0x45`. -/
theorem executeMessage_static_storage (hasTracer : Bool) (frame : Frame)
    (hs : frame.isStatic ≠ 0) :
    (∀ e ∈ (Build.optimized.executeMessage hasTracer frame).2,
      e.frame.storedValues = frame.storedValues) ∧
    (Build.optimized.executeMessage hasTracer frame).1.storedValues = frame.storedValues ∧
    StepsRelate (fun f g => f.isStatic ≠ 0 → f.codeAt f.pc = 0x45 → g.state = 4 ∧ g.haltReason = 6)
      (Build.optimized.executeMessage hasTracer frame).1
      (Build.optimized.executeMessage hasTracer frame).2 ∧
    ((Build.optimized.executeMessage hasTracer frame).1.state = 4 →
      (Build.optimized.executeMessage hasTracer frame).1.haltReason = 6 →
      (Build.optimized.executeMessage hasTracer frame).1.codeAt
        (Build.optimized.executeMessage hasTracer frame).1.pc = 0x45) := by
  have hnames := Build.executeMessage_names_halt_cause .optimized hasTracer frame
  rw [Build.executeMessage_eq] at hnames ⊢
  obtain ⟨⟨hv, -⟩, hevents⟩ := runLoop_invariant
    (fun g => g.storedValues = frame.storedValues ∧ g.isStatic = frame.isStatic)
    (fun e => e.frame.storedValues = frame.storedValues ∧ e.frame.isStatic = frame.isStatic)
    (fun f ⟨hv, hst⟩ _ => by
      obtain ⟨⟨hv', hst'⟩, hevents⟩ := loopBody_static hasTracer f (hst ▸ hs)
      exact ⟨⟨hv'.trans hv, hst'.trans hst⟩,
        fun e he => ⟨(hevents e he).1.trans hv, (hevents e he).2.trans hst⟩⟩)
    (fun f ⟨hv, hst⟩ _ => ⟨hv, hst⟩) (frame.gasRemaining.toNat + 2) { frame with state := 1 }
    ⟨rfl, rfl⟩
  refine ⟨fun e he => (hevents e he).1, hv, runLoop_stepsRelate _ hasTracer _
    (fun f r g _ he => ?_) _ _, fun h4 h6 => ?_⟩
  · change Optimized.dispatch (f.codeAt f.pc) f = (r, g) at he
    refine ⟨fun _ hst h45 => ?_, fun hnn => ?_⟩
    · rw [h45, Optimized.dispatch_sstore, (opSstore_plane f).2.1 hst] at he
      cases he
      exact ⟨rfl, rfl⟩
    · refine ⟨fun hst h45 => ?_, fun hst h45 => ?_⟩ <;>
      · rw [h45, Optimized.dispatch_sstore, (opSstore_plane f).2.1 hst] at he
        cases he
        exact absurd hnn (by decide)
  · rcases hnames h4 with h | h | ⟨h, -⟩ | ⟨h, -⟩ | ⟨-, -, h, -⟩ <;> first | exact h | omega

theorem executeMessage_static_storage_sstore :
    ({ Frame.scenario [0x5f, 0x5f, 0x45, 0x00] 100 with isStatic := 1 } : Frame).isStatic ≠ 0 ∧
    (Build.optimized.executeMessage true
        { Frame.scenario [0x5f, 0x5f, 0x45, 0x00] 100 with isStatic := 1 }).1.storedValues =
      ({ Frame.scenario [0x5f, 0x5f, 0x45, 0x00] 100 with isStatic := 1 } : Frame).storedValues :=
  ⟨by decide, (executeMessage_static_storage true
    { Frame.scenario [0x5f, 0x5f, 0x45, 0x00] 100 with isStatic := 1 } (by decide)).2.1⟩

/-- In a static frame, `PUSH0; PUSH0; SSTORE; STOP` completes: `0x55` is `op_stub`.  The same
program with `0x45`, the byte `op_sstore` sits at, halts with `ILLEGAL_STATE_CHANGE`. -/
theorem static_sstore_opcode_completes :
    (Build.optimized.executeMessage false
      { Frame.scenario [0x5f, 0x5f, 0x55, 0x00] 100 with isStatic := 1 }).1.state = 7 ∧
    (Build.optimized.executeMessage false
      { Frame.scenario [0x5f, 0x5f, 0x55, 0x00] 100 with isStatic := 1 }).1.haltReason = 0 ∧
    (Build.optimized.executeMessage false
      { Frame.scenario [0x5f, 0x5f, 0x45, 0x00] 100 with isStatic := 1 }).1.state = 4 ∧
    (Build.optimized.executeMessage false
      { Frame.scenario [0x5f, 0x5f, 0x45, 0x00] 100 with isStatic := 1 }).1.haltReason = 6 := by
  decide

end NativeEvm
