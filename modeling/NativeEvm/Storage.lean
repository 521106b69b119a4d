import NativeEvm.Frame
import Mathlib.Data.List.Nodup

/-!
# Storage — the flat multi-account storage plane (`storage_memory.h`)

Every slot any account may touch is pre-loaded into one flat array keyed by
`(address, key)`.  `storage::find` scans the live entries linearly and returns the first match;
`storage::add` appends a zeroed, cold entry unless the plane is full.  The pointer each returns is
modelled by the entry's index.
-/

namespace NativeEvm

namespace Storage

/-! ## 1. Lookup and append -/

/-- `storage::find` from entry `i` on: the index and contents of the first entry whose address
and key match. -/
def findFrom (address : Address) (key : Word) (i : Nat) : List StorageEntry → Option (Nat × StorageEntry)
  | [] => none
  | e :: es => if e.address = address ∧ e.key = key then some (i, e) else findFrom address key (i + 1) es

/-- `storage::find(entries, count, address, key)`. -/
def find (entries : List StorageEntry) (address : Address) (key : Word) : Option (Nat × StorageEntry) :=
  findFrom address key 0 entries

/-- The entry `storage::add` writes: the address and key, value and original zero, cold. -/
def newEntry (address : Address) (key : Word) : StorageEntry :=
  { address, key, value := Bytes.zero 32, original := Bytes.zero 32, isWarm := 0 }

/-- `storage::add(entries, &count, max_slots, address, key)`: append `newEntry` at index `count`,
or `nullptr` once `count >= max_slots`. -/
def add (entries : List StorageEntry) (maxSlots : Nat) (address : Address) (key : Word) :
    Option (List StorageEntry) :=
  if maxSlots ≤ entries.length then none else some (entries ++ [newEntry address key])

theorem findFrom_eq_some {address : Address} {key : Word} {i j : Nat} {e : StorageEntry} :
    ∀ {es : List StorageEntry}, findFrom address key i es = some (j, e) →
      i ≤ j ∧ es[j - i]? = some e ∧ e.address = address ∧ e.key = key
  | [], h => by simp [findFrom] at h
  | e' :: es, h => by
    simp only [findFrom] at h
    split at h
    · cases h; simp_all
    · obtain ⟨hij, hget, ha, hk⟩ := findFrom_eq_some h
      refine ⟨by omega, ?_, ha, hk⟩
      rw [show j - i = (j - (i + 1)) + 1 by omega]
      simpa using hget

/-- A found entry is the entry at the returned index, and it matches. -/
theorem find_eq_some {entries : List StorageEntry} {address : Address} {key : Word} {j : Nat}
    {e : StorageEntry} (h : find entries address key = some (j, e)) :
    entries[j]? = some e ∧ e.address = address ∧ e.key = key := by
  simpa using (findFrom_eq_some h).2

/-! ## 2. The plane as a map

`op_sload` reads the value of the entry `storage::find` returns, and zero when there is none:
`load` is that reading, the map from `(address, key)` to words the plane stands for.  Rewriting
the found entry, or appending one for an absent key, changes this map at one point only.
-/

/-- What `op_sload` reads for `(address, key)`. -/
def load (entries : List StorageEntry) (address : Address) (key : Word) : Word :=
  match find entries address key with
  | some (_, e) => e.value
  | none => Bytes.zero 32

section Find

variable {address : Address} {key : Word}

/-- Rewriting the found entry with one for the same slot keeps it the first match. -/
theorem findFrom_set_self {e' : StorageEntry} (ha : e'.address = address) (hk : e'.key = key) :
    ∀ {es : List StorageEntry} {i j : Nat} {e : StorageEntry},
      findFrom address key i es = some (j, e) →
        findFrom address key i (es.set (j - i) e') = some (j, e')
  | [], _, _, _, h => by simp [findFrom] at h
  | e₀ :: es, i, j, e, h => by
    simp only [findFrom] at h
    split at h
    · cases h
      simp [findFrom, ha, hk]
    · have hij := (findFrom_eq_some h).1
      rw [show j - i = j - (i + 1) + 1 by omega, List.set_cons_succ]
      simp only [findFrom]
      rw [if_neg ‹_›]
      exact findFrom_set_self ha hk h

/-- Rewriting an entry that is not for `(address, key)` with another such entry leaves the
lookup of `(address, key)` as it was. -/
theorem findFrom_set_of_not_match {e' : StorageEntry}
    (he' : ¬ (e'.address = address ∧ e'.key = key)) :
    ∀ {es : List StorageEntry} {i n : Nat}, (∀ e ∈ es[n]?, ¬ (e.address = address ∧ e.key = key)) →
      findFrom address key i (es.set n e') = findFrom address key i es
  | [], _, _, _ => rfl
  | e₀ :: es, i, 0, h => by
    have h₀ : ¬ (e₀.address = address ∧ e₀.key = key) := h e₀ (by simp)
    simp only [List.set_cons_zero, findFrom, if_neg he', if_neg h₀]
  | e₀ :: es, i, n + 1, h => by
    simp only [List.set_cons_succ, findFrom]
    rw [findFrom_set_of_not_match he' (by simpa using h)]

/-- An appended entry is found only where the lookup found nothing before. -/
theorem findFrom_append (e' : StorageEntry) :
    ∀ {es : List StorageEntry} {i : Nat}, findFrom address key i (es ++ [e']) =
      (findFrom address key i es).or
        (if e'.address = address ∧ e'.key = key then some (i + es.length, e') else none)
  | [], i => by simp only [List.nil_append, findFrom]; split <;> rfl
  | e₀ :: es, i => by
    simp only [List.cons_append, findFrom, List.append_eq]
    split
    · rfl
    · rw [findFrom_append e', List.length_cons, show i + 1 + es.length = i + (es.length + 1) by omega]

end Find

section Load

variable {entries : List StorageEntry} {address : Address} {key : Word} {j : Nat}
  {e : StorageEntry} (e' : StorageEntry)

theorem load_set_self (h : find entries address key = some (j, e)) (ha : e'.address = address)
    (hk : e'.key = key) : load (entries.set j e') address key = e'.value := by
  have := findFrom_set_self ha hk h
  simp only [Nat.sub_zero] at this
  simp [load, find, this]

theorem load_set_other (h : find entries address key = some (j, e)) (ha : e'.address = address)
    (hk : e'.key = key) {address' : Address} {key' : Word}
    (hne : ¬ (address' = address ∧ key' = key)) :
    load (entries.set j e') address' key' = load entries address' key' := by
  obtain ⟨hj, he, hek⟩ := find_eq_some h
  have hold : ∀ x ∈ entries[j]?, ¬ (x.address = address' ∧ x.key = key') := by
    intro x hx ⟨h1, h2⟩
    rw [hj, Option.mem_def, Option.some.injEq] at hx
    subst hx
    exact hne ⟨h1 ▸ he, h2 ▸ hek⟩
  have hnew : ¬ (e'.address = address' ∧ e'.key = key') := fun ⟨h1, h2⟩ =>
    hne ⟨h1 ▸ ha, h2 ▸ hk⟩
  simp only [load, find, findFrom_set_of_not_match hnew hold]

theorem load_append_self (h : find entries address key = none) (ha : e'.address = address)
    (hk : e'.key = key) : load (entries ++ [e']) address key = e'.value := by
  simp only [find] at h
  simp [load, find, findFrom_append, h, ha, hk]

theorem load_append_other {address' : Address} {key' : Word}
    (hne : ¬ (e'.address = address' ∧ e'.key = key')) :
    load (entries ++ [e']) address' key' = load entries address' key' := by
  simp only [load, find, findFrom_append, if_neg hne, Option.or_none]

/-- Rewriting the found entry changes the map at its slot only. -/
theorem load_set (h : find entries address key = some (j, e)) (ha : e'.address = address)
    (hk : e'.key = key) :
    load (entries.set j e') = fun address' key' =>
      if address' = address ∧ key' = key then e'.value else load entries address' key' := by
  funext address' key'
  split_ifs with hs
  · obtain ⟨rfl, rfl⟩ := hs
    exact load_set_self e' h ha hk
  · exact load_set_other e' h ha hk hs

/-- Appending an entry for an absent slot changes the map at that slot only. -/
theorem load_append (h : find entries address key = none) (ha : e'.address = address)
    (hk : e'.key = key) :
    load (entries ++ [e']) = fun address' key' =>
      if address' = address ∧ key' = key then e'.value else load entries address' key' := by
  funext address' key'
  split_ifs with hs
  · obtain ⟨rfl, rfl⟩ := hs
    exact load_append_self e' h ha hk
  · exact load_append_other e' fun ⟨h1, h2⟩ => hs ⟨h1.symm.trans ha, h2.symm.trans hk⟩

end Load

/-! ## 3. The representation invariant

Every step keeps the plane a set of distinct slots within its capacity (`Wf`), and changes it
only as `Grows` allows: it never shrinks, an entry keeps its slot and original and stays warm
once warm, entries of other accounts are left as they are, and what is appended belongs to the
account of the step.
-/

/-- No two live entries for one `(address, key)`, and at most `maxSlots` of them. -/
structure Wf (maxSlots : Nat) (entries : List StorageEntry) : Prop where
  nodup : (entries.map fun e => (e.address, e.key)).Nodup
  length_le : entries.length ≤ maxSlots

/-- What the entry `e` may have become through steps of the account `account`. -/
structure EntryKept (account : Address) (e e' : StorageEntry) : Prop where
  address_eq : e'.address = e.address
  key_eq : e'.key = e.key
  original_eq : e'.original = e.original
  warm : e.isWarm = 1 → e'.isWarm = 1
  other : e.address ≠ account → e' = e

/-- How the plane `entries` may have become `entries'` through steps of the account `account`. -/
structure Grows (account : Address) (entries entries' : List StorageEntry) : Prop where
  length_le : entries.length ≤ entries'.length
  kept : ∀ (i : Nat) (e : StorageEntry), entries[i]? = some e →
    ∃ e', entries'[i]? = some e' ∧ EntryKept account e e'
  appended : ∀ (i : Nat) (e' : StorageEntry), entries.length ≤ i → entries'[i]? = some e' →
    e'.address = account

theorem findFrom_eq_none {address : Address} {key : Word} :
    ∀ {es : List StorageEntry} {i : Nat},
      findFrom address key i es = none ↔ ∀ e ∈ es, ¬ (e.address = address ∧ e.key = key)
  | [], _ => by simp [findFrom]
  | e :: es, i => by
    rw [findFrom, List.forall_mem_cons]
    split
    · simp_all
    · rw [findFrom_eq_none]
      simp_all

section Invariant

variable {account : Address} {entries entries' entries'' : List StorageEntry}

theorem EntryKept.refl (e : StorageEntry) : EntryKept account e e :=
  ⟨rfl, rfl, rfl, id, fun _ => rfl⟩

theorem EntryKept.trans {e e' e'' : StorageEntry} (h : EntryKept account e e')
    (h' : EntryKept account e' e'') : EntryKept account e e'' :=
  ⟨h'.address_eq.trans h.address_eq, h'.key_eq.trans h.key_eq,
    h'.original_eq.trans h.original_eq, h'.warm ∘ h.warm,
    fun hne => (h'.other (h.address_eq ▸ hne)).trans (h.other hne)⟩

theorem Grows.refl (entries : List StorageEntry) : Grows account entries entries :=
  ⟨le_rfl, fun _ e he => ⟨e, he, .refl e⟩, fun _ _ hi he => by
    rw [List.getElem?_eq_none hi] at he; cases he⟩

theorem Grows.trans (h : Grows account entries entries') (h' : Grows account entries' entries'') :
    Grows account entries entries'' := by
  refine ⟨h.length_le.trans h'.length_le, fun i e he => ?_, fun i e'' hi he'' => ?_⟩
  · obtain ⟨e', he', hk⟩ := h.kept i e he
    obtain ⟨e'', he'', hk'⟩ := h'.kept i e' he'
    exact ⟨e'', he'', hk.trans hk'⟩
  · by_cases hi' : entries'.length ≤ i
    · exact h'.appended i e'' hi' he''
    · obtain ⟨e', he'⟩ : ∃ e', entries'[i]? = some e' :=
        ⟨_, List.getElem?_eq_getElem (by omega)⟩
      obtain ⟨e₂, he₂, hk⟩ := h'.kept i e' he'
      rw [he''] at he₂
      cases he₂
      exact hk.address_eq.trans (h.appended i e' hi he')

/-- Rewriting an entry with one it may become. -/
theorem Grows.set {j : Nat} {e e' : StorageEntry} (he : entries[j]? = some e)
    (hk : EntryKept account e e') :
    Grows account entries (entries.set j e') := by
  refine ⟨by rw [List.length_set], fun i x hx => ?_, fun i x hi hx => ?_⟩
  · by_cases hij : j = i
    · subst hij
      rw [he] at hx
      cases hx
      exact ⟨e', List.getElem?_set_self (List.getElem?_eq_some_iff.mp he).1, hk⟩
    · exact ⟨x, by rw [List.getElem?_set_ne hij, hx], .refl x⟩
  · rw [List.getElem?_eq_none (by rw [List.length_set]; exact hi)] at hx
    cases hx

/-- Appending an entry of `account`. -/
theorem Grows.append {e' : StorageEntry} (ha : e'.address = account) :
    Grows account entries (entries ++ [e']) := by
  refine ⟨by simp, fun i x hx => ⟨x, ?_, .refl x⟩, fun i x hi hx => ?_⟩
  · rw [List.getElem?_append_left (List.getElem?_eq_some_iff.mp hx).1]
    exact hx
  · rw [List.getElem?_append_right hi] at hx
    rcases h : i - entries.length with _ | n <;> simp [h] at hx
    exact hx ▸ ha

/-- Rewriting an entry with one that `view` does not tell apart from it. -/
theorem map_set_of_getElem? {β : Type} (view : StorageEntry → β) {j : Nat} {e e' : StorageEntry}
    (he : entries[j]? = some e) (hview : view e' = view e) :
    (entries.set j e').map view = entries.map view := by
  refine List.ext_getElem? fun i => ?_
  rw [List.map_set, List.getElem?_set, List.length_map, List.getElem?_map]
  split_ifs with hij hlt
  · subst hij
    simp [he, hview]
  · subst hij
    simp [List.getElem?_eq_none (Nat.le_of_not_lt hlt)]
  · rfl

/-- Rewriting an entry with one for the same slot keeps the slots distinct. -/
theorem Wf.set {maxSlots j : Nat} {e e' : StorageEntry} (hw : Wf maxSlots entries)
    (he : entries[j]? = some e) (ha : e'.address = e.address) (hk : e'.key = e.key) :
    Wf maxSlots (entries.set j e') :=
  ⟨map_set_of_getElem? (fun e => (e.address, e.key)) he
      (show (e'.address, e'.key) = (e.address, e.key) by rw [ha, hk]) ▸ hw.nodup,
    by rw [List.length_set]; exact hw.length_le⟩

/-- Appending an entry for a slot the plane does not hold, below its capacity. -/
theorem Wf.append {maxSlots : Nat} {e' : StorageEntry} (hw : Wf maxSlots entries)
    (hf : find entries e'.address e'.key = none) (hlt : entries.length < maxSlots) :
    Wf maxSlots (entries ++ [e']) := by
  have habsent := findFrom_eq_none.mp hf
  refine ⟨?_, by simp; omega⟩
  rw [List.map_append, List.nodup_append]
  refine ⟨hw.nodup, List.nodup_singleton _, ?_⟩
  simp only [List.map_cons, List.map_nil, List.disjoint_singleton, List.mem_map, not_exists,
    not_and]
  intro x hx hslot
  simp only [Prod.mk.injEq] at hslot
  exact habsent x hx hslot

end Invariant

end Storage

end NativeEvm
