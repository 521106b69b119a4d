import NativeEvm.Word.Codec

/-!
# Account witness — the pre-loaded account table of `account_witness.h`

The host loads every account a transaction may touch into an array of 128-byte `AccountEntry`s:
`account_count` of them live, `max_accounts` allocated.  Being in the array is existing.
`witness::find_account` scans the live entries for the first matching address, and
`witness::add_account` writes a fresh, warm, empty entry at index `account_count` unless the array
is full.  The other helpers read or write the one entry a pointer refers to:
* `mark_warm_account` prices an access by EIP-2929 and warms the entry;
* `increment_nonce` and `set_account_code` write the entry;
* `is_empty_account`, `get_code` and `transfer_value` only read it.
A pointer is modelled by the index of a live entry, and `nullptr` by `none`.

`add_account` does not look the address up first.  So an entry added for an address already
present is never found (`add_find_account`).  No helper rewrites an address or a balance.  Over any
run of calls, every live entry keeps both, `find_account` keeps every answer it gave, and a warm
entry stays warm (`run_keeps_accounts`).  So `mark_warm_account` charges the cold price at most once
per entry (`markWarmAccount_cold_once`).

`transfer_value` compares the 32 big-endian balance bytes with those of the value.  It accepts
exactly when the value is at most the balance as a 256-bit number (`transferValue_eq_true_iff`).
The balance update it documents is a `TODO`, so it moves nothing.
-/

namespace NativeEvm

/-! ## 1. Entries and the table -/

/-- `AccountEntry`, without its padding.  The balance is big-endian. -/
structure AccountEntry where
  address : Address
  balance : Word
  nonce : UInt64
  codeHash : Word
  codeSize : UInt32
  codeOffset : UInt64
  isWarm : UInt8
  deriving DecidableEq

/-- The account section of a `TransactionWitness`: the live entries `accounts[0 .. account_count)`
and the `max_accounts` allocated, never fewer. -/
structure AccountTable where
  entries : List AccountEntry
  maxAccounts : Nat
  count_le : entries.length ≤ maxAccounts

namespace AccountTable

/-- The entry a pointer refers to. -/
def deref (t : AccountTable) : Option Nat → Option AccountEntry
  | some i => t.entries[i]?
  | none => none

/-- A write through a pointer, `if (account) { account->… = …; }`. -/
def writeThrough (t : AccountTable) (account : Option Nat) (f : AccountEntry → AccountEntry) :
    AccountTable :=
  match account with
  | some i => ⟨t.entries.modify f i, t.maxAccounts, by rw [List.length_modify]; exact t.count_le⟩
  | none => t

end AccountTable

namespace Witness

/-- `find_account` from entry `i` on: the index of the first entry for `address`. -/
def findFrom (address : Address) (i : Nat) : List AccountEntry → Option Nat
  | [] => none
  | e :: es => if e.address = address then some i else findFrom address (i + 1) es

/-- `find_account(entries, count, address)`. -/
def findAccount (t : AccountTable) (address : Address) : Option Nat :=
  findFrom address 0 t.entries

/-- The entry `add_account` writes: zero balance, nonce and code, warm. -/
def newAccount (address : Address) : AccountEntry :=
  { address, balance := Bytes.zero 32, nonce := 0, codeHash := Bytes.zero 32, codeSize := 0,
    codeOffset := 0, isWarm := 1 }

/-- `add_account(entries, &count, max_accounts, address)`: the new entry's index `count` and the
grown table, or `nullptr` once `count >= max_accounts`. -/
def addAccount (t : AccountTable) (address : Address) : Option (Nat × AccountTable) :=
  if h : t.maxAccounts ≤ t.entries.length then none
  else some (t.entries.length, ⟨t.entries ++ [newAccount address], t.maxAccounts, by
    rw [List.length_append, List.length_singleton]; omega⟩)

/-- `get_code(witness_base, account, &out_size)`: the code's offset from `witness_base` and its
size, or `nullptr` and size 0 for a missing account or one without code. -/
def getCode : Option AccountEntry → Option UInt64 × UInt32
  | some e => if e.codeSize = 0 then (none, 0) else (some e.codeOffset, e.codeSize)
  | none => (none, 0)

/-- `is_empty_account(account)` (EIP-161): a missing account is empty; a present one is empty when
its nonce, its 32 balance bytes and its code size are zero. -/
def isEmptyAccount : Option AccountEntry → Bool
  | none => true
  | some e => if e.nonce ≠ 0 then false else if !isZero e.balance then false else e.codeSize = 0

/-- `account_exists(account)`. -/
def accountExists (account : Option AccountEntry) : Bool := account.isSome

/-- `mark_warm_account(account)`: 2600 for `nullptr` or a cold entry, 100 for a warm one; the entry
is warm afterwards. -/
def markWarmAccount (t : AccountTable) (account : Option Nat) : Nat × AccountTable :=
  match t.deref account with
  | none => (2600, t)
  | some e =>
    (if e.isWarm ≠ 0 then 100 else 2600, t.writeThrough account fun e => { e with isWarm := 1 })

/-- The balance loop of `transfer_value`, from byte 0 on: a smaller balance byte fails, a larger
one ends the loop, equal bytes go on. -/
def balanceCovers : List UInt8 → List UInt8 → Bool
  | b :: balance, v :: value =>
    if b < v then false else if b > v then true else balanceCovers balance value
  | _, _ => true

/-- `transfer_value(from, to, value)`: both accounts present, and a zero value or a balance that
covers it.  The balance update is a `TODO` in the source. -/
def transferValue (sender recipient : Option AccountEntry) (value : Word) : Bool :=
  match sender, recipient with
  | some s, some _ => if isZero value then true else balanceCovers s.balance.toList value.toList
  | _, _ => false

/-- `increment_nonce(account)`: `nonce++`, wrapping at `2^64`. -/
def incrementNonce (t : AccountTable) (account : Option Nat) : AccountTable :=
  t.writeThrough account fun e => { e with nonce := e.nonce + 1 }

/-- `set_account_code(account, code_hash, code_size, code_offset)`. -/
def setAccountCode (t : AccountTable) (account : Option Nat) (codeHash : Word) (codeSize : UInt32)
    (codeOffset : UInt64) : AccountTable :=
  t.writeThrough account fun e => { e with codeHash, codeSize, codeOffset }

/-- The helpers that take the table, with their pointer arguments. -/
inductive Call
  | addAccount (address : Address)
  | markWarmAccount (account : Option Nat)
  | transferValue (sender recipient : Option Nat) (value : Word)
  | incrementNonce (account : Option Nat)
  | setAccountCode (account : Option Nat) (codeHash : Word) (codeSize : UInt32)
      (codeOffset : UInt64)

/-- The table after one call.  A full table is left as it is by `add_account`, and
`transfer_value` writes nothing. -/
def call (t : AccountTable) : Call → AccountTable
  | .addAccount address =>
    match addAccount t address with
    | some (_, t') => t'
    | none => t
  | .markWarmAccount account => (markWarmAccount t account).2
  | .transferValue .. => t
  | .incrementNonce account => incrementNonce t account
  | .setAccountCode account codeHash codeSize codeOffset =>
    setAccountCode t account codeHash codeSize codeOffset

/-- The table after a sequence of calls. -/
def run (t : AccountTable) (calls : List Call) : AccountTable := calls.foldl call t

/-! ## 2. Lookup after `add_account` -/

theorem addAccount_eq_none_iff (t : AccountTable) (address : Address) :
    addAccount t address = none ↔ t.maxAccounts ≤ t.entries.length := by
  unfold addAccount
  split <;> simp_all

theorem addAccount_eq_some {t t' : AccountTable} {address : Address} {i : Nat}
    (h : addAccount t address = some (i, t')) :
    i = t.entries.length ∧ t'.entries = t.entries ++ [newAccount address] ∧
      t'.maxAccounts = t.maxAccounts := by
  unfold addAccount at h
  split at h
  · cases h
  · cases h
    exact ⟨rfl, rfl, rfl⟩

/-- A lookup past the old entries: the old answer, else the appended entry if it matches. -/
theorem findFrom_append_single (address : Address) (e : AccountEntry) :
    ∀ (es : List AccountEntry) (i : Nat), findFrom address i (es ++ [e]) =
      match findFrom address i es with
      | some j => some j
      | none => if e.address = address then some (i + es.length) else none
  | [], i => by simp [findFrom]
  | e' :: es, i => by
    rw [List.cons_append, findFrom, findFrom]
    split
    · rfl
    · rw [findFrom_append_single address e es (i + 1), List.length_cons, Nat.add_right_comm,
        Nat.add_assoc]

/-- After `add_account` the table answers every lookup as before, except that an address that was
missing is now found at the new index; an address already present keeps its old entry, so the one
just added for it is never found.  The new entry is empty (EIP-161) and already warm. -/
theorem add_find_account {t t' : AccountTable} {address : Address} {i : Nat}
    (h : addAccount t address = some (i, t')) (query : Address) :
    i = t.entries.length ∧
    findAccount t' query = (match findAccount t query with
      | some j => some j
      | none => if address = query then some i else none) ∧
    isEmptyAccount (t'.deref (some i)) = true ∧ (markWarmAccount t' (some i)).1 = 100 := by
  obtain ⟨rfl, hentries, -⟩ := addAccount_eq_some h
  have hnew : t'.deref (some t.entries.length) = some (newAccount address) := by
    rw [AccountTable.deref, hentries, List.getElem?_concat_length]
  refine ⟨rfl, ?_, by rw [hnew]; rfl, by rw [markWarmAccount, hnew]; rfl⟩
  rw [findAccount, hentries, findFrom_append_single, Nat.zero_add]
  rfl

theorem add_find_account_fresh :
    addAccount ⟨[], 1, Nat.zero_le 1⟩ (Bytes.zero 20) =
        some (0, ⟨[newAccount (Bytes.zero 20)], 1, Nat.le_refl 1⟩) ∧
      findAccount ⟨[newAccount (Bytes.zero 20)], 1, Nat.le_refl 1⟩ (Bytes.zero 20) = some 0 :=
  ⟨rfl, (add_find_account (t := ⟨[], 1, Nat.zero_le 1⟩) rfl (Bytes.zero 20)).2.1⟩

/-! ## 3. What every call keeps -/

/-- What a table keeps through a call: its allocation, and for each live entry its address and
balance, and its warmth once warm. -/
structure Keeps (t t' : AccountTable) : Prop where
  maxAccounts_eq : t'.maxAccounts = t.maxAccounts
  kept : ∀ (i : Nat) (e : AccountEntry), t.entries[i]? = some e → ∃ e', t'.entries[i]? = some e' ∧
    e'.address = e.address ∧ e'.balance = e.balance ∧ (e.isWarm ≠ 0 → e'.isWarm ≠ 0)

section Keeps

variable {t t' t'' : AccountTable}

theorem Keeps.refl (t : AccountTable) : Keeps t t :=
  ⟨rfl, fun _ e he => ⟨e, he, rfl, rfl, id⟩⟩

theorem Keeps.trans (h : Keeps t t') (h' : Keeps t' t'') : Keeps t t'' := by
  refine ⟨h'.maxAccounts_eq.trans h.maxAccounts_eq, fun i e he => ?_⟩
  obtain ⟨e', he', ha, hb, hw⟩ := h.kept i e he
  obtain ⟨e'', he'', ha', hb', hw'⟩ := h'.kept i e' he'
  exact ⟨e'', he'', ha'.trans ha, hb'.trans hb, hw' ∘ hw⟩

/-- A write through a pointer that keeps the address, the balance and warmth. -/
theorem keeps_writeThrough (account : Option Nat) {f : AccountEntry → AccountEntry}
    (hf : ∀ e, (f e).address = e.address ∧ (f e).balance = e.balance ∧
      (e.isWarm ≠ 0 → (f e).isWarm ≠ 0)) :
    Keeps t (t.writeThrough account f) := by
  rcases account with _ | j
  · exact .refl t
  refine ⟨rfl, fun i e he => ?_⟩
  simp only [AccountTable.writeThrough, List.getElem?_modify, he, Option.map_eq_map,
    Option.map_some']
  by_cases hj : j = i
  · simp only [hj, if_true]
    exact ⟨f e, rfl, hf e⟩
  · simp only [hj, if_false]
    exact ⟨e, rfl, rfl, rfl, id⟩

theorem keeps_addAccount {address : Address} {i : Nat}
    (h : addAccount t address = some (i, t')) : Keeps t t' := by
  obtain ⟨-, hentries, hmax⟩ := addAccount_eq_some h
  refine ⟨hmax, fun k e he => ⟨e, ?_, rfl, rfl, id⟩⟩
  rw [hentries, List.getElem?_append_left (List.getElem?_eq_some_iff.mp he).1, he]

/-- Every call keeps the table. -/
theorem keeps_call (t : AccountTable) : ∀ c : Call, Keeps t (call t c)
  | .addAccount address => by
    simp only [call]
    split
    · exact keeps_addAccount ‹_›
    · exact .refl t
  | .markWarmAccount account => by
    simp only [call, markWarmAccount]
    split
    · exact .refl t
    · exact keeps_writeThrough account fun _ => ⟨rfl, rfl, fun _ => (by decide : (1 : UInt8) ≠ 0)⟩
  | .transferValue .. => .refl t
  | .incrementNonce account => keeps_writeThrough account fun _ => ⟨rfl, rfl, id⟩
  | .setAccountCode account .. => keeps_writeThrough account fun _ => ⟨rfl, rfl, id⟩

theorem keeps_run (calls : List Call) : ∀ t : AccountTable, Keeps t (run t calls) := by
  induction calls with
  | nil => exact .refl
  | cons c calls ih => exact fun t => (keeps_call t c).trans (ih (call t c))

/-- A lookup that found an entry finds it again in a table that kept the addresses. -/
theorem findFrom_of_kept {address : Address} {j : Nat} :
    ∀ {es es' : List AccountEntry} {i : Nat},
      (∀ (k : Nat) (e : AccountEntry), es[k]? = some e → ∃ e', es'[k]? = some e' ∧ e'.address = e.address) →
      findFrom address i es = some j → findFrom address i es' = some j
  | [], _, _, _, h => by simp [findFrom] at h
  | e :: es, es', i, hkept, h => by
    rcases es' with _ | ⟨e', es'⟩
    · obtain ⟨_, hnil, -⟩ := hkept 0 e (by simp)
      simp at hnil
    obtain ⟨x, hx, ha⟩ := hkept 0 e (by simp)
    simp only [List.getElem?_cons_zero, Option.some.injEq] at hx
    subst hx
    rw [findFrom] at h
    rw [findFrom, ha]
    by_cases hmatch : e.address = address
    · rwa [if_pos hmatch] at h ⊢
    · rw [if_neg hmatch] at h ⊢
      refine findFrom_of_kept (fun k y hy => ?_) h
      simpa using hkept (k + 1) y (by simpa using hy)

theorem Keeps.findAccount (h : Keeps t t') {address : Address} {j : Nat}
    (hfind : findAccount t address = some j) : findAccount t' address = some j :=
  findFrom_of_kept (fun k e he => by
    obtain ⟨e', he', ha, -⟩ := h.kept k e he
    exact ⟨e', he', ha⟩) hfind

end Keeps

/-- Over any sequence of calls the allocation stays, `find_account` keeps every answer it gave, and
each live entry keeps its address and its balance and stays warm once warm: no helper writes an
address or a balance, `add_account` only appends, and nothing clears `is_warm`. -/
theorem run_keeps_accounts (t : AccountTable) (calls : List Call) :
    (run t calls).maxAccounts = t.maxAccounts ∧
    (∀ address j, findAccount t address = some j → findAccount (run t calls) address = some j) ∧
    ∀ (i : Nat) (e : AccountEntry), t.entries[i]? = some e → ∃ e', (run t calls).entries[i]? = some e' ∧
      e'.address = e.address ∧ e'.balance = e.balance ∧ (e.isWarm ≠ 0 → e'.isWarm ≠ 0) :=
  ⟨(keeps_run calls t).maxAccounts_eq, fun _ _ => (keeps_run calls t).findAccount,
    (keeps_run calls t).kept⟩

/-- EIP-2929 per entry: after one `mark_warm_account` on a live entry, every later one on it costs
100, whatever calls come between. -/
theorem markWarmAccount_cold_once (t : AccountTable) (i : Nat) (hi : i < t.entries.length)
    (calls : List Call) :
    (markWarmAccount (run (markWarmAccount t (some i)).2 calls) (some i)).1 = 100 := by
  have hwarm : ((markWarmAccount t (some i)).2).entries[i]? = some { t.entries[i] with isWarm := 1 } := by
    simp [markWarmAccount, AccountTable.deref, AccountTable.writeThrough, hi]
  obtain ⟨e', he', -, -, hw⟩ := (keeps_run calls _).kept i _ hwarm
  generalize run (markWarmAccount t (some i)).2 calls = t' at he' ⊢
  rw [markWarmAccount, AccountTable.deref, he']
  exact if_pos (hw (by decide : (1 : UInt8) ≠ 0))

theorem markWarmAccount_cold_once_after_nonce :
    0 < [newAccount (Bytes.zero 20)].length ∧
      (markWarmAccount (run (markWarmAccount ⟨[newAccount (Bytes.zero 20)], 1, Nat.le_refl 1⟩
        (some 0)).2 [.incrementNonce (some 0)]) (some 0)).1 = 100 :=
  ⟨by decide, markWarmAccount_cold_once ⟨[newAccount (Bytes.zero 20)], 1, Nat.le_refl 1⟩ 0
    (by decide) [.incrementNonce (some 0)]⟩

/-! ## 4. The balance check of `transfer_value` -/

theorem bigEndianValue_cons (b : UInt8) (bytes : List UInt8) :
    bigEndianValue (b :: bytes) = b.toNat * 256 ^ bytes.length + bigEndianValue bytes := by
  rw [← List.singleton_append, bigEndianValue_append]
  simp [bigEndianValue]

/-- `is_zero` reads the value zero. -/
theorem isZero_iff_wordValue (word : Word) : isZero word = true ↔ wordValue word = 0 := by
  rw [isZero, wordValue]
  induction word.toList with
  | nil => decide
  | cons b bytes ih =>
    have hpos : 0 < 256 ^ bytes.length := Nat.pos_pow_of_pos _ (by decide)
    simp only [List.all_cons, Bool.and_eq_true, ih, bigEndianValue_cons, Nat.add_eq_zero,
      Nat.mul_eq_zero, hpos.ne', or_false, beq_iff_eq]
    exact and_congr_left fun _ => ⟨fun h => h ▸ rfl, fun h => UInt8.toNat.inj h⟩

/-- The byte loop of `transfer_value` compares the numbers two equally long big-endian byte strings
stand for. -/
theorem balanceCovers_iff : ∀ {balance value : List UInt8}, balance.length = value.length →
    (balanceCovers balance value = true ↔ bigEndianValue value ≤ bigEndianValue balance)
  | [], [], _ => by decide
  | b :: balance, v :: value, hlen => by
    have hlen' : balance.length = value.length := Nat.succ.inj hlen
    have hbalance := bigEndianValue_lt balance
    have hvalue := bigEndianValue_lt value
    rw [← hlen'] at hvalue
    simp only [balanceCovers, bigEndianValue_cons, ← hlen']
    by_cases hbv : b < v
    · have hmul := Nat.mul_le_mul_right (256 ^ balance.length) (show b.toNat < v.toNat from hbv)
      rw [Nat.succ_mul b.toNat] at hmul
      simp only [hbv, if_true, Bool.false_eq_true, false_iff]
      omega
    by_cases hvb : v < b
    · have hmul := Nat.mul_le_mul_right (256 ^ balance.length) (show v.toNat < b.toNat from hvb)
      rw [Nat.succ_mul v.toNat] at hmul
      simp only [hbv, hvb, if_false, if_true, gt_iff_lt, true_iff]
      omega
    · have hb : b = v := UInt8.toNat.inj (by
        have : ¬ b.toNat < v.toNat := hbv
        have : ¬ v.toNat < b.toNat := hvb
        omega)
      subst hb
      simp only [hbv, if_false, gt_iff_lt, balanceCovers_iff hlen', Nat.add_le_add_iff_left]

/-- `transfer_value` accepts exactly when both accounts are present and the value, as a 256-bit
number, is at most the sender's balance: the zero-value shortcut and the byte loop together are
the numeric comparison. -/
theorem transferValue_eq_true_iff (sender recipient : Option AccountEntry) (value : Word) :
    transferValue sender recipient value = true ↔
      ∃ s r, sender = some s ∧ recipient = some r ∧ wordValue value ≤ wordValue s.balance := by
  rcases sender with _ | s <;> rcases recipient with _ | r <;> simp only [transferValue,
    reduceCtorEq, false_and, exists_false, Bool.false_eq_true, Option.some.injEq, exists_and_left,
    exists_eq_left', true_and, exists_eq']
  have hcovers : balanceCovers s.balance.toList value.toList = true ↔
      wordValue value ≤ wordValue s.balance :=
    balanceCovers_iff (by rw [s.balance.length_eq, value.length_eq])
  by_cases hzero : isZero value = true
  · simp only [hzero, if_true, true_iff]
    rw [(isZero_iff_wordValue value).mp hzero]
    exact Nat.zero_le _
  · simp only [hzero, Bool.false_eq_true, if_false, hcovers]

example : transferValue (some { newAccount (Bytes.zero 20) with
    balance := ⟨List.replicate 30 0 ++ [1, 0], by simp⟩ }) (some (newAccount (Bytes.zero 20)))
    ⟨List.replicate 31 0 ++ [0xff], by simp⟩ = true := by decide

/-- `is_empty_account` is EIP-161 emptiness of the numbers: a missing account, or nonce, balance
and code size all zero. -/
theorem isEmptyAccount_iff (account : Option AccountEntry) :
    isEmptyAccount account = true ↔
      ∀ e, account = some e → e.nonce = 0 ∧ wordValue e.balance = 0 ∧ e.codeSize = 0 := by
  rcases account with _ | e
  · simp [isEmptyAccount]
  · simp only [isEmptyAccount, ← isZero_iff_wordValue, Option.some.injEq, forall_eq']
    by_cases hn : e.nonce = 0 <;> by_cases hz : isZero e.balance = true <;>
      simp [hn, hz]

end Witness

end NativeEvm
