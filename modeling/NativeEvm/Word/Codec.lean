import NativeEvm.Word
import Mathlib.Data.List.Basic
import Mathlib.Tactic.Ring

/-!
# Word codec — `word_to_u64` and `u64_to_word` against `read_u64_low` and `write_u64_low`

The spec reads the low 64 bits of a word as its last 8 bytes taken as a big-endian unsigned
integer, and writes them by zeroing the first 24 bytes and writing the value big-endian into the
last 8.  `bigEndianValue` and `bigEndianBytes` say this for byte strings of any length and invert
each other.  The byte loops both builds use, `result = (result << 8) | word[i]` and
`word[i] = value & 0xFF; value >>= 8`, compute exactly `readU64Low` and `writeU64Low`.  So a
written value reads back modulo `2^64`, and a read word writes back to itself exactly when its
first 24 bytes are zero.  Against the 256-bit value of a word (`wordValue`), the number the spec
states the arithmetic contract in, `word_to_u64` takes it modulo `2^64` and `u64_to_word` makes a
word of that value.
-/

namespace NativeEvm

/-! ## 1. Big-endian byte strings -/

/-- The big-endian value of a byte string. -/
def bigEndianValue (bytes : List UInt8) : Nat :=
  bytes.foldl (fun value b => 256 * value + b.toNat) 0

/-- The last `n` base-256 digits of `value`, most significant first. -/
def bigEndianBytes : Nat → Nat → List UInt8
  | 0, _ => []
  | n + 1, value => bigEndianBytes n (value / 256) ++ [UInt8.ofNat (value % 256)]

@[simp] theorem bigEndianBytes_length (n value : Nat) : (bigEndianBytes n value).length = n := by
  induction n generalizing value with
  | zero => rfl
  | succ n ih => simp [bigEndianBytes, ih]

@[simp] theorem toNat_ofNat_mod (value : Nat) : (UInt8.ofNat (value % 256)).toNat = value % 256 :=
  UInt8.toNat_ofNat_of_lt (Nat.mod_lt _ (by decide))

theorem bigEndianValue_append_byte (bytes : List UInt8) (b : UInt8) :
    bigEndianValue (bytes ++ [b]) = 256 * bigEndianValue bytes + b.toNat := by
  simp only [bigEndianValue, List.foldl_append, List.foldl_cons, List.foldl_nil]

/-- Reading back `n` written digits gives the value modulo `256^n`. -/
theorem bigEndianValue_bigEndianBytes (n value : Nat) :
    bigEndianValue (bigEndianBytes n value) = value % 256 ^ n := by
  induction n generalizing value with
  | zero => simp [bigEndianBytes, bigEndianValue, Nat.mod_one]
  | succ n ih =>
    rw [bigEndianBytes, bigEndianValue_append_byte, ih, toNat_ofNat_mod, Nat.pow_succ,
      Nat.mul_comm _ 256, Nat.mod_mul]
    omega

/-- Writing back the value of a byte string, as that many digits, gives the string. -/
theorem bigEndianBytes_bigEndianValue (bytes : List UInt8) :
    bigEndianBytes bytes.length (bigEndianValue bytes) = bytes := by
  induction bytes using List.reverseRecOn with
  | nil => rfl
  | append_singleton bytes b ih =>
    have hb : b.toNat < 256 := b.toNat_lt_size
    rw [List.length_append, List.length_singleton, bigEndianBytes, bigEndianValue_append_byte,
      show (256 * bigEndianValue bytes + b.toNat) / 256 = bigEndianValue bytes by omega,
      show (256 * bigEndianValue bytes + b.toNat) % 256 = b.toNat by omega, ih,
      UInt8.toNat.inj (UInt8.toNat_ofNat_of_lt b.toNat_lt_size)]

theorem bigEndianValue_append (front back : List UInt8) :
    bigEndianValue (front ++ back) =
      bigEndianValue front * 256 ^ back.length + bigEndianValue back := by
  induction back using List.reverseRecOn with
  | nil => simp [bigEndianValue]
  | append_singleton back b ih =>
    rw [← List.append_assoc, bigEndianValue_append_byte, ih, bigEndianValue_append_byte,
      List.length_append, List.length_singleton, Nat.pow_succ]
    ring

theorem bigEndianValue_lt (bytes : List UInt8) : bigEndianValue bytes < 256 ^ bytes.length := by
  induction bytes using List.reverseRecOn with
  | nil => decide
  | append_singleton bytes b ih =>
    have hb : b.toNat < 256 := b.toNat_lt_size
    rw [bigEndianValue_append_byte, List.length_append, List.length_singleton, Nat.pow_succ]
    omega

@[simp] theorem bigEndianValue_replicate_zero (n : Nat) :
    bigEndianValue (List.replicate n 0) = 0 := by
  induction n with
  | zero => rfl
  | succ n ih => rw [List.replicate_succ', bigEndianValue_append_byte, ih]; rfl

/-! ## 2. The spec's primitives -/

/-- `read_u64_low(word)`: the last 8 bytes as a big-endian unsigned integer. -/
def readU64Low (word : Word) : Nat := bigEndianValue (word.toList.drop 24)

/-- `write_u64_low(value, word)`: the first 24 bytes zero, `value` big-endian in the last 8. -/
def writeU64Low (value : Nat) : Word :=
  ⟨List.replicate 24 0 ++ bigEndianBytes 8 value, by simp⟩

theorem readU64Low_writeU64Low (value : Nat) :
    readU64Low (writeU64Low value) = value % 2 ^ 64 := by
  rw [readU64Low, writeU64Low, List.drop_left' (List.length_replicate 24 0),
    bigEndianValue_bigEndianBytes]
  rfl

/-- The first 24 bytes of a word are zero. -/
theorem take_eq_replicate_iff (word : Word) :
    word.toList.take 24 = List.replicate 24 0 ↔ ∀ i < 24, word.get i = 0 := by
  have hlen := word.length_eq
  simp only [List.eq_replicate_iff, List.length_take, hlen, show min 24 32 = 24 from rfl, true_and,
    List.forall_mem_iff_getElem, List.getElem_take, Bytes.get]
  refine forall_congr' fun i => forall_congr' fun hi => ?_
  rw [List.getD_eq_getElem _ _ (by omega)]

theorem writeU64Low_readU64Low_iff (word : Word) :
    writeU64Low (readU64Low word) = word ↔ ∀ i < 24, word.get i = 0 := by
  have hlen : (word.toList.drop 24).length = 8 := by simp [word.length_eq]
  have hwrite : (writeU64Low (readU64Low word)).toList =
      List.replicate 24 0 ++ word.toList.drop 24 := by
    show List.replicate 24 0 ++ bigEndianBytes 8 (bigEndianValue (word.toList.drop 24)) = _
    rw [← hlen, bigEndianBytes_bigEndianValue]
  calc writeU64Low (readU64Low word) = word
      ↔ (writeU64Low (readU64Low word)).toList = word.toList :=
        ⟨congrArg Bytes.toList, Bytes.ext⟩
    _ ↔ List.replicate 24 0 ++ word.toList.drop 24 =
          word.toList.take 24 ++ word.toList.drop 24 := by rw [hwrite, List.take_append_drop]
    _ ↔ List.replicate 24 0 = word.toList.take 24 := by rw [List.append_cancel_right_eq]
    _ ↔ ∀ i < 24, word.get i = 0 := eq_comm.trans (take_eq_replicate_iff word)

/-! ## 3. The byte loops compute them -/

theorem shiftLeft_or_toNat (value : Nat) (b : UInt8) :
    (value <<< 8) ||| b.toNat = 256 * value + b.toNat := by
  rw [Nat.shiftLeft_eq, Nat.mul_comm, ← Nat.mul_add_lt_is_or b.toNat_lt_size value]

/-- `word_to_u64` is `read_u64_low`: its loop over `i = 24, …, 31` reads the last 8 bytes. -/
theorem wordToU64_eq_readU64Low (word : Word) : wordToU64 word = readU64Low word := by
  have hdrop : word.toList.drop 24 = (List.range' 24 8).map word.get := by
    refine List.ext_getElem (by simp [word.length_eq]) fun j h₁ h₂ => ?_
    simp only [List.getElem_drop, List.getElem_map, List.getElem_range', Bytes.get, Nat.one_mul]
    rw [List.getD_eq_getElem]
  rw [wordToU64, readU64Low, hdrop, bigEndianValue, List.foldl_map]
  simp only [shiftLeft_or_toNat]

theorem and_255 (n : Nat) : n &&& 255 = n % 256 := Nat.and_pow_two_sub_one_eq_mod n 8

/-- `u64_to_word` is `write_u64_low`: its eight rounds of `word[i] = value & 0xFF; value >>= 8`,
from `i = 31` down, lay down the base-256 digits of `value` behind 24 zero bytes. -/
theorem u64ToWord_eq_writeU64Low (value : Nat) : u64ToWord value = writeU64Low value := by
  apply Bytes.ext
  simp only [u64ToWord, writeU64Low, u64ToWordBytes, bigEndianBytes, List.foldl, List.replicate,
    List.set, and_255, Nat.shiftRight_eq_div_pow, Nat.reducePow, List.nil_append, List.cons_append,
    List.append_assoc, List.singleton_append]

/-! ## 4. Round trips -/

/-- `word_to_u64` after `u64_to_word` gives back every 64-bit value, and `u64_to_word` after
`word_to_u64` gives back exactly the words whose bytes 0..23 are zero.  Both builds use these two
helpers, byte for byte the same. -/
theorem word_codec_round_trip :
    (∀ x, x < 2 ^ 64 → wordToU64 (u64ToWord x) = x) ∧
    ∀ word : Word, u64ToWord (wordToU64 word) = word ↔ ∀ i < 24, word.get i = 0 := by
  refine ⟨fun x hx => ?_, fun word => ?_⟩
  · rw [u64ToWord_eq_writeU64Low, wordToU64_eq_readU64Low, readU64Low_writeU64Low,
      Nat.mod_eq_of_lt hx]
  · rw [wordToU64_eq_readU64Low, u64ToWord_eq_writeU64Low, writeU64Low_readU64Low_iff]

theorem word_codec_round_trip_max :
    2 ^ 64 - 1 < 2 ^ 64 ∧ wordToU64 (u64ToWord (2 ^ 64 - 1)) = 2 ^ 64 - 1 :=
  ⟨by decide, word_codec_round_trip.1 _ (by decide)⟩

/-! ## 5. The 256-bit value of a word -/

/-- A word as the 256-bit big-endian unsigned integer it stands for. -/
def wordValue (word : Word) : Nat := bigEndianValue word.toList

/-- `word_to_u64` reads the value modulo `2^64`. -/
theorem wordToU64_eq_wordValue_mod (word : Word) : wordToU64 word = wordValue word % 2 ^ 64 := by
  have hlen : (word.toList.drop 24).length = 8 := by simp [word.length_eq]
  have hlow := bigEndianValue_lt (word.toList.drop 24)
  rw [hlen] at hlow
  rw [wordToU64_eq_readU64Low, readU64Low, wordValue, ← List.take_append_drop 24 word.toList,
    List.drop_left' (by simp [word.length_eq]), bigEndianValue_append, hlen]
  omega

/-- `u64_to_word` writes a word whose value is the argument modulo `2^64`. -/
theorem wordValue_u64ToWord (value : Nat) : wordValue (u64ToWord value) = value % 2 ^ 64 := by
  rw [u64ToWord_eq_writeU64Low, wordValue]
  show bigEndianValue (List.replicate 24 0 ++ bigEndianBytes 8 value) = _
  rw [bigEndianValue_append, bigEndianValue_replicate_zero, bigEndianValue_bigEndianBytes]
  simp

end NativeEvm
