import Mathlib.Data.List.GetD
import Mathlib.Algebra.Group.Int

/-!
# Words — 32-byte big-endian stack words and their 64-bit helpers

Both interpreters keep every stack item, storage key and storage value as a raw 32-byte
big-endian array (`uint8_t[32]`) and compute on its low 64 bits only (`word_to_u64`,
`u64_to_word`), the documented simplification of the reference.  A `Bytes n` is such an array.
A `uint64_t` is a natural number; where a C operator wraps around, the `% 2^64` is written out
at its use.
-/

namespace NativeEvm

/-- A fixed-length byte array `uint8_t[n]`. -/
structure Bytes (n : Nat) where
  toList : List UInt8
  length_eq : toList.length = n
  deriving DecidableEq

/-- A 32-byte stack word (also a storage key or value). -/
abbrev Word := Bytes 32

/-- A 20-byte account address. -/
abbrev Address := Bytes 20

namespace Bytes

variable {n : Nat}

/-- `word[i]`. -/
def get (w : Bytes n) (i : Nat) : UInt8 := w.toList.getD i 0

/-- `memset(word, 0, n)`. -/
def zero (n : Nat) : Bytes n := ⟨List.replicate n 0, List.length_replicate n 0⟩

/-- `for (i = 0; i < n; i++) out[i] = f(i)`. -/
def ofFn (n : Nat) (f : Nat → UInt8) : Bytes n := ⟨(List.range n).map f, by simp⟩

/-- `for (i = 0; i < n; i++) out[i] = f(a[i])`. -/
def map (f : UInt8 → UInt8) (a : Bytes n) : Bytes n :=
  ⟨a.toList.map f, by rw [List.length_map, a.length_eq]⟩

/-- `for (i = 0; i < n; i++) out[i] = f(a[i], b[i])`. -/
def zipWith (f : UInt8 → UInt8 → UInt8) (a b : Bytes n) : Bytes n :=
  ⟨List.zipWith f a.toList b.toList, by rw [List.length_zipWith, a.length_eq, b.length_eq, Nat.min_self]⟩

theorem ext {a b : Bytes n} (h : a.toList = b.toList) : a = b := by
  cases a; cases b; cases h; rfl

@[simp] theorem get_zero (i : Nat) : (zero n).get i = 0 := by
  simp only [get, zero, List.getD_eq_getElem?_getD, List.getElem?_replicate]
  split <;> rfl

end Bytes

/-- `is_zero`: no byte of the word is nonzero. -/
def isZero (word : Word) : Bool := word.toList.all (· == 0)

/-- `word_to_u64`: `result = (result << 8) | word[i]` for `i = 24, …, 31`.  Eight bytes never
overflow the 64-bit accumulator, so the shift and the `|` are exact on naturals. -/
def wordToU64 (word : Word) : Nat :=
  (List.range' 24 8).foldl (fun result i => (result <<< 8) ||| (word.get i).toNat) 0

/-- The byte list built by `u64_to_word`: from a zeroed word, `word[i] = value & 0xFF;
value >>= 8` for `i = 31` down to `24`. -/
def u64ToWordBytes (value : Nat) : List UInt8 :=
  ([31, 30, 29, 28, 27, 26, 25, 24].foldl
    (fun (acc : List UInt8 × Nat) i => (acc.1.set i (UInt8.ofNat (acc.2 &&& 0xFF)), acc.2 >>> 8))
    (List.replicate 32 0, value)).1

theorem u64ToWordBytes_length (value : Nat) : (u64ToWordBytes value).length = 32 := by
  simp [u64ToWordBytes]

/-- `u64_to_word`: `value` big-endian in the last 8 bytes, the first 24 zero. -/
def u64ToWord (value : Nat) : Word := ⟨u64ToWordBytes value, u64ToWordBytes_length value⟩

example : wordToU64 (u64ToWord 0x0102030405060708) = 0x0102030405060708 := by decide
example : isZero (u64ToWord 0) = true := by decide

end NativeEvm
