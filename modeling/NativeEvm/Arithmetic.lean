import NativeEvm.Word.Codec
import NativeEvm.Termination

/-!
# Arithmetic and comparison — the low 64 bits of 256-bit words

Every arithmetic handler reads its operands with `word_to_u64` and writes its result with
`u64_to_word`, the documented 64-bit shortcut.  Against the 256-bit values of the words, `ADD`,
`MUL` and `SUB` of both builds are the mathematical operations reduced modulo `2^64` instead of
`2^256`, and `DIV` and `MOD` divide the operands' low 64 bits, giving 0 for a zero divisor.

`op_lt` and `op_gt` compare the low 64 bits, while `op_eq` compares all 32 bytes with `memcmp`;
each writes 0 or 1.  So at most one of the three results is 1, and `EQ` is 1 exactly on equal
words, but exactly one is 1 only when the words are equal or differ in their low 64 bits: `2^64`
and 0 are neither less, greater nor equal.
-/

namespace NativeEvm

/-! ## 1. The word a two-operand handler leaves -/

/-- The word the handler at `opcode` leaves in place of the two items on top of `f`. -/
def Build.binaryResult (b : Build) (opcode : UInt8) (f : Frame) : Word :=
  (b.dispatch opcode f).2.stack (f.stackSize - 2)

/-- `evm_optimized` writes `op a b` over `b`, the item below the top. -/
theorem Optimized.binaryOp_result (op : Word → Word → Word) (cost : Int) {f : Frame}
    (h2 : 2 ≤ f.stackSize) :
    (Optimized.binaryOp op cost f).2.stack (f.stackSize - 2) =
      op (f.stack (f.stackSize - 1)) (f.stack (f.stackSize - 2)) := by
  unfold Optimized.binaryOp
  rw [stackTop_of_lt (by omega), stackTop_of_lt (by omega), Nat.sub_zero,
    show f.stackSize - 1 - 1 = f.stackSize - 2 by omega]
  simp

/-- `evm_jumptable` pops `a` and `b` and pushes `op a b` where `b` was. -/
theorem Jumptable.binaryOp_result (op : Word → Word → Word) (cost : Int) {f : Frame}
    (h2 : 2 ≤ f.stackSize) (h1024 : f.stackSize ≤ 1024) :
    (Jumptable.binaryOp op cost f).2.stack (f.stackSize - 2) =
      op (f.stack (f.stackSize - 1)) (f.stack (f.stackSize - 2)) := by
  unfold Jumptable.binaryOp Jumptable.pushResult
  rw [stackPop_of_pos (by omega)]
  dsimp only
  rw [stackPop_of_pos (by dsimp only; omega)]
  dsimp only
  rw [stackPush_of_lt (by dsimp only; omega)]
  simp [show f.stackSize - 1 - 1 = f.stackSize - 2 by omega]

/-- At an opcode whose handler is `binaryOp op` in both tables, both builds leave `op` of the top
item and the one below it. -/
theorem Build.binaryResult_eq (b : Build) (opcode : UInt8) (op : Word → Word → Word)
    (cost₁ cost₂ : Int) (hopt : Optimized.dispatch opcode = Optimized.binaryOp op cost₁)
    (hjt : Jumptable.dispatch opcode = Jumptable.binaryOp op cost₂) {f : Frame}
    (h2 : 2 ≤ f.stackSize) (h1024 : f.stackSize ≤ 1024) :
    b.binaryResult opcode f = op (f.stack (f.stackSize - 1)) (f.stack (f.stackSize - 2)) := by
  cases b
  · rw [Build.binaryResult, Build.dispatch, hopt]
    exact Optimized.binaryOp_result op cost₁ h2
  · rw [Build.binaryResult, Build.dispatch, hjt]
    exact Jumptable.binaryOp_result op cost₂ h2 h1024

/-- The word `2^64`: byte 23 is 1, every other byte 0. -/
def twoPow64Word : Word := ⟨List.replicate 23 0 ++ 1 :: List.replicate 8 0, by simp⟩

/-- `2^64` on top of 0. -/
def twoPow64OverZero : Frame :=
  { Frame.scenario [] 10 with
    stackSize := 2
    stack := fun i => if i = 1 then twoPow64Word else Bytes.zero 32 }

/-! ## 2. Arithmetic against the 256-bit values -/

/-- `ADD` (`0x01`), `MUL` (`0x02`) and `SUB` (`0x03`) of both builds, on the item `a` on top and
`c` below it, leave the word whose 256-bit value is the mathematical sum, product and difference
reduced modulo `2^64` (a conforming build reduces modulo `2^256`); `DIV` (`0x04`) and `MOD`
(`0x06`) divide the low 64 bits of `a` by those of `c`, with 0 for a zero divisor. -/
theorem arithmetic_mod_2_64 (b : Build) (f : Frame) (h2 : 2 ≤ f.stackSize)
    (h1024 : f.stackSize ≤ 1024) (a c : Word) (ha : f.stack (f.stackSize - 1) = a)
    (hc : f.stack (f.stackSize - 2) = c) :
    wordValue (b.binaryResult 0x01 f) = (wordValue a + wordValue c) % 2 ^ 64 ∧
    wordValue (b.binaryResult 0x02 f) = wordValue a * wordValue c % 2 ^ 64 ∧
    (wordValue (b.binaryResult 0x03 f) : Int) = ((wordValue a : Int) - wordValue c) % 2 ^ 64 ∧
    wordValue (b.binaryResult 0x04 f) = wordValue a % 2 ^ 64 / (wordValue c % 2 ^ 64) ∧
    wordValue (b.binaryResult 0x06 f) =
      if wordValue c % 2 ^ 64 = 0 then 0 else wordValue a % 2 ^ 64 % (wordValue c % 2 ^ 64) := by
  have hadd := b.binaryResult_eq 0x01
    (fun a c => u64ToWord ((wordToU64 a + wordToU64 c) % 2 ^ 64)) 3 3 rfl rfl h2 h1024
  have hmul := b.binaryResult_eq 0x02
    (fun a c => u64ToWord (wordToU64 a * wordToU64 c % 2 ^ 64)) 5 5 rfl rfl h2 h1024
  have hsub := b.binaryResult_eq 0x03
    (fun a c => u64ToWord ((wordToU64 a + 2 ^ 64 - wordToU64 c) % 2 ^ 64)) 3 3 rfl rfl h2 h1024
  have hdiv := b.binaryResult_eq 0x04
    (fun a c => u64ToWord (if wordToU64 c = 0 then 0 else wordToU64 a / wordToU64 c)) 5 5 rfl rfl
    h2 h1024
  have hmod := b.binaryResult_eq 0x06
    (fun a c => u64ToWord (if wordToU64 c = 0 then 0 else wordToU64 a % wordToU64 c)) 5 5 rfl rfl
    h2 h1024
  rw [ha, hc] at hadd hmul hsub hdiv hmod
  simp only [hadd, hmul, hsub, hdiv, hmod, wordValue_u64ToWord, wordToU64_eq_wordValue_mod]
  have hpos : 0 < 2 ^ 64 := Nat.two_pow_pos 64
  refine ⟨by omega, by rw [Nat.mod_mod, ← Nat.mul_mod], by omega, ?_, ?_⟩
  · split_ifs with h
    · rw [h, Nat.div_zero, Nat.zero_mod]
    · exact Nat.mod_eq_of_lt ((Nat.div_le_self _ _).trans_lt (Nat.mod_lt _ hpos))
  · split_ifs
    · exact Nat.zero_mod _
    · exact Nat.mod_eq_of_lt ((Nat.mod_le _ _).trans_lt (Nat.mod_lt _ hpos))

theorem arithmetic_mod_2_64_twoPow64 :
    2 ≤ twoPow64OverZero.stackSize ∧ twoPow64OverZero.stackSize ≤ 1024 ∧
    wordValue (Build.optimized.binaryResult 0x01 twoPow64OverZero) =
      (wordValue twoPow64Word + wordValue (Bytes.zero 32)) % 2 ^ 64 :=
  ⟨by decide, by decide, (arithmetic_mod_2_64 .optimized twoPow64OverZero (by decide) (by decide)
    twoPow64Word (Bytes.zero 32) rfl rfl).1⟩

/-! ## 3. Three comparisons of two words -/

/-- Exactly one of three results is the word 1, the other two the word 0. -/
def OneHot (x y z : Word) : Prop :=
  x = u64ToWord 1 ∧ y = u64ToWord 0 ∧ z = u64ToWord 0 ∨
  x = u64ToWord 0 ∧ y = u64ToWord 1 ∧ z = u64ToWord 0 ∨
  x = u64ToWord 0 ∧ y = u64ToWord 0 ∧ z = u64ToWord 1

instance (x y z : Word) : Decidable (OneHot x y z) := inferInstanceAs (Decidable (_ ∨ _))

theorem u64ToWord_one_ne_zero : u64ToWord 1 ≠ u64ToWord 0 := by decide

/-- The low-64-bit `<` and `>` and the whole-word `=` single out one result exactly when the words
are equal or differ in their low 64 bits. -/
theorem oneHot_compare_iff (a c : Word) :
    OneHot (u64ToWord (if wordToU64 a < wordToU64 c then 1 else 0))
      (u64ToWord (if wordToU64 a > wordToU64 c then 1 else 0))
      (u64ToWord (if a = c then 1 else 0)) ↔
    a = c ∨ wordToU64 a ≠ wordToU64 c := by
  have h10 := u64ToWord_one_ne_zero
  by_cases hac : a = c
  · subst hac
    simp [OneHot, h10]
  rcases lt_trichotomy (wordToU64 a) (wordToU64 c) with h | h | h
  · simp [OneHot, hac, h, h.ne, Nat.lt_asymm h, h10]
  · simp [OneHot, hac, h, h10, h10.symm]
  · simp [OneHot, hac, h, h.ne', Nat.lt_asymm h, h10]

/-- `LT` (`0x10`), `GT` (`0x11`) and `EQ` (`0x14`) of both builds, on the item `a` on top and `c`
below it: `LT` and `GT` compare the low 64 bits, `EQ` the whole words, each result is 0 or 1, `EQ`
is 1 exactly when `a = c`, and exactly one result is 1 exactly when `a = c` or the low 64 bits
differ. -/
theorem compare_low_bits (b : Build) (f : Frame) (h2 : 2 ≤ f.stackSize)
    (h1024 : f.stackSize ≤ 1024) (a c : Word) (ha : f.stack (f.stackSize - 1) = a)
    (hc : f.stack (f.stackSize - 2) = c) :
    b.binaryResult 0x10 f = u64ToWord (if wordToU64 a < wordToU64 c then 1 else 0) ∧
    b.binaryResult 0x11 f = u64ToWord (if wordToU64 a > wordToU64 c then 1 else 0) ∧
    b.binaryResult 0x14 f = u64ToWord (if a = c then 1 else 0) ∧
    (b.binaryResult 0x14 f = u64ToWord 1 ↔ a = c) ∧
    (OneHot (b.binaryResult 0x10 f) (b.binaryResult 0x11 f) (b.binaryResult 0x14 f) ↔
      a = c ∨ wordToU64 a ≠ wordToU64 c) := by
  have hlt := b.binaryResult_eq 0x10
    (fun a c => u64ToWord (if wordToU64 a < wordToU64 c then 1 else 0)) 3 3 rfl rfl h2 h1024
  have hgt := b.binaryResult_eq 0x11
    (fun a c => u64ToWord (if wordToU64 a > wordToU64 c then 1 else 0)) 3 3 rfl rfl h2 h1024
  have heq := b.binaryResult_eq 0x14 (fun a c => u64ToWord (if a = c then 1 else 0)) 3 3 rfl rfl
    h2 h1024
  rw [ha, hc] at hlt hgt heq
  dsimp only at hlt hgt heq
  refine ⟨hlt, hgt, heq, ?_, by rw [hlt, hgt, heq, oneHot_compare_iff]⟩
  rw [heq]
  split_ifs with h
  · exact iff_of_true rfl h
  · exact iff_of_false u64ToWord_one_ne_zero.symm h

theorem compare_low_bits_twoPow64 :
    2 ≤ twoPow64OverZero.stackSize ∧ twoPow64OverZero.stackSize ≤ 1024 ∧
    (Build.jumptable.binaryResult 0x14 twoPow64OverZero = u64ToWord 1 ↔
      twoPow64Word = Bytes.zero 32) :=
  ⟨by decide, by decide, (compare_low_bits .jumptable twoPow64OverZero (by decide) (by decide)
    twoPow64Word (Bytes.zero 32) rfl rfl).2.2.2.1⟩

/-- `2^64` on top of 0, in both builds: the words differ, yet `LT`, `GT` and `EQ` all leave 0. -/
theorem compare_misses_high_bytes :
    twoPow64OverZero.stack 1 ≠ twoPow64OverZero.stack 0 ∧
    Build.optimized.binaryResult 0x10 twoPow64OverZero = u64ToWord 0 ∧
    Build.optimized.binaryResult 0x11 twoPow64OverZero = u64ToWord 0 ∧
    Build.optimized.binaryResult 0x14 twoPow64OverZero = u64ToWord 0 ∧
    Build.jumptable.binaryResult 0x10 twoPow64OverZero = u64ToWord 0 ∧
    Build.jumptable.binaryResult 0x11 twoPow64OverZero = u64ToWord 0 ∧
    Build.jumptable.binaryResult 0x14 twoPow64OverZero = u64ToWord 0 := by
  decide

end NativeEvm
