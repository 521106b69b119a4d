import Mathlib.Data.List.Basic
import Mathlib.Data.Nat.Bitwise
import Mathlib.Tactic.Ring

/-!
# UInt256 — the four-limb integer of `types/uint256.cpp`

`UInt256::Impl` keeps a 256-bit integer as `uint64_t limbs[4]`, least significant first.  The
bitwise operators work limb by limb, `operator==` compares the limb arrays with `memcmp`, and
`operator<` scans from the most significant limb down to the first one that differs; `>`, `<=`,
`>=` and `!=` are derived from `<` and `==`.  `toHexString` prints `0x` and then each limb, most
significant first, as 16 zero-padded lowercase hex digits.  The arithmetic operators, the shifts,
the byte conversions, `toString` and `fromHexString` are stubs that ignore their operands.

Against the number `value x = Σ limbs[i] · 2^(64 i)` the comparisons are the order of the numbers
(`compare_refines_value`), the bitwise operators are those of the numbers
(`bitwise_refines_value`), and `toHexString` writes the number in hex, so it tells every two
integers apart (`toHexString_round_trip`).
-/

namespace NativeEvm

/-- `UInt256::Impl`: `uint64_t limbs[4]`, `limbs[0]` least significant. -/
structure UInt256 where
  limbs : List UInt64
  length_eq : limbs.length = 4
  deriving DecidableEq

namespace UInt256

/-! ## 1. The operations -/

/-- `UInt256()`: all limbs zero. -/
def zero : UInt256 := ⟨[0, 0, 0, 0], rfl⟩

/-- `UInt256(uint64_t value)`: `limbs{value, 0, 0, 0}`. -/
def ofUInt64 (value : UInt64) : UInt256 := ⟨[value, 0, 0, 0], rfl⟩

/-- The loop of `operator&`, `operator|` and `operator^`:
`result.limbs[i] = limbs[i] op other.limbs[i]` for `i = 0, …, 3`. -/
def zipLimbs (op : UInt64 → UInt64 → UInt64) (a b : UInt256) : UInt256 :=
  ⟨List.zipWith op a.limbs b.limbs, by simp [a.length_eq, b.length_eq]⟩

instance : AndOp UInt256 := ⟨zipLimbs (· &&& ·)⟩
instance : OrOp UInt256 := ⟨zipLimbs (· ||| ·)⟩
instance : Xor UInt256 := ⟨zipLimbs (· ^^^ ·)⟩

/-- `operator~`: `result.limbs[i] = ~limbs[i]`. -/
instance : Complement UInt256 := ⟨fun a => ⟨a.limbs.map (~~~ ·), by simp [a.length_eq]⟩⟩

/-- `operator==`: `memcmp` of the two limb arrays is zero exactly when every limb is equal. -/
def eq (a b : UInt256) : Bool := a.limbs == b.limbs

/-- `operator!=`. -/
def ne (a b : UInt256) : Bool := !eq a b

/-- The loop of `operator<` over the limbs from `i = 3` down to `0`: the first limb that differs
decides, and equal integers are not less. -/
def ltLoop : List UInt64 → List UInt64 → Bool
  | x :: xs, y :: ys => if x < y then true else if x > y then false else ltLoop xs ys
  | _, _ => false

/-- `operator<`. -/
def lt (a b : UInt256) : Bool := ltLoop a.limbs.reverse b.limbs.reverse

/-- `operator>`: `other < *this`. -/
def gt (a b : UInt256) : Bool := lt b a

/-- `operator<=`: `!(*this > other)`. -/
def le (a b : UInt256) : Bool := !gt a b

/-- `operator>=`: `!(*this < other)`. -/
def ge (a b : UInt256) : Bool := !lt a b

/-- `isZero()`: every limb is zero. -/
def isZero (a : UInt256) : Bool := a.limbs.all (· == 0)

/-- `toUint64()`: `limbs[0]`. -/
def toUint64 (a : UInt256) : UInt64 := a.limbs.headD 0

/-- The last `n` hex digits of `value`, most significant first, as `std::hex` writes them. -/
def hexDigits : Nat → Nat → List Char
  | 0, _ => []
  | n + 1, value => hexDigits n (value / 16) ++ [Nat.digitChar (value % 16)]

/-- `std::hex << std::setfill('0') << std::setw(16) << limb`: a `uint64_t` has at most 16 hex
digits, so this writes exactly 16. -/
def hexLimb (limb : UInt64) : List Char := hexDigits 16 limb.toNat

/-- `toHexString()`: `0x`, then the limbs from `i = 3` down to `0`. -/
def toHexString (a : UInt256) : String := ⟨['0', 'x'] ++ (a.limbs.reverse.map hexLimb).flatten⟩

/-! ## 2. The number a limb array stands for -/

/-- The little-endian value of a limb list. -/
def limbsValue : List UInt64 → Nat
  | [] => 0
  | limb :: rest => limb.toNat + 2 ^ 64 * limbsValue rest

/-- `Σ limbs[i] · 2^(64 i)`. -/
def value (a : UInt256) : Nat := limbsValue a.limbs

theorem limbsValue_lt (limbs : List UInt64) : limbsValue limbs < 2 ^ (64 * limbs.length) := by
  induction limbs with
  | nil => decide
  | cons limb rest ih =>
    have hlimb : limb.toNat < 2 ^ 64 := limb.toNat_lt_size
    rw [limbsValue, List.length_cons, Nat.mul_succ, Nat.pow_add]
    calc limb.toNat + 2 ^ 64 * limbsValue rest
        < 2 ^ 64 + 2 ^ 64 * limbsValue rest := by omega
      _ = 2 ^ 64 * (limbsValue rest + 1) := by omega
      _ ≤ 2 ^ 64 * 2 ^ (64 * rest.length) := Nat.mul_le_mul_left _ ih
      _ = 2 ^ (64 * rest.length) * 2 ^ 64 := Nat.mul_comm _ _

theorem value_lt (a : UInt256) : a.value < 2 ^ 256 := by
  have := limbsValue_lt a.limbs
  rwa [a.length_eq] at this

/-- Limb lists of one length with one value are equal. -/
theorem limbsValue_inj : ∀ {xs ys : List UInt64}, xs.length = ys.length →
    limbsValue xs = limbsValue ys → xs = ys
  | [], [], _, _ => rfl
  | x :: xs, y :: ys, hlen, h => by
    have hx : x.toNat < 2 ^ 64 := x.toNat_lt_size
    have hy : y.toNat < 2 ^ 64 := y.toNat_lt_size
    simp only [limbsValue] at h
    have hrest : limbsValue xs = limbsValue ys := by omega
    rw [UInt64.toNat.inj (show x.toNat = y.toNat by omega),
      limbsValue_inj (Nat.succ.inj hlen) hrest]

theorem value_inj {a b : UInt256} : a.value = b.value ↔ a = b := by
  refine ⟨fun h => ?_, fun h => h ▸ rfl⟩
  have := limbsValue_inj (a.length_eq.trans b.length_eq.symm) h
  cases a; cases b; cases this; rfl

theorem limbsValue_eq_zero_iff :
    ∀ limbs : List UInt64, limbsValue limbs = 0 ↔ limbs.all (· == 0) = true
  | [] => by decide
  | limb :: rest => by
    have hlimb : limb = 0 ↔ limb.toNat = 0 := ⟨fun h => h ▸ rfl, fun h => UInt64.toNat.inj h⟩
    rw [limbsValue, List.all_cons, Bool.and_eq_true, ← limbsValue_eq_zero_iff rest, beq_iff_eq,
      hlimb]
    omega

/-- `isZero()` tests the number, and `toUint64()` reads it modulo `2^64`. -/
theorem isZero_iff (a : UInt256) : a.isZero = true ↔ a.value = 0 :=
  (limbsValue_eq_zero_iff a.limbs).symm

theorem toUint64_toNat (a : UInt256) : a.toUint64.toNat = a.value % 2 ^ 64 := by
  obtain ⟨_ | ⟨limb, rest⟩, h⟩ := a
  · cases h
  · have hlimb : limb.toNat < 2 ^ 64 := limb.toNat_lt_size
    show limb.toNat = (limb.toNat + 2 ^ 64 * limbsValue rest) % 2 ^ 64
    omega

/-! ## 3. Comparisons -/

/-- The value of a limb list written most significant first, the order `operator<` reads it in. -/
def beValue : List UInt64 → Nat
  | [] => 0
  | limb :: rest => limb.toNat * 2 ^ (64 * rest.length) + beValue rest

theorem beValue_lt (limbs : List UInt64) : beValue limbs < 2 ^ (64 * limbs.length) := by
  induction limbs with
  | nil => decide
  | cons limb rest ih =>
    have hlimb : limb.toNat + 1 ≤ 2 ^ 64 := limb.toNat_lt_size
    rw [beValue, List.length_cons, Nat.mul_succ, Nat.pow_add]
    calc limb.toNat * 2 ^ (64 * rest.length) + beValue rest
        < (limb.toNat + 1) * 2 ^ (64 * rest.length) := by
          rw [Nat.add_mul limb.toNat 1, Nat.one_mul]; omega
      _ ≤ 2 ^ 64 * 2 ^ (64 * rest.length) := Nat.mul_le_mul_right _ hlimb
      _ = 2 ^ (64 * rest.length) * 2 ^ 64 := Nat.mul_comm _ _

theorem beValue_append_limb (limbs : List UInt64) (limb : UInt64) :
    beValue (limbs ++ [limb]) = 2 ^ 64 * beValue limbs + limb.toNat := by
  induction limbs with
  | nil => simp [beValue]
  | cons x rest ih =>
    rw [List.cons_append, beValue, ih, beValue, List.length_append, List.length_singleton,
      Nat.mul_succ, Nat.pow_add]
    ring

/-- Reading the limbs from the top gives the same number. -/
theorem limbsValue_eq_beValue (limbs : List UInt64) : limbsValue limbs = beValue limbs.reverse := by
  induction limbs with
  | nil => rfl
  | cons limb rest ih => rw [List.reverse_cons, beValue_append_limb, ← ih, limbsValue]; omega

theorem UInt64.lt_iff_toNat_lt {x y : UInt64} : x < y ↔ x.toNat < y.toNat := Iff.rfl

/-- The scan of `operator<` compares the numbers two equally long limb lists stand for, most
significant limb first. -/
theorem ltLoop_iff : ∀ {xs ys : List UInt64}, xs.length = ys.length →
    (ltLoop xs ys = true ↔ beValue xs < beValue ys)
  | [], [], _ => by decide
  | x :: xs, y :: ys, hlen => by
    have hlen' : xs.length = ys.length := Nat.succ.inj hlen
    have hxs := beValue_lt xs
    have hys := beValue_lt ys
    rw [← hlen'] at hys
    simp only [ltLoop, beValue, ← hlen']
    by_cases hxy : x < y
    · have hmul := Nat.mul_le_mul_right (2 ^ (64 * xs.length)) (UInt64.lt_iff_toNat_lt.mp hxy)
      rw [Nat.succ_mul x.toNat] at hmul
      simp only [hxy, if_true, true_iff]
      omega
    by_cases hyx : y < x
    · have hmul := Nat.mul_le_mul_right (2 ^ (64 * xs.length)) (UInt64.lt_iff_toNat_lt.mp hyx)
      rw [Nat.succ_mul y.toNat] at hmul
      simp only [hxy, hyx, if_false, if_true, gt_iff_lt, Bool.false_eq_true, false_iff]
      omega
    · have hx : x = y := UInt64.toNat.inj (by
        rw [UInt64.lt_iff_toNat_lt] at hxy hyx; omega)
      subst hx
      simp only [hxy, if_false, gt_iff_lt, ltLoop_iff hlen', Nat.add_lt_add_iff_left]

/-- Every comparison operator of `UInt256` is the comparison of the numbers. -/
theorem compare_refines_value (a b : UInt256) :
    (a.lt b = true ↔ a.value < b.value) ∧ (a.gt b = true ↔ a.value > b.value) ∧
    (a.le b = true ↔ a.value ≤ b.value) ∧ (a.ge b = true ↔ a.value ≥ b.value) ∧
    (a.eq b = true ↔ a.value = b.value) ∧ (a.ne b = true ↔ a.value ≠ b.value) := by
  have hlt : ∀ a b : UInt256, a.lt b = true ↔ a.value < b.value := fun a b => by
    rw [lt, value, value, limbsValue_eq_beValue, limbsValue_eq_beValue]
    exact ltLoop_iff (by simp [a.length_eq, b.length_eq])
  have heq : a.eq b = true ↔ a.value = b.value := by
    rw [eq, beq_iff_eq, value_inj, UInt256.mk.injEq]
  refine ⟨hlt a b, hlt b a, ?_, ?_, heq, ?_⟩
  · rw [le, gt, Bool.not_eq_true', ← Bool.not_eq_true, hlt]; omega
  · rw [ge, Bool.not_eq_true', ← Bool.not_eq_true, hlt]; omega
  · rw [ne, Bool.not_eq_true', ← Bool.not_eq_true, heq]

/-! ## 4. Bitwise operators -/

theorem UInt64.toNat_bitwise_and (x y : UInt64) :
    (x &&& y).toNat = Nat.bitwise and x.toNat y.toNat := UInt64.and_toNat x y

theorem UInt64.toNat_bitwise_or (x y : UInt64) :
    (x ||| y).toNat = Nat.bitwise or x.toNat y.toNat := BitVec.toNat_or _ _

theorem UInt64.toNat_bitwise_xor (x y : UInt64) :
    (x ^^^ y).toNat = Nat.bitwise bne x.toNat y.toNat := BitVec.toNat_xor _ _

theorem UInt64.toNat_complement (x : UInt64) : (~~~x).toNat = 2 ^ 64 - 1 - x.toNat :=
  BitVec.toNat_not

/-- Below bit 64 the bits of `a + 2^64 b` are those of `a`, from bit 64 on those of `b`; so a
bitwise operator acts on the two parts apart. -/
theorem bitwise_add_two_pow_mul {f : Bool → Bool → Bool} (hf : f false false = false) {a c : Nat}
    (ha : a < 2 ^ 64) (hc : c < 2 ^ 64) (b d : Nat) :
    Nat.bitwise f (a + 2 ^ 64 * b) (c + 2 ^ 64 * d) =
      Nat.bitwise f a c + 2 ^ 64 * Nat.bitwise f b d := by
  apply Nat.eq_of_testBit_eq
  intro i
  rw [Nat.add_comm a, Nat.add_comm c, Nat.add_comm (Nat.bitwise f a c), Nat.testBit_bitwise hf,
    Nat.testBit_mul_pow_two_add _ ha, Nat.testBit_mul_pow_two_add _ hc,
    Nat.testBit_mul_pow_two_add _ (Nat.bitwise_lt_two_pow ha hc), Nat.testBit_bitwise hf,
    Nat.testBit_bitwise hf]
  split <;> rfl

/-- The limb-wise loop of a bitwise operator computes that operator on the numbers. -/
theorem limbsValue_zipWith {f : Bool → Bool → Bool} (hf : f false false = false)
    {op : UInt64 → UInt64 → UInt64} (hop : ∀ x y, (op x y).toNat = Nat.bitwise f x.toNat y.toNat) :
    ∀ {xs ys : List UInt64}, xs.length = ys.length →
      limbsValue (List.zipWith op xs ys) = Nat.bitwise f (limbsValue xs) (limbsValue ys)
  | [], [], _ => Nat.bitwise_zero.symm
  | x :: xs, y :: ys, hlen => by
    rw [List.zipWith_cons_cons, limbsValue, limbsValue, limbsValue, hop,
      limbsValue_zipWith hf hop (Nat.succ.inj hlen),
      bitwise_add_two_pow_mul hf x.toNat_lt_size y.toNat_lt_size]

theorem limbsValue_map_complement :
    ∀ limbs : List UInt64, limbsValue (limbs.map (~~~ ·)) =
      2 ^ (64 * limbs.length) - 1 - limbsValue limbs
  | [] => rfl
  | limb :: rest => by
    have hlimb : limb.toNat < 2 ^ 64 := limb.toNat_lt_size
    have hrest := limbsValue_lt rest
    rw [List.map_cons, limbsValue, limbsValue, UInt64.toNat_complement,
      limbsValue_map_complement rest, List.length_cons, Nat.mul_succ, Nat.pow_add]
    omega

/-- Every bitwise operator of `UInt256` is that operator on the numbers; `~` is `2^256 - 1 - x`. -/
theorem bitwise_refines_value (a b : UInt256) :
    (a &&& b).value = a.value &&& b.value ∧ (a ||| b).value = a.value ||| b.value ∧
    (a ^^^ b).value = a.value ^^^ b.value ∧ (~~~a).value = 2 ^ 256 - 1 - a.value := by
  have hlen : a.limbs.length = b.limbs.length := a.length_eq.trans b.length_eq.symm
  refine ⟨limbsValue_zipWith rfl UInt64.toNat_bitwise_and hlen,
    limbsValue_zipWith rfl UInt64.toNat_bitwise_or hlen,
    limbsValue_zipWith rfl UInt64.toNat_bitwise_xor hlen, ?_⟩
  show limbsValue (a.limbs.map (~~~ ·)) = _
  rw [limbsValue_map_complement, a.length_eq, value]

/-! ## 5. `toHexString` -/

/-- The value of a lowercase hex digit. -/
def hexDigitValue (c : Char) : Nat :=
  if c.toNat ≤ '9'.toNat then c.toNat - '0'.toNat else c.toNat - 'a'.toNat + 10

/-- Hex digits read as a number, most significant first. -/
def hexValue (digits : List Char) : Nat :=
  digits.foldl (fun value c => 16 * value + hexDigitValue c) 0

/-- The characters `std::hex` writes: `0`–`9` and `a`–`f`. -/
def isHexDigit (c : Char) : Bool := ('0' ≤ c && c ≤ '9') || ('a' ≤ c && c ≤ 'f')

theorem digitChar_hex : ∀ d : Fin 16,
    isHexDigit (Nat.digitChar d) = true ∧ hexDigitValue (Nat.digitChar d) = d := by
  decide

@[simp] theorem hexDigits_length (n value : Nat) : (hexDigits n value).length = n := by
  induction n generalizing value with
  | zero => rfl
  | succ n ih => simp [hexDigits, ih]

theorem hexValue_append (front back : List Char) :
    hexValue (front ++ back) = hexValue front * 16 ^ back.length + hexValue back := by
  induction back using List.reverseRecOn with
  | nil => simp [hexValue]
  | append_singleton back c ih =>
    simp only [hexValue, List.foldl_append, List.foldl_cons, List.foldl_nil] at ih ⊢
    rw [ih, List.length_append, List.length_singleton, Nat.pow_succ]
    ring

/-- `std::hex` digits read back give the value modulo `16^n`. -/
theorem hexValue_hexDigits (n value : Nat) : hexValue (hexDigits n value) = value % 16 ^ n := by
  induction n generalizing value with
  | zero => simp [hexDigits, hexValue, Nat.mod_one]
  | succ n ih =>
    have hd := (digitChar_hex ⟨value % 16, Nat.mod_lt _ (by decide)⟩).2
    rw [hexDigits, hexValue_append, ih, List.length_singleton, pow_one]
    simp only [hexValue, List.foldl_cons, List.foldl_nil, Nat.mul_zero, Nat.zero_add] at hd ⊢
    rw [hd, Nat.pow_succ, Nat.mul_comm (16 ^ n) 16, Nat.mod_mul]
    omega

theorem isHexDigit_of_mem_hexDigits {n value : Nat} {c : Char} (hc : c ∈ hexDigits n value) :
    isHexDigit c = true := by
  induction n generalizing value with
  | zero => simp [hexDigits] at hc
  | succ n ih =>
    rw [hexDigits, List.mem_append, List.mem_singleton] at hc
    rcases hc with hc | rfl
    · exact ih hc
    · exact (digitChar_hex ⟨value % 16, Nat.mod_lt _ (by decide)⟩).1

/-- The digits of the limbs, most significant limb first. -/
theorem hexValue_limbs (limbs : List UInt64) :
    hexValue (limbs.reverse.map hexLimb).flatten = limbsValue limbs ∧
      (limbs.reverse.map hexLimb).flatten.length = 16 * limbs.length := by
  induction limbs with
  | nil => exact ⟨rfl, rfl⟩
  | cons limb rest ih =>
    have hlimb : limb.toNat < 16 ^ 16 := limb.toNat_lt_size
    rw [List.reverse_cons, List.map_append, List.flatten_append, List.map_singleton,
      List.flatten_singleton, hexValue_append, ih.1, hexLimb, hexValue_hexDigits,
      hexDigits_length, Nat.mod_eq_of_lt hlimb, List.length_append, ih.2, hexDigits_length,
      limbsValue, List.length_cons]
    exact ⟨by omega, by omega⟩

/-- `toHexString` writes `0x` and 64 hex digits that read back as the number, so two integers
print alike exactly when they are equal. -/
theorem toHexString_round_trip (a b : UInt256) :
    (a.toHexString.length = 66 ∧ a.toHexString.data.take 2 = ['0', 'x'] ∧
      (∀ c ∈ a.toHexString.data.drop 2, isHexDigit c = true) ∧
      hexValue (a.toHexString.data.drop 2) = a.value) ∧
    (a.toHexString = b.toHexString ↔ a = b) := by
  have hdigits : ∀ x : UInt256, x.toHexString.data.drop 2 = (x.limbs.reverse.map hexLimb).flatten :=
    fun x => rfl
  have hvalue : ∀ x : UInt256, hexValue (x.toHexString.data.drop 2) = x.value :=
    fun x => by rw [hdigits]; exact (hexValue_limbs x.limbs).1
  refine ⟨⟨?_, rfl, fun c hc => ?_, hvalue a⟩, ⟨fun h => ?_, fun h => h ▸ rfl⟩⟩
  · show (['0', 'x'] ++ (a.limbs.reverse.map hexLimb).flatten).length = 66
    rw [List.length_append, (hexValue_limbs a.limbs).2, a.length_eq]
    rfl
  · rw [hdigits, List.mem_flatten] at hc
    obtain ⟨digits, hdigits, hc⟩ := hc
    obtain ⟨limb, -, rfl⟩ := List.mem_map.mp hdigits
    exact isHexDigit_of_mem_hexDigits hc
  · rw [← value_inj, ← hvalue a, ← hvalue b, h]

example : (ofUInt64 0xff).toHexString = "0x" ++ ⟨List.replicate 62 '0'⟩ ++ "ff" := by decide

end UInt256

end NativeEvm
