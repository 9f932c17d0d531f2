import Awt.Lavu.Mathematics
import Awt.Lib.LongDivision
import Awt.Lib.Rounding
import Mathlib.Data.Rat.Floor

/-! `av_rescale_rnd` rounds a quotient of unbounded numbers in each direction, whichever of
its three branches computes it, and overflows nowhere on the way. -/

namespace Awt.Lavu
open Rounding

section wide

private theorem bit_toNat (a0 : UInt64) {i : Nat} (within : i < 64) :
    (a0 >>> i.toUInt64 &&& 1).toNat = a0.toNat / 2 ^ i % 2 := by
  have index : i.toUInt64.toNat % 64 = i := by
    rw [Nat.toUInt64_eq, UInt64.toNat_ofNat']
    omega
  rw [UInt64.toNat_and, UInt64.toNat_shiftRight, index, Nat.shiftRight_eq_div_pow]
  exact Nat.and_one_is_mod _

/-- The words of a turn as numbers. -/
private def numbers (words : UInt64 × UInt64) : LongDivision.State := ⟨words.1.toNat, words.2.toNat⟩

private theorem divideTurn_numbers (c a0 : UInt64) {i : Nat} (within : i < 64) (words : UInt64 × UInt64) :
    numbers (divideTurn c a0 i words) = LongDivision.turn 64 c.toNat (a0.toNat / 2 ^ i % 2) (numbers words) := by
  have rem : (words.1 + (words.1 + (a0 >>> i.toUInt64 &&& 1))).toNat =
      (2 * words.1.toNat + a0.toNat / 2 ^ i % 2) % 2 ^ 64 := by
    rw [UInt64.toNat_add, UInt64.toNat_add, bit_toNat a0 within]
    omega
  have quo : (words.2 + words.2).toNat = 2 * words.2.toNat % 2 ^ 64 := by
    rw [UInt64.toNat_add]
    omega
  have next : (words.2 + words.2 + 1).toNat = (2 * words.2.toNat + 1) % 2 ^ 64 := by
    rw [UInt64.toNat_add, quo]
    exact Nat.mod_add_mod _ _ _
  unfold divideTurn LongDivision.turn numbers
  dsimp only
  rw [← rem]
  split
  · case isTrue fits =>
    rw [if_pos (UInt64.le_iff_toNat_le.mp fits)]
    dsimp only
    rw [UInt64.toNat_sub_of_le _ _ fits, next]
  · case isFalse short =>
    rw [if_neg (fun fits => short (UInt64.le_iff_toNat_le.mpr fits))]
    dsimp only
    rw [quo]

private theorem divideLoop_numbers (c a0 : UInt64) {count : Nat} (within : count ≤ 64) (words : UInt64 × UInt64) :
    numbers (divideLoop c a0 count words) = LongDivision.divide 64 c.toNat a0.toNat count (numbers words) := by
  induction count generalizing words with
  | zero => rfl
  | succ i ih =>
    rw [divideLoop, LongDivision.divide, ih (by omega), divideTurn_numbers c a0 (by omega)]

private theorem product_split (a b : Nat) :
    a * b = a / 2 ^ 32 * (b / 2 ^ 32) * 2 ^ 64 +
      (a % 2 ^ 32 * (b / 2 ^ 32) + a / 2 ^ 32 * (b % 2 ^ 32)) * 2 ^ 32 + a % 2 ^ 32 * (b % 2 ^ 32) := by
  conv_lhs => rw [← Nat.div_add_mod a (2 ^ 32), ← Nat.div_add_mod b (2 ^ 32)]
  ring

/-- `sum < y` is the carry of `x + y`. -/
private theorem carry (x y : UInt64) :
    (if x + y < y then 1 else 0 : UInt64).toNat * 2 ^ 64 + (x + y).toNat = x.toNat + y.toNat := by
  have first := x.toNat_lt
  have second := y.toNat_lt
  split <;> simp only [UInt64.lt_iff_toNat_lt, UInt64.toNat_add, UInt64.toNat_one, UInt64.toNat_zero] at * <;> omega

private theorem word_toNat {n : Nat} (fits : n < 2 ^ 63) : n.toUInt64.toNat = n := by
  rw [Nat.toUInt64_eq, UInt64.toNat_ofNat']
  omega

private theorem low_toNat {n : Nat} (fits : n < 2 ^ 63) : (n.toUInt64 &&& (0xFFFFFFFF : UInt64)).toNat = n % 2 ^ 32 := by
  rw [UInt64.toNat_and, word_toNat fits]
  exact Nat.and_two_pow_sub_one_eq_mod n 32

private theorem high_toNat (word : UInt64) : (word >>> 32).toNat = word.toNat / 2 ^ 32 := by
  rw [UInt64.toNat_shiftRight]
  exact Nat.shiftRight_eq_div_pow _ 32

private theorem shifted_toNat (word : UInt64) : (word <<< 32).toNat = word.toNat % 2 ^ 32 * 2 ^ 32 := by
  rw [UInt64.toNat_shiftLeft]
  change word.toNat <<< 32 % 2 ^ 64 = _
  rw [Nat.shiftLeft_eq]
  omega

/-- Nothing of the product and of what is added to it is lost between the words. -/
private theorem wideProduct_value {a b r : Nat} (aFits : a < 2 ^ 63) (bFits : b < 2 ^ 63) (rFits : r < 2 ^ 63) :
    (wideProduct a.toUInt64 b.toUInt64 r.toUInt64).a1.toNat * 2 ^ 64 +
      (wideProduct a.toUInt64 b.toUInt64 r.toUInt64).a0.toNat = a * b + r := by
  have p00 : a % 2 ^ 32 * (b % 2 ^ 32) ≤ (2 ^ 32 - 1) * (2 ^ 32 - 1) := Nat.mul_le_mul (by omega) (by omega)
  have p01 : a % 2 ^ 32 * (b / 2 ^ 32) ≤ (2 ^ 32 - 1) * (2 ^ 31 - 1) := Nat.mul_le_mul (by omega) (by omega)
  have p10 : a / 2 ^ 32 * (b % 2 ^ 32) ≤ (2 ^ 31 - 1) * (2 ^ 32 - 1) := Nat.mul_le_mul (by omega) (by omega)
  have p11 : a / 2 ^ 32 * (b / 2 ^ 32) ≤ (2 ^ 31 - 1) * (2 ^ 31 - 1) := Nat.mul_le_mul (by omega) (by omega)
  unfold wideProduct
  dsimp only
  have middle : ((a.toUInt64 &&& (0xFFFFFFFF : UInt64)) * (b.toUInt64 >>> (32 : UInt64)) +
      (a.toUInt64 >>> (32 : UInt64)) * (b.toUInt64 &&& (0xFFFFFFFF : UInt64))).toNat =
      a % 2 ^ 32 * (b / 2 ^ 32) + a / 2 ^ 32 * (b % 2 ^ 32) := by
    rw [UInt64.toNat_add, UInt64.toNat_mul, UInt64.toNat_mul, low_toNat aFits, low_toNat bFits, high_toNat, high_toNat,
      word_toNat aFits, word_toNat bFits]
    omega
  have low : ((a.toUInt64 &&& (0xFFFFFFFF : UInt64)) * (b.toUInt64 &&& (0xFFFFFFFF : UInt64))).toNat =
      a % 2 ^ 32 * (b % 2 ^ 32) := by
    rw [UInt64.toNat_mul, low_toNat aFits, low_toNat bFits]
    omega
  have high : ((a.toUInt64 >>> (32 : UInt64)) * (b.toUInt64 >>> (32 : UInt64))).toNat = a / 2 ^ 32 * (b / 2 ^ 32) := by
    rw [UInt64.toNat_mul, high_toNat, high_toNat, word_toNat aFits, word_toNat bFits]
    omega
  generalize (a.toUInt64 &&& (0xFFFFFFFF : UInt64)) * (b.toUInt64 >>> (32 : UInt64)) + _ = t1 at middle ⊢
  generalize (a.toUInt64 &&& (0xFFFFFFFF : UInt64)) * (b.toUInt64 &&& (0xFFFFFFFF : UInt64)) = product at low ⊢
  generalize (a.toUInt64 >>> (32 : UInt64)) * (b.toUInt64 >>> (32 : UInt64)) = above at high ⊢
  have split := product_split a b
  have first := carry product (t1 <<< 32)
  have second := carry (product + t1 <<< 32) r.toUInt64
  rw [shifted_toNat] at first
  rw [word_toNat rFits] at second
  rw [UInt64.toNat_add, UInt64.toNat_add, UInt64.toNat_add, high_toNat]
  generalize (if product + t1 <<< 32 < t1 <<< 32 then 1 else 0 : UInt64).toNat = firstCarry at first ⊢
  generalize (if product + t1 <<< 32 + r.toUInt64 < r.toUInt64 then 1 else 0 : UInt64).toNat = secondCarry at second ⊢
  generalize (product + t1 <<< 32 + r.toUInt64).toNat = lower at second ⊢
  generalize (product + t1 <<< 32).toNat = sum at first second
  have small : above.toNat + t1.toNat / 2 ^ 32 + firstCarry + secondCarry < 2 ^ 64 := by omega
  rw [Nat.mod_add_mod, Nat.add_assoc, Nat.mod_add_mod, ← Nat.add_assoc, Nat.mod_eq_of_lt small]
  have halves := Nat.div_add_mod t1.toNat (2 ^ 32)
  rw [← middle, ← high, ← low] at split
  linarith

/-- The division of 128 bits rounds down, or shows that the quotient does not fit. -/
theorem rescaleWide_eq {a b c r : Nat} (aFits : a < 2 ^ 63) (bFits : b < 2 ^ 63) (cFits : c < 2 ^ 63) (positive : 0 < c)
    (rFits : r < 2 ^ 63) : rescaleWide a.toUInt64 b.toUInt64 c.toUInt64 r.toUInt64 =
      if ((a * b + r) / c : Nat) > INT64_MAX then INT64_MIN else ((a * b + r) / c : Nat) := by
  have value := wideProduct_value aFits bFits rFits
  unfold rescaleWide
  dsimp only
  generalize wideProduct a.toUInt64 b.toUInt64 r.toUInt64 = wide at value ⊢
  have same := divideLoop_numbers c.toUInt64 wide.a0 le_rfl (wide.a1, wide.t1)
  have found := congrArg LongDivision.State.quo same
  rw [word_toNat cFits] at found
  simp only [numbers] at found
  rw [found]
  have low := wide.a0.toNat_lt
  have word : wide.t1.toNat < 2 ^ 64 := wide.t1.toNat_lt
  by_cases fits : wide.a1.toNat < c
  · have exact : (LongDivision.divide 64 c wide.a0.toNat 64 ⟨wide.a1.toNat, wide.t1.toNat⟩).quo = _ :=
      LongDivision.divide_exact (by omega) fits word 64
    have small : (a * b + r) / c < 2 ^ 64 := by
      rw [Nat.div_lt_iff_lt_mul positive, ← value]
      nlinarith
    rw [exact, Nat.mod_eq_of_lt low, value, Nat.add_comm, Nat.add_mul_mod_self_right, Nat.mod_eq_of_lt small]
  · have product : a * b ≤ (2 ^ 63 - 1) * (2 ^ 63 - 1) := Nat.mul_le_mul (by omega) (by omega)
    have large : 2 ^ 63 ≤ (LongDivision.divide 64 c wide.a0.toNat 64 ⟨wide.a1.toNat, wide.t1.toNat⟩).quo :=
      LongDivision.divide_overflow (not_lt.mp fits) (by dsimp only; omega)
    have more : 2 ^ 64 ≤ (a * b + r) / c := by
      rw [Nat.le_div_iff_mul_le positive, ← value]
      nlinarith
    rw [INT64_MAX, if_pos (by omega), if_pos (by omega)]

end wide
section narrow

variable {a b c r : Int}

private theorem int64_ok (least : INT64_MIN ≤ a) (most : a ≤ INT64_MAX) : int64 a = some a := if_pos ⟨least, most⟩

private theorem int64_nonneg (nonneg : 0 ≤ a) (most : a ≤ INT64_MAX) : int64 a = some a :=
  int64_ok (by rw [INT64_MIN]; omega) most

/-- A quotient, or the sign that it does not fit. -/
def fitted (quotient : Int) : Int := if INT64_MAX < quotient then INT64_MIN else quotient

private theorem narrow_eq (aNonneg : 0 ≤ a) (aFits : a ≤ INT_MAX) (bNonneg : 0 ≤ b) (bFits : b ≤ INT_MAX) (rNonneg : 0 ≤ r)
    (rFits : r ≤ INT_MAX) :
    (do
      let product ← int64 (a * b)
      let sum ← int64 (product + r)
      return sum.tdiv c) = some (fitted ((a * b + r) / c)) := by
  rw [INT_MAX] at *
  have product : a * b ≤ 2147483647 * 2147483647 := Int.mul_le_mul aFits bFits bNonneg (by decide)
  have nonneg : 0 ≤ a * b := Int.mul_nonneg aNonneg bNonneg
  have quotient : (a * b + r) / c ≤ a * b + r := Int.ediv_le_self _ (by omega)
  rw [fitted, INT64_MAX, if_neg (by omega), int64_nonneg nonneg (by rw [INT64_MAX]; omega), Option.bind_eq_bind,
    Option.bind_some, int64_nonneg (by omega) (by rw [INT64_MAX]; omega), Option.bind_some]
  exact congrArg some (Int.tdiv_eq_ediv_of_nonneg (by omega))

private theorem split_quotient (positive : 0 < c) (a b r : Int) :
    (a * b + r) / c = a / c * b + (a % c * b + r) / c := by
  have numerator : a * b + r = a % c * b + r + c * (a / c * b) := by
    conv_lhs => rw [← Int.emod_add_mul_ediv a c]
    ring
  rw [numerator, Int.add_mul_ediv_left _ _ positive.ne', Int.add_comm]

private theorem split_eq (aNonneg : 0 ≤ a) (bNonneg : 0 ≤ b) (bFits : b ≤ INT_MAX) (positive : 0 < c) (cFits : c ≤ INT_MAX)
    (rNonneg : 0 ≤ r) (rFits : r ≤ INT_MAX) :
    (do
      let ad := a.tdiv c
      let product ← int64 (a.tmod c * b)
      let sum ← int64 (product + r)
      let a2 := sum.tdiv c
      let room ← int64 (INT64_MAX - a2)
      if ad ≥ INT32_MAX ∧ b ≠ 0 ∧ ad > room.tdiv b then return INT64_MIN else
      let high ← int64 (ad * b)
      int64 (high + a2)) = some (fitted ((a * b + r) / c)) := by
  rw [INT_MAX] at *
  rw [split_quotient positive, Int.tdiv_eq_ediv_of_nonneg aNonneg, Int.tmod_eq_emod_of_nonneg aNonneg]
  have least := Int.emod_nonneg a positive.ne'
  have most := Int.emod_lt_of_pos a positive
  have product : a % c * b ≤ 2147483647 * 2147483647 := Int.mul_le_mul (by omega) bFits bNonneg (by decide)
  have nonneg : 0 ≤ a % c * b := Int.mul_nonneg least bNonneg
  have below : (a % c * b + r) / c ≤ a % c * b + r := Int.ediv_le_self _ (by omega)
  have above : 0 ≤ (a % c * b + r) / c := Int.ediv_nonneg (by omega) (by omega)
  have whole : 0 ≤ a / c := Int.ediv_nonneg aNonneg (by omega)
  dsimp only
  rw [int64_nonneg nonneg (by rw [INT64_MAX]; omega), Option.bind_eq_bind, Option.bind_some,
    int64_nonneg (by omega) (by rw [INT64_MAX]; omega), Option.bind_some, Int.tdiv_eq_ediv_of_nonneg (by omega)]
  generalize (a % c * b + r) / c = a2 at below above ⊢
  generalize a / c = ad at whole ⊢
  have more : 0 ≤ ad * b := Int.mul_nonneg whole bNonneg
  rw [int64_nonneg (by rw [INT64_MAX]; omega) (by omega), Option.bind_some,
    Int.tdiv_eq_ediv_of_nonneg (by rw [INT64_MAX]; omega)]
  split
  · case isTrue beyond =>
    have exceeds : INT64_MAX - a2 < ad * b := (Int.ediv_lt_iff_lt_mul (by omega)).mp beyond.2.2
    rw [fitted, if_pos (by omega)]
    rfl
  · case isFalse fits =>
    have most : ad * b + a2 ≤ INT64_MAX := by
      by_cases large : INT32_MAX ≤ ad ∧ b ≠ 0
      · have room : ad ≤ (INT64_MAX - a2) / b := by
          by_contra short
          exact fits ⟨large.1, large.2, by omega⟩
        have product : ad * b ≤ INT64_MAX - a2 := (Int.le_ediv_iff_mul_le (by omega)).mp room
        omega
      · rw [INT64_MAX]
        by_cases zero : b = 0
        · rw [zero, Int.mul_zero]
          omega
        · have small : ad ≤ 2147483647 := by
            rw [INT32_MAX] at large
            omega
          have product : ad * b ≤ 2147483647 * 2147483647 := Int.mul_le_mul small bFits bNonneg (by decide)
          omega
    rw [fitted, if_neg (by omega), int64_nonneg more (by omega), Option.bind_some]
    exact int64_nonneg (by omega) most

private theorem wide_eq (aNonneg : 0 ≤ a) (aFits : a ≤ INT64_MAX) (bNonneg : 0 ≤ b) (bFits : b ≤ INT64_MAX)
    (positive : 0 < c) (cFits : c ≤ INT64_MAX) (rNonneg : 0 ≤ r) (rFits : r ≤ INT64_MAX) :
    rescaleWide a.toNat.toUInt64 b.toNat.toUInt64 c.toNat.toUInt64 r.toNat.toUInt64 = fitted ((a * b + r) / c) := by
  rw [INT64_MAX] at *
  lift a to Nat using aNonneg
  lift b to Nat using bNonneg
  lift c to Nat using positive.le
  lift r to Nat using rNonneg
  rw [Int.toNat_natCast, Int.toNat_natCast, Int.toNat_natCast, Int.toNat_natCast,
    rescaleWide_eq (by omega) (by omega) (by omega) (by omega) (by omega), fitted]
  push_cast
  rfl

end narrow

/-- The number of a direction in `enum AVRounding`. -/
def code : Direction → UInt32
  | .zero => AV_ROUND_ZERO
  | .inf => AV_ROUND_INF
  | .down => AV_ROUND_DOWN
  | .up => AV_ROUND_UP
  | .nearInf => AV_ROUND_NEAR_INF

section rescale

variable {a b c : Int} (direction : Direction)

private theorem bias_eq (positive : 0 < c) :
    (if code direction = AV_ROUND_NEAR_INF then c.tdiv 2 else if code direction &&& 1 ≠ 0 then c - 1 else 0) =
      direction.bias c := by
  cases direction with
  | nearInf => exact (if_pos rfl).trans (Int.tdiv_eq_ediv_of_nonneg positive.le)
  | inf | up => exact (if_neg (by decide)).trans (if_pos (by decide))
  | zero | down => exact (if_neg (by decide)).trans (if_neg (by decide))

private theorem bias_bounds (positive : 0 < c) : 0 ≤ direction.bias c ∧ direction.bias c < c := by
  cases direction <;> simp only [Direction.bias] <;> omega

private theorem code_known : knownRounding (code direction) := by cases direction <;> decide

private theorem code_passes : ¬ code direction &&& AV_ROUND_PASS_MINMAX ≠ 0 := by cases direction <;> decide

private theorem code_mirror : code direction ^^^ (code direction >>> 1 &&& 1) = code direction.mirror := by
  cases direction <;> decide

private theorem rescale_nonneg (aNonneg : 0 ≤ a) (aFits : a ≤ INT64_MAX) (bNonneg : 0 ≤ b) (bFits : b ≤ INT64_MAX)
    (positive : 0 < c) (cFits : c ≤ INT64_MAX) :
    avRescaleRnd a b c (code direction) = some (fitted ((a * b + direction.bias c) / c)) := by
  obtain ⟨rNonneg, rLess⟩ := bias_bounds direction positive
  rw [avRescaleRnd, if_neg (by simp [code_known]; omega), if_neg (fun flagged => code_passes direction flagged.1)]
  dsimp only
  rw [if_neg (code_passes direction), if_neg (by omega), bias_eq direction positive]
  split
  · case isTrue narrow =>
    split
    · case isTrue small => exact narrow_eq aNonneg small bNonneg narrow.1 rNonneg (by omega)
    · exact split_eq aNonneg bNonneg narrow.1 positive narrow.2 rNonneg (by omega)
  · exact congrArg some (wide_eq aNonneg aFits bNonneg bFits positive cFits rNonneg (by omega))

/-- A rounded quotient that fits; what does not fit gives `INT64_MIN`, on both sides. -/
def rescaled (direction : Direction) (a b c : Int) : Int :=
  let exact := direction.apply ((a : ℚ) * b / c)
  if -INT64_MAX ≤ exact ∧ exact ≤ INT64_MAX then exact else INT64_MIN

private theorem rescale_of_nonneg (aNonneg : 0 ≤ a) (aFits : a ≤ INT64_MAX) (bNonneg : 0 ≤ b) (bFits : b ≤ INT64_MAX)
    (positive : 0 < c) (cFits : c ≤ INT64_MAX) :
    avRescaleRnd a b c (code direction) = some (rescaled direction a b c) := by
  have product : 0 ≤ a * b := Int.mul_nonneg aNonneg bNonneg
  have exact := direction.apply_div (K := ℚ) positive product
  rw [rescale_nonneg direction aNonneg aFits bNonneg bFits positive cFits, rescaled, fitted, ← Int.cast_mul, exact]
  have nonneg : 0 ≤ (a * b + direction.bias c) / c :=
    Int.ediv_nonneg (by have := (bias_bounds direction positive).1; omega) positive.le
  have least : -INT64_MAX ≤ 0 := by decide
  split
  · rw [if_neg (by omega)]
  · rw [if_pos (by omega)]

private theorem rescale_of_neg (negative : a < 0) (bNonneg : 0 ≤ b) (bFits : b ≤ INT64_MAX) (positive : 0 < c)
    (cFits : c ≤ INT64_MAX) : avRescaleRnd a b c (code direction) = some (rescaled direction (max a (-INT64_MAX)) b c) := by
  have most : -max a (-INT64_MAX) ≤ INT64_MAX := by omega
  have nonneg : 0 ≤ -max a (-INT64_MAX) := by
    rw [INT64_MAX]
    omega
  rw [avRescaleRnd, if_neg (by simp [code_known]; omega), if_neg (fun flagged => code_passes direction flagged.1)]
  dsimp only
  rw [if_neg (code_passes direction), if_pos negative, code_mirror,
    rescale_of_nonneg direction.mirror nonneg most bNonneg bFits positive cFits]
  have mirrored : direction.mirror.apply (((-max a (-INT64_MAX) : Int) : ℚ) * b / c) =
      -direction.apply (((max a (-INT64_MAX) : Int) : ℚ) * b / c) := by
    have twice : direction.mirror.mirror = direction := by cases direction <;> rfl
    rw [Int.cast_neg, neg_mul, neg_div, Direction.apply_neg, twice]
  apply congrArg some
  rw [rescaled, rescaled, mirrored]
  generalize direction.apply (_ : ℚ) = exact
  rw [INT64_MAX, INT64_MIN]
  split
  · rw [if_pos (by omega), Int.neg_neg]
    apply Int.bmod_eq_of_le <;> omega
  · rw [if_neg (by omega)]
    decide

/-- `AV_ROUND_PASS_MINMAX` or not. -/
def flagged (direction : Direction) (pass : Bool) : UInt32 :=
  if pass then code direction + AV_ROUND_PASS_MINMAX else code direction

private theorem rescale_flagged (bNonneg : 0 ≤ b) (positive : 0 < c) :
    avRescaleRnd a b c (flagged direction true) =
      if a = INT64_MIN ∨ a = INT64_MAX then some a else avRescaleRnd a b c (code direction) := by
  have known : knownRounding (flagged direction true) := by cases direction <;> decide
  have passes : flagged direction true &&& AV_ROUND_PASS_MINMAX ≠ 0 := by cases direction <;> decide
  have taken : flagged direction true - AV_ROUND_PASS_MINMAX = code direction := by cases direction <;> decide
  rw [avRescaleRnd, if_neg (by simp [known]; omega)]
  by_cases extreme : a = INT64_MIN ∨ a = INT64_MAX
  · rw [if_pos ⟨passes, extreme⟩, if_pos extreme]
    rfl
  · rw [if_neg (fun both => extreme both.2), if_neg extreme]
    dsimp only
    rw [if_pos passes, taken]
    conv_rhs => rw [avRescaleRnd, if_neg (by simp [code_known]; omega), if_neg (fun both => extreme both.2)]
    dsimp only
    rw [if_neg (code_passes direction)]

private theorem rescale_exact (most : a ≤ INT64_MAX) (bNonneg : 0 ≤ b) (bFits : b ≤ INT64_MAX) (positive : 0 < c)
    (cFits : c ≤ INT64_MAX) : avRescaleRnd a b c (code direction) = some (rescaled direction (max a (-INT64_MAX)) b c) := by
  by_cases negative : a < 0
  · exact rescale_of_neg direction negative bNonneg bFits positive cFits
  · have same : max a (-INT64_MAX) = a := by
      rw [INT64_MAX]
      omega
    rw [same]
    exact rescale_of_nonneg direction (by omega) most bNonneg bFits positive cFits

/-- `av_rescale_rnd` gives the exact quotient rounded in its direction, or `INT64_MIN`
where that does not fit; `INT64_MIN` itself counts as `-INT64_MAX`. -/
theorem rescale_rounds (pass : Bool) (most : a ≤ INT64_MAX) (bNonneg : 0 ≤ b) (bFits : b ≤ INT64_MAX)
    (positive : 0 < c) (cFits : c ≤ INT64_MAX) : avRescaleRnd a b c (flagged direction pass) =
      some (if pass ∧ (a = INT64_MIN ∨ a = INT64_MAX) then a else rescaled direction (max a (-INT64_MAX)) b c) := by
  have plain := rescale_exact direction most bNonneg bFits positive cFits
  cases pass with
  | false => simpa [flagged] using plain
  | true =>
    rw [rescale_flagged direction bNonneg positive, plain]
    by_cases extreme : a = INT64_MIN ∨ a = INT64_MAX
    · rw [if_pos extreme, if_pos ⟨rfl, extreme⟩]
    · rw [if_neg extreme, if_neg (fun both => extreme both.2)]

theorem rescale_rounds_wide : avRescaleRnd (-7000000001) 3000000001 4000000001 (flagged .nearInf true) =
    some (rescaled .nearInf (-7000000001) 3000000001 4000000001) :=
  rescale_rounds .nearInf true (by decide) (by decide) (by decide) (by decide) (by decide)

end rescale

/-- A time base whose parts are positive and fit an `int`. -/
structure AVRational.Positive (q : AVRational) : Prop where
  num : 0 < q.num
  numFits : q.num ≤ INT_MAX
  den : 0 < q.den
  denFits : q.den ≤ INT_MAX

theorem timeBase_positive (base : TimeBase) : base.rational.Positive :=
  ⟨base.num_pos, base.num_fits, base.den_pos, base.den_fits⟩

section times

variable {p q : AVRational} {t u v : Int}

def AVRational.value (q : AVRational) : ℚ := q.num / q.den

private theorem product_fits {m n : Int} (mPositive : 0 < m) (mFits : m ≤ INT_MAX) (nPositive : 0 < n) (nFits : n ≤ INT_MAX) :
    0 < m * n ∧ m * n ≤ INT64_MAX ∧ int64 (m * n) = some (m * n) := by
  have positive : 0 < m * n := Int.mul_pos mPositive nPositive
  have most : m * n ≤ 2147483647 * 2147483647 := Int.mul_le_mul mFits nFits nPositive.le (by decide)
  have fits : m * n ≤ INT64_MAX := by
    rw [INT64_MAX]
    omega
  exact ⟨positive, fits, int64_nonneg positive.le fits⟩

/-- The nearest time in the other time base. -/
def nearest (t : Int) (p q : AVRational) : Int := Direction.nearInf.apply (t * (p.value / q.value))

/-- `av_rescale_q` gives the nearest time if it fits. -/
theorem rescale_q (pPositive : p.Positive) (qPositive : q.Positive) (least : INT64_MIN < t) (most : t ≤ INT64_MAX) :
    avRescaleQ t p q =
      some (if -INT64_MAX ≤ nearest t p q ∧ nearest t p q ≤ INT64_MAX then nearest t p q else INT64_MIN) := by
  obtain ⟨bPositive, bFits, b⟩ := product_fits pPositive.num pPositive.numFits qPositive.den qPositive.denFits
  obtain ⟨cPositive, cFits, c⟩ := product_fits qPositive.num qPositive.numFits pPositive.den pPositive.denFits
  have same : max t (-INT64_MAX) = t := by
    rw [INT64_MIN] at least
    rw [INT64_MAX]
    omega
  have rounds := rescale_exact .nearInf most bPositive.le bFits cPositive cFits
  have scale : ((t : ℚ) * (p.num * q.den : Int) / (q.num * p.den : Int)) = t * (p.value / q.value) := by
    have pDen : (p.den : ℚ) ≠ 0 := by exact_mod_cast pPositive.den.ne'
    have qNum : (q.num : ℚ) ≠ 0 := by exact_mod_cast qPositive.num.ne'
    have qDen : (q.den : ℚ) ≠ 0 := by exact_mod_cast qPositive.den.ne'
    rw [AVRational.value, AVRational.value]
    push_cast
    field_simp
  rw [same, rescaled, scale] at rounds
  rw [avRescaleQ, avRescaleQRnd, b, c]
  exact rounds

private theorem rescale_q_some (pPositive : p.Positive) (qPositive : q.Positive) (least : INT64_MIN < t)
    (most : t ≤ INT64_MAX) (given : avRescaleQ t p q = some u) (fits : u ≠ INT64_MIN) :
    u = nearest t p q ∧ INT64_MIN < u ∧ u ≤ INT64_MAX := by
  rw [rescale_q pPositive qPositive least most, Option.some_inj] at given
  split at given
  · rw [INT64_MIN]
    rw [INT64_MAX] at *
    omega
  · exact absurd given.symm fits

private theorem value_pos (positive : q.Positive) : 0 < q.value :=
  div_pos (Int.cast_pos.mpr positive.num) (Int.cast_pos.mpr positive.den)

theorem microseconds_positive : AV_TIME_BASE_Q.Positive := ⟨by decide, by decide, by decide, by decide⟩

private theorem milliseconds_positive : (⟨1, 1000⟩ : AVRational).Positive := ⟨by decide, by decide, by decide, by decide⟩

/-- A time that fits a finer time base comes back from it unchanged. -/
theorem rescale_round_trip (pPositive : p.Positive) (qPositive : q.Positive) (finer : q.value ≤ p.value)
    (least : INT64_MIN < t) (most : t ≤ INT64_MAX) (given : avRescaleQ t p q = some u) (fits : u ≠ INT64_MIN) :
    avRescaleQ u q p = some t := by
  obtain ⟨rfl, uLeast, uMost⟩ := rescale_q_some pPositive qPositive least most given fits
  have back : nearest (nearest t p q) q p = t := by
    have scale : 1 ≤ p.value / q.value := (one_le_div (value_pos qPositive)).mpr finer
    have same : (nearest t p q : ℚ) * (q.value / p.value) = nearest t p q / (p.value / q.value) := by
      rw [div_div_eq_mul_div, mul_div_assoc]
    rw [nearest, same]
    exact Direction.nearInf_back scale t
  rw [rescale_q qPositive pPositive uLeast uMost, back, if_pos]
  rw [INT64_MIN] at least
  rw [INT64_MAX] at *
  omega

theorem rescale_round_trip_milliseconds : avRescaleQ 7000 AV_TIME_BASE_Q ⟨1, 1000⟩ = some 7 :=
  rescale_round_trip milliseconds_positive microseconds_positive (by norm_num [AVRational.value, AV_TIME_BASE_Q, AV_TIME_BASE])
    (by decide) (by decide) (by decide +kernel) (by decide)

/-- Times keep their order. -/
theorem rescale_mono (pPositive : p.Positive) (qPositive : q.Positive) (least : INT64_MIN < t) (le : t ≤ v) (most : v ≤ INT64_MAX)
    {first second : Int} (one : avRescaleQ t p q = some first) (other : avRescaleQ v p q = some second)
    (firstFits : first ≠ INT64_MIN) (secondFits : second ≠ INT64_MIN) : first ≤ second := by
  obtain ⟨rfl, _⟩ := rescale_q_some pPositive qPositive least (le.trans most) one firstFits
  obtain ⟨rfl, _⟩ := rescale_q_some pPositive qPositive (least.trans_le le) most other secondFits
  apply Direction.apply_mono
  exact mul_le_mul_of_nonneg_right (Int.cast_le.mpr le) (div_pos (value_pos pPositive) (value_pos qPositive)).le

theorem rescale_mono_milliseconds : avRescaleQ (-3) ⟨1, 1000⟩ AV_TIME_BASE_Q = some (-3000) ∧
    avRescaleQ 7 ⟨1, 1000⟩ AV_TIME_BASE_Q = some 7000 ∧ (-3000 : Int) ≤ 7000 := by
  have first : avRescaleQ (-3) ⟨1, 1000⟩ AV_TIME_BASE_Q = some (-3000) := by decide +kernel
  have second : avRescaleQ 7 ⟨1, 1000⟩ AV_TIME_BASE_Q = some 7000 := by decide +kernel
  exact ⟨first, second, rescale_mono milliseconds_positive microseconds_positive (by decide) (by decide) (by decide)
    first second (by decide) (by decide)⟩

end times
end Awt.Lavu
