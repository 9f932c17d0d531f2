import Mathlib.Algebra.Order.Round
import Mathlib.Tactic.Linarith
import Mathlib.Tactic.FieldSimp
import Mathlib.Tactic.Ring

/-! Rounding a number to an integer in one of five directions, and the integer division
that does it to a quotient. -/

namespace Rounding

/-- `zero` and `inf` are towards and away from zero, `nearInf` is to the nearest integer
with halves away from zero. -/
inductive Direction where
  | zero | inf | down | up | nearInf
  deriving DecidableEq

namespace Direction

/-- The direction on the other side of zero. -/
def mirror : Direction → Direction
  | down => up
  | up => down
  | same => same

/-- What is added to a numerator before a division by `c` that rounds down. -/
def bias (c : ℤ) : Direction → ℤ
  | zero | down => 0
  | inf | up => c - 1
  | nearInf => c / 2

variable {K : Type*} [Field K] [LinearOrder K] [IsStrictOrderedRing K] [FloorRing K]

def apply : Direction → K → ℤ
  | zero, x => if x < 0 then ⌈x⌉ else ⌊x⌋
  | inf, x => if x < 0 then ⌊x⌋ else ⌈x⌉
  | down, x => ⌊x⌋
  | up, x => ⌈x⌉
  | nearInf, x => if x < 0 then -round (-x) else round x

variable (direction : Direction) {x y : K} {n c : ℤ}

@[simp] theorem apply_intCast (n : ℤ) : direction.apply (n : K) = n := by
  cases direction <;> simp [apply, ← Int.cast_neg]

theorem apply_neg (x : K) : direction.apply (-x) = -direction.mirror.apply x := by
  rcases lt_trichotomy x 0 with negative | rfl | positive
  · have other : ¬ -x < 0 := by linarith
    cases direction <;> simp [apply, mirror, negative, other, Int.floor_neg, Int.ceil_neg]
  · cases direction <;> simp [apply, mirror]
  · have other : ¬ x < 0 := by linarith
    cases direction <;> simp [apply, mirror, positive, other, Int.floor_neg, Int.ceil_neg]

theorem apply_nonneg (nonneg : 0 ≤ x) : 0 ≤ direction.apply x := by
  have not_neg : ¬ x < 0 := not_lt.mpr nonneg
  have floor := Int.floor_nonneg.mpr nonneg
  have ceil := Int.ceil_nonneg nonneg
  cases direction <;> simp only [apply, if_neg not_neg] <;> first | exact floor | exact ceil | skip
  rw [round_eq]
  exact Int.floor_nonneg.mpr (by linarith)

theorem apply_nonpos (nonpos : x ≤ 0) : direction.apply x ≤ 0 := by
  have mirrored := direction.mirror.apply_nonneg (x := -x) (by linarith)
  rw [apply_neg] at mirrored
  cases direction <;> simpa [mirror] using mirrored

private theorem apply_mono_nonneg (nonneg : 0 ≤ x) (le : x ≤ y) : direction.apply x ≤ direction.apply y := by
  have first : ¬ x < 0 := not_lt.mpr nonneg
  have second : ¬ y < 0 := not_lt.mpr (nonneg.trans le)
  cases direction <;> simp only [apply, if_neg first, if_neg second]
  case zero | down => exact Int.floor_mono le
  case inf | up => exact Int.ceil_mono le
  case nearInf =>
    rw [round_eq, round_eq]
    exact Int.floor_mono (by linarith)

theorem apply_mono (le : x ≤ y) : direction.apply x ≤ direction.apply y := by
  rcases le_total 0 x with nonneg | nonpos
  · exact direction.apply_mono_nonneg nonneg le
  · rcases le_total 0 y with above | below
    · exact (direction.apply_nonpos nonpos).trans (direction.apply_nonneg above)
    · have mirrored := direction.mirror.apply_mono_nonneg (x := -y) (y := -x) (by linarith) (by linarith)
      rw [apply_neg, apply_neg] at mirrored
      have twice : direction.mirror.mirror = direction := by cases direction <;> rfl
      rw [twice] at mirrored
      omega

/-- Only the nearest integer is closer than a half. -/
theorem nearInf_eq (close : |x - n| < 1 / 2) : nearInf.apply x = n := by
  obtain ⟨above, below⟩ := abs_lt.mp close
  simp only [apply]
  split
  · rw [neg_eq_iff_eq_neg, round_eq_iff, Int.cast_neg]
    constructor <;> linarith
  · rw [round_eq_iff]
    constructor <;> linarith

theorem nearInf_close (x : K) : |x - nearInf.apply x| ≤ 1 / 2 := by
  simp only [apply]
  split
  · have close := abs_sub_round (-x)
    rw [← abs_neg] at close
    rw [Int.cast_neg]
    convert close using 2
    ring
  · exact abs_sub_round x

/-- A scale that is finer loses nothing: what was rounded to it comes back. -/
theorem nearInf_back {scale : K} (finer : 1 ≤ scale) (n : ℤ) :
    nearInf.apply ((nearInf.apply (n * scale) : K) / scale) = n := by
  rcases finer.eq_or_lt with rfl | finer
  · rw [mul_one, apply_intCast, div_one, apply_intCast]
  · have positive : 0 < scale := by linarith
    have close := nearInf_close ((n : K) * scale)
    apply nearInf_eq
    have same : (nearInf.apply (n * scale) : K) / scale - n = -((n * scale - nearInf.apply (n * scale)) / scale) := by
      field_simp
      ring
    rw [same, abs_neg, abs_div, abs_of_pos positive, div_lt_iff₀ positive]
    linarith

private theorem div_bounds (positive : 0 < c) (n : ℤ) : c * (n / c) ≤ n ∧ n < c * (n / c) + c :=
  ⟨Int.mul_ediv_self_le positive.ne', Int.lt_mul_ediv_self_add positive⟩

/-- Rounding a quotient in any direction takes one division that rounds down. -/
theorem apply_div (positive : 0 < c) (nonneg : 0 ≤ n) :
    direction.apply ((n : K) / c) = (n + direction.bias c) / c := by
  have divisor : (0 : K) < c := Int.cast_pos.mpr positive
  have not_neg : ¬ (n : K) / c < 0 := not_lt.mpr (div_nonneg (Int.cast_nonneg nonneg) divisor.le)
  obtain ⟨least, most⟩ := div_bounds positive (n + direction.bias c)
  cases direction <;> simp only [apply, bias, if_neg not_neg] at least most ⊢
  case zero | down =>
    rw [add_zero, Int.floor_eq_iff, le_div_iff₀ divisor, div_lt_iff₀ divisor]
    rw [add_zero] at least most
    constructor
    · exact_mod_cast (mul_comm c _ ▸ least)
    · exact_mod_cast (show n < (n / c + 1) * c by linarith)
  case inf | up =>
    rw [Int.ceil_eq_iff, lt_div_iff₀ divisor, div_le_iff₀ divisor]
    constructor
    · exact_mod_cast (show ((n + (c - 1)) / c - 1) * c < n by linarith)
    · exact_mod_cast (show n ≤ (n + (c - 1)) / c * c by linarith)
  case nearInf =>
    have halves := Int.mul_ediv_add_emod c 2
    have even := Int.emod_nonneg c (b := 2) (by decide)
    have odd := Int.emod_lt_of_pos c (b := 2) (by decide)
    rw [round_eq_iff]
    have lower : 2 * (c * ((n + c / 2) / c)) ≤ 2 * n + c := by linarith
    have upper : 2 * n + c < 2 * (c * ((n + c / 2) / c)) + 2 * c := by linarith
    generalize (n + c / 2) / c = q at lower upper ⊢
    constructor
    · rw [le_div_iff₀ divisor]
      have cast : (2 * (c * q) : K) ≤ 2 * n + c := by exact_mod_cast lower
      linarith
    · rw [div_lt_iff₀ divisor]
      have cast : (2 * n + c : K) < 2 * (c * q) + 2 * c := by exact_mod_cast upper
      linarith

end Direction
end Rounding
