import Mathlib.Data.Nat.ModEq
import Mathlib.Tactic.Ring

/-! Division of a number of two words by one, a bit at a time. Words have `width` bits and
drop what does not fit. -/

namespace LongDivision

structure State where
  rem : Nat
  quo : Nat

/-- Shift in the next bit of the numerator, and take the divisor off if it fits. -/
def turn (width divisor bit : Nat) (state : State) : State :=
  let rem := (2 * state.rem + bit) % 2 ^ width
  if divisor ≤ rem then ⟨rem - divisor, (2 * state.quo + 1) % 2 ^ width⟩ else ⟨rem, 2 * state.quo % 2 ^ width⟩

/-- The last `count` turns, over the low bits of the numerator from the highest on. -/
def divide (width divisor low : Nat) : Nat → State → State
  | 0, state => state
  | i + 1, state => divide width divisor low i (turn width divisor (low / 2 ^ i % 2) state)

variable {width divisor low bit : Nat} {state : State}

private theorem low_succ (low i : Nat) : low % 2 ^ (i + 1) = low / 2 ^ i % 2 * 2 ^ i + low % 2 ^ i := by
  rw [Nat.pow_succ, Nat.mod_mul, Nat.mul_comm, Nat.add_comm]

private theorem bit_lt (low i : Nat) : low / 2 ^ i % 2 < 2 := Nat.mod_lt _ (by decide)

/-- A turn keeps the remainder below the divisor and finds one bit of the quotient. -/
private theorem turn_exact (fits : 2 * divisor ≤ 2 ^ width) (small : state.rem < divisor) (binary : bit < 2) :
    ∃ digit, (turn width divisor bit state).rem < divisor ∧
      2 * state.rem + bit = divisor * digit + (turn width divisor bit state).rem ∧
      (turn width divisor bit state).quo = (2 * state.quo + digit) % 2 ^ width := by
  have whole : (2 * state.rem + bit) % 2 ^ width = 2 * state.rem + bit := Nat.mod_eq_of_lt (by omega)
  simp only [turn, whole]
  split
  · exact ⟨1, by dsimp only; omega, by dsimp only; omega, rfl⟩
  · exact ⟨0, by dsimp only; omega, by dsimp only; omega, rfl⟩

theorem turn_word (state : State) : (turn width divisor bit state).quo < 2 ^ width := by
  unfold turn
  dsimp only
  split <;> exact Nat.mod_lt _ (Nat.two_pow_pos width)

/-- With a remainder below the divisor the turns divide, up to the width of the quotient. -/
theorem divide_exact (fits : 2 * divisor ≤ 2 ^ width) (small : state.rem < divisor) (word : state.quo < 2 ^ width)
    (count : Nat) : (divide width divisor low count state).quo =
      (state.quo * 2 ^ count + (state.rem * 2 ^ count + low % 2 ^ count) / divisor) % 2 ^ width := by
  induction count generalizing state with
  | zero =>
    rw [divide, Nat.pow_zero, Nat.mod_one, Nat.mul_one, Nat.mul_one, Nat.add_zero, Nat.div_eq_of_lt small, Nat.add_zero,
      Nat.mod_eq_of_lt word]
  | succ i ih =>
    obtain ⟨digit, smaller, split, found⟩ := turn_exact fits small (bit_lt low i)
    rw [divide, ih smaller (turn_word state), found]
    have numerator : state.rem * 2 ^ (i + 1) + low % 2 ^ (i + 1) =
        (turn width divisor (low / 2 ^ i % 2) state).rem * 2 ^ i + low % 2 ^ i + divisor * (digit * 2 ^ i) := by
      calc state.rem * 2 ^ (i + 1) + low % 2 ^ (i + 1)
          = (2 * state.rem + low / 2 ^ i % 2) * 2 ^ i + low % 2 ^ i := by rw [low_succ]; ring
        _ = _ := by rw [split]; ring
    rw [numerator, Nat.add_mul_div_left _ _ (by omega)]
    generalize (_ + low % 2 ^ i) / divisor = rest
    have shifted : state.quo * 2 ^ (i + 1) + (rest + digit * 2 ^ i) = (2 * state.quo + digit) * 2 ^ i + rest := by ring
    rw [shifted]
    exact ((Nat.mod_modEq _ _).mul_right _).add_right _

/-- The bits of the quotient enter from below, whatever they are. -/
private theorem divide_shifts (word : state.quo < 2 ^ width) (count : Nat) :
    ∃ bits < 2 ^ count, (divide width divisor low count state).quo = (state.quo * 2 ^ count + bits) % 2 ^ width := by
  induction count generalizing state with
  | zero => exact ⟨0, by simp, by rw [Nat.pow_zero, Nat.mul_one, Nat.add_zero, Nat.mod_eq_of_lt word, divide]⟩
  | succ i ih =>
    obtain ⟨bits, inside, same⟩ := ih (turn_word state)
    have digit : ∃ digit < 2, (turn width divisor (low / 2 ^ i % 2) state).quo = (2 * state.quo + digit) % 2 ^ width := by
      unfold turn
      dsimp only
      split
      · exact ⟨1, by decide, rfl⟩
      · exact ⟨0, by decide, rfl⟩
    obtain ⟨digit, binary, found⟩ := digit
    refine ⟨digit * 2 ^ i + bits, ?_, ?_⟩
    · have most : digit * 2 ^ i ≤ 1 * 2 ^ i := Nat.mul_le_mul_right _ (by omega)
      rw [Nat.pow_succ]
      omega
    · rw [divide, same, found]
      have shifted : state.quo * 2 ^ (i + 1) + (digit * 2 ^ i + bits) = (2 * state.quo + digit) * 2 ^ i + bits := by ring
      rw [shifted]
      exact ((Nat.mod_modEq _ _).mul_right _).add_right _

/-- A quotient of more than one word shows: its highest bit is set. -/
theorem divide_overflow (large : divisor ≤ state.rem) (room : 2 * state.rem + 1 < 2 ^ (width + 1)) :
    2 ^ width ≤ (divide (width + 1) divisor low (width + 1) state).quo := by
  have binary := bit_lt low width
  have whole : (2 * state.rem + low / 2 ^ width % 2) % 2 ^ (width + 1) = 2 * state.rem + low / 2 ^ width % 2 :=
    Nat.mod_eq_of_lt (by omega)
  have first : (turn (width + 1) divisor (low / 2 ^ width % 2) state).quo = (2 * state.quo + 1) % 2 ^ (width + 1) := by
    unfold turn
    dsimp only
    rw [whole, if_pos (by omega)]
  have word : (turn (width + 1) divisor (low / 2 ^ width % 2) state).quo < 2 ^ (width + 1) := turn_word state
  obtain ⟨bits, inside, same⟩ := divide_shifts word width
  rw [divide, same, first]
  have value : ((2 * state.quo + 1) % 2 ^ (width + 1) * 2 ^ width + bits) % 2 ^ (width + 1) = 2 ^ width + bits := by
    calc ((2 * state.quo + 1) % 2 ^ (width + 1) * 2 ^ width + bits) % 2 ^ (width + 1)
        = ((2 * state.quo + 1) * 2 ^ width + bits) % 2 ^ (width + 1) := ((Nat.mod_modEq _ _).mul_right _).add_right _
      _ = (2 ^ width + bits + 2 ^ (width + 1) * state.quo) % 2 ^ (width + 1) := by
        congr 1
        ring
      _ = 2 ^ width + bits := by
        rw [Nat.add_mul_mod_self_left, Nat.mod_eq_of_lt]
        rw [Nat.pow_succ]
        omega
  rw [value]
  omega

end LongDivision
