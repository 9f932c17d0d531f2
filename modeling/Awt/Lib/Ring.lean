import Mathlib.Data.List.Basic

/-! An array used as a ring: items that stand in it one behind the other from some cell
on, and go on at its start behind its end. -/

namespace Ring

variable {α : Type} {cells extra : List (Option α)} {first i j : Nat} {items : List α} {item : α}

structure Holds (cells : List (Option α)) (first : Nat) (items : List α) : Prop where
  start : first < cells.length
  fits : items.length ≤ cells.length
  cell : ∀ i item, items[i]? = some item → cells[(first + i) % cells.length]? = some (some item)

theorem wrap {length : Nat} (start : first < length) (within : i < length) :
    (first + i) % length = if first + i < length then first + i else first + i - length := by
  split
  · case isTrue inside => exact Nat.mod_eq_of_lt inside
  · rw [Nat.mod_eq_sub_mod (by omega), Nat.mod_eq_of_lt (by omega)]

private theorem wrap_ne {length : Nat} (start : first < length) (one : i < length) (other : j < length) (differ : i ≠ j) :
    (first + i) % length ≠ (first + j) % length := by
  rw [wrap start one, wrap start other]
  split <;> split <;> omega

private theorem inside_of (given : items[i]? = some item) : i < items.length :=
  (List.getElem?_eq_some_iff.mp given).1

namespace Holds

theorem empty (inside : first < cells.length) : Holds cells first [] where
  start := inside
  fits := Nat.zero_le _
  cell i item given := by cases given

theorem head (holds : Holds cells first (item :: items)) : cells[first]? = some (some item) := by
  have found := holds.cell 0 item rfl
  rwa [Nat.add_zero, Nat.mod_eq_of_lt holds.start] at found

theorem push (holds : Holds cells first items) (room : items.length < cells.length) (item : α) :
    Holds (cells.set ((first + items.length) % cells.length) (some item)) first (items ++ [item]) where
  start := by
    rw [List.length_set]
    exact holds.start
  fits := by
    rw [List.length_set, List.length_append, List.length_singleton]
    exact room
  cell i other given := by
    have inside := inside_of given
    rw [List.length_append, List.length_singleton] at inside
    rw [List.length_set, List.getElem?_set]
    split
    · case isTrue same =>
      have last : items.length = i := by
        by_contra differ
        exact wrap_ne holds.start room (by omega) differ same
      subst last
      rw [List.getElem?_append_right (Nat.le_refl _), Nat.sub_self] at given
      cases given
      exact if_pos (Nat.mod_lt _ (by omega))
    · case isFalse differ =>
      have before : i < items.length := by
        by_contra last
        have same : i = items.length := by omega
        exact differ (by rw [same])
      rw [List.getElem?_append_left before] at given
      exact holds.cell i other given

theorem pop (holds : Holds cells first (item :: items)) : Holds cells ((first + 1) % cells.length) items where
  start := Nat.mod_lt _ (by have := holds.start; omega)
  fits := by
    have fits := holds.fits
    rw [List.length_cons] at fits
    omega
  cell i other given := by
    rw [Nat.mod_add_mod, Nat.add_assoc, Nat.add_comm 1 i]
    exact holds.cell (i + 1) other given

/-- A full ring stays one in a longer array when the cells in front of `first` follow the
old end. -/
theorem grow (holds : Holds cells first items) (full : items.length = cells.length) (extra : List (Option α)) :
    Holds (cells ++ cells.take first ++ extra) first items := by
  have start := holds.start
  have length : (cells ++ cells.take first ++ extra).length = cells.length + first + extra.length := by
    rw [List.length_append, List.length_append, List.length_take, Nat.min_eq_left (Nat.le_of_lt start)]
  constructor
  · omega
  · omega
  · intro i item given
    have inside := inside_of given
    have found := holds.cell i item given
    rw [wrap start (by omega)] at found
    rw [length, Nat.mod_eq_of_lt (by omega), List.append_assoc]
    split at found
    · case isTrue before =>
      rw [List.getElem?_append_left before]
      exact found
    · rw [List.getElem?_append_right (by omega),
        List.getElem?_append_left (by rw [List.length_take]; omega), List.getElem?_take_of_lt (by omega)]
      exact found

/-- The first item can be written over. -/
theorem replace (holds : Holds cells first (item :: items)) (other : α) :
    Holds (cells.set first (some other)) first (other :: items) where
  start := by
    rw [List.length_set]
    exact holds.start
  fits := by
    rw [List.length_set]
    exact holds.fits
  cell i found given := by
    have start := holds.start
    have fits := holds.fits
    rw [List.length_cons] at fits
    rw [List.length_set, List.getElem?_set]
    cases i with
    | zero =>
      cases given
      rw [Nat.add_zero, Nat.mod_eq_of_lt start, if_pos rfl, if_pos start]
    | succ i =>
      have inside := inside_of given
      rw [List.length_cons] at inside
      have differ : first ≠ (first + (i + 1)) % cells.length := by
        have other := wrap_ne start (show 0 < cells.length by omega) (show i + 1 < cells.length by omega) (by omega)
        rwa [Nat.add_zero, Nat.mod_eq_of_lt start] at other
      rw [if_neg differ]
      exact holds.cell (i + 1) found given

end Holds
end Ring
