import Mathlib.Data.List.Basic

/-! Cutting a stream into blocks of one size while it arrives in pieces of any size. -/

namespace Blocks

variable {α : Type}

/-- The consecutive blocks at the front of a stream. -/
def full (size : Nat) (stream : List α) : List (List α) :=
  (List.range (stream.length / size)).map fun k => (stream.drop (k * size)).take size

/-- What is left behind the last full block. -/
def rest (size : Nat) (stream : List α) : List α := stream.drop (stream.length / size * size)

/-- The buffer with a piece written behind its first `fill` items. -/
def store (buffer : List α) (fill : Nat) (piece : List α) : List α :=
  buffer.take fill ++ piece ++ buffer.drop (fill + piece.length)

/-- The cutter has given out all full blocks of a stream and holds the rest of it. -/
structure Cuts (size : Nat) (stream : List α) (out : List (List α)) (buffer : List α) (fill : Nat) : Prop where
  blocks : out = full size stream
  filled : fill = stream.length % size
  length : buffer.length = size
  held : buffer.take fill = rest size stream

theorem length_rest (size : Nat) (stream : List α) : (rest size stream).length = stream.length % size := by
  rw [rest, List.length_drop, Nat.mod_eq_sub_div_mul]

private theorem block_append {size k : Nat} {stream : List α} (inside : k < stream.length / size) (piece : List α) :
    ((stream ++ piece).drop (k * size)).take size = (stream.drop (k * size)).take size := by
  have bound : k * size + size ≤ stream.length := by
    calc k * size + size = (k + 1) * size := by rw [Nat.succ_mul]
      _ ≤ stream.length / size * size := Nat.mul_le_mul_right size inside
      _ ≤ stream.length := Nat.div_mul_le_self _ _
  rw [List.drop_append_of_le_length (by omega), List.take_append_of_le_length (by simp; omega)]

private theorem blocks_append (size : Nat) (stream piece : List α) :
    (List.range (stream.length / size)).map (fun k => ((stream ++ piece).drop (k * size)).take size) =
      full size stream := by
  apply List.map_congr_left
  intro k member
  exact block_append (List.mem_range.mp member) piece

private theorem rest_append (size : Nat) (stream piece : List α) :
    (stream ++ piece).drop (stream.length / size * size) = rest size stream ++ piece :=
  List.drop_append_of_le_length (Nat.div_mul_le_self _ _)

theorem full_prefix (size : Nat) (stream piece : List α) : full size stream <+: full size (stream ++ piece) := by
  rw [← blocks_append size stream piece, full]
  apply List.IsPrefix.map
  have more : stream.length / size ≤ (stream ++ piece).length / size :=
    Nat.div_le_div_right (by rw [List.length_append]; omega)
  obtain ⟨count, same⟩ := Nat.exists_eq_add_of_le more
  rw [same, List.range_add]
  exact List.prefix_append _ _

theorem append_short {size : Nat} {stream piece : List α} (short : stream.length % size + piece.length < size) :
    full size (stream ++ piece) = full size stream ∧ rest size (stream ++ piece) = rest size stream ++ piece := by
  have same : (stream ++ piece).length / size = stream.length / size := by
    have split := Nat.div_add_mod stream.length size
    rw [List.length_append, ← split, Nat.add_assoc, Nat.mul_add_div (by omega), Nat.div_eq_of_lt short]
    simp [Nat.mul_add_div (show 0 < size by omega), Nat.div_eq_of_lt (Nat.mod_lt _ (show 0 < size by omega))]
  constructor
  · rw [full, same, blocks_append]
  · rw [rest, same, rest_append]

theorem append_exact {size : Nat} (positive : 0 < size) {stream piece : List α}
    (exact : stream.length % size + piece.length = size) :
    full size (stream ++ piece) = full size stream ++ [rest size stream ++ piece] ∧
      rest size (stream ++ piece) = [] := by
  have length : (stream ++ piece).length = (stream.length / size + 1) * size := by
    have split := Nat.div_add_mod stream.length size
    rw [List.length_append, Nat.succ_mul, Nat.mul_comm]
    omega
  have more : (stream ++ piece).length / size = stream.length / size + 1 := by
    rw [length, Nat.mul_div_cancel _ positive]
  constructor
  · rw [full, more, List.range_succ, List.map_append, blocks_append, List.map_singleton, rest_append]
    rw [List.take_of_length_le (by rw [List.length_append, length_rest]; omega)]
  · rw [rest, more, ← length, List.drop_length]

theorem length_flatMap_range {size n : Nat} {piece : Nat → List α} (length : ∀ k < n, (piece k).length = size) :
    ((List.range n).flatMap piece).length = n * size := by
  rw [List.length_flatMap, List.map_congr_left (fun k member => length k (List.mem_range.mp member))]
  simp

/-- Pieces of one size that were put behind each other are found again. -/
theorem take_drop_flatMap {size n i : Nat} {piece : Nat → List α} (within : i < n)
    (length : ∀ k < n, (piece k).length = size) :
    (((List.range n).flatMap piece).drop (i * size)).take size = piece i := by
  have before : ((List.range i).flatMap piece).length = i * size :=
    length_flatMap_range fun k below => length k (Nat.lt_trans below within)
  obtain ⟨rest, rfl⟩ := Nat.exists_eq_add_of_lt within
  rw [show i + rest + 1 = i + (1 + rest) by omega, List.range_add, List.range_add, List.flatMap_append,
    ← before, List.drop_left]
  simp [List.range_succ_eq_map, length i within]

namespace Cuts

variable {size fill : Nat} {stream buffer piece : List α} {out : List (List α)}

private theorem length_store (fits : fill + piece.length ≤ buffer.length) :
    (store buffer fill piece).length = buffer.length := by
  simp only [store, List.length_append, List.length_take, List.length_drop]
  omega

private theorem take_store (fits : fill + piece.length ≤ buffer.length) :
    (store buffer fill piece).take (fill + piece.length) = buffer.take fill ++ piece := by
  have cut : (buffer.take fill).length = fill := by
    rw [List.length_take]
    omega
  have upto : (buffer.take fill ++ piece).length = fill + piece.length := by
    rw [List.length_append, cut]
  rw [store, List.take_append_of_le_length (Nat.le_of_eq upto.symm), List.take_of_length_le (Nat.le_of_eq upto)]

theorem short (cuts : Cuts size stream out buffer fill) (room : fill + piece.length < size) :
    Cuts size (stream ++ piece) out (store buffer fill piece) (fill + piece.length) := by
  have filled := cuts.filled
  have length := cuts.length
  obtain ⟨same, kept⟩ := append_short (show stream.length % size + piece.length < size by omega)
  constructor
  · rw [same, cuts.blocks]
  · rw [List.length_append, ← Nat.mod_add_mod, ← filled, Nat.mod_eq_of_lt room]
  · rw [length_store (by omega), length]
  · rw [take_store (by omega), cuts.held, kept]

/-- A piece that fills the buffer completes a block. -/
theorem complete (cuts : Cuts size stream out buffer fill) (positive : 0 < size) (exact : fill + piece.length = size) :
    Cuts size (stream ++ piece) (out ++ [store buffer fill piece]) (store buffer fill piece) 0 := by
  have filled := cuts.filled
  have length := cuts.length
  obtain ⟨more, emptied⟩ := append_exact positive (show stream.length % size + piece.length = size by omega)
  have whole : store buffer fill piece = rest size stream ++ piece := by
    rw [← cuts.held, ← take_store (by omega), List.take_of_length_le (by rw [length_store (by omega)]; omega)]
  constructor
  · rw [more, cuts.blocks, whole]
  · rw [List.length_append, ← Nat.mod_add_mod, ← filled, exact, Nat.mod_self]
  · rw [length_store (by omega), length]
  · rw [emptied, List.take_zero]

end Cuts

/-- Block `k` of one of several streams, with the stream's index. -/
def turn (streams : Nat → List α) (size k i : Nat) : Nat × List α := (i, ((streams i).drop (k * size)).take size)

/-- The first `count` blocks of `n` streams, handed out in turn. -/
def rounds (streams : Nat → List α) (size n count : Nat) : List (Nat × List α) :=
  (List.range count).flatMap fun k => (List.range n).map (turn streams size k)

/-- Behind `count` whole rounds, a round in which only `items` are still to come. -/
def Handed (streams : Nat → List α) (size n count : Nat) (items : List Nat) (out : List (Nat × List α)) : Prop :=
  ∃ served, served ++ items = List.range n ∧ out = rounds streams size n count ++ served.map (turn streams size count)

section rounds

variable {streams : Nat → List α} {size n count i : Nat} {items : List Nat} {out : List (Nat × List α)}

theorem rounds_succ : rounds streams size n (count + 1) =
    rounds streams size n count ++ (List.range n).map (turn streams size count) := by
  simp [rounds, List.range_succ]

theorem handed_start : Handed streams size n count (List.range n) (rounds streams size n count) :=
  ⟨[], rfl, (List.append_nil _).symm⟩

theorem Handed.within (handed : Handed streams size n count (i :: items) out) : i < n := by
  obtain ⟨served, same, _⟩ := handed
  exact List.mem_range.mp (same ▸ by simp)

theorem Handed.next (handed : Handed streams size n count (i :: items) out) :
    Handed streams size n count items (out ++ [turn streams size count i]) := by
  obtain ⟨served, same, rfl⟩ := handed
  exact ⟨served ++ [i], by simp [same], by simp⟩

theorem Handed.finish (handed : Handed streams size n count [] out) : out = rounds streams size n (count + 1) := by
  obtain ⟨served, same, rfl⟩ := handed
  rw [rounds_succ, ← same, List.append_nil]

end rounds
end Blocks
