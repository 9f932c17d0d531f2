import Awt.Lavfi.Buffer

/-! An `AWTBuffer` as a FIFO: what its operations do to the floats it holds, as long as
`realloc` gives memory and sizes stay within `int`. -/

namespace Awt.Lavfi
open OracleProgram

/-- The valid floats of a buffer. -/
def AWTBuffer.held (buffer : AWTBuffer) : List CFloat := buffer.data.take (buffer.size / 4).toNat

/-- Whole floats are valid, all of them allocated, and the allocation is as large as `max` says. -/
structure AWTBuffer.Sound (buffer : AWTBuffer) : Prop where
  size : buffer.size = (buffer.held.length : Int) * 4
  max : buffer.max = (buffer.data.length : Int) * 4
  int : buffer.max < 2 ^ 31

/-- No `int` overflows in `awt_buffer_ensure` for `add` more samples. -/
def AWTBuffer.GrowsInInt (buffer : AWTBuffer) (add : Int) : Prop :=
  buffer.size + add * 4 < 2 ^ 31 ∧
    (buffer.size + add * 4 ≤ buffer.max ∨ buffer.max * 2 < 2 ^ 31 ∧ buffer.max + add * 4 < 2 ^ 31)

instance (buffer : AWTBuffer) (add : Int) : Decidable (buffer.GrowsInInt add) := inferInstanceAs (Decidable (_ ∧ _))

def Call.allocates : Call → Bool
  | .realloc _ _ | .avMallocz _ => true
  | _ => false

/-- Memory is never refused. -/
structure Grants (law : Law) : Prop where
  realloc : ∀ past before place size, ¬ law past ⟨before, .realloc place size, none⟩
  mallocz : ∀ past before place, ¬ law past ⟨before, .avMallocz place, false⟩

variable {law : Law} {K : LavfiWorld → Prop} {halt : Stop → LavfiWorld → Prop} {world : LavfiWorld}
  {buffer : AWTBuffer} {place : Place}

theorem int_ok {value : Int} (least : -2 ^ 31 ≤ value) (most : value < 2 ^ 31) : int value = pure value := by
  rw [int, if_pos ⟨least, most⟩]

/-- An operation on `int` goes on with its value or ends the program. -/
theorem int_seq {value : Int} {next : Int → LavfiM α} {post : α → LavfiWorld → Prop}
    (fits : -2 ^ 31 ≤ value ∧ value < 2 ^ 31 → Meets law (next value) post halt world)
    (overflows : ¬ (-2 ^ 31 ≤ value ∧ value < 2 ^ 31) → halt (.fault .intOverflow) world) :
    Meets law (int value >>= next) post halt world := by
  by_cases within : -2 ^ 31 ≤ value ∧ value < 2 ^ 31
  · rw [int, if_pos within]
    exact fits within
  · rw [int, if_neg within]
    exact Meets.stop (overflows within)

theorem awtBufferSize_ok {count : Int} (least : -2 ^ 29 ≤ count) (most : count < 2 ^ 29) :
    awtBufferSize count = count * 4 := by
  rw [awtBufferSize, int32_eq_iff]
  omega

theorem awtBufferSize_range (count : Int) : -2 ^ 31 ≤ awtBufferSize count ∧ awtBufferSize count < 2 ^ 31 := by
  rw [awtBufferSize]
  exact ⟨Int.le_bmod (by decide), Int.bmod_lt (by decide)⟩

/-- What is left of the bytes are whole floats. -/
theorem awtBufferSize_whole (count : Int) : awtBufferSize count % 4 = 0 := by
  rw [awtBufferSize, int32]
  have low : (count * 4).bmod (2 ^ 32) % (2 ^ 32 : Nat) = count * 4 % (2 ^ 32 : Nat) := Int.bmod_emod
  omega

/-- Counts that differ by 2^30 samples are one to the machine. -/
theorem awtBufferSize_wraps (count : Int) : awtBufferSize (count + 2 ^ 30) = awtBufferSize count := by
  unfold awtBufferSize int32
  rw [show (count + 2 ^ 30) * 4 = count * 4 + ((2 ^ 32 : Nat) : Int) by omega, Int.add_bmod_right]

theorem AWTBuffer.held_of_size {count : Nat} (size : buffer.size = (count : Int) * 4) :
    buffer.held = buffer.data.take count := by
  rw [AWTBuffer.held, size, Int.mul_ediv_cancel _ (by decide), Int.toNat_natCast]

theorem AWTBuffer.held_fits (buffer : AWTBuffer) : buffer.held.length ≤ buffer.data.length := by
  rw [AWTBuffer.held, List.length_take]
  omega

theorem AWTBuffer.Sound.data_take (sound : buffer.Sound) : buffer.data.take buffer.held.length = buffer.held :=
  (AWTBuffer.held_of_size sound.size).symm

theorem AWTBuffer.Sound.count (sound : buffer.Sound) : buffer.size / 4 = buffer.held.length := by
  rw [sound.size, Int.mul_ediv_cancel _ (by decide)]

/-- A buffer holds fewer than 2^29 floats. -/
theorem AWTBuffer.Sound.few (sound : buffer.Sound) : buffer.held.length < 2 ^ 29 := by
  have fits := buffer.held_fits
  have maximum := sound.max
  have int := sound.int
  omega

/-- The doubled size fits as long as fewer than 2^30 bytes are needed. -/
theorem AWTBuffer.Sound.growsInInt (sound : buffer.Sound) {add : Nat} (small : (buffer.held.length + add) * 4 < 2 ^ 30) :
    buffer.GrowsInInt add := by
  have size := sound.size
  refine ⟨by omega, ?_⟩
  by_cases room : buffer.size + (add : Int) * 4 ≤ buffer.max
  · exact Or.inl room
  · exact Or.inr ⟨by omega, by omega⟩

/-- Valid floats are read the same from the allocation. -/
theorem AWTBuffer.Sound.data_block (sound : buffer.Sound) {off count : Nat} (within : off + count ≤ buffer.held.length) :
    (buffer.data.drop off).take count = (buffer.held.drop off).take count := by
  rw [← sound.data_take, List.drop_take, List.take_take, Nat.min_eq_left (by omega)]

/-- A buffer of which the first floats are declared valid. -/
theorem AWTBuffer.sound_of_data (data : List CFloat) (count : Nat) (fits : count ≤ data.length)
    (int : (data.length : Int) * 4 < 2 ^ 31) :
    (AWTBuffer.mk data ((count : Int) * 4) ((data.length : Int) * 4)).Sound ∧
      (AWTBuffer.mk data ((count : Int) * 4) ((data.length : Int) * 4)).held = data.take count := by
  have held : (AWTBuffer.mk data ((count : Int) * 4) ((data.length : Int) * 4)).held = data.take count :=
    AWTBuffer.held_of_size rfl
  refine ⟨⟨?_, rfl, int⟩, held⟩
  rw [held, List.length_take, Nat.min_eq_left fits]

theorem copyBytes_floats {dst src : List CFloat} (dstOff : Nat) {srcOff count : Nat} (inside : srcOff + count ≤ src.length)
    (fits : dstOff + count ≤ dst.length) :
    copyBytes dst ((dstOff : Int) * 4) src ((srcOff : Int) * 4) ((count : Int) * 4) =
      .ok (dst.take dstOff ++ (src.drop srcOff).take count ++ dst.drop (dstOff + count)) := by
  have floats (n : Nat) : (n : Int) * 4 / 4 = n := Int.mul_ediv_cancel _ (by decide)
  rw [copyBytes, floats, floats, floats, memcpy_ok inside fits]

/-- The floats that a reallocated block starts with. -/
theorem reallocated_take {data : List CFloat} {count kept : Nat} (fresh : Nat → CFloat) (within : kept ≤ data.length)
    (grows : kept ≤ count) : (reallocated data ((count : Int) * 4) fresh).take kept = data.take kept := by
  apply List.ext_getElem
  · simp only [reallocated, List.length_take, List.length_map, List.length_range]
    omega
  · intro k first second
    simp only [List.length_take] at second
    simp only [reallocated, List.getElem_take, List.getElem_map, List.getElem_range]
    exact (List.getElem_eq_getD (fresh k)).symm

theorem reallocated_length (data : List CFloat) (count : Nat) (fresh : Nat → CFloat) :
    (reallocated data ((count : Int) * 4) fresh).length = count := by
  rw [reallocated, Int.mul_ediv_cancel _ (by decide), List.length_map, List.length_range, Int.toNat_natCast]

/-- The buffer holds what it did, with room for `add` floats behind it. -/
structure AWTBuffer.Grown (buffer : AWTBuffer) (add : Nat) (grown : AWTBuffer) : Prop where
  sound : grown.Sound
  held : grown.held = buffer.held
  room : buffer.held.length + add ≤ grown.data.length
  keeps : buffer.data.length ≤ grown.data.length

theorem awtBufferEnsure_meets (grants : Grants law) (ignores : Ignores law (fun call => call.allocates) K)
    (sound : buffer.Sound) {add : Nat} (grows : buffer.GrowsInInt add) (holds : K world) :
    Meets law (awtBufferEnsure place buffer add) (fun grown world => buffer.Grown add grown ∧ K world) halt world := by
  have size := sound.size
  have maximum := sound.max
  have fits := buffer.held_fits
  obtain ⟨needed, larger⟩ := grows
  unfold awtBufferEnsure
  rw [awtBufferSize_ok (by omega) (by omega)]
  dsimp only
  rw [int_ok (by omega) needed]
  apply Meets.bind (Meets.ret _)
  split
  next room => exact Meets.ret ⟨⟨sound, rfl, by omega, le_refl _⟩, holds⟩
  next full =>
  obtain ⟨doubled, exact⟩ := larger.resolve_left full
  obtain ⟨count, same, keeps, room⟩ : ∃ count : Nat, max (buffer.max * 2) (buffer.max + add * 4) = (count : Int) * 4 ∧
      buffer.data.length ≤ count ∧ buffer.held.length + add ≤ count :=
    ⟨max (buffer.data.length * 2) (buffer.data.length + add), by omega, by omega, by omega⟩
  have int : (count : Int) * 4 < 2 ^ 31 := by omega
  rw [int_ok (by omega) doubled, int_ok (by omega) exact]
  apply Meets.bind (Meets.ret _)
  apply Meets.bind (Meets.ret _)
  rw [same, size]
  apply Meets.call_bind
  intro answer lawful
  cases answer with
  | none => exact (grants.realloc _ _ _ _ lawful).elim
  | some fresh =>
  have length := reallocated_length buffer.data count fresh
  have grown := AWTBuffer.sound_of_data (reallocated buffer.data (count * 4) fresh) buffer.held.length (by omega)
    (by rw [length]; exact int)
  rw [length, reallocated_take fresh buffer.held_fits (by omega), sound.data_take] at grown
  exact Meets.ret ⟨⟨grown.1, grown.2, by rw [length]; exact room, by rw [length]; exact keeps⟩, ignores _ rfl world holds _ lawful⟩

/-- What `awt_buffer_move_in` makes of a buffer. -/
structure AWTBuffer.Filled (buffer : AWTBuffer) (floats : List CFloat) (filled : AWTBuffer) : Prop where
  sound : filled.Sound
  held : filled.held = buffer.held ++ floats
  keeps : buffer.data.length ≤ filled.data.length

/-- A copy behind the floats that are held. -/
theorem AWTBuffer.Grown.store {grown : AWTBuffer} {data : List CFloat} {off count : Nat} (enlarged : buffer.Grown count grown)
    (inside : off + count ≤ data.length) :
    ∃ stored, copyBytes grown.data grown.size data ((off : Int) * 4) ((count : Int) * 4) = .ok stored ∧
      buffer.Filled ((data.drop off).take count) { grown with data := stored, size := grown.size + (count : Int) * 4 } := by
  obtain ⟨steady, same, room, keeps⟩ := enlarged
  have piece : ((data.drop off).take count).length = count := by
    rw [List.length_take, List.length_drop]
    omega
  rw [steady.size, copyBytes_floats _ inside (by rw [same]; exact room), steady.data_take, same]
  have stored : (buffer.held ++ (data.drop off).take count ++ grown.data.drop (buffer.held.length + count)).length =
      grown.data.length := by
    simp only [List.length_append, piece, List.length_drop]
    omega
  have filled := AWTBuffer.sound_of_data
    (buffer.held ++ (data.drop off).take count ++ grown.data.drop (buffer.held.length + count))
    (buffer.held.length + count) (by omega) (by rw [stored, ← steady.max]; exact steady.int)
  have upto : (buffer.held ++ (data.drop off).take count).length = buffer.held.length + count := by
    rw [List.length_append, piece]
  rw [stored, ← steady.max, List.take_append_of_le_length (Nat.le_of_eq upto.symm),
    List.take_of_length_le (Nat.le_of_eq upto), Int.natCast_add, Int.add_mul] at filled
  exact ⟨_, rfl, filled.1, filled.2, by rw [stored]; exact keeps⟩

theorem awtBufferMoveIn_meets (grants : Grants law) (ignores : Ignores law (fun call => call.allocates) K)
    (sound : buffer.Sound) {data : List CFloat} {off count : Nat} (grows : buffer.GrowsInInt count) (most : off < 2 ^ 29)
    (inside : off + count ≤ data.length) (holds : K world) :
    Meets law (awtBufferMoveIn place buffer data off count)
      (fun filled world => buffer.Filled ((data.drop off).take count) filled ∧ K world) halt world := by
  apply Meets.seq (awtBufferEnsure_meets grants ignores sound grows holds)
  intro grown world ⟨enlarged, holds⟩
  have size := enlarged.sound.size
  have needed := grows.1
  rw [sound.size] at needed
  rw [enlarged.held] at size
  obtain ⟨stored, copied, filled⟩ := enlarged.store inside
  rw [awtBufferSize_ok (by omega) (by omega), awtBufferSize_ok (by omega) (by omega)]
  dsimp only
  rw [copied, int_ok (by omega) (by omega)]
  exact Meets.ret ⟨filled, holds⟩

/-- The first `count` floats are dropped, or all if there are no more. -/
theorem awtBufferUpdate_ok (sound : buffer.Sound) {count : Nat} (most : count < 2 ^ 29) :
    ∃ updated, awtBufferUpdate buffer count = pure updated ∧ updated.Sound ∧ updated.held = buffer.held.drop count := by
  have size := sound.size
  have fits := buffer.held_fits
  have few := sound.few
  have int : (buffer.data.length : Int) * 4 < 2 ^ 31 := by
    rw [← sound.max]
    exact sound.int
  unfold awtBufferUpdate
  rw [awtBufferSize_ok (by omega) (by omega)]
  dsimp only
  rw [int_ok (by omega) (by omega), Program.pure_bind]
  split
  next some =>
    obtain ⟨left, length⟩ := Nat.exists_eq_add_of_le (show count ≤ buffer.held.length by omega)
    have remaining : buffer.size - (count : Int) * 4 = (left : Int) * 4 := by omega
    have kept : max 0 ((left : Int) * 4) = (left : Int) * 4 := by omega
    have moved : buffer.held.drop count = (buffer.data.drop count).take left := by
      rw [← sound.data_take, length, List.drop_take, Nat.add_sub_cancel_left]
    rw [remaining, kept, moved]
    have inside : count + left ≤ buffer.data.length := by omega
    have copied := copyBytes_floats 0 inside (show 0 + left ≤ buffer.data.length by omega)
    have piece : ((buffer.data.drop count).take left).length = left := by
      rw [List.length_take, List.length_drop]
      omega
    have stored : (buffer.data.take 0 ++ (buffer.data.drop count).take left ++ buffer.data.drop (0 + left)).length =
        buffer.data.length := by
      simp only [List.length_append, piece, List.take_zero, List.length_nil, List.length_drop]
      omega
    have updated := AWTBuffer.sound_of_data
      (buffer.data.take 0 ++ (buffer.data.drop count).take left ++ buffer.data.drop (0 + left)) left
      (by simp only [List.length_append, piece]; omega) (by rw [stored]; exact int)
    rw [stored, ← sound.max] at updated
    refine ⟨_, by rw [show (0 : Int) = ((0 : Nat) : Int) * 4 from rfl, copied]; rfl, updated.1, ?_⟩
    rw [updated.2, List.take_zero, List.nil_append, List.take_append_of_le_length (by omega),
      List.take_of_length_le (by omega)]
  next none =>
    have empty : max 0 (buffer.size - (count : Int) * 4) = 0 := by omega
    have beyond : buffer.held.drop count = [] := List.drop_eq_nil_of_le (by omega)
    rw [empty, beyond]
    refine ⟨_, rfl, ?_⟩
    have updated := AWTBuffer.sound_of_data buffer.data 0 (Nat.zero_le _) int
    rw [← sound.max] at updated
    simpa using updated

/-- A copy of `count` valid floats to the front of memory for as many. -/
theorem awtBufferMoveOut_ok (sound : buffer.Sound) {off count : Nat} (within : off + count ≤ buffer.held.length)
    {data : List CFloat} (room : count ≤ data.length) :
    awtBufferMoveOut buffer data off count = pure ((buffer.held.drop off).take count ++ data.drop count) := by
  have fits := buffer.held_fits
  have few := sound.few
  have inside : off + count ≤ buffer.data.length := by omega
  unfold awtBufferMoveOut
  rw [awtBufferSize_ok (by omega) (by omega), awtBufferSize_ok (by omega) (by omega),
    show (0 : Int) = ((0 : Nat) : Int) * 4 from rfl, copyBytes_floats 0 inside (by omega), sound.data_block within,
    List.take_zero, List.nil_append, Nat.zero_add]
  rfl

theorem memory_outcome {result : Except Awt.Fault α} (holds : K world) :
    Meets law (memory result) (fun value final => result = .ok value ∧ K final)
      (fun why final => why ≠ .fault .nullBuffer ∧ K final) world := by
  cases result with
  | ok value => exact Meets.ret ⟨rfl, holds⟩
  | error why => exact Meets.stop ⟨nofun, holds⟩

private theorem awtBufferEnsure_outcome (ignores : Ignores law (fun call => call.allocates) K) (add : Int) (holds : K world) :
    Meets law (awtBufferEnsure place buffer add) (fun grown final => grown.size = buffer.size ∧ K final)
      (fun why final => why ≠ .fault .nullBuffer ∧ K final) world := by
  refine int_seq (fun _ => ?_) fun _ => ⟨nofun, holds⟩
  split
  · exact Meets.ret ⟨rfl, holds⟩
  refine int_seq (fun _ => int_seq (fun _ => ?_) fun _ => ⟨nofun, holds⟩) fun _ => ⟨nofun, holds⟩
  apply Meets.call_seq (ignores _ rfl world holds)
  intro answer final holds
  cases answer <;> exact Meets.ret ⟨rfl, holds⟩

theorem copyBytes_reads {dst src copied : List CFloat} {dstOff srcOff count : Int}
    (done : copyBytes dst dstOff src srcOff count = .ok copied) : srcOff / 4 + count / 4 ≤ src.length := by
  unfold copyBytes memcpy at done
  by_contra outside
  split at done
  · cases done
  · rw [if_pos (by omega)] at done
    cases done

/-- Whatever the sizes are, a buffer that was filled counts the bytes, and they were read
inside the source. -/
theorem awtBufferMoveIn_outcome (ignores : Ignores law (fun call => call.allocates) K) (data : List CFloat) (off count : Int)
    (holds : K world) :
    Meets law (awtBufferMoveIn place buffer data off count) (fun filled final =>
      (filled.size = buffer.size + awtBufferSize count ∧ awtBufferSize off / 4 + awtBufferSize count / 4 ≤ data.length) ∧ K final)
      (fun why final => why ≠ .fault .nullBuffer ∧ K final) world := by
  apply Meets.seq (awtBufferEnsure_outcome ignores count holds)
  intro grown world ⟨same, holds⟩
  apply Meets.seq (memory_outcome holds)
  intro filled world ⟨copied, holds⟩
  exact int_seq (fun _ => Meets.ret ⟨⟨by rw [same], copyBytes_reads copied⟩, holds⟩) fun _ => ⟨nofun, holds⟩

/-- A new buffer asks for memory if its size is one. -/
theorem awtBufferEnsure_new (place : Place) (count : Int) :
    awtBufferEnsure place ⟨[], 0, 0⟩ count = if awtBufferSize count ≤ 0 then pure ⟨[], 0, 0⟩ else
      ask (.realloc place (awtBufferSize count)) >>= fun answer =>
        pure ⟨Option.elim answer [] (reallocated [] (awtBufferSize count)), 0, awtBufferSize count⟩ := by
  have range := awtBufferSize_range count
  unfold awtBufferEnsure
  dsimp only
  rw [Int.zero_add, Int.zero_mul, int_ok range.1 range.2, Program.pure_bind]
  split
  · rfl
  next positive =>
    rw [int_ok (by decide) (by decide), Program.pure_bind, Program.pure_bind, max_eq_right (by omega)]
    congr 1
    funext answer
    cases answer <;> rfl

theorem awtBufferCreate_meets (grants : Grants law) (ignores : Ignores law (fun call => call.allocates) K) (initSize : Int)
    (holds : K world) :
    Meets law (awtBufferCreate place initSize none) (fun buffer world =>
      (buffer.Sound ∧ buffer.held = [] ∧ buffer.max = max 0 (awtBufferSize initSize)) ∧ K world) halt world := by
  have range := awtBufferSize_range initSize
  have whole := awtBufferSize_whole initSize
  apply Meets.call_bind
  intro allocated lawful
  cases allocated with
  | false => exact (grants.mallocz _ _ _ lawful).elim
  | true =>
  have kept := ignores _ rfl world holds _ lawful
  rw [Bool.not_true, if_neg Bool.false_ne_true, awtBufferEnsure_new]
  split
  next none =>
    have empty := AWTBuffer.sound_of_data [] 0 (Nat.zero_le _) (by decide)
    exact Meets.ret ⟨⟨empty.1, empty.2, (max_eq_left none).symm⟩, kept⟩
  next some =>
    obtain ⟨count, same⟩ : ∃ count : Nat, awtBufferSize initSize = (count : Int) * 4 :=
      ⟨(awtBufferSize initSize / 4).toNat, by omega⟩
    rw [same] at range ⊢
    apply Meets.call_bind
    intro answer lawful
    cases answer with
    | none => exact (grants.realloc _ _ _ _ lawful).elim
    | some fresh =>
      have length := reallocated_length [] count fresh
      have empty := AWTBuffer.sound_of_data (reallocated [] (count * 4) fresh) 0 (Nat.zero_le _) (by rw [length]; exact range.2)
      rw [length] at empty
      exact Meets.ret ⟨⟨empty.1, empty.2, (max_eq_right (Int.le_of_not_le (same ▸ some))).symm⟩, ignores _ rfl _ kept _ lawful⟩

end Awt.Lavfi
