import Mathlib.Algebra.GroupWithZero.Nat
import Awt.Lib.Blocks
import Awt.Proofs.FilterOutline

/-! The library's `awt_filter_frame` on consecutive frames: the blocks that it hands to
the decoders, in the order of its calls, and what it reports. -/

namespace Awt
open OracleProgram Blocks

/-- The calls of `awt5_decode_stream_buffer`: the decoder's index and its block. -/
abbrev Feeds := List (Nat × List CFloat)

/-- A channel, a watermark and its percentage. -/
abbrev Report := Nat × CString × CFloat

/-- What the SDK finds in a block, by all blocks up to it. -/
abbrev Sdk := Feeds → CString × CFloat

def Sdk.report (sdk : Sdk) (feeds : Feeds) (i : Nat) : Option Report :=
  if (sdk feeds).1 = [] then none else some (i, sdk feeds)

/-- What is to be reported for these blocks. -/
def Sdk.reports (sdk : Sdk) (feeds : Feeds) : List Report :=
  (List.range feeds.length).filterMap fun m => feeds[m]?.bind fun feed => sdk.report (feeds.take (m + 1)) feed.1

theorem Sdk.reports_concat (sdk : Sdk) (feeds : Feeds) (feed : Nat × List CFloat) :
    sdk.reports (feeds ++ [feed]) = sdk.reports feeds ++ (sdk.report (feeds ++ [feed]) feed.1).toList := by
  have earlier : (List.range feeds.length).filterMap (fun m => (feeds ++ [feed])[m]?.bind fun feed' =>
      sdk.report ((feeds ++ [feed]).take (m + 1)) feed'.1) = sdk.reports feeds := by
    apply List.filterMap_congr
    intro m member
    have inside := List.mem_range.mp member
    rw [List.getElem?_append_left inside, List.take_append_of_le_length inside]
  have whole : (feeds ++ [feed]).take (feeds.length + 1) = feeds ++ [feed] := List.take_of_length_le (by simp)
  rw [reports, List.length_append, List.length_singleton, List.range_succ, List.filterMap_append, earlier]
  cases told : sdk.report (feeds ++ [feed]) feed.1 <;> simp [whole, told]

/-- The blocks of whole rounds were handed out, and everything found was reported. -/
structure Sdk.Served (sdk : Sdk) (streams : Nat → List CFloat) (size n count : Nat) (feeds : Feeds) (reports : List Report) :
    Prop where
  fed : feeds = rounds streams size n count
  reported : reports = sdk.reports feeds

/-- In a round in which the decoders in `items` were not handed their block yet. -/
structure Sdk.Serving (sdk : Sdk) (streams : Nat → List CFloat) (size n count : Nat) (items : List Nat) (feeds : Feeds)
    (reports : List Report) : Prop where
  fed : Handed streams size n count items feeds
  reported : reports = sdk.reports feeds

section serving

variable {sdk : Sdk} {streams : Nat → List CFloat} {size n count i : Nat} {items : List Nat} {feeds : Feeds}
  {reports : List Report}

theorem Sdk.Served.start (served : sdk.Served streams size n count feeds reports) :
    sdk.Serving streams size n count (List.range n) feeds reports := by
  refine ⟨?_, served.reported⟩
  rw [served.fed]
  exact handed_start

/-- The round goes on when what was found in the block was told. -/
theorem Sdk.Serving.next (serving : sdk.Serving streams size n count (i :: items) feeds reports) :
    sdk.Serving streams size n count items (feeds ++ [turn streams size count i])
      (reports ++ (sdk.report (feeds ++ [turn streams size count i]) i).toList) := by
  refine ⟨serving.fed.next, ?_⟩
  rw [Sdk.reports_concat, serving.reported]
  rfl

theorem Sdk.Serving.finish (serving : sdk.Serving streams size n count [] feeds reports) :
    sdk.Served streams size n (count + 1) feeds reports :=
  ⟨serving.fed.finish, serving.reported⟩

end serving

/-- What the decoders were handed. -/
def fed (past : History) : Feeds := past.filterMap fun event => match event with
  | ⟨_, .awt5DecodeStreamBuffer i _ input, _⟩ => some (i, input.getD [])
  | _ => none

/-- What the callback was told. -/
def reported (past : History) : List Report := past.filterMap fun event => match event with
  | ⟨_, .callback i wm percent _, _⟩ => some (i, wm, percent)
  | _ => none

/-- Decoders and callbacks return 0, and the SDK finds what it is known to. -/
def answered (sdk : Sdk) (past : History) : Event → Bool
  | ⟨_, .awt5DecodeStreamBuffer i _ input, result⟩ =>
    result.ret = 0 ∧ (result.found, result.percent) = sdk (fed past ++ [(i, input.getD [])])
  | ⟨_, .callback _ _ _ _, stop⟩ => stop = (0 : Int)
  | _ => true

abbrev Answered (sdk : Sdk) : Law := fun past event => answered sdk past event

/-- The frames of a stream, one after the other. -/
def awtFilterFrames (fuel : Nat) (frames : List AVFrame) : AwtM (List Int) :=
  Program.collect (awtFilterFrame fuel) frames

section rounds

variable {streams : Nat → List CFloat} {sdk : Sdk} {size n count fill moved start before i : Nat} {items : List Nat}
  {frame : AVFrame} {awt : AWTContext} {world : AwtWorld}

/-- A frame that brings the next samples of the streams, behind the first `before` ones. -/
structure AVFrame.Brings (frame : AVFrame) (streams : Nat → List CFloat) (n before : Nat) : Prop where
  planes : ∀ i < n, ∃ plane, frame.extendedData[i]? = some plane ∧ frame.nbSamples ≤ plane.length ∧
    plane.take frame.nbSamples.toNat = ((streams i).drop before).take frame.nbSamples.toNat

/-- The buffers in round `count`: of each channel's block the first samples are there. -/
structure InRound (streams : Nat → List CFloat) (size n count : Nat) (filled : Nat → Nat) (awt : AWTContext) : Prop where
  sized : awt.awtSize = size
  counted : awt.nbDecoder = n
  buffers : ∀ i < n, ∃ buffer, awt.buffer i = some buffer ∧ buffer.length = size ∧
    buffer.take (filled i) = ((streams i).drop (count * size)).take (filled i)

/-- Between two turns, at a sample of the streams. -/
structure AtSample (streams : Nat → List CFloat) (sdk : Sdk) (size n position : Nat) (world : AwtWorld) : Prop where
  filled : world.state.nbBuffer = (position % size : Nat)
  buffers : InRound streams size n (position / size) (fun _ => position % size) world.state
  served : sdk.Served streams size n (position / size) (fed world.trace) (reported world.trace)

/-- In the copy loop; the channels in `items` do not have their piece yet. -/
structure Pouring (streams : Nat → List CFloat) (sdk : Sdk) (size n position moved : Nat) (items : List Nat)
    (world : AwtWorld) : Prop where
  filled : world.state.nbBuffer = (position % size : Nat)
  fits : position % size + moved ≤ size
  distinct : items.Nodup
  within : ∀ i ∈ items, i < n
  buffers : InRound streams size n (position / size)
    (fun i => if i ∈ items then position % size else position % size + moved) world.state
  served : sdk.Served streams size n (position / size) (fed world.trace) (reported world.trace)

/-- In the decode loop; the decoders in `items` were not handed their block yet. -/
structure ServingRound (streams : Nat → List CFloat) (sdk : Sdk) (size n count : Nat) (items : List Nat)
    (world : AwtWorld) : Prop where
  filled : world.state.nbBuffer = 0
  buffers : InRound streams size n count (fun _ => size) world.state
  heard : sdk.Serving streams size n count items (fed world.trace) (reported world.trace)

/-- The first samples of a block and the ones behind them. -/
theorem take_drop_more (stream : List CFloat) (start fill count : Nat) :
    (stream.drop start).take (fill + count) = (stream.drop start).take fill ++ (stream.drop (start + fill)).take count := by
  rw [List.take_add, List.drop_drop]

theorem fed_concat (past : History) (event : Event) : fed (past ++ [event]) = fed past ++ fed [event] :=
  List.filterMap_append

theorem reported_concat (past : History) (event : Event) : reported (past ++ [event]) = reported past ++ reported [event] :=
  List.filterMap_append

/-- A call that is neither. -/
theorem served_record (served : sdk.Served streams size n count (fed world.trace) (reported world.trace)) {call : Call}
    {answer : Answer call} (unfed : fed [⟨world.state, call, answer⟩] = [])
    (unreported : reported [⟨world.state, call, answer⟩] = []) :
    sdk.Served streams size n count (fed (world.record call answer).trace) (reported (world.record call answer).trace) := by
  rw [World.record_trace, fed_concat, reported_concat, unfed, unreported, List.append_nil, List.append_nil]
  exact served

theorem AtSample.pour (atSample : AtSample streams sdk size n start world) (fits : start % size + moved ≤ size) :
    Pouring streams sdk size n start moved (List.range n) world := by
  refine ⟨atSample.filled, fits, List.nodup_range, fun i member => List.mem_range.mp member, ?_, atSample.served⟩
  refine { atSample.buffers with buffers := fun i within => ?_ }
  rw [if_pos (List.mem_range.mpr within)]
  exact atSample.buffers.buffers i within

/-- A copy of the next samples of a stream makes more of its block. -/
theorem memcpy_block {dst src stream : List CFloat} {front fill off : Nat} (inside : off + count ≤ src.length)
    (fits : fill + count ≤ dst.length) (taken : dst.take fill = (stream.drop front).take fill)
    (next : (src.drop off).take count = (stream.drop (front + fill)).take count) :
    ∃ filled, memcpy dst fill src off count = .ok filled ∧ filled.length = dst.length ∧
      filled.take (fill + count) = (stream.drop front).take (fill + count) := by
  refine ⟨_, memcpy_ok inside fits, ?_, ?_⟩
  · simp only [List.length_append, List.length_take, List.length_drop]
    omega
  · have length : (dst.take fill ++ (src.drop off).take count).length = fill + count := by
      simp only [List.length_append, List.length_take, List.length_drop]
      omega
    rw [List.take_append_of_le_length (Nat.le_of_eq length.symm), List.take_of_length_le (Nat.le_of_eq length), taken, next,
      take_drop_more]

/-- What a frame brings from `start` on. -/
theorem AVFrame.Brings.piece (brings : frame.Brings streams n before) (within : i < n)
    (inside : start + moved ≤ frame.nbSamples.toNat) : ∃ plane, frame.extendedData[i]? = some plane ∧
      start + moved ≤ plane.length ∧ (plane.drop start).take moved = ((streams i).drop (before + start)).take moved := by
  obtain ⟨plane, found, long, same⟩ := brings.planes i within
  refine ⟨plane, found, by omega, ?_⟩
  calc (plane.drop start).take moved
    _ = ((plane.take frame.nbSamples.toNat).drop start).take moved := by
      rw [List.drop_take, List.take_take, Nat.min_eq_left (by omega)]
    _ = ((streams i).drop (before + start)).take moved := by
      rw [same, List.drop_take, List.take_take, Nat.min_eq_left (by omega), List.drop_drop]

/-- The copy for one channel adds its samples to the block. -/
theorem Pouring.copied (pouring : Pouring streams sdk size n (before + start) moved (i :: items) world)
    (brings : frame.Brings streams n before) (inside : start + moved ≤ frame.nbSamples.toNat) :
    ∃ plane buffer filled, frame.extendedData[i]? = some plane ∧ world.state.buffer i = some buffer ∧
      memcpy buffer world.state.nbBuffer plane start moved = .ok filled ∧
      InRound streams size n ((before + start) / size)
        (fun j => if j ∈ items then (before + start) % size else (before + start) % size + moved)
        (world.state.setBuffer i (some filled)) := by
  have bound := pouring.within i (List.mem_cons_self ..)
  have fresh := (List.nodup_cons.mp pouring.distinct).1
  obtain ⟨plane, found, long, piece⟩ := brings.piece bound inside
  obtain ⟨buffer, held, length, taken⟩ := pouring.buffers.buffers i bound
  rw [if_pos (List.mem_cons_self ..)] at taken
  have fits : (before + start) % size + moved ≤ buffer.length := by rw [length]; exact pouring.fits
  rw [← Nat.div_add_mod' (before + start) size] at piece
  obtain ⟨filled, copies, same, more⟩ := memcpy_block long fits taken piece
  rw [← pouring.filled] at copies
  refine ⟨plane, buffer, filled, found, held, copies, { pouring.buffers with buffers := fun j within => ?_ }⟩
  by_cases other : j = i
  · subst other
    refine ⟨filled, setBuffer_same .., same.trans length, ?_⟩
    rw [if_neg fresh]
    exact more
  · rw [setBuffer_other _ other]
    obtain ⟨buffer, held, length, taken⟩ := pouring.buffers.buffers j within
    simp only [List.mem_cons, other, false_or] at taken
    exact ⟨buffer, held, length, taken⟩

private theorem same_round (short : start % size + moved < size) :
    (start + moved) / size = start / size ∧ (start + moved) % size = start % size + moved := by
  have split := Nat.div_add_mod' start size
  have whole := Nat.div_add_mod' (start + moved) size
  have same : (start + moved) / size = start / size := by
    apply Nat.div_eq_of_lt_le
    · omega
    · rw [Nat.succ_mul]
      omega
  rw [same] at whole
  exact ⟨same, by omega⟩

private theorem full_round (full : start % size + moved = size) : start + moved = (start / size + 1) * size := by
  have split := Nat.div_add_mod' start size
  rw [Nat.succ_mul]
  omega

/-- The test behind the copy loop. -/
theorem Pouring.short_iff (pouring : Pouring streams sdk size n start moved items world) :
    world.state.nbBuffer + moved < world.state.awtSize ↔ start % size + moved < size := by
  rw [pouring.filled, pouring.buffers.sized]
  omega

theorem Pouring.short (pouring : Pouring streams sdk size n start moved [] world) (short : start % size + moved < size) :
    AtSample streams sdk size n (start + moved) (world.update fun awt => { awt with nbBuffer := awt.nbBuffer + moved }) := by
  obtain ⟨same, more⟩ := same_round short
  have filled := pouring.filled
  constructor
  · rw [World.update_state, more, filled, Int.natCast_add]
  · rw [same, more]
    refine { pouring.buffers with buffers := fun i within => ?_ }
    have held := pouring.buffers.buffers i within
    rwa [if_neg List.not_mem_nil] at held
  · rw [same]
    exact pouring.served

theorem Pouring.full (pouring : Pouring streams sdk size n start moved [] world) (full : start % size + moved = size) :
    ServingRound streams sdk size n (start / size) (List.range n) (world.update fun awt => { awt with nbBuffer := 0 }) := by
  refine ⟨rfl, { pouring.buffers with buffers := fun i within => ?_ }, pouring.served.start⟩
  have held := pouring.buffers.buffers i within
  rwa [if_neg List.not_mem_nil, full] at held

/-- What the buffer of a decoder holds is the whole block of its stream. -/
theorem ServingRound.block (serving : ServingRound streams sdk size n count items world) (within : i < n) :
    world.state.buffer i = some (((streams i).drop (count * size)).take size) := by
  obtain ⟨buffer, held, length, taken⟩ := serving.buffers.buffers i within
  rw [held, ← taken, List.take_of_length_le (Nat.le_of_eq length)]

/-- A decoder is handed its block, and finds what the SDK does. -/
theorem ServingRound.hand (serving : ServingRound streams sdk size n count (i :: items) world) {result : BufferResult}
    (answers : Answered sdk world.trace ⟨world.state, .awt5DecodeStreamBuffer i (world.state.decoder i) (world.state.buffer i),
      result⟩) :
    result.ret = 0 ∧ (result.found, result.percent) = sdk (Awt.fed world.trace ++ [turn streams size count i]) := by
  have whole := serving.block serving.heard.fed.within
  obtain ⟨zero, found⟩ := of_decide_eq_true answers
  rw [whole, Option.getD_some] at found
  exact ⟨zero, found⟩

theorem ServingRound.handed (serving : ServingRound streams sdk size n count (i :: items) world) (result : BufferResult) :
    Awt.fed (world.record (.awt5DecodeStreamBuffer i (world.state.decoder i) (world.state.buffer i)) result).trace =
      Awt.fed world.trace ++ [turn streams size count i] := by
  rw [World.record_trace, fed_concat, serving.block serving.heard.fed.within]
  rfl

theorem ServingRound.next (serving : ServingRound streams sdk size n count (i :: items) world) {final : AwtWorld}
    (filled : final.state.nbBuffer = 0) (buffers : InRound streams size n count (fun _ => size) final.state)
    (handed : Awt.fed final.trace = Awt.fed world.trace ++ [turn streams size count i])
    (told : Awt.reported final.trace = Awt.reported world.trace ++ (sdk.report (Awt.fed final.trace) i).toList) :
    ServingRound streams sdk size n count items final := by
  refine ⟨filled, buffers, ?_⟩
  rw [handed] at told ⊢
  rw [told]
  exact serving.heard.next

theorem ServingRound.finish (serving : ServingRound streams sdk size n count [] world) (positive : 0 < size) :
    AtSample streams sdk size n ((count + 1) * size) world := by
  have next : (count + 1) * size / size = count + 1 := Nat.mul_div_cancel _ positive
  have empty : (count + 1) * size % size = 0 := Nat.mul_mod_left ..
  constructor
  · rw [empty, serving.filled]
    rfl
  · rw [next, empty]
    refine { serving.buffers with buffers := fun i within => ?_ }
    obtain ⟨buffer, held, length, _⟩ := serving.buffers.buffers i within
    exact ⟨buffer, held, length, rfl⟩
  · rw [next]
    exact serving.heard.finish

private def roundFilter (sdk : Sdk) (positive : 0 < size) (brings : frame.Brings streams n before) :
    FilterOutline (Answered sdk) n frame where
  head off world := ∃ start : Nat, off = start ∧ start ≤ frame.nbSamples.toNat ∧
    AtSample streams sdk size n (before + start) world
  copying off count items world := ∃ start moved : Nat, off = start ∧ count = moved ∧ start + moved ≤ frame.nbSamples.toNat ∧
    ((before + start) % size + moved < size → start + moved = frame.nbSamples.toNat) ∧
    Pouring streams sdk size n (before + start) moved items world
  decoding off items world := ∃ start count : Nat, off = start ∧ start ≤ frame.nbSamples.toNat ∧
    before + start = (count + 1) * size ∧ ServingRound streams sdk size n count items world
  left ret world := ret = 0 ∧ AtSample streams sdk size n (before + frame.nbSamples.toNat) world
  halt _ _ := False
  finish off world done := by
    rintro ⟨start, rfl, inside, atSample⟩
    have all : start = frame.nbSamples.toNat := by omega
    exact ⟨rfl, all ▸ atSample⟩
  enter off world within := by
    rintro ⟨start, rfl, inside, atSample⟩
    have room := Nat.mod_lt (before + start) positive
    have sized := atSample.buffers.sized
    have filled := atSample.filled
    refine ⟨start, min (size - (before + start) % size) (frame.nbSamples.toNat - start), rfl, ?_, by omega, by omega,
      atSample.pour (by omega)⟩
    omega
  copy off count i rest world := by
    rintro ⟨start, moved, rfl, rfl, inside, least, pouring⟩ answer _
    obtain ⟨plane, buffer, filled, found, held, copies, buffers⟩ := pouring.copied brings inside
    simp only [Copied, World.record_state, found, held, copies]
    exact ⟨start, moved, rfl, rfl, inside, least, pouring.filled, pouring.fits, (List.nodup_cons.mp pouring.distinct).2,
      fun j member => pouring.within j (List.mem_cons_of_mem _ member), buffers, served_record pouring.served rfl rfl⟩
  short off count world := by
    rintro ⟨start, moved, rfl, rfl, inside, least, pouring⟩ partly
    have short := pouring.short_iff.mp partly
    refine ⟨rfl, ?_⟩
    rw [← least short, ← Nat.add_assoc]
    exact pouring.short short
  full off count world := by
    rintro ⟨start, moved, rfl, rfl, inside, least, pouring⟩ whole
    have full := Nat.le_antisymm pouring.fits (Nat.le_of_not_lt fun short => whole (pouring.short_iff.mpr short))
    refine ⟨start + moved, (before + start) / size, by rw [Int.natCast_add], inside, ?_, pouring.full full⟩
    rw [← Nat.add_assoc, full_round full]
  decode off i rest world := by
    rintro ⟨start, count, rfl, inside, behind, serving⟩ result answers
    obtain ⟨zero, found⟩ := serving.hand answers
    have handed := serving.handed result
    rw [if_neg (not_not.mpr zero)]
    by_cases silent : result.found = []
    · rw [if_pos silent]
      refine ⟨start, count, rfl, inside, behind, serving.next serving.filled serving.buffers handed ?_⟩
      rw [handed, Sdk.report, ← found, if_pos silent, World.record_trace, reported_concat]
      rfl
    · rw [if_neg silent]
      intro stop answers
      have goes : stop = 0 := of_decide_eq_true answers
      rw [if_neg (not_not.mpr goes)]
      refine ⟨start, count, rfl, inside, behind, serving.next serving.filled { serving.buffers with } ?_ ?_⟩
      · rw [World.record_trace, fed_concat, World.update_trace, handed]
        exact List.append_nil _
      · rw [World.record_trace, fed_concat, reported_concat, World.update_trace, handed, World.record_trace, reported_concat]
        rw [show fed [_] = [] from rfl, List.append_nil, Sdk.report, ← found, if_neg silent, List.append_assoc]
        rfl
  again off world := by
    rintro ⟨start, count, rfl, inside, behind, serving⟩
    refine ⟨start, rfl, inside, ?_⟩
    rw [behind]
    exact serving.finish positive

/-- The frames bring the streams one after the other. -/
def Consecutive (streams : Nat → List CFloat) (n : Nat) : Nat → List AVFrame → Prop
  | _, [] => True
  | before, frame :: frames => frame.Brings streams n before ∧ Consecutive streams n (before + frame.nbSamples.toNat) frames

def brought (frames : List AVFrame) : Nat := (frames.map (·.nbSamples.toNat)).sum

/-- Every frame is cut to its end, and all decoders get all full blocks in turn. -/
theorem awtFilterFrames_rounds (positive : 0 < size) {fuel : Nat} {frames : List AVFrame}
    (consecutive : Consecutive streams n before frames) (enough : ∀ frame ∈ frames, frame.nbSamples.toNat < fuel)
    (atSample : AtSample streams sdk size n before world) :
    Meets (Answered sdk) (awtFilterFrames fuel frames) (fun _ => AtSample streams sdk size n (before + brought frames))
      (fun _ _ => False) world := by
  have reached : Meets (Answered sdk) (awtFilterFrames fuel frames) (fun _ world => ∃ position,
      Consecutive streams n position [] ∧ (∀ frame ∈ ([] : List AVFrame), frame.nbSamples.toNat < fuel) ∧
      position + brought [] = before + brought frames ∧ AtSample streams sdk size n position world)
      (fun _ _ => False) world := by
    apply Meets.collect (fun rest _ world => ∃ position, Consecutive streams n position rest ∧
      (∀ frame ∈ rest, frame.nbSamples.toNat < fuel) ∧ position + brought rest = before + brought frames ∧
      AtSample streams sdk size n position world) _ frames ⟨before, consecutive, enough, rfl, atSample⟩
    intro frame rest _ world ⟨position, ⟨brings, consecutive⟩, enough, total, atSample⟩
    have room (off : Int) (world : AwtWorld) (head : (roundFilter sdk positive brings).head off world) :
        world.state.nbBuffer < world.state.awtSize := by
      obtain ⟨start, _, _, atSample⟩ := head
      rw [atSample.filled, atSample.buffers.sized]
      exact_mod_cast Nat.mod_lt _ positive
    apply ((roundFilter sdk positive brings).sound_within room fuel (enough frame (List.mem_cons_self ..))
      atSample.buffers.counted ⟨0, rfl, Nat.zero_le _, atSample⟩).imp
    intro _ final ⟨_, atSample⟩
    refine ⟨_, consecutive, fun other member => enough other (List.mem_cons_of_mem _ member), ?_, atSample⟩
    rw [← total, brought, brought, List.map_cons, List.sum_cons, Nat.add_assoc]
  apply reached.imp
  intro _ final ⟨position, _, _, total, atSample⟩
  rw [← total]
  exact atSample

end rounds
end Awt
