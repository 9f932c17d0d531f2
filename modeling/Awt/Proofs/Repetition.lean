import Awt.Lavfi.Script
import Awt.Lib.Observer
import Awt.Proofs.FilterSession

/-! What a failing call leaves for the next one: whether blocks are decoded again, and
whether samples are emitted again. -/

namespace Awt.Lavfi
open OracleProgram

/-- Where the filter stands in the streams of its channels. `decoded` is where the last
block of a decoder ends in what was received, `emitted` where the last packet ends in
what was passed on to the output FIFOs. -/
structure Positions where
  frames : List AVFrame
  passed : Planes
  start : Int
  decoded : Nat → Int
  emitted : Int

/-- What `out` has for a channel. -/
def AWTContext.outBlock (awt : AWTContext) (i : Nat) : List CFloat :=
  ((awt.outBuffer.elim [] (·.data)).drop (i * awt.awtSize.toNat)).take awt.awtSize.toNat

/-- A FIFO holds the end of its stream, so `start` in the FIFO is here in the stream. -/
def Positions.inputAt (positions : Positions) (awt : AWTContext) (i : Nat) : Int :=
  received positions.frames - (awt.inputAt i).elim 0 (·.size / 4) + positions.start

def Positions.outputAt (positions : Positions) (awt : AWTContext) : Int :=
  (positions.passed 0).length - (awt.outputAt 0).elim 0 (·.size / 4) + positions.start

def positions : Observer Surroundings AWTContext Positions where
  init := ⟨[], fun _ => [], 0, fun _ => 0, 0⟩
  step positions event := match event with
    | ⟨_, .mark (.frame inFrame), _⟩ => { positions with frames := positions.frames ++ [inFrame] }
    | ⟨_, .mark (.block start), _⟩ => { positions with start }
    | ⟨_, .mark (.packet start), _⟩ => { positions with start }
    | ⟨awt, .mark (.pass _), _⟩ => { positions with passed := fun i => positions.passed i ++ awt.outBlock i }
    | ⟨awt, .awt5DecodeStreamBuffer i _ _, _⟩ =>
      { positions with decoded := Function.update positions.decoded i (positions.inputAt awt i + awt.awtSize) }
    | ⟨awt, .ffFilterFrame _, _⟩ => { positions with emitted := positions.outputAt awt + awt.pktSize }
    | _ => positions

/-- A decoder is handed the block of its channel's stream at a position behind its last
one, and a packet is cut from what was passed on, behind the last packet. -/
def advances (positions : Positions) : Event → Prop
  | ⟨awt, .awt5DecodeStreamBuffer i _ input, _⟩ => positions.decoded i ≤ positions.inputAt awt i ∧
      input = Planes.block (stream positions.frames) (positions.inputAt awt i).toNat awt.awtSize.toNat i
  | ⟨awt, .ffFilterFrame out, _⟩ => positions.emitted ≤ positions.outputAt awt ∧
      out.extendedData = (List.range out.extendedData.length).map
        (positions.passed.block (positions.outputAt awt).toNat awt.pktSize.toNat)
  | _ => True

instance (positions : Positions) (event : Event) : Decidable (advances positions event) := by
  unfold advances
  split <;> infer_instance

abbrev Advances : Law := positions.law advances

/-- The failures so far: of a decoder, and of a call behind a packet that it had emitted. -/
structure Setbacks where
  decoding : Bool
  gave : Bool
  emitting : Bool

def setbacks : Observer Surroundings AWTContext Setbacks where
  init := ⟨false, false, false⟩
  step setbacks event := match event with
    | ⟨_, .mark (.frame _), _⟩ => { setbacks with gave := false }
    | ⟨_, .awt5DecodeStreamBuffer _ _ _, result⟩ => { setbacks with decoding := setbacks.decoding || result.ret != 0 }
    | ⟨_, .ffGetAudioBuffer _, answer⟩ => { setbacks with emitting := setbacks.emitting || (setbacks.gave && answer.isNone) }
    | ⟨_, .ffFilterFrame _, ret⟩ =>
      { setbacks with gave := true, emitting := setbacks.emitting || (ret : Int) != 0 }
    | _ => setbacks

/-- No frame comes after a failure of a decoder, and no frame is allocated after a call
that failed behind a packet. -/
def unresumed (setbacks : Setbacks) : Event → Bool
  | ⟨_, .mark (.frame _), _⟩ => !setbacks.decoding
  | ⟨_, .ffGetAudioBuffer _, answer⟩ => !(setbacks.emitting && answer.isSome)
  | _ => true

abbrev Unresumed : Law := setbacks.law fun setbacks event => unresumed setbacks event

section calls

variable {rig : Rig} {fifos : Fifos} {past : History} {awt : AWTContext} {start : Nat} {items : List Nat}

/-- The FIFOs hold the ends of their streams. -/
structure Rig.Placed (rig : Rig) (fifos : Fifos) (place : Positions) : Prop where
  fits : ∀ frame ∈ place.frames, frame.Fits rig.channels
  input : ∀ i < rig.channels, fifos.input i <:+ stream place.frames i
  output : ∀ i < rig.channels, fifos.output i <:+ place.passed i
  passed : ∀ i < rig.channels, (place.passed i).length = (place.passed 0).length

/-- Where the FIFOs begin in their streams. -/
def Fifos.inputBase (fifos : Fifos) (place : Positions) : Int := received place.frames - (fifos.input 0).length

def Fifos.outputBase (fifos : Fifos) (place : Positions) : Int := (place.passed 0).length - (fifos.output 0).length

theorem inputAt_ready (ready : rig.Ready fifos awt) (place : Positions) {i : Nat} (within : i < rig.channels) :
    place.inputAt awt i = fifos.inputBase place + place.start := by
  obtain ⟨input, found, sound, held⟩ := ready.input i within
  rw [Positions.inputAt, found, Option.elim_some, sound.count, held, ready.level.input i within]
  rfl

theorem outputAt_ready (ready : rig.Ready fifos awt) (place : Positions) :
    place.outputAt awt = fifos.outputBase place + place.start := by
  obtain ⟨output, found, sound, held⟩ := ready.output 0 rig.present
  rw [Positions.outputAt, found, Option.elim_some, sound.count, held]
  rfl

theorem outBlock_ready (ready : rig.Ready fifos awt) {i : Nat} (within : i < rig.channels) :
    awt.outBlock i = rig.block i := by
  obtain ⟨outBuffer, found, _, blocks⟩ := ready.outBuffer
  rw [AWTContext.outBlock, found, Option.elim_some, ready.awtSize, Int.toNat_natCast, blocks i within]

/-- A block of a suffix is a block of the whole. -/
theorem block_of_suffix {held whole : List CFloat} (suffix : held <:+ whole) (start count : Nat) :
    (held.drop start).take count = (whole.drop (whole.length - held.length + start)).take count := by
  rw [List.suffix_iff_eq_drop.mp suffix, List.drop_drop, List.length_drop]
  congr 2
  have := suffix.length_le
  omega

namespace Rig.Placed

variable {place : Positions}

theorem inputBlock (placed : rig.Placed fifos place) (level : fifos.Level rig.channels) {i : Nat} (within : i < rig.channels)
    (start count : Nat) : fifos.input.block start count i =
      Planes.block (stream place.frames) (fifos.inputBase place + start).toNat count i := by
  have suffix := placed.input i within
  have shorter := suffix.length_le
  have length := length_stream placed.fits within
  have same := level.input i within
  rw [Planes.block, Planes.block, block_of_suffix suffix, Fifos.inputBase]
  congr 2
  omega

theorem outputBlock (placed : rig.Placed fifos place) (level : fifos.Level rig.channels) {i : Nat} (within : i < rig.channels)
    (start count : Nat) : fifos.output.block start count i =
      place.passed.block (fifos.outputBase place + start).toNat count i := by
  have suffix := placed.output i within
  have shorter := suffix.length_le
  have length := placed.passed i within
  have same := level.output i within
  rw [Planes.block, Planes.block, block_of_suffix suffix, Fifos.outputBase]
  congr 2
  omega

theorem receive (placed : rig.Placed fifos place) {inFrame : AVFrame} (fits : inFrame.Fits rig.channels) :
    rig.Placed (fifos.receive inFrame) { place with frames := place.frames ++ [inFrame] } := by
  refine ⟨fun frame member => ?_, fun i within => ?_, placed.output, placed.passed⟩
  · rcases List.mem_append.mp member with earlier | last
    · exact placed.fits frame earlier
    · rwa [List.mem_singleton.mp last]
  · obtain ⟨before, same⟩ := placed.input i within
    exact ⟨before, by rw [stream_concat, ← same, List.append_assoc]; rfl⟩

theorem pass (placed : rig.Placed fifos place) (ready : rig.Ready fifos awt) :
    rig.Placed (fifos.pass rig) { place with passed := fun i => place.passed i ++ awt.outBlock i } := by
  refine ⟨placed.fits, placed.input, fun i within => ?_, fun i within => ?_⟩
  · obtain ⟨before, same⟩ := placed.output i within
    refine ⟨before, ?_⟩
    simp only [Fifos.pass]
    rw [outBlock_ready ready within, ← same, List.append_assoc]
  · simp only [List.length_append, outBlock_ready ready within, outBlock_ready ready rig.present, placed.passed i within,
      rig.filled i within, rig.filled 0 rig.present]

theorem dropInput (placed : rig.Placed fifos place) (count : Nat) : rig.Placed (fifos.dropInput count) place :=
  { placed with input := fun i within => (List.drop_suffix count _).trans (placed.input i within) }

theorem dropOutput (placed : rig.Placed fifos place) (count : Nat) : rig.Placed (fifos.dropOutput count) place :=
  { placed with output := fun i within => (List.drop_suffix count _).trans (placed.output i within) }

end Rig.Placed

/-- What is known of the two accounts between the steps of a call. -/
structure Rig.Stands (rig : Rig) (all rest : List AVFrame) (fifos : Fifos) (kept doomed : Positions → Setbacks → Prop)
    (past : History) : Prop where
  placed : rig.Placed fifos (positions.seen past)
  frames : (positions.seen past).frames ++ rest = all
  together : Together Advances Unresumed (kept (positions.seen past) (setbacks.seen past))
    (doomed (positions.seen past) (setbacks.seen past)) past

/-- The last packet ends at the front of the output FIFOs, unless a call failed behind it. -/
def Fifos.Emitted (fifos : Fifos) (place : Positions) (setbacks : Setbacks) : Prop :=
  if setbacks.emitting then fifos.outputBase place < place.emitted else place.emitted ≤ fifos.outputBase place

/-- Between two calls. A failed decoder leaves a block in front that was decoded. -/
structure Rig.Resting (rig : Rig) (fifos : Fifos) (place : Positions) (setbacks : Setbacks) : Prop where
  decoded : if setbacks.decoding
    then rig.awtSize ≤ (fifos.input 0).length ∧ fifos.inputBase place < place.decoded 0
    else ∀ i < rig.decoders, place.decoded i ≤ fifos.inputBase place
  emitted : fifos.Emitted place setbacks

/-- While blocks are decoded; `items` are the decoders to come. -/
structure Rig.Feeding (rig : Rig) (fifos : Fifos) (start : Nat) (items : List Nat) (place : Positions)
    (setbacks : Setbacks) : Prop where
  sound : setbacks.decoding = false
  fresh : setbacks.gave = false
  distinct : items.Nodup
  ahead : ∀ i ∈ items, place.decoded i ≤ fifos.inputBase place + start
  behind : ∀ i < rig.decoders, place.decoded i ≤ fifos.inputBase place + (start + rig.awtSize)
  first : fifos.inputBase place < place.decoded 0 ∨ start = 0 ∧ items = List.range rig.decoders
  emitted : fifos.Emitted place setbacks

/-- Before the block in front is decoded again. -/
structure Rig.Stalled (rig : Rig) (fifos : Fifos) (start : Nat) (items : List Nat) (place : Positions) : Prop where
  front : start = 0 ∧ items = List.range rig.decoders
  full : rig.awtSize ≤ (fifos.input 0).length
  decoded : fifos.inputBase place < place.decoded 0

/-- While packets are emitted. -/
structure Rig.Draining (rig : Rig) (fifos : Fifos) (start : Nat) (place : Positions) (setbacks : Setbacks) : Prop where
  sound : setbacks.decoding = false
  decoded : ∀ i < rig.decoders, place.decoded i ≤ fifos.inputBase place
  emitted : if setbacks.emitting
    then start = 0 ∧ setbacks.gave = false ∧ fifos.outputBase place < place.emitted
    else place.emitted ≤ fifos.outputBase place + start ∧
      if setbacks.gave then fifos.outputBase place < place.emitted else start = 0

section steps

variable {all rest : List AVFrame} {kept doomed kept' doomed' : Positions → Setbacks → Prop} {inFrame : AVFrame}

/-- A call that moves no samples. -/
theorem Rig.Stands.record (stands : rig.Stands all rest fifos kept doomed past) {event : Event}
    (frames : (positions.step (positions.seen past) event).frames = (positions.seen past).frames)
    (passed : (positions.step (positions.seen past) event).passed = (positions.seen past).passed)
    (keeps : kept (positions.seen past) (setbacks.seen past) → advances (positions.seen past) event ∧
      (unresumed (setbacks.seen past) event ∧
          kept' (positions.step (positions.seen past) event) (setbacks.step (setbacks.seen past) event) ∨
        ¬ unresumed (setbacks.seen past) event ∧
          doomed' (positions.step (positions.seen past) event) (setbacks.step (setbacks.seen past) event)))
    (dooms : doomed (positions.seen past) (setbacks.seen past) → advances (positions.seen past) event ∧
        doomed' (positions.step (positions.seen past) event) (setbacks.step (setbacks.seen past) event) ∨
      ¬ advances (positions.seen past) event) :
    rig.Stands all rest fifos kept' doomed' (past ++ [event]) := by
  have placed := stands.placed
  refine ⟨?_, ?_, ?_⟩
  · rw [Observer.seen_concat]
    exact ⟨by rw [frames]; exact placed.fits, by rw [frames]; exact placed.input, by rw [passed]; exact placed.output,
      by rw [passed]; exact placed.passed⟩
  · rw [Observer.seen_concat, frames]
    exact stands.frames
  · rw [Observer.seen_concat, Observer.seen_concat]
    exact stands.together.concat keeps dooms

theorem Rig.Stands.imp (stands : rig.Stands all rest fifos kept doomed past)
    (keeps : ∀ place setbacks', kept place setbacks' → kept' place setbacks')
    (dooms : ∀ place setbacks', doomed place setbacks' → doomed' place setbacks') :
    rig.Stands all rest fifos kept' doomed' past :=
  ⟨stands.placed, stands.frames, stands.together.imp (keeps _ _) (dooms _ _)⟩

theorem Rig.Stands.quiet (stands : rig.Stands all rest fifos kept doomed past) {call : Call} (quiet : Call.quiet call)
    (awt : AWTContext) (answer : Answer call) : rig.Stands all rest fifos kept doomed (past ++ [⟨awt, call, answer⟩]) := by
  cases call <;> first
    | exact stands.record rfl rfl (fun holds => ⟨trivial, Or.inl ⟨rfl, holds⟩⟩) fun holds => Or.inl ⟨trivial, holds⟩
    | cases quiet

private theorem receive_base (fits : inFrame.Fits rig.channels) (place : Positions) :
    (fifos.receive inFrame).inputBase (positions.step place ⟨awt, .mark (.frame inFrame), ()⟩) = fifos.inputBase place := by
  change (received (place.frames ++ [inFrame]) : Int) - ((fifos.input 0 ++ inFrame.plane 0).length : Nat) = _
  rw [received_concat, List.length_append, length_plane fits rig.present, Fifos.inputBase]
  omega

theorem Rig.Stands.log (stands : rig.Stands all rest fifos kept doomed past) (awt : AWTContext) (level : LogLevel)
    (msg : LogMsg) : rig.Stands all rest fifos kept doomed (past ++ [⟨awt, .avLog level msg, ()⟩]) :=
  stands.record rfl rfl (fun holds => ⟨trivial, Or.inl ⟨rfl, holds⟩⟩) fun holds => Or.inl ⟨trivial, holds⟩

theorem Rig.Stands.arrive (fits : inFrame.Fits rig.channels)
    (stands : rig.Stands all (inFrame :: rest) fifos (rig.Resting fifos) (fun _ _ => False) past) :
    rig.Stands all rest (fifos.receive inFrame) (rig.Feeding (fifos.receive inFrame) 0 (List.range rig.decoders))
      (fun place _ => rig.Stalled (fifos.receive inFrame) 0 (List.range rig.decoders) place)
      (past ++ [⟨awt, .mark (.frame inFrame), ()⟩]) := by
  have base : (fifos.receive inFrame).inputBase (positions.step (positions.seen past) ⟨awt, .mark (.frame inFrame), ()⟩) =
      fifos.inputBase (positions.seen past) := receive_base fits _
  have longer : ((fifos.receive inFrame).input 0).length = (fifos.input 0).length + inFrame.count := by
    simp only [Fifos.receive, List.length_append, length_plane fits rig.present]
  refine ⟨?_, ?_, ?_⟩
  · rw [Observer.seen_concat]
    exact stands.placed.receive fits
  · rw [Observer.seen_concat]
    simpa [positions] using stands.frames
  · rw [Observer.seen_concat, Observer.seen_concat]
    apply stands.together.concat _ fun never => never.elim
    intro resting
    refine ⟨trivial, ?_⟩
    have decoded := resting.decoded
    cases failed : (setbacks.seen past).decoding with
    | true =>
      rw [failed, if_pos rfl] at decoded
      refine Or.inr ⟨?_, ⟨rfl, rfl⟩, by omega, lt_of_eq_of_lt base decoded.2⟩
      change ¬ (!(setbacks.seen past).decoding) = true
      simp [failed]
    | false =>
      rw [failed, if_neg Bool.false_ne_true] at decoded
      refine Or.inl ⟨?_, failed, rfl, List.nodup_range, fun i member => ?_, fun i within => ?_, Or.inr ⟨rfl, rfl⟩, resting.emitted⟩
      · change (!(setbacks.seen past).decoding) = true
        simp [failed]
      · exact le_trans (decoded i (List.mem_range.mp member)) (by rw [base]; omega)
      · exact le_trans (decoded i within) (by rw [base]; omega)

theorem Rig.Stands.block (stands : rig.Stands all rest fifos (rig.Feeding fifos start items)
      (fun place _ => rig.Stalled fifos start items place) past) :
    rig.Stands all rest fifos (fun place setbacks => rig.Feeding fifos start items place setbacks ∧ place.start = start)
      (fun place _ => rig.Stalled fifos start items place ∧ place.start = start)
      (past ++ [⟨awt, .mark (.block start), ()⟩]) :=
  stands.record rfl rfl (fun feeding => ⟨trivial, Or.inl ⟨rfl, { feeding with }, rfl⟩⟩)
    fun stalled => Or.inl ⟨trivial, { stalled with }, rfl⟩

theorem head_of_range {n i : Nat} (same : i :: items = List.range n) : i = 0 := by
  cases n with
  | zero => cases same
  | succ n =>
    rw [List.range_succ_eq_map] at same
    exact (List.cons.inj same).1

/-- The next decoder is handed its block. -/
theorem Rig.Feeding.decode {place : Positions} {setbacks' : Setbacks} {i : Nat}
    (feeding : rig.Feeding fifos start (i :: items) place setbacks') :
    (∀ j < rig.decoders, Function.update place.decoded i (fifos.inputBase place + start + rig.awtSize) j ≤
        fifos.inputBase place + (start + rig.awtSize)) ∧
      fifos.inputBase place < Function.update place.decoded i (fifos.inputBase place + start + rig.awtSize) 0 := by
  have sized := rig.sized
  constructor
  · intro j within
    by_cases same : j = i
    · rw [same, Function.update_self]
      omega
    · rw [Function.update_of_ne same]
      exact feeding.behind j within
  · by_cases same : i = 0
    · rw [same, Function.update_self]
      omega
    · rw [Function.update_of_ne (Ne.symm same)]
      exact feeding.first.resolve_right fun front => same (head_of_range front.2)

theorem Rig.Stands.decode {i : Nat} {result : BufferResult} (ready : rig.Ready fifos awt) (within : i < rig.decoders)
    (inside : start + rig.awtSize ≤ (fifos.input 0).length)
    (stands : rig.Stands all rest fifos
      (fun place setbacks => rig.Feeding fifos start (i :: items) place setbacks ∧ place.start = start)
      (fun place _ => rig.Stalled fifos start (i :: items) place ∧ place.start = start) past) :
    let decoded := past ++ [⟨awt, .awt5DecodeStreamBuffer i (awt.decoder i) (fifos.input.block start rig.awtSize i), result⟩]
    if result.ret ≠ 0 then rig.Stands all rest fifos (rig.Resting fifos) (fun _ _ => False) decoded
    else rig.Stands all rest fifos (fun place setbacks => rig.Feeding fifos start items place setbacks ∧ place.start = start)
      (fun place _ => rig.Stalled fifos start items place ∧ place.start = start) decoded := by
  have channel : i < rig.channels := lt_of_lt_of_le within (Nat.min_le_right ..)
  have base := inputAt_ready ready (positions.seen past) channel
  have sized := ready.awtSize
  have advanced : (positions.seen past).start = start → (positions.seen past).decoded i ≤ fifos.inputBase (positions.seen past) + start →
      advances (positions.seen past)
        ⟨awt, .awt5DecodeStreamBuffer i (awt.decoder i) (fifos.input.block start rig.awtSize i), result⟩ := by
    intro here ahead
    refine ⟨by rw [base, here]; exact ahead, ?_⟩
    rw [base, here, sized, Int.toNat_natCast]
    exact stands.placed.inputBlock ready.level channel start rig.awtSize
  have again : rig.Stalled fifos start (i :: items) (positions.seen past) ∧ (positions.seen past).start = start →
      ¬ advances (positions.seen past)
        ⟨awt, .awt5DecodeStreamBuffer i (awt.decoder i) (fifos.input.block start rig.awtSize i), result⟩ := by
    intro ⟨stalled, here⟩ ⟨ahead, _⟩
    have first := head_of_range stalled.front.2
    have decoded := stalled.decoded
    rw [base, here, stalled.front.1, first] at ahead
    omega
  have moved : (positions.seen past).start = start →
      (positions.step (positions.seen past)
        ⟨awt, .awt5DecodeStreamBuffer i (awt.decoder i) (fifos.input.block start rig.awtSize i), result⟩).decoded =
      Function.update (positions.seen past).decoded i (fifos.inputBase (positions.seen past) + start + rig.awtSize) := by
    intro here
    change Function.update (positions.seen past).decoded i ((positions.seen past).inputAt awt i + awt.awtSize) = _
    rw [base, here, sized]
  split
  next failed =>
    apply stands.record rfl rfl _ fun stalled => Or.inr (again stalled)
    intro ⟨feeding, here⟩
    refine ⟨advanced here (feeding.ahead i (List.mem_cons_self ..)), Or.inl ⟨rfl, ?_, feeding.emitted⟩⟩
    rw [moved here]
    change if (_ || result.ret != 0) = true then _ else _
    rw [if_pos (by simp [failed])]
    exact ⟨by omega, feeding.decode.2⟩
  next succeeded =>
    apply stands.record rfl rfl _ fun stalled => Or.inr (again stalled)
    intro ⟨feeding, here⟩
    have distinct := List.nodup_cons.mp feeding.distinct
    refine ⟨advanced here (feeding.ahead i (List.mem_cons_self ..)), Or.inl ⟨rfl, ⟨?_, feeding.fresh, distinct.2, ?_, ?_, ?_,
      feeding.emitted⟩, here⟩⟩
    · change (_ || result.ret != 0) = false
      simp [feeding.sound, not_not.mp succeeded]
    · intro j member
      have other : j ≠ i := by
        rintro rfl
        exact distinct.1 member
      rw [moved here, Function.update_of_ne other]
      exact feeding.ahead j (List.mem_cons_of_mem _ member)
    · rw [moved here]
      exact feeding.decode.1
    · rw [moved here]
      exact Or.inl feeding.decode.2

/-- Behind the last decoder the next block is in turn. -/
theorem Rig.Stands.pass (ready : rig.Ready fifos awt)
    (stands : rig.Stands all rest fifos (fun place setbacks => rig.Feeding fifos start [] place setbacks ∧ place.start = start)
      (fun place _ => rig.Stalled fifos start [] place ∧ place.start = start) past) :
    rig.Stands all rest (fifos.pass rig) (rig.Feeding (fifos.pass rig) (start + rig.awtSize) (List.range rig.decoders))
      (fun place _ => rig.Stalled (fifos.pass rig) (start + rig.awtSize) (List.range rig.decoders) place)
      (past ++ [⟨awt, .mark (.pass start), ()⟩]) := by
  have some : [] ≠ List.range rig.decoders := by
    have present := rig.present
    simp only [Rig.decoders, ne_eq, eq_comm (a := []), List.range_eq_nil]
    omega
  have base : (fifos.pass rig).outputBase (positions.step (positions.seen past) ⟨awt, .mark (.pass start), ()⟩) =
      fifos.outputBase (positions.seen past) := by
    change (((positions.seen past).passed 0 ++ awt.outBlock 0).length : Int) - ((fifos.output 0 ++ rig.block 0).length : Nat) = _
    rw [outBlock_ready ready rig.present, List.length_append, List.length_append, Fifos.outputBase]
    omega
  have front : (fifos.pass rig).inputBase (positions.step (positions.seen past) ⟨awt, .mark (.pass start), ()⟩) =
      fifos.inputBase (positions.seen past) := rfl
  refine ⟨?_, ?_, ?_⟩
  · rw [Observer.seen_concat]
    exact stands.placed.pass ready
  · rw [Observer.seen_concat]
    exact stands.frames
  · rw [Observer.seen_concat, Observer.seen_concat]
    apply stands.together.concat _ fun stalled => absurd stalled.1.front.2 some
    intro ⟨feeding, _⟩
    refine ⟨trivial, Or.inl ⟨rfl, feeding.sound, feeding.fresh, List.nodup_range, fun i member => ?_, fun i within => ?_,
      Or.inl (feeding.first.resolve_right fun front => some front.2), ?_⟩⟩
    · exact le_of_le_of_eq (feeding.behind i (List.mem_range.mp member)) (by rw [front, Int.natCast_add])
    · exact le_trans (feeding.behind i within) (by rw [front, Int.natCast_add]; omega)
    · rw [Fifos.Emitted, base]
      exact feeding.emitted

theorem Rig.Stands.early (short : (fifos.input 0).length < rig.awtSize)
    (stands : rig.Stands all rest fifos (rig.Feeding fifos 0 (List.range rig.decoders))
      (fun place _ => rig.Stalled fifos 0 (List.range rig.decoders) place) past) :
    rig.Stands all rest fifos (rig.Resting fifos) (fun _ _ => False) past := by
  apply stands.imp
  · intro place setbacks' feeding
    refine ⟨?_, feeding.emitted⟩
    rw [feeding.sound, if_neg Bool.false_ne_true]
    exact fun i within => le_of_le_of_eq (feeding.ahead i (List.mem_range.mpr within)) (Int.add_zero _)
  · intro place setbacks' stalled
    have := stalled.full
    omega

theorem Rig.Stands.drop (within : start ≤ (fifos.input 0).length) (short : (fifos.input 0).length < start + rig.awtSize)
    (stands : rig.Stands all rest fifos (rig.Feeding fifos start (List.range rig.decoders))
      (fun place _ => rig.Stalled fifos start (List.range rig.decoders) place) past) :
    rig.Stands all rest (fifos.dropInput start) (rig.Draining (fifos.dropInput start) 0) (fun _ _ => False) past := by
  refine ⟨stands.placed.dropInput start, stands.frames, stands.together.imp ?_ ?_⟩
  · intro feeding
    refine ⟨feeding.sound, fun i inside => ?_, ?_⟩
    · apply le_of_le_of_eq (feeding.ahead i (List.mem_range.mpr inside))
      simp only [Fifos.inputBase, Fifos.dropInput, List.length_drop]
      omega
    · have emitted := feeding.emitted
      rw [Fifos.Emitted] at emitted
      by_cases failed : (setbacks.seen past).emitting
      · rw [if_pos failed] at emitted ⊢
        exact ⟨rfl, feeding.fresh, emitted⟩
      · rw [if_neg failed] at emitted ⊢
        exact ⟨le_of_le_of_eq emitted (Int.add_zero _).symm, by rw [feeding.fresh, if_neg Bool.false_ne_true]⟩
  · intro stalled
    have := stalled.full
    have := stalled.front.1
    omega

theorem Rig.Stands.packet (stands : rig.Stands all rest fifos (rig.Draining fifos start) (fun _ _ => False) past) :
    rig.Stands all rest fifos (fun place setbacks => rig.Draining fifos start place setbacks ∧ place.start = start)
      (fun _ _ => False) (past ++ [⟨awt, .mark (.packet start), ()⟩]) :=
  stands.record rfl rfl (fun draining => ⟨trivial, Or.inl ⟨rfl, { draining with }, rfl⟩⟩) fun never => never.elim

/-- An allocation that fails ends the call. -/
theorem Rig.Stands.refuse (stands : rig.Stands all rest fifos
      (fun place setbacks => rig.Draining fifos start place setbacks ∧ place.start = start) (fun _ _ => False) past) :
    rig.Stands all rest fifos (rig.Resting fifos) (fun _ _ => False)
      (past ++ [⟨awt, .ffGetAudioBuffer rig.pktSize, none⟩]) := by
  apply stands.record rfl rfl _ fun never => never.elim
  intro ⟨draining, _⟩
  have emitted := draining.emitted
  refine ⟨trivial, Or.inl ⟨?_, ?_, ?_⟩⟩
  · change (!((setbacks.seen past).emitting && false)) = true
    simp
  · change if (setbacks.seen past).decoding = true then _ else _
    rw [draining.sound, if_neg Bool.false_ne_true]
    exact draining.decoded
  · change if ((setbacks.seen past).emitting || ((setbacks.seen past).gave && true)) = true then _ else _
    cases failed : (setbacks.seen past).emitting with
    | true =>
      rw [failed, if_pos rfl] at emitted
      exact emitted.2.2
    | false =>
      rw [failed, if_neg Bool.false_ne_true] at emitted
      cases gave : (setbacks.seen past).gave with
      | true =>
        rw [gave, if_pos rfl] at emitted
        exact emitted.2
      | false =>
        rw [gave, if_neg Bool.false_ne_true] at emitted
        exact le_of_le_of_eq emitted.1 (by rw [emitted.2]; exact Int.add_zero _)

theorem Rig.Stands.allocate (fresh : Nat → Nat → CFloat) (stands : rig.Stands all rest fifos
      (fun place setbacks => rig.Draining fifos start place setbacks ∧ place.start = start) (fun _ _ => False) past) :
    rig.Stands all rest fifos
      (fun place setbacks => rig.Draining fifos start place setbacks ∧ place.start = start ∧ setbacks.emitting = false)
      (fun place _ => place.start = start ∧ start = 0 ∧ fifos.outputBase place < place.emitted)
      (past ++ [⟨awt, .ffGetAudioBuffer rig.pktSize, some fresh⟩]) := by
  apply stands.record rfl rfl _ fun never => never.elim
  intro ⟨draining, here⟩
  refine ⟨trivial, ?_⟩
  have emitted := draining.emitted
  cases failed : (setbacks.seen past).emitting with
  | true =>
    rw [failed, if_pos rfl] at emitted
    refine Or.inr ⟨?_, here, emitted.1, emitted.2.2⟩
    change ¬ (!((setbacks.seen past).emitting && true)) = true
    simp [failed]
  | false =>
    have same : setbacks.step (setbacks.seen past) ⟨awt, .ffGetAudioBuffer rig.pktSize, some fresh⟩ = setbacks.seen past := by
      change { setbacks.seen past with emitting := (setbacks.seen past).emitting || ((setbacks.seen past).gave && false) } = _
      rw [Bool.and_false, Bool.or_false]
    rw [same]
    refine Or.inl ⟨?_, { draining with }, here, failed⟩
    change (!((setbacks.seen past).emitting && true)) = true
    simp [failed]

theorem Rig.Stands.give {ret : Int} (ready : rig.Ready fifos awt) (stands : rig.Stands all rest fifos
      (fun place setbacks => rig.Draining fifos start place setbacks ∧ place.start = start ∧ setbacks.emitting = false)
      (fun place _ => place.start = start ∧ start = 0 ∧ fifos.outputBase place < place.emitted) past) :
    let given := past ++ [⟨awt, .ffFilterFrame (rig.packet inFrame fifos start), ret⟩]
    if ret ≠ 0 then rig.Stands all rest fifos (rig.Resting fifos) (fun _ _ => False) given
    else rig.Stands all rest fifos (rig.Draining fifos (start + rig.pktSize)) (fun _ _ => False) given := by
  have base := outputAt_ready ready (positions.seen past)
  have packed := rig.packed
  have again : (positions.seen past).start = start ∧ start = 0 ∧
      fifos.outputBase (positions.seen past) < (positions.seen past).emitted →
      ¬ advances (positions.seen past) ⟨awt, .ffFilterFrame (rig.packet inFrame fifos start), ret⟩ := by
    intro ⟨here, front, behind⟩ ⟨ahead, _⟩
    rw [base, here, front] at ahead
    omega
  have advanced (here : (positions.seen past).start = start)
      (ahead : (positions.seen past).emitted ≤ fifos.outputBase (positions.seen past) + start) :
      advances (positions.seen past) ⟨awt, .ffFilterFrame (rig.packet inFrame fifos start), ret⟩ := by
    refine ⟨by rw [base, here]; exact ahead, ?_⟩
    rw [base, here, ready.pktSize, Int.toNat_natCast]
    simp only [Rig.packet, List.length_map, List.length_range]
    exact List.map_congr_left fun i member => stands.placed.outputBlock ready.level (List.mem_range.mp member) start rig.pktSize
  have moved (here : (positions.seen past).start = start) :
      (positions.step (positions.seen past) ⟨awt, .ffFilterFrame (rig.packet inFrame fifos start), ret⟩).emitted =
        fifos.outputBase (positions.seen past) + (start + rig.pktSize) := by
    change (positions.seen past).outputAt awt + awt.pktSize = _
    rw [base, here, ready.pktSize, Int.add_assoc]
  split
  next failed =>
    apply stands.record rfl rfl _ fun doomed => Or.inr (again doomed)
    intro ⟨draining, here, clean⟩
    have emitted := draining.emitted
    rw [clean, if_neg Bool.false_ne_true] at emitted
    refine ⟨advanced here emitted.1, Or.inl ⟨rfl, ?_, ?_⟩⟩
    · change if (setbacks.seen past).decoding = true then _ else _
      rw [draining.sound, if_neg Bool.false_ne_true]
      exact draining.decoded
    · change if (_ || ret != 0) = true then _ else _
      rw [if_pos (by simp [failed]), moved here]
      change fifos.outputBase (positions.seen past) < _
      omega
  next succeeded =>
    apply stands.record rfl rfl _ fun doomed => Or.inr (again doomed)
    intro ⟨draining, here, clean⟩
    have emitted := draining.emitted
    rw [clean, if_neg Bool.false_ne_true] at emitted
    refine ⟨advanced here emitted.1, Or.inl ⟨rfl, draining.sound, draining.decoded, ?_⟩⟩
    change if ((setbacks.seen past).emitting || ret != 0) = true then _ else _
    rw [if_neg (by simp [clean, not_not.mp succeeded]), moved here]
    change _ ≤ fifos.outputBase (positions.seen past) + _ ∧ fifos.outputBase (positions.seen past) < _
    rw [Int.natCast_add]
    omega

theorem Rig.Stands.emptied (within : start ≤ (fifos.output 0).length)
    (stands : rig.Stands all rest fifos (rig.Draining fifos start) (fun _ _ => False) past) :
    rig.Stands all rest (fifos.dropOutput start) (rig.Resting (fifos.dropOutput start)) (fun _ _ => False) past := by
  refine ⟨stands.placed.dropOutput start, stands.frames, stands.together.imp ?_ fun never => never.elim⟩
  intro draining
  have base : (fifos.dropOutput start).outputBase (positions.seen past) = fifos.outputBase (positions.seen past) + start := by
    simp only [Fifos.outputBase, Fifos.dropOutput, List.length_drop]
    omega
  have emitted := draining.emitted
  refine ⟨?_, ?_⟩
  · rw [draining.sound, if_neg Bool.false_ne_true]
    exact draining.decoded
  · rw [Fifos.Emitted, base]
    by_cases failed : (setbacks.seen past).emitting
    · rw [if_pos failed] at emitted ⊢
      rw [emitted.1]
      exact lt_of_eq_of_lt (Int.add_zero _) emitted.2.2
    · rw [if_neg failed] at emitted ⊢
      exact emitted.1

end steps

/-- The two accounts run together through every call. -/
def Rig.positionOutline (rig : Rig) {fuel : Nat} {all : List AVFrame} (fits : ∀ frame ∈ all, frame.Fits rig.channels)
    (enough : received all < fuel) (inFrame : AVFrame) (rest : List AVFrame) :
    FrameOutline Stocked rig fuel inFrame
      (fun fifos past => rig.Stands all (inFrame :: rest) fifos (rig.Resting fifos) (fun _ _ => False) past)
      (fun _ fifos past => rig.Stands all rest fifos (rig.Resting fifos) (fun _ _ => False) past)
      (fun past => Lawful Advances past ↔ Lawful Unresumed past) where
  head fifos start past := rig.Stands all rest fifos (rig.Feeding fifos start (List.range rig.decoders))
    (fun place _ => rig.Stalled fifos start (List.range rig.decoders) place) past
  decoding fifos start items past := rig.Stands all rest fifos
    (fun place setbacks => rig.Feeding fifos start items place setbacks ∧ place.start = start)
    (fun place _ => rig.Stalled fifos start items place ∧ place.start = start) past
  packets fifos start past := rig.Stands all rest fifos (rig.Draining fifos start) (fun _ _ => False) past
  allocating fifos start past := rig.Stands all rest fifos
    (fun place setbacks => rig.Draining fifos start place setbacks ∧ place.start = start) (fun _ _ => False) past
  giving fifos start past := rig.Stands all rest fifos
    (fun place setbacks => rig.Draining fifos start place setbacks ∧ place.start = start ∧ setbacks.emitting = false)
    (fun place _ => place.start = start ∧ start = 0 ∧ fifos.outputBase place < place.emitted) past
  head_quiet _ _ _ awt _ answer quiet stands := stands.quiet quiet awt answer
  decoding_quiet _ _ _ _ awt _ answer quiet stands := stands.quiet quiet awt answer
  leave_quiet _ _ _ awt _ answer quiet stands := stands.quiet quiet awt answer
  arrive fifos awt past _ stands := by
    have member : inFrame ∈ all := by
      rw [← stands.frames]
      simp
    exact stands.arrive (fits inFrame member)
  block _ _ _ _ _ _ stands := stands.block
  decode fifos awt start i items past result ready within inside stands _ := by
    have decoded : if result.ret ≠ 0 then _ else _ := stands.decode ready within inside
    by_cases failed : result.ret ≠ 0
    · rw [if_pos failed] at decoded ⊢
      exact decoded
    · rw [if_neg failed] at decoded ⊢
      split
      · exact decoded
      · exact decoded.log awt _ _
  pass _ _ _ _ ready _ stands := stands.pass ready
  early _ _ _ short stands := stands.early short
  drop _ _ _ _ within short _ stands := stands.drop within short
  packet _ _ _ _ _ _ stands := stands.packet
  allocate _ _ _ _ answer _ _ stands _ := by
    cases answer with
    | none => exact stands.refuse
    | some fresh => exact stands.allocate fresh
  give _ _ _ _ ret ready _ stands _ := stands.give ready
  emptied _ _ _ _ within _ stands := stands.emptied within
  head_expired fifos start past many stands := by
    have suffix := (stands.placed.input 0 rig.present).length_le
    have some : received (positions.seen past).frames ≤ received all := by
      rw [← stands.frames, received_append]
      omega
    rw [length_stream stands.placed.fits rig.present] at suffix
    omega
  packets_expired _ _ _ _ stands := stands.together.iff

/-- Nothing was done that either account looks at. -/
private def Clean (past : History) : Prop :=
  positions.seen past = positions.init ∧ setbacks.seen past = setbacks.init ∧ Lawful Advances past ∧ Lawful Unresumed past

private theorem clean_unconcerned : Unconcerned Clean := by
  intro past awt call answer ofConfig ⟨place, sound, advancing, orderly⟩
  have unseen : advances (positions.seen past) ⟨awt, call, answer⟩ ∧ unresumed (setbacks.seen past) ⟨awt, call, answer⟩ ∧
      positions.step (positions.seen past) ⟨awt, call, answer⟩ = positions.seen past ∧
      setbacks.step (setbacks.seen past) ⟨awt, call, answer⟩ = setbacks.seen past := by
    cases call <;> first | exact ⟨trivial, rfl, rfl, rfl⟩ | cases ofConfig
  refine ⟨?_, ?_, lawful_concat.mpr ⟨advancing, unseen.1⟩, lawful_concat.mpr ⟨orderly, unseen.2.1⟩⟩
  · rw [Observer.seen_concat, unseen.2.2.1, place]
  · rw [Observer.seen_concat, unseen.2.2.2, sound]

/-- Blocks are handed out in order and samples emitted once exactly when the filter is not
called again after it failed behind them. -/
theorem advances_iff (filtering : Filtering) (bounded : filtering.Bounded) (stocked : Lawful Stocked filtering.final.trace) :
    Lawful Advances filtering.final.trace ↔ Lawful Unresumed filtering.final.trace := by
  obtain ⟨rig, configured, place, sound, advancing, orderly⟩ := Filtering.configured_rig stocks_stocked.grants stocks_stocked.sizes
    clean_unconcerned ⟨rfl, rfl, Lawful.nil _, Lawful.nil _⟩ bounded stocked
  have fits := filtering.fits
  rw [configured.channels, Int.toNat_natCast] at fits
  have reached := Filtering.run_holds stocks_stocked.grants configured
    (fun rest fifos past => rig.Stands filtering.frames rest fifos (rig.Resting fifos) (fun _ _ => False) past)
    (rig.positionOutline fits filtering.enough) ?_ bounded stocked
  · rcases reached with ⟨_, _, _, _, stands⟩ | ⟨_, stopped⟩
    · exact stands.together.iff
    · exact stopped
  · refine ⟨?_, ?_, .kept advancing orderly ⟨?_, ?_⟩⟩
    · rw [place]
      exact ⟨fun _ member => absurd member List.not_mem_nil, fun _ _ => List.nil_suffix, fun _ _ => List.nil_suffix,
        fun _ _ => rfl⟩
    · rw [place]
      rfl
    · rw [place, sound]
      exact fun _ _ => le_refl _
    · rw [place, sound]
      exact le_refl _

/-- Two blocks of two samples, of which the decoder refuses the given one. -/
def refusing (refused : Nat) : Script where
  blocks n := ⟨if n = refused then 1 else 0, [], 0⟩

/-- The refused block stays in front of the FIFO and is handed to the decoder again. -/
def refusedFirst : Filtering where
  oracle := (refusing 0).surroundings
  fuel := 5
  inlink := ⟨1, 44100⟩
  awt := unconfigured
  frames := [audioFrame 0 [[1, 2]], audioFrame 2 [[3, 4]]]
  fresh := fresh_unconfigured
  present := mono_present
  configures := by decide +kernel
  fits := by decide
  enough := by decide

theorem refused_block_repeated : Lawful Stocked refusedFirst.final.trace ∧ ¬ Lawful Advances refusedFirst.final.trace := by
  decide +kernel

def refusedLast : Filtering where
  oracle := (refusing 1).surroundings
  fuel := 5
  inlink := ⟨1, 44100⟩
  awt := unconfigured
  frames := [audioFrame 0 [[1, 2]], audioFrame 2 [[3, 4]]]
  fresh := fresh_unconfigured
  present := mono_present
  configures := by decide +kernel
  fits := by decide
  enough := by decide

theorem refused_last_advances : Lawful Advances refusedLast.final.trace :=
  (advances_iff refusedLast ⟨by decide +kernel, by decide +kernel⟩ (by decide +kernel)).mpr (by decide +kernel)

end calls
end Awt.Lavfi
