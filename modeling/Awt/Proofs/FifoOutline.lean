import Awt.Lavfi.Filter
import Awt.Lib.Blocks
import Awt.Proofs.FifoBuffers

/-! A proof outline of the filter's `awt_filter_frame`. Its assertions speak of the samples
that the FIFOs hold and of the history; how the buffers hold them is settled here. -/

namespace Awt.Lavfi
open OracleProgram

/-- Samples by channel. -/
abbrev Planes := Nat → List CFloat

def Planes.block (planes : Planes) (start count i : Nat) : List CFloat := ((planes i).drop start).take count

/-- What does not change about a filter once it is configured; `block` is what `out` has
for each channel. -/
structure Rig where
  channels : Nat
  awtSize : Nat
  pktSize : Nat
  block : Planes
  present : 0 < channels
  sized : 0 < awtSize
  packed : 0 < pktSize
  int : channels * awtSize * 4 < 2 ^ 31
  filled : ∀ i < channels, (block i).length = awtSize

def Rig.decoders (rig : Rig) : Nat := min 2 rig.channels

/-- The samples in the FIFOs. -/
structure Fifos where
  input : Planes
  output : Planes

/-- All channels hold the same number of samples. -/
structure Fifos.Level (fifos : Fifos) (channels : Nat) : Prop where
  input : ∀ i < channels, (fifos.input i).length = (fifos.input 0).length
  output : ∀ i < channels, (fifos.output i).length = (fifos.output 0).length

/-- A frame has a plane of at least `nb_samples` samples for each channel. -/
structure AVFrame.Fits (frame : AVFrame) (channels : Nat) : Prop where
  nonneg : 0 ≤ frame.nbSamples
  planes : channels ≤ frame.extendedData.length
  samples : ∀ plane ∈ frame.extendedData, frame.nbSamples ≤ plane.length

/-- The samples of a frame. -/
def AVFrame.plane (frame : AVFrame) (i : Nat) : List CFloat := (frame.extendedData.getD i []).take frame.nbSamples.toNat

namespace Fifos

def receive (fifos : Fifos) (inFrame : AVFrame) : Fifos := { fifos with input := fun i => fifos.input i ++ inFrame.plane i }

def pass (fifos : Fifos) (rig : Rig) : Fifos := { fifos with output := fun i => fifos.output i ++ rig.block i }

def dropInput (fifos : Fifos) (count : Nat) : Fifos := { fifos with input := fun i => (fifos.input i).drop count }

def dropOutput (fifos : Fifos) (count : Nat) : Fifos := { fifos with output := fun i => (fifos.output i).drop count }

end Fifos

/-- The frame that is cut from the output FIFOs at `start`. -/
def Rig.packet (rig : Rig) (inFrame : AVFrame) (fifos : Fifos) (start : Nat) : AVFrame :=
  { inFrame with
    nbSamples := rig.pktSize
    extendedData := (List.range rig.channels).map (fifos.output.block start rig.pktSize) }

/-- The context of a filter with these samples in its buffers. -/
structure Rig.Carries (rig : Rig) (fifos : Fifos) (awt : AWTContext) : Prop where
  awtSize : awt.awtSize = rig.awtSize
  pktSize : awt.pktSize = rig.pktSize
  nbDecoder : awt.nbDecoder = rig.decoders
  input : ∀ i < rig.channels, ∃ buffer, awt.inputAt i = some buffer ∧ buffer.Sound ∧ buffer.held = fifos.input i
  output : ∀ i < rig.channels, ∃ buffer, awt.outputAt i = some buffer ∧ buffer.Sound ∧ buffer.held = fifos.output i
  inBuffer : ∃ buffer, awt.inBuffer = some buffer ∧ buffer.Sound ∧ rig.channels * rig.awtSize ≤ buffer.data.length
  outBuffer : ∃ buffer, awt.outBuffer = some buffer ∧ rig.channels * rig.awtSize ≤ buffer.data.length ∧
    ∀ i < rig.channels, (buffer.data.drop (i * rig.awtSize)).take rig.awtSize = rig.block i

structure Rig.Ready (rig : Rig) (fifos : Fifos) (awt : AWTContext) : Prop extends rig.Carries fifos awt where
  level : fifos.Level rig.channels

/-- No `int` overflows while a frame or a block is put into the FIFOs. -/
def Event.fitsInt : Event → Bool
  | ⟨awt, .mark (.frame inFrame), _⟩ => awt.input.all (·.all fun buffer => buffer.GrowsInInt inFrame.nbSamples)
  | ⟨awt, .mark (.pass _), _⟩ => awt.output.all (·.all fun buffer => buffer.GrowsInInt awt.awtSize)
  | _ => true

abbrev FitsInt : Law := fun _ event => event.fitsInt

abbrev InInt (law : Law) : Law := fun past event => law past event ∧ FitsInt past event

theorem Grants.inInt {law : Law} (grants : Grants law) : Grants (InInt law) where
  realloc _ _ _ _ lawful := grants.realloc _ _ _ _ lawful.1
  mallocz _ _ _ lawful := grants.mallocz _ _ _ lawful.1

/-- Calls that no assertion speaks of. -/
def Call.quiet : Call → Bool
  | .realloc _ _ | .avMallocz _ | .awt5PrintErrText _ | .avLog _ (.decoderError _) | .avFrameFree => true
  | _ => false

def Quietly (assertion : History → Prop) : Prop :=
  ∀ past awt call answer, Call.quiet call → assertion past → assertion (past ++ [⟨awt, call, answer⟩])

structure FrameOutline (law : Law) (rig : Rig) (fuel : Nat) (inFrame : AVFrame) (enter : Fifos → History → Prop)
    (leave : Int → Fifos → History → Prop) (halt : History → Prop) where
  head : Fifos → Nat → History → Prop
  decoding : Fifos → Nat → List Nat → History → Prop
  packets : Fifos → Nat → History → Prop
  allocating : Fifos → Nat → History → Prop
  giving : Fifos → Nat → History → Prop
  head_quiet : ∀ fifos start, Quietly (head fifos start)
  decoding_quiet : ∀ fifos start items, Quietly (decoding fifos start items)
  leave_quiet : ∀ ret fifos, Quietly (leave ret fifos)
  arrive : ∀ fifos awt past, rig.Ready fifos awt → enter fifos past →
    head (fifos.receive inFrame) 0 (past ++ [⟨awt, .mark (.frame inFrame), ()⟩])
  block : ∀ fifos awt start past, rig.Ready fifos awt → start + rig.awtSize ≤ (fifos.input 0).length →
    head fifos start past → decoding fifos start (List.range rig.decoders) (past ++ [⟨awt, .mark (.block start), ()⟩])
  decode : ∀ fifos awt start i items past result, rig.Ready fifos awt → i < rig.decoders →
    start + rig.awtSize ≤ (fifos.input 0).length → decoding fifos start (i :: items) past →
    law past ⟨awt, .awt5DecodeStreamBuffer i (awt.decoder i) (fifos.input.block start rig.awtSize i), result⟩ →
    let decoded := past ++ [⟨awt, .awt5DecodeStreamBuffer i (awt.decoder i) (fifos.input.block start rig.awtSize i), result⟩]
    if result.ret ≠ 0 then leave result.ret fifos decoded
    else if result.found = [] then decoding fifos start items decoded
    else decoding fifos start items (decoded ++ [⟨awt, .avLog .error (.foundWatermark i result.found result.percent), ()⟩])
  pass : ∀ fifos awt start past, rig.Ready fifos awt → start + rig.awtSize ≤ (fifos.input 0).length →
    decoding fifos start [] past →
    head (fifos.pass rig) (start + rig.awtSize) (past ++ [⟨awt, .mark (.pass start), ()⟩])
  early : ∀ fifos past, fifos.Level rig.channels → (fifos.input 0).length < rig.awtSize → head fifos 0 past →
    leave 0 fifos past
  drop : ∀ fifos start past, fifos.Level rig.channels → start ≤ (fifos.input 0).length →
    (fifos.input 0).length < start + rig.awtSize → rig.awtSize ≤ (fifos.input 0).length → head fifos start past →
    packets (fifos.dropInput start) 0 past
  packet : ∀ fifos awt start past, rig.Ready fifos awt → start + rig.pktSize ≤ (fifos.output 0).length →
    packets fifos start past → allocating fifos start (past ++ [⟨awt, .mark (.packet start), ()⟩])
  allocate : ∀ fifos awt start past answer, rig.Ready fifos awt → start + rig.pktSize ≤ (fifos.output 0).length →
    allocating fifos start past → law past ⟨awt, .ffGetAudioBuffer rig.pktSize, answer⟩ →
    match answer with
    | none => leave ENOMEM fifos (past ++ [⟨awt, .ffGetAudioBuffer rig.pktSize, answer⟩])
    | some _ => giving fifos start (past ++ [⟨awt, .ffGetAudioBuffer rig.pktSize, answer⟩])
  give : ∀ fifos awt start past ret, rig.Ready fifos awt → start + rig.pktSize ≤ (fifos.output 0).length →
    giving fifos start past → law past ⟨awt, .ffFilterFrame (rig.packet inFrame fifos start), ret⟩ →
    let given := past ++ [⟨awt, .ffFilterFrame (rig.packet inFrame fifos start), ret⟩]
    if ret ≠ 0 then leave ret fifos given else packets fifos (start + rig.pktSize) given
  emptied : ∀ fifos start past, fifos.Level rig.channels → start ≤ (fifos.output 0).length →
    (fifos.output 0).length < start + rig.pktSize → packets fifos start past → leave 0 (fifos.dropOutput start) past
  head_expired : ∀ fifos start past, fuel ≤ (fifos.input 0).length → head fifos start past → halt past
  packets_expired : ∀ fifos start past, fuel ≤ (fifos.output 0).length → packets fifos start past → halt past

/-- The channels to come have what is old, the others what is new. -/
def swapped (items : List Nat) (old new : Planes) : Planes := fun i => if i ∈ items then old i else new i

section turns

variable {law : Law} {rig : Rig} {fifos : Fifos} {awt : AWTContext} {buffer : AWTBuffer} {i : Nat} {items : List Nat}
  {old new : Planes}

theorem swapped_head : swapped (i :: items) old new i = old i := if_pos (List.mem_cons_self ..)

theorem swapped_done (fresh : i ∉ items) : swapped items old new i = new i := if_neg fresh

theorem swapped_other {j : Nat} (other : j ≠ i) : swapped (i :: items) old new j = swapped items old new j := by
  simp [swapped, other]

theorem inputAt_setInput {j : Nat} (present : (awt.inputAt i).isSome) :
    (awt.setInput i buffer).inputAt j = if j = i then some buffer else awt.inputAt j := by
  cases found : awt.input with
  | none => simp [AWTContext.inputAt, found] at present
  | some buffers =>
  have within : i < buffers.length := by simpa [AWTContext.inputAt, found] using present
  simp only [AWTContext.inputAt, AWTContext.setInput, found, Option.map_some, Option.bind_some]
  split
  next same => rw [same, List.getElem?_set_self within]
  next other => exact List.getElem?_set_ne (Ne.symm other)

theorem outputAt_setOutput {j : Nat} (present : (awt.outputAt i).isSome) :
    (awt.setOutput i buffer).outputAt j = if j = i then some buffer else awt.outputAt j := by
  cases found : awt.output with
  | none => simp [AWTContext.outputAt, found] at present
  | some buffers =>
  have within : i < buffers.length := by simpa [AWTContext.outputAt, found] using present
  simp only [AWTContext.outputAt, AWTContext.setOutput, found, Option.map_some, Option.bind_some]
  split
  next same => rw [same, List.getElem?_set_self within]
  next other => exact List.getElem?_set_ne (Ne.symm other)

namespace Rig.Carries

theorem few_input (carries : rig.Carries fifos awt) : (fifos.input 0).length < 2 ^ 29 := by
  obtain ⟨buffer, _, sound, held⟩ := carries.input 0 rig.present
  exact held ▸ sound.few

theorem few_output (carries : rig.Carries fifos awt) : (fifos.output 0).length < 2 ^ 29 := by
  obtain ⟨buffer, _, sound, held⟩ := carries.output 0 rig.present
  exact held ▸ sound.few

theorem congr (carries : rig.Carries fifos awt) {other : Fifos} (input : ∀ i < rig.channels, fifos.input i = other.input i)
    (output : ∀ i < rig.channels, fifos.output i = other.output i) : rig.Carries other awt := by
  refine { carries with input := fun i within => ?_, output := fun i within => ?_ }
  · rw [← input i within]
    exact carries.input i within
  · rw [← output i within]
    exact carries.output i within

/-- Before the first channel of a loop and after the last one. -/
theorem swappedInput (carries : rig.Carries ⟨old, fifos.output⟩ awt) :
    rig.Carries ⟨swapped (List.range rig.channels) old new, fifos.output⟩ awt :=
  carries.congr (fun _ within => (if_pos (List.mem_range.mpr within)).symm) fun _ _ => rfl

theorem swappedOutput (carries : rig.Carries ⟨fifos.input, old⟩ awt) :
    rig.Carries ⟨fifos.input, swapped (List.range rig.channels) old new⟩ awt :=
  carries.congr (fun _ _ => rfl) fun _ within => (if_pos (List.mem_range.mpr within)).symm

theorem setInput {output : Planes} (carries : rig.Carries ⟨swapped (i :: items) old new, output⟩ awt)
    (within : i < rig.channels) (fresh : i ∉ items) (sound : buffer.Sound) (held : buffer.held = new i) :
    rig.Carries ⟨swapped items old new, output⟩ (awt.setInput i buffer) := by
  refine { carries with input := fun j inside => ?_ }
  obtain ⟨_, found, _⟩ := carries.input i within
  rw [inputAt_setInput (by rw [found]; rfl)]
  by_cases same : j = i
  · subst same
    exact ⟨buffer, if_pos rfl, sound, held.trans (swapped_done fresh).symm⟩
  · dsimp only
    rw [if_neg same, ← swapped_other same]
    exact carries.input j inside

theorem setOutput {input : Planes} (carries : rig.Carries ⟨input, swapped (i :: items) old new⟩ awt)
    (within : i < rig.channels) (fresh : i ∉ items) (sound : buffer.Sound) (held : buffer.held = new i) :
    rig.Carries ⟨input, swapped items old new⟩ (awt.setOutput i buffer) := by
  refine { carries with output := fun j inside => ?_ }
  obtain ⟨_, found, _⟩ := carries.output i within
  rw [outputAt_setOutput (by rw [found]; rfl)]
  by_cases same : j = i
  · subst same
    exact ⟨buffer, if_pos rfl, sound, held.trans (swapped_done fresh).symm⟩
  · dsimp only
    rw [if_neg same, ← swapped_other same]
    exact carries.output j inside

end Rig.Carries

/-- The context holds the samples, and the assertion is true of the history. -/
def Rig.Holding (rig : Rig) (fifos : Fifos) (assertion : History → Prop) (world : LavfiWorld) : Prop :=
  rig.Carries fifos world.state ∧ assertion world.trace

variable {assertion : History → Prop} {halt : Stop → LavfiWorld → Prop} {world : LavfiWorld} {inFrame : AVFrame}

theorem holding_quiet (quiet : Quietly assertion) : Ignores law (fun call => Call.quiet call) (rig.Holding fifos assertion) :=
  fun _ member world holds _ _ => ⟨holds.1, quiet world.trace world.state _ _ member holds.2⟩

private theorem holding_allocates (quiet : Quietly assertion) :
    Ignores law (fun call => call.allocates) (rig.Holding fifos assertion) := by
  apply (holding_quiet quiet).narrow
  intro call allocates
  cases call <;> first | rfl | cases allocates

/-- The FIFOs of these channels can grow. -/
def Growable (bufferAt : Nat → Option AWTBuffer) (count : Int) (items : List Nat) : Prop :=
  ∀ i ∈ items, ∀ buffer, bufferAt i = some buffer → buffer.GrowsInInt count

theorem growable_of_all {array : Option (List AWTBuffer)} {count : Int}
    (all : array.all (·.all fun buffer => buffer.GrowsInInt count)) (items : List Nat) :
    Growable (fun i => array.bind (·[i]?)) count items := by
  intro i _ buffer found
  obtain ⟨buffers, rfl, inside⟩ := Option.bind_eq_some_iff.mp found
  exact of_decide_eq_true (List.all_eq_true.mp all buffer (List.mem_of_getElem? inside))

/-- The channel that is served first leaves the others as they are. -/
theorem Growable.tail {before after : Nat → Option AWTBuffer} {count : Int} (growable : Growable before count (i :: items))
    (fresh : i ∉ items) (same : ∀ j, j ≠ i → after j = before j) : Growable after count items := by
  intro j member buffer found
  rw [same j (ne_of_mem_of_not_mem member fresh)] at found
  exact growable j (List.mem_cons_of_mem _ member) buffer found

theorem receivePlane_meets (grants : Grants law) (quiet : Quietly assertion) (fits : inFrame.Fits rig.channels)
    (within : i < rig.channels) (fresh : i ∉ items) {output : Planes}
    (holds : rig.Holding ⟨swapped (i :: items) old fun i => old i ++ inFrame.plane i, output⟩ assertion world)
    (growable : Growable world.state.inputAt inFrame.nbSamples (i :: items)) :
    Meets law (receivePlane inFrame i) (fun result final => result = none ∧
      rig.Holding ⟨swapped items old fun i => old i ++ inFrame.plane i, output⟩ assertion final ∧
      Growable final.state.inputAt inFrame.nbSamples items) halt world := by
  obtain ⟨buffer, found, sound, held⟩ := holds.1.input i within
  have inside : i < inFrame.extendedData.length := lt_of_lt_of_le within fits.planes
  have samples := fits.samples _ (List.getElem_mem inside)
  have counted : inFrame.nbSamples = (inFrame.nbSamples.toNat : Int) := (Int.toNat_of_nonneg fits.nonneg).symm
  have plane : inFrame.plane i = inFrame.extendedData[i].take inFrame.nbSamples.toNat := by
    rw [AVFrame.plane, List.getElem_eq_getD]
  apply Meets.get_bind
  rw [found]
  apply Meets.bind (Meets.ret _)
  rw [List.getElem?_eq_getElem inside]
  dsimp only
  rw [counted] at growable ⊢
  have grows := growable i (List.mem_cons_self ..) buffer found
  have room : 0 + inFrame.nbSamples.toNat ≤ inFrame.extendedData[i].length := by omega
  have steady : Ignores law (fun call => call.allocates) fun world =>
      rig.Holding ⟨swapped (i :: items) old fun i => old i ++ inFrame.plane i, output⟩ assertion world ∧
        Growable world.state.inputAt inFrame.nbSamples.toNat (i :: items) :=
    (holding_allocates quiet).and_state (Growable ·.inputAt inFrame.nbSamples.toNat (i :: items))
  apply Meets.seq (awtBufferMoveIn_meets grants steady sound grows (by decide) room ⟨holds, growable⟩)
  intro filled final ⟨result, holds, growable⟩
  obtain ⟨buffer, found, _⟩ := holds.1.input i within
  apply Meets.modify_bind
  refine Meets.ret ⟨rfl, ⟨holds.1.setInput within fresh result.sound ?_, holds.2⟩, growable.tail fresh fun j other => ?_⟩
  · dsimp only at held
    rw [result.held, held.trans swapped_head, plane]
    rfl
  · rw [World.update_state, inputAt_setInput (by rw [found]; rfl), if_neg other]

/-- The samples are held, and `in` holds the given floats. -/
def Rig.Gathered (rig : Rig) (fifos : Fifos) (floats : List CFloat) (assertion : History → Prop) (world : LavfiWorld) :
    Prop :=
  rig.Holding fifos assertion world ∧ ∃ buffer, world.state.inBuffer = some buffer ∧ buffer.Sound ∧ buffer.held = floats ∧
    rig.channels * rig.awtSize ≤ buffer.data.length

theorem Rig.Holding.setInBuffer (holds : rig.Holding fifos assertion world) (sound : buffer.Sound)
    (room : rig.channels * rig.awtSize ≤ buffer.data.length) :
    rig.Gathered fifos buffer.held assertion (world.update fun awt => { awt with inBuffer := some buffer }) :=
  ⟨⟨{ holds.1 with inBuffer := ⟨buffer, rfl, sound, room⟩ }, holds.2⟩, buffer, rfl, sound, rfl, room⟩

variable {start : Nat}

theorem gatherBlock_meets (grants : Grants law) (quiet : Quietly assertion) (within : i < rig.channels)
    (inside : start + rig.awtSize ≤ (fifos.input i).length) {floats : List CFloat}
    (more : floats.length + rig.awtSize ≤ rig.channels * rig.awtSize)
    (gathered : rig.Gathered fifos floats assertion world) :
    Meets law (gatherBlock start i) (fun result final => result = none ∧
      rig.Gathered fifos (floats ++ fifos.input.block start rig.awtSize i) assertion final) halt world := by
  obtain ⟨holds, inBuffer, present, whole, floating, large⟩ := gathered
  obtain ⟨buffer, found, sound, held⟩ := holds.1.input i within
  apply Meets.get_bind
  rw [present, found, holds.1.awtSize]
  apply Meets.bind (Meets.ret _)
  apply Meets.bind (Meets.ret _)
  rw [← held] at inside
  have room : start + rig.awtSize ≤ buffer.data.length := inside.trans buffer.held_fits
  have few := sound.few
  have size := whole.size
  have maximum := whole.max
  have int := rig.int
  rw [floating] at size
  have grows : inBuffer.GrowsInInt rig.awtSize := ⟨by omega, Or.inl (by omega)⟩
  apply Meets.seq (awtBufferMoveIn_meets grants (holding_allocates quiet) whole grows (by omega) room holds)
  intro filled final ⟨result, holds⟩
  apply Meets.modify_bind
  have next := holds.setInBuffer result.sound (large.trans result.keeps)
  rw [result.held, floating, sound.data_block inside, held] at next
  exact Meets.ret ⟨rfl, next⟩

/-- The decoder is given its channel's block out of all that were gathered. -/
theorem gathered_block (level : fifos.Level rig.channels) (inside : start + rig.awtSize ≤ (fifos.input 0).length)
    (within : i < rig.channels) (sound : buffer.Sound)
    (held : buffer.held = (List.range rig.channels).flatMap (fifos.input.block start rig.awtSize)) :
    i * rig.awtSize + rig.awtSize ≤ buffer.held.length ∧
      (buffer.data.drop (i * rig.awtSize)).take rig.awtSize = fifos.input.block start rig.awtSize i := by
  have length (k : Nat) (below : k < rig.channels) : (fifos.input.block start rig.awtSize k).length = rig.awtSize := by
    rw [Planes.block, List.length_take, List.length_drop, level.input k below]
    omega
  have room : i * rig.awtSize + rig.awtSize ≤ buffer.held.length := by
    rw [held, Blocks.length_flatMap_range length]
    calc i * rig.awtSize + rig.awtSize = (i + 1) * rig.awtSize := by rw [Nat.succ_mul]
      _ ≤ rig.channels * rig.awtSize := Nat.mul_le_mul_right _ within
  refine ⟨room, ?_⟩
  rw [sound.data_block room, held]
  exact Blocks.take_drop_flatMap within length

variable {fuel : Nat} {enter : Fifos → History → Prop} {leave : Int → Fifos → History → Prop} {stopped : History → Prop}
  (outline : FrameOutline law rig fuel inFrame enter leave stopped)

theorem passBlock_meets (grants : Grants law) (quiet : Quietly assertion) (within : i < rig.channels) (fresh : i ∉ items)
    {input : Planes}
    (holds : rig.Holding ⟨input, swapped (i :: items) old fun i => old i ++ rig.block i⟩ assertion world)
    (growable : Growable world.state.outputAt rig.awtSize (i :: items)) :
    Meets law (passBlock i) (fun result final => result = none ∧
      rig.Holding ⟨input, swapped items old fun i => old i ++ rig.block i⟩ assertion final ∧
      Growable final.state.outputAt rig.awtSize items) halt world := by
  obtain ⟨buffer, found, sound, held⟩ := holds.1.output i within
  obtain ⟨outBuffer, present, room, blocks⟩ := holds.1.outBuffer
  have behind : i * rig.awtSize + rig.awtSize ≤ rig.channels * rig.awtSize := by
    calc i * rig.awtSize + rig.awtSize = (i + 1) * rig.awtSize := by rw [Nat.succ_mul]
      _ ≤ rig.channels * rig.awtSize := Nat.mul_le_mul_right _ within
  have int := rig.int
  have grows := growable i (List.mem_cons_self ..) buffer found
  apply Meets.get_bind
  rw [found, present, holds.1.awtSize]
  apply Meets.bind (Meets.ret _)
  apply Meets.bind (Meets.ret _)
  rw [← Int.natCast_mul, int_ok (by omega) (by omega)]
  apply Meets.bind (Meets.ret _)
  have steady : Ignores law (fun call => call.allocates) fun world =>
      rig.Holding ⟨input, swapped (i :: items) old fun i => old i ++ rig.block i⟩ assertion world ∧
        Growable world.state.outputAt rig.awtSize (i :: items) :=
    (holding_allocates quiet).and_state (Growable ·.outputAt rig.awtSize (i :: items))
  apply Meets.seq (awtBufferMoveIn_meets grants steady sound grows (by omega) (behind.trans room) ⟨holds, growable⟩)
  intro filled final ⟨result, holds, growable⟩
  obtain ⟨buffer, found, _⟩ := holds.1.output i within
  apply Meets.modify_bind
  refine Meets.ret ⟨rfl, ⟨holds.1.setOutput within fresh result.sound ?_, holds.2⟩, growable.tail fresh fun j other => ?_⟩
  · dsimp only at held
    rw [result.held, held.trans swapped_head, blocks i within]
  · rw [World.update_state, outputAt_setOutput (by rw [found]; rfl), if_neg other]

theorem dropInput_meets {count : Nat} (most : count < 2 ^ 29) (within : i < rig.channels) (fresh : i ∉ items)
    {output : Planes} (holds : rig.Holding ⟨swapped (i :: items) old fun i => (old i).drop count, output⟩ assertion world) :
    Meets law (dropInput count i) (fun result final => result = none ∧
      rig.Holding ⟨swapped items old fun i => (old i).drop count, output⟩ assertion final) halt world := by
  obtain ⟨buffer, found, sound, held⟩ := holds.1.input i within
  dsimp only at held
  rw [swapped_head] at held
  obtain ⟨updated, ok, whole, left⟩ := awtBufferUpdate_ok sound most
  apply Meets.get_bind
  rw [found]
  apply Meets.bind (Meets.ret _)
  rw [ok]
  apply Meets.bind (Meets.ret _)
  apply Meets.modify_bind
  exact Meets.ret ⟨rfl, holds.1.setInput within fresh whole (by rw [left, held]), holds.2⟩

theorem dropOutput_meets {count : Nat} (most : count < 2 ^ 29) (within : i < rig.channels) (fresh : i ∉ items)
    {input : Planes} (holds : rig.Holding ⟨input, swapped (i :: items) old fun i => (old i).drop count⟩ assertion world) :
    Meets law (dropOutput count i) (fun result final => result = none ∧
      rig.Holding ⟨input, swapped items old fun i => (old i).drop count⟩ assertion final) halt world := by
  obtain ⟨buffer, found, sound, held⟩ := holds.1.output i within
  dsimp only at held
  rw [swapped_head] at held
  obtain ⟨updated, ok, whole, left⟩ := awtBufferUpdate_ok sound most
  apply Meets.get_bind
  rw [found]
  apply Meets.bind (Meets.ret _)
  rw [ok]
  apply Meets.bind (Meets.ret _)
  apply Meets.modify_bind
  exact Meets.ret ⟨rfl, holds.1.setOutput within fresh whole (by rw [left, held]), holds.2⟩

theorem fillPlane_meets (fresh : Nat → Nat → CFloat) (within : i < rig.channels)
    (inside : start + rig.pktSize ≤ (fifos.output i).length) (holds : rig.Holding fifos assertion world) :
    Meets law (fillPlane start fresh i) (fun plane final => plane = fifos.output.block start rig.pktSize i ∧
      rig.Holding fifos assertion final) halt world := by
  obtain ⟨buffer, found, sound, held⟩ := holds.1.output i within
  rw [← held] at inside
  apply Meets.get_bind
  rw [found, holds.1.pktSize]
  apply Meets.bind (Meets.ret _)
  have beyond : ((List.range rig.pktSize).map (fresh i)).drop rig.pktSize = [] := List.drop_eq_nil_of_le (by simp)
  rw [Int.toNat_natCast, awtBufferMoveOut_ok sound inside (by simp), beyond, List.append_nil]
  exact Meets.ret ⟨by rw [held, Planes.block], holds⟩

include outline in
theorem decodeBlock_meets (level : fifos.Level rig.channels) (inside : start + rig.awtSize ≤ (fifos.input 0).length)
    (within : i < rig.decoders)
    (gathered : rig.Gathered fifos ((List.range rig.channels).flatMap (fifos.input.block start rig.awtSize))
      (outline.decoding fifos start (i :: items)) world) :
    Meets (InInt law) (decodeBlock i) (fun result final => result.elim
      (rig.Gathered fifos ((List.range rig.channels).flatMap (fifos.input.block start rig.awtSize))
        (outline.decoding fifos start items) final)
      (fun ret => rig.Holding fifos (leave ret fifos) final)) halt world := by
  obtain ⟨holds, buffer, present, sound, held, large⟩ := gathered
  obtain ⟨room, block⟩ := gathered_block level inside (Nat.lt_of_lt_of_le within (Nat.min_le_right ..)) sound held
  apply Meets.get_bind
  rw [present]
  apply Meets.bind (Meets.ret _)
  dsimp only
  rw [holds.1.awtSize, ← Int.natCast_mul, Int.toNat_natCast, Int.toNat_natCast, block,
    if_neg (by have := buffer.held_fits; omega)]
  apply Meets.call_bind
  intro result lawful
  have decoded := outline.decode fifos world.state start i items world.trace result ⟨holds.1, level⟩ within inside holds.2 lawful.1
  by_cases failed : result.ret ≠ 0
  · rw [if_pos failed] at decoded ⊢
    have left : rig.Holding fifos (leave result.ret fifos) (world.record (.awt5DecodeStreamBuffer i
        (world.state.decoder i) (fifos.input.block start rig.awtSize i)) result) := ⟨holds.1, decoded⟩
    apply Meets.call_seq (holding_quiet (outline.leave_quiet _ _) _ rfl _ left)
    intro _ world left
    apply Meets.call_seq (holding_quiet (outline.leave_quiet _ _) _ rfl world left)
    intro _ world left
    exact Meets.ret left
  rw [if_neg failed] at decoded ⊢
  by_cases silent : result.found = []
  · rw [if_pos silent] at decoded ⊢
    exact Meets.ret ⟨⟨holds.1, decoded⟩, buffer, present, sound, held, large⟩
  · rw [if_neg silent] at decoded ⊢
    apply Meets.call_bind
    intro _ _
    apply Meets.modify_bind
    exact Meets.ret ⟨⟨{ holds.1 with }, decoded⟩, buffer, present, sound, held, large⟩

theorem Fifos.Level.receive (level : fifos.Level rig.channels) (fits : inFrame.Fits rig.channels) :
    (fifos.receive inFrame).Level rig.channels := by
  have plane (i : Nat) (within : i < rig.channels) : (inFrame.plane i).length = inFrame.nbSamples.toNat := by
    have inside : i < inFrame.extendedData.length := Nat.lt_of_lt_of_le within fits.planes
    have samples := fits.samples _ (List.getElem_mem inside)
    rw [AVFrame.plane, ← List.getElem_eq_getD (h := inside), List.length_take]
    omega
  refine ⟨fun i within => ?_, level.output⟩
  simp only [Fifos.receive, List.length_append, level.input i within, plane i within, plane 0 rig.present]

theorem Fifos.Level.pass (level : fifos.Level rig.channels) : (fifos.pass rig).Level rig.channels := by
  refine ⟨level.input, fun i within => ?_⟩
  simp only [Fifos.pass, List.length_append, level.output i within, rig.filled i within, rig.filled 0 rig.present]

theorem Fifos.Level.dropInput (level : fifos.Level rig.channels) (count : Nat) : (fifos.dropInput count).Level rig.channels := by
  refine ⟨fun i within => ?_, level.output⟩
  simp only [Fifos.dropInput, List.length_drop, level.input i within]

theorem Fifos.Level.dropOutput (level : fifos.Level rig.channels) (count : Nat) :
    (fifos.dropOutput count).Level rig.channels := by
  refine ⟨level.input, fun i within => ?_⟩
  simp only [Fifos.dropOutput, List.length_drop, level.output i within]

@[simp] theorem indices_natCast (n : Nat) : indices (n : Int) = List.range n := by
  rw [indices, Int.toNat_natCast]

theorem receive_loop (grants : Grants law) (quiet : Quietly assertion) (fits : inFrame.Fits rig.channels)
    (holds : rig.Holding fifos assertion world)
    (growable : Growable world.state.inputAt inFrame.nbSamples (List.range rig.channels)) :
    Meets law (Program.each (receivePlane inFrame) (indices rig.channels))
      (fun _ => rig.Holding (fifos.receive inFrame) assertion) halt world := by
  rw [indices_natCast]
  apply Meets.each_range fun items world => rig.Holding
      ⟨swapped items fifos.input fun i => fifos.input i ++ inFrame.plane i, fifos.output⟩ assertion world ∧
    Growable world.state.inputAt inFrame.nbSamples items
  · intro i items world within fresh ⟨holds, growable⟩
    apply (receivePlane_meets grants quiet fits within fresh holds growable).imp
    rintro _ final ⟨rfl, next⟩
    exact next
  · exact fun _ holds => holds.1
  · exact ⟨⟨holds.1.swappedInput, holds.2⟩, growable⟩

theorem gather_loop (grants : Grants law) (quiet : Quietly assertion) (level : fifos.Level rig.channels)
    (inside : start + rig.awtSize ≤ (fifos.input 0).length) (gathered : rig.Gathered fifos [] assertion world) :
    Meets law (Program.each (gatherBlock start) (indices rig.channels))
      (fun _ => rig.Gathered fifos ((List.range rig.channels).flatMap (fifos.input.block start rig.awtSize)) assertion)
      halt world := by
  rw [indices_natCast]
  apply Meets.each_range fun items world => ∃ floats, rig.Gathered fifos floats assertion world ∧
    floats ++ items.flatMap (fifos.input.block start rig.awtSize) =
      (List.range rig.channels).flatMap (fifos.input.block start rig.awtSize)
  · intro i items world within _ ⟨floats, gathered, same⟩
    have block (k : Nat) (below : k < rig.channels) : (fifos.input.block start rig.awtSize k).length = rig.awtSize := by
      rw [Planes.block, List.length_take, List.length_drop, level.input k below]
      omega
    have lengths := congrArg List.length same
    rw [Blocks.length_flatMap_range block, List.length_append, List.flatMap_cons, List.length_append, block i within] at lengths
    apply (gatherBlock_meets grants quiet within (by rw [level.input i within]; exact inside) (by omega) gathered).imp
    rintro _ final ⟨rfl, next⟩
    exact ⟨_, next, by rw [List.append_assoc]; exact same⟩
  · intro world ⟨floats, gathered, same⟩
    rw [← same, List.flatMap_nil, List.append_nil]
    exact gathered
  · exact ⟨[], gathered, rfl⟩

include outline in
theorem decode_loop (level : fifos.Level rig.channels) (inside : start + rig.awtSize ≤ (fifos.input 0).length)
    (gathered : rig.Gathered fifos ((List.range rig.channels).flatMap (fifos.input.block start rig.awtSize))
      (outline.decoding fifos start (List.range rig.decoders)) world) :
    Meets (InInt law) (Program.each decodeBlock (indices rig.decoders)) (fun result final => result.elim
      (rig.Holding fifos (outline.decoding fifos start []) final)
      (fun ret => rig.Holding fifos (leave ret fifos) final)) halt world := by
  rw [indices_natCast]
  apply Meets.each_range fun items => rig.Gathered fifos
    ((List.range rig.channels).flatMap (fifos.input.block start rig.awtSize)) (outline.decoding fifos start items)
  · exact fun i items world within _ gathered => decodeBlock_meets outline level inside within gathered
  · exact fun _ gathered => gathered.1
  · exact gathered

theorem pass_loop (grants : Grants law) (quiet : Quietly assertion) (holds : rig.Holding fifos assertion world)
    (growable : Growable world.state.outputAt rig.awtSize (List.range rig.channels)) :
    Meets law (Program.each passBlock (indices rig.channels)) (fun _ => rig.Holding (fifos.pass rig) assertion) halt world := by
  rw [indices_natCast]
  apply Meets.each_range fun items world => rig.Holding
      ⟨fifos.input, swapped items fifos.output fun i => fifos.output i ++ rig.block i⟩ assertion world ∧
    Growable world.state.outputAt rig.awtSize items
  · intro i items world within fresh ⟨holds, growable⟩
    apply (passBlock_meets grants quiet within fresh holds growable).imp
    rintro _ final ⟨rfl, next⟩
    exact next
  · exact fun _ holds => holds.1
  · exact ⟨⟨holds.1.swappedOutput, holds.2⟩, growable⟩

theorem dropInput_loop {count : Nat} (most : count < 2 ^ 29) (holds : rig.Holding fifos assertion world) :
    Meets law (Program.each (dropInput count) (indices rig.channels))
      (fun _ => rig.Holding (fifos.dropInput count) assertion) halt world := by
  rw [indices_natCast]
  apply Meets.each_range fun items => rig.Holding
    ⟨swapped items fifos.input fun i => (fifos.input i).drop count, fifos.output⟩ assertion
  · intro i items world within fresh holds
    apply (dropInput_meets most within fresh holds).imp
    rintro _ final ⟨rfl, next⟩
    exact next
  · exact fun _ holds => holds
  · exact ⟨holds.1.swappedInput, holds.2⟩

theorem dropOutput_loop {count : Nat} (most : count < 2 ^ 29) (holds : rig.Holding fifos assertion world) :
    Meets law (Program.each (dropOutput count) (indices rig.channels))
      (fun _ => rig.Holding (fifos.dropOutput count) assertion) halt world := by
  rw [indices_natCast]
  apply Meets.each_range fun items => rig.Holding
    ⟨fifos.input, swapped items fifos.output fun i => (fifos.output i).drop count⟩ assertion
  · intro i items world within fresh holds
    apply (dropOutput_meets most within fresh holds).imp
    rintro _ final ⟨rfl, next⟩
    exact next
  · exact fun _ holds => holds
  · exact ⟨holds.1.swappedOutput, holds.2⟩

theorem fill_loop (fresh : Nat → Nat → CFloat) (level : fifos.Level rig.channels)
    (inside : start + rig.pktSize ≤ (fifos.output 0).length) (holds : rig.Holding fifos assertion world) :
    Meets law (Program.collect (fillPlane start fresh) (indices rig.channels)) (fun planes final =>
      planes = (List.range rig.channels).map (fifos.output.block start rig.pktSize) ∧ rig.Holding fifos assertion final)
      halt world := by
  rw [indices_natCast]
  apply Meets.collect_map _ _ holds
  intro i member world holds
  have within := List.mem_range.mp member
  exact fillPlane_meets fresh within (by rw [level.output i within]; exact inside) holds

include outline in
/-- One turn of the loop over the input FIFOs. -/
theorem blockTurn_meets (grants : Grants law) (level : fifos.Level rig.channels) (start : Nat)
    (holds : rig.Holding fifos (outline.head fifos start) world) :
    Meets (InInt law) (blockTurn rig.channels ((fifos.input 0).length : Nat) start) (fun result final => match result with
      | .inl again => start + rig.awtSize ≤ (fifos.input 0).length ∧ again = ((start + rig.awtSize : Nat) : Int) ∧
        rig.Holding (fifos.pass rig) (outline.head (fifos.pass rig) (start + rig.awtSize)) final
      | .inr (.ok stop) => (fifos.input 0).length < start + rig.awtSize ∧ stop = (start : Int) ∧
        rig.Holding fifos (outline.head fifos start) final
      | .inr (.error ret) => rig.Holding fifos (leave ret fifos) final) halt world := by
  apply Meets.get_bind
  rw [holds.1.awtSize]
  split
  next done => exact Meets.ret ⟨by omega, rfl, holds⟩
  next more =>
  have inside : start + rig.awtSize ≤ (fifos.input 0).length := by omega
  obtain ⟨inBuffer, present, whole, large⟩ := holds.1.inBuffer
  apply Meets.call_bind
  intro _ _
  have opened : rig.Holding fifos (outline.decoding fifos start (List.range rig.decoders))
      (world.record (.mark (.block start)) ()) :=
    ⟨holds.1, outline.block fifos world.state start world.trace ⟨holds.1, level⟩ inside holds.2⟩
  have empty := AWTBuffer.sound_of_data inBuffer.data 0 (Nat.zero_le _) (by rw [← whole.max]; exact whole.int)
  rw [← whole.max] at empty
  have emptied := opened.setInBuffer empty.1 large
  rw [empty.2, List.take_zero] at emptied
  rw [present, holds.1.nbDecoder]
  apply Meets.bind (Meets.ret _)
  apply Meets.modify_bind
  apply Meets.seq (gather_loop grants.inInt (outline.decoding_quiet _ _ _) level inside emptied)
  intro _ world gathered
  apply Meets.seq (decode_loop outline level inside gathered)
  intro result world decoded
  cases result with
  | some ret => exact Meets.ret decoded
  | none =>
  apply Meets.call_bind
  intro _ lawful
  have growable : Growable world.state.outputAt rig.awtSize (List.range rig.channels) := by
    rw [← decoded.1.awtSize]
    exact growable_of_all lawful.2 _
  have passing : rig.Holding fifos (outline.head (fifos.pass rig) (start + rig.awtSize))
      (world.record (.mark (.pass start)) ()) :=
    ⟨decoded.1, outline.pass fifos world.state start world.trace ⟨decoded.1, level⟩ inside decoded.2⟩
  apply Meets.seq (pass_loop grants.inInt (outline.head_quiet _ _) passing growable)
  exact fun _ world passed => Meets.ret ⟨inside, by rw [Int.natCast_add], passed⟩

/-- Where a run that does not return is left. -/
def Expired (stopped : History → Prop) (why : Stop) (world : LavfiWorld) : Prop := why = .timeout ∧ stopped world.trace

include outline in
theorem block_loop (grants : Grants law) (level : fifos.Level rig.channels)
    (holds : rig.Holding fifos (outline.head fifos 0) world) :
    Meets (InInt law) (Program.loop .timeout (blockTurn rig.channels ((fifos.input 0).length : Nat)) fuel 0)
      (fun result final => match result with
        | .ok stop => ∃ (start : Nat) (passed : Fifos), stop = (start : Int) ∧ passed.input = fifos.input ∧
          passed.Level rig.channels ∧ start ≤ (fifos.input 0).length ∧ (fifos.input 0).length < start + rig.awtSize ∧
          rig.Holding passed (outline.head passed start) final
        | .error ret => ∃ passed : Fifos, passed.Level rig.channels ∧ rig.Holding passed (leave ret passed) final)
      (Expired stopped) world := by
  apply Meets.loop_bounded (fun value world => ∃ (start : Nat) (passed : Fifos), value = (start : Int) ∧
      passed.input = fifos.input ∧ passed.Level rig.channels ∧ start ≤ (fifos.input 0).length ∧
      rig.Holding passed (outline.head passed start) world)
    (fun value => (((fifos.input 0).length : Int) - value).toNat)
  · rintro _ world ⟨start, passed, rfl, same, level, within, holds⟩
    rw [← same]
    apply (blockTurn_meets outline grants level start holds).imp
    intro result final reached
    have sized := rig.sized
    match result, reached with
    | .inl _, ⟨inside, rfl, next⟩ =>
      exact ⟨⟨_, passed.pass rig, rfl, rfl, level.pass, inside, next⟩, by omega⟩
    | .inr (.ok _), ⟨short, rfl, next⟩ => exact ⟨start, passed, rfl, rfl, level, by rw [same]; exact within, short, next⟩
    | .inr (.error _), left => exact ⟨passed, level, left⟩
  · rintro short _ world ⟨start, passed, rfl, same, level, within, holds⟩
    refine ⟨rfl, outline.head_expired passed start world.trace ?_ holds.2⟩
    rw [same]
    omega
  · exact ⟨0, fifos, rfl, rfl, level, Nat.zero_le _, holds⟩

include outline in
theorem takeBlocks_meets (grants : Grants law) (fits : inFrame.Fits rig.channels) (level : fifos.Level rig.channels)
    (arrived : rig.Holding fifos (outline.head (fifos.receive inFrame) 0) world)
    (growable : Growable world.state.inputAt inFrame.nbSamples (List.range rig.channels)) :
    Meets (InInt law) (takeBlocks fuel rig.channels inFrame)
      (fun early final => match early with
        | some ret => ∃ passed : Fifos, passed.Level rig.channels ∧ rig.Holding passed (leave ret passed) final
        | none => ∃ passed : Fifos, passed.Level rig.channels ∧ rig.Holding passed (outline.packets passed 0) final)
      (Expired stopped) world := by
  apply Meets.seq (receive_loop grants.inInt (outline.head_quiet _ _) fits arrived growable)
  intro _ world holds
  have level := level.receive fits
  generalize fifos.receive inFrame = fifos at holds level
  obtain ⟨buffer, found, sound, held⟩ := holds.1.input 0 rig.present
  apply Meets.get_bind
  rw [found, holds.1.awtSize]
  apply Meets.bind (Meets.ret _)
  dsimp only
  rw [sound.count, held]
  split
  next short => exact Meets.ret ⟨fifos, level, holds.1, outline.early fifos world.trace level (by omega) holds.2⟩
  next enough =>
  apply Meets.seq (block_loop outline grants level holds)
  intro result world reached
  match result, reached with
  | .error ret, left => exact Meets.ret left
  | .ok _, ⟨start, passed, rfl, same, level, within, short, holds⟩ =>
    rw [← same] at within short enough
    have dropping : rig.Holding passed (outline.packets (passed.dropInput start) 0) world :=
      ⟨holds.1, outline.drop passed start world.trace level within short (by omega) holds.2⟩
    have few := holds.1.few_input
    apply Meets.seq (dropInput_loop (by omega) dropping)
    exact fun _ world dropped => Meets.ret ⟨_, level.dropInput start, dropped⟩

include outline in
/-- One turn of the loop over the output FIFOs. -/
theorem packetTurn_meets (level : fifos.Level rig.channels) (start : Nat)
    (holds : rig.Holding fifos (outline.packets fifos start) world) :
    Meets (InInt law) (packetTurn rig.channels inFrame ((fifos.output 0).length : Nat) start) (fun result final => match result with
      | .inl again => start + rig.pktSize ≤ (fifos.output 0).length ∧ again = ((start + rig.pktSize : Nat) : Int) ∧
        rig.Holding fifos (outline.packets fifos (start + rig.pktSize)) final
      | .inr (.ok stop) => (fifos.output 0).length < start + rig.pktSize ∧ stop = (start : Int) ∧
        rig.Holding fifos (outline.packets fifos start) final
      | .inr (.error ret) => rig.Holding fifos (leave ret fifos) final) halt world := by
  apply Meets.get_bind
  rw [holds.1.pktSize]
  split
  next done => exact Meets.ret ⟨by omega, rfl, holds⟩
  next more =>
  have inside : start + rig.pktSize ≤ (fifos.output 0).length := by omega
  apply Meets.call_bind
  intro _ _
  have opened := outline.packet fifos world.state start world.trace ⟨holds.1, level⟩ inside holds.2
  apply Meets.call_bind
  intro answer lawful
  have allocated := outline.allocate fifos world.state start _ answer ⟨holds.1, level⟩ inside opened lawful.1
  cases answer with
  | none => exact Meets.ret ⟨holds.1, allocated⟩
  | some fresh =>
  have giving : rig.Holding fifos (outline.giving fifos start)
      ((world.record (.mark (.packet start)) ()).record (.ffGetAudioBuffer rig.pktSize) (some fresh)) :=
    ⟨holds.1, allocated⟩
  apply Meets.seq (fill_loop fresh level inside giving)
  rintro _ world ⟨rfl, holds⟩
  apply Meets.call_bind
  intro ret lawful
  have given := outline.give fifos world.state start world.trace ret ⟨holds.1, level⟩ inside holds.2 lawful.1
  by_cases failed : ret ≠ 0
  · rw [if_pos failed] at given ⊢
    exact Meets.ret ⟨holds.1, given⟩
  · rw [if_neg failed] at given ⊢
    exact Meets.ret ⟨inside, by rw [Int.natCast_add], holds.1, given⟩

include outline in
theorem packet_loop (level : fifos.Level rig.channels) (holds : rig.Holding fifos (outline.packets fifos 0) world) :
    Meets (InInt law) (Program.loop .timeout (packetTurn rig.channels inFrame ((fifos.output 0).length : Nat)) fuel 0)
      (fun result final => match result with
        | .ok stop => ∃ start : Nat, stop = (start : Int) ∧ start ≤ (fifos.output 0).length ∧
          (fifos.output 0).length < start + rig.pktSize ∧ rig.Holding fifos (outline.packets fifos start) final
        | .error ret => rig.Holding fifos (leave ret fifos) final)
      (Expired stopped) world := by
  apply Meets.loop_bounded (fun value world => ∃ start : Nat, value = (start : Int) ∧
      start ≤ (fifos.output 0).length ∧ rig.Holding fifos (outline.packets fifos start) world)
    (fun value => (((fifos.output 0).length : Int) - value).toNat)
  · rintro _ world ⟨start, rfl, within, holds⟩
    apply (packetTurn_meets outline level start holds).imp
    intro result final reached
    have packed := rig.packed
    match result, reached with
    | .inl _, ⟨inside, rfl, next⟩ => exact ⟨⟨_, rfl, inside, next⟩, by omega⟩
    | .inr (.ok _), ⟨short, rfl, next⟩ => exact ⟨start, rfl, within, short, next⟩
    | .inr (.error _), left => exact left
  · rintro short _ world ⟨start, rfl, within, holds⟩
    exact ⟨rfl, outline.packets_expired fifos start world.trace (by omega) holds.2⟩
  · exact ⟨0, rfl, Nat.zero_le _, holds⟩

include outline in
theorem givePackets_meets (level : fifos.Level rig.channels) (holds : rig.Holding fifos (outline.packets fifos 0) world) :
    Meets (InInt law) (givePackets fuel rig.channels inFrame)
      (fun ret final => ∃ left : Fifos, left.Level rig.channels ∧ rig.Holding left (leave ret left) final)
      (Expired stopped) world := by
  obtain ⟨buffer, found, sound, held⟩ := holds.1.output 0 rig.present
  apply Meets.get_bind
  rw [found, holds.1.pktSize]
  apply Meets.bind (Meets.ret _)
  dsimp only
  rw [sound.count, held]
  split
  next short =>
    have none : fifos.dropOutput 0 = fifos := rfl
    have ended := outline.emptied fifos 0 world.trace level (Nat.zero_le _) (by omega) holds.2
    rw [none] at ended
    exact Meets.ret ⟨fifos, level, holds.1, ended⟩
  next enough =>
  apply Meets.seq (packet_loop outline level holds)
  intro result world reached
  match result, reached with
  | .error ret, left => exact Meets.ret ⟨fifos, level, left⟩
  | .ok _, ⟨start, rfl, within, short, holds⟩ =>
    have dropping : rig.Holding fifos (leave 0 (fifos.dropOutput start)) world :=
      ⟨holds.1, outline.emptied fifos start world.trace level within short holds.2⟩
    have few := holds.1.few_output
    apply Meets.seq (dropOutput_loop (by omega) dropping)
    exact fun _ world dropped => Meets.ret ⟨_, level.dropOutput start, dropped⟩

/-- A filter between two calls. -/
def Rig.Idle (rig : Rig) (assertion : Fifos → History → Prop) (world : LavfiWorld) : Prop :=
  ∃ fifos : Fifos, rig.Ready fifos world.state ∧ assertion fifos world.trace

include outline in
theorem awtFilterFrame_meets (grants : Grants law) (fits : inFrame.Fits rig.channels) {inlink : AVFilterLink}
    (channels : inlink.channels = rig.channels) (idle : rig.Idle enter world) :
    Meets (InInt law) (awtFilterFrame fuel inlink inFrame) (fun ret => rig.Idle (leave ret)) (Expired stopped) world := by
  obtain ⟨fifos, ready, entered⟩ := idle
  unfold awtFilterFrame
  rw [channels]
  apply Meets.call_bind
  intro _ lawful
  have arrived : rig.Holding fifos (outline.head (fifos.receive inFrame) 0) (world.record (.mark (.frame inFrame)) ()) :=
    ⟨ready.toCarries, outline.arrive fifos world.state world.trace ready entered⟩
  apply Meets.seq (takeBlocks_meets outline grants fits ready.level arrived (growable_of_all lawful.2 _))
  intro early world reached
  have releases (ret : Int) (world : LavfiWorld) (left : Fifos) (level : left.Level rig.channels)
      (holds : rig.Holding left (leave ret left) world) :
      Meets (InInt law) (ask .avFrameFree >>= fun _ => pure ret) (fun ret => rig.Idle (leave ret)) (Expired stopped) world :=
    Meets.call_seq (holding_quiet (outline.leave_quiet ret left) _ rfl world holds) fun _ _ holds =>
      Meets.ret ⟨left, ⟨holds.1, level⟩, holds.2⟩
  cases early with
  | some ret =>
    obtain ⟨left, level, holds⟩ := reached
    exact Meets.bind (Meets.ret (releases ret world left level holds))
  | none =>
    obtain ⟨passed, level, holds⟩ := reached
    apply Meets.seq (givePackets_meets outline level holds)
    intro ret world ⟨left, level, holds⟩
    exact releases ret world left level holds

/-- The frames of a link, with an assertion for the frames still to come. -/
theorem awtFilterFrames_meets (grants : Grants law) {inlink : AVFilterLink} (channels : inlink.channels = rig.channels)
    (between : List AVFrame → Fifos → History → Prop)
    (outlines : ∀ inFrame frames, FrameOutline law rig fuel inFrame (between (inFrame :: frames)) (fun _ => between frames) stopped)
    (frames : List AVFrame) (fits : ∀ inFrame ∈ frames, inFrame.Fits rig.channels) (idle : rig.Idle (between frames) world) :
    Meets (InInt law) (awtFilterFrames fuel inlink frames) (fun _ => rig.Idle (between [])) (Expired stopped) world := by
  have kept : Meets (InInt law) (awtFilterFrames fuel inlink frames)
      (fun _ world => (∀ inFrame ∈ ([] : List AVFrame), inFrame.Fits rig.channels) ∧ rig.Idle (between []) world)
      (Expired stopped) world := by
    apply Meets.collect (fun frames _ world => (∀ inFrame ∈ frames, inFrame.Fits rig.channels) ∧
      rig.Idle (between frames) world) _ frames ⟨fits, idle⟩
    intro inFrame frames _ world ⟨fits, idle⟩
    apply (awtFilterFrame_meets (outlines inFrame frames) grants (fits inFrame (List.mem_cons_self ..)) channels idle).imp
    exact fun _ _ left => ⟨fun other member => fits other (List.mem_cons_of_mem _ member), left⟩
  exact kept.imp fun _ _ reached => reached.2

end turns
end Awt.Lavfi
