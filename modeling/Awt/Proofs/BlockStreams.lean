import Awt.Lib.Blocks
import Awt.Proofs.BlockOutline
import Awt.Script

/-! Re-blocking: what each decoder is handed is the stream of its channel, cut into
blocks, wherever the frames and the runs begin and end. -/

namespace Awt
open OracleProgram Blocks

/-- What a history passed to `awt_filter_frame` and to the decoders, by channel.
`fresh` tells that no frame was passed on since `awt_setup` last ran. -/
structure Streams where
  given : Nat → List CFloat
  handed : Nat → List (List CFloat)
  total : Nat
  samples : Int
  fresh : Bool

def Streams.pass (streams : Streams) (frame : AVFrame) : Streams where
  given i := streams.given i ++ (frame.extendedData[i]?.getD []).take frame.nbSamples.toNat
  handed := streams.handed
  total := streams.total + frame.nbSamples.toNat
  samples := frame.nbSamples
  fresh := false

def Streams.hand (streams : Streams) (i : Nat) (block : List CFloat) : Streams :=
  { streams with handed := Function.update streams.handed i (streams.handed i ++ [block]) }

def blockStreams : Observer Surroundings AWTContext Streams where
  init := ⟨fun _ => [], fun _ => [], 0, 0, true⟩
  step streams event := match event with
    | ⟨_, .avBuffersinkGetFrame, result⟩ => if result.code.val < 0 then streams else streams.pass result.frame
    | ⟨_, .awt5DecodeStreamBuffer i _ input, _⟩ => streams.hand i (input.getD [])
    | ⟨_, .mark (.setup _), _⟩ => { streams with fresh := true }
    | _ => streams

/-- All `n` decoders are there, with buffers of `size` samples. -/
def AWTContext.ready (size n : Nat) (awt : AWTContext) : Bool :=
  awt.awtSize = size ∧ awt.nbDecoder = n ∧
    (List.range n).all fun i => (awt.decoder i).isSome ∧ (awt.buffer i).any (·.length = size)

def AVFrame.planesFor (n : Nat) (frame : AVFrame) : Bool :=
  0 ≤ frame.nbSamples ∧ (List.range n).all fun i => frame.extendedData[i]?.any (frame.nbSamples ≤ ·.length)

/-- Frames come to a context that is ready for them and have a plane for every
decoder; decoders and callbacks answer 0. -/
def readyForBlocks (size n : Nat) (streams : Streams) : Event → Bool
  | ⟨awt, .avBuffersinkGetFrame, result⟩ =>
    ¬ result.code.val < 0 → (streams.fresh → awt.ready size n) ∧ result.frame.planesFor n
  | ⟨_, .awt5DecodeStreamBuffer _ _ _, result⟩ => result.ret = 0
  | ⟨_, .callback _ _ _ _, stop⟩ => stop = (0 : Int)
  | _ => true

abbrev ReadyForBlocks (size n : Nat) : Law := blockStreams.law fun streams event => readyForBlocks size n streams event

/-- Outside `awt_filter_frame`, every decoder was handed the full blocks of its
stream and its buffer holds the rest. -/
structure AtRest (size n : Nat) (streams : Streams) (awt : AWTContext) : Prop where
  filled : awt.nbBuffer = (streams.total % size : Nat)
  lengths : ∀ i < n, (streams.given i).length = streams.total
  handed : ∀ i < n, streams.handed i = full size (streams.given i)
  held : ∀ i < n, ((awt.buffer i).getD []).take awt.nbBuffer.toNat = rest size (streams.given i)

/-- Between two frames: at rest, and ready for the next one unless `awt_setup` ran again,
which it only does as long as nothing was cut for any channel. -/
structure Settled (size n : Nat) (streams : Streams) (awt : AWTContext) : Prop extends AtRest size n streams awt where
  ready : streams.fresh = false → awt.ready size n
  unused : streams.fresh = true → streams.total = 0 ∨ n = 0

/-- Copies stay inside the plane and the buffer, blocks are handed out in the order
of the stream, and between two frames nothing is missing. -/
def Reblocked (size n : Nat) (streams : Streams) : Event → Prop
  | ⟨_, .memcpy i dstOff srcOff count, _⟩ => i < n ∧ 0 ≤ count ∧ 0 ≤ srcOff ∧ srcOff + count ≤ streams.samples ∧
      0 ≤ dstOff ∧ dstOff + count ≤ size
  | ⟨_, .awt5DecodeStreamBuffer i decObj input, _⟩ => i < n ∧ decObj.isSome ∧
      ∃ block, input = some block ∧ streams.handed i ++ [block] <+: full size (streams.given i)
  | ⟨_, .callback _ _ _ _, _⟩ => True
  | ⟨awt, .avBuffersinkGetFrame, _⟩ => Settled size n streams awt
  | ⟨awt, _, _⟩ => AtRest size n streams awt

/-- `awt_filter_frame` returns 0 for every frame that it is called with, with everything
handed out and held, as long as the decoders and the callback answer 0. -/
def FramesReturn (size n : Nat) (past : History) (event : Event) : Prop :=
  match event with
  | ⟨awt, .avBuffersinkGetFrame, result⟩ => ¬ result.code.val < 0 →
    ∀ (oracle : Oracle Surroundings AWTContext) (fuel : Nat), result.frame.nbSamples.toNat < fuel →
      let executed := (awtFilterFrame fuel result.frame).run oracle ⟨awt, past ++ [⟨awt, .avBuffersinkGetFrame, result⟩]⟩
      Lawful (ReadyForBlocks size n) executed.2.trace →
        executed.1 = .done 0 ∧ AtRest size n (blockStreams.seen executed.2.trace) executed.2.state
  | _ => True

section channel

/-- Where channel `i` stands in a frame: what it was given is what was consumed, and
then the plane from `off` on. -/
structure Channel (size : Nat) (frame : AVFrame) (off fill i : Nat) (given : List CFloat) (out : List (List CFloat))
    (held : List CFloat) : Prop where
  planes : ∃ plane consumed, frame.extendedData[i]? = some plane ∧ frame.nbSamples ≤ plane.length ∧
    given = consumed ++ (plane.take frame.nbSamples.toNat).drop off ∧ Cuts size consumed out held fill

/-- The samples of channel `i` that one copy moves. -/
def AVFrame.piece (frame : AVFrame) (off count i : Nat) : List CFloat :=
  ((frame.extendedData[i]?.getD []).drop off).take count

variable {size off fill count i : Nat} {frame : AVFrame} {given held : List CFloat} {out : List (List CFloat)}

private theorem Channel.split (channel : Channel size frame off fill i given out held)
    (inside : off + count ≤ frame.nbSamples.toNat) :
    ∃ plane consumed, frame.extendedData[i]? = some plane ∧ frame.nbSamples ≤ plane.length ∧
      given = (consumed ++ frame.piece off count i) ++ (plane.take frame.nbSamples.toNat).drop (off + count) ∧
      (frame.piece off count i).length = count ∧ Cuts size consumed out held fill := by
  obtain ⟨plane, consumed, found, long, rfl, cuts⟩ := channel.planes
  have piece : frame.piece off count i = ((plane.take frame.nbSamples.toNat).drop off).take count := by
    rw [AVFrame.piece, found, Option.getD_some, List.drop_take, List.take_take, Nat.min_eq_left (by omega)]
  refine ⟨plane, consumed, found, long, ?_, ?_, cuts⟩
  · rw [List.append_assoc, piece, ← List.drop_drop, List.take_append_drop]
  · rw [piece, List.length_take, List.length_drop, List.length_take]
    omega

private theorem Channel.short (channel : Channel size frame off fill i given out held)
    (inside : off + count ≤ frame.nbSamples.toNat) (room : fill + count < size) :
    Channel size frame (off + count) (fill + count) i given out (store held fill (frame.piece off count i)) := by
  obtain ⟨plane, consumed, found, long, same, length, cuts⟩ := channel.split inside
  have longer := cuts.short (show fill + (frame.piece off count i).length < size by omega)
  rw [length] at longer
  exact ⟨plane, _, found, long, same, longer⟩

private theorem Channel.complete (channel : Channel size frame off fill i given out held) (positive : 0 < size)
    (inside : off + count ≤ frame.nbSamples.toNat) (exact : fill + count = size) :
    Channel size frame (off + count) 0 i given (out ++ [store held fill (frame.piece off count i)])
      (store held fill (frame.piece off count i)) := by
  obtain ⟨plane, consumed, found, long, same, length, cuts⟩ := channel.split inside
  exact ⟨plane, _, found, long, same, cuts.complete positive (by omega)⟩

/-- At the end of the frame the channel was given exactly what was consumed. -/
private theorem Channel.finish (channel : Channel size frame off fill i given out held)
    (done : frame.nbSamples.toNat ≤ off) : Cuts size given out held fill := by
  obtain ⟨plane, consumed, _, _, rfl, cuts⟩ := channel.planes
  rw [List.drop_eq_nil_of_le (by rw [List.length_take]; omega), List.append_nil]
  exact cuts

/-- A copy that stays inside both areas stores its piece. -/
private theorem memcpy_store {dst src : List CFloat} (inside : off + count ≤ src.length) (fits : fill + count ≤ dst.length) :
    memcpy dst fill src off count = .ok (store dst fill ((src.drop off).take count)) := by
  have length : ((src.drop off).take count).length = count := by
    rw [List.length_take, List.length_drop]
    omega
  rw [memcpy_ok inside fits, store, length]

end channel
section filter

variable {size n : Nat} {frame : AVFrame}

private abbrev StreamTracks (size n : Nat) (agrees : Streams → AWTContext → Prop) : AwtWorld → Prop :=
  blockStreams.Tracks (Reblocked size n) agrees

/-- What stays the same while a frame is worked off. -/
structure Passed (size n : Nat) (frame : AVFrame) (streams : Streams) (awt : AWTContext) : Prop where
  sized : awt.awtSize = size
  counted : awt.nbDecoder = n
  decoders : ∀ i < n, (awt.decoder i).isSome
  seen : streams.fresh = false
  samples : streams.samples = frame.nbSamples
  nonneg : 0 ≤ frame.nbSamples
  lengths : ∀ i < n, (streams.given i).length = streams.total

/-- At the start of a turn all channels stand at `off`, with `fill` samples held. -/
structure Turning (size n : Nat) (frame : AVFrame) (off fill : Nat) (streams : Streams) (awt : AWTContext) : Prop
    extends Passed size n frame streams awt where
  inside : off ≤ frame.nbSamples.toNat
  filled : awt.nbBuffer = fill
  total : (fill + (frame.nbSamples.toNat - off)) % size = streams.total % size
  room : fill < size
  channels : ∀ i < n, ∃ held, awt.buffer i = some held ∧
    Channel size frame off fill i (streams.given i) (streams.handed i) held

/-- In the copy loop the channels that are not in `items` hold their piece already. -/
structure Copying (size n : Nat) (frame : AVFrame) (off count fill : Nat) (items : List Nat) (streams : Streams)
    (awt : AWTContext) : Prop extends Passed size n frame streams awt where
  inside : off + count ≤ frame.nbSamples.toNat
  filled : awt.nbBuffer = fill
  total : (fill + (frame.nbSamples.toNat - off)) % size = streams.total % size
  fits : fill + count ≤ size
  least : fill + count < size → off + count = frame.nbSamples.toNat
  still : items <:+ List.range n
  channels : ∀ i < n, ∃ held, Channel size frame off fill i (streams.given i) (streams.handed i) held ∧
    awt.buffer i = some (if i ∈ items then held else store held fill (frame.piece off count i))

/-- In the decode loop the channels in `items` were not handed their block yet. -/
structure Handing (size n : Nat) (frame : AVFrame) (off : Nat) (items : List Nat) (streams : Streams)
    (awt : AWTContext) : Prop extends Passed size n frame streams awt where
  inside : off ≤ frame.nbSamples.toNat
  filled : awt.nbBuffer = 0
  total : (frame.nbSamples.toNat - off) % size = streams.total % size
  still : items <:+ List.range n
  channels : ∀ i < n, ∃ block, awt.buffer i = some block ∧
    Channel size frame off 0 i (streams.given i) (streams.handed i ++ if i ∈ items then [block] else []) block

variable {streams : Streams} {awt : AWTContext} {off fill count i : Nat} {items : List Nat}

theorem ready_iff : awt.ready size n ↔ awt.awtSize = size ∧ awt.nbDecoder = n ∧
    ∀ i < n, (awt.decoder i).isSome ∧ ∃ buffer, awt.buffer i = some buffer ∧ buffer.length = size := by
  simp only [AWTContext.ready, decide_eq_true_eq, List.all_eq_true, List.mem_range, Option.any_eq_true]

/-- With the whole frame consumed, what the buffers hold is the rest of the streams. -/
private theorem Passed.settle (passed : Passed size n frame streams awt) (filled : awt.nbBuffer = fill)
    (total : fill = streams.total % size) (channels : ∀ i < n, ∃ held, awt.buffer i = some held ∧
      Cuts size (streams.given i) (streams.handed i) held fill) : Settled size n streams awt where
  filled := by rw [filled, total]
  lengths := passed.lengths
  handed i inside := by
    obtain ⟨_, _, cuts⟩ := channels i inside
    exact cuts.blocks
  held i inside := by
    obtain ⟨held, same, cuts⟩ := channels i inside
    rw [same, filled, Option.getD_some, Int.toNat_natCast, cuts.held]
  ready _ := by
    refine ready_iff.mpr ⟨passed.sized, passed.counted, fun i inside => ⟨passed.decoders i inside, ?_⟩⟩
    obtain ⟨held, same, cuts⟩ := channels i inside
    exact ⟨held, same, cuts.length⟩
  unused fresh := absurd fresh (by simp [passed.seen])

private theorem Turning.settle (turning : Turning size n frame off fill streams awt)
    (done : frame.nbSamples.toNat ≤ off) : Settled size n streams awt := by
  have total := turning.total
  rw [Nat.sub_eq_zero_of_le done, Nat.add_zero, Nat.mod_eq_of_lt turning.room] at total
  apply turning.toPassed.settle turning.filled total
  intro i inside
  obtain ⟨held, same, channel⟩ := turning.channels i inside
  exact ⟨held, same, channel.finish done⟩

private theorem Turning.copying (turning : Turning size n frame off fill streams awt) (within : off < frame.nbSamples.toNat) :
    Copying size n frame off (min (size - fill) (frame.nbSamples.toNat - off)) fill (List.range n) streams awt := by
  have room := turning.room
  refine { turning with
    inside := by omega, fits := by omega, least := by omega, still := List.suffix_refl _, channels := ?_ }
  intro i inside
  obtain ⟨held, same, channel⟩ := turning.channels i inside
  exact ⟨held, channel, by rw [same, if_pos (List.mem_range.mpr inside)]⟩

/-- The copy for channel `i` succeeds and leaves the other channels alone. -/
private theorem Copying.copied (copying : Copying size n frame off count fill (i :: items) streams awt) :
    ∃ plane held, frame.extendedData[i]? = some plane ∧ awt.buffer i = some held ∧
      memcpy held fill plane off count = .ok (store held fill (frame.piece off count i)) ∧
      Copying size n frame off count fill items streams
        (awt.setBuffer i (some (store held fill (frame.piece off count i)))) := by
  obtain ⟨inside, absent⟩ := suffix_range copying.still
  obtain ⟨held, channel, same⟩ := copying.channels i inside
  obtain ⟨plane, consumed, found, long, _, cuts⟩ := channel.planes
  rw [if_pos (by simp)] at same
  have fits := copying.fits
  have range := copying.inside
  refine ⟨plane, held, found, same, ?_, ?_⟩
  · rw [AVFrame.piece, found, Option.getD_some]
    exact memcpy_store (by omega) (by rw [cuts.length]; exact fits)
  · refine { copying with still := (List.suffix_cons i items).trans copying.still, channels := ?_ }
    intro j bound
    by_cases other : j = i
    · subst other
      exact ⟨held, channel, by rw [if_neg absent, setBuffer_same]⟩
    · obtain ⟨held, channel, same⟩ := copying.channels j bound
      refine ⟨held, channel, ?_⟩
      rw [setBuffer_other _ other, same]
      simp [other]

private theorem Copying.settle (copying : Copying size n frame off count fill [] streams awt) (short : fill + count < size) :
    Settled size n streams { awt with nbBuffer := awt.nbBuffer + count } := by
  have all := copying.least short
  have total := copying.total
  rw [← all, Nat.add_sub_cancel_left, Nat.mod_eq_of_lt short] at total
  have passed : Passed size n frame streams { awt with nbBuffer := awt.nbBuffer + count } :=
    { copying.toPassed with }
  apply passed.settle _ total
  · intro i inside
    obtain ⟨held, channel, same⟩ := copying.channels i inside
    exact ⟨_, same, (channel.short copying.inside short).finish (by omega)⟩
  · simp [copying.filled]

private theorem Copying.handing (positive : 0 < size) (copying : Copying size n frame off count fill [] streams awt)
    (whole : fill + count = size) :
    Handing size n frame (off + count) (List.range n) streams { awt with nbBuffer := 0 } := by
  have total := copying.total
  have inside := copying.inside
  refine { copying.toPassed with
    inside := copying.inside, filled := rfl, total := ?_, still := List.suffix_refl _, channels := ?_ }
  · rw [← total, show fill + (frame.nbSamples.toNat - off) = size + (frame.nbSamples.toNat - (off + count)) by omega,
      Nat.add_mod_left]
  · intro i bound
    obtain ⟨held, channel, same⟩ := copying.channels i bound
    refine ⟨_, same, ?_⟩
    rw [if_pos (List.mem_range.mpr bound)]
    exact channel.complete positive inside whole

/-- The block of channel `i` is the next one of its stream. -/
private theorem Handing.handed (handing : Handing size n frame off (i :: items) streams awt) :
    i < n ∧ (awt.decoder i).isSome ∧ ∃ block, awt.buffer i = some block ∧
      streams.handed i ++ [block] <+: full size (streams.given i) ∧
      Handing size n frame off items (streams.hand i block) awt := by
  obtain ⟨inside, absent⟩ := suffix_range handing.still
  obtain ⟨block, same, channel⟩ := handing.channels i inside
  rw [if_pos (by simp)] at channel
  refine ⟨inside, handing.decoders i inside, block, same, ?_, ?_⟩
  · obtain ⟨_, consumed, _, _, given, cuts⟩ := channel.planes
    rw [cuts.blocks, given]
    exact full_prefix _ _ _
  · refine { handing with still := (List.suffix_cons i items).trans handing.still, channels := ?_ }
    intro j bound
    by_cases other : j = i
    · subst other
      refine ⟨block, same, ?_⟩
      rw [if_neg absent, List.append_nil, Streams.hand]
      simpa using channel
    · obtain ⟨block, same, channel⟩ := handing.channels j bound
      refine ⟨block, same, ?_⟩
      simpa [Streams.hand, Function.update_of_ne other, other] using channel

private theorem Handing.turning (positive : 0 < size) (handing : Handing size n frame off [] streams awt) :
    Turning size n frame off 0 streams awt := by
  refine { handing.toPassed with
    inside := handing.inside, filled := handing.filled, total := ?_, room := positive, channels := ?_ }
  · rw [Nat.zero_add, handing.total]
  · intro i inside
    obtain ⟨block, same, channel⟩ := handing.channels i inside
    exact ⟨block, same, by simpa using channel⟩

variable {fuel : Nat}

/-- No copy of `awt_filter_frame` goes wrong. -/
def Stop.notOfCopy : Stop → Bool
  | .fault (.missingPlane _) | .fault (.missingBuffer _) | .fault .negativeCount | .fault .readPastPlane
  | .fault .writePastBuffer => false
  | _ => true

private theorem notOfCopy_of_license {why : Stop} (license : why.ofLicense) : why.notOfCopy := by
  cases why with
  | timeout => rfl
  | fault why => cases why <;> first | rfl | cases license

/-- No turn halts: it only remains that the loop runs out of turns. -/
private def streamFilter (positive : 0 < size) (n : Nat) (frame : AVFrame) (halt : Stop → AwtWorld → Prop) :
    FilterOutline (ReadyForBlocks size n) n frame where
  head off world := ∃ start fill : Nat, off = start ∧ StreamTracks size n (Turning size n frame start fill) world
  copying off count items world := ∃ start moved fill : Nat, off = start ∧ count = moved ∧
    StreamTracks size n (Copying size n frame start moved fill items) world
  decoding off items world := ∃ start : Nat, off = start ∧ StreamTracks size n (Handing size n frame start items) world
  left ret world := ret = 0 ∧ StreamTracks size n (Settled size n) world
  halt := halt
  finish off world done := by
    rintro ⟨start, fill, rfl, turning⟩
    exact ⟨rfl, turning.weaken fun turning => turning.settle (by omega)⟩
  enter off world within := by
    rintro ⟨start, fill, rfl, turning⟩
    have sized := turning.agrees.sized
    have filled := turning.agrees.filled
    have room := turning.agrees.room
    refine ⟨start, min (size - fill) (frame.nbSamples.toNat - start), fill, rfl, by omega, ?_⟩
    exact turning.weaken fun turning => turning.copying (by omega)
  copy off count i rest world := by
    rintro ⟨start, moved, fill, rfl, rfl, copying⟩ answer _
    have filled := copying.agrees.filled
    have samples := copying.agrees.samples
    have nonneg := copying.agrees.nonneg
    have range := copying.agrees.inside
    have fits := copying.agrees.fits
    have bound := (suffix_range copying.agrees.still).1
    obtain ⟨plane, held, found, same, moves, next⟩ := copying.agrees.copied
    simp only [Copied, World.record_state, found, same, filled, moves]
    refine ⟨start, moved, fill, rfl, rfl, copying.store (fun _ => ?_) fun _ => next⟩
    exact ⟨bound, by omega, by omega, by omega, by omega, by omega⟩
  short off count world := by
    rintro ⟨start, moved, fill, rfl, rfl, copying⟩ partly
    refine ⟨rfl, copying.update fun copying => copying.settle ?_⟩
    have sized := copying.sized
    have filled := copying.filled
    omega
  full off count world := by
    rintro ⟨start, moved, fill, rfl, rfl, copying⟩ whole
    have sized := copying.agrees.sized
    have filled := copying.agrees.filled
    have fits := copying.agrees.fits
    refine ⟨start + moved, by simp, copying.update fun copying => copying.handing positive ?_⟩
    omega
  decode off i rest world := by
    rintro ⟨start, rfl, handing⟩ result zero
    have zero : result.ret = 0 := of_decide_eq_true zero
    obtain ⟨bound, present, block, same, next, _⟩ := handing.agrees.handed
    have handed : StreamTracks size n (Handing size n frame start rest)
        (world.record (.awt5DecodeStreamBuffer i (world.state.decoder i) (world.state.buffer i)) result) :=
      handing.record (fun _ => ⟨bound, present, block, same, next⟩) fun handing => by
        obtain ⟨_, _, other, again, _, after⟩ := handing.handed
        change Handing size n frame start rest (Streams.hand _ i ((world.state.buffer i).getD [])) world.state
        rw [again]
        exact after
    simp only [zero, ne_eq, not_true, if_false]
    split
    · exact ⟨start, rfl, handed⟩
    · intro stop continues
      have continues : stop = (0 : Int) := of_decide_eq_true continues
      rw [if_neg (not_not.mpr continues)]
      refine ⟨start, rfl, ?_⟩
      refine (handed.update fun handing => ?_).record (fun _ => trivial) id
      exact { handing with }
  again off world := by
    rintro ⟨start, rfl, handing⟩
    exact ⟨start, 0, rfl, handing.weaken fun handing => handing.turning positive⟩

end filter

section session

variable {size n fuel : Nat} {law : Law} {agrees : Streams → AWTContext → Prop} {world : AwtWorld}

/-- The calls between which everything is at rest. -/
private def Call.rests : Call → Bool
  | .avBuffersinkGetFrame | .awt5DecodeStreamBuffer _ _ _ | .mark (.setup _) | .memcpy _ _ _ _ | .callback _ _ _ _ => false
  | _ => true

private theorem rests_unseen {call : Call} (rests : Call.rests call) (streams : Streams) (awt : AWTContext)
    (answer : Answer call) (atRest : AtRest size n streams awt) :
    blockStreams.step streams ⟨awt, call, answer⟩ = streams ∧ Reblocked size n streams ⟨awt, call, answer⟩ := by
  cases call with
  | mark mark => cases mark <;> first | exact ⟨rfl, atRest⟩ | cases rests
  | _ => first | exact ⟨rfl, atRest⟩ | cases rests

private theorem StreamTracks.ignores (resting : ∀ {streams awt}, agrees streams awt → AtRest size n streams awt) :
    Ignores law (fun call => Call.rests call) (StreamTracks size n agrees) :=
  Observer.Tracks.ignores fun streams awt call answer rests holds => by
    obtain ⟨same, kept⟩ := rests_unseen rests streams awt answer (resting holds)
    exact ⟨kept, by rwa [same]⟩

private theorem rests_of_steady {call : Call} (steady : call.steady) : Call.rests call := by
  cases call with
  | mark mark => cases mark <;> first | rfl | cases steady
  | _ => first | rfl | cases steady

private theorem rests_of_ofSetup {call : Call} (part : call.ofSetup) : Call.rests call := by
  cases call with
  | mark mark => cases mark <;> first | rfl | cases part
  | _ => first | rfl | cases part

private theorem settled_blocks {streams : Streams} {awt next : AWTContext} (same : next.blocks = awt.blocks)
    (settled : Settled size n streams awt) : Settled size n streams next := by
  obtain ⟨decoder, counted, buffer, filled, sized⟩ := blocks_eq.mp same
  constructor
  · exact ⟨by rw [filled, settled.filled], settled.lengths, settled.handed, by rw [buffer, filled]; exact settled.held⟩
  · rw [AWTContext.ready, decoder, counted, buffer, sized]
    exact settled.ready
  · exact settled.unused

/-- Nothing was cut for any channel, so the buffers may be replaced. -/
private structure Unset (size n : Nat) (streams : Streams) (awt : AWTContext) : Prop extends AtRest size n streams awt where
  unused : streams.total = 0 ∨ n = 0

private theorem Settled.unset {streams : Streams} {awt : AWTContext} (settled : Settled size n streams awt)
    (none : awt.nbDecoder = 0) : Unset size n streams awt := by
  refine ⟨settled.toAtRest, ?_⟩
  cases fresh : streams.fresh with
  | true => exact settled.unused fresh
  | false =>
    have ready := ready_iff.mp (settled.ready fresh)
    omega

private theorem unset_fields : Frames AWTContext.outsideSetup (StreamTracks size n (Unset size n)) := by
  apply tracks_frames
  intro streams awt next same unset
  have filled : next.nbBuffer = awt.nbBuffer := congrArg Prod.fst same
  refine ⟨⟨by rw [filled, unset.filled], unset.lengths, unset.handed, fun i inside => ?_⟩, unset.unused⟩
  have empty : streams.total = 0 := unset.unused.resolve_right (by omega)
  have nothing : awt.nbBuffer = 0 := by simp [unset.filled, empty]
  rw [← unset.held i inside, filled, nothing]
  simp

/-- The frame that comes from the graph is added to the streams before it is cut. -/
private theorem Settled.turning {streams : Streams} {awt : AWTContext} (positive : 0 < size)
    (settled : Settled size n streams awt) {frame : AVFrame} (fresh : streams.fresh → awt.ready size n)
    (planes : frame.planesFor n) : Turning size n frame 0 (streams.total % size) (streams.pass frame) awt := by
  have ready : awt.ready size n := by
    cases seen : streams.fresh with
    | true => exact fresh seen
    | false => exact settled.ready seen
  obtain ⟨sized, counted, channels⟩ := ready_iff.mp ready
  simp only [AVFrame.planesFor, decide_eq_true_eq, List.all_eq_true, List.mem_range, Option.any_eq_true] at planes
  obtain ⟨nonneg, planes⟩ := planes
  constructor
  · refine ⟨sized, counted, fun i inside => (channels i inside).1, rfl, rfl, nonneg, fun i inside => ?_⟩
    obtain ⟨plane, found, long⟩ := planes i inside
    simp only [Streams.pass, found, Option.getD_some, List.length_append, settled.lengths i inside, List.length_take]
    omega
  · exact Nat.zero_le _
  · exact settled.filled
  · simp [Streams.pass]
  · exact Nat.mod_lt _ positive
  · intro i inside
    obtain ⟨plane, found, long⟩ := planes i inside
    obtain ⟨_, held, same, length⟩ := channels i inside
    have rest := settled.held i inside
    rw [same, settled.filled, Option.getD_some, Int.toNat_natCast] at rest
    refine ⟨held, same, plane, streams.given i, found, long, ?_, settled.handed i inside, ?_, length, rest⟩
    · simp [Streams.pass, found]
    · rw [settled.lengths i inside]

private theorem StreamTracks.passed (positive : 0 < size) (holds : StreamTracks size n (Settled size n) world)
    {result : FrameResult} (passed : ¬ result.code.val < 0)
    (ready : ReadyForBlocks size n world.trace ⟨world.state, .avBuffersinkGetFrame, result⟩) :
    StreamTracks size n (Turning size n result.frame 0 ((blockStreams.seen world.trace).total % size))
      (world.record .avBuffersinkGetFrame result) := by
  obtain ⟨fresh, planes⟩ := of_decide_eq_true ready passed
  refine holds.record id fun settled => ?_
  simpa only [blockStreams, if_neg passed] using settled.turning positive fresh planes

/-- With room in the block at every turn no frame keeps the loop from its end. -/
private theorem frames_return (positive : 0 < size) {trace : History} (ready : Lawful (ReadyForBlocks size n) trace)
    (kept : Lawful (blockStreams.law (Reblocked size n)) trace) : Lawful (FramesReturn size n) trace := by
  intro past event rest same
  have settled := kept past event rest same
  have lawful := ready past event rest same
  obtain ⟨awt, call, answer⟩ := event
  cases call with
  | avBuffersinkGetFrame =>
    intro passed oracle fuel enough executed answered
    have before : StreamTracks size n (Settled size n) ⟨awt, past⟩ := ⟨kept.earlier ⟨_, same.symm⟩, settled⟩
    have turning := before.passed positive passed lawful
    have room (off : Int) (world : AwtWorld)
        (head : (streamFilter positive n answer.frame fun _ _ => False).head off world) :
        world.state.nbBuffer < world.state.awtSize := by
      obtain ⟨start, fill, -, turning⟩ := head
      rw [turning.agrees.filled, turning.agrees.sized]
      exact Int.ofNat_lt.mpr turning.agrees.room
    have ends := (streamFilter positive n answer.frame fun _ _ => False).sound_within room fuel enough
      turning.agrees.counted ⟨0, _, rfl, turning⟩ oracle answered
    rcases ran : (awtFilterFrame fuel answer.frame).run oracle (World.record ⟨awt, past⟩ .avBuffersinkGetFrame answer)
      with ⟨ret | why, final⟩ <;> rw [ran] at ends
    · obtain ⟨rfl, settled⟩ := ends
      rw [show executed = (.done 0, final) from ran]
      exact ⟨rfl, settled.agrees.toAtRest⟩
    · exact ends.elim
  | _ => trivial

private def streamOutline (positive : 0 < size) (n fuel : Nat) : BlockOutline (ReadyForBlocks size n) fuel :=
  have rests : Ignores (ReadyForBlocks size n) (fun call => Call.rests call) (StreamTracks size n (Settled size n)) :=
    StreamTracks.ignores fun settled => settled.toAtRest
  have steady : Ignores (ReadyForBlocks size n) (fun call : Call => call.steady) (StreamTracks size n (Settled size n)) :=
    rests.narrow fun _ => rests_of_steady
  have fields : Frames AWTContext.blocks (StreamTracks size n (Settled size n)) :=
    tracks_frames fun _ _ _ => settled_blocks
  { idle := StreamTracks size n (Settled size n)
    opened _ := StreamTracks size n (Settled size n)
    looping := StreamTracks size n (Settled size n)
    filtering frame := fun world => ∃ fill, StreamTracks size n (Turning size n frame 0 fill) world
    halt why world := why.notOfCopy ∧ Lawful (blockStreams.law (Reblocked size n)) world.trace
    idle_calls := steady
    opened_calls _ := steady
    looping_calls := steady
    idle_fields := fields
    opened_fields _ := fields
    looping_fields := fields
    opened_left _ _ holds := holds
    looping_left _ holds := holds
    crash _ holds := ⟨rfl, holds.kept⟩
    expired _ holds := ⟨rfl, holds.kept⟩
    opens _ world holds := rests _ rfl world holds
    setup filePath input world holds := by
      apply Meets.get_bind
      split
      · apply Meets.ret
        rw [if_neg (by decide)]
        exact rests _ rfl world holds
      next unset =>
        have kept : StreamTracks size n (Unset size n) world :=
          holds.weaken fun settled => settled.unset (not_not.mp unset)
        have calls : Ignores (ReadyForBlocks size n) (fun call : Call => call.ofSetup) (StreamTracks size n (Unset size n)) :=
          (StreamTracks.ignores fun unset => unset.toAtRest).narrow fun _ => rests_of_ofSetup
        apply Meets.seq (awtSetup_keeps calls unset_fields _ fuel _ kept) _
        · exact fun why _ license holds => ⟨notOfCopy_of_license license, holds.kept⟩
        intro ret world kept
        apply Meets.call_bind
        intro _ _
        apply Meets.ret
        have again : StreamTracks size n (Settled size n) (world.record (.mark (.setup ret)) ()) :=
          kept.record (fun unset => unset.toAtRest) fun unset =>
            ⟨⟨unset.filled, unset.lengths, unset.handed, unset.held⟩, by simp [blockStreams], fun _ => unset.unused⟩
        split
        · exact again
        · exact rests _ rfl _ again
    sink world holds := by
      intro result ready
      split
      next failed =>
        refine holds.record id fun settled => ?_
        simpa only [blockStreams, if_pos failed] using settled
      next passed => exact ⟨_, holds.passed positive passed ready⟩
    filter frame world holds := by
      obtain ⟨fill, turning⟩ := holds
      apply ((streamFilter positive n frame _).sound _ fuel turning.agrees.counted ⟨0, fill, rfl, turning⟩).imp _
      · intro off world ⟨_, _, _, turning⟩
        exact ⟨rfl, turning.kept⟩
      · rintro ret world ⟨rfl, settled⟩
        exact settled }

/-- In any session every frame is worked off, between two frames every decoder was handed
exactly the full blocks of its channel, and no copy left the plane or the buffer. -/
theorem reblocking_exact {size : Nat} (positive : 0 < size) (n : Nat) (oracle : Oracle Surroundings AWTContext)
    (fuel : Nat) {awt : AWTContext} (empty : awt.nbBuffer = 0) (requests : List Request)
    (ready : Lawful (ReadyForBlocks size n) ((Session.opened awt).run oracle fuel requests).trace) :
    Lawful (blockStreams.law (Reblocked size n)) ((Session.opened awt).run oracle fuel requests).trace ∧
      Lawful (FramesReturn size n) ((Session.opened awt).run oracle fuel requests).trace ∧
      ∀ why, ((Session.opened awt).run oracle fuel requests).stuck = some why → why.notOfCopy := by
  have start : StreamTracks size n (Settled size n) ⟨awt, []⟩ := by
    refine Observer.Tracks.init awt ⟨⟨?_, fun _ _ => rfl, fun _ _ => ?_, fun _ _ => ?_⟩, ?_, fun _ => Or.inl rfl⟩
    · simp [blockStreams, empty]
    · simp [blockStreams, full]
    · simp [blockStreams, rest, empty]
    · simp [blockStreams]
  have close (world : AwtWorld) (idle : StreamTracks size n (Settled size n) world) :
      Meets (ReadyForBlocks size n) closeContext
        (fun _ world => Lawful (blockStreams.law (Reblocked size n)) world.trace)
        (streamOutline positive n fuel).halt world := by
    have resting : StreamTracks size n (AtRest size n) world := idle.weaken fun settled => settled.toAtRest
    apply (closeContext_keeps _ _ resting).imp _
    · apply (StreamTracks.ignores id).narrow
      intro call part
      cases call <;> first | rfl | cases part
    · exact fun _ holds => holds.update fun resting => { resting with }
    · exact fun _ _ closed => closed.kept
  have ends := (streamOutline positive n fuel).runs.holds (fun _ _ idle => idle) close oracle requests start ready
  suffices whole : Lawful (blockStreams.law (Reblocked size n)) ((Session.opened awt).run oracle fuel requests).trace ∧
      ∀ why, ((Session.opened awt).run oracle fuel requests).stuck = some why → why.notOfCopy from
    ⟨whole.1, frames_return positive ready whole.1, whole.2⟩
  apply ends.outcome fun stuck trace =>
    Lawful (blockStreams.law (Reblocked size n)) trace ∧ ∀ why, stuck = some why → why.notOfCopy
  · exact fun _ idle => ⟨idle.kept, fun _ none => by cases none⟩
  · exact fun _ kept => ⟨kept, fun _ none => by cases none⟩
  · rintro why world ⟨notCopy, kept⟩
    exact ⟨kept, fun other same => by cases same; exact notCopy⟩

/-- Two files of one frame each: its three samples do not fill whole blocks. -/
def threeSamples : Script where
  packets _ := [⟨0, 0⟩]
  yields _ := [pcmFrame 44100 [[1, 2, 3], [4, 5, 6]]]

theorem three_samples_reblocked :
    let session := threeSamples.session (awtOpen 44100 1 1 1 0) [.exec "a", .exec "b", .close]
    Lawful (blockStreams.law (Reblocked 2 2)) session.trace ∧ Lawful (FramesReturn 2 2) session.trace ∧
      ∀ why, session.stuck = some why → why.notOfCopy :=
  reblocking_exact (by decide) 2 _ _ rfl _ (by decide +kernel)

end session
end Awt
