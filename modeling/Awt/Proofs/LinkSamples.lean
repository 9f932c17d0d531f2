import Awt.Graph.Filter
import Awt.Proofs.FrameQueue
import Awt.Proofs.Rescale

/-! A filter that wants its samples in blocks gets those of the frames on its link, each of
them once and in their order, however the frames are joined and cut. -/

namespace Awt.Graph

/-- A frame with samples, as many in each plane as it says. -/
structure Whole (channels : Nat) (frame : AVFrame) : Prop where
  positive : 0 < frame.nbSamples
  planes : frame.extendedData.length = channels
  samples : ∀ plane ∈ frame.extendedData, (plane.length : Int) = frame.nbSamples

def track (c : Nat) (frame : AVFrame) : List CFloat := frame.extendedData.getD c []

/-- What is on a channel of the frames. -/
def tracks (c : Nat) (frames : List AVFrame) : List CFloat := frames.flatMap (track c)

variable {channels c : Nat} {frame : AVFrame} {frames more : List AVFrame}

@[simp] theorem tracks_nil : tracks c [] = [] := rfl

@[simp] theorem tracks_cons : tracks c (frame :: frames) = track c frame ++ tracks c frames := rfl

@[simp] theorem tracks_append : tracks c (frames ++ more) = tracks c frames ++ tracks c more := List.flatMap_append

theorem Whole.length_track (whole : Whole channels frame) (within : c < channels) : ((track c frame).length : Int) = frame.nbSamples := by
  have inside : c < frame.extendedData.length := by rw [whole.planes]; exact within
  rw [track, ← List.getElem_eq_getD (h := inside)]
  exact whole.samples _ (List.getElem_mem inside)

theorem samplesIn_nonneg (whole : ∀ frame ∈ frames, Whole channels frame) : 0 ≤ samplesIn frames := by
  induction frames with
  | nil => exact Int.le_refl 0
  | cons frame frames ih =>
    obtain ⟨first, others⟩ := List.forall_mem_cons.mp whole
    have rest := ih others
    have positive := first.positive
    rw [samplesIn_cons]
    omega

theorem length_tracks (whole : ∀ frame ∈ frames, Whole channels frame) (within : c < channels) :
    ((tracks c frames).length : Int) = samplesIn frames := by
  induction frames with
  | nil => rfl
  | cons frame frames ih =>
    obtain ⟨first, others⟩ := List.forall_mem_cons.mp whole
    rw [tracks_cons, List.length_append, Int.natCast_add, first.length_track within, ih others, samplesIn_cons]

namespace AVFilterLink

/-- A buffer for `nbSamples` samples that has those of some frames at its start. -/
structure Filled (channels : Nat) (nbSamples : Int) (done : List AVFrame) (buf : AVFrame) : Prop where
  planes : buf.extendedData.length = channels
  samples : ∀ c < channels, track c buf = tracks c done ++ List.replicate (nbSamples - samplesIn done).toNat 0

theorem track_copy {dst src : AVFrame} (dstPlanes : dst.extendedData.length = channels) (srcPlanes : src.extendedData.length = channels)
    (offset count : Int) (within : c < channels) :
    track c (avSamplesCopy dst src offset count) =
      (track c dst).take offset.toNat ++ (track c src).take count.toNat ++ (track c dst).drop (offset + count).toNat := by
  have inside : c < dst.extendedData.length := by omega
  have inside' : c < src.extendedData.length := by omega
  simp [track, avSamplesCopy, List.getD_eq_getElem?_getD, inside, inside']

/-- Samples are copied behind those that are there. -/
theorem Filled.copy {nbSamples count : Int} {done : List AVFrame} {buf : AVFrame} (filled : Filled channels nbSamples done buf)
    (whole : ∀ frame ∈ done, Whole channels frame) (planes : frame.extendedData.length = channels) (positive : 0 ≤ count)
    (fits : samplesIn done + count ≤ nbSamples) (within : c < channels) :
    track c (avSamplesCopy buf frame (samplesIn done) count) =
      tracks c done ++ (track c frame).take count.toNat ++ List.replicate (nbSamples - (samplesIn done + count)).toNat 0 := by
  have length := length_tracks whole within
  have start : (samplesIn done).toNat = (tracks c done).length := by omega
  have stop : (samplesIn done + count).toNat = (tracks c done).length + count.toNat := by omega
  have rest : (nbSamples - samplesIn done).toNat - count.toNat = (nbSamples - (samplesIn done + count)).toNat := by omega
  rw [track_copy filled.planes planes _ _ within, filled.samples c within, start, stop, List.take_left, List.drop_append,
    List.drop_replicate, Nat.add_sub_cancel_left, rest]
  simp

/-- The loop that copies whole frames. -/
theorem copyFrames_fills {nbSamples : Int} {done took left : List AVFrame} {fifo : FFFrameQueue} {buf : AVFrame}
    (sound : fifo.Sound (took ++ left)) (filled : Filled channels nbSamples done buf)
    (whole : ∀ frame ∈ done ++ took, Whole channels frame) (fits : samplesIn (done ++ took) ≤ nbSamples) :
    ∃ fifo' buf', copyFrames took.length fifo buf (samplesIn done) = some (fifo', buf', samplesIn (done ++ took)) ∧
      fifo'.Sound left ∧ Filled channels nbSamples (done ++ took) buf' ∧ buf'.nbSamples = buf.nbSamples ∧ buf'.pts = buf.pts := by
  induction took generalizing done fifo buf with
  | nil => exact ⟨fifo, buf, by simp [copyFrames], sound, by simpa using filled, rfl, rfl⟩
  | cons frame took ih =>
    obtain ⟨fifo', takes, sound', -, -⟩ := FFFrameQueue.Sound.take sound
    have own : Whole channels frame := whole frame (by simp)
    have before : ∀ frame ∈ done, Whole channels frame := fun frame member => whole frame (by simp [member])
    have later : ∀ frame ∈ took, Whole channels frame := fun frame member => whole frame (by simp [member])
    have total : samplesIn (done ++ frame :: took) = samplesIn done + frame.nbSamples + samplesIn took := by
      rw [samplesIn_append, samplesIn_cons]
      omega
    have room : samplesIn done + frame.nbSamples ≤ nbSamples := by
      have rest := samplesIn_nonneg later
      omega
    have positive := own.positive
    have split : done ++ frame :: took = (done ++ [frame]) ++ took := by simp
    have sum : samplesIn (done ++ [frame]) = samplesIn done + frame.nbSamples := by rw [samplesIn_append, samplesIn_cons, samplesIn_nil]; omega
    have filled' : Filled channels nbSamples (done ++ [frame]) (avSamplesCopy buf frame (samplesIn done) frame.nbSamples) := by
      refine ⟨?_, ?_⟩
      · simp [avSamplesCopy, filled.planes, own.planes]
      · intro c within
        have long := own.length_track within
        rw [filled.copy before own.planes (by omega) room within, sum, tracks_append, tracks_cons, tracks_nil,
          List.append_nil, List.take_of_length_le (by omega)]
    rw [split] at whole fits ⊢
    obtain ⟨fifo'', buf'', copies, sound'', filled'', samples, pts⟩ := ih sound' filled' whole fits
    refine ⟨fifo'', buf'', ?_, sound'', filled'', samples, pts⟩
    rw [sum] at copies
    simpa [copyFrames, takes] using copies

private theorem samplesIn_take {k : Nat} (next : frames[k]? = some frame) :
    samplesIn (frames.take (k + 1)) = samplesIn (frames.take k) + frame.nbSamples := by
  rw [List.take_add_one, next, samplesIn_append]
  simp

/-- What the loop that measures comes to: all frames, or those before one that is too long. -/
theorem measure_stops {fifo : FFFrameQueue} (sound : fifo.Sound frames) (min max : Int) {fuel nbFrames : Nat}
    (here : frames[nbFrames]? = some frame) (left : frames.length = nbFrames + fuel) (less : samplesIn (frames.take nbFrames) ≤ max) :
    ∃ nbSamples k, measure fifo min max fuel frame (samplesIn (frames.take nbFrames)) nbFrames = some (nbSamples, k) ∧
      k ≤ frames.length ∧ samplesIn (frames.take k) ≤ max ∧
      (k = frames.length ∧ nbSamples = samplesIn (frames.take k) ∨
        ∃ next, frames[k]? = some next ∧ max < samplesIn (frames.take k) + next.nbSamples ∧
          nbSamples = if samplesIn (frames.take k) < min then max else samplesIn (frames.take k)) := by
  induction fuel generalizing nbFrames frame with
  | zero =>
    obtain ⟨inside, -⟩ := List.getElem?_eq_some_iff.mp here
    omega
  | succ fuel ih =>
    have sum := samplesIn_take here
    rw [measure]
    by_cases long : samplesIn (frames.take nbFrames) + frame.nbSamples > max
    · rw [if_pos long]
      exact ⟨_, nbFrames, rfl, by omega, less, .inr ⟨frame, here, long, rfl⟩⟩
    · rw [if_neg long, show fifo.ffFramequeueQueuedFrames = frames.length from sound.queued]
      by_cases last : nbFrames + 1 = frames.length
      · rw [if_pos last]
        exact ⟨_, nbFrames + 1, rfl, by omega, by omega, .inl ⟨last, by rw [sum]⟩⟩
      · rw [if_neg last]
        have inside : nbFrames + 1 < frames.length := by omega
        have next : frames[nbFrames + 1]? = some frames[nbFrames + 1] := List.getElem?_eq_getElem inside
        have rest := ih next (by omega) (by omega)
        rw [sum] at rest
        simpa only [sound.peek next, Option.bind_eq_bind, Option.bind_some] using rest

/-- What `ff_framequeue_skip_samples` leaves of a frame. -/
private theorem skipped_whole {rest : AVFrame} {samples : Nat} {timeBase : Lavu.AVRational} (whole : Whole channels frame)
    (less : (samples : Int) < frame.nbSamples) (cut : FFFrameQueue.skipped frame samples timeBase = some rest) :
    Whole channels rest ∧ ∀ c < channels, (track c frame).take samples ++ track c rest = track c frame := by
  obtain ⟨pts, -, made⟩ := Option.bind_eq_some_iff.mp cut
  cases made
  refine ⟨⟨?_, ?_, ?_⟩, ?_⟩
  · dsimp only
    omega
  · simpa using whole.planes
  · intro plane member
    obtain ⟨before, inside, rfl⟩ := List.mem_map.mp member
    have length := whole.samples before inside
    dsimp only
    rw [List.length_drop]
    omega
  · intro c within
    have inside : c < frame.extendedData.length := by rw [whole.planes]; exact within
    have drops : track c { frame with pts, nbSamples := frame.nbSamples - samples, extendedData := frame.extendedData.map (·.drop samples) } =
        (track c frame).drop samples := by
      simp [track, List.getD_eq_getElem?_getD, inside]
    exact (congrArg _ drops).trans (List.take_append_drop samples (track c frame))

private theorem whole_of_tracks {buf : AVFrame} (positive : 0 < buf.nbSamples) (planes : buf.extendedData.length = channels)
    (long : ∀ c < channels, ((track c buf).length : Int) = buf.nbSamples) : Whole channels buf := by
  refine ⟨positive, planes, ?_⟩
  intro plane member
  obtain ⟨c, inside, rfl⟩ := List.getElem_of_mem member
  have length := long c (by omega)
  rwa [track, ← List.getElem_eq_getD (h := inside)] at length

/-- A buffer that is full has the samples of its frames and nothing else. -/
theorem Filled.full {nbSamples : Int} {done : List AVFrame} {buf : AVFrame} (filled : Filled channels nbSamples done buf)
    (whole : ∀ frame ∈ done, Whole channels frame) (size : buf.nbSamples = nbSamples) (positive : 0 < nbSamples)
    (full : samplesIn done = nbSamples) : Whole channels buf ∧ ∀ c < channels, track c buf = tracks c done := by
  have same : ∀ c < channels, track c buf = tracks c done := by
    intro c within
    rw [filled.samples c within, full]
    simp
  refine ⟨whole_of_tracks (by omega) filled.planes ?_, same⟩
  intro c within
  rw [same c within, length_tracks whole within]
  omega

/-- A buffer that the start of another frame fills. -/
theorem Filled.cut {count : Int} {done : List AVFrame} {buf rest : AVFrame} {timeBase : Lavu.AVRational}
    (filled : Filled channels (samplesIn done + count) done buf) (whole : ∀ frame ∈ done, Whole channels frame)
    (size : buf.nbSamples = samplesIn done + count) (wholeNext : Whole channels frame) (positive : 0 < count)
    (less : count < frame.nbSamples) (cut : FFFrameQueue.skipped frame count.toNat timeBase = some rest) :
    Whole channels (avSamplesCopy buf frame (samplesIn done) count) ∧ Whole channels rest ∧
      ∀ c < channels, track c (avSamplesCopy buf frame (samplesIn done) count) ++ track c rest = tracks c done ++ track c frame := by
  obtain ⟨wholeRest, parts⟩ := skipped_whole wholeNext (by omega) cut
  have copied : ∀ c < channels, track c (avSamplesCopy buf frame (samplesIn done) count) =
      tracks c done ++ (track c frame).take count.toNat := by
    intro c within
    rw [filled.copy whole wholeNext.planes (by omega) (by omega) within, Int.sub_self]
    simp
  have nonneg := samplesIn_nonneg whole
  refine ⟨whole_of_tracks ?_ ?_ ?_, wholeRest, ?_⟩
  · change 0 < buf.nbSamples
    omega
  · simp [avSamplesCopy, filled.planes, wholeNext.planes]
  · intro c within
    have first := length_tracks whole within
    have second := wholeNext.length_track within
    rw [copied c within, List.length_append, List.length_take]
    change _ = buf.nbSamples
    omega
  · intro c within
    rw [copied c within, List.append_assoc, parts c within]

theorem ffGetAudioBuffer_filled (link : AVFilterLink) (nbSamples : Int) (pts : Option Int) (sampleRate : Int) :
    Filled link.channels.toNat nbSamples [] { link.ffGetAudioBuffer nbSamples with pts, sampleRate } := by
  refine ⟨by simp [ffGetAudioBuffer], ?_⟩
  intro c within
  simp [track, ffGetAudioBuffer, List.getD_eq_getElem?_getD, within]

/-- `take_samples` hands on the first samples of the frames, in a block within the bounds,
and leaves the others. -/
theorem takeSamples_keeps {link : AVFilterLink} (sound : link.fifo.Sound frames) (busy : frames ≠ [])
    (whole : ∀ frame ∈ frames, Whole link.channels.toNat frame) {min max : Int} (positive : 0 < min) (order : min ≤ max)
    (enough : min ≤ samplesIn frames) {timed : AVFrame → Prop} (times : ∀ frame ∈ frames, timed frame)
    (cuts : ∀ frame (samples : Nat), timed frame → samples < frame.nbSamples →
      ∃ rest, FFFrameQueue.skipped frame samples link.timeBase = some rest ∧ timed rest) :
    ∃ block rest fifo, link.takeSamples min max = some (block, { link with fifo }) ∧ fifo.Sound rest ∧
      Whole link.channels.toNat block ∧ (∀ frame ∈ rest, Whole link.channels.toNat frame ∧ timed frame) ∧
      (∀ c < link.channels.toNat, track c block ++ tracks c rest = tracks c frames) ∧
      block.nbSamples + samplesIn rest = samplesIn frames ∧ min ≤ block.nbSamples ∧ block.nbSamples ≤ max := by
  obtain ⟨frame0, others, rfl⟩ := List.exists_cons_of_ne_nil busy
  have head : link.fifo.ffFramequeuePeek 0 = some frame0 := sound.peek rfl
  obtain ⟨own, later⟩ := List.forall_mem_cons.mp whole
  by_cases alone : ¬link.fifo.samplesSkipped ∧ min ≤ frame0.nbSamples ∧ frame0.nbSamples ≤ max
  · obtain ⟨fifo, takes, sound', -, -⟩ := sound.take
    refine ⟨frame0, others, fifo, ?_, sound', own, ?_, fun c _ => rfl, rfl, alone.2⟩
    swap
    · exact fun frame member => ⟨later frame member, times frame (List.mem_cons_of_mem _ member)⟩
    simp only [takeSamples, head, Option.bind_eq_bind, Option.bind_some, if_pos alone, takes, Option.pure_def]
  · have start : (frame0 :: others)[0]? = some frame0 := rfl
    obtain ⟨nbSamples, k, measures, inside, less, outcome⟩ :=
      measure_stops sound min max start (Nat.zero_add _).symm (by simp; omega)
    have joined : (frame0 :: others).take k ++ (frame0 :: others).drop k = frame0 :: others := List.take_append_drop k _
    have wholeTook : ∀ frame ∈ (frame0 :: others).take k, Whole link.channels.toNat frame :=
      fun frame member => whole frame (List.mem_of_mem_take member)
    have wholeLeft : ∀ frame ∈ (frame0 :: others).drop k, Whole link.channels.toNat frame :=
      fun frame member => whole frame (List.mem_of_mem_drop member)
    have length : ((frame0 :: others).take k).length = k := List.length_take_of_le inside
    have bounds : samplesIn ((frame0 :: others).take k) ≤ nbSamples ∧ min ≤ nbSamples ∧ nbSamples ≤ max := by
      rcases outcome with ⟨all, rfl⟩ | ⟨next, -, -, rfl⟩
      · rw [all, List.take_length] at less ⊢
        exact ⟨Int.le_refl _, enough, less⟩
      · split <;> omega
    obtain ⟨fits, least, most⟩ := bounds
    have split : link.fifo.Sound ((frame0 :: others).take k ++ (frame0 :: others).drop k) := by rw [joined]; exact sound
    obtain ⟨fifo, buf, copies, sound', filled, size, -⟩ :=
      copyFrames_fills split (ffGetAudioBuffer_filled link nbSamples frame0.pts frame0.sampleRate) (by simpa using wholeTook)
        (by simpa using fits)
    rw [length, samplesIn_nil, List.nil_append] at copies
    rw [List.nil_append] at filled
    have size : buf.nbSamples = nbSamples := size
    have takes : link.takeSamples min max = (if samplesIn ((frame0 :: others).take k) < nbSamples then do
        let frame ← fifo.ffFramequeuePeek 0
        let fifo ← fifo.ffFramequeueSkipSamples (nbSamples - samplesIn ((frame0 :: others).take k)).toNat link.timeBase
        return (avSamplesCopy buf frame (samplesIn ((frame0 :: others).take k)) (nbSamples - samplesIn ((frame0 :: others).take k)),
          { link with fifo })
        else some (buf, { link with fifo })) := by
      have count : link.fifo.ffFramequeueQueuedFrames = (frame0 :: others).length := sound.queued
      have measures : measure link.fifo min max (frame0 :: others).length frame0 0 0 = some (nbSamples, k) := measures
      simp only [takeSamples, head, Option.bind_eq_bind, Option.bind_some, if_neg alone, count, measures, copies, Option.pure_def]
    by_cases short : samplesIn ((frame0 :: others).take k) < nbSamples
    · obtain ⟨-, all⟩ | ⟨next, here, long, chosen⟩ := outcome
      · omega
      · have few : samplesIn ((frame0 :: others).take k) < min := by
          by_contra many
          rw [if_neg many] at chosen
          omega
        rw [if_pos few] at chosen
        obtain ⟨lower, found⟩ := List.getElem?_eq_some_iff.mp here
        have left : (frame0 :: others).drop k = next :: (frame0 :: others).drop (k + 1) := by rw [List.drop_eq_getElem_cons lower, found]
        rw [left] at sound' wholeLeft joined
        obtain ⟨wholeNext, wholeMore⟩ := List.forall_mem_cons.mp wholeLeft
        obtain ⟨rest, cut, restTimed⟩ := cuts next (nbSamples - samplesIn ((frame0 :: others).take k)).toNat
          (times next (List.mem_of_getElem? here)) (by omega)
        obtain ⟨fifo', skips, sound'', -, -⟩ := sound'.skip cut
        have peeked : fifo.ffFramequeuePeek 0 = some next := sound'.peek rfl
        have exact : samplesIn ((frame0 :: others).take k) + (nbSamples - samplesIn ((frame0 :: others).take k)) = nbSamples := by omega
        obtain ⟨wholeBlock, wholeRest, same⟩ := Filled.cut (by rw [exact]; exact filled) wholeTook (by rw [exact]; exact size) wholeNext
          (by omega) (by omega) cut
        refine ⟨_, rest :: (frame0 :: others).drop (k + 1), fifo', by rw [takes, if_pos short]; simp [peeked, skips], sound'', wholeBlock,
          List.forall_mem_cons.mpr ⟨⟨wholeRest, restTimed⟩, ?_⟩, ?_, ?_, ?_, ?_⟩
        · exact fun frame member => ⟨wholeMore frame member, times frame (List.mem_of_mem_drop member)⟩
        · intro c within
          rw [tracks_cons, ← List.append_assoc, same c within, List.append_assoc, ← tracks_cons, ← tracks_append, joined]
        · have shorter := FFFrameQueue.skipped_nbSamples cut
          have sum := congrArg samplesIn joined
          rw [samplesIn_append, samplesIn_cons] at sum
          rw [samplesIn_cons, ← sum, show (avSamplesCopy buf next _ _).nbSamples = nbSamples from size]
          omega
        · exact size ▸ least
        · exact size ▸ most
    · obtain ⟨wholeBuf, same⟩ := filled.full wholeTook size (by omega) (by omega)
      refine ⟨buf, (frame0 :: others).drop k, fifo, by rw [takes, if_neg short], sound', wholeBuf, ?_, ?_, ?_, by omega, by omega⟩
      · exact fun frame member => ⟨wholeLeft frame member, times frame (List.mem_of_mem_drop member)⟩
      · intro c within
        rw [same c within, ← tracks_append, joined]
      · have sum := congrArg samplesIn joined
        rw [samplesIn_append] at sum
        omega

/-- What a link comes to while frames arrive, blocks are taken, and the input ends. -/
inductive Draw where
  | add (frame : AVFrame)
  | take (min max : Nat)
  | close

def draw (link : AVFilterLink) : Draw → Option (Option AVFrame × AVFilterLink)
  | .add frame => some (none, { link with fifo := (link.fifo.ffFramequeueAdd true frame).2 })
  | .take min max => link.ffInlinkConsumeSamples min max
  | .close => some (none, { link with statusIn := AVERROR_EOF })

/-- What the source asserts of the bounds of a block, and the frames that a link can take. Its
unsigned sums do not wrap around as long as a block fits an `int`. -/
def Draw.Proper (channels : Nat) (timed : AVFrame → Prop) : Draw → Prop
  | .add frame => Whole channels frame ∧ timed frame
  | .take min max => 0 < min ∧ min ≤ max ∧ max ≤ INT_MAX
  | .close => True

def Draw.added : Draw → List AVFrame
  | .add frame => [frame]
  | _ => []

def Draw.closes : Draw → Bool
  | .close => true
  | _ => false

/-- A block is within its bounds; only behind the end of the input it may be shorter. -/
def Sized (closed : Bool) : Draw × Option AVFrame → Prop
  | (.take min max, some block) => block.nbSamples ≤ max ∧ (closed = false → min ≤ block.nbSamples)
  | (_, given) => given = none

/-- A link with these frames queued. -/
structure Holding (channels : Nat) (timeBase : Lavu.AVRational) (timed : AVFrame → Prop) (link : AVFilterLink) (frames : List AVFrame) :
    Prop where
  sound : link.fifo.Sound frames
  count : link.channels.toNat = channels
  base : link.timeBase = timeBase
  whole : ∀ frame ∈ frames, Whole channels frame
  times : ∀ frame ∈ frames, timed frame

section session

variable {timeBase : Lavu.AVRational} {timed : AVFrame → Prop} {link : AVFilterLink}
  (cuts : ∀ frame (samples : Nat), timed frame → samples < frame.nbSamples →
    ∃ rest, FFFrameQueue.skipped frame samples timeBase = some rest ∧ timed rest)

include cuts in
/-- `ff_inlink_consume_samples` takes a block off the front, if there is enough for one. -/
theorem Holding.consume (holding : Holding channels timeBase timed link frames) (room : samplesIn frames < 2 ^ 64) {min max : Nat}
    (positive : 0 < min) (order : min ≤ max) :
    ∃ given rest fifo, link.ffInlinkConsumeSamples min max = some (given, { link with fifo }) ∧
      Holding channels timeBase timed { link with fifo } rest ∧
      (∀ c < channels, tracks c given.toList ++ tracks c rest = tracks c frames) ∧
      samplesIn rest ≤ samplesIn frames ∧ Sized (link.statusIn ≠ 0) (.take min max, given) := by
  obtain ⟨sound, rfl, rfl, whole, times⟩ := holding
  have nonneg := samplesIn_nonneg whole
  have samples : (link.fifo.ffFramequeueQueuedSamples.toNat : Int) = samplesIn frames := by
    rw [sound.totalSamples, FFFrameQueue.total, UInt64.ofInt, UInt64.toNat_ofNat']
    omega
  by_cases available : link.ffInlinkCheckAvailableSamples min
  · have enough : min ≤ link.fifo.ffFramequeueQueuedSamples.toNat ∨
        link.statusIn ≠ 0 ∧ link.fifo.ffFramequeueQueuedSamples.toNat ≠ 0 := by
      simpa [ffInlinkCheckAvailableSamples, ← UInt64.toNat_inj] using available
    obtain ⟨bound, chosen⟩ : ∃ bound : Nat,
        bound = if link.statusIn ≠ 0 then Nat.min min link.fifo.ffFramequeueQueuedSamples.toNat else min := ⟨_, rfl⟩
    have bounds : 0 < bound ∧ bound ≤ min ∧ bound ≤ link.fifo.ffFramequeueQueuedSamples.toNat ∧
        (link.statusIn = 0 → bound = min) := by
      rw [chosen]
      split
      · have least : Nat.min min link.fifo.ffFramequeueQueuedSamples.toNat ≤ min := Nat.min_le_left ..
        have least' : Nat.min min link.fifo.ffFramequeueQueuedSamples.toNat ≤ link.fifo.ffFramequeueQueuedSamples.toNat := Nat.min_le_right ..
        refine ⟨Nat.lt_min.mpr ⟨positive, by omega⟩, least, least', fun running => ?_⟩
        contradiction
      · omega
    obtain ⟨some_bound, less, fits, running⟩ := bounds
    have busy : frames ≠ [] := by
      rintro rfl
      rw [samplesIn_nil] at samples
      omega
    obtain ⟨block, rest, fifo, takes, sound', wholeBlock, others, same, sum, least, most⟩ :=
      takeSamples_keeps sound busy whole (by omega) (show (bound : Int) ≤ max by omega) (by omega) times cuts
    refine ⟨some block, rest, fifo, ?_, ⟨sound', rfl, rfl, fun frame member => (others frame member).1,
      fun frame member => (others frame member).2⟩, ?_, ?_, ?_⟩
    · rw [ffInlinkConsumeSamples, if_neg (by simpa using available)]
      simp only [← chosen, takes, Option.bind_eq_bind, Option.bind_some, Option.pure_def]
    · intro c within
      simpa using same c within
    · have positive := wholeBlock.positive
      omega
    · refine ⟨most, fun goes => ?_⟩
      have whole := running (by simpa using goes)
      omega
  · refine ⟨none, frames, link.fifo, ?_, ⟨sound, rfl, rfl, whole, times⟩, fun c _ => rfl, Int.le_refl _, rfl⟩
    rw [ffInlinkConsumeSamples, if_pos available]
    rfl

include cuts in
private theorem Holding.draw (holding : Holding channels timeBase timed link frames) (room : samplesIn frames < 2 ^ 64) {turn : Draw}
    (proper : turn.Proper channels timed) :
    ∃ given after rest, link.draw turn = some (given, after) ∧ Holding channels timeBase timed after rest ∧
      (∀ c < channels, tracks c given.toList ++ tracks c rest = tracks c (frames ++ turn.added)) ∧
      samplesIn rest ≤ samplesIn frames + samplesIn turn.added ∧ Sized (link.statusIn ≠ 0) (turn, given) ∧
      decide (after.statusIn ≠ 0) = (decide (link.statusIn ≠ 0) || turn.closes) := by
  cases turn with
  | add frame =>
    obtain ⟨fifo, adds, sound, -, -⟩ := holding.sound.add frame (show true = true ∨ _ from .inl rfl)
    refine ⟨none, { link with fifo }, frames ++ [frame], by rw [AVFilterLink.draw, adds], ⟨sound, holding.count, holding.base, ?_, ?_⟩, fun c _ => rfl, ?_,
      rfl, by simp [Draw.closes]⟩
    · simpa [or_imp, forall_and] using And.intro holding.whole proper.1
    · simpa [or_imp, forall_and] using And.intro holding.times proper.2
    · rw [samplesIn_append]
      exact Int.le_refl _
  | take min max =>
    obtain ⟨given, rest, fifo, consumes, holding', same, less, sized⟩ := holding.consume cuts room proper.1 proper.2.1
    refine ⟨given, _, rest, consumes, holding', ?_, by simpa [Draw.added] using less, sized, by simp [Draw.closes]⟩
    simpa [Draw.added] using same
  | close =>
    have ends : decide (AVERROR_EOF ≠ 0) = true := by simp [AVERROR_EOF]
    exact ⟨none, _, frames, rfl, { holding with }, by simp [Draw.added], by simp [Draw.added], rfl, by simp [Draw.closes, ends]⟩

private theorem Sized.later {closed after : Bool} {turn : Draw × Option AVFrame} (sized : Sized closed turn)
    (stays : after = false → closed = false) : Sized after turn := by
  obtain ⟨turn, given⟩ := turn
  cases turn with
  | take min max =>
    cases given with
    | none => rfl
    | some block => exact ⟨sized.1, fun goes => sized.2 (stays goes)⟩
  | add frame => exact sized
  | close => exact sized

include cuts in
private theorem Holding.draws (holding : Holding channels timeBase timed link frames) (draws : List Draw)
    (proper : ∀ turn ∈ draws, turn.Proper channels timed) (room : samplesIn frames + samplesIn (draws.flatMap Draw.added) < 2 ^ 64) :
    ∃ given final rest, Refinement.answers AVFilterLink.draw link draws = some (given, final) ∧
      Holding channels timeBase timed final rest ∧
      (∀ c < channels, tracks c (given.flatMap Option.toList) ++ tracks c rest = tracks c (frames ++ draws.flatMap Draw.added)) ∧
      ∀ turn ∈ draws.zip given, Sized (link.statusIn ≠ 0 || draws.any Draw.closes) turn := by
  induction draws generalizing link frames with
  | nil => exact ⟨[], link, frames, rfl, holding, by simp, by simp⟩
  | cons turn draws ih =>
    obtain ⟨first, others⟩ := List.forall_mem_cons.mp proper
    have wholes : ∀ frame ∈ draws.flatMap Draw.added, Whole channels frame := by
      intro frame member
      obtain ⟨other, among, added⟩ := List.mem_flatMap.mp member
      have fine := others other among
      cases other with
      | add frame =>
        rw [List.mem_singleton.mp added]
        exact fine.1
      | _ => cases added
    have later := samplesIn_nonneg wholes
    have now : 0 ≤ samplesIn turn.added := by
      cases turn with
      | add frame =>
        have positive := first.1.positive
        simp [Draw.added]
        omega
      | _ => exact Int.le_refl 0
    rw [List.flatMap_cons, samplesIn_append] at room
    obtain ⟨given, after, rest, draws', holding', same, less, sized, closed⟩ := holding.draw cuts (by omega) first
    obtain ⟨more, final, left, answers, last, sames, sizes⟩ := ih holding' others (by omega)
    rw [closed] at sizes
    refine ⟨given :: more, final, left, ?_, last, ?_, ?_⟩
    · simp only [Refinement.answers, draws', answers, Option.bind_eq_bind, Option.bind_some, Option.pure_def]
    · intro c within
      have one := same c within
      have many := sames c within
      rw [tracks_append] at one many
      rw [List.flatMap_cons, tracks_append, List.append_assoc, many, ← List.append_assoc, one]
      simp
    · intro trade member
      rw [List.zip_cons_cons] at member
      rcases List.mem_cons.mp member with rfl | member
      · exact sized.later (by simp +contextual)
      · exact (sizes trade member).later (by simp +contextual)

end session

/-- A frame of this rate whose samples all have a time that fits, if they have one. -/
structure Timed (rate : Int) (frame : AVFrame) : Prop where
  rate : frame.sampleRate = rate
  samples : frame.nbSamples ≤ INT_MAX
  fits : ∀ pts, frame.pts = some pts → INT64_MIN ≤ pts ∧ pts + frame.nbSamples ≤ INT64_MAX

private theorem rescale_same {base : Lavu.AVRational} (positive : base.Positive) {count : Int} (nonneg : 0 ≤ count)
    (most : count ≤ INT_MAX) : Lavu.avRescaleQ count base base = some count := by
  have value : base.value / base.value = 1 := by
    have num : (base.num : ℚ) ≠ 0 := Int.cast_ne_zero.mpr positive.num.ne'
    have den : (base.den : ℚ) ≠ 0 := Int.cast_ne_zero.mpr positive.den.ne'
    exact div_self (div_ne_zero num den)
  have nearest : Lavu.nearest count base base = count := by
    rw [Lavu.nearest, value, mul_one]
    exact Rounding.Direction.nearInf_eq (by simp)
  rw [INT_MAX] at most
  rw [Lavu.rescale_q positive positive (by rw [INT64_MIN]; omega) (by rw [INT64_MAX]; omega), nearest, if_pos]
  rw [INT64_MAX]
  omega

/-- On a link that counts samples, a frame can be cut anywhere. -/
theorem timed_cuts {rate : Int} (positive : 0 < rate) (fits : rate ≤ INT_MAX) (frame : AVFrame) (samples : Nat)
    (timed : Timed rate frame) (less : samples < frame.nbSamples) :
    ∃ rest, FFFrameQueue.skipped frame samples ⟨1, rate⟩ = some rest ∧ Timed rate rest := by
  obtain ⟨same, few, room⟩ := timed
  have base : Lavu.AVRational.Positive ⟨1, rate⟩ := ⟨Int.one_pos, by simp [INT_MAX], positive, fits⟩
  have cut : ∀ later, FFFrameQueue.laterPts frame samples ⟨1, rate⟩ = some later →
      ∃ rest, FFFrameQueue.skipped frame samples ⟨1, rate⟩ = some rest ∧ rest.sampleRate = frame.sampleRate ∧
        rest.nbSamples = frame.nbSamples - samples ∧ rest.pts = later := by
    intro later moves
    exact ⟨{ frame with pts := later, nbSamples := frame.nbSamples - samples, extendedData := frame.extendedData.map (·.drop samples) },
      by simp [FFFrameQueue.skipped, moves], rfl, rfl, rfl⟩
  cases time : frame.pts with
  | none =>
    obtain ⟨rest, skips, rates, shorter, untimed⟩ := cut none (by simp [FFFrameQueue.laterPts, time])
    refine ⟨rest, skips, rates.trans same, by omega, fun pts given => ?_⟩
    rw [untimed] at given
    cases given
  | some pts =>
    obtain ⟨least, most⟩ := room pts time
    have fit : Lavu.int64 (pts + samples) = some (pts + samples) := if_pos ⟨by omega, by omega⟩
    have scale : Lavu.avRescaleQ samples ⟨1, frame.sampleRate⟩ ⟨1, rate⟩ = some (samples : Int) := by
      rw [same]
      exact rescale_same base (Int.natCast_nonneg samples) (by omega)
    obtain ⟨rest, skips, rates, shorter, moved⟩ := cut (some (pts + samples)) (by simp [FFFrameQueue.laterPts, time, scale, fit])
    refine ⟨rest, skips, rates.trans same, by omega, fun later given => ?_⟩
    rw [moved] at given
    cases given
    omega

/-- A filter that takes blocks gets every sample that comes to its link once and in order,
in blocks within its bounds, whenever the frames come and however long they are. -/
theorem blocks_keep_samples {rate : Int} (positive : 0 < rate) (fits : rate ≤ INT_MAX)
    (holding : Holding channels ⟨1, rate⟩ (Timed rate) link frames) (draws : List Draw)
    (proper : ∀ turn ∈ draws, turn.Proper channels (Timed rate))
    (room : samplesIn frames + samplesIn (draws.flatMap Draw.added) < 2 ^ 64) :
    ∃ given final rest, Refinement.answers draw link draws = some (given, final) ∧
      Holding channels ⟨1, rate⟩ (Timed rate) final rest ∧
      (∀ c < channels, tracks c (given.flatMap Option.toList) ++ tracks c rest = tracks c (frames ++ draws.flatMap Draw.added)) ∧
      ∀ turn ∈ draws.zip given, Sized (link.statusIn ≠ 0 || draws.any Draw.closes) turn :=
  holding.draws (timed_cuts positive fits) draws proper room

/-- A link for mono frames of 8000 Hz. -/
def monoBlocks : AVFilterLink := ⟨0, 0, 1, 0, 8000, .fltp, 4, 1, ⟨1, 8000⟩, 0, 0, .ffFramequeueInit, 0, 0, false, false⟩

def timedFrame (pts : Int) (samples : List CFloat) : AVFrame := ⟨⟨8000, .fltp, 4, 1, samples.length, [samples]⟩, some pts⟩

/-- Blocks of two samples of two frames. -/
def drawTwos : List Draw :=
  [.add (timedFrame 0 [1, 2, 3]), .take 2 2, .add (timedFrame 3 [4, 5]), .take 2 2, .close, .take 2 2, .take 2 2]

theorem blocks_keep_samples_twos : ∃ given final rest, Refinement.answers draw monoBlocks drawTwos = some (given, final) ∧
    tracks 0 (given.flatMap Option.toList) ++ tracks 0 rest = [1, 2, 3, 4, 5] := by
  have holding : Holding 1 ⟨1, 8000⟩ (Timed 8000) monoBlocks [] :=
    ⟨FFFrameQueue.ffFramequeueInit_sound, rfl, rfl, by simp, by simp⟩
  have first : Draw.Proper 1 (Timed 8000) (.add (timedFrame 0 [1, 2, 3])) :=
    ⟨⟨by decide, rfl, by simp [timedFrame]⟩, rfl, by decide, by simp [timedFrame, INT64_MIN, INT64_MAX]⟩
  have second : Draw.Proper 1 (Timed 8000) (.add (timedFrame 3 [4, 5])) :=
    ⟨⟨by decide, rfl, by simp [timedFrame]⟩, rfl, by decide, by simp [timedFrame, INT64_MIN, INT64_MAX]⟩
  have proper : ∀ turn ∈ drawTwos, turn.Proper 1 (Timed 8000) := by
    simp [drawTwos, Draw.Proper, INT_MAX]
    exact ⟨first, second⟩
  obtain ⟨given, final, rest, answers, -, same, -⟩ := blocks_keep_samples (by decide) (by decide) holding drawTwos proper (by decide)
  exact ⟨given, final, rest, answers, same 0 Nat.one_pos⟩

end AVFilterLink
end Awt.Graph
