import Mathlib.Algebra.BigOperators.Group.List.Basic
import Mathlib.Algebra.GroupWithZero.Nat
import Awt.Graph.FrameQueue
import Awt.Lib.Refinement
import Awt.Lib.Ring

/-! The ring of buckets is a list of frames, however often it grows, and its totals count
what is in it even when they wrap around. -/

namespace Awt.Graph

/-- The samples of frames that are queued. -/
def samplesIn (frames : List AVFrame) : Int := (frames.map (·.nbSamples)).sum

@[simp] theorem samplesIn_nil : samplesIn [] = 0 := rfl

@[simp] theorem samplesIn_cons (frame : AVFrame) (frames : List AVFrame) :
    samplesIn (frame :: frames) = frame.nbSamples + samplesIn frames := rfl

theorem samplesIn_append (frames more : List AVFrame) : samplesIn (frames ++ more) = samplesIn frames + samplesIn more := by
  simp [samplesIn]

namespace FFFrameQueue

variable {fq : FFFrameQueue} {frame : AVFrame} {frames : List AVFrame}

/-- The queue holds these frames. -/
structure Sound (fq : FFFrameQueue) (frames : List AVFrame) : Prop where
  allocated : fq.allocated = fq.queue.length
  power : ∃ k, fq.allocated = 2 ^ k
  ring : Ring.Holds fq.queue fq.tail frames
  queued : fq.queued = frames.length
  totalFrames : fq.totalFramesHead - fq.totalFramesTail = total frames.length
  totalSamples : fq.ffFramequeueQueuedSamples = total (samplesIn frames)

private theorem total_add (count more : Int) : total (count + more) = total count + total more := UInt64.ofInt_add _ _

/-- What enters at the head and what leaves at the tail, in a total that may have wrapped. -/
private theorem enter {head tail : UInt64} {held : Int} (same : head - tail = total held) (more : Int) :
    head + total more - tail = total (held + more) := by
  rw [total_add, ← same]
  grind

private theorem leave {head tail : UInt64} {held less : Int} (same : head - tail = total (less + held)) :
    head - (tail + total less) = total held := by
  rw [total_add] at same
  grind

theorem skipped_nbSamples {samples : Nat} {timeBase : Lavu.AVRational} {rest : AVFrame}
    (cut : skipped frame samples timeBase = some rest) : rest.nbSamples = frame.nbSamples - samples := by
  obtain ⟨pts, -, made⟩ := Option.bind_eq_some_iff.mp cut
  cases made
  rfl

theorem ffFramequeueInit_sound : ffFramequeueInit.Sound [] where
  allocated := rfl
  power := ⟨0, rfl⟩
  ring := Ring.Holds.empty Nat.one_pos
  queued := rfl
  totalFrames := rfl
  totalSamples := rfl

namespace Sound

theorem masked (sound : fq.Sound frames) (index : Nat) : index &&& (fq.allocated - 1) = index % fq.queue.length := by
  obtain ⟨k, power⟩ := sound.power
  rw [← sound.allocated, power]
  exact Nat.and_two_pow_sub_one_eq_mod index k

theorem bucket (sound : fq.Sound frames) (idx : Nat) : fq.bucket idx = (fq.tail + idx) % fq.queue.length := sound.masked _

theorem bucket_zero (sound : fq.Sound frames) : fq.bucket 0 = fq.tail := by
  rw [sound.bucket, Nat.add_zero, Nat.mod_eq_of_lt sound.ring.start]

theorem peek (sound : fq.Sound frames) {idx : Nat} (given : frames[idx]? = some frame) :
    fq.ffFramequeuePeek idx = some frame := by
  rw [ffFramequeuePeek, sound.bucket, sound.ring.cell idx frame given]
  rfl

/-- The array with room for one more frame still holds the same ones. -/
theorem enlarged (sound : fq.Sound frames) {granted : Bool} (room : granted ∨ frames.length < fq.allocated) :
    ∃ grown, fq.enlarged granted = some grown ∧ grown.Sound frames ∧ frames.length < grown.queue.length ∧
      grown.samplesSkipped = fq.samplesSkipped ∧
      grown.allocated = if frames.length < fq.allocated then fq.allocated else if fq.allocated = 1 then 8 else 2 * fq.allocated := by
  have fits := sound.ring.fits
  have allocated := sound.allocated
  have queued := sound.queued
  unfold FFFrameQueue.enlarged
  by_cases full : fq.queued = fq.allocated
  · rw [if_neg (fun differ => differ full), if_neg (by rcases room with granted | less <;> first | simp [granted] | omega)]
    have grow := sound.ring.grow (by omega)
    split
    · case isTrue single =>
      have first : fq.tail = 0 := by
        have start := sound.ring.start
        omega
      refine ⟨_, rfl, ⟨?_, ⟨3, rfl⟩, ?_, queued, sound.totalFrames, sound.totalSamples⟩, ?_, rfl, ?_⟩
      · dsimp only
        rw [List.length_append, List.length_take, List.length_replicate]
        omega
      · have ring := grow (List.replicate 7 none)
        rw [first, List.take_zero, List.append_nil] at ring
        have whole : fq.queue.take 1 = fq.queue := List.take_of_length_le (by omega)
        dsimp only
        rw [whole, first]
        exact ring
      · rw [List.length_append, List.length_take, List.length_replicate]
        omega
      · exact (if_neg (by omega)).symm
    · case isFalse several =>
      have start := sound.ring.start
      obtain ⟨k, power⟩ := sound.power
      have moved : fq.tail + fq.queued - fq.allocated = fq.tail := by omega
      have array : (if fq.tail + fq.queued > fq.allocated then
          (fq.queue ++ List.replicate fq.allocated none).take fq.allocated ++
            (fq.queue ++ List.replicate fq.allocated none).take (fq.tail + fq.queued - fq.allocated) ++
            (fq.queue ++ List.replicate fq.allocated none).drop (fq.allocated + (fq.tail + fq.queued - fq.allocated))
          else fq.queue ++ List.replicate fq.allocated none) =
          fq.queue ++ fq.queue.take fq.tail ++ List.replicate (fq.allocated - fq.tail) none := by
        rw [moved]
        split
        · rw [List.take_append_of_le_length (by omega), List.take_of_length_le (by omega),
            List.take_append_of_le_length (by omega), List.drop_append, List.drop_of_length_le (by omega), List.nil_append,
            List.drop_replicate]
          congr 2
          omega
        · have none : fq.tail = 0 := by omega
          rw [none, List.take_zero, List.append_nil, Nat.sub_zero]
      have length : (fq.queue ++ fq.queue.take fq.tail ++ List.replicate (fq.allocated - fq.tail) none).length =
          2 * fq.allocated := by
        rw [List.length_append, List.length_append, List.length_take, List.length_replicate]
        omega
      have doubled : fq.allocated <<< 1 = 2 * fq.allocated := by
        rw [Nat.shiftLeft_eq]
        omega
      dsimp only
      rw [array, doubled]
      refine ⟨_, rfl, ⟨length.symm, ⟨k + 1, ?_⟩, grow _, queued, sound.totalFrames, sound.totalSamples⟩, ?_, rfl, ?_⟩
      · dsimp only
        rw [power, Nat.pow_succ, Nat.mul_comm]
      · rw [length]
        omega
      · exact (if_neg (by omega)).symm
  · rw [if_pos full]
    exact ⟨fq, rfl, sound, by omega, rfl, by rw [if_pos (by omega)]⟩

/-- A frame that is added comes last; without memory a full queue stays as it is. -/
theorem add (sound : fq.Sound frames) (frame : AVFrame) {granted : Bool} (room : granted ∨ frames.length < fq.allocated) :
    ∃ after, fq.ffFramequeueAdd granted frame = (0, after) ∧ after.Sound (frames ++ [frame]) ∧
      after.samplesSkipped = fq.samplesSkipped ∧
      after.allocated = if frames.length < fq.allocated then fq.allocated else if fq.allocated = 1 then 8 else 2 * fq.allocated := by
  obtain ⟨grown, enlarges, sound, space, skips, size⟩ := sound.enlarged room
  have adds : fq.ffFramequeueAdd granted frame = (0, { grown with
      queue := grown.queue.set (grown.bucket grown.queued) (some frame)
      queued := grown.queued + 1
      totalFramesHead := grown.totalFramesHead + 1
      totalSamplesHead := grown.totalSamplesHead + total frame.nbSamples }) := by
    simp only [ffFramequeueAdd, enlarges]
  refine ⟨_, adds, ⟨?_, sound.power, ?_, ?_, ?_, ?_⟩, skips, size⟩
  · rw [List.length_set]
    exact sound.allocated
  · rw [sound.bucket, sound.queued]
    exact sound.ring.push space frame
  · rw [List.length_append, List.length_singleton, sound.queued]
  · have more := enter sound.totalFrames 1
    rw [List.length_append, List.length_singleton, Int.natCast_add]
    exact more
  · have more := enter sound.totalSamples frame.nbSamples
    rw [samplesIn_append, samplesIn_cons, samplesIn_nil, Int.add_zero]
    exact more

theorem add_refused (sound : fq.Sound frames) (frame : AVFrame) (full : ¬ frames.length < fq.allocated) :
    fq.ffFramequeueAdd false frame = (ENOMEM, fq) := by
  have fits := sound.ring.fits
  have allocated := sound.allocated
  have queued := sound.queued
  rw [ffFramequeueAdd, FFFrameQueue.enlarged, if_neg (by omega), if_pos (by decide)]

theorem take (sound : fq.Sound (frame :: frames)) :
    ∃ after, fq.ffFramequeueTake = some (frame, after) ∧ after.Sound frames ∧ after.samplesSkipped = false ∧
      after.allocated = fq.allocated := by
  have head : fq.ffFramequeuePeek 0 = some frame := sound.peek rfl
  have takes : fq.ffFramequeueTake = some (frame, { fq with
      queued := fq.queued - 1
      tail := (fq.tail + 1) &&& (fq.allocated - 1)
      totalFramesTail := fq.totalFramesTail + 1
      totalSamplesTail := fq.totalSamplesTail + total frame.nbSamples
      samplesSkipped := false }) := by
    simp only [ffFramequeueTake, head, Option.bind_eq_bind, Option.bind_some, Option.pure_def]
  refine ⟨_, takes, ⟨sound.allocated, sound.power, ?_, ?_, ?_, ?_⟩, rfl, rfl⟩
  · rw [sound.masked]
    exact sound.ring.pop
  · rw [sound.queued]
    rfl
  · have same := sound.totalFrames
    rw [List.length_cons, Nat.add_comm, Int.natCast_add] at same
    have left := leave same
    exact left
  · exact leave sound.totalSamples

theorem skip (sound : fq.Sound (frame :: frames)) {samples : Nat} {timeBase : Lavu.AVRational} {rest : AVFrame}
    (cut : skipped frame samples timeBase = some rest) :
    ∃ after, fq.ffFramequeueSkipSamples samples timeBase = some after ∧ after.Sound (rest :: frames) ∧
      after.samplesSkipped = true ∧ after.allocated = fq.allocated := by
  have head : fq.ffFramequeuePeek 0 = some frame := sound.peek rfl
  have skips : fq.ffFramequeueSkipSamples samples timeBase = some { fq with
      queue := fq.queue.set (fq.bucket 0) (some rest)
      totalSamplesTail := fq.totalSamplesTail + total samples
      samplesSkipped := true } := by
    simp only [ffFramequeueSkipSamples, head, Option.bind_eq_bind, Option.bind_some, cut, Option.pure_def]
  refine ⟨_, skips, ⟨?_, sound.power, ?_, sound.queued, sound.totalFrames, ?_⟩, rfl, rfl⟩
  · rw [List.length_set]
    exact sound.allocated
  · rw [sound.bucket_zero]
    exact sound.ring.replace rest
  · have same := sound.totalSamples
    have shorter : frame.nbSamples + samplesIn frames = samples + samplesIn (rest :: frames) := by
      rw [samplesIn_cons, skipped_nbSamples cut]
      omega
    rw [samplesIn_cons, shorter] at same
    exact leave same

end Sound

/-- What the ring is for: frames in their order, and how many find room before there has to
be more memory. -/
structure Fifo where
  frames : List AVFrame
  room : Nat
  deriving DecidableEq

namespace Fifo

def start : Fifo := ⟨[], 1⟩

def more (room : Nat) : Nat := if room = 1 then 8 else 2 * room

def call (fifo : Fifo) : Request → Option (Reply × Fifo)
  | .add granted frame =>
    if fifo.frames.length < fifo.room then some (.ret 0, { fifo with frames := fifo.frames ++ [frame] })
    else if granted then some (.ret 0, ⟨fifo.frames ++ [frame], more fifo.room⟩)
    else some (.ret ENOMEM, fifo)
  | .peek idx => fifo.frames[idx]?.map fun frame => (.frame frame, fifo)
  | .take => fifo.frames.head?.map fun frame => (.frame frame, { fifo with frames := fifo.frames.tail })
  | .skipSamples samples timeBase => do
    let frame ← fifo.frames.head?
    let rest ← skipped frame samples timeBase
    return (.skipped, { fifo with frames := rest :: fifo.frames.tail })

end Fifo

structure Refines (fq : FFFrameQueue) (fifo : Fifo) : Prop where
  sound : fq.Sound fifo.frames
  room : fq.allocated = fifo.room

theorem call_follows : Refinement.Follows call Fifo.call Refines := by
  rintro fq ⟨frames, room⟩ request reply next ⟨sound, size⟩ answered
  cases request with
  | add granted frame =>
    rw [Fifo.call] at answered
    dsimp only at answered size sound
    subst size
    split at answered
    · case isTrue space =>
      cases answered
      have room : granted = true ∨ frames.length < fq.allocated := .inr space
      obtain ⟨after, adds, sound, -, size⟩ := sound.add frame room
      exact ⟨after, by rw [call, adds], sound, by rw [size, if_pos space]⟩
    · case isFalse full =>
      split at answered
      · case isTrue grants =>
        cases answered
        obtain ⟨after, adds, sound, -, size⟩ := sound.add frame (.inl grants)
        exact ⟨after, by rw [call, adds], sound, by rw [size, if_neg full, Fifo.more]⟩
      · case isFalse refuses =>
        cases answered
        rw [Bool.not_eq_true] at refuses
        subst refuses
        exact ⟨fq, by rw [call, sound.add_refused frame full], sound, rfl⟩
  | peek idx =>
    obtain ⟨frame, found, made⟩ := Option.map_eq_some_iff.mp answered
    cases made
    exact ⟨fq, by rw [call, sound.peek found]; rfl, sound, size⟩
  | take =>
    obtain ⟨frame, found, made⟩ := Option.map_eq_some_iff.mp answered
    cases made
    cases frames with
    | nil => cases found
    | cons first frames =>
      cases found
      obtain ⟨after, takes, sound, -, same⟩ := sound.take
      exact ⟨after, by rw [call, takes]; rfl, sound, same.trans size⟩
  | skipSamples samples timeBase =>
    obtain ⟨frame, found, answered⟩ := Option.bind_eq_some_iff.mp answered
    obtain ⟨rest, cut, made⟩ := Option.bind_eq_some_iff.mp answered
    cases made
    cases frames with
    | nil => cases found
    | cons first frames =>
      cases found
      obtain ⟨after, skips, sound, -, same⟩ := sound.skip cut
      exact ⟨after, by rw [call, skips]; rfl, sound, same.trans size⟩

/-- However the calls follow one another, and whichever allocations fail, the ring gives
the answers of a list of frames, and its wrapping totals give that list's lengths. -/
theorem ring_is_fifo {requests : List Request} {replies : List Reply} {fifo : Fifo}
    (answered : Refinement.answers Fifo.call Fifo.start requests = some (replies, fifo)) :
    ∃ fq, Refinement.answers call ffFramequeueInit requests = some (replies, fq) ∧
      fq.ffFramequeueQueuedFrames = fifo.frames.length ∧
      fq.ffFramequeueQueuedSamples = total (samplesIn fifo.frames) ∧
      fq.totalFramesHead - fq.totalFramesTail = total fifo.frames.length ∧ fq.allocated = fifo.room := by
  have start : Refines ffFramequeueInit Fifo.start := ⟨ffFramequeueInit_sound, rfl⟩
  obtain ⟨fq, answers, sound, room⟩ := call_follows.answers start answered
  exact ⟨fq, answers, sound.queued, sound.totalSamples, sound.totalFrames, room⟩

/-- Two frames in two buckets, the first of them cut, and no memory for a third one. -/
theorem ring_is_fifo_cut :
    ∃ fq, Refinement.answers call ffFramequeueInit
      [.add true ⟨⟨48000, .fltp, 4, 1, 2, [[1, 2]]⟩, none⟩, .skipSamples 1 ⟨1, 48000⟩,
        .add false ⟨⟨48000, .fltp, 4, 1, 2, [[3, 4]]⟩, none⟩, .take] =
      some ([.ret 0, .skipped, .ret ENOMEM, .frame ⟨⟨48000, .fltp, 4, 1, 1, [[2]]⟩, none⟩], fq) ∧
      fq.ffFramequeueQueuedFrames = 0 ∧ fq.ffFramequeueQueuedSamples = 0 ∧
      fq.totalFramesHead - fq.totalFramesTail = 0 ∧ fq.allocated = 1 :=
  ring_is_fifo (show Refinement.answers Fifo.call Fifo.start _ = some (_, ⟨[], 1⟩) from rfl)

end FFFrameQueue
end Awt.Graph
