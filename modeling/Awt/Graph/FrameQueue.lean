import Awt.Lavfi.Calls
import Awt.Lavu.Mathematics

/-! The queue of frames at the end of a link: a ring of buckets that grows when it is full. -/

namespace Awt.Graph
open Lavu (AVRational)

/-- A frame of planar floats with its timestamp. -/
abbrev AVFrame := Lavfi.AVFrame

/-- Buckets that were not written yet hold nothing; the pre-allocated one is not told from
an array of one. The totals wrap around. -/
structure FFFrameQueue where
  queue : List (Option AVFrame)
  allocated : Nat
  tail : Nat
  queued : Nat
  totalFramesHead : UInt64
  totalFramesTail : UInt64
  totalSamplesHead : UInt64
  totalSamplesTail : UInt64
  samplesSkipped : Bool
  deriving DecidableEq

namespace FFFrameQueue

/-- Where the bucket is in the array. -/
def bucket (fq : FFFrameQueue) (idx : Nat) : Nat := (fq.tail + idx) &&& (fq.allocated - 1)

/-- A fresh link is zeroed before its queue is set up. -/
def ffFramequeueInit : FFFrameQueue where
  queue := [none]
  allocated := 1
  tail := 0
  queued := 0
  totalFramesHead := 0
  totalFramesTail := 0
  totalSamplesHead := 0
  totalSamplesTail := 0
  samplesSkipped := false

def ffFramequeueQueuedFrames (fq : FFFrameQueue) : Nat := fq.queued

def ffFramequeueQueuedSamples (fq : FFFrameQueue) : UInt64 := fq.totalSamplesHead - fq.totalSamplesTail

/-- A number as it is added to a total. -/
def total (count : Int) : UInt64 := UInt64.ofInt count

/-- Room for one more frame, when `av_realloc_array` is `granted`. -/
def enlarged (granted : Bool) (fq : FFFrameQueue) : Option FFFrameQueue :=
  if fq.queued ≠ fq.allocated then some fq
  else if !granted then none
  else if fq.allocated = 1 then
    some { fq with queue := fq.queue.take 1 ++ List.replicate 7 none, allocated := 8 }
  else
    let nq := fq.queue ++ List.replicate fq.allocated none
    let moved := fq.tail + fq.queued - fq.allocated
    let nq :=
      if fq.tail + fq.queued > fq.allocated then
        nq.take fq.allocated ++ nq.take moved ++ nq.drop (fq.allocated + moved)
      else nq
    some { fq with queue := nq, allocated := fq.allocated <<< 1 }

def ffFramequeueAdd (granted : Bool) (fq : FFFrameQueue) (frame : AVFrame) : Int × FFFrameQueue :=
  match fq.enlarged granted with
  | none => (ENOMEM, fq)
  | some fq =>
    (0, { fq with
      queue := fq.queue.set (fq.bucket fq.queued) (some frame)
      queued := fq.queued + 1
      totalFramesHead := fq.totalFramesHead + 1
      totalSamplesHead := fq.totalSamplesHead + total frame.nbSamples })

/-- `none` where the bucket holds no frame. -/
def ffFramequeuePeek (fq : FFFrameQueue) (idx : Nat) : Option AVFrame := (fq.queue[fq.bucket idx]?).join

def ffFramequeueTake (fq : FFFrameQueue) : Option (AVFrame × FFFrameQueue) := do
  let frame ← fq.ffFramequeuePeek 0
  return (frame, { fq with
    queued := fq.queued - 1
    tail := (fq.tail + 1) &&& (fq.allocated - 1)
    totalFramesTail := fq.totalFramesTail + 1
    totalSamplesTail := fq.totalSamplesTail + total frame.nbSamples
    samplesSkipped := false })

/-- The timestamp of a frame that lost its first samples. -/
def laterPts (frame : AVFrame) (samples : Nat) (timeBase : AVRational) : Option (Option Int) :=
  match frame.pts with
  | none => some none
  | some pts => do
    let skip ← Lavu.avRescaleQ samples ⟨1, frame.sampleRate⟩ timeBase
    let pts ← Lavu.int64 (pts + skip)
    return some pts

/-- A planar frame without its first samples. -/
def skipped (frame : AVFrame) (samples : Nat) (timeBase : AVRational) : Option AVFrame := do
  let pts ← laterPts frame samples timeBase
  return { frame with
    pts
    nbSamples := frame.nbSamples - samples
    extendedData := frame.extendedData.map (·.drop samples) }

def ffFramequeueSkipSamples (fq : FFFrameQueue) (samples : Nat) (timeBase : AVRational) : Option FFFrameQueue := do
  let frame ← fq.ffFramequeuePeek 0
  let frame ← skipped frame samples timeBase
  return { fq with
    queue := fq.queue.set (fq.bucket 0) (some frame)
    totalSamplesTail := fq.totalSamplesTail + total samples
    samplesSkipped := true }

/-- A call on a queue; the allocator decides whether an array that has to grow can. -/
inductive Request where
  | add (granted : Bool) (frame : AVFrame)
  | peek (idx : Nat)
  | take
  | skipSamples (samples : Nat) (timeBase : AVRational)

inductive Reply where
  | ret (ret : Int)
  | frame (frame : AVFrame)
  | skipped
  deriving DecidableEq

/-- `none` where the source asserts that there is a frame, or a timestamp overflows. -/
def call (fq : FFFrameQueue) : Request → Option (Reply × FFFrameQueue)
  | .add granted frame => let (ret, fq) := fq.ffFramequeueAdd granted frame; some (.ret ret, fq)
  | .peek idx => do
    let frame ← fq.ffFramequeuePeek idx
    return (.frame frame, fq)
  | .take => do
    let (frame, fq) ← fq.ffFramequeueTake
    return (.frame frame, fq)
  | .skipSamples samples timeBase => do
    let fq ← fq.ffFramequeueSkipSamples samples timeBase
    return (.skipped, fq)

end FFFrameQueue
end Awt.Graph
