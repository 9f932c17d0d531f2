import Mathlib.Logic.Function.Basic
import Awt.Graph.FrameQueue

/-! The engine of libavfilter: filters that are turned by how ready they are, and the links
that frames, requests and ends pass between them. Allocations succeed, nothing is sent to a
filter by command or disabled on the timeline, and the timestamp of an end is left out. -/

namespace Awt.Graph
open Lavu (AVRational)

/-- `FFERRTAG('N','R','D','Y')` -/
def FFERROR_NOT_READY : Int := -1497649742
/-- `FFERRTAG('P','A','W','E')` -/
def AVERROR_PATCHWELCOME : Int := -1163346256

structure AVFilterLink where
  src : Nat
  srcpad : Nat
  dst : Nat
  dstpad : Nat
  sampleRate : Int
  format : AVSampleFormat
  channelLayout : Nat
  channels : Int
  timeBase : AVRational
  minSamples : Nat
  maxSamples : Nat
  fifo : FFFrameQueue
  statusIn : Int
  statusOut : Int
  frameWantedOut : Bool
  frameBlockedIn : Bool

/-- What a filter does when it is called: it passes frames on and asks for others, with what
these calls return to it, and ends with what it returns and the data it keeps. -/
inductive Method (σ : Type) where
  | done (ret : Int) (priv : σ)
  | filterFrame (pad : Nat) (frame : AVFrame) (next : Int → Method σ)
  | requestFrame (pad : Nat) (next : Int → Method σ)

/-- The methods of its pads, where it has them. -/
structure AVFilter (σ : Type) where
  filterFrame : Nat → Option (σ → AVFrame → Method σ)
  requestFrame : Nat → Option (σ → Method σ)

structure BufferSourceContext where
  sampleRate : Int
  sampleFmt : AVSampleFormat
  channelLayout : Nat
  channels : Int
  nbFailedRequests : Nat
  eof : Bool
  deriving DecidableEq

structure BufferSinkContext where
  warningLimit : Nat
  peekedFrame : Option AVFrame
  deriving DecidableEq

/-- "abuffer" and "abuffersink" are the two ends of a graph; any other filter has the methods
of its pads. -/
inductive Priv (σ : Type) where
  | abuffer (s : BufferSourceContext)
  | abuffersink (buf : BufferSinkContext)
  | other (filter : AVFilter σ) (priv : σ)

structure AVFilterContext (σ : Type) where
  priv : Priv σ
  inputs : List Nat
  outputs : List Nat
  ready : Nat

/-- Filters and links are known by numbers; `filters` lists the filters in the order in which
they came into the graph. -/
structure AVFilterGraph (σ : Type) where
  filters : List Nat
  context : Nat → AVFilterContext σ
  link : Nat → AVFilterLink

namespace AVFilterLink

/-- Whether a frame has the format of the link. -/
def fits (link : AVFilterLink) (frame : AVFrame) : Bool :=
  frame.format = link.format ∧ frame.channels = link.channels ∧ frame.channelLayout = link.channelLayout ∧
    frame.sampleRate = link.sampleRate

def samplesReady (link : AVFilterLink) (min : Nat) : Bool :=
  link.fifo.ffFramequeueQueuedFrames ≠ 0 ∧ (min ≤ link.fifo.ffFramequeueQueuedSamples.toNat ∨ link.statusIn ≠ 0)

/-- A silent frame in the format of the link. -/
def ffGetAudioBuffer (link : AVFilterLink) (nbSamples : Int) : AVFrame where
  sampleRate := link.sampleRate
  format := link.format
  channelLayout := link.channelLayout
  channels := link.channels
  nbSamples
  extendedData := List.replicate link.channels.toNat (List.replicate nbSamples.toNat 0)
  pts := none

/-- `av_samples_copy` from the start of the frames of one format. -/
def avSamplesCopy (dst src : AVFrame) (dstOffset nbSamples : Int) : AVFrame :=
  { dst with
    extendedData := List.zipWith (fun dst src => dst.take dstOffset.toNat ++ src.take nbSamples.toNat ++
      dst.drop (dstOffset + nbSamples).toNat) dst.extendedData src.extendedData }

/-- The loop that measures how many samples and whole frames fit, from the frame that was
peeked on; there are `fuel` frames left. -/
def measure (fifo : FFFrameQueue) (min max : Int) : Nat → AVFrame → Int → Nat → Option (Int × Nat)
  | 0, _, _, _ => none
  | fuel + 1, frame, nbSamples, nbFrames =>
    if nbSamples + frame.nbSamples > max then some (if nbSamples < min then max else nbSamples, nbFrames)
    else if nbFrames + 1 = fifo.ffFramequeueQueuedFrames then some (nbSamples + frame.nbSamples, nbFrames + 1)
    else do
      let next ← fifo.ffFramequeuePeek (nbFrames + 1)
      measure fifo min max fuel next (nbSamples + frame.nbSamples) (nbFrames + 1)

/-- The loop that copies whole frames to `buf`, with `p`. -/
def copyFrames : Nat → FFFrameQueue → AVFrame → Int → Option (FFFrameQueue × AVFrame × Int)
  | 0, fifo, buf, p => some (fifo, buf, p)
  | count + 1, fifo, buf, p => do
    let (frame, fifo) ← fifo.ffFramequeueTake
    copyFrames count fifo (avSamplesCopy buf frame p frame.nbSamples) (p + frame.nbSamples)

def takeSamples (link : AVFilterLink) (min max : Int) : Option (AVFrame × AVFilterLink) := do
  let frame0 ← link.fifo.ffFramequeuePeek 0
  if ¬link.fifo.samplesSkipped ∧ min ≤ frame0.nbSamples ∧ frame0.nbSamples ≤ max then
    let (frame, fifo) ← link.fifo.ffFramequeueTake
    return (frame, { link with fifo })
  let (nbSamples, nbFrames) ← measure link.fifo min max link.fifo.ffFramequeueQueuedFrames frame0 0 0
  let buf := { link.ffGetAudioBuffer nbSamples with pts := frame0.pts, sampleRate := frame0.sampleRate }
  let (fifo, buf, p) ← copyFrames nbFrames link.fifo buf 0
  if p < nbSamples then
    let frame ← fifo.ffFramequeuePeek 0
    let buf := avSamplesCopy buf frame p (nbSamples - p)
    let fifo ← fifo.ffFramequeueSkipSamples (nbSamples - p).toNat link.timeBase
    return (buf, { link with fifo })
  else return (buf, { link with fifo })

def ffInlinkCheckAvailableSamples (link : AVFilterLink) (min : Nat) : Bool :=
  let samples := link.fifo.ffFramequeueQueuedSamples
  min ≤ samples.toNat ∨ (link.statusIn ≠ 0 ∧ samples ≠ 0)

/-- A frame when it returns 1, none when it returns 0. -/
def ffInlinkConsumeSamples (link : AVFilterLink) (min max : Nat) : Option (Option AVFrame × AVFilterLink) := do
  if ¬link.ffInlinkCheckAvailableSamples min then return (none, link)
  let min := if link.statusIn ≠ 0 then Nat.min min link.fifo.ffFramequeueQueuedSamples.toNat else min
  let (frame, link) ← link.takeSamples min max
  return (some frame, link)

def ffInlinkConsumeFrame (link : AVFilterLink) : Option (Option AVFrame × AVFilterLink) := do
  if ¬0 < link.fifo.ffFramequeueQueuedFrames then return (none, link)
  if link.fifo.samplesSkipped then
    let frame ← link.fifo.ffFramequeuePeek 0
    link.ffInlinkConsumeSamples frame.nbSamples.toNat frame.nbSamples.toNat
  else
    let (frame, fifo) ← link.fifo.ffFramequeueTake
    return (some frame, { link with fifo })

/-- The status when it returns something else than 0. -/
def ffInlinkAcknowledgeStatus (link : AVFilterLink) : Option (Int × AVFilterLink) :=
  if link.fifo.ffFramequeueQueuedFrames ≠ 0 then none
  else if link.statusOut ≠ 0 then some (link.statusOut, link)
  else if link.statusIn = 0 then none
  else some (link.statusIn, { link with statusOut := link.statusIn })

end AVFilterLink

namespace AVFilterGraph

variable {σ : Type}

def onLink (graph : AVFilterGraph σ) (link : Nat) (change : AVFilterLink → AVFilterLink) : AVFilterGraph σ :=
  { graph with link := Function.update graph.link link (change (graph.link link)) }

def onContext (graph : AVFilterGraph σ) (filter : Nat) (change : AVFilterContext σ → AVFilterContext σ) : AVFilterGraph σ :=
  { graph with context := Function.update graph.context filter (change (graph.context filter)) }

def setPriv (graph : AVFilterGraph σ) (filter : Nat) (priv : Priv σ) : AVFilterGraph σ :=
  graph.onContext filter fun context => { context with priv }

def ffFilterSetReady (graph : AVFilterGraph σ) (filter priority : Nat) : AVFilterGraph σ :=
  graph.onContext filter fun context => { context with ready := max context.ready priority }

def filterUnblock (graph : AVFilterGraph σ) (filter : Nat) : AVFilterGraph σ :=
  (graph.context filter).outputs.foldl (fun graph link => graph.onLink link fun link => { link with frameBlockedIn := false }) graph

/-- `none` where the source asserts that there was no status. -/
def ffAvfilterLinkSetInStatus (graph : AVFilterGraph σ) (link : Nat) (status : Int) : Option (AVFilterGraph σ) :=
  if (graph.link link).statusIn = status then some graph
  else if (graph.link link).statusIn ≠ 0 then none
  else
    let graph := graph.onLink link fun link => { link with statusIn := status, frameWantedOut := false, frameBlockedIn := false }
    some ((graph.filterUnblock (graph.link link).dst).ffFilterSetReady (graph.link link).dst 200)

def ffAvfilterLinkSetOutStatus (graph : AVFilterGraph σ) (link : Nat) (status : Int) : Option (AVFilterGraph σ) :=
  if (graph.link link).frameWantedOut then none
  else if (graph.link link).statusOut ≠ 0 then none
  else
    let graph := graph.onLink link fun link => { link with statusOut := status }
    some ((graph.filterUnblock (graph.link link).dst).ffFilterSetReady (graph.link link).src 200)

def ffRequestFrame (graph : AVFilterGraph σ) (link : Nat) : Option (Int × AVFilterGraph σ) := do
  if (graph.link link).statusOut ≠ 0 then return ((graph.link link).statusOut, graph)
  if (graph.link link).statusIn ≠ 0 then
    if (graph.link link).fifo.ffFramequeueQueuedFrames ≠ 0 then return (0, graph)
    let graph ← graph.ffAvfilterLinkSetOutStatus link (graph.link link).statusIn
    return ((graph.link link).statusOut, graph)
  let graph := graph.onLink link fun link => { link with frameWantedOut := true }
  return (0, graph.ffFilterSetReady (graph.link link).src 100)

def ffFilterFrame (graph : AVFilterGraph σ) (link : Nat) (frame : AVFrame) : Int × AVFilterGraph σ :=
  if ¬(graph.link link).fits frame then (AVERROR_PATCHWELCOME, graph)
  else
    let graph := graph.onLink link fun link => { link with frameBlockedIn := false, frameWantedOut := false }
    let graph := graph.filterUnblock (graph.link link).dst
    let (ret, fifo) := (graph.link link).fifo.ffFramequeueAdd true frame
    let graph := graph.onLink link fun link => { link with fifo }
    if ret < 0 then (ret, graph) else (0, graph.ffFilterSetReady (graph.link link).dst 300)

/-- `none` where the filter has no such pad. -/
def call (graph : AVFilterGraph σ) (filter : Nat) : Method σ → Option (Int × σ × AVFilterGraph σ)
  | .done ret priv => some (ret, priv, graph)
  | .filterFrame pad frame next => do
    let link ← (graph.context filter).outputs[pad]?
    let (ret, graph) := graph.ffFilterFrame link frame
    call graph filter (next ret)
  | .requestFrame pad next => do
    let link ← (graph.context filter).inputs[pad]?
    let (ret, graph) ← graph.ffRequestFrame link
    call graph filter (next ret)

def defaultFilterFrame (graph : AVFilterGraph σ) (link : Nat) (frame : AVFrame) : Option (Int × AVFilterGraph σ) := do
  let outlink ← (graph.context (graph.link link).dst).outputs[0]?
  return graph.ffFilterFrame outlink frame

def ffFilterFrameFramed (graph : AVFilterGraph σ) (link : Nat) (frame : AVFrame) : Option (Int × AVFilterGraph σ) :=
  let dst := (graph.link link).dst
  match (graph.context dst).priv with
  | .other filter priv =>
    match filter.filterFrame (graph.link link).dstpad with
    | some filterFrame => do
      let (ret, priv, graph) ← graph.call dst (filterFrame priv frame)
      return (ret, graph.setPriv dst (.other filter priv))
    | none => graph.defaultFilterFrame link frame
  | _ => graph.defaultFilterFrame link frame

def ffFilterFrameToFilter (graph : AVFilterGraph σ) (link : Nat) : Option (Int × AVFilterGraph σ) := do
  let inlink := graph.link link
  let (frame, inlink) ←
    if inlink.minSamples ≠ 0 then inlink.ffInlinkConsumeSamples inlink.minSamples inlink.maxSamples
    else inlink.ffInlinkConsumeFrame
  let frame ← frame
  let graph := (graph.onLink link fun _ => inlink).filterUnblock inlink.dst
  let (ret, graph) ← graph.ffFilterFrameFramed link frame
  if ret < 0 ∧ ret ≠ (graph.link link).statusOut then
    let graph ← graph.ffAvfilterLinkSetOutStatus link ret
    return (ret, graph)
  else return (ret, graph.ffFilterSetReady inlink.dst 300)

/-- `request_frame` of the pad in front of the link, where there is one. -/
def requestFrame (graph : AVFilterGraph σ) (link : Nat) : Option (Option Int × AVFilterGraph σ) :=
  let src := (graph.link link).src
  match (graph.context src).priv with
  | .abuffer s =>
    if s.eof then some (some AVERROR_EOF, graph)
    else some (some EAGAIN, graph.setPriv src (.abuffer { s with nbFailedRequests := s.nbFailedRequests + 1 }))
  | .abuffersink _ => some (none, graph)
  | .other filter priv =>
    match filter.requestFrame (graph.link link).srcpad with
    | some requestFrame => do
      let (ret, priv, graph) ← graph.call src (requestFrame priv)
      return (some ret, graph.setPriv src (.other filter priv))
    | none => some (none, graph)

/-- A filter without that method has its first input asked instead. -/
def askFilter (graph : AVFilterGraph σ) (link : Nat) : Option (Int × AVFilterGraph σ) := do
  let (asked, graph) ← graph.requestFrame link
  match asked, (graph.context (graph.link link).src).inputs[0]? with
  | some ret, _ => some (ret, graph)
  | none, some inlink => graph.ffRequestFrame inlink
  | none, none => some (-1, graph)

def ffRequestFrameToFilter (graph : AVFilterGraph σ) (link : Nat) : Option (Int × AVFilterGraph σ) := do
  let graph := graph.onLink link fun link => { link with frameBlockedIn := true }
  let (ret, graph) ← graph.askFilter link
  if ret < 0 then
    let graph ←
      if ret ≠ EAGAIN ∧ ret ≠ (graph.link link).statusIn then graph.ffAvfilterLinkSetInStatus link ret else some graph
    return (if ret = AVERROR_EOF then 0 else ret, graph)
  else return (ret, graph)

/-- The loop over the outputs, until one of them makes the filter take note of the status. -/
def forwardTo (filter inlink : Nat) : Nat → Nat → Nat → AVFilterGraph σ → Option (Int × AVFilterGraph σ)
  | 0, _, _, _ => none
  | fuel + 1, out, progress, graph => do
    if (graph.link inlink).statusOut ≠ 0 then return (0, graph.ffFilterSetReady filter 200)
    let outlink ← (graph.context filter).outputs[out]?
    let pending := (graph.link outlink).statusIn = 0
    let (ret, graph) ← if pending then graph.ffRequestFrameToFilter outlink else some (0, graph)
    if ret < 0 then return (ret, graph)
    let progress := if pending then progress + 1 else progress
    if out + 1 = (graph.context filter).outputs.length then
      if progress = 0 then
        let graph ← graph.ffAvfilterLinkSetOutStatus inlink (graph.link inlink).statusIn
        return (0, graph)
      else forwardTo filter inlink fuel 0 0 graph
    else forwardTo filter inlink fuel (out + 1) progress graph

def forwardStatusChange (fuel : Nat) (graph : AVFilterGraph σ) (filter inlink : Nat) : Option (Int × AVFilterGraph σ) :=
  if (graph.link inlink).statusOut ≠ 0 then none
  else if (graph.context filter).outputs = [] then some (0, graph)
  else forwardTo filter inlink fuel 0 0 graph

def ffFilterActivateDefault (fuel : Nat) (graph : AVFilterGraph σ) (filter : Nat) : Option (Int × AVFilterGraph σ) :=
  let context := graph.context filter
  match context.inputs.find? fun link => (graph.link link).samplesReady (graph.link link).minSamples with
  | some link => graph.ffFilterFrameToFilter link
  | none =>
  match context.inputs.find? fun link => (graph.link link).statusIn ≠ 0 ∧ (graph.link link).statusOut = 0 with
  | some link => graph.forwardStatusChange fuel filter link
  | none =>
  match context.outputs.find? fun link => (graph.link link).frameWantedOut ∧ ¬(graph.link link).frameBlockedIn with
  | some link => graph.ffRequestFrameToFilter link
  | none => some (FFERROR_NOT_READY, graph)

/-- `activate` of a sink only warns of frames that nobody fetches. -/
def activateSink (graph : AVFilterGraph σ) (filter : Nat) (buf : BufferSinkContext) : Option (Int × AVFilterGraph σ) := do
  let inlink ← (graph.context filter).inputs[0]?
  if buf.warningLimit ≠ 0 ∧ buf.warningLimit ≤ (graph.link inlink).fifo.ffFramequeueQueuedFrames then
    return (0, graph.setPriv filter (.abuffersink { buf with warningLimit := buf.warningLimit * 10 }))
  else return (0, graph)

def ffFilterActivate (fuel : Nat) (graph : AVFilterGraph σ) (filter : Nat) : Option (Int × AVFilterGraph σ) := do
  let graph := graph.onContext filter fun context => { context with ready := 0 }
  let (ret, graph) ←
    match (graph.context filter).priv with
    | .abuffersink buf => graph.activateSink filter buf
    | _ => graph.ffFilterActivateDefault fuel filter
  return (if ret = FFERROR_NOT_READY then 0 else ret, graph)

/-- The first of the filters that are the readiest. -/
def readiest (graph : AVFilterGraph σ) (first : Nat) (others : List Nat) : Nat :=
  others.foldl (fun filter i => if (graph.context i).ready > (graph.context filter).ready then i else filter) first

def ffFilterGraphRunOnce (fuel : Nat) (graph : AVFilterGraph σ) : Option (Int × AVFilterGraph σ) :=
  match graph.filters with
  | [] => none
  | first :: others =>
    let filter := graph.readiest first others
    if (graph.context filter).ready = 0 then some (EAGAIN, graph) else graph.ffFilterActivate fuel filter

end AVFilterGraph
end Awt.Graph
