import Awt.Graph.Filter

/-! The two ends of a graph that a program calls: frames are added to an "abuffer" and
fetched from an "abuffersink", which runs the graph for them. -/

namespace Awt.Graph

/-- The flags of `av_buffersrc_add_frame_flags` that are read; a frame that is kept is the
same one as a frame that is moved. -/
structure SourceFlags where
  noCheckFormat : Bool
  push : Bool
  deriving DecidableEq

structure SinkFlags where
  peek : Bool
  noRequest : Bool
  deriving DecidableEq

/-- Whether `CHECK_AUDIO_PARAM_CHANGE` lets a frame pass. -/
def BufferSourceContext.accepts (s : BufferSourceContext) (frame : AVFrame) : Bool :=
  s.sampleFmt = frame.format ∧ s.sampleRate = frame.sampleRate ∧ s.channelLayout = frame.channelLayout ∧ s.channels = frame.channels

namespace AVFilterGraph

variable {σ : Type}

def pushFrame (fuel : Nat) : Nat → AVFilterGraph σ → Option (Int × AVFilterGraph σ)
  | 0, _ => none
  | count + 1, graph => do
    let (ret, graph) ← graph.ffFilterGraphRunOnce fuel
    if ret = EAGAIN then return (0, graph)
    else if ret < 0 then return (ret, graph)
    else pushFrame fuel count graph

def avBuffersrcClose (fuel : Nat) (graph : AVFilterGraph σ) (ctx : Nat) (s : BufferSourceContext) (push : Bool) :
    Option (Int × AVFilterGraph σ) := do
  let graph := graph.setPriv ctx (.abuffer { s with eof := true })
  let link ← (graph.context ctx).outputs[0]?
  let graph ← graph.ffAvfilterLinkSetInStatus link AVERROR_EOF
  if push then pushFrame fuel fuel graph else return (0, graph)

/-- The part behind the checks. -/
def addFrame (fuel : Nat) (graph : AVFilterGraph σ) (ctx : Nat) (frame : AVFrame) (push : Bool) : Option (Int × AVFilterGraph σ) := do
  let link ← (graph.context ctx).outputs[0]?
  let (ret, graph) := graph.ffFilterFrame link frame
  if ret < 0 then return (ret, graph)
  else if push then
    let (ret, graph) ← pushFrame fuel fuel graph
    return (if ret < 0 then ret else 0, graph)
  else return (0, graph)

/-- `none` where `ctx` is no source. -/
def avBuffersrcAddFrameFlags (fuel : Nat) (graph : AVFilterGraph σ) (ctx : Nat) (frame : Option AVFrame) (flags : SourceFlags) :
    Option (Int × AVFilterGraph σ) :=
  match (graph.context ctx).priv with
  | .abuffer s =>
    if frame.any fun frame => frame.channelLayout ≠ 0 ∧ avGetChannelLayoutNbChannels frame.channelLayout ≠ frame.channels then
      some (EINVAL, graph)
    else
    let s := { s with nbFailedRequests := 0 }
    let graph := graph.setPriv ctx (.abuffer s)
    match frame with
    | none => graph.avBuffersrcClose fuel ctx s flags.push
    | some frame =>
      if s.eof then some (EINVAL, graph)
      else if flags.noCheckFormat then graph.addFrame fuel ctx frame flags.push
      else
        let frame := if frame.channelLayout = 0 then { frame with channelLayout := s.channelLayout } else frame
        if ¬s.accepts frame then some (EINVAL, graph) else graph.addFrame fuel ctx frame flags.push
  | _ => none

/-- The loop of `get_frame_internal` behind the look at the peeked frame, with the frame
that it fetches. -/
def fetchFrame (fuel : Nat) (ctx inlink : Nat) (flags : SinkFlags) (samples : Nat) :
    Nat → AVFilterGraph σ → Option (Int × Option AVFrame × AVFilterGraph σ)
  | 0, _ => none
  | count + 1, graph => do
    let link := graph.link inlink
    let (frame, taken) ← if samples ≠ 0 then link.ffInlinkConsumeSamples samples samples else link.ffInlinkConsumeFrame
    if let some frame := frame then return (0, some frame, graph.onLink inlink fun _ => taken)
    if let some (status, link) := link.ffInlinkAcknowledgeStatus then return (status, none, graph.onLink inlink fun _ => link)
    if flags.noRequest then return (EAGAIN, none, graph)
    if link.frameWantedOut then
      let (ret, graph) ← graph.ffFilterGraphRunOnce fuel
      if ret < 0 then return (ret, none, graph) else fetchFrame fuel ctx inlink flags samples count graph
    else
      let graph := graph.onLink inlink fun link => { link with frameWantedOut := true }
      fetchFrame fuel ctx inlink flags samples count (graph.ffFilterSetReady link.src 100)

/-- With the frame that is returned; a frame that is peeked at is kept. -/
def getFrameInternal (fuel : Nat) (graph : AVFilterGraph σ) (ctx : Nat) (flags : SinkFlags) (samples : Nat) :
    Option (Int × Option AVFrame × AVFilterGraph σ) :=
  match (graph.context ctx).priv with
  | .abuffersink buf => do
    let inlink ← (graph.context ctx).inputs[0]?
    let keep (graph : AVFilterGraph σ) (frame : AVFrame) : AVFilterGraph σ :=
      match (graph.context ctx).priv with
      | .abuffersink buf => graph.setPriv ctx (.abuffersink { buf with peekedFrame := if flags.peek then some frame else none })
      | _ => graph
    if let some frame := buf.peekedFrame then return (0, some frame, keep graph frame)
    let (ret, frame, graph) ← fetchFrame fuel ctx inlink flags samples fuel graph
    match frame with
    | some frame => return (ret, some frame, keep graph frame)
    | none => return (ret, none, graph)
  | _ => none

def avBuffersinkGetFrameFlags (fuel : Nat) (graph : AVFilterGraph σ) (ctx : Nat) (flags : SinkFlags) :
    Option (Int × Option AVFrame × AVFilterGraph σ) := do
  let inlink ← (graph.context ctx).inputs[0]?
  graph.getFrameInternal fuel ctx flags (graph.link inlink).minSamples

def avBuffersinkGetFrame (fuel : Nat) (graph : AVFilterGraph σ) (ctx : Nat) : Option (Int × Option AVFrame × AVFilterGraph σ) :=
  graph.avBuffersinkGetFrameFlags fuel ctx ⟨false, false⟩

def avBuffersinkGetSamples (fuel : Nat) (graph : AVFilterGraph σ) (ctx nbSamples : Nat) : Option (Int × Option AVFrame × AVFilterGraph σ) :=
  graph.getFrameInternal fuel ctx ⟨false, false⟩ nbSamples

end AVFilterGraph
end Awt.Graph
