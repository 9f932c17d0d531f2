import Awt.Lavfi.Config

/-! `awt_filter_frame` of the filter: append a frame to the input FIFOs, hand on their
full blocks, and cut the output FIFOs into packets. -/

namespace Awt.Lavfi
open OracleProgram

def AWTContext.inputAt (awt : AWTContext) (i : Nat) : Option AWTBuffer := awt.input.bind (·[i]?)

def AWTContext.outputAt (awt : AWTContext) (i : Nat) : Option AWTBuffer := awt.output.bind (·[i]?)

def AWTContext.setInput (awt : AWTContext) (i : Nat) (buffer : AWTBuffer) : AWTContext :=
  { awt with input := awt.input.map (·.set i buffer) }

def AWTContext.setOutput (awt : AWTContext) (i : Nat) (buffer : AWTBuffer) : AWTContext :=
  { awt with output := awt.output.map (·.set i buffer) }

/-- A pointer that is used without a test. -/
def deref : Option AWTBuffer → LavfiM AWTBuffer
  | some buffer => return buffer
  | none => fault .nullBuffer

def receivePlane (inFrame : AVFrame) (i : Nat) : LavfiM (Option Int) := do
  let awt ← Program.get
  let buffer ← deref (awt.inputAt i)
  match inFrame.extendedData[i]? with
  | none => fault (.missingPlane i)
  | some plane =>
    let buffer ← awtBufferMoveIn (.input i) buffer plane 0 inFrame.nbSamples
    Program.modify (·.setInput i buffer)
    return none

/-- Behind the blocks of the channels before it, a channel's block goes into `in`. -/
def gatherBlock (start : Int) (i : Nat) : LavfiM (Option Int) := do
  let awt ← Program.get
  let inBuffer ← deref awt.inBuffer
  let input ← deref (awt.inputAt i)
  let inBuffer ← awtBufferMoveIn .inBuffer inBuffer input.data start awt.awtSize
  Program.modify fun awt => { awt with inBuffer := some inBuffer }
  return none

/-- The SDK reads `awt_size` floats from the pointer it is given. -/
def decodeBlock (i : Nat) : LavfiM (Option Int) := do
  let awt ← Program.get
  let inBuffer ← deref awt.inBuffer
  let off := i * awt.awtSize
  if inBuffer.data.length < off + awt.awtSize then fault (.memory .readPastPlane) else
  let input := (inBuffer.data.drop off.toNat).take awt.awtSize.toNat
  let result ← ask (.awt5DecodeStreamBuffer i (awt.decoder i) input)
  if result.ret ≠ 0 then
    avLog .error (.decoderError result.ret)
    ask (.awt5PrintErrText result.ret)
    return some result.ret
  else if result.found = [] then return none
  else
  avLog .error (.foundWatermark i result.found result.percent)
  Program.modify fun awt => { awt with counter := int32 (awt.counter + 1) }
  return none

def passBlock (i : Nat) : LavfiM (Option Int) := do
  let awt ← Program.get
  let output ← deref (awt.outputAt i)
  let outBuffer ← deref awt.outBuffer
  let off ← int (i * awt.awtSize)
  let output ← awtBufferMoveIn (.output i) output outBuffer.data off awt.awtSize
  Program.modify (·.setOutput i output)
  return none

def dropInput (count : Int) (i : Nat) : LavfiM (Option Int) := do
  let awt ← Program.get
  let input ← deref (awt.inputAt i)
  let input ← awtBufferUpdate input count
  Program.modify (·.setInput i input)
  return none

def dropOutput (count : Int) (i : Nat) : LavfiM (Option Int) := do
  let awt ← Program.get
  let output ← deref (awt.outputAt i)
  let output ← awtBufferUpdate output count
  Program.modify (·.setOutput i output)
  return none

/-- One turn of the loop over the input FIFOs. A failure jumps to `end`. -/
def blockTurn (channels stop start : Int) : LavfiM (Int ⊕ Except Int Int) := do
  let awt ← Program.get
  if ¬ stop - start ≥ awt.awtSize then return .inr (.ok start) else
  ask (.mark (.block start))
  let inBuffer ← deref awt.inBuffer
  Program.modify fun awt => { awt with inBuffer := some { inBuffer with size := 0 } }
  let _ ← Program.each (gatherBlock start) (indices channels)
  match ← Program.each decodeBlock (indices awt.nbDecoder) with
  | some ret => return .inr (.error ret)
  | none =>
  ask (.mark (.pass start))
  let _ ← Program.each passBlock (indices channels)
  return .inl (start + awt.awtSize)

def fillPlane (start : Int) (fresh : Nat → Nat → CFloat) (i : Nat) : LavfiM (List CFloat) := do
  let awt ← Program.get
  let output ← deref (awt.outputAt i)
  awtBufferMoveOut output ((List.range awt.pktSize.toNat).map (fresh i)) start awt.pktSize

/-- One turn of the loop over the output FIFOs. All that `av_frame_copy_props` and the
assignments after it copy comes from the frame that is being filtered. -/
def packetTurn (channels : Int) (inFrame : AVFrame) (stop start : Int) : LavfiM (Int ⊕ Except Int Int) := do
  let awt ← Program.get
  if ¬ stop - start ≥ awt.pktSize then return .inr (.ok start) else
  ask (.mark (.packet start))
  match ← ask (.ffGetAudioBuffer awt.pktSize) with
  | none => return .inr (.error ENOMEM)
  | some fresh =>
  let planes ← Program.collect (fillPlane start fresh) (indices channels)
  let out : AVFrame := { inFrame with nbSamples := awt.pktSize, extendedData := planes }
  let ret ← ask (.ffFilterFrame out)
  if ret ≠ 0 then return .inr (.error ret) else return .inl (start + awt.pktSize)

/-- From the frame's arrival to the update of the input FIFOs; `some` is a jump to `end`. -/
def takeBlocks (fuel : Nat) (channels : Int) (inFrame : AVFrame) : LavfiM (Option Int) := do
  let _ ← Program.each (receivePlane inFrame) (indices channels)
  let awt ← Program.get
  let input ← deref (awt.inputAt 0)
  let stop := input.size / 4
  if stop < awt.awtSize then return some 0 else
  match ← Program.loop .timeout (blockTurn channels stop) fuel 0 with
  | .error ret => return some ret
  | .ok start =>
  let _ ← Program.each (dropInput start) (indices channels)
  return none

/-- The rest of `awt_filter_frame`, with what it returns. -/
def givePackets (fuel : Nat) (channels : Int) (inFrame : AVFrame) : LavfiM Int := do
  let awt ← Program.get
  let output ← deref (awt.outputAt 0)
  let stop := output.size / 4
  if stop < awt.pktSize then return 0 else
  match ← Program.loop .timeout (packetTurn channels inFrame stop) fuel 0 with
  | .error ret => return ret
  | .ok start =>
  let _ ← Program.each (dropOutput start) (indices channels)
  return 0

def awtFilterFrame (fuel : Nat) (inlink : AVFilterLink) (inFrame : AVFrame) : LavfiM Int := do
  ask (.mark (.frame inFrame))
  let early ← takeBlocks fuel inlink.channels inFrame
  let ret ← match early with
    | some ret => pure ret
    | none => givePackets fuel inlink.channels inFrame
  ask .avFrameFree
  return ret

/-- The frames of a link, one after the other, whatever the filter returns for them. -/
def awtFilterFrames (fuel : Nat) (inlink : AVFilterLink) (frames : List AVFrame) : LavfiM (List Int) :=
  Program.collect (awtFilterFrame fuel inlink) frames

end Awt.Lavfi
