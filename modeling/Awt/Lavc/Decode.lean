import Awt.Lavc.Packet

/-! `avcodec_send_packet` and `avcodec_receive_frame` for an audio decoder with the simple
API and without frame threads. Allocations succeed. -/

namespace Awt.Lavc
open Lavu (AVRational)

/-- The copy of a packet's properties that outlives its data; `none` where it is empty. -/
structure PacketProps where
  size : Int
  pts : Option Int
  dts : Option Int
  sideData : List (AVPacketSideDataType × List UInt8)
  deriving DecidableEq

variable {σ : Type}

/-- What a decoder writes of its context, and of the `internal` of its context; `σ` is what
only the decoder knows. -/
structure AVCodecContext (σ : Type) where
  privData : σ
  sampleFmt : AVSampleFormat
  channelLayout : Nat
  channels : Int
  sampleRate : Int
  skipSamples : Int
  skipSamplesMultiplier : Int

/-- What the caller sets in the context: `skipManual` is `AV_CODEC_FLAG2_SKIP_MANUAL`,
`explode` is `AV_EF_EXPLODE`, and `dropChanged` is `AV_CODEC_FLAG_DROPCHANGED`. -/
structure AVCodecOptions where
  pktTimebase : AVRational
  maxSamples : Int
  skipManual : Bool
  explode : Bool
  dropChanged : Bool

/-- The fields that guess timestamps; the times are `none` for `INT64_MIN`. -/
structure PtsCorrection where
  numFaultyPts : Int
  numFaultyDts : Int
  lastPts : Option Int
  lastDts : Option Int
  deriving DecidableEq

/-- What one call of a decoder comes to: `ret` is the number of bytes it took. -/
structure Decoded (σ : Type) where
  ret : Int
  gotFrame : Bool
  frame : AVFrame
  avctx : AVCodecContext σ

/-- A decoder reads a packet and the properties of the packet it is a part of. -/
structure AVCodec (σ : Type) where
  delay : Bool
  paramChange : Bool
  setsFrameProps : Bool
  setsPktDts : Bool
  ffSetDimensions : Int → Int → Int
  decode : AVCodecContext σ → Option PacketProps → AVPacket → Decoded σ

/-- What the first frame was like. -/
structure InitialFrame where
  format : AVSampleFormat
  sampleRate : Int
  channels : Int
  channelLayout : Nat
  deriving DecidableEq

/-- `initial` is `none` until a frame was received. -/
structure AVCodecInternal where
  bsf : FFBSFContext
  inPkt : AVPacket
  lastPktProps : Option PacketProps
  pktProps : List PacketProps
  bufferFrame : Option AVFrame
  draining : Bool
  drainingDone : Bool
  nbDrainingErrors : Int
  initial : Option InitialFrame

/-- A context with what `avcodec_open2` allocates for it. -/
structure Decoder (σ : Type) where
  avctx : AVCodecContext σ
  options : AVCodecOptions
  correction : PtsCorrection
  internal : AVCodecInternal

def AVCodecInternal.opened : AVCodecInternal where
  bsf := ⟨.unref, false⟩
  inPkt := .unref
  lastPktProps := none
  pktProps := []
  bufferFrame := none
  draining := false
  drainingDone := false
  nbDrainingErrors := 0
  initial := none

def Decoder.opened (avctx : AVCodecContext σ) (options : AVCodecOptions) : Decoder σ :=
  ⟨avctx, options, ⟨0, 0, none, none⟩, .opened⟩

section params

/-- A parameter that changes when its flag is set: the bytes it has, and how they are taken. -/
def changeField (flags flag size : Nat) (set : AVCodecContext σ → List UInt8 → Int × AVCodecContext σ)
    (change : Int × AVCodecContext σ × List UInt8) : Int × AVCodecContext σ × List UInt8 :=
  let (ret, avctx, data) := change
  if ret < 0 ∨ flags &&& flag = 0 then change
  else if data.length < size then (AVERROR_INVALIDDATA, avctx, data)
  else
    let (ret, avctx) := set avctx data
    (ret, avctx, data.drop size)

def positiveInt (value : Nat) : Bool := 0 < value ∧ value ≤ INT_MAX

def changeParams (codec : AVCodec σ) (avctx : AVCodecContext σ) (data : List UInt8) : Int × AVCodecContext σ :=
  if !codec.paramChange then (EINVAL, avctx)
  else if data.length < 4 then (AVERROR_INVALIDDATA, avctx)
  else
    let flags := littleEndian 4 data
    let change := (0, avctx, data.drop 4)
    let change := changeField flags 1 4 (fun avctx data =>
      let val := littleEndian 4 data
      if positiveInt val then (0, { avctx with channels := val }) else (AVERROR_INVALIDDATA, avctx)) change
    let change := changeField flags 2 8 (fun avctx data =>
      (0, { avctx with channelLayout := littleEndian 8 data })) change
    let change := changeField flags 4 4 (fun avctx data =>
      let val := littleEndian 4 data
      if positiveInt val then (0, { avctx with sampleRate := val }) else (AVERROR_INVALIDDATA, avctx)) change
    let change := changeField flags 8 8 (fun avctx data =>
      (codec.ffSetDimensions (littleEndian 4 data) (littleEndian 4 (data.drop 4)), avctx)) change
    (change.1, change.2.1)

def applyParamChange (codec : AVCodec σ) (options : AVCodecOptions) (avctx : AVCodecContext σ) (avpkt : AVPacket) :
    Int × AVCodecContext σ :=
  match avpkt.avPacketGetSideData .paramChange with
  | none => (0, avctx)
  | some data =>
    let (ret, avctx) := changeParams codec avctx data
    if ret < 0 ∧ options.explode then (ret, avctx) else (0, avctx)

end params
section packets

def copyPacketProps (src : AVPacket) : PacketProps := ⟨src.size, src.pts, src.dts, src.sideData⟩

def extractPacketProps (avci : AVCodecInternal) (pkt : AVPacket) : AVCodecInternal :=
  match avci.lastPktProps, avci.pktProps with
  | none, [] => { avci with lastPktProps := some (copyPacketProps pkt) }
  | none, first :: pktProps =>
    { avci with lastPktProps := some first, pktProps := pktProps ++ [copyPacketProps pkt] }
  | some _, pktProps => { avci with pktProps := pktProps ++ [copyPacketProps pkt] }

def ffDecodeGetPacket (codec : AVCodec σ) (dec : Decoder σ) : Int × AVPacket × Decoder σ :=
  if dec.internal.draining then (AVERROR_EOF, .unref, dec)
  else
    let (ret, pkt, bsf) := avBsfReceivePacket dec.internal.bsf
    let avci := { dec.internal with bsf }
    if ret < 0 then (ret, pkt, { dec with internal := { avci with draining := ret = AVERROR_EOF } })
    else
      let avci := if codec.setsFrameProps then avci else extractPacketProps avci pkt
      let (ret, avctx) := applyParamChange codec dec.options dec.avctx pkt
      let dec := { dec with avctx, internal := avci }
      if ret < 0 then (ret, .unref, dec) else (0, pkt, dec)

end packets
section frames

/-- A frame on its way through the discarding of samples. -/
structure Trim where
  gotFrame : Bool
  frame : AVFrame
  skipSamples : Int
  discardedSamples : Int

variable (avctx : AVCodecContext σ) (options : AVCodecOptions)

def fillFrame (frame : AVFrame) : AVFrame :=
  { frame with
    format := if frame.format = .none then avctx.sampleFmt else frame.format
    channelLayout := if frame.channelLayout = 0 then avctx.channelLayout else frame.channelLayout
    channels := if frame.channels = 0 then avctx.channels else frame.channels
    sampleRate := if frame.sampleRate = 0 then avctx.sampleRate else frame.sampleRate }

/-- The samples to skip, and the others that the side data names. -/
def readSkipSamples (lastPktProps : Option PacketProps) : SkipSamples :=
  match lastPktProps.bind fun props => (props.sideData.find? fun entry => entry.1 = .skipSamples).map (·.2) with
  | none => ⟨avctx.skipSamples, 0, 0, 0⟩
  | some side =>
    if side.length < 10 then ⟨avctx.skipSamples, 0, 0, 0⟩
    else ⟨(littleEndian 4 side * avctx.skipSamplesMultiplier).bmod (2 ^ 32), littleEndian 4 (side.drop 4),
      littleEndian 1 (side.drop 8), littleEndian 1 (side.drop 9)⟩

def discardFlagged (trim : Trim) : Trim :=
  if trim.frame.discard ∧ trim.gotFrame ∧ !options.skipManual then
    { trim with
      skipSamples := max 0 (trim.skipSamples - trim.frame.nbSamples)
      gotFrame := false
      discardedSamples := trim.discardedSamples + trim.frame.nbSamples }
  else trim

/-- The time that a number of samples takes, where both time bases are known. -/
def diffTs (samples : Int) : Option (Option Int) :=
  if options.pktTimebase.num ≠ 0 ∧ avctx.sampleRate ≠ 0 then
    (Lavu.avRescaleQ samples ⟨1, avctx.sampleRate⟩ options.pktTimebase).map some
  else some none

def laterBy (diff : Int) : Option Int → Option (Option Int)
  | none => some none
  | some time => (Lavu.int64 (time + diff)).map some

def shiftFrame (frame : AVFrame) : Option Int → Option AVFrame
  | none => some frame
  | some diff => do
    let pts ← laterBy diff frame.pts
    let pktDts ← laterBy diff frame.pktDts
    return { frame with
      pts, pktDts
      pktDuration := if frame.pktDuration ≥ diff then frame.pktDuration - diff else frame.pktDuration }

def skipFront (trim : Trim) : Option Trim :=
  if trim.skipSamples > 0 ∧ trim.gotFrame ∧ !options.skipManual then
    if trim.frame.nbSamples ≤ trim.skipSamples then
      some { trim with
        gotFrame := false
        discardedSamples := trim.discardedSamples + trim.frame.nbSamples
        skipSamples := trim.skipSamples - trim.frame.nbSamples }
    else do
      let diff ← diffTs avctx options trim.skipSamples
      let frame ← shiftFrame trim.frame diff
      return { trim with
        frame := { frame with
          extendedData := frame.extendedData.map (·.drop trim.skipSamples.toNat)
          nbSamples := frame.nbSamples - trim.skipSamples }
        discardedSamples := trim.discardedSamples + trim.skipSamples
        skipSamples := 0 }
  else some trim

/-- A negative number of samples would count as a large one. -/
def dropPadding (discardPadding : Nat) (trim : Trim) : Option Trim :=
  if 0 < discardPadding ∧ discardPadding ≤ trim.frame.nbSamples % 2 ^ 32 ∧ trim.gotFrame ∧ !options.skipManual then
    if discardPadding = trim.frame.nbSamples then
      some { trim with
        discardedSamples := trim.discardedSamples + trim.frame.nbSamples
        gotFrame := false }
    else do
      let left := trim.frame.nbSamples - discardPadding
      let diff ← diffTs avctx options left
      return { trim with
        frame := { trim.frame with
          pktDuration := diff.getD trim.frame.pktDuration
          extendedData := trim.frame.extendedData.map (·.take left.toNat)
          nbSamples := left } }
  else some trim

def noteSkip (skip : SkipSamples) (trim : Trim) : Trim :=
  if options.skipManual ∧ trim.gotFrame then
    { trim with
      frame := { trim.frame with sideData := some { skip with skipSamples := trim.skipSamples } }
      skipSamples := 0 }
  else trim

def trimFrame (skip : SkipSamples) (gotFrame : Bool) (frame : AVFrame) : Option Trim := do
  let trim := discardFlagged options ⟨gotFrame, frame, skip.skipSamples, 0⟩
  let trim ← skipFront avctx options trim
  let trim ← dropPadding avctx options skip.discardPadding trim
  return noteSkip options skip trim

end frames
section simple

def nbErrorsMax : Int := 20 + 1

/-- A decoder that gives no frame any more is done, and one that only fails is stopped. -/
def checkDraining (avci : AVCodecInternal) (gotFrame : Bool) (ret : Int) : Int × AVCodecInternal :=
  if avci.draining ∧ !gotFrame then
    if ret < 0 then
      if avci.nbDrainingErrors ≥ nbErrorsMax then
        (AVERROR_BUG, { avci with nbDrainingErrors := avci.nbDrainingErrors + 1, drainingDone := true })
      else (ret, { avci with nbDrainingErrors := avci.nbDrainingErrors + 1 })
    else (ret, { avci with drainingDone := true })
  else (ret, avci)

def consume (codec : AVCodec σ) (avci : AVCodecInternal) (ret : Int) : AVCodecInternal :=
  if ret ≥ avci.inPkt.size ∨ ret < 0 then { avci with inPkt := .unref, lastPktProps := none }
  else
    { avci with
      inPkt := { avci.inPkt with data := avci.inPkt.data.map (·.drop ret.toNat), pts := none, dts := none }
      lastPktProps :=
        if codec.setsFrameProps then avci.lastPktProps
        else avci.lastPktProps.map fun props => { props with size := props.size - ret, pts := none, dts := none } }

/-- What a turn of the receiving loop comes to. -/
structure Simple (σ : Type) where
  ret : Int
  frame : Option AVFrame
  discardedSamples : Int
  dec : Decoder σ

/-- The decoder is called with what is left of the packet. -/
def decodePacket (codec : AVCodec σ) (dec : Decoder σ) : Option (Simple σ) := do
  let avci := dec.internal
  let decoded := codec.decode dec.avctx avci.lastPktProps avci.inPkt
  let frame := if codec.setsPktDts then decoded.frame else { decoded.frame with pktDts := avci.inPkt.dts }
  let frame := if decoded.ret ≥ 0 ∧ decoded.gotFrame then fillFrame decoded.avctx frame else frame
  let trim ← trimFrame decoded.avctx dec.options (readSkipSamples decoded.avctx avci.lastPktProps) decoded.gotFrame frame
  let (ret, avci) := checkDraining avci decoded.gotFrame decoded.ret
  return {
    ret := if ret < 0 then ret else 0
    frame := if trim.gotFrame then some trim.frame else none
    discardedSamples := trim.discardedSamples
    dec := { dec with avctx := { decoded.avctx with skipSamples := trim.skipSamples }, internal := consume codec avci ret } }

/-- A turn with `ret` of the call that fetched a packet, if there was one. -/
def decodeFetched (codec : AVCodec σ) (ret : Int) (dec : Decoder σ) : Option (Simple σ) :=
  if ret < 0 ∧ ret ≠ AVERROR_EOF then some ⟨ret, none, 0, dec⟩
  else if dec.internal.drainingDone then some ⟨AVERROR_EOF, none, 0, dec⟩
  else if dec.internal.inPkt.data.isNone ∧ !codec.delay then some ⟨AVERROR_EOF, none, 0, dec⟩
  else decodePacket codec dec

def decodeSimpleInternal (codec : AVCodec σ) (dec : Decoder σ) : Option (Simple σ) :=
  if dec.internal.inPkt.data.isNone ∧ !dec.internal.draining then
    let (ret, pkt, dec) := ffDecodeGetPacket codec dec
    decodeFetched codec ret { dec with internal := { dec.internal with inPkt := pkt } }
  else decodeFetched codec 0 dec

/-- `none` where a timestamp overflows, or `fuel` turns do not come to an end. -/
def decodeSimpleReceiveFrame (codec : AVCodec σ) : Nat → Int → Decoder σ → Option (Simple σ)
  | 0, _, _ => none
  | fuel + 1, discardedSamples, dec => do
    if discardedSamples > dec.options.maxSamples then return ⟨EAGAIN, none, discardedSamples, dec⟩
    let simple ← decodeSimpleInternal codec dec
    let discardedSamples := discardedSamples + simple.discardedSamples
    if simple.ret < 0 ∨ simple.frame.isSome then return { simple with discardedSamples }
    decodeSimpleReceiveFrame codec fuel discardedSamples simple.dec

end simple
section receive

/-- A time that does not come after the last one is faulty. -/
def faulty (time : Option Int) (last : Option Int) : Int :=
  match time with
  | none => 0
  | some time => if time ≤ last.getD INT64_MIN then 1 else 0

def guessCorrectPts (ctx : PtsCorrection) (reorderedPts dts : Option Int) : Option Int × PtsCorrection :=
  let ctx := {
    numFaultyDts := ctx.numFaultyDts + faulty dts ctx.lastDts
    lastDts := dts.or (reorderedPts.or ctx.lastDts)
    numFaultyPts := ctx.numFaultyPts + faulty reorderedPts ctx.lastPts
    lastPts := reorderedPts.or (dts.or ctx.lastPts) }
  if (ctx.numFaultyPts ≤ ctx.numFaultyDts ∨ dts = none) ∧ reorderedPts ≠ none then (reorderedPts, ctx) else (dts, ctx)

def nextProps (codec : AVCodec σ) (avci : AVCodecInternal) : AVCodecInternal :=
  match avci.lastPktProps, avci.pktProps with
  | none, first :: pktProps =>
    if codec.setsFrameProps then avci else { avci with lastPktProps := some first, pktProps }
  | _, _ => avci

/-- What is done when the loop has come to an end. -/
def settle (codec : AVCodec σ) (ret : Int) (frame : Option AVFrame) (dec : Decoder σ) : Option AVFrame × Decoder σ :=
  let avci := if ret = AVERROR_EOF then { dec.internal with drainingDone := true } else dec.internal
  let avci := nextProps codec avci
  match frame with
  | some frame =>
    if ret ≠ 0 then (some frame, { dec with internal := avci })
    else
      let (pts, correction) := guessCorrectPts dec.correction frame.pts frame.pktDts
      (some { frame with bestEffortTimestamp := pts }, { dec with correction, internal := avci })
  | none => (none, { dec with internal := avci })

def decodeReceiveFrameInternal (codec : AVCodec σ) (fuel : Nat) (dec : Decoder σ) :
    Option (Int × Option AVFrame × Decoder σ) := do
  let simple ← decodeSimpleReceiveFrame codec fuel 0 dec
  return (simple.ret, settle codec simple.ret simple.frame simple.dec)

/-- `none` for `avpkt` is the null pointer. -/
def avcodecSendPacket (codec : AVCodec σ) (fuel : Nat) (dec : Decoder σ) (avpkt : Option AVPacket) :
    Option (Int × Decoder σ) := do
  if dec.internal.draining then return (AVERROR_EOF, dec)
  if avpkt.any fun pkt => pkt.data = some [] then return (EINVAL, dec)
  let (ret, bsf) := avBsfSendPacket dec.internal.bsf (avpkt.getD .unref)
  let dec := { dec with internal := { dec.internal with bsf } }
  if ret < 0 then return (ret, dec)
  if dec.internal.bufferFrame.isSome then return (0, dec)
  let (ret, frame, dec) ← decodeReceiveFrameInternal codec fuel dec
  let dec := { dec with internal := { dec.internal with bufferFrame := frame } }
  if ret < 0 ∧ ret ≠ EAGAIN ∧ ret ≠ AVERROR_EOF then return (ret, dec)
  return (0, dec)

/-- The frame that was decoded ahead, or another one. -/
def takeFrame (codec : AVCodec σ) (fuel : Nat) (dec : Decoder σ) : Option (Int × Option AVFrame × Decoder σ) :=
  match dec.internal.bufferFrame with
  | some frame => some (0, some frame, { dec with internal := { dec.internal with bufferFrame := none } })
  | none => decodeReceiveFrameInternal codec fuel dec

/-- A frame that is not like the first one is dropped if the caller wants that. -/
def checkChanged (frame : AVFrame) (dec : Decoder σ) : Int × Option AVFrame × Decoder σ :=
  if dec.options.dropChanged then
    match dec.internal.initial with
    | none =>
      let sampleRate := if frame.sampleRate ≠ 0 then frame.sampleRate else dec.avctx.sampleRate
      let initial := ⟨frame.format, sampleRate, frame.channels, frame.channelLayout⟩
      (0, some frame, { dec with internal := { dec.internal with initial := some initial } })
    | some initial =>
      if initial ≠ ⟨frame.format, frame.sampleRate, frame.channels, frame.channelLayout⟩ ∨
          initial.sampleRate ≠ dec.avctx.sampleRate then (AVERROR_INPUT_CHANGED, none, dec)
      else (0, some frame, dec)
  else (0, some frame, dec)

def avcodecReceiveFrame (codec : AVCodec σ) (fuel : Nat) (dec : Decoder σ) :
    Option (Int × Option AVFrame × Decoder σ) := do
  let (ret, frame, dec) ← takeFrame codec fuel dec
  match frame with
  | some frame => if ret < 0 then return (ret, some frame, dec) else return checkChanged frame dec
  | none => return (ret, none, dec)

end receive
end Awt.Lavc
