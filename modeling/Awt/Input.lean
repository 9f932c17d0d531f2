import Awt.Context

/-! `awt_open_input` and `awt_init_filters`: open a file's best audio stream, and
build the filter graph that converts its frames. -/

namespace Awt
open OracleProgram

/-- An error is returned as the negative code the source returns. -/
def awtOpenInput (filename : String) : AwtM (Except Int Input) := do
  let allocated ← ask .avformatAllocContext
  -- the interrupt callback is stored through the new pointer
  if !allocated then fault .nullContext else
  let code ← ask (.avformatOpenInput filename)
  if code.val < 0 then
    logError (.cannotOpenInput filename) code.val
    return .error code.val
  else
  let code ← ask .avformatFindStreamInfo
  if code.val < 0 then
    logError .cannotFindStreamInfo code.val
    return .error code.val
  else
  let best ← ask .avFindBestStream
  if best.ret < 0 then
    logError (.cannotFindStream filename) best.ret
    return .error best.ret
  else
  let allocated ← ask .avcodecAllocContext3
  if !allocated then return .error ENOMEM else
  ask .avcodecParametersToContext
  let codec ← ask .avcodecOpen2
  if codec.code.val < 0 then
    logError .cannotOpenDecoder codec.code.val
    return .error codec.code.val
  else return .ok ⟨best.stream, codec.decoder⟩

/-- Fill in a missing layout of the codec context. -/
def fillLayout (decoder : AVCodecContext) : AwtM Unit :=
  if decoder.channelLayout = 0 then ask (.setChannelLayout (avGetDefaultChannelLayout decoder.channels)) else pure ()

/-- The arguments of the buffer source, after a missing layout was filled in. -/
def bufferSrcArgs (input : Input) : BufferSrc where
  timeBase := input.st.timeBase
  sampleRate := input.decoder.sampleRate
  sampleFmt := input.decoder.sampleFmt
  channelLayout := if input.decoder.channelLayout = 0 then avGetDefaultChannelLayout input.decoder.channels
    else input.decoder.channelLayout

/-- From the creation of the two ends to the configured graph. -/
def configureGraph (filtersDescr : String) (src : BufferSrc) (sink : BufferSink) : AwtM Int := do
  let code ← ask (.createBufferSrc src)
  if code.val < 0 then
    logError .cannotCreateSource code.val
    return code.val
  else
  let code ← ask .createBufferSink
  if code.val < 0 then
    logError .cannotCreateSink code.val
    return code.val
  else
  let code ← ask (.avOptSetIntList (.sampleFmts sink.sampleFmt))
  if code.val < 0 then
    logError .cannotSetFormat code.val
    return code.val
  else
  let code ← ask (.avOptSetIntList (.channelLayouts sink.channelLayout))
  if code.val < 0 then
    logError .cannotSetLayout code.val
    return code.val
  else
  let code ← ask (.avOptSetIntList (.sampleRates sink.sampleRate))
  if code.val < 0 then
    logError .cannotSetRate code.val
    return code.val
  else
  let code ← ask (.avfilterGraphParsePtr filtersDescr)
  if code.val < 0 then return code.val else
  let code ← ask .avfilterGraphConfig
  if code.val < 0 then return code.val else
  Program.modify fun awt => { awt with fg := some ⟨src, sink⟩ }
  return code.val

/-- Without its three objects there is no graph to configure. -/
def buildGraph (allocated : Bool) (filtersDescr : String) (input : Input) (sink : BufferSink) : AwtM Int := do
  if !allocated then return ENOMEM else
  fillLayout input.decoder
  configureGraph filtersDescr (bufferSrcArgs input) sink

def discardGraph (ret : Int) : AwtM Unit :=
  if ret ≠ 0 then ask (.release .filterGraph) else pure ()

def awtInitFilters (filtersDescr : String) (format : AVSampleFormat) (channels : Int) (input : Input) :
    AwtM Int := do
  let awt ← Program.get
  let sink : BufferSink := ⟨format, avGetDefaultChannelLayout channels, awt.sampleRate⟩
  let outputs ← ask .avfilterInoutAlloc
  let inputs ← ask .avfilterInoutAlloc
  let filterGraph ← ask .avfilterGraphAlloc
  let ret ← buildGraph (outputs && inputs && filterGraph) filtersDescr input sink
  ask (.release .inputs)
  ask (.release .outputs)
  discardGraph ret
  return ret

end Awt
