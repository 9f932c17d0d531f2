import Awt.Types
import Awt.Lib.OracleProgram

/-! The calls that leave the detector: the SDK, FFmpeg, the C library and the two
user callbacks. A history of a context is the list of these calls, in order. -/

namespace Awt
open OracleProgram

inductive LogLevel where
  | info | error
  deriving DecidableEq

/-- The formats given to `snprintf`, with the arguments they print. Times and the
codec's name are left out of the two summaries. -/
inductive LogMsg where
  | licenseInitFailed
  | unableToLoad (url : CString)
  | licenseGenerationFailed
  | licenseInfoFailed (duration valid : UInt32)
  | invalidPreset (preset : Int)
  | configure (licenseDuration licenseValid preset bottomFreq topFreq framesyncFreq payloadFrames
      crcPercent payloadLength : Int)
  | couldNotInitialize (error : Nat)
  | decoderError (error : Nat)
  | cannotCreateSource
  | cannotCreateSink
  | cannotSetFormat
  | cannotSetLayout
  | cannotSetRate
  | cannotOpenInput (filename : String)
  | cannotFindStreamInfo
  | cannotFindStream (filename : String)
  | cannotOpenDecoder
  | errorSending
  | errorReceiving
  | errorFeeding
  | start (filePath : String) (channels rate sampleRate awtSize : Int)
  | finish (counter ec : Int)
  deriving DecidableEq

/-- The lists set on the sink before the graph is configured. -/
inductive SinkOption where
  | sampleFmts (format : AVSampleFormat)
  | channelLayouts (layout : Nat)
  | sampleRates (rate : Int)
  deriving DecidableEq

inductive Resource where
  | licenseRequest | license | buffer (index : Nat)
  | inputs | outputs | filterGraph
  | decoder | fmtCtx | packet | frame | filtFrame | context
  deriving DecidableEq

/-- A value the SDK wrote through `buffer_size` is kept even when it failed. -/
structure InitResult where
  ret : Nat
  bufferSize : Option Int

structure LicenseInfo where
  ret : Nat
  validForSec : UInt32
  licensedDurationSec : UInt32
  deriving DecidableEq

/-- `found` is the text in the caller's array when the call returns. -/
structure BufferResult where
  ret : Nat
  found : CString
  percent : CFloat

inductive ReadResult where
  | bytes (chunk : List UInt8) (nonempty : chunk ≠ []) (fits : chunk.length ≤ 2048)
  | ended (code : AvCode)
  deriving DecidableEq

structure StreamResult where
  ret : Int
  stream : AVStream

structure CodecResult where
  code : AvCode
  decoder : AVCodecContext

structure PacketResult where
  code : AvCode
  packet : AVPacket

structure FrameResult where
  code : AvCode
  frame : AVFrame

/-- What `awt_open_input` hands to `awt_run`. -/
structure Input where
  st : AVStream
  decoder : AVCodecContext
  deriving DecidableEq

/-- Not calls of the program: the model notes here what one of its own functions
returned, and that the packet loop was left at the duration limit. -/
inductive Mark where
  | openInput (result : Except Int Input)
  | initFilters (ret : Int)
  | setup (ret : Int)
  | limit

/-- `setChannelLayout` is a store to the field of the codec context, from which the codec
takes the layout of its frames. -/
inductive Call where
  | awt5LicenseRequest (durationSec : Nat)
  | awt5LicenseInfo (license : CString) (method : Int)
  | awt5DecodeStreamInit (index : Nat) (settings : DecodeSettings)
  | awt5DecodeStreamBuffer (index : Nat) (decObj : Option DecObj) (input : Option (List CFloat))
  | awt5DecodeStreamKill (index : Nat) (decObj : Option DecObj)
  | awt5PrintErrText (error : Nat)
  | callback (channel : Nat) (wm : CString) (percent : CFloat) (posAt : Rat)
  | logCallback (level : LogLevel) (msg : LogMsg) (ffRet : Option Int)
  | malloc (what : Resource) (size : Int)
  | memcpy (channel : Nat) (dstOff srcOff count : Int)
  | release (what : Resource)
  | running
  | avGettime
  | usleep (delta : Int)
  | avioOpen (url : CString)
  | avioRead
  | avioClose
  | avformatAllocContext
  | avformatOpenInput (filename : String)
  | avformatFindStreamInfo
  | avFindBestStream
  | avcodecAllocContext3
  | avcodecParametersToContext
  | avcodecOpen2
  | avfilterInoutAlloc
  | avfilterGraphAlloc
  | createBufferSrc (args : BufferSrc)
  | createBufferSink
  | avOptSetIntList (option : SinkOption)
  | avfilterGraphParsePtr (filtersDescr : String)
  | avfilterGraphConfig
  | setChannelLayout (layout : Nat)
  | avPacketAlloc
  | avFrameAlloc
  | avReadFrame
  | avPacketUnref
  | avFrameUnref
  | avcodecSendPacket (packet : AVPacket)
  | avcodecReceiveFrame
  | avBuffersrcAddFrameFlags (frame : AVFrame)
  | avBuffersinkGetFrame
  | mark (mark : Mark)

/-- The first call of `awt_run`. -/
def Call.startsRun : Call → Bool
  | .avPacketAlloc => true
  | _ => false

/-- An allocation answers whether it returned memory. `running` is the field that
`awt_close` clears from another thread without the lock, so it is read as an
answer of the environment. -/
abbrev Answer : Call → Type
  | .awt5LicenseRequest _ => Option CString
  | .awt5LicenseInfo _ _ => LicenseInfo
  | .awt5DecodeStreamInit _ _ => InitResult
  | .awt5DecodeStreamBuffer _ _ _ => BufferResult
  | .callback _ _ _ _ => Int
  | .malloc _ _ => Bool
  | .running => Bool
  | .avGettime => Int
  | .avioOpen _ => AvCode
  | .avioRead => ReadResult
  | .avformatAllocContext => Bool
  | .avformatOpenInput _ => AvCode
  | .avformatFindStreamInfo => AvCode
  | .avFindBestStream => StreamResult
  | .avcodecAllocContext3 => Bool
  | .avcodecOpen2 => CodecResult
  | .avfilterInoutAlloc => Bool
  | .avfilterGraphAlloc => Bool
  | .createBufferSrc _ => AvCode
  | .createBufferSink => AvCode
  | .avOptSetIntList _ => AvCode
  | .avfilterGraphParsePtr _ => AvCode
  | .avfilterGraphConfig => AvCode
  | .avPacketAlloc => Bool
  | .avFrameAlloc => Bool
  | .avReadFrame => PacketResult
  | .avcodecSendPacket _ => AvCode
  | .avcodecReceiveFrame => FrameResult
  | .avBuffersrcAddFrameFlags _ => AvCode
  | .avBuffersinkGetFrame => FrameResult
  | _ => Unit

/-- What the detector needs of its surroundings. -/
abbrev Surroundings : Interface := ⟨Call, Answer⟩

/-- Memory errors of the C program; nothing is known of a run after one. -/
inductive Fault where
  | urlOverflow
  | licenseOverflow
  | nullLicense
  | nullContext
  | missingPlane (channel : Nat)
  | missingBuffer (channel : Nat)
  | negativeCount
  | readPastPlane
  | writePastBuffer
  | intOverflow
  deriving DecidableEq

/-- A run that does not return has either hit a memory error or is still looping
when the turns it was given are used up. -/
inductive Stop where
  | fault (why : Fault)
  | timeout
  deriving DecidableEq

end Awt
