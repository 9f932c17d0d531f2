import Awt.Context

/-! The "awt" filter of libavfilter: what it keeps between two frames and the calls
that leave it. Its encoder settings are only printed and left out. -/

namespace Awt.Lavfi
open OracleProgram

/-- An `AWTBuffer` has room for `max` bytes at `data` and holds `size` of them. Only
whole floats are moved, so `data` lists floats; a NULL pointer has none. -/
structure AWTBuffer where
  data : List CFloat
  size : Int
  max : Int
  deriving DecidableEq

/-- A frame as libavfilter passes it on; `pts` counts samples. -/
structure AVFrame extends Awt.AVFrame where
  pts : Option Int
  deriving DecidableEq

/-- The link into the filter; the one out of it has the same channels. -/
structure AVFilterLink where
  channels : Int
  sampleRate : Int

/-- `inBuffer` and `outBuffer` are the fields `in` and `out`. -/
structure AWTContext where
  decoder : Nat → Option DecObj
  nbDecoder : Int
  awtSize : Int
  pktSize : Int
  input : Option (List AWTBuffer)
  inBuffer : Option AWTBuffer
  outBuffer : Option AWTBuffer
  output : Option (List AWTBuffer)
  bottomFreq : Int
  topFreq : Int
  framesyncFreq : Int
  payloadFrames : Int
  crcPercent : Int
  lookbackSec : Int
  payloadLength : Int
  license : Option CString
  preset : Int
  counter : Int

inductive LogLevel where
  | info | warning | error
  deriving DecidableEq

inductive LogMsg where
  | licenseInitFailed
  | unableToLoad (url : CString)
  | licenseGenerationFailed
  | licenseInfoFailed (duration valid : UInt32)
  | licenseInfo (duration valid : UInt32)
  | invalidPreset (preset : Int)
  | usePreset (preset : Int)
  | configure (bottomFreq topFreq framesyncFreq payloadFrames crcPercent payloadSize packetSize : Int)
  | couldNotInitialize (error : Nat)
  | started (awtSize : Int)
  | decoderError (error : Nat)
  | foundWatermark (channel : Nat) (found : CString) (percent : CFloat)
  | foundCount (counter : Int)
  deriving DecidableEq

/-- Which memory a pointer leads to. -/
inductive Place where
  | input (channel : Nat) | output (channel : Nat) | inBuffer | outBuffer
  | inputs | outputs | license
  deriving DecidableEq

/-- Not calls of the filter: the model notes here the frame that `awt_filter_frame` was
called with, and `from` at the start of each turn and before a block is passed on. -/
inductive Mark where
  | frame (inFrame : AVFrame)
  | block (start : Int)
  | pass (start : Int)
  | packet (start : Int)
  deriving DecidableEq

inductive Call where
  | awt5LicenseRequest (durationSec : Nat)
  | awt5LicenseInfo (license : CString) (method : Int)
  | awt5DecodeStreamInit (index : Nat) (settings : DecodeSettings)
  | awt5DecodeStreamBuffer (index : Nat) (decObj : Option DecObj) (input : List CFloat)
  | awt5DecodeStreamKill (index : Nat) (decObj : Option DecObj)
  | awt5PrintErrText (error : Nat)
  | avLog (level : LogLevel) (msg : LogMsg)
  | malloc (what : Place) (size : Int)
  | avMallocz (what : Place)
  | realloc (what : Place) (size : Int)
  | avFree (what : Place)
  | avFreep (what : Place)
  | freeRequest
  | avioOpen (url : CString)
  | avioRead
  | avioClose
  | ffGetAudioBuffer (nbSamples : Int)
  | ffFilterFrame (out : AVFrame)
  | avFrameFree
  | mark (mark : Mark)

/-- Memory that is allocated comes with what it happens to hold: by the index of the
float, and for a frame by the plane first. -/
abbrev Answer : Call → Type
  | .awt5LicenseRequest _ => Option CString
  | .awt5LicenseInfo _ _ => LicenseInfo
  | .awt5DecodeStreamInit _ _ => InitResult
  | .awt5DecodeStreamBuffer _ _ _ => BufferResult
  | .malloc _ _ => Bool
  | .avMallocz _ => Bool
  | .realloc _ _ => Option (Nat → CFloat)
  | .avioOpen _ => AvCode
  | .avioRead => ReadResult
  | .ffGetAudioBuffer _ => Option (Nat → Nat → CFloat)
  | .ffFilterFrame _ => Int
  | _ => Unit

abbrev Surroundings : Interface := ⟨Call, Answer⟩

inductive Fault where
  | urlOverflow
  | licenseOverflow
  | nullLicense
  | nullBuffer
  | missingPlane (channel : Nat)
  | memory (why : Awt.Fault)
  | divisionByZero
  | intOverflow
  deriving DecidableEq

inductive Stop where
  | fault (why : Fault)
  | timeout
  deriving DecidableEq

abbrev History := Trace Surroundings AWTContext
abbrev Event := Entry Surroundings AWTContext
abbrev Law := History → Event → Prop
abbrev LavfiWorld := World Surroundings AWTContext
abbrev LavfiM := Program Surroundings AWTContext Stop

def ask (request : Call) : LavfiM (Answer request) := @Program.call Surroundings _ _ request

def fault (why : Fault) : LavfiM α := Program.stop (.fault why)

def avLog (level : LogLevel) (msg : LogMsg) : LavfiM Unit := ask (.avLog level msg)

end Awt.Lavfi
