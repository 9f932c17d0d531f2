import Mathlib.Algebra.Order.Ring.Rat

/-! Values that the detector exchanges with FFmpeg, the AWT5 SDK and its caller.
Only what the program reads, stores or passes on is kept. -/

namespace Awt

/-- A C `float` that is only moved, never computed with: its 32 bits. -/
abbrev CFloat := UInt32

/-- The bytes of a C string before its terminator. -/
abbrev CString := List UInt8

def AWT_MAX_DECODER : Int := 2
def AWT_DURATION : Nat := 5
def AV_TIME_BASE : Int := 1000000
def INT_MAX : Int := 2147483647
def INT64_MIN : Int := -9223372036854775808
def INT64_MAX : Int := 9223372036854775807
def AV_NOPTS_VALUE : Int := INT64_MIN

def AWT_CODE_OPEN_ERROR : Int := -1
def AWT_CODE_SETUP_ERROR : Int := -2
def AWT_CODE_PROCESS_ERROR : Int := -3

def EAGAIN : Int := -11
def ENOMEM : Int := -12
def EINVAL : Int := -22
/-- `FFERRTAG('E','O','F',' ')` -/
def AVERROR_EOF : Int := -541478725

/-- What an FFmpeg call returns when it is 0 on success and negative otherwise. -/
structure AvCode where
  val : Int
  nonpos : val ≤ 0
  deriving DecidableEq

namespace AvCode

def ok : AvCode := ⟨0, by decide⟩
def eagain : AvCode := ⟨EAGAIN, by decide⟩
def eof : AvCode := ⟨AVERROR_EOF, by decide⟩

theorem zero_of_not_neg (code : AvCode) (succeeded : ¬ code.val < 0) : code.val = 0 := by
  have := code.nonpos
  omega

/-- To have nothing to give out counts as a failure. -/
theorem neg_of_empty {code : AvCode} (empty : code.val = EAGAIN ∨ code.val = AVERROR_EOF) : code.val < 0 := by
  rcases empty with same | same <;> rw [same] <;> decide

end AvCode

inductive AVSampleFormat where
  | none | u8 | s16 | s32 | flt | dbl | u8p | s16p | s32p | fltp | dblp | s64 | s64p
  deriving DecidableEq

/-- A stream's time base of two `int`s; libavformat only sets positive ones. -/
structure TimeBase where
  num : Int
  den : Int
  num_pos : 0 < num
  num_fits : num ≤ INT_MAX
  den_pos : 0 < den
  den_fits : den ≤ INT_MAX
  deriving DecidableEq

/-- A time, if it is not `AV_NOPTS_VALUE`. -/
def known (time : Int) : Option Int := if time = AV_NOPTS_VALUE then none else some time

structure AVPacket where
  streamIndex : Int
  pts : Int64
  deriving DecidableEq

def AVPacket.time (packet : AVPacket) : Option Int := known packet.pts.toInt

/-- A decoded or filtered frame; `extendedData` holds one plane per channel. -/
structure AVFrame where
  sampleRate : Int
  format : AVSampleFormat
  channelLayout : Nat
  channels : Int
  nbSamples : Int
  extendedData : List (List CFloat)
  deriving DecidableEq

structure AVCodecParameters where
  sampleRate : Int
  channels : Int
  deriving DecidableEq

structure AVStream where
  index : Int
  timeBase : TimeBase
  codecpar : AVCodecParameters
  deriving DecidableEq

structure AVCodecContext where
  sampleRate : Int
  sampleFmt : AVSampleFormat
  channelLayout : Nat
  channels : Int
  deriving DecidableEq

/-- The first entry of `channel_layout_map` with this many channels. -/
def avGetDefaultChannelLayout (channels : Int) : Nat :=
  match channels with
  | 1 => 0x4
  | 2 => 0x3
  | 3 => 0xB
  | 4 => 0x107
  | 5 => 0x37
  | 6 => 0x3F
  | 7 => 0x70F
  | 8 => 0x63F
  | 16 => 0x18003F737
  | 24 => 0x1F80003FFFF
  | _ => 0

/-- `av_get_channel_layout_nb_channels`: the number of bits set in the 64-bit mask. -/
def avGetChannelLayoutNbChannels (layout : Nat) : Int :=
  ((List.range 64).countP (layout.testBit ·) : Nat)

theorem default_layout_channels (channels : Int) (known : avGetDefaultChannelLayout channels ≠ 0) :
    avGetChannelLayoutNbChannels (avGetDefaultChannelLayout channels) = channels := by
  unfold avGetDefaultChannelLayout at known ⊢
  split at known <;> first | decide | exact absurd rfl known

/-- The options `awt_init_filters` passes to the "abuffer" source. -/
structure BufferSrc where
  timeBase : TimeBase
  sampleRate : Int
  sampleFmt : AVSampleFormat
  channelLayout : Nat
  deriving DecidableEq

/-- The output formats `awt_init_filters` pins on the "abuffersink" sink. -/
structure BufferSink where
  sampleFmt : AVSampleFormat
  channelLayout : Nat
  sampleRate : Int
  deriving DecidableEq

/-- A configured graph with its two ends, `fcs` and `fcd`. -/
structure AVFilterGraph where
  fcs : BufferSrc
  fcd : BufferSink
  deriving DecidableEq

/-- A decoder object of the SDK, named by the call that created it. -/
abbrev DecObj := Nat

/-- The input arguments of `awt5_decode_stream_init`. -/
structure DecodeSettings where
  payloadLength : Int
  sampleRate : Int
  bottomFreq : Int
  topFreq : Int
  framesyncFreq : Int
  payloadFrames : Int
  crcPercent : Int
  lookbackSec : Int
  license : Option CString
  deriving DecidableEq

end Awt
