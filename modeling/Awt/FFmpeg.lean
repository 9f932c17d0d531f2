import Awt.Context
import Awt.Lib.Observer

/-! What FFmpeg documents of its two ends that `awt_run` stands between: the codec
with its queue of decoded frames, and the buffer source with its fixed format. -/

namespace Awt
open OracleProgram

/-- The send/receive machine of a decoder: packets accepted over the whole history,
and the frames of the open codec that were not received yet. -/
structure Codec where
  accepted : Nat
  pending : List AVFrame
  deriving DecidableEq

/-- The packet accepted as number `n` decodes to the frames `yields n`. -/
def Codec.see (yields : Nat → List AVFrame) (codec : Codec) : Event → Codec
  | ⟨_, .avcodecOpen2, _⟩ => { codec with pending := [] }
  | ⟨_, .avcodecSendPacket _, code⟩ =>
    if code.val < 0 then codec else ⟨codec.accepted + 1, codec.pending ++ yields codec.accepted⟩
  | ⟨_, .avcodecReceiveFrame, result⟩ =>
    if result.code.val < 0 then codec else { codec with pending := codec.pending.tail }
  | _ => codec

def codec (yields : Nat → List AVFrame) : Observer Surroundings AWTContext Codec where
  init := ⟨0, []⟩
  step := Codec.see yields

/-- `av_buffersrc_add_frame_flags` fills in a missing layout and then refuses every
frame that `CHECK_AUDIO_PARAM_CHANGE` finds to differ from the configured format. -/
def BufferSrc.accepts (src : BufferSrc) (frame : AVFrame) : Bool :=
  let channelLayout := if frame.channelLayout = 0 then src.channelLayout else frame.channelLayout
  (frame.channelLayout = 0 ∨ avGetChannelLayoutNbChannels frame.channelLayout = frame.channels) ∧
    src.sampleFmt = frame.format ∧ src.sampleRate = frame.sampleRate ∧
    src.channelLayout = channelLayout ∧ avGetChannelLayoutNbChannels src.channelLayout = frame.channels

end Awt
