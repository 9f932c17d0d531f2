import Awt.Lavu.Mathematics

/-! Packets and frames of libavcodec, and the bitstream filter that a decoder without
one has: a mailbox of one packet. -/

namespace Awt.Lavc
open Lavu (AVRational)

/-- `FFERRTAG('I','N','D','A')` -/
def AVERROR_INVALIDDATA : Int := -1094995529
/-- `FFERRTAG('B','U','G','!')` -/
def AVERROR_BUG : Int := -558323010

def AVERROR_INPUT_CHANGED : Int := -1668179713

inductive AVPacketSideDataType where
  | paramChange | skipSamples | other
  deriving DecidableEq

/-- `data` is `none` where the pointer is null, and holds `size` bytes. -/
structure AVPacket where
  data : Option (List UInt8)
  pts : Option Int
  dts : Option Int
  sideData : List (AVPacketSideDataType × List UInt8)
  deriving DecidableEq

namespace AVPacket

/-- What `av_packet_unref` leaves. -/
def unref : AVPacket := ⟨none, none, none, []⟩

def size (pkt : AVPacket) : Int := (pkt.data.getD []).length

def isEmpty (pkt : AVPacket) : Bool := pkt.data.isNone && pkt.sideData.isEmpty

def avPacketGetSideData (pkt : AVPacket) (type : AVPacketSideDataType) : Option (List UInt8) :=
  (pkt.sideData.find? fun entry => entry.1 = type).map (·.2)

end AVPacket

/-- The little-endian number of the first `count` bytes. -/
def littleEndian : Nat → List UInt8 → Nat
  | 0, _ => 0
  | count + 1, bytes => (bytes.headD 0).toNat + 256 * littleEndian count bytes.tail

/-- What `AV_FRAME_DATA_SKIP_SAMPLES` says where the caller skips on its own. -/
structure SkipSamples where
  skipSamples : Int
  discardPadding : Nat
  skipReason : Nat
  discardReason : Nat
  deriving DecidableEq

/-- A frame of planar floats; `discard` is `AV_FRAME_FLAG_DISCARD`. -/
structure AVFrame extends Awt.AVFrame where
  pts : Option Int
  pktDts : Option Int
  pktDuration : Int
  discard : Bool
  bestEffortTimestamp : Option Int
  sideData : Option SkipSamples
  deriving DecidableEq

structure FFBSFContext where
  bufferPkt : AVPacket
  eof : Bool
  deriving DecidableEq

def avBsfSendPacket (bsfi : FFBSFContext) (pkt : AVPacket) : Int × FFBSFContext :=
  if pkt.isEmpty then (0, { bsfi with eof := true })
  else if bsfi.eof then (EINVAL, bsfi)
  else if !bsfi.bufferPkt.isEmpty then (EAGAIN, bsfi)
  else (0, { bsfi with bufferPkt := pkt })

def ffBsfGetPacketRef (bsfi : FFBSFContext) : Int × AVPacket × FFBSFContext :=
  if bsfi.eof then (AVERROR_EOF, .unref, bsfi)
  else if bsfi.bufferPkt.isEmpty then (EAGAIN, .unref, bsfi)
  else (0, bsfi.bufferPkt, { bsfi with bufferPkt := .unref })

/-- The null filter passes packets through. -/
def avBsfReceivePacket (bsfi : FFBSFContext) : Int × AVPacket × FFBSFContext := ffBsfGetPacketRef bsfi

end Awt.Lavc
