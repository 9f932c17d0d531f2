import Awt.FFmpeg
import Awt.Run

/-! Surroundings that follow a script, to run sessions on. What a script leaves open
goes well: a stereo file that ends at once, a valid license, blocks of two samples. -/

namespace Awt
open OracleProgram

def count (kind : Call → Bool) (past : History) : Nat := past.countP fun event => kind event.call

def Call.isRead : Call → Bool
  | .avReadFrame => true
  | _ => false

def Call.isInit : Call → Bool
  | .awt5DecodeStreamInit _ _ => true
  | _ => false

def Call.isBlock : Call → Bool
  | .awt5DecodeStreamBuffer _ _ _ => true
  | _ => false

/-- The calls made since the current run began. -/
def currentRun (past : History) : History := past.reverse.takeWhile fun event => !event.call.startsRun

def millis : TimeBase := ⟨1, 1000, by decide, by decide, by decide, by decide⟩

theorem digit_nonempty : ([49] : List UInt8) ≠ [] := by decide

theorem digit_fits : ([49] : List UInt8).length ≤ 2048 := by decide

/-- A file by the rate and the channel count that its decoder and its stream report. -/
def pcmFile (sampleRate channels : Int) : Input where
  st := ⟨0, millis, ⟨sampleRate, channels⟩⟩
  decoder := ⟨sampleRate, .fltp, avGetDefaultChannelLayout channels, channels⟩

def pcmFrame (sampleRate : Int) (planes : List (List CFloat)) : AVFrame :=
  ⟨sampleRate, .fltp, avGetDefaultChannelLayout planes.length, planes.length, (planes.headD []).length, planes⟩

/-- Files are numbered by the run that opens them, from 1; the calls of the SDK and
the accepted packets are numbered over the session, from 0. -/
structure Script where
  opens : Nat → AvCode := fun _ => .ok
  input : Nat → Input := fun _ => pcmFile 44100 2
  packets : Nat → List AVPacket := fun _ => []
  yields : Nat → List AVFrame := fun _ => []
  licenseInfo : LicenseInfo := ⟨0, 3600, 3600⟩
  inits : Nat → InitResult := fun _ => ⟨0, some 2⟩
  blocks : Nat → BufferResult := fun _ => ⟨0, [], 0⟩
  stops : Int := 0

/-- The frame the graph still has to give out: it passes every frame on unchanged. -/
def filtered (past : History) : Option AVFrame :=
  match past.getLast? with
  | some ⟨_, .avBuffersrcAddFrameFlags frame, _⟩ => some frame
  | _ => none

/-- The codec takes a packet only when it holds no frame, the buffer source takes a
frame only in the format of the graph. -/
def Script.surroundings (script : Script) : Oracle Surroundings AWTContext := fun past call =>
  let run := count Call.startsRun past
  let decoder := (codec script.yields).seen past
  match call with
  | .awt5LicenseRequest _ => some []
  | .awt5LicenseInfo _ _ => script.licenseInfo
  | .awt5DecodeStreamInit _ _ => script.inits (count Call.isInit past)
  | .awt5DecodeStreamBuffer _ _ _ => script.blocks (count Call.isBlock past)
  | .callback _ _ _ _ => script.stops
  | .malloc _ _ => true
  | .running => true
  | .avGettime => (0 : Int)
  | .avioOpen _ => AvCode.ok
  | .avioRead => match past.getLast? with
    | some ⟨_, .avioRead, _⟩ => .ended .eof
    | _ => .bytes [49] digit_nonempty digit_fits
  | .avformatAllocContext => true
  | .avformatOpenInput _ => script.opens run
  | .avformatFindStreamInfo => AvCode.ok
  | .avFindBestStream => ⟨0, (script.input run).st⟩
  | .avcodecAllocContext3 => true
  | .avcodecOpen2 => ⟨.ok, (script.input run).decoder⟩
  | .avfilterInoutAlloc => true
  | .avfilterGraphAlloc => true
  | .createBufferSrc _ => AvCode.ok
  | .createBufferSink => AvCode.ok
  | .avOptSetIntList _ => AvCode.ok
  | .avfilterGraphParsePtr _ => AvCode.ok
  | .avfilterGraphConfig => AvCode.ok
  | .avPacketAlloc => true
  | .avFrameAlloc => true
  | .avReadFrame => match (script.packets run)[count Call.isRead (currentRun past)]? with
    | some packet => ⟨.ok, packet⟩
    | none => ⟨.eof, ⟨0, Int64.minValue⟩⟩
  | .avcodecSendPacket _ => if decoder.pending = [] then AvCode.ok else AvCode.eagain
  | .avcodecReceiveFrame => match decoder.pending with
    | frame :: _ => ⟨.ok, frame⟩
    | [] => ⟨.eagain, pcmFrame 0 []⟩
  | .avBuffersrcAddFrameFlags frame => match past.getLast? with
    | some event => if event.before.fg.all (·.fcs.accepts frame) then AvCode.ok else ⟨EINVAL, by decide⟩
    | none => AvCode.ok
  | .avBuffersinkGetFrame => match filtered past with
    | some frame => ⟨.ok, frame⟩
    | none => ⟨.eagain, pcmFrame 0 []⟩
  | .awt5DecodeStreamKill _ _ | .awt5PrintErrText _ | .logCallback _ _ _ | .memcpy _ _ _ _ | .release _ | .setChannelLayout _
  | .usleep _ | .avioClose | .avcodecParametersToContext | .avPacketUnref | .avFrameUnref | .mark _ => ()

def Script.session (script : Script) (awt : AWTContext) (requests : List Request) : Session :=
  (Session.opened awt).run script.surroundings 20 requests

end Awt
