import Awt.Lavfi.Filter
import Awt.Proofs.LicenseExchange

/-! Surroundings of the filter that follow a script. What a script leaves open goes
well: a valid license, blocks of two samples, zeroed memory, nothing found. -/

namespace Awt.Lavfi
open OracleProgram

def Call.isBlock : Call → Bool
  | .awt5DecodeStreamBuffer _ _ _ => true
  | _ => false

def Call.isPacket : Call → Bool
  | .ffFilterFrame _ => true
  | _ => false

def goodLicense : LicenseExchange where
  request := some []
  opened := .ok
  allocated := true
  pieces := [⟨[49], by decide, by decide⟩]
  ended := .eof
  info := ⟨0, 3600, 3600⟩

/-- The context of a new filter with the options of the table, but for `wm_size`. -/
def unconfigured : AWTContext where
  decoder := fun _ => none
  nbDecoder := 0
  awtSize := 0
  pktSize := 0
  input := none
  inBuffer := none
  outBuffer := none
  output := none
  bottomFreq := 1750
  topFreq := 11000
  framesyncFreq := 2500
  payloadFrames := 1
  crcPercent := 20
  lookbackSec := 5
  payloadLength := 1
  license := none
  preset := -1
  counter := 0

/-- A frame with these planes, all of one length. -/
def audioFrame (pts : Int) (planes : List (List CFloat)) : AVFrame where
  sampleRate := 44100
  format := .fltp
  channelLayout := avGetDefaultChannelLayout planes.length
  channels := planes.length
  nbSamples := (planes.headD []).length
  extendedData := planes
  pts := some pts

/-- Blocks and packets are numbered over the whole history, from 0. -/
structure Script where
  license : LicenseExchange := goodLicense
  awtSize : Int := 2
  fresh : Place → Nat → CFloat := fun _ _ => 0
  blocks : Nat → BufferResult := fun _ => ⟨0, [], 0⟩
  packets : Nat → Int := fun _ => 0

def Script.surroundings (script : Script) : Oracle Surroundings AWTContext := fun past call =>
  let number (kind : Call → Bool) := past.countP fun event => kind event.call
  match call with
  | .awt5LicenseRequest _ => script.license.request
  | .awt5LicenseInfo _ _ => script.license.info
  | .awt5DecodeStreamInit _ _ => ⟨0, some script.awtSize⟩
  | .awt5DecodeStreamBuffer _ _ _ => script.blocks (number Call.isBlock)
  | .malloc _ _ => script.license.allocated
  | .avMallocz _ => true
  | .realloc what _ => some (script.fresh what)
  | .avioOpen _ => script.license.opened
  | .avioRead => script.license.read (number Call.readsBody)
  | .ffGetAudioBuffer _ => some fun _ _ => 0
  | .ffFilterFrame _ => script.packets (number Call.isPacket)
  | .awt5DecodeStreamKill _ _ | .awt5PrintErrText _ | .avLog _ _ | .avFree _ | .avFreep _ | .freeRequest | .avioClose
  | .avFrameFree | .mark _ => ()

end Awt.Lavfi
