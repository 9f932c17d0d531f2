import Awt.Setup
import Awt.Lavfi.Buffer
import Awt.Lavfi.License

/-! `awt_config_props`: the preset, the license and the decoders as in `awt_setup`,
then the buffers between the two links. -/

namespace Awt.Lavfi
open OracleProgram

def AWTContext.choosePreset (awt : AWTContext) : AWTContext :=
  if awt.preset = -1 then { awt with preset := autoPreset awt.payloadLength } else awt

/-- The two tables of presets have the same bands. -/
def AWTContext.useBands (awt : AWTContext) : AWTContext :=
  match presetBands awt.preset with
  | some bands => { awt with
      bottomFreq := bands.bottomFreq
      topFreq := bands.topFreq
      framesyncFreq := bands.framesyncFreq
      payloadFrames := bands.payloadFrames
      crcPercent := bands.crcPercent }
  | none => awt

/-- The part of `awt_config_props` under `if(awt->preset)`. -/
def configPreset : LavfiM (Option Int) := do
  let awt ← Program.get
  if awt.preset = 0 then return none else
  Program.modify AWTContext.choosePreset
  let awt ← Program.get
  if awt.preset = -1 ∨ 10 < awt.preset then
    avLog .error (.invalidPreset awt.preset)
    return some EINVAL
  else
  avLog .warning (.usePreset awt.preset)
  Program.modify AWTContext.useBands
  return none

def AWTContext.decodeSettings (awt : AWTContext) (sampleRate : Int) : DecodeSettings where
  payloadLength := awt.payloadLength
  sampleRate := sampleRate
  bottomFreq := awt.bottomFreq
  topFreq := awt.topFreq
  framesyncFreq := awt.framesyncFreq
  payloadFrames := awt.payloadFrames
  crcPercent := awt.crcPercent
  lookbackSec := awt.lookbackSec
  license := awt.license

def AWTContext.setDecoder (awt : AWTContext) (i : Nat) (decObj : DecObj) : AWTContext :=
  { awt with decoder := Function.update awt.decoder i (some decObj) }

def initDecoder (sampleRate : Int) (i : Nat) : LavfiM (Option Int) := do
  let awt ← Program.get
  let decObj ← Program.count
  let result ← ask (.awt5DecodeStreamInit i (awt.decodeSettings sampleRate))
  Program.modify fun awt => { awt with awtSize := result.bufferSize.getD awt.awtSize }
  if result.ret ≠ 0 then
    avLog .error (.couldNotInitialize result.ret)
    ask (.awt5PrintErrText result.ret)
    return some EINVAL
  else
  Program.modify (·.setDecoder i decObj)
  return none

/-- The samples of an output frame: whole blocks if one fits into 2048 samples. -/
def pktSize (awtSize : Int) : Int := min 2048 (max (Int.tdiv 2048 awtSize) 1 * awtSize)

def createBuffers (channels : Int) : LavfiM Unit := do
  let awt ← Program.get
  let input ← awtBufferCreateArr .inputs .input channels awt.pktSize awt.input
  Program.modify fun awt => { awt with input }
  let output ← awtBufferCreateArr .outputs .output channels awt.pktSize awt.output
  Program.modify fun awt => { awt with output }
  let samples ← int (awt.awtSize * channels)
  let inBuffer ← awtBufferCreate .inBuffer samples awt.inBuffer
  Program.modify fun awt => { awt with inBuffer := some inBuffer }
  let outBuffer ← awtBufferCreate .outBuffer inBuffer.max awt.outBuffer
  Program.modify fun awt => { awt with outBuffer := some outBuffer }

def awtConfigProps (fuel : Nat) (inlink : AVFilterLink) : LavfiM Int := do
  match ← configPreset with
  | some ret => return ret
  | none =>
  let awt ← Program.get
  avLog .info (.configure awt.bottomFreq awt.topFreq awt.framesyncFreq awt.payloadFrames awt.crcPercent
    awt.awtSize awt.pktSize)
  let ret ← awtLicense fuel 1
  if ret ≠ 0 then return ret else
  Program.modify fun awt => { awt with nbDecoder := min 2 inlink.channels }
  let awt ← Program.get
  match ← Program.each (initDecoder inlink.sampleRate) (indices awt.nbDecoder) with
  | some ret => return ret
  | none =>
  let awt ← Program.get
  avLog .warning (.started awt.awtSize)
  if awt.awtSize = 0 then fault .divisionByZero else
  Program.modify fun awt => { awt with pktSize := pktSize awt.awtSize }
  createBuffers inlink.channels
  return 0

end Awt.Lavfi
