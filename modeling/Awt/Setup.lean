import Awt.License

/-! `awt_setup`: pick the band parameters of the preset, get a license and create
one decoder and one block buffer per channel. -/

namespace Awt
open OracleProgram

structure Bands where
  bottomFreq : Int
  topFreq : Int
  framesyncFreq : Int
  payloadFrames : Int
  crcPercent : Int
  deriving DecidableEq

/-- The preset chosen for a payload length when none was asked for. -/
def autoPreset (wmLen : Int) : Int :=
  match wmLen with
  | 1 => 1
  | 2 => 2
  | 3 => 4
  | 4 => 6
  | 6 => 8
  | 8 => 10
  | _ => -1

def presetBands (preset : Int) : Option Bands :=
  match preset with
  | 1 => some ⟨1750, 5000, 2500, 1, 20⟩
  | 2 => some ⟨1750, 7500, 2500, 1, 20⟩
  | 3 => some ⟨1750, 5250, 2500, 2, 20⟩
  | 4 => some ⟨1750, 11000, 2500, 1, 20⟩
  | 5 => some ⟨1750, 7000, 2500, 2, 20⟩
  | 6 => some ⟨1750, 7900, 2500, 2, 20⟩
  | 7 => some ⟨1750, 6750, 2500, 3, 20⟩
  | 8 => some ⟨1750, 9000, 2500, 3, 20⟩
  | 9 => some ⟨1750, 7500, 2500, 4, 20⟩
  | 10 => some ⟨1750, 9000, 2500, 4, 20⟩
  | _ => none

def AWTContext.useBands (awt : AWTContext) : AWTContext :=
  match presetBands awt.preset with
  | some bands => { awt with
      bottomFreq := bands.bottomFreq
      topFreq := bands.topFreq
      framesyncFreq := bands.framesyncFreq
      payloadFrames := bands.payloadFrames
      crcPercent := bands.crcPercent }
  | none => awt

def AWTContext.choosePreset (awt : AWTContext) : AWTContext :=
  if awt.preset = -1 then { awt with preset := autoPreset awt.payloadLength } else awt

/-- The part of `awt_setup` under `if(awt->preset)`; `some` is an early return. -/
def awtSetupPreset : AwtM (Option Int) := do
  let awt ← Program.get
  if awt.preset = 0 then return none else
  Program.modify AWTContext.choosePreset
  let awt ← Program.get
  if awt.preset = -1 ∨ 10 < awt.preset then
    -- `ret` is not set yet when it is logged here
    ask (.logCallback .error (.invalidPreset awt.preset) none)
    return some EINVAL
  else
  Program.modify AWTContext.useBands
  return none

def AWTContext.decodeSettings (awt : AWTContext) : DecodeSettings where
  payloadLength := awt.payloadLength
  sampleRate := awt.sampleRate
  bottomFreq := awt.bottomFreq
  topFreq := awt.topFreq
  framesyncFreq := awt.framesyncFreq
  payloadFrames := awt.payloadFrames
  crcPercent := awt.crcPercent
  lookbackSec := awt.lookbackSec
  license := awt.license

def AWTContext.setDecoder (awt : AWTContext) (i : Nat) (decObj : DecObj) : AWTContext :=
  { awt with decoder := Function.update awt.decoder i (some decObj) }

def AWTContext.setBuffer (awt : AWTContext) (i : Nat) (buffer : Option (List CFloat)) : AWTContext :=
  { awt with buffer := Function.update awt.buffer i buffer }

@[simp] theorem setBuffer_same (awt : AWTContext) (i : Nat) (buffer : Option (List CFloat)) :
    (awt.setBuffer i buffer).buffer i = buffer := Function.update_self ..

theorem setBuffer_other (awt : AWTContext) {i j : Nat} (other : j ≠ i) (buffer : Option (List CFloat)) :
    (awt.setBuffer i buffer).buffer j = awt.buffer j := Function.update_of_ne other ..

/-- One turn of the loop that creates the decoders. -/
def initDecoder (i : Nat) : AwtM (Option Int) := do
  let awt ← Program.get
  let decObj ← Program.count
  let result ← ask (.awt5DecodeStreamInit i awt.decodeSettings)
  Program.modify fun awt => { awt with awtSize := result.bufferSize.getD awt.awtSize }
  if result.ret ≠ 0 then
    logError (.couldNotInitialize result.ret) result.ret
    ask (.awt5PrintErrText result.ret)
    return some EINVAL
  else
  Program.modify (·.setDecoder i decObj)
  let awt ← Program.get
  let allocated ← ask (.malloc (.buffer i) (awt.awtSize * 4))
  -- what fresh memory holds does not matter: blocks are filled before they are read
  Program.modify (·.setBuffer i (if allocated then some (List.replicate awt.awtSize.toNat 0) else none))
  return none

/-- The indices of a loop `for(i = 0; i < n; i++)`. -/
def indices (n : Int) : List Nat := List.range n.toNat

def awtSetup (fuel : Nat) (channels : Int) : AwtM Int := do
  match ← awtSetupPreset with
  | some ret => return ret
  | none =>
  let ret ← awtLicense fuel 1
  if ret ≠ 0 then return ret else
  let awt ← Program.get
  logInfo (.configure awt.licenseDuration awt.licenseValid awt.preset awt.bottomFreq awt.topFreq
    awt.framesyncFreq awt.payloadFrames awt.crcPercent awt.payloadLength) ret
  Program.modify fun awt => { awt with nbDecoder := min AWT_MAX_DECODER channels }
  let awt ← Program.get
  match ← Program.each initDecoder (indices awt.nbDecoder) with
  | some ret => return ret
  | none => return 0

end Awt
