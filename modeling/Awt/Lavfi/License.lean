import Awt.License
import Awt.Lavfi.Calls

/-! `awt_license` of the filter: the function of the detector, with the filter's log
and nothing kept of what the SDK reports. -/

namespace Awt.Lavfi
open OracleProgram

def readTurn (allocated : Bool) (stored : List UInt8) : LavfiM (List UInt8 ⊕ List UInt8 × Int) := do
  match ← ask .avioRead with
  | .ended code => return .inr (stored, code.val)
  | .bytes chunk _ _ =>
    if !allocated then fault .nullLicense
    else if 128 < stored.length + chunk.length then fault .licenseOverflow
    else return .inl (stored ++ chunk)

def awtLicense (fuel : Nat) (decode : Int) : LavfiM Int := do
  match ← ask (.awt5LicenseRequest AWT_DURATION) with
  | none =>
    avLog .error .licenseInitFailed
    return -1
  | some licenseRequest =>
  let url := licenseUrl decode licenseRequest
  if 512 < url.length + 1 then fault .urlOverflow else
  ask .freeRequest
  let opened ← ask (.avioOpen url)
  if opened.val ≠ 0 then
    avLog .error (.unableToLoad url)
    return opened.val
  else
  let allocated ← ask (.malloc .license 128)
  Program.modify fun awt => { awt with license := if allocated then some [] else none }
  let (license, _) ← Program.loop .timeout (readTurn allocated) fuel []
  ask .avioClose
  if license.length = 0 ∨ ¬ awtIsNumberic license then
    avLog .error .licenseGenerationFailed
    return -1
  else
  if 128 ≤ license.length then fault .licenseOverflow else
  Program.modify fun awt => { awt with license := some license }
  let info ← ask (.awt5LicenseInfo license decode)
  if info.ret ≠ 0 ∨ info.licensedDurationSec.toNat < AWT_DURATION then
    avLog .error (.licenseInfoFailed info.licensedDurationSec info.validForSec)
    return info.ret
  else
  avLog .warning (.licenseInfo info.licensedDurationSec info.validForSec)
  return 0

end Awt.Lavfi
