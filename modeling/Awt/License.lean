import Awt.Context

/-! `awt_license`: fetch a license over HTTP and have the SDK check it. -/

namespace Awt
open OracleProgram

def ascii (text : String) : CString := text.toUTF8.data.toList

/-- The text `sprintf` builds, before its terminator. -/
def licenseUrl (method : Int) (licreq : CString) : CString :=
  ascii "http://sonobytes.net/awtservice/thudo/client_thudo.php?method=" ++ ascii (toString method) ++
    ascii "&pswrd=512153634&licreq=" ++ licreq

def awtIsNumberic (str : List UInt8) : Bool := str.all fun c => ¬ (c < 48 ∨ c > 57)

/-- One `avio_read` behind the bytes stored so far, with the loop's `len` as their
number. The buffer has 128 bytes, whatever size the call is given. -/
def readTurn (allocated : Bool) (stored : List UInt8) : AwtM (List UInt8 ⊕ List UInt8 × Int) := do
  match ← ask .avioRead with
  | .ended code => return .inr (stored, code.val)
  | .bytes chunk _ _ =>
    if !allocated then fault .nullLicense
    else if 128 < stored.length + chunk.length then fault .licenseOverflow
    else return .inl (stored ++ chunk)

def AWTContext.storeReport (awt : AWTContext) (licenseDuration licenseValid : Int) : AWTContext :=
  { awt with licenseDuration, licenseValid }

@[simp] theorem storeReport_duration (awt : AWTContext) (licenseDuration licenseValid : Int) :
    (awt.storeReport licenseDuration licenseValid).licenseDuration = licenseDuration := rfl

@[simp] theorem storeReport_valid (awt : AWTContext) (licenseDuration licenseValid : Int) :
    (awt.storeReport licenseDuration licenseValid).licenseValid = licenseValid := rfl

/-- The seconds that the SDK reports are `unsigned`, the fields that keep them `int`. -/
def awtLicense (fuel : Nat) (decode : Int) : AwtM Int := do
  match ← ask (.awt5LicenseRequest AWT_DURATION) with
  | none =>
    logError .licenseInitFailed 0
    return -1
  | some licenseRequest =>
  let url := licenseUrl decode licenseRequest
  if 512 < url.length + 1 then fault .urlOverflow else
  ask (.release .licenseRequest)
  let opened ← ask (.avioOpen url)
  if opened.val ≠ 0 then
    logError (.unableToLoad url) opened.val
    return opened.val
  else
  let allocated ← ask (.malloc .license 128)
  Program.modify fun awt => { awt with license := if allocated then some [] else none }
  let (license, ret) ← Program.loop .timeout (readTurn allocated) fuel []
  ask .avioClose
  if license.length = 0 ∨ ¬ awtIsNumberic license then
    logError .licenseGenerationFailed ret
    return -1
  else
  -- the terminator goes behind the last byte read
  if 128 ≤ license.length then fault .licenseOverflow else
  Program.modify fun awt => { awt with license := some license }
  let info ← ask (.awt5LicenseInfo license decode)
  if info.ret ≠ 0 ∨ info.licensedDurationSec.toNat < AWT_DURATION then
    logError (.licenseInfoFailed info.licensedDurationSec info.validForSec) info.ret
    return info.ret
  else
  Program.modify (·.storeReport (int32 info.licensedDurationSec.toNat) (int32 info.validForSec.toNat))
  return 0

end Awt
