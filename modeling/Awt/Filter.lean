import Awt.Setup

/-! `awt_filter_frame`: cut the planes of a frame into blocks of `awt_size` samples
and hand every full block to its channel's decoder. -/

namespace Awt
open OracleProgram

/-- `memcpy(dst + dstOff, src + srcOff, count*sizeof(float))` on the samples that
the two areas really have. -/
def memcpy (dst : List CFloat) (dstOff : Int) (src : List CFloat) (srcOff count : Int) :
    Except Fault (List CFloat) :=
  if count < 0 ∨ dstOff < 0 ∨ srcOff < 0 then .error .negativeCount
  else if src.length < srcOff + count then .error .readPastPlane
  else if dst.length < dstOff + count then .error .writePastBuffer
  else .ok (dst.take dstOff.toNat ++ (src.drop srcOff.toNat).take count.toNat ++
    dst.drop (dstOff + count).toNat)

/-- A copy that stays inside both areas. -/
theorem memcpy_ok {dst src : List CFloat} {fill off count : Nat} (inside : off + count ≤ src.length)
    (fits : fill + count ≤ dst.length) : memcpy dst fill src off count =
      .ok (dst.take fill ++ (src.drop off).take count ++ dst.drop (fill + count)) := by
  rw [memcpy, if_neg (by omega), if_neg (by omega), if_neg (by omega)]
  simp only [Int.toNat_natCast, ← Int.natCast_add]

/-- The body of the copy loop. -/
def copyPlane (frame : AVFrame) (off count : Int) (i : Nat) : AwtM (Option Int) := do
  let awt ← Program.get
  ask (.memcpy i awt.nbBuffer off count)
  match frame.extendedData[i]?, awt.buffer i with
  | none, _ => fault (.missingPlane i)
  | some _, none => fault (.missingBuffer i)
  | some src, some dst =>
    match memcpy dst awt.nbBuffer src off count with
    | .error why => fault why
    | .ok filled =>
      Program.modify (·.setBuffer i (some filled))
      return none

/-- The time in seconds that the callback is told, `current_duration/AV_TIME_BASE`. -/
def AWTContext.posAt (awt : AWTContext) : Rat := awt.currentDuration / AV_TIME_BASE

def AWTContext.countFound (awt : AWTContext) : AWTContext := { awt with counter := int32 (awt.counter + 1) }

/-- The body of the decode loop; `some` is a jump to `end` with this `ret`. -/
def decodeBlock (i : Nat) : AwtM (Option Int) := do
  let awt ← Program.get
  let result ← ask (.awt5DecodeStreamBuffer i (awt.decoder i) (awt.buffer i))
  if result.ret ≠ 0 then
    logError (.decoderError result.ret) result.ret
    ask (.awt5PrintErrText result.ret)
    return some result.ret
  else if result.found = [] then return none
  else
  Program.modify AWTContext.countFound
  let stop ← ask (.callback i result.found result.percent awt.posAt)
  if stop ≠ 0 then return some AVERROR_EOF else return none

/-- One turn of the loop over a frame. `ret` is 0 wherever the loop goes on or is
left by its condition or `break`, since every other value jumps to `end`. -/
def filterTurn (channels : Int) (frame : AVFrame) (off : Int) : AwtM (Int ⊕ Int) := do
  if ¬ off < frame.nbSamples then return .inr 0 else
  let awt ← Program.get
  let count := min (awt.awtSize - awt.nbBuffer) (frame.nbSamples - off)
  let _ ← Program.each (copyPlane frame off count) (indices channels)
  Program.modify fun awt => { awt with nbBuffer := awt.nbBuffer + count }
  let awt ← Program.get
  if awt.nbBuffer < awt.awtSize then return .inr 0 else
  Program.modify fun awt => { awt with nbBuffer := 0 }
  match ← Program.each decodeBlock (indices channels) with
  | some ret => return .inr ret
  | none => return .inl (off + count)

def awtFilterFrame (fuel : Nat) (frame : AVFrame) : AwtM Int := do
  let awt ← Program.get
  Program.loop .timeout (filterTurn awt.nbDecoder frame) fuel 0

end Awt
