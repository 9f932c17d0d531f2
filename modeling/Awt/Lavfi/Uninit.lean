import Awt.Lavfi.Filter

/-! `awt_uninit`: kill the decoders and free what `awt_config_props` has allocated. -/

namespace Awt.Lavfi
open OracleProgram

def awtBufferDestroy (place : Place) : Option AWTBuffer → LavfiM (Option AWTBuffer)
  | none => return none
  | some _ => do
    ask (.avFree place)
    ask (.avFreep place)
    return none

def awtBufferDestroyArr (place : Place) (element : Nat → Place) (count : Int) :
    Option (List AWTBuffer) → LavfiM (Option (List AWTBuffer))
  | none => return none
  | some array => do
    let _ ← Program.collect (fun i => do
      let buffer ← deref array[i]?
      awtBufferDestroy (element i) (some buffer)) (indices count)
    ask (.avFreep place)
    return none

/-- The body of the loop in `awt_uninit`. -/
def killDecoder (i : Nat) : LavfiM (Option Unit) := do
  let awt ← Program.get
  ask (.awt5DecodeStreamKill i (awt.decoder i))
  return none

/-- The part of `awt_uninit` under `if(awt->nb_decoder)`. -/
def killDecoders : LavfiM Unit := do
  let awt ← Program.get
  if awt.nbDecoder = 0 then return () else
  let _ ← Program.each killDecoder (indices awt.nbDecoder)
  Program.modify fun awt => { awt with nbDecoder := 0 }

def awtUninit (inlink : AVFilterLink) : LavfiM Unit := do
  killDecoders
  let awt ← Program.get
  let inBuffer ← awtBufferDestroy .inBuffer awt.inBuffer
  let outBuffer ← awtBufferDestroy .outBuffer awt.outBuffer
  let input ← awtBufferDestroyArr .inputs .input inlink.channels awt.input
  let output ← awtBufferDestroyArr .outputs .output inlink.channels awt.output
  ask (.avFreep .license)
  Program.modify fun awt => { awt with inBuffer, outBuffer, input, output, license := none }
  avLog .warning (.foundCount awt.counter)

end Awt.Lavfi
