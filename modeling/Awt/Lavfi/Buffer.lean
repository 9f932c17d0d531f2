import Awt.Filter
import Awt.Lavfi.Calls

/-! `AWTBuffer` and its operations, with an `int` of 32 bits. Their counts are samples and
become bytes inside. -/

namespace Awt.Lavfi
open OracleProgram

/-- What an operation on `int` gives; overflow is undefined. -/
@[irreducible] def int (value : Int) : LavfiM Int :=
  if -2 ^ 31 ≤ value ∧ value < 2 ^ 31 then return value else fault .intOverflow

/-- The product is a `size_t`, and the `int` keeps its low 32 bits. -/
@[irreducible] def awtBufferSize (count : Int) : Int := int32 (count * 4)

def memory : Except Awt.Fault α → LavfiM α
  | .ok value => return value
  | .error why => fault (.memory why)

/-- `memcpy` and `memmove` by bytes; the offsets are those of whole floats. -/
def copyBytes (dst : List CFloat) (dstOff : Int) (src : List CFloat) (srcOff count : Int) :
    Except Awt.Fault (List CFloat) :=
  memcpy dst (dstOff / 4) src (srcOff / 4) (count / 4)

/-- What `realloc` makes of a block: the old floats stay, the others are `fresh`. -/
def reallocated (data : List CFloat) (size : Int) (fresh : Nat → CFloat) : List CFloat :=
  (List.range (size / 4).toNat).map fun k => data.getD k (fresh k)

def awtBufferEnsure (place : Place) (buffer : AWTBuffer) (add : Int) : LavfiM AWTBuffer := do
  let add := awtBufferSize add
  let needed ← int (buffer.size + add)
  if needed ≤ buffer.max then return buffer else
  let doubled ← int (buffer.max * 2)
  let exact ← int (buffer.max + add)
  let max := max doubled exact
  match ← ask (.realloc place max) with
  | none => return { buffer with data := [], max }
  | some fresh => return { buffer with data := reallocated buffer.data max fresh, max }

def awtBufferUpdate (buffer : AWTBuffer) (count : Int) : LavfiM AWTBuffer := do
  let count := awtBufferSize count
  let left ← int (buffer.size - count)
  let data ← if count < buffer.size then memory (copyBytes buffer.data 0 buffer.data count left) else pure buffer.data
  return { buffer with data, size := max 0 left }

def awtBufferMoveIn (place : Place) (buffer : AWTBuffer) (data : List CFloat) (off count : Int) :
    LavfiM AWTBuffer := do
  let buffer ← awtBufferEnsure place buffer count
  let off := awtBufferSize off
  let count := awtBufferSize count
  let filled ← memory (copyBytes buffer.data buffer.size data off count)
  let size ← int (buffer.size + count)
  return { buffer with data := filled, size }

def awtBufferMoveOut (buffer : AWTBuffer) (data : List CFloat) (off count : Int) : LavfiM (List CFloat) :=
  memory (copyBytes data 0 buffer.data (awtBufferSize off) (awtBufferSize count))

/-- The pointer that was passed by address comes back as it is afterwards. -/
def awtBufferCreate (place : Place) (initSize : Int) : Option AWTBuffer → LavfiM AWTBuffer
  | some buffer => return buffer
  | none => do
    if !(← ask (.avMallocz place)) then fault .nullBuffer else
    awtBufferEnsure place ⟨[], 0, 0⟩ initSize

def awtBufferCreateArr (place : Place) (element : Nat → Place) (count initSize : Int) :
    Option (List AWTBuffer) → LavfiM (Option (List AWTBuffer))
  | some array => return some array
  | none => do
    if !(← ask (.avMallocz place)) then
      if 0 < count then fault .nullBuffer else return none
    else
    let array ← Program.collect (fun i => awtBufferCreate (element i) initSize none) (indices count)
    return some array

end Awt.Lavfi
