import Awt.Types

/-! `av_rescale_q` of libavutil on the integers of the machine: an `int64_t` that overflows
is undefined, a `uint64_t` wraps around. -/

namespace Awt.Lavu

def INT32_MAX : Int := 2147483647

def AV_ROUND_ZERO : UInt32 := 0
def AV_ROUND_INF : UInt32 := 1
def AV_ROUND_DOWN : UInt32 := 2
def AV_ROUND_UP : UInt32 := 3
def AV_ROUND_NEAR_INF : UInt32 := 5
def AV_ROUND_PASS_MINMAX : UInt32 := 8192

structure AVRational where
  num : Int
  den : Int

def AV_TIME_BASE_Q : AVRational := ⟨1, AV_TIME_BASE⟩

def int64 (value : Int) : Option Int := if INT64_MIN ≤ value ∧ value ≤ INT64_MAX then some value else none

def knownRounding (rnd : UInt32) : Bool :=
  rnd &&& ~~~AV_ROUND_PASS_MINMAX ≤ 5 ∧ rnd &&& ~~~AV_ROUND_PASS_MINMAX ≠ 4

/-- One turn of the division, with `a1` and `t1`. -/
def divideTurn (c a0 : UInt64) (i : Nat) (words : UInt64 × UInt64) : UInt64 × UInt64 :=
  let a1 := words.1 + (words.1 + (a0 >>> i.toUInt64 &&& 1))
  let t1 := words.2 + words.2
  if c ≤ a1 then (a1 - c, t1 + 1) else (a1, t1)

/-- `for (i = 63; i >= 0; i--)`, from `i` turns before its end. -/
def divideLoop (c a0 : UInt64) : Nat → UInt64 × UInt64 → UInt64 × UInt64
  | 0, words => words
  | i + 1, words => divideLoop c a0 i (divideTurn c a0 i words)

/-- A product of 128 bits with the higher word in `a1`, and what `t1` is left with. -/
structure Wide where
  a0 : UInt64
  a1 : UInt64
  t1 : UInt64

def wideProduct (a b r : UInt64) : Wide :=
  let a0 := a &&& 0xFFFFFFFF
  let a1 := a >>> 32
  let b0 := b &&& 0xFFFFFFFF
  let b1 := b >>> 32
  let t1 := a0 * b1 + a1 * b0
  let t1a := t1 <<< 32
  let a0 := a0 * b0 + t1a
  let a1 := a1 * b1 + (t1 >>> 32) + if a0 < t1a then 1 else 0
  let a0 := a0 + r
  let a1 := a1 + if a0 < r then 1 else 0
  ⟨a0, a1, t1⟩

/-- The branch for factors that do not fit an `int`. -/
def rescaleWide (a b c r : UInt64) : Int :=
  let wide := wideProduct a b r
  let t1 := (divideLoop c wide.a0 64 (wide.a1, wide.t1)).2
  if (t1.toNat : Int) > INT64_MAX then INT64_MIN else t1.toNat

def avRescaleRnd (a b c : Int) (rnd : UInt32) : Option Int :=
  if c ≤ 0 ∨ b < 0 ∨ !knownRounding rnd then return INT64_MIN else
  if rnd &&& AV_ROUND_PASS_MINMAX ≠ 0 ∧ (a = INT64_MIN ∨ a = INT64_MAX) then return a else
  let rnd := if rnd &&& AV_ROUND_PASS_MINMAX ≠ 0 then rnd - AV_ROUND_PASS_MINMAX else rnd
  if a < 0 then do
    let value ← avRescaleRnd (-max a (-INT64_MAX)) b c (rnd ^^^ (rnd >>> 1 &&& 1))
    -- negated as a `uint64_t`
    return (-value).bmod (2 ^ 64)
  else
  let r := if rnd = AV_ROUND_NEAR_INF then c.tdiv 2 else if rnd &&& 1 ≠ 0 then c - 1 else 0
  if b ≤ INT_MAX ∧ c ≤ INT_MAX then
    if a ≤ INT_MAX then do
      let product ← int64 (a * b)
      let sum ← int64 (product + r)
      return sum.tdiv c
    else do
    let ad := a.tdiv c
    let product ← int64 (a.tmod c * b)
    let sum ← int64 (product + r)
    let a2 := sum.tdiv c
    let room ← int64 (INT64_MAX - a2)
    if ad ≥ INT32_MAX ∧ b ≠ 0 ∧ ad > room.tdiv b then return INT64_MIN else
    let high ← int64 (ad * b)
    int64 (high + a2)
  else return rescaleWide a.toNat.toUInt64 b.toNat.toUInt64 c.toNat.toUInt64 r.toNat.toUInt64
termination_by if a < 0 then 1 else 0
decreasing_by
  have positive : ¬ -max a (-INT64_MAX) < 0 := by
    rw [INT64_MAX]
    omega
  simp_all

def avRescaleQRnd (a : Int) (bq cq : AVRational) (rnd : UInt32) : Option Int := do
  let b ← int64 (bq.num * cq.den)
  let c ← int64 (cq.num * bq.den)
  avRescaleRnd a b c rnd

def avRescaleQ (a : Int) (bq cq : AVRational) : Option Int := avRescaleQRnd a bq cq AV_ROUND_NEAR_INF

end Awt.Lavu

namespace Awt

def TimeBase.rational (base : TimeBase) : Lavu.AVRational := ⟨base.num, base.den⟩

end Awt
