import Mathlib.Logic.Function.Basic
import Awt.Calls

/-! The detector's context and the two ways to open one. -/

namespace Awt
open OracleProgram

/-- `AWTContext` of awt.c. Slots of `decoder` and `buffer` are `none` until they
are set; `fg` stands for the graph and its two ends `fcs` and `fcd`. The lock and
`running` belong to the protocol between threads, and `log_msg` only carries a
text to the callback. -/
structure AWTContext where
  decoder : Nat → Option DecObj
  nbDecoder : Int
  buffer : Nat → Option (List CFloat)
  nbBuffer : Int
  awtSize : Int
  bottomFreq : Int
  topFreq : Int
  framesyncFreq : Int
  payloadFrames : Int
  crcPercent : Int
  lookbackSec : Int
  payloadLength : Int
  license : Option CString
  preset : Int
  sampleRate : Int
  preDuration : Int
  currentDuration : Int
  fg : Option AVFilterGraph
  speed : Rat
  second : Int
  counter : Int
  licenseDuration : Int
  licenseValid : Int

/-- What a C `int` keeps of a number: its low 32 bits. -/
def int32 (value : Int) : Int := value.bmod (2 ^ 32)

/-- What an `int64_t` keeps of it. -/
def int64 (value : Int) : Int := value.bmod (2 ^ 64)

theorem int32_eq_iff (value : Int) : int32 value = value ↔ -2 ^ 31 ≤ value ∧ value < 2 ^ 31 := by
  have bounds : -2 ^ 31 ≤ int32 value ∧ int32 value < 2 ^ 31 := ⟨Int.le_bmod (by decide), Int.bmod_lt (by decide)⟩
  constructor
  · intro same
    rwa [same] at bounds
  · exact fun fits => Int.bmod_eq_of_le fits.1 fits.2

theorem int64_eq_iff (value : Int) : int64 value = value ↔ -2 ^ 63 ≤ value ∧ value < 2 ^ 63 := by
  have bounds : -2 ^ 63 ≤ int64 value ∧ int64 value < 2 ^ 63 := ⟨Int.le_bmod (by decide), Int.bmod_lt (by decide)⟩
  constructor
  · intro same
    rwa [same] at bounds
  · exact fun fits => Int.bmod_eq_of_le fits.1 fits.2

theorem int32_add (value more : Int) : int32 (int32 value + more) = int32 (value + more) := Int.bmod_add_bmod

def awtOpenInternal (sampleRate payloadLength : Int) (speed : Rat) (second : Int) : AWTContext where
  decoder := fun _ => none
  nbDecoder := 0
  buffer := fun _ => none
  nbBuffer := 0
  awtSize := 0
  bottomFreq := 0
  topFreq := 0
  framesyncFreq := 0
  payloadFrames := 0
  crcPercent := 0
  lookbackSec := 5
  payloadLength := max 1 (min 4 payloadLength)
  license := none
  preset := 0
  sampleRate := sampleRate
  preDuration := 0
  currentDuration := 0
  fg := none
  speed := max (1 / 20) (min 1000 speed)
  second := if second < 1 then INT64_MAX else int32 (second * 1000000)
  counter := 0
  licenseDuration := 0
  licenseValid := 0

def awtOpen (sampleRate preset payloadLength : Int) (speed : Rat) (second : Int) : AWTContext :=
  { awtOpenInternal sampleRate payloadLength speed second with
    preset := if preset ≠ -1 then max 1 (min 10 preset) else -1 }

def awtOpen2 (sampleRate bottomFreq topFreq framesyncFreq payloadFrames crcPercent payloadLength : Int)
    (speed : Rat) (second : Int) : AWTContext :=
  { awtOpenInternal sampleRate payloadLength speed second with
    bottomFreq, topFreq, framesyncFreq, payloadFrames, crcPercent }

/-- A context as one of the two functions leaves it. -/
inductive Opened : AWTContext → Prop where
  | awtOpen (sampleRate preset payloadLength : Int) (speed : Rat) (second : Int) :
      Opened (awtOpen sampleRate preset payloadLength speed second)
  | awtOpen2 (sampleRate bottomFreq topFreq framesyncFreq payloadFrames crcPercent payloadLength : Int)
      (speed : Rat) (second : Int) :
      Opened (awtOpen2 sampleRate bottomFreq topFreq framesyncFreq payloadFrames crcPercent
        payloadLength speed second)

abbrev History := Trace Surroundings AWTContext
abbrev Event := Entry Surroundings AWTContext
abbrev AwtWorld := World Surroundings AWTContext
abbrev AwtM := Program Surroundings AWTContext Stop

def ask (request : Call) : AwtM (Answer request) := @Program.call Surroundings _ _ request

def fault (why : Fault) : AwtM α := Program.stop (.fault why)

def logError (msg : LogMsg) (ffRet : Int) : AwtM Unit := ask (.logCallback .error msg (some ffRet))

def logInfo (msg : LogMsg) (ffRet : Int) : AwtM Unit := ask (.logCallback .info msg (some ffRet))

end Awt
