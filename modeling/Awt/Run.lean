import Awt.Filter
import Awt.Input
import Awt.Lavu.Mathematics

/-! `awt_run` and its three nested loops, and the functions a caller has:
`awt_exec` and `awt_close` on the slot that `awt_open` filled. -/

namespace Awt
open OracleProgram

/-- How a loop of `awt_run` is left: past its end, or with a jump to `out`. Both
carry the value of the `ret` that all the loops share. -/
inductive Jump where
  | past (ret : Int)
  | out (ret : Int)

/-- One turn of `while (1)` around `av_buffersink_get_frame`. -/
def sinkTurn (fuel : Nat) (_ : Unit) : AwtM (Unit ⊕ Jump) := do
  let result ← ask .avBuffersinkGetFrame
  if result.code.val = EAGAIN ∨ result.code.val = AVERROR_EOF then
    return .inr (.past result.code.val)
  else if result.code.val < 0 then return .inr (.out result.code.val) else
  let ret ← awtFilterFrame fuel result.frame
  ask .avFrameUnref
  if ret ≠ 0 then return .inr (.out ret) else return .inl ()

/-- One turn of `while (ret >= 0)` around `avcodec_receive_frame`. -/
def receiveTurn (fuel : Nat) (ret : Int) : AwtM (Int ⊕ Jump) := do
  if ¬ ret ≥ 0 then return .inr (.past ret) else
  let result ← ask .avcodecReceiveFrame
  if result.code.val = EAGAIN ∨ result.code.val = AVERROR_EOF then
    return .inr (.past result.code.val)
  else if result.code.val < 0 then
    logError .errorReceiving result.code.val
    return .inr (.out result.code.val)
  else
  let code ← ask (.avBuffersrcAddFrameFlags result.frame)
  if code.val < 0 then
    logError .errorFeeding code.val
    return .inr (.out code.val)
  else
  match ← Program.loop .timeout (sinkTurn fuel) fuel () with
  | .out ret => return .inr (.out ret)
  | .past ret =>
    ask .avFrameUnref
    return .inl ret

/-- The microseconds to sleep so that playback keeps to `speed`; the quotient is exact here,
and a `float` in the source. -/
def AWTContext.delta (awt : AWTContext) (realtime : Int) : Int :=
  let delta := awt.currentDuration / awt.speed - realtime
  if delta < 0 then delta.ceil else delta.floor

def usleepFor (delta : Int) : AwtM Unit :=
  if 0 < delta then ask (.usleep delta) else pure ()

def AWTContext.setCurrent (awt : AWTContext) (currentDuration : Int) : AWTContext := { awt with currentDuration }

def AWTContext.spend (awt : AWTContext) : AWTContext :=
  { awt with preDuration := int64 (awt.preDuration + awt.currentDuration) }

/-- The handling of a packet's timestamp. `none` means that the duration limit was
reached, otherwise the new `start_pts` comes back. -/
def keepTime (st : AVStream) (startTime : Int) (startPts : Option Int) :
    Option Int → AwtM (Option (Option Int))
  | none => return some startPts
  | some pts => do
    match Lavu.avRescaleQ pts st.timeBase.rational Lavu.AV_TIME_BASE_Q with
    | none => fault .intOverflow
    | some pts =>
    let startPts := startPts.getD pts
    Program.modify (·.setCurrent (int64 (pts - startPts)))
    let now ← ask .avGettime
    let awt ← Program.get
    if int64 (awt.currentDuration + awt.preDuration) ≥ awt.second then
      ask (.mark .limit)
      return none
    else
    usleepFor (awt.delta (now - startTime))
    return some (known startPts)

/-- From `avcodec_send_packet` to the end of the loop that receives its frames. -/
def decodePacket (fuel : Nat) (packet : AVPacket) : AwtM Jump := do
  let code ← ask (.avcodecSendPacket packet)
  if code.val < 0 then
    logError .errorSending code.val
    return .out code.val
  else
  Program.loop .timeout (receiveTurn fuel) fuel code.val

/-- What lives across the turns of the packet loop: `ret` and `start_pts`. -/
structure Clock where
  ret : Int
  startPts : Option Int

/-- One turn of `while (awt->running)`. -/
def packetTurn (fuel : Nat) (st : AVStream) (startTime : Int) (clock : Clock) : AwtM (Clock ⊕ Int) := do
  if !(← ask .running) then return .inr clock.ret else
  let result ← ask .avReadFrame
  if result.code.val < 0 then return .inr result.code.val else
  if result.packet.streamIndex ≠ st.index then
    ask .avPacketUnref
    return .inl { clock with ret := result.code.val }
  else
  match ← keepTime st startTime clock.startPts result.packet.time with
  | none => return .inr result.code.val
  | some startPts =>
  match ← decodePacket fuel result.packet with
  | .out ret => return .inr ret
  | .past ret =>
    ask .avPacketUnref
    return .inl ⟨ret, startPts⟩

/-- The mapping at `out:`. -/
def outCode (ret : Int) : Int :=
  if ret = EAGAIN ∨ ret = AVERROR_EOF then 0 else if ret ≠ 0 then AWT_CODE_PROCESS_ERROR else ret

def AWTContext.takeRate (awt : AWTContext) (input : Input) : AWTContext :=
  if awt.sampleRate < 1 then { awt with sampleRate := input.st.codecpar.sampleRate } else awt

/-- `!awt->fg && (ret = awt_init_filters(...))`, with the unchanged `ret` of 0 when
there is a graph already. -/
def needFilters (input : Input) : AwtM Int := do
  let awt ← Program.get
  if awt.fg.isSome then return 0 else
  let ret ← awtInitFilters "anull" .fltp input.st.codecpar.channels input
  ask (.mark (.initFilters ret))
  return ret

/-- `!awt->nb_decoder && (ret = awt_setup(...)) < 0`, without the comparison. -/
def needSetup (fuel : Nat) (input : Input) : AwtM Int := do
  let awt ← Program.get
  if awt.nbDecoder ≠ 0 then return 0 else
  let ret ← awtSetup fuel input.st.codecpar.channels
  ask (.mark (.setup ret))
  return ret

/-- `awt_run` up to its label `end`. -/
def awtRunBody (fuel : Nat) (filePath : String) (startTime : Int) (allocated : Bool) : AwtM Int := do
  if !allocated then return AWT_CODE_SETUP_ERROR else
  Program.modify fun awt => { awt with counter := 0 }
  let opened ← awtOpenInput filePath
  ask (.mark (.openInput opened))
  match opened with
  | .error _ => return AWT_CODE_OPEN_ERROR
  | .ok input =>
  Program.modify (·.takeRate input)
  if (← needFilters input) ≠ 0 then return AWT_CODE_SETUP_ERROR else
  let ret ← needSetup fuel input
  if ret < 0 then return AWT_CODE_SETUP_ERROR else
  let awt ← Program.get
  logInfo (.start filePath input.st.codecpar.channels input.st.codecpar.sampleRate awt.sampleRate
    awt.awtSize) ret
  let ret ← Program.loop .timeout (packetTurn fuel input.st startTime) fuel ⟨ret, none⟩
  return outCode ret

def awtRun (fuel : Nat) (filePath : String) : AwtM Int := do
  let packet ← ask .avPacketAlloc
  let frame ← ask .avFrameAlloc
  let filtFrame ← ask .avFrameAlloc
  let startTime ← ask .avGettime
  let ret ← awtRunBody fuel filePath startTime (packet && frame && filtFrame)
  Program.modify AWTContext.spend
  let _ ← ask .avGettime
  let awt ← Program.get
  logInfo (.finish awt.counter ret) ret
  ask (.release .decoder)
  ask (.release .fmtCtx)
  ask (.release .packet)
  ask (.release .frame)
  ask (.release .filtFrame)
  return ret

/-- The body of the loop in `awt_close`. -/
def killDecoder (i : Nat) : AwtM (Option Unit) := do
  let awt ← Program.get
  ask (.awt5DecodeStreamKill i (awt.decoder i))
  ask (.release (.buffer i))
  return none

/-- What `awt_close` does with a context, up to the point where it is freed. -/
def closeContext : AwtM Unit := do
  let awt ← Program.get
  let _ ← Program.each killDecoder (indices awt.nbDecoder)
  Program.modify fun awt => { awt with nbDecoder := 0 }
  ask (.release .license)
  ask (.release .filterGraph)
  ask (.release .context)

/-- A caller's slot for the context, what happened so far, the codes its calls
returned, and whether one of them will never return. -/
structure Session where
  slot : Option AWTContext
  trace : History
  returned : List Int
  stuck : Option Stop

inductive Request where
  | exec (filePath : String)
  | close
  deriving DecidableEq

namespace Session

def opened (awt : AWTContext) : Session := ⟨some awt, [], [], none⟩

/-- The rest of a session after a call on the context ended. -/
def resume (session : Session) (executed : Exit Stop Int × AwtWorld) (slot : AWTContext → Option AWTContext) :
    Session :=
  match executed with
  | (.done ret, world) => ⟨slot world.state, world.trace, session.returned ++ [ret], none⟩
  | (.stop why, world) => ⟨some world.state, world.trace, session.returned, some why⟩

def awtExec (oracle : Oracle Surroundings AWTContext) (fuel : Nat) (session : Session) (filePath : String) :
    Session :=
  match session.slot with
  | none => { session with returned := session.returned ++ [-1] }
  | some awt => session.resume ((awtRun fuel filePath).run oracle ⟨awt, session.trace⟩) some

def awtClose (oracle : Oracle Surroundings AWTContext) (session : Session) : Session :=
  match session.slot with
  | none => { session with returned := session.returned ++ [0] }
  | some awt => session.resume ((closeContext >>= fun _ => pure 0).run oracle ⟨awt, session.trace⟩) fun _ => none

def request (oracle : Oracle Surroundings AWTContext) (fuel : Nat) (session : Session) : Request → Session
  | .exec filePath => if session.stuck.isSome then session else session.awtExec oracle fuel filePath
  | .close => if session.stuck.isSome then session else session.awtClose oracle

def run (oracle : Oracle Surroundings AWTContext) (fuel : Nat) (session : Session) (requests : List Request) :
    Session :=
  requests.foldl (request oracle fuel) session

end Session
end Awt
