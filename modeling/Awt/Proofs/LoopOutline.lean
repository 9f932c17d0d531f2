import Awt.Proofs.Rescale
import Awt.Run

/-! A proof outline of the three nested loops of `awt_run`. An argument about a run
gives an assertion for each point between two calls and checks every single step;
soundness turns the steps into a statement about whole loops. -/

namespace Awt
open OracleProgram

abbrev Law := History → Event → Prop

/-- A packet's timestamp in microseconds. -/
def AVPacket.micros (packet : AVPacket) (base : TimeBase) : Option Int :=
  packet.time.bind fun pts => Lavu.avRescaleQ pts base.rational Lavu.AV_TIME_BASE_Q

theorem AVPacket.time_range {packet : AVPacket} {pts : Int} (stamp : packet.time = some pts) :
    INT64_MIN < pts ∧ pts ≤ INT64_MAX := by
  rw [AVPacket.time, known] at stamp
  split at stamp
  · cases stamp
  · case isFalse other =>
    obtain rfl := Option.some_inj.mp stamp
    have least := packet.pts.le_toInt
    have most := packet.pts.toInt_lt
    rw [AV_NOPTS_VALUE, INT64_MIN] at other
    rw [INT64_MIN, INT64_MAX]
    omega

/-- The time bases of a stream are such that `av_rescale_q` overflows nowhere. -/
theorem AVPacket.rescaled (packet : AVPacket) (base : TimeBase) {pts : Int} (stamp : packet.time = some pts) :
    ∃ micros, Lavu.avRescaleQ pts base.rational Lavu.AV_TIME_BASE_Q = some micros := by
  obtain ⟨least, most⟩ := time_range stamp
  exact ⟨_, Lavu.rescale_q (Lavu.timeBase_positive base) Lavu.microseconds_positive least most⟩

/-- Assertions are indexed by the locals that are live at their point: `start_pts`,
the shared `ret`, the packet or the frame in hand. -/
structure LoopOutline (law : Law) (fuel : Nat) (st : AVStream) where
  head : Clock → AwtWorld → Prop
  reading : Option Int → AwtWorld → Prop
  timing : Option Int → AVPacket → AwtWorld → Prop
  sending : Option Int → AVPacket → AwtWorld → Prop
  receiving : Option Int → Int → AwtWorld → Prop
  pushing : Option Int → AVFrame → AwtWorld → Prop
  sinking : Option Int → AwtWorld → Prop
  filtering : Option Int → AVFrame → AwtWorld → Prop
  out : Int → AwtWorld → Prop
  halt : Stop → AwtWorld → Prop
  head_expired : ∀ clock world, head clock world → halt .timeout world
  receiving_expired : ∀ startPts ret world, receiving startPts ret world → halt .timeout world
  sinking_expired : ∀ startPts world, sinking startPts world → halt .timeout world
  check : ∀ clock world, head clock world →
    After law .running (fun running world =>
      if running then reading clock.startPts world else out clock.ret world) world
  read : ∀ startPts world, reading startPts world →
    After law .avReadFrame (fun result world =>
      if result.code.val < 0 then out result.code.val world
      else if result.packet.streamIndex ≠ st.index then
        After law .avPacketUnref (fun _ => head ⟨0, startPts⟩) world
      else timing startPts result.packet world) world
  untimed : ∀ startPts packet world, packet.time = none → timing startPts packet world →
    sending startPts packet world
  time : ∀ startPts packet micros world, packet.micros st.timeBase = some micros → timing startPts packet world →
    let origin := startPts.getD micros
    After law .avGettime (fun _ world =>
      if int64 (world.state.currentDuration + world.state.preDuration) ≥ world.state.second then
        After law (.mark .limit) (fun _ => out 0) world
      else sending (known origin) packet world ∧
        ∀ delta, After law (.usleep delta) (fun _ => sending (known origin) packet) world)
      (world.update (·.setCurrent (int64 (micros - origin))))
  send : ∀ startPts packet world, sending startPts packet world →
    After law (.avcodecSendPacket packet) (fun code world =>
      if code.val < 0 then
        After law (.logCallback .error .errorSending (some code.val)) (fun _ => out code.val) world
      else receiving startPts 0 world) world
  drained : ∀ startPts ret world, ret < 0 → receiving startPts ret world →
    After law .avPacketUnref (fun _ => head ⟨ret, startPts⟩) world
  receive : ∀ startPts ret world, ¬ ret < 0 → receiving startPts ret world →
    After law .avcodecReceiveFrame (fun result world =>
      if result.code.val = EAGAIN ∨ result.code.val = AVERROR_EOF then
        After law .avPacketUnref (fun _ => head ⟨result.code.val, startPts⟩) world
      else if result.code.val < 0 then
        After law (.logCallback .error .errorReceiving (some result.code.val)) (fun _ => out result.code.val) world
      else pushing startPts result.frame world) world
  push : ∀ startPts frame world, pushing startPts frame world →
    After law (.avBuffersrcAddFrameFlags frame) (fun code world =>
      if code.val < 0 then
        After law (.logCallback .error .errorFeeding (some code.val)) (fun _ => out code.val) world
      else sinking startPts world) world
  sink : ∀ startPts world, sinking startPts world →
    After law .avBuffersinkGetFrame (fun result world =>
      if result.code.val = EAGAIN ∨ result.code.val = AVERROR_EOF then
        After law .avFrameUnref (fun _ => receiving startPts result.code.val) world
      else if result.code.val < 0 then out result.code.val world
      else filtering startPts result.frame world) world
  filter : ∀ startPts frame world, filtering startPts frame world →
    Meets law (awtFilterFrame fuel frame) (fun ret =>
      After law .avFrameUnref fun _ world => if ret ≠ 0 then out ret world else sinking startPts world)
      halt world

namespace LoopOutline

variable {law : Law} {fuel : Nat} {st : AVStream} (outline : LoopOutline law fuel st) {world : AwtWorld}

private theorem sink_loop {startPts : Option Int} (holds : outline.sinking startPts world) :
    Meets law (Program.loop .timeout (sinkTurn fuel) fuel ()) (fun jump world => match jump with
      | .past ret => After law .avFrameUnref (fun _ => outline.receiving startPts ret) world
      | .out ret => outline.out ret world) outline.halt world := by
  apply Meets.loop (fun _ => outline.sinking startPts) _ (fun _ => outline.sinking_expired startPts) fuel () holds
  intro _ world holds
  apply Meets.call_seq (outline.sink startPts world holds)
  intro result middle next
  by_cases empty : result.code.val = EAGAIN ∨ result.code.val = AVERROR_EOF
  · simp only [empty, if_true] at next ⊢
    exact Meets.ret next
  simp only [empty, if_false] at next ⊢
  by_cases failed : result.code.val < 0
  · simp only [failed, if_true] at next ⊢
    exact Meets.ret next
  simp only [failed, if_false] at next ⊢
  apply Meets.seq (outline.filter startPts result.frame middle next)
  intro ret filtered after
  apply Meets.call_seq after
  intro _ final next
  by_cases zero : ret = 0
  · rw [if_neg (not_not.mpr zero)] at next ⊢
    exact Meets.ret next
  · rw [if_pos zero] at next ⊢
    exact Meets.ret next

private theorem receive_loop {startPts : Option Int} {ret : Int} (holds : outline.receiving startPts ret world) :
    Meets law (Program.loop .timeout (receiveTurn fuel) fuel ret) (fun jump world => match jump with
      | .past ret => After law .avPacketUnref (fun _ => outline.head ⟨ret, startPts⟩) world
      | .out ret => outline.out ret world) outline.halt world := by
  apply Meets.loop (outline.receiving startPts) _ (outline.receiving_expired startPts) fuel ret holds
  intro ret world holds
  unfold receiveTurn
  by_cases drained : ret < 0
  · rw [if_pos (by omega)]
    exact Meets.ret (outline.drained startPts ret world drained holds)
  rw [if_neg (by omega)]
  apply Meets.call_seq (outline.receive startPts ret world drained holds)
  intro result middle next
  by_cases empty : result.code.val = EAGAIN ∨ result.code.val = AVERROR_EOF
  · simp only [empty, if_true] at next ⊢
    exact Meets.ret next
  simp only [empty, if_false] at next ⊢
  by_cases failed : result.code.val < 0
  · simp only [failed, if_true] at next ⊢
    exact Meets.call_seq next fun _ _ out => Meets.ret out
  simp only [failed, if_false] at next ⊢
  apply Meets.call_seq (outline.push startPts result.frame middle next)
  intro code pushed next
  by_cases failed : code.val < 0
  · simp only [failed, if_true] at next ⊢
    exact Meets.call_seq next fun _ _ out => Meets.ret out
  simp only [failed, if_false] at next ⊢
  apply Meets.seq (outline.sink_loop next)
  intro jump sunk next
  cases jump with
  | out ret => exact Meets.ret next
  | past ret => exact Meets.call_seq next fun _ _ again => Meets.ret again

private theorem decode {startPts : Option Int} {packet : AVPacket} (holds : outline.sending startPts packet world) :
    Meets law (decodePacket fuel packet) (fun jump world => match jump with
      | .past ret => After law .avPacketUnref (fun _ => outline.head ⟨ret, startPts⟩) world
      | .out ret => outline.out ret world) outline.halt world := by
  apply Meets.call_seq (outline.send startPts packet world holds)
  intro code sent next
  by_cases failed : code.val < 0
  · simp only [failed, if_true] at next ⊢
    exact Meets.call_seq next fun _ _ out => Meets.ret out
  simp only [failed, if_false] at next ⊢
  rw [code.zero_of_not_neg failed]
  exact outline.receive_loop next

private theorem keep_time (startTime : Int) {startPts : Option Int} {packet : AVPacket}
    (holds : outline.timing startPts packet world) :
    Meets law (keepTime st startTime startPts packet.time) (fun timed world => match timed with
      | none => outline.out 0 world
      | some startPts => outline.sending startPts packet world) outline.halt world := by
  cases stamp : packet.time with
  | none => exact Meets.ret (outline.untimed startPts packet world stamp holds)
  | some pts =>
    obtain ⟨micros, rescaled⟩ := packet.rescaled st.timeBase stamp
    have told : packet.micros st.timeBase = some micros := by rw [AVPacket.micros, stamp, Option.bind_some, rescaled]
    rw [keepTime, rescaled]
    apply Meets.modify_bind
    apply Meets.call_seq (outline.time startPts packet micros world told holds)
    intro now timed next
    apply Meets.get_bind
    by_cases limit : int64 (timed.state.currentDuration + timed.state.preDuration) ≥ timed.state.second
    · simp only [limit, if_true] at next ⊢
      exact Meets.call_seq next fun _ _ out => Meets.ret out
    simp only [limit, if_false] at next ⊢
    unfold usleepFor
    split
    · exact Meets.call_seq (next.2 _) fun _ _ sending => Meets.ret sending
    · exact Meets.bind (Meets.ret (Meets.ret next.1))

theorem packet_loop (startTime : Int) {clock : Clock} (holds : outline.head clock world) :
    Meets law (Program.loop .timeout (packetTurn fuel st startTime) fuel clock) outline.out outline.halt world := by
  apply Meets.loop outline.head _ outline.head_expired fuel clock holds
  intro clock world holds
  apply Meets.call_seq (outline.check clock world holds)
  intro running checked next
  cases running with
  | false => exact Meets.ret next
  | true =>
  apply Meets.call_seq (outline.read clock.startPts checked next)
  intro result middle next
  by_cases failed : result.code.val < 0
  · simp only [failed, if_true] at next ⊢
    exact Meets.ret next
  simp only [failed, if_false] at next ⊢
  rw [result.code.zero_of_not_neg failed]
  by_cases other : result.packet.streamIndex ≠ st.index
  · rw [if_pos other] at next ⊢
    exact Meets.call_seq next fun _ _ again => Meets.ret again
  rw [if_neg other] at next ⊢
  apply Meets.seq (outline.keep_time startTime next)
  intro timed kept next
  cases timed with
  | none => exact Meets.ret next
  | some startPts =>
    apply Meets.seq (outline.decode next)
    intro jump decoded next
    cases jump with
    | out ret => exact Meets.ret next
    | past ret => exact Meets.call_seq next fun _ _ again => Meets.ret again

end LoopOutline
end Awt
