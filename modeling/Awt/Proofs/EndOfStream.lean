import Awt.Proofs.Frames
import Awt.Script

/-! The end of an input: `awt_run` leaves its packet loop without draining the codec,
and what the codec still holds is dropped with it. -/

namespace Awt
open OracleProgram

/-- The frames that the first packets decode to. -/
def produced (yields : Nat → List AVFrame) (packets : Nat) : List AVFrame := (List.range packets).flatMap yields

/-- A codec that holds back up to `delay` frames until it is drained: after so many
packets, `ready` of the frames they decode to can be received. -/
structure Transducer where
  yields : Nat → List AVFrame
  ready : Nat → Nat
  delay : Nat
  within : ∀ packets, ready packets ≤ (produced yields packets).length
  behind : ∀ packets, (produced yields packets).length ≤ ready packets + delay
  grows : ∀ packets, ready packets ≤ ready (packets + 1)

/-- The open codec by its number in the history, the packets it accepted, the frames
received from it and passed on, and whether the file is at its end. -/
structure Coding where
  opens : Nat
  sent : Nat
  received : Nat
  pushed : List AVFrame
  ended : Bool

def Coding.see (coding : Coding) : Event → Coding
  | ⟨_, .avPacketAlloc, _⟩ => { coding with ended := false }
  | ⟨_, .avcodecOpen2, _⟩ => ⟨coding.opens + 1, 0, 0, [], coding.ended⟩
  | ⟨_, .avReadFrame, result⟩ => { coding with ended := result.code.val = AVERROR_EOF }
  | ⟨_, .avcodecSendPacket _, code⟩ => if code.val < 0 then coding else { coding with sent := coding.sent + 1 }
  | ⟨_, .avcodecReceiveFrame, result⟩ =>
    if result.code.val < 0 then coding else { coding with received := coding.received + 1 }
  | ⟨_, .avBuffersrcAddFrameFlags frame, code⟩ =>
    if code.val < 0 then coding else { coding with pushed := coding.pushed ++ [frame] }
  | _ => coding

def coding : Observer Surroundings AWTContext Coding where
  init := ⟨0, 0, 0, [], false⟩
  step := Coding.see

/-- All frames that the packets sent to the open codec decode to. -/
def Coding.due (coding : Coding) (codecs : Nat → Transducer) : List AVFrame :=
  produced (codecs coding.opens).yields coding.sent

/-- The codec gives its frames in order as soon as they are ready, says EAGAIN when none
is, and never the end of a stream that was not drained. -/
def transduces (codecs : Nat → Transducer) (coding : Coding) : Event → Bool
  | ⟨_, .avcodecReceiveFrame, result⟩ =>
    let codec := codecs coding.opens
    (¬ result.code.val < 0 → coding.received < codec.ready coding.sent ∧
        (coding.due codecs)[coding.received]? = some result.frame) ∧
      (result.code.val = EAGAIN → codec.ready coding.sent ≤ coding.received) ∧ result.code.val ≠ AVERROR_EOF
  | _ => true

/-- A run that ends well at the end of its file has passed on all frames of its packets. -/
def complete (codecs : Nat → Transducer) (coding : Coding) : Event → Bool
  | ⟨_, .logCallback .info (.finish _ ec) _, _⟩ =>
    ec = 0 → coding.ended → coding.pushed = coding.due codecs
  | _ => true

/-- At the end of its file, a run was never further behind than it has had packets
since: one frame for every packet is enough, and none is held back in the end. -/
def keepsUp (codecs : Nat → Transducer) (coding : Coding) : Event → Bool
  | ⟨_, .logCallback .info (.finish _ _) _, _⟩ =>
    let codec := codecs coding.opens
    coding.ended → ∀ packets ≤ coding.sent,
      (coding.due codecs).length ≤ codec.ready packets + (coding.sent - packets)
  | _ => true

abbrev Transduces (codecs : Nat → Transducer) : Law := coding.law fun coding event => transduces codecs coding event
abbrev Complete (codecs : Nat → Transducer) : Law := coding.law fun coding event => complete codecs coding event
abbrev KeepsUp (codecs : Nat → Transducer) : Law := coding.law fun coding event => keepsUp codecs coding event

theorem produced_succ (yields : Nat → List AVFrame) (packets : Nat) :
    produced yields (packets + 1) = produced yields packets ++ yields packets := by
  rw [produced, List.range_succ, List.flatMap_append, List.flatMap_singleton, produced]

section coding

/-- One frame was taken for every packet where one was ready: no frame that a packet
could bring is missing, and some packet since which there always was one. -/
structure Taken (codec : Transducer) (packets received : Nat) : Prop where
  reach : ∀ earlier ≤ packets, received ≤ codec.ready earlier + (packets - earlier)
  tight : ∃ earlier ≤ packets, received = codec.ready earlier + (packets - earlier)

variable {codec : Transducer} {packets received : Nat}

theorem Taken.ready (taken : Taken codec packets received) : received ≤ codec.ready packets := by
  simpa using taken.reach packets le_rfl

theorem Taken.begin : Taken codec 0 0 := by
  have none : codec.ready 0 = 0 := Nat.le_zero.mp (codec.within 0)
  exact ⟨fun _ _ => Nat.zero_le _, 0, le_rfl, by rw [none]⟩

theorem Taken.take (taken : Taken codec packets received) (more : received < codec.ready (packets + 1)) :
    Taken codec (packets + 1) (received + 1) := by
  constructor
  · intro earlier before
    rcases Nat.lt_or_eq_of_le before with past | rfl
    · have := taken.reach earlier (by omega)
      omega
    · omega
  · obtain ⟨earlier, before, same⟩ := taken.tight
    exact ⟨earlier, by omega, by omega⟩

theorem Taken.none (taken : Taken codec packets received) (empty : codec.ready (packets + 1) ≤ received) :
    Taken codec (packets + 1) received := by
  have same : received = codec.ready (packets + 1) := le_antisymm (taken.ready.trans (codec.grows packets)) empty
  constructor
  · intro earlier before
    rcases Nat.lt_or_eq_of_le before with past | rfl
    · have := taken.reach earlier (by omega)
      omega
    · omega
  · exact ⟨packets + 1, le_rfl, by omega⟩

/-- All frames were taken exactly if no packet was too far ahead of the frames. -/
theorem Taken.all_iff (taken : Taken codec packets received) : received = (produced codec.yields packets).length ↔
    ∀ earlier ≤ packets, (produced codec.yields packets).length ≤ codec.ready earlier + (packets - earlier) := by
  constructor
  · intro all earlier before
    rw [← all]
    exact taken.reach earlier before
  · intro enough
    obtain ⟨earlier, before, same⟩ := taken.tight
    have := enough earlier before
    have := taken.ready.trans (codec.within packets)
    omega

variable {codecs : Nat → Transducer}

/-- The frames taken so far were passed on. -/
structure Serving (codecs : Nat → Transducer) (coding : Coding) : Prop where
  taken : Taken (codecs coding.opens) coding.sent coding.received
  passed : coding.pushed = (coding.due codecs).take coding.received

structure Looping (codecs : Nat → Transducer) (coding : Coding) : Prop extends Serving codecs coding where
  going : coding.ended = false

/-- A packet was accepted and nothing received since. -/
structure Sent (codecs : Nat → Transducer) (coding : Coding) : Prop where
  before : ∃ packets, coding.sent = packets + 1 ∧ Taken (codecs coding.opens) packets coding.received
  passed : coding.pushed = (coding.due codecs).take coding.received
  going : coding.ended = false

/-- A frame was received and is still to be passed on. -/
structure Carrying (codecs : Nat → Transducer) (frame : AVFrame) (coding : Coding) : Prop where
  taken : Taken (codecs coding.opens) coding.sent coding.received
  last : ∃ frames, coding.received = frames + 1 ∧ (coding.due codecs)[frames]? = some frame ∧
    coding.pushed = (coding.due codecs).take frames
  going : coding.ended = false

/-- At the end of the file the loop is left with its code, otherwise before the end. -/
def LoopLeft (codecs : Nat → Transducer) (ret : Int) (coding : Coding) : Prop :=
  coding.ended → ret = AVERROR_EOF ∧ Serving codecs coding

def Ending (codecs : Nat → Transducer) (ret : Int) (coding : Coding) : Prop :=
  coding.ended → ret = 0 ∧ Serving codecs coding

theorem Looping.left {coding : Coding} (looping : Looping codecs coding) (ret : Int) : LoopLeft codecs ret coding := by
  intro ended
  rw [looping.going] at ended
  cases ended

theorem Looping.send {coding : Coding} (looping : Looping codecs coding) (awt : AWTContext) (packet : AVPacket)
    {code : AvCode} (accepted : ¬ code.val < 0) : Sent codecs (coding.see ⟨awt, .avcodecSendPacket packet, code⟩) := by
  have within := looping.taken.ready.trans ((codecs coding.opens).within coding.sent)
  have more : coding.pushed = (produced (codecs coding.opens).yields (coding.sent + 1)).take coding.received := by
    rw [produced_succ, List.take_append_of_le_length within]
    exact looping.passed
  simp only [Coding.see, accepted, if_false]
  exact ⟨⟨coding.sent, rfl, looping.taken⟩, more, looping.going⟩

theorem Sent.take {coding : Coding} (sent : Sent codecs coding) (awt : AWTContext) {result : FrameResult}
    (given : ¬ result.code.val < 0) (more : coding.received < (codecs coding.opens).ready coding.sent)
    (next : (coding.due codecs)[coding.received]? = some result.frame) :
    Carrying codecs result.frame (coding.see ⟨awt, .avcodecReceiveFrame, result⟩) := by
  obtain ⟨packets, same, taken⟩ := sent.before
  simp only [Coding.see, given, if_false]
  refine ⟨?_, ⟨coding.received, rfl, next, sent.passed⟩, sent.going⟩
  rw [same] at more ⊢
  exact taken.take more

theorem Sent.none {coding : Coding} (sent : Sent codecs coding) (awt : AWTContext) {result : FrameResult}
    (refused : result.code.val < 0) (empty : (codecs coding.opens).ready coding.sent ≤ coding.received) :
    Looping codecs (coding.see ⟨awt, .avcodecReceiveFrame, result⟩) := by
  obtain ⟨packets, same, taken⟩ := sent.before
  simp only [Coding.see, refused, if_true]
  refine ⟨⟨?_, sent.passed⟩, sent.going⟩
  rw [same] at empty ⊢
  exact taken.none empty

theorem Carrying.pass {coding : Coding} {frame : AVFrame} (carrying : Carrying codecs frame coding) (awt : AWTContext)
    {code : AvCode} (passed : ¬ code.val < 0) :
    Looping codecs (coding.see ⟨awt, .avBuffersrcAddFrameFlags frame, code⟩) := by
  obtain ⟨frames, same, last, before⟩ := carrying.last
  have all : coding.pushed ++ [frame] = (coding.due codecs).take coding.received := by
    rw [same, List.take_add_one, before, last]
    rfl
  simp only [Coding.see, passed, if_false]
  exact ⟨⟨carrying.taken, all⟩, carrying.going⟩

/-- Whether a run has passed on everything can be told from what was ready when. -/
theorem Ending.settles {coding : Coding} {ret : Int} (ending : Ending codecs ret coding) (awt : AWTContext)
    (counter : Int) (logged : Option Int) :
    complete codecs coding ⟨awt, .logCallback .info (.finish counter ret) logged, ()⟩ =
      keepsUp codecs coding ⟨awt, .logCallback .info (.finish counter ret) logged, ()⟩ := by
  cases ended : coding.ended with
  | false => simp [complete, keepsUp, ended]
  | true =>
    obtain ⟨rfl, serving⟩ := ending ended
    have within := serving.taken.ready.trans ((codecs coding.opens).within coding.sent)
    have all : coding.pushed = coding.due codecs ↔
        coding.received = (produced (codecs coding.opens).yields coding.sent).length := by
      rw [serving.passed, Coding.due]
      constructor
      · intro whole
        have length := congrArg List.length whole
        rw [List.length_take] at length
        omega
      · intro same
        rw [same, List.take_length]
    simp only [complete, keepsUp, ended, true_implies, Coding.due]
    exact decide_eq_decide.mpr (all.trans serving.taken.all_iff)

private abbrev CodingTracks (codecs : Nat → Transducer) (agrees : Coding → Prop) : AwtWorld → Prop :=
  coding.Tracks (fun coding event => complete codecs coding event = keepsUp codecs coding event)
    fun coding _ => agrees coding

variable {law : Law} {agrees : Coding → Prop} {world : AwtWorld} {fuel : Nat} {ret : Int}

private def Call.offCoding : Call → Bool
  | .avPacketAlloc | .avReadFrame | .avcodecSendPacket _ | .avcodecReceiveFrame
  | .avBuffersrcAddFrameFlags _ | .logCallback .info (.finish _ _) _ => false
  | _ => true

/-- What is also true of a codec that was just opened. -/
def Reopens (agrees : Coding → Prop) : Prop :=
  ∀ coding, agrees coding → agrees ⟨coding.opens + 1, 0, 0, [], coding.ended⟩

theorem serving_reopened (codecs : Nat → Transducer) (opens : Nat) (ended : Bool) :
    Serving codecs ⟨opens, 0, 0, [], ended⟩ := ⟨Taken.begin, rfl⟩

private theorem coding_ignores (reopens : Reopens agrees) :
    Ignores law (fun call => Call.offCoding call) (CodingTracks codecs agrees) := by
  apply Observer.Tracks.ignores
  intro value awt call answer off holds
  cases call with
  | avcodecOpen2 => exact ⟨rfl, reopens value holds⟩
  | logCallback level msg ret => cases level <;> cases msg <;> first | exact ⟨rfl, holds⟩ | cases off
  | _ => first | exact ⟨rfl, holds⟩ | cases off

private theorem looping_reopens : Reopens (Looping codecs) :=
  fun _ looping => ⟨serving_reopened _ _ _, looping.going⟩

private theorem going_reopens : Reopens fun coding => coding.ended = false := fun _ going => going

private theorem CodingTracks.fields {outside : AWTContext → τ} : Frames outside (CodingTracks codecs agrees) :=
  tracks_frames fun _ _ _ _ holds => holds

private theorem offCoding_of_quiet {call : Call} (quiet : call.quiet) : Call.offCoding call := by
  cases call with
  | logCallback level msg ret => cases level <;> cases msg <;> first | rfl | cases quiet
  | _ => first | rfl | cases quiet

private theorem offCoding_of_part {call : Call} (part : call.ofSetup ∨ call.ofFilters ∨ call.ofBlocks ∨ call.ofClose) :
    Call.offCoding call := by
  cases call with
  | logCallback level msg ret =>
    cases level <;> cases msg <;> first | rfl | rcases part with part | part | part | part <;> cases part
  | _ => first | rfl | rcases part with part | part | part | part <;> cases part

private theorem coding_receive (sent : CodingTracks codecs (Sent codecs) world) :
    After (Transduces codecs) .avcodecReceiveFrame (fun result world =>
      if result.code.val = EAGAIN ∨ result.code.val = AVERROR_EOF then CodingTracks codecs (Looping codecs) world
      else if result.code.val < 0 then CodingTracks codecs (fun coding => coding.ended = false) world
      else CodingTracks codecs (Carrying codecs result.frame) world) world := by
  intro result lawful
  obtain ⟨gives, empty, undrained⟩ := of_decide_eq_true lawful
  split
  next nothing =>
    have again : result.code.val = EAGAIN := nothing.resolve_right undrained
    have refused : result.code.val < 0 := by rw [again]; decide
    exact sent.record (fun _ => rfl) fun holds => holds.none world.state refused (empty again)
  split
  next failed =>
    apply sent.record fun _ => rfl
    intro holds
    simp only [coding, Coding.see, failed, if_true]
    exact holds.going
  next given =>
    obtain ⟨more, next⟩ := gives given
    exact sent.record (fun _ => rfl) fun holds => holds.take world.state given more next

private theorem coding_frame : LoopFrame law (CodingTracks codecs (Looping codecs))
    (CodingTracks codecs (Looping codecs)) (CodingTracks codecs fun coding => coding.ended = false) where
  quiet := (coding_ignores looping_reopens).narrow fun _ => offCoding_of_quiet
  ends := ends_of_ignores (coding_ignores going_reopens) (fun msg _ => by cases msg <;> rfl) rfl
  again _ holds := holds
  leaves _ holds := holds.weaken fun looping => looping.going

private theorem going_left (going : CodingTracks codecs (fun coding => coding.ended = false) world) :
    CodingTracks codecs (LoopLeft codecs ret) world := by
  apply going.weaken
  intro going ended
  rw [going] at ended
  cases ended

private theorem coding_read {st : AVStream} (looping : CodingTracks codecs (Looping codecs) world) :
    After law .avReadFrame (fun result world =>
      if result.code.val < 0 then CodingTracks codecs (LoopLeft codecs result.code.val) world
      else if result.packet.streamIndex ≠ st.index then
        After law .avPacketUnref (fun _ => CodingTracks codecs (Looping codecs)) world
      else CodingTracks codecs (Looping codecs) world) world := by
  intro result _
  have read : CodingTracks codecs (fun coding => Serving codecs coding ∧
      coding.ended = decide (result.code.val = AVERROR_EOF)) (world.record .avReadFrame result) :=
    looping.record (fun _ => rfl) fun looping => ⟨⟨looping.taken, looping.passed⟩, rfl⟩
  split
  · exact read.weaken fun read ended => ⟨of_decide_eq_true (read.2 ▸ ended), read.1⟩
  next given =>
    have going : CodingTracks codecs (Looping codecs) (world.record .avReadFrame result) := by
      apply read.weaken
      intro read
      refine ⟨read.1, read.2.trans (decide_eq_false fun ended => ?_)⟩
      rw [ended] at given
      exact given (by decide)
    split
    · exact coding_frame.unref going
    · exact going

private def codingLoops (codecs : Nat → Transducer) (fuel : Nat) (st : AVStream) :
    LoopOutline (Transduces codecs) fuel st where
  head _ := CodingTracks codecs (Looping codecs)
  reading _ := CodingTracks codecs (Looping codecs)
  timing _ _ := CodingTracks codecs (Looping codecs)
  sending _ _ := CodingTracks codecs (Looping codecs)
  receiving _ ret world :=
    if ret < 0 then CodingTracks codecs (Looping codecs) world else CodingTracks codecs (Sent codecs) world
  pushing _ frame := CodingTracks codecs (Carrying codecs frame)
  sinking _ := CodingTracks codecs (Looping codecs)
  filtering _ _ := CodingTracks codecs (Looping codecs)
  out ret := CodingTracks codecs (LoopLeft codecs ret)
  halt _ := CodingTracks codecs fun _ => True
  head_expired _ _ holds := holds.weaken fun _ => trivial
  receiving_expired _ ret _ holds := by
    split at holds <;> exact holds.weaken fun _ => trivial
  sinking_expired _ _ holds := holds.weaken fun _ => trivial
  check _ world holds := by
    refine (coding_ignores looping_reopens _ rfl world holds).weaken fun running world holds => ?_
    split
    · exact holds
    · exact holds.weaken fun looping => looping.left _
  read _ world holds := coding_read holds
  untimed _ _ _ _ holds := holds
  time startPts packet micros world _ holds := by
    have stamped : CodingTracks codecs (Looping codecs) (world.update (·.setCurrent (int64 (micros - startPts.getD micros)))) := holds.update id
    refine (coding_frame.time (coding_ignores looping_reopens _ rfl _ stamped)).weaken fun _ world next => ?_
    split at next
    next reached =>
      rw [if_pos reached]
      exact next.weaken fun _ _ => going_left
    next more =>
      rw [if_neg more]
      exact next
  send _ packet world holds := by
    intro code _
    split
    next failed =>
      have refused : CodingTracks codecs (fun coding => coding.ended = false)
          (world.record (.avcodecSendPacket packet) code) := by
        apply holds.record fun _ => rfl
        intro looping
        simp only [coding, Coding.see, failed, if_true]
        exact looping.going
      exact (coding_ignores going_reopens _ rfl _ refused).weaken fun _ _ => going_left
    next accepted =>
      rw [if_neg (by decide)]
      exact holds.record (fun _ => rfl) fun looping => looping.send world.state packet accepted
  drained _ _ world ended holds := by
    rw [if_pos ended] at holds
    exact coding_ignores looping_reopens _ rfl world holds
  receive _ ret world more holds := by
    rw [if_neg more] at holds
    refine (coding_receive holds).weaken fun result world next => ?_
    split at next
    next empty =>
      rw [if_pos empty]
      exact coding_ignores looping_reopens _ rfl world next
    next other =>
      rw [if_neg other]
      split at next
      next failed =>
        rw [if_pos failed]
        exact (coding_ignores going_reopens _ rfl world next).weaken fun _ _ => going_left
      next given =>
        rw [if_neg given]
        exact next
  push _ frame world holds := by
    intro code _
    split
    next failed =>
      have refused : CodingTracks codecs (fun coding => coding.ended = false)
          (world.record (.avBuffersrcAddFrameFlags frame) code) := by
        apply holds.record fun _ => rfl
        intro carrying
        simp only [coding, Coding.see, failed, if_true]
        exact carrying.going
      exact (coding_ignores going_reopens _ rfl _ refused).weaken fun _ _ => going_left
    next passed => exact holds.record (fun _ => rfl) fun carrying => carrying.pass world.state passed
  sink _ world holds := by
    refine (coding_ignores looping_reopens _ rfl world holds).weaken fun result world holds => ?_
    split
    next empty =>
      have failed := AvCode.neg_of_empty empty
      simp only [if_pos failed]
      exact coding_ignores looping_reopens _ rfl world holds
    split
    · exact holds.weaken fun looping => looping.left _
    · exact holds
  filter _ frame world holds := by
    have calls : Ignores (Transduces codecs) (fun call : Call => call.ofBlocks) (CodingTracks codecs (Looping codecs)) :=
      (coding_ignores looping_reopens).narrow fun _ part => offCoding_of_part (Or.inr (Or.inr (Or.inl part)))
    apply (awtFilterFrame_keeps calls CodingTracks.fields _ fuel frame holds).imp _
    · exact fun _ _ holds => holds.weaken fun _ => trivial
    · intro ret world holds
      refine (coding_ignores looping_reopens _ rfl world holds).weaken fun _ world holds => ?_
      split
      · exact holds.weaken fun looping => looping.left _
      · exact holds

private theorem going_loops (going : CodingTracks codecs (fun coding => coding.ended = false) world) :
    CodingTracks codecs (Ending codecs ret) world := by
  apply going.weaken
  intro going ended
  rw [going] at ended
  cases ended

private theorem outCode_eof : outCode AVERROR_EOF = 0 := by decide

private def codingOutline (codecs : Nat → Transducer) (fuel : Nat) : RunOutline (Transduces codecs) fuel where
  idle := CodingTracks codecs fun _ => True
  opening := CodingTracks codecs fun coding => coding.ended = false
  opened _ := CodingTracks codecs (Looping codecs)
  filtered _ := CodingTracks codecs (Looping codecs)
  loops input := codingLoops codecs fuel input.st
  ending ret := CodingTracks codecs (Ending codecs ret)
  finished _ := CodingTracks codecs fun _ => True
  halt _ := CodingTracks codecs fun _ => True
  allocate world holds := by
    intro packet _
    have begun : CodingTracks codecs (fun coding => coding.ended = false) (world.record .avPacketAlloc packet) :=
      holds.record (fun _ => rfl) fun _ => rfl
    refine (coding_ignores going_reopens _ rfl _ begun).weaken fun frame world begun => ?_
    refine (coding_ignores going_reopens _ rfl _ begun).weaken fun filtFrame world begun => ?_
    refine (coding_ignores going_reopens _ rfl _ begun).weaken fun _ world begun => ?_
    split
    · exact begun.update id
    · exact going_loops begun
  openInput filePath world holds := by
    have silent : Ignores (Transduces codecs) (fun call : Call => call.silent)
        (CodingTracks codecs fun coding => coding.ended = false) :=
      (coding_ignores going_reopens).narrow fun _ silent => offCoding_of_quiet (Call.quiet_of_silent silent)
    have opens (world : AwtWorld) (holds : CodingTracks codecs (fun coding => coding.ended = false) world) :
        After (Transduces codecs) .avcodecOpen2 (fun codec world =>
          if codec.code.val < 0 then CodingTracks codecs (fun coding => coding.ended = false) world
          else CodingTracks codecs (Looping codecs) world) world := by
      intro codec _
      have fresh : CodingTracks codecs (Looping codecs) (world.record .avcodecOpen2 codec) :=
        holds.record (fun _ => rfl) fun going => ⟨serving_reopened _ _ _, going⟩
      split
      · exact fresh.weaken fun looping => looping.going
      · exact fresh
    apply (awtOpenInput_opens silent (fun _ holds => holds) (fun msg _ world => coding_ignores going_reopens _ rfl world)
      opens (fun _ holds => holds.weaken fun _ => trivial) filePath holds).imp
    intro result world reached
    cases result with
    | error ret => exact (coding_ignores going_reopens _ rfl world reached.1).weaken fun _ _ => going_loops
    | ok input => exact (coding_ignores looping_reopens _ rfl world reached).weaken fun _ _ looping => looping.update id
  filters input world holds := by
    have calls : Ignores (Transduces codecs) (fun call : Call => call.ofFilters) (CodingTracks codecs (Looping codecs)) :=
      (coding_ignores looping_reopens).narrow fun _ part => offCoding_of_part (Or.inr (Or.inl part))
    apply (needFilters_keeps calls (fun _ _ holds => holds.update id) input holds).imp
    intro ret world holds
    split
    · exact going_loops (holds.weaken fun looping => looping.going)
    · exact holds
  setup filePath input world holds := by
    have calls : Ignores (Transduces codecs) (fun call : Call => call.ofSetup) (CodingTracks codecs (Looping codecs)) :=
      (coding_ignores looping_reopens).narrow fun _ part => offCoding_of_part (Or.inl part)
    apply (needSetup_keeps calls (fun _ => coding_ignores looping_reopens _ rfl) CodingTracks.fields
      (fun _ _ _ holds => holds.weaken fun _ => trivial) fuel input holds).imp
    intro ret world holds
    split
    · exact going_loops (holds.weaken fun looping => looping.going)
    · exact coding_ignores looping_reopens _ rfl world holds
  out _ ret world left := by
    apply left.weaken
    intro left ended
    obtain ⟨rfl, serving⟩ := left ended
    exact ⟨outCode_eof, serving⟩
  loops_halt _ _ _ halted := halted
  finish ret world holds := by
    have spent : CodingTracks codecs (Ending codecs ret)
        (world.update AWTContext.spend) := holds.update id
    have reopens : Reopens (Ending codecs ret) := fun _ ending ended => ⟨(ending ended).1, serving_reopened _ _ _⟩
    refine (coding_ignores reopens _ rfl _ spent).weaken fun _ world holds => ?_
    exact fun _ _ => holds.record (fun ending => ending.settles _ _ _) fun _ => trivial
  releases _ := (coding_ignores fun _ _ => trivial).narrow fun _ silent => offCoding_of_quiet (Call.quiet_of_silent silent)

/-- What is passed on by the end of a file is all that the codec makes of its packets in
exactly those runs that were never too many frames behind. -/
theorem complete_iff (codecs : Nat → Transducer) (oracle : Oracle Surroundings AWTContext) (fuel : Nat)
    (awt : AWTContext) (requests : List Request)
    (transduces : Lawful (Transduces codecs) ((Session.opened awt).run oracle fuel requests).trace) :
    Lawful (Complete codecs) ((Session.opened awt).run oracle fuel requests).trace ↔
      Lawful (KeepsUp codecs) ((Session.opened awt).run oracle fuel requests).trace := by
  have same : Lawful (coding.law fun coding event => complete codecs coding event = keepsUp codecs coding event)
      ((Session.opened awt).run oracle fuel requests).trace := by
    apply (codingOutline codecs fuel).history (fun _ _ idle => idle)
    · exact fun _ idle => idle.kept
    · exact fun _ _ halted => halted.kept
    · intro world idle
      apply (closeContext_keeps _ (fun _ holds => holds.update id) idle).imp _
      · exact (coding_ignores fun _ _ => trivial).narrow fun _ part => offCoding_of_part (Or.inr (Or.inr (Or.inr part)))
      · exact fun _ _ closed => closed.kept
    · exact Observer.Tracks.init awt trivial
    · exact transduces
  constructor
  · intro completes past event rest split
    exact (same past event rest split).symm.trans (completes past event rest split)
  · intro keeps past event rest split
    exact (same past event rest split).trans (keeps past event rest split)

/-- A codec that is one packet behind: it decodes every packet to a frame. -/
def oneBehind : Transducer where
  yields packet := [pcmFrame 44100 [[packet.toUInt32], [0]]]
  ready packets := packets - 1
  delay := 1
  within packets := by simp [produced]
  behind packets := by simp [produced]; omega
  grows packets := by omega

/-- What comes out of that codec for each packet, until it is drained. -/
def lateFrames : Script where
  packets _ := [⟨0, 0⟩, ⟨0, 1⟩]
  yields packet := if packet = 0 then [] else oneBehind.yields (packet - 1)

theorem last_frame_dropped :
    let session := lateFrames.session (awtOpen 44100 1 1 1 0) [.exec "a"]
    Lawful (Transduces fun _ => oneBehind) session.trace ∧ ¬ Lawful (Complete fun _ => oneBehind) session.trace ∧
      session.returned = [0] := by
  decide +kernel

/-- A codec without delay that makes one frame of its first packet. -/
def burst : Transducer where
  yields packet := if packet = 0 then [pcmFrame 44100 [[1], [2]]] else []
  ready packets := if packets = 0 then 0 else 1
  delay := 0
  within packets := by cases packets <;> simp [produced, List.range_succ_eq_map]
  behind packets := by
    cases packets with
    | zero => simp [produced]
    | succ packets => simp [produced, List.range_succ_eq_map, List.flatMap_map]
  grows packets := by cases packets <;> simp

def onePacket : Script where
  packets _ := [⟨0, 0⟩]
  yields := burst.yields

theorem undelayed_file_complete :
    Lawful (Complete fun _ => burst) (onePacket.session (awtOpen 44100 1 1 1 0) [.exec "a", .close]).trace :=
  (complete_iff _ _ _ _ _ (by decide +kernel)).mpr (by decide +kernel)

end coding
end Awt
