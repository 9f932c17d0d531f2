import Awt.Proofs.Frames
import Awt.Script

/-! Packets into the codec and frames out of it: `awt_run` takes one frame for every
packet, whatever the codec has to give. -/

namespace Awt
open OracleProgram

/-- What the open codec was fed and gave: the number of the last packet it accepted,
the frames that its packets decode to, and those passed on to the filter graph. -/
structure Feed where
  codec : Codec
  last : Option Nat
  decoded : List AVFrame
  pushed : List AVFrame

def Feed.see (yields : Nat → List AVFrame) (feed : Feed) (event : Event) : Feed :=
  match event with
  | ⟨_, .avcodecOpen2, _⟩ => ⟨feed.codec.see yields event, none, [], []⟩
  | ⟨_, .avcodecSendPacket _, code⟩ =>
    if code.val < 0 then feed
    else ⟨feed.codec.see yields event, some feed.codec.accepted, feed.decoded ++ yields feed.codec.accepted, feed.pushed⟩
  | ⟨_, .avcodecReceiveFrame, _⟩ => { feed with codec := feed.codec.see yields event }
  | ⟨_, .avBuffersrcAddFrameFlags frame, code⟩ =>
    if code.val < 0 then feed else { feed with pushed := feed.pushed ++ [frame] }
  | _ => feed

def feed (yields : Nat → List AVFrame) : Observer Surroundings AWTContext Feed where
  init := ⟨⟨0, []⟩, none, [], []⟩
  step := Feed.see yields

/-- The codec refuses a packet with EAGAIN only while it has frames to give, gives them
in order, and says that it has none only when it has none. -/
def documented (feed : Feed) : Event → Bool
  | ⟨_, .avcodecSendPacket _, code⟩ => code.val = EAGAIN → feed.codec.pending ≠ []
  | ⟨_, .avcodecReceiveFrame, result⟩ =>
    (¬ result.code.val < 0 → feed.codec.pending.head? = some result.frame) ∧
      (result.code.val = EAGAIN ∨ result.code.val = AVERROR_EOF → feed.codec.pending = [])
  | _ => true

/-- A packet is sent only when all frames of the packets before it were received and
passed on in order, and it is not refused with EAGAIN. -/
def drained (feed : Feed) : Event → Bool
  | ⟨_, .avcodecSendPacket _, code⟩ =>
    feed.codec.pending = [] ∧ feed.pushed = feed.decoded ∧ code.val ≠ EAGAIN
  | _ => true

/-- A packet is sent only when the one before it decodes to at most one frame. -/
def oneFrameEach (yields : Nat → List AVFrame) (feed : Feed) : Event → Bool
  | ⟨_, .avcodecSendPacket _, _⟩ => feed.last.all fun n => (yields n).length ≤ 1
  | _ => true

section feed

variable {yields : Nat → List AVFrame}

abbrev Documented (yields : Nat → List AVFrame) : Law := (feed yields).law fun feed event => documented feed event
abbrev Drained (yields : Nat → List AVFrame) : Law := (feed yields).law fun feed event => drained feed event
abbrev OneFrameEach (yields : Nat → List AVFrame) : Law := (feed yields).law fun feed event => oneFrameEach yields feed event

/-- The frames of the last packet that was accepted. -/
def latest (yields : Nat → List AVFrame) (last : Option Nat) : List AVFrame := last.elim [] yields

/-- Between two packets: one frame of the last packet was taken, if it has any. -/
structure FeedSettled (yields : Nat → List AVFrame) (feed : Feed) : Prop where
  pending : feed.codec.pending = (latest yields feed.last).tail
  passed : feed.pushed ++ feed.codec.pending = feed.decoded

/-- A packet was accepted and no frame of it taken yet. -/
structure FeedAccepted (yields : Nat → List AVFrame) (feed : Feed) : Prop where
  pending : feed.codec.pending = latest yields feed.last
  passed : feed.pushed ++ feed.codec.pending = feed.decoded

/-- A frame was taken that is still to be passed on. -/
structure FeedHolding (yields : Nat → List AVFrame) (frame : AVFrame) (feed : Feed) : Prop where
  pending : feed.codec.pending = (latest yields feed.last).tail
  passed : feed.pushed ++ frame :: feed.codec.pending = feed.decoded

private theorem tail_empty_iff (frames : List AVFrame) : frames.tail = [] ↔ frames.length ≤ 1 := by
  rw [← List.length_eq_zero_iff, List.length_tail]
  omega

private theorem FeedSettled.empty_iff {feed : Feed} (settled : FeedSettled yields feed) (awt : AWTContext)
    (packet : AVPacket) (code : AvCode) :
    feed.codec.pending = [] ↔ oneFrameEach yields feed ⟨awt, .avcodecSendPacket packet, code⟩ := by
  rw [settled.pending, tail_empty_iff, latest]
  cases last : feed.last <;> simp [oneFrameEach, last]

private theorem FeedSettled.accept {feed : Feed} (settled : FeedSettled yields feed) (empty : feed.codec.pending = [])
    (awt : AWTContext) (packet : AVPacket) {code : AvCode} (accepted : ¬ code.val < 0) :
    FeedAccepted yields (feed.see yields ⟨awt, .avcodecSendPacket packet, code⟩) := by
  have passed := settled.passed
  rw [empty, List.append_nil] at passed
  constructor
  · simp [Feed.see, Codec.see, latest, accepted, empty]
  · simp [Feed.see, Codec.see, accepted, empty, passed]

private theorem FeedAccepted.take {feed : Feed} (accepted : FeedAccepted yields feed) (awt : AWTContext)
    {result : FrameResult} (given : ¬ result.code.val < 0) (first : feed.codec.pending.head? = some result.frame) :
    FeedHolding yields result.frame (feed.see yields ⟨awt, .avcodecReceiveFrame, result⟩) := by
  have pending := accepted.pending
  have passed := accepted.passed
  obtain ⟨rest, frames⟩ := List.head?_eq_some_iff.mp first
  rw [frames] at pending passed
  constructor
  · simp [Feed.see, Codec.see, given, frames, ← pending]
  · simp [Feed.see, Codec.see, given, frames, passed]

private theorem FeedAccepted.none {feed : Feed} (accepted : FeedAccepted yields feed) (awt : AWTContext)
    {result : FrameResult} (failed : result.code.val < 0) (empty : feed.codec.pending = []) :
    FeedSettled yields (feed.see yields ⟨awt, .avcodecReceiveFrame, result⟩) := by
  have pending := accepted.pending
  constructor
  · simp [Feed.see, Codec.see, failed, ← pending, empty]
  · simpa [Feed.see, Codec.see, failed] using accepted.passed

private theorem FeedHolding.pass {feed : Feed} {frame : AVFrame} (holding : FeedHolding yields frame feed)
    (awt : AWTContext) {code : AvCode} (passed : ¬ code.val < 0) :
    FeedSettled yields (feed.see yields ⟨awt, .avBuffersrcAddFrameFlags frame, code⟩) := by
  constructor
  · simpa [Feed.see, passed] using holding.pending
  · simpa [Feed.see, passed] using holding.passed

private abbrev FeedTracks (yields : Nat → List AVFrame) (agrees : Feed → Prop) : AwtWorld → Prop :=
  (feed yields).Tracks (fun feed event => drained feed event ∧ oneFrameEach yields feed event) fun feed _ => agrees feed

variable {law : Law} {agrees other : Feed → Prop} {world : AwtWorld} {fuel : Nat}

/-- Calls that take no part between the codec and the filter graph. -/
private def Call.offFeed : Call → Bool
  | .avcodecSendPacket _ | .avcodecReceiveFrame | .avBuffersrcAddFrameFlags _ => false
  | _ => true

private def Call.sendsNothing : Call → Bool
  | .avcodecSendPacket _ => false
  | _ => true

private theorem settled_ignores : Ignores law (fun call => Call.offFeed call) (FeedTracks yields (FeedSettled yields)) := by
  apply Observer.Tracks.ignores
  intro value awt call answer off settled
  cases call with
  | avcodecOpen2 => exact ⟨⟨rfl, rfl⟩, rfl, rfl⟩
  | _ => first | exact ⟨⟨rfl, rfl⟩, settled⟩ | cases off

private theorem any_ignores : Ignores law (fun call => Call.sendsNothing call) (FeedTracks yields fun _ => True) := by
  refine Observer.Tracks.ignores fun value awt call answer other _ => ⟨?_, trivial⟩
  cases call <;> first | exact ⟨rfl, rfl⟩ | cases other

private theorem FeedTracks.fields {outside : AWTContext → τ} : Frames outside (FeedTracks yields agrees) :=
  tracks_frames fun _ _ _ _ holds => holds

/-- A law under which the codec is documented and empty between two packets. -/
structure Emptying (yields : Nat → List AVFrame) (law : Law) : Prop where
  documents : ∀ past event, law past event → Documented yields past event
  empties : ∀ past awt packet code, law past ⟨awt, .avcodecSendPacket packet, code⟩ →
    FeedSettled yields ((feed yields).seen past) → ((feed yields).seen past).codec.pending = []

private theorem Emptying.send (emptying : Emptying yields law) (settled : FeedTracks yields (FeedSettled yields) world)
    (packet : AVPacket) :
    After law (.avcodecSendPacket packet) (fun code world =>
      if code.val < 0 then FeedTracks yields (fun _ => True) world
      else FeedTracks yields (FeedAccepted yields) world) world := by
  intro code lawful
  have empty := emptying.empties _ _ _ _ lawful settled.agrees
  have allowed := of_decide_eq_true (emptying.documents _ _ lawful)
  have keeps (holds : FeedSettled yields ((feed yields).seen world.trace)) :
      drained ((feed yields).seen world.trace) ⟨world.state, .avcodecSendPacket packet, code⟩ ∧
        oneFrameEach yields ((feed yields).seen world.trace) ⟨world.state, .avcodecSendPacket packet, code⟩ := by
    refine ⟨?_, (holds.empty_iff _ _ _).mp empty⟩
    have passed := holds.passed
    rw [empty, List.append_nil] at passed
    exact decide_eq_true ⟨empty, passed, fun refused => allowed refused empty⟩
  split
  · exact settled.record keeps fun _ => trivial
  next accepted => exact settled.record keeps fun holds => holds.accept empty _ _ accepted

private theorem Emptying.receive (emptying : Emptying yields law) (accepted : FeedTracks yields (FeedAccepted yields) world) :
    After law .avcodecReceiveFrame (fun result world =>
      if result.code.val = EAGAIN ∨ result.code.val = AVERROR_EOF then FeedTracks yields (FeedSettled yields) world
      else if result.code.val < 0 then FeedTracks yields (fun _ => True) world
      else FeedTracks yields (FeedHolding yields result.frame) world) world := by
  intro result lawful
  obtain ⟨first, none⟩ := of_decide_eq_true (emptying.documents _ _ lawful)
  split
  next empty =>
    have failed := AvCode.neg_of_empty empty
    exact accepted.record (fun _ => ⟨rfl, rfl⟩) fun holds => holds.none _ failed (none empty)
  split
  · exact accepted.record (fun _ => ⟨rfl, rfl⟩) fun _ => trivial
  next given => exact accepted.record (fun _ => ⟨rfl, rfl⟩) fun holds => holds.take _ given (first given)

private theorem feed_frame : LoopFrame law (FeedTracks yields (FeedSettled yields))
    (FeedTracks yields (FeedSettled yields)) (FeedTracks yields fun _ => True) where
  quiet := settled_ignores.narrow fun call quiet => by cases call <;> first | rfl | cases quiet
  ends := ends_of_ignores any_ignores (fun _ _ => rfl) rfl
  again _ holds := holds
  leaves _ holds := holds.weaken fun _ => trivial

private def feedLoops (emptying : Emptying yields law) (fuel : Nat) (st : AVStream) : LoopOutline law fuel st where
  head _ := FeedTracks yields (FeedSettled yields)
  reading _ := FeedTracks yields (FeedSettled yields)
  timing _ _ := FeedTracks yields (FeedSettled yields)
  sending _ _ := FeedTracks yields (FeedSettled yields)
  receiving _ ret world :=
    if ret < 0 then FeedTracks yields (FeedSettled yields) world else FeedTracks yields (FeedAccepted yields) world
  pushing _ frame := FeedTracks yields (FeedHolding yields frame)
  sinking _ := FeedTracks yields (FeedSettled yields)
  filtering _ _ := FeedTracks yields (FeedSettled yields)
  out _ := FeedTracks yields fun _ => True
  halt _ := FeedTracks yields fun _ => True
  head_expired _ _ holds := holds.weaken fun _ => trivial
  receiving_expired _ ret _ holds := by
    split at holds <;> exact holds.weaken fun _ => trivial
  sinking_expired _ _ holds := holds.weaken fun _ => trivial
  check _ world holds := feed_frame.check (settled_ignores _ rfl world holds)
  read _ world holds := feed_frame.read (settled_ignores _ rfl world holds)
  untimed _ _ _ _ holds := holds
  time startPts packet micros world _ holds := by
    have stamped : FeedTracks yields (FeedSettled yields) (world.update (·.setCurrent (int64 (micros - startPts.getD micros)))) :=
      holds.update id
    exact feed_frame.time (settled_ignores _ rfl _ stamped)
  send _ packet world holds := by
    refine (emptying.send holds packet).weaken fun code world next => ?_
    split at next
    next failed =>
      rw [if_pos failed]
      exact any_ignores _ rfl world next
    next accepted =>
      rw [if_neg accepted, if_neg (by decide)]
      exact next
  drained _ _ world ended holds := by
    rw [if_pos ended] at holds
    exact settled_ignores _ rfl world holds
  receive _ ret world more holds := by
    rw [if_neg more] at holds
    refine (emptying.receive holds).weaken fun result world next => ?_
    split at next
    next empty =>
      rw [if_pos empty]
      exact settled_ignores _ rfl world next
    next other =>
      rw [if_neg other]
      split at next
      next failed =>
        rw [if_pos failed]
        exact any_ignores _ rfl world next
      next given =>
        rw [if_neg given]
        exact next
  push _ frame world holds := by
    intro code _
    split
    next failed =>
      have refused : FeedTracks yields (fun _ => True) (world.record (.avBuffersrcAddFrameFlags frame) code) :=
        holds.record (fun _ => ⟨rfl, rfl⟩) fun _ => trivial
      exact any_ignores _ rfl _ refused
    next passed => exact holds.record (fun _ => ⟨rfl, rfl⟩) fun holding => holding.pass world.state passed
  sink _ world holds := by
    refine (settled_ignores _ rfl world holds).weaken fun result world holds => ?_
    split
    next empty =>
      have failed := AvCode.neg_of_empty empty
      simp only [if_pos failed]
      exact settled_ignores _ rfl world holds
    split
    · exact holds.weaken fun _ => trivial
    · exact holds
  filter _ frame world holds := by
    have calls : Ignores law (fun call : Call => call.ofBlocks) (FeedTracks yields (FeedSettled yields)) := by
      apply settled_ignores.narrow
      intro call part
      cases call <;> first | rfl | cases part
    apply (awtFilterFrame_keeps calls FeedTracks.fields _ fuel frame holds).imp _
    · exact fun _ _ holds => holds.weaken fun _ => trivial
    · exact fun _ _ holds => feed_frame.filtered holds

private def feedOutline (emptying : Emptying yields law) (fuel : Nat) : RunOutline law fuel where
  idle := FeedTracks yields fun _ => True
  opening := FeedTracks yields fun _ => True
  opened _ := FeedTracks yields (FeedSettled yields)
  filtered _ := FeedTracks yields (FeedSettled yields)
  loops input := feedLoops emptying fuel input.st
  ending _ := FeedTracks yields fun _ => True
  finished _ := FeedTracks yields fun _ => True
  halt _ := FeedTracks yields fun _ => True
  allocate _ := allocate_keeps (any_ignores _ rfl) (any_ignores _ rfl) (any_ignores _ rfl)
    (fun _ holds => holds.update id) fun _ holds => holds
  openInput filePath world holds := by
    have silent : Ignores law (fun call : Call => call.silent) (FeedTracks yields fun _ => True) := by
      apply any_ignores.narrow
      intro call silent
      cases call <;> first | rfl | cases silent
    have opens (world : AwtWorld) (holds : FeedTracks yields (fun _ => True) world) :
        After law .avcodecOpen2 (fun codec world => if codec.code.val < 0 then FeedTracks yields (fun _ => True) world
          else FeedTracks yields (FeedSettled yields) world) world := by
      intro codec _
      have fresh : FeedTracks yields (FeedSettled yields) (world.record .avcodecOpen2 codec) :=
        holds.record (fun _ => ⟨rfl, rfl⟩) fun _ => ⟨rfl, rfl⟩
      split
      · exact fresh.weaken fun _ => trivial
      · exact fresh
    apply (awtOpenInput_opens silent (fun _ holds => holds) (fun _ _ world => any_ignores _ rfl world)
      opens (fun _ holds => holds) filePath holds).imp
    intro result world reached
    cases result with
    | error ret => exact any_ignores _ rfl world reached.1
    | ok input => exact (settled_ignores _ rfl world reached).weaken fun _ _ settled => settled.update id
  filters input world holds := by
    have calls : Ignores law (fun call : Call => call.ofFilters) (FeedTracks yields (FeedSettled yields)) := by
      apply settled_ignores.narrow
      intro call part
      cases call <;> first | rfl | cases part
    apply (needFilters_keeps calls (fun _ _ holds => holds.update id) input holds).imp
    intro ret world holds
    split
    · exact holds.weaken fun _ => trivial
    · exact holds
  setup filePath input world holds := by
    have calls : Ignores law (fun call : Call => call.ofSetup) (FeedTracks yields (FeedSettled yields)) := by
      apply settled_ignores.narrow
      intro call part
      cases call <;> first | rfl | cases part
    apply (needSetup_keeps calls (fun _ => settled_ignores _ rfl) FeedTracks.fields
      (fun _ _ _ holds => holds.weaken fun _ => trivial) fuel input holds).imp
    intro ret world holds
    split
    · exact holds.weaken fun _ => trivial
    · exact settled_ignores _ rfl world holds
  out _ _ _ holds := holds
  loops_halt _ _ _ halted := halted
  finish _ world holds := by
    have spent : FeedTracks yields (fun _ => True)
        (world.update AWTContext.spend) := holds.update id
    refine (any_ignores _ rfl _ spent).weaken fun _ world holds => ?_
    exact any_ignores _ rfl world holds
  releases _ := any_ignores.narrow fun call silent => by cases call <;> first | rfl | cases silent

private theorem both_hold (emptying : Emptying yields law) (oracle : Oracle Surroundings AWTContext) (fuel : Nat)
    (awt : AWTContext) (requests : List Request)
    (lawful : Lawful law ((Session.opened awt).run oracle fuel requests).trace) :
    Lawful ((feed yields).law fun feed event => drained feed event ∧ oneFrameEach yields feed event)
      ((Session.opened awt).run oracle fuel requests).trace := by
  apply (feedOutline emptying fuel).history (fun _ _ idle => idle)
  · exact fun _ idle => idle.kept
  · exact fun _ _ halted => halted.kept
  · intro world idle
    apply (closeContext_keeps _ (fun _ holds => holds.update id) idle).imp _
    · apply any_ignores.narrow
      intro call part
      cases call <;> first | rfl | cases part
    · exact fun _ _ closed => closed.kept
  · exact Observer.Tracks.init awt trivial
  · exact lawful

/-- With a documented codec, all output is taken before the next packet is sent in
exactly those sessions where no packet but the last of a run gives more than one frame. -/
theorem drained_iff (yields : Nat → List AVFrame) (oracle : Oracle Surroundings AWTContext) (fuel : Nat)
    (awt : AWTContext) (requests : List Request)
    (documented : Lawful (Documented yields) ((Session.opened awt).run oracle fuel requests).trace) :
    Lawful (Drained yields) ((Session.opened awt).run oracle fuel requests).trace ↔
      Lawful (OneFrameEach yields) ((Session.opened awt).run oracle fuel requests).trace := by
  constructor
  · intro drains
    have emptying : Emptying yields fun past event => Documented yields past event ∧ Drained yields past event :=
      ⟨fun _ _ lawful => lawful.1, fun _ _ _ _ lawful _ => (of_decide_eq_true lawful.2).1⟩
    have both := both_hold emptying oracle fuel awt requests fun past event rest same =>
      ⟨documented past event rest same, drains past event rest same⟩
    exact both.weaken fun _ _ kept => kept.2
  · intro single
    have emptying : Emptying yields fun past event => Documented yields past event ∧ OneFrameEach yields past event :=
      ⟨fun _ _ lawful => lawful.1, fun _ _ _ _ lawful settled => (settled.empty_iff _ _ _).mpr lawful.2⟩
    have both := both_hold emptying oracle fuel awt requests fun past event rest same =>
      ⟨documented past event rest same, single past event rest same⟩
    exact both.weaken fun _ _ kept => kept.1

/-- The first packet decodes to two frames. -/
def twoFrames : Script where
  packets _ := [⟨0, 0⟩, ⟨0, 1⟩, ⟨0, 2⟩]
  yields n := if n = 0 then [pcmFrame 44100 [[1], [2]], pcmFrame 44100 [[3], [4]]] else []

theorem second_frame_left_behind :
    let session := twoFrames.session (awtOpen 44100 1 1 1 0) [.exec "a"]
    Lawful (Documented twoFrames.yields) session.trace ∧ ¬ Lawful (Drained twoFrames.yields) session.trace ∧
      session.returned = [0] ∧ ((feed twoFrames.yields).seen session.trace).codec.accepted = 1 := by
  decide +kernel

def framePerPacket : Script where
  packets _ := [⟨0, 0⟩, ⟨0, 1⟩, ⟨0, 2⟩]
  yields n := if n = 1 then [] else [pcmFrame 44100 [[1], [2]]]

theorem frame_per_packet_drained :
    Lawful (Drained framePerPacket.yields)
      (framePerPacket.session (awtOpen 44100 1 1 1 0) [.exec "a", .exec "b", .close]).trace :=
  (drained_iff _ _ _ _ _ (by decide +kernel)).mpr (by decide +kernel)

end feed
end Awt
