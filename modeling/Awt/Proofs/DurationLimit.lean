import Awt.Proofs.Frames
import Awt.Proofs.PacketTimes
import Awt.Proofs.RunOutline
import Awt.Script
import Mathlib.Data.List.TakeWhile

/-! The `second` limit: which packets of the first run reach the codec. -/

namespace Awt
open OracleProgram

/-- The packets that were read from the audio stream of a run and those sent to its codec. -/
structure Submission where
  stream : Option AVStream
  read : List AVPacket
  sent : List AVPacket

def submission : Observer Surroundings AWTContext Submission where
  init := ⟨none, [], []⟩
  step seen event := match event with
    | ⟨_, .mark (.openInput (.ok input)), _⟩ => { seen with stream := some input.st }
    | ⟨_, .avReadFrame, result⟩ =>
      if ¬ result.code.val < 0 ∧ seen.stream.any (result.packet.streamIndex = ·.index) then
        { seen with read := seen.read ++ [result.packet] }
      else seen
    | ⟨_, .avcodecSendPacket packet, _⟩ => { seen with sent := seen.sent ++ [packet] }
    | _ => seen

/-- A packet with its offset from the first timestamped one, exactly and as the code has it. -/
structure Timed where
  packet : AVPacket
  offset : Option Int
  counted : Option Int

def timed (base : TimeBase) (origin counted : Option Int) : List AVPacket → List Timed
  | [] => []
  | packet :: rest => ⟨packet, exactTime.offset base origin packet, machineTime.offset base counted packet⟩ ::
      timed base (exactTime.stamp base origin packet) (machineTime.stamp base counted packet) rest

/-- The packets before the first one with an offset that reaches the limit. -/
def beforeLimit (reached : Int → Bool) (base : TimeBase) (packets : List AVPacket) : List AVPacket :=
  ((timed base none none packets).takeWhile fun entry => !entry.offset.any reached).map Timed.packet

/-- What the parameter `second` promises. -/
def limitReached (second offset : Int) : Bool := 1 ≤ second ∧ second * 1000000 ≤ offset

namespace Submission

/-- Exactly the packets before the limit were sent. -/
def exact (second : Int) (submission : Submission) : Bool :=
  submission.stream.all fun st => submission.sent = beforeLimit (limitReached second) st.timeBase submission.read

/-- The packets whose 64-bit offset reaches the stored limit are those whose exact offset
reaches the promised one. -/
def unwrapped (second stored : Int) (submission : Submission) : Bool :=
  submission.stream.all fun st => (timed st.timeBase none none submission.read).all fun entry =>
    entry.counted.any (stored ≤ ·) = entry.offset.any (limitReached second)

end Submission

/-- A context as one of the two functions leaves it that were given this `second`. -/
inductive OpenedFor (second : Int) : AWTContext → Prop where
  | awtOpen (sampleRate preset payloadLength : Int) (speed : Rat) :
      OpenedFor second (awtOpen sampleRate preset payloadLength speed second)
  | awtOpen2 (sampleRate bottomFreq topFreq framesyncFreq payloadFrames crcPercent payloadLength : Int) (speed : Rat) :
      OpenedFor second (awtOpen2 sampleRate bottomFreq topFreq framesyncFreq payloadFrames crcPercent
        payloadLength speed second)

section stored

variable {second : Int} {awt : AWTContext}

/-- The product is exact as long as it fits into 31 bits, and too small from then on. -/
theorem stored_limit (fresh : OpenedFor second awt) :
    (1 ≤ second ∧ second ≤ 2147 → awt.second = second * 1000000) ∧ (2147 < second → awt.second < second * 1000000) := by
  have stored : awt.second = if second < 1 then INT64_MAX else int32 (second * 1000000) := by
    cases fresh <;> rfl
  rw [stored]
  constructor
  · intro ⟨positive, short⟩
    rw [if_neg (by omega), int32, Int.bmod]
    split <;> omega
  · intro long
    rw [if_neg (by omega), int32, Int.bmod]
    split <;> omega

end stored

private theorem timed_append (base : TimeBase) (origin counted : Option Int) (earlier : List AVPacket) (packet : AVPacket) :
    timed base origin counted (earlier ++ [packet]) = timed base origin counted earlier ++
      [⟨packet, exactTime.offset base (earlier.foldl (exactTime.stamp base) origin) packet,
        machineTime.offset base (earlier.foldl (machineTime.stamp base) counted) packet⟩] := by
  induction earlier generalizing origin counted with
  | nil => rfl
  | cons first rest ih => simp only [List.cons_append, timed, List.foldl_cons, ih]

private theorem timed_packets (base : TimeBase) (origin counted : Option Int) (packets : List AVPacket) :
    (timed base origin counted packets).map Timed.packet = packets := by
  induction packets generalizing origin counted with
  | nil => rfl
  | cons packet rest ih => simp only [timed, List.map_cons, ih]

/-- A list cut where `reached` first holds is cut where `promised` first holds just if
its elements have both or neither. -/
private theorem cut_iff {α β : Type} (read : α → β) {reached : α → Bool} (promised : α → Bool) {kept withheld : List α}
    (below : ∀ item ∈ kept, ¬ reached item) (beyond : ∀ item ∈ withheld, reached item) (single : withheld.length ≤ 1) :
    kept.map read = ((kept ++ withheld).takeWhile fun item => !promised item).map read ↔
      ∀ item ∈ kept ++ withheld, reached item = promised item := by
  constructor
  · intro same
    have length : kept.length = ((kept ++ withheld).takeWhile fun item => !promised item).length := by
      simpa using congrArg List.length same
    have cut : (kept ++ withheld).takeWhile (fun item => !promised item) = kept :=
      (List.prefix_of_prefix_length_le (List.takeWhile_prefix _) (List.prefix_append kept withheld) length.ge).eq_of_length
        length.symm
    have passes (item : α) (member : item ∈ kept) : promised item = false := by
      rw [← cut] at member
      simpa using List.mem_takeWhile_imp member
    intro item member
    rcases List.mem_append.mp member with inside | final
    · rw [passes item inside]
      simpa using below item inside
    · rw [beyond item final]
      cases withheld with
      | nil => cases final
      | cons last rest =>
        have alone : rest = [] := List.length_eq_zero_iff.mp (by simp only [List.length_cons] at single; omega)
        subst alone
        rw [List.mem_singleton.mp final]
        rw [List.takeWhile_append_of_pos (by simpa using passes), List.append_right_eq_self, List.takeWhile_cons] at cut
        cases promise : promised last with
        | true => rfl
        | false => simp [promise] at cut
  · intro agree
    have passes (item : α) (member : item ∈ kept) : (!promised item) = true := by
      rw [← agree item (List.mem_append_left withheld member)]
      simpa using below item member
    rw [List.takeWhile_append_of_pos passes]
    cases withheld with
    | nil => simp
    | cons last rest =>
      have held : promised last = true := by
        rw [← agree last (by simp)]
        exact beyond last (by simp)
      simp [held]

/-- Before the file is opened. -/
structure Unread (limit : Int) (seen : Submission) (awt : AWTContext) : Prop where
  stored : awt.second = limit
  unspent : awt.preDuration = 0
  nothing : seen = ⟨none, [], []⟩

/-- Everything that was read from the stream was sent, below the stored limit. -/
structure Submitting (limit : Int) (st : AVStream) (origin : Option Int) (seen : Submission) (awt : AWTContext) : Prop where
  stored : awt.second = limit
  unspent : awt.preDuration = 0
  stream : seen.stream = some st
  sent : seen.sent = seen.read
  origin : origin = seen.read.foldl (machineTime.stamp st.timeBase) none
  below : ∀ entry ∈ timed st.timeBase none none seen.read, ¬ entry.counted.any (limit ≤ ·)

/-- A packet was read on top of that. -/
structure Reading (limit : Int) (st : AVStream) (origin : Option Int) (packet : AVPacket) (seen : Submission)
    (awt : AWTContext) : Prop where
  before : Submitting limit st origin { seen with read := seen.sent } awt
  read : seen.read = seen.sent ++ [packet]

/-- At the end at most one packet was held back, and it had reached the stored limit. -/
def Cut (limit : Int) (seen : Submission) : Prop :=
  ∀ st, seen.stream = some st → ∃ kept withheld, timed st.timeBase none none seen.read = kept ++ withheld ∧
    seen.sent = kept.map Timed.packet ∧ (∀ entry ∈ kept, ¬ entry.counted.any (limit ≤ ·)) ∧
    (∀ entry ∈ withheld, entry.counted.any (limit ≤ ·)) ∧ withheld.length ≤ 1

section steps

variable {limit : Int} {st : AVStream} {origin : Option Int} {packet : AVPacket} {seen : Submission} {awt : AWTContext}

private theorem Submitting.cut (submitting : Submitting limit st origin seen awt) : Cut limit seen := by
  intro other same
  rw [submitting.stream] at same
  cases same
  refine ⟨timed st.timeBase none none seen.read, [], (List.append_nil _).symm, ?_, submitting.below, ?_, Nat.zero_le 1⟩
  · rw [timed_packets]
    exact submitting.sent
  · exact fun _ none => absurd none List.not_mem_nil

private theorem Submitting.read (submitting : Submitting limit st origin seen awt) (packet : AVPacket) :
    Reading limit st origin packet { seen with read := seen.read ++ [packet] } awt := by
  obtain ⟨stream, read, sent⟩ := seen
  have same : sent = read := submitting.sent
  subst same
  exact ⟨submitting, rfl⟩

private theorem Reading.cut (reading : Reading limit st origin packet seen awt)
    (reached : (machineTime.offset st.timeBase origin packet).any (limit ≤ ·)) : Cut limit seen := by
  intro other same
  have stream := reading.before.stream
  simp only at stream
  rw [stream] at same
  cases same
  let last : Timed := ⟨packet, exactTime.offset st.timeBase (seen.sent.foldl (exactTime.stamp st.timeBase) none) packet,
    machineTime.offset st.timeBase origin packet⟩
  refine ⟨timed st.timeBase none none seen.sent, [last], ?_, ?_, reading.before.below, ?_, le_refl 1⟩
  · rw [reading.read, timed_append, ← reading.before.origin]
  · rw [timed_packets]
  · intro entry member
    rw [List.mem_singleton.mp member]
    exact reached

private theorem Reading.send (reading : Reading limit st origin packet seen awt)
    (unreached : ¬ (machineTime.offset st.timeBase origin packet).any (limit ≤ ·)) :
    Submitting limit st (machineTime.stamp st.timeBase origin packet) { seen with sent := seen.sent ++ [packet] } awt := by
  have before := reading.before
  refine ⟨before.stored, before.unspent, before.stream, reading.read.symm, ?_, ?_⟩
  · rw [reading.read, List.foldl_append, ← before.origin]
    rfl
  · intro entry member
    rw [reading.read, timed_append] at member
    rcases List.mem_append.mp member with earlier | last
    · exact before.below entry earlier
    · rw [List.mem_singleton.mp last, ← before.origin]
      exact unreached

private theorem Unread.cut (unread : Unread limit seen awt) : Cut limit seen := by
  intro st same
  rw [unread.nothing] at same
  cases same

end steps

private abbrev SubmissionTracks (agrees : Submission → AWTContext → Prop) : AwtWorld → Prop :=
  submission.Tracks (fun _ _ => True) agrees

variable {law : Law} {agrees : Submission → AWTContext → Prop} {world : AwtWorld} {fuel : Nat} {limit : Int}

/-- Calls that neither open the stream nor bring in or take a packet. -/
private def Call.offStream : Call → Bool
  | .mark (.openInput _) | .avReadFrame | .avcodecSendPacket _ => false
  | _ => true

private theorem offStream_unseen {call : Call} (off : Call.offStream call) (seen : Submission) (awt : AWTContext)
    (answer : Answer call) : submission.step seen ⟨awt, call, answer⟩ = seen := by
  cases call with
  | mark mark => cases mark <;> first | rfl | cases off
  | _ => first | rfl | cases off

private theorem SubmissionTracks.ignores : Ignores law (fun call => Call.offStream call) (SubmissionTracks agrees) :=
  Observer.Tracks.ignores fun seen awt call answer off holds =>
    ⟨trivial, by rwa [offStream_unseen off]⟩

private theorem offStream_of_quiet {call : Call} (quiet : call.quiet) : Call.offStream call := by
  cases call with
  | mark mark => cases mark <;> first | rfl | cases quiet
  | _ => first | rfl | cases quiet

/-- What a packet loop without `second` and `pre_duration` in it leaves alone. -/
private theorem Submitting.fields {st : AVStream} {origin : Option Int} {next awt : AWTContext} {seen : Submission}
    (submitting : Submitting limit st origin seen awt) (second : next.second = awt.second)
    (spent : next.preDuration = awt.preDuration) : Submitting limit st origin seen next :=
  ⟨second.trans submitting.stored, spent.trans submitting.unspent, submitting.stream, submitting.sent, submitting.origin,
    submitting.below⟩

private theorem left {st : AVStream} {origin : Option Int} (holds : SubmissionTracks (Submitting limit st origin) world) :
    SubmissionTracks (fun seen _ => Cut limit seen) world :=
  holds.weaken Submitting.cut

private theorem limit_frame (st : AVStream) (startPts : Option Int) :
    LoopFrame law (SubmissionTracks (Submitting limit st startPts)) (SubmissionTracks (Submitting limit st startPts))
      (SubmissionTracks fun seen _ => Cut limit seen) where
  quiet := SubmissionTracks.ignores.narrow fun _ => offStream_of_quiet
  ends := ends_of_ignores SubmissionTracks.ignores (fun _ _ => rfl) rfl
  again _ holds := holds
  leaves _ := left

private def limitLoops (law : Law) (limit : Int) (fuel : Nat) (st : AVStream) : LoopOutline law fuel st where
  head clock := SubmissionTracks (Submitting limit st clock.startPts)
  reading startPts := SubmissionTracks (Submitting limit st startPts)
  timing startPts packet := SubmissionTracks (Reading limit st startPts packet)
  sending startPts packet := SubmissionTracks fun seen awt =>
    Submitting limit st startPts { seen with sent := seen.sent ++ [packet] } awt
  receiving startPts _ := SubmissionTracks (Submitting limit st startPts)
  pushing startPts _ := SubmissionTracks (Submitting limit st startPts)
  sinking startPts := SubmissionTracks (Submitting limit st startPts)
  filtering startPts _ := SubmissionTracks (Submitting limit st startPts)
  out _ := SubmissionTracks fun seen _ => Cut limit seen
  halt _ := SubmissionTracks fun seen _ => Cut limit seen
  head_expired _ _ := left
  receiving_expired _ _ _ := left
  sinking_expired _ _ := left
  check clock world holds := (limit_frame st clock.startPts).check (SubmissionTracks.ignores _ rfl world holds)
  read startPts world holds := by
    intro result _
    have step (seen : Submission) (stream : seen.stream = some st) :
        submission.step seen ⟨world.state, .avReadFrame, result⟩ =
          if ¬ result.code.val < 0 ∧ result.packet.streamIndex = st.index then
            { seen with read := seen.read ++ [result.packet] } else seen := by
      simp [submission, stream]
    split
    next failed =>
      have kept : SubmissionTracks (Submitting limit st startPts) (world.record .avReadFrame result) := by
        apply holds.record (fun _ => trivial)
        intro submitting
        rw [step _ submitting.stream, if_neg (by simp [failed])]
        exact submitting
      exact left kept
    next given =>
      split
      next other =>
        apply SubmissionTracks.ignores _ rfl _
        apply holds.record (fun _ => trivial)
        intro submitting
        rw [step _ submitting.stream, if_neg (fun both => other both.2)]
        exact submitting
      next same =>
        apply holds.record (fun _ => trivial)
        intro submitting
        rw [step _ submitting.stream, if_pos ⟨given, not_not.mp same⟩]
        exact submitting.read _
  untimed startPts packet world timeless holds := by
    apply holds.weaken
    intro reading
    have sent := reading.send (by simp [TimeArithmetic.offset, timeless])
    simpa [TimeArithmetic.stamp, timeless] using sent
  time startPts packet micros world stamped holds := by
    intro origin
    have given : machineTime.offset st.timeBase startPts packet = some (int64 (micros - origin)) := machine_offset stamped
    have next : machineTime.stamp st.timeBase startPts packet = known origin := machine_stamp stamped
    have clocked : SubmissionTracks
        (fun seen awt => Reading limit st startPts packet seen awt ∧ awt.currentDuration = int64 (micros - origin))
        (world.update (·.setCurrent (int64 (micros - origin)))) :=
      holds.update fun reading => ⟨⟨reading.before.fields rfl rfl, reading.read⟩, rfl⟩
    refine (SubmissionTracks.ignores _ rfl _ clocked).weaken fun _ world clocked => ?_
    obtain ⟨reading, current⟩ := clocked.agrees
    have shown : int64 (world.state.currentDuration + world.state.preDuration) = int64 (micros - origin) := by
      rw [current, reading.before.unspent, Int.add_zero]
      exact Int.bmod_bmod
    rw [shown, reading.before.stored]
    split
    next reached =>
      refine SubmissionTracks.ignores _ rfl world (clocked.weaken fun holds => holds.1.cut ?_)
      rw [given]
      exact decide_eq_true reached
    next unreached =>
      have clear : SubmissionTracks (fun seen awt =>
          Submitting limit st (known origin) { seen with sent := seen.sent ++ [packet] } awt) world := by
        apply clocked.weaken
        intro holds
        rw [← next]
        apply holds.1.send
        rw [given]
        exact fun reached => unreached (of_decide_eq_true reached)
      exact ⟨clear, fun _ => SubmissionTracks.ignores _ rfl world clear⟩
  send startPts packet world holds := by
    apply (limit_frame st startPts).send
    intro code _
    exact holds.record (fun _ => trivial) id
  drained _ _ world _ holds := SubmissionTracks.ignores _ rfl world holds
  receive startPts _ world _ holds := (limit_frame st startPts).receive (SubmissionTracks.ignores _ rfl world holds)
  push startPts _ world holds := (limit_frame st startPts).push (SubmissionTracks.ignores _ rfl world holds)
  sink startPts world holds := (limit_frame st startPts).sink (SubmissionTracks.ignores _ rfl world holds)
  filter startPts frame world holds := by
    have calls : Ignores law (fun call : Call => call.ofBlocks) (SubmissionTracks (Submitting limit st startPts)) :=
      SubmissionTracks.ignores.narrow fun call part => by cases call <;> first | rfl | cases part
    have fields : Frames AWTContext.outsideFilter (SubmissionTracks (Submitting limit st startPts)) :=
      tracks_frames fun seen awt next same submitting => by
        simp only [AWTContext.outsideFilter, Prod.mk.injEq] at same
        exact submitting.fields (by tauto) (by tauto)
    apply (awtFilterFrame_keeps calls fields (fun _ _ => left) fuel frame holds).imp
    exact fun _ _ holds => (limit_frame st startPts).filtered holds

private def limitRun (law : Law) (limit : Int) (fuel : Nat) : RunOutline law fuel where
  idle := SubmissionTracks (Unread limit)
  opening := SubmissionTracks (Unread limit)
  opened input := SubmissionTracks (Submitting limit input.st none)
  filtered input := SubmissionTracks (Submitting limit input.st none)
  loops input := limitLoops law limit fuel input.st
  ending _ := SubmissionTracks fun seen _ => Cut limit seen
  finished _ := SubmissionTracks fun seen _ => Cut limit seen
  halt _ := SubmissionTracks fun seen _ => Cut limit seen
  allocate _ := allocate_keeps (SubmissionTracks.ignores _ rfl) (SubmissionTracks.ignores _ rfl)
    (SubmissionTracks.ignores _ rfl)
    (fun _ holds => holds.update fun unread => ⟨unread.stored, unread.unspent, unread.nothing⟩)
    fun _ holds => holds.weaken Unread.cut
  openInput filePath world holds := by
    have quiet : Ignores law (fun call : Call => call.quiet) (SubmissionTracks (Unread limit)) :=
      SubmissionTracks.ignores.narrow fun _ => offStream_of_quiet
    apply (awtOpenInput_meets (silent_of_quiet quiet) (fun _ holds => holds) (fun _ _ => quiet _ rfl)
      (fun _ holds => holds.weaken Unread.cut) filePath holds).imp
    intro result world reached
    cases result with
    | error ret => exact fun _ _ => reached.1.record (fun _ => trivial) fun unread => unread.cut
    | ok input =>
      intro answer _
      have opened : SubmissionTracks (Submitting limit input.st none) (world.record (.mark (.openInput (.ok input))) answer) := by
        apply reached.record (fun _ => trivial)
        intro unread
        rw [unread.nothing]
        exact ⟨unread.stored, unread.unspent, rfl, rfl, rfl, fun _ none => absurd none List.not_mem_nil⟩
      refine opened.update fun submitting => submitting.fields ?_ ?_ <;>
        · unfold AWTContext.takeRate
          split <;> rfl
  filters input world holds := by
    have calls : Ignores law (fun call : Call => call.ofFilters) (SubmissionTracks (Submitting limit input.st none)) :=
      SubmissionTracks.ignores.narrow fun call part => by
        cases call with
        | mark mark => cases mark <;> first | rfl | cases part
        | _ => first | rfl | cases part
    have stores (world : AwtWorld) (graph : AVFilterGraph) (holds : SubmissionTracks (Submitting limit input.st none) world) :
        SubmissionTracks (Submitting limit input.st none) (world.update fun awt => { awt with fg := some graph }) :=
      holds.update fun submitting => submitting.fields rfl rfl
    apply (needFilters_keeps calls stores input holds).imp
    intro ret world holds
    split
    · exact left holds
    · exact holds
  setup filePath input world holds := by
    have calls : Ignores law (fun call : Call => call.ofSetup) (SubmissionTracks (Submitting limit input.st none)) :=
      SubmissionTracks.ignores.narrow fun call part => by
        cases call with
        | mark mark => cases mark <;> first | rfl | cases part
        | _ => first | rfl | cases part
    have fields : Frames AWTContext.outsideSetup (SubmissionTracks (Submitting limit input.st none)) :=
      tracks_frames fun seen awt next same submitting => by
        simp only [AWTContext.outsideSetup, Prod.mk.injEq] at same
        exact submitting.fields (by tauto) (by tauto)
    apply (needSetup_keeps calls (fun _ => SubmissionTracks.ignores _ rfl) fields (fun _ _ _ => left) fuel input
      holds).imp
    intro ret world holds
    split
    · exact left holds
    · exact SubmissionTracks.ignores _ rfl world holds
  out _ _ _ holds := holds
  loops_halt _ _ _ halted := halted
  finish _ world holds := by
    have spent : SubmissionTracks (fun seen _ => Cut limit seen)
        (world.update AWTContext.spend) := holds.update id
    refine (SubmissionTracks.ignores _ rfl _ spent).weaken fun _ world holds => ?_
    exact SubmissionTracks.ignores _ rfl world holds
  releases _ := SubmissionTracks.ignores.narrow fun _ silent => offStream_of_quiet (Call.quiet_of_silent silent)

private theorem first_run_cut (oracle : Oracle Surroundings AWTContext) (fuel : Nat) {awt : AWTContext}
    (unspent : awt.preDuration = 0) (filePath : String) :
    Cut awt.second (submission.seen ((Session.opened awt).run oracle fuel [.exec filePath]).trace) := by
  let outline := limitRun (fun _ _ => True) awt.second fuel
  have start : outline.idle ⟨awt, []⟩ := Observer.Tracks.init awt ⟨rfl, unspent, rfl⟩
  have reached := outline.sound filePath start oracle fun _ _ _ _ => trivial
  have same : ((Session.opened awt).run oracle fuel [.exec filePath]).trace =
      ((awtRun fuel filePath).run oracle ⟨awt, []⟩).2.trace := Session.resume_trace _ _ _
  rw [same]
  rcases executed : (awtRun fuel filePath).run oracle ⟨awt, []⟩ with ⟨_ | _, world⟩ <;>
    · rw [executed] at reached
      exact reached.agrees

/-- A time less than 2^62 microseconds away from 0. -/
def Near (time : Int) : Prop := -2 ^ 62 < time ∧ time < 2 ^ 62

private theorem Near.held {time : Int} (near : Near time) : Held time := by
  obtain ⟨least, most⟩ := near
  constructor <;> rw [INT64_MAX] <;> omega

/-- Near times and their offsets fit, and the code's offsets are the exact ones. -/
private theorem timed_near {base : TimeBase} {origin : Option Int} {packets : List AVPacket}
    (first : ∀ time, origin = some time → Near time)
    (near : ∀ packet ∈ packets, ∀ pts, packet.time = some pts → Near (exactTime.micros base pts)) :
    ∀ entry ∈ timed base origin origin packets,
      entry.counted = entry.offset ∧ ∀ offset, entry.offset = some offset → offset < INT64_MAX := by
  induction packets generalizing origin with
  | nil => exact fun _ none => absurd none List.not_mem_nil
  | cons packet rest ih =>
    have here := near packet List.mem_cons_self
    have origins (pts : Int) (stamp : packet.time = some pts) : Near (origin.getD (exactTime.micros base pts)) := by
      cases origin with
      | none => exact here pts stamp
      | some earlier => exact first earlier rfl
    have span (offset : Int) (given : exactTime.offset base origin packet = some offset) :
        -2 ^ 63 < offset ∧ offset < INT64_MAX := by
      obtain ⟨pts, stamp, rfl⟩ := Option.map_eq_some_iff.mp given
      obtain ⟨least, most⟩ := here pts stamp
      obtain ⟨leastFirst, mostFirst⟩ := origins pts stamp
      rw [INT64_MAX]
      change -2 ^ 63 < exactTime.micros base pts - _ ∧ exactTime.micros base pts - _ < _
      omega
    have fits : packet.Fits base origin :=
      ⟨fun pts stamp => (here pts stamp).held, fun pts stamp => (origins pts stamp).held, fun offset given => by
        have := span offset given
        rw [INT64_MAX] at this
        omega⟩
    have next (time : Int) (stamped : exactTime.stamp base origin packet = some time) : Near time := by
      cases stamp : packet.time with
      | none =>
        rw [TimeArithmetic.stamp, stamp] at stamped
        exact first time stamped
      | some pts =>
        rw [TimeArithmetic.stamp, stamp] at stamped
        rw [← Option.some_inj.mp stamped]
        exact origins pts stamp
    intro entry member
    rw [timed, fits.exact.1] at member
    rcases List.mem_cons.mp member with rfl | later
    · exact ⟨fits.exact.2, fun offset given => (span offset given).2⟩
    · exact ih next (fun packet inside => near packet (List.mem_cons_of_mem _ inside)) entry later

/-- So the limit is exact for every file with near times if `second` is at most 2147. -/
theorem unwrapped_of_near {second : Int} {awt : AWTContext} (fresh : OpenedFor second awt) (short : second ≤ 2147)
    {seen : Submission} (near : ∀ st, seen.stream = some st → ∀ packet ∈ seen.read, ∀ pts, packet.time = some pts →
      Near (exactTime.micros st.timeBase pts)) : seen.unwrapped second awt.second := by
  cases stream : seen.stream with
  | none => simp [Submission.unwrapped, stream]
  | some st =>
    simp only [Submission.unwrapped, stream, Option.all_some, List.all_eq_true, decide_eq_true_eq]
    intro entry member
    obtain ⟨same, most⟩ := timed_near (fun _ none => absurd none (by simp)) (near st stream) entry member
    rw [same]
    cases given : entry.offset with
    | none => rfl
    | some offset =>
      have less := most offset given
      apply decide_eq_decide.mpr
      by_cases positive : 1 ≤ second
      · rw [(stored_limit fresh).1 ⟨positive, short⟩]
        omega
      · have unlimited : awt.second = INT64_MAX := by cases fresh <;> exact if_pos (by omega)
        rw [unlimited]
        omega

def twoPackets : Script where
  packets _ := [⟨0, 0⟩, ⟨0, 3000⟩]

end Awt
