import Mathlib.Data.List.Induction
import Awt.Lib.Observer
import Awt.Proofs.Frames
import Awt.Proofs.PacketTimes
import Awt.Script

/-! The two durations of a context against the packets that its runs really read. -/

namespace Awt
open OracleProgram

/-- The media clock of a history: the offsets of all earlier runs added up, and the
first and latest timestamped audio packet of the current one. -/
structure MediaTime where
  total : Int
  origin : Option Int
  latest : Int
  st : Option AVStream
  started : Bool
  deriving DecidableEq

namespace MediaTime

def startRun (times : TimeArithmetic) (carry : Int → Int) (time : MediaTime) : MediaTime where
  total := times.store (time.total + time.latest)
  origin := none
  latest := carry time.latest
  st := none
  started := true

def packet (times : TimeArithmetic) (time : MediaTime) (packet : AVPacket) : MediaTime :=
  match time.st with
  | none => time
  | some st =>
    if packet.streamIndex ≠ st.index then time else
    { time with
      origin := times.stamp st.timeBase time.origin packet
      latest := (times.offset st.timeBase time.origin packet).getD time.latest }

def see (times : TimeArithmetic) (carry : Int → Int) (time : MediaTime) : Event → MediaTime
  | ⟨_, .avPacketAlloc, _⟩ => time.startRun times carry
  | ⟨_, .mark (.openInput (.ok input)), _⟩ => { time with st := some input.st, started := false }
  | ⟨_, .avReadFrame, result⟩ =>
    if result.code.val < 0 then { time with started := false }
    else { time.packet times result.packet with started := false }
  | _ => { time with started := false }

/-- Its times, and the offsets that are added up, fit an `int64_t`. -/
structure Fits (time : MediaTime) : Prop where
  total : -2 ^ 63 ≤ time.total ∧ time.total < 2 ^ 63
  latest : -2 ^ 63 ≤ time.latest ∧ time.latest < 2 ^ 63
  first : ∀ origin, time.origin = some origin → Held origin
  last : ∀ origin, time.origin = some origin → Held (origin + time.latest)

instance (time : MediaTime) : Decidable time.Fits :=
  decidable_of_iff ((-2 ^ 63 ≤ time.total ∧ time.total < 2 ^ 63) ∧ (-2 ^ 63 ≤ time.latest ∧ time.latest < 2 ^ 63) ∧
      time.origin.all fun origin => Held origin ∧ Held (origin + time.latest)) <| by
    constructor
    · intro ⟨total, latest, times⟩
      refine ⟨total, latest, fun origin given => ?_, fun origin given => ?_⟩ <;> simp_all
    · intro fits
      refine ⟨fits.total, fits.latest, ?_⟩
      cases given : time.origin with
      | none => rfl
      | some origin => simpa using ⟨fits.first origin given, fits.last origin given⟩

end MediaTime

/-- `carry` is what a run has for its offset until its first timestamped packet,
given the offset of the run before it. -/
def mediaTime (times : TimeArithmetic) (carry : Int → Int) : Observer Surroundings AWTContext MediaTime where
  init := ⟨0, none, 0, none, false⟩
  step := MediaTime.see times carry

/-- The exact clock, with an offset of 0 before the first timestamped packet of a run. -/
def exactClock : Observer Surroundings AWTContext MediaTime := mediaTime exactTime fun _ => 0

/-- The clock of the code. -/
def machineClock : Observer Surroundings AWTContext MediaTime := mediaTime machineTime id

/-- The accounts are right: the sum at the start of a run, the offset at every call. -/
def Accounts (time : MediaTime) (event : Event) : Prop :=
  (time.started → event.before.preDuration = time.total) ∧ event.before.currentDuration = time.latest

instance (time : MediaTime) (event : Event) : Decidable (Accounts time event) :=
  inferInstanceAs (Decidable (_ ∧ _))

/-- The accounts of the code are those of the exact clock. -/
abbrev TimeKept : Law := exactClock.law Accounts

/-- A run begins only when the one before it has advanced the media clock by nothing. -/
abbrev RestartsAtZero : Law := exactClock.law fun time event => event.call.startsRun → time.latest = 0

/-- The clock stays where 64 bits can hold it. -/
abbrev InRange : Law := exactClock.law fun time event => (exactClock.step time event).Fits

private abbrev CarriedTime (agrees : MediaTime → AWTContext → Prop) : AwtWorld → Prop :=
  machineClock.Tracks Accounts agrees

namespace MediaTime

/-- The context shows the offset of the history: true everywhere but at the start of a run. -/
structure Shown (time : MediaTime) (awt : AWTContext) : Prop where
  settled : time.started = false
  current : awt.currentDuration = time.latest

structure Between (time : MediaTime) (awt : AWTContext) : Prop extends Shown time awt where
  spent : awt.preDuration = int64 (time.total + time.latest)

structure Running (time : MediaTime) (awt : AWTContext) : Prop extends Shown time awt where
  spent : awt.preDuration = time.total

/-- The first call of a run has just been made. -/
structure Starting (time : MediaTime) (awt : AWTContext) : Prop where
  current : awt.currentDuration = time.latest
  spent : awt.preDuration = time.total
  first : time.origin = none

structure Opening (time : MediaTime) (awt : AWTContext) : Prop extends Running time awt where
  first : time.origin = none

structure Playing (st : AVStream) (origin : Option Int) (time : MediaTime) (awt : AWTContext) : Prop
    extends Running time awt where
  stream : time.st = some st
  first : time.origin = origin

/-- A packet was read, and the context does not know of its timestamp yet. -/
def Stamping (st : AVStream) (origin : Option Int) (packet : AVPacket) (time : MediaTime) (awt : AWTContext) : Prop :=
  ∃ before, Playing st origin before awt ∧ packet.streamIndex = st.index ∧
    time = { before.packet machineTime packet with started := false }

end MediaTime

open MediaTime

variable {law : Law} {agrees other : MediaTime → AWTContext → Prop} {world : AwtWorld} {fuel : Nat}

private theorem MediaTime.Shown.accounts {time : MediaTime} {awt : AWTContext} (shown : time.Shown awt)
    (call : Call) (answer : Answer call) : Accounts time ⟨awt, call, answer⟩ :=
  ⟨fun started => absurd started (by simp [shown.settled]), shown.current⟩

/-- The calls that do not move the media clock. -/
private def keepsTime : Call → Bool
  | .avPacketAlloc | .avReadFrame | .mark (.openInput _) => false
  | _ => true

private theorem keepsTime_of_ordinary {call : Call} (ordinary : call.ordinary) : keepsTime call := by
  cases call with
  | mark mark => cases mark <;> first | rfl | exact ordinary
  | _ => first | rfl | exact ordinary

private theorem keepsTime_of_part {call : Call}
    (part : call.ofSetup ∨ call.ofFilters ∨ call.ofBlocks ∨ call.ofLoop ∨ call.ofClose) : keepsTime call :=
  keepsTime_of_ordinary (Call.ordinary_of_part part)

private theorem see_unseen {call : Call} (still : keepsTime call) (times : TimeArithmetic) (carry : Int → Int)
    (time : MediaTime) (awt : AWTContext) (answer : Answer call) :
    see times carry time ⟨awt, call, answer⟩ = { time with started := false } := by
  cases call with
  | avPacketAlloc | avReadFrame => cases still
  | mark mark =>
    cases mark with
    | openInput result => cases still
    | _ => rfl
  | _ => rfl

private theorem MediaTime.Shown.same {time : MediaTime} {awt : AWTContext} (shown : time.Shown awt) :
    { time with started := false } = time := by
  obtain ⟨total, origin, latest, st, started⟩ := time
  cases shown.settled
  rfl

private theorem CarriedTime.ignores (shown : ∀ {time awt}, agrees time awt → time.Shown awt) :
    Ignores law (fun call => keepsTime call) (CarriedTime agrees) := by
  refine Observer.Tracks.ignores fun time awt call answer member holds => ⟨?_, ?_⟩
  · exact Shown.accounts (shown holds) call answer
  · change agrees (see machineTime id time ⟨awt, call, answer⟩) awt
    rw [see_unseen member, (shown holds).same]
    exact holds

/-- The relations here only speak of the two durations. -/
private def Reads (agrees : MediaTime → AWTContext → Prop) : Prop :=
  ∀ time awt next, next.preDuration = awt.preDuration → next.currentDuration = awt.currentDuration →
    agrees time awt → agrees time next

private theorem CarriedTime.afterSetup (reads : Reads agrees) : Frames AWTContext.outsideSetup (CarriedTime agrees) := by
  intro world change same tracks
  have fields : (change world.state).outsideSetup = world.state.outsideSetup := same _
  simp only [AWTContext.outsideSetup, Prod.mk.injEq] at fields
  exact tracks.update (reads _ _ _ (by tauto) (by tauto))

private theorem CarriedTime.afterFilter (reads : Reads agrees) : Frames AWTContext.outsideFilter (CarriedTime agrees) := by
  intro world change same tracks
  have fields : (change world.state).outsideFilter = world.state.outsideFilter := same _
  simp only [AWTContext.outsideFilter, Prod.mk.injEq] at fields
  exact tracks.update (reads _ _ _ (by tauto) (by tauto))

private theorem running_reads : Reads Running := fun _ _ _ spent current running =>
  { settled := running.settled, current := current.trans running.current, spent := spent.trans running.spent }

private theorem playing_reads (st : AVStream) (origin : Option Int) : Reads (Playing st origin) :=
  fun _ _ _ spent current playing =>
    { running_reads _ _ _ spent current playing.toRunning with stream := playing.stream, first := playing.first }

private theorem stamping_untimed {st : AVStream} {origin : Option Int} {packet : AVPacket} {time : MediaTime}
    {awt : AWTContext} (stamping : Stamping st origin packet time awt) (timeless : packet.time = none) :
    Playing st origin time awt := by
  obtain ⟨before, playing, same, rfl⟩ := stamping
  have unmoved : before.packet machineTime packet = before := by
    rw [MediaTime.packet]
    split
    · rfl
    · simp [TimeArithmetic.stamp, TimeArithmetic.offset, timeless]
  rw [unmoved, playing.same]
  exact playing

private theorem stamping_timed {st : AVStream} {origin : Option Int} {packet : AVPacket} {time : MediaTime}
    {awt : AWTContext} {micros : Int} (stamping : Stamping st origin packet time awt)
    (timed : packet.micros st.timeBase = some micros) :
    Playing st (known (origin.getD micros)) time (awt.setCurrent (int64 (micros - origin.getD micros))) := by
  obtain ⟨before, playing, same, rfl⟩ := stamping
  simp only [MediaTime.packet, playing.stream, playing.first, same, ne_eq, not_true, if_false, machine_stamp timed,
    machine_offset timed, Option.getD_some]
  exact { settled := rfl, current := rfl, spent := playing.spent, stream := rfl, first := rfl }

private theorem see_read (time : MediaTime) (awt : AWTContext) (result : PacketResult) :
    machineClock.step time ⟨awt, .avReadFrame, result⟩ =
      if result.code.val < 0 then { time with started := false }
      else { time.packet machineTime result.packet with started := false } := rfl

private theorem packet_of_other {time : MediaTime} {st : AVStream} (stream : time.st = some st)
    {packet : AVPacket} (other : packet.streamIndex ≠ st.index) : time.packet machineTime packet = time := by
  rw [MediaTime.packet, stream]
  exact if_pos other

private theorem between_ignores : Ignores law (fun call => keepsTime call) (CarriedTime Between) :=
  CarriedTime.ignores fun between => between.toShown

private theorem opening_ignores : Ignores law (fun call => keepsTime call) (CarriedTime Opening) :=
  CarriedTime.ignores fun opening => opening.toShown

private theorem running_ignores : Ignores law (fun call => keepsTime call) (CarriedTime Running) :=
  CarriedTime.ignores fun running => running.toShown

private theorem playing_ignores (st : AVStream) (origin : Option Int) :
    Ignores law (fun call => keepsTime call) (CarriedTime (Playing st origin)) :=
  CarriedTime.ignores fun playing => playing.toShown

private theorem playing_left {st : AVStream} {origin : Option Int} (holds : CarriedTime (Playing st origin) world) :
    CarriedTime Running world :=
  holds.weaken Playing.toRunning

/-- Only reading a packet moves the media clock of a run. -/
private theorem time_frame (st : AVStream) (startPts : Option Int) :
    LoopFrame law (CarriedTime (Playing st startPts)) (CarriedTime (Playing st startPts)) (CarriedTime Running) where
  quiet := (playing_ignores st startPts).narrow fun _ quiet => keepsTime_of_part (by simp [Call.ofLoop_of_quiet quiet])
  ends := ends_of_ignores running_ignores (fun _ _ => rfl) rfl
  again _ holds := holds
  leaves _ := playing_left

private def timeLoops (law : Law) (fuel : Nat) (st : AVStream) : LoopOutline law fuel st where
  head clock := CarriedTime (Playing st clock.startPts)
  reading startPts := CarriedTime (Playing st startPts)
  timing startPts packet := CarriedTime (Stamping st startPts packet)
  sending startPts _ := CarriedTime (Playing st startPts)
  receiving startPts _ := CarriedTime (Playing st startPts)
  pushing startPts _ := CarriedTime (Playing st startPts)
  sinking startPts := CarriedTime (Playing st startPts)
  filtering startPts _ := CarriedTime (Playing st startPts)
  out _ := CarriedTime Running
  halt _ := CarriedTime fun time _ => time.started = false
  head_expired _ _ holds := holds.weaken fun playing => playing.settled
  receiving_expired _ _ _ holds := holds.weaken fun playing => playing.settled
  sinking_expired _ _ holds := holds.weaken fun playing => playing.settled
  check clock world holds := (time_frame st clock.startPts).check (playing_ignores _ _ _ rfl world holds)
  read startPts world holds := by
    intro result _
    have shown := holds.agrees.accounts .avReadFrame result
    split
    next failed =>
      apply holds.record (fun _ => shown)
      intro playing
      rw [see_read, if_pos failed, playing.same]
      exact playing.toRunning
    next succeeded =>
      split
      next other =>
        apply playing_ignores _ _ _ rfl _
        apply holds.record (fun _ => shown)
        intro playing
        rw [see_read, if_neg succeeded, packet_of_other playing.stream other, playing.same]
        exact playing
      next same =>
        apply holds.record (fun _ => shown)
        intro playing
        rw [see_read, if_neg succeeded]
        exact ⟨_, playing, not_not.mp same, rfl⟩
  untimed _ _ _ timeless holds := holds.weaken fun stamping => stamping_untimed stamping timeless
  time startPts packet micros world timed holds := by
    apply (time_frame st _).time
    exact playing_ignores _ _ _ rfl _ (holds.update fun stamping => stamping_timed stamping timed)
  send startPts packet world holds := (time_frame st startPts).send (playing_ignores _ _ _ rfl world holds)
  drained startPts _ world _ holds := playing_ignores _ _ _ rfl world holds
  receive startPts _ world _ holds := (time_frame st startPts).receive (playing_ignores _ _ _ rfl world holds)
  push startPts _ world holds := (time_frame st startPts).push (playing_ignores _ _ _ rfl world holds)
  sink startPts world holds := (time_frame st startPts).sink (playing_ignores _ _ _ rfl world holds)
  filter startPts frame world holds := by
    have calls : Ignores law (fun call : Call => call.ofBlocks) (CarriedTime (Playing st startPts)) :=
      (playing_ignores st startPts).narrow fun _ part => keepsTime_of_part (by simp [part])
    apply (awtFilterFrame_keeps calls _ _ fuel frame holds).imp _
    · exact CarriedTime.afterFilter (playing_reads st startPts)
    · exact fun _ _ holds => holds.weaken fun playing => playing.settled
    · exact fun _ _ holds => (time_frame st startPts).filtered holds

private def timeRuns (law : Law) (fuel : Nat) : RunOutline law fuel where
  idle := CarriedTime Between
  opening := CarriedTime Opening
  opened input := CarriedTime (Playing input.st none)
  filtered input := CarriedTime (Playing input.st none)
  loops input := timeLoops law fuel input.st
  ending _ := CarriedTime Running
  finished _ := CarriedTime Between
  halt _ := CarriedTime fun time _ => time.started = false
  allocate world holds := by
    intro packet _ frame _
    have starting : CarriedTime Starting (world.record .avPacketAlloc packet) :=
      holds.record (fun between => between.accounts _ _) fun between =>
        { current := between.current, spent := between.spent, first := rfl }
    have opening : CarriedTime Opening ((world.record .avPacketAlloc packet).record .avFrameAlloc frame) :=
      starting.record (fun starting => ⟨fun _ => starting.spent, starting.current⟩) fun starting =>
        { settled := rfl, current := starting.current, spent := starting.spent, first := starting.first }
    refine (opening_ignores _ rfl _ opening).weaken fun filtFrame world opening => ?_
    refine (opening_ignores _ rfl _ opening).weaken fun _ world opening => ?_
    split
    · exact opening.update fun opening => { opening with }
    · exact opening.weaken Opening.toRunning
  openInput filePath world holds := by
    apply (awtOpenInput_meets _ _ _ _ filePath holds).imp _
    · exact CarriedTime Running
    · exact opening_ignores.narrow fun _ silent => keepsTime_of_ordinary (Call.ordinary_of_silent silent)
    · exact fun _ opening => opening.weaken Opening.toRunning
    · exact fun _ _ world opening => (opening_ignores _ rfl world opening).weaken fun _ _ opening => opening.weaken Opening.toRunning
    · exact fun _ opening => opening.weaken fun opening => opening.settled
    intro result world reached
    cases result with
    | error ret =>
      exact fun _ _ => reached.1.record (fun running => running.accounts _ _) fun running =>
        { settled := rfl, current := running.current, spent := running.spent }
    | ok input =>
      intro answer _
      have noted : CarriedTime (Playing input.st none) (world.record (.mark (.openInput (.ok input))) answer) :=
        reached.record (fun opening => opening.accounts _ _) fun opening =>
          { settled := rfl, current := opening.current, spent := opening.spent, stream := rfl, first := opening.first }
      refine noted.update (playing_reads input.st none _ _ _ ?_ ?_) <;>
        · unfold AWTContext.takeRate
          split <;> rfl
  filters input world holds := by
    have calls : Ignores law (fun call : Call => call.ofFilters) (CarriedTime (Playing input.st none)) :=
      (playing_ignores input.st none).narrow fun _ part => keepsTime_of_part (by simp [part])
    apply (needFilters_keeps calls _ input holds).imp _
    · exact fun world _ holds => holds.update fun playing => playing_reads input.st none _ world.state _ rfl rfl playing
    · intro ret world holds
      split
      · exact playing_left holds
      · exact holds
  setup filePath input world holds := by
    have calls : Ignores law (fun call : Call => call.ofSetup) (CarriedTime (Playing input.st none)) :=
      (playing_ignores input.st none).narrow fun _ part => keepsTime_of_part (by simp [part])
    apply (needSetup_keeps calls _ _ _ fuel input holds).imp _
    · exact fun ret => playing_ignores _ _ _ rfl
    · exact CarriedTime.afterSetup (playing_reads input.st none)
    · exact fun _ _ _ holds => holds.weaken fun playing => playing.settled
    · intro ret world holds
      split
      · exact playing_left holds
      · exact playing_ignores _ _ _ rfl world holds
  out _ _ _ holds := holds
  loops_halt _ _ _ holds := holds
  finish ret world holds := by
    have between : CarriedTime Between (world.update AWTContext.spend) :=
      holds.update fun running => ⟨⟨running.settled, running.current⟩, by
        rw [← running.spent, ← running.current]
        rfl⟩
    refine After.weaken (between_ignores _ rfl _ between) fun _ world between => ?_
    exact between_ignores _ rfl world between
  releases _ := between_ignores.narrow fun _ silent => keepsTime_of_ordinary (Call.ordinary_of_silent silent)

private theorem see_startRun (times : TimeArithmetic) (carry : Int → Int) (time : MediaTime) {event : Event}
    (starts : event.call.startsRun) : see times carry time event = time.startRun times carry := by
  obtain ⟨before, call, answer⟩ := event
  cases call <;> first | rfl | exact absurd starts (by simp [Call.startsRun])

/-- A packet whose timestamp leaves the clock in range moves both clocks alike. -/
private theorem packet_same {time : MediaTime} {packet : AVPacket} (fits : (time.packet exactTime packet).Fits) :
    time.packet machineTime packet = time.packet exactTime packet := by
  cases stream : time.st with
  | none => simp [MediaTime.packet, stream]
  | some st =>
    by_cases other : packet.streamIndex ≠ st.index
    · simp [MediaTime.packet, stream, other]
    simp only [MediaTime.packet, stream, if_neg other] at fits ⊢
    have inside : packet.Fits st.timeBase time.origin := by
      have times {pts : Int} (stamp : packet.time = some pts) :
          exactTime.stamp st.timeBase time.origin packet =
              some (time.origin.getD (exactTime.micros st.timeBase pts)) ∧
            exactTime.offset st.timeBase time.origin packet = some
              (exactTime.micros st.timeBase pts - time.origin.getD (exactTime.micros st.timeBase pts)) := by
        rw [TimeArithmetic.stamp, TimeArithmetic.offset, stamp]
        exact ⟨rfl, rfl⟩
      refine ⟨fun pts stamp => ?_, fun pts stamp => fits.first _ (times stamp).1, fun offset given => ?_⟩
      · have last := fits.last _ (times stamp).1
        rw [(times stamp).2, Option.getD_some] at last
        rwa [Int.add_comm, Int.sub_add_cancel] at last
      · have latest := fits.latest
        rwa [given] at latest
    rw [inside.exact.1, inside.exact.2]

/-- The two clocks move alike while they stay in range, but for the start of a run. -/
private theorem see_same {time : MediaTime} {event : Event} (fits : (exactClock.step time event).Fits)
    (restarts : event.call.startsRun → time.latest = 0) : machineClock.step time event = exactClock.step time event := by
  by_cases starts : event.call.startsRun
  · change see _ _ _ _ = see _ _ _ _
    change (see _ _ _ _).Fits at fits
    rw [see_startRun _ _ _ starts] at fits ⊢
    rw [see_startRun _ _ _ starts, startRun, startRun, restarts starts]
    have total : int64 (time.total + time.latest) = time.total + time.latest := (int64_eq_iff _).mpr fits.total
    rw [restarts starts] at total
    exact congrArg (fun total => (⟨total, none, 0, none, true⟩ : MediaTime)) total
  · obtain ⟨before, call, answer⟩ := event
    cases call with
    | avPacketAlloc => exact absurd rfl starts
    | avReadFrame =>
      change (if _ then _ else _) = (if _ then _ else _)
      change (if _ then _ else _ : MediaTime).Fits at fits
      split at fits
      next failed => rw [if_pos failed, if_pos failed]
      next given =>
        rw [if_neg given, if_neg given, packet_same ⟨fits.total, fits.latest, fits.first, fits.last⟩]
    | mark mark => cases mark with
      | openInput result => cases result <;> rfl
      | _ => rfl
    | _ => rfl

private def CarriedTrace (trace : History) : Prop :=
  Lawful (machineClock.law Accounts) trace ∧ (machineClock.seen trace).started = false

/-- The code accounts for a clock that a new run does not set back to 0. -/
private theorem carried_time (oracle : Oracle Surroundings AWTContext) (fuel : Nat) {awt : AWTContext}
    (fresh : Opened awt) (requests : List Request) :
    CarriedTrace ((Session.opened awt).run oracle fuel requests).trace := by
  apply (timeRuns (fun _ _ => True) fuel).history (fun _ _ idle => idle)
  · exact fun _ idle => ⟨idle.kept, idle.agrees.settled⟩
  · exact fun _ _ halted => ⟨halted.kept, halted.agrees⟩
  · intro world idle
    apply (closeContext_keeps _ _ idle).imp _
    · exact between_ignores.narrow fun _ part => keepsTime_of_part (by simp [part])
    · exact fun _ idle => idle.update fun between => ⟨⟨between.settled, between.current⟩, between.spent⟩
    · exact fun _ _ idle => ⟨idle.kept, idle.agrees.settled⟩
  · apply Observer.Tracks.init awt
    cases fresh <;> exact ⟨⟨rfl, rfl⟩, rfl⟩
  · exact fun _ _ _ _ => trivial

private theorem carried_same {trace : History} (range : Lawful InRange trace) (restarts : Lawful RestartsAtZero trace) :
    machineClock.seen trace = exactClock.seen trace := by
  induction trace using List.reverseRecOn with
  | nil => rfl
  | append_singleton past event ih =>
    obtain ⟨earlier, last⟩ := lawful_concat.mp restarts
    obtain ⟨before, fits⟩ := lawful_concat.mp range
    rw [Observer.seen_concat, Observer.seen_concat, ih before earlier]
    exact see_same fits last

/-- The call after the start of a run shows what the run has carried over. -/
private theorem offset_restarts {past rest : History} {start event : Event} (starts : start.call.startsRun)
    (carried : Lawful (machineClock.law Accounts) ((past ++ [start]) ++ event :: rest))
    (kept : Lawful TimeKept ((past ++ [start]) ++ event :: rest)) :
    (machineClock.seen past).latest = 0 := by
  have shows : event.before.currentDuration = (machineClock.seen (past ++ [start])).latest := (carried _ _ _ rfl).2
  have zero : event.before.currentDuration = (exactClock.seen (past ++ [start])).latest := (kept _ _ _ rfl).2
  rw [Observer.seen_concat] at shows zero
  change _ = (see _ _ _ _).latest at shows zero
  rw [see_startRun _ _ _ starts] at shows zero
  exact shows.symm.trans zero

/-- Both clocks agree as long as the accounts are right for the one that restarts at 0. -/
private theorem same_while_kept {past rest : History} {event : Event} (range : Lawful InRange past)
    (carried : Lawful (machineClock.law Accounts) (past ++ event :: rest)) (kept : Lawful TimeKept (past ++ event :: rest)) :
    machineClock.seen past = exactClock.seen past := by
  induction past using List.reverseRecOn generalizing event rest with
  | nil => rfl
  | append_singleton past start ih =>
    obtain ⟨before, fits⟩ := lawful_concat.mp range
    have same : machineClock.seen past = exactClock.seen past := ih before (by simpa using carried) (by simpa using kept)
    rw [Observer.seen_concat, Observer.seen_concat, same]
    apply see_same fits
    intro starts
    rw [← same]
    exact offset_restarts starts carried kept

/-- While its times fit 64 bits, the accounts of a session are right exactly when every
run but the last one has advanced the media clock by nothing. -/
theorem time_kept_iff (oracle : Oracle Surroundings AWTContext) (fuel : Nat) {awt : AWTContext} (fresh : Opened awt)
    (requests : List Request) (range : Lawful InRange ((Session.opened awt).run oracle fuel requests).trace) :
    Lawful TimeKept ((Session.opened awt).run oracle fuel requests).trace ↔
      Lawful RestartsAtZero ((Session.opened awt).run oracle fuel requests).trace := by
  obtain ⟨carried, settled⟩ := carried_time oracle fuel fresh requests
  generalize ((Session.opened awt).run oracle fuel requests).trace = trace at carried settled range ⊢
  constructor
  · intro kept past start rest same starts
    subst same
    cases rest with
    | nil =>
      rw [Observer.seen_concat] at settled
      change (see _ _ _ _).started = false at settled
      rw [see_startRun _ _ _ starts] at settled
      exact absurd settled (by simp [startRun])
    | cons event rest =>
      rw [← same_while_kept (range.earlier ⟨_, rfl⟩) carried kept]
      exact offset_restarts starts (by simpa using carried) (by simpa using kept)
  · intro restarts past event rest same
    have agree : machineClock.seen past = exactClock.seen past :=
      carried_same (range.earlier ⟨event :: rest, same.symm⟩) (restarts.earlier ⟨event :: rest, same.symm⟩)
    change Accounts _ event
    rw [← agree]
    exact carried past event rest same

/-- A file of 5 s, one that cannot be opened, and one more. -/
def failureBetween : Script where
  opens run := if run = 2 then ⟨-2, by decide⟩ else .ok
  packets run := if run = 1 then [⟨0, 0⟩, ⟨0, 5000⟩] else []

/-- After the failed run `pre_duration` is 10 s. -/
theorem failed_run_spends_budget :
    ¬ Lawful TimeKept (failureBetween.session (awtOpen 44100 1 1 1 60) [.exec "a", .exec "b", .exec "c"]).trace := by
  decide +kernel

theorem time_kept_of_single_run :
    Lawful TimeKept (failureBetween.session (awtOpen 44100 1 1 1 60) [.exec "a", .close]).trace :=
  (time_kept_iff _ _ (.awtOpen 44100 1 1 1 60) _ (by decide +kernel)).mpr (by decide +kernel)

end Awt
