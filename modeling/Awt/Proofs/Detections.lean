import Awt.Proofs.Frames
import Awt.Script

/-! What a run reports through its callback: every detection, in the order of the
blocks, until the callback or a decoder ends the run. -/

namespace Awt
open OracleProgram

/-- What a callback is told. -/
structure Detection where
  channel : Nat
  wm : CString
  percent : CFloat
  posAt : Rat
  deriving DecidableEq

/-- Of the current run: whether it got its memory, the strings its decoders have written
and the callbacks it has made, the channel whose block is next, whether a callback asked
to stop, and whether no block may follow. -/
structure Reports where
  refused : Bool
  detected : List Detection
  reported : List Detection
  turn : Nat
  stopped : Bool
  concluded : Bool

def Reports.see (reports : Reports) : Event → Reports
  | ⟨_, .avPacketAlloc, allocated⟩ => ⟨!allocated, [], [], 0, false, false⟩
  | ⟨_, .avFrameAlloc, allocated⟩ => { reports with refused := reports.refused || !allocated }
  | ⟨awt, .awt5DecodeStreamBuffer i _ _, result⟩ =>
    if result.ret ≠ 0 then { reports with concluded := true }
    else { reports with
      detected := if result.found = [] then reports.detected
        else reports.detected ++ [⟨i, result.found, result.percent, awt.posAt⟩]
      turn := if (i + 1 : Nat) < awt.nbDecoder then i + 1 else 0 }
  | ⟨_, .callback channel wm percent posAt, stop⟩ =>
    { reports with
      reported := reports.reported ++ [⟨channel, wm, percent, posAt⟩]
      stopped := stop ≠ 0
      concluded := stop ≠ 0 }
  | _ => reports

def reports : Observer Surroundings AWTContext Reports where
  init := ⟨false, [], [], 0, false, false⟩
  step := Reports.see

/-- Blocks come channel by channel and only as long as the run goes on, and a callback
tells of the detection that was just made. -/
def inOrder (reports : Reports) : Event → Bool
  | ⟨_, .awt5DecodeStreamBuffer i _ _, _⟩ => !reports.concluded && i = reports.turn
  | ⟨_, .callback channel wm percent posAt, _⟩ =>
    !reports.concluded && reports.reported ++ [⟨channel, wm, percent, posAt⟩] = reports.detected
  | _ => true

/-- A run reports its detections one by one. When it returns, all of them were reported
and counted; a run that was asked to stop returns 0. -/
structure ReportedExactly (executed : Exit Stop Int × AwtWorld) : Prop where
  inOrder : Lawful (reports.law fun reports event => inOrder reports event) executed.2.trace
  reported : ∀ ret, executed.1 = .done ret →
    (reports.seen executed.2.trace).reported = (reports.seen executed.2.trace).detected
  counted : ∀ ret, executed.1 = .done ret →
    executed.2.state.counter = (reports.seen executed.2.trace).reported.length
  stopped : (reports.seen executed.2.trace).stopped → executed.1 = .done 0

section reports

/-- Everything detected was reported and counted. -/
structure Told (reports : Reports) (awt : AWTContext) : Prop where
  reported : reports.reported = reports.detected
  counter : awt.counter = int32 reports.reported.length
  granted : reports.refused = false

/-- So far no block has ended the run, and the next one is the first channel's. -/
structure Telling (reports : Reports) (awt : AWTContext) : Prop extends Told reports awt where
  going : reports.concluded = false
  unstopped : reports.stopped = false
  first : reports.turn = 0

/-- In the loop over the channels' blocks. -/
structure Listening (channels : Int) (items : List Nat) (reports : Reports) (awt : AWTContext) : Prop
    extends Told reports awt where
  going : reports.concluded = false
  unstopped : reports.stopped = false
  decoders : awt.nbDecoder = channels
  upcoming : ∃ done, items = (indices channels).drop done ∧ reports.turn = items.headD 0

/-- What a run or a part of it is left with. -/
structure Heard (ret : Int) (reports : Reports) (awt : AWTContext) : Prop extends Told reports awt where
  ended : reports.concluded → ret ≠ 0
  stopped : reports.stopped → ret = AVERROR_EOF
  first : ret = 0 → reports.turn = 0

variable {reports : Reports} {awt : AWTContext} {channels : Int}

theorem Telling.heard (telling : Telling reports awt) (ret : Int) : Heard ret reports awt where
  toTold := telling.toTold
  ended concluded := by rw [telling.going] at concluded; cases concluded
  stopped stopped := by rw [telling.unstopped] at stopped; cases stopped
  first _ := telling.first

theorem Telling.fields (telling : Telling reports awt) (next : AWTContext) (same : next.counter = awt.counter) :
    Telling reports next :=
  ⟨⟨telling.reported, same.trans telling.counter, telling.granted⟩, telling.going, telling.unstopped, telling.first⟩

theorem Heard.telling (heard : Heard 0 reports awt) : Telling reports awt where
  toTold := heard.toTold
  going := Bool.eq_false_iff.mpr fun concluded => heard.ended concluded rfl
  unstopped := Bool.eq_false_iff.mpr fun stopped => absurd (heard.stopped stopped) (by decide)
  first := heard.first rfl

/-- The channel that a loop over the channels is at. -/
private theorem upcoming_cons {i done : Nat} {rest : List Nat} (items : i :: rest = (indices channels).drop done) :
    rest = (indices channels).drop (done + 1) ∧ rest.headD 0 = if (i + 1 : Nat) < channels then i + 1 else 0 := by
  have tail : rest = (indices channels).drop (done + 1) := by
    rw [← List.tail_drop, ← items]
    rfl
  have within : done < (indices channels).length := by
    have nonempty : (indices channels).drop done ≠ [] := by rw [← items]; simp
    simpa using nonempty
  have first : i = done := by
    have same := congrArg List.head? items
    rw [List.head?_drop, List.getElem?_eq_getElem within] at same
    simpa [indices] using same
  refine ⟨tail, ?_⟩
  subst first
  rw [tail]
  simp only [indices, List.length_range] at within ⊢
  split
  next more =>
    rw [List.drop_eq_getElem_cons (by rw [List.length_range]; omega)]
    simp
  next last => rw [List.drop_eq_nil_of_le (by rw [List.length_range]; omega)]; rfl

/-- A detection is counted that the callback is still to be told of. -/
structure Owing (channels : Int) (items : List Nat) (detection : Detection) (reports : Reports) (awt : AWTContext) :
    Prop where
  detected : reports.reported ++ [detection] = reports.detected
  counter : awt.counter = int32 (reports.reported.length + 1)
  granted : reports.refused = false
  going : reports.concluded = false
  decoders : awt.nbDecoder = channels
  upcoming : ∃ done, items = (indices channels).drop done ∧ reports.turn = items.headD 0

theorem Telling.listen (telling : Telling reports awt) (decoders : awt.nbDecoder = channels) :
    Listening channels (indices channels) reports awt where
  toTold := telling.toTold
  going := telling.going
  unstopped := telling.unstopped
  decoders := decoders
  upcoming := by
    refine ⟨0, rfl, ?_⟩
    rw [telling.first, indices]
    cases channels.toNat with
    | zero => rfl
    | succ n => rw [List.range_succ_eq_map]; rfl

theorem Listening.telling (listening : Listening channels [] reports awt) : Telling reports awt where
  toTold := listening.toTold
  going := listening.going
  unstopped := listening.unstopped
  first := by
    obtain ⟨_, _, turn⟩ := listening.upcoming
    exact turn

variable {i : Nat} {rest : List Nat} {result : BufferResult}

private theorem Listening.inOrder (listening : Listening channels (i :: rest) reports awt) (decObj : Option DecObj)
    (input : Option (List CFloat)) : inOrder reports ⟨awt, .awt5DecodeStreamBuffer i decObj input, result⟩ := by
  obtain ⟨_, _, turn⟩ := listening.upcoming
  simp [Awt.inOrder, listening.going, turn]

private theorem Listening.next (listening : Listening channels (i :: rest) reports awt) : ∃ done, rest = (indices channels).drop done ∧
    (if (i + 1 : Nat) < awt.nbDecoder then i + 1 else 0) = rest.headD 0 := by
  obtain ⟨done, items, _⟩ := listening.upcoming
  obtain ⟨tail, turn⟩ := upcoming_cons items
  exact ⟨done + 1, tail, by rw [listening.decoders, turn]⟩

private theorem Listening.failed (listening : Listening channels (i :: rest) reports awt) (decObj : Option DecObj)
    (input : Option (List CFloat)) (failed : result.ret ≠ 0) :
    Heard result.ret (reports.see ⟨awt, .awt5DecodeStreamBuffer i decObj input, result⟩) awt := by
  simp only [Reports.see, failed, ne_eq, not_false_eq_true, if_true]
  refine ⟨⟨listening.reported, listening.counter, listening.granted⟩, fun _ => by omega, fun stopped => ?_, fun zero => by omega⟩
  rw [listening.unstopped] at stopped
  cases stopped

private theorem Listening.silent (listening : Listening channels (i :: rest) reports awt) (decObj : Option DecObj)
    (input : Option (List CFloat)) (succeeded : ¬ result.ret ≠ 0) (silent : result.found = []) :
    Listening channels rest (reports.see ⟨awt, .awt5DecodeStreamBuffer i decObj input, result⟩) awt := by
  simp only [Reports.see, succeeded, silent, if_false, if_true]
  exact ⟨⟨listening.reported, listening.counter, listening.granted⟩, listening.going, listening.unstopped,
    listening.decoders, listening.next⟩

private theorem Listening.found (listening : Listening channels (i :: rest) reports awt) (decObj : Option DecObj)
    (input : Option (List CFloat)) (succeeded : ¬ result.ret ≠ 0) (found : ¬ result.found = []) :
    Owing channels rest ⟨i, result.found, result.percent, awt.posAt⟩
      (reports.see ⟨awt, .awt5DecodeStreamBuffer i decObj input, result⟩) awt.countFound := by
  simp only [Reports.see, succeeded, found, if_false]
  refine ⟨by rw [listening.reported], ?_, listening.granted, listening.going, listening.decoders, listening.next⟩
  rw [AWTContext.countFound, listening.counter, int32_add]

private theorem Owing.inOrder {items : List Nat} {channel : Nat} {wm : CString} {percent : CFloat} {posAt : Rat}
    (owing : Owing channels items ⟨channel, wm, percent, posAt⟩ reports awt) {stop : Int} :
    inOrder reports ⟨awt, .callback channel wm percent posAt, stop⟩ := by
  simp [Awt.inOrder, owing.going, owing.detected]

private theorem Owing.stop {items : List Nat} {channel : Nat} {wm : CString} {percent : CFloat} {posAt : Rat}
    (owing : Owing channels items ⟨channel, wm, percent, posAt⟩ reports awt) {stop : Int} :
    Heard AVERROR_EOF (reports.see ⟨awt, .callback channel wm percent posAt, stop⟩) awt := by
  refine ⟨⟨owing.detected, ?_, owing.granted⟩, fun _ => by decide, fun _ => rfl, fun zero => absurd zero (by decide)⟩
  simp [Reports.see, owing.counter]

private theorem Owing.goOn {items : List Nat} {channel : Nat} {wm : CString} {percent : CFloat} {posAt : Rat}
    (owing : Owing channels items ⟨channel, wm, percent, posAt⟩ reports awt) {stop : Int} (goes : ¬ stop ≠ 0) :
    Listening channels items (reports.see ⟨awt, .callback channel wm percent posAt, stop⟩) awt := by
  have stays : decide (stop ≠ 0) = false := decide_eq_false goes
  refine ⟨⟨owing.detected, ?_, owing.granted⟩, stays, stays, owing.decoders, owing.upcoming⟩
  simp [Reports.see, owing.counter]

private abbrev ReportTracks (agrees : Reports → AWTContext → Prop) : AwtWorld → Prop :=
  Awt.reports.Tracks (fun reports event => inOrder reports event) agrees

variable {law : Law} {agrees : Reports → AWTContext → Prop} {world : AwtWorld} {fuel : Nat} {ret : Int}

/-- Calls that neither begin a run nor hand over or report anything. -/
private def Call.reportless : Call → Bool
  | .avPacketAlloc | .avFrameAlloc | .awt5DecodeStreamBuffer _ _ _ | .callback _ _ _ _ => false
  | _ => true

private theorem report_ignores : Ignores law (fun call => Call.reportless call) (ReportTracks agrees) := by
  apply Observer.Tracks.ignores
  intro value awt call answer less holds
  cases call <;> first | exact ⟨rfl, holds⟩ | cases less

private theorem reportless_of_part {call : Call} (part : call.ofSetup ∨ call.ofFilters ∨ call.quiet) :
    Call.reportless call := by
  cases call <;> first | rfl | rcases part with part | part | part <;> cases part

private theorem telling_frames : Frames AWTContext.counter (ReportTracks Telling) :=
  tracks_frames fun _ _ next same telling => telling.fields next same

private theorem telling_heard (telling : ReportTracks Telling world) : ReportTracks (Heard ret) world :=
  telling.weaken fun telling => telling.heard ret

private theorem heard_telling (heard : ReportTracks (Heard 0) world) : ReportTracks Telling world :=
  heard.weaken Heard.telling

/-- Where a loop can run out of turns, nobody has asked to stop. -/
private def Undisturbed (reports : Reports) (_ : AWTContext) : Prop :=
  reports.refused = false ∧ reports.stopped = false

private def reportFilter (channels : Int) (frame : AVFrame) : FilterOutline law channels frame where
  head _ := ReportTracks fun reports awt => Telling reports awt ∧ awt.nbDecoder = channels
  copying _ _ _ := ReportTracks fun reports awt => Telling reports awt ∧ awt.nbDecoder = channels
  decoding _ items := ReportTracks (Listening channels items)
  left ret := ReportTracks (Heard ret)
  halt _ := ReportTracks Undisturbed
  finish _ _ _ holds := holds.weaken fun telling => telling.1.heard 0
  enter _ _ _ holds := holds
  copy off count i rest world holds := by
    refine (report_ignores _ rfl world holds).weaken fun _ world holds => ?_
    unfold Copied
    split
    · exact holds.weaken fun telling => ⟨telling.1.granted, telling.1.unstopped⟩
    · exact holds.weaken fun telling => ⟨telling.1.granted, telling.1.unstopped⟩
    split
    · exact holds.weaken fun telling => ⟨telling.1.granted, telling.1.unstopped⟩
    · exact holds.update fun telling => ⟨telling.1.fields _ rfl, telling.2⟩
  short off count world holds _ := by
    have unmoved : ReportTracks Telling world := holds.weaken fun telling => telling.1
    exact telling_heard (telling_frames world (fun awt => { awt with nbBuffer := awt.nbBuffer + count }) (fun _ => rfl) unmoved)
  full off count world holds _ := by
    have unmoved : ReportTracks Telling world := holds.weaken fun telling => telling.1
    have emptied := telling_frames world (fun awt => { awt with nbBuffer := 0 }) (fun _ => rfl) unmoved
    exact emptied.weaken fun telling => telling.listen holds.agrees.2
  decode _ i rest world holds := by
    intro result _
    split
    next failed =>
      have heard : ReportTracks (Heard result.ret)
          (world.record (.awt5DecodeStreamBuffer i (world.state.decoder i) (world.state.buffer i)) result) :=
        holds.record (fun listening => listening.inOrder (world.state.decoder i) (world.state.buffer i))
          fun listening => listening.failed (world.state.decoder i) (world.state.buffer i) failed
      exact (report_ignores _ rfl _ heard).weaken fun _ world heard => report_ignores _ rfl world heard
    next succeeded =>
    split
    next silent =>
      exact holds.record (fun listening => listening.inOrder _ _)
        fun listening => listening.silent (world.state.decoder i) (world.state.buffer i) succeeded silent
    next found =>
      have owing : ReportTracks (Owing channels rest ⟨i, result.found, result.percent, world.state.posAt⟩)
          ((world.record (.awt5DecodeStreamBuffer i (world.state.decoder i) (world.state.buffer i)) result).update
            AWTContext.countFound) :=
        holds.store (fun listening => listening.inOrder _ _)
          fun listening => listening.found (world.state.decoder i) (world.state.buffer i) succeeded found
      intro stop _
      split
      next stops => exact owing.record (fun owing => owing.inOrder) fun owing => owing.stop
      next goes => exact owing.record (fun owing => owing.inOrder) fun owing => owing.goOn goes
  again _ _ holds := holds.weaken fun listening => ⟨listening.telling, listening.decoders⟩

private def reportLoops (fuel : Nat) (st : AVStream) : LoopOutline law fuel st where
  head _ := ReportTracks Telling
  reading _ := ReportTracks Telling
  timing _ _ := ReportTracks Telling
  sending _ _ := ReportTracks Telling
  receiving _ _ := ReportTracks Telling
  pushing _ _ := ReportTracks Telling
  sinking _ := ReportTracks Telling
  filtering _ _ := ReportTracks Telling
  out ret := ReportTracks (Heard ret)
  halt _ := ReportTracks Undisturbed
  head_expired _ _ holds := holds.weaken fun telling => ⟨telling.granted, telling.unstopped⟩
  receiving_expired _ _ _ holds := holds.weaken fun telling => ⟨telling.granted, telling.unstopped⟩
  sinking_expired _ _ holds := holds.weaken fun telling => ⟨telling.granted, telling.unstopped⟩
  check _ world holds := by
    refine (report_ignores _ rfl world holds).weaken fun _ world holds => ?_
    split
    · exact holds
    · exact telling_heard holds
  read _ world holds := by
    refine (report_ignores _ rfl world holds).weaken fun _ world holds => ?_
    split
    · exact telling_heard holds
    split
    · exact report_ignores _ rfl world holds
    · exact holds
  untimed _ _ _ _ holds := holds
  time startPts packet micros world _ holds := by
    have stamped := telling_frames world (·.setCurrent (int64 (micros - startPts.getD micros))) (fun _ => rfl) holds
    refine (report_ignores _ rfl _ stamped).weaken fun _ world holds => ?_
    split
    · exact (report_ignores _ rfl world holds).weaken fun _ _ => telling_heard
    · exact ⟨holds, fun _ => report_ignores _ rfl world holds⟩
  send _ _ world holds := by
    refine (report_ignores _ rfl world holds).weaken fun _ world holds => ?_
    split
    · exact (report_ignores _ rfl world holds).weaken fun _ _ => telling_heard
    · exact holds
  drained _ _ world _ holds := report_ignores _ rfl world holds
  receive _ _ world _ holds := by
    refine (report_ignores _ rfl world holds).weaken fun _ world holds => ?_
    split
    · exact report_ignores _ rfl world holds
    split
    · exact (report_ignores _ rfl world holds).weaken fun _ _ => telling_heard
    · exact holds
  push _ _ world holds := by
    refine (report_ignores _ rfl world holds).weaken fun _ world holds => ?_
    split
    · exact (report_ignores _ rfl world holds).weaken fun _ _ => telling_heard
    · exact holds
  sink _ world holds := by
    refine (report_ignores _ rfl world holds).weaken fun _ world holds => ?_
    split
    · exact report_ignores _ rfl world holds
    split
    · exact telling_heard holds
    · exact holds
  filter _ frame world holds := by
    apply ((reportFilter world.state.nbDecoder frame).sound
      (fun _ _ holds => holds.weaken fun telling => ⟨telling.1.granted, telling.1.unstopped⟩) fuel rfl
      ⟨holds.kept, holds.agrees, rfl⟩).imp
    intro ret world heard
    refine (report_ignores _ rfl world heard).weaken fun _ world heard => ?_
    split
    · exact heard
    next zero =>
      rw [not_not.mp zero] at heard
      exact heard_telling heard

/-- A run has begun that found the counter at `start`. -/
structure Beginning (start : Int) (reports : Reports) (awt : AWTContext) : Prop where
  fresh : reports = ⟨reports.refused, [], [], 0, false, false⟩
  counter : awt.counter = start

/-- A run that found the counter at `start` is about to return `ret`. -/
structure Closing (start ret : Int) (reports : Reports) (awt : AWTContext) : Prop where
  reported : reports.reported = reports.detected
  counter : awt.counter = if reports.refused then start else int32 reports.reported.length
  silent : reports.refused → reports.reported = []
  stopped : reports.stopped → ret = 0

variable {start : Int}

theorem Beginning.telling (beginning : Beginning start reports awt) (granted : reports.refused = false) :
    Telling reports { awt with counter := 0 } := by
  rw [beginning.fresh, granted]
  exact ⟨⟨rfl, rfl, rfl⟩, rfl, rfl, rfl⟩

theorem Beginning.closing (beginning : Beginning start reports awt) (refused : reports.refused = true) :
    Closing start AWT_CODE_SETUP_ERROR reports awt := by
  rw [beginning.fresh, refused]
  exact ⟨rfl, beginning.counter, fun _ => rfl, fun stopped => by cases stopped⟩

private theorem Beginning.frame {allocated frame : Bool} (beginning : Beginning start reports awt)
    (refused : reports.refused = !allocated) :
    Beginning start (reports.see ⟨awt, .avFrameAlloc, frame⟩) awt ∧
      (reports.see ⟨awt, .avFrameAlloc, frame⟩).refused = !(allocated && frame) := by
  refine ⟨⟨?_, beginning.counter⟩, ?_⟩
  · rw [beginning.fresh]
    rfl
  · rw [Bool.not_and, ← refused]
    rfl

theorem Heard.closing (heard : Heard ret reports awt) : Closing start (outCode ret) reports awt where
  reported := heard.reported
  counter := by rw [heard.granted, if_neg Bool.false_ne_true]; exact heard.counter
  silent refused := by rw [heard.granted] at refused; cases refused
  stopped stopped := by rw [heard.stopped stopped]; rfl

theorem Telling.closing (telling : Telling reports awt) : Closing start ret reports awt where
  reported := telling.reported
  counter := by rw [telling.granted, if_neg Bool.false_ne_true]; exact telling.counter
  silent refused := by rw [telling.granted] at refused; cases refused
  stopped stopped := by rw [telling.unstopped] at stopped; cases stopped

private def reportRuns (law : Law) (fuel : Nat) (start : Int) : RunOutline law fuel where
  idle := ReportTracks fun _ awt => awt.counter = start
  opening := ReportTracks Telling
  opened _ := ReportTracks Telling
  filtered _ := ReportTracks Telling
  loops input := reportLoops fuel input.st
  ending ret := ReportTracks (Closing start ret)
  finished ret := ReportTracks (Closing start ret)
  halt _ := ReportTracks Undisturbed
  allocate world holds := by
    intro packet _ frame _ filtFrame _
    have first : ReportTracks (fun reports awt => Beginning start reports awt ∧ reports.refused = !packet)
        (world.record .avPacketAlloc packet) :=
      holds.record (fun _ => rfl) fun counter => ⟨⟨rfl, counter⟩, rfl⟩
    have second : ReportTracks (fun reports awt => Beginning start reports awt ∧ reports.refused = !(packet && frame))
        ((world.record .avPacketAlloc packet).record .avFrameAlloc frame) :=
      first.record (fun _ => rfl) fun ⟨beginning, refused⟩ =>
        beginning.frame refused
    have third : ReportTracks (fun reports awt => Beginning start reports awt ∧ reports.refused = !(packet && frame && filtFrame))
        (((world.record .avPacketAlloc packet).record .avFrameAlloc frame).record .avFrameAlloc filtFrame) :=
      second.record (fun _ => rfl) fun ⟨beginning, refused⟩ =>
        beginning.frame refused
    refine (report_ignores _ rfl _ third).weaken fun _ world third => ?_
    split
    next granted => exact third.update fun ⟨beginning, refused⟩ => beginning.telling (by rw [refused, granted]; rfl)
    next refusal => exact third.weaken fun ⟨beginning, refused⟩ => beginning.closing (by rw [refused, Bool.eq_false_iff.mpr refusal]; rfl)
  openInput filePath world holds := by
    apply (awtOpenInput_meets _ _ _ _ filePath holds).imp _
    · exact ReportTracks Telling
    · exact report_ignores.narrow fun _ silent => reportless_of_part (Or.inr (Or.inr (Call.quiet_of_silent silent)))
    · exact fun _ holds => holds
    · exact fun _ _ world holds => report_ignores _ rfl world holds
    · exact fun _ holds => holds.weaken fun telling => ⟨telling.granted, telling.unstopped⟩
    intro result world reached
    cases result with
    | error ret =>
      exact (report_ignores _ rfl world reached.1).weaken fun _ _ holds => holds.weaken Telling.closing
    | ok input =>
      refine (report_ignores _ rfl world reached).weaken fun _ world holds => ?_
      refine telling_frames world _ (fun awt => ?_) holds
      unfold AWTContext.takeRate
      split <;> rfl
  filters input world holds := by
    apply (needFilters_keeps _ _ input holds).imp _
    · exact report_ignores.narrow fun _ part => reportless_of_part (Or.inr (Or.inl part))
    · exact fun world _ holds => telling_frames world _ (fun _ => rfl) holds
    · intro ret world holds
      split
      · exact holds.weaken Telling.closing
      · exact holds
  setup filePath input world holds := by
    apply (needSetup_keeps _ _ _ _ fuel input holds).imp _
    · exact report_ignores.narrow fun _ part => reportless_of_part (Or.inl part)
    · exact fun ret => report_ignores _ rfl
    · intro world change same
      refine telling_frames world change fun awt => ?_
      have fields := same awt
      simp only [AWTContext.outsideSetup, Prod.mk.injEq] at fields
      tauto
    · exact fun _ _ _ holds => holds.weaken fun telling => ⟨telling.granted, telling.unstopped⟩
    · intro ret world holds
      split
      · exact holds.weaken Telling.closing
      · exact report_ignores _ rfl world holds
  out _ _ _ holds := holds.weaken Heard.closing
  loops_halt _ _ _ holds := holds
  finish ret world holds := by
    have ended : ReportTracks (Closing start ret)
        (world.update AWTContext.spend) :=
      holds.update fun closing => { closing with }
    refine (report_ignores _ rfl _ ended).weaken fun _ world ended => ?_
    exact report_ignores _ rfl world ended
  releases _ := report_ignores.narrow fun _ silent => reportless_of_part (Or.inr (Or.inr (Call.quiet_of_silent silent)))

private theorem counted_iff (reported : List Detection) : int32 reported.length = reported.length ↔ reported.length < 2 ^ 31 := by
  rw [int32_eq_iff]
  omega

/-- Detections are reported exactly in all runs but those that fail before the counter
is reset and find it at another value than 0, and those with more detections than an
`int` can count. -/
theorem detections_exact_iff (oracle : Oracle Surroundings AWTContext) (fuel : Nat) (filePath : String) (awt : AWTContext) :
    let executed := (awtRun fuel filePath).run oracle ⟨awt, []⟩
    ReportedExactly executed ↔
      ((Awt.reports.seen executed.2.trace).refused → awt.counter = 0) ∧
        ∀ ret, executed.1 = .done ret → (Awt.reports.seen executed.2.trace).detected.length < 2 ^ 31 := by
  have idle : (reportRuns (fun _ _ => True) fuel awt.counter).idle ⟨awt, []⟩ := Observer.Tracks.init awt rfl
  have closes := (reportRuns (fun _ _ => True) fuel awt.counter).sound filePath idle oracle fun _ _ _ _ => trivial
  generalize (awtRun fuel filePath).run oracle ⟨awt, []⟩ = executed at closes ⊢
  dsimp only
  rcases executed with ⟨ret | why, world⟩
  · obtain ⟨kept, closing⟩ : ReportTracks (Closing awt.counter ret) world := closes
    have counter := closing.counter
    constructor
    · intro exactly
      have counted := exactly.counted ret rfl
      rw [counter] at counted
      by_cases refused : (Awt.reports.seen world.trace).refused
      · rw [if_pos refused, closing.silent refused] at counted
        refine ⟨fun _ => counted, fun _ _ => ?_⟩
        rw [← closing.reported, closing.silent refused]
        exact Nat.two_pow_pos 31
      · rw [if_neg refused] at counted
        refine ⟨fun refusal => absurd refusal refused, fun _ _ => ?_⟩
        rw [← closing.reported]
        exact (counted_iff _).mp counted
    · intro ⟨reset, few⟩
      refine ⟨kept, fun _ _ => closing.reported, fun _ _ => ?_, fun stopped => ?_⟩
      · rw [counter]
        split
        next refused => rw [closing.silent refused, reset refused]; rfl
        next =>
          apply (counted_iff _).mpr
          rw [closing.reported]
          exact few ret rfl
      · rw [closing.stopped stopped]
  · obtain ⟨kept, granted, unstopped⟩ : ReportTracks Undisturbed world := closes
    constructor
    · intro _
      refine ⟨fun refused => ?_, fun _ same => nomatch same⟩
      rw [granted] at refused
      cases refused
    · intro _
      refine ⟨kept, (fun _ same => nomatch same), (fun _ same => nomatch same), fun stopped => ?_⟩
      rw [unstopped] at stopped
      cases stopped

/-- A stereo file with a watermark in its first block. -/
def watermarked : Script where
  packets _ := [⟨0, 0⟩]
  yields _ := [pcmFrame 44100 [[1, 2], [3, 4]]]
  blocks n := if n = 0 then ⟨0, [49], 90⟩ else ⟨0, [], 0⟩

/-- The same with no memory for a packet. -/
def outOfMemory : Oracle Surroundings AWTContext
  | _, .avPacketAlloc => false
  | past, call => watermarked.surroundings past call

/-- The run of a context that has just reported a watermark, and gets no memory. -/
def starvedRun : Exit Stop Int × AwtWorld :=
  let first := (awtRun 20 "a").run watermarked.surroundings ⟨awtOpen 44100 1 1 1 60, []⟩
  (awtRun 20 "b").run outOfMemory ⟨first.2.state, []⟩

/-- It has made no report, and counts one. -/
theorem starved_run_counts_last_run : ¬ ReportedExactly starvedRun := by
  intro exactly
  have returned : starvedRun.1 = .done AWT_CODE_SETUP_ERROR := by decide +kernel
  exact absurd (exactly.counted _ returned) (by decide +kernel)

end reports
end Awt
