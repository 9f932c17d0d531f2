import Mathlib.Tactic.IntervalCases
import Awt.Lib.TwoRuns
import Awt.Script

/-! A context from `awt_open` and one from `awt_open2` with the bands of the same preset
take the same way through every session, but for a number in a log text. -/

namespace Awt
open OracleProgram

/-- The text without the number of the preset. -/
def LogMsg.withoutPreset : LogMsg → LogMsg
  | .configure licenseDuration licenseValid _ bottomFreq topFreq framesyncFreq payloadFrames crcPercent payloadLength =>
    .configure licenseDuration licenseValid 0 bottomFreq topFreq framesyncFreq payloadFrames crcPercent payloadLength
  | msg => msg

/-- What the surroundings see of a call: its arguments and what they answered. -/
structure Seen where
  call : Call
  answer : Answer call

def Event.seen : Event → Seen
  | ⟨_, .logCallback level msg ffRet, answer⟩ => ⟨.logCallback level msg.withoutPreset ffRet, answer⟩
  | ⟨_, call, answer⟩ => ⟨call, answer⟩

def Call.rejectsPreset : Call → Bool
  | .logCallback _ (.invalidPreset _) _ => true
  | _ => false

/-- The first call of `awt_setup` that is made in any case. -/
def Call.requestsLicense : Call → Bool
  | .awt5LicenseRequest _ => true
  | _ => false

/-- What `awt_setup` picks the bands from, and the bands. -/
structure Selection where
  payloadLength : Int
  preset : Int
  bands : Bands

def AWTContext.selection (awt : AWTContext) : Selection where
  payloadLength := awt.payloadLength
  preset := awt.preset
  bands := ⟨awt.bottomFreq, awt.topFreq, awt.framesyncFreq, awt.payloadFrames, awt.crcPercent⟩

def AWTContext.withoutPreset (awt : AWTContext) : AWTContext := { awt with preset := 0 }

def AWTContext.withoutBands (awt : AWTContext) : AWTContext :=
  { awt.withoutPreset with bottomFreq := 0, topFreq := 0, framesyncFreq := 0, payloadFrames := 0, crcPercent := 0 }

def noBands : Bands := ⟨0, 0, 0, 0, 0⟩

/-- A preset that was asked for and the one that `awt_setup` takes for it. -/
structure Choice where
  payloadLength : Int
  asked : Int
  preset : Int
  bands : Bands
  asks : asked ≠ 0
  chosen : (if asked = -1 then autoPreset payloadLength else asked) = preset
  known : presetBands preset = some bands

section choice

variable (choice : Choice)

/-- Both contexts use the bands, and only one knows the preset. -/
structure Choice.Settled (past : List Seen) (left right : Selection) : Prop where
  left : left = ⟨choice.payloadLength, choice.preset, choice.bands⟩
  right : right = ⟨choice.payloadLength, 0, choice.bands⟩
  accepted : ∀ event ∈ past, event.call.rejectsPreset = false

/-- Until the first setup, one context has a preset to choose and the other the bands. -/
structure Choice.Pending (past : List Seen) (left right : Selection) : Prop where
  left : left = ⟨choice.payloadLength, choice.preset, choice.bands⟩ ∨
    left = ⟨choice.payloadLength, choice.asked, noBands⟩ ∧ ∀ event ∈ past, event.call.requestsLicense = false
  right : right = ⟨choice.payloadLength, 0, choice.bands⟩
  accepted : ∀ event ∈ past, event.call.rejectsPreset = false

theorem seen_blind (before after : AWTContext) (call : Call) (answer : Answer call) :
    Event.seen ⟨before, call, answer⟩ = Event.seen ⟨after, call, answer⟩ := by
  cases call <;> rfl

theorem seen_call (event : Event) : (event.seen.call.rejectsPreset = event.call.rejectsPreset) ∧
    event.seen.call.requestsLicense = event.call.requestsLicense := by
  obtain ⟨before, call, answer⟩ := event
  cases call with
  | logCallback level msg ffRet => cases msg <;> exact ⟨rfl, rfl⟩
  | _ => exact ⟨rfl, rfl⟩

private theorem all_concat {good : Seen → Prop} {past : List Seen} {event : Seen} (before : ∀ seen ∈ past, good seen)
    (last : good event) : ∀ seen ∈ past ++ [event], good seen := by
  intro seen member
  rcases List.mem_append.mp member with earlier | rest
  · exact before seen earlier
  · rw [List.mem_singleton.mp rest]
    exact last

def Choice.settled : Likeness Event.seen Selection where
  view := AWTContext.withoutPreset
  hidden := AWTContext.selection
  apart := choice.Settled
  kind call := !call.rejectsPreset
  blind := seen_blind
  keeps past before call answer _ _ kind settled := by
    refine ⟨settled.left, settled.right, all_concat settled.accepted ?_⟩
    rw [(seen_call _).1]
    simpa using kind

def Choice.pending : Likeness Event.seen Selection where
  view := AWTContext.withoutBands
  hidden := AWTContext.selection
  apart := choice.Pending
  kind call := !call.rejectsPreset && !call.requestsLicense
  blind := seen_blind
  keeps past before call answer _ _ kind pending := by
    obtain ⟨accepts, quiet⟩ := Bool.and_eq_true_iff.mp kind
    refine ⟨pending.left.imp_right fun left => ⟨left.1, all_concat left.2 ?_⟩, pending.right,
      all_concat pending.accepted ?_⟩
    · rw [(seen_call _).2]
      simpa using quiet
    · rw [(seen_call _).1]
      simpa using accepts

variable {choice} {env : List Seen → (call : Call) → Answer call}

private theorem readTurn_settled (allocated : Bool) (stored : List UInt8) :
    choice.settled.Keeps env (readTurn allocated stored) := by
  refine .call_bind rfl fun result => ?_
  cases result with
  | ended code => exact .ret
  | bytes chunk nonempty fits =>
    dsimp only
    split
    · exact .stop
    split
    · exact .stop
    · exact .ret

private theorem report_seen (licenseDuration licenseValid : Int) (awt : AWTContext) :
    (awt.storeReport licenseDuration licenseValid).withoutPreset =
      (awt.withoutPreset.storeReport licenseDuration licenseValid).withoutPreset := rfl

private theorem report_hidden (licenseDuration licenseValid : Int) (awt : AWTContext) :
    (awt.storeReport licenseDuration licenseValid).selection = awt.selection := rfl

private theorem awtLicense_settled (fuel : Nat) (decode : Int) : choice.settled.Keeps env (awtLicense fuel decode) := by
  refine .call_bind rfl fun licenseRequest => ?_
  cases licenseRequest with
  | none => exact .call_bind rfl fun _ => .ret
  | some licenseRequest =>
  dsimp only
  split
  · exact .stop
  refine .call_bind rfl fun _ => ?_
  refine .call_bind rfl fun opened => ?_
  split
  · exact .call_bind rfl fun _ => .ret
  refine .call_bind rfl fun allocated => ?_
  refine .modify_bind (fun _ => rfl) (fun _ => rfl) ?_
  refine .bind (.loop (readTurn_settled allocated) fuel []) fun (license, ret) => ?_
  refine .call_bind rfl fun _ => ?_
  split
  · exact .call_bind rfl fun _ => .ret
  split
  · exact .stop
  refine .modify_bind (fun _ => rfl) (fun _ => rfl) ?_
  refine .call_bind rfl fun info => ?_
  split
  · exact .call_bind rfl fun _ => .ret
  · exact .modify_bind (report_seen _ _) (report_hidden _ _) .ret

private theorem initDecoder_settled (i : Nat) : choice.settled.Keeps env (initDecoder i) := by
  refine .get_bind (fun _ => rfl) fun awt => ?_
  refine .count_bind fun decObj => ?_
  refine .call_bind rfl fun result => ?_
  refine .modify_bind (fun _ => rfl) (fun _ => rfl) ?_
  split
  · exact .call_bind rfl fun _ => .call_bind rfl fun _ => .ret
  refine .modify_bind (fun _ => rfl) (fun _ => rfl) ?_
  refine .get_bind (fun _ => rfl) fun awt => ?_
  refine .call_bind rfl fun allocated => ?_
  exact .modify_bind (fun _ => rfl) (fun _ => rfl) .ret

private theorem preset_in_range {preset : Int} {bands : Bands} (known : presetBands preset = some bands) :
    1 ≤ preset ∧ preset ≤ 10 := by
  unfold presetBands at known
  split at known <;> first | omega | cases known

private theorem awtSetupPreset_chosen (oracle : Oracle Surroundings AWTContext) (world : AwtWorld) {bands : Bands}
    (asks : world.state.preset ≠ 0) (known : presetBands world.state.choosePreset.preset = some bands) :
    awtSetupPreset.run oracle world =
      (.done none, (world.update AWTContext.choosePreset).update AWTContext.useBands) := by
  have range := preset_in_range known
  have valid : ¬ ((world.update AWTContext.choosePreset).state.preset = -1 ∨
      10 < (world.update AWTContext.choosePreset).state.preset) := by
    rw [World.update_state]
    omega
  change (if world.state.preset = 0 then (pure none : AwtM (Option Int)) else _).run oracle world = _
  rw [if_neg asks]
  change (if (world.update AWTContext.choosePreset).state.preset = -1 ∨ _ then _ else _ : AwtM (Option Int)).run oracle
    (world.update AWTContext.choosePreset) = _
  rw [if_neg valid]
  rfl

private theorem awtSetupPreset_unasked (oracle : Oracle Surroundings AWTContext) (world : AwtWorld)
    (unasked : world.state.preset = 0) : awtSetupPreset.run oracle world = (.done none, world) := by
  simp only [awtSetupPreset, bind, Program.andThen, Program.get, if_pos unasked]
  rfl

/-- A setup finds the bands of the choice, at the first time and ever after. -/
private theorem useBands_selection {awt : AWTContext} (chosen : awt.choosePreset.preset = choice.preset)
    (length : awt.payloadLength = choice.payloadLength) :
    awt.choosePreset.useBands.selection = ⟨choice.payloadLength, choice.preset, choice.bands⟩ := by
  have same : awt.choosePreset.payloadLength = choice.payloadLength := by
    unfold AWTContext.choosePreset
    split <;> exact length
  have known := choice.known
  rw [← chosen] at known
  rw [AWTContext.useBands, known]
  simp only [AWTContext.selection, same, chosen]

private theorem useBands_withoutBands (awt : AWTContext) :
    awt.choosePreset.useBands.withoutBands = awt.withoutBands := by
  unfold AWTContext.useBands AWTContext.choosePreset
  split <;> split <;> rfl

private theorem withoutPreset_eq {left right : AWTContext} (same : left.withoutBands = right.withoutBands)
    (bands : left.selection.bands = right.selection.bands) : left.withoutPreset = right.withoutPreset := by
  simp only [AWTContext.withoutBands, AWTContext.withoutPreset, AWTContext.selection, AWTContext.mk.injEq,
    Bands.mk.injEq] at same bands ⊢
  tauto

private theorem choosePreset_chosen {left : Selection} {awt : AWTContext} {past : List Seen} {right : Selection}
    (pending : choice.Pending past left right) (same : awt.selection = left) :
    awt.preset ≠ 0 ∧ awt.choosePreset.preset = choice.preset ∧ awt.payloadLength = choice.payloadLength := by
  have range := preset_in_range choice.known
  have asks := choice.asks
  rcases pending.left with chosen | ⟨asked, _⟩
  · rw [chosen] at same
    have preset : awt.preset = choice.preset := congrArg Selection.preset same
    refine ⟨by omega, ?_, congrArg Selection.payloadLength same⟩
    rw [AWTContext.choosePreset, if_neg (by omega), preset]
  · rw [asked] at same
    have preset : awt.preset = choice.asked := congrArg Selection.preset same
    have length : awt.payloadLength = choice.payloadLength := congrArg Selection.payloadLength same
    refine ⟨by omega, ?_, length⟩
    rw [← choice.chosen, ← preset, ← length]
    unfold AWTContext.choosePreset
    split <;> rfl

private theorem awtSetupPreset_settles {left right : AwtWorld} (twins : choice.pending.Twins left right) :
    Alike (Oracle.seeing Event.seen env) awtSetupPreset awtSetupPreset
      (fun value left right => value = none ∧ choice.settled.Twins left right) choice.pending.Twins left right := by
  obtain ⟨asks, chosen, length⟩ := choosePreset_chosen twins.apart rfl
  have selected := useBands_selection chosen length
  have unasked : right.state.preset = 0 := congrArg Selection.preset twins.apart.right
  unfold Alike
  rw [awtSetupPreset_chosen _ left asks (by rw [chosen]; exact choice.known), awtSetupPreset_unasked _ right unasked]
  refine ⟨rfl, rfl, twins.trace, ?_, selected, twins.apart.right, twins.apart.accepted⟩
  apply withoutPreset_eq
  · exact (useBands_withoutBands left.state).trans twins.view
  · change left.state.choosePreset.useBands.selection.bands = right.state.selection.bands
    rw [selected, show right.state.selection = _ from twins.apart.right]

private theorem Choice.pending_of_settled {left right : AwtWorld} (twins : choice.settled.Twins left right) :
    choice.pending.Twins left right where
  trace := twins.trace
  view := by
    have same : left.state.withoutPreset = right.state.withoutPreset := twins.view
    change left.state.withoutPreset.withoutBands = right.state.withoutPreset.withoutBands
    rw [same]
  apart := ⟨.inl twins.apart.left, twins.apart.right, twins.apart.accepted⟩

/-- What the log shows of a setup. -/
private def AWTContext.configuration (awt : AWTContext) : LogMsg :=
  .configure awt.licenseDuration awt.licenseValid awt.preset awt.bottomFreq awt.topFreq awt.framesyncFreq
    awt.payloadFrames awt.crcPercent awt.payloadLength

private theorem configuration_eq {left right : AWTContext} (same : left.withoutPreset = right.withoutPreset) :
    left.configuration.withoutPreset = right.configuration.withoutPreset := by
  change left.withoutPreset.configuration.withoutPreset = right.withoutPreset.configuration.withoutPreset
  rw [same]

/-- The one call that tells the two contexts apart. -/
private theorem logConfigure_settled (ret : Int) {left right : AwtWorld} (twins : choice.settled.Twins left right) :
    Alike (Oracle.seeing Event.seen env) (logInfo left.state.configuration ret) (logInfo right.state.configuration ret)
      (fun _ => choice.settled.Twins) choice.pending.Twins left right := by
  have same := congrArg (fun msg => (⟨.logCallback .info msg (some ret), ()⟩ : Seen)) (configuration_eq twins.view)
  refine ⟨rfl, ?_, twins.view, twins.apart.left, twins.apart.right, ?_⟩
  · rw [World.record_trace, World.record_trace, List.map_append, List.map_append, twins.trace]
    exact congrArg (List.map Event.seen right.trace ++ [·]) same
  · rw [World.record_trace, List.map_append]
    exact all_concat twins.apart.accepted rfl

/-- The rest of `awt_setup`, behind the settings. -/
private def initDecoders (channels : Int) : AwtM Int := do
  Program.modify fun awt => { awt with nbDecoder := min AWT_MAX_DECODER channels }
  let awt ← Program.get
  match ← Program.each initDecoder (indices awt.nbDecoder) with
  | some ret => return ret
  | none => return 0

private theorem initDecoders_settled (channels : Int) : choice.settled.Keeps env (initDecoders channels) := by
  refine .modify_bind (fun _ => rfl) (fun _ => rfl) ?_
  refine .get_bind (fun _ => rfl) fun awt => ?_
  refine .bind (.each initDecoder_settled _) fun result => ?_
  cases result <;> exact .ret

private theorem awtSetup_pending (fuel : Nat) (channels : Int) : choice.pending.Keeps env (awtSetup fuel channels) := by
  intro left right twins
  apply (awtSetupPreset_settles twins).seq
  rintro _ left right ⟨rfl, twins⟩
  have settled : choice.settled.Keeps env (awtLicense fuel 1) := awtLicense_settled fuel 1
  have licensed := (settled left right twins).weaken (fun _ _ _ twins => twins) fun _ _ => Choice.pending_of_settled
  apply licensed.seq
  intro ret left right twins
  by_cases failed : ret ≠ 0
  · simp only [if_pos failed]
    exact Alike.ret (Choice.pending_of_settled twins)
  simp only [if_neg failed]
  apply Alike.get_bind
  apply (logConfigure_settled ret twins).seq
  intro _ left right twins
  have created : choice.settled.Keeps env (initDecoders channels) := initDecoders_settled channels
  exact (created left right twins).weaken (fun _ _ _ => Choice.pending_of_settled) fun _ _ => Choice.pending_of_settled

private theorem awtOpenInput_pending (filename : String) : choice.pending.Keeps env (awtOpenInput filename) := by
  refine .call_bind rfl fun allocated => ?_
  split
  · exact .stop
  refine .call_bind rfl fun code => ?_
  split
  · exact .call_bind rfl fun _ => .ret
  refine .call_bind rfl fun code => ?_
  split
  · exact .call_bind rfl fun _ => .ret
  refine .call_bind rfl fun best => ?_
  split
  · exact .call_bind rfl fun _ => .ret
  refine .call_bind rfl fun allocated => ?_
  split
  · exact .ret
  refine .call_bind rfl fun _ => ?_
  refine .call_bind rfl fun codec => ?_
  split
  · exact .call_bind rfl fun _ => .ret
  · exact .ret

private theorem configureGraph_pending (filtersDescr : String) (src : BufferSrc) (sink : BufferSink) :
    choice.pending.Keeps env (configureGraph filtersDescr src sink) := by
  refine .call_bind rfl fun code => ?_
  split
  · exact .call_bind rfl fun _ => .ret
  refine .call_bind rfl fun code => ?_
  split
  · exact .call_bind rfl fun _ => .ret
  refine .call_bind rfl fun code => ?_
  split
  · exact .call_bind rfl fun _ => .ret
  refine .call_bind rfl fun code => ?_
  split
  · exact .call_bind rfl fun _ => .ret
  refine .call_bind rfl fun code => ?_
  split
  · exact .call_bind rfl fun _ => .ret
  refine .call_bind rfl fun code => ?_
  split
  · exact .ret
  refine .call_bind rfl fun code => ?_
  split
  · exact .ret
  · exact .modify_bind (fun _ => rfl) (fun _ => rfl) .ret

private theorem awtInitFilters_pending (filtersDescr : String) (format : AVSampleFormat) (channels : Int) (input : Input) :
    choice.pending.Keeps env (awtInitFilters filtersDescr format channels input) := by
  refine .get_bind (fun _ => rfl) fun awt => ?_
  refine .call_bind rfl fun outputs => ?_
  refine .call_bind rfl fun inputs => ?_
  refine .call_bind rfl fun filterGraph => ?_
  refine .bind ?_ fun ret => .call_bind rfl fun _ => .call_bind rfl fun _ => .bind ?_ fun _ => .ret
  · unfold buildGraph
    split
    · exact .ret
    refine .bind ?_ fun _ => configureGraph_pending _ _ _
    unfold fillLayout
    split
    · exact .call rfl
    · exact .ret
  · unfold discardGraph
    split
    · exact .call rfl
    · exact .ret

private theorem copyPlane_pending (frame : AVFrame) (off count : Int) (i : Nat) :
    choice.pending.Keeps env (copyPlane frame off count i) := by
  refine .get_bind (fun _ => rfl) fun awt => ?_
  refine .call_bind rfl fun _ => ?_
  split
  · exact .stop
  · exact .stop
  split
  · exact .stop
  · exact .modify_bind (fun _ => rfl) (fun _ => rfl) .ret

private theorem decodeBlock_pending (i : Nat) : choice.pending.Keeps env (decodeBlock i) := by
  refine .get_bind (fun _ => rfl) fun awt => ?_
  refine .call_bind rfl fun result => ?_
  split
  · exact .call_bind rfl fun _ => .call_bind rfl fun _ => .ret
  split
  · exact .ret
  refine .modify_bind (fun _ => rfl) (fun _ => rfl) ?_
  refine .call_bind rfl fun stop => ?_
  split
  · exact .ret
  · exact .ret

private theorem filterTurn_pending (channels : Int) (frame : AVFrame) (off : Int) :
    choice.pending.Keeps env (filterTurn channels frame off) := by
  unfold filterTurn
  split
  · exact .ret
  refine .get_bind (fun _ => rfl) fun awt => ?_
  refine .bind (.each (copyPlane_pending frame off _) _) fun _ => ?_
  refine .modify_bind (fun _ => rfl) (fun _ => rfl) ?_
  refine .get_bind (fun _ => rfl) fun awt => ?_
  split
  · exact .ret
  refine .modify_bind (fun _ => rfl) (fun _ => rfl) ?_
  refine .bind (.each decodeBlock_pending _) fun result => ?_
  cases result <;> exact .ret

private theorem awtFilterFrame_pending (fuel : Nat) (frame : AVFrame) :
    choice.pending.Keeps env (awtFilterFrame fuel frame) :=
  .get_bind (fun _ => rfl) fun _ => .loop (filterTurn_pending _ frame) fuel 0

private theorem sinkTurn_pending (fuel : Nat) (turn : Unit) : choice.pending.Keeps env (sinkTurn fuel turn) := by
  refine .call_bind rfl fun result => ?_
  split
  · exact .ret
  split
  · exact .ret
  refine .bind (awtFilterFrame_pending fuel _) fun ret => ?_
  refine .call_bind rfl fun _ => ?_
  split
  · exact .ret
  · exact .ret

private theorem receiveTurn_pending (fuel : Nat) (ret : Int) : choice.pending.Keeps env (receiveTurn fuel ret) := by
  unfold receiveTurn
  split
  · exact .ret
  refine .call_bind rfl fun result => ?_
  split
  · exact .ret
  split
  · exact .call_bind rfl fun _ => .ret
  refine .call_bind rfl fun code => ?_
  split
  · exact .call_bind rfl fun _ => .ret
  refine .bind (.loop (sinkTurn_pending fuel) fuel ()) fun jump => ?_
  cases jump with
  | out ret => exact .ret
  | past ret => exact .call_bind rfl fun _ => .ret

private theorem keepTime_pending (st : AVStream) (startTime : Int) (startPts pts : Option Int) :
    choice.pending.Keeps env (keepTime st startTime startPts pts) := by
  cases pts with
  | none => exact .ret
  | some pts =>
  simp only [keepTime]
  split
  · exact .stop
  refine .modify_bind (fun _ => rfl) (fun _ => rfl) ?_
  refine .call_bind rfl fun now => ?_
  refine .get_bind (fun _ => rfl) fun awt => ?_
  split
  · exact .call_bind rfl fun _ => .ret
  refine .bind ?_ fun _ => .ret
  unfold usleepFor
  split
  · exact .call rfl
  · exact .ret

private theorem packetTurn_pending (fuel : Nat) (st : AVStream) (startTime : Int) (clock : Clock) :
    choice.pending.Keeps env (packetTurn fuel st startTime clock) := by
  refine .call_bind rfl fun running => ?_
  split
  · exact .ret
  refine .call_bind rfl fun result => ?_
  split
  · exact .ret
  split
  · exact .call_bind rfl fun _ => .ret
  refine .bind (keepTime_pending st startTime _ _) fun startPts => ?_
  cases startPts with
  | none => exact .ret
  | some startPts =>
  have decoded : choice.pending.Keeps env (decodePacket fuel result.packet) := by
    refine .call_bind rfl fun code => ?_
    split
    · exact .call_bind rfl fun _ => .ret
    · exact .loop (receiveTurn_pending fuel) fuel _
  refine .bind decoded fun jump => ?_
  cases jump with
  | out ret => exact .ret
  | past ret => exact .call_bind rfl fun _ => .ret

private theorem needFilters_pending (input : Input) : choice.pending.Keeps env (needFilters input) := by
  refine .get_bind (fun _ => rfl) fun awt => ?_
  split
  · exact .ret
  · exact .bind (awtInitFilters_pending _ _ _ _) fun ret => .call_bind rfl fun _ => .ret

private theorem needSetup_pending (fuel : Nat) (input : Input) : choice.pending.Keeps env (needSetup fuel input) := by
  refine .get_bind (fun _ => rfl) fun awt => ?_
  split
  · exact .ret
  · exact .bind (awtSetup_pending fuel _) fun ret => .call_bind rfl fun _ => .ret

private theorem takeRate_withoutBands (input : Input) (awt : AWTContext) :
    (awt.takeRate input).withoutBands = (awt.withoutBands.takeRate input).withoutBands := by
  by_cases unset : awt.sampleRate < 1
  · rw [AWTContext.takeRate, if_pos unset, AWTContext.takeRate, if_pos (show awt.withoutBands.sampleRate < 1 from unset)]
    rfl
  · rw [AWTContext.takeRate, if_neg unset, AWTContext.takeRate, if_neg (show ¬ awt.withoutBands.sampleRate < 1 from unset)]
    rfl

private theorem takeRate_selection (input : Input) (awt : AWTContext) : (awt.takeRate input).selection = awt.selection := by
  unfold AWTContext.takeRate
  split <;> rfl

private theorem awtRunBody_pending (fuel : Nat) (filePath : String) (startTime : Int) (allocated : Bool) :
    choice.pending.Keeps env (awtRunBody fuel filePath startTime allocated) := by
  unfold awtRunBody
  split
  · exact .ret
  refine .modify_bind (fun _ => rfl) (fun _ => rfl) ?_
  refine .bind (awtOpenInput_pending filePath) fun opened => ?_
  refine .call_bind rfl fun _ => ?_
  cases opened with
  | error ret => exact .ret
  | ok input =>
  refine .modify_bind (takeRate_withoutBands input) (takeRate_selection input) ?_
  refine .bind (needFilters_pending input) fun ret => ?_
  split
  · exact .ret
  refine .bind (needSetup_pending fuel input) fun ret => ?_
  split
  · exact .ret
  refine .get_bind (fun _ => rfl) fun awt => ?_
  refine .call_bind rfl fun _ => ?_
  exact .bind (.loop (packetTurn_pending fuel input.st startTime) fuel _) fun ret => .ret

theorem awtRun_pending (fuel : Nat) (filePath : String) : choice.pending.Keeps env (awtRun fuel filePath) := by
  refine .call_bind rfl fun packet => ?_
  refine .call_bind rfl fun frame => ?_
  refine .call_bind rfl fun filtFrame => ?_
  refine .call_bind rfl fun startTime => ?_
  refine .bind (awtRunBody_pending fuel filePath startTime _) fun ret => ?_
  refine .modify_bind (fun _ => rfl) (fun _ => rfl) ?_
  refine .call_bind rfl fun _ => ?_
  refine .get_bind (fun _ => rfl) fun awt => ?_
  refine .call_bind rfl fun _ => ?_
  refine .call_bind rfl fun _ => .call_bind rfl fun _ => .call_bind rfl fun _ => ?_
  exact .call_bind rfl fun _ => .call_bind rfl fun _ => .ret

theorem closeContext_pending : choice.pending.Keeps env closeContext := by
  refine .get_bind (fun _ => rfl) fun awt => ?_
  refine .bind (.each (fun i => ?_) _) fun _ => ?_
  · exact .get_bind (fun _ => rfl) fun awt => .call_bind rfl fun _ => .call_bind rfl fun _ => .ret
  refine .modify_bind (fun _ => rfl) (fun _ => rfl) ?_
  exact .call_bind rfl fun _ => .call_bind rfl fun _ => .call rfl

/-- Two slots that hold twins, or nothing after the same calls. -/
def Choice.TwinSlots (choice : Choice) : Option AWTContext × History → Option AWTContext × History → Prop
  | (some awt, past), (some other, history) => choice.pending.Twins ⟨awt, past⟩ ⟨other, history⟩
  | (none, past), (none, history) =>
    past.map Event.seen = history.map Event.seen ∧ ∀ event ∈ past.map Event.seen, event.call.rejectsPreset = false
  | _, _ => False

structure Choice.TwinSessions (choice : Choice) (first second : Session) : Prop where
  slots : choice.TwinSlots (first.slot, first.trace) (second.slot, second.trace)
  returned : first.returned = second.returned
  stuck : first.stuck = second.stuck

private theorem TwinSessions.resume {first second : Session} (returned : first.returned = second.returned)
    {executed finished : Exit Stop Int × AwtWorld} (slot : AWTContext → Option AWTContext)
    (same : SameEnd (fun _ => choice.pending.Twins) choice.pending.Twins executed finished)
    (slots : ∀ left right : AwtWorld, choice.pending.Twins left right →
      choice.TwinSlots (slot left.state, left.trace) (slot right.state, right.trace)) :
    choice.TwinSessions (first.resume executed slot) (second.resume finished slot) := by
  rcases executed with ⟨ret | why, left⟩ <;> rcases finished with ⟨other | reason, right⟩
  · obtain ⟨rfl, twins⟩ := same
    exact ⟨slots left right twins, congrArg (· ++ [ret]) returned, rfl⟩
  · exact same.elim
  · exact same.elim
  · obtain ⟨rfl, twins⟩ := same
    exact ⟨twins, returned, rfl⟩

private theorem TwinSessions.request {first second : Session} (twins : choice.TwinSessions first second) (fuel : Nat)
    (request : Request) :
    choice.TwinSessions (first.request (Oracle.seeing Event.seen env) fuel request)
      (second.request (Oracle.seeing Event.seen env) fuel request) := by
  obtain ⟨slot, past, returned, stuck⟩ := first
  obtain ⟨otherSlot, history, otherReturned, otherStuck⟩ := second
  obtain ⟨slots, same, stopped⟩ := twins
  dsimp only at slots same stopped
  subst same stopped
  cases stuck with
  | some why => cases request <;> exact ⟨slots, rfl, rfl⟩
  | none =>
  cases slot with
  | none =>
    cases otherSlot with
    | none => cases request <;> exact ⟨slots, rfl, rfl⟩
    | some other => exact slots.elim
  | some awt =>
    cases otherSlot with
    | none => exact slots.elim
    | some other =>
    cases request with
    | exec filePath =>
      exact TwinSessions.resume rfl some (awtRun_pending fuel filePath _ _ slots) fun _ _ twins => twins
    | close =>
      have closed : choice.pending.Keeps env (closeContext >>= fun _ => pure (0 : Int)) :=
        .bind closeContext_pending fun _ => .ret
      exact TwinSessions.resume rfl (fun _ => none) (closed _ _ slots) fun _ _ twins => ⟨twins.trace, twins.apart.accepted⟩

private theorem TwinSessions.run {first second : Session} (twins : choice.TwinSessions first second) (fuel : Nat)
    (requests : List Request) :
    choice.TwinSessions (first.run (Oracle.seeing Event.seen env) fuel requests)
      (second.run (Oracle.seeing Event.seen env) fuel requests) := by
  induction requests generalizing first second with
  | nil => exact twins
  | cons request requests ih => exact ih (TwinSessions.request twins fuel request)

/-- Two sessions that are the same in all that is seen of them, and in their contexts but
for the preset and, before the first setup, the bands. -/
structure SameSessions (first second : Session) : Prop where
  calls : first.trace.map Event.seen = second.trace.map Event.seen
  returned : first.returned = second.returned
  stuck : first.stuck = second.stuck
  slots : first.slot.map AWTContext.withoutBands = second.slot.map AWTContext.withoutBands
  setUp : (∃ event ∈ first.trace, event.call.requestsLicense) →
    first.slot.map AWTContext.withoutPreset = second.slot.map AWTContext.withoutPreset
  accepted : ∀ event ∈ first.trace ++ second.trace, event.call.rejectsPreset = false

private theorem Choice.Pending.setUp {past : List Seen} {left right : AWTContext}
    (pending : choice.Pending past left.selection right.selection) (same : left.withoutBands = right.withoutBands)
    (requested : ∃ event ∈ past, event.call.requestsLicense) : left.withoutPreset = right.withoutPreset := by
  apply withoutPreset_eq same
  rcases pending.left with chosen | ⟨_, unrequested⟩
  · rw [chosen, pending.right]
  · obtain ⟨event, member, requests⟩ := requested
    rw [unrequested event member] at requests
    cases requests

private theorem accepted_both {first second : History} (same : first.map Event.seen = second.map Event.seen)
    (accepted : ∀ event ∈ first.map Event.seen, event.call.rejectsPreset = false) :
    ∀ event ∈ first ++ second, event.call.rejectsPreset = false := by
  intro event member
  rw [← (seen_call event).1]
  apply accepted
  rcases List.mem_append.mp member with one | other
  · exact List.mem_map_of_mem one
  · rw [same]
    exact List.mem_map_of_mem other

private theorem TwinSessions.same {first second : Session} (twins : choice.TwinSessions first second) :
    SameSessions first second := by
  obtain ⟨slot, past, returned, stuck⟩ := first
  obtain ⟨otherSlot, history, otherReturned, otherStuck⟩ := second
  obtain ⟨slots, same, stopped⟩ := twins
  cases slot with
  | none =>
    cases otherSlot with
    | none => exact ⟨slots.1, same, stopped, rfl, fun _ => rfl, accepted_both slots.1 slots.2⟩
    | some other => exact slots.elim
  | some awt =>
    cases otherSlot with
    | none => exact slots.elim
    | some other =>
    refine ⟨slots.trace, same, stopped, congrArg some slots.view, fun ⟨event, member, requests⟩ => ?_,
      accepted_both slots.trace slots.apart.accepted⟩
    rw [← (seen_call event).2] at requests
    exact congrArg some (slots.apart.setUp slots.view ⟨Event.seen event, List.mem_map_of_mem member, requests⟩)

/-- The preset that `awt_setup` takes for the arguments of `awt_open`. -/
def selectedPreset (preset payloadLength : Int) : Int :=
  if preset = -1 then autoPreset (max 1 (min 4 payloadLength)) else max 1 (min 10 preset)

private theorem presetBands_known {preset : Int} (low : 1 ≤ preset) (high : preset ≤ 10) :
    ∃ bands, presetBands preset = some bands := by
  interval_cases preset <;> exact ⟨_, rfl⟩

theorem selectedPreset_range (preset payloadLength : Int) :
    1 ≤ selectedPreset preset payloadLength ∧ selectedPreset preset payloadLength ≤ 10 := by
  unfold selectedPreset
  split
  · have low : 1 ≤ max 1 (min 4 payloadLength) := le_max_left ..
    have high : max 1 (min 4 payloadLength) ≤ 4 := by omega
    generalize max 1 (min 4 payloadLength) = length at low high
    interval_cases length <;> decide
  · omega

/-- Every session of a context from `awt_open` is that of one from `awt_open2` with the
bands of the preset, but for the preset itself in the log of a setup. -/
theorem opened_alike (env : List Seen → (call : Call) → Answer call) (fuel : Nat)
    (sampleRate preset payloadLength : Int) (speed : Rat) (second : Int) (requests : List Request) :
    ∃ bands, presetBands (selectedPreset preset payloadLength) = some bands ∧
      SameSessions
        ((Session.opened (awtOpen sampleRate preset payloadLength speed second)).run
          (Oracle.seeing Event.seen env) fuel requests)
        ((Session.opened (awtOpen2 sampleRate bands.bottomFreq bands.topFreq bands.framesyncFreq bands.payloadFrames
            bands.crcPercent payloadLength speed second)).run (Oracle.seeing Event.seen env) fuel requests) := by
  obtain ⟨low, high⟩ := selectedPreset_range preset payloadLength
  obtain ⟨bands, known⟩ := presetBands_known low high
  refine ⟨bands, known, ?_⟩
  let choice : Choice :=
    { payloadLength := max 1 (min 4 payloadLength)
      asked := if preset ≠ -1 then max 1 (min 10 preset) else -1
      preset := selectedPreset preset payloadLength
      bands := bands
      asks := by split <;> omega
      chosen := by
        unfold selectedPreset
        by_cases unasked : preset = -1
        · rw [if_neg (not_not.mpr unasked), if_pos rfl, if_pos unasked]
        · rw [if_pos unasked, if_neg (by omega), if_neg unasked]
      known := known }
  have twins : choice.TwinSessions (Session.opened (awtOpen sampleRate preset payloadLength speed second))
      (Session.opened (awtOpen2 sampleRate bands.bottomFreq bands.topFreq bands.framesyncFreq bands.payloadFrames
        bands.crcPercent payloadLength speed second)) :=
    ⟨⟨rfl, rfl, .inr ⟨rfl, by simp [Session.opened]⟩, rfl, by simp [Session.opened]⟩, rfl, rfl⟩
  exact TwinSessions.same (TwinSessions.run twins fuel requests)

/-- The texts that a log callback is given. -/
def loggedTexts (history : History) : List LogMsg :=
  history.filterMap fun event => match event.call with
    | .logCallback _ msg _ => some msg
    | _ => none

/-- The log of a setup shows the preset of the one context, and 0 for the other. -/
theorem log_shows_preset :
    let first := ({} : Script).session (awtOpen 44100 4 1 1 0) [.exec "a"]
    let second := ({} : Script).session (awtOpen2 44100 1750 11000 2500 1 20 1 1 0) [.exec "a"]
    first.returned = [0] ∧ second.returned = [0] ∧ loggedTexts first.trace ≠ loggedTexts second.trace := by
  decide +kernel

end choice
end Awt
