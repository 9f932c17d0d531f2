import Mathlib.Data.List.Induction
import Awt.Proofs.BlockOutline
import Awt.Script

/-! Whether the two channel decoders see the same samples, block by block. -/

namespace Awt
open OracleProgram

/-- A copy of `count` samples, from `off` on, out of the frame with this number. -/
structure Copy where
  frame : Nat
  off : Int
  count : Int
  deriving DecidableEq

def Copy.samples (copy : Copy) : List (Nat × Int) :=
  (List.range copy.count.toNat).map fun k => (copy.frame, copy.off + k)

/-- Where the samples of each channel's buffer and blocks come from. `skips` counts
how often channel 0 ended the decode loop before channel 1 had its turn. -/
structure Positions where
  frames : Nat
  filling : Nat → List Copy
  handed : Nat → List (List Copy)
  skips : Nat

namespace Positions

/-- A copy to the start of a buffer begins a new block. -/
def copy (positions : Positions) (i : Nat) (dstOff off count : Int) : Positions :=
  let before := if dstOff = 0 then [] else positions.filling i
  { positions with filling := Function.update positions.filling i (before ++ [⟨positions.frames, off, count⟩]) }

def hand (positions : Positions) (i : Nat) : Positions :=
  { positions with handed := Function.update positions.handed i (positions.handed i ++ [positions.filling i]) }

def skip (positions : Positions) (skipped : Bool) : Positions :=
  { positions with skips := if skipped then positions.skips + 1 else positions.skips }

end Positions

/-- A decoder error or a stop on channel 0. -/
def skipsChannel : Event → Bool
  | ⟨_, .awt5DecodeStreamBuffer i _ _, result⟩ => i = 0 ∧ result.ret ≠ 0
  | ⟨_, .callback i _ _ _, stop⟩ => i = 0 ∧ stop ≠ (0 : Int)
  | _ => false

def blockPositions : Observer Surroundings AWTContext Positions where
  init := ⟨0, fun _ => [], fun _ => [], 0⟩
  step positions event := (match event with
    | ⟨_, .avBuffersinkGetFrame, result⟩ =>
      if result.code.val < 0 then positions else { positions with frames := positions.frames + 1 }
    | ⟨_, .memcpy i dstOff off count, _⟩ => positions.copy i dstOff off count
    | ⟨_, .awt5DecodeStreamBuffer i _ _, _⟩ => positions.hand i
    | _ => positions).skip (skipsChannel event)

/-- Both decoders were handed the same number of blocks, over the same samples. -/
def Lockstep (trace : History) : Prop :=
  ((blockPositions.seen trace).handed 0).map (·.flatMap Copy.samples) =
    ((blockPositions.seen trace).handed 1).map (·.flatMap Copy.samples)

instance (trace : History) : Decidable (Lockstep trace) :=
  inferInstanceAs (Decidable (_ = _))

/-- The calls that come once for every channel. -/
def Call.isPaired : Call → Bool
  | .memcpy _ _ _ _ | .awt5DecodeStreamBuffer _ _ _ | .callback _ _ _ _ => true
  | _ => false

/-- Whenever a block is filled or handed over, there are two decoders. -/
abbrev TwoDecoders : Law := fun _ event => event.call.isPaired → event.before.nbDecoder = 2

abbrev NoSkips : Law := fun _ event => ¬ skipsChannel event

private theorem decode_step (positions : Positions) (awt : AWTContext) (i : Nat) (decObj : Option DecObj)
    (input : Option (List CFloat)) (result : BufferResult) :
    blockPositions.step positions ⟨awt, .awt5DecodeStreamBuffer i decObj input, result⟩ =
      (positions.hand i).skip (i = 0 ∧ result.ret ≠ 0) := rfl

private theorem callback_step (positions : Positions) (awt : AWTContext) (i : Nat) (wm : CString) (percent : CFloat)
    (posAt : Rat) (stop : Int) :
    blockPositions.step positions ⟨awt, .callback i wm percent posAt, stop⟩ = positions.skip (i = 0 ∧ stop ≠ 0) := rfl

private theorem skips_step (positions : Positions) (event : Event) :
    (blockPositions.step positions event).skips = if skipsChannel event then positions.skips + 1 else positions.skips := by
  obtain ⟨awt, call, answer⟩ := event
  cases call with
  | avBuffersinkGetFrame =>
    by_cases failed : answer.code.val < 0 <;> simp [blockPositions, Positions.skip, skipsChannel, failed]
  | _ => rfl

/-- The count is 0 exactly as long as channel 0 never ended the loop. -/
private theorem skips_eq_zero (trace : History) : (blockPositions.seen trace).skips = 0 ↔ Lawful NoSkips trace := by
  induction trace using List.reverseRecOn with
  | nil => exact ⟨fun _ => Lawful.nil _, fun _ => rfl⟩
  | append_singleton past event ih =>
    rw [Observer.seen_concat, skips_step, lawful_concat, ← ih]
    cases skipped : skipsChannel event <;> simp [NoSkips, skipped]

/-- Channel 0 is ahead by the blocks it has kept from channel 1. -/
structure Even (positions : Positions) : Prop where
  filling : positions.filling 0 = positions.filling 1
  ahead : (positions.handed 0).length = (positions.handed 1).length + positions.skips
  same : positions.skips = 0 → positions.handed 0 = positions.handed 1

/-- In the decode loop, before channel 1 is handed the block of channel 0. -/
structure Waiting (positions : Positions) : Prop where
  filling : positions.filling 0 = positions.filling 1
  ahead : (positions.handed 0).length = (positions.handed 1).length + 1 + positions.skips
  same : positions.skips = 0 → positions.handed 0 = positions.handed 1 ++ [positions.filling 1]

/-- In the copy loop, before the copy for channel 1. -/
structure Lagging (dstOff off count : Int) (positions : Positions) : Prop where
  filling : positions.filling 0 =
    (if dstOff = 0 then [] else positions.filling 1) ++ [⟨positions.frames, off, count⟩]
  ahead : (positions.handed 0).length = (positions.handed 1).length + positions.skips
  same : positions.skips = 0 → positions.handed 0 = positions.handed 1

private theorem Even.copy {positions : Positions} (even : Even positions) (dstOff off count : Int) :
    Lagging dstOff off count (positions.copy 0 dstOff off count) := by
  refine ⟨?_, even.ahead, even.same⟩
  simp [Positions.copy, even.filling]

private theorem Lagging.copy {dstOff off count : Int} {positions : Positions} (lagging : Lagging dstOff off count positions) :
    Even (positions.copy 1 dstOff off count) := by
  refine ⟨?_, lagging.ahead, lagging.same⟩
  simp [Positions.copy, lagging.filling]

private theorem Even.hand {positions : Positions} (even : Even positions) : Waiting (positions.hand 0) := by
  refine ⟨even.filling, ?_, fun none => ?_⟩
  · simp only [Positions.hand, Function.update_self, List.length_append, List.length_singleton, ne_eq, one_ne_zero,
      not_false_eq_true, Function.update_of_ne, even.ahead]
    omega
  · simp [Positions.hand, even.same none, even.filling]

private theorem Waiting.hand {positions : Positions} (waiting : Waiting positions) : Even (positions.hand 1) := by
  refine ⟨waiting.filling, ?_, fun none => ?_⟩
  · simp [Positions.hand, waiting.ahead]
  · simp [Positions.hand, waiting.same none]

private theorem Waiting.skip {positions : Positions} (waiting : Waiting positions) : Even (positions.skip true) := by
  refine ⟨waiting.filling, ?_, fun none => ?_⟩
  · simp [Positions.skip, waiting.ahead]
    omega
  · simp [Positions.skip] at none

private abbrev PairTracks (agrees : Positions → Prop) : AwtWorld → Prop :=
  blockPositions.Tracks (fun _ _ => True) fun positions _ => agrees positions

variable {law : Law} {agrees other : Positions → Prop} {world : AwtWorld} {fuel : Nat}

/-- The calls that hand nothing to a decoder or into its buffer. -/
private def Call.apart : Call → Bool
  | .avBuffersinkGetFrame => false
  | call => !call.isPaired

private theorem apart_of_steady {call : Call} (steady : call.steady) : Call.apart call := by
  cases call <;> first | rfl | cases steady

private theorem apart_of_ofSetup {call : Call} (part : call.ofSetup) : Call.apart call := by
  cases call <;> first | rfl | cases part

private theorem apart_of_ofClose {call : Call} (part : call.ofClose) : Call.apart call := by
  cases call <;> first | rfl | cases part

private theorem apart_unseen {call : Call} (apart : Call.apart call) (positions : Positions) (awt : AWTContext)
    (answer : Answer call) : blockPositions.step positions ⟨awt, call, answer⟩ = positions := by
  cases call <;> first | rfl | cases apart

private theorem PairTracks.ignores : Ignores law (fun call => Call.apart call) (PairTracks agrees) :=
  Observer.Tracks.ignores fun positions awt call answer apart holds =>
    ⟨trivial, by rwa [apart_unseen apart]⟩

private theorem PairTracks.steady : Ignores law (fun call : Call => call.steady) (PairTracks agrees) :=
  PairTracks.ignores.narrow fun _ => apart_of_steady

private theorem PairTracks.fields {outside : AWTContext → τ} : Frames outside (PairTracks agrees) :=
  tracks_frames fun _ _ _ _ holds => holds

private theorem PairTracks.step {request : Call} {answer : Answer request} (tracks : PairTracks agrees world)
    (moves : ∀ positions, agrees positions → other (blockPositions.step positions ⟨world.state, request, answer⟩)) :
    PairTracks other (world.record request answer) :=
  tracks.record (fun _ => trivial) (moves _)

private def pairFilter (frame : AVFrame) : FilterOutline law 2 frame where
  head _ := PairTracks Even
  copying off count items world := match items with
    | [0, 1] => PairTracks Even world
    | [1] => PairTracks (Lagging world.state.nbBuffer off count) world
    | [] => PairTracks Even world
    | _ => False
  decoding _ items world := match items with
    | [0, 1] => PairTracks Even world
    | [1] => PairTracks Waiting world
    | [] => PairTracks Even world
    | _ => False
  left _ := PairTracks Even
  halt _ _ := True
  finish _ _ _ holds := holds
  enter _ _ _ holds := holds
  copy off count i rest world holds := by
    intro answer _
    unfold Copied
    split
    · trivial
    · trivial
    split
    · trivial
    split at holds
    next same =>
      cases same
      exact (holds.step fun _ even => even.copy _ off count).update id
    next same =>
      cases same
      exact (holds.step fun _ lagging => lagging.copy).update id
    next same => cases same
    next => exact holds.elim
  short _ _ _ holds _ := holds.update id
  full _ _ _ holds _ := holds.update id
  decode off i rest world holds := by
    intro result _
    split at holds
    next same =>
      cases same
      by_cases failed : result.ret ≠ 0
      · have skipped : PairTracks Even (world.record (.awt5DecodeStreamBuffer 0 _ _) result) := by
          apply holds.step
          intro positions even
          rw [decode_step, decide_eq_true ⟨rfl, failed⟩]
          exact even.hand.skip
        rw [if_pos failed]
        refine (PairTracks.ignores _ rfl _ skipped).weaken fun _ _ logged => ?_
        exact PairTracks.ignores _ rfl _ logged
      have waits : PairTracks Waiting (world.record (.awt5DecodeStreamBuffer 0 _ _) result) := by
        apply holds.step
        intro positions even
        rw [decode_step, decide_eq_false (by simpa using failed)]
        exact even.hand
      rw [if_neg failed]
      split
      · exact waits
      intro stop _
      have found : PairTracks Waiting ((world.record (.awt5DecodeStreamBuffer 0 _ _) result).update AWTContext.countFound) :=
        waits.update id
      by_cases stopped : stop ≠ 0
      · rw [if_pos stopped]
        apply found.step
        intro positions waiting
        rw [callback_step, decide_eq_true ⟨rfl, stopped⟩]
        exact waiting.skip
      · rw [if_neg stopped]
        apply found.step
        intro positions waiting
        rw [callback_step, decide_eq_false (by simpa using stopped)]
        exact waiting
    next same =>
      cases same
      have handed : PairTracks Even (world.record (.awt5DecodeStreamBuffer 1 _ _) result) := by
        apply holds.step
        intro positions waiting
        rw [decode_step, decide_eq_false (by simp)]
        exact waiting.hand
      split
      · refine (PairTracks.ignores _ rfl _ handed).weaken fun _ _ logged => ?_
        exact PairTracks.ignores _ rfl _ logged
      split
      · exact handed
      intro stop _
      have found : PairTracks Even ((world.record (.awt5DecodeStreamBuffer 1 _ _) result).update AWTContext.countFound) :=
        handed.update id
      split <;>
      · apply found.step
        intro positions even
        rw [callback_step, decide_eq_false (by simp)]
        exact even
    next same => cases same
    next => exact holds.elim
  again _ _ holds := holds

/-- With any other number of decoders no block is filled at all. -/
private theorem unpaired_filter (frame : AVFrame) (unpaired : world.state.nbDecoder ≠ 2) (holds : PairTracks Even world) :
    Meets TwoDecoders (awtFilterFrame fuel frame) (fun _ => PairTracks Even) (fun _ _ => True) world := by
  have start : blockPositions.Tracks (fun _ _ => True) (fun positions awt => awt.nbDecoder ≠ 2 ∧ Even positions) world :=
    holds.weaken fun even => ⟨unpaired, even⟩
  apply (awtFilterFrame_keeps _ _ (fun _ _ _ => trivial) fuel frame start).imp _
  · intro request part world holds answer paired
    have apart : Call.apart request := by
      cases request <;> first | rfl | exact absurd (paired rfl) holds.agrees.1 | cases part
    apply holds.record (fun _ => trivial)
    intro agrees
    rwa [apart_unseen apart]
  · refine tracks_frames fun _ awt next same agrees => ⟨?_, agrees.2⟩
    simp only [AWTContext.outsideFilter, Prod.mk.injEq] at same
    rw [same.2.1]
    exact agrees.1
  · exact fun _ _ left => left.weaken And.right

private def pairOutline (fuel : Nat) : BlockOutline TwoDecoders fuel where
  idle := PairTracks Even
  opened _ := PairTracks Even
  looping := PairTracks Even
  filtering _ := PairTracks Even
  halt _ _ := True
  idle_calls := PairTracks.steady
  opened_calls _ := PairTracks.steady
  looping_calls := PairTracks.steady
  idle_fields := PairTracks.fields
  opened_fields _ := PairTracks.fields
  looping_fields := PairTracks.fields
  opened_left _ _ holds := holds
  looping_left _ holds := holds
  crash _ _ := trivial
  expired _ _ := trivial
  opens _ world holds := PairTracks.ignores _ rfl world holds
  setup filePath input world holds := by
    have calls : Ignores TwoDecoders (fun call : Call => call.ofSetup) (PairTracks Even) :=
      PairTracks.ignores.narrow fun _ => apart_of_ofSetup
    apply (needSetup_keeps calls _ PairTracks.fields (fun _ _ _ _ => trivial) fuel input holds).imp _
    · exact fun _ world holds => PairTracks.ignores _ rfl world holds
    · intro ret world holds
      split
      · exact holds
      · exact PairTracks.ignores _ rfl world holds
  sink world holds := by
    intro result _
    have taken : PairTracks Even (world.record .avBuffersinkGetFrame result) := by
      apply holds.step
      intro positions even
      by_cases failed : result.code.val < 0 <;> simp only [blockPositions, skipsChannel, failed, if_true, if_false]
      · exact even
      · exact ⟨even.filling, even.ahead, even.same⟩
    split <;> exact taken
  filter frame world holds := by
    have left : Meets TwoDecoders (awtFilterFrame fuel frame) (fun _ => PairTracks Even) (fun _ _ => True) world := by
      by_cases paired : world.state.nbDecoder = 2
      · exact (pairFilter frame).sound (fun _ _ _ => trivial) fuel paired holds
      · exact unpaired_filter frame paired holds
    apply left.imp
    intro ret world left
    split <;> exact left

private theorem session_even (oracle : Oracle Surroundings AWTContext) (fuel : Nat) (awt : AWTContext) (requests : List Request)
    (paired : Lawful TwoDecoders ((Session.opened awt).run oracle fuel requests).trace)
    (returns : ((Session.opened awt).run oracle fuel requests).stuck = none) :
    Even (blockPositions.seen ((Session.opened awt).run oracle fuel requests).trace) := by
  let outline := (pairOutline fuel).runs
  have start : outline.idle ⟨awt, []⟩ := Observer.Tracks.init awt ⟨rfl, rfl, fun _ => rfl⟩
  have closes (world : AwtWorld) (idle : outline.idle world) :
      Meets TwoDecoders closeContext (fun _ world => Even (blockPositions.seen world.trace)) outline.halt world := by
    apply (closeContext_keeps _ _ idle).imp _
    · exact PairTracks.ignores.narrow fun _ => apart_of_ofClose
    · exact fun _ holds => holds.update id
    · exact fun _ _ closed => closed.agrees
  have holds : Session.Holds outline.idle (fun trace => Even (blockPositions.seen trace)) outline.halt _ :=
    outline.holds (fun _ _ idle => idle) closes oracle requests start paired
  refine holds.outcome (fun stuck trace => stuck = none → Even (blockPositions.seen trace)) ?_ ?_ ?_ returns
  · exact fun _ idle _ => idle.agrees
  · exact fun _ even _ => even
  · exact fun _ _ _ stuck => by cases stuck

/-- The channels stay together exactly as long as channel 0 ends no decode loop. -/
theorem lockstep_iff (oracle : Oracle Surroundings AWTContext) (fuel : Nat) (awt : AWTContext) (requests : List Request)
    (paired : Lawful TwoDecoders ((Session.opened awt).run oracle fuel requests).trace)
    (returns : ((Session.opened awt).run oracle fuel requests).stuck = none) :
    Lockstep ((Session.opened awt).run oracle fuel requests).trace ↔
      Lawful NoSkips ((Session.opened awt).run oracle fuel requests).trace := by
  have even := session_even oracle fuel awt requests paired returns
  rw [← skips_eq_zero]
  constructor
  · intro lockstep
    have lengths := congrArg List.length lockstep
    simp only [List.length_map, even.ahead] at lengths
    omega
  · intro none
    exact congrArg _ (even.same none)

/-- The callback asks to stop at the first block, which has its mark on channel 0. -/
def stopAtOnce : Script where
  packets _ := [⟨0, 0⟩]
  yields _ := [pcmFrame 44100 [[1, 2, 3], [4, 5, 6]]]
  blocks _ := ⟨0, [49], 0⟩
  stops := 1

theorem stop_skips_channel :
    (stopAtOnce.session (awtOpen 44100 1 1 1 0) [.exec "a"]).returned = [0] ∧
      ¬ Lockstep (stopAtOnce.session (awtOpen 44100 1 1 1 0) [.exec "a"]).trace := by
  decide +kernel

def marksFound : Script where
  packets _ := [⟨0, 0⟩]
  yields _ := [pcmFrame 44100 [[1, 2, 3], [4, 5, 6]]]
  blocks _ := ⟨0, [49], 0⟩

theorem marks_keep_lockstep :
    Lockstep (marksFound.session (awtOpen 44100 1 1 1 0) [.exec "a", .close]).trace :=
  (lockstep_iff _ _ _ _ (by decide +kernel) (by decide +kernel)).mpr (by decide +kernel)

end Awt
