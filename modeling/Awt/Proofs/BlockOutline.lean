import Awt.Proofs.Frames

/-! The outline of an argument about blocks: it looks at setting up the decoders, at
the frames that the graph gives out and at `awt_filter_frame`, and at nothing else. -/

namespace Awt
open OracleProgram

/-- The fields that hold the decoders and the block being filled. -/
def AWTContext.blocks (awt : AWTContext) :=
  (awt.decoder, awt.nbDecoder, awt.buffer, awt.nbBuffer, awt.awtSize)

theorem blocks_eq {next awt : AWTContext} : next.blocks = awt.blocks ↔
    next.decoder = awt.decoder ∧ next.nbDecoder = awt.nbDecoder ∧ next.buffer = awt.buffer ∧
      next.nbBuffer = awt.nbBuffer ∧ next.awtSize = awt.awtSize := by
  simp only [AWTContext.blocks, Prod.mk.injEq]

/-- Calls that neither handle blocks nor begin a stage of a run. -/
def Call.steady : Call → Bool
  | .awt5LicenseInfo _ _ | .awt5DecodeStreamInit _ _ | .awt5DecodeStreamBuffer _ _ _ | .awt5DecodeStreamKill _ _
  | .callback _ _ _ _ | .malloc (.buffer _) _ | .memcpy _ _ _ _
  | .avBuffersinkGetFrame | .mark (.openInput (.ok _)) | .mark (.setup _) | .logCallback .info (.start ..) _ => false
  | _ => true

theorem Call.steady_of_ofFilters {call : Call} (part : call.ofFilters) : call.steady := by
  cases call with
  | mark mark => cases mark <;> first | rfl | cases part
  | logCallback level msg ret => cases level <;> cases msg <;> first | rfl | cases part
  | malloc what size => cases what <;> first | rfl | cases part
  | _ => first | rfl | cases part

theorem Call.steady_of_quiet {call : Call} (quiet : call.quiet) : call.steady :=
  Call.steady_of_ofFilters (Call.ofFilters_of_quiet quiet)

theorem Call.steady_of_silent {call : Call} (silent : call.silent) : call.steady :=
  Call.steady_of_quiet (Call.quiet_of_silent silent)

structure BlockOutline (law : Law) (fuel : Nat) where
  idle : AwtWorld → Prop
  opened : Input → AwtWorld → Prop
  looping : AwtWorld → Prop
  filtering : AVFrame → AwtWorld → Prop
  halt : Stop → AwtWorld → Prop
  idle_calls : Ignores law (fun call : Call => call.steady) idle
  opened_calls : ∀ input, Ignores law (fun call : Call => call.steady) (opened input)
  looping_calls : Ignores law (fun call : Call => call.steady) looping
  idle_fields : Frames AWTContext.blocks idle
  opened_fields : ∀ input, Frames AWTContext.blocks (opened input)
  looping_fields : Frames AWTContext.blocks looping
  opened_left : ∀ input world, opened input world → idle world
  looping_left : ∀ world, looping world → idle world
  crash : ∀ world, idle world → halt (.fault .nullContext) world
  expired : ∀ world, looping world → halt .timeout world
  opens : ∀ input world, idle world → After law (.mark (.openInput (.ok input))) (fun _ => opened input) world
  setup : ∀ filePath input world, opened input world →
    Meets law (needSetup fuel input) (fun ret world =>
      if ret < 0 then idle world
      else After law (.logCallback .info (.start filePath input.st.codecpar.channels
          input.st.codecpar.sampleRate world.state.sampleRate world.state.awtSize) (some ret))
        (fun _ => looping) world) halt world
  sink : ∀ world, looping world →
    After law .avBuffersinkGetFrame (fun result world =>
      if result.code.val < 0 then looping world else filtering result.frame world) world
  filter : ∀ frame world, filtering frame world →
    Meets law (awtFilterFrame fuel frame) (fun ret world => if ret ≠ 0 then idle world else looping world) halt world

namespace BlockOutline

variable {law : Law} {fuel : Nat} (outline : BlockOutline law fuel) {world : AwtWorld}

private theorem frame : LoopFrame law outline.looping outline.looping outline.idle where
  quiet := outline.looping_calls.narrow fun _ => Call.steady_of_quiet
  ends := ends_of_ignores outline.idle_calls (fun _ _ => rfl) rfl
  again _ holds := holds
  leaves := outline.looping_left

def loops (st : AVStream) : LoopOutline law fuel st where
  head _ := outline.looping
  reading _ := outline.looping
  timing _ _ := outline.looping
  sending _ _ := outline.looping
  receiving _ _ := outline.looping
  pushing _ _ := outline.looping
  sinking _ := outline.looping
  filtering _ := outline.filtering
  out _ := outline.idle
  halt := outline.halt
  head_expired _ := outline.expired
  receiving_expired _ _ := outline.expired
  sinking_expired _ := outline.expired
  check _ world holds := outline.frame.check (outline.looping_calls _ rfl world holds)
  read _ world holds := outline.frame.read (outline.looping_calls _ rfl world holds)
  untimed _ _ _ _ holds := holds
  time startPts packet micros world _ holds := by
    have stamped := outline.looping_fields world (·.setCurrent (int64 (micros - startPts.getD micros))) (fun _ => rfl) holds
    exact outline.frame.time (outline.looping_calls _ rfl _ stamped)
  send _ _ world holds := outline.frame.send (outline.looping_calls _ rfl world holds)
  drained _ _ world _ holds := outline.looping_calls _ rfl world holds
  receive _ _ world _ holds := outline.frame.receive (outline.looping_calls _ rfl world holds)
  push _ _ world holds := outline.frame.push (outline.looping_calls _ rfl world holds)
  sink _ world holds := by
    refine (outline.sink world holds).weaken fun result world next => ?_
    by_cases empty : result.code.val = EAGAIN ∨ result.code.val = AVERROR_EOF
    · have failed := AvCode.neg_of_empty empty
      rw [if_pos failed] at next
      rw [if_pos empty]
      exact outline.looping_calls _ rfl world next
    rw [if_neg empty]
    split
    next failed =>
      rw [if_pos failed] at next
      exact outline.looping_left world next
    next succeeded =>
      rw [if_neg succeeded] at next
      exact next
  filter _ frame world holds := by
    apply (outline.filter frame world holds).imp
    intro ret world next
    split at next
    next stopped =>
      refine (outline.idle_calls _ rfl world next).weaken fun _ _ next => ?_
      rw [if_pos stopped]
      exact next
    next again =>
      refine (outline.looping_calls _ rfl world next).weaken fun _ _ next => ?_
      rw [if_neg again]
      exact next

def runs : RunOutline law fuel where
  idle := outline.idle
  opening := outline.idle
  opened := outline.opened
  filtered := outline.opened
  loops input := outline.loops input.st
  ending _ := outline.idle
  finished _ := outline.idle
  halt := outline.halt
  allocate _ := allocate_keeps (outline.idle_calls _ rfl) (outline.idle_calls _ rfl) (outline.idle_calls _ rfl)
    (fun world => outline.idle_fields world (fun awt => { awt with counter := 0 }) fun _ => rfl) fun _ holds => holds
  openInput filePath world holds := by
    have silent := outline.idle_calls.narrow fun _ => Call.steady_of_silent
    apply (awtOpenInput_meets silent (fun _ holds => holds) (fun _ _ => outline.idle_calls _ rfl)
      outline.crash filePath holds).imp
    intro result world reached
    cases result with
    | error ret => exact outline.idle_calls _ rfl world reached.1
    | ok input =>
      refine (outline.opens input world reached).weaken fun _ world opened => ?_
      refine outline.opened_fields input world (·.takeRate input) (fun awt => ?_) opened
      unfold AWTContext.takeRate
      split <;> rfl
  filters input world holds := by
    have calls := (outline.opened_calls input).narrow fun _ => Call.steady_of_ofFilters
    apply (needFilters_keeps calls _ input holds).imp _
    · exact fun world graph => outline.opened_fields input world (fun awt => { awt with fg := some graph }) fun _ => rfl
    · intro ret world holds
      split
      · exact outline.opened_left input world holds
      · exact holds
  setup := outline.setup
  out _ _ _ holds := holds
  loops_halt _ _ _ halted := halted
  finish _ world holds := by
    have spent := outline.idle_fields world AWTContext.spend
      (fun _ => rfl) holds
    exact (outline.idle_calls _ rfl _ spent).weaken fun _ world holds => outline.idle_calls _ rfl world holds
  releases _ := outline.idle_calls.narrow fun _ => Call.steady_of_silent

end BlockOutline
end Awt
