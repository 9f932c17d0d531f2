import Awt.Proofs.LoopOutline

/-! Most calls of `awt_run` only talk to FFmpeg, the license server or the log. An
assertion that ignores them survives the functions that make no other call. -/

namespace Awt
open OracleProgram

/-- Calls that change nothing an argument about the detector speaks of, and are
not logs of an error. -/
def Call.silent : Call → Bool
  | .release .context => false
  | .awt5LicenseRequest _ | .awt5PrintErrText _ | .release _ | .malloc .license _
  | .avGettime | .usleep _ | .avioOpen _ | .avioRead | .avioClose
  | .avformatAllocContext | .avformatOpenInput _ | .avformatFindStreamInfo | .avFindBestStream
  | .avcodecAllocContext3 | .avcodecParametersToContext | .avcodecOpen2
  | .avfilterInoutAlloc | .avfilterGraphAlloc | .createBufferSrc _ | .createBufferSink
  | .avOptSetIntList _ | .avfilterGraphParsePtr _ | .avfilterGraphConfig
  | .avPacketUnref | .avFrameUnref
  | .logCallback .info (.configure ..) _ => true
  | _ => false

def Call.quiet : Call → Bool
  | .logCallback .error _ _ => true
  | call => call.silent

theorem Call.quiet_of_silent {call : Call} (silent : call.silent) : call.quiet := by
  cases call with
  | logCallback level msg ret => cases level <;> first | rfl | exact silent
  | _ => exact silent

variable {law : Law} {K E : AwtWorld → Prop} {halt : Stop → AwtWorld → Prop} {world : AwtWorld}

theorem silent_of_quiet (quiet : Ignores law (fun call : Call => call.quiet) K) :
    Ignores law (fun call : Call => call.silent) K :=
  fun request silent => quiet request (Call.quiet_of_silent silent)

/-- `K` holds until something fails and `E` from then on; the codec that is opened last
brings about `G`. Only failures are logged as errors, and they come with a negative code. -/
theorem awtOpenInput_opens {G : AwtWorld → Prop} (silent : Ignores law (fun call : Call => call.silent) K)
    (fails : ∀ world, K world → E world)
    (logs : ∀ msg ret world, K world → After law (.logCallback .error msg ret) (fun _ => E) world)
    (opens : ∀ world, K world →
      After law .avcodecOpen2 (fun codec world => if codec.code.val < 0 then K world else G world) world)
    (crash : ∀ world, K world → halt (.fault .nullContext) world) (filename : String) (holds : K world) :
    Meets law (awtOpenInput filename) (fun opened world => match opened with
      | .ok _ => G world
      | .error ret => E world ∧ ret < 0) halt world := by
  have failed {ret : Int} (negative : ret < 0) {msg : LogMsg} {world : AwtWorld} (holds : K world) :
      Meets law (logError msg ret >>= fun _ => pure (.error ret : Except Int Input)) (fun opened world => match opened with
        | .ok _ => G world
        | .error ret => E world ∧ ret < 0) halt world :=
    Meets.call_seq (logs msg ret world holds) fun _ _ logged => Meets.ret ⟨logged, negative⟩
  apply Meets.call_seq (silent _ rfl world holds)
  intro allocated world holds
  cases allocated with
  | false => exact Meets.stop (crash world holds)
  | true =>
  apply Meets.call_seq (silent _ rfl world holds)
  intro code world holds
  split
  next negative => exact failed negative holds
  apply Meets.call_seq (silent _ rfl world holds)
  intro code world holds
  split
  next negative => exact failed negative holds
  apply Meets.call_seq (silent _ rfl world holds)
  intro best world holds
  split
  next negative => exact failed negative holds
  apply Meets.call_seq (silent _ rfl world holds)
  intro allocated world holds
  cases allocated with
  | false => exact Meets.ret ⟨fails world holds, by decide⟩
  | true =>
  apply Meets.call_seq (silent _ rfl world holds)
  intro _ world holds
  apply Meets.call_seq (opens world holds)
  intro codec world next
  by_cases negative : codec.code.val < 0
  · rw [if_pos negative] at next ⊢
    exact failed negative next
  · rw [if_neg negative] at next ⊢
    exact Meets.ret next

theorem awtOpenInput_meets (silent : Ignores law (fun call : Call => call.silent) K)
    (fails : ∀ world, K world → E world)
    (logs : ∀ msg ret world, K world → After law (.logCallback .error msg ret) (fun _ => E) world)
    (crash : ∀ world, K world → halt (.fault .nullContext) world) (filename : String) (holds : K world) :
    Meets law (awtOpenInput filename) (fun opened world => match opened with
      | .ok _ => K world
      | .error ret => E world ∧ ret < 0) halt world := by
  apply awtOpenInput_opens silent fails logs _ crash filename holds
  intro world holds
  refine (silent _ rfl world holds).weaken fun _ _ holds => ?_
  split <;> exact holds

/-- The graph is stored by the last step and only when all others succeeded. -/
private theorem configureGraph_meets {G : AwtWorld → Prop} (silent : Ignores law (fun call : Call => call.silent) K)
    (fails : ∀ world, K world → E world)
    (logs : ∀ msg ret world, K world → After law (.logCallback .error msg ret) (fun _ => E) world)
    (filtersDescr : String) (src : BufferSrc) (sink : BufferSink)
    (stores : ∀ world, K world → G (world.update fun awt => { awt with fg := some ⟨src, sink⟩ }))
    (holds : K world) :
    Meets law (configureGraph filtersDescr src sink)
      (fun ret world => ret = 0 ∧ G world ∨ ret < 0 ∧ E world) halt world := by
  have failed {ret : Int} (negative : ret < 0) {msg : LogMsg} {world : AwtWorld} (holds : K world) :
      Meets law (logError msg ret >>= fun _ => pure ret)
        (fun ret world => ret = 0 ∧ G world ∨ ret < 0 ∧ E world) halt world :=
    Meets.call_seq (logs msg ret world holds) fun _ _ logged => Meets.ret (Or.inr ⟨negative, logged⟩)
  apply Meets.call_seq (silent _ rfl world holds)
  intro code world holds
  split
  next negative => exact failed negative holds
  apply Meets.call_seq (silent _ rfl world holds)
  intro code world holds
  split
  next negative => exact failed negative holds
  apply Meets.call_seq (silent _ rfl world holds)
  intro code world holds
  split
  next negative => exact failed negative holds
  apply Meets.call_seq (silent _ rfl world holds)
  intro code world holds
  split
  next negative => exact failed negative holds
  apply Meets.call_seq (silent _ rfl world holds)
  intro code world holds
  split
  next negative => exact failed negative holds
  apply Meets.call_seq (silent _ rfl world holds)
  intro code world holds
  split
  next negative => exact Meets.ret (Or.inr ⟨negative, fails world holds⟩)
  apply Meets.call_seq (silent _ rfl world holds)
  intro code world holds
  split
  next negative => exact Meets.ret (Or.inr ⟨negative, fails world holds⟩)
  next succeeded =>
    exact Meets.modify_bind (Meets.ret (Or.inl ⟨code.zero_of_not_neg succeeded, stores world holds⟩))

theorem awtInitFilters_meets {G : AwtWorld → Prop} {input : Input} (silent : Ignores law (fun call : Call => call.silent) K)
    (silentE : Ignores law (fun call : Call => call.silent) E)
    (silentG : Ignores law (fun call : Call => call.silent) G)
    (fills : ∀ layout world, K world → input.decoder.channelLayout = 0 →
      layout = avGetDefaultChannelLayout input.decoder.channels → After law (.setChannelLayout layout) (fun _ => K) world)
    (fails : ∀ world, K world → E world)
    (logs : ∀ msg ret world, K world → After law (.logCallback .error msg ret) (fun _ => E) world)
    (filtersDescr : String) (format : AVSampleFormat) (channels : Int)
    (stores : ∀ before, K before → G (before.update fun awt => { awt with fg := some ⟨bufferSrcArgs input,
      ⟨format, avGetDefaultChannelLayout channels, world.state.sampleRate⟩⟩ }))
    (holds : K world) :
    Meets law (awtInitFilters filtersDescr format channels input)
      (fun ret world => ret = 0 ∧ G world ∨ ret < 0 ∧ E world) halt world := by
  apply Meets.get_bind
  apply Meets.call_seq (silent _ rfl world holds)
  intro outputs first holds
  apply Meets.call_seq (silent _ rfl first holds)
  intro inputs second holds
  apply Meets.call_seq (silent _ rfl second holds)
  intro filterGraph third holds
  have built : Meets law (buildGraph (outputs && inputs && filterGraph) filtersDescr input
      ⟨format, avGetDefaultChannelLayout channels, world.state.sampleRate⟩)
      (fun ret world => ret = 0 ∧ G world ∨ ret < 0 ∧ E world) halt third := by
    unfold buildGraph
    split
    · exact Meets.ret (Or.inr ⟨by decide, fails third holds⟩)
    have filled : Meets law (fillLayout input.decoder) (fun _ => K) halt third := by
      unfold fillLayout
      split
      next missing => exact Meets.call (fills _ third holds missing rfl)
      · exact Meets.ret holds
    apply Meets.seq filled
    intro _ world holds
    exact configureGraph_meets silent fails logs filtersDescr _ _ stores holds
  apply Meets.seq built
  rintro ret middle (⟨rfl, stored⟩ | ⟨negative, failed⟩)
  · apply Meets.call_seq (silentG _ rfl middle stored)
    intro _ first holds
    apply Meets.call_seq (silentG _ rfl first holds)
    intro _ second holds
    exact Meets.bind (Meets.ret (Meets.ret (Or.inl ⟨rfl, holds⟩)))
  · apply Meets.call_seq (silentE _ rfl middle failed)
    intro _ first holds
    apply Meets.call_seq (silentE _ rfl first holds)
    intro _ second holds
    apply Meets.bind
    rw [discardGraph, if_pos (by omega)]
    exact Meets.call ((silentE _ rfl second holds).weaken fun _ third holds => Meets.ret (Or.inr ⟨negative, holds⟩))

end Awt
