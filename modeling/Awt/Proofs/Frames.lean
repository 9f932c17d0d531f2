import Awt.Lib.Observer
import Awt.Proofs.FilterOutline
import Awt.Proofs.RunOutline
import Awt.Proofs.SetupOutline

/-! Frame rules: an assertion that ignores the calls of a function and the fields it
changes holds after it. -/

namespace Awt
open OracleProgram

/-- The fields that `awt_setup` does not touch. -/
def AWTContext.outsideSetup (awt : AWTContext) :=
  (awt.nbBuffer, awt.lookbackSec, awt.payloadLength, awt.sampleRate, awt.preDuration,
    awt.currentDuration, awt.fg, awt.speed, awt.second, awt.counter)

/-- The fields that `awt_filter_frame` does not touch. -/
def AWTContext.outsideFilter (awt : AWTContext) :=
  (awt.decoder, awt.nbDecoder, awt.awtSize, awt.decodeSettings, awt.preset, awt.preDuration,
    awt.currentDuration, awt.fg, awt.second)

/-- The calls of `awt_setup`. -/
def Call.ofSetup : Call → Bool
  | .awt5LicenseInfo _ _ | .awt5DecodeStreamInit _ _ | .malloc (.buffer _) _ => true
  | call => call.quiet

/-- The calls of `awt_init_filters`. -/
def Call.ofFilters : Call → Bool
  | .mark (.initFilters _) | .setChannelLayout _ => true
  | call => call.quiet

/-- The calls of `awt_filter_frame`. -/
def Call.ofBlocks : Call → Bool
  | .memcpy _ _ _ _ | .awt5DecodeStreamBuffer _ _ _ | .callback _ _ _ _ | .awt5PrintErrText _ => true
  | .logCallback .error (.decoderError _) _ => true
  | _ => false

/-- The calls of `awt_close`. -/
def Call.ofClose : Call → Bool
  | .awt5DecodeStreamKill _ _ | .release _ => true
  | _ => false

/-- The calls of the packet loop that hand out no data. -/
def Call.ofLoop : Call → Bool
  | .avcodecSendPacket _ | .avcodecReceiveFrame | .avBuffersrcAddFrameFlags _ | .mark .limit => true
  | call => call.quiet

theorem Call.ofLoop_of_quiet {call : Call} (quiet : call.quiet) : call.ofLoop := by
  cases call with
  | mark mark => cases mark <;> first | rfl | exact quiet
  | _ => first | rfl | exact quiet

theorem Call.ofFilters_of_quiet {call : Call} (quiet : call.quiet) : call.ofFilters := by
  cases call with
  | mark mark => cases mark <;> first | rfl | exact quiet
  | _ => first | rfl | exact quiet

theorem Call.ofSetup_of_quiet {call : Call} (quiet : call.quiet) : call.ofSetup := by
  cases call with
  | malloc what size => cases what <;> first | rfl | exact quiet
  | mark mark => cases mark <;> first | rfl | exact quiet
  | _ => first | rfl | exact quiet

/-- Every call that neither brings in data nor marks a stage of a run. -/
def Call.ordinary : Call → Bool
  | .avPacketAlloc | .avReadFrame | .avBuffersinkGetFrame | .mark (.openInput _)
  | .logCallback .info (.start ..) _ | .logCallback .info (.finish ..) _ => false
  | _ => true

theorem Call.ordinary_of_part {call : Call}
    (part : call.ofSetup ∨ call.ofFilters ∨ call.ofBlocks ∨ call.ofLoop ∨ call.ofClose) : call.ordinary := by
  cases call with
  | mark mark => cases mark <;> simp_all [Call.ordinary, Call.ofSetup, Call.ofFilters, Call.ofBlocks, Call.ofLoop,
      Call.ofClose, Call.quiet, Call.silent]
  | logCallback level msg ret => cases level <;> cases msg <;> simp_all [Call.ordinary, Call.ofSetup, Call.ofFilters,
      Call.ofBlocks, Call.ofLoop, Call.ofClose, Call.quiet, Call.silent]
  | _ => first | rfl | simp_all [Call.ofSetup, Call.ofFilters, Call.ofBlocks, Call.ofLoop, Call.ofClose, Call.quiet, Call.silent]

theorem Call.ordinary_of_silent {call : Call} (silent : call.silent) : call.ordinary :=
  Call.ordinary_of_part (Or.inr (Or.inr (Or.inr (Or.inl (Call.ofLoop_of_quiet (Call.quiet_of_silent silent))))))

variable {law : Law} {K : AwtWorld → Prop} {halt : Stop → AwtWorld → Prop} {world : AwtWorld}

theorem tracks_frames {observer : Observer Surroundings AWTContext γ} {promise : γ → Event → Prop}
    {agrees : γ → AWTContext → Prop} {outside : AWTContext → τ}
    (reads : ∀ value awt next, outside next = outside awt → agrees value awt → agrees value next) :
    Frames outside (observer.Tracks promise agrees) :=
  fun _ _ same tracks => tracks.update (reads _ _ _ (same _))

/-- What the calls at the start of `awt_run` keep is known when they have been answered. -/
theorem allocate_keeps {opening failed : AwtWorld → Prop}
    (packet : ∀ world, K world → After law .avPacketAlloc (fun _ => K) world)
    (frame : ∀ world, K world → After law .avFrameAlloc (fun _ => K) world)
    (time : ∀ world, K world → After law .avGettime (fun _ => K) world)
    (begins : ∀ world, K world → opening (world.update fun awt => { awt with counter := 0 }))
    (fails : ∀ world, K world → failed world) (holds : K world) :
    After law .avPacketAlloc (fun packet => After law .avFrameAlloc fun frame =>
      After law .avFrameAlloc fun filtFrame => After law .avGettime fun _ world =>
        if packet && frame && filtFrame then opening (world.update fun awt => { awt with counter := 0 })
        else failed world) world := by
  refine (packet world holds).weaken fun _ world holds => ?_
  refine (frame world holds).weaken fun _ world holds => ?_
  refine (frame world holds).weaken fun _ world holds => ?_
  refine (time world holds).weaken fun _ world holds => ?_
  split
  · exact begins world holds
  · exact fails world holds

private theorem outsideSetup_of_config {next awt : AWTContext} (same : next.outsideConfig = awt.outsideConfig) :
    next.outsideSetup = awt.outsideSetup := by
  simp only [AWTContext.outsideConfig, AWTContext.outsideSetup, Prod.mk.injEq] at same ⊢
  tauto

theorem awtSetup_keeps (calls : Ignores law (fun call : Call => call.ofSetup) K)
    (frame : Frames AWTContext.outsideSetup K) (halts : ∀ why world, why.ofLicense → K world → halt why world)
    (fuel : Nat) (channels : Int) (holds : K world) :
    Meets law (awtSetup fuel channels) (fun _ => K) halt world := by
  have quiet := calls.narrow fun _ => Call.ofSetup_of_quiet
  let outline : SetupOutline law channels :=
    { idle := K
      licensed := K
      initialising _ := K
      refused _ := K
      halt := halt
      silent := silent_of_quiet quiet
      configures world change same := frame world change fun awt => outsideSetup_of_config (same awt)
      halts := halts
      fails _ _ _ world _ holds := quiet _ rfl world holds
      inform license method world holds := by
        refine (calls _ rfl world holds).weaken fun info _ holds => ?_
        split
        · refine (quiet _ rfl _ holds).weaken fun _ _ holds => ?_
          split <;> exact holds
        · exact fun licenseDuration licenseValid =>
            frame _ (·.storeReport licenseDuration licenseValid) (fun _ => rfl) holds
      enter world holds := by
        refine (quiet _ rfl world holds).weaken fun _ world holds => ?_
        exact frame world (fun awt => { awt with nbDecoder := min AWT_MAX_DECODER channels }) (fun _ => rfl) holds
      init i rest world holds := by
        intro result lawful
        have sized := frame _ (fun awt => { awt with awtSize := result.bufferSize.getD awt.awtSize }) (fun _ => rfl)
          (calls _ rfl world holds result lawful)
        split
        · exact (quiet _ rfl _ sized).weaken fun _ world holds => quiet _ rfl world holds
        · have made := frame _ (·.setDecoder i world.trace.length) (fun _ => rfl) sized
          exact (calls _ rfl _ made).weaken fun _ _ holds => frame _ (·.setBuffer i _) (fun _ => rfl) holds }
  apply (outline.sound fuel holds).imp
  rintro ret world (⟨_, holds⟩ | ⟨_, holds⟩) <;> exact holds

theorem needSetup_keeps (calls : Ignores law (fun call : Call => call.ofSetup) K)
    (notes : ∀ ret world, K world → After law (.mark (.setup ret)) (fun _ => K) world)
    (frame : Frames AWTContext.outsideSetup K) (halts : ∀ why world, why.ofLicense → K world → halt why world)
    (fuel : Nat) (input : Input) (holds : K world) :
    Meets law (needSetup fuel input) (fun _ => K) halt world := by
  apply Meets.get_bind
  split
  · exact Meets.ret holds
  apply Meets.seq (awtSetup_keeps calls frame halts fuel _ holds)
  exact fun ret world holds => Meets.call_seq (notes ret world holds) fun _ _ holds => Meets.ret holds

theorem needFilters_keeps (calls : Ignores law (fun call : Call => call.ofFilters) K)
    (stores : ∀ world graph, K world → K (world.update fun awt => { awt with fg := some graph }))
    (input : Input) (holds : K world) :
    Meets law (needFilters input) (fun _ => K) halt world := by
  have quiet := calls.narrow fun _ => Call.ofFilters_of_quiet
  have silent := silent_of_quiet quiet
  apply Meets.get_bind
  split
  · exact Meets.ret holds
  apply Meets.seq (awtInitFilters_meets silent silent silent (fun _ world holds _ _ => calls _ rfl world holds)
    (fun _ holds => holds) (fun _ _ => quiet _ rfl) "anull" .fltp _ (fun before => stores before _) holds)
  intro ret world built
  have holds : K world := built.elim And.right And.right
  exact Meets.call_seq (calls _ rfl world holds) fun _ _ holds => Meets.ret holds

/-- `K` holds until the context is freed, and `E` afterwards. -/
theorem closeContext_ends {E : AwtWorld → Prop}
    (kills : ∀ i decObj world, K world → After law (.awt5DecodeStreamKill i decObj) (fun _ => K) world)
    (releases : ∀ what world, what ≠ .context → K world → After law (.release what) (fun _ => K) world)
    (clears : ∀ world, K world → K (world.update fun awt => { awt with nbDecoder := 0 }))
    (frees : ∀ world, K world → After law (.release .context) (fun _ => E) world) (holds : K world) :
    Meets law closeContext (fun _ => E) halt world := by
  apply Meets.get_bind
  have killed (i : Nat) (world : AwtWorld) (holds : K world) : Meets law (killDecoder i) (fun _ => K) halt world := by
    apply Meets.get_bind
    apply Meets.call_seq (kills i _ world holds)
    intro _ world holds
    exact Meets.call_seq (releases _ world (by simp) holds) fun _ _ holds => Meets.ret holds
  apply Meets.seq (Meets.each_keeps killed _ holds)
  intro _ world holds
  apply Meets.modify_bind
  apply Meets.call_seq (releases _ _ (by simp) (clears world holds))
  intro _ world holds
  apply Meets.call_seq (releases _ world (by simp) holds)
  intro _ world holds
  exact Meets.call (frees world holds)

theorem closeContext_keeps (calls : Ignores law (fun call : Call => call.ofClose) K)
    (clears : ∀ world, K world → K (world.update fun awt => { awt with nbDecoder := 0 })) (holds : K world) :
    Meets law closeContext (fun _ => K) halt world :=
  closeContext_ends (fun _ _ => calls _ rfl) (fun _ world _ => calls _ rfl world) clears (calls _ rfl) holds

/-- The calls after which the packet loop is left. -/
def Call.endsLoop : Call → Bool
  | .logCallback .error _ _ | .mark .limit => true
  | _ => false

theorem ends_of_ignores {law : Law} {kind : Call → Prop} {K : AwtWorld → Prop} (ignores : Ignores law kind K)
    (log : ∀ msg ret, kind (.logCallback .error msg ret)) (limit : kind (.mark .limit)) :
    Ignores law (fun call : Call => call.endsLoop) K := by
  apply ignores.narrow
  intro call ends
  cases call with
  | logCallback level msg ret =>
    cases level with
    | error => exact log msg ret
    | info => cases ends
  | mark mark => cases mark <;> first | exact limit | cases ends
  | _ => cases ends

/-- An assertion that a turn of the packet loop keeps, with the one it starts and ends
with and what is left of it when the loop ends. -/
structure LoopFrame (law : Law) (head kept left : AwtWorld → Prop) : Prop where
  quiet : Ignores law (fun call : Call => call.quiet) kept
  ends : Ignores law (fun call : Call => call.endsLoop) left
  again : ∀ world, kept world → head world
  leaves : ∀ world, kept world → left world

namespace LoopFrame

variable {head kept left : AwtWorld → Prop}

theorem unref (frame : LoopFrame law head kept left) (holds : kept world) :
    After law .avPacketUnref (fun _ => head) world :=
  (frame.quiet _ rfl world holds).weaken fun _ => frame.again

theorem check (frame : LoopFrame law head kept left) (asked : After law .running (fun _ => kept) world) :
    After law .running (fun running world => if running then kept world else left world) world := by
  refine asked.weaken fun running world holds => ?_
  split
  · exact holds
  · exact frame.leaves world holds

theorem read {st : AVStream} (frame : LoopFrame law head kept left) (given : After law .avReadFrame (fun _ => kept) world) :
    After law .avReadFrame (fun result world =>
      if result.code.val < 0 then left world
      else if result.packet.streamIndex ≠ st.index then After law .avPacketUnref (fun _ => head) world
      else kept world) world := by
  refine given.weaken fun result world holds => ?_
  split
  · exact frame.leaves world holds
  split
  · exact frame.unref holds
  · exact holds

theorem time (frame : LoopFrame law head kept left) (now : After law .avGettime (fun _ => kept) world) :
    After law .avGettime (fun _ world =>
      if int64 (world.state.currentDuration + world.state.preDuration) ≥ world.state.second then
        After law (.mark .limit) (fun _ => left) world
      else kept world ∧ ∀ delta, After law (.usleep delta) (fun _ => kept) world) world := by
  refine now.weaken fun _ world holds => ?_
  split
  · exact frame.ends _ rfl world (frame.leaves world holds)
  · exact ⟨holds, fun _ => frame.quiet _ rfl world holds⟩

theorem send {packet : AVPacket} (frame : LoopFrame law head kept left)
    (sent : After law (.avcodecSendPacket packet) (fun _ => kept) world) :
    After law (.avcodecSendPacket packet) (fun code world =>
      if code.val < 0 then After law (.logCallback .error .errorSending (some code.val)) (fun _ => left) world
      else kept world) world := by
  refine sent.weaken fun code world holds => ?_
  split
  · exact frame.ends _ rfl world (frame.leaves world holds)
  · exact holds

theorem receive (frame : LoopFrame law head kept left) (received : After law .avcodecReceiveFrame (fun _ => kept) world) :
    After law .avcodecReceiveFrame (fun result world =>
      if result.code.val = EAGAIN ∨ result.code.val = AVERROR_EOF then After law .avPacketUnref (fun _ => head) world
      else if result.code.val < 0 then
        After law (.logCallback .error .errorReceiving (some result.code.val)) (fun _ => left) world
      else kept world) world := by
  refine received.weaken fun result world holds => ?_
  split
  · exact frame.unref holds
  split
  · exact frame.ends _ rfl world (frame.leaves world holds)
  · exact holds

theorem push {inFrame : AVFrame} (frame : LoopFrame law head kept left)
    (pushed : After law (.avBuffersrcAddFrameFlags inFrame) (fun _ => kept) world) :
    After law (.avBuffersrcAddFrameFlags inFrame) (fun code world =>
      if code.val < 0 then After law (.logCallback .error .errorFeeding (some code.val)) (fun _ => left) world
      else kept world) world := by
  refine pushed.weaken fun code world holds => ?_
  split
  · exact frame.ends _ rfl world (frame.leaves world holds)
  · exact holds

theorem sink (frame : LoopFrame law head kept left) (given : After law .avBuffersinkGetFrame (fun _ => kept) world) :
    After law .avBuffersinkGetFrame (fun result world =>
      if result.code.val = EAGAIN ∨ result.code.val = AVERROR_EOF then After law .avFrameUnref (fun _ => kept) world
      else if result.code.val < 0 then left world
      else kept world) world := by
  refine given.weaken fun result world holds => ?_
  split
  · exact frame.quiet _ rfl world holds
  split
  · exact frame.leaves world holds
  · exact holds

/-- After `awt_filter_frame` the frame is released, and its code decides whether to stop. -/
theorem filtered {ret : Int} (frame : LoopFrame law head kept left) (holds : kept world) :
    After law .avFrameUnref (fun _ world => if ret ≠ 0 then left world else kept world) world := by
  refine (frame.quiet _ rfl world holds).weaken fun _ world holds => ?_
  split
  · exact frame.leaves world holds
  · exact holds

end LoopFrame

theorem awtFilterFrame_keeps (calls : Ignores law (fun call : Call => call.ofBlocks) K)
    (frame : Frames AWTContext.outsideFilter K) (halts : ∀ why world, K world → halt why world)
    (fuel : Nat) (inFrame : AVFrame) (holds : K world) :
    Meets law (awtFilterFrame fuel inFrame) (fun _ => K) halt world := by
  let outline : FilterOutline law world.state.nbDecoder inFrame :=
    { head _ := K
      copying _ _ _ := K
      decoding _ _ := K
      left _ := K
      halt := halt
      finish _ _ _ holds := holds
      enter _ _ _ holds := holds
      copy off count i rest world holds := by
        refine (calls _ rfl world holds).weaken fun _ world holds => ?_
        unfold Copied
        split
        · exact halts _ _ holds
        · exact halts _ _ holds
        split
        · exact halts _ _ holds
        · exact frame _ (·.setBuffer i _) (fun _ => rfl) holds
      short _ count world holds _ := frame world (fun awt => { awt with nbBuffer := awt.nbBuffer + count }) (fun _ => rfl) holds
      full _ _ world holds _ := frame world (fun awt => { awt with nbBuffer := 0 }) (fun _ => rfl) holds
      decode _ i rest world holds := by
        refine (calls _ rfl world holds).weaken fun result world holds => ?_
        split
        · exact (calls _ rfl world holds).weaken fun _ world holds => calls _ rfl world holds
        split
        · exact holds
        · have counted := frame world AWTContext.countFound (fun _ => rfl) holds
          refine (calls _ rfl _ counted).weaken fun _ _ holds => ?_
          split <;> exact holds
      again _ _ holds := holds }
  exact outline.sound (fun _ => halts .timeout) fuel rfl holds

end Awt
