import Awt.Proofs.Quiet

/-! A proof outline of `awt_setup` with the license it has to get first. -/

namespace Awt
open OracleProgram

/-- The fields that are left alone until `nb_decoder` is set. -/
def AWTContext.outsideConfig (awt : AWTContext) :=
  (awt.decoder, awt.nbDecoder, awt.buffer, awt.nbBuffer, awt.awtSize, awt.lookbackSec, awt.payloadLength,
    awt.sampleRate, awt.preDuration, awt.currentDuration, awt.fg, awt.speed, awt.second, awt.counter)

/-- The assertion is about fields that every such update leaves as they are. -/
def Frames (outside : AWTContext → τ) (K : AwtWorld → Prop) : Prop :=
  ∀ world change, (∀ awt, outside (change awt) = outside awt) → K world → K (world.update change)

/-- How `awt_license` can fail to return. -/
def Stop.ofLicense : Stop → Bool
  | .timeout | .fault .urlOverflow | .fault .licenseOverflow | .fault .nullLicense => true
  | _ => false

/-- `initialising` is indexed by the channels that are still to come. -/
structure SetupOutline (law : Law) (channels : Int) where
  idle : AwtWorld → Prop
  licensed : AwtWorld → Prop
  initialising : List Nat → AwtWorld → Prop
  refused : Int → AwtWorld → Prop
  halt : Stop → AwtWorld → Prop
  silent : Ignores law (fun call : Call => call.silent) idle
  configures : Frames AWTContext.outsideConfig idle
  halts : ∀ why world, why.ofLicense → idle world → halt why world
  /-- An unknown preset, or no license: logged, and returned with a negative code. -/
  fails : ∀ msg logged ret world, ret < 0 → idle world →
    After law (.logCallback .error msg logged) (fun _ => refused ret) world
  inform : ∀ license method world, idle world →
    After law (.awt5LicenseInfo license method) (fun info world =>
      if info.ret ≠ 0 ∨ info.licensedDurationSec.toNat < AWT_DURATION then
        After law (.logCallback .error (.licenseInfoFailed info.licensedDurationSec info.validForSec) (some info.ret))
          (fun _ world => if info.ret ≠ 0 then refused info.ret world else licensed world) world
      else ∀ licenseDuration licenseValid,
        licensed (world.update (·.storeReport licenseDuration licenseValid))) world
  enter : ∀ world, licensed world →
    After law (.logCallback .info (.configure world.state.licenseDuration world.state.licenseValid world.state.preset
        world.state.bottomFreq world.state.topFreq world.state.framesyncFreq world.state.payloadFrames
        world.state.crcPercent world.state.payloadLength) (some 0)) (fun _ world =>
      initialising (indices (min AWT_MAX_DECODER channels))
        (world.update fun awt => { awt with nbDecoder := min AWT_MAX_DECODER channels })) world
  init : ∀ i rest world, initialising (i :: rest) world →
    After law (.awt5DecodeStreamInit i world.state.decodeSettings) (fun result middle =>
      let sized := middle.update fun awt => { awt with awtSize := result.bufferSize.getD awt.awtSize }
      if result.ret ≠ 0 then
        After law (.logCallback .error (.couldNotInitialize result.ret) (some result.ret)) (fun _ =>
          After law (.awt5PrintErrText result.ret) fun _ => refused EINVAL) sized
      else
        let made := sized.update (·.setDecoder i world.trace.length)
        After law (.malloc (.buffer i) (made.state.awtSize * 4)) (fun allocated final =>
          initialising rest (final.update (·.setBuffer i
            (if allocated then some (List.replicate made.state.awtSize.toNat 0) else none)))) made) world

theorem choosePreset_outside (awt : AWTContext) : awt.choosePreset.outsideConfig = awt.outsideConfig := by
  unfold AWTContext.choosePreset
  split <;> rfl

theorem useBands_outside (awt : AWTContext) : awt.useBands.outsideConfig = awt.outsideConfig := by
  unfold AWTContext.useBands
  split <;> rfl

namespace SetupOutline

variable {law : Law} {channels : Int} (outline : SetupOutline law channels) {world : AwtWorld}

private theorem preset (holds : outline.idle world) :
    Meets law awtSetupPreset (fun early world => match early with
      | some ret => ret ≠ 0 ∧ outline.refused ret world
      | none => outline.idle world) outline.halt world := by
  apply Meets.get_bind
  split
  · exact Meets.ret holds
  have chosen := outline.configures world _ choosePreset_outside holds
  apply Meets.modify_bind
  apply Meets.get_bind
  split
  · refine Meets.call_bind ((outline.fails _ _ _ _ ?_ chosen).weaken fun _ _ refused => Meets.ret ⟨?_, refused⟩) <;> decide
  · exact Meets.modify_bind (Meets.ret (outline.configures _ _ useBands_outside chosen))

private theorem license (fuel : Nat) (decode : Int) (holds : outline.idle world) :
    Meets law (awtLicense fuel decode) (fun ret world =>
      ret = 0 ∧ outline.licensed world ∨ ret ≠ 0 ∧ outline.refused ret world) outline.halt world := by
  have denied {msg : LogMsg} {logged ret : Int} {world : AwtWorld} (negative : ret < 0) (holds : outline.idle world) :
      Meets law (logError msg logged >>= fun _ => pure ret) (fun ret world =>
        ret = 0 ∧ outline.licensed world ∨ ret ≠ 0 ∧ outline.refused ret world) outline.halt world :=
    Meets.call_seq (outline.fails _ _ _ _ negative holds) fun _ _ refused =>
      Meets.ret (Or.inr ⟨by omega, refused⟩)
  apply Meets.call_seq (outline.silent _ rfl world holds)
  intro request world holds
  cases request with
  | none => exact denied (by decide) holds
  | some licenseRequest =>
  simp only
  split
  · exact Meets.stop (outline.halts _ _ rfl holds)
  apply Meets.call_seq (outline.silent _ rfl world holds)
  intro _ world holds
  apply Meets.call_seq (outline.silent _ rfl world holds)
  intro opened world holds
  split
  next failed =>
    have := opened.nonpos
    exact denied (by omega) holds
  apply Meets.call_seq (outline.silent _ rfl world holds)
  intro allocated world holds
  apply Meets.modify_bind
  have stored := outline.configures world
    (fun awt => { awt with license := if allocated then some [] else none }) (fun _ => rfl) holds
  have reads (stored : List UInt8) (world : AwtWorld) (holds : outline.idle world) :
      Meets law (readTurn allocated stored) (fun _ => outline.idle) outline.halt world := by
    apply Meets.call_seq (outline.silent _ rfl world holds)
    intro result world holds
    cases result with
    | ended code => exact Meets.ret holds
    | bytes chunk nonempty fits =>
      simp only
      split
      · exact Meets.stop (outline.halts _ _ rfl holds)
      split
      · exact Meets.stop (outline.halts _ _ rfl holds)
      · exact Meets.ret holds
  apply Meets.seq (Meets.loop_keeps reads (fun _ => outline.halts .timeout _ rfl) fuel [] stored)
  intro ⟨license, ret⟩ world holds
  apply Meets.call_seq (outline.silent _ rfl world holds)
  intro _ world holds
  split
  · exact denied (by decide) holds
  split
  · exact Meets.stop (outline.halts _ _ rfl holds)
  apply Meets.modify_bind
  apply Meets.call_bind
  have kept := outline.configures world (fun awt => { awt with license := some license }) (fun _ => rfl) holds
  refine (outline.inform license decode _ kept).weaken fun info world next => ?_
  by_cases failed : info.ret ≠ 0 ∨ info.licensedDurationSec.toNat < AWT_DURATION
  · rw [if_pos failed] at next ⊢
    apply Meets.call_seq next
    intro _ _ next
    apply Meets.ret
    by_cases refused : info.ret ≠ 0
    · rw [if_pos refused] at next
      exact Or.inr ⟨by omega, next⟩
    · rw [if_neg refused] at next
      exact Or.inl ⟨by omega, next⟩
  · rw [if_neg failed] at next ⊢
    exact Meets.modify_bind (Meets.ret (Or.inl ⟨rfl, next _ _⟩))

private theorem decoders (items : List Nat) (holds : outline.initialising items world) :
    Meets law (Program.each initDecoder items) (fun result world => match result with
      | some ret => ret = EINVAL ∧ outline.refused ret world
      | none => outline.initialising [] world) outline.halt world := by
  apply Meets.each outline.initialising _ (fun _ holds => holds) items holds
  intro i rest world holds
  apply Meets.get_bind
  apply Meets.bind
  apply Meets.count
  apply Meets.call_bind
  intro result lawful
  have next := outline.init i rest world holds result lawful
  beta_reduce at next
  apply Meets.modify_bind
  by_cases failed : result.ret ≠ 0
  · rw [if_pos failed] at next ⊢
    apply Meets.call_seq next
    intro _ _ next
    exact Meets.call_seq next fun _ _ refused => Meets.ret ⟨rfl, refused⟩
  · rw [if_neg failed] at next ⊢
    apply Meets.modify_bind
    apply Meets.get_bind
    exact Meets.call_seq next fun _ _ next => Meets.modify_bind (Meets.ret next)

theorem sound (fuel : Nat) (holds : outline.idle world) :
    Meets law (awtSetup fuel channels) (fun ret world =>
      ret = 0 ∧ outline.initialising [] world ∨ ret ≠ 0 ∧ outline.refused ret world) outline.halt world := by
  apply Meets.seq (outline.preset holds)
  intro early world next
  cases early with
  | some ret => exact Meets.ret (Or.inr next)
  | none =>
  apply Meets.seq (outline.license fuel 1 next)
  rintro ret world (⟨rfl, licensed⟩ | refused)
  · rw [if_neg (by simp)]
    apply Meets.get_bind
    apply Meets.call_seq (outline.enter world licensed)
    intro _ world entered
    apply Meets.modify_bind
    apply Meets.get_bind
    apply Meets.seq (outline.decoders _ entered)
    intro result world next
    cases result with
    | some ret =>
      obtain ⟨rfl, refused⟩ := next
      exact Meets.ret (Or.inr ⟨by decide, refused⟩)
    | none => exact Meets.ret (Or.inl ⟨rfl, next⟩)
  · rw [if_pos refused.1]
    exact Meets.ret (Or.inr refused)

end SetupOutline
end Awt
