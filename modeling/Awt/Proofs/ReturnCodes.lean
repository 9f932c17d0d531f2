import Awt.Proofs.Frames
import Awt.Script

/-! What the code that `awt_exec` returns says about the run behind it. -/

namespace Awt
open OracleProgram

def eagainOrEof (ret : Int) : Bool := ret = EAGAIN ∨ ret = AVERROR_EOF

/-- What happened in the current run. `slipped` is a failure that `awt_run` takes for a
success, `short` a license that is too short but reported without an error. -/
structure Fate where
  openFailed : Bool
  setupFailed : Bool
  ended : Bool
  slipped : Bool
  short : Bool
  logged : Bool
  closed : Bool
  deriving DecidableEq

namespace Fate

def start : Fate := ⟨false, false, false, false, false, false, false⟩

def see (fate : Fate) : Event → Fate
  | ⟨_, .avPacketAlloc, allocated⟩ => { start with setupFailed := !allocated }
  | ⟨_, .avFrameAlloc, allocated⟩ => { fate with setupFailed := fate.setupFailed || !allocated }
  | ⟨_, .mark (.openInput (.error _)), _⟩ => { fate with openFailed := true }
  | ⟨_, .mark (.initFilters ret), _⟩ => { fate with setupFailed := fate.setupFailed || ret ≠ 0 }
  | ⟨_, .mark (.setup ret), _⟩ => { fate with setupFailed := fate.setupFailed || ret ≠ 0 }
  | ⟨_, .mark .limit, _⟩ => { fate with ended := true }
  | ⟨_, .callback _ _ _ _, stop⟩ => { fate with ended := fate.ended || stop ≠ (0 : Int) }
  | ⟨_, .avReadFrame, result⟩ =>
    { fate with ended := fate.ended || result.code.val = AVERROR_EOF, slipped := fate.slipped || result.code.val = EAGAIN }
  | ⟨_, .avcodecSendPacket _, code⟩ => { fate with slipped := fate.slipped || eagainOrEof code.val }
  | ⟨_, .avBuffersrcAddFrameFlags _, code⟩ => { fate with slipped := fate.slipped || eagainOrEof code.val }
  | ⟨_, .awt5LicenseInfo _ _, info⟩ =>
    { fate with
      slipped := fate.slipped || info.ret ≠ 0
      short := fate.short || (info.ret = 0 ∧ info.licensedDurationSec.toNat < AWT_DURATION : Bool) }
  | ⟨_, .logCallback .error _ _, _⟩ => { fate with logged := true }
  | ⟨_, .running, running⟩ => { fate with closed := fate.closed || !running }
  | _ => fate

/-- The code tells how the run went, and success comes with no error in the log. -/
structure Classified (fate : Fate) (ret : Int) : Prop where
  openError : ret = AWT_CODE_OPEN_ERROR ↔ fate.openFailed
  setupError : ret = AWT_CODE_SETUP_ERROR ↔ fate.setupFailed
  success : ret = 0 ↔ fate.ended
  processError : ret = AWT_CODE_PROCESS_ERROR ↔ ¬ fate.openFailed ∧ ¬ fate.setupFailed ∧ ¬ fate.ended
  silent : ret = 0 → ¬ fate.logged

theorem classified_iff {fate : Fate} {ret : Int} : Classified fate ret ↔
    (ret = AWT_CODE_OPEN_ERROR ↔ fate.openFailed) ∧ (ret = AWT_CODE_SETUP_ERROR ↔ fate.setupFailed) ∧
      (ret = 0 ↔ fate.ended) ∧
      (ret = AWT_CODE_PROCESS_ERROR ↔ ¬ fate.openFailed ∧ ¬ fate.setupFailed ∧ ¬ fate.ended) ∧ (ret = 0 → ¬ fate.logged) :=
  ⟨fun ⟨openError, setupError, success, processError, silent⟩ => ⟨openError, setupError, success, processError, silent⟩,
    fun ⟨openError, setupError, success, processError, silent⟩ => ⟨openError, setupError, success, processError, silent⟩⟩

instance (fate : Fate) (ret : Int) : Decidable (Classified fate ret) := decidable_of_iff _ classified_iff.symm

/-- No failure was taken for a success. -/
def clean (fate : Fate) : Prop := ¬ fate.slipped ∧ (fate.short → ¬ fate.ended)

instance (fate : Fate) : Decidable fate.clean := inferInstanceAs (Decidable (_ ∧ _))

end Fate

def runFate : Observer Surroundings AWTContext Fate where
  init := Fate.start
  step := Fate.see

namespace Fate

/-- Nothing has gone wrong that the code would not show. -/
structure Sound (fate : Fate) : Prop where
  closed : fate.closed = false
  openFailed : fate.openFailed = false
  setupFailed : fate.setupFailed = false
  ended : fate.ended = false
  slipped : fate.slipped = false

structure Normal (fate : Fate) : Prop extends Sound fate where
  logged : fate.logged = fate.short

/-- `awt_setup` is going to return a positive code. -/
structure Refused (fate : Fate) : Prop where
  closed : fate.closed = false
  openFailed : fate.openFailed = false
  ended : fate.ended = false
  slipped : fate.slipped = true

/-- In the packet loop, perhaps after an `awt_setup` that returned a positive code. -/
inductive Going (fate : Fate) : Prop where
  | normal (normal : Normal fate)
  | refused (refused : Refused fate) (failed : fate.setupFailed = true)

/-- Nothing has failed that is going to end the run. -/
structure Unfailed (fate : Fate) : Prop where
  openFailed : fate.openFailed = false
  slipped : fate.setupFailed = true → fate.slipped = true

/-- The codes a run can end with. -/
inductive Fated (fate : Fate) : Int → Prop where
  | closed (ret : Int) (closed : fate.closed = true) (unfailed : Unfailed fate) : Fated fate ret
  | openError (openFailed : fate.openFailed = true) (setupFailed : fate.setupFailed = false)
      (ended : fate.ended = false) (slipped : fate.slipped = false) : Fated fate AWT_CODE_OPEN_ERROR
  | setupError (openFailed : fate.openFailed = false) (setupFailed : fate.setupFailed = true)
      (ended : fate.ended = false) (slipped : fate.slipped = false) : Fated fate AWT_CODE_SETUP_ERROR
  | success (openFailed : fate.openFailed = false) (setupFailed : fate.setupFailed = false)
      (ended : fate.ended = true) (slipped : fate.slipped = false) (logged : fate.logged = fate.short) : Fated fate 0
  | processError (openFailed : fate.openFailed = false) (setupFailed : fate.setupFailed = false)
      (ended : fate.ended = false) (slipped : fate.slipped = false) : Fated fate AWT_CODE_PROCESS_ERROR
  | slip (openFailed : fate.openFailed = false) (slipped : fate.slipped = true) (ended : fate.ended = false) : Fated fate 0
  | refused (ret : Int) (openFailed : fate.openFailed = false) (slipped : fate.slipped = true)
      (setupFailed : fate.setupFailed = true) (other : ret ≠ AWT_CODE_SETUP_ERROR) : Fated fate ret

variable {fate : Fate} {ret : Int}

/-- The five codes and causes are told apart unless something slipped. -/
theorem Fated.classified_iff (fated : Fated fate ret) (unclosed : fate.closed = false) :
    Classified fate ret ↔ fate.clean := by
  cases fated with
  | closed _ closed _ => simp [closed] at unclosed
  | openError openFailed setupFailed ended slipped =>
    have holds : Classified fate AWT_CODE_OPEN_ERROR := by
      constructor <;> simp [openFailed, setupFailed, ended, AWT_CODE_OPEN_ERROR, AWT_CODE_SETUP_ERROR, AWT_CODE_PROCESS_ERROR]
    simp [holds, clean, slipped, ended]
  | setupError openFailed setupFailed ended slipped =>
    have holds : Classified fate AWT_CODE_SETUP_ERROR := by
      constructor <;> simp [openFailed, setupFailed, ended, AWT_CODE_OPEN_ERROR, AWT_CODE_SETUP_ERROR, AWT_CODE_PROCESS_ERROR]
    simp [holds, clean, slipped, ended]
  | processError openFailed setupFailed ended slipped =>
    have holds : Classified fate AWT_CODE_PROCESS_ERROR := by
      constructor <;> simp [openFailed, setupFailed, ended, AWT_CODE_OPEN_ERROR, AWT_CODE_SETUP_ERROR, AWT_CODE_PROCESS_ERROR]
    simp [holds, clean, slipped, ended]
  | success openFailed setupFailed ended slipped logged =>
    simp only [clean, slipped, ended, Bool.false_eq_true, not_false_eq_true, not_true_eq_false, true_and]
    constructor
    · intro classified short
      exact classified.silent rfl (logged.trans short)
    · intro long
      have quiet : fate.logged = false := by
        rw [logged]
        exact Bool.eq_false_iff.mpr long
      constructor <;>
        simp [openFailed, setupFailed, ended, quiet, AWT_CODE_OPEN_ERROR, AWT_CODE_SETUP_ERROR, AWT_CODE_PROCESS_ERROR]
  | slip _ slipped ended =>
    constructor
    · intro classified
      have wrong := classified.success.mp rfl
      simp [ended] at wrong
    · exact fun clean => absurd slipped clean.1
  | refused _ _ slipped setupFailed other =>
    constructor
    · exact fun classified => absurd (classified.setupError.mpr setupFailed) other
    · exact fun clean => absurd slipped clean.1

/-- What failed before the loop is what the code says. -/
theorem Fated.failed (fated : Fated fate ret) : (fate.openFailed = true → ret = AWT_CODE_OPEN_ERROR) ∧
    (fate.setupFailed = true → fate.slipped = false → ret = AWT_CODE_SETUP_ERROR) := by
  cases fated with
  | closed _ _ unfailed => exact ⟨by simp [unfailed.openFailed], fun failed seen => by simp [unfailed.slipped failed] at seen⟩
  | openError _ setupFailed => exact ⟨fun _ => rfl, by simp [setupFailed]⟩
  | setupError openFailed => exact ⟨by simp [openFailed], fun _ _ => rfl⟩
  | success openFailed setupFailed => exact ⟨by simp [openFailed], by simp [setupFailed]⟩
  | processError openFailed setupFailed => exact ⟨by simp [openFailed], by simp [setupFailed]⟩
  | slip openFailed slipped => exact ⟨by simp [openFailed], by simp [slipped]⟩
  | refused _ openFailed slipped => exact ⟨by simp [openFailed], by simp [slipped]⟩

theorem Going.unfailed (going : Going fate) : Unfailed fate := by
  cases going with
  | normal normal => exact ⟨normal.openFailed, by simp [normal.setupFailed]⟩
  | refused refused failed => exact ⟨refused.openFailed, fun _ => refused.slipped⟩

/-- The run ends at the end of the file, at the limit or because it is told to. -/
theorem Going.stop (going : Going fate) : Fated { fate with ended := true } 0 := by
  cases going with
  | normal normal => exact .success normal.openFailed normal.setupFailed rfl normal.slipped normal.logged
  | refused refused failed => exact .refused 0 refused.openFailed refused.slipped failed (by decide)

/-- The run ends with a code that `out:` turns into 0. -/
theorem Going.slip (going : Going fate) (logged : Bool) : Fated { fate with slipped := true, logged } 0 := by
  cases going with
  | normal normal => exact .slip normal.openFailed rfl normal.ended
  | refused refused failed => exact .slip refused.openFailed rfl refused.ended

theorem Going.fail (going : Going fate) (logged : Bool) : Fated { fate with logged } AWT_CODE_PROCESS_ERROR := by
  cases going with
  | normal normal => exact .processError normal.openFailed normal.setupFailed normal.ended normal.slipped
  | refused refused failed => exact .refused _ refused.openFailed refused.slipped failed (by decide)

/-- A failed send or push is logged, and the code decides whether it is one. -/
theorem Going.error (going : Going fate) {code : Int} (negative : code < 0) :
    Fated { fate with slipped := fate.slipped || eagainOrEof code, logged := true } (outCode code) := by
  by_cases missed : code = EAGAIN ∨ code = AVERROR_EOF
  · have slips := going.slip true
    simpa [eagainOrEof, outCode, missed] using slips
  · have fails := going.fail true
    have nonzero : code ≠ 0 := by omega
    simpa [eagainOrEof, outCode, missed, nonzero] using fails

theorem Going.read (going : Going fate) {code : Int} (negative : code < 0) :
    Fated { fate with ended := fate.ended || code = AVERROR_EOF, slipped := fate.slipped || code = EAGAIN } (outCode code) := by
  have nonzero : code ≠ 0 := by omega
  by_cases finished : code = AVERROR_EOF
  · have stops := going.stop
    simpa [finished, outCode, AVERROR_EOF, EAGAIN] using stops
  by_cases missed : code = EAGAIN
  · have slips := going.slip fate.logged
    simpa [missed, outCode, AVERROR_EOF, EAGAIN] using slips
  · have fails := going.fail fate.logged
    simpa [finished, missed, nonzero, outCode] using fails

end Fate

open Fate

private abbrev FateTracks (agrees : Fate → Prop) : AwtWorld → Prop :=
  runFate.Tracks (fun _ _ => True) fun fate _ => agrees fate

/-- Calls whose answer decides nothing about the code. -/
private def Call.fateless : Call → Bool
  | .avPacketAlloc | .avFrameAlloc | .mark _ | .callback _ _ _ _ | .avReadFrame | .avcodecSendPacket _
  | .avBuffersrcAddFrameFlags _ | .awt5LicenseInfo _ _ | .logCallback .error _ _ | .running => false
  | _ => true

private theorem fateless_unseen {call : Call} (fateless : Call.fateless call) (fate : Fate) (awt : AWTContext)
    (answer : Answer call) : fate.see ⟨awt, call, answer⟩ = fate := by
  cases call with
  | logCallback level msg ret => cases level <;> first | rfl | cases fateless
  | _ => first | rfl | cases fateless

section outlines

variable {law : Law} {agrees other : Fate → Prop} {world : AwtWorld} {fuel : Nat}

private theorem FateTracks.ignores : Ignores law (fun call => Call.fateless call) (FateTracks agrees) :=
  Observer.Tracks.ignores fun fate awt call answer fateless holds =>
    ⟨trivial, by rwa [show runFate.step fate ⟨awt, call, answer⟩ = fate from fateless_unseen fateless fate awt answer]⟩

private theorem FateTracks.step {request : Call} {answer : Answer request} (tracks : FateTracks agrees world)
    (moves : ∀ fate, agrees fate → other (fate.see ⟨world.state, request, answer⟩)) :
    FateTracks other (world.record request answer) :=
  tracks.record (fun _ => trivial) (moves _)

private theorem FateTracks.fields {outside : AWTContext → τ} : Frames outside (FateTracks agrees) :=
  tracks_frames fun _ _ _ _ holds => holds

/-- How `awt_filter_frame` leaves the loop. -/
private def Left (ret : Int) (fate : Fate) : Prop := if ret = 0 then Going fate else Fated fate (outCode ret)

private theorem left_stop {fate : Fate} (going : Going fate) : Left AVERROR_EOF { fate with ended := true } := by
  rw [Left, if_neg (by decide)]
  exact going.stop

private theorem left_error {fate : Fate} (going : Going fate) {ret : Nat} (failed : ret ≠ 0) :
    Left ret { fate with logged := true } := by
  have fails := going.fail true
  have positive : outCode ret = AWT_CODE_PROCESS_ERROR := by
    have below : EAGAIN < 0 ∧ AVERROR_EOF < 0 := by decide
    rw [outCode, if_neg (by omega), if_pos (by omega)]
  rw [Left, if_neg (by omega), positive]
  exact fails

/-- Where a run is stuck nothing has failed that would have ended it. -/
private abbrev Hung (_ : Stop) : AwtWorld → Prop := FateTracks Unfailed

private def fateFilter (channels : Int) (frame : AVFrame) : FilterOutline law channels frame where
  head _ := FateTracks Going
  copying _ _ _ := FateTracks Going
  decoding _ _ := FateTracks Going
  left ret := FateTracks (Left ret)
  halt := Hung
  finish _ _ _ holds := holds.weaken fun going => going
  enter _ _ _ holds := holds
  copy off count i rest world holds := by
    refine (FateTracks.ignores _ rfl world holds).weaken fun _ world holds => ?_
    unfold Copied
    split
    · exact holds.weaken Going.unfailed
    · exact holds.weaken Going.unfailed
    split
    · exact holds.weaken Going.unfailed
    · exact holds.update id
  short _ _ _ holds _ := holds.update fun going => going
  full _ _ _ holds _ := holds.update id
  decode off i rest world holds := by
    refine (FateTracks.ignores _ rfl world holds).weaken fun result world holds => ?_
    split
    next failed =>
      intro answer _
      have logged : FateTracks (Left result.ret) (world.record (.logCallback .error (.decoderError result.ret) _) answer) :=
        holds.step fun _ going => left_error going failed
      exact FateTracks.ignores _ rfl _ logged
    split
    · exact holds
    intro stop _
    have found : FateTracks Going (world.update AWTContext.countFound) := holds.update id
    split
    next stopped =>
      apply found.step
      intro fate going
      simpa [Fate.see, stopped] using left_stop going
    next again =>
      apply found.step
      intro fate going
      simpa [Fate.see, again] using going
  again _ _ holds := holds

private def fateLoops (fuel : Nat) (st : AVStream) : LoopOutline law fuel st where
  head _ := FateTracks Going
  reading _ := FateTracks Going
  timing _ _ := FateTracks Going
  sending _ _ := FateTracks Going
  receiving _ _ := FateTracks Going
  pushing _ _ := FateTracks Going
  sinking _ := FateTracks Going
  filtering _ _ := FateTracks Going
  out ret := FateTracks fun fate => Fated fate (outCode ret)
  halt := Hung
  head_expired _ _ holds := holds.weaken Going.unfailed
  receiving_expired _ _ _ holds := holds.weaken Going.unfailed
  sinking_expired _ _ holds := holds.weaken Going.unfailed
  check clock world holds := by
    intro running _
    cases running with
    | true => exact holds.step fun fate going => by simpa [Fate.see] using going
    | false => exact holds.step fun fate going => .closed _ (by simp [Fate.see]) ⟨going.unfailed.openFailed, going.unfailed.slipped⟩
  read _ world holds := by
    intro result _
    split
    next failed => exact holds.step fun fate going => going.read failed
    next given =>
      have more : FateTracks Going (world.record .avReadFrame result) := by
        apply holds.step
        intro fate going
        have zero := result.code.zero_of_not_neg given
        simpa [Fate.see, zero, AVERROR_EOF, EAGAIN] using going
      split
      · exact FateTracks.ignores _ rfl _ more
      · exact more
  untimed _ _ _ _ holds := holds
  time startPts packet micros world _ holds := by
    have stamped : FateTracks Going (world.update (·.setCurrent (int64 (micros - startPts.getD micros)))) := holds.update id
    refine (FateTracks.ignores _ rfl _ stamped).weaken fun _ world holds => ?_
    split
    · exact fun _ _ => holds.step fun fate going => going.stop
    · exact ⟨holds, fun _ => FateTracks.ignores _ rfl world holds⟩
  send _ packet world holds := by
    intro code _
    split
    next failed =>
      intro answer _
      have sent : FateTracks (fun fate => ∃ before, Going before ∧
          fate = { before with slipped := before.slipped || eagainOrEof code.val })
          (world.record (.avcodecSendPacket packet) code) := holds.step fun fate going => ⟨fate, going, rfl⟩
      apply sent.step
      intro fate before
      obtain ⟨before, going, rfl⟩ := before
      exact going.error failed
    next passed =>
      apply holds.step
      intro fate going
      have zero := code.zero_of_not_neg passed
      simpa [Fate.see, zero, eagainOrEof, AVERROR_EOF, EAGAIN] using going
  drained _ _ world _ holds := FateTracks.ignores _ rfl world holds
  receive _ _ world _ holds := by
    refine (FateTracks.ignores _ rfl world holds).weaken fun result world holds => ?_
    split
    · exact FateTracks.ignores _ rfl world holds
    next other =>
      split
      next failed =>
        intro answer _
        apply holds.step
        intro fate going
        have nonzero : result.code.val ≠ 0 := by omega
        have fails := going.fail true
        simpa [Fate.see, outCode, other, nonzero] using fails
      · exact holds
  push _ frame world holds := by
    intro code _
    split
    next failed =>
      intro answer _
      have pushed : FateTracks (fun fate => ∃ before, Going before ∧
          fate = { before with slipped := before.slipped || eagainOrEof code.val })
          (world.record (.avBuffersrcAddFrameFlags frame) code) := holds.step fun fate going => ⟨fate, going, rfl⟩
      apply pushed.step
      intro fate before
      obtain ⟨before, going, rfl⟩ := before
      exact going.error failed
    next passed =>
      apply holds.step
      intro fate going
      have zero := code.zero_of_not_neg passed
      simpa [Fate.see, zero, eagainOrEof, AVERROR_EOF, EAGAIN] using going
  sink _ world holds := by
    refine (FateTracks.ignores _ rfl world holds).weaken fun result world holds => ?_
    split
    · exact FateTracks.ignores _ rfl world holds
    next other =>
      split
      next failed =>
        apply holds.weaken
        intro going
        have nonzero : result.code.val ≠ 0 := by omega
        have fails := going.fail (runFate.seen world.trace).logged
        simpa [outCode, other, nonzero] using fails
      · exact holds
  filter _ frame world holds := by
    apply ((fateFilter world.state.nbDecoder frame).sound (fun _ _ holds => holds.weaken Going.unfailed) fuel rfl holds).imp
    intro ret world left
    refine (FateTracks.ignores _ rfl world left).weaken fun _ world left => ?_
    split
    next stopped => exact left.weaken fun left => by rwa [Left, if_neg stopped] at left
    next again => exact left.weaken fun left => by rwa [Left, if_pos (not_not.mp again)] at left

private abbrev Started : AwtWorld → Prop := FateTracks fun fate => fate = Fate.start

private theorem start_sound (logged : Bool) : Sound { Fate.start with logged } := ⟨rfl, rfl, rfl, rfl, rfl⟩

private theorem start_normal : Normal Fate.start := ⟨⟨rfl, rfl, rfl, rfl, rfl⟩, rfl⟩

private theorem started_hung {why : Stop} (started : Started world) : Hung why world :=
  started.weaken fun same => same ▸ ⟨rfl, fun failed => by cases failed⟩

/-- How `awt_setup` fails: with a negative code that is seen or a positive one that is not. -/
private def Unprepared (ret : Int) (fate : Fate) : Prop := ret < 0 ∧ Sound fate ∨ 0 < ret ∧ Refused fate

private theorem Fate.Sound.log {fate : Fate} (sound : Sound fate) : Sound { fate with logged := true } :=
  ⟨sound.closed, sound.openFailed, sound.setupFailed, sound.ended, sound.slipped⟩

private theorem fateless_of_silent {call : Call} (silent : call.silent) : Call.fateless call := by
  cases call with
  | mark mark => cases silent
  | logCallback level msg ret => cases level <;> first | rfl | cases silent
  | _ => first | rfl | cases silent

private def fateSetup (channels : Int) : SetupOutline law channels where
  idle := Started
  licensed := FateTracks Normal
  initialising _ := FateTracks Normal
  refused ret := FateTracks (Unprepared ret)
  halt := Hung
  silent := FateTracks.ignores.narrow fun _ => fateless_of_silent
  configures := FateTracks.fields
  halts _ _ _ started := started_hung started
  fails _ _ _ world negative holds := fun _ _ => holds.step fun fate started => by
    rw [started]
    exact Or.inl ⟨negative, start_sound true⟩
  inform license method world holds := by
    intro info _
    by_cases refused : info.ret ≠ 0
    · rw [if_pos (Or.inl refused)]
      have slipped : FateTracks Refused (world.record (.awt5LicenseInfo license method) info) := by
        apply holds.step
        intro fate started
        rw [started]
        constructor <;> simp [Fate.see, Fate.start, refused]
      intro answer _
      rw [if_pos refused]
      exact slipped.step fun fate slips => Or.inr ⟨by omega, slips.closed, slips.openFailed, slips.ended, slips.slipped⟩
    have accepted : info.ret = 0 := not_not.mp refused
    split
    next failed =>
      have short : info.licensedDurationSec.toNat < AWT_DURATION := failed.resolve_left refused
      have asked : FateTracks (fun fate => fate = { Fate.start with short := true })
          (world.record (.awt5LicenseInfo license method) info) := by
        apply holds.step
        intro fate started
        rw [started]
        simp [Fate.see, Fate.start, accepted, short]
      intro answer _
      apply asked.step
      intro fate asked
      rw [asked]
      exact ⟨⟨rfl, rfl, rfl, rfl, rfl⟩, rfl⟩
    next long =>
      have enough : ¬ info.licensedDurationSec.toNat < AWT_DURATION := fun short => long (Or.inr short)
      have asked : FateTracks Normal (world.record (.awt5LicenseInfo license method) info) := by
        apply holds.step
        intro fate started
        rw [started]
        simpa [Fate.see, Fate.start, accepted, enough] using start_normal
      exact fun _ _ => asked.update id
  enter world holds := by
    refine (FateTracks.ignores _ rfl world holds).weaken fun _ _ holds => ?_
    exact holds.update id
  init i rest world holds := by
    intro result _
    have sized : FateTracks Normal ((world.record (.awt5DecodeStreamInit i world.state.decodeSettings) result).update fun awt =>
        { awt with awtSize := result.bufferSize.getD awt.awtSize }) :=
      holds.store (fun _ => trivial) id
    split
    · intro _ answer _
      have logged : FateTracks (Unprepared EINVAL) (World.record _ (.logCallback .error (.couldNotInitialize result.ret)
          (some result.ret)) answer) :=
        sized.step fun fate normal => Or.inl ⟨by decide, normal.toSound.log⟩
      exact FateTracks.ignores _ rfl _ logged
    · have made : FateTracks Normal (World.update _ (·.setDecoder i world.trace.length)) := sized.update id
      refine (FateTracks.ignores _ rfl _ made).weaken fun _ _ holds => ?_
      exact holds.update id

private theorem fate_setup (filePath : String) (input : Input) (holds : Started world) :
    Meets law (needSetup fuel input) (fun ret world =>
      if ret < 0 then FateTracks (fun fate => Fated fate AWT_CODE_SETUP_ERROR) world
      else After law (.logCallback .info (.start filePath input.st.codecpar.channels
        input.st.codecpar.sampleRate world.state.sampleRate world.state.awtSize) (some ret))
        (fun _ => FateTracks Going) world) Hung world := by
  have starts {ret sampleRate awtSize : Int} {world : AwtWorld} (going : FateTracks Going world) :
      After law (.logCallback .info (.start filePath input.st.codecpar.channels
        input.st.codecpar.sampleRate sampleRate awtSize) (some ret)) (fun _ => FateTracks Going) world :=
    FateTracks.ignores _ rfl world going
  apply Meets.get_bind
  split
  · apply Meets.ret
    rw [if_neg (by decide)]
    refine starts (holds.weaken fun started => .normal ?_)
    rw [started]
    exact start_normal
  apply Meets.seq ((fateSetup _).sound fuel holds)
  rintro ret world (⟨rfl, normal⟩ | ⟨nonzero, unset⟩)
  · apply Meets.call_bind
    intro answer _
    apply Meets.ret
    rw [if_neg (by decide)]
    apply starts
    refine normal.step fun fate normal => .normal ?_
    simpa [Fate.see] using normal
  · apply Meets.call_bind
    intro answer _
    apply Meets.ret
    have noted : FateTracks (fun fate => ∃ before, Unprepared ret before ∧ fate = { before with setupFailed := true })
        (world.record (.mark (.setup ret)) answer) :=
      unset.step fun fate unset => ⟨fate, unset, by simp [Fate.see, nonzero]⟩
    split
    next negative =>
      apply noted.weaken
      intro ⟨before, unset, same⟩
      rw [same]
      rcases unset with ⟨_, sound⟩ | ⟨positive, _⟩
      · exact .setupError sound.openFailed rfl sound.ended sound.slipped
      · omega
    next positive =>
      apply starts
      apply noted.weaken
      intro ⟨before, unset, same⟩
      rw [same]
      rcases unset with ⟨negative, _⟩ | ⟨_, slips⟩
      · omega
      · exact .refused ⟨slips.closed, slips.openFailed, slips.ended, slips.slipped⟩ rfl

private theorem fate_filters (input : Input) (holds : Started world) :
    Meets law (needFilters input) (fun ret world =>
      if ret ≠ 0 then FateTracks (fun fate => Fated fate AWT_CODE_SETUP_ERROR) world else Started world) Hung world := by
  have silent (agrees : Fate → Prop) : Ignores law (fun call : Call => call.silent) (FateTracks agrees) :=
    FateTracks.ignores.narrow fun _ => fateless_of_silent
  apply Meets.get_bind
  split
  · apply Meets.ret
    rw [if_neg (by decide)]
    exact holds
  have built : Meets law (awtInitFilters "anull" .fltp input.st.codecpar.channels input)
      (fun ret world => ret = 0 ∧ Started world ∨ ret < 0 ∧ FateTracks Sound world) Hung world := by
    apply awtInitFilters_meets (silent _) (silent _) (silent _) _ _ _ "anull" .fltp _ _ holds
    · exact fun _ world holds _ _ => FateTracks.ignores _ rfl world holds
    · intro _ holds
      apply holds.weaken
      intro started
      rw [started]
      exact start_sound false
    · intro _ _ world holds answer _
      apply holds.step
      intro fate started
      rw [started]
      exact start_sound true
    · exact fun _ holds => holds.update id
  apply Meets.seq built
  rintro ret world (⟨rfl, started⟩ | ⟨negative, sound⟩)
  · apply Meets.call_bind
    intro answer _
    apply Meets.ret
    rw [if_neg (by decide)]
    apply started.step
    intro fate started
    rw [started]
    rfl
  · apply Meets.call_bind
    intro answer _
    apply Meets.ret
    have nonzero : ret ≠ 0 := by omega
    rw [if_pos nonzero]
    apply sound.step
    intro fate sound
    exact .setupError sound.openFailed (by simp [Fate.see, nonzero]) sound.ended sound.slipped

private def fateOutline (fuel : Nat) : RunOutline law fuel where
  idle := FateTracks fun _ => True
  opening := Started
  opened _ := Started
  filtered _ := Started
  loops input := fateLoops fuel input.st
  ending ret := FateTracks fun fate => Fated fate ret
  finished ret := FateTracks fun fate => Fated fate ret
  halt := Hung
  allocate world holds := by
    intro packet _ frame _ filtFrame _
    have allocated : FateTracks (fun fate => fate = { Fate.start with setupFailed := !(packet && frame && filtFrame) })
        (((world.record .avPacketAlloc packet).record .avFrameAlloc frame).record .avFrameAlloc filtFrame) := by
      have first : FateTracks (fun fate => fate = { Fate.start with setupFailed := !packet })
          (world.record .avPacketAlloc packet) := holds.step fun _ _ => rfl
      have second : FateTracks (fun fate => fate = { Fate.start with setupFailed := !(packet && frame) })
          ((world.record .avPacketAlloc packet).record .avFrameAlloc frame) := by
        apply first.step
        intro fate started
        rw [started]
        simp [Fate.see, Fate.start]
      apply second.step
      intro fate started
      rw [started]
      simp [Fate.see, Fate.start]
    refine (FateTracks.ignores _ rfl _ allocated).weaken fun _ world allocated => ?_
    cases given : packet && frame && filtFrame with
    | true =>
      rw [if_pos rfl]
      apply allocated.update
      intro allocated
      rw [allocated, given]
      rfl
    | false =>
      rw [if_neg (by decide)]
      apply allocated.weaken
      intro allocated
      rw [allocated, given]
      exact .setupError rfl rfl rfl rfl
  openInput filePath world holds := by
    have silent : Ignores law (fun call : Call => call.silent) Started := FateTracks.ignores.narrow fun _ => fateless_of_silent
    apply (awtOpenInput_meets silent _ _ (fun _ => started_hung) filePath holds).imp _
    · exact FateTracks Sound
    · intro _ holds
      apply holds.weaken
      intro started
      rw [started]
      exact start_sound false
    · intro _ _ world holds answer _
      apply holds.step
      intro fate started
      rw [started]
      exact start_sound true
    intro result world reached
    cases result with
    | error ret =>
      exact fun _ _ => reached.1.step fun fate sound => .openError rfl sound.setupFailed sound.ended sound.slipped
    | ok input =>
      intro answer _
      have opened : Started (world.record (.mark (.openInput (.ok input))) answer) := reached.step fun _ started => started
      exact opened.update id
  filters input _ holds := fate_filters input holds
  setup filePath input _ holds := fate_setup filePath input holds
  out _ _ _ holds := holds
  loops_halt _ _ _ hung := hung
  finish ret world holds := by
    have spent : FateTracks (fun fate => Fated fate ret)
        (world.update AWTContext.spend) := holds.update id
    refine (FateTracks.ignores _ rfl _ spent).weaken fun _ world holds => ?_
    exact FateTracks.ignores _ rfl world holds
  releases _ := FateTracks.ignores.narrow fun _ => fateless_of_silent

end outlines

/-- The SDK refuses the license with a positive code, and the file is empty. -/
def licenseRefused : Script where
  licenseInfo := ⟨1, 0, 0⟩

def emptyFile : Script where

end Awt
