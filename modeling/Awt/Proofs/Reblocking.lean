import Awt.Proofs.BlockOutline
import Awt.Script

/-! The re-blocking loop needs a block size that three functions have to agree on. -/

namespace Awt
open OracleProgram

/-- There is room in the block being filled. -/
structure AWTContext.Sized (awt : AWTContext) : Prop where
  size : 1 ≤ awt.awtSize
  filled : 0 ≤ awt.nbBuffer
  room : awt.nbBuffer < awt.awtSize

theorem sized_iff {awt : AWTContext} :
    awt.Sized ↔ 1 ≤ awt.awtSize ∧ 0 ≤ awt.nbBuffer ∧ awt.nbBuffer < awt.awtSize :=
  ⟨fun sized => ⟨sized.size, sized.filled, sized.room⟩, fun holds => ⟨holds.1, holds.2.1, holds.2.2⟩⟩

instance (awt : AWTContext) : Decidable awt.Sized := decidable_of_iff _ sized_iff.symm

/-- The loop of `awt_filter_frame` ends for this frame, whatever it is answered, be it with
an access to memory that is missing. -/
def Reblocks (awt : AWTContext) (frame : AVFrame) : Prop :=
  ∀ (oracle : Oracle Surroundings AWTContext) (past : History) (fuel : Nat), frame.nbSamples.toNat < fuel →
    ((awtFilterFrame fuel frame).run oracle ⟨awt, past⟩).1 ≠ .stop .timeout

/-- There is room in the block when the packet loop starts, and whenever it has taken
a frame to pass on to `awt_filter_frame`. -/
def roomForFrames : Event → Bool
  | ⟨awt, .logCallback .info (.start ..) _, _⟩ => awt.Sized
  | ⟨awt, .avBuffersinkGetFrame, result⟩ => ¬ result.code.val < 0 → awt.Sized
  | _ => true

def framesReblock : Event → Prop
  | ⟨awt, .avBuffersinkGetFrame, result⟩ => ¬ result.code.val < 0 → Reblocks awt result.frame
  | _ => True

structure BlocksAdvance (event : Event) : Prop where
  room : roomForFrames event
  reblocks : framesReblock event

/-- Whether the latest `awt5_decode_stream_init` failed and left no block size. -/
def unsized : Observer Surroundings AWTContext Bool where
  init := false
  step seen event := match event with
    | ⟨awt, .awt5DecodeStreamInit _ _, result⟩ => result.ret ≠ 0 ∧ result.bufferSize.getD awt.awtSize < 1
    | _ => seen

/-- `awt5_license_info` reports no error, an SDK decoder that was created reports a
block size, and no file is opened after one that was not left none. -/
def sizeReported (unsized : Bool) : Event → Bool
  | ⟨_, .awt5LicenseInfo _ _, info⟩ => info.ret = 0
  | ⟨_, .awt5DecodeStreamInit _ _, result⟩ => result.ret = 0 → result.bufferSize.any (1 ≤ ·)
  | ⟨_, .mark (.openInput (.ok input)), _⟩ => 1 ≤ input.st.codecpar.channels ∧ ¬ unsized
  | _ => true

abbrev SizesReported : Law := unsized.law fun unsized event => sizeReported unsized event

section filter

variable {law : Law} {K : AwtWorld → Prop}

/-- Every turn keeps room in the block, next to whatever the frame does not touch. -/
private def sizedFilter (halt : Stop → AwtWorld → Prop) (channels : Int) (frame : AVFrame)
    (calls : Ignores law (fun call : Call => call.ofBlocks) K) (fields : Frames AWTContext.outsideFilter K)
    (faults : ∀ why world, K world → halt (.fault why) world) : FilterOutline law channels frame where
  head _ world := K world ∧ world.state.Sized
  copying _ count _ world := K world ∧ world.state.Sized ∧ 0 ≤ count
  decoding _ _ world := K world ∧ world.state.Sized
  left _ world := K world ∧ world.state.Sized
  halt := halt
  finish _ _ _ holds := holds
  enter off world within holds := by
    have room := Int.sub_nonneg_of_le (Int.le_of_lt holds.2.room)
    have left := Int.sub_nonneg_of_le (Int.le_of_lt within)
    exact ⟨holds.1, holds.2, le_min room left⟩
  copy off count i rest world holds := by
    intro answer lawful
    have kept := calls _ rfl world holds.1 answer lawful
    unfold Copied
    split
    · exact faults _ _ kept
    · exact faults _ _ kept
    split
    · exact faults _ _ kept
    · exact ⟨fields _ (·.setBuffer i _) (fun _ => rfl) kept, ⟨holds.2.1.size, holds.2.1.filled, holds.2.1.room⟩, holds.2.2⟩
  short off count world holds partly := by
    have filled := holds.2.1.filled
    refine ⟨fields _ (fun awt => { awt with nbBuffer := awt.nbBuffer + count }) (fun _ => rfl) holds.1, ?_⟩
    exact ⟨holds.2.1.size, Int.add_nonneg filled holds.2.2, partly⟩
  full off count world holds _ := by
    have size := holds.2.1.size
    refine ⟨fields _ (fun awt => { awt with nbBuffer := 0 }) (fun _ => rfl) holds.1, ?_⟩
    exact ⟨size, le_refl 0, Int.lt_of_lt_of_le Int.zero_lt_one size⟩
  decode off i rest world holds := by
    intro result lawful
    have kept := calls _ rfl world holds.1 result lawful
    split
    · exact fun _ lawful => fun _ later => ⟨calls _ rfl _ (calls _ rfl _ kept _ lawful) _ later, holds.2⟩
    split
    · exact ⟨kept, holds.2⟩
    · have counted := fields _ AWTContext.countFound (fun _ => rfl) kept
      intro stop lawful
      have told := calls _ rfl _ counted stop lawful
      split <;> exact ⟨told, ⟨holds.2.size, holds.2.filled, holds.2.room⟩⟩
  again _ _ holds := holds

private theorem sized_reblocks {awt : AWTContext} (sized : awt.Sized) (frame : AVFrame) : Reblocks awt frame := by
  intro oracle past fuel enough stuck
  let outline : FilterOutline (fun _ _ => True) awt.nbDecoder frame :=
    sizedFilter (fun why _ => why ≠ .timeout) awt.nbDecoder frame (K := fun _ => True) (fun _ _ _ _ _ _ => trivial)
      (fun _ _ _ _ => trivial) (fun why _ _ => by simp)
  have ends : Meets (fun _ _ => True) (awtFilterFrame fuel frame) outline.left outline.halt ⟨awt, past⟩ :=
    outline.sound_within (fun _ _ holds => holds.2.room) fuel enough rfl ⟨trivial, sized⟩
  have reached := ends oracle fun _ _ _ _ => trivial
  rcases executed : (awtFilterFrame fuel frame).run oracle ⟨awt, past⟩ with ⟨value | why, final⟩
  · simp [executed] at stuck
  · rw [executed] at reached stuck
    cases stuck
    exact reached rfl

/-- A context without a block size consumes nothing: it never comes back from a frame
that has samples. -/
theorem unsized_filter_hangs {awt : AWTContext} (decoders : awt.nbDecoder = 0) (size : awt.awtSize = 0)
    (filled : awt.nbBuffer = 0) (frame : AVFrame) (samples : 0 < frame.nbSamples)
    (oracle : Oracle Surroundings AWTContext) (past : History) (fuel : Nat) :
    ((awtFilterFrame fuel frame).run oracle ⟨awt, past⟩).1 = .stop .timeout := by
  let outline : FilterOutline (fun _ _ => True) awt.nbDecoder frame :=
    { head off world := off = 0 ∧ world.state.awtSize = 0 ∧ world.state.nbBuffer = 0
      copying off count items world :=
        off = 0 ∧ count = 0 ∧ items = [] ∧ world.state.awtSize = 0 ∧ world.state.nbBuffer = 0
      decoding off items world := off = 0 ∧ items = [] ∧ world.state.awtSize = 0 ∧ world.state.nbBuffer = 0
      left _ _ := False
      halt why _ := why = .timeout
      finish off world done holds := done (by omega)
      enter off world within holds := ⟨holds.1, by omega, by simp [decoders, indices], holds.2⟩
      copy off count i rest world holds := absurd holds.2.2.1 (by simp)
      short off count world holds partly := by omega
      full off count world holds _ := ⟨by omega, by simp [decoders, indices], holds.2.2.2.1, rfl⟩
      decode off i rest world holds := absurd holds.2.1 (by simp)
      again off world holds := ⟨holds.1, holds.2.2⟩ }
  have stuck : Meets (fun _ _ => True) (awtFilterFrame fuel frame) outline.left outline.halt ⟨awt, past⟩ :=
    outline.sound (fun _ _ _ => rfl) fuel rfl ⟨rfl, size, filled⟩
  have reached := stuck oracle fun _ _ _ _ => trivial
  rcases executed : (awtFilterFrame fuel frame).run oracle ⟨awt, past⟩ with ⟨value | why, final⟩ <;> rw [executed] at reached
  · exact reached.elim
  · exact congrArg Exit.stop reached

end filter

private abbrev SizeTracks (agrees : Bool → AWTContext → Prop) : AwtWorld → Prop :=
  unsized.Tracks (fun _ event => BlocksAdvance event) agrees

/-- Between two runs: no decoder and an empty block, or room in the block, unless it
is known that the last decoder left no block size. -/
private def SizedIdle (unsized : Bool) (awt : AWTContext) : Prop :=
  awt.nbDecoder = 0 ∧ awt.nbBuffer = 0 ∨ awt.nbDecoder ≠ 0 ∧ (unsized ∨ awt.Sized)

private def SizedOpened (input : Input) (_ : Bool) (awt : AWTContext) : Prop :=
  1 ≤ input.st.codecpar.channels ∧ (awt.nbDecoder = 0 ∧ awt.nbBuffer = 0 ∨ awt.nbDecoder ≠ 0 ∧ awt.Sized)

private def SizedLoop (_ : Bool) (awt : AWTContext) : Prop := awt.nbDecoder ≠ 0 ∧ awt.Sized

variable {agrees : Bool → AWTContext → Prop} {law : Law} {world : AwtWorld} {fuel : Nat}

private theorem unsized_unseen (seen : Bool) (awt : AWTContext) {call : Call} (steady : call.steady) (answer : Answer call) :
    unsized.step seen ⟨awt, call, answer⟩ = seen ∧ BlocksAdvance ⟨awt, call, answer⟩ := by
  cases call with
  | mark mark => cases mark <;> exact ⟨rfl, rfl, trivial⟩
  | logCallback level msg ret => cases level <;> cases msg <;> first | exact ⟨rfl, rfl, trivial⟩ | cases steady
  | _ => first | exact ⟨rfl, rfl, trivial⟩ | cases steady

private theorem SizeTracks.ignores : Ignores law (fun call : Call => call.steady) (SizeTracks agrees) := by
  apply Observer.Tracks.ignores
  intro seen awt call answer steady holds
  obtain ⟨same, advances⟩ := unsized_unseen seen awt steady answer
  exact ⟨advances, by rwa [same]⟩

private theorem unsized_blocks (seen : Bool) (awt : AWTContext) {call : Call} (part : call.ofBlocks) (answer : Answer call) :
    unsized.step seen ⟨awt, call, answer⟩ = seen ∧ BlocksAdvance ⟨awt, call, answer⟩ := by
  cases call with
  | logCallback level msg ret => cases level <;> cases msg <;> first | exact ⟨rfl, rfl, trivial⟩ | cases part
  | _ => first | exact ⟨rfl, rfl, trivial⟩ | cases part

private theorem indices_ne_nil {channels : Int} (present : 1 ≤ channels) : [] ≠ indices (min AWT_MAX_DECODER channels) := by
  intro empty
  have count := congrArg List.length empty
  simp only [indices, List.length_nil, List.length_range, AWT_MAX_DECODER] at count
  omega

private def sizedSetup (channels : Int) (present : 1 ≤ channels) : SetupOutline SizesReported channels where
  idle := SizeTracks fun _ awt => awt.nbDecoder = 0 ∧ awt.nbBuffer = 0
  licensed := SizeTracks fun _ awt => awt.nbDecoder = 0 ∧ awt.nbBuffer = 0
  initialising rest := SizeTracks fun _ awt => awt.nbDecoder ≠ 0 ∧
    awt.nbBuffer = 0 ∧ (1 ≤ awt.awtSize ∨ rest = indices (min AWT_MAX_DECODER channels))
  refused ret world := ret < 0 ∧ SizeTracks SizedIdle world
  halt _ := SizeTracks fun _ _ => True
  silent := SizeTracks.ignores.narrow fun _ => Call.steady_of_silent
  configures := tracks_frames fun _ awt next same holds => by
    simp only [AWTContext.outsideConfig, Prod.mk.injEq] at same
    exact ⟨same.2.1 ▸ holds.1, by omega⟩
  halts _ _ _ holds := holds.weaken fun _ => trivial
  fails msg logged ret world negative holds := by
    refine (SizeTracks.ignores _ rfl world holds).weaken fun _ _ logged => ?_
    exact ⟨negative, logged.weaken Or.inl⟩
  inform license method world holds := by
    intro info reported
    have asked : SizeTracks (fun _ awt => awt.nbDecoder = 0 ∧ awt.nbBuffer = 0)
        (world.record (.awt5LicenseInfo license method) info) := holds.record (fun _ => ⟨rfl, trivial⟩) id
    have accepted : info.ret = 0 := of_decide_eq_true reported
    split
    · refine (SizeTracks.ignores _ rfl _ asked).weaken fun _ _ logged => ?_
      rw [if_neg (by omega)]
      exact logged
    · exact fun _ _ => asked.update id
  enter world holds := by
    refine (SizeTracks.ignores _ rfl world holds).weaken fun _ _ entered => ?_
    refine entered.update fun empty => ⟨?_, empty.2, Or.inr rfl⟩
    simp only [AWT_MAX_DECODER]
    omega
  init i rest world holds := by
    intro result reported
    have sized : SizeTracks (fun unsized awt => awt.nbDecoder ≠ 0 ∧ awt.nbBuffer = 0 ∧
        (unsized = true ↔ result.ret ≠ 0 ∧ awt.awtSize < 1))
        ((world.record (.awt5DecodeStreamInit i world.state.decodeSettings) result).update fun awt =>
          { awt with awtSize := result.bufferSize.getD awt.awtSize }) :=
      holds.store (fun _ => ⟨rfl, trivial⟩) fun empty => ⟨empty.1, empty.2.1, by simp [unsized]⟩
    split
    next failed =>
      refine (SizeTracks.ignores _ rfl _ sized).weaken fun _ _ logged => ?_
      refine (SizeTracks.ignores _ rfl _ logged).weaken fun _ final printed => ⟨by decide, printed.weaken ?_⟩
      intro ⟨counted, empty, known⟩
      refine Or.inr ⟨counted, ?_⟩
      rw [known]
      by_cases small : final.state.awtSize < 1
      · exact Or.inl ⟨failed, small⟩
      · exact Or.inr ⟨by omega, by omega, by omega⟩
    next created =>
      have given : result.bufferSize.any (1 ≤ ·) := of_decide_eq_true reported (by simpa using created)
      obtain ⟨size, kept, positive⟩ : ∃ size, result.bufferSize.getD world.state.awtSize = size ∧ 1 ≤ size := by
        cases stored : result.bufferSize with
        | none => simp [stored] at given
        | some size => exact ⟨size, rfl, by simpa [stored] using given⟩
      intro _ _ allocated _
      have made : SizeTracks (fun _ awt => awt.nbDecoder ≠ 0 ∧ awt.nbBuffer = 0 ∧ 1 ≤ awt.awtSize)
          (((world.record (.awt5DecodeStreamInit i world.state.decodeSettings) result).update fun awt =>
            { awt with awtSize := result.bufferSize.getD awt.awtSize }).update (·.setDecoder i world.trace.length)) :=
        ⟨sized.kept, sized.agrees.1, sized.agrees.2.1, by simpa [AWTContext.setDecoder, kept] using positive⟩
      refine made.store (fun _ => ?_) fun filled => ?_
      · exact ⟨rfl, trivial⟩
      · exact ⟨filled.1, filled.2.1, Or.inl filled.2.2⟩

private theorem noted {mark : Mark} (holds : SizeTracks agrees world) :
    After law (.mark mark) (fun _ => SizeTracks agrees) world := by
  intro answer _
  refine holds.record (fun _ => ?_) id
  exact ⟨rfl, trivial⟩

private def sizedOutline (fuel : Nat) : BlockOutline SizesReported fuel where
  idle := SizeTracks SizedIdle
  opened input := SizeTracks (SizedOpened input)
  looping := SizeTracks SizedLoop
  filtering _ := SizeTracks SizedLoop
  halt _ := SizeTracks fun _ _ => True
  idle_calls := SizeTracks.ignores
  opened_calls _ := SizeTracks.ignores
  looping_calls := SizeTracks.ignores
  idle_fields := tracks_frames fun seen awt next same => by
    obtain ⟨_, counted, _, filled, size⟩ := blocks_eq.mp same
    simp only [SizedIdle, sized_iff, counted, filled, size, imp_self]
  opened_fields _ := tracks_frames fun seen awt next same => by
    obtain ⟨_, counted, _, filled, size⟩ := blocks_eq.mp same
    simp only [SizedOpened, sized_iff, counted, filled, size, imp_self]
  looping_fields := tracks_frames fun seen awt next same => by
    obtain ⟨_, counted, _, filled, size⟩ := blocks_eq.mp same
    simp only [SizedLoop, sized_iff, counted, filled, size, imp_self]
  opened_left input world holds := holds.weaken fun opened => opened.2.imp id fun sized => ⟨sized.1, Or.inr sized.2⟩
  looping_left world holds := holds.weaken fun sized => Or.inr ⟨sized.1, Or.inr sized.2⟩
  crash _ holds := holds.weaken fun _ => trivial
  expired _ holds := holds.weaken fun _ => trivial
  opens input world holds := by
    intro _ reported
    obtain ⟨channels, given⟩ := of_decide_eq_true reported
    refine holds.record (fun _ => ⟨rfl, trivial⟩) fun idle => ⟨channels, idle.imp id fun counted => ⟨counted.1, ?_⟩⟩
    exact counted.2.resolve_left given
  setup filePath input world holds := by
    have starts {ret : Int} {world : AwtWorld} (ready : SizeTracks SizedLoop world) (msg : LogMsg) :
        After SizesReported (.logCallback .info msg (some ret)) (fun _ => SizeTracks SizedLoop) world := by
      intro _ _
      refine ready.record (fun sized => ⟨?_, trivial⟩) id
      cases msg <;> first | exact decide_eq_true sized.2 | rfl
    apply Meets.get_bind
    split
    next counted =>
      apply Meets.ret
      rw [if_neg (by decide)]
      exact starts (holds.weaken fun opened => ⟨counted, (opened.2.resolve_left fun empty => counted empty.1).2⟩) _
    next unset =>
      have channels := holds.agrees.1
      have fresh : SizeTracks (fun _ awt => awt.nbDecoder = 0 ∧ awt.nbBuffer = 0) world :=
        holds.weaken fun opened => opened.2.resolve_right fun counted => unset counted.1
      apply Meets.seq ((sizedSetup _ channels).sound fuel fresh)
      rintro ret world (⟨rfl, ready⟩ | ⟨_, negative, refused⟩)
      · have full : SizeTracks SizedLoop world := by
          refine ready.weaken fun ⟨counted, empty, sized⟩ => ⟨counted, ?_⟩
          have size := sized.resolve_right (indices_ne_nil channels)
          exact ⟨size, by omega, by omega⟩
        apply Meets.call_seq (noted full)
        intro _ _ full
        apply Meets.ret
        rw [if_neg (by decide)]
        exact starts full _
      · apply Meets.call_seq (noted refused)
        intro _ _ refused
        apply Meets.ret
        rw [if_pos negative]
        exact refused
  sink world holds := by
    intro result _
    have taken : SizeTracks SizedLoop (world.record .avBuffersinkGetFrame result) := by
      refine holds.record (fun sized => ?_) id
      exact ⟨decide_eq_true fun _ => sized.2, fun _ => sized_reblocks sized.2 result.frame⟩
    split <;> exact taken
  filter frame world holds := by
    have calls : Ignores SizesReported (fun call : Call => call.ofBlocks) (SizeTracks fun _ awt => awt.nbDecoder ≠ 0) :=
      Observer.Tracks.ignores fun seen awt call answer part counted => by
        obtain ⟨_, advances⟩ := unsized_blocks seen awt part answer
        exact ⟨advances, counted⟩
    have fields : Frames AWTContext.outsideFilter (SizeTracks fun _ awt => awt.nbDecoder ≠ 0) :=
      tracks_frames fun seen awt next same counted => by
        simp only [AWTContext.outsideFilter, Prod.mk.injEq] at same
        rwa [same.2.1]
    have start : SizeTracks (fun _ awt => awt.nbDecoder ≠ 0) world := holds.weaken And.left
    let outline := sizedFilter (fun _ => SizeTracks fun _ _ => True) world.state.nbDecoder frame calls fields
      fun _ _ holds => holds.weaken fun _ => trivial
    apply (outline.sound (fun _ _ holds => holds.1.weaken fun _ => trivial) fuel rfl ⟨start, holds.agrees.2⟩).imp
    intro ret world left
    split
    · exact left.1.weaken fun counted => Or.inr ⟨counted, Or.inr left.2⟩
    · exact left.1.weaken fun counted => ⟨counted, left.2⟩

/-- If the SDK reports a block size whenever it has to, every run enters its packet
loop with room in the block, and works off every frame. -/
theorem blocks_advance (oracle : Oracle Surroundings AWTContext) (fuel : Nat) {awt : AWTContext} (fresh : Opened awt)
    (requests : List Request)
    (reported : Lawful SizesReported ((Session.opened awt).run oracle fuel requests).trace) :
    Lawful (fun _ event => BlocksAdvance event) ((Session.opened awt).run oracle fuel requests).trace := by
  apply (sizedOutline fuel).runs.history (fun _ _ idle => idle)
  · exact fun _ idle => idle.kept
  · exact fun _ _ halted => halted.kept
  · intro world idle
    have closes : SizeTracks (fun _ _ => True) world := idle.weaken fun _ => trivial
    apply (closeContext_keeps _ _ closes).imp _
    · refine Observer.Tracks.ignores fun seen awt call answer part _ => ⟨?_, trivial⟩
      cases call <;> first | exact ⟨rfl, trivial⟩ | cases part
    · exact fun _ holds => holds.update id
    · exact fun _ _ closed => closed.kept
  · apply Observer.Tracks.init awt
    cases fresh <;> exact Or.inl ⟨rfl, rfl⟩
  · exact reported

/-- The license server sells a license that the SDK then reports an error for. -/
def licenseError : Script where
  licenseInfo := ⟨1, 0, 0⟩
  packets _ := [⟨0, 0⟩]
  yields _ := [pcmFrame 44100 [[1, 2, 3], [4, 5, 6]]]

theorem license_error_stalls_blocks :
    ¬ Lawful (fun _ event => BlocksAdvance event) (licenseError.session (awtOpen 44100 1 1 1 0) [.exec "a"]).trace := by
  intro advances
  have room : Lawful (fun _ event => roomForFrames event)
      (licenseError.session (awtOpen 44100 1 1 1 0) [.exec "a"]).trace :=
    advances.weaken fun _ _ advances => advances.room
  revert room
  decide +kernel

def oneFrame : Script where
  packets _ := [⟨0, 0⟩]
  yields _ := [pcmFrame 44100 [[1, 2, 3], [4, 5, 6]]]

theorem one_frame_advances :
    Lawful (fun _ event => BlocksAdvance event) (oneFrame.session (awtOpen 44100 1 1 1 0) [.exec "a", .close]).trace :=
  blocks_advance _ _ (.awtOpen 44100 1 1 1 0) _ (by decide +kernel)

end Awt
