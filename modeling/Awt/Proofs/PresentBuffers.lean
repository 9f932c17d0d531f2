import Awt.Lavfi.Filter
import Awt.Proofs.FifoOutline

/-! Once its buffers exist, `awt_filter_frame` finds them at every frame, whatever its
surroundings answer. -/

namespace Awt.Lavfi
open OracleProgram

/-- All buffers exist, whatever they hold. -/
structure Present (channels : Nat) (awt : AWTContext) : Prop where
  input : ∃ buffers, awt.input = some buffers ∧ buffers.length = channels
  output : ∃ buffers, awt.output = some buffers ∧ buffers.length = channels
  inBuffer : ∃ buffer, awt.inBuffer = some buffer
  outBuffer : ∃ buffer, awt.outBuffer = some buffer

/-- The program was not stopped at a missing buffer. -/
def Found (why : Stop) (_ : LavfiWorld) : Prop := why ≠ .fault .nullBuffer

section frames

variable {law : Law} {channels i : Nat} {awt : AWTContext} {buffer : AWTBuffer} {world : LavfiWorld}

namespace Present

theorem inputAt (present : Present channels awt) (within : i < channels) : ∃ buffer, awt.inputAt i = some buffer := by
  obtain ⟨buffers, found, counted⟩ := present.input
  exact ⟨buffers[i], by rw [AWTContext.inputAt, found]; exact List.getElem?_eq_getElem (by omega)⟩

theorem outputAt (present : Present channels awt) (within : i < channels) : ∃ buffer, awt.outputAt i = some buffer := by
  obtain ⟨buffers, found, counted⟩ := present.output
  exact ⟨buffers[i], by rw [AWTContext.outputAt, found]; exact List.getElem?_eq_getElem (by omega)⟩

theorem setInput (present : Present channels awt) : Present channels (awt.setInput i buffer) := by
  obtain ⟨buffers, found, counted⟩ := present.input
  refine { present with input := ⟨buffers.set i buffer, ?_, ?_⟩ }
  · rw [AWTContext.setInput, found, Option.map_some]
  · rw [List.length_set, counted]

theorem setOutput (present : Present channels awt) : Present channels (awt.setOutput i buffer) := by
  obtain ⟨buffers, found, counted⟩ := present.output
  refine { present with output := ⟨buffers.set i buffer, ?_, ?_⟩ }
  · rw [AWTContext.setOutput, found, Option.map_some]
  · rw [List.length_set, counted]

end Present

private def Kept (channels : Nat) (world : LavfiWorld) : Prop := Present channels world.state

private theorem Kept.call {request : Call} (kept : Kept channels world) : After law request (fun _ => Kept channels) world :=
  fun _ _ => kept

private theorem memory_found {α : Type} {result : Except Awt.Fault α} (kept : Kept channels world) :
    Meets law (memory result) (fun _ => Kept channels) Found world :=
  (memory_outcome kept).weaken (fun _ _ held => held.2) fun _ _ stopped => stopped.1

private theorem awtBufferMoveIn_found (place : Place) (data : List CFloat) (off count : Int) (kept : Kept channels world) :
    Meets law (awtBufferMoveIn place buffer data off count) (fun _ => Kept channels) Found world := by
  have moves : Meets law (awtBufferMoveIn place buffer data off count) _ _ world :=
    awtBufferMoveIn_outcome (fun _ _ _ kept _ _ => kept) data off count kept
  exact moves.weaken (fun _ _ moved => moved.2) fun _ _ stopped => stopped.1

private theorem awtBufferUpdate_found (count : Int) (kept : Kept channels world) :
    Meets law (awtBufferUpdate buffer count) (fun _ => Kept channels) Found world := by
  refine int_seq (fun _ => ?_) fun _ => nofun
  split
  · apply Meets.seq (memory_found kept)
    exact fun _ _ kept => Meets.ret kept
  · exact Meets.ret kept

private theorem receivePlane_found (inFrame : AVFrame) (within : i < channels) (kept : Kept channels world) :
    Meets law (receivePlane inFrame i) (fun _ => Kept channels) Found world := by
  obtain ⟨buffer, found⟩ := kept.inputAt within
  apply Meets.get_bind
  rw [found]
  apply Meets.bind (Meets.ret _)
  split
  · exact Meets.stop nofun
  apply Meets.seq (awtBufferMoveIn_found _ _ _ _ kept)
  intro filled world kept
  exact Meets.modify_bind (Meets.ret kept.setInput)

private theorem gatherBlock_found (start : Int) (within : i < channels) (kept : Kept channels world) :
    Meets law (gatherBlock start i) (fun _ => Kept channels) Found world := by
  obtain ⟨inBuffer, present⟩ := kept.inBuffer
  obtain ⟨buffer, found⟩ := kept.inputAt within
  apply Meets.get_bind
  rw [present, found]
  apply Meets.bind (Meets.ret _)
  apply Meets.bind (Meets.ret _)
  apply Meets.seq (awtBufferMoveIn_found _ _ _ _ kept)
  intro filled world kept
  exact Meets.modify_bind (Meets.ret { kept with inBuffer := ⟨filled, rfl⟩ })

private theorem decodeBlock_found (kept : Kept channels world) :
    Meets law (decodeBlock i) (fun _ => Kept channels) Found world := by
  obtain ⟨inBuffer, present⟩ := kept.inBuffer
  apply Meets.get_bind
  rw [present]
  apply Meets.bind (Meets.ret _)
  dsimp only
  split
  · exact Meets.stop nofun
  apply Meets.call_bind
  intro result _
  split
  · exact Meets.call_bind fun _ _ => Meets.call_bind fun _ _ => Meets.ret kept
  split
  · exact Meets.ret kept
  · exact Meets.call_bind fun _ _ => Meets.modify_bind (Meets.ret { kept with })

private theorem passBlock_found (within : i < channels) (kept : Kept channels world) :
    Meets law (passBlock i) (fun _ => Kept channels) Found world := by
  obtain ⟨outBuffer, present⟩ := kept.outBuffer
  obtain ⟨buffer, found⟩ := kept.outputAt within
  apply Meets.get_bind
  rw [present, found]
  apply Meets.bind (Meets.ret _)
  apply Meets.bind (Meets.ret _)
  refine int_seq (fun _ => ?_) fun _ => nofun
  apply Meets.seq (awtBufferMoveIn_found _ _ _ _ kept)
  intro filled world kept
  exact Meets.modify_bind (Meets.ret kept.setOutput)

private theorem dropInput_found (count : Int) (within : i < channels) (kept : Kept channels world) :
    Meets law (dropInput count i) (fun _ => Kept channels) Found world := by
  obtain ⟨buffer, found⟩ := kept.inputAt within
  apply Meets.get_bind
  rw [found]
  apply Meets.bind (Meets.ret _)
  apply Meets.seq (awtBufferUpdate_found count kept)
  intro updated world kept
  exact Meets.modify_bind (Meets.ret kept.setInput)

private theorem dropOutput_found (count : Int) (within : i < channels) (kept : Kept channels world) :
    Meets law (dropOutput count i) (fun _ => Kept channels) Found world := by
  obtain ⟨buffer, found⟩ := kept.outputAt within
  apply Meets.get_bind
  rw [found]
  apply Meets.bind (Meets.ret _)
  apply Meets.seq (awtBufferUpdate_found count kept)
  intro updated world kept
  exact Meets.modify_bind (Meets.ret kept.setOutput)

private theorem fillPlane_found (start : Int) (fresh : Nat → Nat → CFloat) (within : i < channels)
    (kept : Kept channels world) : Meets law (fillPlane start fresh i) (fun _ => Kept channels) Found world := by
  obtain ⟨buffer, found⟩ := kept.outputAt within
  apply Meets.get_bind
  rw [found]
  apply Meets.bind (Meets.ret _)
  exact memory_found kept

/-- A loop over the channels. -/
private theorem each_found {turn : Nat → LavfiM (Option Int)} (step : ∀ i world, i < channels → Kept channels world →
      Meets law (turn i) (fun _ => Kept channels) Found world) (kept : Kept channels world) :
    Meets law (Program.each turn (indices channels)) (fun _ => Kept channels) Found world := by
  rw [indices_natCast]
  apply Meets.each_range fun _ => Kept channels
  · intro i items world within _ kept
    apply (step i world within kept).imp
    intro result final kept
    cases result with
    | none => exact kept
    | some result => exact kept
  · exact fun _ kept => kept
  · exact kept

private theorem blockTurn_found (stop start : Int) (kept : Kept channels world) :
    Meets law (blockTurn channels stop start) (fun _ => Kept channels) Found world := by
  apply Meets.get_bind
  split
  · exact Meets.ret kept
  apply Meets.call_bind
  intro _ _
  obtain ⟨inBuffer, present⟩ := kept.inBuffer
  rw [present]
  apply Meets.bind (Meets.ret _)
  apply Meets.modify_bind
  have emptied : Kept channels ((world.record (.mark (.block start)) ()).update fun awt =>
      { awt with inBuffer := some { inBuffer with size := 0 } }) := { kept with inBuffer := ⟨_, rfl⟩ }
  apply Meets.seq (each_found (fun i world within kept => gatherBlock_found start within kept) emptied)
  intro _ world kept
  apply Meets.seq (Meets.each_keeps (fun i world kept => decodeBlock_found kept) _ kept)
  intro result world kept
  cases result with
  | some ret => exact Meets.ret kept
  | none =>
    apply Meets.call_seq kept.call
    intro _ world kept
    apply Meets.seq (each_found (fun i world within kept => passBlock_found within kept) kept)
    exact fun _ _ kept => Meets.ret kept

private theorem packetTurn_found (inFrame : AVFrame) (stop start : Int) (kept : Kept channels world) :
    Meets law (packetTurn channels inFrame stop start) (fun _ => Kept channels) Found world := by
  apply Meets.get_bind
  split
  · exact Meets.ret kept
  apply Meets.call_seq kept.call
  intro _ world kept
  apply Meets.call_seq kept.call
  intro answer world kept
  cases answer with
  | none => exact Meets.ret kept
  | some fresh =>
    dsimp only
    rw [indices_natCast]
    apply Meets.seq (Meets.collect_keeps (fun i member world kept =>
      fillPlane_found start fresh (List.mem_range.mp member) kept) kept)
    intro planes world kept
    apply Meets.call_bind
    intro ret _
    split
    · exact Meets.ret kept
    · exact Meets.ret kept

private theorem expired (world : LavfiWorld) (_ : Kept channels world) : Found .timeout world := nofun

variable (present : 0 < channels)
include present

private theorem takeBlocks_found (fuel : Nat) (inFrame : AVFrame) (kept : Kept channels world) :
    Meets law (takeBlocks fuel channels inFrame) (fun _ => Kept channels) Found world := by
  apply Meets.seq (each_found (fun i world within kept => receivePlane_found inFrame within kept) kept)
  intro _ world kept
  obtain ⟨buffer, found⟩ := kept.inputAt present
  apply Meets.get_bind
  rw [found]
  apply Meets.bind (Meets.ret _)
  dsimp only
  split
  · exact Meets.ret kept
  apply Meets.seq (Meets.loop_keeps (fun start world kept => blockTurn_found _ start kept) expired fuel 0 kept)
  intro result world kept
  cases result with
  | error ret => exact Meets.ret kept
  | ok start =>
    apply Meets.seq (each_found (fun i world within kept => dropInput_found start within kept) kept)
    exact fun _ _ kept => Meets.ret kept

private theorem givePackets_found (fuel : Nat) (inFrame : AVFrame) (kept : Kept channels world) :
    Meets law (givePackets fuel channels inFrame) (fun _ => Kept channels) Found world := by
  obtain ⟨buffer, found⟩ := kept.outputAt present
  apply Meets.get_bind
  rw [found]
  apply Meets.bind (Meets.ret _)
  dsimp only
  split
  · exact Meets.ret kept
  apply Meets.seq (Meets.loop_keeps (fun start world kept => packetTurn_found inFrame _ start kept) expired fuel 0 kept)
  intro result world kept
  cases result with
  | error ret => exact Meets.ret kept
  | ok start =>
    apply Meets.seq (each_found (fun i world within kept => dropOutput_found start within kept) kept)
    exact fun _ _ kept => Meets.ret kept

private theorem awtFilterFrame_found (fuel : Nat) {inlink : AVFilterLink} (counted : inlink.channels = channels)
    (inFrame : AVFrame) (kept : Kept channels world) :
    Meets law (awtFilterFrame fuel inlink inFrame) (fun _ => Kept channels) Found world := by
  unfold awtFilterFrame
  rw [counted]
  apply Meets.call_seq kept.call
  intro _ world kept
  apply Meets.seq (takeBlocks_found present fuel inFrame kept)
  intro early world kept
  cases early with
  | some ret => exact Meets.bind (Meets.ret (Meets.call_bind fun _ _ => Meets.ret kept))
  | none =>
    apply Meets.seq (givePackets_found present fuel inFrame kept)
    exact fun _ _ kept => Meets.call_bind fun _ _ => Meets.ret kept

/-- No frame finds a buffer missing. -/
theorem Present.frames_found {inlink : AVFilterLink} (counted : inlink.channels = channels)
    (buffers : Present channels world.state) (fuel : Nat) (frames : List AVFrame) (oracle : Oracle Surroundings AWTContext) :
    ((awtFilterFrames fuel inlink frames).run oracle world).1 ≠ .stop (.fault .nullBuffer) := by
  have reached : Meets (fun _ _ => True) (awtFilterFrames fuel inlink frames) (fun _ => Kept channels) Found world :=
    Meets.collect_keeps (fun inFrame _ world kept => awtFilterFrame_found present fuel counted inFrame kept) buffers
  have lawful : Lawful (fun _ _ => True) ((awtFilterFrames fuel inlink frames).run oracle world).2.trace :=
    fun _ _ _ _ => trivial
  have ended := reached oracle lawful
  cases executed : (awtFilterFrames fuel inlink frames).run oracle world with
  | mk exit final =>
    rw [executed] at ended
    rintro rfl
    exact ended rfl

end frames
end Awt.Lavfi
