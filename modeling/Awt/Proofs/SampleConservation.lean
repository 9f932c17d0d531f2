import Awt.Lavfi.Script
import Awt.Lib.Observer
import Awt.Proofs.FifoLedger
import Awt.Proofs.ShortOutput

/-! Every sample that the filter receives is held by a FIFO or was emitted. -/

namespace Awt.Lavfi
open OracleProgram

/-- The account of a filter between two calls: what all channels hold, and the frames
that were emitted. -/
structure Conserved (channels : Nat) (frames : List AVFrame) (world : LavfiWorld) : Prop where
  balance : ∃ input output : Nat, input < world.state.awtSize ∧ output < world.state.pktSize ∧ ∀ i < channels,
    (world.state.inputAt i).map (·.size) = some ((input : Int) * 4) ∧
    (world.state.outputAt i).map (·.size) = some ((output : Int) * 4) ∧
    (stream frames i).length = input + output + (stream (emitted world.trace) i).length
  packets : ∀ out ∈ emitted world.trace, out.nbSamples = world.state.pktSize ∧ out.extendedData.length = channels ∧
    ∀ plane ∈ out.extendedData, (plane.length : Int) = world.state.pktSize
  small : 1 ≤ world.state.pktSize ∧ world.state.pktSize ≤ 2048
  reads : ∀ event ∈ world.trace, Event.reads channels event

variable {rig : Rig}

theorem Rig.mem_outputs {before : Nat} {frames : List AVFrame} {out : AVFrame} (member : out ∈ rig.outputs before frames) :
    ∃ frame ∈ frames, ∃ k, out = rig.output frame k := by
  induction frames generalizing before with
  | nil => cases member
  | cons frame frames ih =>
    rcases List.mem_append.mp member with first | later
    · obtain ⟨k, _, same⟩ := List.mem_map.mp first
      exact ⟨frame, List.mem_cons_self .., k, same.symm⟩
    · obtain ⟨other, known, k, same⟩ := ih later
      exact ⟨other, List.mem_cons_of_mem _ known, k, same⟩

private theorem mod_of_div (total : Nat) {size : Nat} (positive : 0 < size) :
    total - total / size * size < size ∧ total / size * size ≤ total := by
  refine ⟨?_, Nat.div_mul_le_self _ _⟩
  rw [← Nat.mod_eq_sub_div_mul]
  exact Nat.mod_lt _ positive

theorem Rig.Ledger.conserved {frames : List AVFrame} {fifos : Fifos} {world : LavfiWorld}
    (ledger : rig.Ledger frames fifos world.trace) (fits : ∀ frame ∈ frames, frame.Fits rig.channels)
    (ready : rig.Ready fifos world.state) (packet : (rig.pktSize : Int) = Lavfi.pktSize rig.awtSize) :
    Conserved rig.channels frames world := by
  have blocks := mod_of_div (received frames) rig.sized
  have cuts := mod_of_div (received frames / rig.awtSize * rig.awtSize) rig.packed
  have inputs := ledger.held.length_input fits
  have outputs := ledger.held.length_output
  have range := pktSize_range (show 0 < (rig.awtSize : Int) by exact_mod_cast rig.sized)
  refine ⟨⟨(fifos.input 0).length, (fifos.output 0).length, ?_, ?_, fun i within => ⟨?_, ?_, ?_⟩⟩, ?_, ?_, ledger.reads⟩
  · rw [ready.awtSize, inputs]
    exact_mod_cast blocks.1
  · rw [ready.pktSize, outputs]
    exact_mod_cast cuts.1
  · obtain ⟨input, found, sound, held⟩ := ready.input i within
    rw [found, Option.map_some, sound.size, held, ready.level.input i within]
  · obtain ⟨output, found, sound, held⟩ := ready.output i within
    rw [found, Option.map_some, sound.size, held, ready.level.output i within]
  · have emptied := rig.completed_le (received frames)
    rw [length_stream fits within, ledger.packets, Rig.stream_outputs 0 frames within, List.length_map, List.length_range',
      inputs, outputs, Nat.zero_add, rig.completed_zero, Nat.sub_zero]
    omega
  · intro out member
    rw [ledger.packets] at member
    obtain ⟨frame, _, k, rfl⟩ := Rig.mem_outputs member
    refine ⟨ready.pktSize.symm, by simp [Rig.output], fun plane member => ?_⟩
    obtain ⟨i, _, rfl⟩ := List.mem_map.mp member
    rw [List.length_map, List.length_range', ready.pktSize]
  · rw [ready.pktSize, packet]
    exact range

/-- Between any two calls no sample is lost or made up. -/
theorem samples_conserved (filtering : Filtering) (bounded : filtering.Bounded) (succeeds : Lawful Succeeds filtering.final.trace) :
    (∃ rets, filtering.outcome.1 = .done rets) ∧
      Conserved filtering.inlink.channels.toNat filtering.frames filtering.final := by
  obtain ⟨rig, configured, returned, fifos, ready, ledger⟩ := filtering.ledger bounded succeeds
  have fits := filtering.fits
  rw [configured.channels, Int.toNat_natCast] at fits ⊢
  exact ⟨returned, ledger.conserved fits ready configured.packet⟩

/-- Nothing fails around the filter, and it does not return: `out` has no memory. -/
theorem huge_blocks_not_conserved : Lawful Succeeds hugeBlocks.final.trace ∧
    ¬ ((∃ rets, hugeBlocks.outcome.1 = .done rets) ∧ Conserved 1 hugeBlocks.frames hugeBlocks.final) := by
  have lawful : Lawful Succeeds hugeBlocks.final.trace := hugeBlocks.answered fun past before call => by cases call <;> rfl
  exact ⟨lawful, fun whole => huge_blocks_unreturned (fun _ _ _ _ _ _ zero => of_decide_eq_true zero) lawful whole.1⟩

/-- A frame of three samples is held in one block and one sample. -/
def threeHeld : Filtering where
  oracle := ({} : Script).surroundings
  fuel := 4
  inlink := ⟨2, 44100⟩
  awt := unconfigured
  frames := [audioFrame 0 [[1, 2, 3], [4, 5, 6]]]
  fresh := fresh_unconfigured
  present := stereo_present
  configures := by decide +kernel
  fits := by decide
  enough := by decide

theorem three_conserved : (∃ rets, threeHeld.outcome.1 = .done rets) ∧ Conserved 2 threeHeld.frames threeHeld.final :=
  samples_conserved threeHeld ⟨by decide +kernel, by decide +kernel⟩ (by decide +kernel)

end Awt.Lavfi
