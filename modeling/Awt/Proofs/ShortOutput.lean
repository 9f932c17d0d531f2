import Awt.Proofs.FilterSession

/-! A filter whose `out` has no room for a block of every channel: the frame that completes
a block does not return. -/

namespace Awt.Lavfi
open OracleProgram

/-- `out` has less memory than the blocks of all channels take. -/
structure Short (channels size : Nat) (awt : AWTContext) : Prop where
  awtSize : awt.awtSize = size
  outBuffer : ∃ buffer, awt.outBuffer = some buffer ∧ buffer.data.length < channels * size

/-- The decoders find no error. -/
def Decodes (law : Law) : Prop :=
  ∀ past before i decObj input result, law past ⟨before, .awt5DecodeStreamBuffer i decObj input, result⟩ → result.ret = 0

section frames

variable {law : Law} {channels size i : Nat} {items : List Nat} {world : LavfiWorld} {inFrame : AVFrame}

/-- Wherever a run stops, it does not return. -/
private def Anywhere (_ : Stop) (_ : LavfiWorld) : Prop := True

private abbrev Cut (channels size : Nat) (world : LavfiWorld) : Prop := Short channels size world.state

private theorem moveIn_anywhere {K : LavfiWorld → Prop} (ignores : Ignores law (fun call => call.allocates) K) (place : Place)
    (buffer : AWTBuffer) (data : List CFloat) (off count : Int) (holds : K world) :
    Meets law (awtBufferMoveIn place buffer data off count) (fun filled final =>
      (filled.size = buffer.size + awtBufferSize count ∧ awtBufferSize off / 4 + awtBufferSize count / 4 ≤ data.length) ∧ K final)
      Anywhere world :=
  (awtBufferMoveIn_outcome ignores data off count holds).weaken (fun _ _ moved => moved) fun _ _ _ => trivial

private theorem deref_anywhere {α : Type} {ptr : Option AWTBuffer} {next : AWTBuffer → LavfiM α} {post : α → LavfiWorld → Prop}
    (rest : ∀ buffer, ptr = some buffer → Meets law (next buffer) post Anywhere world) :
    Meets law (deref ptr >>= next) post Anywhere world := by
  cases ptr with
  | none => exact Meets.stop trivial
  | some buffer => exact Meets.bind (Meets.ret (rest buffer rfl))

/-- The first FIFO holds the frame once its turn is over. -/
private def Receiving (channels size count : Nat) (items : List Nat) (world : LavfiWorld) : Prop :=
  Cut channels size world ∧ ∃ buffer, world.state.inputAt 0 = some buffer ∧ buffer.size = if 0 ∈ items then 0 else (count : Int) * 4

private theorem receivePlane_cut {count : Nat} (counted : inFrame.nbSamples = count) (small : count < 2 ^ 29) (fresh : i ∉ items)
    (receiving : Receiving channels size count (i :: items) world) :
    Meets law (receivePlane inFrame i) (fun result final => result = none ∧ Receiving channels size count items final)
      Anywhere world := by
  apply Meets.get_bind
  refine deref_anywhere fun buffer found => ?_
  split
  · exact Meets.stop trivial
  apply Meets.seq (moveIn_anywhere (K := fun final => final.state = world.state) (fun _ _ _ same _ _ => same) _ buffer _ _ _ rfl)
  intro filled final ⟨⟨bytes, _⟩, same⟩
  apply Meets.modify_bind
  obtain ⟨short, first, present, held⟩ := receiving
  refine Meets.ret ⟨rfl, ?_, ?_⟩
  · rw [Cut, World.update_state, same]
    exact { short with }
  · rw [World.update_state, same, inputAt_setInput (by rw [found]; rfl)]
    by_cases zero : i = 0
    · subst zero
      cases found.symm.trans present
      rw [if_pos (List.mem_cons_self ..)] at held
      refine ⟨filled, if_pos rfl, ?_⟩
      rw [bytes, held, counted, awtBufferSize_ok (by omega) (by omega), if_neg fresh, Int.zero_add]
    · refine ⟨first, by rw [if_neg (Ne.symm zero)]; exact present, ?_⟩
      rw [held]
      simp [Ne.symm zero]

private theorem gatherBlock_cut (start : Int) (short : Cut channels size world) :
    Meets law (gatherBlock start i) (fun _ => Cut channels size) Anywhere world := by
  apply Meets.get_bind
  refine deref_anywhere fun inBuffer _ => deref_anywhere fun input _ => ?_
  apply Meets.seq (moveIn_anywhere (fun _ _ _ short _ _ => short) _ inBuffer _ _ _ short)
  intro filled final ⟨_, short⟩
  exact Meets.modify_bind (Meets.ret { short with })

private theorem decodeBlock_cut (decodes : Decodes law) (short : Cut channels size world) :
    Meets law (decodeBlock i) (fun result final => result = none ∧ Cut channels size final) Anywhere world := by
  apply Meets.get_bind
  refine deref_anywhere fun inBuffer _ => ?_
  dsimp only
  split
  · exact Meets.stop trivial
  apply Meets.call_bind
  intro result lawful
  rw [if_neg (not_not.mpr (decodes _ _ _ _ _ _ lawful))]
  split
  · exact Meets.ret ⟨rfl, short⟩
  · exact Meets.call_bind fun _ _ => Meets.modify_bind (Meets.ret ⟨rfl, { short with }⟩)

/-- The block of the last channel is behind the end of `out`. -/
private theorem passBlock_cut (fits : channels * size * 4 < 2 ^ 31) (within : i < channels)
    (short : Cut channels size world) :
    Meets law (passBlock i) (fun result final => (result = none ∧ i + 1 ≠ channels) ∧ Cut channels size final) Anywhere world := by
  obtain ⟨outBuffer, present, less⟩ := short.outBuffer
  have behind : (i + 1) * size ≤ channels * size := Nat.mul_le_mul_right size within
  rw [Nat.succ_mul] at behind
  apply Meets.get_bind
  refine deref_anywhere fun output _ => ?_
  rw [present, short.awtSize, ← Int.natCast_mul]
  apply Meets.bind (Meets.ret _)
  refine int_seq (fun _ => ?_) fun _ => trivial
  apply Meets.seq (moveIn_anywhere (fun _ _ _ short _ _ => short) _ output _ _ _ short)
  intro filled final ⟨⟨_, reads⟩, short⟩
  apply Meets.modify_bind
  refine Meets.ret ⟨⟨rfl, ?_⟩, { short with }⟩
  rintro rfl
  rw [awtBufferSize_ok (by omega) (by omega), awtBufferSize_ok (by omega) (by omega)] at reads
  rw [Nat.succ_mul] at less
  omega

variable (decodes : Decodes law) (fits : channels * size * 4 < 2 ^ 31) (present : 0 < channels)
include decodes fits present

private theorem blockTurn_cut {stop : Int} (full : size ≤ stop) (short : Cut channels size world) :
    Meets law (blockTurn channels stop 0) (fun _ _ => False) Anywhere world := by
  apply Meets.get_bind
  rw [short.awtSize, if_neg (by omega)]
  apply Meets.call_bind
  intro _ _
  refine deref_anywhere fun inBuffer _ => ?_
  apply Meets.modify_bind
  have emptied : Cut channels size ((world.record (.mark (.block 0)) ()).update fun awt =>
      { awt with inBuffer := some { inBuffer with size := 0 } }) := { short with }
  apply Meets.seq (Meets.each_keeps (fun i world short => gatherBlock_cut 0 short) _ emptied)
  intro _ world short
  have decoding (items : List Nat) : Meets law (Program.each decodeBlock items)
      (fun result final => result = none ∧ Cut channels size final) Anywhere world := by
    apply Meets.each (fun _ => Cut channels size) _ (fun _ short => ⟨rfl, short⟩) _ short
    intro i items world short
    apply (decodeBlock_cut decodes short).imp
    rintro _ final ⟨rfl, short⟩
    exact short
  apply Meets.seq (decoding _)
  rintro _ world ⟨rfl, short⟩
  apply Meets.call_bind
  intro _ _
  have passing : Meets law (Program.each passBlock (List.range channels)) (fun _ _ => False) Anywhere
      (world.record (.mark (.pass 0)) ()) := by
    apply Meets.each_range fun items world => channels - 1 ∈ items ∧ Cut channels size world
    · intro i items world within _ ⟨still, short⟩
      apply (passBlock_cut fits within short).imp
      rintro _ final ⟨⟨rfl, other⟩, short⟩
      refine ⟨(List.mem_cons.mp still).resolve_left fun last => ?_, short⟩
      omega
    · exact fun _ none => absurd none.1 List.not_mem_nil
    · exact ⟨List.mem_range.mpr (by omega), short⟩
  rw [indices_natCast]
  exact Meets.seq passing fun _ _ never => never.elim

private theorem awtFilterFrame_cut {count : Nat} (counted : inFrame.nbSamples = count) (full : size ≤ count)
    (small : count < 2 ^ 29) (fuel : Nat) {inlink : AVFilterLink} (link : inlink.channels = channels)
    (short : Cut channels size world) (empty : ∃ buffer, world.state.inputAt 0 = some buffer ∧ buffer.size = 0) :
    Meets law (awtFilterFrame fuel inlink inFrame) (fun _ _ => False) Anywhere world := by
  have receives : Meets law (Program.each (receivePlane inFrame) (List.range channels))
      (fun _ => Receiving channels size count []) Anywhere (world.record (.mark (.frame inFrame)) ()) := by
    apply Meets.each_range (Receiving channels size count)
    · intro i items world _ fresh receiving
      apply (receivePlane_cut counted small fresh receiving).imp
      rintro _ final ⟨rfl, receiving⟩
      exact receiving
    · exact fun _ received => received
    · obtain ⟨buffer, found, none⟩ := empty
      refine ⟨short, buffer, found, ?_⟩
      rw [none, if_pos (List.mem_range.mpr present)]
  unfold awtFilterFrame
  rw [link]
  apply Meets.call_bind
  intro _ _
  refine Meets.seq (?_ : Meets law (takeBlocks fuel channels inFrame) (fun _ _ => False) _ _) fun _ _ never => never.elim
  unfold takeBlocks
  rw [indices_natCast]
  apply Meets.seq receives
  intro _ world ⟨short, buffer, found, held⟩
  rw [if_neg List.not_mem_nil] at held
  apply Meets.get_bind
  rw [found]
  apply Meets.bind (Meets.ret _)
  dsimp only
  rw [held, Int.mul_ediv_cancel _ (by decide), short.awtSize, if_neg (by omega)]
  refine Meets.seq (?_ : Meets law _ (fun _ _ => False) _ _) fun _ _ never => never.elim
  apply Meets.loop (fun start world => start = 0 ∧ Cut channels size world) _ (fun _ _ _ => trivial) fuel 0 ⟨rfl, short⟩
  rintro _ world ⟨rfl, short⟩
  exact (blockTurn_cut decodes fits present (by omega) short).imp fun _ _ never => never.elim

end frames

/-- No run of the filter returns from a first frame with a full block. -/
theorem Filtering.unreturned {law : Law} (filtering : Filtering) (decodes : Decodes law) {channels size count : Nat}
    (link : filtering.inlink.channels = channels) (fits : channels * size * 4 < 2 ^ 31)
    (short : Short channels size filtering.configured.state)
    (empty : ∃ buffer, filtering.configured.state.inputAt 0 = some buffer ∧ buffer.size = 0) {inFrame : AVFrame}
    (only : filtering.frames = [inFrame]) (counted : inFrame.nbSamples = count) (full : size ≤ count) (small : count < 2 ^ 29)
    (lawful : Lawful law filtering.final.trace) : ¬ ∃ rets, filtering.outcome.1 = .done rets := by
  have present : 0 < channels := by
    have := filtering.present
    omega
  have never : Meets law (awtFilterFrames filtering.fuel filtering.inlink filtering.frames) (fun _ _ => False) Anywhere
      filtering.configured := by
    rw [only]
    apply Meets.seq (awtFilterFrame_cut decodes fits present counted full small filtering.fuel link short empty)
    exact fun _ _ never => never.elim
  have reached := never filtering.oracle lawful
  unfold outcome
  cases executed : (awtFilterFrames filtering.fuel filtering.inlink filtering.frames).run filtering.oracle filtering.configured with
  | mk exit world =>
    rw [executed] at reached
    rintro ⟨rets, rfl⟩
    exact reached

/-- Blocks of 2^27 samples: `in` takes 2^29 bytes, and `out` is to have a float for each of
them, which are 2^31 bytes and no `int`. -/
def hugeBlocks : Filtering where
  oracle := Script.surroundings { awtSize := 2 ^ 27 }
  fuel := 2 ^ 27 + 1
  inlink := ⟨1, 44100⟩
  awt := unconfigured
  frames := [packetFrame 0 0 (2 ^ 27)]
  fresh := fresh_unconfigured
  present := mono_present
  configures := by decide +kernel
  fits := fun _ member => List.mem_singleton.mp member ▸ packetFrame_fits ..
  enough := by simp [received]

theorem huge_short : hugeBlocks.configured.state.awtSize = 2 ^ 27 ∧
    hugeBlocks.configured.state.outBuffer = some ⟨[], 0, 0⟩ ∧
    (hugeBlocks.configured.state.inputAt 0).any (·.size = 0) := by
  decide +kernel

/-- The blocks are passed on from memory that was never allocated. -/
theorem huge_blocks_unreturned {law : Law} (decodes : Decodes law) (lawful : Lawful law hugeBlocks.final.trace) :
    ¬ ∃ rets, hugeBlocks.outcome.1 = .done rets := by
  obtain ⟨sized, missing, empty⟩ := huge_short
  obtain ⟨buffer, found, zero⟩ := (Option.any_eq_true _ _).mp empty
  have short : Short 1 (2 ^ 27) hugeBlocks.configured.state := ⟨sized, _, missing, by decide⟩
  exact hugeBlocks.unreturned decodes rfl (by decide) short
    ⟨buffer, found, of_decide_eq_true zero⟩ rfl (packetFrame_nbSamples ..) (Nat.le_refl _) (by decide) lawful
end Awt.Lavfi
