import Awt.Proofs.LoopOutline

/-! A proof outline of `awt_filter_frame`: the loop over a frame with the copy loop
and the decode loop inside it. -/

namespace Awt
open OracleProgram

/-- What a copy into the buffer of channel `i` leads to; a bad one ends the program. -/
def Copied (frame : AVFrame) (off count : Int) (i : Nat) (post : AwtWorld → Prop) (halt : Stop → AwtWorld → Prop)
    (world : AwtWorld) : Prop :=
  match frame.extendedData[i]?, world.state.buffer i with
  | none, _ => halt (.fault (.missingPlane i)) world
  | some _, none => halt (.fault (.missingBuffer i)) world
  | some src, some dst =>
    match memcpy dst world.state.nbBuffer src off count with
    | .error why => halt (.fault why) world
    | .ok filled => post (world.update (·.setBuffer i (some filled)))

/-- `copying` and `decoding` are indexed by the channels that are still to come, and
`decoding` by the offset that the next turn starts at. -/
structure FilterOutline (law : Law) (channels : Int) (frame : AVFrame) where
  head : Int → AwtWorld → Prop
  copying : Int → Int → List Nat → AwtWorld → Prop
  decoding : Int → List Nat → AwtWorld → Prop
  left : Int → AwtWorld → Prop
  halt : Stop → AwtWorld → Prop
  finish : ∀ off world, ¬ off < frame.nbSamples → head off world → left 0 world
  enter : ∀ off world, off < frame.nbSamples → head off world →
    copying off (min (world.state.awtSize - world.state.nbBuffer) (frame.nbSamples - off)) (indices channels) world
  copy : ∀ off count i rest world, copying off count (i :: rest) world →
    After law (.memcpy i world.state.nbBuffer off count)
      (fun _ => Copied frame off count i (copying off count rest) halt) world
  short : ∀ off count world, copying off count [] world → world.state.nbBuffer + count < world.state.awtSize →
    left 0 (world.update fun awt => { awt with nbBuffer := awt.nbBuffer + count })
  full : ∀ off count world, copying off count [] world → ¬ world.state.nbBuffer + count < world.state.awtSize →
    decoding (off + count) (indices channels) (world.update fun awt => { awt with nbBuffer := 0 })
  decode : ∀ off i rest world, decoding off (i :: rest) world →
    After law (.awt5DecodeStreamBuffer i (world.state.decoder i) (world.state.buffer i)) (fun result world =>
      if result.ret ≠ 0 then
        After law (.logCallback .error (.decoderError result.ret) (some result.ret)) (fun _ =>
          After law (.awt5PrintErrText result.ret) fun _ => left result.ret) world
      else if result.found = [] then decoding off rest world
      else After law (.callback i result.found result.percent world.state.posAt) (fun stop world =>
          if stop ≠ 0 then left AVERROR_EOF world else decoding off rest world)
        (world.update AWTContext.countFound)) world
  again : ∀ off world, decoding off [] world → head off world

namespace FilterOutline

variable {law : Law} {channels : Int} {frame : AVFrame} (outline : FilterOutline law channels frame)
  {world : AwtWorld}

private theorem copies (off count : Int) (items : List Nat) (holds : outline.copying off count items world) :
    Meets law (Program.each (copyPlane frame off count) items) (fun _ => outline.copying off count [])
      outline.halt world := by
  apply Meets.each (outline.copying off count) _ (fun _ holds => holds) items holds
  intro i rest world holds
  apply Meets.get_bind
  apply Meets.call_bind
  intro answer lawful
  have next := outline.copy off count i rest world holds answer lawful
  simp only [Copied, World.record_state] at next
  cases plane : frame.extendedData[i]? with
  | none =>
    simp only [plane] at next ⊢
    exact Meets.stop next
  | some src =>
    cases buffer : world.state.buffer i with
    | none =>
      simp only [plane, buffer] at next ⊢
      exact Meets.stop next
    | some dst =>
      simp only [plane, buffer] at next ⊢
      cases copied : memcpy dst world.state.nbBuffer src off count with
      | error why =>
        simp only [copied] at next ⊢
        exact Meets.stop next
      | ok filled =>
        simp only [copied] at next ⊢
        exact Meets.modify_bind (Meets.ret next)

private theorem decodes (off : Int) (items : List Nat) (holds : outline.decoding off items world) :
    Meets law (Program.each decodeBlock items) (fun result world => match result with
      | some ret => outline.left ret world
      | none => outline.decoding off [] world) outline.halt world := by
  apply Meets.each (outline.decoding off) _ (fun _ holds => holds) items holds
  intro i rest world holds
  apply Meets.get_bind
  apply Meets.call_bind
  intro result lawful
  have next := outline.decode off i rest world holds result lawful
  beta_reduce at next
  by_cases failed : result.ret ≠ 0
  · rw [if_pos failed] at next ⊢
    apply Meets.call_seq next
    intro _ _ next
    exact Meets.call_seq next fun _ _ left => Meets.ret left
  rw [if_neg failed] at next ⊢
  by_cases silent : result.found = []
  · rw [if_pos silent] at next ⊢
    exact Meets.ret next
  rw [if_neg silent] at next ⊢
  apply Meets.modify_bind
  apply Meets.call_seq next
  intro stop _ next
  by_cases stops : stop ≠ 0
  · rw [if_pos stops] at next ⊢
    exact Meets.ret next
  · rw [if_neg stops] at next ⊢
    exact Meets.ret next

/-- A turn that goes on does so behind the samples it has copied. -/
private theorem turn (off : Int) (holds : outline.head off world) :
    Meets law (filterTurn channels frame off) (fun result final => result.elim
      (fun next => outline.head next final ∧ off < frame.nbSamples ∧
        next = off + min (world.state.awtSize - world.state.nbBuffer) (frame.nbSamples - off))
      (outline.left · final)) outline.halt world := by
  unfold filterTurn
  by_cases within : off < frame.nbSamples
  · rw [if_neg (not_not.mpr within)]
    apply Meets.get_bind
    apply Meets.seq (outline.copies _ _ _ (outline.enter off world within holds))
    intro _ middle copied
    apply Meets.modify_bind
    apply Meets.get_bind
    split
    next partly => exact Meets.ret (outline.short _ _ middle copied partly)
    next filled =>
      apply Meets.modify_bind
      apply Meets.seq (outline.decodes _ _ (outline.full _ _ middle copied filled))
      intro result final decoded
      cases result with
      | some ret => exact Meets.ret decoded
      | none => exact Meets.ret ⟨outline.again _ _ decoded, within, rfl⟩
  · rw [if_pos within]
    exact Meets.ret (outline.finish off world within holds)

theorem sound (expired : ∀ off world, outline.head off world → outline.halt .timeout world) (fuel : Nat)
    (same : world.state.nbDecoder = channels) (holds : outline.head 0 world) :
    Meets law (awtFilterFrame fuel frame) outline.left outline.halt world := by
  subst same
  apply Meets.get_bind
  apply Meets.loop outline.head _ expired fuel 0 holds
  intro off world holds
  apply (outline.turn off holds).imp
  intro result final reached
  cases result with
  | inl next => exact reached.1
  | inr ret => exact reached

/-- With room in the buffer at every turn the loop comes to its end. -/
theorem sound_within (room : ∀ off world, outline.head off world → world.state.nbBuffer < world.state.awtSize)
    (fuel : Nat) (enough : frame.nbSamples.toNat < fuel) (same : world.state.nbDecoder = channels)
    (holds : outline.head 0 world) :
    Meets law (awtFilterFrame fuel frame) outline.left outline.halt world := by
  subst same
  apply Meets.get_bind
  apply Meets.loop_within outline.head (fun off => (frame.nbSamples - off).toNat) _ fuel 0 _ holds
  · intro off world holds
    have free := room off world holds
    apply (outline.turn off holds).imp
    intro result final reached
    cases result with
    | inr ret => exact reached
    | inl next =>
      obtain ⟨again, within, rfl⟩ := reached
      refine ⟨again, ?_⟩
      omega
  · simpa using enough

end FilterOutline
end Awt
