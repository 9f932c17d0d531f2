import Awt.Lavc.Decode
import Awt.Lib.Feeding

/-! The decoder behind a queue without bounds: it decodes when it is asked to, and takes
the next packet when it has nothing left of the last one. -/

namespace Awt.Lavc

variable {σ : Type} {codec : AVCodec σ} {dec : Decoder σ}

def Decoder.withBsf (dec : Decoder σ) (bsf : FFBSFContext) : Decoder σ :=
  { dec with internal := { dec.internal with bsf } }

@[simp] theorem withBsf_inPkt (dec : Decoder σ) (bsf : FFBSFContext) : (dec.withBsf bsf).internal.inPkt = dec.internal.inPkt := rfl

@[simp] theorem withBsf_drainingDone (dec : Decoder σ) (bsf : FFBSFContext) :
    (dec.withBsf bsf).internal.drainingDone = dec.internal.drainingDone := rfl

/-- The end of the stream is `none`. -/
structure Queued (σ : Type) where
  queue : List (Option AVPacket)
  dec : Decoder σ

def idle : FFBSFContext := ⟨.unref, false⟩

def front : List (Option AVPacket) → FFBSFContext
  | [] => idle
  | none :: _ => ⟨.unref, true⟩
  | some pkt :: _ => ⟨pkt, false⟩

/-- The end of the stream stays where it is. -/
def taken : List (Option AVPacket) → List (Option AVPacket)
  | some _ :: queue => queue
  | queue => queue

/-- Nothing is left of the last packet. -/
def wants (dec : Decoder σ) : Bool := dec.internal.inPkt.data.isNone && !dec.internal.draining

/-- What a turn gives out: a frame or an error. -/
def outcome (ret : Int) (frame : Option AVFrame) : Option (Except Int AVFrame) :=
  if ret < 0 then if ret = AVERROR_EOF then none else some (.error ret) else frame.map .ok

/-- The loop goes on where there is neither an error nor a frame. -/
def settled (codec : AVCodec σ) (simple : Simple σ) : Option AVFrame × Decoder σ :=
  if simple.ret < 0 ∨ simple.frame.isSome then settle codec simple.ret simple.frame simple.dec else (none, simple.dec)

def Queued.turn (codec : AVCodec σ) (state : Queued σ) : Option (Option (Except Int AVFrame) × Queued σ) :=
  if wants state.dec ∧ state.queue = [] then none
  else do
    let simple ← decodeSimpleInternal codec (state.dec.withBsf (front state.queue))
    let (frame, dec) := settled codec simple
    return (outcome simple.ret frame, ⟨if wants state.dec then taken state.queue else state.queue, dec.withBsf idle⟩)

section blind

private theorem checkDraining_withBsf (avci : AVCodecInternal) (bsf : FFBSFContext) (gotFrame : Bool) (ret : Int) :
    checkDraining { avci with bsf } gotFrame ret =
      ((checkDraining avci gotFrame ret).1, { (checkDraining avci gotFrame ret).2 with bsf }) := by
  unfold checkDraining
  dsimp only
  split
  · split
    · split <;> rfl
    · rfl
  · rfl

private theorem consume_withBsf (avci : AVCodecInternal) (bsf : FFBSFContext) (ret : Int) :
    consume codec { avci with bsf } ret = { consume codec avci ret with bsf } := by
  unfold consume
  dsimp only
  split <;> rfl

/-- The decoder does not look at what waits. -/
private theorem decodePacket_withBsf (dec : Decoder σ) (bsf : FFBSFContext) : decodePacket codec (dec.withBsf bsf) =
    (decodePacket codec dec).map fun simple => { simple with dec := simple.dec.withBsf bsf } := by
  unfold decodePacket
  dsimp only [Decoder.withBsf]
  generalize trimFrame _ _ _ _ _ = trimmed
  cases trimmed with
  | none => rfl
  | some trim =>
    have draining := checkDraining_withBsf dec.internal bsf
      (codec.decode dec.avctx dec.internal.lastPktProps dec.internal.inPkt).gotFrame
      (codec.decode dec.avctx dec.internal.lastPktProps dec.internal.inPkt).ret
    simp only [Option.bind_eq_bind, Option.bind_some, Option.pure_def, Option.map_some, draining, consume_withBsf]

theorem decodeFetched_withBsf (ret : Int) (dec : Decoder σ) (bsf : FFBSFContext) :
    decodeFetched codec ret (dec.withBsf bsf) =
      (decodeFetched codec ret dec).map fun simple => { simple with dec := simple.dec.withBsf bsf } := by
  simp only [decodeFetched, withBsf_drainingDone, withBsf_inPkt, decodePacket_withBsf]
  split
  · rfl
  · split
    · rfl
    · split <;> rfl

theorem decodeSimpleInternal_withBsf {dec : Decoder σ} (busy : wants dec = false) (bsf : FFBSFContext) :
    decodeSimpleInternal codec (dec.withBsf bsf) =
      (decodeSimpleInternal codec dec).map fun simple => { simple with dec := simple.dec.withBsf bsf } := by
  have holds : ¬ (dec.internal.inPkt.data.isNone ∧ !dec.internal.draining) := by
    simpa [wants] using busy
  rw [decodeSimpleInternal, decodeSimpleInternal, if_neg holds, ← decodeFetched_withBsf]
  exact if_neg holds

private theorem nextProps_withBsf (codec : AVCodec σ) (avci : AVCodecInternal) (bsf : FFBSFContext) :
    nextProps codec { avci with bsf } = { nextProps codec avci with bsf } := by
  unfold nextProps
  dsimp only
  split
  · split <;> rfl
  · rfl

theorem settle_withBsf (dec : Decoder σ) (bsf : FFBSFContext) (ret : Int) (frame : Option AVFrame) :
    settle codec ret frame (dec.withBsf bsf) =
      ((settle codec ret frame dec).1, (settle codec ret frame dec).2.withBsf bsf) := by
  have next := nextProps_withBsf codec
    (if ret = AVERROR_EOF then { dec.internal with drainingDone := true } else dec.internal) bsf
  have same : (if ret = AVERROR_EOF then { dec.internal with bsf, drainingDone := true } else { dec.internal with bsf }) =
      { (if ret = AVERROR_EOF then { dec.internal with drainingDone := true } else dec.internal) with bsf } := by
    split <;> rfl
  unfold settle
  dsimp only [Decoder.withBsf]
  rw [same, next]
  cases frame with
  | none => rfl
  | some frame =>
    dsimp only
    split <;> rfl

private theorem settled_withBsf (simple : Simple σ) (bsf : FFBSFContext) :
    settled codec { simple with dec := simple.dec.withBsf bsf } =
      ((settled codec simple).1, (settled codec simple).2.withBsf bsf) := by
  unfold settled
  dsimp only
  split
  · exact settle_withBsf _ _ _ _
  · rfl

end blind

/-- Nothing follows the end of the stream. -/
def Queued.put (state : Queued σ) (input : Option AVPacket) : Queued σ :=
  if none ∈ state.queue then state else { state with queue := state.queue ++ [input] }

private theorem end_stays {queue : List (Option AVPacket)} (wanting : Bool) :
    none ∈ (if wanting then taken queue else queue) ↔ none ∈ queue := by
  cases wanting with
  | false => rfl
  | true => rcases queue with _ | ⟨_ | pkt, queue⟩ <;> simp [taken]

theorem Queued.turn_later (state : Queued σ) (made : Option (Except Int AVFrame)) (next : Queued σ) (input : Option AVPacket)
    (turned : state.turn codec = some (made, next)) : (state.put input).turn codec = some (made, next.put input) := by
  obtain ⟨queue, dec⟩ := state
  unfold Queued.turn at turned
  dsimp only at turned
  split at turned
  · cases turned
  case isFalse ready =>
  obtain ⟨simple, decodes, done⟩ := Option.bind_eq_some_iff.mp turned
  cases done
  by_cases ended : none ∈ queue
  · have still := (end_stays (wants dec)).mpr ended
    rw [Queued.put, if_pos ended, Queued.put, if_pos still, Queued.turn, if_neg ready, decodes]
    rfl
  have still := fun inside => ended ((end_stays (wants dec)).mp inside)
  rw [Queued.put, if_neg ended, Queued.put, if_neg still, Queued.turn]
  have fed : ¬ (wants dec ∧ queue ++ [input] = []) := by simp
  rw [if_neg fed]
  dsimp only
  cases queue with
  | cons first queue =>
    have same : front (first :: queue ++ [input]) = front (first :: queue) := by cases first <;> rfl
    have left : taken (first :: queue ++ [input]) = taken (first :: queue) ++ [input] := by cases first <;> rfl
    rw [same, decodes, left]
    simp only [Option.bind_eq_bind, Option.bind_some, Option.pure_def]
    split <;> rfl
  | nil =>
    have busy : wants dec = false := by simpa using ready
    rw [decodeSimpleInternal_withBsf busy] at decodes ⊢
    obtain ⟨simple, plain, made⟩ := Option.map_eq_some_iff.mp decodes
    cases made
    rw [plain, busy]
    simp only [Option.map_some, Option.bind_eq_bind, Option.bind_some, Option.pure_def, settled_withBsf]
    rfl

/-- The decoder with its queue. -/
def decoding (codec : AVCodec σ) : Feeding.Machine (Queued σ) (Option AVPacket) (Except Int AVFrame) where
  put state input := state.put input
  turn state := state.turn codec
  later := Queued.turn_later

end Awt.Lavc
