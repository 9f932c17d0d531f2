import Awt.Proofs.DecodeTurns

/-! Whichever calls a client makes, frames and errors come out as the decoder behind its
queue gives them: the mailbox and the frame decoded ahead of time do not show. -/

namespace Awt.Lavc
open Feeding

variable {σ : Type} {codec : AVCodec σ} {dec : Decoder σ}

/-- A decoder that fails gives no frame, and has no need to ask for another packet. -/
structure AVCodec.Proper (codec : AVCodec σ) : Prop where
  fails : ∀ avctx props pkt, (codec.decode avctx props pkt).ret < 0 → (codec.decode avctx props pkt).gotFrame = false
  decides : ∀ avctx props pkt, (codec.decode avctx props pkt).ret ≠ EAGAIN

/-- What comes of a turn that found a packet to decode. -/
structure Decided (simple : Simple σ) : Prop where
  nonpos : simple.ret ≤ 0
  fails : simple.ret < 0 → simple.frame = none
  decides : simple.ret ≠ EAGAIN

/-- A packet that waits has data, and none waits before the end of the stream. -/
structure Mailbox (bsf : FFBSFContext) : Prop where
  whole : bsf.bufferPkt = .unref ∨ bsf.bufferPkt.data.isSome
  last : bsf.eof → bsf.bufferPkt = .unref

/-- The caller takes frames as they are, and changes of parameters as far as they go. -/
structure AVCodecOptions.Lenient (options : AVCodecOptions) : Prop where
  explode : options.explode = false
  dropChanged : options.dropChanged = false

/-- The properties of a packet are kept as long as its data is. -/
structure Tidy (dec : Decoder σ) : Prop where
  lenient : dec.options.Lenient
  props : dec.internal.pktProps = []
  packet : dec.internal.inPkt.data = none → dec.internal.inPkt = .unref
  fresh : dec.internal.inPkt.data = none → dec.internal.draining = false → dec.internal.lastPktProps = none
  mail : Mailbox dec.internal.bsf

def waiting (bsf : FFBSFContext) : List (Option AVPacket) :=
  if bsf.eof then [none] else if bsf.bufferPkt = .unref then [] else [some bsf.bufferPkt]

/-- The decoder with what waits for it, without the frame that it decoded ahead. -/
def view (dec : Decoder σ) : Queued σ :=
  ⟨waiting dec.internal.bsf, { dec with internal := { dec.internal with bsf := idle, bufferFrame := none } }⟩

namespace Mailbox

variable {bsf : FFBSFContext}

theorem front_waiting (mail : Mailbox bsf) : front (waiting bsf) = bsf := by
  obtain ⟨bufferPkt, eof⟩ := bsf
  unfold waiting
  split
  · case isTrue last =>
    have empty := mail.last last
    dsimp only at last empty
    rw [last, empty]
    rfl
  · case isFalse more =>
    dsimp only at more
    rw [Bool.not_eq_true] at more
    subst more
    split
    · case isTrue empty =>
      dsimp only at empty
      rw [empty]
      rfl
    · rfl

theorem isEmpty_iff (mail : Mailbox bsf) : bsf.bufferPkt.isEmpty ↔ bsf.bufferPkt = .unref := by
  constructor
  · intro empty
    rcases mail.whole with same | data
    · exact same
    · simp [AVPacket.isEmpty, Option.isNone_eq_false_iff.mpr data] at empty
  · intro same
    rw [same]
    rfl

/-- The front of what waits is received. -/
theorem receive (mail : Mailbox bsf) :
    (bsf.eof ∧ avBsfReceivePacket bsf = (AVERROR_EOF, .unref, bsf) ∧ waiting bsf = [none]) ∨
    (bsf = idle ∧ avBsfReceivePacket bsf = (EAGAIN, .unref, bsf) ∧ waiting bsf = []) ∨
    (bsf.bufferPkt.data.isSome ∧ bsf.eof = false ∧ avBsfReceivePacket bsf = (0, bsf.bufferPkt, idle) ∧
      waiting bsf = [some bsf.bufferPkt]) := by
  unfold avBsfReceivePacket ffBsfGetPacketRef waiting
  by_cases last : bsf.eof
  · exact .inl ⟨last, by rw [if_pos last], by rw [if_pos last]⟩
  · rw [if_neg last, if_neg last]
    rw [Bool.not_eq_true] at last
    by_cases empty : bsf.bufferPkt = .unref
    · rw [if_pos (mail.isEmpty_iff.mpr empty), if_pos empty]
      refine .inr (.inl ⟨?_, rfl, rfl⟩)
      obtain ⟨bufferPkt, eof⟩ := bsf
      cases last
      cases empty
      rfl
    · rw [if_neg (fun none => empty (mail.isEmpty_iff.mp none)), if_neg empty]
      refine .inr (.inr ⟨mail.whole.resolve_left empty, last, ?_, rfl⟩)
      obtain ⟨bufferPkt, eof⟩ := bsf
      cases last
      rfl

theorem idle_mail : Mailbox idle := ⟨.inl rfl, fun last => by cases last⟩

end Mailbox

theorem applyParamChange_lenient (codec : AVCodec σ) {options : AVCodecOptions} (lenient : options.Lenient) (avctx : AVCodecContext σ)
    (avpkt : AVPacket) : (applyParamChange codec options avctx avpkt).1 = 0 := by
  unfold applyParamChange
  cases avpkt.avPacketGetSideData .paramChange with
  | none => rfl
  | some data =>
    dsimp only
    rw [if_neg (fun both => by rw [lenient.explode] at both; cases both.2)]

/-- What a turn leaves as it was. -/
structure Keeps (before after : Decoder σ) : Prop where
  bufferFrame : after.internal.bufferFrame = before.internal.bufferFrame
  bsf : after.internal.bsf = before.internal.bsf

private theorem consume_tidy {avci : AVCodecInternal} {ret : Int} (none_unref : avci.inPkt.data = none → avci.inPkt = .unref)
    (none_left : (consume codec avci ret).inPkt.data = none) :
    (consume codec avci ret).inPkt = .unref ∧ (consume codec avci ret).lastPktProps = none := by
  unfold consume at none_left ⊢
  split
  · exact ⟨rfl, rfl⟩
  · case isFalse partly =>
    rw [if_neg partly] at none_left
    have data : avci.inPkt.data = none := Option.map_eq_none_iff.mp none_left
    have size : avci.inPkt.size = 0 := by
      rw [none_unref data]
      rfl
    exact absurd (by omega) partly

private theorem consume_keeps (codec : AVCodec σ) (avci : AVCodecInternal) (ret : Int) : (consume codec avci ret).pktProps = avci.pktProps ∧
    (consume codec avci ret).bsf = avci.bsf ∧ (consume codec avci ret).bufferFrame = avci.bufferFrame := by
  unfold consume
  split <;> exact ⟨rfl, rfl, rfl⟩

theorem checkDraining_keeps (avci : AVCodecInternal) (gotFrame : Bool) (ret : Int) :
    (checkDraining avci gotFrame ret).2.pktProps = avci.pktProps ∧ (checkDraining avci gotFrame ret).2.bsf = avci.bsf ∧
      (checkDraining avci gotFrame ret).2.bufferFrame = avci.bufferFrame ∧
      (checkDraining avci gotFrame ret).2.inPkt = avci.inPkt := by
  unfold checkDraining
  split
  · split
    · split <;> exact ⟨rfl, rfl, rfl, rfl⟩
    · exact ⟨rfl, rfl, rfl, rfl⟩
  · exact ⟨rfl, rfl, rfl, rfl⟩

theorem decodePacket_tidy (tidy : Tidy dec) {simple : Simple σ} (decodes : decodePacket codec dec = some simple) :
    Tidy simple.dec ∧ Keeps dec simple.dec := by
  unfold decodePacket at decodes
  dsimp only at decodes
  obtain ⟨trim, -, made⟩ := Option.bind_eq_some_iff.mp decodes
  cases made
  generalize (codec.decode dec.avctx dec.internal.lastPktProps dec.internal.inPkt) = decoded
  have drained := checkDraining_keeps dec.internal decoded.gotFrame decoded.ret
  generalize checkDraining dec.internal decoded.gotFrame decoded.ret = checked at drained
  obtain ⟨ret, avci⟩ := checked
  obtain ⟨props, bsf, bufferFrame, inPkt⟩ := drained
  dsimp only at props bsf bufferFrame inPkt ⊢
  have kept := consume_keeps codec avci ret
  have left : (consume codec avci ret).inPkt.data = none →
      (consume codec avci ret).inPkt = .unref ∧ (consume codec avci ret).lastPktProps = none := by
    apply consume_tidy
    rw [inPkt]
    exact tidy.packet
  constructor
  · constructor
    · exact tidy.lenient
    · exact (kept.1.trans props).trans tidy.props
    · exact fun data => (left data).1
    · exact fun data _ => (left data).2
    · dsimp only
      rw [kept.2.1, bsf]
      exact tidy.mail
  · exact ⟨kept.2.2.trans bufferFrame, kept.2.1.trans bsf⟩

/-- Nothing is discarded of a frame that there is not. -/
theorem trimFrame_none (avctx : AVCodecContext σ) (options : AVCodecOptions) (skip : SkipSamples) (frame : AVFrame) :
    trimFrame avctx options skip false frame = some ⟨false, frame, skip.skipSamples, 0⟩ := by
  simp [trimFrame, discardFlagged, skipFront, dropPadding, noteSkip]

private theorem decodePacket_decided (proper : codec.Proper) {simple : Simple σ} (decodes : decodePacket codec dec = some simple) :
    Decided simple := by
  unfold decodePacket at decodes
  dsimp only at decodes
  have fails := proper.fails dec.avctx dec.internal.lastPktProps dec.internal.inPkt
  have decides := proper.decides dec.avctx dec.internal.lastPktProps dec.internal.inPkt
  generalize (codec.decode dec.avctx dec.internal.lastPktProps dec.internal.inPkt) = decoded at decodes fails decides
  obtain ⟨trim, trims, made⟩ := Option.bind_eq_some_iff.mp decodes
  cases made
  generalize dec.internal = avci
  have checked : (checkDraining avci decoded.gotFrame decoded.ret).1 ≠ EAGAIN ∧
      ((checkDraining avci decoded.gotFrame decoded.ret).1 < 0 → decoded.gotFrame = false) := by
    unfold checkDraining
    split
    · case isTrue done =>
      have without : decoded.gotFrame = false := by simpa using done.2
      split
      · split
        · exact ⟨show AVERROR_BUG ≠ EAGAIN by decide, fun _ => without⟩
        · exact ⟨decides, fun _ => without⟩
      · exact ⟨decides, fun _ => without⟩
    · exact ⟨decides, fails⟩
  generalize (checkDraining avci decoded.gotFrame decoded.ret).1 = ret at checked
  constructor
  · dsimp only
    split <;> omega
  · intro failed
    dsimp only at failed ⊢
    split at failed
    · case isTrue negative =>
      rw [checked.2 negative, trimFrame_none] at trims
      cases trims
      rfl
    · omega
  · dsimp only
    split
    · exact checked.1
    · decide

private theorem decodeFetched_decided (proper : codec.Proper) {ret : Int} (found : ret = 0 ∨ ret = AVERROR_EOF)
    {simple : Simple σ} (decodes : decodeFetched codec ret dec = some simple) : Decided simple := by
  have ended : Decided (⟨AVERROR_EOF, none, 0, dec⟩ : Simple σ) :=
    ⟨show AVERROR_EOF ≤ 0 by decide, fun _ => rfl, show AVERROR_EOF ≠ EAGAIN by decide⟩
  unfold decodeFetched at decodes
  split at decodes
  · case isTrue failed =>
    rcases found with rfl | rfl
    · cases failed.1
    · exact absurd rfl failed.2
  · split at decodes
    · cases decodes
      exact ended
    · split at decodes
      · cases decodes
        exact ended
      · exact decodePacket_decided proper decodes

theorem decodeFetched_tidy (tidy : Tidy dec) {ret : Int} {simple : Simple σ}
    (decodes : decodeFetched codec ret dec = some simple) : Tidy simple.dec ∧ Keeps dec simple.dec := by
  unfold decodeFetched at decodes
  split at decodes
  · cases decodes
    exact ⟨tidy, rfl, rfl⟩
  · split at decodes
    · cases decodes
      exact ⟨tidy, rfl, rfl⟩
    · split at decodes
      · cases decodes
        exact ⟨tidy, rfl, rfl⟩
      · exact decodePacket_tidy tidy decodes

section fetch

theorem wants_iff (needs : wants dec) : dec.internal.inPkt.data = none ∧ dec.internal.draining = false := by
  simpa [wants] using needs

/-- The decoder at the end of the stream. -/
theorem fetch_end (needs : wants dec)
    (received : avBsfReceivePacket dec.internal.bsf = (AVERROR_EOF, .unref, dec.internal.bsf)) :
    ffDecodeGetPacket codec dec =
      (AVERROR_EOF, .unref, { dec with internal := { dec.internal with draining := true } }) := by
  have running := (wants_iff needs).2
  unfold ffDecodeGetPacket
  rw [if_neg (by simp [running]), received]
  rfl

theorem fetch_none (needs : wants dec)
    (received : avBsfReceivePacket dec.internal.bsf = (EAGAIN, .unref, dec.internal.bsf)) :
    ffDecodeGetPacket codec dec = (EAGAIN, .unref, dec) := by
  have running := (wants_iff needs).2
  unfold ffDecodeGetPacket
  rw [if_neg (by simp [running]), received]
  dsimp only
  rw [if_pos (by decide)]
  obtain ⟨avctx, options, correction, internal⟩ := dec
  cases internal
  cases running
  rfl

/-- The properties of the packet that is fetched are the ones to decode with. -/
theorem fetch_packet (tidy : Tidy dec) (needs : wants dec) {pkt : AVPacket}
    (received : avBsfReceivePacket dec.internal.bsf = (0, pkt, idle)) :
    ffDecodeGetPacket codec dec = (0, pkt, { dec with
      avctx := (applyParamChange codec dec.options dec.avctx pkt).2
      internal := { dec.internal with
        bsf := idle
        lastPktProps := if codec.setsFrameProps then none else some (copyPacketProps pkt) } }) := by
  obtain ⟨empty, running⟩ := wants_iff needs
  have unset := tidy.fresh empty running
  have props := tidy.props
  have changed := applyParamChange_lenient codec tidy.lenient dec.avctx pkt
  unfold ffDecodeGetPacket
  rw [if_neg (by simp [running]), received]
  dsimp only
  rw [if_neg (by decide)]
  generalize applyParamChange codec dec.options dec.avctx pkt = change at changed ⊢
  obtain ⟨ret, avctx⟩ := change
  dsimp only at changed ⊢
  rw [changed, if_neg (by decide)]
  obtain ⟨_, options, correction, internal⟩ := dec
  cases internal
  dsimp only at unset props
  subst unset props
  cases codec.setsFrameProps <;> rfl

end fetch

theorem decodeSimpleInternal_tidy (proper : codec.Proper) (tidy : Tidy dec) {simple : Simple σ}
    (decodes : decodeSimpleInternal codec dec = some simple) :
    (wants dec ∧ waiting dec.internal.bsf = [] ∧ simple = ⟨EAGAIN, none, 0, dec⟩) ∨
    (¬ (wants dec ∧ waiting dec.internal.bsf = []) ∧ Decided simple ∧ Tidy simple.dec ∧
      simple.dec.internal.bufferFrame = dec.internal.bufferFrame ∧
      waiting simple.dec.internal.bsf = if wants dec then taken (waiting dec.internal.bsf) else waiting dec.internal.bsf) := by
  have iff : (dec.internal.inPkt.data.isNone ∧ !dec.internal.draining) ↔ wants dec := by simp [wants]
  unfold decodeSimpleInternal at decodes
  by_cases needs : wants dec
  · rw [if_pos (iff.mpr needs)] at decodes
    obtain ⟨empty, running⟩ := wants_iff needs
    have unref := tidy.packet empty
    rcases tidy.mail.receive with ⟨last, received, waits⟩ | ⟨same, received, waits⟩ | ⟨data, more, received, waits⟩
    · rw [fetch_end needs received] at decodes
      have ended : Tidy { dec with internal := { dec.internal with draining := true, inPkt := .unref } } :=
        ⟨tidy.lenient, tidy.props, fun _ => rfl, fun _ running => Bool.noConfusion running, tidy.mail⟩
      obtain ⟨tidy, kept⟩ := decodeFetched_tidy ended decodes
      refine .inr ⟨fun both => ?_, decodeFetched_decided proper (.inr rfl) decodes, tidy, kept.bufferFrame, ?_⟩
      · rw [waits] at both
        cases both.2
      · rw [kept.bsf, if_pos needs, waits]
        rfl
    · rw [fetch_none needs received] at decodes
      refine .inl ⟨needs, waits, ?_⟩
      cases decodes
      obtain ⟨avctx, options, correction, internal⟩ := dec
      cases internal
      cases unref
      rfl
    · rw [fetch_packet tidy needs received] at decodes
      dsimp only at decodes
      have fetched : Tidy { dec with
          avctx := (applyParamChange codec dec.options dec.avctx dec.internal.bsf.bufferPkt).2
          internal := { dec.internal with
            bsf := idle
            lastPktProps := if codec.setsFrameProps then none else some (copyPacketProps dec.internal.bsf.bufferPkt)
            inPkt := dec.internal.bsf.bufferPkt } } := by
        constructor
        · exact tidy.lenient
        · exact tidy.props
        · intro none
          rw [none] at data
          cases data
        · intro none
          rw [none] at data
          cases data
        · exact Mailbox.idle_mail
      obtain ⟨tidy, kept⟩ := decodeFetched_tidy fetched decodes
      refine .inr ⟨fun both => ?_, decodeFetched_decided proper (.inl rfl) decodes, tidy, kept.bufferFrame, ?_⟩
      · rw [waits] at both
        cases both.2
      · rw [kept.bsf, if_pos needs, waits]
        rfl
  · rw [if_neg (fun both => needs (iff.mp both))] at decodes
    obtain ⟨tidy, kept⟩ := decodeFetched_tidy tidy decodes
    exact .inr ⟨fun both => needs both.1, decodeFetched_decided proper (.inl rfl) decodes, tidy, kept.bufferFrame,
      by rw [kept.bsf, if_neg needs]⟩

theorem nextProps_tidy {avci : AVCodecInternal} (props : avci.pktProps = []) : nextProps codec avci = avci := by
  unfold nextProps
  rw [props]
  split
  · case h_1 found => cases found
  · rfl

theorem settle_internal (codec : AVCodec σ) (ret : Int) (frame : Option AVFrame) (dec : Decoder σ) :
    (settle codec ret frame dec).2.internal =
      nextProps codec (if ret = AVERROR_EOF then { dec.internal with drainingDone := true } else dec.internal) := by
  unfold settle
  cases frame with
  | none => rfl
  | some frame =>
    dsimp only
    split <;> rfl

theorem settle_tidy (tidy : Tidy dec) (ret : Int) (frame : Option AVFrame) :
    Tidy (settle codec ret frame dec).2 ∧ Keeps dec (settle codec ret frame dec).2 := by
  have kept : nextProps codec (if ret = AVERROR_EOF then { dec.internal with drainingDone := true } else dec.internal) =
      if ret = AVERROR_EOF then { dec.internal with drainingDone := true } else dec.internal := by
    apply nextProps_tidy
    split <;> exact tidy.props
  unfold settle
  dsimp only
  rw [kept]
  have done : Tidy { dec with
      internal := if ret = AVERROR_EOF then { dec.internal with drainingDone := true } else dec.internal } := by
    split <;> exact ⟨tidy.lenient, tidy.props, tidy.packet, tidy.fresh, tidy.mail⟩
  have same : Keeps dec { dec with
      internal := if ret = AVERROR_EOF then { dec.internal with drainingDone := true } else dec.internal } := by
    split <;> exact ⟨rfl, rfl⟩
  cases frame with
  | none => exact ⟨done, same⟩
  | some frame =>
    dsimp only
    split
    · exact ⟨done, same⟩
    · exact ⟨⟨done.lenient, done.props, done.packet, done.fresh, done.mail⟩, same.bufferFrame, same.bsf⟩

theorem settled_tidy (codec : AVCodec σ) {simple : Simple σ} (tidy : Tidy simple.dec) :
    Tidy (settled codec simple).2 ∧ Keeps simple.dec (settled codec simple).2 := by
  unfold settled
  split
  · exact settle_tidy tidy _ _
  · exact ⟨tidy, rfl, rfl⟩

/-- A turn of the loop is one of the decoder behind its queue. -/
theorem view_turn (proper : codec.Proper) (tidy : Tidy dec) (unbuffered : dec.internal.bufferFrame = none) {simple : Simple σ}
    (decodes : decodeSimpleInternal codec dec = some simple) :
    (wants dec ∧ waiting dec.internal.bsf = [] ∧ simple = ⟨EAGAIN, none, 0, dec⟩) ∨
    (Decided simple ∧ Tidy (settled codec simple).2 ∧ (settled codec simple).2.internal.bufferFrame = none ∧
      (decoding codec).turn (view dec) = some (outcome simple.ret (settled codec simple).1, view (settled codec simple).2)) := by
  rcases decodeSimpleInternal_tidy proper tidy decodes with waits | ⟨ready, decided, simpleTidy, sameFrame, queue⟩
  · exact .inl waits
  obtain ⟨settledTidy, kept⟩ := settled_tidy codec simpleTidy
  have bufferFrame : (settled codec simple).2.internal.bufferFrame = none :=
    kept.bufferFrame.trans (sameFrame.trans unbuffered)
  refine .inr ⟨decided, settledTidy, bufferFrame, ?_⟩
  have whole : (view dec).dec.withBsf (front (view dec).queue) = dec := by
    unfold view Decoder.withBsf
    dsimp only
    rw [tidy.mail.front_waiting]
    obtain ⟨avctx, options, correction, internal⟩ := dec
    cases internal
    cases unbuffered
    rfl
  have needs : wants (view dec).dec = wants dec := rfl
  change (view dec).turn codec = _
  have after : (settled codec simple).2.withBsf idle = (view (settled codec simple).2).dec := by
    generalize (settled codec simple).2 = next at bufferFrame
    obtain ⟨avctx, options, correction, internal⟩ := next
    cases internal
    cases bufferFrame
    rfl
  have left : (if wants dec then taken (view dec).queue else (view dec).queue) = waiting (settled codec simple).2.internal.bsf := by
    rw [kept.bsf, queue]
    rfl
  unfold Queued.turn
  rw [whole, needs, if_neg (show ¬ (wants dec ∧ (view dec).queue = []) from ready), decodes]
  simp only [Option.bind_eq_bind, Option.bind_some, Option.pure_def, after, left]
  rfl

/-- What an answer hands out; there may be none yet, or none any more. -/
def answered (ret : Int) (frame : Option AVFrame) : Option (Except Int AVFrame) :=
  if ret < 0 then if ret = EAGAIN ∨ ret = AVERROR_EOF then none else some (.error ret) else frame.map .ok

/-- What a decoder without a frame in its buffer answers, and how it is left. -/
structure Receives (codec : AVCodec σ) (before : Decoder σ) (ret : Int) (frame : Option AVFrame) (after : Decoder σ) : Prop where
  tidy : Tidy after
  unbuffered : after.internal.bufferFrame = none
  nonpos : ret ≤ 0
  frame_iff : frame.isSome ↔ ret = 0
  gives : (decoding codec).Gives (view before) (answered ret frame).toList (view after)

theorem settle_again (tidy : Tidy dec) : settle codec EAGAIN none dec = (none, dec) := by
  unfold settle
  dsimp only
  rw [if_neg (by decide), nextProps_tidy tidy.props]

private theorem receives_none (tidy : Tidy dec) (unbuffered : dec.internal.bufferFrame = none) :
    Receives codec dec EAGAIN (settle codec EAGAIN none dec).1 (settle codec EAGAIN none dec).2 := by
  rw [settle_again tidy]
  have without : (none : Option AVFrame).isSome ↔ EAGAIN = 0 := by decide
  exact ⟨tidy, unbuffered, show EAGAIN ≤ 0 by decide, without, .rest _⟩

theorem settle_isSome (ret : Int) (frame : Option AVFrame) (dec : Decoder σ) :
    (settle codec ret frame dec).1.isSome = frame.isSome := by
  unfold settle
  cases frame with
  | none => rfl
  | some frame =>
    dsimp only
    split <;> rfl

/-- The loop gives at most one thing, whichever way it is left. -/
theorem loop_receives (proper : codec.Proper) {fuel : Nat} {discardedSamples : Int} {simple : Simple σ}
    (tidy : Tidy dec) (unbuffered : dec.internal.bufferFrame = none)
    (runs : decodeSimpleReceiveFrame codec fuel discardedSamples dec = some simple) :
    Receives codec dec simple.ret (settle codec simple.ret simple.frame simple.dec).1
      (settle codec simple.ret simple.frame simple.dec).2 := by
  induction fuel generalizing discardedSamples dec with
  | zero => cases runs
  | succ fuel ih =>
    rw [decodeSimpleReceiveFrame] at runs
    split at runs
    · cases runs
      exact receives_none tidy unbuffered
    obtain ⟨turn, decodes, runs⟩ := Option.bind_eq_some_iff.mp runs
    rcases view_turn proper tidy unbuffered decodes with ⟨-, -, rfl⟩ | ⟨decided, settledTidy, bufferFrame, turned⟩
    · cases runs
      exact receives_none tidy unbuffered
    have nonpos := decided.nonpos
    split at runs
    · case isTrue ends =>
      cases runs
      have done : settled codec turn = settle codec turn.ret turn.frame turn.dec := if_pos ends
      rw [done] at settledTidy bufferFrame turned
      have handed : outcome turn.ret (settle codec turn.ret turn.frame turn.dec).1 =
          answered turn.ret (settle codec turn.ret turn.frame turn.dec).1 := by
        rw [outcome, answered]
        simp only [decided.decides, false_or]
      rw [handed] at turned
      refine ⟨settledTidy, bufferFrame, nonpos, ?_, .once turned⟩
      rw [settle_isSome]
      change turn.frame.isSome ↔ turn.ret = 0
      constructor
      · intro given
        by_contra differ
        rw [decided.fails (by omega)] at given
        cases given
      · intro zero
        exact ends.resolve_left (by omega)
    · case isFalse more =>
      have without : turn.frame = none := by
        cases given : turn.frame with
        | none => rfl
        | some frame => exact absurd (.inr (by rw [given]; rfl)) more
      have done : settled codec turn = (none, turn.dec) := if_neg more
      have silent : outcome turn.ret none = none := by
        rw [outcome, if_neg (fun failed => more (.inl failed))]
        rfl
      rw [done] at settledTidy bufferFrame turned
      dsimp only at turned
      rw [silent] at turned
      obtain ⟨tidy, unbuffered, nonpos, isSome, gives⟩ := ih settledTidy bufferFrame runs
      exact ⟨tidy, unbuffered, nonpos, isSome, .turn turned gives⟩

theorem internal_receives (proper : codec.Proper) {fuel : Nat} {ret : Int} {frame : Option AVFrame} {after : Decoder σ}
    (tidy : Tidy dec) (unbuffered : dec.internal.bufferFrame = none)
    (runs : decodeReceiveFrameInternal codec fuel dec = some (ret, frame, after)) : Receives codec dec ret frame after := by
  obtain ⟨simple, loops, made⟩ := Option.bind_eq_some_iff.mp runs
  have same : (simple.ret, settle codec simple.ret simple.frame simple.dec) = (ret, frame, after) := Option.some_inj.mp made
  have receives := loop_receives proper tidy unbuffered loops
  obtain ⟨rfl, settles⟩ := Prod.mk.inj same
  rwa [settles] at receives

section options

private theorem decodePacket_options {simple : Simple σ} (decodes : decodePacket codec dec = some simple) :
    simple.dec.options = dec.options ∧ simple.ret ≤ 0 := by
  unfold decodePacket at decodes
  dsimp only at decodes
  obtain ⟨trim, -, made⟩ := Option.bind_eq_some_iff.mp decodes
  cases made
  refine ⟨rfl, ?_⟩
  dsimp only
  split <;> omega

private theorem decodeFetched_options {ret : Int} {simple : Simple σ} (decodes : decodeFetched codec ret dec = some simple) :
    simple.dec.options = dec.options ∧ simple.ret ≤ 0 := by
  have ended : AVERROR_EOF ≤ 0 := by decide
  unfold decodeFetched at decodes
  split at decodes
  · case isTrue failed =>
    cases decodes
    exact ⟨rfl, failed.1.le⟩
  split at decodes
  · cases decodes
    exact ⟨rfl, ended⟩
  split at decodes
  · cases decodes
    exact ⟨rfl, ended⟩
  · exact decodePacket_options decodes

private theorem fetch_options (codec : AVCodec σ) (dec : Decoder σ) : (ffDecodeGetPacket codec dec).2.2.options = dec.options := by
  unfold ffDecodeGetPacket
  split
  · rfl
  dsimp only
  split
  · rfl
  · split <;> rfl

private theorem simple_options {simple : Simple σ} (decodes : decodeSimpleInternal codec dec = some simple) :
    simple.dec.options = dec.options ∧ simple.ret ≤ 0 := by
  unfold decodeSimpleInternal at decodes
  split at decodes
  · obtain ⟨same, nonpos⟩ := decodeFetched_options decodes
    exact ⟨same.trans (fetch_options codec dec), nonpos⟩
  · exact decodeFetched_options decodes

private theorem loop_options {fuel : Nat} {discardedSamples : Int} {simple : Simple σ}
    (runs : decodeSimpleReceiveFrame codec fuel discardedSamples dec = some simple) :
    simple.dec.options = dec.options ∧ simple.ret ≤ 0 := by
  induction fuel generalizing discardedSamples dec with
  | zero => cases runs
  | succ fuel ih =>
    rw [decodeSimpleReceiveFrame] at runs
    split at runs
    · cases runs
      exact ⟨rfl, show EAGAIN ≤ 0 by decide⟩
    obtain ⟨turn, decodes, runs⟩ := Option.bind_eq_some_iff.mp runs
    obtain ⟨same, nonpos⟩ := simple_options decodes
    split at runs
    · cases runs
      exact ⟨same, nonpos⟩
    · obtain ⟨later, ends⟩ := ih runs
      exact ⟨later.trans same, ends⟩

theorem settle_options (codec : AVCodec σ) (ret : Int) (frame : Option AVFrame) (dec : Decoder σ) :
    (settle codec ret frame dec).2.options = dec.options := by
  unfold settle
  cases frame with
  | none => rfl
  | some frame =>
    dsimp only
    split <;> rfl

/-- A call does not change what the caller has set, and answers zero or an error. -/
private theorem takeFrame_options {fuel : Nat} {ret : Int} {frame : Option AVFrame} {after : Decoder σ}
    (takes : takeFrame codec fuel dec = some (ret, frame, after)) : after.options = dec.options ∧ ret ≤ 0 := by
  unfold takeFrame at takes
  split at takes
  · cases takes
    exact ⟨rfl, le_rfl⟩
  · obtain ⟨simple, loops, made⟩ := Option.bind_eq_some_iff.mp takes
    obtain ⟨same, nonpos⟩ := loop_options loops
    have answer : (simple.ret, settle codec simple.ret simple.frame simple.dec) = (ret, frame, after) := Option.some_inj.mp made
    obtain ⟨rfl, settled⟩ := Prod.mk.inj answer
    have kept := settle_options codec simple.ret simple.frame simple.dec
    rw [settled] at kept
    exact ⟨kept.trans same, nonpos⟩

/-- No frame is dropped for a caller that does not want it. -/
theorem receive_lenient (lenient : dec.options.Lenient) (fuel : Nat) : avcodecReceiveFrame codec fuel dec = takeFrame codec fuel dec := by
  unfold avcodecReceiveFrame
  cases takes : takeFrame codec fuel dec with
  | none => rfl
  | some taken =>
    obtain ⟨ret, frame, after⟩ := taken
    obtain ⟨same, nonpos⟩ := takeFrame_options takes
    have keeps : after.options.dropChanged = false := by
      rw [same]
      exact lenient.dropChanged
    cases frame with
    | none => rfl
    | some frame =>
      rw [Option.bind_eq_bind, Option.bind_some]
      dsimp only
      split
      · rfl
      · case isFalse fine =>
        rw [checkChanged, keeps, if_neg Bool.false_ne_true, show ret = 0 by omega]
        rfl

end options
end Awt.Lavc
