import Awt.Proofs.DecodeSessions

/-! The copy of a packet's properties, which waits in a queue of its own, is always the one
of the packet that is decoded. -/

namespace Awt.Lavc

variable {σ : Type} {codec : AVCodec σ} {dec after : Decoder σ} {fuel : Nat}

/-- What the copy should be. -/
def propsOf (pkt : AVPacket) : Option PacketProps := if pkt.data.isSome then some (copyPacketProps pkt) else none

/-- The decoder that reads the properties of the packet itself. -/
def AVCodec.reading (codec : AVCodec σ) : AVCodec σ :=
  { codec with decode := fun avctx _ pkt => codec.decode avctx (propsOf pkt) pkt }

structure Mirrors (dec : Decoder σ) : Prop where
  tidy : Tidy dec
  props : dec.internal.lastPktProps = propsOf dec.internal.inPkt

private theorem consume_mirrors (plain : codec.setsFrameProps = false) {avci : AVCodecInternal} (ret : Int)
    (same : avci.lastPktProps = propsOf avci.inPkt) :
    (consume codec avci ret).lastPktProps = propsOf (consume codec avci ret).inPkt := by
  unfold consume
  split
  · rfl
  · case isFalse partly =>
    dsimp only
    rw [plain, same]
    unfold propsOf copyPacketProps AVPacket.size at *
    cases data : avci.inPkt.data with
    | none => rfl
    | some bytes =>
      rw [data] at partly
      have left : (bytes.length : Int) - ret = (bytes.length - ret.toNat : Nat) := by
        simp only [Option.getD_some] at partly
        omega
      simpa using left

private theorem checkDraining_mirrors (avci : AVCodecInternal) (gotFrame : Bool) (ret : Int) :
    (checkDraining avci gotFrame ret).2.lastPktProps = avci.lastPktProps := by
  unfold checkDraining
  split
  · split
    · split <;> rfl
    · rfl
  · rfl

private theorem decodePacket_mirrors (plain : codec.setsFrameProps = false) (mirrors : Mirrors dec) {simple : Simple σ}
    (decodes : decodePacket codec dec = some simple) : Mirrors simple.dec := by
  refine ⟨(decodePacket_tidy mirrors.tidy decodes).1, ?_⟩
  unfold decodePacket at decodes
  dsimp only at decodes
  generalize (codec.decode dec.avctx dec.internal.lastPktProps dec.internal.inPkt) = decoded at decodes
  obtain ⟨trim, -, made⟩ := Option.bind_eq_some_iff.mp decodes
  cases made
  apply consume_mirrors plain
  rw [checkDraining_mirrors, (checkDraining_keeps _ _ _).2.2.2]
  exact mirrors.props

/-- Both decoders are asked the same. -/
private theorem decodePacket_reading (mirrors : Mirrors dec) : decodePacket codec.reading dec = decodePacket codec dec := by
  unfold decodePacket AVCodec.reading
  dsimp only
  rw [← mirrors.props]
  rfl

private theorem decodeFetched_reading (mirrors : Mirrors dec) (ret : Int) :
    decodeFetched codec.reading ret dec = decodeFetched codec ret dec := by
  unfold decodeFetched
  rw [decodePacket_reading mirrors]
  rfl

private theorem decodeFetched_mirrors (plain : codec.setsFrameProps = false) (mirrors : Mirrors dec) {ret : Int}
    {simple : Simple σ} (decodes : decodeFetched codec ret dec = some simple) : Mirrors simple.dec := by
  unfold decodeFetched at decodes
  split at decodes
  · cases decodes
    exact mirrors
  split at decodes
  · cases decodes
    exact mirrors
  split at decodes
  · cases decodes
    exact mirrors
  · exact decodePacket_mirrors plain mirrors decodes

/-- The decoder when a packet was fetched for it, or the end of the stream. -/
private theorem fetched_mirrors (plain : codec.setsFrameProps = false) (mirrors : Mirrors dec) (needs : wants dec) :
    Mirrors { (ffDecodeGetPacket codec dec).2.2 with
      internal := { (ffDecodeGetPacket codec dec).2.2.internal with inPkt := (ffDecodeGetPacket codec dec).2.1 } } := by
  have tidy := mirrors.tidy
  obtain ⟨empty, running⟩ := wants_iff needs
  have unset := tidy.fresh empty running
  rcases tidy.mail.receive with ⟨last, received, -⟩ | ⟨-, received, -⟩ | ⟨data, more, received, -⟩
  · rw [fetch_end needs received]
    exact ⟨⟨tidy.lenient, tidy.props, fun _ => rfl, fun _ running => Bool.noConfusion running, tidy.mail⟩, unset⟩
  · rw [fetch_none needs received]
    exact ⟨⟨tidy.lenient, tidy.props, fun _ => rfl, fun _ => tidy.fresh empty, tidy.mail⟩, unset⟩
  · rw [fetch_packet tidy needs received]
    have filled : ¬ dec.internal.bsf.bufferPkt.data = none := fun none => by
      rw [none] at data
      cases data
    refine ⟨⟨tidy.lenient, tidy.props, fun none => absurd none filled, fun none => absurd none filled, Mailbox.idle_mail⟩, ?_⟩
    dsimp only
    rw [plain, propsOf, if_pos data]
    rfl

private theorem fetch_reading : ffDecodeGetPacket codec.reading dec = ffDecodeGetPacket codec dec := rfl

private theorem simple_mirrors (plain : codec.setsFrameProps = false) (mirrors : Mirrors dec) :
    decodeSimpleInternal codec.reading dec = decodeSimpleInternal codec dec ∧
      ∀ simple, decodeSimpleInternal codec dec = some simple → Mirrors simple.dec := by
  unfold decodeSimpleInternal
  rw [fetch_reading]
  split
  · case isTrue needs =>
    have fetched := fetched_mirrors plain mirrors (by simpa [wants] using needs)
    exact ⟨decodeFetched_reading fetched _, fun simple decodes => decodeFetched_mirrors plain fetched decodes⟩
  · exact ⟨decodeFetched_reading mirrors _, fun simple decodes => decodeFetched_mirrors plain mirrors decodes⟩

private theorem loop_mirrors (fuel : Nat) (plain : codec.setsFrameProps = false) (mirrors : Mirrors dec) (discardedSamples : Int) :
    decodeSimpleReceiveFrame codec.reading fuel discardedSamples dec =
        decodeSimpleReceiveFrame codec fuel discardedSamples dec ∧
      ∀ simple, decodeSimpleReceiveFrame codec fuel discardedSamples dec = some simple → Mirrors simple.dec := by
  induction fuel generalizing discardedSamples dec with
  | zero => exact ⟨rfl, fun simple runs => by cases runs⟩
  | succ fuel ih =>
    obtain ⟨same, keeps⟩ := simple_mirrors plain mirrors
    rw [decodeSimpleReceiveFrame, decodeSimpleReceiveFrame, same]
    split
    · refine ⟨rfl, fun simple runs => ?_⟩
      cases runs
      exact mirrors
    cases decodes : decodeSimpleInternal codec dec with
    | none => exact ⟨rfl, fun simple runs => by cases runs⟩
    | some turn =>
      have next := keeps turn decodes
      simp only [Option.bind_eq_bind, Option.bind_some]
      split
      · refine ⟨rfl, fun simple runs => ?_⟩
        cases runs
        exact next
      · exact ih next _

private theorem settle_mirrors (codec : AVCodec σ) (mirrors : Mirrors dec) (ret : Int) (frame : Option AVFrame) :
    settle codec.reading ret frame dec = settle codec ret frame dec ∧ Mirrors (settle codec ret frame dec).2 := by
  refine ⟨rfl, (settle_tidy mirrors.tidy ret frame).1, ?_⟩
  have internal := settle_internal codec ret frame dec
  rw [internal, nextProps_tidy]
  · split <;> exact mirrors.props
  · split <;> exact mirrors.tidy.props

private theorem internal_mirrors (fuel : Nat) (plain : codec.setsFrameProps = false) (mirrors : Mirrors dec) :
    decodeReceiveFrameInternal codec.reading fuel dec = decodeReceiveFrameInternal codec fuel dec ∧
      ∀ ret frame after, decodeReceiveFrameInternal codec fuel dec = some (ret, frame, after) → Mirrors after := by
  obtain ⟨same, keeps⟩ := loop_mirrors fuel plain mirrors 0
  unfold decodeReceiveFrameInternal
  rw [same]
  cases loops : decodeSimpleReceiveFrame codec fuel 0 dec with
  | none => exact ⟨rfl, fun _ _ _ runs => by cases runs⟩
  | some simple =>
    obtain ⟨settles, next⟩ := settle_mirrors codec (keeps simple loops) simple.ret simple.frame
    simp only [Option.bind_eq_bind, Option.bind_some, settles]
    refine ⟨trivial, fun ret frame after made => ?_⟩
    obtain ⟨-, pair⟩ := Prod.mk.inj (Option.some_inj.mp made)
    rwa [pair] at next

private theorem send_mirrors (fuel : Nat) (plain : codec.setsFrameProps = false) {session : Session σ} (mirrors : Mirrors session.dec)
    {avpkt : Option AVPacket} (fine : orderly session (.send avpkt)) :
    avcodecSendPacket codec.reading fuel session.dec avpkt = avcodecSendPacket codec fuel session.dec avpkt ∧
      ∀ ret after, avcodecSendPacket codec fuel session.dec avpkt = some (ret, after) → Mirrors after := by
  have sent : accepted session.dec avpkt →
      Mirrors (session.dec.withBsf (avBsfSendPacket session.dec.internal.bsf (avpkt.getD .unref)).2) := by
    intro takes
    simp only [accepted, Bool.and_eq_true, decide_eq_true_eq] at takes
    have tidy := mirrors.tidy
    have mail := (accepted_put tidy fine takes.2).1
    exact ⟨⟨tidy.lenient, tidy.props, tidy.packet, tidy.fresh, mail⟩, mirrors.props⟩
  constructor
  · unfold avcodecSendPacket
    refine ite_congr rfl (fun _ => rfl) fun running => ite_congr rfl (fun _ => rfl) fun whole => ?_
    dsimp only
    refine ite_congr rfl (fun _ => rfl) fun fine => ite_congr rfl (fun _ => rfl) fun unbuffered => ?_
    have takes : accepted session.dec avpkt := by
      have zero : (avBsfSendPacket session.dec.internal.bsf (avpkt.getD .unref)).1 = 0 := by
        by_contra refuses
        exact fine (avBsfSendPacket_refuses refuses).1
      simp [accepted, running, whole, zero]
    have same := (internal_mirrors fuel plain (sent takes)).1
    change (decodeReceiveFrameInternal codec.reading fuel (session.dec.withBsf _)).bind _ = _
    rw [same]
    rfl
  · intro ret after sends
    cases takes : accepted session.dec avpkt with
    | false =>
      rw [send_refused takes sends]
      exact mirrors
    | true =>
      rcases send_accepted takes sends with ⟨-, -, rfl⟩ | ⟨-, found, frame, next, decodes, -, rfl⟩
      · exact sent takes
      · have mirrors := (internal_mirrors _ plain (sent takes)).2 _ _ _ decodes
        have tidy := mirrors.tidy
        exact ⟨⟨tidy.lenient, tidy.props, tidy.packet, tidy.fresh, tidy.mail⟩, mirrors.props⟩

private theorem receive_mirrors (fuel : Nat) (plain : codec.setsFrameProps = false) (mirrors : Mirrors dec) :
    avcodecReceiveFrame codec.reading fuel dec = avcodecReceiveFrame codec fuel dec ∧
      ∀ ret frame after, avcodecReceiveFrame codec fuel dec = some (ret, frame, after) → Mirrors after := by
  rw [receive_lenient mirrors.tidy.lenient, receive_lenient mirrors.tidy.lenient]
  unfold takeFrame
  cases dec.internal.bufferFrame with
  | none => exact internal_mirrors _ plain mirrors
  | some frame =>
    refine ⟨rfl, fun ret found after runs => ?_⟩
    cases runs
    have tidy := mirrors.tidy
    exact ⟨⟨tidy.lenient, tidy.props, tidy.packet, tidy.fresh, tidy.mail⟩, mirrors.props⟩

private theorem call_mirrors (plain : codec.setsFrameProps = false) {session next : Session σ} {request : Request}
    (mirrors : Mirrors session.dec) (fine : orderly session request) (called : session.call codec fuel request = some next) :
    session.call codec.reading fuel request = some next ∧ Mirrors next.dec := by
  cases request with
  | send avpkt =>
    obtain ⟨same, keeps⟩ := send_mirrors fuel plain mirrors fine
    simp only [Session.call] at called ⊢
    rw [same]
    refine ⟨called, ?_⟩
    obtain ⟨⟨ret, dec⟩, sends, made⟩ := Option.bind_eq_some_iff.mp called
    dsimp only at made
    split at made <;> cases made <;> exact keeps _ _ sends
  | receive =>
    obtain ⟨same, keeps⟩ := receive_mirrors fuel plain mirrors
    simp only [Session.call] at called ⊢
    rw [same]
    refine ⟨called, ?_⟩
    obtain ⟨⟨ret, frame, dec⟩, receives, made⟩ := Option.bind_eq_some_iff.mp called
    cases made
    exact keeps _ _ _ receives

/-- Every call of a client comes to the same with a decoder that reads the properties of
the very packet it decodes. -/
theorem props_are_the_packets (plain : codec.setsFrameProps = false) {avctx : AVCodecContext σ} {options : AVCodecOptions}
    (lenient : options.Lenient) {requests : List Request} {session : Session σ}
    (client : Runs codec fuel (.opened avctx options) requests session) :
    Machine.run (Session.call codec.reading fuel) (.opened avctx options) requests = some session := by
  have start : Mirrors (Session.opened avctx options).dec := ⟨opened_tidy lenient, rfl⟩
  have keeps : ∀ session request next, Mirrors session.dec → orderly session request →
      session.call codec fuel request = some next →
      session.call codec.reading fuel request = some next ∧ Mirrors next.dec :=
    fun _ _ _ mirrors fine called => call_mirrors plain mirrors fine called
  exact Machine.follow keeps client.runs start client.each

theorem props_are_the_packets_twice : ∃ session : Session Unit, session.given.length = 2 ∧
    Machine.run (Session.call bytesCodec.reading 3) bytesSession sendTwice = some session := by
  obtain ⟨session, client, -, given⟩ := sendTwice_runs
  exact ⟨session, given, props_are_the_packets rfl ⟨rfl, rfl⟩ client⟩

end Awt.Lavc
