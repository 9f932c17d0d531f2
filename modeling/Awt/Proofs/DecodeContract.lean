import Awt.Lib.Refinement
import Awt.Proofs.DecodeSessions

/-! What a client may rely on: sending and receiving do not refuse both, draining comes to
an end whatever the decoder does, and what is lost when the stream ends too early. -/

namespace Awt.Lavc
open Feeding

variable {σ : Type} {codec : AVCodec σ} {dec after : Decoder σ} {fuel turns : Nat}

section refusals

/-- The loop asks for more only when nothing is left, or when it discarded too much. -/
private theorem loop_waits (proper : codec.Proper) {discardedSamples : Int} {simple : Simple σ} (tidy : Tidy dec)
    (unbuffered : dec.internal.bufferFrame = none)
    (runs : decodeSimpleReceiveFrame codec fuel discardedSamples dec = some simple) (again : simple.ret = EAGAIN) :
    simple.dec.options.maxSamples < simple.discardedSamples ∨
      (wants simple.dec ∧ waiting simple.dec.internal.bsf = [] ∧ Tidy simple.dec) := by
  induction fuel generalizing discardedSamples dec with
  | zero => cases runs
  | succ fuel ih =>
    rw [decodeSimpleReceiveFrame] at runs
    split at runs
    · case isTrue exhausted =>
      cases runs
      exact .inl exhausted
    obtain ⟨turn, decodes, runs⟩ := Option.bind_eq_some_iff.mp runs
    rcases view_turn proper tidy unbuffered decodes with ⟨needs, waits, rfl⟩ | ⟨decided, settledTidy, bufferFrame, -⟩
    · cases runs
      exact .inr ⟨needs, waits, tidy⟩
    split at runs
    · cases runs
      exact absurd again decided.decides
    · case isFalse more =>
      have done : settled codec turn = (none, turn.dec) := if_neg more
      rw [done] at settledTidy bufferFrame
      exact ih settledTidy bufferFrame runs

private theorem waiting_nil {bsf : FFBSFContext} (mail : Mailbox bsf) (empty : waiting bsf = []) : bsf = idle := by
  have whole := mail.front_waiting
  rw [empty] at whole
  exact whole.symm

/-- A decoder that has nothing left takes the next packet. -/
private theorem send_taken (running : dec.internal.draining = false) (empty : dec.internal.bsf = idle) {avpkt : Option AVPacket} {ret : Int}
    (sends : avcodecSendPacket codec turns dec avpkt = some (ret, after)) : ret ≠ EAGAIN := by
  unfold avcodecSendPacket at sends
  rw [if_neg (by rw [running]; decide)] at sends
  split at sends
  · cases sends
    decide
  have sent : (avBsfSendPacket dec.internal.bsf (avpkt.getD .unref)).1 = 0 := by
    rw [empty]
    unfold avBsfSendPacket
    split <;> rfl
  dsimp only at sends
  rw [sent, if_neg (by decide)] at sends
  split at sends
  · cases sends
    decide
  obtain ⟨⟨found, frame, next⟩, -, made⟩ := Option.bind_eq_some_iff.mp sends
  dsimp only at made
  split at made
  · case isTrue failed =>
    cases made
    exact failed.2.1
  · cases made
    decide

/-- After a receive that asks for more no packet is refused: the two ends are never both
blocked, unless one call discarded more samples than the caller allows. -/
theorem never_both_refuse (proper : codec.Proper) {avctx : AVCodecContext σ} {options : AVCodecOptions}
    (lenient : options.Lenient) {requests : List Request} {session : Session σ}
    (client : Runs codec fuel (.opened avctx options) requests session) {frame : Option AVFrame}
    (asks : avcodecReceiveFrame codec turns session.dec = some (EAGAIN, frame, dec))
    (within : ∀ simple, decodeSimpleReceiveFrame codec turns 0 session.dec = some simple →
      simple.discardedSamples ≤ simple.dec.options.maxSamples) {avpkt : Option AVPacket} {ret : Int}
    (sends : avcodecSendPacket codec fuel dec avpkt = some (ret, after)) : ret ≠ EAGAIN := by
  have tidy := (client.consistent proper (opened_consistent lenient)).tidy
  rw [receive_lenient tidy.lenient] at asks
  unfold takeFrame at asks
  split at asks
  · cases asks
  case h_2 unbuffered =>
  obtain ⟨simple, loops, made⟩ := Option.bind_eq_some_iff.mp asks
  have same : (simple.ret, settle codec simple.ret simple.frame simple.dec) = (EAGAIN, frame, dec) := Option.some_inj.mp made
  obtain ⟨again, settles⟩ := Prod.mk.inj same
  rcases loop_waits proper tidy unbuffered loops again with exhausted | ⟨needs, waits, tidy⟩
  · have most := within simple loops
    omega
  · have without : simple.frame = none := by
      have received := (loop_receives proper (client.consistent proper (opened_consistent lenient)).tidy unbuffered loops).frame_iff
      rw [settle_isSome, again] at received
      exact Option.not_isSome_iff_eq_none.mp fun given => by cases received.mp given
    rw [again, without, settle_again tidy] at settles
    cases settles
    have running : simple.dec.internal.draining = false := by
      simp only [wants, Bool.and_eq_true, Bool.not_eq_true'] at needs
      exact needs.2
    exact send_taken running (waiting_nil tidy.mail waits) sends

/-- One packet, its frame, and nothing more. -/
private theorem receive_twice : ∃ session dec after, Runs bytesCodec 3 bytesSession
      [.send (some (packetOf [1])), .receive] session ∧
    avcodecReceiveFrame bytesCodec 3 session.dec = some (EAGAIN, none, dec) ∧
    (∀ simple, decodeSimpleReceiveFrame bytesCodec 3 0 session.dec = some simple →
      simple.discardedSamples ≤ simple.dec.options.maxSamples) ∧
    avcodecSendPacket bytesCodec 3 dec (some (packetOf [2])) = some (0, after) := by
  refine ⟨_, _, _, ⟨by decide, rfl⟩, rfl, fun simple loops => ?_, rfl⟩
  cases loops
  decide

theorem never_both_refuse_once : ∃ session dec after, Runs bytesCodec 3 bytesSession
      [.send (some (packetOf [1])), .receive] session ∧
    avcodecReceiveFrame bytesCodec 3 session.dec = some (EAGAIN, none, dec) ∧
    avcodecSendPacket bytesCodec 3 dec (some (packetOf [2])) = some (0, after) ∧ (0 : Int) ≠ EAGAIN := by
  obtain ⟨session, dec, after, client, asks, within, sends⟩ := receive_twice
  exact ⟨session, dec, after, client, asks, sends, never_both_refuse bytesCodec_proper ⟨rfl, rfl⟩ client asks within sends⟩

end refusals
section draining

/-- A decoder that drains has no packet left, and counts its errors up to a bound. -/
structure Counted (dec : Decoder σ) : Prop where
  emptied : dec.internal.draining → dec.internal.inPkt = .unref
  bounded : dec.internal.drainingDone = false → dec.internal.nbDrainingErrors ≤ nbErrorsMax
  nonneg : 0 ≤ dec.internal.nbDrainingErrors

/-- The errors that a draining decoder may still answer. -/
def budget (avci : AVCodecInternal) : Nat :=
  if avci.drainingDone then 0 else (nbErrorsMax + 1 - avci.nbDrainingErrors).toNat

/-- An answer that is an error counts one. -/
def cost (ret : Int) : Nat := if ret < 0 ∧ ret ≠ EAGAIN ∧ ret ≠ AVERROR_EOF then 1 else 0

/-- A decoder that drains goes on draining, and pays for its errors. -/
structure Pays (before : Decoder σ) (ret : Int) (after : Decoder σ) : Prop where
  counted : Counted after
  draining : before.internal.draining → after.internal.draining
  paid : before.internal.draining → cost ret + budget after.internal ≤ budget before.internal

private theorem cost_zero {ret : Int} (free : 0 ≤ ret ∨ ret = EAGAIN ∨ ret = AVERROR_EOF) : cost ret = 0 := by
  refine if_neg fun all => ?_
  rcases free with nonneg | again | last
  · omega
  · exact all.2.1 again
  · exact all.2.2 last

private theorem cost_le (ret : Int) : cost ret ≤ 1 := by
  unfold cost
  split <;> decide

private theorem Pays.free {ret : Int} (counted : Counted dec) (free : ret = EAGAIN ∨ ret = AVERROR_EOF) : Pays dec ret dec where
  counted := counted
  draining := id
  paid _ := by rw [cost_zero (.inr free), Nat.zero_add]

private theorem Pays.trans {before next last : Decoder σ} {ret : Int} (first : Pays before 0 next) (second : Pays next ret last) :
    Pays before ret last where
  counted := second.counted
  draining drains := second.draining (first.draining drains)
  paid drains := by
    have one := first.paid drains
    have other := second.paid (first.draining drains)
    omega

/-- A drained decoder that gives no frame is done, or one error nearer to it. -/
private theorem checkDraining_pays (avci : AVCodecInternal) (going : avci.drainingDone = false)
    (bounded : avci.nbDrainingErrors ≤ nbErrorsMax) {gotFrame : Bool} {ret : Int} (fails : ret < 0 → gotFrame = false) :
    avci.nbDrainingErrors ≤ (checkDraining avci gotFrame ret).2.nbDrainingErrors ∧
    ((checkDraining avci gotFrame ret).2.drainingDone = false →
      (checkDraining avci gotFrame ret).2.nbDrainingErrors ≤ nbErrorsMax) ∧
    (checkDraining avci gotFrame ret).2.draining = avci.draining ∧
    (avci.draining → cost (checkDraining avci gotFrame ret).1 + budget (checkDraining avci gotFrame ret).2 ≤ budget avci) := by
  have one := cost_le ret
  have start : budget avci = (nbErrorsMax + 1 - avci.nbDrainingErrors).toNat := if_neg (by rw [going]; decide)
  have max : nbErrorsMax = 21 := rfl
  unfold checkDraining
  split
  · split
    · split
      · refine ⟨by dsimp only; omega, fun same => (by cases same), rfl, fun _ => ?_⟩
        have stop := cost_le AVERROR_BUG
        change cost AVERROR_BUG + 0 ≤ _
        omega
      · refine ⟨by dsimp only; omega, fun _ => by dsimp only; omega, rfl, fun _ => ?_⟩
        have left : budget { avci with nbDrainingErrors := avci.nbDrainingErrors + 1 } =
            (nbErrorsMax + 1 - (avci.nbDrainingErrors + 1)).toNat := if_neg (by dsimp only; rw [going]; decide)
        dsimp only
        omega
    · case isFalse fine =>
      refine ⟨le_rfl, fun same => (by cases same), rfl, fun _ => ?_⟩
      rw [cost_zero (.inl (not_lt.mp fine)), Nat.zero_add]
      exact Nat.zero_le _
  · case isFalse other =>
    refine ⟨le_rfl, fun _ => bounded, rfl, fun drains => ?_⟩
    have nonneg : 0 ≤ ret := by
      by_contra failed
      exact other ⟨drains, by rw [fails (by omega)]; rfl⟩
    rw [cost_zero (.inl nonneg), Nat.zero_add]

private theorem consume_counts (codec : AVCodec σ) (avci : AVCodecInternal) (ret : Int) :
    (consume codec avci ret).drainingDone = avci.drainingDone ∧
      (consume codec avci ret).nbDrainingErrors = avci.nbDrainingErrors ∧
      (consume codec avci ret).draining = avci.draining ∧
      (avci.inPkt = .unref → (consume codec avci ret).inPkt = .unref) := by
  unfold consume
  split
  · exact ⟨rfl, rfl, rfl, fun _ => rfl⟩
  · case isFalse partly =>
    refine ⟨rfl, rfl, rfl, fun empty => ?_⟩
    have size : avci.inPkt.size = 0 := by
      rw [empty]
      rfl
    exact absurd (by omega) partly

private theorem decodePacket_pays (proper : codec.Proper) (counted : Counted dec) (going : dec.internal.drainingDone = false)
    {simple : Simple σ} (decodes : decodePacket codec dec = some simple) : Pays dec simple.ret simple.dec := by
  unfold decodePacket at decodes
  dsimp only at decodes
  have fails := proper.fails dec.avctx dec.internal.lastPktProps dec.internal.inPkt
  generalize (codec.decode dec.avctx dec.internal.lastPktProps dec.internal.inPkt) = decoded at decodes fails
  obtain ⟨trim, -, made⟩ := Option.bind_eq_some_iff.mp decodes
  cases made
  obtain ⟨more, bounded, draining, paid⟩ :=
    checkDraining_pays dec.internal going (counted.bounded going) fails
  have kept := checkDraining_keeps dec.internal decoded.gotFrame decoded.ret
  generalize checkDraining dec.internal decoded.gotFrame decoded.ret = checked
    at more bounded draining paid kept ⊢
  obtain ⟨ret, avci⟩ := checked
  obtain ⟨done, errors, drains, empties⟩ := consume_counts codec avci ret
  dsimp only at more bounded draining paid kept ⊢
  refine ⟨⟨fun ends => ?_, fun going => ?_, ?_⟩, fun ends => ?_, fun ends => ?_⟩
  · rw [drains, draining] at ends
    exact empties (kept.2.2.2.trans (counted.emptied ends))
  · rw [errors]
    exact bounded (done.symm.trans going)
  · rw [errors]
    exact counted.nonneg.trans more
  · rw [drains, draining]
    exact ends
  · have same : budget (consume codec avci ret) = budget avci := by rw [budget, budget, done, errors]
    have price : cost (if ret < 0 then ret else 0) = cost ret := by
      split
      · rfl
      · case isFalse fine => rw [cost_zero (.inl (not_lt.mp fine)), cost_zero (.inl le_rfl)]
    rw [same, price]
    exact paid ends

private theorem decodeFetched_pays (proper : codec.Proper) (counted : Counted dec) {ret : Int}
    (fetched : ret < 0 → ret ≠ AVERROR_EOF → dec.internal.draining = false) {simple : Simple σ}
    (decodes : decodeFetched codec ret dec = some simple) : Pays dec simple.ret simple.dec := by
  unfold decodeFetched at decodes
  split at decodes
  · case isTrue failed =>
    cases decodes
    have running : dec.internal.draining = false := fetched failed.1 failed.2
    refine ⟨counted, id, fun drains => ?_⟩
    rw [running] at drains
    cases drains
  split at decodes
  · cases decodes
    exact .free counted (.inr rfl)
  case isFalse going =>
  split at decodes
  · cases decodes
    exact .free counted (.inr rfl)
  · exact decodePacket_pays proper counted (by simpa using going) decodes

private theorem extract_counts (codec : AVCodec σ) (avci : AVCodecInternal) (pkt : AVPacket) :
    (if codec.setsFrameProps then avci else extractPacketProps avci pkt).draining = avci.draining ∧
      (if codec.setsFrameProps then avci else extractPacketProps avci pkt).drainingDone = avci.drainingDone ∧
      (if codec.setsFrameProps then avci else extractPacketProps avci pkt).nbDrainingErrors = avci.nbDrainingErrors := by
  split
  · exact ⟨rfl, rfl, rfl⟩
  · unfold extractPacketProps
    split <;> exact ⟨rfl, rfl, rfl⟩

/-- A packet is there only where the stream did not end. -/
private theorem fetch_counted (codec : AVCodec σ) (counted : Counted dec) :
    Counted { (ffDecodeGetPacket codec dec).2.2 with
      internal := { (ffDecodeGetPacket codec dec).2.2.internal with inPkt := (ffDecodeGetPacket codec dec).2.1 } } := by
  unfold ffDecodeGetPacket
  split
  · exact ⟨fun _ => rfl, counted.bounded, counted.nonneg⟩
  case isFalse running =>
  dsimp only
  split
  · case isTrue failed =>
    refine ⟨fun _ => ?_, counted.bounded, counted.nonneg⟩
    unfold avBsfReceivePacket ffBsfGetPacketRef at failed ⊢
    split
    · rfl
    · case isFalse more =>
      rw [if_neg more] at failed
      split
      · rfl
      · case isFalse full =>
        rw [if_neg full] at failed
        cases failed
  · have kept := extract_counts codec { dec.internal with bsf := (avBsfReceivePacket dec.internal.bsf).2.2 }
      (avBsfReceivePacket dec.internal.bsf).2.1
    generalize (if codec.setsFrameProps then _ else _) = avci at kept ⊢
    obtain ⟨draining, done, errors⟩ := kept
    dsimp only at draining done errors
    have vacuous : ∀ pkt : AVPacket, avci.draining → pkt = .unref := by
      intro pkt drains
      rw [draining] at drains
      exact absurd drains running
    have bounded : avci.drainingDone = false → avci.nbDrainingErrors ≤ nbErrorsMax := by
      rw [done, errors]
      exact counted.bounded
    have nonneg : 0 ≤ avci.nbDrainingErrors := by
      rw [errors]
      exact counted.nonneg
    split <;> exact ⟨vacuous _, bounded, nonneg⟩

/-- Only the end of the stream starts the draining. -/
private theorem fetch_running (running : dec.internal.draining = false) (goes : (ffDecodeGetPacket codec dec).1 ≠ AVERROR_EOF) :
    (ffDecodeGetPacket codec dec).2.2.internal.draining = false := by
  unfold ffDecodeGetPacket at goes ⊢
  rw [if_neg (by rw [running]; decide)] at goes ⊢
  dsimp only at goes ⊢
  split
  · case isTrue negative =>
    rw [if_pos negative] at goes
    exact decide_eq_false goes
  · have kept := extract_counts codec { dec.internal with bsf := (avBsfReceivePacket dec.internal.bsf).2.2 }
      (avBsfReceivePacket dec.internal.bsf).2.1
    split <;> exact kept.1.trans running

private theorem decodeSimpleInternal_pays (proper : codec.Proper) (counted : Counted dec) {simple : Simple σ}
    (decodes : decodeSimpleInternal codec dec = some simple) : Pays dec simple.ret simple.dec := by
  unfold decodeSimpleInternal at decodes
  split at decodes
  · case isTrue needs =>
    have running : dec.internal.draining = false := by simpa using needs.2
    have fetched := fetch_counted codec counted
    have pays := decodeFetched_pays proper fetched (fun _ => fetch_running running) decodes
    have before : ¬ dec.internal.draining := by
      rw [running]
      decide
    exact ⟨pays.counted, fun drains => absurd drains before, fun drains => absurd drains before⟩
  · exact decodeFetched_pays proper counted (fun negative => by cases negative) decodes

private theorem loop_pays (proper : codec.Proper) (counted : Counted dec) {discardedSamples : Int} {simple : Simple σ}
    (runs : decodeSimpleReceiveFrame codec fuel discardedSamples dec = some simple) : Pays dec simple.ret simple.dec := by
  induction fuel generalizing discardedSamples dec with
  | zero => cases runs
  | succ fuel ih =>
    rw [decodeSimpleReceiveFrame] at runs
    split at runs
    · cases runs
      exact .free counted (.inl rfl)
    obtain ⟨turn, decodes, runs⟩ := Option.bind_eq_some_iff.mp runs
    have pays := decodeSimpleInternal_pays proper counted decodes
    split at runs
    · cases runs
      exact pays
    · case isFalse more =>
      have free := cost_zero (.inl (not_lt.mp fun failed => more (.inl failed)))
      have zero : cost 0 = 0 := cost_zero (.inl le_rfl)
      have silent : Pays dec 0 turn.dec := ⟨pays.counted, pays.draining, by rw [zero, ← free]; exact pays.paid⟩
      exact silent.trans (ih pays.counted runs)

private theorem nextProps_counts (codec : AVCodec σ) (avci : AVCodecInternal) : (nextProps codec avci).draining = avci.draining ∧
    (nextProps codec avci).drainingDone = avci.drainingDone ∧
    (nextProps codec avci).nbDrainingErrors = avci.nbDrainingErrors ∧ (nextProps codec avci).inPkt = avci.inPkt := by
  unfold nextProps
  split
  · split <;> exact ⟨rfl, rfl, rfl, rfl⟩
  · exact ⟨rfl, rfl, rfl, rfl⟩

/-- The end of the stream leaves no errors to come. -/
private theorem settle_pays (codec : AVCodec σ) {before : Decoder σ} {ret : Int} (pays : Pays before ret dec) (frame : Option AVFrame) :
    Pays before ret (settle codec ret frame dec).2 := by
  obtain ⟨drains, done, errors, inPkt⟩ := nextProps_counts codec
    (if ret = AVERROR_EOF then { dec.internal with drainingDone := true } else dec.internal)
  rw [← settle_internal codec ret frame dec] at drains done errors inPkt
  have counted := pays.counted
  split at drains
  · case isTrue last =>
    rw [if_pos last] at done errors inPkt
    refine ⟨⟨fun ends => ?_, fun going => ?_, ?_⟩, fun ends => ?_, fun ends => ?_⟩
    · rw [drains] at ends
      exact inPkt.trans (counted.emptied ends)
    · rw [done] at going
      cases going
    · rw [errors]
      exact counted.nonneg
    · rw [drains]
      exact pays.draining ends
    · have none : budget (settle codec ret frame dec).2.internal = 0 := if_pos done
      rw [none, cost_zero (.inr (.inr last))]
      exact Nat.zero_le _
  · case isFalse other =>
    rw [if_neg other] at done errors inPkt
    refine ⟨⟨fun ends => ?_, fun going => ?_, ?_⟩, fun ends => ?_, fun ends => ?_⟩
    · rw [drains] at ends
      exact inPkt.trans (counted.emptied ends)
    · rw [errors]
      exact counted.bounded (done.symm.trans going)
    · rw [errors]
      exact counted.nonneg
    · rw [drains]
      exact pays.draining ends
    · have same : budget (settle codec ret frame dec).2.internal = budget dec.internal := by rw [budget, budget, done, errors]
      rw [same]
      exact pays.paid ends

private theorem internal_pays (proper : codec.Proper) (counted : Counted dec) {ret : Int} {frame : Option AVFrame}
    (runs : decodeReceiveFrameInternal codec fuel dec = some (ret, frame, after)) : Pays dec ret after := by
  obtain ⟨simple, loops, made⟩ := Option.bind_eq_some_iff.mp runs
  have same : (simple.ret, settle codec simple.ret simple.frame simple.dec) = (ret, frame, after) := Option.some_inj.mp made
  have pays := settle_pays codec (loop_pays proper counted loops) simple.frame
  obtain ⟨rfl, settles⟩ := Prod.mk.inj same
  rwa [settles] at pays

/-- How many errors are among what was made. -/
def errors (made : List (Except Int AVFrame)) : Nat := made.countP fun given => !given.toBool

private theorem errors_answered (ret : Int) (frame : Option AVFrame) : errors (answered ret frame).toList = cost ret := by
  unfold answered
  by_cases failed : ret < 0
  · rw [if_pos failed]
    by_cases known : ret = EAGAIN ∨ ret = AVERROR_EOF
    · rw [if_pos known, cost_zero (.inr known)]
      rfl
    · have loud : cost ret = 1 := if_pos ⟨failed, by tauto⟩
      rw [if_neg known, loud]
      rfl
  · rw [if_neg failed, cost_zero (.inl (not_lt.mp failed))]
    cases frame <;> rfl

variable {start : Queued σ} {session next : Session σ} {request : Request}

private theorem Counted.same {other : Decoder σ} (counted : Counted dec) (inPkt : other.internal.inPkt = dec.internal.inPkt)
    (draining : other.internal.draining = dec.internal.draining) (done : other.internal.drainingDone = dec.internal.drainingDone)
    (errors : other.internal.nbDrainingErrors = dec.internal.nbDrainingErrors) : Counted other := by
  refine ⟨?_, ?_, ?_⟩
  · rw [inPkt, draining]
    exact counted.emptied
  · rw [done, errors]
    exact counted.bounded
  · rw [errors]
    exact counted.nonneg

private theorem receive_counted (proper : codec.Proper) (counted : Counted dec) {ret : Int} {frame : Option AVFrame}
    (receives : takeFrame codec fuel dec = some (ret, frame, after)) : Counted after := by
  unfold takeFrame at receives
  split at receives
  · cases receives
    exact counted.same rfl rfl rfl rfl
  · exact (internal_pays proper counted receives).counted

private theorem send_counted (proper : codec.Proper) (counted : Counted dec) {avpkt : Option AVPacket} {ret : Int}
    (sends : avcodecSendPacket codec fuel dec avpkt = some (ret, after)) : Counted after := by
  cases taken : accepted dec avpkt with
  | false =>
    rw [send_refused taken sends]
    exact counted
  | true =>
    have sent : Counted (dec.withBsf (avBsfSendPacket dec.internal.bsf (avpkt.getD .unref)).2) := counted.same rfl rfl rfl rfl
    rcases send_accepted taken sends with ⟨-, -, rfl⟩ | ⟨-, found, frame, next, decodes, -, rfl⟩
    · exact sent
    · exact (internal_pays proper sent decodes).counted.same rfl rfl rfl rfl

private theorem call_counted (proper : codec.Proper) (lenient : session.dec.options.Lenient) (counted : Counted session.dec)
    (called : session.call codec fuel request = some next) : Counted next.dec := by
  cases request with
  | send avpkt =>
    obtain ⟨⟨ret, dec⟩, sends, made⟩ := Option.bind_eq_some_iff.mp called
    dsimp only at made
    split at made <;> cases made <;> exact send_counted proper counted sends
  | receive =>
    obtain ⟨⟨ret, frame, dec⟩, receives, made⟩ := Option.bind_eq_some_iff.mp called
    cases made
    rw [receive_lenient lenient] at receives
    exact receive_counted proper counted receives

private theorem call_pays (proper : codec.Proper) (tidy : Tidy session.dec) (counted : Counted session.dec)
    (drains : session.dec.internal.draining) (called : session.call codec fuel request = some next) :
    next.dec.internal.draining ∧ next.fed = session.fed ∧
      errors next.made + budget next.dec.internal ≤ errors session.made + budget session.dec.internal := by
  cases request with
  | send avpkt =>
    have refused : accepted session.dec avpkt = false := by simp [accepted, drains]
    obtain ⟨⟨ret, dec⟩, sends, made⟩ := Option.bind_eq_some_iff.mp called
    dsimp only at made
    rw [if_neg (by rw [refused]; decide), send_refused refused sends] at made
    cases made
    exact ⟨drains, rfl, le_rfl⟩
  | receive =>
    obtain ⟨⟨ret, frame, dec⟩, receives, made⟩ := Option.bind_eq_some_iff.mp called
    cases made
    rw [receive_lenient tidy.lenient] at receives
    unfold takeFrame at receives
    unfold Session.made
    dsimp only
    cases buffered : session.dec.internal.bufferFrame with
    | some frame =>
      rw [buffered] at receives
      cases receives
      refine ⟨drains, rfl, le_of_eq ?_⟩
      rw [Option.toList_none, List.map_nil, List.append_nil]
      rfl
    | none =>
      rw [buffered] at receives
      have pays := internal_pays proper counted receives
      have paid := pays.paid drains
      have received := internal_receives proper tidy buffered receives
      refine ⟨pays.draining drains, rfl, ?_⟩
      rw [received.unbuffered, Option.toList_none, List.map_nil, List.append_nil, List.append_nil, errors, List.countP_append,
        ← errors, ← errors, errors_answered]
      omega

private theorem opened_counted {avctx : AVCodecContext σ} {options : AVCodecOptions} :
    Counted (Session.opened avctx options).dec where
  emptied drains := by cases drains
  bounded _ := show (0 : Int) ≤ nbErrorsMax by decide
  nonneg := le_rfl

private theorem budget_le (counted : Counted dec) : budget dec.internal ≤ 22 := by
  have nonneg := counted.nonneg
  have max : nbErrorsMax = 21 := rfl
  unfold budget
  split
  · exact Nat.zero_le _
  · omega

private theorem send_drained (drains : dec.internal.draining) (avpkt : Option AVPacket) :
    avcodecSendPacket codec fuel dec avpkt = some (AVERROR_EOF, dec) := by
  unfold avcodecSendPacket
  rw [if_pos drains]
  rfl

/-- A decoder that is done has nothing to do with a call. -/
private theorem receive_done (tidy : Tidy dec) (unbuffered : dec.internal.bufferFrame = none) (drains : dec.internal.draining)
    (done : dec.internal.drainingDone) (allowed : 0 ≤ dec.options.maxSamples) :
    avcodecReceiveFrame codec (fuel + 1) dec = some (AVERROR_EOF, none, dec) := by
  have simple : decodeSimpleInternal codec dec = some ⟨AVERROR_EOF, none, 0, dec⟩ := by
    unfold decodeSimpleInternal decodeFetched
    rw [if_neg (by simp [drains]), if_neg (by decide), if_pos done]
  have loop : decodeSimpleReceiveFrame codec (fuel + 1) 0 dec = some ⟨AVERROR_EOF, none, 0, dec⟩ := by
    rw [decodeSimpleReceiveFrame, if_neg (by omega), simple]
    rfl
  have same : settle codec AVERROR_EOF none dec = (none, dec) := by
    unfold settle
    dsimp only
    rw [if_pos rfl, nextProps_tidy (by exact tidy.props)]
    obtain ⟨avctx, options, correction, internal⟩ := dec
    cases internal
    cases done
    rfl
  rw [receive_lenient tidy.lenient, takeFrame, unbuffered]
  dsimp only
  rw [decodeReceiveFrameInternal, loop, Option.bind_eq_bind, Option.bind_some, same]
  rfl

/-- An answer that there is nothing any more is one of a decoder that is done. -/
private theorem received_end (proper : codec.Proper) (tidy : Tidy dec) {frame : Option AVFrame}
    (ends : avcodecReceiveFrame codec fuel dec = some (AVERROR_EOF, frame, after)) :
    Tidy after ∧ after.internal.bufferFrame = none ∧ after.internal.drainingDone := by
  rw [receive_lenient tidy.lenient] at ends
  unfold takeFrame at ends
  split at ends
  · cases ends
  case h_2 unbuffered =>
  have received := internal_receives proper tidy unbuffered ends
  refine ⟨received.tidy, received.unbuffered, ?_⟩
  obtain ⟨simple, loops, made⟩ := Option.bind_eq_some_iff.mp ends
  have same : (simple.ret, settle codec simple.ret simple.frame simple.dec) = (AVERROR_EOF, frame, after) := Option.some_inj.mp made
  obtain ⟨last, settles⟩ := Prod.mk.inj same
  have internal := settle_internal codec simple.ret simple.frame simple.dec
  have done := (nextProps_counts codec (if simple.ret = AVERROR_EOF then { simple.dec.internal with drainingDone := true }
    else simple.dec.internal)).2.1
  rw [← internal, settles, if_pos last] at done
  exact done

/-- What stays so of a session that drains. -/
private structure Drains (codec : AVCodec σ) (start : Queued σ) (before now : Session σ) : Prop where
  consistent : Consistent codec start now
  counted : Counted now.dec
  drains : now.dec.internal.draining
  fed : now.fed = before.fed
  paid : errors now.made + budget now.dec.internal ≤ errors before.made + budget before.dec.internal

/-- The end of the stream after one packet. -/
private theorem drain_runs : ∃ session last, Runs bytesCodec 3 bytesSession
      [.send (some (packetOf [1])), .receive, .send none] session ∧
    session.dec.internal.draining ∧ Runs bytesCodec 3 session [.receive, .send (some (packetOf [2])), .receive] last :=
  ⟨_, _, ⟨by decide, rfl⟩, rfl, ⟨by decide, rfl⟩⟩

end draining
section ending

/-- What a call answers. -/
def serve (codec : AVCodec σ) (fuel : Nat) (dec : Decoder σ) : Request → Option ((Int × Option AVFrame) × Decoder σ)
  | .send avpkt => (avcodecSendPacket codec fuel dec avpkt).map fun (ret, dec) => ((ret, none), dec)
  | .receive => (avcodecReceiveFrame codec fuel dec).map fun (ret, frame, dec) => ((ret, frame), dec)

@[simp] theorem withBsf_withBsf (dec : Decoder σ) (first second : FFBSFContext) :
    (dec.withBsf first).withBsf second = dec.withBsf second := rfl

variable {bsf : FFBSFContext}

/-- Behind the end of the stream no packet is fetched. -/
private theorem simple_ended (ended : bsf.eof) (dec : Decoder σ) : decodeSimpleInternal codec (dec.withBsf bsf) =
    (decodeSimpleInternal codec (dec.withBsf ⟨.unref, true⟩)).map fun simple => { simple with dec := simple.dec.withBsf bsf } := by
  cases needs : wants dec with
  | false =>
    rw [decodeSimpleInternal_withBsf needs, decodeSimpleInternal_withBsf needs, Option.map_map]
    rfl
  | true =>
    have holds : dec.internal.inPkt.data.isNone ∧ !dec.internal.draining := by
      simpa [wants] using needs
    have running : dec.internal.draining = false := by simpa using holds.2
    have fetched : ∀ bsf : FFBSFContext, bsf.eof → decodeSimpleInternal codec (dec.withBsf bsf) =
        decodeFetched codec AVERROR_EOF
          (({ dec with internal := { dec.internal with draining := true, inPkt := .unref } } : Decoder σ).withBsf bsf) := by
      intro bsf ended
      unfold decodeSimpleInternal ffDecodeGetPacket avBsfReceivePacket ffBsfGetPacketRef
      rw [if_pos (by exact holds), if_neg (by rw [Decoder.withBsf, running]; decide), if_pos (by exact ended)]
      rfl
    rw [fetched bsf ended, fetched ⟨.unref, true⟩ rfl, decodeFetched_withBsf, decodeFetched_withBsf _ _ ⟨.unref, true⟩,
      Option.map_map]
    rfl

private theorem loop_ended (ended : bsf.eof) (discardedSamples : Int) (dec : Decoder σ) :
    decodeSimpleReceiveFrame codec fuel discardedSamples (dec.withBsf bsf) =
      (decodeSimpleReceiveFrame codec fuel discardedSamples (dec.withBsf ⟨.unref, true⟩)).map fun simple =>
        { simple with dec := simple.dec.withBsf bsf } := by
  induction fuel generalizing discardedSamples dec with
  | zero => rfl
  | succ fuel ih =>
    rw [decodeSimpleReceiveFrame, decodeSimpleReceiveFrame, simple_ended ended]
    by_cases excess : discardedSamples > dec.options.maxSamples
    · rw [if_pos (by exact excess), if_pos (by exact excess)]
      rfl
    rw [if_neg (by exact excess), if_neg (by exact excess)]
    have still : decodeSimpleInternal codec (dec.withBsf ⟨.unref, true⟩) = _ := simple_ended rfl dec
    cases decoded : decodeSimpleInternal codec (dec.withBsf ⟨.unref, true⟩) with
    | none => rfl
    | some simple =>
      rw [decoded] at still
      have same : simple.dec = simple.dec.withBsf ⟨.unref, true⟩ := congrArg Simple.dec (Option.some_inj.mp still)
      simp only [Option.map_some, Option.bind_eq_bind, Option.bind_some]
      by_cases ends : simple.ret < 0 ∨ simple.frame.isSome
      · rw [if_pos ends, if_pos ends]
        rfl
      · rw [if_neg ends, if_neg ends, ih]
        conv_rhs => rw [same]

private theorem internal_ended (ended : bsf.eof) (dec : Decoder σ) :
    decodeReceiveFrameInternal codec fuel (dec.withBsf bsf) =
      (decodeReceiveFrameInternal codec fuel (dec.withBsf ⟨.unref, true⟩)).map fun (ret, frame, dec) =>
        (ret, frame, dec.withBsf bsf) := by
  unfold decodeReceiveFrameInternal
  rw [loop_ended ended]
  cases decodeSimpleReceiveFrame codec fuel 0 (dec.withBsf ⟨.unref, true⟩) with
  | none => rfl
  | some simple =>
    simp only [Option.map_some, Option.bind_eq_bind, Option.bind_some, Option.pure_def, settle_withBsf]

/-- What sending comes to behind the end of the stream. -/
private theorem send_behind (ended : bsf.eof) (dec : Decoder σ) (avpkt : Option AVPacket) :
    avcodecSendPacket codec fuel (dec.withBsf bsf) avpkt =
      if dec.internal.draining then some (AVERROR_EOF, dec.withBsf bsf)
      else if avpkt.any fun pkt => pkt.data = some [] then some (EINVAL, dec.withBsf bsf)
      else if !(avpkt.getD .unref).isEmpty then some (EINVAL, dec.withBsf bsf)
      else if dec.internal.bufferFrame.isSome then some (0, dec.withBsf bsf)
      else (decodeReceiveFrameInternal codec fuel (dec.withBsf bsf)).map fun (ret, frame, dec) =>
        (report ret, dec.holding frame) := by
  have passes : avBsfSendPacket (dec.withBsf bsf).internal.bsf (avpkt.getD .unref) =
      (if (avpkt.getD .unref).isEmpty then 0 else EINVAL, bsf) := by
    obtain ⟨bufferPkt, eof⟩ := bsf
    cases ended
    unfold avBsfSendPacket
    split <;> rfl
  unfold avcodecSendPacket
  rw [passes]
  refine ite_congr rfl (fun _ => rfl) fun _ => ite_congr rfl (fun _ => rfl) fun _ => ?_
  dsimp only
  cases (avpkt.getD .unref).isEmpty with
  | false => rfl
  | true =>
    have taken : ¬ (if true = true then 0 else EINVAL : Int) < 0 := by decide
    rw [if_neg taken, if_neg (show ¬ (!true) = true by decide)]
    refine ite_congr rfl (fun _ => rfl) fun _ => ?_
    change (decodeReceiveFrameInternal codec fuel (dec.withBsf bsf)).bind _ = _
    cases decodeReceiveFrameInternal codec fuel (dec.withBsf bsf) with
    | none => rfl
    | some found =>
      obtain ⟨ret, frame, next⟩ := found
      simp only [Option.bind_some, Option.map_some, report]
      split <;> rfl

private theorem send_ended (ended : bsf.eof) (dec : Decoder σ) (avpkt : Option AVPacket) :
    avcodecSendPacket codec fuel (dec.withBsf bsf) avpkt =
      (avcodecSendPacket codec fuel (dec.withBsf ⟨.unref, true⟩) avpkt).map fun (ret, dec) => (ret, dec.withBsf bsf) := by
  rw [send_behind ended, send_behind (show (⟨.unref, true⟩ : FFBSFContext).eof from rfl), internal_ended ended]
  split
  · rfl
  split
  · rfl
  split
  · rfl
  split
  · rfl
  · rw [Option.map_map, Option.map_map]
    rfl

private theorem take_ended (ended : bsf.eof) (dec : Decoder σ) : takeFrame codec fuel (dec.withBsf bsf) =
    (takeFrame codec fuel (dec.withBsf ⟨.unref, true⟩)).map fun (ret, frame, dec) => (ret, frame, dec.withBsf bsf) := by
  cases buffered : dec.internal.bufferFrame with
  | some frame =>
    rw [takeFrame, takeFrame, show (dec.withBsf bsf).internal.bufferFrame = some frame from buffered,
      show (dec.withBsf ⟨.unref, true⟩).internal.bufferFrame = some frame from buffered]
    rfl
  | none =>
    rw [takeFrame, takeFrame, show (dec.withBsf bsf).internal.bufferFrame = none from buffered,
      show (dec.withBsf ⟨.unref, true⟩).internal.bufferFrame = none from buffered]
    exact internal_ended ended dec

private theorem checkChanged_withBsf (frame : AVFrame) (dec : Decoder σ) : checkChanged frame (dec.withBsf bsf) =
    ((checkChanged frame dec).1, (checkChanged frame dec).2.1, (checkChanged frame dec).2.2.withBsf bsf) := by
  rw [checkChanged, checkChanged, show (dec.withBsf bsf).options = dec.options from rfl,
    show (dec.withBsf bsf).internal.initial = dec.internal.initial from rfl]
  cases dec.options.dropChanged with
  | false => rfl
  | true =>
    rw [if_pos rfl, if_pos rfl]
    cases dec.internal.initial with
    | none => rfl
    | some initial =>
      dsimp only
      rw [show (dec.withBsf bsf).avctx = dec.avctx from rfl]
      by_cases changed : initial ≠ ⟨frame.format, frame.sampleRate, frame.channels, frame.channelLayout⟩ ∨
          initial.sampleRate ≠ dec.avctx.sampleRate
      · rw [if_pos changed, if_pos changed]
      · rw [if_neg changed, if_neg changed]

private theorem receive_ended (ended : bsf.eof) (dec : Decoder σ) : avcodecReceiveFrame codec fuel (dec.withBsf bsf) =
    (avcodecReceiveFrame codec fuel (dec.withBsf ⟨.unref, true⟩)).map fun (ret, frame, dec) => (ret, frame, dec.withBsf bsf) := by
  rw [avcodecReceiveFrame, avcodecReceiveFrame, take_ended ended]
  cases takeFrame codec fuel (dec.withBsf ⟨.unref, true⟩) with
  | none => rfl
  | some taken =>
    obtain ⟨ret, frame, after⟩ := taken
    cases frame with
    | none => rfl
    | some frame =>
      simp only [Option.map_some, Option.bind_eq_bind, Option.bind_some, Option.pure_def, checkChanged_withBsf]
      split <;> rfl

/-- The calls do not see the packet behind the end of the stream. -/
private theorem serve_ended (ended : bsf.eof) (dec : Decoder σ) (request : Request) :
    serve codec fuel (dec.withBsf bsf) request =
      (serve codec fuel (dec.withBsf ⟨.unref, true⟩) request).map fun (reply, dec) => (reply, dec.withBsf bsf) := by
  cases request with
  | send avpkt =>
    simp only [serve]
    rw [send_ended ended, Option.map_map, Option.map_map]
    rfl
  | receive =>
    simp only [serve]
    rw [receive_ended ended, Option.map_map, Option.map_map]
    rfl

/-- Two decoders that differ in what waits behind the end of the stream. -/
private def Ended (left right : Decoder σ) : Prop :=
  ∃ dec first second, first.eof ∧ second.eof ∧ left = Decoder.withBsf dec first ∧ right = dec.withBsf second

private theorem ended_follows : Refinement.Follows (serve codec fuel) (serve codec fuel) (Ended (σ := σ)) := by
  rintro _ _ request reply next ⟨dec, first, second, one, other, rfl, rfl⟩ served
  rw [serve_ended other] at served
  obtain ⟨⟨answer, after⟩, plain, made⟩ := Option.map_eq_some_iff.mp served
  cases made
  exact ⟨after.withBsf first, by rw [serve_ended one, plain]; rfl, after, first, second, one, other, rfl, rfl⟩

private theorem send_end (running : dec.internal.draining = false) (pkt : AVPacket) :
    serve codec fuel (dec.withBsf ⟨pkt, false⟩) (.send none) = serve codec fuel (dec.withBsf ⟨pkt, true⟩) (.send none) := by
  simp only [serve, avcodecSendPacket]
  rw [if_neg (show ¬ (dec.withBsf ⟨pkt, false⟩).internal.draining by rw [Decoder.withBsf, running]; decide),
    if_neg (show ¬ (dec.withBsf ⟨pkt, true⟩).internal.draining by rw [Decoder.withBsf, running]; decide)]
  rfl

/-- A packet that still waits when the end of the stream is sent is dropped without a word:
all answers are those of a decoder that never accepted it. -/
theorem end_drops_waiting (running : dec.internal.draining = false) (pkt : AVPacket) (requests : List Request)
    (replies : List (Int × Option AVFrame)) :
    (∃ final, Refinement.answers (serve codec fuel) (dec.withBsf ⟨pkt, false⟩) (.send none :: requests) = some (replies, final)) ↔
      ∃ final, Refinement.answers (serve codec fuel) (dec.withBsf idle) (.send none :: requests) = some (replies, final) := by
  have starts : ∀ pkt, Refinement.answers (serve codec fuel) (dec.withBsf ⟨pkt, false⟩) (.send none :: requests) =
      Refinement.answers (serve codec fuel) (dec.withBsf ⟨pkt, true⟩) (.send none :: requests) := by
    intro pkt
    rw [Refinement.answers, Refinement.answers, send_end running]
  have same : ∀ first second : AVPacket, Ended (dec.withBsf ⟨first, true⟩) (dec.withBsf ⟨second, true⟩) :=
    fun first second => ⟨dec, ⟨first, true⟩, ⟨second, true⟩, rfl, rfl, rfl, rfl⟩
  rw [idle, starts, starts]
  constructor
  · rintro ⟨final, answers⟩
    obtain ⟨last, answers, -⟩ := ended_follows.answers (same .unref pkt) answers
    exact ⟨last, answers⟩
  · rintro ⟨final, answers⟩
    obtain ⟨last, answers, -⟩ := ended_follows.answers (same pkt .unref) answers
    exact ⟨last, answers⟩

theorem end_drops_waiting_packet :
    (∃ final, Refinement.answers (serve bytesCodec 3) (bytesSession.dec.withBsf ⟨packetOf [1], false⟩) [.send none, .receive] =
      some ([(0, none), (AVERROR_EOF, none)], final)) ↔
    ∃ final, Refinement.answers (serve bytesCodec 3) (bytesSession.dec.withBsf idle) [.send none, .receive] =
      some ([(0, none), (AVERROR_EOF, none)], final) :=
  end_drops_waiting rfl (packetOf [1]) [.receive] _

end ending
end Awt.Lavc
