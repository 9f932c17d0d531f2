import Awt.Proofs.DecodeSessions

/-! The samples that a decoder starts with too many are cut off in front, over as many
frames as it takes, and nothing else is. -/

namespace Awt.Lavc
open Feeding

variable {σ : Type} {codec : AVCodec σ} {dec : Decoder σ} {c : Nat} {log : σ → List CFloat}

/-- The samples of one channel of a frame. -/
def plane (c : Nat) (frame : AVFrame) : List CFloat := frame.extendedData.getD c []

/-- The samples of one channel in what was made. -/
def samplesOf (c : Nat) (made : List (Except Int AVFrame)) : List CFloat :=
  made.flatMap fun given => (given.toOption.map (plane c)).getD []

/-- The decoder's own state tells which samples it made, its frames are as long as they say,
and it leaves it to the caller what is skipped of them. -/
structure AVCodec.Logs (codec : AVCodec σ) (c : Nat) (log : σ → List CFloat) : Prop where
  logged : ∀ avctx props pkt, log (codec.decode avctx props pkt).avctx.privData =
    log avctx.privData ++ if (codec.decode avctx props pkt).gotFrame then plane c (codec.decode avctx props pkt).frame else []
  whole : ∀ avctx props pkt, (codec.decode avctx props pkt).gotFrame →
    ((plane c (codec.decode avctx props pkt).frame).length : Int) = (codec.decode avctx props pkt).frame.nbSamples
  kept : ∀ avctx props pkt, (codec.decode avctx props pkt).frame.discard = false
  skips : ∀ avctx props pkt, (codec.decode avctx props pkt).avctx.skipSamples = avctx.skipSamples

/-- Side data that says nothing of samples to skip. -/
def Unmarked (sideData : List (AVPacketSideDataType × List UInt8)) : Prop :=
  (sideData.find? fun entry => entry.1 = .skipSamples) = none

structure Plain (dec : Decoder σ) : Prop where
  auto : dec.options.skipManual = false
  packet : Unmarked dec.internal.inPkt.sideData
  last : ∀ props, dec.internal.lastPktProps = some props → Unmarked props.sideData
  queue : ∀ props ∈ dec.internal.pktProps, Unmarked props.sideData

/-- What was made in between is cut by what is still to be skipped. -/
structure Cuts (log : σ → List CFloat) (before : Decoder σ) (out : List CFloat) (after : Decoder σ) (new : List CFloat) :
    Prop where
  logged : log after.avctx.privData = log before.avctx.privData ++ new
  out_eq : out = new.drop before.avctx.skipSamples.toNat
  skip : after.avctx.skipSamples = before.avctx.skipSamples - min before.avctx.skipSamples new.length

namespace Cuts

variable {before next last : Decoder σ} {out more new late : List CFloat}

theorem refl (nonneg : 0 ≤ before.avctx.skipSamples) : Cuts log before [] before [] where
  logged := (List.append_nil _).symm
  out_eq := List.drop_nil.symm
  skip := by
    rw [List.length_nil]
    omega

theorem nonneg (cuts : Cuts log before out next new) : 0 ≤ next.avctx.skipSamples := by
  have skip := cuts.skip
  omega

theorem trans (cuts : Cuts log before out next new) (follows : Cuts log next more last late) :
    Cuts log before (out ++ more) last (new ++ late) where
  logged := by rw [follows.logged, cuts.logged, List.append_assoc]
  out_eq := by
    have left : next.avctx.skipSamples.toNat = before.avctx.skipSamples.toNat - new.length := by
      have skip := cuts.skip
      omega
    rw [cuts.out_eq, follows.out_eq, left, List.drop_append]
  skip := by
    have first := cuts.skip
    have second := follows.skip
    rw [List.length_append]
    omega

end Cuts

private theorem readSkipSamples_plain (plain : Plain dec) (avctx : AVCodecContext σ) :
    readSkipSamples avctx dec.internal.lastPktProps = ⟨avctx.skipSamples, 0, 0, 0⟩ := by
  unfold readSkipSamples
  cases props : dec.internal.lastPktProps with
  | none => rfl
  | some props' =>
    have unmarked : (props'.sideData.find? fun entry => entry.1 = .skipSamples) = none := plain.last props' props
    simp only [Option.bind_some, unmarked, Option.map_none]

private theorem shiftFrame_samples {frame shifted : AVFrame} {diff : Option Int} (shifts : shiftFrame frame diff = some shifted) :
    shifted.extendedData = frame.extendedData := by
  unfold shiftFrame at shifts
  cases diff with
  | none =>
    cases shifts
    rfl
  | some diff =>
    obtain ⟨pts, -, shifts⟩ := Option.bind_eq_some_iff.mp shifts
    obtain ⟨dts, -, made⟩ := Option.bind_eq_some_iff.mp shifts
    cases made
    rfl

private theorem getD_drop (planes : List (List CFloat)) (count : Nat) :
    (planes.map (·.drop count)).getD c [] = (planes.getD c []).drop count := by
  rw [List.getD_eq_getElem?_getD, List.getD_eq_getElem?_getD, List.getElem?_map]
  cases planes[c]? with
  | none => exact List.drop_nil.symm
  | some samples => rfl

/-- One frame with a number of samples to skip, and nothing else to discard. -/
private theorem trimFrame_plain {avctx : AVCodecContext σ} {options : AVCodecOptions} (auto : options.skipManual = false)
    {skip : Int} (nonneg : 0 ≤ skip) {frame : AVFrame} (kept : frame.discard = false)
    (whole : ((plane c frame).length : Int) = frame.nbSamples) {trim : Trim}
    (trims : trimFrame avctx options ⟨skip, 0, 0, 0⟩ true frame = some trim) :
    (if trim.gotFrame then plane c trim.frame else []) = (plane c frame).drop skip.toNat ∧
      trim.skipSamples = skip - min skip (plane c frame).length := by
  unfold trimFrame at trims
  have flagged : discardFlagged options ⟨true, frame, skip, 0⟩ = ⟨true, frame, skip, 0⟩ :=
    if_neg (by rw [kept]; simp)
  rw [flagged] at trims
  obtain ⟨front, skips, trims⟩ := Option.bind_eq_some_iff.mp trims
  obtain ⟨padded, pads, made⟩ := Option.bind_eq_some_iff.mp trims
  have same : padded = front := by
    rw [dropPadding, if_neg (fun all => absurd all.1 (lt_irrefl 0))] at pads
    exact (Option.some_inj.mp pads).symm
  have noted : trim = front := by
    have plain : noteSkip options ⟨skip, 0, 0, 0⟩ padded = padded := if_neg (by rw [auto]; simp)
    rw [same] at plain
    rw [same, plain] at made
    exact (Option.some_inj.mp made).symm
  subst noted
  unfold skipFront at skips
  dsimp only at skips
  split at skips
  · case isTrue positive =>
    split at skips
    · case isTrue less =>
      cases skips
      dsimp only
      rw [List.drop_of_length_le (by omega)]
      exact ⟨if_neg Bool.false_ne_true, by omega⟩
    · case isFalse more =>
      obtain ⟨diff, -, skips⟩ := Option.bind_eq_some_iff.mp skips
      obtain ⟨shifted, shifts, made⟩ := Option.bind_eq_some_iff.mp skips
      cases made
      refine ⟨?_, by dsimp only; omega⟩
      rw [if_pos rfl]
      unfold plane
      dsimp only
      rw [shiftFrame_samples shifts, getD_drop]
  · case isFalse zero =>
    cases skips
    have none : skip = 0 := by
      by_contra differ
      exact zero ⟨by omega, rfl, by rw [auto]; rfl⟩
    subst none
    exact ⟨rfl, by dsimp only; omega⟩

/-- The samples of a frame that there may be. -/
private def samplesIn (c : Nat) (frame : Option AVFrame) : List CFloat := (frame.map (plane c)).getD []

/-- Only the counters of draining change. -/
private theorem checkDraining_cases (avci : AVCodecInternal) (gotFrame : Bool) (ret : Int) : ∃ errors done,
    (checkDraining avci gotFrame ret).2 = { avci with nbDrainingErrors := errors, drainingDone := done } := by
  unfold checkDraining
  split
  · split
    · split <;> exact ⟨_, _, rfl⟩
    · exact ⟨_, _, rfl⟩
  · exact ⟨_, _, rfl⟩

/-- What is left of a packet has the side data of the packet. -/
private theorem consume_cases (codec : AVCodec σ) (avci : AVCodecInternal) (ret : Int) : ∃ inPkt lastPktProps,
    consume codec avci ret = { avci with inPkt, lastPktProps } ∧
      (inPkt.sideData = avci.inPkt.sideData ∨ inPkt = .unref) ∧
      ∀ props, lastPktProps = some props → ∃ before, avci.lastPktProps = some before ∧ props.sideData = before.sideData := by
  unfold consume
  split
  · exact ⟨_, _, rfl, .inr rfl, fun props same => by cases same⟩
  · refine ⟨_, _, rfl, .inl rfl, fun props same => ?_⟩
    split at same
    · exact ⟨props, same, rfl⟩
    · obtain ⟨before, last, made⟩ := Option.map_eq_some_iff.mp same
      cases made
      exact ⟨before, last, rfl⟩

private theorem decodePacket_cuts (proper : codec.Proper) (logs : codec.Logs c log) (plain : Plain dec)
    (nonneg : 0 ≤ dec.avctx.skipSamples) {simple : Simple σ} (decodes : decodePacket codec dec = some simple) :
    Plain simple.dec ∧ ∃ new, Cuts log dec (if simple.ret < 0 then [] else samplesIn c simple.frame) simple.dec new := by
  unfold decodePacket at decodes
  dsimp only at decodes
  rw [readSkipSamples_plain plain, logs.skips] at decodes
  have fails := proper.fails dec.avctx dec.internal.lastPktProps dec.internal.inPkt
  have logged := logs.logged dec.avctx dec.internal.lastPktProps dec.internal.inPkt
  have whole := logs.whole dec.avctx dec.internal.lastPktProps dec.internal.inPkt
  have kept := logs.kept dec.avctx dec.internal.lastPktProps dec.internal.inPkt
  generalize (codec.decode dec.avctx dec.internal.lastPktProps dec.internal.inPkt) = decoded at *
  obtain ⟨trim, trims, made⟩ := Option.bind_eq_some_iff.mp decodes
  cases made
  generalize prepared : (if decoded.ret ≥ 0 ∧ decoded.gotFrame then _ else _ : AVFrame) = frame at trims
  have same : plane c frame = plane c decoded.frame ∧ frame.nbSamples = decoded.frame.nbSamples ∧
      frame.discard = decoded.frame.discard := by
    rw [← prepared]
    split <;> split <;> exact ⟨rfl, rfl, rfl⟩
  obtain ⟨errors, done, drained⟩ :=
    checkDraining_cases dec.internal decoded.gotFrame decoded.ret
  generalize ret : (checkDraining dec.internal decoded.gotFrame decoded.ret).1 = answer
  rw [drained]
  obtain ⟨inPkt, lastPktProps, consumes, packet, last⟩ := consume_cases codec
    { dec.internal with nbDrainingErrors := errors, drainingDone := done } answer
  rw [consumes]
  constructor
  · refine ⟨plain.auto, ?_, fun props found => ?_, plain.queue⟩
    · rcases packet with same | unref
      · exact (congrArg Unmarked same).mpr plain.packet
      · dsimp only
        rw [unref]
        rfl
    · obtain ⟨before, found, same⟩ := last props found
      rw [same]
      exact plain.last before found
  · cases got : decoded.gotFrame with
    | false =>
      rw [got, trimFrame_none] at trims
      cases trims
      refine ⟨[], ?_, ?_, ?_⟩
      · rw [got] at logged
        exact logged
      · rw [List.drop_nil]
        split <;> rfl
      · dsimp only
        rw [List.length_nil]
        omega
    | true =>
      rw [got] at trims logged ret
      have fine : ¬ decoded.ret < 0 := fun failed => by
        rw [fails failed] at got
        cases got
      have succeeds : answer = decoded.ret := by
        rw [← ret]
        exact congrArg Prod.fst (if_neg (by simp))
      obtain ⟨out, skips⟩ := trimFrame_plain plain.auto nonneg (same.2.2.trans kept) (by rw [same.1, same.2.1]; exact whole got) trims
      refine ⟨plane c decoded.frame, logged, ?_, ?_⟩
      · rw [succeeds, if_neg fine, if_neg (lt_irrefl 0), ← same.1, ← out]
        cases trim.gotFrame <;> rfl
      · rw [← same.1]
        exact skips

section params

/-- What a change of parameters does not reach. -/
private def own (avctx : AVCodecContext σ) : σ × Int := (avctx.privData, avctx.skipSamples)

private theorem changeField_own {flags flag size : Nat} {set : AVCodecContext σ → List UInt8 → Int × AVCodecContext σ}
    (keeps : ∀ avctx data, own (set avctx data).2 = own avctx) (change : Int × AVCodecContext σ × List UInt8) :
    own (changeField flags flag size set change).2.1 = own change.2.1 := by
  unfold changeField
  dsimp only
  split
  · rfl
  split
  · rfl
  · exact keeps _ _

private theorem applyParamChange_own (codec : AVCodec σ) (options : AVCodecOptions) (avctx : AVCodecContext σ) (avpkt : AVPacket) :
    own (applyParamChange codec options avctx avpkt).2 = own avctx := by
  have changes : ∀ data, own (changeParams codec avctx data).2 = own avctx := by
    intro data
    unfold changeParams
    split
    · rfl
    split
    · rfl
    · dsimp only
      rw [changeField_own (fun _ _ => rfl), changeField_own, changeField_own (fun _ _ => rfl), changeField_own]
      all_goals
        intro avctx data
        split <;> rfl
  unfold applyParamChange
  split
  · rfl
  · dsimp only
    split <;> exact changes _

end params

/-- The properties that are kept are older ones or those of the packet. -/
private theorem extract_cases (codec : AVCodec σ) (avci : AVCodecInternal) (pkt : AVPacket) : ∃ lastPktProps pktProps,
    (if codec.setsFrameProps then avci else extractPacketProps avci pkt) = { avci with lastPktProps, pktProps } ∧
      ∀ props, lastPktProps = some props ∨ props ∈ pktProps →
        avci.lastPktProps = some props ∨ props ∈ avci.pktProps ∨ props = copyPacketProps pkt := by
  split
  · exact ⟨avci.lastPktProps, avci.pktProps, rfl, fun props found => found.imp_right .inl⟩
  · unfold extractPacketProps
    split
    · case h_1 last queue =>
      refine ⟨_, _, rfl, fun props found => ?_⟩
      rw [queue] at found
      rcases found with same | inside
      · exact .inr (.inr (Option.some_inj.mp same).symm)
      · cases inside
    · case h_2 first pktProps last queue =>
      refine ⟨_, _, rfl, fun props found => ?_⟩
      rw [queue]
      rcases found with same | inside
      · exact .inr (.inl (by rw [Option.some_inj.mp same]; exact List.mem_cons_self))
      · rcases List.mem_append.mp inside with older | new
        · exact .inr (.inl (List.mem_cons_of_mem _ older))
        · exact .inr (.inr (List.mem_singleton.mp new))
    · case h_3 first last =>
      refine ⟨_, _, rfl, fun props found => ?_⟩
      rcases found with same | inside
      · exact .inl same
      · rcases List.mem_append.mp inside with older | new
        · exact .inr (.inl older)
        · exact .inr (.inr (List.mem_singleton.mp new))

/-- A packet that is fetched brings nothing to skip. -/
private theorem fetch_cuts (plain : Plain dec) (nonneg : 0 ≤ dec.avctx.skipSamples)
    (mail : Unmarked dec.internal.bsf.bufferPkt.sideData) (fetched : Decoder σ)
    (same : fetched = { (ffDecodeGetPacket codec dec).2.2 with
      internal := { (ffDecodeGetPacket codec dec).2.2.internal with inPkt := (ffDecodeGetPacket codec dec).2.1 } }) :
    Plain fetched ∧ Cuts log dec [] fetched [] := by
  have stays : ∀ skip : Int, 0 ≤ skip → skip = skip - min skip ([] : List CFloat).length := by
    intro skip nonneg
    rw [List.length_nil]
    omega
  unfold ffDecodeGetPacket at same
  split at same
  · subst same
    exact ⟨⟨plain.auto, rfl, plain.last, plain.queue⟩, (List.append_nil _).symm, List.drop_nil.symm, stays _ nonneg⟩
  have packet : Unmarked (avBsfReceivePacket dec.internal.bsf).2.1.sideData := by
    unfold avBsfReceivePacket ffBsfGetPacketRef
    split
    · rfl
    · split
      · rfl
      · exact mail
  dsimp only at same
  split at same
  · subst same
    exact ⟨⟨plain.auto, packet, plain.last, plain.queue⟩, (List.append_nil _).symm, List.drop_nil.symm, stays _ nonneg⟩
  · obtain ⟨priv, skips⟩ := Prod.mk.inj (applyParamChange_own codec dec.options dec.avctx (avBsfReceivePacket dec.internal.bsf).2.1)
    obtain ⟨lastPktProps, pktProps, extracts, known⟩ := extract_cases codec
      { dec.internal with bsf := (avBsfReceivePacket dec.internal.bsf).2.2 } (avBsfReceivePacket dec.internal.bsf).2.1
    rw [extracts] at same
    have unmarked : ∀ props, lastPktProps = some props ∨ props ∈ pktProps → Unmarked props.sideData := by
      intro props found
      rcases known props found with last | queued | rfl
      · exact plain.last props last
      · exact plain.queue props queued
      · exact packet
    have last : ∀ props, lastPktProps = some props → Unmarked props.sideData := fun props found => unmarked props (.inl found)
    have queue : ∀ props ∈ pktProps, Unmarked props.sideData := fun props found => unmarked props (.inr found)
    have logged : log (applyParamChange codec dec.options dec.avctx (avBsfReceivePacket dec.internal.bsf).2.1).2.privData =
        log dec.avctx.privData ++ [] := by
      rw [priv, List.append_nil]
    have same_skip := skips.trans (stays _ nonneg)
    split at same
    · subst same
      exact ⟨⟨plain.auto, rfl, last, queue⟩, logged, List.drop_nil.symm, same_skip⟩
    · subst same
      exact ⟨⟨plain.auto, packet, last, queue⟩, logged, List.drop_nil.symm, same_skip⟩

private theorem decodeFetched_cuts (proper : codec.Proper) (logs : codec.Logs c log) (plain : Plain dec)
    (nonneg : 0 ≤ dec.avctx.skipSamples) {ret : Int} {simple : Simple σ} (decodes : decodeFetched codec ret dec = some simple) :
    Plain simple.dec ∧ ∃ new, Cuts log dec (if simple.ret < 0 then [] else samplesIn c simple.frame) simple.dec new := by
  have nothing : ∀ ret : Int, Plain dec ∧ ∃ new, Cuts log dec (if ret < 0 then [] else samplesIn c none) dec new := by
    intro ret
    refine ⟨plain, [], ?_⟩
    have silent : (if ret < 0 then [] else samplesIn c none) = [] := by split <;> rfl
    rw [silent]
    exact .refl nonneg
  unfold decodeFetched at decodes
  split at decodes
  · cases decodes
    exact nothing ret
  split at decodes
  · cases decodes
    exact nothing AVERROR_EOF
  split at decodes
  · cases decodes
    exact nothing AVERROR_EOF
  · exact decodePacket_cuts proper logs plain nonneg decodes

private theorem simple_cuts (proper : codec.Proper) (logs : codec.Logs c log) (plain : Plain dec)
    (nonneg : 0 ≤ dec.avctx.skipSamples) (mail : Unmarked dec.internal.bsf.bufferPkt.sideData) {simple : Simple σ}
    (decodes : decodeSimpleInternal codec dec = some simple) :
    Plain simple.dec ∧ ∃ new, Cuts log dec (if simple.ret < 0 then [] else samplesIn c simple.frame) simple.dec new := by
  unfold decodeSimpleInternal at decodes
  split at decodes
  · obtain ⟨fetched, first⟩ := fetch_cuts plain nonneg mail _ rfl
    obtain ⟨last, new, second⟩ := decodeFetched_cuts proper logs fetched first.nonneg decodes
    exact ⟨last, new, first.trans second⟩
  · exact decodeFetched_cuts proper logs plain nonneg decodes

section turns

private theorem settle_samples (codec : AVCodec σ) (ret : Int) (frame : Option AVFrame) (dec : Decoder σ) :
    samplesIn c (settle codec ret frame dec).1 = samplesIn c frame ∧ (settle codec ret frame dec).2.avctx = dec.avctx := by
  unfold settle
  cases frame with
  | none => exact ⟨rfl, rfl⟩
  | some frame =>
    dsimp only
    split <;> exact ⟨rfl, rfl⟩

private theorem nextProps_cases (codec : AVCodec σ) (avci : AVCodecInternal) : ∃ lastPktProps pktProps,
    nextProps codec avci = { avci with lastPktProps, pktProps } ∧
      ∀ props, lastPktProps = some props ∨ props ∈ pktProps → avci.lastPktProps = some props ∨ props ∈ avci.pktProps := by
  unfold nextProps
  split
  · case h_1 first pktProps last queue =>
    split
    · exact ⟨avci.lastPktProps, avci.pktProps, rfl, fun props found => found⟩
    · refine ⟨_, _, rfl, fun props found => .inr ?_⟩
      rw [queue]
      rcases found with same | inside
      · exact List.mem_cons.mpr (.inl (Option.some_inj.mp same).symm)
      · exact List.mem_cons_of_mem _ inside
  · exact ⟨avci.lastPktProps, avci.pktProps, rfl, fun props found => found⟩

private theorem settled_cuts (c : Nat) (codec : AVCodec σ) {simple : Simple σ} (plain : Plain simple.dec) :
    samplesIn c (settled codec simple).1 = samplesIn c simple.frame ∧ Plain (settled codec simple).2 ∧
      (settled codec simple).2.avctx = simple.dec.avctx := by
  unfold settled
  split
  · obtain ⟨samples, avctx⟩ := settle_samples (c := c) codec simple.ret simple.frame simple.dec
    have options := settle_options codec simple.ret simple.frame simple.dec
    have internal := settle_internal codec simple.ret simple.frame simple.dec
    obtain ⟨lastPktProps, pktProps, next, known⟩ := nextProps_cases codec
      (if simple.ret = AVERROR_EOF then { simple.dec.internal with drainingDone := true } else simple.dec.internal)
    have unmarked : ∀ props, lastPktProps = some props ∨ props ∈ pktProps → Unmarked props.sideData := by
      intro props found
      rcases known props found with last | queued
      · split at last <;> exact plain.last props last
      · split at queued <;> exact plain.queue props queued
    rw [next] at internal
    refine ⟨samples, ⟨?_, ?_, fun props found => ?_, fun props found => ?_⟩, avctx⟩
    · rw [options]
      exact plain.auto
    · rw [internal]
      split <;> exact plain.packet
    · rw [internal] at found
      exact unmarked props (.inl found)
    · rw [internal] at found
      exact unmarked props (.inr found)
  · case isFalse more =>
    have without : simple.frame = none := by
      cases given : simple.frame with
      | none => rfl
      | some frame => exact absurd (.inr (by rw [given]; rfl)) more
    rw [without]
    exact ⟨rfl, plain, rfl⟩

/-- Nothing that waits is marked. -/
structure Ready (state : Queued σ) : Prop where
  plain : Plain state.dec
  nonneg : 0 ≤ state.dec.avctx.skipSamples
  queue : ∀ pkt, some pkt ∈ state.queue → Unmarked pkt.sideData

private theorem samplesOf_outcome (ret : Int) (frame : Option AVFrame) :
    samplesOf c (outcome ret frame).toList = if ret < 0 then [] else samplesIn c frame := by
  unfold outcome
  split
  · split <;> rfl
  · cases frame with
    | none => rfl
    | some frame => exact List.append_nil _

private theorem taken_subset {queue : List (Option AVPacket)} {input : Option AVPacket} (inside : input ∈ taken queue) :
    input ∈ queue := by
  rcases queue with _ | ⟨_ | pkt, queue⟩
  · exact inside
  · exact inside
  · exact List.mem_cons_of_mem _ inside

private theorem turn_cuts (proper : codec.Proper) (logs : codec.Logs c log) {state next : Queued σ}
    {made : Option (Except Int AVFrame)} (ready : Ready state) (turned : state.turn codec = some (made, next)) :
    Ready next ∧ ∃ new, Cuts log state.dec (samplesOf c made.toList) next.dec new := by
  unfold Queued.turn at turned
  split at turned
  · cases turned
  obtain ⟨simple, decodes, done⟩ := Option.bind_eq_some_iff.mp turned
  have pair : (outcome simple.ret (settled codec simple).1, (⟨if wants state.dec then taken state.queue else state.queue,
      (settled codec simple).2.withBsf idle⟩ : Queued σ)) = (made, next) := Option.some_inj.mp done
  obtain ⟨rfl, rfl⟩ := Prod.mk.inj pair
  have mail : Unmarked (front state.queue).bufferPkt.sideData := by
    cases queue : state.queue with
    | nil => rfl
    | cons first rest =>
      cases first with
      | none => rfl
      | some pkt => exact ready.queue pkt (by rw [queue]; exact List.mem_cons_self)
  have loaded : Plain (state.dec.withBsf (front state.queue)) :=
    ⟨ready.plain.auto, ready.plain.packet, ready.plain.last, ready.plain.queue⟩
  obtain ⟨plain, new, cuts⟩ := simple_cuts proper logs loaded ready.nonneg mail decodes
  obtain ⟨samples, settledPlain, avctx⟩ := settled_cuts c codec plain
  refine ⟨⟨⟨settledPlain.auto, settledPlain.packet, settledPlain.last, settledPlain.queue⟩, ?_, fun pkt inside => ?_⟩, new, ?_⟩
  · have nonneg := cuts.nonneg
    rw [← avctx] at nonneg
    exact nonneg
  · dsimp only at inside
    split at inside
    · exact ready.queue pkt (taken_subset inside)
    · exact ready.queue pkt inside
  · rw [samplesOf_outcome, samples]
    refine ⟨?_, cuts.out_eq, (congrArg _ avctx).trans cuts.skip⟩
    change log (settled codec simple).2.avctx.privData = _
    rw [avctx]
    exact cuts.logged

private theorem gives_cuts (proper : codec.Proper) (logs : codec.Logs c log) {state last : Queued σ}
    {given : List (Except Int AVFrame)} (ready : Ready state) (gives : (decoding codec).Gives state given last) :
    ∃ new, Cuts log state.dec (samplesOf c given) last.dec new := by
  induction gives with
  | rest => exact ⟨[], .refl ready.nonneg⟩
  | turn turned _ ih =>
    obtain ⟨next, new, first⟩ := turn_cuts proper logs ready turned
    obtain ⟨more, rest⟩ := ih next
    refine ⟨new ++ more, ?_⟩
    rw [samplesOf, List.flatMap_append]
    exact first.trans rest

private theorem puts_queue (codec : AVCodec σ) (state : Queued σ) (inputs : List (Option AVPacket)) :
    ((decoding codec).puts state inputs).dec = state.dec ∧
      ∀ input ∈ ((decoding codec).puts state inputs).queue, input ∈ state.queue ∨ input ∈ inputs := by
  induction inputs generalizing state with
  | nil => exact ⟨rfl, fun input inside => .inl inside⟩
  | cons first inputs ih =>
    obtain ⟨dec, known⟩ := ih (state.put first)
    have put : (state.put first).dec = state.dec ∧ ∀ input ∈ (state.put first).queue, input ∈ state.queue ∨ input = first := by
      unfold Queued.put
      split
      · exact ⟨rfl, fun input inside => .inl inside⟩
      · exact ⟨rfl, fun input inside => (List.mem_append.mp inside).imp_right List.mem_singleton.mp⟩
    refine ⟨dec.trans put.1, fun input inside => ?_⟩
    rcases known input inside with here | later
    · exact (put.2 input here).imp_right fun same => by rw [same]; exact List.mem_cons_self
    · exact .inr (List.mem_cons_of_mem _ later)

end turns

private theorem opened_plain {avctx : AVCodecContext σ} {options : AVCodecOptions}
    (auto : options.skipManual = false) : Plain (view (.opened avctx options)).dec where
  auto := auto
  packet := rfl
  last props found := by cases found
  queue props inside := by cases inside

/-- The decoder of bytes with the samples it made. -/
private def loggingCodec : AVCodec (List CFloat) where
  delay := true
  paramChange := false
  setsFrameProps := false
  setsPktDts := false
  ffSetDimensions _ _ := 0
  decode avctx _ pkt :=
    let samples := (pkt.data.getD []).map UInt8.toUInt32
    { ret := pkt.size
      gotFrame := pkt.data.isSome
      frame := ⟨⟨8000, .fltp, 4, 1, samples.length, [samples]⟩, none, none, 0, false, none, none⟩
      avctx := { avctx with privData := avctx.privData ++ samples } }

private theorem loggingCodec_logs : loggingCodec.Logs 0 id where
  logged avctx props pkt := by
    cases data : pkt.data <;> simp [loggingCodec, plane, data]
  whole _ _ _ _ := rfl
  kept _ _ _ := rfl
  skips _ _ _ := rfl

private theorem loggingCodec_proper : loggingCodec.Proper where
  fails avctx props pkt := bytesCodec_proper.fails { avctx with privData := () } props pkt
  decides avctx props pkt := bytesCodec_proper.decides { avctx with privData := () } props pkt

end Awt.Lavc
