import Awt.Lib.Machine
import Awt.Proofs.DecodeOrder

/-! A client of the decoder. What it gets depends on the packets that were accepted, and
not on when it asked. -/

namespace Awt.Lavc
open Feeding

variable {σ : Type} {codec : AVCodec σ} {dec : Decoder σ}

inductive Request where
  | send (avpkt : Option AVPacket)
  | receive
  deriving DecidableEq

/-- A packet without anything in it is the end of the stream. -/
def input (avpkt : Option AVPacket) : Option AVPacket := avpkt.filter fun pkt => !pkt.isEmpty

/-- The packet is taken, whatever comes of decoding ahead. -/
def accepted (dec : Decoder σ) (avpkt : Option AVPacket) : Bool :=
  !dec.internal.draining && !avpkt.any (fun pkt => pkt.data = some []) &&
    (avBsfSendPacket dec.internal.bsf (avpkt.getD .unref)).1 = 0

/-- A decoder, what it accepted and what it gave out. -/
structure Session (σ : Type) where
  dec : Decoder σ
  fed : List (Option AVPacket)
  given : List (Except Int AVFrame)

def Session.call (codec : AVCodec σ) (fuel : Nat) (session : Session σ) : Request → Option (Session σ)
  | .send avpkt => do
    let (ret, dec) ← avcodecSendPacket codec fuel session.dec avpkt
    if accepted session.dec avpkt then
      return ⟨dec, session.fed ++ [input avpkt], session.given ++ if ret < 0 then [.error ret] else []⟩
    else return { session with dec }
  | .receive => do
    let (ret, frame, dec) ← avcodecReceiveFrame codec fuel session.dec
    return { session with dec, given := session.given ++ (answered ret frame).toList }

/-- A packet has data, and the end of the stream is not sent while a packet waits. -/
def orderly (session : Session σ) : Request → Bool
  | .send avpkt =>
    match input avpkt with
    | some pkt => pkt.data.isSome
    | none => session.dec.internal.bsf.bufferPkt = .unref
  | .receive => true

/-- All that was made of the packets: what was given out, and the frame decoded ahead. -/
def Session.made (session : Session σ) : List (Except Int AVFrame) :=
  session.given ++ session.dec.internal.bufferFrame.toList.map .ok

structure Consistent (codec : AVCodec σ) (start : Queued σ) (session : Session σ) : Prop where
  tidy : Tidy session.dec
  fed : (decoding codec).Fed start session.fed session.made (view session.dec)

variable {start : Queued σ} {session after : Session σ} {fuel : Nat}

theorem receive_consistent (proper : codec.Proper) (consistent : Consistent codec start session)
    (called : session.call codec fuel .receive = some after) : Consistent codec start after := by
  obtain ⟨⟨ret, frame, dec⟩, receives, made⟩ := Option.bind_eq_some_iff.mp called
  cases made
  obtain ⟨tidy, fed⟩ := consistent
  rw [receive_lenient tidy.lenient] at receives
  unfold takeFrame at receives
  unfold Session.made at fed
  cases buffered : session.dec.internal.bufferFrame with
  | some frame =>
    rw [buffered] at receives fed
    cases receives
    refine ⟨⟨tidy.lenient, tidy.props, tidy.packet, tidy.fresh, tidy.mail⟩, ?_⟩
    have same : (session.given ++ (answered 0 (some frame)).toList) ++ [] = session.given ++ [.ok frame] := by
      rw [List.append_nil]
      rfl
    unfold Session.made
    dsimp only
    rw [Option.toList_none, List.map_nil, same]
    exact fed
  | none =>
    rw [buffered] at receives fed
    have received := internal_receives proper tidy buffered receives
    refine ⟨received.tidy, ?_⟩
    unfold Session.made
    dsimp only
    rw [received.unbuffered, Option.toList_none, List.map_nil, List.append_nil]
    rw [Option.toList_none, List.map_nil, List.append_nil] at fed
    exact .turns fed received.gives

private theorem isEmpty_eq_false {pkt : AVPacket} (data : pkt.data.isSome) : pkt.isEmpty = false := by
  simp [AVPacket.isEmpty, Option.isNone_eq_false_iff.mpr data]

/-- A packet that is accepted is put into the queue. -/
theorem accepted_put {avpkt : Option AVPacket} (tidy : Tidy session.dec) (fine : orderly session (.send avpkt))
    (takes : (avBsfSendPacket session.dec.internal.bsf (avpkt.getD .unref)).1 = 0) :
    Mailbox (avBsfSendPacket session.dec.internal.bsf (avpkt.getD .unref)).2 ∧
      waiting (avBsfSendPacket session.dec.internal.bsf (avpkt.getD .unref)).2 =
        ((view session.dec).put (input avpkt)).queue := by
  have mail := tidy.mail
  simp only [orderly] at fine
  unfold Queued.put view
  dsimp only
  generalize session.dec.internal.bsf = bsf at mail takes fine ⊢
  cases packet : input avpkt with
  | none =>
    rw [packet] at fine
    have unref : bsf.bufferPkt = .unref := by simpa using fine
    have empty : (avpkt.getD .unref).isEmpty := by
      cases avpkt with
      | none => rfl
      | some pkt => simpa [input] using packet
    rw [avBsfSendPacket, if_pos empty]
    refine ⟨⟨.inl unref, fun _ => unref⟩, ?_⟩
    unfold waiting
    dsimp only
    rw [if_pos rfl, if_pos unref]
    cases bsf.eof <;> rfl
  | some pkt =>
    rw [packet] at fine
    obtain ⟨rfl, filled⟩ := Option.filter_eq_some_iff.mp packet
    rw [Option.getD_some] at takes ⊢
    have full := isEmpty_eq_false fine
    unfold avBsfSendPacket at takes ⊢
    rw [if_neg (by rw [full]; decide)] at takes ⊢
    split at takes
    · cases takes
    case isFalse going =>
    split at takes
    · cases takes
    case isFalse free =>
    rw [if_neg going, if_neg free]
    have unref : bsf.bufferPkt = .unref := mail.isEmpty_iff.mp (by simpa using free)
    have occupied : pkt ≠ .unref := by
      rintro rfl
      cases fine
    refine ⟨⟨.inr fine, fun last => absurd last going⟩, ?_⟩
    unfold waiting
    dsimp only
    rw [if_neg going, if_neg going, if_neg occupied, if_pos unref]
    rfl

theorem avBsfSendPacket_refuses {bsf : FFBSFContext} {pkt : AVPacket} (refuses : ¬ (avBsfSendPacket bsf pkt).1 = 0) :
    (avBsfSendPacket bsf pkt).1 < 0 ∧ (avBsfSendPacket bsf pkt).2 = bsf := by
  unfold avBsfSendPacket at refuses ⊢
  split
  · case isTrue empty =>
    rw [if_pos empty] at refuses
    exact absurd rfl refuses
  · split
    · exact ⟨show EINVAL < 0 by decide, rfl⟩
    · split
      · exact ⟨show EAGAIN < 0 by decide, rfl⟩
      · case _ filled going free =>
        rw [if_neg filled, if_neg going, if_neg free] at refuses
        exact absurd rfl refuses

theorem send_refused {avpkt : Option AVPacket} (refused : accepted dec avpkt = false) {ret : Int} {after : Decoder σ}
    (sends : avcodecSendPacket codec fuel dec avpkt = some (ret, after)) : after = dec := by
  unfold avcodecSendPacket at sends
  split at sends
  · cases sends
    rfl
  case isFalse running =>
  split at sends
  · cases sends
    rfl
  case isFalse whole =>
  have refuses : ¬ (avBsfSendPacket dec.internal.bsf (avpkt.getD .unref)).1 = 0 := by
    simpa [accepted, running, whole] using refused
  obtain ⟨failed, same⟩ := avBsfSendPacket_refuses refuses
  dsimp only at sends
  rw [if_pos failed, same] at sends
  cases sends
  rfl

/-- What a packet that was accepted is answered with, after decoding ahead. -/
def report (ret : Int) : Int := if ret < 0 ∧ ret ≠ EAGAIN ∧ ret ≠ AVERROR_EOF then ret else 0

def Decoder.holding (dec : Decoder σ) (frame : Option AVFrame) : Decoder σ :=
  { dec with internal := { dec.internal with bufferFrame := frame } }

theorem send_accepted {avpkt : Option AVPacket} (takes : accepted dec avpkt) {ret : Int} {after : Decoder σ}
    (sends : avcodecSendPacket codec fuel dec avpkt = some (ret, after)) :
    (dec.internal.bufferFrame.isSome ∧ ret = 0 ∧
      after = dec.withBsf (avBsfSendPacket dec.internal.bsf (avpkt.getD .unref)).2) ∨
    (dec.internal.bufferFrame = none ∧ ∃ found frame next,
      decodeReceiveFrameInternal codec fuel (dec.withBsf (avBsfSendPacket dec.internal.bsf (avpkt.getD .unref)).2) =
        some (found, frame, next) ∧ ret = report found ∧ after = next.holding frame) := by
  simp only [accepted, Bool.and_eq_true, Bool.not_eq_true', decide_eq_true_eq] at takes
  obtain ⟨⟨running, whole⟩, zero⟩ := takes
  unfold avcodecSendPacket at sends
  rw [if_neg (by rw [running]; decide), if_neg (by rw [whole]; decide)] at sends
  dsimp only at sends
  rw [zero, if_neg (by decide)] at sends
  split at sends
  · case isTrue buffered =>
    cases sends
    exact .inl ⟨buffered, rfl, rfl⟩
  · case isFalse unbuffered =>
    obtain ⟨⟨found, frame, next⟩, decodes, made⟩ := Option.bind_eq_some_iff.mp sends
    refine .inr ⟨Option.not_isSome_iff_eq_none.mp unbuffered, found, frame, next, decodes, ?_⟩
    dsimp only at made
    split at made
    · case isTrue failed =>
      cases made
      exact ⟨(if_pos failed).symm, rfl⟩
    · case isFalse kept =>
      cases made
      exact ⟨(if_neg kept).symm, rfl⟩

/-- A frame that was decoded ahead counts as made. -/
private theorem ahead_made {ret : Int} {frame : Option AVFrame} (isSome : frame.isSome ↔ ret = 0) (nonpos : ret ≤ 0)
    (given : List (Except Int AVFrame)) :
    (given ++ if report ret < 0 then [.error (report ret)] else []) ++ frame.toList.map .ok =
      given ++ (answered ret frame).toList := by
  rw [List.append_assoc]
  congr 1
  cases frame with
  | some frame =>
    have zero : ret = 0 := isSome.mp rfl
    subst zero
    rfl
  | none =>
    have failed : ret < 0 := by
      have differ : ret ≠ 0 := fun zero => by cases isSome.mpr zero
      omega
    rw [Option.toList_none, List.map_nil, List.append_nil, answered, if_pos failed]
    by_cases known : ret = EAGAIN ∨ ret = AVERROR_EOF
    · have quiet : report ret = 0 := if_neg fun all => by tauto
      rw [if_pos known, quiet]
      rfl
    · have loud : report ret = ret := if_pos ⟨failed, by tauto⟩
      rw [if_neg known, loud, if_pos failed]
      rfl

theorem send_consistent (proper : codec.Proper) {avpkt : Option AVPacket} (consistent : Consistent codec start session)
    (fine : orderly session (.send avpkt)) (called : session.call codec fuel (.send avpkt) = some after) :
    Consistent codec start after := by
  obtain ⟨⟨ret, dec⟩, sends, made⟩ := Option.bind_eq_some_iff.mp called
  obtain ⟨tidy, fed⟩ := consistent
  dsimp only at made
  split at made
  · case isTrue takes =>
    cases made
    have zero : (avBsfSendPacket session.dec.internal.bsf (avpkt.getD .unref)).1 = 0 := by
      simp only [accepted, Bool.and_eq_true, decide_eq_true_eq] at takes
      exact takes.2
    obtain ⟨mail, queue⟩ := accepted_put tidy fine zero
    generalize received : (avBsfSendPacket session.dec.internal.bsf (avpkt.getD .unref)).2 = bsf at mail queue
    have sent : Tidy (session.dec.withBsf bsf) := ⟨tidy.lenient, tidy.props, tidy.packet, tidy.fresh, mail⟩
    have put : view (session.dec.withBsf bsf) = (decoding codec).put (view session.dec) (input avpkt) := by
      have same : ((view session.dec).put (input avpkt)).dec = (view session.dec).dec := by
        unfold Queued.put
        split <;> rfl
      change (⟨waiting bsf, (view session.dec).dec⟩ : Queued σ) = (view session.dec).put (input avpkt)
      rw [queue, ← same]
    have given := fed.put (input avpkt)
    rw [← put] at given
    rcases send_accepted takes sends with ⟨-, rfl, rfl⟩ | ⟨unbuffered, found, frame, next, decodes, rfl, rfl⟩
    · rw [received]
      refine ⟨sent, ?_⟩
      have made : (⟨session.dec.withBsf bsf, session.fed ++ [input avpkt], session.given ++ []⟩ : Session σ).made = session.made := by
        unfold Session.made
        rw [List.append_nil]
        rfl
      rw [if_neg (by decide), made]
      exact given
    · rw [received] at decodes
      have receives := internal_receives proper sent unbuffered decodes
      have tidy := receives.tidy
      refine ⟨⟨tidy.lenient, tidy.props, tidy.packet, tidy.fresh, tidy.mail⟩, ?_⟩
      have made := ahead_made receives.frame_iff receives.nonpos session.given
      unfold Session.made
      dsimp only
      rw [Decoder.holding, made]
      have before : session.made = session.given := by
        rw [Session.made, unbuffered, Option.toList_none, List.map_nil, List.append_nil]
      rw [before] at given
      exact .turns given receives.gives
  · case isFalse refuses =>
    cases made
    have same := send_refused (by simpa using refuses) sends
    subst same
    exact ⟨tidy, fed⟩

section sessions

variable {avctx : AVCodecContext σ} {options : AVCodecOptions} {requests others : List Request}

theorem opened_tidy (lenient : options.Lenient) : Tidy (Decoder.opened avctx options) where
  lenient := lenient
  props := rfl
  packet _ := rfl
  fresh _ _ := rfl
  mail := Mailbox.idle_mail

/-- An opened decoder that nothing was asked of yet. -/
def Session.opened (avctx : AVCodecContext σ) (options : AVCodecOptions) : Session σ :=
  ⟨.opened avctx options, [], []⟩

/-- The calls of a client, each of them orderly. -/
structure Runs (codec : AVCodec σ) (fuel : Nat) (session : Session σ) (requests : List Request) (after : Session σ) : Prop where
  each : Machine.Throughout (Session.call codec fuel) (fun session request => orderly session request) session requests
  runs : Machine.run (Session.call codec fuel) session requests = some after

theorem call_consistent (proper : codec.Proper) (consistent : Consistent codec start session) {request : Request}
    (fine : orderly session request) (called : session.call codec fuel request = some after) : Consistent codec start after := by
  cases request with
  | send avpkt => exact send_consistent proper consistent fine called
  | receive => exact receive_consistent proper consistent called

theorem Runs.consistent (proper : codec.Proper) (consistent : Consistent codec start session)
    (client : Runs codec fuel session requests after) : Consistent codec start after := by
  have keeps : ∀ session request next, Consistent codec start session → orderly session request →
      session.call codec fuel request = some next → True ∧ Consistent codec start next :=
    fun _ _ _ consistent fine called => ⟨trivial, call_consistent proper consistent fine called⟩
  exact (Machine.forward keeps client.runs consistent client.each).2

theorem opened_consistent (lenient : options.Lenient) :
    Consistent codec (view (.opened avctx options)) (.opened avctx options) :=
  ⟨opened_tidy lenient, .start⟩

/-- Whenever a client sends and receives, what comes out is what comes out when all the
packets that were accepted are queued first. -/
theorem decodes_as_queued (proper : codec.Proper) (lenient : options.Lenient)
    (client : Runs codec fuel (.opened avctx options) requests session) :
    (decoding codec).Gives ((decoding codec).puts (view (.opened avctx options)) session.fed) session.made
      (view session.dec) :=
  (client.consistent proper (opened_consistent lenient)).fed.first

/-- A decoder that makes a frame of the bytes of each packet, with the time of the packet. -/
def bytesCodec : AVCodec Unit where
  delay := true
  paramChange := false
  setsFrameProps := false
  setsPktDts := false
  ffSetDimensions _ _ := 0
  decode avctx props pkt :=
    let samples := (pkt.data.getD []).map UInt8.toUInt32
    { ret := pkt.size
      gotFrame := pkt.data.isSome
      frame := ⟨⟨8000, .fltp, 4, 1, samples.length, [samples]⟩, props.bind (·.pts), none, 0, false, none, none⟩
      avctx }

theorem bytesCodec_proper : bytesCodec.Proper where
  fails _ _ pkt failed := by
    have size : (0 : Int) ≤ pkt.size := Int.natCast_nonneg _
    exact absurd failed (not_lt.mpr size)
  decides _ _ pkt := by
    have size : (0 : Int) ≤ pkt.size := Int.natCast_nonneg _
    intro same
    have known : EAGAIN = -11 := rfl
    have ret : (pkt.size : Int) = EAGAIN := same
    omega

/-- A session of this decoder. -/
def bytesSession : Session Unit := .opened ⟨(), .fltp, 4, 1, 8000, 0, 1⟩ ⟨⟨1, 8000⟩, 2147483647, false, false, false⟩

def packetOf (bytes : List UInt8) : AVPacket := ⟨some bytes, none, none, []⟩

/-- Two packets sent at once, and their frames taken afterwards. -/
def sendTwice : List Request :=
  [.send (some (packetOf [1, 2])), .send (some (packetOf [3])), .receive, .receive]

theorem sendTwice_runs : ∃ session, Runs bytesCodec 3 bytesSession sendTwice session ∧
    session.fed = [some (packetOf [1, 2]), some (packetOf [3])] ∧ session.given.length = 2 :=
  ⟨_, ⟨by decide, rfl⟩, rfl, rfl⟩

theorem decodes_as_queued_twice : ∃ session : Session Unit,
    session.fed = [some (packetOf [1, 2]), some (packetOf [3])] ∧ session.given.length = 2 ∧
    (decoding bytesCodec).Gives ((decoding bytesCodec).puts (view bytesSession.dec) session.fed) session.made (view session.dec) := by
  obtain ⟨session, client, fed, given⟩ := sendTwice_runs
  exact ⟨session, fed, given, decodes_as_queued bytesCodec_proper ⟨rfl, rfl⟩ client⟩

/-- Two clients whose packets were accepted in the same order get the same frames and
errors; one of them may have asked for more of them than the other. -/
theorem clients_agree (proper : codec.Proper) (lenient : options.Lenient) {other : Session σ} {turns : Nat}
    (client : Runs codec fuel (.opened avctx options) requests session)
    (also : Runs codec turns (.opened avctx options) others other) (same : session.fed = other.fed) :
    session.made <+: other.made ∨ other.made <+: session.made := by
  have first := (client.consistent proper (opened_consistent lenient)).fed
  have second := (also.consistent proper (opened_consistent lenient)).fed
  rw [same] at first
  exact first.either second

theorem clients_agree_turns : ∃ session other : Session Unit, session.given.length = 2 ∧ other.given.length = 1 ∧
    (session.made <+: other.made ∨ other.made <+: session.made) := by
  obtain ⟨session, client, fed, given⟩ := sendTwice_runs
  have turns : ∃ other, Runs bytesCodec 3 bytesSession
      [.send (some (packetOf [1, 2])), .receive, .send (some (packetOf [3]))] other ∧
      other.fed = [some (packetOf [1, 2]), some (packetOf [3])] ∧ other.given.length = 1 := ⟨_, ⟨by decide, rfl⟩, rfl, rfl⟩
  obtain ⟨other, also, same, one⟩ := turns
  exact ⟨session, other, given, one, clients_agree bytesCodec_proper ⟨rfl, rfl⟩ client also (fed.trans same.symm)⟩

end sessions
end Awt.Lavc
