import Awt.Lavfi.Script
import Awt.Lavfi.Uninit
import Awt.Proofs.DecoderLife
import Awt.Proofs.FilterConfig
import Awt.Proofs.LicenseChecks
import Awt.Proofs.PresentBuffers

/-! `awt_config_props` fails or makes the filter ready, and `awt_uninit` kills the
decoders that it made. -/

namespace Awt
namespace LicenseExchange

/-- `awt_license` stays in its buffers, and what the SDK answers is not taken for success. -/
structure Harmless (exchange : LicenseExchange) (decode : Int) : Prop where
  fits : exchange.Fits decode
  allocated : exchange.request.isSome → exchange.opened.val = 0 → exchange.body ≠ [] → exchange.allocated
  informed : exchange.Read → exchange.Numeric → exchange.info.ret = 0

variable {exchange : LicenseExchange} {decode : Int}

private theorem harmless_of_returned {ret : Int} (ends : exchange.ending decode = .returned ret) (low : ret ≤ 0) :
    exchange.Harmless decode := by
  have fits : exchange.Fits decode := ending_fits_iff.mp (by simp [ends])
  refine ⟨fits, fun requested opened body => ?_, fun read numeric => ?_⟩
  · obtain ⟨licenseRequest, found⟩ := Option.isSome_iff_exists.mp requested
    have url := fits.url _ found
    by_contra missing
    rw [ending_of_request found, if_neg (by omega), if_neg (not_not.mpr opened), served, if_pos ⟨body, missing⟩] at ends
    cases ends
  · obtain ⟨licenseRequest, found⟩ := Option.isSome_iff_exists.mp read.requested
    have url := fits.url _ found
    have room := fits.terminator read numeric
    rw [ending_of_request found, if_neg (by omega), if_neg (not_not.mpr read.opened), served,
      if_neg fun missing => missing.2 read.allocated, if_neg (by omega), if_neg (not_not.mpr numeric), if_neg (by omega)] at ends
    cases ends
    omega

private theorem Harmless.returned (harmless : exchange.Harmless decode) :
    ∃ ret, exchange.ending decode = .returned ret ∧ ret ≤ 0 := by
  cases requested : exchange.request with
  | none => exact ⟨-1, by rw [ending, requested], by decide⟩
  | some licenseRequest =>
    have url := harmless.fits.url _ requested
    have present : exchange.request.isSome := by rw [requested]; rfl
    rw [ending_of_request requested, if_neg (by omega)]
    by_cases opened : exchange.opened.val = 0
    · rw [if_neg (not_not.mpr opened), served, if_neg fun missing => missing.2 (harmless.allocated present opened missing.1)]
      by_cases numeric : exchange.Numeric
      · have read : exchange.Read := ⟨present, opened, harmless.allocated present opened numeric.1⟩
        have room := harmless.fits.terminator read numeric
        rw [if_neg (by omega), if_neg (not_not.mpr numeric), if_neg (by omega), harmless.informed read numeric]
        exact ⟨0, rfl, le_refl _⟩
      · have short : ¬ 128 < exchange.body.length := by
          intro long
          have nonempty : exchange.body ≠ [] := List.ne_nil_of_length_pos (by omega)
          have := harmless.fits.body ⟨present, opened, harmless.allocated present opened nonempty⟩
          omega
        rw [if_neg short, if_pos numeric]
        exact ⟨-1, rfl, by decide⟩
    · rw [if_pos opened]
      exact ⟨_, rfl, exchange.opened.nonpos⟩

theorem harmless_iff : exchange.Harmless decode ↔ ∃ ret, exchange.ending decode = .returned ret ∧ ret ≤ 0 :=
  ⟨Harmless.returned, fun ⟨_, ends, low⟩ => harmless_of_returned ends low⟩

end LicenseExchange

namespace Lavfi
open OracleProgram

/-- The preset is one that `awt_config_props` does not know. -/
def AWTContext.Refuses (awt : AWTContext) : Prop :=
  awt.preset ≠ 0 ∧ (awt.choosePreset.preset = -1 ∨ 10 < awt.choosePreset.preset)

instance (awt : AWTContext) : Decidable awt.Refuses := inferInstanceAs (Decidable (_ ∧ _))

def decoderUse : Observer Surroundings AWTContext DecoderUse where
  init := ⟨0, [], []⟩
  step use event := match event with
    | ⟨_, .awt5DecodeStreamInit _ _, result⟩ =>
      ⟨use.calls + 1, if result.ret = 0 then use.created ++ [use.calls] else use.created, use.killed⟩
    | ⟨_, .awt5DecodeStreamKill _ decObj, _⟩ => ⟨use.calls + 1, use.created, use.killed ++ [decObj]⟩
    | _ => { use with calls := use.calls + 1 }

/-- Decoders are initialised, and memory for the buffers is not refused. -/
def provides : Event → Bool
  | ⟨_, .awt5DecodeStreamInit _ _, result⟩ => result.ret = 0
  | ⟨_, .avMallocz _, allocated⟩ => allocated
  | ⟨_, .realloc _ _, answer⟩ => answer.isSome
  | _ => true

abbrev Provides : Law := fun _ event => provides event

/-- A decoder that is initialised tells a block size. -/
def tellsSize : Event → Bool
  | ⟨_, .awt5DecodeStreamInit _ _, result⟩ => result.ret = 0 → result.bufferSize.any (1 ≤ ·)
  | _ => true

/-- There is memory for `count` samples, as much as `max` says. -/
structure AWTBuffer.Allocated (buffer : AWTBuffer) (count : Int) : Prop where
  room : count * 4 ≤ buffer.max
  memory : buffer.max ≤ (buffer.data.length : Int) * 4

/-- All buffers exist, and their memory does. -/
structure Allocated (channels : Nat) (awt : AWTContext) : Prop where
  input : ∃ buffers, awt.input = some buffers ∧ buffers.length = channels ∧ ∀ buffer ∈ buffers, buffer.Allocated awt.pktSize
  output : ∃ buffers, awt.output = some buffers ∧ buffers.length = channels ∧ ∀ buffer ∈ buffers, buffer.Allocated awt.pktSize
  inBuffer : ∃ buffer, awt.inBuffer = some buffer ∧ buffer.Allocated (awt.awtSize * channels)
  outBuffer : ∃ buffer, awt.outBuffer = some buffer ∧ buffer.Allocated (awt.awtSize * channels)

/-- What `awt_filter_frame` and `awt_uninit` assume of a configured filter; no frame
finds a buffer missing. -/
structure FullyReady (inlink : AVFilterLink) (world : LavfiWorld) : Prop where
  counted : world.state.nbDecoder = min 2 inlink.channels
  decoders : ∀ i < (min 2 inlink.channels).toNat, (world.state.decoder i).any (decoderUse.seen world.trace).live
  awtSize : 1 ≤ world.state.awtSize
  pktSize : 1 ≤ world.state.pktSize ∧ world.state.pktSize ≤ 2048
  allocated : Allocated inlink.channels.toNat world.state
  frames : ∀ fuel frames oracle, ((awtFilterFrames fuel inlink frames).run oracle world).1 ≠ .stop (.fault .nullBuffer)

/-- The configuration fails with a negative value or leaves the filter ready, and
`awt_uninit` behind it kills every decoder that was created, and nothing else. -/
structure AllOrNothing (inlink : AVFilterLink) (exit : Exit Stop Int) (world : LavfiWorld) : Prop where
  decided : ∃ ret, exit = .done ret ∧ (ret < 0 ∨ FullyReady inlink world)
  closed : ∀ oracle, ((awtUninit inlink).run oracle world).1 = .done () ∧
    (decoderUse.seen ((awtUninit inlink).run oracle world).2.trace).KilledOnce

section config

variable {law : Law} {K : LavfiWorld → Prop} {decoders made channels : Nat} {world : LavfiWorld} {awt : AWTContext}

/-- Calls that make or kill no decoder and ask for no memory of a buffer. -/
private def Call.bystands : Call → Bool
  | .awt5DecodeStreamInit _ _ | .awt5DecodeStreamKill _ _ | .avMallocz _ | .realloc _ _ => false
  | _ => true

private theorem Call.bystands_of_license {call : Call} (member : call.ofLicense) : call.bystands := by
  cases call <;> first | rfl | cases member

private theorem seen_bystander {call : Call} (bystands : call.bystands) (answer : Answer call) :
    decoderUse.seen (world.record call answer).trace =
      { decoderUse.seen world.trace with calls := (decoderUse.seen world.trace).calls + 1 } := by
  rw [World.record_trace, Observer.seen_concat]
  cases call <;> first | rfl | cases bystands

private theorem provided_bystander {call : Call} (bystands : call.bystands) (answer : Answer call) :
    Lawful Provides (world.record call answer).trace ↔ Lawful Provides world.trace := by
  rw [World.record_trace, lawful_concat]
  refine and_iff_left ?_
  cases call <;> first | rfl | cases bystands

/-- Of the decoders to be made, the first `made` are there; buffers are not. -/
private structure Stage (decoders made : Nat) (world : LavfiWorld) : Prop where
  fresh : Fresh world.state
  counted : world.state.nbDecoder = decoders
  owns : (decoderUse.seen world.trace).Owns made world.state.decoder
  provided : Lawful Provides world.trace
  unsized : made = 0 → world.state.awtSize = 0

private theorem Stage.bystanders : Ignores law (fun call => call.bystands) (Stage decoders made) := by
  intro call bystands world stage answer _
  refine { stage with owns := ?_, provided := (provided_bystander bystands answer).mpr stage.provided }
  rw [seen_bystander bystands]
  exact stage.owns.later

/-- The license was not asked for. -/
private def Unread (world : LavfiWorld) : Prop := (world.trace.countP fun event => event.call.readsBody) = 0

private theorem unread_log (level : LogLevel) (msg : LogMsg) (unread : Unread world) :
    Unread (world.record (.avLog level msg) ()) := by
  rw [Unread, World.record_trace, List.countP_append, unread]
  rfl

/-- Settings have nothing to do with the stage. -/
private theorem Stage.settings (stage : Stage decoders made world) {change : AWTContext → AWTContext}
    (fresh : Fresh world.state → Fresh (change world.state)) (counted : (change world.state).nbDecoder = world.state.nbDecoder)
    (decoder : (change world.state).decoder = world.state.decoder)
    (awtSize : (change world.state).awtSize = world.state.awtSize) : Stage decoders made (world.update change) where
  fresh := fresh stage.fresh
  counted := counted.trans stage.counted
  owns := by rw [World.update_state, decoder]; exact stage.owns
  provided := stage.provided
  unsized none := awtSize.trans (stage.unsized none)

private theorem Stage.choosePreset (stage : Stage decoders made world) :
    Stage decoders made (world.update AWTContext.choosePreset) := by
  apply stage.settings <;> unfold AWTContext.choosePreset <;> split <;> first | rfl | exact id | exact fun fresh => { fresh with }

private theorem Stage.useBands (stage : Stage decoders made world) : Stage decoders made (world.update AWTContext.useBands) := by
  apply stage.settings <;> unfold AWTContext.useBands <;> split <;> first | rfl | exact id | exact fun fresh => { fresh with }

private theorem configPreset_outcome (stage : Stage 0 0 world) (unread : Unread world) :
    Meets law configPreset (fun early final => early = (if world.state.Refuses then some EINVAL else none) ∧
      Stage 0 0 final ∧ Unread final) (fun _ _ => False) world := by
  have calls : Ignores law (fun call => call.bystands) (Stage 0 0) := Stage.bystanders
  apply Meets.get_bind
  split
  next off => exact Meets.ret ⟨(if_neg fun refuses => refuses.1 off).symm, stage, unread⟩
  next on =>
  apply Meets.modify_bind
  have chosen := stage.choosePreset
  apply Meets.get_bind
  split
  next unknown =>
    have refuses : world.state.Refuses := ⟨on, unknown⟩
    apply Meets.call_bind
    intro _ lawful
    exact Meets.ret ⟨(if_pos refuses).symm, calls _ rfl _ chosen _ lawful, unread_log _ _ unread⟩
  next known =>
    have accepted : ¬ world.state.Refuses := fun refuses => known refuses.2
    apply Meets.call_bind
    intro _ lawful
    apply Meets.modify_bind
    exact Meets.ret ⟨(if_neg accepted).symm, (calls _ rfl _ chosen _ lawful).useBands, unread_log _ _ unread⟩

variable {exchange : LicenseExchange} {fuel i : Nat} {items : List Nat}

/-- What is known of the surroundings: the exchange, and that a decoder tells a size. -/
private abbrev Known (exchange : LicenseExchange) : Law :=
  fun past event => exchange.servesLavfi past event ∧ tellsSize event

private theorem awtLicense_outcome (enough : 129 < fuel) (stage : Stage 0 0 world) (unread : Unread world) :
    Meets (Known exchange) (awtLicense fuel 1) (fun ret final => exchange.ending 1 = .returned ret ∧ Stage 0 0 final)
      (fun _ _ => ¬ exchange.Harmless 1) world := by
  have ends : Meets (Known exchange) (awtLicense fuel 1) _ _ world :=
    (exchange.awtLicense_ends_lavfi fuel enough 1 unread).narrow fun _ _ known => known.1
  have keeps : Meets (Known exchange) (awtLicense fuel 1) _ _ world :=
    awtLicense_keeps (Stage.bystanders.narrow fun _ => Call.bystands_of_license)
      (fun _ _ stage => stage.settings (fun fresh => { fresh with }) rfl rfl rfl) fuel 1 stage
  apply (ends.both keeps).weaken
  · intro ret final ⟨⟨ended, _⟩, stage⟩
    refine ⟨?_, stage⟩
    cases same : exchange.ending 1 <;> rw [same] at ended <;> cases ended
    rfl
  · intro why final ⟨ended, _⟩ harmless
    obtain ⟨ret, same, _⟩ := LicenseExchange.harmless_iff.mp harmless
    rw [same] at ended
    cases ended

private theorem calls_seen_lavfi (trace : History) : (decoderUse.seen trace).calls = trace.length := by
  induction trace using List.reverseRecOn with
  | nil => rfl
  | append_singleton past event ih =>
    obtain ⟨awt, call, answer⟩ := event
    rw [Observer.seen_concat, List.length_append, ← ih]
    cases call <;> rfl

/-- A decoder could not be initialised, and `nb_decoder` counts it all the same. -/
private structure Unfinished (decoders : Nat) (world : LavfiWorld) : Prop where
  fresh : Fresh world.state
  counted : world.state.nbDecoder = decoders
  owns : ∃ made < decoders, (decoderUse.seen world.trace).Owns made world.state.decoder
  refused : ¬ Lawful Provides world.trace

private theorem Unfinished.bystanders : Ignores law (fun call => call.bystands) (Unfinished decoders) := by
  intro call bystands world unfinished answer _
  refine { unfinished with owns := ?_, refused := (provided_bystander bystands answer).not.mpr unfinished.refused }
  obtain ⟨made, less, owns⟩ := unfinished.owns
  rw [seen_bystander bystands]
  exact ⟨made, less, owns.later⟩

/-- The decoders in `items` are still to be initialised. -/
private def Initialising (decoders : Nat) (items : List Nat) (world : LavfiWorld) : Prop :=
  ∃ made more, items = List.range' made more ∧ made + more = decoders ∧ Stage decoders made world ∧
    (0 < made → 1 ≤ world.state.awtSize)

private theorem initDecoder_outcome (sampleRate : Int) (initialising : Initialising decoders (i :: items) world) :
    Meets (Known exchange) (initDecoder sampleRate i) (fun result final => result.elim (Initialising decoders items final)
      fun ret => ret = EINVAL ∧ Unfinished decoders final) (fun _ _ => False) world := by
  obtain ⟨made, more, left, counted, stage, sized⟩ := initialising
  cases more with
  | zero => cases left
  | succ more =>
  rw [List.range'_succ] at left
  cases left
  apply Meets.get_bind
  apply Meets.bind (Meets.count _)
  apply Meets.call_bind
  intro result ⟨_, tells⟩
  apply Meets.modify_bind
  split
  next failed =>
    have unfinished : Unfinished decoders ((world.record (.awt5DecodeStreamInit i (world.state.decodeSettings sampleRate))
        result).update fun awt => { awt with awtSize := result.bufferSize.getD awt.awtSize }) := by
      refine ⟨{ stage.fresh with }, stage.counted, ⟨i, by omega, ?_⟩, ?_⟩
      · rw [World.update_trace, World.record_trace, Observer.seen_concat]
        change DecoderUse.Owns ⟨_, if result.ret = 0 then _ else _, _⟩ i _
        rw [if_neg failed]
        exact stage.owns.later
      · rw [World.update_trace, World.record_trace, lawful_concat]
        exact fun provided => failed (of_decide_eq_true provided.2)
    apply Meets.call_seq (Unfinished.bystanders _ rfl _ unfinished)
    intro _ world unfinished
    apply Meets.call_seq (Unfinished.bystanders _ rfl _ unfinished)
    exact fun _ _ unfinished => Meets.ret ⟨rfl, unfinished⟩
  next succeeded =>
    apply Meets.modify_bind
    have zero : result.ret = 0 := not_not.mp succeeded
    have told : result.bufferSize.any (1 ≤ ·) := of_decide_eq_true tells zero
    obtain ⟨size, same, positive⟩ := (Option.any_eq_true _ _).mp told
    refine Meets.ret ⟨i + 1, more, rfl, by omega, ⟨{ stage.fresh with }, stage.counted, ?_, ?_, nofun⟩, fun _ => ?_⟩
    · rw [World.update_trace, World.update_trace, World.record_trace, Observer.seen_concat]
      change DecoderUse.Owns ⟨_, if result.ret = 0 then _ else _, _⟩ (i + 1) (Function.update _ i (some world.trace.length))
      rw [if_pos zero, ← calls_seen_lavfi world.trace]
      exact stage.owns.create
    · rw [World.update_trace, World.update_trace, World.record_trace, lawful_concat]
      exact ⟨stage.provided, decide_eq_true zero⟩
    · change 1 ≤ result.bufferSize.getD _
      rw [same]
      exact of_decide_eq_true positive

private theorem initDecoders_outcome (sampleRate : Int) (stage : Stage decoders 0 world) :
    Meets (Known exchange) (Program.each (initDecoder sampleRate) (indices decoders)) (fun result final => result.elim
      (Initialising decoders [] final) fun ret => ret = EINVAL ∧ Unfinished decoders final) (fun _ _ => False) world := by
  have start : Initialising decoders (List.range decoders) world :=
    ⟨0, decoders, List.range_eq_range', Nat.zero_add _, stage, fun none => absurd none (Nat.lt_irrefl 0)⟩
  rw [indices_natCast]
  exact Meets.each (Initialising decoders) (fun _ _ _ initialising => initDecoder_outcome sampleRate initialising) (fun _ holds => holds) _ start

variable {place : Place} {buffer : AWTBuffer} {count : Nat}

/-- A new buffer has the memory that `max` says exactly if it was granted. -/
private theorem awtBufferCreate_outcome (keeps : Ignores law (fun call => call.allocates) K) (initSize : Int) (holds : K world) :
    Meets law (awtBufferCreate place initSize none) (fun buffer final => buffer.max = max 0 (awtBufferSize initSize) ∧
      (Lawful Provides final.trace ↔ Lawful Provides world.trace ∧ buffer.max ≤ (buffer.data.length : Int) * 4) ∧ K final)
      (fun _ final => ¬ Lawful Provides final.trace) world := by
  apply Meets.call_bind
  intro allocated lawful
  cases allocated with
  | false =>
    apply Meets.stop
    rw [World.record_trace, lawful_concat]
    exact fun provided => Bool.false_ne_true provided.2
  | true =>
  have made := keeps _ rfl world holds _ lawful
  rw [Bool.not_true, if_neg Bool.false_ne_true, awtBufferEnsure_new]
  split
  next none =>
    refine Meets.ret ⟨(max_eq_left none).symm, ?_, made⟩
    rw [World.record_trace, lawful_concat]
    exact ⟨fun provided => ⟨provided.1, le_refl _⟩, fun granted => ⟨granted.1, rfl⟩⟩
  next some =>
  have most := (max_eq_right (Int.le_of_not_le some)).symm
  apply Meets.call_bind
  intro answer lawful
  have kept := keeps _ rfl _ made _ lawful
  cases answer with
  | none =>
    refine Meets.ret ⟨most, ?_, kept⟩
    rw [World.record_trace, lawful_concat]
    exact ⟨fun provided => absurd provided.2 Bool.false_ne_true, fun granted => absurd granted.2 some⟩
  | some fresh =>
    obtain ⟨count, same⟩ : ∃ count : Nat, awtBufferSize initSize = (count : Int) * 4 := by
      have whole := awtBufferSize_whole initSize
      exact ⟨(awtBufferSize initSize / 4).toNat, by omega⟩
    have length := reallocated_length [] count fresh
    refine Meets.ret ⟨most, ?_, kept⟩
    rw [World.record_trace, lawful_concat, World.record_trace, lawful_concat, same]
    refine ⟨fun provided => ⟨provided.1.1, ?_⟩, fun granted => ⟨⟨granted.1, rfl⟩, rfl⟩⟩
    dsimp only [Option.elim]
    rw [length]

private theorem awtBufferCreateArr_outcome (keeps : Ignores law (fun call => call.allocates) K) (element : Nat → Place)
    (present : 0 < channels) (small : count < 2 ^ 29) (holds : K world) :
    Meets law (awtBufferCreateArr place element channels count none) (fun array final => ∃ buffers, array = some buffers ∧
      buffers.length = channels ∧ (Lawful Provides final.trace ↔ Lawful Provides world.trace ∧
        ∀ buffer ∈ buffers, buffer.Allocated count) ∧ K final) (fun _ final => ¬ Lawful Provides final.trace) world := by
  apply Meets.call_bind
  intro allocated lawful
  cases allocated with
  | false =>
    rw [Bool.not_false, if_pos rfl, if_pos (by omega)]
    apply Meets.stop
    rw [World.record_trace, lawful_concat]
    exact fun provided => Bool.false_ne_true provided.2
  | true =>
  have start := keeps _ rfl world holds _ lawful
  rw [Bool.not_true, if_neg Bool.false_ne_true, indices_natCast]
  have made : Meets law (Program.collect (fun i => awtBufferCreate (element i) count none) (List.range channels))
      (fun buffers final => buffers.length + 0 = channels ∧ (Lawful Provides final.trace ↔ Lawful Provides world.trace ∧
        ∀ buffer ∈ buffers, buffer.Allocated count) ∧ K final) (fun _ final => ¬ Lawful Provides final.trace)
      (world.record (.avMallocz place) true) := by
    apply Meets.collect (fun items (buffers : List AWTBuffer) final => buffers.length + items.length = channels ∧
      (Lawful Provides final.trace ↔ Lawful Provides world.trace ∧ ∀ buffer ∈ buffers, buffer.Allocated count) ∧ K final)
    · intro i items buffers middle ⟨counted, same, holds⟩
      apply (awtBufferCreate_outcome keeps count holds).imp
      intro buffer final ⟨bytes, granted, holds⟩
      rw [awtBufferSize_ok (by omega) (by omega), max_eq_right (by omega)] at bytes
      have allocated : buffer.max ≤ (buffer.data.length : Int) * 4 ↔ buffer.Allocated count :=
        ⟨fun memory => ⟨bytes.ge, memory⟩, AWTBuffer.Allocated.memory⟩
      rw [allocated] at granted
      refine ⟨?_, ?_, holds⟩
      · rw [List.length_append, List.length_singleton, Nat.add_assoc, Nat.add_comm 1]
        exact counted
      · rw [granted, same, List.forall_mem_append, List.forall_mem_singleton, and_assoc]
    · refine ⟨by simp, ?_, start⟩
      rw [World.record_trace, lawful_concat]
      exact ⟨fun provided => ⟨provided.1, fun _ member => absurd member List.not_mem_nil⟩, fun provided => ⟨provided.1, rfl⟩⟩
  apply Meets.seq made
  intro buffers final ⟨counted, granted, holds⟩
  exact Meets.ret ⟨buffers, rfl, counted, granted, holds⟩

/-- The context is known, and the decoders that it owns. -/
private def Standing (decoders : Nat) (awt : AWTContext) (world : LavfiWorld) : Prop :=
  world.state = awt ∧ (decoderUse.seen world.trace).Owns decoders awt.decoder

private theorem Standing.update (standing : Standing decoders awt world) (change : AWTContext → AWTContext)
    (same : (change awt).decoder = awt.decoder) : Standing decoders (change awt) (world.update change) :=
  ⟨congrArg change standing.1, by rw [same]; exact standing.2⟩

private theorem Standing.allocates : Ignores law (fun call => call.allocates) (Standing decoders awt) := by
  intro call allocates world standing answer _
  refine ⟨standing.1, ?_⟩
  rw [World.record_trace, Observer.seen_concat]
  cases call <;> first | exact standing.2.later | cases allocates

/-- All decoders and buffers were made; the buffers have memory if it was granted. -/
private structure Built (decoders channels : Nat) (world : LavfiWorld) : Prop where
  counted : world.state.nbDecoder = decoders
  owns : (decoderUse.seen world.trace).Owns decoders world.state.decoder
  awtSize : 1 ≤ world.state.awtSize
  pktSize : 1 ≤ world.state.pktSize ∧ world.state.pktSize ≤ 2048
  present : Present channels world.state
  granted : Lawful Provides world.trace ∧ Sizable world.state.awtSize channels ↔ Allocated channels world.state

private theorem createBuffers_outcome (present : 0 < channels) (stage : Stage decoders decoders world)
    (awtSize : 1 ≤ world.state.awtSize) (pktSize : 1 ≤ world.state.pktSize ∧ world.state.pktSize ≤ 2048) :
    Meets law (createBuffers channels) (fun _ final => Built decoders channels final)
      (fun _ final => ¬ (Lawful Provides final.trace ∧ Sizable final.state.awtSize channels)) world := by
  obtain ⟨size, sized⟩ := Int.eq_ofNat_of_zero_le (show 0 ≤ world.state.awtSize by omega)
  obtain ⟨packet, cut⟩ := Int.eq_ofNat_of_zero_le (show 0 ≤ world.state.pktSize by omega)
  have start : Standing decoders world.state world := ⟨rfl, stage.owns⟩
  have samples : 0 < size * channels := Nat.mul_pos (by omega) present
  have gathers : (size : Int) * channels = ((size * channels : Nat) : Int) := (Int.natCast_mul ..).symm
  apply Meets.get_bind
  rw [stage.fresh.input, cut]
  refine Meets.seq ((awtBufferCreateArr_outcome Standing.allocates _ present (by omega) start).weaken (fun _ _ made => made)
    fun _ _ refused provided => refused provided.1) ?_
  rintro _ first ⟨inputs, rfl, inputCount, inputGranted, standing⟩
  apply Meets.modify_bind
  replace standing := standing.update (fun awt => { awt with input := some inputs }) rfl
  rw [stage.fresh.output]
  refine Meets.seq ((awtBufferCreateArr_outcome Standing.allocates _ present (by omega) standing).weaken (fun _ _ made => made)
    fun _ _ refused provided => refused provided.1) ?_
  rintro _ second ⟨outputs, rfl, outputCount, outputGranted, standing⟩
  apply Meets.modify_bind
  replace standing := standing.update (fun awt => { awt with output := some outputs }) rfl
  rw [stage.fresh.inBuffer, sized]
  refine int_seq (fun _ => ?_) fun overflow sound => ?_
  rotate_left
  · have bytes := sound.2.1
    rw [standing.1] at bytes
    dsimp only at bytes
    rw [sized] at bytes
    omega
  refine Meets.seq ((awtBufferCreate_outcome Standing.allocates _ standing).weaken (fun _ _ made => made)
    fun _ _ refused provided => refused provided.1) ?_
  intro inBuffer third ⟨inMax, inGranted, standing⟩
  apply Meets.modify_bind
  replace standing := standing.update (fun awt => { awt with inBuffer := some inBuffer }) rfl
  rw [stage.fresh.outBuffer]
  refine Meets.seq ((awtBufferCreate_outcome Standing.allocates _ standing).weaken (fun _ _ made => made)
    fun _ _ refused provided => refused provided.1) ?_
  intro outBuffer fourth ⟨outMax, outGranted, standing⟩
  have final := standing.update (fun awt => { awt with outBuffer := some outBuffer }) rfl
  refine Meets.modify ⟨?_, ?_, ?_, ?_, ?_, ?_⟩
  · rw [final.1]
    exact stage.counted
  · rw [final.1]
    exact final.2
  · rw [final.1]
    exact awtSize
  · rw [final.1]
    exact pktSize
  · rw [final.1]
    exact ⟨⟨inputs, rfl, inputCount⟩, ⟨outputs, rfl, outputCount⟩, ⟨inBuffer, rfl⟩, ⟨outBuffer, rfl⟩⟩
  · rw [final.1]
    rw [World.update_trace, outGranted, World.update_trace, inGranted, World.update_trace, outputGranted, World.update_trace,
      inputGranted]
    have sizable := sizable_iff (show 0 < (size : Int) * channels by omega)
    rw [← inMax, ← outMax] at sizable
    dsimp only
    rw [sized, sizable]
    constructor
    · intro ⟨⟨⟨⟨⟨_, inputMemory⟩, outputMemory⟩, inMemory⟩, outMemory⟩, inRoom, outRoom⟩
      refine ⟨⟨inputs, rfl, inputCount, ?_⟩, ⟨outputs, rfl, outputCount, ?_⟩, ⟨inBuffer, rfl, inRoom, inMemory⟩,
        ⟨outBuffer, rfl, outRoom, outMemory⟩⟩
      · rwa [cut]
      · rwa [cut]
    · intro allocated
      obtain ⟨_, ⟨⟩, _, inputMemory⟩ := allocated.input
      obtain ⟨_, ⟨⟩, _, outputMemory⟩ := allocated.output
      obtain ⟨_, ⟨⟩, inMemory⟩ := allocated.inBuffer
      obtain ⟨_, ⟨⟩, outMemory⟩ := allocated.outBuffer
      rw [cut] at inputMemory outputMemory
      exact ⟨⟨⟨⟨⟨stage.provided, inputMemory⟩, outputMemory⟩, inMemory.memory⟩, outMemory.memory⟩, inMemory.room, outMemory.room⟩

/-- How the configuration ends, where `sound` says that no failure is reported by a
positive value. -/
private inductive Outcome (sound : Prop) (channels : Nat) : Int → LavfiWorld → Prop where
  | failed {ret : Int} {world : LavfiWorld} (negative : ret < 0) (holds : sound) (stage : Stage 0 0 world) :
    Outcome sound channels ret world
  | mistaken {ret : Int} {world : LavfiWorld} (positive : 0 < ret) (fails : ¬ sound) (stage : Stage 0 0 world) :
    Outcome sound channels ret world
  | unfinished {world : LavfiWorld} (unfinished : Unfinished (min 2 channels) world) : Outcome sound channels EINVAL world
  | built {world : LavfiWorld} (holds : sound) (built : Built (min 2 channels) channels world) : Outcome sound channels 0 world

private theorem awtConfigProps_outcome {inlink : AVFilterLink} (enough : 129 < fuel) (counted : inlink.channels = channels)
    (present : 0 < channels) (stage : Stage 0 0 world) (unread : Unread world) :
    Meets (Known exchange) (awtConfigProps fuel inlink) (Outcome (world.state.Refuses ∨ exchange.Harmless 1) channels)
      (fun _ final => ¬ ((world.state.Refuses ∨ exchange.Harmless 1) ∧ Lawful Provides final.trace ∧
        Sizable final.state.awtSize channels)) world := by
  unfold awtConfigProps
  rw [counted]
  apply Meets.seq ((configPreset_outcome stage unread).weaken (fun _ _ holds => holds) fun _ _ never => never.elim)
  intro early second ⟨same, stage, unread⟩
  by_cases refuses : world.state.Refuses
  · rw [same, if_pos refuses]
    exact Meets.ret (.failed (by decide) (Or.inl refuses) stage)
  rw [same, if_neg refuses]
  have sound_iff : world.state.Refuses ∨ exchange.Harmless 1 ↔ exchange.Harmless 1 := or_iff_right refuses
  rw [sound_iff]
  apply Meets.get_bind
  have logs (level : LogLevel) (msg : LogMsg) : After (Known exchange) (.avLog level msg)
      (fun _ final => Stage 0 0 final ∧ Unread final) second :=
    fun answer lawful => ⟨Stage.bystanders _ rfl second stage answer lawful, unread_log level msg unread⟩
  apply Meets.call_seq (logs _ _)
  intro _ second ⟨stage, unread⟩
  refine Meets.seq ((awtLicense_outcome enough stage unread).weaken (fun _ _ holds => holds) fun _ _ => mt And.left) ?_
  intro ret third ⟨ends, stage⟩
  split
  next refused =>
    rcases lt_or_gt_of_ne refused with negative | positive
    · exact Meets.ret (.failed negative (LicenseExchange.harmless_iff.mpr ⟨ret, ends, by omega⟩) stage)
    · refine Meets.ret (.mistaken positive (fun harmless => ?_) stage)
      obtain ⟨other, same, low⟩ := LicenseExchange.harmless_iff.mp harmless
      cases same.symm.trans ends
      omega
  next licensed =>
  have harmless : exchange.Harmless 1 := LicenseExchange.harmless_iff.mpr ⟨ret, ends, by omega⟩
  apply Meets.modify_bind
  rw [show min 2 (channels : Int) = ((min 2 channels : Nat) : Int) by omega]
  have begun : Stage (min 2 channels) 0 (third.update fun awt => { awt with nbDecoder := ((min 2 channels : Nat) : Int) }) :=
    ⟨{ stage.fresh with }, rfl, stage.owns, stage.provided, stage.unsized⟩
  apply Meets.get_bind
  apply Meets.seq ((initDecoders_outcome inlink.sampleRate begun).weaken (fun _ _ holds => holds) fun _ _ never => never.elim)
  intro result fourth reached
  cases result with
  | some ret =>
    obtain ⟨rfl, unfinished⟩ := reached
    exact Meets.ret (.unfinished unfinished)
  | none =>
  obtain ⟨made, more, none, all, stage, sized⟩ := reached
  cases more with
  | succ more => cases none
  | zero =>
  rw [Nat.add_zero] at all
  subst all
  have positive := sized (by omega)
  have range := pktSize_range (show 0 < fourth.state.awtSize by omega)
  apply Meets.get_bind
  apply Meets.call_bind
  intro answer lawful
  have logged : Stage _ _ (fourth.record (.avLog .warning (.started fourth.state.awtSize)) answer) :=
    Stage.bystanders _ rfl fourth stage answer lawful
  split
  next zero => omega
  apply Meets.modify_bind
  have settled : Stage _ _ ((fourth.record (.avLog .warning (.started fourth.state.awtSize)) answer).update
      fun awt => { awt with pktSize := pktSize awt.awtSize }) := logged.settings (fun fresh => { fresh with }) rfl rfl rfl
  refine Meets.seq ((createBuffers_outcome present settled positive range).weaken (fun _ _ holds => holds)
    fun _ _ => mt And.right) ?_
  exact fun _ _ built => Meets.ret (.built harmless built)

/-- The decoders that were created and killed so far. -/
private def Killed (created : List DecObj) (killed : List (Option DecObj)) (world : LavfiWorld) : Prop :=
  (decoderUse.seen world.trace).created = created ∧ (decoderUse.seen world.trace).killed = killed

variable {created : List DecObj} {killed : List (Option DecObj)}

private theorem Killed.bystanders : Ignores law (fun call => call.bystands) (Killed created killed) := by
  intro call bystands world holds answer _
  unfold Killed
  rw [seen_bystander bystands]
  exact holds

private theorem killDecoders_kills (alive : Killed created [] world) :
    Meets law killDecoders (fun _ final => Killed created ((indices world.state.nbDecoder).map world.state.decoder) final ∧
      final.state = { world.state with nbDecoder := 0 }) (fun _ _ => False) world := by
  obtain ⟨awt, trace⟩ := world
  apply Meets.get_bind
  split
  next none =>
    refine Meets.ret ⟨?_, by rw [← none]⟩
    rw [none]
    exact alive
  next some =>
  have loop : Meets law (Program.each killDecoder (indices awt.nbDecoder)) (fun _ final =>
      Killed created ((indices awt.nbDecoder).map awt.decoder) final ∧ final.state = awt) (fun _ _ => False) ⟨awt, trace⟩ := by
    apply Meets.each (fun items world => (∃ killed, killed ++ items.map awt.decoder = (indices awt.nbDecoder).map awt.decoder ∧
      Killed created killed world) ∧ world.state = awt)
    · intro i items world ⟨⟨killed, all, holds⟩, same⟩
      apply Meets.get_bind
      apply Meets.call_bind
      intro _ _
      refine Meets.ret ⟨⟨killed ++ [awt.decoder i], by rw [List.append_assoc, List.singleton_append, ← List.map_cons, all], ?_⟩, same⟩
      unfold Killed
      rw [World.record_trace, Observer.seen_concat, same]
      exact ⟨holds.1, congrArg (· ++ [awt.decoder i]) holds.2⟩
    · intro world ⟨⟨killed, all, holds⟩, same⟩
      rw [List.map_nil, List.append_nil] at all
      exact ⟨all ▸ holds, same⟩
    · exact ⟨⟨[], rfl, alive⟩, rfl⟩
  apply Meets.seq loop
  intro _ final ⟨holds, same⟩
  exact Meets.modify ⟨holds, by rw [World.update_state, same]⟩

private theorem awtBufferDestroy_keeps (ptr : Option AWTBuffer) (holds : Killed created killed world) :
    Meets law (awtBufferDestroy place ptr) (fun _ => Killed created killed) (fun _ _ => False) world := by
  cases ptr with
  | none => exact Meets.ret holds
  | some buffer =>
    apply Meets.call_seq (Killed.bystanders _ rfl _ holds)
    intro _ world holds
    apply Meets.call_seq (Killed.bystanders _ rfl _ holds)
    exact fun _ _ holds => Meets.ret holds

private theorem awtBufferDestroyArr_keeps (element : Nat → Place) (array : Option (List AWTBuffer))
    (whole : ∀ buffers, array = some buffers → buffers.length = channels) (holds : Killed created killed world) :
    Meets law (awtBufferDestroyArr place element channels array) (fun _ => Killed created killed) (fun _ _ => False) world := by
  cases array with
  | none => exact Meets.ret holds
  | some buffers =>
    unfold awtBufferDestroyArr
    rw [indices_natCast]
    refine Meets.seq (Meets.collect_keeps (fun i member world holds => ?_) holds) fun _ world holds => ?_
    · have within : i < buffers.length := by rw [whole buffers rfl]; exact List.mem_range.mp member
      rw [List.getElem?_eq_getElem within]
      exact Meets.bind (Meets.ret (awtBufferDestroy_keeps _ holds))
    · apply Meets.call_seq (Killed.bystanders _ rfl _ holds)
      exact fun _ _ holds => Meets.ret holds

/-- As many decoders are killed as `nb_decoder` counts. -/
private theorem awtUninit_kills {inlink : AVFilterLink} (counted : inlink.channels = channels) (alive : Killed created [] world)
    (input : ∀ buffers, world.state.input = some buffers → buffers.length = channels)
    (output : ∀ buffers, world.state.output = some buffers → buffers.length = channels) :
    Meets law (awtUninit inlink) (fun _ => Killed created ((indices world.state.nbDecoder).map world.state.decoder))
      (fun _ _ => False) world := by
  unfold awtUninit
  rw [counted]
  apply Meets.seq (killDecoders_kills alive)
  intro _ second ⟨holds, same⟩
  apply Meets.get_bind
  rw [same]
  apply Meets.seq (awtBufferDestroy_keeps _ holds)
  intro _ _ holds
  apply Meets.seq (awtBufferDestroy_keeps _ holds)
  intro _ _ holds
  apply Meets.seq (awtBufferDestroyArr_keeps _ _ input holds)
  intro _ _ holds
  apply Meets.seq (awtBufferDestroyArr_keeps _ _ output holds)
  intro _ _ holds
  apply Meets.call_seq (Killed.bystanders _ rfl _ holds)
  intro _ _ holds
  apply Meets.modify_bind
  exact Meets.call (Killed.bystanders _ rfl _ holds)

private theorem closing {inlink : AVFilterLink} (counted : inlink.channels = channels)
    (owns : (decoderUse.seen world.trace).Owns made world.state.decoder)
    (input : ∀ buffers, world.state.input = some buffers → buffers.length = channels)
    (output : ∀ buffers, world.state.output = some buffers → buffers.length = channels)
    (oracle : Oracle Surroundings AWTContext) : ((awtUninit inlink).run oracle world).1 = .done () ∧
      Killed (decoderUse.seen world.trace).created ((indices world.state.nbDecoder).map world.state.decoder)
        ((awtUninit inlink).run oracle world).2 := by
  have kills : Meets (fun _ _ => True) (awtUninit inlink) _ _ world :=
    awtUninit_kills counted ⟨rfl, owns.alive⟩ input output
  have reached := kills oracle fun _ _ _ _ => trivial
  cases executed : (awtUninit inlink).run oracle world with
  | mk exit final =>
    rw [executed] at reached
    cases exit with
    | done _ => exact ⟨rfl, reached⟩
    | stop why => exact reached.elim

/-- With every place filled, all decoders are killed. -/
private theorem closing_once {inlink : AVFilterLink} (counted : inlink.channels = channels)
    (owns : (decoderUse.seen world.trace).Owns made world.state.decoder) (all : world.state.nbDecoder = made)
    (input : ∀ buffers, world.state.input = some buffers → buffers.length = channels)
    (output : ∀ buffers, world.state.output = some buffers → buffers.length = channels)
    (oracle : Oracle Surroundings AWTContext) : ((awtUninit inlink).run oracle world).1 = .done () ∧
      (decoderUse.seen ((awtUninit inlink).run oracle world).2.trace).KilledOnce := by
  obtain ⟨done, created, killed⟩ := closing counted owns input output oracle
  refine ⟨done, ⟨by rw [created]; exact owns.distinct, ?_⟩⟩
  rw [created, killed, all, indices_natCast]
  exact owns.created.symm

private theorem Fresh.no_input (fresh : Fresh awt) (buffers : List AWTBuffer) (some : awt.input = some buffers) :
    buffers.length = channels := by
  rw [fresh.input] at some
  cases some

private theorem Fresh.no_output (fresh : Fresh awt) (buffers : List AWTBuffer) (some : awt.output = some buffers) :
    buffers.length = channels := by
  rw [fresh.output] at some
  cases some

/-- One decoder too many is killed. -/
private theorem Unfinished.overkills {inlink : AVFilterLink} (unfinished : Unfinished decoders world)
    (counted : inlink.channels = channels) (oracle : Oracle Surroundings AWTContext) :
    ¬ (decoderUse.seen ((awtUninit inlink).run oracle world).2.trace).KilledOnce := by
  obtain ⟨made, less, owns⟩ := unfinished.owns
  obtain ⟨_, created, killed⟩ := closing counted owns unfinished.fresh.no_input unfinished.fresh.no_output oracle
  intro once
  have same := once.killed
  rw [created, killed, owns.created, unfinished.counted, indices_natCast] at same
  have lengths := congrArg List.length same
  simp only [List.length_map, List.length_range] at lengths
  omega

private theorem Built.ready_iff {inlink : AVFilterLink} (counted : inlink.channels = channels) (present : 0 < channels)
    (built : Built (min 2 channels) channels world) : FullyReady inlink world ↔
      Lawful Provides world.trace ∧ Sizable world.state.awtSize inlink.channels := by
  have all : inlink.channels.toNat = channels := by rw [counted, Int.toNat_natCast]
  constructor
  · intro ready
    have allocated := ready.allocated
    rw [all] at allocated
    rw [counted]
    exact built.granted.mpr allocated
  · intro provided
    rw [counted] at provided
    refine ⟨?_, fun i within => built.owns.live (by omega), built.awtSize, built.pktSize, ?_, fun fuel frames oracle => ?_⟩
    · rw [built.counted]
      omega
    · rw [all]
      exact built.granted.mp provided
    · exact built.present.frames_found present counted fuel frames oracle

end config

private theorem sizable_zero (channels : Int) : Sizable 0 channels := by
  unfold Sizable
  rw [Int.zero_mul, Int.zero_mul, awtBufferSize_ok (by decide) (by decide)]
  decide

/-- The SDK reports error 1 for the license. -/
def refusedLicense : LicenseExchange := { goodLicense with info := ⟨1, 0, 0⟩ }

end Lavfi
end Awt
