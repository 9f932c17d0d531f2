import Awt.Proofs.FifoOutline

/-! `awt_config_props` leaves a filter with empty FIFOs. -/

namespace Awt.Lavfi
open OracleProgram

/-- The private data of a filter is zeroed when it is allocated. -/
structure Fresh (awt : AWTContext) : Prop where
  input : awt.input = none
  output : awt.output = none
  inBuffer : awt.inBuffer = none
  outBuffer : awt.outBuffer = none

/-- A new decoder tells a block size of at least one sample. -/
def Sizes (law : Law) : Prop :=
  ∀ past before i settings result, law past ⟨before, .awt5DecodeStreamInit i settings, result⟩ →
    ∃ size, result.bufferSize = some size ∧ 0 < size

/-- Calls that have nothing to do with a frame. -/
def Call.ofConfig : Call → Bool
  | .awt5DecodeStreamBuffer _ _ _ | .ffGetAudioBuffer _ | .ffFilterFrame _ | .mark _ => false
  | .avLog _ (.foundWatermark _ _ _) => false
  | _ => true

/-- Samples per packet: between 1 and 2048. -/
theorem pktSize_range {awtSize : Int} (sized : 0 < awtSize) : 1 ≤ pktSize awtSize ∧ pktSize awtSize ≤ 2048 := by
  have whole : 1 ≤ max (Int.tdiv 2048 awtSize) 1 * awtSize := by
    calc (1 : Int) ≤ 1 * awtSize := by omega
      _ ≤ max (Int.tdiv 2048 awtSize) 1 * awtSize := Int.mul_le_mul_of_nonneg_right (le_max_right ..) (by omega)
  unfold pktSize
  omega

/-- A block of every channel fits into `in`, and into `out`, whose size is computed from the
bytes of `in`. -/
def Sizable (awtSize channels : Int) : Prop :=
  awtSize * channels * 4 < 2 ^ 31 ∧ awtSize * channels * 4 ≤ awtBufferSize (awtSize * channels * 4)

instance (awtSize channels : Int) : Decidable (Sizable awtSize channels) := inferInstanceAs (Decidable (_ ∧ _))

/-- What `awt_buffer_create` makes of the two sizes, one after the other. -/
theorem sizable_iff {awtSize channels : Int} (positive : 0 < awtSize * channels) :
    Sizable awtSize channels ↔ awtSize * channels * 4 ≤ max 0 (awtBufferSize (awtSize * channels)) ∧
      awtSize * channels * 4 ≤ max 0 (awtBufferSize (max 0 (awtBufferSize (awtSize * channels)))) := by
  unfold Sizable
  generalize awtSize * channels = samples at positive ⊢
  by_cases fits : samples * 4 < 2 ^ 31
  · have whole : awtBufferSize samples = samples * 4 := awtBufferSize_ok (by omega) (by omega)
    rw [whole, max_eq_right (show 0 ≤ samples * 4 by omega)]
    generalize awtBufferSize (samples * 4) = bytes
    omega
  · have range := awtBufferSize_range samples
    generalize awtBufferSize samples = bytes at range ⊢
    exact ⟨fun sizable => absurd sizable.1 fits, fun room => by omega⟩

/-- A filter that was just configured for a link. -/
structure Rig.Configured (rig : Rig) (inlink : AVFilterLink) (awt : AWTContext) : Prop where
  channels : inlink.channels = rig.channels
  packet : rig.pktSize = Lavfi.pktSize rig.awtSize
  ready : rig.Ready ⟨fun _ => [], fun _ => []⟩ awt

section config

variable {law : Law} {assertion : History → Prop} {halt : Stop → LavfiWorld → Prop} {world : LavfiWorld}

/-- The assertion survives every call that has nothing to do with a frame. -/
def Unconcerned (assertion : History → Prop) : Prop :=
  ∀ past awt call answer, Call.ofConfig call → assertion past → assertion (past ++ [⟨awt, call, answer⟩])

/-- The buffers are still to be created. -/
private def Before (assertion : History → Prop) (world : LavfiWorld) : Prop := assertion world.trace ∧ Fresh world.state

private theorem before_calls (unconcerned : Unconcerned assertion) :
    Ignores law (fun call => Call.ofConfig call) (Before assertion) :=
  fun _ member world holds _ _ => ⟨unconcerned world.trace world.state _ _ member holds.1, holds.2⟩

/-- Where the filter stops while it is configured. -/
def Halted (assertion : History → Prop) (_ : Stop) (world : LavfiWorld) : Prop := assertion world.trace

/-- The calls of `awt_license`. -/
def Call.ofLicense : Call → Bool
  | .avLog _ (.foundWatermark _ _ _) => false
  | .awt5LicenseRequest _ | .awt5LicenseInfo _ _ | .avLog _ _ | .malloc _ _ | .freeRequest | .avioOpen _ | .avioRead
  | .avioClose => true
  | _ => false

/-- What the license stored in the context cannot make false. -/
def Unlicensed (K : LavfiWorld → Prop) : Prop :=
  ∀ world license, K world → K (world.update fun awt => { awt with license })

private theorem readTurn_keeps {K : LavfiWorld → Prop} (calls : Ignores law (fun call => Call.ofLicense call) K)
    (allocated : Bool) (stored : List UInt8) (holds : K world) :
    Meets law (readTurn allocated stored) (fun _ => K) (fun _ => K) world := by
  apply Meets.call_seq (calls _ rfl world holds)
  intro result world holds
  cases result with
  | ended code => exact Meets.ret holds
  | bytes chunk nonempty fits =>
    dsimp only
    split
    · exact Meets.stop holds
    split
    · exact Meets.stop holds
    · exact Meets.ret holds

theorem awtLicense_keeps {K : LavfiWorld → Prop} (calls : Ignores law (fun call => Call.ofLicense call) K)
    (unlicensed : Unlicensed K) (fuel : Nat) (decode : Int) (holds : K world) :
    Meets law (awtLicense fuel decode) (fun _ => K) (fun _ => K) world := by
  apply Meets.call_seq (calls _ rfl world holds)
  intro licenseRequest world holds
  cases licenseRequest with
  | none => exact Meets.call_seq (calls _ rfl world holds) fun _ _ holds => Meets.ret holds
  | some licenseRequest =>
  dsimp only
  split
  · exact Meets.stop holds
  apply Meets.call_seq (calls _ rfl world holds)
  intro _ world holds
  apply Meets.call_seq (calls _ rfl world holds)
  intro opened world holds
  split
  · exact Meets.call_seq (calls _ rfl world holds) fun _ _ holds => Meets.ret holds
  apply Meets.call_seq (calls _ rfl world holds)
  intro allocated world holds
  apply Meets.modify_bind
  have reads : Meets law (Program.loop .timeout (readTurn allocated) fuel []) (fun _ => K) (fun _ => K)
      (world.update fun awt => { awt with license := if allocated then some [] else none }) :=
    Meets.loop_keeps (fun stored _ => readTurn_keeps calls allocated stored) (fun _ holds => holds) fuel []
      (unlicensed world _ holds)
  apply Meets.seq reads
  intro ⟨license, _⟩ world holds
  apply Meets.call_seq (calls _ rfl world holds)
  intro _ world holds
  split
  · exact Meets.call_seq (calls _ rfl world holds) fun _ _ holds => Meets.ret holds
  split
  · exact Meets.stop holds
  apply Meets.modify_bind
  apply Meets.call_seq (calls _ rfl _ (unlicensed world _ holds))
  intro info world holds
  split
  · exact Meets.call_seq (calls _ rfl world holds) fun _ _ holds => Meets.ret holds
  · exact Meets.call_seq (calls _ rfl world holds) fun _ _ holds => Meets.ret holds

private theorem awtLicense_before (unconcerned : Unconcerned assertion) (fuel : Nat) (decode : Int)
    (holds : Before assertion world) :
    Meets law (awtLicense fuel decode) (fun _ => Before assertion) (Halted assertion) world := by
  have calls : Ignores law (fun call => Call.ofLicense call) (Before assertion) := by
    apply (before_calls unconcerned).narrow
    intro call member
    cases call with
    | avLog level msg => cases msg <;> first | rfl | cases member
    | _ => first | rfl | cases member
  have unlicensed : Unlicensed (Before assertion) := fun _ _ holds => ⟨holds.1, { holds.2 with }⟩
  exact (awtLicense_keeps calls unlicensed fuel decode holds).weaken (fun _ _ holds => holds) fun _ _ holds => holds.1

private theorem configPreset_before (unconcerned : Unconcerned assertion) (holds : Before assertion world) :
    Meets law configPreset (fun early final => (∀ ret, early = some ret → ret ≠ 0) ∧ Before assertion final)
      (Halted assertion) world := by
  have calls : Ignores law (fun call => Call.ofConfig call) (Before assertion) := before_calls unconcerned
  apply Meets.get_bind
  split
  · exact Meets.ret ⟨nofun, holds⟩
  apply Meets.modify_bind
  have chosen : Before assertion (world.update AWTContext.choosePreset) := by
    refine ⟨holds.1, ?_⟩
    rw [World.update_state, AWTContext.choosePreset]
    split
    · exact { holds.2 with }
    · exact holds.2
  apply Meets.get_bind
  split
  · apply Meets.call_seq (calls _ rfl _ chosen)
    refine fun _ _ holds => Meets.ret ⟨?_, holds⟩
    rintro _ ⟨rfl⟩
    decide
  apply Meets.call_seq (calls _ rfl _ chosen)
  intro _ world holds
  apply Meets.modify_bind
  refine Meets.ret ⟨nofun, holds.1, ?_⟩
  rw [World.update_state, AWTContext.useBands]
  split
  · exact { holds.2 with }
  · exact holds.2

/-- Decoders are being created, and the first one has told a block size. -/
private structure Starting (decoders : Nat) (items : List Nat) (awt : AWTContext) : Prop extends Fresh awt where
  counted : awt.nbDecoder = decoders
  sized : items.length < decoders → 0 < awt.awtSize

private def Creating (assertion : History → Prop) (decoders : Nat) (items : List Nat) (world : LavfiWorld) : Prop :=
  assertion world.trace ∧ Starting decoders items world.state

variable {decoders i : Nat} {items : List Nat}

private theorem creating_calls (unconcerned : Unconcerned assertion) :
    Ignores law (fun call => Call.ofConfig call) (Creating assertion decoders items) :=
  fun _ member world holds _ _ => ⟨unconcerned world.trace world.state _ _ member holds.1, holds.2⟩

private theorem initDecoder_creating (sizes : Sizes law) (unconcerned : Unconcerned assertion) (sampleRate : Int)
    (holds : Creating assertion decoders (i :: items) world) :
    Meets law (initDecoder sampleRate i) (fun result final => result.elim
      (Creating assertion decoders items final ∧ 0 < final.state.awtSize) fun ret => ret ≠ 0 ∧ assertion final.trace)
      (Halted assertion) world := by
  apply Meets.get_bind
  apply Meets.bind (Meets.count _)
  apply Meets.call_bind
  intro result lawful
  obtain ⟨size, told, positive⟩ := sizes _ _ _ _ _ lawful
  have called := creating_calls unconcerned (.awt5DecodeStreamInit i (world.state.decodeSettings sampleRate)) rfl world
    holds result lawful
  apply Meets.modify_bind
  simp only [told, Option.getD_some]
  have sized : Creating assertion decoders items
      ((world.record (.awt5DecodeStreamInit i (world.state.decodeSettings sampleRate)) result).update
        fun awt => { awt with awtSize := size }) :=
    ⟨called.1, { called.2.toFresh with counted := called.2.counted, sized := fun _ => positive }⟩
  split
  next failed =>
    have calls : Ignores law (fun call => Call.ofConfig call) (Creating assertion decoders items) := creating_calls unconcerned
    apply Meets.call_seq (calls _ rfl _ sized)
    intro _ world holds
    apply Meets.call_seq (calls _ rfl _ holds)
    exact fun _ world holds => Meets.ret ⟨by decide, holds.1⟩
  next succeeded =>
    apply Meets.modify_bind
    exact Meets.ret ⟨⟨called.1, { called.2.toFresh with counted := called.2.counted, sized := fun _ => positive }⟩, positive⟩

private theorem initDecoders_creating (sizes : Sizes law) (unconcerned : Unconcerned assertion) (sampleRate : Int)
    (holds : assertion world.trace) (fresh : Fresh world.state)
    (counted : world.state.nbDecoder = decoders) :
    Meets law (Program.each (initDecoder sampleRate) (indices decoders)) (fun result final => result.elim
      (Creating assertion decoders [] final) fun ret => ret ≠ 0 ∧ assertion final.trace) (Halted assertion) world := by
  rw [indices_natCast]
  apply Meets.each_range fun items => Creating assertion decoders items
  · intro i items world within _ holds
    apply (initDecoder_creating sizes unconcerned sampleRate holds).imp
    intro result final reached
    cases result with
    | none => exact reached.1
    | some ret => exact reached
  · exact fun _ holds => holds
  · exact ⟨holds, { fresh with counted, sized := fun less => absurd less (by simp) }⟩

/-- The context is known as a whole. -/
private def Settled (assertion : History → Prop) (awt : AWTContext) (world : LavfiWorld) : Prop :=
  assertion world.trace ∧ world.state = awt

private theorem Settled.update {awt : AWTContext} (settled : Settled assertion awt world) (change : AWTContext → AWTContext) :
    Settled assertion (change awt) (world.update change) :=
  ⟨settled.1, congrArg change settled.2⟩

private theorem settled_allocates {awt : AWTContext} (unconcerned : Unconcerned assertion) :
    Ignores law (fun call => call.allocates) (Settled assertion awt) := by
  intro call allocates world holds answer _
  have member : Call.ofConfig call := by cases call <;> first | rfl | cases allocates
  exact ⟨unconcerned world.trace world.state call answer member holds.1, holds.2⟩

/-- A new buffer. -/
private structure Empty (buffer : AWTBuffer) : Prop where
  sound : buffer.Sound
  held : buffer.held = []

variable {K : LavfiWorld → Prop} {place : Place}

private theorem awtBufferCreateArr_meets (grants : Grants law) (ignores : Ignores law (fun call => call.allocates) K)
    (element : Nat → Place) (channels count : Nat) (holds : K world) :
    Meets law (awtBufferCreateArr place element channels count none) (fun array final =>
      (∃ buffers, array = some buffers ∧ buffers.length = channels ∧ ∀ buffer ∈ buffers, Empty buffer) ∧ K final)
      halt world := by
  apply Meets.call_bind
  intro allocated lawful
  cases allocated with
  | false => exact (grants.mallocz _ _ _ lawful).elim
  | true =>
  rw [indices_natCast]
  have made : Meets law (Program.collect (fun i => awtBufferCreate (element i) count none) (List.range channels))
      (fun buffers final => (buffers.length + 0 = channels ∧ ∀ buffer ∈ buffers, Empty buffer) ∧ K final) halt
      (world.record (.avMallocz place) true) := by
    apply Meets.collect (fun items buffers final => (buffers.length + items.length = channels ∧
      ∀ buffer ∈ buffers, Empty buffer) ∧ K final)
    · intro i items buffers world ⟨⟨counted, empty⟩, holds⟩
      apply (awtBufferCreate_meets grants ignores count holds).imp
      intro buffer final ⟨⟨sound, held, _⟩, holds⟩
      refine ⟨⟨by simpa [Nat.add_assoc, Nat.add_comm 1] using counted, ?_⟩, holds⟩
      intro other member
      rcases List.mem_append.mp member with old | fresh
      · exact empty other old
      · rw [List.mem_singleton.mp fresh]
        exact ⟨sound, held⟩
    · exact ⟨⟨by simp, fun _ member => absurd member (by simp)⟩, ignores _ rfl world holds _ lawful⟩
  apply Meets.seq made
  intro buffers final ⟨⟨counted, empty⟩, holds⟩
  exact Meets.ret ⟨⟨buffers, rfl, counted, empty⟩, holds⟩

private theorem createBuffers_meets (grants : Grants law) (unconcerned : Unconcerned assertion) {channels awtSize pktSize : Nat}
    (present : 0 < channels) (positive : 0 < awtSize) (packed : 0 < pktSize) (holds : assertion world.trace)
    (fresh : Fresh world.state) (sized : world.state.awtSize = awtSize) (cut : world.state.pktSize = pktSize)
    (counted : world.state.nbDecoder = min 2 channels) :
    Meets law (createBuffers channels) (fun _ final => assertion final.trace ∧ final.state.awtSize = awtSize ∧
      (Sizable awtSize channels → ∃ rig : Rig, rig.channels = channels ∧ rig.awtSize = awtSize ∧ rig.pktSize = pktSize ∧
        rig.Ready ⟨fun _ => [], fun _ => []⟩ final.state)) (Halted assertion) world := by
  obtain ⟨awt, trace⟩ := world
  apply Meets.get_bind
  rw [fresh.input, cut]
  have start : Settled assertion awt ⟨awt, trace⟩ := ⟨holds, rfl⟩
  apply Meets.seq (awtBufferCreateArr_meets grants (settled_allocates unconcerned) _ channels pktSize start)
  rintro _ world ⟨⟨inputs, rfl, inputCount, inputEmpty⟩, holds⟩
  apply Meets.modify_bind
  replace holds := holds.update fun awt => { awt with input := some inputs }
  rw [fresh.output]
  apply Meets.seq (awtBufferCreateArr_meets grants (settled_allocates unconcerned) _ channels pktSize holds)
  rintro _ world ⟨⟨outputs, rfl, outputCount, outputEmpty⟩, holds⟩
  apply Meets.modify_bind
  replace holds := holds.update fun awt => { awt with output := some outputs }
  rw [fresh.inBuffer, sized]
  refine int_seq (fun _ => ?_) fun _ => holds.1
  apply Meets.seq (awtBufferCreate_meets grants (settled_allocates unconcerned) (awtSize * channels) holds)
  intro inBuffer world ⟨⟨inSound, _, inMax⟩, holds⟩
  apply Meets.modify_bind
  replace holds := holds.update fun awt => { awt with inBuffer := some inBuffer }
  rw [fresh.outBuffer]
  apply Meets.seq (awtBufferCreate_meets grants (settled_allocates unconcerned) inBuffer.max holds)
  intro outBuffer world ⟨⟨outSound, _, outMax⟩, holds⟩
  have created := holds.update fun awt => { awt with outBuffer := some outBuffer }
  refine Meets.modify ⟨created.1, by rw [created.2]; exact sized, fun sizable => ?_⟩
  have gathers : (awtSize : Int) * channels = ((channels * awtSize : Nat) : Int) := by rw [Nat.mul_comm, Int.natCast_mul]
  have some : 0 < channels * awtSize := Nat.mul_pos present positive
  have int : channels * awtSize * 4 < 2 ^ 31 := by
    have bytes := sizable.1
    omega
  rw [sizable_iff (by omega), ← inMax, ← outMax, gathers, inSound.max, outSound.max] at sizable
  have inRoom : channels * awtSize ≤ inBuffer.data.length := by omega
  have room : channels * awtSize ≤ outBuffer.data.length := by omega
  refine ⟨⟨channels, awtSize, pktSize, fun i => (outBuffer.data.drop (i * awtSize)).take awtSize, present, positive, packed,
    int, fun i within => ?_⟩, rfl, rfl, rfl, ?_, ⟨fun _ _ => rfl, fun _ _ => rfl⟩⟩
  · have block : (i + 1) * awtSize ≤ channels * awtSize := Nat.mul_le_mul_right awtSize within
    rw [Nat.succ_mul] at block
    rw [List.length_take, List.length_drop]
    omega
  rw [created.2]
  refine ⟨sized, cut, counted, fun i within => ?_, fun i within => ?_, ⟨inBuffer, rfl, inSound, inRoom⟩,
    outBuffer, rfl, room, fun _ _ => rfl⟩
  · have inside : i < inputs.length := by rwa [inputCount]
    have empty := inputEmpty inputs[i] (List.getElem_mem inside)
    exact ⟨inputs[i], List.getElem?_eq_getElem inside, empty.sound, empty.held⟩
  · have inside : i < outputs.length := by rwa [outputCount]
    have empty := outputEmpty outputs[i] (List.getElem_mem inside)
    exact ⟨outputs[i], List.getElem?_eq_getElem inside, empty.sound, empty.held⟩

/-- A configuration that succeeds leaves empty FIFOs between the two links. -/
theorem awtConfigProps_meets (grants : Grants law) (sizes : Sizes law) (unconcerned : Unconcerned assertion) (fuel : Nat)
    {inlink : AVFilterLink} (present : 1 ≤ inlink.channels) (holds : assertion world.trace) (fresh : Fresh world.state) :
    Meets law (awtConfigProps fuel inlink) (fun ret final => assertion final.trace ∧
      (ret = 0 → Sizable final.state.awtSize inlink.channels → ∃ rig : Rig, rig.Configured inlink final.state)) (Halted assertion) world := by
  obtain ⟨channels, counted⟩ := Int.eq_ofNat_of_zero_le (show 0 ≤ inlink.channels by omega)
  have before : Before assertion world := ⟨holds, fresh⟩
  unfold awtConfigProps
  rw [counted]
  apply Meets.seq (configPreset_before unconcerned before)
  intro early world ⟨nonzero, before⟩
  cases early with
  | some ret => exact Meets.ret ⟨before.1, fun good _ => absurd good (nonzero ret rfl)⟩
  | none =>
  apply Meets.get_bind
  apply Meets.call_seq (before_calls unconcerned _ rfl world before)
  intro _ world before
  apply Meets.seq (awtLicense_before unconcerned fuel 1 before)
  intro ret world before
  split
  next refused => exact Meets.ret ⟨before.1, fun good _ => absurd good refused⟩
  apply Meets.modify_bind
  rw [show min 2 (channels : Int) = ((min 2 channels : Nat) : Int) by omega]
  replace before : Before assertion (world.update fun awt => { awt with nbDecoder := ((min 2 channels : Nat) : Int) }) :=
    ⟨before.1, { before.2 with }⟩
  apply Meets.get_bind
  apply Meets.seq (initDecoders_creating sizes unconcerned inlink.sampleRate before.1 before.2 rfl)
  intro result world created
  cases result with
  | some ret => exact Meets.ret ⟨created.2, fun good _ => absurd good created.1⟩
  | none =>
  have less : ([] : List Nat).length < min 2 channels := by
    rw [List.length_nil]
    omega
  have known := created.2.sized less
  apply Meets.get_bind
  apply Meets.call_seq (creating_calls unconcerned _ rfl world created)
  intro _ world created
  have positive := created.2.sized less
  have range := pktSize_range positive
  obtain ⟨awtSize, sized⟩ := Int.eq_ofNat_of_zero_le (show 0 ≤ world.state.awtSize by omega)
  obtain ⟨packet, cut⟩ := Int.eq_ofNat_of_zero_le (show 0 ≤ pktSize world.state.awtSize by omega)
  split
  next zero => omega
  apply Meets.modify_bind
  replace created : Creating assertion (min 2 channels) []
      (world.update fun awt => { awt with pktSize := Lavfi.pktSize awt.awtSize }) := ⟨created.1, { created.2 with }⟩
  apply Meets.seq
    (createBuffers_meets grants unconcerned (by omega) (by omega) (by omega) created.1 created.2.toFresh sized cut created.2.counted)
  intro _ final ⟨holds, same, made⟩
  refine Meets.ret ⟨holds, fun _ sizable => ?_⟩
  rw [same] at sizable
  obtain ⟨rig, rfl, rfl, rfl, ready⟩ := made sizable
  exact ⟨rig, counted, by rw [← cut, sized], ready⟩

end config
end Awt.Lavfi
