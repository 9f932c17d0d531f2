import Awt.Lavfi.Script
import Awt.Proofs.BlockRounds
import Awt.Proofs.BlockStreams
import Awt.Proofs.ShortOutput
import Awt.Script

/-! The filter hands the same blocks to the same decoders as the library does, in the
same order, and reports the same. -/

namespace Awt.Lavfi
open OracleProgram Blocks

/-- What the decoders were handed. -/
def fed (past : History) : Feeds := past.filterMap fun event => match event with
  | ⟨_, .awt5DecodeStreamBuffer i _ input, _⟩ => some (i, input)
  | _ => none

/-- What was logged as found. -/
def reported (past : History) : List Report := past.filterMap fun event => match event with
  | ⟨_, .avLog .error (.foundWatermark i found percent), _⟩ => some (i, found, percent)
  | _ => none

/-- Memory is given, decoders return 0, and the SDK finds what it is known to. -/
def answered (sdk : Sdk) (past : History) : Event → Bool
  | ⟨_, .realloc _ _, answer⟩ => answer.isSome
  | ⟨_, .avMallocz _, allocated⟩ => allocated
  | ⟨_, .awt5DecodeStreamInit _ _, result⟩ => result.bufferSize.any (0 < ·)
  | ⟨_, .awt5DecodeStreamBuffer i _ input, result⟩ =>
    result.ret = 0 ∧ (result.found, result.percent) = sdk (fed past ++ [(i, input)])
  | _ => true

abbrev Answered (sdk : Sdk) : Law := fun past event => answered sdk past event

theorem answered_stocks (sdk : Sdk) : Stocks (Answered sdk) := by
  intro past event lawful
  obtain ⟨awt, call, answer⟩ := event
  cases call <;> first | exact lawful | rfl

section feeds

variable {rig : Rig} {sdk : Sdk} {all rest : List AVFrame} {frame : AVFrame} {fifos : Fifos} {start count i : Nat}
  {past : History} {awt : AWTContext}

theorem fed_concat (past : History) (event : Event) : fed (past ++ [event]) = fed past ++ fed [event] :=
  List.filterMap_append

theorem reported_concat (past : History) (event : Event) : reported (past ++ [event]) = reported past ++ reported [event] :=
  List.filterMap_append

/-- The input FIFOs and what is still to come are the streams without the rounds that were
dropped; `count` rounds end at `start`. -/
structure Rig.Streamed (rig : Rig) (all rest : List AVFrame) (start count : Nat) (fifos : Fifos) : Prop where
  input : ∃ dropped, dropped + start = count * rig.awtSize ∧
    ∀ i < rig.channels, fifos.input i ++ stream rest i = (stream all i).drop dropped
  inside : count * rig.awtSize ≤ received all
  output : (fifos.output 0).length ≤ count * rig.awtSize

namespace Rig.Streamed

theorem receive (streamed : rig.Streamed all (frame :: rest) start count fifos) :
    rig.Streamed all rest start count (fifos.receive frame) := by
  obtain ⟨dropped, rounds, input⟩ := streamed.input
  refine ⟨⟨dropped, rounds, fun i within => ?_⟩, streamed.inside, streamed.output⟩
  rw [← input i within, stream_cons, ← List.append_assoc]
  rfl

/-- Every sample was dropped, is held, or is still to come. -/
theorem samples (streamed : rig.Streamed all rest start count fifos) (fits : ∀ frame ∈ all, frame.Fits rig.channels) :
    (fifos.input 0).length + (stream rest 0).length + count * rig.awtSize = received all + start := by
  obtain ⟨dropped, rounds, input⟩ := streamed.input
  have same := congrArg List.length (input 0 rig.present)
  have inside := streamed.inside
  rw [List.length_append, List.length_drop, length_stream fits rig.present] at same
  omega

theorem held (streamed : rig.Streamed all rest start count fifos) (fits : ∀ frame ∈ all, frame.Fits rig.channels) :
    (fifos.input 0).length ≤ received all := by
  obtain ⟨dropped, rounds, _⟩ := streamed.input
  have samples := streamed.samples fits
  omega

/-- The block at `start` is the next one of its stream. -/
theorem block (streamed : rig.Streamed all rest start count fifos) (within : i < rig.channels)
    (inside : start + rig.awtSize ≤ (fifos.input i).length) :
    fifos.input.block start rig.awtSize i = ((stream all i).drop (count * rig.awtSize)).take rig.awtSize := by
  obtain ⟨dropped, rounds, input⟩ := streamed.input
  rw [Planes.block, ← rounds, ← List.drop_drop, ← input i within, List.drop_append_of_le_length (by omega),
    List.take_append_of_le_length (by rw [List.length_drop]; omega)]

theorem pass (streamed : rig.Streamed all rest start count fifos) (fits : ∀ frame ∈ all, frame.Fits rig.channels)
    (inside : start + rig.awtSize ≤ (fifos.input 0).length) :
    rig.Streamed all rest (start + rig.awtSize) (count + 1) (fifos.pass rig) := by
  have samples := streamed.samples fits
  have output := streamed.output
  obtain ⟨dropped, rounds, input⟩ := streamed.input
  refine ⟨⟨dropped, ?_, input⟩, ?_, ?_⟩
  · rw [Nat.succ_mul]
    omega
  · rw [Nat.succ_mul]
    omega
  · simp only [Fifos.pass]
    rw [List.length_append, rig.filled 0 rig.present, Nat.succ_mul]
    omega

theorem dropInput (streamed : rig.Streamed all rest start count fifos) (level : fifos.Level rig.channels)
    (within : start ≤ (fifos.input 0).length) : rig.Streamed all rest 0 count (fifos.dropInput start) := by
  obtain ⟨dropped, rounds, input⟩ := streamed.input
  refine ⟨⟨dropped + start, rounds, fun i inside => ?_⟩, streamed.inside, streamed.output⟩
  have same := level.input i inside
  simp only [Fifos.dropInput]
  rw [← List.drop_drop, ← input i inside, List.drop_append_of_le_length (by omega)]

theorem dropOutput (streamed : rig.Streamed all rest start count fifos) (dropped : Nat) :
    rig.Streamed all rest start count (fifos.dropOutput dropped) := by
  refine ⟨streamed.input, streamed.inside, ?_⟩
  have output := streamed.output
  simp only [Fifos.dropOutput]
  rw [List.length_drop]
  omega

/-- With less than a block left, all full blocks were handed out. -/
theorem complete (streamed : rig.Streamed all [] 0 count fifos) (fits : ∀ frame ∈ all, frame.Fits rig.channels)
    (short : (fifos.input 0).length < rig.awtSize) : count = received all / rig.awtSize := by
  have samples : (fifos.input 0).length + 0 + count * rig.awtSize = received all + 0 := streamed.samples fits
  symm
  apply Nat.div_eq_of_lt_le streamed.inside
  rw [Nat.succ_mul]
  omega

end Rig.Streamed

/-- Between two blocks. -/
structure Rig.Cut (rig : Rig) (sdk : Sdk) (all rest : List AVFrame) (start : Nat) (fifos : Fifos) (past : History) : Prop where
  cut : ∃ count, rig.Streamed all rest start count fifos ∧
    sdk.Served (stream all) rig.awtSize rig.decoders count (fed past) (reported past)

/-- In the decode loop; the decoders in `items` were not handed their block yet. -/
structure Rig.Decoding (rig : Rig) (sdk : Sdk) (all rest : List AVFrame) (start : Nat) (items : List Nat) (fifos : Fifos)
    (past : History) : Prop where
  decoding : ∃ count, rig.Streamed all rest start count fifos ∧
    sdk.Serving (stream all) rig.awtSize rig.decoders count items (fed past) (reported past)

/-- Behind the last full block. -/
structure Rig.AtRest (rig : Rig) (sdk : Sdk) (all rest : List AVFrame) (fifos : Fifos) (past : History) : Prop
    extends rig.Cut sdk all rest 0 fifos past where
  short : (fifos.input 0).length < rig.awtSize

/-- Nothing new is handed out or reported. -/
def Event.unheard (event : Event) : Prop := fed [event] = [] ∧ reported [event] = []

theorem Event.unheard.same {event : Event} (unheard : event.unheard) (past : History) :
    fed (past ++ [event]) = fed past ∧ reported (past ++ [event]) = reported past := by
  rw [fed_concat, reported_concat, unheard.1, unheard.2, List.append_nil, List.append_nil]
  exact ⟨rfl, rfl⟩

theorem unheard_of_quiet {call : Call} (quiet : Call.quiet call) (awt : AWTContext) (answer : Answer call) :
    Event.unheard ⟨awt, call, answer⟩ := by
  cases call with
  | avLog level msg => cases level <;> cases msg <;> first | exact ⟨rfl, rfl⟩ | cases quiet
  | _ => first | exact ⟨rfl, rfl⟩ | cases quiet

theorem Rig.Cut.record (cut : rig.Cut sdk all rest start fifos past) {event : Event} (unheard : event.unheard) :
    rig.Cut sdk all rest start fifos (past ++ [event]) := by
  obtain ⟨count, streamed, served⟩ := cut
  obtain ⟨unfed, unreported⟩ := unheard.same past
  refine ⟨count, streamed, ?_⟩
  rwa [unfed, unreported]

theorem Rig.Decoding.record {items : List Nat} (decoding : rig.Decoding sdk all rest start items fifos past) {event : Event}
    (unheard : event.unheard) : rig.Decoding sdk all rest start items fifos (past ++ [event]) := by
  obtain ⟨count, streamed, serving⟩ := decoding
  obtain ⟨unfed, unreported⟩ := unheard.same past
  refine ⟨count, streamed, ?_⟩
  rwa [unfed, unreported]

theorem Rig.AtRest.record (atRest : rig.AtRest sdk all rest fifos past) {event : Event} (unheard : event.unheard) :
    rig.AtRest sdk all rest fifos (past ++ [event]) :=
  ⟨atRest.toCut.record unheard, atRest.short⟩

theorem Rig.Cut.begin (cut : rig.Cut sdk all rest start fifos past) :
    rig.Decoding sdk all rest start (List.range rig.decoders) fifos past := by
  obtain ⟨count, streamed, served⟩ := cut
  exact ⟨count, streamed, served.start⟩

theorem Rig.Decoding.pass (decoding : rig.Decoding sdk all rest start [] fifos past)
    (fits : ∀ frame ∈ all, frame.Fits rig.channels) (inside : start + rig.awtSize ≤ (fifos.input 0).length) :
    rig.Cut sdk all rest (start + rig.awtSize) (fifos.pass rig) past := by
  obtain ⟨count, streamed, serving⟩ := decoding
  exact ⟨count + 1, streamed.pass fits inside, serving.finish⟩

/-- What a decoder finds is logged before the next one is handed its block. -/
theorem Rig.Decoding.next {items : List Nat} (decoding : rig.Decoding sdk all rest start (i :: items) fifos past)
    (ready : rig.Ready fifos awt) (inside : start + rig.awtSize ≤ (fifos.input 0).length) {result : BufferResult}
    (found : (result.found, result.percent) = sdk (fed past ++ [(i, fifos.input.block start rig.awtSize i)])) :
    let decoded := past ++ [⟨awt, .awt5DecodeStreamBuffer i (awt.decoder i) (fifos.input.block start rig.awtSize i), result⟩]
    if result.found = [] then rig.Decoding sdk all rest start items fifos decoded
    else rig.Decoding sdk all rest start items fifos
      (decoded ++ [⟨awt, .avLog .error (.foundWatermark i result.found result.percent), ()⟩]) := by
  obtain ⟨count, streamed, serving⟩ := decoding
  have within : i < rig.channels := lt_of_lt_of_le serving.fed.within (Nat.min_le_right ..)
  have block := streamed.block within (by rw [ready.level.input i within]; exact inside)
  rw [block] at found ⊢
  have next := serving.next
  split
  next silent =>
    refine ⟨count, streamed, ?_⟩
    rw [Sdk.report, turn, ← found, if_pos silent] at next
    rw [fed_concat, reported_concat]
    exact next
  next heard =>
    refine ⟨count, streamed, ?_⟩
    rw [Sdk.report, turn, ← found, if_neg heard] at next
    rw [fed_concat, reported_concat, fed_concat, reported_concat, show fed [⟨awt, .avLog _ _, ()⟩] = [] from rfl,
      List.append_nil, List.append_assoc]
    exact next

private def feedOutline (rig : Rig) (sdk : Sdk) {fuel : Nat} {all : List AVFrame} (fits : ∀ frame ∈ all, frame.Fits rig.channels)
    (enough : received all < fuel) (inFrame : AVFrame) (rest : List AVFrame) :
    FrameOutline (Answered sdk) rig fuel inFrame (rig.AtRest sdk all (inFrame :: rest)) (fun _ => rig.AtRest sdk all rest)
      (fun _ => False) where
  head fifos start past := rig.Cut sdk all rest start fifos past
  decoding fifos start items past := rig.Decoding sdk all rest start items fifos past
  packets fifos _ past := rig.AtRest sdk all rest fifos past
  allocating fifos _ past := rig.AtRest sdk all rest fifos past
  giving fifos _ past := rig.AtRest sdk all rest fifos past
  head_quiet _ _ past awt call answer quiet cut := cut.record (unheard_of_quiet quiet awt answer)
  decoding_quiet _ _ _ past awt call answer quiet decoding := decoding.record (unheard_of_quiet quiet awt answer)
  leave_quiet _ _ past awt call answer quiet atRest := atRest.record (unheard_of_quiet quiet awt answer)
  arrive fifos awt past _ atRest := by
    obtain ⟨count, streamed, served⟩ := atRest.toCut
    exact Rig.Cut.record ⟨count, streamed.receive, served⟩ ⟨rfl, rfl⟩
  block fifos awt start past _ _ cut := cut.begin.record ⟨rfl, rfl⟩
  decode fifos awt start i items past result ready _ inside decoding answers := by
    obtain ⟨zero, found⟩ := of_decide_eq_true answers
    have next := decoding.next ready inside found
    simp only [zero, ne_eq, not_true, if_false]
    exact next
  pass fifos awt start past _ inside decoding := (decoding.pass fits inside).record ⟨rfl, rfl⟩
  early fifos past _ short cut := ⟨cut, short⟩
  drop fifos start past level within short _ cut := by
    obtain ⟨count, streamed, served⟩ := cut
    refine ⟨⟨count, streamed.dropInput level within, served⟩, ?_⟩
    simp only [Fifos.dropInput]
    rw [List.length_drop]
    omega
  packet fifos awt start past _ _ atRest := atRest.record ⟨rfl, rfl⟩
  allocate fifos awt start past answer _ _ atRest _ := by
    cases answer <;> exact atRest.record ⟨rfl, rfl⟩
  give fifos awt start past ret _ _ atRest _ := by
    have given : rig.AtRest sdk all rest fifos (past ++ [⟨awt, .ffFilterFrame (rig.packet inFrame fifos start), ret⟩]) :=
      atRest.record ⟨rfl, rfl⟩
    split <;> exact given
  emptied fifos start past _ _ _ atRest := by
    obtain ⟨count, streamed, served⟩ := atRest.toCut
    exact ⟨⟨count, streamed.dropOutput start, served⟩, atRest.short⟩
  head_expired fifos start past many cut := by
    obtain ⟨count, streamed, _⟩ := cut
    have held := streamed.held fits
    omega
  packets_expired fifos start past many atRest := by
    obtain ⟨count, streamed, _⟩ := atRest.toCut
    have inside := streamed.inside
    have output := streamed.output
    omega

end feeds

/-- The library's context is set up as the filter is configured: the same block size, and
decoders for at most two channels. -/
structure Detectors extends Filtering where
  library : Oracle Awt.Surroundings Awt.AWTContext
  context : Awt.AWTContext
  ready : context.ready toFiltering.configured.state.awtSize.toNat (min 2 inlink.channels.toNat)
  empty : context.nbBuffer = 0

/-- The library with the same frames. -/
def Detectors.filtered (detectors : Detectors) : Exit Awt.Stop (List Int) × AwtWorld :=
  (Awt.awtFilterFrames detectors.fuel (detectors.frames.map (·.toAVFrame))).run detectors.library ⟨detectors.context, []⟩

theorem Detectors.library_answers (detectors : Detectors) {law : Awt.Law}
    (answers : ∀ past before call, law past ⟨before, call, detectors.library past call⟩) :
    Lawful law detectors.filtered.2.trace :=
  (Awt.awtFilterFrames _ _).answered detectors.library law _ answers (Lawful.nil _)

/-- Both returned from every frame; they handed out the same and reported the same. -/
structure Detectors.Agree (detectors : Detectors) : Prop where
  library : ∃ rets, detectors.filtered.1 = .done rets
  filter : ∃ rets, detectors.outcome.1 = .done rets
  fed : fed detectors.final.trace = Awt.fed detectors.filtered.2.trace
  reported : reported detectors.final.trace = Awt.reported detectors.filtered.2.trace

section same

variable {all taken rest : List AVFrame} {frame : AVFrame} {channels n : Nat}

/-- A frame brings what its planes hold, and they are the streams behind the frames before it. -/
theorem frame_brings (same : taken ++ frame :: rest = all) (fits : ∀ frame ∈ all, frame.Fits channels) (some : n ≤ channels) :
    frame.toAVFrame.Brings (stream all) n (received taken) := by
  subst same
  have whole : frame.Fits channels := fits frame (by simp)
  have earlier (other : AVFrame) (member : other ∈ taken) : other.Fits channels := fits other (List.mem_append_left _ member)
  refine ⟨fun i within => ?_⟩
  have inside : i < frame.extendedData.length := lt_of_lt_of_le within (some.trans whole.planes)
  have plane : frame.plane i = frame.extendedData[i].take frame.nbSamples.toNat := by
    rw [AVFrame.plane, List.getElem_eq_getD]
  have length : (frame.plane i).length = frame.nbSamples.toNat := length_plane whole (lt_of_lt_of_le within some)
  refine ⟨_, List.getElem?_eq_getElem inside, whole.samples _ (List.getElem_mem inside), ?_⟩
  rw [stream_append, stream_cons, ← length_stream earlier (lt_of_lt_of_le within some), List.drop_left, ← plane, ← length,
    List.take_left]

theorem frames_consecutive (same : taken ++ rest = all) (fits : ∀ frame ∈ all, frame.Fits channels) (some : n ≤ channels) :
    Awt.Consecutive (stream all) n (received taken) (rest.map (·.toAVFrame)) := by
  induction rest generalizing taken with
  | nil => trivial
  | cons frame rest ih =>
    refine ⟨frame_brings same fits some, ?_⟩
    have next : Awt.Consecutive (stream all) n (received (taken ++ [frame])) (rest.map (·.toAVFrame)) :=
      ih (by rw [← same, List.append_assoc, List.singleton_append])
    rwa [received_concat] at next

theorem brought_frames (frames : List AVFrame) : Awt.brought (frames.map (·.toAVFrame)) = received frames := by
  rw [brought, received, List.map_map]
  rfl

theorem count_le_received {frames : List AVFrame} (member : frame ∈ frames) : frame.count ≤ received frames := by
  obtain ⟨before, behind, rfl⟩ := List.append_of_mem member
  rw [List.append_cons, received_append, received_concat]
  omega

theorem received_take (frames : List AVFrame) (count : Nat) : received (frames.take count) ≤ received frames := by
  calc received (frames.take count)
    _ ≤ received (frames.take count) + received (frames.drop count) := Nat.le_add_right ..
    _ = received frames := by rw [← received_append, List.take_append_drop]

end same

/-- The detectors after the first frames. -/
def Detectors.upTo (detectors : Detectors) (count : Nat) : Detectors where
  toFiltering :=
    { detectors.toFiltering with
      frames := detectors.frames.take count
      fits := fun frame member => detectors.fits frame (List.mem_of_mem_take member)
      enough := lt_of_le_of_lt (received_take _ _) detectors.enough }
  library := detectors.library
  context := detectors.context
  ready := detectors.ready
  empty := detectors.empty

variable {sdk : Sdk} (detectors : Detectors)

/-- Nothing was handed out or reported yet. -/
private def Silent (past : History) : Prop := fed past = [] ∧ reported past = []

private theorem silent_unconcerned : Unconcerned Silent := by
  intro past awt call answer ofConfig silent
  have unheard : Event.unheard ⟨awt, call, answer⟩ := by
    cases call with
    | avLog level msg => cases level <;> cases msg <;> first | exact ⟨rfl, rfl⟩ | cases ofConfig
    | _ => first | exact ⟨rfl, rfl⟩ | cases ofConfig
  obtain ⟨unfed, unreported⟩ := unheard.same past
  exact ⟨unfed.trans silent.1, unreported.trans silent.2⟩

theorem Filtering.served (filtering : Filtering) (bounded : filtering.Bounded) (answers : Lawful (Answered sdk) filtering.final.trace) :
    ∃ rig : Rig, rig.Configured filtering.inlink filtering.configured.state ∧ (∃ rets, filtering.outcome.1 = .done rets) ∧
      sdk.Served (stream filtering.frames) rig.awtSize rig.decoders (received filtering.frames / rig.awtSize)
        (fed filtering.final.trace) (reported filtering.final.trace) := by
  obtain ⟨rig, configured, silent⟩ := Filtering.configured_rig (answered_stocks sdk).grants (answered_stocks sdk).sizes silent_unconcerned
    ⟨rfl, rfl⟩ bounded answers
  have fits := filtering.fits
  rw [configured.channels, Int.toNat_natCast] at fits
  refine ⟨rig, configured, ?_⟩
  have reached := Filtering.run_holds (answered_stocks sdk).grants configured (rig.AtRest sdk filtering.frames)
    (feedOutline rig sdk fits filtering.enough) ?_ bounded answers
  · rcases reached with ⟨rets, done, fifos, _, atRest⟩ | ⟨_, never⟩
    · obtain ⟨count, streamed, served⟩ := atRest.toCut
      rw [streamed.complete fits atRest.short] at served
      exact ⟨⟨rets, done⟩, served⟩
    · exact never.elim
  · refine ⟨⟨0, ⟨⟨0, by simp, fun i _ => by simp⟩, by simp, Nat.zero_le _⟩, ?_⟩, rig.sized⟩
    rw [silent.1, silent.2]
    exact ⟨rfl, rfl⟩

/-- The library before the first frame. -/
private theorem atSample_ready {streams : Nat → List CFloat} {size n : Nat} {awt : Awt.AWTContext} (ready : awt.ready size n)
    (empty : awt.nbBuffer = 0) : Awt.AtSample streams sdk size n 0 ⟨awt, []⟩ := by
  obtain ⟨sized, counted, channels⟩ := ready_iff.mp ready
  constructor
  · rw [Nat.zero_mod]
    exact empty
  · refine ⟨sized, counted, fun i within => ?_⟩
    obtain ⟨_, buffer, held, length⟩ := channels i within
    exact ⟨buffer, held, length, by rw [Nat.zero_mod]; rfl⟩
  · rw [Nat.zero_div]
    exact ⟨rfl, rfl⟩

theorem Detectors.served {size n : Nat} (positive : 0 < size) (some : n ≤ detectors.inlink.channels.toNat)
    (ready : detectors.context.ready size n) (answers : Lawful (Awt.Answered sdk) detectors.filtered.2.trace) :
    (∃ rets, detectors.filtered.1 = .done rets) ∧ sdk.Served (stream detectors.frames) size n (received detectors.frames / size)
      (Awt.fed detectors.filtered.2.trace) (Awt.reported detectors.filtered.2.trace) := by
  have consecutive : Awt.Consecutive (stream detectors.frames) n (received []) (detectors.frames.map (·.toAVFrame)) :=
    frames_consecutive rfl detectors.fits some
  have enough (frame : Awt.AVFrame) (member : frame ∈ detectors.frames.map (·.toAVFrame)) :
      frame.nbSamples.toNat < detectors.fuel := by
    obtain ⟨other, known, rfl⟩ := List.mem_map.mp member
    exact lt_of_le_of_lt (count_le_received known) detectors.enough
  have reached := awtFilterFrames_rounds positive consecutive enough (atSample_ready ready detectors.empty)
    detectors.library answers
  unfold filtered
  cases executed : (Awt.awtFilterFrames detectors.fuel (detectors.frames.map (·.toAVFrame))).run detectors.library
      ⟨detectors.context, []⟩ with
  | mk exit world =>
    rw [executed] at reached
    cases exit with
    | stop why => exact reached.elim
    | done rets =>
      have served := reached.served
      rw [brought_frames, show received [] = 0 from rfl, Nat.zero_add] at served
      exact ⟨⟨rets, rfl⟩, served⟩

theorem Detectors.agree (bounded : detectors.Bounded) (ours : Lawful (Awt.Answered sdk) detectors.filtered.2.trace)
    (theirs : Lawful (Answered sdk) detectors.final.trace) : detectors.Agree := by
  obtain ⟨rig, configured, returned, filter⟩ := detectors.toFiltering.served bounded theirs
  have ready := detectors.ready
  have channels : min 2 detectors.inlink.channels.toNat = rig.decoders := by
    rw [configured.channels]
    rfl
  rw [configured.ready.awtSize, Int.toNat_natCast, channels] at ready
  obtain ⟨done, library⟩ := detectors.served rig.sized (by omega) ready ours
  refine ⟨done, returned, filter.fed.trans library.fed.symm, ?_⟩
  rw [filter.reported, library.reported, filter.fed, library.fed]

/-- After every frame both detectors have handed the same blocks to the same decoders in
the same order, and have reported the same. -/
theorem same_feeds (sdk : Sdk) (bounded : detectors.Bounded) (ours : Lawful (Awt.Answered sdk) detectors.filtered.2.trace)
    (theirs : Lawful (Answered sdk) detectors.final.trace) (count : Nat) : (detectors.upTo count).Agree := by
  apply Detectors.agree
  · exact ⟨bounded.sizable, bounded.grows.earlier (Program.collect_take _ detectors.frames count detectors.oracle detectors.configured)⟩
  · apply ours.earlier
    have calls := Program.collect_take (Awt.awtFilterFrame detectors.fuel) (detectors.frames.map (·.toAVFrame)) count
      detectors.library ⟨detectors.context, []⟩
    rwa [← List.map_take] at calls
  · exact theirs.earlier (Program.collect_take _ detectors.frames count detectors.oracle detectors.configured)

/-- Nothing is ever found. -/
def silence : Sdk := fun _ => ([], 0)

/-- A mono file set up for blocks of some size. -/
def monoContext (size : Nat) : Awt.AWTContext :=
  { awtOpen 44100 (-1) 1 1 0 with
    decoder := some, nbDecoder := 1, awtSize := size, buffer := fun _ => some (List.replicate size 0) }

theorem monoContext_ready (size : Nat) : (monoContext size).ready size 1 :=
  ready_iff.mpr ⟨rfl, rfl, fun _ _ => ⟨rfl, _, rfl, List.length_replicate⟩⟩

/-- The library has memory for blocks of any size. -/
def hugeDetectors : Detectors where
  toFiltering := hugeBlocks
  library := ({} : Awt.Script).surroundings
  context := monoContext (2 ^ 27)
  ready := by
    rw [huge_short.1]
    exact monoContext_ready (2 ^ 27)
  empty := rfl

/-- The filter does not return from the frame that the library hands on. -/
theorem huge_blocks_differ : Lawful (Awt.Answered silence) hugeDetectors.filtered.2.trace ∧
    Lawful (Answered silence) hugeDetectors.final.trace ∧ ¬ (hugeDetectors.upTo 1).Agree := by
  have ours : Lawful (Awt.Answered silence) hugeDetectors.filtered.2.trace :=
    hugeDetectors.library_answers fun past before call => by cases call <;> rfl
  have theirs : Lawful (Answered silence) hugeBlocks.final.trace := hugeBlocks.answered fun past before call => by cases call <;> rfl
  refine ⟨ours, theirs, fun agree => ?_⟩
  exact huge_blocks_unreturned (fun _ _ _ _ _ _ answers => (of_decide_eq_true answers).1) theirs agree.filter

/-- A watermark is complete with the second block. -/
def secondBlock : Sdk := fun feeds => if feeds.length = 2 then ([65], 10) else ([], 0)

/-- Two frames of three samples and of one sample are two blocks of each channel. -/
def stereoDetectors : Detectors where
  oracle := ({ blocks := fun k => if k = 1 then ⟨0, [65], 10⟩ else ⟨0, [], 0⟩ } : Script).surroundings
  fuel := 5
  inlink := ⟨2, 44100⟩
  awt := unconfigured
  frames := [audioFrame 0 [[1, 2, 3], [4, 5, 6]], audioFrame 3 [[7], [8]]]
  fresh := fresh_unconfigured
  present := stereo_present
  configures := by decide +kernel
  fits := by decide
  enough := by decide
  library := ({ blocks := fun k => if k = 1 then ⟨0, [65], 10⟩ else ⟨0, [], 0⟩ } : Awt.Script).surroundings
  context :=
    { awtOpen 44100 (-1) 1 1 0 with decoder := some, nbDecoder := 2, awtSize := 2, buffer := fun _ => some [0, 0] }
  ready := by decide +kernel
  empty := rfl

theorem stereo_fed_alike : (stereoDetectors.upTo 1).Agree ∧ (stereoDetectors.upTo 2).Agree :=
  have same (count : Nat) : (stereoDetectors.upTo count).Agree :=
    same_feeds stereoDetectors secondBlock ⟨by decide +kernel, by decide +kernel⟩ (by decide +kernel) (by decide +kernel) count
  ⟨same 1, same 2⟩

end Awt.Lavfi
