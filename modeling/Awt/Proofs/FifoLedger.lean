import Awt.Proofs.FilterSession

/-! What goes through the FIFOs of a filter whose surroundings never fail: the samples
that are received, held and emitted, as functions of the frames. -/

namespace Awt.Lavfi
open OracleProgram

/-- The calls that leave the filter succeed, and the SDK tells a block size. -/
def succeeds : Event → Bool
  | ⟨_, .realloc _ _, answer⟩ => answer.isSome
  | ⟨_, .avMallocz _, allocated⟩ => allocated
  | ⟨_, .awt5DecodeStreamInit _ _, result⟩ => result.ret = 0 ∧ result.bufferSize.any (0 < ·)
  | ⟨_, .awt5DecodeStreamBuffer _ _ _, result⟩ => result.ret = 0
  | ⟨_, .ffGetAudioBuffer _, answer⟩ => answer.isSome
  | ⟨_, .ffFilterFrame _, ret⟩ => ret = (0 : Int)
  | _ => true

abbrev Succeeds : Law := fun _ event => succeeds event

theorem succeeds_stocks : Stocks Succeeds := by
  intro past event lawful
  obtain ⟨awt, call, answer⟩ := event
  cases call with
  | awt5DecodeStreamInit i settings => exact (of_decide_eq_true lawful).2
  | _ => first | exact lawful | rfl

/-- Packets that are complete once this many samples were received. -/
def packetsIn (awtSize pktSize total : Nat) : Nat := total / awtSize * awtSize / pktSize

namespace Rig

variable (rig : Rig)

/-- The sample that is passed on at a position of a channel: `out` is never filled, and
its blocks repeat. -/
def sample (i position : Nat) : CFloat := (rig.block i).getD (position % rig.awtSize) 0

def completed (total : Nat) : Nat := packetsIn rig.awtSize rig.pktSize total

/-- A packet that is emitted while a frame is filtered. -/
def output (inFrame : AVFrame) (k : Nat) : AVFrame :=
  { inFrame with
    nbSamples := rig.pktSize
    extendedData := (List.range rig.channels).map fun i => (List.range' (k * rig.pktSize) rig.pktSize).map (rig.sample i) }

/-- All packets that are emitted for frames behind `before` samples. -/
def outputs : Nat → List AVFrame → List AVFrame
  | _, [] => []
  | before, frame :: frames =>
    (List.range' (rig.completed before) (rig.completed (before + frame.count) - rig.completed before)).map (rig.output frame) ++
      outputs (before + frame.count) frames

theorem outputs_append (before : Nat) (frames more : List AVFrame) :
    rig.outputs before (frames ++ more) = rig.outputs before frames ++ rig.outputs (before + received frames) more := by
  induction frames generalizing before with
  | nil => simp [outputs, received]
  | cons frame frames ih => simp [outputs, ih, received, Nat.add_assoc]

theorem completed_mono {less more : Nat} (le : less ≤ more) : rig.completed less ≤ rig.completed more :=
  Nat.div_le_div_right (Nat.mul_le_mul_right _ (Nat.div_le_div_right le))

@[simp] theorem completed_zero : rig.completed 0 = 0 := by simp [completed, packetsIn]

theorem completed_le (total : Nat) : rig.completed total * rig.pktSize ≤ total / rig.awtSize * rig.awtSize :=
  Nat.div_mul_le_self _ _

variable {rig}

/-- Blocks of `out` are passed on one after the other. -/
theorem sample_block {i : Nat} (within : i < rig.channels) (k : Nat) :
    (List.range' (k * rig.awtSize) rig.awtSize).map (rig.sample i) = rig.block i := by
  have filled := rig.filled i within
  apply List.ext_getElem
  · simp [filled]
  · intro p first second
    have inside : p < rig.awtSize := by rwa [filled] at second
    simp only [List.getElem_map, List.getElem_range', sample, Nat.one_mul, Nat.mul_add_mod_self_right,
      Nat.mod_eq_of_lt inside]
    exact (List.getElem_eq_getD 0).symm

@[simp] theorem output_plane (inFrame : AVFrame) (k : Nat) {i : Nat} (within : i < rig.channels) :
    (rig.output inFrame k).plane i = (List.range' (k * rig.pktSize) rig.pktSize).map (rig.sample i) := by
  have inside : i < (rig.output inFrame k).extendedData.length := by simpa [output] using within
  rw [AVFrame.plane, ← List.getElem_eq_getD (h := inside)]
  simp only [output, List.getElem_map, List.getElem_range, Int.toNat_natCast]
  exact List.take_of_length_le (by simp)

private theorem stream_cuts (inFrame : AVFrame) (k count : Nat) {i : Nat} (within : i < rig.channels) :
    stream ((List.range' k count).map (rig.output inFrame)) i =
      (List.range' (k * rig.pktSize) (count * rig.pktSize)).map (rig.sample i) := by
  induction count with
  | zero => simp [stream]
  | succ count ih =>
    rw [List.range'_1_concat, List.map_append, List.map_singleton, stream_concat, ih, output_plane _ _ within, Nat.succ_mul,
      ← List.range'_append_1, List.map_append, Nat.add_mul]

/-- The emitted samples of a channel are what `out` has for it, over and over. -/
theorem stream_outputs (before : Nat) (frames : List AVFrame) {i : Nat} (within : i < rig.channels) :
    stream (rig.outputs before frames) i = (List.range' (rig.completed before * rig.pktSize)
      ((rig.completed (before + received frames) - rig.completed before) * rig.pktSize)).map (rig.sample i) := by
  induction frames generalizing before with
  | nil => simp [outputs, stream, received]
  | cons frame frames ih =>
    have first := rig.completed_mono (show before ≤ before + frame.count by omega)
    have second := rig.completed_mono (show before + frame.count ≤ before + frame.count + received frames by omega)
    have total : before + received (frame :: frames) = before + frame.count + received frames := by
      simp [received, Nat.add_assoc]
    rw [outputs, stream_append, stream_cuts _ _ _ within, ih, total, ← List.map_append]
    generalize rig.completed (before + frame.count + received frames) = third at second ⊢
    generalize rig.completed (before + frame.count) = middle at first second ⊢
    obtain ⟨more, rfl⟩ := Nat.exists_eq_add_of_le first
    obtain ⟨most, rfl⟩ := Nat.exists_eq_add_of_le second
    rw [Nat.add_sub_cancel_left, Nat.add_sub_cancel_left, Nat.add_assoc, Nat.add_sub_cancel_left, Nat.add_mul, Nat.add_mul,
      List.range'_append_1]

end Rig

/-- The samples that are held, when the filter has dropped, passed on and emitted this
many of each channel. -/
structure Rig.Holds (rig : Rig) (frames : List AVFrame) (dropped passed given : Nat) (fifos : Fifos) : Prop where
  input : ∀ i < rig.channels, fifos.input i = (stream frames i).drop dropped
  output : ∀ i < rig.channels, fifos.output i = (List.range' given (passed - given)).map (rig.sample i)

namespace Rig.Holds

variable {rig : Rig} {frames : List AVFrame} {frame : AVFrame} {dropped passed given : Nat} {fifos : Fifos}

theorem length_output (holds : rig.Holds frames dropped passed given fifos) : (fifos.output 0).length = passed - given := by
  rw [holds.output 0 rig.present, List.length_map, List.length_range']

theorem length_input (holds : rig.Holds frames dropped passed given fifos) (fits : ∀ frame ∈ frames, frame.Fits rig.channels) :
    (fifos.input 0).length = received frames - dropped := by
  rw [holds.input 0 rig.present, List.length_drop, length_stream fits rig.present]

theorem receive (holds : rig.Holds frames dropped passed given fifos) (fits : ∀ frame ∈ frames, frame.Fits rig.channels)
    (within : dropped ≤ received frames) : rig.Holds (frames ++ [frame]) dropped passed given (fifos.receive frame) := by
  refine ⟨fun i inside => ?_, holds.output⟩
  simp only [Fifos.receive]
  rw [stream_concat, List.drop_append_of_le_length (by rw [length_stream fits inside]; exact within), holds.input i inside]

theorem pass {k : Nat} (holds : rig.Holds frames dropped (k * rig.awtSize) given fifos) (within : given ≤ k * rig.awtSize) :
    rig.Holds frames dropped ((k + 1) * rig.awtSize) given (fifos.pass rig) := by
  refine ⟨holds.input, fun i inside => ?_⟩
  have behind : given + (k * rig.awtSize - given) = k * rig.awtSize := by omega
  have more : (k + 1) * rig.awtSize - given = k * rig.awtSize - given + rig.awtSize := by
    rw [Nat.succ_mul]
    omega
  simp only [Fifos.pass]
  rw [holds.output i inside, ← Rig.sample_block inside k, ← List.map_append, more, ← List.range'_append_1, behind]

theorem dropInput (holds : rig.Holds frames dropped passed given fifos) (count : Nat) :
    rig.Holds frames (dropped + count) passed given (fifos.dropInput count) := by
  refine ⟨fun i inside => ?_, holds.output⟩
  simp only [Fifos.dropInput]
  rw [holds.input i inside, List.drop_drop]

theorem dropOutput (holds : rig.Holds frames dropped passed given fifos) (count : Nat) :
    rig.Holds frames dropped passed (given + count) (fifos.dropOutput count) := by
  refine ⟨holds.input, fun i inside => ?_⟩
  simp only [Fifos.dropOutput]
  rw [holds.output i inside, ← List.map_drop, List.drop_range', Nat.mul_one, Nat.sub_sub]

/-- The packet that is cut at `start` is the next one of the stream. -/
theorem packet {k : Nat} (holds : rig.Holds frames dropped passed given fifos) {start : Nat}
    (behind : given + start = k * rig.pktSize) (inside : start + rig.pktSize ≤ passed - given) :
    rig.packet frame fifos start = rig.output frame k := by
  have planes : (List.range rig.channels).map (fifos.output.block start rig.pktSize) =
      (List.range rig.channels).map fun i => (List.range' (k * rig.pktSize) rig.pktSize).map (rig.sample i) := by
    apply List.map_congr_left
    intro i member
    rw [Planes.block, holds.output i (List.mem_range.mp member), ← List.map_drop, List.drop_range', ← List.map_take,
      List.take_range'_of_length_ge (by omega), Nat.mul_one, behind]
  rw [Rig.packet, Rig.output, planes]

end Rig.Holds

/-- What the filter is about to read is there: valid samples of the FIFOs, and `out` as far
as it is allocated. -/
def Event.reads (channels : Nat) : Event → Prop
  | ⟨awt, .mark (.block start), _⟩ => 0 ≤ start ∧ ∀ i < channels, ∃ input, awt.inputAt i = some input ∧
      (start + awt.awtSize) * 4 ≤ input.size ∧ input.size ≤ (input.data.length : Int) * 4
  | ⟨awt, .mark (.pass _), _⟩ => ∃ outBuffer, awt.outBuffer = some outBuffer ∧
      channels * awt.awtSize ≤ (outBuffer.data.length : Int)
  | ⟨awt, .mark (.packet start), _⟩ => 0 ≤ start ∧ ∀ i < channels, ∃ output, awt.outputAt i = some output ∧
      (start + awt.pktSize) * 4 ≤ output.size ∧ output.size ≤ (output.data.length : Int) * 4
  | _ => True

/-- The samples that are held and the frames that were passed on, with no bad read so far. -/
structure Rig.Account (rig : Rig) (frames : List AVFrame) (dropped passed given : Nat) (packets : List AVFrame)
    (fifos : Fifos) (past : History) : Prop where
  held : rig.Holds frames dropped passed given fifos
  packets : emitted past = packets
  reads : ∀ event ∈ past, Event.reads rig.channels event

/-- Between two calls: every full block was passed on, and every full packet emitted. -/
def Rig.Ledger (rig : Rig) (frames : List AVFrame) (fifos : Fifos) (past : History) : Prop :=
  rig.Account frames (received frames / rig.awtSize * rig.awtSize) (received frames / rig.awtSize * rig.awtSize)
    (rig.completed (received frames) * rig.pktSize) (rig.outputs 0 frames) fifos past

section calls

variable {rig : Rig} {taken : List AVFrame} {frame : AVFrame} {dropped passed given start : Nat} {packets : List AVFrame}
  {fifos : Fifos} {past : History} {awt : AWTContext}

@[simp] theorem emitted_concat (past : History) (event : Event) : emitted (past ++ [event]) = emitted past ++ emitted [event] :=
  List.filterMap_append

/-- Calls by which nothing is passed on. -/
def Call.keeps : Call → Bool
  | .ffFilterFrame _ => false
  | _ => true

theorem emitted_keeps {call : Call} (keeps : Call.keeps call) (answer : Answer call) : emitted [⟨awt, call, answer⟩] = [] := by
  cases call <;> first | rfl | cases keeps

theorem Rig.Account.record (account : rig.Account taken dropped passed given packets fifos past) {call : Call}
    (keeps : Call.keeps call) {answer : Answer call} (reads : Event.reads rig.channels ⟨awt, call, answer⟩) :
    rig.Account taken dropped passed given packets fifos (past ++ [⟨awt, call, answer⟩]) := by
  refine ⟨account.held, ?_, ?_⟩
  · rw [emitted_concat, emitted_keeps keeps, List.append_nil, account.packets]
  · intro event member
    rcases List.mem_append.mp member with earlier | last
    · exact account.reads event earlier
    · rwa [List.mem_singleton.mp last]

theorem unseen_of_quiet {call : Call} (quiet : Call.quiet call) (awt : AWTContext) (answer : Answer call) (channels : Nat) :
    Call.keeps call ∧ Event.reads channels ⟨awt, call, answer⟩ := by
  cases call <;> first | exact ⟨rfl, trivial⟩ | cases quiet

/-- While blocks are passed on. -/
structure Rig.Filling (rig : Rig) (taken : List AVFrame) (frame : AVFrame) (fifos : Fifos) (start : Nat) (past : History) :
    Prop where
  whole : rig.awtSize ∣ start
  account : rig.Account (taken ++ [frame]) (received taken / rig.awtSize * rig.awtSize)
    (received taken / rig.awtSize * rig.awtSize + start) (rig.completed (received taken) * rig.pktSize)
    (rig.outputs 0 taken) fifos past

/-- While packets are emitted, and `count` of them were. -/
structure Rig.Cutting (rig : Rig) (taken : List AVFrame) (frame : AVFrame) (fifos : Fifos) (start : Nat) (past : History) :
    Prop where
  account : ∃ count, start = count * rig.pktSize ∧ rig.Account (taken ++ [frame])
    (received (taken ++ [frame]) / rig.awtSize * rig.awtSize) (received (taken ++ [frame]) / rig.awtSize * rig.awtSize)
    (rig.completed (received taken) * rig.pktSize)
    (rig.outputs 0 taken ++ (List.range' (rig.completed (received taken)) count).map (rig.output frame)) fifos past

namespace Rig.Filling

theorem record (filling : rig.Filling taken frame fifos start past) {call : Call} (keeps : Call.keeps call)
    {answer : Answer call} (reads : Event.reads rig.channels ⟨awt, call, answer⟩) :
    rig.Filling taken frame fifos start (past ++ [⟨awt, call, answer⟩]) :=
  ⟨filling.whole, filling.account.record keeps reads⟩

theorem arrive (ledger : rig.Ledger taken fifos past) (fits : ∀ other ∈ taken, other.Fits rig.channels) :
    rig.Filling taken frame (fifos.receive frame) 0 (past ++ [⟨awt, .mark (.frame frame), ()⟩]) := by
  have kept : rig.Account taken _ _ _ _ fifos (past ++ [⟨awt, .mark (.frame frame), ()⟩]) := ledger.record rfl trivial
  exact ⟨Nat.dvd_zero _, kept.held.receive fits (Nat.div_mul_le_self _ _), kept.packets, kept.reads⟩

theorem block (filling : rig.Filling taken frame fifos start past) (ready : rig.Ready fifos awt)
    (inside : start + rig.awtSize ≤ (fifos.input 0).length) :
    rig.Filling taken frame fifos start (past ++ [⟨awt, .mark (.block start), ()⟩]) := by
  refine filling.record rfl ⟨Int.natCast_nonneg _, fun i within => ?_⟩
  obtain ⟨input, found, sound, held⟩ := ready.input i within
  have level := ready.level.input i within
  have size := sound.size
  have fits := input.held_fits
  rw [held] at size fits
  exact ⟨input, found, by rw [ready.awtSize]; omega, by omega⟩

theorem pass (filling : rig.Filling taken frame fifos start past) (ready : rig.Ready fifos awt) :
    rig.Filling taken frame (fifos.pass rig) (start + rig.awtSize) (past ++ [⟨awt, .mark (.pass start), ()⟩]) := by
  obtain ⟨⟨k, rfl⟩, account⟩ := filling
  have blocks : received taken / rig.awtSize * rig.awtSize + rig.awtSize * k = (received taken / rig.awtSize + k) * rig.awtSize := by
    rw [Nat.add_mul, Nat.mul_comm k]
  have more : received taken / rig.awtSize * rig.awtSize + (rig.awtSize * k + rig.awtSize) =
      (received taken / rig.awtSize + k + 1) * rig.awtSize := by
    rw [Nat.succ_mul, ← blocks, Nat.add_assoc]
  have earlier := rig.completed_le (received taken)
  rw [blocks] at account
  obtain ⟨outBuffer, found, room, _⟩ := ready.outBuffer
  have kept : rig.Account _ _ _ _ _ fifos (past ++ [⟨awt, .mark (.pass (rig.awtSize * k : Nat)), ()⟩]) :=
    account.record rfl ⟨outBuffer, found, by rw [ready.awtSize]; exact_mod_cast room⟩
  refine ⟨⟨k + 1, rfl⟩, ?_⟩
  rw [more]
  exact ⟨kept.held.pass (by omega), kept.packets, kept.reads⟩

/-- Nothing is left to pass on for this frame. -/
private theorem passed_all (filling : rig.Filling taken frame fifos start past)
    (fits : ∀ other ∈ taken ++ [frame], other.Fits rig.channels) (within : start ≤ (fifos.input 0).length)
    (short : (fifos.input 0).length < start + rig.awtSize) :
    received (taken ++ [frame]) / rig.awtSize * rig.awtSize = received taken / rig.awtSize * rig.awtSize + start := by
  obtain ⟨⟨k, rfl⟩, account⟩ := filling
  have length := account.held.length_input fits
  have more := received_concat taken frame
  have before := Nat.div_mul_le_self (received taken) rig.awtSize
  have blocks : received taken / rig.awtSize * rig.awtSize + rig.awtSize * k = (received taken / rig.awtSize + k) * rig.awtSize := by
    rw [Nat.add_mul, Nat.mul_comm k]
  have count : received (taken ++ [frame]) / rig.awtSize = received taken / rig.awtSize + k := by
    apply Nat.div_eq_of_lt_le
    · omega
    · rw [Nat.succ_mul]
      omega
  rw [count, blocks]

theorem early (filling : rig.Filling taken frame fifos 0 past) (fits : ∀ other ∈ taken ++ [frame], other.Fits rig.channels)
    (short : (fifos.input 0).length < rig.awtSize) : rig.Ledger (taken ++ [frame]) fifos past := by
  have passed := filling.passed_all fits (Nat.zero_le _) (by omega)
  have same : rig.completed (received (taken ++ [frame])) = rig.completed (received taken) := by
    rw [Rig.completed, packetsIn, passed]
    rfl
  have account := filling.account
  rw [Rig.Ledger, passed, same, Rig.outputs_append, Rig.outputs, Rig.outputs, Nat.zero_add, ← received_concat, same,
    Nat.sub_self]
  simpa using account

theorem drop (filling : rig.Filling taken frame fifos start past) (fits : ∀ other ∈ taken ++ [frame], other.Fits rig.channels)
    (within : start ≤ (fifos.input 0).length) (short : (fifos.input 0).length < start + rig.awtSize) :
    rig.Cutting taken frame (fifos.dropInput start) 0 past := by
  refine ⟨0, (Nat.zero_mul _).symm, ?_⟩
  rw [filling.passed_all fits within short]
  exact ⟨filling.account.held.dropInput start, by simpa using filling.account.packets, filling.account.reads⟩

end Rig.Filling

namespace Rig.Cutting

theorem record (cutting : rig.Cutting taken frame fifos start past) {call : Call} (keeps : Call.keeps call)
    {answer : Answer call} (reads : Event.reads rig.channels ⟨awt, call, answer⟩) :
    rig.Cutting taken frame fifos start (past ++ [⟨awt, call, answer⟩]) := by
  obtain ⟨count, same, account⟩ := cutting
  exact ⟨count, same, account.record keeps reads⟩

theorem packet (cutting : rig.Cutting taken frame fifos start past) (ready : rig.Ready fifos awt)
    (inside : start + rig.pktSize ≤ (fifos.output 0).length) :
    rig.Cutting taken frame fifos start (past ++ [⟨awt, .mark (.packet start), ()⟩]) := by
  refine cutting.record rfl ⟨Int.natCast_nonneg _, fun i within => ?_⟩
  obtain ⟨output, found, sound, held⟩ := ready.output i within
  have level := ready.level.output i within
  have size := sound.size
  have fits := output.held_fits
  rw [held] at size fits
  exact ⟨output, found, by rw [ready.pktSize]; omega, by omega⟩

theorem give (cutting : rig.Cutting taken frame fifos start past) {ret : Int}
    (inside : start + rig.pktSize ≤ (fifos.output 0).length) :
    rig.Cutting taken frame fifos (start + rig.pktSize)
      (past ++ [⟨awt, .ffFilterFrame (rig.packet frame fifos start), ret⟩]) := by
  obtain ⟨count, rfl, account⟩ := cutting
  have length := account.held.length_output
  have packet : rig.packet frame fifos (count * rig.pktSize) = rig.output frame (rig.completed (received taken) + count) :=
    account.held.packet (Nat.add_mul ..).symm (by omega)
  refine ⟨count + 1, (Nat.succ_mul ..).symm, account.held, ?_, ?_⟩
  · rw [emitted_concat, account.packets, packet, List.range'_1_concat, List.map_append, List.append_assoc]
    rfl
  · intro event member
    rcases List.mem_append.mp member with earlier | last
    · exact account.reads event earlier
    · rw [List.mem_singleton.mp last]
      trivial

theorem emptied (cutting : rig.Cutting taken frame fifos start past) (within : start ≤ (fifos.output 0).length)
    (short : (fifos.output 0).length < start + rig.pktSize) :
    rig.Ledger (taken ++ [frame]) (fifos.dropOutput start) past := by
  obtain ⟨count, rfl, account⟩ := cutting
  have length := account.held.length_output
  have packets : (rig.completed (received taken) + count) * rig.pktSize = rig.completed (received taken) * rig.pktSize + count * rig.pktSize :=
    Nat.add_mul ..
  have earlier : rig.completed (received taken) * rig.pktSize ≤ received (taken ++ [frame]) / rig.awtSize * rig.awtSize := by
    calc rig.completed (received taken) * rig.pktSize
      _ ≤ rig.completed (received (taken ++ [frame])) * rig.pktSize :=
        Nat.mul_le_mul_right _ (rig.completed_mono (by rw [received_concat]; omega))
      _ ≤ _ := rig.completed_le _
  have completed : rig.completed (received (taken ++ [frame])) = rig.completed (received taken) + count := by
    apply Nat.div_eq_of_lt_le
    · omega
    · rw [Nat.succ_mul]
      omega
  rw [Rig.Ledger, completed, packets, Rig.outputs_append, Rig.outputs, Rig.outputs, Nat.zero_add, ← received_concat,
    completed, Nat.add_sub_cancel_left, List.append_nil]
  exact ⟨account.held.dropOutput _, account.packets, account.reads⟩

end Rig.Cutting

private theorem arrived_fits {all rest : List AVFrame} (fits : ∀ frame ∈ all, frame.Fits rig.channels)
    (same : taken ++ frame :: rest = all) : ∀ other ∈ taken ++ [frame], other.Fits rig.channels := by
  subst same
  intro other member
  apply fits other
  rw [List.append_cons]
  exact List.mem_append_left _ member

private theorem arrived_received {all rest : List AVFrame} (same : taken ++ frame :: rest = all) :
    received (taken ++ [frame]) ≤ received all := by
  have split : taken ++ frame :: rest = taken ++ [frame] ++ rest := List.append_cons ..
  rw [← same, split, received_append (taken ++ [frame])]
  omega

/-- The ledger is kept by every call of a filter whose surroundings do not fail. -/
def Rig.ledgerOutline (rig : Rig) {fuel : Nat} {all : List AVFrame} (fits : ∀ frame ∈ all, frame.Fits rig.channels)
    (enough : received all < fuel) (inFrame : AVFrame) (rest : List AVFrame) :
    FrameOutline Succeeds rig fuel inFrame
      (fun fifos past => ∃ taken, taken ++ inFrame :: rest = all ∧ rig.Ledger taken fifos past)
      (fun _ fifos past => ∃ taken, taken ++ rest = all ∧ rig.Ledger taken fifos past) (fun _ => False) where
  head fifos start past := ∃ taken, taken ++ inFrame :: rest = all ∧ rig.Filling taken inFrame fifos start past
  decoding fifos start _ past := ∃ taken, taken ++ inFrame :: rest = all ∧ rig.Filling taken inFrame fifos start past
  packets fifos start past := ∃ taken, taken ++ inFrame :: rest = all ∧ rig.Cutting taken inFrame fifos start past
  allocating fifos start past := ∃ taken, taken ++ inFrame :: rest = all ∧ rig.Cutting taken inFrame fifos start past
  giving fifos start past := ∃ taken, taken ++ inFrame :: rest = all ∧ rig.Cutting taken inFrame fifos start past
  head_quiet := by
    intro fifos start past awt call answer quiet ⟨taken, same, filling⟩
    obtain ⟨keeps, reads⟩ := unseen_of_quiet quiet awt answer rig.channels
    exact ⟨taken, same, filling.record keeps reads⟩
  decoding_quiet := by
    intro fifos start _ past awt call answer quiet ⟨taken, same, filling⟩
    obtain ⟨keeps, reads⟩ := unseen_of_quiet quiet awt answer rig.channels
    exact ⟨taken, same, filling.record keeps reads⟩
  leave_quiet := by
    intro _ fifos past awt call answer quiet ⟨taken, same, ledger⟩
    obtain ⟨keeps, reads⟩ := unseen_of_quiet quiet awt answer rig.channels
    exact ⟨taken, same, ledger.record keeps reads⟩
  arrive := by
    rintro fifos awt past _ ⟨taken, rfl, ledger⟩
    exact ⟨taken, rfl, Rig.Filling.arrive ledger fun other member => fits other (List.mem_append_left _ member)⟩
  block := by
    intro fifos awt start past ready inside ⟨taken, same, filling⟩
    exact ⟨taken, same, filling.block ready inside⟩
  decode := by
    intro fifos awt start i items past result _ _ _ ⟨taken, same, filling⟩ zero
    have zero : result.ret = 0 := of_decide_eq_true zero
    have decoded : rig.Filling taken inFrame fifos start
        (past ++ [⟨awt, .awt5DecodeStreamBuffer i (awt.decoder i) (fifos.input.block start rig.awtSize i), result⟩]) :=
      filling.record rfl trivial
    simp only [zero, ne_eq, not_true, if_false]
    split
    · exact ⟨taken, same, decoded⟩
    · exact ⟨taken, same, decoded.record rfl trivial⟩
  pass := by
    intro fifos awt start past ready _ ⟨taken, same, filling⟩
    exact ⟨taken, same, filling.pass ready⟩
  early := by
    intro fifos past _ short ⟨taken, same, filling⟩
    exact ⟨taken ++ [inFrame], by simp [same], filling.early (arrived_fits fits same) short⟩
  drop := by
    intro fifos start past _ within short _ ⟨taken, same, filling⟩
    exact ⟨taken, same, filling.drop (arrived_fits fits same) within short⟩
  packet := by
    intro fifos awt start past ready inside ⟨taken, same, cutting⟩
    exact ⟨taken, same, cutting.packet ready inside⟩
  allocate := by
    intro fifos awt start past answer _ _ ⟨taken, same, cutting⟩ allocated
    cases answer with
    | none => cases allocated
    | some fresh => exact ⟨taken, same, cutting.record rfl trivial⟩
  give := by
    intro fifos awt start past ret _ inside ⟨taken, same, cutting⟩ zero
    have zero : ret = 0 := of_decide_eq_true zero
    simp only [zero, ne_eq, not_true, if_false]
    exact ⟨taken, same, cutting.give inside⟩
  emptied := by
    intro fifos start past _ within short ⟨taken, same, cutting⟩
    exact ⟨taken ++ [inFrame], by simp [same], cutting.emptied within short⟩
  head_expired := by
    intro fifos start past many ⟨taken, same, filling⟩
    have length := filling.account.held.length_input (arrived_fits fits same)
    have some := arrived_received same
    omega
  packets_expired := by
    intro fifos start past many ⟨taken, same, cutting⟩
    obtain ⟨count, _, account⟩ := cutting
    have length := account.held.length_output
    have blocks := Nat.div_mul_le_self (received (taken ++ [inFrame])) rig.awtSize
    have some := arrived_received same
    omega

/-- Nothing was passed on yet, and nothing read from the buffers. -/
private def Untouched (past : History) : Prop := emitted past = [] ∧ ∀ event ∈ past, ∀ channels, Event.reads channels event

private theorem untouched_unconcerned : Unconcerned Untouched := by
  intro past awt call answer ofConfig untouched
  have unseen : Call.keeps call ∧ ∀ channels, Event.reads channels ⟨awt, call, answer⟩ := by
    cases call <;> first | exact ⟨rfl, fun _ => trivial⟩ | cases ofConfig
  refine ⟨?_, fun event member => ?_⟩
  · rw [emitted_concat, untouched.1, emitted_keeps unseen.1]
    rfl
  · rcases List.mem_append.mp member with earlier | last
    · exact untouched.2 event earlier
    · rw [List.mem_singleton.mp last]
      exact unseen.2

/-- With nothing failing around it, the filter returns from every call, and the samples
of the frames are where the ledger says. -/
theorem Filtering.ledger (filtering : Filtering) (bounded : filtering.Bounded) (succeeds : Lawful Succeeds filtering.final.trace) :
    ∃ rig : Rig, rig.Configured filtering.inlink filtering.configured.state ∧
      (∃ rets, filtering.outcome.1 = .done rets) ∧
      ∃ fifos, rig.Ready fifos filtering.final.state ∧ rig.Ledger filtering.frames fifos filtering.final.trace := by
  obtain ⟨rig, configured, untouched⟩ := Filtering.configured_rig succeeds_stocks.grants succeeds_stocks.sizes untouched_unconcerned
    ⟨rfl, fun _ member => absurd member List.not_mem_nil⟩ bounded succeeds
  have fits := filtering.fits
  rw [configured.channels, Int.toNat_natCast] at fits
  refine ⟨rig, configured, ?_⟩
  have reached := Filtering.run_holds succeeds_stocks.grants configured
    (fun rest fifos past => ∃ taken, taken ++ rest = filtering.frames ∧ rig.Ledger taken fifos past)
    (rig.ledgerOutline fits filtering.enough) ⟨[], rfl, ?_⟩ bounded succeeds
  · rcases reached with ⟨rets, done, fifos, ready, taken, same, ledger⟩ | ⟨_, never⟩
    · rw [List.append_nil] at same
      exact ⟨⟨rets, done⟩, fifos, ready, same ▸ ledger⟩
    · exact never.elim
  · refine ⟨⟨fun i _ => ?_, fun i _ => ?_⟩, untouched.1, fun event member => untouched.2 event member _⟩
    · simp [stream]
    · simp [received]

end calls
end Awt.Lavfi
