import Awt.Lavfi.Script
import Awt.Lib.Observer
import Awt.Proofs.FifoLedger

/-! What comes out of the filter against what went in: the samples, and their times. -/

namespace Awt.Lavfi
open OracleProgram

/-- On every channel the emitted samples are the first ones of those received. -/
def PassesThrough (channels : Nat) (frames packets : List AVFrame) : Prop :=
  ∀ i < channels, stream packets i <+: stream frames i

/-- Wherever a packet is complete, the frames have the samples that the memory of `out`
happens to hold in the block of their channel. -/
def OutMatches (channels : Nat) (frames : List AVFrame) (awt : AWTContext) : Prop :=
  let awtSize := awt.awtSize.toNat
  let pktSize := awt.pktSize.toNat
  ∀ i < channels, ∀ p < packetsIn awtSize pktSize (received frames) * pktSize,
    (stream frames i)[p]? = awt.outBuffer.bind (·.data[i * awtSize + p % awtSize]?)

instance (channels : Nat) (frames packets : List AVFrame) : Decidable (PassesThrough channels frames packets) :=
  inferInstanceAs (Decidable (∀ i < channels, stream packets i <+: stream frames i))

section content

variable {rig : Rig} {fifos : Fifos} {awt : AWTContext} {i : Nat}

theorem Rig.Carries.sample (carries : rig.Carries fifos awt) (within : i < rig.channels) (p : Nat) :
    awt.outBuffer.bind (·.data[i * rig.awtSize + p % rig.awtSize]?) = some (rig.sample i p) := by
  obtain ⟨outBuffer, found, room, blocks⟩ := carries.outBuffer
  have inside := Nat.mod_lt p rig.sized
  have filled := rig.filled i within
  have block : (i + 1) * rig.awtSize ≤ rig.channels * rig.awtSize := Nat.mul_le_mul_right _ within
  rw [Nat.succ_mul] at block
  have held : i * rig.awtSize + p % rig.awtSize < outBuffer.data.length := by omega
  have read : (rig.block i)[p % rig.awtSize]? = outBuffer.data[i * rig.awtSize + p % rig.awtSize]? := by
    rw [← blocks i within, List.getElem?_take_of_lt inside, List.getElem?_drop]
  rw [found, Option.bind_some, Rig.sample, List.getD_eq_getElem?_getD, read, List.getElem?_eq_getElem held]
  rfl

theorem Rig.passesThrough_iff (rig : Rig) (frames : List AVFrame) :
    PassesThrough rig.channels frames (rig.outputs 0 frames) ↔ ∀ i < rig.channels,
      ∀ p < rig.completed (received frames) * rig.pktSize, (stream frames i)[p]? = some (rig.sample i p) := by
  refine forall_congr' fun i => forall_congr' fun within => ?_
  rw [Rig.stream_outputs 0 frames within, rig.completed_zero, Nat.zero_mul, Nat.zero_add, Nat.sub_zero, List.prefix_iff_getElem?]
  simp [eq_comm]

/-- The samples pass through exactly when the memory of `out` holds them already. -/
theorem passes_through_iff (filtering : Filtering) (bounded : filtering.Bounded) (succeeds : Lawful Succeeds filtering.final.trace) :
    PassesThrough filtering.inlink.channels.toNat filtering.frames (emitted filtering.final.trace) ↔
      OutMatches filtering.inlink.channels.toNat filtering.frames filtering.configured.state := by
  obtain ⟨rig, configured, _, _, _, ledger⟩ := filtering.ledger bounded succeeds
  have ready := configured.ready
  rw [ledger.packets, configured.channels, Int.toNat_natCast, rig.passesThrough_iff, OutMatches, ready.awtSize, ready.pktSize]
  refine forall_congr' fun i => forall_congr' fun within => forall_congr' fun p => ?_
  rw [Int.toNat_natCast, Int.toNat_natCast, ready.sample within]
  rfl

/-- One channel with blocks of 1025 samples, which are a packet each. -/
def wholePackets (frames : List AVFrame) (fits : ∀ frame ∈ frames, frame.Fits 1) (enough : received frames < 2051) :
    Filtering where
  oracle := Script.surroundings { awtSize := 1025 }
  fuel := 2051
  inlink := ⟨1, 44100⟩
  awt := unconfigured
  frames := frames
  fresh := fresh_unconfigured
  present := mono_present
  configures := by decide +kernel
  fits := fits
  enough := enough

def onePacket (sample : CFloat) : Filtering := wholePackets [packetFrame 0 sample 1025]
  (fun _ member => List.mem_singleton.mp member ▸ packetFrame_fits ..) (by simp [received])

/-- Ones in, zeros out. -/
theorem ones_are_silenced : Lawful Succeeds (onePacket 1).final.trace ∧
    ¬ PassesThrough 1 (onePacket 1).frames (emitted (onePacket 1).final.trace) := by
  decide +kernel

/-- The memory of `out` happens to be zeroed. -/
private theorem out_zeroed : (onePacket 0).configured.state.awtSize = 1025 ∧ (onePacket 0).configured.state.pktSize = 1025 ∧
    (onePacket 0).configured.state.outBuffer.any fun buffer => 1025 ≤ buffer.data.length ∧ buffer.data.all (· = 0) := by
  decide +kernel

theorem zeros_pass : PassesThrough 1 (onePacket 0).frames (emitted (onePacket 0).final.trace) := by
  apply (passes_through_iff (onePacket 0) ⟨by decide +kernel, by decide +kernel⟩ (by decide +kernel)).mpr
  obtain ⟨sized, cut, zeroed⟩ := out_zeroed
  obtain ⟨outBuffer, found, zeroed⟩ := (Option.any_eq_true _ _).mp zeroed
  obtain ⟨room, zeroed⟩ := of_decide_eq_true zeroed
  intro i within p complete
  obtain rfl : i = 0 := Nat.lt_one_iff.mp within
  rw [sized, cut] at complete
  have short : p < 1025 := by simpa [packetsIn, onePacket, wholePackets, received] using complete
  have given : stream (onePacket 0).frames 0 = List.replicate 1025 0 := by
    rw [← packetFrame_plane 0 0 1025]
    exact List.append_nil _
  have inside : p < outBuffer.data.length := by omega
  have zero : outBuffer.data[p] = 0 := of_decide_eq_true (List.all_eq_true.mp zeroed _ (List.getElem_mem inside))
  rw [given, found, sized, List.getElem?_replicate_of_lt short, Option.bind_some]
  simp [Nat.mod_eq_of_lt short, zero, inside]

end content

section timing

/-- Every timestamp is `pts` and the number of samples before its frame. -/
def Consecutive (pts : Int) (frames : List AVFrame) : Prop :=
  ∀ k (inside : k < frames.length), frames[k].pts = some (pts + received (frames.take k))

/-- A frame that completes packets completes one only, and begins where that packet does. -/
def OnTime (awtSize pktSize : Nat) (before : Nat) : List AVFrame → Prop
  | [] => True
  | frame :: frames =>
    let count := packetsIn awtSize pktSize before
    let more := packetsIn awtSize pktSize (before + frame.count)
    (more = count ∨ more = count + 1 ∧ before = count * pktSize) ∧ OnTime awtSize pktSize (before + frame.count) frames

instance (pts : Int) (frames : List AVFrame) : Decidable (Consecutive pts frames) :=
  inferInstanceAs (Decidable (∀ k (inside : k < frames.length), frames[k].pts = some (pts + received (frames.take k))))

instance OnTime.decidable (awtSize pktSize : Nat) : (before : Nat) → (frames : List AVFrame) →
    Decidable (OnTime awtSize pktSize before frames)
  | _, [] => isTrue trivial
  | before, frame :: frames =>
    have := OnTime.decidable awtSize pktSize (before + frame.count) frames
    inferInstanceAs (Decidable ((packetsIn awtSize pktSize (before + frame.count) = packetsIn awtSize pktSize before ∨
      packetsIn awtSize pktSize (before + frame.count) = packetsIn awtSize pktSize before + 1 ∧
        before = packetsIn awtSize pktSize before * pktSize) ∧ OnTime awtSize pktSize (before + frame.count) frames))

theorem consecutive_nil (pts : Int) : Consecutive pts [] := fun _ inside => absurd inside (Nat.not_lt_zero _)

theorem consecutive_cons {pts : Int} {frame : AVFrame} {frames : List AVFrame} :
    Consecutive pts (frame :: frames) ↔ frame.pts = some pts ∧ Consecutive (pts + frame.count) frames := by
  constructor
  · intro stamped
    have first : frame.pts = some (pts + (received [] : Nat)) := stamped 0 (Nat.zero_lt_succ _)
    refine ⟨by simpa [received] using first, fun k inside => ?_⟩
    have later := stamped (k + 1) (by simpa using inside)
    simpa [received, Int.add_assoc] using later
  · intro ⟨first, rest⟩ k inside
    cases k with
    | zero => simpa [received] using first
    | succ k => simpa [received, Int.add_assoc] using rest k (by simpa using inside)

theorem consecutive_append {pts : Int} {frames more : List AVFrame} : Consecutive pts (frames ++ more) ↔
    Consecutive pts frames ∧ Consecutive (pts + received frames) more := by
  induction frames generalizing pts with
  | nil => simp [consecutive_nil, received]
  | cons frame frames ih => simp [consecutive_cons, ih, and_assoc, Int.add_assoc, received]

variable {rig : Rig}

/-- All packets of one frame carry its timestamp. -/
theorem Rig.cuts_consecutive {frame : AVFrame} {stamp : Int} (stamped : frame.pts = some stamp) (pts : Int) (k count : Nat) :
    Consecutive pts ((List.range' k count).map (rig.output frame)) ↔ count = 0 ∨ count = 1 ∧ stamp = pts := by
  have packed := rig.packed
  match count with
  | 0 => simp [consecutive_nil]
  | 1 => simp [consecutive_cons, consecutive_nil, Rig.output, stamped]
  | count + 2 =>
    simp [List.range'_succ, consecutive_cons, Rig.output, stamped, AVFrame.count]
    omega

theorem Rig.received_cuts (inFrame : AVFrame) (k count : Nat) :
    received ((List.range' k count).map (rig.output inFrame)) = count * rig.pktSize := by
  simp [received, Rig.output, Function.comp_def, AVFrame.count]

theorem Rig.outputs_consecutive (rig : Rig) {frames : List AVFrame} (pts : Int) (before : Nat)
    (stamped : Consecutive (pts + before) frames) :
    Consecutive (pts + (rig.completed before * rig.pktSize : Nat)) (rig.outputs before frames) ↔
      OnTime rig.awtSize rig.pktSize before frames := by
  induction frames generalizing before with
  | nil => simp [Rig.outputs, consecutive_nil, OnTime]
  | cons frame frames ih =>
    obtain ⟨first, rest⟩ := consecutive_cons.mp stamped
    have more := rig.completed_mono (Nat.le_add_right before frame.count)
    rw [Int.add_assoc, ← Int.natCast_add] at rest
    obtain ⟨count, cut⟩ := Nat.exists_eq_add_of_le more
    have next : pts + (rig.completed before * rig.pktSize : Nat) + (count * rig.pktSize : Nat) =
        pts + (rig.completed (before + frame.count) * rig.pktSize : Nat) := by
      rw [cut, Nat.add_mul, Int.natCast_add, Int.add_assoc]
    rw [Rig.outputs, consecutive_append, Rig.cuts_consecutive first, Rig.received_cuts, OnTime, cut, Nat.add_sub_cancel_left,
      next, ih (before + frame.count) rest]
    apply and_congr_left'
    have now : packetsIn rig.awtSize rig.pktSize before = rig.completed before := rfl
    have after : packetsIn rig.awtSize rig.pktSize (before + frame.count) = rig.completed before + count := cut
    simp only [now, after]
    omega

/-- Emitted frames are stamped with the position of their first sample exactly when every
packet is completed by the frame it begins with. -/
theorem timestamps_kept_iff (filtering : Filtering) (bounded : filtering.Bounded) (succeeds : Lawful Succeeds filtering.final.trace) (pts : Int)
    (stamped : Consecutive pts filtering.frames) :
    Consecutive pts (emitted filtering.final.trace) ↔
      OnTime filtering.configured.state.awtSize.toNat filtering.configured.state.pktSize.toNat 0 filtering.frames := by
  obtain ⟨rig, configured, _, _, _, ledger⟩ := filtering.ledger bounded succeeds
  have ready := configured.ready
  have kept := rig.outputs_consecutive pts 0 (by simpa using stamped)
  rw [rig.completed_zero, Nat.zero_mul, Nat.cast_zero, Int.add_zero] at kept
  rw [ledger.packets, ready.awtSize, ready.pktSize, Int.toNat_natCast, Int.toNat_natCast]
  exact kept

/-- Two frames of 600 samples: the packet that begins with the first carries the time of the second. -/
def twoHalves : Filtering := wholePackets [packetFrame 0 0 600, packetFrame 600 0 600] (by simp [packetFrame_fits])
  (by simp [received])

theorem first_packet_is_late : Lawful Succeeds twoHalves.final.trace ∧ Consecutive 0 twoHalves.frames ∧
    ¬ Consecutive 0 (emitted twoHalves.final.trace) := by
  decide +kernel

theorem whole_packet_on_time : Consecutive 0 (emitted (onePacket 0).final.trace) := by
  apply (timestamps_kept_iff (onePacket 0) ⟨by decide +kernel, by decide +kernel⟩ (by decide +kernel) 0 (by decide +kernel)).mpr
  decide +kernel

end timing

end Awt.Lavfi
