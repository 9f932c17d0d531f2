import Awt.Proofs.LoopOutline

/-! The times of packets in microseconds: exactly, and as `awt_run` computes them in
64 bits. -/

namespace Awt

/-- How a timestamp becomes microseconds, what is stored of a sum or a difference, and
which times count as known. -/
structure TimeArithmetic where
  micros : TimeBase → Int → Int
  store : Int → Int
  known : Int → Option Int

def exactTime : TimeArithmetic where
  micros base pts := Lavu.nearest pts base.rational Lavu.AV_TIME_BASE_Q
  store := id
  known := some

/-- `av_rescale_q`, `int64_t`, and `AV_NOPTS_VALUE` for no time. -/
def machineTime : TimeArithmetic where
  micros base pts := (Lavu.avRescaleQ pts base.rational Lavu.AV_TIME_BASE_Q).getD AV_NOPTS_VALUE
  store := int64
  known := known

namespace TimeArithmetic

variable (times : TimeArithmetic)

/-- The time of the first timestamped packet, after one more packet. -/
def stamp (base : TimeBase) (origin : Option Int) (packet : AVPacket) : Option Int :=
  match packet.time with
  | none => origin
  | some pts => times.known (origin.getD (times.micros base pts))

/-- How far a packet is from the first timestamped one. -/
def offset (base : TimeBase) (origin : Option Int) (packet : AVPacket) : Option Int :=
  packet.time.map fun pts => times.store (times.micros base pts - origin.getD (times.micros base pts))

end TimeArithmetic

section

variable {base : TimeBase} {origin : Option Int} {packet : AVPacket} {micros : Int}

theorem machine_stamp (given : packet.micros base = some micros) :
    machineTime.stamp base origin packet = known (origin.getD micros) := by
  obtain ⟨pts, stamp, rescaled⟩ := Option.bind_eq_some_iff.mp given
  simp [TimeArithmetic.stamp, machineTime, stamp, rescaled]

theorem machine_offset (given : packet.micros base = some micros) :
    machineTime.offset base origin packet = some (int64 (micros - origin.getD micros)) := by
  obtain ⟨pts, stamp, rescaled⟩ := Option.bind_eq_some_iff.mp given
  simp [TimeArithmetic.offset, machineTime, stamp, rescaled]

/-- Times that 64 bits can hold, and `AV_NOPTS_VALUE` is none of them. -/
structure Held (time : Int) : Prop where
  least : -INT64_MAX ≤ time
  most : time ≤ INT64_MAX

instance (time : Int) : Decidable (Held time) :=
  decidable_of_iff (-INT64_MAX ≤ time ∧ time ≤ INT64_MAX)
    ⟨fun ⟨least, most⟩ => ⟨least, most⟩, fun held => ⟨held.least, held.most⟩⟩

theorem Held.known {time : Int} (held : Held time) : known time = some time := by
  have least := held.least
  rw [INT64_MAX] at least
  rw [Awt.known, AV_NOPTS_VALUE, INT64_MIN, if_neg (by omega)]

/-- A packet whose time and offset 64 bits can hold. -/
structure AVPacket.Fits (base : TimeBase) (origin : Option Int) (packet : AVPacket) : Prop where
  time : ∀ pts, packet.time = some pts → Held (exactTime.micros base pts)
  first : ∀ pts, packet.time = some pts → Held (origin.getD (exactTime.micros base pts))
  offset : ∀ offset, exactTime.offset base origin packet = some offset → -2 ^ 63 ≤ offset ∧ offset < 2 ^ 63

private theorem machine_micros {pts : Int} (stamp : packet.time = some pts) (held : Held (exactTime.micros base pts)) :
    machineTime.micros base pts = exactTime.micros base pts := by
  obtain ⟨least, most⟩ := AVPacket.time_range stamp
  have rescaled := Lavu.rescale_q (Lavu.timeBase_positive base) Lavu.microseconds_positive least most
  rw [if_pos ⟨held.least, held.most⟩] at rescaled
  exact congrArg (Option.getD · AV_NOPTS_VALUE) rescaled

/-- Where everything fits the code computes with the exact times. -/
theorem AVPacket.Fits.exact (fits : packet.Fits base origin) :
    machineTime.stamp base origin packet = exactTime.stamp base origin packet ∧
      machineTime.offset base origin packet = exactTime.offset base origin packet := by
  cases stamp : packet.time with
  | none => simp [TimeArithmetic.stamp, TimeArithmetic.offset, stamp]
  | some pts =>
    have same := machine_micros stamp (fits.time pts stamp)
    have kept : exactTime.offset base origin packet =
        some (exactTime.micros base pts - origin.getD (exactTime.micros base pts)) := by
      rw [TimeArithmetic.offset, stamp]
      rfl
    constructor
    · rw [TimeArithmetic.stamp, TimeArithmetic.stamp, stamp]
      dsimp only
      rw [same]
      exact (fits.first pts stamp).known
    · rw [kept, TimeArithmetic.offset, stamp, Option.map_some, same]
      exact congrArg some ((int64_eq_iff _).mpr (fits.offset _ kept))

end

end Awt
