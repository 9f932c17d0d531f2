import Awt.Lavfi.Script
import Awt.Lib.Observer
import Awt.Proofs.FifoBuffers

/-! An `AWTBuffer` is a queue of samples under every sequence of calls, as long as what
they count in bytes fits an `int`. -/

namespace Awt.Lavfi
open OracleProgram

/-- A call of an operation on one buffer. -/
inductive BufferCall where
  | create (initSize : Nat)
  | moveIn (data : List CFloat) (off count : Nat)
  | update (count : Nat)
  | moveOut (data : List CFloat) (off count : Nat)

namespace BufferCall

/-- The call on the pointer to the buffer; `move_out` gives what it leaves in `data`. -/
def run (place : Place) (ptr : Option AWTBuffer) : BufferCall → LavfiM (Option AWTBuffer × Option (List CFloat))
  | create initSize => do
    let buffer ← awtBufferCreate place initSize ptr
    return (some buffer, none)
  | moveIn data off count => do
    let buffer ← deref ptr
    let buffer ← awtBufferMoveIn place buffer data off count
    return (some buffer, none)
  | update count => do
    let buffer ← deref ptr
    let buffer ← awtBufferUpdate buffer count
    return (some buffer, none)
  | moveOut data off count => do
    let buffer ← deref ptr
    let data ← awtBufferMoveOut buffer data off count
    return (some buffer, some data)

def runAll (place : Place) : Option AWTBuffer → List BufferCall → LavfiM (Option AWTBuffer × List (List CFloat))
  | ptr, [] => return (ptr, [])
  | ptr, call :: calls => do
    let (ptr, slice) ← call.run place ptr
    let (ptr, slices) ← runAll place ptr calls
    return (ptr, slice.toList ++ slices)

/-- The queue after a call; there is none before the first `create`. -/
def queue (held : Option (List CFloat)) : BufferCall → Option (List CFloat)
  | create _ => some (held.getD [])
  | moveIn data off count => held.map (· ++ (data.drop off).take count)
  | update count => held.map (·.drop count)
  | moveOut _ _ _ => held

/-- What `move_out` is to leave in `data`. -/
def slice (held : Option (List CFloat)) : BufferCall → Option (List CFloat)
  | moveOut data off count => held.map fun held => (held.drop off).take count ++ data.drop count
  | _ => none

/-- Both areas of a copy have the samples, what is held stays below 2^30 bytes, and
other counts are below `bound`. -/
def admitted (bound : Nat) (held : Option (List CFloat)) : BufferCall → Bool
  | create initSize => held.isSome ∨ initSize * 4 < 2 ^ 30
  | moveIn data off count => held.any fun held => (held.length + count) * 4 < 2 ^ 30 ∧ off + count ≤ data.length ∧ off < bound
  | update count => held.isSome ∧ count < bound
  | moveOut data off count => held.any fun held => off + count ≤ held.length ∧ count ≤ data.length

def queues (held : Option (List CFloat)) (calls : List BufferCall) : Option (List CFloat) := calls.foldl queue held

def slices : Option (List CFloat) → List BufferCall → List (List CFloat)
  | _, [] => []
  | held, call :: calls => (call.slice held).toList ++ slices (call.queue held) calls

def allAdmitted (bound : Nat) : Option (List CFloat) → List BufferCall → Bool
  | _, [] => true
  | held, call :: calls => call.admitted bound held && allAdmitted bound (call.queue held) calls

end BufferCall

/-- Memory is never refused. -/
def granted : Event → Bool
  | ⟨_, .realloc _ _, answer⟩ => answer.isSome
  | ⟨_, .avMallocz _, allocated⟩ => allocated
  | _ => true

abbrev Granted : Law := fun _ event => granted event

theorem granted_grants : Grants Granted where
  realloc _ _ _ _ := by simp [granted]
  mallocz _ _ _ := by simp [granted]

/-- The bytes `data[0..size)` are the queue, in whole floats and inside the allocation. -/
structure AWTBuffer.Queues (buffer : AWTBuffer) (held : List CFloat) : Prop where
  held : buffer.held = held
  whole : buffer.size % 4 = 0
  nonneg : 0 ≤ buffer.size
  fits : buffer.size ≤ buffer.max
  allocated : buffer.max ≤ (buffer.data.length : Int) * 4

/-- The calls have done to the buffer what they do to the queue. -/
def AnswersQueue (calls : List BufferCall) (exit : Exit Stop (Option AWTBuffer × List (List CFloat))) : Prop :=
  ∃ ptr, exit = .done (ptr, BufferCall.slices none calls) ∧
    Option.Rel (fun held buffer => buffer.Queues held) (BufferCall.queues none calls) ptr

section calls

variable {law : Law} {K : LavfiWorld → Prop} {halt : Stop → LavfiWorld → Prop} {world : LavfiWorld}
  {buffer : AWTBuffer} {place : Place} {held : List CFloat}

/-- A sound buffer with these floats. -/
private structure Stands (floats : List CFloat) (buffer : AWTBuffer) : Prop where
  sound : buffer.Sound
  held : buffer.held = floats

private theorem Stands.queues (stands : Stands held buffer) : buffer.Queues held := by
  have size := stands.sound.size
  have maximum := stands.sound.max
  have fits := buffer.held_fits
  exact ⟨stands.held, by omega, by omega, by omega, by omega⟩

variable {call : BufferCall} {queue : Option (List CFloat)} {ptr : Option AWTBuffer}

/-- A call does to the buffer what it does to the queue. -/
private theorem call_meets (admitted : call.admitted (2 ^ 29) queue) (stands : Option.Rel Stands queue ptr) :
    Meets Granted (call.run place ptr) (fun result _ => result.2 = call.slice queue ∧ Option.Rel Stands (call.queue queue) result.1)
      halt world := by
  have steady : Ignores Granted (fun call => call.allocates) fun _ => True := fun _ _ _ _ _ _ => trivial
  cases call with
  | create initSize =>
    cases stands with
    | some stands => exact Meets.ret ⟨rfl, .some stands⟩
    | none =>
      apply Meets.seq (awtBufferCreate_meets granted_grants steady initSize trivial)
      intro buffer _ ⟨⟨sound, held, _⟩, _⟩
      exact Meets.ret ⟨rfl, .some ⟨sound, held⟩⟩
  | moveIn data off count =>
    cases stands with
    | none => cases admitted
    | @some held buffer stands =>
      obtain ⟨small, inside, most⟩ := of_decide_eq_true admitted
      apply Meets.bind (Meets.ret _)
      have grows := stands.sound.growsInInt (stands.held ▸ small)
      apply Meets.seq (awtBufferMoveIn_meets granted_grants steady stands.sound grows most inside trivial)
      intro filled _ ⟨result, _⟩
      exact Meets.ret ⟨rfl, .some ⟨result.sound, by rw [result.held, stands.held]⟩⟩
  | update count =>
    cases stands with
    | none => cases admitted
    | @some held buffer stands =>
      obtain ⟨_, most⟩ := of_decide_eq_true admitted
      obtain ⟨updated, ok, sound, left⟩ := awtBufferUpdate_ok stands.sound most
      apply Meets.bind (Meets.ret _)
      rw [ok]
      exact Meets.ret ⟨rfl, .some ⟨sound, by rw [left, stands.held]⟩⟩
  | moveOut data off count =>
    cases stands with
    | none => cases admitted
    | @some held buffer stands =>
      obtain ⟨within, room⟩ := of_decide_eq_true admitted
      unfold BufferCall.run deref
      dsimp only
      rw [Program.pure_bind, awtBufferMoveOut_ok stands.sound (stands.held ▸ within) room, stands.held]
      exact Meets.ret ⟨rfl, .some stands⟩

private theorem calls_meet {calls : List BufferCall} (admitted : BufferCall.allAdmitted (2 ^ 29) queue calls)
    (stands : Option.Rel Stands queue ptr) :
    Meets Granted (BufferCall.runAll place ptr calls) (fun result _ => result.2 = BufferCall.slices queue calls ∧
      Option.Rel Stands (BufferCall.queues queue calls) result.1) (fun _ _ => False) world := by
  induction calls generalizing queue ptr world with
  | nil => exact Meets.ret ⟨rfl, stands⟩
  | cons call calls ih =>
    obtain ⟨first, others⟩ := (Bool.and_eq_true _ _).mp admitted
    apply Meets.seq (call_meets first stands)
    rintro ⟨ptr, slice⟩ middle ⟨rfl, stands⟩
    apply Meets.seq (ih others stands)
    rintro ⟨ptr, slices⟩ final ⟨rfl, stands⟩
    exact Meets.ret ⟨rfl, stands⟩

end calls

/-- Whatever calls are made on a new buffer, it is the queue that they make of nothing. -/
theorem buffer_is_queue (place : Place) (calls : List BufferCall) (admitted : BufferCall.allAdmitted (2 ^ 29) none calls)
    (oracle : Oracle Surroundings AWTContext) (world : LavfiWorld)
    (granted : Lawful Granted ((BufferCall.runAll place none calls).run oracle world).2.trace) :
    AnswersQueue calls ((BufferCall.runAll place none calls).run oracle world).1 := by
  have meets : Meets Granted (BufferCall.runAll place none calls) _ _ world := calls_meet admitted .none
  have reached := meets oracle granted
  cases executed : (BufferCall.runAll place none calls).run oracle world with
  | mk exit final =>
    rw [executed] at reached
    cases exit with
    | stop why => exact reached.elim
    | done value =>
      obtain ⟨ptr, slices⟩ := value
      obtain ⟨rfl, stands⟩ := reached
      refine ⟨ptr, rfl, ?_⟩
      generalize BufferCall.queues none calls = queue at stands ⊢
      cases stands with
      | none => exact .none
      | some stands => exact .some stands.queues

/-- One sample goes in, and 2^30 are to be dropped. -/
def dropsMore : List BufferCall := [.create 1, .moveIn [7] 0 1, .update (2 ^ 30)]

/-- They are 2^32 bytes, of which an `int` keeps none. An offset of `move_in` loses as much. -/
theorem drops_nothing :
    let run := (BufferCall.runAll (.input 0) none dropsMore).run ({} : Script).surroundings ⟨unconfigured, []⟩
    BufferCall.allAdmitted (2 ^ 31) none dropsMore ∧ Lawful Granted run.2.trace ∧ ¬ AnswersQueue dropsMore run.1 ∧
      ∀ place buffer data off count, awtBufferMoveIn place buffer data (off + 2 ^ 30) count =
        awtBufferMoveIn place buffer data off count := by
  intro run
  refine ⟨by decide +kernel, by decide +kernel, ?_, fun place buffer data off count => ?_⟩
  · intro ⟨ptr, ended, queues⟩
    have kept : run.1 = .done (some ⟨[7], 4, 4⟩, []) := by decide +kernel
    cases kept.symm.trans ended
    cases queues with
    | some queues => exact absurd queues.held (by decide)
  · unfold awtBufferMoveIn
    rw [awtBufferSize_wraps]

/-- Samples go in twice, some are dropped, and the rest is read. -/
def twoSlices : List BufferCall := [.create 1, .moveIn [1, 2] 0 2, .moveIn [3, 4] 1 1, .update 1, .moveOut [0, 0, 0] 0 2]

theorem two_slices_queue :
    AnswersQueue twoSlices ((BufferCall.runAll (.input 0) none twoSlices).run ({} : Script).surroundings ⟨unconfigured, []⟩).1 :=
  buffer_is_queue (.input 0) twoSlices (by decide +kernel) _ _ (by decide +kernel)

end Awt.Lavfi
