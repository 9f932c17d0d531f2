import Mathlib.Logic.Function.Basic
import Awt.Lib.Machine

/-! `awt_exec` and `awt_close` as sequences of atomic steps that any number of threads
take on one slot and the context it points to. -/

namespace Awt

/-- Where a thread stands; the flag of a local `awt` tells whether it is not NULL. -/
inductive Pc where
  | idle
  | execRead | execTest (awt : Bool) | execLock
  | runRead | runSetup | runLoop | runPacket | runEnd
  | execUnlock | execReturn
  | closeRead | closeTest (awt : Bool) | closeRunning | closeLock | closeRelease | closeUnlock
  | closeFree | closeClear | closeReturn (awt : Bool)
  | crashed
  deriving DecidableEq

/-- `setUp` stands for everything in `awt_run` before its packet loop and tells whether
the loop is entered, `packet` for a turn of the loop and whether it goes on. -/
inductive Move where
  | callExec | callClose
  | readSlot | testNull
  | lock | unlock
  | setUp (entered : Bool) | checkRunning | packet (again : Bool) | callback | finish
  | clearRunning | release | free | clearSlot
  | returns
  deriving DecidableEq

/-- `slot` tells whether `*awt_ptr` is not NULL, `lock` who holds `awt->lock`; `closed`
notes that an `awt_close` of the context has returned. -/
structure Shared (Thread : Type) where
  slot : Bool
  lock : Option Thread
  running : Bool
  frees : Nat
  closed : Bool
  pc : Thread → Pc

namespace Shared

variable {Thread : Type}

def opened : Shared Thread where
  slot := true
  lock := none
  running := true
  frees := 0
  closed := false
  pc := fun _ => .idle

/-- Where a move takes a thread that can make it. The lock blocks while it is held. What
is found in memory that was freed is not guaranteed: it is taken to be what was there, so
that a run can be followed to the access. -/
def next (shared : Shared Thread) : Pc → Move → Option Pc
  | .idle, .callExec => some .execRead
  | .idle, .callClose => some .closeRead
  | .execRead, .readSlot => some (.execTest shared.slot)
  | .execTest true, .testNull => some .execLock
  | .execTest false, .testNull => some .execReturn
  | .execLock, .lock => if shared.lock.isNone then some .runRead else none
  -- `awt_run` reads the slot again, and does not test what it read
  | .runRead, .readSlot => if shared.slot then some .runSetup else some .crashed
  | .runSetup, .setUp true => some .runLoop
  | .runSetup, .setUp false => some .runEnd
  | .runLoop, .checkRunning => if shared.running then some .runPacket else some .runEnd
  | .runPacket, .callback => some .runPacket
  | .runPacket, .packet true => some .runLoop
  | .runPacket, .packet false => some .runEnd
  | .runEnd, .finish => some .execUnlock
  | .execUnlock, .unlock => some .execReturn
  | .execReturn, .returns => some .idle
  | .closeRead, .readSlot => some (.closeTest shared.slot)
  | .closeTest true, .testNull => some .closeRunning
  | .closeTest false, .testNull => some (.closeReturn false)
  | .closeRunning, .clearRunning => some .closeLock
  | .closeLock, .lock => if shared.lock.isNone then some .closeRelease else none
  | .closeRelease, .release => some .closeUnlock
  | .closeUnlock, .unlock => some .closeFree
  | .closeFree, .free => some .closeClear
  | .closeClear, .clearSlot => some (.closeReturn true)
  | .closeReturn _, .returns => some .idle
  | _, _ => none

/-- What a move writes to the slot and to the context. -/
def write (shared : Shared Thread) (thread : Thread) : Move → Shared Thread
  | .lock => { shared with lock := some thread }
  | .unlock => { shared with lock := none }
  | .clearRunning => { shared with running := false }
  | .free => { shared with frees := shared.frees + 1 }
  | .clearSlot => { shared with slot := false }
  | .returns => { shared with closed := shared.closed || shared.pc thread = .closeReturn true }
  | _ => shared

variable [DecidableEq Thread]

def goto (shared : Shared Thread) (thread : Thread) (pc : Pc) : Shared Thread :=
  { shared with pc := Function.update shared.pc thread pc }

def step (shared : Shared Thread) : Thread × Move → Option (Shared Thread)
  | (thread, move) => (shared.next (shared.pc thread) move).map ((shared.write thread move).goto thread)

end Shared
end Awt
