import Mathlib.Data.Fintype.Basic
import Awt.Slot

/-! Threads that share a slot: a freed context is left alone exactly when no other call
is still using it when it is freed, and none reads the slot before it is cleared. -/

namespace Awt

/-- The steps that access the memory of the context. -/
def Move.touches : Move → Bool
  | .lock | .unlock | .setUp _ | .checkRunning | .packet _ | .callback | .finish
  | .clearRunning | .release | .free => true
  | _ => false

/-- Positions of a thread that still has to access the context whose address it read. -/
def Pc.holds : Pc → Bool
  | .execTest awt | .closeTest awt => awt
  | .execLock | .runRead | .runSetup | .runLoop | .runPacket | .runEnd | .execUnlock
  | .closeRunning | .closeLock | .closeRelease | .closeUnlock | .closeFree | .crashed => true
  | _ => false

/-- Positions of an `awt_close` that has freed the context. -/
def Pc.freed : Pc → Bool
  | .closeClear => true
  | .closeReturn awt => awt
  | _ => false

namespace Shared

variable {Thread : Type}

/-- What each step should be: it leaves a freed context alone, the context is freed
once, and nothing is detected for a caller whose `awt_close` has returned. -/
def Safe (shared : Shared Thread) (label : Thread × Move) : Prop :=
  (label.2.touches → shared.frees = 0) ∧ shared.frees ≤ 1 ∧ (label.2 = .callback → ¬ shared.closed)

/-- The context is freed when no other call holds it, and the slot is not read while it
points to freed memory. -/
def Orderly (shared : Shared Thread) (label : Thread × Move) : Prop :=
  (label.2 = .free → ∀ other, other ≠ label.1 → ¬ (shared.pc other).holds) ∧
    (label.2 = .readSlot → shared.slot → shared.frees = 0)

section Next

variable {shared : Shared Thread} {pc after : Pc} {move : Move}

/-- A context is held from the read of the slot on. -/
theorem next_takes (moved : shared.next pc move = some after) (holds : after.holds) :
    pc.holds ∨ move = .readSlot ∧ shared.slot := by
  revert moved
  fun_cases next <;> intro moved <;> cases moved <;> simp_all [Pc.holds]

/-- A thread lets go of the context with an access to it. -/
theorem next_lets_go (moved : shared.next pc move = some after) (holds : pc.holds) :
    after.holds ∨ move.touches := by
  revert moved
  fun_cases next <;> intro moved <;> cases moved <;> simp_all [Pc.holds, Move.touches]

theorem next_touches (moved : shared.next pc move = some after) (touches : move.touches) : pc.holds := by
  revert moved
  fun_cases next <;> intro moved <;> cases moved <;> simp_all [Pc.holds, Move.touches]

theorem next_freed (moved : shared.next pc move = some after) (freed : after.freed) :
    pc.freed ∨ move = .free := by
  revert moved
  fun_cases next <;> intro moved <;> cases moved <;> simp_all [Pc.freed]

theorem next_free (moved : shared.next pc .free = some after) : ¬ after.holds := by
  cases pc <;> simp [next] at moved
  subst moved
  simp [Pc.holds]

theorem next_clear (moved : shared.next pc .clearSlot = some after) : pc.freed := by
  cases pc <;> simp [next] at moved
  rfl

theorem next_read (moved : shared.next pc .readSlot = some after) (set : shared.slot) : after.holds := by
  cases pc <;> simp [next, set] at moved <;> subst moved <;> rfl

end Next

/-- What one step does to the shared state: its thread goes on, and the others stay. -/
structure Takes (shared : Shared Thread) (thread : Thread) (move : Move) (after : Shared Thread) : Prop where
  moved : shared.next (shared.pc thread) move = some (after.pc thread)
  others : ∀ other, other ≠ thread → after.pc other = shared.pc other
  frees : after.frees = shared.frees + if move = .free then 1 else 0
  slot : after.slot = (shared.slot && !decide (move = .clearSlot))
  closed : after.closed → shared.closed ∨ shared.pc thread = .closeReturn true

section Steps

variable {shared after : Shared Thread} {thread : Thread} {move : Move}
  {label : Thread × Move}

namespace Takes

theorem grows (takes : Takes shared thread move after) : shared.frees ≤ after.frees := by
  have := takes.frees
  omega

theorem same (takes : Takes shared thread move after) (other : move ≠ .free) : after.frees = shared.frees := by
  simpa [other] using takes.frees

/-- Who holds the context after a step held it before, or has just read its address. -/
theorem holder (takes : Takes shared thread move after) {other : Thread} (holds : (after.pc other).holds) :
    (shared.pc other).holds ∨ move = .readSlot ∧ shared.slot := by
  by_cases own : other = thread
  · subst own
    exact next_takes takes.moved holds
  · exact .inl (takes.others other own ▸ holds)

/-- Who holds the context before a step holds it afterwards, or the step accesses it. -/
theorem kept (takes : Takes shared thread move after) {other : Thread} (holds : (shared.pc other).holds) :
    (after.pc other).holds ∨ move.touches := by
  by_cases own : other = thread
  · subst own
    exact next_lets_go takes.moved holds
  · exact .inl ((takes.others other own).symm ▸ holds)

theorem freer (takes : Takes shared thread move after) (other : move ≠ .free) {closer : Thread}
    (freed : (after.pc closer).freed) : (shared.pc closer).freed := by
  by_cases own : closer = thread
  · subst own
    exact (next_freed takes.moved freed).resolve_right other
  · exact takes.others closer own ▸ freed

end Takes

/-- No thread will access the context that was freed. -/
def Forgotten (shared : Shared Thread) : Prop :=
  0 < shared.frees → ∀ thread, ¬ (shared.pc thread).holds

/-- The state of a context while all steps are orderly: whatever follows its being freed
has indeed been preceded by it. -/
structure Tidy (shared : Shared Thread) : Prop where
  once : shared.frees ≤ 1
  forgotten : Forgotten shared
  freed : ∀ thread, (shared.pc thread).freed → 0 < shared.frees
  cleared : ¬ shared.slot → 0 < shared.frees
  closed : shared.closed → 0 < shared.frees

namespace Tidy

theorem opened : Tidy (opened : Shared Thread) := by
  constructor <;> simp [Shared.opened, Forgotten, Pc.freed]

/-- A thread that holds the context finds it not freed. -/
theorem intact (tidy : Tidy shared) (holds : (shared.pc thread).holds) : shared.frees = 0 := by
  by_contra freed
  exact tidy.forgotten (Nat.pos_of_ne_zero freed) thread holds

theorem safe (tidy : Tidy shared) (takes : Takes shared thread move after) : Safe shared (thread, move) := by
  have intact (touches : move.touches) : shared.frees = 0 := tidy.intact (next_touches takes.moved touches)
  refine ⟨intact, tidy.once, fun detects closed => ?_⟩
  have unfreed : shared.frees = 0 := intact (by simp_all [Move.touches])
  have freed : 0 < shared.frees := tidy.closed closed
  omega

/-- The thread that frees the context was the last one to hold it. -/
theorem free (tidy : Tidy shared) (takes : Takes shared thread .free after)
    (alone : ∀ other, other ≠ thread → ¬ (shared.pc other).holds) : Tidy after := by
  have unfreed : shared.frees = 0 := tidy.intact (next_touches takes.moved rfl)
  have freed : after.frees = 1 := by simp [takes.frees, unfreed]
  constructor
  · omega
  · intro _ other
    by_cases own : other = thread
    · subst own
      exact next_free takes.moved
    · rw [takes.others other own]
      exact alone other own
  all_goals
    intros
    omega

theorem step (tidy : Tidy shared) (takes : Takes shared thread move after) (other : move ≠ .free)
    (fresh : move = .readSlot → shared.slot → shared.frees = 0) : Tidy after := by
  have same : after.frees = shared.frees := takes.same other
  constructor
  · rw [same]
    exact tidy.once
  · intro freed holder holds
    rw [same] at freed
    rcases takes.holder holds with held | ⟨reads, set⟩
    · exact tidy.forgotten freed holder held
    · have unfreed : shared.frees = 0 := fresh reads set
      omega
  · intro closer freed
    rw [same]
    exact tidy.freed closer (takes.freer other freed)
  · intro cleared
    rw [same]
    by_cases clears : move = .clearSlot
    · subst clears
      exact tidy.freed thread (next_clear takes.moved)
    · apply tidy.cleared
      simpa [takes.slot, clears] using cleared
  · intro closed
    rw [same]
    rcases takes.closed closed with before | returns
    · exact tidy.closed before
    · exact tidy.freed thread (by rw [returns]; rfl)

end Tidy

variable [DecidableEq Thread]

theorem step_takes (stepped : shared.step (thread, move) = some after) : Takes shared thread move after := by
  obtain ⟨pc, moved, rfl⟩ := Option.map_eq_some_iff.mp stepped
  constructor
  · simp [goto, moved]
  · intro other ne
    cases move <;> simp [goto, write, ne]
  · cases move <;> rfl
  · cases move <;> simp [goto, write]
  · intro closed
    cases move <;> simp_all [goto, write]

theorem orderly_step (tidy : Tidy shared) (orderly : Orderly shared label) (stepped : shared.step label = some after) :
    Safe shared label ∧ Tidy after := by
  obtain ⟨thread, move⟩ := label
  have takes : Takes shared thread move after := step_takes stepped
  constructor
  · exact tidy.safe takes
  · by_cases frees : move = .free
    · subst frees
      exact tidy.free takes (orderly.1 rfl)
    · exact tidy.step takes frees orderly.2

/-- Told from the end, where nobody holds the context any more. -/
theorem safe_step (forgotten : Forgotten after) (safe : Safe shared label) (stepped : shared.step label = some after) :
    Orderly shared label ∧ Forgotten shared := by
  obtain ⟨thread, move⟩ := label
  have takes : Takes shared thread move after := step_takes stepped
  have grows : shared.frees ≤ after.frees := takes.grows
  refine ⟨⟨?_, ?_⟩, ?_⟩
  · intro frees other ne holds
    have freed : 0 < after.frees := by simp [takes.frees, show move = .free from frees]
    rw [← takes.others other ne] at holds
    exact forgotten freed other holds
  · intro reads set
    by_contra freed
    have moved := takes.moved
    rw [show move = .readSlot from reads] at moved
    exact forgotten (by omega) thread (next_read moved set)
  · intro freed holder holds
    rcases takes.kept holds with still | touches
    · exact forgotten (by omega) holder still
    · have unfreed : shared.frees = 0 := safe.1 touches
      omega

/-- Any number of threads, any calls and any order of their steps. -/
theorem safe_iff_orderly {final : Shared Thread} {moves : List (Thread × Move)}
    (runs : Machine.run Shared.step opened moves = some final) :
    (Machine.Throughout Shared.step Orderly opened moves →
      Machine.Throughout Shared.step Safe opened moves ∧ final.frees ≤ 1) ∧
    ((∀ thread, final.pc thread = .idle) → Machine.Throughout Shared.step Safe opened moves →
      Machine.Throughout Shared.step Orderly opened moves) := by
  constructor
  · intro orderly
    obtain ⟨safe, tidy⟩ := Machine.forward (fun _ _ _ => orderly_step) runs Tidy.opened orderly
    exact ⟨safe, tidy.once⟩
  · intro idle safe
    have forgotten : Forgotten final := fun _ thread => by simp [idle thread, Pc.holds]
    exact (Machine.backward (fun _ _ _ => safe_step) runs forgotten safe).1

end Steps

instance [Fintype Thread] [DecidableEq Thread] (shared : Shared Thread) (label : Thread × Move) :
    Decidable (Safe shared label) :=
  inferInstanceAs (Decidable (_ ∧ _))

instance [Fintype Thread] [DecidableEq Thread] (shared : Shared Thread) (label : Thread × Move) :
    Decidable (Orderly shared label) :=
  inferInstanceAs (Decidable (_ ∧ _))

/-- The loop of `main` has read the slot when the thread that checks its counter closes
the context, and locks the context after it was freed. -/
def checkerCloses : List (Fin 2 × Move) :=
  [(0, .callExec), (0, .readSlot), (0, .testNull),
    (1, .callClose), (1, .readSlot), (1, .testNull), (1, .clearRunning), (1, .lock), (1, .release), (1, .unlock),
    (1, .free), (0, .lock)]

theorem lock_in_freed_context :
    (Machine.run Shared.step opened checkerCloses).isSome ∧
      ¬ Machine.Throughout Shared.step Safe opened checkerCloses := by
  decide +kernel

/-- The checker closes the context during a run, and waits for the run to end. -/
def closedWhileRunning : List (Fin 2 × Move) :=
  [(0, .callExec), (0, .readSlot), (0, .testNull), (0, .lock), (0, .readSlot), (0, .setUp true), (0, .checkRunning),
    (1, .callClose), (1, .readSlot), (1, .testNull), (1, .clearRunning),
    (0, .callback), (0, .packet true), (0, .checkRunning), (0, .finish), (0, .unlock), (0, .returns),
    (1, .lock), (1, .release), (1, .unlock), (1, .free), (1, .clearSlot), (1, .returns),
    (0, .callExec), (0, .readSlot), (0, .testNull), (0, .returns)]

theorem close_waits_for_run : ∃ final : Shared (Fin 2),
    Machine.run Shared.step opened closedWhileRunning = some final ∧
      (Machine.Throughout Shared.step Safe opened closedWhileRunning ∧ final.frees ≤ 1) ∧
      (Machine.Throughout Shared.step Safe opened closedWhileRunning →
        Machine.Throughout Shared.step Orderly opened closedWhileRunning) :=
  ⟨_, rfl, (safe_iff_orderly rfl).1 (by decide +kernel), (safe_iff_orderly rfl).2 (by decide +kernel)⟩

end Shared
end Awt
