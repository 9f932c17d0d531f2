import Awt.Proofs.SlotRaces

/-! Orderly calls on a slot take turns: the lock lets one thread in at a time, none waits for
a call that cannot go on, and a context that is told to stop decodes no further packet. -/

namespace Awt

/-- Positions of a thread that has the lock. -/
def Pc.inside : Pc → Bool
  | .runRead | .runSetup | .runLoop | .runPacket | .runEnd | .execUnlock | .closeRelease | .closeUnlock | .crashed => true
  | _ => false

/-- The steps that decode, and tell the caller what was found. -/
def Move.works : Move → Bool
  | .packet _ | .callback => true
  | _ => false

namespace Shared

variable {Thread : Type}

section Next

variable {shared : Shared Thread} {pc after : Pc} {move : Move}

theorem next_inside (moved : shared.next pc move = some after) :
    move = .lock ∧ shared.lock = none ∧ ¬pc.inside ∧ after.inside ∨ move = .unlock ∧ pc.inside ∧ ¬after.inside ∨
      move ≠ .lock ∧ move ≠ .unlock ∧ after.inside = pc.inside := by
  revert moved
  fun_cases next <;> intro moved <;> cases moved <;> simp_all [Pc.inside]

theorem next_works (moved : shared.next pc move = some after) (works : move.works) : pc = .runPacket := by
  revert moved
  fun_cases next <;> intro moved <;> cases moved <;> simp_all [Move.works]

/-- Once the context is to stop, no thread goes on to a packet. -/
theorem next_packet (moved : shared.next pc move = some after) (stopped : shared.running = false) (packet : after = .runPacket) :
    pc = .runPacket ∧ ∀ again, move ≠ .packet again := by
  revert moved
  fun_cases next <;> intro moved <;> cases moved <;> simp_all

/-- Only the lock blocks, and only a crash ends a thread. -/
theorem next_exists (shared : Shared Thread) (pc : Pc) (alive : pc ≠ .crashed) :
    (∃ move, (shared.next pc move).isSome) ∨ ¬pc.inside ∧ shared.lock ≠ none := by
  cases pc with
  | idle => exact .inl ⟨.callExec, rfl⟩
  | execRead | closeRead => exact .inl ⟨.readSlot, rfl⟩
  | execTest awt | closeTest awt => cases awt <;> exact .inl ⟨.testNull, rfl⟩
  | execLock | closeLock =>
    cases lock : shared.lock with
    | none => exact .inl ⟨.lock, by simp [next, lock]⟩
    | some holder => exact .inr ⟨by simp [Pc.inside], by simp⟩
  | runRead => exact .inl ⟨.readSlot, by cases set : shared.slot <;> simp [next, set]⟩
  | runSetup => exact .inl ⟨.setUp true, rfl⟩
  | runLoop => exact .inl ⟨.checkRunning, by cases running : shared.running <;> simp [next, running]⟩
  | runPacket => exact .inl ⟨.packet true, rfl⟩
  | runEnd => exact .inl ⟨.finish, rfl⟩
  | execUnlock | closeUnlock => exact .inl ⟨.unlock, rfl⟩
  | execReturn | closeReturn awt => exact .inl ⟨.returns, rfl⟩
  | closeRunning => exact .inl ⟨.clearRunning, rfl⟩
  | closeRelease => exact .inl ⟨.release, rfl⟩
  | closeFree => exact .inl ⟨.free, rfl⟩
  | closeClear => exact .inl ⟨.clearSlot, rfl⟩
  | crashed => exact absurd rfl alive

theorem next_crashed (moved : shared.next pc move = some .crashed) : pc = .runRead ∧ ¬shared.slot := by
  revert moved
  fun_cases next <;> intro moved <;> simp_all

end Next

/-- The lock is held by whoever is inside. -/
def Locked (shared : Shared Thread) : Prop := ∀ thread, (shared.pc thread).inside ↔ shared.lock = some thread

section Steps

variable {shared after final : Shared Thread} {thread : Thread} {move : Move} {label : Thread × Move} {moves : List (Thread × Move)}

theorem Locked.alone (locked : Locked shared) {other : Thread} (inside : (shared.pc thread).inside)
    (also : (shared.pc other).inside) : thread = other := by
  have first := (locked thread).mp inside
  have second := (locked other).mp also
  exact Option.some_inj.mp (first.symm.trans second)

theorem Locked.opened : Locked (opened : Shared Thread) := by
  intro thread
  simp [Shared.opened, Pc.inside]

variable [DecidableEq Thread]

theorem step_lock (stepped : shared.step (thread, move) = some after) :
    after.lock = if move = .lock then some thread else if move = .unlock then none else shared.lock := by
  obtain ⟨pc, -, rfl⟩ := Option.map_eq_some_iff.mp stepped
  cases move <;> rfl

theorem step_running (stepped : shared.step (thread, move) = some after) (stopped : shared.running = false) :
    after.running = false := by
  obtain ⟨pc, -, rfl⟩ := Option.map_eq_some_iff.mp stepped
  cases move <;> simp [write, goto, stopped]

theorem Locked.step (locked : Locked shared) (stepped : shared.step (thread, move) = some after) : Locked after := by
  have takes : Takes shared thread move after := step_takes stepped
  have lock := step_lock stepped
  intro other
  by_cases own : other = thread
  · subst own
    have held := locked other
    rcases next_inside takes.moved with ⟨rfl, free, -, inside⟩ | ⟨rfl, -, outside⟩ | ⟨neither, nor, same⟩
    · simp [lock, inside]
    · simp [lock, outside]
    · rw [lock, if_neg neither, if_neg nor, same]
      exact held
  · rw [takes.others other own, locked other]
    rcases next_inside takes.moved with ⟨rfl, free, -, -⟩ | ⟨rfl, inside, -⟩ | ⟨neither, nor, -⟩
    · simp [lock, free, Ne.symm own]
    · simp [lock, (locked thread).mp inside, Ne.symm own]
    · rw [lock, if_neg neither, if_neg nor]

theorem locked_of_run (runs : Machine.run Shared.step Shared.opened moves = some shared) : Locked shared := by
  have keeps : ∀ (state : Shared Thread) label next, Locked state → Shared.step state label = some next → True ∧ Locked next :=
    fun _ _ _ locked stepped => ⟨trivial, locked.step stepped⟩
  exact (Machine.always keeps runs Locked.opened).2

/-- Nothing is decoded any more: the context is to stop, and no thread is at a packet. -/
structure Stopped (shared : Shared Thread) : Prop where
  locked : Locked shared
  stopped : shared.running = false
  rests : ∀ thread, shared.pc thread ≠ .runPacket

theorem Stopped.step (rest : Stopped shared) (stepped : shared.step label = some after) : ¬label.2.works ∧ Stopped after := by
  obtain ⟨thread, move⟩ := label
  have takes : Takes shared thread move after := step_takes stepped
  refine ⟨fun works => rest.rests thread (next_works takes.moved works), rest.locked.step stepped, step_running stepped rest.stopped, ?_⟩
  intro other packet
  by_cases own : other = thread
  · subst own
    exact rest.rests other (next_packet takes.moved rest.stopped packet).1
  · rw [takes.others other own] at packet
    exact rest.rests other packet

/-- The packet that a thread is at is the last one. -/
theorem stopped_of_packet {again : Bool} (locked : Locked shared) (stopped : shared.running = false)
    (stepped : shared.step (thread, .packet again) = some after) : Stopped after := by
  have takes : Takes shared thread (.packet again) after := step_takes stepped
  have working : shared.pc thread = .runPacket := next_works takes.moved rfl
  refine ⟨locked.step stepped, step_running stepped stopped, ?_⟩
  intro other packet
  by_cases own : other = thread
  · subst own
    exact (next_packet takes.moved stopped packet).2 again rfl
  · rw [takes.others other own] at packet
    exact own (locked.alone (by rw [packet]; rfl) (by rw [working]; rfl))

/-- While the calls are orderly, whatever the threads were doing when the context was told
to stop: once one of them ends a packet, nothing is decoded and no caller is told of a
watermark any more. No step of the run accesses the context after it was freed. -/
theorem stop_ends_work {before first rest : List (Thread × Move)} {again : Bool}
    (runs : Machine.run Shared.step Shared.opened before = some shared) (stopped : shared.running = false)
    (further : Machine.run Shared.step shared (first ++ (thread, .packet again) :: rest) = some final)
    (orderly : Machine.Throughout Shared.step Orderly Shared.opened (before ++ (first ++ (thread, .packet again) :: rest))) :
    Machine.Throughout Shared.step Safe Shared.opened (before ++ (first ++ (thread, .packet again) :: rest)) ∧
      ∀ label ∈ rest, ¬label.2.works := by
  have whole : Machine.run Shared.step Shared.opened (before ++ (first ++ (thread, .packet again) :: rest)) = some final := by
    rw [Machine.run_append, runs]
    exact further
  refine ⟨(Machine.forward (fun _ _ _ => orderly_step) whole Tidy.opened orderly).1, ?_⟩
  rw [Machine.run_append] at further
  obtain ⟨middle, start, further⟩ := Option.bind_eq_some_iff.mp further
  obtain ⟨after, stepped, further⟩ := Option.bind_eq_some_iff.mp further
  have keeps : ∀ (state : Shared Thread) label next, Locked state ∧ state.running = false → Shared.step state label = some next →
      True ∧ Locked next ∧ next.running = false :=
    fun _ _ _ held stepped => ⟨trivial, held.1.step stepped, step_running stepped held.2⟩
  obtain ⟨-, locked, still⟩ := Machine.always keeps start ⟨locked_of_run runs, stopped⟩
  have rests := stopped_of_packet locked still stepped
  exact (Machine.always (fun _ _ _ rests stepped => Stopped.step rests stepped) further rests).1

theorem stop_ends_work_once : ∃ shared final : Shared (Fin 2),
    Machine.run Shared.step Shared.opened (closedWhileRunning.take 11) = some shared ∧ shared.running = false ∧
      Machine.run Shared.step shared (closedWhileRunning.drop 11) = some final ∧
      Machine.Throughout Shared.step Safe (Shared.opened : Shared (Fin 2)) closedWhileRunning ∧
      ∀ label ∈ closedWhileRunning.drop 13, ¬label.2.works := by
  obtain ⟨shared, runs, stopped, final, further⟩ : ∃ shared : Shared (Fin 2),
      Machine.run Shared.step Shared.opened (closedWhileRunning.take 11) = some shared ∧ shared.running = false ∧ ∃ final,
        Machine.run Shared.step shared ([(0, .callback)] ++ (0, .packet true) :: closedWhileRunning.drop 13) = some final :=
    ⟨_, rfl, rfl, _, rfl⟩
  have orderly : Machine.Throughout Shared.step Orderly (Shared.opened : Shared (Fin 2)) closedWhileRunning := by decide +kernel
  exact ⟨shared, final, runs, stopped, further, stop_ends_work runs stopped further orderly⟩

/-- Threads of orderly calls do not crash. -/
structure Alive (shared : Shared Thread) : Prop where
  tidy : Tidy shared
  locked : Locked shared
  alive : ∀ thread, shared.pc thread ≠ .crashed

theorem Alive.step (lives : Alive shared) (orderly : Orderly shared label) (stepped : shared.step label = some after) : Alive after := by
  refine ⟨(orderly_step lives.tidy orderly stepped).2, lives.locked.step stepped, ?_⟩
  obtain ⟨thread, move⟩ := label
  have takes : Takes shared thread move after := step_takes stepped
  intro other crashed
  by_cases own : other = thread
  · subst own
    have moved := takes.moved
    rw [crashed] at moved
    obtain ⟨reads, cleared⟩ := next_crashed moved
    have holds : (shared.pc other).holds := by rw [reads]; rfl
    have unfreed : shared.frees = 0 := lives.tidy.intact holds
    have freed : 0 < shared.frees := lives.tidy.cleared cleared
    omega
  · rw [takes.others other own] at crashed
    exact lives.alive other crashed

theorem Alive.goes_on (lives : Alive shared) (thread : Thread) :
    (∃ move, (shared.step (thread, move)).isSome) ∨
      ∃ holder, holder ≠ thread ∧ shared.lock = some holder ∧ ∃ move, (shared.step (holder, move)).isSome := by
  have moves : ∀ thread, (∃ move, (shared.next (shared.pc thread) move).isSome) → ∃ move, (shared.step (thread, move)).isSome := by
    rintro thread ⟨move, moves⟩
    exact ⟨move, by simpa [Shared.step] using moves⟩
  rcases next_exists shared (shared.pc thread) (lives.alive thread) with goes | ⟨outside, taken⟩
  · exact .inl (moves thread goes)
  · obtain ⟨holder, held⟩ := Option.ne_none_iff_exists'.mp taken
    have inside : (shared.pc holder).inside := (lives.locked holder).mpr held
    have other : holder ≠ thread := by
      rintro rfl
      exact outside inside
    refine .inr ⟨holder, other, held, moves holder ?_⟩
    rcases next_exists shared (shared.pc holder) (lives.alive holder) with goes | ⟨outside', -⟩
    · exact goes
    · exact absurd inside outside'

/-- While the calls are orderly, one of them at a time is between the lock and the unlock,
no thread crashes, and one that cannot go on waits for another one that can. -/
theorem calls_take_turns (runs : Machine.run Shared.step Shared.opened moves = some shared)
    (orderly : Machine.Throughout Shared.step Orderly Shared.opened moves) (thread : Thread) :
    (∀ other, (shared.pc thread).inside → (shared.pc other).inside → thread = other) ∧
      shared.pc thread ≠ .crashed ∧
      ((∃ move, (shared.step (thread, move)).isSome) ∨
        ∃ holder, holder ≠ thread ∧ shared.lock = some holder ∧ ∃ move, (shared.step (holder, move)).isSome) := by
  have start : Alive (Shared.opened : Shared Thread) := ⟨Tidy.opened, Locked.opened, fun _ => by simp [Shared.opened]⟩
  have keeps : ∀ (state : Shared Thread) label next, Alive state → Orderly state label → Shared.step state label = some next →
      True ∧ Alive next :=
    fun _ _ _ lives orderly stepped => ⟨trivial, lives.step orderly stepped⟩
  have lives := (Machine.forward keeps runs start orderly).2
  exact ⟨fun _ => lives.locked.alone, lives.alive thread, lives.goes_on thread⟩

/-- The thread that closes the context waits for the lock of the one that runs. -/
theorem calls_take_turns_closing : ∃ shared : Shared (Fin 2),
    Machine.run Shared.step Shared.opened (closedWhileRunning.take 11) = some shared ∧
      ((∃ move, (shared.step (1, move)).isSome) ∨
        ∃ holder, holder ≠ 1 ∧ shared.lock = some holder ∧ ∃ move, (shared.step (holder, move)).isSome) := by
  have orderly : Machine.Throughout Shared.step Orderly (Shared.opened : Shared (Fin 2)) (closedWhileRunning.take 11) := by decide +kernel
  obtain ⟨-, -, goes⟩ := calls_take_turns rfl orderly 1
  exact ⟨_, rfl, goes⟩

end Steps

end Shared
end Awt
