import Awt.Lib.OracleProgram

/-! Observers: values folded from a history that no program keeps. A promise about
every entry and a relation between the folded value and the state turn assertions
about whole histories into facts about one call. -/

namespace OracleProgram

variable {I : Interface} {σ ε α γ : Type}

structure Observer (I : Interface) (σ γ : Type) where
  init : γ
  step : γ → Entry I σ → γ

namespace Observer

variable (observer : Observer I σ γ) {promise : γ → Entry I σ → Prop}

def seen (trace : Trace I σ) : γ := trace.foldl observer.step observer.init

@[simp] theorem seen_concat (trace : Trace I σ) (entry : Entry I σ) :
    observer.seen (trace ++ [entry]) = observer.step (observer.seen trace) entry := by
  simp [seen]

/-- A promise judged against what the observer saw of the past. -/
def law (promise : γ → Entry I σ → Prop) (past : Trace I σ) (entry : Entry I σ) : Prop :=
  promise (observer.seen past) entry

/-- All entries kept the promise, and the observer agrees with the state. -/
structure Tracks (promise : γ → Entry I σ → Prop) (agrees : γ → σ → Prop) (world : World I σ) : Prop where
  kept : Lawful (observer.law promise) world.trace
  agrees : agrees (observer.seen world.trace) world.state

namespace Tracks

variable {observer} {law : Trace I σ → Entry I σ → Prop} {promise : γ → Entry I σ → Prop}
  {agrees other : γ → σ → Prop} {world : World I σ}

theorem init (state : σ) (holds : agrees observer.init state) :
    observer.Tracks promise agrees ⟨state, []⟩ :=
  ⟨Lawful.nil _, holds⟩

theorem weaken (tracks : observer.Tracks promise agrees world)
    (implies : agrees (observer.seen world.trace) world.state → other (observer.seen world.trace) world.state) :
    observer.Tracks promise other world :=
  ⟨tracks.kept, implies tracks.agrees⟩

theorem update {change : σ → σ} (tracks : observer.Tracks promise agrees world)
    (implies : agrees (observer.seen world.trace) world.state →
      other (observer.seen world.trace) (change world.state)) :
    observer.Tracks promise other (world.update change) :=
  ⟨tracks.kept, implies tracks.agrees⟩

theorem record {request : I.Call} {answer : I.Answer request} (tracks : observer.Tracks promise agrees world)
    (keeps : agrees (observer.seen world.trace) world.state →
      promise (observer.seen world.trace) ⟨world.state, request, answer⟩)
    (implies : agrees (observer.seen world.trace) world.state →
      other (observer.step (observer.seen world.trace) ⟨world.state, request, answer⟩) world.state) :
    observer.Tracks promise other (world.record request answer) :=
  ⟨lawful_concat.mpr ⟨tracks.kept, keeps tracks.agrees⟩,
    (observer.seen_concat _ _).symm ▸ implies tracks.agrees⟩

/-- A call whose answer is stored at once. -/
theorem store {request : I.Call} {answer : I.Answer request} {change : σ → σ} (tracks : observer.Tracks promise agrees world)
    (keeps : agrees (observer.seen world.trace) world.state →
      promise (observer.seen world.trace) ⟨world.state, request, answer⟩)
    (implies : agrees (observer.seen world.trace) world.state →
      other (observer.step (observer.seen world.trace) ⟨world.state, request, answer⟩) (change world.state)) :
    observer.Tracks promise other ((world.record request answer).update change) :=
  ⟨lawful_concat.mpr ⟨tracks.kept, keeps tracks.agrees⟩,
    (observer.seen_concat _ _).symm ▸ implies tracks.agrees⟩

/-- What one call of a kind keeps for any value and state, no call of it can break. -/
theorem ignores {kind : I.Call → Prop}
    (keeps : ∀ value state request answer, kind request → agrees value state →
      promise value ⟨state, request, answer⟩ ∧ agrees (observer.step value ⟨state, request, answer⟩) state) :
    Ignores law kind (observer.Tracks promise agrees) :=
  fun _ member _ tracks _ _ => tracks.record (fun holds => (keeps _ _ _ _ member holds).1)
    (fun holds => (keeps _ _ _ _ member holds).2)

end Tracks
instance [∀ value entry, Decidable (promise value entry)] (past : Trace I σ) (entry : Entry I σ) :
    Decidable (observer.law promise past entry) :=
  inferInstanceAs (Decidable (promise (observer.seen past) entry))

end Observer

/-- Two laws that are broken together, or the second one shortly before the first:
`kept` is known while both hold, `doomed` in between. -/
inductive Together (first second : Trace I σ → Entry I σ → Prop) (kept doomed : Prop) (trace : Trace I σ) : Prop where
  | kept (first : Lawful first trace) (second : Lawful second trace) (holds : kept)
  | doomed (first : Lawful first trace) (second : ¬ Lawful second trace) (holds : doomed)
  | broken (first : ¬ Lawful first trace) (second : ¬ Lawful second trace)

namespace Together

variable {first second : Trace I σ → Entry I σ → Prop} {kept doomed kept' doomed' : Prop} {trace : Trace I σ}
  {entry : Entry I σ}

theorem iff (together : Together first second kept False trace) : Lawful first trace ↔ Lawful second trace := by
  cases together with
  | kept first second => exact iff_of_true first second
  | doomed _ _ holds => exact holds.elim
  | broken first second => exact iff_of_false first second

theorem imp (together : Together first second kept doomed trace) (keeps : kept → kept') (dooms : doomed → doomed') :
    Together first second kept' doomed' trace := by
  cases together with
  | kept first second holds => exact .kept first second (keeps holds)
  | doomed first second holds => exact .doomed first second (dooms holds)
  | broken first second => exact .broken first second

/-- What an entry makes of the two laws. -/
theorem concat (together : Together first second kept doomed trace)
    (keeps : kept → first trace entry ∧ (second trace entry ∧ kept' ∨ ¬ second trace entry ∧ doomed'))
    (dooms : doomed → first trace entry ∧ doomed' ∨ ¬ first trace entry) :
    Together first second kept' doomed' (trace ++ [entry]) := by
  have still {law : Trace I σ → Entry I σ → Prop} (bad : ¬ Lawful law trace) : ¬ Lawful law (trace ++ [entry]) :=
    fun lawful => bad (lawful_concat.mp lawful).1
  cases together with
  | broken first second => exact .broken (still first) (still second)
  | kept first second holds =>
    obtain ⟨obeys, ⟨also, holds⟩ | ⟨bad, holds⟩⟩ := keeps holds
    · exact .kept (lawful_concat.mpr ⟨first, obeys⟩) (lawful_concat.mpr ⟨second, also⟩) holds
    · exact .doomed (lawful_concat.mpr ⟨first, obeys⟩) (fun lawful => bad (lawful_concat.mp lawful).2) holds
  | doomed first second holds =>
    rcases dooms holds with ⟨obeys, holds⟩ | bad
    · exact .doomed (lawful_concat.mpr ⟨first, obeys⟩) (still second) holds
    · exact .broken (fun lawful => bad (lawful_concat.mp lawful).2) (still second)

end Together

/-- The law holds from here on, when `past` is what came before. -/
def Lawful.from (law : Trace I σ → Entry I σ → Prop) (past : Trace I σ) : Trace I σ → Prop
  | [] => True
  | entry :: rest => law past entry ∧ Lawful.from law (past ++ [entry]) rest

theorem lawful_from_iff (law : Trace I σ → Entry I σ → Prop) (past rest : Trace I σ) :
    Lawful law past ∧ Lawful.from law past rest ↔ Lawful law (past ++ rest) := by
  induction rest generalizing past with
  | nil => simp [Lawful.from]
  | cons entry rest ih =>
    rw [Lawful.from, ← and_assoc, ← lawful_concat, ih, List.append_assoc, List.singleton_append]

instance Lawful.decidableFrom (law : Trace I σ → Entry I σ → Prop) [∀ past entry, Decidable (law past entry)] :
    (past rest : Trace I σ) → Decidable (Lawful.from law past rest)
  | _, [] => isTrue trivial
  | past, entry :: rest =>
    have := Lawful.decidableFrom law (past ++ [entry]) rest
    inferInstanceAs (Decidable (law past entry ∧ Lawful.from law (past ++ [entry]) rest))

/-- Whether a given history is lawful can be computed. -/
instance Lawful.decidable (law : Trace I σ → Entry I σ → Prop) [∀ past entry, Decidable (law past entry)]
    (trace : Trace I σ) : Decidable (Lawful law trace) :=
  decidable_of_iff (Lawful.from law [] trace)
    ⟨fun holds => (lawful_from_iff law [] trace).mp ⟨Lawful.nil law, holds⟩,
      fun lawful => ((lawful_from_iff law [] trace).mpr lawful).2⟩

end OracleProgram
