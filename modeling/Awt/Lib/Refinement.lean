import Mathlib.Data.Option.Basic

/-! Two machines that answer calls. One of them says what the answers are to be, and the
other one follows it call by call. -/

namespace Refinement

variable {σ τ ι ω : Type}

/-- The answers to a list of calls, unless one of them breaks what the machine asks for. -/
def answers (step : σ → ι → Option (ω × σ)) : σ → List ι → Option (List ω × σ)
  | state, [] => some ([], state)
  | state, call :: calls => do
    let (answer, next) ← step state call
    let (rest, final) ← answers step next calls
    return (answer :: rest, final)

variable {step : σ → ι → Option (ω × σ)} {spec : τ → ι → Option (ω × τ)} {rel : σ → τ → Prop} {state final : σ}
  {calls : List ι} {given : List ω}

theorem answers_cons {call : ι} (runs : answers step state (call :: calls) = some (given, final)) :
    ∃ answer next rest, step state call = some (answer, next) ∧ answers step next calls = some (rest, final) ∧
      given = answer :: rest := by
  obtain ⟨⟨answer, next⟩, stepped, runs⟩ := Option.bind_eq_some_iff.mp runs
  obtain ⟨⟨rest, last⟩, runs, made⟩ := Option.bind_eq_some_iff.mp runs
  cases made
  exact ⟨answer, next, rest, stepped, runs, rfl⟩

/-- Every call that the specification answers has the same answer in the machine. -/
def Follows (step : σ → ι → Option (ω × σ)) (spec : τ → ι → Option (ω × τ)) (rel : σ → τ → Prop) : Prop :=
  ∀ state told call answer next, rel state told → spec told call = some (answer, next) →
    ∃ after, step state call = some (answer, after) ∧ rel after next

theorem Follows.answers (follows : Follows step spec rel) {told last : τ} (start : rel state told)
    (runs : answers spec told calls = some (given, last)) :
    ∃ final, Refinement.answers step state calls = some (given, final) ∧ rel final last := by
  induction calls generalizing state told given with
  | nil =>
    cases runs
    exact ⟨state, rfl, start⟩
  | cons call calls ih =>
    obtain ⟨answer, next, rest, stepped, follow, rfl⟩ := answers_cons runs
    obtain ⟨after, steps, related⟩ := follows state told call answer next start stepped
    obtain ⟨final, same, related⟩ := ih related follow
    refine ⟨final, ?_, related⟩
    simp only [Refinement.answers, steps, same, Option.bind_eq_bind, Option.bind_some, Option.pure_def]

/-- The same of a machine whose calls have a bound on how long they may take: with a bound
that is large enough, the answers are those of the specification, and the bound does not
show in them. -/
def FollowsWithin (step : Nat → σ → ι → Option (ω × σ)) (spec : τ → ι → Option (ω × τ)) (rel : σ → τ → Prop) : Prop :=
  ∀ state told call answer next, rel state told → spec told call = some (answer, next) →
    ∃ enough after, rel after next ∧ ∀ fuel, enough ≤ fuel → step fuel state call = some (answer, after)

theorem FollowsWithin.answers {step : Nat → σ → ι → Option (ω × σ)} (follows : FollowsWithin step spec rel) {told last : τ}
    (start : rel state told) (runs : answers spec told calls = some (given, last)) :
    ∃ enough final, rel final last ∧ ∀ fuel, enough ≤ fuel → Refinement.answers (step fuel) state calls = some (given, final) := by
  induction calls generalizing state told given with
  | nil =>
    cases runs
    exact ⟨0, state, start, fun _ _ => rfl⟩
  | cons call calls ih =>
    obtain ⟨answer, next, rest, stepped, follow, rfl⟩ := answers_cons runs
    obtain ⟨first, after, related, steps⟩ := follows state told call answer next start stepped
    obtain ⟨others, final, related, same⟩ := ih related follow
    refine ⟨max first others, final, related, ?_⟩
    intro fuel enough
    simp only [Refinement.answers, steps fuel (Nat.le_trans (Nat.le_max_left ..) enough),
      same fuel (Nat.le_trans (Nat.le_max_right ..) enough), Option.bind_eq_bind, Option.bind_some, Option.pure_def]

end Refinement
