import Mathlib.Data.Option.Basic

/-! Runs of a machine whose steps are chosen from outside, one label at a time, and
two ways to carry facts along a run. -/

namespace Machine

variable {σ ι : Type}

/-- A run that no label of the list has stopped. -/
def run (step : σ → ι → Option σ) : σ → List ι → Option σ
  | state, [] => some state
  | state, label :: labels => (step state label).bind fun next => run step next labels

/-- Every step that the run takes is good in the state it is taken from. -/
def Throughout (step : σ → ι → Option σ) (good : σ → ι → Prop) : σ → List ι → Prop
  | _, [] => True
  | state, label :: labels => good state label ∧ match step state label with
    | some next => Throughout step good next labels
    | none => True

variable {step : σ → ι → Option σ} {good allowed : σ → ι → Prop} {state final : σ} {labels : List ι}

instance Throughout.decidable [∀ state label, Decidable (good state label)] :
    (state : σ) → (labels : List ι) → Decidable (Throughout step good state labels)
  | _, [] => isTrue trivial
  | state, label :: labels => by
    unfold Throughout
    cases step state label with
    | none => infer_instance
    | some next =>
      have := Throughout.decidable next labels
      infer_instance

theorem run_append (first rest : List ι) :
    run step state (first ++ rest) = (run step state first).bind fun middle => run step middle rest := by
  induction first generalizing state with
  | nil => rfl
  | cons label first ih =>
    rw [List.cons_append, run, run, Option.bind_assoc]
    exact congrArg _ (funext fun _ => ih)

private theorem run_cons {label : ι} (runs : run step state (label :: labels) = some final) :
    ∃ next, step state label = some next ∧ run step next labels = some final :=
  Option.bind_eq_some_iff.mp runs

/-- What holds at the start and is kept by every allowed step holds at the end. -/
theorem forward {inv : σ → Prop}
    (keeps : ∀ state label next, inv state → allowed state label → step state label = some next →
      good state label ∧ inv next)
    (runs : run step state labels = some final) (start : inv state) (steps : Throughout step allowed state labels) :
    Throughout step good state labels ∧ inv final := by
  induction labels generalizing state with
  | nil =>
    cases runs
    exact ⟨trivial, start⟩
  | cons label labels ih =>
    obtain ⟨next, stepped, rest⟩ := run_cons runs
    unfold Throughout at steps ⊢
    rw [stepped] at steps ⊢
    obtain ⟨fine, after⟩ := keeps state label next start steps.1 stepped
    obtain ⟨all, last⟩ := ih rest after steps.2
    exact ⟨⟨fine, all⟩, last⟩

/-- The same of steps that are all allowed, and with what each of them tells of its label. -/
theorem always {inv : σ → Prop} {fine : ι → Prop}
    (keeps : ∀ state label next, inv state → step state label = some next → fine label ∧ inv next)
    (runs : run step state labels = some final) (start : inv state) : (∀ label ∈ labels, fine label) ∧ inv final := by
  induction labels generalizing state with
  | nil =>
    cases runs
    exact ⟨by simp, start⟩
  | cons label labels ih =>
    obtain ⟨next, stepped, rest⟩ := run_cons runs
    obtain ⟨first, after⟩ := keeps state label next start stepped
    obtain ⟨all, last⟩ := ih rest after
    exact ⟨List.forall_mem_cons.mpr ⟨first, all⟩, last⟩

/-- Another machine takes the same run when it takes every allowed step of it. -/
theorem follow {inv : σ → Prop} {other : σ → ι → Option σ}
    (keeps : ∀ state label next, inv state → allowed state label → step state label = some next →
      other state label = some next ∧ inv next)
    (runs : run step state labels = some final) (start : inv state) (steps : Throughout step allowed state labels) :
    run other state labels = some final := by
  induction labels generalizing state with
  | nil => exact runs
  | cons label labels ih =>
    obtain ⟨next, stepped, rest⟩ := run_cons runs
    unfold Throughout at steps
    rw [stepped] at steps
    obtain ⟨same, after⟩ := keeps state label next start steps.1 stepped
    rw [run, same]
    exact ih rest after steps.2

/-- What holds at the end and can be told back over every allowed step held before it. -/
theorem backward {told : σ → Prop}
    (tells : ∀ state label next, told next → allowed state label → step state label = some next →
      good state label ∧ told state)
    (runs : run step state labels = some final) (last : told final) (steps : Throughout step allowed state labels) :
    Throughout step good state labels ∧ told state := by
  induction labels generalizing state with
  | nil =>
    cases runs
    exact ⟨trivial, last⟩
  | cons label labels ih =>
    obtain ⟨next, stepped, rest⟩ := run_cons runs
    unfold Throughout at steps ⊢
    rw [stepped] at steps ⊢
    obtain ⟨all, after⟩ := ih rest steps.2
    obtain ⟨fine, before⟩ := tells state label next after steps.1 stepped
    exact ⟨⟨fine, all⟩, before⟩

end Machine
