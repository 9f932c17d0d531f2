import Mathlib.Data.List.Basic
import Mathlib.Data.List.Infix

/-! A machine that is fed from outside and gives things out by turns of its own. What it
gives depends on what it was fed, and not on when. -/

namespace Feeding

variable {σ ι ω : Type}

/-- A machine waits where it has no turn; a turn that it has is not changed by what it is
fed before it. -/
structure Machine (σ ι ω : Type) where
  put : σ → ι → σ
  turn : σ → Option (Option ω × σ)
  later : ∀ state made next input, turn state = some (made, next) →
    turn (put state input) = some (made, put next input)

namespace Machine

variable (machine : Machine σ ι ω)

def puts (state : σ) (inputs : List ι) : σ := inputs.foldl machine.put state

theorem puts_append (state : σ) (inputs more : List ι) :
    machine.puts state (inputs ++ more) = machine.puts (machine.puts state inputs) more :=
  List.foldl_append

/-- Some turns lead from one state to another, and this is what they give. -/
inductive Gives : σ → List ω → σ → Prop where
  | rest (state : σ) : Gives state [] state
  | turn {state next last : σ} {made : Option ω} {given : List ω} :
      machine.turn state = some (made, next) → Gives next given last → Gives state (made.toList ++ given) last

/-- Feeding and turns in any order. -/
inductive Fed (start : σ) : List ι → List ω → σ → Prop where
  | start : Fed start [] [] start
  | put {inputs : List ι} {given : List ω} {state : σ} (input : ι) :
      Fed start inputs given state → Fed start (inputs ++ [input]) given (machine.put state input)
  | turns {inputs : List ι} {given more : List ω} {state next : σ} :
      Fed start inputs given state → machine.Gives state more next → Fed start inputs (given ++ more) next

end Machine

variable {machine : Machine σ ι ω} {state next last start : σ} {given more : List ω}

namespace Machine.Gives

theorem once {made : Option ω} (turned : machine.turn state = some (made, next)) : machine.Gives state made.toList next := by
  have gives := turn turned (rest next)
  rwa [List.append_nil] at gives

theorem append (gives : machine.Gives state given next) (follows : machine.Gives next more last) :
    machine.Gives state (given ++ more) last := by
  induction gives with
  | rest => exact follows
  | turn turned _ ih =>
    rw [List.append_assoc]
    exact turn turned (ih follows)

theorem put (gives : machine.Gives state given last) (input : ι) :
    machine.Gives (machine.put state input) given (machine.put last input) := by
  induction gives with
  | rest state => exact rest _
  | turn turned _ ih => exact turn (machine.later _ _ _ input turned) ih

/-- Turns that end where the machine waits include all others. -/
theorem all (gives : machine.Gives state given next) (whole : machine.Gives state more last)
    (waits : machine.turn last = none) : ∃ left, machine.Gives next left last ∧ more = given ++ left := by
  induction gives generalizing more with
  | rest => exact ⟨more, whole, rfl⟩
  | turn turned _ ih =>
    cases whole with
    | rest =>
      rw [waits] at turned
      cases turned
    | turn other follows =>
      rw [turned] at other
      cases other
      obtain ⟨left, rest, rfl⟩ := ih follows
      exact ⟨left, rest, (List.append_assoc _ _ _).symm⟩

/-- Of two ways to go on from a state one only goes further than the other. -/
theorem either (gives : machine.Gives state given next) (other : machine.Gives state more last) :
    given <+: more ∨ more <+: given := by
  induction gives generalizing more with
  | rest => exact .inl List.nil_prefix
  | turn turned _ ih =>
    cases other with
    | rest => exact .inr List.nil_prefix
    | turn same follows =>
      rw [turned] at same
      cases same
      exact (ih follows).imp (List.prefix_append_right_inj _).mpr (List.prefix_append_right_inj _).mpr

end Machine.Gives

namespace Machine.Fed

/-- Whenever the machine was fed, it gives what it gives when it was fed before. -/
theorem first {inputs : List ι} (fed : machine.Fed start inputs given state) :
    machine.Gives (machine.puts start inputs) given state := by
  induction fed with
  | start => exact Gives.rest _
  | put input _ ih =>
    rw [puts_append]
    exact ih.put input
  | turns _ gives ih => exact ih.append gives

/-- Two ways to feed the same inputs differ only in how much was given so far. -/
theorem either {inputs : List ι} {other : σ} (fed : machine.Fed start inputs given state)
    (also : machine.Fed start inputs more other) : given <+: more ∨ more <+: given :=
  fed.first.either also.first

end Machine.Fed
end Feeding
