import Awt.Lib.OracleProgram

/-! Two runs in one environment. It sees of a call only what `seen` keeps, and both runs
go the same way as long as the program reads the part of the state they agree on. -/

namespace OracleProgram

variable {I : Interface} {σ ε α β ω τ : Type}

/-- The oracle of an environment that answers what it has seen. -/
def Oracle.seeing (seen : Entry I σ → ω) (env : List ω → (call : I.Call) → I.Answer call) : Oracle I σ :=
  fun past call => env (past.map seen) call

/-- Two worlds look alike in `view`, and are related in what is `hidden`: a relation that
no call of the given kind can change. -/
structure Likeness (seen : Entry I σ → ω) (τ : Type) where
  view : σ → σ
  hidden : σ → τ
  apart : List ω → τ → τ → Prop
  kind : I.Call → Bool
  blind : ∀ before after call answer, seen ⟨before, call, answer⟩ = seen ⟨after, call, answer⟩
  keeps : ∀ past before call answer left right, kind call → apart past left right →
    apart (past ++ [seen ⟨before, call, answer⟩]) left right

variable {seen : Entry I σ → ω}

structure Likeness.Twins (likeness : Likeness seen τ) (left right : World I σ) : Prop where
  trace : left.trace.map seen = right.trace.map seen
  view : likeness.view left.state = likeness.view right.state
  apart : likeness.apart (left.trace.map seen) (likeness.hidden left.state) (likeness.hidden right.state)

/-- Both runs ended in the same way, in worlds that are related by `post` or `halt`. -/
def SameEnd (post : α → World I σ → World I σ → Prop) (halt : World I σ → World I σ → Prop) :
    Exit ε α × World I σ → Exit ε α × World I σ → Prop
  | (.done value, left), (.done other, right) => value = other ∧ post value left right
  | (.stop why, left), (.stop other, right) => why = other ∧ halt left right
  | _, _ => False

def Alike (oracle : Oracle I σ) (first second : Program I σ ε α) (post : α → World I σ → World I σ → Prop)
    (halt : World I σ → World I σ → Prop) (left right : World I σ) : Prop :=
  SameEnd post halt (first.run oracle left) (second.run oracle right)

namespace Alike

variable {oracle : Oracle I σ} {halt : World I σ → World I σ → Prop} {left right : World I σ}

theorem ret {value : α} {post : α → World I σ → World I σ → Prop} (holds : post value left right) :
    Alike oracle (pure value : Program I σ ε α) (pure value) post halt left right :=
  ⟨rfl, holds⟩

theorem seq {first second : Program I σ ε α} {next follow : α → Program I σ ε β}
    {middle : α → World I σ → World I σ → Prop} {post : β → World I σ → World I σ → Prop}
    (alike : Alike oracle first second middle halt left right)
    (rest : ∀ value left right, middle value left right →
      Alike oracle (next value) (follow value) post halt left right) :
    Alike oracle (first >>= next) (second >>= follow) post halt left right := by
  change SameEnd post halt ((first.andThen next).run oracle left) ((second.andThen follow).run oracle right)
  simp only [Program.andThen]
  unfold Alike at alike
  generalize first.run oracle left = finished at alike ⊢
  generalize second.run oracle right = ended at alike ⊢
  rcases finished with ⟨value | why, left⟩ <;> rcases ended with ⟨other | reason, right⟩
  · obtain ⟨rfl, holds⟩ := alike
    exact rest value left right holds
  · exact alike.elim
  · exact alike.elim
  · exact alike

theorem weaken {first second : Program I σ ε α} {post other : α → World I σ → World I σ → Prop}
    {stopped : World I σ → World I σ → Prop} (alike : Alike oracle first second other stopped left right)
    (implies : ∀ value left right, other value left right → post value left right)
    (halts : ∀ left right, stopped left right → halt left right) :
    Alike oracle first second post halt left right := by
  unfold Alike at alike ⊢
  generalize first.run oracle left = finished at alike ⊢
  generalize second.run oracle right = ended at alike ⊢
  rcases finished with ⟨value | why, left⟩ <;> rcases ended with ⟨other | reason, right⟩
  · exact ⟨alike.1, implies _ _ _ alike.2⟩
  · exact alike
  · exact alike
  · exact ⟨alike.1, halts _ _ alike.2⟩

theorem get_bind {next follow : σ → Program I σ ε α} {post : α → World I σ → World I σ → Prop}
    (alike : Alike oracle (next left.state) (follow right.state) post halt left right) :
    Alike oracle (Program.get >>= next) (Program.get >>= follow) post halt left right :=
  alike

end Alike

namespace Likeness

variable (likeness : Likeness seen τ) (env : List ω → (call : I.Call) → I.Answer call)

/-- From twins the program runs in the same way, and it leaves twins. -/
def Keeps (program : Program I σ ε α) : Prop :=
  ∀ left right, likeness.Twins left right →
    Alike (Oracle.seeing seen env) program program (fun _ => likeness.Twins) likeness.Twins left right

variable {likeness env}

theorem Twins.record {left right : World I σ} (twins : likeness.Twins left right) {request : I.Call}
    (kind : likeness.kind request) (answer : I.Answer request) :
    likeness.Twins (left.record request answer) (right.record request answer) where
  trace := by
    simp only [World.record_trace, List.map_append, List.map_cons, List.map_nil]
    rw [twins.trace, likeness.blind left.state right.state request answer]
  view := twins.view
  apart := by
    simp only [World.record_trace, List.map_append, List.map_cons, List.map_nil]
    exact likeness.keeps _ _ _ _ _ _ kind twins.apart

theorem Twins.update {left right : World I σ} (twins : likeness.Twins left right) {change : σ → σ}
    (shows : ∀ state, likeness.view (change state) = likeness.view (change (likeness.view state)))
    (hides : ∀ state, likeness.hidden (change state) = likeness.hidden state) :
    likeness.Twins (left.update change) (right.update change) where
  trace := twins.trace
  view := by
    change likeness.view (change left.state) = likeness.view (change right.state)
    rw [shows, twins.view, ← shows]
  apart := by
    change likeness.apart _ (likeness.hidden (change left.state)) (likeness.hidden (change right.state))
    rw [hides, hides]
    exact twins.apart

theorem Twins.answer {left right : World I σ} (twins : likeness.Twins left right) (request : I.Call) :
    Oracle.seeing seen env left.trace request = Oracle.seeing seen env right.trace request :=
  congrArg (env · request) twins.trace

theorem Twins.length {left right : World I σ} (twins : likeness.Twins left right) :
    left.trace.length = right.trace.length := by
  simpa using congrArg List.length twins.trace

namespace Keeps

theorem ret {value : α} : likeness.Keeps env (pure value : Program I σ ε α) :=
  fun _ _ twins => ⟨rfl, twins⟩

theorem stop {why : ε} : likeness.Keeps env (Program.stop why : Program I σ ε α) :=
  fun _ _ twins => ⟨rfl, twins⟩

theorem bind {program : Program I σ ε α} {next : α → Program I σ ε β} (first : likeness.Keeps env program)
    (rest : ∀ value, likeness.Keeps env (next value)) : likeness.Keeps env (program >>= next) :=
  fun left right twins => (first left right twins).seq fun value => rest value

theorem call {request : I.Call} (kind : likeness.kind request) :
    likeness.Keeps env (Program.call request : Program I σ ε (I.Answer request)) := by
  intro left right twins
  refine ⟨twins.answer request, ?_⟩
  rw [← twins.answer request]
  exact twins.record kind _

theorem call_bind {request : I.Call} {next : I.Answer request → Program I σ ε α} (kind : likeness.kind request)
    (rest : ∀ answer, likeness.Keeps env (next answer)) : likeness.Keeps env (Program.call request >>= next) :=
  bind (call kind) rest

theorem modify_bind {change : σ → σ} {next : Unit → Program I σ ε α}
    (shows : ∀ state, likeness.view (change state) = likeness.view (change (likeness.view state)))
    (hides : ∀ state, likeness.hidden (change state) = likeness.hidden state)
    (rest : likeness.Keeps env (next ())) : likeness.Keeps env (Program.modify change >>= next) :=
  bind (fun _ _ twins => ⟨rfl, twins.update shows hides⟩) fun _ => rest

/-- What follows may only depend on the part of the state that is in view. -/
theorem get_bind {next : σ → Program I σ ε α} (sees : ∀ state, next state = next (likeness.view state))
    (rest : ∀ state, likeness.Keeps env (next state)) : likeness.Keeps env (Program.get >>= next) := by
  intro left right twins
  have same : next right.state = next left.state := by rw [sees, ← twins.view, ← sees]
  apply Alike.get_bind
  rw [same]
  exact rest left.state left right twins

theorem count_bind {next : Nat → Program I σ ε α} (rest : ∀ count, likeness.Keeps env (next count)) :
    likeness.Keeps env (Program.count >>= next) := by
  intro left right twins
  change Alike _ (next left.trace.length) (next right.trace.length) _ _ left right
  rw [twins.length]
  exact rest _ left right twins

theorem loop {turn : β → Program I σ ε (β ⊕ α)} {timeout : ε} (step : ∀ value, likeness.Keeps env (turn value))
    (fuel : Nat) (value : β) : likeness.Keeps env (Program.loop timeout turn fuel value) := by
  induction fuel generalizing value with
  | zero => exact stop
  | succ fuel ih =>
    apply bind (step value)
    intro result
    cases result with
    | inl again => exact ih again
    | inr result => exact ret

theorem each {turn : β → Program I σ ε (Option α)} (step : ∀ item, likeness.Keeps env (turn item))
    (items : List β) : likeness.Keeps env (Program.each turn items) := by
  induction items with
  | nil => exact ret
  | cons item items ih =>
    apply bind (step item)
    intro result
    cases result with
    | none => exact ih
    | some result => exact ret

end Keeps
end Likeness
end OracleProgram
