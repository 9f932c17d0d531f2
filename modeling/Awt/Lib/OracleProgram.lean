import Mathlib.Data.List.Basic

/-! Programs that call an environment and remember every call they made. The
environment is an oracle over the history, so one program against all oracles
covers every answer sequence. Rules here mention no particular interface. -/

namespace OracleProgram

/-- The calls a program can make and the type of each call's answer. -/
structure Interface where
  Call : Type
  Answer : Call → Type

/-- A finished call, with the caller's state at the time it was made. -/
structure Entry (I : Interface) (σ : Type) where
  before : σ
  call : I.Call
  answer : I.Answer call

abbrev Trace (I : Interface) (σ : Type) := List (Entry I σ)

structure World (I : Interface) (σ : Type) where
  state : σ
  trace : Trace I σ

abbrev Oracle (I : Interface) (σ : Type) := Trace I σ → (call : I.Call) → I.Answer call

inductive Exit (ε α : Type) where
  | done (value : α)
  | stop (why : ε)
  deriving DecidableEq

variable {I : Interface} {σ ε α β γ : Type}

def World.record (world : World I σ) (call : I.Call) (answer : I.Answer call) : World I σ :=
  { world with trace := world.trace ++ [⟨world.state, call, answer⟩] }

def World.update (world : World I σ) (change : σ → σ) : World I σ :=
  { world with state := change world.state }

@[simp] theorem World.record_state (world : World I σ) (call : I.Call) (answer : I.Answer call) :
    (world.record call answer).state = world.state := rfl

@[simp] theorem World.record_trace (world : World I σ) (call : I.Call) (answer : I.Answer call) :
    (world.record call answer).trace = world.trace ++ [⟨world.state, call, answer⟩] := rfl

@[simp] theorem World.update_state (world : World I σ) (change : σ → σ) :
    (world.update change).state = change world.state := rfl

@[simp] theorem World.update_trace (world : World I σ) (change : σ → σ) :
    (world.update change).trace = world.trace := rfl

/-- Every entry obeys the law, judged against the history before it. -/
def Lawful (law : Trace I σ → Entry I σ → Prop) (trace : Trace I σ) : Prop :=
  ∀ past entry rest, trace = past ++ entry :: rest → law past entry

theorem Lawful.nil (law : Trace I σ → Entry I σ → Prop) : Lawful law [] := by
  intro past entry rest same
  simp at same

theorem Lawful.earlier {law : Trace I σ → Entry I σ → Prop} {first whole : Trace I σ}
    (lawful : Lawful law whole) (growth : first <+: whole) : Lawful law first := by
  obtain ⟨suffix, rfl⟩ := growth
  intro past entry rest same
  exact lawful past entry (rest ++ suffix) (by simp [same])

theorem lawful_concat {law : Trace I σ → Entry I σ → Prop} {trace : Trace I σ} {entry : Entry I σ} :
    Lawful law (trace ++ [entry]) ↔ Lawful law trace ∧ law trace entry := by
  constructor
  · exact fun lawful => ⟨lawful.earlier (List.prefix_append _ _), lawful trace entry [] rfl⟩
  · intro ⟨lawful, last⟩ past other rest same
    rcases List.eq_nil_or_concat rest with rfl | ⟨before, final, rfl⟩
    · obtain ⟨rfl, equal⟩ := List.append_inj' same rfl
      cases equal
      exact last
    · rw [List.concat_eq_append, ← List.cons_append, ← List.append_assoc] at same
      obtain ⟨rfl, _⟩ := List.append_inj' same rfl
      exact lawful past other before rfl

theorem Lawful.weaken {law other : Trace I σ → Entry I σ → Prop} {trace : Trace I σ}
    (lawful : Lawful law trace) (implies : ∀ past entry, law past entry → other past entry) :
    Lawful other trace :=
  fun past entry rest same => implies past entry (lawful past entry rest same)

/-- A run can only extend the history it starts from, by calls that the oracle answers. -/
structure Program (I : Interface) (σ ε α : Type) where
  run : Oracle I σ → World I σ → Exit ε α × World I σ
  grows : ∀ oracle world, world.trace <+: (run oracle world).2.trace
  answered : ∀ oracle (law : Trace I σ → Entry I σ → Prop) world,
    (∀ past before call, law past ⟨before, call, oracle past call⟩) → Lawful law world.trace →
      Lawful law (run oracle world).2.trace

namespace Program

def ret (value : α) : Program I σ ε α where
  run _ world := (.done value, world)
  grows _ _ := List.prefix_refl _
  answered _ _ _ _ lawful := lawful

def andThen (first : Program I σ ε α) (next : α → Program I σ ε β) : Program I σ ε β where
  run oracle world := match first.run oracle world with
    | (.done value, middle) => (next value).run oracle middle
    | (.stop why, middle) => (.stop why, middle)
  grows oracle world := by
    have growth := first.grows oracle world
    cases executed : first.run oracle world with
    | mk exit middle =>
      rw [executed] at growth
      cases exit with
      | done value => exact growth.trans ((next value).grows oracle middle)
      | stop why => exact growth
  answered oracle law world answers lawful := by
    have reached := first.answered oracle law world answers lawful
    cases executed : first.run oracle world with
    | mk exit middle =>
      rw [executed] at reached
      cases exit with
      | done value => exact (next value).answered oracle law middle answers reached
      | stop why => exact reached

instance : Monad (Program I σ ε) where
  pure := ret
  bind := andThen

def call (request : I.Call) : Program I σ ε (I.Answer request) where
  run oracle world :=
    let answer := oracle world.trace request
    (.done answer, world.record request answer)
  grows _ _ := List.prefix_append _ _
  answered _ _ world answers lawful := lawful_concat.mpr ⟨lawful, answers world.trace world.state request⟩

def get : Program I σ ε σ where
  run _ world := (.done world.state, world)
  grows _ _ := List.prefix_refl _
  answered _ _ _ _ lawful := lawful

/-- How many calls were made so far: a name that no later call can give again. -/
def count : Program I σ ε Nat where
  run _ world := (.done world.trace.length, world)
  grows _ _ := List.prefix_refl _
  answered _ _ _ _ lawful := lawful

def modify (change : σ → σ) : Program I σ ε Unit where
  run _ world := (.done (), world.update change)
  grows _ _ := List.prefix_refl _
  answered _ _ _ _ lawful := lawful

def stop (why : ε) : Program I σ ε α where
  run _ world := (.stop why, world)
  grows _ _ := List.prefix_refl _
  answered _ _ _ _ lawful := lawful

/-- A loop whose turns either go round again or leave with a value. Running out
of turns is an exit of its own and never a result. -/
def loop (timeout : ε) (turn : β → Program I σ ε (β ⊕ α)) : Nat → β → Program I σ ε α
  | 0, _ => stop timeout
  | fuel + 1, value => do
    match ← turn value with
    | .inl again => loop timeout turn fuel again
    | .inr result => pure result

/-- A loop over a list that one of its turns may leave early. -/
def each (turn : β → Program I σ ε (Option α)) : List β → Program I σ ε (Option α)
  | [] => pure none
  | item :: items => do
    match ← turn item with
    | some result => pure (some result)
    | none => each turn items

/-- A loop over a list that keeps what each of its turns returns. -/
def collect (turn : β → Program I σ ε α) : List β → Program I σ ε (List α)
  | [] => pure []
  | item :: items => do
    let value ← turn item
    let values ← collect turn items
    pure (value :: values)

theorem pure_bind (value : α) (next : α → Program I σ ε β) : (pure value >>= next) = next value := rfl

private theorem collect_trace (turn : β → Program I σ ε α) (item : β) (items : List β) (oracle : Oracle I σ) (world : World I σ) :
    ((collect turn (item :: items)).run oracle world).2.trace = match (turn item).run oracle world with
      | (.done _, middle) => ((collect turn items).run oracle middle).2.trace
      | (.stop _, middle) => middle.trace := by
  change (((turn item).andThen fun value => (collect turn items).andThen fun values => ret (value :: values)).run
    oracle world).2.trace = _
  simp only [andThen]
  cases (turn item).run oracle world with
  | mk exit middle =>
    cases exit with
    | stop why => rfl
    | done value =>
      dsimp only
      cases (collect turn items).run oracle middle with
      | mk exit final => cases exit <;> rfl

/-- Over the first items the loop makes the calls that it does first over all of them. -/
theorem collect_take (turn : β → Program I σ ε α) (items : List β) (count : Nat) (oracle : Oracle I σ) (world : World I σ) :
    ((collect turn (items.take count)).run oracle world).2.trace <+: ((collect turn items).run oracle world).2.trace := by
  induction items generalizing count world with
  | nil => simp
  | cons item items ih =>
    cases count with
    | zero => exact (collect turn (item :: items)).grows oracle world
    | succ count =>
      rw [List.take_succ_cons, collect_trace, collect_trace]
      cases (turn item).run oracle world with
      | mk exit middle =>
        cases exit with
        | stop why => exact List.prefix_refl _
        | done value => exact ih count middle

end Program

/-- Partial correctness against every oracle: whenever the whole history is
lawful, the run ends in `post` or is stopped in `halt`. -/
def Meets (law : Trace I σ → Entry I σ → Prop) (program : Program I σ ε α)
    (post : α → World I σ → Prop) (halt : ε → World I σ → Prop) (world : World I σ) : Prop :=
  ∀ oracle, Lawful law (program.run oracle world).2.trace →
    match program.run oracle world with
    | (.done value, final) => post value final
    | (.stop why, final) => halt why final

/-- The condition before a call under which `post` holds after it. -/
def After (law : Trace I σ → Entry I σ → Prop) (request : I.Call)
    (post : I.Answer request → World I σ → Prop) (world : World I σ) : Prop :=
  ∀ answer, law world.trace ⟨world.state, request, answer⟩ → post answer (world.record request answer)

/-- No call of this kind can make the assertion false. -/
def Ignores (law : Trace I σ → Entry I σ → Prop) (kind : I.Call → Prop) (assertion : World I σ → Prop) : Prop :=
  ∀ request, kind request → ∀ world, assertion world → After law request (fun _ => assertion) world

theorem After.weaken {law : Trace I σ → Entry I σ → Prop} {request : I.Call}
    {post other : I.Answer request → World I σ → Prop} {world : World I σ}
    (after : After law request other world) (implies : ∀ answer final, other answer final → post answer final) :
    After law request post world :=
  fun answer lawful => implies _ _ (after answer lawful)

/-- A call leaves the state as it is. -/
theorem Ignores.and_state {law : Trace I σ → Entry I σ → Prop} {kind : I.Call → Prop} {assertion : World I σ → Prop}
    (ignores : Ignores law kind assertion) (stated : σ → Prop) :
    Ignores law kind fun world => assertion world ∧ stated world.state :=
  fun request member world holds answer lawful => ⟨ignores request member world holds.1 answer lawful, holds.2⟩

theorem Ignores.narrow {law : Trace I σ → Entry I σ → Prop} {kind part : I.Call → Prop} {assertion : World I σ → Prop}
    (ignores : Ignores law kind assertion) (within : ∀ request, part request → kind request) :
    Ignores law part assertion :=
  fun request member => ignores request (within request member)

/-- What a loop over the indices below `n` comes to is not among those that still follow. -/
theorem suffix_range {n i : Nat} {items : List Nat} (still : i :: items <:+ List.range n) : i < n ∧ i ∉ items := by
  obtain ⟨done, same⟩ := still
  have distinct : (done ++ i :: items).Nodup := same ▸ List.nodup_range
  refine ⟨List.mem_range.mp (same ▸ by simp), ?_⟩
  exact (List.nodup_cons.mp (List.nodup_append.mp distinct).2.1).1

namespace Meets

variable {law : Trace I σ → Entry I σ → Prop} {post : α → World I σ → Prop}
  {halt : ε → World I σ → Prop} {world : World I σ}

theorem ret {value : α} (holds : post value world) : Meets law (pure value) post halt world :=
  fun _ _ => holds

theorem stop {why : ε} (holds : halt why world) : Meets law (Program.stop why) post halt world :=
  fun _ _ => holds

theorem get {post : σ → World I σ → Prop} (holds : post world.state world) :
    Meets law (Program.get : Program I σ ε σ) post halt world :=
  fun _ _ => holds

theorem count {post : Nat → World I σ → Prop} (holds : post world.trace.length world) :
    Meets law (Program.count : Program I σ ε Nat) post halt world :=
  fun _ _ => holds

theorem modify {change : σ → σ} {post : Unit → World I σ → Prop} (holds : post () (world.update change)) :
    Meets law (Program.modify change) post halt world :=
  fun _ _ => holds

theorem call {request : I.Call} {post : I.Answer request → World I σ → Prop}
    (after : After law request post world) : Meets law (Program.call request) post halt world :=
  fun _ lawful => after _ (lawful_concat.mp lawful).2

theorem bind {program : Program I σ ε α} {next : α → Program I σ ε β} {post : β → World I σ → Prop}
    (first : Meets law program (fun value middle => Meets law (next value) post halt middle) halt world) :
    Meets law (program >>= next) post halt world := by
  intro oracle lawful
  have reached := first oracle
  change Lawful law ((program.andThen next).run oracle world).2.trace at lawful
  change match (program.andThen next).run oracle world with
    | (.done value, final) => post value final
    | (.stop why, final) => halt why final
  simp only [Program.andThen] at lawful ⊢
  cases executed : program.run oracle world with
  | mk exit middle =>
    simp only [executed] at reached lawful ⊢
    cases exit with
    | done value => exact reached (lawful.earlier ((next value).grows oracle middle)) oracle lawful
    | stop why => exact reached lawful

/-- A call followed by the rest of its program. -/
theorem call_bind {request : I.Call} {next : I.Answer request → Program I σ ε α}
    (after : After law request (fun answer middle => Meets law (next answer) post halt middle) world) :
    Meets law (Program.call request >>= next) post halt world :=
  bind (call after)

theorem get_bind {next : σ → Program I σ ε α} (rest : Meets law (next world.state) post halt world) :
    Meets law (Program.get >>= next) post halt world :=
  bind (get rest)

theorem modify_bind {change : σ → σ} {next : Unit → Program I σ ε α}
    (rest : Meets law (next ()) post halt (world.update change)) :
    Meets law (Program.modify change >>= next) post halt world :=
  bind (modify rest)

theorem weaken {program : Program I σ ε α} {other : α → World I σ → Prop} {stopped : ε → World I σ → Prop}
    (meets : Meets law program other stopped world)
    (implies : ∀ value final, other value final → post value final)
    (halts : ∀ why final, stopped why final → halt why final) :
    Meets law program post halt world := by
  intro oracle lawful
  have reached := meets oracle lawful
  cases executed : program.run oracle world with
  | mk exit final =>
    simp only [executed] at reached ⊢
    cases exit with
    | done value => exact implies value final reached
    | stop why => exact halts why final reached

theorem imp {program : Program I σ ε α} {other : α → World I σ → Prop} (meets : Meets law program other halt world)
    (implies : ∀ value final, other value final → post value final) : Meets law program post halt world :=
  meets.weaken implies fun _ _ halted => halted

/-- What is known of a program under one law holds under a stricter one. -/
theorem narrow {stricter : Trace I σ → Entry I σ → Prop} {program : Program I σ ε α} (meets : Meets law program post halt world)
    (implies : ∀ past entry, stricter past entry → law past entry) : Meets stricter program post halt world :=
  fun oracle lawful => meets oracle (lawful.weaken implies)

theorem both {program : Program I σ ε α} {other : α → World I σ → Prop} {stopped : ε → World I σ → Prop}
    (first : Meets law program post halt world) (second : Meets law program other stopped world) :
    Meets law program (fun value final => post value final ∧ other value final)
      (fun why final => halt why final ∧ stopped why final) world := by
  intro oracle lawful
  have one := first oracle lawful
  have two := second oracle lawful
  cases executed : program.run oracle world with
  | mk exit final =>
    rw [executed] at one two
    cases exit with
    | done value => exact ⟨one, two⟩
    | stop why => exact ⟨one, two⟩

/-- What is known of the first program is enough to go on with the second. -/
theorem seq {program : Program I σ ε α} {next : α → Program I σ ε β} {other : α → World I σ → Prop}
    {post : β → World I σ → Prop} (first : Meets law program other halt world)
    (rest : ∀ value middle, other value middle → Meets law (next value) post halt middle) :
    Meets law (program >>= next) post halt world :=
  bind (first.imp rest)

theorem call_seq {request : I.Call} {next : I.Answer request → Program I σ ε α}
    {other : I.Answer request → World I σ → Prop} (first : After law request other world)
    (rest : ∀ answer middle, other answer middle → Meets law (next answer) post halt middle) :
    Meets law (Program.call request >>= next) post halt world :=
  call_bind (first.weaken rest)

/-- The invariant of a loop is what every turn starts with. -/
theorem loop {turn : β → Program I σ ε (β ⊕ α)} {timeout : ε} (inv : β → World I σ → Prop)
    (step : ∀ value world, inv value world →
      Meets law (turn value) (fun result final => result.elim (inv · final) (post · final)) halt world)
    (expired : ∀ value world, inv value world → halt timeout world)
    (fuel : Nat) (value : β) (holds : inv value world) :
    Meets law (Program.loop timeout turn fuel value) post halt world := by
  induction fuel generalizing value world with
  | zero => exact Meets.stop (expired value world holds)
  | succ fuel ih =>
    apply Meets.seq (step value world holds)
    intro result middle reached
    cases result with
    | inl again => exact ih again reached
    | inr result => exact Meets.ret reached

/-- An assertion that every turn keeps is kept by the loop. -/
theorem loop_keeps {turn : β → Program I σ ε (β ⊕ α)} {timeout : ε} {kept : World I σ → Prop}
    (step : ∀ value world, kept world → Meets law (turn value) (fun _ => kept) halt world)
    (expired : ∀ world, kept world → halt timeout world)
    (fuel : Nat) (value : β) (holds : kept world) :
    Meets law (Program.loop timeout turn fuel value) (fun _ => kept) halt world := by
  apply Meets.loop (fun _ => kept) _ (fun _ => expired) fuel value holds
  intro value world holds
  apply (step value world holds).imp
  intro result final holds
  cases result <;> exact holds

/-- A loop whose measure drops in every turn does not run out of turns. -/
theorem loop_within {turn : β → Program I σ ε (β ⊕ α)} {timeout : ε} (inv : β → World I σ → Prop)
    (left : β → Nat)
    (step : ∀ value world, inv value world →
      Meets law (turn value) (fun result final =>
        result.elim (fun again => inv again final ∧ left again < left value) (post · final)) halt world)
    (fuel : Nat) (value : β) (enough : left value < fuel) (holds : inv value world) :
    Meets law (Program.loop timeout turn fuel value) post halt world := by
  induction fuel generalizing value world with
  | zero => omega
  | succ fuel ih =>
    apply Meets.seq (step value world holds)
    intro result middle reached
    cases result with
    | inl again => exact ih again (by have := reached.2; omega) reached.1
    | inr result => exact Meets.ret reached

/-- Such a loop can only run out of turns when the measure it starts with allows it. -/
theorem loop_bounded {turn : β → Program I σ ε (β ⊕ α)} {timeout : ε} (inv : β → World I σ → Prop)
    (left : β → Nat)
    (step : ∀ value world, inv value world →
      Meets law (turn value) (fun result final =>
        result.elim (fun again => inv again final ∧ left again < left value) (post · final)) halt world)
    (fuel : Nat) (value : β) (expired : fuel ≤ left value → ∀ value world, inv value world → halt timeout world)
    (holds : inv value world) : Meets law (Program.loop timeout turn fuel value) post halt world := by
  rcases Nat.lt_or_ge (left value) fuel with enough | short
  · exact loop_within inv left step fuel value enough holds
  · apply loop inv _ (expired short) fuel value holds
    intro value world holds
    apply (step value world holds).imp
    intro result final reached
    cases result with
    | inl again => exact reached.1
    | inr result => exact reached

/-- The invariant of a list loop speaks of the items still to come. -/
theorem each {turn : β → Program I σ ε (Option α)} {post : Option α → World I σ → Prop}
    (inv : List β → World I σ → Prop)
    (step : ∀ item items world, inv (item :: items) world →
      Meets law (turn item) (fun result final => result.elim (inv items final) (fun value => post (some value) final)) halt world)
    (finished : ∀ world, inv [] world → post none world)
    (items : List β) (holds : inv items world) :
    Meets law (Program.each turn items) post halt world := by
  induction items generalizing world with
  | nil => exact Meets.ret (finished world holds)
  | cons item items ih =>
    apply Meets.seq (step item items world holds)
    intro result middle reached
    cases result with
    | none => exact ih reached
    | some result => exact Meets.ret reached

theorem each_keeps {turn : β → Program I σ ε (Option α)} {kept : World I σ → Prop}
    (step : ∀ item world, kept world → Meets law (turn item) (fun _ => kept) halt world)
    (items : List β) (holds : kept world) :
    Meets law (Program.each turn items) (fun _ => kept) halt world := by
  apply Meets.each (fun _ => kept) _ (fun _ holds => holds) items holds
  intro item _ world holds
  apply (step item world holds).imp
  intro result final holds
  cases result <;> exact holds

/-- A loop over indices meets each of them once. -/
theorem each_range {turn : Nat → Program I σ ε (Option α)} {post : Option α → World I σ → Prop} {n : Nat}
    (inv : List Nat → World I σ → Prop)
    (step : ∀ i items world, i < n → i ∉ items → inv (i :: items) world →
      Meets law (turn i) (fun result final => result.elim (inv items final) (fun value => post (some value) final)) halt world)
    (finished : ∀ world, inv [] world → post none world) (holds : inv (List.range n) world) :
    Meets law (Program.each turn (List.range n)) post halt world := by
  apply Meets.each (fun items world => items <:+ List.range n ∧ inv items world) _ (fun world ended => finished world ended.2)
    _ ⟨List.suffix_refl _, holds⟩
  intro i items world ⟨still, holds⟩
  obtain ⟨within, fresh⟩ := suffix_range still
  apply (step i items world within fresh holds).imp
  intro result final reached
  cases result with
  | none => exact ⟨(List.suffix_cons i items).trans still, reached⟩
  | some value => exact reached

/-- The invariant of a loop that collects speaks of the items still to come and of what
was collected before. -/
theorem collect {turn : β → Program I σ ε α} (inv : List β → List α → World I σ → Prop)
    (step : ∀ item items values world, inv (item :: items) values world →
      Meets law (turn item) (fun value final => inv items (values ++ [value]) final) halt world)
    (items : List β) (holds : inv items [] world) :
    Meets law (Program.collect turn items) (inv []) halt world := by
  suffices general : ∀ items earlier world, inv items earlier world →
      Meets law (Program.collect turn items) (fun values => inv [] (earlier ++ values)) halt world from general items [] world holds
  intro items
  induction items with
  | nil =>
    intro earlier world holds
    exact Meets.ret (by rwa [List.append_nil])
  | cons item items ih =>
    intro earlier world holds
    apply Meets.seq (step item items earlier world holds)
    intro value middle reached
    apply Meets.seq (ih _ middle reached)
    intro values final reached
    exact Meets.ret (by rwa [List.append_assoc, List.singleton_append] at reached)

theorem collect_keeps {turn : β → Program I σ ε α} {kept : World I σ → Prop} {items : List β}
    (step : ∀ item ∈ items, ∀ world, kept world → Meets law (turn item) (fun _ => kept) halt world) (holds : kept world) :
    Meets law (Program.collect turn items) (fun _ => kept) halt world := by
  induction items generalizing world with
  | nil => exact Meets.ret holds
  | cons item items ih =>
    apply Meets.seq (step item (List.mem_cons_self ..) world holds)
    intro value middle holds
    apply Meets.seq (ih (fun item member => step item (List.mem_cons_of_mem _ member)) holds)
    exact fun _ _ holds => Meets.ret holds

/-- A loop that collects what it is known to. -/
theorem collect_map {turn : β → Program I σ ε α} {kept : World I σ → Prop} {items : List β} (expected : β → α)
    (step : ∀ item ∈ items, ∀ world, kept world →
      Meets law (turn item) (fun value final => value = expected item ∧ kept final) halt world)
    (holds : kept world) :
    Meets law (Program.collect turn items) (fun values final => values = items.map expected ∧ kept final) halt world := by
  induction items generalizing world with
  | nil => exact Meets.ret ⟨rfl, holds⟩
  | cons item items ih =>
    apply Meets.seq (step item (List.mem_cons_self ..) world holds)
    rintro value middle ⟨rfl, reached⟩
    apply Meets.seq (ih (fun item member => step item (List.mem_cons_of_mem _ member)) reached)
    rintro values final ⟨rfl, reached⟩
    exact Meets.ret ⟨rfl, reached⟩

end Meets
end OracleProgram
