import Mathlib.Algebra.BigOperators.Intervals
import Mathlib.Algebra.Order.BigOperators.Group.Finset
import Mathlib.Order.Interval.Finset.Nat
import Awt.Lib.Pipeline

/-! What is to come out of a row of stages, and how far away its end is. -/

namespace Pipeline

variable {σ ω : Type}

/-- A row whose stages are all done with what they were given. -/
@[ext] structure Line (σ ω : Type) where
  priv : Nat → σ
  out : List ω
  ended : Bool

namespace Line

/-- What a list of items becomes on its way to link `k`. -/
def passing (stages : Nat → Stage σ ω) (ended : Bool) (priv : Nat → σ) (items : List ω) : Nat → List ω
  | 0 => items
  | k + 1 => ((stages k).made ended (priv k) (passing stages ended priv items k)).1

/-- Items are put in, and possibly they were the last ones. -/
def put (stages : Nat → Stage σ ω) (n : Nat) (ended : Bool) (items : List ω) (line : Line σ ω) : Line σ ω where
  priv k := if k < n then ((stages k).made ended (line.priv k) (passing stages ended line.priv items k)).2 else line.priv k
  out := line.out ++ passing stages ended line.priv items n
  ended := ended

/-- What came out before stays in front. -/
theorem put_front (stages : Nat → Stage σ ω) (n : Nat) (ended : Bool) (items front : List ω) (line : Line σ ω) :
    { line with out := front ++ line.out }.put stages n ended items =
      { line.put stages n ended items with out := front ++ (line.put stages n ended items).out } := by
  simp [put]

/-- Items that come later pass in the states that the first ones lead to. -/
theorem passing_append (stages : Nat → Stage σ ω) (n : Nat) (ended : Bool) (items more : List ω) (line : Line σ ω) {k : Nat}
    (inside : k ≤ n) :
    passing stages ended line.priv (items ++ more) k =
      passing stages false line.priv items k ++ passing stages ended (line.put stages n false items).priv more k := by
  induction k with
  | zero => rfl
  | succ k ih => simp only [passing, ih (by omega), Stage.made_append, put, if_pos (show k < n by omega)]

theorem put_put (stages : Nat → Stage σ ω) (n : Nat) (ended : Bool) (items more : List ω) (line : Line σ ω) :
    (line.put stages n false items).put stages n ended more = line.put stages n ended (items ++ more) := by
  refine Line.ext ?_ ?_ rfl
  · funext k
    by_cases inside : k < n
    · simp only [put, if_pos inside, passing_append stages n ended items more line (Nat.le_of_lt inside), Stage.made_append]
    · simp only [put, if_neg inside]
  · simp only [put, passing_append stages n ended items more line (Nat.le_refl n), List.append_assoc]

theorem passing_nil (stages : Nat → Stage σ ω) (priv : Nat → σ) (k : Nat) : passing stages false priv [] k = [] := by
  induction k with
  | zero => rfl
  | succ k ih => rw [passing, ih, Stage.made_nil]

theorem put_nil (stages : Nat → Stage σ ω) (n : Nat) (priv : Nat → σ) (out : List ω) :
    (⟨priv, out, false⟩ : Line σ ω).put stages n false [] = ⟨priv, out, false⟩ := by
  simp [put, passing_nil, Stage.made_nil]

end Line

namespace Row

variable (stages : Nat → Stage σ ω) (row row' : Row σ ω)

/-- All that link `k` has and will have of what the row was given. -/
def come : Nat → List ω
  | 0 => (row.link 0).items
  | k + 1 => (row.link (k + 1)).items ++ ((stages k).made (row.link 0).ended (row.priv k) (come k)).1

def line (n : Nat) : Line σ ω where
  priv k := if k < n then ((stages k).made (row.link 0).ended (row.priv k) (row.come stages k)).2 else row.priv k
  out := row.come stages n
  ended := (row.link 0).ended

variable {stages row row'} {n k : Nat} {item : ω} {items : List ω}

section put

variable (ended : Bool) (items : List ω) (goes : (row.link 0).ended = false) (ends : (row'.link 0).ended = ended)
  (first : (row'.link 0).items = (row.link 0).items ++ items) (others : ∀ k, (row'.link (k + 1)).items = (row.link (k + 1)).items)
  (privs : row'.priv = row.priv)

include goes ends first others privs in
/-- What is put in passes behind all that was put in before. -/
private theorem come_put (inside : k ≤ n) :
    row'.come stages k = row.come stages k ++ Line.passing stages ended (row.line stages n).priv items k := by
  induction k with
  | zero => exact first
  | succ k ih =>
    simp only [come, ih (by omega), ends, goes, others, privs, Line.passing, line, if_pos (show k < n by omega), Stage.made_append,
      List.append_assoc]

include goes ends first others privs in
theorem line_put : row'.line stages n = (row.line stages n).put stages n ended items := by
  have comes : ∀ k ≤ n, row'.come stages k = row.come stages k ++ Line.passing stages ended (row.line stages n).priv items k :=
    fun k inside => come_put ended items goes ends first others privs inside
  have states : ∀ k, (row'.line stages n).priv k = ((row.line stages n).put stages n ended items).priv k := by
    intro k
    by_cases inside : k < n
    · simp only [line, Line.put, if_pos inside, comes k (by omega), ends, goes, privs, Stage.made_append]
    · simp only [line, Line.put, if_neg inside, privs]
  have out : (row'.line stages n).out = ((row.line stages n).put stages n ended items).out := comes n (Nat.le_refl n)
  exact Line.ext (funext states) out ends

end put

section step

variable {taken : List ω} (ends : (row'.link 0).ended = (row.link 0).ended)
  (others : ∀ j, j ≠ k → j ≠ k + 1 → (row'.link j).items = (row.link j).items) (privs : ∀ j, j ≠ k → row'.priv j = row.priv j)
  (moves : (row.link k).items = taken ++ (row'.link k).items)

include ends others privs in
private theorem come_before {j : Nat} (less : j < k) : row'.come stages j = row.come stages j := by
  induction j with
  | zero => exact others 0 (by omega) (by omega)
  | succ j ih => simp only [come, ih (by omega), ends, others (j + 1) (by omega) (by omega), privs j (by omega)]

include ends others privs moves in
/-- A stage takes its items in front of what is to come for it. -/
theorem come_front : row.come stages k = taken ++ row'.come stages k := by
  cases k with
  | zero => exact moves
  | succ k => simp only [come, moves, come_before ends others privs (show k < k + 1 by omega), ends, privs k (by omega), List.append_assoc]

include ends others privs moves in
/-- A stage that makes of the items it took what it would have made of them later changes
nothing about what is to come. -/
theorem come_step (inside : k < n)
    (gives : (row'.link (k + 1)).items ++ ((stages k).made (row.link 0).ended (row'.priv k) (row'.come stages k)).1 =
      (row.link (k + 1)).items ++ ((stages k).made (row.link 0).ended (row.priv k) (taken ++ row'.come stages k)).1)
    (left : ((stages k).made (row.link 0).ended (row'.priv k) (row'.come stages k)).2 =
      ((stages k).made (row.link 0).ended (row.priv k) (taken ++ row'.come stages k)).2) :
    row.come stages k = taken ++ row'.come stages k ∧ (row.link k).items = taken ++ (row'.link k).items ∧
      (∀ j, j ≠ k → row'.come stages j = row.come stages j) ∧ row'.line stages n = row.line stages n := by
  have here : row.come stages k = taken ++ row'.come stages k := come_front ends others privs moves
  have after : ∀ j, k < j → row'.come stages j = row.come stages j := by
    intro j less
    induction j with
    | zero => omega
    | succ j ih =>
      by_cases next : j = k
      · subst next
        simp only [come, ends, here, gives]
      · simp only [come, ih (by omega), ends, others (j + 1) (by omega) (by omega), privs j next]
  have same : ∀ j, j ≠ k → row'.come stages j = row.come stages j := by
    intro j other
    rcases Nat.lt_or_gt_of_ne other with less | greater
    · exact come_before ends others privs less
    · exact after j greater
  refine ⟨here, moves, same, ?_⟩
  have states : ∀ j, (row'.line stages n).priv j = (row.line stages n).priv j := by
    intro j
    by_cases own : j = k
    · subst own
      simp only [line, if_pos inside, ends, left, here]
    · simp only [line, ends, privs j own, same j own]
  have out : (row'.line stages n).out = (row.line stages n).out := same n (by omega)
  exact Line.ext (funext states) out ends

end step

/-- Behind an end that was seen nothing is to come. -/
theorem Tidy.come_seen (tidy : row.Tidy stages n) (inside : k ≤ n) (behind : (row.link k).seen) :
    (row.link 0).ended ∧ row.come stages k = [] := by
  induction k with
  | zero => exact tidy.seen 0 inside behind
  | succ k ih =>
    obtain ⟨ends, empty⟩ := tidy.seen (k + 1) inside behind
    obtain ⟨saw, flushed⟩ := tidy.closed k inside ends
    obtain ⟨source, nothing⟩ := ih (by omega) saw
    simp [come, empty, nothing, source, Stage.made_ended, Stage.finish_none flushed]

theorem Tidy.come_ended (tidy : row.Tidy stages n) (inside : k ≤ n) (empty : (row.link k).items = []) (ends : (row.link k).ended) :
    (row.link 0).ended ∧ row.come stages k = [] := by
  cases k with
  | zero => exact ⟨ends, empty⟩
  | succ k =>
    obtain ⟨saw, flushed⟩ := tidy.closed k inside ends
    obtain ⟨source, nothing⟩ := tidy.come_seen (by omega) saw
    simp [come, empty, nothing, source, Stage.made_ended, Stage.finish_none flushed]

section flush

variable (item : ω) {after : Row σ ω} (ends : (after.link 0).ended = (row.link 0).ended) (source : (row.link 0).ended)
  (others : ∀ j, j ≠ k + 1 → (after.link j).items = (row.link j).items) (privs : ∀ j, j ≠ k → after.priv j = row.priv j)
  (nothing : row.come stages k = [])

include ends source others privs nothing in
/-- What a stage gives behind its input was to come. -/
private theorem flush_come (inside : k < n) (flushes : (stages k).flush (row.priv k) = some (item, after.priv k))
    (gives : (after.link (k + 1)).items = (row.link (k + 1)).items ++ [item]) :
    row.come stages k = [] ++ after.come stages k ∧ (row.link k).items = [] ++ (after.link k).items ∧
      (∀ j, j ≠ k → after.come stages j = row.come stages j) ∧ after.line stages n = row.line stages n := by
  have front : row.come stages k = [] ++ after.come stages k :=
    come_front ends (fun j _ next => others j next) privs (others k (by omega)).symm
  have still : after.come stages k = [] := by rw [← nothing, front, List.nil_append]
  have moves : (row.link k).items = [] ++ (after.link k).items := (others k (by omega)).symm
  apply come_step ends (fun j _ next => others j next) privs moves inside
  · rw [still, List.append_nil, source, Stage.made_ended, Stage.made_ended, Stage.finish_some flushes, gives]
    simp
  · rw [still, List.append_nil, source, Stage.made_ended, Stage.made_ended, Stage.finish_some flushes]

end flush

section still

variable (ends : (row'.link 0).ended = (row.link 0).ended) (queues : ∀ j, (row'.link j).items = (row.link j).items)
  (privs : row'.priv = row.priv)

include ends queues privs in
theorem come_still (k : Nat) : row'.come stages k = row.come stages k := by
  induction k with
  | zero => exact queues 0
  | succ k ih => simp only [come, ih, ends, queues, privs]

include ends queues privs in
theorem line_still (n : Nat) : row'.line stages n = row.line stages n := by
  simp only [line, come_still ends queues privs, ends, privs]

end still

/-- A turn that moves nothing. -/
private theorem still_come {after : Row σ ω} (ends : (after.link 0).ended = (row.link 0).ended)
    (queues : ∀ j, (after.link j).items = (row.link j).items) (privs : after.priv = row.priv) :
    row.come stages k = [] ++ after.come stages k ∧ (row.link k).items = [] ++ (after.link k).items ∧
      (∀ j, j ≠ k → after.come stages j = row.come stages j) ∧ after.line stages n = row.line stages n :=
  ⟨(come_still ends queues privs k).symm, (queues k).symm, fun j _ => come_still ends queues privs j, line_still ends queues privs n⟩

/-- A turn takes items in front of what is to come for its stage, and nothing else is to
come for any other. -/
theorem Tidy.turn_come {after : Row σ ω} (tidy : row.Tidy stages n) (inside : k < n) (turned : Turned (stages k) k row after) :
    ∃ taken, row.come stages k = taken ++ after.come stages k ∧ (row.link k).items = taken ++ (after.link k).items ∧
      (∀ j, j ≠ k → after.come stages j = row.come stages j) ∧ after.line stages n = row.line stages n := by
  cases turned with
  | @take item items queue =>
    refine ⟨[item], come_step ?_ ?_ ?_ ?_ inside ?_ ?_⟩
    · simp [unblock]
      grind
    · intro j here next
      simp [unblock, here, next]
    · intro j other
      simp [unblock, other]
    · simp [unblock, queue]
    · simp [unblock, Stage.made_cons]
    · simp [unblock, Stage.made_cons]
  | @see item state empty ends unseen flushes =>
    obtain ⟨source, nothing⟩ := tidy.come_ended (Nat.le_of_lt inside) empty ends
    refine ⟨[], flush_come item ?_ source ?_ ?_ nothing inside ?_ ?_⟩
    · simp [Row.see, block, unblock]
      grind
    · intro j next
      simp [Row.see, block, unblock, next]
      grind
    · intro j other
      simp [Row.see, block, unblock, other]
    · simpa [Row.see, block, unblock] using flushes
    · simp [Row.see, block, unblock]
  | seeEnd empty ends unseen flushed =>
    refine ⟨[], still_come ?_ ?_ ?_⟩
    · simp [Row.see, block, close, unblock]
      grind
    · intro j
      simp [Row.see, block, close, unblock]
      grind
    · rfl
  | @more item state empty behind saw wanted free flushes =>
    obtain ⟨source, nothing⟩ := tidy.come_ended (Nat.le_of_lt inside) empty behind
    refine ⟨[], flush_come item ?_ source ?_ ?_ nothing inside ?_ ?_⟩
    · simp [block]
    · intro j next
      simp [block, next]
    · intro j other
      simp [block, other]
    · simpa [block] using flushes
    · simp [block]
  | noMore empty behind saw wanted free flushed =>
    refine ⟨[], still_come ?_ ?_ ?_⟩
    · simp [block, close, unblock]
    · intro j
      simp [block, close, unblock]
      grind
    · rfl
  | ask empty goes =>
    refine ⟨[], still_come ?_ ?_ ?_⟩
    · simp [block, Row.ask]
      grind
    · intro j
      simp [block, Row.ask]
      grind
    · rfl
  | idle empty done idle => exact ⟨[], still_come rfl (fun j => rfl) rfl⟩

/-- What is still to be done at link `k` and by whoever is in front of it. An item that is
to come counts twice until it is queued, an end until it is told and until it is seen. -/
def toDo (stages : Nat → Stage σ ω) (row : Row σ ω) (k : Nat) : Nat :=
  2 * (row.come stages k).length - (row.link k).items.length + (!(row.link k).ended).toNat + (!(row.link k).seen).toNat

def unrest (row : Row σ ω) (k : Nat) : Nat := (!(row.link k).blocked).toNat + if 0 < row.ready k then 1 else 0

/-- How many turns the stages can take at most. -/
def rank (stages : Nat → Stage σ ω) (n : Nat) (row : Row σ ω) : Nat :=
  ∑ k ∈ Finset.range (n + 2), (5 * row.toDo stages k + row.unrest k)

theorem items_le (stages : Nat → Stage σ ω) (row : Row σ ω) (k : Nat) : (row.link k).items.length ≤ (row.come stages k).length := by
  cases k <;> simp [come]

theorem unrest_le (row : Row σ ω) (k : Nat) : row.unrest k ≤ 2 := by
  have bit := Bool.toNat_le (!(row.link k).blocked)
  rw [unrest]
  split <;> omega

private theorem sum_three {f : Nat → Nat} {k m : Nat} (inside : k + 2 < m) :
    ∑ j ∈ Finset.range m, f j =
      ∑ j ∈ Finset.range k, f j + (f k + f (k + 1) + f (k + 2)) + ∑ j ∈ Finset.Ico (k + 3) m, f j := by
  rw [← Finset.sum_range_add_sum_Ico f (show k + 3 ≤ m by omega), Finset.sum_range_succ, Finset.sum_range_succ, Finset.sum_range_succ]
  omega

private theorem sum_lt {f g : Nat → Nat} {m : Nat} (inside : k + 2 < m) (others : ∀ j, j ≠ k → j ≠ k + 1 → j ≠ k + 2 → f j = g j)
    (less : f k + f (k + 1) + f (k + 2) < g k + g (k + 1) + g (k + 2)) :
    ∑ j ∈ Finset.range m, f j < ∑ j ∈ Finset.range m, g j := by
  rw [sum_three inside, sum_three inside]
  have before : ∑ j ∈ Finset.range k, f j = ∑ j ∈ Finset.range k, g j := by
    apply Finset.sum_congr rfl
    intro j member
    have less := Finset.mem_range.mp member
    exact others j (by omega) (by omega) (by omega)
  have behind : ∑ j ∈ Finset.Ico (k + 3) m, f j = ∑ j ∈ Finset.Ico (k + 3) m, g j := by
    apply Finset.sum_congr rfl
    intro j member
    have more := (Finset.mem_Ico.mp member).1
    exact others j (by omega) (by omega) (by omega)
  omega

/-- The cells of the measure that a turn of stage `k` can change. -/
private theorem cell_other {after : Row σ ω} {j : Nat} (turned : Turned (stages k) k row after) (come : after.come stages j = row.come stages j)
    (here : j ≠ k) (next : j ≠ k + 1) (last : j ≠ k + 2) :
    5 * after.toDo stages j + after.unrest j = 5 * row.toDo stages j + row.unrest j := by
  have link : after.link j = row.link j := by
    cases turned with
    | take => rw [arrive_list_link _ next last]; simp [unblock, here, next]
    | _ => simp [Row.see, block, close, Row.arrive, Row.ask, unblock, here, next, last]
  have ready : after.ready j = row.ready j := by
    cases turned with
    | take => rw [arrive_list_ready _ last]; simp [unblock, next]
    | _ => simp [Row.see, block, close, Row.arrive, Row.ask, unblock, here, next, last]
  rw [toDo, toDo, unrest, unrest, link, ready, come]

private theorem cells_lt {after : Row σ ω} (awake : 0 < row.ready (k + 1))
    (work : after.toDo stages k + after.toDo stages (k + 1) + after.toDo stages (k + 2) <
      row.toDo stages k + row.toDo stages (k + 1) + row.toDo stages (k + 2))
    (blocked : (after.link k).blocked = (row.link k).blocked) :
    5 * after.toDo stages k + after.unrest k + (5 * after.toDo stages (k + 1) + after.unrest (k + 1)) +
        (5 * after.toDo stages (k + 2) + after.unrest (k + 2)) <
      5 * row.toDo stages k + row.unrest k + (5 * row.toDo stages (k + 1) + row.unrest (k + 1)) +
        (5 * row.toDo stages (k + 2) + row.unrest (k + 2)) := by
  have first : after.unrest k ≤ row.unrest k + 1 := by
    rw [unrest, unrest, blocked]
    split <;> split <;> omega
  have second : 1 ≤ row.unrest (k + 1) := by
    rw [unrest, if_pos awake]
    omega
  have second' := after.unrest_le (k + 1)
  have third := after.unrest_le (k + 2)
  omega

/-- Every turn of a stage that is ready brings the row closer to its rest. -/
theorem Tidy.turn_rank {after : Row σ ω} (tidy : row.Tidy stages n) (inside : k < n) (awake : 0 < row.ready (k + 1))
    (turned : Turned (stages k) k row after) : after.rank stages n < row.rank stages n := by
  obtain ⟨taken, front, moves, others, -⟩ := tidy.turn_come inside turned
  apply sum_lt (show k + 2 < n + 2 by omega)
  · intro j here next last
    exact cell_other turned (others j here) here next last
  have first := congrArg List.length front
  have moved := congrArg List.length moves
  rw [List.length_append] at first moved
  have second := others (k + 1) (by omega)
  have third := others (k + 2) (by omega)
  have fits := after.items_le stages k
  have fits' := row.items_le stages (k + 1)
  obtain ⟨result, same⟩ : ∃ result, result = after := ⟨after, rfl⟩
  rw [← same] at turned
  cases turned with
  | @take item items queue =>
    have own : (after.link k).items = items := by simp [← same, unblock]
    have next : (after.link (k + 1)).items.length = (row.link (k + 1)).items.length + ((stages k).step (row.priv k) item).1.length := by
      simp [← same, unblock]
    have last : (after.link (k + 2)).items = (row.link (k + 2)).items := by simp [← same, unblock]
    have ended : ∀ j, (after.link j).ended = (row.link j).ended := by
      intro j
      simp only [← same, unblock, arrive_list_ended, wake_link, setPriv_link, onLink_link, rest_link]
      grind
    have seen : ∀ j, (after.link j).seen = (row.link j).seen := by
      intro j
      simp only [← same, unblock, arrive_list_seen, wake_link, setPriv_link, onLink_link, rest_link]
      grind
    have blocked : (after.link k).blocked = (row.link k).blocked := by
      rw [← same, arrive_list_link _ (by omega) (by omega)]
      simp [unblock]
    rw [queue, own, List.length_cons] at moved
    apply cells_lt awake _ blocked
    simp only [toDo, second, third, own, next, last, ended, seen, queue, List.length_cons]
    rw [own] at fits
    omega
  | @see item state empty ends unseen flushes =>
    have own : (after.link k).items = [] := by simp [← same, Row.see, block, unblock, empty]
    have next : (after.link (k + 1)).items = (row.link (k + 1)).items ++ [item] := by simp [← same, Row.see, block, unblock]
    have last : (after.link (k + 2)).items = (row.link (k + 2)).items := by simp [← same, Row.see, block, unblock]
    have ended : ∀ j, (after.link j).ended = (row.link j).ended := by
      intro j
      simp only [← same, Row.see, block, unblock, arrive_ended, wake_link, setPriv_link, onLink_link, rest_link]
      grind
    have seen : (after.link k).seen := by simp [← same, Row.see, block, unblock]
    have seen' : ∀ j, j ≠ k → (after.link j).seen = (row.link j).seen := by
      intro j other
      simp [← same, Row.see, block, unblock, other]
      grind
    have blocked : (after.link k).blocked = (row.link k).blocked := by
      simp only [← same, Row.see, block, unblock, Row.arrive, wake_link, setPriv_link, onLink_link, rest_link]
      grind
    apply cells_lt awake _ blocked
    simp only [toDo, second, third, own, next, last, ended, seen, seen' (k + 1) (by omega), seen' (k + 2) (by omega), empty]
    have bit : (!(row.link k).seen).toNat = 1 := by simp [unseen]
    simp only [List.length_append, List.length_nil, List.length_singleton, Bool.not_true, Bool.toNat_false] at *
    omega
  | seeEnd empty ends unseen flushed =>
    have items : ∀ j, (after.link j).items = (row.link j).items := by
      intro j
      simp only [← same, Row.see, block, close, unblock, wake_link, onLink_link, rest_link]
      grind
    have told : (after.link (k + 1)).ended := by simp [← same, Row.see, block, close, unblock]
    have ended : ∀ j, j ≠ k + 1 → (after.link j).ended = (row.link j).ended := by
      intro j other
      simp only [← same, Row.see, block, close, unblock, wake_link, onLink_link, rest_link]
      grind
    have seen : (after.link k).seen := by
      simp only [← same, Row.see, block, close, unblock, wake_link, onLink_link, rest_link]
      grind
    have seen' : ∀ j, j ≠ k → (after.link j).seen = (row.link j).seen := by
      intro j other
      simp only [← same, Row.see, block, close, unblock, wake_link, onLink_link, rest_link]
      grind
    have blocked : (after.link k).blocked = (row.link k).blocked := by
      simp only [← same, Row.see, block, close, unblock, wake_link, onLink_link, rest_link]
      grind
    apply cells_lt awake _ blocked
    have bit : (!(row.link k).seen).toNat = 1 := by simp [unseen]
    simp only [toDo, second, third, items, told, ended k (by omega), ended (k + 2) (by omega), seen, seen' (k + 1) (by omega),
      seen' (k + 2) (by omega), empty, List.length_nil, Bool.not_true, Bool.toNat_false] at *
    omega
  | @more item state empty behind saw wanted free flushes =>
    have own : (after.link k).items = [] := by simp [← same, block, empty]
    have next : (after.link (k + 1)).items = (row.link (k + 1)).items ++ [item] := by simp [← same, block]
    have last : (after.link (k + 2)).items = (row.link (k + 2)).items := by simp [← same, block]
    have ended : ∀ j, (after.link j).ended = (row.link j).ended := by
      intro j
      simp only [← same, block, arrive_ended, setPriv_link, onLink_link, rest_link]
      grind
    have seen : ∀ j, (after.link j).seen = (row.link j).seen := by
      intro j
      simp only [← same, block, arrive_seen, setPriv_link, onLink_link, rest_link]
      grind
    have blocked : (after.link k).blocked = (row.link k).blocked := by
      simp only [← same, block, unblock, Row.arrive, wake_link, setPriv_link, onLink_link, rest_link]
      grind
    apply cells_lt awake _ blocked
    have room := after.items_le stages (k + 1)
    simp only [toDo, second, third, own, next, last, ended, seen, empty, List.length_append, List.length_nil,
      List.length_singleton] at *
    omega
  | noMore empty behind saw wanted free flushed =>
    have items : ∀ j, (after.link j).items = (row.link j).items := by
      intro j
      simp only [← same, block, close, unblock, wake_link, onLink_link, rest_link]
      grind
    have goes : (row.link (k + 1)).ended = false := by
      have silent := tidy.silent (k + 1) inside
      grind
    have told : (after.link (k + 1)).ended := by simp [← same, block, close, unblock]
    have ended : ∀ j, j ≠ k + 1 → (after.link j).ended = (row.link j).ended := by
      intro j other
      simp only [← same, block, close, unblock, wake_link, onLink_link, rest_link]
      grind
    have seen : ∀ j, (after.link j).seen = (row.link j).seen := by
      intro j
      simp only [← same, block, close, unblock, wake_link, onLink_link, rest_link]
      grind
    have blocked : (after.link k).blocked = (row.link k).blocked := by
      simp only [← same, block, close, unblock, wake_link, onLink_link, rest_link]
      grind
    apply cells_lt awake _ blocked
    simp only [toDo, second, third, items, told, goes, ended k (by omega), ended (k + 2) (by omega), seen, empty, List.length_nil,
      Bool.not_true, Bool.toNat_false, Bool.not_false, Bool.toNat_true] at *
    omega
  | ask empty goes wanted free =>
    have items : ∀ j, (after.link j).items = (row.link j).items := by
      intro j
      simp only [← same, block, Row.ask, wake_link, onLink_link, rest_link]
      grind
    have ended : ∀ j, (after.link j).ended = (row.link j).ended := by
      intro j
      simp only [← same, block, Row.ask, wake_link, onLink_link, rest_link]
      grind
    have seen : ∀ j, (after.link j).seen = (row.link j).seen := by
      intro j
      simp only [← same, block, Row.ask, wake_link, onLink_link, rest_link]
      grind
    have blocked : (after.link k).blocked = (row.link k).blocked := by
      simp only [← same, block, Row.ask, wake_link, onLink_link, rest_link]
      grind
    have told : (after.link (k + 1)).blocked := by simp [← same, block, Row.ask]
    have blocked' : (after.link (k + 2)).blocked = (row.link (k + 2)).blocked := by simp [← same, block, Row.ask]
    have ready : after.ready (k + 1) = 0 := by simp [← same, block, Row.ask]
    have ready' : after.ready (k + 2) = row.ready (k + 2) := by simp [← same, block, Row.ask]
    have bit : (!(row.link (k + 1)).blocked).toNat = 1 := by simp [free]
    simp only [toDo, unrest, second, third, items, ended, seen, blocked, told, blocked', ready, ready', if_pos awake, bit, Bool.not_true,
      Bool.toNat_false] at *
    split <;> split <;> omega
  | idle empty done idle =>
    have link : after.link = row.link := by simp [← same]
    have ready : after.ready (k + 1) = 0 := by simp [← same]
    have ready' : ∀ j, j ≠ k + 1 → after.ready j = row.ready j := by
      intro j other
      simp [← same, other]
    simp only [toDo, unrest, second, third, link, ready, ready' k (by omega), ready' (k + 2) (by omega), if_pos awake,
      if_neg (Nat.lt_irrefl 0)] at *
    omega

/-- Whoever is ready for nothing comes to rest. -/
theorem rest_rank {i : Nat} (inside : i < n + 2) (awake : 0 < row.ready i) : (row.rest i).rank stages n < row.rank stages n := by
  have comes : ∀ j, (row.rest i).come stages j = row.come stages j := come_still rfl (fun _ => rfl) rfl
  have cell : ∀ j, 5 * (row.rest i).toDo stages j + (row.rest i).unrest j ≤ 5 * row.toDo stages j + row.unrest j := by
    intro j
    simp only [toDo, unrest, comes, rest_link, rest_ready]
    grind
  apply Finset.sum_lt_sum (fun j _ => cell j)
  refine ⟨i, Finset.mem_range.mpr inside, ?_⟩
  simp only [toDo, unrest, comes, rest_link, rest_ready, if_pos awake]
  simp

theorem come_fresh (priv : Nat → σ) (k : Nat) : (Row.fresh priv : Row σ ω).come stages k = [] := by
  induction k with
  | zero => rfl
  | succ k ih =>
    rw [come, ih]
    rfl

theorem line_fresh (priv : Nat → σ) (n : Nat) : (Row.fresh priv : Row σ ω).line stages n = ⟨priv, [], false⟩ := by
  refine Line.ext ?_ (come_fresh priv n) rfl
  funext k
  simp only [line, come_fresh]
  split <;> rfl

theorem rest_line (i n : Nat) : (row.rest i).line stages n = row.line stages n :=
  line_still (show ((row.rest i).link 0).ended = (row.link 0).ended from rfl) (fun _ => rfl) rfl n

/-- Where nothing is queued and the source goes on, nothing else is to come. -/
private theorem come_starved (goes : (row.link 0).ended = false) (empty : ∀ j < k, (row.link j).items = []) :
    row.come stages k = (row.link k).items := by
  induction k with
  | zero => rfl
  | succ k ih =>
    rw [come, ih (fun j less => empty j (by omega)), empty k (by omega), goes, Stage.made_nil, List.append_nil]

/-- When nobody is ready, whoever asked was not given anything. -/
theorem Tidy.asleep (tidy : row.Tidy stages n) (asleep : ∀ i ≤ n, row.ready i = 0) (wanted : (row.link n).wanted) :
    (row.line stages n).out = (row.link n).items ∧ (row.line stages n).ended = false := by
  have back : ∀ j ≤ n, (row.link (n - j)).wanted := by
    intro j inside
    induction j with
    | zero => exact wanted
    | succ j ih =>
      have asked := tidy.asked (n - j) (by omega) (ih (by omega))
      have blocked : (row.link (n - j)).blocked := by
        by_contra free
        have awake := asked free
        have least := asleep (n - j) (by omega)
        omega
      have next : n - j = n - (j + 1) + 1 := by omega
      rw [next] at blocked
      exact tidy.passed (n - (j + 1)) (by omega) blocked
  have source : (row.link 0).wanted := by simpa using back n (Nat.le_refl n)
  have goes : (row.link 0).ended = false := by
    have silent := tidy.silent 0 (Nat.zero_le n)
    grind
  have empty : ∀ j < n, (row.link j).items = [] := by
    intro j inside
    by_contra busy
    have awake := tidy.queued j inside busy
    have least := asleep (j + 1) (by omega)
    omega
  exact ⟨come_starved goes empty, goes⟩

/-- When the turn is the source's and it has nothing, there is nothing to come. -/
theorem Tidy.dry (tidy : row.Tidy stages n) (most : ∀ i ≤ n, row.ready i ≤ row.ready 0) (wanted : (row.link 0).wanted) :
    (row.line stages n).out = (row.link n).items ∧ (row.line stages n).ended = false := by
  have goes : (row.link 0).ended = false := by
    have silent := tidy.silent 0 (Nat.zero_le n)
    grind
  have empty : ∀ j < n, (row.link j).items = [] := by
    intro j inside
    by_contra busy
    have awake := tidy.queued j inside busy
    have least := most (j + 1) (by omega)
    have source := tidy.source
    omega
  exact ⟨come_starved goes empty, goes⟩

/-- Behind the end of the last link nothing comes out any more. -/
theorem Tidy.at_end (tidy : row.Tidy stages n) (empty : (row.link n).items = []) (ends : (row.link n).ended) :
    (row.line stages n).out = [] ∧ (row.line stages n).ended := by
  obtain ⟨source, nothing⟩ := tidy.come_ended (Nat.le_refl n) empty ends
  exact ⟨nothing, source⟩

/-- What is taken at the sink was the next thing to come out. -/
theorem sink_take_line (stages : Nat → Stage σ ω) (queue : (row.link n).items = item :: items) :
    (row.line stages n).out = item :: ((row.onLink n fun link => { link with items }).line stages n).out ∧
      (row.onLink n fun link => { link with items }).line stages n =
        { row.line stages n with out := ((row.onLink n fun link => { link with items }).line stages n).out } := by
  have ended : ((row.onLink n fun link => { link with items }).link 0).ended = (row.link 0).ended := by
    simp only [onLink_link]
    grind
  have comes : ∀ j < n, (row.onLink n fun link => { link with items }).come stages j = row.come stages j := by
    intro j less
    induction j with
    | zero => simp [come, show ¬0 = n by omega]
    | succ j ih => simp [come, ih (by omega), show ¬j + 1 = n by omega, show ¬0 = n by omega]
  have states : ∀ j, ((row.onLink n fun link => { link with items }).line stages n).priv j = (row.line stages n).priv j := by
    intro j
    by_cases inside : j < n
    · simp only [line, if_pos inside, ended, comes j inside, onLink_priv]
    · simp only [line, if_neg inside, onLink_priv]
  refine ⟨?_, Line.ext (funext states) rfl ended⟩
  cases n with
  | zero => simp [line, come, queue]
  | succ n => simp [line, come, comes n (by omega), queue]

end Row
end Pipeline
