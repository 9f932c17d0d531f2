import Mathlib.Logic.Function.Basic
import Mathlib.Data.List.Basic

/-! Stages in a row. Each one makes items of the items it takes, and some more once there
will be no others. What the row makes of its input does not depend on how far each of its
stages is. -/

namespace Pipeline

variable {σ ω : Type}

/-- A stage gives out what is left in it item by item, and this ends. -/
structure Stage (σ ω : Type) where
  step : σ → ω → List ω × σ
  flush : σ → Option (ω × σ)
  left : σ → Nat
  left_flush : ∀ state item next, flush state = some (item, next) → left next < left state

namespace Stage

variable (stage : Stage σ ω)

def run (state : σ) : List ω → List ω × σ
  | [] => ([], state)
  | item :: items =>
    let first := stage.step state item
    let rest := run first.2 items
    (first.1 ++ rest.1, rest.2)

def drain : Nat → σ → List ω × σ
  | 0, state => ([], state)
  | count + 1, state =>
    match stage.flush state with
    | none => ([], state)
    | some (item, next) => (item :: (drain count next).1, (drain count next).2)

def finish (state : σ) : List ω × σ := stage.drain (stage.left state) state

/-- What a stage makes of its items, with what is left in it if they were the last ones. -/
def made (ended : Bool) (state : σ) (items : List ω) : List ω × σ :=
  let first := stage.run state items
  let rest := if ended then stage.finish first.2 else ([], first.2)
  (first.1 ++ rest.1, rest.2)

variable {stage} {state next : σ} {item : ω} {items more : List ω}

theorem run_append (state : σ) (items more : List ω) :
    stage.run state (items ++ more) =
      ((stage.run state items).1 ++ (stage.run (stage.run state items).2 more).1,
        (stage.run (stage.run state items).2 more).2) := by
  induction items generalizing state with
  | nil => simp [run]
  | cons item items ih => simp [run, ih]

private theorem drain_none (empty : stage.flush state = none) (count : Nat) : stage.drain count state = ([], state) := by
  cases count with
  | zero => rfl
  | succ count => simp [drain, empty]

private theorem drain_succ {count : Nat} (enough : stage.left state ≤ count) :
    stage.drain (count + 1) state = stage.drain count state := by
  induction count generalizing state with
  | zero =>
    cases flushes : stage.flush state with
    | none => simp [drain, flushes]
    | some given =>
      have less := stage.left_flush state given.1 given.2 flushes
      omega
  | succ count ih =>
    cases flushes : stage.flush state with
    | none => rw [drain_none flushes, drain_none flushes]
    | some given =>
      have less := stage.left_flush state given.1 given.2 flushes
      have rest : stage.drain (count + 1) given.2 = stage.drain count given.2 := ih (by omega)
      simp only [drain, flushes]
      rw [← rest]
      simp only [drain]

private theorem drain_enough {count : Nat} (enough : stage.left state ≤ count) : stage.drain count state = stage.finish state := by
  induction enough with
  | refl => rfl
  | step enough ih => rw [drain_succ enough, ih]

theorem finish_none (empty : stage.flush state = none) : stage.finish state = ([], state) := drain_none empty _

theorem finish_some (flushes : stage.flush state = some (item, next)) :
    stage.finish state = (item :: (stage.finish next).1, (stage.finish next).2) := by
  have less := stage.left_flush state item next flushes
  obtain ⟨count, left⟩ : ∃ count, stage.left state = count + 1 := ⟨stage.left state - 1, by omega⟩
  rw [finish, left]
  simp only [drain, flushes]
  rw [drain_enough (by omega)]

theorem made_nil (state : σ) : stage.made false state [] = ([], state) := rfl

theorem made_ended (state : σ) : stage.made true state [] = stage.finish state := by simp [made, run]

theorem made_cons (ended : Bool) (state : σ) (item : ω) (items : List ω) :
    stage.made ended state (item :: items) =
      ((stage.step state item).1 ++ (stage.made ended (stage.step state item).2 items).1,
        (stage.made ended (stage.step state item).2 items).2) := by
  simp [made, run]

/-- Items that come later are made something of in the state the first ones lead to. -/
theorem made_append (ended : Bool) (state : σ) (items more : List ω) :
    stage.made ended state (items ++ more) =
      ((stage.made false state items).1 ++ (stage.made ended (stage.made false state items).2 more).1,
        (stage.made ended (stage.made false state items).2 more).2) := by
  simp [made, run_append]

end Stage

/-- What waits between two stages. The side that gives items says that they have `ended`
and is `blocked` when it could not give one; the side that takes them has `seen` the end and
says when one is `wanted`. -/
structure Link (ω : Type) where
  items : List ω
  ended : Bool
  seen : Bool
  wanted : Bool
  blocked : Bool
  deriving DecidableEq

/-- Stage `k` is between the links `k` and `k + 1`, with its readiness at `k + 1`: the
source is at 0. -/
@[ext] structure Row (σ ω : Type) where
  link : Nat → Link ω
  ready : Nat → Nat
  priv : Nat → σ

namespace Row

/-- Nothing has happened on the links yet. -/
def fresh (priv : Nat → σ) : Row σ ω := ⟨fun _ => ⟨[], false, false, false, false⟩, fun _ => 0, priv⟩

def onLink (row : Row σ ω) (k : Nat) (change : Link ω → Link ω) : Row σ ω :=
  { row with link := Function.update row.link k (change (row.link k)) }

def wake (row : Row σ ω) (i priority : Nat) : Row σ ω :=
  { row with ready := Function.update row.ready i (max (row.ready i) priority) }

def rest (row : Row σ ω) (i : Nat) : Row σ ω := { row with ready := Function.update row.ready i 0 }

def setPriv (row : Row σ ω) (k : Nat) (state : σ) : Row σ ω := { row with priv := Function.update row.priv k state }

def unblock (row : Row σ ω) (k : Nat) : Row σ ω := row.onLink k fun link => { link with blocked := false }

def block (row : Row σ ω) (k : Nat) : Row σ ω := row.onLink k fun link => { link with blocked := true }

/-- An item comes to a link. -/
def arrive (k : Nat) (row : Row σ ω) (item : ω) : Row σ ω :=
  ((row.onLink k fun link => { link with items := link.items ++ [item], wanted := false, blocked := false }).unblock (k + 1)).wake
    (k + 1) 300

/-- There will be no more items on a link. -/
def close (k : Nat) (row : Row σ ω) : Row σ ω :=
  ((row.onLink k fun link => { link with ended := true, wanted := false, blocked := false }).unblock (k + 1)).wake (k + 1) 200

/-- The end of a link is taken note of. -/
def see (k : Nat) (row : Row σ ω) : Row σ ω :=
  ((row.onLink k fun link => { link with seen := true }).unblock (k + 1)).wake k 200

def ask (k : Nat) (row : Row σ ω) : Row σ ω := (row.onLink k fun link => { link with wanted := true }).wake k 100

/-- A stage whose input has ended gives what is left in it. -/
def flush (stage : Stage σ ω) (k : Nat) (row : Row σ ω) : Row σ ω :=
  match stage.flush (row.priv k) with
  | none => row.close (k + 1)
  | some (item, next) => (row.setPriv k next).arrive (k + 1) item

/-- A stage is asked for an item, and asks for one itself. -/
def request (stage : Stage σ ω) (k : Nat) (row : Row σ ω) : Row σ ω :=
  let row := row.block (k + 1)
  if (row.link k).ended then flush stage k (if (row.link k).seen then row else row.see k) else row.ask k

/-- A turn of a stage: with an item, else with the end of its input, else on demand. -/
def turn (stage : Stage σ ω) (k : Nat) (row : Row σ ω) : Row σ ω :=
  let row := row.rest (k + 1)
  match (row.link k).items with
  | item :: items =>
    let made := stage.step (row.priv k) item
    let row := ((row.onLink k fun link => { link with items }).unblock (k + 1)).setPriv k made.2
    (made.1.foldl (arrive (k + 1)) row).wake (k + 1) 300
  | [] =>
    if (row.link k).ended ∧ ¬(row.link k).seen then (row.request stage k).wake (k + 1) 200
    else if (row.link (k + 1)).wanted ∧ ¬(row.link (k + 1)).blocked then row.request stage k
    else row

variable {row : Row σ ω} {stage : Stage σ ω} {stages : Nat → Stage σ ω} {n k : Nat} {item : ω} {items : List ω}

@[simp] theorem onLink_link (change : Link ω → Link ω) (j : Nat) :
    (row.onLink k change).link j = if j = k then change (row.link k) else row.link j := Function.update_apply ..

@[simp] theorem onLink_ready (change : Link ω → Link ω) : (row.onLink k change).ready = row.ready := rfl

@[simp] theorem onLink_priv (change : Link ω → Link ω) : (row.onLink k change).priv = row.priv := rfl

@[simp] theorem wake_link (i priority : Nat) : (row.wake i priority).link = row.link := rfl

@[simp] theorem wake_ready (i priority j : Nat) :
    (row.wake i priority).ready j = if j = i then max (row.ready i) priority else row.ready j := Function.update_apply ..

@[simp] theorem wake_priv (i priority : Nat) : (row.wake i priority).priv = row.priv := rfl

@[simp] theorem rest_link (i : Nat) : (row.rest i).link = row.link := rfl

@[simp] theorem rest_ready (i j : Nat) : (row.rest i).ready j = if j = i then 0 else row.ready j := Function.update_apply ..

@[simp] theorem rest_priv (i : Nat) : (row.rest i).priv = row.priv := rfl

@[simp] theorem setPriv_link (state : σ) : (row.setPriv k state).link = row.link := rfl

@[simp] theorem setPriv_ready (state : σ) : (row.setPriv k state).ready = row.ready := rfl

@[simp] theorem setPriv_priv (state : σ) (j : Nat) : (row.setPriv k state).priv j = if j = k then state else row.priv j :=
  Function.update_apply ..

@[simp] theorem arrive_items (j : Nat) :
    ((arrive k row item).link j).items = if j = k then (row.link k).items ++ [item] else (row.link j).items := by
  simp only [arrive, unblock, wake_link, onLink_link]
  grind

@[simp] theorem arrive_ended (j : Nat) : ((arrive k row item).link j).ended = (row.link j).ended := by
  simp only [arrive, unblock, wake_link, onLink_link]
  grind

@[simp] theorem arrive_seen (j : Nat) : ((arrive k row item).link j).seen = (row.link j).seen := by
  simp only [arrive, unblock, wake_link, onLink_link]
  grind

@[simp] theorem arrive_priv : (arrive k row item).priv = row.priv := rfl

section several

variable (items : List ω)

@[simp] theorem arrive_list_items (j : Nat) :
    ((items.foldl (arrive k) row).link j).items = if j = k then (row.link k).items ++ items else (row.link j).items := by
  induction items generalizing row with
  | nil => grind
  | cons item items ih =>
    simp only [List.foldl_cons, ih, arrive_items]
    grind

@[simp] theorem arrive_list_ended (j : Nat) : ((items.foldl (arrive k) row).link j).ended = (row.link j).ended := by
  induction items generalizing row with
  | nil => rfl
  | cons item items ih => simp [ih]

@[simp] theorem arrive_list_seen (j : Nat) : ((items.foldl (arrive k) row).link j).seen = (row.link j).seen := by
  induction items generalizing row with
  | nil => rfl
  | cons item items ih => simp [ih]

@[simp] theorem arrive_list_priv : (items.foldl (arrive k) row).priv = row.priv := by
  induction items generalizing row with
  | nil => rfl
  | cons item items ih => simp [ih]

/-- Only the link and the one behind it notice. -/
theorem arrive_list_link {j : Nat} (here : j ≠ k) (next : j ≠ k + 1) : (items.foldl (arrive k) row).link j = row.link j := by
  induction items generalizing row with
  | nil => rfl
  | cons item items ih =>
    rw [List.foldl_cons, ih]
    simp [arrive, unblock, here, next]

theorem arrive_list_ready {j : Nat} (next : j ≠ k + 1) : (items.foldl (arrive k) row).ready j = row.ready j := by
  induction items generalizing row with
  | nil => rfl
  | cons item items ih =>
    rw [List.foldl_cons, ih]
    simp [arrive, unblock, next]

end several

private theorem foldl_arrive_wake (row : Row σ ω) (i priority : Nat) (items : List ω) :
    items.foldl (arrive k) (row.wake i priority) = (items.foldl (arrive k) row).wake i priority := by
  induction items generalizing row with
  | nil => rfl
  | cons item items ih =>
    have swaps : arrive k (row.wake i priority) item = (arrive k row item).wake i priority := by
      refine Row.ext rfl ?_ rfl
      funext j
      simp only [arrive, unblock, onLink_ready, wake_ready]
      grind
    rw [List.foldl_cons, List.foldl_cons, swaps, ih]

/-- A stage that is asked behind the end of its input has seen it. -/
theorem request_seen (stage : Stage σ ω) (ends : (row.link k).ended) : ((row.request stage k).link k).seen := by
  have ends' : ((row.block (k + 1)).link k).ended := by simpa [block] using ends
  have saw : ((if ((row.block (k + 1)).link k).seen then row.block (k + 1) else (row.block (k + 1)).see k).link k).seen := by
    split
    · case isTrue seen => exact seen
    · simp only [see, block, unblock, wake_link, onLink_link]
      grind
  rw [request, if_pos ends', flush]
  split
  · simp only [close, unblock, wake_link, onLink_link]
    grind
  · simpa using saw

/-- What a turn of a stage comes to. -/
inductive Turned (stage : Stage σ ω) (k : Nat) (row : Row σ ω) : Row σ ω → Prop where
  | take {item : ω} {items : List ω} (queue : (row.link k).items = item :: items) :
      Turned stage k row ((stage.step (row.priv k) item).1.foldl (arrive (k + 1))
        (((((row.rest (k + 1)).onLink k fun link => { link with items }).unblock (k + 1)).setPriv k
          (stage.step (row.priv k) item).2).wake (k + 1) 300))
  | see {item : ω} {state : σ} (empty : (row.link k).items = []) (ends : (row.link k).ended) (unseen : ¬(row.link k).seen)
      (flushes : stage.flush (row.priv k) = some (item, state)) :
      Turned stage k row (((((((row.rest (k + 1)).block (k + 1)).see k).setPriv k state).arrive (k + 1)) item).wake (k + 1) 200)
  | seeEnd (empty : (row.link k).items = []) (ends : (row.link k).ended) (unseen : ¬(row.link k).seen)
      (flushed : stage.flush (row.priv k) = none) :
      Turned stage k row (((((row.rest (k + 1)).block (k + 1)).see k).close (k + 1)).wake (k + 1) 200)
  | more {item : ω} {state : σ} (empty : (row.link k).items = []) (behind : (row.link k).ended) (saw : (row.link k).seen)
      (wanted : (row.link (k + 1)).wanted) (free : ¬(row.link (k + 1)).blocked)
      (flushes : stage.flush (row.priv k) = some (item, state)) :
      Turned stage k row (((((row.rest (k + 1)).block (k + 1)).setPriv k state).arrive (k + 1)) item)
  | noMore (empty : (row.link k).items = []) (behind : (row.link k).ended) (saw : (row.link k).seen)
      (wanted : (row.link (k + 1)).wanted) (free : ¬(row.link (k + 1)).blocked) (flushed : stage.flush (row.priv k) = none) :
      Turned stage k row (((row.rest (k + 1)).block (k + 1)).close (k + 1))
  | ask (empty : (row.link k).items = []) (goes : ¬(row.link k).ended) (wanted : (row.link (k + 1)).wanted)
      (free : ¬(row.link (k + 1)).blocked) : Turned stage k row (((row.rest (k + 1)).block (k + 1)).ask k)
  | idle (empty : (row.link k).items = []) (done : (row.link k).ended → (row.link k).seen)
      (idle : (row.link (k + 1)).wanted → (row.link (k + 1)).blocked) : Turned stage k row (row.rest (k + 1))

theorem turned (stage : Stage σ ω) (k : Nat) (row : Row σ ω) : Turned stage k row (row.turn stage k) := by
  rw [turn]
  dsimp only
  split
  · case h_1 item items queue =>
    rw [← foldl_arrive_wake]
    exact .take queue
  · case h_2 empty =>
    rw [rest_link] at empty ⊢
    split
    · case isTrue ending =>
      obtain ⟨ends, unseen⟩ := ending
      have ends' : (((row.rest (k + 1)).block (k + 1)).link k).ended := by simpa [block] using ends
      have unseen' : ¬(((row.rest (k + 1)).block (k + 1)).link k).seen := by simpa [block] using unseen
      rw [request, if_pos ends', if_neg unseen', flush]
      split
      · case h_1 flushed => exact .seeEnd empty ends unseen flushed
      · case h_2 flushes => exact .see empty ends unseen flushes
    · case isFalse done =>
      have done : (row.link k).ended → (row.link k).seen := by simpa using done
      split
      · case isTrue asked =>
        obtain ⟨wanted, free⟩ := asked
        have ends' : (((row.rest (k + 1)).block (k + 1)).link k).ended = (row.link k).ended := by simp [block]
        have seen' : (((row.rest (k + 1)).block (k + 1)).link k).seen = (row.link k).seen := by simp [block]
        rw [request, ends', seen']
        split
        · case isTrue behind =>
          rw [if_pos (done behind), flush]
          split
          · case h_1 flushed => exact .noMore empty behind (done behind) wanted free flushed
          · case h_2 flushes => exact .more empty behind (done behind) wanted free flushes
        · case isFalse goes => exact .ask empty goes wanted free
      · case isFalse idle => exact .idle empty done (by simpa using idle)

private theorem arrive_waits {j : Nat} (waits : (row.link j).wanted ∨ (row.link j).items ≠ []) (item : ω) :
    ((arrive k row item).link j).wanted ∨ ((arrive k row item).link j).items ≠ [] := by
  by_cases here : j = k
  · exact .inr (by simp [here])
  · simp only [arrive, unblock, wake_link, onLink_link]
    grind

private theorem arrive_list_waits {j : Nat} (waits : (row.link j).wanted ∨ (row.link j).items ≠ []) (items : List ω) :
    ((items.foldl (arrive k) row).link j).wanted ∨ ((items.foldl (arrive k) row).link j).items ≠ [] := by
  induction items generalizing row with
  | nil => exact waits
  | cons item items ih => exact ih (arrive_waits waits item)

/-- A link goes on wanting an item until one comes or none will. -/
theorem Turned.waits {after : Row σ ω} {j : Nat} (turned : Turned stage k row after) (wanted : (row.link j).wanted) :
    (after.link j).wanted ∨ (after.link j).items ≠ [] ∨ (after.link j).ended := by
  have come (queued : (after.link j).wanted ∨ (after.link j).items ≠ []) :
      (after.link j).wanted ∨ (after.link j).items ≠ [] ∨ (after.link j).ended := queued.imp_right .inl
  cases turned with
  | take queue =>
    apply come
    apply arrive_list_waits
    simp only [unblock, wake_link, setPriv_link, onLink_link, rest_link]
    grind
  | see empty ends unseen flushes =>
    apply come
    apply arrive_waits
    simp only [Row.see, Row.block, unblock, wake_link, setPriv_link, onLink_link, rest_link]
    grind
  | more empty behind saw wanted free flushes =>
    apply come
    apply arrive_waits
    simp only [Row.block, setPriv_link, onLink_link, rest_link]
    grind
  | _ =>
    simp only [Row.see, Row.close, Row.ask, Row.block, unblock, wake_link, onLink_link, rest_link]
    grind

/-- The row is in order between two turns: whoever could do something is ready for it, what
a stage could not give was asked for, and a stage ends only behind its input. -/
structure Tidy (stages : Nat → Stage σ ω) (n : Nat) (row : Row σ ω) : Prop where
  seen : ∀ k ≤ n, (row.link k).seen → (row.link k).ended ∧ (row.link k).items = []
  silent : ∀ k ≤ n, (row.link k).ended → ¬(row.link k).wanted ∧ ¬(row.link k).blocked
  queued : ∀ k < n, (row.link k).items ≠ [] → 300 ≤ row.ready (k + 1)
  ending : ∀ k < n, (row.link k).ended → ¬(row.link k).seen → 200 ≤ row.ready (k + 1)
  asked : ∀ k ≤ n, (row.link k).wanted → ¬(row.link k).blocked → 100 ≤ row.ready k
  passed : ∀ k < n, (row.link (k + 1)).blocked → (row.link k).wanted
  closed : ∀ k < n, (row.link (k + 1)).ended → (row.link k).seen ∧ (stages k).flush (row.priv k) = none
  source : row.ready 0 ≤ 200

namespace Tidy

theorem fresh (priv : Nat → σ) : (Row.fresh priv : Row σ ω).Tidy stages n := by
  constructor <;> simp [Row.fresh]

/-- An item comes to a link. -/
theorem arrive (tidy : row.Tidy stages n) (goes : ¬(row.link k).ended) (item : ω) : (Row.arrive k row item).Tidy stages n := by
  obtain ⟨seen, silent, queued, ending, asked, passed, closed, source⟩ := tidy
  constructor <;> simp only [Row.arrive, unblock, onLink_link, onLink_ready, onLink_priv, wake_link, wake_ready, wake_priv] <;> grind

theorem arrive_list (tidy : row.Tidy stages n) (goes : ¬(row.link k).ended) (items : List ω) :
    (items.foldl (Row.arrive k) row).Tidy stages n := by
  induction items generalizing row with
  | nil => exact tidy
  | cons item items ih =>
    have still : ¬((Row.arrive k row item).link k).ended := by simpa [Row.arrive, unblock] using goes
    exact ih (tidy.arrive goes item) still

/-- An input that has items left has not ended for the next link. -/
theorem goes (tidy : row.Tidy stages n) (inside : k < n) (busy : (row.link k).items ≠ []) : ¬(row.link (k + 1)).ended := by
  intro ends
  exact busy (tidy.seen k (Nat.le_of_lt inside) (tidy.closed k inside ends).1).2

private theorem take (tidy : row.Tidy stages n) (queue : (row.link k).items = item :: items) (state : σ) :
    (((((row.rest (k + 1)).onLink k fun link => { link with items }).unblock (k + 1)).setPriv k state).wake (k + 1) 300).Tidy stages n := by
  obtain ⟨seen, silent, queued, ending, asked, passed, closed, source⟩ := tidy
  constructor <;> simp only [unblock, onLink_link, onLink_ready, onLink_priv, wake_link, wake_ready, wake_priv, rest_link,
    rest_ready, rest_priv, setPriv_link, setPriv_ready, setPriv_priv] <;> grind

private theorem see (tidy : row.Tidy stages n) (empty : (row.link k).items = []) (ends : (row.link k).ended) (unseen : ¬(row.link k).seen)
    (item : ω) (state : σ) :
    (((((((row.rest (k + 1)).block (k + 1)).see k).setPriv k state).arrive (k + 1)) item).wake (k + 1) 200).Tidy stages n := by
  obtain ⟨seen, silent, queued, ending, asked, passed, closed, source⟩ := tidy
  constructor <;> simp only [Row.see, Row.arrive, Row.block, unblock, onLink_link, onLink_ready, onLink_priv, wake_link, wake_ready, wake_priv, rest_link,
    rest_ready, rest_priv, setPriv_link, setPriv_ready, setPriv_priv] <;> grind

private theorem see_end (tidy : row.Tidy stages n) (empty : (row.link k).items = []) (ends : (row.link k).ended) (unseen : ¬(row.link k).seen)
    (flushed : (stages k).flush (row.priv k) = none) :
    (((((row.rest (k + 1)).block (k + 1)).see k).close (k + 1)).wake (k + 1) 200).Tidy stages n := by
  obtain ⟨seen, silent, queued, ending, asked, passed, closed, source⟩ := tidy
  constructor <;> simp only [Row.see, Row.close, Row.block, unblock, onLink_link, onLink_ready, onLink_priv, wake_link, wake_ready, wake_priv, rest_link,
    rest_ready, rest_priv] <;> grind

private theorem more (tidy : row.Tidy stages n) (empty : (row.link k).items = []) (saw : (row.link k).seen) (goes : ¬(row.link (k + 1)).ended)
    (item : ω) (state : σ) :
    (((((row.rest (k + 1)).block (k + 1)).setPriv k state).arrive (k + 1)) item).Tidy stages n := by
  obtain ⟨seen, silent, queued, ending, asked, passed, closed, source⟩ := tidy
  constructor <;> simp only [Row.arrive, Row.block, unblock, onLink_link, onLink_ready, onLink_priv, wake_link, wake_ready, wake_priv, rest_link,
    rest_ready, rest_priv, setPriv_link, setPriv_ready, setPriv_priv] <;> grind

private theorem no_more (tidy : row.Tidy stages n) (empty : (row.link k).items = []) (saw : (row.link k).seen)
    (flushed : (stages k).flush (row.priv k) = none) :
    (((row.rest (k + 1)).block (k + 1)).close (k + 1)).Tidy stages n := by
  obtain ⟨seen, silent, queued, ending, asked, passed, closed, source⟩ := tidy
  constructor <;> simp only [Row.close, Row.block, unblock, onLink_link, onLink_ready, onLink_priv, wake_link, wake_ready, wake_priv, rest_link,
    rest_ready, rest_priv] <;> grind

private theorem ask (tidy : row.Tidy stages n) (empty : (row.link k).items = []) (goes : ¬(row.link k).ended) :
    (((row.rest (k + 1)).block (k + 1)).ask k).Tidy stages n := by
  obtain ⟨seen, silent, queued, ending, asked, passed, closed, source⟩ := tidy
  constructor <;> simp only [Row.ask, Row.block, onLink_link, onLink_ready, onLink_priv, wake_link, wake_ready, wake_priv, rest_link,
    rest_ready, rest_priv] <;> grind

private theorem idle (tidy : row.Tidy stages n) (empty : (row.link k).items = []) (done : (row.link k).ended → (row.link k).seen)
    (idle : (row.link (k + 1)).wanted → (row.link (k + 1)).blocked) :
    (row.rest (k + 1)).Tidy stages n := by
  obtain ⟨seen, silent, queued, ending, asked, passed, closed, source⟩ := tidy
  constructor <;> simp only [rest_link, rest_ready, rest_priv] <;> grind

/-- Every turn of a stage leaves the row in order. -/
theorem turned {after : Row σ ω} (tidy : row.Tidy stages n) (inside : k < n) (turned : Turned (stages k) k row after) :
    after.Tidy stages n := by
  cases turned with
  | take queue =>
    have goes : ¬(row.link (k + 1)).ended := tidy.goes inside (by simp [queue])
    apply arrive_list (tidy.take queue _)
    simpa [unblock] using goes
  | see empty ends unseen => exact tidy.see empty ends unseen _ _
  | seeEnd empty ends unseen flushed => exact tidy.see_end empty ends unseen flushed
  | more empty behind saw wanted free =>
    exact tidy.more empty saw (fun ends => (tidy.silent (k + 1) inside ends).1 wanted) _ _
  | noMore empty behind saw wanted free flushed => exact tidy.no_more empty saw flushed
  | ask empty goes => exact tidy.ask empty goes
  | idle empty done idle => exact tidy.idle empty done idle

/-- What the source, the sink and whoever holds the other ends of the row do. -/
theorem source_dry (tidy : row.Tidy stages n) (goes : ¬(row.link 0).ended) :
    ((row.rest 0).block 0).Tidy stages n := by
  obtain ⟨seen, silent, queued, ending, asked, passed, closed, source⟩ := tidy
  constructor <;> simp only [Row.block, onLink_link, onLink_ready, onLink_priv, rest_link, rest_ready, rest_priv] <;> grind

theorem source_idle (tidy : row.Tidy stages n) (idle : (row.link 0).wanted → (row.link 0).blocked) : (row.rest 0).Tidy stages n := by
  obtain ⟨seen, silent, queued, ending, asked, passed, closed, source⟩ := tidy
  constructor <;> simp only [rest_link, rest_ready, rest_priv] <;> grind

theorem sink_idle (tidy : row.Tidy stages n) : (row.rest (n + 1)).Tidy stages n := by
  obtain ⟨seen, silent, queued, ending, asked, passed, closed, source⟩ := tidy
  constructor <;> simp only [rest_link, rest_ready, rest_priv] <;> grind

theorem close_source (tidy : row.Tidy stages n) : (Row.close 0 row).Tidy stages n := by
  obtain ⟨seen, silent, queued, ending, asked, passed, closed, source⟩ := tidy
  constructor <;> simp only [Row.close, unblock, onLink_link, onLink_ready, onLink_priv, wake_link, wake_ready, wake_priv] <;> grind

theorem sink_take (tidy : row.Tidy stages n) (queue : (row.link n).items = item :: items) :
    (row.onLink n fun link => { link with items }).Tidy stages n := by
  obtain ⟨seen, silent, queued, ending, asked, passed, closed, source⟩ := tidy
  constructor <;> simp only [onLink_link, onLink_ready, onLink_priv] <;> grind

theorem sink_see (tidy : row.Tidy stages n) (empty : (row.link n).items = []) (ends : (row.link n).ended) :
    (row.onLink n fun link => { link with seen := true }).Tidy stages n := by
  obtain ⟨seen, silent, queued, ending, asked, passed, closed, source⟩ := tidy
  constructor <;> simp only [onLink_link, onLink_ready, onLink_priv] <;> grind

theorem sink_ask (tidy : row.Tidy stages n) (goes : ¬(row.link n).ended) : (row.ask n).Tidy stages n := by
  obtain ⟨seen, silent, queued, ending, asked, passed, closed, source⟩ := tidy
  constructor <;> simp only [Row.ask, onLink_link, onLink_ready, onLink_priv, wake_link, wake_ready, wake_priv] <;> grind

end Tidy

end Row
end Pipeline
