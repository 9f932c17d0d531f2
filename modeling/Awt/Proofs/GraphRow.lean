import Awt.Graph.Buffers
import Awt.Lib.PipelineFlow
import Awt.Proofs.FrameQueue

/-! A graph whose filters are linked one behind the other is a row of stages: every call of
the engine does to the graph what a step of the row does to the row. -/

namespace Awt.Graph
open Pipeline (Row Stage Link)

variable {σ : Type}

/-- A method that passes on these frames, in this order, and ends with this return value and
these data if none of the frames is refused. -/
def Method.Passes : Method σ → List AVFrame → Int → σ → Prop
  | .done ret priv, frames, code, state => frames = [] ∧ ret = code ∧ priv = state
  | .filterFrame pad frame next, frames, code, state =>
    pad = 0 ∧ ∃ rest, frames = frame :: rest ∧ (next 0).Passes rest code state
  | .requestFrame _ _, _, _, _ => False

/-- A filter with one input and one output that makes of its frames what a stage makes of
them. When it is asked for a frame it asks its input, and gives what is left in it when that
has ended. -/
structure AVFilter.Models (filter : AVFilter σ) (stage : Stage σ AVFrame) (takes gives : AVFrame → Bool) (valid : σ → Prop) : Prop where
  step : ∀ priv frame, valid priv → takes frame →
    match filter.filterFrame 0 with
    | none => stage.step priv frame = ([frame], priv)
    | some filterFrame => (filterFrame priv frame).Passes (stage.step priv frame).1 0 (stage.step priv frame).2
  stepped : ∀ priv frame, valid priv → takes frame →
    (∀ made ∈ (stage.step priv frame).1, gives made) ∧ valid (stage.step priv frame).2
  flush : ∀ priv, valid priv →
    match filter.requestFrame 0 with
    | none => stage.flush priv = none
    | some requestFrame => ∃ next, requestFrame priv = .requestFrame 0 next ∧ (next 0).Passes [] 0 priv ∧
      match stage.flush priv with
      | none => (next AVERROR_EOF).Passes [] AVERROR_EOF priv
      | some (frame, left) => (next AVERROR_EOF).Passes [frame] 0 left
  flushed : ∀ priv frame left, valid priv → stage.flush priv = some (frame, left) → gives frame ∧ valid left

/-- What is fixed when a graph of `n` filters between its two ends is configured. -/
structure Chain (σ : Type) where
  n : Nat
  filter : Nat → AVFilter σ
  stages : Nat → Stage σ AVFrame
  format : Nat → AVFrame → Bool
  valid : Nat → σ → Prop
  models : ∀ k < n, (filter k).Models (stages k) (format k) (format (k + 1)) (valid k)

/-- Link `k` of a graph and of a row. -/
structure AVFilterLink.Shows (link : AVFilterLink) (k : Nat) (format : AVFrame → Bool) (view : Link AVFrame) : Prop where
  src : link.src = k
  srcpad : link.srcpad = 0
  dst : link.dst = k + 1
  dstpad : link.dstpad = 0
  whole : link.minSamples = 0
  fits : ∀ frame, link.fits frame = format frame
  fifo : link.fifo.Sound view.items
  uncut : link.fifo.samplesSkipped = false
  statusIn : link.statusIn = if view.ended then AVERROR_EOF else 0
  statusOut : link.statusOut = if view.seen then AVERROR_EOF else 0
  wanted : link.frameWantedOut = view.wanted
  blocked : link.frameBlockedIn = view.blocked
  formatted : ∀ frame ∈ view.items, format frame

/-- A graph and a row in the same state. -/
structure AVFilterGraph.Shows (chain : Chain σ) (s : BufferSourceContext) (buf : BufferSinkContext) (graph : AVFilterGraph σ)
    (row : Row σ AVFrame) : Prop where
  filters : ∀ i, i ∈ graph.filters ↔ i ≤ chain.n + 1
  source : (graph.context 0).priv = .abuffer s
  sink : (graph.context (chain.n + 1)).priv = .abuffersink buf
  stage : ∀ k < chain.n, (graph.context (k + 1)).priv = .other (chain.filter k) (row.priv k)
  noInput : (graph.context 0).inputs = []
  inputs : ∀ k ≤ chain.n, (graph.context (k + 1)).inputs = [k]
  outputs : ∀ k ≤ chain.n, (graph.context k).outputs = [k]
  noOutput : (graph.context (chain.n + 1)).outputs = []
  ready : ∀ i ≤ chain.n + 1, (graph.context i).ready = row.ready i
  link : ∀ k ≤ chain.n, (graph.link k).Shows k (chain.format k) (row.link k)
  valid : ∀ k < chain.n, chain.valid k (row.priv k)

namespace AVFilterLink.Shows

variable {link : AVFilterLink} {k : Nat} {format : AVFrame → Bool} {view : Link AVFrame} {frame : AVFrame} {frames : List AVFrame}

theorem queued (shows : link.Shows k format view) : link.fifo.ffFramequeueQueuedFrames = view.items.length := shows.fifo.queued

/-- `ff_inlink_consume_frame` on a link that hands on whole frames. -/
theorem consume (shows : link.Shows k format view)
    (queue : view.items = frame :: frames) :
    ∃ taken, link.ffInlinkConsumeFrame = some (some frame, taken) ∧ taken.Shows k format { view with items := frames } := by
  have sound := shows.fifo
  rw [queue] at sound
  obtain ⟨fifo, takes, sound, uncut, -⟩ := sound.take
  refine ⟨{ link with fifo }, ?_, { shows with fifo := sound, uncut := uncut, formatted := ?_ }⟩
  · have count : link.fifo.ffFramequeueQueuedFrames = frames.length + 1 := by rw [shows.queued, queue, List.length_cons]
    rw [AVFilterLink.ffInlinkConsumeFrame, count, shows.uncut, takes]
    simp
  · intro item member
    exact shows.formatted item (by rw [queue]; exact List.mem_cons_of_mem frame member)

theorem consume_nothing (shows : link.Shows k format view)
    (empty : view.items = []) : link.ffInlinkConsumeFrame = some (none, link) := by
  have count : link.fifo.ffFramequeueQueuedFrames = 0 := by rw [shows.queued, empty, List.length_nil]
  rw [AVFilterLink.ffInlinkConsumeFrame, count]
  rfl

theorem samplesReady (shows : link.Shows k format view) : link.samplesReady link.minSamples = !view.items.isEmpty := by
  rw [AVFilterLink.samplesReady, shows.queued, shows.whole]
  cases view.items <;> simp

theorem ending (shows : link.Shows k format view) :
    decide (link.statusIn ≠ 0 ∧ link.statusOut = 0) = (view.ended && !view.seen) := by
  rw [shows.statusIn, shows.statusOut]
  cases view.ended <;> cases view.seen <;> rfl

theorem asked (shows : link.Shows k format view) :
    decide (link.frameWantedOut ∧ ¬link.frameBlockedIn) = (view.wanted && !view.blocked) := by
  rw [shows.wanted, shows.blocked]
  cases view.wanted <;> cases view.blocked <;> rfl

end AVFilterLink.Shows

namespace AVFilterGraph

variable {chain : Chain σ} {s : BufferSourceContext} {buf : BufferSinkContext} {graph : AVFilterGraph σ} {row : Row σ AVFrame}
  {k : Nat} {frame : AVFrame} {frames : List AVFrame}

@[simp] theorem onLink_link (link j : Nat) (change : AVFilterLink → AVFilterLink) :
    (graph.onLink link change).link j = if j = link then change (graph.link link) else graph.link j := Function.update_apply ..

@[simp] theorem onLink_context (link : Nat) (change : AVFilterLink → AVFilterLink) :
    (graph.onLink link change).context = graph.context := rfl

@[simp] theorem onLink_filters (link : Nat) (change : AVFilterLink → AVFilterLink) :
    (graph.onLink link change).filters = graph.filters := rfl

@[simp] theorem onContext_context (filter i : Nat) (change : AVFilterContext σ → AVFilterContext σ) :
    (graph.onContext filter change).context i = if i = filter then change (graph.context filter) else graph.context i :=
  Function.update_apply ..

@[simp] theorem onContext_link (filter : Nat) (change : AVFilterContext σ → AVFilterContext σ) :
    (graph.onContext filter change).link = graph.link := rfl

@[simp] theorem onContext_filters (filter : Nat) (change : AVFilterContext σ → AVFilterContext σ) :
    (graph.onContext filter change).filters = graph.filters := rfl

namespace Shows

/-- A change of one link. -/
theorem onLink (shows : graph.Shows chain s buf row) (change : AVFilterLink → AVFilterLink) (change' : Link AVFrame → Link AVFrame)
    (changed : k ≤ chain.n → (graph.link k).Shows k (chain.format k) (row.link k) →
      (change (graph.link k)).Shows k (chain.format k) (change' (row.link k))) :
    (graph.onLink k change).Shows chain s buf (row.onLink k change') := by
  refine { shows with link := ?_ }
  intro j inside
  rw [onLink_link, Row.onLink_link]
  split
  · case isTrue same =>
    subst same
    exact changed inside (shows.link j inside)
  · exact shows.link j inside

/-- A change of how ready the filters are. -/
private theorem onReady (shows : graph.Shows chain s buf row) (graph' : AVFilterGraph σ) (row' : Row σ AVFrame)
    (filters : graph'.filters = graph.filters) (links : graph'.link = graph.link) (links' : row'.link = row.link)
    (privs : row'.priv = row.priv) (priv : ∀ i, (graph'.context i).priv = (graph.context i).priv)
    (inputs : ∀ i, (graph'.context i).inputs = (graph.context i).inputs)
    (outputs : ∀ i, (graph'.context i).outputs = (graph.context i).outputs)
    (ready : ∀ i ≤ chain.n + 1, (graph'.context i).ready = row'.ready i) : graph'.Shows chain s buf row' := by
  obtain ⟨order, source, sink, stage, noInput, hasInput, hasOutput, noOutput, -, link, valid⟩ := shows
  constructor
  case ready => exact ready
  all_goals simpa only [filters, links, links', privs, priv, inputs, outputs]

theorem wake (shows : graph.Shows chain s buf row) (i priority : Nat) :
    (graph.ffFilterSetReady i priority).Shows chain s buf (row.wake i priority) := by
  apply shows.onReady (graph.ffFilterSetReady i priority) (row.wake i priority) rfl rfl rfl rfl <;>
    simp only [ffFilterSetReady, onContext_context, Row.wake_ready]
  · grind
  · grind
  · grind
  · intro j inside
    have same := shows.ready j inside
    grind

theorem rest (shows : graph.Shows chain s buf row) (i : Nat) :
    (graph.onContext i fun context => { context with ready := 0 }).Shows chain s buf (row.rest i) := by
  apply shows.onReady (graph.onContext i fun context => { context with ready := 0 }) (row.rest i) rfl rfl rfl rfl <;>
    simp only [onContext_context, Row.rest_ready]
  · grind
  · grind
  · grind
  · intro j inside
    have same := shows.ready j inside
    grind

theorem setPriv (shows : graph.Shows chain s buf row) (inside : k < chain.n) {state : σ} (valid : chain.valid k state) :
    (graph.setPriv (k + 1) (.other (chain.filter k) state)).Shows chain s buf (row.setPriv k state) := by
  obtain ⟨order, source, sink, stage, noInput, hasInput, hasOutput, noOutput, ready, link, valids⟩ := shows
  constructor <;> simp only [AVFilterGraph.setPriv, onContext_context, onContext_link, onContext_filters, Row.setPriv_link, Row.setPriv_ready,
    Row.setPriv_priv]
  · exact order
  · simpa using source
  · grind
  · grind
  · simpa using noInput
  · grind
  · grind
  · grind
  · grind
  · exact link
  · grind

/-- A change of what the source keeps. -/
theorem setSource (shows : graph.Shows chain s buf row) (s' : BufferSourceContext) :
    (graph.setPriv 0 (.abuffer s')).Shows chain s' buf row := by
  obtain ⟨order, source, sink, stage, noInput, hasInput, hasOutput, noOutput, ready, link, valids⟩ := shows
  constructor <;> try simp only [AVFilterGraph.setPriv, onContext_context, onContext_link, onContext_filters]
  · exact order
  · rfl
  · simpa using sink
  · simpa using stage
  · simpa using noInput
  · simpa using hasInput
  · grind
  · simpa using noOutput
  · grind
  · exact link
  · exact valids

/-- A change of what the sink keeps. -/
theorem setSink (shows : graph.Shows chain s buf row) (buf' : BufferSinkContext) :
    (graph.setPriv (chain.n + 1) (.abuffersink buf')).Shows chain s buf' row := by
  obtain ⟨order, source, sink, stage, noInput, hasInput, hasOutput, noOutput, ready, link, valids⟩ := shows
  constructor <;> try simp only [AVFilterGraph.setPriv, onContext_context, onContext_link, onContext_filters]
  · exact order
  · simpa using source
  · simp
  · grind
  · simpa using noInput
  · grind
  · grind
  · grind
  · grind
  · exact link
  · exact valids

theorem unblock (shows : graph.Shows chain s buf row) {i : Nat} (inside : i ≤ chain.n + 1) :
    (graph.filterUnblock i).Shows chain s buf (row.unblock i) := by
  rw [filterUnblock]
  by_cases last : i = chain.n + 1
  · subst last
    rw [shows.noOutput]
    have untouched : ∀ k ≤ chain.n, (row.unblock (chain.n + 1)).link k = row.link k := by
      intro k inside
      simp [Row.unblock, show k ≠ chain.n + 1 by omega]
    refine { shows with link := ?_ }
    intro k inside
    rw [untouched k inside]
    exact shows.link k inside
  · rw [shows.outputs i (by omega)]
    exact shows.onLink (fun link => { link with frameBlockedIn := false }) (fun link => { link with blocked := false })
      fun _ link => { link with blocked := rfl }

theorem set_wanted (shows : graph.Shows chain s buf row) (k : Nat) :
    (graph.onLink k fun link => { link with frameWantedOut := true }).Shows chain s buf
      (row.onLink k fun link => { link with wanted := true }) :=
  shows.onLink _ _ fun _ link => { link with wanted := rfl }

theorem set_blocked (shows : graph.Shows chain s buf row) (k : Nat) :
    (graph.onLink k fun link => { link with frameBlockedIn := true }).Shows chain s buf (row.block k) :=
  shows.onLink _ (fun link => { link with blocked := true }) fun _ link => { link with blocked := rfl }

private theorem arrive_steps (row : Row σ AVFrame) (k : Nat) (frame : AVFrame) :
    (((row.onLink k fun link => { link with wanted := false, blocked := false }).unblock (k + 1)).onLink k
      fun link => { link with items := link.items ++ [frame] }).wake (k + 1) 300 = row.arrive k frame := by
  refine Row.ext ?_ rfl rfl
  funext j
  simp only [Row.arrive, Row.unblock, Row.onLink_link, Row.wake_link]
  grind

/-- `ff_filter_frame` with a frame in the format of the link. -/
theorem filter_frame (shows : graph.Shows chain s buf row) (inside : k ≤ chain.n) (format : chain.format k frame) :
    ∃ after, graph.ffFilterFrame k frame = (0, after) ∧ after.Shows chain s buf (row.arrive k frame) := by
  have fits : (graph.link k).fits frame := by rw [(shows.link k inside).fits, format]
  have cleared := shows.onLink (k := k) (fun link => { link with frameBlockedIn := false, frameWantedOut := false })
    (fun link => { link with wanted := false, blocked := false }) fun _ link => { link with wanted := rfl, blocked := rfl }
  have opened := cleared.unblock (show k + 1 ≤ chain.n + 1 by omega)
  have link := opened.link k inside
  obtain ⟨fifo, adds, sound, uncut, -⟩ := link.fifo.add frame (show true = true ∨ _ from .inl rfl)
  have queued := opened.onLink (k := k) (fun link => { link with fifo }) (fun link => { link with items := link.items ++ [frame] }) (by
    intro _ link
    refine { link with fifo := sound, uncut := uncut.trans link.uncut, formatted := ?_ }
    intro item member
    rcases List.mem_append.mp member with old | new
    · exact link.formatted item old
    · rw [List.mem_singleton.mp new]
      exact format)
  have woken := queued.wake (k + 1) 300
  rw [arrive_steps] at woken
  refine ⟨_, ?_, woken⟩
  rw [ffFilterFrame, if_neg (by simp [fits])]
  dsimp only
  rw [(cleared.link k inside).dst, adds]
  dsimp only
  rw [if_neg (by decide), (queued.link k inside).dst]

theorem close (shows : graph.Shows chain s buf row) (inside : k ≤ chain.n) (goes : ¬(row.link k).ended) :
    ∃ after, graph.ffAvfilterLinkSetInStatus k AVERROR_EOF = some after ∧ after.Shows chain s buf (row.close k) := by
  have status : (graph.link k).statusIn = 0 := by rw [(shows.link k inside).statusIn, if_neg goes]
  have closed := shows.onLink (k := k) (fun link => { link with statusIn := AVERROR_EOF, frameWantedOut := false, frameBlockedIn := false })
    (fun link => { link with ended := true, wanted := false, blocked := false })
    fun _ link => { link with statusIn := rfl, wanted := rfl, blocked := rfl }
  have dst := (closed.link k inside).dst
  have opened := closed.unblock (show k + 1 ≤ chain.n + 1 by omega)
  refine ⟨_, ?_, opened.wake (k + 1) 200⟩
  rw [ffAvfilterLinkSetInStatus, if_neg (by rw [status]; decide), if_neg (by rw [status]; decide)]
  dsimp only
  rw [dst]

theorem see (shows : graph.Shows chain s buf row) (inside : k ≤ chain.n) (silent : ¬(row.link k).wanted) (unseen : ¬(row.link k).seen) :
    ∃ after, graph.ffAvfilterLinkSetOutStatus k AVERROR_EOF = some after ∧ after.Shows chain s buf (row.see k) ∧
      (after.link k).statusOut = AVERROR_EOF := by
  have status : (graph.link k).statusOut = 0 := by rw [(shows.link k inside).statusOut, if_neg unseen]
  have seen := shows.onLink (k := k) (fun link => { link with statusOut := AVERROR_EOF }) (fun link => { link with seen := true })
    fun _ link => { link with statusOut := rfl }
  have opened := seen.unblock (show k + 1 ≤ chain.n + 1 by omega)
  have woken := opened.wake k 200
  have told : (row.see k).link k = { row.link k with seen := true } := by simp [Row.see, Row.unblock]
  refine ⟨_, ?_, woken, ?_⟩
  · rw [ffAvfilterLinkSetOutStatus, if_neg (by rw [(shows.link k inside).wanted]; exact silent), if_neg (by rw [status]; decide)]
    dsimp only
    rw [(seen.link k inside).dst, (seen.link k inside).src]
  · have view := (woken.link k inside).statusOut
    rw [show (((row.onLink k fun link => { link with seen := true }).unblock (k + 1)).wake k 200).link k = _ from told] at view
    rw [view]
    rfl

/-- `ff_request_frame` on an input with nothing queued. -/
theorem request_ended (shows : graph.Shows chain s buf row) (inside : k ≤ chain.n) (empty : (row.link k).items = [])
    (ends : (row.link k).ended) (silent : ¬(row.link k).wanted) :
    ∃ after, graph.ffRequestFrame k = some (AVERROR_EOF, after) ∧
      after.Shows chain s buf (if (row.link k).seen then row else row.see k) := by
  have link := shows.link k inside
  by_cases seen : (row.link k).seen
  · rw [if_pos seen]
    refine ⟨graph, ?_, shows⟩
    rw [ffRequestFrame, link.statusOut, if_pos seen, if_pos (by decide)]
    rfl
  · obtain ⟨after, sees, shown, told⟩ := shows.see inside silent seen
    rw [if_neg seen]
    refine ⟨after, ?_, shown⟩
    have queued : (graph.link k).fifo.ffFramequeueQueuedFrames = 0 := by rw [link.queued, empty, List.length_nil]
    rw [ffRequestFrame, link.statusOut, if_neg seen, link.statusIn, if_pos ends, if_neg (by decide), if_pos (by decide), if_neg (by simp [queued]),
      sees]
    simp only [Option.bind_eq_bind, Option.bind_some, Option.pure_def, told]

theorem request_running (shows : graph.Shows chain s buf row) (inside : k ≤ chain.n) (goes : ¬(row.link k).ended)
    (unseen : ¬(row.link k).seen) : ∃ after, graph.ffRequestFrame k = some (0, after) ∧ after.Shows chain s buf (row.ask k) := by
  have link := shows.link k inside
  have wanted := shows.set_wanted k
  refine ⟨_, ?_, wanted.wake k 100⟩
  rw [ffRequestFrame, link.statusOut, if_neg unseen, link.statusIn, if_neg goes, if_neg (by decide), if_neg (by decide)]
  simp only [Option.pure_def, (wanted.link k inside).src]

/-- A method that passes frames on does so to the link behind its filter. -/
theorem passes (shows : graph.Shows chain s buf row) (inside : k < chain.n) {method : Method σ} {code : Int} {state : σ}
    (passing : method.Passes frames code state) (format : ∀ frame ∈ frames, chain.format (k + 1) frame) :
    ∃ after, graph.call (k + 1) method = some (code, state, after) ∧ after.Shows chain s buf (frames.foldl (Row.arrive (k + 1)) row) := by
  induction method generalizing graph row frames with
  | done ret priv =>
    obtain ⟨rfl, rfl, rfl⟩ := passing
    exact ⟨graph, rfl, shows⟩
  | filterFrame pad frame next ih =>
    obtain ⟨rfl, rest, rfl, passing⟩ := passing
    obtain ⟨after, filters, shown⟩ := shows.filter_frame (show k + 1 ≤ chain.n by omega) (format frame (by simp))
    obtain ⟨last, calls, shown⟩ := ih 0 shown passing fun frame member => format frame (by simp [member])
    refine ⟨last, ?_, shown⟩
    rw [call, shows.outputs (k + 1) (by omega)]
    simp only [List.getElem?_cons_zero, Option.bind_eq_bind, Option.bind_some, filters, calls]
  | requestFrame pad next ih => exact passing.elim

/-- A filter without a method of its own asks its input. -/
private theorem ask_default (shows : graph.Shows chain s buf row) (inside : k < chain.n)
    (method : (chain.filter k).requestFrame 0 = none) : graph.askFilter (k + 1) = graph.ffRequestFrame k := by
  have none : graph.requestFrame (k + 1) = some (none, graph) := by
    rw [requestFrame]
    simp only [(shows.link (k + 1) inside).src, (shows.link (k + 1) inside).srcpad, shows.stage k inside, method]
  rw [askFilter, none]
  simp [(shows.link (k + 1) inside).src, shows.inputs k (by omega)]

/-- A method that asks the input, and what it does with the answer. -/
private theorem ask_method (shows : graph.Shows chain s buf row) (inside : k < chain.n) {method : σ → Method σ} {next : Int → Method σ}
    {after : AVFilterGraph σ} {row' : Row σ AVFrame} {answer code : Int} {state : σ}
    (own : (chain.filter k).requestFrame 0 = some method) (asks : method (row.priv k) = .requestFrame 0 next)
    (requests : graph.ffRequestFrame k = some (answer, after)) (shown : after.Shows chain s buf row')
    (passing : (next answer).Passes frames code state) (format : ∀ frame ∈ frames, chain.format (k + 1) frame)
    (valid : chain.valid k state) :
    ∃ last, graph.askFilter (k + 1) = some (code, last) ∧
      last.Shows chain s buf ((frames.foldl (Row.arrive (k + 1)) row').setPriv k state) := by
  obtain ⟨last, calls, shown⟩ := shown.passes inside passing format
  refine ⟨_, ?_, shown.setPriv inside valid⟩
  have requested : graph.requestFrame (k + 1) = some (some code, last.setPriv (k + 1) (.other (chain.filter k) state)) := by
    rw [requestFrame]
    simp only [(shows.link (k + 1) inside).src, (shows.link (k + 1) inside).srcpad, shows.stage k inside, own, asks, call,
      shows.inputs k (by omega), List.getElem?_cons_zero, Option.bind_eq_bind, Option.bind_some, requests, calls, Option.pure_def]
  rw [askFilter, requested]
  rfl

/-- The filter of a stage when its input goes on. -/
theorem ask_running (shows : graph.Shows chain s buf row) (inside : k < chain.n) (goes : ¬(row.link k).ended)
    (unseen : ¬(row.link k).seen) : ∃ after, graph.askFilter (k + 1) = some (0, after) ∧ after.Shows chain s buf (row.ask k) := by
  obtain ⟨after, requests, shown⟩ := shows.request_running (show k ≤ chain.n by omega) goes unseen
  have valid := shows.valid k inside
  have models := (chain.models k inside).flush (row.priv k) valid
  cases own : (chain.filter k).requestFrame 0 with
  | none => exact ⟨after, (shows.ask_default inside own).trans requests, shown⟩
  | some method =>
    rw [own] at models
    obtain ⟨next, asks, passing, -⟩ := models
    obtain ⟨last, answers, shown⟩ := shows.ask_method inside own asks requests shown passing (by simp) valid
    have same : (([] : List AVFrame).foldl (Row.arrive (k + 1)) (row.ask k)).setPriv k (row.priv k) = row.ask k := by
      exact Row.ext rfl rfl (Function.update_eq_self k row.priv)
    rw [same] at shown
    exact ⟨last, answers, shown⟩

/-- The filter of a stage when its input has ended, with nothing left in it. -/
theorem ask_flushed (shows : graph.Shows chain s buf row) (inside : k < chain.n) (empty : (row.link k).items = [])
    (ends : (row.link k).ended) (silent : ¬(row.link k).wanted) (flushed : (chain.stages k).flush (row.priv k) = none) :
    ∃ after, graph.askFilter (k + 1) = some (AVERROR_EOF, after) ∧
      after.Shows chain s buf (if (row.link k).seen then row else row.see k) := by
  obtain ⟨after, requests, shown⟩ := shows.request_ended (show k ≤ chain.n by omega) empty ends silent
  have valid := shows.valid k inside
  have models := (chain.models k inside).flush (row.priv k) valid
  cases own : (chain.filter k).requestFrame 0 with
  | none => exact ⟨after, (shows.ask_default inside own).trans requests, shown⟩
  | some method =>
    rw [own] at models
    obtain ⟨next, asks, -, passing⟩ := models
    rw [flushed] at passing
    obtain ⟨last, answers, shown⟩ := shows.ask_method inside own asks requests shown passing (by simp) valid
    have same : (([] : List AVFrame).foldl (Row.arrive (k + 1)) (if (row.link k).seen then row else row.see k)).setPriv k (row.priv k) =
        if (row.link k).seen then row else row.see k := by
      split <;> exact Row.ext rfl rfl (Function.update_eq_self k row.priv)
    rw [same] at shown
    exact ⟨last, answers, shown⟩

theorem ask_flushes (shows : graph.Shows chain s buf row) (inside : k < chain.n) (empty : (row.link k).items = [])
    (ends : (row.link k).ended) (silent : ¬(row.link k).wanted) {left : σ}
    (flushes : (chain.stages k).flush (row.priv k) = some (frame, left)) :
    ∃ after, graph.askFilter (k + 1) = some (0, after) ∧
      after.Shows chain s buf (((if (row.link k).seen then row else row.see k).setPriv k left).arrive (k + 1) frame) := by
  obtain ⟨after, requests, shown⟩ := shows.request_ended (show k ≤ chain.n by omega) empty ends silent
  have valid := shows.valid k inside
  have models := (chain.models k inside).flush (row.priv k) valid
  obtain ⟨format, validLeft⟩ := (chain.models k inside).flushed _ _ _ valid flushes
  cases own : (chain.filter k).requestFrame 0 with
  | none =>
    rw [own, flushes] at models
    cases models
  | some method =>
    rw [own] at models
    obtain ⟨next, asks, -, passing⟩ := models
    rw [flushes] at passing
    exact shows.ask_method inside own asks requests shown passing (by simpa using format) validLeft

/-- `ff_request_frame_to_filter` for a stage with nothing queued. -/
theorem request_to_filter (shows : graph.Shows chain s buf row) (inside : k < chain.n) (empty : (row.link k).items = [])
    (silent : (row.link k).ended → ¬(row.link k).wanted) (behind : (row.link k).seen → (row.link k).ended)
    (goes : ¬(row.link (k + 1)).ended) :
    ∃ after, graph.ffRequestFrameToFilter (k + 1) = some (0, after) ∧ after.Shows chain s buf (row.request (chain.stages k) k) := by
  have blocked := shows.set_blocked (k + 1)
  have own : (row.block (k + 1)).link k = row.link k := by simp [Row.block]
  have next : ((row.block (k + 1)).link (k + 1)).ended = (row.link (k + 1)).ended := by simp [Row.block]
  rw [Row.request]
  by_cases ends : (row.link k).ended
  · rw [if_pos (by rw [own]; exact ends), Row.flush]
    have privs : (if ((row.block (k + 1)).link k).seen then row.block (k + 1) else (row.block (k + 1)).see k).priv k = row.priv k := by
      split <;> rfl
    rw [privs]
    cases flushes : (chain.stages k).flush (row.priv k) with
    | none =>
      obtain ⟨asked, asks, shown⟩ := blocked.ask_flushed inside (by rw [own]; exact empty) (by rw [own]; exact ends)
        (by rw [own]; exact silent ends) flushes
      have still : ¬((if ((row.block (k + 1)).link k).seen then row.block (k + 1) else (row.block (k + 1)).see k).link (k + 1)).ended := by
        split
        · rw [next]
          exact goes
        · simpa [Row.see, Row.unblock, next] using goes
      obtain ⟨after, closes, shown'⟩ := shown.close inside still
      refine ⟨after, ?_, shown'⟩
      have status : (asked.link (k + 1)).statusIn = 0 := by rw [(shown.link (k + 1) inside).statusIn, if_neg still]
      rw [ffRequestFrameToFilter, asks]
      simp only [Option.bind_eq_bind, Option.bind_some]
      rw [if_pos (by decide), if_pos (by rw [status]; decide), closes]
      rfl
    | some given =>
      obtain ⟨frame, left⟩ := given
      obtain ⟨after, asks, shown⟩ := blocked.ask_flushes inside (by rw [own]; exact empty) (by rw [own]; exact ends)
        (by rw [own]; exact silent ends) flushes
      refine ⟨after, ?_, shown⟩
      rw [ffRequestFrameToFilter, asks]
      rfl
  · rw [if_neg (by rw [own]; exact ends)]
    have unseen : ¬((row.block (k + 1)).link k).seen := by
      rw [own]
      exact fun seen => ends (behind seen)
    obtain ⟨after, asks, shown⟩ := blocked.ask_running inside (by rw [own]; exact ends) unseen
    refine ⟨after, ?_, shown⟩
    rw [ffRequestFrameToFilter, asks]
    rfl

/-- The end of its input is forwarded by the first output that is tried. -/
theorem forward (shows : graph.Shows chain s buf row) (inside : k < chain.n) (empty : (row.link k).items = [])
    (ends : (row.link k).ended) (unseen : ¬(row.link k).seen) (silent : ¬(row.link k).wanted) (goes : ¬(row.link (k + 1)).ended) :
    ∃ after, (∀ fuel, graph.forwardStatusChange (fuel + 2) (k + 1) k = some (0, after)) ∧
      after.Shows chain s buf ((row.request (chain.stages k) k).wake (k + 1) 200) := by
  obtain ⟨asked, asks, shown⟩ := shows.request_to_filter inside empty (fun _ => silent) (fun _ => ends) goes
  have link := shows.link k (by omega)
  have out : (graph.link k).statusOut = 0 := by rw [link.statusOut, if_neg unseen]
  have pending : (graph.link (k + 1)).statusIn = 0 := by rw [(shows.link (k + 1) inside).statusIn, if_neg goes]
  have saw := Row.request_seen (chain.stages k) ends
  have seen : (asked.link k).statusOut ≠ 0 := by
    rw [(shown.link k (by omega)).statusOut, if_pos saw]
    decide
  refine ⟨_, fun fuel => ?_, shown.wake (k + 1) 200⟩
  rw [forwardStatusChange, if_neg (by rw [out]; decide), if_neg (by rw [shows.outputs (k + 1) (by omega)]; simp), forwardTo]
  rw [if_neg (by rw [out]; decide), shows.outputs (k + 1) (by omega)]
  simp only [List.getElem?_cons_zero, Option.bind_eq_bind, Option.bind_some, pending, asks, if_true]
  rw [if_neg (by decide), shown.outputs (k + 1) (by omega)]
  simp only [List.length_singleton, if_true]
  rw [if_neg (by decide), forwardTo, if_pos seen]
  rfl

private theorem arrive_setPriv (row : Row σ AVFrame) (j : Nat) (state : σ) (frames : List AVFrame) :
    (frames.foldl (Row.arrive k) row).setPriv j state = frames.foldl (Row.arrive k) (row.setPriv j state) := by
  induction frames generalizing row with
  | nil => rfl
  | cons frame frames ih => exact ih (row.arrive k frame)

/-- `ff_filter_frame_framed` for a frame that was taken off its link. -/
theorem framed (shows : graph.Shows chain s buf row) (inside : k < chain.n) (format : chain.format k frame) :
    ∃ after, graph.ffFilterFrameFramed k frame = some (0, after) ∧
      after.Shows chain s buf (((chain.stages k).step (row.priv k) frame).1.foldl (Row.arrive (k + 1))
        (row.setPriv k ((chain.stages k).step (row.priv k) frame).2)) := by
  have valid := shows.valid k inside
  have models := (chain.models k inside).step (row.priv k) frame valid format
  obtain ⟨formatted, validStep⟩ := (chain.models k inside).stepped (row.priv k) frame valid format
  have link := shows.link k (by omega)
  cases own : (chain.filter k).filterFrame 0 with
  | none =>
    rw [own] at models
    rw [models] at formatted validStep ⊢
    obtain ⟨after, passes, shown⟩ := shows.filter_frame (show k + 1 ≤ chain.n by omega) (formatted frame (by simp))
    refine ⟨after, ?_, ?_⟩
    · rw [ffFilterFrameFramed]
      simp only [link.dst, link.dstpad, shows.stage k inside, own, defaultFilterFrame, shows.outputs (k + 1) (by omega),
        List.getElem?_cons_zero, Option.bind_eq_bind, Option.bind_some, Option.pure_def, passes]
    · have same : row.setPriv k (row.priv k) = row := Row.ext rfl rfl (Function.update_eq_self k row.priv)
      simpa only [List.foldl_cons, List.foldl_nil, same] using shown
  | some method =>
    rw [own] at models
    obtain ⟨after, calls, shown⟩ := shows.passes inside models formatted
    have kept := shown.setPriv inside validStep
    rw [arrive_setPriv] at kept
    refine ⟨_, ?_, kept⟩
    rw [ffFilterFrameFramed]
    simp only [link.dst, link.dstpad, shows.stage k inside, own, calls, Option.bind_eq_bind, Option.bind_some, Option.pure_def]

/-- `ff_filter_frame_to_filter` for a stage with frames queued. -/
theorem frame_to_filter (shows : graph.Shows chain s buf row) (inside : k < chain.n) (queue : (row.link k).items = frame :: frames) :
    ∃ after, graph.ffFilterFrameToFilter k = some (0, after) ∧
      after.Shows chain s buf ((((chain.stages k).step (row.priv k) frame).1.foldl (Row.arrive (k + 1))
        (((row.onLink k fun link => { link with items := frames }).unblock (k + 1)).setPriv k
          ((chain.stages k).step (row.priv k) frame).2)).wake (k + 1) 300) := by
  have link := shows.link k (by omega)
  have format := link.formatted frame (by rw [queue]; exact List.mem_cons_self)
  obtain ⟨taken, consumes, left⟩ := link.consume queue
  have taking := shows.onLink (fun _ => taken) (fun link => { link with items := frames }) fun _ _ => left
  have opened := taking.unblock (show k + 1 ≤ chain.n + 1 by omega)
  obtain ⟨after, filters, shown⟩ := opened.framed inside format
  refine ⟨_, ?_, shown.wake (k + 1) 300⟩
  rw [ffFilterFrameToFilter]
  dsimp only
  rw [if_neg (by rw [link.whole]; decide), consumes]
  simp only [Option.bind_eq_bind, Option.bind_some, left.dst, filters]
  rw [if_neg (by simp)]
  rfl

/-- `ff_filter_activate` of a filter between two others is a turn of its stage. -/
theorem activate (shows : graph.Shows chain s buf row) (tidy : row.Tidy chain.stages chain.n) (inside : k < chain.n) :
    ∃ after, (∀ fuel, graph.ffFilterActivate (fuel + 2) (k + 1) = some (0, after)) ∧
      after.Shows chain s buf (row.turn (chain.stages k) k) := by
  have rested := shows.rest (k + 1)
  have link := rested.link k (by omega)
  have link' := rested.link (k + 1) inside
  have silent := tidy.silent k (by omega)
  have behind := tidy.seen k (by omega)
  have stage := rested.stage k inside
  have activates : ∀ fuel, graph.ffFilterActivate fuel (k + 1) = (graph.onContext (k + 1)
      fun context => { context with ready := 0 }).ffFilterActivateDefault fuel (k + 1) >>= fun given =>
        some (if given.1 = FFERROR_NOT_READY then 0 else given.1, given.2) := by
    intro fuel
    rw [ffFilterActivate]
    simp only [stage]
    rfl
  simp only [activates, ffFilterActivateDefault, rested.inputs k (by omega), rested.outputs (k + 1) (by omega), List.find?_cons,
    List.find?_nil, link.samplesReady, link.ending, link'.asked]
  rw [Row.turn]
  dsimp only
  cases queue : ((row.rest (k + 1)).link k).items with
  | cons frame frames =>
    obtain ⟨after, filters, shown⟩ := rested.frame_to_filter inside queue
    refine ⟨after, fun _ => ?_, shown⟩
    simp only [List.isEmpty_cons, Bool.not_false, filters]
    rfl
  | nil =>
    dsimp only
    by_cases ending : ((row.rest (k + 1)).link k).ended ∧ ¬((row.rest (k + 1)).link k).seen
    · obtain ⟨ends, unseen⟩ := ending
      have goes : ¬((row.rest (k + 1)).link (k + 1)).ended := fun ended => unseen (tidy.closed k inside ended).1
      obtain ⟨after, forwards, shown⟩ := rested.forward inside queue ends unseen (silent ends).1 goes
      have pending : (((row.rest (k + 1)).link k).ended && !((row.rest (k + 1)).link k).seen) = true := by
        simpa using And.intro ends unseen
      rw [if_pos ⟨ends, unseen⟩, pending]
      refine ⟨after, fun fuel => ?_, shown⟩
      simp only [List.isEmpty_nil, Bool.not_true, forwards]
      rfl
    · have done : (((row.rest (k + 1)).link k).ended && !((row.rest (k + 1)).link k).seen) = false := by simpa using ending
      rw [if_neg ending, done]
      by_cases asked : ((row.rest (k + 1)).link (k + 1)).wanted ∧ ¬((row.rest (k + 1)).link (k + 1)).blocked
      · have goes : ¬((row.rest (k + 1)).link (k + 1)).ended := fun ended => (tidy.silent (k + 1) inside ended).1 asked.1
        obtain ⟨after, requests, shown⟩ := rested.request_to_filter inside queue (fun ends => (silent ends).1)
          (fun seen => (behind seen).1) goes
        have wish : (((row.rest (k + 1)).link (k + 1)).wanted && !((row.rest (k + 1)).link (k + 1)).blocked) = true := by simpa using asked
        rw [if_pos asked, wish]
        refine ⟨after, fun _ => ?_, shown⟩
        simp only [List.isEmpty_nil, Bool.not_true, requests]
        rfl
      · have idle : (((row.rest (k + 1)).link (k + 1)).wanted && !((row.rest (k + 1)).link (k + 1)).blocked) = false := by simpa using asked
        rw [if_neg asked, idle]
        exact ⟨_, fun _ => rfl, rested⟩

/-- The source has no input; it is asked for a frame it does not have. -/
theorem activate_source_dry (shows : graph.Shows chain s buf row) (running : s.eof = false) (wanted : (row.link 0).wanted)
    (free : ¬(row.link 0).blocked) :
    ∃ after, (∀ fuel, graph.ffFilterActivate fuel 0 = some (EAGAIN, after)) ∧
      after.Shows chain { s with nbFailedRequests := s.nbFailedRequests + 1 } buf ((row.rest 0).block 0) := by
  have rested := shows.rest 0
  have blocked := rested.set_blocked 0
  refine ⟨_, fun fuel => ?_, blocked.setSource { s with nbFailedRequests := s.nbFailedRequests + 1 }⟩
  have link := rested.link 0 (Nat.zero_le _)
  have wish : (((row.rest 0).link 0).wanted && !((row.rest 0).link 0).blocked) = true := by simpa using And.intro wanted free
  have asks := blocked.source
  rw [ffFilterActivate]
  simp only [rested.source]
  rw [ffFilterActivateDefault]
  simp only [rested.noInput, rested.outputs 0 (Nat.zero_le _), List.find?_cons, List.find?_nil, link.asked, wish]
  rw [ffRequestFrameToFilter, askFilter, requestFrame]
  simp only [(blocked.link 0 (Nat.zero_le _)).src, asks, running]
  rfl

theorem activate_source_idle (shows : graph.Shows chain s buf row) (idle : (row.link 0).wanted → (row.link 0).blocked) :
    ∃ after, (∀ fuel, graph.ffFilterActivate fuel 0 = some (0, after)) ∧ after.Shows chain s buf (row.rest 0) := by
  have rested := shows.rest 0
  refine ⟨_, fun fuel => ?_, rested⟩
  have link := rested.link 0 (Nat.zero_le _)
  have wish : (((row.rest 0).link 0).wanted && !((row.rest 0).link 0).blocked) = false := by simpa using idle
  rw [ffFilterActivate]
  simp only [rested.source]
  rw [ffFilterActivateDefault]
  simp only [rested.noInput, rested.outputs 0 (Nat.zero_le _), List.find?_cons, List.find?_nil, link.asked, wish]
  rfl

theorem activate_sink (shows : graph.Shows chain s buf row) :
    ∃ after limit, (∀ fuel, graph.ffFilterActivate fuel (chain.n + 1) = some (0, after)) ∧
      after.Shows chain s { buf with warningLimit := limit } (row.rest (chain.n + 1)) := by
  have rested := shows.rest (chain.n + 1)
  simp only [ffFilterActivate, rested.sink, activateSink, rested.inputs chain.n (Nat.le_refl _), List.getElem?_cons_zero,
    Option.bind_eq_bind, Option.bind_some, Option.pure_def]
  split
  · exact ⟨_, buf.warningLimit * 10, fun _ => rfl, rested.setSink { buf with warningLimit := buf.warningLimit * 10 }⟩
  · exact ⟨_, buf.warningLimit, fun _ => rfl, rested⟩

end Shows

/-- No filter is readier than the one that is turned. -/
theorem readiest_most (graph : AVFilterGraph σ) (first : Nat) (others : List Nat) :
    graph.readiest first others ∈ first :: others ∧
      ∀ i ∈ first :: others, (graph.context i).ready ≤ (graph.context (graph.readiest first others)).ready := by
  induction others generalizing first with
  | nil => simp [AVFilterGraph.readiest]
  | cons i others ih =>
    rw [AVFilterGraph.readiest, List.foldl_cons]
    split
    · case isTrue more =>
      obtain ⟨member, most⟩ := ih i
      rw [AVFilterGraph.readiest] at member most
      refine ⟨List.mem_cons_of_mem _ member, ?_⟩
      intro j among
      rcases List.mem_cons.mp among with rfl | among
      · have least := most i List.mem_cons_self
        omega
      · exact most j among
    · case isFalse less =>
      obtain ⟨member, most⟩ := ih first
      rw [AVFilterGraph.readiest] at member most
      refine ⟨?_, ?_⟩
      · rcases List.mem_cons.mp member with same | among
        · rw [same]
          exact List.mem_cons_self
        · exact List.mem_cons_of_mem _ (List.mem_cons_of_mem _ among)
      · intro j among
        have least := most first List.mem_cons_self
        rcases List.mem_cons.mp among with rfl | among
        · exact least
        · rcases List.mem_cons.mp among with rfl | among
          · omega
          · exact most j (List.mem_cons_of_mem _ among)

end AVFilterGraph
end Awt.Graph
