import Awt.Lib.Refinement
import Awt.Proofs.GraphRow

/-! A graph of filters in a row answers its program as if every frame that is added went
through all of them at once: whatever is ready, and whenever frames are fetched. -/

namespace Awt.Graph
open Pipeline (Row Stage Link Line)

variable {σ : Type}

/-- What a program does with its graph. -/
inductive Request where
  | add (frame : Option AVFrame) (flags : SourceFlags)
  | get (peek : Bool)

/-- What the call returns, and the frame that it gives. -/
abbrev Reply := Int × Option AVFrame

/-- One call on the ends of the graph. -/
def AVFilterGraph.serve (source sink : Nat) (fuel : Nat) (graph : AVFilterGraph σ) : Request → Option (Reply × AVFilterGraph σ)
  | .add frame flags => (graph.avBuffersrcAddFrameFlags fuel source frame flags).map fun (ret, graph) => ((ret, none), graph)
  | .get peek => (graph.avBuffersinkGetFrameFlags fuel sink ⟨peek, false⟩).map fun (ret, frame, graph) => ((ret, frame), graph)

namespace Chain

variable (chain : Chain σ) (source : BufferSourceContext)

/-- A frame without a layout has that of the source. -/
def fillLayout (frame : AVFrame) : AVFrame :=
  if frame.channelLayout = 0 then { frame with channelLayout := source.channelLayout } else frame

/-- What the checks of the source make of a frame: its refusal, or the frame that goes in. -/
def check (flags : SourceFlags) (frame : AVFrame) : Int ⊕ AVFrame :=
  let checked := if flags.noCheckFormat then frame else fillLayout source frame
  if ¬flags.noCheckFormat ∧ ¬source.accepts checked then .inl EINVAL
  else if chain.format 0 checked then .inr checked
  else .inl AVERROR_PATCHWELCOME

/-- The next frame to come out of the last stage; without one, an end if there will be none. -/
def next (line : Line σ AVFrame) : Reply × Line σ AVFrame :=
  match line.out with
  | frame :: out => ((0, some frame), { line with out })
  | [] => ((if line.ended then AVERROR_EOF else EAGAIN, none), line)

/-- Every frame that is accepted passes all stages at once, and every frame that is fetched
was the next one to come out of the last of them. -/
def answer (line : Line σ AVFrame) : Request → Reply × Line σ AVFrame
  | .add none _ => ((0, none), if line.ended then line else line.put chain.stages chain.n true [])
  | .add (some frame) flags =>
    if frame.channelLayout ≠ 0 ∧ avGetChannelLayoutNbChannels frame.channelLayout ≠ frame.channels then ((EINVAL, none), line)
    else if line.ended then ((EINVAL, none), line)
    else
      match chain.check source flags frame with
      | .inl ret => ((ret, none), line)
      | .inr frame => ((0, none), line.put chain.stages chain.n false [frame])
  | .get peek => ((next line).1, if peek then line else (next line).2)

variable {chain source} in
/-- What goes in is in the format of the first link. -/
theorem check_format {flags : SourceFlags} {frame frame' : AVFrame} (checked : chain.check source flags frame = .inr frame') :
    chain.format 0 frame' := by
  simp only [check] at checked
  grind

end Chain

namespace AVFilterGraph

variable {chain : Chain σ} {source s : BufferSourceContext} {buf : BufferSinkContext} {graph : AVFilterGraph σ} {row : Row σ AVFrame}
  {line : Line σ AVFrame} {k : Nat}

/-- A graph between two turns that shows a row in order. -/
structure Stands (chain : Chain σ) (s : BufferSourceContext) (buf : BufferSinkContext) (graph : AVFilterGraph σ) (row : Row σ AVFrame) :
    Prop where
  shows : graph.Shows chain s buf row
  tidy : row.Tidy chain.stages chain.n
  told : s.eof = (row.link 0).ended

/-- The frames a source and a sink have in their own data stay the same over turns. -/
structure Alike (s s' : BufferSourceContext) (buf buf' : BufferSinkContext) : Prop where
  source : s' = { s with nbFailedRequests := s'.nbFailedRequests }
  peeked : buf'.peekedFrame = buf.peekedFrame

/-- What `ff_filter_graph_run_once` does: a turn that leads closer to rest and changes
nothing about what is to come out, or nothing because there is nothing to do. -/
theorem Stands.run_once (stands : graph.Stands chain s buf row) :
    ∃ after s' buf' row', after.Stands chain s' buf' row' ∧ Alike s s' buf buf' ∧
      row'.line chain.stages chain.n = row.line chain.stages chain.n ∧
      (((∀ fuel, graph.ffFilterGraphRunOnce (fuel + 2) = some (0, after)) ∧
          row'.rank chain.stages chain.n < row.rank chain.stages chain.n ∧
          ((row.link chain.n).wanted → (row'.link chain.n).wanted ∨ (row'.link chain.n).items ≠ [] ∨ (row'.link chain.n).ended)) ∨
        ((∀ fuel, graph.ffFilterGraphRunOnce (fuel + 2) = some (EAGAIN, after)) ∧ (row'.link chain.n).items = (row.link chain.n).items ∧
          ((row.link chain.n).wanted → (row.line chain.stages chain.n).out = (row.link chain.n).items ∧
            (row.line chain.stages chain.n).ended = false))) := by
  obtain ⟨shows, tidy, told⟩ := stands
  obtain ⟨first, others, order⟩ : ∃ first others, graph.filters = first :: others := by
    cases order : graph.filters with
    | nil =>
      have member := (shows.filters 0).mpr (Nat.zero_le _)
      rw [order] at member
      cases member
    | cons first others => exact ⟨first, others, rfl⟩
  obtain ⟨member, most⟩ := readiest_most graph first others
  rw [← order] at member most
  have inside := (shows.filters _).mp member
  have most : ∀ i ≤ chain.n + 1, row.ready i ≤ row.ready (graph.readiest first others) := by
    intro i within
    have less := most i ((shows.filters i).mpr within)
    rwa [shows.ready i within, shows.ready _ inside] at less
  have ready := shows.ready _ inside
  have runs : ∀ fuel, graph.ffFilterGraphRunOnce fuel =
      if row.ready (graph.readiest first others) = 0 then some (EAGAIN, graph)
      else graph.ffFilterActivate fuel (graph.readiest first others) := by
    intro fuel
    rw [ffFilterGraphRunOnce, order]
    dsimp only
    rw [ready]
  simp only [runs]
  generalize graph.readiest first others = i at *
  by_cases asleep : row.ready i = 0
  · simp only [if_pos asleep]
    refine ⟨graph, s, buf, row, ⟨shows, tidy, told⟩, ⟨rfl, rfl⟩, rfl, .inr ⟨fun _ => rfl, rfl, fun wanted => ?_⟩⟩
    apply tidy.asleep _ wanted
    intro j within
    have less := most j (by omega)
    omega
  · simp only [if_neg asleep]
    have awake : 0 < row.ready i := Nat.pos_of_ne_zero asleep
    rcases Nat.eq_zero_or_pos i with rfl | later
    · by_cases asked : (row.link 0).wanted ∧ ¬(row.link 0).blocked
      · obtain ⟨wanted, free⟩ := asked
        have goes : ¬(row.link 0).ended := fun ends => (tidy.silent 0 (Nat.zero_le _) ends).1 wanted
        obtain ⟨after, activates, shown⟩ := shows.activate_source_dry (by simpa using told.trans (Bool.eq_false_iff.mpr goes)) wanted free
        have still : ∀ j, (((row.rest 0).block 0).link j).items = (row.link j).items := by
          intro j
          simp only [Row.block, Row.onLink_link, Row.rest_link]
          grind
        refine ⟨after, _, buf, _, ⟨shown, tidy.source_dry goes, ?_⟩, ⟨rfl, rfl⟩, ?_,
          .inr ⟨fun _ => activates _, still chain.n, fun _ => ?_⟩⟩
        · simpa [Row.block] using told
        · exact Row.line_still (by simp [Row.block]) still rfl chain.n
        · exact tidy.dry (fun j within => most j (by omega)) wanted
      · obtain ⟨after, activates, shown⟩ := shows.activate_source_idle (by simpa using asked)
        exact ⟨after, s, buf, row.rest 0, ⟨shown, tidy.source_idle (by simpa using asked), told⟩, ⟨rfl, rfl⟩, Row.rest_line 0 chain.n,
          .inl ⟨fun _ => activates _, Row.rest_rank (by omega) awake, .inl⟩⟩
    · obtain ⟨k, rfl⟩ : ∃ k, i = k + 1 := ⟨i - 1, by omega⟩
      by_cases last : k = chain.n
      · subst last
        obtain ⟨after, limit, activates, shown⟩ := shows.activate_sink
        exact ⟨after, s, _, row.rest (chain.n + 1), ⟨shown, tidy.sink_idle, told⟩, ⟨rfl, rfl⟩, Row.rest_line (chain.n + 1) chain.n,
          .inl ⟨fun _ => activates _, Row.rest_rank (by omega) awake, .inl⟩⟩
      · have within : k < chain.n := by omega
        obtain ⟨after, activates, shown⟩ := shows.activate tidy within
        have turned := Row.turned (chain.stages k) k row
        obtain ⟨-, -, -, -, same⟩ := tidy.turn_come within turned
        refine ⟨after, s, buf, _, ⟨shown, tidy.turned within turned, ?_⟩, ⟨rfl, rfl⟩, same,
          .inl ⟨fun _ => activates _, tidy.turn_rank within awake turned, turned.waits⟩⟩
        have ended := congrArg Line.ended same
        exact told.trans ended.symm

theorem Alike.trans {s₁ s₂ s₃ : BufferSourceContext} {buf₁ buf₂ buf₃ : BufferSinkContext} (first : Alike s₁ s₂ buf₁ buf₂)
    (second : Alike s₂ s₃ buf₂ buf₃) : Alike s₁ s₃ buf₁ buf₃ :=
  ⟨second.source.trans (by rw [first.source]), second.peeked.trans first.peeked⟩

/-- `push_frame` runs the graph until it rests. -/
theorem Stands.push (stands : graph.Stands chain s buf row) :
    ∃ enough after s' buf' row', after.Stands chain s' buf' row' ∧ Alike s s' buf buf' ∧
      row'.line chain.stages chain.n = row.line chain.stages chain.n ∧
      ∀ fuel count, enough ≤ count → pushFrame (fuel + 2) count graph = some (0, after) := by
  induction least : row.rank chain.stages chain.n using Nat.strong_induction_on generalizing graph s buf row with
  | _ rank ih =>
    obtain ⟨after, s', buf', row', stands', alike, line, ⟨runs, less, -⟩ | ⟨stops, -⟩⟩ := stands.run_once
    · obtain ⟨enough, last, s'', buf'', row'', stands'', alike', line', pushes⟩ := ih _ (by omega) stands' rfl
      refine ⟨enough + 1, last, s'', buf'', row'', stands'', alike.trans alike', line'.trans line, ?_⟩
      intro fuel count more
      obtain ⟨count, rfl⟩ : ∃ smaller, count = smaller + 1 := ⟨count - 1, by omega⟩
      rw [pushFrame, runs]
      exact pushes fuel count (by omega)
    · refine ⟨1, after, s', buf', row', stands', alike, line, ?_⟩
      intro fuel count more
      obtain ⟨count, rfl⟩ : ∃ smaller, count = smaller + 1 := ⟨count - 1, by omega⟩
      rw [pushFrame, stops]
      rfl

/-- What a call on the sink comes to for the frames that are to come out. -/
def Fetches (chain : Chain σ) (s : BufferSourceContext) (buf : BufferSinkContext) (graph : AVFilterGraph σ) (row : Row σ AVFrame) :
    Prop :=
  ∃ enough after s' buf' row', after.Stands chain s' buf' row' ∧ Alike s s' buf buf' ∧
    row'.line chain.stages chain.n = (Chain.next (row.line chain.stages chain.n)).2 ∧
    ∀ fuel count peek, enough ≤ count → fetchFrame (fuel + 2) (chain.n + 1) chain.n ⟨peek, false⟩ 0 count graph =
      some ((Chain.next (row.line chain.stages chain.n)).1.1, (Chain.next (row.line chain.stages chain.n)).1.2, after)

theorem Stands.fetch_queued (stands : graph.Stands chain s buf row) {frame : AVFrame} {frames : List AVFrame}
    (queue : (row.link chain.n).items = frame :: frames) : Fetches chain s buf graph row := by
  obtain ⟨shows, tidy, told⟩ := stands
  have link := shows.link chain.n (Nat.le_refl _)
  obtain ⟨taken, consumes, left⟩ := link.consume queue
  obtain ⟨out, same⟩ := Row.sink_take_line chain.stages queue
  have shown := shows.onLink (k := chain.n) (fun _ => taken) (fun link => { link with items := frames }) fun _ _ => left
  have next : Chain.next (row.line chain.stages chain.n) =
      ((0, some frame), (row.onLink chain.n fun link => { link with items := frames }).line chain.stages chain.n) := by
    rw [Chain.next, out]
    exact congrArg _ same.symm
  refine ⟨1, _, s, buf, _, ⟨shown, tidy.sink_take queue, ?_⟩, ⟨rfl, rfl⟩, by rw [next], ?_⟩
  · simp only [Row.onLink_link]
    grind
  · intro fuel count peek more
    obtain ⟨count, rfl⟩ : ∃ smaller, count = smaller + 1 := ⟨count - 1, by omega⟩
    rw [next, fetchFrame]
    simp [consumes]

theorem Stands.fetch_end (stands : graph.Stands chain s buf row) (empty : (row.link chain.n).items = [])
    (ends : (row.link chain.n).ended) : Fetches chain s buf graph row := by
  obtain ⟨shows, tidy, told⟩ := stands
  have link := shows.link chain.n (Nat.le_refl _)
  obtain ⟨out, ended⟩ := tidy.at_end empty ends
  have next : Chain.next (row.line chain.stages chain.n) = ((AVERROR_EOF, none), row.line chain.stages chain.n) := by
    rw [Chain.next, out, ended]
    rfl
  have queued : (graph.link chain.n).fifo.ffFramequeueQueuedFrames = 0 := by rw [link.queued, empty, List.length_nil]
  have acknowledges : ∃ seen, (graph.link chain.n).ffInlinkAcknowledgeStatus = some (AVERROR_EOF, seen) ∧
      seen.Shows chain.n (chain.format chain.n) { row.link chain.n with seen := true } := by
    have status : (graph.link chain.n).statusIn = AVERROR_EOF := by rw [link.statusIn, if_pos ends]
    have some_end : AVERROR_EOF ≠ 0 := by simp [AVERROR_EOF]
    cases saw : (row.link chain.n).seen with
    | true =>
      have out : (graph.link chain.n).statusOut = AVERROR_EOF := by rw [link.statusOut, if_pos saw]
      exact ⟨graph.link chain.n, by simp [AVFilterLink.ffInlinkAcknowledgeStatus, queued, out, some_end], { link with statusOut := out }⟩
    | false =>
      have out : (graph.link chain.n).statusOut = 0 := by simp [link.statusOut, saw]
      exact ⟨{ graph.link chain.n with statusOut := AVERROR_EOF },
        by simp [AVFilterLink.ffInlinkAcknowledgeStatus, queued, out, status, some_end], { link with statusOut := rfl }⟩
  obtain ⟨seen, acknowledges, saw⟩ := acknowledges
  have shown := shows.onLink (k := chain.n) (fun _ => seen) (fun link => { link with seen := true }) fun _ _ => saw
  have still : ∀ j, ((row.onLink chain.n fun link => { link with seen := true }).link j).items = (row.link j).items := by
    intro j
    simp only [Row.onLink_link]
    grind
  have ended : ((row.onLink chain.n fun link => { link with seen := true }).link 0).ended = (row.link 0).ended := by
    simp only [Row.onLink_link]
    grind
  refine ⟨1, _, s, buf, _, ⟨shown, tidy.sink_see empty ends, told.trans ended.symm⟩, ⟨rfl, rfl⟩, ?_, ?_⟩
  · rw [next]
    exact Row.line_still ended still rfl chain.n
  · intro fuel count peek more
    obtain ⟨count, rfl⟩ : ∃ smaller, count = smaller + 1 := ⟨count - 1, by omega⟩
    rw [next, fetchFrame]
    simp [link.consume_nothing empty, acknowledges]

section starved

variable (stands : graph.Stands chain s buf row) (empty : (row.link chain.n).items = []) (goes : ¬(row.link chain.n).ended)

include stands empty goes in
/-- Without a frame and without an end the sink runs the graph, or asks for a frame first. -/
private theorem fetch_starved (fuel count : Nat) (peek : Bool) :
    fetchFrame fuel (chain.n + 1) chain.n ⟨peek, false⟩ 0 (count + 1) graph =
      if (row.link chain.n).wanted then do
        let (ret, graph) ← graph.ffFilterGraphRunOnce fuel
        if ret < 0 then return (ret, none, graph) else fetchFrame fuel (chain.n + 1) chain.n ⟨peek, false⟩ 0 count graph
      else
        fetchFrame fuel (chain.n + 1) chain.n ⟨peek, false⟩ 0 count
          ((graph.onLink chain.n fun link => { link with frameWantedOut := true }).ffFilterSetReady chain.n 100) := by
  have link := stands.shows.link chain.n (Nat.le_refl _)
  have queued : (graph.link chain.n).fifo.ffFramequeueQueuedFrames = 0 := by rw [link.queued, empty, List.length_nil]
  have unseen : ¬(row.link chain.n).seen := fun seen => goes (stands.tidy.seen chain.n (Nat.le_refl _) seen).1
  have statusIn : (graph.link chain.n).statusIn = 0 := by rw [link.statusIn, if_neg goes]
  have statusOut : (graph.link chain.n).statusOut = 0 := by rw [link.statusOut, if_neg unseen]
  have acknowledges : (graph.link chain.n).ffInlinkAcknowledgeStatus = none := by
    simp [AVFilterLink.ffInlinkAcknowledgeStatus, queued, statusIn, statusOut]
  rw [fetchFrame]
  simp [link.consume_nothing empty, acknowledges, link.wanted, link.src]

end starved

private theorem stopped : EAGAIN < 0 := by simp [EAGAIN]

/-- The graph runs until what was asked for is there, or there is nothing to do. -/
theorem Stands.fetch_waiting (stands : graph.Stands chain s buf row)
    (waits : (row.link chain.n).wanted ∨ (row.link chain.n).items ≠ [] ∨ (row.link chain.n).ended) :
    Fetches chain s buf graph row := by
  induction least : row.rank chain.stages chain.n using Nat.strong_induction_on generalizing graph s buf row with
  | _ rank ih =>
    cases queue : (row.link chain.n).items with
    | cons frame frames => exact stands.fetch_queued queue
    | nil =>
      by_cases ends : (row.link chain.n).ended
      · exact stands.fetch_end queue ends
      · have wanted : (row.link chain.n).wanted := by simpa [queue, ends] using waits
        obtain ⟨after, s', buf', row', stands', alike, line, ⟨runs, less, waits'⟩ | ⟨stops, -, nothing⟩⟩ := stands.run_once
        · obtain ⟨enough, last, s'', buf'', row'', stands'', alike', line', fetches⟩ := ih _ (by omega) stands' (waits' wanted) rfl
          rw [line] at line' fetches
          refine ⟨enough + 1, last, s'', buf'', row'', stands'', alike.trans alike', line', ?_⟩
          intro fuel count peek more
          obtain ⟨count, rfl⟩ : ∃ smaller, count = smaller + 1 := ⟨count - 1, by omega⟩
          rw [fetch_starved stands queue ends, if_pos wanted, runs]
          exact fetches fuel count peek (by omega)
        · obtain ⟨out, goes⟩ := nothing wanted
          have next : Chain.next (row.line chain.stages chain.n) = ((EAGAIN, none), row.line chain.stages chain.n) := by
            rw [Chain.next, out, queue, goes]
            rfl
          refine ⟨1, after, s', buf', row', stands', alike, by rw [next, line], ?_⟩
          intro fuel count peek more
          obtain ⟨count, rfl⟩ : ∃ smaller, count = smaller + 1 := ⟨count - 1, by omega⟩
          rw [next, fetch_starved stands queue ends, if_pos wanted, stops]
          simp [stopped]

theorem Stands.fetch (stands : graph.Stands chain s buf row) : Fetches chain s buf graph row := by
  by_cases waits : (row.link chain.n).wanted ∨ (row.link chain.n).items ≠ [] ∨ (row.link chain.n).ended
  · exact stands.fetch_waiting waits
  · obtain ⟨unwanted, empty, goes⟩ : ¬(row.link chain.n).wanted ∧ (row.link chain.n).items = [] ∧ ¬(row.link chain.n).ended := by
      simpa using waits
    have ended : ((row.ask chain.n).link 0).ended = (row.link 0).ended := by
      simp only [Row.ask, Row.wake_link, Row.onLink_link]
      grind
    have still : ∀ j, ((row.ask chain.n).link j).items = (row.link j).items := by
      intro j
      simp only [Row.ask, Row.wake_link, Row.onLink_link]
      grind
    have line : (row.ask chain.n).line chain.stages chain.n = row.line chain.stages chain.n := Row.line_still ended still rfl chain.n
    have asked : ((graph.onLink chain.n fun link => { link with frameWantedOut := true }).ffFilterSetReady chain.n 100).Stands chain s buf
        (row.ask chain.n) :=
      ⟨(stands.shows.set_wanted chain.n).wake chain.n 100, stands.tidy.sink_ask goes, stands.told.trans ended.symm⟩
    obtain ⟨enough, after, s', buf', row', stands', alike, line', fetches⟩ := asked.fetch_waiting (.inl (by simp [Row.ask]))
    rw [line] at line' fetches
    refine ⟨enough + 1, after, s', buf', row', stands', alike, line', ?_⟩
    intro fuel count peek more
    obtain ⟨count, rfl⟩ : ∃ smaller, count = smaller + 1 := ⟨count - 1, by omega⟩
    rw [fetch_starved stands empty goes, if_neg unwanted]
    exact fetches fuel count peek (by omega)

/-- A graph behind which these frames are still to come, with the one that was peeked at. -/
def Serves (chain : Chain σ) (source : BufferSourceContext) (graph : AVFilterGraph σ) (line : Line σ AVFrame) : Prop :=
  ∃ s buf row, graph.Stands chain s buf row ∧
    s = { source with nbFailedRequests := s.nbFailedRequests, eof := s.eof } ∧
    line = { row.line chain.stages chain.n with out := buf.peekedFrame.toList ++ (row.line chain.stages chain.n).out }

theorem Stands.keep (stands : graph.Stands chain s buf row) (buf' : BufferSinkContext) :
    (graph.setPriv (chain.n + 1) (.abuffersink buf')).Stands chain s buf' row :=
  ⟨stands.shows.setSink buf', stands.tidy, stands.told⟩

/-- What the program gets from the sink. -/
theorem Serves.get (serves : graph.Serves chain source line) (peek : Bool) :
    ∃ enough after, after.Serves chain source (chain.answer source line (.get peek)).2 ∧
      ∀ fuel, enough ≤ fuel → graph.serve 0 (chain.n + 1) fuel (.get peek) = some ((chain.answer source line (.get peek)).1, after) := by
  obtain ⟨s, buf, row, stands, same, rfl⟩ := serves
  have sink := stands.shows.sink
  have inputs := stands.shows.inputs chain.n (Nat.le_refl _)
  have whole := (stands.shows.link chain.n (Nat.le_refl _)).whole
  have serve : ∀ fuel, graph.serve 0 (chain.n + 1) fuel (.get peek) =
      (graph.getFrameInternal fuel (chain.n + 1) ⟨peek, false⟩ 0).map fun (ret, frame, graph) => ((ret, frame), graph) := by
    intro fuel
    simp [AVFilterGraph.serve, avBuffersinkGetFrameFlags, inputs, whole]
  cases peeked : buf.peekedFrame with
  | some frame =>
    refine ⟨0, _, ⟨s, _, row, stands.keep { buf with peekedFrame := if peek then some frame else none }, same, ?_⟩, ?_⟩
    · cases peek <;> simp [Chain.answer, Chain.next]
    · intro fuel _
      simp [serve, getFrameInternal, sink, inputs, peeked, Chain.answer, Chain.next]
  | none =>
    obtain ⟨enough, after, s', buf', row', stands', alike, line', fetches⟩ := stands.fetch
    have same' : s' = { source with nbFailedRequests := s'.nbFailedRequests, eof := s'.eof } := by rw [alike.source, same]
    have peeked' : buf'.peekedFrame = none := alike.peeked.trans peeked
    cases out : (row.line chain.stages chain.n).out with
    | cons frame frames =>
      have next : Chain.next (row.line chain.stages chain.n) = ((0, some frame), { row.line chain.stages chain.n with out := frames }) := by
        rw [Chain.next, out]
      rw [next] at line' fetches
      refine ⟨enough + 2, _, ⟨s', _, row', stands'.keep { buf' with peekedFrame := if peek then some frame else none }, same', ?_⟩, ?_⟩
      · rw [line']
        cases peek <;> simp [Chain.answer, Chain.next]
      · intro fuel more
        obtain ⟨fuel, rfl⟩ : ∃ smaller, fuel = smaller + 2 := ⟨fuel - 2, by omega⟩
        simp [serve, getFrameInternal, sink, inputs, peeked, fetches fuel (fuel + 2) peek (by omega), stands'.shows.sink, Chain.answer,
          Chain.next]
    | nil =>
      have next : Chain.next (row.line chain.stages chain.n) =
          ((if (row.line chain.stages chain.n).ended then AVERROR_EOF else EAGAIN, none), row.line chain.stages chain.n) := by
        rw [Chain.next, out]
      rw [next] at line' fetches
      refine ⟨enough + 2, after, ⟨s', buf', row', stands', same', ?_⟩, ?_⟩
      · rw [line', peeked', out]
        simp [Chain.answer, Chain.next]
      · intro fuel more
        obtain ⟨fuel, rfl⟩ : ∃ smaller, fuel = smaller + 2 := ⟨fuel - 2, by omega⟩
        simp [serve, getFrameInternal, sink, inputs, peeked, fetches fuel (fuel + 2) peek (by omega), Chain.answer, Chain.next]

/-- Whether the program has the graph run on does not show in what is to come. -/
theorem Stands.settle (stands : graph.Stands chain s buf row) (push : Bool) :
    ∃ enough after s' buf' row', after.Stands chain s' buf' row' ∧ Alike s s' buf buf' ∧
      row'.line chain.stages chain.n = row.line chain.stages chain.n ∧
      ∀ fuel, enough ≤ fuel → (if push then pushFrame fuel fuel graph else some (0, graph)) = some (0, after) := by
  cases push with
  | false => exact ⟨0, graph, s, buf, row, stands, ⟨rfl, rfl⟩, rfl, fun _ _ => rfl⟩
  | true =>
    obtain ⟨enough, after, s', buf', row', stands', alike, line, pushes⟩ := stands.push
    refine ⟨enough + 2, after, s', buf', row', stands', alike, line, ?_⟩
    intro fuel more
    obtain ⟨fuel, rfl⟩ : ∃ smaller, fuel = smaller + 2 := ⟨fuel - 2, by omega⟩
    exact pushes fuel (fuel + 2) (by omega)

theorem Stands.setSource (stands : graph.Stands chain s buf row) (s' : BufferSourceContext) (told : s'.eof = (row.link 0).ended) :
    (graph.setPriv 0 (.abuffer s')).Stands chain s' buf row :=
  ⟨stands.shows.setSource s', stands.tidy, told⟩

private theorem close_source_line (goes : (row.link 0).ended = false) :
    (row.close 0).line chain.stages chain.n = (row.line chain.stages chain.n).put chain.stages chain.n true [] := by
  apply Row.line_put true [] goes
  · simp [Row.close, Row.unblock]
  · simp [Row.close, Row.unblock]
  · intro j
    simp only [Row.close, Row.unblock, Row.wake_link, Row.onLink_link]
    grind
  · rfl

private theorem arrive_source_line (goes : (row.link 0).ended = false) (frame : AVFrame) :
    (row.arrive 0 frame).line chain.stages chain.n = (row.line chain.stages chain.n).put chain.stages chain.n false [frame] := by
  apply Row.line_put false [frame] goes
  · simp [goes]
  · simp
  · intro j
    simp
  · rfl

/-- `av_buffersrc_close` behind the first call and every later one. -/
theorem Stands.close (stands : graph.Stands chain s buf row) (push : Bool) :
    ∃ enough after s' buf' row', after.Stands chain s' buf' row' ∧ Alike { s with eof := true } s' buf buf' ∧
      row'.line chain.stages chain.n =
        (if (row.link 0).ended then row.line chain.stages chain.n
          else (row.line chain.stages chain.n).put chain.stages chain.n true []) ∧
      ∀ fuel, enough ≤ fuel → graph.avBuffersrcClose fuel 0 s push = some (0, after) := by
  have outputs := stands.shows.outputs 0 (Nat.zero_le _)
  have told := stands.shows.setSource { s with eof := true }
  have outputs' := told.outputs 0 (Nat.zero_le _)
  by_cases ends : (row.link 0).ended
  · obtain ⟨enough, after, s', buf', row', stands', alike, line, settles⟩ :=
      (stands.setSource { s with eof := true } ends.symm).settle push
    refine ⟨enough, after, s', buf', row', stands', alike, by rw [line, if_pos ends], ?_⟩
    intro fuel more
    have status : ((graph.setPriv 0 (.abuffer { s with eof := true })).link 0).statusIn = AVERROR_EOF := by
      rw [(told.link 0 (Nat.zero_le _)).statusIn, if_pos ends]
    simp [avBuffersrcClose, outputs', ffAvfilterLinkSetInStatus, status, settles fuel more]
  · obtain ⟨closed, closes, shown⟩ := told.close (Nat.zero_le _) ends
    have ended : ((row.close 0).link 0).ended = true := by simp [Row.close, Row.unblock]
    have standing : closed.Stands chain { s with eof := true } buf (row.close 0) := ⟨shown, stands.tidy.close_source, ended.symm⟩
    obtain ⟨enough, after, s', buf', row', stands', alike, line, settles⟩ := standing.settle push
    refine ⟨enough, after, s', buf', row', stands', alike, ?_, ?_⟩
    · rw [line, if_neg ends, close_source_line (by simpa using ends)]
    · intro fuel more
      simp [avBuffersrcClose, outputs', closes, settles fuel more]

theorem Stands.add (stands : graph.Stands chain s buf row) (goes : (row.link 0).ended = false) {frame : AVFrame}
    (format : chain.format 0 frame) (push : Bool) :
    ∃ enough after s' buf' row', after.Stands chain s' buf' row' ∧ Alike s s' buf buf' ∧
      row'.line chain.stages chain.n = (row.line chain.stages chain.n).put chain.stages chain.n false [frame] ∧
      ∀ fuel, enough ≤ fuel → graph.addFrame fuel 0 frame push = some (0, after) := by
  have outputs := stands.shows.outputs 0 (Nat.zero_le _)
  obtain ⟨added, adds, shown⟩ := stands.shows.filter_frame (Nat.zero_le _) format
  have standing : added.Stands chain s buf (row.arrive 0 frame) :=
    ⟨shown, stands.tidy.arrive (by simp [goes]) frame, stands.told.trans (Row.arrive_ended 0).symm⟩
  obtain ⟨enough, after, s', buf', row', stands', alike, line, settles⟩ := standing.settle push
  refine ⟨enough, after, s', buf', row', stands', alike, by rw [line, arrive_source_line goes], ?_⟩
  intro fuel more
  have settles := settles fuel more
  cases push with
  | false => simpa [addFrame, outputs, adds] using settles
  | true =>
    have pushes : pushFrame fuel fuel added = some (0, after) := by simpa using settles
    simp [addFrame, outputs, adds, pushes]

/-- A frame in another format is refused. -/
theorem Shows.refuse (shows : graph.Shows chain s buf row) {frame : AVFrame} (format : ¬chain.format 0 frame) (fuel : Nat) (push : Bool) :
    graph.addFrame fuel 0 frame push = some (AVERROR_PATCHWELCOME, graph) := by
  have outputs := shows.outputs 0 (Nat.zero_le _)
  have fits : (graph.link 0).fits frame = false := by simpa [(shows.link 0 (Nat.zero_le _)).fits] using format
  simp [addFrame, outputs, ffFilterFrame, fits, AVERROR_PATCHWELCOME]

private theorem format_kept (same : s = { source with nbFailedRequests := s.nbFailedRequests, eof := s.eof }) :
    Chain.fillLayout source = Chain.fillLayout s ∧ source.accepts = s.accepts := by
  rw [same]
  exact ⟨rfl, rfl⟩

/-- A frame that is not odd in itself is refused by the checks or goes in. -/
private theorem Stands.checked (stands : graph.Stands chain s buf row)
    (same : s = { source with nbFailedRequests := s.nbFailedRequests, eof := s.eof }) (goes : (row.link 0).ended = false)
    {frame : AVFrame} (even : ¬(frame.channelLayout ≠ 0 ∧ avGetChannelLayoutNbChannels frame.channelLayout ≠ frame.channels))
    (flags : SourceFlags) (fuel : Nat) :
    graph.avBuffersrcAddFrameFlags fuel 0 (some frame) flags =
      match chain.check source flags frame with
      | .inl ret => some (ret, graph.setPriv 0 (.abuffer { s with nbFailedRequests := 0 }))
      | .inr frame => (graph.setPriv 0 (.abuffer { s with nbFailedRequests := 0 })).addFrame fuel 0 frame flags.push := by
  have told : s.eof = false := stands.told.trans goes
  have fresh := stands.setSource { s with nbFailedRequests := 0 } stands.told
  obtain ⟨filled, accepts⟩ := format_kept same
  have refuses : ∀ frame, ¬chain.format 0 frame →
      (graph.setPriv 0 (.abuffer { s with nbFailedRequests := 0 })).addFrame fuel 0 frame flags.push =
        some (AVERROR_PATCHWELCOME, graph.setPriv 0 (.abuffer { s with nbFailedRequests := 0 })) :=
    fun frame format => fresh.shows.refuse format fuel flags.push
  have checks : graph.avBuffersrcAddFrameFlags fuel 0 (some frame) flags =
      if flags.noCheckFormat then (graph.setPriv 0 (.abuffer { s with nbFailedRequests := 0 })).addFrame fuel 0 frame flags.push
      else if s.accepts (Chain.fillLayout s frame) then
        (graph.setPriv 0 (.abuffer { s with nbFailedRequests := 0 })).addFrame fuel 0 (Chain.fillLayout s frame) flags.push
      else some (EINVAL, graph.setPriv 0 (.abuffer { s with nbFailedRequests := 0 })) := by
    rw [avBuffersrcAddFrameFlags, stands.shows.source]
    simp only [Option.any_some, decide_eq_true_eq, if_neg even, told, Bool.false_eq_true, if_false]
    split
    · rfl
    · change (if ¬s.accepts (Chain.fillLayout s frame) then _ else _) = _
      exact ite_not ..
  rw [checks]
  by_cases unchecked : flags.noCheckFormat
  · have check : chain.check source flags frame = if chain.format 0 frame then .inr frame else .inl AVERROR_PATCHWELCOME := by
      simp [Chain.check, unchecked]
    rw [check, if_pos unchecked]
    by_cases format : chain.format 0 frame
    · rw [if_pos format]
    · rw [if_neg format, refuses frame format]
  · by_cases accepted : s.accepts (Chain.fillLayout s frame)
    · have check : chain.check source flags frame =
          if chain.format 0 (Chain.fillLayout s frame) then .inr (Chain.fillLayout s frame) else .inl AVERROR_PATCHWELCOME := by
        simp [Chain.check, unchecked, filled, accepts, accepted]
      rw [check, if_neg unchecked, if_pos accepted]
      by_cases format : chain.format 0 (Chain.fillLayout s frame)
      · rw [if_pos format]
      · rw [if_neg format, refuses _ format]
    · have check : chain.check source flags frame = .inl EINVAL := by
        simp [Chain.check, unchecked, filled, accepts, accepted]
      rw [check, if_neg unchecked, if_neg accepted]

/-- What the program adds at the source. -/
theorem Serves.add (serves : graph.Serves chain source line) (frame : Option AVFrame) (flags : SourceFlags) :
    ∃ enough after, after.Serves chain source (chain.answer source line (.add frame flags)).2 ∧
      ∀ fuel, enough ≤ fuel →
        graph.serve 0 (chain.n + 1) fuel (.add frame flags) = some ((chain.answer source line (.add frame flags)).1, after) := by
  obtain ⟨s, buf, row, stands, same, rfl⟩ := serves
  have holds := stands.shows.source
  have ended : (row.line chain.stages chain.n).ended = (row.link 0).ended := rfl
  have fresh := stands.setSource { s with nbFailedRequests := 0 } stands.told
  have same' : { s with nbFailedRequests := 0 } = { source with nbFailedRequests := 0, eof := s.eof } := by rw [same]
  cases frame with
  | none =>
    obtain ⟨enough, after, s', buf', row', stands', alike, line', closes⟩ := fresh.close flags.push
    refine ⟨enough, after, ⟨s', buf', row', stands', ?_, ?_⟩, ?_⟩
    · rw [alike.source, same]
    · rw [alike.peeked, line']
      simp only [Chain.answer, ended]
      split
      · rfl
      · exact Line.put_front ..
    · intro fuel more
      simp [serve, avBuffersrcAddFrameFlags, holds, closes fuel more, Chain.answer]
  | some frame =>
    by_cases odd : frame.channelLayout ≠ 0 ∧ avGetChannelLayoutNbChannels frame.channelLayout ≠ frame.channels
    · refine ⟨0, graph, ⟨s, buf, row, stands, same, ?_⟩, ?_⟩
      · simp [Chain.answer, odd]
      · intro fuel _
        simp [serve, avBuffersrcAddFrameFlags, holds, odd, Chain.answer]
    · cases ends : (row.link 0).ended with
      | true =>
        have told : s.eof = true := stands.told.trans ends
        refine ⟨0, _, ⟨_, buf, row, fresh, same', ?_⟩, ?_⟩
        · simp [Chain.answer, odd, ended, ends]
        · intro fuel _
          rw [serve, avBuffersrcAddFrameFlags, holds]
          simp [odd, told, Chain.answer, ended, ends]
      | false =>
        have checks := fun fuel => stands.checked same ends odd flags fuel
        cases checked : chain.check source flags frame with
        | inl ret =>
          refine ⟨0, _, ⟨_, buf, row, fresh, same', ?_⟩, ?_⟩
          · simp [Chain.answer, odd, ended, ends, checked]
          · intro fuel _
            rw [serve, checks, checked]
            simp [Chain.answer, odd, ended, ends, checked]
        | inr frame' =>
          obtain ⟨enough, after, s', buf', row', stands', alike, line', adds⟩ := fresh.add ends (Chain.check_format checked) flags.push
          refine ⟨enough, after, ⟨s', buf', row', stands', ?_, ?_⟩, ?_⟩
          · rw [alike.source, same]
          · rw [alike.peeked, line']
            simp only [Chain.answer, odd, ended, ends, checked, if_false, Bool.false_eq_true]
            exact Line.put_front ..
          · intro fuel more
            rw [serve, checks, checked]
            dsimp only
            rw [adds fuel more]
            simp [Chain.answer, odd, ended, ends, checked]

end AVFilterGraph
end Awt.Graph
