import Awt.Proofs.GraphSessions

/-! What a program is given by its graph over a whole session. -/

namespace Awt.Graph
open Pipeline (Row Stage Line)

variable {σ : Type}

namespace Chain

variable (chain : Chain σ) (source : BufferSourceContext)

/-- The replies to a program, call by call. -/
def replies (line : Line σ AVFrame) : List Request → List Reply
  | [] => []
  | request :: requests => (chain.answer source line request).1 :: replies (chain.answer source line request).2 requests

/-- What is still to come behind a program. -/
def behind (line : Line σ AVFrame) (requests : List Request) : Line σ AVFrame :=
  requests.foldl (fun line request => (chain.answer source line request).2) line

theorem replies_length (line : Line σ AVFrame) (requests : List Request) :
    (chain.replies source line requests).length = requests.length := by
  induction requests generalizing line with
  | nil => rfl
  | cons request requests ih => simp [replies, ih]

theorem replies_concat (line : Line σ AVFrame) (requests : List Request) (request : Request) :
    chain.replies source line (requests ++ [request]) =
      chain.replies source line requests ++ [(chain.answer source (chain.behind source line requests) request).1] := by
  induction requests generalizing line with
  | nil => rfl
  | cons first requests ih => simp [replies, behind, ih]

theorem answers_replies (line : Line σ AVFrame) (requests : List Request) :
    Refinement.answers (fun line request => some (chain.answer source line request)) line requests =
      some (chain.replies source line requests, chain.behind source line requests) := by
  induction requests generalizing line with
  | nil => rfl
  | cons request requests ih =>
    simp only [Refinement.answers, ih, Option.bind_eq_bind, Option.bind_some, Option.pure_def]
    rfl

/-- The frame that went in with a call. -/
def accepted : Request × Reply → List AVFrame
  | (.add (some frame) flags, (0, _)) => [if flags.noCheckFormat then frame else fillLayout source frame]
  | _ => []

/-- The frame that a call took out. -/
def given : Request × Reply → List AVFrame
  | (.get false, (_, some frame)) => [frame]
  | _ => []

def closes : Request → Bool
  | .add none _ => true
  | _ => false

private theorem check_outcome (flags : SourceFlags) (frame : AVFrame) :
    (∃ ret, chain.check source flags frame = .inl ret ∧ ret ≠ 0) ∨
      chain.check source flags frame = .inr (if flags.noCheckFormat then frame else fillLayout source frame) := by
  have refused : EINVAL ≠ 0 := by simp [EINVAL]
  have odd : AVERROR_PATCHWELCOME ≠ 0 := by simp [AVERROR_PATCHWELCOME]
  simp only [check]
  generalize (if flags.noCheckFormat then frame else fillLayout source frame) = frame
  split
  · exact .inl ⟨EINVAL, rfl, refused⟩
  · split
    · exact .inr rfl
    · exact .inl ⟨AVERROR_PATCHWELCOME, rfl, odd⟩

/-- One call changes what went in and what came out by the frame it is about. -/
theorem answer_ledger {start line : Line σ AVFrame} {fed got : List AVFrame}
    (ledger : { line with out := got ++ line.out } = start.put chain.stages chain.n line.ended fed) (request : Request) :
    { (chain.answer source line request).2 with
        out := got ++ given (request, (chain.answer source line request).1) ++ (chain.answer source line request).2.out } =
      start.put chain.stages chain.n (line.ended || closes request)
        (fed ++ accepted source (request, (chain.answer source line request).1)) ∧
      (chain.answer source line request).2.ended = (line.ended || closes request) := by
  have still (opens : closes request = false) (nothing : accepted source (request, (chain.answer source line request).1) = [])
      (kept : given (request, (chain.answer source line request).1) = []) (same : (chain.answer source line request).2 = line) :
      { (chain.answer source line request).2 with
          out := got ++ given (request, (chain.answer source line request).1) ++ (chain.answer source line request).2.out } =
        start.put chain.stages chain.n (line.ended || closes request)
          (fed ++ accepted source (request, (chain.answer source line request).1)) ∧
        (chain.answer source line request).2.ended = (line.ended || closes request) := by
    rw [opens, nothing, kept, same]
    simpa using ledger
  have refused : EINVAL ≠ 0 := by simp [EINVAL]
  have later (goes : line.ended = false) (ended : Bool) (items : List AVFrame) :
      { line.put chain.stages chain.n ended items with out := got ++ [] ++ (line.put chain.stages chain.n ended items).out } =
        start.put chain.stages chain.n ended (fed ++ items) := by
    rw [goes] at ledger
    rw [List.append_nil, ← Line.put_front, goes, ledger, Line.put_put]
  cases request with
  | add frame flags =>
    cases frame with
    | none =>
      cases ends : line.ended with
      | true => simpa [answer, accepted, given, closes, ends] using ledger
      | false =>
        refine ⟨?_, by simp [answer, closes, ends, Line.put]⟩
        simpa [answer, accepted, given, closes, ends] using later ends true []
    | some frame =>
      by_cases odd : frame.channelLayout ≠ 0 ∧ avGetChannelLayoutNbChannels frame.channelLayout ≠ frame.channels
      · apply still rfl <;> simp [answer, accepted, given, odd, refused]
      · cases ends : line.ended with
        | true =>
          rw [← ends]
          apply still rfl <;> simp [answer, accepted, given, odd, ends, refused]
        | false =>
          rcases check_outcome chain source flags frame with ⟨ret, checked, failed⟩ | checked
          · rw [← ends]
            apply still rfl <;> simp [answer, accepted, given, odd, ends, checked, failed]
          · refine ⟨?_, by simp [answer, odd, ends, checked, closes, Line.put]⟩
            simpa [answer, accepted, given, odd, ends, checked, closes] using
              later ends false [if flags.noCheckFormat then frame else fillLayout source frame]
  | get peek =>
    cases peek with
    | true => apply still rfl <;> simp [answer, accepted, given]
    | false =>
      cases out : line.out with
      | nil => apply still rfl <;> simp [answer, accepted, given, next, out]
      | cons frame frames =>
        simpa [answer, accepted, given, closes, next, out] using ledger

/-- The ledger of a program. -/
theorem replies_ledger {start line : Line σ AVFrame} {fed got : List AVFrame}
    (ledger : { line with out := got ++ line.out } = start.put chain.stages chain.n line.ended fed) (requests : List Request) :
    { chain.behind source line requests with
        out := got ++ (requests.zip (chain.replies source line requests)).flatMap given ++ (chain.behind source line requests).out } =
      start.put chain.stages chain.n (line.ended || requests.any closes)
        (fed ++ (requests.zip (chain.replies source line requests)).flatMap (accepted source)) ∧
      (chain.behind source line requests).ended = (line.ended || requests.any closes) := by
  induction requests generalizing line fed got with
  | nil => simpa [replies, behind] using ledger
  | cons request requests ih =>
    obtain ⟨first, ended⟩ := chain.answer_ledger source ledger request
    rw [← ended] at first
    have rest := ih first
    rw [ended] at rest
    simpa only [replies, behind, List.foldl_cons, List.zip_cons_cons, List.flatMap_cons, List.any_cons, Bool.or_assoc, List.append_assoc]
      using rest

end Chain

/-- "anull" passes every frame on. -/
def anull : AVFilter σ := ⟨fun _ => none, fun _ => none⟩

def anullStage : Stage σ AVFrame where
  step state frame := ([frame], state)
  flush _ := none
  left _ := 0
  left_flush := by
    intro state last next gives
    cases gives

theorem anull_models (format : AVFrame → Bool) (valid : σ → Prop) : anull.Models anullStage format format valid where
  step := by
    intro state frame _ _
    rfl
  stepped := by
    intro state frame valid takes
    exact ⟨by simpa [anullStage] using takes, valid⟩
  flush := by
    intro state _
    rfl
  flushed := by
    intro state last next valid gives
    cases gives

theorem anull_made (ended : Bool) (state : σ) (frames : List AVFrame) : anullStage.made ended state frames = (frames, state) := by
  induction frames with
  | nil => cases ended <;> rfl
  | cons frame frames ih =>
    rw [Stage.made_cons]
    simp only [anullStage] at ih ⊢
    rw [ih]
    rfl

/-- Filters that need not convert anything, as the one of `awt_init_filters`. -/
def nulls (n : Nat) (format : AVFrame → Bool) : Chain Unit where
  n := n
  filter _ := anull
  stages _ := anullStage
  format _ := format
  valid _ _ := True
  models _ _ := anull_models format _

namespace Chain

variable {n : Nat} {source : BufferSourceContext} (line : Line Unit AVFrame)

theorem nulls_put (format : AVFrame → Bool) (ended : Bool) (frames : List AVFrame) :
    line.put (nulls n format).stages n ended frames = { line with out := line.out ++ frames, ended } := by
  have passes : ∀ k, Line.passing (nulls n format).stages ended line.priv frames k = frames := by
    intro k
    induction k with
    | zero => rfl
    | succ k ih =>
      rw [Line.passing, ih]
      exact congrArg Prod.fst (anull_made ended (line.priv k) frames)
  have made : ∀ k, ((nulls n format).stages k).made ended (line.priv k) frames = (frames, line.priv k) :=
    fun k => anull_made ended (line.priv k) frames
  simp [Line.put, passes, made]

/-- What `awt_run` does with a frame of the decoder: it feeds it and fetches until there is
nothing. -/
def feed (flags : SourceFlags) (frame : AVFrame) : List Request := [.add (some frame) flags, .get false, .get false]

def handed (source : BufferSourceContext) (frame : AVFrame) : List Reply :=
  [(0, none), (0, some (fillLayout source frame)), (EAGAIN, none)]

theorem replies_feed {flags : SourceFlags} (checked : flags.noCheckFormat = false) {frame : AVFrame}
    (even : frame.channelLayout ≠ 0 → avGetChannelLayoutNbChannels frame.channelLayout = frame.channels)
    (accepts : source.accepts (fillLayout source frame)) (requests : List Request) :
    (nulls n source.accepts).replies source ⟨line.priv, [], false⟩ (feed flags frame ++ requests) =
      handed source frame ++ (nulls n source.accepts).replies source ⟨line.priv, [], false⟩ requests := by
  have odd : ¬(frame.channelLayout ≠ 0 ∧ avGetChannelLayoutNbChannels frame.channelLayout ≠ frame.channels) := by
    rintro ⟨set, differs⟩
    exact differs (even set)
  have check : (nulls n source.accepts).check source flags frame = .inr (fillLayout source frame) := by
    simp [Chain.check, checked, accepts, nulls]
  have add : (nulls n source.accepts).answer source ⟨line.priv, [], false⟩ (.add (some frame) flags) =
      ((0, none), ⟨line.priv, [fillLayout source frame], false⟩) := by
    have put := nulls_put (n := n) ⟨line.priv, [], false⟩ source.accepts false [fillLayout source frame]
    simp only [answer, if_neg odd, check, Bool.false_eq_true, if_false]
    exact congrArg (Prod.mk (0, none)) put
  simp only [feed, handed, List.cons_append, List.nil_append, replies, add]
  rfl

end Chain

/-- A filter that keeps one frame back, between its input and whoever asks it. -/
def keepOne : AVFilter (Option AVFrame) where
  filterFrame _ := some fun kept frame =>
    match kept with
    | none => .done 0 (some frame)
    | some before => .filterFrame 0 before fun ret => .done ret (some frame)
  requestFrame _ := some fun kept =>
    .requestFrame 0 fun ret =>
      if ret ≠ AVERROR_EOF then .done ret kept
      else
        match kept with
        | none => .done AVERROR_EOF none
        | some last => .filterFrame 0 last fun ret => .done ret none

def keepStage : Stage (Option AVFrame) AVFrame where
  step kept frame := (kept.toList, some frame)
  flush kept := kept.map fun last => (last, none)
  left kept := kept.toList.length
  left_flush := by
    intro kept last next gives
    cases kept with
    | none => cases gives
    | some frame =>
      cases gives
      simp

theorem keepOne_models (format : AVFrame → Bool) :
    keepOne.Models keepStage format format (fun kept => ∀ frame ∈ kept, format frame) where
  step := by
    intro kept frame _ _
    cases kept with
    | none => simp [keepOne, keepStage, Method.Passes]
    | some before => simp [keepOne, keepStage, Method.Passes]
  stepped := by
    intro kept frame valid takes
    refine ⟨?_, ?_⟩
    · intro made member
      exact valid made (by simpa [keepStage] using member)
    · simpa [keepStage] using takes
  flush := by
    intro kept _
    refine ⟨_, rfl, ?_, ?_⟩
    · simp [Method.Passes, AVERROR_EOF]
    · cases kept with
      | none => simp [keepStage, Method.Passes]
      | some last => simp [keepStage, Method.Passes]
  flushed := by
    intro kept last next valid gives
    cases kept with
    | none => cases gives
    | some frame =>
      cases gives
      exact ⟨valid _ rfl, by simp⟩

/-- Link `k` of a graph for mono frames of 8000 Hz. -/
def monoLink (k : Nat) : AVFilterLink := ⟨k, 0, k + 1, 0, 8000, .fltp, 4, 1, ⟨1, 8000⟩, 0, 0, .ffFramequeueInit, 0, 0, false, false⟩

def anullKeep : Chain (Option AVFrame) where
  n := 2
  filter k := if k = 0 then anull else keepOne
  stages k := if k = 0 then anullStage else keepStage
  format k := (monoLink k).fits
  valid _ := fun kept => ∀ frame ∈ kept, (monoLink 0).fits frame
  models := by
    intro k _
    by_cases first : k = 0
    · subst first
      exact anull_models _ _
    · simp only [if_neg first]
      exact keepOne_models _

/-- The filters came into the graph in another order than they are linked in. -/
def anullKeepGraph : AVFilterGraph (Option AVFrame) where
  filters := [0, 3, 1, 2]
  context i :=
    match i with
    | 0 => ⟨.abuffer ⟨8000, .fltp, 4, 1, 0, false⟩, [], [0], 0⟩
    | 1 => ⟨.other anull none, [0], [1], 0⟩
    | 2 => ⟨.other keepOne none, [1], [2], 0⟩
    | _ => ⟨.abuffersink ⟨100, none⟩, [2], [], 0⟩
  link := monoLink

theorem monoLink_shows (k : Nat) {format : AVFrame → Bool} (same : ∀ frame, (monoLink k).fits frame = format frame) :
    (monoLink k).Shows k format ⟨[], false, false, false, false⟩ where
  src := rfl
  srcpad := rfl
  dst := rfl
  dstpad := rfl
  whole := rfl
  fits := same
  fifo := FFFrameQueue.ffFramequeueInit_sound
  uncut := rfl
  statusIn := rfl
  statusOut := rfl
  wanted := rfl
  blocked := rfl
  formatted := by
    intro frame member
    cases member

theorem anullKeepGraph_shows :
    anullKeepGraph.Shows anullKeep ⟨8000, .fltp, 4, 1, 0, false⟩ ⟨100, none⟩ (Row.fresh fun _ => none) where
  filters := by
    intro i
    simp [anullKeepGraph, anullKeep]
    omega
  source := rfl
  sink := rfl
  stage := by
    intro k inside
    match k, inside with
    | 0, _ => rfl
    | 1, _ => rfl
  noInput := rfl
  inputs := by
    intro k inside
    match k, inside with
    | 0, _ => rfl
    | 1, _ => rfl
    | 2, _ => rfl
  outputs := by
    intro k inside
    match k, inside with
    | 0, _ => rfl
    | 1, _ => rfl
    | 2, _ => rfl
  noOutput := rfl
  ready := by
    intro i inside
    match i, inside with
    | 0, _ => rfl
    | 1, _ => rfl
    | 2, _ => rfl
    | 3, _ => rfl
  link := fun k _ => monoLink_shows k fun _ => rfl
  valid := by
    intro k _ frame member
    cases member

/-- The graph of `awt_init_filters` for mono frames of 8000 Hz; its filter came in last. -/
def awtGraph : AVFilterGraph Unit where
  filters := [0, 2, 1]
  context i :=
    match i with
    | 0 => ⟨.abuffer ⟨8000, .fltp, 4, 1, 0, false⟩, [], [0], 0⟩
    | 1 => ⟨.other anull (), [0], [1], 0⟩
    | _ => ⟨.abuffersink ⟨100, none⟩, [1], [], 0⟩
  link := monoLink

private theorem monoLink_accepts (k : Nat) (frame : AVFrame) :
    (monoLink k).fits frame = (⟨8000, .fltp, 4, 1, 0, false⟩ : BufferSourceContext).accepts frame := by
  simp only [AVFilterLink.fits, BufferSourceContext.accepts, monoLink]
  grind

theorem awtGraph_shows :
    awtGraph.Shows (nulls 1 (⟨8000, .fltp, 4, 1, 0, false⟩ : BufferSourceContext).accepts) ⟨8000, .fltp, 4, 1, 0, false⟩ ⟨100, none⟩
      (Row.fresh fun _ => ()) where
  filters := by
    intro i
    simp [awtGraph, nulls]
    omega
  source := rfl
  sink := rfl
  stage := by
    intro k inside
    match k, inside with
    | 0, _ => rfl
  noInput := rfl
  inputs := by
    intro k inside
    match k, inside with
    | 0, _ => rfl
    | 1, _ => rfl
  outputs := by
    intro k inside
    match k, inside with
    | 0, _ => rfl
    | 1, _ => rfl
  noOutput := rfl
  ready := by
    intro i inside
    match i, inside with
    | 0, _ => rfl
    | 1, _ => rfl
    | 2, _ => rfl
  link := fun k _ => monoLink_shows k (monoLink_accepts k)
  valid := fun _ _ => trivial

def monoFrame (sample : CFloat) : AVFrame := ⟨⟨8000, .fltp, 4, 1, 1, [[sample]]⟩, some 0⟩

/-- Two frames, the second of which stays behind until the end of the input. -/
def addTwo : List Request :=
  [.get false, .add (some (monoFrame 1)) ⟨false, false⟩, .get false, .add (some (monoFrame 2)) ⟨false, true⟩, .get true, .get false,
    .add none ⟨false, false⟩, .get false, .get false]

namespace AVFilterGraph

variable {chain : Chain σ} {source : BufferSourceContext} {buf : BufferSinkContext} {graph : AVFilterGraph σ} {priv : Nat → σ}

theorem serve_follows (chain : Chain σ) (source : BufferSourceContext) :
    Refinement.FollowsWithin (serve 0 (chain.n + 1)) (fun line request => some (chain.answer source line request))
      (Serves chain source) := by
  intro graph line request reply next serves answered
  obtain ⟨rfl, rfl⟩ : (chain.answer source line request).1 = reply ∧ (chain.answer source line request).2 = next := by
    simpa [Prod.ext_iff] using answered
  cases request with
  | add frame flags =>
    obtain ⟨enough, after, serves', steps⟩ := serves.add frame flags
    exact ⟨enough, after, serves', steps⟩
  | get peek =>
    obtain ⟨enough, after, serves', steps⟩ := serves.get peek
    exact ⟨enough, after, serves', steps⟩

theorem configured_serves (configured : graph.Shows chain source buf (Row.fresh priv)) (goes : source.eof = false)
    (unpeeked : buf.peekedFrame = none) : graph.Serves chain source ⟨priv, [], false⟩ := by
  refine ⟨source, buf, Row.fresh priv, ⟨configured, Row.Tidy.fresh priv, goes⟩, rfl, ?_⟩
  rw [Row.line_fresh, unpeeked]
  rfl

/-- Whenever a program fetches and there is nothing, it was given all that the filters make of
all that it added, as if they had been run one after the other on the whole of it. -/
theorem nothing_lost (configured : graph.Shows chain source buf (Row.fresh priv)) (goes : source.eof = false)
    (unpeeked : buf.peekedFrame = none) (requests : List Request) (peek : Bool) :
    ∃ enough replies reply after, (∀ fuel, enough ≤ fuel →
        Refinement.answers (serve 0 (chain.n + 1) fuel) graph (requests ++ [.get peek]) = some (replies ++ [reply], after)) ∧
      replies.length = requests.length ∧
      (requests.zip replies).flatMap Chain.given ++ reply.2.toList <+:
        Line.passing chain.stages (requests.any Chain.closes) priv ((requests.zip replies).flatMap (Chain.accepted source)) chain.n ∧
      (reply.2 = none → reply.1 = (if requests.any Chain.closes then AVERROR_EOF else EAGAIN) ∧
        (requests.zip replies).flatMap Chain.given =
          Line.passing chain.stages (requests.any Chain.closes) priv ((requests.zip replies).flatMap (Chain.accepted source)) chain.n) := by
  have serves := configured_serves configured goes unpeeked
  obtain ⟨enough, after, -, steps⟩ :=
    (serve_follows chain source).answers serves (chain.answers_replies source ⟨priv, [], false⟩ (requests ++ [.get peek]))
  rw [Chain.replies_concat] at steps
  have empty : ({ (⟨priv, [], false⟩ : Line σ AVFrame) with out := [] ++ [] } : Line σ AVFrame) =
      (⟨priv, [], false⟩ : Line σ AVFrame).put chain.stages chain.n false [] := (Line.put_nil chain.stages chain.n priv []).symm
  obtain ⟨ledger, ended⟩ := chain.replies_ledger source empty requests
  have made := congrArg Line.out ledger
  simp only [List.nil_append, Bool.false_or, Line.put] at made ended
  refine ⟨enough, _, _, after, steps, chain.replies_length source _ requests, ?_, ?_⟩
  · rw [← made]
    cases out : (chain.behind source ⟨priv, [], false⟩ requests).out with
    | nil => simp [Chain.answer, Chain.next, out]
    | cons frame frames => exact ⟨frames, by simp [Chain.answer, Chain.next, out]⟩
  · rw [← made, ← ended]
    cases out : (chain.behind source ⟨priv, [], false⟩ requests).out with
    | nil => simp [Chain.answer, Chain.next, out]
    | cons frame frames => simp [Chain.answer, Chain.next, out]

theorem nothing_lost_two : ∃ enough replies reply after, (∀ fuel, enough ≤ fuel →
      Refinement.answers (serve 0 3 fuel) anullKeepGraph (addTwo ++ [.get false]) = some (replies ++ [reply], after)) ∧
    (reply.2 = none → reply.1 = AVERROR_EOF ∧ (addTwo.zip replies).flatMap Chain.given =
      Line.passing anullKeep.stages true (fun _ => none)
        ((addTwo.zip replies).flatMap (Chain.accepted ⟨8000, .fltp, 4, 1, 0, false⟩)) 2) := by
  obtain ⟨enough, replies, reply, after, steps, -, -, all⟩ := nothing_lost anullKeepGraph_shows rfl rfl addTwo false
  exact ⟨enough, replies, reply, after, steps, all⟩

/-- Each frame of the decoder comes out of the graph of `awt_init_filters` at once, and
nothing else does. -/
theorem each_frame_comes_back {n : Nat} {source : BufferSourceContext} {buf : BufferSinkContext} {graph : AVFilterGraph Unit}
    (configured : graph.Shows (nulls n source.accepts) source buf (Row.fresh fun _ => ())) (goes : source.eof = false)
    (unpeeked : buf.peekedFrame = none) {flags : SourceFlags} (checked : flags.noCheckFormat = false) (frames : List AVFrame)
    (fits : ∀ frame ∈ frames, (frame.channelLayout ≠ 0 → avGetChannelLayoutNbChannels frame.channelLayout = frame.channels) ∧
      source.accepts (Chain.fillLayout source frame)) :
    ∃ enough after, ∀ fuel, enough ≤ fuel →
      Refinement.answers (serve 0 (n + 1) fuel) graph (frames.flatMap (Chain.feed flags)) =
        some (frames.flatMap (Chain.handed source), after) := by
  have replies : (nulls n source.accepts).replies source ⟨fun _ => (), [], false⟩ (frames.flatMap (Chain.feed flags)) =
      frames.flatMap (Chain.handed source) := by
    clear configured
    induction frames with
    | nil => rfl
    | cons frame frames ih =>
      obtain ⟨⟨even, accepts⟩, others⟩ := List.forall_mem_cons.mp fits
      have rest := ih others
      rw [List.flatMap_cons, List.flatMap_cons, ← rest]
      exact Chain.replies_feed ⟨fun _ => (), [], false⟩ checked even accepts _
  have serves := configured_serves configured goes unpeeked
  obtain ⟨enough, after, -, steps⟩ :=
    (serve_follows _ source).answers serves (Chain.answers_replies _ source ⟨fun _ => (), [], false⟩ (frames.flatMap (Chain.feed flags)))
  rw [replies] at steps
  exact ⟨enough, after, steps⟩

theorem each_frame_comes_back_two : ∃ enough after, ∀ fuel, enough ≤ fuel →
    Refinement.answers (serve 0 2 fuel) awtGraph
        [.add (some (monoFrame 1)) ⟨false, false⟩, .get false, .get false, .add (some (monoFrame 2)) ⟨false, false⟩, .get false, .get false] =
      some ([(0, none), (0, some (monoFrame 1)), (EAGAIN, none), (0, none), (0, some (monoFrame 2)), (EAGAIN, none)], after) := by
  have fits : ∀ frame ∈ [monoFrame 1, monoFrame 2],
      (frame.channelLayout ≠ 0 → avGetChannelLayoutNbChannels frame.channelLayout = frame.channels) ∧
        (⟨8000, .fltp, 4, 1, 0, false⟩ : BufferSourceContext).accepts (Chain.fillLayout ⟨8000, .fltp, 4, 1, 0, false⟩ frame) := by decide
  have unchecked : (⟨false, false⟩ : SourceFlags).noCheckFormat = false := rfl
  exact each_frame_comes_back awtGraph_shows rfl rfl unchecked [monoFrame 1, monoFrame 2] fits

end AVFilterGraph
end Awt.Graph
