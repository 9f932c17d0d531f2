import Awt.Proofs.Frames
import Awt.Script

/-! What one run leaves for the next: the sample rate, the filter graph and the
decoders, each filled when it is first needed and never looked at again. -/

namespace Awt
open OracleProgram

def Input.withLayout (input : Input) (channelLayout : Nat) : Input :=
  { input with decoder := { input.decoder with channelLayout } }

/-- The file that was opened last, with its codec context as it is now. -/
def openFile : Observer Surroundings AWTContext (Option Input) where
  init := none
  step file event := match event with
    | ⟨_, .mark (.openInput (.ok input)), _⟩ => some input
    | ⟨_, .setChannelLayout layout, _⟩ => file.map (·.withLayout layout)
    | _ => file

def AVFilterGraph.outputChannels (graph : AVFilterGraph) : Int := avGetChannelLayoutNbChannels graph.fcd.channelLayout

/-- A frame with the parameters of its decoder. -/
def AVFrame.isOf (frame : AVFrame) (decoder : AVCodecContext) : Bool :=
  frame.sampleRate = decoder.sampleRate ∧ frame.format = decoder.sampleFmt ∧
    frame.channelLayout = decoder.channelLayout ∧ frame.channels = decoder.channels

namespace Input

/-- A file that a fresh context accepts: its channel count has a default layout, and
the layout of its frames has as many channels as they have. -/
def plain (input : Input) : Bool :=
  avGetDefaultChannelLayout input.st.codecpar.channels ≠ 0 ∧
    avGetChannelLayoutNbChannels (bufferSrcArgs input).channelLayout = input.decoder.channels

/-- The graph might have been made for this file, the time base aside. -/
def suits (input : Input) (graph : AVFilterGraph) : Bool :=
  graph.fcs = { bufferSrcArgs input with timeBase := graph.fcs.timeBase } ∧
    min AWT_MAX_DECODER input.st.codecpar.channels = min AWT_MAX_DECODER graph.outputChannels

/-- The file with its layout filled in. -/
def filled (input : Input) : Input := input.withLayout (bufferSrcArgs input).channelLayout

/-- The file that is open is this one, before or after its layout was filled in. -/
def isOpen (input : Input) (file : Option Input) : Prop := file = some input ∨ file = some input.filled

def gives (input : Input) (frame : AVFrame) : Prop := frame.isOf input.decoder ∨ frame.isOf input.filled.decoder

end Input

/-- Frames meet a source that accepts them and decoders are made for the rate of the
sink. A packet loop starts with the decoders that its file and the graph call for, and
feeds the graph with no other number of them. -/
def cachesMatch : Event → Bool
  | ⟨awt, .avBuffersrcAddFrameFlags frame, _⟩ =>
    awt.fg.any fun graph => graph.fcs.accepts frame ∧ awt.nbDecoder = min AWT_MAX_DECODER graph.outputChannels
  | ⟨awt, .awt5DecodeStreamInit _ settings, _⟩ => awt.fg.any fun graph => graph.fcd.sampleRate = settings.sampleRate
  | ⟨awt, .logCallback .info (.start _ channels _ _ _) _, _⟩ =>
    awt.nbDecoder = min AWT_MAX_DECODER channels ∧
      awt.fg.any fun graph => awt.nbDecoder = min AWT_MAX_DECODER graph.outputChannels
  | _ => true

/-- Every file is one that a fresh context accepts, with a known rate, and suits the
graph that is there when it is opened; no license is refused with a positive code. -/
def filesMatch (file : Option Input) : Event → Bool
  | ⟨awt, .mark (.openInput (.ok input)), _⟩ =>
    input.plain ∧ (1 ≤ awt.sampleRate ∨ 1 ≤ input.st.codecpar.sampleRate) ∧ awt.fg.all input.suits
  | ⟨_, .avcodecReceiveFrame, result⟩ => ¬ result.code.val < 0 → file.any fun input => result.frame.isOf input.decoder
  | ⟨_, .awt5LicenseInfo _ _, info⟩ => info.ret = 0
  | _ => true

abbrev CachesMatch : Law := fun _ event => cachesMatch event
abbrev FilesMatch : Law := openFile.law fun file event => filesMatch file event

/-- Between two runs. -/
def Cached (awt : AWTContext) : Prop :=
  match awt.fg with
  | none => awt.nbDecoder = 0
  | some graph => 1 ≤ awt.sampleRate ∧ graph.fcd.sampleRate = awt.sampleRate ∧
      (awt.nbDecoder = 0 ∨ awt.nbDecoder = min AWT_MAX_DECODER graph.outputChannels)

/-- A file was opened, and a graph that is there already suits it. -/
structure Suited (input : Input) (file : Option Input) (awt : AWTContext) : Prop where
  file : input.isOpen file
  plain : input.plain
  rated : 1 ≤ awt.sampleRate
  cached : Cached awt
  suits : awt.fg.all input.suits

/-- A file meets its graph. -/
structure Matched (decoders : Int → Int → Prop) (input : Input) (file : Option Input) (awt : AWTContext) : Prop where
  file : input.isOpen file
  plain : input.plain
  rated : 1 ≤ awt.sampleRate
  graph : ∃ graph, awt.fg = some graph ∧ input.suits graph ∧ graph.fcd.sampleRate = awt.sampleRate ∧
    decoders awt.nbDecoder (min AWT_MAX_DECODER graph.outputChannels)

section files

variable {input : Input} {file : Option Input} {awt next : AWTContext} {graph : AVFilterGraph} {frame : AVFrame}
  {decoders : Int → Int → Prop}

private theorem isOpen_any (opened : input.isOpen file) (same : file.any fun input => frame.isOf input.decoder) :
    input.gives frame := by
  rcases opened with rfl | rfl
  · exact Or.inl same
  · exact Or.inr same

/-- Filling in the layout, once or twice, leaves the file open. -/
private theorem isOpen_fill (opened : input.isOpen file) (missing : input.decoder.channelLayout = 0) :
    input.isOpen (file.map (·.withLayout (avGetDefaultChannelLayout input.decoder.channels))) := by
  have layout : (bufferSrcArgs input).channelLayout = avGetDefaultChannelLayout input.decoder.channels := if_pos missing
  rw [← layout]
  rcases opened with rfl | rfl <;> exact Or.inr rfl

private theorem accepts_of_suits (plain : input.plain) (suits : input.suits graph) (given : input.gives frame) :
    graph.fcs.accepts frame := by
  obtain ⟨_, channels⟩ := of_decide_eq_true plain
  obtain ⟨source, _⟩ := of_decide_eq_true suits
  rw [source]
  apply decide_eq_true
  rcases given with same | same
  · obtain ⟨rate, format, layout, counted⟩ := of_decide_eq_true same
    simp only [bufferSrcArgs, rate, format, layout, counted] at channels ⊢
    by_cases missing : input.decoder.channelLayout = 0
    · simp only [missing, if_true] at channels ⊢
      simp [channels]
    · simp only [missing, if_false] at channels ⊢
      simp [channels]
  · obtain ⟨rate, format, layout, counted⟩ := of_decide_eq_true same
    simp only [Input.filled, Input.withLayout] at rate format layout counted
    rw [rate, format, layout, counted]
    refine ⟨Or.inr channels, rfl, rfl, ?_, channels⟩
    split
    next unknown => rfl
    next => rfl

private theorem suits_own_graph (plain : input.plain) (sampleRate : Int) :
    input.suits ⟨bufferSrcArgs input, ⟨.fltp, avGetDefaultChannelLayout input.st.codecpar.channels, sampleRate⟩⟩ := by
  obtain ⟨known, _⟩ := of_decide_eq_true plain
  apply decide_eq_true
  refine ⟨rfl, ?_⟩
  simp only [AVFilterGraph.outputChannels, default_layout_channels _ known]

/-- The three caches. -/
private def AWTContext.caches (awt : AWTContext) := (awt.fg, awt.sampleRate, awt.nbDecoder)

private theorem caches_eq : AWTContext.caches next = AWTContext.caches awt ↔
    next.fg = awt.fg ∧ next.sampleRate = awt.sampleRate ∧ next.nbDecoder = awt.nbDecoder := by
  simp only [AWTContext.caches, Prod.mk.injEq]

private theorem Cached.fields (cached : Cached awt) (same : AWTContext.caches next = AWTContext.caches awt) : Cached next := by
  obtain ⟨graph, rate, counted⟩ := caches_eq.mp same
  unfold Cached at cached ⊢
  rwa [graph, rate, counted]

private theorem Matched.fields (matched : Matched decoders input file awt)
    (same : AWTContext.caches next = AWTContext.caches awt) : Matched decoders input file next := by
  obtain ⟨graph, rate, counted⟩ := caches_eq.mp same
  refine ⟨matched.file, matched.plain, ?_, ?_⟩
  · rw [rate]
    exact matched.rated
  · rw [graph, rate, counted]
    exact matched.graph

private theorem Matched.cached (matched : Matched decoders input file awt)
    (counted : ∀ n m, decoders n m → n = 0 ∨ n = m) : Cached awt := by
  obtain ⟨graph, given, _, rate, made⟩ := matched.graph
  unfold Cached
  rw [given]
  exact ⟨matched.rated, rate, counted _ _ made⟩

private theorem Cached.open (cached : Cached awt) (plain : input.plain)
    (rated : 1 ≤ awt.sampleRate ∨ 1 ≤ input.st.codecpar.sampleRate) (suits : awt.fg.all input.suits) :
    Suited input (some input) (awt.takeRate input) := by
  have opened : input.isOpen (some input) := Or.inl rfl
  unfold AWTContext.takeRate
  split
  next unrated =>
    refine ⟨opened, plain, rated.resolve_left (by omega), ?_, suits⟩
    unfold Cached at cached ⊢
    cases graph : awt.fg with
    | none => simpa [graph] using cached
    | some graph' =>
      rw [graph] at cached
      have := cached.1
      omega
  next known => exact ⟨opened, plain, by omega, cached, suits⟩

private theorem Suited.matched (suited : Suited input file awt) (present : awt.fg.isSome) :
    Matched (fun n m => n = 0 ∨ n = m) input file awt := by
  obtain ⟨graph, given⟩ := Option.isSome_iff_exists.mp present
  have suits := suited.suits
  have cached := suited.cached
  unfold Cached at cached
  rw [given] at suits cached
  exact ⟨suited.file, suited.plain, suited.rated, graph, given, suits, cached.2.1, cached.2.2⟩

private theorem Suited.build (suited : Suited input file awt) (absent : awt.fg = none) {sampleRate : Int}
    (rate : awt.sampleRate = sampleRate) :
    Matched (fun n m => n = 0 ∨ n = m) input file { awt with fg := some ⟨bufferSrcArgs input,
      ⟨.fltp, avGetDefaultChannelLayout input.st.codecpar.channels, sampleRate⟩⟩ } := by
  have cached := suited.cached
  unfold Cached at cached
  rw [absent] at cached
  exact ⟨suited.file, suited.plain, suited.rated, _, rfl, suits_own_graph suited.plain sampleRate, rate.symm, Or.inl cached⟩

private theorem Matched.decode (matched : Matched (fun n _ => n = 0) input file awt) :
    Matched Eq input file { awt with nbDecoder := min AWT_MAX_DECODER input.st.codecpar.channels } := by
  obtain ⟨graph, given, suits, rate, _⟩ := matched.graph
  exact ⟨matched.file, matched.plain, matched.rated, graph, given, suits, rate, (of_decide_eq_true suits).2⟩

end files

private abbrev CacheTracks (agrees : Option Input → AWTContext → Prop) : AwtWorld → Prop :=
  openFile.Tracks (fun _ event => cachesMatch event) agrees

/-- Calls that neither open a file or change its codec context nor rely on a cache. -/
private def Call.offCache : Call → Bool
  | .mark (.openInput _) | .setChannelLayout _ | .avBuffersrcAddFrameFlags _ | .awt5DecodeStreamInit _ _
  | .logCallback .info (.start ..) _ => false
  | _ => true

private theorem offCache_unseen {call : Call} (off : Call.offCache call) (file : Option Input) (awt : AWTContext)
    (answer : Answer call) :
    openFile.step file ⟨awt, call, answer⟩ = file ∧ cachesMatch ⟨awt, call, answer⟩ := by
  cases call with
  | mark mark => cases mark <;> first | exact ⟨rfl, rfl⟩ | cases off
  | logCallback level msg ret => cases level <;> cases msg <;> first | exact ⟨rfl, rfl⟩ | cases off
  | _ => first | exact ⟨rfl, rfl⟩ | cases off

private theorem offCache_of_quiet {call : Call} (quiet : call.quiet) : Call.offCache call := by
  cases call with
  | mark mark => cases mark <;> first | rfl | cases quiet
  | logCallback level msg ret => cases level <;> cases msg <;> first | rfl | cases quiet
  | _ => first | rfl | cases quiet

section outlines

variable {law : Law} {agrees : Option Input → AWTContext → Prop} {world : AwtWorld} {fuel : Nat} {input : Input}

private theorem CacheTracks.ignores : Ignores law (fun call => Call.offCache call) (CacheTracks agrees) := by
  apply Observer.Tracks.ignores
  intro file awt call answer off holds
  obtain ⟨same, kept⟩ := offCache_unseen off file awt answer
  exact ⟨kept, by rwa [same]⟩

private theorem CacheTracks.quiet : Ignores law (fun call : Call => call.quiet) (CacheTracks agrees) :=
  CacheTracks.ignores.narrow fun _ => offCache_of_quiet

/-- The packet loop plays a file. -/
private abbrev PlayingFile (input : Input) : AwtWorld → Prop := CacheTracks (Matched Eq input)

private abbrev Resting : AwtWorld → Prop := CacheTracks fun _ awt => Cached awt

private theorem rests (playing : PlayingFile input world) : Resting world :=
  playing.weaken fun matched => matched.cached fun _ _ => Or.inr

private def cacheSetup (input : Input) : SetupOutline FilesMatch input.st.codecpar.channels where
  idle := CacheTracks (Matched (fun n _ => n = 0) input)
  licensed := CacheTracks (Matched (fun n _ => n = 0) input)
  initialising _ := PlayingFile input
  refused ret world := ret < 0 ∧ Resting world
  halt _ := Resting
  silent := silent_of_quiet CacheTracks.quiet
  configures := tracks_frames fun file awt next same matched => by
    simp only [AWTContext.outsideConfig, Prod.mk.injEq] at same
    exact matched.fields (caches_eq.mpr (by tauto))
  halts _ _ _ holds := holds.weaken fun matched => matched.cached fun _ _ => Or.inl
  fails _ _ _ world negative holds := by
    refine (CacheTracks.quiet _ rfl world holds).weaken fun _ _ holds => ⟨negative, ?_⟩
    exact holds.weaken fun matched => matched.cached fun _ _ => Or.inl
  inform license method world holds := by
    intro info accepted
    have asked := CacheTracks.ignores _ rfl world holds info accepted
    have zero : info.ret = 0 := of_decide_eq_true accepted
    split
    · refine (CacheTracks.quiet _ rfl _ asked).weaken fun _ _ logged => ?_
      rw [if_neg (not_not.mpr zero)]
      exact logged
    · exact fun _ _ => asked.update fun matched => matched.fields rfl
  enter world holds := by
    refine (CacheTracks.quiet _ rfl world holds).weaken fun _ _ holds => ?_
    exact holds.update Matched.decode
  init i rest world holds := by
    obtain ⟨graph, given, _, rate, _⟩ := holds.agrees.graph
    intro result _
    have sized : PlayingFile input ((world.record (.awt5DecodeStreamInit i world.state.decodeSettings) result).update fun awt =>
        { awt with awtSize := result.bufferSize.getD awt.awtSize }) := by
      refine holds.store (fun _ => ?_) fun matched => matched.fields rfl
      simp [cachesMatch, given, AWTContext.decodeSettings, rate]
    split
    · refine (CacheTracks.quiet _ rfl _ sized).weaken fun _ world holds => ?_
      exact (CacheTracks.quiet _ rfl world holds).weaken fun _ _ holds => ⟨by decide, rests holds⟩
    · have made : PlayingFile input (World.update _ (·.setDecoder i world.trace.length)) :=
        sized.update fun matched => matched.fields rfl
      refine (CacheTracks.ignores _ rfl _ made).weaken fun _ _ holds => ?_
      exact holds.update fun matched => matched.fields rfl

private theorem cache_frame (input : Input) : LoopFrame FilesMatch (PlayingFile input) (PlayingFile input) Resting where
  quiet := CacheTracks.quiet
  ends := ends_of_ignores CacheTracks.ignores (fun _ _ => rfl) rfl
  again _ holds := holds
  leaves _ := rests

private def cacheLoops (fuel : Nat) (input : Input) : LoopOutline FilesMatch fuel input.st where
  head _ := PlayingFile input
  reading _ := PlayingFile input
  timing _ _ := PlayingFile input
  sending _ _ := PlayingFile input
  receiving _ _ := PlayingFile input
  pushing _ frame world := input.gives frame ∧ PlayingFile input world
  sinking _ := PlayingFile input
  filtering _ _ := PlayingFile input
  out _ := Resting
  halt _ := Resting
  head_expired _ _ := rests
  receiving_expired _ _ _ := rests
  sinking_expired _ _ := rests
  check _ world holds := (cache_frame input).check (CacheTracks.ignores _ rfl world holds)
  read _ world holds := (cache_frame input).read (CacheTracks.ignores _ rfl world holds)
  untimed _ _ _ _ holds := holds
  time startPts packet micros world _ holds := by
    have stamped : PlayingFile input (world.update (·.setCurrent (int64 (micros - startPts.getD micros)))) :=
      holds.update fun matched => matched.fields rfl
    exact (cache_frame input).time (CacheTracks.quiet _ rfl _ stamped)
  send _ _ world holds := (cache_frame input).send (CacheTracks.ignores _ rfl world holds)
  drained _ _ world _ holds := CacheTracks.quiet _ rfl world holds
  receive _ _ world _ holds := by
    intro result lawful
    have received := CacheTracks.ignores _ rfl world holds result lawful
    split
    · exact CacheTracks.quiet _ rfl _ received
    split
    · exact CacheTracks.quiet _ rfl _ (rests received)
    next given =>
      exact ⟨isOpen_any holds.agrees.file (of_decide_eq_true lawful given), received⟩
  push _ frame world holds := by
    obtain ⟨same, holds⟩ := holds
    apply (cache_frame input).push
    intro code _
    refine holds.record (fun matched => ?_) id
    obtain ⟨graph, given, suits, _, counted⟩ := matched.graph
    simp [cachesMatch, given, accepts_of_suits matched.plain suits same, counted]
  sink _ world holds := (cache_frame input).sink (CacheTracks.ignores _ rfl world holds)
  filter _ frame world holds := by
    have calls : Ignores FilesMatch (fun call : Call => call.ofBlocks) (PlayingFile input) :=
      CacheTracks.ignores.narrow fun call part => by
        cases call with
        | logCallback level msg ret => cases level <;> cases msg <;> first | rfl | cases part
        | _ => first | rfl | cases part
    have fields : Frames AWTContext.outsideFilter (PlayingFile input) :=
      tracks_frames fun file awt next same matched => by
        simp only [AWTContext.outsideFilter, AWTContext.decodeSettings, Prod.mk.injEq, DecodeSettings.mk.injEq] at same
        exact matched.fields (caches_eq.mpr (by tauto))
    apply (awtFilterFrame_keeps calls fields (fun _ _ => rests) fuel frame holds).imp
    exact fun _ _ holds => (cache_frame input).filtered holds

private theorem cached_filters (holds : CacheTracks (Suited input) world) :
    Meets FilesMatch (needFilters input) (fun ret world => if ret ≠ 0 then Resting world
      else CacheTracks (Matched (fun n m => n = 0 ∨ n = m) input) world) (fun _ => Resting) world := by
  have resting {ret : Int} {world : AwtWorld} (holds : Resting world) :
      After FilesMatch (.mark (.initFilters ret)) (fun _ => Resting) world := CacheTracks.ignores _ rfl world holds
  apply Meets.get_bind
  split
  next present =>
    apply Meets.ret
    rw [if_neg (by decide)]
    exact holds.weaken fun suited => suited.matched present
  next absent =>
    have empty : world.state.fg = none := by simpa using absent
    have start : CacheTracks (fun file awt => Suited input file awt ∧ awt.fg = none ∧
        awt.sampleRate = world.state.sampleRate) world := holds.weaken fun suited => ⟨suited, empty, rfl⟩
    have built : Meets FilesMatch (awtInitFilters "anull" .fltp input.st.codecpar.channels input)
        (fun ret world => ret = 0 ∧ CacheTracks (Matched (fun n m => n = 0 ∨ n = m) input) world ∨ ret < 0 ∧ Resting world)
        (fun _ => Resting) world := by
      apply awtInitFilters_meets (silent_of_quiet CacheTracks.quiet) (silent_of_quiet CacheTracks.quiet)
        (silent_of_quiet CacheTracks.quiet) _ _ _ "anull" .fltp _ _ start
      · intro layout world holds missing same _ _
        subst same
        exact holds.record (fun _ => rfl) fun start =>
          ⟨{ start.1 with file := isOpen_fill start.1.file missing }, start.2⟩
      · exact fun _ holds => holds.weaken fun suited => suited.1.cached
      · exact fun _ _ world holds => CacheTracks.quiet _ rfl world (holds.weaken fun suited => suited.1.cached)
      · exact fun _ holds => holds.update fun suited => suited.1.build suited.2.1 suited.2.2
    apply Meets.seq built
    rintro ret world (⟨rfl, built⟩ | ⟨negative, failed⟩)
    · apply Meets.call_seq (CacheTracks.ignores _ rfl world built)
      intro _ _ built
      apply Meets.ret
      rw [if_neg (by decide)]
      exact built
    · apply Meets.call_seq (CacheTracks.ignores _ rfl world failed)
      intro _ _ failed
      apply Meets.ret
      rw [if_pos (by omega)]
      exact failed

private theorem cached_setup (filePath : String)
    (holds : CacheTracks (Matched (fun n m => n = 0 ∨ n = m) input) world) :
    Meets FilesMatch (needSetup fuel input) (fun ret world =>
      if ret < 0 then Resting world
      else After FilesMatch (.logCallback .info (.start filePath input.st.codecpar.channels
        input.st.codecpar.sampleRate world.state.sampleRate world.state.awtSize) (some ret))
        (fun _ => PlayingFile input) world) (fun _ => Resting) world := by
  have starts {ret : Int} {world : AwtWorld} (playing : PlayingFile input world) (sampleRate awtSize : Int) :
      After FilesMatch (.logCallback .info (.start filePath input.st.codecpar.channels
        input.st.codecpar.sampleRate sampleRate awtSize) (some ret)) (fun _ => PlayingFile input) world := by
    intro _ _
    refine playing.record (fun matched => ?_) id
    obtain ⟨graph, given, suits, _, counted⟩ := matched.graph
    simp [cachesMatch, given, counted, (of_decide_eq_true suits).2]
  apply Meets.get_bind
  split
  next counted =>
    apply Meets.ret
    rw [if_neg (by decide)]
    refine starts (holds.weaken fun matched => ?_) _ _
    obtain ⟨graph, given, suits, rate, made⟩ := matched.graph
    exact ⟨matched.file, matched.plain, matched.rated, graph, given, suits, rate, made.resolve_left counted⟩
  next unset =>
    have bare : CacheTracks (Matched (fun n _ => n = 0) input) world := by
      apply holds.weaken
      intro matched
      obtain ⟨graph, given, suits, rate, _⟩ := matched.graph
      exact ⟨matched.file, matched.plain, matched.rated, graph, given, suits, rate, not_not.mp unset⟩
    apply Meets.seq ((cacheSetup input).sound fuel bare)
    rintro ret world (⟨rfl, playing⟩ | ⟨_, negative, refused⟩)
    · apply Meets.call_seq (CacheTracks.ignores _ rfl world playing)
      intro _ _ playing
      apply Meets.ret
      rw [if_neg (by decide)]
      exact starts playing _ _
    · apply Meets.call_seq (CacheTracks.ignores _ rfl world refused)
      intro _ _ refused
      apply Meets.ret
      rw [if_pos negative]
      exact refused

private def cacheOutline (fuel : Nat) : RunOutline FilesMatch fuel where
  idle := Resting
  opening := Resting
  opened input := CacheTracks (Suited input)
  filtered input := CacheTracks (Matched (fun n m => n = 0 ∨ n = m) input)
  loops := cacheLoops fuel
  ending _ := Resting
  finished _ := Resting
  halt _ := Resting
  allocate _ := allocate_keeps (CacheTracks.ignores _ rfl) (CacheTracks.ignores _ rfl) (CacheTracks.ignores _ rfl)
    (fun _ holds => holds.update fun cached => cached.fields rfl) fun _ holds => holds
  openInput filePath world holds := by
    apply (awtOpenInput_meets (silent_of_quiet CacheTracks.quiet) (fun _ holds => holds)
      (fun _ _ => CacheTracks.quiet _ rfl) (fun _ holds => holds) filePath holds).imp
    intro result world reached
    cases result with
    | error ret => exact fun _ _ => reached.1.record (fun _ => rfl) id
    | ok input =>
      intro answer lawful
      obtain ⟨plain, rated, suits⟩ := of_decide_eq_true lawful
      exact reached.store (fun _ => rfl) fun cached => cached.open plain rated suits
  filters _ _ holds := cached_filters holds
  setup filePath _ _ holds := cached_setup filePath holds
  out _ _ _ holds := holds
  loops_halt _ _ _ halted := halted
  finish _ world holds := by
    have spent : Resting (world.update AWTContext.spend) :=
      holds.update fun cached => cached.fields rfl
    refine (CacheTracks.quiet _ rfl _ spent).weaken fun _ world holds => ?_
    exact CacheTracks.ignores _ rfl world holds
  releases _ := silent_of_quiet CacheTracks.quiet

end outlines

/-- If every file suits the graph that it meets, all runs find what a fresh context
would have made for them. -/
theorem caches_match (oracle : Oracle Surroundings AWTContext) (fuel : Nat) {awt : AWTContext} (fresh : Opened awt)
    (requests : List Request) (matching : Lawful FilesMatch ((Session.opened awt).run oracle fuel requests).trace) :
    Lawful CachesMatch ((Session.opened awt).run oracle fuel requests).trace := by
  apply (cacheOutline fuel).history (fun _ _ idle => idle)
  · exact fun _ idle => idle.kept
  · exact fun _ _ halted => halted.kept
  · intro world idle
    have closes : CacheTracks (fun _ _ => True) world := idle.weaken fun _ => trivial
    apply (closeContext_keeps _ (fun _ holds => holds.update id) closes).imp _
    · exact CacheTracks.ignores.narrow fun call part => by cases call <;> first | rfl | cases part
    · exact fun _ _ closed => closed.kept
  · apply Observer.Tracks.init awt
    cases fresh <;> exact rfl
  · exact matching

/-- Two stereo files of different rates, with one frame each. -/
def twoRates : Script where
  input run := if run = 1 then pcmFile 44100 2 else pcmFile 48000 2
  packets _ := [⟨0, 0⟩]
  yields n := if n = 0 then [pcmFrame 44100 [[1, 2], [3, 4]]] else [pcmFrame 48000 [[1, 2], [3, 4]]]

/-- The second file alone. -/
def secondRate : Script where
  input _ := pcmFile 48000 2
  packets _ := [⟨0, 0⟩]
  yields _ := [pcmFrame 48000 [[1, 2], [3, 4]]]

theorem second_file_refused :
    ¬ Lawful CachesMatch (twoRates.session (awtOpen 44100 1 1 1 0) [.exec "a", .exec "b"]).trace ∧
      (twoRates.session (awtOpen 44100 1 1 1 0) [.exec "a", .exec "b"]).returned = [0, AWT_CODE_PROCESS_ERROR] ∧
      (secondRate.session (awtOpen 44100 1 1 1 0) [.exec "b"]).returned = [0] := by
  decide +kernel

theorem same_rate_matches :
    Lawful CachesMatch (secondRate.session (awtOpen 0 1 1 1 0) [.exec "a", .exec "b", .close]).trace :=
  caches_match _ _ (.awtOpen 0 1 1 1 0) _ (by decide +kernel)

end Awt
