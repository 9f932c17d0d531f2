import Mathlib.Data.List.Induction
import Mathlib.Data.List.Nodup
import Awt.Proofs.BlockOutline
import Awt.Script

/-! Decoders from `awt_setup` to `awt_close`: created once, used while they live,
killed once. -/

namespace Awt
open OracleProgram

/-- Decoders are named by the number of the call that created them. -/
structure DecoderUse where
  calls : Nat
  created : List DecObj
  killed : List (Option DecObj)

def decoderUse : Observer Surroundings AWTContext DecoderUse where
  init := ⟨0, [], []⟩
  step use event := match event with
    | ⟨_, .awt5DecodeStreamInit _ _, result⟩ =>
      ⟨use.calls + 1, if result.ret = 0 then use.created ++ [use.calls] else use.created, use.killed⟩
    | ⟨_, .awt5DecodeStreamKill _ decObj, _⟩ => ⟨use.calls + 1, use.created, use.killed ++ [decObj]⟩
    | _ => { use with calls := use.calls + 1 }

def DecoderUse.live (use : DecoderUse) (decObj : DecObj) : Bool := decObj ∈ use.created ∧ some decObj ∉ use.killed

/-- Every decoder below `nb_decoder` is live and has its buffer of `awt_size` floats. -/
def AWTContext.intact (awt : AWTContext) (use : DecoderUse) : Bool :=
  (indices awt.nbDecoder).all fun i => (awt.decoder i).any use.live ∧ (awt.buffer i).any (·.length = awt.awtSize)

/-- Every decoder that was created was killed once, and nothing else was. -/
structure DecoderUse.KilledOnce (use : DecoderUse) : Prop where
  distinct : use.created.Nodup
  killed : use.killed = use.created.map some

/-- A failed `awt_setup` leaves no decoder behind. Outside its own loop, and that of
`awt_close`, the context is intact, and only live decoders are used or killed. -/
def setupAtomic (use : DecoderUse) : Event → Bool
  | ⟨_, .awt5DecodeStreamInit _ _, _⟩ | ⟨_, .malloc (.buffer _) _, _⟩ | ⟨_, .release (.buffer _), _⟩ => true
  | ⟨_, .awt5DecodeStreamKill _ decObj, _⟩ => decObj.any use.live
  | ⟨awt, .mark (.setup ret), _⟩ => (ret ≠ 0 → awt.nbDecoder = 0) ∧ awt.intact use
  | ⟨awt, .awt5DecodeStreamBuffer _ decObj _, _⟩ => decObj.any use.live ∧ awt.intact use
  | ⟨awt, .memcpy i _ _ _, _⟩ => (awt.buffer i).isSome ∧ awt.intact use
  | ⟨awt, _, _⟩ => awt.intact use

/-- Every decoder and every buffer can be made, and all decoders want one block size. -/
def makesDecoders : Event → Bool
  | ⟨awt, .awt5DecodeStreamInit i _, result⟩ =>
    let size := result.bufferSize.getD awt.awtSize
    result.ret = 0 ∧ 0 ≤ size ∧ (i ≠ 0 → size = awt.awtSize)
  | ⟨_, .malloc (.buffer _) _, allocated⟩ => allocated
  | _ => true

abbrev MakesDecoders : Law := fun _ event => makesDecoders event

/-- The first `made` places hold the decoders that were created, and none was killed. -/
structure DecoderUse.Owns (use : DecoderUse) (made : Nat) (decoder : Nat → Option DecObj) : Prop where
  created : use.created.map some = (List.range made).map decoder
  distinct : use.created.Nodup
  known : ∀ decObj ∈ use.created, decObj < use.calls
  alive : use.killed = []

namespace DecoderUse.Owns

variable {use : DecoderUse} {made : Nat} {decoder : Nat → Option DecObj}

theorem live (owns : use.Owns made decoder) {i : Nat} (inside : i < made) : (decoder i).any use.live := by
  have member : decoder i ∈ use.created.map some := by
    rw [owns.created]
    exact List.mem_map_of_mem (List.mem_range.mpr inside)
  obtain ⟨decObj, created, same⟩ := List.mem_map.mp member
  simp [← same, DecoderUse.live, created, owns.alive]

theorem later (owns : use.Owns made decoder) : DecoderUse.Owns { use with calls := use.calls + 1 } made decoder :=
  ⟨owns.created, owns.distinct, fun decObj created => Nat.lt_succ_of_lt (owns.known decObj created), owns.alive⟩

/-- The next decoder is named by the call that creates it. -/
theorem create (owns : use.Owns made decoder) :
    DecoderUse.Owns { use with calls := use.calls + 1, created := use.created ++ [use.calls] } (made + 1)
      (Function.update decoder made (some use.calls)) := by
  constructor
  · rw [List.map_append, owns.created, List.range_succ, List.map_append, List.map_singleton, List.map_singleton,
      Function.update_self]
    congr 1
    apply List.map_congr_left
    intro i member
    have other := List.mem_range.mp member
    rw [Function.update_of_ne (by omega)]
  · apply owns.distinct.append (List.nodup_singleton _)
    rw [List.disjoint_singleton]
    exact fun created => absurd (owns.known _ created) (lt_irrefl _)
  · intro decObj created
    rcases List.mem_append.mp created with before | last
    · exact Nat.lt_succ_of_lt (owns.known decObj before)
    · rw [List.mem_singleton.mp last]
      exact Nat.lt_succ_self _
  · exact owns.alive

end DecoderUse.Owns

/-- Decoders are killed one place after the other; those in `items` are still to come. -/
def Killing (items : List Nat) (use : DecoderUse) (decoder : Nat → Option DecObj) : Prop :=
  ∃ gone more, items = List.range' gone more ∧ use.created.map some = (List.range (gone + more)).map decoder ∧
    use.created.Nodup ∧ use.killed = (List.range gone).map decoder

namespace Killing

variable {use : DecoderUse} {decoder : Nat → Option DecObj}

theorem start {made : Nat} (owns : use.Owns made decoder) : Killing (List.range made) use decoder :=
  ⟨0, made, List.range_eq_range', by rw [Nat.zero_add]; exact owns.created, owns.distinct, owns.alive⟩

theorem kill {i : Nat} {items : List Nat} (killing : Killing (i :: items) use decoder) : (decoder i).any use.live ∧
    Killing items ⟨use.calls + 1, use.created, use.killed ++ [decoder i]⟩ decoder := by
  obtain ⟨gone, more, left, created, distinct, killed⟩ := killing
  cases more with
  | zero => cases left
  | succ more =>
  rw [List.range'_succ] at left
  cases left
  have unique : ((List.range (i + (more + 1))).map decoder).Nodup := by
    rw [← created]
    exact distinct.map (Option.some_injective _)
  have fresh : decoder i ∉ use.killed := by
    rw [killed]
    intro again
    obtain ⟨j, member, same⟩ := List.mem_map.mp again
    have before := List.mem_range.mp member
    have equal := List.inj_on_of_nodup_map unique (List.mem_range.mpr (by omega)) (List.mem_range.mpr (by omega)) same
    omega
  constructor
  · have member : decoder i ∈ use.created.map some := by
      rw [created]
      exact List.mem_map_of_mem (List.mem_range.mpr (by omega))
    obtain ⟨decObj, made, same⟩ := List.mem_map.mp member
    rw [← same] at fresh ⊢
    simp [DecoderUse.live, made, fresh]
  · refine ⟨i + 1, more, rfl, ?_, distinct, ?_⟩
    · rw [created]
      congr 2
      omega
    · simp [killed, List.range_succ]

theorem done (killing : Killing [] use decoder) : use.KilledOnce := by
  obtain ⟨gone, more, left, created, distinct, killed⟩ := killing
  cases more with
  | zero => exact ⟨distinct, killed.trans created.symm⟩
  | succ more => cases left

end Killing

/-- The context owns what was created: its first `made` decoders, the first `held`
of them with a buffer. -/
structure Owned (made held : Nat) (use : DecoderUse) (awt : AWTContext) : Prop where
  decoders : use.Owns made awt.decoder
  buffers : ∀ i < held, ∃ block, awt.buffer i = some block ∧ block.length = awt.awtSize

section owned

variable {made held : Nat} {use : DecoderUse} {awt : AWTContext}

private theorem Owned.intact (owned : Owned awt.nbDecoder.toNat awt.nbDecoder.toNat use awt) : awt.intact use := by
  apply List.all_eq_true.mpr
  intro i member
  have inside := List.mem_range.mp member
  obtain ⟨block, held, length⟩ := owned.buffers i inside
  simp [owned.decoders.live inside, held, length]

private theorem Owned.later (owned : Owned made held use awt) :
    Owned made held { use with calls := use.calls + 1 } awt :=
  ⟨owned.decoders.later, owned.buffers⟩

private theorem Owned.fields (owned : Owned made held use awt) {next : AWTContext} (decoders : next.decoder = awt.decoder)
    (buffers : next.buffer = awt.buffer) (size : next.awtSize = awt.awtSize) : Owned made held use next := by
  constructor
  · rw [decoders]
    exact owned.decoders
  · rw [buffers, size]
    exact owned.buffers

private theorem Owned.create (owned : Owned made made use awt) {size : Int} (same : made ≠ 0 → size = awt.awtSize) :
    Owned (made + 1) made { use with calls := use.calls + 1, created := use.created ++ [use.calls] }
      ({ awt with awtSize := size }.setDecoder made use.calls) := by
  refine ⟨owned.decoders.create, fun i inside => ?_⟩
  obtain ⟨block, held, length⟩ := owned.buffers i inside
  exact ⟨block, held, length.trans (same (by omega)).symm⟩

private theorem Owned.allot (owned : Owned made held use awt) (size : 0 ≤ awt.awtSize) :
    Owned made (held + 1) use (awt.setBuffer held (some (List.replicate awt.awtSize.toNat 0))) := by
  refine ⟨owned.decoders, fun i inside => ?_⟩
  by_cases last : i = held
  · subst last
    refine ⟨_, setBuffer_same _ _ _, ?_⟩
    rw [List.length_replicate]
    exact Int.toNat_of_nonneg size
  · rw [setBuffer_other _ last]
    exact owned.buffers i (by omega)

private theorem Owned.copied (owned : Owned made held use awt) {i : Nat} {before after : List CFloat}
    (present : awt.buffer i = some before) (length : after.length = before.length) :
    Owned made held use (awt.setBuffer i (some after)) := by
  refine ⟨owned.decoders, fun j inside => ?_⟩
  obtain ⟨block, held, size⟩ := owned.buffers j inside
  by_cases same : j = i
  · subst same
    rw [present] at held
    cases held
    refine ⟨after, setBuffer_same _ _ _, ?_⟩
    rw [length]
    exact size
  · rw [setBuffer_other _ same]
    exact ⟨block, held, size⟩

end owned

private theorem memcpy_length {dst src filled : List CFloat} {dstOff srcOff count : Int}
    (copied : memcpy dst dstOff src srcOff count = .ok filled) : filled.length = dst.length := by
  unfold memcpy at copied
  split at copied
  · cases copied
  split at copied
  · cases copied
  split at copied
  · cases copied
  cases copied
  simp only [List.length_append, List.length_take, List.length_drop]
  omega

def Stop.missesBuffer : Stop → Bool
  | .fault (.missingBuffer _) => true
  | _ => false

private theorem memcpy_faults {dst src : List CFloat} {dstOff srcOff count : Int} {why : Fault}
    (bad : memcpy dst dstOff src srcOff count = .error why) : Stop.missesBuffer (.fault why) = false := by
  unfold memcpy at bad
  split at bad
  · cases bad
    rfl
  split at bad
  · cases bad
    rfl
  split at bad
  · cases bad
    rfl
  · cases bad

theorem calls_seen (trace : History) : (decoderUse.seen trace).calls = trace.length := by
  induction trace using List.reverseRecOn with
  | nil => rfl
  | append_singleton past event ih =>
    obtain ⟨awt, call, answer⟩ := event
    rw [Observer.seen_concat, List.length_append, ← ih]
    cases call <;> rfl

/-- Between any two calls outside the loops of `awt_setup` and `awt_close`. -/
private def Whole (use : DecoderUse) (awt : AWTContext) : Prop :=
  Owned awt.nbDecoder.toNat awt.nbDecoder.toNat use awt

private abbrev OwnTracks (agrees : DecoderUse → AWTContext → Prop) : AwtWorld → Prop :=
  decoderUse.Tracks (fun use event => setupAtomic use event) agrees

/-- Calls that only need the context to be intact. -/
private def Call.plain : Call → Bool
  | .awt5DecodeStreamInit _ _ | .awt5DecodeStreamKill _ _ | .awt5DecodeStreamBuffer _ _ _ | .memcpy _ _ _ _
  | .malloc (.buffer _) _ | .mark (.setup _) => false
  | _ => true

private theorem plain_of_steady {call : Call} (steady : call.steady) : Call.plain call := by
  cases call with
  | mark mark => cases mark <;> first | rfl | cases steady
  | malloc what size => cases what <;> first | rfl | cases steady
  | _ => first | rfl | cases steady

private theorem plain_atomic {call : Call} (plain : Call.plain call) {use : DecoderUse} {awt : AWTContext}
    (intact : awt.intact use) (answer : Answer call) : setupAtomic use ⟨awt, call, answer⟩ := by
  cases call with
  | mark mark => cases mark <;> first | exact intact | cases plain
  | malloc what size => cases what <;> first | exact intact | cases plain
  | release what => cases what <;> first | exact intact | rfl
  | _ => first | exact intact | cases plain

private theorem plain_step {call : Call} (plain : Call.plain call) (use : DecoderUse) (awt : AWTContext) (answer : Answer call) :
    decoderUse.step use ⟨awt, call, answer⟩ = { use with calls := use.calls + 1 } := by
  cases call <;> first | rfl | cases plain

section outlines

variable {law : Law} {agrees other : DecoderUse → AWTContext → Prop} {world : AwtWorld} {fuel : Nat}

private theorem OwnTracks.ignores (intact : ∀ {use awt}, agrees use awt → awt.intact use)
    (later : ∀ {use awt}, agrees use awt → agrees { use with calls := use.calls + 1 } awt) :
    Ignores law (fun call => Call.plain call) (OwnTracks agrees) := by
  refine Observer.Tracks.ignores fun use awt call answer plain holds => ⟨plain_atomic plain (intact holds) answer, ?_⟩
  rw [plain_step plain]
  exact later holds

private theorem whole_plain : Ignores law (fun call => Call.plain call) (OwnTracks Whole) :=
  OwnTracks.ignores Owned.intact Owned.later

private theorem whole_blocks (use : DecoderUse) (awt next : AWTContext) (same : next.blocks = awt.blocks)
    (whole : Whole use awt) : Whole use next := by
  obtain ⟨decoders, counted, buffers, _, size⟩ := blocks_eq.mp same
  unfold Whole
  rw [counted]
  exact whole.fields decoders buffers size

/-- Before `awt_setup` has anything to clean up. -/
private def Bare (use : DecoderUse) (awt : AWTContext) : Prop := awt.nbDecoder = 0 ∧ Owned 0 0 use awt

private theorem Bare.whole {use : DecoderUse} {awt : AWTContext} (bare : Bare use awt) : Whole use awt := by
  unfold Whole
  rw [bare.1]
  exact bare.2

private theorem bare_of_whole {use : DecoderUse} {awt : AWTContext} (whole : Whole use awt) (none : awt.nbDecoder = 0) :
    Bare use awt := by
  unfold Whole at whole
  rw [none] at whole
  exact ⟨none, whole⟩

private theorem bare_plain : Ignores law (fun call => Call.plain call) (OwnTracks Bare) :=
  OwnTracks.ignores (fun bare => bare.whole.intact) fun bare => ⟨bare.1, bare.2.later⟩

/-- While the decoders from `made` on are still to be created. -/
private def Making (items : List Nat) (use : DecoderUse) (awt : AWTContext) : Prop :=
  ∃ made more, items = List.range' made more ∧ awt.nbDecoder.toNat = made + more ∧ Owned made made use awt

private theorem Making.whole {use : DecoderUse} {awt : AWTContext} (making : Making [] use awt) : Whole use awt := by
  obtain ⟨made, more, left, counted, owned⟩ := making
  cases more with
  | zero =>
    unfold Whole
    rw [counted]
    exact owned
  | succ more => cases left

/-- Between the creation of decoder `i` and that of its buffer. -/
private def Allotting (i : Nat) (items : List Nat) (use : DecoderUse) (awt : AWTContext) : Prop :=
  0 ≤ awt.awtSize ∧ ∃ more, items = List.range' (i + 1) more ∧ awt.nbDecoder.toNat = i + 1 + more ∧ Owned (i + 1) i use awt

private theorem Making.create {i : Nat} {items : List Nat} {use : DecoderUse} {awt : AWTContext} {size : Int}
    (making : Making (i :: items) use awt) (positive : 0 ≤ size) (same : i ≠ 0 → size = awt.awtSize) :
    Allotting i items { use with calls := use.calls + 1, created := use.created ++ [use.calls] }
      ({ awt with awtSize := size }.setDecoder i use.calls) := by
  obtain ⟨made, more, left, counted, owned⟩ := making
  cases more with
  | zero => cases left
  | succ more =>
    rw [List.range'_succ] at left
    cases left
    refine ⟨positive, more, rfl, ?_, owned.create same⟩
    change awt.nbDecoder.toNat = i + 1 + more
    omega

private theorem Allotting.allot {i : Nat} {items : List Nat} {use : DecoderUse} {awt : AWTContext}
    (allotting : Allotting i items use awt) :
    Making items { use with calls := use.calls + 1 }
      (awt.setBuffer i (some (List.replicate awt.awtSize.toNat 0))) := by
  obtain ⟨positive, more, left, counted, owned⟩ := allotting
  exact ⟨i + 1, more, left, counted, (owned.allot positive).later⟩

/-- In `awt_filter_frame`, which reads `nb_decoder` once. -/
private def Counted (channels : Int) (use : DecoderUse) (awt : AWTContext) : Prop :=
  awt.nbDecoder = channels ∧ Owned channels.toNat channels.toNat use awt

private theorem Counted.whole {channels : Int} {use : DecoderUse} {awt : AWTContext} (counted : Counted channels use awt) :
    Whole use awt := by
  unfold Whole
  rw [counted.1]
  exact counted.2

private theorem Counted.later {channels : Int} {use : DecoderUse} {awt : AWTContext} (counted : Counted channels use awt) :
    Counted channels { use with calls := use.calls + 1 } awt :=
  ⟨counted.1, counted.2.later⟩

private theorem Counted.buffer {channels : Int} {use : DecoderUse} {awt : AWTContext} (counted : Counted channels use awt)
    {i : Nat} (member : i ∈ indices channels) : ∃ block, awt.buffer i = some block ∧ block.length = awt.awtSize :=
  counted.2.buffers i (List.mem_range.mp member)

private theorem counted_plain {channels : Int} : Ignores law (fun call => Call.plain call) (OwnTracks (Counted channels)) :=
  OwnTracks.ignores (fun counted => counted.whole.intact) Counted.later

private def ownSetup (channels : Int) : SetupOutline MakesDecoders channels where
  idle := OwnTracks Bare
  licensed := OwnTracks Bare
  initialising items := OwnTracks (Making items)
  refused _ := OwnTracks Bare
  halt why world := why.ofLicense ∧ OwnTracks Bare world
  silent := bare_plain.narrow fun _ silent => plain_of_steady (Call.steady_of_silent silent)
  configures := tracks_frames fun use awt next same bare => by
    simp only [AWTContext.outsideConfig, Prod.mk.injEq] at same
    exact ⟨same.2.1.trans bare.1, bare.2.fields same.1 same.2.2.1 same.2.2.2.2.1⟩
  halts _ _ license holds := ⟨license, holds⟩
  fails _ _ _ world _ holds := bare_plain _ rfl world holds
  inform license method world holds := by
    refine (bare_plain _ rfl world holds).weaken fun info world holds => ?_
    split
    · refine (bare_plain _ rfl world holds).weaken fun _ world holds => ?_
      split <;> exact holds
    · exact fun _ _ => holds.update fun bare => ⟨bare.1, bare.2.fields rfl rfl rfl⟩
  enter world holds := by
    refine (bare_plain _ rfl world holds).weaken fun _ _ entered => ?_
    refine entered.update fun bare => ⟨0, (min AWT_MAX_DECODER channels).toNat, ?_, ?_, bare.2.fields rfl rfl rfl⟩
    · rw [indices, List.range_eq_range']
    · simp
  init i rest world holds := by
    intro result makes
    obtain ⟨created, size, same⟩ := of_decide_eq_true makes
    rw [if_neg (not_not.mpr created)]
    have made : OwnTracks (Allotting i rest)
        ((world.record (.awt5DecodeStreamInit i world.state.decodeSettings) result).update fun awt =>
          { awt with awtSize := result.bufferSize.getD awt.awtSize }.setDecoder i world.trace.length) := by
      apply holds.store (fun _ => rfl)
      intro making
      rw [← calls_seen world.trace]
      simp only [decoderUse, if_pos created]
      exact making.create size same
    intro _ allocated given
    have given : (allocated : Bool) = true := given
    rw [if_pos given]
    exact made.store (fun _ => rfl) Allotting.allot

private def ownFilter (channels : Int) (frame : AVFrame) : FilterOutline law channels frame where
  head _ := OwnTracks (Counted channels)
  copying _ _ items world := items ⊆ indices channels ∧ OwnTracks (Counted channels) world
  decoding _ items world := items ⊆ indices channels ∧ OwnTracks (Counted channels) world
  left _ := OwnTracks (Counted channels)
  halt why world := ¬ why.missesBuffer ∧ Lawful (decoderUse.law fun use event => setupAtomic use event) world.trace
  finish _ _ _ holds := holds
  enter _ _ _ holds := ⟨List.Subset.refl _, holds⟩
  copy off count i rest world holds := by
    obtain ⟨inside, holds⟩ := holds
    obtain ⟨member, further⟩ := List.cons_subset.mp inside
    obtain ⟨block, present, _⟩ := holds.agrees.buffer member
    intro answer _
    have asked : OwnTracks (Counted channels) (world.record (.memcpy i world.state.nbBuffer off count) answer) := by
      refine holds.record (fun counted => ?_) fun counted => counted.later
      simp [setupAtomic, present, counted.whole.intact]
    unfold Copied
    split
    · exact ⟨by simp [Stop.missesBuffer], asked.kept⟩
    next missing =>
      rw [World.record_state, present] at missing
      cases missing
    next src dst _ held =>
      split
      next why bad => exact ⟨by simp [memcpy_faults bad], asked.kept⟩
      next filled copied =>
        refine ⟨further, asked.update fun counted => ⟨counted.1, ?_⟩⟩
        exact counted.2.copied held (memcpy_length copied)
  short _ _ _ holds _ := holds.2.update fun counted => ⟨counted.1, counted.2.fields rfl rfl rfl⟩
  full _ _ _ holds _ :=
    ⟨List.Subset.refl _, holds.2.update fun counted => ⟨counted.1, counted.2.fields rfl rfl rfl⟩⟩
  decode off i rest world holds := by
    obtain ⟨inside, holds⟩ := holds
    obtain ⟨member, further⟩ := List.cons_subset.mp inside
    intro result _
    have handed : OwnTracks (Counted channels) (world.record (.awt5DecodeStreamBuffer i _ _) result) := by
      refine holds.record (fun counted => ?_) fun counted => counted.later
      simp [setupAtomic, counted.2.decoders.live (List.mem_range.mp member), counted.whole.intact]
    split
    · refine (counted_plain _ rfl _ handed).weaken fun _ world logged => ?_
      exact counted_plain _ rfl world logged
    split
    · exact ⟨further, handed⟩
    have found : OwnTracks (Counted channels) ((world.record (.awt5DecodeStreamBuffer i _ _) result).update AWTContext.countFound) :=
      handed.update fun counted => ⟨counted.1, counted.2.fields rfl rfl rfl⟩
    refine (counted_plain _ rfl _ found).weaken fun stop world told => ?_
    split
    · exact told
    · exact ⟨further, told⟩
  again _ _ holds := holds.2

/-- A stop for any reason but a copy into a missing buffer. -/
private def Halted (why : Stop) (world : AwtWorld) : Prop :=
  ¬ why.missesBuffer ∧ Lawful (decoderUse.law fun use event => setupAtomic use event) world.trace

private def ownOutline (fuel : Nat) : BlockOutline MakesDecoders fuel where
  idle := OwnTracks Whole
  opened _ := OwnTracks Whole
  looping := OwnTracks Whole
  filtering _ := OwnTracks Whole
  halt := Halted
  idle_calls := whole_plain.narrow fun _ => plain_of_steady
  opened_calls _ := whole_plain.narrow fun _ => plain_of_steady
  looping_calls := whole_plain.narrow fun _ => plain_of_steady
  idle_fields := tracks_frames whole_blocks
  opened_fields _ := tracks_frames whole_blocks
  looping_fields := tracks_frames whole_blocks
  opened_left _ _ holds := holds
  looping_left _ holds := holds
  crash _ holds := ⟨by decide, holds.kept⟩
  expired _ holds := ⟨by decide, holds.kept⟩
  opens _ world holds := whole_plain _ rfl world holds
  setup filePath input world holds := by
    apply Meets.get_bind
    split
    · apply Meets.ret
      rw [if_neg (by decide)]
      exact whole_plain _ rfl world holds
    next unset =>
      have bare : OwnTracks Bare world := holds.weaken fun whole => bare_of_whole whole (not_not.mp unset)
      apply Meets.bind
      apply ((ownSetup _).sound fuel bare).weaken
      · intro ret world ended
        apply Meets.call_bind
        intro answer _
        have noted : OwnTracks Whole (world.record (.mark (.setup ret)) answer) := by
          rcases ended with ⟨rfl, made⟩ | ⟨failed, bare⟩
          · refine made.record (fun making => ?_) fun making => ?_
            · simp [setupAtomic, making.whole.intact]
            · exact making.whole.later
          · refine bare.record (fun bare => ?_) fun bare => bare.whole.later
            simp [setupAtomic, bare.1, bare.whole.intact]
        apply Meets.ret
        split
        · exact noted
        · exact whole_plain _ rfl _ noted
      · intro why world ⟨license, bare⟩
        refine ⟨?_, bare.kept⟩
        cases why with
        | timeout => decide
        | fault why => cases why <;> first | decide | cases license
  sink world holds := by
    refine (whole_plain _ rfl world holds).weaken fun result world holds => ?_
    split <;> exact holds
  filter frame world holds := by
    have counted : OwnTracks (Counted world.state.nbDecoder) world := holds.weaken fun whole => ⟨rfl, whole⟩
    apply ((ownFilter world.state.nbDecoder frame).sound _ fuel rfl counted).imp _
    · exact fun _ _ holds => ⟨by decide, holds.kept⟩
    · intro ret final left
      have whole : OwnTracks Whole final := left.weaken Counted.whole
      split <;> exact whole

private theorem kills (items : List Nat) {halt : Stop → AwtWorld → Prop}
    (holds : OwnTracks (fun use awt => Killing items use awt.decoder) world) :
    Meets law (Program.each killDecoder items) (fun _ => OwnTracks fun use awt => Killing [] use awt.decoder) halt world := by
  apply Meets.each (fun items => OwnTracks fun use awt => Killing items use awt.decoder) _ (fun _ holds => holds) items holds
  intro i rest world holds
  apply Meets.get_bind
  apply Meets.call_bind
  intro answer _
  have killed : OwnTracks (fun use awt => Killing rest use awt.decoder) (world.record (.awt5DecodeStreamKill i (world.state.decoder i)) answer) :=
    holds.record (fun killing => killing.kill.1) fun killing => killing.kill.2
  apply Meets.call_bind
  intro answer _
  apply Meets.ret
  exact killed.record (fun _ => rfl) id

private theorem closes (halt : Stop → AwtWorld → Prop) (holds : OwnTracks Whole world) :
    Meets law closeContext (fun _ => OwnTracks fun use awt => awt.nbDecoder = 0 ∧ use.KilledOnce) halt world := by
  have starts : OwnTracks (fun use awt => Killing (indices world.state.nbDecoder) use awt.decoder) world :=
    holds.weaken fun whole => Killing.start whole.decoders
  have empty : Ignores law (fun call => Call.plain call) (OwnTracks fun use awt => awt.nbDecoder = 0 ∧ use.KilledOnce) := by
    apply OwnTracks.ignores
    · intro use awt none
      simp [AWTContext.intact, indices, none.1]
    · exact fun closed => ⟨closed.1, closed.2.distinct, closed.2.killed⟩
  apply Meets.get_bind
  apply Meets.seq (kills _ starts)
  intro _ middle killed
  have closed : OwnTracks (fun use awt => awt.nbDecoder = 0 ∧ use.KilledOnce)
      (middle.update fun awt => { awt with nbDecoder := 0 }) := killed.update fun killing => ⟨rfl, killing.done⟩
  apply Meets.modify_bind
  apply Meets.call_seq (empty _ rfl _ closed)
  intro _ world closed
  apply Meets.call_seq (empty _ rfl world closed)
  intro _ world closed
  exact Meets.call (empty _ rfl world closed)

end outlines

/-- If the SDK creates every decoder it is asked for, with one block size, and memory
lasts, then a context is whole whenever it is used, and closing it kills what it made. -/
theorem setup_atomic (oracle : Oracle Surroundings AWTContext) (fuel : Nat) {awt : AWTContext} (fresh : Opened awt)
    (requests : List Request) (makes : Lawful MakesDecoders ((Session.opened awt).run oracle fuel requests).trace) :
    let session := (Session.opened awt).run oracle fuel requests
    Lawful (decoderUse.law fun use event => setupAtomic use event) session.trace ∧
      (∀ why, session.stuck = some why → ¬ why.missesBuffer) ∧
      (session.stuck = none → session.slot = none → (decoderUse.seen session.trace).KilledOnce) := by
  intro session
  let outline := (ownOutline fuel).runs
  have start : outline.idle ⟨awt, []⟩ := by
    apply Observer.Tracks.init awt
    cases fresh <;> exact ⟨⟨rfl, List.nodup_nil, by simp [decoderUse], rfl⟩, by simp [awtOpen, awtOpen2, awtOpenInternal]⟩
  have holds : session.Holds outline.idle
      (fun trace => Lawful (decoderUse.law fun use event => setupAtomic use event) trace ∧ (decoderUse.seen trace).KilledOnce)
      outline.halt := by
    apply outline.holds (fun _ _ idle => idle) _ oracle requests start makes
    intro world idle
    apply (closes outline.halt idle).imp
    exact fun _ _ closed => ⟨closed.kept, closed.agrees.2⟩
  refine ⟨?_, ?_, ?_⟩
  · apply holds.outcome fun _ trace => Lawful (decoderUse.law fun use event => setupAtomic use event) trace
    · exact fun _ idle => idle.kept
    · exact fun _ closed => closed.1
    · exact fun _ _ halted => halted.2
  · apply holds.outcome fun stuck _ => ∀ why, stuck = some why → ¬ why.missesBuffer
    · exact fun _ _ _ none => by cases none
    · exact fun _ _ _ none => by cases none
    · intro why _ halted other same
      cases same
      exact halted.1
  · intro returns closed
    unfold Session.Holds at holds
    rw [returns, closed] at holds
    exact holds.2

/-- The SDK creates the decoder of the left channel and refuses the right one. -/
def secondDecoderFails : Script where
  packets _ := [⟨0, 0⟩]
  yields _ := [pcmFrame 44100 [[1, 2, 3], [4, 5, 6]]]
  inits n := if n = 1 then ⟨1, none⟩ else ⟨0, some 2⟩

theorem failed_setup_leaves_decoders :
    let session := secondDecoderFails.session (awtOpen 44100 1 1 1 0) [.exec "a", .exec "a"]
    ¬ Lawful (decoderUse.law fun use event => setupAtomic use event) session.trace ∧
      session.returned = [AWT_CODE_SETUP_ERROR] ∧ session.stuck = some (.fault (.missingBuffer 1)) := by
  decide +kernel

def bothDecoders : Script where
  packets _ := [⟨0, 0⟩]
  yields _ := [pcmFrame 44100 [[1, 2, 3], [4, 5, 6]]]

theorem both_decoders_killed_once :
    let session := bothDecoders.session (awtOpen 44100 1 1 1 0) [.exec "a", .exec "b", .close]
    Lawful (decoderUse.law fun use event => setupAtomic use event) session.trace ∧
      (∀ why, session.stuck = some why → ¬ why.missesBuffer) ∧
      (session.stuck = none → session.slot = none → (decoderUse.seen session.trace).KilledOnce) :=
  setup_atomic _ _ (.awtOpen 44100 1 1 1 0) _ (by decide +kernel)

end Awt
