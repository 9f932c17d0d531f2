import Mathlib.Algebra.GroupWithZero.Nat
import Awt.Lavfi.Script
import Awt.Proofs.FilterConfig

/-! A filter from its configuration through the frames of its link. -/

namespace Awt.Lavfi
open OracleProgram

/-- The samples of a frame, by channel. -/
def AVFrame.count (frame : AVFrame) : Nat := frame.nbSamples.toNat

def received (frames : List AVFrame) : Nat := (frames.map AVFrame.count).sum

/-- The samples of one channel. -/
def stream (frames : List AVFrame) (i : Nat) : List CFloat := frames.flatMap (·.plane i)

/-- The frames that were passed on. -/
def emitted (past : History) : List AVFrame :=
  past.filterMap fun event => match event.call with
    | .ffFilterFrame out => some out
    | _ => none

/-- Memory is there for the buffers, and the SDK tells a block size. -/
def stocked : Event → Bool
  | ⟨_, .realloc _ _, answer⟩ => answer.isSome
  | ⟨_, .avMallocz _, allocated⟩ => allocated
  | ⟨_, .awt5DecodeStreamInit _ _, result⟩ => result.bufferSize.any (0 < ·)
  | _ => true

abbrev Stocked : Law := fun _ event => stocked event

/-- A law under which the filter is stocked. -/
def Stocks (law : Law) : Prop := ∀ past event, law past event → stocked event

theorem stocks_stocked : Stocks Stocked := fun _ _ => id

theorem Stocks.grants {law : Law} (stocks : Stocks law) : Grants law where
  realloc _ _ _ _ refused := Bool.false_ne_true (stocks _ _ refused)
  mallocz _ _ _ refused := Bool.false_ne_true (stocks _ _ refused)

theorem Stocks.sizes {law : Law} (stocks : Stocks law) : Sizes law := by
  intro past before i settings result lawful
  obtain ⟨size, same, positive⟩ := (Option.any_eq_true _ _).mp (stocks _ _ lawful)
  exact ⟨size, same, of_decide_eq_true positive⟩

/-- A new filter is configured for a link and called with frames. Its loops have turns
for all of their samples. -/
structure Filtering where
  oracle : Oracle Surroundings AWTContext
  fuel : Nat
  inlink : AVFilterLink
  awt : AWTContext
  frames : List AVFrame
  fresh : Fresh awt
  present : 1 ≤ inlink.channels
  configures : ((awtConfigProps fuel inlink).run oracle ⟨awt, []⟩).1 = .done 0
  fits : ∀ frame ∈ frames, frame.Fits inlink.channels.toNat
  enough : received frames < fuel

theorem received_append (frames more : List AVFrame) : received (frames ++ more) = received frames + received more := by
  simp [received]

theorem received_concat (frames : List AVFrame) (frame : AVFrame) :
    received (frames ++ [frame]) = received frames + frame.count := by
  simp [received]

theorem stream_append (frames more : List AVFrame) (i : Nat) : stream (frames ++ more) i = stream frames i ++ stream more i := by
  simp [stream]

theorem stream_cons (frame : AVFrame) (frames : List AVFrame) (i : Nat) :
    stream (frame :: frames) i = frame.plane i ++ stream frames i :=
  List.flatMap_cons

theorem stream_concat (frames : List AVFrame) (frame : AVFrame) (i : Nat) :
    stream (frames ++ [frame]) i = stream frames i ++ frame.plane i := by
  simp [stream]

theorem length_plane {frame : AVFrame} {channels i : Nat} (fits : frame.Fits channels) (within : i < channels) :
    (frame.plane i).length = frame.count := by
  have inside : i < frame.extendedData.length := lt_of_lt_of_le within fits.planes
  have samples := fits.samples _ (List.getElem_mem inside)
  rw [AVFrame.plane, List.length_take, ← List.getElem_eq_getD (h := inside)]
  exact Nat.min_eq_left (by omega)

theorem length_stream {frames : List AVFrame} {channels i : Nat} (fits : ∀ frame ∈ frames, frame.Fits channels)
    (within : i < channels) : (stream frames i).length = received frames := by
  rw [stream, List.length_flatMap, received]
  congr 1
  exact List.map_congr_left fun frame member => length_plane (fits frame member) within

instance (frame : AVFrame) (channels : Nat) : Decidable (frame.Fits channels) :=
  decidable_of_iff (0 ≤ frame.nbSamples ∧ channels ≤ frame.extendedData.length ∧
      ∀ plane ∈ frame.extendedData, frame.nbSamples ≤ plane.length)
    ⟨fun ⟨nonneg, planes, samples⟩ => ⟨nonneg, planes, samples⟩, fun fits => ⟨fits.nonneg, fits.planes, fits.samples⟩⟩

namespace Filtering

variable (filtering : Filtering)

/-- The filter before the first frame. -/
def configured : LavfiWorld := ((awtConfigProps filtering.fuel filtering.inlink).run filtering.oracle ⟨filtering.awt, []⟩).2

def outcome : Exit Stop (List Int) × LavfiWorld :=
  (awtFilterFrames filtering.fuel filtering.inlink filtering.frames).run filtering.oracle filtering.configured

/-- The filter after the last frame. -/
def final : LavfiWorld := filtering.outcome.2

/-- What the surroundings always answer is answered in this run. -/
theorem answered {law : Law} (answers : ∀ past before call, law past ⟨before, call, filtering.oracle past call⟩) :
    Lawful law filtering.final.trace :=
  (awtFilterFrames filtering.fuel filtering.inlink filtering.frames).answered _ _ _ answers
    ((awtConfigProps filtering.fuel filtering.inlink).answered _ _ _ answers (Lawful.nil _))

/-- The bytes of all buffers are counted without overflow. -/
structure Bounded : Prop where
  sizable : Sizable filtering.configured.state.awtSize filtering.inlink.channels
  grows : Lawful FitsInt filtering.final.trace

variable {filtering} {law : Law} {assertion : History → Prop}

theorem configured_rig (grants : Grants law) (sizes : Sizes law) (unconcerned : Unconcerned assertion)
    (holds : assertion []) (bounded : filtering.Bounded) (lawful : Lawful law filtering.final.trace) :
    ∃ rig : Rig, rig.Configured filtering.inlink filtering.configured.state ∧ assertion filtering.configured.trace := by
  have growth := (awtFilterFrames filtering.fuel filtering.inlink filtering.frames).grows filtering.oracle filtering.configured
  have reached := awtConfigProps_meets grants sizes unconcerned filtering.fuel filtering.present
    holds filtering.fresh filtering.oracle (lawful.earlier growth)
  have done := filtering.configures
  have sizable := bounded.sizable
  unfold configured at sizable ⊢
  cases executed : (awtConfigProps filtering.fuel filtering.inlink).run filtering.oracle ⟨filtering.awt, []⟩ with
  | mk exit world =>
    rw [executed] at reached done sizable
    subst done
    obtain ⟨rig, ready⟩ := reached.2 rfl sizable
    exact ⟨rig, ready, reached.1⟩

variable {rig : Rig} {stopped : History → Prop}

/-- An outline of one call is an outline of all. -/
theorem run_holds (grants : Grants law) (configured : rig.Configured filtering.inlink filtering.configured.state)
    (between : List AVFrame → Fifos → History → Prop)
    (outlines : ∀ inFrame frames, FrameOutline law rig filtering.fuel inFrame (between (inFrame :: frames))
      (fun _ => between frames) stopped)
    (start : between filtering.frames ⟨fun _ => [], fun _ => []⟩ filtering.configured.trace) (bounded : filtering.Bounded)
    (lawful : Lawful law filtering.final.trace) :
    (∃ rets, filtering.outcome.1 = .done rets ∧ rig.Idle (between []) filtering.final) ∨
      filtering.outcome.1 = .stop .timeout ∧ stopped filtering.final.trace := by
  have fits := filtering.fits
  rw [configured.channels, Int.toNat_natCast] at fits
  have reached := awtFilterFrames_meets grants configured.channels between outlines filtering.frames fits
    ⟨_, configured.ready, start⟩ filtering.oracle fun past event rest same =>
      ⟨lawful past event rest same, bounded.grows past event rest same⟩
  unfold final outcome
  cases executed : (awtFilterFrames filtering.fuel filtering.inlink filtering.frames).run filtering.oracle filtering.configured with
  | mk exit world =>
    rw [executed] at reached
    cases exit with
    | done rets => exact Or.inl ⟨rets, rfl, reached⟩
    | stop why =>
      obtain ⟨rfl, stopped⟩ := reached
      exact Or.inr ⟨rfl, stopped⟩

end Filtering

/-- The filter that scripts are run with is a new one. -/
theorem fresh_unconfigured : Fresh unconfigured := ⟨rfl, rfl, rfl, rfl⟩

/-- Samples that are all the same. -/
def packetFrame (pts : Int) (sample : CFloat) (count : Nat) : AVFrame := audioFrame pts [List.replicate count sample]

@[simp] theorem packetFrame_nbSamples (pts : Int) (sample : CFloat) (count : Nat) :
    (packetFrame pts sample count).nbSamples = count := by
  simp [packetFrame, audioFrame]

theorem packetFrame_fits (pts : Int) (sample : CFloat) (count : Nat) : (packetFrame pts sample count).Fits 1 :=
  ⟨Int.natCast_nonneg _, Nat.le_refl _, by simp [packetFrame, audioFrame]⟩

@[simp] theorem packetFrame_count (pts : Int) (sample : CFloat) (count : Nat) :
    (packetFrame pts sample count).count = count := by
  simp [AVFrame.count, packetFrame, audioFrame]

@[simp] theorem packetFrame_plane (pts : Int) (sample : CFloat) (count : Nat) :
    (packetFrame pts sample count).plane 0 = List.replicate count sample := by
  simp [AVFrame.plane, packetFrame, audioFrame]

theorem mono_present : 1 ≤ (AVFilterLink.mk 1 44100).channels := by decide

theorem stereo_present : 1 ≤ (AVFilterLink.mk 2 44100).channels := by decide

end Awt.Lavfi
