import Awt.Proofs.Frames
import Awt.Slot

/-! The calls of a session, each with the moves that lead up to it, take the steps of
the machine with one thread. -/

namespace Awt
open OracleProgram

/-- The moves of a thread that stood at `pc` after its last call. The rest of `awt_exec`
is told by its closing log, and all of `awt_close` by the release of the context. -/
def Call.moves (pc : Pc) : Call → List Move
  | .avPacketAlloc => [.callExec, .readSlot, .testNull, .lock, .readSlot]
  | .running => [if pc = .runSetup then .setUp true else .packet true, .checkRunning]
  | .callback .. => [.callback]
  | .logCallback .info (.finish ..) _ =>
    [if pc = .runSetup then .setUp false else .packet false, .finish, .unlock, .returns]
  | .release .context =>
    [.callClose, .readSlot, .testNull, .clearRunning, .lock, .release, .unlock, .free, .clearSlot, .returns]
  | _ => []

/-- The machine after these moves of its only thread. -/
def moved (shared : Shared Unit) (moves : List Move) : Option (Shared Unit) :=
  Machine.run Shared.step shared (moves.map fun move => ((), move))

def standing (moves : List Move) : Pc := ((moved Shared.opened moves).map fun shared => shared.pc ()).getD .crashed

def slotMoves : Observer Surroundings AWTContext (List Move) where
  init := []
  step moves event := moves ++ event.call.moves (standing moves)

/-- Nobody else clears `running`. -/
def unstopped : Event → Bool
  | ⟨_, .running, running⟩ => running
  | _ => true

abbrev Unstopped : Law := fun _ event => unstopped event

namespace Shared

/-- The thread is in `awt_run`, at a position at which it has made a call. -/
def inRun (entered : Bool) : Shared Unit :=
  { (opened : Shared Unit) with lock := some (), pc := fun _ => if entered then .runPacket else .runSetup }

/-- Between two calls. -/
def resting (slot : Bool) : Shared Unit :=
  if slot then opened else { opened with slot := false, running := false, frees := 1, closed := true }

end Shared

private abbrev SlotTracks (agrees : Shared Unit → Prop) : AwtWorld → Prop :=
  slotMoves.Tracks (fun _ _ => True) fun moves _ => ∃ shared, moved Shared.opened moves = some shared ∧ agrees shared

variable {law : Law} {agrees other : Shared Unit → Prop} {world : AwtWorld} {fuel : Nat}

private theorem SlotTracks.moves (holds : SlotTracks agrees world) {call : Call} (answer : Answer call)
    (steps : ∀ shared, agrees shared → ∃ next, moved shared (call.moves (shared.pc ())) = some next ∧ other next) :
    SlotTracks other (world.record call answer) := by
  apply holds.record (fun _ => trivial)
  intro ⟨shared, reached, before⟩
  obtain ⟨next, stepped, after⟩ := steps shared before
  have pc : standing (slotMoves.seen world.trace) = shared.pc () := by simp [standing, reached]
  refine ⟨next, ?_, after⟩
  change moved Shared.opened (slotMoves.seen world.trace ++ call.moves (standing (slotMoves.seen world.trace))) = some next
  rw [pc, moved, List.map_append, Machine.run_append]
  change ((moved Shared.opened (slotMoves.seen world.trace)).bind fun middle => moved middle _) = _
  rw [reached]
  exact stepped

/-- Calls between two moves. -/
def Call.still : Call → Bool
  | .avPacketAlloc | .running | .callback .. | .logCallback .info (.finish ..) _ | .release .context => false
  | _ => true

private theorem still_moves {call : Call} (still : call.still) (pc : Pc) : call.moves pc = [] := by
  cases call with
  | release what => cases what <;> first | rfl | cases still
  | logCallback level msg ret => cases level <;> cases msg <;> first | rfl | cases still
  | _ => first | rfl | cases still

private theorem SlotTracks.ignores : Ignores law (fun call : Call => call.still) (SlotTracks agrees) := by
  intro call still world holds answer _
  apply SlotTracks.moves holds
  intro shared before
  exact ⟨shared, by rw [still_moves still]; rfl, before⟩

private theorem SlotTracks.quiet : Ignores law (fun call : Call => call.quiet) (SlotTracks agrees) :=
  SlotTracks.ignores.narrow fun call quiet => by
    cases call with
    | release what => cases what <;> first | rfl | cases quiet
    | logCallback level msg ret => cases level <;> cases msg <;> first | rfl | cases quiet
    | _ => first | rfl | cases quiet

private theorem SlotTracks.fields {outside : AWTContext → τ} : Frames outside (SlotTracks agrees) :=
  tracks_frames fun _ _ _ _ holds => holds

private abbrev SlotResting (slot : Bool) : AwtWorld → Prop := SlotTracks fun shared => shared = Shared.resting slot

private abbrev Entered (entered : Bool) : AwtWorld → Prop := SlotTracks fun shared => shared = Shared.inRun entered

/-- Before or after the first turn of the packet loop. -/
private abbrev InRun : AwtWorld → Prop := SlotTracks fun shared => ∃ entered, shared = Shared.inRun entered

private theorem Entered.inRun {entered : Bool} (holds : Entered entered world) : InRun world :=
  holds.weaken fun ⟨shared, reached, same⟩ => ⟨shared, reached, entered, same⟩

private theorem filter_ignores : Ignores law (fun call : Call => call.ofBlocks) (Entered true) := by
  intro call part world holds
  cases call with
  | callback channel wm percent posAt =>
    intro stop _
    apply SlotTracks.moves holds
    rintro _ rfl
    exact ⟨_, rfl, rfl⟩
  | logCallback level msg ret =>
    have still : Call.still (.logCallback level msg ret) := by cases level <;> cases msg <;> first | rfl | cases part
    exact SlotTracks.ignores _ still world holds
  | release what => cases part
  | _ => exact SlotTracks.ignores _ (by first | rfl | cases part) world holds

private theorem slot_frame : LoopFrame law InRun (Entered true) InRun where
  quiet := SlotTracks.quiet
  ends := ends_of_ignores SlotTracks.ignores (fun _ _ => rfl) rfl
  again _ := Entered.inRun
  leaves _ := Entered.inRun

private def slotLoops (fuel : Nat) (st : AVStream) : LoopOutline Unstopped fuel st where
  head _ := InRun
  reading _ := Entered true
  timing _ _ := Entered true
  sending _ _ := Entered true
  receiving _ _ := Entered true
  pushing _ _ := Entered true
  sinking _ := Entered true
  filtering _ _ := Entered true
  out _ := InRun
  halt _ _ := True
  head_expired _ _ _ := trivial
  receiving_expired _ _ _ _ := trivial
  sinking_expired _ _ _ := trivial
  check _ world holds := by
    apply slot_frame.check
    intro running unstopped
    apply SlotTracks.moves holds
    rintro _ ⟨entered, rfl⟩
    cases entered <;> exact ⟨_, rfl, rfl⟩
  read _ world holds := slot_frame.read (SlotTracks.ignores _ rfl world holds)
  untimed _ _ _ _ holds := holds
  time startPts packet micros world _ holds := by
    have stamped : Entered true (world.update (·.setCurrent (int64 (micros - startPts.getD micros)))) := holds.update id
    exact slot_frame.time (SlotTracks.ignores _ rfl _ stamped)
  send _ _ world holds := slot_frame.send (SlotTracks.ignores _ rfl world holds)
  drained _ _ world _ holds := slot_frame.unref holds
  receive _ _ world _ holds := slot_frame.receive (SlotTracks.ignores _ rfl world holds)
  push _ _ world holds := slot_frame.push (SlotTracks.ignores _ rfl world holds)
  sink _ world holds := slot_frame.sink (SlotTracks.ignores _ rfl world holds)
  filter _ frame world holds := by
    apply (awtFilterFrame_keeps filter_ignores SlotTracks.fields (fun _ _ _ => trivial) fuel frame holds).imp
    exact fun _ _ holds => slot_frame.filtered holds

private def slotRuns (fuel : Nat) : RunOutline Unstopped fuel where
  idle := SlotResting true
  opening := Entered false
  opened _ := Entered false
  filtered _ := Entered false
  loops input := slotLoops fuel input.st
  ending _ := InRun
  finished _ := SlotResting true
  halt _ _ := True
  allocate world holds := by
    intro packet _
    have entered : Entered false (world.record .avPacketAlloc packet) := by
      apply SlotTracks.moves holds
      rintro _ rfl
      exact ⟨_, rfl, rfl⟩
    refine (SlotTracks.ignores _ rfl _ entered).weaken fun _ world entered => ?_
    refine (SlotTracks.ignores _ rfl world entered).weaken fun _ world entered => ?_
    refine (SlotTracks.ignores _ rfl world entered).weaken fun _ world entered => ?_
    split
    · exact entered.update id
    · exact Entered.inRun entered
  openInput filePath world holds := by
    apply (awtOpenInput_meets (silent_of_quiet SlotTracks.quiet) (fun _ holds => holds)
      (fun _ _ => SlotTracks.quiet _ rfl) (fun _ _ => trivial) filePath holds).imp
    intro result world reached
    cases result with
    | error ret =>
      exact (SlotTracks.ignores _ rfl world reached.1).weaken fun _ _ => Entered.inRun
    | ok input =>
      exact (SlotTracks.ignores _ rfl world reached).weaken fun _ _ holds => holds.update id
  filters input world holds := by
    have calls : Ignores Unstopped (fun call : Call => call.ofFilters) (Entered false) :=
      SlotTracks.ignores.narrow fun call part => by
        cases call with
        | release what => cases what <;> first | rfl | cases part
        | logCallback level msg ret => cases level <;> cases msg <;> first | rfl | cases part
        | _ => first | rfl | cases part
    apply (needFilters_keeps calls (fun _ _ holds => holds.update id) input holds).imp
    intro ret world holds
    split
    · exact Entered.inRun holds
    · exact holds
  setup filePath input world holds := by
    have calls : Ignores Unstopped (fun call : Call => call.ofSetup) (Entered false) :=
      SlotTracks.ignores.narrow fun call part => by
        cases call with
        | release what => cases what <;> first | rfl | cases part
        | logCallback level msg ret => cases level <;> cases msg <;> first | rfl | cases part
        | _ => first | rfl | cases part
    apply (needSetup_keeps calls (fun _ => SlotTracks.ignores _ rfl) SlotTracks.fields
      (fun _ _ _ _ => trivial) fuel input holds).imp
    intro ret world holds
    split
    · exact Entered.inRun holds
    · exact (SlotTracks.ignores _ rfl world holds).weaken fun _ _ => Entered.inRun
  out _ _ _ holds := holds
  loops_halt _ _ _ halted := halted
  finish ret world holds := by
    have spent : InRun (world.update AWTContext.spend) :=
      holds.update id
    refine (SlotTracks.ignores _ rfl _ spent).weaken fun _ world spent => ?_
    intro answer _
    apply SlotTracks.moves spent
    rintro _ ⟨entered, rfl⟩
    cases entered <;> exact ⟨_, rfl, rfl⟩
  releases _ := silent_of_quiet SlotTracks.quiet

private def SlotClosed (trace : History) : Prop :=
  moved Shared.opened (slotMoves.seen trace) = some (Shared.resting false)

/-- In a session that nobody stops from outside, the calls are those of a thread of the
machine, and the thread stands between two calls when the last one has returned. -/
theorem session_takes_steps (oracle : Oracle Surroundings AWTContext) (fuel : Nat) (awt : AWTContext)
    (requests : List Request)
    (unstopped : Lawful Unstopped ((Session.opened awt).run oracle fuel requests).trace)
    (returns : ((Session.opened awt).run oracle fuel requests).stuck = none) :
    moved Shared.opened (slotMoves.seen ((Session.opened awt).run oracle fuel requests).trace) =
      some (Shared.resting ((Session.opened awt).run oracle fuel requests).slot.isSome) := by
  have start : (slotRuns fuel).idle ⟨awt, []⟩ := Observer.Tracks.init awt ⟨_, rfl, rfl⟩
  have close (world : AwtWorld) (holds : SlotResting true world) :
      Meets Unstopped closeContext (fun _ world => SlotClosed world.trace) (slotRuns fuel).halt world := by
    have ended : Meets Unstopped closeContext (fun _ => SlotResting false) (slotRuns fuel).halt world := by
      apply closeContext_ends _ _ (fun _ holds => holds.update id) _ holds
      · exact fun _ _ => SlotTracks.ignores _ rfl
      · intro what world other
        apply SlotTracks.ignores
        cases what <;> first | rfl | exact absurd rfl other
      · intro world holds answer _
        apply SlotTracks.moves holds
        rintro _ rfl
        exact ⟨_, rfl, rfl⟩
    apply ended.imp
    intro _ world closed
    obtain ⟨shared, reached, same⟩ := closed.agrees
    rw [SlotClosed, reached, same]
  have holds := (slotRuns fuel).holds (fun _ _ holds => holds) close oracle requests start unstopped
  revert holds returns
  generalize (Session.opened awt).run oracle fuel requests = session
  intro returns holds
  obtain ⟨slot, trace, returned, stuck⟩ := session
  subst returns
  cases slot with
  | none => exact holds
  | some awt =>
    obtain ⟨shared, reached, same⟩ := holds.agrees
    rw [reached, same]
    rfl

end Awt
