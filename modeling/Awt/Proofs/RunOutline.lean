import Awt.Proofs.Quiet

/-! Proof outlines of whole runs and of sessions, on top of the one for the loops. -/

namespace Awt
open OracleProgram

structure RunOutline (law : Law) (fuel : Nat) where
  idle : AwtWorld → Prop
  opening : AwtWorld → Prop
  opened : Input → AwtWorld → Prop
  filtered : Input → AwtWorld → Prop
  loops : (input : Input) → LoopOutline law fuel input.st
  ending : Int → AwtWorld → Prop
  finished : Int → AwtWorld → Prop
  halt : Stop → AwtWorld → Prop
  allocate : ∀ world, idle world →
    After law .avPacketAlloc (fun packet => After law .avFrameAlloc fun frame =>
      After law .avFrameAlloc fun filtFrame => After law .avGettime fun _ world =>
        if packet && frame && filtFrame then opening (world.update fun awt => { awt with counter := 0 })
        else ending AWT_CODE_SETUP_ERROR world) world
  openInput : ∀ filePath world, opening world →
    Meets law (awtOpenInput filePath) (fun result =>
      After law (.mark (.openInput result)) fun _ world => match result with
        | .error _ => ending AWT_CODE_OPEN_ERROR world
        | .ok input => opened input (world.update (·.takeRate input))) halt world
  filters : ∀ input world, opened input world →
    Meets law (needFilters input) (fun ret world =>
      if ret ≠ 0 then ending AWT_CODE_SETUP_ERROR world else filtered input world) halt world
  setup : ∀ filePath input world, filtered input world →
    Meets law (needSetup fuel input) (fun ret world =>
      if ret < 0 then ending AWT_CODE_SETUP_ERROR world
      else After law (.logCallback .info (.start filePath input.st.codecpar.channels
          input.st.codecpar.sampleRate world.state.sampleRate world.state.awtSize) (some ret))
        (fun _ => (loops input).head ⟨ret, none⟩) world) halt world
  out : ∀ input ret world, (loops input).out ret world → ending (outCode ret) world
  loops_halt : ∀ input why world, (loops input).halt why world → halt why world
  finish : ∀ ret world, ending ret world →
    After law .avGettime (fun _ world =>
      After law (.logCallback .info (.finish world.state.counter ret) (some ret)) (fun _ => finished ret) world)
      (world.update AWTContext.spend)
  releases : ∀ ret, Ignores law (fun call : Call => call.silent) (finished ret)

namespace RunOutline

variable {law : Law} {fuel : Nat} (outline : RunOutline law fuel) {world : AwtWorld}

private theorem body (filePath : String) (startTime : Int) (holds : outline.opening (world.update fun awt => { awt with counter := 0 })) :
    Meets law (awtRunBody fuel filePath startTime true) outline.ending outline.halt world := by
  apply Meets.modify_bind
  apply Meets.seq (outline.openInput filePath _ holds)
  intro result world after
  apply Meets.call_seq after
  intro _ world next
  cases result with
  | error ret => exact Meets.ret next
  | ok input =>
  apply Meets.modify_bind
  apply Meets.seq (outline.filters input _ next)
  intro ret world next
  by_cases built : ret ≠ 0
  · rw [if_pos built] at next ⊢
    exact Meets.ret next
  rw [if_neg built] at next ⊢
  apply Meets.seq (outline.setup filePath input _ next)
  intro ret world next
  by_cases failed : ret < 0
  · rw [if_pos failed] at next ⊢
    exact Meets.ret next
  rw [if_neg failed] at next ⊢
  apply Meets.get_bind
  apply Meets.call_seq next
  intro _ world next
  refine Meets.bind (((outline.loops input).packet_loop startTime next).weaken ?_ (outline.loops_halt input))
  exact fun ret world next => Meets.ret (outline.out input ret world next)

theorem sound (filePath : String) (holds : outline.idle world) :
    Meets law (awtRun fuel filePath) outline.finished outline.halt world := by
  apply Meets.call_seq (outline.allocate world holds)
  intro packet first next
  apply Meets.call_seq next
  intro frame second next
  apply Meets.call_seq next
  intro filtFrame third next
  apply Meets.call_seq next
  intro startTime fourth next
  have reached : Meets law (awtRunBody fuel filePath startTime (packet && frame && filtFrame))
      outline.ending outline.halt fourth := by
    cases allocated : packet && frame && filtFrame with
    | false =>
      rw [allocated] at next
      exact Meets.ret next
    | true =>
      rw [allocated] at next
      exact outline.body filePath startTime next
  apply Meets.seq reached
  intro ret world ending
  apply Meets.modify_bind
  apply Meets.call_seq (outline.finish ret world ending)
  intro _ world next
  apply Meets.get_bind
  apply Meets.call_seq next
  intro _ world holds
  apply Meets.call_seq (outline.releases ret _ rfl world holds)
  intro _ world holds
  apply Meets.call_seq (outline.releases ret _ rfl world holds)
  intro _ world holds
  apply Meets.call_seq (outline.releases ret _ rfl world holds)
  intro _ world holds
  apply Meets.call_seq (outline.releases ret _ rfl world holds)
  intro _ world holds
  apply Meets.call_seq (outline.releases ret _ rfl world holds)
  intro _ world holds
  exact Meets.ret holds

end RunOutline

namespace Session

variable {law : Law} {fuel : Nat} {idle : AwtWorld → Prop} {closed : History → Prop}
  {halt : Stop → AwtWorld → Prop}

/-- What is known between two calls: of the context while the slot holds one, of the
history after `awt_close`, and of the world that a stuck call is left in. -/
def Holds (idle : AwtWorld → Prop) (closed : History → Prop) (halt : Stop → AwtWorld → Prop)
    (session : Session) : Prop :=
  match session.stuck, session.slot with
  | none, some awt => idle ⟨awt, session.trace⟩
  | none, none => closed session.trace
  | some why, some awt => halt why ⟨awt, session.trace⟩
  | some _, none => False

/-- What all three assertions say of the history and of being stuck. -/
theorem Holds.outcome {session : Session} (good : Option Stop → History → Prop) (holds : session.Holds idle closed halt)
    (running : ∀ world, idle world → good none world.trace) (ended : ∀ trace, closed trace → good none trace)
    (stopped : ∀ why world, halt why world → good (some why) world.trace) : good session.stuck session.trace := by
  obtain ⟨slot, trace, returned, stuck⟩ := session
  cases stuck with
  | none => cases slot with
    | none => exact ended trace holds
    | some awt => exact running ⟨awt, trace⟩ holds
  | some why => cases slot with
    | none => exact holds.elim
    | some awt => exact stopped why ⟨awt, trace⟩ holds

theorem resume_trace (session : Session) (executed : Exit Stop Int × AwtWorld)
    (slot : AWTContext → Option AWTContext) : (session.resume executed slot).trace = executed.2.trace := by
  rcases executed with ⟨_ | _, _⟩ <;> rfl

theorem request_grows (oracle : Oracle Surroundings AWTContext) (session : Session) (request : Request) :
    session.trace <+: (session.request oracle fuel request).trace := by
  obtain ⟨slot, trace, returned, stuck⟩ := session
  cases stuck with
  | some why => cases request <;> exact List.prefix_refl _
  | none =>
  cases slot with
  | none => cases request <;> exact List.prefix_refl _
  | some awt =>
  cases request with
  | exec filePath =>
    simp only [Session.request, Option.isSome_none, Bool.false_eq_true, if_false, awtExec, resume_trace]
    exact (awtRun fuel filePath).grows oracle ⟨awt, trace⟩
  | close =>
    simp only [Session.request, Option.isSome_none, Bool.false_eq_true, if_false, awtClose, resume_trace]
    exact (closeContext >>= fun _ => pure (0 : Int)).grows oracle ⟨awt, trace⟩

theorem run_grows (oracle : Oracle Surroundings AWTContext) (requests : List Request) (session : Session) :
    session.trace <+: (session.run oracle fuel requests).trace := by
  induction requests generalizing session with
  | nil => exact List.prefix_refl _
  | cons request requests ih => exact (request_grows oracle session request).trans (ih _)

/-- One call from a state between two calls leads to such a state again. -/
theorem request_holds (exec : ∀ filePath world, idle world →
      Meets law (awtRun fuel filePath) (fun _ => idle) halt world)
    (close : ∀ world, idle world → Meets law closeContext (fun _ world => closed world.trace) halt world)
    (oracle : Oracle Surroundings AWTContext) (session : Session) (request : Request)
    (holds : session.Holds idle closed halt) (lawful : Lawful law (session.request oracle fuel request).trace) :
    (session.request oracle fuel request).Holds idle closed halt := by
  obtain ⟨slot, trace, returned, stuck⟩ := session
  cases stuck with
  | some why => cases request <;> exact holds
  | none =>
  cases slot with
  | none => cases request <;> exact holds
  | some awt =>
  cases request with
  | exec filePath =>
    simp only [Session.request, Option.isSome_none, Bool.false_eq_true, if_false, awtExec, resume_trace] at lawful ⊢
    have reached := exec filePath ⟨awt, trace⟩ holds oracle lawful
    rcases executed : (awtRun fuel filePath).run oracle ⟨awt, trace⟩ with ⟨_ | _, world⟩ <;>
      · rw [executed] at reached
        exact reached
  | close =>
    simp only [Session.request, Option.isSome_none, Bool.false_eq_true, if_false, awtClose, resume_trace] at lawful ⊢
    have ends : Meets law (closeContext >>= fun _ => pure (0 : Int)) (fun _ world => closed world.trace) halt
        ⟨awt, trace⟩ :=
      Meets.seq (close ⟨awt, trace⟩ holds) fun _ _ done => Meets.ret done
    have reached := ends oracle lawful
    rcases executed : (closeContext >>= fun _ => pure (0 : Int)).run oracle ⟨awt, trace⟩ with ⟨_ | _, world⟩ <;>
      · rw [executed] at reached
        exact reached

theorem run_holds (exec : ∀ filePath world, idle world →
      Meets law (awtRun fuel filePath) (fun _ => idle) halt world)
    (close : ∀ world, idle world → Meets law closeContext (fun _ world => closed world.trace) halt world)
    (oracle : Oracle Surroundings AWTContext) (requests : List Request) (session : Session)
    (holds : session.Holds idle closed halt) (lawful : Lawful law (session.run oracle fuel requests).trace) :
    (session.run oracle fuel requests).Holds idle closed halt := by
  induction requests generalizing session with
  | nil => exact holds
  | cons request requests ih =>
    have first := lawful.earlier (run_grows oracle requests (session.request oracle fuel request))
    exact ih _ (request_holds exec close oracle session request holds first) lawful

end Session

/-- A session from between two runs stays within the assertions of an outline. -/
theorem RunOutline.holds {law : Law} {fuel : Nat} (outline : RunOutline law fuel) {closed : History → Prop}
    (again : ∀ ret world, outline.finished ret world → outline.idle world)
    (close : ∀ world, outline.idle world → Meets law closeContext (fun _ world => closed world.trace) outline.halt world)
    (oracle : Oracle Surroundings AWTContext) (requests : List Request) {awt : AWTContext}
    (start : outline.idle ⟨awt, []⟩)
    (lawful : Lawful law ((Session.opened awt).run oracle fuel requests).trace) :
    ((Session.opened awt).run oracle fuel requests).Holds outline.idle closed outline.halt := by
  have exec (filePath : String) (world : AwtWorld) (idle : outline.idle world) :
      Meets law (awtRun fuel filePath) (fun _ => outline.idle) outline.halt world :=
    (outline.sound filePath idle).imp again
  exact Session.run_holds exec close oracle requests _ start lawful

/-- What all assertions of an outline say of the history holds after any session. -/
theorem RunOutline.history {law : Law} {fuel : Nat} (outline : RunOutline law fuel) {good : History → Prop}
    (again : ∀ ret world, outline.finished ret world → outline.idle world)
    (running : ∀ world, outline.idle world → good world.trace)
    (stopped : ∀ why world, outline.halt why world → good world.trace)
    (close : ∀ world, outline.idle world → Meets law closeContext (fun _ world => good world.trace) outline.halt world)
    (oracle : Oracle Surroundings AWTContext) (requests : List Request) {awt : AWTContext}
    (start : outline.idle ⟨awt, []⟩)
    (lawful : Lawful law ((Session.opened awt).run oracle fuel requests).trace) :
    good ((Session.opened awt).run oracle fuel requests).trace :=
  (outline.holds again close oracle requests start lawful).outcome (fun _ => good) running (fun _ ended => ended) stopped

end Awt
