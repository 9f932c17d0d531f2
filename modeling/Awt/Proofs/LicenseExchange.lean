import Awt.License
import Awt.Lavfi.License

/-! How `awt_license` ends, in the detector and in the filter, as a function of
everything it learns from outside. -/

namespace Awt
open OracleProgram

/-- A piece of the server's response, as one `avio_read` delivers it. -/
structure Piece where
  bytes : List UInt8
  nonempty : bytes ≠ []
  fits : bytes.length ≤ 2048

structure LicenseExchange where
  request : Option CString
  opened : AvCode
  allocated : Bool
  pieces : List Piece
  ended : AvCode
  info : LicenseInfo

namespace LicenseExchange

def body (exchange : LicenseExchange) : List UInt8 := (exchange.pieces.map Piece.bytes).flatten

/-- What the call of `avio_read` with this number answers. -/
def read (exchange : LicenseExchange) (number : Nat) : ReadResult :=
  match exchange.pieces[number]? with
  | some piece => .bytes piece.bytes piece.nonempty piece.fits
  | none => .ended exchange.ended

/-- The test of `awt_license` on the body. -/
def Numeric (exchange : LicenseExchange) : Prop := exchange.body ≠ [] ∧ awtIsNumberic exchange.body

instance (exchange : LicenseExchange) : Decidable exchange.Numeric := inferInstanceAs (Decidable (_ ∧ _))

inductive Ending where
  | returned (ret : Int)
  | urlOverflow
  | licenseOverflow
  | nullLicense
  deriving DecidableEq

def ending (exchange : LicenseExchange) (decode : Int) : Ending :=
  match exchange.request with
  | none => .returned (-1)
  | some licenseRequest =>
    if 512 < (licenseUrl decode licenseRequest).length + 1 then .urlOverflow
    else if exchange.opened.val ≠ 0 then .returned exchange.opened.val
    else if exchange.body ≠ [] ∧ ¬ exchange.allocated then .nullLicense
    else if 128 < exchange.body.length then .licenseOverflow
    else if ¬ exchange.Numeric then .returned (-1)
    else if 128 ≤ exchange.body.length then .licenseOverflow
    else .returned exchange.info.ret

/-- What it takes for `awt_license` to return 0. -/
structure Accepted (exchange : LicenseExchange) (decode : Int) : Prop where
  url : ∃ licenseRequest, exchange.request = some licenseRequest ∧ (licenseUrl decode licenseRequest).length + 1 ≤ 512
  opened : exchange.opened.val = 0
  allocated : exchange.allocated
  numeric : exchange.Numeric
  terminated : exchange.body.length < 128
  informed : exchange.info.ret = 0

theorem ending_zero_iff (exchange : LicenseExchange) (decode : Int) :
    exchange.ending decode = .returned 0 ↔ exchange.Accepted decode := by
  constructor
  · intro zero
    unfold ending at zero
    cases requested : exchange.request with
    | none =>
      rw [requested] at zero
      cases zero
    | some licenseRequest =>
      rw [requested] at zero
      simp only at zero
      split at zero
      · cases zero
      next fits =>
      split at zero
      next failed => exact absurd (Ending.returned.inj zero) failed
      next opened =>
      split at zero
      · cases zero
      next memory =>
      split at zero
      · cases zero
      split at zero
      · cases zero
      next numeric =>
      split at zero
      · cases zero
      next terminated =>
      have nonempty := (not_not.mp numeric).1
      exact ⟨⟨licenseRequest, requested, by omega⟩, not_not.mp opened,
        not_not.mp fun missing => memory ⟨nonempty, missing⟩, not_not.mp numeric, by omega,
        by simpa using Ending.returned.inj zero⟩
  · intro accepted
    obtain ⟨licenseRequest, requested, fits⟩ := accepted.url
    have terminated := accepted.terminated
    unfold ending
    rw [requested]
    simp only
    rw [if_neg (by omega), if_neg (not_not.mpr accepted.opened), if_neg fun missing => missing.2 accepted.allocated,
      if_neg (by omega), if_neg (not_not.mpr accepted.numeric), if_neg (by omega), accepted.informed]
    rfl

/-- How it ends behind a URL that could be opened. -/
def served (exchange : LicenseExchange) : Ending :=
  if exchange.body ≠ [] ∧ ¬ exchange.allocated then .nullLicense
  else if 128 < exchange.body.length then .licenseOverflow
  else if ¬ exchange.Numeric then .returned (-1)
  else if 128 ≤ exchange.body.length then .licenseOverflow
  else .returned exchange.info.ret

theorem ending_of_request {exchange : LicenseExchange} {licenseRequest : CString}
    (requested : exchange.request = some licenseRequest) (decode : Int) : exchange.ending decode =
      if 512 < (licenseUrl decode licenseRequest).length + 1 then .urlOverflow
      else if exchange.opened.val ≠ 0 then .returned exchange.opened.val
      else exchange.served := by
  rw [ending, requested]
  rfl

/-- What the code tests instead. -/
theorem unfit_iff (exchange : LicenseExchange) :
    exchange.body.length = 0 ∨ ¬ awtIsNumberic exchange.body ↔ ¬ exchange.Numeric := by
  rw [Numeric, not_and_or, not_not, List.length_eq_zero_iff]

/-- The bytes of the response that come from a certain read on. -/
def remaining (exchange : LicenseExchange) (number : Nat) : List UInt8 :=
  ((exchange.pieces.drop number).map Piece.bytes).flatten

theorem remaining_of_ended {exchange : LicenseExchange} {number : Nat} {code : AvCode}
    (read : exchange.read number = .ended code) : exchange.remaining number = [] := by
  unfold LicenseExchange.read at read
  cases found : exchange.pieces[number]? with
  | none => rw [remaining, List.drop_eq_nil_of_le (List.getElem?_eq_none_iff.mp found)]; rfl
  | some piece =>
    rw [found] at read
    cases read

theorem remaining_of_bytes {exchange : LicenseExchange} {number : Nat} {chunk : List UInt8} {nonempty : chunk ≠ []}
    {fits : chunk.length ≤ 2048} (read : exchange.read number = .bytes chunk nonempty fits) :
    exchange.remaining number = chunk ++ exchange.remaining (number + 1) := by
  unfold LicenseExchange.read at read
  cases found : exchange.pieces[number]? with
  | none =>
    rw [found] at read
    cases read
  | some piece =>
    rw [found] at read
    cases read
    obtain ⟨within, same⟩ := List.getElem?_eq_some_iff.mp found
    rw [remaining, List.drop_eq_getElem_cons within, same]
    rfl

/-- One turn of the read loop, when the bytes before it are stored. -/
def turned (exchange : LicenseExchange) (stored : List UInt8) :
    ReadResult → Exit Ending (List UInt8 ⊕ List UInt8 × Int)
  | .ended code => .done (.inr (stored, code.val))
  | .bytes chunk _ _ =>
    if !exchange.allocated then .stop .nullLicense
    else if 128 < stored.length + chunk.length then .stop .licenseOverflow
    else .done (.inl (stored ++ chunk))

/-- How the read loop ends: with the whole body, or where a piece cannot be stored. -/
def ReadTo (exchange : LicenseExchange) : Exit Ending (List UInt8) → Prop
  | .done license => license = exchange.body ∧ license.length ≤ 128 ∧ (license ≠ [] → exchange.allocated)
  | .stop .nullLicense => exchange.body ≠ [] ∧ ¬ exchange.allocated
  | .stop .licenseOverflow => exchange.allocated ∧ 128 < exchange.body.length
  | .stop _ => False

theorem served_of_stop {exchange : LicenseExchange} {ending : Ending} (stopped : exchange.ReadTo (.stop ending)) :
    exchange.served = ending := by
  cases ending with
  | nullLicense => exact if_pos stopped
  | licenseOverflow => rw [served, if_neg fun missing => missing.2 stopped.1, if_pos stopped.2]
  | _ => exact stopped.elim

/-- With the whole body stored, it is judged. -/
theorem served_of_body {exchange : LicenseExchange} {license : List UInt8} (read : exchange.ReadTo (.done license)) :
    license = exchange.body ∧ exchange.served =
      if ¬ exchange.Numeric then .returned (-1)
      else if 128 ≤ exchange.body.length then .licenseOverflow
      else .returned exchange.info.ret := by
  obtain ⟨rfl, short, allocated⟩ := read
  refine ⟨rfl, ?_⟩
  rw [served, if_neg fun missing => missing.2 (allocated missing.1), if_neg (by omega)]

/-- What the read loop has stored, and that there was memory to store it in. -/
private structure Storing (exchange : LicenseExchange) (number : Nat) (stored : List UInt8) : Prop where
  whole : stored ++ exchange.remaining number = exchange.body
  short : stored.length ≤ 128
  allocated : stored ≠ [] → exchange.allocated

private theorem Storing.begin (exchange : LicenseExchange) : Storing exchange 0 [] where
  whole := rfl
  short := by simp
  allocated := by simp

private theorem Storing.stopped {exchange : LicenseExchange} {number : Nat} {stored : List UInt8} {ending : Ending}
    (storing : Storing exchange number stored) (stops : exchange.turned stored (exchange.read number) = .stop ending) :
    exchange.ReadTo (.stop ending) := by
  have whole := storing.whole
  cases answer : exchange.read number with
  | ended code =>
    rw [answer] at stops
    cases stops
  | bytes chunk nonempty fits =>
    rw [remaining_of_bytes answer] at whole
    rw [answer, turned] at stops
    split at stops
    next missing =>
      cases stops
      refine ⟨?_, by simpa using missing⟩
      rw [← whole]
      simp [nonempty]
    next memory =>
      split at stops
      next long =>
        cases stops
        refine ⟨by simpa using memory, ?_⟩
        rw [← whole, List.length_append, List.length_append]
        omega
      · cases stops

private theorem Storing.finished {exchange : LicenseExchange} {number : Nat} {stored license : List UInt8} {ret : Int}
    (storing : Storing exchange number stored)
    (ends : exchange.turned stored (exchange.read number) = .done (.inr (license, ret))) :
    exchange.ReadTo (.done license) := by
  cases answer : exchange.read number with
  | ended code =>
    have whole := storing.whole
    rw [answer] at ends
    cases ends
    rw [remaining_of_ended answer, List.append_nil] at whole
    exact ⟨whole, storing.short, storing.allocated⟩
  | bytes chunk nonempty fits =>
    rw [answer, turned] at ends
    split at ends
    · cases ends
    · split at ends <;> cases ends

private theorem Storing.goes_on {exchange : LicenseExchange} {number : Nat} {stored more : List UInt8}
    (storing : Storing exchange number stored)
    (turns : exchange.turned stored (exchange.read number) = .done (.inl more)) :
    Storing exchange (number + 1) more ∧ stored.length < more.length := by
  cases answer : exchange.read number with
  | ended code =>
    rw [answer] at turns
    cases turns
  | bytes chunk nonempty fits =>
    have whole := storing.whole
    rw [answer, turned] at turns
    split at turns
    · cases turns
    next memory =>
    split at turns
    · cases turns
    next room =>
    cases turns
    refine ⟨⟨?_, ?_, fun _ => by simpa using memory⟩, ?_⟩
    · rw [← whole, remaining_of_bytes answer, List.append_assoc]
    · rw [List.length_append]
      omega
    · rw [List.length_append]
      exact Nat.lt_add_of_pos_right (List.length_pos_iff.mpr nonempty)

variable {I : Interface} {σ ε : Type} {law : Trace I σ → Entry I σ → Prop}
  {turn : List UInt8 → Program I σ ε (List UInt8 ⊕ List UInt8 × Int)} {K : Nat → World I σ → Prop}

/-- A loop whose turns read as in the exchange reads its whole body or stops for want of
room. A buffer of 128 bytes is full after as many turns. -/
theorem reads (exchange : LicenseExchange) (timeout : ε) (ends : Ending → ε → Prop)
    (step : ∀ number stored world, K number world →
      Meets law (turn stored)
        (fun result final => exchange.turned stored (exchange.read number) = .done result ∧ K (number + 1) final)
        (fun why final => ∃ ending, exchange.turned stored (exchange.read number) = .stop ending ∧
          ends ending why ∧ K (number + 1) final) world)
    (fuel : Nat) (enough : 129 < fuel) {world : World I σ} (holds : K 0 world) :
    Meets law (Program.loop timeout turn fuel [])
      (fun result final => exchange.ReadTo (.done result.1) ∧ ∃ number, K number final)
      (fun why final => (∃ ending, exchange.ReadTo (.stop ending) ∧ ends ending why) ∧ ∃ number, K number final)
      world := by
  apply Meets.loop_within (fun stored world => ∃ number, Storing exchange number stored ∧ K number world)
    (fun stored => 129 - stored.length) _ fuel [] (by simpa using enough) ⟨0, Storing.begin exchange, holds⟩
  intro stored world ⟨number, storing, holds⟩
  apply (step number stored world holds).weaken
  · intro result final ⟨turns, after⟩
    cases result with
    | inl more =>
      obtain ⟨again, longer⟩ := storing.goes_on turns
      have := again.short
      exact ⟨⟨number + 1, again, after⟩, by omega⟩
    | inr result => exact ⟨storing.finished turns, number + 1, after⟩
  · intro why final ⟨ending, stops, same, after⟩
    exact ⟨⟨ending, storing.stopped stops, same⟩, number + 1, after⟩

end LicenseExchange

def Call.readsBody : Call → Bool
  | .avioRead => true
  | _ => false

/-- Every answer that `awt_license` gets is the one of the exchange. -/
def LicenseExchange.serves (exchange : LicenseExchange) (past : History) : Event → Prop
  | ⟨_, .awt5LicenseRequest _, licenseRequest⟩ => licenseRequest = exchange.request
  | ⟨_, .avioOpen _, opened⟩ => opened = exchange.opened
  | ⟨_, .malloc .license _, allocated⟩ => allocated = exchange.allocated
  | ⟨_, .avioRead, result⟩ => result = exchange.read (past.countP fun event => event.call.readsBody)
  | ⟨_, .awt5LicenseInfo _ _, info⟩ => info = exchange.info
  | _ => True

instance (exchange : LicenseExchange) (past : History) (event : Event) : Decidable (exchange.serves past event) := by
  obtain ⟨_, call, _⟩ := event
  cases call with
  | malloc what _ => cases what <;> (unfold LicenseExchange.serves; infer_instance)
  | _ => unfold LicenseExchange.serves; infer_instance

namespace LicenseExchange

def Ending.exit : Ending → Exit Stop Int
  | .returned ret => .done ret
  | .urlOverflow => .stop (.fault .urlOverflow)
  | .licenseOverflow => .stop (.fault .licenseOverflow)
  | .nullLicense => .stop (.fault .nullLicense)

/-- What `awt_license` has written to the context when it ends. -/
structure Leaves (exchange : LicenseExchange) (decode : Int) (before after : AWTContext) : Prop where
  stored : exchange.Accepted decode → after.license = some exchange.body
  reported : exchange.Accepted decode → AWT_DURATION ≤ exchange.info.licensedDurationSec.toNat →
    after.licenseDuration = int32 exchange.info.licensedDurationSec.toNat ∧
      after.licenseValid = int32 exchange.info.validForSec.toNat
  kept : ¬ exchange.Accepted decode ∨ exchange.info.licensedDurationSec.toNat < AWT_DURATION →
    after.licenseDuration = before.licenseDuration ∧ after.licenseValid = before.licenseValid

/-- How often was read, while the fields for the SDK's report are as at the start. -/
private structure Exchanging (start : AWTContext) (number : Nat) (world : AwtWorld) : Prop where
  reads : (world.trace.countP fun event => event.call.readsBody) = number
  duration : world.state.licenseDuration = start.licenseDuration
  valid : world.state.licenseValid = start.licenseValid

variable {exchange : LicenseExchange} {decode : Int} {start : AWTContext} {number : Nat} {world : AwtWorld}

private theorem Exchanging.same (holds : Exchanging start number world) :
    world.state.licenseDuration = start.licenseDuration ∧ world.state.licenseValid = start.licenseValid :=
  ⟨holds.duration, holds.valid⟩

private theorem Exchanging.call (holds : Exchanging start number world) (request : Call) (answer : Answer request) :
    Exchanging start (number + if request.readsBody then 1 else 0) (world.record request answer) := by
  refine ⟨?_, holds.duration, holds.valid⟩
  rw [World.record_trace, List.countP_append, holds.reads, List.countP_singleton]

private theorem Exchanging.fields (holds : Exchanging start number world) (change : AWTContext → AWTContext)
    (duration : ∀ awt, (change awt).licenseDuration = awt.licenseDuration)
    (valid : ∀ awt, (change awt).licenseValid = awt.licenseValid) :
    Exchanging start number (world.update change) :=
  ⟨holds.reads, (duration _).trans holds.duration, (valid _).trans holds.valid⟩

private theorem Exchanging.refused (holds : Exchanging start number world) (refused : ¬ exchange.Accepted decode) :
    exchange.Leaves decode start world.state where
  stored accepted := absurd accepted refused
  reported accepted := absurd accepted refused
  kept _ := holds.same

private theorem Exchanging.turn (holds : Exchanging start number world) (stored : List UInt8) :
    Meets exchange.serves (readTurn exchange.allocated stored)
      (fun result final => exchange.turned stored (exchange.read number) = .done result ∧
        Exchanging start (number + 1) final)
      (fun why final => ∃ ending, exchange.turned stored (exchange.read number) = .stop ending ∧
        Ending.exit ending = .stop why ∧ Exchanging start (number + 1) final) world := by
  apply Meets.call_bind
  intro result served
  have answered : result = exchange.read number := by rw [← holds.reads]; exact served
  rw [← answered]
  have read := holds.call .avioRead result
  cases result with
  | ended code => exact Meets.ret ⟨rfl, read⟩
  | bytes chunk nonempty fits =>
    simp only [turned]
    split
    · exact Meets.stop ⟨.nullLicense, rfl, rfl, read⟩
    split
    · exact Meets.stop ⟨.licenseOverflow, rfl, rfl, read⟩
    · exact Meets.ret ⟨rfl, read⟩

theorem awtLicense_ends (exchange : LicenseExchange) (fuel : Nat) (enough : 129 < fuel) (decode : Int) (awt : AWTContext) :
    Meets exchange.serves (awtLicense fuel decode)
      (fun ret world => (exchange.ending decode).exit = .done ret ∧ exchange.Leaves decode awt world.state)
      (fun why world => (exchange.ending decode).exit = .stop why ∧ exchange.Leaves decode awt world.state)
      ⟨awt, []⟩ := by
  have start : Exchanging awt 0 ⟨awt, []⟩ := ⟨rfl, rfl, rfl⟩
  have refused {ret : Int} (ends : exchange.ending decode = .returned ret) (wrong : ret ≠ 0) :
      ¬ exchange.Accepted decode := by
    rw [← ending_zero_iff, ends]
    exact fun same => wrong (Ending.returned.inj same)
  have stops {ending : Ending} (ends : exchange.ending decode = ending) (wrong : ∀ ret, ending ≠ .returned ret) :
      ¬ exchange.Accepted decode := by
    rw [← ending_zero_iff, ends]
    exact wrong 0
  apply Meets.call_bind
  intro licenseRequest requested
  change licenseRequest = exchange.request at requested
  have asked := start.call (.awt5LicenseRequest AWT_DURATION) licenseRequest
  cases licenseRequest with
  | none =>
    have ends : exchange.ending decode = .returned (-1) := by rw [ending, ← requested]
    apply Meets.call_bind
    intro _ _
    exact Meets.ret ⟨by rw [ends]; rfl, (asked.call _ _).refused (refused ends (by decide))⟩
  | some licenseRequest =>
  have path := exchange.ending_of_request requested.symm decode
  simp only
  split
  next long =>
    rw [if_pos long] at path
    exact Meets.stop ⟨by rw [path]; rfl, asked.refused (stops path (by simp))⟩
  next fits =>
  rw [if_neg fits] at path
  apply Meets.call_bind
  intro _ _
  apply Meets.call_bind
  intro opened same
  change opened = exchange.opened at same
  subst same
  have opening := (asked.call (.release .licenseRequest) ()).call (.avioOpen (licenseUrl decode licenseRequest)) exchange.opened
  split
  next failed =>
    rw [if_pos failed] at path
    apply Meets.call_bind
    intro _ _
    exact Meets.ret ⟨by rw [path]; rfl, (opening.call _ _).refused (refused path failed)⟩
  next succeeded =>
  rw [if_neg succeeded] at path
  apply Meets.call_bind
  intro allocated same
  change allocated = exchange.allocated at same
  subst same
  apply Meets.modify_bind
  have memory := opening.call (.malloc .license 128) exchange.allocated
  have loop := exchange.reads .timeout (fun ending why => ending.exit = .stop why)
    (fun number stored world holds => holds.turn stored) fuel enough (memory.fields (fun awt =>
      { awt with license := if exchange.allocated then some [] else none }) (fun _ => rfl) (fun _ => rfl))
  apply Meets.bind
  apply loop.weaken
  · intro (license, ret) world ⟨read, number, holds⟩
    obtain ⟨whole, judged⟩ := served_of_body read
    dsimp only at whole
    subst whole
    rw [judged] at path
    apply Meets.call_bind
    intro _ _
    have closed := holds.call .avioClose ()
    by_cases numeric : exchange.Numeric
    · rw [if_neg (not_not.mpr numeric)] at path
      rw [if_neg fun unfit => exchange.unfit_iff.mp unfit numeric]
      split
      next full =>
        rw [if_pos full] at path
        exact Meets.stop ⟨by rw [path]; rfl, closed.refused (stops path (by simp))⟩
      next terminated =>
      rw [if_neg terminated] at path
      apply Meets.modify_bind
      apply Meets.call_bind
      intro info same
      change info = exchange.info at same
      subst same
      have informed := (closed.fields (fun awt => { awt with license := some exchange.body })
        (fun _ => rfl) (fun _ => rfl)).call (.awt5LicenseInfo exchange.body decode) exchange.info
      split
      next bad =>
        apply Meets.call_bind
        intro _ _
        refine Meets.ret ⟨by rw [path]; rfl, fun _ => rfl, fun accepted long => ?_, fun _ => informed.same⟩
        exact absurd bad (by have := accepted.informed; omega)
      next good =>
        apply Meets.modify_bind
        refine Meets.ret ⟨?_, fun _ => rfl, fun _ _ => by simp, fun wrong => ?_⟩
        · rw [path, show exchange.info.ret = 0 by omega]
          rfl
        · have accepted : exchange.Accepted decode := by
            rw [← ending_zero_iff, path, show exchange.info.ret = 0 by omega]
            rfl
          exact absurd wrong (by simp [accepted]; omega)
    · rw [if_pos numeric] at path
      rw [if_pos (exchange.unfit_iff.mpr numeric)]
      apply Meets.call_bind
      intro _ _
      exact Meets.ret ⟨by rw [path]; rfl, (closed.call _ _).refused (refused path (by decide))⟩
  · intro why world ⟨⟨ending, readTo, same⟩, number, holds⟩
    have ends : exchange.ending decode = ending := path.trans (served_of_stop readTo)
    refine ⟨by rw [ends, same], holds.refused (stops ends ?_)⟩
    rintro ret rfl
    exact readTo

end LicenseExchange

namespace Lavfi

def Call.readsBody : Call → Bool
  | .avioRead => true
  | _ => false

end Lavfi

namespace LicenseExchange

/-- The same for the filter's copy. -/
def servesLavfi (exchange : LicenseExchange) (past : Lavfi.History) : Lavfi.Event → Prop
  | ⟨_, .awt5LicenseRequest _, licenseRequest⟩ => licenseRequest = exchange.request
  | ⟨_, .avioOpen _, opened⟩ => opened = exchange.opened
  | ⟨_, .malloc .license _, allocated⟩ => allocated = exchange.allocated
  | ⟨_, .avioRead, result⟩ => result = exchange.read (past.countP fun event => event.call.readsBody)
  | ⟨_, .awt5LicenseInfo _ _, info⟩ => info = exchange.info
  | _ => True

instance (exchange : LicenseExchange) (past : Lavfi.History) (event : Lavfi.Event) :
    Decidable (exchange.servesLavfi past event) := by
  obtain ⟨_, call, _⟩ := event
  cases call with
  | malloc what _ => cases what <;> (unfold LicenseExchange.servesLavfi; infer_instance)
  | _ => unfold LicenseExchange.servesLavfi; infer_instance

def Ending.exitLavfi : Ending → Exit Lavfi.Stop Int
  | .returned ret => .done ret
  | .urlOverflow => .stop (.fault .urlOverflow)
  | .licenseOverflow => .stop (.fault .licenseOverflow)
  | .nullLicense => .stop (.fault .nullLicense)

private def Fetching (number : Nat) (world : Lavfi.LavfiWorld) : Prop :=
  (world.trace.countP fun event => event.call.readsBody) = number

variable {exchange : LicenseExchange} {decode : Int} {number : Nat} {world : Lavfi.LavfiWorld}

private theorem Fetching.call (holds : Fetching number world) (request : Lavfi.Call) (answer : Lavfi.Answer request) :
    Fetching (number + if request.readsBody then 1 else 0) (world.record request answer) := by
  rw [Fetching, World.record_trace, List.countP_append, List.countP_singleton]
  rw [Fetching] at holds
  rw [holds]

private theorem Fetching.update (holds : Fetching number world) (change : Lavfi.AWTContext → Lavfi.AWTContext) :
    Fetching number (world.update change) := holds

private theorem Fetching.turn (holds : Fetching number world) (stored : List UInt8) :
    Meets exchange.servesLavfi (Lavfi.readTurn exchange.allocated stored)
      (fun result final => exchange.turned stored (exchange.read number) = .done result ∧ Fetching (number + 1) final)
      (fun why final => ∃ ending, exchange.turned stored (exchange.read number) = .stop ending ∧
        Ending.exitLavfi ending = .stop why ∧ Fetching (number + 1) final) world := by
  apply Meets.call_bind
  intro result served
  have answered : result = exchange.read number := by rw [← show _ = number from holds]; exact served
  rw [← answered]
  have read := holds.call .avioRead result
  cases result with
  | ended code => exact Meets.ret ⟨rfl, read⟩
  | bytes chunk nonempty fits =>
    simp only [turned]
    split
    · exact Meets.stop ⟨.nullLicense, rfl, rfl, read⟩
    split
    · exact Meets.stop ⟨.licenseOverflow, rfl, rfl, read⟩
    · exact Meets.ret ⟨rfl, read⟩

theorem awtLicense_ends_lavfi (exchange : LicenseExchange) (fuel : Nat) (enough : 129 < fuel) (decode : Int)
    (unread : (world.trace.countP fun event => event.call.readsBody) = 0) :
    Meets exchange.servesLavfi (Lavfi.awtLicense fuel decode)
      (fun ret world => (exchange.ending decode).exitLavfi = .done ret ∧
        (exchange.Accepted decode → world.state.license = some exchange.body))
      (fun why _ => (exchange.ending decode).exitLavfi = .stop why) world := by
  have refused {ret : Int} {license : Option CString} (ends : exchange.ending decode = .returned ret) (wrong : ret ≠ 0) :
      (exchange.ending decode).exitLavfi = .done ret ∧ (exchange.Accepted decode → license = some exchange.body) := by
    refine ⟨by rw [ends]; rfl, fun accepted => ?_⟩
    rw [(ending_zero_iff exchange decode).mpr accepted] at ends
    exact absurd (Ending.returned.inj ends).symm wrong
  have start : Fetching 0 world := unread
  apply Meets.call_bind
  intro licenseRequest requested
  change licenseRequest = exchange.request at requested
  have asked := start.call (.awt5LicenseRequest AWT_DURATION) licenseRequest
  cases licenseRequest with
  | none =>
    apply Meets.call_bind
    intro _ _
    exact Meets.ret (refused (by rw [ending, ← requested]) (by decide))
  | some licenseRequest =>
  have path := exchange.ending_of_request requested.symm decode
  simp only
  split
  next long =>
    rw [if_pos long] at path
    exact Meets.stop (by rw [path]; rfl)
  next fits =>
  rw [if_neg fits] at path
  apply Meets.call_bind
  intro _ _
  apply Meets.call_bind
  intro opened same
  change opened = exchange.opened at same
  subst same
  have opening := (asked.call .freeRequest ()).call (.avioOpen (licenseUrl decode licenseRequest)) exchange.opened
  split
  next failed =>
    rw [if_pos failed] at path
    apply Meets.call_bind
    intro _ _
    exact Meets.ret (refused path failed)
  next succeeded =>
  rw [if_neg succeeded] at path
  apply Meets.call_bind
  intro allocated same
  change allocated = exchange.allocated at same
  subst same
  apply Meets.modify_bind
  have loop := exchange.reads .timeout (fun ending why => ending.exitLavfi = .stop why)
    (fun number stored world holds => Fetching.turn holds stored) fuel enough
    ((opening.call (.malloc .license 128) exchange.allocated).update fun awt =>
      { awt with license := if exchange.allocated then some [] else none })
  apply Meets.bind
  apply loop.weaken
  · intro (license, ret) world ⟨read, number, holds⟩
    obtain ⟨whole, judged⟩ := served_of_body read
    dsimp only at whole
    subst whole
    rw [judged] at path
    apply Meets.call_bind
    intro _ _
    by_cases numeric : exchange.Numeric
    · rw [if_neg (not_not.mpr numeric)] at path
      rw [if_neg fun unfit => exchange.unfit_iff.mp unfit numeric]
      split
      next full =>
        rw [if_pos full] at path
        exact Meets.stop (by rw [path]; rfl)
      next terminated =>
      rw [if_neg terminated] at path
      apply Meets.modify_bind
      apply Meets.call_bind
      intro info same
      change info = exchange.info at same
      subst same
      split
      next bad =>
        apply Meets.call_bind
        intro _ _
        exact Meets.ret ⟨by rw [path]; rfl, fun _ => rfl⟩
      next good =>
        apply Meets.call_bind
        intro _ _
        refine Meets.ret ⟨?_, fun _ => rfl⟩
        rw [path, show exchange.info.ret = 0 by omega]
        rfl
    · rw [if_pos numeric] at path
      rw [if_pos (exchange.unfit_iff.mpr numeric)]
      apply Meets.call_bind
      intro _ _
      exact Meets.ret (refused path (by decide))
  · intro why world ⟨⟨ending, readTo, same⟩, _⟩
    rw [← same, path, served_of_stop readTo]

end LicenseExchange
end Awt
