import Awt.Script
import Awt.Lavfi.Script

/-! What `awt_license` does with a license: where it writes beyond its buffers, and
which licenses it takes for usable. -/

namespace Awt
open OracleProgram

/-- No write of `awt_license` went past the end of `url` or of the license buffer. -/
def InBounds (exit : Exit Stop Int) : Prop :=
  exit ≠ .stop (.fault .urlOverflow) ∧ exit ≠ .stop (.fault .licenseOverflow)

def Lavfi.InBounds (exit : Exit Lavfi.Stop Int) : Prop :=
  exit ≠ .stop (.fault .urlOverflow) ∧ exit ≠ .stop (.fault .licenseOverflow)

namespace LicenseExchange

/-- The response is read into the buffer. -/
structure Read (exchange : LicenseExchange) : Prop where
  requested : exchange.request.isSome
  opened : exchange.opened.val = 0
  allocated : exchange.allocated

/-- There is room for the URL, for the body, and behind a license for its terminator. -/
structure Fits (exchange : LicenseExchange) (decode : Int) : Prop where
  url : ∀ licenseRequest, exchange.request = some licenseRequest → (licenseUrl decode licenseRequest).length + 1 ≤ 512
  body : exchange.Read → exchange.body.length ≤ 128
  terminator : exchange.Read → exchange.Numeric → exchange.body.length + 1 ≤ 128

variable {exchange : LicenseExchange} {decode : Int}

private theorem fits_of_request {licenseRequest : CString} (requested : exchange.request = some licenseRequest) :
    exchange.Fits decode ↔ (licenseUrl decode licenseRequest).length + 1 ≤ 512 ∧
      (exchange.opened.val = 0 → exchange.allocated →
        exchange.body.length ≤ 128 ∧ (exchange.Numeric → exchange.body.length + 1 ≤ 128)) := by
  have some_request : exchange.request.isSome := by rw [requested]; rfl
  constructor
  · intro fits
    refine ⟨fits.url _ requested, fun opened allocated => ?_⟩
    have read : exchange.Read := ⟨some_request, opened, allocated⟩
    exact ⟨fits.body read, fits.terminator read⟩
  · intro ⟨url, room⟩
    refine ⟨fun other same => ?_, fun read => (room read.opened read.allocated).1,
      fun read => (room read.opened read.allocated).2⟩
    rw [requested] at same
    cases same
    exact url

theorem ending_fits_iff : exchange.ending decode ≠ .urlOverflow ∧ exchange.ending decode ≠ .licenseOverflow ↔
    exchange.Fits decode := by
  cases requested : exchange.request with
  | none =>
    have ends : exchange.ending decode = .returned (-1) := by rw [ending, requested]
    have unread (read : exchange.Read) : False := by simpa [requested] using read.requested
    refine ⟨fun _ => ⟨fun _ same => ?_, fun read => (unread read).elim, fun read => (unread read).elim⟩, fun _ => ?_⟩
    · rw [requested] at same
      cases same
    · rw [ends]
      exact ⟨by simp, by simp⟩
  | some licenseRequest =>
    rw [fits_of_request requested, ending_of_request requested]
    by_cases long : 512 < (licenseUrl decode licenseRequest).length + 1
    · rw [if_pos long]
      exact ⟨fun fits => absurd rfl fits.1, fun fits => by omega⟩
    rw [if_neg long]
    by_cases failed : exchange.opened.val ≠ 0
    · rw [if_pos failed]
      exact ⟨fun _ => ⟨by omega, fun opened => absurd opened failed⟩, fun _ => ⟨by simp, by simp⟩⟩
    rw [if_neg failed, served]
    by_cases missing : exchange.body ≠ [] ∧ ¬ exchange.allocated
    · rw [if_pos missing]
      exact ⟨fun _ => ⟨by omega, fun _ allocated => absurd allocated missing.2⟩, fun _ => ⟨by simp, by simp⟩⟩
    rw [if_neg missing]
    have memory (nonempty : exchange.body ≠ []) : exchange.allocated := not_not.mp fun lost => missing ⟨nonempty, lost⟩
    have opened : exchange.opened.val = 0 := not_not.mp failed
    by_cases tooMuch : 128 < exchange.body.length
    · rw [if_pos tooMuch]
      have nonempty : exchange.body ≠ [] := List.ne_nil_of_length_pos (by omega)
      refine ⟨fun fits => absurd rfl fits.2, fun fits => ?_⟩
      have := (fits.2 opened (memory nonempty)).1
      omega
    rw [if_neg tooMuch]
    by_cases numeric : exchange.Numeric
    · rw [if_neg (not_not.mpr numeric)]
      by_cases full : 128 ≤ exchange.body.length
      · rw [if_pos full]
        refine ⟨fun fits => absurd rfl fits.2, fun fits => ?_⟩
        have := (fits.2 opened (memory numeric.1)).2 numeric
        omega
      · rw [if_neg full]
        exact ⟨fun _ => ⟨by omega, fun _ _ => ⟨by omega, fun _ => by omega⟩⟩, fun _ => ⟨by simp, by simp⟩⟩
    · rw [if_pos numeric]
      exact ⟨fun _ => ⟨by omega, fun _ _ => ⟨by omega, fun holds => absurd holds numeric⟩⟩, fun _ => ⟨by simp, by simp⟩⟩

/-- The body was read to the end of the response and names enough time, for a request
that was made and a URL that was opened. -/
structure Usable (exchange : LicenseExchange) : Prop where
  requested : exchange.request.isSome
  opened : exchange.opened.val = 0
  whole : exchange.ended.val = 0 ∨ exchange.ended.val = AVERROR_EOF
  numeric : exchange.Numeric
  informed : exchange.info.ret = 0
  long : AWT_DURATION ≤ exchange.info.licensedDurationSec.toNat

end LicenseExchange

/-- Surroundings that answer `awt_license` as in the exchange. -/
def LicenseExchange.surroundings (exchange : LicenseExchange) : Oracle Surroundings AWTContext := fun past call =>
  match call with
  | .awt5LicenseRequest _ => exchange.request
  | .avioOpen _ => exchange.opened
  | .malloc .license _ => exchange.allocated
  | .avioRead => exchange.read (past.countP fun event => event.call.readsBody)
  | .awt5LicenseInfo _ _ => exchange.info
  | call => ({} : Script).surroundings past call

def LicenseExchange.lavfiSurroundings (exchange : LicenseExchange) : Oracle Lavfi.Surroundings Lavfi.AWTContext :=
  Lavfi.Script.surroundings { license := exchange }

section run

variable {exchange : LicenseExchange} {fuel : Nat} {decode : Int}
  {awt : AWTContext} {oracle : Oracle Surroundings AWTContext}
  {filter : Lavfi.AWTContext} {filterOracle : Oracle Lavfi.Surroundings Lavfi.AWTContext}

private theorem license_ends (enough : 129 < fuel)
    (served : Lawful exchange.serves ((awtLicense fuel decode).run oracle ⟨awt, []⟩).2.trace) :
    ((awtLicense fuel decode).run oracle ⟨awt, []⟩).1 = (exchange.ending decode).exit ∧
      exchange.Leaves decode awt ((awtLicense fuel decode).run oracle ⟨awt, []⟩).2.state := by
  have reached := exchange.awtLicense_ends fuel enough decode awt oracle served
  rcases executed : (awtLicense fuel decode).run oracle ⟨awt, []⟩ with ⟨_ | _, world⟩ <;>
    · rw [executed] at reached
      exact ⟨reached.1.symm, reached.2⟩

private theorem license_ends_lavfi (enough : 129 < fuel)
    (served : Lawful exchange.servesLavfi ((Lavfi.awtLicense fuel decode).run filterOracle ⟨filter, []⟩).2.trace) :
    ((Lavfi.awtLicense fuel decode).run filterOracle ⟨filter, []⟩).1 = (exchange.ending decode).exitLavfi ∧
      (exchange.Accepted decode →
        ((Lavfi.awtLicense fuel decode).run filterOracle ⟨filter, []⟩).2.state.license = some exchange.body) := by
  have meets : Meets exchange.servesLavfi (Lavfi.awtLicense fuel decode) _ _ ⟨filter, []⟩ :=
    exchange.awtLicense_ends_lavfi fuel enough decode rfl
  have reached := meets filterOracle served
  rcases executed : (Lavfi.awtLicense fuel decode).run filterOracle ⟨filter, []⟩ with ⟨_ | _, world⟩
  · rw [executed] at reached
    exact ⟨reached.1.symm, reached.2⟩
  · rw [executed] at reached
    refine ⟨reached.symm, fun accepted => ?_⟩
    rw [(exchange.ending_zero_iff decode).mpr accepted] at reached
    cases reached

private theorem exit_in_bounds (ending : LicenseExchange.Ending) :
    (InBounds ending.exit ↔ ending ≠ .urlOverflow ∧ ending ≠ .licenseOverflow) ∧
      (Lavfi.InBounds ending.exitLavfi ↔ ending ≠ .urlOverflow ∧ ending ≠ .licenseOverflow) := by
  unfold InBounds Lavfi.InBounds
  cases ending <;> simp [LicenseExchange.Ending.exit, LicenseExchange.Ending.exitLavfi]

private theorem exit_zero (ending : LicenseExchange.Ending) :
    (ending.exit = .done 0 ↔ ending = .returned 0) ∧ (ending.exitLavfi = .done 0 ↔ ending = .returned 0) := by
  cases ending <;> simp [LicenseExchange.Ending.exit, LicenseExchange.Ending.exitLavfi]

/-- Both copies of `awt_license` stay within their buffers on exactly the exchanges that
there is room for. -/
theorem license_bounded_iff (exchange : LicenseExchange) (fuel : Nat) (enough : 129 < fuel) (decode : Int)
    (awt : AWTContext) (oracle : Oracle Surroundings AWTContext)
    (served : Lawful exchange.serves ((awtLicense fuel decode).run oracle ⟨awt, []⟩).2.trace)
    (filter : Lavfi.AWTContext) (filterOracle : Oracle Lavfi.Surroundings Lavfi.AWTContext)
    (filterServed : Lawful exchange.servesLavfi ((Lavfi.awtLicense fuel decode).run filterOracle ⟨filter, []⟩).2.trace) :
    (InBounds ((awtLicense fuel decode).run oracle ⟨awt, []⟩).1 ↔ exchange.Fits decode) ∧
      (Lavfi.InBounds ((Lavfi.awtLicense fuel decode).run filterOracle ⟨filter, []⟩).1 ↔ exchange.Fits decode) := by
  rw [(license_ends enough served).1, (license_ends_lavfi enough filterServed).1, ← LicenseExchange.ending_fits_iff]
  exact exit_in_bounds _

/-- A page of 129 bytes instead of a license. -/
def longPage : LicenseExchange where
  request := some []
  opened := .ok
  allocated := true
  pieces := [⟨List.replicate 129 65, by simp, by simp⟩]
  ended := .eof
  info := ⟨0, 3600, 3600⟩

theorem long_page_overflows :
    let run := (awtLicense 130 1).run longPage.surroundings ⟨awtOpen 44100 1 1 1 0, []⟩
    Lawful longPage.serves run.2.trace ∧ ¬ InBounds run.1 := by
  unfold InBounds
  decide +kernel

theorem good_license_in_bounds :
    InBounds ((awtLicense 130 1).run Lavfi.goodLicense.surroundings ⟨awtOpen 44100 1 1 1 0, []⟩).1 :=
  (license_bounded_iff Lavfi.goodLicense 130 (by decide) 1 _ _ (by decide +kernel) Lavfi.unconfigured
    Lavfi.goodLicense.lavfiSurroundings (by decide +kernel)).1.mpr
    ⟨fun _ same => by cases same; decide +kernel, fun _ => by decide, fun _ _ => by decide⟩

/-- The answer is taken for a license only if it is one, and whatever is one is taken. -/
structure LicenseExchange.Clear (exchange : LicenseExchange) (decode : Int) : Prop where
  whole : exchange.Accepted decode → exchange.ended.val = 0 ∨ exchange.ended.val = AVERROR_EOF
  long : exchange.Accepted decode → AWT_DURATION ≤ exchange.info.licensedDurationSec.toNat
  url : exchange.Usable → ∀ licenseRequest, exchange.request = some licenseRequest →
    (licenseUrl decode licenseRequest).length + 1 ≤ 512
  memory : exchange.Usable → exchange.allocated

/-- The two `int` fields of the context can hold what the SDK reports. -/
structure LicenseExchange.Storable (exchange : LicenseExchange) : Prop where
  duration : exchange.info.licensedDurationSec.toNat < 2 ^ 31
  valid : exchange.info.validForSec.toNat < 2 ^ 31

/-- `awt_license` succeeds for the usable licenses, and what it keeps is what was
delivered and reported. -/
structure SucceedsExactly (exchange : LicenseExchange) (before : AWTContext) (exit : Exit Stop Int)
    (after : AWTContext) : Prop where
  success : exit = .done 0 ↔ exchange.Usable
  reported : exit = .done 0 → after.license = some exchange.body ∧
    after.licenseDuration = exchange.info.licensedDurationSec.toNat ∧
    after.licenseValid = exchange.info.validForSec.toNat
  kept : exit ≠ .done 0 → after.licenseDuration = before.licenseDuration ∧ after.licenseValid = before.licenseValid

/-- The filter has no fields for what is reported. -/
structure Lavfi.SucceedsExactly (exchange : LicenseExchange) (exit : Exit Lavfi.Stop Int)
    (after : Lavfi.AWTContext) : Prop where
  success : exit = .done 0 ↔ exchange.Usable
  stored : exit = .done 0 → after.license = some exchange.body

private theorem clear_iff (fits : exchange.body.length < 128) :
    exchange.Clear decode ↔ (exchange.Accepted decode ↔ exchange.Usable) := by
  constructor
  · intro clear
    constructor
    · intro accepted
      obtain ⟨licenseRequest, requested, _⟩ := accepted.url
      exact ⟨by rw [requested]; rfl, accepted.opened, clear.whole accepted, accepted.numeric, accepted.informed,
        clear.long accepted⟩
    · intro usable
      obtain ⟨licenseRequest, requested⟩ := Option.isSome_iff_exists.mp usable.requested
      exact ⟨⟨licenseRequest, requested, clear.url usable _ requested⟩, usable.opened, clear.memory usable,
        usable.numeric, fits, usable.informed⟩
  · intro same
    refine ⟨fun accepted => (same.mp accepted).whole, fun accepted => (same.mp accepted).long,
      fun usable licenseRequest requested => ?_, fun usable => (same.mpr usable).allocated⟩
    obtain ⟨other, found, short⟩ := (same.mpr usable).url
    rw [requested] at found
    cases found
    exact short

private theorem reported_kept_iff (reported : UInt32) : int32 reported.toNat = reported.toNat ↔ reported.toNat < 2 ^ 31 := by
  rw [int32_eq_iff]
  omega

/-- Both copies of `awt_license` succeed exactly for usable licenses if and only if the
exchange is a clear one; the detector also has to have room for what is reported. -/
theorem license_exact_iff (exchange : LicenseExchange) (fits : exchange.body.length < 128) (fuel : Nat)
    (enough : 129 < fuel) (decode : Int) (awt : AWTContext) (oracle : Oracle Surroundings AWTContext)
    (served : Lawful exchange.serves ((awtLicense fuel decode).run oracle ⟨awt, []⟩).2.trace)
    (filter : Lavfi.AWTContext) (filterOracle : Oracle Lavfi.Surroundings Lavfi.AWTContext)
    (filterServed : Lawful exchange.servesLavfi ((Lavfi.awtLicense fuel decode).run filterOracle ⟨filter, []⟩).2.trace) :
    let run := (awtLicense fuel decode).run oracle ⟨awt, []⟩
    let filterRun := (Lavfi.awtLicense fuel decode).run filterOracle ⟨filter, []⟩
    (SucceedsExactly exchange awt run.1 run.2.state ↔
      exchange.Clear decode ∧ (exchange.Accepted decode → exchange.Storable)) ∧
      (Lavfi.SucceedsExactly exchange filterRun.1 filterRun.2.state ↔ exchange.Clear decode) := by
  intro run filterRun
  obtain ⟨ends, leaves⟩ := license_ends enough served
  obtain ⟨filterEnds, filterLeaves⟩ := license_ends_lavfi enough filterServed
  have zero : run.1 = .done 0 ↔ exchange.Accepted decode := by
    rw [ends, (exit_zero _).1, LicenseExchange.ending_zero_iff]
  have filterZero : filterRun.1 = .done 0 ↔ exchange.Accepted decode := by
    rw [filterEnds, (exit_zero _).2, LicenseExchange.ending_zero_iff]
  constructor
  · constructor
    · intro exact
      have clear := (clear_iff fits).mpr (zero.symm.trans exact.success)
      refine ⟨clear, fun accepted => ?_⟩
      obtain ⟨-, duration, valid⟩ := exact.reported (zero.mpr accepted)
      obtain ⟨keptDuration, keptValid⟩ := leaves.reported accepted (clear.long accepted)
      exact ⟨(reported_kept_iff _).mp (keptDuration.symm.trans duration), (reported_kept_iff _).mp (keptValid.symm.trans valid)⟩
    · intro ⟨clear, storable⟩
      refine ⟨zero.trans ((clear_iff fits).mp clear), fun succeeded => ?_, fun failed => ?_⟩
      · have accepted := zero.mp succeeded
        obtain ⟨keptDuration, keptValid⟩ := leaves.reported accepted (clear.long accepted)
        refine ⟨leaves.stored accepted, ?_, ?_⟩
        · exact keptDuration.trans ((reported_kept_iff _).mpr (storable accepted).duration)
        · exact keptValid.trans ((reported_kept_iff _).mpr (storable accepted).valid)
      · exact leaves.kept (Or.inl (mt zero.mpr failed))
  · constructor
    · intro exact
      exact (clear_iff fits).mpr (filterZero.symm.trans exact.success)
    · intro clear
      exact ⟨filterZero.trans ((clear_iff fits).mp clear), fun succeeded => filterLeaves (filterZero.mp succeeded)⟩

/-- A license for three seconds, which the SDK reports no error for. -/
def shortLicense : LicenseExchange where
  request := some []
  opened := .ok
  allocated := true
  pieces := [⟨[49, 50], by decide, by decide⟩]
  ended := .eof
  info := ⟨0, 3600, 3⟩

theorem short_license_accepted :
    let run := (awtLicense 130 1).run shortLicense.surroundings ⟨awtOpen 44100 1 1 1 0, []⟩
    Lawful shortLicense.serves run.2.trace ∧ ¬ SucceedsExactly shortLicense (awtOpen 44100 1 1 1 0) run.1 run.2.state := by
  intro run
  refine ⟨by decide +kernel, fun exact => ?_⟩
  have usable : shortLicense.Usable := exact.success.mp (by decide +kernel)
  exact absurd usable.long (by decide)

theorem good_license_accepted :
    let run := (awtLicense 130 1).run Lavfi.goodLicense.surroundings ⟨awtOpen 44100 1 1 1 0, []⟩
    SucceedsExactly Lavfi.goodLicense (awtOpen 44100 1 1 1 0) run.1 run.2.state :=
  (license_exact_iff Lavfi.goodLicense (by decide) 130 (by decide) 1 _ _ (by decide +kernel) Lavfi.unconfigured
    Lavfi.goodLicense.lavfiSurroundings (by decide +kernel)).1.mpr
    ⟨⟨fun _ => Or.inr rfl, fun _ => by decide, fun _ _ same => by cases same; decide +kernel, fun _ => rfl⟩,
      fun _ => ⟨by decide, by decide⟩⟩

end run
end Awt
