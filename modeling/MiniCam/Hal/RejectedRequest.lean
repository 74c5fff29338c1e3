/- Module: MiniCam/Hal/RejectedRequest
   source: hal/camera_device_session.cpp, hal/in_flight_request_tracker.cpp
   digest: When the failure of one request leaves the requests in flight alone. -/

import MiniCam.Hal.TokenBijection

set_option autoImplicit false
set_option relaxedAutoImplicit false

namespace MiniCam.Hal.RejectedRequest

open MiniCam.Foundation.KeyedTable
open MiniCam.Foundation.Runs (Reaches always exists_reaches_of_replay)
open MiniCam.Hal.Interface
open MiniCam.Hal.InFlightRequestTracker
open MiniCam.Hal.CameraDeviceSession
open MiniCam.Hal.TrackerInvariant
open MiniCam.Hal.SessionSpec
open MiniCam.Hal.SessionSystem
open MiniCam.Hal.TokenBijection (reachable_tracked previewConfig twoOutputScript)

variable {δ π : Type}

def resolution (t : Tracker) (token : DriverToken) : Option (Nat × Int) :=
  (t.takeDriverOutputContext token).1.map fun resolved =>
    (resolved.frameNumber, resolved.outputIndex)

/-- Every row is still there unchanged, and every token bound to one of the rows
resolves as before. -/
def Undisturbed (before after : Tracker) : Prop :=
  (∀ f row, before.requests.lookup f = some row → after.requests.lookup f = some row) ∧
    ∀ τ c, before.driverOutputs.lookup τ = some c → 0 ≤ c.outputIndex →
      c.frameNumber ∈ before.requests → resolution after τ = resolution before τ

private theorem resolution_of_bound {t : Tracker} {next : Nat} (C : Consistent t next)
    {τ : DriverToken} {c : DriverOutputContext} (found : t.driverOutputs.lookup τ = some c)
    (nonnegative : 0 ≤ c.outputIndex) : resolution t τ = some (c.frameNumber, c.outputIndex) := by
  obtain ⟨row, output, -, -, -, -, taken⟩ := take_output C found nonnegative
  simp [resolution, taken]

private theorem undisturbed_dropFrame_iff {t : Tracker} {next : Nat} (C : Consistent t next)
    (frameNumber : Nat) : Undisturbed t (dropFrame t frameNumber) ↔ frameNumber ∉ t.requests := by
  constructor
  · rintro ⟨rows, -⟩ member
    obtain ⟨row, found⟩ := Option.isSome_iff_exists.mp (AList.lookup_isSome.mpr member)
    exact (lookup_dropFrame_rows.mp (rows frameNumber row found)).1 rfl
  · intro absent
    have other : ∀ f, f ∈ t.requests → f ≠ frameNumber := by
      rintro f member rfl
      exact absent member
    refine ⟨fun f row found => ?_, fun τ c found nonnegative live => ?_⟩
    · exact lookup_dropFrame_rows.mpr ⟨other f (mem_of_lookup found), found⟩
    · have kept := lookup_dropFrame_tokens.mpr ⟨found, other c.frameNumber live⟩
      rw [resolution_of_bound C found nonnegative,
        resolution_of_bound (dropFrame_consistent C frameNumber) kept nonnegative]

/-- For every reachable session and every request that an accepting session ends in a
failure result, the requests in flight are undisturbed exactly when none of them
has the frame number of the failing one. -/
theorem failure_undisturbed_iff (D : DriverAdapter δ)
    (processors : List (Option (OutputProcessor π))) (callbacks : Callbacks)
    (config : CameraDeviceSessionConfig) (driver : Option δ) (p : π) (s : System δ π)
    (run : Reaches (step D processors callbacks) always (System.initial config driver p) s)
    (accepting : rejectRequest s.session = false) (request : CaptureRequest) (now : Int)
    (result : CaptureResult)
    (failed : (submitCaptureRequest D now request s.session).1 = some result) :
    Undisturbed s.session.inFlight (submitCaptureRequest D now request s.session).2.inFlight ↔
      request.frameNumber ∉ s.session.inFlight.requests := by
  have consistent := (reachable_tracked D processors callbacks run).consistent
  have outcome := submitCaptureRequest_outcome D now request s.session
  rw [failed] at outcome
  have dropped : (submitCaptureRequest D now request s.session).2.inFlight =
      dropFrame s.session.inFlight request.frameNumber := by
    generalize (submitCaptureRequest D now request s.session).2 = after at outcome
    cases outcome with
    | rejected closed =>
      rw [accepting] at closed
      cases closed
    | refused driver streaming answer message => rfl
    | duplicate driver streaming answer live => rfl
    | failed driver streaming answer absent before stopped => rfl
  rw [dropped]
  exact undisturbed_dropFrame_iff consistent request.frameNumber

section Runs

open MiniCam.Hal.MockDriverAdapter (MockDriver adapter)

def selective : DriverAdapter MockDriver :=
  { adapter with
    canSubmitCaptureOutputs := fun outputs m => (outputs.all fun o => o.bufferId ≠ 9, m) }

theorem failure_undisturbed_iff_other_frame :
    ∃ s : System MockDriver Unit,
      Reaches (step selective [] ⟨true, false⟩) always
        (System.initial previewConfig (some {}) ()) s ∧
      s.session.inFlight.requests.keys = [7] ∧
      Undisturbed s.session.inFlight (submitCaptureRequest selective 5
        { frameNumber := 8, outputBuffers := [{ bufferId := 9 }] } s.session).2.inFlight := by
  obtain ⟨s, run, passed⟩ := exists_reaches_of_replay (step selective [] ⟨true, false⟩) always
    (System.initial previewConfig (some ({} : MockDriver)) ()) twoOutputScript
    (fun s => s.session.inFlight.requests.keys == [7] && !rejectRequest s.session &&
      (submitCaptureRequest selective 5 { frameNumber := 8, outputBuffers := [{ bufferId := 9 }] }
        s.session).1.isSome) (by decide +kernel)
  simp only [Bool.and_eq_true, beq_iff_eq, Bool.not_eq_true', Option.isSome_iff_exists] at passed
  obtain ⟨⟨keys, accepting⟩, result, failed⟩ := passed
  refine ⟨s, run, keys, ?_⟩
  refine (failure_undisturbed_iff selective [] ⟨true, false⟩ previewConfig (some {}) () s run
    accepting _ 5 result failed).mpr ?_
  rw [AList.mem_keys, keys]
  decide

/-- A second request with the number of a frame in flight takes that frame's row away. -/
theorem duplicate_disturbs :
    ∃ (s : System MockDriver Unit) (result : CaptureResult),
      Reaches (step adapter [] ⟨true, false⟩) always
        (System.initial previewConfig (some {}) ()) s ∧
      rejectRequest s.session = false ∧
      (submitCaptureRequest adapter 5
        { frameNumber := 7, outputBuffers := [{ bufferId := 3 }] } s.session).1 = some result ∧
      ¬ Undisturbed s.session.inFlight (submitCaptureRequest adapter 5
        { frameNumber := 7, outputBuffers := [{ bufferId := 3 }] } s.session).2.inFlight := by
  obtain ⟨s, run, passed⟩ := exists_reaches_of_replay (step adapter [] ⟨true, false⟩) always
    (System.initial previewConfig (some ({} : MockDriver)) ()) twoOutputScript
    (fun s => (s.session.inFlight.requests.lookup 7).isSome && !rejectRequest s.session &&
      (submitCaptureRequest adapter 5 { frameNumber := 7, outputBuffers := [{ bufferId := 3 }] }
        s.session).1.isSome &&
      ((submitCaptureRequest adapter 5 { frameNumber := 7, outputBuffers := [{ bufferId := 3 }] }
        s.session).2.inFlight.requests.lookup 7).isNone) (by decide +kernel)
  simp only [Bool.and_eq_true, Bool.not_eq_true', Option.isSome_iff_exists,
    Option.isNone_iff_eq_none] at passed
  obtain ⟨⟨⟨⟨row, live⟩, accepting⟩, result, failed⟩, gone⟩ := passed
  refine ⟨s, result, run, accepting, failed, ?_⟩
  rintro ⟨rows, -⟩
  rw [rows 7 row live] at gone
  cases gone

end Runs

end MiniCam.Hal.RejectedRequest
