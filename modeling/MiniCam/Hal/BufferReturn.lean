/- Module: MiniCam/Hal/BufferReturn
   source: hal/camera_device_session.cpp
   digest: When a result lists the buffers of the request it answers. -/

import MiniCam.Hal.MockDriverAdapter
import MiniCam.Hal.ResultIdentity
import MiniCam.Hal.ResultOrigins

set_option autoImplicit false
set_option relaxedAutoImplicit false

namespace MiniCam.Hal.BufferReturn

open MiniCam.Foundation.Runs
open MiniCam.Hal.Interface
open MiniCam.Hal.InFlightRequestTracker
open MiniCam.Hal.CameraDeviceSession
open MiniCam.Hal.TrackerInvariant
open MiniCam.Hal.SessionSpec
open MiniCam.Hal.SessionSystem
open MiniCam.Hal.TokenBijection (Tracked step_tracked initial_tracked)
open MiniCam.Hal.ResultIdentity (Named step_named)
open MiniCam.Hal.ResultOrigins

variable {δ π : Type}

/-- The result lists the buffers of the request, each under its place, and no others. -/
def HandsBack (request : CaptureRequest) (result : CaptureResult) : Prop :=
  request.outputBuffers ≠ [] → listed result = requestEntries request

/-- The task of a request that brings buffers runs while the session accepts requests, and
a row that carries its frame number, if there is one, has the same buffers. -/
def OwnBuffersAnswered (s : System δ π) : Label → Prop
  | .runTask k _ => ∀ task ∈ s.tasks[k]?, task.2.outputBuffers ≠ [] →
      rejectRequest s.session = false ∧
        ∀ row ∈ s.session.inFlight.requests.lookup task.2.frameNumber,
          outputEntries row.outputBuffers = requestEntries task.2
  | _ => True

instance ownBuffersAnsweredDecidable (s : System δ π) :
    (a : Label) → Decidable (OwnBuffersAnswered s a)
  | .runTask k _ => inferInstanceAs (Decidable (∀ task ∈ s.tasks[k]?,
      task.2.outputBuffers ≠ [] → rejectRequest s.session = false ∧
        ∀ row ∈ s.session.inFlight.requests.lookup task.2.frameNumber,
          outputEntries row.outputBuffers = requestEntries task.2))
  | .streamCallback _ _ | .post _ _ | .configureStreams _ | .startStreaming | .processRequest _
  | .dequeue _ | .process _ _ | .dispatch _ | .returnStream _ | .flush _ | .close _ =>
    .isTrue trivial

section Step

variable {D : DriverAdapter δ}

theorem submitted_handsBack {now : Int} {request : CaptureRequest} {s s' : Session δ}
    {result : CaptureResult} (outcome : SubmitOutcome D now request s (some result) s')
    (supplied : request.outputBuffers ≠ []) :
    listed result = requestEntries request ↔ rejectRequest s = false ∧
      ∀ row ∈ s.inFlight.requests.lookup request.frameNumber,
        outputEntries row.outputBuffers = requestEntries request := by
  have own := makeInFlightOutputs_entries request supplied
  have accepting : ∀ {d : δ}, s.driver = some d → s.state = .streaming →
      rejectRequest s = false := by
    intro d driver streaming
    simp [rejectRequest, driver, streaming]
  have answered : ∀ {d : δ} (status : CaptureStatus) (message : String), s.driver = some d →
      s.state = .streaming →
        (listed (failedResult (s.inFlight.requests.lookup request.frameNumber)
            request.frameNumber status message
            (completedBuffersFor (makeInFlightOutputs (requestOutputsFor request))
              .processingError) request.submittedAt now) = requestEntries request ↔
          rejectRequest s = false ∧
            ∀ row ∈ s.inFlight.requests.lookup request.frameNumber,
              outputEntries row.outputBuffers = requestEntries request) := by
    intro d status message driver streaming
    rw [failedResult_listed]
    cases s.inFlight.requests.lookup request.frameNumber with
    | none => simp [own, accepting driver streaming]
    | some row => simp [accepting driver streaming]
  cases outcome with
  | rejected closed =>
    have some_entry : requestEntries request ≠ [] := by
      simpa [requestEntries] using supplied
    simp [listed, makeResult, closed, Ne.symm some_entry]
  | refused driver streaming answer message => exact answered _ _ driver streaming
  | duplicate driver streaming answer live =>
    have whole := answered .processingError "duplicate frame number" driver streaming
    rw [live] at whole ⊢
    exact whole
  | @failed d d' d'' t t' driver streaming answer absent before stopped =>
    rw [AList.lookup_eq_none.mpr absent]
    have entries : listed (failedResult (some (queuedRow request)) request.frameNumber
        .sensorError (D.lastError d'') [] now now) = requestEntries request := by
      simp [listed, failedResult, makeResult, completedBuffersFor_entries, queuedRow, own]
    simp [entries, accepting driver streaming]

end Step

section Runs

variable {D : DriverAdapter δ} {s t : System δ π}

structure Answered (s : System δ π) : Prop where
  rows : ∀ f row, s.session.inFlight.requests.lookup f = some row →
    ∃ request, s.accepted[s.owner f]? = some request ∧
      (request.outputBuffers ≠ [] → outputEntries row.outputBuffers = requestEntries request)
  prepared : ∀ id result, (id, result) ∈ s.prepared →
    ∃ request, s.accepted[id]? = some request ∧ HandsBack request result
  sent : ∀ id result, (Use.capture id, result) ∈ s.dispatched →
    ∃ request, s.accepted[id]? = some request ∧ HandsBack request result

theorem step_answered {a : Label} (A : Answered s) (N : Named s) (O : Origins D s a t)
    (own : OwnBuffersAnswered s a) : Answered t := by
  refine ⟨fun f row live => ?_, fun id result member => ?_, fun id result member => ?_⟩
  · cases O.rows f row live with
    | kept before owner entries =>
      obtain ⟨request, named, same⟩ := A.rows f _ before
      exact ⟨request, owner ▸ O.named named, fun supplied => entries.trans (same supplied)⟩
    | task label at_task owner entries =>
      have named := N.tasks _ (List.mem_of_getElem? at_task)
      refine ⟨_, owner ▸ O.named named, fun supplied => ?_⟩
      rw [entries]
      exact makeInFlightOutputs_entries _ supplied
  · cases O.results id result member with
    | kept before =>
      obtain ⟨request, named, back⟩ := A.prepared id result before
      exact ⟨request, O.named named, back⟩
    | task label at_task outcome =>
      subst label
      have named := N.tasks _ (List.mem_of_getElem? at_task)
      refine ⟨_, O.named named, fun supplied => ?_⟩
      exact (submitted_handsBack outcome supplied).mpr (own _ at_task supplied)
    | row live owner entries =>
      obtain ⟨request, named, same⟩ := A.rows _ _ live
      exact ⟨request, owner ▸ O.named named, fun supplied => entries.trans (same supplied)⟩
  · rcases O.sent id result member with before | prepared
    · obtain ⟨request, named, back⟩ := A.sent id result before
      exact ⟨request, O.named named, back⟩
    · obtain ⟨request, named, back⟩ := A.prepared id result prepared
      exact ⟨request, O.named named, back⟩

/-- Every dispatched result lists the buffers of the accepted request it is for. -/
theorem results_hand_back_buffers (D : DriverAdapter δ)
    (processors : List (Option (OutputProcessor π))) (callbacks : Callbacks)
    (config : CameraDeviceSessionConfig) (driver : Option δ) (p : π) {s : System δ π}
    (run : Reaches (step D processors callbacks) OwnBuffersAnswered
      (System.initial config driver p) s) :
    ∀ id result, (Use.capture id, result) ∈ s.dispatched →
      ∃ request, s.accepted[id]? = some request ∧ HandsBack request result := by
  have invariant : Tracked s ∧ Named s ∧ Answered s := by
    refine Reaches.invariant (fun s => Tracked s ∧ Named s ∧ Answered s) ?_ run ?_
    · rintro s a t ⟨T, N, A⟩ own taken
      exact ⟨step_tracked D processors callbacks T taken, step_named T N taken,
        step_answered A N (step_origins T taken) own⟩
    · refine ⟨initial_tracked config driver p, ?_, ?_⟩
      · constructor <;> simp [System.initial]
      · constructor <;> simp [System.initial, Session.create, Tracker.empty]
  exact invariant.2.2.sent

end Runs

section Witness

open MiniCam.Hal.MockDriverAdapter (MockDriver adapter)

/-- Frame 7 completes with both its buffers, frame 8 is flushed. -/
private def twoFrames : List Label :=
  [.configureStreams true, .startStreaming,
   .processRequest { frameNumber := 7, outputBuffers :=
     [{ streamId := 1, bufferId := 11 }, { streamId := 2, bufferId := 12 }] },
   .processRequest { frameNumber := 8, outputBuffers := [{ streamId := 1, bufferId := 13 }] },
   .post 0 true, .post 0 true, .runTask 0 1, .runTask 0 1, .dequeue 5, .process 0 2, .dequeue 5,
   .process 0 2, .flush 3, .dispatch 0, .dispatch 0]

theorem results_hand_back_buffers_flushed :
    ∃ s : System MockDriver Unit,
      s.dispatched.map (fun entry => (entry.1, listed entry.2)) =
        [(.capture 0, [(1, 11, 0), (2, 12, 1)]), (.capture 1, [(1, 13, 0)])] ∧
      ∀ id result, (Use.capture id, result) ∈ s.dispatched →
        ∃ request, s.accepted[id]? = some request ∧ HandsBack request result := by
  obtain ⟨s, run, passed⟩ := exists_reaches_of_replay (step adapter [] ⟨true, false⟩)
    OwnBuffersAnswered (System.initial {} (some ({} : MockDriver)) ()) twoFrames
    (fun s => s.dispatched.map (fun entry => (entry.1, listed entry.2)) ==
      [(.capture 0, [(1, 11, 0), (2, 12, 1)]), (.capture 1, [(1, 13, 0)])]) (by decide +kernel)
  exact ⟨s, by simpa using passed,
    results_hand_back_buffers adapter [] ⟨true, false⟩ {} (some {}) () run⟩

/-- A second request under frame 7 is answered with the buffers of the first, and one
whose task runs after a flush with none. -/
private def foreignBuffers : List Label :=
  [.configureStreams true, .startStreaming,
   .processRequest { frameNumber := 7, outputBuffers := [{ bufferId := 11 }] },
   .processRequest { frameNumber := 7, outputBuffers := [{ bufferId := 12 }] },
   .processRequest { frameNumber := 8, outputBuffers := [{ bufferId := 13 }] },
   .post 0 true, .post 0 true, .post 0 true, .runTask 0 1, .runTask 0 1, .flush 2, .runTask 0 3,
   .dispatch 0, .dispatch 0]

theorem results_list_foreign_or_no_buffers :
    ∃ s : System MockDriver Unit,
      Reaches (step adapter [] ⟨true, false⟩) always (System.initial {} (some {}) ()) s ∧
      s.accepted.map requestEntries = [[(0, 11, 0)], [(0, 12, 0)], [(0, 13, 0)]] ∧
      s.dispatched.map (fun entry => (entry.1, listed entry.2)) =
        [(.capture 1, [(0, 11, 0)]), (.capture 2, [])] ∧
      ¬ ∀ id result, (Use.capture id, result) ∈ s.dispatched →
        ∃ request, s.accepted[id]? = some request ∧ HandsBack request result := by
  obtain ⟨s, run, passed⟩ := exists_reaches_of_replay (step adapter [] ⟨true, false⟩) always
    (System.initial {} (some ({} : MockDriver)) ()) foreignBuffers
    (fun s => s.accepted.map requestEntries == [[(0, 11, 0)], [(0, 12, 0)], [(0, 13, 0)]] &&
      s.dispatched.map (fun entry => (entry.1, listed entry.2)) ==
        [(.capture 1, [(0, 11, 0)]), (.capture 2, [])]) (by decide +kernel)
  simp only [Bool.and_eq_true, beq_iff_eq] at passed
  obtain ⟨brought, sent⟩ := passed
  refine ⟨s, run, brought, sent, fun all => ?_⟩
  have last : (s.dispatched.map fun entry => (entry.1, listed entry.2))[1]? =
      some (.capture 2, []) := by
    rw [sent]
    rfl
  rw [List.getElem?_map] at last
  obtain ⟨⟨use, result⟩, at_last, same⟩ := Option.map_eq_some_iff.mp last
  obtain ⟨rfl, none_listed⟩ := Prod.mk.inj same
  obtain ⟨request, named, back⟩ := all 2 result (List.mem_of_getElem? at_last)
  have entries : requestEntries request = [(0, 13, 0)] := by
    have third : (s.accepted.map requestEntries)[2]? = some [(0, 13, 0)] := by
      rw [brought]
      rfl
    rw [List.getElem?_map, named] at third
    exact Option.some.inj third
  have supplied : request.outputBuffers ≠ [] := by
    intro empty
    simp [requestEntries, empty] at entries
  have wrong := (back supplied).symm.trans none_listed
  rw [entries] at wrong
  cases wrong

end Witness

end MiniCam.Hal.BufferReturn
