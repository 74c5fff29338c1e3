/- Module: MiniCam/Hal/ResultOrigins
   source: hal/camera_device_session.cpp, hal/in_flight_request_tracker.cpp
   digest: Where a step takes its results and its rows from, and which buffers they list. -/

import MiniCam.Hal.TokenBijection

set_option autoImplicit false
set_option relaxedAutoImplicit false

namespace MiniCam.Hal.ResultOrigins

open MiniCam.Foundation.KeyedTable
open MiniCam.Hal.Interface
open MiniCam.Hal.InFlightRequestTracker
open MiniCam.Hal.CameraDeviceSession
open MiniCam.Hal.TrackerInvariant
open MiniCam.Hal.SessionSpec
open MiniCam.Hal.SessionSystem
open MiniCam.Hal.TokenBijection (Tracked)

variable {δ π : Type}

section Entries

def listed (result : CaptureResult) : List (Int × Int × Int) :=
  result.completedOutputBuffers.map fun entry => (entry.streamId, entry.bufferId, entry.outputIndex)

def outputEntries (outputs : List InFlightOutput) : List (Int × Int × Int) :=
  outputs.map fun output => (output.target.streamId, output.target.bufferId, output.outputIndex)

def requestEntries (request : CaptureRequest) : List (Int × Int × Int) :=
  request.outputBuffers.zipIdx.map fun (output, i) =>
    (output.streamId, output.bufferId, (i : Int))

theorem completedBuffersFor_entries (outputs : List InFlightOutput) (status : CaptureStatus) :
    (completedBuffersFor outputs status).map
        (fun entry => (entry.streamId, entry.bufferId, entry.outputIndex)) =
      outputEntries outputs := by
  simp [completedBuffersFor, completedBuffer, outputEntries]

theorem outputEntries_mark (outputs : List InFlightOutput) (index fence : Int) :
    outputEntries (outputs.map (Tracker.markOutput index fence)) = outputEntries outputs := by
  simp only [outputEntries, List.map_map]
  apply List.map_congr_left
  intro output member
  simp only [Function.comp, Tracker.markOutput]
  split <;> rfl

theorem makeInFlightOutputs_entries (request : CaptureRequest)
    (supplied : request.outputBuffers ≠ []) :
    outputEntries (makeInFlightOutputs (requestOutputsFor request)) = requestEntries request := by
  simp only [requestOutputsFor, if_pos supplied, makeInFlightOutputs, outputEntries,
    requestEntries, List.map_map]
  rfl

theorem failedResult_listed (row : Option InFlightRequest) (frameNumber : Nat)
    (status : CaptureStatus) (message : String) (outputs : List InFlightOutput)
    (fallbackStatus : CaptureStatus) (submittedAt now : Int) :
    listed (failedResult row frameNumber status message
        (completedBuffersFor outputs fallbackStatus) submittedAt now) =
      outputEntries ((row.map (·.outputBuffers)).getD outputs) := by
  cases row <;> simp [listed, failedResult, makeResult, completedBuffersFor_entries]

end Entries

section Origins

/-- Where a prepared result comes from: it was there, its own task ended with it, or the
row of a frame did, with the buffers of that row. -/
inductive ResultOrigin (D : DriverAdapter δ) (s : System δ π) (a : Label) (t : System δ π)
    (id : Nat) (result : CaptureResult) : Prop where
  | kept (before : (id, result) ∈ s.prepared)
  | task {k : Nat} {now : Int} {request : CaptureRequest} (label : a = .runTask k now)
    (at_task : s.tasks[k]? = some (id, request))
    (outcome : SubmitOutcome D now request s.session (some result) t.session)
  | row {f : Nat} {row : InFlightRequest}
    (live : s.session.inFlight.requests.lookup f = some row) (owner : id = s.owner f)
    (entries : listed result = outputEntries row.outputBuffers)

/-- Where a row comes from: it was there under its owner, perhaps with fewer marks, or the
task of a request made it. -/
inductive RowOrigin (s : System δ π) (a : Label) (t : System δ π) (f : Nat)
    (row : InFlightRequest) : Prop where
  | kept {before : InFlightRequest} (live : s.session.inFlight.requests.lookup f = some before)
    (owner : t.owner f = s.owner f)
    (entries : outputEntries row.outputBuffers = outputEntries before.outputBuffers)
  | task {k : Nat} {now : Int} {id : Nat} {request : CaptureRequest} (label : a = .runTask k now)
    (at_task : s.tasks[k]? = some (id, request)) (owner : t.owner f = id)
    (entries : row = queuedRow request)

structure Origins (D : DriverAdapter δ) (s : System δ π) (a : Label) (t : System δ π) : Prop where
  results : ∀ id result, (id, result) ∈ t.prepared → ResultOrigin D s a t id result
  rows : ∀ f row, t.session.inFlight.requests.lookup f = some row → RowOrigin s a t f row
  sent : ∀ id result, (Use.capture id, result) ∈ t.dispatched →
    (Use.capture id, result) ∈ s.dispatched ∨ (id, result) ∈ s.prepared
  handled : t.submissions = s.submissions ∨ ∃ k now id request, a = .runTask k now ∧
    s.tasks[k]? = some (id, request) ∧
    t.submissions = s.submissions ++ [(id, s.session.driver, t.session.driver)]
  accepted : s.accepted <+: t.accepted

variable {D : DriverAdapter δ} {s t : System δ π}

theorem Origins.named {a : Label} (O : Origins D s a t) {id : Nat} {request : CaptureRequest}
    (found : s.accepted[id]? = some request) : t.accepted[id]? = some request := by
  obtain ⟨more, grown⟩ := O.accepted
  rw [← grown, List.getElem?_append_left (List.getElem?_eq_some_iff.mp found).1]
  exact found

private theorem Origins.of_same {a : Label}
    (rows : t.session.inFlight.requests = s.session.inFlight.requests)
    (prepared : t.prepared = s.prepared)
    (sent : ∀ id result, (Use.capture id, result) ∈ t.dispatched →
      (Use.capture id, result) ∈ s.dispatched) (owner : t.owner = s.owner)
    (submissions : t.submissions = s.submissions) (accepted : s.accepted <+: t.accepted) :
    Origins D s a t where
  results := fun id result member => ResultOrigin.kept (prepared ▸ member)
  rows := fun f row live => RowOrigin.kept (rows ▸ live) (by rw [owner]) rfl
  sent := fun id result member => Or.inl (sent id result member)
  handled := Or.inl submissions
  accepted := accepted

private theorem runTask_origins {k : Nat} {now : Int} (taken : runTaskStep D k now s = some t) :
    Origins D s (.runTask k now) t := by
  obtain ⟨id, request, at_task, ended⟩ := runTaskStep_outcome D taken
  rcases ended with ⟨result, session, outcome, rfl⟩ | ⟨session, outcome, rfl⟩
  · refine ⟨fun id' result' member => ?_, fun f row live => ?_, fun _ _ => Or.inl,
      Or.inr ⟨k, now, id, request, rfl, at_task, rfl⟩, List.prefix_refl _⟩
    · rcases List.mem_append.mp member with before | here
      · exact ResultOrigin.kept before
      · obtain ⟨rfl, rfl⟩ := Prod.mk.inj (List.mem_singleton.mp here)
        exact ResultOrigin.task rfl at_task outcome
    · exact RowOrigin.kept (failed_submit_rows outcome live) rfl rfl
  · refine ⟨fun id' result' member => ResultOrigin.kept member, fun f row live => ?_,
      fun _ _ => Or.inl, Or.inr ⟨k, now, id, request, rfl, at_task, rfl⟩, List.prefix_refl _⟩
    cases outcome with
    | submitted driver streaming answer before finished after bound =>
      simp only [bound.rows] at live
      rcases lookup_insert_eq_some.mp live with ⟨rfl, rfl⟩ | ⟨other, old⟩
      · exact RowOrigin.task rfl at_task (Function.update_self _ _ _) rfl
      · exact RowOrigin.kept old (Function.update_of_ne other _ _) rfl

private theorem process_origins {processors : List (Option (OutputProcessor π))} (T : Tracked s)
    {k : Nat} {now : Int} (taken : processStep processors k now s = some t) :
    Origins D s (.process k now) t := by
  obtain ⟨completion, filled, p, session, -, outcome, rfl⟩ :=
    processStep_outcome T.consistent taken
  cases outcome with
  | unknown unbound =>
    exact Origins.of_same rfl rfl (fun _ _ => id) rfl rfl (List.prefix_refl _)
  | preview bound negative row processed =>
    exact Origins.of_same rfl rfl (fun _ _ => id) rfl rfl (List.prefix_refl _)
  | waiting bound live member index still processed pending =>
    refine ⟨fun id result before => ResultOrigin.kept before, fun f row found => ?_,
      fun _ _ => Or.inl, Or.inl rfl, List.prefix_refl _⟩
    rcases lookup_insert_eq_some.mp found with ⟨rfl, rfl⟩ | ⟨-, old⟩
    · exact RowOrigin.kept live rfl (outputEntries_mark _ _ _)
    · exact RowOrigin.kept old rfl rfl
  | @complete c row output fence p' bound live member index still processed finished =>
    refine ⟨fun id result listed_here => ?_, fun f row found => ?_, fun _ _ => Or.inl,
      Or.inl rfl, List.prefix_refl _⟩
    · rcases List.mem_append.mp listed_here with before | here
      · exact ResultOrigin.kept before
      · obtain ⟨rfl, rfl⟩ := Prod.mk.inj (List.mem_singleton.mp here)
        have frame : row.frameNumber = c.frameNumber := (T.consistent.rows _ _ live).key
        refine ResultOrigin.row live ?_ ?_
        · simp only [captureResultFromOutputCompletion, markedRow, frame]
        · simp only [listed, captureResultFromOutputCompletion, completedBuffersFor_entries,
            markedRow, outputEntries_mark]
    · exact RowOrigin.kept (lookup_erase_eq_some.mp found).2 rfl rfl

private theorem flushed_origins {a : Label} (T : Tracked s) (message : String) (now : Int)
    (session : Session δ) (empty : session.inFlight = Tracker.empty) :
    Origins D s a (withResults s (flushResults message now s.session, session)) := by
  refine ⟨fun id result member => ?_, fun f row live => ?_, fun _ _ => Or.inl, Or.inl rfl,
    List.prefix_refl _⟩
  · rcases List.mem_append.mp member with before | here
    · exact ResultOrigin.kept before
    · obtain ⟨result', flushed, same⟩ := List.mem_map.mp here
      obtain ⟨rfl, rfl⟩ := Prod.mk.inj same
      simp only [flushResults, flushedResults, Tracker.flushAll, List.mem_map] at flushed
      obtain ⟨row, ⟨entry, inside, rfl⟩, rfl⟩ := flushed
      have live := lookup_eq_some_iff.mpr inside
      refine ResultOrigin.row live ?_ ?_
      · simp only [makeResult, (T.consistent.rows _ _ live).key]
      · simp only [listed, makeResult, completedBuffersFor_entries]
  · simp [withResults, empty, Tracker.empty] at live

theorem step_origins {processors : List (Option (OutputProcessor π))} {callbacks : Callbacks}
    {a : Label} (T : Tracked s) (taken : step D processors callbacks s a = some t) :
    Origins D s a t := by
  have passive : Passive a → Origins D s a t := by
    intro label
    have frame := step_frame D label taken
    exact Origins.of_same frame.rows frame.prepared (fun _ _ member => frame.dispatched ▸ member)
      frame.owner frame.submissions (frame.accepted ▸ List.prefix_refl _)
  cases a with
  | configureStreams registered => exact passive trivial
  | startStreaming => exact passive trivial
  | processRequest request => exact passive trivial
  | post k accepted =>
    rcases postStep_outcome taken with ⟨-, rfl⟩ | ⟨request, -, -, rfl⟩
    · exact Origins.of_same rfl rfl (fun _ _ => id) rfl rfl (List.prefix_refl _)
    · exact Origins.of_same rfl rfl (fun _ _ => id) rfl rfl (List.prefix_append _ _)
  | runTask k now => exact runTask_origins taken
  | dequeue readyFd => exact passive trivial
  | process k now => exact process_origins T taken
  | dispatch k =>
    simp only [step, dispatchStep] at taken
    split at taken <;> cases taken
    rename_i id result at_result
    refine ⟨fun _ _ member => ResultOrigin.kept (List.mem_of_mem_eraseIdx member),
      fun f row live => RowOrigin.kept live rfl rfl, fun id' result' member => ?_, Or.inl rfl,
      List.prefix_refl _⟩
    simp only at member
    split at member
    · rcases List.mem_append.mp member with before | here
      · exact Or.inl before
      · cases List.mem_singleton.mp here
        exact Or.inr (List.mem_of_getElem? at_result)
    · exact Or.inl member
  | streamCallback k lease =>
    simp only [step, streamCallbackStep] at taken
    split at taken <;> cases taken
    refine Origins.of_same rfl rfl (fun id result member => ?_) rfl rfl (List.prefix_refl _)
    simp only at member
    split at member
    · rcases List.mem_append.mp member with before | here
      · exact before
      · cases List.mem_singleton.mp here
    · exact member
  | returnStream k => exact passive trivial
  | flush now =>
    cases taken
    by_cases active : s.session.state = .streaming ∨ s.session.state = .configured
    · rw [flush_active D now active]
      exact flushed_origins T _ now _ rfl
    · rw [flush_inactive D now active]
      exact Origins.of_same rfl (by simp [withResults]) (fun _ _ => id) rfl rfl
        (List.prefix_refl _)
  | close now =>
    cases taken
    by_cases stopped : s.session.state = .stopped
    · rw [close_stopped D now stopped]
      exact Origins.of_same rfl (by simp [withResults]) (fun _ _ => id) rfl rfl
        (List.prefix_refl _)
    · rw [close_open D now stopped]
      exact flushed_origins T _ now _ rfl

end Origins

end MiniCam.Hal.ResultOrigins
