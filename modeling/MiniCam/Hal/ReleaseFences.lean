/- Module: MiniCam/Hal/ReleaseFences
   source: hal/camera_device_session.cpp, hal/in_flight_request_tracker.cpp
   digest: Every fence the processors make is in a row, in a result, or delivered, once. -/

import MiniCam.Hal.MockDriverAdapter
import MiniCam.Hal.ResultAccounting

set_option autoImplicit false
set_option relaxedAutoImplicit false

namespace MiniCam.Hal.ReleaseFences

open MiniCam.Foundation.KeyedTable
open MiniCam.Foundation.Runs
open MiniCam.Hal.Interface
open MiniCam.Hal.InFlightRequestTracker
open MiniCam.Hal.CameraDeviceSession
open MiniCam.Hal.TrackerInvariant
open MiniCam.Hal.SessionSpec
open MiniCam.Hal.SessionSystem
open MiniCam.Hal.TokenBijection (Tracked step_tracked initial_tracked)
open MiniCam.Hal.ResultAccounting (perm_take)

variable {δ π : Type}

section Processors

/-- The calls of `process_output` for one completion: the fence each processor is given
and the fence it returns. -/
def processorCalls (resolved : ResolvedDriverOutput) :
    List (Option (OutputProcessor π)) → Int → π → List (Int × Int)
  | [], _, _ => []
  | none :: rest, fence, p => processorCalls resolved rest fence p
  | some process :: rest, fence, p =>
    match process (processRequestFor resolved fence) p with
    | (fence', p') => (fence, fence') :: processorCalls resolved rest fence' p'

/-- What the processors are given and the fence that comes out, against the fence that
goes in and what they return: each fence goes to the next processor, the last one out. -/
theorem processorCalls_chain (resolved : ResolvedDriverOutput)
    (processors : List (Option (OutputProcessor π))) (fence : Int) (p : π) :
    (processorCalls resolved processors fence p).map Prod.fst ++
        [(runProcessors resolved processors fence p).1] =
      fence :: (processorCalls resolved processors fence p).map Prod.snd := by
  induction processors generalizing fence p with
  | nil => rfl
  | cons processor rest ih =>
    cases processor with
    | none => exact ih fence p
    | some process =>
      simp only [processorCalls, runProcessors, List.map_cons, List.cons_append]
      rw [ih]

theorem processorCalls_length (resolved : ResolvedDriverOutput)
    (processors : List (Option (OutputProcessor π))) (fence : Int) (p : π) :
    (processorCalls resolved processors fence p).length =
      (processors.filterMap id).length := by
  induction processors generalizing fence p with
  | nil => rfl
  | cons processor rest ih =>
    cases processor with
    | none => simpa [processorCalls] using ih fence p
    | some process => simpa [processorCalls] using ih _ _

end Processors

section Places

def fences (fds : List Int) : List Int := fds.filter fun fd => 0 ≤ fd

def resultFences (result : CaptureResult) : List Int :=
  fences (result.completedOutputBuffers.map (·.releaseFenceFd))

def rowFences (row : InFlightRequest) : List Int :=
  fences (row.outputBuffers.map (·.releaseFenceFd))

def trackedFences (t : Tracker) : List Int := (values t.requests).flatMap rowFences

/-- The fences that the session still has: in rows, in prepared results, and in previews
on their way to their callback. -/
def heldFences (s : System δ π) : List Int :=
  trackedFences s.session.inFlight ++ s.prepared.flatMap (fun entry => resultFences entry.2) ++
    s.callbacks.flatMap fun handler => resultFences handler.result

def deliveredFences (s : System δ π) : List Int :=
  s.dispatched.flatMap fun entry => resultFences entry.2

/-- The fence that the last processor returns when a step handles a completion. -/
def producedFences (processors : List (Option (OutputProcessor π))) (s : System δ π) :
    Label → List Int
  | .process k _ =>
    match s.dequeued[k]? with
    | none => []
    | some completion =>
      match (s.session.inFlight.takeDriverOutputContext completion.token).1 with
      | none => []
      | some resolved => fences [(runProcessors resolved processors (-1) s.processorState).1]
  | _ => []

@[simp]
theorem fences_nil : fences [] = [] := rfl

theorem fences_cons (fd : Int) (fds : List Int) : fences (fd :: fds) = fences [fd] ++ fences fds :=
  List.filter_append [fd] fds

theorem completedBuffersFor_fences (outputs : List InFlightOutput) (status : CaptureStatus) :
    (completedBuffersFor outputs status).map (·.releaseFenceFd) =
      outputs.map (·.releaseFenceFd) := by
  simp [completedBuffersFor, completedBuffer]

theorem makeInFlightOutputs_blank {outputs : List OutputBufferTarget} {output : InFlightOutput}
    (member : output ∈ makeInFlightOutputs outputs) : output.releaseFenceFd < 0 := by
  obtain ⟨k, found⟩ := List.getElem?_of_mem member
  rw [makeInFlightOutputs_getElem?] at found
  obtain ⟨target, -, rfl⟩ := Option.map_eq_some_iff.mp found
  simp

theorem makeInFlightOutputs_fences (outputs : List OutputBufferTarget) :
    fences ((makeInFlightOutputs outputs).map (·.releaseFenceFd)) = [] := by
  simp only [fences, List.filter_eq_nil_iff, List.mem_map]
  rintro fd ⟨output, member, rfl⟩
  simpa using makeInFlightOutputs_blank member

theorem queuedRow_fences (request : CaptureRequest) : rowFences (queuedRow request) = [] :=
  makeInFlightOutputs_fences _

theorem failedResult_fences (row : Option InFlightRequest) (frameNumber : Nat)
    (status : CaptureStatus) (message : String) {fallbackBuffers : List CompletedOutputBuffer}
    (plain : fences (fallbackBuffers.map (·.releaseFenceFd)) = []) (submittedAt now : Int) :
    resultFences
        (failedResult row frameNumber status message fallbackBuffers submittedAt now) =
      row.toList.flatMap rowFences := by
  cases row with
  | none => simpa [resultFences, failedResult, makeResult] using plain
  | some r =>
    simp [resultFences, failedResult, makeResult, rowFences, completedBuffersFor_fences]

theorem trackedFences_erase (t : Tracker) (f : Nat) :
    (trackedFences t).Perm ((t.requests.lookup f).toList.flatMap rowFences ++
      trackedFences (dropFrame t f)) := by
  simp only [trackedFences, dropFrame]
  cases found : t.requests.lookup f with
  | none =>
    simp only [Option.toList_none, List.flatMap_nil, List.nil_append]
    rw [erase_of_fresh (AList.lookup_eq_none.mp found)]
  | some row =>
    have taken := (values_perm_cons_erase found).flatMap_right rowFences
    simpa using taken

end Places

section Marking

def Blank (t : Tracker) : Prop :=
  ∀ f row, t.requests.lookup f = some row → ∀ output ∈ row.outputBuffers,
    output.completed = false → output.releaseFenceFd < 0

private theorem mark_others {outputs : List InFlightOutput} {index fence : Int}
    (other : index ∉ outputs.map (·.outputIndex)) :
    outputs.map (Tracker.markOutput index fence) = outputs := by
  have kept : ∀ output ∈ outputs, Tracker.markOutput index fence output = id output := by
    intro output member
    have apart : output.outputIndex ≠ index := by
      rintro rfl
      exact other (List.mem_map_of_mem member)
    exact if_neg apart
  rw [List.map_congr_left kept, List.map_id]

theorem marked_fences {outputs : List InFlightOutput} {output : InFlightOutput} (fence : Int)
    (nodup : (outputs.map (·.outputIndex)).Nodup) (member : output ∈ outputs)
    (blank : output.releaseFenceFd < 0) :
    (fences ((outputs.map (Tracker.markOutput output.outputIndex fence)).map
      (·.releaseFenceFd))).Perm
        (fences [fence] ++ fences (outputs.map (·.releaseFenceFd))) := by
  induction outputs with
  | nil => cases member
  | cons first rest ih =>
    simp only [List.map_cons, List.nodup_cons] at nodup ⊢
    rw [fences_cons, fences_cons first.releaseFenceFd]
    rcases List.mem_cons.mp member with rfl | later
    · rw [mark_others nodup.1]
      have fresh : fences [output.releaseFenceFd] = [] := by
        simp only [fences, List.filter_eq_nil_iff, List.mem_singleton]
        rintro fd rfl
        simp [blank]
      have marked : (Tracker.markOutput output.outputIndex fence output).releaseFenceFd =
          fence := by
        simp [Tracker.markOutput]
      rw [marked, fresh, List.nil_append]
    · have other : first.outputIndex ≠ output.outputIndex := by
        intro same
        exact nodup.1 (same ▸ List.mem_map_of_mem later)
      have kept : Tracker.markOutput output.outputIndex fence first = first := if_neg other
      rw [kept]
      refine ((ih nodup.2 later).append_left _).trans ?_
      exact List.perm_append_comm_assoc _ _ _

end Marking

section Steps

variable {s t : System δ π} {processors : List (Option (OutputProcessor π))}

structure Flow (processors : List (Option (OutputProcessor π))) (s : System δ π) (a : Label)
    (t : System δ π) : Prop where
  moves : ∃ sent, deliveredFences t = deliveredFences s ++ sent ∧
    (producedFences processors s a ++ heldFences s).Perm (sent ++ heldFences t)
  closed : t.session.closedFences = s.session.closedFences
  blank : Blank t.session.inFlight

private theorem Flow.of_perm {a : Label} (quiet : producedFences processors s a = [])
    (moves : (heldFences s).Perm (heldFences t)) (dispatched : t.dispatched = s.dispatched)
    (closed : t.session.closedFences = s.session.closedFences)
    (blank : Blank t.session.inFlight) : Flow processors s a t := by
  refine ⟨⟨[], ?_, ?_⟩, closed, blank⟩
  · simp only [deliveredFences, dispatched, List.append_nil]
  · rw [quiet]
    exact moves

private theorem Flow.of_same {a : Label} (B : Blank s.session.inFlight)
    (quiet : producedFences processors s a = [])
    (rows : t.session.inFlight.requests = s.session.inFlight.requests)
    (prepared : t.prepared = s.prepared) (handlers : t.callbacks = s.callbacks)
    (dispatched : t.dispatched = s.dispatched)
    (closed : t.session.closedFences = s.session.closedFences) : Flow processors s a t := by
  refine Flow.of_perm quiet ?_ dispatched closed ?_
  · simp only [heldFences, trackedFences, rows, prepared, handlers]
    exact List.Perm.refl _
  · unfold Blank
    rw [rows]
    exact B

private theorem held_prepared (session : Session δ) {results : List (Nat × CaptureResult)}
    (rows : (trackedFences s.session.inFlight).Perm
      (results.flatMap (fun entry => resultFences entry.2) ++ trackedFences session.inFlight))
    (held : heldFences t = trackedFences session.inFlight ++
      (s.prepared ++ results).flatMap (fun entry => resultFences entry.2) ++
        s.callbacks.flatMap fun handler => resultFences handler.result) :
    (heldFences s).Perm (heldFences t) := by
  rw [held]
  refine List.perm_iff_count.mpr fun fd => ?_
  have counted := List.perm_iff_count.mp rows fd
  simp only [heldFences, List.flatMap_append, List.count_append] at counted ⊢
  omega

private theorem blank_erase {t : Tracker} (B : Blank t) (f : Nat) : Blank (dropFrame t f) :=
  fun f row found => B f row (lookup_dropFrame_rows.mp found).2

private theorem runTask_flow (D : DriverAdapter δ) (B : Blank s.session.inFlight) {k : Nat}
    {now : Int} (taken : runTaskStep D k now s = some t) :
    Flow processors s (.runTask k now) t := by
  obtain ⟨id, request, -, ended⟩ := runTaskStep_outcome D taken
  have plain := (congrArg fences (completedBuffersFor_fences
    (makeInFlightOutputs (requestOutputsFor request)) .processingError)).trans
      (makeInFlightOutputs_fences (requestOutputsFor request))
  have dropped := trackedFences_erase s.session.inFlight request.frameNumber
  rcases ended with ⟨result, session, outcome, rfl⟩ | ⟨session, outcome, rfl⟩
  · cases outcome with
    | rejected closed =>
      refine Flow.of_perm rfl (held_prepared _ ?_ rfl) rfl rfl B
      simp [resultFences, makeResult]
    | refused driver streaming answer message =>
      refine Flow.of_perm rfl (held_prepared _ ?_ rfl) rfl rfl (blank_erase B _)
      simp only [List.flatMap_singleton, failedResult_fences _ _ _ _ plain]
      exact dropped
    | duplicate driver streaming answer live =>
      refine Flow.of_perm rfl (held_prepared _ ?_ rfl) rfl rfl (blank_erase B _)
      simp only [List.flatMap_singleton, failedResult_fences _ _ _ _ plain]
      rw [live] at dropped
      exact dropped
    | failed driver streaming answer absent before stopped =>
      refine Flow.of_perm rfl (held_prepared _ ?_ rfl) rfl rfl (blank_erase B _)
      rw [AList.lookup_eq_none.mpr absent] at dropped
      simp only [List.flatMap_singleton]
      rw [failedResult_fences _ _ _ _ rfl]
      simpa [queuedRow_fences] using dropped
  · cases outcome with
    | submitted driver streaming answer before finished after bound =>
      refine Flow.of_perm rfl ?_ rfl rfl ?_
      · simp only [heldFences, trackedFences, bound.rows, values_insert_of_fresh bound.absent,
          List.flatMap_cons, queuedRow_fences, List.nil_append]
        exact List.Perm.refl _
      · intro f row found output member still
        simp only [bound.rows] at found
        rcases lookup_insert_eq_some.mp found with ⟨rfl, rfl⟩ | ⟨-, old⟩
        · exact makeInFlightOutputs_blank member
        · exact B f row old output member still

private theorem blank_mark {t : Tracker} (B : Blank t) {f : Nat} {row : InFlightRequest}
    (live : t.requests.lookup f = some row) (index fence : Int)
    (outputs : Table DriverToken DriverOutputContext) :
    Blank { t with
      driverOutputs := outputs
      requests := t.requests.insert f (markedRow row index fence) } := by
  intro f' row' found output member still
  rcases lookup_insert_eq_some.mp found with ⟨rfl, rfl⟩ | ⟨-, old⟩
  · simp only [markedRow, List.mem_map] at member
    obtain ⟨before, inside, rfl⟩ := member
    obtain ⟨same, -, unfinished⟩ := markOutput_open still
    rw [same]
    exact B _ row live before inside unfinished
  · exact B f' row' old output member still

private theorem process_flow (T : Tracked s) (B : Blank s.session.inFlight) {k : Nat} {now : Int}
    (taken : processStep processors k now s = some t) :
    Flow processors s (.process k now) t := by
  obtain ⟨completion, filled, p, session, at_k, outcome, rfl⟩ :=
    processStep_outcome T.consistent taken
  have joined : ∀ {c : DriverOutputContext} {row : InFlightRequest} {output : InFlightOutput}
      (fence : Int), s.session.inFlight.requests.lookup c.frameNumber = some row →
        output ∈ row.outputBuffers → output.completed = false →
          (fences [fence] ++ trackedFences s.session.inFlight).Perm
            (rowFences (markedRow row output.outputIndex fence) ++
              trackedFences (dropFrame s.session.inFlight c.frameNumber)) := by
    intro c row output fence live member still
    have marked := marked_fences fence (T.consistent.rows _ _ live).indices_nodup member
      (B _ _ live output member still)
    have dropped := trackedFences_erase s.session.inFlight c.frameNumber
    rw [live] at dropped
    simp only [Option.toList_some, List.flatMap_singleton] at dropped
    refine (dropped.append_left _).trans ?_
    rw [← List.append_assoc]
    exact marked.symm.append_right _
  have produced : ∀ {c : DriverOutputContext} {row : InFlightRequest} {output : InFlightOutput}
      {fence : Int} {p' : π}, s.session.inFlight.requests.lookup c.frameNumber = some row →
        output ∈ row.outputBuffers → output.outputIndex = c.outputIndex →
          s.session.inFlight.driverOutputs.lookup completion.token = some c →
            runProcessors (resolvedFor c output.target none) processors (-1) s.processorState =
              (fence, p') → producedFences processors s (.process k now) = fences [fence] := by
    intro c row output fence p' live member index bound processed
    have row_live := T.consistent.rows _ _ live
    have nonnegative : 0 ≤ c.outputIndex := index ▸ row_live.index_nonneg member
    obtain ⟨row', output', live', member', index', -, resolved⟩ :=
      take_output T.consistent bound nonnegative
    obtain rfl := Option.some.inj (live.symm.trans live')
    obtain rfl := row_live.output_unique member member' (index.trans index'.symm)
    rw [resolvedFor] at processed
    simp [producedFences, at_k, resolved, processed]
  cases outcome with
  | unknown unbound =>
    refine Flow.of_same B ?_ rfl rfl rfl rfl rfl
    simp [producedFences, at_k, Tracker.takeDriverOutputContext, unbound]
  | @preview c output fence p' bound negative row processed =>
    have made : producedFences processors s (.process k now) = fences [fence] := by
      obtain ⟨output', row', resolved⟩ := take_stream T.consistent bound negative
      obtain rfl := Option.some.inj (row.symm.trans row')
      rw [resolvedFor] at processed
      simp [producedFences, at_k, resolved, processed]
    refine ⟨⟨[], by simp [deliveredFences, afterCompletion], ?_⟩, rfl, B⟩
    rw [made]
    refine List.perm_iff_count.mpr fun fd => ?_
    simp only [heldFences, trackedFences, afterCompletion, resultFences,
      captureResultFromStandaloneCompletion, List.flatMap_append, List.flatMap_singleton,
      List.map_cons, List.map_nil, List.count_append, List.nil_append]
    omega
  | @waiting c row output fence p' bound live member index still processed pending =>
    refine ⟨⟨[], by simp [deliveredFences, afterCompletion], ?_⟩, rfl,
      blank_mark B live _ _ _⟩
    rw [produced live member index bound processed]
    refine List.perm_iff_count.mpr fun fd => ?_
    have counted := List.perm_iff_count.mp (joined fence live member still) fd
    simp only [heldFences, trackedFences, dropFrame, afterCompletion, values_insert,
      List.flatMap_cons, List.count_append, List.nil_append] at counted ⊢
    omega
  | @complete c row output fence p' bound live member index still processed finished =>
    refine ⟨⟨[], by simp [deliveredFences, afterCompletion], ?_⟩, rfl,
      fun f row found => B f row (lookup_erase_eq_some.mp found).2⟩
    rw [produced live member index bound processed]
    refine List.perm_iff_count.mpr fun fd => ?_
    have counted := List.perm_iff_count.mp (joined fence live member still) fd
    have entries : resultFences (captureResultFromOutputCompletion
        (markedRow row output.outputIndex fence) output.target now) =
          rowFences (markedRow row output.outputIndex fence) := by
      simp [resultFences, captureResultFromOutputCompletion, completedBuffersFor_fences, rowFences]
    simp only [heldFences, trackedFences, dropFrame, afterCompletion, entries,
      List.flatMap_append, List.flatMap_singleton, List.count_append, List.nil_append] at counted ⊢
    omega

private theorem dispatch_flow {stream : Bool} (B : Blank s.session.inFlight) {k : Nat}
    (taken : dispatchStep { result := true, stream := stream } k s = some t) :
    Flow processors s (.dispatch k) t := by
  simp only [dispatchStep] at taken
  split at taken
  · cases taken
  rename_i id result at_result
  cases taken
  refine ⟨⟨resultFences result, by simp [deliveredFences], ?_⟩, rfl, B⟩
  have prepared := (perm_take at_result).flatMap_right fun entry => resultFences entry.2
  refine List.perm_iff_count.mpr fun fd => ?_
  have counted := List.perm_iff_count.mp prepared fd
  simp only [producedFences, heldFences, List.flatMap_cons, List.count_append,
    List.nil_append] at counted ⊢
  omega

private theorem callback_flow {stream : Bool} (B : Blank s.session.inFlight) {k : Nat}
    {lease : StreamBufferLease}
    (taken : streamCallbackStep { result := true, stream := stream } k lease s = some t) :
    Flow processors s (.streamCallback k lease) t := by
  simp only [streamCallbackStep] at taken
  split at taken
  · cases taken
  rename_i handler at_handler
  cases taken
  refine ⟨⟨resultFences handler.result, by simp [deliveredFences], ?_⟩, rfl, B⟩
  have waiting := (perm_take at_handler).flatMap_right fun handler => resultFences handler.result
  refine List.perm_iff_count.mpr fun fd => ?_
  have counted := List.perm_iff_count.mp waiting fd
  simp only [producedFences, heldFences, List.flatMap_cons, List.count_append,
    List.nil_append] at counted ⊢
  omega

private theorem flushed_flow {a : Label} (quiet : producedFences processors s a = [])
    (message : String) (now : Int) (session : Session δ)
    (empty : session.inFlight = Tracker.empty)
    (closed : session.closedFences = s.session.closedFences) :
    Flow processors s a (withResults s (flushResults message now s.session, session)) := by
  have results : (flushResults message now s.session).flatMap resultFences =
      trackedFences s.session.inFlight := by
    simp only [flushResults, flushedResults, Tracker.flushAll, trackedFences, values,
      List.flatMap_map, resultFences, makeResult, completedBuffersFor_fences, rowFences]
  have none_left : trackedFences session.inFlight = [] := by
    rw [empty]
    rfl
  refine Flow.of_perm quiet (held_prepared session ?_ rfl) rfl closed ?_
  · simp only [List.flatMap_map, results, none_left, List.append_nil]
    exact List.Perm.refl _
  · intro f row found
    simp [withResults, empty, Tracker.empty] at found

theorem step_flow (D : DriverAdapter δ) {stream : Bool} {a : Label} (T : Tracked s)
    (B : Blank s.session.inFlight)
    (taken : step D processors { result := true, stream := stream } s a = some t) :
    Flow processors s a t := by
  have passive : Passive a → producedFences processors s a = [] → Flow processors s a t := by
    intro label quiet
    have frame := step_frame D label taken
    exact Flow.of_same B quiet frame.rows frame.prepared frame.callbacks frame.dispatched
      frame.closed
  cases a with
  | configureStreams registered => exact passive trivial rfl
  | startStreaming => exact passive trivial rfl
  | processRequest request => exact passive trivial rfl
  | post k accepted =>
    rcases postStep_outcome taken with ⟨-, rfl⟩ | ⟨request, -, -, rfl⟩ <;>
      exact Flow.of_same B rfl rfl rfl rfl rfl rfl
  | runTask k now => exact runTask_flow D B taken
  | dequeue readyFd => exact passive trivial rfl
  | process k now => exact process_flow T B taken
  | dispatch k => exact dispatch_flow B taken
  | streamCallback k lease => exact callback_flow B taken
  | returnStream k => exact passive trivial rfl
  | flush now =>
    cases taken
    by_cases active : s.session.state = .streaming ∨ s.session.state = .configured
    · rw [flush_active D now active]
      exact flushed_flow rfl _ now _ rfl rfl
    · rw [flush_inactive D now active]
      exact Flow.of_same B rfl rfl (by simp [withResults]) rfl rfl rfl
  | close now =>
    cases taken
    by_cases stopped : s.session.state = .stopped
    · rw [close_stopped D now stopped]
      exact Flow.of_same B rfl rfl (by simp [withResults]) rfl rfl rfl
    · rw [close_open D now stopped]
      exact flushed_flow rfl _ now _ rfl rfl

end Steps

section Runs

/-- A session together with every fence its processors have made so far, in order. -/
structure Traced (δ π : Type) where
  system : System δ π
  produced : List Int

def Traced.initial (config : CameraDeviceSessionConfig) (driver : Option δ) (p : π) :
    Traced δ π :=
  { system := System.initial config driver p, produced := [] }

variable (D : DriverAdapter δ) (processors : List (Option (OutputProcessor π)))

def tracedStep (callbacks : Callbacks) (r : Traced δ π) (a : Label) : Option (Traced δ π) :=
  (step D processors callbacks r.system a).map fun t =>
    { system := t, produced := r.produced ++ producedFences processors r.system a }

/-- A processor returns no descriptor that the session still holds open. -/
def FreshFence (r : Traced δ π) (a : Label) : Prop :=
  ∀ fd ∈ producedFences processors r.system a, fd ∉ heldFences r.system

instance freshFenceDecidable (r : Traced δ π) (a : Label) :
    Decidable (FreshFence processors r a) :=
  inferInstanceAs (Decidable (∀ fd ∈ producedFences processors r.system a,
    fd ∉ heldFences r.system))

/-- Each fence made so far is closed, delivered or held, one place for each time it was
made; the held ones differ, and fences that were all different are nowhere twice. -/
structure Conserved (r : Traced δ π) : Prop where
  balance : r.produced.Perm
    (r.system.session.closedFences ++ deliveredFences r.system ++ heldFences r.system)
  single : (heldFences r.system).Nodup
  once : r.produced.Nodup →
    (r.system.session.closedFences ++ deliveredFences r.system ++ heldFences r.system).Nodup

private structure Accounted (r : Traced δ π) : Prop where
  tracked : Tracked r.system
  blank : Blank r.system.session.inFlight
  balance : r.produced.Perm
    (r.system.session.closedFences ++ deliveredFences r.system ++ heldFences r.system)
  single : (heldFences r.system).Nodup

private theorem producedFences_nodup (s : System δ π) (a : Label) :
    (producedFences processors s a).Nodup := by
  cases a with
  | process k now =>
    simp only [producedFences]
    split
    · exact List.nodup_nil
    split
    · exact List.nodup_nil
    · exact List.Nodup.filter _ (List.nodup_singleton _)
  | _ => exact List.nodup_nil

private theorem step_accounted {stream : Bool} {r r' : Traced δ π} {a : Label}
    (A : Accounted r) (fresh : FreshFence processors r a)
    (taken : tracedStep D processors { result := true, stream := stream } r a = some r') :
    Accounted r' := by
  obtain ⟨t, moved, rfl⟩ := Option.map_eq_some_iff.mp taken
  obtain ⟨⟨sent, delivered, moves⟩, closed, blank⟩ := step_flow D A.tracked A.blank moved
  refine ⟨step_tracked D processors _ A.tracked moved, blank, ?_, ?_⟩
  · simp only [delivered, closed]
    refine List.perm_iff_count.mpr fun fd => ?_
    have before := List.perm_iff_count.mp A.balance fd
    have now := List.perm_iff_count.mp moves fd
    simp only [List.count_append] at before now ⊢
    omega
  · have apart : (producedFences processors r.system a ++ heldFences r.system).Nodup :=
      List.nodup_append'.mpr ⟨producedFences_nodup processors r.system a, A.single, fresh⟩
    exact (List.nodup_append.mp (moves.nodup_iff.mp apart)).2.1

/-- Over every run in which processors return fresh fences, each fence is in one place,
and a fence that is not the last one goes to one next processor. -/
theorem release_fences_conserved (stream : Bool) (config : CameraDeviceSessionConfig)
    (driver : Option δ) (p : π) {r : Traced δ π}
    (run : Reaches (tracedStep D processors { result := true, stream := stream })
      (FreshFence processors) (Traced.initial config driver p) r) :
    Conserved r ∧ ∀ (resolved : ResolvedDriverOutput) (p : π),
      (processorCalls resolved processors (-1) p).length = (processors.filterMap id).length ∧
      (processorCalls resolved processors (-1) p).map Prod.fst ++
          [(runProcessors resolved processors (-1) p).1] =
        (-1) :: (processorCalls resolved processors (-1) p).map Prod.snd := by
  have accounted : Accounted r := by
    refine Reaches.invariant Accounted (fun r a r' A fresh taken => ?_) run ?_
    · exact step_accounted D processors A fresh taken
    · refine ⟨initial_tracked config driver p, ?_, List.Perm.nil, List.nodup_nil⟩
      intro f row found
      cases found
  refine ⟨⟨accounted.balance, accounted.single, accounted.balance.nodup_iff.mp⟩, ?_⟩
  intro resolved p
  exact ⟨processorCalls_length resolved processors (-1) p,
    processorCalls_chain resolved processors (-1) p⟩

end Runs

section Witness

open MiniCam.Hal.MockDriverAdapter (MockDriver adapter)

private def numbering : OutputProcessor Nat := fun _ n => ((n : Int), n + 1)

/-- One output of frame 7 has come back and waits in its row; a duplicate ends the row. -/
private def duplicateScript : List Label :=
  [.configureStreams true, .startStreaming,
   .processRequest { frameNumber := 7, outputBuffers := [{ bufferId := 1 }, { bufferId := 2 }] },
   .processRequest { frameNumber := 7, outputBuffers := [{ bufferId := 3 }] },
   .post 0 true, .post 0 true, .runTask 0 1, .dequeue 5, .process 0 2, .runTask 0 3, .dispatch 0]

theorem release_fences_conserved_duplicate :
    ∃ r : Traced MockDriver Nat, r.produced = [11] ∧ deliveredFences r.system = [11] ∧
      heldFences r.system = [] ∧ Conserved r := by
  obtain ⟨r, run, passed⟩ := exists_reaches_of_replay
    (tracedStep adapter [some numbering, none, some numbering] ⟨true, false⟩)
    (FreshFence [some numbering, none, some numbering])
    (Traced.initial {} (some ({} : MockDriver)) 10) duplicateScript
    (fun r => r.produced == [11] && deliveredFences r.system == [11] &&
      heldFences r.system == []) (by decide +kernel)
  simp only [Bool.and_eq_true, beq_iff_eq] at passed
  exact ⟨r, passed.1.1, passed.1.2, passed.2, (release_fences_conserved adapter
    [some numbering, none, some numbering] false {} (some {}) 10 run).1⟩

end Witness

end MiniCam.Hal.ReleaseFences
