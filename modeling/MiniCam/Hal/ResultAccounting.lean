/- Module: MiniCam/Hal/ResultAccounting
   source: hal/camera_device_session.cpp, hal/in_flight_request_tracker.cpp
   digest: Every accepted capture request is in one place until its one result is out. -/

import Mathlib.Data.List.Perm.Basic
import MiniCam.Hal.TokenBijection

set_option autoImplicit false
set_option relaxedAutoImplicit false

namespace MiniCam.Hal.ResultAccounting

open MiniCam.Foundation.KeyedTable
open MiniCam.Foundation.Runs (Reaches exists_reaches_of_replay)
open MiniCam.Hal.Interface
open MiniCam.Hal.InFlightRequestTracker
open MiniCam.Hal.CameraDeviceSession
open MiniCam.Hal.TrackerInvariant
open MiniCam.Hal.SessionSpec
open MiniCam.Hal.SessionSystem
open MiniCam.Hal.TokenBijection (Tracked step_tracked initial_tracked)

variable {δ π : Type}

/-- The accepted requests that still await their result, as queued tasks, rows or
prepared results, each with its frame number. -/
def pending (s : System δ π) : List (Nat × Nat) :=
  s.tasks.map (fun task => (task.1, task.2.frameNumber)) ++
    s.session.inFlight.requests.keys.map (fun f => (s.owner f, f)) ++
    s.prepared.map fun entry => (entry.1, entry.2.frameNumber)

/-- The dispatched capture results, by request and frame number. -/
def delivered (s : System δ π) : List (Nat × Nat) :=
  s.dispatched.filterMap fun entry =>
    match entry.1 with
    | .capture id => some (id, entry.2.frameNumber)
    | .preview _ => none

def HasResult (s : System δ π) (id : Nat) (result : CaptureResult) : Prop :=
  (id, result) ∈ s.prepared ∨ (Use.capture id, result) ∈ s.dispatched

def acceptedFrames (s : System δ π) : List (Nat × Nat) :=
  s.accepted.zipIdx.map fun entry => (entry.2, entry.1.frameNumber)

/-- No request is admitted with the frame number of one that awaits its result. -/
def FreshAdmission (s : System δ π) : Label → Prop
  | .post k true => ∀ request, s.admitting[k]? = some request →
      request.frameNumber ∉ (pending s).map Prod.snd
  | _ => True

inductive Transfer (callbacks : Callbacks) (s : System δ π) (a : Label) (t : System δ π) :
    Prop where
  | moved (dropped sent : List (Nat × Nat))
    (moves : (pending s).Perm (dropped ++ (sent ++ pending t)))
    (results : delivered t = delivered s ++ sent) (accepted : t.accepted = s.accepted)
    (why : dropped ≠ [] → callbacks.result = false ∨
      ∃ k now n request, a = .runTask k now ∧ s.tasks[k]? = some (n, request) ∧
        request.frameNumber ∈ s.session.inFlight.requests)
  | posted {k : Nat} {request : CaptureRequest} (label : a = .post k true)
    (found : s.admitting[k]? = some request)
    (moves : (pending t).Perm ((s.accepted.length, request.frameNumber) :: pending s))
    (results : delivered t = delivered s) (accepted : t.accepted = s.accepted ++ [request])

section Transfers

variable {s t : System δ π}

private theorem Transfer.of_perm {callbacks : Callbacks} {a : Label}
    (moves : (pending t).Perm (pending s)) (dispatched : t.dispatched = s.dispatched)
    (accepted : t.accepted = s.accepted) : Transfer callbacks s a t := by
  refine Transfer.moved [] [] moves.symm ?_ accepted fun some_left => (some_left rfl).elim
  simp only [delivered, dispatched, List.append_nil]

theorem perm_take {α : Type} {l : List α} {k : Nat} {x : α} (found : l[k]? = some x) :
    l.Perm (x :: l.eraseIdx k) := by
  obtain ⟨inside, rfl⟩ := List.getElem?_eq_some_iff.mp found
  exact (List.getElem_cons_eraseIdx_perm inside).symm

theorem runTask_moves (D : DriverAdapter δ) {k : Nat} {now : Int}
    (taken : runTaskStep D k now s = some t) :
    ∃ id request dropped, s.tasks[k]? = some (id, request) ∧
      (pending s).Perm (dropped ++ pending t) ∧
      (dropped ≠ [] → request.frameNumber ∈ s.session.inFlight.requests) ∧
      t.dispatched = s.dispatched ∧ t.accepted = s.accepted := by
  obtain ⟨id, request, at_task, ended⟩ := runTaskStep_outcome D taken
  have tasks := (perm_take at_task).map fun task : Nat × CaptureRequest =>
    (task.1, task.2.frameNumber)
  have failing : ∀ (session : Session δ) (result : CaptureResult) (dropped : List (Nat × Nat)),
      (s.session.inFlight.requests.keys.map fun f => (s.owner f, f)).Perm
        (dropped ++ session.inFlight.requests.keys.map fun f => (s.owner f, f)) →
      result.frameNumber = request.frameNumber →
      (pending s).Perm (dropped ++ pending { s with
        tasks := s.tasks.eraseIdx k
        session := session
        submissions := s.submissions ++ [(id, s.session.driver, session.driver)]
        prepared := s.prepared ++ [(id, result)] }) := by
    intro session result dropped rows frame
    refine ((tasks.append rows).append_right _).trans ?_
    simp only [pending, List.map_append, List.map_cons, List.map_nil, frame, List.cons_append,
      List.append_assoc]
    refine (List.perm_append_singleton _ _).symm.trans ?_
    simp only [List.append_assoc]
    exact List.perm_append_comm_assoc _ _ _
  have dropping : ∃ dropped : List (Nat × Nat),
      (s.session.inFlight.requests.keys.map fun f => (s.owner f, f)).Perm (dropped ++
        (dropFrame s.session.inFlight request.frameNumber).requests.keys.map fun f =>
          (s.owner f, f)) ∧
      (dropped ≠ [] → request.frameNumber ∈ s.session.inFlight.requests) := by
    by_cases live : request.frameNumber ∈ s.session.inFlight.requests
    · obtain ⟨row, found⟩ := Option.isSome_iff_exists.mp (AList.lookup_isSome.mpr live)
      refine ⟨[(s.owner request.frameNumber, request.frameNumber)], ?_, fun _ => live⟩
      exact (keys_perm_cons_erase found).map _
    · refine ⟨[], ?_, fun some_left => (some_left rfl).elim⟩
      simp only [dropFrame, erase_of_fresh live, List.nil_append]
      exact List.Perm.refl _
  rcases ended with ⟨result, session, outcome, rfl⟩ | ⟨session, outcome, rfl⟩
  · cases outcome with
    | rejected closed =>
      exact ⟨id, request, [], at_task, failing _ _ [] (List.Perm.refl _) rfl,
        fun some_left => (some_left rfl).elim, rfl, rfl⟩
    | refused driver streaming answer message =>
      obtain ⟨dropped, rows, live⟩ := dropping
      exact ⟨id, request, dropped, at_task, failing _ _ dropped rows rfl, live, rfl, rfl⟩
    | duplicate driver streaming answer live =>
      obtain ⟨dropped, rows, live⟩ := dropping
      exact ⟨id, request, dropped, at_task, failing _ _ dropped rows rfl, live, rfl, rfl⟩
    | failed driver streaming answer absent before stopped =>
      obtain ⟨dropped, rows, live⟩ := dropping
      exact ⟨id, request, dropped, at_task, failing _ _ dropped rows rfl, live, rfl, rfl⟩
  · refine ⟨id, request, [], at_task, ?_, fun some_left => (some_left rfl).elim, rfl, rfl⟩
    cases outcome with
    | submitted driver streaming answer before finished after bound =>
      have notMem : request.frameNumber ∉ s.session.inFlight.requests.keys :=
        fun member => bound.absent (AList.mem_keys.mpr member)
      have owners : (s.session.inFlight.requests.keys.map fun f =>
          (Function.update s.owner request.frameNumber id f, f)) =
            s.session.inFlight.requests.keys.map fun f => (s.owner f, f) := by
        apply List.map_congr_left
        intro f member
        have other : f ≠ request.frameNumber := fun same => notMem (same ▸ member)
        rw [Function.update_of_ne other]
      refine ((tasks.append_right _).append_right _).trans (List.Perm.symm ?_)
      simp only [pending, bound.rows, AList.keys_insert, List.erase_of_not_mem notMem,
        List.map_cons, Function.update_self, owners, List.nil_append]
      exact List.Perm.append_right _ List.perm_middle

theorem process_moves (processors : List (Option (OutputProcessor π))) (T : Tracked s)
    {k : Nat} {now : Int} (taken : processStep processors k now s = some t) :
    (pending t).Perm (pending s) ∧ t.dispatched = s.dispatched ∧ t.accepted = s.accepted := by
  obtain ⟨completion, filled, p, session, -, outcome, rfl⟩ :=
    processStep_outcome T.consistent taken
  cases outcome with
  | unknown unbound => exact ⟨List.Perm.refl _, rfl, rfl⟩
  | preview bound negative row processed => exact ⟨List.Perm.refl _, rfl, rfl⟩
  | @waiting c row output fence _ bound live member index still processed unfinished =>
    refine ⟨?_, rfl, rfl⟩
    have keys := (List.perm_cons_erase (AList.mem_keys.mp (mem_of_lookup live))).symm.map
      fun f => (s.owner f, f)
    simp only [pending, afterCompletion, AList.keys_insert]
    exact (keys.append_left _).append_right _
  | @complete c row output fence _ bound live member index still processed finished =>
    refine ⟨?_, rfl, rfl⟩
    have frame : row.frameNumber = c.frameNumber := (T.consistent.rows _ _ live).key
    have keys := (keys_perm_cons_erase live).map fun f => (s.owner f, f)
    refine List.Perm.trans ?_ ((keys.append_left _).append_right _).symm
    simp only [pending, afterCompletion, captureResultFromOutputCompletion, markedRow, frame,
      List.map_append, List.map_cons, List.map_nil]
    rw [← List.append_assoc]
    refine (List.perm_append_singleton _ _).trans ?_
    simp only [List.append_assoc, List.cons_append]
    exact List.perm_middle.symm

theorem flushed_moves (T : Tracked s) (message : String) (now : Int)
    (session : Session δ) (empty : session.inFlight = Tracker.empty) :
    (pending (withResults s (flushResults message now s.session, session))).Perm (pending s) := by
  have results : (flushResults message now s.session).map
      (fun result => (s.owner result.frameNumber, result.frameNumber)) =
        s.session.inFlight.requests.keys.map fun f => (s.owner f, f) := by
    simp only [flushResults, flushedResults, Tracker.flushAll, List.map_map, AList.keys,
      List.keys]
    apply List.map_congr_left
    intro entry member
    have live := T.consistent.rows entry.1 entry.2 (lookup_eq_some_iff.mpr member)
    simp only [Function.comp, makeResult, live.key]
  simp only [pending, withResults, empty, List.map_append, List.map_map, Function.comp_def, results]
  simp only [Tracker.empty, AList.keys_empty, List.map_nil, List.append_nil]
  rw [List.append_assoc]
  exact List.Perm.append_left _ List.perm_append_comm

private theorem post_transfer {callbacks : Callbacks} {k : Nat} {accepted : Bool}
    (taken : postStep k accepted s = some t) : Transfer callbacks s (.post k accepted) t := by
  rcases postStep_outcome taken with ⟨-, rfl⟩ | ⟨request, at_request, rfl, rfl⟩
  · exact Transfer.of_perm (List.Perm.refl _) rfl rfl
  · refine Transfer.posted rfl at_request ?_ rfl rfl
    simp only [pending, List.map_append, List.map_cons, List.map_nil, List.append_assoc,
      List.singleton_append]
    exact List.perm_middle

private theorem dispatch_transfer {callbacks : Callbacks} {k : Nat}
    (taken : dispatchStep callbacks k s = some t) : Transfer callbacks s (.dispatch k) t := by
  simp only [dispatchStep] at taken
  split at taken
  · cases taken
  rename_i n result at_result
  cases taken
  have shrinks : (pending s).Perm ((n, result.frameNumber) ::
      pending { s with prepared := s.prepared.eraseIdx k }) := by
    have prepared := (perm_take at_result).map fun entry : Nat × CaptureResult =>
      (entry.1, entry.2.frameNumber)
    refine (prepared.append_left _).trans ?_
    exact List.perm_middle
  cases reported : callbacks.result with
  | true =>
    refine Transfer.moved [] [(n, result.frameNumber)] shrinks ?_ rfl fun some_left =>
      (some_left rfl).elim
    simp [delivered]
  | false =>
    exact Transfer.moved [(n, result.frameNumber)] [] shrinks (by simp [delivered]) rfl fun _ =>
      Or.inl reported

theorem step_transfer (D : DriverAdapter δ) (processors : List (Option (OutputProcessor π)))
    {callbacks : Callbacks} {a : Label} (T : Tracked s)
    (taken : step D processors callbacks s a = some t) : Transfer callbacks s a t := by
  have passive : Passive a → Transfer callbacks s a t := by
    intro label
    have frame := step_frame D label taken
    refine Transfer.of_perm ?_ frame.dispatched frame.accepted
    simp only [pending, frame.rows, frame.tasks, frame.prepared, frame.owner]
    exact List.Perm.refl _
  cases a with
  | configureStreams registered => exact passive trivial
  | startStreaming => exact passive trivial
  | processRequest request => exact passive trivial
  | post k accepted => exact post_transfer taken
  | runTask k now =>
    obtain ⟨n, request, dropped, at_task, moves, live, same, accepted⟩ := runTask_moves D taken
    refine Transfer.moved dropped [] moves ?_ accepted fun some_left =>
      Or.inr ⟨k, now, n, request, rfl, at_task, live some_left⟩
    simp only [delivered, same, List.append_nil]
  | dequeue readyFd => exact passive trivial
  | process k now =>
    obtain ⟨moves, same, accepted⟩ := process_moves processors T taken
    exact Transfer.of_perm moves same accepted
  | dispatch k => exact dispatch_transfer taken
  | streamCallback k lease =>
    simp only [step, streamCallbackStep] at taken
    split at taken <;> cases taken
    refine Transfer.moved [] [] (List.Perm.refl _) ?_ rfl fun some_left => (some_left rfl).elim
    simp only [delivered]
    split <;> simp
  | returnStream k => exact passive trivial
  | flush now =>
    cases taken
    by_cases active : s.session.state = .streaming ∨ s.session.state = .configured
    · rw [flush_active D now active]
      exact Transfer.of_perm (flushed_moves T _ now _ rfl) rfl rfl
    · rw [flush_inactive D now active]
      exact Transfer.of_perm (by simp [withResults, pending]) rfl rfl
  | close now =>
    cases taken
    by_cases stopped : s.session.state = .stopped
    · rw [close_stopped D now stopped]
      exact Transfer.of_perm (by simp [withResults, pending]) rfl rfl
    · rw [close_open D now stopped]
      exact Transfer.of_perm (flushed_moves T _ now _ rfl) rfl rfl

end Transfers

section Preservation

variable {s t : System δ π}

structure Accounted (s : System δ π) : Prop where
  tracked : Tracked s
  distinct : ((pending s).map Prod.snd).Nodup
  partition : (pending s ++ delivered s).Perm (acceptedFrames s)

theorem task_absent (A : Accounted s) {k n : Nat} {request : CaptureRequest}
    (at_task : s.tasks[k]? = some (n, request)) :
    request.frameNumber ∉ s.session.inFlight.requests := by
  intro member
  have distinct := A.distinct
  simp only [pending, List.map_append, List.map_map] at distinct
  have apart := (List.nodup_append.mp (List.nodup_append.mp distinct).1).2.2
  refine apart request.frameNumber ?_ request.frameNumber ?_ rfl
  · exact List.mem_map.mpr ⟨(n, request), List.mem_of_getElem? at_task, rfl⟩
  · exact List.mem_map.mpr ⟨request.frameNumber, AList.mem_keys.mp member, rfl⟩

theorem step_accounted (D : DriverAdapter δ) (processors : List (Option (OutputProcessor π)))
    {stream : Bool} {a : Label} (A : Accounted s) (ok : FreshAdmission s a)
    (taken : step D processors ⟨true, stream⟩ s a = some t) : Accounted t := by
  have T := step_tracked D processors ⟨true, stream⟩ A.tracked taken
  cases step_transfer D processors A.tracked taken with
  | moved dropped sent moves results accepted why =>
    obtain rfl : dropped = [] := by
      by_contra some_left
      rcases why some_left with silent | ⟨k, now, n, request, -, at_task, live⟩
      · cases silent
      · exact task_absent A at_task live
    refine ⟨T, ?_, ?_⟩
    · have distinct := (moves.map Prod.snd).nodup_iff.mp A.distinct
      simp only [List.nil_append, List.map_append] at distinct
      exact (List.nodup_append.mp distinct).2.1
    · rw [results, acceptedFrames, accepted]
      refine List.Perm.trans ?_ A.partition
      refine List.Perm.trans ?_ (moves.append_right _).symm
      refine (List.perm_append_comm_assoc _ _ _).trans (List.perm_append_comm.trans ?_)
      exact List.Perm.append_right _ List.perm_append_comm
  | @posted k request label found moves results accepted =>
    subst label
    refine ⟨T, ?_, ?_⟩
    · refine (moves.map Prod.snd).nodup_iff.mpr ?_
      exact List.nodup_cons.mpr ⟨ok request found, A.distinct⟩
    · have frames : acceptedFrames t =
          acceptedFrames s ++ [(s.accepted.length, request.frameNumber)] := by
        simp [acceptedFrames, accepted, List.zipIdx_append]
      rw [frames, results]
      refine (moves.append_right _).trans ?_
      exact (A.partition.cons _).trans (List.perm_append_singleton _ _).symm

end Preservation

/-- Where the accepted requests of a session are. -/
structure OneResultEach (s : System δ π) : Prop where
  /-- Queued tasks, rows, prepared and dispatched results together are the accepted
  requests, each under its own frame number. -/
  partition : (pending s ++ delivered s).Perm (acceptedFrames s)
  /-- No request is in two places or dispatched twice. -/
  once : ((pending s ++ delivered s).map Prod.fst).Nodup
  /-- With nothing queued, in flight or prepared, every request has its result. -/
  finished : s.tasks = [] → s.prepared = [] →
    s.session.state = .stopped ∨ s.session.inFlight.requests.keys = [] →
      (delivered s).Perm (acceptedFrames s)

private theorem acceptedFrames_ids (s : System δ π) :
    (acceptedFrames s).map Prod.fst = List.range s.accepted.length := by
  simp only [acceptedFrames, List.map_map, Function.comp_def]
  change s.accepted.zipIdx.map Prod.snd = _
  rw [List.zipIdx_map_snd, List.range_eq_range']

/-- In every run whose admissions avoid the frame numbers of awaiting requests, over
any driver, every accepted request is queued, in flight, prepared or dispatched
exactly once. -/
theorem one_result_each (D : DriverAdapter δ) (processors : List (Option (OutputProcessor π)))
    (stream : Bool) (config : CameraDeviceSessionConfig) (driver : Option δ) (p : π)
    (s : System δ π)
    (run : Reaches (step D processors ⟨true, stream⟩) FreshAdmission
      (System.initial config driver p) s) : OneResultEach s := by
  have A : Accounted s := by
    refine run.invariant Accounted
      (fun _ _ _ A ok taken => step_accounted D processors A ok taken) ?_
    refine ⟨initial_tracked config driver p, ?_, ?_⟩ <;>
      simp [pending, delivered, acceptedFrames, System.initial, Session.create, Tracker.empty]
  refine ⟨A.partition, ?_, ?_⟩
  · refine (A.partition.map Prod.fst).nodup_iff.mpr ?_
    rw [acceptedFrames_ids]
    exact List.nodup_range
  · intro tasks prepared quiet
    have rows : s.session.inFlight.requests.keys = [] := by
      rcases quiet with stopped | empty
      · rw [A.tracked.stopped stopped]
        rfl
      · exact empty
    have none_left : pending s = [] := by simp [pending, tasks, prepared, rows]
    simpa [none_left] using A.partition

section Runs

open MiniCam.Hal.MockDriverAdapter (MockDriver adapter)

instance freshAdmissionDecidable (s : System MockDriver Unit) (a : Label) :
    Decidable (FreshAdmission s a) :=
  match a with
  | .post k true =>
    match at_k : s.admitting[k]? with
    | none => .isTrue (by simp [FreshAdmission, at_k])
    | some request =>
      decidable_of_iff (request.frameNumber ∉ (pending s).map Prod.snd) (by
        simp [FreshAdmission, at_k])
  | .post _ false | .configureStreams _ | .startStreaming | .processRequest _ | .runTask _ _
  | .dequeue _
  | .process _ _ | .dispatch _ | .streamCallback _ _ | .returnStream _ | .flush _ | .close _ =>
    .isTrue trivial

/-- Frame 7 completes between the dequeue of its completion and a flush; frame 8 is
flushed, frame 9 finds the session no longer accepting. -/
def mixedScript : List Label :=
  [.configureStreams true, .startStreaming,
   .processRequest { frameNumber := 7, outputBuffers := [{ bufferId := 1 }] },
   .processRequest { frameNumber := 8, outputBuffers := [{ bufferId := 2 }] },
   .processRequest { frameNumber := 9, outputBuffers := [{ bufferId := 3 }] },
   .post 0 true, .post 0 true, .post 0 true, .runTask 0 1, .runTask 0 1, .dequeue 5,
   .process 0 2, .flush 3, .runTask 0 4, .dispatch 2, .dispatch 0, .dispatch 0, .close 5]

theorem one_result_each_mixed :
    ∃ s : System MockDriver Unit,
      Reaches (step adapter [] ⟨true, false⟩) FreshAdmission (System.initial {} (some {}) ()) s ∧
      delivered s = [(2, 9), (0, 7), (1, 8)] ∧
      s.dispatched.map (fun entry => entry.2.status) = [.flushed, .ok, .flushed] ∧
      OneResultEach s := by
  obtain ⟨s, run, passed⟩ := exists_reaches_of_replay (step adapter [] ⟨true, false⟩)
    FreshAdmission (System.initial {} (some ({} : MockDriver)) ()) mixedScript
    (fun s => delivered s == [(2, 9), (0, 7), (1, 8)] &&
      s.dispatched.map (fun entry => entry.2.status) == [.flushed, .ok, .flushed])
    (by decide +kernel)
  simp only [Bool.and_eq_true, beq_iff_eq] at passed
  exact ⟨s, run, passed.1, passed.2,
    one_result_each adapter [] false {} (some {}) () s run⟩

end Runs

end MiniCam.Hal.ResultAccounting
