/- Module: MiniCam/App/CaptureBooks
   source: app/minicam_cli.cpp, app/fence_aware_result_writer.cpp, hal/camera_device_session.cpp
   digest: What the command line program knows of its frames, and the service that the session
     gives it from its start to its end. -/

import MiniCam.App.CommandLineSteps
import MiniCam.Hal.BufferReturn
import MiniCam.Hal.DriverInvariants

set_option autoImplicit false
set_option relaxedAutoImplicit false

namespace MiniCam.App.CaptureBooks

open MiniCam.Foundation.IntEvaluation (castInt)
open MiniCam.Foundation.KeyedTable
open MiniCam.Hal.Interface
open MiniCam.Hal.CameraDeviceSession (Session rejectRequest)
open MiniCam.Hal.SessionSystem (System Use)
open MiniCam.Hal.SessionSpec
open MiniCam.Hal.ResultAccounting
open MiniCam.Hal.DriverInvariants
open MiniCam.Hal.ResultOrigins (listed requestEntries step_origins)
open MiniCam.Buffers.DmaBufAllocator
open MiniCam.Buffers.BufferTracker (Tracker)
open MiniCam.App.FenceAwareResultWriter
open MiniCam.App.CommandLine
open MiniCam.App.CommandLineSteps

variable {δ π : Type}

section Session

variable {D : DriverAdapter δ} {processors : List (Option (OutputProcessor π))}
  {s t : System δ π} {P : δ → Prop}

theorem thread_serving {a : Hal.SessionSystem.Label} (own : OfThread a)
    (taken : Hal.SessionSystem.step D processors callbacks s a = some t) :
    rejectRequest t.session = rejectRequest s.session := by
  cases a with
  | runTask k now =>
    have kept : ∀ {request : CaptureRequest} {answer : Option CaptureResult}
        {session : Session δ}, SubmitOutcome D now request s.session answer session →
        rejectRequest session = rejectRequest s.session := by
      intro request answer session outcome
      cases outcome with
      | rejected closed => rfl
      | refused driver streaming answer message => simp [rejectRequest, driver]
      | duplicate driver streaming answer live => simp [rejectRequest, driver]
      | failed driver streaming answer absent before stopped => simp [rejectRequest, driver]
      | submitted driver streaming answer before finished after bound =>
        simp [rejectRequest, driver]
    obtain ⟨id, request, -, ⟨result, session, outcome, rfl⟩ | ⟨session, outcome, rfl⟩⟩ :=
      runTaskStep_outcome D taken <;> exact kept outcome
  | dequeue readyFd =>
    cases taken
    simp only [Hal.SessionSystem.dequeueStep]
    rcases dequeueCompletion_cases D readyFd s.session with same | ⟨d, driver, -, same⟩ <;>
      rw [same]
    simp [rejectRequest, driver]
  | process k now =>
    simp only [Hal.SessionSystem.step, Hal.SessionSystem.processStep] at taken
    split at taken
    · cases taken
    · rename_i completion at_completion
      cases taken
      obtain ⟨driver, state⟩ := Hal.DriverProtocol.tryFill_frame processors completion now
        s.processorState s.session
      simp only [Hal.SessionSystem.afterCompletion]
      split <;> simp only [rejectRequest, driver, state]
  | returnStream k =>
    simp only [Hal.SessionSystem.step, Hal.SessionSystem.returnStep] at taken
    split at taken <;> cases taken
    rename_i handler at_handler
    simp only
    rcases returnStreamBuffer_cases D handler.lease handler.output s.session with
      same | ⟨d, d', metrics, driver, -, ⟨-, same⟩ | ⟨token, -, same⟩⟩ <;> rw [same]
    · simp [rejectRequest, driver]
    · simp [rejectRequest, driver]
  | streamCallback k lease =>
    simp only [Hal.SessionSystem.step, Hal.SessionSystem.streamCallbackStep] at taken
    split at taken <;> cases taken
    rfl
  | configureStreams _ | startStreaming | processRequest _ | post _ _ | dispatch _ | flush _
  | close _ => exact own.elim

structure Spoken (P : δ → Prop) (s : System δ π) : Prop where
  driver : Has P s.session.driver
  prepared : CaptureTexts s
  sent : ∀ id result, (Use.capture id, result) ∈ s.dispatched → result.message ≠ "preview"
  named : Hal.ResultIdentity.Named s

theorem Spoken.step (K : Keeps D P) (plain : ∀ d, P d → D.lastError d ≠ "preview")
    (T : Hal.TokenBijection.Tracked s) (S : Spoken P s) {a : Hal.SessionSystem.Label}
    (taken : Hal.SessionSystem.step D processors callbacks s a = some t) : Spoken P t where
  driver := step_keeps K S.driver taken
  prepared := step_texts K plain S.driver S.prepared taken
  sent := by
    intro id result member
    rcases (step_origins T taken).sent id result member with before | prepared
    · exact S.sent id result before
    · exact S.prepared (id, result) prepared
  named := Hal.ResultIdentity.step_named T S.named taken

theorem own_buffers_answered (A : Accounted s) {a : Hal.SessionSystem.Label}
    (serving : rejectRequest s.session = false ∨ s.accepted = []) :
    Hal.BufferReturn.OwnBuffersAnswered s a := by
  cases a with
  | runTask k now =>
    rintro ⟨id, request⟩ at_task -
    have absent := task_absent A at_task
    rcases serving with open_ | none_accepted
    · refine ⟨open_, fun row live => ?_⟩
      exact (absent (mem_of_lookup live)).elim
    · have none_pending : pending s ++ delivered s = [] := by
        have whole := A.partition
        simpa [acceptedFrames, none_accepted] using whole
      have none_left : s.tasks = [] := by
        simp only [pending, List.append_eq_nil_iff, List.map_eq_nil_iff] at none_pending
        exact none_pending.1.1.1
      rw [none_left] at at_task
      cases at_task
  | configureStreams _ | startStreaming | processRequest _ | post _ _ | dequeue _ | process _ _
  | dispatch _ | streamCallback _ _ | returnStream _ | flush _ | close _ => trivial

theorem dispatched_grows {a : Hal.SessionSystem.Label}
    (taken : Hal.SessionSystem.step D processors callbacks s a = some t) :
    s.dispatched <+: t.dispatched := by
  cases a with
  | configureStreams registered =>
    cases taken
    exact List.prefix_refl _
  | startStreaming =>
    cases taken
    exact List.prefix_refl _
  | processRequest request =>
    simp only [Hal.SessionSystem.step] at taken
    split at taken <;> cases taken
    exact List.prefix_refl _
  | post k accepted =>
    rcases postStep_outcome taken with ⟨-, rfl⟩ | ⟨request, -, -, rfl⟩ <;>
      exact List.prefix_refl _
  | runTask k now =>
    obtain ⟨id, request, -, ⟨result, session, -, rfl⟩ | ⟨session, -, rfl⟩⟩ :=
      runTaskStep_outcome D taken <;> exact List.prefix_refl _
  | dequeue readyFd =>
    cases taken
    exact List.prefix_refl _
  | process k now =>
    simp only [Hal.SessionSystem.step, Hal.SessionSystem.processStep] at taken
    split at taken
    · cases taken
    · cases taken
      simp only [Hal.SessionSystem.afterCompletion]
      split <;> exact List.prefix_refl _
  | dispatch k =>
    simp only [Hal.SessionSystem.step, Hal.SessionSystem.dispatchStep, callbacks, if_true]
      at taken
    split at taken <;> cases taken
    exact List.prefix_append _ _
  | streamCallback k lease =>
    simp only [Hal.SessionSystem.step, Hal.SessionSystem.streamCallbackStep, callbacks,
      Bool.or_self, if_true] at taken
    split at taken <;> cases taken
    exact List.prefix_append _ _
  | returnStream k =>
    simp only [Hal.SessionSystem.step, Hal.SessionSystem.returnStep] at taken
    split at taken <;> cases taken
    exact List.prefix_refl _
  | flush now =>
    cases taken
    exact List.prefix_refl _
  | close now =>
    cases taken
    exact List.prefix_refl _

theorem delivered_request (A : Accounted s) {id : Nat} {result : CaptureResult}
    (sent : (Use.capture id, result) ∈ s.dispatched) {request : CaptureRequest}
    (found : s.accepted[id]? = some request) : request.frameNumber = result.frameNumber := by
  have listed : (id, result.frameNumber) ∈ delivered s :=
    List.mem_filterMap.mpr ⟨_, sent, rfl⟩
  have accepted := A.partition.subset (List.mem_append_right (pending s) listed)
  obtain ⟨⟨other, n⟩, inside, same⟩ := List.mem_map.mp accepted
  obtain ⟨rfl, frame⟩ := Prod.mk.inj same
  have at_n := List.mem_zipIdx_iff_getElem?.mp inside
  obtain rfl := Option.some.inj (found.symm.trans at_n)
  exact frame

end Session

section Service

variable {D : DriverAdapter δ} {processors : List (Option (OutputProcessor π))}
  {options : CliOptions} {s t : Program δ π} {P : δ → Prop}

def ended : Stage → Bool
  | .closed _ | .left _ => true
  | _ => false

/-- The session serves `main` from its start to its end, and answers requests with their own
buffers. -/
structure Service (P : δ → Prop) (system : System δ π) (stage : Stage) : Prop where
  spoken : Spoken P system
  serving : ended stage = false → rejectRequest system.session = false ∨
    (system.accepted = [] ∧ system.admitting = [])
  starting : stage = .prepared ∨ stage = .configured →
    system.accepted = [] ∧ system.admitting = []
  stopped : ended stage = true → system.session.state = .stopped
  answered : ended stage = false → Hal.BufferReturn.Answered system

theorem Service.move {system : System δ π} {stage stage' : Stage} (S : Service P system stage)
    (same : ended stage' = ended stage) (later : ¬ (stage' = .prepared ∨ stage' = .configured)) :
    Service P system stage' where
  spoken := S.spoken
  serving := fun open_ => S.serving (same ▸ open_)
  starting := fun early => (later early).elim
  stopped := fun done => S.stopped (same ▸ done)
  answered := fun open_ => S.answered (same ▸ open_)

theorem Service.advance (K : Keeps D P) (plain : ∀ d, P d → D.lastError d ≠ "preview")
    (R : Requests options s) (S : Service P s.system s.stage) {a : Hal.SessionSystem.Label}
    {system : System δ π}
    (taken : Hal.SessionSystem.step D processors callbacks s.system a = some system)
    {stage : Stage} (before : ended stage = false → ended s.stage = false)
    (serving : ended stage = false → rejectRequest system.session = false ∨
      (system.accepted = [] ∧ system.admitting = []))
    (starting : stage = .prepared ∨ stage = .configured →
      system.accepted = [] ∧ system.admitting = [])
    (stopped : ended stage = true → system.session.state = .stopped) :
    Service P system stage where
  spoken := S.spoken.step K plain R.accounted.tracked taken
  serving := serving
  starting := starting
  stopped := stopped
  answered := fun open_ => Hal.BufferReturn.step_answered (S.answered (before open_))
    S.spoken.named (step_origins R.accounted.tracked taken)
    (own_buffers_answered R.accounted ((S.serving (before open_)).imp_right And.left))

theorem Service.thread (K : Keeps D P) (plain : ∀ d, P d → D.lastError d ≠ "preview")
    (R : Requests options s) (S : Service P s.system s.stage) {a : Hal.SessionSystem.Label}
    (own : OfThread a) {system : System δ π}
    (taken : Hal.SessionSystem.step D processors callbacks s.system a = some system) :
    Service P system s.stage := by
  obtain ⟨accepted, admitting⟩ := steady_frame own.steady taken
  refine S.advance K plain R taken id ?_ ?_ ?_
  · rw [thread_serving own taken, accepted, admitting]
    exact S.serving
  · rw [accepted, admitting]
    exact S.starting
  · exact fun done => Hal.DriverProtocol.stopped_stays (S.stopped done) taken

theorem effect_service (K : Keeps D P) (plain : ∀ d, P d → D.lastError d ≠ "preview")
    (E : Effect D processors options s t) (R : Requests options s)
    (S : Service P s.system s.stage) : Service P t.system t.stage := by
  cases E with
  | configured prepared taken next =>
    obtain ⟨accepted, admitting⟩ := steady_frame (by trivial) taken
    have early := S.starting (Or.inl prepared)
    rw [← accepted, ← admitting] at early
    refine S.advance K plain R taken (fun _ => by rw [prepared]; rfl) (fun _ => Or.inr early)
      (fun _ => early) ?_
    rcases next with rfl | rfl <;> exact fun done => by cases done
  | started configured taken next =>
    obtain ⟨accepted, admitting⟩ := steady_frame (by trivial) taken
    have early := S.starting (Or.inr configured)
    rw [← accepted, ← admitting] at early
    refine S.advance K plain R taken (fun _ => by rw [configured]; rfl) (fun _ => Or.inr early)
      (fun _ => early) ?_
    rcases next with ⟨-, rfl⟩ | rfl
    · split <;> exact fun done => by cases done
    · exact fun done => by cases done
  | ending may ends =>
    have open_ : ended s.stage = false := by
      revert may
      cases s.stage <;> first | exact fun _ => rfl | exact fun no => no.elim
    rcases ends with ⟨workers, success, rfl⟩ | ⟨success, rfl⟩
    · exact S.move open_.symm (by simp)
    · exact S.move open_.symm (by simp)
  | asked => exact S
  | captured prompting named =>
    obtain ⟨system, -, stage⟩ := capture_moves options _ _ _ s
    rw [system]
    rcases stage with same | ⟨r, requesting, -⟩
    · rw [same]
      exact S
    · rw [requesting]
      exact S.move (by rw [prompting]; rfl) (by simp)
  | rejected requesting => exact S.move (by rw [requesting]; rfl) (by simp)
  | @admitted r requesting serving =>
    have taken : Hal.SessionSystem.step D processors callbacks s.system (.processRequest r) =
        some { s.system with admitting := s.system.admitting ++ [r] } := by
      simp [Hal.SessionSystem.step, serving]
    exact S.advance K plain R taken (fun _ => by rw [requesting]; rfl) (fun _ => Or.inl serving)
      (by simp) (fun done => by cases done)
  | @posted frameNumber accepted system posting moved =>
    have open_ : ended s.stage = false := by rw [posting]; rfl
    have one := R.admitting
    simp only [posting, inPost] at one
    have session : system.session = s.system.session := by
      rcases postStep_outcome moved with ⟨-, rfl⟩ | ⟨request, -, -, rfl⟩ <;> rfl
    have serving : rejectRequest s.system.session = false := by
      rcases S.serving open_ with serving | ⟨-, none_admitting⟩
      · exact serving
      · rw [none_admitting] at one
        cases one
    refine S.advance K plain R moved (fun _ => open_) (fun _ => Or.inl (session ▸ serving)) ?_ ?_
    · cases accepted <;> simp
    · cases accepted <;> exact fun done => by cases done
  | withdrawn refused => exact S.move (by rw [refused]; rfl) (by simp [withdraw])
  | written awaiting returns answered => exact S.move (by rw [awaiting]; rfl) (by simp)
  | timedOut awaiting => exact S.move (by rw [awaiting]; rfl) (by simp)
  | @closed now success system leaving taken =>
    refine S.advance K plain R taken (fun open_ => by cases open_) (fun open_ => by cases open_)
      (by simp) fun _ => ?_
    cases taken
    simp only [Hal.SessionSystem.withResults]
    by_cases stopped : s.system.session.state = .stopped
    · rw [close_stopped D now stopped]
      exact stopped
    · rw [close_open D now stopped]
  | released closed allPreviews allCaptures => exact S.move (by rw [closed]; rfl) (by simp)
  | thread a own taken => exact S.thread K plain R own taken
  | @dispatched k id result found =>
    have taken : Hal.SessionSystem.step D processors callbacks s.system (.dispatch k) =
        some { s.system with
          prepared := s.system.prepared.eraseIdx k
          dispatched := s.system.dispatched ++ [(.capture id, result)] } := by
      simp [Hal.SessionSystem.step, Hal.SessionSystem.dispatchStep, found, callbacks]
    exact S.advance K plain R taken (fun open_ => open_) S.serving S.starting S.stopped
  | saving saves moved =>
    rcases moved with rfl | ⟨k, lease, taken⟩
    · exact S
    · exact S.thread K plain R (a := .streamCallback k lease) trivial taken
  | encoded => exact S

end Service

section Lines

variable {options : CliOptions} {s t : Program δ π}

/-- What a line that names a path leads to. -/
inductive CaptureOutcome (options : CliOptions) (path : String) (s : Program δ π) :
    Program δ π → Prop where
  | unbuffered {now : Int} (mock : options.useV4l2 = false) :
    CaptureOutcome options path s
      (request path (captureRequest options s.nextFrame [] now)
        { s with nextFrame := s.nextFrame + 1 })
  | empty (v4l2 : options.useV4l2 = true)
    (dead : (acquireOutputBuffer s.writer.pools).1.live = false) :
    CaptureOutcome options path s
      { s with
        nextFrame := s.nextFrame + 1
        writer := { s.writer with pools := (acquireOutputBuffer s.writer.pools).2 } }
  | refused (v4l2 : options.useV4l2 = true)
    (live : (acquireOutputBuffer s.writer.pools).1.live = true) :
    CaptureOutcome options path s
      { s with
        nextFrame := s.nextFrame + 1
        writer := { s.writer with
          pools := ((acquireOutputBuffer s.writer.pools).1.reset
            (acquireOutputBuffer s.writer.pools).2).2 } }
  | leased {kept : Tracker} {target : OutputBufferTarget} {now : Int}
    (v4l2 : options.useV4l2 = true)
    (live : (acquireOutputBuffer s.writer.pools).1.live = true)
    (fresh : castInt s.nextFrame ∉ s.writer.captureBuffers.buffers)
    (metadata : MiniCam.Buffers.BufferTracker.TrackedBufferMetadata)
    (inserted : kept.buffers = s.writer.captureBuffers.buffers.insert (castInt s.nextFrame)
      ⟨metadata, (acquireOutputBuffer s.writer.pools).1⟩)
    (named : target.bufferId = castInt s.nextFrame)
    (described : (metadata.bufferFd, metadata.bufferSize) =
      ((pointee (acquireOutputBuffer s.writer.pools).1 (acquireOutputBuffer s.writer.pools).2).fd,
        (pointee (acquireOutputBuffer s.writer.pools).1
          (acquireOutputBuffer s.writer.pools).2).size))
    (carried : (target.bufferFd, target.bufferSize) =
      (metadata.bufferFd, metadata.bufferSize)) :
    CaptureOutcome options path s
      (request path (captureRequest options s.nextFrame [target] now)
        { s with
          nextFrame := s.nextFrame + 1
          writer := { s.writer with
            captureBuffers := kept
            pools := (acquireOutputBuffer s.writer.pools).2 } })

theorem capture_outcome (path : String) (fence : FenceAnswers) (now : Int) :
    CaptureOutcome options path s (capture options path fence now s) := by
  unfold capture
  simp only
  split
  · rename_i v4l2
    split
    · rename_i live
      simp only [Tracker.registerBuffer, if_pos live]
      by_cases fresh : castInt s.nextFrame ∈ s.writer.captureBuffers.buffers
      · simp only [if_pos fresh]
        exact CaptureOutcome.refused v4l2 live
      · simp only [if_neg fresh, if_true]
        refine CaptureOutcome.leased v4l2 live fresh _ rfl ?_ ?_ ?_
        · simp only [stillTarget]
        · rfl
        · rfl
    · rename_i dead
      exact CaptureOutcome.empty v4l2 (Bool.not_eq_true _ ▸ dead)
  · rename_i mock
    exact CaptureOutcome.unbuffered (Bool.not_eq_true _ ▸ mock)

end Lines

section Books

variable {D : DriverAdapter δ} {processors : List (Option (OutputProcessor π))}
  {options : CliOptions} {s t : Program δ π} {P : δ → Prop}

def bufferIds (options : CliOptions) (frameNumber : Nat) : List Int :=
  if options.useV4l2 then [castInt frameNumber] else []

def inRequest : Stage → List CaptureRequest
  | .requesting r => [r]
  | _ => []

/-- What `main` knows of its frames: the requests carry their own buffer ids, the registered
results are those that were dispatched, and a frame that was accepted is awaited, timed out, or
delivered. -/
structure Books (options : CliOptions) (s : Program δ π) : Prop where
  outputs : ∀ r ∈ s.system.accepted ++ s.system.admitting ++ inRequest s.stage,
    r.outputBuffers.map OutputBufferTarget.bufferId = bufferIds options r.frameNumber
  registered : options.savesPreviews = false → ∀ f path r,
    s.writer.pendingWrites.lookup f = some ⟨path, some r⟩ →
      r.frameNumber = f ∧ ∃ id, (Use.capture id, r) ∈ s.system.dispatched
  settled : ∀ r ∈ s.system.accepted, r.frameNumber ∈ s.timedOut ++ s.stage.frame ∨
    r.frameNumber ∈ deliveredFrames s
  apart : (s.timedOut ++ s.stage.frame).Nodup
  early : ∀ f ∈ s.timedOut, f < s.nextFrame
  saving : options.savesPreviews = true →
    s.timedOut = [] ∧ s.stage.frame = [] ∧ s.stage ≠ .prompting

theorem deliveredFrames_grows {system : System δ π}
    (grows : s.system.dispatched <+: system.dispatched) {f : Nat}
    (member : f ∈ deliveredFrames s) : f ∈ deliveredFrames { s with system := system } := by
  obtain ⟨entry, listed, rfl⟩ := List.mem_map.mp member
  obtain ⟨use, sent, same⟩ := List.mem_filterMap.mp listed
  exact List.mem_map.mpr ⟨entry, List.mem_filterMap.mpr ⟨use, grows.subset sent, same⟩, rfl⟩

theorem Books.steady (B : Books options s) {a : Hal.SessionSystem.Label} {system : System δ π}
    (taken : Hal.SessionSystem.step D processors callbacks s.system a = some system)
    (steady : Steady a) (stage : Stage) (frame : stage.frame = s.stage.frame)
    (asks : inRequest stage = inRequest s.stage)
    (quiet : options.savesPreviews = true → stage ≠ .prompting) :
    Books options { s with system := system, stage := stage } := by
  obtain ⟨accepted, admitting⟩ := steady_frame steady taken
  have grows := dispatched_grows taken
  refine ⟨?_, ?_, ?_, by simp only [frame]; exact B.apart, B.early, ?_⟩
  · simp only [accepted, admitting, asks]
    exact B.outputs
  · intro mode f path r found
    obtain ⟨same, id, sent⟩ := B.registered mode f path r found
    exact ⟨same, id, grows.subset sent⟩
  · intro r member
    simp only [accepted] at member
    simp only [frame]
    exact (B.settled r member).imp_right (deliveredFrames_grows grows)
  · intro mode
    obtain ⟨none_late, none_held, -⟩ := B.saving mode
    exact ⟨none_late, by simp only [frame]; exact none_held, quiet mode⟩

theorem Books.move (B : Books options s) (writer : Writer) (stage : Stage) (timedOut : List Nat)
    (fewer : ∀ f pending, writer.pendingWrites.lookup f = some pending →
      s.writer.pendingWrites.lookup f = some pending)
    (asks : ∀ r ∈ inRequest stage, r ∈ inRequest s.stage)
    (settled : ∀ r ∈ s.system.accepted, r.frameNumber ∈ timedOut ++ stage.frame ∨
      r.frameNumber ∈ deliveredFrames s)
    (apart : (timedOut ++ stage.frame).Nodup) (early : ∀ f ∈ timedOut, f < s.nextFrame)
    (saving : options.savesPreviews = true →
      timedOut = [] ∧ stage.frame = [] ∧ stage ≠ .prompting) :
    Books options { s with writer := writer, stage := stage, timedOut := timedOut } where
  outputs := by
    intro r member
    rcases List.mem_append.mp member with known | here
    · exact B.outputs r (List.mem_append_left _ known)
    · exact B.outputs r (List.mem_append_right _ (asks r here))
  registered := fun mode f path r found => B.registered mode f path r (fewer f _ found)
  settled := settled
  apart := apart
  early := early
  saving := saving

theorem pending_of_written {w : Writer} {frameNumber : Nat} {answers : Answers}
    {outcome : Outcome} {written : WriteResult}
    (returns : blockWaitAndWrite frameNumber answers w = some outcome)
    (answered : outcome.answer = some written) :
    ∃ path r, w.pendingWrites.lookup frameNumber = some ⟨path, some r⟩ := by
  unfold blockWaitAndWrite at returns
  split at returns
  · rename_i path r found
    exact ⟨path, r, found⟩
  · cases returns
    cases answered

theorem lookup_registerPath {w : Writer} {frameNumber f : Nat} {path path' : String}
    {r : CaptureResult} (found : (FenceAwareResultWriter.registerPath frameNumber path
      w).pendingWrites.lookup f = some ⟨path', some r⟩) :
    ∃ path, w.pendingWrites.lookup f = some ⟨path, some r⟩ := by
  rcases lookup_insert_eq_some.mp found with ⟨rfl, same⟩ | ⟨-, old⟩
  · cases known : w.pendingWrites.lookup f with
    | none =>
      rw [known] at same
      cases same
    | some pending =>
      rw [known] at same
      obtain ⟨path₀, result⟩ := pending
      cases same
      exact ⟨path₀, rfl⟩
  · exact ⟨path', old⟩

private theorem asked_books (B : Books options s) (prompting : s.stage = .prompting)
    (mode : options.savesPreviews = false) (path : String)
    (writer : Writer) (same : writer.pendingWrites = s.writer.pendingWrites) (r : CaptureRequest)
    (frame : r.frameNumber = s.nextFrame)
    (outputs : r.outputBuffers.map OutputBufferTarget.bufferId =
      bufferIds options r.frameNumber) :
    Books options (request path r { s with nextFrame := s.nextFrame + 1, writer := writer }) := by
  have none_held : s.timedOut ++ s.stage.frame = s.timedOut := by
    rw [prompting]
    exact List.append_nil _
  refine ⟨?_, ?_, ?_, ?_, ?_, ?_⟩
  · intro other member
    rcases List.mem_append.mp member with known | here
    · exact B.outputs other (List.mem_append_left _ known)
    · obtain rfl := List.mem_singleton.mp here
      exact outputs
  · intro _ f path' result found
    obtain ⟨path₀, before⟩ := lookup_registerPath found
    rw [same] at before
    exact B.registered mode f path₀ result before
  · intro other member
    rcases B.settled other member with held | done
    · rw [none_held] at held
      exact Or.inl (List.mem_append_left _ held)
    · exact Or.inr done
  · have late := B.apart
    rw [none_held] at late
    refine List.nodup_append.mpr ⟨late, List.nodup_singleton _, ?_⟩
    intro f member g last
    obtain rfl := List.mem_singleton.mp last
    have before := B.early f member
    omega
  · intro f member
    have before := B.early f member
    simp only [request]
    omega
  · intro saves
    rw [mode] at saves
    cases saves

private theorem captured_books (B : Books options s) (prompting : s.stage = .prompting)
    {path : String} (C : CaptureOutcome options path s t) :
    Books options t := by
  have mode : options.savesPreviews = false := by
    cases saves : options.savesPreviews with
    | false => rfl
    | true => exact absurd prompting (B.saving saves).2.2
  have idle : ∀ writer : Writer, writer.pendingWrites = s.writer.pendingWrites →
      Books options { s with nextFrame := s.nextFrame + 1, writer := writer } := by
    intro writer same
    exact ⟨B.outputs, by simp only [same]; exact B.registered, B.settled, B.apart,
      fun f member => Nat.lt_succ_of_lt (B.early f member), B.saving⟩
  cases C with
  | unbuffered mock =>
    exact asked_books B prompting mode path s.writer rfl _ rfl
      (by simp [captureRequest, bufferIds, mock])
  | empty v4l2 dead => exact idle _ rfl
  | refused v4l2 live => exact idle _ rfl
  | leased v4l2 live fresh metadata inserted named described carried =>
    refine asked_books B prompting mode path _ ?_ _ rfl ?_
    · rfl
    · simp [captureRequest, bufferIds, v4l2, named]

theorem Books.captures (B : Books options s) {frameNumber : Nat}
    (held : s.stage.frame = [frameNumber]) : options.savesPreviews = false := by
  cases mode : options.savesPreviews with
  | false => rfl
  | true =>
    have none_held := (B.saving mode).2.1
    rw [held] at none_held
    cases none_held

private theorem posted_books (R : Requests options s) (B : Books options s) {frameNumber : Nat}
    {accepted : Bool} {system : System δ π} (posting : s.stage = .posting frameNumber)
    (moved : Hal.SessionSystem.step D processors callbacks s.system (.post 0 accepted) =
      some system) :
    Books options
      { s with
        system := system
        stage := if accepted then .awaiting frameNumber else .refused frameNumber } := by
  have held : s.stage.frame = [frameNumber] := by rw [posting]; rfl
  have mode := B.captures held
  have one := R.admitting
  have outputs := B.outputs
  have settled := B.settled
  have apart := B.apart
  rw [held] at settled apart
  simp only [posting, inPost] at one
  rw [posting] at outputs
  simp only [inRequest, List.append_nil] at outputs
  obtain ⟨r, rest, admitting, rfl, none_left⟩ := List.map_eq_cons_iff.mp one
  obtain rfl := List.map_eq_nil_iff.mp none_left
  rcases postStep_outcome moved with ⟨rfl, rfl⟩ | ⟨request, found, rfl, rfl⟩
  · refine ⟨?_, B.registered, settled, apart, B.early, fun saves => ?_⟩
    · intro other member
      simp only [admitting, inRequest, List.eraseIdx_cons_zero, List.append_nil, if_false,
        Bool.false_eq_true] at member
      exact outputs other (List.mem_append_left _ member)
    · rw [mode] at saves
      cases saves
  · rw [admitting] at found
    cases found
    refine ⟨?_, B.registered, ?_, apart, B.early, fun saves => ?_⟩
    · intro other member
      simp only [admitting, inRequest, List.eraseIdx_cons_zero, List.append_nil, if_true]
        at member
      rw [admitting] at outputs
      exact outputs other member
    · intro other member
      rcases List.mem_append.mp member with before | last
      · exact settled other before
      · obtain rfl := List.mem_singleton.mp last
        exact Or.inl (List.mem_append_right _ (List.mem_singleton_self _))
    · rw [mode] at saves
      cases saves

theorem Books.leave (B : Books options s) {frameNumber : Nat}
    (held : s.stage.frame = [frameNumber]) (writer : Writer)
    (fewer : ∀ f pending, writer.pendingWrites.lookup f = some pending →
      s.writer.pendingWrites.lookup f = some pending)
    (settled : ∀ r ∈ s.system.accepted, r.frameNumber ∈ s.timedOut ++ Stage.prompting.frame ∨
      r.frameNumber ∈ deliveredFrames s) :
    Books options { s with writer := writer, stage := .prompting } := by
  have mode := B.captures held
  have late : (s.timedOut ++ Stage.prompting.frame).Nodup := by
    have apart := (List.nodup_append.mp B.apart).1
    simpa [Stage.frame] using apart
  refine B.move writer .prompting s.timedOut fewer (by simp [inRequest]) settled late B.early ?_
  intro saves
  rw [mode] at saves
  cases saves

theorem effect_books (E : Effect D processors options s t) (R : Requests options s)
    (B : Books options s) : Books options t := by
  cases E with
  | configured prepared taken next =>
    rcases next with rfl | rfl
    · exact B.steady taken trivial _ (by rw [prepared]; rfl) (by rw [prepared]; rfl) (by simp)
    · exact B.steady taken trivial _ (by rw [prepared]; rfl) (by rw [prepared]; rfl) (by simp)
  | started configured taken next =>
    rcases next with ⟨-, rfl⟩ | rfl
    · split
      · exact B.steady taken trivial _ (by rw [configured]; rfl) (by rw [configured]; rfl)
          (by simp)
      · rename_i mode
        exact B.steady taken trivial _ (by rw [configured]; rfl) (by rw [configured]; rfl)
          (fun saves => (mode saves).elim)
    · exact B.steady taken trivial _ (by rw [configured]; rfl) (by rw [configured]; rfl) (by simp)
  | @ending stage may ends =>
    have none_held := may.frame.1
    have ends_so : stage.frame = [] ∧ inRequest stage = [] ∧ stage ≠ .prompting := by
      rcases ends with ⟨workers, success, rfl⟩ | ⟨success, rfl⟩ <;> exact ⟨rfl, rfl, by simp⟩
    obtain ⟨frame, asks, quiet⟩ := ends_so
    have same : s.timedOut ++ stage.frame = s.timedOut ++ s.stage.frame := by
      rw [frame, none_held]
    refine B.move s.writer stage s.timedOut (fun _ _ => id) (by simp [asks]) ?_ ?_ B.early ?_
    · rw [same]
      exact B.settled
    · rw [same]
      exact B.apart
    · exact fun mode => ⟨(B.saving mode).1, frame, quiet⟩
  | asked => exact B
  | captured prompting named =>
    exact captured_books B prompting (capture_outcome _ _ _)
  | @rejected r requesting =>
    have same : s.stage.frame = (Stage.refused r.frameNumber).frame := by rw [requesting]; rfl
    refine B.move s.writer (.refused r.frameNumber) s.timedOut (fun _ _ => id)
      (by simp [inRequest]) ?_ ?_ B.early ?_
    · rw [← same]
      exact B.settled
    · rw [← same]
      exact B.apart
    · exact fun mode => ⟨(B.saving mode).1, same ▸ (B.saving mode).2.1, by simp⟩
  | @admitted r requesting serving =>
    have same : s.stage.frame = (Stage.posting r.frameNumber).frame := by rw [requesting]; rfl
    refine ⟨?_, B.registered, ?_, ?_, B.early, ?_⟩
    · intro other member
      have known := B.outputs other
      rw [requesting] at known
      simp only [inRequest, List.append_nil, List.append_assoc] at member known
      exact known member
    · rw [← same]
      exact B.settled
    · rw [← same]
      exact B.apart
    · exact fun mode => ⟨(B.saving mode).1, same ▸ (B.saving mode).2.1, by simp⟩
  | posted posting moved => exact posted_books R B posting moved
  | @withdrawn frameNumber refused =>
    have held : s.stage.frame = [frameNumber] := by rw [refused]; rfl
    have mode := B.captures held
    have settled : ∀ r ∈ s.system.accepted,
        r.frameNumber ∈ s.timedOut ++ Stage.prompting.frame ∨
          r.frameNumber ∈ deliveredFrames s := by
      intro r member
      rcases B.settled r member with known | done
      · rw [held] at known
        rcases List.mem_append.mp known with before | here
        · exact Or.inl (List.mem_append_left _ before)
        · have small := R.below r member
          simp only [floor, refused] at small
          have same := List.mem_singleton.mp here
          omega
      · exact Or.inr done
    exact B.leave held (withdraw frameNumber s).writer
      (fun f pending found => (lookup_erase_eq_some.mp found).2) settled
  | @written frameNumber answers outcome written awaiting returns answered =>
    have held : s.stage.frame = [frameNumber] := by rw [awaiting]; rfl
    have mode := B.captures held
    refine B.leave held outcome.writer ?_ ?_
    · intro f pending found
      rcases blockWaitAndWrite_pending returns with same | less
      · rw [same] at found
        exact found
      · rw [less] at found
        exact (lookup_erase_eq_some.mp found).2
    · intro r member
      rcases B.settled r member with known | done
      · rw [held] at known
        rcases List.mem_append.mp known with before | here
        · exact Or.inl (List.mem_append_left _ before)
        · obtain ⟨path, result, found⟩ := pending_of_written returns answered
          obtain ⟨frame, id, sent⟩ := B.registered mode frameNumber path result found
          have same := List.mem_singleton.mp here
          refine Or.inr (List.mem_map.mpr ⟨(id, result.frameNumber), ?_, ?_⟩)
          · exact List.mem_filterMap.mpr ⟨_, sent, rfl⟩
          · exact frame.trans same.symm
      · exact Or.inr done
  | @timedOut frameNumber awaiting =>
    have held : s.stage.frame = [frameNumber] := by rw [awaiting]; rfl
    have mode := B.captures held
    have same : s.timedOut ++ [frameNumber] ++ Stage.prompting.frame =
        s.timedOut ++ s.stage.frame := by
      rw [held]
      exact List.append_nil _
    refine B.move s.writer .prompting _ (fun _ _ found => found) (by simp [inRequest]) ?_ ?_ ?_ ?_
    · rw [same]
      exact B.settled
    · rw [same]
      exact B.apart
    · intro f member
      rcases List.mem_append.mp member with before | here
      · exact B.early f before
      · exact R.issued f (by rw [held]; exact here)
    · intro saves
      rw [mode] at saves
      cases saves
  | closed leaving taken =>
    exact B.steady taken trivial _ (by rw [leaving]; rfl) (by rw [leaving]; rfl) (by simp)
  | @released success previews captures closed allPreviews allCaptures =>
    have same : (Stage.left success).frame = s.stage.frame := by rw [closed]; rfl
    refine B.move _ (.left success) s.timedOut (fun _ _ found => found) (by simp [inRequest]) ?_ ?_
      B.early ?_
    · rw [same]
      exact B.settled
    · rw [same]
      exact B.apart
    · exact fun mode => ⟨(B.saving mode).1, same.trans (B.saving mode).2.1, by simp⟩
  | thread a own taken =>
    exact B.steady taken own.steady s.stage rfl rfl fun mode => (B.saving mode).2.2
  | @dispatched k id result found =>
    have taken : Hal.SessionSystem.step D processors callbacks s.system (.dispatch k) =
        some { s.system with
          prepared := s.system.prepared.eraseIdx k
          dispatched := s.system.dispatched ++ [(.capture id, result)] } := by
      simp [Hal.SessionSystem.step, Hal.SessionSystem.dispatchStep, found, callbacks]
    have moved := B.steady taken trivial s.stage rfl rfl fun mode => (B.saving mode).2.2
    refine ⟨moved.outputs, ?_, moved.settled, moved.apart, moved.early, moved.saving⟩
    intro mode f path r known
    rcases lookup_insert_eq_some.mp known with ⟨rfl, same⟩ | ⟨-, old⟩
    · cases same
      exact ⟨rfl, id, List.mem_append_right _ (List.mem_singleton_self _)⟩
    · exact moved.registered mode f path r old
  | saving saves moved =>
    have kept : ∀ system : System δ π, Books options { s with system := system } →
        ∀ (writer : Writer) (written : Nat) (workers : List Nat), Books options { s with
          system := system
          writer := writer
          previewFramesWritten := written
          previewWorkers := workers } := by
      intro system C writer written workers
      refine ⟨C.outputs, fun mode => ?_, C.settled, C.apart, C.early, C.saving⟩
      rw [saves] at mode
      cases mode
    rcases moved with rfl | ⟨k, lease, taken⟩
    · exact kept s.system B _ _ _
    · exact kept _ (B.steady taken trivial s.stage rfl rfl fun mode => (B.saving mode).2.2) _ _ _
  | encoded =>
    exact ⟨B.outputs, B.registered, B.settled, B.apart, B.early, B.saving⟩

end Books

end MiniCam.App.CaptureBooks
