/- Module: MiniCam/App/CommandLineSteps
   source: app/minicam_cli.cpp
   digest: What one step of the command line program can do, and the requests that it makes: their
     frame numbers rise, and each has one result. -/

import MiniCam.App.CommandLine
import MiniCam.Hal.MockDriverAdapter
import MiniCam.Hal.ResultAccounting

set_option autoImplicit false
set_option relaxedAutoImplicit false

namespace MiniCam.App.CommandLineSteps

open MiniCam.Foundation.IntEvaluation (castInt)
open MiniCam.Foundation.Runs
open MiniCam.Hal.Interface
open MiniCam.Hal.CameraDeviceSession (Session rejectRequest)
open MiniCam.Hal.SessionSystem (System Use)
open MiniCam.Hal.SessionSpec
open MiniCam.Hal.ResultAccounting
open MiniCam.Buffers.DmaBufAllocator
open MiniCam.App.JpegEncoderProcessor (EncodedFrameStore)
open MiniCam.App.FenceAwareResultWriter (Answers Writer Call Outcome WriteResult perform
  blockWaitAndWrite registerResult)
open MiniCam.App.CommandLine

variable {δ π : Type}

section Effects

def OfThread : Hal.SessionSystem.Label → Prop
  | .runTask _ _ | .dequeue _ | .process _ _ | .returnStream _ | .streamCallback _ _ => True
  | _ => False

def MayEnd : Stage → Prop
  | .previewing | .prompting | .joining _ _ => True
  | _ => False

/-- What one step of the program does. -/
inductive Effect (D : DriverAdapter δ) (processors : List (Option (OutputProcessor π)))
    (options : CliOptions) (s : Program δ π) : Program δ π → Prop where
  | configured {registered : Bool} {system : System δ π} {stage : Stage}
    (prepared : s.stage = .prepared)
    (taken : Hal.SessionSystem.step D processors callbacks s.system
      (.configureStreams registered) = some system)
    (next : stage = .configured ∨ stage = .leaving false) :
    Effect D processors options s { s with system := system, stage := stage }
  | started {system : System δ π} {stage : Stage} (configured : s.stage = .configured)
    (taken : Hal.SessionSystem.step D processors callbacks s.system .startStreaming =
      some system)
    (next : system.session.state = .streaming ∧
        stage = (if options.savesPreviews then .previewing else .prompting) ∨
      stage = .leaving false) :
    Effect D processors options s { s with system := system, stage := stage }
  | ending {stage : Stage} (may : MayEnd s.stage)
    (ends : (∃ workers success, stage = .joining workers success) ∨
      ∃ success, stage = .leaving success) :
    Effect D processors options s { s with stage := stage }
  | asked : Effect D processors options s s
  | captured {path : String} {fence : FenceAnswers} {now : Int} (prompting : s.stage = .prompting)
    (named : path ≠ "") :
    Effect D processors options s (capture options path fence now s)
  | rejected {r : CaptureRequest} (requesting : s.stage = .requesting r) :
    Effect D processors options s { s with stage := .refused r.frameNumber }
  | admitted {r : CaptureRequest} (requesting : s.stage = .requesting r)
    (serving : rejectRequest s.system.session = false) :
    Effect D processors options s
      { s with
        system := { s.system with admitting := s.system.admitting ++ [r] }
        stage := .posting r.frameNumber }
  | posted {frameNumber : Nat} {taken : Bool} {system : System δ π}
    (posting : s.stage = .posting frameNumber)
    (moved : Hal.SessionSystem.step D processors callbacks s.system (.post 0 taken) =
      some system) :
    Effect D processors options s
      { s with
        system := system
        stage := if taken then .awaiting frameNumber else .refused frameNumber }
  | withdrawn {frameNumber : Nat} (refused : s.stage = .refused frameNumber) :
    Effect D processors options s (withdraw frameNumber s)
  | written {frameNumber : Nat} {answers : Answers} {outcome : Outcome} {written : WriteResult}
    (awaiting : s.stage = .awaiting frameNumber)
    (returns : blockWaitAndWrite frameNumber answers s.writer = some outcome)
    (answered : outcome.answer = some written) :
    Effect D processors options s { s with writer := outcome.writer, stage := .prompting }
  | timedOut {frameNumber : Nat} (awaiting : s.stage = .awaiting frameNumber) :
    Effect D processors options s
      { s with stage := .prompting, timedOut := s.timedOut ++ [frameNumber] }
  | closed {now : Int} {success : Bool} {system : System δ π}
    (leaving : s.stage = .leaving success)
    (taken : Hal.SessionSystem.step D processors callbacks s.system (.close now) = some system) :
    Effect D processors options s { s with system := system, stage := .closed success }
  | released {success : Bool} {previews captures : List DmaBufLease}
    (closed : s.stage = .closed success)
    (allPreviews : previews.Perm s.writer.previewBuffers.leases)
    (allCaptures : captures.Perm s.writer.captureBuffers.leases) :
    Effect D processors options s
      { s with
        writer := { s.writer with
          previewBuffers := {}
          captureBuffers := {}
          pools := destroyAll captures (destroyAll previews s.writer.pools) }
        stage := .left success }
  | thread (a : Hal.SessionSystem.Label) {system : System δ π} (own : OfThread a)
    (taken : Hal.SessionSystem.step D processors callbacks s.system a = some system) :
    Effect D processors options s { s with system := system }
  | dispatched {k id : Nat} {result : CaptureResult}
    (found : s.system.prepared[k]? = some (id, result)) :
    Effect D processors options s
      { s with
        system := { s.system with
          prepared := s.system.prepared.eraseIdx k
          dispatched := s.system.dispatched ++ [(.capture id, result)] }
        writer := registerResult result s.writer }
  | saving {calls : List Call} {system : System δ π} {written : Nat} {workers : List Nat}
    (saves : options.savesPreviews = true)
    (moved : system = s.system ∨ ∃ k lease, Hal.SessionSystem.step D processors callbacks
      s.system (.streamCallback k lease) = some system) :
    Effect D processors options s
      { s with
        system := system
        writer := calls.foldl perform s.writer
        previewFramesWritten := written
        previewWorkers := workers }
  | encoded {store : EncodedFrameStore} :
    Effect D processors options s
      { s with writer := { s.writer with encodedFrames := some store } }

variable {D : DriverAdapter δ} {processors : List (Option (OutputProcessor π))}
  {options : CliOptions} {s t : Program δ π}

theorem onSession_eq_some {a : Hal.SessionSystem.Label} :
    onSession D processors a s = some t ↔ ∃ system,
      Hal.SessionSystem.step D processors callbacks s.system a = some system ∧
        { s with system := system } = t :=
  Option.map_eq_some_iff

theorem readLine_effect (prompting : s.stage = .prompting) (line : Option String)
    (fence : FenceAnswers) (now : Int) :
    Effect D processors options s (readLine options line fence now s) := by
  have ends : Effect D processors options s { s with stage := .joining s.previewWorkers true } :=
    Effect.ending (by rw [prompting]; trivial) (Or.inl ⟨_, _, rfl⟩)
  unfold readLine
  split
  · exact ends
  split
  · exact Effect.asked
  · split
    · exact ends
    · rename_i named
      exact Effect.captured prompting named

theorem mainStep_effect {a : Label} (taken : mainStep D processors options s a = some t) :
    Effect D processors options s t := by
  cases a with
  | configure registered =>
    simp only [mainStep] at taken
    split at taken
    · rename_i prepared
      obtain ⟨u, moved, rfl⟩ := Option.map_eq_some_iff.mp taken
      obtain ⟨system, configured, rfl⟩ := onSession_eq_some.mp moved
      refine Effect.configured prepared configured ?_
      split
      · exact Or.inl rfl
      · exact Or.inr rfl
    · cases taken
  | start =>
    simp only [mainStep] at taken
    split at taken
    · rename_i configured
      obtain ⟨u, moved, rfl⟩ := Option.map_eq_some_iff.mp taken
      obtain ⟨system, started, rfl⟩ := onSession_eq_some.mp moved
      refine Effect.started configured started ?_
      split
      · rename_i streaming
        exact Or.inl ⟨streaming, rfl⟩
      · exact Or.inr rfl
    · cases taken
  | waitForPreviews completed =>
    simp only [mainStep] at taken
    split at taken
    · rename_i waited
      cases taken
      exact Effect.ending (by rw [waited.1]; trivial) (Or.inl ⟨_, _, rfl⟩)
    · cases taken
  | readLine line fence now =>
    simp only [mainStep] at taken
    split at taken
    · rename_i prompting
      cases taken
      exact readLine_effect prompting line fence now
    · cases taken
  | processRequest =>
    simp only [mainStep] at taken
    split at taken
    · rename_i r requesting
      split at taken
      · cases taken
        exact Effect.rejected requesting
      · rename_i u moved
        cases taken
        obtain ⟨system, admitted, rfl⟩ := onSession_eq_some.mp moved
        simp only [Hal.SessionSystem.step] at admitted
        split at admitted
        · cases admitted
        · rename_i serving
          cases admitted
          exact Effect.admitted requesting (Bool.not_eq_true _ ▸ serving)
    · cases taken
  | post accepted =>
    simp only [mainStep] at taken
    split at taken
    · rename_i frameNumber posting
      obtain ⟨u, moved, rfl⟩ := Option.map_eq_some_iff.mp taken
      obtain ⟨system, posted, rfl⟩ := onSession_eq_some.mp moved
      exact Effect.posted posting posted
    · cases taken
  | withdraw =>
    simp only [mainStep] at taken
    split at taken
    · rename_i frameNumber refused
      cases taken
      exact Effect.withdrawn refused
    · cases taken
  | write answers =>
    simp only [mainStep] at taken
    split at taken
    · rename_i frameNumber awaiting
      split at taken
      · rename_i outcome returns
        split at taken
        · rename_i answered
          cases taken
          obtain ⟨written, answered⟩ := Option.isSome_iff_exists.mp answered
          exact Effect.written awaiting returns answered
        · cases taken
      · cases taken
    · cases taken
  | timeOut =>
    simp only [mainStep] at taken
    split at taken
    · rename_i frameNumber awaiting
      split at taken
      · cases taken
      · cases taken
        exact Effect.timedOut awaiting
    · cases taken
  | join =>
    simp only [mainStep] at taken
    split at taken
    · rename_i workers success joining
      split at taken
      · cases taken
        exact Effect.ending (by rw [joining]; trivial) (Or.inr ⟨_, rfl⟩)
      · cases taken
    · cases taken
  | close now =>
    simp only [mainStep] at taken
    split at taken
    · rename_i success leaving
      obtain ⟨u, moved, rfl⟩ := Option.map_eq_some_iff.mp taken
      obtain ⟨system, closed, rfl⟩ := onSession_eq_some.mp moved
      exact Effect.closed leaving closed
    · cases taken
  | releaseAll previews captures =>
    simp only [mainStep] at taken
    split at taken
    · rename_i success closed
      split at taken
      · rename_i all
        cases taken
        exact Effect.released closed all.1 all.2
      · cases taken
    · cases taken
  | runTask _ _ | dequeue _ | process _ _ | dispatch _ | streamCallback _ _ _ | returnStream _
  | writePreview _ _ | encode _ => cases taken

theorem writePreview_perform {frameNumber : Nat} {answers : Answers}
    (taken : writePreview frameNumber answers s = some t) :
    ∃ written, t = { s with
      writer := perform s.writer (.blockWaitAndWrite frameNumber answers)
      previewFramesWritten := written } := by
  obtain ⟨outcome, returns, rfl⟩ := Option.map_eq_some_iff.mp taken
  have performed : perform s.writer (.blockWaitAndWrite frameNumber answers) = outcome.writer := by
    simp only [perform, returns]
  rw [performed]
  exact ⟨_, rfl⟩

theorem streamResultCallback_cases {result : CaptureResult} {lease lease' : StreamBufferLease}
    {pipe : Option (Int × Int)} {answers : Answers}
    (taken : streamResultCallback options result lease pipe answers s = some (t, lease')) :
    (t = s ∧ lease' = lease) ∨ options.savesPreviews = true ∧ ∃ (calls : List Call) (written : Nat)
      (workers : List Nat), t = { s with
        writer := calls.foldl perform s.writer
        previewFramesWritten := written
        previewWorkers := workers } := by
  unfold streamResultCallback at taken
  split at taken
  · cases taken
    exact Or.inl ⟨rfl, rfl⟩
  rename_i path named
  split at taken
  · cases taken
    exact Or.inl ⟨rfl, rfl⟩
  rename_i wanted
  have saves : options.savesPreviews = true := by
    simp only [CliOptions.savesPreviews, named, Option.isSome_some, Bool.true_and,
      decide_eq_true_eq]
    omega
  refine Or.inr ⟨saves, ?_⟩
  simp only at taken
  split at taken
  · obtain ⟨u, wrote, same⟩ := Option.map_eq_some_iff.mp taken
    obtain ⟨rfl, -⟩ := Prod.mk.inj same
    obtain ⟨written, rfl⟩ := writePreview_perform wrote
    exact ⟨[.registerPath result.frameNumber path, .registerResult result,
      .blockWaitAndWrite result.frameNumber answers], written, s.previewWorkers, rfl⟩
  · cases taken
    exact ⟨[.registerPath result.frameNumber path, .registerResult result],
      s.previewFramesWritten, _, rfl⟩

def SavesOnly (options : CliOptions) (s : Program δ π) : Prop :=
  s.previewWorkers ≠ [] → options.savesPreviews = true

theorem threadStep_effect {a : Label} (saves : SavesOnly options s)
    (taken : threadStep D processors options s a = some t) :
    Effect D processors options s t := by
  cases a with
  | runTask k now =>
    obtain ⟨system, moved, rfl⟩ := onSession_eq_some.mp taken
    exact Effect.thread (.runTask k now) trivial moved
  | dequeue readyFd =>
    obtain ⟨system, moved, rfl⟩ := onSession_eq_some.mp taken
    exact Effect.thread (.dequeue readyFd) trivial moved
  | process k now =>
    obtain ⟨system, moved, rfl⟩ := onSession_eq_some.mp taken
    exact Effect.thread (.process k now) trivial moved
  | dispatch k =>
    simp only [threadStep] at taken
    split at taken
    · cases taken
    · rename_i id result found
      obtain ⟨system, moved, rfl⟩ := onSession_eq_some.mp taken
      simp only [Hal.SessionSystem.step, Hal.SessionSystem.dispatchStep, found, callbacks,
        if_true] at moved
      cases moved
      exact Effect.dispatched found
  | streamCallback k pipe answers =>
    simp only [threadStep] at taken
    split at taken
    · cases taken
    · rename_i handler found
      obtain ⟨⟨u, lease⟩, called, continued⟩ := Option.bind_eq_some_iff.mp taken
      obtain ⟨system, moved, rfl⟩ := onSession_eq_some.mp continued
      rcases streamResultCallback_cases called with
        ⟨rfl, rfl⟩ | ⟨saving, calls, written, workers, rfl⟩
      · exact Effect.thread (.streamCallback k _) trivial moved
      · exact Effect.saving saving (Or.inr ⟨k, lease, moved⟩)
  | returnStream k =>
    obtain ⟨system, moved, rfl⟩ := onSession_eq_some.mp taken
    exact Effect.thread (.returnStream k) trivial moved
  | writePreview k answers =>
    simp only [threadStep] at taken
    split at taken
    · cases taken
    · rename_i frameNumber found
      obtain ⟨u, wrote, rfl⟩ := Option.map_eq_some_iff.mp taken
      obtain ⟨written, rfl⟩ := writePreview_perform wrote
      have some_worker : s.previewWorkers ≠ [] := by
        rintro none_left
        simp [none_left] at found
      have one : perform s.writer (.blockWaitAndWrite frameNumber answers) =
          [Call.blockWaitAndWrite frameNumber answers].foldl perform s.writer := rfl
      rw [one]
      exact Effect.saving (saves some_worker) (Or.inl rfl)
  | encode store =>
    cases taken
    exact Effect.encoded
  | configure _ | start | waitForPreviews _ | readLine _ _ _ | processRequest | post _
  | withdraw | write _ | timeOut | join | close _ | releaseAll _ _ => cases taken

theorem step_effect {a : Label} (saves : SavesOnly options s)
    (taken : step D processors options s a = some t) : Effect D processors options s t := by
  unfold step at taken
  split at taken
  · rename_i u moved
    cases taken
    exact mainStep_effect moved
  · exact threadStep_effect saves taken

theorem capture_workers (options : CliOptions) (path : String) (fence : FenceAnswers) (now : Int)
    (s : Program δ π) :
    (capture options path fence now s).previewWorkers = s.previewWorkers := by
  unfold capture
  simp only
  split
  · split
    · split <;> rfl
    · rfl
  · rfl

end Effects

section Sessions

variable {D : DriverAdapter δ} {processors : List (Option (OutputProcessor π))}
  {s t : System δ π}

/-- The labels under which no request comes in. -/
def Steady : Hal.SessionSystem.Label → Prop
  | .processRequest _ | .post _ _ => False
  | _ => True

theorem OfThread.steady {a : Hal.SessionSystem.Label} (own : OfThread a) : Steady a := by
  cases a <;> first | exact own.elim | trivial

theorem steady_frame {a : Hal.SessionSystem.Label} (steady : Steady a)
    (taken : Hal.SessionSystem.step D processors callbacks s a = some t) :
    t.accepted = s.accepted ∧ t.admitting = s.admitting := by
  cases a with
  | configureStreams registered =>
    cases taken
    exact ⟨rfl, rfl⟩
  | startStreaming =>
    cases taken
    exact ⟨rfl, rfl⟩
  | processRequest request => exact steady.elim
  | post k accepted => exact steady.elim
  | runTask k now =>
    obtain ⟨id, request, -, ⟨result, session, -, rfl⟩ | ⟨session, -, rfl⟩⟩ :=
      runTaskStep_outcome D taken <;> exact ⟨rfl, rfl⟩
  | dequeue readyFd =>
    cases taken
    exact ⟨rfl, rfl⟩
  | process k now =>
    simp only [Hal.SessionSystem.step, Hal.SessionSystem.processStep] at taken
    split at taken
    · cases taken
    · cases taken
      simp only [Hal.SessionSystem.afterCompletion]
      split <;> exact ⟨rfl, rfl⟩
  | dispatch k =>
    simp only [Hal.SessionSystem.step, Hal.SessionSystem.dispatchStep] at taken
    split at taken <;> cases taken
    exact ⟨rfl, rfl⟩
  | streamCallback k lease =>
    simp only [Hal.SessionSystem.step, Hal.SessionSystem.streamCallbackStep] at taken
    split at taken <;> cases taken
    exact ⟨rfl, rfl⟩
  | returnStream k =>
    simp only [Hal.SessionSystem.step, Hal.SessionSystem.returnStep] at taken
    split at taken <;> cases taken
    exact ⟨rfl, rfl⟩
  | flush now =>
    cases taken
    exact ⟨rfl, rfl⟩
  | close now =>
    cases taken
    exact ⟨rfl, rfl⟩

theorem steady_fresh {a : Hal.SessionSystem.Label} (steady : Steady a) :
    FreshAdmission s a := by
  cases a <;> first | exact steady.elim | trivial

end Sessions

section Requests

variable {D : DriverAdapter δ} {processors : List (Option (OutputProcessor π))}
  {options : CliOptions} {s t : Program δ π}

def floor (s : Program δ π) : Nat :=
  match s.stage with
  | .requesting r => r.frameNumber
  | .posting frameNumber | .refused frameNumber => frameNumber
  | _ => s.nextFrame

def inPost : Stage → List Nat
  | .posting frameNumber => [frameNumber]
  | _ => []

structure Requests (options : CliOptions) (s : Program δ π) : Prop where
  saves : SavesOnly options s
  accounted : Accounted s.system
  rising : (s.system.accepted.map CaptureRequest.frameNumber).Pairwise (· < ·)
  below : ∀ request ∈ s.system.accepted, request.frameNumber < floor s
  issued : ∀ f ∈ s.stage.frame, f < s.nextFrame
  admitting : s.system.admitting.map CaptureRequest.frameNumber = inPost s.stage

theorem MayEnd.frame {stage : Stage} (may : MayEnd stage) :
    stage.frame = [] ∧ inPost stage = [] := by
  cases stage <;> first | exact may.elim | exact ⟨rfl, rfl⟩

theorem Requests.pending_accepted (R : Requests options s) {f : Nat}
    (member : f ∈ (pending s.system).map Prod.snd) :
    ∃ request ∈ s.system.accepted, request.frameNumber = f := by
  obtain ⟨⟨id, g⟩, awaiting, rfl⟩ := List.mem_map.mp member
  have listed := R.accounted.partition.subset (List.mem_append_left _ awaiting)
  obtain ⟨⟨request, n⟩, inside, same⟩ := List.mem_map.mp listed
  obtain ⟨rfl, rfl⟩ := Prod.mk.inj same
  exact ⟨request, List.fst_mem_of_mem_zipIdx inside, rfl⟩

theorem Requests.steady (R : Requests options s) {a : Hal.SessionSystem.Label} {system : System δ π}
    (taken : Hal.SessionSystem.step D processors callbacks s.system a = some system)
    (steady : Steady a) (stage : Stage) (same : floor { s with stage := stage } = floor s)
    (frame : ∀ f ∈ stage.frame, f ∈ s.stage.frame) (none_posted : inPost stage = inPost s.stage) :
    Requests options { s with system := system, stage := stage } := by
  obtain ⟨accepted, admitting⟩ := steady_frame steady taken
  refine ⟨R.saves, step_accounted D processors R.accounted (steady_fresh steady) taken, ?_, ?_,
    fun f member => R.issued f (frame f member), ?_⟩
  · simp only [accepted]
    exact R.rising
  · intro request member
    simp only [accepted] at member
    have small := R.below request member
    rw [← same] at small
    exact small
  · simp only [admitting]
    rw [none_posted]
    exact R.admitting

theorem Requests.move (R : Requests options s) (stage : Stage)
    (same : floor s ≤ floor { s with stage := stage })
    (frame : ∀ f ∈ stage.frame, f ∈ s.stage.frame) (none_posted : inPost stage = inPost s.stage) :
    Requests options { s with stage := stage } where
  saves := R.saves
  accounted := R.accounted
  rising := R.rising
  below := fun request member => Nat.lt_of_lt_of_le (R.below request member) same
  issued := fun f member => R.issued f (frame f member)
  admitting := by rw [none_posted]; exact R.admitting

theorem capture_moves (options : CliOptions) (path : String) (fence : FenceAnswers) (now : Int)
    (s : Program δ π) :
    (capture options path fence now s).system = s.system ∧
      (capture options path fence now s).nextFrame = s.nextFrame + 1 ∧
      ((capture options path fence now s).stage = s.stage ∨
        ∃ r, (capture options path fence now s).stage = .requesting r ∧
          r.frameNumber = s.nextFrame) := by
  unfold capture
  simp only
  split
  · split
    · split
      · exact ⟨rfl, rfl, Or.inr ⟨_, rfl, rfl⟩⟩
      · exact ⟨rfl, rfl, Or.inl rfl⟩
    · exact ⟨rfl, rfl, Or.inl rfl⟩
  · exact ⟨rfl, rfl, Or.inr ⟨_, rfl, rfl⟩⟩

private theorem captured_requests (R : Requests options s) (prompting : s.stage = .prompting)
    (path : String) (fence : FenceAnswers) (now : Int) :
    Requests options (capture options path fence now s) := by
  obtain ⟨system, next, stage⟩ := capture_moves options path fence now s
  have workers := capture_workers options path fence now s
  have before : ∀ request ∈ s.system.accepted, request.frameNumber < s.nextFrame := by
    intro request member
    have small := R.below request member
    simpa only [floor, prompting] using small
  have none_admitting := R.admitting
  simp only [prompting, inPost] at none_admitting
  refine ⟨?_, by rw [system]; exact R.accounted, by rw [system]; exact R.rising, ?_, ?_, ?_⟩
  · intro some_worker
    rw [workers] at some_worker
    exact R.saves some_worker
  · intro request member
    rw [system] at member
    have small := before request member
    rcases stage with same | ⟨r, requesting, frame⟩
    · simp only [floor, same, prompting, next]
      omega
    · simp only [floor, requesting, frame]
      exact small
  · intro f member
    rcases stage with same | ⟨r, requesting, frame⟩
    · rw [same, prompting] at member
      cases member
    · rw [requesting] at member
      obtain rfl := List.mem_singleton.mp member
      omega
  · rw [system]
    rcases stage with same | ⟨r, requesting, frame⟩
    · rw [same, prompting]
      exact none_admitting
    · rw [requesting]
      exact none_admitting

private theorem admitted_requests (D : DriverAdapter δ)
    (processors : List (Option (OutputProcessor π))) (R : Requests options s) {r : CaptureRequest}
    (requesting : s.stage = .requesting r) (serving : rejectRequest s.system.session = false) :
    Requests options
      { s with
        system := { s.system with admitting := s.system.admitting ++ [r] }
        stage := .posting r.frameNumber } := by
  have taken : Hal.SessionSystem.step D processors callbacks s.system (.processRequest r) =
      some { s.system with admitting := s.system.admitting ++ [r] } := by
    simp [Hal.SessionSystem.step, serving]
  have none_admitting := R.admitting
  simp only [requesting, inPost] at none_admitting
  refine ⟨R.saves, step_accounted D processors R.accounted
    (a := .processRequest r) trivial taken, R.rising, ?_, ?_, ?_⟩
  · intro request member
    have small := R.below request member
    simpa only [floor, requesting] using small
  · intro f member
    exact R.issued f (by rw [requesting]; exact member)
  · simp [none_admitting, inPost]

private theorem posted_requests (R : Requests options s) {frameNumber : Nat} {accepted : Bool}
    {system : System δ π} (posting : s.stage = .posting frameNumber)
    (moved : Hal.SessionSystem.step D processors callbacks s.system (.post 0 accepted) =
      some system) :
    Requests options
      { s with
        system := system
        stage := if accepted then .awaiting frameNumber else .refused frameNumber } := by
  have one := R.admitting
  simp only [posting, inPost] at one
  obtain ⟨r, rest, admitting, rfl, none_left⟩ := List.map_eq_cons_iff.mp one
  obtain rfl := List.map_eq_nil_iff.mp none_left
  have small : ∀ request ∈ s.system.accepted, request.frameNumber < r.frameNumber := by
    intro request member
    have bound := R.below request member
    simpa only [floor, posting] using bound
  have issued : r.frameNumber < s.nextFrame :=
    R.issued r.frameNumber (by rw [posting]; exact List.mem_singleton_self _)
  have fresh : FreshAdmission s.system (.post 0 accepted) := by
    cases accepted with
    | false => trivial
    | true =>
      intro request found member
      rw [admitting] at found
      cases found
      obtain ⟨other, before, same⟩ := R.pending_accepted member
      have apart := small other before
      omega
  have accounted := step_accounted D processors R.accounted fresh moved
  rcases postStep_outcome moved with ⟨rfl, rfl⟩ | ⟨request, found, rfl, rfl⟩
  · refine ⟨R.saves, accounted, R.rising, ?_, ?_, ?_⟩
    · exact small
    · intro f member
      obtain rfl := List.mem_singleton.mp member
      exact issued
    · simp [admitting, inPost]
  · rw [admitting] at found
    cases found
    refine ⟨R.saves, accounted, ?_, ?_, ?_, ?_⟩
    · simp only [List.map_append, List.map_cons, List.map_nil]
      refine List.pairwise_append.mpr ⟨R.rising, List.pairwise_singleton _ _, ?_⟩
      intro f member g last
      obtain ⟨request, before, rfl⟩ := List.mem_map.mp member
      obtain rfl := List.mem_singleton.mp last
      exact small request before
    · intro request member
      rcases List.mem_append.mp member with before | last
      · exact Nat.lt_trans (small request before) issued
      · obtain rfl := List.mem_singleton.mp last
        exact issued
    · intro f member
      obtain rfl := List.mem_singleton.mp member
      exact issued
    · simp [admitting, inPost]

theorem Effect.requests (E : Effect D processors options s t) (R : Requests options s) :
    Requests options t := by
  cases E with
  | configured prepared taken next =>
    rcases next with rfl | rfl
    · exact R.steady taken trivial _ (by simp [floor, prepared]) (by simp [Stage.frame])
        (by simp [inPost, prepared])
    · exact R.steady taken trivial _ (by simp [floor, prepared]) (by simp [Stage.frame])
        (by simp [inPost, prepared])
  | started configured taken next =>
    rcases next with ⟨-, rfl⟩ | rfl
    · split
      · exact R.steady taken trivial _ (by simp [floor, configured]) (by simp [Stage.frame])
          (by simp [inPost, configured])
      · exact R.steady taken trivial _ (by simp [floor, configured]) (by simp [Stage.frame])
          (by simp [inPost, configured])
    · exact R.steady taken trivial _ (by simp [floor, configured]) (by simp [Stage.frame])
        (by simp [inPost, configured])
  | @ending stage may ends =>
    have still : floor s = s.nextFrame := by
      unfold floor
      revert may
      cases s.stage <;> first | exact fun _ => rfl | exact fun no => no.elim
    have none_before := may.frame
    rcases ends with ⟨workers, success, rfl⟩ | ⟨success, rfl⟩
    · exact R.move _ still.le (by simp [Stage.frame]) none_before.2.symm
    · exact R.move _ still.le (by simp [Stage.frame]) none_before.2.symm
  | asked => exact R
  | captured prompting named => exact captured_requests R prompting _ _ _
  | rejected requesting =>
    exact R.move _ (by simp [floor, requesting]) (by simp [Stage.frame, requesting])
      (by simp [inPost, requesting])
  | admitted requesting serving =>
    exact admitted_requests D processors R requesting serving
  | posted posting moved => exact posted_requests R posting moved
  | withdrawn refused =>
    have moved := R.move .prompting (by
      have issued := R.issued _ (by rw [refused]; exact List.mem_singleton_self _)
      simp only [floor, refused]
      exact issued.le) (by simp [Stage.frame]) (by simp [inPost, refused])
    exact ⟨moved.saves, moved.accounted, moved.rising, moved.below, moved.issued,
      moved.admitting⟩
  | written awaiting returns answered =>
    have moved := R.move .prompting (by simp [floor, awaiting]) (by simp [Stage.frame])
      (by simp [inPost, awaiting])
    exact ⟨moved.saves, moved.accounted, moved.rising, moved.below, moved.issued,
      moved.admitting⟩
  | timedOut awaiting =>
    have moved := R.move .prompting (by simp [floor, awaiting]) (by simp [Stage.frame])
      (by simp [inPost, awaiting])
    exact ⟨moved.saves, moved.accounted, moved.rising, moved.below, moved.issued,
      moved.admitting⟩
  | closed leaving taken =>
    exact R.steady taken trivial _ (by simp [floor, leaving]) (by simp [Stage.frame])
      (by simp [inPost, leaving])
  | @released success previews captures closed allPreviews allCaptures =>
    have moved := R.move (.left success) (by simp [floor, closed]) (by simp [Stage.frame])
      (by simp [inPost, closed])
    exact ⟨moved.saves, moved.accounted, moved.rising, moved.below, moved.issued,
      moved.admitting⟩
  | thread a own taken =>
    exact R.steady taken own.steady s.stage rfl (fun _ same => same) rfl
  | @dispatched k id result found =>
    have taken : Hal.SessionSystem.step D processors callbacks s.system (.dispatch k) =
        some { s.system with
          prepared := s.system.prepared.eraseIdx k
          dispatched := s.system.dispatched ++ [(.capture id, result)] } := by
      simp [Hal.SessionSystem.step, Hal.SessionSystem.dispatchStep, found, callbacks]
    have moved := R.steady taken trivial s.stage rfl (fun _ same => same) rfl
    exact ⟨moved.saves, moved.accounted, moved.rising, moved.below, moved.issued,
      moved.admitting⟩
  | saving saves moved =>
    rcases moved with rfl | ⟨k, lease, taken⟩
    · exact ⟨fun _ => saves, R.accounted, R.rising, R.below, R.issued, R.admitting⟩
    · have moved := R.steady taken trivial s.stage rfl (fun _ same => same) rfl
      exact ⟨fun _ => saves, moved.accounted, moved.rising, moved.below, moved.issued,
        moved.admitting⟩
  | encoded => exact ⟨R.saves, R.accounted, R.rising, R.below, R.issued, R.admitting⟩

structure Answered (options : CliOptions) (answers : List Allocation)
    (fences : List FenceAnswers) : Prop where
  buffers : answers.length = options.poolSize
  distinct : (answers.map Allocation.address).Nodup
  previews : fences.length = if options.ownsPreviews then options.bufferCount else 0

theorem prepare_cases {answers : List Allocation} {fences : List FenceAnswers}
    {driver : Option δ} {p : π} (prepared : prepare options answers fences driver p = some s) :
    ∃ pool targets tracker pools, Answered options answers fences ∧
      (preparePool options answers = some pool ∧
        preparePreviews options fences 0 [] {} [pool] = some (targets, tracker, pools)) ∧
      s =
        { system := System.initial (sessionConfig options targets) driver p
          writer := { previewBuffers := tracker, encodedFrames := some {}, pools := pools }
          stage := .prepared
          nextFrame := 1
          previewFramesWritten := 0
          previewWorkers := []
          timedOut := [] } := by
  unfold prepare at prepared
  by_cases answered : answers.length = options.poolSize ∧
      (answers.map Allocation.address).Nodup ∧
      fences.length = (if options.ownsPreviews then options.bufferCount else 0)
  · rw [if_pos answered] at prepared
    obtain ⟨pool, made, rest⟩ := Option.bind_eq_some_iff.mp prepared
    obtain ⟨⟨targets, tracker, pools⟩, taken, rfl⟩ := Option.map_eq_some_iff.mp rest
    exact ⟨pool, targets, tracker, pools, ⟨answered.1, answered.2.1, answered.2.2⟩,
      ⟨made, taken⟩, rfl⟩
  · rw [if_neg answered] at prepared
    cases prepared

theorem prepare_requests {answers : List Allocation} {fences : List FenceAnswers}
    {driver : Option δ} {p : π} (prepared : prepare options answers fences driver p = some s) :
    Requests options s := by
  obtain ⟨pool, targets, tracker, pools, -, -, rfl⟩ := prepare_cases prepared
  refine ⟨fun some_worker => (some_worker rfl).elim, ?_, ?_, ?_, ?_, rfl⟩
  · refine ⟨Hal.TokenBijection.initial_tracked _ driver p, ?_, ?_⟩ <;>
      simp [pending, delivered, acceptedFrames, System.initial,
        Hal.CameraDeviceSession.Session.create, Hal.InFlightRequestTracker.Tracker.empty]
  · simp [System.initial]
  · simp [System.initial]
  · simp [Stage.frame]

theorem reachable_requests {answers : List Allocation} {fences : List FenceAnswers}
    {driver : Option δ} {p : π} {s₀ : Program δ π} {permitted : Program δ π → Label → Prop}
    (prepared : prepare options answers fences driver p = some s₀)
    (run : Reaches (step D processors options) permitted s₀ s) : Requests options s := by
  refine run.invariant (Requests options) ?_ (prepare_requests prepared)
  intro s a t R _ taken
  exact (step_effect R.saves taken).requests R

def deliveredFrames (s : Program δ π) : List Nat := (delivered s.system).map Prod.snd

theorem Requests.frames (R : Requests options s) :
    ((pending s.system).map Prod.snd ++ deliveredFrames s).Perm
      (s.system.accepted.map CaptureRequest.frameNumber) := by
  have listed : (acceptedFrames s.system).map Prod.snd =
      s.system.accepted.map CaptureRequest.frameNumber := by
    have split_off : (acceptedFrames s.system).map Prod.snd =
        (s.system.accepted.zipIdx.map Prod.fst).map CaptureRequest.frameNumber := by
      simp only [acceptedFrames, List.map_map, Function.comp_def]
    rw [split_off, List.zipIdx_map_fst]
  have whole := R.accounted.partition.map Prod.snd
  rw [listed, List.map_append] at whole
  exact whole

/-- The program never reuses a frame number, whatever lines it reads, whatever the driver does and
whenever it stops waiting: the accepted frames rise, and the queued, in-flight, prepared and
delivered ones together are the accepted ones, each once. After the session is closed and its
threads have nothing left to do, each of them has its result. -/
theorem frames_answered_once (D : DriverAdapter δ) (processors : List (Option (OutputProcessor π)))
    (options : CliOptions) (answers : List Allocation) (fences : List FenceAnswers)
    (driver : Option δ) (p : π) (s₀ s : Program δ π)
    (prepared : prepare options answers fences driver p = some s₀)
    (run : Reaches (step D processors options) always s₀ s) :
    (s.system.accepted.map CaptureRequest.frameNumber).Pairwise (· < ·) ∧
      ((pending s.system).map Prod.snd ++ deliveredFrames s).Perm
        (s.system.accepted.map CaptureRequest.frameNumber) ∧
      (s.system.session.state = .stopped → s.system.tasks = [] → s.system.prepared = [] →
        (deliveredFrames s).Perm (s.system.accepted.map CaptureRequest.frameNumber)) := by
  have R := reachable_requests prepared run
  refine ⟨R.rising, R.frames, fun stopped tasks prepared => ?_⟩
  have whole := R.frames
  have rows := R.accounted.tracked.stopped stopped
  have none_left : (pending s.system).map Prod.snd = [] := by
    simp [pending, tasks, prepared, rows, Hal.InFlightRequestTracker.Tracker.empty]
  rw [none_left] at whole
  exact whole

end Requests

section Scripts

theorem exists_prepared_run (D : DriverAdapter δ) (processors : List (Option (OutputProcessor π)))
    (options : CliOptions) (permitted : Program δ π → Label → Prop)
    [∀ s a, Decidable (permitted s a)] (answers : List Allocation) (fences : List FenceAnswers)
    (driver : Option δ) (p : π) (script : List Label) (test : Program δ π → Bool)
    (played : (prepare options answers fences driver p).any (fun s₀ =>
      (replay (step D processors options) permitted s₀ script).any test) = true) :
    ∃ s₀ s, prepare options answers fences driver p = some s₀ ∧
      Reaches (step D processors options) permitted s₀ s ∧ test s = true := by
  obtain ⟨s₀, prepared, rest⟩ := (Option.any_eq_true _ _).mp played
  obtain ⟨s, run, passed⟩ := exists_reaches_of_replay _ permitted s₀ script test rest
  exact ⟨s₀, s, prepared, run, passed⟩

end Scripts

section Witness

open MiniCam.Hal.MockDriverAdapter (MockDriver adapter)

/-- The first capture is given up before its result comes, the second is read for an empty line and
a usage, the third finds the queue full, the fourth is in flight when the input ends. -/
private def fourLines : List Label :=
  [.configure true, .start, .readLine (some "capture a.jpg") {} 0, .processRequest, .post true,
   .timeOut, .readLine (some "  ") {} 1, .readLine (some "snap") {} 1,
   .readLine (some "b.jpg") {} 2, .processRequest, .runTask 0 3, .post false, .withdraw,
   .readLine (some "\tc.jpg d.jpg") {} 4, .processRequest, .post true, .runTask 0 5,
   .dequeue 5, .process 0 6, .dispatch 0, .timeOut, .readLine (some "exit") {} 7, .join, .close 8,
   .dispatch 0]

theorem frames_answered_once_input_ends :
    ∃ s : Program MockDriver Unit,
      s.system.dispatched.map (fun entry => entry.2.status) = [.ok, .flushed] ∧
      s.timedOut = [1, 3] ∧ (deliveredFrames s).Perm [1, 3] := by
  obtain ⟨s₀, s, prepared, run, passed⟩ := exists_prepared_run adapter [] {} always [] []
    (some ({} : MockDriver)) () fourLines
    (fun s => s.system.dispatched.map (fun entry => entry.2.status) == [.ok, .flushed] &&
      s.timedOut == [1, 3] && s.system.accepted.map CaptureRequest.frameNumber == [1, 3] &&
      s.system.session.state == .stopped && s.system.tasks == [] && s.system.prepared == [])
    (by decide +kernel)
  simp only [Bool.and_eq_true, beq_iff_eq] at passed
  obtain ⟨⟨⟨⟨⟨results, timedOut⟩, accepted⟩, stopped⟩, tasks⟩, sent⟩ := passed
  have answered := (frames_answered_once adapter [] {} [] [] (some {}) () s₀ s prepared run).2.2
    stopped tasks sent
  rw [accepted] at answered
  exact ⟨s, results, timedOut, answered⟩

end Witness

end MiniCam.App.CommandLineSteps
