/- Module: MiniCam/Hal/DriverProtocol
   source: hal/camera_device_session.cpp, hal/driver_adapter.h
   digest: The driver calls of every schedule of a session, in the order of the protocol. -/

import MiniCam.Foundation.Histories
import MiniCam.Hal.MockDriverAdapter
import MiniCam.Hal.SessionSpec

set_option autoImplicit false
set_option relaxedAutoImplicit false

namespace MiniCam.Hal.DriverProtocol

open MiniCam.Foundation.Histories
open MiniCam.Foundation.Runs
open MiniCam.Hal.Interface
open MiniCam.Hal.InFlightRequestTracker
open MiniCam.Hal.CameraDeviceSession
open MiniCam.Hal.SessionSystem
open MiniCam.Hal.SessionSpec
open MiniCam.Hal.MockDriverAdapter (MockDriver adapter)

variable {δ π : Type}

section Calls

inductive Call where
  | configureStream (ok : Bool)
  | startStreaming (ok : Bool)
  | startContinuousStream
  | stopStreaming
  | close
  | canSubmitCaptureOutputs
  | submitCapture
  | dequeueCompletion
  | returnStreamBuffer
  deriving DecidableEq

def logged {α : Type} (answer : α × δ) (log : List Call) (call : Call) : α × δ × List Call :=
  (answer.1, answer.2, log ++ [call])

/-- The driver `D` with a log of the calls made on it. `event_fds` and `last_error` only read. -/
def traced (D : DriverAdapter δ) : DriverAdapter (δ × List Call) where
  configureStream := fun d =>
    logged (D.configureStream d.1) d.2 (.configureStream (D.configureStream d.1).1)
  startStreaming := fun d =>
    logged (D.startStreaming d.1) d.2 (.startStreaming (D.startStreaming d.1).1)
  startContinuousStream := fun stream buffers d =>
    logged (D.startContinuousStream stream buffers d.1) d.2 .startContinuousStream
  stopStreaming := fun d => (D.stopStreaming d.1, d.2 ++ [.stopStreaming])
  close := fun d => (D.close d.1, d.2 ++ [.close])
  canSubmitCaptureOutputs := fun outputs d =>
    logged (D.canSubmitCaptureOutputs outputs d.1) d.2 .canSubmitCaptureOutputs
  submitCapture := fun target d => logged (D.submitCapture target d.1) d.2 .submitCapture
  dequeueCompletion := fun readyFd d =>
    logged (D.dequeueCompletion readyFd d.1) d.2 .dequeueCompletion
  returnStreamBuffer := fun lease d =>
    logged (D.returnStreamBuffer lease d.1) d.2 .returnStreamBuffer
  eventFds := fun d => D.eventFds d.1
  lastError := fun d => D.lastError d.1

def Call.needsStream : Call → Bool
  | .startContinuousStream | .canSubmitCaptureOutputs | .submitCapture | .dequeueCompletion
  | .returnStreamBuffer => true
  | .configureStream _ | .startStreaming _ | .stopStreaming | .close => false

def Call.configures : Call → Bool
  | .configureStream _ => true
  | _ => false

/-- A successful `start_streaming` with no `stop_streaming` or `close` since. -/
def Started (log : List Call) : Prop :=
  Since (fun call => call = .startStreaming true)
    (fun call => call = .stopStreaming ∨ call = .close) log

def Allowed (before : List Call) : Call → Prop
  | .configureStream _ => before = []
  | .startStreaming _ => .configureStream true ∈ before ∧ .close ∉ before
  | .startContinuousStream | .canSubmitCaptureOutputs | .submitCapture | .dequeueCompletion
  | .returnStreamBuffer => Started before ∧ .close ∉ before
  | .stopStreaming | .close => .close ∉ before

/-- The calls of a session in each of its states. A session is in Flushing or Stopping only
inside a locked section. -/
def Fits : CameraSessionState → List Call → Prop
  | .created, log => log = []
  | .configured, log => .configureStream true ∈ log ∧ .close ∉ log
  | .streaming, log => .configureStream true ∈ log ∧ Started log ∧ .close ∉ log
  | .error, log => .close ∉ log
  | .stopped, _ => True
  | .flushing, _ | .stopping, _ => False

structure Disciplined (s : Session (δ × List Call)) : Prop where
  settled : s.state ≠ .flushing ∧ s.state ≠ .stopping
  ordered : ∀ d log, s.driver = some (d, log) → Permitted Allowed log ∧ Fits s.state log

theorem started_append {log : List Call} {call : Call} (streams : call.needsStream = true)
    (started : Started log) : Started (log ++ [call]) := by
  refine since_snoc.mpr (Or.inr ⟨started, ?_⟩)
  rintro (rfl | rfl) <;> cases streams

def Running (log : List Call) : Prop := Permitted Allowed log ∧ Fits .streaming log

theorem Running.call {log : List Call} (R : Running log) (call : Call)
    (streams : call.needsStream = true) : Running (log ++ [call]) := by
  obtain ⟨ordered, configured, started, unclosed⟩ := R
  refine ⟨ordered.snoc ?_, ?_, started_append streams started, ?_⟩
  · cases call <;> first | exact ⟨started, unclosed⟩ | cases streams
  · exact List.mem_append_left _ configured
  · intro closed
    rcases List.mem_append.mp closed with old | new
    · exact unclosed old
    · rw [← List.mem_singleton.mp new] at streams
      cases streams

theorem fits_unclosed {state : CameraSessionState} {log : List Call} (fits : Fits state log)
    (running : state ≠ .stopped) : .close ∉ log := by
  cases state with
  | created =>
    rw [show log = [] from fits]
    exact List.not_mem_nil
  | configured => exact fits.2
  | streaming => exact fits.2.2
  | error => exact fits
  | stopped => exact absurd rfl running
  | flushing | stopping => exact fits.elim

end Calls

section Sections

variable (D : DriverAdapter δ)

theorem configure_disciplined {s : Session (δ × List Call)} (S : Disciplined s)
    (registered : Bool) : Disciplined (configureStreams (traced D) registered s).2 := by
  simp only [configureStreams]
  split
  · exact S
  rename_i d driver
  split
  case isFalse => exact S
  rename_i created
  obtain ⟨ordered, fits⟩ := S.ordered d.1 d.2 driver
  rw [created] at fits
  have fresh : d.2 = [] := fits
  have called : Permitted Allowed (d.2 ++ [.configureStream (D.configureStream d.1).1]) :=
    ordered.snoc fresh
  have unclosed : Call.close ∉ d.2 ++ [.configureStream (D.configureStream d.1).1] := by
    rw [fresh]
    simp
  split
  · rename_i d' answer
    obtain ⟨-, rfl⟩ := Prod.mk.inj answer
    refine ⟨⟨by simp, by simp⟩, ?_⟩
    intro d₁ log same
    cases same
    exact ⟨called, unclosed⟩
  · rename_i d' answer
    obtain ⟨ok, rfl⟩ := Prod.mk.inj answer
    split
    · refine ⟨⟨by simp, by simp⟩, ?_⟩
      intro d₁ log same
      cases same
      refine ⟨called, ?_, unclosed⟩
      rw [show (D.configureStream d.1).1 = true from ok]
      exact List.mem_append_right _ (List.mem_singleton.mpr rfl)
    · refine ⟨⟨by simp, by simp⟩, ?_⟩
      intro d₁ log same
      cases same
      exact ⟨called, unclosed⟩

theorem start_called {s : Session (δ × List Call)} (S : Disciplined s) {d d' : δ × List Call}
    {ok : Bool} (driver : s.driver = some d) (configured : s.state = .configured)
    (answer : (traced D).startStreaming d = (ok, d')) :
    Permitted Allowed d'.2 ∧ .close ∉ d'.2 ∧ (ok = true → Running d'.2) := by
  obtain ⟨ordered, fits⟩ := S.ordered d.1 d.2 driver
  rw [configured] at fits
  obtain ⟨member, unclosed⟩ := fits
  obtain ⟨same, rfl⟩ := Prod.mk.inj answer
  have same' : (D.startStreaming d.1).1 = ok := same
  have called : Permitted Allowed (d.2 ++ [.startStreaming (D.startStreaming d.1).1]) :=
    ordered.snoc ⟨member, unclosed⟩
  have still : Call.close ∉ d.2 ++ [.startStreaming (D.startStreaming d.1).1] := by
    simpa using unclosed
  refine ⟨called, still, ?_⟩
  intro success
  refine ⟨called, List.mem_append_left _ member, since_snoc.mpr (Or.inl ?_), still⟩
  rw [same', success]

theorem start_disciplined {s : Session (δ × List Call)} (S : Disciplined s) :
    Disciplined (startStreaming (traced D) s).2 := by
  have outcome := startStreaming_outcome (traced D) s
  generalize (startStreaming (traced D) s).2 = s' at outcome ⊢
  cases outcome with
  | ignored unready => exact S
  | failed driver configured answer =>
    obtain ⟨called, unclosed, -⟩ := start_called D S driver configured answer
    refine ⟨⟨by simp, by simp⟩, ?_⟩
    intro d₁ log same
    cases same
    exact ⟨called, unclosed⟩
  | plain driver configured answer preview =>
    obtain ⟨-, -, running⟩ := start_called D S driver configured answer
    refine ⟨⟨by simp, by simp⟩, ?_⟩
    intro d₁ log same
    cases same
    exact running rfl
  | unsupplied driver configured answer preview empty =>
    obtain ⟨called, unclosed, -⟩ := start_called D S driver configured answer
    refine ⟨⟨by simp, by simp⟩, ?_⟩
    intro d₁ log same
    cases same
    exact ⟨called, unclosed⟩
  | refused driver configured answer preview offered short =>
    obtain ⟨-, -, running⟩ := start_called D S driver configured answer
    obtain ⟨-, rfl⟩ := Prod.mk.inj offered
    have streaming := (running rfl).call .startContinuousStream rfl
    refine ⟨⟨by simp, by simp⟩, ?_⟩
    intro d₁ log same
    cases same
    exact ⟨streaming.1, streaming.2.2.2⟩
  | @bound d d' d'' stream tokens ok tracker driver configured answer preview supplied offered =>
    obtain ⟨-, -, running⟩ := start_called D S driver configured answer
    obtain ⟨-, rfl⟩ := Prod.mk.inj offered
    have streaming := (running rfl).call .startContinuousStream rfl
    refine ⟨⟨by cases ok <;> simp, by cases ok <;> simp⟩, ?_⟩
    intro d₁ log same
    cases same
    cases ok
    · exact ⟨streaming.1, streaming.2.2.2⟩
    · exact streaming

theorem Disciplined.streaming {s s' : Session (δ × List Call)} (S : Disciplined s)
    {d d' : δ × List Call} (driver : s.driver = some d) (streaming : s.state = .streaming)
    (driver' : s'.driver = some d') (streaming' : s'.state = .streaming)
    (calls : Running d.2 → Running d'.2) : Disciplined s' := by
  obtain ⟨ordered, fits⟩ := S.ordered d.1 d.2 driver
  rw [streaming] at fits
  refine ⟨by simp [streaming'], ?_⟩
  intro d₁ log same
  rw [driver'] at same
  cases same
  rw [streaming']
  exact calls ⟨ordered, fits⟩

theorem Disciplined.silent {s s' : Session (δ × List Call)} (S : Disciplined s)
    (driver : s'.driver = s.driver) (state : s'.state = s.state) : Disciplined s' := by
  refine ⟨by rw [state]; exact S.settled, ?_⟩
  rw [driver, state]
  exact S.ordered

theorem submitOutputs_running (frameNumber : Nat)
    (pairs : List (OutputBufferTarget × InFlightOutput)) {d d' : δ × List Call} {t t' : Tracker}
    {ok : Bool} (run : submitOutputs (traced D) frameNumber pairs d t = (ok, d', t'))
    (R : Running d.2) :
    Running d'.2 := by
  induction pairs generalizing d t with
  | nil =>
    cases run
    exact R
  | cons pair rest ih =>
    obtain ⟨target, output⟩ := pair
    have called := R.call .submitCapture rfl
    simp only [submitOutputs] at run
    split at run
    · rename_i d₁ answer
      obtain ⟨-, rfl⟩ := Prod.mk.inj answer
      cases run
      exact called
    · rename_i token d₁ answer
      obtain ⟨-, rfl⟩ := Prod.mk.inj answer
      split at run
      · cases run
        exact called
      · exact ih run called

theorem submit_disciplined {s s' : Session (δ × List Call)} (S : Disciplined s) {now : Int}
    {request : CaptureRequest} {result : Option CaptureResult}
    (outcome : SubmitOutcome (traced D) now request s result s') : Disciplined s' := by
  cases outcome with
  | rejected closed => exact S.silent rfl rfl
  | refused driver streaming answer message =>
    obtain ⟨-, rfl⟩ := Prod.mk.inj answer
    exact S.streaming driver streaming rfl streaming fun R =>
      R.call .canSubmitCaptureOutputs rfl
  | duplicate driver streaming answer live =>
    obtain ⟨-, rfl⟩ := Prod.mk.inj answer
    exact S.streaming driver streaming rfl streaming fun R =>
      R.call .canSubmitCaptureOutputs rfl
  | failed driver streaming answer absent before stopped =>
    obtain ⟨-, rfl⟩ := Prod.mk.inj answer
    exact S.streaming driver streaming rfl streaming fun R =>
      submitOutputs_running D _ _ stopped (R.call .canSubmitCaptureOutputs rfl)
  | submitted driver streaming answer before finished after bound =>
    obtain ⟨-, rfl⟩ := Prod.mk.inj answer
    exact S.streaming driver streaming rfl streaming fun R =>
      submitOutputs_running D _ _ finished (R.call .canSubmitCaptureOutputs rfl)

theorem dequeue_disciplined {s : Session (δ × List Call)} (S : Disciplined s) (readyFd : Int) :
    Disciplined (dequeueCompletion (traced D) readyFd s).2 := by
  rcases dequeueCompletion_cases (traced D) readyFd s with same | ⟨d, driver, streaming, same⟩
  · rw [same]
    exact S
  · rw [same]
    exact S.streaming driver streaming rfl streaming fun R =>
      R.call .dequeueCompletion rfl

theorem return_disciplined {s : Session (δ × List Call)} (S : Disciplined s)
    (lease : StreamBufferLease) (output : InFlightStreamingOutput) :
    Disciplined (returnStreamBuffer (traced D) lease output s) := by
  rcases returnStreamBuffer_cases (traced D) lease output s with same | ⟨d, d', metrics, driver,
    streaming, ⟨answer, same⟩ | ⟨token, answer, same⟩⟩
  · rw [same]
    exact S
  · rw [same]
    obtain ⟨-, rfl⟩ := Prod.mk.inj answer
    exact S.streaming driver streaming rfl streaming fun R =>
      R.call .returnStreamBuffer rfl
  · rw [same]
    obtain ⟨-, rfl⟩ := Prod.mk.inj answer
    exact S.streaming driver streaming rfl streaming fun R =>
      R.call .returnStreamBuffer rfl

theorem tryFill_frame (processors : List (Option (OutputProcessor π)))
    (completion : DriverCompletion) (now : Int) (p : π) (s : Session δ) :
    (tryFillResultFromCompletion processors completion now p s).2.2.driver = s.driver ∧
      (tryFillResultFromCompletion processors completion now p s).2.2.state = s.state := by
  simp only [tryFillResultFromCompletion]
  split
  · exact ⟨rfl, rfl⟩
  split
  · exact ⟨rfl, rfl⟩
  split
  · exact ⟨rfl, rfl⟩
  · unfold closeFenceFd
    split <;> exact ⟨rfl, rfl⟩
  · exact ⟨rfl, rfl⟩

theorem flush_disciplined {s : Session (δ × List Call)} (S : Disciplined s) (now : Int) :
    Disciplined (flush (traced D) now s).2 := by
  by_cases active : s.state = .streaming ∨ s.state = .configured
  · rw [flush_active (traced D) now active]
    refine ⟨⟨by simp, by simp⟩, ?_⟩
    intro d₁ log same
    obtain ⟨⟨d, before⟩, driver, stopped⟩ := Option.map_eq_some_iff.mp same
    cases stopped
    obtain ⟨ordered, fits⟩ := S.ordered d before driver
    have held : Call.configureStream true ∈ before ∧ .close ∉ before := by
      rcases active with streaming | configured
      · rw [streaming] at fits
        exact ⟨fits.1, fits.2.2⟩
      · rw [configured] at fits
        exact fits
    refine ⟨ordered.snoc held.2, List.mem_append_left _ held.1, ?_⟩
    simpa using held.2
  · rw [flush_inactive (traced D) now active]
    exact S

theorem close_disciplined {s : Session (δ × List Call)} (S : Disciplined s) (now : Int) :
    Disciplined (close (traced D) now s).2 := by
  by_cases stopped : s.state = .stopped
  · rw [close_stopped (traced D) now stopped]
    exact S
  · rw [close_open (traced D) now stopped]
    refine ⟨⟨by simp, by simp⟩, ?_⟩
    intro d₁ log same
    obtain ⟨d', at_driver, closed⟩ := Option.map_eq_some_iff.mp same
    obtain ⟨⟨d, before⟩, driver, idle⟩ := Option.map_eq_some_iff.mp at_driver
    cases idle
    cases closed
    obtain ⟨ordered, fits⟩ := S.ordered d before driver
    have unclosed := fits_unclosed fits stopped
    have halted : Permitted Allowed (before ++ [.stopStreaming]) := ordered.snoc unclosed
    refine ⟨halted.snoc ?_, trivial⟩
    simpa [Allowed] using unclosed

end Sections

section Runs

variable {D : DriverAdapter δ} {processors : List (Option (OutputProcessor π))}
  {callbacks : Callbacks}

theorem step_disciplined {s t : System (δ × List Call) π} {a : Label}
    (S : Disciplined s.session) (taken : step (traced D) processors callbacks s a = some t) :
    Disciplined t.session := by
  cases a with
  | configureStreams registered =>
    cases taken
    exact configure_disciplined D S registered
  | startStreaming =>
    cases taken
    exact start_disciplined D S
  | processRequest request =>
    simp only [step] at taken
    split at taken <;> cases taken
    exact S
  | post k accepted =>
    rcases postStep_outcome taken with ⟨-, rfl⟩ | ⟨request, -, -, rfl⟩ <;>
      exact S
  | runTask k now =>
    obtain ⟨id, request, -, ⟨result, session, outcome, rfl⟩ | ⟨session, outcome, rfl⟩⟩ :=
      runTaskStep_outcome (traced D) taken
    · exact submit_disciplined D S outcome
    · exact submit_disciplined D S outcome
  | dequeue readyFd =>
    cases taken
    exact dequeue_disciplined D S readyFd
  | process k now =>
    simp only [step, processStep] at taken
    split at taken
    · cases taken
    · rename_i completion at_completion
      cases taken
      obtain ⟨driver, state⟩ :=
        tryFill_frame processors completion now s.processorState s.session
      have filled := S.silent driver state
      simp only [afterCompletion]
      split <;> exact filled
  | dispatch k =>
    simp only [step, dispatchStep] at taken
    split at taken <;> cases taken
    exact S
  | streamCallback k lease =>
    simp only [step, streamCallbackStep] at taken
    split at taken <;> cases taken
    exact S
  | returnStream k =>
    simp only [step, returnStep] at taken
    split at taken <;> cases taken
    exact return_disciplined D S _ _
  | flush now =>
    cases taken
    exact flush_disciplined D S now
  | close now =>
    cases taken
    exact close_disciplined D S now

theorem initial_disciplined (config : CameraDeviceSessionConfig) (driver : Option δ) :
    Disciplined (Session.create config (driver.map fun d => (d, ([] : List Call)))) := by
  refine ⟨⟨by simp [Session.create], by simp [Session.create]⟩, ?_⟩
  intro d log same
  obtain ⟨d', -, same'⟩ := Option.map_eq_some_iff.mp same
  cases same'
  exact ⟨Permitted.nil, rfl⟩

/-- In a stopped session no step looks at the driver: whatever the driver's methods were, the
step would be the same. -/
theorem step_stopped (other : DriverAdapter δ) {s : System δ π}
    (stopped : s.session.state = .stopped) (a : Label) :
    step other processors callbacks s a = step D processors callbacks s a := by
  have late : s.session.state ≠ .created := by simp [stopped]
  have unready : s.session.state ≠ .configured := by simp [stopped]
  have idle : s.session.state ≠ .streaming := by simp [stopped]
  cases a with
  | configureStreams registered => simp only [step, configureStreams_ignored _ late]
  | startStreaming => simp only [step, startStep, startStreaming_ignored _ unready]
  | processRequest request => rfl
  | post k accepted => rfl
  | runTask k now =>
    simp only [step, runTaskStep, submitCaptureRequest_rejected _ (rejectRequest_of_idle idle)]
  | dequeue readyFd => simp only [step, dequeueStep, dequeueCompletion_ignored _ idle]
  | process k now => rfl
  | dispatch k => rfl
  | streamCallback k lease => rfl
  | returnStream k => simp only [step, returnStep, returnStreamBuffer_ignored _ idle]
  | flush now => simp only [step, flush_inactive _ now (not_or.mpr ⟨idle, unready⟩)]
  | close now => simp only [step, close_stopped _ now stopped]

theorem stopped_stays {s t : System δ π} {a : Label} (stopped : s.session.state = .stopped)
    (taken : step D processors callbacks s a = some t) : t.session.state = .stopped := by
  have late : s.session.state ≠ .created := by simp [stopped]
  have unready : s.session.state ≠ .configured := by simp [stopped]
  have idle : s.session.state ≠ .streaming := by simp [stopped]
  cases a with
  | configureStreams registered =>
    simp only [step, configureStreams_ignored _ late] at taken
    cases taken
    exact stopped
  | startStreaming =>
    simp only [step, startStep, startStreaming_ignored _ unready] at taken
    cases taken
    exact stopped
  | processRequest request =>
    simp only [step] at taken
    split at taken <;> cases taken
    exact stopped
  | post k accepted =>
    rcases postStep_outcome taken with ⟨-, rfl⟩ | ⟨request, -, -, rfl⟩ <;>
      exact stopped
  | runTask k now =>
    simp only [step, runTaskStep,
      submitCaptureRequest_rejected _ (rejectRequest_of_idle idle)] at taken
    split at taken <;> cases taken
    exact stopped
  | dequeue readyFd =>
    simp only [step, dequeueStep, dequeueCompletion_ignored _ idle] at taken
    cases taken
    exact stopped
  | process k now =>
    simp only [step, processStep] at taken
    split at taken
    · cases taken
    · rename_i completion at_completion
      cases taken
      obtain ⟨-, state⟩ := tryFill_frame processors completion now s.processorState s.session
      simp only [afterCompletion]
      split <;> exact state.trans stopped
  | dispatch k =>
    simp only [step, dispatchStep] at taken
    split at taken <;> cases taken
    exact stopped
  | streamCallback k lease =>
    simp only [step, streamCallbackStep] at taken
    split at taken <;> cases taken
    exact stopped
  | returnStream k =>
    simp only [step, returnStep, returnStreamBuffer_ignored _ idle] at taken
    split at taken <;> cases taken
    exact stopped
  | flush now =>
    simp only [step, flush_inactive _ now (not_or.mpr ⟨idle, unready⟩)] at taken
    cases taken
    exact stopped
  | close now =>
    simp only [step, close_stopped _ now stopped] at taken
    cases taken
    exact stopped

structure CallProtocol (log : List Call) : Prop where
  configured_once : (log.countP fun call => call.configures) ≤ 1
  configured_first : ∀ before ok after, log = before ++ .startStreaming ok :: after →
    .configureStream true ∈ before ∧ ∀ answer, .configureStream answer ∉ after
  streaming_only : ∀ before call after, log = before ++ call :: after →
    call.needsStream = true → Started before
  closed_last : ∀ before after, log = before ++ .close :: after → after = []

theorem callProtocol_of_permitted {log : List Call} (P : Permitted Allowed log) :
    CallProtocol log := by
  refine ⟨?_, ?_, ?_, ?_⟩
  · cases log with
    | nil => exact Nat.zero_le 1
    | cons call rest =>
      -- A later `configure_stream` would have to be the first call.
      have none_later : rest.countP (fun call => call.configures) = 0 := by
        apply List.countP_eq_zero.mpr
        intro later member configures
        obtain ⟨before, after, rfl⟩ := List.append_of_mem member
        cases later with
        | configureStream answer =>
          have first : call :: before = [] := P (call :: before) _ after rfl
          cases first
        | _ => cases configures
      rw [List.countP_cons, none_later]
      split <;> omega
  · intro before ok after whole
    refine ⟨(P before _ after whole).1, ?_⟩
    intro answer member
    obtain ⟨between, last, rfl⟩ := List.append_of_mem member
    have first : before ++ .startStreaming ok :: between = [] := by
      apply P _ (.configureStream answer) last
      rw [whole, List.append_assoc, List.cons_append]
    cases before <;> cases first
  · intro before call after whole streams
    have allowed := P before call after whole
    cases call <;> first | exact allowed.1 | cases streams
  · intro before after whole
    cases after with
    | nil => rfl
    | cons call rest =>
      exfalso
      have allowed : Allowed (before ++ [.close]) call := by
        apply P _ call rest
        rw [whole, List.append_assoc]
        rfl
      have closed : Call.close ∈ before ++ [.close] :=
        List.mem_append_right _ (List.mem_singleton.mpr rfl)
      cases call with
      | configureStream answer => cases before <;> cases allowed
      | stopStreaming | close => exact allowed closed
      | _ => exact allowed.2 closed

/-- Every state of every run of a session, over any driver, processors and callbacks. After the
driver's `close` no step asks the driver anything. -/
theorem driver_call_protocol (D : DriverAdapter δ) (processors : List (Option (OutputProcessor π)))
    (callbacks : Callbacks) (config : CameraDeviceSessionConfig) (driver : Option δ) (p : π)
    (s : System (δ × List Call) π)
    (run : Reaches (step (traced D) processors callbacks) always
      (System.initial config (driver.map fun d => (d, [])) p) s) :
    s.session.state ≠ .flushing ∧ s.session.state ≠ .stopping ∧
      (∀ d log, s.session.driver = some (d, log) → CallProtocol log ∧
        (.close ∈ log → s.session.state = .stopped)) ∧
      (s.session.state = .stopped →
        (∀ t, Reaches (step (traced D) processors callbacks) always s t →
          t.session.state = .stopped) ∧
        ∀ other a, step other processors callbacks s a =
          step (traced D) processors callbacks s a) := by
  have S : Disciplined s.session := by
    refine run.invariant (fun s => Disciplined s.session) ?_ (initial_disciplined config driver)
    intro s a t S _ taken
    exact step_disciplined S taken
  refine ⟨S.settled.1, S.settled.2, ?_, ?_⟩
  · intro d log at_driver
    obtain ⟨ordered, fits⟩ := S.ordered d log at_driver
    refine ⟨callProtocol_of_permitted ordered, ?_⟩
    intro closed
    by_contra running
    exact fits_unclosed fits running closed
  · intro stopped
    refine ⟨?_, fun other a => step_stopped other stopped a⟩
    intro t later
    refine later.invariant (fun s => s.session.state = .stopped) ?_ stopped
    intro s a t stopped _ taken
    exact stopped_stays stopped taken

theorem driver_call_protocol_restarted :
    ∃ s : System (MockDriver × List Call) Unit,
      Reaches (step (traced adapter) [] ⟨true, false⟩) always
        (System.initial {} ((some ({} : MockDriver)).map fun d => (d, [])) ()) s ∧
      s.session.driver.map (fun d => d.2) =
        some [.configureStream true, .startStreaming true, .canSubmitCaptureOutputs,
          .submitCapture, .dequeueCompletion, .stopStreaming, .startStreaming true,
          .stopStreaming, .close] ∧
      ∀ d log, s.session.driver = some (d, log) → CallProtocol log := by
  obtain ⟨s, run, passed⟩ := exists_reaches_of_replay (step (traced adapter) [] ⟨true, false⟩)
    always (System.initial {} ((some ({} : MockDriver)).map fun d => (d, [])) ())
    [.configureStreams true, .startStreaming, .processRequest { frameNumber := 7 }, .post 0 true,
      .runTask 0 1, .dequeue 5, .process 0 2, .flush 3, .startStreaming, .close 4, .close 5]
    (fun s => s.session.driver.map (fun d => d.2) ==
      some [.configureStream true, .startStreaming true, .canSubmitCaptureOutputs,
        .submitCapture, .dequeueCompletion, .stopStreaming, .startStreaming true,
        .stopStreaming, .close])
    (by decide +kernel)
  refine ⟨s, run, beq_iff_eq.mp passed, ?_⟩
  intro d log at_driver
  obtain ⟨-, -, ordered, -⟩ := driver_call_protocol adapter [] ⟨true, false⟩ {} (some {}) () s run
  exact (ordered d log at_driver).1

end Runs

end MiniCam.Hal.DriverProtocol
