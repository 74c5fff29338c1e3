/- Module: MiniCam/Hal/FrameCounters
   source: hal/camera_device_session.cpp, hal/frame_metrics.h, hal/frame_metrics.cpp
   digest: What the frame counters of a session count, over every run. -/

import MiniCam.Hal.MockDriverAdapter
import MiniCam.Hal.ResultIdentity

set_option autoImplicit false
set_option relaxedAutoImplicit false

namespace MiniCam.Hal.FrameCounters

open MiniCam.Foundation.KeyedTable
open MiniCam.Foundation.Runs (Reaches always exists_reaches_of_replay)
open MiniCam.Hal.Interface
open MiniCam.Hal.InFlightRequestTracker
open MiniCam.Hal.CameraDeviceSession
open MiniCam.Hal.TrackerInvariant
open MiniCam.Hal.SessionSpec
open MiniCam.Hal.SessionSystem
open MiniCam.Hal.TokenBijection (Tracked step_tracked initial_tracked)
open MiniCam.Hal.ResultAccounting (perm_take pending delivered)
open MiniCam.Hal.ResultIdentity (Once previewed reachable_once uses_nodup)

variable {δ π : Type}

/-- A session with every result it has prepared so far, each with what it is for, and the
number of stray driver events it has handled. -/
structure Counted (δ π : Type) where
  system : System δ π
  results : List (Use × CaptureResult)
  strays : Nat

def Counted.initial (config : CameraDeviceSessionConfig) (driver : Option δ) (p : π) :
    Counted δ π :=
  { system := System.initial config driver p, results := [], strays := 0 }

/-- The results that one step prepares. A result waits in `prepared`, and that of a preview
with its handler. -/
def newResults (s t : System δ π) : List (Use × CaptureResult) :=
  (t.prepared.drop s.prepared.length).map (fun entry => (.capture entry.1, entry.2)) ++
    (t.callbacks.drop s.callbacks.length).map fun handler =>
      (.preview handler.output.frameNumber, handler.result)

def succeeded (entry : Use × CaptureResult) : Bool := entry.2.status = .ok

section Steps

variable (D : DriverAdapter δ)

/-- A driver event that belongs to no frame: the completion of a token that is not bound, or a
returned preview buffer that is taken back under token 0 or under a token that is bound. -/
def stray (s : System δ π) : Label → Bool
  | .process k _ =>
    (s.dequeued[k]?).any fun completion => completion.token ∉ s.session.inFlight.driverOutputs
  | .returnStream k =>
    s.session.state = .streaming &&
      (s.returning[k]?).any fun handler => s.session.driver.any fun d =>
        (D.returnStreamBuffer handler.lease d).1.any fun token =>
          token = 0 ∨ token ∈ s.session.inFlight.driverOutputs
  | _ => false

/-- The driver takes back every preview buffer that is returned to it. -/
def PreviewsAccepted (s : System δ π) : Label → Prop
  | .returnStream k => s.session.state = .streaming →
      ∀ handler d, s.returning[k]? = some handler → s.session.driver = some d →
        (D.returnStreamBuffer handler.lease d).1 ≠ none
  | _ => True

variable (processors : List (Option (OutputProcessor π))) (callbacks : Callbacks)

def countedStep (s : Counted δ π) (a : Label) : Option (Counted δ π) :=
  (step D processors callbacks s.system a).map fun t =>
    { system := t
      results := s.results ++ newResults s.system t
      strays := s.strays + (stray D s.system a).toNat }

end Steps

section Results

variable {s t : System δ π}

theorem newResults_quiet (prepared : t.prepared = s.prepared)
    (callbacks : t.callbacks = s.callbacks) : newResults s t = [] := by
  simp [newResults, prepared, callbacks]

theorem newResults_prepared {new : List (Nat × CaptureResult)}
    (prepared : t.prepared = s.prepared ++ new) (callbacks : t.callbacks = s.callbacks) :
    newResults s t = new.map fun entry => (.capture entry.1, entry.2) := by
  simp [newResults, prepared, callbacks]

theorem newResults_capture {id : Nat} {result : CaptureResult}
    (prepared : t.prepared = s.prepared ++ [(id, result)]) (callbacks : t.callbacks = s.callbacks) :
    newResults s t = [(.capture id, result)] :=
  newResults_prepared prepared callbacks

theorem newResults_preview {handler : PreviewHandler} (prepared : t.prepared = s.prepared)
    (callbacks : t.callbacks = s.callbacks ++ [handler]) :
    newResults s t = [(.preview handler.output.frameNumber, handler.result)] := by
  simp [newResults, prepared, callbacks]

theorem newResults_shorter (prepared : t.prepared.length ≤ s.prepared.length)
    (callbacks : t.callbacks.length ≤ s.callbacks.length) : newResults s t = [] := by
  simp [newResults, List.drop_eq_nil_of_le prepared, List.drop_eq_nil_of_le callbacks]

theorem recordFailures_eq (m : FrameMetrics) (n : Nat) :
    m.recordFailures n = { m with failed := m.failed + n } := by
  induction n generalizing m with
  | zero => rfl
  | succ n ih =>
    have one_more : m.recordFailures (n + 1) = m.recordFailure.recordFailures n := by
      simp only [FrameMetrics.recordFailures, Function.iterate_succ, Function.comp_apply]
    rw [one_more, ih]
    simp only [FrameMetrics.recordFailure, FrameMetrics.mk.injEq, true_and, and_true]
    omega

end Results

section Uncounted

variable {s t : System δ π} {D : DriverAdapter δ}

def Uncounted : Label → Prop
  | .configureStreams _ | .startStreaming | .processRequest _ | .post _ _ | .dequeue _
  | .dispatch _ | .streamCallback _ _ => True
  | _ => False

theorem step_uncounted {processors : List (Option (OutputProcessor π))} {callbacks : Callbacks}
    {a : Label} (uncounted : Uncounted a) (taken : step D processors callbacks s a = some t) :
    t.session.metrics = s.session.metrics ∧ newResults s t = [] := by
  cases a with
  | configureStreams registered =>
    cases taken
    refine ⟨?_, newResults_quiet rfl rfl⟩
    rcases configureStreams_cases D registered s.session with
      same | ⟨d, d', fds, state, -, -, -, -, same⟩
    · exact congrArg Session.metrics same
    · rw [same]
  | startStreaming =>
    cases taken
    have outcome := startStreaming_outcome D s.session
    have metrics : (startStreaming D s.session).2.metrics = s.session.metrics := by
      generalize (startStreaming D s.session).2 = after at outcome
      cases outcome <;> rfl
    exact ⟨metrics, newResults_quiet rfl rfl⟩
  | processRequest request =>
    simp only [step] at taken
    split at taken
    · cases taken
    · cases taken
      exact ⟨rfl, newResults_quiet rfl rfl⟩
  | post k posted =>
    rcases postStep_outcome taken with ⟨-, rfl⟩ | ⟨request, -, -, rfl⟩
    · exact ⟨rfl, newResults_quiet rfl rfl⟩
    · exact ⟨rfl, newResults_quiet rfl rfl⟩
  | dequeue readyFd =>
    cases taken
    refine ⟨?_, newResults_quiet rfl rfl⟩
    rcases dequeueCompletion_cases D readyFd s.session with same | ⟨d, -, -, same⟩
    · exact congrArg (fun answer => answer.2.metrics) same
    · exact congrArg (fun answer => answer.2.metrics) same
  | dispatch k =>
    simp only [step, dispatchStep] at taken
    split at taken
    · cases taken
    · cases taken
      exact ⟨rfl, newResults_shorter (List.length_eraseIdx_le _ _) (Nat.le_refl _)⟩
  | streamCallback k lease =>
    simp only [step, streamCallbackStep] at taken
    split at taken
    · cases taken
    · cases taken
      exact ⟨rfl, newResults_shorter (Nat.le_refl _) (List.length_eraseIdx_le _ _)⟩
  | runTask _ _ => exact uncounted.elim
  | process _ _ => exact uncounted.elim
  | returnStream _ => exact uncounted.elim
  | flush _ => exact uncounted.elim
  | close _ => exact uncounted.elim

end Uncounted

/-- The counters grow by the results of a step, and by one more failure for a stray event. -/
structure Tally (s t : System δ π) (strays : Nat) : Prop where
  completed : t.session.metrics.completed =
    s.session.metrics.completed + (newResults s t).countP succeeded
  failed : t.session.metrics.failed =
    s.session.metrics.failed + (newResults s t).countP (fun entry => !succeeded entry) + strays

section Tallies

variable {s t : System δ π} {D : DriverAdapter δ}

theorem Tally.of_new {new : List (Use × CaptureResult)} {strays : Nat}
    (news : newResults s t = new)
    (completed : t.session.metrics.completed =
      s.session.metrics.completed + new.countP succeeded)
    (failed : t.session.metrics.failed =
      s.session.metrics.failed + new.countP (fun entry => !succeeded entry) + strays) :
    Tally s t strays := by
  rw [← news] at completed failed
  exact ⟨completed, failed⟩

theorem Tally.none_new (metrics : t.session.metrics = s.session.metrics)
    (none_new : newResults s t = []) : Tally s t 0 := by
  apply Tally.of_new none_new
  · rw [metrics]
    rfl
  · rw [metrics]
    rfl

theorem Tally.quiet (metrics : t.session.metrics = s.session.metrics)
    (prepared : t.prepared = s.prepared) (callbacks : t.callbacks = s.callbacks) :
    Tally s t 0 :=
  Tally.none_new metrics (newResults_quiet prepared callbacks)

theorem runTask_tally {k : Nat} {now : Int} (taken : runTaskStep D k now s = some t) :
    Tally s t 0 := by
  obtain ⟨id, request, -, ⟨result, session, outcome, rfl⟩ | ⟨session, outcome, rfl⟩⟩ :=
    runTaskStep_outcome D taken
  · rcases submit_counts outcome with ⟨none_yet, -⟩ | ⟨_, same, failed, metrics⟩
    · cases none_yet
    · obtain rfl := Option.some.inj same
      refine Tally.of_new (newResults_prepared rfl rfl) ?_ ?_
      · simp [metrics, succeeded, failed, FrameMetrics.recordFailure]
      · simp [metrics, succeeded, failed, FrameMetrics.recordFailure]
  · rcases submit_counts outcome with ⟨-, metrics⟩ | ⟨_, some_result, -⟩
    · exact Tally.quiet metrics rfl rfl
    · cases some_result

theorem stray_process {k : Nat} {now : Int} {completion : DriverCompletion}
    (at_completion : s.dequeued[k]? = some completion) :
    stray D s (.process k now) =
      (s.session.inFlight.driverOutputs.lookup completion.token).isNone := by
  simp only [stray, at_completion, Option.any_some]
  cases bound : s.session.inFlight.driverOutputs.lookup completion.token with
  | none => simp [AList.lookup_eq_none.mp bound]
  | some context => simp [mem_of_lookup bound]

theorem process_tally {processors : List (Option (OutputProcessor π))} {k : Nat} {now : Int}
    (T : Tracked s) (taken : processStep processors k now s = some t) :
    Tally s t (stray D s (.process k now)).toNat := by
  obtain ⟨completion, filled, p, session, at_completion, outcome, rfl⟩ :=
    processStep_outcome T.consistent taken
  rw [stray_process at_completion]
  cases outcome with
  | unknown unbound =>
    rw [unbound]
    refine Tally.of_new (newResults_quiet rfl rfl) ?_ ?_
    · rfl
    · rfl
  | preview bound negative row processed =>
    rw [bound]
    refine Tally.of_new (newResults_preview rfl rfl) ?_ ?_
    · rfl
    · rfl
  | waiting bound live member index still processed pending =>
    rw [bound]
    exact Tally.quiet rfl rfl rfl
  | complete bound live member index still processed finished =>
    rw [bound]
    refine Tally.of_new (newResults_prepared rfl rfl) ?_ ?_
    · rfl
    · rfl

theorem return_binds (T : Tracked s) (token : DriverToken) (output : InFlightStreamingOutput) :
    (bindStreamingOutputs
      [(token, { output with frameNumber := s.session.nextStreamingFrameNumber })]
      s.session.inFlight).1 = !(decide (token = 0 ∨ token ∈ s.session.inFlight.driverOutputs)) := by
  have fresh : s.session.nextStreamingFrameNumber ∉ s.session.inFlight.streamingOutputs := by
    intro member
    obtain ⟨row, held⟩ := Option.isSome_iff_exists.mp (AList.lookup_isSome.mpr member)
    have below := (T.consistent.fresh _ row held).2
    omega
  simp only [bindStreamingOutputs, Tracker.registerStreamingOutput, if_neg fresh,
    Tracker.bindDriverOutput]
  by_cases unusable : token = 0 ∨ token ∈ s.session.inFlight.driverOutputs
  · simp only [unusable, if_true, decide_true, Bool.not_true]
  · simp only [unusable, if_false, decide_false, Bool.not_false]

theorem return_tally {k : Nat} (T : Tracked s) (accepted : PreviewsAccepted D s (.returnStream k))
    (taken : returnStep D k s = some t) : Tally s t (stray D s (.returnStream k)).toNat := by
  simp only [returnStep] at taken
  split at taken
  · cases taken
  rename_i handler at_handler
  cases taken
  by_cases streaming : s.session.state = .streaming
  · cases at_driver : s.session.driver with
    | none =>
      have expected : stray D s (.returnStream k) = false := by
        simp [stray, at_handler, at_driver]
      rw [expected]
      refine Tally.quiet ?_ rfl rfl
      simp only [returnStreamBuffer, at_driver]
    | some d =>
      cases answer : D.returnStreamBuffer handler.lease d with
      | mk given d' =>
        cases given with
        | none =>
          exact absurd (by rw [answer]) (accepted streaming handler d at_handler at_driver)
        | some token =>
          have expected : stray D s (.returnStream k) =
              decide (token = 0 ∨ token ∈ s.session.inFlight.driverOutputs) := by
            simp [stray, at_handler, at_driver, streaming, answer]
          have binds := return_binds T token handler.output
          rw [expected]
          cases unusable : decide (token = 0 ∨ token ∈ s.session.inFlight.driverOutputs) with
          | false =>
            rw [unusable] at binds
            refine Tally.quiet ?_ rfl rfl
            simp only [returnStreamBuffer, at_driver, streaming, if_true, answer, binds,
              Bool.not_false]
          | true =>
            rw [unusable] at binds
            have metrics : (returnStreamBuffer D handler.lease handler.output s.session).metrics =
                s.session.metrics.recordFailure := by
              simp only [returnStreamBuffer, at_driver, streaming, if_true, answer, binds,
                Bool.not_true, Bool.false_eq_true, if_false]
            refine Tally.of_new (newResults_quiet rfl rfl) ?_ ?_
            · rw [metrics]
              rfl
            · rw [metrics]
              rfl
  · have expected : stray D s (.returnStream k) = false := by
      simp [stray, streaming]
    rw [expected, returnStreamBuffer_ignored D streaming]
    exact Tally.quiet rfl rfl rfl

theorem flushed_tally (message : String) (now : Int) {session : Session δ}
    (metrics : session.metrics =
      s.session.metrics.recordFailures s.session.inFlight.flushAll.1.length) :
    Tally s (withResults s (flushResults message now s.session, session)) 0 := by
  have failed : ∀ result ∈ flushResults message now s.session, result.status ≠ .ok := by
    intro result member
    simp [flushResults_status member]
  have length : (flushResults message now s.session).length =
      s.session.inFlight.flushAll.1.length := by
    simp only [flushResults, flushedResults, List.length_map]
  rw [recordFailures_eq] at metrics
  refine Tally.of_new (newResults_prepared rfl rfl) ?_ ?_
  · have none_ok : (flushResults message now s.session).countP
        (fun result => decide (result.status = .ok)) = 0 := by
      rw [List.countP_eq_zero]
      simpa using failed
    simp only [withResults, metrics, List.map_map, List.countP_map]
    exact (congrArg (s.session.metrics.completed + ·) none_ok).symm
  · have all_failed : (flushResults message now s.session).countP
        (fun result => !decide (result.status = .ok)) = s.session.inFlight.flushAll.1.length := by
      rw [← length, List.countP_eq_length]
      simpa using failed
    simp only [withResults, metrics, List.map_map, List.countP_map]
    exact (congrArg (s.session.metrics.failed + ·) all_failed).symm

theorem step_tally {processors : List (Option (OutputProcessor π))} {callbacks : Callbacks}
    {a : Label} (T : Tracked s) (accepted : PreviewsAccepted D s a)
    (taken : step D processors callbacks s a = some t) : Tally s t (stray D s a).toNat := by
  have idle : Uncounted a → Tally s t 0 := by
    intro uncounted
    obtain ⟨metrics, none_new⟩ := step_uncounted uncounted taken
    exact Tally.none_new metrics none_new
  cases a with
  | configureStreams registered => exact idle trivial
  | startStreaming => exact idle trivial
  | processRequest request => exact idle trivial
  | post k posted => exact idle trivial
  | runTask k now => exact runTask_tally taken
  | dequeue readyFd => exact idle trivial
  | process k now => exact process_tally T taken
  | dispatch k => exact idle trivial
  | streamCallback k lease => exact idle trivial
  | returnStream k => exact return_tally T accepted taken
  | flush now =>
    cases taken
    by_cases active : s.session.state = .streaming ∨ s.session.state = .configured
    · rw [flush_active D now active]
      exact flushed_tally _ now rfl
    · rw [flush_inactive D now active]
      exact Tally.quiet rfl (List.append_nil _) rfl
  | close now =>
    cases taken
    by_cases stopped : s.session.state = .stopped
    · rw [close_stopped D now stopped]
      exact Tally.quiet rfl (List.append_nil _) rfl
    · rw [close_open D now stopped]
      exact flushed_tally _ now rfl

end Tallies

section Uses

variable {s t full : System δ π} {D : DriverAdapter δ}
  {processors : List (Option (OutputProcessor π))}

def waitingResults (s : System δ π) : List (Use × CaptureResult) :=
  s.prepared.map (fun entry => (.capture entry.1, entry.2)) ++
    s.callbacks.map fun handler => (.preview handler.output.frameNumber, handler.result)

def resultsOf (s : System δ π) : List (Use × CaptureResult) := waitingResults s ++ s.dispatched

def Mirrors (full s : System δ π) : Prop := ∃ sent, s = { full with dispatched := sent }

theorem Mirrors.newResults_eq {full' : System δ π} (before : Mirrors full s)
    (after : Mirrors full' t) : newResults full full' = newResults s t := by
  obtain ⟨-, rfl⟩ := before
  obtain ⟨-, rfl⟩ := after
  rfl

theorem resultsOf_grow {more : List (Nat × CaptureResult)} {handlers : List PreviewHandler}
    (dispatched : t.dispatched = s.dispatched) (prepared : t.prepared = s.prepared ++ more)
    (callbacks : t.callbacks = s.callbacks ++ handlers) :
    (resultsOf t).Perm (resultsOf s ++ newResults s t) := by
  simp only [resultsOf, waitingResults, newResults, dispatched, prepared, callbacks,
    List.map_append, List.drop_left, List.append_assoc]
  refine List.Perm.append_left _ ?_
  refine (List.perm_append_comm_assoc _ _ _).trans (List.Perm.append_left _ ?_)
  refine List.perm_append_comm.trans ?_
  rw [List.append_assoc]
  refine (List.perm_append_comm_assoc _ _ _).trans (List.Perm.append_left _ ?_)
  exact List.perm_append_comm

theorem resultsOf_quiet (dispatched : t.dispatched = s.dispatched)
    (prepared : t.prepared = s.prepared) (callbacks : t.callbacks = s.callbacks) :
    (resultsOf t).Perm (resultsOf s ++ newResults s t) := by
  rw [newResults_quiet prepared callbacks, List.append_nil]
  simp only [resultsOf, waitingResults, dispatched, prepared, callbacks]
  exact List.Perm.refl _

theorem resultsOf_sent {entry : Use × CaptureResult}
    (moved : (waitingResults s).Perm (entry :: waitingResults t))
    (dispatched : t.dispatched = s.dispatched ++ [entry])
    (prepared : t.prepared.length ≤ s.prepared.length)
    (callbacks : t.callbacks.length ≤ s.callbacks.length) :
    (resultsOf t).Perm (resultsOf s ++ newResults s t) := by
  rw [newResults_shorter prepared callbacks, List.append_nil, resultsOf, resultsOf, dispatched,
    ← List.append_assoc]
  exact (List.perm_append_singleton _ _).trans (moved.append_right _).symm

theorem step_mirrors {callbacks : Callbacks} {a : Label} (M : Mirrors full s)
    (taken : step D processors callbacks s a = some t) :
    ∃ full', step D processors ⟨true, callbacks.stream⟩ full a = some full' ∧ Mirrors full' t ∧
      (resultsOf full').Perm (resultsOf full ++ newResults full full') := by
  obtain ⟨sent, rfl⟩ := M
  cases a with
  | configureStreams registered =>
    cases taken
    exact ⟨_, rfl, ⟨sent, rfl⟩, resultsOf_quiet rfl rfl rfl⟩
  | startStreaming =>
    cases taken
    exact ⟨_, rfl, ⟨sent, rfl⟩, resultsOf_quiet rfl rfl rfl⟩
  | processRequest request =>
    simp only [step] at taken ⊢
    split at taken
    · cases taken
    · rename_i admitted
      cases taken
      exact ⟨_, if_neg admitted, ⟨sent, rfl⟩, resultsOf_quiet rfl rfl rfl⟩
  | post k posted =>
    simp only [step, postStep] at taken ⊢
    split at taken
    · cases taken
    · split at taken
      · rename_i accepted
        cases taken
        exact ⟨_, if_pos accepted, ⟨sent, rfl⟩, resultsOf_quiet rfl rfl rfl⟩
      · rename_i refused
        cases taken
        exact ⟨_, if_neg refused, ⟨sent, rfl⟩, resultsOf_quiet rfl rfl rfl⟩
  | runTask k now =>
    simp only [step, runTaskStep] at taken ⊢
    split at taken
    · cases taken
    · rename_i id request at_task
      split at taken
      · rename_i result session submitted
        cases taken
        exact ⟨_, rfl, ⟨sent, rfl⟩, resultsOf_grow rfl rfl (List.append_nil _).symm⟩
      · rename_i session submitted
        cases taken
        exact ⟨_, rfl, ⟨sent, rfl⟩, resultsOf_quiet rfl rfl rfl⟩
  | dequeue readyFd =>
    cases taken
    exact ⟨_, rfl, ⟨sent, rfl⟩, resultsOf_quiet rfl rfl rfl⟩
  | process k now =>
    simp only [step, processStep] at taken ⊢
    split at taken
    · cases taken
    · cases taken
      refine ⟨_, rfl, ?_, ?_⟩
      · simp only [Mirrors, afterCompletion]
        split <;> exact ⟨sent, rfl⟩
      · simp only [afterCompletion]
        split
        · exact resultsOf_quiet rfl rfl rfl
        · exact resultsOf_grow rfl rfl (List.append_nil _).symm
        · exact resultsOf_grow rfl (List.append_nil _).symm rfl
  | dispatch k =>
    simp only [step, dispatchStep] at taken ⊢
    split at taken
    · cases taken
    · rename_i id result at_result
      cases taken
      refine ⟨_, rfl, ⟨_, rfl⟩, ?_⟩
      have moved := (perm_take at_result).map fun entry : Nat × CaptureResult =>
        (Use.capture entry.1, entry.2)
      exact resultsOf_sent (moved.append_right _) rfl (List.length_eraseIdx_le _ _)
        (Nat.le_refl _)
  | streamCallback k lease =>
    simp only [step, streamCallbackStep] at taken ⊢
    split at taken
    · cases taken
    · rename_i handler at_handler
      cases taken
      refine ⟨_, rfl, ⟨_, rfl⟩, ?_⟩
      have moved := (perm_take at_handler).map fun handler : PreviewHandler =>
        (Use.preview handler.output.frameNumber, handler.result)
      refine resultsOf_sent ((moved.append_left _).trans List.perm_middle) ?_ (Nat.le_refl _)
        (List.length_eraseIdx_le _ _)
      simp only [Bool.or_true, if_true]
  | returnStream k =>
    simp only [step, returnStep] at taken ⊢
    split at taken
    · cases taken
    · rename_i handler at_handler
      cases taken
      exact ⟨_, rfl, ⟨sent, rfl⟩, resultsOf_quiet rfl rfl rfl⟩
  | flush now =>
    cases taken
    exact ⟨_, rfl, ⟨sent, rfl⟩, resultsOf_grow rfl rfl (List.append_nil _).symm⟩
  | close now =>
    cases taken
    exact ⟨_, rfl, ⟨sent, rfl⟩, resultsOf_grow rfl rfl (List.append_nil _).symm⟩

theorem resultsOf_uses (O : Once s) : ((resultsOf s).map Prod.fst).Nodup := by
  apply uses_nodup
  · have captures := O.captures
    rw [List.map_append] at captures
    simp only [pending, List.map_append, List.append_assoc] at captures
    have among := (List.nodup_append.mp (List.nodup_append.mp captures).2.1).2.1
    simp only [List.map_map, Function.comp_def, delivered] at among
    simp only [resultsOf, waitingResults, List.filterMap_append, List.filterMap_map,
      Function.comp_def, List.filterMap_eq_map', List.filterMap_none, List.append_nil,
      List.map_append, List.map_map]
    exact among
  · simpa [resultsOf, waitingResults, List.filterMap_append, List.filterMap_map,
      Function.comp_def, previewed] using O.previews

end Uses

section Runs

variable (D : DriverAdapter δ) (processors : List (Option (OutputProcessor π)))
  (callbacks : Callbacks) (config : CameraDeviceSessionConfig) (driver : Option δ) (p : π)

structure Booked (s : Counted δ π) : Prop where
  tracked : Tracked s.system
  completed : s.system.session.metrics.completed = s.results.countP succeeded
  failed : s.system.session.metrics.failed =
    s.results.countP (fun entry => !succeeded entry) + s.strays
  mirrored : ∃ full, Reaches (step D processors ⟨true, callbacks.stream⟩) always
      (System.initial config driver p) full ∧ Mirrors full s.system ∧
    s.results.Perm (resultsOf full)

theorem countedStep_booked {s t : Counted δ π} {a : Label}
    (B : Booked D processors callbacks config driver p s)
    (accepted : PreviewsAccepted D s.system a)
    (taken : countedStep D processors callbacks s a = some t) :
    Booked D processors callbacks config driver p t := by
  obtain ⟨after, made, rfl⟩ := Option.map_eq_some_iff.mp taken
  have tally := step_tally B.tracked accepted made
  refine ⟨step_tracked D processors callbacks B.tracked made, ?_, ?_, ?_⟩
  · rw [tally.completed, B.completed, List.countP_append]
  · rw [tally.failed, B.failed, List.countP_append]
    simp only
    omega
  · obtain ⟨full, run, mirrors, same⟩ := B.mirrored
    obtain ⟨full', made', mirrors', grown⟩ := step_mirrors mirrors made
    refine ⟨full', run.tail trivial made', mirrors', ?_⟩
    rw [← mirrors.newResults_eq mirrors']
    exact (same.append_right _).trans grown.symm

/-- In every run over a driver that takes back all returned preview buffers the counters
are the Ok results, and the other results with the stray driver events, of a session whose
results each belong to a request or streaming frame of their own. So they count each result
once exactly as long as no driver event was stray. -/
theorem frame_counters (s : Counted δ π)
    (run : Reaches (countedStep D processors callbacks)
      (fun s a => PreviewsAccepted D s.system a) (Counted.initial config driver p) s) :
    (s.results.map Prod.fst).Nodup ∧
    s.system.session.metrics.completed = s.results.countP succeeded ∧
    s.system.session.metrics.failed =
      s.results.countP (fun entry => !succeeded entry) + s.strays ∧
    ((s.system.session.metrics.completed = s.results.countP succeeded ∧
      s.system.session.metrics.failed = s.results.countP fun entry => !succeeded entry) ↔
        s.strays = 0) := by
  have B : Booked D processors callbacks config driver p s := by
    refine run.invariant (Booked D processors callbacks config driver p)
      (fun _ _ _ B ok taken => countedStep_booked D processors callbacks config driver p B ok taken)
      ⟨initial_tracked config driver p, rfl, rfl, _, Reaches.refl _, ⟨[], rfl⟩, List.Perm.refl _⟩
  refine ⟨?_, B.completed, B.failed, ?_⟩
  · obtain ⟨full, reached, -, same⟩ := B.mirrored
    exact (same.map Prod.fst).nodup_iff.mpr (resultsOf_uses (reachable_once reached))
  · have failed := B.failed
    refine ⟨fun counts => ?_, fun none_stray => ⟨B.completed, ?_⟩⟩
    · have exact_count := counts.2
      omega
    · omega

open MiniCam.Hal.MockDriverAdapter (MockDriver adapter)

instance previewsAcceptedDecidable (s : System δ π) (a : Label) :
    Decidable (PreviewsAccepted D s a) :=
  match a with
  | .returnStream k =>
    match at_handler : s.returning[k]?, at_driver : s.session.driver with
    | some handler, some d =>
      decidable_of_iff (s.session.state = .streaming →
          (D.returnStreamBuffer handler.lease d).1.isSome = true) (by
        simp [PreviewsAccepted, at_handler, at_driver, Option.isSome_iff_ne_none])
    | none, _ => .isTrue (by simp [PreviewsAccepted, at_handler])
    | some _, none => .isTrue (by simp [PreviewsAccepted, at_driver])
  | .configureStreams _ | .startStreaming | .processRequest _ | .post _ _ | .runTask _ _
  | .dequeue _ | .process _ _ | .dispatch _ | .streamCallback _ _ | .flush _ | .close _ =>
    .isTrue trivial

/-- A preview completes and its buffer is returned, frame 7 completes, frame 8 is flushed. -/
def countedScript : List Label :=
  [.configureStreams true, .startStreaming,
   .processRequest { frameNumber := 7, outputBuffers := [{ bufferId := 1 }] },
   .processRequest { frameNumber := 8, outputBuffers := [{ bufferId := 2 }] },
   .post 0 true, .post 0 true, .runTask 0 1, .runTask 0 1, .dequeue 5, .process 0 2,
   .streamCallback 0 {}, .returnStream 0, .dequeue 5, .process 0 3, .dispatch 0, .flush 4]

theorem frame_counters_mixed :
    ∃ s : Counted MockDriver Unit,
      Reaches (countedStep adapter [] ⟨true, true⟩)
        (fun s a => PreviewsAccepted adapter s.system a)
        (Counted.initial
          { continuousPreviewConfig := some {}, continuousPreviewBuffers := [{ bufferId := 9 }] }
          (some {}) ()) s ∧
      s.strays = 0 ∧ s.results.length = 3 ∧
      s.system.session.metrics.completed = s.results.countP succeeded ∧
      s.system.session.metrics.failed = s.results.countP fun entry => !succeeded entry := by
  obtain ⟨s, run, passed⟩ := exists_reaches_of_replay (countedStep adapter [] ⟨true, true⟩)
    (fun s a => PreviewsAccepted adapter s.system a)
    (Counted.initial
      { continuousPreviewConfig := some {}, continuousPreviewBuffers := [{ bufferId := 9 }] }
      (some ({} : MockDriver)) ()) countedScript
    (fun s => s.strays == 0 && s.results.length == 3) (by decide +kernel)
  simp only [Bool.and_eq_true, beq_iff_eq] at passed
  refine ⟨s, run, passed.1, passed.2, ?_⟩
  exact (frame_counters adapter [] ⟨true, true⟩ _ (some {}) () s run).2.2.2.mpr passed.1

/-- Frame 7 is flushed while its completion waits in the mock; after a restart that completion
is handled and counted as a second failure. -/
theorem late_completion_counted_twice :
    ∃ s : Counted MockDriver Unit,
      Reaches (countedStep adapter [] ⟨true, true⟩)
        (fun s a => PreviewsAccepted adapter s.system a)
        (Counted.initial {} (some {}) ()) s ∧
      s.system.dequeued = [] ∧ s.system.callbacks = [] ∧ s.system.returning = [] ∧
      s.results.length = 1 ∧ s.system.session.metrics.failed = 2 ∧
      (s.results.countP fun entry => !succeeded entry) = 1 := by
  obtain ⟨s, run, passed⟩ := exists_reaches_of_replay (countedStep adapter [] ⟨true, true⟩)
    (fun s a => PreviewsAccepted adapter s.system a)
    (Counted.initial {} (some ({} : MockDriver)) ())
    [.configureStreams true, .startStreaming,
     .processRequest { frameNumber := 7, outputBuffers := [{ bufferId := 1 }] },
     .post 0 true, .runTask 0 1, .flush 2, .dispatch 0, .startStreaming, .dequeue 5,
     .process 0 3]
    (fun s => s.system.dequeued.isEmpty && s.system.callbacks.isEmpty &&
      s.system.returning.isEmpty && s.results.length == 1 &&
      s.system.session.metrics.failed == 2 &&
      (s.results.countP fun entry => !succeeded entry) == 1) (by decide +kernel)
  simp only [Bool.and_eq_true, beq_iff_eq, List.isEmpty_iff] at passed
  obtain ⟨⟨⟨⟨⟨dequeued, callbacks⟩, returning⟩, one⟩, failed⟩, failures⟩ := passed
  exact ⟨s, run, dequeued, callbacks, returning, one, failed, failures⟩

end Runs

end MiniCam.Hal.FrameCounters
