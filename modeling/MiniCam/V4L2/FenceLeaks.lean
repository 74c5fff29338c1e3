/- Module: MiniCam/V4L2/FenceLeaks
   source: hal/camera_device_session.cpp, hal/v4l2_driver_adapter.cpp
   digest: When every acquire fence of a request has been closed by its own task. -/

import MiniCam.Hal.ResultOrigins
import MiniCam.V4L2.AcquireFences
import MiniCam.V4L2.BufferOwnership

set_option autoImplicit false
set_option relaxedAutoImplicit false

namespace MiniCam.V4L2.FenceLeaks

open MiniCam.Foundation.KeyedTable
open MiniCam.Foundation.Runs
open MiniCam.Hal.Interface
open MiniCam.Hal.InFlightRequestTracker
open MiniCam.Hal.CameraDeviceSession
open MiniCam.Hal.TrackerInvariant
open MiniCam.Hal.SessionSpec
open MiniCam.Hal.SessionSystem
open MiniCam.Hal.TokenBijection (Tracked step_tracked initial_tracked)
open MiniCam.Hal.ResultIdentity (Named step_named)
open MiniCam.Hal.ResultOrigins
open MiniCam.Hal.ReleaseFences (fences)
open MiniCam.V4L2.VideoNodes
open MiniCam.V4L2.DriverAdapter
open MiniCam.V4L2.DriverAdapter.V4L2Adapter
open MiniCam.V4L2.KernelHistory
open MiniCam.V4L2.SlotMirror
open MiniCam.V4L2.SlotBacking
open MiniCam.V4L2.BufferOwnership
open MiniCam.V4L2.FenceUses
open MiniCam.V4L2.AcquireFences

variable {π : Type}

section Conditions

def TakesUpToFences : List OutputBufferTarget → V4L2Adapter → World → Prop
  | [], _, _ => True
  | output :: rest, a, w => bufferFences rest = [] ∨
      Takes output a w ∧ TakesUpToFences rest
        (queueCaptureBuffer output.bufferFd output.acquireFenceFd output.bufferSize a w).2.1
        (queueCaptureBuffer output.bufferFd output.acquireFenceFd output.bufferSize a w).2.2

/-- The task of a request that carries fences runs while the session accepts requests and
no row has its frame number; the preflight agrees, and no output before a fenced one fails. -/
def FencesReached (s : System SingleDriver π) : Label → Prop
  | .runTask k _ => ∀ task ∈ s.tasks[k]?, bufferFences task.2.outputBuffers ≠ [] →
      s.session.state = .streaming ∧ task.2.frameNumber ∉ s.session.inFlight.requests ∧
        ∀ d ∈ s.session.driver,
          d.adapter.canSubmitCaptureOutputs (requestOutputsFor task.2) = true ∧
            TakesUpToFences (requestOutputsFor task.2) d.adapter d.world
  | _ => True

instance takesUpToFencesDecidable :
    (outputs : List OutputBufferTarget) → (a : V4L2Adapter) → (w : World) →
      Decidable (TakesUpToFences outputs a w)
  | [], _, _ => .isTrue trivial
  | output :: rest, a, w =>
    have := takesUpToFencesDecidable rest
      (queueCaptureBuffer output.bufferFd output.acquireFenceFd output.bufferSize a w).2.1
      (queueCaptureBuffer output.bufferFd output.acquireFenceFd output.bufferSize a w).2.2
    inferInstanceAs (Decidable (bufferFences rest = [] ∨ Takes output a w ∧ TakesUpToFences rest
      (queueCaptureBuffer output.bufferFd output.acquireFenceFd output.bufferSize a w).2.1
      (queueCaptureBuffer output.bufferFd output.acquireFenceFd output.bufferSize a w).2.2))

instance fencesReachedDecidable (s : System SingleDriver π) :
    (a : Label) → Decidable (FencesReached s a)
  | .runTask k _ => inferInstanceAs (Decidable (∀ task ∈ s.tasks[k]?,
      bufferFences task.2.outputBuffers ≠ [] →
        s.session.state = .streaming ∧ task.2.frameNumber ∉ s.session.inFlight.requests ∧
          ∀ d ∈ s.session.driver,
            d.adapter.canSubmitCaptureOutputs (requestOutputsFor task.2) = true ∧
              TakesUpToFences (requestOutputsFor task.2) d.adapter d.world))
  | .streamCallback _ _ | .post _ _ | .configureStreams _ | .startStreaming | .processRequest _
  | .dequeue _ | .process _ _ | .dispatch _ | .returnStream _ | .flush _ | .close _ =>
    .isTrue trivial

end Conditions

section Submission

variable {a a' : V4L2Adapter} {w w' : World}

structure Issuing (d : SingleDriver) (t : Tracker) : Prop where
  sound : Sound d.adapter d.world
  positive : 0 < nextToken d
  fresh : ∀ τ c, t.driverOutputs.lookup τ = some c → τ < nextToken d

theorem Issuing.advance {d d' : SingleDriver} {t t' : Tracker} (I : Issuing d t)
    (moved : Advance d.adapter d.world d'.adapter d'.world)
    (tokens : ∀ τ c, t'.driverOutputs.lookup τ = some c →
      t.driverOutputs.lookup τ = some c ∨ τ < nextToken d') : Issuing d' t' where
  sound := moved.sound
  positive := Nat.lt_of_lt_of_le I.positive moved.counter
  fresh := by
    intro τ c found
    rcases tokens τ c found with before | new
    · exact Nat.lt_of_lt_of_le (I.fresh τ c before) moved.counter
    · exact new

theorem submitOutputs_closes {d d' : SingleDriver} {t t' : Tracker} {frameNumber : Nat}
    {pairs : List (OutputBufferTarget × InFlightOutput)} {ok : Bool} (I : Issuing d t)
    (can : d.adapter.canSubmitCaptureOutputs (pairs.map Prod.fst) = true)
    (takes : TakesUpToFences (pairs.map Prod.fst) d.adapter d.world)
    (run : submitOutputs single frameNumber pairs d t = (ok, d', t')) :
    d'.world.fences = d.world.fences ++ (bufferFences (pairs.map Prod.fst)).flatMap use := by
  induction pairs generalizing d t with
  | nil =>
    cases run
    simp [bufferFences, fences]
  | cons pair rest ih =>
    obtain ⟨target, output⟩ := pair
    obtain ⟨room, streaming, opened, buffers⟩ := canSubmitCaptureOutputs_iff.mp can
    simp only [List.map_cons, List.length_cons] at room
    obtain ⟨valid, fits⟩ := buffers target List.mem_cons_self
    have able : Submittable d.adapter target.bufferFd target.bufferSize :=
      ⟨streaming, opened, valid, fits⟩
    rcases asked : queueCaptureBuffer target.bufferFd target.acquireFenceFd target.bufferSize
      d.adapter d.world with ⟨answer, a, w⟩
    have closed := queueCaptureBuffer_fences target.bufferFd target.acquireFenceFd
      target.bufferSize d.adapter d.world
    rw [asked, if_pos able] at closed
    simp only at closed
    have submitted : single.submitCapture target d = (answer, ⟨a, w⟩) := single_submitCapture asked
    rw [List.map_cons, bufferFences_cons, List.flatMap_append, ← List.append_assoc, ← closed]
    rcases takes with last | ⟨taken, later⟩
    · -- The outputs that follow have no fences, so it does not matter where it stops.
      rw [last, List.flatMap_nil, List.append_nil]
      simp only [submitOutputs, submitted] at run
      cases answer with
      | none =>
        cases run
        rfl
      | some token =>
        simp only at run
        split at run
        · cases run
          rfl
        · obtain ⟨used, some_used, log⟩ := submitOutputs_uses singleLog frameNumber rest ⟨a, w⟩ _
          rw [last, List.sublist_nil] at some_used
          rw [run, some_used, List.flatMap_nil, List.append_nil] at log
          exact log
    · have queued := queueCaptureBuffer_takes able (by omega) taken
      rw [asked] at queued
      obtain rfl : answer = some (nextToken d) := queued
      have attempted := queueCaptureBuffer_attempted asked
      obtain ⟨advance, issued⟩ := queueCaptureBuffer_advance I.sound asked
      have unbound : ¬ (nextToken d = 0 ∨ nextToken d ∈ t.driverOutputs) := by
        rintro (zero | member)
        · exact Nat.ne_of_gt I.positive zero
        · obtain ⟨c, found⟩ := Option.isSome_iff_exists.mp (AList.lookup_isSome.mpr member)
          exact Nat.lt_irrefl _ (I.fresh _ c found)
      simp only [submitOutputs, submitted, Tracker.bindDriverOutput, if_neg unbound] at run
      rw [asked] at later
      have free := queueCaptureBuffer_room asked
      refine ih (d := ⟨a, w⟩) (I.advance advance fun τ c found => ?_) ?_ later run
      · rcases lookup_insert_eq_some.mp found with ⟨rfl, -⟩ | ⟨-, before⟩
        · exact Or.inr (issued _ rfl).upper
        · exact Or.inl before
      · refine canSubmitCaptureOutputs_iff.mpr ⟨?_, ?_, ?_, fun o member => ?_⟩
        · simp only
          omega
        · exact attempted.streaming.trans streaming
        · exact attempted.fd ▸ opened
        · rw [attempted.bufferSize]
          exact buffers o (List.mem_cons_of_mem _ member)

end Submission

section Steps

variable {d : SingleDriver} {s t : System SingleDriver π}

def Continues (d : SingleDriver) (s : Session SingleDriver) : Prop :=
  ∃ d', s.driver = some d' ∧ Issuing d' s.inFlight ∧ d.world.fences <+: d'.world.fences

private theorem Issuing.continues (I : Issuing d s.session.inFlight) {d' : SingleDriver}
    {session : Session SingleDriver} (driver : session.driver = some d')
    (moved : Advance d.adapter d.world d'.adapter d'.world)
    (tokens : ∀ τ c, session.inFlight.driverOutputs.lookup τ = some c →
      s.session.inFlight.driverOutputs.lookup τ = some c ∨ τ < nextToken d')
    (log : d.world.fences <+: d'.world.fences) : Continues d session :=
  ⟨d', driver, I.advance moved tokens, log⟩

private theorem Issuing.still (I : Issuing d s.session.inFlight) {session : Session SingleDriver}
    (driver : session.driver = some d)
    (tokens : ∀ τ c, session.inFlight.driverOutputs.lookup τ = some c →
      s.session.inFlight.driverOutputs.lookup τ = some c) : Continues d session :=
  I.continues driver (Advance.refl I.sound) (fun τ c found => Or.inl (tokens τ c found))
    (List.prefix_refl _)

private theorem start_continues (I : Issuing d s.session.inFlight)
    (at_driver : s.session.driver = some d) :
    Continues d (startStreaming single s.session).2 := by
  have started := startStreaming_advance I.sound
  have outcome := startStreaming_outcome single s.session
  generalize (startStreaming single s.session).2 = session at outcome ⊢
  have begun : ∀ {d₀ d' : SingleDriver} {ok : Bool}, s.session.driver = some d₀ →
      single.startStreaming d₀ = (ok, d') →
        d' = { d with adapter := d.adapter.startStreaming.2 } := by
    intro d₀ d' ok driver answer
    obtain rfl := Option.some.inj (at_driver.symm.trans driver)
    exact (congrArg Prod.snd answer).symm
  have offers : ∀ {stream : StreamConfig} {given : Option (List DriverToken)}
      {d'' : SingleDriver}, single.startContinuousStream stream
        s.session.config.continuousPreviewBuffers
          { d with adapter := d.adapter.startStreaming.2 } = (given, d'') →
            Advance d.adapter d.world d''.adapter d''.world ∧
              (∀ tokens, given = some tokens → ∀ τ ∈ tokens, τ < nextToken d'') ∧
              d.world.fences <+: d''.world.fences := by
    intro stream given d'' offered
    have log := (singleLog.streams stream s.session.config.continuousPreviewBuffers
      { d with adapter := d.adapter.startStreaming.2 }).grows
    rw [offered] at log
    rcases run : startContinuousStream s.session.config.continuousPreviewBuffers
      d.adapter.startStreaming.2 d.world with ⟨answer, a, w⟩
    simp only [single, run, SingleDriver.pack] at offered
    cases offered
    obtain ⟨advance, tokens⟩ := startContinuousStream_advance started.sound run
    exact ⟨started.trans advance, fun list same => issued_below (tokens list same), log⟩
  cases outcome with
  | ignored unready => exact I.still at_driver fun _ _ => id
  | failed driver configured answer =>
    rw [begun driver answer]
    exact I.continues rfl started (fun _ _ => Or.inl) (List.prefix_refl _)
  | plain driver configured answer preview =>
    rw [begun driver answer]
    exact I.continues rfl started (fun _ _ => Or.inl) (List.prefix_refl _)
  | unsupplied driver configured answer preview empty =>
    rw [begun driver answer]
    exact I.continues rfl started (fun _ _ => Or.inl) (List.prefix_refl _)
  | refused driver configured answer preview offered short =>
    rw [begun driver answer] at offered
    obtain ⟨advance, -, log⟩ := offers offered
    exact I.continues rfl advance (fun _ _ => Or.inl) log
  | @bound _ d' d'' stream tokens ok tracker driver configured answer preview supplied offered
      length registered =>
    rw [begun driver answer] at offered
    obtain ⟨advance, below, log⟩ := offers offered
    refine I.continues rfl advance (fun τ c found => ?_) log
    have added := (bindStreamingOutputs_adds (tokens.zip (streamingOutputsFrom
      s.session.nextStreamingFrameNumber s.session.config.continuousPreviewBuffers))
      s.session.inFlight).2.2.2 τ c
    rw [registered] at added
    rcases added found with before | ⟨-, -, output, member, -, -⟩
    · exact Or.inl before
    · exact Or.inr (below tokens rfl τ (List.of_mem_zip member).1)

private theorem runTask_continues (I : Issuing d s.session.inFlight)
    (at_driver : s.session.driver = some d) {now : Int} {request : CaptureRequest}
    {result : Option CaptureResult} {session : Session SingleDriver}
    (outcome : SubmitOutcome single now request s.session result session) :
    Continues d session := by
  have asked : ∀ {d₀ d' : SingleDriver} {ok : Bool}, s.session.driver = some d₀ →
      single.canSubmitCaptureOutputs (requestOutputsFor request) d₀ = (ok, d') → d' = d := by
    intro d₀ d' ok driver answer
    obtain rfl := Option.some.inj (at_driver.symm.trans driver)
    exact (congrArg Prod.snd answer).symm
  have submits : ∀ {ok : Bool} {d'' : SingleDriver} {u u' : Tracker},
      submitOutputs single request.frameNumber (requestPairs request) d u = (ok, d'', u') →
        Advance d.adapter d.world d''.adapter d''.world ∧
          (∀ τ c, u'.driverOutputs.lookup τ = some c →
            u.driverOutputs.lookup τ = some c ∨ τ < nextToken d'') ∧
          d.world.fences <+: d''.world.fences := by
    intro ok d'' u u' run
    obtain ⟨advance, -, -, -, tokens⟩ := submitOutputs_keeps I.sound run
    have log := (submitOutputs_uses singleLog request.frameNumber (requestPairs request) d u).grows
    rw [run] at log
    exact ⟨advance, tokens, log⟩
  cases outcome with
  | rejected closed => exact I.still at_driver fun _ _ => id
  | refused driver streaming answer message =>
    obtain rfl := asked driver answer
    exact I.still rfl fun τ c found => (lookup_dropFrame_tokens.mp found).1
  | duplicate driver streaming answer live =>
    obtain rfl := asked driver answer
    exact I.still rfl fun τ c found => (lookup_dropFrame_tokens.mp found).1
  | failed driver streaming answer absent before stopped =>
    obtain rfl := asked driver answer
    obtain ⟨advance, -, log⟩ := submits stopped
    exact I.continues rfl advance
      (fun τ c found => Or.inl (lookup_dropFrame_tokens.mp found).1) log
  | submitted driver streaming answer before finished after bound =>
    obtain rfl := asked driver answer
    obtain ⟨advance, tokens, log⟩ := submits finished
    refine I.continues rfl advance (fun τ c found => ?_) log
    simp only [after] at found
    rw [← before]
    exact tokens τ c found

private theorem return_continues (I : Issuing d s.session.inFlight)
    (at_driver : s.session.driver = some d) (handler : PreviewHandler) :
    Continues d (returnStreamBuffer single handler.lease handler.output s.session) := by
  have facts : ∀ {answer : Option DriverToken} {d₀ d' : SingleDriver},
      s.session.driver = some d₀ → single.returnStreamBuffer handler.lease d₀ = (answer, d') →
        Advance d.adapter d.world d'.adapter d'.world ∧
          (∀ τ, answer = some τ → τ = 0 ∨ τ < nextToken d') ∧
          d.world.fences <+: d'.world.fences := by
    intro answer d₀ d' driver returned
    obtain rfl := Option.some.inj (at_driver.symm.trans driver)
    have log := (singleLog.returns handler.lease d).grows
    rw [returned] at log
    rcases run : d.adapter.returnStreamBuffer handler.lease d.world with ⟨r, a, w⟩
    simp only [single, run, SingleDriver.pack] at returned
    cases returned
    obtain ⟨advance, issued⟩ := returnStreamBuffer_advance I.sound run
    exact ⟨advance, fun τ given => (issued τ given).imp_right fun issue => issue.upper, log⟩
  rcases returnStreamBuffer_cases single handler.lease handler.output s.session with
    same | ⟨d₀, d', metrics, driver, -, ⟨refused, same⟩ | ⟨token, returned, same⟩⟩
  · rw [same]
    exact I.still at_driver fun _ _ => id
  · rw [same]
    obtain ⟨advance, -, log⟩ := facts driver refused
    exact I.continues rfl advance (fun _ _ => Or.inl) log
  · rw [same]
    obtain ⟨advance, below, log⟩ := facts driver returned
    refine I.continues rfl advance (fun τ c found => ?_) log
    rcases (bindStreamingOutputs_adds _ s.session.inFlight).2.2.2 τ c found with
      before | ⟨-, nonzero, output, member, -, -⟩
    · exact Or.inl before
    · obtain ⟨rfl, -⟩ := Prod.mk.inj (List.mem_singleton.mp member)
      exact Or.inr ((below τ rfl).resolve_left nonzero)

theorem step_continues {processors : List (Option (OutputProcessor π))} {callbacks : Callbacks}
    {a : Label} (T : Tracked s) (I : Issuing d s.session.inFlight)
    (at_driver : s.session.driver = some d)
    (taken : step single processors callbacks s a = some t) : Continues d t.session := by
  have idle : t.session = s.session → Continues d t.session := by
    intro same
    rw [same]
    exact I.still at_driver fun _ _ => id
  have empty : ∀ {session : Session SingleDriver} (d' : SingleDriver),
      session.driver = some d' → Advance d.adapter d.world d'.adapter d'.world →
        d.world.fences = d'.world.fences → session.inFlight = Tracker.empty →
          Continues d session := by
    intro session d' driver advance log emptied
    refine I.continues driver advance (fun τ c found => ?_) (log ▸ List.prefix_refl _)
    rw [emptied] at found
    cases found
  cases a with
  | configureStreams registered =>
    cases taken
    rcases configureStreams_cases single registered s.session with
      same | ⟨d₀, d', fds, state, driver, -, rfl, -, same⟩
    · exact idle same
    · obtain rfl := Option.some.inj (at_driver.symm.trans driver)
      rw [same]
      refine I.continues rfl (configureStream_advance I.sound rfl) (fun _ _ => Or.inl) ?_
      have log : (single.configureStream d).2.world.fences = d.world.fences :=
        singleLog.configures d
      exact log ▸ List.prefix_refl _
  | startStreaming =>
    cases taken
    exact start_continues I at_driver
  | processRequest request =>
    simp only [step] at taken
    split at taken <;> cases taken
    exact idle rfl
  | post k accepted =>
    rcases postStep_outcome taken with ⟨-, rfl⟩ | ⟨request, -, -, rfl⟩ <;>
      exact idle rfl
  | runTask k now =>
    obtain ⟨id, request, -, ⟨result, session, outcome, rfl⟩ | ⟨session, outcome, rfl⟩⟩ :=
      runTaskStep_outcome single taken <;> exact runTask_continues I at_driver outcome
  | dequeue readyFd =>
    cases taken
    rcases dequeueCompletion_cases single readyFd s.session with same | ⟨d₀, driver, -, same⟩
    · exact idle (by simp only [dequeueStep, same])
    · obtain rfl := Option.some.inj (at_driver.symm.trans driver)
      simp only [dequeueStep, same]
      refine I.continues rfl (dequeueCompletion_advance I.sound rfl).1 (fun _ _ => Or.inl) ?_
      have log : (single.dequeueCompletion readyFd d).2.world.fences = d.world.fences :=
        singleLog.dequeues readyFd d
      exact log ▸ List.prefix_refl _
  | process k now =>
    obtain ⟨completion, filled, p, session, -, outcome, rfl⟩ :=
      processStep_outcome T.consistent taken
    have shown : ∀ filled p, (afterCompletion k completion.token filled p session s).session =
        session := by
      intro filled p
      cases filled <;> rfl
    rw [shown]
    cases outcome with
    | unknown unbound => exact I.still at_driver fun _ _ => id
    | preview bound negative row processed =>
      exact I.still at_driver fun τ c found => (lookup_erase_eq_some.mp found).2
    | waiting bound live member index still processed pending =>
      exact I.still at_driver fun τ c found => (lookup_erase_eq_some.mp found).2
    | complete bound live member index still processed finished =>
      exact I.still at_driver fun τ c found => (lookup_erase_eq_some.mp found).2
  | dispatch k =>
    simp only [step, dispatchStep] at taken
    split at taken <;> cases taken
    exact idle rfl
  | streamCallback k lease =>
    simp only [step, streamCallbackStep] at taken
    split at taken <;> cases taken
    exact idle rfl
  | returnStream k =>
    simp only [step, returnStep] at taken
    split at taken <;> cases taken
    exact return_continues I at_driver _
  | flush now =>
    cases taken
    by_cases active : s.session.state = .streaming ∨ s.session.state = .configured
    · rw [flush_active single now active]
      refine empty (single.stopStreaming d) ?_ (stopStreaming_advance I.sound) rfl rfl
      simp only [withResults, at_driver, Option.map_some]
    · rw [flush_inactive single now active]
      exact I.still at_driver fun _ _ => id
  | close now =>
    cases taken
    by_cases done : s.session.state = .stopped
    · rw [close_stopped single now done]
      exact I.still at_driver fun _ _ => id
    · rw [close_open single now done]
      have stopped := stopStreaming_advance I.sound
      refine empty (single.close (single.stopStreaming d)) ?_
        (stopped.trans (close_advance stopped.sound)) rfl rfl
      simp only [withResults, at_driver, Option.map_some]

end Steps

section Runs

variable {d : SingleDriver} {s t : System SingleDriver π}

def logOf (driver : Option SingleDriver) : List FenceEvent := (driver.map singleLog.log).getD []

/-- The task of the request has waited for and closed every fence that the request brought,
in order, once each; nothing that was closed is forgotten. -/
def FencesClosed (s : System SingleDriver π) (id : Nat) : Prop :=
  ∃ request before after, s.accepted[id]? = some request ∧ (id, before, after) ∈ s.submissions ∧
    logOf after = logOf before ++ (bufferFences request.outputBuffers).flatMap use ∧
    logOf after <+: logOf s.session.driver

theorem runTask_closes {now : Int} {request : CaptureRequest} {result : Option CaptureResult}
    {session : Session SingleDriver} (I : Issuing d s.session.inFlight)
    (at_driver : s.session.driver = some d)
    (outcome : SubmitOutcome single now request s.session result session)
    (reached : bufferFences request.outputBuffers ≠ [] → s.session.state = .streaming ∧
      request.frameNumber ∉ s.session.inFlight.requests ∧ ∀ d ∈ s.session.driver,
        d.adapter.canSubmitCaptureOutputs (requestOutputsFor request) = true ∧
          TakesUpToFences (requestOutputsFor request) d.adapter d.world) :
    logOf session.driver =
      logOf s.session.driver ++ (bufferFences request.outputBuffers).flatMap use := by
  by_cases fenced : bufferFences request.outputBuffers = []
  · obtain ⟨⟨used, some_used, log⟩, -, -⟩ := submitted_uses singleLog outcome
    rw [fenced, List.sublist_nil] at some_used
    rw [some_used] at log
    rw [fenced]
    exact log
  obtain ⟨streaming, absent, taken⟩ := reached fenced
  obtain ⟨can, takes⟩ := taken d at_driver
  have submits : ∀ {d₀ d' d'' : SingleDriver} {ok : Bool} {u u' : Tracker},
      s.session.driver = some d₀ →
        single.canSubmitCaptureOutputs (requestOutputsFor request) d₀ = (true, d') →
          u.driverOutputs = s.session.inFlight.driverOutputs →
            submitOutputs single request.frameNumber (requestPairs request) d' u =
              (ok, d'', u') → logOf (some d'') =
                logOf s.session.driver ++ (bufferFences request.outputBuffers).flatMap use := by
    intro d₀ d' d'' ok u u' driver answer before run
    obtain rfl := Option.some.inj (at_driver.symm.trans driver)
    obtain rfl : d = d' := congrArg Prod.snd answer
    have known : Issuing d u := ⟨I.sound, I.positive, before ▸ I.fresh⟩
    have closes := submitOutputs_closes known (by rw [requestPairs_outputs]; exact can)
      (by rw [requestPairs_outputs]; exact takes) run
    rw [requestPairs_outputs, requestOutputsFor_fences] at closes
    rw [at_driver]
    exact closes
  cases outcome with
  | rejected closed =>
    simp [rejectRequest, streaming, at_driver] at closed
  | refused driver running answer message =>
    obtain rfl := Option.some.inj (at_driver.symm.trans driver)
    have refusal : d.adapter.canSubmitCaptureOutputs (requestOutputsFor request) = false :=
      congrArg Prod.fst answer
    rw [can] at refusal
    cases refusal
  | duplicate driver running answer live => exact (absent (mem_of_lookup live)).elim
  | failed driver running answer absent before stopped => exact submits driver answer before stopped
  | submitted driver running answer before finished after bound =>
    exact submits driver answer before finished

structure Settling (s : System SingleDriver π) : Prop where
  driver : ∃ d, s.session.driver = some d ∧ Issuing d s.session.inFlight
  closed : ∀ id before after, (id, before, after) ∈ s.submissions → FencesClosed s id
  rows : ∀ f row, s.session.inFlight.requests.lookup f = some row → FencesClosed s (s.owner f)
  prepared : ∀ id result, (id, result) ∈ s.prepared → FencesClosed s id
  sent : ∀ id result, (Use.capture id, result) ∈ s.dispatched → FencesClosed s id

theorem step_settling {processors : List (Option (OutputProcessor π))} {callbacks : Callbacks}
    {a : Label} (T : Tracked s) (N : Named s) (S : Settling s) (reached : FencesReached s a)
    (taken : step single processors callbacks s a = some t) : Settling t := by
  obtain ⟨d, at_driver, I⟩ := S.driver
  obtain ⟨d', now_driver, issuing, grows⟩ := step_continues T I at_driver taken
  have O := step_origins T taken
  have log : logOf s.session.driver <+: logOf t.session.driver := by
    rw [at_driver, now_driver]
    exact grows
  have kept : ∀ {id : Nat}, FencesClosed s id → FencesClosed t id := by
    rintro id ⟨request, before, after, found, handled, closes, past⟩
    refine ⟨request, before, after, O.named found, ?_, closes, past.trans log⟩
    rcases O.handled with same | ⟨k, now, id', request', -, -, more⟩
    · exact same ▸ handled
    · rw [more]
      exact List.mem_append_left _ handled
  have handles : ∀ {k : Nat} {now : Int} {id : Nat} {request : CaptureRequest},
      a = .runTask k now → s.tasks[k]? = some (id, request) → FencesClosed t id := by
    intro k now id request label at_task
    subst label
    have condition := reached (id, request) at_task
    obtain ⟨id', request', at_task', ended⟩ := runTaskStep_outcome single taken
    obtain ⟨rfl, rfl⟩ := Prod.mk.inj (Option.some.inj (at_task.symm.trans at_task'))
    have found := N.tasks _ (List.mem_of_getElem? at_task)
    rcases ended with ⟨result, session, outcome, rfl⟩ | ⟨session, outcome, rfl⟩
    · exact ⟨request, s.session.driver, session.driver, found, by simp,
        runTask_closes I at_driver outcome condition, List.prefix_refl _⟩
    · exact ⟨request, s.session.driver, session.driver, found, by simp,
        runTask_closes I at_driver outcome condition, List.prefix_refl _⟩
  refine ⟨⟨d', now_driver, issuing⟩, fun id before after handled => ?_, fun f row live => ?_,
    fun id result member => ?_, fun id result member => ?_⟩
  · rcases O.handled with same | ⟨k, now, id', request, label, at_task, more⟩
    · exact kept (S.closed id before after (same ▸ handled))
    · rw [more] at handled
      rcases List.mem_append.mp handled with old | new
      · exact kept (S.closed id before after old)
      · cases List.mem_singleton.mp new
        exact handles label at_task
  · cases O.rows f row live with
    | kept before owner entries => exact owner ▸ kept (S.rows f _ before)
    | task label at_task owner entries => exact owner ▸ handles label at_task
  · cases O.results id result member with
    | kept before => exact kept (S.prepared id result before)
    | task label at_task outcome => exact handles label at_task
    | row live owner entries => exact owner ▸ kept (S.rows _ _ live)
  · rcases O.sent id result member with before | prepared
    · exact kept (S.sent id result before)
    · exact kept (S.prepared id result prepared)

/-- Once the result of a request has been prepared, every fence the request brought has
been closed, however the request ended. -/
theorem request_fences_closed (processors : List (Option (OutputProcessor π)))
    (callbacks : Callbacks) (config : CameraDeviceSessionConfig) (streamConfig : V4L2StreamConfig)
    (answers : Answers) (p : π) {s : System SingleDriver π}
    (run : Reaches (step single processors callbacks) FencesReached
      (System.initial config (some (SingleDriver.create streamConfig answers)) p) s) :
    (∀ id result, (id, result) ∈ s.prepared → FencesClosed s id) ∧
      ∀ id result, (Use.capture id, result) ∈ s.dispatched → FencesClosed s id := by
  have invariant : Tracked s ∧ Named s ∧ Settling s := by
    refine Reaches.invariant (fun s => Tracked s ∧ Named s ∧ Settling s) ?_ run ?_
    · rintro s a t ⟨T, N, S⟩ reached taken
      exact ⟨step_tracked single processors callbacks T taken, step_named T N taken,
        step_settling T N S reached taken⟩
    · refine ⟨initial_tracked config _ p, ?_, ⟨⟨_, rfl, ?_⟩, ?_, ?_, ?_, ?_⟩⟩
      · constructor <;> simp [System.initial]
      · refine ⟨create_sound _ _ _ _ _ _, Nat.one_pos, fun τ c found => ?_⟩
        simp [System.initial, Session.create, Tracker.empty] at found
      all_goals simp [System.initial, Session.create, Tracker.empty]
  exact ⟨invariant.2.2.prepared, invariant.2.2.sent⟩

private def fencedRequest (frameNumber : Nat) (first second : Int) : CaptureRequest :=
  { frameNumber := frameNumber
    outputBuffers :=
      [{ bufferFd := 20, bufferSize := 4, acquireFenceFd := first },
       { bufferFd := 21, bufferSize := 4, acquireFenceFd := second }] }

private def answering (qbuf : Option String) : Answers where
  configure := fun _ => .granted 3 4 4
  submission := fun _ => { qbuf := qbuf }
  dequeue := fun _ => .buffer 0 4 0
  streamOff := fun _ => true

theorem request_fences_closed_flushed :
    ∃ s : System SingleDriver Unit, s.prepared.map Prod.fst = [0] ∧
      logOf s.session.driver = use 11 ++ use 12 ∧
      ∀ id result, (id, result) ∈ s.prepared → FencesClosed s id := by
  obtain ⟨s, run, passed⟩ := exists_reaches_of_replay (step single [] ⟨true, true⟩) FencesReached
    (System.initial {} (some (SingleDriver.create {} (answering none))) ())
    [.configureStreams true, .startStreaming, .processRequest (fencedRequest 7 11 12),
      .post 0 true, .runTask 0 1, .flush 2]
    (fun s => decide (s.prepared.map Prod.fst = [0] ∧
      logOf s.session.driver = use 11 ++ use 12)) (by decide +kernel)
  obtain ⟨prepared, log⟩ := of_decide_eq_true passed
  exact ⟨s, prepared, log,
    (request_fences_closed [] ⟨true, true⟩ {} {} (answering none) () run).1⟩

/-- The first output of a request is refused, so the fence of its second stays open; so do
both fences of a request whose task runs after a flush. -/
theorem failed_requests_leave_fences_open :
    ∃ s : System SingleDriver Unit,
      Reaches (step single [] ⟨true, true⟩) always
        (System.initial {} (some (SingleDriver.create {} (answering (some "Device busy")))) ()) s ∧
      s.prepared.map Prod.fst = [0, 1] ∧ logOf s.session.driver = use 11 ∧
      ¬ FencesClosed s 0 ∧ ¬ FencesClosed s 1 := by
  obtain ⟨s, run, passed⟩ := exists_reaches_of_replay (step single [] ⟨true, true⟩) always
    (System.initial {} (some (SingleDriver.create {} (answering (some "Device busy")))) ())
    [.configureStreams true, .startStreaming, .processRequest (fencedRequest 7 11 12),
      .processRequest (fencedRequest 8 13 14), .post 0 true, .post 0 true, .runTask 0 1, .flush 2,
      .runTask 0 3]
    (fun s => decide (s.prepared.map Prod.fst = [0, 1] ∧ logOf s.session.driver = use 11 ∧
      s.accepted = [fencedRequest 7 11 12, fencedRequest 8 13 14])) (by decide +kernel)
  obtain ⟨prepared, log, accepted⟩ := of_decide_eq_true passed
  have opens : ∀ (id : Nat) (request : CaptureRequest) (fd : Int), s.accepted[id]? = some request →
      fd ∈ bufferFences request.outputBuffers → fd ≠ 11 → ¬ FencesClosed s id := by
    rintro id request fd found brought other ⟨request', before, after, found', -, closes, past⟩
    obtain rfl := Option.some.inj (found.symm.trans found')
    have closed : FenceEvent.closed fd ∈ logOf s.session.driver := by
      refine past.subset ?_
      rw [closes]
      exact List.mem_append_right _ (List.mem_flatMap.mpr ⟨fd, brought, by simp [use]⟩)
    rw [log] at closed
    simp [use, other] at closed
  refine ⟨s, run, prepared, log, ?_, ?_⟩
  · exact opens 0 (fencedRequest 7 11 12) 12 (by rw [accepted]; rfl) (by decide) (by decide)
  · exact opens 1 (fencedRequest 8 13 14) 13 (by rw [accepted]; rfl) (by decide) (by decide)

end Runs

end MiniCam.V4L2.FenceLeaks
