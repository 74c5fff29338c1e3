/- Module: MiniCam/Hal/PreviewRotation
   source: hal/camera_device_session.cpp, hal/in_flight_request_tracker.cpp
   digest: Every configured preview buffer stays in rotation beside any capture traffic,
     unless a failing capture carries the number of a live preview frame. -/

import MiniCam.Hal.ResultAccounting

set_option autoImplicit false
set_option relaxedAutoImplicit false

namespace MiniCam.Hal.PreviewRotation

open MiniCam.Foundation.KeyedTable
open MiniCam.Foundation.Runs (Reaches exists_reaches_of_replay)
open MiniCam.Hal.Interface
open MiniCam.Hal.InFlightRequestTracker
open MiniCam.Hal.CameraDeviceSession
open MiniCam.Hal.TrackerInvariant
open MiniCam.Hal.SessionSpec
open MiniCam.Hal.SessionSystem
open MiniCam.Hal.TokenBijection
open MiniCam.Hal.ResultAccounting (perm_take)

variable {δ π : Type}

section Contract

/-- What is known of a driver state: that it is well formed, that it has been
started, and every token it has given out so far. -/
structure TokenSource (δ : Type) where
  sound : δ → Prop
  running : δ → Prop
  issued : δ → Set DriverToken

structure TokenSource.Follows (S : TokenSource δ) (d d' : δ) : Prop where
  sound : S.sound d'
  grows : S.issued d ⊆ S.issued d'

structure TokenSource.Issues (S : TokenSource δ) (d d' : δ) (tokens : List DriverToken) : Prop
    extends S.Follows d d' where
  running : S.running d → S.running d'
  apart : tokens.Nodup
  usable : ∀ τ ∈ tokens, τ ≠ 0 ∧ τ ∉ S.issued d ∧ τ ∈ S.issued d'

/-- A driver that gives a fresh token for every buffer it takes. -/
structure FreshTokens (D : DriverAdapter δ) extends TokenSource δ where
  configures : ∀ d, sound d → toTokenSource.Follows d (D.configureStream d).2
  starts : ∀ d, sound d → toTokenSource.Follows d (D.startStreaming d).2
  started : ∀ d, sound d → (D.startStreaming d).1 = true → running (D.startStreaming d).2
  streams : ∀ stream buffers d, sound d →
    toTokenSource.Issues d (D.startContinuousStream stream buffers d).2
      ((D.startContinuousStream stream buffers d).1.getD [])
  stops : ∀ d, sound d → toTokenSource.Follows d (D.stopStreaming d)
  closes : ∀ d, sound d → toTokenSource.Follows d (D.close d)
  preflights : ∀ outputs d, sound d →
    toTokenSource.Issues d (D.canSubmitCaptureOutputs outputs d).2 []
  submits : ∀ target d, sound d →
    toTokenSource.Issues d (D.submitCapture target d).2 (D.submitCapture target d).1.toList
  dequeues : ∀ readyFd d, sound d →
    toTokenSource.Issues d (D.dequeueCompletion readyFd d).2 []
  returns : ∀ lease d, sound d →
    toTokenSource.Issues d (D.returnStreamBuffer lease d).2 (D.returnStreamBuffer lease d).1.toList

theorem TokenSource.Issues.trans {S : TokenSource δ} {d d' d'' : δ}
    {first second : List DriverToken} (before : S.Issues d d' first)
    (after : S.Issues d' d'' second) :
    S.Issues d d'' (first ++ second) where
  sound := after.sound
  grows := fun _ known => after.grows (before.grows known)
  running := fun on => after.running (before.running on)
  apart := by
    refine List.nodup_append.mpr ⟨before.apart, after.apart, fun τ early τ' late same => ?_⟩
    subst same
    exact (after.usable τ late).2.1 (before.usable τ early).2.2
  usable := by
    intro τ member
    rcases List.mem_append.mp member with early | late
    · obtain ⟨nonzero, fresh, known⟩ := before.usable τ early
      exact ⟨nonzero, fresh, after.grows known⟩
    · obtain ⟨nonzero, fresh, known⟩ := after.usable τ late
      exact ⟨nonzero, fun old => fresh (before.grows old), known⟩

def leaseWith (output : InFlightStreamingOutput) (fence : Int) : StreamBufferLease :=
  { streamBufferLeaseFromCompletion output with consumerReleaseFenceFd := fence }

def TakesBack {D : DriverAdapter δ} (F : FreshTokens D) (buffers : List OutputBufferTarget) :
    Prop :=
  ∀ output fence d, F.sound d → F.running d → output.target ∈ buffers →
    output.streamType = output.target.streamType →
      (D.returnStreamBuffer (leaseWith output fence) d).1.isSome = true

end Contract

section Places

def rowTargets (t : Tracker) : List OutputBufferTarget :=
  (values t.streamingOutputs).map (·.target)

def heldTargets (s : System δ π) : List OutputBufferTarget :=
  (s.callbacks ++ s.returning).map fun handler => handler.output.target

def places (s : System δ π) : List OutputBufferTarget :=
  rowTargets s.session.inFlight ++ heldTargets s

theorem completed_places {s : System δ π} {session : Session δ} {k f : Nat} {token : DriverToken}
    {p : π} {result : CaptureResult} {lease : StreamBufferLease} {output : InFlightStreamingOutput}
    (row : s.session.inFlight.streamingOutputs.lookup f = some output)
    (erased : session.inFlight.streamingOutputs = s.session.inFlight.streamingOutputs.erase f) :
    (places (afterCompletion k token (.preview result lease output) p session s)).Perm
      (places s) := by
  have rows := (values_perm_cons_erase row).map fun o : InFlightStreamingOutput => o.target
  simp only [places, heldTargets, rowTargets, afterCompletion, erased, List.map_append,
    List.map_cons, List.map_nil, List.append_assoc]
  refine List.Perm.trans ?_ (rows.symm.append_right _)
  rw [List.map_cons, List.cons_append]
  refine List.Perm.trans (List.Perm.append_left _ List.perm_middle) ?_
  exact List.perm_middle

theorem calledBack_places {callbacks : Callbacks} {s t : System δ π} {k : Nat}
    {lease : StreamBufferLease} (taken : streamCallbackStep callbacks k lease s = some t) :
    (places t).Perm (places s) := by
  simp only [streamCallbackStep] at taken
  split at taken
  · cases taken
  rename_i handler at_handler
  cases taken
  have moved := (perm_take at_handler).map fun h : PreviewHandler => h.output.target
  have same : (if callbacks.stream = true then { handler with lease := lease }
      else handler).output.target = handler.output.target := by
    split <;> rfl
  simp only [places, heldTargets, List.map_append, List.map_cons, List.map_nil, same]
  refine List.Perm.append_left _ ?_
  rw [List.map_cons] at moved
  refine List.Perm.trans ?_ (moved.symm.append_right _)
  rw [← List.append_assoc]
  exact List.perm_append_singleton _ _

theorem returned_places {s : System δ π} {k : Nat} {handler : PreviewHandler}
    (at_handler : s.returning[k]? = some handler) :
    (handler.output.target :: (rowTargets s.session.inFlight ++
      (s.callbacks ++ s.returning.eraseIdx k).map fun h => h.output.target)).Perm (places s) := by
  have moved := (perm_take at_handler).map fun h : PreviewHandler => h.output.target
  rw [List.map_cons] at moved
  simp only [places, heldTargets, List.map_append]
  rw [← List.append_assoc, ← List.append_assoc]
  refine List.Perm.trans ?_ (moved.symm.append_left _)
  exact List.perm_middle.symm

theorem bindStreamingOutputs_places (pairs : List (DriverToken × InFlightStreamingOutput))
    (t : Tracker) :
    ∃ bound, bound <+: pairs.map (fun pair => pair.2.target) ∧
      (rowTargets (bindStreamingOutputs pairs t).2).Perm (bound ++ rowTargets t) ∧
      ((bindStreamingOutputs pairs t).1 = true → bound = pairs.map fun pair => pair.2.target) := by
  induction pairs generalizing t with
  | nil => exact ⟨[], List.prefix_refl _, List.Perm.refl _, fun _ => rfl⟩
  | cons pair rest ih =>
    obtain ⟨token, output⟩ := pair
    simp only [bindStreamingOutputs, Tracker.registerStreamingOutput, Tracker.bindDriverOutput]
    split
    · rename_i refused
      split at refused <;> cases refused
      refine ⟨[], List.nil_prefix, List.Perm.refl _, fun ok => ?_⟩
      cases ok
    rename_i registered
    split at registered <;> cases registered
    rename_i unregistered
    have one : rowTargets { t with
        streamingOutputs := t.streamingOutputs.insert output.frameNumber output } =
          output.target :: rowTargets t := by
      simp only [rowTargets, values_insert_of_fresh unregistered, List.map_cons]
    split
    · rename_i refused
      split at refused <;> cases refused
      refine ⟨[output.target], ?_, ?_, fun ok => ?_⟩
      · exact ⟨rest.map fun pair => pair.2.target, rfl⟩
      · rw [one]
        exact List.Perm.refl _
      · cases ok
    rename_i bound
    split at bound <;> cases bound
    obtain ⟨bound, first, rows, all⟩ := ih { t with
      streamingOutputs := t.streamingOutputs.insert output.frameNumber output
      driverOutputs := t.driverOutputs.insert token
        { frameNumber := output.frameNumber, outputIndex := -1 } }
    refine ⟨output.target :: bound, ?_, rows.trans ?_, fun ok => ?_⟩
    · exact (List.prefix_cons_inj _).mpr first
    · have added : rowTargets { t with
          streamingOutputs := t.streamingOutputs.insert output.frameNumber output
          driverOutputs := t.driverOutputs.insert token
            { frameNumber := output.frameNumber, outputIndex := -1 } } =
              output.target :: rowTargets t := one
      rw [added]
      exact List.perm_middle
    · rw [all ok]
      rfl

theorem bindStreamingOutputs_origin (pairs : List (DriverToken × InFlightStreamingOutput))
    {t t' : Tracker} (run : bindStreamingOutputs pairs t = (true, t')) :
    ∀ f output, t'.streamingOutputs.lookup f = some output →
      t.streamingOutputs.lookup f = some output ∨
        ∃ τ, (τ, output) ∈ pairs ∧ f = output.frameNumber ∧
          t'.driverOutputs.lookup τ = some { frameNumber := f, outputIndex := -1 } := by
  induction pairs generalizing t with
  | nil =>
    cases run
    exact fun _ _ => Or.inl
  | cons pair rest ih =>
    obtain ⟨token, new⟩ := pair
    simp only [bindStreamingOutputs, Tracker.registerStreamingOutput, Tracker.bindDriverOutput]
      at run
    split at run
    · cases run
    rename_i registered
    split at registered <;> cases registered
    split at run
    · cases run
    rename_i bound
    split at bound <;> cases bound
    intro f output found
    rcases ih run f output found with before | ⟨τ, member, rfl, at_τ⟩
    · rcases lookup_insert_eq_some.mp before with ⟨rfl, rfl⟩ | ⟨-, older⟩
      · refine Or.inr ⟨token, List.mem_cons_self, rfl, ?_⟩
        have kept := (bindStreamingOutputs_adds rest { t with
          streamingOutputs := t.streamingOutputs.insert output.frameNumber output
          driverOutputs := t.driverOutputs.insert token
            { frameNumber := output.frameNumber, outputIndex := -1 } }).2.2.1
        rw [run] at kept
        exact kept token _ (AList.lookup_insert _)
      · exact Or.inl older
    · exact Or.inr ⟨τ, List.mem_cons_of_mem _ member, rfl, at_τ⟩

theorem bindStreamingOutputs_succeeds (pairs : List (DriverToken × InFlightStreamingOutput))
    (t : Tracker) (tokens : (pairs.map Prod.fst).Nodup)
    (usable : ∀ τ ∈ pairs.map Prod.fst, τ ≠ 0 ∧ τ ∉ t.driverOutputs)
    (frames : (pairs.map fun pair => pair.2.frameNumber).Nodup)
    (unused : ∀ f ∈ pairs.map (fun pair => pair.2.frameNumber), f ∉ t.streamingOutputs) :
    (bindStreamingOutputs pairs t).1 = true := by
  induction pairs generalizing t with
  | nil => rfl
  | cons pair rest ih =>
    obtain ⟨token, output⟩ := pair
    simp only [List.map_cons, List.nodup_cons, List.mem_cons, forall_eq_or_imp]
      at tokens usable frames unused
    have free : ¬ (token = 0 ∨ token ∈ t.driverOutputs) := by
      rintro (zero | taken)
      · exact usable.1.1 zero
      · exact usable.1.2 taken
    simp only [bindStreamingOutputs, Tracker.registerStreamingOutput, Tracker.bindDriverOutput,
      if_neg unused.1, if_neg free]
    apply ih _ tokens.2 _ frames.2
    · intro f member taken
      rcases (AList.mem_insert _).mp taken with rfl | old
      · exact frames.1 member
      · exact unused.2 f member old
    · intro τ member
      refine ⟨(usable.2 τ member).1, fun taken => ?_⟩
      rcases (AList.mem_insert _).mp taken with rfl | old
      · exact tokens.1 member
      · exact (usable.2 τ member).2 old

end Places

section Submission

variable {D : DriverAdapter δ} (F : FreshTokens D)

def takesAll (D : DriverAdapter δ) : List OutputBufferTarget → δ → Bool
  | [], _ => true
  | target :: rest, d =>
    match D.submitCapture target d with
    | (none, _) => false
    | (some _, d') => takesAll D rest d'

def Bound (t : Tracker) (d : δ) : Prop := ∀ τ ∈ t.driverOutputs, τ ∈ F.issued d

theorem submitOutputs_issues {frameNumber : Nat}
    {pairs : List (OutputBufferTarget × InFlightOutput)} {d d' : δ} {t t' : Tracker} {ok : Bool}
    (sound : F.sound d) (bound : Bound F t d)
    (run : submitOutputs D frameNumber pairs d t = (ok, d', t')) :
    (∃ tokens, F.Issues d d' tokens) ∧ Bound F t' d' ∧
      (∀ τ ∈ t'.driverOutputs, τ ∈ t.driverOutputs ∨ τ ∉ F.issued d) ∧
      (takesAll D (pairs.map Prod.fst) d = true → ok = true) := by
  induction pairs generalizing d t with
  | nil =>
    cases run
    refine ⟨⟨[], ?_⟩, bound, fun _ => Or.inl, fun _ => rfl⟩
    exact ⟨⟨sound, fun _ => id⟩, id, List.nodup_nil, by simp⟩
  | cons pair rest ih =>
    obtain ⟨target, output⟩ := pair
    have step := F.submits target d sound
    simp only [submitOutputs] at run
    cases answered : D.submitCapture target d with
    | mk answer d₁ =>
      rw [answered] at run step
      cases answer with
      | none =>
        cases run
        refine ⟨⟨_, step⟩, fun τ member => step.grows (bound τ member), fun _ => Or.inl, ?_⟩
        simp [takesAll, answered]
      | some token =>
        obtain ⟨nonzero, fresh, known⟩ := step.usable token (by simp)
        have free : ¬ (token = 0 ∨ token ∈ t.driverOutputs) := by
          rintro (zero | taken)
          · exact nonzero zero
          · exact fresh (bound token taken)
        simp only [Tracker.bindDriverOutput, if_neg free] at run
        obtain ⟨⟨tokens, later⟩, bound', news, all⟩ := ih step.sound (by
          intro τ member
          rcases (AList.mem_insert _).mp member with rfl | old
          · exact known
          · exact step.grows (bound τ old)) run
        refine ⟨⟨_, step.trans later⟩, bound', fun τ member => ?_, fun takes => ?_⟩
        · rcases news τ member with before | unknown
          · rcases (AList.mem_insert _).mp before with rfl | old
            · exact Or.inr fresh
            · exact Or.inl old
          · exact Or.inr fun old => unknown (step.grows old)
        · apply all
          simpa [takesAll, answered] using takes

def Taken (D : DriverAdapter δ) (request : CaptureRequest) (s : Session δ) : Prop :=
  request.frameNumber ∉ s.inFlight.requests ∧ ∀ d ∈ s.driver,
    (D.canSubmitCaptureOutputs (requestOutputsFor request) d).1 = true ∧
      takesAll D (requestOutputsFor request)
        (D.canSubmitCaptureOutputs (requestOutputsFor request) d).2 = true

end Submission

section Rotation

variable {D : DriverAdapter δ} {F : FreshTokens D}

/-- Rows and running completions together hold the configured preview buffers, each
as often as it is configured, and every row is bound to exactly one token. -/
structure PreviewsKept (s : System δ π) : Prop where
  placed : (places s).Perm s.session.config.continuousPreviewBuffers
  bound : ∀ f output, s.session.inFlight.streamingOutputs.lookup f = some output →
    ∃! τ, s.session.inFlight.driverOutputs.lookup τ = some { frameNumber := f, outputIndex := -1 }

/-- No flush, no close, and stream callbacks give their lease back with nothing
changed but the fence. -/
def PreviewRun (s : System δ π) : Label → Prop
  | .flush _ => False
  | .close _ => False
  | .streamCallback k lease => ∀ handler ∈ s.callbacks[k]?,
      lease = { handler.lease with consumerReleaseFenceFd := lease.consumerReleaseFenceFd }
  | _ => True

/-- A request that carries the number of a live preview frame does not fail. -/
def NumbersApart (D : DriverAdapter δ) (s : System δ π) : Label → Prop
  | .runTask k _ => ∀ task ∈ s.tasks[k]?,
      task.2.frameNumber ∈ s.session.inFlight.streamingOutputs → Taken D task.2 s.session
  | _ => True

def OwnLease (handler : PreviewHandler) : Prop :=
  handler.output.streamType = handler.output.target.streamType ∧
    ∃ fence, handler.lease = leaseWith handler.output fence

structure Started (F : FreshTokens D) (d : δ) (s : System δ π) : Prop where
  state : s.session.state = .streaming
  running : F.running d
  handlers : ∀ handler ∈ s.callbacks ++ s.returning, OwnLease handler
  rows : ∀ f output, s.session.inFlight.streamingOutputs.lookup f = some output →
    output.streamType = output.target.streamType
  kept : PreviewsKept s

structure Waiting (s : System δ π) : Prop where
  state : s.session.state = .created ∨ s.session.state = .configured
  rows : s.session.inFlight.streamingOutputs = ∅
  callbacks : s.callbacks = []
  returning : s.returning = []

structure Rotating (F : FreshTokens D) (config : CameraDeviceSessionConfig) (d : δ)
    (s : System δ π) : Prop where
  tracked : Tracked s
  config : s.session.config = config
  driver : s.session.driver = some d
  sound : F.sound d
  bound : Bound F s.session.inFlight d
  phase : Waiting s ∨ Started F d s

variable {config : CameraDeviceSessionConfig} {d d' : δ} {s t : System δ π}

private theorem Rotating.keep (R : Rotating F config d s) (T : Tracked t)
    (follows : F.Follows d d') (running : F.running d → F.running d')
    (driver : t.session.driver = some d') (same : t.session.config = s.session.config)
    (rows : t.session.inFlight.streamingOutputs = s.session.inFlight.streamingOutputs)
    (bound : Bound F t.session.inFlight d')
    (tokens : ∀ τ f, f ∈ s.session.inFlight.streamingOutputs →
      (t.session.inFlight.driverOutputs.lookup τ = some { frameNumber := f, outputIndex := -1 } ↔
        s.session.inFlight.driverOutputs.lookup τ = some { frameNumber := f, outputIndex := -1 }))
    (state : t.session.state = s.session.state ∨
      (s.session.state = .created ∧ t.session.state = .configured))
    (callbacks : t.callbacks = s.callbacks) (returning : t.returning = s.returning) :
    Rotating F config d' t where
  tracked := T
  config := same.trans R.config
  driver := driver
  sound := follows.sound
  bound := bound
  phase := by
    rcases R.phase with W | K
    · refine Or.inl ⟨?_, rows.trans W.rows, callbacks.trans W.callbacks,
        returning.trans W.returning⟩
      rcases state with kept | ⟨-, configured⟩
      · rw [kept]
        exact W.state
      · exact Or.inr configured
    · have kept : t.session.state = s.session.state := by
        rcases state with kept | ⟨created, -⟩
        · exact kept
        · rw [K.state] at created
          cases created
      have placed : places t = places s := by
        simp only [places, rowTargets, heldTargets, rows, callbacks, returning]
      refine Or.inr ⟨kept.trans K.state, running K.running, ?_, ?_, ?_, fun f output found => ?_⟩
      · rw [callbacks, returning]
        exact K.handlers
      · rw [rows]
        exact K.rows
      · rw [placed, same]
        exact K.kept.placed
      · rw [rows] at found
        simp only [tokens _ f (mem_of_lookup found)]
        exact K.kept.bound f output found

private theorem Rotating.quiet (R : Rotating F config d s) (T : Tracked t)
    (follows : F.Follows d d') (running : F.running d → F.running d')
    (driver : t.session.driver = some d') (same : t.session.config = s.session.config)
    (tables : t.session.inFlight = s.session.inFlight)
    (state : t.session.state = s.session.state ∨
      (s.session.state = .created ∧ t.session.state = .configured))
    (callbacks : t.callbacks = s.callbacks) (returning : t.returning = s.returning) :
    Rotating F config d' t := by
  refine R.keep T follows running driver same (by rw [tables]) ?_ (fun τ f _ => by rw [tables])
    state callbacks returning
  rw [tables]
  exact fun τ member => follows.grows (R.bound τ member)

theorem submitted_targets {tokens : List DriverToken} {buffers : List OutputBufferTarget}
    (next : Nat) (length : tokens.length = buffers.length) :
    (tokens.zip (streamingOutputsFrom next buffers)).map (fun pair => pair.2.target) = buffers := by
  have second : (fun pair : DriverToken × InFlightStreamingOutput => pair.2.target) =
      (fun output : InFlightStreamingOutput => output.target) ∘ Prod.snd := rfl
  rw [second, ← List.map_map, List.map_snd_zip (by simp [streamingOutputsFrom, length])]
  simp only [streamingOutputsFrom, List.map_map, Function.comp_def]
  exact List.zipIdx_map_fst _ _

theorem streamingOutputsFrom_type {next : Nat} {buffers : List OutputBufferTarget}
    {output : InFlightStreamingOutput} (member : output ∈ streamingOutputsFrom next buffers) :
    output.streamType = output.target.streamType := by
  simp only [streamingOutputsFrom, List.mem_map] at member
  obtain ⟨entry, -, rfl⟩ := member
  rfl

private theorem start_started (R : Rotating F config d s) {stream : StreamConfig} (W : Waiting s)
    (T : Tracked (startStep D s)) {d₁ : δ} {tokens : List DriverToken} {tracker : Tracker}
    (answer : D.startStreaming d = (true, d₁))
    (offered : D.startContinuousStream stream s.session.config.continuousPreviewBuffers d₁ =
      (some tokens, d'))
    (length : tokens.length = s.session.config.continuousPreviewBuffers.length)
    (bound : bindStreamingOutputs (tokens.zip (streamingOutputsFrom
      s.session.nextStreamingFrameNumber s.session.config.continuousPreviewBuffers))
      s.session.inFlight = (true, tracker))
    (same : (startStreaming D s.session).2 = { s.session with
      driver := some d'
      state := .streaming
      nextStreamingFrameNumber :=
        s.session.nextStreamingFrameNumber + s.session.config.continuousPreviewBuffers.length
      inFlight := tracker }) :
    Rotating F config d' (startStep D s) := by
  have begun := F.starts d R.sound
  have on := F.started d R.sound
  rw [answer] at begun on
  have given := F.streams stream s.session.config.continuousPreviewBuffers _ begun.sound
  rw [offered] at given
  refine ⟨T, ?_, ?_, given.sound, ?_, Or.inr ⟨?_, ?_, ?_, ?_, ?_, ?_⟩⟩
  · simp only [startStep, same]
    exact R.config
  · simp only [startStep, same]
  · intro τ member
    simp only [startStep, same] at member
    obtain ⟨c, found⟩ := Option.isSome_iff_exists.mp (AList.lookup_isSome.mpr member)
    have news := (bindStreamingOutputs_adds (tokens.zip (streamingOutputsFrom
      s.session.nextStreamingFrameNumber s.session.config.continuousPreviewBuffers))
      s.session.inFlight).2.2.2 τ c
    rw [bound] at news
    rcases news found with before | ⟨-, -, output, listed, -, -⟩
    · exact given.grows (begun.grows (R.bound τ (mem_of_lookup before)))
    · exact (given.usable τ (List.of_mem_zip listed).1).2.2
  · simp only [startStep, same]
  · exact given.running (on rfl)
  · simp only [startStep, W.callbacks, W.returning]
    simp
  · intro f output found
    simp only [startStep, same] at found
    rcases bindStreamingOutputs_origin _ bound f output found with before | ⟨τ, listed, -, -⟩
    · simp [W.rows] at before
    · exact streamingOutputsFrom_type (List.of_mem_zip listed).2
  · obtain ⟨all, -, rows, whole⟩ := bindStreamingOutputs_places (tokens.zip (streamingOutputsFrom
      s.session.nextStreamingFrameNumber s.session.config.continuousPreviewBuffers))
      s.session.inFlight
    rw [bound] at rows whole
    have targets : all = s.session.config.continuousPreviewBuffers := by
      rw [whole rfl]
      exact submitted_targets _ length
    have before : rowTargets s.session.inFlight = [] := by
      simp [rowTargets, values, W.rows]
    rw [before, List.append_nil, targets] at rows
    have held : heldTargets (startStep D s) = [] := by
      simp [heldTargets, startStep, W.callbacks, W.returning]
    simp only [places, held, List.append_nil]
    simp only [startStep, same]
    exact rows
  · intro f output found
    simp only [startStep, same] at found ⊢
    rcases bindStreamingOutputs_origin _ bound f output found with before | ⟨τ, -, -, at_τ⟩
    · simp [W.rows] at before
    · refine ⟨τ, at_τ, fun τ' at_τ' => ?_⟩
      have consistent := T.consistent
      simp only [startStep, same] at consistent
      exact consistent.separate τ' τ _ _ at_τ' at_τ (by simp) (by simp) rfl

private theorem failed_rotating (R : Rotating F config d s) {n f : Nat} {result : CaptureResult}
    {k : Nat} {metrics : FrameMetrics}
    (T : Tracked { s with
      tasks := s.tasks.eraseIdx k
      session := { s.session with
        driver := some d', inFlight := dropFrame s.session.inFlight f, metrics := metrics }
      submissions := s.submissions ++ [(n, s.session.driver, some d')]
      prepared := s.prepared ++ [(n, result)] })
    (follows : F.Follows d d') (running : F.running d → F.running d')
    (apart : f ∉ s.session.inFlight.streamingOutputs) :
    Rotating F config d' { s with
      tasks := s.tasks.eraseIdx k
      session := { s.session with
        driver := some d', inFlight := dropFrame s.session.inFlight f, metrics := metrics }
      submissions := s.submissions ++ [(n, s.session.driver, some d')]
      prepared := s.prepared ++ [(n, result)] } := by
  refine R.keep T follows running rfl rfl rfl ?_ ?_ (Or.inl rfl) rfl rfl
  · intro τ member
    obtain ⟨c, found⟩ := Option.isSome_iff_exists.mp (AList.lookup_isSome.mpr member)
    exact follows.grows (R.bound τ (mem_of_lookup (lookup_dropFrame_tokens.mp found).1))
  · intro τ f' row
    rw [lookup_dropFrame_tokens]
    refine and_iff_left ?_
    rintro rfl
    exact apart row

private theorem runTask_rotating (R : Rotating F config d s) {k : Nat} {now : Int}
    (T : Tracked t) (apart : NumbersApart D s (.runTask k now))
    (taken : runTaskStep D k now s = some t) : ∃ d', Rotating F config d' t := by
  obtain ⟨n, request, at_task, ⟨result, session, outcome, rfl⟩ | ⟨session, outcome, rfl⟩⟩ :=
    runTaskStep_outcome D taken
  · have unnumbered : ¬ Taken D request s.session →
        request.frameNumber ∉ s.session.inFlight.streamingOutputs :=
      fun fails listed => fails (apart _ at_task listed)
    cases outcome with
    | rejected closed =>
      exact ⟨d, R.quiet T ⟨R.sound, fun _ => id⟩ id R.driver rfl rfl (Or.inl rfl) rfl rfl⟩
    | @refused d₀ d' driver streaming answer message =>
      obtain rfl := Option.some.inj (R.driver.symm.trans driver)
      have step := F.preflights (requestOutputsFor request) d R.sound
      rw [answer] at step
      refine ⟨d', failed_rotating R T step.toFollows step.running (unnumbered fun taken => ?_)⟩
      have accepted := (taken.2 d driver).1
      rw [answer] at accepted
      cases accepted
    | @duplicate d₀ d' row driver streaming answer live =>
      obtain rfl := Option.some.inj (R.driver.symm.trans driver)
      have step := F.preflights (requestOutputsFor request) d R.sound
      rw [answer] at step
      refine ⟨d', failed_rotating R T step.toFollows step.running (unnumbered fun taken => ?_)⟩
      exact taken.1 (mem_of_lookup live)
    | @failed d₀ d₁ d' t₁ t' driver streaming answer absent before stopped =>
      obtain rfl := Option.some.inj (R.driver.symm.trans driver)
      have step := F.preflights (requestOutputsFor request) d R.sound
      rw [answer] at step
      have bound : Bound F t₁ d₁ := by
        intro τ member
        rw [before] at member
        exact step.grows (R.bound τ member)
      obtain ⟨⟨tokens, later⟩, -, -, all⟩ := submitOutputs_issues F step.sound bound stopped
      have whole := step.trans later
      refine ⟨d', failed_rotating R T whole.toFollows whole.running (unnumbered fun taken => ?_)⟩
      have accepted := (taken.2 d driver).2
      rw [answer, ← requestPairs_outputs] at accepted
      cases all accepted
  · cases outcome with
    | @submitted d₀ d₁ d' t₁ t' t'' tokens driver streaming answer before finished after bound =>
      obtain rfl := Option.some.inj (R.driver.symm.trans driver)
      have step := F.preflights (requestOutputsFor request) d R.sound
      rw [answer] at step
      have issued : Bound F t₁ d₁ := by
        intro τ member
        rw [before] at member
        exact step.grows (R.bound τ member)
      obtain ⟨⟨more, later⟩, all, -, -⟩ := submitOutputs_issues F step.sound issued finished
      have whole := step.trans later
      refine ⟨d', R.keep T whole.toFollows whole.running rfl rfl bound.streams ?_ ?_ (Or.inl rfl)
        rfl rfl⟩
      · intro τ member
        simp only [after] at member
        exact all τ member
      · intro τ f row
        rw [bound.lookups]
        refine or_iff_left ?_
        rintro ⟨i, -, same⟩
        have index : (-1 : Int) = (i : Int) := congrArg DriverOutputContext.outputIndex same
        omega

private theorem process_rotating (R : Rotating F config d s)
    {processors : List (Option (OutputProcessor π))} {k : Nat} {now : Int} (T : Tracked t)
    (taken : processStep processors k now s = some t) : Rotating F config d t := by
  obtain ⟨completion, filled, p, session, -, outcome, rfl⟩ :=
    processStep_outcome R.tracked.consistent taken
  have still : F.Follows d d := ⟨R.sound, fun _ => id⟩
  have capture : ∀ c : DriverOutputContext, 0 ≤ c.outputIndex →
      s.session.inFlight.driverOutputs.lookup completion.token = some c → ∀ τ f,
      ((s.session.inFlight.driverOutputs.erase completion.token).lookup τ =
          some { frameNumber := f, outputIndex := -1 } ↔
        s.session.inFlight.driverOutputs.lookup τ =
          some { frameNumber := f, outputIndex := -1 }) := by
    intro c nonnegative bound τ f
    rw [lookup_erase_eq_some]
    refine and_iff_right_of_imp ?_
    rintro found rfl
    rw [bound] at found
    have index := congrArg DriverOutputContext.outputIndex (Option.some.inj found)
    simp only at index
    omega
  have erased : ∀ τ, τ ∈ s.session.inFlight.driverOutputs.erase completion.token → τ ∈ F.issued d :=
    fun τ member => R.bound τ (AList.mem_erase.mp member).2
  cases outcome with
  | unknown unbound => exact R.quiet T still id R.driver rfl rfl (Or.inl rfl) rfl rfl
  | @preview c output fence _ bound negative row processed =>
    obtain ⟨minus, -⟩ := R.tracked.consistent.streams _ _ bound negative
    refine ⟨T, R.config, R.driver, R.sound, erased, ?_⟩
    rcases R.phase with W | K
    · simp [W.rows] at row
    refine Or.inr ⟨K.state, K.running, fun handler member => ?_, fun f o found => ?_, ?_,
      fun f o found => ?_⟩
    · simp only [afterCompletion, List.mem_append, List.mem_singleton] at member
      rcases member with (before | rfl) | before
      · exact K.handlers handler (List.mem_append_left _ before)
      · exact ⟨K.rows _ _ row, -1, rfl⟩
      · exact K.handlers handler (List.mem_append_right _ before)
    · exact K.rows f o (lookup_erase_eq_some.mp found).2
    · exact (completed_places row rfl).trans K.kept.placed
    · obtain ⟨other, before⟩ := lookup_erase_eq_some.mp found
      obtain ⟨τ, at_τ, unique⟩ := K.kept.bound f o before
      refine ⟨τ, lookup_erase_eq_some.mpr ⟨?_, at_τ⟩, fun τ' at_τ' => ?_⟩
      · rintro rfl
        rw [bound] at at_τ
        exact other (congrArg DriverOutputContext.frameNumber (Option.some.inj at_τ)).symm
      · exact unique τ' (lookup_erase_eq_some.mp at_τ').2
  | @waiting c row output fence _ bound live member index unfinished processed pending =>
    have nonnegative := (R.tracked.consistent.rows _ _ live).index_nonneg member
    rw [index] at nonnegative
    exact R.keep T still id R.driver rfl rfl erased (fun τ f _ => capture c nonnegative bound τ f)
      (Or.inl rfl) rfl rfl
  | @complete c row output fence _ bound live member index unfinished processed finished =>
    have nonnegative := (R.tracked.consistent.rows _ _ live).index_nonneg member
    rw [index] at nonnegative
    exact R.keep T still id R.driver rfl rfl erased (fun τ f _ => capture c nonnegative bound τ f)
      (Or.inl rfl) rfl rfl

private theorem callback_rotating (R : Rotating F config d s) {callbacks : Callbacks} {k : Nat}
    {lease : StreamBufferLease} (T : Tracked t) (kept : PreviewRun s (.streamCallback k lease))
    (taken : streamCallbackStep callbacks k lease s = some t) : Rotating F config d t := by
  have moved := calledBack_places taken
  simp only [streamCallbackStep] at taken
  split at taken
  · cases taken
  rename_i handler at_handler
  cases taken
  refine ⟨T, R.config, R.driver, R.sound, R.bound, ?_⟩
  rcases R.phase with W | K
  · simp [W.callbacks] at at_handler
  have own := K.handlers handler (List.mem_append_left _ (List.mem_of_getElem? at_handler))
  refine Or.inr ⟨K.state, K.running, fun h member => ?_, K.rows, moved.trans K.kept.placed,
    K.kept.bound⟩
  · simp only [List.mem_append, List.mem_singleton] at member
    rcases member with before | before | rfl
    · exact K.handlers h (List.mem_append_left _ (List.mem_of_mem_eraseIdx before))
    · exact K.handlers h (List.mem_append_right _ before)
    · split
      · obtain ⟨type, fence, leased⟩ := own
        refine ⟨type, lease.consumerReleaseFenceFd, ?_⟩
        have back := kept handler at_handler
        rw [leased] at back
        exact back
      · exact own

private theorem return_rotating (R : Rotating F config d s)
    (takes : TakesBack F config.continuousPreviewBuffers) {k : Nat} (T : Tracked t)
    (taken : returnStep D k s = some t) : ∃ d', Rotating F config d' t := by
  simp only [returnStep] at taken
  split at taken
  · cases taken
  rename_i handler at_handler
  cases taken
  rcases R.phase with W | K
  · simp [W.returning] at at_handler
  have running := List.mem_append_right s.callbacks (List.mem_of_getElem? at_handler)
  obtain ⟨type, fence, leased⟩ := K.handlers handler running
  have held : handler.output.target ∈ config.continuousPreviewBuffers := by
    rw [← R.config]
    refine K.kept.placed.mem_iff.mp (List.mem_append_right _ ?_)
    exact List.mem_map_of_mem running
  have accepted := takes handler.output fence d R.sound K.running held type
  rw [← leased] at accepted
  obtain ⟨token, answer⟩ := Option.isSome_iff_exists.mp accepted
  have step := F.returns handler.lease d R.sound
  rw [answer] at step
  obtain ⟨nonzero, fresh, known⟩ := step.usable token (by simp)
  have usable : token ∉ s.session.inFlight.driverOutputs := fun old => fresh (R.bound token old)
  have unused : s.session.nextStreamingFrameNumber ∉ s.session.inFlight.streamingOutputs := by
    intro old
    obtain ⟨row, found⟩ := Option.isSome_iff_exists.mp (AList.lookup_isSome.mpr old)
    exact Nat.lt_irrefl _ (R.tracked.consistent.fresh _ _ found).2
  have free : ¬ (token = 0 ∨ token ∈ s.session.inFlight.driverOutputs) := by
    rintro (zero | old)
    · exact nonzero zero
    · exact usable old
  have whole : D.returnStreamBuffer handler.lease d =
      (some token, (D.returnStreamBuffer handler.lease d).2) := Prod.ext answer rfl
  have effect : returnStreamBuffer D handler.lease handler.output s.session =
      { s.session with
        driver := some (D.returnStreamBuffer handler.lease d).2
        nextStreamingFrameNumber := s.session.nextStreamingFrameNumber + 1
        inFlight := { s.session.inFlight with
          streamingOutputs := s.session.inFlight.streamingOutputs.insert
            s.session.nextStreamingFrameNumber
            { handler.output with frameNumber := s.session.nextStreamingFrameNumber }
          driverOutputs := s.session.inFlight.driverOutputs.insert token
            { frameNumber := s.session.nextStreamingFrameNumber, outputIndex := -1 } } } := by
    simp only [returnStreamBuffer, R.driver, if_pos K.state]
    rw [whole]
    simp only [bindStreamingOutputs, Tracker.registerStreamingOutput, Tracker.bindDriverOutput,
      if_neg unused, if_neg free, if_true]
  simp only [effect] at T ⊢
  refine ⟨_, T, R.config, rfl, step.sound, fun τ member => ?_, Or.inr ⟨K.state,
    step.running K.running, fun h member => ?_, fun f output found => ?_, ?_,
    fun f output found => ?_⟩⟩
  · rcases (AList.mem_insert _).mp member with rfl | old
    · exact known
    · exact step.grows (R.bound τ old)
  · rcases List.mem_append.mp member with before | before
    · exact K.handlers h (List.mem_append_left _ before)
    · exact K.handlers h (List.mem_append_right _ (List.mem_of_mem_eraseIdx before))
  · rcases lookup_insert_eq_some.mp found with ⟨-, rfl⟩ | ⟨-, before⟩
    · exact type
    · exact K.rows f output before
  · refine List.Perm.trans ?_ ((returned_places at_handler).trans K.kept.placed)
    simp only [places, heldTargets, rowTargets, values_insert_of_fresh unused, List.map_cons,
      List.cons_append]
    exact List.Perm.refl _
  · rcases lookup_insert_eq_some.mp found with ⟨rfl, -⟩ | ⟨other, before⟩
    · refine ⟨token, AList.lookup_insert _, fun τ' at_τ' => ?_⟩
      rcases lookup_insert_eq_some.mp at_τ' with ⟨same, -⟩ | ⟨-, old⟩
      · exact same
      · obtain ⟨-, row, found⟩ := R.tracked.consistent.streams τ' _ old (by simp)
        exact (unused (mem_of_lookup found)).elim
    · obtain ⟨τ, at_τ, unique⟩ := K.kept.bound f output before
      refine ⟨τ, lookup_insert_eq_some.mpr (Or.inr ⟨?_, at_τ⟩), fun τ' at_τ' => ?_⟩
      · rintro rfl
        exact usable (mem_of_lookup at_τ)
      · rcases lookup_insert_eq_some.mp at_τ' with ⟨-, same⟩ | ⟨-, old⟩
        · exact (other (congrArg DriverOutputContext.frameNumber same)).elim
        · exact unique τ' old

private theorem step_error {processors : List (Option (OutputProcessor π))}
    {callbacks : Callbacks} {a : Label} (broken : s.session.state = .error)
    (permitted : PreviewRun s a) (taken : step D processors callbacks s a = some t) :
    t.session.state = .error := by
  cases a with
  | configureStreams registered =>
    cases taken
    rcases configureStreams_cases D registered s.session with
      same | ⟨d, d', fds, state, -, created, -, -, -⟩
    · simp only [same]
      exact broken
    · rw [broken] at created
      cases created
  | startStreaming =>
    cases taken
    rcases startStreaming_cases D s.session with same | ⟨d, d', next, state, -, configured, -⟩
    · simp only [startStep, same]
      exact broken
    · rw [broken] at configured
      cases configured
  | processRequest request =>
    simp only [step] at taken
    split at taken <;> cases taken
    exact broken
  | post k accepted =>
    rcases postStep_outcome taken with ⟨-, rfl⟩ | ⟨request, -, -, rfl⟩ <;>
      exact broken
  | runTask k now =>
    obtain ⟨n, request, -, ⟨result, session, outcome, rfl⟩ | ⟨session, outcome, rfl⟩⟩ :=
      runTaskStep_outcome D taken <;> cases outcome <;> exact broken
  | dequeue readyFd =>
    cases taken
    rcases dequeueCompletion_cases D readyFd s.session with same | ⟨d, -, -, same⟩ <;>
      simp only [dequeueStep, same] <;> exact broken
  | process k now =>
    simp only [step, processStep] at taken
    split at taken
    · cases taken
    rename_i completion at_completion
    cases taken
    have kept : (tryFillResultFromCompletion processors completion now s.processorState
        s.session).2.2.state = .error := by
      simp only [tryFillResultFromCompletion, closeFenceFd]
      repeat' split
      all_goals exact broken
    simp only [afterCompletion]
    split <;> exact kept
  | dispatch k =>
    simp only [step, dispatchStep] at taken
    split at taken <;> cases taken
    exact broken
  | streamCallback k lease =>
    simp only [step, streamCallbackStep] at taken
    split at taken <;> cases taken
    exact broken
  | returnStream k =>
    simp only [step, returnStep] at taken
    split at taken <;> cases taken
    rename_i handler at_handler
    rcases returnStreamBuffer_cases D handler.lease handler.output s.session with
      same | ⟨d, d', metrics, -, streaming, -⟩
    · simp only [same]
      exact broken
    · rw [broken] at streaming
      cases streaming
  | flush now => exact permitted.elim
  | close now => exact permitted.elim

private theorem step_rotating {processors : List (Option (OutputProcessor π))}
    {callbacks : Callbacks} {a : Label} {stream : StreamConfig}
    (preview : config.continuousPreviewConfig = some stream)
    (takes : TakesBack F config.continuousPreviewBuffers)
    (R : Rotating F config d s) (permitted : PreviewRun s a) (apart : NumbersApart D s a)
    (taken : step D processors callbacks s a = some t) :
    t.session.state = .error ∨ ∃ d', Rotating F config d' t := by
  have T := step_tracked D processors callbacks R.tracked taken
  have still : F.Follows d d := ⟨R.sound, fun _ => id⟩
  cases a with
  | configureStreams registered =>
    cases taken
    rcases configureStreams_cases D registered s.session with
      same | ⟨d₀, d', fds, state, driver, created, rfl, rfl | rfl, same⟩
    · simp only [same] at T ⊢
      exact Or.inr ⟨d, R.quiet T still id R.driver rfl rfl (Or.inl rfl) rfl rfl⟩
    · obtain rfl := Option.some.inj (R.driver.symm.trans driver)
      simp only [same] at T ⊢
      refine Or.inr ⟨_, T, R.config, rfl, (F.configures d R.sound).sound, fun τ member => ?_,
        Or.inl ?_⟩
      · exact (F.configures d R.sound).grows (R.bound τ member)
      · rcases R.phase with W | K
        · exact ⟨Or.inr rfl, W.rows, W.callbacks, W.returning⟩
        · rw [K.state] at created
          cases created
    · simp only [same]
      exact Or.inl trivial
  | startStreaming =>
    cases taken
    have outcome := startStreaming_outcome D s.session
    generalize begun : (startStreaming D s.session).2 = session at outcome
    have waiting : s.session.state = .configured → Waiting s := by
      intro configured
      rcases R.phase with W | K
      · exact W
      · rw [K.state] at configured
        cases configured
    cases outcome with
    | ignored unready =>
      simp only [startStep, begun] at T ⊢
      exact Or.inr ⟨d, R.quiet T still id R.driver rfl rfl (Or.inl rfl) rfl rfl⟩
    | failed driver configured answer =>
      simp only [startStep, begun]
      exact Or.inl trivial
    | plain driver configured answer absent =>
      rw [R.config, preview] at absent
      cases absent
    | unsupplied driver configured answer present empty =>
      simp only [startStep, begun]
      exact Or.inl trivial
    | refused driver configured answer present offered short =>
      simp only [startStep, begun]
      exact Or.inl trivial
    | @bound d₀ d₁ d₂ _ tokens ok tracker driver configured answer present supplied offered length
        registered =>
      obtain rfl := Option.some.inj (R.driver.symm.trans driver)
      cases ok with
      | false =>
        simp only [startStep, begun]
        exact Or.inl rfl
      | true =>
        exact Or.inr ⟨d₂, start_started R (waiting configured) T answer offered length registered
          begun⟩
  | processRequest request =>
    simp only [step] at taken
    split at taken <;> cases taken
    exact Or.inr ⟨d, R.quiet T still id R.driver rfl rfl (Or.inl rfl) rfl rfl⟩
  | post k accepted =>
    rcases postStep_outcome taken with ⟨-, rfl⟩ | ⟨request, -, -, rfl⟩ <;>
      exact Or.inr ⟨d, R.quiet T still id R.driver rfl rfl (Or.inl rfl) rfl rfl⟩
  | runTask k now => exact Or.inr (runTask_rotating R T apart taken)
  | dequeue readyFd =>
    cases taken
    rcases dequeueCompletion_cases D readyFd s.session with same | ⟨d₀, driver, -, same⟩
    · simp only [dequeueStep, same] at T ⊢
      exact Or.inr ⟨d, R.quiet T still id R.driver rfl rfl (Or.inl rfl) rfl rfl⟩
    · obtain rfl := Option.some.inj (R.driver.symm.trans driver)
      have step := F.dequeues readyFd d R.sound
      simp only [dequeueStep, same] at T ⊢
      exact Or.inr ⟨_, R.quiet T step.toFollows step.running rfl rfl rfl (Or.inl rfl) rfl rfl⟩
  | process k now => exact Or.inr ⟨d, process_rotating R T taken⟩
  | dispatch k =>
    simp only [step, dispatchStep] at taken
    split at taken <;> cases taken
    exact Or.inr ⟨d, R.quiet T still id R.driver rfl rfl (Or.inl rfl) rfl rfl⟩
  | streamCallback k lease => exact Or.inr ⟨d, callback_rotating R T permitted taken⟩
  | returnStream k => exact Or.inr (return_rotating R takes T taken)
  | flush now => exact permitted.elim
  | close now => exact permitted.elim

/-- In every run that has started its previews, has no flush or close, and in which
no failing request carries the number of a live preview frame, each configured
preview buffer is held by a running completion or is the target of a streaming
row, and every streaming row has exactly one token. -/
theorem previews_stay_in_rotation (D : DriverAdapter δ) (F : FreshTokens D)
    (processors : List (Option (OutputProcessor π))) (callbacks : Callbacks)
    (config : CameraDeviceSessionConfig) (stream : StreamConfig) (d : δ) (p : π)
    (preview : config.continuousPreviewConfig = some stream)
    (takes : TakesBack F config.continuousPreviewBuffers) (sound : F.sound d) (s : System δ π)
    (run : Reaches (step D processors callbacks)
      (fun s a => PreviewRun s a ∧ NumbersApart D s a) (System.initial config (some d) p) s)
    (streaming : s.session.state = .streaming) : PreviewsKept s := by
  have known : s.session.state = .error ∨ ∃ d', Rotating F config d' s := by
    refine run.invariant (fun s => s.session.state = .error ∨ ∃ d', Rotating F config d' s) ?_ ?_
    · rintro s a t (broken | ⟨d', R⟩) ⟨permitted, apart⟩ taken
      · exact Or.inl (step_error broken permitted taken)
      · exact step_rotating preview takes R permitted apart taken
    · refine Or.inr ⟨d, initial_tracked config (some d) p, rfl, rfl, sound, fun τ member => ?_,
        Or.inl ⟨Or.inl rfl, rfl, rfl, rfl⟩⟩
      simp [System.initial, Session.create, Tracker.empty] at member
  rcases known with broken | ⟨d', R⟩
  · rw [streaming] at broken
    cases broken
  · rcases R.phase with W | K
    · rcases W.state with created | configured
      · rw [streaming] at created
        cases created
      · rw [streaming] at configured
        cases configured
    · exact K.kept

end Rotation

section Runs

open MiniCam.Hal.MockDriverAdapter (MockDriver adapter complete completeAll)

instance takenDecidable (D : DriverAdapter δ) (request : CaptureRequest) (s : Session δ) :
    Decidable (Taken D request s) :=
  inferInstanceAs (Decidable (_ ∧ ∀ d ∈ s.driver, _ ∧ _))

instance previewRunDecidable (s : System δ π) (a : Label) : Decidable (PreviewRun s a) :=
  match a with
  | .flush _ | .close _ => .isFalse id
  | .streamCallback k lease =>
    inferInstanceAs (Decidable (∀ handler ∈ s.callbacks[k]?,
      lease = { handler.lease with consumerReleaseFenceFd := lease.consumerReleaseFenceFd }))
  | .configureStreams _ | .startStreaming | .processRequest _ | .post _ _ | .runTask _ _
  | .dequeue _ | .process _ _ | .dispatch _ | .returnStream _ => .isTrue trivial

instance numbersApartDecidable (D : DriverAdapter δ) (s : System δ π) (a : Label) :
    Decidable (NumbersApart D s a) :=
  match a with
  | .runTask k _ =>
    inferInstanceAs (Decidable (∀ task ∈ s.tasks[k]?,
      task.2.frameNumber ∈ s.session.inFlight.streamingOutputs → Taken D task.2 s.session))
  | .configureStreams _ | .startStreaming | .processRequest _ | .post _ _ | .dequeue _
  | .process _ _ | .dispatch _ | .streamCallback _ _ | .returnStream _ | .flush _ | .close _ =>
    .isTrue trivial

def mockSource : TokenSource MockDriver where
  sound := fun m => 0 < m.nextToken
  running := fun m => m.streaming = true
  issued := fun m => { τ | τ < m.nextToken }

private theorem mock_idle {m m' : MockDriver} (sound : mockSource.sound m)
    (next : m'.nextToken = m.nextToken) : mockSource.Follows m m' where
  sound := Nat.lt_of_lt_of_eq sound next.symm
  grows := fun _ known => Nat.lt_of_lt_of_eq known next.symm

private theorem mock_issues {m m' : MockDriver} {tokens : List DriverToken}
    (sound : mockSource.sound m) (streaming : m'.streaming = m.streaming)
    (grows : m.nextToken ≤ m'.nextToken) (apart : tokens.Nodup)
    (within : ∀ τ ∈ tokens, m.nextToken ≤ τ ∧ τ < m'.nextToken) :
    mockSource.Issues m m' tokens where
  sound := Nat.lt_of_lt_of_le sound grows
  grows := fun τ known => Nat.lt_of_lt_of_le known grows
  running := fun on => streaming.trans on
  apart := apart
  usable := by
    intro τ member
    obtain ⟨lower, upper⟩ := within τ member
    have positive : 0 < τ := Nat.lt_of_lt_of_le sound lower
    exact ⟨Nat.ne_of_gt positive, Nat.not_lt.mpr lower, upper⟩

private theorem complete_issues (width height : Int) (m : MockDriver) (sound : mockSource.sound m) :
    mockSource.Issues m (complete width height m).2 (complete width height m).1.toList := by
  simp only [complete]
  split
  · refine mock_issues sound rfl (Nat.le_succ _) (by simp) fun τ member => ?_
    simp only [Option.toList_some, List.mem_singleton] at member
    subst member
    exact ⟨Nat.le_refl _, Nat.lt_succ_self _⟩
  · exact mock_issues sound rfl (Nat.le_succ _) (by simp) (by simp)

private theorem completeAll_issues (sizes : List (Int × Int)) (m : MockDriver)
    (sound : mockSource.sound m) :
    mockSource.Issues m (completeAll sizes m).2 ((completeAll sizes m).1.getD []) := by
  induction sizes generalizing m with
  | nil =>
    exact mock_issues sound rfl (Nat.le_refl _) (by simp [completeAll]) (by simp [completeAll])
  | cons size rest ih =>
    obtain ⟨width, height⟩ := size
    have first := complete_issues width height m sound
    simp only [completeAll]
    cases answered : complete width height m with
    | mk answer m₁ =>
      rw [answered] at first
      cases answer with
      | none => exact first
      | some token =>
        have later := ih m₁ first.sound
        cases answered' : completeAll rest m₁ with
        | mk answer' m₂ =>
          rw [answered'] at later
          simp only [answered']
          cases answer' with
          | none =>
            exact ⟨(first.trans later).toFollows, (first.trans later).running, by simp, by simp⟩
          | some tokens => exact first.trans later

/-- The repository's mock driver gives every buffer a fresh token. -/
def mockTokens : FreshTokens adapter where
  toTokenSource := mockSource
  configures := by
    intro m sound
    have opened : (MockDriverAdapter.openPipe m).2.nextToken = m.nextToken := by
      simp only [MockDriverAdapter.openPipe]
      repeat' split
      all_goals rfl
    simp only [adapter, MockDriverAdapter.configureStream]
    split <;> rename_i answer <;> rw [answer] at opened <;> exact mock_idle sound opened
  starts := by
    intro m sound
    simp only [adapter, MockDriverAdapter.startStreaming]
    split <;> exact mock_idle sound rfl
  started := by
    intro m sound on
    simp only [adapter, MockDriverAdapter.startStreaming] at on ⊢
    split at on
    · simp_all [mockSource]
    · cases on
  streams := by
    intro stream buffers m sound
    simp only [adapter, MockDriverAdapter.startContinuousStream]
    split
    · split <;> exact completeAll_issues _ m sound
    · exact mock_issues sound rfl (Nat.le_refl _) (by simp) (by simp)
  stops := fun m sound => mock_idle sound rfl
  closes := fun m sound => mock_idle sound rfl
  preflights := fun outputs m sound =>
    mock_issues sound rfl (Nat.le_refl _) List.nodup_nil (by simp)
  submits := by
    intro target m sound
    simp only [adapter, MockDriverAdapter.submitCapture]
    split
    · split
      · exact mock_issues sound rfl (Nat.le_refl _) (by simp) (by simp)
      · have step := complete_issues target.width target.height
          { m with submitCount := m.submitCount + 1 } sound
        exact ⟨⟨step.sound, step.grows⟩, step.running, step.apart, step.usable⟩
    · exact mock_issues sound rfl (Nat.le_refl _) (by simp) (by simp)
  dequeues := by
    intro readyFd m sound
    simp only [adapter, MockDriverAdapter.dequeueCompletion]
    repeat' split
    all_goals exact mock_issues sound rfl (Nat.le_refl _) (by simp) (by simp)
  returns := by
    intro lease m sound
    simp only [adapter, MockDriverAdapter.returnStreamBuffer]
    split
    · refine mock_issues sound rfl (Nat.le_succ _) (by simp) fun τ member => ?_
      simp only [Option.toList_some, List.mem_singleton] at member
      subst member
      exact ⟨Nat.le_refl _, Nat.lt_succ_self _⟩
    · exact mock_issues sound rfl (Nat.le_refl _) (by simp) (by simp)

theorem mock_takesBack (buffers : List OutputBufferTarget) : TakesBack mockTokens buffers := by
  intro output fence m _ running _ _
  have on : m.streaming = true := running
  simp [adapter, MockDriverAdapter.returnStreamBuffer, on]

def twoPreviews : CameraDeviceSessionConfig :=
  { continuousPreviewConfig := some {}
    continuousPreviewBuffers :=
      [{ streamType := .preview, bufferId := 0, bufferFd := 20 },
       { streamType := .preview, bufferId := 1, bufferFd := 21 }] }

/-- Frame 7 is submitted twice and fails the second time, a request under the number
of the first preview frame is taken, and the first preview completes. -/
def mixedTraffic : List Label :=
  [.configureStreams true, .startStreaming, .processRequest { frameNumber := 7 },
   .processRequest { frameNumber := 7 }, .processRequest { frameNumber := 1000000000000 },
   .post 0 true, .post 0 true, .post 0 true, .runTask 0 1, .runTask 0 1, .runTask 0 1,
   .dequeue 5, .process 0 2]

theorem previews_stay_in_rotation_mixed :
    ∃ s : System MockDriver Unit,
      Reaches (step adapter [] ⟨true, true⟩)
        (fun s a => PreviewRun s a ∧ NumbersApart adapter s a)
        (System.initial twoPreviews (some {}) ()) s ∧
      s.callbacks.length = 1 ∧ s.prepared.length = 1 ∧ PreviewsKept s := by
  obtain ⟨s, run, passed⟩ := exists_reaches_of_replay (step adapter [] ⟨true, true⟩)
    (fun s a => PreviewRun s a ∧ NumbersApart adapter s a)
    (System.initial twoPreviews (some ({} : MockDriver)) ()) mixedTraffic
    (fun s => s.callbacks.length == 1 && s.prepared.length == 1 &&
      decide (s.session.state = .streaming)) (by decide +kernel)
  simp only [Bool.and_eq_true, beq_iff_eq, decide_eq_true_eq] at passed
  exact ⟨s, run, passed.1.1, passed.1.2,
    previews_stay_in_rotation adapter mockTokens [] ⟨true, true⟩ twoPreviews {} {} () rfl
      (mock_takesBack _) Nat.one_pos s run passed.2⟩

/-- A refused request that carries the number of the first preview frame takes that
frame's token with it, and the buffer never completes again. -/
theorem refused_request_strands_preview :
    ∃ s : System MockDriver Unit,
      Reaches (step adapter [] ⟨true, true⟩) PreviewRun
        (System.initial twoPreviews (some { canSubmit := false }) ()) s ∧
      s.session.state = .streaming ∧ ¬ PreviewsKept s := by
  obtain ⟨s, run, passed⟩ := exists_reaches_of_replay (step adapter [] ⟨true, true⟩) PreviewRun
    (System.initial twoPreviews (some ({ canSubmit := false } : MockDriver)) ())
    [.configureStreams true, .startStreaming, .processRequest { frameNumber := 1000000000000 },
     .post 0 true, .runTask 0 1]
    (fun s => decide (s.session.state = .streaming) &&
      (s.session.inFlight.streamingOutputs.lookup 1000000000000).isSome &&
      decide (∀ e ∈ s.session.inFlight.driverOutputs.entries,
        e.2.frameNumber ≠ 1000000000000)) (by decide +kernel)
  simp only [Bool.and_eq_true, decide_eq_true_eq] at passed
  obtain ⟨⟨streaming, row⟩, unbound⟩ := passed
  refine ⟨s, run, streaming, fun K => ?_⟩
  obtain ⟨output, found⟩ := Option.isSome_iff_exists.mp row
  obtain ⟨τ, at_τ, -⟩ := K.bound _ output found
  exact unbound _ (lookup_eq_some_iff.mp at_τ) rfl

end Runs

end MiniCam.Hal.PreviewRotation
