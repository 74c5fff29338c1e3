/- Module: MiniCam/Hal/PreviewOwnership
   source: hal/camera_device_session.cpp, README.md
   digest: A preview buffer has one owner, the driver or one running completion, as long
     as streaming is not restarted under a completion of the previous start. -/

import MiniCam.Hal.PreviewRotation

set_option autoImplicit false
set_option relaxedAutoImplicit false

namespace MiniCam.Hal.PreviewOwnership

open MiniCam.Foundation.KeyedTable
open MiniCam.Foundation.Runs (Reaches exists_reaches_of_replay)
open MiniCam.Hal.Interface
open MiniCam.Hal.InFlightRequestTracker
open MiniCam.Hal.CameraDeviceSession
open MiniCam.Hal.TrackerInvariant
open MiniCam.Hal.SessionSpec
open MiniCam.Hal.SessionSystem
open MiniCam.Hal.TokenBijection
open MiniCam.Hal.PreviewRotation

variable {δ π : Type}

section Queue

/-- A driver that holds each buffer it took under the token it answered with, until it
reports that token or is stopped. -/
structure BufferQueue (D : DriverAdapter δ) extends FreshTokens D where
  queued : δ → DriverToken → Int → Prop
  configureQueue : ∀ d τ fd, sound d → queued (D.configureStream d).2 τ fd → queued d τ fd
  startQueue : ∀ d τ fd, sound d → queued (D.startStreaming d).2 τ fd → queued d τ fd
  streamQueue : ∀ stream buffers d τ fd, sound d →
    queued (D.startContinuousStream stream buffers d).2 τ fd → queued d τ fd ∨
      ∃ tokens buffer, (D.startContinuousStream stream buffers d).1 = some tokens ∧
        (τ, buffer) ∈ tokens.zip buffers ∧ buffer.bufferFd = fd
  streamLength : ∀ stream buffers d tokens, sound d →
    (D.startContinuousStream stream buffers d).1 = some tokens → tokens.length = buffers.length
  stopQueue : ∀ d τ fd, sound d → ¬ queued (D.stopStreaming d) τ fd
  closeQueue : ∀ d τ fd, sound d → queued (D.close d) τ fd → queued d τ fd
  preflightQueue : ∀ outputs d τ fd, sound d →
    queued (D.canSubmitCaptureOutputs outputs d).2 τ fd → queued d τ fd
  submitQueue : ∀ target d τ fd, sound d → queued (D.submitCapture target d).2 τ fd →
    queued d τ fd ∨ ((D.submitCapture target d).1 = some τ ∧ fd = target.bufferFd)
  dequeueQueue : ∀ readyFd d τ fd, sound d → queued (D.dequeueCompletion readyFd d).2 τ fd →
    queued d τ fd ∧ ∀ completion, (D.dequeueCompletion readyFd d).1 = some completion →
      completion.token ≠ τ
  dequeueKnown : ∀ readyFd d completion, sound d →
    (D.dequeueCompletion readyFd d).1 = some completion → completion.token ∈ issued d
  returnQueue : ∀ lease d τ fd, sound d → queued (D.returnStreamBuffer lease d).2 τ fd →
    queued d τ fd ∨ ((D.returnStreamBuffer lease d).1 = some τ ∧ fd = lease.bufferFd)

variable {D : DriverAdapter δ} (Q : BufferQueue D)

theorem submitOutputs_queue {frameNumber : Nat}
    {pairs : List (OutputBufferTarget × InFlightOutput)} {d d' : δ} {t t' : Tracker} {ok : Bool}
    (sound : Q.sound d) (run : submitOutputs D frameNumber pairs d t = (ok, d', t')) :
    Q.Follows d d' ∧ ∀ τ fd, Q.queued d' τ fd → Q.queued d τ fd ∨
      (τ ∉ Q.issued d ∧ τ ∈ Q.issued d' ∧ fd ∈ pairs.map fun pair => pair.1.bufferFd) := by
  induction pairs generalizing d t with
  | nil =>
    cases run
    exact ⟨⟨sound, fun _ => id⟩, fun _ _ => Or.inl⟩
  | cons pair rest ih =>
    obtain ⟨target, output⟩ := pair
    have step := Q.submits target d sound
    have enters := Q.submitQueue target d
    simp only [submitOutputs] at run
    cases answered : D.submitCapture target d with
    | mk answer d₁ =>
      rw [answered] at run step enters
      have first : ∀ τ fd, Q.queued d₁ τ fd → Q.queued d τ fd ∨
          (τ ∉ Q.issued d ∧ τ ∈ Q.issued d₁ ∧
            fd ∈ ((target, output) :: rest).map fun pair => pair.1.bufferFd) := by
        intro τ fd held
        rcases enters τ fd sound held with before | ⟨given, rfl⟩
        · exact Or.inl before
        · simp only at given
          obtain ⟨-, fresh, known⟩ := step.usable τ (by simp [given])
          exact Or.inr ⟨fresh, known, by simp⟩
      cases answer with
      | none =>
        cases run
        exact ⟨step.toFollows, first⟩
      | some token =>
        simp only [Tracker.bindDriverOutput] at run
        split at run
        · rename_i refused
          split at refused <;> cases refused
          cases run
          exact ⟨step.toFollows, first⟩
        · rename_i bound
          split at bound <;> cases bound
          obtain ⟨later, more⟩ := ih step.sound run
          have grows : Q.issued d ⊆ Q.issued d' := fun _ known => later.grows (step.grows known)
          refine ⟨⟨later.sound, grows⟩, fun τ fd held => ?_⟩
          rcases more τ fd held with middle | ⟨fresh, known, member⟩
          · rcases first τ fd middle with before | ⟨fresh, known, member⟩
            · exact Or.inl before
            · exact Or.inr ⟨fresh, later.grows known, member⟩
          · exact Or.inr ⟨fun old => fresh (step.grows old), known, List.mem_cons_of_mem _ member⟩

end Queue

section History

variable {D : DriverAdapter δ} {F : FreshTokens D} {d d' : δ} {s t : System δ π}

structure History (F : FreshTokens D) (d : δ) (s : System δ π) : Prop where
  issued : ∀ τ b, s.boundFor τ = some b → τ ∈ F.issued d
  once : ∀ τ τ' b b' f, s.boundFor τ = some b → s.boundFor τ' = some b' →
    b.use = .preview f → b'.use = .preview f → τ = τ'
  numbered : ∀ τ b f, s.boundFor τ = some b → b.use = .preview f →
    f < s.session.nextStreamingFrameNumber

theorem recorded_known {before after : Tracker} {use : DriverOutputContext → Use}
    {old : DriverToken → Option Binding} {τ : DriverToken}
    (news : ∀ τ ∈ after.driverOutputs, τ ∈ before.driverOutputs ∨ τ ∉ F.issued d)
    (known : τ ∈ F.issued d) : recordBindings before after use old τ = old τ := by
  rcases recordBindings_cases before after use old τ with same | ⟨c, found, fresh, -⟩
  · exact same
  · rcases news τ (mem_of_lookup found) with inside | unknown
    · exact (fresh inside).elim
    · exact (unknown known).elim

theorem History.mono (H : History F d s) (grows : F.issued d ⊆ F.issued d')
    (same : t.boundFor = s.boundFor)
    (next : s.session.nextStreamingFrameNumber ≤ t.session.nextStreamingFrameNumber) :
    History F d' t where
  issued := fun τ b found => grows (H.issued τ b (same ▸ found))
  once := fun τ τ' b b' f found found' => H.once τ τ' b b' f (same ▸ found) (same ▸ found')
  numbered := fun τ b f found use =>
    Nat.lt_of_lt_of_le (H.numbered τ b f (same ▸ found) use) next

theorem History.record (H : History F d s) (T : Tracked t) (grows : F.issued d ⊆ F.issued d')
    (use : DriverOutputContext → Use)
    (recorded : t.boundFor =
      recordBindings s.session.inFlight t.session.inFlight use s.boundFor)
    (bound : Bound F t.session.inFlight d')
    (next : s.session.nextStreamingFrameNumber ≤ t.session.nextStreamingFrameNumber)
    (news : ∀ τ c, t.session.inFlight.driverOutputs.lookup τ = some c →
      τ ∉ s.session.inFlight.driverOutputs → ∀ f, use c = .preview f →
        c.outputIndex < 0 ∧ c.frameNumber = f ∧ s.session.nextStreamingFrameNumber ≤ f ∧
          f < t.session.nextStreamingFrameNumber) :
    History F d' t := by
  have origin : ∀ τ b, t.boundFor τ = some b → s.boundFor τ = some b ∨
      ∃ c, t.session.inFlight.driverOutputs.lookup τ = some c ∧
        τ ∉ s.session.inFlight.driverOutputs ∧ b.use = use c := by
    intro τ b found
    rw [recorded] at found
    rcases recordBindings_cases s.session.inFlight t.session.inFlight use s.boundFor τ with
      same | ⟨c, at_τ, fresh, same⟩
    · exact Or.inl (same ▸ found)
    · refine Or.inr ⟨c, at_τ, fresh, ?_⟩
      rw [same, bindingOf, Option.map_eq_some_iff] at found
      obtain ⟨target, -, rfl⟩ := found
      rfl
  refine ⟨fun τ b found => ?_, fun τ τ' b b' f found found' uses uses' => ?_,
    fun τ b f found uses => ?_⟩
  · rcases origin τ b found with before | ⟨c, at_τ, -, -⟩
    · exact grows (H.issued τ b before)
    · exact bound τ (mem_of_lookup at_τ)
  · rcases origin τ b found with before | ⟨c, at_τ, fresh, same⟩
    · rcases origin τ' b' found' with before' | ⟨c', at_τ', fresh', same'⟩
      · exact H.once τ τ' b b' f before before' uses uses'
      · have old := H.numbered τ b f before uses
        have new := (news τ' c' at_τ' fresh' f (same' ▸ uses')).2.2.1
        omega
    · obtain ⟨negative, frame, beyond, -⟩ := news τ c at_τ fresh f (same ▸ uses)
      rcases origin τ' b' found' with before' | ⟨c', at_τ', fresh', same'⟩
      · have old := H.numbered τ' b' f before' uses'
        omega
      · obtain ⟨negative', frame', -, -⟩ := news τ' c' at_τ' fresh' f (same' ▸ uses')
        exact T.consistent.separate τ τ' c c' at_τ at_τ' negative negative'
          (frame.trans frame'.symm)
  · rcases origin τ b found with before | ⟨c, at_τ, fresh, same⟩
    · exact Nat.lt_of_lt_of_le (H.numbered τ b f before uses) next
    · exact (news τ c at_τ fresh f (same ▸ uses)).2.2.2

theorem bindStreamingOutputs_binds (pairs : List (DriverToken × InFlightStreamingOutput))
    {t t' : Tracker} (run : bindStreamingOutputs pairs t = (true, t')) :
    ∀ τ output, (τ, output) ∈ pairs →
      t'.driverOutputs.lookup τ = some { frameNumber := output.frameNumber, outputIndex := -1 } ∧
        t'.streamingOutputs.lookup output.frameNumber = some output := by
  induction pairs generalizing t with
  | nil =>
    intro τ output member
    cases member
  | cons pair rest ih =>
    obtain ⟨token, new⟩ := pair
    simp only [bindStreamingOutputs, Tracker.registerStreamingOutput, Tracker.bindDriverOutput]
      at run
    split at run
    · cases run
    rename_i registered
    split at registered <;> cases registered
    split at run
    · cases run
    rename_i bound
    split at bound <;> cases bound
    intro τ output member
    rcases List.mem_cons.mp member with here | later
    · cases here
      have kept := bindStreamingOutputs_adds rest { t with
        streamingOutputs := t.streamingOutputs.insert new.frameNumber new
        driverOutputs := t.driverOutputs.insert token
          { frameNumber := new.frameNumber, outputIndex := -1 } }
      rw [run] at kept
      exact ⟨kept.2.2.1 _ _ (AList.lookup_insert _), kept.2.1 _ _ (AList.lookup_insert _)⟩
    · exact ih run τ output later

end History

section Ownership

variable {D : DriverAdapter δ} {Q : BufferQueue D}

def previewFds (config : CameraDeviceSessionConfig) : List Int :=
  config.continuousPreviewBuffers.map (·.bufferFd)

/-- A completion of the buffer is between its two locked sections. -/
def Held (s : System δ π) (fd : Int) : Prop :=
  ∃ handler ∈ s.callbacks ++ s.returning, handler.output.target.bufferFd = fd

/-- Each preview buffer, configured once, is queued under at most one token, and not at
all while a completion of it has not given it back. -/
def Exclusive (Q : BufferQueue D) (s : System δ π) : Prop :=
  ∀ d ∈ s.session.driver, ∀ fd, (previewFds s.session.config).count fd = 1 →
    (∀ τ τ', Q.queued d τ fd → Q.queued d τ' fd → τ = τ') ∧
      (Held s fd → ∀ τ, ¬ Q.queued d τ fd)

/-- Stream callbacks give back the lease of their own buffer, or one of no preview
buffer, and requests bring buffers of their own. -/
def OwnBuffers (s : System δ π) : Label → Prop
  | .streamCallback k lease => ∀ handler ∈ s.callbacks[k]?,
      lease.bufferFd = handler.output.target.bufferFd ∨
        lease.bufferFd ∉ previewFds s.session.config
  | .processRequest request => ∀ output ∈ requestOutputsFor request,
      output.bufferFd ∉ previewFds s.session.config
  | _ => True

/-- Streaming starts only after every preview completion has run to its end. -/
def NoneOutstanding (s : System δ π) : Label → Prop
  | .startStreaming => s.session.state = .configured → s.callbacks = [] ∧ s.returning = []
  | _ => True

structure Sole (Q : BufferQueue D) (config : CameraDeviceSessionConfig) (d : δ)
    (s : System δ π) : Prop where
  tracked : Tracked s
  settings : s.session.config = config
  driver : s.session.driver = some d
  sound : Q.sound d
  bound : Bound Q.toFreshTokens s.session.inFlight d
  history : History Q.toFreshTokens d s
  issued : ∀ τ fd, Q.queued d τ fd → τ ∈ Q.issued d
  dequeued : ∀ completion ∈ s.dequeued,
    completion.token ∈ Q.issued d ∧ ∀ fd, ¬ Q.queued d completion.token fd
  backed : ∀ τ fd, Q.queued d τ fd → fd ∈ previewFds config → ∃ f output,
    s.boundFor τ = some { use := .preview f, outputIndex := -1, target := output.target } ∧
      s.session.inFlight.streamingOutputs.lookup f = some output ∧ output.target.bufferFd = fd
  waiting : s.session.state = .created ∨ s.session.state = .configured →
    (∀ τ fd, ¬ Q.queued d τ fd) ∧ s.session.inFlight.streamingOutputs = ∅
  callbacks : ∀ handler ∈ s.callbacks, handler.lease.bufferFd = handler.output.target.bufferFd
  returning : ∀ handler ∈ s.returning, handler.lease.bufferFd = handler.output.target.bufferFd ∨
    handler.lease.bufferFd ∉ previewFds config
  captures : ∀ request, request ∈ s.admitting ∨ request ∈ s.tasks.map Prod.snd →
    ∀ output ∈ requestOutputsFor request, output.bufferFd ∉ previewFds config
  placed : (places s).Subperm config.continuousPreviewBuffers

variable {config : CameraDeviceSessionConfig} {d d' : δ} {s t : System δ π}

theorem Sole.exclusive (S : Sole Q config d s) : Exclusive Q s := by
  intro d₀ driver fd once
  obtain rfl := Option.some.inj (S.driver.symm.trans driver)
  rw [S.settings] at once
  have configured : fd ∈ previewFds config := List.count_pos_iff.mp (by omega)
  have bounded : ((places s).map (·.bufferFd)).count fd ≤ 1 := by
    obtain ⟨all, same, fewer⟩ := S.placed
    rw [← (same.map _).count_eq]
    exact Nat.le_trans ((fewer.map _).count_le fd) (Nat.le_of_eq once)
  have split : ∀ f output, s.session.inFlight.streamingOutputs.lookup f = some output →
      ((places s).map (·.bufferFd)).Perm (output.target.bufferFd ::
        (((values (s.session.inFlight.streamingOutputs.erase f)).map (·.target) ++
          heldTargets s).map (·.bufferFd))) := by
    intro f output row
    have rows := (values_perm_cons_erase row).map fun o : InFlightStreamingOutput => o.target
    exact (rows.append_right (heldTargets s)).map _
  constructor
  · intro τ τ' held held'
    obtain ⟨f, output, bound, row, same⟩ := S.backed τ fd held configured
    obtain ⟨f', output', bound', row', same'⟩ := S.backed τ' fd held' configured
    by_cases frames : f = f'
    · subst frames
      exact S.history.once τ τ' _ _ f bound bound' rfl rfl
    · -- Two rows of one buffer are more than it is configured for.
      have other : (s.session.inFlight.streamingOutputs.erase f).lookup f' = some output' :=
        lookup_erase_eq_some.mpr ⟨fun equal => frames equal.symm, row'⟩
      have second : fd ∈ ((values (s.session.inFlight.streamingOutputs.erase f)).map (·.target) ++
          heldTargets s).map (·.bufferFd) := by
        rw [← same']
        refine List.mem_map_of_mem (List.mem_append_left _ (List.mem_map_of_mem ?_))
        exact mem_values.mpr ⟨f', other⟩
      rw [(split f output row).count_eq, same, List.count_cons_self] at bounded
      have positive := List.count_pos_iff.mpr second
      omega
  · rintro ⟨handler, member, same⟩ τ held
    obtain ⟨f, output, -, row, same'⟩ := S.backed τ fd held configured
    have second : fd ∈ ((values (s.session.inFlight.streamingOutputs.erase f)).map (·.target) ++
        heldTargets s).map (·.bufferFd) := by
      rw [← same]
      refine List.mem_map_of_mem (List.mem_append_right _ ?_)
      exact List.mem_map_of_mem member
    rw [(split f output row).count_eq, same', List.count_cons_self] at bounded
    have positive := List.count_pos_iff.mpr second
    omega

private theorem Sole.keep (S : Sole Q config d s) (T : Tracked t) (follows : Q.Follows d d')
    (enters : ∀ τ fd, Q.queued d' τ fd → Q.queued d τ fd ∨
      (τ ∉ Q.issued d ∧ τ ∈ Q.issued d' ∧ fd ∉ previewFds config))
    (driver : t.session.driver = some d') (settings : t.session.config = s.session.config)
    (rows : t.session.inFlight.streamingOutputs = s.session.inFlight.streamingOutputs)
    (bound : Bound Q.toFreshTokens t.session.inFlight d')
    (history : History Q.toFreshTokens d' t)
    (bindings : ∀ τ ∈ Q.issued d, t.boundFor τ = s.boundFor τ)
    (dequeued : ∀ completion ∈ t.dequeued, completion ∈ s.dequeued ∨
      (completion.token ∈ Q.issued d' ∧ ∀ fd, ¬ Q.queued d' completion.token fd))
    (waiting : t.session.state = .created ∨ t.session.state = .configured →
      (s.session.state = .created ∨ s.session.state = .configured) ∧
        ∀ τ fd, Q.queued d' τ fd → Q.queued d τ fd)
    (callbacks : t.callbacks = s.callbacks) (returning : t.returning = s.returning)
    (captures : ∀ request, request ∈ t.admitting ∨ request ∈ t.tasks.map Prod.snd →
      (request ∈ s.admitting ∨ request ∈ s.tasks.map Prod.snd) ∨
        ∀ output ∈ requestOutputsFor request, output.bufferFd ∉ previewFds config) :
    Sole Q config d' t where
  tracked := T
  settings := settings.trans S.settings
  driver := driver
  sound := follows.sound
  bound := bound
  history := history
  issued := by
    intro τ fd held
    rcases enters τ fd held with before | ⟨-, known, -⟩
    · exact follows.grows (S.issued τ fd before)
    · exact known
  dequeued := by
    intro completion member
    rcases dequeued completion member with before | fresh
    · obtain ⟨known, absent⟩ := S.dequeued completion before
      refine ⟨follows.grows known, fun fd held => ?_⟩
      rcases enters _ fd held with old | ⟨unknown, -, -⟩
      · exact absent fd old
      · exact unknown known
    · exact fresh
  backed := by
    intro τ fd held configured
    rcases enters τ fd held with before | ⟨-, -, other⟩
    · rw [bindings τ (S.issued τ fd before), rows]
      exact S.backed τ fd before configured
    · exact (other configured).elim
  waiting := by
    intro state
    obtain ⟨before, shrinks⟩ := waiting state
    obtain ⟨unqueued, empty⟩ := S.waiting before
    exact ⟨fun τ fd held => unqueued τ fd (shrinks τ fd held), rows.trans empty⟩
  callbacks := by
    rw [callbacks]
    exact S.callbacks
  returning := by
    rw [returning]
    exact S.returning
  captures := by
    intro request member
    rcases captures request member with before | own
    · exact S.captures request before
    · exact own
  placed := by
    have same : places t = places s := by
      simp only [places, rowTargets, heldTargets, rows, callbacks, returning]
    rw [same]
    exact S.placed

private theorem Sole.idle (S : Sole Q config d s) (T : Tracked t) (session : t.session = s.session)
    (boundFor : t.boundFor = s.boundFor) (dequeued : t.dequeued = s.dequeued)
    (callbacks : t.callbacks = s.callbacks) (returning : t.returning = s.returning)
    (captures : ∀ request, request ∈ t.admitting ∨ request ∈ t.tasks.map Prod.snd →
      (request ∈ s.admitting ∨ request ∈ s.tasks.map Prod.snd) ∨
        ∀ output ∈ requestOutputsFor request, output.bufferFd ∉ previewFds config) :
    Sole Q config d t := by
  refine S.keep T ⟨S.sound, fun _ => id⟩ (fun _ _ => Or.inl) (by rw [session]; exact S.driver)
    (by rw [session]) (by rw [session]) ?_ ?_ ?_ ?_ ?_ callbacks returning captures
  · rw [session]
    exact S.bound
  · exact S.history.mono (fun _ => id) boundFor (by rw [session])
  · exact fun τ _ => by rw [boundFor]
  · exact fun completion member => Or.inl (dequeued ▸ member)
  · rw [session]
    exact fun state => ⟨state, fun _ _ => id⟩

private theorem task_captures (S : Sole Q config d s) {k n : Nat} {request : CaptureRequest}
    (at_task : s.tasks[k]? = some (n, request)) :
    ∀ output ∈ requestOutputsFor request, output.bufferFd ∉ previewFds config := by
  refine S.captures request (Or.inr ?_)
  exact List.mem_map.mpr ⟨_, List.mem_of_getElem? at_task, rfl⟩

private theorem submitted_queue (S : Sole Q config d s) {k n : Nat} {request : CaptureRequest}
    (at_task : s.tasks[k]? = some (n, request)) {d₁ : δ} {t t' : Tracker} {ok : Bool}
    (answer : D.canSubmitCaptureOutputs (requestOutputsFor request) d = (true, d₁))
    (run : submitOutputs D request.frameNumber (requestPairs request) d₁ t = (ok, d', t')) :
    Q.Follows d d' ∧ ∀ τ fd, Q.queued d' τ fd → Q.queued d τ fd ∨
      (τ ∉ Q.issued d ∧ τ ∈ Q.issued d' ∧ fd ∉ previewFds config) := by
  have step := (Q.preflights (requestOutputsFor request) d S.sound).toFollows
  have queue := Q.preflightQueue (requestOutputsFor request) d
  rw [answer] at step queue
  obtain ⟨later, enters⟩ := submitOutputs_queue Q step.sound run
  refine ⟨⟨later.sound, fun _ known => later.grows (step.grows known)⟩, fun τ fd held => ?_⟩
  rcases enters τ fd held with before | ⟨fresh, known, member⟩
  · exact Or.inl (queue τ fd S.sound before)
  · refine Or.inr ⟨fun old => fresh (step.grows old), known, ?_⟩
    obtain ⟨pair, inside, rfl⟩ := List.mem_map.mp member
    refine task_captures S at_task pair.1 ?_
    rw [← requestPairs_outputs]
    exact List.mem_map_of_mem inside

private theorem fewer_captures (config : CameraDeviceSessionConfig) (s : System δ π) (k : Nat) :
    ∀ request, request ∈ s.admitting ∨ request ∈ (s.tasks.eraseIdx k).map Prod.snd →
      (request ∈ s.admitting ∨ request ∈ s.tasks.map Prod.snd) ∨
        ∀ output ∈ requestOutputsFor request, output.bufferFd ∉ previewFds config := by
  rintro request (waiting | member)
  · exact Or.inl (Or.inl waiting)
  · obtain ⟨task, inside, rfl⟩ := List.mem_map.mp member
    exact Or.inl (Or.inr (List.mem_map_of_mem (List.mem_of_mem_eraseIdx inside)))

private theorem active_not_waiting {state : CameraSessionState} {P : Prop}
    (streaming : state = .streaming) : state = .created ∨ state = .configured → P := by
  subst streaming
  rintro (created | configured)
  · cases created
  · cases configured

private theorem runTask_sole (S : Sole Q config d s) {k : Nat} {now : Int} (T : Tracked t)
    (taken : runTaskStep D k now s = some t) : ∃ d', Sole Q config d' t := by
  obtain ⟨n, request, at_task, ⟨result, session, outcome, rfl⟩ | ⟨session, outcome, rfl⟩⟩ :=
    runTaskStep_outcome D taken
  · -- A failure exit lets go of tokens and of no row.
    have dropped : ∀ d', Q.Follows d d' →
        Bound Q.toFreshTokens (dropFrame s.session.inFlight request.frameNumber) d' := by
      intro d' follows τ member
      obtain ⟨c, found⟩ := Option.isSome_iff_exists.mp (AList.lookup_isSome.mpr member)
      exact follows.grows (S.bound τ (mem_of_lookup (lookup_dropFrame_tokens.mp found).1))
    cases outcome with
    | rejected closed =>
      refine ⟨d, S.keep T ⟨S.sound, fun _ => id⟩ (fun _ _ => Or.inl) S.driver rfl rfl S.bound
        (S.history.mono (fun _ => id) rfl le_rfl) (fun _ _ => rfl) (fun _ => Or.inl)
        (fun state => ⟨state, fun _ _ => id⟩) rfl rfl (fewer_captures config s k)⟩
    | @refused d₀ d' driver streaming answer message =>
      obtain rfl := Option.some.inj (S.driver.symm.trans driver)
      have step := (Q.preflights (requestOutputsFor request) d S.sound).toFollows
      have queue := Q.preflightQueue (requestOutputsFor request) d
      rw [answer] at step queue
      exact ⟨d', S.keep T step (fun τ fd held => Or.inl (queue τ fd S.sound held)) rfl rfl rfl
        (dropped d' step) (S.history.mono step.grows rfl le_rfl) (fun _ _ => rfl) (fun _ => Or.inl)
        (active_not_waiting streaming) rfl rfl (fewer_captures config s k)⟩
    | @duplicate d₀ d' row driver streaming answer live =>
      obtain rfl := Option.some.inj (S.driver.symm.trans driver)
      have step := (Q.preflights (requestOutputsFor request) d S.sound).toFollows
      have queue := Q.preflightQueue (requestOutputsFor request) d
      rw [answer] at step queue
      exact ⟨d', S.keep T step (fun τ fd held => Or.inl (queue τ fd S.sound held)) rfl rfl rfl
        (dropped d' step) (S.history.mono step.grows rfl le_rfl) (fun _ _ => rfl) (fun _ => Or.inl)
        (active_not_waiting streaming) rfl rfl (fewer_captures config s k)⟩
    | @failed d₀ d₁ d' t₁ t' driver streaming answer absent before stopped =>
      obtain rfl := Option.some.inj (S.driver.symm.trans driver)
      obtain ⟨step, enters⟩ := submitted_queue S at_task answer stopped
      exact ⟨d', S.keep T step enters rfl rfl rfl (dropped d' step)
        (S.history.mono step.grows rfl le_rfl) (fun _ _ => rfl) (fun _ => Or.inl)
        (active_not_waiting streaming) rfl rfl (fewer_captures config s k)⟩
  · cases outcome with
    | @submitted d₀ d₁ d' t₁ t' t'' tokens driver streaming answer before finished after bound =>
      obtain rfl := Option.some.inj (S.driver.symm.trans driver)
      obtain ⟨step, enters⟩ := submitted_queue S at_task answer finished
      have first := (Q.preflights (requestOutputsFor request) d S.sound).toFollows
      rw [answer] at first
      obtain ⟨-, issued, news, -⟩ := submitOutputs_issues Q.toFreshTokens first.sound
        (fun τ member => first.grows (S.bound τ (before ▸ member))) finished
      have tokens : Bound Q.toFreshTokens t'' d' := fun τ member => issued τ (after ▸ member)
      refine ⟨d', S.keep T step enters rfl rfl bound.streams tokens ?_ (fun τ known => ?_)
        (fun _ => Or.inl) (active_not_waiting streaming) rfl rfl (fewer_captures config s k)⟩
      · refine S.history.record T step.grows (fun _ => .capture n) rfl tokens le_rfl ?_
        intro τ c found fresh f preview
        cases preview
      · refine recorded_known (fun τ member => ?_) known
        rcases news τ (after ▸ member) with old | unknown
        · exact Or.inl (before ▸ old)
        · exact Or.inr fun old => unknown (first.grows old)

private theorem process_sole (S : Sole Q config d s)
    {processors : List (Option (OutputProcessor π))} {k : Nat} {now : Int} (T : Tracked t)
    (taken : processStep processors k now s = some t) : Sole Q config d t := by
  obtain ⟨completion, filled, p, session, at_completion, outcome, rfl⟩ :=
    processStep_outcome S.tracked.consistent taken
  obtain ⟨-, absent⟩ := S.dequeued completion (List.mem_of_getElem? at_completion)
  have rest : ∀ c ∈ s.dequeued.eraseIdx k, c ∈ s.dequeued := fun _ => List.mem_of_mem_eraseIdx
  have erased : ∀ τ, τ ∈ s.session.inFlight.driverOutputs.erase completion.token → τ ∈ Q.issued d :=
    fun τ member => S.bound τ (AList.mem_erase.mp member).2
  have same : History Q.toFreshTokens d s := S.history
  cases outcome with
  | unknown unbound =>
    exact S.keep T ⟨S.sound, fun _ => id⟩ (fun _ _ => Or.inl) S.driver rfl rfl S.bound
      (same.mono (fun _ => id) rfl le_rfl) (fun _ _ => rfl) (fun c member => Or.inl (rest c member))
      (fun state => ⟨state, fun _ _ => id⟩) rfl rfl fun _ => Or.inl
  | @waiting c row output fence _ bound live member index unfinished processed pending =>
    exact S.keep T ⟨S.sound, fun _ => id⟩ (fun _ _ => Or.inl) S.driver rfl rfl erased
      (same.mono (fun _ => id) rfl le_rfl) (fun _ _ => rfl) (fun c member => Or.inl (rest c member))
      (fun state => ⟨state, fun _ _ => id⟩) rfl rfl fun _ => Or.inl
  | @complete c row output fence _ bound live member index unfinished processed finished =>
    exact S.keep T ⟨S.sound, fun _ => id⟩ (fun _ _ => Or.inl) S.driver rfl rfl erased
      (same.mono (fun _ => id) rfl le_rfl) (fun _ _ => rfl) (fun c member => Or.inl (rest c member))
      (fun state => ⟨state, fun _ _ => id⟩) rfl rfl fun _ => Or.inl
  | @preview c output fence _ bound negative row processed =>
    have own := S.tracked.bound_stream bound negative row
    refine ⟨T, S.settings, S.driver, S.sound, erased, same.mono (fun _ => id) rfl le_rfl, S.issued,
      fun c member => S.dequeued c (rest c member), fun τ fd held configured => ?_,
      fun state => ?_, fun handler member => ?_, S.returning, S.captures, ?_⟩
    · obtain ⟨f, found, at_τ, at_f, buffer⟩ := S.backed τ fd held configured
      refine ⟨f, found, at_τ, lookup_erase_eq_some.mpr ⟨?_, at_f⟩, buffer⟩
      rintro rfl
      have token := S.history.once τ completion.token _ _ c.frameNumber at_τ own rfl rfl
      exact absent fd (token ▸ held)
    · have empty := (S.waiting state).2
      rw [empty] at row
      cases row
    · rcases List.mem_append.mp member with before | here
      · exact S.callbacks handler before
      · obtain rfl := List.mem_singleton.mp here
        rfl
    · exact (completed_places row rfl).subperm.trans S.placed

private theorem callback_sole (S : Sole Q config d s) {callbacks : Callbacks} {k : Nat}
    {lease : StreamBufferLease} (T : Tracked t) (own : OwnBuffers s (.streamCallback k lease))
    (taken : streamCallbackStep callbacks k lease s = some t) : Sole Q config d t := by
  have moved := calledBack_places taken
  simp only [streamCallbackStep] at taken
  split at taken
  · cases taken
  rename_i handler at_handler
  cases taken
  refine ⟨T, S.settings, S.driver, S.sound, S.bound, S.history.mono (fun _ => id) rfl le_rfl,
    S.issued, S.dequeued, S.backed, S.waiting,
    fun h member => S.callbacks h (List.mem_of_mem_eraseIdx member), fun h member => ?_,
    S.captures, moved.subperm.trans S.placed⟩
  · rcases List.mem_append.mp member with before | here
    · exact S.returning h before
    · obtain rfl := List.mem_singleton.mp here
      split
      · rw [← S.settings]
        exact own handler at_handler
      · exact Or.inl (S.callbacks handler (List.mem_of_getElem? at_handler))

private theorem emptied_sole (S : Sole Q config d s) (T : Tracked t) (follows : Q.Follows d d')
    (stopped : ∀ τ fd, ¬ Q.queued d' τ fd) (driver : t.session.driver = some d')
    (settings : t.session.config = s.session.config) (tables : t.session.inFlight = Tracker.empty)
    (next : t.session.nextStreamingFrameNumber = s.session.nextStreamingFrameNumber)
    (boundFor : t.boundFor = s.boundFor) (dequeued : t.dequeued = s.dequeued)
    (callbacks : t.callbacks = s.callbacks) (returning : t.returning = s.returning)
    (admitting : t.admitting = s.admitting) (tasks : t.tasks = s.tasks) :
    Sole Q config d' t where
  tracked := T
  settings := settings.trans S.settings
  driver := driver
  sound := follows.sound
  bound := by
    intro τ member
    rw [tables] at member
    cases member
  history := S.history.mono follows.grows boundFor (Nat.le_of_eq next.symm)
  issued := fun τ fd held => (stopped τ fd held).elim
  dequeued := by
    intro completion member
    rw [dequeued] at member
    exact ⟨follows.grows (S.dequeued completion member).1, fun fd => stopped _ fd⟩
  backed := fun τ fd held => (stopped τ fd held).elim
  waiting := fun _ => ⟨stopped, by rw [tables]; rfl⟩
  callbacks := by
    rw [callbacks]
    exact S.callbacks
  returning := by
    rw [returning]
    exact S.returning
  captures := by
    rw [admitting, tasks]
    exact S.captures
  placed := by
    refine List.Subperm.trans ?_ S.placed
    have rows : rowTargets t.session.inFlight = [] := by
      rw [tables]
      rfl
    have held : heldTargets t = heldTargets s := by
      simp only [heldTargets, callbacks, returning]
    simp only [places, rows, held, List.nil_append]
    exact (List.sublist_append_right _ _).subperm

private theorem bound_sole (S : Sole Q config d s) (T : Tracked t) (follows : Q.Follows d d')
    (pairs : List (DriverToken × InFlightStreamingOutput)) (state : CameraSessionState)
    (metrics : FrameMetrics) (tokens : (pairs.map Prod.fst).Nodup)
    (usable : ∀ τ ∈ pairs.map Prod.fst, τ ≠ 0 ∧ τ ∉ Q.issued d ∧ τ ∈ Q.issued d')
    (frames : pairs.map (fun pair => pair.2.frameNumber) =
      List.range' s.session.nextStreamingFrameNumber pairs.length)
    (enters : ∀ τ fd, Q.queued d' τ fd → Q.queued d τ fd ∨ ∃ output, (τ, output) ∈ pairs ∧
      (fd ∈ previewFds config → output.target.bufferFd = fd))
    (session : t.session = { s.session with
      driver := some d'
      state := state
      metrics := metrics
      nextStreamingFrameNumber := s.session.nextStreamingFrameNumber + pairs.length
      inFlight := (bindStreamingOutputs pairs s.session.inFlight).2 })
    (running : ¬ (state = .created ∨ state = .configured))
    (recorded : t.boundFor = recordBindings s.session.inFlight t.session.inFlight previewUse
      s.boundFor)
    (dequeued : t.dequeued = s.dequeued) (callbacks : t.callbacks = s.callbacks)
    (returning : ∀ handler ∈ t.returning, handler ∈ s.returning)
    (admitting : t.admitting = s.admitting) (tasks : t.tasks = s.tasks)
    (placed : (pairs.map (fun pair => pair.2.target) ++ rowTargets s.session.inFlight ++
      heldTargets t).Subperm config.continuousPreviewBuffers) :
    Sole Q config d' t := by
  have tables : t.session.inFlight = (bindStreamingOutputs pairs s.session.inFlight).2 := by
    rw [session]
  have whole : (bindStreamingOutputs pairs s.session.inFlight).1 = true := by
    refine bindStreamingOutputs_succeeds pairs s.session.inFlight tokens ?_ ?_ ?_
    · exact fun τ member => ⟨(usable τ member).1, fun old =>
        (usable τ member).2.1 (S.bound τ old)⟩
    · rw [frames]
      exact List.nodup_range'
    · intro f member old
      rw [frames, List.mem_range'_1] at member
      obtain ⟨row, found⟩ := Option.isSome_iff_exists.mp (AList.lookup_isSome.mpr old)
      exact Nat.not_lt.mpr member.1 (S.tracked.consistent.fresh _ _ found).2
  have binds := bindStreamingOutputs_binds pairs (Prod.ext whole rfl)
  obtain ⟨-, keptRows, -, news⟩ := bindStreamingOutputs_adds pairs s.session.inFlight
  have origin : ∀ τ ∈ t.session.inFlight.driverOutputs,
      τ ∈ s.session.inFlight.driverOutputs ∨ τ ∈ pairs.map Prod.fst := by
    intro τ member
    rw [tables] at member
    obtain ⟨c, found⟩ := Option.isSome_iff_exists.mp (AList.lookup_isSome.mpr member)
    rcases news τ c found with before | ⟨-, -, output, listed, -, -⟩
    · exact Or.inl (mem_of_lookup before)
    · exact Or.inr (List.mem_map_of_mem listed)
  have bound : Bound Q.toFreshTokens t.session.inFlight d' := by
    intro τ member
    rcases origin τ member with old | new
    · exact follows.grows (S.bound τ old)
    · exact (usable τ new).2.2
  have bindings : ∀ τ ∈ Q.issued d, t.boundFor τ = s.boundFor τ := by
    intro τ known
    rw [recorded]
    refine recorded_known (fun τ member => ?_) known
    rcases origin τ member with old | new
    · exact Or.inl old
    · exact Or.inr (usable τ new).2.1
  refine ⟨T, by rw [session]; exact S.settings, by rw [session], follows.sound, bound, ?_, ?_, ?_,
    ?_, ?_, by rw [callbacks]; exact S.callbacks,
    fun h member => S.returning h (returning h member),
    by rw [admitting, tasks]; exact S.captures, ?_⟩
  · refine S.history.record T follows.grows previewUse recorded bound (by rw [session]; simp) ?_
    intro τ c found fresh f preview
    rw [tables] at found
    rcases news τ c found with before | ⟨-, -, output, listed, rfl, -⟩
    · exact (fresh (mem_of_lookup before)).elim
    · cases preview
      have member : output.frameNumber ∈ pairs.map fun pair => pair.2.frameNumber :=
        List.mem_map.mpr ⟨_, listed, rfl⟩
      rw [frames, List.mem_range'_1] at member
      refine ⟨by simp, rfl, member.1, ?_⟩
      rw [session]
      exact member.2
  · intro τ fd held
    rcases enters τ fd held with before | ⟨output, listed, -⟩
    · exact follows.grows (S.issued τ fd before)
    · exact (usable τ (List.mem_map_of_mem listed)).2.2
  · intro completion member
    rw [dequeued] at member
    obtain ⟨known, absent⟩ := S.dequeued completion member
    refine ⟨follows.grows known, fun fd held => ?_⟩
    rcases enters _ fd held with before | ⟨output, listed, -⟩
    · exact absent fd before
    · exact (usable _ (List.mem_map_of_mem listed)).2.1 known
  · intro τ fd held configured
    rcases enters τ fd held with before | ⟨output, listed, buffer⟩
    · obtain ⟨f, output, at_τ, at_f, buffer⟩ := S.backed τ fd before configured
      refine ⟨f, output, ?_, ?_, buffer⟩
      · rw [bindings τ (S.issued τ fd before)]
        exact at_τ
      · rw [tables]
        exact keptRows f output at_f
    · obtain ⟨at_τ, row⟩ := binds τ output listed
      have fresh : τ ∉ s.session.inFlight.driverOutputs := fun old =>
        (usable τ (List.mem_map_of_mem listed)).2.1 (S.bound τ old)
      refine ⟨output.frameNumber, output, ?_, ?_, buffer configured⟩
      · rw [recorded, tables]
        simp [recordBindings, at_τ, fresh, bindingOf, row, previewUse]
      · rw [tables]
        exact row
  · intro waiting
    rw [session] at waiting
    exact (running waiting).elim
  · obtain ⟨all, -, rows, every⟩ := bindStreamingOutputs_places pairs s.session.inFlight
    rw [every whole, ← tables] at rows
    exact List.Subperm.trans (rows.append_right _).subperm placed

private theorem return_sole (S : Sole Q config d s) {k : Nat} (T : Tracked t)
    (taken : returnStep D k s = some t) : ∃ d', Sole Q config d' t := by
  simp only [returnStep] at taken
  split at taken
  · cases taken
  rename_i handler at_handler
  cases taken
  have member := List.mem_of_getElem? at_handler
  -- Without an answer from the driver the buffer is in no place any more.
  have gone : ∀ d' session, Q.Follows d d' → (∀ τ fd, Q.queued d' τ fd → Q.queued d τ fd) →
      session.driver = some d' → session.config = s.session.config →
      session.inFlight = s.session.inFlight → session.state = s.session.state →
      session.nextStreamingFrameNumber = s.session.nextStreamingFrameNumber →
      Tracked { s with returning := s.returning.eraseIdx k, session := session } →
      Sole Q config d' { s with returning := s.returning.eraseIdx k, session := session } := by
    intro d' session follows shrinks driver settings tables state next T
    refine ⟨T, settings.trans S.settings, driver, follows.sound, ?_,
      S.history.mono follows.grows rfl (Nat.le_of_eq next.symm), ?_, ?_, ?_, ?_, S.callbacks, ?_,
      S.captures, ?_⟩
    · rw [tables]
      exact fun τ inside => follows.grows (S.bound τ inside)
    · exact fun τ fd held => follows.grows (S.issued τ fd (shrinks τ fd held))
    · intro completion inside
      obtain ⟨known, absent⟩ := S.dequeued completion inside
      exact ⟨follows.grows known, fun fd held => absent fd (shrinks _ fd held)⟩
    · rw [tables]
      exact fun τ fd held => S.backed τ fd (shrinks τ fd held)
    · rw [tables, state]
      intro waiting
      obtain ⟨unqueued, empty⟩ := S.waiting waiting
      exact ⟨fun τ fd held => unqueued τ fd (shrinks τ fd held), empty⟩
    · exact fun h inside => S.returning h (List.mem_of_mem_eraseIdx inside)
    · refine List.Subperm.trans ?_ S.placed
      simp only [places, heldTargets, tables, List.map_append]
      refine (List.Sublist.append_left (List.Sublist.append_left ?_ _) _).subperm
      exact (List.eraseIdx_sublist _ _).map _
  rcases returnStreamBuffer_cases D handler.lease handler.output s.session with
    same | ⟨d₀, d', metrics, driver, streaming, ⟨refused, same⟩ | ⟨token, returned, same⟩⟩
  · simp only [same, recordBindings_self] at T ⊢
    exact ⟨d, gone d _ ⟨S.sound, fun _ => id⟩ (fun _ _ => id) S.driver rfl rfl rfl rfl T⟩
  · obtain rfl := Option.some.inj (S.driver.symm.trans driver)
    have step := (Q.returns handler.lease d S.sound).toFollows
    have queue := Q.returnQueue handler.lease d
    rw [refused] at step queue
    simp only [same, recordBindings_self] at T ⊢
    refine ⟨d', gone d' _ step (fun τ fd held => ?_) rfl rfl rfl rfl rfl T⟩
    rcases queue τ fd S.sound held with before | ⟨given, -⟩
    · exact before
    · cases given
  · obtain rfl := Option.some.inj (S.driver.symm.trans driver)
    have step := Q.returns handler.lease d S.sound
    have queue := Q.returnQueue handler.lease d
    rw [returned] at step queue
    refine ⟨d', bound_sole S T step.toFollows
      [(token, { handler.output with frameNumber := s.session.nextStreamingFrameNumber })]
      s.session.state metrics ?_ ?_ ?_ ?_ ?_ ?_ rfl rfl rfl ?_ rfl rfl ?_⟩
    · simp
    · intro τ inside
      simp only [List.map_cons, List.map_nil, List.mem_singleton] at inside
      subst inside
      exact step.usable τ (by simp)
    · rfl
    · intro τ fd held
      rcases queue τ fd S.sound held with before | ⟨given, rfl⟩
      · exact Or.inl before
      · cases given
        refine Or.inr ⟨_, List.mem_singleton_self _, fun configured => ?_⟩
        rcases S.returning handler member with own | other
        · exact own.symm
        · exact (other configured).elim
    · exact same
    · rw [streaming]
      simp
    · exact fun h inside => List.mem_of_mem_eraseIdx inside
    · exact (returned_places at_handler).subperm.trans S.placed

private theorem start_sole (S : Sole Q config d s) (T : Tracked (startStep D s))
    (none_out : NoneOutstanding s .startStreaming) : ∃ d', Sole Q config d' (startStep D s) := by
  have outcome := startStreaming_outcome D s.session
  generalize begun : (startStreaming D s.session).2 = session at outcome
  -- Before the preview buffers are offered the queue is empty, and stays so.
  have idle : ∀ d' state next, s.session.state = .configured → Q.Follows d d' →
      (∀ τ fd, Q.queued d' τ fd → Q.queued d τ fd) → s.session.nextStreamingFrameNumber ≤ next →
      (startStreaming D s.session).2 = { s.session with
        driver := some d', state := state, nextStreamingFrameNumber := next } →
      ∃ d', Sole Q config d' (startStep D s) := by
    intro d' state next configured follows shrinks grows same
    refine ⟨d', ?_⟩
    simp only [startStep, same, recordBindings_self] at T ⊢
    exact S.keep T follows (fun τ fd held => Or.inl (shrinks τ fd held)) rfl rfl rfl
      (fun τ member => follows.grows (S.bound τ member)) (S.history.mono follows.grows rfl grows)
      (fun _ _ => rfl) (fun _ => Or.inl) (fun _ => ⟨Or.inr configured, shrinks⟩) rfl rfl
      fun _ => Or.inl
  have starting : ∀ {d₀ d₁ ok}, s.session.driver = some d₀ → D.startStreaming d₀ = (ok, d₁) →
      Q.Follows d d₁ ∧ ∀ τ fd, Q.queued d₁ τ fd → Q.queued d τ fd := by
    intro d₀ d₁ ok driver answer
    obtain rfl := Option.some.inj (S.driver.symm.trans driver)
    have step := Q.starts d S.sound
    have queue := fun τ fd => Q.startQueue d τ fd S.sound
    rw [answer] at step queue
    exact ⟨step, queue⟩
  cases outcome with
  | ignored unready =>
    refine ⟨d, ?_⟩
    simp only [startStep, begun, recordBindings_self] at T ⊢
    exact S.idle T rfl rfl rfl rfl rfl fun _ => Or.inl
  | @failed d₀ d₁ driver configured answer =>
    obtain ⟨step, queue⟩ := starting driver answer
    exact idle d₁ _ _ configured step queue le_rfl begun
  | @plain d₀ d₁ driver configured answer absent =>
    obtain ⟨step, queue⟩ := starting driver answer
    exact idle d₁ _ _ configured step queue le_rfl begun
  | @unsupplied d₀ d₁ stream driver configured answer present empty =>
    obtain ⟨step, queue⟩ := starting driver answer
    exact idle d₁ _ _ configured step queue le_rfl begun
  | @refused d₀ d₁ d₂ stream given driver configured answer present offered short =>
    obtain ⟨step, queue⟩ := starting driver answer
    have later :=
      (Q.streams stream s.session.config.continuousPreviewBuffers d₁ step.sound).toFollows
    have more := fun τ fd => Q.streamQueue stream s.session.config.continuousPreviewBuffers d₁ τ fd
      step.sound
    have length := fun tokens => Q.streamLength stream s.session.config.continuousPreviewBuffers d₁
      tokens step.sound
    rw [offered] at later more length
    refine idle d₂ _ _ configured ⟨later.sound, fun _ known => later.grows (step.grows known)⟩
      (fun τ fd held => ?_) (Nat.le_add_right _ _) begun
    rcases more τ fd held with before | ⟨tokens, buffer, same, -⟩
    · exact queue τ fd before
    · exact (short tokens same (length tokens same)).elim
  | @bound d₀ d₁ d₂ stream tokens ok tracker driver configured answer present supplied offered
      length registered =>
    obtain ⟨step, queue⟩ := starting driver answer
    obtain ⟨callbacks, returning⟩ := none_out configured
    obtain ⟨unqueued, empty⟩ := S.waiting (Or.inr configured)
    have later := Q.streams stream s.session.config.continuousPreviewBuffers d₁ step.sound
    have more := fun τ fd => Q.streamQueue stream s.session.config.continuousPreviewBuffers d₁ τ fd
      step.sound
    rw [offered] at later more
    have firsts : (tokens.zip (streamingOutputsFrom s.session.nextStreamingFrameNumber
        s.session.config.continuousPreviewBuffers)).map Prod.fst = tokens :=
      List.map_fst_zip (by simp [streamingOutputsFrom, length])
    have lengths : (tokens.zip (streamingOutputsFrom s.session.nextStreamingFrameNumber
        s.session.config.continuousPreviewBuffers)).length =
          s.session.config.continuousPreviewBuffers.length := by
      simp [streamingOutputsFrom, length]
    refine ⟨d₂, bound_sole S T ⟨later.sound, fun _ known => later.grows (step.grows known)⟩
      (tokens.zip (streamingOutputsFrom s.session.nextStreamingFrameNumber
        s.session.config.continuousPreviewBuffers)) (if ok then .streaming else .error)
      s.session.metrics ?_ ?_ ?_ ?_ ?_ ?_ rfl rfl rfl (fun _ => id) rfl rfl ?_⟩
    · rw [firsts]
      exact later.apart
    · rw [firsts]
      intro τ member
      obtain ⟨nonzero, fresh, known⟩ := later.usable τ member
      exact ⟨nonzero, fun old => fresh (step.grows old), known⟩
    · rw [lengths, ← streamingOutputsFrom_frames]
      have second : (fun pair : DriverToken × InFlightStreamingOutput => pair.2.frameNumber) =
          (fun output : InFlightStreamingOutput => output.frameNumber) ∘ Prod.snd := rfl
      rw [second, ← List.map_map, List.map_snd_zip (by simp [streamingOutputsFrom, length])]
    · intro τ fd held
      rcases more τ fd held with before | ⟨tokens', buffer, same, member, own⟩
      · exact (unqueued τ fd (queue τ fd before)).elim
      · cases same
        obtain ⟨i, at_i⟩ := List.getElem?_of_mem member
        obtain ⟨at_token, at_buffer⟩ := List.getElem?_zip_eq_some.mp at_i
        refine Or.inr ⟨{ frameNumber := s.session.nextStreamingFrameNumber + i
                         target := buffer
                         streamType := buffer.streamType }, ?_, fun _ => own⟩
        refine List.mem_of_getElem? (i := i) (List.getElem?_zip_eq_some.mpr ⟨at_token, ?_⟩)
        simp [streamingOutputsFrom, List.getElem?_zipIdx, at_buffer]
    · rw [lengths]
      simp only [startStep, begun, registered]
    · cases ok <;> simp
    · rw [submitted_targets _ length]
      have rows : rowTargets s.session.inFlight = [] := by
        simp [rowTargets, values, empty]
      have held : heldTargets (startStep D s) = [] := by
        simp [heldTargets, startStep, callbacks, returning]
      rw [rows, held, List.append_nil, List.append_nil, S.settings]

private theorem step_sole {processors : List (Option (OutputProcessor π))} {callbacks : Callbacks}
    {a : Label} (S : Sole Q config d s) (own : OwnBuffers s a) (none_out : NoneOutstanding s a)
    (taken : step D processors callbacks s a = some t) : ∃ d', Sole Q config d' t := by
  have T := step_tracked D processors callbacks S.tracked taken
  cases a with
  | configureStreams registered =>
    cases taken
    rcases configureStreams_cases D registered s.session with
      same | ⟨d₀, d', fds, state, driver, created, rfl, became, same⟩
    · simp only [same] at T ⊢
      exact ⟨d, S.idle T rfl rfl rfl rfl rfl fun _ => Or.inl⟩
    · obtain rfl := Option.some.inj (S.driver.symm.trans driver)
      have step := Q.configures d S.sound
      have queue := fun τ fd => Q.configureQueue d τ fd S.sound
      simp only [same] at T ⊢
      exact ⟨_, S.keep T step (fun τ fd held => Or.inl (queue τ fd held)) rfl rfl rfl
        (fun τ member => step.grows (S.bound τ member)) (S.history.mono step.grows rfl le_rfl)
        (fun _ _ => rfl) (fun _ => Or.inl) (fun _ => ⟨Or.inl created, queue⟩) rfl rfl
        fun _ => Or.inl⟩
  | startStreaming =>
    cases taken
    exact start_sole S T none_out
  | processRequest request =>
    simp only [step] at taken
    split at taken <;> cases taken
    refine ⟨d, S.idle T rfl rfl rfl rfl rfl fun r member => ?_⟩
    rcases member with waiting | queued
    · rcases List.mem_append.mp waiting with before | here
      · exact Or.inl (Or.inl before)
      · obtain rfl := List.mem_singleton.mp here
        have others : ∀ output ∈ requestOutputsFor r,
            output.bufferFd ∉ previewFds s.session.config := own
        rw [S.settings] at others
        exact Or.inr others
    · exact Or.inl (Or.inr queued)
  | post k accepted =>
    rcases postStep_outcome taken with ⟨-, rfl⟩ | ⟨request, at_request, -, rfl⟩
    · refine ⟨d, S.idle T rfl rfl rfl rfl rfl fun r inside => Or.inl ?_⟩
      rcases inside with waiting | queued
      · exact Or.inl (List.mem_of_mem_eraseIdx waiting)
      · exact Or.inr queued
    · have member := List.mem_of_getElem? at_request
      refine ⟨d, S.idle T rfl rfl rfl rfl rfl fun r inside => Or.inl ?_⟩
      rcases inside with waiting | queued
      · exact Or.inl (List.mem_of_mem_eraseIdx waiting)
      · rw [List.map_append] at queued
        rcases List.mem_append.mp queued with before | here
        · exact Or.inr before
        · obtain rfl := List.mem_singleton.mp here
          exact Or.inl member
  | runTask k now => exact runTask_sole S T taken
  | dequeue readyFd =>
    cases taken
    rcases dequeueCompletion_cases D readyFd s.session with same | ⟨d₀, driver, streaming, same⟩
    · simp only [dequeueStep, same, Option.toList_none, List.append_nil] at T ⊢
      exact ⟨d, S.idle T rfl rfl rfl rfl rfl fun _ => Or.inl⟩
    · obtain rfl := Option.some.inj (S.driver.symm.trans driver)
      have step := (Q.dequeues readyFd d S.sound).toFollows
      have queue := fun τ fd => Q.dequeueQueue readyFd d τ fd S.sound
      simp only [dequeueStep, same] at T ⊢
      refine ⟨_, S.keep T step (fun τ fd held => Or.inl (queue τ fd held).1) rfl rfl rfl
        (fun τ member => step.grows (S.bound τ member)) (S.history.mono step.grows rfl le_rfl)
        (fun _ _ => rfl) (fun completion member => ?_) (active_not_waiting streaming) rfl rfl
        fun _ => Or.inl⟩
      rcases List.mem_append.mp member with before | here
      · exact Or.inl before
      · have answer := Option.mem_toList.mp here
        refine Or.inr ⟨step.grows (Q.dequeueKnown readyFd d completion S.sound answer), ?_⟩
        exact fun fd held => (queue _ fd held).2 completion answer rfl
  | process k now => exact ⟨d, process_sole S T taken⟩
  | dispatch k =>
    simp only [step, dispatchStep] at taken
    split at taken <;> cases taken
    exact ⟨d, S.idle T rfl rfl rfl rfl rfl fun _ => Or.inl⟩
  | streamCallback k lease => exact ⟨d, callback_sole S T own taken⟩
  | returnStream k => exact return_sole S T taken
  | flush now =>
    cases taken
    by_cases active : s.session.state = .streaming ∨ s.session.state = .configured
    · rw [flush_active D now active] at T ⊢
      refine ⟨_, emptied_sole S T (Q.stops d S.sound) (fun τ fd => Q.stopQueue d τ fd S.sound) ?_
        rfl rfl rfl rfl rfl rfl rfl rfl rfl⟩
      simp [withResults, S.driver]
    · rw [flush_inactive D now active] at T ⊢
      exact ⟨d, S.idle T rfl rfl rfl rfl rfl fun _ => Or.inl⟩
  | close now =>
    cases taken
    by_cases stopped : s.session.state = .stopped
    · rw [close_stopped D now stopped] at T ⊢
      exact ⟨d, S.idle T rfl rfl rfl rfl rfl fun _ => Or.inl⟩
    · rw [close_open D now stopped] at T ⊢
      have first := Q.stops d S.sound
      have second := Q.closes _ first.sound
      refine ⟨_, emptied_sole S T ⟨second.sound, fun _ known => second.grows (first.grows known)⟩
        (fun τ fd held => ?_) ?_ rfl rfl rfl rfl rfl rfl rfl rfl rfl⟩
      · exact Q.stopQueue d τ fd S.sound (Q.closeQueue _ τ fd first.sound held)
      · simp [withResults, S.driver]

/-- In every run in which streaming is started only when no preview completion is
outstanding, each configured preview buffer has one owner at every moment. -/
theorem preview_ownership_exclusive (D : DriverAdapter δ) (Q : BufferQueue D)
    (processors : List (Option (OutputProcessor π))) (callbacks : Callbacks)
    (config : CameraDeviceSessionConfig) (d : δ) (p : π) (sound : Q.sound d)
    (empty : ∀ τ fd, ¬ Q.queued d τ fd) (s : System δ π)
    (run : Reaches (step D processors callbacks)
      (fun s a => OwnBuffers s a ∧ NoneOutstanding s a) (System.initial config (some d) p) s) :
    Exclusive Q s := by
  obtain ⟨d', S⟩ : ∃ d', Sole Q config d' s := by
    refine run.invariant (fun s => ∃ d', Sole Q config d' s) ?_ ⟨d, ?_⟩
    · rintro s a t ⟨d', S⟩ ⟨own, none_out⟩ taken
      exact step_sole S own none_out taken
    · refine ⟨initial_tracked config (some d) p, rfl, rfl, sound, fun τ member => ?_, ?_,
        fun τ fd held => (empty τ fd held).elim, fun _ member => ?_,
        fun τ fd held => (empty τ fd held).elim, fun _ => ⟨empty, rfl⟩, fun _ member => ?_,
        fun _ member => ?_, fun request member => ?_, List.nil_subperm⟩
      · cases member
      · refine ⟨fun τ b found => ?_, fun τ τ' b b' f found => ?_, fun τ b f found => ?_⟩ <;>
          cases found
      · cases member
      · cases member
      · cases member
      · rcases member with waiting | queued
        · cases waiting
        · cases queued
  exact S.exclusive

end Ownership

section Runs

instance ownBuffersDecidable (s : System δ π) (a : Label) : Decidable (OwnBuffers s a) :=
  match a with
  | .streamCallback k lease =>
    inferInstanceAs (Decidable (∀ handler ∈ s.callbacks[k]?,
      lease.bufferFd = handler.output.target.bufferFd ∨
        lease.bufferFd ∉ previewFds s.session.config))
  | .processRequest request =>
    inferInstanceAs (Decidable (∀ output ∈ requestOutputsFor request,
      output.bufferFd ∉ previewFds s.session.config))
  | .configureStreams _ | .startStreaming | .post _ _ | .runTask _ _ | .dequeue _ | .process _ _
  | .dispatch _ | .returnStream _ | .flush _ | .close _ => .isTrue trivial

instance noneOutstandingDecidable (s : System δ π) (a : Label) : Decidable (NoneOutstanding s a) :=
  match a with
  | .startStreaming =>
    inferInstanceAs (Decidable (s.session.state = .configured →
      s.callbacks = [] ∧ s.returning = []))
  | .configureStreams _ | .processRequest _ | .post _ _ | .runTask _ _ | .dequeue _ | .process _ _
  | .dispatch _ | .streamCallback _ _ | .returnStream _ | .flush _ | .close _ => .isTrue trivial

structure OpenDriver where
  nextToken : Nat := 1
  queue : List (DriverToken × Int) := []

def OpenDriver.take (d : OpenDriver) (fd : Int) : Option DriverToken × OpenDriver :=
  (some d.nextToken,
    { nextToken := d.nextToken + 1, queue := d.queue ++ [(d.nextToken, fd)] })

def openAdapter : DriverAdapter OpenDriver where
  configureStream := fun d => (true, d)
  startStreaming := fun d => (true, d)
  startContinuousStream := fun _ buffers d =>
    (some (List.range' d.nextToken buffers.length),
      { nextToken := d.nextToken + buffers.length
        queue := d.queue ++
          (List.range' d.nextToken buffers.length).zip (buffers.map (·.bufferFd)) })
  stopStreaming := fun d => { d with queue := [] }
  close := fun d => { d with queue := [] }
  canSubmitCaptureOutputs := fun _ d => (true, d)
  submitCapture := fun target d => d.take target.bufferFd
  dequeueCompletion := fun _ d =>
    match d.queue with
    | [] => (none, d)
    | (token, _) :: rest => (some { token := token }, { d with queue := rest })
  returnStreamBuffer := fun lease d => d.take lease.bufferFd
  eventFds := fun _ => []
  lastError := fun _ => ""

structure OpenDriver.Sound (d : OpenDriver) : Prop where
  positive : 0 < d.nextToken
  distinct : (d.queue.map Prod.fst).Nodup
  below : ∀ τ ∈ d.queue.map Prod.fst, τ < d.nextToken

def openSource : TokenSource OpenDriver where
  sound := OpenDriver.Sound
  running := fun _ => True
  issued := fun d => { τ | τ < d.nextToken }

private theorem open_issues {d d' : OpenDriver} {tokens : List DriverToken}
    (sound : openSource.sound d) (apart : tokens.Nodup) (grows : d.nextToken ≤ d'.nextToken)
    (within : ∀ τ ∈ tokens, d.nextToken ≤ τ ∧ τ < d'.nextToken)
    (queue : (d'.queue.map Prod.fst).Sublist (d.queue.map Prod.fst ++ tokens)) :
    openSource.Issues d d' tokens where
  sound := by
    have fresh : (d.queue.map Prod.fst ++ tokens).Nodup := by
      refine List.nodup_append.mpr ⟨sound.distinct, apart, fun τ old τ' new same => ?_⟩
      subst same
      exact Nat.not_lt.mpr (within τ new).1 (sound.below τ old)
    refine ⟨Nat.lt_of_lt_of_le sound.positive grows, fresh.sublist queue, fun τ member => ?_⟩
    rcases List.mem_append.mp (queue.subset member) with old | new
    · exact Nat.lt_of_lt_of_le (sound.below τ old) grows
    · exact (within τ new).2
  grows := fun _ known => Nat.lt_of_lt_of_le known grows
  running := fun _ => trivial
  apart := apart
  usable := by
    intro τ member
    obtain ⟨lower, upper⟩ := within τ member
    have positive : 0 < τ := Nat.lt_of_lt_of_le sound.positive lower
    exact ⟨Nat.ne_of_gt positive, Nat.not_lt.mpr lower, upper⟩

private theorem take_issues (d : OpenDriver) (fd : Int) (sound : openSource.sound d) :
    openSource.Issues d (d.take fd).2 (d.take fd).1.toList := by
  refine open_issues sound (by simp [OpenDriver.take]) (Nat.le_succ _) (fun τ member => ?_)
    (by simp [OpenDriver.take])
  simp only [OpenDriver.take, Option.toList_some, List.mem_singleton] at member
  subst member
  exact ⟨Nat.le_refl _, Nat.lt_succ_self _⟩

private theorem take_queue {d : OpenDriver} {fd fd' : Int} {τ : DriverToken}
    (held : (τ, fd') ∈ (d.take fd).2.queue) :
    (τ, fd') ∈ d.queue ∨ ((d.take fd).1 = some τ ∧ fd' = fd) := by
  rcases List.mem_append.mp held with before | here
  · exact Or.inl before
  · obtain ⟨rfl, rfl⟩ := Prod.mk.inj (List.mem_singleton.mp here)
    exact Or.inr ⟨rfl, rfl⟩

private theorem open_still {d d' : OpenDriver} (sound : openSource.sound d)
    (next : d'.nextToken = d.nextToken) (queue : d'.queue.Sublist d.queue) :
    openSource.Issues d d' [] := by
  refine open_issues sound List.nodup_nil (Nat.le_of_eq next.symm) (by simp) ?_
  rw [List.append_nil]
  exact queue.map _

private theorem open_emptied (d : OpenDriver) (sound : openSource.sound d) :
    openSource.Follows d { d with queue := [] } := by
  have step : openSource.Issues d { d with queue := [] } [] :=
    open_still sound rfl (List.nil_sublist _)
  exact step.toFollows

def openQueue : BufferQueue openAdapter where
  toTokenSource := openSource
  configures := fun d sound => ⟨sound, fun _ => id⟩
  starts := fun d sound => ⟨sound, fun _ => id⟩
  started := fun d _ _ => trivial
  streams := by
    intro stream buffers d sound
    refine open_issues sound List.nodup_range' (Nat.le_add_right _ _) (fun τ member => ?_) ?_
    · exact List.mem_range'_1.mp member
    · simp only [openAdapter, List.map_append, Option.getD_some]
      rw [List.map_fst_zip (by simp)]
  stops := open_emptied
  closes := open_emptied
  preflights := fun outputs d sound => open_still sound rfl (List.Sublist.refl _)
  submits := fun target d sound => take_issues d target.bufferFd sound
  dequeues := by
    intro readyFd d sound
    simp only [openAdapter]
    split
    · exact open_still sound rfl (List.Sublist.refl _)
    · rename_i token fd rest queue
      refine open_still sound rfl ?_
      rw [queue]
      exact List.sublist_cons_self _ _
  returns := fun lease d sound => take_issues d lease.bufferFd sound
  queued := fun d τ fd => (τ, fd) ∈ d.queue
  configureQueue := fun _ _ _ _ => id
  startQueue := fun _ _ _ _ => id
  streamQueue := by
    intro stream buffers d τ fd sound held
    rcases List.mem_append.mp held with before | here
    · exact Or.inl before
    · rw [List.zip_map_right, List.mem_map] at here
      obtain ⟨pair, member, same⟩ := here
      obtain ⟨rfl, rfl⟩ := Prod.mk.inj same
      exact Or.inr ⟨_, pair.2, rfl, member, rfl⟩
  streamLength := by
    intro stream buffers d tokens sound same
    cases same
    simp
  stopQueue := fun d τ fd _ held => by cases held
  closeQueue := fun d τ fd _ held => by cases held
  preflightQueue := fun _ _ _ _ _ => id
  submitQueue := fun target d τ fd _ => take_queue
  dequeueQueue := by
    intro readyFd d τ fd sound held
    simp only [openAdapter] at held ⊢
    split at held
    · rename_i queue
      exact ⟨held, by simp⟩
    · rename_i token fd' rest queue
      rw [queue]
      refine ⟨List.mem_cons_of_mem _ held, ?_⟩
      intro completion same
      cases same
      rintro rfl
      have distinct := sound.distinct
      rw [queue, List.map_cons, List.nodup_cons] at distinct
      exact distinct.1 (List.mem_map.mpr ⟨_, held, rfl⟩)
  dequeueKnown := by
    intro readyFd d completion sound answer
    simp only [openAdapter] at answer
    split at answer
    · cases answer
    · rename_i token fd rest queue
      cases answer
      refine sound.below token ?_
      rw [queue]
      exact List.mem_cons_self
  returnQueue := fun lease d τ fd _ => take_queue

def singlePreview : CameraDeviceSessionConfig :=
  { continuousPreviewConfig := some {}
    continuousPreviewBuffers := [{ streamType := .preview, bufferId := 0, bufferFd := 20 }] }

def callbackRunning : List Label :=
  [.configureStreams true, .startStreaming, .dequeue 5, .process 0 1]

private theorem open_sound : openQueue.sound ({} : OpenDriver) :=
  ⟨Nat.one_pos, List.nodup_nil, fun τ member => by cases member⟩

theorem preview_ownership_exclusive_restart :
    ∃ s : System OpenDriver Unit,
      Reaches (step openAdapter [] ⟨true, true⟩)
        (fun s a => OwnBuffers s a ∧ NoneOutstanding s a)
        (System.initial singlePreview (some {}) ()) s ∧
      Held s 20 ∧ s.session.nextStreamingFrameNumber = 1000000000003 ∧
      Exclusive openQueue s := by
  obtain ⟨s, run, passed⟩ := exists_reaches_of_replay (step openAdapter [] ⟨true, true⟩)
    (fun s a => OwnBuffers s a ∧ NoneOutstanding s a)
    (System.initial singlePreview (some ({} : OpenDriver)) ())
    (callbackRunning ++ [.streamCallback 0 { bufferFd := 20 }, .returnStream 0, .flush 2,
      .startStreaming, .dequeue 5, .process 0 3])
    (fun s => decide (∃ handler ∈ s.callbacks ++ s.returning,
        handler.output.target.bufferFd = 20) &&
      s.session.nextStreamingFrameNumber == 1000000000003) (by decide +kernel)
  simp only [Bool.and_eq_true, decide_eq_true_eq, beq_iff_eq] at passed
  exact ⟨s, run, passed.1, passed.2,
    preview_ownership_exclusive openAdapter openQueue [] ⟨true, true⟩ singlePreview {} () open_sound
      (fun τ fd held => by cases held) s run⟩

/-- Flushed and started again under a running callback, the session queues the buffer
that the callback still reads, and queues it a second time when the callback
returns. -/
theorem restart_under_callback_shares_buffer :
    (∃ s : System OpenDriver Unit,
      Reaches (step openAdapter [] ⟨true, true⟩) OwnBuffers
        (System.initial singlePreview (some {}) ()) s ∧
      Held s 20 ∧ s.session.driver.map (·.queue) = some [(2, 20)] ∧ ¬ Exclusive openQueue s) ∧
    ∃ s : System OpenDriver Unit,
      Reaches (step openAdapter [] ⟨true, true⟩) OwnBuffers
        (System.initial singlePreview (some {}) ()) s ∧
      s.session.driver.map (·.queue) = some [(2, 20), (3, 20)] ∧ ¬ Exclusive openQueue s := by
  constructor
  · obtain ⟨s, run, passed⟩ := exists_reaches_of_replay (step openAdapter [] ⟨true, true⟩)
      OwnBuffers (System.initial singlePreview (some ({} : OpenDriver)) ())
      (callbackRunning ++ [.flush 2, .startStreaming])
      (fun s => decide (∃ handler ∈ s.callbacks ++ s.returning,
          handler.output.target.bufferFd = 20) &&
        (s.session.driver.map (·.queue) == some [(2, 20)] &&
          (previewFds s.session.config).count 20 == 1)) (by decide +kernel)
    simp only [Bool.and_eq_true, decide_eq_true_eq, beq_iff_eq] at passed
    obtain ⟨held, queue, once⟩ := passed
    refine ⟨s, run, held, queue, fun sole => ?_⟩
    obtain ⟨d, driver, same⟩ := Option.map_eq_some_iff.mp queue
    refine (sole d driver 20 once).2 held 2 ?_
    have listed : (2, 20) ∈ d.queue := by simp [same]
    exact listed
  · obtain ⟨s, run, passed⟩ := exists_reaches_of_replay (step openAdapter [] ⟨true, true⟩)
      OwnBuffers (System.initial singlePreview (some ({} : OpenDriver)) ())
      (callbackRunning ++ [.flush 2, .startStreaming, .streamCallback 0 { bufferFd := 20 },
        .returnStream 0])
      (fun s => s.session.driver.map (·.queue) == some [(2, 20), (3, 20)] &&
        (previewFds s.session.config).count 20 == 1) (by decide +kernel)
    simp only [Bool.and_eq_true, beq_iff_eq] at passed
    obtain ⟨queue, once⟩ := passed
    refine ⟨s, run, queue, fun sole => ?_⟩
    obtain ⟨d, driver, same⟩ := Option.map_eq_some_iff.mp queue
    have first : (2, 20) ∈ d.queue := by simp [same]
    have second : (3, 20) ∈ d.queue := by simp [same]
    have equal := (sole d driver 20 once).1 2 3 first second
    cases equal

end Runs

end MiniCam.Hal.PreviewOwnership
