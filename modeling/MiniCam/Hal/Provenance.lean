/- Module: MiniCam/Hal/Provenance
   source: hal/camera_device_session.cpp, hal/in_flight_request_tracker.cpp
   digest: What a reported output can be traced back to, over any driver that keeps
     track of its tokens. -/

import MiniCam.Hal.TokenBijection

set_option autoImplicit false
set_option relaxedAutoImplicit false

namespace MiniCam.Hal.Provenance

open MiniCam.Foundation.KeyedTable
open MiniCam.Foundation.Runs (Reaches)
open MiniCam.Hal.Interface
open MiniCam.Hal.InFlightRequestTracker
open MiniCam.Hal.CameraDeviceSession
open MiniCam.Hal.TrackerInvariant
open MiniCam.Hal.SessionSpec
open MiniCam.Hal.SessionSystem
open MiniCam.Hal.TokenBijection

variable {δ π : Type}

section Ledgers

/-- What a driver state tells about tokens: the next one to be issued, what was
queued under an issued one, and whether its buffer has come back. -/
structure TokenLog (δ : Type) where
  sound : δ → Prop
  next : δ → Nat
  queued : δ → DriverToken → StreamType → Int → Prop
  finished : δ → DriverToken → Prop

structure TokenLog.Follows (L : TokenLog δ) (d d' : δ) : Prop where
  sound : L.sound d'
  next : L.next d ≤ L.next d'
  queued : ∀ τ streamType fd, L.queued d τ streamType fd → L.queued d' τ streamType fd
  finished : ∀ τ, L.finished d τ → L.finished d' τ

structure TokenLog.Entry (L : TokenLog δ) (d d' : δ) (streamType : StreamType) (fd : Int)
    (τ : Nat) : Prop where
  lower : L.next d ≤ τ
  upper : τ < L.next d'
  queued : L.queued d' τ streamType fd

/-- A driver that issues every token once, for the buffer it was given, and reports
only tokens whose buffer came back. A buffer that is not queued is answered by 0. -/
structure Ledger (D : DriverAdapter δ) extends TokenLog δ where
  configures : ∀ d, sound d → toTokenLog.Follows d (D.configureStream d).2
  starts : ∀ d, sound d → toTokenLog.Follows d (D.startStreaming d).2
  stops : ∀ d, sound d → toTokenLog.Follows d (D.stopStreaming d)
  closes : ∀ d, sound d → toTokenLog.Follows d (D.close d)
  preflights : ∀ d outputs, sound d →
    toTokenLog.Follows d (D.canSubmitCaptureOutputs outputs d).2
  submits : ∀ d target answer d', sound d → D.submitCapture target d = (answer, d') →
    toTokenLog.Follows d d' ∧ ∀ τ, answer = some τ →
      toTokenLog.Entry d d' target.streamType target.bufferFd τ
  streams : ∀ d stream buffers answer d', sound d →
    D.startContinuousStream stream buffers d = (answer, d') →
      toTokenLog.Follows d d' ∧ ∀ tokens, answer = some tokens →
        List.Forall₂ (fun τ buffer =>
          toTokenLog.Entry d d' stream.streamType buffer.bufferFd τ) tokens buffers
  dequeues : ∀ d readyFd, sound d →
    toTokenLog.Follows d (D.dequeueCompletion readyFd d).2 ∧
      ∀ completion, (D.dequeueCompletion readyFd d).1 = some completion →
        finished (D.dequeueCompletion readyFd d).2 completion.token
  returns : ∀ d lease answer d', sound d → D.returnStreamBuffer lease d = (answer, d') →
    toTokenLog.Follows d d' ∧ ∀ τ, answer = some τ →
      τ = 0 ∨ toTokenLog.Entry d d' lease.streamType lease.bufferFd τ

theorem TokenLog.Follows.refl {L : TokenLog δ} {d : δ} (sound : L.sound d) : L.Follows d d :=
  ⟨sound, Nat.le_refl _, fun _ _ _ => id, fun _ => id⟩

theorem TokenLog.Follows.trans {L : TokenLog δ} {d d' d'' : δ} (first : L.Follows d d')
    (second : L.Follows d' d'') : L.Follows d d'' where
  sound := second.sound
  next := Nat.le_trans first.next second.next
  queued := fun τ streamType fd known => second.queued τ streamType fd (first.queued τ _ fd known)
  finished := fun τ known => second.finished τ (first.finished τ known)

theorem TokenLog.Entry.within {L : TokenLog δ} {d d₁ d₂ d' : δ} {streamType : StreamType}
    {fd : Int} {τ : Nat} (before : L.Follows d d₁) (E : L.Entry d₁ d₂ streamType fd τ)
    (after : L.Follows d₂ d') : L.Entry d d' streamType fd τ where
  lower := Nat.le_trans before.next E.lower
  upper := Nat.lt_of_lt_of_le E.upper after.next
  queued := after.queued τ streamType fd E.queued

end Ledgers

section Entries

variable {D : DriverAdapter δ} (L : Ledger D)

theorem submitOutputs_entries {frameNumber : Nat}
    {pairs : List (OutputBufferTarget × InFlightOutput)} {d d' : δ} {t t' : Tracker} {ok : Bool}
    (sound : L.sound d) (run : submitOutputs D frameNumber pairs d t = (ok, d', t')) :
    L.Follows d d' ∧ ∀ τ c, t'.driverOutputs.lookup τ = some c →
      t.driverOutputs.lookup τ = some c ∨
        ∃ pair ∈ pairs, c.outputIndex = pair.2.outputIndex ∧
          L.Entry d d' pair.1.streamType pair.1.bufferFd τ := by
  induction pairs generalizing d t with
  | nil =>
    cases run
    exact ⟨TokenLog.Follows.refl sound, fun _ _ => Or.inl⟩
  | cons pair rest ih =>
    obtain ⟨target, output⟩ := pair
    simp only [submitOutputs] at run
    cases submitted : D.submitCapture target d with
    | mk answer d₁ =>
      obtain ⟨first, entry⟩ := L.submits d target answer d₁ sound submitted
      rw [submitted] at run
      cases answer with
      | none =>
        cases run
        exact ⟨first, fun _ _ => Or.inl⟩
      | some token =>
        simp only [Tracker.bindDriverOutput] at run
        split at run
        · rename_i refused
          split at refused <;> cases refused
          cases run
          exact ⟨first, fun _ _ => Or.inl⟩
        · rename_i bound
          split at bound <;> cases bound
          obtain ⟨later, entries⟩ := ih first.sound run
          refine ⟨first.trans later, fun τ c found => ?_⟩
          rcases entries τ c found with inserted | ⟨named, member, index, issued⟩
          · rcases lookup_insert_eq_some.mp inserted with ⟨rfl, rfl⟩ | ⟨-, before⟩
            · exact Or.inr ⟨_, List.mem_cons_self, rfl,
                (entry _ rfl).within (TokenLog.Follows.refl sound) later⟩
            · exact Or.inl before
          · exact Or.inr ⟨named, List.mem_cons_of_mem _ member, index,
              issued.within first (TokenLog.Follows.refl later.sound)⟩

theorem requestPairs_target {request : CaptureRequest}
    {pair : OutputBufferTarget × InFlightOutput} (member : pair ∈ requestPairs request) :
    pair.2.target = pair.1 ∧ pair.2 ∈ (queuedRow request).outputBuffers := by
  obtain ⟨k, found⟩ := List.getElem?_of_mem member
  rw [requestPairs, List.getElem?_zip_eq_some, makeInFlightOutputs_getElem?] at found
  obtain ⟨at_target, made⟩ := found
  rw [at_target] at made
  simp only [Option.map_some, Option.some.injEq] at made
  refine ⟨by rw [← made], List.mem_of_getElem? (i := k) ?_⟩
  simp only [queuedRow, makeInFlightOutputs_getElem?, at_target, Option.map_some, made]

end Entries

section Invariant

variable {D : DriverAdapter δ} (L : Ledger D)

/-- The binding's buffer was queued under the token, for a request on the endpoint
of its own stream type. -/
def Submission (d : δ) (τ : DriverToken) (b : Binding) : Prop :=
  ∃ streamType, L.queued d τ streamType b.target.bufferFd ∧
    ∀ id, b.use = .capture id → streamType = b.target.streamType

def Earned (d : δ) (boundFor : DriverToken → Option Binding) (use : Use) (index : Int)
    (target : OutputBufferTarget) : Prop :=
  ∃ τ, boundFor τ = some { use := use, outputIndex := index, target := target } ∧ L.finished d τ

/-- Every output that the result reports as Ok has been earned, each index once. -/
structure Backed (d : δ) (boundFor : DriverToken → Option Binding) (use : Use)
    (result : CaptureResult) : Prop where
  earned : ∀ entry ∈ result.completedOutputBuffers, entry.status = .ok →
    ∃ target, entry.streamId = target.streamId ∧ entry.bufferId = target.bufferId ∧
      Earned L d boundFor use entry.outputIndex target
  apart : ∀ (i j : Nat) (entry entry' : CompletedOutputBuffer),
    result.completedOutputBuffers[i]? = some entry →
    result.completedOutputBuffers[j]? = some entry' → entry.status = .ok → entry'.status = .ok →
      entry.outputIndex = entry'.outputIndex → i = j

structure Attributed (d : δ) (s : System δ π) : Prop where
  tracked : Tracked s
  driver : s.session.driver = some d
  sound : L.sound d
  bound : ∀ τ b, s.boundFor τ = some b → τ < L.next d ∧ Submission L d τ b
  dequeued : ∀ completion ∈ s.dequeued, L.finished d completion.token
  marked : ∀ f row output, s.session.inFlight.requests.lookup f = some row →
    output ∈ row.outputBuffers → output.completed = true →
      Earned L d s.boundFor (.capture (s.owner f)) output.outputIndex output.target
  prepared : ∀ entry ∈ s.prepared, Backed L d s.boundFor (.capture entry.1) entry.2
  callbacks : ∀ handler ∈ s.callbacks,
    Backed L d s.boundFor (.preview handler.output.frameNumber) handler.result ∧
      handler.lease.bufferFd = handler.output.target.bufferFd
  returning : ∀ handler ∈ s.returning, handler.lease.bufferFd = handler.output.target.bufferFd
  dispatched : ∀ entry ∈ s.dispatched, Backed L d s.boundFor entry.1 entry.2
  credits : ∀ credit ∈ s.credits, ∃ b, s.boundFor credit.token = some b ∧ b.use = credit.use ∧
    b.outputIndex = credit.outputIndex ∧ L.finished d credit.token

variable {L} {d d' : δ} {s t : System δ π}

theorem Submission.mono {τ : DriverToken} {b : Binding} (follows : L.Follows d d')
    (known : Submission L d τ b) : Submission L d' τ b :=
  known.imp fun streamType both => ⟨follows.queued τ streamType _ both.1, both.2⟩

theorem Earned.mono {boundFor boundFor' : DriverToken → Option Binding} {use : Use} {index : Int}
    {target : OutputBufferTarget} (follows : L.Follows d d')
    (grows : ∀ τ b, boundFor τ = some b → boundFor' τ = some b)
    (known : Earned L d boundFor use index target) : Earned L d' boundFor' use index target :=
  known.imp fun τ both => ⟨grows τ _ both.1, follows.finished τ both.2⟩

theorem Backed.mono {boundFor boundFor' : DriverToken → Option Binding} {use : Use}
    {result : CaptureResult} (follows : L.Follows d d')
    (grows : ∀ τ b, boundFor τ = some b → boundFor' τ = some b)
    (known : Backed L d boundFor use result) : Backed L d' boundFor' use result where
  earned := by
    intro entry member ok
    obtain ⟨target, stream, buffer, earned⟩ := known.earned entry member ok
    exact ⟨target, stream, buffer, earned.mono follows grows⟩
  apart := known.apart

theorem backed_of_failed {boundFor : DriverToken → Option Binding} {use : Use}
    {result : CaptureResult}
    (failed : ∀ entry ∈ result.completedOutputBuffers, entry.status ≠ .ok) :
    Backed L d boundFor use result where
  earned := fun entry member ok => (failed entry member ok).elim
  apart := fun _ _ entry _ found _ ok => (failed entry (List.mem_of_getElem? found) ok).elim

structure Moves (L : Ledger D) (d d' : δ) (s t : System δ π) : Prop where
  driver : t.session.driver = some d'
  follows : L.Follows d d'
  grows : ∀ τ b, s.boundFor τ = some b → t.boundFor τ = some b
  news : ∀ τ b, t.boundFor τ = some b →
    s.boundFor τ = some b ∨ (τ < L.next d' ∧ Submission L d' τ b)
  dequeued : ∀ completion ∈ t.dequeued,
    completion ∈ s.dequeued ∨ L.finished d' completion.token
  marked : ∀ f row output, t.session.inFlight.requests.lookup f = some row →
    output ∈ row.outputBuffers → output.completed = true →
      (∃ row', s.session.inFlight.requests.lookup f = some row' ∧ output ∈ row'.outputBuffers ∧
        t.owner f = s.owner f) ∨
      Earned L d' t.boundFor (.capture (t.owner f)) output.outputIndex output.target
  prepared : ∀ entry ∈ t.prepared,
    entry ∈ s.prepared ∨ Backed L d' t.boundFor (.capture entry.1) entry.2
  callbacks : ∀ handler ∈ t.callbacks, handler ∈ s.callbacks ∨
    (Backed L d' t.boundFor (.preview handler.output.frameNumber) handler.result ∧
      handler.lease.bufferFd = handler.output.target.bufferFd)
  returning : ∀ handler ∈ t.returning, handler ∈ s.returning ∨
    handler.lease.bufferFd = handler.output.target.bufferFd
  dispatched : ∀ entry ∈ t.dispatched,
    entry ∈ s.dispatched ∨ Backed L d' t.boundFor entry.1 entry.2
  credits : ∀ credit ∈ t.credits, credit ∈ s.credits ∨
    ∃ b, t.boundFor credit.token = some b ∧ b.use = credit.use ∧
      b.outputIndex = credit.outputIndex ∧ L.finished d' credit.token

theorem Attributed.advance (A : Attributed L d s) (T : Tracked t) (M : Moves L d d' s t) :
    Attributed L d' t where
  tracked := T
  driver := M.driver
  sound := M.follows.sound
  bound := by
    intro τ b found
    rcases M.news τ b found with before | fresh
    · obtain ⟨below, known⟩ := A.bound τ b before
      exact ⟨Nat.lt_of_lt_of_le below M.follows.next, known.mono M.follows⟩
    · exact fresh
  dequeued := fun completion member => (M.dequeued completion member).elim
    (fun before => M.follows.finished _ (A.dequeued completion before)) id
  marked := by
    intro f row output found member completed
    rcases M.marked f row output found member completed with ⟨row', before, inside, owner⟩ | fresh
    · rw [owner]
      exact (A.marked f row' output before inside completed).mono M.follows M.grows
    · exact fresh
  prepared := fun entry member => (M.prepared entry member).elim
    (fun before => (A.prepared entry before).mono M.follows M.grows) id
  callbacks := fun handler member => (M.callbacks handler member).elim
    (fun before => (A.callbacks handler before).imp_left (Backed.mono M.follows M.grows)) id
  returning := fun handler member => (M.returning handler member).elim (A.returning handler) id
  dispatched := fun entry member => (M.dispatched entry member).elim
    (fun before => (A.dispatched entry before).mono M.follows M.grows) id
  credits := by
    intro credit member
    rcases M.credits credit member with before | fresh
    · obtain ⟨b, found, use, index, finished⟩ := A.credits credit before
      exact ⟨b, M.grows _ b found, use, index, M.follows.finished _ finished⟩
    · exact fresh

theorem Moves.of_quiet (driver : t.session.driver = some d') (follows : L.Follows d d')
    (boundFor : t.boundFor = s.boundFor) (owner : t.owner = s.owner)
    (rows : ∀ f row, t.session.inFlight.requests.lookup f = some row →
      s.session.inFlight.requests.lookup f = some row)
    (dequeued : t.dequeued ⊆ s.dequeued) (prepared : t.prepared ⊆ s.prepared)
    (callbacks : t.callbacks ⊆ s.callbacks) (returning : t.returning ⊆ s.returning)
    (dispatched : t.dispatched ⊆ s.dispatched) (credits : t.credits ⊆ s.credits) :
    Moves L d d' s t where
  driver := driver
  follows := follows
  grows := fun τ b found => by rw [boundFor]; exact found
  news := fun τ b found => Or.inl (by rw [← boundFor]; exact found)
  dequeued := fun _ member => Or.inl (dequeued member)
  marked := fun f row output found member _ =>
    Or.inl ⟨row, rows f row found, member, by rw [owner]⟩
  prepared := fun _ member => Or.inl (prepared member)
  callbacks := fun _ member => Or.inl (callbacks member)
  returning := fun _ member => Or.inl (returning member)
  dispatched := fun _ member => Or.inl (dispatched member)
  credits := fun _ member => Or.inl (credits member)

theorem Moves.of_session {session : Session δ} {admitting accepted : List CaptureRequest}
    {tasks : List (Nat × CaptureRequest)} (driver : session.driver = some d')
    (follows : L.Follows d d') (rows : session.inFlight.requests = s.session.inFlight.requests) :
    Moves L d d' s { s with
      session := session
      admitting := admitting
      accepted := accepted
      tasks := tasks } :=
  Moves.of_quiet driver follows rfl rfl (fun _ _ found => rows ▸ found) (fun _ => id) (fun _ => id)
    (fun _ => id) (fun _ => id) (fun _ => id) (fun _ => id)

end Invariant

section Steps

variable {D : DriverAdapter δ} {L : Ledger D} {d d' : δ} {s t : System δ π}

private theorem recorded_moves (A : Attributed L d s) (d' : δ) (after : Tracker)
    (use : DriverOutputContext → Use)
    (fresh : ∀ τ c, after.driverOutputs.lookup τ = some c → τ ∉ s.session.inFlight.driverOutputs →
      L.next d ≤ τ ∧ τ < L.next d' ∧
        ∀ b, bindingOf after (use c) c = some b → Submission L d' τ b) :
    (∀ τ b, s.boundFor τ = some b →
      recordBindings s.session.inFlight after use s.boundFor τ = some b) ∧
    ∀ τ b, recordBindings s.session.inFlight after use s.boundFor τ = some b →
      s.boundFor τ = some b ∨ (τ < L.next d' ∧ Submission L d' τ b) := by
  constructor
  · intro τ b found
    rcases recordBindings_cases s.session.inFlight after use s.boundFor τ with
      same | ⟨c, bound, unbound, -⟩
    · rw [same]
      exact found
    · have below := (A.bound τ b found).1
      exact (Nat.not_lt.mpr (fresh τ c bound unbound).1 below).elim
  · intro τ b found
    rcases recordBindings_cases s.session.inFlight after use s.boundFor τ with
      same | ⟨c, bound, unbound, same⟩
    · exact Or.inl (same ▸ found)
    · obtain ⟨-, upper, submission⟩ := fresh τ c bound unbound
      exact Or.inr ⟨upper, submission b (same ▸ found)⟩

private theorem preview_moves (A : Attributed L d s) (d' : δ)
    (pairs : List (DriverToken × InFlightStreamingOutput))
    (entries : ∀ τ output, (τ, output) ∈ pairs →
      τ = 0 ∨ ∃ streamType, L.Entry d d' streamType output.target.bufferFd τ) :
    (∀ τ b, s.boundFor τ = some b →
      recordBindings s.session.inFlight (bindStreamingOutputs pairs s.session.inFlight).2 previewUse
        s.boundFor τ = some b) ∧
    ∀ τ b, recordBindings s.session.inFlight (bindStreamingOutputs pairs s.session.inFlight).2
        previewUse s.boundFor τ = some b →
      s.boundFor τ = some b ∨ (τ < L.next d' ∧ Submission L d' τ b) := by
  obtain ⟨-, -, -, news⟩ := bindStreamingOutputs_adds pairs s.session.inFlight
  apply recorded_moves A
  intro τ c found unbound
  rcases news τ c found with before | ⟨-, nonzero, output, member, rfl, registered⟩
  · exact (unbound (mem_of_lookup before)).elim
  · rcases entries τ output member with zero | ⟨streamType, entry⟩
    · exact (nonzero zero).elim
    · refine ⟨entry.lower, entry.upper, fun b bound => ⟨streamType, ?_, ?_⟩⟩
      · simp only [bindingOf, registered] at bound
        cases bound
        exact entry.queued
      · intro id capture
        simp only [bindingOf, registered] at bound
        cases bound
        cases capture

private theorem previewSubmissions_entries (sound : L.sound d) (session : Session δ) :
    L.Follows d (previewSubmissions D session d).2 ∧
      ∀ tokens, (previewSubmissions D session d).1 = some tokens →
        ∀ τ output, (τ, output) ∈ tokens.zip (streamingOutputsFrom session.nextStreamingFrameNumber
            session.config.continuousPreviewBuffers) →
          ∃ streamType,
            L.Entry d (previewSubmissions D session d).2 streamType output.target.bufferFd τ := by
  have started := L.starts d sound
  simp only [previewSubmissions]
  cases session.config.continuousPreviewConfig with
  | none =>
    refine ⟨started, fun tokens same τ output member => ?_⟩
    cases same
    cases member
  | some stream =>
    obtain ⟨follows, given⟩ := L.streams _ stream session.config.continuousPreviewBuffers _ _
      started.sound rfl
    refine ⟨started.trans follows, fun tokens same τ output member => ?_⟩
    have all := given tokens same
    have targets : (streamingOutputsFrom session.nextStreamingFrameNumber
        session.config.continuousPreviewBuffers).map (·.target) =
          session.config.continuousPreviewBuffers := by
      simp only [streamingOutputsFrom, List.map_map, Function.comp_def]
      exact List.zipIdx_map_fst _ _
    rw [← targets, List.forall₂_map_right_iff, List.forall₂_iff_zip] at all
    have entry := all.2 member
    rw [targets] at entry
    exact ⟨stream.streamType, entry.within started (TokenLog.Follows.refl follows.sound)⟩

private theorem start_moves (A : Attributed L d s) : ∃ d', Moves L d d' s (startStep D s) := by
  rcases startStreaming_cases D s.session with
    same | ⟨d₀, d', next, state, at_driver, -, -, -, ⟨same, reached⟩ | ⟨submissions, given, -, -, -,
      same⟩⟩
  · refine ⟨d, ?_⟩
    simp only [startStep, same, recordBindings_self]
    exact Moves.of_session A.driver (TokenLog.Follows.refl A.sound) rfl
  · obtain rfl := Option.some.inj (A.driver.symm.trans at_driver)
    refine ⟨d', ?_⟩
    simp only [startStep, same, recordBindings_self]
    refine Moves.of_session rfl ?_ rfl
    rcases reached with rfl | ⟨rfl, -⟩
    · exact L.starts d A.sound
    · exact (previewSubmissions_entries A.sound s.session).1
  · obtain rfl := Option.some.inj (A.driver.symm.trans at_driver)
    obtain ⟨follows, entries⟩ := previewSubmissions_entries A.sound s.session
    rw [given] at follows entries
    have bindings := preview_moves A d' (submissions.zip (streamingOutputsFrom
      s.session.nextStreamingFrameNumber s.session.config.continuousPreviewBuffers))
      fun τ output member => Or.inr (entries submissions rfl τ output member)
    refine ⟨d', ?_⟩
    simp only [startStep, same]
    exact
      { driver := rfl
        follows := follows
        grows := bindings.1
        news := bindings.2
        dequeued := fun _ => Or.inl
        marked := fun f row output found member _ => Or.inl ⟨row,
          (bindStreamingOutputs_adds _ s.session.inFlight).1 ▸ found, member, rfl⟩
        prepared := fun _ => Or.inl
        callbacks := fun _ => Or.inl
        returning := fun _ => Or.inl
        dispatched := fun _ => Or.inl
        credits := fun _ => Or.inl }

private theorem return_moves (A : Attributed L d s) {k : Nat}
    (taken : returnStep D k s = some t) : ∃ d', Moves L d d' s t := by
  simp only [returnStep] at taken
  split at taken
  · cases taken
  rename_i handler at_handler
  have fd := A.returning handler (List.mem_of_getElem? at_handler)
  have rest : s.returning.eraseIdx k ⊆ s.returning := fun _ => List.mem_of_mem_eraseIdx
  cases taken
  rcases returnStreamBuffer_cases D handler.lease handler.output s.session with
    same | ⟨d₀, d', metrics, at_driver, -, ⟨refused, same⟩ | ⟨token, returned, same⟩⟩
  · simp only [same, recordBindings_self]
    exact ⟨d, Moves.of_quiet A.driver (TokenLog.Follows.refl A.sound) rfl rfl (fun _ _ => id)
      (fun _ => id) (fun _ => id) (fun _ => id) rest (fun _ => id) (fun _ => id)⟩
  · obtain rfl := Option.some.inj (A.driver.symm.trans at_driver)
    obtain ⟨follows, -⟩ := L.returns d handler.lease none d' A.sound refused
    simp only [same, recordBindings_self]
    exact ⟨d', Moves.of_quiet rfl follows rfl rfl (fun _ _ => id) (fun _ => id) (fun _ => id)
      (fun _ => id) rest (fun _ => id) (fun _ => id)⟩
  · obtain rfl := Option.some.inj (A.driver.symm.trans at_driver)
    obtain ⟨follows, entry⟩ := L.returns d handler.lease (some token) d' A.sound returned
    have bindings := preview_moves A d'
      [(token, { handler.output with frameNumber := s.session.nextStreamingFrameNumber })] (by
        intro τ output member
        obtain ⟨rfl, rfl⟩ := Prod.mk.inj (List.mem_singleton.mp member)
        rcases entry τ rfl with zero | issued
        · exact Or.inl zero
        · exact Or.inr ⟨handler.lease.streamType, fd ▸ issued⟩)
    refine ⟨d', ?_⟩
    simp only [same]
    exact
      { driver := rfl
        follows := follows
        grows := bindings.1
        news := bindings.2
        dequeued := fun _ => Or.inl
        marked := fun f row output found member _ => Or.inl ⟨row,
          (bindStreamingOutputs_adds _ s.session.inFlight).1 ▸ found, member, rfl⟩
        prepared := fun _ => Or.inl
        callbacks := fun _ => Or.inl
        returning := fun _ member => Or.inl (rest member)
        dispatched := fun _ => Or.inl
        credits := fun _ => Or.inl }

private theorem completedBuffers_status {buffers : List InFlightOutput} {status : CaptureStatus}
    {entry : CompletedOutputBuffer} (member : entry ∈ completedBuffersFor buffers status) :
    entry.status = status := by
  simp only [completedBuffersFor, List.mem_map] at member
  obtain ⟨output, -, rfl⟩ := member
  rfl

private theorem failedResult_backed {boundFor : DriverToken → Option Binding} {use : Use}
    {row : Option InFlightRequest} {f : Nat} {status : CaptureStatus} {message : String}
    {fallback : List CompletedOutputBuffer} {submittedAt now : Int} (failed : status ≠ .ok)
    (others : ∀ entry ∈ fallback, entry.status ≠ .ok) :
    Backed L d boundFor use (failedResult row f status message fallback submittedAt now) := by
  refine backed_of_failed fun entry member => ?_
  cases row with
  | none => exact others entry member
  | some r =>
    have same : entry.status = status := completedBuffers_status member
    rw [same]
    exact failed

private theorem runTask_moves (A : Attributed L d s) {k : Nat} {now : Int}
    (taken : runTaskStep D k now s = some t) : ∃ d', Moves L d d' s t := by
  have preflight : ∀ {d₀ d' : δ} {outputs : List OutputBufferTarget} {ok : Bool},
      s.session.driver = some d₀ →
      D.canSubmitCaptureOutputs outputs d₀ = (ok, d') → L.Follows d d' := by
    intro d₀ d' outputs ok driver answer
    obtain rfl := Option.some.inj (A.driver.symm.trans driver)
    have follows := L.preflights d outputs A.sound
    rwa [answer] at follows
  obtain ⟨n, request, -, ⟨result, session, outcome, rfl⟩ | ⟨session, outcome, rfl⟩⟩ :=
    runTaskStep_outcome D taken
  · have failing : ∀ d', session.driver = some d' → L.Follows d d' →
        (∀ f row, session.inFlight.requests.lookup f = some row →
          s.session.inFlight.requests.lookup f = some row) →
        Backed L d' s.boundFor (.capture n) result →
        ∃ d', Moves L d d' s { s with
          tasks := s.tasks.eraseIdx k
          session := session
          submissions := s.submissions ++ [(n, s.session.driver, session.driver)]
          prepared := s.prepared ++ [(n, result)] } := by
      intro d' driver follows rows backed
      refine ⟨d', driver, follows, fun _ _ => id, fun _ _ => Or.inl, fun _ => Or.inl,
        fun f row output found member _ => Or.inl ⟨row, rows f row found, member, rfl⟩,
        fun entry member => ?_, fun _ => Or.inl, fun _ => Or.inl, fun _ => Or.inl,
        fun _ => Or.inl⟩
      rcases List.mem_append.mp member with before | here
      · exact Or.inl before
      · obtain rfl := List.mem_singleton.mp here
        exact Or.inr backed
    have dropped : ∀ f row, (dropFrame s.session.inFlight request.frameNumber).requests.lookup f =
        some row → s.session.inFlight.requests.lookup f = some row :=
      fun f row found => (lookup_dropFrame_rows.mp found).2
    have fallback : ∀ entry ∈ completedBuffersFor (makeInFlightOutputs (requestOutputsFor request))
        .processingError, entry.status ≠ .ok := by
      intro entry member
      rw [completedBuffers_status member]
      simp
    cases outcome with
    | rejected closed =>
      refine failing d A.driver (TokenLog.Follows.refl A.sound) (fun _ _ => id) ?_
      exact backed_of_failed fun entry member => by cases member
    | @refused d₀ d' driver streaming answer message =>
      have follows := preflight driver answer
      exact failing d' rfl follows dropped (failedResult_backed (by simp) fallback)
    | @duplicate d₀ d' row driver streaming answer live =>
      have follows := preflight driver answer
      exact failing d' rfl follows dropped (failedResult_backed (by simp) fallback)
    | @failed d₀ d₁ d' t₁ t' driver streaming answer absent before stopped =>
      have follows := preflight driver answer
      obtain ⟨later, -⟩ := submitOutputs_entries L follows.sound stopped
      exact failing d' rfl (follows.trans later) dropped
        (failedResult_backed (by simp) fun entry member => by cases member)
  · cases outcome with
    | @submitted d₀ d₁ d' t₁ t' t'' tokens driver streaming answer before finished after bound =>
      have follows := preflight driver answer
      obtain ⟨later, entries⟩ := submitOutputs_entries L follows.sound finished
      have consistent := submitted_consistent A.tracked.consistent bound
      have bindings := recorded_moves A d' t'' (fun _ => .capture n) (by
        intro τ c found unbound
        rw [after] at found
        rcases entries τ c found with old | ⟨pair, member, index, entry⟩
        · rw [before] at old
          exact (unbound (mem_of_lookup old)).elim
        · have issued := entry.within follows (TokenLog.Follows.refl later.sound)
          refine ⟨issued.lower, issued.upper, fun b binding => ?_⟩
          obtain ⟨target, inside⟩ := requestPairs_target member
          have frame : c.frameNumber = request.frameNumber := by
            rw [← after] at found
            rcases (bound.lookups τ c).mp found with old | ⟨i, -, rfl⟩
            · exact (unbound (mem_of_lookup old)).elim
            · rfl
          have live : t''.requests.lookup c.frameNumber = some (queuedRow request) := by
            rw [bound.rows, frame]
            exact AList.lookup_insert _
          have points := outputTarget_of_member consistent live inside
          have nonnegative := (consistent.rows _ _ live).index_nonneg inside
          rw [target, ← index] at points
          rw [← index] at nonnegative
          simp only [bindingOf, if_neg (Int.not_lt.mpr nonnegative), points, Option.map_some,
            Option.some.injEq] at binding
          subst binding
          exact ⟨pair.1.streamType, issued.queued, fun _ _ => rfl⟩)
      refine ⟨d', rfl, follows.trans later, bindings.1, bindings.2, fun _ => Or.inl,
        fun f row output found member completed => ?_, fun _ => Or.inl, fun _ => Or.inl,
        fun _ => Or.inl, fun _ => Or.inl, fun _ => Or.inl⟩
      simp only [bound.rows] at found
      rcases lookup_insert_eq_some.mp found with ⟨rfl, rfl⟩ | ⟨other, live⟩
      · obtain ⟨i, at_i⟩ := List.getElem?_of_mem member
        simp only [queuedRow, makeInFlightOutputs_getElem?, Option.map_eq_some_iff] at at_i
        obtain ⟨target, -, rfl⟩ := at_i
        cases completed
      · exact Or.inl ⟨row, live, member, Function.update_of_ne other _ _⟩

private theorem marked_earned (A : Attributed L d s) {τ : DriverToken} {c : DriverOutputContext}
    {row : InFlightRequest} {output : InFlightOutput} {fence : Int} (finished : L.finished d τ)
    (found : s.session.inFlight.driverOutputs.lookup τ = some c)
    (live : s.session.inFlight.requests.lookup c.frameNumber = some row)
    (member : output ∈ row.outputBuffers) (index : output.outputIndex = c.outputIndex)
    {o : InFlightOutput} (inside : o ∈ (markedRow row output.outputIndex fence).outputBuffers)
    (completed : o.completed = true) :
    Earned L d s.boundFor (.capture (s.owner c.frameNumber)) o.outputIndex o.target := by
  obtain ⟨o₀, inside₀, rfl⟩ := List.mem_map.mp inside
  by_cases same : o₀.outputIndex = output.outputIndex
  · obtain rfl := (A.tracked.consistent.rows _ _ live).output_unique inside₀ member same
    have bound := A.tracked.bound_output found live member index
    refine ⟨τ, ?_, finished⟩
    simp only [Tracker.markOutput, if_true, index]
    exact bound
  · rw [Tracker.markOutput, if_neg same] at completed ⊢
    exact A.marked _ row o₀ live inside₀ completed

private theorem credit_of_output (A : Attributed L d s) {completion : DriverCompletion}
    (finished : L.finished d completion.token) :
    ∀ credit ∈ creditOf s completion.token, ∃ b, s.boundFor credit.token = some b ∧
      b.use = credit.use ∧ b.outputIndex = credit.outputIndex ∧ L.finished d credit.token := by
  intro credit member
  cases found : s.session.inFlight.driverOutputs.lookup completion.token with
  | none =>
    rw [creditOf_unbound found] at member
    cases member
  | some c =>
    by_cases negative : c.outputIndex < 0
    · rw [creditOf_stream A.tracked.consistent found negative] at member
      obtain rfl := List.mem_singleton.mp member
      obtain ⟨output, row, -⟩ := take_stream A.tracked.consistent found negative
      exact ⟨_, A.tracked.bound_stream found negative row, rfl, rfl, finished⟩
    · have nonnegative := Int.not_lt.mp negative
      rw [creditOf_output A.tracked.consistent found nonnegative] at member
      obtain rfl := List.mem_singleton.mp member
      obtain ⟨row, output, live, inside, index, -⟩ :=
        take_output A.tracked.consistent found nonnegative
      exact ⟨_, A.tracked.bound_output found live inside index, rfl, rfl, finished⟩

private theorem process_moves (A : Attributed L d s)
    {processors : List (Option (OutputProcessor π))} {k : Nat} {now : Int}
    (taken : processStep processors k now s = some t) : Moves L d d s t := by
  obtain ⟨completion, filled, p, session, at_completion, outcome, rfl⟩ :=
    processStep_outcome A.tracked.consistent taken
  have finished := A.dequeued completion (List.mem_of_getElem? at_completion)
  have rest : s.dequeued.eraseIdx k ⊆ s.dequeued := fun _ => List.mem_of_mem_eraseIdx
  have credits : ∀ credit ∈ s.credits ++ creditOf s completion.token, credit ∈ s.credits ∨
      ∃ b, s.boundFor credit.token = some b ∧ b.use = credit.use ∧
        b.outputIndex = credit.outputIndex ∧ L.finished d credit.token := by
    intro credit member
    exact (List.mem_append.mp member).imp_right (credit_of_output A finished credit)
  have quiet : session.driver = s.session.driver → (∀ f row output,
      session.inFlight.requests.lookup f = some row → output ∈ row.outputBuffers →
      output.completed = true →
        (∃ row', s.session.inFlight.requests.lookup f = some row' ∧ output ∈ row'.outputBuffers ∧
          s.owner f = s.owner f) ∨
        Earned L d s.boundFor (.capture (s.owner f)) output.outputIndex output.target) →
      Moves L d d s { s with
        session := session
        processorState := p
        dequeued := s.dequeued.eraseIdx k
        credits := s.credits ++ creditOf s completion.token } := by
    intro driver marked
    exact ⟨driver.trans A.driver, TokenLog.Follows.refl A.sound, fun _ _ => id, fun _ _ => Or.inl,
      fun _ member => Or.inl (rest member), marked, fun _ => Or.inl, fun _ => Or.inl,
      fun _ => Or.inl, fun _ => Or.inl, credits⟩
  cases outcome with
  | unknown unbound =>
    exact quiet rfl fun f row output found member _ => Or.inl ⟨row, found, member, rfl⟩
  | @preview c output fence _ bound negative row processed =>
    have base := quiet rfl fun f row output found member _ => Or.inl ⟨row, found, member, rfl⟩
    refine { base with callbacks := fun handler member => ?_ }
    rcases List.mem_append.mp member with before | here
    · exact Or.inl before
    · obtain rfl := List.mem_singleton.mp here
      have key := (A.tracked.consistent.fresh _ _ row).1
      have minus := (A.tracked.consistent.streams _ _ bound negative).1
      have binding := A.tracked.bound_stream bound negative row
      rw [minus, ← key] at binding
      refine Or.inr ⟨⟨fun entry listed _ => ?_, fun i j entry entry' at_i at_j _ _ _ => ?_⟩, rfl⟩
      · simp only [captureResultFromStandaloneCompletion, List.mem_singleton] at listed
        subst listed
        exact ⟨output.target, rfl, rfl, completion.token, binding, finished⟩
      · have first := (List.getElem?_eq_some_iff.mp at_i).1
        have second := (List.getElem?_eq_some_iff.mp at_j).1
        simp only [captureResultFromStandaloneCompletion, List.length_singleton] at first second
        omega
  | @waiting c row output fence _ bound live member index still processed pending =>
    refine quiet rfl fun f row' o found inside completed => ?_
    rcases lookup_insert_eq_some.mp found with ⟨rfl, rfl⟩ | ⟨-, before⟩
    · exact Or.inr (marked_earned A finished bound live member index inside completed)
    · exact Or.inl ⟨row', before, inside, rfl⟩
  | @complete c row output fence _ bound live member index still processed done =>
    have base := quiet rfl fun f row' o found inside _ =>
      Or.inl ⟨row', (lookup_erase_eq_some.mp found).2, inside, rfl⟩
    have rows := A.tracked.consistent.rows _ _ live
    refine { base with prepared := fun entry listed => ?_ }
    rcases List.mem_append.mp listed with before | here
    · exact Or.inl before
    obtain rfl := List.mem_singleton.mp here
    refine Or.inr ⟨fun entry reported _ => ?_, fun i j e e' at_i at_j _ _ same => ?_⟩
    · simp only [captureResultFromOutputCompletion, completedBuffersFor, List.mem_map] at reported
      obtain ⟨o, inside, rfl⟩ := reported
      have earned := marked_earned A finished bound live member index inside (done o inside)
      refine ⟨o.target, rfl, rfl, ?_⟩
      simp only [captureResultFromOutputCompletion, markedRow, rows.key]
      exact earned
    · have position : ∀ (n : Nat) (entry : CompletedOutputBuffer),
          (captureResultFromOutputCompletion (markedRow row output.outputIndex fence) output.target
            now).completedOutputBuffers[n]? = some entry → entry.outputIndex = (n : Int) := by
        intro n entry at_n
        simp only [captureResultFromOutputCompletion, completedBuffersFor, markedRow, List.map_map,
          List.getElem?_map, Option.map_eq_some_iff] at at_n
        obtain ⟨o, at_o, rfl⟩ := at_n
        simp only [Function.comp, completedBuffer, markOutput_index]
        exact rows.at_index at_o
      have first := position i e at_i
      have second := position j e' at_j
      omega

private theorem emptied_moves (s : System δ π) (session : Session δ) (message : String)
    (now : Int) (driver : session.driver = some d') (follows : L.Follows d d')
    (empty : session.inFlight = Tracker.empty) :
    Moves L d d' s (withResults s (flushResults message now s.session, session)) where
  driver := driver
  follows := follows
  grows := fun _ _ => id
  news := fun _ _ => Or.inl
  dequeued := fun _ => Or.inl
  marked := by
    intro f row output found
    simp only [withResults, empty] at found
    simp [Tracker.empty] at found
  prepared := by
    intro entry member
    rcases List.mem_append.mp member with before | here
    · exact Or.inl before
    · obtain ⟨result, flushed, rfl⟩ := List.mem_map.mp here
      obtain ⟨row, -, rfl⟩ := List.mem_map.mp flushed
      refine Or.inr (backed_of_failed fun listed reported => ?_)
      rw [completedBuffers_status reported]
      simp
  callbacks := fun _ => Or.inl
  returning := fun _ => Or.inl
  dispatched := fun _ => Or.inl
  credits := fun _ => Or.inl

private theorem unchanged_moves (A : Attributed L d s) :
    Moves L d d s (withResults s ([], s.session)) := by
  refine Moves.of_quiet A.driver (TokenLog.Follows.refl A.sound) rfl rfl (fun _ _ => id)
    (fun _ => id) ?_ (fun _ => id) (fun _ => id) (fun _ => id) (fun _ => id)
  simp [withResults]

/-- Stream callbacks give their lease back with descriptor, size and stream type as
they were. -/
def LeaseKept (s : System δ π) : Label → Prop
  | .streamCallback k lease => ∀ handler, s.callbacks[k]? = some handler →
      lease.bufferFd = handler.lease.bufferFd ∧ lease.bufferSize = handler.lease.bufferSize ∧
        lease.streamType = handler.lease.streamType
  | _ => True

private theorem callback_moves (A : Attributed L d s) {callbacks : Callbacks} {k : Nat}
    {lease : StreamBufferLease} (kept : LeaseKept s (.streamCallback k lease))
    (taken : streamCallbackStep callbacks k lease s = some t) : Moves L d d s t := by
  simp only [streamCallbackStep] at taken
  split at taken
  · cases taken
  rename_i handler at_handler
  cases taken
  obtain ⟨backed, own⟩ := A.callbacks handler (List.mem_of_getElem? at_handler)
  refine ⟨A.driver, TokenLog.Follows.refl A.sound, fun _ _ => id, fun _ _ => Or.inl,
    fun _ => Or.inl, fun f row output found member _ => Or.inl ⟨row, found, member, rfl⟩,
    fun _ => Or.inl, fun _ member => Or.inl (List.mem_of_mem_eraseIdx member), ?_, ?_,
    fun _ => Or.inl⟩
  · intro h member
    rcases List.mem_append.mp member with before | here
    · exact Or.inl before
    · right
      obtain rfl := List.mem_singleton.mp here
      split
      · exact (kept handler at_handler).1.trans own
      · exact own
  · intro entry member
    simp only at member
    split at member
    · rcases List.mem_append.mp member with before | here
      · exact Or.inl before
      · obtain rfl := List.mem_singleton.mp here
        exact Or.inr backed
    · exact Or.inl member

private theorem dispatch_moves (A : Attributed L d s) {callbacks : Callbacks} {k : Nat}
    (taken : dispatchStep callbacks k s = some t) : Moves L d d s t := by
  simp only [dispatchStep] at taken
  split at taken
  · cases taken
  rename_i n result at_result
  cases taken
  refine ⟨A.driver, TokenLog.Follows.refl A.sound, fun _ _ => id, fun _ _ => Or.inl,
    fun _ => Or.inl, fun f row output found member _ => Or.inl ⟨row, found, member, rfl⟩,
    fun _ member => Or.inl (List.mem_of_mem_eraseIdx member), fun _ => Or.inl, fun _ => Or.inl,
    fun entry member => ?_, fun _ => Or.inl⟩
  simp only at member
  split at member
  · rcases List.mem_append.mp member with before | here
    · exact Or.inl before
    · obtain rfl := List.mem_singleton.mp here
      exact Or.inr (A.prepared (n, result) (List.mem_of_getElem? at_result))
  · exact Or.inl member

theorem step_attributed {processors : List (Option (OutputProcessor π))} {callbacks : Callbacks}
    {a : Label} (A : Attributed L d s) (kept : LeaseKept s a)
    (taken : step D processors callbacks s a = some t) : ∃ d', Attributed L d' t := by
  have T := step_tracked D processors callbacks A.tracked taken
  suffices moves : ∃ d', Moves L d d' s t from moves.imp fun _ => A.advance T
  cases a with
  | configureStreams registered =>
    cases taken
    rcases configureStreams_cases D registered s.session with
      same | ⟨d₀, d', fds, state, driver, -, rfl, -, same⟩
    · simp only [same]
      exact ⟨d, Moves.of_session A.driver (TokenLog.Follows.refl A.sound) rfl⟩
    · obtain rfl := Option.some.inj (A.driver.symm.trans driver)
      simp only [same]
      exact ⟨_, Moves.of_session rfl (L.configures d A.sound) rfl⟩
  | startStreaming =>
    cases taken
    exact start_moves A
  | processRequest request =>
    simp only [step] at taken
    split at taken <;> cases taken
    exact ⟨d, Moves.of_session A.driver (TokenLog.Follows.refl A.sound) rfl⟩
  | post k accepted =>
    rcases postStep_outcome taken with ⟨-, rfl⟩ | ⟨request, -, -, rfl⟩ <;>
      exact ⟨d, Moves.of_session A.driver (TokenLog.Follows.refl A.sound) rfl⟩
  | runTask k now => exact runTask_moves A taken
  | dequeue readyFd =>
    cases taken
    rcases dequeueCompletion_cases D readyFd s.session with same | ⟨d₀, driver, -, same⟩
    · simp only [dequeueStep, same, Option.toList_none, List.append_nil]
      exact ⟨d, Moves.of_session A.driver (TokenLog.Follows.refl A.sound) rfl⟩
    · obtain rfl := Option.some.inj (A.driver.symm.trans driver)
      obtain ⟨follows, finished⟩ := L.dequeues d readyFd A.sound
      simp only [dequeueStep, same]
      refine ⟨_, rfl, follows, fun _ _ => id, fun _ _ => Or.inl, fun completion member => ?_,
        fun f row output found member _ => Or.inl ⟨row, found, member, rfl⟩, fun _ => Or.inl,
        fun _ => Or.inl, fun _ => Or.inl, fun _ => Or.inl, fun _ => Or.inl⟩
      rcases List.mem_append.mp member with before | here
      · exact Or.inl before
      · exact Or.inr (finished completion (Option.mem_toList.mp here))
  | process k now => exact ⟨d, process_moves A taken⟩
  | dispatch k => exact ⟨d, dispatch_moves A taken⟩
  | streamCallback k lease => exact ⟨d, callback_moves A kept taken⟩
  | returnStream k => exact return_moves A taken
  | flush now =>
    cases taken
    by_cases active : s.session.state = .streaming ∨ s.session.state = .configured
    · rw [flush_active D now active]
      refine ⟨_, emptied_moves s _ _ now ?_ (L.stops d A.sound) rfl⟩
      simp [A.driver]
    · rw [flush_inactive D now active]
      exact ⟨d, unchanged_moves A⟩
  | close now =>
    cases taken
    by_cases stopped : s.session.state = .stopped
    · rw [close_stopped D now stopped]
      exact ⟨d, unchanged_moves A⟩
    · rw [close_open D now stopped]
      have follows := L.stops d A.sound
      refine ⟨_, emptied_moves s _ _ now ?_ (follows.trans (L.closes _ follows.sound)) rfl⟩
      simp [A.driver]

theorem initial_attributed (config : CameraDeviceSessionConfig) (p : π) (sound : L.sound d) :
    Attributed L d (System.initial config (some d) p : System δ π) where
  tracked := initial_tracked config (some d) p
  driver := rfl
  sound := sound
  bound := fun τ b found => by cases found
  dequeued := fun completion member => by cases member
  marked := fun f row output found => by
    simp [System.initial, Session.create, Tracker.empty] at found
  prepared := fun entry member => by cases member
  callbacks := fun handler member => by cases member
  returning := fun handler member => by cases member
  dispatched := fun entry member => by cases member
  credits := fun credit member => by cases member

theorem reachable_attributed {processors : List (Option (OutputProcessor π))}
    {callbacks : Callbacks} {config : CameraDeviceSessionConfig} {p : π} (sound : L.sound d)
    (run : Reaches (step D processors callbacks) LeaseKept
      (System.initial config (some d) p) s) : ∃ d', Attributed L d' s :=
  run.invariant (fun s => ∃ d', Attributed L d' s)
    (fun _ _ _ known kept taken => known.elim fun _ A => step_attributed A kept taken)
    ⟨d, initial_attributed config p sound⟩

end Steps

end MiniCam.Hal.Provenance
