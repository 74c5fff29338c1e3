/- Module: MiniCam/V4L2/BufferOwnership
   source: hal/camera_device_session.cpp, hal/v4l2_driver_adapter.cpp, hal/driver_adapter.h
   digest: When the buffers of a result are out of the driver at the moment the result
     is prepared, and the submission that leaves one behind. -/

import MiniCam.Hal.ResultIdentity
import MiniCam.V4L2.SlotBacking

set_option autoImplicit false
set_option relaxedAutoImplicit false

namespace MiniCam.V4L2.BufferOwnership

open MiniCam.Foundation.KeyedTable
open MiniCam.Foundation.Runs (Reaches always exists_reaches_of_replay)
open MiniCam.Hal.Interface
open MiniCam.Hal.InFlightRequestTracker
open MiniCam.Hal.CameraDeviceSession
open MiniCam.Hal.TrackerInvariant
open MiniCam.Hal.SessionSpec
open MiniCam.Hal.SessionSystem
open MiniCam.Hal.TokenBijection
open MiniCam.Hal.ResultIdentity (Named step_named reachable_named reachable_once)
open MiniCam.V4L2.VideoNodes
open MiniCam.V4L2.DriverAdapter
open MiniCam.V4L2.SlotMirror
open MiniCam.V4L2.SlotBacking

variable {π : Type}

def queue (d : SingleDriver) : List QueuedBuffer := d.world.kernel.queues d.adapter.node

def nextToken (d : SingleDriver) : Nat := counter d.adapter d.world

/-- The token was issued while the request was being submitted. -/
def Handed (s : System SingleDriver π) (n : Nat) (τ : Nat) : Prop :=
  ∃ d d', (n, some d, some d') ∈ s.submissions ∧ nextToken d ≤ τ ∧ τ < nextToken d'

def preparedBy (s t : System SingleDriver π) : List (Nat × CaptureResult) :=
  t.prepared.drop s.prepared.length

/-- A result that lists buffers is prepared only when the node holds no buffer from the
submission of the request it answers, nor of another one under its frame number. -/
def Released (s t : System SingleDriver π) : Prop :=
  ∀ d, t.session.driver = some d → ∀ entry ∈ preparedBy s t,
    entry.2.completedOutputBuffers ≠ [] → ∀ n, (n = entry.1 ∨ ∃ request,
      t.accepted[n]? = some request ∧ request.frameNumber = entry.2.frameNumber) →
        ∀ b ∈ queue d, ¬ Handed t n b.token

def answerTo (d : SingleDriver) (k : Nat) : SubmissionAnswer :=
  d.world.kernel.answers.submission (d.world.kernel.submissions + k)

/-- The submission of the outputs is refused by the preflight, or stops at the first
output with nothing queued, or does not stop. -/
def AllOrNothing (d : SingleDriver) (outputs : List OutputBufferTarget) : Prop :=
  d.adapter.canSubmitCaptureOutputs outputs = false ∨
    (∃ target, outputs[0]? = some target ∧
      (¬ FencePasses target.acquireFenceFd (answerTo d 0) ∨ (answerTo d 0).qbuf ≠ none)) ∨
    ((∀ (k : Nat) (target : OutputBufferTarget), outputs[k]? = some target →
        FencePasses target.acquireFenceFd (answerTo d k) ∧ (answerTo d k).qbuf = none) ∧
      (d.adapter.deviceStreaming = true ∨ (answerTo d 0).streamOn = none))

/-- An accepting session is given only requests whose frame number is not in flight and
whose submission is all or nothing. -/
def NoPartialSubmission (s : System SingleDriver π) : Label → Prop
  | .runTask k _ => ∀ n request d, s.tasks[k]? = some (n, request) → s.session.driver = some d →
      s.session.state = .streaming → request.frameNumber ∉ s.session.inFlight.requests ∧
        AllOrNothing d (requestOutputsFor request)
  | _ => True

section Submission

variable {d d' : SingleDriver} {t t' : Tracker} {frameNumber : Nat}
  {pairs : List (OutputBufferTarget × InFlightOutput)}

theorem single_submitCapture {target : OutputBufferTarget} {answer : Option DriverToken}
    {a : V4L2Adapter} {w : World}
    (queued : V4L2Adapter.queueCaptureBuffer target.bufferFd target.acquireFenceFd
      target.bufferSize d.adapter d.world = (answer, a, w)) :
    single.submitCapture target d = (answer, ⟨a, w⟩) := by
  simp only [single, V4L2Adapter.submitCapture, queued]
  rfl

theorem submitOutputs_keeps (S : Sound d.adapter d.world) {ok : Bool}
    (run : submitOutputs single frameNumber pairs d t = (ok, d', t')) :
    Advance d.adapter d.world d'.adapter d'.world ∧
      d'.adapter.continuousStreaming = d.adapter.continuousStreaming ∧
      (d.adapter.deviceStreaming = true → d'.adapter.deviceStreaming = true) ∧
      (Shut d.adapter d.world.kernel → Shut d'.adapter d'.world.kernel) ∧
      ∀ τ c, t'.driverOutputs.lookup τ = some c →
        t.driverOutputs.lookup τ = some c ∨ τ < nextToken d' := by
  induction pairs generalizing d t with
  | nil =>
    cases run
    exact ⟨Advance.refl S, rfl, id, id, fun _ _ => Or.inl⟩
  | cons pair rest ih =>
    obtain ⟨target, output⟩ := pair
    cases submitted : V4L2Adapter.queueCaptureBuffer target.bufferFd target.acquireFenceFd
      target.bufferSize d.adapter d.world with
    | mk answer out =>
      obtain ⟨a, w⟩ := out
      have attempted := queueCaptureBuffer_attempted submitted
      obtain ⟨advance, issued⟩ := queueCaptureBuffer_advance S submitted
      simp only [submitOutputs, single_submitCapture submitted] at run
      split at run
      · rename_i stopped
        cases stopped
        cases run
        exact ⟨advance, attempted.continuous, attempted.device, attempted.shut, fun _ _ => Or.inl⟩
      · rename_i token d₁ queued
        cases queued
        simp only [Tracker.bindDriverOutput] at run
        split at run
        · rename_i refused
          cases run
          split at refused <;> cases refused
          exact ⟨advance, attempted.continuous, attempted.device, attempted.shut,
            fun _ _ => Or.inl⟩
        · rename_i bound
          split at bound <;> cases bound
          obtain ⟨later, continuous, device, shut, fresh⟩ := ih advance.sound run
          refine ⟨advance.trans later, continuous.trans attempted.continuous,
            fun running => device (attempted.device running), fun S => shut (attempted.shut S),
            fun τ c found => ?_⟩
          rcases fresh τ c found with here | below
          · rcases lookup_insert_eq_some.mp here with ⟨rfl, -⟩ | ⟨-, before⟩
            · exact Or.inr (Nat.lt_of_lt_of_le (issued _ rfl).upper later.counter)
            · exact Or.inl before
          · exact Or.inr below

theorem submitOutputs_bound
    (run : submitOutputs single frameNumber pairs d t = (true, d', t')) :
    (∀ τ c, t.driverOutputs.lookup τ = some c → t'.driverOutputs.lookup τ = some c) ∧
      ∀ b ∈ queue d', b ∈ queue d ∨ ∃ pair ∈ pairs, t'.driverOutputs.lookup b.token =
        some { frameNumber := frameNumber, outputIndex := pair.2.outputIndex } := by
  induction pairs generalizing d t with
  | nil =>
    cases run
    exact ⟨fun _ _ => id, fun _ => Or.inl⟩
  | cons pair rest ih =>
    obtain ⟨target, output⟩ := pair
    cases submitted : V4L2Adapter.queueCaptureBuffer target.bufferFd target.acquireFenceFd
      target.bufferSize d.adapter d.world with
    | mk answer out =>
      obtain ⟨a, w⟩ := out
      have attempted := queueCaptureBuffer_attempted submitted
      simp only [submitOutputs, single_submitCapture submitted] at run
      cases answer with
      | none => cases run
      | some token =>
        simp only [Tracker.bindDriverOutput] at run
        split at run
        · rename_i refused
          cases run
        · rename_i bound
          split at bound <;> cases bound
          rename_i usable
          push Not at usable
          obtain ⟨kept, added⟩ := ih run
          have old : ∀ τ c, t.driverOutputs.lookup τ = some c →
              t'.driverOutputs.lookup τ = some c := by
            intro τ c found
            refine kept τ c (lookup_insert_eq_some.mpr (Or.inr ⟨?_, found⟩))
            rintro rfl
            exact usable.2 (mem_of_lookup found)
          refine ⟨old, fun b member => ?_⟩
          rcases added b member with earlier | ⟨named, inside, found⟩
          · have here : b ∈ w.kernel.queues d.adapter.node := attempted.node ▸ earlier
            rcases attempted.adds token rfl b here with before | same
            · exact Or.inl before
            · refine Or.inr ⟨_, List.mem_cons_self, ?_⟩
              rw [same]
              exact kept _ _ (AList.lookup_insert _)
          · exact Or.inr ⟨named, List.mem_cons_of_mem _ inside, found⟩

theorem submitOutputs_succeeds (sound : Sound d.adapter d.world)
    (S : Settled d.adapter d.world.kernel)
    (can : d.adapter.canSubmitCaptureOutputs (pairs.map Prod.fst) = true)
    (positive : 0 < nextToken d)
    (fresh : ∀ τ c, t.driverOutputs.lookup τ = some c → τ < nextToken d)
    (passes : ∀ (k : Nat) (target : OutputBufferTarget), (pairs.map Prod.fst)[k]? = some target →
      FencePasses target.acquireFenceFd (answerTo d k) ∧ (answerTo d k).qbuf = none)
    (starts : d.adapter.deviceStreaming = true ∨ (answerTo d 0).streamOn = none) :
    ∃ d' t', submitOutputs single frameNumber pairs d t = (true, d', t') ∧
      Settled d'.adapter d'.world.kernel := by
  induction pairs generalizing d t with
  | nil => exact ⟨d, t, rfl, S⟩
  | cons pair rest ih =>
    obtain ⟨target, output⟩ := pair
    obtain ⟨room, streaming, opened, buffers⟩ := canSubmitCaptureOutputs_iff.mp can
    simp only [List.map_cons, List.length_cons] at room
    obtain ⟨valid, fits⟩ := buffers target List.mem_cons_self
    obtain ⟨waits, taken⟩ := passes 0 target rfl
    obtain ⟨a, w, queued, free, count⟩ := queueCaptureBuffer_succeeds S
      ⟨streaming, opened, valid, fits⟩ (by omega) waits taken starts
    have attempted := queueCaptureBuffer_attempted queued
    obtain ⟨advance, issued⟩ := queueCaptureBuffer_advance sound queued
    have issue := issued _ rfl
    have submitted : single.submitCapture target d = (some (nextToken d), ⟨a, w⟩) :=
      single_submitCapture queued
    have unbound : nextToken d ∉ t.driverOutputs := by
      intro member
      obtain ⟨c, found⟩ := Option.isSome_iff_exists.mp (AList.lookup_isSome.mpr member)
      exact Nat.lt_irrefl _ (fresh _ c found)
    have bound : t.bindDriverOutput (nextToken d)
        { frameNumber := frameNumber, outputIndex := output.outputIndex } =
          (true, { t with
            driverOutputs := t.driverOutputs.insert (nextToken d)
              { frameNumber := frameNumber, outputIndex := output.outputIndex } }) := by
      rw [Tracker.bindDriverOutput, if_neg]
      rintro (zero | member)
      · exact Nat.ne_of_gt positive zero
      · exact unbound member
    simp only [submitOutputs, submitted, bound]
    apply ih advance.sound (attempted.settled S (Or.inr (by simp)))
    · refine canSubmitCaptureOutputs_iff.mpr ⟨?_, ?_, ?_, fun o member => ?_⟩
      · simp only
        omega
      · exact attempted.streaming.trans streaming
      · exact attempted.fd ▸ opened
      · rw [attempted.bufferSize]
        exact buffers o (List.mem_cons_of_mem _ member)
    · exact Nat.lt_of_lt_of_le positive advance.counter
    · intro τ c found
      rcases lookup_insert_eq_some.mp found with ⟨rfl, -⟩ | ⟨-, before⟩
      · exact issue.upper
      · exact Nat.lt_of_lt_of_le (fresh τ c before) advance.counter
    · intro k target' found
      have later := passes (k + 1) target' found
      have same : answerTo ⟨a, w⟩ k = answerTo d (k + 1) := by
        simp only [answerTo, advance.answers, count]
        congr 1
        omega
      rw [same]
      exact later
    · exact Or.inl (attempted.started _ rfl)

theorem submitOutputs_blocked {target : OutputBufferTarget}
    (first : (pairs.map Prod.fst)[0]? = some target)
    (blocked : ¬ FencePasses target.acquireFenceFd (answerTo d 0) ∨ (answerTo d 0).qbuf ≠ none)
    {ok : Bool} (run : submitOutputs single frameNumber pairs d t = (ok, d', t')) :
    ok = false ∧ queue d' = queue d ∧ Attempted d.adapter d.world none d'.adapter d'.world ∧
      d'.world.kernel.queues = d.world.kernel.queues := by
  cases pairs with
  | nil => cases first
  | cons pair rest =>
    obtain ⟨target', output⟩ := pair
    cases first
    cases submitted : V4L2Adapter.queueCaptureBuffer target'.bufferFd target'.acquireFenceFd
      target'.bufferSize d.adapter d.world with
    | mk answer out =>
      obtain ⟨a, w⟩ := out
      obtain ⟨rfl, queues, -⟩ := queueCaptureBuffer_blocked blocked submitted
      have attempted := queueCaptureBuffer_attempted submitted
      simp only [submitOutputs, single_submitCapture submitted] at run
      cases run
      refine ⟨rfl, ?_, attempted, queues⟩
      simp only [queue, queues, attempted.node]

end Submission

section Invariant

/-- Every buffer that the node holds from a request's submission is bound to an output
of that request, and no dequeued token is held. -/
structure Owned (d : SingleDriver) (s : System SingleDriver π) : Prop where
  tracked : Tracked s
  driver : s.session.driver = some d
  sound : Sound d.adapter d.world
  off : ∀ n, d.world.kernel.answers.streamOff n = true
  positive : 0 < nextToken d
  shut : Shut d.adapter d.world.kernel
  settled : s.session.state ≠ .error → Settled d.adapter d.world.kernel
  device : s.session.state = .streaming → d.adapter.continuousStreaming = true →
    d.adapter.deviceStreaming = true
  idle : s.session.state = .created ∨ s.session.state = .configured →
    d.adapter.continuousStreaming = false
  fresh : ∀ τ c, s.session.inFlight.driverOutputs.lookup τ = some c → τ < nextToken d
  spans : ∀ n d₁ d₂, (n, some d₁, some d₂) ∈ s.submissions → nextToken d₂ ≤ nextToken d
  dequeued : ∀ completion ∈ s.dequeued, completion.token < nextToken d ∧
    ∀ b ∈ queue d, b.token ≠ completion.token
  held : ∀ b ∈ queue d, ∀ n, Handed s n b.token → ∃ request c, s.accepted[n]? = some request ∧
    s.session.inFlight.driverOutputs.lookup b.token = some c ∧ 0 ≤ c.outputIndex ∧
      c.frameNumber = request.frameNumber

variable {d d' : SingleDriver} {s t : System SingleDriver π}

structure Progress (d d' : SingleDriver) (t : System SingleDriver π) : Prop where
  driver : t.session.driver = some d'
  advance : Advance d.adapter d.world d'.adapter d'.world
  shut : Shut d'.adapter d'.world.kernel
  settled : t.session.state ≠ .error → Settled d'.adapter d'.world.kernel
  device : t.session.state = .streaming → d'.adapter.continuousStreaming = true →
    d'.adapter.deviceStreaming = true
  idle : t.session.state = .created ∨ t.session.state = .configured →
    d'.adapter.continuousStreaming = false

theorem Owned.advance (O : Owned d s) (T : Tracked t) (P : Progress d d' t)
    (fresh : ∀ τ c, t.session.inFlight.driverOutputs.lookup τ = some c →
      s.session.inFlight.driverOutputs.lookup τ = some c ∨ τ < nextToken d')
    (kept : ∀ b ∈ queue d, b ∈ queue d' → ∀ c,
      s.session.inFlight.driverOutputs.lookup b.token = some c → 0 ≤ c.outputIndex →
        t.session.inFlight.driverOutputs.lookup b.token = some c)
    (accepted : s.accepted <+: t.accepted)
    (dequeued : ∀ completion ∈ t.dequeued, completion ∈ s.dequeued ∨
      (completion.token < nextToken d' ∧ ∀ b ∈ queue d', b.token ≠ completion.token))
    {more : List (Nat × Option SingleDriver × Option SingleDriver)}
    (submissions : t.submissions = s.submissions ++ more)
    (bounded : ∀ n d₁ d₂, (n, some d₁, some d₂) ∈ more → nextToken d₂ ≤ nextToken d')
    (news : ∀ b ∈ queue d', ∀ n d₁ d₂, (n, some d₁, some d₂) ∈ more → nextToken d₁ ≤ b.token →
      b.token < nextToken d₂ → ∃ request c, t.accepted[n]? = some request ∧
        t.session.inFlight.driverOutputs.lookup b.token = some c ∧ 0 ≤ c.outputIndex ∧
          c.frameNumber = request.frameNumber) : Owned d' t where
  tracked := T
  driver := P.driver
  sound := P.advance.sound
  off := fun n => by rw [P.advance.answers]; exact O.off n
  positive := Nat.lt_of_lt_of_le O.positive P.advance.counter
  shut := P.shut
  settled := P.settled
  device := P.device
  idle := P.idle
  fresh := fun τ c found => (fresh τ c found).elim
    (fun before => Nat.lt_of_lt_of_le (O.fresh τ c before) P.advance.counter) id
  spans := by
    intro n d₁ d₂ member
    rw [submissions] at member
    rcases List.mem_append.mp member with before | here
    · exact Nat.le_trans (O.spans n d₁ d₂ before) P.advance.counter
    · exact bounded n d₁ d₂ here
  dequeued := by
    intro completion member
    rcases dequeued completion member with before | fresh
    · obtain ⟨below, apart⟩ := O.dequeued completion before
      refine ⟨Nat.lt_of_lt_of_le below P.advance.counter, fun b inside => ?_⟩
      rcases P.advance.queue b (P.advance.node ▸ inside) with old | new
      · exact apart b old
      · intro same
        exact Nat.lt_irrefl _ (Nat.lt_of_lt_of_le below (same ▸ new))
    · exact fresh
  held := by
    rintro b inside n ⟨d₁, d₂, member, lower, upper⟩
    rw [submissions] at member
    rcases List.mem_append.mp member with before | here
    · have below : b.token < nextToken d := Nat.lt_of_lt_of_le upper (O.spans n d₁ d₂ before)
      have old : b ∈ queue d := (P.advance.queue b (P.advance.node ▸ inside)).resolve_right
        (Nat.not_le.mpr below)
      obtain ⟨request, c, found, bound, index, frame⟩ :=
        O.held b old n ⟨d₁, d₂, before, lower, upper⟩
      obtain ⟨later, grown⟩ := accepted
      refine ⟨request, c, ?_, kept b old inside c bound index, index, frame⟩
      rw [← grown, List.getElem?_append_left (List.getElem?_eq_some_iff.mp found).1]
      exact found
    · exact news b inside n d₁ d₂ here lower upper

theorem Owned.quiet (O : Owned d s) (T : Tracked t) (P : Progress d d' t)
    (fresh : ∀ τ c, t.session.inFlight.driverOutputs.lookup τ = some c →
      s.session.inFlight.driverOutputs.lookup τ = some c ∨ τ < nextToken d')
    (kept : ∀ b ∈ queue d, b ∈ queue d' → ∀ c,
      s.session.inFlight.driverOutputs.lookup b.token = some c → 0 ≤ c.outputIndex →
        t.session.inFlight.driverOutputs.lookup b.token = some c)
    (accepted : s.accepted <+: t.accepted)
    (dequeued : ∀ completion ∈ t.dequeued, completion ∈ s.dequeued ∨
      (completion.token < nextToken d' ∧ ∀ b ∈ queue d', b.token ≠ completion.token))
    (submissions : t.submissions = s.submissions) : Owned d' t :=
  O.advance T P fresh kept accepted dequeued (submissions.trans (List.append_nil _).symm)
    (fun _ _ _ member => by cases member) fun _ _ _ _ _ member => by cases member

theorem Owned.progress (O : Owned d s) (driver : t.session.driver = some d)
    (state : t.session.state = s.session.state) : Progress d d t where
  driver := driver
  advance := Advance.refl O.sound
  shut := O.shut
  settled := state ▸ O.settled
  device := state ▸ O.device
  idle := state ▸ O.idle

theorem Owned.same (O : Owned d s) (T : Tracked t) (session : t.session = s.session)
    (accepted : s.accepted <+: t.accepted) (dequeued : t.dequeued ⊆ s.dequeued)
    (submissions : t.submissions = s.submissions) : Owned d t := by
  refine O.quiet T (O.progress (session ▸ O.driver) (by rw [session])) (fun _ _ found => Or.inl ?_)
    (fun _ _ _ _ found _ => ?_) accepted (fun _ member => Or.inl (dequeued member)) submissions
  · rwa [session] at found
  · rwa [session]

end Invariant

section Steps

variable {d : SingleDriver} {s t : System SingleDriver π}

private theorem configure_owned (O : Owned d s) (registered : Bool)
    (T : Tracked { s with session := (configureStreams single registered s.session).2 }) :
    ∃ d', Owned d' { s with session := (configureStreams single registered s.session).2 } := by
  rcases configureStreams_cases single registered s.session with
    same | ⟨d₀, d', fds, state, driver, created, rfl, became, same⟩
  · exact ⟨d, O.same T same (List.prefix_refl _) (fun _ => id) rfl⟩
  · obtain rfl := Option.some.inj (O.driver.symm.trans driver)
    obtain ⟨shut, settled, continuous⟩ := configureStream_settled O.shut
      (O.settled (by rw [created]; simp)) rfl
    rw [same] at T ⊢
    refine ⟨_, O.quiet T ⟨rfl, configureStream_advance O.sound rfl, shut, fun _ => settled, ?_, ?_⟩
      (fun _ _ => Or.inl) (fun _ _ _ _ found _ => found) (List.prefix_refl _) (fun _ => Or.inl) rfl⟩
    · intro streaming
      rcases became with rfl | rfl <;> cases streaming
    · intro _
      refine Bool.eq_false_iff.mpr fun active => ?_
      have before := continuous active
      rw [O.idle (Or.inl created)] at before
      cases before

theorem issued_below {tokens : List DriverToken} {buffers : List OutputBufferTarget}
    {a a' : V4L2Adapter} {w w' : World}
    (all : List.Forall₂ (fun τ buffer => Issued a w a' w' buffer.bufferFd τ) tokens buffers) :
    ∀ τ ∈ tokens, τ < counter a' w' := by
  induction all with
  | nil => exact fun _ member => by cases member
  | cons first _ ih =>
    intro τ member
    rcases List.mem_cons.mp member with rfl | later
    · exact first.upper
    · exact ih τ later

private theorem preview_progress (O : Owned d s) (configured : s.session.state = .configured)
    {r : Option (List DriverToken)} {d' : SingleDriver}
    (given : previewSubmissions single s.session d = (r, d')) :
    Advance d.adapter d.world d'.adapter d'.world ∧ Shut d'.adapter d'.world.kernel ∧
      ∀ tokens, r = some tokens → Settled d'.adapter d'.world.kernel ∧
        (∀ τ ∈ tokens, τ < nextToken d') ∧
        (tokens ≠ [] → s.session.config.continuousPreviewBuffers ≠ [] →
          d'.adapter.deviceStreaming = true) := by
  obtain ⟨shut, settled, -⟩ := startStreaming_settled O.shut
    (O.settled (by rw [configured]; simp))
  have started := startStreaming_advance O.sound
  simp only [previewSubmissions] at given
  split at given
  · cases given
    refine ⟨started, shut, fun tokens same => ?_⟩
    cases same
    exact ⟨settled, (by intros; contradiction), fun nonempty => (nonempty rfl).elim⟩
  · cases run : V4L2Adapter.startContinuousStream s.session.config.continuousPreviewBuffers
      d.adapter.startStreaming.2 d.world with
    | mk answer out =>
      obtain ⟨a, w⟩ := out
      simp only [single, run] at given
      cases given
      obtain ⟨advance, tokens⟩ := startContinuousStream_advance started.sound run
      obtain ⟨later, done⟩ := startContinuousStream_settled shut settled run
      refine ⟨started.trans advance, later, fun list same => ?_⟩
      obtain ⟨backed, device⟩ := done (by rw [show answer = some list from same]; simp)
      exact ⟨backed, issued_below (tokens list same), fun _ nonempty => device nonempty⟩

private theorem start_owned (O : Owned d s) (T : Tracked (startStep single s)) :
    ∃ d', Owned d' (startStep single s) := by
  rcases startStreaming_cases single s.session with
    same | ⟨d₀, d', next, state, driver, configured, became, -, ⟨same, reached⟩ | ⟨submissions,
      given, nonempty, length, -, same⟩⟩
  · exact ⟨d, O.same T same (List.prefix_refl _) (fun _ => id) rfl⟩
  · obtain rfl := Option.some.inj (O.driver.symm.trans driver)
    obtain ⟨shut, settled, continuous⟩ := startStreaming_settled O.shut
      (O.settled (by rw [configured]; simp))
    have still : d.adapter.startStreaming.2.continuousStreaming = false :=
      continuous.trans (O.idle (Or.inr configured))
    have P : Progress d d' (startStep single s) := by
      simp only [startStep, same]
      rcases reached with rfl | ⟨rfl, rfl⟩
      · refine ⟨rfl, startStreaming_advance O.sound, shut, fun _ => settled, fun _ active => ?_,
          fun _ => still⟩
        have active : d.adapter.startStreaming.2.continuousStreaming = true := active
        rw [still] at active
        cases active
      · obtain ⟨advance, later, -⟩ := preview_progress O configured rfl
        refine ⟨rfl, advance, later, fun running => (running rfl).elim,
          (by intros; contradiction), ?_⟩
        rintro (created | configured) <;> contradiction
    refine ⟨d', O.quiet T P ?_ ?_ (List.prefix_refl _) (fun _ => Or.inl) rfl⟩
    · simp only [startStep, same]
      exact fun _ _ => Or.inl
    · simp only [startStep, same]
      exact fun _ _ _ _ found _ => found
  · obtain rfl := Option.some.inj (O.driver.symm.trans driver)
    obtain ⟨advance, shut, done⟩ := preview_progress O configured given
    obtain ⟨settled, below, device⟩ := done submissions rfl
    have some_tokens : submissions ≠ [] := by
      rintro rfl
      exact nonempty (List.length_eq_zero_iff.mp length.symm)
    have P : Progress d d' (startStep single s) := by
      simp only [startStep, same]
      refine ⟨rfl, advance, shut, fun _ => settled, fun _ _ => device some_tokens nonempty, ?_⟩
      rcases became with rfl | rfl <;> rintro (created | configured) <;> contradiction
    refine ⟨d', O.quiet T P ?_ ?_ (List.prefix_refl _) (fun _ => Or.inl) rfl⟩
    · simp only [startStep, same]
      intro τ c found
      rcases (bindStreamingOutputs_adds _ s.session.inFlight).2.2.2 τ c found with
        before | ⟨-, -, output, member, -, -⟩
      · exact Or.inl before
      · exact Or.inr (below τ (List.of_mem_zip member).1)
    · simp only [startStep, same]
      exact fun b _ _ c found _ =>
        (bindStreamingOutputs_adds _ s.session.inFlight).2.2.1 b.token c found

private theorem return_owned (O : Owned d s) {k : Nat} (taken : returnStep single k s = some t)
    (T : Tracked t) : ∃ d', Owned d' t := by
  simp only [returnStep] at taken
  split at taken
  · cases taken
  rename_i handler at_handler
  cases taken
  rcases returnStreamBuffer_cases single handler.lease handler.output s.session with
    same | ⟨d₀, d', metrics, driver, streaming, outcome⟩
  · exact ⟨d, O.same T same (List.prefix_refl _) (fun _ => id) rfl⟩
  obtain rfl := Option.some.inj (O.driver.symm.trans driver)
  have facts : ∀ answer, single.returnStreamBuffer handler.lease d = (answer, d') →
      Advance d.adapter d.world d'.adapter d'.world ∧ Shut d'.adapter d'.world.kernel ∧
      Settled d'.adapter d'.world.kernel ∧
      (d'.adapter.continuousStreaming = true → d'.adapter.deviceStreaming = true) ∧
      ∀ τ, answer = some τ → τ = 0 ∨ τ < nextToken d' := by
    intro answer returned
    cases run : d.adapter.returnStreamBuffer handler.lease d.world with
    | mk r out =>
      obtain ⟨a, w⟩ := out
      simp only [single, run] at returned
      cases returned
      obtain ⟨advance, issued⟩ := returnStreamBuffer_advance O.sound run
      obtain ⟨shut, settled, device⟩ := returnStreamBuffer_settled O.shut
        (O.settled (by rw [streaming]; simp)) (O.device streaming) run
      exact ⟨advance, shut, settled, device, fun τ given =>
        (issued τ given).imp_right fun issue => issue.upper⟩
  rcases outcome with ⟨refused, same⟩ | ⟨token, returned, same⟩
  · obtain ⟨advance, shut, settled, device, -⟩ := facts none refused
    refine ⟨d', O.quiet T ⟨by simp only [same], advance, shut, fun _ => settled, fun _ => device,
      ?_⟩ ?_ ?_ (List.prefix_refl _) (fun _ => Or.inl) rfl⟩
    · simp only [same, streaming]
      rintro (created | configured) <;> contradiction
    · simp only [same]
      exact fun _ _ => Or.inl
    · simp only [same]
      exact fun _ _ _ _ found _ => found
  · obtain ⟨advance, shut, settled, device, below⟩ := facts (some token) returned
    refine ⟨d', O.quiet T ⟨by simp only [same], advance, shut, fun _ => settled, fun _ => device,
      ?_⟩ ?_ ?_ (List.prefix_refl _) (fun _ => Or.inl) rfl⟩
    · simp only [same, streaming]
      rintro (created | configured) <;> contradiction
    · simp only [same]
      intro τ c found
      rcases (bindStreamingOutputs_adds _ s.session.inFlight).2.2.2 τ c found with
        before | ⟨-, nonzero, output, member, -, -⟩
      · exact Or.inl before
      · obtain ⟨rfl, -⟩ := Prod.mk.inj (List.mem_singleton.mp member)
        exact Or.inr ((below τ rfl).resolve_left nonzero)
    · simp only [same]
      exact fun b _ _ c found _ =>
        (bindStreamingOutputs_adds _ s.session.inFlight).2.2.1 b.token c found

private theorem ended_owned (O : Owned d s) (T : Tracked t) {d' : SingleDriver}
    (P : Progress d d' t)
    (tables : t.session.inFlight = s.session.inFlight ∨
      ∃ frameNumber, frameNumber ∉ s.session.inFlight.requests ∧
        t.session.inFlight = dropFrame s.session.inFlight frameNumber)
    (accepted : t.accepted = s.accepted) (dequeued : t.dequeued = s.dequeued) (id : Nat)
    (submissions : t.submissions = s.submissions ++ [(id, some d, some d')])
    (same : queue d' = queue d) : Owned d' t := by
  refine O.advance T P ?_ ?_ (accepted ▸ List.prefix_refl _)
    (fun _ member => Or.inl (dequeued ▸ member)) submissions ?_ ?_
  · intro τ c found
    rcases tables with kept | ⟨frameNumber, -, dropped⟩
    · exact Or.inl (kept ▸ found)
    · rw [dropped] at found
      exact Or.inl (lookup_dropFrame_tokens.mp found).1
  · intro b _ _ c found index
    rcases tables with kept | ⟨frameNumber, absent, dropped⟩
    · rwa [kept]
    · rw [dropped, lookup_dropFrame_tokens]
      refine ⟨found, ?_⟩
      obtain ⟨row, live, -⟩ := O.tracked.consistent.named b.token c found index
      rintro rfl
      exact absent (mem_of_lookup live)
  · intro n d₁ d₂ member
    cases List.mem_singleton.mp member
    exact Nat.le_refl _
  · intro b member n d₁ d₂ here lower upper
    cases List.mem_singleton.mp here
    rw [same] at member
    exact (Nat.lt_irrefl _ (Nat.lt_of_lt_of_le (O.sound.recorded.token_below member) lower)).elim

private theorem stopped_nothing (O : Owned d s) (streaming : s.session.state = .streaming)
    {request : CaptureRequest} (whole : AllOrNothing d (requestOutputsFor request))
    (can : d.adapter.canSubmitCaptureOutputs (requestOutputsFor request) = true) {u u' : Tracker}
    (before : u.driverOutputs = s.session.inFlight.driverOutputs) {ok : Bool} {d' : SingleDriver}
    (run : submitOutputs single request.frameNumber (requestPairs request) d u = (ok, d', u')) :
    Settled d'.adapter d'.world.kernel ∧ (ok = false → queue d' = queue d) := by
  have settled := O.settled (by rw [streaming]; simp)
  rw [← requestPairs_outputs] at whole can
  rcases whole with refused | ⟨target, first, blocked⟩ | ⟨passes, starts⟩
  · rw [can] at refused
    cases refused
  · obtain ⟨-, same, attempted, queues⟩ := submitOutputs_blocked first blocked run
    exact ⟨attempted.settled_of_same settled queues, fun _ => same⟩
  · obtain ⟨d₁, u₁, done, settled⟩ := submitOutputs_succeeds O.sound settled can O.positive
      (before ▸ O.fresh) passes starts
    cases run.symm.trans done
    exact ⟨settled, (by intros; contradiction)⟩

private theorem runTask_owned (O : Owned d s) (N : Named s) {k : Nat} {now : Int}
    (permitted : NoPartialSubmission s (.runTask k now))
    (taken : runTaskStep single k now s = some t) (T : Tracked t) : ∃ d', Owned d' t := by
  obtain ⟨id, request, at_task, ended⟩ := runTaskStep_outcome single taken
  have whole := permitted id request d at_task O.driver
  rcases ended with ⟨result, session, outcome, rfl⟩ | ⟨session, outcome, rfl⟩
  · cases outcome with
    | rejected closed =>
      exact ⟨d, ended_owned O T (O.progress O.driver rfl) (Or.inl rfl) rfl rfl id
        (by simp only [O.driver]) rfl⟩
    | @refused d₀ d' driver streaming answer message =>
      obtain rfl := Option.some.inj (O.driver.symm.trans driver)
      obtain ⟨absent, -⟩ := whole streaming
      cases (Prod.mk.inj answer).2
      exact ⟨d, ended_owned O T (O.progress rfl rfl) (Or.inr ⟨_, absent, rfl⟩) rfl rfl id
        (by simp only [O.driver]) rfl⟩
    | @duplicate d₀ d' row driver streaming answer live =>
      exact ((whole streaming).1 (mem_of_lookup live)).elim
    | @failed d₀ d' d'' u u' driver streaming answer absent before stopped =>
      obtain rfl := Option.some.inj (O.driver.symm.trans driver)
      obtain ⟨can, rfl⟩ := Prod.mk.inj answer
      obtain ⟨settled, same⟩ := stopped_nothing O streaming (whole streaming).2 can before stopped
      obtain ⟨advance, continuous, device, shut, -⟩ := submitOutputs_keeps O.sound stopped
      refine ⟨d'', ended_owned O T ⟨rfl, advance, shut O.shut, fun _ => settled, ?_, ?_⟩
        (Or.inr ⟨_, absent, rfl⟩) rfl rfl id (by simp only [O.driver]) (same rfl)⟩
      · intro _ active
        exact device (O.device streaming (continuous ▸ active))
      · simp only [streaming]
        rintro (created | configured) <;> contradiction
  · cases outcome with
    | @submitted d₀ d' d'' u u' u'' tokens driver streaming answer before finished after bound =>
      obtain rfl := Option.some.inj (O.driver.symm.trans driver)
      obtain ⟨can, rfl⟩ := Prod.mk.inj answer
      obtain ⟨settled, -⟩ := stopped_nothing O streaming (whole streaming).2 can before finished
      obtain ⟨advance, continuous, device, shut, fresh⟩ := submitOutputs_keeps O.sound finished
      obtain ⟨kept, added⟩ := submitOutputs_bound finished
      rw [before, ← after] at kept
      rw [before, ← after] at fresh
      rw [← after] at added
      have P : Progress d d'' { s with
          tasks := s.tasks.eraseIdx k
          session := { s.session with driver := some d'', inFlight := u'' }
          submissions := s.submissions ++ [(id, s.session.driver, some d'')]
          owner := Function.update s.owner request.frameNumber id
          boundFor := recordBindings s.session.inFlight u'' (fun _ => .capture id)
            s.boundFor } := by
        refine ⟨rfl, advance, shut O.shut, fun _ => settled, fun _ active => ?_, ?_⟩
        · exact device (O.device streaming (continuous ▸ active))
        · simp only [streaming]
          rintro (created | configured) <;> contradiction
      refine ⟨d'', O.advance T P fresh (fun b _ _ c found _ => kept b.token c found)
        (List.prefix_refl _) (fun _ => Or.inl) rfl ?_ ?_⟩
      · intro n d₁ d₂ here
        simp only [List.mem_singleton, Prod.mk.injEq, Option.some.injEq] at here
        obtain ⟨-, -, rfl⟩ := here
        exact Nat.le_refl _
      · intro b member n d₁ d₂ here lower upper
        simp only [List.mem_singleton, Prod.mk.injEq, O.driver, Option.some.injEq] at here
        obtain ⟨rfl, rfl, rfl⟩ := here
        rcases added b member with old | ⟨pair, inside, found⟩
        · exact (Nat.lt_irrefl _
            (Nat.lt_of_lt_of_le (O.sound.recorded.token_below old) lower)).elim
        · refine ⟨request, _, N.tasks _ (List.mem_of_getElem? at_task), found, ?_, rfl⟩
          rcases (bound.lookups _ _).mp found with old | ⟨i, -, same⟩
          · exact (Nat.lt_irrefl _ (Nat.lt_of_lt_of_le (O.fresh _ _ old) lower)).elim
          · rw [same]
            exact Int.natCast_nonneg i

private theorem dequeue_owned (O : Owned d s) (readyFd : Int)
    (T : Tracked (dequeueStep single readyFd s)) :
    ∃ d', Owned d' (dequeueStep single readyFd s) := by
  rcases dequeueCompletion_cases single readyFd s.session with
    same | ⟨d₀, driver, streaming, same⟩
  · refine ⟨d, O.same T ?_ (List.prefix_refl _) ?_ rfl⟩
    · simp only [dequeueStep, same]
    · simp [dequeueStep, same]
  obtain rfl := Option.some.inj (O.driver.symm.trans driver)
  cases run : d.adapter.dequeueCompletion readyFd d.world with
  | mk answer out =>
    obtain ⟨a, w⟩ := out
    obtain ⟨advance, finished⟩ := dequeueCompletion_advance O.sound run
    obtain ⟨-, device, continuous, shut, settled⟩ :=
      dequeueCompletion_settled O.sound.recorded run
    have asked : single.dequeueCompletion readyFd d = (answer, ⟨a, w⟩) := by
      simp only [single, run]
      rfl
    simp only [asked] at same
    have P : Progress d ⟨a, w⟩ (dequeueStep single readyFd s) := by
      simp only [dequeueStep, same]
      refine ⟨rfl, advance, shut O.shut, fun running => settled (O.settled running), ?_, ?_⟩
      · rw [device, continuous]
        exact O.device
      · rw [continuous]
        exact O.idle
    refine ⟨⟨a, w⟩, O.quiet T P ?_ ?_ (List.prefix_refl _) ?_ rfl⟩
    · simp only [dequeueStep, same]
      exact fun _ _ => Or.inl
    · simp only [dequeueStep, same]
      exact fun _ _ _ _ found _ => found
    · simp only [dequeueStep, same]
      intro completion member
      rcases List.mem_append.mp member with before | here
      · exact Or.inl before
      · obtain ⟨-, below, apart⟩ := finished completion (Option.mem_toList.mp here)
        refine Or.inr ⟨Nat.lt_of_lt_of_le below advance.counter, fun b inside => ?_⟩
        exact apart b (advance.node ▸ inside)

private theorem process_owned {processors : List (Option (OutputProcessor π))} (O : Owned d s)
    {k : Nat} {now : Int} (taken : processStep processors k now s = some t) (T : Tracked t) :
    Owned d t := by
  obtain ⟨completion, filled, p, session, at_k, outcome, rfl⟩ :=
    processStep_outcome O.tracked.consistent taken
  have apart := (O.dequeued completion (List.mem_of_getElem? at_k)).2
  have tables : session.driver = s.session.driver ∧ session.state = s.session.state ∧
      (session.inFlight.driverOutputs = s.session.inFlight.driverOutputs ∨
        session.inFlight.driverOutputs =
          s.session.inFlight.driverOutputs.erase completion.token) := by
    cases outcome with
    | unknown unbound => exact ⟨rfl, rfl, Or.inl rfl⟩
    | preview bound negative row processed => exact ⟨rfl, rfl, Or.inr rfl⟩
    | waiting bound live member index still processed pending => exact ⟨rfl, rfl, Or.inr rfl⟩
    | complete bound live member index still processed finished => exact ⟨rfl, rfl, Or.inr rfl⟩
  obtain ⟨driver, state, tokens⟩ := tables
  have fields : ∀ u : System SingleDriver π,
      u = afterCompletion k completion.token filled p session s →
      u.session = session ∧ u.accepted = s.accepted ∧ u.dequeued = s.dequeued.eraseIdx k ∧
        u.submissions = s.submissions := by
    rintro u rfl
    simp only [afterCompletion]
    split <;> exact ⟨rfl, rfl, rfl, rfl⟩
  obtain ⟨same, accepted, dequeued, submissions⟩ := fields _ rfl
  refine O.quiet T (O.progress ?_ ?_) ?_ ?_ ?_ ?_ submissions
  · rw [same, driver]
    exact O.driver
  · rw [same, state]
  · rw [same]
    intro τ c found
    rcases tokens with kept | erased
    · exact Or.inl (kept ▸ found)
    · rw [erased] at found
      exact Or.inl (lookup_erase_eq_some.mp found).2
  · rw [same]
    intro b inside _ c found _
    rcases tokens with kept | erased
    · rwa [kept]
    · rw [erased]
      exact lookup_erase_eq_some.mpr ⟨apart b inside, found⟩
  · exact accepted ▸ List.prefix_refl _
  · rw [dequeued]
    exact fun _ member => Or.inl (List.mem_of_mem_eraseIdx member)

private theorem emptied_owned (O : Owned d s) {d' : SingleDriver} {session : Session SingleDriver}
    {results : List CaptureResult} (T : Tracked (withResults s (results, session)))
    (driver : session.driver = some d') (empty : session.inFlight = Tracker.empty)
    (advance : Advance d.adapter d.world d'.adapter d'.world) (nothing : queue d' = [])
    (continuous : d'.adapter.continuousStreaming = false) :
    Owned d' (withResults s (results, session)) := by
  have P : Progress d d' (withResults s (results, session)) := by
    refine ⟨driver, advance, fun _ => nothing, fun _ => settled_of_empty nothing, ?_, ?_⟩
    · intro _ active
      rw [continuous] at active
      cases active
    · exact fun _ => continuous
  refine O.quiet T P ?_ ?_ (List.prefix_refl _) (fun _ => Or.inl) rfl
  · intro τ c found
    simp only [withResults, empty] at found
    cases found
  · intro b _ inside
    rw [nothing] at inside
    cases inside

private theorem flush_owned (O : Owned d s) (now : Int)
    (T : Tracked (withResults s (flush single now s.session))) :
    ∃ d', Owned d' (withResults s (flush single now s.session)) := by
  by_cases active : s.session.state = .streaming ∨ s.session.state = .configured
  · rw [flush_active single now active] at T ⊢
    refine ⟨_, emptied_owned O T (by rw [O.driver]; rfl) rfl (stopStreaming_advance O.sound) ?_ rfl⟩
    refine stopStreaming_empties O.off O.shut (O.settled ?_)
    rcases active with streaming | configured
    · simp [streaming]
    · simp [configured]
  · rw [flush_inactive single now active] at T ⊢
    exact ⟨d, O.same T rfl (List.prefix_refl _) (fun _ => id) rfl⟩

private theorem close_owned (O : Owned d s) (now : Int)
    (T : Tracked (withResults s (close single now s.session))) :
    ∃ d', Owned d' (withResults s (close single now s.session)) := by
  by_cases stopped : s.session.state = .stopped
  · rw [close_stopped single now stopped] at T ⊢
    exact ⟨d, O.same T rfl (List.prefix_refl _) (fun _ => id) rfl⟩
  · rw [close_open single now stopped] at T ⊢
    have advance := stopStreaming_advance O.sound
    exact ⟨single.close (single.stopStreaming d), emptied_owned O T (by rw [O.driver]; rfl) rfl
      (advance.trans (close_advance advance.sound)) (close_empties (stopStreaming_shut O.shut)) rfl⟩

theorem step_owned {processors : List (Option (OutputProcessor π))} {callbacks : Callbacks}
    {a : Label} (O : Owned d s) (N : Named s) (permitted : NoPartialSubmission s a)
    (taken : step single processors callbacks s a = some t) : ∃ d', Owned d' t := by
  have T := step_tracked single processors callbacks O.tracked taken
  cases a with
  | configureStreams registered =>
    cases taken
    exact configure_owned O registered T
  | startStreaming =>
    cases taken
    exact start_owned O T
  | processRequest request =>
    simp only [step] at taken
    split at taken <;> cases taken
    exact ⟨d, O.same T rfl (List.prefix_refl _) (fun _ => id) rfl⟩
  | post k taken? =>
    rcases postStep_outcome taken with ⟨-, rfl⟩ | ⟨request, -, -, rfl⟩
    · exact ⟨d, O.same T rfl (List.prefix_refl _) (fun _ => id) rfl⟩
    · exact ⟨d, O.same T rfl (List.prefix_append _ _) (fun _ => id) rfl⟩
  | runTask k now => exact runTask_owned O N permitted taken T
  | dequeue readyFd =>
    cases taken
    exact dequeue_owned O readyFd T
  | process k now => exact ⟨d, process_owned O taken T⟩
  | dispatch k =>
    simp only [step, dispatchStep] at taken
    split at taken <;> cases taken
    exact ⟨d, O.same T rfl (List.prefix_refl _) (fun _ => id) rfl⟩
  | streamCallback k lease =>
    simp only [step, streamCallbackStep] at taken
    split at taken <;> cases taken
    exact ⟨d, O.same T rfl (List.prefix_refl _) (fun _ => id) rfl⟩
  | returnStream k => exact return_owned O taken T
  | flush now =>
    cases taken
    exact flush_owned O now T
  | close now =>
    cases taken
    exact close_owned O now T

theorem prepared_row_gone {processors : List (Option (OutputProcessor π))} {callbacks : Callbacks}
    {a : Label} (T : Tracked s) (taken : step single processors callbacks s a = some t)
    {entry : Nat × CaptureResult} (member : entry ∈ preparedBy s t)
    (lists : entry.2.completedOutputBuffers ≠ []) :
    entry.2.frameNumber ∉ t.session.inFlight.requests := by
  have unchanged : t.prepared.length ≤ s.prepared.length → False := by
    intro shorter
    rw [preparedBy, List.drop_eq_nil_of_le shorter] at member
    cases member
  have passive : Passive a → False := by
    intro label
    have frame := step_frame single label taken
    exact unchanged (Nat.le_of_eq (congrArg List.length frame.prepared))
  cases a with
  | configureStreams registered => exact (passive trivial).elim
  | startStreaming => exact (passive trivial).elim
  | processRequest request => exact (passive trivial).elim
  | post k accepted =>
    rcases postStep_outcome taken with ⟨-, rfl⟩ | ⟨request, -, -, rfl⟩ <;>
      exact (unchanged (Nat.le_refl _)).elim
  | runTask k now =>
    obtain ⟨id, request, -, ⟨result, session, outcome, rfl⟩ | ⟨session, outcome, rfl⟩⟩ :=
      runTaskStep_outcome single taken
    · simp only [preparedBy, List.drop_left, List.mem_singleton] at member
      subst member
      cases outcome with
      | rejected closed => exact (lists rfl).elim
      | refused driver streaming answer message => simp [dropFrame, failedResult, makeResult]
      | duplicate driver streaming answer live => simp [dropFrame, failedResult, makeResult]
      | failed driver streaming answer absent before stopped =>
        simp [dropFrame, failedResult, makeResult]
    · exact (unchanged (Nat.le_refl _)).elim
  | dequeue readyFd => exact (passive trivial).elim
  | process k now =>
    obtain ⟨completion, filled, p, session, -, outcome, rfl⟩ :=
      processStep_outcome T.consistent taken
    cases outcome with
    | unknown unbound => exact (unchanged (Nat.le_refl _)).elim
    | preview bound negative row processed => exact (unchanged (Nat.le_refl _)).elim
    | waiting bound live inside index still processed pending =>
      exact (unchanged (Nat.le_refl _)).elim
    | complete bound live inside index still processed finished =>
      simp only [preparedBy, afterCompletion, List.drop_left, List.mem_singleton] at member
      subst member
      have frame := (T.consistent.rows _ _ live).key
      simp [afterCompletion, captureResultFromOutputCompletion, markedRow, frame]
  | dispatch k =>
    simp only [step, dispatchStep] at taken
    split at taken <;> cases taken
    exact (unchanged (List.length_eraseIdx_le _ _)).elim
  | streamCallback k lease =>
    simp only [step, streamCallbackStep] at taken
    split at taken <;> cases taken
    exact (unchanged (Nat.le_refl _)).elim
  | returnStream k => exact (passive trivial).elim
  | flush now =>
    cases taken
    by_cases active : s.session.state = .streaming ∨ s.session.state = .configured
    · rw [flush_active single now active]
      simp [withResults, Tracker.empty]
    · rw [flush_inactive single now active] at unchanged
      exact (unchanged (by simp [withResults])).elim
  | close now =>
    cases taken
    by_cases stopped : s.session.state = .stopped
    · rw [close_stopped single now stopped] at unchanged
      exact (unchanged (by simp [withResults])).elim
    · rw [close_open single now stopped]
      simp [withResults, Tracker.empty]

end Steps

section Runs

variable {s t : System SingleDriver π} {processors : List (Option (OutputProcessor π))}
  {callbacks : Callbacks}

theorem initial_owned (config : CameraDeviceSessionConfig) (streamConfig : V4L2StreamConfig)
    {answers : Answers} (off : ∀ n, answers.streamOff n = true) (p : π) :
    Owned (SingleDriver.create streamConfig answers)
      (System.initial config (some (SingleDriver.create streamConfig answers)) p) where
  tracked := initial_tracked config _ p
  driver := rfl
  sound := create_sound _ _ _ _ _ _
  off := off
  positive := Nat.one_pos
  shut := fun _ => rfl
  settled := fun _ => settled_of_empty rfl
  device := fun streaming => by simp [System.initial, Session.create] at streaming
  idle := fun _ => rfl
  fresh := fun τ c found => by simp [System.initial, Session.create, Tracker.empty] at found
  spans := fun n d₁ d₂ member => by simp [System.initial] at member
  dequeued := fun completion member => by simp [System.initial] at member
  held := fun b member => by simp [queue, SingleDriver.create, Kernel.boot] at member

theorem reachable_owned {config : CameraDeviceSessionConfig} {streamConfig : V4L2StreamConfig}
    {answers : Answers} (off : ∀ n, answers.streamOff n = true) {p : π}
    (run : Reaches (step single processors callbacks) NoPartialSubmission
      (System.initial config (some (SingleDriver.create streamConfig answers)) p) s) :
    ∃ d, Owned d s := by
  have start : Reaches (step single processors callbacks) NoPartialSubmission
      (System.initial config (some (SingleDriver.create streamConfig answers)) p) _ :=
    Reaches.refl _
  have both : (∃ d, Owned d s) ∧ Named s := by
    refine run.invariant (fun s => (∃ d, Owned d s) ∧ Named s) ?_
      ⟨⟨_, initial_owned config streamConfig off p⟩, reachable_named start⟩
    rintro s a t ⟨⟨d, O⟩, N⟩ permitted taken
    exact ⟨step_owned O N permitted taken, step_named O.tracked N taken⟩
  exact both.1

/-- In every run whose submissions are all or nothing, whatever the node answers
otherwise, the buffers that a result lists have left the node when it is prepared. -/
theorem buffers_released (config : CameraDeviceSessionConfig) (streamConfig : V4L2StreamConfig)
    (answers : Answers) (off : ∀ n, answers.streamOff n = true)
    (processors : List (Option (OutputProcessor π))) (callbacks : Callbacks) (p : π)
    (s t : System SingleDriver π) (a : Label)
    (run : Reaches (step single processors callbacks) NoPartialSubmission
      (System.initial config (some (SingleDriver.create streamConfig answers)) p) s)
    (permitted : NoPartialSubmission s a)
    (taken : step single processors callbacks s a = some t) : Released s t := by
  obtain ⟨d₀, before⟩ := reachable_owned off run
  have later := run.tail permitted taken
  obtain ⟨d', O⟩ := reachable_owned off later
  intro d driver entry member lists n named b inside handed
  obtain rfl := Option.some.inj (O.driver.symm.trans driver)
  have gone := prepared_row_gone before.tracked taken member lists
  obtain ⟨request, c, found, bound, index, frame⟩ := O.held b inside n handed
  obtain ⟨row, live, -⟩ := O.tracked.consistent.named b.token c bound index
  have answers : ∃ request, t.accepted[n]? = some request ∧
      request.frameNumber = entry.2.frameNumber := by
    rcases named with rfl | named
    · refine (reachable_once later).accepted (entry.1, entry.2.frameNumber) ?_
      refine List.mem_append_left _ (List.mem_append_right _ (List.mem_map.mpr ⟨entry, ?_, rfl⟩))
      exact List.mem_of_mem_drop member
    · exact named
  obtain ⟨request', found', frame'⟩ := answers
  obtain rfl := Option.some.inj (found.symm.trans found')
  apply gone
  rw [← frame', ← frame]
  exact mem_of_lookup live

instance fencePassesDecidable (fence : Int) (answer : SubmissionAnswer) :
    Decidable (FencePasses fence answer) :=
  inferInstanceAs (Decidable (fence < 0 ∨ answer.fence = none))

theorem allOrNothing_iff {d : SingleDriver} {outputs : List OutputBufferTarget} :
    AllOrNothing d outputs ↔
      d.adapter.canSubmitCaptureOutputs outputs = false ∨
        ((outputs[0]?).any fun target =>
          !decide (FencePasses target.acquireFenceFd (answerTo d 0)) ||
            (answerTo d 0).qbuf.isSome) = true ∨
        ((outputs.zipIdx.all fun entry =>
            decide (FencePasses entry.1.acquireFenceFd (answerTo d entry.2)) &&
              (answerTo d entry.2).qbuf.isNone) = true ∧
          (d.adapter.deviceStreaming = true ∨ (answerTo d 0).streamOn = none)) := by
  refine or_congr_right (or_congr ?_ (and_congr_left fun _ => ?_))
  · cases outputs[0]? <;> simp [Option.isSome_iff_ne_none]
  · simp only [List.all_eq_true, Bool.and_eq_true, decide_eq_true_eq, Option.isNone_iff_eq_none,
      Prod.forall, List.mem_zipIdx_iff_getElem?]
    exact ⟨fun all target k found => all k target found,
      fun all k target found => all target k found⟩

instance allOrNothingDecidable (d : SingleDriver) (outputs : List OutputBufferTarget) :
    Decidable (AllOrNothing d outputs) :=
  decidable_of_iff' _ allOrNothing_iff

instance noPartialSubmissionDecidable (s : System SingleDriver Unit) (a : Label) :
    Decidable (NoPartialSubmission s a) :=
  match a with
  | .runTask k _ =>
    match at_k : s.tasks[k]?, at_driver : s.session.driver with
    | some (n, request), some d =>
      decidable_of_iff (s.session.state = .streaming →
          request.frameNumber ∉ s.session.inFlight.requests ∧
            AllOrNothing d (requestOutputsFor request))
        (by simp [NoPartialSubmission, at_k, at_driver])
    | none, _ => .isTrue (by simp [NoPartialSubmission, at_k])
    | some _, none => .isTrue (by simp [NoPartialSubmission, at_driver])
  | .configureStreams _ | .startStreaming | .processRequest _ | .post _ _ | .dequeue _
  | .process _ _
  | .dispatch _ | .streamCallback _ _ | .returnStream _ | .flush _ | .close _ => .isTrue trivial

def refusing (refused : List Nat) : Answers :=
  { configure := fun n => .granted (10 + n) 100 4
    submission := fun n => { qbuf := if n ∈ refused then some "Input/output error" else none }
    dequeue := fun _ => .buffer 0 100 5
    streamOff := fun _ => true }

/-- Requests with two outputs each: frame 7 up to its handling, and frame 8 after it. -/
def twoRequests : List Label :=
  [.configureStreams true, .startStreaming,
   .processRequest { frameNumber := 7, outputBuffers :=
     [{ bufferId := 1, bufferFd := 30, bufferSize := 100 },
      { bufferId := 2, bufferFd := 31, bufferSize := 100 }] },
   .processRequest { frameNumber := 8, outputBuffers :=
     [{ bufferId := 3, bufferFd := 32, bufferSize := 100 },
      { bufferId := 4, bufferFd := 33, bufferSize := 100 }] },
   .post 0 true, .post 0 true]

theorem buffers_released_first_refused :
    ∃ s t : System SingleDriver Unit,
      Reaches (step single [] ⟨true, true⟩) NoPartialSubmission
        (System.initial {} (some (SingleDriver.create {} (refusing [2]))) ()) s ∧
      step single [] ⟨true, true⟩ s (.process 0 9) = some t ∧
      (preparedBy s t).map (fun entry => (entry.2.frameNumber, entry.2.status)) = [(7, .ok)] ∧
      Released s t := by
  obtain ⟨s, run, passed⟩ := exists_reaches_of_replay (step single [] ⟨true, true⟩)
    NoPartialSubmission (System.initial {} (some (SingleDriver.create {} (refusing [2]))) ())
    (twoRequests ++
      [.runTask 0 3, .runTask 0 4, .dispatch 0, .dequeue 10, .dequeue 10, .process 0 8])
    (fun s => (step single [] ⟨true, true⟩ s (.process 0 9)).any fun t =>
      (preparedBy s t).map (fun entry => (entry.2.frameNumber, entry.2.status)) == [(7, .ok)])
    (by decide +kernel)
  obtain ⟨t, taken, results⟩ := (Option.any_eq_true _ _).mp passed
  exact ⟨s, t, run, taken, by simpa using results, buffers_released {} {} (refusing [2])
    (fun _ => rfl) [] ⟨true, true⟩ () s t (.process 0 9) run trivial taken⟩

/-- The second buffer of frame 7 is refused after the first was queued: the result
lists both while the node still holds the first. -/
theorem partial_submission_unreleased :
    ∃ (s t : System SingleDriver Unit) (d : SingleDriver),
      Reaches (step single [] ⟨true, true⟩) always
        (System.initial {} (some (SingleDriver.create {} (refusing [1]))) ()) s ∧
      step single [] ⟨true, true⟩ s (.runTask 0 3) = some t ∧ t.session.driver = some d ∧
      (preparedBy s t).map (fun entry => (entry.1, entry.2.status,
        entry.2.completedOutputBuffers.map (·.bufferId))) = [(0, .sensorError, [1, 2])] ∧
      queue d = [{ index := 0, fd := 30, token := 1 }] ∧ Handed t 0 1 ∧ ¬ Released s t := by
  obtain ⟨s, run, passed⟩ := exists_reaches_of_replay (step single [] ⟨true, true⟩)
    always (System.initial {} (some (SingleDriver.create {} (refusing [1]))) ()) twoRequests
    (fun s => (step single [] ⟨true, true⟩ s (.runTask 0 3)).any fun t =>
      t.session.driver.any fun d =>
        (preparedBy s t).map (fun entry => (entry.1, entry.2.status,
          entry.2.completedOutputBuffers.map (·.bufferId))) == [(0, .sensorError, [1, 2])] &&
        queue d == [{ index := 0, fd := 30, token := 1 }] &&
        t.submissions.any fun entry => entry.1 == 0 &&
          entry.2.1.any (fun d => decide (nextToken d ≤ 1)) &&
          entry.2.2.any fun d => decide (1 < nextToken d)) (by decide +kernel)
  obtain ⟨t, taken, found⟩ := (Option.any_eq_true _ _).mp passed
  obtain ⟨d, driver, tests⟩ := (Option.any_eq_true _ _).mp found
  simp only [Bool.and_eq_true, beq_iff_eq, List.any_eq_true, Option.any_eq_true,
    decide_eq_true_eq] at tests
  obtain ⟨⟨results, held⟩, ⟨n, before, after⟩, member, ⟨rfl, d₁, rfl, lower⟩, d₂, rfl, upper⟩ :=
    tests
  have handed : Handed t 0 1 := ⟨d₁, d₂, member, lower, upper⟩
  refine ⟨s, t, d, run, taken, driver, results, held, handed, fun released => ?_⟩
  obtain ⟨entry, rest, listed⟩ := List.exists_cons_of_ne_nil
    (l := preparedBy s t) (by rintro nothing; simp [nothing] at results)
  simp only [listed, List.map_cons, List.cons.injEq, Prod.mk.injEq] at results
  obtain ⟨⟨id, -, buffers⟩, -⟩ := results
  refine released d driver entry (by rw [listed]; exact List.mem_cons_self) ?_ 0 (Or.inl id.symm)
    { index := 0, fd := 30, token := 1 } (by rw [held]; exact List.mem_cons_self) handed
  intro nothing
  simp [nothing] at buffers

end Runs

end MiniCam.V4L2.BufferOwnership
