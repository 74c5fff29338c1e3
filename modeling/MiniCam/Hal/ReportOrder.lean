/- Module: MiniCam/Hal/ReportOrder
   source: hal/camera_device_session.cpp, hal/mock_driver_adapter.cpp
   digest: Over a driver that reports buffers in the order of their submission, results come in
     the order of their requests, and previews in the order of their frame numbers. -/

import MiniCam.Hal.Provenance
import MiniCam.Hal.ResultIdentity
import MiniCam.Hal.SessionTurns
import Mathlib.Data.List.Sort

set_option autoImplicit false
set_option relaxedAutoImplicit false

namespace MiniCam.Hal.ReportOrder

open MiniCam.Foundation.KeyedTable
open MiniCam.Foundation.Runs (Reaches always exists_reaches_of_replay)
open MiniCam.Hal.Interface
open MiniCam.Hal.InFlightRequestTracker
open MiniCam.Hal.CameraDeviceSession
open MiniCam.Hal.TrackerInvariant
open MiniCam.Hal.SessionSpec
open MiniCam.Hal.SessionSystem
open MiniCam.Hal.TokenBijection
open MiniCam.Hal.ResultAccounting (perm_take delivered pending)
open MiniCam.Hal.ResultIdentity
open MiniCam.Hal.Provenance (TokenLog Ledger submitOutputs_entries)
open MiniCam.Hal.SessionThreads (Threads)
open MiniCam.Hal.SessionTurns (Rested InTurn Matches threads_simulate initial_matches)
open MiniCam.Hal.MockDriverAdapter (MockDriver adapter)

variable {δ π : Type}

section Drivers

/-- What a driver state tells about the order of tokens: all that were issued are below `issued`,
and all that will still be reported are not below `reported`. -/
structure TokenOrder (δ : Type) where
  sound : δ → Prop
  issued : δ → Nat
  reported : δ → Nat

structure TokenOrder.Follows (O : TokenOrder δ) (d d' : δ) : Prop where
  sound : O.sound d'
  issued : O.issued d ≤ O.issued d'
  reported : O.reported d ≤ O.reported d'

structure TokenOrder.New (O : TokenOrder δ) (d d' : δ) (τ : Nat) : Prop where
  lower : O.issued d ≤ τ
  upper : τ < O.issued d'

/-- A driver that issues rising tokens and reports them in the order of their issue. It need
not report every token. -/
structure InOrder (D : DriverAdapter δ) extends TokenOrder δ where
  configures : ∀ d, sound d → toTokenOrder.Follows d (D.configureStream d).2
  starts : ∀ d, sound d → toTokenOrder.Follows d (D.startStreaming d).2
  stops : ∀ d, sound d → toTokenOrder.Follows d (D.stopStreaming d)
  closes : ∀ d, sound d → toTokenOrder.Follows d (D.close d)
  preflights : ∀ d outputs, sound d →
    toTokenOrder.Follows d (D.canSubmitCaptureOutputs outputs d).2
  submits : ∀ d target answer d', sound d → D.submitCapture target d = (answer, d') →
    toTokenOrder.Follows d d' ∧ ∀ τ, answer = some τ → toTokenOrder.New d d' τ
  streams : ∀ d stream buffers answer d', sound d →
    D.startContinuousStream stream buffers d = (answer, d') →
      toTokenOrder.Follows d d' ∧ ∀ tokens, answer = some tokens →
        tokens.Pairwise (· < ·) ∧ ∀ τ ∈ tokens, toTokenOrder.New d d' τ
  dequeues : ∀ d readyFd answer d', sound d → D.dequeueCompletion readyFd d = (answer, d') →
    toTokenOrder.Follows d d' ∧ ∀ completion, answer = some completion →
      reported d ≤ completion.token ∧ completion.token < reported d'
  returns : ∀ d lease answer d', sound d → D.returnStreamBuffer lease d = (answer, d') →
    toTokenOrder.Follows d d' ∧ ∀ τ, answer = some τ → toTokenOrder.New d d' τ

theorem TokenOrder.Follows.refl {O : TokenOrder δ} {d : δ} (sound : O.sound d) : O.Follows d d :=
  ⟨sound, Nat.le_refl _, Nat.le_refl _⟩

theorem TokenOrder.Follows.trans {O : TokenOrder δ} {d d' d'' : δ} (first : O.Follows d d')
    (second : O.Follows d' d'') : O.Follows d d'' :=
  ⟨second.sound, Nat.le_trans first.issued second.issued,
    Nat.le_trans first.reported second.reported⟩

theorem TokenOrder.New.within {O : TokenOrder δ} {d d₁ d₂ d' : δ} {τ : Nat}
    (before : O.Follows d d₁) (new : O.New d₁ d₂ τ) (after : O.Follows d₂ d') : O.New d d' τ :=
  ⟨Nat.le_trans before.issued new.lower, Nat.lt_of_lt_of_le new.upper after.issued⟩

theorem submitOutputs_new {D : DriverAdapter δ} (I : InOrder D) {frameNumber : Nat}
    {pairs : List (OutputBufferTarget × InFlightOutput)} {d d' : δ} {t t' : Tracker} {ok : Bool}
    (sound : I.sound d) (run : submitOutputs D frameNumber pairs d t = (ok, d', t')) :
    I.Follows d d' ∧ ∀ τ c, t'.driverOutputs.lookup τ = some c →
      t.driverOutputs.lookup τ = some c ∨ I.New d d' τ := by
  induction pairs generalizing d t with
  | nil =>
    cases run
    exact ⟨TokenOrder.Follows.refl sound, fun _ _ => Or.inl⟩
  | cons pair rest ih =>
    obtain ⟨target, output⟩ := pair
    simp only [submitOutputs] at run
    cases submitted : D.submitCapture target d with
    | mk answer d₁ =>
      obtain ⟨first, new⟩ := I.submits d target answer d₁ sound submitted
      rw [submitted] at run
      cases answer with
      | none =>
        cases run
        exact ⟨first, fun _ _ => Or.inl⟩
      | some token =>
        simp only [Tracker.bindDriverOutput] at run
        split at run
        · rename_i refused
          split at refused <;> cases refused
          cases run
          exact ⟨first, fun _ _ => Or.inl⟩
        · rename_i bound
          split at bound <;> cases bound
          obtain ⟨later, news⟩ := ih first.sound run
          refine ⟨first.trans later, fun τ c found => ?_⟩
          rcases news τ c found with inserted | issued
          · rcases lookup_insert_eq_some.mp inserted with ⟨rfl, rfl⟩ | ⟨-, before⟩
            · exact Or.inr ((new _ rfl).within (TokenOrder.Follows.refl sound) later)
            · exact Or.inl before
          · exact Or.inr (issued.within first (TokenOrder.Follows.refl later.sound))

end Drivers

section Issuing

/-- Requests in the order of their acceptance, previews in that of their frame numbers. -/
def NotAfter : Use → Use → Prop
  | .capture m, .capture n => m ≤ n
  | .preview f, .preview g => f < g
  | _, _ => True

def Begun (s : System δ π) : Use → Prop
  | .capture n => n ∈ s.submissions.map Prod.fst
  | .preview f => f < s.session.nextStreamingFrameNumber

variable {D : DriverAdapter δ} (I : InOrder D)

structure Issued (d : δ) (s : System δ π) : Prop where
  driver : s.session.driver = some d
  sound : I.sound d
  below : ∀ (τ : Nat) b, s.boundFor τ = some b → τ < I.issued d
  begun : ∀ τ b, s.boundFor τ = some b → Begun s b.use
  rising : ∀ (τ τ' : Nat) b b', s.boundFor τ = some b → s.boundFor τ' = some b' → τ < τ' →
    NotAfter b.use b'.use

structure Carries (d d' : δ) (s t : System δ π) : Prop where
  issued : Issued I d' t
  follows : I.Follows d d'
  grows : ∀ τ b, s.boundFor τ = some b → t.boundFor τ = some b

variable {I} {d d' : δ} {s t : System δ π}

theorem Begun.mono {use : Use} (begun : Begun s use)
    (submissions : ∀ n ∈ s.submissions.map Prod.fst, n ∈ t.submissions.map Prod.fst)
    (next : s.session.nextStreamingFrameNumber ≤ t.session.nextStreamingFrameNumber) :
    Begun t use := by
  cases use with
  | capture n => exact submissions n begun
  | preview f => exact Nat.lt_of_lt_of_le begun next

theorem Issued.quiet (E : Issued I d s) (driver : t.session.driver = some d')
    (follows : I.Follows d d') (boundFor : t.boundFor = s.boundFor)
    (submissions : ∀ n ∈ s.submissions.map Prod.fst, n ∈ t.submissions.map Prod.fst)
    (next : s.session.nextStreamingFrameNumber ≤ t.session.nextStreamingFrameNumber) :
    Carries I d d' s t where
  issued :=
    { driver := driver
      sound := follows.sound
      below := fun τ b found => Nat.lt_of_lt_of_le (E.below τ b (boundFor ▸ found)) follows.issued
      begun := fun τ b found => (E.begun τ b (boundFor ▸ found)).mono submissions next
      rising := fun τ τ' b b' found found' =>
        E.rising τ τ' b b' (boundFor ▸ found) (boundFor ▸ found') }
  follows := follows
  grows := fun _ _ found => boundFor ▸ found

theorem Issued.record (E : Issued I d s) (driver : t.session.driver = some d')
    (follows : I.Follows d d') {after : Tracker} {use : DriverOutputContext → Use}
    (boundFor : t.boundFor = recordBindings s.session.inFlight after use s.boundFor)
    (submissions : ∀ n ∈ s.submissions.map Prod.fst, n ∈ t.submissions.map Prod.fst)
    (next : s.session.nextStreamingFrameNumber ≤ t.session.nextStreamingFrameNumber)
    (new : ∀ (τ : Nat) c, after.driverOutputs.lookup τ = some c →
      τ ∉ s.session.inFlight.driverOutputs →
      I.New d d' τ ∧ Begun t (use c) ∧ ∀ earlier, Begun s earlier → NotAfter earlier (use c))
    (among : ∀ (τ τ' : Nat) c c', after.driverOutputs.lookup τ = some c →
      after.driverOutputs.lookup τ' = some c' → τ ∉ s.session.inFlight.driverOutputs →
      τ' ∉ s.session.inFlight.driverOutputs → τ < τ' → NotAfter (use c) (use c')) :
    Carries I d d' s t := by
  have uses : ∀ c b, bindingOf after (use c) c = some b → b.use = use c := by
    intro c b bound
    obtain ⟨target, -, rfl⟩ := Option.map_eq_some_iff.mp bound
    rfl
  have news : ∀ τ b, t.boundFor τ = some b → s.boundFor τ = some b ∨
      ∃ c, after.driverOutputs.lookup τ = some c ∧ τ ∉ s.session.inFlight.driverOutputs ∧
        b.use = use c := by
    intro τ b found
    rw [boundFor] at found
    rcases recordBindings_cases s.session.inFlight after use s.boundFor τ with
      same | ⟨c, bound, unbound, same⟩
    · exact Or.inl (same ▸ found)
    · exact Or.inr ⟨c, bound, unbound, uses c b (same ▸ found)⟩
  refine ⟨⟨driver, follows.sound, ?_, ?_, ?_⟩, follows, ?_⟩
  · intro τ b found
    rcases news τ b found with before | ⟨c, bound, unbound, -⟩
    · exact Nat.lt_of_lt_of_le (E.below τ b before) follows.issued
    · exact (new τ c bound unbound).1.upper
  · intro τ b found
    rcases news τ b found with before | ⟨c, bound, unbound, same⟩
    · exact (E.begun τ b before).mono submissions next
    · rw [same]
      exact (new τ c bound unbound).2.1
  · intro τ τ' b b' found found' lower
    rcases news τ b found with before | ⟨c, bound, unbound, same⟩ <;>
      rcases news τ' b' found' with before' | ⟨c', bound', unbound', same'⟩
    · exact E.rising τ τ' b b' before before' lower
    · rw [same']
      exact (new τ' c' bound' unbound').2.2 b.use (E.begun τ b before)
    · have lower' := (new τ c bound unbound).1.lower
      have upper := E.below τ' b' before'
      omega
    · rw [same, same']
      exact among τ τ' c c' bound bound' unbound unbound' lower
  · intro τ b found
    rw [boundFor]
    rcases recordBindings_cases s.session.inFlight after use s.boundFor τ with
      same | ⟨c, bound, unbound, -⟩
    · rw [same]
      exact found
    · have lower := (new τ c bound unbound).1.lower
      have upper := E.below τ b found
      omega

theorem Issued.record_previews (E : Issued I d s) (driver : t.session.driver = some d')
    (follows : I.Follows d d') (pairs : List (DriverToken × InFlightStreamingOutput))
    (boundFor : t.boundFor = recordBindings s.session.inFlight
      (bindStreamingOutputs pairs s.session.inFlight).2 previewUse s.boundFor)
    (submissions : t.submissions = s.submissions)
    (next : s.session.nextStreamingFrameNumber ≤ t.session.nextStreamingFrameNumber)
    (new : ∀ pair ∈ pairs, I.New d d' pair.1 ∧
      s.session.nextStreamingFrameNumber ≤ pair.2.frameNumber ∧
      pair.2.frameNumber < t.session.nextStreamingFrameNumber)
    (rising : ∀ pair ∈ pairs, ∀ later ∈ pairs, pair.1 < later.1 →
      pair.2.frameNumber < later.2.frameNumber) : Carries I d d' s t := by
  obtain ⟨-, -, -, news⟩ := bindStreamingOutputs_adds pairs s.session.inFlight
  have of_new : ∀ τ c, (bindStreamingOutputs pairs s.session.inFlight).2.driverOutputs.lookup τ =
      some c → τ ∉ s.session.inFlight.driverOutputs →
        ∃ output, (τ, output) ∈ pairs ∧ previewUse c = .preview output.frameNumber := by
    intro τ c bound unbound
    rcases news τ c bound with before | ⟨-, -, output, member, rfl, -⟩
    · exact (unbound (mem_of_lookup before)).elim
    · exact ⟨output, member, rfl⟩
  refine E.record driver follows boundFor (fun n member => by rw [submissions]; exact member) next
    ?_ ?_
  · intro τ c bound unbound
    obtain ⟨output, member, use⟩ := of_new τ c bound unbound
    obtain ⟨issued, lower, upper⟩ := new _ member
    rw [use]
    refine ⟨issued, upper, ?_⟩
    intro earlier begun
    cases earlier with
    | capture n => trivial
    | preview f => exact Nat.lt_of_lt_of_le begun lower
  · intro τ τ' c c' bound bound' unbound unbound' lower
    obtain ⟨output, member, use⟩ := of_new τ c bound unbound
    obtain ⟨output', member', use'⟩ := of_new τ' c' bound' unbound'
    rw [use, use']
    exact rising _ member _ member' lower

private theorem previewSubmissions_new (I : InOrder D) (sound : I.sound d) (session : Session δ) :
    I.Follows d (previewSubmissions D session d).2 ∧
      ∀ tokens, (previewSubmissions D session d).1 = some tokens →
        tokens.Pairwise (· < ·) ∧
          ∀ τ ∈ tokens, I.New d (previewSubmissions D session d).2 τ := by
  have started := I.starts d sound
  simp only [previewSubmissions]
  cases session.config.continuousPreviewConfig with
  | none =>
    refine ⟨started, fun tokens same => ?_⟩
    cases same
    exact ⟨List.Pairwise.nil, fun τ member => by cases member⟩
  | some stream =>
    obtain ⟨follows, given⟩ := I.streams _ stream session.config.continuousPreviewBuffers _ _
      started.sound rfl
    refine ⟨started.trans follows, fun tokens same => ?_⟩
    obtain ⟨rising, new⟩ := given tokens same
    exact ⟨rising, fun τ member =>
      (new τ member).within started (TokenOrder.Follows.refl follows.sound)⟩

theorem zip_streamingOutputs {tokens : List DriverToken} {next : Nat}
    {buffers : List OutputBufferTarget} {pair : DriverToken × InFlightStreamingOutput}
    (member : pair ∈ tokens.zip (streamingOutputsFrom next buffers)) :
    ∃ i : Nat, tokens[i]? = some pair.1 ∧ pair.2.frameNumber = next + i ∧ i < buffers.length := by
  obtain ⟨i, found⟩ := List.getElem?_of_mem member
  obtain ⟨at_token, at_output⟩ := List.getElem?_zip_eq_some.mp found
  have frames := congrArg (fun l : List Nat => l[i]?) (streamingOutputsFrom_frames next buffers)
  simp only [List.getElem?_map, at_output, Option.map_some] at frames
  obtain ⟨inside, frame⟩ := List.getElem?_eq_some_iff.mp frames.symm
  rw [List.getElem_range', Nat.one_mul] at frame
  rw [List.length_range'] at inside
  exact ⟨i, at_token, frame.symm, inside⟩

private theorem start_carries (E : Issued I d s) : ∃ d', Carries I d d' s (startStep D s) := by
  rcases startStreaming_cases D s.session with
    same | ⟨d₀, d', next, state, at_driver, -, -, later, ⟨same, reached⟩ | ⟨submissions, given, -,
      length, counted, same⟩⟩
  · refine ⟨d, E.quiet ?_ (TokenOrder.Follows.refl E.sound) ?_ (fun _ => id) ?_⟩
    · simp only [startStep, same, E.driver]
    · simp only [startStep, same, recordBindings_self]
    · simp only [startStep, same, Nat.le_refl]
  · obtain rfl := Option.some.inj (E.driver.symm.trans at_driver)
    have follows : I.Follows d d' := by
      rcases reached with rfl | ⟨rfl, -⟩
      · exact I.starts d E.sound
      · exact (previewSubmissions_new I E.sound s.session).1
    refine ⟨d', E.quiet ?_ follows ?_ (fun _ => id) ?_⟩
    · simp only [startStep, same]
    · simp only [startStep, same, recordBindings_self]
    · simp only [startStep, same, later]
  · obtain rfl := Option.some.inj (E.driver.symm.trans at_driver)
    obtain ⟨follows, issued⟩ := previewSubmissions_new I E.sound s.session
    rw [given] at follows issued
    obtain ⟨rising, new⟩ := issued submissions rfl
    refine ⟨d', E.record_previews ?_ follows (submissions.zip (streamingOutputsFrom
      s.session.nextStreamingFrameNumber s.session.config.continuousPreviewBuffers)) ?_ rfl ?_ ?_
      ?_⟩
    · simp only [startStep, same]
    · simp only [startStep, same]
    · simp only [startStep, same, later]
    · intro pair member
      obtain ⟨i, at_token, frame, inside⟩ := zip_streamingOutputs member
      simp only [startStep, same]
      refine ⟨new pair.1 (List.mem_of_getElem? at_token), ?_, ?_⟩
      · omega
      · rw [frame, counted, length]
        omega
    · intro pair member pair' member' lower
      obtain ⟨i, at_token, frame, -⟩ := zip_streamingOutputs member
      obtain ⟨j, at_token', frame', -⟩ := zip_streamingOutputs member'
      obtain ⟨in_i, token⟩ := List.getElem?_eq_some_iff.mp at_token
      obtain ⟨in_j, token'⟩ := List.getElem?_eq_some_iff.mp at_token'
      have chain := List.pairwise_iff_getElem.mp rising
      rcases Nat.lt_trichotomy i j with before | rfl | behind
      · omega
      · rw [token] at token'
        exact (Nat.lt_irrefl _ (token' ▸ lower)).elim
      · have falling := chain j i in_j in_i behind
        rw [token, token'] at falling
        exact (Nat.lt_asymm lower falling).elim

private theorem return_carries (E : Issued I d s) {k : Nat} (taken : returnStep D k s = some t) :
    ∃ d', Carries I d d' s t := by
  simp only [returnStep] at taken
  split at taken
  · cases taken
  rename_i handler at_handler
  cases taken
  rcases returnStreamBuffer_cases D handler.lease handler.output s.session with
    same | ⟨d₀, d', metrics, at_driver, -, ⟨refused, same⟩ | ⟨token, returned, same⟩⟩
  · refine ⟨d, E.quiet ?_ (TokenOrder.Follows.refl E.sound) ?_ (fun _ => id) ?_⟩
    · simp only [same, E.driver]
    · simp only [same, recordBindings_self]
    · simp only [same, Nat.le_refl]
  · obtain rfl := Option.some.inj (E.driver.symm.trans at_driver)
    obtain ⟨follows, -⟩ := I.returns d handler.lease none d' E.sound refused
    refine ⟨d', E.quiet ?_ follows ?_ (fun _ => id) ?_⟩
    · simp only [same]
    · simp only [same, recordBindings_self]
    · simp only [same, Nat.le_refl]
  · obtain rfl := Option.some.inj (E.driver.symm.trans at_driver)
    obtain ⟨follows, new⟩ := I.returns d handler.lease (some token) d' E.sound returned
    refine ⟨d', E.record_previews ?_ follows
      [(token, { handler.output with frameNumber := s.session.nextStreamingFrameNumber })] ?_ rfl
      ?_ ?_ ?_⟩
    · simp only [same]
    · simp only [same]
    · simp only [same, Nat.le_succ]
    · intro pair member
      obtain rfl := List.mem_singleton.mp member
      simp only [same]
      exact ⟨new token rfl, Nat.le_refl _, Nat.lt_succ_self _⟩
    · intro pair member later member' lower
      obtain rfl := List.mem_singleton.mp member
      obtain rfl := List.mem_singleton.mp member'
      exact (Nat.lt_irrefl _ lower).elim

private theorem preflight_follows (E : Issued I d s) {d₀ d' : δ}
    {outputs : List OutputBufferTarget} {ok : Bool} (driver : s.session.driver = some d₀)
    (answer : D.canSubmitCaptureOutputs outputs d₀ = (ok, d')) : I.Follows d d' := by
  obtain rfl := Option.some.inj (E.driver.symm.trans driver)
  have follows := I.preflights d outputs E.sound
  rwa [answer] at follows

private theorem runTask_carries (E : Issued I d s) {k : Nat} {now : Int}
    (turn : InTurn s (.runTask k now)) (taken : runTaskStep D k now s = some t) :
    ∃ d', Carries I d d' s t := by
  obtain ⟨n, request, at_task, ⟨result, session, outcome, rfl⟩ | ⟨session, outcome, rfl⟩⟩ :=
    runTaskStep_outcome D taken
  · have submissions : ∀ m ∈ s.submissions.map Prod.fst,
        m ∈ (s.submissions ++ [(n, s.session.driver, session.driver)]).map Prod.fst := by
      intro m member
      rw [List.map_append]
      exact List.mem_append_left _ member
    cases outcome with
    | rejected closed =>
      exact ⟨d, E.quiet E.driver (TokenOrder.Follows.refl E.sound) rfl submissions le_rfl⟩
    | @refused _ d' driver streaming answer message =>
      exact ⟨d', E.quiet rfl (preflight_follows E driver answer) rfl submissions le_rfl⟩
    | @duplicate _ d' row driver streaming answer live =>
      exact ⟨d', E.quiet rfl (preflight_follows E driver answer) rfl submissions le_rfl⟩
    | @failed _ d' d'' t₁ t' driver streaming answer absent before stopped =>
      have first := preflight_follows E driver answer
      have second := (submitOutputs_new I first.sound stopped).1
      exact ⟨d'', E.quiet rfl (first.trans second) rfl submissions le_rfl⟩
  · cases outcome with
    | @submitted _ d' d'' t₁ t' t'' tokens driver streaming answer before finished after bound =>
      have first := preflight_follows E driver answer
      obtain ⟨second, news⟩ := submitOutputs_new I first.sound finished
      refine ⟨d'', E.record rfl (first.trans second) rfl ?_ le_rfl ?_ ?_⟩
      · intro m member
        rw [List.map_append]
        exact List.mem_append_left _ member
      · intro τ c at_token unbound
        rcases news τ c (after ▸ at_token) with old | new
        · exact (unbound (mem_of_lookup (before ▸ old))).elim
        refine ⟨new.within first (TokenOrder.Follows.refl second.sound), ?_, ?_⟩
        · simp only [Begun, List.map_append, List.map_cons, List.map_nil]
          exact List.mem_append_right _ List.mem_cons_self
        · intro earlier begun
          cases earlier with
          | capture m =>
            obtain ⟨entry, member, rfl⟩ := List.mem_map.mp begun
            exact Nat.le_of_lt (turn.2 _ at_task entry member)
          | preview f => trivial
      · intro τ τ' c c' _ _ _ _ _
        exact Nat.le_refl n

theorem step_carries {processors : List (Option (OutputProcessor π))} {callbacks : Callbacks}
    {a : Label} (T : Tracked s) (E : Issued I d s) (turn : InTurn s a)
    (taken : step D processors callbacks s a = some t) : ∃ d', Carries I d d' s t := by
  have idle : ∀ u : System δ π, u.session.driver = s.session.driver → u.boundFor = s.boundFor →
      u.submissions = s.submissions →
      u.session.nextStreamingFrameNumber = s.session.nextStreamingFrameNumber →
      ∃ d', Carries I d d' s u := by
    intro u driver boundFor submissions next
    exact ⟨d, E.quiet (driver.trans E.driver) (TokenOrder.Follows.refl E.sound) boundFor
      (fun n member => submissions ▸ member) (Nat.le_of_eq next.symm)⟩
  cases a with
  | configureStreams registered =>
    cases taken
    rcases configureStreams_cases D registered s.session with
      same | ⟨d₀, d', fds, state, driver, -, rfl, -, same⟩
    · simp only [same]
      exact idle _ rfl rfl rfl rfl
    · obtain rfl := Option.some.inj (E.driver.symm.trans driver)
      simp only [same]
      exact ⟨_, E.quiet rfl (I.configures d E.sound) rfl (fun _ => id) le_rfl⟩
  | startStreaming =>
    cases taken
    exact start_carries E
  | processRequest request =>
    simp only [step] at taken
    split at taken <;> cases taken
    exact idle _ rfl rfl rfl rfl
  | post k accepted =>
    rcases postStep_outcome taken with ⟨-, rfl⟩ | ⟨request, -, -, rfl⟩ <;>
      exact idle _ rfl rfl rfl rfl
  | runTask k now => exact runTask_carries E turn taken
  | dequeue readyFd =>
    cases taken
    rcases dequeueCompletion_cases D readyFd s.session with same | ⟨d₀, driver, -, same⟩
    · simp only [dequeueStep, same]
      exact idle _ rfl rfl rfl rfl
    · obtain rfl := Option.some.inj (E.driver.symm.trans driver)
      simp only [dequeueStep, same]
      exact ⟨_, E.quiet rfl (I.dequeues d readyFd _ _ E.sound rfl).1 rfl (fun _ => id) le_rfl⟩
  | process k now =>
    obtain ⟨completion, filled, p, session, -, outcome, rfl⟩ :=
      processStep_outcome T.consistent taken
    cases outcome <;> exact idle _ rfl rfl rfl rfl
  | dispatch k =>
    simp only [step, dispatchStep] at taken
    split at taken <;> cases taken
    exact idle _ rfl rfl rfl rfl
  | streamCallback k lease =>
    simp only [step, streamCallbackStep] at taken
    split at taken <;> cases taken
    exact idle _ rfl rfl rfl rfl
  | returnStream k => exact return_carries E taken
  | flush now =>
    cases taken
    by_cases active : s.session.state = .streaming ∨ s.session.state = .configured
    · rw [flush_active D now active]
      exact ⟨_, E.quiet (by simp [withResults, E.driver]) (I.stops d E.sound) rfl (fun _ => id)
        le_rfl⟩
    · rw [flush_inactive D now active]
      exact idle _ rfl rfl rfl rfl
  | close now =>
    cases taken
    by_cases stopped : s.session.state = .stopped
    · rw [close_stopped D now stopped]
      exact idle _ rfl rfl rfl rfl
    · rw [close_open D now stopped]
      have follows := I.stops d E.sound
      exact ⟨_, E.quiet (by simp [withResults, E.driver])
        (follows.trans (I.closes _ follows.sound)) rfl (fun _ => id) le_rfl⟩

end Issuing

section Reporting

def succeeded (entry : Nat × CaptureResult) : Bool := entry.2.status = .ok

def okPrepared (s : System δ π) : List (Nat × CaptureResult) := s.prepared.filter succeeded

def okUses (s : System δ π) : List Use :=
  (s.dispatched.filter fun entry => decide (entry.2.status = .ok)).map Prod.fst ++
    s.callbacks.map (fun handler => Use.preview handler.output.frameNumber) ++
      (okPrepared s).map fun entry => Use.capture entry.1

def reportedTokens (s : System δ π) : List DriverToken :=
  s.credits.map (·.token) ++ s.dequeued.map (·.token)

variable {D : DriverAdapter δ} (I : InOrder D)

/-- Completions are taken up in the order of their tokens, and every Ok result belongs to one of
them. -/
structure Sent (d : δ) (s : System δ π) : Prop where
  credited : ∀ credit ∈ s.credits, ∃ b, s.boundFor credit.token = some b ∧ b.use = credit.use
  ordered : (reportedTokens s).Pairwise (· < ·)
  below : ∀ τ ∈ reportedTokens s, τ < I.reported d
  single : s.dequeued.length + s.callbacks.length + (okPrepared s).length ≤ 1
  uses : (okUses s).Sublist (s.credits.map (·.use))

variable {I} {d d' : δ} {s t : System δ π}

theorem Sent.quiet (S : Sent I d s) (carries : Carries I d d' s t)
    (credits : t.credits = s.credits) (dequeued : t.dequeued = s.dequeued)
    (single : t.callbacks.length + (okPrepared t).length ≤
      s.callbacks.length + (okPrepared s).length)
    (uses : (okUses t).Sublist (okUses s)) : Sent I d' t where
  credited := by
    intro credit member
    obtain ⟨b, found, use⟩ := S.credited credit (credits ▸ member)
    exact ⟨b, carries.grows _ b found, use⟩
  ordered := by
    rw [reportedTokens, credits, dequeued]
    exact S.ordered
  below := by
    rw [reportedTokens, credits, dequeued]
    intro τ member
    exact Nat.lt_of_lt_of_le (S.below τ member) carries.follows.reported
  single := by
    have before := S.single
    rw [dequeued]
    omega
  uses := by
    rw [credits]
    exact uses.trans S.uses

private theorem dequeue_sent (S : Sent I d s) (E : Issued I d s) {readyFd : Int}
    (rested : Rested s) (carries : Carries I d d' s (dequeueStep D readyFd s)) :
    Sent I d' (dequeueStep D readyFd s) := by
  obtain ⟨dequeued, called, -, flushed⟩ := rested
  have none_ok : okPrepared s = [] := by
    rw [okPrepared, List.filter_eq_nil_iff]
    intro entry member
    simp [succeeded, flushed entry member]
  rcases dequeueCompletion_cases D readyFd s.session with same | ⟨d₀, driver, -, same⟩
  · have unchanged : dequeueStep D readyFd s = s := by
      simp only [dequeueStep, same, Option.toList_none, List.append_nil]
    rw [unchanged] at carries ⊢
    exact S.quiet carries rfl rfl le_rfl (List.Sublist.refl _)
  · obtain rfl := Option.some.inj (E.driver.symm.trans driver)
    have reached := carries.issued.driver
    simp only [dequeueStep, same, Option.some.injEq] at reached
    obtain ⟨-, new⟩ := I.dequeues d readyFd _ _ E.sound rfl
    have tokens : reportedTokens (dequeueStep D readyFd s) =
        reportedTokens s ++ (D.dequeueCompletion readyFd d).1.toList.map (·.token) := by
      simp only [reportedTokens, dequeueStep, same, List.map_append, List.append_assoc]
    refine ⟨?_, ?_, ?_, ?_, ?_⟩
    · exact S.credited
    · rw [tokens]
      refine List.pairwise_append.mpr ⟨S.ordered, ?_, ?_⟩
      · cases (D.dequeueCompletion readyFd d).1 <;> simp
      · intro τ before τ' member
        obtain ⟨completion, answered, rfl⟩ := List.mem_map.mp member
        have lower := (new completion (Option.mem_toList.mp answered)).1
        exact Nat.lt_of_lt_of_le (S.below τ before) lower
    · rw [tokens]
      intro τ member
      rcases List.mem_append.mp member with before | here
      · exact Nat.lt_of_lt_of_le (S.below τ before) carries.follows.reported
      · obtain ⟨completion, answered, rfl⟩ := List.mem_map.mp here
        rw [← reached]
        exact (new completion (Option.mem_toList.mp answered)).2
    · have prepared : okPrepared (dequeueStep D readyFd s) = [] := none_ok
      rw [prepared]
      simp only [dequeueStep, same, dequeued, called, List.nil_append]
      cases (D.dequeueCompletion readyFd d).1 <;> simp
    · exact S.uses

theorem Sent.alone (S : Sent I d s) {k : Nat} {completion : DriverCompletion}
    (found : s.dequeued[k]? = some completion) :
    k = 0 ∧ s.dequeued = [completion] ∧ s.callbacks = [] ∧ okPrepared s = [] := by
  have single := S.single
  obtain ⟨inside, -⟩ := List.getElem?_eq_some_iff.mp found
  have one : s.dequeued.length = 1 := by omega
  obtain ⟨first, only⟩ := List.length_eq_one_iff.mp one
  obtain rfl : k = 0 := by omega
  rw [only] at found
  obtain rfl := Option.some.inj found
  exact ⟨rfl, only, List.length_eq_zero_iff.mp (by omega), List.length_eq_zero_iff.mp (by omega)⟩

private theorem credit_of_token (T : Tracked s) (token : DriverToken) :
    creditOf s token = [] ∨ ∃ credit b, creditOf s token = [credit] ∧ credit.token = token ∧
      s.boundFor token = some b ∧ b.use = credit.use := by
  cases found : s.session.inFlight.driverOutputs.lookup token with
  | none => exact Or.inl (creditOf_unbound found)
  | some c =>
    right
    by_cases negative : c.outputIndex < 0
    · obtain ⟨output, row, -⟩ := take_stream T.consistent found negative
      exact ⟨_, _, creditOf_stream T.consistent found negative, rfl,
        T.bound_stream found negative row, rfl⟩
    · have nonnegative := Int.not_lt.mp negative
      obtain ⟨row, output, live, member, index, -⟩ := take_output T.consistent found nonnegative
      exact ⟨_, _, creditOf_output T.consistent found nonnegative, rfl,
        T.bound_output found live member index, rfl⟩

private theorem process_sent (S : Sent I d s) (T : Tracked s)
    {processors : List (Option (OutputProcessor π))} {k : Nat} {now : Int}
    (taken : processStep processors k now s = some t) (carries : Carries I d d' s t) :
    Sent I d' t := by
  obtain ⟨completion, filled, p, session, at_completion, outcome, rfl⟩ :=
    processStep_outcome T.consistent taken
  obtain ⟨rfl, only, no_call, no_ok⟩ := S.alone at_completion
  have erased : s.dequeued.eraseIdx 0 = [] := by rw [only]; rfl
  have ordered := S.ordered
  have below := S.below
  simp only [reportedTokens, only, List.map_cons, List.map_nil] at ordered below
  have credit := credit_of_token T completion.token
  have frame : ∀ (u : System δ π), Carries I d d' s u →
      u.credits = s.credits ++ creditOf s completion.token → u.dequeued = [] →
      u.callbacks.length + (okPrepared u).length ≤ 1 →
      (okUses u).Sublist ((s.credits ++ creditOf s completion.token).map (·.use)) →
      Sent I d' u := by
    intro u carries credits dequeued single uses
    have tokens : (reportedTokens u).Sublist (s.credits.map (·.token) ++ [completion.token]) := by
      rw [reportedTokens, credits, dequeued, List.map_append, List.map_nil, List.append_nil]
      refine List.Sublist.append (List.Sublist.refl _) ?_
      rcases credit with none_given | ⟨given, b, same, token, -⟩
      · rw [none_given]
        exact List.nil_sublist _
      · rw [same, List.map_cons, token]
        exact List.Sublist.refl _
    refine ⟨?_, ordered.sublist tokens, ?_, ?_, ?_⟩
    · intro entry member
      rw [credits] at member
      rcases List.mem_append.mp member with before | here
      · obtain ⟨b, found, use⟩ := S.credited entry before
        exact ⟨b, carries.grows _ b found, use⟩
      · rcases credit with none_given | ⟨given, b, same, token, found, use⟩
        · rw [none_given] at here
          cases here
        · rw [same] at here
          obtain rfl := List.mem_singleton.mp here
          exact ⟨b, carries.grows _ b (token ▸ found), use⟩
    · intro τ member
      exact Nat.lt_of_lt_of_le (below τ (tokens.mem member)) carries.follows.reported
    · rw [dequeued]
      simpa using single
    · rw [credits]
      exact uses
  have kept : (okUses s).Sublist ((s.credits ++ creditOf s completion.token).map (·.use)) :=
    S.uses.trans ((List.sublist_append_left _ _).map _)
  have sent : okUses s = (s.dispatched.filter fun entry => decide (entry.2.status = .ok)).map
      Prod.fst := by
    simp only [okUses, no_call, no_ok, List.map_nil, List.append_nil]
  have quiet : s.callbacks.length + (okPrepared s).length ≤ 1 := by
    rw [no_call, no_ok]
    exact Nat.zero_le 1
  cases outcome with
  | unknown unbound => exact frame _ carries rfl erased quiet kept
  | waiting bound live member index still processed pending =>
    exact frame _ carries rfl erased quiet kept
  | @preview c output fence _ bound negative row processed =>
    have key := (T.consistent.fresh _ _ row).1
    refine frame _ carries rfl erased ?_ ?_
    · have prepared : ∀ session : Session δ, okPrepared (afterCompletion 0 completion.token
          (.preview (captureResultFromStandaloneCompletion output fence)
            (streamBufferLeaseFromCompletion output) output) p session s) = [] := fun _ => no_ok
      rw [prepared]
      simp [afterCompletion, no_call]
    · have uses : ∀ session : Session δ, okUses (afterCompletion 0 completion.token
          (.preview (captureResultFromStandaloneCompletion output fence)
            (streamBufferLeaseFromCompletion output) output) p session s) =
          okUses s ++ [.preview c.frameNumber] := by
        intro session
        have prepared : okPrepared (afterCompletion 0 completion.token
            (.preview (captureResultFromStandaloneCompletion output fence)
              (streamBufferLeaseFromCompletion output) output) p session s) = [] := no_ok
        rw [okUses, prepared, sent]
        simp [afterCompletion, no_call, key]
      rw [uses, creditOf_stream T.consistent bound negative, List.map_append]
      exact S.uses.append (List.Sublist.refl _)
  | @complete c row output fence _ bound live member index still processed finished =>
    have key := (T.consistent.rows _ _ live).key
    have nonnegative : 0 ≤ c.outputIndex := by
      rw [← index]
      exact (T.consistent.rows _ _ live).index_nonneg member
    have prepared : ∀ session : Session δ, okPrepared (afterCompletion 0 completion.token
        (.capture (captureResultFromOutputCompletion (markedRow row output.outputIndex fence)
          output.target now)) p session s) =
        [(s.owner c.frameNumber, captureResultFromOutputCompletion
          (markedRow row output.outputIndex fence) output.target now)] := by
      intro session
      have none_ok : s.prepared.filter succeeded = [] := no_ok
      simp [afterCompletion, okPrepared, none_ok, succeeded, captureResultFromOutputCompletion,
        markedRow, key]
    refine frame _ carries rfl erased ?_ ?_
    · rw [prepared]
      simp [afterCompletion, no_call]
    · have uses : ∀ session : Session δ, okUses (afterCompletion 0 completion.token
          (.capture (captureResultFromOutputCompletion (markedRow row output.outputIndex fence)
            output.target now)) p session s) =
          okUses s ++ [.capture (s.owner c.frameNumber)] := by
        intro session
        rw [okUses, prepared, sent]
        simp [afterCompletion, no_call]
      rw [uses, creditOf_output T.consistent bound nonnegative, List.map_append]
      exact S.uses.append (List.Sublist.refl _)

private theorem dispatch_sent (S : Sent I d s) {callbacks : Callbacks} {k : Nat}
    (taken : dispatchStep callbacks k s = some t) (carries : Carries I d d' s t) :
    Sent I d' t := by
  simp only [dispatchStep] at taken
  split at taken
  · cases taken
  rename_i id result at_result
  cases taken
  have single := S.single
  have moved : (okPrepared s).Perm (((id, result) :: s.prepared.eraseIdx k).filter succeeded) :=
    (perm_take at_result).filter succeeded
  by_cases ok : result.status = .ok
  · simp only [List.filter_cons, succeeded, ok, decide_true, if_true] at moved
    have none_left : (s.prepared.eraseIdx k).filter succeeded = [] := by
      have length := moved.length_eq
      rw [List.length_cons] at length
      exact List.length_eq_zero_iff.mp (Nat.le_zero.mp (by omega))
    have held : okPrepared s = [(id, result)] := by
      refine List.perm_singleton.mp (moved.trans (List.Perm.of_eq ?_))
      exact congrArg _ none_left
    have no_call : s.callbacks = [] := by
      rw [held, List.length_singleton] at single
      exact List.length_eq_zero_iff.mp (by omega)
    refine S.quiet carries rfl rfl ?_ ?_
    · have prepared : ∀ dispatched : List (Use × CaptureResult), okPrepared { s with
          prepared := s.prepared.eraseIdx k
          dispatched := dispatched } = [] := fun _ => none_left
      rw [prepared]
      simp
    · rw [okUses, okUses, held]
      simp only [no_call, okPrepared, none_left]
      split
      · simp [ok]
      · simp
  · have kept : okPrepared { s with prepared := s.prepared.eraseIdx k } = okPrepared s := by
      simp only [List.filter_cons, succeeded, ok, decide_false, Bool.false_eq_true, if_false]
        at moved
      exact (((List.eraseIdx_sublist s.prepared k).filter succeeded).eq_of_length
        moved.length_eq.symm)
    have sent : ∀ dispatched : List (Use × CaptureResult), okPrepared { s with
        prepared := s.prepared.eraseIdx k
        dispatched := dispatched } = okPrepared s := fun _ => kept
    refine S.quiet carries rfl rfl (by rw [sent]) ?_
    rw [okUses, okUses, sent]
    simp only
    split
    · simp [ok]
    · exact List.Sublist.refl _

private theorem callback_sent (S : Sent I d s) {callbacks : Callbacks} {k : Nat}
    {lease : StreamBufferLease} (taken : streamCallbackStep callbacks k lease s = some t)
    (carries : Carries I d d' s t) : Sent I d' t := by
  simp only [streamCallbackStep] at taken
  split at taken
  · cases taken
  rename_i handler at_handler
  cases taken
  have single := S.single
  obtain ⟨inside, -⟩ := List.getElem?_eq_some_iff.mp at_handler
  obtain ⟨first, only⟩ := List.length_eq_one_iff.mp (show s.callbacks.length = 1 by omega)
  obtain rfl : k = 0 := by omega
  rw [only] at at_handler
  obtain rfl := Option.some.inj at_handler
  have no_ok : s.prepared.filter succeeded = [] :=
    List.length_eq_zero_iff.mp (show (okPrepared s).length = 0 by omega)
  refine S.quiet carries rfl rfl ?_ ?_
  · simp only [okPrepared, no_ok, only, List.eraseIdx_cons_zero]
    simp
  · simp only [okUses, okPrepared, no_ok, only, List.eraseIdx_cons_zero]
    split
    · by_cases ok : first.result.status = .ok <;> simp [ok]
    · simp

theorem step_sent {processors : List (Option (OutputProcessor π))} {callbacks : Callbacks}
    {a : Label} (T : Tracked s) (E : Issued I d s) (S : Sent I d s) (turn : InTurn s a)
    (taken : step D processors callbacks s a = some t) (carries : Carries I d d' s t) :
    Sent I d' t := by
  have flushed : ∀ (results : List CaptureResult) (session : Session δ),
      (∀ result ∈ results, result.status = .flushed) →
      Carries I d d' s (withResults s (results, session)) →
        Sent I d' (withResults s (results, session)) := by
    intro results session status carries
    have kept : okPrepared (withResults s (results, session)) = okPrepared s := by
      simp only [okPrepared, withResults, List.filter_append, List.append_right_eq_self,
        List.filter_eq_nil_iff]
      intro entry member
      obtain ⟨result, listed, rfl⟩ := List.mem_map.mp member
      simp [succeeded, status result listed]
    refine S.quiet carries rfl rfl (by rw [kept]; exact le_rfl) ?_
    rw [okUses, okUses, kept]
    exact List.Sublist.refl _
  cases a with
  | configureStreams registered =>
    cases taken
    exact S.quiet carries rfl rfl le_rfl (List.Sublist.refl _)
  | startStreaming =>
    cases taken
    exact S.quiet carries rfl rfl le_rfl (List.Sublist.refl _)
  | processRequest request =>
    simp only [step] at taken
    split at taken <;> cases taken
    exact S.quiet carries rfl rfl le_rfl (List.Sublist.refl _)
  | post k accepted =>
    rcases postStep_outcome taken with ⟨-, rfl⟩ | ⟨request, -, -, rfl⟩ <;>
      exact S.quiet carries rfl rfl le_rfl (List.Sublist.refl _)
  | runTask k now =>
    obtain ⟨n, request, -, ⟨result, session, outcome, rfl⟩ | ⟨session, -, rfl⟩⟩ :=
      runTaskStep_outcome D taken
    · have failed : result.status ≠ .ok := by
        rcases submit_counts outcome with ⟨none_given, -⟩ | ⟨given, same, bad, -⟩
        · cases none_given
        · obtain rfl := Option.some.inj same
          exact bad
      have kept : ∀ (u : System δ π), u.prepared = s.prepared ++ [(n, result)] →
          okPrepared u = okPrepared s := by
        intro u prepared
        simp [okPrepared, prepared, succeeded, failed]
      refine S.quiet carries rfl rfl (by rw [kept _ rfl]) ?_
      rw [okUses, okUses, kept _ rfl]
    · exact S.quiet carries rfl rfl le_rfl (List.Sublist.refl _)
  | dequeue readyFd =>
    cases taken
    exact dequeue_sent S E turn carries
  | process k now => exact process_sent S T taken carries
  | dispatch k => exact dispatch_sent S taken carries
  | streamCallback k lease => exact callback_sent S taken carries
  | returnStream k =>
    simp only [step, returnStep] at taken
    split at taken <;> cases taken
    exact S.quiet carries rfl rfl le_rfl (List.Sublist.refl _)
  | flush now =>
    cases taken
    exact flushed _ _ SessionTurns.flush_status carries
  | close now =>
    cases taken
    exact flushed _ _ SessionTurns.close_status carries

theorem initial_sent (config : CameraDeviceSessionConfig) (p : π) (sound : I.sound d) :
    Issued I d (System.initial config (some d) p : System δ π) ∧
      Sent I d (System.initial config (some d) p : System δ π) := by
  refine ⟨⟨rfl, sound, ?_, ?_, ?_⟩, ⟨?_, ?_, ?_, ?_, ?_⟩⟩ <;>
    simp [System.initial, reportedTokens, okPrepared, okUses]

theorem reachable_sent {processors : List (Option (OutputProcessor π))} {callbacks : Callbacks}
    {config : CameraDeviceSessionConfig} {p : π} (sound : I.sound d)
    (run : Reaches (step D processors callbacks) InTurn (System.initial config (some d) p) s) :
    ∃ d', Issued I d' s ∧ Sent I d' s := by
  have all : Tracked s ∧ ∃ d', Issued I d' s ∧ Sent I d' s := by
    refine run.invariant (fun s => Tracked s ∧ ∃ d', Issued I d' s ∧ Sent I d' s) ?_
      ⟨initial_tracked config (some d) p, d, initial_sent config p sound⟩
    rintro s a t ⟨T, d₁, E, S⟩ turn taken
    obtain ⟨d₂, carries⟩ := step_carries T E turn taken
    exact ⟨step_tracked D processors callbacks T taken, d₂, carries.issued,
      step_sent T E S turn taken carries⟩
  exact all.2

theorem uses_in_order (E : Issued I d s) (S : Sent I d s) : (okUses s).Pairwise NotAfter := by
  refine List.Pairwise.sublist S.uses (List.pairwise_map.mpr ?_)
  have tokens : (s.credits.map (·.token)).Pairwise (· < ·) :=
    S.ordered.sublist (List.sublist_append_left _ _)
  refine (List.pairwise_map.mp tokens).imp_of_mem ?_
  intro credit later member member' lower
  obtain ⟨b, found, use⟩ := S.credited credit member
  obtain ⟨b', found', use'⟩ := S.credited later member'
  rw [← use, ← use']
  exact E.rising _ _ b b' found found' lower

end Reporting

section Messages

def isCapture (result : CaptureResult) : Bool := result.status = .ok ∧ result.message = "ok"

def isPreview (result : CaptureResult) : Bool :=
  result.status = .ok ∧ result.message = "preview"

structure Told (s : System δ π) : Prop where
  callbacks : ∀ handler ∈ s.callbacks, handler.result.message = "preview"
  prepared : ∀ entry ∈ s.prepared, entry.2.status = .ok → entry.2.message = "ok"
  captures : ∀ entry ∈ s.dispatched, ∀ n, entry.1 = .capture n → entry.2.status = .ok →
    entry.2.message = "ok"
  previews : ∀ entry ∈ s.dispatched, ∀ f, entry.1 = .preview f → entry.2.message = "preview"

variable {D : DriverAdapter δ} {s t : System δ π}

private theorem Told.flushed (M : Told s) (results : List CaptureResult) (session : Session δ)
    (status : ∀ result ∈ results, result.status = .flushed) :
    Told (withResults s (results, session)) := by
  refine { M with prepared := ?_ }
  intro entry member ok
  rcases List.mem_append.mp member with before | here
  · exact M.prepared entry before ok
  · obtain ⟨result, listed, rfl⟩ := List.mem_map.mp here
    rw [status result listed] at ok
    cases ok

theorem step_told {processors : List (Option (OutputProcessor π))} {callbacks : Callbacks}
    {a : Label} (T : Tracked s) (M : Told s)
    (taken : step D processors callbacks s a = some t) : Told t := by
  cases a with
  | configureStreams registered =>
    cases taken
    exact { M with }
  | startStreaming =>
    cases taken
    exact { M with }
  | processRequest request =>
    simp only [step] at taken
    split at taken <;> cases taken
    exact { M with }
  | post k accepted =>
    rcases postStep_outcome taken with ⟨-, rfl⟩ | ⟨request, -, -, rfl⟩ <;> exact { M with }
  | runTask k now =>
    obtain ⟨n, request, -, ⟨result, session, outcome, rfl⟩ | ⟨session, -, rfl⟩⟩ :=
      runTaskStep_outcome D taken
    · refine { M with prepared := ?_ }
      intro entry member ok
      rcases List.mem_append.mp member with before | here
      · exact M.prepared entry before ok
      · obtain rfl := List.mem_singleton.mp here
        rcases submit_counts outcome with ⟨none_given, -⟩ | ⟨given, same, bad, -⟩
        · cases none_given
        · obtain rfl := Option.some.inj same
          exact (bad ok).elim
    · exact { M with }
  | dequeue readyFd =>
    cases taken
    exact { M with }
  | process k now =>
    obtain ⟨completion, filled, p, session, -, outcome, rfl⟩ :=
      processStep_outcome T.consistent taken
    cases outcome with
    | unknown unbound => exact { M with }
    | waiting bound live member index still processed pending => exact { M with }
    | preview bound negative row processed =>
      refine { M with callbacks := ?_ }
      intro handler member
      rcases List.mem_append.mp member with before | here
      · exact M.callbacks handler before
      · obtain rfl := List.mem_singleton.mp here
        rfl
    | complete bound live member index still processed finished =>
      refine { M with prepared := ?_ }
      intro entry member ok
      rcases List.mem_append.mp member with before | here
      · exact M.prepared entry before ok
      · obtain rfl := List.mem_singleton.mp here
        rfl
  | dispatch k =>
    simp only [step, dispatchStep] at taken
    split at taken
    · cases taken
    rename_i id result at_result
    cases taken
    have here := M.prepared _ (List.mem_of_getElem? at_result)
    refine ⟨M.callbacks, fun entry member => M.prepared entry (List.mem_of_mem_eraseIdx member),
      ?_, ?_⟩
    · intro entry member n capture ok
      simp only at member
      split at member
      · rcases List.mem_append.mp member with before | new
        · exact M.captures entry before n capture ok
        · obtain rfl := List.mem_singleton.mp new
          exact here ok
      · exact M.captures entry member n capture ok
    · intro entry member f preview
      simp only at member
      split at member
      · rcases List.mem_append.mp member with before | new
        · exact M.previews entry before f preview
        · obtain rfl := List.mem_singleton.mp new
          cases preview
      · exact M.previews entry member f preview
  | streamCallback k lease =>
    simp only [step, streamCallbackStep] at taken
    split at taken
    · cases taken
    rename_i handler at_handler
    cases taken
    have here := M.callbacks _ (List.mem_of_getElem? at_handler)
    refine ⟨fun handler member => M.callbacks handler (List.mem_of_mem_eraseIdx member),
      M.prepared, ?_, ?_⟩
    · intro entry member n capture ok
      simp only at member
      split at member
      · rcases List.mem_append.mp member with before | new
        · exact M.captures entry before n capture ok
        · obtain rfl := List.mem_singleton.mp new
          cases capture
      · exact M.captures entry member n capture ok
    · intro entry member f preview
      simp only at member
      split at member
      · rcases List.mem_append.mp member with before | new
        · exact M.previews entry before f preview
        · obtain rfl := List.mem_singleton.mp new
          exact here
      · exact M.previews entry member f preview
  | returnStream k =>
    simp only [step, returnStep] at taken
    split at taken <;> cases taken
    exact { M with }
  | flush now =>
    cases taken
    exact M.flushed _ _ SessionTurns.flush_status
  | close now =>
    cases taken
    exact M.flushed _ _ SessionTurns.close_status

theorem reachable_told {processors : List (Option (OutputProcessor π))} {callbacks : Callbacks}
    {permitted : System δ π → Label → Prop} {config : CameraDeviceSessionConfig}
    {driver : Option δ} {p : π}
    (run : Reaches (step D processors callbacks) permitted (System.initial config driver p) s) :
    Told s := by
  have both : Tracked s ∧ Told s := by
    refine run.invariant (fun s => Tracked s ∧ Told s) (fun _ _ _ known _ taken =>
      ⟨step_tracked D processors callbacks known.1 taken, step_told known.1 known.2 taken⟩) ?_
    refine ⟨initial_tracked config driver p, ?_, ?_, ?_, ?_⟩ <;> simp [System.initial]
  exact both.2

end Messages

section Order

theorem sublist_of_rising {α β : Type} {l : List α} {places : List β} (place : β → Nat)
    (value : β → α) (rising : (places.map place).Pairwise (· < ·))
    (found : ∀ entry ∈ places, l[place entry]? = some (value entry)) :
    (places.map value).Sublist l := by
  have inside : places.map place ⊆ List.range l.length := by
    intro n member
    obtain ⟨entry, listed, rfl⟩ := List.mem_map.mp member
    exact List.mem_range.mpr (List.getElem?_eq_some_iff.mp (found entry listed)).1
  have sub : (places.map place).Sublist (List.range l.length) :=
    List.sublist_of_subperm_of_pairwise (r := (· ≤ ·))
      (List.subperm_of_subset (rising.imp Nat.ne_of_lt) inside) (rising.imp Nat.le_of_lt)
      (List.pairwise_lt_range.imp Nat.le_of_lt)
  have values : (places.map place).filterMap (fun n => l[n]?) = places.map value := by
    rw [List.filterMap_map]
    refine List.filterMap_eq_map_iff_forall_eq_some.mpr ?_
    intro entry listed
    exact found entry listed
  have whole : (List.range l.length).filterMap (fun n => l[n]?) = l := by
    have all : (List.range l.length).map (fun n => l[n]?) = l.map some := by
      apply List.ext_getElem <;> simp
    have kept := congrArg (List.filterMap id) all
    rw [List.filterMap_map, List.filterMap_map] at kept
    simpa using kept
  rw [← values]
  conv => rhs; rw [← whole]
  exact sub.filterMap _

variable {D : DriverAdapter δ} {I : InOrder D} {d : δ} {s : System δ π}

theorem dispatched_in_order (E : Issued I d s) (S : Sent I d s)
    (test : Use × CaptureResult → Bool)
    (ok : ∀ entry, test entry = true → entry.2.status = .ok) :
    (s.dispatched.filter test).Pairwise fun entry later => NotAfter entry.1 later.1 := by
  have sub : (s.dispatched.filter test).Sublist
      (s.dispatched.filter fun entry => decide (entry.2.status = .ok)) := by
    refine List.monotone_filter_right _ ?_
    intro entry passed
    exact decide_eq_true (ok entry passed)
  have uses : ((s.dispatched.filter fun entry => decide (entry.2.status = .ok)).map
      Prod.fst).Sublist (okUses s) := by
    rw [okUses, List.append_assoc]
    exact List.sublist_append_left _ _
  exact (List.pairwise_map.mp ((uses_in_order E S).sublist uses)).sublist sub

theorem captures_in_order (E : Issued I d s) (S : Sent I d s) (O : Once s) (M : Told s) :
    (((s.dispatched.filter fun entry => isCapture entry.2).map fun entry =>
      entry.2.frameNumber)).Sublist (s.accepted.map (·.frameNumber)) := by
  have known : ∀ entry ∈ s.dispatched.filter fun entry => isCapture entry.2,
      ∃ n request, entry.1 = .capture n ∧ s.accepted[n]? = some request ∧
        request.frameNumber = entry.2.frameNumber := by
    intro entry member
    obtain ⟨listed, passed⟩ := List.mem_filter.mp member
    simp only [isCapture, decide_eq_true_eq] at passed
    cases use : entry.1 with
    | preview f =>
      rw [M.previews entry listed f use] at passed
      exact absurd passed.2 (by decide)
    | capture n =>
      have sent : (n, entry.2.frameNumber) ∈ delivered s := by
        refine List.mem_filterMap.mpr ⟨entry, listed, ?_⟩
        rw [use]
      obtain ⟨request, at_n, frame⟩ := O.accepted _ (List.mem_append_right _ sent)
      exact ⟨n, request, rfl, at_n, frame⟩
  have place : ∃ place : Use × CaptureResult → Nat, ∀ entry, ∀ n, entry.1 = .capture n →
      place entry = n := by
    refine ⟨fun entry => match entry.1 with | .capture n => n | .preview f => f, ?_⟩
    intro entry n use
    simp only [use]
  obtain ⟨place, place_eq⟩ := place
  refine sublist_of_rising place (fun entry => entry.2.frameNumber) ?_ ?_
  · have chain := dispatched_in_order E S (fun entry => isCapture entry.2) (by
      intro entry passed
      simp only [isCapture, decide_eq_true_eq] at passed
      exact passed.1)
    have apart : (s.dispatched.filter fun entry => isCapture entry.2).Pairwise fun entry later =>
        entry.1 ≠ later.1 :=
      (List.pairwise_map.mp O.uses).sublist List.filter_sublist
    refine List.pairwise_map.mpr ((chain.and apart).imp_of_mem ?_)
    rintro entry later member member' ⟨ordered, different⟩
    obtain ⟨n, -, use, -⟩ := known entry member
    obtain ⟨m, -, use', -⟩ := known later member'
    rw [place_eq entry n use, place_eq later m use']
    rw [use, use'] at ordered different
    have le : n ≤ m := ordered
    have ne : n ≠ m := fun same => different (by rw [same])
    omega
  · intro entry member
    obtain ⟨n, request, use, at_n, frame⟩ := known entry member
    rw [place_eq entry n use, List.getElem?_map, at_n, Option.map_some, frame]

theorem previews_in_order (E : Issued I d s) (S : Sent I d s) (N : Named s) (M : Told s) :
    ((s.dispatched.filter fun entry => isPreview entry.2).map fun entry =>
      entry.2.frameNumber).Pairwise (· < ·) := by
  have known : ∀ entry ∈ s.dispatched.filter fun entry => isPreview entry.2,
      entry.1 = .preview entry.2.frameNumber := by
    intro entry member
    obtain ⟨listed, passed⟩ := List.mem_filter.mp member
    simp only [isPreview, decide_eq_true_eq] at passed
    cases use : entry.1 with
    | preview f => rw [N.dispatched entry listed f use]
    | capture n =>
      rw [M.captures entry listed n use passed.1] at passed
      exact absurd passed.2 (by decide)
  have chain := dispatched_in_order E S (fun entry => isPreview entry.2) (by
    intro entry passed
    simp only [isPreview, decide_eq_true_eq] at passed
    exact passed.1)
  refine List.pairwise_map.mpr (chain.imp_of_mem ?_)
  intro entry later member member' ordered
  rw [known entry member, known later member'] at ordered
  exact ordered

/-- What the callbacks of a session receive from its threads, over a driver that reports buffers
in the order of their submission: the Ok results of requests come in the order in which the
requests were accepted, and preview results in the order of their frame numbers, whatever the
interleaving with flushes, restarts and other callers. -/
theorem reports_in_order (D : DriverAdapter δ) (I : InOrder D)
    (processors : List (Option (OutputProcessor π))) (callbacks : Callbacks)
    (config : CameraDeviceSessionConfig) (d : δ) (p : π) (t : Threads δ π) (sound : I.sound d)
    (run : Reaches (SessionThreads.step D processors callbacks) always
      (Threads.initial config (some d) p) t) :
    ((t.reported.filter isCapture).map (·.frameNumber)).Sublist
        (t.accepted.map (·.frameNumber)) ∧
      ((t.reported.filter isPreview).map (·.frameNumber)).Pairwise (· < ·) := by
  obtain ⟨u, matched, M⟩ := (threads_simulate D processors callbacks).reaches run
    (initial_matches config (some d) p)
  obtain ⟨d', E, S⟩ := reachable_sent sound matched
  have told := reachable_told matched
  rw [← M.reported, ← M.accepted, List.filter_map, List.filter_map, List.map_map, List.map_map]
  exact ⟨captures_in_order E S (reachable_once matched) told,
    previews_in_order E S (reachable_named matched) told⟩

end Order

section Mock

def rising (m : MockDriver) : Prop :=
  (m.completions.map (·.token)).Pairwise (· < ·) ∧ ∀ c ∈ m.completions, c.token < m.nextToken

def nextReported (m : MockDriver) : Nat :=
  match m.completions with
  | [] => m.nextToken
  | completion :: _ => completion.token

def mockOrder : TokenOrder MockDriver :=
  { sound := rising, issued := fun m => m.nextToken, reported := nextReported }

private theorem mock_kept {m m' : MockDriver} (sound : rising m)
    (completions : m'.completions = m.completions) (next : m'.nextToken = m.nextToken) :
    mockOrder.Follows m m' := by
  refine ⟨?_, Nat.le_of_eq next.symm, ?_⟩
  · simp only [mockOrder, rising, completions, next]
    exact sound
  · simp only [mockOrder, nextReported, completions, next, Nat.le_refl]

private theorem mock_complete {m m' : MockDriver} {width height : Int}
    {answer : Option DriverToken} (sound : rising m)
    (run : MockDriverAdapter.complete width height m = (answer, m')) :
    mockOrder.Follows m m' ∧ ∀ τ, answer = some τ → mockOrder.New m m' τ := by
  have pushed : m'.nextToken = m.nextToken + 1 ∧
      (∃ c : DriverCompletion, c.token = m.nextToken ∧ m'.completions = m.completions ++ [c]) ∧
        ∀ τ, answer = some τ → τ = m.nextToken := by
    simp only [MockDriverAdapter.complete] at run
    split at run <;> cases run
    · exact ⟨rfl, ⟨_, rfl, rfl⟩, fun τ same => (Option.some.inj same).symm⟩
    · exact ⟨rfl, ⟨_, rfl, rfl⟩, fun τ same => by cases same⟩
  obtain ⟨next, ⟨c, token, completions⟩, given⟩ := pushed
  refine ⟨⟨⟨?_, ?_⟩, ?_, ?_⟩, ?_⟩
  · rw [completions, List.map_append]
    refine List.pairwise_append.mpr ⟨sound.1, List.pairwise_singleton _ _, ?_⟩
    intro τ before τ' here
    obtain ⟨earlier, member, rfl⟩ := List.mem_map.mp before
    obtain rfl := List.mem_singleton.mp here
    show earlier.token < c.token
    rw [token]
    exact sound.2 earlier member
  · rw [completions, next]
    intro completion member
    rcases List.mem_append.mp member with before | here
    · exact Nat.lt_succ_of_lt (sound.2 completion before)
    · obtain rfl := List.mem_singleton.mp here
      rw [token]
      exact Nat.lt_succ_self _
  · simp only [mockOrder, next, Nat.le_succ]
  · simp only [mockOrder, nextReported, completions]
    cases m.completions with
    | nil => simp only [List.nil_append, token, Nat.le_refl]
    | cons first rest => simp only [List.cons_append, Nat.le_refl]
  · intro τ same
    obtain rfl := given τ same
    exact ⟨Nat.le_refl _, by simp only [mockOrder, next, Nat.lt_succ_self]⟩

private theorem mock_completeAll {sizes : List (Int × Int)} {m m' : MockDriver}
    {answer : Option (List DriverToken)} (sound : rising m)
    (run : MockDriverAdapter.completeAll sizes m = (answer, m')) :
    mockOrder.Follows m m' ∧ ∀ tokens, answer = some tokens →
      tokens.Pairwise (· < ·) ∧ ∀ τ ∈ tokens, mockOrder.New m m' τ := by
  induction sizes generalizing m m' answer with
  | nil =>
    cases run
    refine ⟨TokenOrder.Follows.refl sound, fun tokens same => ?_⟩
    cases same
    exact ⟨List.Pairwise.nil, fun τ member => by cases member⟩
  | cons size rest ih =>
    obtain ⟨width, height⟩ := size
    simp only [MockDriverAdapter.completeAll] at run
    cases first : MockDriverAdapter.complete width height m with
    | mk one m₁ =>
      obtain ⟨before, new⟩ := mock_complete sound first
      rw [first] at run
      cases one with
      | none =>
        cases run
        exact ⟨before, fun tokens same => by cases same⟩
      | some token =>
        cases others : MockDriverAdapter.completeAll rest m₁ with
        | mk more m₂ =>
          obtain ⟨after, news⟩ := ih before.sound others
          simp only [others] at run
          cases more with
          | none =>
            cases run
            exact ⟨before.trans after, fun tokens same => by cases same⟩
          | some tokens =>
            cases run
            obtain ⟨chain, later⟩ := news tokens rfl
            refine ⟨before.trans after, fun tokens' same => ?_⟩
            cases same
            refine ⟨List.pairwise_cons.mpr ⟨?_, chain⟩, ?_⟩
            · intro τ member
              exact Nat.lt_of_lt_of_le (new token rfl).upper (later τ member).lower
            · intro τ member
              rcases List.mem_cons.mp member with rfl | inside
              · exact (new τ rfl).within (TokenOrder.Follows.refl sound) after
              · exact (later τ inside).within before (TokenOrder.Follows.refl after.sound)

private theorem mock_openPipe {m m' : MockDriver} {ok : Bool}
    (run : MockDriverAdapter.openPipe m = (ok, m')) :
    m'.completions = m.completions ∧ m'.nextToken = m.nextToken := by
  simp only [MockDriverAdapter.openPipe] at run
  split at run
  · cases run
    exact ⟨rfl, rfl⟩
  · split at run <;> cases run <;> exact ⟨rfl, rfl⟩

/-- The mock driver completes buffers in the order of their submission. -/
def mockInOrder : InOrder adapter where
  toTokenOrder := mockOrder
  configures := by
    intro m sound
    simp only [adapter, MockDriverAdapter.configureStream]
    split <;> rename_i opened <;> obtain ⟨completions, next⟩ := mock_openPipe opened <;>
      exact mock_kept sound completions next
  starts := by
    intro m sound
    refine mock_kept sound ?_ ?_ <;>
      simp only [adapter, MockDriverAdapter.startStreaming] <;> split <;> rfl
  stops := fun m sound => mock_kept sound rfl rfl
  closes := by
    intro m sound
    refine ⟨⟨List.Pairwise.nil, fun c member => by cases member⟩, Nat.le_refl _, ?_⟩
    simp only [mockOrder, nextReported, adapter, MockDriverAdapter.close]
    split
    · exact Nat.le_refl _
    · rename_i first rest completions
      exact Nat.le_of_lt (sound.2 first (completions ▸ List.mem_cons_self))
  preflights := fun m outputs sound => mock_kept sound rfl rfl
  submits := by
    intro m target answer m' sound run
    simp only [adapter, MockDriverAdapter.submitCapture] at run
    split at run
    · split at run
      · cases run
        exact ⟨mock_kept sound rfl rfl, fun τ same => by cases same⟩
      · have counted : rising { m with submitCount := m.submitCount + 1 } := sound
        have first : mockOrder.Follows m { m with submitCount := m.submitCount + 1 } :=
          mock_kept sound rfl rfl
        obtain ⟨follows, new⟩ := mock_complete counted run
        exact ⟨first.trans follows,
          fun τ same => (new τ same).within first (TokenOrder.Follows.refl follows.sound)⟩
    · cases run
      exact ⟨mock_kept sound rfl rfl, fun τ same => by cases same⟩
  streams := by
    intro m stream buffers answer m' sound run
    simp only [adapter, MockDriverAdapter.startContinuousStream] at run
    split at run
    · split at run <;> exact mock_completeAll sound run
    · cases run
      exact ⟨mock_kept sound rfl rfl, fun tokens same => by cases same⟩
  dequeues := by
    intro m readyFd answer m' sound run
    simp only [adapter, MockDriverAdapter.dequeueCompletion] at run
    split at run
    · split at run
      · cases run
        exact ⟨mock_kept sound rfl rfl, fun c same => by cases same⟩
      · rename_i first rest completions
        cases run
        obtain ⟨chain, below⟩ := sound
        rw [completions] at chain below
        have upper := below first List.mem_cons_self
        have later : first.token < nextReported { m with completions := rest } := by
          simp only [nextReported]
          cases rest with
          | nil => exact upper
          | cons second others =>
            exact (List.pairwise_cons.mp chain).1 second.token List.mem_cons_self
        have reported : nextReported m = first.token := by simp only [nextReported, completions]
        refine ⟨⟨⟨(List.pairwise_cons.mp chain).2, ?_⟩, Nat.le_refl _, ?_⟩, ?_⟩
        · exact fun c member => below c (List.mem_cons_of_mem _ member)
        · exact Nat.le_trans (Nat.le_of_eq reported) (Nat.le_of_lt later)
        · intro c same
          cases same
          exact ⟨Nat.le_of_eq reported, later⟩
    · cases run
      exact ⟨mock_kept sound rfl rfl, fun c same => by cases same⟩
  returns := by
    intro m lease answer m' sound run
    simp only [adapter, MockDriverAdapter.returnStreamBuffer] at run
    split at run
    · cases run
      obtain ⟨chain, below⟩ := sound
      refine ⟨⟨⟨chain, fun c member => Nat.lt_succ_of_lt (below c member)⟩, Nat.le_succ _, ?_⟩, ?_⟩
      · simp only [mockOrder, nextReported]
        split <;> simp_all
      · intro τ same
        cases same
        exact ⟨Nat.le_refl _, Nat.lt_succ_self _⟩
    · cases run
      exact ⟨mock_kept sound rfl rfl, fun τ same => by cases same⟩

def previewScript : List SessionThreads.Label :=
  [.configureStreams true, .startStreaming, .processRequest { frameNumber := 7 },
    .processRequest { frameNumber := 9 }, .post 1 true, .post 0 true, .pop, .submit 10, .pop,
    .submit 20, .postReady 5 true true, .pop, .poll, .complete 30,
    .call { bufferId := 3 }, .giveBack, .poll, .complete 40, .report, .poll, .complete 50, .report,
    .poll]

theorem reports_in_order_preview :
    ∃ t : Threads MockDriver Unit,
      t.reported.map (·.frameNumber) = [1000000000000, 9, 7] ∧
      ((t.reported.filter isCapture).map (·.frameNumber)).Sublist
        (t.accepted.map (·.frameNumber)) ∧
      ((t.reported.filter isPreview).map (·.frameNumber)).Pairwise (· < ·) := by
  obtain ⟨t, run, passed⟩ := exists_reaches_of_replay
    (SessionThreads.step adapter [] { result := true, stream := true }) always
    (Threads.initial previewConfig (some {}) () : Threads MockDriver Unit) previewScript
    (fun t => t.reported.map (·.frameNumber) == [1000000000000, 9, 7]) (by decide)
  exact ⟨t, beq_iff_eq.mp passed, reports_in_order adapter mockInOrder []
    { result := true, stream := true } previewConfig {} () t
    ⟨List.Pairwise.nil, fun c member => by cases member⟩ run⟩

end Mock

end MiniCam.Hal.ReportOrder
