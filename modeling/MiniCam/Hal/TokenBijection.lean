/- Module: MiniCam/Hal/TokenBijection
   source: hal/in_flight_request_tracker.cpp, hal/camera_device_session.cpp
   digest: The bijection between tokens and open outputs along every run of a session. -/

import MiniCam.Hal.MockDriverAdapter
import MiniCam.Hal.SessionSpec

set_option autoImplicit false
set_option relaxedAutoImplicit false

namespace MiniCam.Hal.TokenBijection

open MiniCam.Foundation.KeyedTable
open MiniCam.Foundation.Runs (Reaches always exists_reaches_of_replay)
open MiniCam.Hal.Interface
open MiniCam.Hal.InFlightRequestTracker
open MiniCam.Hal.CameraDeviceSession
open MiniCam.Hal.TrackerInvariant
open MiniCam.Hal.SessionSpec
open MiniCam.Hal.SessionSystem

variable {δ π : Type}

def currentUse (owner : Nat → Nat) (c : DriverOutputContext) : Use :=
  if c.outputIndex < 0 then .preview c.frameNumber else .capture (owner c.frameNumber)

def Holding (state : CameraSessionState) : Prop :=
  state = .configured ∨ state = .streaming ∨ state = .error

/-- The tables are consistent, empty in every other state, and every bound token is still
for the use it was bound for. -/
structure Tracked (s : System δ π) : Prop where
  consistent : Consistent s.session.inFlight s.session.nextStreamingFrameNumber
  idle : ¬ Holding s.session.state → s.session.inFlight = Tracker.empty
  attributed : ∀ τ c, s.session.inFlight.driverOutputs.lookup τ = some c →
    s.boundFor τ = bindingOf s.session.inFlight (currentUse s.owner c) c

theorem Tracked.stopped {s : System δ π} (T : Tracked s) (halted : s.session.state = .stopped) :
    s.session.inFlight = Tracker.empty :=
  T.idle (by simp [Holding, halted])

section Bindings

theorem bindingOf_congr {t t' : Tracker} {c : DriverOutputContext} (use : Use)
    (stream : c.outputIndex < 0 →
      t'.streamingOutputs.lookup c.frameNumber = t.streamingOutputs.lookup c.frameNumber)
    (target : 0 ≤ c.outputIndex →
      t'.outputTarget c.frameNumber c.outputIndex = t.outputTarget c.frameNumber c.outputIndex) :
    bindingOf t' use c = bindingOf t use c := by
  by_cases negative : c.outputIndex < 0
  · simp only [bindingOf, negative, if_true, stream negative]
  · simp only [bindingOf, negative, if_false, target (Int.not_lt.mp negative)]

theorem outputTarget_of_lookup {t t' : Tracker} {f : Nat} {index : Int}
    (same : t'.requests.lookup f = t.requests.lookup f) :
    t'.outputTarget f index = t.outputTarget f index := by
  simp only [Tracker.outputTarget, same]

theorem outputTarget_marked {t t' : Tracker} {f : Nat} {row : InFlightRequest}
    {index fence : Int} (i : Int) (before : t.requests.lookup f = some row)
    (after : t'.requests.lookup f = some (markedRow row index fence)) :
    t'.outputTarget f i = t.outputTarget f i := by
  have test : ∀ o : InFlightOutput, ((fun o : InFlightOutput => decide (o.outputIndex = i)) ∘
      Tracker.markOutput index fence) o = decide (o.outputIndex = i) := by
    intro o
    simp only [Function.comp, markOutput_index]
  have kept : ∀ o : InFlightOutput, (Tracker.markOutput index fence o).target = o.target := by
    intro o
    simp only [Tracker.markOutput]
    split <;> rfl
  simp only [Tracker.outputTarget, before, after, Option.bind_some, markedRow, List.find?_map,
    Option.map_map]
  congr 1
  · funext o
    exact kept o
  · congr 1
    funext o
    exact test o

theorem recordBindings_cases (before after : Tracker) (use : DriverOutputContext → Use)
    (old : DriverToken → Option Binding) (τ : DriverToken) :
    recordBindings before after use old τ = old τ ∨
      ∃ c, after.driverOutputs.lookup τ = some c ∧ τ ∉ before.driverOutputs ∧
        recordBindings before after use old τ = bindingOf after (use c) c := by
  simp only [recordBindings]
  split
  · exact Or.inl rfl
  · rename_i c found
    split
    · exact Or.inl rfl
    · rename_i fresh
      exact Or.inr ⟨c, found, fresh, rfl⟩

theorem recordBindings_self (before : Tracker) (use : DriverOutputContext → Use)
    (old : DriverToken → Option Binding) : recordBindings before before use old = old := by
  funext τ
  rcases recordBindings_cases before before use old τ with same | ⟨c, found, fresh, -⟩
  · exact same
  · exact (fresh (mem_of_lookup found)).elim

end Bindings

section Preservation

variable (D : DriverAdapter δ) (processors : List (Option (OutputProcessor π)))
  (callbacks : Callbacks)

private theorem attributed_previews {owner : Nat → Nat} {boundFor : DriverToken → Option Binding}
    {t : Tracker} (next : Nat) (C : Consistent t next)
    (attributed : ∀ τ c, t.driverOutputs.lookup τ = some c →
      boundFor τ = bindingOf t (currentUse owner c) c)
    (pairs : List (DriverToken × InFlightStreamingOutput)) (τ : DriverToken)
    (c : DriverOutputContext)
    (found : (bindStreamingOutputs pairs t).2.driverOutputs.lookup τ = some c) :
    recordBindings t (bindStreamingOutputs pairs t).2 previewUse boundFor τ =
      bindingOf (bindStreamingOutputs pairs t).2 (currentUse owner c) c := by
  obtain ⟨rows, streams, -, news⟩ := bindStreamingOutputs_adds pairs t
  simp only [recordBindings, found]
  rcases news τ c found with before | ⟨fresh, -, output, -, rfl, -⟩
  · rw [if_pos (mem_of_lookup before), attributed τ c before]
    refine (bindingOf_congr _ ?_ ?_).symm
    · intro negative
      obtain ⟨-, output, at_row⟩ := C.streams τ c before negative
      rw [at_row, streams _ _ at_row]
    · intro _
      exact outputTarget_of_lookup (by rw [rows])
  · rw [if_neg fresh]
    rfl

private theorem start_tracked {s : System δ π} (T : Tracked s) : Tracked (startStep D s) := by
  rcases startStreaming_cases D s.session with
    same | ⟨d, d', next, state, -, configured, became, grows, ⟨same, -⟩ | ⟨submissions, -, -,
      length, counted, same⟩⟩
  · have kept : startStep D s = { s with
        boundFor := recordBindings s.session.inFlight s.session.inFlight previewUse
          s.boundFor } := by
      simp only [startStep, same]
    rw [kept]
    refine ⟨T.consistent, T.idle, fun τ c found => ?_⟩
    have member : τ ∈ s.session.inFlight.driverOutputs := mem_of_lookup found
    simp only [recordBindings, found, if_pos member]
    exact T.attributed τ c found
  · have shape : startStep D s = { s with
        session := { s.session with
          driver := some d', state := state, nextStreamingFrameNumber := next }
        boundFor := recordBindings s.session.inFlight s.session.inFlight previewUse
          s.boundFor } := by
      simp only [startStep, same]
    rw [shape]
    refine ⟨T.consistent.mono grows, fun idle => ?_, fun τ c found => ?_⟩
    · exact (idle (by rcases became with rfl | rfl <;> simp [Holding])).elim
    · have member : τ ∈ s.session.inFlight.driverOutputs := mem_of_lookup found
      simp only [recordBindings, found, if_pos member]
      exact T.attributed τ c found
  · have shape := same
    simp only [startStep, shape]
    refine ⟨?_, fun idle => ?_, ?_⟩
    · have lengths : (submissions.zip (streamingOutputsFrom s.session.nextStreamingFrameNumber
          s.session.config.continuousPreviewBuffers)).length = submissions.length := by
        simp [streamingOutputsFrom, length]
      have frames : (submissions.zip (streamingOutputsFrom s.session.nextStreamingFrameNumber
          s.session.config.continuousPreviewBuffers)).map (·.2.frameNumber) =
            List.range' s.session.nextStreamingFrameNumber submissions.length := by
        rw [length, ← streamingOutputsFrom_frames]
        have second : (fun p : DriverToken × InFlightStreamingOutput => p.2.frameNumber) =
            (·.frameNumber) ∘ Prod.snd := rfl
        rw [second, ← List.map_map, List.map_snd_zip (by simp [streamingOutputsFrom, length])]
      have all := bindStreamingOutputs_consistent T.consistent (lengths.symm ▸ frames)
      rw [lengths, ← counted] at all
      exact all
    · exact (idle (by rcases became with rfl | rfl <;> simp [Holding])).elim
    · exact attributed_previews _ T.consistent T.attributed _

private theorem return_tracked {s t : System δ π} {k : Nat} (T : Tracked s)
    (taken : returnStep D k s = some t) : Tracked t := by
  simp only [returnStep] at taken
  split at taken
  · cases taken
  rename_i handler at_handler
  cases taken
  have quiet : ∀ session : Session δ, session.inFlight = s.session.inFlight →
      session.nextStreamingFrameNumber = s.session.nextStreamingFrameNumber →
      session.state = s.session.state →
      Tracked { s with
        returning := s.returning.eraseIdx k
        session := session
        boundFor := recordBindings s.session.inFlight session.inFlight previewUse s.boundFor } := by
    intro session same next state
    refine ⟨?_, fun idle => same ▸ T.idle (state ▸ idle), fun τ c found => ?_⟩
    · rw [same, next]
      exact T.consistent
    · simp only [same] at found ⊢
      have member : τ ∈ s.session.inFlight.driverOutputs := mem_of_lookup found
      simp only [recordBindings, found, if_pos member]
      exact T.attributed τ c found
  rcases returnStreamBuffer_cases D handler.lease handler.output s.session with
    same | ⟨d, d', metrics, -, streaming, ⟨-, same⟩ | ⟨token, -, same⟩⟩
  · exact quiet _ (by rw [same]) (by rw [same]) (by rw [same])
  · exact quiet _ (by rw [same]) (by rw [same]) (by rw [same])
  · simp only [same]
    refine ⟨?_, fun idle => ?_, ?_⟩
    · exact bindStreamingOutputs_consistent T.consistent rfl
    · exact (idle (Or.inr (Or.inl streaming))).elim
    · exact attributed_previews _ T.consistent T.attributed _

private theorem dropped_tracked {s : System δ π} (T : Tracked s) (f : Nat) (session : Session δ)
    (tracker : session.inFlight = dropFrame s.session.inFlight f)
    (next : session.nextStreamingFrameNumber = s.session.nextStreamingFrameNumber)
    (running : session.state = .streaming) (tasks : List (Nat × CaptureRequest))
    (prepared : List (Nat × CaptureResult)) (submissions : List (Nat × Option δ × Option δ)) :
    Tracked { s with
      session := session
      tasks := tasks
      prepared := prepared
      submissions := submissions } := by
  refine ⟨?_, fun idle => (idle (Or.inr (Or.inl running))).elim, fun τ c found => ?_⟩
  · rw [tracker, next]
    exact dropFrame_consistent T.consistent f
  · rw [tracker] at found ⊢
    obtain ⟨before, other⟩ := lookup_dropFrame_tokens.mp found
    rw [T.attributed τ c before]
    refine bindingOf_congr _ (fun _ => rfl) fun _ => outputTarget_of_lookup ?_
    exact (AList.lookup_erase_ne other).symm

private theorem runTask_tracked {s t : System δ π} {k : Nat} {now : Int} (T : Tracked s)
    (taken : runTaskStep D k now s = some t) : Tracked t := by
  obtain ⟨id, request, -, ⟨result, session, outcome, rfl⟩ | ⟨session, outcome, rfl⟩⟩ :=
    runTaskStep_outcome D taken
  · cases outcome with
    | rejected closed => exact ⟨T.consistent, T.idle, T.attributed⟩
    | refused driver streaming answer message =>
      refine dropped_tracked T request.frameNumber _ ?_ ?_ ?_ _ _ _
      exacts [rfl, rfl, streaming]
    | duplicate driver streaming answer live =>
      refine dropped_tracked T request.frameNumber _ ?_ ?_ ?_ _ _ _
      exacts [rfl, rfl, streaming]
    | failed driver streaming answer absent before stopped =>
      refine dropped_tracked T request.frameNumber _ ?_ ?_ ?_ _ _ _
      exacts [rfl, rfl, streaming]
  · cases outcome with
    | submitted driver streaming answer before finished after bound =>
      refine ⟨submitted_consistent T.consistent bound, fun idle => ?_, fun τ c found => ?_⟩
      · exact (idle (Or.inr (Or.inl streaming))).elim
      · simp only [recordBindings, found]
        rcases (bound.lookups τ c).mp found with before | ⟨i, at_i, rfl⟩
        · rw [if_pos (mem_of_lookup before), T.attributed τ c before]
          by_cases negative : c.outputIndex < 0
          · simp only [currentUse, if_pos negative]
            exact (bindingOf_congr _ (fun _ => by rw [bound.streams])
              fun positive => (Int.not_lt.mpr positive negative).elim).symm
          · have positive := Int.not_lt.mp negative
            obtain ⟨row, at_row, -⟩ := T.consistent.named τ c before positive
            have other : c.frameNumber ≠ request.frameNumber := fun same =>
              bound.absent (same ▸ mem_of_lookup at_row)
            simp only [currentUse, if_neg negative, Function.update_of_ne other]
            refine (bindingOf_congr _ (fun minus => (negative minus).elim) fun _ => ?_).symm
            apply outputTarget_of_lookup
            rw [bound.rows, AList.lookup_insert_ne other]
        · have fresh : τ ∉ s.session.inFlight.driverOutputs :=
            bound.unbound τ (List.mem_of_getElem? at_i)
          have positive : ¬ ((i : Int) < 0) := by omega
          simp only [if_neg fresh, currentUse, if_neg positive, Function.update_self]

private theorem fill_tracked {s : System δ π} (T : Tracked s) {completion : DriverCompletion}
    {now : Int} {filled : Filled} {p : π} {session : Session δ}
    (outcome : FillOutcome processors completion now s.processorState s.session filled p session) :
    Consistent session.inFlight session.nextStreamingFrameNumber ∧
      session.state = s.session.state ∧
      (s.session.inFlight = Tracker.empty → session.inFlight = Tracker.empty) ∧
      ∀ τ c, session.inFlight.driverOutputs.lookup τ = some c →
        s.boundFor τ = bindingOf session.inFlight (currentUse s.owner c) c := by
  have bare : ∀ τ c, s.session.inFlight = Tracker.empty →
      s.session.inFlight.driverOutputs.lookup τ ≠ some c := by
    intro τ c empty
    rw [empty]
    simp [Tracker.empty]
  cases outcome with
  | unknown unbound => exact ⟨T.consistent, rfl, id, T.attributed⟩
  | preview bound negative row processed =>
    refine ⟨take_stream_consistent T.consistent bound negative, rfl,
      fun empty => (bare _ _ empty bound).elim, fun τ c found => ?_⟩
    obtain ⟨other, before⟩ := lookup_erase_eq_some.mp found
    rw [T.attributed τ c before]
    symm
    refine bindingOf_congr _ (fun minus => ?_) fun _ => rfl
    apply AList.lookup_erase_ne
    exact fun same => other (T.consistent.separate _ _ _ _ before bound minus negative same)
  | @waiting c₀ row output fence _ bound live member index still processed pending =>
    refine ⟨complete_consistent T.consistent bound live member index still
      (Or.inl ⟨pending, rfl⟩), rfl, fun empty => (bare _ _ empty bound).elim, fun τ c found => ?_⟩
    obtain ⟨-, before⟩ := lookup_erase_eq_some.mp found
    rw [T.attributed τ c before]
    symm
    refine bindingOf_congr _ (fun _ => rfl) fun _ => ?_
    by_cases same : c.frameNumber = c₀.frameNumber
    · rw [same]
      exact outputTarget_marked _ live (AList.lookup_insert _)
    · exact outputTarget_of_lookup (AList.lookup_insert_ne same)
  | @complete c₀ row output fence _ bound live member index still processed finished =>
    have after := complete_consistent T.consistent bound live member index still
      (Or.inr ⟨finished, rfl⟩)
    refine ⟨after, rfl, fun empty => (bare _ _ empty bound).elim, fun τ c found => ?_⟩
    obtain ⟨-, before⟩ := lookup_erase_eq_some.mp found
    rw [T.attributed τ c before]
    symm
    refine bindingOf_congr _ (fun _ => rfl) fun positive => ?_
    -- A token of the finished row would name an open output of it.
    obtain ⟨row', at_row', -⟩ := after.named τ c found positive
    obtain ⟨other, -⟩ := lookup_erase_eq_some.mp at_row'
    exact outputTarget_of_lookup (AList.lookup_erase_ne other)

private theorem process_tracked {s t : System δ π} {k : Nat} {now : Int} (T : Tracked s)
    (taken : processStep processors k now s = some t) : Tracked t := by
  obtain ⟨completion, filled, p, session, -, outcome, rfl⟩ :=
    processStep_outcome T.consistent taken
  obtain ⟨consistent, state, empty, attributed⟩ := fill_tracked processors T outcome
  simp only [afterCompletion]
  split <;> exact ⟨consistent, fun idle => empty (T.idle (state ▸ idle)), attributed⟩

private theorem emptied_tracked {s : System δ π} (session : Session δ)
    (empty : session.inFlight = Tracker.empty) (results : List CaptureResult) :
    Tracked (withResults s (results, session)) := by
  refine ⟨?_, fun _ => empty, fun τ c found => ?_⟩
  · simp only [withResults, empty]
    exact empty_consistent _
  · simp only [withResults, empty] at found
    simp [Tracker.empty] at found

private theorem flush_tracked {s : System δ π} (T : Tracked s) (now : Int) :
    Tracked (withResults s (flush D now s.session)) := by
  by_cases active : s.session.state = .streaming ∨ s.session.state = .configured
  · rw [flush_active D now active]
    exact emptied_tracked _ rfl _
  · rw [flush_inactive D now active]
    exact ⟨T.consistent, T.idle, T.attributed⟩

private theorem close_tracked {s : System δ π} (T : Tracked s) (now : Int) :
    Tracked (withResults s (close D now s.session)) := by
  by_cases stopped : s.session.state = .stopped
  · rw [close_stopped D now stopped]
    exact ⟨T.consistent, T.idle, T.attributed⟩
  · rw [close_open D now stopped]
    exact emptied_tracked _ rfl _

theorem step_tracked {s t : System δ π} {a : Label} (T : Tracked s)
    (taken : step D processors callbacks s a = some t) : Tracked t := by
  cases a with
  | configureStreams registered =>
    cases taken
    rcases configureStreams_cases D registered s.session with
      same | ⟨d, d', fds, state, -, created, -, became, same⟩
    · simp only [same]
      exact ⟨T.consistent, T.idle, T.attributed⟩
    · simp only [same]
      refine ⟨T.consistent, fun idle => ?_, T.attributed⟩
      exact (idle (by rcases became with rfl | rfl <;> simp [Holding])).elim
  | startStreaming =>
    cases taken
    exact start_tracked D T
  | processRequest request =>
    simp only [step] at taken
    split at taken <;> cases taken
    exact ⟨T.consistent, T.idle, T.attributed⟩
  | post k accepted =>
    rcases postStep_outcome taken with ⟨-, rfl⟩ | ⟨request, -, -, rfl⟩ <;>
      exact ⟨T.consistent, T.idle, T.attributed⟩
  | runTask k now => exact runTask_tracked D T taken
  | dequeue readyFd =>
    cases taken
    rcases dequeueCompletion_cases D readyFd s.session with same | ⟨d, -, -, same⟩
    · simp only [dequeueStep, same]
      exact ⟨T.consistent, T.idle, T.attributed⟩
    · simp only [dequeueStep, same]
      exact ⟨T.consistent, T.idle, T.attributed⟩
  | process k now => exact process_tracked processors T taken
  | dispatch k =>
    simp only [step, dispatchStep] at taken
    split at taken <;> cases taken
    exact ⟨T.consistent, T.idle, T.attributed⟩
  | streamCallback k lease =>
    simp only [step, streamCallbackStep] at taken
    split at taken <;> cases taken
    exact ⟨T.consistent, T.idle, T.attributed⟩
  | returnStream k => exact return_tracked D T taken
  | flush now =>
    cases taken
    exact flush_tracked D T now
  | close now =>
    cases taken
    exact close_tracked D T now

theorem initial_tracked (config : CameraDeviceSessionConfig) (driver : Option δ) (p : π) :
    Tracked (System.initial config driver p : System δ π) where
  consistent := empty_consistent _
  idle := fun _ => rfl
  attributed := by
    intro τ c found
    simp [System.initial, Session.create, Tracker.empty] at found

theorem reachable_tracked {config : CameraDeviceSessionConfig} {driver : Option δ} {p : π}
    {permitted : System δ π → Label → Prop} {s : System δ π}
    (run : Reaches (step D processors callbacks) permitted (System.initial config driver p) s) :
    Tracked s :=
  run.invariant Tracked (fun _ _ _ T _ taken => step_tracked D processors callbacks T taken)
    (initial_tracked config driver p)

end Preservation

/-- What a session promises about its three maps whenever its mutex is free. -/
structure TablesGuarantee (D : DriverAdapter δ) (s : System δ π) : Prop where
  consistent : Consistent s.session.inFlight s.session.nextStreamingFrameNumber
  /-- `close` leaves the three maps empty. -/
  closed : ∀ now, (close D now s.session).2.inFlight = Tracker.empty
  /-- So does a `flush` in every state but `error`. -/
  flushed : ∀ now, s.session.state ≠ .error →
    (flush D now s.session).2.inFlight = Tracker.empty
  /-- A bound token resolves, to the very use it was bound for. -/
  resolves : ∀ τ c, s.session.inFlight.driverOutputs.lookup τ = some c →
    ∃ target stream,
      (s.session.inFlight.takeDriverOutputContext τ).1 = some (resolvedFor c target stream) ∧
        s.boundFor τ = some
          { use := currentUse s.owner c, outputIndex := c.outputIndex, target := target }

theorem Tracked.bound_stream {s : System δ π} (T : Tracked s) {τ : DriverToken}
    {c : DriverOutputContext} {output : InFlightStreamingOutput}
    (found : s.session.inFlight.driverOutputs.lookup τ = some c) (negative : c.outputIndex < 0)
    (row : s.session.inFlight.streamingOutputs.lookup c.frameNumber = some output) :
    s.boundFor τ = some
      { use := .preview c.frameNumber, outputIndex := c.outputIndex, target := output.target } := by
  rw [T.attributed τ c found]
  simp [bindingOf, currentUse, negative, row]

theorem Tracked.bound_output {s : System δ π} (T : Tracked s) {τ : DriverToken}
    {c : DriverOutputContext} {row : InFlightRequest} {output : InFlightOutput}
    (found : s.session.inFlight.driverOutputs.lookup τ = some c)
    (live : s.session.inFlight.requests.lookup c.frameNumber = some row)
    (member : output ∈ row.outputBuffers) (index : output.outputIndex = c.outputIndex) :
    s.boundFor τ = some
      { use := .capture (s.owner c.frameNumber)
        outputIndex := c.outputIndex
        target := output.target } := by
  have nonnegative := (T.consistent.rows _ _ live).index_nonneg member
  have negative : ¬ c.outputIndex < 0 := by omega
  have target := outputTarget_of_member T.consistent live member
  rw [index] at target
  rw [T.attributed τ c found]
  simp [bindingOf, currentUse, negative, target]

private theorem Tracked.resolves {s : System δ π} (T : Tracked s) {τ : DriverToken}
    {c : DriverOutputContext} (found : s.session.inFlight.driverOutputs.lookup τ = some c) :
    ∃ target stream,
      (s.session.inFlight.takeDriverOutputContext τ).1 = some (resolvedFor c target stream) ∧
        s.boundFor τ = some
          { use := currentUse s.owner c, outputIndex := c.outputIndex, target := target } := by
  by_cases negative : c.outputIndex < 0
  · obtain ⟨output, at_row, taken⟩ := take_stream T.consistent found negative
    refine ⟨output.target, some output, by rw [taken]; rfl, ?_⟩
    rw [currentUse, if_pos negative]
    exact T.bound_stream found negative at_row
  · obtain ⟨row, output, live, member, index, -, taken⟩ :=
      take_output T.consistent found (Int.not_lt.mp negative)
    refine ⟨output.target, none, by rw [taken]; rfl, ?_⟩
    rw [currentUse, if_neg negative]
    exact T.bound_output found live member index

/-- Every state of every run of a session, over any driver and any processors, keeps
tokens and open outputs in bijection; `close`, and a `flush` outside the error state, leave
the maps empty; and a token never resolves to a use other than its own. -/
theorem tables_guarantee (D : DriverAdapter δ) (processors : List (Option (OutputProcessor π)))
    (callbacks : Callbacks) (config : CameraDeviceSessionConfig) (driver : Option δ) (p : π)
    (s : System δ π)
    (run : Reaches (step D processors callbacks) always (System.initial config driver p) s) :
    TablesGuarantee D s := by
  have T := reachable_tracked D processors callbacks run
  refine ⟨T.consistent, fun now => ?_, fun now sane => ?_, fun τ c found => T.resolves found⟩
  · by_cases stopped : s.session.state = .stopped
    · rw [close_stopped D now stopped]
      exact T.stopped stopped
    · rw [close_open D now stopped]
  · by_cases active : s.session.state = .streaming ∨ s.session.state = .configured
    · rw [flush_active D now active]
    · rw [flush_inactive D now active]
      refine T.idle fun holding => ?_
      rcases holding with configured | streaming | failed
      exacts [active (Or.inr configured), active (Or.inl streaming), sane failed]

section Runs

open MiniCam.Hal.MockDriverAdapter (MockDriver adapter)

def previewConfig : CameraDeviceSessionConfig :=
  { continuousPreviewConfig := some {}
    continuousPreviewBuffers := [{ streamType := .preview, bufferId := 0, bufferFd := 20 }] }

def twoOutputScript : List Label :=
  [.configureStreams true, .startStreaming,
   .processRequest { frameNumber := 7, outputBuffers := [{ bufferId := 1 }, { bufferId := 2 }] },
   .post 0 true, .runTask 0 3]

theorem tables_guarantee_two_outputs :
    ∃ s : System MockDriver Unit,
      Reaches (step adapter [] ⟨true, false⟩) always
        (System.initial previewConfig (some {}) ()) s ∧
      s.session.inFlight.driverOutputs.keys = [3, 2, 1] ∧ TablesGuarantee adapter s := by
  obtain ⟨s, run, passed⟩ := exists_reaches_of_replay (step adapter [] ⟨true, false⟩) always
    (System.initial previewConfig (some ({} : MockDriver)) ()) twoOutputScript
    (fun s => s.session.inFlight.driverOutputs.keys == [3, 2, 1]) (by decide +kernel)
  exact ⟨s, run, by simpa using passed,
    tables_guarantee adapter [] ⟨true, false⟩ previewConfig (some {}) () s run⟩

/-- A driver that answers the preview buffer with token 0 leaves the session in Error
with a streaming row, and the flush that follows does nothing. -/
theorem flush_leaves_streaming_row :
    ∃ s t : System MockDriver Unit,
      Reaches (step adapter [] ⟨true, false⟩) always
        (System.initial previewConfig (some { nextToken := 0 }) ()) s ∧
      step adapter [] ⟨true, false⟩ s (.flush 0) = some t ∧
      t.session.inFlight ≠ Tracker.empty := by
  obtain ⟨s, run, passed⟩ := exists_reaches_of_replay (step adapter [] ⟨true, false⟩) always
    (System.initial previewConfig (some ({ nextToken := 0 } : MockDriver)) ())
    [.configureStreams true, .startStreaming]
    (fun s => (flush adapter 0 s.session).2.inFlight.streamingOutputs.keys == [1000000000000])
    (by decide +kernel)
  refine ⟨s, _, run, rfl, fun empty => ?_⟩
  have keys : (flush adapter 0 s.session).2.inFlight.streamingOutputs.keys = [1000000000000] := by
    simpa using passed
  have none_left : (flush adapter 0 s.session).2.inFlight = Tracker.empty := empty
  rw [none_left] at keys
  cases keys

end Runs

end MiniCam.Hal.TokenBijection
