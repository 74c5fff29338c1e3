/- Module: MiniCam/Hal/PreviewRefill
   source: hal/camera_device_session.cpp, hal/output_processor.h, hal/driver_adapter.h
   digest: Preview buffers that go back to the driver, against processors that still read them. -/

import MiniCam.Hal.MockDriverAdapter
import MiniCam.Hal.ResultIdentity

set_option autoImplicit false
set_option relaxedAutoImplicit false

namespace MiniCam.Hal.PreviewRefill

open MiniCam.Foundation.Runs
open MiniCam.Hal.Interface
open MiniCam.Hal.InFlightRequestTracker
open MiniCam.Hal.CameraDeviceSession
open MiniCam.Hal.SessionSystem
open MiniCam.Hal.SessionSpec
open MiniCam.Hal.TokenBijection (Tracked initial_tracked step_tracked previewConfig)
open MiniCam.Hal.ResultIdentity (Once reachable_once step_once previewed)
open MiniCam.Hal.MockDriverAdapter (MockDriver adapter)

variable {δ π : Type}

section Model

/-- A session with the preview completions whose buffer is still being read: the frame number,
and the release fence of the last processor, which has not signalled. -/
structure Async (δ π : Type) where
  system : System δ π
  reading : List (Nat × Int)

def Async.initial (config : CameraDeviceSessionConfig) (driver : Option δ) (p : π) : Async δ π :=
  { system := System.initial config driver p
    reading := [] }

/-- The read that the processors of a preview completion have begun; without a fence there is
nothing to wait for. -/
def readOf (handler : PreviewHandler) : Option (Nat × Int) :=
  handler.result.completedOutputBuffers.head?.bind fun entry =>
    if 0 ≤ entry.releaseFenceFd then some (handler.output.frameNumber, entry.releaseFenceFd)
    else none

def begun (s t : System δ π) : List (Nat × Int) :=
  (t.callbacks.drop s.callbacks.length).filterMap readOf

inductive AsyncLabel where
  | session (a : Label)
  | signal (j : Nat)

/-- A fence signals at any time. The session has a result callback and no stream callback. -/
def asyncStep (D : DriverAdapter δ) (processors : List (Option (OutputProcessor π)))
    (s : Async δ π) : AsyncLabel → Option (Async δ π)
  | .session a => (step D processors ⟨true, false⟩ s.system a).map fun t =>
    { system := t
      reading := s.reading ++ begun s.system t }
  | .signal j =>
    if j < s.reading.length then some { s with reading := s.reading.eraseIdx j } else none

/-- A buffer that is still being read goes back only with the fence that ends the read. -/
def RefillOrdered (s : Async δ π) (handler : PreviewHandler) : Prop :=
  ∀ fence, (handler.output.frameNumber, fence) ∈ s.reading →
    handler.lease.consumerReleaseFenceFd = fence

/-- The result callback of a preview returns only when its release fence has signalled. -/
def WaitsForFence (s : Async δ π) : AsyncLabel → Prop
  | .session (.streamCallback k _) => ∀ handler, s.system.callbacks[k]? = some handler →
      ∀ fence, (handler.output.frameNumber, fence) ∉ s.reading
  | _ => True

end Model

section Handlers

variable {D : DriverAdapter δ} {processors : List (Option (OutputProcessor π))}
  {s t : System δ π}

inductive HandlerMove (s : System δ π) : Label → System δ π → Prop where
  | kept {a : Label} {t : System δ π} (callbacks : t.callbacks = s.callbacks)
    (returning : ∀ h ∈ t.returning, h ∈ s.returning)
    (sent : ∀ entry ∈ s.dispatched, entry ∈ t.dispatched) : HandlerMove s a t
  | processed {a : Label} {t : System δ π} (output : InFlightStreamingOutput) (fence : Int)
    (row : s.session.inFlight.streamingOutputs.lookup output.frameNumber = some output)
    (callbacks : t.callbacks = s.callbacks ++
      [{ result := captureResultFromStandaloneCompletion output fence
         lease := streamBufferLeaseFromCompletion output
         output := output }])
    (returning : t.returning = s.returning) (sent : t.dispatched = s.dispatched) :
    HandlerMove s a t
  | called {k : Nat} {lease : StreamBufferLease} {t : System δ π} (handler : PreviewHandler)
    (found : s.callbacks[k]? = some handler) (callbacks : t.callbacks = s.callbacks.eraseIdx k)
    (returning : t.returning = s.returning ++ [handler])
    (sent : t.dispatched =
      s.dispatched ++ [(.preview handler.output.frameNumber, handler.result)]) :
    HandlerMove s (.streamCallback k lease) t

theorem step_handlers {a : Label} (T : Tracked s)
    (taken : step D processors ⟨true, false⟩ s a = some t) : HandlerMove s a t := by
  have still : ∀ h ∈ s.returning, h ∈ s.returning := fun _ => id
  have same : ∀ entry ∈ s.dispatched, entry ∈ s.dispatched := fun _ => id
  have passive : Passive a → HandlerMove s a t := by
    intro label
    have frame := step_frame D label taken
    exact HandlerMove.kept frame.callbacks frame.returning fun _ member => frame.dispatched ▸ member
  cases a with
  | configureStreams registered => exact passive trivial
  | startStreaming => exact passive trivial
  | processRequest request => exact passive trivial
  | post k accepted =>
    rcases postStep_outcome taken with ⟨-, rfl⟩ | ⟨request, -, -, rfl⟩ <;>
      exact HandlerMove.kept rfl still same
  | runTask k now =>
    obtain ⟨n, request, -, ⟨result, session, -, rfl⟩ | ⟨session, -, rfl⟩⟩ :=
      runTaskStep_outcome D taken
    · exact HandlerMove.kept rfl still same
    · exact HandlerMove.kept rfl still same
  | dequeue readyFd => exact passive trivial
  | process k now =>
    obtain ⟨completion, filled, p, session, -, outcome, rfl⟩ :=
      processStep_outcome T.consistent taken
    cases outcome with
    | unknown unbound => exact HandlerMove.kept rfl still same
    | @preview c output fence p' bound negative row processed =>
      have frame := (T.consistent.fresh _ _ row).1
      exact HandlerMove.processed output fence (frame ▸ row) rfl rfl rfl
    | waiting bound live member index open_output processed pending =>
      exact HandlerMove.kept rfl still same
    | complete bound live member index open_output processed finished =>
      exact HandlerMove.kept rfl still same
  | dispatch k =>
    simp only [step, dispatchStep] at taken
    split at taken <;> cases taken
    refine HandlerMove.kept rfl still ?_
    intro entry member
    exact List.mem_append_left _ member
  | streamCallback k lease =>
    simp only [step, streamCallbackStep] at taken
    split at taken <;> cases taken
    rename_i handler found
    exact HandlerMove.called handler found rfl rfl rfl
  | returnStream k => exact passive trivial
  | flush now =>
    cases taken
    exact HandlerMove.kept rfl still same
  | close now =>
    cases taken
    exact HandlerMove.kept rfl still same

theorem begun_of_kept (callbacks : t.callbacks = s.callbacks) : begun s t = [] := by
  simp [begun, callbacks]

theorem begun_of_called {k : Nat} (callbacks : t.callbacks = s.callbacks.eraseIdx k) :
    begun s t = [] := by
  have shorter : (s.callbacks.eraseIdx k).length ≤ s.callbacks.length := List.length_eraseIdx_le _ _
  simp only [begun, callbacks, List.drop_eq_nil_of_le shorter, List.filterMap_nil]

theorem mem_begun_of_processed {output : InFlightStreamingOutput} {fence : Int}
    (callbacks : t.callbacks = s.callbacks ++
      [{ result := captureResultFromStandaloneCompletion output fence
         lease := streamBufferLeaseFromCompletion output
         output := output }]) {entry : Nat × Int} (member : entry ∈ begun s t) :
    entry = (output.frameNumber, fence) ∧ 0 ≤ fence := by
  simp only [begun, callbacks, List.drop_left] at member
  obtain ⟨handler, single, read⟩ := List.mem_filterMap.mp member
  rw [List.mem_singleton.mp single] at read
  simp only [readOf, captureResultFromStandaloneCompletion, List.head?_cons,
    Option.bind_some] at read
  split at read
  · rename_i real
    exact ⟨(Option.some.inj read).symm, real⟩
  · cases read

end Handlers

section Runs

variable {D : DriverAdapter δ} {processors : List (Option (OutputProcessor π))}
  {s t : Async δ π}

structure Leased (s : Async δ π) : Prop where
  called : ∀ h ∈ s.system.callbacks, h.lease.consumerReleaseFenceFd = -1
  plain : ∀ h ∈ s.system.returning, h.lease.consumerReleaseFenceFd = -1
  fences : ∀ entry ∈ s.reading, 0 ≤ entry.2
  sent : ∀ h ∈ s.system.returning,
    (.preview h.output.frameNumber, h.result) ∈ s.system.dispatched

def Unread (s : Async δ π) : Prop :=
  ∀ h ∈ s.system.returning, ∀ fence, (h.output.frameNumber, fence) ∉ s.reading

theorem step_leased {a : AsyncLabel} (T : Tracked s.system) (L : Leased s)
    (taken : asyncStep D processors s a = some t) : Leased t := by
  cases a with
  | signal j =>
    simp only [asyncStep] at taken
    split at taken <;> cases taken
    refine ⟨L.called, L.plain, ?_, L.sent⟩
    intro entry member
    exact L.fences entry (List.mem_of_mem_eraseIdx member)
  | session a =>
    obtain ⟨system, moved, rfl⟩ := Option.map_eq_some_iff.mp taken
    cases step_handlers T moved with
    | kept callbacks returning sent =>
      refine ⟨?_, ?_, ?_, ?_⟩
      · rw [callbacks]
        exact L.called
      · intro h member
        exact L.plain h (returning h member)
      · simp only [begun_of_kept callbacks, List.append_nil]
        exact L.fences
      · intro h member
        exact sent _ (L.sent h (returning h member))
    | processed output fence row callbacks returning sent =>
      refine ⟨?_, ?_, ?_, ?_⟩
      · intro h member
        rw [callbacks] at member
        rcases List.mem_append.mp member with old | new
        · exact L.called h old
        · rw [List.mem_singleton.mp new]
          rfl
      · rw [returning]
        exact L.plain
      · intro entry member
        rcases List.mem_append.mp member with old | new
        · exact L.fences entry old
        · obtain ⟨rfl, real⟩ := mem_begun_of_processed callbacks new
          exact real
      · rw [returning, sent]
        exact L.sent
    | called handler found callbacks returning sent =>
      refine ⟨?_, ?_, ?_, ?_⟩
      · intro h member
        rw [callbacks] at member
        exact L.called h (List.mem_of_mem_eraseIdx member)
      · intro h member
        rw [returning] at member
        rcases List.mem_append.mp member with old | new
        · exact L.plain h old
        · rw [List.mem_singleton.mp new]
          exact L.called handler (List.mem_of_getElem? found)
      · simp only [begun_of_called callbacks, List.append_nil]
        exact L.fences
      · intro h member
        rw [returning] at member
        rw [sent]
        rcases List.mem_append.mp member with old | new
        · exact List.mem_append_left _ (L.sent h old)
        · rw [List.mem_singleton.mp new]
          exact List.mem_append_right _ (List.mem_singleton.mpr rfl)

theorem frame_not_returning (O : Once s.system) (L : Leased s) {output : InFlightStreamingOutput}
    (row : s.system.session.inFlight.streamingOutputs.lookup output.frameNumber = some output)
    {h : PreviewHandler} (member : h ∈ s.system.returning) :
    h.output.frameNumber ≠ output.frameNumber := by
  intro same
  have listed : h.output.frameNumber ∈ previewed s.system :=
    List.mem_append_right _ (List.mem_filterMap.mpr ⟨_, L.sent h member, rfl⟩)
  have gone := (O.numbered _ listed).2
  rw [same] at gone
  exact gone (AList.lookup_isSome.mp (by rw [row]; rfl))

theorem step_unread {a : AsyncLabel} (T : Tracked s.system) (O : Once s.system) (L : Leased s)
    (U : Unread s) (waited : WaitsForFence s a) (taken : asyncStep D processors s a = some t) :
    Unread t := by
  cases a with
  | signal j =>
    simp only [asyncStep] at taken
    split at taken <;> cases taken
    intro h member fence read
    exact U h member fence (List.mem_of_mem_eraseIdx read)
  | session a =>
    obtain ⟨system, moved, rfl⟩ := Option.map_eq_some_iff.mp taken
    cases step_handlers T moved with
    | kept callbacks returning sent =>
      intro h member fence
      simp only [begun_of_kept callbacks, List.append_nil]
      exact U h (returning h member) fence
    | processed output fence row callbacks returning sent =>
      intro h member fence' read
      rw [returning] at member
      rcases List.mem_append.mp read with old | new
      · exact U h member fence' old
      · obtain ⟨same, -⟩ := mem_begun_of_processed callbacks new
        exact frame_not_returning O L row member (Prod.mk.inj same).1
    | called handler found callbacks returning sent =>
      intro h member fence
      simp only [begun_of_called callbacks, List.append_nil]
      rw [returning] at member
      rcases List.mem_append.mp member with old | new
      · exact U h old fence
      · rw [List.mem_singleton.mp new]
        exact waited handler found fence

theorem reachable_leased {permitted : Async δ π → AsyncLabel → Prop}
    {config : CameraDeviceSessionConfig} {driver : Option δ} {p : π}
    (run : Reaches (asyncStep D processors) permitted (Async.initial config driver p) s) :
    Tracked s.system ∧ Once s.system ∧ Leased s := by
  have none_yet : Reaches (step D processors ⟨true, false⟩) always
      (System.initial config driver p) (System.initial config driver p) := Reaches.refl _
  refine run.invariant (fun s => Tracked s.system ∧ Once s.system ∧ Leased s) ?_ ?_
  · intro s a t known _ taken
    have leased := step_leased known.1 known.2.2 taken
    cases a with
    | signal j =>
      simp only [asyncStep] at taken
      split at taken <;> cases taken
      exact ⟨known.1, known.2.1, leased⟩
    | session a =>
      obtain ⟨system, moved, rfl⟩ := Option.map_eq_some_iff.mp taken
      exact ⟨step_tracked _ _ _ known.1 moved, step_once known.1 known.2.1 moved, leased⟩
  · refine ⟨initial_tracked config driver p, reachable_once none_yet, ?_⟩
    constructor <;> simp [Async.initial, System.initial]

theorem reachable_unread {config : CameraDeviceSessionConfig} {driver : Option δ} {p : π}
    (run : Reaches (asyncStep D processors) WaitsForFence (Async.initial config driver p) s) :
    Unread s := by
  have both : Reaches (asyncStep D processors) WaitsForFence (Async.initial config driver p) s ∧
      Unread s := by
    refine run.invariant (fun s => Reaches (asyncStep D processors) WaitsForFence
      (Async.initial config driver p) s ∧ Unread s) ?_ ⟨Reaches.refl _, ?_⟩
    · intro s a t known waited taken
      obtain ⟨T, O, L⟩ := reachable_leased known.1
      exact ⟨known.1.tail waited taken, step_unread T O L known.2 waited taken⟩
    · intro h member
      cases member
  exact both.2

/-- A preview buffer on its way back to the driver. In the runs in which the result callback of
every preview waits for the release fence, no processor reads it any more. In any run the lease
carries no fence, so nothing else orders the refill after the read. -/
theorem preview_refill_ordered (D : DriverAdapter δ)
    (processors : List (Option (OutputProcessor π))) (config : CameraDeviceSessionConfig)
    (driver : Option δ) (p : π) (s : Async δ π) (handler : PreviewHandler)
    (returns : handler ∈ s.system.returning) :
    (Reaches (asyncStep D processors) WaitsForFence (Async.initial config driver p) s →
      RefillOrdered s handler) ∧
    (Reaches (asyncStep D processors) always (Async.initial config driver p) s →
      (RefillOrdered s handler ↔ ∀ fence, (handler.output.frameNumber, fence) ∉ s.reading)) := by
  constructor
  · intro run
    have unread := reachable_unread run
    intro fence read
    exact absurd read (unread handler returns fence)
  · intro run
    obtain ⟨-, -, L⟩ := reachable_leased run
    constructor
    · intro ordered fence read
      have plain := L.plain handler returns
      have real := L.fences _ read
      rw [ordered fence read] at plain
      simp only at real
      omega
    · intro unread fence read
      exact absurd read (unread fence)

def readingProcessors : List (Option (OutputProcessor Unit)) := [some fun _ p => (9, p)]

instance waitsForFenceDecidable (s : Async δ π) (a : AsyncLabel) : Decidable (WaitsForFence s a) :=
  match a with
  | .session (.streamCallback k _) =>
    match at_k : s.system.callbacks[k]? with
    | none => .isTrue (by simp [WaitsForFence, at_k])
    | some handler =>
      decidable_of_iff (handler.output.frameNumber ∉ s.reading.map Prod.fst) (by
        simp [WaitsForFence, at_k])
  | .session (.configureStreams _) | .session .startStreaming | .session (.processRequest _)
  | .session (.post _ _) | .session (.runTask _ _) | .session (.dequeue _)
  | .session (.process _ _) | .session (.dispatch _) | .session (.returnStream _)
  | .session (.flush _) | .session (.close _) | .signal _ => .isTrue trivial

theorem preview_refill_ordered_after_signal :
    ∃ (s : Async MockDriver Unit) (handler : PreviewHandler),
      Reaches (asyncStep adapter readingProcessors) WaitsForFence
        (Async.initial previewConfig (some {}) ()) s ∧
      handler ∈ s.system.returning ∧ RefillOrdered s handler := by
  obtain ⟨s, run, passed⟩ := exists_reaches_of_replay (asyncStep adapter readingProcessors)
    WaitsForFence (Async.initial previewConfig (some ({} : MockDriver)) ())
    [.session (.configureStreams true), .session .startStreaming, .session (.dequeue 5),
      .session (.process 0 1), .signal 0, .session (.streamCallback 0 {})]
    (fun s => !s.system.returning.isEmpty) (by decide +kernel)
  cases returning : s.system.returning with
  | nil => simp [returning] at passed
  | cons handler rest =>
    have returns : handler ∈ s.system.returning := by
      rw [returning]
      exact List.mem_cons_self
    exact ⟨s, handler, run, returning ▸ returns, (preview_refill_ordered adapter readingProcessors
      previewConfig (some {}) () s handler returns).1 run⟩

/-- The callback returns at once: the driver gets the buffer back without a fence while the
processor is still reading it. -/
theorem preview_refilled_while_read :
    ∃ (s t : Async MockDriver Unit) (handler : PreviewHandler),
      Reaches (asyncStep adapter readingProcessors) always
        (Async.initial previewConfig (some {}) ()) s ∧
      s.system.returning[0]? = some handler ∧
      asyncStep adapter readingProcessors s (.session (.returnStream 0)) = some t ∧
      t.system.session.driver.map (fun d => d.lastReturnedStreamBuffer) =
        some (some handler.lease) ∧
      (handler.output.frameNumber, 9) ∈ s.reading ∧ ¬ RefillOrdered s handler := by
  obtain ⟨s, run, passed⟩ := exists_reaches_of_replay (asyncStep adapter readingProcessors)
    always (Async.initial previewConfig (some ({} : MockDriver)) ())
    [.session (.configureStreams true), .session .startStreaming, .session (.dequeue 5),
      .session (.process 0 1), .session (.streamCallback 0 {})]
    (fun s => s.system.returning[0]?.any fun handler =>
      (asyncStep adapter readingProcessors s (.session (.returnStream 0))).any fun t =>
        t.system.session.driver.map (fun d => d.lastReturnedStreamBuffer) ==
            some (some handler.lease) &&
          (s.reading.contains (handler.output.frameNumber, 9) &&
            handler.lease.consumerReleaseFenceFd == -1))
    (by decide +kernel)
  simp only [Option.any_eq_true, Bool.and_eq_true, beq_iff_eq, List.contains_iff_mem] at passed
  obtain ⟨handler, found, t, taken, given, read, plain⟩ := passed
  refine ⟨s, t, handler, run, found, taken, given, read, ?_⟩
  intro ordered
  have fence := ordered 9 read
  rw [plain] at fence
  cases fence

end Runs

end MiniCam.Hal.PreviewRefill
