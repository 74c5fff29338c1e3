/- Module: MiniCam/Hal/AverageLatency
   source: hal/camera_device_session.cpp, hal/frame_metrics.cpp, hal/latency_tracker.h,
     hal/latency_tracker.cpp
   digest: What the average latency of a session is the average of, over every run. -/

import MiniCam.Foundation.TruncatedMean
import MiniCam.Hal.FrameCounters

set_option autoImplicit false
set_option relaxedAutoImplicit false

namespace MiniCam.Hal.AverageLatency

open MiniCam.Foundation.Runs (Reaches always exists_reaches_of_replay)
open MiniCam.Foundation.TruncatedMean
open MiniCam.Hal.Interface
open MiniCam.Hal.InFlightRequestTracker
open MiniCam.Hal.CameraDeviceSession
open MiniCam.Hal.SessionSpec
open MiniCam.Hal.SessionSystem
open MiniCam.Hal.TokenBijection (Tracked step_tracked initial_tracked)
open MiniCam.Hal.FrameCounters

variable {δ π : Type}

/-- `average_latency`, with `LatencyTracker::average` inlined: the common type of `total_` and
`count_` is unsigned. -/
def averageLatency (m : FrameMetrics) : Int :=
  if m.latencyCount = 0 then 0 else unsignedQuotient m.latencyTotal m.latencyCount

section Latencies

def captureLatency : Use × CaptureResult → Option Int
  | (.capture _, result) => if result.status = .ok then some result.latency else none
  | (.preview _, _) => none

def latencies (results : List (Use × CaptureResult)) : List Int :=
  results.filterMap captureLatency

def completedPreview : Use × CaptureResult → Bool
  | (.capture _, _) => false
  | (.preview _, result) => result.status = .ok

def previews (results : List (Use × CaptureResult)) : Nat := results.countP completedPreview

variable {results more : List (Use × CaptureResult)}

theorem latencies_append : latencies (results ++ more) = latencies results ++ latencies more :=
  List.filterMap_append

theorem previews_append : previews (results ++ more) = previews results + previews more :=
  List.countP_append

theorem latencies_capture (id : Nat) {result : CaptureResult} (ok : result.status = .ok) :
    latencies [(.capture id, result)] = [result.latency] := by
  simp [latencies, captureLatency, ok]

theorem latencies_preview (frame : Nat) (result : CaptureResult) :
    latencies [(.preview frame, result)] = [] := rfl

theorem previews_capture (id : Nat) (result : CaptureResult) :
    previews [(.capture id, result)] = 0 := rfl

theorem previews_preview (frame : Nat) {result : CaptureResult} (ok : result.status = .ok) :
    previews [(.preview frame, result)] = 1 := by
  simp [previews, completedPreview, ok]

theorem latencies_failed (failed : ∀ entry ∈ results, succeeded entry = false) :
    latencies results = [] := by
  unfold latencies
  rw [List.filterMap_eq_nil_iff]
  intro entry member
  have not_ok := failed entry member
  obtain ⟨use, result⟩ := entry
  cases use with
  | capture id => simpa [captureLatency, succeeded] using not_ok
  | preview frame => rfl

theorem previews_failed (failed : ∀ entry ∈ results, succeeded entry = false) :
    previews results = 0 := by
  unfold previews
  rw [List.countP_eq_zero]
  intro entry member
  have not_ok := failed entry member
  obtain ⟨use, result⟩ := entry
  cases use with
  | capture id => simp [completedPreview]
  | preview frame => simpa [completedPreview, succeeded] using not_ok

end Latencies

section Steps

variable {s t : System δ π} {D : DriverAdapter δ}

/-- The latency statistics grow by the results of a step; a preview counts and adds nothing. -/
structure Metered (s t : System δ π) : Prop where
  count : t.session.metrics.latencyCount = s.session.metrics.latencyCount +
    (latencies (newResults s t)).length + previews (newResults s t)
  total : t.session.metrics.latencyTotal =
    s.session.metrics.latencyTotal + (latencies (newResults s t)).sum

/-- A step that completes nothing: it leaves the statistics, and its results are failures. -/
structure Unmetered (s t : System δ π) : Prop where
  count : t.session.metrics.latencyCount = s.session.metrics.latencyCount
  total : t.session.metrics.latencyTotal = s.session.metrics.latencyTotal
  failed : ∀ entry ∈ newResults s t, succeeded entry = false

theorem Unmetered.metered (U : Unmetered s t) : Metered s t := by
  constructor
  · rw [latencies_failed U.failed, previews_failed U.failed, U.count]
    rfl
  · rw [latencies_failed U.failed, U.total]
    simp

theorem Unmetered.of_none {failures : Nat}
    (metrics : t.session.metrics = { s.session.metrics with failed := failures })
    (none_new : newResults s t = []) : Unmetered s t := by
  refine ⟨by rw [metrics], by rw [metrics], ?_⟩
  intro entry member
  rw [none_new] at member
  cases member

theorem Unmetered.of_failed {failures : Nat} {new : List (Nat × CaptureResult)}
    (metrics : t.session.metrics = { s.session.metrics with failed := failures })
    (prepared : t.prepared = s.prepared ++ new) (callbacks : t.callbacks = s.callbacks)
    (failed : ∀ entry ∈ new, entry.2.status ≠ .ok) : Unmetered s t := by
  refine ⟨by rw [metrics], by rw [metrics], ?_⟩
  rw [newResults_prepared prepared callbacks]
  intro entry member
  obtain ⟨result, among, rfl⟩ := List.mem_map.mp member
  simpa [succeeded] using failed result among

theorem runTask_unmetered {k : Nat} {now : Int} (taken : runTaskStep D k now s = some t) :
    Unmetered s t := by
  obtain ⟨id, request, -, ⟨result, session, outcome, rfl⟩ | ⟨session, outcome, rfl⟩⟩ :=
    runTaskStep_outcome D taken
  · rcases submit_counts outcome with ⟨none_yet, -⟩ | ⟨_, same, failed, metrics⟩
    · cases none_yet
    · obtain rfl := Option.some.inj same
      refine Unmetered.of_failed metrics rfl rfl ?_
      intro entry member
      rw [List.mem_singleton.mp member]
      exact failed
  · rcases submit_counts outcome with ⟨-, metrics⟩ | ⟨_, some_result, -⟩
    · exact Unmetered.of_none metrics (newResults_quiet rfl rfl)
    · cases some_result

theorem return_unmetered {k : Nat} (taken : returnStep D k s = some t) : Unmetered s t := by
  simp only [returnStep] at taken
  split at taken
  · cases taken
  rename_i handler at_handler
  cases taken
  have metrics : ∃ failures, (returnStreamBuffer D handler.lease handler.output s.session).metrics =
      { s.session.metrics with failed := failures } := by
    simp only [returnStreamBuffer]
    split
    · exact ⟨_, rfl⟩
    split
    · split
      · exact ⟨_, rfl⟩
      · simp only
        split
        · exact ⟨_, rfl⟩
        · exact ⟨_, rfl⟩
    · exact ⟨_, rfl⟩
  obtain ⟨failures, metrics⟩ := metrics
  exact Unmetered.of_none metrics (newResults_quiet rfl rfl)

theorem flushed_unmetered (message : String) (now : Int) {session : Session δ}
    (metrics : session.metrics =
      s.session.metrics.recordFailures s.session.inFlight.flushAll.1.length) :
    Unmetered s (withResults s (flushResults message now s.session, session)) := by
  rw [recordFailures_eq] at metrics
  refine Unmetered.of_failed metrics rfl rfl ?_
  intro entry member
  obtain ⟨result, among, rfl⟩ := List.mem_map.mp member
  simp [flushResults_status among]

theorem step_unmetered {processors : List (Option (OutputProcessor π))} {callbacks : Callbacks}
    {a : Label} (other : ∀ k now, a ≠ .process k now)
    (taken : step D processors callbacks s a = some t) : Unmetered s t := by
  have idle : Uncounted a → Unmetered s t := by
    intro uncounted
    obtain ⟨metrics, none_new⟩ := step_uncounted uncounted taken
    exact Unmetered.of_none metrics none_new
  cases a with
  | configureStreams registered => exact idle trivial
  | startStreaming => exact idle trivial
  | processRequest request => exact idle trivial
  | post k posted => exact idle trivial
  | runTask k now => exact runTask_unmetered taken
  | dequeue readyFd => exact idle trivial
  | process k now => exact absurd rfl (other k now)
  | dispatch k => exact idle trivial
  | streamCallback k lease => exact idle trivial
  | returnStream k => exact return_unmetered taken
  | flush now =>
    cases taken
    by_cases active : s.session.state = .streaming ∨ s.session.state = .configured
    · rw [flush_active D now active]
      exact flushed_unmetered _ now rfl
    · rw [flush_inactive D now active]
      exact Unmetered.of_none rfl (newResults_quiet (List.append_nil _) rfl)
  | close now =>
    cases taken
    by_cases stopped : s.session.state = .stopped
    · rw [close_stopped D now stopped]
      exact Unmetered.of_none rfl (newResults_quiet (List.append_nil _) rfl)
    · rw [close_open D now stopped]
      exact flushed_unmetered _ now rfl

inductive CompletionLatency (k : Nat) (now : Int) (s t : System δ π) : Prop where
  | unmetered (unmetered : Unmetered s t)
  | preview {completion : DriverCompletion} {c : DriverOutputContext} {frame : Nat}
    {result : CaptureResult} (at_completion : s.dequeued[k]? = some completion)
    (bound : s.session.inFlight.driverOutputs.lookup completion.token = some c)
    (negative : c.outputIndex < 0) (news : newResults s t = [(.preview frame, result)])
    (ok : result.status = .ok)
    (metrics : t.session.metrics = s.session.metrics.recordSuccess 0)
  | capture {completion : DriverCompletion} {c : DriverOutputContext} {row : InFlightRequest}
    {id : Nat} {result : CaptureResult} (at_completion : s.dequeued[k]? = some completion)
    (bound : s.session.inFlight.driverOutputs.lookup completion.token = some c)
    (live : s.session.inFlight.requests.lookup c.frameNumber = some row)
    (news : newResults s t = [(.capture id, result)]) (ok : result.status = .ok)
    (latency : result.latency = latencySince now row.submittedAt)
    (metrics : t.session.metrics = s.session.metrics.recordSuccess result.latency)

theorem process_latency {processors : List (Option (OutputProcessor π))} {k : Nat} {now : Int}
    (T : Tracked s) (taken : processStep processors k now s = some t) :
    CompletionLatency k now s t := by
  obtain ⟨completion, filled, p, session, at_completion, outcome, rfl⟩ :=
    processStep_outcome T.consistent taken
  cases outcome with
  | unknown unbound =>
    exact .unmetered (Unmetered.of_none rfl (newResults_quiet rfl rfl))
  | preview bound negative row processed =>
    exact .preview at_completion bound negative (newResults_preview rfl rfl) rfl rfl
  | waiting bound live member index still processed pending =>
    exact .unmetered (Unmetered.of_none rfl (newResults_quiet rfl rfl))
  | complete bound live member index still processed finished =>
    refine .capture at_completion bound live (newResults_capture rfl rfl) ?_ ?_ ?_
    · rfl
    · rfl
    · rfl

theorem CompletionLatency.metered {k : Nat} {now : Int} (outcome : CompletionLatency k now s t) :
    Metered s t := by
  cases outcome with
  | unmetered unmetered => exact unmetered.metered
  | preview at_completion bound negative news ok metrics =>
    constructor
    · rw [news, latencies_preview, previews_preview _ ok, metrics]
      rfl
    · rw [news, latencies_preview, metrics]
      rfl
  | capture at_completion bound live news ok latency metrics =>
    constructor
    · rw [news, latencies_capture _ ok, previews_capture, metrics]
      rfl
    · rw [news, latencies_capture _ ok, metrics, List.sum_singleton]
      rfl

theorem step_metered {processors : List (Option (OutputProcessor π))} {callbacks : Callbacks}
    {a : Label} (T : Tracked s) (taken : step D processors callbacks s a = some t) :
    Metered s t := by
  by_cases completion : ∃ k now, a = .process k now
  · obtain ⟨k, now, rfl⟩ := completion
    exact (process_latency T taken).metered
  · refine (step_unmetered ?_ taken).metered
    intro k now same
    exact completion ⟨k, now, same⟩

/-- A completion that is not of a preview, and not of a request before its time of submission. -/
def TimelyCompletion (s : System δ π) (k : Nat) (now : Int) : Prop :=
  ∀ completion ∈ s.dequeued[k]?,
    ∀ c ∈ s.session.inFlight.driverOutputs.lookup completion.token,
      0 ≤ c.outputIndex ∧
        ∀ row ∈ s.session.inFlight.requests.lookup c.frameNumber, row.submittedAt ≤ now

def Timely (s : System δ π) : Label → Prop
  | .process k now => TimelyCompletion s k now
  | _ => True

instance timelyDecidable (s : System δ π) : (a : Label) → Decidable (Timely s a)
  | .process k now => inferInstanceAs (Decidable (∀ completion ∈ s.dequeued[k]?,
      ∀ c ∈ s.session.inFlight.driverOutputs.lookup completion.token,
        0 ≤ c.outputIndex ∧
          ∀ row ∈ s.session.inFlight.requests.lookup c.frameNumber, row.submittedAt ≤ now))
  | .configureStreams _ | .startStreaming | .processRequest _ | .post _ _ | .runTask _ _
  | .dequeue _ | .dispatch _ | .streamCallback _ _ | .returnStream _ | .flush _ | .close _ =>
    .isTrue trivial

theorem step_timely {processors : List (Option (OutputProcessor π))} {callbacks : Callbacks}
    {a : Label} (T : Tracked s) (timely : Timely s a)
    (taken : step D processors callbacks s a = some t) :
    previews (newResults s t) = 0 ∧ ∀ latency ∈ latencies (newResults s t), 0 ≤ latency := by
  have of_unmetered : Unmetered s t →
      previews (newResults s t) = 0 ∧ ∀ latency ∈ latencies (newResults s t), 0 ≤ latency := by
    intro U
    rw [latencies_failed U.failed]
    exact ⟨previews_failed U.failed, by simp⟩
  by_cases completion : ∃ k now, a = .process k now
  · obtain ⟨k, now, rfl⟩ := completion
    cases process_latency T taken with
    | unmetered unmetered => exact of_unmetered unmetered
    | preview at_completion bound negative news ok metrics =>
      have captured := (timely _ at_completion _ bound).1
      omega
    | capture at_completion bound live news ok latency metrics =>
      have in_time := (timely _ at_completion _ bound).2 _ live
      rw [news, latencies_capture _ ok]
      refine ⟨previews_capture _ _, ?_⟩
      simp only [List.mem_singleton, forall_eq, latency, latencySince]
      omega
  · apply of_unmetered
    refine step_unmetered ?_ taken
    intro k now same
    exact completion ⟨k, now, same⟩

end Steps

section Runs

variable (D : DriverAdapter δ) (processors : List (Option (OutputProcessor π)))
  (callbacks : Callbacks) (config : CameraDeviceSessionConfig) (driver : Option δ) (p : π)

/-- What the latency statistics hold in every run: the latencies of the captures, counted together
with the previews. -/
structure Recorded (s : Counted δ π) : Prop where
  tracked : Tracked s.system
  count : s.system.session.metrics.latencyCount =
    (latencies s.results).length + previews s.results
  total : s.system.session.metrics.latencyTotal = (latencies s.results).sum

variable {D processors callbacks config driver p}

theorem countedStep_recorded {s t : Counted δ π} {a : Label} (R : Recorded s)
    (taken : countedStep D processors callbacks s a = some t) : Recorded t := by
  obtain ⟨after, made, rfl⟩ := Option.map_eq_some_iff.mp taken
  have metered := step_metered R.tracked made
  refine ⟨step_tracked D processors callbacks R.tracked made, ?_, ?_⟩
  · rw [metered.count, R.count, latencies_append, previews_append, List.length_append]
    omega
  · rw [metered.total, R.total, latencies_append, List.sum_append]

theorem initial_recorded : Recorded (Counted.initial config driver p) :=
  ⟨initial_tracked config driver p, rfl, rfl⟩

theorem reachable_recorded {permitted : Counted δ π → Label → Prop} {s : Counted δ π}
    (run : Reaches (countedStep D processors callbacks) permitted
      (Counted.initial config driver p) s) : Recorded s :=
  run.invariant Recorded (fun _ _ _ R _ taken => countedStep_recorded R taken) initial_recorded

structure InTime (s : Counted δ π) : Prop where
  recorded : Recorded s
  previews : previews s.results = 0
  latencies : ∀ latency ∈ latencies s.results, 0 ≤ latency

theorem countedStep_inTime {s t : Counted δ π} {a : Label} (I : InTime s)
    (timely : Timely s.system a) (taken : countedStep D processors callbacks s a = some t) :
    InTime t := by
  have recorded := countedStep_recorded I.recorded taken
  obtain ⟨after, made, rfl⟩ := Option.map_eq_some_iff.mp taken
  obtain ⟨captures_only, nonneg⟩ := step_timely I.recorded.tracked timely made
  refine ⟨recorded, ?_, ?_⟩
  · rw [previews_append, I.previews, captures_only]
  · intro latency member
    rw [latencies_append] at member
    rcases List.mem_append.mp member with before | new
    · exact I.latencies latency before
    · exact nonneg latency new

theorem reachable_inTime {s : Counted δ π}
    (run : Reaches (countedStep D processors callbacks) (fun s a => Timely s.system a)
      (Counted.initial config driver p) s) : InTime s := by
  refine run.invariant InTime (fun _ _ _ I timely taken => countedStep_inTime I timely taken) ?_
  exact ⟨initial_recorded, rfl, by simp [Counted.initial, latencies]⟩

/-- The mean of some latencies, which lies between the smallest and the largest of them. -/
def IsMean (average : Int) (values : List Int) : Prop :=
  average = mean values ∧
    ∀ smallest ∈ values, ∀ largest ∈ values,
      (∀ value ∈ values, smallest ≤ value ∧ value ≤ largest) →
      smallest ≤ average ∧ average ≤ largest

theorem isMean_iff {average : Int} {values : List Int} :
    IsMean average values ↔ average = mean values := by
  refine ⟨And.left, fun same => ⟨same, ?_⟩⟩
  intro smallest member largest _ between
  rw [same]
  have some_value := List.ne_nil_of_mem member
  refine ⟨le_mean some_value ?_, mean_le some_value ?_⟩
  · intro value among
    exact (between value among).1
  · intro value among
    exact (between value among).2

/-- When an average over the values and `others` zeros, divided unsigned, is the mean of the
values: without values; when their sum is not negative and its remainder covers the zeros; or, for
a negative sum, when nothing but one value is counted (or so much that both quotients are zero). -/
def Undistorted (values : List Int) (others : Nat) : Prop :=
  values = [] ∨
    0 ≤ values.sum ∧ values.sum / values.length * others ≤ values.sum % values.length ∨
    values.sum < 0 ∧ (values.length + others = 1 ∨
      -values.length < values.sum ∧ values.sum + 2 ^ 64 < values.length + others)

theorem averageLatency_iff {s : Counted δ π} (R : Recorded s)
    (low : -2 ^ 63 ≤ (latencies s.results).sum) (high : (latencies s.results).sum < 2 ^ 63) :
    averageLatency s.system.session.metrics = mean (latencies s.results) ↔
      Undistorted (latencies s.results) (previews s.results) := by
  unfold averageLatency Undistorted
  rw [R.count, R.total]
  generalize latencies s.results = values at low high ⊢
  generalize previews s.results = others
  by_cases empty : values = []
  · subst empty
    have zero : unsignedQuotient 0 others = 0 := by
      rw [unsignedQuotient_of_nonneg (Int.le_refl 0) (by decide)]
      exact Int.zero_ediv _
    simp [mean, zero]
  · have positive : 0 < values.length := List.length_pos_iff_ne_nil.mpr empty
    rw [if_neg (by omega), mean, unsignedQuotient_eq_tdiv_iff positive low high]
    simp only [empty, false_or]

/-- In every run whose latencies sum up to 64 bits, the average latency of a session is the mean
latency of its completed captures exactly when the previews, which count as latencies of zero, and
the unsigned division do not distort it. Both are harmless in runs that complete no preview and no
request before its own start. The count is that of the source up to `2 ^ 64` frames. -/
theorem average_latency_of_captures (D : DriverAdapter δ)
    (processors : List (Option (OutputProcessor π))) (callbacks : Callbacks)
    (config : CameraDeviceSessionConfig) (driver : Option δ) (p : π) (s : Counted δ π)
    (run : Reaches (countedStep D processors callbacks) always
      (Counted.initial config driver p) s)
    (low : -2 ^ 63 ≤ (latencies s.results).sum) (high : (latencies s.results).sum < 2 ^ 63) :
    (IsMean (averageLatency s.system.session.metrics) (latencies s.results) ↔
      Undistorted (latencies s.results) (previews s.results)) ∧
    (Reaches (countedStep D processors callbacks) (fun s a => Timely s.system a)
        (Counted.initial config driver p) s →
      IsMean (averageLatency s.system.session.metrics) (latencies s.results)) := by
  have exactly := averageLatency_iff (reachable_recorded run) low high
  refine ⟨isMean_iff.trans exactly, ?_⟩
  intro timely
  have I := reachable_inTime timely
  rw [isMean_iff, exactly]
  by_cases empty : latencies s.results = []
  · exact Or.inl empty
  · right
    left
    refine ⟨List.sum_nonneg I.latencies, ?_⟩
    rw [I.previews]
    have positive : 0 < (latencies s.results).length := List.length_pos_iff_ne_nil.mpr empty
    simpa using Int.emod_nonneg _ (by omega)

open MiniCam.Hal.MockDriverAdapter (MockDriver adapter)

/-- Frames 7 and 8 are submitted at 0 and complete at 2 and at 5. -/
def captureScript : List Label :=
  [.configureStreams true, .startStreaming,
   .processRequest { frameNumber := 7, outputBuffers := [{ bufferId := 1 }] },
   .processRequest { frameNumber := 8, outputBuffers := [{ bufferId := 2 }] },
   .post 0 true, .post 0 true, .runTask 0 1, .runTask 0 1, .dequeue 5, .process 0 2,
   .dequeue 5, .process 0 5]

theorem average_latency_of_two_captures :
    ∃ s : Counted MockDriver Unit,
      Reaches (countedStep adapter [] ⟨true, true⟩) (fun s a => Timely s.system a)
        (Counted.initial {} (some {}) ()) s ∧
      latencies s.results = [2, 5] ∧
      averageLatency s.system.session.metrics = 3 ∧
      IsMean (averageLatency s.system.session.metrics) (latencies s.results) := by
  obtain ⟨s, run, passed⟩ := exists_reaches_of_replay (countedStep adapter [] ⟨true, true⟩)
    (fun s a => Timely s.system a) (Counted.initial {} (some ({} : MockDriver)) ()) captureScript
    (fun s => latencies s.results == [2, 5] && averageLatency s.system.session.metrics == 3)
    (by decide +kernel)
  simp only [Bool.and_eq_true, beq_iff_eq] at passed
  obtain ⟨two, average⟩ := passed
  refine ⟨s, run, two, average, ?_⟩
  exact (average_latency_of_captures adapter [] ⟨true, true⟩ {} (some {}) () s run.unrestricted
    (by rw [two]; decide) (by rw [two]; decide)).2 run

/-- A preview and a capture of latency 10: the average is 5. -/
theorem average_latency_halved_by_preview :
    ∃ s : Counted MockDriver Unit,
      Reaches (countedStep adapter [] ⟨true, true⟩) always
        (Counted.initial
          { continuousPreviewConfig := some {}, continuousPreviewBuffers := [{ bufferId := 9 }] }
          (some {}) ()) s ∧
      latencies s.results = [10] ∧ averageLatency s.system.session.metrics = 5 ∧
      ¬ IsMean (averageLatency s.system.session.metrics) (latencies s.results) := by
  obtain ⟨s, run, passed⟩ := exists_reaches_of_replay (countedStep adapter [] ⟨true, true⟩) always
    (Counted.initial
      { continuousPreviewConfig := some {}, continuousPreviewBuffers := [{ bufferId := 9 }] }
      (some ({} : MockDriver)) ())
    [.configureStreams true, .startStreaming,
     .processRequest { frameNumber := 7, outputBuffers := [{ bufferId := 1 }] },
     .post 0 true, .runTask 0 1, .dequeue 5, .process 0 2, .dequeue 5, .process 0 10]
    (fun s => latencies s.results == [10] && averageLatency s.system.session.metrics == 5)
    (by decide +kernel)
  simp only [Bool.and_eq_true, beq_iff_eq] at passed
  obtain ⟨one, average⟩ := passed
  refine ⟨s, run, one, average, ?_⟩
  rw [isMean_iff, average, one]
  decide

end Runs

end MiniCam.Hal.AverageLatency
