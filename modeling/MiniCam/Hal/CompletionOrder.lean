/- Module: MiniCam/Hal/CompletionOrder
   source: hal/camera_device_session.cpp, hal/in_flight_request_tracker.cpp
   digest: What a result keeps of the order in which the outputs of its request completed. -/

import MiniCam.Hal.MockDriverAdapter
import MiniCam.Hal.ResultIdentity

set_option autoImplicit false
set_option relaxedAutoImplicit false

namespace MiniCam.Hal.CompletionOrder

open MiniCam.Foundation.KeyedTable
open MiniCam.Foundation.Runs (Reaches always exists_reaches_of_replay)
open MiniCam.Hal.Interface
open MiniCam.Hal.InFlightRequestTracker
open MiniCam.Hal.CameraDeviceSession
open MiniCam.Hal.TrackerInvariant
open MiniCam.Hal.SessionSpec
open MiniCam.Hal.SessionSystem
open MiniCam.Hal.TokenBijection (Tracked reachable_tracked)
open MiniCam.Hal.ResultAccounting (pending HasResult)
open MiniCam.Hal.ResultIdentity (Once Named reachable_once reachable_named)

variable {δ π : Type}

section Fences

variable {processors : List (Option (OutputProcessor π))}

/-- What a processor returns depends on the output it is given alone. -/
def OutputOnly (processors : List (Option (OutputProcessor π))) : Prop :=
  ∀ process, some process ∈ processors → ∀ request p p',
    (process request p).1 = (process request p').1

theorem runProcessors_steady (steady : OutputOnly processors) (resolved : ResolvedDriverOutput)
    (fence : Int) (p p' : π) :
    (runProcessors resolved processors fence p).1 =
      (runProcessors resolved processors fence p').1 := by
  induction processors generalizing fence p p' with
  | nil => rfl
  | cons processor rest ih =>
    have others : OutputOnly rest := by
      intro process member
      exact steady process (List.mem_cons_of_mem _ member)
    cases processor with
    | none => exact ih others fence p p'
    | some process =>
      have same := steady process List.mem_cons_self (processRequestFor resolved fence) p p'
      simp only [runProcessors]
      rw [same]
      exact ih others _ _ _

end Fences

section Rows

variable (processors : List (Option (OutputProcessor π))) (p₀ : π)

def settledOutput (frameNumber : Nat) (output : InFlightOutput) : InFlightOutput :=
  { output with
    completed := true
    releaseFenceFd := (runProcessors
      (resolvedFor { frameNumber := frameNumber, outputIndex := output.outputIndex }
        output.target none) processors (-1) p₀).1 }

/-- The outputs of a request as its Ok result lists them. -/
def settledOutputs (request : CaptureRequest) : List InFlightOutput :=
  (makeInFlightOutputs (requestOutputsFor request)).map
    (settledOutput processors p₀ request.frameNumber)

structure RowOfRequest (request : CaptureRequest) (row : InFlightRequest) : Prop where
  frame : row.frameNumber = request.frameNumber
  outputs : row.outputBuffers.map (settledOutput processors p₀ request.frameNumber) =
    settledOutputs processors p₀ request
  settled : ∀ output ∈ row.outputBuffers, output.completed = true →
    output = settledOutput processors p₀ request.frameNumber output

variable {processors p₀} {request : CaptureRequest} {row : InFlightRequest}

theorem queuedRow_ofRequest (request : CaptureRequest) :
    RowOfRequest processors p₀ request (queuedRow request) where
  frame := rfl
  outputs := rfl
  settled := by
    intro output member completed
    obtain ⟨k, found⟩ := List.getElem?_of_mem member
    simp only [queuedRow] at found
    rw [makeInFlightOutputs_getElem?] at found
    obtain ⟨target, -, rfl⟩ := Option.map_eq_some_iff.mp found
    cases completed

theorem RowOfRequest.marked (steady : OutputOnly processors)
    (R : RowOfRequest processors p₀ request row) {c : DriverOutputContext}
    (live : LiveRow c.frameNumber row) {output : InFlightOutput}
    (member : output ∈ row.outputBuffers) (index : output.outputIndex = c.outputIndex)
    {fence : Int} {p p' : π}
    (processed : runProcessors (resolvedFor c output.target none) processors (-1) p =
      (fence, p')) :
    RowOfRequest processors p₀ request (markedRow row output.outputIndex fence) := by
  have frame : request.frameNumber = c.frameNumber := R.frame.symm.trans live.key
  have fence_eq : fence = (settledOutput processors p₀ c.frameNumber output).releaseFenceFd := by
    have same := runProcessors_steady steady (resolvedFor c output.target none) (-1) p p₀
    rw [processed] at same
    simp only [settledOutput, index]
    exact same
  have mark : ∀ other ∈ row.outputBuffers,
      Tracker.markOutput output.outputIndex fence other = other ∨
        other = output ∧ Tracker.markOutput output.outputIndex fence other =
          settledOutput processors p₀ c.frameNumber output := by
    intro other inside
    by_cases same : other.outputIndex = output.outputIndex
    · right
      obtain rfl := live.output_unique inside member same
      refine ⟨rfl, ?_⟩
      simp only [Tracker.markOutput, if_true, fence_eq]
      rfl
    · exact Or.inl (if_neg same)
  refine ⟨R.frame, ?_, ?_⟩
  · rw [← R.outputs, frame]
    simp only [markedRow, List.map_map]
    apply List.map_congr_left
    intro other inside
    rcases mark other inside with same | ⟨rfl, settles⟩
    · simp only [Function.comp_apply, same]
    · simp only [Function.comp_apply, settles]
      rfl
  · intro other inside completed
    simp only [markedRow, List.mem_map] at inside
    obtain ⟨before, within, rfl⟩ := inside
    rcases mark before within with same | ⟨rfl, settles⟩
    · rw [same] at completed ⊢
      exact R.settled before within completed
    · rw [settles, frame]
      rfl

theorem RowOfRequest.asked (R : RowOfRequest processors p₀ request row) {f : Nat}
    (live : LiveRow f row) {output : InFlightOutput} (member : output ∈ row.outputBuffers) :
    ∃ k : Nat, output.outputIndex = (k : Int) ∧
      (requestOutputsFor request)[k]? = some output.target := by
  obtain ⟨k, found⟩ := List.getElem?_of_mem member
  refine ⟨k, live.at_index found, ?_⟩
  have placed := congrArg (fun outputs : List InFlightOutput => outputs[k]?) R.outputs
  simp only [settledOutputs, List.getElem?_map, found, Option.map_some,
    makeInFlightOutputs_getElem?, Option.map_map] at placed
  obtain ⟨target, at_target, same⟩ := Option.map_eq_some_iff.mp placed.symm
  have target_eq : target = output.target := congrArg InFlightOutput.target same
  rw [at_target, target_eq]

theorem RowOfRequest.finished (R : RowOfRequest processors p₀ request row)
    (all : ∀ output ∈ row.outputBuffers, output.completed = true) :
    row.outputBuffers = settledOutputs processors p₀ request := by
  rw [← R.outputs]
  calc row.outputBuffers
      = row.outputBuffers.map id := (List.map_id _).symm
    _ = row.outputBuffers.map (settledOutput processors p₀ request.frameNumber) :=
      List.map_congr_left fun output member => R.settled output member (all output member)

end Rows

section Results

def lastCompleted (s : System δ π) (id : Nat) : Option Int :=
  ((s.credits.filter fun credit => credit.use = .capture id).getLast?).map (·.outputIndex)

def CompletedLast (s : System δ π) (id : Nat) (request : CaptureRequest)
    (last : OutputBufferTarget) : Prop :=
  ∃ index : Nat, lastCompleted s id = some (index : Int) ∧
    (requestOutputsFor request)[index]? = some last

def imageOf (result : CaptureResult) : Int × Int × FramePayloadFormat :=
  (result.width, result.height, result.payloadFormat)

def imageFor (target : OutputBufferTarget) : Int × Int × FramePayloadFormat :=
  (target.width, target.height, payloadFormatFor target.format)

/-- The Ok result of a request: the outputs are all the request's, size and format are those
of one of them. -/
structure OkResult (processors : List (Option (OutputProcessor π))) (p₀ : π)
    (request : CaptureRequest) (last : OutputBufferTarget) (result : CaptureResult) : Prop where
  frame : result.frameNumber = request.frameNumber
  message : result.message = "ok"
  buffers : result.completedOutputBuffers =
    completedBuffersFor (settledOutputs processors p₀ request) .ok
  image : imageOf result = imageFor last

structure Settled (processors : List (Option (OutputProcessor π))) (p₀ : π) (s : System δ π) :
    Prop where
  rows : ∀ f row, s.session.inFlight.requests.lookup f = some row →
    ∃ request, s.accepted[s.owner f]? = some request ∧ RowOfRequest processors p₀ request row
  results : ∀ id result, HasResult s id result → result.status = .ok →
    ∃ request last, s.accepted[id]? = some request ∧ CompletedLast s id request last ∧
      OkResult processors p₀ request last result

variable {processors : List (Option (OutputProcessor π))} {p₀ : π} {s t : System δ π}
  {D : DriverAdapter δ}

theorem lastCompleted_snoc {credit : Credit} {id : Nat}
    (credits : t.credits = s.credits ++ [credit]) :
    lastCompleted t id =
      if credit.use = .capture id then some credit.outputIndex else lastCompleted s id := by
  simp only [lastCompleted, credits, List.filter_append]
  by_cases own : credit.use = .capture id <;> simp [own]

theorem owner_ne_of_result (O : Once s) {f : Nat} (live : f ∈ s.session.inFlight.requests)
    {id : Nat} {result : CaptureResult} (has : HasResult s id result) : s.owner f ≠ id := by
  intro same
  have distinct := O.captures
  simp only [pending, List.map_append, List.append_assoc, List.map_map] at distinct
  have parts := List.nodup_append.mp (List.nodup_append.mp distinct).2.1
  have owner : s.owner f ∈ s.session.inFlight.requests.keys.map
      (Prod.fst ∘ fun f => (s.owner f, f)) :=
    List.mem_map.mpr ⟨f, AList.mem_keys.mp live, rfl⟩
  refine parts.2.2 (s.owner f) owner id ?_ same
  rcases has with prepared | dispatched
  · refine List.mem_append_left _ (List.mem_map.mpr ⟨(id, result), prepared, rfl⟩)
  · refine List.mem_append_right _ (List.mem_map.mpr ⟨(id, result.frameNumber), ?_, rfl⟩)
    exact List.mem_filterMap.mpr ⟨_, dispatched, rfl⟩

theorem accepted_kept {id : Nat} {request : CaptureRequest} (grown : s.accepted <+: t.accepted)
    (found : s.accepted[id]? = some request) : t.accepted[id]? = some request := by
  obtain ⟨more, whole⟩ := grown
  rw [← whole, List.getElem?_append_left (List.getElem?_eq_some_iff.mp found).1]
  exact found

theorem Settled.advance (S : Settled processors p₀ s) (accepted : s.accepted <+: t.accepted)
    (rows : ∀ f row, t.session.inFlight.requests.lookup f = some row →
      (s.session.inFlight.requests.lookup f = some row ∧ t.owner f = s.owner f) ∨
        ∃ request, t.accepted[t.owner f]? = some request ∧
          RowOfRequest processors p₀ request row)
    (results : ∀ id result, HasResult t id result → result.status = .ok →
      (HasResult s id result ∧ lastCompleted t id = lastCompleted s id) ∨
        ∃ request last, t.accepted[id]? = some request ∧ CompletedLast t id request last ∧
          OkResult processors p₀ request last result) :
    Settled processors p₀ t where
  rows := by
    intro f row live
    rcases rows f row live with ⟨before, same⟩ | new
    · obtain ⟨request, found, of_row⟩ := S.rows f row before
      rw [same]
      exact ⟨request, accepted_kept accepted found, of_row⟩
    · exact new
  results := by
    intro id result has ok
    rcases results id result has ok with ⟨before, same⟩ | new
    · obtain ⟨request, last, found, completed, rest⟩ := S.results id result before ok
      refine ⟨request, last, accepted_kept accepted found, ?_, rest⟩
      simpa only [CompletedLast, same] using completed
    · exact new

theorem Settled.quiet (S : Settled processors p₀ s) (accepted : s.accepted <+: t.accepted)
    (rows : ∀ f row, t.session.inFlight.requests.lookup f = some row →
      s.session.inFlight.requests.lookup f = some row) (owner : t.owner = s.owner)
    (credits : t.credits = s.credits)
    (results : ∀ id result, HasResult t id result → result.status = .ok →
      HasResult s id result) : Settled processors p₀ t := by
  refine S.advance accepted ?_ ?_
  · intro f row live
    exact Or.inl ⟨rows f row live, by rw [owner]⟩
  · intro id result has ok
    refine Or.inl ⟨results id result has ok, ?_⟩
    simp only [lastCompleted, credits]

theorem process_settled (steady : OutputOnly processors) (T : Tracked s) (O : Once s)
    (S : Settled processors p₀ s) {k : Nat} {now : Int}
    (taken : processStep processors k now s = some t) : Settled processors p₀ t := by
  obtain ⟨completion, filled, p, session, -, outcome, rfl⟩ :=
    processStep_outcome T.consistent taken
  cases outcome with
  | unknown unbound =>
    refine S.quiet (List.prefix_refl _) (fun _ _ => id) rfl ?_ (fun _ _ has _ => has)
    simp only [afterCompletion, creditOf_unbound unbound, List.append_nil]
  | @preview c output fence _ bound negative row processed =>
    have credits := creditOf_stream T.consistent bound negative
    refine S.advance (List.prefix_refl _) (fun _ _ live => Or.inl ⟨live, rfl⟩) ?_
    intro id result has ok
    refine Or.inl ⟨has, ?_⟩
    rw [lastCompleted_snoc (congrArg (s.credits ++ ·) credits), if_neg (by simp)]
  | @waiting c row output fence _ bound live member index still processed pending =>
    have live_row := T.consistent.rows _ _ live
    have nonnegative : 0 ≤ c.outputIndex := index ▸ live_row.index_nonneg member
    have credits := creditOf_output T.consistent bound nonnegative
    obtain ⟨request, found, of_row⟩ := S.rows _ _ live
    refine S.advance (List.prefix_refl _) ?_ ?_
    · intro f row' held
      rcases lookup_insert_eq_some.mp held with ⟨rfl, rfl⟩ | ⟨-, before⟩
      · exact Or.inr ⟨request, found, of_row.marked steady live_row member index processed⟩
      · exact Or.inl ⟨before, rfl⟩
    · intro id result has ok
      have other := owner_ne_of_result O (mem_of_lookup live) has
      refine Or.inl ⟨has, ?_⟩
      rw [lastCompleted_snoc (congrArg (s.credits ++ ·) credits), if_neg (by simpa using other)]
  | @complete c row output fence _ bound live member index still processed finished =>
    have live_row := T.consistent.rows _ _ live
    have nonnegative : 0 ≤ c.outputIndex := index ▸ live_row.index_nonneg member
    have credits := creditOf_output T.consistent bound nonnegative
    obtain ⟨request, found, of_row⟩ := S.rows _ _ live
    obtain ⟨place, at_place, asked⟩ := of_row.asked live_row member
    have marked := of_row.marked steady live_row member index processed
    refine S.advance (List.prefix_refl _) ?_ ?_
    · intro f row' held
      exact Or.inl ⟨(lookup_erase_eq_some.mp held).2, rfl⟩
    · intro id result has ok
      have new_or_old : HasResult s id result ∨ (id = s.owner c.frameNumber ∧
          result = captureResultFromOutputCompletion (markedRow row output.outputIndex fence)
            output.target now) := by
        rcases has with prepared | dispatched
        · rcases List.mem_append.mp prepared with before | here
          · exact Or.inl (Or.inl before)
          · obtain ⟨rfl, rfl⟩ := Prod.mk.inj (List.mem_singleton.mp here)
            exact Or.inr ⟨congrArg s.owner live_row.key, rfl⟩
        · exact Or.inl (Or.inr dispatched)
      rcases new_or_old with before | ⟨rfl, rfl⟩
      -- an older result is of another request, whose last completion stays the last
      · have other := owner_ne_of_result O (mem_of_lookup live) before
        refine Or.inl ⟨before, ?_⟩
        rw [lastCompleted_snoc (congrArg (s.credits ++ ·) credits), if_neg (by simpa using other)]
      · refine Or.inr ⟨request, output.target, found, ⟨place, ?_, asked⟩, ?_⟩
        · rw [lastCompleted_snoc (congrArg (s.credits ++ ·) credits), if_pos rfl, ← at_place, index]
        · refine ⟨marked.frame, rfl, ?_, rfl⟩
          simp only [captureResultFromOutputCompletion]
          rw [marked.finished finished]

theorem runTask_settled (N : Named s) (S : Settled processors p₀ s) {k : Nat} {now : Int}
    (taken : runTaskStep D k now s = some t) : Settled processors p₀ t := by
  obtain ⟨n, request, at_task, ⟨result, session, outcome, rfl⟩ | ⟨session, outcome, rfl⟩⟩ :=
    runTaskStep_outcome D taken
  · refine S.quiet (List.prefix_refl _) (fun _ _ => failed_submit_rows outcome) rfl rfl ?_
    intro id other has ok
    rcases has with prepared | dispatched
    · rcases List.mem_append.mp prepared with before | here
      · exact Or.inl before
      · obtain ⟨rfl, rfl⟩ := Prod.mk.inj (List.mem_singleton.mp here)
        rcases submit_counts outcome with ⟨none_eq, -⟩ | ⟨answer, same, failed, -⟩
        · cases none_eq
        · cases same
          exact (failed ok).elim
    · exact Or.inr dispatched
  · cases outcome with
    | submitted driver streaming preflight before finished after bound =>
      refine S.advance (List.prefix_refl _) ?_ (fun _ _ has _ => Or.inl ⟨has, rfl⟩)
      intro f row held
      simp only [bound.rows] at held
      rcases lookup_insert_eq_some.mp held with ⟨rfl, rfl⟩ | ⟨other, earlier⟩
      · refine Or.inr ⟨request, ?_, queuedRow_ofRequest request⟩
        simp only [Function.update_self]
        exact N.tasks (n, request) (List.mem_of_getElem? at_task)
      · exact Or.inl ⟨earlier, Function.update_of_ne other _ _⟩

theorem flushed_settled (S : Settled processors p₀ s) (message : String) (now : Int)
    {session : Session δ} (empty : session.inFlight = Tracker.empty) :
    Settled processors p₀ (withResults s (flushResults message now s.session, session)) := by
  refine S.quiet (List.prefix_refl _) ?_ rfl rfl ?_
  · intro f row held
    simp only [withResults, empty, Tracker.empty, AList.lookup_empty] at held
    cases held
  · intro id result has ok
    rcases has with prepared | dispatched
    · rcases List.mem_append.mp prepared with before | here
      · exact Or.inl before
      · obtain ⟨flushed, member, same⟩ := List.mem_map.mp here
        obtain ⟨-, rfl⟩ := Prod.mk.inj same
        rw [flushResults_status member] at ok
        cases ok
    · exact Or.inr dispatched

theorem unflushed_settled (S : Settled processors p₀ s) :
    Settled processors p₀ (withResults s ([], s.session)) := by
  refine S.quiet (List.prefix_refl _) (fun _ _ => id) rfl rfl ?_
  intro id result has _
  simpa [HasResult, withResults] using has

theorem dispatch_settled {callbacks : Callbacks} (S : Settled processors p₀ s) {k : Nat}
    (taken : dispatchStep callbacks k s = some t) : Settled processors p₀ t := by
  simp only [dispatchStep] at taken
  split at taken <;> cases taken
  rename_i n result at_result
  refine S.quiet (List.prefix_refl _) (fun _ _ => id) rfl rfl ?_
  intro other answer has ok
  rcases has with prepared | dispatched
  · exact Or.inl (List.mem_of_mem_eraseIdx prepared)
  · simp only at dispatched
    split at dispatched
    · rcases List.mem_append.mp dispatched with before | here
      · exact Or.inr before
      · cases List.mem_singleton.mp here
        exact Or.inl (List.mem_of_getElem? at_result)
    · exact Or.inr dispatched

theorem streamCallback_settled {callbacks : Callbacks} (S : Settled processors p₀ s) {k : Nat}
    {lease : StreamBufferLease} (taken : streamCallbackStep callbacks k lease s = some t) :
    Settled processors p₀ t := by
  simp only [streamCallbackStep] at taken
  split at taken <;> cases taken
  refine S.quiet (List.prefix_refl _) (fun _ _ => id) rfl rfl ?_
  intro id result has ok
  rcases has with prepared | dispatched
  · exact Or.inl prepared
  · simp only at dispatched
    split at dispatched
    · rcases List.mem_append.mp dispatched with before | here
      · exact Or.inr before
      · cases List.mem_singleton.mp here
    · exact Or.inr dispatched

theorem step_settled {callbacks : Callbacks} {a : Label} (steady : OutputOnly processors)
    (T : Tracked s) (O : Once s) (N : Named s) (S : Settled processors p₀ s)
    (taken : step D processors callbacks s a = some t) : Settled processors p₀ t := by
  have passive : Passive a → Settled processors p₀ t := by
    intro label
    have frame := step_frame D label taken
    refine S.quiet (frame.accepted ▸ List.prefix_refl _) (fun _ _ held => frame.rows ▸ held)
      frame.owner frame.credits ?_
    intro id result has _
    simpa only [HasResult, frame.prepared, frame.dispatched] using has
  cases a with
  | configureStreams registered => exact passive trivial
  | startStreaming => exact passive trivial
  | processRequest request => exact passive trivial
  | post k accepted =>
    rcases postStep_outcome taken with ⟨-, rfl⟩ | ⟨request, -, -, rfl⟩
    · exact S.quiet (List.prefix_refl _) (fun _ _ => id) rfl rfl (fun _ _ has _ => has)
    · exact S.quiet (List.prefix_append _ _) (fun _ _ => id) rfl rfl (fun _ _ has _ => has)
  | runTask k now => exact runTask_settled N S taken
  | dequeue readyFd => exact passive trivial
  | process k now => exact process_settled steady T O S taken
  | dispatch k => exact dispatch_settled S taken
  | streamCallback k lease => exact streamCallback_settled S taken
  | returnStream k => exact passive trivial
  | flush now =>
    cases taken
    by_cases active : s.session.state = .streaming ∨ s.session.state = .configured
    · rw [flush_active D now active]
      exact flushed_settled S _ now rfl
    · rw [flush_inactive D now active]
      exact unflushed_settled S
  | close now =>
    cases taken
    by_cases stopped : s.session.state = .stopped
    · rw [close_stopped D now stopped]
      exact unflushed_settled S
    · rw [close_open D now stopped]
      exact flushed_settled S _ now rfl

theorem reachable_settled {callbacks : Callbacks} {permitted : System δ π → Label → Prop}
    {config : CameraDeviceSessionConfig} {driver : Option δ} {p : π}
    (steady : OutputOnly processors) (p₀ : π)
    (run : Reaches (step D processors callbacks) permitted (System.initial config driver p) s) :
    Settled processors p₀ s := by
  induction run with
  | refl =>
    constructor
    · intro f row held
      simp [System.initial, Session.create, Tracker.empty] at held
    · intro id result has
      simp [HasResult, System.initial] at has
  | tail earlier next ih =>
    obtain ⟨a, -, taken⟩ := next
    exact step_settled steady (reachable_tracked D processors callbacks earlier)
      (reachable_once earlier) (reachable_named earlier) ih taken

end Results

section Orders

variable {δ₁ δ₂ : Type}

/-- The Ok results that two sessions dispatch for one request, whatever the drivers complete
in which order, agree in frame number, status, message and output buffers. Their size and
format are those of the output whose completion was applied last, so the results differ in
more than the latency exactly when the two last outputs differ in size or format. -/
theorem completion_order (D₁ : DriverAdapter δ₁) (D₂ : DriverAdapter δ₂)
    (processors : List (Option (OutputProcessor π))) (steady : OutputOnly processors)
    (callbacks₁ callbacks₂ : Callbacks) (config₁ config₂ : CameraDeviceSessionConfig)
    (driver₁ : Option δ₁) (driver₂ : Option δ₂) (p₁ p₂ : π)
    (s₁ : System δ₁ π) (s₂ : System δ₂ π)
    (run₁ : Reaches (step D₁ processors callbacks₁) always
      (System.initial config₁ driver₁ p₁) s₁)
    (run₂ : Reaches (step D₂ processors callbacks₂) always
      (System.initial config₂ driver₂ p₂) s₂)
    (request : CaptureRequest) (id₁ id₂ : Nat) (result₁ result₂ : CaptureResult)
    (accepted₁ : s₁.accepted[id₁]? = some request)
    (accepted₂ : s₂.accepted[id₂]? = some request)
    (sent₁ : (Use.capture id₁, result₁) ∈ s₁.dispatched)
    (sent₂ : (Use.capture id₂, result₂) ∈ s₂.dispatched)
    (ok₁ : result₁.status = .ok) (ok₂ : result₂.status = .ok) :
    result₁.frameNumber = result₂.frameNumber ∧ result₁.status = result₂.status ∧
    result₁.message = result₂.message ∧
    result₁.completedOutputBuffers = result₂.completedOutputBuffers ∧
    ∃ last₁ last₂, CompletedLast s₁ id₁ request last₁ ∧ CompletedLast s₂ id₂ request last₂ ∧
      imageOf result₁ = imageFor last₁ ∧ imageOf result₂ = imageFor last₂ ∧
      ({ result₁ with latency := result₂.latency } = result₂ ↔
        imageFor last₁ = imageFor last₂) := by
  -- both results are compared with the outputs as the processors settle them in state `p₁`
  obtain ⟨request₁, last₁, found₁, completed₁, R₁⟩ :=
    (reachable_settled steady p₁ run₁).results id₁ result₁ (Or.inr sent₁) ok₁
  obtain ⟨request₂, last₂, found₂, completed₂, R₂⟩ :=
    (reachable_settled steady p₁ run₂).results id₂ result₂ (Or.inr sent₂) ok₂
  obtain rfl := Option.some.inj (accepted₁.symm.trans found₁)
  obtain rfl := Option.some.inj (accepted₂.symm.trans found₂)
  have frame := R₁.frame.trans R₂.frame.symm
  have status := ok₁.trans ok₂.symm
  have message := R₁.message.trans R₂.message.symm
  have buffers := R₁.buffers.trans R₂.buffers.symm
  refine ⟨frame, status, message, buffers, last₁, last₂, completed₁, completed₂, R₁.image,
    R₂.image, ?_⟩
  rw [← R₁.image, ← R₂.image]
  constructor
  · intro same
    have image := congrArg imageOf same
    exact image
  · intro same
    obtain ⟨width, height, format⟩ : result₁.width = result₂.width ∧
        result₁.height = result₂.height ∧ result₁.payloadFormat = result₂.payloadFormat := by
      simpa only [imageOf, Prod.mk.injEq] using same
    cases result₁
    cases result₂
    simp only [CaptureResult.mk.injEq]
    exact ⟨frame, status, buffers, message, trivial, width, height, format⟩

open MiniCam.Hal.MockDriverAdapter (MockDriver adapter)

/-- The mock with its completions taken from the other end. -/
def newestFirst : DriverAdapter MockDriver :=
  { adapter with
    dequeueCompletion := fun readyFd m =>
      if readyFd = m.readFd then
        match m.completions.getLast? with
        | none => (none, m)
        | some completion => (some completion, { m with completions := m.completions.dropLast })
      else (none, m) }

def twoSizes : CaptureRequest :=
  { frameNumber := 7
    outputBuffers :=
      [{ bufferId := 1, width := 16, height := 8 },
       { bufferId := 2, width := 32, height := 24, format := .yuyv422 }] }

def twoSizesScript : List Label :=
  [.configureStreams true, .startStreaming, .processRequest twoSizes, .post 0 true,
   .runTask 0 1, .dequeue 5, .process 0 2, .dequeue 5, .process 0 3, .dispatch 0]

def twoSizesResult (fence : Int → Int) (image : Int × Int × FramePayloadFormat) :
    CaptureResult :=
  { frameNumber := 7
    status := .ok
    completedOutputBuffers :=
      [{ bufferId := 1, outputIndex := 0, releaseFenceFd := fence 0 },
       { bufferId := 2, outputIndex := 1, releaseFenceFd := fence 1 }]
    message := "ok"
    latency := 3
    width := image.1
    height := image.2.1
    payloadFormat := image.2.2 }

def fenceByIndex : OutputProcessor Unit := fun request p => (request.outputIndex + 20, p)

theorem completion_order_reversed :
    ∃ (s₁ s₂ : System MockDriver Unit) (result₁ result₂ : CaptureResult),
      (Use.capture 0, result₁) ∈ s₁.dispatched ∧ (Use.capture 0, result₂) ∈ s₂.dispatched ∧
      lastCompleted s₁ 0 = some 1 ∧ lastCompleted s₂ 0 = some 0 ∧
      result₁.completedOutputBuffers = result₂.completedOutputBuffers ∧
      result₁.completedOutputBuffers.map (·.releaseFenceFd) = [20, 21] := by
  have steady : OutputOnly [some fenceByIndex] := by
    intro process member request p p'
    obtain rfl := Option.some.inj (List.mem_singleton.mp member)
    rfl
  obtain ⟨s₁, run₁, passed₁⟩ := exists_reaches_of_replay
    (step adapter [some fenceByIndex] ⟨true, true⟩) always
    (System.initial {} (some ({} : MockDriver)) ()) twoSizesScript
    (fun s => decide (s.accepted = [twoSizes]) && decide (lastCompleted s 0 = some 1) &&
      decide (s.dispatched = [(.capture 0, twoSizesResult (· + 20) (32, 24, .yuyv422))]))
    (by decide +kernel)
  obtain ⟨s₂, run₂, passed₂⟩ := exists_reaches_of_replay
    (step newestFirst [some fenceByIndex] ⟨true, true⟩) always
    (System.initial {} (some ({} : MockDriver)) ()) twoSizesScript
    (fun s => decide (s.accepted = [twoSizes]) && decide (lastCompleted s 0 = some 0) &&
      decide (s.dispatched = [(.capture 0, twoSizesResult (· + 20) (16, 8, .rgb24))]))
    (by decide +kernel)
  simp only [Bool.and_eq_true, decide_eq_true_eq] at passed₁ passed₂
  obtain ⟨⟨accepted₁, last₁⟩, dispatched₁⟩ := passed₁
  obtain ⟨⟨accepted₂, last₂⟩, dispatched₂⟩ := passed₂
  have sent₁ := dispatched₁ ▸ List.mem_singleton_self _
  have sent₂ := dispatched₂ ▸ List.mem_singleton_self _
  have same := completion_order adapter newestFirst [some fenceByIndex] steady ⟨true, true⟩
    ⟨true, true⟩ {} {} (some {}) (some {}) () () s₁ s₂ run₁ run₂ twoSizes 0 0 _ _
    (by rw [accepted₁]; rfl) (by rw [accepted₂]; rfl) sent₁ sent₂ rfl rfl
  exact ⟨s₁, s₂, _, _, sent₁, sent₂, last₁, last₂, same.2.2.2.1, rfl⟩

/-- Without any processor the same request is answered as the larger image where the driver
completes its outputs in order, and as the smaller one where it does not. -/
theorem last_output_gives_size :
    ∃ (s₁ s₂ : System MockDriver Unit) (result₁ result₂ : CaptureResult),
      OutputOnly ([] : List (Option (OutputProcessor Unit))) ∧
      Reaches (step adapter [] ⟨true, true⟩) always (System.initial {} (some {}) ()) s₁ ∧
      Reaches (step newestFirst [] ⟨true, true⟩) always (System.initial {} (some {}) ()) s₂ ∧
      s₁.accepted[0]? = some twoSizes ∧ s₂.accepted[0]? = some twoSizes ∧
      (Use.capture 0, result₁) ∈ s₁.dispatched ∧ (Use.capture 0, result₂) ∈ s₂.dispatched ∧
      result₁.status = .ok ∧ result₂.status = .ok ∧ result₁.width = 32 ∧ result₂.width = 16 := by
  obtain ⟨s₁, run₁, passed₁⟩ := exists_reaches_of_replay (step adapter [] ⟨true, true⟩) always
    (System.initial {} (some ({} : MockDriver)) ()) twoSizesScript
    (fun s => decide (s.accepted = [twoSizes]) &&
      decide (s.dispatched = [(.capture 0, twoSizesResult (fun _ => -1) (32, 24, .yuyv422))]))
    (by decide +kernel)
  obtain ⟨s₂, run₂, passed₂⟩ := exists_reaches_of_replay (step newestFirst [] ⟨true, true⟩) always
    (System.initial {} (some ({} : MockDriver)) ()) twoSizesScript
    (fun s => decide (s.accepted = [twoSizes]) &&
      decide (s.dispatched = [(.capture 0, twoSizesResult (fun _ => -1) (16, 8, .rgb24))]))
    (by decide +kernel)
  simp only [Bool.and_eq_true, decide_eq_true_eq] at passed₁ passed₂
  refine ⟨s₁, s₂, _, _, ?_, run₁, run₂, ?_, ?_, passed₁.2 ▸ List.mem_singleton_self _,
    passed₂.2 ▸ List.mem_singleton_self _, rfl, rfl, rfl, rfl⟩
  · intro process member
    cases member
  · rw [passed₁.1]
    rfl
  · rw [passed₂.1]
    rfl

end Orders

end MiniCam.Hal.CompletionOrder
