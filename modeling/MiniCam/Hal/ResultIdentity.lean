/- Module: MiniCam/Hal/ResultIdentity
   source: hal/camera_device_session.cpp, hal/in_flight_request_tracker.cpp
   digest: No request and no streaming frame number gets two results, and every result
     and binding is for the request it names, whatever its frame number is. -/

import MiniCam.Hal.ResultAccounting

set_option autoImplicit false
set_option relaxedAutoImplicit false

namespace MiniCam.Hal.ResultIdentity

open MiniCam.Foundation.KeyedTable
open MiniCam.Foundation.Runs (Reaches)
open MiniCam.Hal.Interface
open MiniCam.Hal.InFlightRequestTracker
open MiniCam.Hal.CameraDeviceSession
open MiniCam.Hal.TrackerInvariant
open MiniCam.Hal.SessionSpec
open MiniCam.Hal.SessionSystem
open MiniCam.Hal.TokenBijection
open MiniCam.Hal.ResultAccounting

variable {δ π : Type} {s t : System δ π}

def previewed (s : System δ π) : List Nat :=
  s.callbacks.map (fun handler => handler.output.frameNumber) ++
    s.dispatched.filterMap fun entry =>
      match entry.1 with
      | .preview f => some f
      | .capture _ => none

structure Once (s : System δ π) : Prop where
  captures : ((pending s ++ delivered s).map Prod.fst).Nodup
  accepted : ∀ entry ∈ pending s ++ delivered s,
    ∃ request, s.accepted[entry.1]? = some request ∧ request.frameNumber = entry.2
  previews : (previewed s).Nodup
  numbered : ∀ f ∈ previewed s,
    f < s.session.nextStreamingFrameNumber ∧ f ∉ s.session.inFlight.streamingOutputs

private theorem transfer_once {callbacks : Callbacks} {a : Label} (O : Once s)
    (moves : Transfer callbacks s a t) :
    ((pending t ++ delivered t).map Prod.fst).Nodup ∧
      ∀ entry ∈ pending t ++ delivered t,
        ∃ request, t.accepted[entry.1]? = some request ∧ request.frameNumber = entry.2 := by
  cases moves with
  | moved dropped sent moves results accepted why =>
    have all : (pending s ++ delivered s).Perm (dropped ++ (pending t ++ delivered t)) := by
      rw [results]
      refine (moves.append_right _).trans ?_
      simp only [List.append_assoc]
      refine List.Perm.append_left _ ((List.perm_append_comm_assoc _ _ _).trans ?_)
      exact List.Perm.append_left _ List.perm_append_comm
    refine ⟨?_, fun entry member => ?_⟩
    · have distinct := (all.map Prod.fst).nodup_iff.mp O.captures
      rw [List.map_append] at distinct
      exact (List.nodup_append.mp distinct).2.1
    · rw [accepted]
      exact O.accepted entry (all.mem_iff.mpr (List.mem_append_right _ member))
  | @posted k request label found moves results accepted =>
    have all : (pending t ++ delivered t).Perm
        ((s.accepted.length, request.frameNumber) :: (pending s ++ delivered s)) := by
      rw [results]
      exact moves.append_right _
    refine ⟨?_, fun entry member => ?_⟩
    · refine (all.map Prod.fst).nodup_iff.mpr (List.nodup_cons.mpr ⟨fun member => ?_, O.captures⟩)
      obtain ⟨entry, inside, same⟩ := List.mem_map.mp member
      obtain ⟨earlier, at_entry, -⟩ := O.accepted entry inside
      have below := (List.getElem?_eq_some_iff.mp at_entry).1
      omega
    · rw [accepted]
      rcases List.mem_cons.mp (all.mem_iff.mp member) with rfl | before
      · exact ⟨request, by simp, rfl⟩
      · obtain ⟨earlier, at_entry, frame⟩ := O.accepted entry before
        refine ⟨earlier, ?_, frame⟩
        rw [List.getElem?_append_left (List.getElem?_eq_some_iff.mp at_entry).1]
        exact at_entry

private theorem numbered_of {frames : List Nat} {next next' : Nat}
    {rows rows' : Table Nat InFlightStreamingOutput}
    (numbered : ∀ f ∈ frames, f < next ∧ f ∉ rows) (grows : next ≤ next')
    (news : ∀ f, f ∈ rows' → f ∈ rows ∨ next ≤ f) :
    ∀ f ∈ frames, f < next' ∧ f ∉ rows' := by
  intro f member
  obtain ⟨below, absent⟩ := numbered f member
  refine ⟨Nat.lt_of_lt_of_le below grows, fun inside => ?_⟩
  rcases news f inside with old | beyond
  · exact absent old
  · exact Nat.not_lt.mpr beyond below

private theorem bindStreamingOutputs_rows {pairs : List (DriverToken × InFlightStreamingOutput)}
    {t : Tracker} {next : Nat} (frames : ∀ pair ∈ pairs, next ≤ pair.2.frameNumber) :
    ∀ f, f ∈ (bindStreamingOutputs pairs t).2.streamingOutputs →
      f ∈ t.streamingOutputs ∨ next ≤ f := by
  induction pairs generalizing t with
  | nil => exact fun _ => Or.inl
  | cons pair rest ih =>
    obtain ⟨token, output⟩ := pair
    have first := frames _ List.mem_cons_self
    have others : ∀ pair ∈ rest, next ≤ pair.2.frameNumber :=
      fun pair member => frames pair (List.mem_cons_of_mem _ member)
    intro f
    simp only [bindStreamingOutputs, Tracker.registerStreamingOutput, Tracker.bindDriverOutput]
    have registered : f ∈ t.streamingOutputs.insert output.frameNumber output →
        f ∈ t.streamingOutputs ∨ next ≤ f := by
      intro inside
      rcases (AList.mem_insert _).mp inside with rfl | old
      · exact Or.inr first
      · exact Or.inl old
    split
    · rename_i refused
      split at refused <;> cases refused
      exact Or.inl
    rename_i registers
    split at registers <;> cases registers
    split
    · rename_i refused
      split at refused <;> cases refused
      exact registered
    rename_i bound
    split at bound <;> cases bound
    intro inside
    rcases ih others f inside with before | beyond
    · exact registered before
    · exact Or.inr beyond

private def PreviewsOnce (t : System δ π) : Prop :=
  (previewed t).Nodup ∧ ∀ f ∈ previewed t,
    f < t.session.nextStreamingFrameNumber ∧ f ∉ t.session.inFlight.streamingOutputs

private theorem previews_kept (O : Once s) (same : (previewed t).Subperm (previewed s))
    (grows : s.session.nextStreamingFrameNumber ≤ t.session.nextStreamingFrameNumber)
    (news : ∀ f, f ∈ t.session.inFlight.streamingOutputs →
      f ∈ s.session.inFlight.streamingOutputs ∨ s.session.nextStreamingFrameNumber ≤ f) :
    PreviewsOnce t := by
  obtain ⟨frames, perm, sub⟩ := same
  refine ⟨perm.nodup_iff.mp (sub.nodup O.previews), fun f member => ?_⟩
  exact numbered_of O.numbered grows news f (sub.subset (perm.mem_iff.mpr member))

private theorem start_previews (D : DriverAdapter δ) (O : Once s) :
    PreviewsOnce (startStep D s) := by
  rcases startStreaming_cases D s.session with
    same | ⟨d, d', next, state, -, -, -, grows, ⟨same, -⟩ | ⟨submissions, -, -, -, -, same⟩⟩
  · refine previews_kept O (List.Subperm.refl _) ?_ ?_ <;> simp only [startStep, same]
    · exact Nat.le_refl _
    · exact fun _ => Or.inl
  · refine previews_kept O (List.Subperm.refl _) ?_ ?_ <;> simp only [startStep, same]
    · exact grows
    · exact fun _ => Or.inl
  · refine previews_kept O (List.Subperm.refl _) ?_ ?_ <;> simp only [startStep, same]
    · exact grows
    · apply bindStreamingOutputs_rows
      intro pair member
      have listed := (List.of_mem_zip (a := pair.1) (b := pair.2) member).2
      have frames := streamingOutputsFrom_frames s.session.nextStreamingFrameNumber
        s.session.config.continuousPreviewBuffers
      have frame := List.mem_map_of_mem (f := (·.frameNumber)) listed
      rw [frames] at frame
      exact (List.mem_range'_1.mp frame).1

private theorem return_previews {D : DriverAdapter δ} (O : Once s) {k : Nat}
    (taken : returnStep D k s = some t) : PreviewsOnce t := by
  simp only [returnStep] at taken
  split at taken <;> cases taken
  rename_i handler at_handler
  rcases returnStreamBuffer_cases D handler.lease handler.output s.session with
    same | ⟨d, d', metrics, -, -, ⟨-, same⟩ | ⟨token, -, same⟩⟩
  · refine previews_kept O (List.Subperm.refl _) ?_ ?_ <;> simp only [same]
    · exact Nat.le_refl _
    · exact fun _ => Or.inl
  · refine previews_kept O (List.Subperm.refl _) ?_ ?_ <;> simp only [same]
    · exact Nat.le_refl _
    · exact fun _ => Or.inl
  · refine previews_kept O (List.Subperm.refl _) ?_ ?_ <;> simp only [same]
    · exact Nat.le_succ _
    · apply bindStreamingOutputs_rows
      intro pair member
      rw [List.mem_singleton.mp member]

private theorem runTask_previews {D : DriverAdapter δ} (O : Once s) {k : Nat} {now : Int}
    (taken : runTaskStep D k now s = some t) : PreviewsOnce t := by
  obtain ⟨n, request, -, ⟨result, session, outcome, rfl⟩ | ⟨session, outcome, rfl⟩⟩ :=
    runTaskStep_outcome D taken
  · cases outcome <;>
      exact previews_kept O (List.Subperm.refl _) (Nat.le_refl _) fun _ => Or.inl
  · cases outcome with
    | submitted driver streaming answer before finished after bound =>
      refine previews_kept O (List.Subperm.refl _) (Nat.le_refl _) fun f inside => Or.inl ?_
      simpa only [bound.streams] using inside

private theorem process_previews {processors : List (Option (OutputProcessor π))} (T : Tracked s)
    (O : Once s) {k : Nat} {now : Int} (taken : processStep processors k now s = some t) :
    PreviewsOnce t := by
  obtain ⟨completion, filled, p, session, -, outcome, rfl⟩ :=
    processStep_outcome T.consistent taken
  cases outcome with
  | unknown unbound =>
    exact previews_kept O (List.Subperm.refl _) (Nat.le_refl _) fun _ => Or.inl
  | @preview c output fence _ bound negative row processed =>
    obtain ⟨key, below⟩ := T.consistent.fresh _ _ row
    have registered : c.frameNumber ∈ s.session.inFlight.streamingOutputs := mem_of_lookup row
    have absent : c.frameNumber ∉ previewed s := fun member => (O.numbered _ member).2 registered
    simp only [PreviewsOnce, previewed, afterCompletion, List.map_append, List.map_cons,
      List.map_nil, List.append_assoc, List.singleton_append, key]
    refine ⟨List.nodup_middle.mpr (List.nodup_cons.mpr ⟨absent, O.previews⟩), fun f member => ?_⟩
    rcases List.mem_cons.mp (List.perm_middle.mem_iff.mp member) with rfl | before
    · exact ⟨below, fun inside => (AList.mem_erase.mp inside).1 rfl⟩
    · obtain ⟨smaller, missing⟩ := O.numbered f before
      exact ⟨smaller, fun inside => missing (AList.mem_erase.mp inside).2⟩
  | waiting bound live member index still processed pending =>
    exact previews_kept O (List.Subperm.refl _) (Nat.le_refl _) fun _ => Or.inl
  | complete bound live member index still processed finished =>
    exact previews_kept O (List.Subperm.refl _) (Nat.le_refl _) fun _ => Or.inl

private theorem callback_previews {callbacks : Callbacks} (O : Once s) {k : Nat}
    {lease : StreamBufferLease} (taken : streamCallbackStep callbacks k lease s = some t) :
    PreviewsOnce t := by
  simp only [streamCallbackStep] at taken
  split at taken <;> cases taken
  rename_i handler at_handler
  refine previews_kept O ?_ (Nat.le_refl _) fun _ => Or.inl
  have taken := (perm_take at_handler).map
    fun handler : PreviewHandler => handler.output.frameNumber
  refine List.Subperm.trans ?_ (taken.append_right _).symm.subperm
  simp only [previewed, List.map_cons, List.cons_append]
  split
  · simp only [List.filterMap_append, List.filterMap_cons, List.filterMap_nil]
    rw [← List.append_assoc]
    exact (List.perm_append_singleton _ _).subperm
  · exact (List.sublist_cons_self _ _).subperm

theorem step_once {D : DriverAdapter δ} {processors : List (Option (OutputProcessor π))}
    {callbacks : Callbacks} {a : Label} (T : Tracked s) (O : Once s)
    (taken : step D processors callbacks s a = some t) : Once t := by
  obtain ⟨captures, accepted⟩ := transfer_once O (step_transfer D processors T taken)
  suffices previews : PreviewsOnce t from ⟨captures, accepted, previews.1, previews.2⟩
  have quiet : ∀ u : System δ π, previewed u = previewed s →
      u.session.nextStreamingFrameNumber = s.session.nextStreamingFrameNumber →
      u.session.inFlight.streamingOutputs = s.session.inFlight.streamingOutputs →
        PreviewsOnce u := by
    intro u same next rows
    exact previews_kept O (same ▸ List.Subperm.refl _) (Nat.le_of_eq next.symm)
      fun f inside => Or.inl (rows ▸ inside)
  have emptied : ∀ u : System δ π, previewed u = previewed s →
      u.session.nextStreamingFrameNumber = s.session.nextStreamingFrameNumber →
      u.session.inFlight = Tracker.empty → PreviewsOnce u := by
    intro u same next empty
    refine previews_kept O (same ▸ List.Subperm.refl _) (Nat.le_of_eq next.symm) fun f inside => ?_
    rw [empty] at inside
    cases AList.notMem_empty f inside
  cases a with
  | configureStreams registered =>
    cases taken
    rcases configureStreams_cases D registered s.session with
      same | ⟨d, d', fds, state, -, -, -, -, same⟩ <;>
      exact quiet _ rfl (by rw [same]) (by rw [same])
  | startStreaming =>
    cases taken
    exact start_previews D O
  | processRequest request =>
    simp only [step] at taken
    split at taken <;> cases taken
    exact quiet _ rfl rfl rfl
  | post k accepted =>
    rcases postStep_outcome taken with ⟨-, rfl⟩ | ⟨request, -, -, rfl⟩ <;>
      exact quiet _ rfl rfl rfl
  | runTask k now => exact runTask_previews O taken
  | dequeue readyFd =>
    cases taken
    rcases dequeueCompletion_cases D readyFd s.session with same | ⟨d, -, -, same⟩ <;>
      exact quiet _ rfl (by simp only [dequeueStep, same]) (by simp only [dequeueStep, same])
  | process k now => exact process_previews T O taken
  | dispatch k =>
    simp only [step, dispatchStep] at taken
    split at taken <;> cases taken
    refine quiet _ ?_ rfl rfl
    simp only [previewed]
    split <;> simp
  | streamCallback k lease => exact callback_previews O taken
  | returnStream k => exact return_previews O taken
  | flush now =>
    cases taken
    by_cases active : s.session.state = .streaming ∨ s.session.state = .configured
    · rw [flush_active D now active]
      exact emptied _ rfl rfl rfl
    · rw [flush_inactive D now active]
      exact quiet _ rfl rfl rfl
  | close now =>
    cases taken
    by_cases stopped : s.session.state = .stopped
    · rw [close_stopped D now stopped]
      exact quiet _ rfl rfl rfl
    · rw [close_open D now stopped]
      exact emptied _ rfl rfl rfl

theorem reachable_once {D : DriverAdapter δ} {processors : List (Option (OutputProcessor π))}
    {callbacks : Callbacks} {permitted : System δ π → Label → Prop}
    {config : CameraDeviceSessionConfig} {driver : Option δ} {p : π}
    (run : Reaches (step D processors callbacks) permitted (System.initial config driver p) s) :
    Once s := by
  have both : Tracked s ∧ Once s := by
    refine run.invariant (fun s => Tracked s ∧ Once s) (fun _ _ _ known _ taken =>
      ⟨step_tracked D processors callbacks known.1 taken, step_once known.1 known.2 taken⟩) ?_
    refine ⟨initial_tracked config driver p, ?_, ?_, ?_, ?_⟩ <;>
      simp [pending, delivered, previewed, System.initial, Session.create, Tracker.empty]
  exact both.2

theorem uses_nodup {l : List (Use × CaptureResult)}
    (captures : ((l.filterMap fun entry =>
      match entry.1 with
      | .capture n => some (n, entry.2.frameNumber)
      | .preview _ => none).map Prod.fst).Nodup)
    (previews : (l.filterMap fun entry =>
      match entry.1 with
      | .preview f => some f
      | .capture _ => none).Nodup) : (l.map Prod.fst).Nodup := by
  induction l with
  | nil => exact List.nodup_nil
  | cons entry rest ih =>
    obtain ⟨use, result⟩ := entry
    rw [List.map_cons, List.nodup_cons]
    cases use with
    | capture n =>
      simp only [List.filterMap_cons, List.map_cons, List.nodup_cons] at captures previews
      refine ⟨fun member => captures.1 ?_, ih captures.2 previews⟩
      obtain ⟨⟨use', result'⟩, inside, rfl⟩ := List.mem_map.mp member
      refine List.mem_map.mpr ⟨(n, result'.frameNumber), ?_, rfl⟩
      exact List.mem_filterMap.mpr ⟨_, inside, rfl⟩
    | preview f =>
      simp only [List.filterMap_cons, List.nodup_cons] at captures previews
      refine ⟨fun member => previews.1 ?_, ih captures previews.2⟩
      obtain ⟨⟨use', result'⟩, inside, rfl⟩ := List.mem_map.mp member
      exact List.mem_filterMap.mpr ⟨_, inside, rfl⟩

theorem Once.uses (O : Once s) : (s.dispatched.map Prod.fst).Nodup := by
  have captures := O.captures
  rw [List.map_append] at captures
  exact uses_nodup (List.nodup_append.mp captures).2.1 (List.nodup_append.mp O.previews).2.1

section Names

/-- Tasks carry the request they were accepted for, a request's token is bound to one
of its own outputs, and a preview result has the frame number it was bound under. -/
structure Named (s : System δ π) : Prop where
  tasks : ∀ task ∈ s.tasks, s.accepted[task.1]? = some task.2
  bindings : ∀ τ b n, s.boundFor τ = some b → b.use = .capture n →
    ∃ request, s.accepted[n]? = some request ∧
      ∃ k : Nat, b.outputIndex = (k : Int) ∧ (requestOutputsFor request)[k]? = some b.target
  callbacks : ∀ handler ∈ s.callbacks, handler.result.frameNumber = handler.output.frameNumber
  dispatched : ∀ entry ∈ s.dispatched, ∀ f, entry.1 = .preview f → entry.2.frameNumber = f

private theorem Named.advance (N : Named s) (accepted : s.accepted <+: t.accepted)
    (tasks : ∀ task ∈ t.tasks, task ∈ s.tasks ∨ t.accepted[task.1]? = some task.2)
    (bindings : ∀ τ b n, t.boundFor τ = some b → b.use = .capture n → s.boundFor τ = some b ∨
      ∃ request, t.accepted[n]? = some request ∧
        ∃ k : Nat, b.outputIndex = (k : Int) ∧ (requestOutputsFor request)[k]? = some b.target)
    (callbacks : ∀ handler ∈ t.callbacks, handler ∈ s.callbacks ∨
      handler.result.frameNumber = handler.output.frameNumber)
    (dispatched : ∀ entry ∈ t.dispatched, entry ∈ s.dispatched ∨
      ∀ f, entry.1 = .preview f → entry.2.frameNumber = f) : Named t := by
  have kept : ∀ (n : Nat) (request : CaptureRequest), s.accepted[n]? = some request →
      t.accepted[n]? = some request := by
    intro n request found
    obtain ⟨more, grown⟩ := accepted
    rw [← grown, List.getElem?_append_left (List.getElem?_eq_some_iff.mp found).1]
    exact found
  refine ⟨fun task member => ?_, fun τ b n found capture => ?_, fun handler member => ?_,
    fun entry member => ?_⟩
  · exact (tasks task member).elim (fun before => kept _ _ (N.tasks task before)) id
  · rcases bindings τ b n found capture with before | fresh
    · obtain ⟨request, at_n, rest⟩ := N.bindings τ b n before capture
      exact ⟨request, kept n request at_n, rest⟩
    · exact fresh
  · exact (callbacks handler member).elim (N.callbacks handler) id
  · exact (dispatched entry member).elim (N.dispatched entry) id

private theorem preview_binding {t : Tracker} {c : DriverOutputContext} {b : Binding} {n : Nat}
    (bound : bindingOf t (previewUse c) c = some b) : b.use ≠ .capture n := by
  obtain ⟨target, -, rfl⟩ := Option.map_eq_some_iff.mp bound
  simp [previewUse]

private theorem runTask_named {D : DriverAdapter δ} (N : Named s) {k : Nat} {now : Int}
    (T : Tracked t) (taken : runTaskStep D k now s = some t) : Named t := by
  obtain ⟨n, request, at_task, ⟨result, session, outcome, rfl⟩ | ⟨session, outcome, rfl⟩⟩ :=
    runTaskStep_outcome D taken
  · exact N.advance (List.prefix_refl _) (fun _ member => Or.inl (List.mem_of_mem_eraseIdx member))
      (fun _ _ _ found _ => Or.inl found) (fun _ => Or.inl) fun _ => Or.inl
  · have own := N.tasks (n, request) (List.mem_of_getElem? at_task)
    cases outcome with
    | @submitted d d' d'' t₁ t' t'' tokens driver streaming answer before finished after bound =>
      refine N.advance (List.prefix_refl _)
        (fun _ member => Or.inl (List.mem_of_mem_eraseIdx member)) ?_ (fun _ => Or.inl)
        fun _ => Or.inl
      intro τ b n' found capture
      rcases recordBindings_cases s.session.inFlight t'' (fun _ => .capture n) s.boundFor τ with
        same | ⟨c, bound_c, unbound, same⟩
      · exact Or.inl (same ▸ found)
      · right
        simp only [same] at found
        obtain ⟨target, points, rfl⟩ := Option.map_eq_some_iff.mp found
        cases capture
        refine ⟨request, own, ?_⟩
        rcases (bound.lookups τ c).mp bound_c with old | ⟨i, at_i, rfl⟩
        · exact (unbound (mem_of_lookup old)).elim
        · refine ⟨i, rfl, ?_⟩
          have inside : i < (requestOutputsFor request).length :=
            bound.length ▸ (List.getElem?_eq_some_iff.mp at_i).1
          have listed : (queuedRow request).outputBuffers[i]? =
              some { target := (requestOutputsFor request)[i], outputIndex := (i : Int) } := by
            simp [queuedRow, makeInFlightOutputs_getElem?, inside]
          have live : t''.requests.lookup request.frameNumber = some (queuedRow request) := by
            rw [bound.rows]
            exact AList.lookup_insert _
          have expected := outputTarget_of_member T.consistent live (List.mem_of_getElem? listed)
          simp only [show ¬ ((i : Int) < 0) by omega, if_false] at points
          rw [List.getElem?_eq_getElem inside]
          exact (expected.symm.trans points)

theorem step_named {D : DriverAdapter δ} {processors : List (Option (OutputProcessor π))}
    {callbacks : Callbacks} {a : Label} (T : Tracked s) (N : Named s)
    (taken : step D processors callbacks s a = some t) : Named t := by
  have T' := step_tracked D processors callbacks T taken
  have quiet : ∀ u : System δ π, u.accepted = s.accepted → u.tasks = s.tasks →
      u.boundFor = s.boundFor → u.callbacks = s.callbacks → u.dispatched = s.dispatched →
        Named u := by
    intro u accepted tasks boundFor callbacks dispatched
    exact N.advance (accepted ▸ List.prefix_refl _) (fun _ member => Or.inl (tasks ▸ member))
      (fun _ _ _ found _ => Or.inl (boundFor ▸ found)) (fun _ member => Or.inl (callbacks ▸ member))
      fun _ member => Or.inl (dispatched ▸ member)
  have previews : ∀ (u : System δ π) (after : Tracker), u.accepted = s.accepted →
      u.tasks = s.tasks →
      u.boundFor = recordBindings s.session.inFlight after previewUse s.boundFor →
      u.callbacks = s.callbacks → u.dispatched = s.dispatched → Named u := by
    intro u after accepted tasks boundFor callbacks dispatched
    refine N.advance (accepted ▸ List.prefix_refl _) (fun _ member => Or.inl (tasks ▸ member))
      (fun τ b n found capture => ?_) (fun _ member => Or.inl (callbacks ▸ member))
      fun _ member => Or.inl (dispatched ▸ member)
    rw [boundFor] at found
    rcases recordBindings_cases s.session.inFlight after previewUse s.boundFor τ with
      same | ⟨c, -, -, same⟩
    · exact Or.inl (same ▸ found)
    · exact (preview_binding (same ▸ found) capture).elim
  cases a with
  | configureStreams registered =>
    cases taken
    exact quiet _ rfl rfl rfl rfl rfl
  | startStreaming =>
    cases taken
    exact previews _ _ rfl rfl rfl rfl rfl
  | processRequest request =>
    simp only [step] at taken
    split at taken <;> cases taken
    exact quiet _ rfl rfl rfl rfl rfl
  | post k accepted =>
    rcases postStep_outcome taken with ⟨-, rfl⟩ | ⟨request, -, -, rfl⟩
    · exact quiet _ rfl rfl rfl rfl rfl
    · refine N.advance (List.prefix_append _ _) (fun task member => ?_)
        (fun _ _ _ found _ => Or.inl found) (fun _ => Or.inl) fun _ => Or.inl
      rcases List.mem_append.mp member with before | here
      · exact Or.inl before
      · obtain rfl := List.mem_singleton.mp here
        exact Or.inr (by simp)
  | runTask k now => exact runTask_named N T' taken
  | dequeue readyFd =>
    cases taken
    exact quiet _ rfl rfl rfl rfl rfl
  | process k now =>
    obtain ⟨completion, filled, p, session, -, outcome, rfl⟩ :=
      processStep_outcome T.consistent taken
    cases outcome with
    | unknown unbound => exact quiet _ rfl rfl rfl rfl rfl
    | preview bound negative row processed =>
      refine N.advance (List.prefix_refl _) (fun _ => Or.inl) (fun _ _ _ found _ => Or.inl found)
        (fun handler member => ?_) fun _ => Or.inl
      rcases List.mem_append.mp member with before | here
      · exact Or.inl before
      · obtain rfl := List.mem_singleton.mp here
        exact Or.inr rfl
    | waiting bound live member index still processed pending => exact quiet _ rfl rfl rfl rfl rfl
    | complete bound live member index still processed finished =>
      exact quiet _ rfl rfl rfl rfl rfl
  | dispatch k =>
    simp only [step, dispatchStep] at taken
    split at taken <;> cases taken
    refine N.advance (List.prefix_refl _) (fun _ => Or.inl) (fun _ _ _ found _ => Or.inl found)
      (fun _ => Or.inl) fun entry member => ?_
    simp only at member
    split at member
    · rcases List.mem_append.mp member with before | here
      · exact Or.inl before
      · obtain rfl := List.mem_singleton.mp here
        exact Or.inr fun f preview => by cases preview
    · exact Or.inl member
  | streamCallback k lease =>
    simp only [step, streamCallbackStep] at taken
    split at taken <;> cases taken
    rename_i handler at_handler
    refine N.advance (List.prefix_refl _) (fun _ => Or.inl) (fun _ _ _ found _ => Or.inl found)
      (fun _ member => Or.inl (List.mem_of_mem_eraseIdx member)) fun entry member => ?_
    simp only at member
    split at member
    · rcases List.mem_append.mp member with before | here
      · exact Or.inl before
      · obtain rfl := List.mem_singleton.mp here
        refine Or.inr fun f preview => ?_
        cases preview
        exact N.callbacks handler (List.mem_of_getElem? at_handler)
    · exact Or.inl member
  | returnStream k =>
    simp only [step, returnStep] at taken
    split at taken <;> cases taken
    exact previews _ _ rfl rfl rfl rfl rfl
  | flush now =>
    cases taken
    exact quiet _ rfl rfl rfl rfl rfl
  | close now =>
    cases taken
    exact quiet _ rfl rfl rfl rfl rfl

theorem reachable_named {D : DriverAdapter δ} {processors : List (Option (OutputProcessor π))}
    {callbacks : Callbacks} {permitted : System δ π → Label → Prop}
    {config : CameraDeviceSessionConfig} {driver : Option δ} {p : π}
    (run : Reaches (step D processors callbacks) permitted (System.initial config driver p) s) :
    Named s := by
  have both : Tracked s ∧ Named s := by
    refine run.invariant (fun s => Tracked s ∧ Named s) (fun _ _ _ known _ taken =>
      ⟨step_tracked D processors callbacks known.1 taken, step_named known.1 known.2 taken⟩) ?_
    refine ⟨initial_tracked config driver p, ?_, ?_, ?_, ?_⟩ <;> simp [System.initial]
  exact both.2

end Names

end MiniCam.Hal.ResultIdentity
