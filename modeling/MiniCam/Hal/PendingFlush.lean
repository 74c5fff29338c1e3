/- Module: MiniCam/Hal/PendingFlush
   source: hal/camera_device_session.cpp, interface/camera_device.h
   digest: What becomes of the requests that wait for their task while the session is flushed. -/

import MiniCam.Hal.DriverProtocol
import MiniCam.Hal.ResultIdentity
import MiniCam.Hal.ResultOrigins

set_option autoImplicit false
set_option relaxedAutoImplicit false

namespace MiniCam.Hal.PendingFlush

open MiniCam.Foundation.Runs
open MiniCam.Hal.Interface
open MiniCam.Hal.CameraDeviceSession
open MiniCam.Hal.SessionSystem
open MiniCam.Hal.SessionSpec
open MiniCam.Hal.TokenBijection (Tracked reachable_tracked step_tracked)
open MiniCam.Hal.ResultAccounting (pending delivered HasResult perm_take)
open MiniCam.Hal.ResultIdentity (Once reachable_once step_once)
open MiniCam.Hal.ResultOrigins (step_origins)
open MiniCam.Hal.DriverProtocol (Call traced)
open MiniCam.Hal.MockDriverAdapter (MockDriver adapter)

variable {δ π : Type} {s t : System δ π}

section Waiting

structure Keeps (s : System δ π) (a : Label) (t : System δ π) : Prop where
  tasks : ∀ task ∈ s.tasks, task ∈ t.tasks ∨
    ∃ k now, a = .runTask k now ∧ s.tasks[k]? = some task
  added : ∀ task ∈ t.tasks, task ∈ s.tasks ∨ task.1 = s.accepted.length
  results : ∀ id result, (id, result) ∈ s.prepared →
    (id, result) ∈ t.prepared ∨ (.capture id, result) ∈ t.dispatched
  sent : ∀ entry ∈ s.dispatched, entry ∈ t.dispatched

private theorem Keeps.of_grow {a : Label} (tasks : t.tasks = s.tasks)
    (prepared : s.prepared <+: t.prepared) (sent : ∀ entry ∈ s.dispatched, entry ∈ t.dispatched) :
    Keeps s a t := by
  refine ⟨?_, ?_, ?_, sent⟩
  · intro task member
    rw [tasks]
    exact Or.inl member
  · intro task member
    rw [tasks] at member
    exact Or.inl member
  · intro id result member
    exact Or.inl (prepared.subset member)

private theorem mem_of_not_at {α : Type} {l : List α} {k : Nat} {x : α} (member : x ∈ l) :
    x ∈ l.eraseIdx k ∨ l[k]? = some x := by
  cases found : l[k]? with
  | none =>
    rw [List.eraseIdx_of_length_le (List.getElem?_eq_none_iff.mp found)]
    exact Or.inl member
  | some y =>
    rcases List.mem_cons.mp ((perm_take found).mem_iff.mp member) with rfl | rest
    · exact Or.inr rfl
    · exact Or.inl rest

theorem step_keeps {D : DriverAdapter δ} {processors : List (Option (OutputProcessor π))}
    {stream : Bool} {a : Label} (taken : step D processors ⟨true, stream⟩ s a = some t) :
    Keeps s a t := by
  have passive : Passive a → Keeps s a t := by
    intro label
    have frame := step_frame D label taken
    exact Keeps.of_grow frame.tasks (frame.prepared ▸ List.prefix_refl _)
      fun _ member => frame.dispatched ▸ member
  cases a with
  | configureStreams registered => exact passive trivial
  | startStreaming => exact passive trivial
  | processRequest request => exact passive trivial
  | post k accepted =>
    rcases postStep_outcome taken with ⟨-, rfl⟩ | ⟨request, -, -, rfl⟩
    · exact Keeps.of_grow rfl (List.prefix_refl _) fun _ => id
    · refine ⟨?_, ?_, fun _ _ => Or.inl, fun _ => id⟩
      · intro task member
        exact Or.inl (List.mem_append_left _ member)
      · intro task member
        rcases List.mem_append.mp member with old | new
        · exact Or.inl old
        · rw [List.mem_singleton.mp new]
          exact Or.inr rfl
  | runTask k now =>
    have tasks : ∀ task ∈ s.tasks, task ∈ s.tasks.eraseIdx k ∨ ∃ k' now',
        Label.runTask k now = .runTask k' now' ∧ s.tasks[k']? = some task := by
      intro task member
      rcases mem_of_not_at (k := k) member with kept | here
      · exact Or.inl kept
      · exact Or.inr ⟨k, now, rfl, here⟩
    have added : ∀ task ∈ s.tasks.eraseIdx k, task ∈ s.tasks ∨ task.1 = s.accepted.length :=
      fun task member => Or.inl (List.mem_of_mem_eraseIdx member)
    obtain ⟨n, request, -, ⟨result, session, -, rfl⟩ | ⟨session, -, rfl⟩⟩ :=
      runTaskStep_outcome D taken
    · exact ⟨tasks, added, fun _ _ member => Or.inl (List.mem_append_left _ member), fun _ => id⟩
    · exact ⟨tasks, added, fun _ _ => Or.inl, fun _ => id⟩
  | dequeue readyFd => exact passive trivial
  | process k now =>
    simp only [step, processStep] at taken
    split at taken
    · cases taken
    · cases taken
      simp only [afterCompletion]
      split
      · exact Keeps.of_grow rfl (List.prefix_refl _) fun _ => id
      · exact Keeps.of_grow rfl (List.prefix_append _ _) fun _ => id
      · exact Keeps.of_grow rfl (List.prefix_refl _) fun _ => id
  | dispatch k =>
    simp only [step, dispatchStep] at taken
    split at taken <;> cases taken
    rename_i id result at_k
    refine ⟨fun _ => Or.inl, fun _ => Or.inl, ?_, ?_⟩
    · intro id' result' member
      rcases mem_of_not_at (k := k) member with kept | here
      · exact Or.inl kept
      · cases at_k.symm.trans here
        exact Or.inr (List.mem_append_right _ (List.mem_singleton.mpr rfl))
    · intro entry member
      exact List.mem_append_left _ member
  | streamCallback k lease =>
    simp only [step, streamCallbackStep] at taken
    split at taken <;> cases taken
    refine Keeps.of_grow rfl (List.prefix_refl _) ?_
    intro entry member
    simp only [Bool.or_true, if_true]
    exact List.mem_append_left _ member
  | returnStream k => exact passive trivial
  | flush now =>
    cases taken
    exact Keeps.of_grow rfl (List.prefix_append _ _) fun _ => id
  | close now =>
    cases taken
    exact Keeps.of_grow rfl (List.prefix_append _ _) fun _ => id

def Unhandled (s : System δ π) : Prop :=
  ∀ entry ∈ s.submissions, entry.1 < s.accepted.length ∧
    ∀ request, (entry.1, request) ∉ s.tasks

private theorem runTask_tasks {D : DriverAdapter δ} {k : Nat} {now : Int}
    (taken : runTaskStep D k now s = some t) : t.tasks = s.tasks.eraseIdx k := by
  obtain ⟨n, request, -, ⟨result, session, -, rfl⟩ | ⟨session, -, rfl⟩⟩ :=
    runTaskStep_outcome D taken
  · rfl
  · rfl

theorem waiting_accepted (O : Once s) {id : Nat} {request : CaptureRequest}
    (waits : (id, request) ∈ s.tasks) : id < s.accepted.length := by
  have listed : (id, request.frameNumber) ∈ pending s ++ delivered s := by
    apply List.mem_append_left
    apply List.mem_append_left
    apply List.mem_append_left
    exact List.mem_map.mpr ⟨(id, request), waits, rfl⟩
  obtain ⟨accepted, found, -⟩ := O.accepted _ listed
  exact (List.getElem?_eq_some_iff.mp found).1

theorem task_once (O : Once s) {k id : Nat} {request request' : CaptureRequest}
    (found : s.tasks[k]? = some (id, request)) : (id, request') ∉ s.tasks.eraseIdx k := by
  have distinct : (s.tasks.map Prod.fst).Nodup := by
    have captures := O.captures
    simp only [pending, List.map_append, List.map_map, List.append_assoc] at captures
    exact (List.nodup_append.mp captures).1
  have order := ((perm_take found).map Prod.fst).nodup_iff.mp distinct
  intro member
  exact (List.nodup_cons.mp order).1 (List.mem_map.mpr ⟨_, member, rfl⟩)

theorem step_unhandled {D : DriverAdapter δ} {processors : List (Option (OutputProcessor π))}
    {stream : Bool} {a : Label} (T : Tracked s) (O : Once s) (U : Unhandled s)
    (taken : step D processors ⟨true, stream⟩ s a = some t) : Unhandled t := by
  have K := step_keeps taken
  have origins := step_origins T taken
  have more := origins.accepted.length_le
  have kept : ∀ entry ∈ s.submissions, entry.1 < t.accepted.length ∧
      ∀ request, (entry.1, request) ∉ t.tasks := by
    intro entry member
    obtain ⟨below, absent⟩ := U entry member
    refine ⟨by omega, ?_⟩
    intro request waits
    rcases K.added _ waits with before | new
    · exact absent request before
    · simp only at new
      omega
  rcases origins.handled with same | ⟨k, now, id, request, rfl, found, same⟩
  · rw [Unhandled, same]
    exact kept
  · intro entry member
    rw [same] at member
    rcases List.mem_append.mp member with old | new
    · exact kept entry old
    · rw [List.mem_singleton.mp new]
      have below := waiting_accepted O (List.mem_of_getElem? found)
      refine ⟨by simp only; omega, ?_⟩
      rw [runTask_tasks taken]
      intro request'
      exact task_once O found

theorem reachable_unhandled {D : DriverAdapter δ}
    {processors : List (Option (OutputProcessor π))} {stream : Bool}
    {config : CameraDeviceSessionConfig} {driver : Option δ} {p : π}
    (run : Reaches (step D processors ⟨true, stream⟩) always (System.initial config driver p) s) :
    Unhandled s := by
  have none_yet : Reaches (step D processors ⟨true, stream⟩) always
      (System.initial config driver p) (System.initial config driver p) := Reaches.refl _
  have all : Tracked s ∧ Once s ∧ Unhandled s := by
    refine run.invariant (fun s => Tracked s ∧ Once s ∧ Unhandled s) ?_ ?_
    · intro s a t known _ taken
      exact ⟨step_tracked _ _ _ known.1 taken, step_once known.1 known.2.1 taken,
        step_unhandled known.1 known.2.1 known.2.2 taken⟩
    · refine ⟨reachable_tracked D processors _ none_yet, reachable_once none_yet, ?_⟩
      intro entry member
      cases member
  exact all.2.2

end Waiting

section Flushed

/-- The task of a request that waited through a flush does not run in a session that accepts
requests again. -/
def NotRevived (waiting : List (Nat × CaptureRequest)) (s : System δ π) : Label → Prop
  | .runTask k _ => ∀ task, s.tasks[k]? = some task → task ∈ waiting →
      rejectRequest s.session = true
  | _ => True

def NoRestart (_ : System δ π) : Label → Prop
  | .startStreaming => False
  | _ => True

instance noRestartDecidable (s : System δ π) (a : Label) : Decidable (NoRestart s a) :=
  match a with
  | .startStreaming => .isFalse id
  | .configureStreams _ | .processRequest _ | .post _ _ | .runTask _ _ | .dequeue _
  | .process _ _ | .dispatch _ | .streamCallback _ _ | .returnStream _ | .flush _ | .close _ =>
    .isTrue trivial

/-- A request that no driver has seen: it still waits, or its one result is Flushed. In
`submissions` stand the driver, and with it the log of its calls, before and after the task. -/
structure Spared (s : System (δ × List Call) π) (id : Nat) (request : CaptureRequest) : Prop where
  unseen : ∀ before after, (id, before, after) ∈ s.submissions → after = before
  answered : (id, request) ∈ s.tasks ∨ ∃ result, result.status = .flushed ∧
    result.frameNumber = request.frameNumber ∧
    ((id, result) ∈ s.prepared ∨ (.capture id, result) ∈ s.dispatched)
  only : ∀ result, (id, result) ∈ s.prepared ∨ (.capture id, result) ∈ s.dispatched →
    result.status = .flushed

inductive Waited (s : System δ π) (id : Nat) (request : CaptureRequest) : Prop where
  | waits (queued : (id, request) ∈ s.tasks) (fresh : ∀ entry ∈ s.submissions, entry.1 ≠ id)
  | ended (result : CaptureResult) (unseen : ∀ before after, (id, before, after) ∈ s.submissions →
      after = before) (status : result.status = .flushed)
    (frame : result.frameNumber = request.frameNumber)
    (out : (id, result) ∈ s.prepared ∨ (.capture id, result) ∈ s.dispatched)

private theorem mem_delivered {id : Nat} {result : CaptureResult}
    (sent : (Use.capture id, result) ∈ s.dispatched) :
    (id, result.frameNumber) ∈ delivered s :=
  List.mem_filterMap.mpr ⟨_, sent, rfl⟩

theorem result_not_waiting (O : Once s) {id : Nat} {request : CaptureRequest}
    {result : CaptureResult} (out : HasResult s id result) : (id, request) ∉ s.tasks := by
  intro waits
  have captures := O.captures
  simp only [pending, List.map_append, List.append_assoc] at captures
  have apart := (List.nodup_append.mp captures).2.2
  refine apart id ?_ id ?_ rfl
  · exact List.mem_map.mpr ⟨_, List.mem_map.mpr ⟨_, waits, rfl⟩, rfl⟩
  · apply List.mem_append_right
    rcases out with prepared | sent
    · apply List.mem_append_left
      exact List.mem_map.mpr ⟨_, List.mem_map.mpr ⟨_, prepared, rfl⟩, rfl⟩
    · apply List.mem_append_right
      exact List.mem_map.mpr ⟨_, mem_delivered sent, rfl⟩

theorem result_unique (O : Once s) {id : Nat} {result result' : CaptureResult}
    (out : HasResult s id result) (out' : HasResult s id result') : result = result' := by
  have captures := O.captures
  simp only [pending, List.map_append, List.append_assoc, List.map_map] at captures
  have later := (List.nodup_append.mp (List.nodup_append.mp captures).2.1).2.1
  obtain ⟨distinct, -, apart⟩ := List.nodup_append.mp later
  have separate : ∀ {r r' : CaptureResult}, (id, r) ∈ s.prepared →
      (Use.capture id, r') ∈ s.dispatched → False := by
    intro r r' prepared sent
    refine apart id ?_ id ?_ rfl
    · exact List.mem_map.mpr ⟨_, prepared, rfl⟩
    · exact List.mem_map.mpr ⟨_, mem_delivered sent, rfl⟩
  rcases out with prepared | sent <;> rcases out' with prepared' | sent'
  · have same := List.inj_on_of_nodup_map distinct prepared prepared' rfl
    exact (Prod.mk.inj same).2
  · exact (separate prepared sent').elim
  · exact (separate prepared' sent).elim
  · have same := List.inj_on_of_nodup_map O.uses sent sent' rfl
    exact (Prod.mk.inj same).2

theorem waited_step {D : DriverAdapter δ} {processors : List (Option (OutputProcessor π))}
    {stream : Bool} {a : Label} {waiting : List (Nat × CaptureRequest)} {id : Nat}
    {request : CaptureRequest} (T : Tracked s) (O : Once s) (W : Waited s id request)
    (flushed : (id, request) ∈ waiting) (down : NotRevived waiting s a)
    (taken : step D processors ⟨true, stream⟩ s a = some t) : Waited t id request := by
  have K := step_keeps taken
  have handled := (step_origins T taken).handled
  cases W with
  | waits queued fresh =>
    rcases K.tasks _ queued with still | ⟨k, now, rfl, found⟩
    · refine Waited.waits still ?_
      rcases handled with same | ⟨k, now, n, other, rfl, found, same⟩
      · rw [same]
        exact fresh
      · rw [same]
        intro entry member
        rcases List.mem_append.mp member with old | new
        · exact fresh entry old
        · rw [List.mem_singleton.mp new]
          rintro rfl
          rw [runTask_tasks taken] at still
          exact task_once O found still
    · have rejected := down (id, request) found flushed
      simp only [step, runTaskStep, found, submitCaptureRequest_rejected D rejected] at taken
      cases taken
      refine Waited.ended _ ?_ rfl rfl
        (Or.inl (List.mem_append_right _ (List.mem_singleton.mpr rfl)))
      intro before after member
      rcases List.mem_append.mp member with old | new
      · exact absurd rfl (fresh _ old)
      · cases List.mem_singleton.mp new
        rfl
  | ended result unseen status frame out =>
    have out' : HasResult t id result := by
      rcases out with prepared | sent
      · exact K.results id result prepared
      · exact Or.inr (K.sent _ sent)
    refine Waited.ended result ?_ status frame out'
    rcases handled with same | ⟨k, now, n, other, rfl, found, same⟩
    · rw [same]
      exact unseen
    · rw [same]
      intro before after member
      rcases List.mem_append.mp member with old | new
      · exact unseen before after old
      · cases List.mem_singleton.mp new
        exact absurd (List.mem_of_getElem? found) (result_not_waiting O out)

theorem Waited.spared {s : System (δ × List Call) π} (O : Once s) {id : Nat}
    {request : CaptureRequest} (W : Waited s id request) : Spared s id request := by
  cases W with
  | waits queued fresh =>
    refine ⟨?_, Or.inl queued, ?_⟩
    · intro before after member
      exact absurd rfl (fresh _ member)
    · intro result out
      exact absurd queued (result_not_waiting O out)
  | ended result unseen status frame out =>
    refine ⟨unseen, Or.inr ⟨result, status, frame, out⟩, ?_⟩
    intro other out'
    rw [← result_unique O out out']
    exact status

theorem submitOutputs_log (D : DriverAdapter δ) (frameNumber : Nat)
    (pairs : List (OutputBufferTarget × InFlightRequestTracker.InFlightOutput))
    {d d' : δ × List Call} {t t' : InFlightRequestTracker.Tracker} {ok : Bool}
    (run : submitOutputs (traced D) frameNumber pairs d t = (ok, d', t')) : d.2 <+: d'.2 := by
  induction pairs generalizing d t with
  | nil =>
    cases run
    exact List.prefix_refl _
  | cons pair rest ih =>
    obtain ⟨target, output⟩ := pair
    simp only [submitOutputs] at run
    split at run
    · rename_i d₁ answer
      obtain ⟨-, rfl⟩ := Prod.mk.inj answer
      cases run
      exact List.prefix_append _ _
    · rename_i token d₁ answer
      obtain ⟨-, rfl⟩ := Prod.mk.inj answer
      split at run
      · cases run
        exact List.prefix_append _ _
      · exact (List.prefix_append _ _).trans (ih run)

theorem submit_seen {D : DriverAdapter δ} {s s' : Session (δ × List Call)} {now : Int}
    {request : CaptureRequest} {result : Option CaptureResult}
    (accepting : rejectRequest s = false)
    (outcome : SubmitOutcome (traced D) now request s result s') : s'.driver ≠ s.driver := by
  have longer : ∀ {d d' : δ × List Call}, s.driver = some d →
      d.2 ++ [Call.canSubmitCaptureOutputs] <+: d'.2 → some d' ≠ s.driver := by
    intro d d' driver more same
    rw [driver, Option.some.injEq] at same
    rw [same] at more
    have length := more.length_le
    rw [List.length_append, List.length_singleton] at length
    omega
  cases outcome with
  | rejected closed =>
    rw [accepting] at closed
    cases closed
  | refused driver streaming answer message =>
    obtain ⟨-, rfl⟩ := Prod.mk.inj answer
    exact longer driver (List.prefix_refl _)
  | duplicate driver streaming answer live =>
    obtain ⟨-, rfl⟩ := Prod.mk.inj answer
    exact longer driver (List.prefix_refl _)
  | failed driver streaming answer absent before stopped =>
    obtain ⟨-, rfl⟩ := Prod.mk.inj answer
    exact longer driver (submitOutputs_log D _ _ stopped)
  | submitted driver streaming answer before finished after bound =>
    obtain ⟨-, rfl⟩ := Prod.mk.inj answer
    exact longer driver (submitOutputs_log D _ _ finished)

theorem idle_step {D : DriverAdapter δ} {processors : List (Option (OutputProcessor π))}
    {callbacks : Callbacks} {a : Label} (idle : s.session.state ≠ .streaming)
    (down : NoRestart s a) (taken : step D processors callbacks s a = some t) :
    t.session.state ≠ .streaming := by
  cases a with
  | configureStreams registered =>
    cases taken
    rcases configureStreams_cases D registered s.session with
      same | ⟨d, d', fds, state, -, -, -, became, same⟩ <;> rw [same]
    · exact idle
    · rcases became with rfl | rfl <;> simp
  | startStreaming => exact down.elim
  | processRequest request =>
    simp only [step] at taken
    split at taken <;> cases taken
    exact idle
  | post k accepted =>
    rcases postStep_outcome taken with ⟨-, rfl⟩ | ⟨request, -, -, rfl⟩ <;>
      exact idle
  | runTask k now =>
    simp only [step, runTaskStep,
      submitCaptureRequest_rejected D (rejectRequest_of_idle idle)] at taken
    split at taken <;> cases taken
    exact idle
  | dequeue readyFd =>
    cases taken
    simp only [dequeueStep, dequeueCompletion_ignored D idle]
    exact idle
  | process k now =>
    simp only [step, processStep] at taken
    split at taken
    · cases taken
    · rename_i completion at_completion
      cases taken
      have state := (DriverProtocol.tryFill_frame processors completion now s.processorState
        s.session).2
      simp only [afterCompletion]
      split <;> (rw [state]; exact idle)
  | dispatch k =>
    simp only [step, dispatchStep] at taken
    split at taken <;> cases taken
    exact idle
  | streamCallback k lease =>
    simp only [step, streamCallbackStep] at taken
    split at taken <;> cases taken
    exact idle
  | returnStream k =>
    simp only [step, returnStep, returnStreamBuffer_ignored D idle] at taken
    split at taken <;> cases taken
    exact idle
  | flush now =>
    cases taken
    by_cases active : s.session.state = .streaming ∨ s.session.state = .configured
    · rw [flush_active D now active]
      simp [withResults]
    · rw [flush_inactive D now active]
      exact idle
  | close now =>
    cases taken
    by_cases stopped : s.session.state = .stopped
    · rw [close_stopped D now stopped]
      exact idle
    · rw [close_open D now stopped]
      simp [withResults]

theorem not_revived_of_no_restart {D : DriverAdapter δ}
    {processors : List (Option (OutputProcessor π))} {callbacks : Callbacks}
    (waiting : List (Nat × CaptureRequest)) (idle : s.session.state ≠ .streaming)
    (run : Reaches (step D processors callbacks) NoRestart s t) :
    Reaches (step D processors callbacks) (NotRevived waiting) s t := by
  have both : Reaches (step D processors callbacks) (NotRevived waiting) s t ∧
      t.session.state ≠ .streaming := by
    refine run.invariant (fun t => Reaches (step D processors callbacks) (NotRevived waiting) s t ∧
      t.session.state ≠ .streaming) ?_ ⟨Reaches.refl s, idle⟩
    intro u a v known down taken
    refine ⟨known.1.tail ?_ taken, idle_step known.2 down taken⟩
    cases a with
    | runTask k now =>
      intro task _ _
      exact rejectRequest_of_idle known.2
    | _ => trivial
  exact both.1

/-- The requests that wait when a streaming session is flushed. Each is spared as long as its
task does not run in a session that accepts requests again; that is so when the session is not
restarted, and a request whose task does run in such a session is not spared. -/
theorem flush_covers_waiting (D : DriverAdapter δ) (processors : List (Option (OutputProcessor π)))
    (stream : Bool) (config : CameraDeviceSessionConfig) (driver : Option δ) (p : π)
    (s t : System (δ × List Call) π) (now : Int)
    (run : Reaches (step (traced D) processors ⟨true, stream⟩) always
      (System.initial config (driver.map fun d => (d, [])) p) s)
    (streaming : s.session.state = .streaming)
    (flushed : step (traced D) processors ⟨true, stream⟩ s (.flush now) = some t)
    (id : Nat) (request : CaptureRequest) (waits : (id, request) ∈ s.tasks) :
    (∀ u, Reaches (step (traced D) processors ⟨true, stream⟩) (NotRevived s.tasks) t u →
      Spared u id request) ∧
    (∀ u, Reaches (step (traced D) processors ⟨true, stream⟩) NoRestart t u →
      Spared u id request) ∧
    ∀ u v k now', Reaches (step (traced D) processors ⟨true, stream⟩) always t u →
      u.tasks[k]? = some (id, request) →
      step (traced D) processors ⟨true, stream⟩ u (.runTask k now') = some v →
      rejectRequest u.session = false → ¬ Spared v id request := by
  have T := reachable_tracked (traced D) processors ⟨true, stream⟩ run
  have O := reachable_once run
  have U := reachable_unhandled run
  have T' := step_tracked _ _ _ T flushed
  have O' := step_once T O flushed
  have W : Waited t id request := by
    cases flushed
    refine Waited.waits waits ?_
    rintro entry member rfl
    exact (U entry member).2 request waits
  have spared : ∀ u, Reaches (step (traced D) processors ⟨true, stream⟩) (NotRevived s.tasks) t u →
      Spared u id request := by
    intro u later
    have all : Tracked u ∧ Once u ∧ Waited u id request := by
      refine later.invariant (fun u => Tracked u ∧ Once u ∧ Waited u id request) ?_ ⟨T', O', W⟩
      intro u a v known down taken
      exact ⟨step_tracked _ _ _ known.1 taken, step_once known.1 known.2.1 taken,
        waited_step known.1 known.2.1 known.2.2 waits down taken⟩
    exact all.2.2.spared all.2.1
  refine ⟨spared, ?_, ?_⟩
  · intro u later
    apply spared u
    apply not_revived_of_no_restart s.tasks ?_ later
    cases flushed
    rw [flush_active _ now (Or.inl streaming)]
    simp [withResults]
  · intro u v k now' later found taken accepting S
    have last : ∀ {session : Session (δ × List Call)},
        (id, u.session.driver, session.driver) ∈
          u.submissions ++ [(id, u.session.driver, session.driver)] :=
      List.mem_append_right _ (List.mem_singleton.mpr rfl)
    obtain ⟨n, other, found', ended⟩ := runTaskStep_outcome (traced D) taken
    cases found.symm.trans found'
    rcases ended with ⟨result, session, outcome, rfl⟩ | ⟨session, outcome, rfl⟩
    · exact submit_seen accepting outcome (S.unseen _ _ last)
    · exact submit_seen accepting outcome (S.unseen _ _ last)

def waitingScript : List Label :=
  [.configureStreams true, .startStreaming, .processRequest { frameNumber := 7 }, .post 0 true]

theorem flush_covers_waiting_drained :
    ∃ s t u : System (MockDriver × List Call) Unit,
      Reaches (step (traced adapter) [] ⟨true, false⟩) always
        (System.initial {} ((some ({} : MockDriver)).map fun d => (d, [])) ()) s ∧
      step (traced adapter) [] ⟨true, false⟩ s (.flush 2) = some t ∧
      Reaches (step (traced adapter) [] ⟨true, false⟩) (NotRevived s.tasks) t u ∧
      u.dispatched.map (fun entry => entry.2.status) = [.flushed] ∧
      Spared u 0 { frameNumber := 7 } := by
  obtain ⟨s, run, passed⟩ := exists_reaches_of_replay (step (traced adapter) [] ⟨true, false⟩)
    always (System.initial {} ((some ({} : MockDriver)).map fun d => (d, [])) ()) waitingScript
    (fun s => s.session.state == .streaming && s.tasks == [(0, { frameNumber := 7 })] &&
      (step (traced adapter) [] ⟨true, false⟩ s (.flush 2)).any fun t =>
        (replay (step (traced adapter) [] ⟨true, false⟩) NoRestart t
          [.runTask 0 3, .dispatch 0]).any fun u =>
            u.dispatched.map (fun entry => entry.2.status) == [.flushed])
    (by decide +kernel)
  simp only [Bool.and_eq_true, beq_iff_eq, Option.any_eq_true] at passed
  obtain ⟨⟨streaming, tasks⟩, t, flushed, u, played, status⟩ := passed
  have waits : (0, { frameNumber := 7 }) ∈ s.tasks := by
    rw [tasks]
    exact List.mem_singleton.mpr rfl
  have idle : t.session.state ≠ .streaming := by
    cases flushed
    rw [flush_active _ 2 (Or.inl streaming)]
    simp [withResults]
  have later := not_revived_of_no_restart s.tasks idle (reaches_of_replay played)
  refine ⟨s, t, u, run, flushed, later, status, ?_⟩
  exact (flush_covers_waiting adapter [] false {} (some {}) () s t 2 run streaming flushed 0 _
    waits).1 u later

/-- A request that waits through a flush is submitted to the driver when the session has been
started again before its task runs, and its result is Ok. -/
theorem restart_revives_flushed_request :
    ∃ s t u : System (MockDriver × List Call) Unit,
      Reaches (step (traced adapter) [] ⟨true, false⟩) always
        (System.initial {} ((some ({} : MockDriver)).map fun d => (d, [])) ()) s ∧
      s.session.state = .streaming ∧ (0, { frameNumber := 7 }) ∈ s.tasks ∧
      step (traced adapter) [] ⟨true, false⟩ s (.flush 2) = some t ∧
      Reaches (step (traced adapter) [] ⟨true, false⟩) always t u ∧
      u.session.driver.map (fun d => d.2) =
        some [.configureStream true, .startStreaming true, .stopStreaming, .startStreaming true,
          .canSubmitCaptureOutputs, .submitCapture, .dequeueCompletion] ∧
      u.dispatched.map (fun entry => (entry.1, entry.2.status)) = [(.capture 0, .ok)] ∧
      ¬ Spared u 0 { frameNumber := 7 } := by
  obtain ⟨s, run, passed⟩ := exists_reaches_of_replay (step (traced adapter) [] ⟨true, false⟩)
    always (System.initial {} ((some ({} : MockDriver)).map fun d => (d, [])) ()) waitingScript
    (fun s => s.session.state == .streaming && s.tasks == [(0, { frameNumber := 7 })] &&
      (step (traced adapter) [] ⟨true, false⟩ s (.flush 2)).any fun t =>
        (replay (step (traced adapter) [] ⟨true, false⟩) always t
          [.startStreaming, .runTask 0 3, .dequeue 5, .process 0 4, .dispatch 0]).any fun u =>
            u.session.driver.map (fun d => d.2) ==
              some [.configureStream true, .startStreaming true, .stopStreaming,
                .startStreaming true, .canSubmitCaptureOutputs, .submitCapture,
                .dequeueCompletion] &&
            u.dispatched.map (fun entry => (entry.1, entry.2.status)) == [(.capture 0, .ok)])
    (by decide +kernel)
  simp only [Bool.and_eq_true, beq_iff_eq, Option.any_eq_true] at passed
  obtain ⟨⟨streaming, tasks⟩, t, flushed, u, played, log, status⟩ := passed
  refine ⟨s, t, u, run, streaming, ?_, flushed, reaches_of_replay played, log, status, ?_⟩
  · rw [tasks]
    exact List.mem_singleton.mpr rfl
  · intro S
    obtain ⟨⟨use, result⟩, member, same⟩ := List.mem_map.mp (status ▸ List.mem_singleton.mpr rfl :
      (Use.capture 0, CaptureStatus.ok) ∈
        u.dispatched.map fun entry => (entry.1, entry.2.status))
    obtain ⟨rfl, ok⟩ := Prod.mk.inj same
    have flushed_result := S.only result (Or.inr member)
    simp only at ok
    rw [flushed_result] at ok
    cases ok

end Flushed

end MiniCam.Hal.PendingFlush
