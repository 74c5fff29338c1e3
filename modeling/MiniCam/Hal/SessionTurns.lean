/- Module: MiniCam/Hal/SessionTurns
   source: hal/camera_device_session.cpp, hal/task_executor.cpp
   digest: A session on its threads behaves as the session system whose requests and completions
     come one after the other, the requests in the order of their acceptance. -/

import MiniCam.Hal.SessionThreads
import MiniCam.Hal.ResultAccounting
import MiniCam.Hal.MockDriverAdapter
import MiniCam.Queue.FifoRefinement

set_option autoImplicit false
set_option relaxedAutoImplicit false

namespace MiniCam.Hal.SessionTurns

open MiniCam.Foundation.Runs (Reaches always exists_reaches_of_replay)
open MiniCam.Foundation.Simulation
open MiniCam.Hal.Interface
open MiniCam.Hal.InFlightRequestTracker
open MiniCam.Hal.CameraDeviceSession
open MiniCam.Hal.SessionSpec
open MiniCam.Hal.SessionSystem (System Callbacks PreviewHandler)
open MiniCam.Hal.SessionThreads
open MiniCam.Hal.ResultAccounting (perm_take)
open MiniCam.Hal.MockDriverAdapter (MockDriver adapter)
open MiniCam.Queue.FifoRefinement (FifoMove)

variable {δ π : Type}

section Turns

/-- No completion is in progress, and only flushed results wait for their dispatch. -/
def Rested (u : System δ π) : Prop :=
  u.dequeued = [] ∧ u.callbacks = [] ∧ u.returning = [] ∧
    ∀ entry ∈ u.prepared, entry.2.status = .flushed

/-- Requests and completions are taken up one at a time, a request only after those that were
accepted before it. -/
def InTurn (u : System δ π) : SessionSystem.Label → Prop
  | .runTask k _ => Rested u ∧ ∀ task, u.tasks[k]? = some task →
      ∀ entry ∈ u.submissions, entry.1 < task.1
  | .dequeue _ => Rested u
  | _ => True

end Turns

section Relation

/-- What the threads hold is what the system has in progress. A task that a restart has dropped
stays in the system and is never run there. -/
structure Matches (t : Threads δ π) (u : System δ π) : Prop where
  session : u.session = t.session
  processorState : u.processorState = t.processorState
  admitting : u.admitting = t.admitting
  accepted : u.accepted = t.accepted
  handled : u.submissions.map Prod.fst = t.handled
  tasks : t.waiting.Sublist u.tasks
  ordered : u.tasks.Pairwise fun task later => task.1 < later.1
  below : ∀ task ∈ u.tasks, task.1 < u.accepted.length
  known : ∀ n ∈ t.handled, n < t.accepted.length
  after : ∀ n ∈ t.handled, ∀ task ∈ t.waiting, n < task.1
  dequeued : u.dequeued = t.worker.completion
  callbacks : u.callbacks = t.worker.called
  returning : u.returning = t.worker.returned
  prepared : (u.prepared.map Prod.snd).Perm (t.worker.result ++ t.flushing.flatten)
  flushed : ∀ result ∈ t.flushing.flatten, result.status = .flushed
  reported : u.dispatched.map Prod.snd = t.reported

variable {t t' : Threads δ π} {u : System δ π}

theorem Matches.rested (M : Matches t u) (completion : t.worker.completion = [])
    (called : t.worker.called = []) (returned : t.worker.returned = [])
    (result : t.worker.result = []) : Rested u := by
  refine ⟨M.dequeued.trans completion, M.callbacks.trans called, M.returning.trans returned, ?_⟩
  intro entry member
  have listed := M.prepared.mem_iff.mp (List.mem_map_of_mem member)
  rw [result, List.nil_append] at listed
  exact M.flushed _ listed

theorem Matches.find_result (M : Matches t u) (result : CaptureResult)
    (held : result ∈ t.worker.result ++ t.flushing.flatten) :
    ∃ (k : Nat) (id : Nat), u.prepared[k]? = some (id, result) := by
  obtain ⟨⟨id, r⟩, member, rfl⟩ := List.mem_map.mp (M.prepared.mem_iff.mpr held)
  obtain ⟨k, found⟩ := List.getElem?_of_mem member
  exact ⟨k, id, found⟩

theorem prepared_taken {prepared : List (Nat × CaptureResult)} {k id : Nat}
    {result : CaptureResult} {rest : List CaptureResult}
    (found : prepared[k]? = some (id, result))
    (held : (prepared.map Prod.snd).Perm (result :: rest)) :
    ((prepared.eraseIdx k).map Prod.snd).Perm rest := by
  have taken := (perm_take found).map Prod.snd
  rw [List.map_cons] at taken
  exact (List.perm_cons result).mp (taken.symm.trans held)

theorem Matches.find_task (M : Matches t u) {id : Nat} {request : CaptureRequest}
    {rest : List (Nat × CaptureRequest)} (next : t.waiting = (id, request) :: rest) :
    ∃ k, u.tasks[k]? = some (id, request) ∧ rest.Sublist (u.tasks.eraseIdx k) := by
  have listed := M.tasks
  rw [next] at listed
  obtain ⟨k, found⟩ := List.getElem?_of_mem (listed.mem List.mem_cons_self)
  obtain ⟨inside, at_k⟩ := List.getElem?_eq_some_iff.mp found
  have distinct : u.tasks.Nodup := by
    refine M.ordered.imp ?_
    rintro task later lower rfl
    exact Nat.lt_irrefl _ lower
  have left := listed.erase (id, request)
  rw [List.erase_cons_head, ← at_k, distinct.erase_getElem] at left
  exact ⟨k, found, left⟩

end Relation

section Simulation

variable (D : DriverAdapter δ) (processors : List (Option (OutputProcessor π)))
  (callbacks : Callbacks) {t t' : Threads δ π} {u : System δ π}

private def Followed (u : System δ π) (t' : Threads δ π) : Prop :=
  ∃ u', Reaches (SessionSystem.step D processors callbacks) InTurn u u' ∧ Matches t' u'

private theorem Matches.follow {u' : System δ π} (M : Matches t' u') (b : SessionSystem.Label)
    (ok : InTurn u b) (taken : SessionSystem.step D processors callbacks u b = some u') :
    Followed D processors callbacks u t' :=
  matched ok taken M

private theorem Matches.stay (M : Matches t' u) : Followed D processors callbacks u t' := unmoved M

private theorem waiting_snoc (t : Threads δ π) (task : SessionTask) :
    ({ t with queue := t.queue ++ [task] } : Threads δ π).waiting =
      t.waiting ++ task.submission.toList := by
  simp only [Threads.waiting, List.filterMap_append, List.append_assoc]
  cases task <;> rfl

private theorem post_followed (M : Matches t u) {k : Nat} {taken : Bool}
    (moved : postStep k taken t = some t') : Followed D processors callbacks u t' := by
  simp only [postStep] at moved
  split at moved
  · cases moved
  rename_i request found
  have found' : u.admitting[k]? = some request := by rw [M.admitting, found]
  have admitting : u.admitting.eraseIdx k = t.admitting.eraseIdx k := by rw [M.admitting]
  have posted : SessionSystem.step D processors callbacks u (.post k taken) =
      SessionSystem.postStep k taken u := rfl
  simp only [SessionSystem.postStep, found'] at posted
  cases taken with
  | false =>
    cases moved
    refine Matches.follow D processors callbacks ?_ (.post k false) trivial posted
    exact { M with admitting := admitting }
  | true =>
    cases moved
    refine Matches.follow D processors callbacks ?_ (.post k true) trivial posted
    have length : u.accepted.length = t.accepted.length := by rw [M.accepted]
    have waiting := waiting_snoc t (.submitCaptureRequest t.accepted.length request)
    simp only [SessionTask.submission, Option.toList_some] at waiting
    refine { M with
      admitting := admitting
      accepted := by simp only [M.accepted]
      tasks := ?_
      ordered := ?_
      below := ?_
      known := ?_
      after := ?_ }
    · simp only [length]
      exact waiting ▸ M.tasks.append (List.Sublist.refl _)
    · refine List.pairwise_append.mpr ⟨M.ordered, List.pairwise_singleton _ _, ?_⟩
      intro task member last here
      rw [List.mem_singleton.mp here]
      exact M.below task member
    · intro task member
      simp only [List.length_append, List.length_singleton]
      rcases List.mem_append.mp member with before | here
      · exact Nat.lt_succ_of_lt (M.below task before)
      · rw [List.mem_singleton.mp here]
        exact Nat.lt_succ_self _
    · intro n handled
      simp only [List.length_append, List.length_singleton]
      exact Nat.lt_succ_of_lt (M.known n handled)
    · intro n handled task member
      have split : task ∈ t.waiting ++ [(t.accepted.length, request)] := by
        rw [← waiting]
        exact member
      rcases List.mem_append.mp split with before | here
      · exact M.after n handled task before
      · rw [List.mem_singleton.mp here]
        exact M.known n handled

private theorem postReady_matches (M : Matches t u) (readyFd : Int) (actionable : Bool) :
    Matches { t with queue := t.queue ++ [.onDriverFdReady readyFd actionable] } u := by
  have waiting := waiting_snoc t (.onDriverFdReady readyFd actionable)
  simp only [SessionTask.submission, Option.toList_none, List.append_nil] at waiting
  exact { M with tasks := waiting ▸ M.tasks, after := waiting ▸ M.after }

private theorem pop_matches (M : Matches t u) (moved : popStep t = some t') : Matches t' u := by
  simp only [popStep] at moved
  split at moved
  case h_2 => cases moved
  rename_i task rest at_worker at_queue
  cases moved
  have waiting : ({ t with queue := rest, worker := task.begin } : Threads δ π).waiting =
      t.waiting := by
    simp only [Threads.waiting, at_worker, at_queue]
    cases task with
    | submitCaptureRequest id request => rfl
    | onDriverFdReady readyFd actionable => cases actionable <;> rfl
  obtain ⟨dequeued, called, returned, result⟩ : task.begin.completion = t.worker.completion ∧
      task.begin.called = t.worker.called ∧ task.begin.returned = t.worker.returned ∧
      task.begin.result = t.worker.result := by
    rw [at_worker]
    cases task with
    | submitCaptureRequest id request => exact ⟨rfl, rfl, rfl, rfl⟩
    | onDriverFdReady readyFd actionable => cases actionable <;> exact ⟨rfl, rfl, rfl, rfl⟩
  exact { M with
    tasks := waiting ▸ M.tasks
    after := waiting ▸ M.after
    dequeued := M.dequeued.trans dequeued.symm
    callbacks := M.callbacks.trans called.symm
    returning := M.returning.trans returned.symm
    prepared := by
      simp only [result]
      exact M.prepared }

private theorem restart_matches (M : Matches t u) (at_worker : t.worker = .idle) :
    Matches { t with queue := [] } u := by
  have waiting : ({ t with queue := [] } : Threads δ π).waiting = [] := by
    simp only [Threads.waiting, at_worker]
    rfl
  refine { M with tasks := ?_, after := ?_ }
  · rw [waiting]
    exact List.nil_sublist _
  · rw [waiting]
    intro n _ task member
    cases member

private theorem submit_followed (M : Matches t u) {now : Int}
    (moved : submitStep D now t = some t') : Followed D processors callbacks u t' := by
  simp only [submitStep] at moved
  split at moved
  case h_2 => cases moved
  rename_i id request at_worker
  have next : t.waiting = (id, request) :: t.queue.filterMap SessionTask.submission := by
    rw [Threads.waiting, at_worker]
    rfl
  obtain ⟨k, found, left⟩ := M.find_task next
  have rested : Rested u := M.rested (by rw [at_worker]; rfl) (by rw [at_worker]; rfl)
    (by rw [at_worker]; rfl) (by rw [at_worker]; rfl)
  have prepared : (u.prepared.map Prod.snd).Perm t.flushing.flatten := by
    simpa only [at_worker, Worker.result, List.nil_append] using M.prepared
  have turn : InTurn u (.runTask k now) := by
    refine ⟨rested, ?_⟩
    intro task same entry member
    obtain rfl := Option.some.inj (found.symm.trans same)
    refine M.after entry.1 ?_ _ (next ▸ List.mem_cons_self)
    rw [← M.handled]
    exact List.mem_map_of_mem member
  have later : ∀ n ∈ t.handled ++ [id],
      ∀ task ∈ t.queue.filterMap SessionTask.submission, n < task.1 := by
    intro n handled task member
    rcases List.mem_append.mp handled with before | here
    · exact M.after n before task (next ▸ List.mem_cons_of_mem _ member)
    · rw [List.mem_singleton.mp here]
      have chain := M.ordered.sublist (next ▸ M.tasks)
      exact (List.pairwise_cons.mp chain).1 task member
  have known : ∀ n ∈ t.handled ++ [id], n < t.accepted.length := by
    intro n handled
    rcases List.mem_append.mp handled with before | here
    · exact M.known n before
    · rw [List.mem_singleton.mp here, ← M.accepted]
      exact M.below _ (List.mem_of_getElem? found)
  have ran : SessionSystem.step D processors callbacks u (.runTask k now) =
      SessionSystem.runTaskStep D k now u := rfl
  simp only [SessionSystem.runTaskStep, found, M.session] at ran
  split at moved
  · rename_i result session answer
    rw [answer] at ran
    cases moved
    refine Matches.follow D processors callbacks ?_ _ turn ran
    exact { M with
      session := rfl
      handled := by simp [M.handled]
      tasks := left
      ordered := M.ordered.sublist (List.eraseIdx_sublist _ _)
      below := fun task member => M.below task (List.mem_of_mem_eraseIdx member)
      known := known
      after := later
      dequeued := rested.1
      callbacks := rested.2.1
      returning := rested.2.2.1
      prepared := by
        simp only [List.map_append, List.map_cons, List.map_nil, Worker.result]
        exact (List.perm_append_singleton _ _).trans (prepared.cons result) }
  · rename_i session answer
    rw [answer] at ran
    cases moved
    refine Matches.follow D processors callbacks ?_ _ turn ran
    exact { M with
      session := rfl
      handled := by simp [M.handled]
      tasks := left
      ordered := M.ordered.sublist (List.eraseIdx_sublist _ _)
      below := fun task member => M.below task (List.mem_of_mem_eraseIdx member)
      known := known
      after := later
      dequeued := rested.1
      callbacks := rested.2.1
      returning := rested.2.2.1
      prepared := prepared }

private theorem Matches.resume (M : Matches t u) (worker : Worker)
    (before : t.worker.submission = []) (after : worker.submission = []) :
    ({ t with worker := worker } : Threads δ π).waiting.Sublist u.tasks ∧
      ∀ n ∈ t.handled, ∀ task ∈ ({ t with worker := worker } : Threads δ π).waiting,
        n < task.1 := by
  have same : ({ t with worker := worker } : Threads δ π).waiting = t.waiting := by
    simp only [Threads.waiting, before, after]
  rw [same]
  exact ⟨M.tasks, M.after⟩

private theorem poll_followed (M : Matches t u) (moved : pollStep D t = some t') :
    Followed D processors callbacks u t' := by
  simp only [pollStep] at moved
  split at moved
  case h_2 => cases moved
  rename_i readyFd at_worker
  have rested : Rested u := M.rested (by rw [at_worker]; rfl) (by rw [at_worker]; rfl)
    (by rw [at_worker]; rfl) (by rw [at_worker]; rfl)
  have prepared : (u.prepared.map Prod.snd).Perm t.flushing.flatten := by
    simpa only [at_worker, Worker.result, List.nil_append] using M.prepared
  have polled : SessionSystem.step D processors callbacks u (.dequeue readyFd) =
      some (SessionSystem.dequeueStep D readyFd u) := rfl
  simp only [SessionSystem.dequeueStep, M.session, rested.1, List.nil_append] at polled
  split at moved
  · rename_i completion session answer
    cases moved
    obtain ⟨tasks, after⟩ := M.resume (.completing readyFd completion)
      (by rw [at_worker]; rfl) rfl
    refine Matches.follow D processors callbacks ?_ (.dequeue readyFd) rested polled
    exact { M with
      session := by simp only [answer]
      tasks := tasks
      after := after
      dequeued := by simp only [answer, Option.toList_some, Worker.completion]
      callbacks := rested.2.1
      returning := rested.2.2.1
      prepared := prepared }
  · rename_i session answer
    cases moved
    obtain ⟨tasks, after⟩ := M.resume .idle (by rw [at_worker]; rfl) rfl
    refine Matches.follow D processors callbacks ?_ (.dequeue readyFd) rested polled
    exact { M with
      session := by simp only [answer]
      tasks := tasks
      after := after
      dequeued := by simp only [answer, Option.toList_none, Worker.completion]
      callbacks := rested.2.1
      returning := rested.2.2.1
      prepared := prepared }

private theorem complete_followed (M : Matches t u) {now : Int}
    (moved : completeStep processors now t = some t') : Followed D processors callbacks u t' := by
  simp only [completeStep] at moved
  split at moved
  case h_2 => cases moved
  rename_i readyFd completion at_worker
  have dequeued : u.dequeued = [completion] := by rw [M.dequeued, at_worker, Worker.completion]
  have called : u.callbacks = [] := by
    rw [M.callbacks, at_worker]
    rfl
  have returned : u.returning = [] := by
    rw [M.returning, at_worker]
    rfl
  have prepared : (u.prepared.map Prod.snd).Perm t.flushing.flatten := by
    simpa only [at_worker, Worker.result, List.nil_append] using M.prepared
  obtain ⟨⟨filled, p, session⟩, filling⟩ : ∃ out, tryFillResultFromCompletion processors completion
      now t.processorState t.session = out := ⟨_, rfl⟩
  simp only [filling] at moved
  have processed : SessionSystem.step D processors callbacks u (.process 0 now) =
      SessionSystem.processStep processors 0 now u := rfl
  simp only [SessionSystem.processStep, dequeued, List.getElem?_cons_zero, M.session,
    M.processorState, filling] at processed
  have erased : u.dequeued.eraseIdx 0 = [] := by rw [dequeued]; rfl
  cases filled with
  | nothing =>
    cases moved
    obtain ⟨tasks, after⟩ := M.resume (.polling readyFd) (by rw [at_worker]; rfl) rfl
    refine Matches.follow D processors callbacks ?_ (.process 0 now) trivial processed
    exact { M with
      session := rfl
      processorState := rfl
      tasks := tasks
      after := after
      dequeued := erased
      callbacks := called
      returning := returned
      prepared := prepared }
  | capture result =>
    cases moved
    obtain ⟨tasks, after⟩ := M.resume (.reporting result (some readyFd))
      (by rw [at_worker]; rfl) rfl
    refine Matches.follow D processors callbacks ?_ (.process 0 now) trivial processed
    exact { M with
      session := rfl
      processorState := rfl
      tasks := tasks
      after := after
      dequeued := erased
      callbacks := called
      returning := returned
      prepared := by
        simp only [SessionSystem.afterCompletion, List.map_append, List.map_cons, List.map_nil,
          Worker.result]
        exact (List.perm_append_singleton _ _).trans (prepared.cons result) }
  | preview result lease output =>
    cases moved
    obtain ⟨tasks, after⟩ := M.resume
      (.calling readyFd { result := result, lease := lease, output := output })
      (by rw [at_worker]; rfl) rfl
    refine Matches.follow D processors callbacks ?_ (.process 0 now) trivial processed
    exact { M with
      session := rfl
      processorState := rfl
      tasks := tasks
      after := after
      dequeued := erased
      callbacks := by
        simp only [SessionSystem.afterCompletion, called, List.nil_append, Worker.called]
      returning := returned
      prepared := prepared }

private theorem call_followed (M : Matches t u) {lease : StreamBufferLease}
    (moved : callStep callbacks lease t = some t') : Followed D processors callbacks u t' := by
  simp only [callStep] at moved
  split at moved
  case h_2 => cases moved
  rename_i readyFd handler at_worker
  cases moved
  have called : u.callbacks = [handler] := by rw [M.callbacks, at_worker, Worker.called]
  have returned : u.returning = [] := by
    rw [M.returning, at_worker]
    rfl
  have step_u : SessionSystem.step D processors callbacks u (.streamCallback 0 lease) =
      SessionSystem.streamCallbackStep callbacks 0 lease u := rfl
  simp only [SessionSystem.streamCallbackStep, called, List.getElem?_cons_zero, returned,
    List.nil_append] at step_u
  obtain ⟨tasks, after⟩ := M.resume (.returning readyFd
    (if callbacks.stream then { handler with lease := lease } else handler))
    (by rw [at_worker]; rfl) rfl
  refine Matches.follow D processors callbacks ?_ (.streamCallback 0 lease) trivial step_u
  exact { M with
    tasks := tasks
    after := after
    dequeued := by rw [M.dequeued, at_worker]; rfl
    callbacks := rfl
    returning := rfl
    prepared := by simpa only [at_worker, Worker.result] using M.prepared
    reported := by
      simp only [apply_ite (List.map Prod.snd), List.map_append, List.map_cons, List.map_nil,
        M.reported] }

private theorem giveBack_followed (M : Matches t u) (moved : giveBackStep D t = some t') :
    Followed D processors callbacks u t' := by
  simp only [giveBackStep] at moved
  split at moved
  case h_2 => cases moved
  rename_i readyFd handler at_worker
  cases moved
  have returned : u.returning = [handler] := by rw [M.returning, at_worker, Worker.returned]
  have step_u : SessionSystem.step D processors callbacks u (.returnStream 0) =
      SessionSystem.returnStep D 0 u := rfl
  simp only [SessionSystem.returnStep, returned, List.getElem?_cons_zero, M.session] at step_u
  obtain ⟨tasks, after⟩ := M.resume (.polling readyFd) (by rw [at_worker]; rfl) rfl
  refine Matches.follow D processors callbacks ?_ (.returnStream 0) trivial step_u
  exact { M with
    session := rfl
    tasks := tasks
    after := after
    dequeued := by rw [M.dequeued, at_worker]; rfl
    callbacks := by rw [M.callbacks, at_worker]; rfl
    returning := rfl
    prepared := by simpa only [at_worker, Worker.result] using M.prepared }

private theorem resumed_bare (resume : Option Int) :
    (Worker.resumed resume).submission = [] ∧ (Worker.resumed resume).completion = [] ∧
      (Worker.resumed resume).called = [] ∧ (Worker.resumed resume).returned = [] ∧
      (Worker.resumed resume).result = [] := by
  cases resume <;> exact ⟨rfl, rfl, rfl, rfl, rfl⟩

private theorem report_followed (M : Matches t u) (moved : reportStep callbacks t = some t') :
    Followed D processors callbacks u t' := by
  simp only [reportStep] at moved
  split at moved
  case h_2 => cases moved
  rename_i result resume at_worker
  have held : (u.prepared.map Prod.snd).Perm (result :: t.flushing.flatten) := by
    simpa only [at_worker, Worker.result, List.singleton_append] using M.prepared
  obtain ⟨k, id, found⟩ := M.find_result result (by
    rw [at_worker]
    exact List.mem_cons_self)
  have left := prepared_taken found held
  have step_u : SessionSystem.step D processors callbacks u (.dispatch k) =
      SessionSystem.dispatchStep callbacks k u := rfl
  simp only [SessionSystem.dispatchStep, found] at step_u
  cases moved
  obtain ⟨submission, completion, called, returned, none_left⟩ := resumed_bare resume
  obtain ⟨tasks, after⟩ := M.resume (.resumed resume) (by rw [at_worker]; rfl) submission
  refine Matches.follow D processors callbacks ?_ (.dispatch k) trivial step_u
  exact { M with
    tasks := tasks
    after := after
    dequeued := by
      rw [M.dequeued, at_worker]
      exact completion.symm
    callbacks := by
      rw [M.callbacks, at_worker]
      exact called.symm
    returning := by
      rw [M.returning, at_worker]
      exact returned.symm
    prepared := by
      simp only [none_left, List.nil_append]
      exact left
    reported := by
      simp only [apply_ite (List.map Prod.snd), List.map_append, List.map_cons, List.map_nil,
        M.reported, resultCallback] }

theorem flatten_set_perm {α : Type} {l : List (List α)} {k : Nat} {x : α} {rest : List α}
    (found : l[k]? = some (x :: rest)) : l.flatten.Perm (x :: (l.set k rest).flatten) := by
  induction l generalizing k with
  | nil => cases found
  | cons first others ih =>
    cases k with
    | zero =>
      obtain rfl := Option.some.inj found
      exact List.Perm.refl _
    | succ k =>
      simp only [List.set_cons_succ, List.flatten_cons]
      exact ((ih found).append_left first).trans List.perm_middle

private theorem reportFlushed_followed (M : Matches t u) {k : Nat}
    (moved : reportFlushedStep callbacks k t = some t') : Followed D processors callbacks u t' := by
  simp only [reportFlushedStep] at moved
  split at moved
  case h_2 => cases moved
  rename_i result rest found
  cases moved
  have split := flatten_set_perm found
  have held : (u.prepared.map Prod.snd).Perm
      (result :: (t.worker.result ++ (t.flushing.set k rest).flatten)) :=
    M.prepared.trans ((split.append_left _).trans List.perm_middle)
  obtain ⟨j, id, at_result⟩ := M.find_result result
    (List.mem_append_right _ (split.mem_iff.mpr List.mem_cons_self))
  have step_u : SessionSystem.step D processors callbacks u (.dispatch j) =
      SessionSystem.dispatchStep callbacks j u := rfl
  simp only [SessionSystem.dispatchStep, at_result] at step_u
  refine Matches.follow D processors callbacks ?_ (.dispatch j) trivial step_u
  exact { M with
    prepared := prepared_taken at_result held
    flushed := fun r member => M.flushed r (split.mem_iff.mpr (List.mem_cons_of_mem _ member))
    reported := by
      simp only [apply_ite (List.map Prod.snd), List.map_append, List.map_cons, List.map_nil,
        M.reported, resultCallback] }

private theorem results_matches (M : Matches t u) (flushed : List CaptureResult × Session δ)
    (status : ∀ result ∈ flushed.1, result.status = .flushed) :
    Matches (withResults t flushed) (SessionSystem.withResults u flushed) := by
  refine { M with session := rfl, prepared := ?_, flushed := ?_ }
  · simp only [SessionSystem.withResults, withResults, List.map_append, List.map_map,
      Function.comp_def, List.map_id', List.flatten_append, List.flatten_cons, List.flatten_nil,
      List.append_nil]
    rw [← List.append_assoc]
    exact M.prepared.append_right _
  · intro result member
    simp only [withResults, List.flatten_append, List.flatten_cons, List.flatten_nil,
      List.append_nil, List.mem_append] at member
    exact member.elim (M.flushed result) (status result)

theorem flush_status {D : DriverAdapter δ} {now : Int} {s : Session δ} :
    ∀ result ∈ (flush D now s).1, result.status = .flushed := by
  intro result member
  by_cases active : s.state = .streaming ∨ s.state = .configured
  · rw [flush_active D now active] at member
    exact flushResults_status member
  · rw [flush_inactive D now active] at member
    cases member

theorem close_status {D : DriverAdapter δ} {now : Int} {s : Session δ} :
    ∀ result ∈ (close D now s).1, result.status = .flushed := by
  intro result member
  by_cases stopped : s.state = .stopped
  · rw [close_stopped D now stopped] at member
    cases member
  · rw [close_open D now stopped] at member
    exact flushResults_status member

/-- Every step of the threads is one step of the system in turn, or none of its business. -/
theorem threads_simulate :
    Simulates (step D processors callbacks) always (SessionSystem.step D processors callbacks)
      InTurn Matches := by
  intro t a t' u M _ moved
  show Followed D processors callbacks u t'
  cases a with
  | configureStreams registered =>
    cases moved
    refine Matches.follow D processors callbacks ?_ (.configureStreams registered) trivial rfl
    exact { M with session := by simp only [M.session] }
  | startStreaming =>
    cases moved
    refine Matches.follow D processors callbacks ?_ .startStreaming trivial rfl
    exact { M with session := by simp only [SessionSystem.startStep, M.session] }
  | processRequest request =>
    simp only [step] at moved
    split at moved
    · cases moved
    rename_i accepting
    cases moved
    have admitted : SessionSystem.step D processors callbacks u (.processRequest request) =
        some { u with admitting := u.admitting ++ [request] } := by
      simp only [SessionSystem.step, M.session, accepting]
      rfl
    refine Matches.follow D processors callbacks ?_ (.processRequest request) trivial admitted
    exact { M with admitting := by simp only [M.admitting] }
  | post k taken => exact post_followed D processors callbacks M moved
  | postReady readyFd actionable taken =>
    cases taken with
    | true =>
      cases moved
      exact Matches.stay D processors callbacks (postReady_matches M readyFd actionable)
    | false =>
      cases moved
      exact Matches.stay D processors callbacks M
  | restart =>
    simp only [step] at moved
    split at moved
    case h_2 => cases moved
    rename_i at_worker
    cases moved
    exact Matches.stay D processors callbacks (restart_matches M at_worker)
  | flush now =>
    cases moved
    refine Matches.follow D processors callbacks ?_ (.flush now) trivial rfl
    rw [M.session]
    exact results_matches M _ flush_status
  | close now =>
    cases moved
    refine Matches.follow D processors callbacks ?_ (.close now) trivial rfl
    rw [M.session]
    exact results_matches M _ close_status
  | reportFlushed k => exact reportFlushed_followed D processors callbacks M moved
  | pop => exact Matches.stay D processors callbacks (pop_matches M moved)
  | submit now => exact submit_followed D processors callbacks M moved
  | poll => exact poll_followed D processors callbacks M moved
  | complete now => exact complete_followed D processors callbacks M moved
  | call lease => exact call_followed D processors callbacks M moved
  | giveBack => exact giveBack_followed D processors callbacks M moved
  | report => exact report_followed D processors callbacks M moved

theorem initial_matches (config : CameraDeviceSessionConfig) (driver : Option δ) (p : π) :
    Matches (Threads.initial config driver p) (System.initial config driver p) := by
  constructor <;>
    simp [Threads.initial, System.initial, Threads.waiting, Worker.submission, Worker.completion,
      Worker.called, Worker.returned, Worker.result]

/-- A session on its threads is a session whose requests and completions are handled one at a time
and in turn: each of its runs is, locked section by locked section, such a run of the session
system, with the same session, the same accepted requests and the same reported results. -/
theorem threads_refine_system (config : CameraDeviceSessionConfig) (driver : Option δ) (p : π)
    (t : Threads δ π)
    (run : Reaches (step D processors callbacks) always (Threads.initial config driver p) t) :
    ∃ u, Reaches (SessionSystem.step D processors callbacks) InTurn (System.initial config driver p)
      u ∧ Matches t u :=
  (threads_simulate D processors callbacks).reaches run (initial_matches config driver p)

def turnsScript : List Label :=
  [.configureStreams true, .startStreaming, .processRequest { frameNumber := 7 },
    .processRequest { frameNumber := 9 }, .post 0 true, .post 0 true, .postReady 5 true true, .pop,
    .submit 10, .pop, .submit 20, .pop, .poll, .complete 30, .report, .poll, .complete 40, .report,
    .poll]

theorem threads_refine_system_two_requests :
    ∃ t : Threads MockDriver Unit,
      Reaches (step adapter [] { result := true, stream := false }) always
        (Threads.initial {} (some {}) ()) t ∧
      t.handled = [0, 1] ∧ t.reported.map (·.frameNumber) = [7, 9] ∧
      ∃ u, Reaches (SessionSystem.step adapter [] { result := true, stream := false }) InTurn
        (System.initial {} (some {}) ()) u ∧ Matches t u := by
  obtain ⟨t, run, passed⟩ := exists_reaches_of_replay
    (step adapter [] { result := true, stream := false }) always
    (Threads.initial {} (some {}) () : Threads MockDriver Unit) turnsScript
    (fun t => t.handled == [0, 1] && t.reported.map (·.frameNumber) == [7, 9]) (by decide)
  simp only [Bool.and_eq_true, beq_iff_eq] at passed
  exact ⟨t, run, passed.1, passed.2,
    threads_refine_system adapter [] { result := true, stream := false } {} (some {}) () t run⟩

end Simulation

section Order

variable {D : DriverAdapter δ} {processors : List (Option (OutputProcessor π))}
  {callbacks : Callbacks} {t t' : Threads δ π}

/-- The executor is not restarted while requests of the session wait in its queue. -/
def KeepsWaiting (t : Threads δ π) : Label → Prop
  | .restart => t.waiting = []
  | _ => True

instance keepsWaitingDecidable (t : Threads δ π) (a : Label) : Decidable (KeepsWaiting t a) := by
  cases a <;> simp only [KeepsWaiting] <;> infer_instance

inductive Queued (t t' : Threads δ π) : Label → Prop where
  | kept {a : Label} (waiting : t'.waiting = t.waiting) (handled : t'.handled = t.handled)
    (accepted : t'.accepted = t.accepted) : Queued t t' a
  | posted {k : Nat} (request : CaptureRequest)
    (waiting : t'.waiting = t.waiting ++ [(t.accepted.length, request)])
    (handled : t'.handled = t.handled) (accepted : t'.accepted = t.accepted ++ [request]) :
    Queued t t' (.post k true)
  | submitted {now : Int} (id : Nat) (request : CaptureRequest)
    (waiting : t.waiting = (id, request) :: t'.waiting) (handled : t'.handled = t.handled ++ [id])
    (accepted : t'.accepted = t.accepted) : Queued t t' (.submit now)
  | dropped (waiting : t'.waiting = []) (handled : t'.handled = t.handled)
    (accepted : t'.accepted = t.accepted) : Queued t t' .restart

theorem step_queued {a : Label} (moved : step D processors callbacks t a = some t') :
    Queued t t' a := by
  cases a with
  | configureStreams | startStreaming | flush | close =>
    cases moved
    exact .kept rfl rfl rfl
  | processRequest request =>
    simp only [step] at moved
    split at moved <;> cases moved
    exact .kept rfl rfl rfl
  | post k taken =>
    simp only [step, postStep] at moved
    split at moved
    · cases moved
    rename_i request found
    cases taken with
    | false =>
      cases moved
      exact .kept rfl rfl rfl
    | true =>
      cases moved
      exact .posted request (waiting_snoc t (.submitCaptureRequest t.accepted.length request)) rfl
        rfl
  | postReady readyFd actionable taken =>
    simp only [step] at moved
    split at moved <;> cases moved
    · refine .kept ?_ rfl rfl
      rw [waiting_snoc]
      exact List.append_nil _
    · exact .kept rfl rfl rfl
  | restart =>
    simp only [step] at moved
    split at moved <;> cases moved
    rename_i at_worker
    refine .dropped ?_ rfl rfl
    simp only [Threads.waiting, at_worker]
    rfl
  | reportFlushed k =>
    simp only [step, reportFlushedStep] at moved
    split at moved <;> cases moved
    exact .kept rfl rfl rfl
  | pop =>
    simp only [step, popStep] at moved
    split at moved <;> cases moved
    rename_i task rest at_worker at_queue
    refine .kept ?_ rfl rfl
    simp only [Threads.waiting, at_worker, at_queue]
    cases task with
    | submitCaptureRequest id request => rfl
    | onDriverFdReady readyFd actionable => cases actionable <;> rfl
  | submit now =>
    simp only [step, submitStep] at moved
    split at moved
    case h_2 => cases moved
    rename_i id request at_worker
    split at moved <;> cases moved <;>
      exact .submitted id request (by simp only [Threads.waiting, at_worker]; rfl) rfl rfl
  | poll =>
    simp only [step, pollStep] at moved
    split at moved
    case h_2 => cases moved
    rename_i readyFd at_worker
    split at moved <;> cases moved <;>
      exact .kept (by simp only [Threads.waiting, at_worker]; rfl) rfl rfl
  | complete now =>
    simp only [step, completeStep] at moved
    split at moved <;> cases moved
    rename_i readyFd completion at_worker
    refine .kept ?_ rfl rfl
    simp only [Threads.waiting, at_worker]
    split <;> rfl
  | call lease =>
    simp only [step, callStep] at moved
    split at moved <;> cases moved
    rename_i readyFd handler at_worker
    exact .kept (by simp only [Threads.waiting, at_worker]; rfl) rfl rfl
  | giveBack =>
    simp only [step, giveBackStep] at moved
    split at moved <;> cases moved
    rename_i readyFd handler at_worker
    exact .kept (by simp only [Threads.waiting, at_worker]; rfl) rfl rfl
  | report =>
    simp only [step, reportStep] at moved
    split at moved <;> cases moved
    rename_i result resume at_worker
    refine .kept ?_ rfl rfl
    simp only [Threads.waiting, at_worker]
    cases resume <;> rfl

/-- Between two restarts a queue of bounded length moves as the FIFO which the ring refines. -/
theorem step_queue_fifo {capacity : Nat} {a : Label}
    (moved : step D processors callbacks t a = some t') (kept : a ≠ .restart)
    (room : t'.queue.length ≤ capacity) : FifoMove capacity t.queue t'.queue := by
  have pushed : ∀ task, t'.queue = t.queue ++ [task] → FifoMove capacity t.queue t'.queue := by
    intro task queue
    rw [queue, List.length_append, List.length_singleton] at room
    rw [queue]
    exact .enqueue _ task room
  have stayed : t'.queue = t.queue → FifoMove capacity t.queue t'.queue := by
    intro queue
    rw [queue]
    exact .stutter _
  cases a with
  | restart => exact (kept rfl).elim
  | configureStreams | startStreaming | flush | close =>
    cases moved
    exact .stutter _
  | post k taken =>
    simp only [step, postStep] at moved
    split at moved
    · cases moved
    · split at moved <;> cases moved
      exacts [pushed _ rfl, stayed rfl]
  | postReady readyFd actionable taken =>
    simp only [step] at moved
    split at moved <;> cases moved
    exacts [pushed _ rfl, stayed rfl]
  | pop =>
    simp only [step, popStep] at moved
    split at moved <;> cases moved
    rename_i task rest at_worker at_queue
    rw [at_queue]
    exact .dequeue task rest
  | submit now =>
    simp only [step, submitStep] at moved
    split at moved
    · split at moved <;> cases moved <;> exact stayed rfl
    · cases moved
  | poll =>
    simp only [step, pollStep] at moved
    split at moved
    · split at moved <;> cases moved <;> exact stayed rfl
    · cases moved
  | processRequest | reportFlushed | complete | call | giveBack | report =>
    simp only [step, reportFlushedStep, completeStep, callStep, giveBackStep, reportStep] at moved
    split at moved <;> cases moved
    exact stayed rfl

/-- Accepted requests are handled in the order of their acceptance, each once, and those that
have not been handled wait in that order. -/
theorem requests_handled_in_order (D : DriverAdapter δ)
    (processors : List (Option (OutputProcessor π))) (callbacks : Callbacks)
    (config : CameraDeviceSessionConfig) (driver : Option δ) (p : π) (t : Threads δ π)
    (run : Reaches (step D processors callbacks) KeepsWaiting (Threads.initial config driver p) t) :
    t.handled ++ t.waiting.map Prod.fst = List.range t.accepted.length := by
  refine run.invariant
    (fun t => t.handled ++ t.waiting.map Prod.fst = List.range t.accepted.length) ?_ rfl
  intro t a t' ih kept moved
  cases step_queued moved with
  | kept waiting handled accepted =>
    rw [waiting, handled, accepted]
    exact ih
  | posted request waiting handled accepted =>
    rw [waiting, handled, accepted, List.map_append, ← List.append_assoc, ih,
      List.length_append, List.length_singleton, List.range_succ]
    rfl
  | submitted id request waiting handled accepted =>
    rw [waiting] at ih
    rw [handled, accepted, List.append_assoc]
    exact ih
  | dropped waiting handled accepted =>
    have none_waiting : t.waiting = [] := kept
    rw [none_waiting] at ih
    rw [waiting, handled, accepted]
    exact ih

theorem requests_handled_in_order_restarted :
    ∃ t : Threads MockDriver Unit,
      Reaches (step adapter [] { result := true, stream := false }) KeepsWaiting
        (Threads.initial {} (some {}) ()) t ∧
      t.accepted.length = 2 ∧
      t.handled ++ t.waiting.map Prod.fst = List.range t.accepted.length := by
  obtain ⟨t, run, passed⟩ := exists_reaches_of_replay
    (step adapter [] { result := true, stream := false }) KeepsWaiting
    (Threads.initial {} (some {}) () : Threads MockDriver Unit)
    [.configureStreams true, .startStreaming, .processRequest { frameNumber := 7 }, .post 0 true,
      .pop, .submit 10, .restart, .processRequest { frameNumber := 9 }, .post 0 true]
    (fun t => t.accepted.length == 2) (by decide)
  exact ⟨t, run, beq_iff_eq.mp passed,
    requests_handled_in_order adapter [] { result := true, stream := false } {} (some {}) () t run⟩

end Order

end MiniCam.Hal.SessionTurns
