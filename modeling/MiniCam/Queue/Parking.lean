/- Module: MiniCam/Queue/Parking
   source: hal/bounded_task_queue.cpp
   digest: When a notification can miss the consumer between its predicate and its park. -/

import MiniCam.Queue.RingInvariant

set_option autoImplicit false
set_option relaxedAutoImplicit false

namespace MiniCam.Queue.Parking

open MiniCam.Foundation.Runs (Reaches always reaches_of_replay exists_replay)
open MiniCam.Queue.BoundedTaskQueue
open MiniCam.Queue.RingInvariant

variable {Task : Type}

/-- The consumer sleeps although its condition is true and no thread is left
between the store that made it true and its notify call. -/
def LostWakeup (s : System Task) : Prop :=
  s.consumer = .waiting ∧
    ((s.queue.hasAvailableTask = true ∧ ∀ id, s.calls id ≠ .notifyOne s.queue.head) ∨
      (s.queue.stopped = true ∧ s.queue.hasNoPendingTask = true ∧ s.stopper ≠ .notifyAll))

/-- The predicate has read the front slot as unpublished and the consumer has not
yet entered the waiting set. -/
def committed : PopState Task → Bool
  | .predicateStopped | .predicatePendingHead | .predicatePendingTail _ | .park => true
  | _ => false

/-- No notify call for the front position, and none of a stop that drained the
queue, falls between the predicate's read and the park. -/
def NotifyOutsideWindow (s : System Task) : Action Task → Prop
  | .push id _ => ∀ t, s.calls id = .notifyOne t → committed s.consumer = true →
      t ≠ s.queue.head
  | .stop => s.stopper = .notifyAll → s.consumer = .park → s.queue.head ≠ s.queue.tail
  | .call _ _ | .pop => True

structure Watched (s : System Task) : Prop where
  available : committed s.consumer = true ∨ s.consumer = .waiting →
    s.queue.hasAvailableTask = true → ∃ id, s.calls id = .notifyOne s.queue.head
  stopping : s.consumer = .park ∨ s.consumer = .waiting →
    s.queue.stopped = true → s.queue.head = s.queue.tail → s.stopper = .notifyAll

private theorem Watched.of_awake {s : System Task} (open_window : committed s.consumer = false)
    (awake : s.consumer ≠ .waiting) : Watched s := by
  constructor
  · rintro (busy | asleep)
    · rw [open_window] at busy
      cases busy
    · exact (awake asleep).elim
  · rintro (parked | asleep)
    · rw [parked] at open_window
      cases open_window
    · exact (awake asleep).elim

private theorem notified_cases (p : PopState Task) :
    (committed p.notified = false ∧ p.notified ≠ .waiting) ∨
      (committed p = true ∧ p.notified = p) := by
  cases p <;> simp [PopState.notified, committed]

private theorem Watched.not_lost {s : System Task} (W : Watched s) : ¬ LostWakeup s := by
  rintro ⟨asleep, ⟨found, nobody⟩ | ⟨flag, drained, done⟩⟩
  · obtain ⟨id, at_id⟩ := W.available (Or.inr asleep) found
    exact nobody id at_id
  · exact done (W.stopping (Or.inr asleep) flag (by simpa [Ring.hasNoPendingTask] using drained))

private theorem notifier_kept {s : System Task} {id h : Nat} {p : PushState Task}
    (other : s.calls id ≠ .notifyOne h) (pending : ∃ j, s.calls j = .notifyOne h) :
    ∃ j, Function.update s.calls id p j = .notifyOne h := by
  obtain ⟨j, at_j⟩ := pending
  have ne : j ≠ id := fun same => other (same ▸ at_j)
  exact ⟨j, by rwa [Function.update_of_ne ne]⟩

private theorem push_watched {s t : System Task} {id : Nat} {spurious : Bool} (C : Coherent s)
    (C' : Coherent t) (W : Watched s) (ok : NotifyOutsideWindow s (.push id spurious))
    (taken : pushStep s id spurious = some t) : Watched t := by
  have quiet : ∀ p, s.calls id ≠ .notifyOne s.queue.head → Watched (s.setCall id p) := by
    intro p other
    exact ⟨fun asleep found => notifier_kept other (W.available asleep found), W.stopping⟩
  simp only [pushStep] at taken
  cases at_id : s.calls id <;> simp only [at_id] at taken <;> try cases taken
  case compareExchange task tail =>
    split at taken <;> cases taken
    · refine ⟨fun asleep found => ?_, fun _ _ same => ?_⟩
      · exact notifier_kept (by simp [at_id]) (W.available asleep found)
      · rename_i success
        have claims := C.tail_claims
        have claims' := C'.tail_claims
        have le := C.head_le
        simp only [List.length_append, List.length_singleton] at same claims'
        omega
    · exact quiet _ (by simp [at_id])
  case storeTask task tail =>
    refine ⟨fun asleep found => ?_, W.stopping⟩
    exact notifier_kept (by simp [at_id]) (W.available asleep found)
  case storeSequence tail =>
    have own : position (s.calls id) = some tail := by rw [at_id]; rfl
    have inside := C.range id tail own
    have upper := C.tail_le
    have room := C.capacity_pos
    refine ⟨fun asleep found => ?_, W.stopping⟩
    by_cases front : s.queue.head = tail
    · exact ⟨id, by simp [System.setCall, front]⟩
    · have apart := slot_ne (s := s) le_rfl (by omega) inside.1 (by omega) front
      have before : s.queue.hasAvailableTask = true := by
        have read : (Function.update s.queue.sequences (s.queue.slot tail) (wrap64 (tail + 1))
            (s.queue.slot s.queue.head) == wrap64 (s.queue.head + 1)) = true := found
        rwa [Function.update_of_ne apart] at read
      exact notifier_kept (by simp [at_id]) (W.available asleep before)
  case notifyOne tail =>
    rcases notified_cases s.consumer with ⟨outside, awake⟩ | ⟨busy, same⟩
    · exact Watched.of_awake outside awake
    · have ne : tail ≠ s.queue.head := ok tail at_id busy
      simp only [same]
      exact quiet _ (by simpa [at_id] using ne)
  all_goals exact quiet _ (by simp [at_id])

private theorem pop_watched {s t : System Task} (C : Coherent s) (W : Watched s)
    (taken : popStep s = some t) : Watched t := by
  have view := C.consumer
  simp only [popStep] at taken
  cases at_consumer : s.consumer <;> simp only [at_consumer] at taken view <;> cases taken
  case predicateSequence h =>
    obtain rfl : h = s.queue.head := view
    by_cases found : s.queue.sequences (s.queue.slot s.queue.head) = wrap64 (s.queue.head + 1)
    · exact ⟨by simp [found, committed], by simp [found]⟩
    · exact ⟨by simp [found, Ring.hasAvailableTask], by simp [found]⟩
  case predicateStopped =>
    have busy : committed s.consumer = true := by rw [at_consumer]; rfl
    cases flag : s.queue.stopped
    · exact ⟨fun _ found => W.available (Or.inl busy) found, by simp [flag]⟩
    · exact ⟨fun _ found => W.available (Or.inl busy) found, by simp⟩
  case predicatePendingHead =>
    have busy : committed s.consumer = true := by rw [at_consumer]; rfl
    exact ⟨fun _ found => W.available (Or.inl busy) found, by simp⟩
  case predicatePendingTail h =>
    obtain rfl : h = s.queue.head := view
    have busy : committed s.consumer = true := by rw [at_consumer]; rfl
    by_cases same : s.queue.head = s.queue.tail
    · exact ⟨by simp [same, committed], by simp [same]⟩
    · exact ⟨fun _ found => W.available (Or.inl busy) found, fun _ _ equal => (same equal).elim⟩
  case park =>
    have busy : committed s.consumer = true := by rw [at_consumer]; rfl
    exact ⟨fun _ found => W.available (Or.inl busy) found,
      fun _ flag same => W.stopping (Or.inl at_consumer) flag same⟩
  all_goals
    apply Watched.of_awake
    all_goals
      first
      | (split <;> simp [committed])
      | simp [committed]

private theorem stop_watched {s t : System Task} (W : Watched s)
    (ok : NotifyOutsideWindow s .stop) (taken : stopStep s = some t) : Watched t := by
  rcases stopStep_cases taken with ⟨-, rfl⟩ | ⟨at_stopper, rfl⟩
  · exact ⟨W.available, fun _ _ _ => rfl⟩
  · rcases notified_cases s.consumer with ⟨outside, awake⟩ | ⟨busy, same⟩
    · exact Watched.of_awake outside awake
    · simp only [same]
      refine ⟨W.available, ?_⟩
      rintro (parked | asleep) - equal
      · exact (ok at_stopper parked equal).elim
      · have clash : s.consumer = .waiting := asleep
        rw [clash] at busy
        cases busy

private theorem step_watched {s t : System Task} {a : Action Task} (C : Coherent s)
    (C' : Coherent t) (W : Watched s) (ok : NotifyOutsideWindow s a)
    (taken : step s a = some t) : Watched t := by
  cases a with
  | call id task =>
    obtain ⟨at_id, p, rfl, -⟩ := callStep_frame taken
    exact ⟨fun asleep found => notifier_kept (by simp [at_id]) (W.available asleep found),
      W.stopping⟩
  | push id spurious => exact push_watched C C' W ok taken
  | pop => exact pop_watched C W taken
  | stop => exact stop_watched W ok taken

theorem reachable_watched {capacity : Nat} {s : System Task}
    (run : Reaches step NotifyOutsideWindow (System.initial capacity) s) (bounded : Bounded s) :
    Watched s := by
  have all : Bounded s → Coherent s ∧ Watched s := by
    refine run.invariant (fun s => Bounded s → Coherent s ∧ Watched s) ?_ ?_
    · intro s a t ih ok taken small
      have before := small.of_step taken
      obtain ⟨C, W⟩ := ih before
      have C' := step_coherent C before taken
      exact ⟨C', step_watched C C' W ok taken⟩
    · intro _
      exact ⟨initial_coherent capacity, Watched.of_awake rfl (by simp [System.initial])⟩
  exact (all bounded).2

/-- In every run below the counter modulus whose notify calls stay out of the
consumer's window, no reachable state has lost a wake-up. -/
theorem no_lost_wakeup (capacity : Nat) (s : System Task)
    (run : Reaches step NotifyOutsideWindow (System.initial capacity) s)
    (bounded : s.claimed.length < 2 ^ 64 - s.queue.capacity) : ¬ LostWakeup s := by
  have small : Bounded s := by
    simp only [Bounded, modulus64]
    omega
  exact (reachable_watched run small).not_lost

instance notifyOutsideWindowDecidable (s : System Nat) (a : Action Nat) :
    Decidable (NotifyOutsideWindow s a) :=
  match a with
  | .push id _ =>
    match at_id : s.calls id with
    | .notifyOne t =>
      decidable_of_iff (committed s.consumer = true → t ≠ s.queue.head) (by
        simp only [NotifyOutsideWindow, at_id, PushState.notifyOne.injEq]
        exact ⟨fun ok r same => same ▸ ok, fun ok => ok t rfl⟩)
    | .idle | .loadStopped _ | .loadTail _ | .loadHead _ _ | .compareExchange _ _
    | .loadSequence _ _ | .yieldLoop _ _ | .storeTask _ _ | .storeSequence _ | .returned _ =>
      .isTrue (by simp [NotifyOutsideWindow, at_id])
  | .stop => inferInstanceAs (Decidable (_ → _ → _))
  | .call _ _ => .isTrue trivial
  | .pop => .isTrue trivial

def pushScript (id task : Nat) : List (Action Nat) :=
  .call id (some task) :: List.replicate 8 (.push id false)

theorem no_lost_wakeup_after_park :
    ∃ s : System Nat, Reaches step NotifyOutsideWindow (System.initial 1) s ∧
      s.consumer = .woken ∧ s.calls 0 = .returned true ∧ ¬ LostWakeup s := by
  obtain ⟨s, played, passed⟩ := exists_replay step NotifyOutsideWindow
    (System.initial 1 : System Nat) (List.replicate 8 .pop ++ pushScript 0 5)
    (fun s => s.consumer == .woken && s.calls 0 == .returned true &&
      (s.claimed.length == 1 && s.queue.capacity == 1)) (by decide)
  simp only [Bool.and_eq_true, beq_iff_eq] at passed
  obtain ⟨⟨woken, done⟩, one, capacity⟩ := passed
  have run := reaches_of_replay played
  exact ⟨s, run, woken, done, no_lost_wakeup 1 s run (by rw [one, capacity]; decide)⟩

/-- A push that publishes and notifies after the predicate's reads and before the
park leaves the consumer asleep beside an available task. -/
theorem lost_wakeup_reachable :
    ∃ s : System Nat, Reaches step always (System.initial 1) s ∧ LostWakeup s := by
  obtain ⟨s, played, passed⟩ := exists_replay step always
    (System.initial 1 : System Nat) (List.replicate 7 .pop ++ pushScript 0 5 ++ [.pop])
    (fun s => s.consumer == .waiting && s.queue.hasAvailableTask &&
      s.calls 0 == .returned true) (by decide)
  simp only [Bool.and_eq_true, beq_iff_eq] at passed
  obtain ⟨⟨asleep, found⟩, done⟩ := passed
  refine ⟨s, reaches_of_replay played, asleep, Or.inl ⟨found, ?_⟩⟩
  intro id notifying
  by_cases first : id = 0
  · subst id
    rw [done] at notifying
    cases notifying
  · have idle : s.calls id = .idle := by
      refine replay_calls_other ?_ played
      simp [pushScript, Action.caller, Ne.symm first]
    rw [idle] at notifying
    cases notifying

end MiniCam.Queue.Parking
