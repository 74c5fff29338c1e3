/- Module: MiniCam/Queue/Shutdown
   source: hal/bounded_task_queue.cpp, hal/task_executor.cpp
   digest: Which accepted tasks survive the exit of the worker. -/

import MiniCam.Queue.FifoRefinement

set_option autoImplicit false
set_option relaxedAutoImplicit false

namespace MiniCam.Queue.Shutdown

open MiniCam.Foundation.Runs (Reaches always exists_reaches_of_replay)
open MiniCam.Queue.BoundedTaskQueue
open MiniCam.Queue.RingInvariant
open MiniCam.Queue.FifoRefinement (FifoGuarantee fifoGuarantee_of_coherent reachable_no_yield
  reachable_stopSeen)

variable {Task : Type}

/-- The task claimed by a push call has been returned by `wait_pop`. -/
def HandedOut (s : System Task) (id : Nat) : Prop :=
  ∃ (k : Nat) (task : Task), s.claimed[k]? = some (id, task) ∧ s.popped[k]? = some (some task)

/-- No compare-exchange succeeds once the worker has left `wait_pop`. -/
def NoLateClaim (s : System Task) : Action Task → Prop
  | .push id spurious => ∀ task, s.calls id = .compareExchange task s.queue.tail →
      spurious = false → s.consumer ≠ .exited
  | .call _ _ | .pop | .stop => True

def accepted : PushState Task → Bool
  | .loadSequence _ _ | .yieldLoop _ _ | .storeTask _ _ | .storeSequence _ | .notifyOne _
  | .returned true => true
  | _ => false

def ClaimsRecorded (s : System Task) : Prop :=
  ∀ id, accepted (s.calls id) = true → ∃ task, (id, task) ∈ s.claimed

def Drained (s : System Task) : Prop :=
  s.consumer = .exited → s.popped = s.claimed.map fun c => some c.2

def pending : PushState Task → Option Task
  | .loadStopped task | .loadTail task | .loadHead task _ | .compareExchange task _ => some task
  | _ => none

theorem pushStep_progress {s t : System Task} {id : Nat} {spurious : Bool}
    (taken : pushStep s id spurious = some t) :
    (accepted (s.calls id) = false ∧ accepted (t.calls id) = false ∧ t.claimed = s.claimed ∧
      t.queue = s.queue ∧ t.consumer = s.consumer) ∨
    (∃ task, pending (s.calls id) = some task ∧ accepted (t.calls id) = true ∧
      t.claimed = s.claimed ++ [(id, task)]) ∨
    (accepted (s.calls id) = true ∧ accepted (t.calls id) = true ∧ t.claimed = s.claimed) := by
  simp only [pushStep] at taken
  cases at_id : s.calls id <;> simp only [at_id] at taken <;> try cases taken
  case loadStopped task =>
    refine Or.inl ⟨rfl, ?_, rfl, rfl, rfl⟩
    simp only [System.setCall, Function.update_self]
    split <;> rfl
  case loadTail task => exact Or.inl ⟨rfl, by simp [System.setCall, accepted], rfl, rfl, rfl⟩
  case loadHead task tail =>
    refine Or.inl ⟨rfl, ?_, rfl, rfl, rfl⟩
    simp only [System.setCall, Function.update_self]
    split <;> rfl
  case compareExchange task tail =>
    split at taken <;> cases taken
    · exact Or.inr (Or.inl ⟨task, rfl, by simp [System.setCall, accepted], rfl⟩)
    · exact Or.inl ⟨rfl, by simp [System.setCall, accepted], rfl, rfl, rfl⟩
  case loadSequence task tail =>
    refine Or.inr (Or.inr ⟨rfl, ?_, rfl⟩)
    simp only [System.setCall, Function.update_self]
    split <;> rfl
  all_goals exact Or.inr (Or.inr ⟨rfl, by simp [System.setCall, accepted], rfl⟩)

theorem pushStep_pending {s t : System Task} {id : Nat} {spurious : Bool} {task : Task}
    (taken : pushStep s id spurious = some t) (waits : pending (t.calls id) = some task) :
    pending (s.calls id) = some task := by
  simp only [pushStep] at taken
  cases at_id : s.calls id <;> simp only [at_id] at taken <;> try cases taken
  case compareExchange task' tail =>
    split at taken <;> cases taken <;>
      simp only [System.setCall, Function.update_self, pending] at waits
    · cases waits
    · exact waits
  all_goals
    simp only [System.setCall, Function.update_self] at waits
    first
    | exact waits
    | (split at waits <;> simp only [pending] at waits <;> first | exact waits | cases waits)

private theorem step_recorded {s t : System Task} {a : Action Task} (R : ClaimsRecorded s)
    (taken : step s a = some t) : ClaimsRecorded t := by
  have kept : ∀ j, accepted (s.calls j) = true → ∃ task, (j, task) ∈ t.claimed := by
    intro j before
    obtain ⟨task, found⟩ := R j before
    exact ⟨task, (step_claims taken).1.subset found⟩
  intro j done
  by_cases own : a.caller = some j
  · cases a with
    | call id task =>
      obtain ⟨-, p, rfl, shape⟩ := callStep_frame taken
      obtain rfl : id = j := by simpa [Action.caller] using own
      rcases shape with rfl | ⟨v, rfl⟩ <;> simp [System.setCall, accepted] at done
    | push id spurious =>
      obtain rfl : id = j := by simpa [Action.caller] using own
      rcases pushStep_progress taken with ⟨-, refused, -⟩ | ⟨task, -, -, grown⟩ | ⟨before, -⟩
      · rw [refused] at done
        cases done
      · exact ⟨task, by simp [grown]⟩
      · exact kept id before
    | pop => simp [Action.caller] at own
    | stop => simp [Action.caller] at own
  · rw [step_calls_other taken own] at done
    exact kept j done

private theorem exited_step {s t : System Task} {a : Action Task} (exited : s.consumer = .exited)
    (ok : NoLateClaim s a) (taken : step s a = some t) :
    t.consumer = .exited ∧ t.claimed = s.claimed ∧ t.popped = s.popped := by
  cases a with
  | call id task =>
    obtain ⟨-, p, rfl, -⟩ := callStep_frame taken
    exact ⟨exited, rfl, rfl⟩
  | push id spurious =>
    obtain ⟨-, -, -, -, pops, -, consumer⟩ := pushStep_frame taken
    refine ⟨?_, ?_, pops⟩
    · rcases consumer with same | moved
      · rw [same, exited]
      · rw [moved, exited]; rfl
    · simp only [step, pushStep] at taken
      cases at_id : s.calls id <;> simp only [at_id] at taken <;> try cases taken
      case compareExchange task tail =>
        split at taken <;> cases taken
        · rename_i success
          obtain ⟨rfl, calm⟩ := success
          exact (ok task at_id calm exited).elim
        · rfl
      all_goals rfl
  | pop =>
    simp only [step, popStep, exited] at taken
    cases taken
  | stop =>
    rcases stopStep_cases taken with ⟨-, rfl⟩ | ⟨-, rfl⟩
    · exact ⟨exited, rfl, rfl⟩
    · exact ⟨by simp [exited, PopState.notified], rfl, rfl⟩

private theorem exited_before {s t : System Task} {a : Action Task} (taken : step s a = some t)
    (exited : t.consumer = .exited) : s.consumer = .exited ∨ step s .pop = some t := by
  have unmoved : ∀ p : PopState Task, p.notified = .exited → p = .exited := by
    intro p
    cases p <;> simp [PopState.notified]
  cases a with
  | call id task =>
    obtain ⟨-, p, rfl, -⟩ := callStep_frame taken
    exact Or.inl exited
  | push id spurious =>
    obtain ⟨-, -, -, -, -, -, same | moved⟩ := pushStep_frame taken
    · exact Or.inl (same ▸ exited)
    · exact Or.inl (unmoved _ (moved ▸ exited))
  | pop => exact Or.inr taken
  | stop =>
    rcases stopStep_cases taken with ⟨-, rfl⟩ | ⟨-, rfl⟩
    · exact Or.inl exited
    · exact Or.inl (unmoved _ exited)

private theorem step_drained {s t : System Task} {a : Action Task} (F : FifoGuarantee s)
    (D : Drained s) (ok : NoLateClaim s a) (taken : step s a = some t) : Drained t := by
  intro exited
  rcases exited_before taken exited with before | popped
  · obtain ⟨-, claims, pops⟩ := exited_step before ok taken
    rw [claims, pops]
    exact D before
  · obtain ⟨-, -, pops⟩ := F.exit t popped exited
    obtain ⟨-, -, -, -, -, claims⟩ := popStep_frame popped
    rw [pops, claims]

theorem reachable_drained {capacity : Nat} {s : System Task}
    (run : Reaches step NoLateClaim (System.initial capacity) s) (bounded : Bounded s) :
    Drained s := by
  induction run with
  | refl =>
    intro exited
    simp [System.initial] at exited
  | tail run next ih =>
    obtain ⟨a, ok, taken⟩ := next
    have small := bounded.of_step taken
    have F := fifoGuarantee_of_coherent (reachable_coherent run small)
      (reachable_no_yield run small) (reachable_stopSeen run)
    exact step_drained F (ih small) ok taken

/-- In every run below the counter modulus in which no compare-exchange succeeds
after the worker has left `wait_pop`, every push that has returned true by then,
or returns true later, had its task handed out before the worker left. -/
theorem accepted_task_handed_out (capacity : Nat) (s t : System Task)
    (run : Reaches step NoLateClaim (System.initial capacity) s) (exited : s.consumer = .exited)
    (later : Reaches step NoLateClaim s t)
    (bounded : t.claimed.length < 2 ^ 64 - t.queue.capacity) (id : Nat)
    (returned : t.calls id = .returned true) : HandedOut s id := by
  have frozen : t.consumer = .exited ∧ t.claimed = s.claimed ∧ t.popped = s.popped := by
    refine later.invariant
      (fun r => r.consumer = .exited ∧ r.claimed = s.claimed ∧ r.popped = s.popped) ?_
      ⟨exited, rfl, rfl⟩
    intro r a r' ⟨gone, claims, pops⟩ ok taken
    obtain ⟨gone', claims', pops'⟩ := exited_step gone ok taken
    exact ⟨gone', claims'.trans claims, pops'.trans pops⟩
  obtain ⟨gone, claims, pops⟩ := frozen
  have whole := run.trans later
  have drained : t.popped = t.claimed.map fun c => some c.2 := by
    refine reachable_drained whole ?_ gone
    simp only [Bounded, modulus64]
    omega
  have recorded : ClaimsRecorded t :=
    whole.invariant ClaimsRecorded (fun _ _ _ R _ taken => step_recorded R taken)
      (fun j started => by simp [System.initial, accepted] at started)
  obtain ⟨task, found⟩ := recorded id (by rw [returned]; rfl)
  obtain ⟨k, at_k⟩ := List.getElem?_of_mem found
  refine ⟨k, task, claims ▸ at_k, ?_⟩
  rw [← pops, drained, List.getElem?_map, at_k]
  rfl

instance noLateClaimDecidable [DecidableEq Task] (s : System Task) (a : Action Task) :
    Decidable (NoLateClaim s a) :=
  match a with
  | .push id spurious =>
    match at_id : s.calls id with
    | .compareExchange task tail =>
      decidable_of_iff (tail = s.queue.tail → spurious = false → s.consumer ≠ .exited) (by
        simp only [NoLateClaim, at_id, PushState.compareExchange.injEq]
        exact ⟨fun ok _ same => ok same.2, fun ok same => ok task ⟨rfl, same⟩⟩)
    | .idle | .loadStopped _ | .loadTail _ | .loadHead _ _ | .loadSequence _ _
    | .yieldLoop _ _ | .storeTask _ _ | .storeSequence _ | .notifyOne _ | .returned _ =>
      .isTrue (by simp [NoLateClaim, at_id])
  | .call _ _ => .isTrue trivial
  | .pop => .isTrue trivial
  | .stop => .isTrue trivial

theorem accepted_task_handed_out_on_drain :
    ∃ s : System Nat, Reaches step NoLateClaim (System.initial 1) s ∧ s.consumer = .exited ∧
      s.calls 0 = .returned true ∧ HandedOut s 0 := by
  obtain ⟨s, run, passed⟩ := exists_reaches_of_replay step NoLateClaim
    (System.initial 1 : System Nat)
    (List.flatten [[.call 0 (some 5)], List.replicate 8 (.push 0 false), [.stop],
      List.replicate 12 .pop])
    (fun s => s.consumer == .exited && s.calls 0 == .returned true &&
      (s.claimed.length == 1 && s.queue.capacity == 1)) (by decide +kernel)
  simp only [Bool.and_eq_true, beq_iff_eq] at passed
  obtain ⟨⟨exited, returned⟩, one, capacity⟩ := passed
  refine ⟨s, run, exited, returned, ?_⟩
  exact accepted_task_handed_out 1 s s run exited (Reaches.refl s)
    (by rw [one, capacity]; decide) 0 returned

/-- A push that read `stopped_` as false claims its slot after the worker has
exited, returns true, and its task stays in the ring. -/
theorem accepted_task_dropped :
    ∃ s : System Nat, Reaches step always (System.initial 1) s ∧ s.consumer = .exited ∧
      s.calls 0 = .returned true ∧ ¬ HandedOut s 0 := by
  obtain ⟨s, run, passed⟩ := exists_reaches_of_replay step always
    (System.initial 1 : System Nat)
    (List.flatten [[.call 0 (some 5)], List.replicate 3 (.push 0 false), [.stop],
      List.replicate 5 .pop, List.replicate 5 (.push 0 false)])
    (fun s => s.consumer == .exited && s.calls 0 == .returned true && s.popped == [])
    (by decide +kernel)
  simp only [Bool.and_eq_true, beq_iff_eq] at passed
  obtain ⟨⟨exited, returned⟩, empty⟩ := passed
  refine ⟨s, run, exited, returned, ?_⟩
  rintro ⟨k, task, -, out⟩
  simp [empty] at out

end MiniCam.Queue.Shutdown
