/- Module: MiniCam/Queue/RingInvariant
   source: hal/bounded_task_queue.cpp
   digest: The global invariant tying counters, slot sequences and program counters. -/

import Mathlib.Data.Nat.ModEq
import Mathlib.Data.List.Basic
import MiniCam.Queue.BoundedTaskQueue

set_option autoImplicit false
set_option relaxedAutoImplicit false

namespace MiniCam.Queue.RingInvariant

open MiniCam.Foundation.Runs (Reaches)
open MiniCam.Queue.BoundedTaskQueue

variable {Task : Type}

def position : PushState Task → Option Nat
  | .loadSequence _ t | .yieldLoop _ t | .storeTask _ t | .storeSequence t => some t
  | _ => none

def carried : PushState Task → Option (Task × Nat)
  | .loadSequence task t | .yieldLoop task t | .storeTask task t => some (task, t)
  | _ => none

def popping : PopState Task → Bool
  | .takeTask _ | .clearSlot _ _ | .storeSequence _ _ | .storeHead _ _ => true
  | _ => false

def taskAt (s : System Task) (t : Nat) : Option Task := (s.claimed[t]?).map Prod.snd

def ConsumerView (s : System Task) : PopState Task → Prop
  | .loadSequence h | .pendingTail h | .predicateSequence h | .predicatePendingTail h =>
    h = s.queue.head
  | .takeTask h =>
    h = s.queue.head ∧ h < s.queue.tail ∧ (∀ id, position (s.calls id) ≠ some h) ∧
      s.queue.ring (s.queue.slot h) = taskAt s h
  | .clearSlot h task | .storeSequence h task =>
    h = s.queue.head ∧ h < s.queue.tail ∧ (∀ id, position (s.calls id) ≠ some h) ∧
      task = taskAt s h
  | .storeHead h task =>
    h = s.queue.head ∧ h < s.queue.tail ∧ (∀ id, position (s.calls id) ≠ some h) ∧
      task = taskAt s h ∧ s.queue.sequences (s.queue.slot h) = h + s.queue.capacity
  | _ => True

/-- Every position of the window `[head, head + capacity)` owns one slot. It is
free, claimed by one call, published, or being taken by the consumer, and the
slot's sequence number and content say which. -/
structure Coherent (s : System Task) : Prop where
  capacity_pos : 0 < s.queue.capacity
  tail_claims : s.queue.tail = s.claimed.length
  head_pops : s.queue.head = s.popped.length
  head_le : s.queue.head ≤ s.queue.tail
  tail_le : s.queue.tail ≤ s.queue.head + s.queue.capacity
  loaded : ∀ id task t, s.calls id = .loadHead task t → t ≤ s.queue.tail
  admitted : ∀ id task t, s.calls id = .compareExchange task t →
    t < s.queue.head + s.queue.capacity
  range : ∀ id t, position (s.calls id) = some t → s.queue.head ≤ t ∧ t < s.queue.tail
  barrier : ∀ id t, position (s.calls id) = some t → s.queue.sequences (s.queue.slot t) = t
  owns : ∀ id t, position (s.calls id) = some t → ∃ task, s.claimed[t]? = some (id, task)
  carries : ∀ id task t, carried (s.calls id) = some (task, t) → taskAt s t = some task
  stored : ∀ id t, s.calls id = .storeSequence t →
    s.queue.ring (s.queue.slot t) = taskAt s t
  published : ∀ t, s.queue.head ≤ t → t < s.queue.tail →
    (popping s.consumer = true → t ≠ s.queue.head) →
    (∃ id, position (s.calls id) = some t) ∨
      (s.queue.sequences (s.queue.slot t) = t + 1 ∧
        s.queue.ring (s.queue.slot t) = taskAt s t)
  free : ∀ t, s.queue.tail ≤ t → t < s.queue.head + s.queue.capacity →
    s.queue.sequences (s.queue.slot t) = t
  consumer : ConsumerView s s.consumer
  fifo : s.popped <+: s.claimed.map fun c => some c.2

/-- No counter reaches the modulus: the bound on the claimed positions. -/
def Bounded (s : System Task) : Prop := s.claimed.length + s.queue.capacity < modulus64

private theorem window_injective {c h a b : Nat} (ha : h ≤ a) (ha' : a < h + c)
    (hb : h ≤ b) (hb' : b < h + c) (same : a % c = b % c) : a = b := by
  have key : ∀ x y, h ≤ x → y < h + c → x ≤ y → x % c = y % c → x = y := by
    intro x y hx hy le eq
    have divides : c ∣ y - x := (Nat.modEq_iff_dvd' le).mp eq
    have zero : y - x = 0 := Nat.eq_zero_of_dvd_of_lt divides (by omega)
    omega
  rcases Nat.le_total a b with le | le
  · exact key a b ha hb' le same
  · exact (key b a hb ha' le same.symm).symm

theorem slot_injective {s : System Task} {a b : Nat}
    (ha : s.queue.head ≤ a) (ha' : a < s.queue.head + s.queue.capacity)
    (hb : s.queue.head ≤ b) (hb' : b < s.queue.head + s.queue.capacity)
    (same : s.queue.slot a = s.queue.slot b) : a = b :=
  window_injective ha ha' hb hb' same

theorem slot_ne {s : System Task} {a b : Nat}
    (ha : s.queue.head ≤ a) (ha' : a < s.queue.head + s.queue.capacity)
    (hb : s.queue.head ≤ b) (hb' : b < s.queue.head + s.queue.capacity) (ne : a ≠ b) :
    s.queue.slot a ≠ s.queue.slot b := by
  intro same
  exact ne (slot_injective ha ha' hb hb' same)

theorem Coherent.position_unique {s : System Task} (C : Coherent s) {i j t : Nat}
    (hi : position (s.calls i) = some t) (hj : position (s.calls j) = some t) : i = j := by
  obtain ⟨a, ha⟩ := C.owns i t hi
  obtain ⟨b, hb⟩ := C.owns j t hj
  rw [ha] at hb
  exact congrArg Prod.fst (Option.some.inj hb)

theorem initial_coherent (capacity : Nat) : Coherent (System.initial capacity : System Task) := by
  have pos : 0 < max capacity 1 := by omega
  constructor
  case free =>
    intro t _ ht
    simp only [System.initial, Ring.make, Ring.reset, Ring.slot, Nat.zero_add] at ht ⊢
    exact Nat.mod_eq_of_lt ht
  all_goals simp [System.initial, Ring.make, Ring.reset, position, carried, ConsumerView]

private theorem wrap64_of_lt {n : Nat} (small : n < modulus64) : wrap64 n = n :=
  Nat.mod_eq_of_lt small

private theorem lt_of_sub64_lt {tail head capacity : Nat} (tail_small : tail < modulus64)
    (pass : ¬ capacity ≤ sub64 tail head) : tail < head + capacity := by
  by_contra far
  have ge : head ≤ tail := by omega
  have value : sub64 tail head = tail - head := by
    have shape : tail + modulus64 - head = (tail - head) + modulus64 := by omega
    rw [sub64, wrap64, shape, Nat.add_mod_right]
    exact Nat.mod_eq_of_lt (by omega)
  omega

private theorem ConsumerView.transport {s s' : System Task} {p : PopState Task}
    (view : ConsumerView s p) (head_same : s'.queue.head = s.queue.head)
    (capacity_same : s'.queue.capacity = s.queue.capacity)
    (tail_grows : s.queue.tail ≤ s'.queue.tail)
    (tasks : ∀ h, h < s.queue.tail → taskAt s' h = taskAt s h)
    (unowned : ∀ h, h < s.queue.tail → (∀ j, position (s.calls j) ≠ some h) →
      ∀ j, position (s'.calls j) ≠ some h)
    (slots : ∀ h, h = s.queue.head → h < s.queue.tail →
      (∀ j, position (s.calls j) ≠ some h) →
      s'.queue.ring (s.queue.slot h) = s.queue.ring (s.queue.slot h) ∧
        s'.queue.sequences (s.queue.slot h) = s.queue.sequences (s.queue.slot h)) :
    ConsumerView s' p := by
  have slot_same : ∀ h, s'.queue.slot h = s.queue.slot h := by
    intro h
    simp only [Ring.slot, capacity_same]
  cases p <;> simp only [ConsumerView, head_same, capacity_same, slot_same] at view ⊢ <;>
    try exact view
  case takeTask h =>
    obtain ⟨at_head, lt, none_at, content⟩ := view
    exact ⟨at_head, by omega, unowned h lt none_at,
      (slots h at_head lt none_at).1.trans (content.trans (tasks h lt).symm)⟩
  case clearSlot h v =>
    obtain ⟨at_head, lt, none_at, content⟩ := view
    exact ⟨at_head, by omega, unowned h lt none_at, content.trans (tasks h lt).symm⟩
  case storeSequence h v =>
    obtain ⟨at_head, lt, none_at, content⟩ := view
    exact ⟨at_head, by omega, unowned h lt none_at, content.trans (tasks h lt).symm⟩
  case storeHead h v =>
    obtain ⟨at_head, lt, none_at, content, released⟩ := view
    exact ⟨at_head, by omega, unowned h lt none_at, content.trans (tasks h lt).symm,
      (slots h at_head lt none_at).2.trans released⟩

section Calls

variable {s : System Task} {id : Nat} {p : PushState Task}

private theorem position_setCall (keep : position p = position (s.calls id)) (j : Nat) :
    position ((s.setCall id p).calls j) = position (s.calls j) := by
  by_cases same : j = id
  · subst j
    simpa [System.setCall] using keep
  · simp [System.setCall, Function.update_of_ne same]

private theorem calls_setCall_of_ne {j : Nat} (ne : j ≠ id) :
    (s.setCall id p).calls j = s.calls j := by
  simp [System.setCall, Function.update_of_ne ne]

private theorem calls_setCall_self : (s.setCall id p).calls id = p := by
  simp [System.setCall]

private theorem of_setCall {P : PushState Task → Prop} {j : Nat}
    (holds : P ((s.setCall id p).calls j)) : j = id ∧ P p ∨ j ≠ id ∧ P (s.calls j) := by
  by_cases same : j = id
  · subst j
    exact Or.inl ⟨rfl, by rwa [calls_setCall_self] at holds⟩
  · exact Or.inr ⟨same, by rwa [calls_setCall_of_ne same] at holds⟩

private theorem setCall_coherent (C : Coherent s)
    (keep : position p = position (s.calls id))
    (load : ∀ task t, p = .loadHead task t → t ≤ s.queue.tail)
    (within : ∀ task t, p = .compareExchange task t → t < s.queue.head + s.queue.capacity)
    (carry : ∀ task t, carried p = some (task, t) → taskAt s t = some task)
    (store : ∀ t, p = .storeSequence t → s.queue.ring (s.queue.slot t) = taskAt s t) :
    Coherent (s.setCall id p) := by
  have pos := position_setCall (s := s) keep
  refine { C with
    loaded := ?_, admitted := ?_, range := ?_, barrier := ?_, owns := ?_, carries := ?_,
    stored := ?_, published := ?_, consumer := ?_ }
  · intro j task t at_j
    rcases of_setCall (P := (· = _)) at_j with ⟨-, moved⟩ | ⟨-, before⟩
    · exact load task t moved
    · exact C.loaded j task t before
  · intro j task t at_j
    rcases of_setCall (P := (· = _)) at_j with ⟨-, moved⟩ | ⟨-, before⟩
    · exact within task t moved
    · exact C.admitted j task t before
  · intro j t at_j
    exact C.range j t ((pos j).symm.trans at_j)
  · intro j t at_j
    exact C.barrier j t ((pos j).symm.trans at_j)
  · intro j t at_j
    exact C.owns j t ((pos j).symm.trans at_j)
  · intro j task t at_j
    rcases of_setCall (P := (carried · = _)) at_j with ⟨-, moved⟩ | ⟨-, before⟩
    · exact carry task t moved
    · exact C.carries j task t before
  · intro j t at_j
    rcases of_setCall (P := (· = _)) at_j with ⟨-, moved⟩ | ⟨-, before⟩
    · exact store t moved
    · exact C.stored j t before
  · intro t lower upper other
    simp only [pos]
    exact C.published t lower upper other
  · exact C.consumer.transport rfl rfl le_rfl (fun _ _ => rfl)
      (fun h _ none_at j => (pos j).symm ▸ none_at j) (fun _ _ _ _ => ⟨rfl, rfl⟩)

private theorem claim_coherent (C : Coherent s) {task : Task} {t : Nat}
    (at_id : s.calls id = .compareExchange task t) (current : s.queue.tail = t)
    (small : t + 1 < modulus64) :
    Coherent { s.setCall id (.loadSequence task t) with
      queue := { s.queue with tail := wrap64 (t + 1) }
      claimed := s.claimed ++ [(id, task)] } := by
  have room := C.admitted id task t at_id
  have count : s.claimed.length = t := by rw [← C.tail_claims, current]
  have old : position (s.calls id) = none := by rw [at_id]; rfl
  have kept : ∀ r, r < t → (s.claimed ++ [(id, task)])[r]? = s.claimed[r]? := by
    intro r hr
    exact List.getElem?_append_left (by omega)
  have new : (s.claimed ++ [(id, task)])[t]? = some (id, task) := by simp [← count]
  have before : ∀ j r, position (s.calls j) = some r → r < t := by
    intro j r at_j
    rw [← current]
    exact (C.range j r at_j).2
  have positions : ∀ j r, position ((s.setCall id (.loadSequence task t)).calls j) = some r →
      j = id ∧ r = t ∨ position (s.calls j) = some r := by
    intro j r at_j
    rcases of_setCall (P := (position · = _)) at_j with ⟨same, moved⟩ | ⟨-, old_at⟩
    · exact Or.inl ⟨same, (Option.some.inj moved).symm⟩
    · exact Or.inr old_at
  rw [wrap64_of_lt small]
  refine ⟨C.capacity_pos, ?_, C.head_pops, ?_, ?_, ?_, ?_, ?_, ?_, ?_, ?_, ?_, ?_, ?_, ?_, ?_⟩
  · simp [count]
  · have := C.head_le; simp only; omega
  · simp only; omega
  · intro j task' r at_j
    rcases of_setCall (P := (· = _)) at_j with ⟨-, moved⟩ | ⟨-, old_at⟩
    · cases moved
    · have loaded := C.loaded j task' r old_at
      simp only
      omega
  · intro j task' r at_j
    rcases of_setCall (P := (· = _)) at_j with ⟨-, moved⟩ | ⟨-, old_at⟩
    · cases moved
    · exact C.admitted j task' r old_at
  · intro j r at_j
    rcases positions j r at_j with ⟨-, rfl⟩ | old_at
    · have head_le := C.head_le
      simp only
      omega
    · have range := C.range j r old_at
      simp only
      omega
  · intro j r at_j
    rcases positions j r at_j with ⟨-, rfl⟩ | old_at
    · exact C.free r (by omega) room
    · exact C.barrier j r old_at
  · intro j r at_j
    rcases positions j r at_j with ⟨rfl, rfl⟩ | old_at
    · exact ⟨task, new⟩
    · obtain ⟨task', found⟩ := C.owns j r old_at
      exact ⟨task', (kept r (before j r old_at)).trans found⟩
  · intro j task' r at_j
    rcases of_setCall (P := (carried · = _)) at_j with ⟨-, moved⟩ | ⟨-, old_at⟩
    · cases moved
      simp [taskAt, new]
    · have found := C.carries j task' r old_at
      have lt : r < s.claimed.length := by
        by_contra ge
        simp [taskAt, List.getElem?_eq_none (Nat.le_of_not_lt ge)] at found
      simpa [taskAt, Ring.slot, kept r (by omega)] using found
  · intro j r at_j
    rcases of_setCall (P := (· = _)) at_j with ⟨-, moved⟩ | ⟨-, old_at⟩
    · cases moved
    · have lt : r < t := before j r (by rw [old_at]; rfl)
      simpa [taskAt, Ring.slot, kept r lt] using C.stored j r old_at
  · intro r lower upper free
    simp only at lower upper
    by_cases last : r = t
    · subst r
      exact Or.inl ⟨id, by simp [System.setCall, position]⟩
    · rcases C.published r lower (by omega) free with ⟨j, at_j⟩ | done
      · have ne : j ≠ id := by
          intro same
          subst j
          rw [old] at at_j
          cases at_j
        exact Or.inl ⟨j, (congrArg position (calls_setCall_of_ne ne)).trans at_j⟩
      · exact Or.inr (by simpa [taskAt, Ring.slot, kept r (by omega)] using done)
  · intro r lower upper
    simp only at lower upper
    exact C.free r (by omega) upper
  · -- The consumer only looks at positions below the old tail.
    refine C.consumer.transport rfl rfl (by simp only; omega) ?_ ?_
      (fun _ _ _ _ => ⟨rfl, rfl⟩)
    · intro h lt
      simp [taskAt, kept h (by omega)]
    · intro h lt none_at j at_j
      rcases positions j h at_j with ⟨-, rfl⟩ | old_at
      · omega
      · exact none_at j old_at
  · rw [List.map_append]
    exact C.fifo.trans (List.prefix_append _ _)

private theorem storeTask_coherent (C : Coherent s) {task : Task} {t : Nat}
    (at_id : s.calls id = .storeTask task t) :
    Coherent { s.setCall id (.storeSequence t) with
      queue := { s.queue with
        ring := Function.update s.queue.ring (s.queue.slot t) (some task) } } := by
  have own : position (s.calls id) = some t := by rw [at_id]; rfl
  have inside := C.range id t own
  have upper := C.tail_le
  have apart : ∀ r, s.queue.head ≤ r → r < s.queue.tail → r ≠ t →
      Function.update s.queue.ring (s.queue.slot t) (some task) (s.queue.slot r) =
        s.queue.ring (s.queue.slot r) := by
    intro r lower lt ne
    exact Function.update_of_ne
      (slot_ne lower (by omega) inside.1 (by omega) ne) _ _
  let filled : System Task := { s with
    queue := { s.queue with
      ring := Function.update s.queue.ring (s.queue.slot t) (some task) } }
  have ready : Coherent filled := by
    refine { C with stored := ?_, published := ?_, consumer := ?_ }
    · intro j r at_j
      have at_pos : position (s.calls j) = some r := by
        have : s.calls j = .storeSequence r := at_j
        rw [this]; rfl
      have bounds := C.range j r at_pos
      have ne : r ≠ t := by
        intro same
        subst r
        have j_id := C.position_unique at_pos own
        subst j
        have clash := at_id.symm.trans at_j
        cases clash
      exact (apart r bounds.1 bounds.2 ne).trans (C.stored j r at_j)
    · intro r lower lt other
      by_cases same : r = t
      · exact Or.inl ⟨id, same ▸ own⟩
      · rcases C.published r lower lt other with claimed | ⟨sequence, content⟩
        · exact Or.inl claimed
        · exact Or.inr ⟨sequence, (apart r lower lt same).trans content⟩
    · refine C.consumer.transport rfl rfl le_rfl (fun _ _ => rfl) (fun _ _ none_at => none_at) ?_
      intro h at_head lt none_at
      have ne : h ≠ t := fun same => none_at id (same ▸ own)
      exact ⟨apart h (by omega) lt ne, rfl⟩
  refine setCall_coherent (s := filled) ready ?_ ?_ ?_ ?_ ?_
  · exact own.symm
  · intro task' r impossible
    cases impossible
  · intro task' r impossible
    cases impossible
  · intro task' r impossible
    cases impossible
  · intro r same
    cases same
    have carry := C.carries id task t (by rw [at_id]; rfl)
    change Function.update s.queue.ring (s.queue.slot t) (some task) (s.queue.slot t) = _
    rw [Function.update_self]
    exact carry.symm

private theorem publish_coherent (C : Coherent s) {t : Nat}
    (at_id : s.calls id = .storeSequence t) (small : t + 1 < modulus64) :
    Coherent { s.setCall id (.notifyOne t) with
      queue := { s.queue with
        sequences :=
          Function.update s.queue.sequences (s.queue.slot t) (wrap64 (t + 1)) } } := by
  have own : position (s.calls id) = some t := by rw [at_id]; rfl
  have inside := C.range id t own
  have upper := C.tail_le
  rw [wrap64_of_lt small]
  have apart : ∀ r, s.queue.head ≤ r → r < s.queue.head + s.queue.capacity → r ≠ t →
      Function.update s.queue.sequences (s.queue.slot t) (t + 1) (s.queue.slot r) =
        s.queue.sequences (s.queue.slot r) := by
    intro r lower lt ne
    exact Function.update_of_ne (slot_ne lower lt inside.1 (by omega) ne) _ _
  have survives : ∀ j r, position ((s.setCall id (.notifyOne t)).calls j) = some r →
      position (s.calls j) = some r ∧ r ≠ t := by
    intro j r at_j
    rcases of_setCall (P := (position · = _)) at_j with ⟨-, moved⟩ | ⟨other, old_at⟩
    · cases moved
    · refine ⟨old_at, ?_⟩
      intro equal
      subst r
      exact other (C.position_unique old_at own)
  refine { C with
    loaded := ?_, admitted := ?_, range := ?_, barrier := ?_, owns := ?_, carries := ?_,
    stored := ?_, published := ?_, free := ?_, consumer := ?_ }
  · intro j task r at_j
    rcases of_setCall (P := (· = _)) at_j with ⟨-, moved⟩ | ⟨-, old_at⟩
    · cases moved
    · exact C.loaded j task r old_at
  · intro j task r at_j
    rcases of_setCall (P := (· = _)) at_j with ⟨-, moved⟩ | ⟨-, old_at⟩
    · cases moved
    · exact C.admitted j task r old_at
  · intro j r at_j
    exact C.range j r (survives j r at_j).1
  · intro j r at_j
    obtain ⟨at_old, ne⟩ := survives j r at_j
    have bounds := C.range j r at_old
    exact (apart r bounds.1 (by omega) ne).trans (C.barrier j r at_old)
  · intro j r at_j
    exact C.owns j r (survives j r at_j).1
  · intro j task r at_j
    rcases of_setCall (P := (carried · = _)) at_j with ⟨-, moved⟩ | ⟨-, old_at⟩
    · cases moved
    · exact C.carries j task r old_at
  · intro j r at_j
    rcases of_setCall (P := (· = _)) at_j with ⟨-, moved⟩ | ⟨-, old_at⟩
    · cases moved
    · exact C.stored j r old_at
  · intro r lower lt other
    by_cases same : r = t
    · subst r
      refine Or.inr ⟨?_, C.stored id t at_id⟩
      exact Function.update_self _ _ _
    · rcases C.published r lower lt other with ⟨j, at_j⟩ | ⟨sequence, content⟩
      · have ne : j ≠ id := by
          intro equal
          subst j
          rw [own] at at_j
          exact same (Option.some.inj at_j).symm
        exact Or.inl ⟨j, (congrArg position (calls_setCall_of_ne ne)).trans at_j⟩
      · have lt' : r < s.queue.tail := lt
        exact Or.inr ⟨(apart r lower (by omega) same).trans sequence, content⟩
  · intro r lower lt
    have lower' : s.queue.tail ≤ r := lower
    exact (apart r (by omega) lt (by omega)).trans (C.free r lower lt)
  · refine C.consumer.transport rfl rfl le_rfl (fun _ _ => rfl) ?_ ?_
    · intro h _ none_at j at_j
      exact none_at j (survives j h at_j).1
    · intro h at_head lt none_at
      have ne : h ≠ t := fun same => none_at id (same ▸ own)
      exact ⟨rfl, apart h (by omega) (by omega) ne⟩

end Calls

section Consumer

variable {s : System Task}

private theorem setConsumer_coherent (C : Coherent s) {p : PopState Task}
    (within : popping s.consumer = true → popping p = true) (view : ConsumerView s p) :
    Coherent { s with consumer := p } := by
  refine { C with published := ?_, consumer := ?_ }
  · intro t lower lt other
    exact C.published t lower lt (fun was => other (within was))
  · exact view.transport rfl rfl le_rfl (fun _ _ => rfl) (fun _ _ none_at => none_at)
      (fun _ _ _ _ => ⟨rfl, rfl⟩)

private theorem notified_coherent (C : Coherent s) :
    Coherent { s with consumer := s.consumer.notified } := by
  cases at_consumer : s.consumer with
  | waiting => exact setConsumer_coherent C (by simp [at_consumer, popping]) trivial
  | _ =>
    rw [PopState.notified, ← at_consumer]
    · exact C
    · simp

private theorem clearSlot_coherent (C : Coherent s) {h : Nat} {task : Option Task}
    (at_consumer : s.consumer = .clearSlot h task) :
    Coherent { s with
      consumer := .storeSequence h task
      queue := { s.queue with ring := Function.update s.queue.ring (s.queue.slot h) none } } := by
  have view := C.consumer
  rw [at_consumer] at view
  obtain ⟨at_head, lt, none_at, content⟩ := view
  have upper := C.tail_le
  have apart : ∀ r, s.queue.head ≤ r → r < s.queue.tail → r ≠ h →
      Function.update s.queue.ring (s.queue.slot h) none (s.queue.slot r) =
        s.queue.ring (s.queue.slot r) := by
    intro r lower below ne
    exact Function.update_of_ne
      (slot_ne lower (by omega) (by omega) (by omega) ne) _ _
  refine { C with stored := ?_, published := ?_, consumer := ?_ }
  · intro j r at_j
    have at_pos : position (s.calls j) = some r := by
      have : s.calls j = .storeSequence r := at_j
      rw [this]; rfl
    have bounds := C.range j r at_pos
    have ne : r ≠ h := fun same => none_at j (same ▸ at_pos)
    exact (apart r bounds.1 bounds.2 ne).trans (C.stored j r at_j)
  · intro r lower below other
    have ne : r ≠ h := at_head ▸ other rfl
    rcases C.published r lower below (fun _ => other rfl) with claimed | ⟨sequence, found⟩
    · exact Or.inl claimed
    · exact Or.inr ⟨sequence, (apart r lower below ne).trans found⟩
  · exact ⟨at_head, lt, none_at, content⟩

private theorem storeSequence_coherent (C : Coherent s) {h : Nat} {task : Option Task}
    (at_consumer : s.consumer = .storeSequence h task)
    (small : h + s.queue.capacity < modulus64) :
    Coherent { s with
      consumer := .storeHead h task
      queue := { s.queue with
        sequences :=
          Function.update s.queue.sequences (s.queue.slot h)
            (wrap64 (h + s.queue.capacity)) } } := by
  have view := C.consumer
  rw [at_consumer] at view
  obtain ⟨at_head, lt, none_at, content⟩ := view
  have upper := C.tail_le
  rw [wrap64_of_lt small]
  have apart : ∀ r, s.queue.head ≤ r → r < s.queue.head + s.queue.capacity → r ≠ h →
      Function.update s.queue.sequences (s.queue.slot h) (h + s.queue.capacity)
        (s.queue.slot r) = s.queue.sequences (s.queue.slot r) := by
    intro r lower below ne
    exact Function.update_of_ne (slot_ne lower below (by omega) (by omega) ne) _ _
  refine { C with barrier := ?_, published := ?_, free := ?_, consumer := ?_ }
  · intro j r at_j
    have bounds := C.range j r at_j
    have ne : r ≠ h := fun same => none_at j (same ▸ at_j)
    exact (apart r bounds.1 (by omega) ne).trans (C.barrier j r at_j)
  · intro r lower below other
    have ne : r ≠ h := at_head ▸ other rfl
    have below' : r < s.queue.tail := below
    rcases C.published r lower below (fun _ => other rfl) with claimed | ⟨sequence, found⟩
    · exact Or.inl claimed
    · exact Or.inr ⟨(apart r lower (by omega) ne).trans sequence, found⟩
  · intro r lower below
    have lower' : s.queue.tail ≤ r := lower
    exact (apart r (by omega) below (by omega)).trans (C.free r lower below)
  · exact ⟨at_head, lt, none_at, content, Function.update_self _ _ _⟩

private theorem storeHead_coherent (C : Coherent s) {h : Nat} {task : Option Task}
    (at_consumer : s.consumer = .storeHead h task) (small : h + 1 < modulus64) :
    Coherent { s with
      consumer := .returned task
      queue := { s.queue with head := wrap64 (h + 1) }
      popped := s.popped ++ [task] } := by
  have view := C.consumer
  rw [at_consumer] at view
  obtain ⟨at_head, lt, none_at, content, released⟩ := view
  have upper := C.tail_le
  have room := C.capacity_pos
  have count : s.popped.length = h := by rw [← C.head_pops, at_head]
  have claims := C.tail_claims
  rw [wrap64_of_lt small]
  refine { C with
    head_pops := ?_, head_le := ?_, tail_le := ?_, admitted := ?_, range := ?_,
    published := ?_, free := ?_, consumer := trivial, fifo := ?_ }
  · simp [count]
  · simp only; omega
  · simp only; omega
  · intro j t r at_j
    have := C.admitted j t r at_j
    simp only
    omega
  · intro j r at_j
    have bounds := C.range j r at_j
    have ne : r ≠ h := fun same => none_at j (same ▸ at_j)
    simp only
    omega
  · intro r lower below _
    simp only at lower below
    exact C.published r (by omega) below (fun _ => by omega)
  · intro r lower below
    simp only at lower below
    by_cases last : r = h + s.queue.capacity
    · have wraps : s.queue.slot r = s.queue.slot h := by
        simp [Ring.slot, last]
      change s.queue.sequences (s.queue.slot r) = r
      rw [wraps, released, last]
    · exact C.free r lower (by omega)
  · obtain ⟨rest, split⟩ := C.fifo
    have bound : h < (s.claimed.map fun c => some c.2).length := by
      rw [List.length_map]; omega
    have next : (s.claimed.map fun c => some c.2)[h]? = some task := by
      rw [content, taskAt, List.getElem?_map]
      cases at_h : s.claimed[h]? with
      | none => simp at at_h; omega
      | some c => rfl
    rw [← split] at next
    rw [List.getElem?_append_right (by omega), count, Nat.sub_self] at next
    cases rest with
    | nil => simp at next
    | cons v rest =>
      simp only [List.getElem?_cons_zero, Option.some.injEq] at next
      subst v
      exact ⟨rest, by rw [← split]; simp⟩

end Consumer

theorem Coherent.head_published {s : System Task} (C : Coherent s)
    (found : s.queue.sequences (s.queue.slot s.queue.head) = s.queue.head + 1) :
    s.queue.head < s.queue.tail ∧ (∀ id, position (s.calls id) ≠ some s.queue.head) ∧
      (popping s.consumer = false →
        s.queue.ring (s.queue.slot s.queue.head) = taskAt s s.queue.head) := by
  have unowned : ∀ id, position (s.calls id) ≠ some s.queue.head := by
    intro id own
    have := C.barrier id _ own
    omega
  have lt : s.queue.head < s.queue.tail := by
    by_contra ge
    have room := C.capacity_pos
    have := C.free s.queue.head (by omega) (by omega)
    omega
  refine ⟨lt, unowned, ?_⟩
  intro outside
  rcases C.published s.queue.head le_rfl lt (by simp [outside]) with ⟨id, own⟩ | ⟨_, content⟩
  · exact (unowned id own).elim
  · exact content

theorem step_claims {s t : System Task} {a : Action Task} (taken : step s a = some t) :
    s.claimed <+: t.claimed ∧ t.queue.capacity = s.queue.capacity := by
  cases a with
  | call id task =>
    obtain ⟨-, p, rfl, -⟩ := callStep_frame taken
    exact ⟨List.prefix_refl _, rfl⟩
  | push id spurious =>
    obtain ⟨-, -, same, -⟩ := pushStep_frame taken
    refine ⟨?_, same⟩
    rcases pushStep_claims taken with ⟨kept, -⟩ | ⟨task, -, grown, -⟩
    · exact kept ▸ List.prefix_refl _
    · rw [grown]
      exact List.prefix_append _ _
  | pop =>
    obtain ⟨-, -, same, -, -, kept⟩ := popStep_frame taken
    exact ⟨kept ▸ List.prefix_refl _, same⟩
  | stop =>
    rcases stopStep_cases taken with ⟨-, rfl⟩ | ⟨-, rfl⟩ <;> exact ⟨List.prefix_refl _, rfl⟩

theorem Bounded.of_step {s t : System Task} {a : Action Task} (taken : step s a = some t)
    (bounded : Bounded t) : Bounded s := by
  obtain ⟨pre, same⟩ := step_claims taken
  have := pre.length_le
  simp only [Bounded, same] at bounded ⊢
  omega

private theorem push_coherent {s t : System Task} {id : Nat} {spurious : Bool}
    (C : Coherent s) (bounded : Bounded s) (taken : pushStep s id spurious = some t) :
    Coherent t := by
  have claims := C.tail_claims
  have room := C.capacity_pos
  simp only [Bounded] at bounded
  simp only [pushStep] at taken
  cases at_id : s.calls id <;> simp only [at_id] at taken <;> try cases taken
  case loadStopped task =>
    apply setCall_coherent C <;> split <;> simp [at_id, position, carried]
  case loadTail task =>
    apply setCall_coherent C <;> simp [at_id, position, carried]
  case loadHead task tail =>
    have le := C.loaded id task tail at_id
    split
    · apply setCall_coherent C <;> simp [at_id, position, carried]
    · rename_i pass
      have inside := lt_of_sub64_lt (by omega) pass
      apply setCall_coherent C <;> simp [at_id, position, carried]
      omega
  case compareExchange task tail =>
    split at taken <;> cases taken
    · rename_i success
      exact claim_coherent C at_id success.1 (by omega)
    · apply setCall_coherent C <;> simp [at_id, position, carried]
  case loadSequence task tail =>
    have carry := C.carries id task tail (by rw [at_id]; rfl)
    split <;> apply setCall_coherent C <;> simp [at_id, position, carried, carry]
  case yieldLoop task tail =>
    have carry := C.carries id task tail (by rw [at_id]; rfl)
    apply setCall_coherent C <;> simp [at_id, position, carried, carry]
  case storeTask task tail => exact storeTask_coherent C at_id
  case storeSequence tail =>
    have inside := C.range id tail (by rw [at_id]; rfl)
    exact publish_coherent C at_id (by omega)
  case notifyOne tail =>
    have quiet : Coherent (s.setCall id (.returned true)) := by
      apply setCall_coherent C <;> simp [at_id, position, carried]
    exact notified_coherent quiet

private theorem pop_coherent {s t : System Task} (C : Coherent s) (bounded : Bounded s)
    (taken : popStep s = some t) : Coherent t := by
  have claims := C.tail_claims
  have room := C.capacity_pos
  have head_le := C.head_le
  have view := C.consumer
  simp only [Bounded] at bounded
  simp only [popStep] at taken
  cases at_consumer : s.consumer <;> simp only [at_consumer] at taken view <;> try cases taken
  case loadSequence h =>
    obtain rfl : h = s.queue.head := view
    rw [wrap64_of_lt (by omega)]
    split
    · rename_i found
      obtain ⟨lt, unowned, content⟩ := C.head_published found
      exact setConsumer_coherent C (fun _ => rfl)
        ⟨rfl, lt, unowned, content (by rw [at_consumer]; rfl)⟩
    · exact setConsumer_coherent C (by simp [at_consumer, popping]) trivial
  case takeTask h =>
    obtain ⟨at_head, lt, unowned, content⟩ := view
    exact setConsumer_coherent C (fun _ => rfl) ⟨at_head, lt, unowned, content⟩
  case clearSlot h task => exact clearSlot_coherent C at_consumer
  case storeSequence h task =>
    obtain ⟨at_head, lt, -, -⟩ := view
    exact storeSequence_coherent C at_consumer (by omega)
  case storeHead h task =>
    obtain ⟨at_head, lt, -, -, -⟩ := view
    exact storeHead_coherent C at_consumer (by omega)
  all_goals
    refine setConsumer_coherent C (by simp [at_consumer, popping]) ?_
    first
    | trivial
    | (split <;> trivial)

private theorem stop_coherent {s t : System Task} (C : Coherent s)
    (taken : stopStep s = some t) : Coherent t := by
  rcases stopStep_cases taken with ⟨-, rfl⟩ | ⟨-, rfl⟩
  · refine { C with published := C.published, consumer := ?_ }
    exact C.consumer.transport rfl rfl le_rfl (fun _ _ => rfl) (fun _ _ none_at => none_at)
      (fun _ _ _ _ => ⟨rfl, rfl⟩)
  · exact notified_coherent (s := { s with stopper := .returned }) { C with
      published := C.published
      consumer := C.consumer.transport rfl rfl le_rfl (fun _ _ => rfl)
        (fun _ _ none_at => none_at) (fun _ _ _ _ => ⟨rfl, rfl⟩) }

theorem step_coherent {s t : System Task} {a : Action Task} (C : Coherent s)
    (bounded : Bounded s) (taken : step s a = some t) : Coherent t := by
  cases a with
  | call id task =>
    obtain ⟨at_id, p, rfl, rfl | ⟨v, rfl⟩⟩ := callStep_frame taken <;>
      apply setCall_coherent C <;> simp [at_id, position, carried]
  | push id spurious => exact push_coherent C bounded taken
  | pop => exact pop_coherent C bounded taken
  | stop => exact stop_coherent C taken

/-- Every state of a run that stays below the modulus is coherent. -/
theorem reachable_coherent {capacity : Nat} {s : System Task}
    {permitted : System Task → Action Task → Prop}
    (run : Reaches step permitted (System.initial capacity) s) (bounded : Bounded s) :
    Coherent s := by
  have all : Bounded s → Coherent s := by
    refine run.invariant (fun s => Bounded s → Coherent s) ?_ ?_
    · intro s a t ih _ taken small
      have before := small.of_step taken
      exact step_coherent (ih before) before taken
    · intro _
      exact initial_coherent capacity
  exact all bounded

end MiniCam.Queue.RingInvariant
