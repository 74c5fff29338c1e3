/- Module: MiniCam/V4L2/KernelHistory
   source: hal/v4l2_driver_adapter.cpp
   digest: The history of ioctls explains what every node holds. -/

import Mathlib.Data.List.Nodup
import Mathlib.Data.List.Perm.Basic
import MiniCam.V4L2.VideoNodes

set_option autoImplicit false
set_option relaxedAutoImplicit false

namespace MiniCam.V4L2.KernelHistory

open MiniCam.Hal.Interface (DriverToken)
open MiniCam.V4L2.VideoNodes

section History

def touches (node index : Nat) : Event → Bool
  | .qbuf n i _ _ | .dqbuf n i => n == node && i == index
  | .streamOff n | .release n => n == node

/-- The QBUF at position `p` is the last event on the buffer's index. -/
structure Held (log : List Event) (node : Nat) (b : QueuedBuffer) (p : Nat) : Prop where
  queued : log[p]? = some (.qbuf node b.index b.fd b.token)
  since : ∀ q e, p < q → log[q]? = some e → touches node b.index e = false

/-- The DQBUF at position `q` takes out what the QBUF at position `p` queued. -/
structure Matched (log : List Event) (node : Nat) (b : QueuedBuffer) (p q : Nat) : Prop where
  queued : log[p]? = some (.qbuf node b.index b.fd b.token)
  dequeued : log[q]? = some (.dqbuf node b.index)
  order : p < q
  between : ∀ r e, p < r → r < q → log[r]? = some e → touches node b.index e = false

variable {log log' : List Event} {node : Nat} {b : QueuedBuffer} {p q : Nat}

private theorem getElem?_of_prefix {α : Type} {l l' : List α} {i : Nat} {x : α}
    (grows : l <+: l') (found : l[i]? = some x) : l'[i]? = some x := by
  obtain ⟨more, rfl⟩ := grows
  exact (List.getElem?_append_left (List.getElem?_eq_some_iff.mp found).1).trans found

theorem Matched.mono (M : Matched log node b p q) (grows : log <+: log') :
    Matched log' node b p q where
  queued := getElem?_of_prefix grows M.queued
  dequeued := getElem?_of_prefix grows M.dequeued
  order := M.order
  between := by
    intro r e lower upper found
    have inside : r < log.length :=
      Nat.lt_trans upper (List.getElem?_eq_some_iff.mp M.dequeued).1
    obtain ⟨more, rfl⟩ := grows
    rw [List.getElem?_append_left inside] at found
    exact M.between r e lower upper found

theorem Matched.queueing_unique {node' : Nat} {b' : QueuedBuffer} {p' : Nat}
    (M : Matched log node b p q) (M' : Matched log node' b' p' q) : p = p' := by
  have same := M.dequeued.symm.trans M'.dequeued
  simp only [Option.some.injEq, Event.dqbuf.injEq] at same
  obtain ⟨rfl, index⟩ := same
  rcases Nat.lt_trichotomy p p' with lt | eq | lt
  · have quiet := M.between p' _ lt M'.order M'.queued
    simp [touches, index] at quiet
  · exact eq
  · have quiet := M'.between p _ lt M.order M.queued
    simp [touches, index] at quiet

private theorem Held.append (H : Held log node b p) {e : Event}
    (other : touches node b.index e = false) : Held (log ++ [e]) node b p where
  queued := getElem?_of_prefix (List.prefix_append _ _) H.queued
  since := by
    intro q e' lower found
    rcases Nat.lt_or_ge q log.length with inside | beyond
    · rw [List.getElem?_append_left inside] at found
      exact H.since q e' lower found
    · rw [List.getElem?_append_right beyond] at found
      obtain ⟨bound, same⟩ := List.getElem?_eq_some_iff.mp found
      simp only [List.length_singleton] at bound
      obtain rfl : e = e' := by simpa [show q - log.length = 0 by omega] using same
      exact other

private theorem held_last (log : List Event) (node : Nat) (b : QueuedBuffer) :
    Held (log ++ [.qbuf node b.index b.fd b.token]) node b log.length where
  queued := by simp
  since := by
    intro q e lower found
    have bound := (List.getElem?_eq_some_iff.mp found).1
    simp only [List.length_append, List.length_singleton] at bound
    omega

private theorem Held.matched (H : Held log node b p) :
    Matched (log ++ [.dqbuf node b.index]) node b p log.length where
  queued := getElem?_of_prefix (List.prefix_append _ _) H.queued
  dequeued := by simp
  order := (List.getElem?_eq_some_iff.mp H.queued).1
  between := by
    intro r e lower upper found
    rw [List.getElem?_append_left upper] at found
    exact H.since r e lower found

end History

section Kernels

structure Recorded (k : Kernel) (bound : Nat) : Prop where
  indices : ∀ node, ((k.queues node).map (·.index)).Nodup
  held : ∀ node b, b ∈ k.queues node → ∃ p, Held k.history node b p
  below : ∀ (p n i : Nat) (fd : Int) (τ : Nat),
    k.history[p]? = some (Event.qbuf n i fd τ) → τ < bound
  unique : ∀ (p p' n n' i i' : Nat) (fd fd' : Int) (τ : Nat),
    k.history[p]? = some (Event.qbuf n i fd τ) →
      k.history[p']? = some (Event.qbuf n' i' fd' τ) → p = p'

variable {k k' : Kernel} {bound : Nat}

theorem Recorded.mono (R : Recorded k bound) {bound' : Nat} (le : bound ≤ bound') :
    Recorded k bound' :=
  { R with below := fun p n i fd τ found => Nat.lt_of_lt_of_le (R.below p n i fd τ found) le }

theorem Recorded.token_unique (R : Recorded k bound) {node : Nat} {b b' : QueuedBuffer}
    (member : b ∈ k.queues node) (member' : b' ∈ k.queues node) (same : b.token = b'.token) :
    b = b' := by
  obtain ⟨p, H⟩ := R.held node b member
  obtain ⟨p', H'⟩ := R.held node b' member'
  obtain rfl := R.unique p p' _ _ _ _ _ _ _ H.queued (same ▸ H'.queued)
  have event := H.queued.symm.trans H'.queued
  simp only [Option.some.injEq, Event.qbuf.injEq, true_and] at event
  obtain ⟨index, fd, token⟩ := event
  exact QueuedBuffer.ext index fd token

theorem Recorded.token_below (R : Recorded k bound) {node : Nat} {b : QueuedBuffer}
    (member : b ∈ k.queues node) : b.token < bound := by
  obtain ⟨p, H⟩ := R.held node b member
  exact R.below p _ _ _ _ H.queued

theorem Recorded.congr (R : Recorded k bound) (queues : k'.queues = k.queues)
    (history : k'.history = k.history) : Recorded k' bound := by
  obtain ⟨indices, held, below, unique⟩ := R
  constructor <;> simp only [queues, history] <;> assumption

private theorem qbuf_events {e : Event} {n i : Nat} {fd : Int} {τ : DriverToken}
    (other : ∀ n i fd τ, e ≠ .qbuf n i fd τ) {p : Nat} {log : List Event}
    (found : (log ++ [e])[p]? = some (.qbuf n i fd τ)) : log[p]? = some (.qbuf n i fd τ) := by
  rcases Nat.lt_or_ge p log.length with inside | beyond
  · rwa [List.getElem?_append_left inside] at found
  · rw [List.getElem?_append_right beyond] at found
    obtain ⟨small, same⟩ := List.getElem?_eq_some_iff.mp found
    simp only [List.length_singleton] at small
    exact (other n i fd τ (by simpa [show p - log.length = 0 by omega] using same)).elim

private theorem Recorded.shrink (R : Recorded k bound) {node : Nat} {queue : List QueuedBuffer}
    {e : Event} (other : ∀ n i fd τ, e ≠ .qbuf n i fd τ) (sub : queue.Sublist (k.queues node))
    (quiet : ∀ n b, b ∈ Function.update k.queues node queue n → touches n b.index e = false) :
    Recorded { k with
      queues := Function.update k.queues node queue
      history := k.history ++ [e] } bound where
  indices := by
    intro n
    by_cases same : n = node
    · subst n
      simp only [Function.update_self]
      exact (sub.map _).nodup (R.indices node)
    · simp only [Function.update_of_ne same]
      exact R.indices n
  held := by
    intro n b member
    have before : b ∈ k.queues n := by
      by_cases same : n = node
      · subst n
        simp only [Function.update_self] at member
        exact sub.subset member
      · simpa only [Function.update_of_ne same] using member
    obtain ⟨p, H⟩ := R.held n b before
    exact ⟨p, H.append (quiet n b member)⟩
  below := fun p n i fd τ found => R.below p n i fd τ (qbuf_events other found)
  unique := fun p p' n n' i i' fd fd' τ found found' =>
    R.unique p p' n n' i i' fd fd' τ (qbuf_events other found) (qbuf_events other found')

theorem qbuf_queues {node index : Nat} {fd : Int} {τ : DriverToken} {answer : Option String}
    (done : k.qbuf node index fd τ answer = (none, k')) {b : QueuedBuffer} :
    b ∈ k'.queues node ↔ b ∈ k.queues node ∨ b = { index := index, fd := fd, token := τ } := by
  simp only [Kernel.qbuf] at done
  split at done
  · cases done
  split at done <;> cases done
  simp only [Function.update_self, List.mem_append, List.mem_singleton]

theorem qbuf_recorded (R : Recorded k bound) {node index : Nat} {fd : Int} {τ : Nat}
    {answer : Option String} (fresh : bound ≤ τ)
    (done : k.qbuf node index fd τ answer = (none, k')) :
    Recorded k' (τ + 1) ∧
      k'.queues = Function.update k.queues node
        (k.queues node ++ [{ index := index, fd := fd, token := τ }]) ∧
      k'.history = k.history ++ [.qbuf node index fd τ] ∧ k'.answers = k.answers := by
  simp only [Kernel.qbuf] at done
  split at done
  · cases done
  split at done
  · cases done
  rename_i unused
  cases done
  refine ⟨?_, rfl, rfl, rfl⟩
  have absent : ∀ b ∈ k.queues node, b.index ≠ index := by
    simpa using unused
  have split_event : ∀ (p n i : Nat) (fd' : Int) (τ' : Nat),
      (k.history ++ [Event.qbuf node index fd τ])[p]? = some (.qbuf n i fd' τ') →
        k.history[p]? = some (.qbuf n i fd' τ') ∨ (p = k.history.length ∧ τ' = τ) := by
    intro p n i fd' τ' found
    rcases Nat.lt_or_ge p k.history.length with inside | beyond
    · rw [List.getElem?_append_left inside] at found
      exact Or.inl found
    · rw [List.getElem?_append_right beyond] at found
      obtain ⟨small, same⟩ := List.getElem?_eq_some_iff.mp found
      simp only [List.length_singleton] at small
      have here : p = k.history.length := by omega
      subst p
      simp only [Nat.sub_self, List.getElem_cons_zero, Event.qbuf.injEq] at same
      exact Or.inr ⟨rfl, same.2.2.2.symm⟩
  constructor
  · intro n
    by_cases same : n = node
    · subst n
      simp only [Function.update_self, List.map_append, List.map_cons, List.map_nil]
      refine List.nodup_append.mpr ⟨R.indices node, by simp, ?_⟩
      intro i member j last
      obtain ⟨b, inside, rfl⟩ := List.mem_map.mp member
      obtain rfl := List.mem_singleton.mp last
      exact absent b inside
    · simp only [Function.update_of_ne same]
      exact R.indices n
  · intro n b member
    by_cases same : n = node
    · subst n
      simp only [Function.update_self, List.mem_append, List.mem_singleton] at member
      rcases member with old | rfl
      · obtain ⟨p, H⟩ := R.held node b old
        refine ⟨p, H.append ?_⟩
        simp [touches, Ne.symm (absent b old)]
      · exact ⟨k.history.length, held_last k.history node { index := index, fd := fd, token := τ }⟩
    · simp only [Function.update_of_ne same] at member
      obtain ⟨p, H⟩ := R.held n b member
      refine ⟨p, H.append ?_⟩
      simp [touches, Ne.symm same]
  · intro p n i fd' τ' found
    rcases split_event p n i fd' τ' found with before | ⟨-, rfl⟩
    · have := R.below p n i fd' τ' before
      omega
    · omega
  · intro p p' n n' i i' fd₁ fd₂ τ' found found'
    rcases split_event p n i fd₁ τ' found with before | ⟨rfl, rfl⟩ <;>
      rcases split_event p' n' i' fd₂ τ' found' with before' | ⟨rfl, same⟩
    · exact R.unique p p' n n' i i' fd₁ fd₂ τ' before before'
    · have := R.below p n i fd₁ τ' before
      omega
    · have := R.below p' n' i' fd₂ _ before'
      omega
    · rfl

theorem dqbuf_recorded (R : Recorded k bound) {node index bytesUsed : Nat} {timestamp : Int}
    (done : k.dqbuf node = (.buffer index bytesUsed timestamp, k')) :
    Recorded k' bound ∧ k'.history = k.history ++ [.dqbuf node index] ∧
      k'.answers = k.answers ∧
      (∀ n, n ≠ node → k'.queues n = k.queues n) ∧
      (∀ b, b ∈ k.queues node → b.index = index →
        ∃ p, Matched k'.history node b p k.history.length) ∧
      (∀ b, b ∈ k'.queues node ↔ b ∈ k.queues node ∧ b.index ≠ index) := by
  simp only [Kernel.dqbuf] at done
  split at done
  · cases done
  · cases done
  rename_i choice bytes time at_answer
  split at done
  · cases done
  rename_i taken at_choice
  cases done
  obtain ⟨inside, rfl⟩ := List.getElem?_eq_some_iff.mp at_choice
  have apart := List.getElem_cons_eraseIdx_perm inside
  have nodup := ((apart.map (·.index)).nodup_iff.mpr (R.indices node))
  simp only [List.map_cons, List.nodup_cons] at nodup
  have remaining : ∀ b, b ∈ (k.queues node).eraseIdx choice ↔
      b ∈ k.queues node ∧ b.index ≠ (k.queues node)[choice].index := by
    intro b
    constructor
    · intro member
      refine ⟨List.mem_of_mem_eraseIdx member, fun same => nodup.1 ?_⟩
      exact same ▸ List.mem_map_of_mem member
    · rintro ⟨member, other⟩
      rcases List.mem_cons.mp (apart.mem_iff.mpr member) with rfl | rest
      · exact (other rfl).elim
      · exact rest
  refine ⟨?_, rfl, rfl, fun n other => Function.update_of_ne other _ _, ?_, ?_⟩
  · refine (R.shrink (by simp) (List.eraseIdx_sublist _ _) ?_).congr rfl rfl
    intro n b member
    by_cases same : n = node
    · subst n
      simp only [Function.update_self] at member
      simp [touches, Ne.symm ((remaining b).mp member).2]
    · simp [touches, Ne.symm same]
  · intro b member same
    have equal : b = (k.queues node)[choice] := by
      by_contra ne
      have rest : b ∈ (k.queues node).eraseIdx choice := by
        rcases List.mem_cons.mp (apart.mem_iff.mpr member) with here | rest
        · exact (ne here).elim
        · exact rest
      exact ((remaining b).mp rest).2 same
    obtain ⟨p, H⟩ := R.held node b member
    refine ⟨p, ?_⟩
    simp only [← same]
    exact H.matched
  · intro b
    simp only [Function.update_self]
    exact remaining b

theorem dqbuf_idle {node : Nat} {r : DequeueResult} (done : k.dqbuf node = (r, k'))
    (idle : ∀ index bytesUsed timestamp, r ≠ .buffer index bytesUsed timestamp) :
    k'.queues = k.queues ∧ k'.history = k.history ∧ k'.answers = k.answers := by
  simp only [Kernel.dqbuf] at done
  split at done
  · cases done
    exact ⟨rfl, rfl, rfl⟩
  · cases done
    exact ⟨rfl, rfl, rfl⟩
  split at done
  · cases done
    exact ⟨rfl, rfl, rfl⟩
  · cases done
    exact (idle _ _ _ rfl).elim

theorem emptied_recorded (R : Recorded k bound) {node : Nat} {e : Event}
    (whole : e = .streamOff node ∨ e = .release node) :
    Recorded { k with
      queues := Function.update k.queues node []
      history := k.history ++ [e] } bound := by
  refine R.shrink ?_ (List.nil_sublist _) ?_
  · rcases whole with rfl | rfl <;> simp
  · intro n b member
    by_cases same : n = node
    · subst n
      simp only [Function.update_self] at member
      cases member
    · rcases whole with rfl | rfl <;> simp [touches, Ne.symm same]

end Kernels

end MiniCam.V4L2.KernelHistory
