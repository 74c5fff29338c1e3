/- Module: MiniCam/Runtime/SessionIsolation
   source: hal/camera_hal_runtime.cpp, hal/camera_device_session.cpp, hal/epoll_event_loop.cpp
   digest: When a session keeps its registrations while others come and go, and the
     closing order that takes them away. -/

import MiniCam.Runtime.CameraHalRuntime

set_option autoImplicit false
set_option relaxedAutoImplicit false

namespace MiniCam.Runtime.SessionIsolation

open MiniCam.Foundation.KeyedTable
open MiniCam.Foundation.Runs (Reaches always exists_reaches_of_replay)
open MiniCam.Runtime.EpollEventLoop
open MiniCam.Runtime.CameraHalRuntime
open MiniCam.Runtime.CameraHalRuntime.HalRuntime

/-- The descriptors that the session is registering, or has registered, and not closed. -/
def heldFds (v : SessionView) : List Nat :=
  match v.stage with
  | .registering registered rest => registered ++ rest
  | .adding registered fd rest => registered ++ fd :: rest
  | .configured => v.driverFds
  | .dropping fds .error => fds
  | .erasing fd rest .error => fd :: rest
  | _ => []

def storedFds (v : SessionView) : List Nat :=
  match v.stage with
  | .registering registered _ => registered
  | .adding registered fd _ => registered ++ [fd]
  | .configured => v.driverFds
  | _ => []

def addedFds (v : SessionView) : List Nat :=
  match v.stage with
  | .registering registered _ => registered
  | .adding registered _ _ => registered
  | .configured => v.driverFds
  | _ => []

theorem stored_of_added {v : SessionView} {fd : Nat} (member : fd ∈ addedFds v) :
    fd ∈ storedFds v := by
  simp only [addedFds, storedFds] at member ⊢
  split at member <;> simp_all

theorem held_of_stored {v : SessionView} {fd : Nat} (member : fd ∈ storedFds v) :
    fd ∈ heldFds v := by
  simp only [storedFds, heldFds] at member ⊢
  split at member <;> simp_all
  rcases member with before | rfl
  · exact Or.inl before
  · exact Or.inr (Or.inl rfl)

def ownerOf (s : HalRuntime) (fd : Nat) : Option Nat := (s.numbers.lookup fd).join

def nextDropped : Stage → Option Nat
  | .dropping (fd :: _) _ => some fd
  | _ => none

def nextErased : Stage → Option Nat
  | .erasing fd _ _ => some fd
  | _ => none

/-- No step of `unregister_fd` names a number that has come to belong to another session
which has passed the corresponding step of its registration, and the loop is not
started afresh under registered sessions. -/
def Apart (s : HalRuntime) : Label → Prop
  | .unregisterFd h => ∀ fd ∈ nextDropped (s.sessions h).stage, ∀ h' ∈ ownerOf s fd,
      fd ∉ addedFds (s.sessions h')
  | .eraseCallback h => ∀ fd ∈ nextErased (s.sessions h).stage, ∀ h' ∈ ownerOf s fd,
      fd ∉ storedFds (s.sessions h')
  | .start => ∀ fd ∈ s.numbers.keys, ∀ h ∈ ownerOf s fd, fd ∉ storedFds (s.sessions h)
  | _ => True

def Whole (v : SessionView) : Prop :=
  match v.stage with
  | .registering registered rest => v.driverFds = registered ++ rest
  | .adding registered fd rest => v.driverFds = registered ++ fd :: rest
  | _ => True

structure Placed (s : HalRuntime) (h : Nat) : Prop where
  whole : Whole (s.sessions h)
  owned : ∀ fd ∈ heldFds (s.sessions h), s.numbers.lookup fd = some (some h)
  callbacks : s.loop.running = true → ∀ fd ∈ storedFds (s.sessions h), s.loop.callbacks fd = some h
  interest : s.loop.running = true → ∀ fd ∈ addedFds (s.sessions h), (s.loop.interest fd).isSome

section Steps

variable {s t : HalRuntime} {h : Nat}

theorem Placed.keep (P : Placed s h) (session : t.sessions h = s.sessions h)
    (running : t.loop.running = true → s.loop.running = true)
    (numbers : ∀ fd ∈ heldFds (s.sessions h), s.numbers.lookup fd = some (some h) →
      t.numbers.lookup fd = some (some h))
    (callbacks : t.loop.running = true → ∀ fd ∈ storedFds (s.sessions h),
      s.loop.callbacks fd = some h → t.loop.callbacks fd = some h)
    (interest : t.loop.running = true → ∀ fd ∈ addedFds (s.sessions h),
      (s.loop.interest fd).isSome → (t.loop.interest fd).isSome) : Placed t h := by
  refine ⟨?_, ?_, ?_, ?_⟩ <;> rw [session]
  · exact P.whole
  · exact fun fd member => numbers fd member (P.owned fd member)
  · exact fun on fd member => callbacks on fd member (P.callbacks (running on) fd member)
  · exact fun on fd member => interest on fd member (P.interest (running on) fd member)

theorem Placed.same (P : Placed s h) (session : t.sessions h = s.sessions h)
    (numbers : t.numbers = s.numbers) (loop : t.loop = s.loop) : Placed t h :=
  P.keep session (fun on => loop ▸ on) (fun _ _ owned => numbers ▸ owned)
    (fun _ _ _ stored => loop ▸ stored) fun _ _ _ inside => loop ▸ inside

theorem placed_of_unstored (whole : Whole (t.sessions h))
    (owned : ∀ fd ∈ heldFds (t.sessions h), t.numbers.lookup fd = some (some h))
    (stored : storedFds (t.sessions h) = []) : Placed t h := by
  have added : addedFds (t.sessions h) = [] := by
    refine List.eq_nil_iff_forall_not_mem.mpr fun fd member => ?_
    have inside := stored_of_added member
    rw [stored] at inside
    cases inside
  refine ⟨whole, owned, fun _ => ?_, fun _ => ?_⟩
  · rw [stored]
    intros; contradiction
  · rw [added]
    intros; contradiction

theorem held_ne {h' : Nat} (other : h' ≠ h) {fd fd' : Nat}
    (owned : s.numbers.lookup fd = some (some h)) (P : Placed s h')
    (member : fd' ∈ heldFds (s.sessions h')) : fd' ≠ fd := by
  rintro rfl
  have same := (P.owned fd' member).symm.trans owned
  simp only [Option.some.injEq] at same
  exact other same

private theorem registerFd_placed (P : ∀ h, Placed s h) (taken : registerFdStep h s = some t) :
    ∀ h', Placed t h' := by
  have own := P h
  simp only [registerFdStep] at taken
  split at taken
  · cases taken
    intro h'
    by_cases same : h' = h
    · subst same
      exact placed_of_unstored (by simp [Whole]) (by simp [heldFds]) (by simp [storedFds])
    · exact (P h').same (setStage_of_ne s _ same) rfl rfl
  · rename_i first more at_stage
    cases taken
    intro h'
    by_cases same : h' = h
    · subst same
      have listed : (s.sessions h').driverFds = first :: more := by
        simpa [Whole, at_stage] using own.whole
      refine ⟨by simp [Whole], ?_, ?_, ?_⟩
      · simpa [heldFds, at_stage, listed] using own.owned
      · simpa [storedFds, at_stage, listed] using own.callbacks
      · simpa [addedFds, at_stage, listed] using own.interest
    · exact (P h').same (setStage_of_ne s _ same) rfl rfl
  · rename_i registered fd rest at_stage
    have mine : s.numbers.lookup fd = some (some h) := own.owned fd (by simp [heldFds, at_stage])
    simp only [EventLoop.storeCallback] at taken
    split at taken
    · rename_i l stored
      split at stored <;> cases stored
      rename_i running
      cases taken
      intro h'
      by_cases same : h' = h
      · subst same
        refine ⟨?_, ?_, fun _ fd' member => ?_, fun _ => ?_⟩
        · simpa [Whole, at_stage] using own.whole
        · simpa [heldFds, at_stage] using own.owned
        · by_cases here : fd' = fd
          · subst here
            exact Function.update_self _ _ _
          · have before : fd' ∈ storedFds (s.sessions h') := by
              simpa [storedFds, at_stage, here] using member
            exact (Function.update_of_ne here _ _).trans (own.callbacks running fd' before)
        · simpa [addedFds, at_stage] using own.interest running
      · refine (P h').keep (setStage_of_ne s _ same) id (fun _ _ => id) ?_ fun _ _ _ => id
        intro _ fd' member before
        exact (Function.update_of_ne (held_ne same mine (P h') (held_of_stored member)) _ _).trans
          before
    · cases taken
      intro h'
      by_cases same : h' = h
      · subst same
        refine placed_of_unstored (by simp [Whole]) (fun fd' member => ?_) (by simp [storedFds])
        refine own.owned fd' ?_
        simp only [setStage_self, heldFds] at member
        simp [heldFds, at_stage, member]
      · exact (P h').same (setStage_of_ne s _ same) rfl rfl
  · cases taken

private theorem addFd_placed (P : ∀ h, Placed s h) {answer : Option String}
    (taken : addFdStep h answer s = some t) : ∀ h', Placed t h' := by
  have own := P h
  simp only [addFdStep] at taken
  split at taken
  case h_2 => cases taken
  rename_i registered fd rest at_stage
  simp only [EventLoop.addInterest] at taken
  split at taken
  · rename_i l added
    cases taken
    split at added <;> cases added
    intro h'
    by_cases same : h' = h
    · subst same
      refine ⟨?_, ?_, ?_, fun running fd' member => ?_⟩
      · simpa [Whole, at_stage] using own.whole
      · simpa [heldFds, at_stage] using own.owned
      · simpa [storedFds, at_stage] using own.callbacks
      · by_cases here : fd' = fd
        · subst here
          simp
        · have before : fd' ∈ addedFds (s.sessions h') := by
            simpa [addedFds, at_stage, here] using member
          simp only [Function.update_of_ne here]
          exact own.interest running fd' before
    · refine (P h').keep (setStage_of_ne s _ same) id (fun _ _ => id) (fun _ _ _ => id) ?_
      intro _ fd' member before
      by_cases here : fd' = fd
      · subst here
        simp
      · simp only [Function.update_of_ne here]
        exact before
  · rename_i l refused
    cases taken
    have loop : l.running = s.loop.running ∧ l.interest = s.loop.interest ∧
        l.callbacks = s.loop.callbacks := by
      split at refused <;> cases refused <;> exact ⟨rfl, rfl, rfl⟩
    obtain ⟨running, interest, callbacks⟩ := loop
    intro h'
    by_cases same : h' = h
    · subst same
      refine placed_of_unstored (by simp [Whole]) (fun fd' member => ?_) (by simp [storedFds])
      refine own.owned fd' ?_
      simp only [setStage_self, heldFds, List.mem_cons] at member
      simp only [heldFds, at_stage, List.mem_append, List.mem_cons]
      rcases member with rfl | before
      · exact Or.inr (Or.inl rfl)
      · exact Or.inl before
    · refine (P h').keep (setStage_of_ne s _ same) (fun on => running ▸ on) (fun _ _ => id) ?_ ?_
      · simp only [callbacks]
        exact fun _ _ _ => id
      · simp only [interest]
        exact fun _ _ _ => id

theorem closeFdStep_cases {fd : Nat} (taken : closeFdStep h fd s = some t) :
    s.numbers.lookup fd = some (some h) ∧ heldFds (s.sessions h) = [] ∧
      t = { s with numbers := s.numbers.erase fd, loop := s.loop.dropInterest fd } := by
  simp only [closeFdStep] at taken
  split at taken
  · rename_i at_stage
    split at taken <;> cases taken
    rename_i owned
    exact ⟨owned, by simp [heldFds, at_stage], rfl⟩
  · rename_i at_stage
    split at taken <;> cases taken
    rename_i owned
    exact ⟨owned, by simp [heldFds, at_stage], rfl⟩
  · cases taken

private theorem closed_placed (P : ∀ h, Placed s h) {fd : Nat} {owner : Option Nat}
    (owned : s.numbers.lookup fd = some owner)
    (unheld : ∀ h, owner = some h → heldFds (s.sessions h) = []) :
    ∀ h', Placed { s with numbers := s.numbers.erase fd, loop := s.loop.dropInterest fd } h' := by
  intro h'
  have apart : ∀ fd' ∈ heldFds (s.sessions h'), fd' ≠ fd := by
    rintro fd' member rfl
    have same := owned.symm.trans ((P h').owned fd' member)
    simp only [Option.some.injEq] at same
    rw [unheld h' same] at member
    cases member
  refine (P h').keep rfl id ?_ (fun _ _ _ => id) ?_
  · exact fun fd' member before => lookup_erase_eq_some.mpr ⟨apart fd' member, before⟩
  · intro _ fd' member before
    simp only [EventLoop.dropInterest,
      Function.update_of_ne (apart fd' (held_of_stored (stored_of_added member)))]
    exact before

private theorem opened_placed (P : ∀ h, Placed s h) (owner : Option Nat) :
    ∀ h', Placed { s with numbers := s.numbers.insert (lowestUnused s.numbers) owner } h' := by
  intro h'
  refine (P h').keep rfl id (fun fd _ before => ?_) (fun _ _ _ => id) fun _ _ _ => id
  refine lookup_insert_eq_some.mpr (Or.inr ⟨?_, before⟩)
  rintro rfl
  exact lowestUnused_unused s.numbers (mem_of_lookup before)

private theorem idle_placed (P : ∀ h, Placed s h) (h : Nat) {stage : Stage} {driverFds : List Nat}
    {registry : Int → Option Nat} {lastError : String}
    (held : ∀ v : SessionView, v.stage = stage → heldFds v = [] ∧ storedFds v = [] ∧ Whole v) :
    ∀ h', Placed { s with
      sessions := Function.update s.sessions h
        { s.sessions h with driverFds := driverFds, stage := stage }
      registry := registry
      lastError := lastError } h' := by
  intro h'
  by_cases same : h' = h
  · subst same
    obtain ⟨empty, stored, whole⟩ :=
      held { s.sessions h' with driverFds := driverFds, stage := stage } rfl
    refine placed_of_unstored ?_ ?_ ?_ <;> simp only [Function.update_self]
    · exact whole
    · rw [empty]
      intros; contradiction
    · exact stored
  · exact (P h').same (Function.update_of_ne same _ _) rfl rfl

private theorem closing_placed (P : ∀ h, Placed s h)
    (taken : closeStep h s = some t ∨ driverClosedStep h s = some t) : ∀ h', Placed t h' := by
  rcases taken with taken | taken
  · simp only [closeStep] at taken
    split at taken <;> cases taken <;>
      exact idle_placed P h fun v at_stage => by simp [heldFds, storedFds, Whole, at_stage]
  · simp only [driverClosedStep] at taken
    split at taken
    · split at taken <;> cases taken
      refine idle_placed P h fun v at_stage => ?_
      split at at_stage <;> simp [heldFds, storedFds, Whole, at_stage]
    · cases taken

private theorem unregisterFd_placed (P : ∀ h, Placed s h) (apart : Apart s (.unregisterFd h))
    (taken : unregisterFdStep h s = some t) : ∀ h', Placed t h' := by
  have own := P h
  simp only [unregisterFdStep] at taken
  split at taken
  · rename_i fd rest ending at_stage
    cases taken
    intro h'
    by_cases same : h' = h
    · subst same
      refine placed_of_unstored (by simp [Whole]) (fun fd' member => own.owned fd' ?_)
        (by simp [storedFds])
      cases ending with
      | error => simpa [heldFds, at_stage] using member
      | closed => simp [heldFds] at member
    · refine (P h').keep (setStage_of_ne s _ same) id (fun _ _ => id) (fun _ _ _ => id) ?_
      intro _ fd' member before
      have owned := (P h').owned fd' (held_of_stored (stored_of_added member))
      have other : fd' ≠ fd := by
        rintro rfl
        exact apart fd' (by rw [at_stage]; rfl) h' (by simp [ownerOf, owned]) member
      simp only [EventLoop.dropInterest, Function.update_of_ne other]
      exact before
  · rename_i ending at_stage
    cases taken
    intro h'
    by_cases same : h' = h
    · subst same
      refine placed_of_unstored ?_ ?_ ?_ <;> cases ending <;>
        simp [Whole, heldFds, storedFds, Ending.stage]
    · exact (P h').same (setStage_of_ne s _ same) rfl rfl
  · cases taken

private theorem eraseCallback_placed (P : ∀ h, Placed s h) (apart : Apart s (.eraseCallback h))
    (taken : eraseCallbackStep h s = some t) : ∀ h', Placed t h' := by
  have own := P h
  simp only [eraseCallbackStep] at taken
  split at taken
  case h_2 => cases taken
  rename_i fd rest ending at_stage
  cases taken
  intro h'
  by_cases same : h' = h
  · subst same
    refine placed_of_unstored (by simp [Whole]) (fun fd' member => own.owned fd' ?_)
      (by simp [storedFds])
    cases ending with
    | error =>
      simp only [setStage_self, heldFds] at member
      simp [heldFds, at_stage, member]
    | closed => simp [heldFds] at member
  · refine (P h').keep (setStage_of_ne s _ same) id (fun _ _ => id) ?_ fun _ _ _ => id
    intro _ fd' member before
    have owned := (P h').owned fd' (held_of_stored member)
    have other : fd' ≠ fd := by
      rintro rfl
      exact apart fd' (by rw [at_stage]; rfl) h' (by simp [ownerOf, owned]) member
    simp only [EventLoop.eraseCallback, Function.update_of_ne other]
    exact before

private theorem start_placed (P : ∀ h, Placed s h) (apart : Apart s .start)
    (taken : startStep s = some t) : ∀ h', Placed t h' := by
  simp only [startStep] at taken
  split at taken <;> cases taken
  intro h'
  refine placed_of_unstored (P h').whole (P h').owned ?_
  refine List.eq_nil_iff_forall_not_mem.mpr fun fd member => ?_
  have owned := (P h').owned fd (held_of_stored member)
  exact apart fd (mem_of_lookup owned) h' (by simp [ownerOf, owned]) member

def isEvent : Label → Bool
  | .wait _ | .lookup | .deliver _ | .post _ _ | .pop _ | .run _ | .rearm _ => true
  | _ => false

theorem event_frame {a : Label} (event : isEvent a = true) (taken : step s a = some t) :
    t.sessions = s.sessions ∧ t.numbers = s.numbers ∧ t.loop.running = s.loop.running ∧
      t.loop.callbacks = s.loop.callbacks ∧
      ∀ fd, (t.loop.interest fd).isSome = (s.loop.interest fd).isSome := by
  cases a with
  | wait ready =>
    simp only [step, EventLoop.wait, Option.map_eq_some_iff] at taken
    obtain ⟨l, waited, rfl⟩ := taken
    split at waited <;> cases waited
    rename_i able
    refine ⟨rfl, rfl, rfl, rfl, fun fd => ?_⟩
    simp only
    split
    · rename_i member
      rw [able.2.2.2.2 fd member]
      rfl
    · rfl
  | lookup =>
    simp only [step, EventLoop.lookup, Option.map_eq_some_iff] at taken
    obtain ⟨l, found, rfl⟩ := taken
    split at found
    · split at found <;> cases found <;> exact ⟨rfl, rfl, rfl, rfl, fun _ => rfl⟩
    · cases found
  | deliver lost =>
    simp only [step, deliverStep] at taken
    split at taken
    · split at taken
      · split at taken <;> cases taken <;> exact ⟨rfl, rfl, rfl, rfl, fun _ => rfl⟩
      · cases taken
        exact ⟨rfl, rfl, rfl, rfl, fun _ => rfl⟩
    · cases taken
  | post shard lost =>
    simp only [step] at taken
    split at taken <;> cases taken
    exact ⟨rfl, rfl, rfl, rfl, fun _ => rfl⟩
  | pop shard =>
    simp only [step] at taken
    split at taken
    · obtain ⟨e, -, rfl⟩ := Option.map_eq_some_iff.mp taken
      exact ⟨rfl, rfl, rfl, rfl, fun _ => rfl⟩
    · cases taken
  | run shard =>
    simp only [step, runStep] at taken
    split at taken
    · split at taken <;> cases taken <;> exact ⟨rfl, rfl, rfl, rfl, fun _ => rfl⟩
    · cases taken
  | rearm shard =>
    simp only [step, rearmStep] at taken
    split at taken
    · split at taken <;> cases taken
      rename_i h fd at_worker
      refine ⟨rfl, rfl, ?_⟩
      simp only [EventLoop.rearmFd]
      split
      · split
        · rename_i armed inside
          refine ⟨rfl, rfl, fun fd' => ?_⟩
          by_cases same : fd' = fd
          · subst same
            simp [inside]
          · simp [Function.update_of_ne same]
        · exact ⟨rfl, rfl, fun _ => rfl⟩
      · exact ⟨rfl, rfl, fun _ => rfl⟩
    · cases taken
  | _ => cases event

theorem step_placed (P : ∀ h, Placed s h) {a : Label} (apart : Apart s a)
    (taken : step s a = some t) : ∀ h, Placed t h := by
  cases event : isEvent a with
  | true =>
    obtain ⟨sessions, numbers, running, callbacks, interest⟩ := event_frame event taken
    intro h
    refine (P h).keep (by rw [sessions]) (fun on => running ▸ on) (fun _ _ owned => numbers ▸ owned)
      (fun _ _ _ stored => callbacks ▸ stored) (fun _ fd _ inside => ?_)
    rw [interest fd]
    exact inside
  | false =>
    cases a with
    | start => exact start_placed P apart taken
    | stopLoop =>
      simp only [step] at taken
      split at taken <;> cases taken
      exact fun h => (P h).keep rfl (by intros; contradiction) (fun _ _ => id)
        (fun _ _ _ => id) fun _ _ _ => id
    | joinLoop =>
      simp only [step] at taken
      split at taken <;> cases taken
      rename_i stopped
      refine fun h => (P h).keep rfl id (fun _ _ => id) (fun on => ?_) fun on => ?_ <;>
      · have on : s.loop.running = true := on
        rw [stopped.1] at on
        cases on
    | stopExecutor =>
      simp only [step] at taken
      split at taken <;> cases taken
      exact fun h => (P h).same rfl rfl rfl
    | configure h =>
      simp only [step] at taken
      split at taken <;> cases taken
      exact idle_placed P h fun v at_stage => by simp [heldFds, storedFds, Whole, at_stage]
    | openFd h =>
      simp only [step] at taken
      split at taken <;> cases taken
      exact opened_placed P (some h)
    | opened h =>
      simp only [step, openedStep] at taken
      split at taken <;> cases taken
      intro h'
      by_cases same : h' = h
      · subst same
        refine placed_of_unstored ?_ ?_ ?_ <;> simp only [Function.update_self]
        · simp [Whole]
        · exact fun fd member => mem_eventFds.mp (by simpa [heldFds] using member)
        · simp [storedFds]
      · exact (P h').same (Function.update_of_ne same _ _) rfl rfl
    | openFailed h =>
      simp only [step] at taken
      split at taken <;> cases taken
      exact idle_placed P h fun v at_stage => by simp [heldFds, storedFds, Whole, at_stage]
    | registerFd h => exact registerFd_placed P taken
    | addFd h answer => exact addFd_placed P taken
    | close h => exact closing_placed P (Or.inl taken)
    | closeFd h fd =>
      obtain ⟨owned, unheld, rfl⟩ := closeFdStep_cases taken
      refine closed_placed P owned fun h' same => ?_
      cases same
      exact unheld
    | driverClosed h => exact closing_placed P (Or.inr taken)
    | unregisterFd h => exact unregisterFd_placed P apart taken
    | eraseCallback h => exact eraseCallback_placed P apart taken
    | expire h =>
      simp only [step, expireStep] at taken
      split at taken <;> cases taken
      intro h'
      by_cases same : h' = h
      · subst same
        obtain ⟨whole, owned, callbacks, interest⟩ := P h'
        refine ⟨?_, ?_, ?_, ?_⟩ <;> simp only [Function.update_self]
        · exact whole
        · exact owned
        · exact callbacks
        · exact interest
      · exact (P h').same (Function.update_of_ne same _ _) rfl rfl
    | openOther =>
      cases taken
      exact opened_placed P none
    | closeOther fd =>
      simp only [step] at taken
      split at taken <;> cases taken
      rename_i owned
      exact closed_placed P owned (by intros; contradiction)
    | _ => cases event

end Steps

section Runs

theorem initial_placed (config : TaskExecutorConfig) (ids : Nat → Int) (others : List Nat)
    (h : Nat) : Placed (HalRuntime.initial config ids others) h := by
  refine placed_of_unstored ?_ ?_ ?_ <;> simp [HalRuntime.initial, Whole, heldFds, storedFds]

theorem reachable_placed {permitted : HalRuntime → Label → Prop}
    (apart : ∀ s a, permitted s a → Apart s a) {config : TaskExecutorConfig} {ids : Nat → Int}
    {others : List Nat} {s : HalRuntime}
    (run : Reaches step permitted (HalRuntime.initial config ids others) s) : ∀ h, Placed s h :=
  run.invariant (fun s => ∀ h, Placed s h)
    (fun s a _ P ok taken => step_placed P (apart s a ok) taken) (initial_placed config ids others)

/-- In every run in which no `unregister_fd` hits a number that another session has
registered by then, every session whose `configure_streams` returned true and which is
not closing has all its callbacks, and all its descriptors in the interest list. -/
theorem registrations_survive (config : TaskExecutorConfig) (ids : Nat → Int) (others : List Nat)
    (s : HalRuntime) (run : Reaches step Apart (HalRuntime.initial config ids others) s)
    (running : s.loop.running = true) (h : Nat) (configured : (s.sessions h).stage = .configured) :
    ∀ fd ∈ (s.sessions h).driverFds,
      s.loop.callbacks fd = some h ∧ (s.loop.interest fd).isSome = true := by
  have P := reachable_placed (fun _ _ => id) run h
  intro fd member
  exact ⟨P.callbacks running fd (by simpa [storedFds, configured] using member),
    P.interest running fd (by simpa [addedFds, configured] using member)⟩

instance apartDecidable (s : HalRuntime) (a : Label) : Decidable (Apart s a) :=
  match a with
  | .unregisterFd h => inferInstanceAs (Decidable (∀ fd ∈ nextDropped (s.sessions h).stage,
      ∀ h' ∈ ownerOf s fd, fd ∉ addedFds (s.sessions h')))
  | .eraseCallback h => inferInstanceAs (Decidable (∀ fd ∈ nextErased (s.sessions h).stage,
      ∀ h' ∈ ownerOf s fd, fd ∉ storedFds (s.sessions h')))
  | .start => inferInstanceAs (Decidable (∀ fd ∈ s.numbers.keys, ∀ h ∈ ownerOf s fd,
      fd ∉ storedFds (s.sessions h)))
  | .stopLoop | .joinLoop | .stopExecutor | .configure _ | .openFd _ | .opened _ | .openFailed _
  | .registerFd _ | .addFd _ _ | .close _ | .closeFd _ _ | .driverClosed _ | .expire _ | .openOther
  | .closeOther _ | .wait _ | .lookup | .deliver _ | .post _ _ | .pop _ | .run _ | .rearm _ =>
    .isTrue trivial

def configuring (h : Nat) : List Label :=
  [.configure h, .openFd h, .opened h, .registerFd h, .addFd h none, .registerFd h]

def unregistering : List Label := [.unregisterFd 0, .eraseCallback 0, .unregisterFd 0]

def closingDriver : List Label := [.close 0, .closeFd 0 3, .driverClosed 0]

theorem registrations_survive_reuse :
    ∃ s : HalRuntime, Reaches step Apart (HalRuntime.initial {} (fun h => h) [0, 1, 2]) s ∧
      (s.sessions 0).stage = .closed ∧ (s.sessions 1).stage = .configured ∧
      (s.sessions 1).driverFds = [3] ∧ s.loop.callbacks 3 = some 1 ∧
      (s.loop.interest 3).isSome = true := by
  obtain ⟨s, run, passed⟩ := exists_reaches_of_replay step Apart
    (HalRuntime.initial {} (fun h => h) [0, 1, 2])
    (.start :: configuring 0 ++ closingDriver ++ unregistering ++ configuring 1)
    (fun s => s.loop.running && (s.sessions 0).stage == .closed &&
      (s.sessions 1).stage == .configured && (s.sessions 1).driverFds == [3]) (by decide +kernel)
  simp only [Bool.and_eq_true, beq_iff_eq] at passed
  obtain ⟨⟨⟨running, closed⟩, configured⟩, fds⟩ := passed
  obtain ⟨callback, inside⟩ := registrations_survive {} (fun h => h) [0, 1, 2] s run running 1
    configured 3 (by rw [fds]; exact List.mem_singleton.mpr rfl)
  exact ⟨s, run, closed, configured, fds, callback, inside⟩

/-- Session 1 gets the number that session 0 has closed and not yet unregistered: at the
end session 1 is configured, and its descriptor is registered nowhere. -/
theorem reused_number_unregistered :
    ∃ s : HalRuntime, Reaches step always (HalRuntime.initial {} (fun h => h) [0, 1, 2]) s ∧
      s.loop.running = true ∧ (s.sessions 0).sessionId ≠ (s.sessions 1).sessionId ∧
      (s.sessions 0).stage = .closed ∧ (s.sessions 1).stage = .configured ∧
      (s.sessions 1).driverFds = [3] ∧ s.loop.callbacks 3 = none ∧ s.loop.interest 3 = none := by
  obtain ⟨s, run, passed⟩ := exists_reaches_of_replay step always
    (HalRuntime.initial {} (fun h => h) [0, 1, 2])
    (.start :: configuring 0 ++ closingDriver ++ configuring 1 ++ unregistering)
    (fun s => s.loop.running && (s.sessions 0).sessionId != (s.sessions 1).sessionId &&
      (s.sessions 0).stage == .closed && (s.sessions 1).stage == .configured &&
      (s.sessions 1).driverFds == [3] && s.loop.callbacks 3 == none &&
      s.loop.interest 3 == none) (by decide +kernel)
  simp only [Bool.and_eq_true, beq_iff_eq, bne_iff_ne, ne_eq] at passed
  obtain ⟨⟨⟨⟨⟨⟨running, ids⟩, closed⟩, configured⟩, fds⟩, callback⟩, inside⟩ := passed
  exact ⟨s, run, running, ids, closed, configured, fds, callback, inside⟩

end Runs

end MiniCam.Runtime.SessionIsolation
