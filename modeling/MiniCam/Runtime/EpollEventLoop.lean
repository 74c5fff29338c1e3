/- Module: MiniCam/Runtime/EpollEventLoop
   source: hal/epoll_event_loop.h, hal/epoll_event_loop.cpp
   digest: The event loop with one-shot interest, and the process table of descriptors. -/

import MiniCam.Foundation.KeyedTable
import Mathlib.Data.Finset.Card
import Mathlib.Data.Finset.Range

set_option autoImplicit false
set_option relaxedAutoImplicit false

namespace MiniCam.Runtime.EpollEventLoop

open MiniCam.Foundation.KeyedTable

section Descriptors

/-- The open descriptors of the process, each with the session whose driver opened it. -/
abbrev FdTable : Type := Table Nat (Option Nat)

/-- `open` takes the lowest number that is not in use. -/
def lowestUnused (numbers : FdTable) : Nat :=
  ((List.range (numbers.keys.length + 1)).find? fun n => decide (n ∉ numbers.keys)).getD 0

theorem lowestUnused_unused (numbers : FdTable) : lowestUnused numbers ∉ numbers := by
  have fewer : numbers.keys.toFinset.card < (Finset.range (numbers.keys.length + 1)).card := by
    rw [Finset.card_range]
    exact Nat.lt_succ_of_le (List.toFinset_card_le _)
  obtain ⟨n, inside, unused⟩ := Finset.exists_mem_notMem_of_card_lt_card fewer
  rw [Finset.mem_range] at inside
  rw [List.mem_toFinset] at unused
  rw [lowestUnused, AList.mem_keys]
  cases found : (List.range (numbers.keys.length + 1)).find? fun n =>
      decide (n ∉ numbers.keys) with
  | none =>
    have used := List.find?_eq_none.mp found n (List.mem_range.mpr inside)
    simp only [decide_eq_true_eq, not_not] at used
    exact (unused used).elim
  | some m => simpa using List.find?_some found

def eventFds (numbers : FdTable) (session : Nat) : List Nat :=
  ((numbers.entries.filter fun entry => decide (entry.2 = some session)).map Sigma.fst).reverse

theorem mem_eventFds {numbers : FdTable} {session fd : Nat} :
    fd ∈ eventFds numbers session ↔ numbers.lookup fd = some (some session) := by
  rw [lookup_eq_some_iff]
  simp only [eventFds, List.mem_reverse, List.mem_map, List.mem_filter, decide_eq_true_eq]
  constructor
  · rintro ⟨⟨n, owner⟩, ⟨member, rfl⟩, rfl⟩
    exact member
  · intro member
    exact ⟨⟨fd, some session⟩, ⟨member, rfl⟩, rfl⟩

theorem eventFds_nodup (numbers : FdTable) (session : Nat) : (eventFds numbers session).Nodup := by
  rw [eventFds, List.nodup_reverse]
  exact List.Nodup.sublist (List.filter_sublist.map Sigma.fst) numbers.nodupKeys

end Descriptors

/-- The loop thread between its locked sections: the events of the current batch that
are still to be handled, or a callback that it has copied and is about to call. -/
inductive LoopThread where
  | batch (events : List Nat)
  | calling (fd session : Nat) (rest : List Nat)
  deriving DecidableEq

def LoopThread.events : LoopThread → List Nat
  | .batch events => events
  | .calling fd _ rest => fd :: rest

/-- `interest` is the kernel's list: a descriptor that is in it is armed, or disarmed by
the event it last reported. A callback is the session that it holds weakly. -/
structure EventLoop where
  running : Bool
  opened : Bool
  interest : Nat → Option Bool
  callbacks : Nat → Option Nat
  thread : LoopThread
  lastError : String

namespace EventLoop

def create : EventLoop :=
  { running := false
    opened := false
    interest := fun _ => none
    callbacks := fun _ => none
    thread := .batch []
    lastError := "" }

/-- Every `start` makes a new epoll instance with nothing but the wake descriptor in it. -/
def start (l : EventLoop) : EventLoop :=
  { l with running := true, opened := true, interest := fun _ => none }

/-- The end of `stop`, after the loop thread has been joined. -/
def finish (l : EventLoop) : EventLoop :=
  { l with opened := false, interest := fun _ => none, callbacks := fun _ => none }

/-- The first section of `register_fd`. -/
def storeCallback (fd session : Nat) (l : EventLoop) : Bool × EventLoop :=
  if l.running then (true, { l with callbacks := Function.update l.callbacks fd (some session) })
  else (false, l)

/-- EPOLL_CTL_ADD, and EPOLL_CTL_MOD when the descriptor is already in the list. -/
def addInterest (fd : Nat) (answer : Option String) (l : EventLoop) : Bool × EventLoop :=
  match answer, l.opened with
  | none, true => (true, { l with interest := Function.update l.interest fd (some true) })
  | some error, _ => (false, { l with lastError := "epoll_ctl add/mod failed: " ++ error })
  | none, false =>
    (false, { l with lastError := "epoll_ctl add/mod failed: Bad file descriptor" })

/-- EPOLL_CTL_MOD; a descriptor that is not in the list is either open or not. -/
def rearmFd (fd : Nat) (isOpen : Bool) (l : EventLoop) : Bool × EventLoop :=
  if l.running then
    match l.interest fd with
    | some _ => (true, { l with interest := Function.update l.interest fd (some true) })
    | none =>
      (false, { l with
        lastError := "epoll_ctl rearm failed: " ++
          if isOpen then "No such file or directory" else "Bad file descriptor" })
  else (false, l)

/-- EPOLL_CTL_DEL, the first half of `unregister_fd`; also what closing a descriptor
does to the list. -/
def dropInterest (fd : Nat) (l : EventLoop) : EventLoop :=
  { l with interest := Function.update l.interest fd none }

/-- The second half of `unregister_fd`, under the loop's mutex. -/
def eraseCallback (fd : Nat) (l : EventLoop) : EventLoop :=
  { l with callbacks := Function.update l.callbacks fd none }

/-- `epoll_wait` reports some of the armed descriptors, at most 32, and disarms them. A
call that `stop` finds waiting may still report some. -/
def wait (ready : List Nat) (l : EventLoop) : Option EventLoop :=
  if l.opened = true ∧ l.thread = .batch [] ∧ ready.length ≤ 32 ∧ ready.Nodup ∧
      ∀ fd ∈ ready, l.interest fd = some true then
    some { l with
      interest := fun fd => if fd ∈ ready then some false else l.interest fd
      thread := .batch ready }
  else none

def lookup (l : EventLoop) : Option EventLoop :=
  match l.thread with
  | .batch (fd :: rest) =>
    match l.callbacks fd with
    | some session => some { l with thread := .calling fd session rest }
    | none => some { l with thread := .batch rest }
  | _ => none

end EventLoop

end MiniCam.Runtime.EpollEventLoop
