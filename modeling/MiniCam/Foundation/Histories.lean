/- Module: MiniCam/Foundation/Histories
   source: none
   digest: Growing lists of events: what holds since an event, what each event may follow, and
           the record of the calls made on a state. -/

import Mathlib.Data.List.Induction

set_option autoImplicit false
set_option relaxedAutoImplicit false

namespace MiniCam.Foundation.Histories

universe u v w

section Events

variable {α : Type u} {begins ends : α → Prop} {allowed : List α → α → Prop}
  {history : List α} {event : α}

/-- Some event that begins was not followed by one that ends. -/
def Since (begins ends : α → Prop) (history : List α) : Prop :=
  ∃ earlier event later, history = earlier ++ event :: later ∧ begins event ∧
    ∀ other ∈ later, ¬ ends other

/-- Every event was allowed by the events before it. -/
def Permitted (allowed : List α → α → Prop) (history : List α) : Prop :=
  ∀ before event after, history = before ++ event :: after → allowed before event

theorem not_since_nil : ¬ Since begins ends ([] : List α) := by
  rintro ⟨earlier, event, later, whole, -⟩
  cases earlier <;> cases whole

theorem snoc_eq_append_cons {earlier later : List α} {other : α}
    (whole : history ++ [event] = earlier ++ other :: later) :
    (later = [] ∧ earlier = history ∧ other = event) ∨
      ∃ shorter, later = shorter ++ [event] ∧ history = earlier ++ other :: shorter := by
  rcases List.eq_nil_or_concat later with rfl | ⟨shorter, last, rfl⟩
  · left
    obtain ⟨same, ends⟩ := List.append_inj' whole rfl
    exact ⟨rfl, same.symm, (List.cons.inj ends).1.symm⟩
  · right
    rw [List.concat_eq_append, ← List.cons_append, ← List.append_assoc] at whole
    obtain ⟨same, ends⟩ := List.append_inj' whole rfl
    refine ⟨shorter, ?_, same⟩
    rw [List.concat_eq_append, (List.cons.inj ends).1]

theorem since_snoc : Since begins ends (history ++ [event]) ↔
    begins event ∨ Since begins ends history ∧ ¬ ends event := by
  constructor
  · rintro ⟨earlier, other, later, whole, began, kept⟩
    rcases snoc_eq_append_cons whole with ⟨-, -, rfl⟩ | ⟨shorter, rfl, same⟩
    · exact Or.inl began
    · refine Or.inr ⟨⟨earlier, other, shorter, same, began, ?_⟩, ?_⟩
      · intro e member
        exact kept e (List.mem_append_left _ member)
      · exact kept event (List.mem_append_right _ (List.mem_singleton.mpr rfl))
  · rintro (began | ⟨⟨earlier, other, later, rfl, began, kept⟩, goes⟩)
    · exact ⟨history, event, [], rfl, began, by simp⟩
    · refine ⟨earlier, other, later ++ [event], by simp, began, ?_⟩
      intro e member
      rcases List.mem_append.mp member with old | new
      · exact kept e old
      · rw [List.mem_singleton.mp new]
        exact goes

theorem Since.began_after {earlier later : List α}
    (since : Since begins ends (earlier ++ event :: later)) (ended : ends event)
    (other : ¬ begins event) : ∃ e ∈ later, begins e := by
  induction later using List.reverseRecOn with
  | nil =>
    rcases since_snoc.mp since with began | ⟨-, goes⟩
    · exact absurd began other
    · exact absurd ended goes
  | append_singleton later last ih =>
    rw [← List.cons_append, ← List.append_assoc] at since
    rcases since_snoc.mp since with began | ⟨before, -⟩
    · exact ⟨last, by simp, began⟩
    · obtain ⟨e, member, began⟩ := ih before
      exact ⟨e, List.mem_append_left _ member, began⟩

theorem Since.holds {σ : Type v} (next : σ → α → σ) (P : σ → Prop)
    (set : ∀ s event, begins event → P (next s event))
    (kept : ∀ s event, P s → ¬ ends event → P (next s event))
    (since : Since begins ends history) (s : σ) : P (history.foldl next s) := by
  induction history using List.reverseRecOn with
  | nil => exact absurd since not_since_nil
  | append_singleton history event ih =>
    simp only [List.foldl_append, List.foldl_cons, List.foldl_nil]
    rcases since_snoc.mp since with began | ⟨before, goes⟩
    · exact set _ _ began
    · exact kept _ _ (ih before) goes

theorem Permitted.nil : Permitted allowed [] := by
  intro before event after whole
  cases before <;> cases whole

theorem Permitted.snoc (P : Permitted allowed history) (next : allowed history event) :
    Permitted allowed (history ++ [event]) := by
  intro before other after whole
  rcases snoc_eq_append_cons whole with ⟨-, rfl, rfl⟩ | ⟨shorter, -, same⟩
  · exact next
  · exact P before other shorter same

end Events

section Calls

variable {σ : Type u} {ο : Type v} {α : Type w} (run : σ → ο → α × σ)

def after (s : σ) (calls : List ο) : σ := calls.foldl (fun s call => (run s call).2) s

def record (s : σ) : List ο → List (ο × α)
  | [] => []
  | call :: rest => (call, (run s call).1) :: record (run s call).2 rest

theorem after_snoc (s : σ) (calls : List ο) (call : ο) :
    after run s (calls ++ [call]) = (run (after run s calls) call).2 := by
  simp only [after, List.foldl_append, List.foldl_cons, List.foldl_nil]

theorem record_snoc (s : σ) (calls : List ο) (call : ο) :
    record run s (calls ++ [call]) =
      record run s calls ++ [(call, (run (after run s calls) call).1)] := by
  induction calls generalizing s with
  | nil => rfl
  | cons first rest ih =>
    simp only [List.cons_append, record]
    rw [ih]
    rfl

theorem mem_of_mem_record {s : σ} {calls : List ο} {call : ο} {answer : α}
    (member : (call, answer) ∈ record run s calls) : call ∈ calls := by
  induction calls generalizing s with
  | nil => cases member
  | cons first rest ih =>
    rcases List.mem_cons.mp member with same | later
    · rw [(Prod.mk.inj same).1]
      exact List.mem_cons_self
    · exact List.mem_cons_of_mem _ (ih later)

/-- What every call preserves, together with its answer, holds of every state and its record. -/
theorem record_invariant (Inv : σ → List (ο × α) → Prop) {s : σ} (base : Inv s [])
    (preserved : ∀ s events call, Inv s events →
      Inv (run s call).2 (events ++ [(call, (run s call).1)])) (calls : List ο) :
    Inv (after run s calls) (record run s calls) := by
  induction calls using List.reverseRecOn with
  | nil => exact base
  | append_singleton calls call ih =>
    rw [after_snoc, record_snoc]
    exact preserved _ _ _ ih

end Calls

end MiniCam.Foundation.Histories
