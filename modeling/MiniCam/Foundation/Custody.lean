/- Module: MiniCam/Foundation/Custody
   source: none
   digest: Distinct items of one owner, each either free or lent once. -/

import Mathlib.Data.List.Perm.Basic
import Mathlib.Data.List.Nodup

set_option autoImplicit false
set_option relaxedAutoImplicit false

namespace MiniCam.Foundation.Custody

universe u

variable {α : Type u} {owned free lent lent' : List α} {x : α}

/-- The owned items are distinct, and together the free and the lent ones are all of them. -/
structure Conserved (owned free lent : List α) : Prop where
  distinct : owned.Nodup
  whole : (free ++ lent).Perm owned

theorem Conserved.stocked (distinct : owned.Nodup) : Conserved owned owned [] := by
  refine ⟨distinct, ?_⟩
  rw [List.append_nil]

theorem Conserved.reorder (C : Conserved owned free lent) (same : lent'.Perm lent) :
    Conserved owned free lent' :=
  ⟨C.distinct, (same.append_left free).trans C.whole⟩

theorem Conserved.lend (C : Conserved owned (x :: free) lent) :
    Conserved owned free (x :: lent) := by
  refine ⟨C.distinct, ?_⟩
  have moved : (free ++ x :: lent).Perm (x :: free ++ lent) := List.perm_middle
  exact moved.trans C.whole

theorem Conserved.giveBack (C : Conserved owned free (x :: lent)) :
    Conserved owned (free ++ [x]) lent := by
  refine ⟨C.distinct, ?_⟩
  rw [List.append_assoc]
  exact C.whole

theorem Conserved.parts_distinct (C : Conserved owned free lent) : (free ++ lent).Nodup :=
  C.whole.nodup_iff.mpr C.distinct

theorem Conserved.free_distinct (C : Conserved owned free lent) : free.Nodup :=
  C.parts_distinct.of_append_left

theorem Conserved.lent_distinct (C : Conserved owned free lent) : lent.Nodup :=
  C.parts_distinct.of_append_right

theorem Conserved.owned_of_free (C : Conserved owned free lent) (member : x ∈ free) :
    x ∈ owned :=
  C.whole.subset (List.mem_append_left lent member)

theorem Conserved.owned_of_lent (C : Conserved owned free lent) (member : x ∈ lent) :
    x ∈ owned :=
  C.whole.subset (List.mem_append_right free member)

theorem Conserved.free_iff (C : Conserved owned free lent) (member : x ∈ owned) :
    x ∈ free ↔ x ∉ lent := by
  constructor
  · intro at_home away
    exact List.disjoint_of_nodup_append C.parts_distinct at_home away
  · intro not_away
    rcases List.mem_append.mp (C.whole.symm.subset member) with at_home | away
    · exact at_home
    · exact absurd away not_away

theorem Conserved.total (C : Conserved owned free lent) :
    free.length + lent.length = owned.length := by
  have lengths := C.whole.length_eq
  rw [List.length_append] at lengths
  exact lengths

end MiniCam.Foundation.Custody
