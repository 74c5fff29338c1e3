/- Module: MiniCam/Foundation/KeyedTable
   source: none
   digest: Keyed tables with removal by value, on top of association lists. -/

import Mathlib.Data.List.AList

set_option autoImplicit false
set_option relaxedAutoImplicit false

namespace MiniCam.Foundation.KeyedTable

universe u v

/-- A finite map whose keys are distinct by construction. -/
abbrev Table (K : Type u) (V : Type v) : Type max u v := AList fun _ : K => V

variable {K : Type u} {V : Type v} [DecidableEq K]

def retain (t : Table K V) (test : V → Bool) : Table K V where
  entries := t.entries.filter fun e => test e.2
  nodupKeys := t.nodupKeys.sublist List.filter_sublist

theorem lookup_eq_some_iff {t : Table K V} {k : K} {v : V} :
    t.lookup k = some v ↔ (⟨k, v⟩ : Sigma fun _ : K => V) ∈ t.entries := by
  rw [← Option.mem_def]
  exact AList.mem_lookup_iff

theorem mem_of_lookup {t : Table K V} {k : K} {v : V} (found : t.lookup k = some v) : k ∈ t := by
  rw [← AList.lookup_isSome, found]
  rfl

theorem lookup_retain_eq_some {t : Table K V} {test : V → Bool} {k : K} {v : V} :
    (retain t test).lookup k = some v ↔ t.lookup k = some v ∧ test v = true := by
  rw [lookup_eq_some_iff, lookup_eq_some_iff]
  exact List.mem_filter

theorem lookup_insert_eq_some {t : Table K V} {k j : K} {v w : V} :
    (t.insert j w).lookup k = some v ↔ (k = j ∧ v = w) ∨ (k ≠ j ∧ t.lookup k = some v) := by
  by_cases same : k = j
  · subst k
    simp [eq_comm]
  · simp [AList.lookup_insert_ne same, same]

theorem lookup_erase_eq_some {t : Table K V} {k j : K} {v : V} :
    (t.erase j).lookup k = some v ↔ k ≠ j ∧ t.lookup k = some v := by
  by_cases same : k = j
  · subst k
    simp
  · simp [AList.lookup_erase_ne same, same]

theorem retain_insert_of_fails {t : Table K V} {test : V → Bool} {k : K} {v : V} (fresh : k ∉ t)
    (fails : test v = false) : retain (t.insert k v) test = retain t test := by
  apply AList.ext
  change (t.insert k v).entries.filter (fun e => test e.2) = t.entries.filter fun e => test e.2
  rw [AList.entries_insert_of_notMem fresh, List.filter_cons_of_neg (by simp [fails])]

theorem erase_insert_of_fresh {t : Table K V} {k : K} {v : V} (fresh : k ∉ t) :
    (t.insert k v).erase k = t := by
  apply AList.ext
  change List.kerase k (t.insert k v).entries = t.entries
  rw [AList.entries_insert_of_notMem fresh]
  exact List.kerase_cons_eq rfl

theorem erase_of_fresh {t : Table K V} {k : K} (fresh : k ∉ t) : t.erase k = t := by
  apply AList.ext
  exact List.kerase_of_notMem_keys fresh

theorem keys_perm_cons_erase {t : Table K V} {k : K} {v : V} (found : t.lookup k = some v) :
    t.keys.Perm (k :: (t.erase k).keys) := by
  rw [AList.keys_erase]
  exact List.perm_cons_erase (AList.mem_keys.mp (mem_of_lookup found))

def values (t : Table K V) : List V := t.entries.map fun e => e.2

theorem mem_values {t : Table K V} {v : V} : v ∈ values t ↔ ∃ k, t.lookup k = some v := by
  simp only [values, List.mem_map, lookup_eq_some_iff]
  constructor
  · rintro ⟨e, member, rfl⟩
    exact ⟨e.1, member⟩
  · rintro ⟨k, member⟩
    exact ⟨⟨k, v⟩, member, rfl⟩

theorem values_insert (t : Table K V) (k : K) (v : V) :
    values (t.insert k v) = v :: values (t.erase k) := by
  simp only [values, AList.entries_insert, List.map_cons]
  rfl

theorem values_insert_of_fresh {t : Table K V} {k : K} {v : V} (fresh : k ∉ t) :
    values (t.insert k v) = v :: values t := by
  rw [values_insert, erase_of_fresh fresh]

theorem values_perm_cons_erase {t : Table K V} {k : K} {v : V} (found : t.lookup k = some v) :
    (values t).Perm (v :: values (t.erase k)) := by
  obtain ⟨w, before, after, -, whole, erased⟩ := List.exists_of_kerase (mem_of_lookup found)
  have at_key : t.lookup k = some w := by
    rw [lookup_eq_some_iff, whole]
    simp
  obtain rfl := Option.some.inj (found.symm.trans at_key)
  have rest : (t.erase k).entries = before ++ after := erased
  simp only [values, whole, rest, List.map_append, List.map_cons]
  exact List.perm_middle

section Contributions

universe w

variable {A : Type w} (f : V → List A)

theorem flatMap_values_perm {t : Table K V} {k : K} {v : V} (found : t.lookup k = some v) :
    ((values t).flatMap f).Perm (f v ++ (values (t.erase k)).flatMap f) :=
  (values_perm_cons_erase found).flatMap_right f

theorem flatMap_values_insert (t : Table K V) (k : K) (v : V) :
    (values (t.insert k v)).flatMap f = f v ++ (values (t.erase k)).flatMap f := by
  rw [values_insert, List.flatMap_cons]

theorem flatMap_values_of_absent {t : Table K V} {k : K} (absent : t.lookup k = none) :
    (values (t.erase k)).flatMap f = (values t).flatMap f := by
  rw [erase_of_fresh (AList.lookup_eq_none.mp absent)]

end Contributions

end MiniCam.Foundation.KeyedTable
