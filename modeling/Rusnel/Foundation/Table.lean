import Mathlib.Data.List.AList

/-!
# Finite maps

Bulk operations on association lists with distinct keys: a map collected from a
list of pairs, and the removal of a list of keys.

Main results:

- Theorem {lit}`collect_lookup`: a map collected from pairs with distinct keys
  finds each pair.
- Theorem {lit}`mem_of_collect_lookup`: it finds nothing else, whatever the keys are.
- Theorem {lit}`lookup_foldl_erase`: removing keys leaves exactly the lookups of
  the others.
-/

namespace Table

universe u v

variable {κ : Type u} {α : Type v} [DecidableEq κ]

/-- Insert pairs one after the other; a later pair replaces an earlier one with
the same key. -/
def insertAll (m : AList fun _ : κ => α) (pairs : List (κ × α)) : AList fun _ : κ => α :=
  pairs.foldl (fun m e => m.insert e.1 e.2) m

/-- The map of a list of pairs. -/
def collect (pairs : List (κ × α)) : AList fun _ : κ => α :=
  insertAll ∅ pairs

/-- Insertions under other keys do not change a lookup. -/
theorem insertAll_lookup_of_notMem {k : κ} {pairs : List (κ × α)} (m : AList fun _ : κ => α)
    (h : k ∉ pairs.map Prod.fst) : (insertAll m pairs).lookup k = m.lookup k := by
  induction pairs generalizing m with
  | nil => rfl
  | cons e pairs ih =>
      rw [List.map_cons, List.mem_cons, not_or] at h
      have hrest := ih (m.insert e.1 e.2) h.2
      rw [insertAll, List.foldl_cons]
      exact hrest.trans (AList.lookup_insert_ne h.1)

/-- With distinct keys every inserted pair is found. -/
theorem insertAll_lookup {k : κ} {a : α} {pairs : List (κ × α)} (m : AList fun _ : κ => α)
    (hnodup : (pairs.map Prod.fst).Nodup) (hmem : (k, a) ∈ pairs) :
    (insertAll m pairs).lookup k = some a := by
  induction pairs generalizing m with
  | nil => cases hmem
  | cons e pairs ih =>
      rw [List.map_cons, List.nodup_cons] at hnodup
      rw [insertAll, List.foldl_cons]
      rcases List.mem_cons.mp hmem with rfl | hrest
      · have hkept := insertAll_lookup_of_notMem (m.insert k a) hnodup.1
        exact hkept.trans (AList.lookup_insert _)
      · exact ih (m.insert e.1 e.2) hnodup.2 hrest

/-- A map collected from pairs with distinct keys finds each pair. -/
theorem collect_lookup {k : κ} {a : α} {pairs : List (κ × α)}
    (hnodup : (pairs.map Prod.fst).Nodup) (hmem : (k, a) ∈ pairs) :
    (collect pairs).lookup k = some a :=
  insertAll_lookup ∅ hnodup hmem

theorem mem_of_insertAll_lookup {k : κ} {a : α} {pairs : List (κ × α)}
    {m : AList fun _ : κ => α} (h : (insertAll m pairs).lookup k = some a) :
    m.lookup k = some a ∨ (k, a) ∈ pairs := by
  induction pairs generalizing m with
  | nil => exact .inl h
  | cons e pairs ih =>
      rcases ih h with hm | hmem
      · by_cases heq : k = e.1
        · subst heq
          rw [AList.lookup_insert] at hm
          cases hm
          exact .inr List.mem_cons_self
        · rw [AList.lookup_insert_ne heq] at hm
          exact .inl hm
      · exact .inr (List.mem_cons_of_mem _ hmem)

/-- What is found in a map collected from pairs is one of them, also if keys repeat. -/
theorem mem_of_collect_lookup {k : κ} {a : α} {pairs : List (κ × α)}
    (h : (collect pairs).lookup k = some a) : (k, a) ∈ pairs := by
  rcases mem_of_insertAll_lookup h with hnone | hmem
  · cases hnone
  · exact hmem

/-- A map in which nothing is found is empty. -/
theorem eq_empty {m : AList fun _ : κ => α} (h : ∀ k a, m.lookup k ≠ some a) : m = ∅ := by
  apply AList.ext
  apply List.eq_nil_iff_forall_not_mem.mpr
  intro e he
  exact h e.1 e.2 (AList.mem_lookup_iff.mpr he)

/-- What is found after an insertion. -/
theorem lookup_insert_ite (m : AList fun _ : κ => α) (k k' : κ) (a : α) :
    (m.insert k a).lookup k' = if k' = k then some a else m.lookup k' := by
  by_cases heq : k' = k
  · subst k'
    simp
  · rw [AList.lookup_insert_ne heq, if_neg heq]

/-- What is found after a removal. -/
theorem lookup_erase_ite (m : AList fun _ : κ => α) (k k' : κ) :
    (m.erase k).lookup k' = if k' = k then none else m.lookup k' := by
  by_cases heq : k' = k
  · subst k'
    simp
  · rw [AList.lookup_erase_ne heq, if_neg heq]

/-- What is found after a removal was found before, under another key. -/
theorem lookup_of_erase {m : AList fun _ : κ => α} {removed k : κ} {a : α}
    (h : (m.erase removed).lookup k = some a) : k ≠ removed ∧ m.lookup k = some a := by
  by_cases heq : k = removed
  · subst k
    simp at h
  · rw [AList.lookup_erase_ne heq] at h
    exact ⟨heq, h⟩

/-- Removing a list of keys leaves exactly the lookups of the other keys. -/
theorem lookup_foldl_erase (keys : List κ) (m : AList fun _ : κ => α) (k : κ) :
    (keys.foldl (fun m k => m.erase k) m).lookup k =
      if k ∈ keys then none else m.lookup k := by
  induction keys generalizing m with
  | nil => simp
  | cons a keys ih =>
      rw [List.foldl_cons, ih]
      by_cases hmem : k ∈ keys
      · simp [hmem]
      · by_cases heq : k = a
        · subst k
          simp
        · simp [hmem, heq, AList.lookup_erase_ne heq]

end Table
