import Mathlib.Data.List.Nodup
import Mathlib.Data.List.Perm.Basic

/-!
# Lists of components

A system of many components keeps them in a list and updates one at a time.
These lemmas say what such an update does to lookups by position and to
everything collected over all components.

Main results:

- Theorem {lit}`getElem?_set_cases`: a lookup after an update.
- Theorem {lit}`forall_mem_set`: what every component keeps in its steps.
- Theorem {lit}`flatMap_set_perm`: one component contributing one more item.
- Theorem {lit}`position_unique`: collected items without repetition belong to
  one component each.
-/

namespace Indexed

universe u v

variable {α : Type u} {β : Type v} {l : List α}

/-- A lookup after an update finds the new component or an untouched one. -/
theorem getElem?_set_cases {c k : Nat} {new x : α} (h : (l.set c new)[k]? = some x) :
    (k = c ∧ x = new) ∨ (k ≠ c ∧ l[k]? = some x) := by
  by_cases hk : k = c
  · subst k
    have hlt : c < l.length := by
      obtain ⟨hlt, _⟩ := List.getElem?_eq_some_iff.mp h
      simpa using hlt
    left
    rw [List.getElem?_set_self hlt] at h
    cases h
    exact ⟨rfl, rfl⟩
  · right
    rw [List.getElem?_set_ne (fun heq => hk heq.symm)] at h
    exact ⟨hk, h⟩

variable {c : Nat} {old new : α}

/-- An existing position can be looked up after it was updated. -/
theorem getElem?_set_same (h : l[c]? = some old) : (l.set c new)[c]? = some new :=
  List.getElem?_set_self (List.getElem?_eq_some_iff.mp h).1

/-- Putting back the component that is there changes nothing. -/
theorem set_same (h : l[c]? = some old) : l.set c old = l := by
  obtain ⟨hlt, rfl⟩ := List.getElem?_eq_some_iff.mp h
  exact List.set_getElem_self hlt

/-- Updating one component loses at most that one. -/
theorem eq_or_mem_set {old x : α} (h : l[c]? = some old) (hx : x ∈ l) (new : α) :
    x = old ∨ x ∈ l.set c new := by
  obtain ⟨k, hk⟩ := List.mem_iff_getElem?.mp hx
  by_cases heq : k = c
  · subst heq
    exact .inl (Option.some.inj (hk.symm.trans h))
  · refine .inr (List.mem_of_getElem? ((List.getElem?_set_ne ?_).trans hk))
    exact fun h => heq h.symm

/-- What holds of all components holds after one of them has taken a step that
keeps it. -/
theorem forall_mem_set {P : α → Prop} (h : ∀ x ∈ l, P x) (hc : l[c]? = some old)
    (hnew : P old → P new) : ∀ x ∈ l.set c new, P x := by
  intro x hx
  rcases List.mem_or_eq_of_mem_set hx with hold | rfl
  · exact h x hold
  · exact hnew (h old (List.mem_of_getElem? hc))

/-- What is found in a list is found in every longer one. -/
theorem getElem?_of_prefix {l m : List α} (h : l <+: m) {k : Nat} {x : α}
    (hx : l[k]? = some x) : m[k]? = some x := by
  obtain ⟨rest, rfl⟩ := h
  rwa [List.getElem?_append_left (List.getElem?_eq_some_iff.mp hx).1]

/-- A component appended at the end is found there, the others where they were. -/
theorem getElem?_concat_cases {k : Nat} {new x : α} (h : (l ++ [new])[k]? = some x) :
    (k = l.length ∧ x = new) ∨ l[k]? = some x := by
  rcases Nat.lt_trichotomy k l.length with hlt | heq | hgt
  · right
    rwa [List.getElem?_append_left hlt] at h
  · left
    subst k
    rw [List.getElem?_concat_length] at h
    cases h
    exact ⟨rfl, rfl⟩
  · have hlen := (List.getElem?_eq_some_iff.mp h).1
    rw [List.length_append, List.length_singleton] at hlen
    omega

/-- Split a list at a component. -/
theorem split_of_getElem? (h : l[c]? = some old) :
    ∃ before after, l = before ++ old :: after ∧
      ∀ new, l.set c new = before ++ new :: after := by
  obtain ⟨hlt, hget⟩ := List.getElem?_eq_some_iff.mp h
  refine ⟨l.take c, l.drop (c + 1), ?_, fun new => ?_⟩
  · rw [← hget, List.getElem_cons_drop, List.take_append_drop]
  · rw [List.set_eq_take_append_cons_drop, if_pos hlt]

/-- A component whose image does not change leaves the images alone. -/
theorem map_set_eq (h : l[c]? = some old) (new : α) {f : α → β} (hf : f new = f old) :
    (l.set c new).map f = l.map f := by
  obtain ⟨before, after, hl, hset⟩ := split_of_getElem? h
  rw [hset new, hl]
  simp [hf]

/-- An update moves a count by what it does to the one component. -/
theorem countP_set (h : l[c]? = some old) (new : α) (p : α → Bool) :
    (l.set c new).countP p + (p old).toNat = l.countP p + (p new).toNat := by
  obtain ⟨before, after, hl, hset⟩ := split_of_getElem? h
  rw [hset new, hl, List.countP_append, List.countP_append, List.countP_cons, List.countP_cons]
  cases p old <;> cases p new <;> simp <;> omega

variable {f : α → List β}

/-- A component whose contribution does not change leaves the collection alone. -/
theorem flatMap_set_eq (h : l[c]? = some old) (hf : f new = f old) :
    (l.set c new).flatMap f = l.flatMap f := by
  obtain ⟨before, after, hl, hset⟩ := split_of_getElem? h
  rw [hset new, hl]
  simp [hf]

/-- A component that contributes one more item adds it to the collection. -/
theorem flatMap_set_perm {x : β} (h : l[c]? = some old) (hf : f new = f old ++ [x]) :
    ((l.set c new).flatMap f).Perm (x :: l.flatMap f) := by
  obtain ⟨before, after, hl, hset⟩ := split_of_getElem? h
  rw [hset new, hl]
  simp only [List.flatMap_append, List.flatMap_cons, hf]
  have hmove : (before.flatMap f ++ f old ++ x :: after.flatMap f).Perm
      (x :: (before.flatMap f ++ f old ++ after.flatMap f)) :=
    List.perm_middle
  simpa only [List.append_assoc, List.singleton_append] using hmove

/-- A component that contributes less takes from the collection only. -/
theorem flatMap_set_sublist (h : l[c]? = some old) (hf : (f new).Sublist (f old)) :
    ((l.set c new).flatMap f).Sublist (l.flatMap f) := by
  obtain ⟨before, after, hl, hset⟩ := split_of_getElem? h
  rw [hset new, hl, List.flatMap_append, List.flatMap_append, List.flatMap_cons,
    List.flatMap_cons]
  exact (hf.append_right _).append_left _

/-- In a collection without repetition an item belongs to one component. -/
theorem position_unique (hnodup : (l.flatMap f).Nodup) {i j : Nat} {a b : α} (hi : l[i]? = some a)
    (hj : l[j]? = some b) {x : β} (hxa : x ∈ f a) (hxb : x ∈ f b) : i = j := by
  obtain ⟨hilt, rfl⟩ := List.getElem?_eq_some_iff.mp hi
  obtain ⟨hjlt, rfl⟩ := List.getElem?_eq_some_iff.mp hj
  have hpair := List.pairwise_iff_getElem.mp (List.nodup_flatMap.mp hnodup).2
  rcases Nat.lt_trichotomy i j with hlt | heq | hgt
  · exact absurd hxb (hpair i j hilt hjlt hlt hxa)
  · exact heq
  · exact absurd hxa (hpair j i hjlt hilt hgt hxb)

/-- Components with distinct keys are told apart by their keys. -/
theorem index_unique {f : α → β} (hnodup : (l.map f).Nodup) {i j : Nat} {a b : α}
    (hi : l[i]? = some a) (hj : l[j]? = some b) (hf : f a = f b) : i = j := by
  rw [List.map_eq_flatMap] at hnodup
  exact position_unique hnodup hi hj (List.mem_singleton_self _) (List.mem_singleton.mpr hf)

end Indexed
