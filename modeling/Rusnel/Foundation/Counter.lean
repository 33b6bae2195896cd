import Mathlib.Algebra.Order.BigOperators.Group.List
import Mathlib.Algebra.Order.Ring.Nat
import Mathlib.Data.List.Perm.Subperm
import Mathlib.Data.UInt
import Rusnel.Foundation.Indexed

/-!
# 64-bit counters

A counter that starts at zero and hands out the incremented value.  As long as
it has not wrapped, the ids that are in use are distinct and a new one is
fresh.  Likewise a sum of counters is the sum of their values as long as that
is below the bound.

Main results:

- Theorem {lit}`Drawn.draw`: drawing another id keeps the ids distinct.
- Theorem {lit}`toNat_sum`: a sum that does not wrap.
-/

namespace Counter

/-- The counter stands at `value` after `n` draws, and the ids in use are
distinct ones among those drawn. -/
structure Drawn (value : UInt64) (n : Nat) (ids : List UInt64) : Prop where
  count : value.toNat = n
  bounded : ∀ id ∈ ids, id.toNat ≤ n
  nodup : ids.Nodup

theorem drawn_zero : Drawn 0 0 [] :=
  ⟨rfl, by simp, List.nodup_nil⟩

variable {value : UInt64} {n : Nat} {ids ids' : List UInt64}

/-- The counter steps on while it does not wrap. -/
theorem Drawn.toNat_succ (h : Drawn value n ids) (hlt : n + 1 < 2 ^ 64) :
    (value + 1).toNat = n + 1 := by
  have hcount := h.count
  rw [UInt64.toNat_add]
  simp only [UInt64.toNat_one]
  omega

/-- The next id is not in use. -/
theorem Drawn.fresh (h : Drawn value n ids) (hlt : n + 1 < 2 ^ 64) : value + 1 ∉ ids := by
  intro hmem
  have hle := h.bounded _ hmem
  rw [h.toNat_succ hlt] at hle
  omega

/-- Drawing an id keeps the ids in use distinct. -/
theorem Drawn.draw (h : Drawn value n ids) (hlt : n + 1 < 2 ^ 64)
    (hperm : ids'.Perm ((value + 1) :: ids)) : Drawn (value + 1) (n + 1) ids' where
  count := h.toNat_succ hlt
  bounded id hid := by
    rcases List.mem_cons.mp (hperm.mem_iff.mp hid) with rfl | hold
    · exact Nat.le_of_eq (h.toNat_succ hlt)
    · have hle := h.bounded id hold
      omega
  nodup := hperm.nodup_iff.mpr (List.nodup_cons.mpr ⟨h.fresh hlt, h.nodup⟩)

/-- Ids may go out of use. -/
theorem Drawn.sublist (h : Drawn value n ids) (hsub : ids'.Sublist ids) :
    Drawn value n ids' :=
  ⟨h.count, fun id hid => h.bounded id (hsub.subset hid), h.nodup.sublist hsub⟩

/-! ## Sums -/

theorem toNat_add {a b : UInt64} (h : a.toNat + b.toNat < 2 ^ 64) :
    (a + b).toNat = a.toNat + b.toNat := by
  rw [UInt64.toNat_add, Nat.mod_eq_of_lt h]

/-- A sum that wraps is only smaller. -/
theorem toNat_add_le (a b : UInt64) : (a + b).toNat ≤ a.toNat + b.toNat := by
  rw [UInt64.toNat_add]
  exact Nat.mod_le _ _

/-- A sum of counters has the sum of their values, if that does not wrap. -/
theorem toNat_sum {values : List UInt64} (h : (values.map UInt64.toNat).sum < 2 ^ 64) :
    values.sum.toNat = (values.map UInt64.toNat).sum := by
  induction values with
  | nil => rfl
  | cons value values ih =>
      rw [List.map_cons, List.sum_cons] at h ⊢
      have hrest := ih (by omega)
      rw [List.sum_cons, toNat_add (by omega), hrest]

/-- The share of one item in a sum over items with distinct keys. -/
theorem sum_map_split {α κ : Type*} [DecidableEq κ] (key : α → κ) {items : List α} {a : α}
    (hnodup : (items.map key).Nodup) (ha : a ∈ items) (f : α → Nat) :
    (items.map f).sum = f a + ((items.filter fun b => key b != key a).map f).sum := by
  obtain ⟨before, after, rfl⟩ := List.append_of_mem ha
  simp only [List.map_append, List.map_cons, List.nodup_append, List.nodup_cons] at hnodup
  have hbefore : (before.filter fun b => key b != key a) = before := by
    rw [List.filter_eq_self]
    intro b hb
    simpa using hnodup.2.2 _ (List.mem_map_of_mem hb) _ List.mem_cons_self
  have hafter : (after.filter fun b => key b != key a) = after := by
    rw [List.filter_eq_self]
    intro b hb
    have hne : key b ≠ key a := fun heq => hnodup.2.1.1 (heq ▸ List.mem_map_of_mem hb)
    simpa using hne
  simp only [List.filter_append, List.filter_cons, hbefore, hafter, bne_self_eq_false,
    Bool.false_eq_true, if_false, List.map_append, List.map_cons, List.sum_append, List.sum_cons]
  omega

/-- Changing the value of one item changes the sum by the difference. -/
theorem sum_map_change {α κ : Type*} [DecidableEq κ] (key : α → κ) {items : List α} {a : α}
    (hnodup : (items.map key).Nodup) (ha : a ∈ items) {f g : α → Nat}
    (hothers : ∀ b ∈ items, key b ≠ key a → f b = g b) :
    (items.map f).sum + g a = (items.map g).sum + f a := by
  have hsame : ((items.filter fun b => key b != key a).map f)
      = (items.filter fun b => key b != key a).map g := by
    apply List.map_congr_left
    intro b hb
    obtain ⟨hmem, hne⟩ := List.mem_filter.mp hb
    exact hothers b hmem (by simpa using hne)
  rw [sum_map_split key hnodup ha f, sum_map_split key hnodup ha g, hsame]
  omega

/-- Replacing one component changes the sum by the difference. -/
theorem sum_map_set {α : Type*} {items : List α} {k : Nat} {old : α}
    (h : items[k]? = some old) (new : α) (f : α → Nat) :
    ((items.set k new).map f).sum + f old = (items.map f).sum + f new := by
  obtain ⟨before, after, hitems, hset⟩ := Indexed.split_of_getElem? h
  rw [hset new, hitems]
  simp only [List.map_append, List.map_cons, List.sum_append, List.sum_cons]
  omega

/-- A sum over some of the items is at most the sum over all. -/
theorem sum_map_le_of_subset {α : Type*} {items all : List α} (hnodup : items.Nodup)
    (hsub : items ⊆ all) (f : α → Nat) : (items.map f).sum ≤ (all.map f).sum := by
  obtain ⟨mid, hperm, hmid⟩ := List.subperm_of_subset hnodup hsub
  calc (items.map f).sum = (mid.map f).sum := (hperm.symm.map f).sum_eq
    _ ≤ (all.map f).sum := (hmid.map f).sum_le_sum fun _ _ => Nat.zero_le _

/-- Sums over disjoint parts of the items. -/
theorem sum_ite_add_le {α : Type*} (items : List α) {P Q R : α → Prop} [DecidablePred P]
    [DecidablePred Q] [DecidablePred R] (f : α → Nat) (hP : ∀ a ∈ items, P a → R a)
    (hQ : ∀ a ∈ items, Q a → R a) (hdisjoint : ∀ a ∈ items, P a → ¬Q a) :
    (items.map fun a => if P a then f a else 0).sum +
        (items.map fun a => if Q a then f a else 0).sum ≤
      (items.map fun a => if R a then f a else 0).sum := by
  rw [← List.sum_map_add]
  apply List.sum_le_sum
  intro a ha
  have hboth := hdisjoint a ha
  by_cases hPa : P a
  · simp [hPa, hP a ha hPa, hboth hPa]
  · by_cases hQa : Q a
    · simp [hPa, hQa, hQ a ha hQa]
    · simp [hPa, hQa]

/-- Counting items one by one. -/
theorem sum_ite_one {α : Type*} (items : List α) (P : α → Prop) [DecidablePred P] :
    (items.map fun a => if P a then 1 else 0).sum = (items.filter fun a => P a).length := by
  induction items with
  | nil => rfl
  | cons a items ih =>
      by_cases hP : P a
      · simp [hP, ih]
        omega
      · simp [hP, ih]

end Counter
