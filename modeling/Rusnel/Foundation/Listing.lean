import Mathlib.Data.List.AList
import Mathlib.Data.List.Sort

/-!
# Listings of finite maps

A finite map is listed as the values it holds, and a listing is sorted before it
is shown.  Several maps over the same entries may be kept side by side: one of all
entries, and one for the entries of each owner.

Main results:

- Theorem {lit}`values_filter_perm`: a map of some of the entries of another lists
  what is left of the other's listing.
- Theorem {lit}`values_filter_perm_flatMap`: the listings of the parts, one after
  the other, are what is left of the listing of the whole.
- Theorem {lit}`filter_insertionSort`: what is left of a sorted listing is the
  sorted listing of what is left, also by another order that agrees with the first
  on it.
-/

namespace Listing

universe u v

variable {κ : Type u} {α : Type v}

/-- The values of a map. -/
def values (m : AList fun _ : κ => α) : List α :=
  m.entries.map fun e => e.2

section Values

variable [DecidableEq κ] {m m' : AList fun _ : κ => α}

theorem mem_values {a : α} : a ∈ values m ↔ ∃ k, m.lookup k = some a := by
  simp only [values, List.mem_map]
  constructor
  · rintro ⟨e, he, rfl⟩
    exact ⟨e.1, AList.mem_lookup_iff.mpr he⟩
  · rintro ⟨k, hk⟩
    exact ⟨⟨k, a⟩, AList.mem_lookup_iff.mp hk, rfl⟩

/-- Values that know their keys are listed once. -/
theorem values_nodup {key : α → κ} (h : ∀ k a, m.lookup k = some a → key a = k) :
    ((values m).map key).Nodup := by
  have hkeys : (values m).map key = m.keys := by
    rw [values, List.map_map]
    apply List.map_congr_left
    intro e he
    exact h _ _ (AList.mem_lookup_iff.mpr he)
  rw [hkeys]
  exact m.keys_nodup

/-- A map that holds some of the entries of another lists these. -/
theorem values_filter_perm {p : α → Bool}
    (h : ∀ k a, m'.lookup k = some a ↔ m.lookup k = some a ∧ p a = true) :
    ((values m).filter p).Perm (values m') := by
  have hentries : (m.entries.filter fun e => p e.2).Perm m'.entries := by
    refine (List.perm_ext_iff_of_nodup (m.nodupKeys.nodup.filter _) m'.nodupKeys.nodup).mpr ?_
    rintro ⟨k, a⟩
    rw [List.mem_filter, ← AList.mem_lookup_iff, ← AList.mem_lookup_iff]
    exact (h k a).symm
  have hfilter := hentries.map fun e => e.2
  rwa [values, List.filter_map]

/-- The entries of a whole are spread over parts; the listings of some of the parts
make up what is left of the listing of the whole. -/
theorem values_filter_perm_flatMap {β : Type*} {key : α → κ} {p : α → Bool} {parts : List β}
    {part : β → AList fun _ : κ => α} (hkey : ∀ k a, m.lookup k = some a → key a = k)
    (hparts : parts.Pairwise fun b b' => ∀ k a, (part b).lookup k = some a →
      (part b').lookup k ≠ some a)
    (h : ∀ k a, m.lookup k = some a ∧ p a = true ↔ ∃ b ∈ parts, (part b).lookup k = some a) :
    ((values m).filter p).Perm (parts.flatMap fun b => values (part b)) := by
  have hpart : ∀ b ∈ parts, ∀ k a, (part b).lookup k = some a → key a = k :=
    fun b hb k a ha => hkey k a ((h k a).mpr ⟨b, hb, ha⟩).1
  have hnodup : (parts.flatMap fun b => values (part b)).Nodup := by
    refine List.nodup_flatMap.mpr
      ⟨fun b hb => (values_nodup (hpart b hb)).of_map, hparts.imp_of_mem ?_⟩
    intro b b' hb hb' hne a ha ha'
    obtain ⟨k, hk⟩ := mem_values.mp ha
    obtain ⟨k', hk'⟩ := mem_values.mp ha'
    -- An entry listed twice has one key.
    have hsame : k = k' := (hpart b hb k a hk).symm.trans (hpart b' hb' k' a hk')
    exact hne k a hk (hsame ▸ hk')
  refine (List.perm_ext_iff_of_nodup ((values_nodup hkey).of_map.filter _) hnodup).mpr fun a => ?_
  simp only [List.mem_filter, List.mem_flatMap, mem_values]
  constructor
  · rintro ⟨⟨k, hk⟩, hp⟩
    obtain ⟨b, hb, ha⟩ := (h k a).mp ⟨hk, hp⟩
    exact ⟨b, hb, k, ha⟩
  · rintro ⟨b, hb, k, ha⟩
    obtain ⟨hk, hp⟩ := (h k a).mpr ⟨b, hb, ha⟩
    exact ⟨⟨k, hk⟩, hp⟩

end Values

section Sorted

variable {r s : α → α → Prop} [DecidableRel r] [DecidableRel s] [Std.Total r] [IsTrans α r]
  [Std.Total s] [IsTrans α s]

/-- What is left of a sorted list is sorted; an order that agrees with the first on
what is left, and tells its items apart, sorts it the same way. -/
theorem filter_insertionSort {p : α → Bool} {l l' : List α} (hperm : (l.filter p).Perm l')
    (hmono : ∀ a ∈ l', ∀ b ∈ l', r a b → s a b)
    (hanti : ∀ a ∈ l', ∀ b ∈ l', s a b → s b a → a = b) :
    (l.insertionSort r).filter p = l'.insertionSort s := by
  have hfilter : ((l.insertionSort r).filter p).Perm l' :=
    ((l.perm_insertionSort r).filter p).trans hperm
  have hsort := l'.perm_insertionSort s
  refine List.Perm.eq_of_pairwise ?_ ?_ (List.pairwise_insertionSort s l')
    (hfilter.trans hsort.symm)
  · intro a b ha hb
    exact hanti a (hfilter.mem_iff.mp ha) b (hsort.mem_iff.mp hb)
  · refine List.Pairwise.imp_of_mem ?_ ((List.pairwise_insertionSort r l).filter p)
    intro a b ha hb
    exact hmono a (hfilter.mem_iff.mp ha) b (hfilter.mem_iff.mp hb)

end Sorted

end Listing
