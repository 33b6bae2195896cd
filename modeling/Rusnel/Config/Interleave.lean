import Mathlib.Data.List.Perm.Basic
import Mathlib.Data.List.Infix
import Rusnel.Config.Client

/-!
# The order of the server's addresses

The client tries the addresses of the server one after the other, so it should
not try all of one family before the first of the other.  The resolver's
addresses are split by family, and the two lists take turns until one of them is
used up.

Main results:

- Theorem {lit}`takeTurns_alternates`: two lists that take turns.
- Theorem {lit}`interleave_order`: nothing is lost, the order in a family is kept,
  and the families alternate while both last.
-/

namespace Rusnel
namespace Config

open Net

/-! ## Taking turns -/

section Turns

variable {α : Type} {family : α → Bool} {primary alternate : List α}

theorem takeTurns_nil_right (l : List α) : takeTurns l [] = l := by
  induction l with
  | nil => rw [takeTurns]
  | cons a l ih => rw [takeTurns, ih]

theorem takeTurns_nil_left (l : List α) : takeTurns [] l = l := by
  induction l with
  | nil => rw [takeTurns]
  | cons b l ih => rw [takeTurns, ih]

theorem perm_takeTurns (primary alternate : List α) :
    (takeTurns primary alternate).Perm (primary ++ alternate) := by
  induction primary generalizing alternate with
  | nil => rw [takeTurns_nil_left, List.nil_append]
  | cons a primary ih =>
      cases alternate with
      | nil => rw [takeTurns_nil_right, List.append_nil]
      | cons b alternate =>
          rw [takeTurns, List.cons_append]
          exact .cons a ((List.Perm.cons b (ih alternate)).trans List.perm_middle.symm)

/-- A list without members of a family takes turns without changing that family. -/
theorem filter_takeTurns_left (halternate : ∀ b ∈ alternate, family b = false) :
    (takeTurns primary alternate).filter family = primary.filter family := by
  induction primary generalizing alternate with
  | nil =>
      rw [takeTurns_nil_left, List.filter_nil, List.filter_eq_nil_iff]
      simpa using halternate
  | cons a primary ih =>
      cases alternate with
      | nil => rw [takeTurns_nil_right]
      | cons b alternate =>
          obtain ⟨hb, hrest⟩ := List.forall_mem_cons.mp halternate
          simp only [takeTurns, List.filter_cons, hb, ih hrest]
          rfl

theorem filter_takeTurns_right (hprimary : ∀ a ∈ primary, family a = false) :
    (takeTurns primary alternate).filter family = alternate.filter family := by
  induction primary generalizing alternate with
  | nil => rw [takeTurns_nil_left]
  | cons a primary ih =>
      obtain ⟨ha, hrest⟩ := List.forall_mem_cons.mp hprimary
      cases alternate with
      | nil =>
          rw [takeTurns_nil_right, List.filter_nil, List.filter_eq_nil_iff]
          simpa using hprimary
      | cons b alternate =>
          simp only [takeTurns, List.filter_cons, ha, ih hrest]
          rfl

/-- As many of the one family as of the other, up to one. -/
def Balanced (family : α → Bool) (l : List α) : Prop :=
  l.countP family ≤ l.countP (!family ·) + 1 ∧ l.countP (!family ·) ≤ l.countP family + 1

/-- One of each family more keeps the balance. -/
theorem Balanced.pair {l : List α} (h : Balanced family l) {a b : α} (ha : family a = true)
    (hb : family b = false) : Balanced family (a :: b :: l) := by
  simp only [Balanced, List.countP_cons, ha, hb] at h ⊢
  simpa using h

theorem balanced_nil : Balanced family [] := by
  simp [Balanced]

theorem balanced_single (a : α) : Balanced family [a] := by
  cases ha : family a <;> simp [Balanced, ha]

/-- Every part of a list from its start is balanced until only one family is left. -/
def Alternates (family : α → Bool) (l : List α) : Prop :=
  ∃ turns rest, l = turns ++ rest ∧ (∀ part, part <+: turns → Balanced family part) ∧
    ∃ b, ∀ a ∈ rest, family a = b

theorem alternates_single {l : List α} {b : Bool} (h : ∀ a ∈ l, family a = b) :
    Alternates family l := by
  refine ⟨[], l, rfl, fun part hpart => ?_, b, h⟩
  rw [List.prefix_nil.mp hpart]
  exact balanced_nil

theorem takeTurns_alternates (hprimary : ∀ a ∈ primary, family a = true)
    (halternate : ∀ b ∈ alternate, family b = false) :
    Alternates family (takeTurns primary alternate) := by
  induction primary generalizing alternate with
  | nil =>
      rw [takeTurns_nil_left]
      exact alternates_single halternate
  | cons a primary ih =>
      cases alternate with
      | nil =>
          rw [takeTurns_nil_right]
          exact alternates_single hprimary
      | cons b alternate =>
          obtain ⟨ha, hprimary⟩ := List.forall_mem_cons.mp hprimary
          obtain ⟨hb, halternate⟩ := List.forall_mem_cons.mp halternate
          obtain ⟨turns, rest, hturns, hbalanced, hrest⟩ := ih hprimary halternate
          refine ⟨a :: b :: turns, rest, by rw [takeTurns, hturns]; rfl, fun part hpart => ?_,
            hrest⟩
          -- The part ends before, within or behind the first pair.
          rcases List.prefix_cons_iff.mp hpart with rfl | ⟨tail, rfl, htail⟩
          · exact balanced_nil
          · rcases List.prefix_cons_iff.mp htail with rfl | ⟨more, rfl, hmore⟩
            · exact balanced_single a
            · exact (hbalanced more hmore).pair ha hb

end Turns

/-! ## The addresses -/

/-- With both families the IPv6 addresses take the first turn; otherwise nothing
changes. -/
theorem interleave_cases (resolved : List SocketAddr) :
    (resolved.filter isIpv6 ≠ [] ∧ resolved.filter (!isIpv6 ·) ≠ [] ∧
      interleaveAddressFamilies resolved
        = takeTurns (resolved.filter isIpv6) (resolved.filter (!isIpv6 ·))) ∨
    (∃ family, ∀ a ∈ resolved, isIpv6 a = family) ∧
      interleaveAddressFamilies resolved = resolved := by
  unfold interleaveAddressFamilies
  by_cases hv6 : resolved.filter isIpv6 = []
  · right
    have hall : ∀ a ∈ resolved, isIpv6 a = false := by simpa using hv6
    refine ⟨⟨false, hall⟩, ?_⟩
    simp only [hv6, ne_eq, not_true_eq_false, false_and, if_false, takeTurns_nil_right]
    rw [List.filter_eq_self]
    simpa using hall
  · by_cases hv4 : resolved.filter (!isIpv6 ·) = []
    · right
      have hall : ∀ a ∈ resolved, isIpv6 a = true := by simpa using hv4
      refine ⟨⟨true, hall⟩, ?_⟩
      simp only [hv4, ne_eq, not_true_eq_false, and_false, if_false, takeTurns_nil_left]
      rw [List.filter_eq_self]
      exact hall
    · left
      exact ⟨hv6, hv4, if_pos ⟨hv6, hv4⟩⟩

theorem perm_interleave (resolved : List SocketAddr) :
    (interleaveAddressFamilies resolved).Perm resolved := by
  rcases interleave_cases resolved with ⟨-, -, hout⟩ | ⟨-, hout⟩
  · rw [hout]
    exact (perm_takeTurns _ _).trans (List.filter_append_perm isIpv6 resolved)
  · rw [hout]

/-- The first turn of each family. -/
theorem takeTurns_first {primary alternate : List SocketAddr}
    (hprimary : ∀ a ∈ primary, isIpv6 a = true) (halternate : ∀ b ∈ alternate, isIpv6 b = false)
    (hne : primary ≠ []) (hne' : alternate ≠ []) :
    ∃ a b rest, takeTurns primary alternate = a :: b :: rest ∧ isIpv6 a ≠ isIpv6 b := by
  obtain ⟨a, primary, rfl⟩ := List.exists_cons_of_ne_nil hne
  obtain ⟨b, alternate, rfl⟩ := List.exists_cons_of_ne_nil hne'
  refine ⟨a, b, takeTurns primary alternate, by rw [takeTurns], ?_⟩
  rw [hprimary a List.mem_cons_self, halternate b List.mem_cons_self]
  decide

/-- The addresses are those of the resolver, in the order of each family.  The
families alternate until one is used up; if there are two, the first two addresses
are of different ones, and if there is one, nothing changes. -/
theorem interleave_order (resolved : List SocketAddr) :
    let out := interleaveAddressFamilies resolved
    out.Perm resolved ∧
    out.filter isIpv6 = resolved.filter isIpv6 ∧
    out.filter (!isIpv6 ·) = resolved.filter (!isIpv6 ·) ∧
    Alternates isIpv6 out ∧
    ((∃ a ∈ resolved, isIpv6 a = true) → (∃ b ∈ resolved, isIpv6 b = false) →
      ∃ a b rest, out = a :: b :: rest ∧ isIpv6 a ≠ isIpv6 b) ∧
    ∀ family, (∀ a ∈ resolved, isIpv6 a = family) → out = resolved := by
  intro out
  have hv6 : ∀ a ∈ resolved.filter isIpv6, isIpv6 a = true := fun a ha => List.of_mem_filter ha
  have hv4 : ∀ b ∈ resolved.filter (!isIpv6 ·), isIpv6 b = false := by
    intro b hb
    simpa using List.of_mem_filter hb
  refine ⟨perm_interleave resolved, ?_⟩
  rcases interleave_cases resolved with ⟨hne, hne', hout⟩ | ⟨⟨family, hall⟩, hout⟩
  · have hsame : out = takeTurns (resolved.filter isIpv6) (resolved.filter (!isIpv6 ·)) := hout
    rw [hsame]
    refine ⟨?_, ?_, takeTurns_alternates hv6 hv4, fun _ _ => takeTurns_first hv6 hv4 hne hne',
      fun family hall => ?_⟩
    · rw [filter_takeTurns_left hv4, List.filter_eq_self]
      exact hv6
    · rw [filter_takeTurns_right (by simp), List.filter_eq_self]
      simp
    · -- One family only, and yet both lists have a member.
      obtain ⟨a, ha⟩ := List.exists_mem_of_ne_nil _ hne
      obtain ⟨b, hb⟩ := List.exists_mem_of_ne_nil _ hne'
      have hfamily : isIpv6 a = isIpv6 b :=
        (hall a (List.mem_of_mem_filter ha)).trans (hall b (List.mem_of_mem_filter hb)).symm
      rw [hv6 a ha, hv4 b hb] at hfamily
      cases hfamily
  · have hsame : out = resolved := hout
    rw [hsame]
    refine ⟨rfl, rfl, alternates_single hall, ?_, fun _ _ => rfl⟩
    rintro ⟨a, ha, hisV6⟩ ⟨b, hb, hisV4⟩
    have hfamily : isIpv6 a = isIpv6 b := (hall a ha).trans (hall b hb).symm
    rw [hisV6, hisV4] at hfamily
    cases hfamily

end Config
end Rusnel
