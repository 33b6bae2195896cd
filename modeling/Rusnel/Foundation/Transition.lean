import Mathlib.Data.List.Induction

/-!
# Labelled partial transitions

A system is a partial step function `σ → α → Option σ`: an action either is not
enabled in a state or leads to exactly one next state.  Every source of
nondeterminism (scheduling, input, failure) is part of the action, so a finite
run is a list of actions and a property of every interleaving is a property of
every list.

Main results:

- Theorem {lit}`run_invariant`: a property kept by each step holds after every
  run.
- Theorem {lit}`throughout_iff_guarded`: when one step keeps a property exactly
  if it meets the guard, a whole run keeps the property exactly if it is
  guarded.
- Theorem {lit}`run_invariant_within`, {lit}`guarded_invariant_within`,
  {lit}`throughout_iff_guarded_within`: the same for runs within a bound that no
  step restores.
- Theorem {lit}`guarded_or_trapped`: the end of a run tells whether it was
  guarded.
- Theorem {lit}`run_induction`: induction on a run by its last step.
- Theorem {lit}`run_history`: a fact established by some step is traced back
  to the step of the run that established it.
- Theorem {lit}`record_invariant`: a relation between the state and what an
  observer notes, kept by each step, holds after every run.
-/

namespace Transition

universe u v

variable {σ : Type u} {α : Type v} {step : σ → α → Option σ}

/-- Execute a list of actions; the run fails at the first disabled action. -/
def run (step : σ → α → Option σ) : σ → List α → Option σ
  | s, [] => some s
  | s, a :: as => (step s a).bind fun next => run step next as

@[simp]
theorem run_nil (s : σ) : run step s [] = some s :=
  rfl

@[simp]
theorem run_cons (s : σ) (a : α) (as : List α) :
    run step s (a :: as) = (step s a).bind fun next => run step next as :=
  rfl

variable {as : List α} {s t : σ}

theorem run_cons_eq_some {a : α} :
    run step s (a :: as) = some t ↔
      ∃ next, step s a = some next ∧ run step next as = some t := by
  simp [Option.bind_eq_some_iff]

/-- Split a run at the boundary of a concatenation. -/
theorem run_append (s : σ) (as bs : List α) :
    run step s (as ++ bs) = (run step s as).bind fun mid => run step mid bs := by
  induction as generalizing s with
  | nil => simp
  | cons a as ih =>
      simp only [List.cons_append, run_cons]
      cases hstep : step s a with
      | none => simp
      | some next => simpa using ih next

theorem run_append_eq_some {as bs : List α} :
    run step s (as ++ bs) = some t ↔
      ∃ mid, run step s as = some mid ∧ run step mid bs = some t := by
  rw [run_append, Option.bind_eq_some_iff]

/-- Expose the last step of a run. -/
theorem run_concat_eq_some {a : α} :
    run step s (as ++ [a]) = some t ↔
      ∃ mid, run step s as = some mid ∧ step mid a = some t := by
  rw [run_append_eq_some]
  constructor
  · rintro ⟨mid, hrun, hlast⟩
    obtain ⟨next, hstep, hnil⟩ := run_cons_eq_some.mp hlast
    cases hnil
    exact ⟨mid, hrun, hstep⟩
  · rintro ⟨mid, hrun, hstep⟩
    exact ⟨mid, hrun, run_cons_eq_some.mpr ⟨t, hstep, rfl⟩⟩

/-- The runs of a system whose steps are those of another, seen through a map. -/
theorem run_map {τ : Type*} {shown : τ → α → Option τ} {f : σ → τ}
    (hstep : ∀ s a, shown (f s) a = (step s a).map f) (s : σ) (as : List α) :
    run shown (f s) as = (run step s as).map f := by
  induction as generalizing s with
  | nil => rfl
  | cons a as ih =>
      rw [run_cons, run_cons, hstep]
      cases step s a with
      | none => rfl
      | some next => exact ih next

/-- A property kept by every step holds at the end of every run. -/
theorem run_invariant {P : σ → Prop} (hstep : ∀ s a t, P s → step s a = some t → P t) (hs : P s)
    (hrun : run step s as = some t) : P t := by
  induction as generalizing s with
  | nil =>
      cases hrun
      exact hs
  | cons a as ih =>
      obtain ⟨next, hnext, hrest⟩ := run_cons_eq_some.mp hrun
      exact ih (hstep s a next hs hnext) hrest

/-! ## Guarded runs -/

/-- Every action of the run meets `G` in the state it is taken from. -/
def Guarded (step : σ → α → Option σ) (G : σ → α → Prop) : σ → List α → Prop
  | _, [] => True
  | s, a :: as => G s a ∧ ∀ next, step s a = some next → Guarded step G next as

instance decidableGuarded {G : σ → α → Prop} [∀ s a, Decidable (G s a)] :
    ∀ (s : σ) (as : List α), Decidable (Guarded step G s as)
  | _, [] => isTrue trivial
  | s, a :: as =>
      match hstep : step s a with
      | none => decidable_of_iff (G s a) (by simp [Guarded, hstep])
      | some next =>
          have : Decidable (Guarded step G next as) := decidableGuarded next as
          decidable_of_iff (G s a ∧ Guarded step G next as) (by simp [Guarded, hstep])

/-- Every state the run passes through, first and last included, satisfies `P`. -/
def Throughout (step : σ → α → Option σ) (P : σ → Prop) : σ → List α → Prop
  | s, [] => P s
  | s, a :: as => P s ∧ ∀ next, step s a = some next → Throughout step P next as

theorem Throughout.head {P : σ → Prop} (h : Throughout step P s as) : P s := by
  cases as with
  | nil => exact h
  | cons a as => exact h.1

/-! ### Runs within a bound

A bound that no step restores, such as a counter that has not wrapped, holds all
along a run that ends within it.  An invariant then needs to be kept only by
steps that stay within the bound. -/

section Within

variable {B : σ → Prop} (hback : ∀ s a t, step s a = some t → B t → B s)
include hback

/-- A run that ends within the bound started within it. -/
theorem bound_of_run (hrun : run step s as = some t) (hB : B t) : B s := by
  induction as generalizing s with
  | nil =>
      cases hrun
      exact hB
  | cons a as ih =>
      obtain ⟨next, hnext, hrest⟩ := run_cons_eq_some.mp hrun
      exact hback s a next hnext (ih hrest)

/-- A property kept by every step within the bound holds at the end of every run
within it. -/
theorem run_invariant_within {P : σ → Prop} (hstep : ∀ s a t, P s → B t → step s a = some t → P t)
    (hs : P s) (hrun : run step s as = some t) (hB : B t) : P t := by
  refine run_invariant (P := fun s => B s → P s) ?_ (fun _ => hs) hrun hB
  intro s a t hP hnext hB
  exact hstep s a t (hP (hback s a t hnext hB)) hB hnext

/-- A property kept by every guarded step within the bound holds at the end of
every guarded run within it. -/
theorem guarded_invariant_within {G : σ → α → Prop} {P : σ → Prop}
    (hstep : ∀ s a t, P s → G s a → B t → step s a = some t → P t) (hs : P s)
    (hguarded : Guarded step G s as) (hrun : run step s as = some t) (hB : B t) : P t := by
  induction as generalizing s with
  | nil =>
      cases hrun
      exact hs
  | cons a as ih =>
      obtain ⟨next, hnext, hrest⟩ := run_cons_eq_some.mp hrun
      have hbound := bound_of_run hback hrest hB
      exact ih (hstep s a next hs hguarded.1 hbound hnext) (hguarded.2 next hnext) hrest

/-- If, along an invariant `I` and within the bound, a step from a `P` state
reaches a `P` state exactly when it meets `G`, then an enabled run stays in `P`
exactly when it is guarded by `G`. -/
theorem throughout_iff_guarded_within {G : σ → α → Prop} {P I : σ → Prop}
    (hinv : ∀ s a t, I s → B t → step s a = some t → I t)
    (hiff : ∀ s a t, I s → P s → B t → step s a = some t → (P t ↔ G s a)) (hI : I s) (hP : P s)
    (hrun : run step s as = some t) (hB : B t) : Throughout step P s as ↔ Guarded step G s as := by
  induction as generalizing s with
  | nil => exact ⟨fun _ => trivial, fun _ => hP⟩
  | cons a as ih =>
      obtain ⟨next, hnext, hrest⟩ := run_cons_eq_some.mp hrun
      have hbound := bound_of_run hback hrest hB
      have hI' := hinv s a next hI hbound hnext
      have hone := hiff s a next hI hP hbound hnext
      constructor
      · rintro ⟨_, hall⟩
        have hP' := (hall next hnext).head
        refine ⟨hone.mp hP', fun other hother => ?_⟩
        cases hnext.symm.trans hother
        exact (ih hI' hP' hrest).mp (hall next hnext)
      · rintro ⟨hG, hall⟩
        have hP' := hone.mpr hG
        refine ⟨hP, fun other hother => ?_⟩
        cases hnext.symm.trans hother
        exact (ih hI' hP' hrest).mpr (hall next hnext)

end Within

/-- If, along an invariant `I`, a step from a `P` state reaches a `P` state
exactly when it meets `G`, then an enabled run stays in `P` exactly when it is
guarded by `G`. -/
theorem throughout_iff_guarded {G : σ → α → Prop} {P I : σ → Prop}
    (hinv : ∀ s a t, I s → step s a = some t → I t)
    (hiff : ∀ s a t, I s → P s → step s a = some t → (P t ↔ G s a)) (hI : I s) (hP : P s)
    (hrun : run step s as = some t) : Throughout step P s as ↔ Guarded step G s as :=
  throughout_iff_guarded_within (B := fun _ => True) (fun _ _ _ _ _ => trivial)
    (fun s a t hs _ hstep => hinv s a t hs hstep)
    (fun s a t hs hPs _ hstep => hiff s a t hs hPs hstep) hI hP hrun trivial

/-- If a guarded step keeps `P`, an unguarded one leads to `T`, and `T` is never
left, then the end of a run tells whether the run was guarded. -/
theorem guarded_or_trapped {G : σ → α → Prop} {P T : σ → Prop}
    (hgood : ∀ s a t, P s → G s a → step s a = some t → P t)
    (hbad : ∀ s a t, P s → ¬G s a → step s a = some t → T t)
    (htrap : ∀ s a t, T s → step s a = some t → T t) (hs : P s)
    (hrun : run step s as = some t) :
    (Guarded step G s as ∧ P t) ∨ (¬Guarded step G s as ∧ T t) := by
  induction as generalizing s with
  | nil =>
      cases hrun
      exact .inl ⟨trivial, hs⟩
  | cons a as ih =>
      obtain ⟨next, hnext, hrest⟩ := run_cons_eq_some.mp hrun
      by_cases hG : G s a
      · rcases ih (hgood s a next hs hG hnext) hrest with ⟨hguarded, ht⟩ | ⟨hunguarded, ht⟩
        · refine .inl ⟨⟨hG, fun other hother => ?_⟩, ht⟩
          cases hnext.symm.trans hother
          exact hguarded
        · exact .inr ⟨fun hguarded => hunguarded (hguarded.2 next hnext), ht⟩
      · refine .inr ⟨fun hguarded => hG hguarded.1, ?_⟩
        exact run_invariant htrap (hbad s a next hs hG hnext) hrest

/-! ## Tracing a fact back to the step that established it -/

/-- `Occurred step s as E`: some step of the run, taken in state `mid` by
action `a`, satisfies `E mid a`. -/
def Occurred (step : σ → α → Option σ) (s : σ) (as : List α)
    (E : σ → α → Prop) : Prop :=
  ∃ before a after mid, as = before ++ a :: after ∧
    run step s before = some mid ∧ E mid a

/-- A run extended by one step has the events of the run and of that step. -/
theorem occurred_concat_iff {s mid : σ} {a : α} {E : σ → α → Prop}
    (hrun : run step s as = some mid) :
    Occurred step s (as ++ [a]) E ↔ Occurred step s as E ∨ E mid a := by
  constructor
  · rintro ⟨before, b, after, mid', hsplit, hbefore, hE⟩
    rcases List.eq_nil_or_concat after with rfl | ⟨after, last, rfl⟩
    · obtain ⟨rfl, hlast⟩ := List.append_inj' hsplit rfl
      cases hlast
      cases hrun.symm.trans hbefore
      exact .inr hE
    · left
      have hsplit' : as ++ [a] = (before ++ b :: after) ++ [last] := by simpa using hsplit
      obtain ⟨rfl, _⟩ := List.append_inj' hsplit' rfl
      exact ⟨before, b, after, mid', rfl, hbefore, hE⟩
  · rintro (⟨before, b, after, mid', rfl, hbefore, hE⟩ | hE)
    · exact ⟨before, b, after ++ [a], mid', by simp, hbefore, hE⟩
    · exact ⟨as, a, [], mid, rfl, hrun, hE⟩

theorem not_occurred_nil {E : σ → α → Prop} : ¬Occurred step s [] E := by
  rintro ⟨before, a, after, mid, hsplit, _⟩
  simp at hsplit

/-- Induction on a run by its last step, for properties of the run so far. -/
theorem run_induction {P : List α → σ → Prop} (hnil : P [] s)
    (hconcat : ∀ as a mid t, run step s as = some mid → P as mid → step mid a = some t →
      P (as ++ [a]) t) (hrun : run step s as = some t) : P as t := by
  induction as using List.reverseRecOn generalizing t with
  | nil =>
      cases hrun
      exact hnil
  | append_singleton as a ih =>
      obtain ⟨mid, hmid, hlast⟩ := run_concat_eq_some.mp hrun
      exact hconcat as a mid t hmid (ih hmid) hlast

/-- If each step either keeps a fact `F x` or establishes it by an event
`E x`, then a fact that holds at the end of a run was established on the way. -/
theorem run_history {ι : Type*} {F : ι → σ → Prop} {E : ι → σ → α → Prop} (hinit : ∀ x, ¬F x s)
    (hstep : ∀ x mid a t, step mid a = some t → F x t → F x mid ∨ E x mid a)
    (hrun : run step s as = some t) (x : ι) (hF : F x t) : Occurred step s as (E x) := by
  refine run_induction (P := fun as t => F x t → Occurred step s as (E x))
    (fun hF => absurd hF (hinit x)) ?_ hrun hF
  intro as a mid t hmid ih hlast hF
  rw [occurred_concat_iff hmid]
  rcases hstep x mid a t hlast hF with hkept | hnew
  · exact .inl (ih hkept)
  · exact .inr hnew

/-! ## Observers -/

variable {ρ : Type*} {note : ρ → α → σ → ρ}

/-- What an observer has noted after a run.  It is told each step by its action
and the state it leads to, and cannot disturb the run. -/
def record (step : σ → α → Option σ) (note : ρ → α → σ → ρ) : σ → ρ → List α → ρ
  | _, r, [] => r
  | s, r, a :: as =>
      match step s a with
      | some t => record step note t (note r a t) as
      | none => r

theorem record_cons {a : α} (hstep : step s a = some t) (r : ρ) (as : List α) :
    record step note s r (a :: as) = record step note t (note r a t) as := by
  simp only [record, hstep]

theorem record_append (hrun : run step s as = some t) (r : ρ) (bs : List α) :
    record step note s r (as ++ bs) = record step note t (record step note s r as) bs := by
  induction as generalizing s r with
  | nil =>
      cases hrun
      rfl
  | cons a as ih =>
      obtain ⟨next, hnext, hrest⟩ := run_cons_eq_some.mp hrun
      rw [List.cons_append, record_cons hnext, record_cons hnext, ih hrest]

/-- A relation between state and record that each step keeps holds after a run. -/
theorem record_invariant {P : σ → ρ → Prop}
    (hstep : ∀ s r a t, P s r → step s a = some t → P t (note r a t)) {r : ρ} (hs : P s r)
    (hrun : run step s as = some t) : P t (record step note s r as) := by
  induction as generalizing s r with
  | nil =>
      cases hrun
      exact hs
  | cons a as ih =>
      obtain ⟨next, hnext, hrest⟩ := run_cons_eq_some.mp hrun
      rw [record_cons hnext]
      exact ih (hstep s r a next hs hnext) hrest

end Transition
