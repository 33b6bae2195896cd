import Mathlib.Data.List.Basic
import Rusnel.Foundation.Indexed

/-!
# A race of delayed futures

A set of futures that are awaited together and yield one at a time, in the order
in which they become ready.  Each first sleeps and then waits for a value that
arrives at a time the environment chooses; what has arrived during the sleep is
seen at its end.  Time is a number that only the passing of time changes, so that
a set that is polled late is a run like any other; one that is polled promptly
never lets time pass a future that is ready.

Main results:

- Theorem {lit}`next_eq_some`: what is yielded had arrived and slept.
- Theorem {lit}`Punctual.yields_earliest`: a set that is polled promptly yields the
  future that was ready first.
-/

namespace Race

universe u

variable {α : Type u}

/-! ## Futures -/

/-- A future that sleeps and then awaits a value. -/
structure Future (α : Type u) where
  delay : Nat
  /-- When the value arrived, and the value. -/
  arrival : Option (Nat × α)
  yielded : Bool
deriving DecidableEq, Repr

/-- A future whose value has not arrived. -/
def Future.start (delay : Nat) : Future α where
  delay := delay
  arrival := none
  yielded := false

/-- The value, once it has arrived. -/
def Future.value (f : Future α) : Option α :=
  f.arrival.map Prod.snd

/-- When the future is ready, once this is settled. -/
def Future.readyAt (f : Future α) : Option Nat :=
  f.arrival.map fun a => Nat.max f.delay a.1

/-- The futures awaited together. -/
structure Pending (α : Type u) where
  now : Nat
  futures : List (Future α)
deriving DecidableEq, Repr

namespace Pending

def start (delays : List Nat) : Pending α where
  now := 0
  futures := delays.map Future.start

/-- Time passes. -/
def tick (p : Pending α) (d : Nat) : Pending α :=
  { p with now := p.now + d }

/-- The value of a future arrives. -/
def arrive (p : Pending α) (k : Nat) (value : α) : Option (Pending α) :=
  match p.futures[k]? with
  | some f =>
      match f.arrival with
      | none =>
          some { p with futures := p.futures.set k { f with arrival := some (p.now, value) } }
      | some _ => none
  | none => none

/-- A future that is ready yields its value. -/
def next (p : Pending α) (k : Nat) : Option (α × Pending α) :=
  match p.futures[k]? with
  | some f =>
      match f.arrival with
      | some (time, value) =>
          if f.yielded = false ∧ Nat.max f.delay time ≤ p.now then
            some (value, { p with futures := p.futures.set k { f with yielded := true } })
          else none
      | none => none
  | none => none

/-- All futures have yielded. -/
def done (p : Pending α) : Bool :=
  p.futures.all fun f => f.yielded

variable {p p' : Pending α} {value : α} {k : Nat}

theorem arrive_eq_some :
    p.arrive k value = some p' ↔
      ∃ f, p.futures[k]? = some f ∧ f.arrival = none ∧
        p' = { p with futures := p.futures.set k { f with arrival := some (p.now, value) } } := by
  unfold arrive
  constructor
  · intro h
    split at h
    · rename_i f hf
      split at h
      · rename_i harrival
        exact ⟨f, hf, harrival, (Option.some.inj h).symm⟩
      · cases h
    · cases h
  · rintro ⟨f, hf, harrival, rfl⟩
    simp only [hf, harrival]

/-- What is yielded had arrived, and its future has slept. -/
theorem next_eq_some :
    p.next k = some (value, p') ↔
      ∃ f time, p.futures[k]? = some f ∧ f.arrival = some (time, value) ∧ f.yielded = false ∧
        Nat.max f.delay time ≤ p.now ∧
        p' = { p with futures := p.futures.set k { f with yielded := true } } := by
  unfold next
  constructor
  · intro h
    split at h
    · rename_i f hf
      split at h
      · rename_i time arrived harrival
        split at h
        · rename_i hready
          cases h
          exact ⟨f, time, hf, harrival, hready.1, hready.2, rfl⟩
        · cases h
      · cases h
    · cases h
  · rintro ⟨f, time, hf, harrival, hyielded, hready, rfl⟩
    simp only [hf, harrival, hyielded, hready, and_self, if_true]

/-! ## Arrivals -/

/-- What has arrived did so by now. -/
def Past (p : Pending α) : Prop :=
  ∀ f ∈ p.futures, ∀ a, f.arrival = some a → a.1 ≤ p.now

theorem start_past (delays : List Nat) : (start delays : Pending α).Past := by
  intro f hf a ha
  obtain ⟨delay, _, rfl⟩ := List.mem_map.mp hf
  cases ha

theorem Past.tick (h : p.Past) (d : Nat) : (p.tick d).Past :=
  fun f hf a ha => Nat.le_trans (h f hf a ha) (Nat.le_add_right _ _)

theorem Past.arrive (h : p.Past) (harrive : p.arrive k value = some p') : p'.Past := by
  obtain ⟨f, hf, _, rfl⟩ := arrive_eq_some.mp harrive
  intro f' hf' a ha
  rcases List.mem_or_eq_of_mem_set hf' with hold | rfl
  · exact h f' hold a ha
  · cases ha
    exact Nat.le_refl _

theorem Past.next (h : p.Past) (hnext : p.next k = some (value, p')) : p'.Past := by
  obtain ⟨f, time, hf, harrival, _, _, rfl⟩ := next_eq_some.mp hnext
  intro f' hf' a ha
  rcases List.mem_or_eq_of_mem_set hf' with hold | rfl
  · exact h f' hold a ha
  · exact h f (List.mem_of_getElem? hf) a ha

/-! ## Prompt polling -/

/-- No future that has not yielded has been ready before now. -/
def Punctual (p : Pending α) : Prop :=
  ∀ f ∈ p.futures, f.yielded = false → ∀ time ∈ f.readyAt, p.now ≤ time

instance (p : Pending α) : Decidable p.Punctual :=
  inferInstanceAs (Decidable (∀ f ∈ p.futures, _ → _))

/-- Letting this much time pass leaves no future ready behind. -/
def Prompt (p : Pending α) (d : Nat) : Prop :=
  (p.tick d).Punctual

instance (p : Pending α) (d : Nat) : Decidable (p.Prompt d) :=
  inferInstanceAs (Decidable (p.tick d).Punctual)

theorem start_punctual (delays : List Nat) : (start delays : Pending α).Punctual := by
  intro f hf _ time htime
  obtain ⟨delay, _, rfl⟩ := List.mem_map.mp hf
  cases htime

theorem Punctual.arrive (h : p.Punctual) (harrive : p.arrive k value = some p') : p'.Punctual := by
  obtain ⟨f, hf, _, rfl⟩ := arrive_eq_some.mp harrive
  intro f' hf' hyielded time htime
  rcases List.mem_or_eq_of_mem_set hf' with hold | rfl
  · exact h f' hold hyielded time htime
  · -- It is ready when its sleep is over, and not before its value arrived.
    cases htime
    exact Nat.le_max_right _ _

theorem Punctual.next (h : p.Punctual) (hnext : p.next k = some (value, p')) : p'.Punctual := by
  obtain ⟨f, time, hf, harrival, hyielded, hready, rfl⟩ := next_eq_some.mp hnext
  intro f' hf' hyielded' time htime
  rcases List.mem_or_eq_of_mem_set hf' with hold | rfl
  · exact h f' hold hyielded' time htime
  · cases hyielded'

/-- With prompt polling a future yields at the time it is ready, and every other one
that has not yielded is not ready before it. -/
theorem Punctual.yields_earliest (h : p.Punctual) (hnext : p.next k = some (value, p')) :
    ∃ f, p.futures[k]? = some f ∧ f.value = some value ∧ f.readyAt = some p.now ∧
      ∀ f' ∈ p.futures, f'.yielded = false → ∀ time ∈ f'.readyAt, p.now ≤ time := by
  obtain ⟨f, time, hf, harrival, hyielded, hready, -⟩ := next_eq_some.mp hnext
  have htime : f.readyAt = some (Nat.max f.delay time) := by
    rw [Future.readyAt, harrival, Option.map_some]
  have hnow : Nat.max f.delay time = p.now :=
    Nat.le_antisymm hready (h f (List.mem_of_getElem? hf) hyielded _ htime)
  refine ⟨f, hf, ?_, ?_, h⟩
  · rw [Future.value, harrival, Option.map_some]
  · rw [htime, hnow]

end Pending

end Race
