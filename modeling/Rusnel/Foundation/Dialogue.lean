import Rusnel.Foundation.TcpConn
import Rusnel.Foundation.Transition

/-!
# Two parties on a connection

Each party of a dialogue is known by what it has written once it has received
some bytes: more input never takes back what was written.  The connection
delivers the bytes of either direction in order and one at a time, in any
interleaving of the two directions.  Deliveries of the two directions commute, so
that a dialogue which can come to its end always does, and always to the same one.

Main results:

- Theorem {lit}`Transition.run_completes`: when different steps commute, every run
  can be completed to any final state that one run reaches.
- Theorem {lit}`Parties.completes`: a dialogue with a quiet end comes to it.
- Theorem {lit}`Tcp.Steady.bind`: tasks on a connection are parties.
-/

/-! ## Steps that commute -/

namespace Transition

universe u v

variable {σ : Type u} {α : Type v} {step : σ → α → Option σ}

/-- Different actions enabled in a state can be taken in either order. -/
def Commutes (step : σ → α → Option σ) : Prop :=
  ∀ s a b t u, a ≠ b → step s a = some t → step s b = some u →
    ∃ v, step t b = some v ∧ step u a = some v

/-- Behind one step a run to a final state can be caught up with. -/
theorem step_completes (hcommutes : Commutes step) {s u f : σ} {b : α} {as : List α}
    (hfinal : ∀ a, step f a = none) (hrun : run step s as = some f) (hstep : step s b = some u) :
    ∃ cs, run step u cs = some f ∧ cs.length + 1 = as.length := by
  induction as generalizing s u with
  | nil =>
      cases hrun
      rw [hfinal b] at hstep
      cases hstep
  | cons a as ih =>
      obtain ⟨t, hfirst, hrest⟩ := run_cons_eq_some.mp hrun
      by_cases hab : a = b
      · subst hab
        cases hfirst.symm.trans hstep
        exact ⟨as, hrest, rfl⟩
      · obtain ⟨v, htv, huv⟩ := hcommutes s a b t u hab hfirst hstep
        obtain ⟨cs, hcs, hlen⟩ := ih hrest htv
        refine ⟨a :: cs, run_cons_eq_some.mpr ⟨v, huv, hcs⟩, ?_⟩
        rw [List.length_cons, List.length_cons, hlen]

/-- Every run can be completed to the final state, in the same number of steps. -/
theorem run_completes (hcommutes : Commutes step) {s u f : σ} {as bs : List α}
    (hfinal : ∀ a, step f a = none) (hrun : run step s as = some f)
    (hother : run step s bs = some u) :
    ∃ cs, run step u cs = some f ∧ bs.length + cs.length = as.length := by
  induction bs generalizing s as with
  | nil =>
      cases hother
      exact ⟨as, hrun, Nat.zero_add _⟩
  | cons b bs ih =>
      obtain ⟨t, hfirst, hrest⟩ := run_cons_eq_some.mp hother
      obtain ⟨as', has', hlen⟩ := step_completes hcommutes hfinal hrun hfirst
      obtain ⟨cs, hcs, hsum⟩ := ih has' hrest
      refine ⟨cs, hcs, ?_⟩
      rw [List.length_cons]
      omega

end Transition

/-! ## Dialogues -/

namespace Dialogue

open Transition

/-- Two parties: what each has written once it has received these items. -/
structure Parties (β : Type) where
  left : List β → List β
  right : List β → List β
  left_mono : ∀ {p q : List β}, p <+: q → left p <+: left q
  right_mono : ∀ {p q : List β}, p <+: q → right p <+: right q

/-- What was delivered to each party. -/
structure Talk (β : Type) where
  toLeft : List β
  toRight : List β
deriving DecidableEq, Repr

def Talk.start (β : Type) : Talk β where
  toLeft := []
  toRight := []

inductive Delivery where
  | toLeft
  | toRight
deriving DecidableEq, Repr

namespace Parties

variable {β : Type} (P : Parties β)

/-- One more item arrives, if there is one on its way. -/
def step (s : Talk β) : Delivery → Option (Talk β)
  | .toLeft => ((P.right s.toRight)[s.toLeft.length]?).map fun b =>
      { s with toLeft := s.toLeft ++ [b] }
  | .toRight => ((P.left s.toLeft)[s.toRight.length]?).map fun b =>
      { s with toRight := s.toRight ++ [b] }

/-- Nothing is on its way. -/
def Quiet (s : Talk β) : Prop :=
  P.left s.toLeft = s.toRight ∧ P.right s.toRight = s.toLeft

variable {P}

theorem step_quiet {s : Talk β} (h : P.Quiet s) (a : Delivery) : P.step s a = none := by
  cases a with
  | toLeft => simp [step, h.2]
  | toRight => simp [step, h.1]

theorem step_toLeft {s t : Talk β} (h : P.step s .toLeft = some t) :
    ∃ b, (P.right s.toRight)[s.toLeft.length]? = some b ∧
      t = { s with toLeft := s.toLeft ++ [b] } := by
  obtain ⟨b, hb, rfl⟩ := Option.map_eq_some_iff.mp h
  exact ⟨b, hb, rfl⟩

theorem step_toRight {s t : Talk β} (h : P.step s .toRight = some t) :
    ∃ b, (P.left s.toLeft)[s.toRight.length]? = some b ∧
      t = { s with toRight := s.toRight ++ [b] } := by
  obtain ⟨b, hb, rfl⟩ := Option.map_eq_some_iff.mp h
  exact ⟨b, hb, rfl⟩

/-- What is on its way stays there when more is written. -/
theorem next_of_prefix {p q : List β} (h : p <+: q) {i : Nat} {b : β} (hb : p[i]? = some b) :
    q[i]? = some b := by
  obtain ⟨hi, rfl⟩ := List.getElem?_eq_some_iff.mp hb
  exact List.prefix_iff_getElem?.mp h i hi

/-- Deliveries of the two directions commute. -/
theorem step_swap {s t u : Talk β} (ht : P.step s .toLeft = some t)
    (hu : P.step s .toRight = some u) :
    ∃ v, P.step t .toRight = some v ∧ P.step u .toLeft = some v := by
  obtain ⟨b, hb, rfl⟩ := step_toLeft ht
  obtain ⟨c, hc, rfl⟩ := step_toRight hu
  have hb' := next_of_prefix (P.right_mono (List.prefix_append s.toRight [c])) hb
  have hc' := next_of_prefix (P.left_mono (List.prefix_append s.toLeft [b])) hc
  exact ⟨⟨s.toLeft ++ [b], s.toRight ++ [c]⟩, by simp [step, hc'], by simp [step, hb']⟩

theorem commutes : Commutes P.step := by
  intro s a b t u hab ht hu
  cases a <;> cases b
  · exact absurd rfl hab
  · exact step_swap ht hu
  · obtain ⟨v, huv, htv⟩ := step_swap hu ht
    exact ⟨v, htv, huv⟩
  · exact absurd rfl hab

/-- Everything that is on its way to the right party arrives. -/
theorem run_toRight {s : Talk β} {more : List β} (h : P.left s.toLeft = s.toRight ++ more) :
    ∃ acts, run P.step s acts = some { s with toRight := s.toRight ++ more } := by
  induction more generalizing s with
  | nil =>
      refine ⟨[], ?_⟩
      rw [List.append_nil]
      rfl
  | cons b more ih =>
      have hnext : (P.left s.toLeft)[s.toRight.length]? = some b := by simp [h]
      have hrest : P.left s.toLeft = (s.toRight ++ [b]) ++ more := by simp [h]
      obtain ⟨acts, hacts⟩ := @ih { s with toRight := s.toRight ++ [b] } hrest
      rw [List.append_assoc] at hacts
      refine ⟨.toRight :: acts, run_cons_eq_some.mpr ⟨_, ?_, hacts⟩⟩
      simp [step, hnext]

/-- Everything that is on its way to the left party arrives. -/
theorem run_toLeft {s : Talk β} {more : List β} (h : P.right s.toRight = s.toLeft ++ more) :
    ∃ acts, run P.step s acts = some { s with toLeft := s.toLeft ++ more } := by
  induction more generalizing s with
  | nil =>
      refine ⟨[], ?_⟩
      rw [List.append_nil]
      rfl
  | cons b more ih =>
      have hnext : (P.right s.toRight)[s.toLeft.length]? = some b := by simp [h]
      have hrest : P.right s.toRight = (s.toLeft ++ [b]) ++ more := by simp [h]
      obtain ⟨acts, hacts⟩ := @ih { s with toLeft := s.toLeft ++ [b] } hrest
      rw [List.append_assoc] at hacts
      refine ⟨.toLeft :: acts, run_cons_eq_some.mpr ⟨_, ?_, hacts⟩⟩
      simp [step, hnext]

/-- What was delivered stays delivered. -/
theorem run_grows {s t : Talk β} {acts : List Delivery} (h : run P.step s acts = some t) :
    s.toLeft <+: t.toLeft ∧ s.toRight <+: t.toRight := by
  refine run_invariant (P := fun u => s.toLeft <+: u.toLeft ∧ s.toRight <+: u.toRight) ?_
    ⟨List.prefix_rfl, List.prefix_rfl⟩ h
  rintro u a v ⟨hleft, hright⟩ hstep
  cases a with
  | toLeft =>
      obtain ⟨b, -, rfl⟩ := step_toLeft hstep
      exact ⟨hleft.trans (List.prefix_append _ _), hright⟩
  | toRight =>
      obtain ⟨b, -, rfl⟩ := step_toRight hstep
      exact ⟨hleft, hright.trans (List.prefix_append _ _)⟩

/-- The states a dialogue comes to in turns: one party at a time receives all that
the other one has written. -/
inductive Reaches (P : Parties β) : Talk β → Prop where
  | start : Reaches P (Talk.start β)
  | toRight {s : Talk β} {more : List β} (h : Reaches P s)
      (hmore : P.left s.toLeft = s.toRight ++ more) :
      Reaches P { s with toRight := s.toRight ++ more }
  | toLeft {s : Talk β} {more : List β} (h : Reaches P s)
      (hmore : P.right s.toRight = s.toLeft ++ more) :
      Reaches P { s with toLeft := s.toLeft ++ more }

theorem Reaches.run {s : Talk β} (h : P.Reaches s) :
    ∃ acts, Transition.run P.step (Talk.start β) acts = some s := by
  induction h with
  | start => exact ⟨[], rfl⟩
  | toRight _ hmore ih =>
      obtain ⟨acts, hacts⟩ := ih
      obtain ⟨acts', hacts'⟩ := run_toRight hmore
      exact ⟨acts ++ acts', run_append_eq_some.mpr ⟨_, hacts, hacts'⟩⟩
  | toLeft _ hmore ih =>
      obtain ⟨acts, hacts⟩ := ih
      obtain ⟨acts', hacts'⟩ := run_toLeft hmore
      exact ⟨acts ++ acts', run_append_eq_some.mpr ⟨_, hacts, hacts'⟩⟩

/-- A dialogue with a quiet end comes to it from wherever it has got to, and is
quiet nowhere else. -/
theorem completes {f : Talk β} (hreaches : P.Reaches f) (hquiet : P.Quiet f)
    {acts : List Delivery} {s : Talk β}
    (hrun : Transition.run P.step (Talk.start β) acts = some s) :
    (∃ more, Transition.run P.step s more = some f) ∧ (P.Quiet s → s = f) := by
  obtain ⟨all, hall⟩ := hreaches.run
  obtain ⟨more, hmore, -⟩ := run_completes commutes (step_quiet hquiet) hall hrun
  refine ⟨⟨more, hmore⟩, fun hs => ?_⟩
  cases more with
  | nil => exact Option.some.inj hmore
  | cons a more =>
      rw [run_cons, step_quiet hs a] at hmore
      cases hmore

end Parties

end Dialogue

/-! ## Tasks as parties -/

namespace Tcp

open Text

variable {α γ : Type}

/-- More input changes nothing of what a task did with less: if it returned it
returns the same, and what it wrote stays written. -/
structure Steady (x : ConnTask α) : Prop where
  grows : ∀ c, c.written <+: (x.run c).2.written
  returns : ∀ {c d : TcpConn} {a : α}, x.run c = (.ok a, d) →
    ∀ rest, x.run { c with input := c.input ++ rest } = (.ok a, { d with input := d.input ++ rest })
  extends_written : ∀ {c d : TcpConn} {e : Failure}, x.run c = (.error e, d) →
    ∀ rest, d.written <+: (x.run { c with input := c.input ++ rest }).2.written

namespace Steady

theorem pure (a : α) : Steady (Pure.pure a : ConnTask α) where
  grows _ := List.prefix_rfl
  returns h rest := by
    cases h
    rfl
  extends_written h := by cases h

theorem fail (message : String) : Steady (Tcp.fail message : ConnTask α) where
  grows _ := List.prefix_rfl
  returns h := by cases h
  extends_written h rest := by
    cases h
    exact List.prefix_rfl

theorem lift (r : Except Failure α) : Steady (Tcp.lift r) where
  grows _ := List.prefix_rfl
  returns h rest := by
    cases h
    rfl
  extends_written h rest := by
    cases h
    exact List.prefix_rfl

theorem writeAll (bytes : List UInt8) : Steady (Tcp.writeAll bytes) where
  grows c := List.prefix_append c.written bytes
  returns h rest := by
    cases h
    rfl
  extends_written h := by cases h

theorem readExact (buf : List UInt8) (n : Nat) : Steady (Tcp.readExact buf n) where
  grows c := by
    rw [Silent.readExact buf n c]
  returns {c d a} h rest := by
    simp only [Tcp.readExact] at h ⊢
    split_ifs at h with hbuf hshort
    · cases h
    · cases h
    · obtain ⟨rfl, rfl⟩ : c.input.take n ++ buf.drop n = a ∧
          { c with input := c.input.drop n } = d := by simpa using h
      have hlen : n ≤ c.input.length := Nat.not_lt.mp hshort
      have hmore : ¬(c.input ++ rest).length < n := by
        rw [List.length_append]
        omega
      rw [if_neg hbuf, if_neg hmore, List.take_append_of_le_length hlen,
        List.drop_append_of_le_length hlen]
  extends_written {c d e} h rest := by
    have hd : d.written = c.written := by
      have hsilent := Silent.readExact buf n c
      rwa [h] at hsilent
    rw [hd, Silent.readExact buf n]

/-- Steady tasks in sequence. -/
theorem bind {x : ConnTask γ} {f : γ → ConnTask α} (hx : Steady x) (hf : ∀ b, Steady (f b)) :
    Steady (x >>= f) where
  grows c := by
    have hfirst := hx.grows c
    rcases hrun : x.run c with ⟨_ | b, d⟩
    · rw [hrun] at hfirst
      rw [bind_error hrun]
      exact hfirst
    · rw [hrun] at hfirst
      rw [bind_ok hrun]
      exact hfirst.trans ((hf b).grows d)
  returns {c d a} h rest := by
    rcases hrun : x.run c with ⟨_ | b, mid⟩
    · rw [bind_error hrun] at h
      cases h
    · rw [bind_ok hrun] at h
      rw [bind_ok (hx.returns hrun rest)]
      exact (hf b).returns h rest
  extends_written {c d e} h rest := by
    rcases hrun : x.run c with ⟨_ | b, mid⟩
    · -- The first task is cut; with more input it may return, and the second goes on.
      rw [bind_error hrun] at h
      cases h
      have hfirst := hx.extends_written hrun rest
      rcases hmore : x.run { c with input := c.input ++ rest } with ⟨_ | b, mid⟩
      · rw [hmore] at hfirst
        rw [bind_error hmore]
        exact hfirst
      · rw [hmore] at hfirst
        rw [bind_ok hmore]
        exact hfirst.trans ((hf b).grows mid)
    · rw [bind_ok hrun] at h
      rw [bind_ok (hx.returns hrun rest)]
      exact (hf b).extends_written h rest

end Steady

/-- What a task has written once it has received these bytes. -/
def writtenOn (x : ConnTask α) (input : List UInt8) : List UInt8 :=
  (x.run ⟨input, []⟩).2.written

theorem Steady.writtenOn_mono {x : ConnTask α} (hx : Steady x) {p q : List UInt8}
    (h : p <+: q) : writtenOn x p <+: writtenOn x q := by
  obtain ⟨rest, rfl⟩ := h
  unfold writtenOn
  rcases hrun : x.run ⟨p, []⟩ with ⟨_ | a, d⟩
  · exact hx.extends_written hrun rest
  · rw [hx.returns hrun rest]

/-- Two steady tasks at the ends of a connection. -/
def parties {x : ConnTask α} {y : ConnTask γ} (hx : Steady x) (hy : Steady y) :
    Dialogue.Parties UInt8 where
  left := writtenOn x
  right := writtenOn y
  left_mono := hx.writtenOn_mono
  right_mono := hy.writtenOn_mono

theorem parties_left {x : ConnTask α} {y : ConnTask γ} (hx : Steady x) (hy : Steady y) :
    (parties hx hy).left = writtenOn x := rfl

theorem parties_right {x : ConnTask α} {y : ConnTask γ} (hx : Steady x) (hy : Steady y) :
    (parties hx hy).right = writtenOn y := rfl

end Tcp
