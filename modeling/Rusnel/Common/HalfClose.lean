import Rusnel.Common.TcpRelay

/-!
# Half-close of the TCP relay

The two directions of a relay share only the abort signal, which a failed copy
gives.  As long as none fails, an end of file in one direction closes that
direction and nothing else.

Main results:

- Theorem {lit}`run_flow_lawful`: each direction forwards in order and closes its
  writer as its outcome says.
- Theorem {lit}`run_follows`: without a failure each direction is where its copy
  alone would be.
- Theorem {lit}`half_close_independent`: what is written is a prefix of what was
  read, only a complete copy finishes the QUIC stream, and without a failure both
  inputs are delivered.
-/

namespace Rusnel
namespace TcpRelay

open BufferedCopy

/-! ## Each direction alone -/

/-- What the halves of a direction did in the polls so far. -/
def offered (acts : List Action) (d : Dir) : List (Io UInt8) :=
  acts.flatMap fun a => a.script d

theorem offered_concat (acts : List Action) (a : Action) (d : Dir) :
    offered (acts ++ [a]) d = offered acts d ++ a.script d := by
  simp [offered]

/-- The writer of a direction in each state of its future. -/
def Task.sink (d : Dir) : Task → Sink
  | .unpolled => .unclosed
  | .selecting _ => .unclosed
  | .done outcome => d.closeSink outcome

/-- What holds of a direction, whatever the other one does. -/
structure Flow.Lawful (d : Dir) (script : List (Io UInt8)) (f : Flow) : Prop where
  /-- Bytes are forwarded in order. -/
  balanced : f.copy.Balanced
  /-- An end of file was read, and everything before it was written. -/
  complete : f.task = .done .eof → f.copy.buffer = [] ∧ .read [] ∈ script
  /-- The writer is closed as the outcome says. -/
  closed : f.sink = f.task.sink d

theorem Flow.init_lawful (d : Dir) : Flow.init.Lawful d [] where
  balanced := Copy.start_balanced
  complete := nofun
  closed := rfl

variable {script : List (Io UInt8)} {d : Dir} {f : Flow} {f' : Flow}

theorem Flow.Lawful.heard (hf : f.Lawful d script) (h : f.Heard f') : f'.Lawful d script := by
  rcases h with rfl | rfl
  · exact hf
  · rcases f with ⟨copy, _ | notified | outcome, sink⟩
    · exact hf
    · exact ⟨hf.balanced, nofun, hf.closed⟩
    · exact hf

theorem Flow.Lawful.later (hf : f.Lawful d script) (more : List (Io UInt8)) :
    f.Lawful d (script ++ more) where
  balanced := hf.balanced
  complete h := ⟨(hf.complete h).1, List.mem_append_left more (hf.complete h).2⟩
  closed := hf.closed

theorem Flow.Lawful.poll (hf : f.Lawful d script)
    (htask : f.task = .unpolled ∨ f.task = .selecting false) (more : List (Io UInt8)) :
    (f.poll d more).Lawful d (script ++ more) := by
  have hbalanced := copyBuf_balanced hf.balanced more
  have hopen : f.sink = .unclosed := by
    rcases htask with htask | htask <;> rw [hf.closed, htask] <;> rfl
  unfold Flow.poll
  split
  · rename_i copy hcopy
    rw [hcopy] at hbalanced
    exact ⟨hbalanced, nofun, hopen⟩
  · rename_i copy result hcopy
    rw [hcopy] at hbalanced
    refine ⟨hbalanced, fun heof => ?_, rfl⟩
    have hend : (copyBuf f.copy more).2 = some .eof := by
      rw [hcopy]
      cases result with
      | eof => rfl
      | errored => cases heof
    have hcomplete := copyBuf_eof hend
    rw [hcopy] at hcomplete
    exact ⟨hcomplete.1, List.mem_append_right script hcomplete.2⟩

theorem FlowStep.lawful {script more : List (Io UInt8)} (h : FlowStep d more f f')
    (hf : f.Lawful d script) : f'.Lawful d (script ++ more) := by
  cases h with
  | settled outcome htask => exact hf.later more
  | aborted htask => exact ⟨hf.balanced, nofun, rfl⟩
  | polled htask => exact hf.poll htask more

/-- A poll of the join keeps both directions lawful. -/
theorem step_lawful {r r' : Relay} {a : Action} (h : step r a = some r')
    (hr : (r.flow d).Lawful d script) : (r'.flow d).Lawful d (script ++ a.script d) := by
  obtain ⟨f, f', hbefore, hpoll, hafter⟩ := step_flow h d
  exact (hpoll.lawful (hr.heard hbefore)).heard hafter

/-- Both directions are lawful after every run. -/
theorem run_flow_lawful {acts : List Action} {r : Relay} (hrun : run Relay.init acts = some r)
    (d : Dir) : (r.flow d).Lawful d (offered acts d) := by
  refine Transition.run_induction (P := fun acts r => (r.flow d).Lawful d (offered acts d))
    ?_ ?_ hrun
  · cases d <;> exact Flow.init_lawful _
  · intro acts a mid r _ hmid hstep
    rw [offered_concat]
    exact step_lawful hstep hmid

/-! ## Independence without a failure -/

/-- A copy has failed. -/
def Relay.Failed (r : Relay) : Prop :=
  ∃ d, (r.flow d).task = .done .errored

/-- The direction is where its copy alone would be. -/
structure Flow.Follows (f : Flow) (result : Copy UInt8 × Option CopyEnd) : Prop where
  copy : f.copy = result.1
  waiting : result.2 = none → f.task = .unpolled ∨ f.task = .selecting false
  ended : ∀ copyEnd, result.2 = some copyEnd → f.task = .done (.ofEnd copyEnd)

theorem Flow.poll_follows (f : Flow) (d : Dir) (script : List (Io UInt8)) :
    (f.poll d script).Follows (copyBuf f.copy script) := by
  unfold Flow.poll
  split
  · rename_i copy hcopy
    rw [hcopy]
    exact ⟨rfl, fun _ => .inr rfl, nofun⟩
  · rename_i copy result hcopy
    rw [hcopy]
    refine ⟨rfl, nofun, fun copyEnd hend => ?_⟩
    cases hend
    rfl

/-- A poll carries the direction on as its copy alone would go on. -/
theorem FlowStep.follows {before more : List (Io UInt8)} (h : FlowStep d more f f')
    (hf : f.Follows (copyBuf Copy.start before)) :
    f'.Follows (copyBuf Copy.start (before ++ more)) := by
  rw [copyBuf_append]
  -- Either the copy was waiting and this poll goes on with it, or it had ended and
  -- the direction with it, so that the poll changes nothing.
  cases hresult : (copyBuf Copy.start before).2 with
  | none =>
      have hready := hf.waiting hresult
      rw [if_pos rfl, ← hf.copy]
      cases h with
      | settled outcome htask => rw [htask] at hready; simp at hready
      | aborted htask => rw [htask] at hready; simp at hready
      | polled htask => exact f.poll_follows d more
  | some result =>
      have hdone := hf.ended result hresult
      rw [if_neg (Option.some_ne_none result)]
      cases h with
      | settled outcome htask => exact hf
      | aborted htask => rw [htask] at hdone; cases hdone
      | polled htask => rw [hdone] at htask; simp at htask

theorem FlowStep.errored (h : FlowStep d script f f') (hf : f.task = .done .errored) :
    f'.task = .done .errored := by
  cases h with
  | settled outcome htask => exact hf
  | aborted htask => rw [hf] at htask; cases htask
  | polled htask => rw [hf] at htask; simp at htask

/-- A direction that has not failed leaves the other one alone. -/
theorem Relay.pollDir_other_eq {r : Relay}
    (h : ((r.pollDir d script).flow d).task ≠ .done .errored) :
    (r.pollDir d script).flow d.other = r.flow d.other := by
  rcases (r.flow d).task.cases_ready with ⟨outcome, hdone⟩ | hnotified | hready
  · rw [Relay.pollDir_of_done hdone]
  · rw [Relay.pollDir_of_notified hnotified, flow_setFlow_other]
  · rw [Relay.pollDir_ready_self hready] at h
    rw [Relay.pollDir_ready_other hready, if_neg h]

/-- In a poll of the join after which no copy has failed, each direction is polled
and nothing else happens to it. -/
theorem step_flow_of_not_failed {r r' : Relay} {a : Action} (h : step r a = some r')
    (hfailed : ¬r'.Failed) (d : Dir) : FlowStep d (a.script d) (r.flow d) (r'.flow d) := by
  rw [(step_eq_some h).2] at hfailed ⊢
  generalize hmid : r.pollDir a.first (a.script a.first) = mid at hfailed ⊢
  -- The direction polled second has not failed, so it left the first one alone.
  have hlast : (mid.pollDir a.first.other (a.script a.first.other)).flow a.first =
      mid.flow a.first := by
    have hkept := Relay.pollDir_other_eq (r := mid) (d := a.first.other)
      fun herrored => hfailed ⟨_, herrored⟩
    rwa [Dir.other_other] at hkept
  rcases a.first.eq_or_eq_other d with rfl | rfl
  · rw [hlast, ← hmid]
    exact r.pollDir_self a.first _
  · have hkept : mid.flow a.first.other = r.flow a.first.other := by
      rw [← hmid]
      apply Relay.pollDir_other_eq
      rw [hmid, ← hlast]
      exact fun herrored => hfailed ⟨_, herrored⟩
    rw [← hkept]
    exact mid.pollDir_self a.first.other _

theorem not_failed_of_step {r r' : Relay} {a : Action} (h : step r a = some r')
    (hfailed : ¬r'.Failed) : ¬r.Failed := by
  rintro ⟨d, hd⟩
  exact hfailed ⟨d, (step_flow_of_not_failed h hfailed d).errored hd⟩

/-- After a run without a failure each direction is where its copy alone would be. -/
theorem run_follows {acts : List Action} {r : Relay} (hrun : run Relay.init acts = some r)
    (hfailed : ¬r.Failed) (d : Dir) :
    (r.flow d).Follows (copyBuf Copy.start (offered acts d)) := by
  refine Transition.run_induction (P := fun acts r => ¬r.Failed →
    (r.flow d).Follows (copyBuf Copy.start (offered acts d))) ?_ ?_ hrun hfailed
  · intro _
    cases d <;> exact ⟨rfl, fun _ => .inl rfl, nofun⟩
  · intro acts a mid r _ hmid hstep hfailed
    rw [offered_concat]
    exact (step_flow_of_not_failed hstep hfailed d).follows
      (hmid (not_failed_of_step hstep hfailed))

theorem Flow.Lawful.written_eq (hf : f.Lawful d script) (h : f.task = .done .eof) :
    f.copy.written = f.copy.received := by
  have hbalanced := hf.balanced
  rw [Copy.Balanced, (hf.complete h).1, List.append_nil] at hbalanced
  exact hbalanced.symm

/-- The QUIC stream is finished only by a copy that reached the end of its input. -/
theorem Flow.Lawful.eof_of_finished (hf : f.Lawful .clientToServer script)
    (h : f.sink = .finished) : f.task = .done .eof := by
  rw [hf.closed] at h
  rcases f with ⟨copy, _ | notified | ⟨_ | _ | _⟩, sink⟩
  all_goals first | rfl | cases h

theorem Flow.Lawful.reset_of_ne_eof (hf : f.Lawful .clientToServer script) {outcome : CopyOutcome}
    (h : f.task = .done outcome) (hne : outcome ≠ .eof) : f.sink = .reset := by
  rw [hf.closed, h]
  cases outcome with
  | eof => exact absurd rfl hne
  | errored => rfl
  | aborted => rfl

theorem Flow.Lawful.finished_of_eof (hf : f.Lawful d script) (h : f.task = .done .eof) :
    f.sink = .finished := by
  rw [hf.closed, h]
  cases d <;> rfl

/-- A direction on its own ends with the end of its input or not at all. -/
theorem Flow.Follows.eof_of_done {result : Copy UInt8 × Option CopyEnd} (hf : f.Follows result)
    (hfailed : f.task ≠ .done .errored) (h : f.task.isDone = true) : f.task = .done .eof := by
  cases hresult : result.2 with
  | none => rcases hf.waiting hresult with htask | htask <;> rw [htask] at h <;> cases h
  | some copyEnd =>
      have hdone := hf.ended copyEnd hresult
      cases copyEnd with
      | eof => exact hdone
      | errored => exact absurd hdone hfailed

/-- Unless a copy has failed, a writer is closed only at the end of the input. -/
theorem eof_of_closed {acts : List Action} {r : Relay} (hrun : run Relay.init acts = some r)
    (hfailed : ¬r.Failed) (hsink : (r.flow d).sink ≠ .unclosed) : (r.flow d).task = .done .eof := by
  apply (run_follows hrun hfailed d).eof_of_done fun herrored => hfailed ⟨_, herrored⟩
  have hclosed := (run_flow_lawful hrun d).closed
  rcases htask : (r.flow d).task with _ | notified | outcome
  · rw [htask] at hclosed
    exact absurd hclosed hsink
  · rw [htask] at hclosed
    exact absurd hclosed hsink
  · rfl

/-- A waiting direction whose halves become ready delivers the rest of its input
and ends. -/
theorem FlowStep.delivers {rest : List UInt8} (h : FlowStep d (readyScript f.copy.buffer rest) f f')
    (htask : f.task = .unpolled ∨ f.task = .selecting false) (hbalanced : f.copy.Balanced) :
    f'.task = .done .eof ∧ f'.copy.written = f.copy.received ++ rest := by
  cases h with
  | settled outcome hdone => rw [hdone] at htask; simp at htask
  | aborted hnotified => rw [hnotified] at htask; simp at htask
  | polled _ =>
      have hfollows := f.poll_follows d (readyScript f.copy.buffer rest)
      rw [copyBuf_ready] at hfollows
      refine ⟨hfollows.ended .eof rfl, ?_⟩
      rw [hfollows.copy, hbalanced]

theorem Flow.Follows.waiting_of_not_done {result : Copy UInt8 × Option CopyEnd}
    (hf : f.Follows result) (h : f.task.isDone = false) :
    f.task = .unpolled ∨ f.task = .selecting false := by
  cases hresult : result.2 with
  | none => exact hf.waiting hresult
  | some copyEnd =>
      rw [hf.ended copyEnd hresult] at h
      cases h

/-- After every run: what was written to each side is a prefix of what was read
from the other; the QUIC stream is finished only if the TCP stream was read to its
end and all of it was written, and any other end resets it; and if no copy has
failed, no direction was aborted, each is where its copy alone would be, one that
has ended delivered its whole input and its end, and one that has not will, once
its halves are ready. -/
theorem half_close_independent (acts : List Action) (r : Relay)
    (hrun : run Relay.init acts = some r) :
    (∀ d, (r.flow d).copy.written <+: (r.flow d).copy.received) ∧
    (r.clientToServer.sink = .finished →
      r.clientToServer.task = .done .eof ∧ .read [] ∈ offered acts .clientToServer ∧
      r.clientToServer.copy.written = r.clientToServer.copy.received) ∧
    (∀ outcome, r.clientToServer.task = .done outcome → outcome ≠ .eof →
      r.clientToServer.sink = .reset) ∧
    (¬r.Failed → ∀ d,
      (r.flow d).task ≠ .done .aborted ∧
      (r.flow d).Follows (copyBuf Copy.start (offered acts d)) ∧
      ((r.flow d).task.isDone = true →
        (r.flow d).copy.written = (r.flow d).copy.received ∧ (r.flow d).sink = .finished) ∧
      ((r.flow d).task.isDone = false → ∀ a r' rest,
        a.script d = readyScript (r.flow d).copy.buffer rest →
        step r a = some r' → ¬r'.Failed →
        (r'.flow d).copy.written = (r.flow d).copy.received ++ rest ∧
          (r'.flow d).sink = .finished)) := by
  have hlawful := run_flow_lawful hrun
  have hclient := hlawful .clientToServer
  refine ⟨fun d => (hlawful d).balanced.written_prefix, fun hfinished => ?_,
    fun outcome hdone hne => hclient.reset_of_ne_eof hdone hne, fun hfailed d => ?_⟩
  · have heof := hclient.eof_of_finished hfinished
    exact ⟨heof, (hclient.complete heof).2, hclient.written_eq heof⟩
  · have hfollows := run_follows hrun hfailed d
    have hone : (r.flow d).task ≠ .done .errored := fun herrored => hfailed ⟨d, herrored⟩
    refine ⟨fun haborted => ?_, hfollows, fun hdone => ?_,
      fun hwaiting a r' rest ha hstep hok => ?_⟩
    · have heof := hfollows.eof_of_done hone (by rw [haborted]; rfl)
      rw [haborted] at heof
      cases heof
    · have heof := hfollows.eof_of_done hone hdone
      exact ⟨(hlawful d).written_eq heof, (hlawful d).finished_of_eof heof⟩
    · have hpoll := step_flow_of_not_failed hstep hok d
      rw [ha] at hpoll
      have hend := hpoll.delivers (hfollows.waiting_of_not_done hwaiting) (hlawful d).balanced
      exact ⟨hend.2, (step_lawful hstep (hlawful d)).finished_of_eof hend.1⟩

/-- The client closes its side at once; the reply still arrives whole. -/
theorem half_close_then_reply :
    ∃ r, run Relay.init
        [⟨.clientToServer, [.read [104], .write 1, .read []], [.read [1, 2, 3], .write 1]⟩,
          ⟨.serverToClient, [], [.write 2, .read [4], .write 1, .read []]⟩] = some r ∧
      r.clientToServer.sink = .finished ∧ r.serverToClient.copy.received = [1, 2, 3, 4] ∧
      r.serverToClient.copy.written = r.serverToClient.copy.received ∧
      r.serverToClient.sink = .finished := by
  have hrun : (run Relay.init
      [⟨.clientToServer, [.read [104], .write 1, .read []], [.read [1, 2, 3], .write 1]⟩,
        ⟨.serverToClient, [], [.write 2, .read [4], .write 1, .read []]⟩]).isSome = true := rfl
  have hall := half_close_independent _ _ (Option.some_get hrun).symm
  have hok : ¬((run Relay.init _).get hrun).Failed := by
    rintro ⟨d, hd⟩
    cases d <;> cases hd
  exact ⟨_, (Option.some_get hrun).symm, rfl, rfl,
    (hall.2.2.2 hok .serverToClient).2.2.1 rfl⟩

end TcpRelay
end Rusnel
