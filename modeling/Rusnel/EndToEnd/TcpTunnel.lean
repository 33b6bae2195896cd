import Rusnel.Common.HalfClose

/-!
# A TCP connection through the tunnel

A conn of a TCP tunnel has a relay at each end, both of them
{lit}`tunnel_tcp_stream`, and a QUIC stream between the two.  The application and
the target see two TCP streams; in between the bytes pass two buffers and the
stream.  The ends are polled in any order, the halves are ready whenever they
like, and the stream hands over what was written to it in pieces of any size.

Main results:

- Theorem {lit}`run_joined`: what an end has read from the stream is a part of
  what the other end wrote, and all of it at the end of the stream.
- Theorem {lit}`tcp_tunnel_transparent`: bytes arrive in order and unchanged, and
  the end of a stream arrives behind all of them.
- Theorem {lit}`tcp_tunnel_completes`: as long as no copy has failed, both
  directions can be carried to their end.
-/

namespace Rusnel
namespace EndToEnd

open BufferedCopy TcpRelay

/-! ## Two relays and a stream -/

/-- The two ends of a conn. -/
inductive End where
  /-- The side that accepted the connection of an application. -/
  | near
  /-- The side that dialed the target. -/
  | far
deriving DecidableEq, Repr

def End.other : End → End
  | .near => .far
  | .far => .near

@[simp]
theorem End.other_other (e : End) : e.other.other = e := by
  cases e <;> rfl

theorem End.eq_or_eq_other (e f : End) : f = e ∨ f = e.other := by
  cases e <;> cases f <;> simp [End.other]

theorem End.other_ne (e : End) : e.other ≠ e := by
  cases e <;> simp [End.other]

/-- The relays at the two ends. -/
structure TcpTunnel where
  near : Relay
  far : Relay
deriving DecidableEq, Repr

variable {t : TcpTunnel} {polls : List Poll} {script : List (Io UInt8)} {r : Relay} {d : Dir}

namespace TcpTunnel

/-- Both ends are about to be joined. -/
def init : TcpTunnel where
  near := Relay.init
  far := Relay.init

def relay (t : TcpTunnel) : End → Relay
  | .near => t.near
  | .far => t.far

def setRelay (t : TcpTunnel) : End → Relay → TcpTunnel
  | .near, r => { t with near := r }
  | .far, r => { t with far := r }

@[simp]
theorem relay_setRelay_self (t : TcpTunnel) (e : End) (r : Relay) :
    (t.setRelay e r).relay e = r := by
  cases e <;> rfl

@[simp]
theorem relay_setRelay_other (t : TcpTunnel) (e : End) (r : Relay) :
    (t.setRelay e r).relay e.other = t.relay e.other := by
  cases e <;> rfl

/-- The copy that writes to the QUIC stream at an end. -/
def outgoing (t : TcpTunnel) (e : End) : Flow :=
  (t.relay e).flow .clientToServer

/-- The copy that reads from the QUIC stream at an end. -/
def incoming (t : TcpTunnel) (e : End) : Flow :=
  (t.relay e).flow .serverToClient

theorem outgoing_setRelay_self (t : TcpTunnel) (e : End) (r : Relay) :
    (t.setRelay e r).outgoing e = r.flow .clientToServer := by
  rw [outgoing, relay_setRelay_self]

theorem outgoing_setRelay_other (t : TcpTunnel) (e : End) (r : Relay) :
    (t.setRelay e r).outgoing e.other = t.outgoing e.other := by
  rw [outgoing, relay_setRelay_other, outgoing]

theorem incoming_setRelay_self (t : TcpTunnel) (e : End) (r : Relay) :
    (t.setRelay e r).incoming e = r.flow .serverToClient := by
  rw [incoming, relay_setRelay_self]

theorem incoming_setRelay_other (t : TcpTunnel) (e : End) (r : Relay) :
    (t.setRelay e r).incoming e.other = t.incoming e.other := by
  rw [incoming, relay_setRelay_other, incoming]

/-- A poll of the relay at one end. -/
structure Poll where
  side : End
  action : TcpRelay.Action
deriving DecidableEq, Repr

/-- One poll.  What it reads from the stream was written to it by the other end;
the stream is at its end once that end has finished it.  A read may fail at any
time, as the connection may be lost. -/
def step (t : TcpTunnel) (p : Poll) : Option TcpTunnel :=
  let writer := t.outgoing p.side.other
  if readsFrom writer.copy.written (decide (writer.sink = .finished)) (t.incoming p.side).copy
      p.action.toClient then
    (TcpRelay.step (t.relay p.side) p.action).map (t.setRelay p.side)
  else none

abbrev run (t : TcpTunnel) (polls : List Poll) : Option TcpTunnel :=
  Transition.run step t polls

theorem step_eq_some {t t' : TcpTunnel} {p : Poll} (h : step t p = some t') :
    readsFrom (t.outgoing p.side.other).copy.written
        (decide ((t.outgoing p.side.other).sink = .finished)) (t.incoming p.side).copy
        p.action.toClient = true ∧
      ∃ r, TcpRelay.step (t.relay p.side) p.action = some r ∧ t' = t.setRelay p.side r := by
  unfold step at h
  dsimp only at h
  split at h
  · rename_i hreads
    obtain ⟨r, hr, rfl⟩ := Option.map_eq_some_iff.mp h
    exact ⟨hreads, r, hr, rfl⟩
  · cases h

/-! ## Each end alone -/

/-- The polls of one end. -/
def pollsAt (e : End) (polls : List Poll) : List TcpRelay.Action :=
  polls.filterMap fun p => if p.side = e then some p.action else none

/-- Each end runs as a relay does. -/
theorem run_relay (hrun : run init polls = some t) (e : End) :
    TcpRelay.run Relay.init (pollsAt e polls) = some (t.relay e) := by
  refine Transition.run_induction
    (P := fun polls t => TcpRelay.run Relay.init (pollsAt e polls) = some (t.relay e)) ?_ ?_ hrun
  · cases e <;> rfl
  · intro polls p mid t _ hmid hstep
    obtain ⟨-, r, hr, rfl⟩ := step_eq_some hstep
    have hpolls : pollsAt e (polls ++ [p]) = pollsAt e polls ++ pollsAt e [p] :=
      List.filterMap_append
    rw [hpolls]
    rcases p.side.eq_or_eq_other e with rfl | rfl
    · have hone : pollsAt p.side [p] = [p.action] := by simp [pollsAt]
      rw [hone, relay_setRelay_self]
      exact Transition.run_concat_eq_some.mpr ⟨_, hmid, hr⟩
    · have hnone : pollsAt p.side.other [p] = [] := by
        simp [pollsAt, (End.other_ne p.side).symm]
      rw [hnone, List.append_nil, relay_setRelay_other]
      exact hmid

/-! ## The stream between them -/

/-- What holds of the stream that is written at one end and read at the other. -/
structure Joined (t : TcpTunnel) (e : End) : Prop where
  /-- What was read is a part of what was written. -/
  received : (t.incoming e.other).copy.received <+: (t.outgoing e).copy.written
  /-- The end was read behind all of it. -/
  ended : (t.incoming e.other).task = .done .eof →
    (t.outgoing e).sink = .finished ∧
      (t.incoming e.other).copy.received = (t.outgoing e).copy.written

theorem init_joined (e : End) : init.Joined e := by
  cases e <;> exact ⟨List.prefix_refl _, nofun⟩

/-- A poll of a copy that writes to the stream takes nothing back. -/
theorem flowStep_written {f f' : Flow} (h : FlowStep d script f f') :
    f.copy.written <+: f'.copy.written := by
  cases h with
  | settled outcome htask => exact List.prefix_refl _
  | aborted htask => exact List.prefix_refl _
  | polled htask =>
      rw [(f.poll_follows d script).copy]
      exact (copyBuf_grows f.copy script).2

/-- A copy that reads from a stream has a part of it, and all of it at its end. -/
theorem flowStep_readsFrom {f f' : Flow} (h : FlowStep d script f f') {source : List UInt8}
    {ended : Bool} (hreceived : f.copy.received <+: source)
    (hended : f.task = .done .eof → ended = true ∧ f.copy.received = source)
    (hscript : readsFrom source ended f.copy script = true) :
    f'.copy.received <+: source ∧
      (f'.task = .done .eof → ended = true ∧ f'.copy.received = source) := by
  cases h with
  | settled outcome htask => exact ⟨hreceived, hended⟩
  | aborted htask => exact ⟨hreceived, nofun⟩
  | polled htask =>
      have hreads := copyBuf_readsFrom hreceived hscript
      rw [(f.poll_follows d script).copy, Flow.poll_task]
      refine ⟨hreads.1, fun heof => hreads.2 ?_⟩
      rcases hend : (copyBuf f.copy script).2 with _ | ⟨_ | _⟩ <;> rw [hend] at heof
      all_goals first | rfl | cases heof

variable {a : TcpRelay.Action}

/-- A poll of a relay takes nothing back from the stream. -/
theorem step_written {r r' : Relay} (hstep : TcpRelay.step r a = some r') :
    (r.flow .clientToServer).copy.written <+: (r'.flow .clientToServer).copy.written := by
  obtain ⟨f, f', hbefore, hpoll, hafter⟩ := step_flow hstep .clientToServer
  have hgrows := flowStep_written hpoll
  rwa [hbefore.copy_eq, ← hafter.copy_eq] at hgrows

/-- A stream that was finished belongs to a copy that is done, and stays as it is. -/
theorem step_of_finished {r r' : Relay}
    (hlawful : (r.flow .clientToServer).Lawful .clientToServer script)
    (hfinished : (r.flow .clientToServer).sink = .finished) (hstep : TcpRelay.step r a = some r') :
    r'.flow .clientToServer = r.flow .clientToServer := by
  obtain ⟨f, f', hbefore, hpoll, hafter⟩ := step_flow hstep .clientToServer
  have hdone := hlawful.eof_of_finished hfinished
  have hfirst : f = r.flow .clientToServer := by
    rcases hbefore with hf | hf
    · exact hf
    · rw [hf]
      exact Flow.notify_of_done hdone
  subst hfirst
  cases hpoll with
  | settled outcome htask =>
      rcases hafter with hf | hf
      · exact hf
      · rw [hf]
        exact Flow.notify_of_done hdone
  | aborted htask => rw [hdone] at htask; cases htask
  | polled htask => rw [hdone] at htask; simp at htask

/-- A poll of a relay goes on along what one of its copies reads. -/
theorem step_readsFrom {r r' : Relay} (hstep : TcpRelay.step r a = some r') {source : List UInt8}
    {ended : Bool} (hreceived : (r.flow d).copy.received <+: source)
    (hended : (r.flow d).task = .done .eof → ended = true ∧ (r.flow d).copy.received = source)
    (hscript : readsFrom source ended (r.flow d).copy (a.script d) = true) :
    (r'.flow d).copy.received <+: source ∧
      ((r'.flow d).task = .done .eof → ended = true ∧ (r'.flow d).copy.received = source) := by
  obtain ⟨f, f', hbefore, hpoll, hafter⟩ := step_flow hstep d
  rw [← hbefore.copy_eq] at hreceived hended hscript
  have hnew := flowStep_readsFrom hpoll hreceived (fun heof => hended (hbefore.done_iff.mp heof))
    hscript
  rw [hafter.copy_eq]
  exact ⟨hnew.1, fun heof => hnew.2 (hafter.done_iff.mp heof)⟩

/-- The writing copy of the polled end goes on; the stream keeps what it holds. -/
theorem Joined.write {e : End} (h : t.Joined e)
    (hlawful : (t.outgoing e).Lawful .clientToServer script)
    (hstep : TcpRelay.step (t.relay e) a = some r) : (t.setRelay e r).Joined e := by
  refine ⟨?_, fun heof => ?_⟩
  · rw [incoming_setRelay_other, outgoing_setRelay_self]
    exact h.received.trans (step_written hstep)
  · rw [incoming_setRelay_other] at heof
    obtain ⟨hfinished, hall⟩ := h.ended heof
    rw [incoming_setRelay_other, outgoing_setRelay_self, step_of_finished hlawful hfinished hstep]
    exact ⟨hfinished, hall⟩

/-- The reading copy of the polled end goes on along the stream. -/
theorem Joined.read {e : End} (h : t.Joined e.other)
    (hreads : readsFrom (t.outgoing e.other).copy.written
      (decide ((t.outgoing e.other).sink = .finished)) (t.incoming e).copy a.toClient = true)
    (hstep : TcpRelay.step (t.relay e) a = some r) : (t.setRelay e r).Joined e.other := by
  have hold := h.received
  have hended := h.ended
  rw [End.other_other] at hold hended
  have hnew := step_readsFrom hstep (d := .serverToClient) hold
    (fun heof => ⟨decide_eq_true (hended heof).1, (hended heof).2⟩) hreads
  refine ⟨?_, fun heof => ?_⟩
  · rw [End.other_other, incoming_setRelay_self, outgoing_setRelay_other]
    exact hnew.1
  · rw [End.other_other, incoming_setRelay_self] at heof
    obtain ⟨hfinished, hall⟩ := hnew.2 heof
    rw [End.other_other, incoming_setRelay_self, outgoing_setRelay_other]
    exact ⟨of_decide_eq_true hfinished, hall⟩

/-- Both directions of the stream are joined after every run. -/
theorem run_joined (hrun : run init polls = some t) (e : End) : t.Joined e := by
  revert e
  refine Transition.run_induction (P := fun _ t => ∀ e, t.Joined e) ?_ ?_ hrun
  · exact init_joined
  · intro polls p mid t hmidRun hmid hstep e
    obtain ⟨hreads, r, hr, rfl⟩ := step_eq_some hstep
    rcases p.side.eq_or_eq_other e with rfl | rfl
    · exact (hmid p.side).write (run_flow_lawful (run_relay hmidRun p.side) .clientToServer) hr
    · exact (hmid p.side.other).read hreads hr

/-- What has arrived at one end is the first part of what was read at the other. -/
theorem arrived_within (hrun : run init polls = some t) (e : End) :
    (t.incoming e.other).copy.written <+: (t.outgoing e).copy.received := by
  have hout := run_flow_lawful (run_relay hrun e) .clientToServer
  have hin := run_flow_lawful (run_relay hrun e.other) .serverToClient
  exact hin.balanced.written_prefix.trans
    ((run_joined hrun e).received.trans hout.balanced.written_prefix)

/-- The end of the stream arrives behind everything that was read, and the end of
that was read. -/
theorem arrived_of_eof (hrun : run init polls = some t) {e : End}
    (heof : (t.incoming e.other).task = .done .eof) :
    (t.incoming e.other).copy.written = (t.outgoing e).copy.received ∧
      .read [] ∈ offered (pollsAt e polls) .clientToServer := by
  have hout := run_flow_lawful (run_relay hrun e) .clientToServer
  have hin := run_flow_lawful (run_relay hrun e.other) .serverToClient
  obtain ⟨hfinished, hall⟩ := (run_joined hrun e).ended heof
  have hdone := hout.eof_of_finished hfinished
  refine ⟨?_, (hout.complete hdone).2⟩
  calc (t.incoming e.other).copy.written
      = (t.incoming e.other).copy.received := hin.written_eq heof
    _ = (t.outgoing e).copy.written := hall
    _ = (t.outgoing e).copy.received := hout.written_eq hdone

end TcpTunnel

open TcpTunnel

/-- After every run, in each direction: what has arrived at one end is the first
part of what was read from the TCP stream at the other; if the arriving copy read
the end of the stream, then the TCP stream had ended and all of it has arrived;
and unless a copy of the arriving end has failed, its TCP stream is closed for no
other reason. -/
theorem tcp_tunnel_transparent {polls : List Poll} {t : TcpTunnel}
    (hrun : TcpTunnel.run init polls = some t) (e : End) :
    (t.incoming e.other).copy.written <+: (t.outgoing e).copy.received ∧
    ((t.incoming e.other).task = .done .eof →
      (t.incoming e.other).copy.written = (t.outgoing e).copy.received ∧
        .read [] ∈ offered (pollsAt e polls) .clientToServer) ∧
    (¬(t.relay e.other).Failed → (t.incoming e.other).sink = .finished →
      (t.incoming e.other).task = .done .eof) := by
  refine ⟨arrived_within hrun e, arrived_of_eof hrun, fun hfailed hfinished => ?_⟩
  have hsink : ((t.relay e.other).flow .serverToClient).sink ≠ .unclosed := by
    rw [show (t.relay e.other).flow .serverToClient = t.incoming e.other from rfl, hfinished]
    exact nofun
  exact eof_of_closed (run_relay hrun e.other) hfailed hsink

/-- Two bytes pass from the application to the target in two pieces, and its end
behind them. -/
theorem tcp_tunnel_transparent_pieces :
    ∃ t, TcpTunnel.run init
        [⟨.near, ⟨.clientToServer, [.read [104, 105], .write 1], []⟩⟩,
          ⟨.far, ⟨.clientToServer, [], [.read [104], .write 1]⟩⟩,
          ⟨.near, ⟨.clientToServer, [.write 1, .read []], []⟩⟩,
          ⟨.far, ⟨.clientToServer, [], [.read [105], .write 1, .read []]⟩⟩] = some t ∧
      (t.incoming .far).sink = .finished ∧ (t.incoming .far).copy.written = [104, 105] ∧
      (t.incoming .far).copy.written = (t.outgoing .near).copy.received := by
  have hcheck : ((TcpTunnel.run init
      [⟨.near, ⟨.clientToServer, [.read [104, 105], .write 1], []⟩⟩,
        ⟨.far, ⟨.clientToServer, [], [.read [104], .write 1]⟩⟩,
        ⟨.near, ⟨.clientToServer, [.write 1, .read []], []⟩⟩,
        ⟨.far, ⟨.clientToServer, [], [.read [105], .write 1, .read []]⟩⟩]).any fun t =>
        decide ((t.incoming .far).task = .done .eof ∧ (t.incoming .far).sink = .finished ∧
          (t.incoming .far).copy.written = [104, 105])) = true := by
    decide +kernel
  obtain ⟨t, hrun, ht⟩ := (Option.any_eq_true _ _).mp hcheck
  obtain ⟨heof, hfinished, hwritten⟩ := of_decide_eq_true ht
  exact ⟨t, hrun, hfinished, hwritten, ((tcp_tunnel_transparent hrun .near).2.1 heof).1⟩

/-! ## Both directions can be carried to their end -/

/-- No copy has failed or was aborted. -/
def Calm (r : Relay) : Prop :=
  ∀ d, (r.flow d).task = .unpolled ∨ (r.flow d).task = .selecting false ∨
    (r.flow d).task = .done .eof

/-- A relay none of whose copies has failed is calm. -/
theorem run_calm {acts : List TcpRelay.Action} (hrun : TcpRelay.run Relay.init acts = some r)
    (hfailed : ¬r.Failed) : Calm r := by
  intro d
  have hfollows := run_follows hrun hfailed d
  cases hresult : (copyBuf Copy.start (offered acts d)).2 with
  | none => exact (hfollows.waiting hresult).imp_right .inl
  | some copyEnd =>
      have hdone := hfollows.ended copyEnd hresult
      cases copyEnd with
      | eof => exact .inr (.inr hdone)
      | errored => exact absurd ⟨d, hdone⟩ hfailed

theorem Calm.not_failed (h : Calm r) : ¬r.Failed := by
  rintro ⟨d, hd⟩
  have hcalm := h d
  rw [hd] at hcalm
  simp at hcalm

theorem Calm.ready (h : Calm r) (hopen : (r.flow d).task.isDone = false) :
    (r.flow d).task = .unpolled ∨ (r.flow d).task = .selecting false := by
  rcases h d with htask | htask | htask
  · exact .inl htask
  · exact .inr htask
  · rw [htask] at hopen
    cases hopen

theorem Calm.eof_of_isDone (h : Calm r) (hdone : (r.flow d).task.isDone = true) :
    (r.flow d).task = .done .eof := by
  rcases h d with htask | htask | htask
  · rw [htask] at hdone
    cases hdone
  · rw [htask] at hdone
    cases hdone
  · exact htask

/-- A poll of one direction whose copy does not fail leaves the other one alone. -/
theorem Calm.pollDir (h : Calm r) (hscript : (copyBuf (r.flow d).copy script).2 ≠ some .errored) :
    Calm (r.pollDir d script) ∧ (r.pollDir d script).flow d.other = r.flow d.other := by
  have hself : ((r.pollDir d script).flow d).task = .selecting false ∨
      ((r.pollDir d script).flow d).task = .done .eof := by
    cases hdone : (r.flow d).task.isDone with
    | true =>
        have heof := h.eof_of_isDone hdone
        rw [Relay.pollDir_of_done heof]
        exact .inr heof
    | false =>
        rw [Relay.pollDir_ready_self (h.ready hdone), Flow.poll_task]
        rcases hend : (copyBuf (r.flow d).copy script).2 with _ | ⟨_ | _⟩
        · exact .inl rfl
        · exact .inr rfl
        · exact absurd hend hscript
  have hother : (r.pollDir d script).flow d.other = r.flow d.other := by
    apply Relay.pollDir_other_eq
    rcases hself with htask | htask <;> rw [htask] <;> simp
  refine ⟨fun e => ?_, hother⟩
  rcases d.eq_or_eq_other e with rfl | rfl
  · exact .inr hself
  · rw [hother]
    exact h d.other

/-- A poll that begins with the copy towards the QUIC stream, unless both are done. -/
theorem step_of_open (hopen : (r.flow d).task.isDone = false)
    (toServer toClient : List (Io UInt8)) :
    TcpRelay.step r ⟨.clientToServer, toServer, toClient⟩ =
      some ((r.pollDir .clientToServer toServer).pollDir .serverToClient toClient) := by
  have hnot : (r.clientToServer.task.isDone && r.serverToClient.task.isDone) = false := by
    cases d with
    | clientToServer => rw [show r.clientToServer.task.isDone = false from hopen, Bool.false_and]
    | serverToClient => rw [show r.serverToClient.task.isDone = false from hopen, Bool.and_false]
  simp [TcpRelay.step, hnot, TcpRelay.Action.script, Dir.other]

/-- A calm relay can be polled so that one direction is carried to its end and the
other one, if it has ended, stays as it is. -/
theorem Calm.drive (h : Calm r) (hopen : (r.flow d).task.isDone = false)
    (hbalanced : (r.flow d).copy.Balanced) (rest : List UInt8) :
    ∃ a r', a.script d = readyScript (r.flow d).copy.buffer rest ∧ a.script d.other = [] ∧
      TcpRelay.step r a = some r' ∧ Calm r' ∧ (r'.flow d).task = .done .eof ∧
      (r'.flow d).copy.written = (r.flow d).copy.received ++ rest ∧
      ((r.flow d.other).task = .done .eof → r'.flow d.other = r.flow d.other) := by
  generalize hscript : readyScript (r.flow d).copy.buffer rest = script
  have hready : (copyBuf (r.flow d).copy script).2 ≠ some .errored := by
    rw [← hscript, copyBuf_ready]
    simp
  have hend : ((r.flow d).poll d script).task = .done .eof ∧
      ((r.flow d).poll d script).copy.written = (r.flow d).copy.received ++ rest := by
    rw [← hscript]
    exact FlowStep.delivers (.polled (h.ready hopen)) (h.ready hopen) hbalanced
  have hnil : ∀ f : Flow, (copyBuf f.copy []).2 ≠ some .errored := by
    intro f
    simp [copyBuf]
  cases d with
  | clientToServer =>
      obtain ⟨hcalm, hother⟩ := h.pollDir hready
      obtain ⟨hcalm', hother'⟩ := hcalm.pollDir (d := .serverToClient) (hnil _)
      have hself : ((r.pollDir .clientToServer script).pollDir .serverToClient []).flow
          .clientToServer = (r.flow .clientToServer).poll .clientToServer script :=
        hother'.trans (Relay.pollDir_ready_self (h.ready hopen) _)
      refine ⟨⟨.clientToServer, script, []⟩, _, rfl, rfl, step_of_open hopen _ _, hcalm', ?_, ?_,
        fun hdone => ?_⟩
      · rw [hself, hend.1]
      · rw [hself, hend.2]
      · have hdone' : ((r.pollDir .clientToServer script).flow .serverToClient).task
            = .done .eof := (congrArg Flow.task hother).trans hdone
        rw [Relay.pollDir_of_done hdone']
        exact hother
  | serverToClient =>
      obtain ⟨hcalm, hother⟩ := h.pollDir (d := .clientToServer) (hnil _)
      have hkept : (r.pollDir .clientToServer []).flow .serverToClient
          = r.flow .serverToClient := hother
      rw [← hkept] at hready
      obtain ⟨hcalm', hother'⟩ := hcalm.pollDir hready
      have hself : ((r.pollDir .clientToServer []).pollDir .serverToClient script).flow
          .serverToClient = (r.flow .serverToClient).poll .serverToClient script := by
        rw [Relay.pollDir_ready_self (by rw [hkept]; exact h.ready hopen), hkept]
      refine ⟨⟨.clientToServer, [], script⟩, _, rfl, rfl, step_of_open hopen _ _, hcalm', ?_, ?_,
        fun hdone => ?_⟩
      · rw [hself, hend.1]
      · rw [hself, hend.2]
      · have hsame : r.pollDir .clientToServer [] = r :=
          Relay.pollDir_of_done (d := .clientToServer) hdone []
        rw [hsame] at hother' ⊢
        exact hother'

namespace TcpTunnel

/-- A copy at one of the ends has failed. -/
def Failed (t : TcpTunnel) : Prop :=
  ∃ e, (t.relay e).Failed

/-- Both ends are calm. -/
def AllCalm (t : TcpTunnel) : Prop :=
  ∀ e, Calm (t.relay e)

theorem run_allCalm (hrun : run init polls = some t) (hfailed : ¬t.Failed) : t.AllCalm :=
  fun e => run_calm (run_relay hrun e) fun h => hfailed ⟨e, h⟩

theorem AllCalm.setRelay (h : t.AllCalm) {e : End} (hr : Calm r) : (t.setRelay e r).AllCalm := by
  intro f
  rcases e.eq_or_eq_other f with rfl | rfl
  · rwa [relay_setRelay_self]
  · rw [relay_setRelay_other]
    exact h e.other

/-- What an end still hands to the stream if its application goes on with `rest`. -/
def remaining (f : Flow) (rest : List UInt8) : List UInt8 :=
  if f.task.isDone then [] else rest

/-- The copy into the stream can be carried to its end. -/
theorem AllCalm.drive_outgoing (h : t.AllCalm) (hrun : run init polls = some t) (e : End)
    (rest : List UInt8) :
    ∃ more t', run t more = some t' ∧ t'.AllCalm ∧ (t'.outgoing e).task = .done .eof ∧
      (t'.outgoing e).copy.written = (t.outgoing e).copy.received ++ remaining (t.outgoing e) rest ∧
      t'.relay e.other = t.relay e.other := by
  have hlawful := run_flow_lawful (run_relay hrun e) .clientToServer
  cases hdone : (t.outgoing e).task.isDone with
  | true =>
      have heof : (t.outgoing e).task = .done .eof := (h e).eof_of_isDone hdone
      refine ⟨[], t, rfl, h, heof, ?_, rfl⟩
      rw [remaining, if_pos hdone, List.append_nil]
      exact hlawful.written_eq heof
  | false =>
      obtain ⟨a, r, -, hnil, hstep, hcalm, heof, hbytes, -⟩ :=
        (h e).drive hdone hlawful.balanced rest
      have hsome : step t ⟨e, a⟩ = some (t.setRelay e r) := by
        have htoClient : a.toClient = [] := hnil
        simp [step, htoClient, readsFrom, hstep]
      refine ⟨[⟨e, a⟩], t.setRelay e r, ?_, h.setRelay hcalm, ?_, ?_, relay_setRelay_other t e r⟩
      · exact Transition.run_cons_eq_some.mpr ⟨_, hsome, rfl⟩
      · rw [outgoing_setRelay_self, heof]
      · rw [outgoing_setRelay_self, hbytes, remaining, if_neg (by rw [hdone]; simp)]
        rfl

/-- Once the stream is finished, the copy out of it can be carried to its end. -/
theorem AllCalm.drive_incoming (h : t.AllCalm) (hrun : run init polls = some t) (e : End)
    (hsent : (t.outgoing e.other).task = .done .eof) :
    ∃ more t', run t more = some t' ∧ t'.AllCalm ∧ (t'.incoming e).task = .done .eof ∧
      (t'.incoming e).copy.written = (t.outgoing e.other).copy.written ∧
      ((t.outgoing e).task = .done .eof → t'.outgoing e = t.outgoing e) ∧
      t'.relay e.other = t.relay e.other := by
  have hlawful := run_flow_lawful (run_relay hrun e) .serverToClient
  have hfinished : (t.outgoing e.other).sink = .finished :=
    (run_flow_lawful (run_relay hrun e.other) .clientToServer).finished_of_eof hsent
  have hjoined := run_joined hrun e.other
  have hreceived := hjoined.received
  have hended := hjoined.ended
  rw [End.other_other] at hreceived hended
  cases hdone : (t.incoming e).task.isDone with
  | true =>
      have heof : (t.incoming e).task = .done .eof := (h e).eof_of_isDone hdone
      refine ⟨[], t, rfl, h, heof, ?_, fun _ => rfl, rfl⟩
      exact (hlawful.written_eq heof).trans (hended heof).2
  | false =>
      obtain ⟨rest, hrest⟩ := hreceived
      obtain ⟨a, r, hscript, -, hstep, hcalm, heof, hbytes, hkept⟩ :=
        (h e).drive hdone hlawful.balanced rest
      have hreads : readsFrom (t.outgoing e.other).copy.written
          (decide ((t.outgoing e.other).sink = .finished)) (t.incoming e).copy a.toClient
          = true := by
        rw [decide_eq_true hfinished, ← hrest, show a.toClient = _ from hscript]
        exact readsFrom_ready _ _
      have hsome : step t ⟨e, a⟩ = some (t.setRelay e r) := by
        rw [step]
        simp only [hreads, hstep, if_true, Option.map_some]
      refine ⟨[⟨e, a⟩], t.setRelay e r, ?_, h.setRelay hcalm, ?_, ?_, fun hout => ?_,
        relay_setRelay_other t e r⟩
      · exact Transition.run_cons_eq_some.mpr ⟨_, hsome, rfl⟩
      · rw [incoming_setRelay_self, heof]
      · rw [incoming_setRelay_self, hbytes]
        exact hrest
      · rw [outgoing_setRelay_self]
        exact hkept hout

/-- Both directions of a calm tunnel can be carried to their end. -/
theorem AllCalm.completes (h : t.AllCalm) (hrun : run init polls = some t)
    (rest : End → List UInt8) :
    ∃ more t', run t more = some t' ∧ t'.AllCalm ∧ ∀ e,
      (t'.outgoing e).task = .done .eof ∧ (t'.incoming e.other).task = .done .eof ∧
      (t'.incoming e.other).copy.written =
        (t.outgoing e).copy.received ++ remaining (t.outgoing e) (rest e) := by
  have happend : ∀ {polls more : List Poll} {t t' : TcpTunnel}, run init polls = some t →
      run t more = some t' → run init (polls ++ more) = some t' :=
    fun h h' => Transition.run_append_eq_some.mpr ⟨_, h, h'⟩
  -- First both streams are finished, then both are read to their end.
  obtain ⟨as, t₁, hrun₁, hcalm₁, hnear, hnearBytes, hfar₁⟩ :=
    h.drive_outgoing hrun .near (rest .near)
  have hto₁ := happend hrun hrun₁
  obtain ⟨bs, t₂, hrun₂, hcalm₂, hfar, hfarBytes, hnear₂⟩ :=
    hcalm₁.drive_outgoing hto₁ .far (rest .far)
  have hto₂ := happend hto₁ hrun₂
  have hnearOut : t₂.outgoing .near = t₁.outgoing .near :=
    congrArg (fun r => r.flow .clientToServer) hnear₂
  have hfarOut : t₁.outgoing .far = t.outgoing .far :=
    congrArg (fun r => r.flow .clientToServer) hfar₁
  have hnearDone : (t₂.outgoing .near).task = .done .eof := by rw [hnearOut, hnear]
  obtain ⟨cs, t₃, hrun₃, hcalm₃, hfarIn, hfarInBytes, hkept₃, hnear₃⟩ :=
    hcalm₂.drive_incoming hto₂ .far hnearDone
  have hto₃ := happend hto₂ hrun₃
  have hfarDone : (t₃.outgoing .far).task = .done .eof := by rw [hkept₃ hfar, hfar]
  have hnearOut₃ : t₃.outgoing .near = t₂.outgoing .near :=
    congrArg (fun r => r.flow .clientToServer) hnear₃
  obtain ⟨ds, t₄, hrun₄, hcalm₄, hnearIn, hnearInBytes, hkept₄, hfar₄⟩ :=
    hcalm₃.drive_incoming hto₃ .near hfarDone
  have hfarFinal : t₄.incoming .far = t₃.incoming .far :=
    congrArg (fun r => r.flow .serverToClient) hfar₄
  have hfarOut₄ : t₄.outgoing .far = t₃.outgoing .far :=
    congrArg (fun r => r.flow .clientToServer) hfar₄
  refine ⟨as ++ (bs ++ (cs ++ ds)), t₄, ?_, hcalm₄, fun e => ?_⟩
  · exact Transition.run_append_eq_some.mpr ⟨_, hrun₁, Transition.run_append_eq_some.mpr
      ⟨_, hrun₂, Transition.run_append_eq_some.mpr ⟨_, hrun₃, hrun₄⟩⟩⟩
  · cases e with
    | near =>
        have hout : (t₄.outgoing .near).task = .done .eof := by
          rw [hkept₄ (by rw [hnearOut₃, hnearDone]), hnearOut₃, hnearDone]
        have heof : (t₄.incoming .far).task = .done .eof := by rw [hfarFinal, hfarIn]
        refine ⟨hout, heof, ?_⟩
        calc (t₄.incoming .far).copy.written
            = (t₃.incoming .far).copy.written := by rw [hfarFinal]
          _ = (t₁.outgoing .near).copy.written := by
              rw [hfarInBytes, show End.other .far = .near from rfl, hnearOut]
          _ = _ := hnearBytes
    | far =>
        have hout : (t₄.outgoing .far).task = .done .eof := by rw [hfarOut₄, hfarDone]
        refine ⟨hout, hnearIn, ?_⟩
        calc (t₄.incoming .near).copy.written
            = (t₃.outgoing .far).copy.written := hnearInBytes
          _ = (t₂.outgoing .far).copy.written := by rw [hkept₃ hfar]
          _ = _ := by rw [hfarBytes, hfarOut]

end TcpTunnel

/-- From every state in which no copy has failed, and whatever the two TCP streams
still send, the ends can be polled so that both directions end: everything sent
has arrived in both directions, each TCP stream is closed behind it, and no copy
has failed. -/
theorem tcp_tunnel_completes {polls : List Poll} {t : TcpTunnel}
    (hrun : TcpTunnel.run init polls = some t) (hfailed : ¬t.Failed) (rest : End → List UInt8) :
    ∃ more t', TcpTunnel.run t more = some t' ∧ ¬t'.Failed ∧ ∀ e,
      (t'.incoming e.other).sink = .finished ∧
      (t'.incoming e.other).copy.written =
        (t.outgoing e).copy.received ++ remaining (t.outgoing e) (rest e) := by
  obtain ⟨more, t', hmore, hcalm, hall⟩ := (run_allCalm hrun hfailed).completes hrun rest
  refine ⟨more, t', hmore, fun ⟨e, he⟩ => (hcalm e).not_failed he, fun e => ?_⟩
  obtain ⟨-, heof, hbytes⟩ := hall e
  have hto := Transition.run_append_eq_some.mpr ⟨_, hrun, hmore⟩
  have hlawful := run_flow_lawful (run_relay hto e.other) .serverToClient
  exact ⟨hlawful.finished_of_eof heof, hbytes⟩

/-- From the start: the application sends two bytes, the target answers with one. -/
theorem tcp_tunnel_completes_start :
    ∃ more t', TcpTunnel.run init more = some t' ∧
      (t'.incoming .far).copy.written = [104, 105] ∧ (t'.incoming .near).copy.written = [33] := by
  have hfailed : ¬init.Failed := by
    rintro ⟨e, d, hd⟩
    cases e <;> cases d <;> cases hd
  have hstart : TcpTunnel.run init [] = some init := rfl
  obtain ⟨more, t', hrun, -, hall⟩ := tcp_tunnel_completes hstart hfailed
    fun e => if e = .near then [104, 105] else [33]
  exact ⟨more, t', hrun, (hall .near).2, (hall .far).2⟩

end EndToEnd
end Rusnel
