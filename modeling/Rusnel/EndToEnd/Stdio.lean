import Rusnel.EndToEnd.TcpTunnel

/-!
# A stdio tunnel

{lit}`tunnel_stdio_client` joins the same two copies as a TCP relay does, with the
process's stdin and stdout in place of the TCP stream.  What differs is the end of
the copy to stdout: it is flushed and stays open.  Nothing that a relay does
depends on that, so with a TCP target the tunnel runs as a TCP tunnel does.

Main results:

- Theorem {lit}`stdioRun_eq`: a stdio tunnel is a TCP tunnel whose stdout is
  not closed.
- Theorem {lit}`stdio_tunnel_ends`: the client's end returns, unless a copy has
  failed, only once both stdin and the target have ended.
- Theorem {lit}`stdio_tunnel_completes`: as long as no copy has failed it can be
  brought to return.
-/

namespace Rusnel
namespace EndToEnd

open BufferedCopy TcpRelay TcpTunnel

/-! ## The client's end -/

/-- At the end of the copy to it, stdout is flushed and not closed. -/
def keepStdout (r : Relay) : Relay :=
  { r with serverToClient := { r.serverToClient with sink := .unclosed } }

/-- A poll of the join of `tunnel_stdio_client`: from stdin to the QUIC stream, and
from the QUIC stream to stdout. -/
def stdioStep (r : Relay) (a : TcpRelay.Action) : Option Relay :=
  (TcpRelay.step r a).map keepStdout

/-- Both copies are done. -/
def Returned (r : Relay) : Prop :=
  r.clientToServer.task.isDone = true ∧ r.serverToClient.task.isDone = true

/-- A stdio tunnel: at the near end stdin and stdout, at the far end a TCP target. -/
def stdioTunnelStep (t : TcpTunnel) (p : Poll) : Option TcpTunnel :=
  let writer := t.outgoing p.side.other
  if readsFrom writer.copy.written (decide (writer.sink = .finished)) (t.incoming p.side).copy
      p.action.toClient then
    match p.side with
    | .near => (stdioStep t.near p.action).map (t.setRelay .near)
    | .far => (TcpRelay.step t.far p.action).map (t.setRelay .far)
  else none

abbrev stdioRun (t : TcpTunnel) (polls : List Poll) : Option TcpTunnel :=
  Transition.run stdioTunnelStep t polls

/-! ## No copy looks at stdout -/

theorem keepStdout_notifyWaiters (r : Relay) :
    keepStdout (keepStdout r).notifyWaiters = keepStdout r.notifyWaiters := by
  rcases r with ⟨f, ⟨copy, _ | notified | outcome, sink⟩⟩ <;> rfl

theorem keepStdout_setFlow_poll (r : Relay) (d : Dir) (script : List (Io UInt8)) :
    keepStdout ((keepStdout r).setFlow d (((keepStdout r).flow d).poll d script)) =
      keepStdout (r.setFlow d ((r.flow d).poll d script)) := by
  cases d with
  | clientToServer => rfl
  | serverToClient =>
      rcases r with ⟨f, ⟨copy, task, sink⟩⟩
      simp only [keepStdout, Relay.flow, Relay.setFlow, Flow.poll]
      split <;> rfl

/-- A poll of one direction does to the copies what it does in a TCP relay. -/
theorem keepStdout_pollDir (r : Relay) (d : Dir) (script : List (Io UInt8)) :
    keepStdout ((keepStdout r).pollDir d script) = keepStdout (r.pollDir d script) := by
  have htask : ((keepStdout r).flow d).task = (r.flow d).task := by cases d <;> rfl
  have hcopy : ((keepStdout r).flow d).copy = (r.flow d).copy := by cases d <;> rfl
  rcases (r.flow d).task.cases_ready with ⟨outcome, h⟩ | h | h
  · rw [Relay.pollDir_of_done h, Relay.pollDir_of_done (htask.trans h)]
    rfl
  · rw [Relay.pollDir_of_notified h, Relay.pollDir_of_notified (htask.trans h)]
    cases d <;> rfl
  · have hready : ((keepStdout r).flow d).task = .unpolled ∨
        ((keepStdout r).flow d).task = .selecting false := by rwa [htask]
    have hpoll : (((keepStdout r).flow d).poll d script).task =
        ((r.flow d).poll d script).task := by
      rw [Flow.poll_task, Flow.poll_task, hcopy]
    rw [Relay.pollDir_of_ready h, Relay.pollDir_of_ready hready, hpoll]
    split
    · rw [← keepStdout_notifyWaiters, keepStdout_setFlow_poll, keepStdout_notifyWaiters]
    · exact keepStdout_setFlow_poll r d script

theorem keepStdout_step (r : Relay) (a : TcpRelay.Action) :
    (TcpRelay.step (keepStdout r) a).map keepStdout = (TcpRelay.step r a).map keepStdout := by
  have hboth : ∀ d e s s', keepStdout (((keepStdout r).pollDir d s).pollDir e s') =
      keepStdout ((r.pollDir d s).pollDir e s') := by
    intro d e s s'
    rw [← keepStdout_pollDir, keepStdout_pollDir r d s, keepStdout_pollDir]
  unfold TcpRelay.step
  simp only [show (keepStdout r).clientToServer = r.clientToServer from rfl,
    show (keepStdout r).serverToClient.task = r.serverToClient.task from rfl]
  split_ifs
  · rfl
  · rfl
  · simp only [Option.map_some, hboth]

/-! ## A stdio tunnel runs as a TCP tunnel does -/

/-- A TCP tunnel as a stdio tunnel shows it. -/
def shown (t : TcpTunnel) : TcpTunnel :=
  { t with near := keepStdout t.near }

theorem stdioTunnelStep_shown (t : TcpTunnel) (p : Poll) :
    stdioTunnelStep (shown t) p = (TcpTunnel.step t p).map shown := by
  rcases p with ⟨side, action⟩
  simp only [stdioTunnelStep, TcpTunnel.step]
  -- the stream that is read, and what was read of it, are the same
  have hwriter : (shown t).outgoing side.other = t.outgoing side.other := by cases side <;> rfl
  have hreader : ((shown t).incoming side).copy = (t.incoming side).copy := by cases side <;> rfl
  rw [hwriter, hreader]
  split_ifs
  · cases side with
    | near =>
        have hstep : stdioStep (shown t).near action =
            (TcpRelay.step t.near action).map keepStdout :=
          keepStdout_step t.near action
        simp only [hstep, Option.map_map]
        rfl
    | far =>
        simp only [Option.map_map]
        rfl
  · rfl

/-- A run of a stdio tunnel is a run of a TCP tunnel with the same polls. -/
theorem stdioRun_eq (t : TcpTunnel) (polls : List Poll) :
    stdioRun (shown t) polls = (TcpTunnel.run t polls).map shown :=
  Transition.run_map stdioTunnelStep_shown t polls

theorem stdioRun_init {polls : List Poll} {u : TcpTunnel} (hrun : stdioRun init polls = some u) :
    ∃ t, TcpTunnel.run init polls = some t ∧ u = shown t := by
  rw [show init = shown init from rfl, stdioRun_eq] at hrun
  obtain ⟨t, ht, rfl⟩ := Option.map_eq_some_iff.mp hrun
  exact ⟨t, ht, rfl⟩

/-! ## The end of a stdio tunnel -/

/-- After every run of a stdio tunnel to a TCP target: what has appeared on stdout is
the first part of what the target has sent, what has reached the target is the first
part of stdin, and stdout is not closed.  If the client's end has returned and none of
its copies has failed, then both have ended: stdin was read to its end and handed over
whole, and the target has closed its side and everything it sent has appeared.  The end
of one of them alone does not end the tunnel. -/
theorem stdio_tunnel_ends {polls : List Poll} {u : TcpTunnel}
    (hrun : stdioRun init polls = some u) :
    (u.incoming .near).copy.written <+: (u.outgoing .far).copy.received ∧
    (u.incoming .far).copy.written <+: (u.outgoing .near).copy.received ∧
    (u.incoming .near).sink = .unclosed ∧
    (Returned u.near → ¬u.near.Failed →
      (.read [] ∈ offered (pollsAt .near polls) .clientToServer ∧
        (u.outgoing .near).copy.written = (u.outgoing .near).copy.received ∧
        (u.outgoing .near).sink = .finished) ∧
      .read [] ∈ offered (pollsAt .far polls) .clientToServer ∧
        (u.incoming .near).copy.written = (u.outgoing .far).copy.received) := by
  obtain ⟨t, ht, rfl⟩ := stdioRun_init hrun
  refine ⟨arrived_within ht .far, arrived_within ht .near, rfl, fun hreturned hfailed => ?_⟩
  have hnot : ¬t.near.Failed := by
    rintro ⟨d, hd⟩
    exact hfailed ⟨d, by cases d <;> exact hd⟩
  have heof : ∀ d, (t.near.flow d).task = .done .eof := by
    intro d
    have hdone : (t.near.flow d).task.isDone = true := by
      cases d with
      | clientToServer => exact hreturned.1
      | serverToClient => exact hreturned.2
    have hfollows := run_follows (run_relay ht .near) hnot d
    exact hfollows.eof_of_done (fun herrored => hnot ⟨d, herrored⟩) hdone
  have hout := run_flow_lawful (run_relay ht .near) .clientToServer
  obtain ⟨hall, hclosed⟩ := arrived_of_eof (e := .far) ht (heof .serverToClient)
  exact ⟨⟨(hout.complete (heof .clientToServer)).2, hout.written_eq (heof .clientToServer),
    hout.finished_of_eof (heof .clientToServer)⟩, hclosed, hall⟩

/-- A short session: `hi` goes out, `!` comes back, and both sides end. -/
def stdioSession : List Poll :=
  [⟨.near, ⟨.clientToServer, [.read [104, 105], .write 2, .read []], []⟩⟩,
    ⟨.far, ⟨.clientToServer, [.read [33], .write 1, .read []],
      [.read [104, 105], .write 2, .read []]⟩⟩,
    ⟨.near, ⟨.clientToServer, [], [.read [33], .write 1, .read []]⟩⟩]

theorem stdio_tunnel_ends_session :
    ∃ u, stdioRun init stdioSession = some u ∧ Returned u.near ∧
      (u.incoming .near).copy.written = [33] ∧ (u.incoming .near).sink = .unclosed ∧
      (u.incoming .near).copy.written = (u.outgoing .far).copy.received := by
  have hcheck : ((stdioRun init stdioSession).any fun u =>
      decide ((u.near.clientToServer.task.isDone = true ∧
        u.near.serverToClient.task.isDone = true) ∧
        u.near.clientToServer.task = .done .eof ∧ u.near.serverToClient.task = .done .eof ∧
        (u.incoming .near).copy.written = [33])) = true := by
    decide +kernel
  obtain ⟨u, hrun, hu⟩ := (Option.any_eq_true _ _).mp hcheck
  obtain ⟨hreturned, hout, hin, hwritten⟩ := of_decide_eq_true hu
  have hfailed : ¬u.near.Failed := by
    rintro ⟨d, hd⟩
    cases d with
    | clientToServer => cases hout.symm.trans hd
    | serverToClient => cases hin.symm.trans hd
  obtain ⟨-, -, hopen, hends⟩ := stdio_tunnel_ends hrun
  exact ⟨u, hrun, hreturned, hwritten, hopen, (hends hreturned hfailed).2.2⟩

/-- From every state of a stdio tunnel to a TCP target in which no copy has failed, and
whatever stdin and the target still send, the tunnel can be polled until the client's
end returns, with everything delivered in both directions. -/
theorem stdio_tunnel_completes {polls : List Poll} {u : TcpTunnel}
    (hrun : stdioRun init polls = some u) (hfailed : ¬u.Failed) (rest : End → List UInt8) :
    ∃ more u', stdioRun u more = some u' ∧ Returned u'.near ∧ ¬u'.Failed ∧ ∀ e,
      (u'.incoming e.other).copy.written =
        (u.outgoing e).copy.received ++ remaining (u.outgoing e) (rest e) := by
  obtain ⟨t, ht, rfl⟩ := stdioRun_init hrun
  have hshown : ∀ s : TcpTunnel, (shown s).Failed ↔ s.Failed := by
    intro s
    constructor
    · rintro ⟨e, d, hd⟩
      exact ⟨e, d, by cases e <;> cases d <;> exact hd⟩
    · rintro ⟨e, d, hd⟩
      exact ⟨e, d, by cases e <;> cases d <;> exact hd⟩
  rw [hshown] at hfailed
  obtain ⟨more, t', hmore, hcalm, hall⟩ := (run_allCalm ht hfailed).completes ht rest
  refine ⟨more, shown t', ?_, ⟨?_, ?_⟩, ?_, fun e => ?_⟩
  · rw [stdioRun_eq, hmore]
    rfl
  · exact congrArg Task.isDone (hall .near).1
  · exact congrArg Task.isDone (hall .far).2.1
  · rw [hshown]
    exact fun ⟨e, he⟩ => (hcalm e).not_failed he
  · cases e with
    | near => exact (hall .near).2.2
    | far => exact (hall .far).2.2

theorem stdio_tunnel_completes_start :
    ∃ more u', stdioRun init more = some u' ∧ Returned u'.near ∧
      (u'.incoming .near).copy.written = [33] := by
  have hfailed : ¬init.Failed := by
    rintro ⟨e, d, hd⟩
    cases e <;> cases d <;> cases hd
  have hstart : stdioRun init [] = some init := rfl
  obtain ⟨more, u', hrun, hreturned, -, hall⟩ := stdio_tunnel_completes hstart hfailed
    fun e => if e = .near then [104, 105] else [33]
  exact ⟨more, u', hrun, hreturned, hall .far⟩

end EndToEnd
end Rusnel
