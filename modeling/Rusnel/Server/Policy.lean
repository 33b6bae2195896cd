import Rusnel.Server.Registry

/-!
# Access policy

The flags of the server decide which tunnels may be registered.  The decision is
taken once, when the hello is read; everything the server does later for a
client (conns it dials, listeners it runs) must stay within it.

Main results:

- Theorem {lit}`access_policy`: whatever any number of clients send, the server
  registers, answers, dials and listens within its flags.
-/

namespace Rusnel
namespace Server

variable {cfg : ServerConfig}

/-- The server may connect an opener to `target`: the opener names a forward
tunnel of the index, and the target is the one declared for it or, on a SOCKS5
tunnel and under the flag for these, the one in the opener. -/
def MayDial (cfg : ServerConfig) (sys : System) (opener : OpenConn)
    (target : Protocol × HostPort) : Prop :=
  ∃ t, sys.state.tunnel opener.tunnelId = some t ∧ t.direction = .forward ∧
    match t.kind with
    | .tcp _ remote => target = (.tcp, remote)
    | .udp _ remote => target = (.udp, remote)
    | .socks5 _ => cfg.allowSocks = true ∧
        ∃ dyn, opener.dynamic = some dyn ∧ target = (dyn.protocol, dyn.target)

variable {sys : System} {s : Session} {c : Nat}

/-- Every tunnel of a session obeys the policy. -/
theorem System.Lawful.tunnel_permitted (h : sys.Lawful cfg) (hs : sys.sessions[c]? = some s)
    {t : TunnelEntry} (ht : t ∈ s.tunnels ++ s.phase.inserted) :
    Permitted cfg t.direction t.kind := by
  have howned := (h.sessions c s hs).1.owned t ht
  exact howned.2

/-- Every indexed tunnel obeys the policy. -/
theorem System.Lawful.index_permitted (h : sys.Lawful cfg) {id : UInt64} {t : TunnelEntry}
    (ht : sys.state.tunnel id = some t) : Permitted cfg t.direction t.kind := by
  have hindex := h.index id t ht
  rcases hindex with ⟨_, c, s, hs, hmem⟩
  exact h.tunnel_permitted hs (List.mem_append_left _ hmem)

/-- Every tunnel in a client's own map obeys the policy. -/
theorem System.Lawful.map_permitted (h : sys.Lawful cfg) {arc : Nat}
    {e : Sigma fun _ : UInt64 => TunnelEntry} (he : e ∈ (sys.state.clientTunnels arc).entries) :
    Permitted cfg e.2.direction e.2.kind := by
  have hmap := h.clientTunnels arc e he
  rcases hmap with ⟨s, hs, hmem⟩
  exact h.tunnel_permitted hs hmem

/-! ## Answers to a hello -/

/-- An accepted hello is permitted. -/
theorem Session.Lawful.accepted_permitted (h : s.Lawful cfg) {ids : List UInt64}
    (hanswer : s.answer = some (.ok ids)) :
    ∃ remotes, s.remotes = some remotes ∧ ∀ r ∈ remotes, Permitted cfg r.direction r.kind := by
  have haccepted := h.accepted ids hanswer
  rcases haccepted with ⟨_, remotes, hremotes, hvalid, _⟩
  exact ⟨remotes, hremotes, (validateRemotes_eq_ok_iff cfg remotes).mp hvalid⟩

/-- A refused hello is not permitted, and its session has registered no tunnel,
drawn no id and spawned no handler. -/
theorem Session.Lawful.refused_idle (h : s.Lawful cfg) {reason : String}
    (hanswer : s.answer = some (.failed reason)) :
    (∃ remotes, s.remotes = some remotes ∧ ¬∀ r ∈ remotes, Permitted cfg r.direction r.kind) ∧
      s.tunnels = [] ∧ s.assignedIds = [] ∧ s.listeners = [] := by
  have hrefused := h.refused reason hanswer
  rcases hrefused with ⟨hover, htunnels, hlisteners, remotes, hremotes, herror⟩
  refine ⟨⟨remotes, hremotes, ?_⟩, htunnels, ?_, hlisteners⟩
  · intro hperm
    have hvalid := (validateRemotes_eq_ok_iff cfg remotes).mpr hperm
    rw [herror] at hvalid
    cases hvalid
  · have hdrawn : s.phase.drawnIds = [] := by
      cases hphase : s.phase <;> simp_all
    rw [Session.assignedIds, htunnels, hdrawn]
    rfl

/-- A hello that is not permitted is refused at once, and the registry stays as
it was. -/
theorem hello_refused (hs : sys.sessions[c]? = some s) (hphase : s.phase = .hello)
    {remotes : List RemoteRequest} (hperm : ¬∀ r ∈ remotes, Permitted cfg r.direction r.kind) :
    ∃ sys' s' reason, step cfg sys (.session c (.hello (.ok ⟨remotes⟩))) = some sys' ∧
      sys'.state = sys.state ∧ sys'.sessions[c]? = some s' ∧
      s'.answer = some (.failed reason) := by
  cases hvalid : validateRemotes cfg remotes with
  | ok _ => exact absurd ((validateRemotes_eq_ok_iff cfg remotes).mp hvalid) hperm
  | error reason =>
      have hact : stepSession cfg sys.state s (.hello (.ok ⟨remotes⟩)) = some (sys.state,
          { s with
            remotes := some remotes
            answer := some (.failed reason)
            phase := .closing ("hello rejected: " ++ reason) }) := by
        simp only [stepSession, hphase, hvalid]
      have hstep := step_session hs hact
      rcases hstep with ⟨sys', hstep, hst, hs'⟩
      exact ⟨sys', _, reason, hstep, hst, hs', rfl⟩

/-- A permitted hello can be registered and answered by the session's own steps. -/
theorem hello_accepted (hs : sys.sessions[c]? = some s) (hphase : s.phase = .hello)
    {remotes : List RemoteRequest} (hperm : ∀ r ∈ remotes, Permitted cfg r.direction r.kind) :
    ∃ sys' s' ids, Transition.run (step cfg) sys
        (((.hello (.ok ⟨remotes⟩)) :: registration remotes).map (.session c)) = some sys' ∧
      sys'.sessions[c]? = some s' ∧ s'.answer = some (.ok ids) := by
  have hvalid := (validateRemotes_eq_ok_iff cfg remotes).mpr hperm
  have hact : stepSession cfg sys.state s (.hello (.ok ⟨remotes⟩)) = some (sys.state,
      { s with remotes := some remotes, phase := .registering remotes }) := by
    simp only [stepSession, hphase, hvalid]
  have hstep := step_session hs hact
  rcases hstep with ⟨mid, hstep, _, hmid⟩
  have hrest := registration_answers cfg c remotes hmid rfl
  rcases hrest with ⟨sys', s', ids, hrun, hs', hanswer⟩
  refine ⟨sys', s', ids, ?_, hs', hanswer⟩
  rw [List.map_cons]
  exact Transition.run_cons_eq_some.mpr ⟨mid, hstep, hrun⟩

/-! ## Dialed targets -/

/-- A task of session `c` with this opener, tunnel and dispatch exists. -/
def HasTask (sys : System) (c : Nat) (opener : OpenConn) (tunnel : TunnelEntry)
    (dispatch : ForwardDispatch) : Prop :=
  ∃ s task, sys.sessions[c]? = some s ∧ task ∈ s.conns ∧ task.opener = opener ∧
    task.tunnel = tunnel ∧ task.dispatch = dispatch

/-- A task exists because it did before the step, or because the step is its
opener, resolved through the index. -/
theorem hasTask_step {sys sys' : System} {a : Action} (hstep : step cfg sys a = some sys')
    {opener : OpenConn} {tunnel : TunnelEntry} {dispatch : ForwardDispatch}
    (h : HasTask sys' c opener tunnel dispatch) :
    HasTask sys c opener tunnel dispatch ∨
      (a = .session c (.openConn opener) ∧ sys.state.tunnel opener.tunnelId = some tunnel ∧
        resolveDispatch tunnel opener.dynamic = .ok dispatch) := by
  rcases h with ⟨s, task, hs, htask, rfl, rfl, rfl⟩
  rcases step_cases hstep with
    ⟨remote, rfl, _, _, heq⟩ | ⟨k, act, old, new, rfl, hold, hact, _, heq⟩
  · left
    rcases accept_session_cases heq hs with hs | ⟨rfl, rfl⟩
    · exact ⟨s, task, hs, htask, rfl, rfl, rfl⟩
    · simp [Session.new] at htask
  · rw [heq] at hs
    rcases Indexed.getElem?_set_cases hs with ⟨rfl, rfl⟩ | ⟨_, hother⟩
    · cases hact.conn_origin htask with
      | kept hmem => exact .inl ⟨old, task, hold, hmem, rfl, rfl, rfl⟩
      | started before conn hmem htask hclient =>
          subst htask
          exact .inl ⟨old, before, hold, hmem, rfl, rfl, rfl⟩
      | opened hopen hlookup hdispatch hstage =>
          subst hopen
          exact .inr ⟨rfl, hlookup, hdispatch⟩
    · exact .inl ⟨s, task, hother, htask, rfl, rfl, rfl⟩

/-- What an opener is resolved to through the index may be dialed. -/
theorem System.Lawful.mayDial (h : sys.Lawful cfg) {opener : OpenConn} {tunnel : TunnelEntry}
    {dispatch : ForwardDispatch} {target : Protocol × HostPort}
    (hlookup : sys.state.tunnel opener.tunnelId = some tunnel)
    (hdispatch : resolveDispatch tunnel opener.dynamic = .ok dispatch)
    (htarget : dispatch.target = some target) : MayDial cfg sys opener target := by
  have hperm := h.index_permitted hlookup
  have hforward := ((resolveDispatch_eq_ok_iff tunnel opener.dynamic).mp ⟨_, hdispatch⟩).1
  rw [resolveDispatch_target hdispatch] at htarget
  refine ⟨tunnel, hlookup, hforward, ?_⟩
  rcases hkind : tunnel.kind with ⟨a, remote⟩ | ⟨a, remote⟩ | ⟨a⟩ <;>
    rcases hdyn : opener.dynamic with _ | dyn <;> simp only [hkind, hdyn, connTarget] at htarget <;>
    cases htarget
  · rfl
  · rfl
  · exact ⟨hperm.2 ⟨a, hkind⟩, dyn, rfl, rfl⟩

/-- Every dialed target goes back to an opener that could be connected to it
when it was looked up. -/
theorem dialed_may {acts : List Action} (hrun : run cfg acts = some sys)
    (hs : sys.sessions[c]? = some s) {task : ConnTask} (htask : task ∈ s.conns)
    {target : Protocol × HostPort} (hdialed : task.dialed = some target) :
    Transition.Occurred (step cfg) (System.init cfg) acts fun mid a =>
      a = .session c (.openConn task.opener) ∧ MayDial cfg mid task.opener target := by
  have htarget : task.dispatch.target = some target := by
    unfold ConnTask.dialed at hdialed
    split at hdialed
    · cases hdialed
    · exact hdialed
  have hopened := Transition.run_history
    (F := fun (x : OpenConn × TunnelEntry × ForwardDispatch) sys =>
      HasTask sys c x.1 x.2.1 x.2.2)
    (E := fun x mid a => a = .session c (.openConn x.1) ∧
      mid.state.tunnel x.1.tunnelId = some x.2.1 ∧
      resolveDispatch x.2.1 x.1.dynamic = .ok x.2.2)
    (fun x hF => by simp [HasTask, System.init] at hF)
    (fun x mid a t hstep hF => hasTask_step hstep hF) hrun
    (task.opener, task.tunnel, task.dispatch) ⟨s, task, hs, htask, rfl, rfl, rfl⟩
  rcases hopened with ⟨before, a, after, mid, hacts, hmid, hact, hlookup, hdispatch⟩
  exact ⟨before, a, after, mid, hacts, hmid, hact,
    (run_lawful hmid).mayDial hlookup hdispatch htarget⟩

/-! ## Listeners -/

/-- A running reverse handler belongs to a reverse tunnel of a session that has
been accepted and has not ended, and the flags allow it. -/
theorem System.Lawful.listener_permitted (h : sys.Lawful cfg) (hs : sys.sessions[c]? = some s)
    {t : TunnelEntry} (ht : t ∈ s.listeners) :
    t ∈ s.tunnels ∧ t.direction = .reverse ∧ s.phase.live = true ∧ cfg.allowReverse = true ∧
      ((∃ a, t.kind = .socks5 a) → cfg.allowSocks = true) := by
  have hlistening := (h.sessions c s hs).1.listening t ht
  rcases hlistening with ⟨hmem, hreverse, hlive⟩
  have hperm := h.tunnel_permitted hs (List.mem_append_left _ hmem)
  exact ⟨hmem, hreverse, hlive, hperm.1 hreverse, hperm.2⟩

/-- Under every interleaving of any number of clients with arbitrary hellos and
openers:

- every tunnel of the registry is permitted;
- a hello that has been answered was answered `Ok` if all its remotes are
  permitted and `Failed` otherwise, a refused one leaving no tunnel, no drawn id
  and no handler behind; a hello about to be read is refused without touching
  the registry if it is not permitted, and can be answered `Ok` if it is;
- every dialed target goes back to an opener that may be connected to it;
- every reverse handler runs for a registered, permitted reverse tunnel of a live
  session, which is indexed as long as the ids have not wrapped. -/
theorem access_policy {acts : List Action} {sys : System} (hrun : run cfg acts = some sys) :
    ((∀ id t, sys.state.tunnel id = some t → Permitted cfg t.direction t.kind) ∧
      ∀ arc e, e ∈ (sys.state.clientTunnels arc).entries →
        Permitted cfg e.2.direction e.2.kind) ∧
    (∀ (c : Nat) (s : Session), sys.sessions[c]? = some s →
      (∀ ids, s.answer = some (.ok ids) → ∃ remotes, s.remotes = some remotes ∧
        ∀ r ∈ remotes, Permitted cfg r.direction r.kind) ∧
      (∀ reason, s.answer = some (.failed reason) →
        (∃ remotes, s.remotes = some remotes ∧
          ¬∀ r ∈ remotes, Permitted cfg r.direction r.kind) ∧
        s.tunnels = [] ∧ s.assignedIds = [] ∧ s.listeners = []) ∧
      ∀ remotes : List RemoteRequest, s.phase = .hello →
        ((¬∀ r ∈ remotes, Permitted cfg r.direction r.kind) →
          ∃ sys' s' reason, step cfg sys (.session c (.hello (.ok ⟨remotes⟩))) = some sys' ∧
            sys'.state = sys.state ∧ sys'.sessions[c]? = some s' ∧
            s'.answer = some (.failed reason)) ∧
        ((∀ r ∈ remotes, Permitted cfg r.direction r.kind) →
          ∃ sys' s' ids, Transition.run (step cfg) sys
              (((.hello (.ok ⟨remotes⟩)) :: registration remotes).map (.session c)) =
                some sys' ∧
            sys'.sessions[c]? = some s' ∧ s'.answer = some (.ok ids))) ∧
    (∀ (c : Nat) (s : Session), sys.sessions[c]? = some s → ∀ task ∈ s.conns,
      ∀ target, task.dialed = some target →
        Transition.Occurred (step cfg) (System.init cfg) acts fun mid a =>
          a = .session c (.openConn task.opener) ∧ MayDial cfg mid task.opener target) ∧
    ∀ (c : Nat) (s : Session), sys.sessions[c]? = some s → ∀ t ∈ s.listeners,
      (t ∈ s.tunnels ∧ t.direction = .reverse ∧ s.phase.live = true ∧
        cfg.allowReverse = true ∧ ((∃ a, t.kind = .socks5 a) → cfg.allowSocks = true)) ∧
      (sys.Unwrapped → sys.state.tunnel t.id = some t) := by
  have h := run_lawful hrun
  refine ⟨⟨fun id t ht => h.index_permitted ht, fun arc e he => h.map_permitted he⟩, ?_, ?_, ?_⟩
  · intro c s hs
    have hlawful := (h.sessions c s hs).1
    refine ⟨fun ids hanswer => hlawful.accepted_permitted hanswer,
      fun reason hanswer => hlawful.refused_idle hanswer, ?_⟩
    intro remotes hphase
    exact ⟨hello_refused hs hphase, hello_accepted hs hphase⟩
  · intro c s hs task htask target hdialed
    exact dialed_may hrun hs htask hdialed
  · intro c s hs t ht
    have hlistener := h.listener_permitted hs ht
    refine ⟨hlistener, fun hlt => ?_⟩
    have hopen : s.phase ≠ .returned := by
      intro hreturned
      simp [hreturned] at hlistener
    exact (run_counted hrun hlt).indexed c s hs hopen t hlistener.1

/-- A client of a server with both flags declares a reverse SOCKS5 and a forward
UDP tunnel and opens a conn on the second. -/
def reverseSocksRun : List Action :=
  .accept (.v4 ⟨10, 0, 0, 1⟩ 40000) ::
    establish 0 [.new .reverse (.socks5 (.v4 ⟨127, 0, 0, 1⟩ 1080)),
      .new .forward (.udp (.v4 ⟨127, 0, 0, 1⟩ 53) ⟨"10.1.1.1", 53⟩)] ++
    [.session 0 (.openConn ⟨2, none⟩), .session 0 (.replyOpenConn 0 true)]

theorem access_policy_reverse_socks :
    ∃ sys s t task, run ⟨true, true, none⟩ reverseSocksRun = some sys ∧
      sys.sessions[0]? = some s ∧ s.listeners = [t] ∧ s.conns = [task] ∧
      t ∈ s.tunnels ∧ t.direction = .reverse ∧ Permitted ⟨true, true, none⟩ t.direction t.kind ∧
      Transition.Occurred (step ⟨true, true, none⟩) (System.init ⟨true, true, none⟩)
        reverseSocksRun fun mid a => a = .session 0 (.openConn task.opener) ∧
          MayDial ⟨true, true, none⟩ mid task.opener (.udp, ⟨"10.1.1.1", 53⟩) := by
  have hrun := (Option.some_get
    (show (run ⟨true, true, none⟩ reverseSocksRun).isSome = true by decide +kernel)).symm
  have hpolicy := access_policy hrun
  have hlistener := hpolicy.2.2.2 0 _ rfl _ (List.mem_singleton_self _)
  refine ⟨_, _, _, _, hrun, rfl, rfl, rfl, hlistener.1.1, hlistener.1.2.1,
    hpolicy.1.1 1 _ rfl, hpolicy.2.2.1 0 _ rfl _ (List.mem_singleton_self _) _ rfl⟩

end Server
end Rusnel
