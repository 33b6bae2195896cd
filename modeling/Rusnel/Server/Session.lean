import Rusnel.Foundation.Transition
import Rusnel.Server.Dispatch

/-!
# Sessions of a running server

One session per accepted connection, all sharing the registry.  A session reads
its hello, registers the declared remotes one atomic registry call at a time,
spawns its reverse handlers and then serves conn openers until the connection
ends.  What peers and the network do (the hello's contents, openers, failed
writes, disconnects) is part of the actions, so a list of actions is one
interleaving of any number of sessions.
-/

namespace Rusnel
namespace Server

open Net

/-! ## One session -/

/-- Where a conn task stands after its opener was looked up and dispatched. -/
inductive ConnStage where
  /-- The `Ok` reply is being written. -/
  | acking
  /-- The reply was written: the conn is registered and its target dialed. -/
  | running (conn : ConnEntry)
deriving DecidableEq, Repr

/-- A conn task: the opener it read, the tunnel it looked up and what that
resolved to. -/
structure ConnTask where
  opener : OpenConn
  tunnel : TunnelEntry
  dispatch : ForwardDispatch
  stage : ConnStage
deriving DecidableEq, Repr

/-- The target a conn task has dialed, if it got that far. -/
def ConnTask.dialed (task : ConnTask) : Option (Protocol × HostPort) :=
  match task.stage with
  | .acking => none
  | .running _ => task.dispatch.target

/-- The task once its reply was written and its conn registered. -/
def ConnTask.started (task : ConnTask) (conn : ConnEntry) : ConnTask :=
  { task with stage := .running conn }

/-- Control point of a session. -/
inductive Phase where
  /-- The connection attempt was admitted; the handshake is under way. -/
  | handshake
  /-- Waiting for the hello. -/
  | hello
  /-- Registering: these remotes are still to be done. -/
  | registering (todo : List RemoteRequest)
  /-- An id was drawn for `req`. -/
  | allocated (id : UInt64) (req : RemoteRequest) (todo : List RemoteRequest)
  /-- `entry` is in the client's own map, not yet in the global index. -/
  | inserting (entry : TunnelEntry) (todo : List RemoteRequest)
  /-- The hello was answered; handlers for `rest` are still to be spawned. -/
  | spawning (rest : List TunnelEntry)
  /-- Accepting conn openers. -/
  | serving
  /-- The session is over and its tasks are gone; the client is still registered. -/
  | closing (reason : String)
  /-- Deregistered. -/
  | returned
deriving DecidableEq, Repr

/-- One session of the server. -/
structure Session where
  client : ClientEntry
  phase : Phase
  /-- The remotes of the hello, once read. -/
  remotes : Option (List RemoteRequest)
  /-- The reply to the hello, once written. -/
  answer : Option SessionHelloResponse
  /-- Tunnels registered so far, in the order of the hello. -/
  tunnels : List TunnelEntry
  /-- Tunnels whose reverse handler is running. -/
  listeners : List TunnelEntry
  conns : List ConnTask
deriving DecidableEq, Repr

/-- A session as its connection is admitted. -/
def Session.new (client : ClientEntry) : Session where
  client := client
  phase := .handshake
  remotes := none
  answer := none
  tunnels := []
  listeners := []
  conns := []

/-- What can happen next in a session. -/
inductive SessionAction where
  /-- The handshake completes or fails. -/
  | handshake (done : Bool)
  /-- The hello arrives, or reading it fails with an error. -/
  | hello (received : Except String SessionHello)
  /-- Draw an id for the next remote. -/
  | allocTunnelId
  /-- Enter the new record in the client's own map. -/
  | insertClientTunnel
  /-- Enter the new record in the global index. -/
  | insertTunnel
  /-- Write the `Ok` reply to the hello. -/
  | replyHello (written : Except String Unit)
  /-- Look at the next registered tunnel and spawn its handler if it is reverse. -/
  | spawnReverse
  /-- A stream is accepted and its opener read. -/
  | openConn (opener : OpenConn)
  /-- Write the `Ok` reply of conn task `i`. -/
  | replyOpenConn (i : Nat) (written : Bool)
  /-- The data-plane handler of conn task `i` returns. -/
  | connDone (i : Nat)
  /-- Reverse handler `i` returns. -/
  | listenerDone (i : Nat)
  /-- The connection ends. -/
  | disconnect (reason : String)
  /-- Take the client out of the registry. -/
  | deregister
deriving DecidableEq, Repr

/-- Look an opener up and resolve it; the error is the reason replied. -/
def lookupOpenConn (st : ServerState) (opener : OpenConn) :
    Except String (TunnelEntry × ForwardDispatch) :=
  match st.tunnel opener.tunnelId with
  | none => .error ("unknown tunnel id " ++ toString opener.tunnelId)
  | some tunnel =>
      match resolveDispatch tunnel opener.dynamic with
      | .error e => .error e
      | .ok dispatch => .ok (tunnel, dispatch)

/-- The conn registrations of dropped tasks end with them. -/
def dropTasks (st : ServerState) (tasks : List ConnTask) : ServerState :=
  tasks.foldl (fun st task =>
    match task.stage with
    | .acking => st
    | .running conn => st.closeConn task.tunnel conn) st

/-- One step of a session against the shared registry. -/
def stepSession (cfg : ServerConfig) (st : ServerState) (s : Session) :
    SessionAction → Option (ServerState × Session)
  | .handshake done =>
      match s.phase with
      | .handshake =>
          if done then some (st.registerClient s.client, { s with phase := .hello })
          else some (st, { s with phase := .returned })
      | _ => none
  | .hello received =>
      match s.phase, received with
      | .hello, .error e => some (st, { s with phase := .closing ("hello rejected: " ++ e) })
      | .hello, .ok hello =>
          match validateRemotes cfg hello.remotes with
          | .error reason =>
              some (st, { s with
                remotes := some hello.remotes
                answer := some (.failed reason)
                phase := .closing ("hello rejected: " ++ reason) })
          | .ok () =>
              some (st, { s with
                remotes := some hello.remotes
                phase := .registering hello.remotes })
      | _, _ => none
  | .allocTunnelId =>
      match s.phase with
      | .registering (req :: todo) =>
          some (st.allocTunnelId.1, { s with phase := .allocated st.allocTunnelId.2 req todo })
      | _ => none
  | .insertClientTunnel =>
      match s.phase with
      | .allocated id req todo =>
          let entry := st.tunnelEntry s.client id req
          some (st.insertClientTunnel s.client entry, { s with phase := .inserting entry todo })
      | _ => none
  | .insertTunnel =>
      match s.phase with
      | .inserting entry todo =>
          some (st.insertTunnel entry, { s with
            tunnels := s.tunnels ++ [entry]
            phase := .registering todo })
      | _ => none
  | .replyHello written =>
      match s.phase with
      | .registering [] =>
          match written with
          | .ok () =>
              some (st, { s with
                answer := some (.ok (s.tunnels.map TunnelEntry.id))
                phase := .spawning s.tunnels })
          | .error e => some (st, { s with phase := .closing ("hello rejected: " ++ e) })
      | _ => none
  | .spawnReverse =>
      match s.phase with
      | .spawning [] => some (st, { s with phase := .serving })
      | .spawning (tunnel :: rest) =>
          some (st, { s with
            listeners :=
              if tunnel.direction = .reverse then s.listeners ++ [tunnel] else s.listeners
            phase := .spawning rest })
      | _ => none
  | .openConn opener =>
      match s.phase with
      | .serving =>
          match lookupOpenConn st opener with
          | .error _ => some (st, s)
          | .ok (tunnel, dispatch) =>
              some (st, { s with conns := s.conns ++ [⟨opener, tunnel, dispatch, .acking⟩] })
      | _ => none
  | .replyOpenConn i written =>
      match s.conns[i]? with
      | none => none
      | some task =>
          if task.stage ≠ .acking then none
          else if written then
            let (st, conn) := st.registerConn task.tunnel task.dispatch.peerLabel
            some (st, { s with conns := s.conns.set i (task.started conn) })
          else some (st, { s with conns := s.conns.eraseIdx i })
  | .connDone i =>
      match s.conns[i]? with
      | none => none
      | some task =>
          if task.stage = .acking then none
          else some (dropTasks st [task], { s with conns := s.conns.eraseIdx i })
  | .listenerDone i =>
      if i < s.listeners.length then
        some (st, { s with listeners := s.listeners.eraseIdx i })
      else none
  | .disconnect reason =>
      match s.phase with
      | .serving =>
          some (dropTasks st s.conns, { s with
            listeners := []
            conns := []
            phase := .closing reason })
      | _ => none
  | .deregister =>
      match s.phase with
      | .closing reason =>
          some (st.deregisterClient s.client.id reason, { s with phase := .returned })
      | _ => none

/-! ## Inversion of a session step

Every outcome of {lit}`stepSession`, guards included, so that a proof about the
sessions looks at these cases and never at the function. -/

/-- The outcomes of one session step. -/
inductive SessionStep (cfg : ServerConfig) (st : ServerState) (s : Session) :
    SessionAction → ServerState → Session → Prop where
  | handshakeDone (hphase : s.phase = .handshake) :
      SessionStep cfg st s (.handshake true) (st.registerClient s.client)
        { s with phase := .hello }
  | handshakeFailed (hphase : s.phase = .handshake) :
      SessionStep cfg st s (.handshake false) st { s with phase := .returned }
  | helloFailed (hphase : s.phase = .hello) (e : String) :
      SessionStep cfg st s (.hello (.error e)) st
        { s with phase := .closing ("hello rejected: " ++ e) }
  | helloRefused (hphase : s.phase = .hello) (hello : SessionHello) (reason : String)
      (hrefused : validateRemotes cfg hello.remotes = .error reason) :
      SessionStep cfg st s (.hello (.ok hello)) st
        { s with
          remotes := some hello.remotes
          answer := some (.failed reason)
          phase := .closing ("hello rejected: " ++ reason) }
  | helloAccepted (hphase : s.phase = .hello) (hello : SessionHello)
      (hvalid : validateRemotes cfg hello.remotes = .ok ()) :
      SessionStep cfg st s (.hello (.ok hello)) st
        { s with
          remotes := some hello.remotes
          phase := .registering hello.remotes }
  | allocTunnelId (req : RemoteRequest) (todo : List RemoteRequest)
      (hphase : s.phase = .registering (req :: todo)) :
      SessionStep cfg st s .allocTunnelId st.allocTunnelId.1
        { s with phase := .allocated st.allocTunnelId.2 req todo }
  | insertClientTunnel (id : UInt64) (req : RemoteRequest) (todo : List RemoteRequest)
      (hphase : s.phase = .allocated id req todo) :
      SessionStep cfg st s .insertClientTunnel
        (st.insertClientTunnel s.client (st.tunnelEntry s.client id req))
        { s with phase := .inserting (st.tunnelEntry s.client id req) todo }
  | insertTunnel (entry : TunnelEntry) (todo : List RemoteRequest)
      (hphase : s.phase = .inserting entry todo) :
      SessionStep cfg st s .insertTunnel (st.insertTunnel entry)
        { s with tunnels := s.tunnels ++ [entry], phase := .registering todo }
  | replyHello (hphase : s.phase = .registering []) :
      SessionStep cfg st s (.replyHello (.ok ())) st
        { s with
          answer := some (.ok (s.tunnels.map TunnelEntry.id))
          phase := .spawning s.tunnels }
  | replyHelloFailed (hphase : s.phase = .registering []) (e : String) :
      SessionStep cfg st s (.replyHello (.error e)) st
        { s with phase := .closing ("hello rejected: " ++ e) }
  | spawned (hphase : s.phase = .spawning []) :
      SessionStep cfg st s .spawnReverse st { s with phase := .serving }
  | spawnReverse (tunnel : TunnelEntry) (rest : List TunnelEntry)
      (hphase : s.phase = .spawning (tunnel :: rest)) (hdir : tunnel.direction = .reverse) :
      SessionStep cfg st s .spawnReverse st
        { s with listeners := s.listeners ++ [tunnel], phase := .spawning rest }
  | skipForward (tunnel : TunnelEntry) (rest : List TunnelEntry)
      (hphase : s.phase = .spawning (tunnel :: rest)) (hdir : tunnel.direction ≠ .reverse) :
      SessionStep cfg st s .spawnReverse st { s with phase := .spawning rest }
  | openRefused (hphase : s.phase = .serving) (opener : OpenConn) (reason : String)
      (hrefused : lookupOpenConn st opener = .error reason) :
      SessionStep cfg st s (.openConn opener) st s
  | openConn (hphase : s.phase = .serving) (opener : OpenConn) (tunnel : TunnelEntry)
      (dispatch : ForwardDispatch) (hlookup : st.tunnel opener.tunnelId = some tunnel)
      (hdispatch : resolveDispatch tunnel opener.dynamic = .ok dispatch) :
      SessionStep cfg st s (.openConn opener) st
        { s with conns := s.conns ++ [⟨opener, tunnel, dispatch, .acking⟩] }
  | replyOpenConn (i : Nat) (task : ConnTask) (htask : s.conns[i]? = some task)
      (hstage : task.stage = .acking) (conn : ConnEntry)
      (hconn : (st.registerConn task.tunnel task.dispatch.peerLabel).2 = conn) :
      SessionStep cfg st s (.replyOpenConn i true)
        (st.registerConn task.tunnel task.dispatch.peerLabel).1
        { s with conns := s.conns.set i (task.started conn) }
  | replyOpenConnFailed (i : Nat) (task : ConnTask) (htask : s.conns[i]? = some task)
      (hstage : task.stage = .acking) :
      SessionStep cfg st s (.replyOpenConn i false) st
        { s with conns := s.conns.eraseIdx i }
  | connDone (i : Nat) (task : ConnTask) (htask : s.conns[i]? = some task)
      (hstage : task.stage ≠ .acking) :
      SessionStep cfg st s (.connDone i) (dropTasks st [task])
        { s with conns := s.conns.eraseIdx i }
  | listenerDone (i : Nat) (hi : i < s.listeners.length) :
      SessionStep cfg st s (.listenerDone i) st
        { s with listeners := s.listeners.eraseIdx i }
  | disconnect (hphase : s.phase = .serving) (reason : String) :
      SessionStep cfg st s (.disconnect reason) (dropTasks st s.conns)
        { s with listeners := [], conns := [], phase := .closing reason }
  | deregister (reason : String) (hphase : s.phase = .closing reason) :
      SessionStep cfg st s .deregister (st.deregisterClient s.client.id reason)
        { s with phase := .returned }

theorem lookupOpenConn_eq_ok {st : ServerState} {opener : OpenConn} {tunnel : TunnelEntry}
    {dispatch : ForwardDispatch} (h : lookupOpenConn st opener = .ok (tunnel, dispatch)) :
    st.tunnel opener.tunnelId = some tunnel ∧
      resolveDispatch tunnel opener.dynamic = .ok dispatch := by
  unfold lookupOpenConn at h
  cases hlookup : st.tunnel opener.tunnelId with
  | none => simp [hlookup] at h
  | some found =>
      cases hdispatch : resolveDispatch found opener.dynamic with
      | error e => simp [hlookup, hdispatch] at h
      | ok resolved =>
          simp only [hlookup, hdispatch, Except.ok.injEq, Prod.mk.injEq] at h
          obtain ⟨rfl, rfl⟩ := h
          exact ⟨rfl, hdispatch⟩

/-- A session step has one of the listed outcomes. -/
theorem stepSession_cases {cfg : ServerConfig} {st st' : ServerState} {s s' : Session}
    {a : SessionAction} (h : stepSession cfg st s a = some (st', s')) :
    SessionStep cfg st s a st' s' := by
  cases a with
  | handshake done =>
      simp only [stepSession] at h
      split at h
      · rename_i hphase
        cases done <;> cases h
        · exact .handshakeFailed hphase
        · exact .handshakeDone hphase
      · cases h
  | hello received =>
      simp only [stepSession] at h
      split at h
      · rename_i e hphase
        cases h
        exact .helloFailed hphase e
      · rename_i hello hphase
        split at h
        · rename_i reason hrefused
          cases h
          exact .helloRefused hphase hello reason hrefused
        · rename_i hvalid
          cases h
          exact .helloAccepted hphase hello hvalid
      · cases h
  | allocTunnelId =>
      simp only [stepSession] at h
      split at h
      · rename_i req todo hphase
        cases h
        exact .allocTunnelId req todo hphase
      · cases h
  | insertClientTunnel =>
      simp only [stepSession] at h
      split at h
      · rename_i id req todo hphase
        cases h
        exact .insertClientTunnel id req todo hphase
      · cases h
  | insertTunnel =>
      simp only [stepSession] at h
      split at h
      · rename_i entry todo hphase
        cases h
        exact .insertTunnel entry todo hphase
      · cases h
  | replyHello written =>
      simp only [stepSession] at h
      split at h
      · rename_i hphase
        split at h
        · cases h
          exact .replyHello hphase
        · rename_i e
          cases h
          exact .replyHelloFailed hphase e
      · cases h
  | spawnReverse =>
      simp only [stepSession] at h
      split at h
      · rename_i hphase
        cases h
        exact .spawned hphase
      · rename_i tunnel rest hphase
        cases h
        by_cases hdir : tunnel.direction = .reverse
        · rw [if_pos hdir]
          exact .spawnReverse tunnel rest hphase hdir
        · rw [if_neg hdir]
          exact .skipForward tunnel rest hphase hdir
      · cases h
  | openConn opener =>
      simp only [stepSession] at h
      split at h
      · rename_i hphase
        split at h
        · rename_i reason hrefused
          cases h
          exact .openRefused hphase opener reason hrefused
        · rename_i tunnel dispatch hok
          cases h
          obtain ⟨hlookup, hdispatch⟩ := lookupOpenConn_eq_ok hok
          exact .openConn hphase opener tunnel dispatch hlookup hdispatch
      · cases h
  | replyOpenConn i written =>
      simp only [stepSession] at h
      split at h
      · cases h
      · rename_i task htask
        by_cases hstage : task.stage = .acking
        · rw [if_neg (not_not.mpr hstage)] at h
          cases written <;> cases h
          · exact .replyOpenConnFailed i task htask hstage
          · exact .replyOpenConn i task htask hstage _ rfl
        · rw [if_pos hstage] at h
          cases h
  | connDone i =>
      simp only [stepSession] at h
      split at h
      · cases h
      · rename_i task htask
        by_cases hstage : task.stage = .acking
        · rw [if_pos hstage] at h
          cases h
        · rw [if_neg hstage] at h
          cases h
          exact .connDone i task htask hstage
  | listenerDone i =>
      simp only [stepSession] at h
      split at h
      · rename_i hi
        cases h
        exact .listenerDone i hi
      · cases h
  | disconnect reason =>
      simp only [stepSession] at h
      split at h
      · rename_i hphase
        cases h
        exact .disconnect hphase reason
      · cases h
  | deregister =>
      simp only [stepSession] at h
      split at h
      · rename_i reason hphase
        cases h
        exact .deregister reason hphase
      · cases h

/-! ## The server -/

/-- A running server: the client counter, the free connection permits, the
registry and every session so far. -/
structure System where
  /-- Client ids drawn so far.  An id is this number modulo `2 ^ 64`. -/
  clientCounter : Nat
  permits : Option Nat
  state : ServerState
  sessions : List Session

/-- A server that has just started. -/
def System.init (cfg : ServerConfig) : System where
  clientCounter := 0
  permits := cfg.maxConnections
  state := .new
  sessions := []

/-- What can happen next in the server. -/
inductive Action where
  /-- A connection attempt from this address. -/
  | accept (remote : SocketAddr)
  /-- A step of session `c`. -/
  | session (c : Nat) (a : SessionAction)
deriving DecidableEq, Repr

/-- One step of the server.  An attempt without a free permit is refused after
it has drawn a client id; a permit is freed when its session returns. -/
def step (cfg : ServerConfig) (sys : System) : Action → Option System
  | .accept remote =>
      let clientCounter := sys.clientCounter + 1
      match sys.permits with
      | some 0 => some { sys with clientCounter := clientCounter }
      | permits =>
          let client : ClientEntry := ⟨.ofNat clientCounter, remote, sys.sessions.length⟩
          some { sys with
            clientCounter := clientCounter
            permits := permits.map (· - 1)
            sessions := sys.sessions ++ [Session.new client] }
  | .session c a =>
      match sys.sessions[c]? with
      | none => none
      | some s =>
          match stepSession cfg sys.state s a with
          | none => none
          | some (state, next) =>
              let freed := s.phase ≠ .returned ∧ next.phase = .returned
              some { sys with
                state := state
                sessions := sys.sessions.set c next
                permits := if freed then sys.permits.map (· + 1) else sys.permits }

/-- A run of the server from its start. -/
abbrev run (cfg : ServerConfig) (acts : List Action) : Option System :=
  Transition.run (step cfg) (System.init cfg) acts

/-- A server step admits or refuses a connection, or is one session's step. -/
theorem step_cases {cfg : ServerConfig} {sys sys' : System} {a : Action}
    (h : step cfg sys a = some sys') :
    (∃ remote, a = .accept remote ∧ sys'.state = sys.state ∧
      sys'.clientCounter = sys.clientCounter + 1 ∧
      (sys'.sessions = sys.sessions ∨
        sys'.sessions = sys.sessions ++
          [.new ⟨.ofNat (sys.clientCounter + 1), remote, sys.sessions.length⟩])) ∨
    ∃ c act s s', a = .session c act ∧ sys.sessions[c]? = some s ∧
      SessionStep cfg sys.state s act sys'.state s' ∧
      sys'.clientCounter = sys.clientCounter ∧ sys'.sessions = sys.sessions.set c s' := by
  cases a with
  | accept remote =>
      left
      simp only [step] at h
      split at h
      · cases h
        exact ⟨remote, rfl, rfl, rfl, Or.inl rfl⟩
      · cases h
        exact ⟨remote, rfl, rfl, rfl, Or.inr rfl⟩
  | session c act =>
      right
      simp only [step] at h
      split at h
      · cases h
      · rename_i s hs
        split at h
        · cases h
        · rename_i state next hstep
          cases h
          exact ⟨c, act, s, next, rfl, hs, stepSession_cases hstep, rfl, rfl⟩

/-- A session step that is enabled is a step of the server. -/
theorem step_session {cfg : ServerConfig} {sys : System} {c : Nat} {s s' : Session}
    {a : SessionAction} {st' : ServerState} (hs : sys.sessions[c]? = some s)
    (h : stepSession cfg sys.state s a = some (st', s')) :
    ∃ sys', step cfg sys (.session c a) = some sys' ∧ sys'.state = st' ∧
      sys'.sessions[c]? = some s' := by
  have hlt : c < sys.sessions.length := (List.getElem?_eq_some_iff.mp hs).1
  simp only [step, hs, h, Option.some.injEq, exists_eq_left', true_and]
  exact List.getElem?_set_self hlt

/-! ## From hello to reply -/

/-- The steps that register `todo` and answer the hello. -/
def registration (todo : List RemoteRequest) : List SessionAction :=
  todo.flatMap (fun _ => [.allocTunnelId, .insertClientTunnel, .insertTunnel]) ++
    [.replyHello (.ok ())]

/-- The steps by which session `c` connects, declares `remotes` and starts to
serve. -/
def establish (c : Nat) (remotes : List RemoteRequest) : List Action :=
  let acts : List SessionAction :=
    [.handshake true, .hello (.ok ⟨remotes⟩)] ++ registration remotes ++
      List.replicate (remotes.length + 1) .spawnReverse
  acts.map (.session c)

/-- A session that is registering can always finish and answer. -/
theorem registration_answers (cfg : ServerConfig) (c : Nat) (todo : List RemoteRequest)
    {sys : System} {s : Session} (hs : sys.sessions[c]? = some s)
    (hphase : s.phase = .registering todo) :
    ∃ sys' s' ids, Transition.run (step cfg) sys ((registration todo).map (.session c)) =
        some sys' ∧
      sys'.sessions[c]? = some s' ∧ s'.answer = some (.ok ids) := by
  induction todo generalizing sys s with
  | nil =>
      have hreply : stepSession cfg sys.state s (.replyHello (.ok ())) = some (sys.state,
          { s with
            answer := some (.ok (s.tunnels.map TunnelEntry.id))
            phase := .spawning s.tunnels }) := by
        simp only [stepSession, hphase]
      obtain ⟨sys', hstep, _, hs'⟩ := step_session hs hreply
      exact ⟨sys', _, _, by simp [registration, hstep], hs', rfl⟩
  | cons req todo ih =>
      have halloc : stepSession cfg sys.state s .allocTunnelId = some (sys.state.allocTunnelId.1,
          { s with phase := .allocated sys.state.allocTunnelId.2 req todo }) := by
        simp only [stepSession, hphase]
      obtain ⟨sys₁, hstep₁, _, hs₁⟩ := step_session hs halloc
      let entry := sys₁.state.tunnelEntry s.client sys.state.allocTunnelId.2 req
      have hown : stepSession cfg sys₁.state
          { s with phase := .allocated sys.state.allocTunnelId.2 req todo } .insertClientTunnel =
          some (sys₁.state.insertClientTunnel s.client entry,
            { s with phase := .inserting entry todo }) :=
        rfl
      obtain ⟨sys₂, hstep₂, _, hs₂⟩ := step_session hs₁ hown
      have hpublish : stepSession cfg sys₂.state { s with phase := .inserting entry todo }
          .insertTunnel =
          some (sys₂.state.insertTunnel entry,
            { s with tunnels := s.tunnels ++ [entry], phase := .registering todo }) :=
        rfl
      obtain ⟨sys₃, hstep₃, _, hs₃⟩ := step_session hs₂ hpublish
      obtain ⟨sys', s', ids, hrun, hs', hanswer⟩ := ih hs₃ rfl
      refine ⟨sys', s', ids, ?_, hs', hanswer⟩
      simpa [registration, hstep₁, hstep₂, hstep₃] using hrun

end Server
end Rusnel
