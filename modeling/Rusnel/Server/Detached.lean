import Rusnel.Server.Registry

/-!
# Conn tasks outside their session

A reverse handler is part of its session and is aborted with it.  The conn tasks
it spawns are not: a handler accepts a local peer and detaches a task that holds
the tunnel, and a SOCKS5 task detaches further ones for its UDP conns.  Nobody
waits for them, so they register and close their conns at any later step,
whatever has become of the session.

The three kinds of task register at different points.  A conn of a UDP tunnel or
association is registered before anything is sent.  A CONNECT is registered when
its stream is open, and a conn of a TCP tunnel when its opener was acknowledged;
both need the connection for that.

Main results:

- Theorem {lit}`referential_throughout_iff`: the conn index never refers to a
  tunnel or client that is gone exactly when every conn is registered while its
  tunnel is in the index.
- Theorem {lit}`orphan_conn`: a detached task that registers its conn after its
  client was taken out.
-/

namespace Rusnel
namespace Server

variable {cfg : ServerConfig}

/-! ## The model -/

/-- What a detached task serves. -/
inductive TaskRole where
  /-- A conn of a TCP tunnel. -/
  | tcp
  /-- A connection to a SOCKS5 tunnel. -/
  | socks
  /-- A conn of a UDP tunnel or of a SOCKS5 association. -/
  | udp
deriving DecidableEq, Repr

/-- The tasks that the handler of a tunnel detaches. -/
def TaskRole.ofKind : RemoteKind → TaskRole
  | .tcp _ _ => .tcp
  | .udp _ _ => .udp
  | .socks5 _ => .socks

/-- Where a detached task stands. -/
inductive TaskStage where
  | starting
  /-- A SOCKS5 task that was asked for a UDP association. -/
  | associating
  /-- Its stream is open. -/
  | opened
  /-- The `Ok` to its opener has arrived. -/
  | acked
  /-- Its conn is registered, until the task drops the guard. -/
  | registered (conn : ConnEntry)
  | done
deriving DecidableEq, Repr

/-- A task detached by a reverse handler, with the session whose connection it uses
and the tunnel it was handed. -/
structure DetachedTask where
  session : Nat
  tunnel : TunnelEntry
  role : TaskRole
  stage : TaskStage
deriving DecidableEq, Repr

/-- The task calls {lit}`open_conn` next. -/
def DetachedTask.ready (task : DetachedTask) : Bool :=
  match task.role, task.stage with
  | .udp, .starting => true
  | .socks, .opened => true
  | .tcp, .acked => true
  | _, _ => false

/-- A running server and the tasks its reverse handlers detached. -/
structure Runtime where
  system : System
  tasks : List DetachedTask

def Runtime.init (cfg : ServerConfig) : Runtime where
  system := .init cfg
  tasks := []

/-- The registry as a detached task leaves it. -/
def Runtime.withState (rt : Runtime) (state : ServerState) : Runtime :=
  { rt with system := { rt.system with state := state } }

/-- Task `k` goes on to a stage. -/
def Runtime.setStage (rt : Runtime) (k : Nat) (task : DetachedTask) (stage : TaskStage) :
    Runtime :=
  { rt with tasks := rt.tasks.set k { task with stage := stage } }

/-- The connection of session `c` is up: the session has not seen its end. -/
def Runtime.connected (rt : Runtime) (c : Nat) : Bool :=
  rt.system.sessions[c]?.any fun s => s.phase.live

inductive RuntimeAction where
  /-- A step of the server and its sessions. -/
  | server (a : Action)
  /-- Reverse handler `i` of session `c` accepts a local peer. -/
  | accept (c i : Nat)
  /-- SOCKS5 task `k` is asked for a UDP association. -/
  | associate (k : Nat)
  /-- The association of task `k` spawns a task for one of its conns. -/
  | spawnConn (k : Nat)
  /-- Task `k` opens its stream. -/
  | openBi (k : Nat)
  /-- The `Ok` to the opener of task `k` arrives. -/
  | ack (k : Nat)
  /-- Task `k` registers its conn. -/
  | openConn (k : Nat) (peer : String)
  /-- Task `k` ends and drops its guard, if it has one. -/
  | finish (k : Nat)
deriving DecidableEq, Repr

/-- One step of the server or of a detached task. -/
def Runtime.step (cfg : ServerConfig) (rt : Runtime) : RuntimeAction → Option Runtime
  | .server a => (Server.step cfg rt.system a).map fun system => { rt with system := system }
  | .accept c i =>
      match rt.system.sessions[c]? with
      | none => none
      | some s =>
          match s.listeners[i]? with
          | none => none
          | some tunnel =>
              some { rt with tasks := rt.tasks ++ [⟨c, tunnel, .ofKind tunnel.kind, .starting⟩] }
  | .associate k =>
      match rt.tasks[k]? with
      | none => none
      | some task =>
          if task.role = .socks ∧ task.stage = .starting then some (rt.setStage k task .associating)
          else none
  | .spawnConn k =>
      match rt.tasks[k]? with
      | none => none
      | some task =>
          if task.stage = .associating then
            some { rt with tasks := rt.tasks ++ [⟨task.session, task.tunnel, .udp, .starting⟩] }
          else none
  | .openBi k =>
      match rt.tasks[k]? with
      | none => none
      | some task =>
          if (task.role ≠ .udp ∧ task.stage = .starting) ∧ rt.connected task.session then
            some (rt.setStage k task .opened)
          else none
  | .ack k =>
      -- A reply that has arrived can still be read when the connection is gone.
      match rt.tasks[k]? with
      | none => none
      | some task =>
          if (task.role = .tcp ∧ task.stage = .opened) ∧ rt.connected task.session then
            some (rt.setStage k task .acked)
          else none
  | .openConn k peer =>
      match rt.tasks[k]? with
      | none => none
      | some task =>
          if task.ready then
            let (state, conn) := rt.system.state.registerConn task.tunnel (some peer)
            some ((rt.withState state).setStage k task (.registered conn))
          else none
  | .finish k =>
      match rt.tasks[k]? with
      | none => none
      | some task =>
          match task.stage with
          | .done => none
          | .registered conn =>
              some ((rt.withState (rt.system.state.closeConn task.tunnel conn)).setStage k task
                .done)
          | _ => some (rt.setStage k task .done)

/-- The outcomes of one step. -/
inductive RuntimeStep (cfg : ServerConfig) (rt : Runtime) : RuntimeAction → Runtime → Prop where
  | server (a : Action) (system : System) (hstep : Server.step cfg rt.system a = some system) :
      RuntimeStep cfg rt (.server a) { rt with system := system }
  | accept (c i : Nat) (s : Session) (tunnel : TunnelEntry)
      (hs : rt.system.sessions[c]? = some s) (htunnel : s.listeners[i]? = some tunnel) :
      RuntimeStep cfg rt (.accept c i)
        { rt with tasks := rt.tasks ++ [⟨c, tunnel, .ofKind tunnel.kind, .starting⟩] }
  | associate (k : Nat) (task : DetachedTask) (htask : rt.tasks[k]? = some task) :
      RuntimeStep cfg rt (.associate k) (rt.setStage k task .associating)
  | spawnConn (k : Nat) (task : DetachedTask) (htask : rt.tasks[k]? = some task) :
      RuntimeStep cfg rt (.spawnConn k)
        { rt with tasks := rt.tasks ++ [⟨task.session, task.tunnel, .udp, .starting⟩] }
  | openBi (k : Nat) (task : DetachedTask) (htask : rt.tasks[k]? = some task)
      (hconnected : rt.connected task.session = true) :
      RuntimeStep cfg rt (.openBi k) (rt.setStage k task .opened)
  | ack (k : Nat) (task : DetachedTask) (htask : rt.tasks[k]? = some task)
      (hconnected : rt.connected task.session = true) :
      RuntimeStep cfg rt (.ack k) (rt.setStage k task .acked)
  | openConn (k : Nat) (peer : String) (task : DetachedTask) (conn : ConnEntry)
      (htask : rt.tasks[k]? = some task) (hready : task.ready = true) :
      RuntimeStep cfg rt (.openConn k peer)
        ((rt.withState (rt.system.state.registerConn task.tunnel (some peer)).1).setStage k task
          (.registered conn))
  | giveUp (k : Nat) (task : DetachedTask) (htask : rt.tasks[k]? = some task) :
      RuntimeStep cfg rt (.finish k) (rt.setStage k task .done)
  | finish (k : Nat) (task : DetachedTask) (conn : ConnEntry) (htask : rt.tasks[k]? = some task)
      (hstage : task.stage = .registered conn) :
      RuntimeStep cfg rt (.finish k)
        ((rt.withState (rt.system.state.closeConn task.tunnel conn)).setStage k task .done)

variable {a : RuntimeAction} {rt rt' : Runtime}

/-- A step has one of the listed outcomes. -/
theorem Runtime.step_cases (h : rt.step cfg a = some rt') : RuntimeStep cfg rt a rt' := by
  cases a with
  | server a =>
      obtain ⟨system, hstep, rfl⟩ := Option.map_eq_some_iff.mp h
      exact .server a system hstep
  | accept c i =>
      simp only [Runtime.step] at h
      split at h
      · cases h
      · rename_i s hs
        split at h
        · cases h
        · rename_i tunnel htunnel
          cases h
          exact .accept c i s tunnel hs htunnel
  | associate k =>
      simp only [Runtime.step] at h
      split at h
      · cases h
      · rename_i task htask
        split_ifs at h
        cases h
        exact .associate k task htask
  | spawnConn k =>
      simp only [Runtime.step] at h
      split at h
      · cases h
      · rename_i task htask
        split_ifs at h
        cases h
        exact .spawnConn k task htask
  | openBi k =>
      simp only [Runtime.step] at h
      split at h
      · cases h
      · rename_i task htask
        split_ifs at h with hguard
        cases h
        exact .openBi k task htask hguard.2
  | ack k =>
      simp only [Runtime.step] at h
      split at h
      · cases h
      · rename_i task htask
        split_ifs at h with hguard
        cases h
        exact .ack k task htask hguard.2
  | openConn k peer =>
      simp only [Runtime.step] at h
      split at h
      · cases h
      · rename_i task htask
        split_ifs at h with hready
        cases h
        exact .openConn k peer task _ htask hready
  | finish k =>
      simp only [Runtime.step] at h
      split at h
      · cases h
      · rename_i task htask
        split at h
        · cases h
        · rename_i conn hstage
          cases h
          exact .finish k task conn htask hstage
        · cases h
          exact .giveUp k task htask

/-! ## Referential integrity -/

/-- Every conn of the global index is found through its client and its tunnel:
the tunnel is indexed and holds the conn, and the client is registered and holds
the tunnel. -/
def ServerState.Referential (st : ServerState) : Prop :=
  ∀ id conn, st.conns.lookup id = some conn →
    ∃ tunnel client, st.tunnels.lookup conn.tunnelId = some tunnel ∧
      (st.tunnelCells tunnel.arc).conns.lookup id = some conn ∧
      st.clients.lookup conn.clientId = some client ∧
      (st.clientTunnels client.arc).lookup conn.tunnelId = some tunnel

/-- The part of it that concerns tunnels: every conn of the index is held by an
indexed tunnel. -/
def ServerState.Attached (st : ServerState) : Prop :=
  ∀ id conn, st.conns.lookup id = some conn →
    ∃ tunnel, st.tunnels.lookup conn.tunnelId = some tunnel ∧
      (st.tunnelCells tunnel.arc).conns.lookup id = some conn

variable {st : ServerState}

namespace ServerState

/-- Closing a conn takes it out of the index and out of its tunnel alike. -/
theorem Attached.closeConn (h : st.Attached) (tunnel : TunnelEntry) (conn : ConnEntry) :
    (st.closeConn tunnel conn).Attached := by
  intro id other hother
  obtain ⟨hne, hother⟩ := Table.lookup_of_erase hother
  obtain ⟨holder, hindexed, hheld⟩ := h id other hother
  refine ⟨holder, hindexed, ?_⟩
  by_cases harc : holder.arc = tunnel.arc
  · simp only [ServerState.closeConn, harc, Function.update_self]
    rw [AList.lookup_erase_ne hne, ← harc, hheld]
  · simp only [ServerState.closeConn, Function.update_of_ne harc, hheld]

theorem Attached.dropTasks (h : st.Attached) (tasks : List ConnTask) :
    (Server.dropTasks st tasks).Attached := by
  unfold Server.dropTasks
  induction tasks generalizing st with
  | nil => exact h
  | cons task tasks ih =>
      rw [List.foldl_cons]
      cases hstage : task.stage with
      | acking => exact ih h
      | running conn => exact ih (h.closeConn _ _)

/-- A new conn is attached exactly if its tunnel is indexed. -/
theorem Attached.registerConn_iff (h : st.Attached) {tunnel : TunnelEntry}
    (hunique : ∀ other, st.tunnels.lookup tunnel.id = some other → other = tunnel)
    (peer : Option String) :
    (st.registerConn tunnel peer).1.Attached ↔ st.tunnels.lookup tunnel.id = some tunnel := by
  constructor
  · intro hafter
    obtain ⟨other, hindexed, _⟩ := hafter _ _ (AList.lookup_insert _)
    exact (hunique other hindexed) ▸ hindexed
  · intro hindexed id conn hconn
    simp only [registerConn, Table.lookup_insert_ite] at hconn ⊢
    by_cases hid : id = st.nextConnId + 1
    · subst hid
      rw [if_pos rfl] at hconn
      cases hconn
      exact ⟨tunnel, hindexed, by simp⟩
    · rw [if_neg hid] at hconn
      obtain ⟨holder, hholder, hheld⟩ := h id conn hconn
      refine ⟨holder, hholder, ?_⟩
      by_cases harc : holder.arc = tunnel.arc
      · simp [harc, AList.lookup_insert_ne hid, ← hheld]
      · simp [Function.update_of_ne harc, hheld]

/-- A tunnel under a new id hides no other. -/
theorem Attached.insertTunnel (h : st.Attached) {entry : TunnelEntry}
    (hfresh : st.tunnels.lookup entry.id = none) : (st.insertTunnel entry).Attached := by
  intro id conn hconn
  obtain ⟨holder, hindexed, hheld⟩ := h id conn hconn
  refine ⟨holder, ?_, hheld⟩
  rw [insertTunnel_lookup, if_neg, hindexed]
  intro heq
  rw [heq, hfresh] at hindexed
  cases hindexed

/-- Deregistering a client takes a conn out with the tunnel that holds it. -/
theorem Attached.deregisterClient (h : st.Attached)
    (hkeys : ∀ id conn, st.conns.lookup id = some conn → conn.id = id) (clientId : UInt64)
    (reason : String) : (st.deregisterClient clientId reason).Attached := by
  intro id conn hconn
  rw [deregisterClient_conns] at hconn
  split_ifs at hconn with hgone
  obtain ⟨holder, hindexed, hheld⟩ := h id conn hconn
  refine ⟨holder, ?_, by rwa [(st.deregisterClient_cells clientId reason).1]⟩
  rw [deregisterClient_lookup, if_neg, hindexed]
  intro hown
  refine hgone ⟨conn.tunnelId, hown, holder, hindexed, ?_⟩
  exact List.mem_map.mpr ⟨⟨id, conn⟩, AList.mem_lookup_iff.mp hheld, hkeys id conn hconn⟩

end ServerState

/-! ## Where registered tunnels stand -/

/-- A session registered this tunnel. -/
def System.Declared (sys : System) (t : TunnelEntry) : Prop :=
  ∃ (c : Nat) (s : Session), sys.sessions[c]? = some s ∧ t ∈ s.tunnels

/-- The invariant between clients, their own maps and the index. -/
structure System.Rooted (sys : System) : Prop where
  /-- A session's client is registered from the handshake to the return. -/
  registered : ∀ (c : Nat) (s : Session), sys.sessions[c]? = some s →
    s.phase ≠ .handshake → s.phase ≠ .returned →
    sys.state.clients.lookup s.client.id = some s.client
  /-- A record about to be indexed is in the client's own map. -/
  inserted : ∀ (c : Nat) (s : Session), sys.sessions[c]? = some s → ∀ t ∈ s.phase.inserted,
    (sys.state.clientTunnels s.client.arc).lookup t.id = some t
  /-- An indexed tunnel is in the own map of its registered client. -/
  owned : ∀ id t, sys.state.tunnels.lookup id = some t →
    ∃ client, sys.state.clients.lookup t.clientId = some client ∧
      (sys.state.clientTunnels client.arc).lookup id = some t

theorem System.init_rooted (cfg : ServerConfig) : (System.init cfg).Rooted := by
  constructor <;> simp [System.init, ServerState.new]

variable {s s' : Session} {st' : ServerState}

/-- A client is registered by the end of its own session's handshake and stays
so until the session returns. -/
theorem SessionStep.registered {a : SessionAction} (hact : SessionStep cfg st s a st' s')
    (hs : s.phase ≠ .handshake → s.phase ≠ .returned →
      st.clients.lookup s.client.id = some s.client) (hhandshake : s'.phase ≠ .handshake)
    (hreturned : s'.phase ≠ .returned) : st'.clients.lookup s.client.id = some s.client := by
  cases hact
  case handshakeDone => exact AList.lookup_insert _
  case handshakeFailed | deregister => exact absurd rfl hreturned
  case connDone =>
    rw [(dropTasks_sameTunnels _ _).clients]
    exact hs hhandshake hreturned
  case disconnect hphase reason =>
    rw [(dropTasks_sameTunnels _ _).clients]
    exact hs (by simp [hphase]) (by simp [hphase])
  case openRefused | openConn | replyOpenConn | replyOpenConnFailed | listenerDone =>
    exact hs hhandshake hreturned
  all_goals refine hs ?_ ?_ <;> simp_all

variable {id : UInt64}

/-- A session's step leaves the registration of other clients alone. -/
theorem RegistryEffect.clients_other (h : RegistryEffect st s st' s') (hne : id ≠ s.client.id) :
    st'.clients.lookup id = st.clients.lookup id := by
  cases h with
  | none hst => rw [hst.clients]
  | register hst =>
      subst hst
      exact AList.lookup_insert_ne hne
  | alloc req todo hst | own req todo entry hst | publish todo entry hst =>
      subst hst
      rfl
  | deregister reason hst =>
      subst hst
      rw [ServerState.deregisterClient_clients]
      exact AList.lookup_erase_ne hne

/-- A session's step leaves the own maps of other clients alone. -/
theorem RegistryEffect.clientTunnels_other (h : RegistryEffect st s st' s') {arc : Nat}
    (hne : arc ≠ s.client.arc) : st'.clientTunnels arc = st.clientTunnels arc := by
  cases h with
  | none hst => rw [hst.clientTunnels]
  | register hst | alloc req todo hst | publish todo entry hst =>
      subst hst
      rfl
  | own req todo entry hst =>
      subst hst
      exact Function.update_of_ne hne _ _
  | deregister reason hst =>
      subst hst
      rw [(st.deregisterClient_frame _ _).2.1]

/-- A record is in the client's own map as long as it waits to be indexed. -/
theorem RegistryEffect.inserted (h : RegistryEffect st s st' s')
    (hs : ∀ t ∈ s.phase.inserted, (st.clientTunnels s.client.arc).lookup t.id = some t) :
    ∀ t ∈ s'.phase.inserted, (st'.clientTunnels s.client.arc).lookup t.id = some t := by
  cases h with
  | none hst htunnels hinserted => rwa [hinserted, hst.clientTunnels]
  | own req todo entry hst htunnels hphase hphase' =>
      intro t ht
      rw [hphase'] at ht
      cases List.mem_singleton.mp ht
      rw [hst, ServerState.insertClientTunnel_lookup, if_pos ⟨rfl, rfl⟩]
  | register hst htunnels hphase hphase' | alloc req todo hst htunnels hphase hphase'
  | publish todo entry hst htunnels hphase hphase'
  | deregister reason hst htunnels hphase hphase' => simp [hphase']

variable {sys : System}

/-- An id that a session has drawn but not yet published is not indexed. -/
theorem System.Counted.drawn_not_indexed (hcount : sys.Counted) (h : sys.Lawful cfg) {c : Nat}
    (hs : sys.sessions[c]? = some s) (hid : id ∈ s.phase.drawnIds) :
    sys.state.tunnels.lookup id = none := by
  cases hlookup : sys.state.tunnels.lookup id with
  | none => rfl
  | some t =>
      obtain ⟨rfl, c', s', hs', hmem⟩ := h.index id t hlookup
      have hassigned : t.id ∈ s.assignedIds := List.mem_append_right _ hid
      cases Indexed.position_unique hcount.drawn.nodup hs' hs (Session.mem_assignedIds hmem)
        hassigned
      cases hs.symm.trans hs'
      have hnodup := hcount.drawn.session hs
      exact absurd hid (List.disjoint_of_nodup_append hnodup (List.mem_map_of_mem hmem))

/-- A tunnel some session registered is the only one ever found under its id. -/
theorem System.Counted.indexed_unique (hcount : sys.Counted) (h : sys.Lawful cfg)
    {t other : TunnelEntry} (ht : sys.Declared t)
    (hother : sys.state.tunnels.lookup t.id = some other) : other = t := by
  obtain ⟨c, s, hs, hmem⟩ := ht
  obtain ⟨hid, c', s', hs', hmem'⟩ := h.index t.id other hother
  have hassigned : t.id ∈ s'.assignedIds := hid ▸ Session.mem_assignedIds hmem'
  cases Indexed.position_unique hcount.drawn.nodup hs hs' (Session.mem_assignedIds hmem) hassigned
  cases hs.symm.trans hs'
  have hnodup : (s.tunnels.map TunnelEntry.id).Nodup :=
    (hcount.drawn.session hs).of_append_left
  exact List.inj_on_of_nodup_map hnodup hmem' hmem hid

/-- The client registered under a session's client id is that client. -/
theorem System.Lawful.client_unique (h : sys.Lawful cfg) (hlt : sys.clientCounter < 2 ^ 64)
    {c : Nat} (hs : sys.sessions[c]? = some s) {client : ClientEntry}
    (hclient : sys.state.clients.lookup s.client.id = some client) : client = s.client := by
  obtain ⟨hid, c', s', hs', rfl⟩ := h.clients _ _ hclient
  cases h.distinct hlt c' c s' s hs' hs hid
  cases hs.symm.trans hs'
  rfl

/-- A session's step leaves every indexed tunnel in the own map of its
registered client. -/
theorem System.Rooted.step_owned (h : sys.Rooted) (hlawful : sys.Lawful cfg) (hcount : sys.Counted)
    {c : Nat} (hs : sys.sessions[c]? = some s) (heffect : RegistryEffect sys.state s st' s')
    {t : TunnelEntry} (ht : st'.tunnels.lookup id = some t) :
    ∃ client, st'.clients.lookup t.clientId = some client ∧
      (st'.clientTunnels client.arc).lookup id = some t := by
  cases heffect with
  | none hst =>
      rw [hst.tunnels] at ht
      rw [hst.clients, hst.clientTunnels]
      exact h.owned id t ht
  | register hst =>
      subst hst
      obtain ⟨client, hclient, hown⟩ := h.owned id t ht
      refine ⟨client, ?_, hown⟩
      rw [ServerState.registerClient, Table.lookup_insert_ite]
      by_cases heq : t.clientId = s.client.id
      · rw [heq] at hclient
        rw [if_pos heq, hlawful.client_unique hcount.clients hs hclient]
      · rw [if_neg heq, hclient]
  | alloc req todo hst =>
      subst hst
      exact h.owned id t ht
  | own req todo entry hst htunnels hphase =>
      subst hst
      obtain ⟨client, hclient, hown⟩ := h.owned id t ht
      refine ⟨client, hclient, ?_⟩
      rw [ServerState.insertClientTunnel_lookup, if_neg, hown]
      rintro ⟨_, rfl⟩
      -- The record's id was only just drawn, so nothing is indexed under it.
      have hfresh : sys.state.tunnels.lookup entry.id = none :=
        hcount.drawn_not_indexed hlawful hs (by simp [hphase])
      exact absurd (ht.symm.trans hfresh) (by simp)
  | publish todo entry hst htunnels hphase =>
      subst hst
      rw [ServerState.insertTunnel_lookup] at ht
      split_ifs at ht with heq
      · cases ht
        subst heq
        have howned := (hlawful.sessions c s hs).1.owned t (by simp [hphase])
        refine ⟨s.client, ?_, h.inserted c s hs t (by simp [hphase])⟩
        rw [howned.1]
        exact h.registered c s hs (by simp [hphase]) (by simp [hphase])
      · exact h.owned id t ht
  | deregister reason hst =>
      subst hst
      rw [ServerState.deregisterClient_lookup] at ht
      split_ifs at ht with hgone
      obtain ⟨client, hclient, hown⟩ := h.owned id t ht
      refine ⟨client, ?_, by rwa [(sys.state.deregisterClient_frame _ _).2.1]⟩
      rw [ServerState.deregisterClient_clients, AList.lookup_erase_ne, hclient]
      intro heq
      rw [heq] at hclient
      exact hgone (ServerState.mem_ownTunnelIds hclient hown (hlawful.index id t ht).1)

/-- A step of the server keeps the invariant. -/
theorem System.Rooted.of_step {sys sys' : System} {a : Action} (h : sys.Rooted)
    (hlawful : sys.Lawful cfg) (hcount : sys.Counted) (hstep : step cfg sys a = some sys') :
    sys'.Rooted := by
  rcases step_cases hstep with
    ⟨remote, _, hst, _, heq⟩ | ⟨c, act, old, new, _, hold, hact, _, heq⟩
  · refine ⟨fun k s hs hhandshake => ?_, fun k s hs => ?_, hst ▸ h.owned⟩
    · rw [hst]
      rcases accept_session_cases heq hs with hs | ⟨rfl, rfl⟩
      · exact h.registered k s hs hhandshake
      · exact absurd rfl hhandshake
    · rw [hst]
      rcases accept_session_cases heq hs with hs | ⟨rfl, rfl⟩
      · exact h.inserted k s hs
      · simp [Session.new]
  · refine ⟨fun k s hs hhandshake hreturned => ?_, fun k s hs t ht => ?_,
      fun id t ht => h.step_owned hlawful hcount hold hact.effect ht⟩
    · rw [heq] at hs
      rcases Indexed.getElem?_set_cases hs with ⟨rfl, rfl⟩ | ⟨hne, hs⟩
      · rw [hact.client]
        exact hact.registered (h.registered k old hold) hhandshake hreturned
      · have hother : s.client.id ≠ old.client.id := fun hid =>
          hne (hlawful.distinct hcount.clients k c s old hs hold hid)
        rw [hact.effect.clients_other hother]
        exact h.registered k s hs hhandshake hreturned
    · rw [heq] at hs
      rcases Indexed.getElem?_set_cases hs with ⟨rfl, rfl⟩ | ⟨hne, hs⟩
      · rw [hact.client]
        exact hact.effect.inserted (h.inserted k old hold) t ht
      · have harc : s.client.arc ≠ old.client.arc := by
          rw [(hlawful.sessions k s hs).2.1, (hlawful.sessions c old hold).2.1]
          exact hne
        rw [hact.effect.clientTunnels_other harc]
        exact h.inserted k s hs t ht

/-! ## The invariant of a runtime -/

/-- A conn is indexed with the ids of a tunnel that some session registered. -/
def System.ConnDeclared (sys : System) (id : UInt64) (conn : ConnEntry) : Prop :=
  conn.id = id ∧ ∃ t, sys.Declared t ∧ conn.tunnelId = t.id ∧ conn.clientId = t.clientId

/-- What the detached tasks and the conn index have to do with the sessions. -/
structure Runtime.Lawful (cfg : ServerConfig) (rt : Runtime) : Prop where
  lawful : rt.system.Lawful cfg
  counted : rt.system.Counted
  rooted : rt.system.Rooted
  /-- A detached task holds a tunnel that some session registered. -/
  tasks : ∀ task ∈ rt.tasks, rt.system.Declared task.tunnel
  /-- So does a conn task of a session. -/
  conns : ∀ (c : Nat) (s : Session), rt.system.sessions[c]? = some s →
    ∀ task ∈ s.conns, rt.system.Declared task.tunnel
  /-- A conn is indexed under its id, with the ids of the tunnel it runs through. -/
  index : ∀ id conn, rt.system.state.conns.lookup id = some conn →
    rt.system.ConnDeclared id conn

theorem Runtime.init_lawful (cfg : ServerConfig) : (Runtime.init cfg).Lawful cfg where
  lawful := System.init_lawful cfg
  counted := System.init_counted cfg
  rooted := System.init_rooted cfg
  tasks := by simp [Runtime.init]
  conns := by simp [Runtime.init, System.init]
  index := by simp [Runtime.init, System.init, ServerState.new]

/-- A tunnel stays registered by its session. -/
theorem System.Declared.of_step {sys sys' : System} {a : Action} {t : TunnelEntry}
    (h : sys.Declared t) (hstep : step cfg sys a = some sys') : sys'.Declared t := by
  obtain ⟨c, s, hs, hmem⟩ := h
  obtain ⟨s', hs', _, hkept, _⟩ := session_survives hstep hs
  exact ⟨c, s', hs', hkept t hmem⟩

/-- Under the invariant a conn that is held by an indexed tunnel is also found
through its client. -/
theorem Runtime.Lawful.referential_iff (h : rt.Lawful cfg) :
    rt.system.state.Referential ↔ rt.system.state.Attached := by
  constructor
  · intro href id conn hconn
    obtain ⟨tunnel, _, hindexed, hheld, _⟩ := href id conn hconn
    exact ⟨tunnel, hindexed, hheld⟩
  · intro hatt id conn hconn
    obtain ⟨tunnel, hindexed, hheld⟩ := hatt id conn hconn
    obtain ⟨client, hclient, hown⟩ := h.rooted.owned _ tunnel hindexed
    obtain ⟨_, t, hdeclared, htunnel, hclientId⟩ := h.index id conn hconn
    rw [htunnel] at hindexed
    cases h.counted.indexed_unique h.lawful hdeclared hindexed
    exact ⟨tunnel, client, htunnel ▸ hindexed, hheld, hclientId ▸ hclient, hown⟩

/-! ### Steps that leave the tunnels alone -/

theorem System.Lawful.of_sameTunnels (h : sys.Lawful cfg) (hst : SameTunnels sys.state st) :
    ({ sys with state := st } : System).Lawful cfg where
  sessions := h.sessions
  distinct := h.distinct
  clients := by
    rw [hst.clients]
    exact h.clients
  clientTunnels := by
    rw [hst.clientTunnels]
    exact h.clientTunnels
  index := by
    simp only [ServerState.tunnel, hst.tunnels]
    exact h.index

theorem System.Counted.of_sameTunnels (h : sys.Counted) (hst : SameTunnels sys.state st) :
    ({ sys with state := st } : System).Counted where
  clients := h.clients
  drawn := by
    rw [System.Drawn, hst.nextTunnelId]
    exact h.drawn
  indexed := by
    simp only [ServerState.tunnel, hst.tunnels]
    exact h.indexed

theorem System.Rooted.of_sameTunnels (h : sys.Rooted) (hst : SameTunnels sys.state st) :
    ({ sys with state := st } : System).Rooted where
  registered := by
    rw [hst.clients]
    exact h.registered
  inserted := by
    rw [hst.clientTunnels]
    exact h.inserted
  owned := by
    rw [hst.tunnels, hst.clients, hst.clientTunnels]
    exact h.owned

/-- A step of a detached task keeps the invariant. -/
theorem Runtime.Lawful.update (h : rt.Lawful cfg) {tasks : List DetachedTask}
    (hst : SameTunnels rt.system.state st) (htasks : ∀ task ∈ tasks, rt.system.Declared task.tunnel)
    (hconns : ∀ id conn, st.conns.lookup id = some conn →
      rt.system.state.conns.lookup id = some conn ∨ rt.system.ConnDeclared id conn) :
    ({ rt.withState st with tasks := tasks } : Runtime).Lawful cfg where
  lawful := h.lawful.of_sameTunnels hst
  counted := h.counted.of_sameTunnels hst
  rooted := h.rooted.of_sameTunnels hst
  tasks := htasks
  conns := h.conns
  index id conn hconn := by
    rcases hconns id conn hconn with hold | hnew
    · exact h.index id conn hold
    · exact hnew

theorem registerConn_source {tunnel : TunnelEntry} {peer : Option String} {conn : ConnEntry}
    (hconn : (st.registerConn tunnel peer).1.conns.lookup id = some conn) :
    st.conns.lookup id = some conn ∨
      (conn.id = id ∧ conn.tunnelId = tunnel.id ∧ conn.clientId = tunnel.clientId) := by
  simp only [ServerState.registerConn, Table.lookup_insert_ite] at hconn
  split_ifs at hconn with hid
  · cases hconn
    exact .inr ⟨hid.symm, rfl, rfl⟩
  · exact .inl hconn

theorem dropTasks_source {tasks : List ConnTask} {conn : ConnEntry}
    (hconn : (dropTasks st tasks).conns.lookup id = some conn) :
    st.conns.lookup id = some conn := by
  unfold dropTasks at hconn
  induction tasks generalizing st with
  | nil => exact hconn
  | cons task tasks ih =>
      rw [List.foldl_cons] at hconn
      have hrest := ih hconn
      cases hstage : task.stage with
      | acking => rwa [hstage] at hrest
      | running gone =>
          rw [hstage] at hrest
          exact (Table.lookup_of_erase hrest).2

/-- A conn of the index was there before the session's step or has just been
registered by one of its conn tasks. -/
theorem SessionStep.conn_source {a : SessionAction} (hact : SessionStep cfg st s a st' s')
    {conn : ConnEntry} (hconn : st'.conns.lookup id = some conn) :
    st.conns.lookup id = some conn ∨ ∃ task ∈ s.conns, conn.id = id ∧
      conn.tunnelId = task.tunnel.id ∧ conn.clientId = task.tunnel.clientId := by
  cases hact
  case replyOpenConn i task htask hstage new hnew =>
    rcases registerConn_source hconn with hold | hids
    · exact .inl hold
    · exact .inr ⟨task, List.mem_of_getElem? htask, hids⟩
  case connDone | disconnect => exact .inl (dropTasks_source hconn)
  case deregister =>
    rw [ServerState.deregisterClient_conns] at hconn
    split_ifs at hconn
    exact .inl hconn
  all_goals exact .inl hconn

/-- A conn task holds a tunnel that some session registered. -/
theorem SessionStep.conn_declared (h : sys.Lawful cfg) {a : SessionAction}
    (hact : SessionStep cfg sys.state s a st' s')
    (hs : ∀ task ∈ s.conns, sys.Declared task.tunnel) :
    ∀ task ∈ s'.conns, sys.Declared task.tunnel := by
  intro task htask
  cases hact.conn_origin htask with
  | kept hmem => exact hs task hmem
  | started before conn hmem htask =>
      subst htask
      exact hs before hmem
  | opened hopen hlookup => exact (h.index _ _ hlookup).2

/-- A step of the server keeps the invariant as long as no tunnel id repeats. -/
theorem Runtime.Lawful.server (h : rt.Lawful cfg) {a : Action} {system : System}
    (hstep : Server.step cfg rt.system a = some system) (hlt : system.Unwrapped) :
    ({ rt with system := system } : Runtime).Lawful cfg where
  lawful := h.lawful.of_step hstep
  counted := h.counted.of_step h.lawful hstep hlt
  rooted := h.rooted.of_step h.lawful h.counted hstep
  tasks task htask := (h.tasks task htask).of_step hstep
  conns c s hs task htask := by
    refine System.Declared.of_step ?_ hstep
    rcases Server.step_cases hstep with
      ⟨remote, _, _, _, heq⟩ | ⟨k, act, old, new, _, hold, hact, _, heq⟩
    · rcases accept_session_cases heq hs with hs | ⟨rfl, rfl⟩
      · exact h.conns c s hs task htask
      · simp [Session.new] at htask
    · change system.sessions[c]? = some s at hs
      rw [heq] at hs
      rcases Indexed.getElem?_set_cases hs with ⟨rfl, rfl⟩ | ⟨_, hs⟩
      · exact hact.conn_declared h.lawful (h.conns c old hold) task htask
      · exact h.conns c s hs task htask
  index id conn hconn := by
    have hkeep : rt.system.ConnDeclared id conn → system.ConnDeclared id conn := by
      rintro ⟨hid, t, hdeclared, hids⟩
      exact ⟨hid, t, hdeclared.of_step hstep, hids⟩
    rcases Server.step_cases hstep with
      ⟨remote, _, hst, _, heq⟩ | ⟨k, act, old, new, _, hold, hact, _, heq⟩
    · exact hkeep (h.index id conn (hst ▸ hconn))
    · rcases hact.conn_source hconn with hwas | ⟨task, htask, hid, hids⟩
      · exact hkeep (h.index id conn hwas)
      · exact hkeep ⟨hid, task.tunnel, h.conns k old hold task htask, hids⟩

/-- A step keeps the invariant as long as no tunnel id repeats. -/
theorem Runtime.Lawful.of_step (h : rt.Lawful cfg) (hlt : rt'.system.Unwrapped)
    (hstep : rt.step cfg a = some rt') : rt'.Lawful cfg := by
  have hset : ∀ {k task stage}, rt.tasks[k]? = some task →
      ∀ other ∈ rt.tasks.set k { task with stage := stage }, rt.system.Declared other.tunnel := by
    intro k task stage hk
    exact Indexed.forall_mem_set h.tasks hk fun hdeclared => hdeclared
  have hadd : ∀ new : DetachedTask, rt.system.Declared new.tunnel →
      ∀ task ∈ rt.tasks ++ [new], rt.system.Declared task.tunnel := by
    intro new hnew task htask
    rcases List.mem_append.mp htask with hold | hlast
    · exact h.tasks task hold
    · cases List.mem_singleton.mp hlast
      exact hnew
  cases Runtime.step_cases hstep with
  | server a system hserver => exact h.server hserver hlt
  | accept c i s tunnel hs htunnel =>
      have hmem := ((h.lawful.sessions c s hs).1.listening tunnel
        (List.mem_of_getElem? htunnel)).1
      exact h.update (.refl _) (hadd _ ⟨c, s, hs, hmem⟩) fun _ _ hconn => .inl hconn
  | spawnConn k task htask =>
      exact h.update (.refl _) (hadd _ (h.tasks task (List.mem_of_getElem? htask)))
        fun _ _ hconn => .inl hconn
  | openConn k peer task conn htask =>
      refine h.update ⟨rfl, rfl, rfl, rfl⟩ (hset htask) fun id new hnew => ?_
      rcases registerConn_source hnew with hold | ⟨hid, hids⟩
      · exact .inl hold
      · exact .inr ⟨hid, task.tunnel, h.tasks _ (List.mem_of_getElem? htask), hids⟩
  | associate k task htask | openBi k task htask | ack k task htask | giveUp k task htask =>
      exact h.update (.refl _) (hset htask) fun _ _ hconn => .inl hconn
  | finish k task conn htask =>
      exact h.update ⟨rfl, rfl, rfl, rfl⟩ (hset htask) fun _ _ hother =>
        .inl (Table.lookup_of_erase hother).2

/-! ## When a conn is registered -/

/-- A conn is registered, by a session's conn task or by a detached task, only
while the tunnel the task holds is in the index. -/
def RegistersIndexed (rt : Runtime) : RuntimeAction → Prop
  | .server (.session c (.replyOpenConn i true)) =>
      ∀ s ∈ rt.system.sessions[c]?, ∀ task ∈ s.conns[i]?,
        rt.system.state.tunnel task.tunnel.id = some task.tunnel
  | .openConn k _ =>
      ∀ task ∈ rt.tasks[k]?, rt.system.state.tunnel task.tunnel.id = some task.tunnel
  | _ => True

instance (rt : Runtime) (a : RuntimeAction) : Decidable (RegistersIndexed rt a) := by
  unfold RegistersIndexed
  split <;> infer_instance

/-- A session's step keeps every conn attached, except that it must not register
one whose tunnel is gone. -/
theorem Runtime.Lawful.session_attached_iff (h : rt.Lawful cfg) (hatt : rt.system.state.Attached)
    {c : Nat} {act : SessionAction} (hs : rt.system.sessions[c]? = some s)
    (hact : SessionStep cfg rt.system.state s act st' s') :
    st'.Attached ↔ RegistersIndexed rt (.server (.session c act)) := by
  cases hact
  case replyOpenConn i task htask hstage conn hconn =>
    have hdeclared := h.conns c s hs task (List.mem_of_getElem? htask)
    rw [hatt.registerConn_iff fun other hother =>
      h.counted.indexed_unique h.lawful hdeclared hother]
    simp [RegistersIndexed, hs, htask, ServerState.tunnel]
  case insertTunnel entry todo hphase =>
    refine iff_of_true (hatt.insertTunnel ?_) trivial
    exact h.counted.drawn_not_indexed h.lawful hs (by simp [hphase])
  case connDone | disconnect => exact iff_of_true (hatt.dropTasks _) trivial
  case deregister =>
    exact iff_of_true (hatt.deregisterClient (fun id conn hconn => (h.index id conn hconn).1) _ _)
      trivial
  all_goals exact iff_of_true hatt trivial

/-- From an attached state a step leads to an attached state exactly if it does
not register a conn whose tunnel is gone. -/
theorem Runtime.Lawful.attached_step_iff (h : rt.Lawful cfg) (hatt : rt.system.state.Attached)
    (hstep : rt.step cfg a = some rt') : rt'.system.state.Attached ↔ RegistersIndexed rt a := by
  cases Runtime.step_cases hstep with
  | server a system hserver =>
      rcases Server.step_cases hserver with
        ⟨remote, rfl, hst, _, _⟩ | ⟨c, act, old, new, rfl, hold, hact, _, _⟩
      · rw [hst]
        exact iff_of_true hatt trivial
      · exact h.session_attached_iff hatt hold hact
  | openConn k peer task conn htask =>
      have hdeclared := h.tasks task (List.mem_of_getElem? htask)
      have hiff := hatt.registerConn_iff (fun other hother =>
        h.counted.indexed_unique h.lawful hdeclared hother) (some peer)
      refine hiff.trans ?_
      simp [RegistersIndexed, htask, ServerState.tunnel]
  | finish k task conn htask => exact iff_of_true (hatt.closeConn task.tunnel conn) trivial
  | accept | associate | spawnConn | openBi | ack | giveUp => exact iff_of_true hatt trivial

theorem Runtime.unwrapped_of_step (hstep : rt.step cfg a = some rt') (h : rt'.system.Unwrapped) :
    rt.system.Unwrapped := by
  cases Runtime.step_cases hstep with
  | server a system hserver => exact h.of_step hserver
  | _ => exact h

/-- Whatever the sessions and the detached tasks do in whatever order, every
conn of the index is found through its client and its tunnel exactly as long as
no conn is registered whose tunnel is no longer in the index. -/
theorem referential_throughout_iff {acts : List RuntimeAction} {rt : Runtime}
    (hrun : Transition.run (Runtime.step cfg) (Runtime.init cfg) acts = some rt)
    (hlt : rt.system.Unwrapped) :
    Transition.Throughout (Runtime.step cfg) (fun rt => rt.system.state.Referential)
        (Runtime.init cfg) acts ↔
      Transition.Guarded (Runtime.step cfg) RegistersIndexed (Runtime.init cfg) acts := by
  refine Transition.throughout_iff_guarded_within (I := Runtime.Lawful cfg)
    (B := fun rt => rt.system.Unwrapped) (fun _ _ _ hstep => Runtime.unwrapped_of_step hstep)
    (fun _ _ _ h hlt hstep => h.of_step hlt hstep) ?_ (Runtime.init_lawful cfg) ?_ hrun hlt
  · intro rt a rt' h href hlt hstep
    rw [(h.of_step hlt hstep).referential_iff]
    exact h.attached_step_iff (h.referential_iff.mp href) hstep
  · simp [ServerState.Referential, Runtime.init, System.init, ServerState.new]

/-- A client declares one reverse UDP tunnel; its handler receives from a local peer. -/
def reversePeer : List RuntimeAction :=
  let acts : List Action := .accept (.v4 ⟨10, 0, 0, 1⟩ 40000) ::
    establish 0 [.new .reverse (.udp (.v4 .localhost 5353) ⟨"10.1.1.1", 53⟩)]
  acts.map .server ++ [.accept 0 0]

/-- The client leaves and is taken out of the registry. -/
def clientLeaves : List RuntimeAction :=
  [.server (.session 0 (.disconnect "client closed")), .server (.session 0 .deregister)]

theorem referential_throughout_reversePeer :
    Transition.Throughout (Runtime.step ⟨true, false, none⟩)
      (fun rt => rt.system.state.Referential) (Runtime.init ⟨true, false, none⟩)
      (reversePeer ++ [.openConn 0 "127.0.0.1:5000"] ++ clientLeaves ++ [.finish 0]) := by
  have hcheck : ((Transition.run (Runtime.step ⟨true, false, none⟩)
      (Runtime.init ⟨true, false, none⟩)
      (reversePeer ++ [.openConn 0 "127.0.0.1:5000"] ++ clientLeaves ++ [.finish 0])).any
        fun rt => decide rt.system.Unwrapped) = true := by decide +kernel
  obtain ⟨rt, hrun, hlt⟩ := (Option.any_eq_true _ _).mp hcheck
  exact (referential_throughout_iff hrun (of_decide_eq_true hlt)).mpr (by decide +kernel)

/-- The task registers its conn after its client was taken out: the index then
lists a conn whose tunnel and client are both gone. -/
theorem orphan_conn :
    ∃ rt, Transition.run (Runtime.step ⟨true, false, none⟩) (Runtime.init ⟨true, false, none⟩)
        (reversePeer ++ clientLeaves ++ [.openConn 0 "127.0.0.1:5000"]) = some rt ∧
      ¬rt.system.state.Referential ∧
      ∃ conn, rt.system.state.conns.lookup 1 = some conn ∧
        rt.system.state.tunnels.lookup conn.tunnelId = none ∧
        rt.system.state.clients.lookup conn.clientId = none := by
  refine ⟨_, (Option.some_get (by decide +kernel)).symm, ?_, _, rfl, rfl, rfl⟩
  intro href
  obtain ⟨tunnel, client, hindexed, _⟩ := href 1 _ rfl
  cases hindexed

end Server
end Rusnel
