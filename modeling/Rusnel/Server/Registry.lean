import Rusnel.Foundation.Counter
import Rusnel.Server.SessionInvariant

/-!
# Invariants of the registry

What the sessions have to do with the shared registry: who owns the entries of
the global index, which ids were drawn, and that a tunnel stays in the index as
long as its session has not returned.

Main results:

- Theorem {lit}`run_lawful`: the ownership invariant of every run.
- Theorem {lit}`run_drawn`: as long as their counter has not wrapped, tunnel ids are
  distinct.
- Theorem {lit}`run_counted`: as long as the counter of client ids has not either, every
  tunnel of a session that has not returned is indexed.
-/

namespace Rusnel
namespace Server

variable {cfg : ServerConfig}

/-! ## What one session step does to the registry -/

/-- The registry as far as tunnels are concerned: everything but the conns. -/
structure SameTunnels (st st' : ServerState) : Prop where
  clients : st'.clients = st.clients
  clientTunnels : st'.clientTunnels = st.clientTunnels
  tunnels : st'.tunnels = st.tunnels
  nextTunnelId : st'.nextTunnelId = st.nextTunnelId

theorem SameTunnels.refl (st : ServerState) : SameTunnels st st :=
  ⟨rfl, rfl, rfl, rfl⟩

theorem SameTunnels.trans {st mid st' : ServerState} (h : SameTunnels st mid)
    (h' : SameTunnels mid st') : SameTunnels st st' where
  clients := h'.clients.trans h.clients
  clientTunnels := h'.clientTunnels.trans h.clientTunnels
  tunnels := h'.tunnels.trans h.tunnels
  nextTunnelId := h'.nextTunnelId.trans h.nextTunnelId

theorem dropTasks_sameTunnels (st : ServerState) (tasks : List ConnTask) :
    SameTunnels st (dropTasks st tasks) := by
  unfold dropTasks
  induction tasks generalizing st with
  | nil => exact .refl st
  | cons task tasks ih =>
      rw [List.foldl_cons]
      refine SameTunnels.trans ?_ (ih _)
      cases task.stage <;> exact ⟨rfl, rfl, rfl, rfl⟩

/-- What a step may do to the registry and to the session's own tunnels. -/
inductive RegistryEffect (st : ServerState) (s : Session) (st' : ServerState) (s' : Session) :
    Prop where
  /-- Nothing about tunnels changes. -/
  | none (hst : SameTunnels st st') (htunnels : s'.tunnels = s.tunnels)
      (hinserted : s'.phase.inserted = s.phase.inserted)
      (hdrawn : s'.phase.drawnIds = s.phase.drawnIds)
      (hreturned : s.phase = .returned → s'.phase = .returned)
  /-- The client is entered. -/
  | register (hst : st' = st.registerClient s.client) (htunnels : s'.tunnels = s.tunnels)
      (hphase : s.phase = .handshake) (hphase' : s'.phase = .hello)
  /-- An id is drawn. -/
  | alloc (req : RemoteRequest) (todo : List RemoteRequest)
      (hst : st' = st.allocTunnelId.1) (htunnels : s'.tunnels = s.tunnels)
      (hphase : s.phase = .registering (req :: todo))
      (hphase' : s'.phase = .allocated st.allocTunnelId.2 req todo)
  /-- A record enters the client's own map. -/
  | own (req : RemoteRequest) (todo : List RemoteRequest) (entry : TunnelEntry)
      (hst : st' = st.insertClientTunnel s.client entry) (htunnels : s'.tunnels = s.tunnels)
      (hphase : s.phase = .allocated entry.id req todo)
      (hphase' : s'.phase = .inserting entry todo)
  /-- The record enters the global index. -/
  | publish (todo : List RemoteRequest) (entry : TunnelEntry)
      (hst : st' = st.insertTunnel entry) (htunnels : s'.tunnels = s.tunnels ++ [entry])
      (hphase : s.phase = .inserting entry todo) (hphase' : s'.phase = .registering todo)
  /-- The client is taken out. -/
  | deregister (reason : String) (hst : st' = st.deregisterClient s.client.id reason)
      (htunnels : s'.tunnels = s.tunnels) (hphase : s.phase = .closing reason)
      (hphase' : s'.phase = .returned)

variable {st st' : ServerState} {s s' : Session}

/-- Every session step has one of these effects. -/
theorem SessionStep.effect {a : SessionAction} (hstep : SessionStep cfg st s a st' s') :
    RegistryEffect st s st' s' := by
  cases hstep
  case handshakeDone hphase => exact .register rfl rfl hphase rfl
  case allocTunnelId req todo hphase => exact .alloc req todo rfl rfl hphase rfl
  case insertClientTunnel id req todo hphase => exact .own req todo _ rfl rfl hphase rfl
  case insertTunnel entry todo hphase => exact .publish todo entry rfl rfl hphase rfl
  case deregister reason hphase => exact .deregister reason rfl rfl hphase rfl
  case replyOpenConn =>
    exact .none ⟨rfl, rfl, rfl, rfl⟩ rfl rfl rfl fun h => h
  case connDone => exact .none (dropTasks_sameTunnels _ _) rfl rfl rfl fun h => h
  case disconnect hphase reason =>
    exact .none (dropTasks_sameTunnels _ _) rfl (by simp [hphase]) (by simp [hphase])
      (by simp [hphase])
  case openRefused | openConn | replyOpenConnFailed | listenerDone =>
    exact .none (.refl _) rfl rfl rfl fun h => h
  all_goals
    rename_i hphase
    refine .none (.refl _) rfl ?_ ?_ ?_ <;> simp_all

/-- A session keeps its client. -/
theorem SessionStep.client {a : SessionAction} (hstep : SessionStep cfg st s a st' s') :
    s'.client = s.client := by
  cases hstep <;> rfl

/-- A session keeps the tunnels it has registered. -/
theorem RegistryEffect.tunnels (h : RegistryEffect st s st' s') :
    ∀ t ∈ s.tunnels, t ∈ s'.tunnels := by
  intro t ht
  cases h <;> simp_all

/-- A session keeps every record it has entered in its own map. -/
theorem RegistryEffect.entered (h : RegistryEffect st s st' s') :
    ∀ t ∈ s.tunnels ++ s.phase.inserted, t ∈ s'.tunnels ++ s'.phase.inserted := by
  intro t ht
  cases h <;> simp_all

/-- A client is in the registry because it was, or because the session has just
entered it. -/
theorem RegistryEffect.clients (h : RegistryEffect st s st' s') {id : UInt64} {client : ClientEntry}
    (hclient : st'.clients.lookup id = some client) :
    st.clients.lookup id = some client ∨
      (client = s.client ∧ client.id = id ∧ s'.phase = .hello) := by
  cases h with
  | none hst => exact .inl (hst.clients ▸ hclient)
  | register hst htunnels hphase hphase' =>
      subst hst
      by_cases heq : id = s.client.id
      · subst heq
        rw [ServerState.registerClient, AList.lookup_insert] at hclient
        cases hclient
        exact .inr ⟨rfl, rfl, hphase'⟩
      · rw [ServerState.registerClient, AList.lookup_insert_ne heq] at hclient
        exact .inl hclient
  | alloc req todo hst | own req todo entry hst | publish todo entry hst =>
      subst hst
      exact .inl hclient
  | deregister reason hst =>
      subst hst
      exact .inl ((st.deregisterClient_frame _ _).1 id client hclient)

/-- A record is in a client's map because it was, or because the session just
entered it there. -/
theorem RegistryEffect.clientTunnels (h : RegistryEffect st s st' s') {arc : Nat}
    {e : Sigma fun _ : UInt64 => TunnelEntry} (he : e ∈ (st'.clientTunnels arc).entries) :
    e ∈ (st.clientTunnels arc).entries ∨ (arc = s.client.arc ∧ e.2 ∈ s'.phase.inserted) := by
  cases h with
  | none hst => exact .inl (hst.clientTunnels ▸ he)
  | register hst | alloc req todo hst | publish todo entry hst =>
      subst hst
      exact .inl he
  | own req todo entry hst htunnels hphase hphase' =>
      subst hst
      by_cases heq : arc = s.client.arc
      · subst heq
        simp only [ServerState.insertClientTunnel, Function.update_self, AList.entries_insert] at he
        rcases List.mem_cons.mp he with rfl | hold
        · exact .inr ⟨rfl, by simp [hphase']⟩
        · exact .inl ((List.kerase_sublist _ _).subset hold)
      · simp only [ServerState.insertClientTunnel, Function.update_of_ne heq] at he
        exact .inl he
  | deregister reason hst =>
      subst hst
      rw [(st.deregisterClient_frame _ _).2.1] at he
      exact .inl he

variable {t : TunnelEntry}

/-- A tunnel is indexed because it was, or because the session just
registered it. -/
theorem RegistryEffect.indexed (h : RegistryEffect st s st' s') {id : UInt64}
    (ht : st'.tunnels.lookup id = some t) :
    st.tunnels.lookup id = some t ∨ (t.id = id ∧ t ∈ s'.tunnels) := by
  cases h with
  | none hst => exact .inl (hst.tunnels ▸ ht)
  | register hst | alloc req todo hst | own req todo entry hst =>
      subst hst
      exact .inl ht
  | publish todo entry hst htunnels =>
      subst hst
      by_cases heq : id = entry.id
      · subst heq
        rw [ServerState.insertTunnel_tunnels, AList.lookup_insert] at ht
        cases ht
        exact .inr ⟨rfl, by simp [htunnels]⟩
      · rw [ServerState.insertTunnel_tunnels, AList.lookup_insert_ne heq] at ht
        exact .inl ht
  | deregister reason hst =>
      subst hst
      rw [ServerState.deregisterClient_lookup] at ht
      split_ifs at ht
      exact .inl ht

/-! ## Ownership -/

/-- The ownership invariant of the server. -/
structure System.Lawful (cfg : ServerConfig) (sys : System) : Prop where
  /-- Every session is lawful, and its own map is numbered by its position. -/
  sessions : ∀ (c : Nat) (s : Session), sys.sessions[c]? = some s →
    s.Lawful cfg ∧ s.client.arc = c ∧ s.client.id.toNat ≤ sys.clientCounter
  /-- Sessions have distinct client ids until the counter wraps. -/
  distinct : sys.clientCounter < 2 ^ 64 → ∀ (c c' : Nat) (s s' : Session),
    sys.sessions[c]? = some s → sys.sessions[c']? = some s' → s.client.id = s'.client.id → c = c'
  /-- Registered clients belong to sessions. -/
  clients : ∀ id client, sys.state.clients.lookup id = some client →
    client.id = id ∧ ∃ (c : Nat) (s : Session), sys.sessions[c]? = some s ∧ s.client = client
  /-- A client's own map holds its own records. -/
  clientTunnels : ∀ arc e, e ∈ (sys.state.clientTunnels arc).entries →
    ∃ s : Session, sys.sessions[arc]? = some s ∧ e.2 ∈ s.tunnels ++ s.phase.inserted
  /-- The index holds, under its id, a tunnel some session registered. -/
  index : ∀ id t, sys.state.tunnel id = some t →
    t.id = id ∧ ∃ (c : Nat) (s : Session), sys.sessions[c]? = some s ∧ t ∈ s.tunnels

theorem System.init_lawful (cfg : ServerConfig) : (System.init cfg).Lawful cfg := by
  constructor <;> simp [System.init, ServerState.new, ServerState.tunnel]

variable {sys sys' : System} {a : Action} {c : Nat}

/-- A session found before a step is found after it, with what it had. -/
theorem session_survives (hstep : step cfg sys a = some sys') (hs : sys.sessions[c]? = some s) :
    ∃ s', sys'.sessions[c]? = some s' ∧ s'.client = s.client ∧
      (∀ t ∈ s.tunnels, t ∈ s'.tunnels) ∧
      ∀ t ∈ s.tunnels ++ s.phase.inserted, t ∈ s'.tunnels ++ s'.phase.inserted := by
  have hlt := (List.getElem?_eq_some_iff.mp hs).1
  rcases step_cases hstep with
    ⟨remote, _, _, _, heq | heq⟩ | ⟨c', act, old, new, _, hold, hact, _, heq⟩
  · exact ⟨s, by rw [heq, hs], rfl, fun _ h => h, fun _ h => h⟩
  · exact ⟨s, by rw [heq, List.getElem?_append_left hlt, hs], rfl, fun _ h => h, fun _ h => h⟩
  · by_cases hc : c = c'
    · subst hc
      cases hs.symm.trans hold
      exact ⟨new, by rw [heq, Indexed.getElem?_set_same hs], hact.client, hact.effect.tunnels,
        hact.effect.entered⟩
    · refine ⟨s, ?_, rfl, fun _ h => h, fun _ h => h⟩
      rw [heq, List.getElem?_set_ne (fun h => hc h.symm), hs]

/-- Sessions, old ones and a new one, after a step that admits a connection. -/
theorem accept_session_cases {remote : Net.SocketAddr}
    (heq : sys'.sessions = sys.sessions ∨ sys'.sessions = sys.sessions ++
      [.new ⟨.ofNat (sys.clientCounter + 1), remote, sys.sessions.length⟩])
    (hs : sys'.sessions[c]? = some s) :
    sys.sessions[c]? = some s ∨
      (c = sys.sessions.length ∧ s = .new ⟨.ofNat (sys.clientCounter + 1), remote, c⟩) := by
  rcases heq with heq | heq
  · exact .inl (heq ▸ hs)
  · rw [heq] at hs
    rcases Indexed.getElem?_concat_cases hs with ⟨rfl, rfl⟩ | hold
    · exact .inr ⟨rfl, rfl⟩
    · exact .inl hold

/-- A step keeps what is said of each session. -/
theorem System.Lawful.step_sessions (h : sys.Lawful cfg) (hstep : step cfg sys a = some sys')
    (hs : sys'.sessions[c]? = some s) :
    s.Lawful cfg ∧ s.client.arc = c ∧ s.client.id.toNat ≤ sys'.clientCounter := by
  rcases step_cases hstep with
    ⟨remote, _, _, hcount, heq⟩ | ⟨c', act, old, new, _, hold, hact, hcount, heq⟩
  · rcases accept_session_cases heq hs with hs | ⟨rfl, rfl⟩
    · obtain ⟨hlawful, harc, hid⟩ := h.sessions c s hs
      exact ⟨hlawful, harc, by omega⟩
    · refine ⟨Session.new_lawful _, rfl, ?_⟩
      rw [hcount, Session.new, UInt64.toNat_ofNat']
      exact Nat.mod_le _ _
  · rw [heq] at hs
    rcases Indexed.getElem?_set_cases hs with ⟨rfl, rfl⟩ | ⟨_, hs⟩
    · obtain ⟨hlawful, harc, hid⟩ := h.sessions c old hold
      rw [hact.client, hcount]
      exact ⟨hact.lawful hlawful, harc, hid⟩
    · rw [hcount]
      exact h.sessions c s hs

/-- Client ids are never taken back. -/
theorem step_clientCounter (hstep : step cfg sys a = some sys') :
    sys.clientCounter ≤ sys'.clientCounter := by
  rcases step_cases hstep with ⟨_, _, _, hcount, _⟩ | ⟨_, _, _, _, _, _, _, hcount, _⟩ <;> omega

/-- The next client id is not in use. -/
theorem System.Lawful.fresh (h : sys.Lawful cfg) (hlt : sys.clientCounter + 1 < 2 ^ 64)
    (hs : sys.sessions[c]? = some s) : s.client.id ≠ .ofNat (sys.clientCounter + 1) := by
  intro hid
  have hle := (h.sessions c s hs).2.2
  rw [hid, UInt64.toNat_ofNat_of_lt' hlt] at hle
  omega

/-- A step keeps the client ids distinct. -/
theorem System.Lawful.step_distinct (h : sys.Lawful cfg) (hstep : step cfg sys a = some sys')
    (hlt : sys'.clientCounter < 2 ^ 64) {c c' : Nat} (hs : sys'.sessions[c]? = some s)
    (hs' : sys'.sessions[c']? = some s') (hid : s.client.id = s'.client.id) : c = c' := by
  have hdistinct := h.distinct (Nat.lt_of_le_of_lt (step_clientCounter hstep) hlt)
  rcases step_cases hstep with
    ⟨remote, _, _, hcount, heq⟩ | ⟨k, act, old, new, _, hold, hact, _, heq⟩
  · rw [hcount] at hlt
    rcases accept_session_cases heq hs with hs | ⟨rfl, rfl⟩ <;>
      rcases accept_session_cases heq hs' with hs' | ⟨rfl, rfl⟩
    · exact hdistinct c c' s s' hs hs' hid
    · exact absurd hid (h.fresh hlt hs)
    · exact absurd hid.symm (h.fresh hlt hs')
    · rfl
  · rw [heq] at hs hs'
    rcases Indexed.getElem?_set_cases hs with ⟨rfl, rfl⟩ | ⟨_, hwas⟩ <;>
      rcases Indexed.getElem?_set_cases hs' with ⟨rfl, rfl⟩ | ⟨_, hwas'⟩
    · rfl
    · exact hdistinct c c' old s' hold hwas' (hact.client ▸ hid)
    · exact hdistinct c c' s old hwas hold (hact.client ▸ hid)
    · exact hdistinct c c' s s' hwas hwas' hid

/-- A step keeps the ownership invariant. -/
theorem System.Lawful.of_step (h : sys.Lawful cfg) (hstep : step cfg sys a = some sys') :
    sys'.Lawful cfg := by
  refine ⟨fun c s hs => h.step_sessions hstep hs,
    fun hlt c c' s s' hs hs' hid => h.step_distinct hstep hlt hs hs' hid, ?_, ?_, ?_⟩
  · intro id client hclient
    have hkeep : sys.state.clients.lookup id = some client → client.id = id ∧
        ∃ (c : Nat) (s : Session), sys'.sessions[c]? = some s ∧ s.client = client := by
      intro hold
      obtain ⟨hid, c, s, hs, rfl⟩ := h.clients id client hold
      obtain ⟨s', hs', hclient', _⟩ := session_survives hstep hs
      exact ⟨hid, c, s', hs', hclient'⟩
    rcases step_cases hstep with
      ⟨_, _, hst, _, _⟩ | ⟨c, act, old, new, _, hold, hact, _, heq⟩
    · exact hkeep (hst ▸ hclient)
    · rcases hact.effect.clients hclient with hwas | ⟨rfl, hid, _⟩
      · exact hkeep hwas
      · exact ⟨hid, c, new, by rw [heq, Indexed.getElem?_set_same hold], hact.client⟩
  · intro arc e he
    have hkeep : e ∈ (sys.state.clientTunnels arc).entries →
        ∃ s : Session, sys'.sessions[arc]? = some s ∧ e.2 ∈ s.tunnels ++ s.phase.inserted := by
      intro hwas
      obtain ⟨s, hs, hmem⟩ := h.clientTunnels arc e hwas
      obtain ⟨s', hs', _, _, hentered⟩ := session_survives hstep hs
      exact ⟨s', hs', hentered _ hmem⟩
    rcases step_cases hstep with
      ⟨_, _, hst, _, _⟩ | ⟨c, act, old, new, _, hold, hact, _, heq⟩
    · exact hkeep (hst ▸ he)
    · rcases hact.effect.clientTunnels he with hwas | ⟨rfl, hmem⟩
      · exact hkeep hwas
      · rw [(h.sessions c old hold).2.1]
        exact ⟨new, by rw [heq, Indexed.getElem?_set_same hold], List.mem_append_right _ hmem⟩
  · intro id t ht
    have hkeep : sys.state.tunnel id = some t → t.id = id ∧
        ∃ (c : Nat) (s : Session), sys'.sessions[c]? = some s ∧ t ∈ s.tunnels := by
      intro hwas
      obtain ⟨hid, c, s, hs, hmem⟩ := h.index id t hwas
      obtain ⟨s', hs', _, htunnels, _⟩ := session_survives hstep hs
      exact ⟨hid, c, s', hs', htunnels t hmem⟩
    rcases step_cases hstep with
      ⟨_, _, hst, _, _⟩ | ⟨c, act, old, new, _, hold, hact, _, heq⟩
    · exact hkeep (hst ▸ ht)
    · rcases hact.effect.indexed ht with hwas | ⟨hid, hmem⟩
      · exact hkeep hwas
      · exact ⟨hid, c, new, by rw [heq, Indexed.getElem?_set_same hold], hmem⟩

/-- The ownership invariant holds in every run. -/
theorem run_lawful {acts : List Action} (hrun : run cfg acts = some sys) : sys.Lawful cfg :=
  Transition.run_invariant (fun _ _ _ h hstep => h.of_step hstep) (System.init_lawful cfg) hrun

/-! ## Tunnel ids -/

/-- Every tunnel id ever drawn. -/
def System.assignedIds (sys : System) : List UInt64 :=
  sys.sessions.flatMap Session.assignedIds

/-- A session step draws no id, or the next one. -/
theorem RegistryEffect.assignedIds (h : RegistryEffect st s st' s') :
    (st'.nextTunnelId = st.nextTunnelId ∧ s'.assignedIds = s.assignedIds) ∨
      (st'.nextTunnelId = st.nextTunnelId + 1 ∧
        s'.assignedIds = s.assignedIds ++ [st.nextTunnelId + 1]) := by
  unfold Session.assignedIds
  cases h with
  | none hst htunnels hinserted hdrawn => exact .inl ⟨hst.nextTunnelId, by rw [htunnels, hdrawn]⟩
  | register hst htunnels hphase hphase' =>
      exact .inl ⟨by rw [hst]; rfl, by simp [htunnels, hphase, hphase']⟩
  | alloc req todo hst htunnels hphase hphase' =>
      exact .inr ⟨by rw [hst]; rfl, by simp [htunnels, hphase, hphase', ServerState.allocTunnelId]⟩
  | own req todo entry hst htunnels hphase hphase' =>
      exact .inl ⟨by rw [hst]; rfl, by simp [htunnels, hphase, hphase']⟩
  | publish todo entry hst htunnels hphase hphase' =>
      exact .inl ⟨by rw [hst]; rfl, by simp [htunnels, hphase, hphase']⟩
  | deregister reason hst htunnels hphase hphase' =>
      refine .inl ⟨?_, by simp [htunnels, hphase, hphase']⟩
      rw [hst, (st.deregisterClient_frame _ _).2.2]

/-- A server step draws no id, or the next one. -/
theorem step_assignedIds (hstep : step cfg sys a = some sys') :
    (sys'.state.nextTunnelId = sys.state.nextTunnelId ∧ sys'.assignedIds = sys.assignedIds) ∨
      (sys'.state.nextTunnelId = sys.state.nextTunnelId + 1 ∧
        sys'.assignedIds.Perm ((sys.state.nextTunnelId + 1) :: sys.assignedIds)) := by
  unfold System.assignedIds
  rcases step_cases hstep with
    ⟨remote, _, hst, _, heq | heq⟩ | ⟨c, act, old, new, _, hold, hact, _, heq⟩
  · exact .inl ⟨by rw [hst], by rw [heq]⟩
  · exact .inl ⟨by rw [hst], by simp [heq, Session.assignedIds, Session.new]⟩
  · rw [heq]
    rcases hact.effect.assignedIds with ⟨hnext, hids⟩ | ⟨hnext, hids⟩
    · exact .inl ⟨hnext, Indexed.flatMap_set_eq hold hids⟩
    · exact .inr ⟨hnext, Indexed.flatMap_set_perm hold hids⟩

/-- An id that was drawn stays so. -/
theorem step_assignedIds_length (hstep : step cfg sys a = some sys') :
    sys.assignedIds.length ≤ sys'.assignedIds.length := by
  rcases step_assignedIds hstep with ⟨_, hids⟩ | ⟨_, hperm⟩
  · rw [hids]
  · rw [hperm.length_eq]
    exact Nat.le_succ _

/-- Neither the counter of client ids nor that of tunnel ids has wrapped. -/
def System.Unwrapped (sys : System) : Prop :=
  sys.clientCounter < 2 ^ 64 ∧ sys.assignedIds.length < 2 ^ 64

instance (sys : System) : Decidable sys.Unwrapped :=
  inferInstanceAs (Decidable (_ ∧ _))

/-- A counter that has not wrapped had not wrapped before. -/
theorem System.Unwrapped.of_step (h : sys'.Unwrapped) (hstep : step cfg sys a = some sys') :
    sys.Unwrapped := by
  exact ⟨Nat.lt_of_le_of_lt (step_clientCounter hstep) h.1,
    Nat.lt_of_le_of_lt (step_assignedIds_length hstep) h.2⟩

/-- The ids assigned are distinct ones drawn from the counter. -/
def System.Drawn (sys : System) : Prop :=
  Counter.Drawn sys.state.nextTunnelId sys.assignedIds.length sys.assignedIds

/-- The invariant of the id counters while they have not wrapped. -/
structure System.Counted (sys : System) : Prop where
  clients : sys.clientCounter < 2 ^ 64
  drawn : sys.Drawn
  /-- A tunnel is indexed until its session returns. -/
  indexed : ∀ (c : Nat) (s : Session), sys.sessions[c]? = some s → s.phase ≠ .returned →
    ∀ t ∈ s.tunnels, sys.state.tunnel t.id = some t

theorem System.init_counted (cfg : ServerConfig) : (System.init cfg).Counted :=
  ⟨by simp [System.init], Counter.drawn_zero, by simp [System.init]⟩

/-- A step keeps the ids distinct as long as their counter does not wrap. -/
theorem System.Drawn.of_step (h : sys.Drawn) (hstep : step cfg sys a = some sys')
    (hlt : sys'.assignedIds.length < 2 ^ 64) : sys'.Drawn := by
  rcases step_assignedIds hstep with ⟨hnext, hids⟩ | ⟨hnext, hperm⟩
  · rw [System.Drawn, hnext, hids]
    exact h
  · have hlen : sys'.assignedIds.length = sys.assignedIds.length + 1 := by
      simpa using hperm.length_eq
    rw [System.Drawn, hnext, hlen]
    exact Counter.Drawn.draw h (hlen ▸ hlt) hperm

/-- The ids of one session are distinct. -/
theorem System.Drawn.session (h : sys.Drawn) (hs : sys.sessions[c]? = some s) :
    s.assignedIds.Nodup :=
  (List.nodup_flatMap.mp h.nodup).1 s (List.mem_of_getElem? hs)

/-- An indexed tunnel stays indexed unless the session publishes under the
same id or takes its client out. -/
theorem RegistryEffect.kept (h : RegistryEffect st s st' s') {id : UInt64}
    (ht : st.tunnels.lookup id = some t) :
    st'.tunnels.lookup id = some t ∨ (∃ entry ∈ s.phase.inserted, entry.id = id) ∨
      (s'.phase = .returned ∧ id ∈ st.ownTunnelIds s.client.id) := by
  cases h with
  | none hst => exact .inl (hst.tunnels ▸ ht)
  | register hst | alloc req todo hst | own req todo entry hst =>
      subst hst
      exact .inl ht
  | publish todo entry hst htunnels hphase =>
      subst hst
      by_cases heq : id = entry.id
      · exact .inr (.inl ⟨entry, by simp [hphase], heq.symm⟩)
      · rw [ServerState.insertTunnel_tunnels, AList.lookup_insert_ne heq]
        exact .inl ht
  | deregister reason hst htunnels hphase hphase' =>
      subst hst
      rw [ServerState.deregisterClient_lookup]
      by_cases hmem : id ∈ st.ownTunnelIds s.client.id
      · exact .inr (.inr ⟨hphase', hmem⟩)
      · rw [if_neg hmem]
        exact .inl ht

/-- A tunnel of the session after a step was there, or has just been indexed. -/
theorem RegistryEffect.published (h : RegistryEffect st s st' s') (ht : t ∈ s'.tunnels) :
    t ∈ s.tunnels ∨ st'.tunnels.lookup t.id = some t := by
  cases h with
  | none hst htunnels | register hst htunnels | alloc req todo hst htunnels
  | own req todo entry hst htunnels | deregister reason hst htunnels =>
      exact .inl (htunnels ▸ ht)
  | publish todo entry hst htunnels =>
      subst hst
      rw [htunnels] at ht
      rcases List.mem_append.mp ht with hold | hnew
      · exact .inl hold
      · cases List.mem_singleton.mp hnew
        exact .inr (AList.lookup_insert _)

/-- A session that has not returned had not returned before. -/
theorem RegistryEffect.not_returned (h : RegistryEffect st s st' s')
    (hphase : s'.phase ≠ .returned) : s.phase ≠ .returned := by
  intro hreturned
  cases h <;> simp_all

theorem Session.mem_assignedIds (ht : t ∈ s.tunnels) : t.id ∈ s.assignedIds :=
  List.mem_append_left _ (List.mem_map_of_mem ht)

theorem Session.inserted_mem_assignedIds (ht : t ∈ s.phase.inserted) : t.id ∈ s.phase.drawnIds := by
  cases hphase : s.phase <;> simp_all

/-- The ids in a client's own map were drawn by its session. -/
theorem System.Lawful.ownTunnelIds (h : sys.Lawful cfg) (hlt : sys.clientCounter < 2 ^ 64)
    (hs : sys.sessions[c]? = some s) {id : UInt64} (hid : id ∈ sys.state.ownTunnelIds s.client.id) :
    id ∈ s.assignedIds := by
  unfold ServerState.ownTunnelIds at hid
  cases hclient : sys.state.clients.lookup s.client.id with
  | none => simp [hclient] at hid
  | some client =>
      obtain ⟨hclientId, c', s', hs', rfl⟩ := h.clients _ client hclient
      cases h.distinct hlt c' c s' s hs' hs hclientId
      cases hs.symm.trans hs'
      simp only [hclient, List.mem_map] at hid
      obtain ⟨e, he, rfl⟩ := hid
      rw [(h.sessions c s hs).2.1] at he
      obtain ⟨s', hs', hmem⟩ := h.clientTunnels c e he
      cases hs.symm.trans hs'
      rcases List.mem_append.mp hmem with htunnel | hinserted
      · exact Session.mem_assignedIds htunnel
      · exact List.mem_append_right _ (Session.inserted_mem_assignedIds hinserted)

/-- A session's step takes no other session's tunnel out of the index. -/
theorem System.Counted.kept_other (hcount : sys.Counted) (h : sys.Lawful cfg) {c c' : Nat}
    {s s' other : Session} (hs : sys.sessions[c]? = some s)
    (heffect : RegistryEffect sys.state s st' s') (hc : c' ≠ c)
    (hother : sys.sessions[c']? = some other) (ht : t ∈ other.tunnels)
    (hindexed : sys.state.tunnel t.id = some t) : st'.tunnel t.id = some t := by
  have hforeign : t.id ∉ s.assignedIds := fun hmem =>
    hc (Indexed.position_unique hcount.drawn.nodup hother hs (Session.mem_assignedIds ht) hmem)
  rcases heffect.kept hindexed with hkept | ⟨entry, hentry, hid⟩ | ⟨_, hown⟩
  · exact hkept
  · refine absurd ?_ hforeign
    rw [← hid]
    exact List.mem_append_right _ (Session.inserted_mem_assignedIds hentry)
  · exact absurd (h.ownTunnelIds hcount.clients hs hown) hforeign

/-- A session's step takes none of its own tunnels out of the index unless it
returns. -/
theorem System.Counted.kept_own (hcount : sys.Counted) (hs : sys.sessions[c]? = some s)
    (heffect : RegistryEffect sys.state s st' s') (hphase : s'.phase ≠ .returned)
    (ht : t ∈ s'.tunnels) : st'.tunnel t.id = some t := by
  rcases heffect.published ht with hold | hnew
  · have hindexed := hcount.indexed c s hs (heffect.not_returned hphase) t hold
    rcases heffect.kept hindexed with hkept | ⟨entry, hentry, hid⟩ | ⟨hreturned, _⟩
    · exact hkept
    · refine absurd (Session.inserted_mem_assignedIds hentry) ?_
      rw [hid]
      exact List.disjoint_of_nodup_append (hcount.drawn.session hs) (List.mem_map_of_mem hold)
    · exact absurd hreturned hphase
  · exact hnew

/-- A step keeps the invariant of the counters as long as they do not wrap. -/
theorem System.Counted.of_step (hcount : sys.Counted) (h : sys.Lawful cfg)
    (hstep : step cfg sys a = some sys') (hlt : sys'.Unwrapped) : sys'.Counted := by
  refine ⟨hlt.1, hcount.drawn.of_step hstep hlt.2, fun c s hs hphase t ht => ?_⟩
  rcases step_cases hstep with
    ⟨remote, _, hst, _, heq⟩ | ⟨k, act, old, new, _, hold, hact, _, heq⟩
  · rw [hst]
    rcases accept_session_cases heq hs with hs | ⟨rfl, rfl⟩
    · exact hcount.indexed c s hs hphase t ht
    · simp [Session.new] at ht
  · rw [heq] at hs
    rcases Indexed.getElem?_set_cases hs with ⟨rfl, rfl⟩ | ⟨hc, hother⟩
    · exact hcount.kept_own hold hact.effect hphase ht
    · exact hcount.kept_other h hold hact.effect hc hother ht
        (hcount.indexed c s hother hphase t ht)

/-- While their counter has not wrapped, the ids are distinct. -/
theorem run_drawn {acts : List Action} (hrun : run cfg acts = some sys)
    (hlt : sys.assignedIds.length < 2 ^ 64) : sys.Drawn :=
  Transition.run_invariant_within (B := fun sys => sys.assignedIds.length < 2 ^ 64)
    (fun _ _ _ hstep => Nat.lt_of_le_of_lt (step_assignedIds_length hstep))
    (fun _ _ _ h hlt hstep => h.of_step hstep hlt) (System.init_counted cfg).drawn hrun hlt

/-- While no counter has wrapped, every tunnel of a session that has not returned is
indexed as well. -/
theorem run_counted {acts : List Action} (hrun : run cfg acts = some sys) (hlt : sys.Unwrapped) :
    sys.Counted := by
  have hinv : sys.Lawful cfg ∧ sys.Counted :=
    Transition.run_invariant_within (P := fun sys => sys.Lawful cfg ∧ sys.Counted)
      (B := System.Unwrapped) (fun _ _ _ hstep h => h.of_step hstep)
      (fun _ _ _ h hlt hstep => ⟨h.1.of_step hstep, h.2.of_step h.1 hstep hlt⟩)
      ⟨System.init_lawful cfg, System.init_counted cfg⟩ hrun hlt
  exact hinv.2

end Server
end Rusnel
