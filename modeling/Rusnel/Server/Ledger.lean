import Rusnel.Foundation.Counter
import Rusnel.Foundation.Transition
import Rusnel.Server.State

/-!
# The registry under any sequence of operations

The registry with those who hold on to its entries: tunnel records that were
handed out, to sessions or to handlers that outlive them, and conn guards that
have not been dropped.  Each call on the registry is one step; any order of
calls that the holders can make is a run.  The ledger beside it counts what was
asked of the registry.

Main results:

- Theorem {lit}`Ledger.run_lawful`: the invariant of every run that has drawn
  fewer than `2 ^ 64` ids of either kind.
- Theorem {lit}`Ledger.run_openConns`: where the counters stand after many conns
  on one tunnel.
-/

namespace Rusnel
namespace Server

open Net Counter

/-! ## The operations -/

/-- A conn that is open: dropping the guard closes it. -/
structure ConnGuard where
  tunnel : TunnelEntry
  conn : ConnEntry
deriving DecidableEq, Repr

/-- The registry, its entries in other hands, and what was asked of it. -/
structure Ledger where
  state : ServerState
  /-- Client ids used so far. -/
  clients : List UInt64
  /-- Tunnel records handed out so far. -/
  tunnels : List TunnelEntry
  /-- Guards that have not been dropped. -/
  guards : List ConnGuard
  /-- Conns registered so far, in all and by tunnel. -/
  opened : Nat
  openedOn : Nat → Nat
  /-- Bytes counted so far, by tunnel. -/
  bytesIn : Nat → Nat
  bytesOut : Nat → Nat

/-- The calls on the registry.  Tunnels and conns are named by their
allocation; a conn registers through a tunnel record whether or not its client
is still there. -/
inductive RegistryOp where
  | registerClient (id : UInt64) (remote : SocketAddr)
  | registerTunnels (id : UInt64) (requests : List RemoteRequest)
  | registerConn (tunnel : Nat) (peer : Option String)
  | addIn (conn : Nat) (n : UInt64)
  | addOut (conn : Nat) (n : UInt64)
  | dropGuard (conn : Nat)
  | deregisterClient (id : UInt64) (reason : String)
deriving DecidableEq, Repr

namespace Ledger

/-- A fresh server. -/
def init : Ledger where
  state := .new
  clients := []
  tunnels := []
  guards := []
  opened := 0
  openedOn := fun _ => 0
  bytesIn := fun _ => 0
  bytesOut := fun _ => 0

/-- The tunnel record of an allocation. -/
def tunnel? (l : Ledger) (arc : Nat) : Option TunnelEntry :=
  l.tunnels.find? fun t => t.arc == arc

/-- The guard of a conn that is open. -/
def guard? (l : Ledger) (arc : Nat) : Option ConnGuard :=
  l.guards.find? fun g => g.conn.arc == arc

/-- Raise one tunnel's entry of a count. -/
def credit (count : Nat → Nat) (arc n : Nat) : Nat → Nat :=
  Function.update count arc (count arc + n)

/-- A credit counts for one record only. -/
theorem credit_apply (count : Nat → Nat) (arc n other : Nat) :
    credit count arc n other = count other + if other = arc then n else 0 := by
  by_cases h : other = arc
  · subst h
    simp [credit]
  · simp [credit, h]

/-- Register a conn through a tunnel record. -/
def openConn (l : Ledger) (tunnel : TunnelEntry) (peer : Option String) : Ledger :=
  let (state, conn) := l.state.registerConn tunnel peer
  { l with
    state := state
    guards := l.guards ++ [⟨tunnel, conn⟩]
    opened := l.opened + 1
    openedOn := credit l.openedOn tunnel.arc 1 }

/-- Drop a guard. -/
def dropConn (l : Ledger) (g : ConnGuard) : Ledger :=
  { l with
    state := l.state.closeConn g.tunnel g.conn
    guards := l.guards.filter fun other => other.conn.arc != g.conn.arc }

/-- One call; refused for a client id that was used, and for a client, a tunnel
or a conn that is not there. -/
def step (l : Ledger) : RegistryOp → Option Ledger
  | .registerClient id remote =>
      if id ∈ l.clients then none
      else
        some { l with
          state := l.state.registerClient ⟨id, remote, l.clients.length⟩
          clients := l.clients ++ [id] }
  | .registerTunnels id requests =>
      match l.state.clients.lookup id with
      | none => none
      | some client =>
          let (state, entries) := l.state.registerTunnels client requests
          some { l with state := state, tunnels := l.tunnels ++ entries }
  | .registerConn tunnel peer => (l.tunnel? tunnel).map fun t => l.openConn t peer
  | .addIn conn n =>
      (l.guard? conn).map fun g =>
        { l with
          state := l.state.addIn g.conn n
          bytesIn := credit l.bytesIn g.tunnel.arc n.toNat }
  | .addOut conn n =>
      (l.guard? conn).map fun g =>
        { l with
          state := l.state.addOut g.conn n
          bytesOut := credit l.bytesOut g.tunnel.arc n.toNat }
  | .dropGuard conn => (l.guard? conn).map l.dropConn
  | .deregisterClient id reason =>
      some { l with state := l.state.deregisterClient id reason }

/-- Run calls on a fresh server. -/
def run (ops : List RegistryOp) : Option Ledger :=
  Transition.run step init ops

/-! ## What one call does -/

/-- Register one tunnel for a client. -/
def addTunnel (client : ClientEntry) (l : Ledger) (request : RemoteRequest) : Ledger :=
  let (state, entry) := l.state.registerTunnel client request
  { l with state := state, tunnels := l.tunnels ++ [entry] }

/-- Registering the tunnels of a hello registers one after the other. -/
theorem foldl_addTunnel (client : ClientEntry) (requests : List RemoteRequest) (l : Ledger) :
    requests.foldl (addTunnel client) l =
      { l with
        state := (l.state.registerTunnels client requests).1
        tunnels := l.tunnels ++ (l.state.registerTunnels client requests).2 } := by
  induction requests generalizing l with
  | nil => simp [ServerState.registerTunnels]
  | cons request requests ih => simp [addTunnel, ServerState.registerTunnels, ih]

/-- What one call does, with what enabled it. -/
inductive Effect (l : Ledger) : Ledger → Prop where
  | registerClient (id : UInt64) (remote : SocketAddr) (hnew : id ∉ l.clients) :
      Effect l { l with
        state := l.state.registerClient ⟨id, remote, l.clients.length⟩
        clients := l.clients ++ [id] }
  | registerTunnels (id : UInt64) (client : ClientEntry) (requests : List RemoteRequest)
      (hclient : l.state.clients.lookup id = some client) :
      Effect l (requests.foldl (addTunnel client) l)
  | openConn (tunnel : TunnelEntry) (peer : Option String) (hmem : tunnel ∈ l.tunnels) :
      Effect l (l.openConn tunnel peer)
  | addIn (g : ConnGuard) (n : UInt64) (hmem : g ∈ l.guards) :
      Effect l { l with
        state := l.state.addIn g.conn n
        bytesIn := credit l.bytesIn g.tunnel.arc n.toNat }
  | addOut (g : ConnGuard) (n : UInt64) (hmem : g ∈ l.guards) :
      Effect l { l with
        state := l.state.addOut g.conn n
        bytesOut := credit l.bytesOut g.tunnel.arc n.toNat }
  | dropConn (g : ConnGuard) (hmem : g ∈ l.guards) : Effect l (l.dropConn g)
  | deregisterClient (id : UInt64) (reason : String) :
      Effect l { l with state := l.state.deregisterClient id reason }

/-- What a call can do to the counts. -/
theorem step_effect {l l' : Ledger} {op : RegistryOp} (hstep : step l op = some l') :
    Effect l l' := by
  cases op with
  | registerClient id remote =>
      simp only [step] at hstep
      split_ifs at hstep with hnew
      cases hstep
      exact .registerClient id remote hnew
  | registerTunnels id requests =>
      simp only [step] at hstep
      split at hstep
      · cases hstep
      · next client hclient =>
          cases hstep
          have heffect := Effect.registerTunnels id client requests hclient
          rwa [foldl_addTunnel] at heffect
  | registerConn tunnel peer =>
      obtain ⟨t, ht, rfl⟩ := Option.map_eq_some_iff.mp hstep
      exact .openConn t peer (List.mem_of_find?_eq_some ht)
  | addIn conn n =>
      obtain ⟨g, hg, rfl⟩ := Option.map_eq_some_iff.mp hstep
      exact .addIn g n (List.mem_of_find?_eq_some hg)
  | addOut conn n =>
      obtain ⟨g, hg, rfl⟩ := Option.map_eq_some_iff.mp hstep
      exact .addOut g n (List.mem_of_find?_eq_some hg)
  | dropGuard conn =>
      obtain ⟨g, hg, rfl⟩ := Option.map_eq_some_iff.mp hstep
      exact .dropConn g (List.mem_of_find?_eq_some hg)
  | deregisterClient id reason =>
      cases hstep
      exact .deregisterClient id reason

/-! ## The invariant -/

/-- Ids and allocations are not handed out twice. -/
structure Issued (l : Ledger) : Prop where
  tunnelIds : Drawn l.state.nextTunnelId l.tunnels.length (l.tunnels.map (·.id))
  connIds : Drawn l.state.nextConnId l.opened (l.guards.map (·.conn.id))
  tunnelArcs : (l.tunnels.map (·.arc)).Nodup
  connArcs : (l.guards.map (·.conn.arc)).Nodup
  tunnel_lt : ∀ t ∈ l.tunnels, t.arc < l.state.nextArc
  conn_lt : ∀ g ∈ l.guards, g.conn.arc < l.state.nextArc
  guard_tunnel : ∀ g ∈ l.guards, g.tunnel ∈ l.tunnels

/-- The tunnel index holds the tunnels of the registered clients. -/
structure Owned (l : Ledger) : Prop where
  clients_nodup : l.clients.Nodup
  client : ∀ id client, l.state.clients.lookup id = some client →
    client.id = id ∧ l.clients[client.arc]? = some id
  own : ∀ arc id t, (l.state.clientTunnels arc).lookup id = some t →
    t.id = id ∧ t ∈ l.tunnels ∧ l.clients[arc]? = some t.clientId
  indexed : ∀ id t, l.state.tunnels.lookup id = some t →
    ∃ client, l.state.clients.lookup t.clientId = some client ∧
      (l.state.clientTunnels client.arc).lookup id = some t
  listed : ∀ clientId client id t, l.state.clients.lookup clientId = some client →
    (l.state.clientTunnels client.arc).lookup id = some t →
    l.state.tunnels.lookup id = some t

/-- The conn index and the tunnels' own maps hold the conns of the guards. -/
structure Held (l : Ledger) : Prop where
  indexed : ∀ id conn, l.state.conns.lookup id = some conn →
    ∃ g ∈ l.guards, g.conn = conn ∧ conn.id = id
  celled : ∀ arc id conn, (l.state.tunnelCells arc).conns.lookup id = some conn →
    ∃ g ∈ l.guards, g.tunnel.arc = arc ∧ g.conn = conn ∧ conn.id = id
  inCell : ∀ g ∈ l.guards,
    (l.state.tunnelCells g.tunnel.arc).conns.lookup g.conn.id = some g.conn
  inIndex : ∀ g ∈ l.guards, l.state.tunnels.lookup g.tunnel.id = some g.tunnel →
    l.state.conns.lookup g.conn.id = some g.conn

/-- The invariant of the registry. -/
structure Lawful (l : Ledger) : Prop where
  issued : l.Issued
  owned : l.Owned
  held : l.Held

/-- An empty registry keeps the books. -/
theorem init_lawful : init.Lawful where
  issued := by
    constructor <;> simp [init, ServerState.new, drawn_zero]
  owned := by
    constructor <;> simp [init, ServerState.new]
  held := by
    constructor <;> simp [init, ServerState.new]

variable {l : Ledger}

/-- Tunnels are told apart by their ids. -/
theorem Issued.tunnel_ext (h : l.Issued) {t t' : TunnelEntry} (ht : t ∈ l.tunnels)
    (ht' : t' ∈ l.tunnels) (hid : t.id = t'.id) : t = t' :=
  List.inj_on_of_nodup_map h.tunnelIds.nodup ht ht' hid

/-- Tunnels are told apart by their allocations. -/
theorem Issued.tunnel_ext_arc (h : l.Issued) {t t' : TunnelEntry} (ht : t ∈ l.tunnels)
    (ht' : t' ∈ l.tunnels) (harc : t.arc = t'.arc) : t = t' :=
  List.inj_on_of_nodup_map h.tunnelArcs ht ht' harc

/-- Guards are told apart by their conns' ids. -/
theorem Issued.guard_ext (h : l.Issued) {g g' : ConnGuard} (hg : g ∈ l.guards)
    (hg' : g' ∈ l.guards) (hid : g.conn.id = g'.conn.id) : g = g' :=
  List.inj_on_of_nodup_map h.connIds.nodup hg hg' hid

/-! ### Registering a client -/

/-- A client under an id that is not in use. -/
theorem Lawful.registerClient (h : l.Lawful) {id : UInt64} (remote : SocketAddr)
    (hnew : id ∉ l.clients) :
    Lawful { l with
      state := l.state.registerClient ⟨id, remote, l.clients.length⟩
      clients := l.clients ++ [id] } where
  issued := ⟨h.issued.tunnelIds, h.issued.connIds, h.issued.tunnelArcs, h.issued.connArcs,
    h.issued.tunnel_lt, h.issued.conn_lt, h.issued.guard_tunnel⟩
  held := ⟨h.held.indexed, h.held.celled, h.held.inCell, h.held.inIndex⟩
  owned := by
    have hkeep : ∀ {arc : Nat} {other : UInt64}, l.clients[arc]? = some other →
        (l.clients ++ [id])[arc]? = some other := by
      intro arc other hother
      rw [List.getElem?_append_left (List.getElem?_eq_some_iff.mp hother).1, hother]
    -- The new client's own map is empty: its number was not in use.
    have hempty : ∀ tunnelId t,
        (l.state.clientTunnels l.clients.length).lookup tunnelId ≠ some t := by
      intro tunnelId t ht
      have hlen := (h.owned.own _ _ _ ht).2.2
      simp at hlen
    refine ⟨?_, ?_, ?_, ?_, ?_⟩
    · have hnodup := List.Nodup.concat hnew h.owned.clients_nodup
      rwa [List.concat_eq_append] at hnodup
    · intro other client hclient
      by_cases heq : other = id
      · subst heq
        rw [ServerState.registerClient, AList.lookup_insert] at hclient
        cases hclient
        simp
      · rw [ServerState.registerClient, AList.lookup_insert_ne heq] at hclient
        obtain ⟨hid, harc⟩ := h.owned.client other client hclient
        exact ⟨hid, hkeep harc⟩
    · intro arc tunnelId t ht
      obtain ⟨hid, hmem, harc⟩ := h.owned.own arc tunnelId t ht
      exact ⟨hid, hmem, hkeep harc⟩
    · intro tunnelId t ht
      obtain ⟨client, hclient, hown⟩ := h.owned.indexed tunnelId t ht
      have hne : t.clientId ≠ id := by
        rintro rfl
        exact hnew (List.mem_of_getElem? (h.owned.client _ _ hclient).2)
      exact ⟨client, by rw [ServerState.registerClient, AList.lookup_insert_ne hne, hclient],
        hown⟩
    · intro other client tunnelId t hclient ht
      by_cases heq : other = id
      · subst heq
        rw [ServerState.registerClient, AList.lookup_insert] at hclient
        cases hclient
        exact absurd ht (hempty tunnelId t)
      · rw [ServerState.registerClient, AList.lookup_insert_ne heq] at hclient
        exact h.owned.listed other client tunnelId t hclient ht

/-! ### Registering a tunnel -/

/-- The record the next registration creates. -/
def nextTunnel (l : Ledger) (client : ClientEntry) (request : RemoteRequest) : TunnelEntry :=
  l.state.tunnelEntry client (l.state.nextTunnelId + 1) request

section AddTunnel

variable {client : ClientEntry} {request : RemoteRequest}

theorem addTunnel_tunnels :
    (l.addTunnel client request).tunnels = l.tunnels ++ [l.nextTunnel client request] :=
  rfl

/-- The index has the new tunnel and what it had. -/
theorem addTunnel_index (id : UInt64) :
    (l.addTunnel client request).state.tunnels.lookup id =
      if id = l.state.nextTunnelId + 1 then some (l.nextTunnel client request)
      else l.state.tunnels.lookup id :=
  ServerState.insertTunnel_lookup _ _ id

/-- The client's own map has it too, and no other client's. -/
theorem addTunnel_own (arc : Nat) (id : UInt64) :
    ((l.addTunnel client request).state.clientTunnels arc).lookup id =
      if arc = client.arc ∧ id = l.state.nextTunnelId + 1 then
        some (l.nextTunnel client request)
      else (l.state.clientTunnels arc).lookup id :=
  ServerState.insertClientTunnel_lookup _ _ _ arc id

/-- The id of a new tunnel is drawn from the counter. -/
theorem Issued.addTunnel (h : l.Issued) (hlt : l.tunnels.length + 1 < 2 ^ 64) :
    (l.addTunnel client request).Issued where
  tunnelIds := by
    rw [addTunnel_tunnels, List.length_append]
    refine h.tunnelIds.draw hlt ?_
    rw [List.map_append]
    exact List.perm_append_singleton _ _
  connIds := h.connIds
  tunnelArcs := by
    have hnew : l.state.nextArc ∉ l.tunnels.map (·.arc) := by
      intro hmem
      obtain ⟨t, ht, harc⟩ := List.mem_map.mp hmem
      have hlt := h.tunnel_lt t ht
      omega
    rw [addTunnel_tunnels, List.map_append]
    have hnodup := List.Nodup.concat hnew h.tunnelArcs
    rwa [List.concat_eq_append] at hnodup
  connArcs := h.connArcs
  tunnel_lt t ht := by
    change t.arc < l.state.nextArc + 1
    rw [addTunnel_tunnels] at ht
    rcases List.mem_append.mp ht with hold | hnew
    · have hlt := h.tunnel_lt t hold
      omega
    · cases List.mem_singleton.mp hnew
      exact Nat.lt_succ_self _
  conn_lt g hg := Nat.lt_succ_of_lt (h.conn_lt g hg)
  guard_tunnel g hg := List.mem_append_left _ (h.guard_tunnel g hg)

/-- The id of the next registration is not the id of a tunnel. -/
theorem Issued.tunnel_fresh (h : l.Issued) (hlt : l.tunnels.length + 1 < 2 ^ 64)
    {t : TunnelEntry} (ht : t ∈ l.tunnels) : t.id ≠ l.state.nextTunnelId + 1 :=
  fun heq => h.tunnelIds.fresh hlt (List.mem_map.mpr ⟨t, ht, heq⟩)

/-- A tunnel of a registered client. -/
theorem Lawful.addTunnel (h : l.Lawful) {clientId : UInt64}
    (hclient : l.state.clients.lookup clientId = some client)
    (hlt : l.tunnels.length + 1 < 2 ^ 64) : (l.addTunnel client request).Lawful where
  issued := h.issued.addTunnel hlt
  owned := by
    obtain ⟨rfl, harc⟩ := h.owned.client clientId client hclient
    refine ⟨h.owned.clients_nodup, h.owned.client, ?_, ?_, ?_⟩
    · intro arc id t ht
      rw [addTunnel_own] at ht
      split_ifs at ht with hnew
      · cases ht
        obtain ⟨rfl, rfl⟩ := hnew
        exact ⟨rfl, List.mem_append_right _ (List.mem_singleton_self _), harc⟩
      · obtain ⟨hid', hmem, harc'⟩ := h.owned.own arc id t ht
        exact ⟨hid', List.mem_append_left _ hmem, harc'⟩
    · intro id t ht
      rw [addTunnel_index] at ht
      split_ifs at ht with hnew
      · cases ht
        refine ⟨client, hclient, ?_⟩
        rw [addTunnel_own, if_pos ⟨rfl, hnew⟩]
      · obtain ⟨client', hclient', hown⟩ := h.owned.indexed id t ht
        refine ⟨client', hclient', ?_⟩
        rw [addTunnel_own, if_neg fun hboth => hnew hboth.2, hown]
    · intro otherId client' id t hclient' ht
      rw [addTunnel_own] at ht
      rw [addTunnel_index]
      split_ifs at ht with hnew
      · rw [if_pos hnew.2, ht]
      · have hne : id ≠ l.state.nextTunnelId + 1 := by
          obtain ⟨rfl, hmem, _⟩ := h.owned.own _ id t ht
          exact h.issued.tunnel_fresh hlt hmem
        rw [if_neg hne]
        exact h.owned.listed otherId client' id t hclient' ht
  held := by
    refine ⟨h.held.indexed, h.held.celled, h.held.inCell, ?_⟩
    intro g hg hreg
    rw [addTunnel_index, if_neg (h.issued.tunnel_fresh hlt (h.issued.guard_tunnel g hg))] at hreg
    exact h.held.inIndex g hg hreg

end AddTunnel

/-! ### Opening and closing a conn -/

section Conns

variable {tunnel : TunnelEntry} {peer : Option String}

/-- The record the next conn gets. -/
def nextConn (l : Ledger) (tunnel : TunnelEntry) (peer : Option String) : ConnEntry :=
  ⟨l.state.nextConnId + 1, tunnel.id, tunnel.clientId, peer, l.state.nextArc⟩

theorem openConn_guards :
    (l.openConn tunnel peer).guards = l.guards ++ [⟨tunnel, l.nextConn tunnel peer⟩] :=
  rfl

theorem mem_openConn {g : ConnGuard} :
    g ∈ (l.openConn tunnel peer).guards ↔
      g ∈ l.guards ∨ g = ⟨tunnel, l.nextConn tunnel peer⟩ := by
  rw [openConn_guards, List.mem_append, List.mem_singleton]

/-- The index has the new conn and what it had. -/
theorem openConn_index (id : UInt64) :
    (l.openConn tunnel peer).state.conns.lookup id =
      if id = l.state.nextConnId + 1 then some (l.nextConn tunnel peer)
      else l.state.conns.lookup id :=
  Table.lookup_insert_ite _ _ _ _

/-- Its tunnel lists it too, and no other tunnel. -/
theorem openConn_cell (arc : Nat) (id : UInt64) :
    ((l.openConn tunnel peer).state.tunnelCells arc).conns.lookup id =
      if arc = tunnel.arc ∧ id = l.state.nextConnId + 1 then some (l.nextConn tunnel peer)
      else (l.state.tunnelCells arc).conns.lookup id := by
  change (Function.update l.state.tunnelCells tunnel.arc _ arc).conns.lookup id = _
  by_cases harc : arc = tunnel.arc
  · subst harc
    rw [Function.update_self, Table.lookup_insert_ite]
    simp
    rfl
  · rw [Function.update_of_ne harc, if_neg fun hboth => harc hboth.1]

theorem openConn_openedOn :
    (l.openConn tunnel peer).openedOn = credit l.openedOn tunnel.arc 1 :=
  rfl

/-- The total of its tunnel goes up. -/
theorem openConn_totalConns (arc : Nat) :
    ((l.openConn tunnel peer).state.tunnelCells arc).totalConns =
      (l.state.tunnelCells arc).totalConns + if arc = tunnel.arc then 1 else 0 := by
  change (Function.update l.state.tunnelCells tunnel.arc _ arc).totalConns = _
  by_cases harc : arc = tunnel.arc
  · subst harc
    simp
  · simp [harc]

/-- The id of a new conn is drawn from the counter. -/
theorem Issued.openConn (h : l.Issued) (hmem : tunnel ∈ l.tunnels)
    (hlt : l.opened + 1 < 2 ^ 64) : (l.openConn tunnel peer).Issued where
  tunnelIds := h.tunnelIds
  connIds := by
    refine h.connIds.draw hlt ?_
    rw [openConn_guards, List.map_append]
    exact List.perm_append_singleton _ _
  tunnelArcs := h.tunnelArcs
  connArcs := by
    have hnew : l.state.nextArc ∉ l.guards.map (·.conn.arc) := by
      intro hin
      obtain ⟨g, hg, harc⟩ := List.mem_map.mp hin
      have hlt := h.conn_lt g hg
      omega
    rw [openConn_guards, List.map_append]
    have hnodup := List.Nodup.concat hnew h.connArcs
    rwa [List.concat_eq_append] at hnodup
  tunnel_lt t ht := Nat.lt_succ_of_lt (h.tunnel_lt t ht)
  conn_lt g hg := by
    change g.conn.arc < l.state.nextArc + 1
    rcases mem_openConn.mp hg with hold | rfl
    · have hlt := h.conn_lt g hold
      omega
    · exact Nat.lt_succ_self _
  guard_tunnel g hg := by
    rcases mem_openConn.mp hg with hold | rfl
    · exact h.guard_tunnel g hold
    · exact hmem

/-- The id of the next conn is not the id of one that is open. -/
theorem Issued.conn_fresh (h : l.Issued) (hlt : l.opened + 1 < 2 ^ 64) {g : ConnGuard}
    (hg : g ∈ l.guards) : g.conn.id ≠ l.state.nextConnId + 1 :=
  fun heq => h.connIds.fresh hlt (List.mem_map.mpr ⟨g, hg, heq⟩)

/-- A conn on a tunnel that was registered, whether or not it still is. -/
theorem Lawful.openConn (h : l.Lawful) (hmem : tunnel ∈ l.tunnels)
    (hlt : l.opened + 1 < 2 ^ 64) : (l.openConn tunnel peer).Lawful where
  issued := h.issued.openConn hmem hlt
  owned := ⟨h.owned.clients_nodup, h.owned.client, h.owned.own, h.owned.indexed,
    h.owned.listed⟩
  held := by
    refine ⟨?_, ?_, ?_, ?_⟩
    · intro id conn hconn
      rw [openConn_index] at hconn
      split_ifs at hconn with hnew
      · cases hconn
        exact ⟨_, mem_openConn.mpr (.inr rfl), rfl, hnew.symm⟩
      · obtain ⟨g, hg, hgconn⟩ := h.held.indexed id conn hconn
        exact ⟨g, mem_openConn.mpr (.inl hg), hgconn⟩
    · intro arc id conn hconn
      rw [openConn_cell] at hconn
      split_ifs at hconn with hnew
      · cases hconn
        exact ⟨_, mem_openConn.mpr (.inr rfl), hnew.1.symm, rfl, hnew.2.symm⟩
      · obtain ⟨g, hg, hgconn⟩ := h.held.celled arc id conn hconn
        exact ⟨g, mem_openConn.mpr (.inl hg), hgconn⟩
    · intro g hg
      rw [openConn_cell]
      rcases mem_openConn.mp hg with hold | rfl
      · rw [if_neg fun hboth => h.issued.conn_fresh hlt hold hboth.2]
        exact h.held.inCell g hold
      · exact if_pos ⟨rfl, rfl⟩
    · intro g hg hreg
      rw [openConn_index]
      rcases mem_openConn.mp hg with hold | rfl
      · rw [if_neg (h.issued.conn_fresh hlt hold)]
        exact h.held.inIndex g hold hreg
      · exact if_pos rfl

variable {g : ConnGuard}

/-- The guard of a closed conn is gone, and no other. -/
theorem mem_dropConn {other : ConnGuard} :
    other ∈ (l.dropConn g).guards ↔ other ∈ l.guards ∧ other.conn.arc ≠ g.conn.arc := by
  simp [dropConn]

/-- A closed conn is taken out of the index. -/
theorem dropConn_index (id : UInt64) :
    (l.dropConn g).state.conns.lookup id =
      if id = g.conn.id then none else l.state.conns.lookup id :=
  Table.lookup_erase_ite _ _ _

/-- It is taken out of its tunnel's list. -/
theorem dropConn_cell (arc : Nat) (id : UInt64) :
    ((l.dropConn g).state.tunnelCells arc).conns.lookup id =
      if arc = g.tunnel.arc ∧ id = g.conn.id then none
      else (l.state.tunnelCells arc).conns.lookup id := by
  change (Function.update l.state.tunnelCells g.tunnel.arc _ arc).conns.lookup id = _
  by_cases harc : arc = g.tunnel.arc
  · subst harc
    simp [Table.lookup_erase_ite]
  · rw [Function.update_of_ne harc, if_neg fun hboth => harc hboth.1]

/-- Of the open conns exactly the dropped one has its id. -/
theorem Issued.drop_iff (h : l.Issued) (hg : g ∈ l.guards) {other : ConnGuard}
    (hother : other ∈ l.guards) : other.conn.arc ≠ g.conn.arc ↔ other.conn.id ≠ g.conn.id := by
  constructor
  · intro harc hid
    exact harc (congrArg (·.conn.arc) (h.guard_ext hother hg hid))
  · intro hid harc
    exact hid (congrArg (·.conn.id) (List.inj_on_of_nodup_map h.connArcs hother hg harc))

/-- A conn whose guard is dropped. -/
theorem Lawful.dropConn (h : l.Lawful) (hg : g ∈ l.guards) : (l.dropConn g).Lawful where
  issued := by
    have hsub : (l.dropConn g).guards.Sublist l.guards := List.filter_sublist
    exact ⟨h.issued.tunnelIds, h.issued.connIds.sublist (hsub.map _), h.issued.tunnelArcs,
      h.issued.connArcs.sublist (hsub.map _), h.issued.tunnel_lt,
      fun other hother => h.issued.conn_lt other (hsub.subset hother),
      fun other hother => h.issued.guard_tunnel other (hsub.subset hother)⟩
  owned := ⟨h.owned.clients_nodup, h.owned.client, h.owned.own, h.owned.indexed,
    h.owned.listed⟩
  held := by
    refine ⟨?_, ?_, ?_, ?_⟩
    · intro id conn hconn
      rw [dropConn_index] at hconn
      split_ifs at hconn with hne
      obtain ⟨other, hother, rfl, rfl⟩ := h.held.indexed id conn hconn
      exact ⟨other, mem_dropConn.mpr ⟨hother, (h.issued.drop_iff hg hother).mpr hne⟩, rfl, rfl⟩
    · intro arc id conn hconn
      rw [dropConn_cell] at hconn
      split_ifs at hconn with hne
      obtain ⟨other, hother, rfl, rfl, rfl⟩ := h.held.celled arc id conn hconn
      refine ⟨other, mem_dropConn.mpr ⟨hother, ?_⟩, rfl, rfl, rfl⟩
      rw [h.issued.drop_iff hg hother]
      intro hid
      have heq := h.issued.guard_ext hother hg hid
      exact hne ⟨congrArg (·.tunnel.arc) heq, hid⟩
    · intro other hother
      obtain ⟨hother, harc⟩ := mem_dropConn.mp hother
      have hid := (h.issued.drop_iff hg hother).mp harc
      rw [dropConn_cell, if_neg fun hboth => hid hboth.2]
      exact h.held.inCell other hother
    · intro other hother hreg
      obtain ⟨hother, harc⟩ := mem_dropConn.mp hother
      rw [dropConn_index, if_neg ((h.issued.drop_iff hg hother).mp harc)]
      exact h.held.inIndex other hother hreg

end Conns

/-! ### Counting bytes -/

/-- The invariant does not look at the byte counters. -/
theorem Lawful.recount (h : l.Lawful) (counters : Nat → UInt64 × UInt64)
    (bytesIn bytesOut : Nat → Nat) :
    Lawful { l with
      state := { l.state with counters := counters }
      bytesIn := bytesIn
      bytesOut := bytesOut } where
  issued := ⟨h.issued.tunnelIds, h.issued.connIds, h.issued.tunnelArcs, h.issued.connArcs,
    h.issued.tunnel_lt, h.issued.conn_lt, h.issued.guard_tunnel⟩
  owned := ⟨h.owned.clients_nodup, h.owned.client, h.owned.own, h.owned.indexed,
    h.owned.listed⟩
  held := ⟨h.held.indexed, h.held.celled, h.held.inCell, h.held.inIndex⟩

/-! ### Deregistering a client -/

/-- The tunnels that are taken out with a client are its own. -/
theorem Owned.mem_ownTunnelIds (h : l.Owned) {id : UInt64} {tunnelId : UInt64} :
    tunnelId ∈ l.state.ownTunnelIds id ↔
      ∃ client t, l.state.clients.lookup id = some client ∧
        (l.state.clientTunnels client.arc).lookup tunnelId = some t := by
  constructor
  · intro hmem
    unfold ServerState.ownTunnelIds at hmem
    cases hclient : l.state.clients.lookup id with
    | none => simp [hclient] at hmem
    | some client =>
        simp only [hclient] at hmem
        obtain ⟨e, he, rfl⟩ := List.mem_map.mp hmem
        have hlookup := AList.mem_lookup_iff.mpr he
        obtain ⟨hid, _⟩ := h.own _ _ _ hlookup
        exact ⟨client, e.2, rfl, hid ▸ hlookup⟩
  · rintro ⟨client, t, hclient, ht⟩
    exact ServerState.mem_ownTunnelIds hclient ht (h.own _ _ _ ht).1

/-- The conns that are taken out with a tunnel are those with a guard. -/
theorem Held.mem_connIds (h : l.Held) {t : TunnelEntry} {connId : UInt64} :
    connId ∈ l.state.connIds t ↔
      ∃ g ∈ l.guards, g.tunnel.arc = t.arc ∧ g.conn.id = connId := by
  unfold ServerState.connIds
  simp only [List.mem_map]
  constructor
  · rintro ⟨e, he, rfl⟩
    obtain ⟨g, hg, harc, hconn, _⟩ := h.celled _ _ _ (AList.mem_lookup_iff.mpr he)
    exact ⟨g, hg, harc, congrArg (·.id) hconn⟩
  · rintro ⟨g, hg, harc, rfl⟩
    have hcell := h.inCell g hg
    rw [harc] at hcell
    exact ⟨⟨g.conn.id, g.conn⟩, AList.mem_lookup_iff.mp hcell, rfl⟩

/-- A client's own tunnels are those of no other client. -/
theorem Lawful.own_unique (h : l.Lawful) {id id' : UInt64} {client client' : ClientEntry}
    {tunnelId : UInt64} {t t' : TunnelEntry} (hclient : l.state.clients.lookup id = some client)
    (hclient' : l.state.clients.lookup id' = some client')
    (ht : (l.state.clientTunnels client.arc).lookup tunnelId = some t)
    (ht' : (l.state.clientTunnels client'.arc).lookup tunnelId = some t') : id = id' := by
  obtain ⟨hid, hmem, harc⟩ := h.owned.own _ _ _ ht
  obtain ⟨hid', hmem', harc'⟩ := h.owned.own _ _ _ ht'
  cases h.issued.tunnel_ext hmem hmem' (hid.trans hid'.symm)
  rw [(h.owned.client id client hclient).2] at harc
  rw [(h.owned.client id' client' hclient').2] at harc'
  exact (Option.some.inj harc).trans (Option.some.inj harc').symm

/-- A client that is taken out, with its tunnels and the conns on them; their guards
remain. -/
theorem Lawful.deregisterClient (h : l.Lawful) (id : UInt64) (reason : String) :
    Lawful { l with state := l.state.deregisterClient id reason } := by
  obtain ⟨hcells, _, hnextConn, hnextArc⟩ := l.state.deregisterClient_cells id reason
  obtain ⟨_, hmaps, hnextTunnel⟩ := l.state.deregisterClient_frame id reason
  have hclients := l.state.deregisterClient_clients id reason
  have hindex := l.state.deregisterClient_lookup id reason
  have hconns := l.state.deregisterClient_conns id reason
  refine ⟨⟨?_, ?_, h.issued.tunnelArcs, h.issued.connArcs, ?_, ?_, h.issued.guard_tunnel⟩,
    ⟨h.owned.clients_nodup, ?_, ?_, ?_, ?_⟩, ⟨?_, ?_, ?_, ?_⟩⟩
  · simpa only [hnextTunnel] using h.issued.tunnelIds
  · simpa only [hnextConn] using h.issued.connIds
  · simpa only [hnextArc] using h.issued.tunnel_lt
  · simpa only [hnextArc] using h.issued.conn_lt
  · intro other client hclient
    rw [hclients] at hclient
    exact h.owned.client other client (Table.lookup_of_erase hclient).2
  · intro arc tunnelId t ht
    rw [hmaps] at ht
    exact h.owned.own arc tunnelId t ht
  · intro tunnelId t ht
    rw [hindex] at ht
    split_ifs at ht with hown
    obtain ⟨client, hclient, htunnel⟩ := h.owned.indexed tunnelId t ht
    -- The tunnel is not the client's that is going, so its own client stays.
    have hne : t.clientId ≠ id := by
      rintro rfl
      exact hown (h.owned.mem_ownTunnelIds.mpr ⟨client, t, hclient, htunnel⟩)
    refine ⟨client, ?_, by rwa [hmaps]⟩
    rw [hclients, AList.lookup_erase_ne hne, hclient]
  · intro other client tunnelId t hclient ht
    rw [hclients] at hclient
    obtain ⟨hne, hclient⟩ := Table.lookup_of_erase hclient
    rw [hmaps] at ht
    rw [hindex, if_neg, h.owned.listed other client tunnelId t hclient ht]
    intro hown
    obtain ⟨gone, t', hgone, ht'⟩ := h.owned.mem_ownTunnelIds.mp hown
    exact hne (h.own_unique hclient hgone ht ht')
  · intro connId conn hconn
    rw [hconns] at hconn
    split_ifs at hconn
    exact h.held.indexed connId conn hconn
  · intro arc connId conn hconn
    rw [hcells] at hconn
    exact h.held.celled arc connId conn hconn
  · intro g hg
    rw [hcells]
    exact h.held.inCell g hg
  · intro g hg hreg
    rw [hindex] at hreg
    split_ifs at hreg with hown
    rw [hconns, if_neg, h.held.inIndex g hg hreg]
    -- A dropped conn of that id would be this guard's, and its tunnel gone.
    rintro ⟨tunnelId, hgone, t, ht, hconn⟩
    obtain ⟨g', hg', harc, hid⟩ := h.held.mem_connIds.mp hconn
    cases h.issued.guard_ext hg' hg hid
    obtain ⟨client, _, htunnel⟩ := h.owned.indexed tunnelId t ht
    obtain ⟨htid, hmem, _⟩ := h.owned.own _ _ _ htunnel
    cases h.issued.tunnel_ext_arc (h.issued.guard_tunnel g hg) hmem harc
    exact hown (htid ▸ hgone)

/-! ## Runs -/

/-- Neither id counter has wrapped. -/
def Bounded (l : Ledger) : Prop :=
  l.tunnels.length < 2 ^ 64 ∧ l.opened < 2 ^ 64

instance (l : Ledger) : Decidable l.Bounded :=
  inferInstanceAs (Decidable (_ ∧ _))

/-- The tunnels of a hello, one after the other. -/
theorem Lawful.foldl_addTunnel (h : l.Lawful) {clientId : UInt64} {client : ClientEntry}
    (hclient : l.state.clients.lookup clientId = some client) (requests : List RemoteRequest)
    (hlt : l.tunnels.length + requests.length < 2 ^ 64) :
    (requests.foldl (Ledger.addTunnel client) l).Lawful := by
  induction requests generalizing l with
  | nil => exact h
  | cons request requests ih =>
      rw [List.length_cons] at hlt
      refine ih (h.addTunnel hclient (by omega)) hclient ?_
      rw [addTunnel_tunnels, List.length_append, List.length_singleton]
      omega

/-- Each request makes one tunnel. -/
theorem length_foldl_addTunnel (client : ClientEntry) (requests : List RemoteRequest)
    (l : Ledger) :
    (requests.foldl (addTunnel client) l).tunnels.length = l.tunnels.length + requests.length := by
  induction requests generalizing l with
  | nil => rfl
  | cons request requests ih =>
      rw [List.foldl_cons, ih, addTunnel_tunnels, List.length_append, List.length_singleton,
        List.length_cons]
      omega

/-- The counts of what was handed out never go down. -/
theorem Effect.counts {l' : Ledger} (heffect : Effect l l') :
    l.tunnels.length ≤ l'.tunnels.length ∧ l.opened ≤ l'.opened := by
  cases heffect with
  | registerTunnels id client requests hclient =>
      refine ⟨by rw [length_foldl_addTunnel]; omega, ?_⟩
      rw [Ledger.foldl_addTunnel]
  | openConn tunnel peer hmem => exact ⟨Nat.le_refl _, Nat.le_succ _⟩
  | _ => exact ⟨Nat.le_refl _, Nat.le_refl _⟩

/-- Every call keeps the invariant as long as no counter wraps. -/
theorem Effect.lawful {l' : Ledger} (h : l.Lawful) (heffect : Effect l l')
    (hbounded : l'.Bounded) : l'.Lawful := by
  obtain ⟨htunnels, hconns⟩ := hbounded
  cases heffect with
  | registerClient id remote hnew => exact h.registerClient remote hnew
  | registerTunnels id client requests hclient =>
      rw [length_foldl_addTunnel] at htunnels
      exact h.foldl_addTunnel hclient requests htunnels
  | openConn tunnel peer hmem => exact h.openConn hmem hconns
  | addIn g n hmem =>
      rw [ServerState.addIn_counters]
      exact h.recount _ _ _
  | addOut g n hmem =>
      rw [ServerState.addOut_counters]
      exact h.recount _ _ _
  | dropConn g hmem => exact h.dropConn hmem
  | deregisterClient id reason => exact h.deregisterClient id reason

/-- Counts that are within the bound were so before a call. -/
theorem Bounded.of_effect {l' : Ledger} (heffect : Effect l l') (h : l'.Bounded) :
    l.Bounded :=
  ⟨Nat.lt_of_le_of_lt heffect.counts.1 h.1, Nat.lt_of_le_of_lt heffect.counts.2 h.2⟩

/-- They were so before any number of calls. -/
theorem Bounded.of_run {l' : Ledger} {more : List RegistryOp}
    (hmore : Transition.run step l more = some l') (h : l'.Bounded) : l.Bounded :=
  Transition.bound_of_run (fun _ _ _ hstep => Bounded.of_effect (step_effect hstep)) hmore h

/-- The invariant holds after every run in which no counter has wrapped. -/
theorem run_lawful {ops : List RegistryOp} (hrun : run ops = some l) (hbounded : l.Bounded) :
    l.Lawful :=
  Transition.run_invariant_within
    (fun _ _ _ hstep => Bounded.of_effect (step_effect hstep))
    (fun _ _ _ h hbounded hstep => (step_effect hstep).lawful h hbounded)
    init_lawful hrun hbounded

/-- How a ledger has changed after `n` further conns on one tunnel. -/
structure Opened (t : TunnelEntry) (n : Nat) (l l' : Ledger) : Prop where
  tunnels : l'.tunnels = l.tunnels
  index : l'.state.tunnels = l.state.tunnels
  nextConnId : l'.state.nextConnId = l.state.nextConnId + .ofNat n
  nextArc : l'.state.nextArc = l.state.nextArc + n
  totalConns : (l'.state.tunnelCells t.arc).totalConns =
    (l.state.tunnelCells t.arc).totalConns + .ofNat n
  openedOn : l'.openedOn t.arc = l.openedOn t.arc + n
  bytes : l'.bytesIn = l.bytesIn ∧ l'.bytesOut = l.bytesOut
  kept : ∀ g ∈ l.guards, g ∈ l'.guards
  allocated : ∀ g ∈ l'.guards, g.conn.arc < l'.state.nextArc

/-- Opening many conns on one tunnel: where the counters stand. -/
theorem run_openConns {t : TunnelEntry} (ht : l.tunnel? t.arc = some t)
    (hlt : ∀ g ∈ l.guards, g.conn.arc < l.state.nextArc) (n : Nat) :
    ∃ l', Transition.run step l (List.replicate n (.registerConn t.arc none)) = some l' ∧
      Opened t n l l' := by
  induction n generalizing l with
  | zero => exact ⟨l, rfl, rfl, rfl, by simp, rfl, by simp, rfl, ⟨rfl, rfl⟩, fun _ h => h, hlt⟩
  | succ n ih =>
      have hlt' : ∀ g ∈ (l.openConn t none).guards,
          g.conn.arc < (l.openConn t none).state.nextArc := by
        intro g hg
        change g.conn.arc < l.state.nextArc + 1
        rcases mem_openConn.mp hg with hold | rfl
        · exact Nat.lt_succ_of_lt (hlt g hold)
        · exact Nat.lt_succ_self _
      have hsucc : ∀ value : UInt64, value + 1 + .ofNat n = value + .ofNat (n + 1) := by
        intro value
        rw [UInt64.ofNat_add, UInt64.add_assoc, UInt64.add_comm 1]
        rfl
      obtain ⟨l', hrun, h⟩ := ih (l := l.openConn t none) ht hlt'
      refine ⟨l', ?_, h.tunnels, h.index, ?_, ?_, ?_, ?_, h.bytes, ?_, h.allocated⟩
      · rw [List.replicate_succ, Transition.run_cons]
        simp only [step, ht, Option.map_some, Option.bind_some, hrun]
      · rw [h.nextConnId]
        exact hsucc _
      · rw [h.nextArc]
        change l.state.nextArc + 1 + n = _
        omega
      · rw [h.totalConns, openConn_totalConns, if_pos rfl]
        exact hsucc _
      · rw [h.openedOn, openConn_openedOn, credit_apply, if_pos rfl]
        omega
      · exact fun g hg => h.kept g (mem_openConn.mpr (.inl hg))

/-- A remote for concrete runs. -/
def sampleRequest : RemoteRequest :=
  .new .reverse (.socks5 (.v4 .localhost 1080))

/-- A client registers one tunnel and opens a conn on it. -/
def firstConn : List RegistryOp :=
  [.registerClient 7 (.v4 .localhost 50000), .registerTunnels 7 [sampleRequest],
    .registerConn 0 none]

/-- Where the ledger stands when the first conn is open. -/
structure First (l : Ledger) (g : ConnGuard) : Prop where
  guards : l.guards = [g]
  tunnel : l.tunnel? g.tunnel.arc = some g.tunnel
  tunnelArc : g.tunnel.arc = 0
  index : l.state.tunnels.lookup g.tunnel.id = some g.tunnel
  connId : g.conn.id = 1
  connArc : g.conn.arc = 1
  nextConnId : l.state.nextConnId = 1
  nextArc : l.state.nextArc = 2
  totalConns : (l.state.tunnelCells g.tunnel.arc).totalConns = 1
  openedOn : l.openedOn g.tunnel.arc = 1
  bytes : l.bytesIn g.tunnel.arc = 0 ∧ l.bytesOut g.tunnel.arc = 0

/-- The run reaches one open conn. -/
theorem run_firstConn : ∃ l g, run firstConn = some l ∧ First l g :=
  ⟨_, _, rfl, rfl, rfl, rfl, rfl, rfl, rfl, rfl, rfl, rfl, rfl, rfl, rfl⟩

/-- Its record was allocated. -/
theorem First.allocated {g : ConnGuard} (h : First l g) :
    ∀ other ∈ l.guards, other.conn.arc < l.state.nextArc := by
  simp [h.guards, h.connArc, h.nextArc]

end Ledger

end Server
end Rusnel
