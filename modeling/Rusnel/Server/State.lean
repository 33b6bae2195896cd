import Mathlib.Data.UInt
import Rusnel.Foundation.Table
import Rusnel.Common.Remote

/-!
# Server-side registry

The shared state behind every session: clients, the tunnels they declared, the
conns that run through them, and the history of disconnects.  The source keeps
the entries behind shared pointers and mutates parts of them in place.  Here an
entry holds its immutable fields and the number of its allocation, and the
mutable parts live in cells under that number.  Client, tunnel and conn ids are
64-bit and wrap.

Main results:

- Theorem {lit}`deregisterClient_lookup`: deregistering a client takes exactly
  the ids in that client's own map out of the global tunnel index.
-/

namespace Rusnel
namespace Server

open Net

/-- A concurrent map; each call on it is one atomic step. -/
abbrev DashMap (κ α : Type) := AList fun _ : κ => α

/-- Immutable part of a tunnel record. -/
structure TunnelEntry where
  id : UInt64
  clientId : UInt64
  direction : Direction
  kind : RemoteKind
  spec : String
  arc : Nat
deriving DecidableEq, Repr

/-- Immutable part of a conn record; its byte counters are the cell `arc`. -/
structure ConnEntry where
  id : UInt64
  tunnelId : UInt64
  clientId : UInt64
  peer : Option String
  arc : Nat
deriving DecidableEq, Repr

/-- Immutable part of a client record; its tunnels are the cell `arc`. -/
structure ClientEntry where
  id : UInt64
  remote : SocketAddr
  arc : Nat
deriving DecidableEq, Repr

/-- Mutable part of a tunnel record. -/
structure TunnelCell where
  conns : DashMap UInt64 ConnEntry
  cumulativeIn : UInt64
  cumulativeOut : UInt64
  totalConns : UInt64

/-- A finished session. -/
structure HistoryEntry where
  clientId : UInt64
  remote : SocketAddr
  reason : String
  bytesIn : UInt64
  bytesOut : UInt64
  totalConns : UInt64
deriving DecidableEq, Repr

/-- The registry. -/
structure ServerState where
  nextTunnelId : UInt64
  nextConnId : UInt64
  clients : DashMap UInt64 ClientEntry
  tunnels : DashMap UInt64 TunnelEntry
  conns : DashMap UInt64 ConnEntry
  history : List HistoryEntry
  clientTunnels : Nat → DashMap UInt64 TunnelEntry
  tunnelCells : Nat → TunnelCell
  counters : Nat → UInt64 × UInt64
  nextArc : Nat

/-- Cap on the recent-disconnects buffer. -/
def historyCapacity : Nat := 256

namespace ServerState

/-- The registry of a fresh server. -/
def new : ServerState where
  nextTunnelId := 0
  nextConnId := 0
  clients := ∅
  tunnels := ∅
  conns := ∅
  history := []
  clientTunnels := fun _ => ∅
  tunnelCells := fun _ => ⟨∅, 0, 0, 0⟩
  counters := fun _ => (0, 0)
  nextArc := 0

/-! ## Clients and tunnels -/

/-- Enter a client. -/
def registerClient (st : ServerState) (client : ClientEntry) : ServerState :=
  { st with clients := st.clients.insert client.id client }

/-- Draw the next tunnel id from the shared counter. -/
def allocTunnelId (st : ServerState) : ServerState × UInt64 :=
  ({ st with nextTunnelId := st.nextTunnelId + 1 }, st.nextTunnelId + 1)

/-- The record of one declared remote under its id. -/
def tunnelEntry (st : ServerState) (client : ClientEntry) (id : UInt64)
    (req : RemoteRequest) : TunnelEntry where
  id := id
  clientId := client.id
  direction := req.direction
  kind := req.kind
  spec := req.display
  arc := st.nextArc

/-- Allocate a tunnel record and enter it in its client's own map. -/
def insertClientTunnel (st : ServerState) (client : ClientEntry) (entry : TunnelEntry) :
    ServerState :=
  { st with
    clientTunnels := Function.update st.clientTunnels client.arc
      ((st.clientTunnels client.arc).insert entry.id entry)
    nextArc := st.nextArc + 1 }

/-- Enter a tunnel record in the global index. -/
def insertTunnel (st : ServerState) (entry : TunnelEntry) : ServerState :=
  { st with tunnels := st.tunnels.insert entry.id entry }

/-- Register one declared remote without interruption. -/
def registerTunnel (st : ServerState) (client : ClientEntry) (req : RemoteRequest) :
    ServerState × TunnelEntry :=
  let (st, id) := st.allocTunnelId
  let entry := st.tunnelEntry client id req
  ((st.insertClientTunnel client entry).insertTunnel entry, entry)

/-- Register every remote of a hello, in order. -/
def registerTunnels (st : ServerState) (client : ClientEntry) :
    List RemoteRequest → ServerState × List TunnelEntry
  | [] => (st, [])
  | req :: reqs =>
      let (st, entry) := st.registerTunnel client req
      let (st, entries) := registerTunnels st client reqs
      (st, entry :: entries)

/-- Look a tunnel up in the global index. -/
def tunnel (st : ServerState) (id : UInt64) : Option TunnelEntry :=
  st.tunnels.lookup id

/-! ## Conns -/

/-- Register a fresh conn against a tunnel. -/
def registerConn (st : ServerState) (tunnel : TunnelEntry) (peer : Option String) :
    ServerState × ConnEntry :=
  let id := st.nextConnId + 1
  let entry : ConnEntry := ⟨id, tunnel.id, tunnel.clientId, peer, st.nextArc⟩
  let cell := st.tunnelCells tunnel.arc
  ({ st with
      nextConnId := id
      nextArc := st.nextArc + 1
      tunnelCells := Function.update st.tunnelCells tunnel.arc
        { cell with
          conns := cell.conns.insert id entry
          totalConns := cell.totalConns + 1 }
      conns := st.conns.insert id entry }, entry)

/-- Fold a conn's byte counts into its tunnel and drop it from both indices. -/
def closeConn (st : ServerState) (tunnel : TunnelEntry) (conn : ConnEntry) : ServerState :=
  let (bytesIn, bytesOut) := st.counters conn.arc
  let cell := st.tunnelCells tunnel.arc
  { st with
    tunnelCells := Function.update st.tunnelCells tunnel.arc
      { cell with
        cumulativeIn := cell.cumulativeIn + bytesIn
        cumulativeOut := cell.cumulativeOut + bytesOut
        conns := cell.conns.erase conn.id }
    conns := st.conns.erase conn.id }

/-! ## Byte counters of a conn -/

/-- Count bytes received from the peer, as a counted reader does; nothing happens
for no bytes. -/
def addIn (st : ServerState) (conn : ConnEntry) (n : UInt64) : ServerState :=
  if 0 < n then
    { st with
      counters := Function.update st.counters conn.arc
        ((st.counters conn.arc).1 + n, (st.counters conn.arc).2) }
  else st

/-- Count bytes sent to the peer; nothing happens for no bytes. -/
def addOut (st : ServerState) (conn : ConnEntry) (n : UInt64) : ServerState :=
  if 0 < n then
    { st with
      counters := Function.update st.counters conn.arc
        ((st.counters conn.arc).1, (st.counters conn.arc).2 + n) }
  else st

/-- Counting bytes changes the counters only. -/
theorem addIn_counters (st : ServerState) (conn : ConnEntry) (n : UInt64) :
    st.addIn conn n = { st with
      counters := Function.update st.counters conn.arc
        ((st.counters conn.arc).1 + n, (st.counters conn.arc).2) } := by
  by_cases hn : 0 < n
  · simp [addIn, hn]
  · have hzero : n = 0 := UInt64.toNat_inj.mp (by
      rw [UInt64.lt_iff_toNat_lt] at hn
      simpa using hn)
    simp [addIn, hzero]

theorem addOut_counters (st : ServerState) (conn : ConnEntry) (n : UInt64) :
    st.addOut conn n = { st with
      counters := Function.update st.counters conn.arc
        ((st.counters conn.arc).1, (st.counters conn.arc).2 + n) } := by
  by_cases hn : 0 < n
  · simp [addOut, hn]
  · have hzero : n = 0 := UInt64.toNat_inj.mp (by
      rw [UInt64.lt_iff_toNat_lt] at hn
      simpa using hn)
    simp [addOut, hzero]

/-! ## Totals and deregistration -/

/-- Byte and conn totals of one tunnel or one client. -/
structure Totals where
  activeIn : UInt64
  activeOut : UInt64
  cumulativeIn : UInt64
  cumulativeOut : UInt64
  activeConns : UInt64
  totalConns : UInt64
deriving DecidableEq, Repr

/-- Totals of one tunnel: live counters summed over its conns, plus what closed
conns left behind. -/
def tunnelTotals (st : ServerState) (tunnel : TunnelEntry) : Totals :=
  let cell := st.tunnelCells tunnel.arc
  let live := cell.conns.entries.map fun e => st.counters e.2.arc
  { activeIn := (live.map Prod.fst).sum
    activeOut := (live.map Prod.snd).sum
    cumulativeIn := cell.cumulativeIn
    cumulativeOut := cell.cumulativeOut
    activeConns := .ofNat cell.conns.entries.length
    totalConns := cell.totalConns }

/-- Totals of a client, summed over its tunnels. -/
def clientTotals (st : ServerState) (client : ClientEntry) : Totals :=
  let tots := (st.clientTunnels client.arc).entries.map fun e => st.tunnelTotals e.2
  { activeIn := (tots.map Totals.activeIn).sum
    activeOut := (tots.map Totals.activeOut).sum
    cumulativeIn := (tots.map Totals.cumulativeIn).sum
    cumulativeOut := (tots.map Totals.cumulativeOut).sum
    activeConns := (tots.map Totals.activeConns).sum
    totalConns := (tots.map Totals.totalConns).sum }

/-- Drop one tunnel from the global index, and with it its conns. -/
def removeTunnel (st : ServerState) (id : UInt64) : ServerState :=
  match st.tunnels.lookup id with
  | none => st
  | some tunnel =>
      { st with
        tunnels := st.tunnels.erase id
        conns := (st.tunnelCells tunnel.arc).conns.entries.foldl
          (fun conns e => conns.erase e.2.id) st.conns }

/-- Append to the history, dropping the oldest entry when it is full. -/
def pushHistory (st : ServerState) (entry : HistoryEntry) : ServerState :=
  let kept := if st.history.length = historyCapacity then st.history.tail else st.history
  { st with history := kept ++ [entry] }

/-- Take a client out: roll up its totals, drop its tunnels and their conns
from the indices and record the disconnect.  An unknown id changes nothing. -/
def deregisterClient (st : ServerState) (id : UInt64) (reason : String) : ServerState :=
  match st.clients.lookup id with
  | none => st
  | some client =>
      let st := { st with clients := st.clients.erase id }
      let totals := st.clientTotals client
      let tunnelIds := (st.clientTunnels client.arc).entries.map fun e => e.2.id
      let st := tunnelIds.foldl removeTunnel st
      st.pushHistory
        { clientId := client.id
          remote := client.remote
          reason := reason
          bytesIn := totals.activeIn + totals.cumulativeIn
          bytesOut := totals.activeOut + totals.cumulativeOut
          totalConns := totals.totalConns }

/-! ## What each operation does to the global tunnel index -/

@[simp]
theorem insertTunnel_tunnels (st : ServerState) (entry : TunnelEntry) :
    (st.insertTunnel entry).tunnels = st.tunnels.insert entry.id entry :=
  rfl

theorem insertTunnel_lookup (st : ServerState) (entry : TunnelEntry) (id : UInt64) :
    (st.insertTunnel entry).tunnels.lookup id =
      if id = entry.id then some entry else st.tunnels.lookup id :=
  Table.lookup_insert_ite _ _ _ _

/-- A record is found in its client's own map under its id. -/
theorem insertClientTunnel_lookup (st : ServerState) (client : ClientEntry)
    (entry : TunnelEntry) (arc : Nat) (id : UInt64) :
    ((st.insertClientTunnel client entry).clientTunnels arc).lookup id =
      if arc = client.arc ∧ id = entry.id then some entry
      else (st.clientTunnels arc).lookup id := by
  simp only [insertClientTunnel]
  by_cases harc : arc = client.arc
  · subst harc
    simp [Table.lookup_insert_ite]
  · simp [harc]

/-- Dropping a tunnel erases its id from the index. -/
theorem removeTunnel_tunnels (st : ServerState) (id : UInt64) :
    (st.removeTunnel id).tunnels = st.tunnels.erase id := by
  unfold removeTunnel
  split
  · rename_i hnone
    symm
    apply AList.ext
    exact List.kerase_of_notMem_keys (AList.lookup_eq_none.mp hnone)
  · rfl

/-- Dropping tunnels erases their ids from the index. -/
theorem foldl_removeTunnel_tunnels (ids : List UInt64) (st : ServerState) :
    (ids.foldl removeTunnel st).tunnels = ids.foldl (fun m id => m.erase id) st.tunnels := by
  induction ids generalizing st with
  | nil => rfl
  | cons id ids ih => rw [List.foldl_cons, ih, removeTunnel_tunnels, List.foldl_cons]

/-- Dropping a tunnel touches only the two global indices. -/
theorem removeTunnel_frame (st : ServerState) (id : UInt64) :
    ∃ tunnels conns, st.removeTunnel id = { st with tunnels := tunnels, conns := conns } := by
  unfold removeTunnel
  split
  · exact ⟨st.tunnels, st.conns, rfl⟩
  · exact ⟨_, _, rfl⟩

theorem foldl_removeTunnel_frame (ids : List UInt64) (st : ServerState) :
    ∃ tunnels conns,
      ids.foldl removeTunnel st = { st with tunnels := tunnels, conns := conns } := by
  induction ids generalizing st with
  | nil => exact ⟨st.tunnels, st.conns, rfl⟩
  | cons id ids ih =>
      obtain ⟨tunnels, conns, hfirst⟩ := st.removeTunnel_frame id
      rw [List.foldl_cons, hfirst]
      exact ih { st with tunnels := tunnels, conns := conns }

/-- The ids a registered client entered in its own map. -/
def ownTunnelIds (st : ServerState) (id : UInt64) : List UInt64 :=
  match st.clients.lookup id with
  | none => []
  | some client => (st.clientTunnels client.arc).entries.map fun e => e.2.id

/-- A record found in a registered client's map under its own id. -/
theorem mem_ownTunnelIds {st : ServerState} {id : UInt64} {client : ClientEntry}
    {tunnelId : UInt64} {t : TunnelEntry} (hclient : st.clients.lookup id = some client)
    (ht : (st.clientTunnels client.arc).lookup tunnelId = some t) (hid : t.id = tunnelId) :
    tunnelId ∈ st.ownTunnelIds id := by
  simp only [ownTunnelIds, hclient]
  exact List.mem_map.mpr ⟨⟨tunnelId, t⟩, AList.mem_lookup_iff.mp ht, hid⟩

/-- Deregistering a client takes exactly the ids of its own map out of the
global index. -/
theorem deregisterClient_lookup (st : ServerState) (id : UInt64) (reason : String)
    (tunnelId : UInt64) :
    (st.deregisterClient id reason).tunnels.lookup tunnelId =
      if tunnelId ∈ st.ownTunnelIds id then none else st.tunnels.lookup tunnelId := by
  unfold deregisterClient ownTunnelIds
  cases hclient : st.clients.lookup id with
  | none => simp
  | some client =>
      simp only [pushHistory, foldl_removeTunnel_tunnels]
      exact Table.lookup_foldl_erase _ _ _

theorem deregisterClient_of_none {st : ServerState} {id : UInt64}
    (hclient : st.clients.lookup id = none) (reason : String) :
    st.deregisterClient id reason = st := by
  simp only [deregisterClient, hclient]

/-- Deregistering a registered client touches the registered clients, the two
global indices and the history. -/
theorem deregisterClient_of_some {st : ServerState} {id : UInt64} {client : ClientEntry}
    (hclient : st.clients.lookup id = some client) (reason : String) :
    ∃ tunnels conns entry,
      (entry.clientId = client.id ∧ entry.remote = client.remote ∧ entry.reason = reason) ∧
      st.deregisterClient id reason =
        pushHistory { st with
          clients := st.clients.erase id, tunnels := tunnels, conns := conns } entry := by
  obtain ⟨tunnels, conns, hdropped⟩ := foldl_removeTunnel_frame
    ((st.clientTunnels client.arc).entries.map fun e => e.2.id)
    { st with clients := st.clients.erase id }
  simp only [deregisterClient, hclient, hdropped]
  exact ⟨tunnels, conns, _, ⟨rfl, rfl, rfl⟩, rfl⟩

/-- Deregistering a client forgets that client and no other. -/
theorem deregisterClient_clients (st : ServerState) (id : UInt64) (reason : String) :
    (st.deregisterClient id reason).clients = st.clients.erase id := by
  cases hclient : st.clients.lookup id with
  | none =>
      rw [deregisterClient_of_none hclient]
      apply AList.ext
      exact (List.kerase_of_notMem_keys (AList.lookup_eq_none.mp hclient)).symm
  | some client =>
      obtain ⟨tunnels, conns, entry, -, heq⟩ := deregisterClient_of_some hclient reason
      rw [heq]
      rfl

/-- Deregistering forgets the client and leaves the other clients, every
client's own map and the id counter alone. -/
theorem deregisterClient_frame (st : ServerState) (id : UInt64) (reason : String) :
    (∀ other client, (st.deregisterClient id reason).clients.lookup other = some client →
        st.clients.lookup other = some client) ∧
      (st.deregisterClient id reason).clientTunnels = st.clientTunnels ∧
      (st.deregisterClient id reason).nextTunnelId = st.nextTunnelId := by
  refine ⟨fun other client hlookup => ?_, ?_⟩
  · rw [deregisterClient_clients] at hlookup
    exact (Table.lookup_of_erase hlookup).2
  · cases hclient : st.clients.lookup id with
    | none =>
        rw [deregisterClient_of_none hclient]
        exact ⟨rfl, rfl⟩
    | some client =>
        obtain ⟨tunnels, conns, entry, -, heq⟩ := deregisterClient_of_some hclient reason
        rw [heq]
        exact ⟨rfl, rfl⟩

/-! ## What deregistration does to the conns -/

/-- The ids of the conns in a tunnel's own map. -/
def connIds (st : ServerState) (tunnel : TunnelEntry) : List UInt64 :=
  (st.tunnelCells tunnel.arc).conns.entries.map fun e => e.2.id

/-- Dropping a tunnel takes its conns, and no others, out of the index. -/
theorem removeTunnel_conns (st : ServerState) (id connId : UInt64) :
    (st.removeTunnel id).conns.lookup connId =
      if ∃ t, st.tunnels.lookup id = some t ∧ connId ∈ st.connIds t then none
      else st.conns.lookup connId := by
  unfold removeTunnel connIds
  cases hlookup : st.tunnels.lookup id with
  | none => simp
  | some tunnel =>
      have hfold : (st.tunnelCells tunnel.arc).conns.entries.foldl
          (fun conns e => conns.erase e.2.id) st.conns =
          ((st.tunnelCells tunnel.arc).conns.entries.map fun e => e.2.id).foldl
            (fun conns id => conns.erase id) st.conns := by rw [List.foldl_map]
      simp only [hfold, Option.some.injEq, exists_eq_left']
      exact Table.lookup_foldl_erase _ _ _

/-- Dropping tunnels takes the conns of each of them out of the index. -/
theorem foldl_removeTunnel_conns (ids : List UInt64) (st : ServerState) (connId : UInt64) :
    (ids.foldl removeTunnel st).conns.lookup connId =
      if ∃ id ∈ ids, ∃ t, st.tunnels.lookup id = some t ∧ connId ∈ st.connIds t then none
      else st.conns.lookup connId := by
  induction ids generalizing st with
  | nil => simp
  | cons id ids ih =>
      have hids : ∀ t, (st.removeTunnel id).connIds t = st.connIds t := by
        intro t
        obtain ⟨tunnels, conns, heq⟩ := st.removeTunnel_frame id
        rw [heq]
        rfl
      rw [List.foldl_cons, ih, removeTunnel_tunnels]
      simp only [hids, removeTunnel_conns, List.exists_mem_cons_iff]
      by_cases hhead : ∃ t, st.tunnels.lookup id = some t ∧ connId ∈ st.connIds t
      · simp [hhead]
      · -- A tunnel found after the removal was found before, under another id.
        have hiff : (∃ other ∈ ids, ∃ t, (st.tunnels.erase id).lookup other = some t ∧
              connId ∈ st.connIds t) ↔
            ∃ other ∈ ids, ∃ t, st.tunnels.lookup other = some t ∧ connId ∈ st.connIds t := by
          constructor
          · rintro ⟨other, hother, t, ht, hconn⟩
            exact ⟨other, hother, t, (Table.lookup_of_erase ht).2, hconn⟩
          · rintro ⟨other, hother, t, ht, hconn⟩
            have hne : other ≠ id := by
              rintro rfl
              exact hhead ⟨t, ht, hconn⟩
            exact ⟨other, hother, t, (AList.lookup_erase_ne hne).trans ht, hconn⟩
        simp only [hiff, hhead, false_or, if_false]

/-- Deregistering a client takes the conns of its tunnels out of the index. -/
theorem deregisterClient_conns (st : ServerState) (id : UInt64) (reason : String)
    (connId : UInt64) :
    (st.deregisterClient id reason).conns.lookup connId =
      if ∃ tunnelId ∈ st.ownTunnelIds id, ∃ t, st.tunnels.lookup tunnelId = some t ∧
          connId ∈ st.connIds t then none
      else st.conns.lookup connId := by
  unfold deregisterClient ownTunnelIds
  cases hclient : st.clients.lookup id with
  | none => simp
  | some client =>
      simp only [pushHistory]
      exact foldl_removeTunnel_conns _ { st with clients := st.clients.erase id } connId

/-- Deregistering a client leaves every tunnel's own part and every counter
alone. -/
theorem deregisterClient_cells (st : ServerState) (id : UInt64) (reason : String) :
    (st.deregisterClient id reason).tunnelCells = st.tunnelCells ∧
      (st.deregisterClient id reason).counters = st.counters ∧
      (st.deregisterClient id reason).nextConnId = st.nextConnId ∧
      (st.deregisterClient id reason).nextArc = st.nextArc := by
  cases hclient : st.clients.lookup id with
  | none =>
      rw [deregisterClient_of_none hclient]
      exact ⟨rfl, rfl, rfl, rfl⟩
  | some client =>
      obtain ⟨tunnels, conns, entry, -, heq⟩ := deregisterClient_of_some hclient reason
      rw [heq]
      exact ⟨rfl, rfl, rfl, rfl⟩

end ServerState

end Server
end Rusnel
