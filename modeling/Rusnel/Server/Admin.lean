import Rusnel.Foundation.Json
import Rusnel.Foundation.Listing
import Rusnel.Foundation.SocketText
import Rusnel.Server.History

/-!
# The admin API

The lists that the server answers the control plane with.  An entry of the
registry becomes a record of plain fields, and a list of records is sorted by id
before it is sent, since the maps it comes from are in no order.  The registry
keeps no times here, so the times of its entries are given from outside.

Main definitions:

- Definition {lit}`sortByKey`: the order of a list.
- Definitions {lit}`listClients`, {lit}`listTunnels`, {lit}`listConns`,
  {lit}`listHistory`: the lists.
-/

namespace Rusnel
namespace Server

open Net
open Json (Value ofU64 ofOption)
open Listing (values)

/-- When the entries of the registry were made, in milliseconds: clients and
disconnects by client id, tunnels and conns by allocation. -/
structure Times where
  connectedAtMs : UInt64 → UInt64
  disconnectedAtMs : UInt64 → UInt64
  openedAtMs : Nat → UInt64

/-! ## Records -/

structure ClientSummaryDto where
  id : UInt64
  remote : String
  connectedAtMs : UInt64
  tunnelCount : UInt64
  activeConnCount : UInt64
  totalConns : UInt64
  bytesIn : UInt64
  bytesOut : UInt64
deriving DecidableEq, Repr

structure TunnelDto where
  id : UInt64
  clientId : UInt64
  direction : String
  kind : String
  spec : String
  openedAtMs : UInt64
  activeConnCount : UInt64
  totalConns : UInt64
  activeBytesIn : UInt64
  activeBytesOut : UInt64
  bytesIn : UInt64
  bytesOut : UInt64
deriving DecidableEq, Repr

structure ConnDto where
  id : UInt64
  tunnelId : UInt64
  clientId : UInt64
  openedAtMs : UInt64
  peer : Option String
  bytesIn : UInt64
  bytesOut : UInt64
deriving DecidableEq, Repr

/-- A history entry as it is sent. -/
structure HistoryDto where
  clientId : UInt64
  remote : String
  connectedAtMs : UInt64
  disconnectedAtMs : UInt64
  reason : String
  bytesIn : UInt64
  bytesOut : UInt64
  totalConns : UInt64
deriving DecidableEq, Repr

namespace ClientSummaryDto

def fromEntry (times : Times) (st : ServerState) (entry : ClientEntry) : ClientSummaryDto :=
  let t := st.clientTotals entry
  { id := entry.id
    remote := .ofList entry.remote.display
    connectedAtMs := times.connectedAtMs entry.id
    tunnelCount := .ofNat (st.clientTunnels entry.arc).entries.length
    activeConnCount := t.activeConns
    totalConns := t.totalConns
    bytesIn := t.activeIn + t.cumulativeIn
    bytesOut := t.activeOut + t.cumulativeOut }

def toValue (d : ClientSummaryDto) : Value :=
  .object [("id", ofU64 d.id), ("remote", .string d.remote),
    ("connected_at_ms", ofU64 d.connectedAtMs), ("tunnel_count", ofU64 d.tunnelCount),
    ("active_conn_count", ofU64 d.activeConnCount), ("total_conns", ofU64 d.totalConns),
    ("bytes_in", ofU64 d.bytesIn), ("bytes_out", ofU64 d.bytesOut)]

end ClientSummaryDto

namespace TunnelDto

def fromEntry (times : Times) (st : ServerState) (entry : TunnelEntry) : TunnelDto :=
  let t := st.tunnelTotals entry
  { id := entry.id
    clientId := entry.clientId
    direction :=
      match entry.direction with
      | .forward => "forward"
      | .reverse => "reverse"
    kind :=
      match entry.kind with
      | .tcp .. => "tcp"
      | .udp .. => "udp"
      | .socks5 .. => "socks5"
    spec := entry.spec
    openedAtMs := times.openedAtMs entry.arc
    activeConnCount := t.activeConns
    totalConns := t.totalConns
    activeBytesIn := t.activeIn
    activeBytesOut := t.activeOut
    bytesIn := t.activeIn + t.cumulativeIn
    bytesOut := t.activeOut + t.cumulativeOut }

def toValue (d : TunnelDto) : Value :=
  .object [("id", ofU64 d.id), ("client_id", ofU64 d.clientId),
    ("direction", .string d.direction), ("kind", .string d.kind), ("spec", .string d.spec),
    ("opened_at_ms", ofU64 d.openedAtMs), ("active_conn_count", ofU64 d.activeConnCount),
    ("total_conns", ofU64 d.totalConns), ("active_bytes_in", ofU64 d.activeBytesIn),
    ("active_bytes_out", ofU64 d.activeBytesOut), ("bytes_in", ofU64 d.bytesIn),
    ("bytes_out", ofU64 d.bytesOut)]

end TunnelDto

namespace ConnDto

def fromEntry (times : Times) (st : ServerState) (entry : ConnEntry) : ConnDto :=
  let (i, o) := st.counters entry.arc
  { id := entry.id
    tunnelId := entry.tunnelId
    clientId := entry.clientId
    openedAtMs := times.openedAtMs entry.arc
    peer := entry.peer
    bytesIn := i
    bytesOut := o }

def toValue (d : ConnDto) : Value :=
  .object [("id", ofU64 d.id), ("tunnel_id", ofU64 d.tunnelId), ("client_id", ofU64 d.clientId),
    ("opened_at_ms", ofU64 d.openedAtMs), ("peer", ofOption d.peer),
    ("bytes_in", ofU64 d.bytesIn), ("bytes_out", ofU64 d.bytesOut)]

end ConnDto

namespace HistoryDto

def fromEntry (times : Times) (entry : HistoryEntry) : HistoryDto where
  clientId := entry.clientId
  remote := .ofList entry.remote.display
  connectedAtMs := times.connectedAtMs entry.clientId
  disconnectedAtMs := times.disconnectedAtMs entry.clientId
  reason := entry.reason
  bytesIn := entry.bytesIn
  bytesOut := entry.bytesOut
  totalConns := entry.totalConns

def toValue (d : HistoryDto) : Value :=
  .object [("client_id", ofU64 d.clientId), ("remote", .string d.remote),
    ("connected_at_ms", ofU64 d.connectedAtMs), ("disconnected_at_ms", ofU64 d.disconnectedAtMs),
    ("reason", .string d.reason), ("bytes_in", ofU64 d.bytesIn), ("bytes_out", ofU64 d.bytesOut),
    ("total_conns", ofU64 d.totalConns)]

end HistoryDto

/-! ## Sorted lists -/

/-- Compare keys of several numbers, the first one first. -/
def keyLe : List UInt64 → List UInt64 → Bool
  | [], _ => true
  | _ :: _, [] => false
  | a :: as, b :: bs => a < b || (a == b && keyLe as bs)

/-- Sort by a key. -/
def sortByKey {α : Type} (key : α → List UInt64) (l : List α) : List α :=
  l.insertionSort fun a b => keyLe (key a) (key b)

/-! ## Routes -/

/-- Cap on a history answer when the caller names none. -/
def defaultHistoryLimit : Nat := 50

section Routes

variable (times : Times) (st : ServerState)

def listClients : List ClientSummaryDto :=
  sortByKey (fun c => [c.id]) ((values st.clients).map (.fromEntry times st))

def listTunnels : List TunnelDto :=
  sortByKey (fun t => [t.clientId, t.id]) ((values st.tunnels).map (.fromEntry times st))

/-- The conns of one tunnel; `none` is the answer 404. -/
def listTunnelConns (id : UInt64) : Option (List ConnDto) := do
  let entry ← st.tunnel id
  let conns := values (st.tunnelCells entry.arc).conns
  return sortByKey (fun c => [c.id]) (conns.map (.fromEntry times st))

def listConns : List ConnDto :=
  sortByKey (fun c => [c.clientId, c.tunnelId, c.id])
    ((values st.conns).map (.fromEntry times st))

/-- The conns of all tunnels of one client. -/
def listClientConns (id : UInt64) : Option (List ConnDto) := do
  let client ← st.clients.lookup id
  let conns := (values (st.clientTunnels client.arc)).flatMap fun t =>
    values (st.tunnelCells t.arc).conns
  return sortByKey (fun c => [c.tunnelId, c.id]) (conns.map (.fromEntry times st))

def listHistory (limit : Option Nat) : List HistoryDto :=
  (st.historySnapshot (limit.getD defaultHistoryLimit)).map (.fromEntry times)

/-- A list of records as the body of an answer. -/
def body {α : Type} (toValue : α → Value) (records : List α) : Value :=
  .array (records.map toValue)

end Routes

end Server
end Rusnel
