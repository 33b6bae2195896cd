import Rusnel.Ctl.Render

/-!
# Commands of the control client

Each command makes one request and prints its answer: a list as a table, a single
entry as its fields with a table of what belongs to it below.

Main results:

- Definitions {lit}`renderServer`, {lit}`renderClientDetail`,
  {lit}`renderTunnelDetail`: how an answer about one entry is printed.
- Definition {lit}`runCtl`: what a command prints, given who answers its request.
-/

namespace Rusnel
namespace Ctl

open Text
open Columns (Formatter)
open Json (Value arrayOf fields u64 text)

/-! ## Records -/

structure ServerInfo where
  version : String
  listenAddr : String
  startedAtMs : UInt64
  uptimeMs : UInt64
  clientCount : UInt64
  tunnelCount : UInt64
  activeConnCount : UInt64
deriving DecidableEq, Repr

structure ClientDetail where
  summary : ClientSummary
  tunnels : List TunnelRow
deriving DecidableEq, Repr

structure TunnelDetail where
  summary : TunnelRow
  conns : List ConnRow
deriving DecidableEq, Repr

namespace ServerInfo

def names : List String :=
  ["version", "listen_addr", "started_at_ms", "uptime_ms", "client_count", "tunnel_count",
    "active_conn_count"]

def fromValue (v : Value) : Option ServerInfo := do
  match ← fields names v with
  | [version, listenAddr, startedAt, uptime, clients, tunnels, active] =>
      return ⟨← text version, ← text listenAddr, ← u64 startedAt, ← u64 uptime, ← u64 clients,
        ← u64 tunnels, ← u64 active⟩
  | _ => none

end ServerInfo

/-- A record with a flattened one in it is read from the members of one object. -/
def flattened {α β : Type} (read : Value → Option α) (name : String) (item : Value → Option β) :
    Value → Option (α × List β)
  | .object members => do
      let summary ← read (.object members)
      let items ← arrayOf item ((members.lookup name).getD .null)
      return (summary, items)
  | _ => none

def ClientDetail.fromValue (v : Value) : Option ClientDetail :=
  (flattened ClientSummary.fromValue "tunnels" TunnelRow.fromValue v).map fun d => ⟨d.1, d.2⟩

def TunnelDetail.fromValue (v : Value) : Option TunnelDetail :=
  (flattened TunnelRow.fromValue "conns" ConnRow.fromValue v).map fun d => ⟨d.1, d.2⟩

/-! ## Renderers -/

section Renderers

variable (f : Formatter) (serde : Serde)

/-- A line with a label and a text. -/
def line (label : String) (value : List Char) : List Char :=
  label.toList ++ value ++ ['\n']

/-- The payload as it came, or the record read from it as a text. -/
def renderRecord {α : Type} (names : List String) (read : Value → Option α)
    (render : α → Except Failure (List Char)) (payload : Value) :
    Format → Except Failure (List Char)
  | .json => .ok (serde.toStringPretty payload)
  | .table =>
      match read payload with
      | none => .error (.err (serde.error names payload))
      | some record => render record

def serverText (s : ServerInfo) : List Char :=
  line "version           " s.version.toList ++
    line "listen            " s.listenAddr.toList ++
    line "started-at-ms     " (decimal s.startedAtMs) ++
    line "uptime-ms         " (decimal s.uptimeMs) ++
    line "clients           " (decimal s.clientCount) ++
    line "tunnels           " (decimal s.tunnelCount) ++
    ("active-conns      ".toList ++ decimal s.activeConnCount)

def renderServer : Value → Format → Except Failure (List Char) :=
  renderRecord serde ServerInfo.names ServerInfo.fromValue fun s => .ok (serverText s)

def clientText (s : ClientSummary) : List Char :=
  line "id                " (decimal s.id) ++
    line "remote            " s.remote.toList ++
    line "connected-ms      " (decimal s.connectedAtMs) ++
    line "tunnels           " (decimal s.tunnelCount) ++
    line "active-conns      " (decimal s.activeConnCount) ++
    line "total-conns       " (decimal s.totalConns) ++
    line "bytes-in          " (decimal s.bytesIn) ++
    line "bytes-out         " (decimal s.bytesOut)

def tunnelText (s : TunnelRow) : List Char :=
  line "id                " (decimal s.id) ++
    line "client            " (decimal s.clientId) ++
    line "direction         " s.direction.toList ++
    line "kind              " s.kind.toList ++
    line "spec              " s.spec.toList ++
    line "opened-ms         " (decimal s.openedAtMs) ++
    line "active-conns      " (decimal s.activeConnCount) ++
    line "total-conns       " (decimal s.totalConns) ++
    line "bytes-in          " (decimal s.bytesIn) ++
    line "bytes-out         " (decimal s.bytesOut)

/-- The fields of an entry, with the table of what belongs to it, if there is any. -/
def withRows {β : Type} (out : List Char) (render : List β → Except Failure (List Char))
    (rows : List β) : Except Failure (List Char) :=
  if rows.isEmpty then .ok out
  else (render rows).map fun table => out ++ '\n' :: table

def renderClientDetail : Value → Format → Except Failure (List Char) :=
  renderRecord serde (ClientSummary.names ++ ["tunnels"]) ClientDetail.fromValue fun d =>
    withRows (clientText d.summary) (renderTunnelRows f) d.tunnels

def renderTunnelDetail : Value → Format → Except Failure (List Char) :=
  renderRecord serde (TunnelRow.names ++ ["conns"]) TunnelDetail.fromValue fun d =>
    withRows (tunnelText d.summary) (renderConnRows f) d.conns

end Renderers

/-! ## Commands -/

inductive CtlAction where
  | server
  | clients
  | client (id : UInt64)
  | clientConns (id : UInt64)
  | tunnels
  | tunnel (id : UInt64)
  | tunnelConns (id : UInt64)
  | conns
  | history (limit : Option UInt64)
deriving DecidableEq, Repr

/-- The path and query of a command's request. -/
def CtlAction.path : CtlAction → List Char
  | .server => "/api/v1/server".toList
  | .clients => "/api/v1/clients".toList
  | .client id => "/api/v1/clients/".toList ++ decimal id
  | .clientConns id => "/api/v1/clients/".toList ++ decimal id ++ "/conns".toList
  | .tunnels => "/api/v1/tunnels".toList
  | .tunnel id => "/api/v1/tunnels/".toList ++ decimal id
  | .tunnelConns id => "/api/v1/tunnels/".toList ++ decimal id ++ "/conns".toList
  | .conns => "/api/v1/conns".toList
  | .history none => "/api/v1/history".toList
  | .history (some n) => "/api/v1/history?limit=".toList ++ decimal n

/-- How a command prints its answer. -/
def CtlAction.render (f : Formatter) (serde : Serde) :
    CtlAction → Value → Format → Except Failure (List Char)
  | .server => renderServer serde
  | .clients => renderClients f serde
  | .client _ => renderClientDetail f serde
  | .clientConns _ | .tunnelConns _ | .conns => renderConns f serde
  | .tunnels => renderTunnels f serde
  | .tunnel _ => renderTunnelDetail f serde
  | .history _ => renderHistory f serde

/-- A text as it is printed: it ends its last line. -/
def printed (output : List Char) : List Char :=
  if output.getLast? = some '\n' then output else output ++ ['\n']

/-- What a command prints, or why it fails, if its request is answered like this. -/
def runCtl (f : Formatter) (serde : Serde) (get : List Char → Except Failure Value) (json : Bool)
    (action : CtlAction) : Except Failure (List Char) := do
  let payload ← get action.path
  let output ← action.render f serde payload (if json then .json else .table)
  return printed output

end Ctl
end Rusnel
