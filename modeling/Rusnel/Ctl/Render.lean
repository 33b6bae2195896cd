import Rusnel.Foundation.NetText
import Rusnel.Foundation.Json
import Rusnel.Ctl.Tables

/-!
# The renderers of the control client

Each list of the admin API is read into rows and printed as a table, or shown as
the payload it came as.  Numbers are printed in decimal; the other cells are the
strings of the payload.

Main results:

- Definition {lit}`ShowsTable`: what it is to be printed as a table.
- Theorems {lit}`renderClients_showsTable_iff`, {lit}`renderConns_showsTable_iff`,
  {lit}`renderTunnels_showsTable_iff`, {lit}`renderHistory_showsTable_iff`: rows are
  printed as a table exactly if their strings can be printed on one line.
-/

namespace Rusnel
namespace Ctl

open Text
open Columns (Formatter LaidOut)
open Json (Value arrayOf fields u64 text optionalText)

inductive Format where
  | json
  | table
deriving DecidableEq, Repr

/-- What is taken from the JSON library as given: how it prints a payload, and what
it says of a payload that is not a list of the records it expects. -/
structure Serde where
  toStringPretty : Value → List Char
  error : List String → Value → String

/-- A number as it is printed. -/
def decimal (n : UInt64) : List Char :=
  Nat.toDigits 10 n.toNat

/-! ## Rows -/

structure ClientSummary where
  id : UInt64
  remote : String
  connectedAtMs : UInt64
  tunnelCount : UInt64
  activeConnCount : UInt64
  totalConns : UInt64
  bytesIn : UInt64
  bytesOut : UInt64
deriving DecidableEq, Repr

structure TunnelRow where
  id : UInt64
  clientId : UInt64
  direction : String
  kind : String
  spec : String
  openedAtMs : UInt64
  activeConnCount : UInt64
  totalConns : UInt64
  bytesIn : UInt64
  bytesOut : UInt64
deriving DecidableEq, Repr

structure ConnRow where
  id : UInt64
  tunnelId : UInt64
  clientId : UInt64
  openedAtMs : UInt64
  peer : Option String
  bytesIn : UInt64
  bytesOut : UInt64
deriving DecidableEq, Repr

structure HistoryRow where
  clientId : UInt64
  remote : String
  connectedAtMs : UInt64
  disconnectedAtMs : UInt64
  reason : String
  bytesIn : UInt64
  bytesOut : UInt64
  totalConns : UInt64
deriving DecidableEq, Repr

namespace ClientSummary

def names : List String :=
  ["id", "remote", "connected_at_ms", "tunnel_count", "active_conn_count", "total_conns",
    "bytes_in", "bytes_out"]

def fromValue (v : Value) : Option ClientSummary := do
  match ← fields names v with
  | [id, remote, connectedAt, tunnels, active, total, bytesIn, bytesOut] =>
      return ⟨← u64 id, ← text remote, ← u64 connectedAt, ← u64 tunnels, ← u64 active,
        ← u64 total, ← u64 bytesIn, ← u64 bytesOut⟩
  | _ => none

def headers : Cells 8 :=
  ⟨["ID".toList, "REMOTE".toList, "CONNECTED-MS".toList, "TUNNELS".toList, "ACTIVE".toList,
    "TOTAL".toList, "IN".toList, "OUT".toList], rfl⟩

def cells (r : ClientSummary) : Cells 8 :=
  ⟨[decimal r.id, r.remote.toList, decimal r.connectedAtMs, decimal r.tunnelCount,
    decimal r.activeConnCount, decimal r.totalConns, decimal r.bytesIn, decimal r.bytesOut], rfl⟩

end ClientSummary

namespace TunnelRow

def names : List String :=
  ["id", "client_id", "direction", "kind", "spec", "opened_at_ms", "active_conn_count",
    "total_conns", "bytes_in", "bytes_out"]

def fromValue (v : Value) : Option TunnelRow := do
  match ← fields names v with
  | [id, clientId, direction, kind, spec, openedAt, active, total, bytesIn, bytesOut] =>
      return ⟨← u64 id, ← u64 clientId, ← text direction, ← text kind, ← text spec,
        ← u64 openedAt, ← u64 active, ← u64 total, ← u64 bytesIn, ← u64 bytesOut⟩
  | _ => none

def headers : Cells 10 :=
  ⟨["ID".toList, "CLIENT".toList, "DIR".toList, "KIND".toList, "SPEC".toList,
    "OPENED-MS".toList, "ACTIVE".toList, "TOTAL".toList, "IN".toList, "OUT".toList], rfl⟩

def cells (r : TunnelRow) : Cells 10 :=
  ⟨[decimal r.id, decimal r.clientId, r.direction.toList, r.kind.toList, r.spec.toList,
    decimal r.openedAtMs, decimal r.activeConnCount, decimal r.totalConns, decimal r.bytesIn,
    decimal r.bytesOut], rfl⟩

end TunnelRow

namespace ConnRow

def names : List String :=
  ["id", "tunnel_id", "client_id", "opened_at_ms", "peer", "bytes_in", "bytes_out"]

def fromValue (v : Value) : Option ConnRow := do
  match ← fields names v with
  | [id, tunnelId, clientId, openedAt, peer, bytesIn, bytesOut] =>
      return ⟨← u64 id, ← u64 tunnelId, ← u64 clientId, ← u64 openedAt, ← optionalText peer,
        ← u64 bytesIn, ← u64 bytesOut⟩
  | _ => none

def headers : Cells 7 :=
  ⟨["ID".toList, "TUNNEL".toList, "CLIENT".toList, "OPENED-MS".toList, "PEER".toList,
    "IN".toList, "OUT".toList], rfl⟩

def cells (r : ConnRow) : Cells 7 :=
  ⟨[decimal r.id, decimal r.tunnelId, decimal r.clientId, decimal r.openedAtMs,
    (r.peer.getD "-").toList, decimal r.bytesIn, decimal r.bytesOut], rfl⟩

end ConnRow

namespace HistoryRow

def names : List String :=
  ["client_id", "remote", "connected_at_ms", "disconnected_at_ms", "reason", "bytes_in",
    "bytes_out", "total_conns"]

def fromValue (v : Value) : Option HistoryRow := do
  match ← fields names v with
  | [clientId, remote, connectedAt, disconnectedAt, reason, bytesIn, bytesOut, total] =>
      return ⟨← u64 clientId, ← text remote, ← u64 connectedAt, ← u64 disconnectedAt,
        ← text reason, ← u64 bytesIn, ← u64 bytesOut, ← u64 total⟩
  | _ => none

def headers : Cells 8 :=
  ⟨["CLIENT".toList, "REMOTE".toList, "CONNECTED-MS".toList, "DISCONNECTED-MS".toList,
    "SESSIONS".toList, "IN".toList, "OUT".toList, "REASON".toList], rfl⟩

def cells (r : HistoryRow) : Cells 8 :=
  ⟨[decimal r.clientId, r.remote.toList, decimal r.connectedAtMs, decimal r.disconnectedAtMs,
    decimal r.totalConns, decimal r.bytesIn, decimal r.bytesOut, r.reason.toList], rfl⟩

end HistoryRow

/-! ## Renderers -/

section Renderers

variable {α : Type} {n : Nat}

/-- Rows as a table. -/
def renderRows (f : Formatter) (headers : Cells n) (cells : α → Cells n) (rows : List α) :
    Except Failure (List Char) :=
  (rows.foldl (fun t r => t.row (cells r)) (Table.new headers)).render f

/-- The payload as it came, or the rows read from it as a table. -/
def renderPayload (serde : Serde) (names : List String) (read : Value → Option α)
    (render : List α → Except Failure (List Char)) (payload : Value) :
    Format → Except Failure (List Char)
  | .json => .ok (serde.toStringPretty payload)
  | .table =>
      match arrayOf read payload with
      | none => .error (.err (serde.error names payload))
      | some rows => render rows

def renderClients (f : Formatter) (serde : Serde) : Value → Format → Except Failure (List Char) :=
  renderPayload serde ClientSummary.names ClientSummary.fromValue
    (renderRows f ClientSummary.headers ClientSummary.cells)

def renderConnRows (f : Formatter) : List ConnRow → Except Failure (List Char) :=
  renderRows f ConnRow.headers ConnRow.cells

def renderConns (f : Formatter) (serde : Serde) : Value → Format → Except Failure (List Char) :=
  renderPayload serde ConnRow.names ConnRow.fromValue (renderConnRows f)

def renderTunnelRows (f : Formatter) : List TunnelRow → Except Failure (List Char) :=
  renderRows f TunnelRow.headers TunnelRow.cells

def renderTunnels (f : Formatter) (serde : Serde) : Value → Format → Except Failure (List Char) :=
  renderPayload serde TunnelRow.names TunnelRow.fromValue (renderTunnelRows f)

def renderHistory (f : Formatter) (serde : Serde) : Value → Format → Except Failure (List Char) :=
  renderPayload serde HistoryRow.names HistoryRow.fromValue
    (renderRows f HistoryRow.headers HistoryRow.cells)

end Renderers

/-! ## Which rows can be printed -/

/-- A cell of a padded column can be printed on one line. -/
def Shown (f : Formatter) (cell : List Char) : Prop :=
  '\n' ∉ cell ∧ f.Takes (len cell)

instance (f : Formatter) (cell : List Char) : Decidable (Shown f cell) :=
  inferInstanceAs (Decidable ('\n' ∉ cell ∧ f.Takes (len cell)))

section Printable

variable {f : Formatter}

theorem shown_of_short {cell : List Char} (hline : '\n' ∉ cell) (hshort : cell.length ≤ 16383) :
    Shown f cell := by
  refine ⟨hline, f.takes_of_le ?_⟩
  have hlen := len_le cell
  omega

/-- A cell with others behind it is padded. -/
theorem printable_cons {cell next : List Char} {cells : List (List Char)} :
    Printable f (cell :: next :: cells) ↔ Shown f cell ∧ Printable f (next :: cells) := by
  simp only [Printable, Shown, List.dropLast_cons_cons, List.forall_mem_cons]
  exact and_and_and_comm

/-- The last cell is not. -/
theorem printable_single {cell : List Char} : Printable f [cell] ↔ '\n' ∉ cell := by
  simp [Printable]

/-- Short texts without a newline can be printed. -/
theorem printable_of_short {cells : List (List Char)}
    (h : ∀ cell ∈ cells, '\n' ∉ cell ∧ cell.length ≤ 16383) : Printable f cells := by
  refine ⟨fun cell hcell => (h cell hcell).1, fun cell hcell => ?_⟩
  obtain ⟨hline, hshort⟩ := h cell (List.mem_of_mem_dropLast hcell)
  exact (shown_of_short hline hshort).2

/-- A number has no newline. -/
theorem newline_not_mem_decimal (n : UInt64) : '\n' ∉ decimal n :=
  Net.not_mem_toDigits (by decide) (by decide) (by decide) _

/-- A number has at most twenty digits. -/
theorem shown_decimal (n : UInt64) : Shown f (decimal n) := by
  refine shown_of_short (newline_not_mem_decimal n) ?_
  have hdigits : (decimal n).length ≤ 20 :=
    (Nat.length_toDigits_le_iff (by decide) (by decide)).mpr (Nat.lt_trans n.toNat_lt (by decide))
  exact Nat.le_trans hdigits (by decide)

/-! The cells of a row that can fail to print are its strings. -/

/-- Of a client only its address is a string. -/
theorem ClientSummary.printable_iff (r : ClientSummary) :
    Printable f r.cells.toList ↔ Shown f r.remote.toList := by
  simp [cells, printable_cons, printable_single, shown_decimal, newline_not_mem_decimal]

/-- A tunnel has three strings. -/
theorem TunnelRow.printable_iff (r : TunnelRow) :
    Printable f r.cells.toList ↔
      Shown f r.direction.toList ∧ Shown f r.kind.toList ∧ Shown f r.spec.toList := by
  simp [cells, printable_cons, printable_single, shown_decimal, newline_not_mem_decimal]

/-- Of a conn the peer is a string, if there is one. -/
theorem ConnRow.printable_iff (r : ConnRow) :
    Printable f r.cells.toList ↔ ∀ peer ∈ r.peer, Shown f peer.toList := by
  have hmissing : Shown f ['-'] := shown_of_short (by decide) (by decide)
  cases hpeer : r.peer <;>
    simp [cells, printable_cons, printable_single, shown_decimal, newline_not_mem_decimal,
      hpeer, hmissing]

/-- The reason of a disconnect is the last cell and not padded. -/
theorem HistoryRow.printable_iff (r : HistoryRow) :
    Printable f r.cells.toList ↔ Shown f r.remote.toList ∧ '\n' ∉ r.reason.toList := by
  simp [cells, printable_cons, printable_single, shown_decimal]

end Printable

/-! ## Which payloads are printed as tables -/

section ShowsTable

variable {α : Type} {n : Nat}

/-- Rows are added in order. -/
theorem rows_foldl_row (cells : α → Cells n) (rows : List α) (t : Table n) :
    rows.foldl (fun t r => t.row (cells r)) t = { t with rows := t.rows ++ rows.map cells } := by
  induction rows generalizing t with
  | nil => simp
  | cons r rows ih =>
      rw [List.foldl_cons, ih]
      simp [Table.row]

/-- A table of the rows was printed: a line for the headers and one for each row,
with the columns aligned. -/
def ShowsTable (headers : Cells n) (cells : α → Cells n) (rows : List α)
    (result : Except Failure (List Char)) : Prop :=
  ∃ text, result = .ok text ∧
    LaidOut (headers.toList :: rows.map fun r => (cells r).toList) text

variable {f : Formatter} {headers : Cells n} (hheaders : Printable f headers.toList)

include hheaders

/-- Rows are printed as a table exactly if the cells of every row can be printed. -/
theorem renderRows_showsTable_iff (cells : α → Cells n) (rows : List α) :
    ShowsTable headers cells rows (renderRows f headers cells rows) ↔
      ∀ r ∈ rows, Printable f (cells r).toList := by
  have hiff := (Table.mk headers (rows.map cells)).laidOut_iff f
  have hprinted : (Table.mk headers (rows.map cells)).printed =
      headers.toList :: rows.map fun r => (cells r).toList := by
    simp [Table.printed]
  rw [hprinted] at hiff
  rw [ShowsTable, renderRows, rows_foldl_row]
  exact hiff.trans (by rw [List.forall_mem_cons, and_iff_right hheaders, List.forall_mem_map])

/-- The same for a payload from which the rows are read. -/
theorem renderPayload_showsTable_iff (serde : Serde) (names : List String)
    {read : Value → Option α} {payload : Value} {rows : List α}
    (hread : arrayOf read payload = some rows) (cells : α → Cells n) :
    ShowsTable headers cells rows
        (renderPayload serde names read (renderRows f headers cells) payload .table) ↔
      ∀ r ∈ rows, Printable f (cells r).toList := by
  simp only [renderPayload, hread]
  exact renderRows_showsTable_iff hheaders cells rows

end ShowsTable

section Tables

variable (f : Formatter) (serde : Serde) {payload : Value}

/-- When the table of clients shows them. -/
theorem renderClients_showsTable_iff {rows : List ClientSummary}
    (hread : arrayOf ClientSummary.fromValue payload = some rows) :
    ShowsTable ClientSummary.headers ClientSummary.cells rows
        (renderClients f serde payload .table) ↔
      ∀ r ∈ rows, Shown f r.remote.toList :=
  (renderPayload_showsTable_iff (printable_of_short (by decide)) serde _ hread _).trans
    (forall₂_congr fun r _ => r.printable_iff)

/-- When the table of conns shows them. -/
theorem renderConns_showsTable_iff {rows : List ConnRow}
    (hread : arrayOf ConnRow.fromValue payload = some rows) :
    ShowsTable ConnRow.headers ConnRow.cells rows (renderConns f serde payload .table) ↔
      ∀ r ∈ rows, ∀ peer ∈ r.peer, Shown f peer.toList :=
  (renderPayload_showsTable_iff (printable_of_short (by decide)) serde _ hread _).trans
    (forall₂_congr fun r _ => r.printable_iff)

/-- When the table of tunnels shows them. -/
theorem renderTunnels_showsTable_iff {rows : List TunnelRow}
    (hread : arrayOf TunnelRow.fromValue payload = some rows) :
    ShowsTable TunnelRow.headers TunnelRow.cells rows (renderTunnels f serde payload .table) ↔
      ∀ r ∈ rows,
        Shown f r.direction.toList ∧ Shown f r.kind.toList ∧ Shown f r.spec.toList :=
  (renderPayload_showsTable_iff (printable_of_short (by decide)) serde _ hread _).trans
    (forall₂_congr fun r _ => r.printable_iff)

/-- When the history shows the disconnects. -/
theorem renderHistory_showsTable_iff {rows : List HistoryRow}
    (hread : arrayOf HistoryRow.fromValue payload = some rows) :
    ShowsTable HistoryRow.headers HistoryRow.cells rows (renderHistory f serde payload .table) ↔
      ∀ r ∈ rows, Shown f r.remote.toList ∧ '\n' ∉ r.reason.toList :=
  (renderPayload_showsTable_iff (printable_of_short (by decide)) serde _ hread _).trans
    (forall₂_congr fun r _ => r.printable_iff)

end Tables

end Ctl
end Rusnel
