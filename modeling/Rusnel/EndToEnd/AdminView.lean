import Rusnel.Server.Admin
import Rusnel.Server.Registry
import Rusnel.Ctl.Render

/-!
# What an operator sees of the server

The control client prints what the admin API answers.  Both sides have their own
records; what the client reads are the fields of the server's under the same
names.  Some of the strings come from the server's clients: the host in the spec
of a tunnel, the peer of a conn, the reason of a disconnect.

Main results:

- Theorem {lit}`tables_laidOut_iff`: a table is printed with one line for each row
  and its columns aligned exactly if no string of a row has a newline in it and the
  formatter takes the padded ones.
- Theorem {lit}`forged_tunnel`: a client that declares a host with a newline adds a
  line of its own to the table of tunnels.
-/

namespace Rusnel
namespace EndToEnd

open Net Server Ctl
open Columns (Formatter LaidOut lines)
open Json (Value arrayOf)

/-! ## The client reads what the server writes -/

/-- The row that the client reads from a record of the server. -/
def clientRow (d : ClientSummaryDto) : ClientSummary :=
  ⟨d.id, d.remote, d.connectedAtMs, d.tunnelCount, d.activeConnCount, d.totalConns, d.bytesIn,
    d.bytesOut⟩

def tunnelRow (d : TunnelDto) : TunnelRow :=
  ⟨d.id, d.clientId, d.direction, d.kind, d.spec, d.openedAtMs, d.activeConnCount, d.totalConns,
    d.bytesIn, d.bytesOut⟩

def connRow (d : ConnDto) : ConnRow :=
  ⟨d.id, d.tunnelId, d.clientId, d.openedAtMs, d.peer, d.bytesIn, d.bytesOut⟩

def historyRow (d : HistoryDto) : HistoryRow :=
  ⟨d.clientId, d.remote, d.connectedAtMs, d.disconnectedAtMs, d.reason, d.bytesIn, d.bytesOut,
    d.totalConns⟩

theorem fromValue_client (d : ClientSummaryDto) :
    ClientSummary.fromValue d.toValue = some (clientRow d) :=
  rfl

theorem fromValue_tunnel (d : TunnelDto) : TunnelRow.fromValue d.toValue = some (tunnelRow d) :=
  rfl

theorem fromValue_conn (d : ConnDto) : ConnRow.fromValue d.toValue = some (connRow d) := by
  cases d with
  | mk id tunnelId clientId openedAtMs peer bytesIn bytesOut => cases peer <;> rfl

theorem fromValue_history (d : HistoryDto) :
    HistoryRow.fromValue d.toValue = some (historyRow d) :=
  rfl

/-! ## What breaks a table -/

/-- For every payload, whatever strings are in it: the tables are printed with one
line for each row and their columns aligned exactly if no string has a newline in
it and the formatter takes the strings of the padded columns. -/
theorem tables_laidOut_iff (f : Formatter) (serde : Serde) (payload : Value) :
    (∀ rows, arrayOf ClientSummary.fromValue payload = some rows →
      (ShowsTable ClientSummary.headers ClientSummary.cells rows
          (renderClients f serde payload .table) ↔
        ∀ r ∈ rows, Shown f r.remote.toList)) ∧
    (∀ rows, arrayOf ConnRow.fromValue payload = some rows →
      (ShowsTable ConnRow.headers ConnRow.cells rows (renderConns f serde payload .table) ↔
        ∀ r ∈ rows, ∀ peer ∈ r.peer, Shown f peer.toList)) ∧
    (∀ rows, arrayOf TunnelRow.fromValue payload = some rows →
      (ShowsTable TunnelRow.headers TunnelRow.cells rows (renderTunnels f serde payload .table) ↔
        ∀ r ∈ rows,
          Shown f r.direction.toList ∧ Shown f r.kind.toList ∧ Shown f r.spec.toList)) ∧
    (∀ rows, arrayOf HistoryRow.fromValue payload = some rows →
      (ShowsTable HistoryRow.headers HistoryRow.cells rows
          (renderHistory f serde payload .table) ↔
        ∀ r ∈ rows, Shown f r.remote.toList ∧ '\n' ∉ r.reason.toList)) :=
  ⟨fun _ => renderClients_showsTable_iff f serde, fun _ => renderConns_showsTable_iff f serde,
    fun _ => renderTunnels_showsTable_iff f serde, fun _ => renderHistory_showsTable_iff f serde⟩

/-- A formatter that takes 16-bit widths only. -/
def u16Formatter : Formatter where
  maxWidth := some 65535
  wide := by simp

/-- An arrow has three bytes and is one character; the column is as wide as its
bytes, and still aligned. -/
theorem tables_laidOut_arrow :
    let serde : Serde := ⟨fun _ => [], fun _ _ => ""⟩
    let rows : List ConnDto := [⟨1, 1, 1, 0, some "→8.8.8.8:53", 5, 7⟩, ⟨2, 1, 1, 0, none, 0, 0⟩]
    ShowsTable ConnRow.headers ConnRow.cells (rows.map connRow)
      (renderConns u16Formatter serde (body ConnDto.toValue rows) .table) := by
  intro serde rows
  exact ((tables_laidOut_iff u16Formatter serde _).2.1 (rows.map connRow) rfl).mpr (by decide)

/-- A client that declares one remote with this host. -/
def declares (host : String) : List Action :=
  .accept (.v4 ⟨10, 0, 0, 1⟩ 40000) ::
    establish 0 [.new .forward (.tcp (.v4 ⟨127, 0, 0, 1⟩ 8080) ⟨host, 80⟩)]

/-- One tunnel is declared, with a newline in its host.  The table shows two. -/
theorem forged_tunnel :
    let serde : Serde := ⟨fun _ => [], fun _ _ => ""⟩
    let times : Times := ⟨fun _ => 0, fun _ => 0, fun _ => 0⟩
    ∃ sys text,
      run ⟨false, false, none⟩ (declares "a:1/tcp\n2   1       forward  tcp   22=>db") = some sys ∧
      (listTunnels times sys.state).length = 1 ∧
      renderTunnels u16Formatter serde (body TunnelDto.toValue (listTunnels times sys.state))
        .table = .ok text ∧
      (lines text).drop 1 =
        ["1   1       forward  tcp   8080=>a:1/tcp".toList,
          "2   1       forward  tcp   22=>db:80/tcp  0          0       0      0   0".toList] ∧
      ¬ShowsTable TunnelRow.headers TunnelRow.cells
        ((listTunnels times sys.state).map tunnelRow) (.ok text) := by
  intro serde times
  have hview : (run ⟨false, false, none⟩
      (declares "a:1/tcp\n2   1       forward  tcp   22=>db")).map (fun sys =>
        ((listTunnels times sys.state).length,
          (renderTunnels u16Formatter serde
            (body TunnelDto.toValue (listTunnels times sys.state)) .table).map
              fun text => (lines text).drop 1)) =
      some (1, .ok ["1   1       forward  tcp   8080=>a:1/tcp".toList,
        "2   1       forward  tcp   22=>db:80/tcp  0          0       0      0   0".toList]) := by
    decide +kernel
  obtain ⟨sys, hsys, hview⟩ := Option.map_eq_some_iff.mp hview
  obtain ⟨hone, hlines⟩ := Prod.mk.inj hview
  cases hrender : renderTunnels u16Formatter serde
      (body TunnelDto.toValue (listTunnels times sys.state)) .table with
  | error e =>
      rw [hrender] at hlines
      cases hlines
  | ok text =>
      rw [hrender] at hlines
      have hdrop := Except.ok.inj hlines
      refine ⟨sys, text, hsys, hone, hrender, hdrop, ?_⟩
      rintro ⟨shown, hshown, hlaid⟩
      cases hshown
      have hcount := hlaid.count
      have hlength := congrArg List.length hdrop
      simp only [List.length_drop, List.length_cons, List.length_nil, List.length_map, hone]
        at hcount hlength
      omega

end EndToEnd
end Rusnel
