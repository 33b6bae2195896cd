import Rusnel.Server.AdminRoutes
import Rusnel.Ctl.Detail
import Rusnel.EndToEnd.AdminView

/-!
# The control client against the admin API

A command of the control client writes a path, the server's router reads it, a handler
answers, and the client prints the answer.  The ids that an operator gives to a command
are those that the tables of the list commands show.

Main results:

- Theorem {lit}`respond_path`: the request of a command reaches the handler it is meant
  for, with the id that was given.
- Theorem {lit}`ctl_agrees`: after every sequence of calls on the registry, a command
  about one entry prints its row of the list command, and below it the rows of the
  other tables that carry its id.
-/

namespace Rusnel
namespace EndToEnd

open Text Server Ctl
open Columns (Formatter)
open Json (Value)

/-! ## A command and its answer -/

/-- The payload of an answer; a status other than success is an error. -/
def payloadOf : Response → Except Failure Value
  | .ok payload => .ok payload
  | .failed status body =>
      .error (.err ("admin API returned " ++ status ++ ": " ++ String.ofList body))

def infoRow (d : ServerInfoDto) : ServerInfo :=
  ⟨d.version, d.listenAddr, d.startedAtMs, d.uptimeMs, d.clientCount, d.tunnelCount,
    d.activeConnCount⟩

section Commands

variable (f : Formatter) (serde : Serde) (http : Http) (times : Times) (process : Process)
  (now : Int) (st : ServerState)

/-- What a command prints of this registry, without the option for raw JSON. -/
def ctl (action : CtlAction) : Except Failure (List Char) :=
  runCtl f serde (fun path => payloadOf (respond http times process now st path)) false action

/-- The rows of the list commands. -/
def clientRows : List ClientSummary :=
  (listClients times st).map clientRow

def tunnelRows : List TunnelRow :=
  (listTunnels times st).map tunnelRow

def connRows : List ConnRow :=
  (listConns times st).map connRow

end Commands

/-! ## Where a request arrives -/

/-- The segments of a command's path. -/
def segments : CtlAction → List String
  | .server => ["", "api", "v1", "server"]
  | .clients => ["", "api", "v1", "clients"]
  | .client id => ["", "api", "v1", "clients", String.ofList (decimal id)]
  | .clientConns id => ["", "api", "v1", "clients", String.ofList (decimal id), "conns"]
  | .tunnels => ["", "api", "v1", "tunnels"]
  | .tunnel id => ["", "api", "v1", "tunnels", String.ofList (decimal id)]
  | .tunnelConns id => ["", "api", "v1", "tunnels", String.ofList (decimal id), "conns"]
  | .conns => ["", "api", "v1", "conns"]
  | .history _ => ["", "api", "v1", "history"]

/-- The query of a command. -/
def query : CtlAction → Option (List Char)
  | .history (some n) => some ("limit=".toList ++ decimal n)
  | _ => none

theorem plain_segments (action : CtlAction) : ∀ s ∈ segments action, Plain s := by
  have hid : ∀ id, Plain (String.ofList (decimal id)) := plain_decimal
  cases action <;>
    simp only [segments, List.forall_mem_cons, List.not_mem_nil, false_implies, implies_true, hid,
      true_and, and_true]
  all_goals decide

theorem path_eq (action : CtlAction) :
    action.path = pathOf (segments action) ++ (query action).elim [] ('?' :: ·) := by
  -- The digits are kept as a variable: nothing is to be computed from them.
  have hone : ∀ (kind : String) (digits : List Char),
      "/api/v1/".toList ++ kind.toList ++ "/".toList ++ digits =
        pathOf ["", "api", "v1", kind, String.ofList digits] ++ [] := by simp [pathOf]
  have hconns : ∀ (kind : String) (digits : List Char),
      "/api/v1/".toList ++ kind.toList ++ "/".toList ++ digits ++ "/conns".toList =
        pathOf ["", "api", "v1", kind, String.ofList digits, "conns"] ++ [] := by simp [pathOf]
  have hlimit : ∀ digits : List Char, "/api/v1/history?limit=".toList ++ digits =
      pathOf ["", "api", "v1", "history"] ++ '?' :: ("limit=".toList ++ digits) := by
    simp [pathOf]
  rcases action with _ | _ | id | id | _ | id | id | _ | (_ | n)
  case client => exact hone "clients" (decimal id)
  case clientConns => exact hconns "clients" (decimal id)
  case tunnel => exact hone "tunnels" (decimal id)
  case tunnelConns => exact hconns "tunnels" (decimal id)
  case history.some => exact hlimit (decimal n)
  all_goals decide +kernel

section Answers

variable (http : Http) (times : Times) (process : Process) (now : Int) (st : ServerState)

/-- What the registry has to say to a command. -/
def answer : CtlAction → Option Value
  | .server => some (serverInfo st process now).toValue
  | .clients => some (body ClientSummaryDto.toValue (listClients times st))
  | .client id => (getClient times st id).map ClientDetailDto.toValue
  | .clientConns id => (listClientConns times st id).map (body ConnDto.toValue)
  | .tunnels => some (body TunnelDto.toValue (listTunnels times st))
  | .tunnel id => (getTunnel times st id).map TunnelDetailDto.toValue
  | .tunnelConns id => (listTunnelConns times st id).map (body ConnDto.toValue)
  | .conns => some (body ConnDto.toValue (listConns times st))
  | .history limit =>
      some (body HistoryDto.toValue (listHistory times st (limit.map UInt64.toNat)))

/-- The request of a command reaches the handler it is meant for, with the number that
was given. -/
theorem respond_path (action : CtlAction) :
    respond http times process now st action.path =
      (answer times process now st action).elim notFound .ok := by
  have hroute : respond http times process now st action.path =
      router http times process now st (segments action) (query action) := by
    have hne : segments action ≠ [] := by cases action <;> simp [segments]
    rw [path_eq]
    cases query action with
    | none => simpa using respond_segments (plain_segments action) hne
    | some query => exact respond_query (plain_segments action) hne query
  rw [hroute]
  rcases action with _ | _ | id | id | _ | id | id | _ | (_ | n)
  case client | clientConns | tunnel | tunnelConns => exact byId_decimal http id _
  case history.some =>
    have hlimit := historyLimit_decimal n
    change getHistory http times st ("limit=".toList ++ decimal n) = _
    rw [getHistory, decimal, hlimit]
    rfl
  all_goals rfl

end Answers

/-! ## What is read from an answer -/

theorem fromValue_clientDetail (d : ClientDetailDto) :
    ClientDetail.fromValue d.toValue = some ⟨clientRow d.summary, d.tunnels.map tunnelRow⟩ := by
  have htunnels := Json.arrayOf_map fromValue_tunnel d.tunnels
  change ((some (clientRow d.summary)).bind fun summary =>
    (Json.arrayOf TunnelRow.fromValue (body TunnelDto.toValue d.tunnels)).bind fun items =>
      some (summary, items)).map (fun r => (⟨r.1, r.2⟩ : ClientDetail)) = _
  rw [body, htunnels]
  rfl

theorem fromValue_tunnelDetail (d : TunnelDetailDto) :
    TunnelDetail.fromValue d.toValue = some ⟨tunnelRow d.summary, d.conns.map connRow⟩ := by
  have hconns := Json.arrayOf_map fromValue_conn d.conns
  change ((some (tunnelRow d.summary)).bind fun summary =>
    (Json.arrayOf ConnRow.fromValue (body ConnDto.toValue d.conns)).bind fun items =>
      some (summary, items)).map (fun r => (⟨r.1, r.2⟩ : TunnelDetail)) = _
  rw [body, hconns]
  rfl

/-- A list of records is printed as the rows read from it. -/
theorem renderPayload_body {α β : Type} {toValue : α → Value} {read : Value → Option β}
    {row : α → β} (hread : ∀ d, read (toValue d) = some (row d)) (serde : Serde)
    (names : List String) (render : List β → Except Failure (List Char)) (records : List α) :
    renderPayload serde names read render (body toValue records) .table =
      render (records.map row) := by
  simp only [renderPayload, body, Json.arrayOf_map hread]

/-! ## What a command prints -/

/-- The error of a command about an entry that is not there. -/
def notFoundError : Failure :=
  .err "admin API returned 404 Not Found: \x7b\"error\":\"not found\"\x7d"

section Printed

variable {f : Formatter} {serde : Serde} {http : Http} {times : Times} {process : Process}
  {now : Int} {st : ServerState}

/-- A command that is answered prints the answer. -/
theorem ctl_of_answer {action : CtlAction} {payload : Value}
    (h : answer times process now st action = some payload) :
    ctl f serde http times process now st action =
      (action.render f serde payload .table).map printed := by
  rw [ctl, runCtl, respond_path, h]
  rfl

/-- A command about an entry that is not there says so. -/
theorem ctl_of_none {action : CtlAction} (h : answer times process now st action = none) :
    ctl f serde http times process now st action = .error notFoundError := by
  rw [ctl, runCtl, respond_path, h]
  rfl

end Printed

/-- The commands agree with each other: each prints what the tables of the list commands
show. -/
structure CtlAgrees (f : Formatter) (times : Times) (st : ServerState)
    (ctl : CtlAction → Except Failure (List Char)) : Prop where
  clients : ctl .clients =
    (renderRows f ClientSummary.headers ClientSummary.cells (clientRows times st)).map printed
  tunnels : ctl .tunnels = (renderTunnelRows f (tunnelRows times st)).map printed
  conns : ctl .conns = (renderConnRows f (connRows times st)).map printed
  history : ∀ limit, ctl (.history limit) =
    (renderRows f HistoryRow.headers HistoryRow.cells
      ((listHistory times st (limit.map UInt64.toNat)).map historyRow)).map printed
  /-- The server counts the rows of the tables. -/
  server : ∃ info : ServerInfo, ctl .server = .ok (printed (serverText info)) ∧
    info.clientCount = .ofNat (clientRows times st).length ∧
    info.tunnelCount = .ofNat (tunnelRows times st).length ∧
    info.activeConnCount = .ofNat (connRows times st).length
  /-- A client is shown with its row, and with the rows of the tunnels that carry its id. -/
  client : ∀ r ∈ clientRows times st, ctl (.client r.id) =
    (withRows (clientText r) (renderTunnelRows f)
      ((tunnelRows times st).filter (·.clientId == r.id))).map printed
  clientConns : ∀ r ∈ clientRows times st, ctl (.clientConns r.id) =
    (renderConnRows f ((connRows times st).filter (·.clientId == r.id))).map printed
  tunnel : ∀ r ∈ tunnelRows times st, ctl (.tunnel r.id) =
    (withRows (tunnelText r) (renderConnRows f)
      ((connRows times st).filter (·.tunnelId == r.id))).map printed
  tunnelConns : ∀ r ∈ tunnelRows times st, ctl (.tunnelConns r.id) =
    (renderConnRows f ((connRows times st).filter (·.tunnelId == r.id))).map printed
  /-- An id that no row shows is not found. -/
  unlistedClient : ∀ id, (∀ r ∈ clientRows times st, r.id ≠ id) →
    ctl (.client id) = .error notFoundError ∧ ctl (.clientConns id) = .error notFoundError
  unlistedTunnel : ∀ id, (∀ r ∈ tunnelRows times st, r.id ≠ id) →
    ctl (.tunnel id) = .error notFoundError ∧ ctl (.tunnelConns id) = .error notFoundError

section Agreement

variable {times : Times} {st : ServerState}

theorem filter_tunnelRows (id : UInt64) :
    (tunnelRows times st).filter (·.clientId == id) =
      ((listTunnels times st).filter (·.clientId == id)).map tunnelRow :=
  List.filter_map

theorem filter_connRows_client (id : UInt64) :
    (connRows times st).filter (·.clientId == id) =
      ((listConns times st).filter (·.clientId == id)).map connRow :=
  List.filter_map

theorem filter_connRows_tunnel (id : UInt64) :
    (connRows times st).filter (·.tunnelId == id) =
      ((listConns times st).filter (·.tunnelId == id)).map connRow :=
  List.filter_map

variable (f : Formatter) (serde : Serde) (http : Http) (process : Process) (now : Int)

/-- If the answers of the admin API agree, so does what the commands print. -/
theorem ctl_of_views (h : ViewsAgree times st) :
    CtlAgrees f times st (ctl f serde http times process now st) := by
  constructor
  case clients =>
    rw [ctl_of_answer rfl]
    exact congrArg _ (renderPayload_body fromValue_client serde _ _ _)
  case tunnels =>
    rw [ctl_of_answer rfl]
    exact congrArg _ (renderPayload_body fromValue_tunnel serde _ _ _)
  case conns =>
    rw [ctl_of_answer rfl]
    exact congrArg _ (renderPayload_body fromValue_conn serde _ _ _)
  case history =>
    intro limit
    rw [ctl_of_answer rfl]
    exact congrArg _ (renderPayload_body fromValue_history serde _ _ _)
  case server =>
    obtain ⟨hclients, htunnels, hconns⟩ := h.info process now
    refine ⟨infoRow (serverInfo st process now), (ctl_of_answer rfl).trans rfl, ?_, ?_, ?_⟩
    · rw [clientRows, List.length_map]
      exact hclients
    · rw [tunnelRows, List.length_map]
      exact htunnels
    · rw [connRows, List.length_map]
      exact hconns
  case client =>
    intro r hr
    obtain ⟨c, hc, rfl⟩ := List.mem_map.mp hr
    have hanswer : answer times process now st (.client (clientRow c).id) = some _ :=
      congrArg (Option.map ClientDetailDto.toValue) (h.client c hc).detail
    rw [ctl_of_answer hanswer, filter_tunnelRows]
    simp only [CtlAction.render, renderClientDetail, renderRecord, fromValue_clientDetail]
    rfl
  case clientConns =>
    intro r hr
    obtain ⟨c, hc, rfl⟩ := List.mem_map.mp hr
    have hanswer : answer times process now st (.clientConns (clientRow c).id) = some _ :=
      congrArg (Option.map (body ConnDto.toValue)) (h.client c hc).connList
    rw [ctl_of_answer hanswer, filter_connRows_client]
    exact congrArg _ (renderPayload_body fromValue_conn serde _ _ _)
  case tunnel =>
    intro r hr
    obtain ⟨t, ht, rfl⟩ := List.mem_map.mp hr
    have hanswer : answer times process now st (.tunnel (tunnelRow t).id) = some _ :=
      congrArg (Option.map TunnelDetailDto.toValue) (h.tunnel t ht).detail
    rw [ctl_of_answer hanswer, filter_connRows_tunnel]
    simp only [CtlAction.render, renderTunnelDetail, renderRecord, fromValue_tunnelDetail]
    rfl
  case tunnelConns =>
    intro r hr
    obtain ⟨t, ht, rfl⟩ := List.mem_map.mp hr
    have hanswer : answer times process now st (.tunnelConns (tunnelRow t).id) = some _ :=
      congrArg (Option.map (body ConnDto.toValue)) (h.tunnel t ht).connList
    rw [ctl_of_answer hanswer, filter_connRows_tunnel]
    exact congrArg _ (renderPayload_body fromValue_conn serde _ _ _)
  case unlistedClient =>
    intro id hid
    have hnone := h.unlistedClient id fun c hc => hid _ (List.mem_map_of_mem hc)
    exact ⟨ctl_of_none (congrArg (Option.map ClientDetailDto.toValue) hnone.1),
      ctl_of_none (congrArg (Option.map (body ConnDto.toValue)) hnone.2.2)⟩
  case unlistedTunnel =>
    intro id hid
    have hnone := h.unlistedTunnel id fun t ht => hid _ (List.mem_map_of_mem ht)
    exact ⟨ctl_of_none (congrArg (Option.map TunnelDetailDto.toValue) hnone.1),
      ctl_of_none (congrArg (Option.map (body ConnDto.toValue)) hnone.2)⟩

end Agreement

/-- Whatever calls were made on the registry, as long as no counter has wrapped: an id
that a table shows can be given to the commands about one entry, which print the entry's
row and the rows of the other tables that carry its id; any other id is not found. -/
theorem ctl_agrees {ops : List RegistryOp} {l : Ledger} (hrun : Ledger.run ops = some l)
    (hbounded : l.Bounded) (f : Formatter) (serde : Serde) (http : Http) (times : Times)
    (process : Process) (now : Int) :
    CtlAgrees f times l.state (ctl f serde http times process now l.state) :=
  ctl_of_views f serde http process now ((Ledger.run_coherent hrun hbounded).views_agree times)

/-- Client 9 has left: it is in no table, and a command about it finds nothing, while
client 7 is shown with both of its tunnels. -/
theorem ctl_agrees_leavingClient :
    let serde : Serde := ⟨fun _ => [], fun _ _ => ""⟩
    let http : Http := ⟨fun _ => [], fun _ => []⟩
    let times : Times := ⟨fun _ => 0, fun _ => 0, fun _ => 0⟩
    let process : Process := ⟨"0.0.0", .v4 .localhost 8080, 0⟩
    ∃ l, Ledger.run leavingClient = some l ∧
      CtlAgrees u16Formatter times l.state (ctl u16Formatter serde http times process 0 l.state) ∧
      (clientRows times l.state).map (·.id) = [7] ∧
      (tunnelRows times l.state).map (fun r => (r.clientId, r.id)) = [(7, 3), (7, 4)] ∧
      ctl u16Formatter serde http times process 0 l.state (.client 9) = .error notFoundError := by
  intro serde http times process
  have hcheck : ((Ledger.run leavingClient).any fun l => decide (l.Bounded ∧
      (clientRows times l.state).map (·.id) = [7] ∧
      (tunnelRows times l.state).map (fun r => (r.clientId, r.id)) = [(7, 3), (7, 4)])) = true := by
    decide +kernel
  obtain ⟨l, hrun, hl⟩ := (Option.any_eq_true _ _).mp hcheck
  obtain ⟨hbounded, hclients, htunnels⟩ := of_decide_eq_true hl
  have hagrees := ctl_agrees hrun hbounded u16Formatter serde http times process 0
  refine ⟨l, hrun, hagrees, hclients, htunnels, (hagrees.unlistedClient 9 ?_).1⟩
  intro r hr hid
  have hmem : r.id ∈ (clientRows times l.state).map (·.id) := List.mem_map_of_mem hr
  rw [hclients, hid] at hmem
  exact absurd hmem (by decide)

end EndToEnd
end Rusnel
