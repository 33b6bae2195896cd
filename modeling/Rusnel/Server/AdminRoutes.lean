import Rusnel.Server.AdminDetail

/-!
# Routes of the admin API

A request is a path and perhaps a query.  The path is matched segment by segment, and
a segment that stands for an id is read as a number.  Escapes in a path or a query are
not modelled: no request of the control client has one.

Main results:

- Theorems {lit}`respond_segments` and {lit}`respond_query`: a request is answered by the
  route of its segments.
- Theorems {lit}`byId_decimal` and {lit}`historyLimit_decimal`: numbers written in
  decimal arrive as they are.
-/

namespace Rusnel
namespace Server

open Net Text
open Json (Value ofU64)

/-! ## Answers as values -/

/-- A record with further members after its own. -/
def flatten : Value → List (String × Value) → Value
  | .object members, more => .object (members ++ more)
  | v, _ => v

def ClientDetailDto.toValue (d : ClientDetailDto) : Value :=
  flatten d.summary.toValue [("tunnels", body TunnelDto.toValue d.tunnels)]

def TunnelDetailDto.toValue (d : TunnelDetailDto) : Value :=
  flatten d.summary.toValue [("conns", body ConnDto.toValue d.conns)]

def ServerInfoDto.toValue (d : ServerInfoDto) : Value :=
  .object [("version", .string d.version), ("listen_addr", .string d.listenAddr),
    ("started_at_ms", ofU64 d.startedAtMs), ("uptime_ms", ofU64 d.uptimeMs),
    ("client_count", ofU64 d.clientCount), ("tunnel_count", ofU64 d.tunnelCount),
    ("active_conn_count", ofU64 d.activeConnCount)]

/-! ## Requests -/

/-- The answer to a request: a payload, or a status with a text. -/
inductive Response where
  | ok (payload : Value)
  | failed (status : String) (body : List Char)

/-- What is taken from the HTTP library as given: what it says of an id or a query that
it cannot read. -/
structure Http where
  badId : String → List Char
  badQuery : List Char → List Char

/-- The answer of a handler that does not find what it is asked for. -/
def notFound : Response :=
  .failed "404 Not Found" "\x7b\"error\":\"not found\"\x7d".toList

/-- The answer to a path without a route. -/
def noRoute : Response :=
  .failed "404 Not Found" []

/-- Parse a `u64`. -/
def parseU64 (s : List Char) : Option UInt64 :=
  (parseUnsigned 18446744073709551615 s).map UInt64.ofNat

/-- The number of rows that a query asks for, if it does; asking twice is an error. -/
def historyLimit (query : List Char) : Option (Option UInt64) :=
  let pairs := (query.splitOn '&').map fun pair => (splitOnce '=' pair).getD (pair, [])
  match pairs.filter fun pair => pair.1 == "limit".toList with
  | [] => some none
  | [(_, limit)] => (parseU64 limit).map some
  | _ => none

section Router

variable (http : Http) (times : Times) (process : Process) (now : Int) (st : ServerState)

/-- The answer about one entry.  An empty segment matches no route. -/
def byId (segment : String) (get : UInt64 → Option Value) : Response :=
  if segment = "" then noRoute
  else
    match parseU64 segment.toList with
    | none => .failed "400 Bad Request" (http.badId segment)
    | some id =>
        match get id with
        | none => notFound
        | some payload => .ok payload

/-- The answer of the history route. -/
def getHistory (query : List Char) : Response :=
  match historyLimit query with
  | none => .failed "400 Bad Request" (http.badQuery query)
  | some limit => .ok (body HistoryDto.toValue (listHistory times st (limit.map UInt64.toNat)))

/-- The routes.  No path matches two of them. -/
def router (path : List String) (query : Option (List Char)) : Response :=
  match path with
  | ["", "api", "v1", "server"] => .ok (serverInfo st process now).toValue
  | ["", "api", "v1", "clients"] => .ok (body ClientSummaryDto.toValue (listClients times st))
  | ["", "api", "v1", "clients", id] =>
      byId http id fun id => (getClient times st id).map ClientDetailDto.toValue
  | ["", "api", "v1", "clients", id, "tunnels"] =>
      byId http id fun id => (listClientTunnels times st id).map (body TunnelDto.toValue)
  | ["", "api", "v1", "clients", id, "conns"] =>
      byId http id fun id => (listClientConns times st id).map (body ConnDto.toValue)
  | ["", "api", "v1", "tunnels"] => .ok (body TunnelDto.toValue (listTunnels times st))
  | ["", "api", "v1", "tunnels", id] =>
      byId http id fun id => (getTunnel times st id).map TunnelDetailDto.toValue
  | ["", "api", "v1", "tunnels", id, "conns"] =>
      byId http id fun id => (listTunnelConns times st id).map (body ConnDto.toValue)
  | ["", "api", "v1", "conns"] => .ok (body ConnDto.toValue (listConns times st))
  | ["", "api", "v1", "conns", id] =>
      byId http id fun id => (getConn times st id).map ConnDto.toValue
  | ["", "api", "v1", "history"] => getHistory http times st (query.getD [])
  | _ => noRoute

/-- The answer to a request for this path and query. -/
def respond (uri : List Char) : Response :=
  let (path, query) :=
    match splitOnce '?' uri with
    | none => (uri, none)
    | some (path, query) => (path, some query)
  router http times process now st ((path.splitOn '/').map String.ofList) query

end Router

/-! ## Which route answers -/

/-- The path of some segments. -/
def pathOf (segments : List String) : List Char :=
  ['/'].intercalate (segments.map String.toList)

section Paths

variable {http : Http} {times : Times} {process : Process} {now : Int} {st : ServerState}

/-- A segment has neither the character that ends it nor the one that ends the path. -/
def Plain (segment : String) : Prop :=
  '/' ∉ segment.toList ∧ '?' ∉ segment.toList

instance (segment : String) : Decidable (Plain segment) :=
  inferInstanceAs (Decidable (_ ∧ _))

theorem splitOn_pathOf {segments : List String} (hplain : ∀ s ∈ segments, Plain s)
    (hne : segments ≠ []) : ((pathOf segments).splitOn '/').map String.ofList = segments := by
  rw [pathOf, List.splitOn_intercalate '/' ?_ ?_, List.map_map]
  · simp [Function.comp_def]
  · simp only [List.forall_mem_map]
    exact fun s hs => (hplain s hs).1
  · simpa using hne

theorem not_mem_intercalate {c sep : Char} (hne : c ≠ sep) {segments : List (List Char)}
    (h : ∀ s ∈ segments, c ∉ s) : c ∉ [sep].intercalate segments := by
  induction segments with
  | nil => simp
  | cons s rest ih =>
      rw [List.forall_mem_cons] at h
      cases rest with
      | nil => simpa using h.1
      | cons next rest =>
          rw [List.intercalate_cons_cons]
          simp only [List.mem_append, List.mem_singleton, h.1, hne, ih h.2, or_self,
            not_false_eq_true]

theorem not_mem_pathOf {segments : List String} (hplain : ∀ s ∈ segments, Plain s) :
    '?' ∉ pathOf segments := by
  refine not_mem_intercalate (by decide) ?_
  simp only [List.forall_mem_map]
  exact fun s hs => (hplain s hs).2

theorem splitOnce_eq_none {sep : Char} {s : List Char} (hs : sep ∉ s) : splitOnce sep s = none := by
  induction s with
  | nil => rfl
  | cons c s ih =>
      rw [List.mem_cons, not_or] at hs
      simp [splitOnce, ih hs.2, Ne.symm hs.1]

/-- A path is answered by the route of its segments. -/
theorem respond_segments {segments : List String} (hplain : ∀ s ∈ segments, Plain s)
    (hne : segments ≠ []) :
    respond http times process now st (pathOf segments) =
      router http times process now st segments none := by
  simp only [respond, splitOnce_eq_none (not_mem_pathOf hplain), splitOn_pathOf hplain hne]

/-- So is a path with a query. -/
theorem respond_query {segments : List String} (hplain : ∀ s ∈ segments, Plain s)
    (hne : segments ≠ []) (query : List Char) :
    respond http times process now st (pathOf segments ++ '?' :: query) =
      router http times process now st segments (some query) := by
  simp only [respond, splitOnce_append (not_mem_pathOf hplain), splitOn_pathOf hplain hne]

end Paths

/-! ## Numbers in a request -/

theorem plain_decimal (n : UInt64) : Plain (String.ofList (Nat.toDigits 10 n.toNat)) := by
  rw [Plain, String.toList_ofList]
  exact ⟨not_mem_toDigits (by decide) (by decide) (by decide) _,
    not_mem_toDigits (by decide) (by decide) (by decide) _⟩

theorem parseU64_decimal (n : UInt64) : parseU64 (Nat.toDigits 10 n.toNat) = some n := by
  have hn := n.toNat_lt
  have hplus : (Nat.toDigits 10 n.toNat).head? ≠ some '+' := by
    intro hhead
    exact not_mem_toDigits (by decide) (by decide) (by decide) _ (List.mem_of_head? hhead)
  rw [parseU64, parseUnsigned_of_head Nat.toDigits_ne_nil hplus,
    decimalDigits_toDigits (by omega), Option.map_some, UInt64.ofNat_toNat]

/-- An id in decimal asks for the entry with that id. -/
theorem byId_decimal (http : Http) (n : UInt64) (get : UInt64 → Option Value) :
    byId http (String.ofList (Nat.toDigits 10 n.toNat)) get =
      (get n).elim notFound .ok := by
  have hne : String.ofList (Nat.toDigits 10 n.toNat) ≠ "" := by
    intro hempty
    have hnil := congrArg String.toList hempty
    rw [String.toList_ofList] at hnil
    exact Nat.toDigits_ne_nil hnil
  rw [byId, if_neg hne, String.toList_ofList, parseU64_decimal]
  cases hget : get n with
  | none => simp [hget]
  | some payload => simp [hget]

/-- A number in decimal asks for that many rows of the history. -/
theorem historyLimit_decimal (n : UInt64) :
    historyLimit ("limit=".toList ++ Nat.toDigits 10 n.toNat) = some (some n) := by
  have hamp : '&' ∉ "limit=".toList ++ Nat.toDigits 10 n.toNat := by
    rw [List.mem_append, not_or]
    exact ⟨by decide, not_mem_toDigits (by decide) (by decide) (by decide) _⟩
  have hpair : splitOnce '=' ("limit=".toList ++ Nat.toDigits 10 n.toNat) =
      some ("limit".toList, Nat.toDigits 10 n.toNat) := by
    have happend : "limit=".toList ++ Nat.toDigits 10 n.toNat =
        "limit".toList ++ '=' :: Nat.toDigits 10 n.toNat := by simp
    rw [happend, splitOnce_append (by decide)]
  simp only [historyLimit, List.splitOn_eq_singleton hamp, List.map_cons, List.map_nil, hpair,
    Option.getD_some, List.filter_cons, List.filter_nil, beq_self_eq_true, if_true,
    parseU64_decimal, Option.map_some]

end Server
end Rusnel
