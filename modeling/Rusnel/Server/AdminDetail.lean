import Mathlib.Algebra.BigOperators.Group.List.Basic
import Rusnel.Foundation.Listing
import Rusnel.Server.Accounting
import Rusnel.Server.Admin

/-!
# Answers about single entries

The admin API also answers about one client, one tunnel or one conn, and with the
counts of the server.  These answers come from other maps than the lists do: a
client's own map of tunnels, a tunnel's own map of conns, the flat index of each.

Main results:

- Theorem {lit}`Ledger.run_coherent`: after every sequence of calls on the registry
  the own maps hold the part of each index that belongs to them.
- Theorem {lit}`admin_views_agree`: so every answer about one entry agrees with the
  lists, and its sums are the sums of the entries listed under it.
-/

namespace Rusnel
namespace Server

open Net
open Json (Value ofU64)
open Listing (values mem_values)

/-! ## The answers -/

structure ClientDetailDto where
  summary : ClientSummaryDto
  tunnels : List TunnelDto
deriving DecidableEq, Repr

structure TunnelDetailDto where
  summary : TunnelDto
  conns : List ConnDto
deriving DecidableEq, Repr

structure ServerInfoDto where
  version : String
  listenAddr : String
  startedAtMs : UInt64
  uptimeMs : UInt64
  clientCount : UInt64
  tunnelCount : UInt64
  activeConnCount : UInt64
deriving DecidableEq, Repr

/-- What a running server knows about itself.  Times are nanoseconds since the Unix
epoch. -/
structure Process where
  version : String
  listenAddr : SocketAddr
  startedAt : Int
deriving DecidableEq, Repr

/-- Milliseconds of a span of time; none for a span that runs backwards. -/
def asMillis (nanos : Int) : UInt64 :=
  .ofNat (nanos.toNat / 1000000)

/-- A time before the epoch counts as the epoch. -/
def unixMs (t : Int) : UInt64 :=
  asMillis t

section Routes

variable (times : Times) (st : ServerState)

def serverInfo (process : Process) (now : Int) : ServerInfoDto where
  version := process.version
  listenAddr := .ofList process.listenAddr.display
  startedAtMs := unixMs process.startedAt
  uptimeMs := asMillis (now - process.startedAt)
  clientCount := .ofNat st.clients.entries.length
  tunnelCount := .ofNat st.tunnels.entries.length
  activeConnCount := .ofNat st.conns.entries.length

/-- The tunnels of one client; `none` is the answer 404. -/
def listClientTunnels (id : UInt64) : Option (List TunnelDto) := do
  let entry ← st.clients.lookup id
  let tunnels := values (st.clientTunnels entry.arc)
  return sortByKey (fun t => [t.id]) (tunnels.map (.fromEntry times st))

def getClient (id : UInt64) : Option ClientDetailDto := do
  let entry ← st.clients.lookup id
  let tunnels := values (st.clientTunnels entry.arc)
  return {
    summary := .fromEntry times st entry
    tunnels := sortByKey (fun t => [t.id]) (tunnels.map (.fromEntry times st)) }

def getTunnel (id : UInt64) : Option TunnelDetailDto := do
  let entry ← st.tunnel id
  let conns := values (st.tunnelCells entry.arc).conns
  return {
    summary := .fromEntry times st entry
    conns := sortByKey (fun c => [c.id]) (conns.map (.fromEntry times st)) }

def getConn (id : UInt64) : Option ConnDto :=
  (st.conns.lookup id).map (.fromEntry times st)

end Routes

/-! ## Sorting by a key -/

section SortByKey

theorem keyLe_total : ∀ a b : List UInt64, keyLe a b = true ∨ keyLe b a = true
  | [], _ => .inl (by simp [keyLe])
  | _ :: _, [] => .inr rfl
  | a :: as, b :: bs => by
      have hrest := keyLe_total as bs
      by_cases hab : a < b
      · exact .inl (by simp [keyLe, hab])
      · by_cases heq : a = b
        · subst heq
          simpa [keyLe] using hrest
        · have hba : b < a := UInt64.lt_of_le_of_ne (UInt64.not_lt.mp hab) (Ne.symm heq)
          exact .inr (by simp [keyLe, hba])

theorem keyLe_trans : ∀ {a b c : List UInt64}, keyLe a b = true → keyLe b c = true →
    keyLe a c = true
  | [], _, _, _, _ => by simp [keyLe]
  | _ :: _, [], _, hab, _ => by simp [keyLe] at hab
  | _ :: _, _ :: _, [], _, hbc => by simp [keyLe] at hbc
  | a :: as, b :: bs, c :: cs, hab, hbc => by
      simp only [keyLe, Bool.or_eq_true, decide_eq_true_eq, Bool.and_eq_true, beq_iff_eq]
        at hab hbc ⊢
      rcases hab with hab | ⟨rfl, hab⟩
      · rcases hbc with hbc | ⟨rfl, _⟩
        · exact .inl (UInt64.lt_trans hab hbc)
        · exact .inl hab
      · rcases hbc with hbc | ⟨rfl, hbc⟩
        · exact .inl hbc
        · exact .inr ⟨rfl, keyLe_trans hab hbc⟩

theorem keyLe_antisymm : ∀ {a b : List UInt64}, keyLe a b = true → keyLe b a = true → a = b
  | [], [], _, _ => rfl
  | [], _ :: _, _, hba => by simp [keyLe] at hba
  | _ :: _, [], hab, _ => by simp [keyLe] at hab
  | a :: as, b :: bs, hab, hba => by
      simp only [keyLe, Bool.or_eq_true, decide_eq_true_eq, Bool.and_eq_true, beq_iff_eq]
        at hab hba
      rcases hab with hab | ⟨rfl, hab⟩
      · rcases hba with hba | ⟨rfl, _⟩
        · exact absurd hba (UInt64.lt_asymm hab)
        · exact absurd hab (UInt64.lt_irrefl _)
      · rcases hba with hba | ⟨_, hba⟩
        · exact absurd hba (UInt64.lt_irrefl _)
        · rw [keyLe_antisymm hab hba]

variable {α : Type}

instance (key : α → List UInt64) : Std.Total fun a b => keyLe (key a) (key b) = true where
  total a b := keyLe_total (key a) (key b)

instance (key : α → List UInt64) : IsTrans α fun a b => keyLe (key a) (key b) = true where
  trans _ _ _ := keyLe_trans

theorem perm_sortByKey (key : α → List UInt64) (l : List α) : (sortByKey key l).Perm l :=
  l.perm_insertionSort _

/-- The records of a sorted list that have some of their key fixed are sorted by the
rest of it. -/
theorem filter_sortByKey {key key' : α → List UInt64} {p : α → Bool} {l l' : List α}
    (hperm : (l.filter p).Perm l')
    (hkey : ∀ a ∈ l', ∀ b ∈ l', keyLe (key a) (key b) = keyLe (key' a) (key' b))
    (hinj : ∀ a ∈ l', ∀ b ∈ l', key' a = key' b → a = b) :
    (sortByKey key l).filter p = sortByKey key' l' := by
  refine Listing.filter_insertionSort hperm ?_ ?_
  · intro a ha b hb hle
    rwa [← hkey a ha b hb]
  · intro a ha b hb hab hba
    exact hinj a ha b hb (keyLe_antisymm hab hba)

end SortByKey

/-! ## Maps that agree -/

/-- Every entry is kept under its id, and the own maps of clients and tunnels hold
the part of the indices that is theirs. -/
structure ServerState.Coherent (st : ServerState) : Prop where
  client : ∀ id client, st.clients.lookup id = some client → client.id = id
  tunnel : ∀ id t, st.tunnels.lookup id = some t → t.id = id
  conn : ∀ id conn, st.conns.lookup id = some conn → conn.id = id
  /-- A registered client's own map holds its tunnels. -/
  own : ∀ clientId client, st.clients.lookup clientId = some client → ∀ id t,
    (st.clientTunnels client.arc).lookup id = some t ↔
      st.tunnels.lookup id = some t ∧ t.clientId = clientId
  /-- An indexed tunnel's own map holds its conns. -/
  cell : ∀ tunnelId t, st.tunnels.lookup tunnelId = some t → ∀ id conn,
    (st.tunnelCells t.arc).conns.lookup id = some conn ↔
      st.conns.lookup id = some conn ∧ conn.tunnelId = tunnelId
  /-- The client of an indexed tunnel is registered. -/
  owner : ∀ id t, st.tunnels.lookup id = some t →
    ∃ client, st.clients.lookup t.clientId = some client
  /-- A conn's tunnel is indexed as its client's, or both are gone. -/
  origin : ∀ id conn, st.conns.lookup id = some conn →
    (∃ t, st.tunnels.lookup conn.tunnelId = some t ∧ t.clientId = conn.clientId) ∨
      (st.tunnels.lookup conn.tunnelId = none ∧ st.clients.lookup conn.clientId = none)

variable {client : ClientEntry}

namespace Ledger

variable {l l' : Ledger}

/-- Records that were handed out agree on whose they are. -/
structure Filed (l : Ledger) : Prop where
  conns : ∀ g ∈ l.guards, g.conn.tunnelId = g.tunnel.id ∧ g.conn.clientId = g.tunnel.clientId
  clients : ∀ t ∈ l.tunnels, t.clientId ∈ l.clients
  /-- A tunnel stays in its client's own map. -/
  tunnels : ∀ t ∈ l.tunnels, ∀ client, l.state.clients.lookup t.clientId = some client →
    (l.state.clientTunnels client.arc).lookup t.id = some t

theorem init_filed : init.Filed := by
  constructor <;> simp [init]

theorem Filed.addTunnel (h : l.Filed) (hlawful : l.Lawful) {clientId : UInt64}
    {request : RemoteRequest} (hclient : l.state.clients.lookup clientId = some client)
    (hlt : l.tunnels.length + 1 < 2 ^ 64) : (l.addTunnel client request).Filed where
  conns := h.conns
  clients t ht := by
    obtain ⟨hid, harc⟩ := hlawful.owned.client clientId client hclient
    rcases List.mem_append.mp ht with hold | hnew
    · exact h.clients t hold
    · cases List.mem_singleton.mp hnew
      exact List.mem_of_getElem? (hid ▸ harc)
  tunnels t ht other hother := by
    rw [addTunnel_own]
    rcases List.mem_append.mp ht with hold | hnew
    · rw [if_neg fun hnew => hlawful.issued.tunnel_fresh hlt hold hnew.2]
      exact h.tunnels t hold other hother
    · cases List.mem_singleton.mp hnew
      obtain ⟨rfl, _⟩ := hlawful.owned.client clientId client hclient
      cases hclient.symm.trans hother
      exact if_pos ⟨rfl, rfl⟩

theorem Filed.foldl_addTunnel (h : l.Filed) (hlawful : l.Lawful) {clientId : UInt64}
    (hclient : l.state.clients.lookup clientId = some client) (requests : List RemoteRequest)
    (hlt : l.tunnels.length + requests.length < 2 ^ 64) :
    (requests.foldl (Ledger.addTunnel client) l).Filed := by
  induction requests generalizing l with
  | nil => exact h
  | cons request requests ih =>
      rw [List.length_cons] at hlt
      have hnext : l.tunnels.length + 1 < 2 ^ 64 := by omega
      refine ih (h.addTunnel hlawful hclient hnext) (hlawful.addTunnel hclient hnext) hclient ?_
      rw [addTunnel_tunnels, List.length_append, List.length_singleton]
      omega

/-- Every call keeps the records in agreement. -/
theorem Effect.filed (h : l.Filed) (hlawful : l.Lawful) (heffect : Effect l l')
    (hbounded : l'.Bounded) : l'.Filed := by
  cases heffect with
  | registerClient id remote hnew =>
      refine ⟨h.conns, fun t ht => List.mem_append_left _ (h.clients t ht), ?_⟩
      intro t ht client hclient
      have hne : t.clientId ≠ id := fun heq => hnew (heq ▸ h.clients t ht)
      rw [ServerState.registerClient, AList.lookup_insert_ne hne] at hclient
      exact h.tunnels t ht client hclient
  | registerTunnels id client requests hclient =>
      have hlt := hbounded.1
      rw [length_foldl_addTunnel] at hlt
      exact h.foldl_addTunnel hlawful hclient requests hlt
  | openConn tunnel peer hmem =>
      refine ⟨fun g hg => ?_, h.clients, h.tunnels⟩
      rcases mem_openConn.mp hg with hold | rfl
      · exact h.conns g hold
      · exact ⟨rfl, rfl⟩
  | addIn g n hmem =>
      rw [ServerState.addIn_counters]
      exact ⟨h.conns, h.clients, h.tunnels⟩
  | addOut g n hmem =>
      rw [ServerState.addOut_counters]
      exact ⟨h.conns, h.clients, h.tunnels⟩
  | dropConn g hmem =>
      exact ⟨fun other hother => h.conns other (List.mem_of_mem_filter hother), h.clients,
        h.tunnels⟩
  | deregisterClient id reason =>
      refine ⟨h.conns, h.clients, fun t ht client hclient => ?_⟩
      rw [l.state.deregisterClient_clients] at hclient
      rw [(l.state.deregisterClient_frame id reason).2.1]
      exact h.tunnels t ht client (Table.lookup_of_erase hclient).2

theorem run_filed {ops : List RegistryOp} (hrun : run ops = some l) (hbounded : l.Bounded) :
    l.Filed := by
  refine Transition.run_induction (P := fun _ l => l.Bounded → l.Filed) (fun _ => init_filed) ?_
    hrun hbounded
  intro ops op mid l' hmid ih hstep hbounded
  have heffect := step_effect hstep
  have hmidBounded := hbounded.of_effect heffect
  exact heffect.filed (ih hmidBounded) (run_lawful hmid hmidBounded) hbounded

/-- A tunnel with a registered client is indexed. -/
theorem Filed.indexed (h : l.Filed) (hlawful : l.Lawful) {t : TunnelEntry} (ht : t ∈ l.tunnels)
    (hclient : l.state.clients.lookup t.clientId = some client) :
    l.state.tunnels.lookup t.id = some t :=
  hlawful.owned.listed _ client _ t hclient (h.tunnels t ht client hclient)

theorem Filed.coherent (h : l.Filed) (hlawful : l.Lawful) : l.state.Coherent := by
  have hindexed : ∀ id t, l.state.tunnels.lookup id = some t → t.id = id ∧ t ∈ l.tunnels := by
    intro id t ht
    obtain ⟨client, _, hown⟩ := hlawful.owned.indexed id t ht
    obtain ⟨hid, hmem, _⟩ := hlawful.owned.own _ _ _ hown
    exact ⟨hid, hmem⟩
  constructor
  case client => exact fun id client hclient => (hlawful.owned.client id client hclient).1
  case tunnel => exact fun id t ht => (hindexed id t ht).1
  case conn =>
    intro id conn hconn
    obtain ⟨g, -, rfl, hid⟩ := hlawful.held.indexed id conn hconn
    exact hid
  case own =>
    intro clientId client hclient id t
    constructor
    · intro hown
      refine ⟨hlawful.owned.listed _ _ _ _ hclient hown, ?_⟩
      obtain ⟨_, _, harc⟩ := hlawful.owned.own _ _ _ hown
      rw [(hlawful.owned.client clientId client hclient).2] at harc
      exact (Option.some.inj harc).symm
    · rintro ⟨ht, rfl⟩
      obtain ⟨rfl, hmem⟩ := hindexed id t ht
      exact h.tunnels t hmem client hclient
  case cell =>
    intro tunnelId t ht id conn
    obtain ⟨rfl, hmem⟩ := hindexed tunnelId t ht
    constructor
    · intro hcell
      obtain ⟨g, hg, harc, rfl, rfl⟩ := hlawful.held.celled _ _ _ hcell
      cases hlawful.issued.tunnel_ext_arc (hlawful.issued.guard_tunnel g hg) hmem harc
      exact ⟨hlawful.held.inIndex g hg ht, (h.conns g hg).1⟩
    · rintro ⟨hconn, htunnel⟩
      obtain ⟨g, hg, rfl, rfl⟩ := hlawful.held.indexed _ _ hconn
      rw [(h.conns g hg).1] at htunnel
      cases hlawful.issued.tunnel_ext (hlawful.issued.guard_tunnel g hg) hmem htunnel
      exact hlawful.held.inCell g hg
  case owner =>
    intro id t ht
    obtain ⟨client, hclient, _⟩ := hlawful.owned.indexed id t ht
    exact ⟨client, hclient⟩
  case origin =>
    intro id conn hconn
    obtain ⟨g, hg, rfl, _⟩ := hlawful.held.indexed id conn hconn
    obtain ⟨htunnel, hclientId⟩ := h.conns g hg
    have hmem := hlawful.issued.guard_tunnel g hg
    rw [htunnel, hclientId]
    cases hclient : l.state.clients.lookup g.tunnel.clientId with
    | some client => exact .inl ⟨g.tunnel, h.indexed hlawful hmem hclient, rfl⟩
    | none =>
        refine .inr ⟨Option.eq_none_iff_forall_ne_some.mpr fun t ht => ?_, rfl⟩
        obtain ⟨hid, ht'⟩ := hindexed _ t ht
        cases hlawful.issued.tunnel_ext ht' hmem hid
        obtain ⟨client, hregistered, _⟩ := hlawful.owned.indexed _ _ ht
        cases hclient.symm.trans hregistered

/-- After every sequence of calls in which no counter has wrapped, the maps agree. -/
theorem run_coherent {ops : List RegistryOp} (hrun : run ops = some l) (hbounded : l.Bounded) :
    l.state.Coherent :=
  (run_filed hrun hbounded).coherent (run_lawful hrun hbounded)

end Ledger

/-! ## Parts of the lists -/

section Parts

variable {α β : Type} {m : DashMap UInt64 α} {i : α → UInt64} {g : α → β} {p : β → Bool}
  {key key' : β → List UInt64} {part : List α}

/-- Some of the records of a list, sorted by what is left of the list's key. -/
theorem filter_list (hid : ∀ k a, m.lookup k = some a → i a = k)
    (hperm : ((values m).filter fun a => p (g a)).Perm part)
    (hkey : ∀ a ∈ part, ∀ b ∈ part,
      keyLe (key (g a)) (key (g b)) = keyLe (key' (g a)) (key' (g b)))
    (hinj : ∀ a b, key' (g a) = key' (g b) → i a = i b) :
    (sortByKey key ((values m).map g)).filter p = sortByKey key' (part.map g) := by
  have hmem : ∀ a ∈ part, m.lookup (i a) = some a := by
    intro a ha
    obtain ⟨k, hk⟩ := mem_values.mp (List.mem_of_mem_filter (hperm.mem_iff.mpr ha))
    rwa [hid k a hk]
  refine filter_sortByKey ?_ ?_ ?_
  · rw [List.filter_map]
    exact hperm.map g
  · simp only [List.forall_mem_map]
    exact hkey
  · simp only [List.forall_mem_map]
    intro a ha b hb hsame
    have hfound := hmem a ha
    rw [hinj a b hsame, hmem b hb] at hfound
    rw [Option.some.inj hfound]

end Parts

variable {id : UInt64}

namespace ServerState

variable {st : ServerState}

/-- The tunnels listed under a client are those of its own map. -/
theorem Coherent.client_tunnels (h : st.Coherent) (times : Times)
    (hclient : st.clients.lookup id = some client) :
    (listTunnels times st).filter (·.clientId == id) =
      sortByKey (fun t => [t.id])
        ((values (st.clientTunnels client.arc)).map (.fromEntry times st)) := by
  refine filter_list (i := TunnelEntry.id) h.tunnel ?_ ?_
    fun t t' hid => (List.cons.inj hid).1
  · refine Listing.values_filter_perm fun k t => ?_
    rw [h.own id client hclient]
    exact and_congr_right fun _ => beq_iff_eq.symm
  · intro t ht t' ht'
    obtain ⟨k, hk⟩ := mem_values.mp ht
    obtain ⟨k', hk'⟩ := mem_values.mp ht'
    have hsame : t.clientId = t'.clientId :=
      ((h.own id client hclient k t).mp hk).2.trans ((h.own id client hclient k' t').mp hk').2.symm
    simp [keyLe, TunnelDto.fromEntry, hsame]

/-- The conns listed under a tunnel are those of its own map. -/
theorem Coherent.tunnel_conns (h : st.Coherent) (times : Times) {t : TunnelEntry}
    (ht : st.tunnels.lookup id = some t) :
    (listConns times st).filter (·.tunnelId == id) =
      sortByKey (fun c => [c.id])
        ((values (st.tunnelCells t.arc).conns).map (.fromEntry times st)) := by
  refine filter_list (i := ConnEntry.id) h.conn ?_ ?_
    fun conn conn' hid => (List.cons.inj hid).1
  · refine Listing.values_filter_perm fun k conn => ?_
    rw [h.cell id t ht]
    exact and_congr_right fun _ => beq_iff_eq.symm
  · -- The conns of one tunnel have one client.
    have hclient : ∀ conn ∈ values (st.tunnelCells t.arc).conns,
        conn.tunnelId = id ∧ conn.clientId = t.clientId := by
      intro conn hconn
      obtain ⟨k, hk⟩ := mem_values.mp hconn
      obtain ⟨hindexed, rfl⟩ := (h.cell id t ht k conn).mp hk
      rcases h.origin k conn hindexed with ⟨t', ht', hsame⟩ | ⟨hgone, _⟩
      · cases ht.symm.trans ht'
        exact ⟨rfl, hsame.symm⟩
      · cases ht.symm.trans hgone
    intro conn hconn conn' hconn'
    obtain ⟨htunnel, hsame⟩ := hclient conn hconn
    obtain ⟨htunnel', hsame'⟩ := hclient conn' hconn'
    simp [keyLe, ConnDto.fromEntry, htunnel, hsame, htunnel', hsame']

/-- The conns in the own maps of a client's tunnels. -/
def connsOf (st : ServerState) (client : ClientEntry) : List ConnEntry :=
  (values (st.clientTunnels client.arc)).flatMap fun t => values (st.tunnelCells t.arc).conns

/-- The conns indexed under a client are those of its tunnels' own maps. -/
theorem Coherent.connsOf_perm (h : st.Coherent) (hclient : st.clients.lookup id = some client) :
    ((values st.conns).filter fun conn => conn.clientId == id).Perm
      (st.connsOf client) := by
  have hown := h.own id client hclient
  refine Listing.values_filter_perm_flatMap h.conn ?_ ?_
  · -- Tunnels in one map have different ids, and a conn has one tunnel id.
    have hnodup := Listing.values_nodup fun k t (ht : (st.clientTunnels client.arc).lookup k =
      some t) => h.tunnel k t ((hown k t).mp ht).1
    refine (List.pairwise_map.mp hnodup).imp_of_mem ?_
    intro t t' ht ht' hne k conn hconn hconn'
    obtain ⟨i, hi⟩ := mem_values.mp ht
    obtain ⟨i', hi'⟩ := mem_values.mp ht'
    have hindexed := ((hown i t).mp hi).1
    have hindexed' := ((hown i' t').mp hi').1
    have htunnel := ((h.cell i t hindexed k conn).mp hconn).2
    have htunnel' := ((h.cell i' t' hindexed' k conn).mp hconn').2
    rw [h.tunnel i t hindexed, h.tunnel i' t' hindexed'] at hne
    exact hne (htunnel.symm.trans htunnel')
  · intro k conn
    constructor
    · rintro ⟨hconn, hid⟩
      have hclientId := beq_iff_eq.mp hid
      rcases h.origin k conn hconn with ⟨t, ht, howner⟩ | ⟨_, hgone⟩
      · refine ⟨t, mem_values.mpr ⟨conn.tunnelId, ?_⟩, ?_⟩
        · exact (hown _ t).mpr ⟨ht, howner.trans hclientId⟩
        · exact (h.cell _ t ht k conn).mpr ⟨hconn, rfl⟩
      · rw [hclientId, hclient] at hgone
        cases hgone
    · rintro ⟨t, ht, hconn⟩
      obtain ⟨i, hi⟩ := mem_values.mp ht
      obtain ⟨hindexed, rfl⟩ := (hown i t).mp hi
      obtain ⟨hfound, rfl⟩ := (h.cell i t hindexed k conn).mp hconn
      refine ⟨hfound, ?_⟩
      rcases h.origin k conn hfound with ⟨t', ht', howner⟩ | ⟨hgone, _⟩
      · cases hindexed.symm.trans ht'
        rw [howner]
        exact beq_self_eq_true _
      · cases hindexed.symm.trans hgone

/-- The conns listed under a client are those of its tunnels' own maps. -/
theorem Coherent.client_conns (h : st.Coherent) (times : Times)
    (hclient : st.clients.lookup id = some client) :
    (listConns times st).filter (·.clientId == id) =
      sortByKey (fun c => [c.tunnelId, c.id])
        ((st.connsOf client).map (.fromEntry times st)) := by
  have hperm := h.connsOf_perm hclient
  refine filter_list (i := ConnEntry.id) h.conn hperm ?_
    fun conn conn' hid => (List.cons.inj (List.cons.inj hid).2).1
  intro conn hconn conn' hconn'
  have hsame : conn.clientId = conn'.clientId :=
    (beq_iff_eq.mp (List.mem_filter.mp (hperm.mem_iff.mpr hconn)).2).trans
      (beq_iff_eq.mp (List.mem_filter.mp (hperm.mem_iff.mpr hconn')).2).symm
  simp [keyLe, ConnDto.fromEntry, hsame]

end ServerState

/-! ## Sums over a list -/

theorem length_sortByKey {α : Type} (key : α → List UInt64) (l : List α) :
    (sortByKey key l).length = l.length :=
  (perm_sortByKey key l).length_eq

theorem sum_sortByKey {α : Type} (key : α → List UInt64) (l : List α) (f : α → UInt64) :
    ((sortByKey key l).map f).sum = (l.map f).sum :=
  ((perm_sortByKey key l).map f).sum_eq

theorem length_values {κ α : Type} (m : DashMap κ α) : (values m).length = m.entries.length := by
  rw [values, List.length_map]

theorem sum_ofNat {α : Type} (l : List α) (f : α → Nat) :
    (l.map fun a => UInt64.ofNat (f a)).sum = .ofNat (l.map f).sum := by
  induction l with
  | nil => rfl
  | cons a l ih => simp only [List.map_cons, List.sum_cons, ih, UInt64.ofNat_add]

/-! ## What the answers say -/

/-- The answers about a client agree with its record and what is listed under it. -/
structure ClientAgrees (times : Times) (st : ServerState) (c : ClientSummaryDto)
    (tunnels : List TunnelDto) (conns : List ConnDto) : Prop where
  detail : getClient times st c.id = some ⟨c, tunnels⟩
  tunnelList : listClientTunnels times st c.id = some tunnels
  connList : listClientConns times st c.id = some conns
  tunnelCount : c.tunnelCount = .ofNat tunnels.length
  activeConnCount : c.activeConnCount = .ofNat conns.length
  totalConns : c.totalConns = (tunnels.map (·.totalConns)).sum
  bytesIn : c.bytesIn = (tunnels.map (·.bytesIn)).sum
  bytesOut : c.bytesOut = (tunnels.map (·.bytesOut)).sum

/-- The answers about a tunnel agree with its record and what is listed under it. -/
structure TunnelAgrees (times : Times) (st : ServerState) (t : TunnelDto)
    (conns : List ConnDto) : Prop where
  detail : getTunnel times st t.id = some ⟨t, conns⟩
  connList : listTunnelConns times st t.id = some conns
  activeConnCount : t.activeConnCount = .ofNat conns.length
  activeBytesIn : t.activeBytesIn = (conns.map (·.bytesIn)).sum
  activeBytesOut : t.activeBytesOut = (conns.map (·.bytesOut)).sum

/-- Every answer of the admin API agrees with the three lists. -/
structure ViewsAgree (times : Times) (st : ServerState) : Prop where
  client : ∀ c ∈ listClients times st, ClientAgrees times st c
    ((listTunnels times st).filter (·.clientId == c.id))
    ((listConns times st).filter (·.clientId == c.id))
  tunnel : ∀ t ∈ listTunnels times st, TunnelAgrees times st t
    ((listConns times st).filter (·.tunnelId == t.id))
  conn : ∀ c ∈ listConns times st, getConn times st c.id = some c
  /-- An id that is not listed is answered with 404. -/
  unlistedClient : ∀ id, (∀ c ∈ listClients times st, c.id ≠ id) →
    getClient times st id = none ∧ listClientTunnels times st id = none ∧
      listClientConns times st id = none
  unlistedTunnel : ∀ id, (∀ t ∈ listTunnels times st, t.id ≠ id) →
    getTunnel times st id = none ∧ listTunnelConns times st id = none
  unlistedConn : ∀ id, (∀ c ∈ listConns times st, c.id ≠ id) → getConn times st id = none
  owner : ∀ t ∈ listTunnels times st, ∃ c ∈ listClients times st, c.id = t.clientId
  /-- A conn is listed with its tunnel and its client, or without either. -/
  origin : ∀ conn ∈ listConns times st,
    (∃ t ∈ listTunnels times st, t.id = conn.tunnelId ∧ t.clientId = conn.clientId) ∨
      ((∀ t ∈ listTunnels times st, t.id ≠ conn.tunnelId) ∧
        ∀ c ∈ listClients times st, c.id ≠ conn.clientId)
  info : ∀ process now,
    (serverInfo st process now).clientCount = .ofNat (listClients times st).length ∧
    (serverInfo st process now).tunnelCount = .ofNat (listTunnels times st).length ∧
    (serverInfo st process now).activeConnCount = .ofNat (listConns times st).length

section Views

variable {st : ServerState}

/-- The records of a sorted list are those of the map's entries. -/
theorem mem_list {κ α β : Type} [DecidableEq κ] {m : DashMap κ α} {key : β → List UInt64}
    {g : α → β} {b : β} :
    b ∈ sortByKey key ((values m).map g) ↔ ∃ k a, m.lookup k = some a ∧ g a = b := by
  simp only [(perm_sortByKey key _).mem_iff, List.mem_map, mem_values]
  constructor
  · rintro ⟨a, ⟨k, hk⟩, hb⟩
    exact ⟨k, a, hk, hb⟩
  · rintro ⟨k, a, hk, hb⟩
    exact ⟨a, ⟨k, hk⟩, hb⟩

theorem ServerState.Coherent.client_agrees (h : st.Coherent) (times : Times)
    (hclient : st.clients.lookup id = some client) :
    ClientAgrees times st (.fromEntry times st client)
      ((listTunnels times st).filter (·.clientId == id))
      ((listConns times st).filter (·.clientId == id)) := by
  have hfound : st.clients.lookup client.id = some client := by
    rw [h.client id client hclient, hclient]
  rw [h.client_tunnels times hclient, h.client_conns times hclient]
  constructor
  case detail => simp [getClient, ClientSummaryDto.fromEntry, hfound]
  case tunnelList => simp [listClientTunnels, ClientSummaryDto.fromEntry, hfound]
  case connList =>
    simp [listClientConns, ClientSummaryDto.fromEntry, hfound, ServerState.connsOf]
  case tunnelCount =>
    rw [length_sortByKey, List.length_map, length_values]
    rfl
  case activeConnCount =>
    rw [length_sortByKey, List.length_map, ServerState.connsOf, List.length_flatMap, ← sum_ofNat]
    simp [ClientSummaryDto.fromEntry, ServerState.clientTotals, ServerState.tunnelTotals, values,
      Function.comp_def]
  case totalConns =>
    simp [sum_sortByKey, ClientSummaryDto.fromEntry, TunnelDto.fromEntry,
      ServerState.clientTotals, values, Function.comp_def]
  case bytesIn =>
    simp [sum_sortByKey, ClientSummaryDto.fromEntry, TunnelDto.fromEntry,
      ServerState.clientTotals, values, Function.comp_def, List.sum_map_add]
  case bytesOut =>
    simp [sum_sortByKey, ClientSummaryDto.fromEntry, TunnelDto.fromEntry,
      ServerState.clientTotals, values, Function.comp_def, List.sum_map_add]

theorem ServerState.Coherent.tunnel_agrees (h : st.Coherent) (times : Times) {t : TunnelEntry}
    (ht : st.tunnels.lookup id = some t) :
    TunnelAgrees times st (.fromEntry times st t)
      ((listConns times st).filter (·.tunnelId == id)) := by
  have hfound : st.tunnel t.id = some t := by
    rw [h.tunnel id t ht]
    exact ht
  rw [h.tunnel_conns times ht]
  constructor
  case detail => simp [getTunnel, TunnelDto.fromEntry, hfound]
  case connList => simp [listTunnelConns, TunnelDto.fromEntry, hfound]
  case activeConnCount =>
    rw [length_sortByKey, List.length_map, length_values]
    rfl
  case activeBytesIn =>
    simp [sum_sortByKey, TunnelDto.fromEntry, ConnDto.fromEntry, ServerState.tunnelTotals, values,
      Function.comp_def]
  case activeBytesOut =>
    simp [sum_sortByKey, TunnelDto.fromEntry, ConnDto.fromEntry, ServerState.tunnelTotals, values,
      Function.comp_def]

/-- If the maps agree, so do the answers. -/
theorem ServerState.Coherent.views_agree (h : st.Coherent) (times : Times) :
    ViewsAgree times st := by
  constructor
  case client =>
    intro c hc
    obtain ⟨id, client, hclient, rfl⟩ := mem_list.mp hc
    have hagrees := h.client_agrees times hclient
    rwa [← h.client id client hclient] at hagrees
  case tunnel =>
    intro t ht
    obtain ⟨id, entry, hentry, rfl⟩ := mem_list.mp ht
    have hagrees := h.tunnel_agrees times hentry
    rwa [← h.tunnel id entry hentry] at hagrees
  case conn =>
    intro c hc
    obtain ⟨id, conn, hconn, rfl⟩ := mem_list.mp hc
    obtain rfl := h.conn id conn hconn
    simp [getConn, ConnDto.fromEntry, hconn]
  case unlistedClient =>
    intro id hunlisted
    have hnone : st.clients.lookup id = none := by
      refine Option.eq_none_iff_forall_ne_some.mpr fun client hclient => ?_
      refine hunlisted _ (mem_list.mpr ⟨_, client, hclient, rfl⟩) ?_
      simp [ClientSummaryDto.fromEntry, h.client _ client hclient]
    simp [getClient, listClientTunnels, listClientConns, hnone]
  case unlistedTunnel =>
    intro id hunlisted
    have hnone : st.tunnel id = none :=
      Option.eq_none_iff_forall_ne_some.mpr fun t ht =>
        hunlisted _ (mem_list.mpr ⟨id, t, ht, rfl⟩) (h.tunnel id t ht)
    simp [getTunnel, listTunnelConns, hnone]
  case unlistedConn =>
    intro id hunlisted
    have hnone : st.conns.lookup id = none :=
      Option.eq_none_iff_forall_ne_some.mpr fun conn hconn =>
        hunlisted _ (mem_list.mpr ⟨id, conn, hconn, rfl⟩) (h.conn id conn hconn)
    simp [getConn, hnone]
  case owner =>
    intro t ht
    obtain ⟨id, entry, hentry, rfl⟩ := mem_list.mp ht
    obtain ⟨client, hclient⟩ := h.owner id entry hentry
    refine ⟨_, mem_list.mpr ⟨_, client, hclient, rfl⟩, ?_⟩
    simp [ClientSummaryDto.fromEntry, TunnelDto.fromEntry, h.client _ client hclient]
  case origin =>
    intro c hc
    obtain ⟨id, conn, hconn, rfl⟩ := mem_list.mp hc
    rcases h.origin id conn hconn with ⟨t, ht, howner⟩ | ⟨hgone, hclientGone⟩
    · refine .inl ⟨_, mem_list.mpr ⟨_, t, ht, rfl⟩, ?_⟩
      simp [TunnelDto.fromEntry, ConnDto.fromEntry, h.tunnel _ t ht, howner]
    · refine .inr ⟨fun t ht hid => ?_, fun client hclient hid => ?_⟩
      · obtain ⟨k, entry, hentry, rfl⟩ := mem_list.mp ht
        obtain rfl := h.tunnel k entry hentry
        have hsame : entry.id = conn.tunnelId := hid
        rw [hsame, hgone] at hentry
        cases hentry
      · obtain ⟨k, entry, hentry, rfl⟩ := mem_list.mp hclient
        obtain rfl := h.client k entry hentry
        have hsame : entry.id = conn.clientId := hid
        rw [hsame, hclientGone] at hentry
        cases hentry
  case info =>
    intro process now
    simp [serverInfo, listClients, listTunnels, listConns, length_sortByKey, length_values]

end Views

/-- Whatever calls were made on the registry, as long as no counter has wrapped: the
answers about a client, a tunnel or a conn repeat its record in the lists together with
what the lists have under its id, their counts and sums are those of the records they
come with, and an id that is not listed is not found. -/
theorem admin_views_agree {ops : List RegistryOp} {l : Ledger} (hrun : Ledger.run ops = some l)
    (hbounded : l.Bounded) (times : Times) : ViewsAgree times l.state :=
  (Ledger.run_coherent hrun hbounded).views_agree times

/-- Two clients with two tunnels each; one leaves with a conn open, and another conn is
opened on its tunnel afterwards. -/
def leavingClient : List RegistryOp :=
  [.registerClient 7 (.v4 .localhost 50000), .registerClient 9 (.v4 .localhost 50001),
    .registerTunnels 9 [Ledger.sampleRequest, Ledger.sampleRequest],
    .registerTunnels 7 [Ledger.sampleRequest, Ledger.sampleRequest],
    .registerConn 0 none, .registerConn 3 none, .registerConn 2 (some "10.0.0.9:4000"),
    .addIn 5 12, .addOut 6 7, .deregisterClient 9 "gone", .registerConn 0 none]

/-- The client that stayed is shown with both of its tunnels and their two conns. -/
theorem admin_views_agree_leavingClient :
    ∃ l, Ledger.run leavingClient = some l ∧
      ViewsAgree ⟨fun _ => 0, fun _ => 0, fun _ => 0⟩ l.state ∧
      (listConns ⟨fun _ => 0, fun _ => 0, fun _ => 0⟩ l.state).map (fun c => (c.tunnelId, c.id)) =
        [(3, 3), (4, 2), (1, 4)] := by
  have hcheck : ((Ledger.run leavingClient).any fun l => decide (l.Bounded ∧
      (listConns ⟨fun _ => 0, fun _ => 0, fun _ => 0⟩ l.state).map
        (fun c => (c.tunnelId, c.id)) = [(3, 3), (4, 2), (1, 4)])) = true := by
    decide +kernel
  obtain ⟨l, hrun, hl⟩ := (Option.any_eq_true _ _).mp hcheck
  obtain ⟨hbounded, hconns⟩ := of_decide_eq_true hl
  exact ⟨l, hrun, admin_views_agree hrun hbounded _, hconns⟩

end Server
end Rusnel
