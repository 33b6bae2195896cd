import Rusnel.Server.Ledger

/-!
# Byte and conn accounting

Bytes are counted on the conn they pass through and move to its tunnel when the
conn closes; a read of the totals adds the two.  The ledger holds what was
counted, and the totals agree with it after every sequence of calls, as long as
no counter has wrapped.

Main results:

- Theorem {lit}`Ledger.run_balanced`: for every tunnel, the counters of its open
  conns and what closed conns left behind add up to the bytes counted.
- Theorem {lit}`accounting_conserved`: the totals of tunnels and clients report
  exactly what was counted, and never less later on.
-/

namespace Rusnel
namespace Server

open Counter

/-! ## The balance of one direction -/

/-- What the open conns of a tunnel have counted. -/
def openBytes (guards : List ConnGuard) (counter : Nat → UInt64) (arc : Nat) : Nat :=
  (guards.map fun g => if g.tunnel.arc = arc then (counter g.conn.arc).toNat else 0).sum

/-- For every tunnel the counters of its open conns and what closed conns left
behind add up to the bytes counted, if these are below the bound. -/
def Balance (guards : List ConnGuard) (counter cumulative : Nat → UInt64)
    (bytes : Nat → Nat) : Prop :=
  ∀ arc, bytes arc < 2 ^ 64 →
    openBytes guards counter arc + (cumulative arc).toNat = bytes arc

section Balance

variable {guards : List ConnGuard} {counter cumulative : Nat → UInt64} {bytes : Nat → Nat}
  {g : ConnGuard} {arc : Nat}

/-- Only the values of the counters matter. -/
theorem Balance.congr {counter' cumulative' : Nat → UInt64}
    (h : Balance guards counter cumulative bytes) (hcounter : ∀ arc, counter' arc = counter arc)
    (hcumulative : ∀ arc, cumulative' arc = cumulative arc) :
    Balance guards counter' cumulative' bytes := by
  rw [funext hcounter, funext hcumulative]
  exact h

/-- Opening a conn whose counter is at zero. -/
theorem Balance.openConn (h : Balance guards counter cumulative bytes)
    (hzero : counter g.conn.arc = 0) : Balance (guards ++ [g]) counter cumulative bytes := by
  intro arc hlt
  rw [← h arc hlt]
  simp [openBytes, hzero]

/-- Counting bytes on an open conn. -/
theorem Balance.add (h : Balance guards counter cumulative bytes)
    (hnodup : (guards.map (·.conn.arc)).Nodup) (hg : g ∈ guards) (n : UInt64) :
    Balance guards (Function.update counter g.conn.arc (counter g.conn.arc + n)) cumulative
      (Ledger.credit bytes g.tunnel.arc n.toNat) := by
  intro arc hlt
  -- Only the share of this conn changes.
  have hchange := sum_map_change (fun g : ConnGuard => g.conn.arc) hnodup hg
    (f := fun other => if other.tunnel.arc = arc then
      (Function.update counter g.conn.arc (counter g.conn.arc + n) other.conn.arc).toNat else 0)
    (g := fun other => if other.tunnel.arc = arc then (counter other.conn.arc).toNat else 0)
    (fun other _ hne => by rw [Function.update_of_ne hne])
  simp only [Function.update_self] at hchange
  unfold openBytes
  by_cases harc : g.tunnel.arc = arc
  · subst harc
    simp only [Ledger.credit, Function.update_self, if_true] at hlt hchange ⊢
    have hold := h g.tunnel.arc (by omega)
    have hshare := List.le_sum_of_mem (List.mem_map_of_mem (f := fun other : ConnGuard =>
      if other.tunnel.arc = g.tunnel.arc then (counter other.conn.arc).toNat else 0) hg)
    simp only [if_true] at hshare
    unfold openBytes at hold
    rw [toNat_add (by omega)] at hchange
    omega
  · have hkept : Ledger.credit bytes g.tunnel.arc n.toNat arc = bytes arc := by
      rw [Ledger.credit, Function.update_of_ne fun h => harc h.symm]
    rw [hkept] at hlt ⊢
    have hold := h arc hlt
    unfold openBytes at hold
    simp only [if_neg harc] at hchange
    omega

/-- Closing a conn moves its bytes to the tunnel. -/
theorem Balance.dropConn (h : Balance guards counter cumulative bytes)
    (hnodup : (guards.map (·.conn.arc)).Nodup) (hg : g ∈ guards) :
    Balance (guards.filter fun other => other.conn.arc != g.conn.arc) counter
      (Function.update cumulative g.tunnel.arc
        (cumulative g.tunnel.arc + counter g.conn.arc)) bytes := by
  intro arc hlt
  have hold := h arc hlt
  rw [openBytes, sum_map_split (fun g : ConnGuard => g.conn.arc) hnodup hg] at hold
  unfold openBytes
  by_cases harc : g.tunnel.arc = arc
  · subst harc
    simp only [if_true] at hold
    rw [Function.update_self, toNat_add (by omega)]
    omega
  · rw [if_neg harc] at hold
    rw [Function.update_of_ne fun h => harc h.symm]
    omega

end Balance

/-! ## The invariant -/

variable {t : TunnelEntry} {client : ClientEntry}

namespace Ledger

/-- The open conns of a tunnel. -/
def guardsOn (l : Ledger) (t : TunnelEntry) : List ConnGuard :=
  l.guards.filter fun g => g.tunnel.arc == t.arc

/-- The ledger agrees with the registry's own counters. -/
structure Balanced (l : Ledger) : Prop where
  inbound : Balance l.guards (fun arc => (l.state.counters arc).1)
    (fun arc => (l.state.tunnelCells arc).cumulativeIn) l.bytesIn
  outbound : Balance l.guards (fun arc => (l.state.counters arc).2)
    (fun arc => (l.state.tunnelCells arc).cumulativeOut) l.bytesOut
  /-- A conn starts from zero. -/
  unused : ∀ arc, l.state.nextArc ≤ arc → l.state.counters arc = (0, 0) ∧ l.openedOn arc = 0
  totalConns : ∀ arc, (l.state.tunnelCells arc).totalConns = .ofNat (l.openedOn arc)
  /-- At most the conns that were opened are open. -/
  active : ∀ arc, (l.guards.filter fun g => g.tunnel.arc == arc).length ≤ l.openedOn arc
  opened : (l.tunnels.map fun t => l.openedOn t.arc).sum = l.opened

theorem init_balanced : init.Balanced := by
  constructor <;> simp [init, ServerState.new, Balance, openBytes]

variable {l l' : Ledger}

/-- Calls that leave conns and counters alone. -/
theorem Balanced.congr (h : l.Balanced) (hguards : l'.guards = l.guards)
    (hcounters : l'.state.counters = l.state.counters)
    (hcells : l'.state.tunnelCells = l.state.tunnelCells)
    (harc : l'.state.nextArc = l.state.nextArc) (htunnels : l'.tunnels = l.tunnels)
    (hopened : l'.opened = l.opened) (hon : l'.openedOn = l.openedOn)
    (hin : l'.bytesIn = l.bytesIn) (hout : l'.bytesOut = l.bytesOut) : l'.Balanced := by
  refine ⟨?_, ?_, ?_, ?_, ?_, ?_⟩
  · rw [hguards, hcounters, hcells, hin]
    exact h.inbound
  · rw [hguards, hcounters, hcells, hout]
    exact h.outbound
  · rw [harc, hcounters, hon]
    exact h.unused
  · rw [hcells, hon]
    exact h.totalConns
  · rw [hguards, hon]
    exact h.active
  · rw [htunnels, hon, hopened]
    exact h.opened

theorem Balanced.addTunnel (h : l.Balanced) (client : ClientEntry) (request : RemoteRequest) :
    (l.addTunnel client request).Balanced where
  inbound := h.inbound
  outbound := h.outbound
  unused arc harc := h.unused arc (Nat.le_of_succ_le harc)
  totalConns := h.totalConns
  active := h.active
  opened := by
    have hzero : l.openedOn l.state.nextArc = 0 := (h.unused _ (Nat.le_refl _)).2
    have hopened := h.opened
    rw [addTunnel_tunnels, List.map_append, List.sum_append]
    change (l.tunnels.map fun t => l.openedOn t.arc).sum + (l.openedOn l.state.nextArc + 0)
      = l.opened
    omega

/-- Opening a conn leaves what closed conns left behind. -/
theorem openConn_cumulative (tunnel : TunnelEntry) (peer : Option String) (arc : Nat) :
    ((l.openConn tunnel peer).state.tunnelCells arc).cumulativeIn =
        (l.state.tunnelCells arc).cumulativeIn ∧
      ((l.openConn tunnel peer).state.tunnelCells arc).cumulativeOut =
        (l.state.tunnelCells arc).cumulativeOut := by
  change (Function.update l.state.tunnelCells tunnel.arc _ arc).cumulativeIn = _ ∧
    (Function.update l.state.tunnelCells tunnel.arc _ arc).cumulativeOut = _
  by_cases harc : arc = tunnel.arc
  · subst harc
    simp
  · simp [harc]

theorem Balanced.openConn (h : l.Balanced) (hissued : l.Issued) {tunnel : TunnelEntry}
    (hmem : tunnel ∈ l.tunnels) (peer : Option String) :
    (l.openConn tunnel peer).Balanced where
  inbound := by
    simp only [(openConn_cumulative tunnel peer _).1]
    exact h.inbound.openConn (congrArg Prod.fst (h.unused _ (Nat.le_refl _)).1)
  outbound := by
    simp only [(openConn_cumulative tunnel peer _).2]
    exact h.outbound.openConn (congrArg Prod.snd (h.unused _ (Nat.le_refl _)).1)
  unused arc harc := by
    have harc : l.state.nextArc + 1 ≤ arc := harc
    obtain ⟨hcounters, hopened⟩ := h.unused arc (by omega)
    have hne : arc ≠ tunnel.arc := by
      have hlt := hissued.tunnel_lt tunnel hmem
      omega
    refine ⟨hcounters, ?_⟩
    rw [openConn_openedOn, credit_apply, hopened, if_neg hne]
  totalConns arc := by
    rw [openConn_totalConns, openConn_openedOn, credit_apply, h.totalConns arc, UInt64.ofNat_add]
    split <;> rfl
  active arc := by
    have hold := h.active arc
    rw [openConn_openedOn, credit_apply, openConn_guards, List.filter_append,
      List.length_append]
    by_cases harc : arc = tunnel.arc
    · simp [harc] at hold ⊢
      omega
    · have hne : ¬tunnel.arc = arc := fun heq => harc heq.symm
      simpa [harc, hne] using hold
  opened := by
    have hchange := sum_map_change (fun t : TunnelEntry => t.arc) hissued.tunnelArcs hmem
      (f := fun t => credit l.openedOn tunnel.arc 1 t.arc) (g := fun t => l.openedOn t.arc)
      (fun other _ hne => by rw [credit_apply, if_neg hne, Nat.add_zero])
    have hold := h.opened
    simp only [credit_apply, if_true] at hchange
    change (l.tunnels.map fun t => credit l.openedOn tunnel.arc 1 t.arc).sum = l.opened + 1
    simp only [credit_apply]
    omega

/-- Closing a conn does not change how many there have been. -/
theorem dropConn_totalConns (g : ConnGuard) (arc : Nat) :
    ((l.dropConn g).state.tunnelCells arc).totalConns =
      (l.state.tunnelCells arc).totalConns := by
  change (Function.update l.state.tunnelCells g.tunnel.arc _ arc).totalConns = _
  by_cases harc : arc = g.tunnel.arc
  · subst harc
    simp
  · simp [harc]

section Counting

variable {g : ConnGuard} (hg : g ∈ l.guards) (n : UInt64)

include hg

/-- A conn that is open has been allocated. -/
theorem Balanced.unused_update (h : l.Balanced) (hissued : l.Issued) (value : UInt64 × UInt64)
    {arc : Nat} (harc : l.state.nextArc ≤ arc) :
    Function.update l.state.counters g.conn.arc value arc = (0, 0) ∧ l.openedOn arc = 0 := by
  have hlt := hissued.conn_lt g hg
  rw [Function.update_of_ne (by omega)]
  exact h.unused arc harc

/-- Counting bytes received. -/
theorem Balanced.addIn (h : l.Balanced) (hissued : l.Issued) :
    Balanced { l with
      state := l.state.addIn g.conn n
      bytesIn := credit l.bytesIn g.tunnel.arc n.toNat } := by
  rw [ServerState.addIn_counters]
  refine ⟨?_, ?_, fun arc harc => h.unused_update hg hissued _ harc, h.totalConns, h.active,
    h.opened⟩
  · refine (h.inbound.add hissued.connArcs hg n).congr (fun arc => ?_) fun _ => rfl
    exact Function.apply_update (fun _ => Prod.fst) l.state.counters _ _ arc
  · refine h.outbound.congr (fun arc => ?_) fun _ => rfl
    rw [Function.apply_update (fun _ => Prod.snd) l.state.counters _ _ arc,
      Function.update_eq_self]

/-- Counting bytes sent. -/
theorem Balanced.addOut (h : l.Balanced) (hissued : l.Issued) :
    Balanced { l with
      state := l.state.addOut g.conn n
      bytesOut := credit l.bytesOut g.tunnel.arc n.toNat } := by
  rw [ServerState.addOut_counters]
  refine ⟨?_, ?_, fun arc harc => h.unused_update hg hissued _ harc, h.totalConns, h.active,
    h.opened⟩
  · refine h.inbound.congr (fun arc => ?_) fun _ => rfl
    rw [Function.apply_update (fun _ => Prod.fst) l.state.counters _ _ arc,
      Function.update_eq_self]
  · refine (h.outbound.add hissued.connArcs hg n).congr (fun arc => ?_) fun _ => rfl
    exact Function.apply_update (fun _ => Prod.snd) l.state.counters _ _ arc

omit n in
/-- Dropping a guard. -/
theorem Balanced.dropConn (h : l.Balanced) (hissued : l.Issued) : (l.dropConn g).Balanced where
  inbound :=
    (h.inbound.dropConn hissued.connArcs hg).congr (fun _ => rfl) fun arc =>
      Function.apply_update (fun _ => TunnelCell.cumulativeIn) l.state.tunnelCells _ _ arc
  outbound :=
    (h.outbound.dropConn hissued.connArcs hg).congr (fun _ => rfl) fun arc =>
      Function.apply_update (fun _ => TunnelCell.cumulativeOut) l.state.tunnelCells _ _ arc
  unused := h.unused
  totalConns arc := (dropConn_totalConns g arc).trans (h.totalConns arc)
  active arc := by
    have hsub : (l.dropConn g).guards.Sublist l.guards := List.filter_sublist
    exact (hsub.filter _).length_le.trans (h.active arc)
  opened := h.opened

end Counting

/-- Registering the tunnels of a hello keeps the balance. -/
theorem Balanced.foldl_addTunnel (h : l.Balanced) (client : ClientEntry)
    (requests : List RemoteRequest) : (requests.foldl (Ledger.addTunnel client) l).Balanced := by
  induction requests generalizing l with
  | nil => exact h
  | cons request requests ih => exact ih (h.addTunnel client request)

/-- Every call keeps the balance. -/
theorem Effect.balanced (h : l.Balanced) (hissued : l.Issued) (heffect : Effect l l') :
    l'.Balanced := by
  cases heffect with
  | registerClient id remote hnew => exact h.congr rfl rfl rfl rfl rfl rfl rfl rfl rfl
  | registerTunnels id client requests hclient => exact h.foldl_addTunnel client requests
  | openConn tunnel peer hmem => exact h.openConn hissued hmem peer
  | addIn g n hmem => exact h.addIn hmem n hissued
  | addOut g n hmem => exact h.addOut hmem n hissued
  | dropConn g hmem => exact h.dropConn hmem hissued
  | deregisterClient id reason =>
      obtain ⟨hcells, hcounters, _, harc⟩ := l.state.deregisterClient_cells id reason
      exact h.congr rfl hcounters hcells harc rfl rfl rfl rfl rfl

/-- The balance holds after every run in which no id counter has wrapped. -/
theorem run_balanced {ops : List RegistryOp} (hrun : run ops = some l) (hbounded : l.Bounded) :
    l.Balanced := by
  refine Transition.run_induction (P := fun _ l => l.Bounded → l.Balanced)
    (fun _ => init_balanced) ?_ hrun hbounded
  intro ops op mid l' hmid ih hstep hbounded
  have heffect := step_effect hstep
  have hmidBounded := hbounded.of_effect heffect
  exact heffect.balanced (ih hmidBounded) (run_lawful hmid hmidBounded).issued

/-! ## What a read of the totals reports -/

theorem openBytes_guardsOn (counter : Nat → UInt64) (t : TunnelEntry) :
    openBytes l.guards counter t.arc =
      ((l.guardsOn t).map fun g => (counter g.conn.arc).toNat).sum := by
  unfold openBytes guardsOn
  induction l.guards with
  | nil => rfl
  | cons g guards ih =>
      by_cases h : g.tunnel.arc = t.arc
      · simp [h, ih]
      · simp [h, ih]

/-- A tunnel's own map holds the conns of its guards. -/
theorem Lawful.cell_perm (h : l.Lawful) (t : TunnelEntry) :
    ((l.state.tunnelCells t.arc).conns.entries.map (·.2)).Perm
      ((l.guardsOn t).map (·.conn)) := by
  have hkeys : ((l.state.tunnelCells t.arc).conns.entries.map fun e => e.2.id).Nodup := by
    have hsame : ((l.state.tunnelCells t.arc).conns.entries.map fun e => e.2.id)
        = (l.state.tunnelCells t.arc).conns.keys := by
      apply List.map_congr_left
      intro e he
      obtain ⟨_, _, _, _, hid⟩ := h.held.celled _ _ _ (AList.mem_lookup_iff.mpr he)
      exact hid
    rw [hsame]
    exact AList.keys_nodup _
  have hconns : ((l.guardsOn t).map (·.conn)).Nodup := by
    apply List.Nodup.of_map ConnEntry.id
    rw [List.map_map]
    exact h.issued.connIds.nodup.sublist (List.filter_sublist.map _)
  rw [List.perm_ext_iff_of_nodup ?_ hconns]
  · intro conn
    simp only [List.mem_map, guardsOn, List.mem_filter, beq_iff_eq]
    constructor
    · rintro ⟨e, he, rfl⟩
      obtain ⟨g, hg, harc, hconn, _⟩ := h.held.celled _ _ _ (AList.mem_lookup_iff.mpr he)
      exact ⟨g, ⟨hg, harc⟩, hconn⟩
    · rintro ⟨g, ⟨hg, harc⟩, rfl⟩
      have hcell := h.held.inCell g hg
      rw [harc] at hcell
      exact ⟨⟨g.conn.id, g.conn⟩, AList.mem_lookup_iff.mp hcell, rfl⟩
  · apply List.Nodup.of_map ConnEntry.id
    rwa [List.map_map]

/-- A sum over a tunnel's own map is a sum over its guards. -/
theorem Lawful.sum_cell (h : l.Lawful) (t : TunnelEntry) (f : ConnEntry → UInt64) :
    ((l.state.tunnelCells t.arc).conns.entries.map fun e => f e.2).sum =
      ((l.guardsOn t).map fun g => f g.conn).sum := by
  have hperm := ((h.cell_perm t).map f).sum_eq
  simpa only [List.map_map, Function.comp_def] using hperm

/-- The totals of a tunnel report what was asked of the registry. -/
structure TunnelAccounted (l : Ledger) (t : TunnelEntry) : Prop where
  bytesIn : (l.state.tunnelTotals t).activeIn.toNat +
    (l.state.tunnelTotals t).cumulativeIn.toNat = l.bytesIn t.arc
  bytesOut : (l.state.tunnelTotals t).activeOut.toNat +
    (l.state.tunnelTotals t).cumulativeOut.toNat = l.bytesOut t.arc
  totalConns : (l.state.tunnelTotals t).totalConns.toNat = l.openedOn t.arc
  activeConns : (l.state.tunnelTotals t).activeConns.toNat = (l.guardsOn t).length

/-- The bytes of one direction, as reported. -/
theorem Lawful.active_add_cumulative (h : l.Lawful) (t : TunnelEntry)
    {counter cumulative : Nat → UInt64} {bytes : Nat → Nat}
    (hbalance : Balance l.guards counter cumulative bytes) (hlt : bytes t.arc < 2 ^ 64) :
    ((l.state.tunnelCells t.arc).conns.entries.map fun e => counter e.2.arc).sum.toNat +
      (cumulative t.arc).toNat = bytes t.arc := by
  have hbytes := hbalance t.arc hlt
  rw [openBytes_guardsOn] at hbytes
  rw [h.sum_cell t fun conn => counter conn.arc, toNat_sum]
  · simpa only [List.map_map, Function.comp_def] using hbytes
  · simp only [List.map_map, Function.comp_def]
    omega

/-- A tunnel has no more conns than the server. -/
theorem Balanced.openedOn_le (h : l.Balanced) (ht : t ∈ l.tunnels) :
    l.openedOn t.arc ≤ l.opened := by
  rw [← h.opened]
  exact List.le_sum_of_mem (List.mem_map_of_mem (f := fun t => l.openedOn t.arc) ht)

theorem tunnelAccounted (h : l.Lawful) (hbalanced : l.Balanced) (hbounded : l.Bounded)
    (ht : t ∈ l.tunnels) (hin : l.bytesIn t.arc < 2 ^ 64) (hout : l.bytesOut t.arc < 2 ^ 64) :
    l.TunnelAccounted t where
  bytesIn := by
    simpa only [ServerState.tunnelTotals, List.map_map, Function.comp_def] using
      h.active_add_cumulative t hbalanced.inbound hin
  bytesOut := by
    simpa only [ServerState.tunnelTotals, List.map_map, Function.comp_def] using
      h.active_add_cumulative t hbalanced.outbound hout
  totalConns := by
    have hle := hbalanced.openedOn_le ht
    have hlt := hbounded.2
    simp only [ServerState.tunnelTotals]
    rw [hbalanced.totalConns, UInt64.toNat_ofNat', Nat.mod_eq_of_lt (by omega)]
  activeConns := by
    have hle := hbalanced.openedOn_le ht
    have hactive := hbalanced.active t.arc
    have hlt := hbounded.2
    have hlength := (h.cell_perm t).length_eq
    rw [List.length_map, List.length_map] at hlength
    simp only [ServerState.tunnelTotals]
    rw [hlength, UInt64.toNat_ofNat', Nat.mod_eq_of_lt]
    exact Nat.lt_of_le_of_lt hactive (by omega)

/-! ## Totals of a client -/

/-- The tunnels in a client's own map. -/
def own (l : Ledger) (client : ClientEntry) : List TunnelEntry :=
  (l.state.clientTunnels client.arc).entries.map (·.2)

theorem mem_own :
    t ∈ l.own client ↔ ∃ id, (l.state.clientTunnels client.arc).lookup id = some t := by
  simp only [own, List.mem_map]
  constructor
  · rintro ⟨e, he, rfl⟩
    exact ⟨e.1, AList.mem_lookup_iff.mpr he⟩
  · rintro ⟨id, ht⟩
    exact ⟨⟨id, t⟩, AList.mem_lookup_iff.mp ht, rfl⟩

theorem Lawful.own_subset (h : l.Lawful) (client : ClientEntry) : l.own client ⊆ l.tunnels := by
  intro t ht
  obtain ⟨id, hlookup⟩ := mem_own.mp ht
  exact (h.owned.own _ _ _ hlookup).2.1

theorem Lawful.own_nodup (h : l.Lawful) (client : ClientEntry) : (l.own client).Nodup := by
  apply List.Nodup.of_map TunnelEntry.id
  have hsame : (l.own client).map TunnelEntry.id
      = (l.state.clientTunnels client.arc).keys := by
    rw [own, List.map_map]
    apply List.map_congr_left
    intro e he
    exact (h.owned.own _ _ _ (AList.mem_lookup_iff.mpr he)).1
  rw [hsame]
  exact AList.keys_nodup _

/-- One entry of a client's totals is the sum over its tunnels, if that is
bounded by a sum that does not wrap. -/
theorem toNat_sum_own {part : TunnelEntry → UInt64} {bound : TunnelEntry → Nat}
    (hle : ∀ t ∈ l.own client, (part t).toNat ≤ bound t)
    (hlt : ((l.own client).map bound).sum < 2 ^ 64) :
    ((l.own client).map part).sum.toNat = ((l.own client).map fun t => (part t).toNat).sum := by
  have hsum : ((l.own client).map fun t => (part t).toNat).sum ≤ ((l.own client).map bound).sum :=
    List.sum_le_sum hle
  rw [toNat_sum, List.map_map]
  · rfl
  · rw [List.map_map]
    exact Nat.lt_of_le_of_lt hsum hlt

/-- The totals of a client are the sums of those of its tunnels. -/
structure ClientAccounted (l : Ledger) (client : ClientEntry) : Prop where
  activeIn : (l.state.clientTotals client).activeIn.toNat =
    ((l.own client).map fun t => (l.state.tunnelTotals t).activeIn.toNat).sum
  activeOut : (l.state.clientTotals client).activeOut.toNat =
    ((l.own client).map fun t => (l.state.tunnelTotals t).activeOut.toNat).sum
  cumulativeIn : (l.state.clientTotals client).cumulativeIn.toNat =
    ((l.own client).map fun t => (l.state.tunnelTotals t).cumulativeIn.toNat).sum
  cumulativeOut : (l.state.clientTotals client).cumulativeOut.toNat =
    ((l.own client).map fun t => (l.state.tunnelTotals t).cumulativeOut.toNat).sum
  activeConns : (l.state.clientTotals client).activeConns.toNat =
    ((l.own client).map fun t => (l.state.tunnelTotals t).activeConns.toNat).sum
  totalConns : (l.state.clientTotals client).totalConns.toNat =
    ((l.own client).map fun t => (l.state.tunnelTotals t).totalConns.toNat).sum

/-- Bytes counted on the tunnels of a client. -/
def clientBytesIn (l : Ledger) (client : ClientEntry) : Nat :=
  ((l.own client).map fun t => l.bytesIn t.arc).sum

def clientBytesOut (l : Ledger) (client : ClientEntry) : Nat :=
  ((l.own client).map fun t => l.bytesOut t.arc).sum

section Client

variable (h : l.Lawful) (hbalanced : l.Balanced) (hbounded : l.Bounded) {client : ClientEntry}
  (hin : l.clientBytesIn client < 2 ^ 64) (hout : l.clientBytesOut client < 2 ^ 64)

include h hbalanced hbounded hin hout

/-- Each tunnel of the client is accounted for. -/
theorem tunnelAccounted_of_own (ht : t ∈ l.own client) : l.TunnelAccounted t := by
  refine tunnelAccounted h hbalanced hbounded (h.own_subset client ht) ?_ ?_
  · exact Nat.lt_of_le_of_lt (List.le_sum_of_mem
      (List.mem_map_of_mem (f := fun t => l.bytesIn t.arc) ht)) hin
  · exact Nat.lt_of_le_of_lt (List.le_sum_of_mem
      (List.mem_map_of_mem (f := fun t => l.bytesOut t.arc) ht)) hout

theorem clientAccounted : l.ClientAccounted client := by
  have htunnel := fun t ht => tunnelAccounted_of_own h hbalanced hbounded hin hout (t := t) ht
  have hconns : ((l.own client).map fun t => l.openedOn t.arc).sum < 2 ^ 64 := by
    have hle := sum_map_le_of_subset (h.own_nodup client) (h.own_subset client)
      fun t => l.openedOn t.arc
    rw [hbalanced.opened] at hle
    exact Nat.lt_of_le_of_lt hle hbounded.2
  have hentry : ∀ (part : ServerState.Totals → UInt64) (bound : TunnelEntry → Nat),
      (∀ t ∈ l.own client, (part (l.state.tunnelTotals t)).toNat ≤ bound t) →
      ((l.own client).map bound).sum < 2 ^ 64 →
      (((l.state.clientTunnels client.arc).entries.map fun e => l.state.tunnelTotals e.2).map
        part).sum.toNat =
        ((l.own client).map fun t => (part (l.state.tunnelTotals t)).toNat).sum := by
    intro part bound hle hlt
    rw [← toNat_sum_own hle hlt]
    simp [own, Function.comp_def]
  constructor
  · exact hentry (·.activeIn) _ (fun t ht => (htunnel t ht).bytesIn ▸ Nat.le_add_right _ _) hin
  · exact hentry (·.activeOut) _ (fun t ht => (htunnel t ht).bytesOut ▸ Nat.le_add_right _ _)
      hout
  · exact hentry (·.cumulativeIn) _ (fun t ht => (htunnel t ht).bytesIn ▸ Nat.le_add_left _ _)
      hin
  · exact hentry (·.cumulativeOut) _ (fun t ht => (htunnel t ht).bytesOut ▸ Nat.le_add_left _ _)
      hout
  · exact hentry (·.activeConns) _
      (fun t ht => (htunnel t ht).activeConns ▸ hbalanced.active t.arc) hconns
  · exact hentry (·.totalConns) _ (fun t ht => Nat.le_of_eq (htunnel t ht).totalConns) hconns

end Client

/-! ## Nothing reported goes down -/

/-- What the registry was asked only grows. -/
structure Grows (l l' : Ledger) : Prop where
  tunnels : l.tunnels ⊆ l'.tunnels
  own : ∀ client, l.own client ⊆ l'.own client
  bytesIn : ∀ arc, l.bytesIn arc ≤ l'.bytesIn arc
  bytesOut : ∀ arc, l.bytesOut arc ≤ l'.bytesOut arc
  openedOn : ∀ arc, l.openedOn arc ≤ l'.openedOn arc

theorem Grows.refl (l : Ledger) : Grows l l :=
  ⟨List.Subset.refl _, fun _ => List.Subset.refl _, fun _ => Nat.le_refl _,
    fun _ => Nat.le_refl _, fun _ => Nat.le_refl _⟩

theorem Grows.trans {mid : Ledger} (h : Grows l mid) (h' : Grows mid l') : Grows l l' where
  tunnels := List.Subset.trans h.tunnels h'.tunnels
  own client := List.Subset.trans (h.own client) (h'.own client)
  bytesIn arc := (h.bytesIn arc).trans (h'.bytesIn arc)
  bytesOut arc := (h.bytesOut arc).trans (h'.bytesOut arc)
  openedOn arc := (h.openedOn arc).trans (h'.openedOn arc)

theorem le_credit (count : Nat → Nat) (arc n other : Nat) :
    count other ≤ credit count arc n other := by
  rw [credit_apply]
  exact Nat.le_add_right _ _

theorem Lawful.grows_addTunnel (h : l.Lawful) (client : ClientEntry) (request : RemoteRequest)
    (hlt : l.tunnels.length + 1 < 2 ^ 64) : Grows l (l.addTunnel client request) where
  tunnels := List.subset_append_left _ _
  own other := by
    intro t ht
    obtain ⟨id, hlookup⟩ := mem_own.mp ht
    obtain ⟨rfl, hmem, _⟩ := h.owned.own _ _ _ hlookup
    refine mem_own.mpr ⟨t.id, ?_⟩
    rw [addTunnel_own, if_neg fun hboth => h.issued.tunnel_fresh hlt hmem hboth.2, hlookup]
  bytesIn _ := Nat.le_refl _
  bytesOut _ := Nat.le_refl _
  openedOn _ := Nat.le_refl _

theorem Lawful.grows_foldl_addTunnel (h : l.Lawful) {clientId : UInt64}
    (hclient : l.state.clients.lookup clientId = some client) (requests : List RemoteRequest)
    (hlt : l.tunnels.length + requests.length < 2 ^ 64) :
    Grows l (requests.foldl (Ledger.addTunnel client) l) := by
  induction requests generalizing l with
  | nil => exact .refl l
  | cons request requests ih =>
      rw [List.length_cons] at hlt
      refine (h.grows_addTunnel client request (by omega)).trans
        (ih (h.addTunnel hclient (by omega)) hclient ?_)
      rw [addTunnel_tunnels, List.length_append, List.length_singleton]
      omega

theorem Effect.grows (h : l.Lawful) (heffect : Effect l l') (hbounded : l'.Bounded) :
    Grows l l' := by
  cases heffect with
  | registerTunnels id client requests hclient =>
      have hlt := hbounded.1
      rw [length_foldl_addTunnel] at hlt
      exact h.grows_foldl_addTunnel hclient requests hlt
  | openConn tunnel peer hmem =>
      exact { Grows.refl l with openedOn := le_credit l.openedOn tunnel.arc 1 }
  | addIn g n hmem =>
      rw [ServerState.addIn_counters]
      exact { Grows.refl l with bytesIn := le_credit l.bytesIn g.tunnel.arc n.toNat }
  | addOut g n hmem =>
      rw [ServerState.addOut_counters]
      exact { Grows.refl l with bytesOut := le_credit l.bytesOut g.tunnel.arc n.toNat }
  | deregisterClient id reason =>
      refine { Grows.refl l with own := fun client => ?_ }
      rw [own, own, (l.state.deregisterClient_frame id reason).2.1]
      exact List.Subset.refl _
  | registerClient | dropConn => exact { Grows.refl l with }

/-- So it does over a run. -/
theorem run_grows {ops more : List RegistryOp} (hrun : run ops = some l)
    (hmore : Transition.run step l more = some l') (hbounded : l'.Bounded) :
    l'.Lawful ∧ l'.Balanced ∧ Grows l l' := by
  have hall : run (ops ++ more) = some l' := Transition.run_append_eq_some.mpr ⟨l, hrun, hmore⟩
  refine ⟨run_lawful hall hbounded, run_balanced hall hbounded, ?_⟩
  refine Transition.run_induction (P := fun _ l' => l'.Bounded → Grows l l')
    (fun _ => .refl l) ?_ hmore hbounded
  intro before op mid next hmid ih hstep hbounded
  have heffect := step_effect hstep
  have hmidBounded := hbounded.of_effect heffect
  have hmidRun : run (ops ++ before) = some mid :=
    Transition.run_append_eq_some.mpr ⟨l, hrun, hmid⟩
  exact (ih hmidBounded).trans
    (heffect.grows (run_lawful hmidRun hmidBounded) hbounded)

end Ledger

/-- What a read reports of bytes and conns is at most what a later one does. -/
structure ServerState.Totals.NotAbove (now later : ServerState.Totals) : Prop where
  bytesIn : now.activeIn.toNat + now.cumulativeIn.toNat ≤
    later.activeIn.toNat + later.cumulativeIn.toNat
  bytesOut : now.activeOut.toNat + now.cumulativeOut.toNat ≤
    later.activeOut.toNat + later.cumulativeOut.toNat
  totalConns : now.totalConns.toNat ≤ later.totalConns.toNat

namespace Ledger

variable {l l' : Ledger}

theorem TunnelAccounted.notAbove (h : l.TunnelAccounted t) (h' : l'.TunnelAccounted t)
    (hgrows : Grows l l') : (l.state.tunnelTotals t).NotAbove (l'.state.tunnelTotals t) where
  bytesIn := by
    rw [h.bytesIn, h'.bytesIn]
    exact hgrows.bytesIn t.arc
  bytesOut := by
    rw [h.bytesOut, h'.bytesOut]
    exact hgrows.bytesOut t.arc
  totalConns := by
    rw [h.totalConns, h'.totalConns]
    exact hgrows.openedOn t.arc

/-- What a client's totals report is what was counted on its tunnels. -/
theorem ClientAccounted.reported (h : l.ClientAccounted client)
    (htunnels : ∀ t ∈ l.own client, l.TunnelAccounted t) :
    (l.state.clientTotals client).activeIn.toNat +
        (l.state.clientTotals client).cumulativeIn.toNat = l.clientBytesIn client ∧
      (l.state.clientTotals client).activeOut.toNat +
        (l.state.clientTotals client).cumulativeOut.toNat = l.clientBytesOut client ∧
      (l.state.clientTotals client).totalConns.toNat =
        ((l.own client).map fun t => l.openedOn t.arc).sum := by
  refine ⟨?_, ?_, ?_⟩
  · rw [h.activeIn, h.cumulativeIn, ← List.sum_map_add, clientBytesIn]
    exact congrArg List.sum (List.map_congr_left fun t ht => (htunnels t ht).bytesIn)
  · rw [h.activeOut, h.cumulativeOut, ← List.sum_map_add, clientBytesOut]
    exact congrArg List.sum (List.map_congr_left fun t ht => (htunnels t ht).bytesOut)
  · rw [h.totalConns]
    exact congrArg List.sum (List.map_congr_left fun t ht => (htunnels t ht).totalConns)

/-- A sum over a client's tunnels grows with the ledger. -/
theorem Grows.sum_own (hgrows : Grows l l') (h : l.Lawful) (client : ClientEntry)
    {count count' : Nat → Nat} (hle : ∀ arc, count arc ≤ count' arc) :
    ((l.own client).map fun t => count t.arc).sum ≤
      ((l'.own client).map fun t => count' t.arc).sum :=
  (List.sum_le_sum fun t _ => hle t.arc).trans
    (sum_map_le_of_subset (h.own_nodup client) (hgrows.own client) fun t => count' t.arc)

end Ledger

/-- Accounting is conserved over every sequence of calls with fewer than
`2 ^ 64` conns and tunnels.  At every point of the sequence, and for every tunnel
and client whose bytes stay below `2 ^ 64`, the totals report exactly the bytes
counted, the conns opened and the conns open; a client's totals are the sums of
its tunnels'; and no later read reports less. -/
theorem accounting_conserved {ops more : List RegistryOp} {l l' : Ledger}
    (hrun : Ledger.run ops = some l) (hmore : Transition.run Ledger.step l more = some l')
    (hbounded : l'.Bounded) :
    (∀ t ∈ l.tunnels, l'.bytesIn t.arc < 2 ^ 64 → l'.bytesOut t.arc < 2 ^ 64 →
      l.TunnelAccounted t ∧ (l.state.tunnelTotals t).NotAbove (l'.state.tunnelTotals t)) ∧
    (∀ client, l'.clientBytesIn client < 2 ^ 64 → l'.clientBytesOut client < 2 ^ 64 →
      l.ClientAccounted client ∧
        (l.state.clientTotals client).NotAbove (l'.state.clientTotals client)) := by
  have hbounded₀ := hbounded.of_run hmore
  have h₀ := Ledger.run_lawful hrun hbounded₀
  have hbalanced₀ := Ledger.run_balanced hrun hbounded₀
  obtain ⟨h, hbalanced, hgrows⟩ := Ledger.run_grows hrun hmore hbounded
  constructor
  · intro t ht hin hout
    have hnow := Ledger.tunnelAccounted h₀ hbalanced₀ hbounded₀ ht
      (Nat.lt_of_le_of_lt (hgrows.bytesIn _) hin) (Nat.lt_of_le_of_lt (hgrows.bytesOut _) hout)
    have hlater := Ledger.tunnelAccounted h hbalanced hbounded (hgrows.tunnels ht) hin hout
    exact ⟨hnow, hnow.notAbove hlater hgrows⟩
  · intro client hin hout
    have hleIn := hgrows.sum_own h₀ client hgrows.bytesIn
    have hleOut := hgrows.sum_own h₀ client hgrows.bytesOut
    have hin₀ : l.clientBytesIn client < 2 ^ 64 := Nat.lt_of_le_of_lt hleIn hin
    have hout₀ : l.clientBytesOut client < 2 ^ 64 := Nat.lt_of_le_of_lt hleOut hout
    have hnow := Ledger.clientAccounted h₀ hbalanced₀ hbounded₀ hin₀ hout₀
    obtain ⟨hnowIn, hnowOut, hnowConns⟩ := hnow.reported fun _ =>
      Ledger.tunnelAccounted_of_own h₀ hbalanced₀ hbounded₀ hin₀ hout₀
    obtain ⟨hlaterIn, hlaterOut, hlaterConns⟩ :=
      (Ledger.clientAccounted h hbalanced hbounded hin hout).reported fun _ =>
        Ledger.tunnelAccounted_of_own h hbalanced hbounded hin hout
    refine ⟨hnow, ?_, ?_, ?_⟩
    · rw [hnowIn, hlaterIn]
      exact hleIn
    · rw [hnowOut, hlaterOut]
      exact hleOut
    · rw [hnowConns, hlaterConns]
      exact hgrows.sum_own h₀ client hgrows.openedOn

/-- A tunnel with one conn that has received 12 bytes and is then closed. -/
theorem accounting_conserved_sample :
    ∃ l l', Ledger.run (Ledger.firstConn ++ [.addIn 1 12]) = some l ∧
      Transition.run Ledger.step l [.dropGuard 1] = some l' ∧
      ∀ t ∈ l.tunnels, t.arc = 0 →
        (l.state.tunnelTotals t).NotAbove (l'.state.tunnelTotals t) := by
  have hcheck : ((Ledger.run (Ledger.firstConn ++ [.addIn 1 12])).any fun l =>
      (Transition.run Ledger.step l [.dropGuard 1]).any fun l' =>
        decide (l'.Bounded ∧ l'.bytesIn 0 < 2 ^ 64 ∧ l'.bytesOut 0 < 2 ^ 64)) = true := by
    decide +kernel
  obtain ⟨l, hrun, hl⟩ := (Option.any_eq_true _ _).mp hcheck
  obtain ⟨l', hmore, hl'⟩ := (Option.any_eq_true _ _).mp hl
  obtain ⟨hbounded, hin, hout⟩ := of_decide_eq_true hl'
  refine ⟨l, l', hrun, hmore, fun t ht harc => ?_⟩
  exact ((accounting_conserved hrun hmore hbounded).1 t ht (harc ▸ hin) (harc ▸ hout)).2

/-- After `2 ^ 64` conns on one tunnel, none of which has moved a byte, the
count of the conns has wrapped to zero. -/
theorem totalConns_wrapped :
    ∃ ops l, Ledger.run ops = some l ∧ ∃ t ∈ l.tunnels,
      l.bytesIn t.arc = 0 ∧ l.bytesOut t.arc = 0 ∧ l.openedOn t.arc = 2 ^ 64 ∧
        (l.state.tunnelTotals t).totalConns = 0 := by
  obtain ⟨l, g, hrun, hfirst⟩ := Ledger.run_firstConn
  obtain ⟨l', hmore, hmany⟩ :=
    Ledger.run_openConns hfirst.tunnel hfirst.allocated (2 ^ 64 - 1)
  refine ⟨Ledger.firstConn ++ List.replicate (2 ^ 64 - 1) (.registerConn g.tunnel.arc none), l',
    Transition.run_append_eq_some.mpr ⟨l, hrun, hmore⟩, g.tunnel,
    hmany.tunnels ▸ List.mem_of_find?_eq_some hfirst.tunnel, ?_, ?_, ?_, ?_⟩
  · rw [hmany.bytes.1, hfirst.bytes.1]
  · rw [hmany.bytes.2, hfirst.bytes.2]
  · have hopened := hmany.openedOn
    have hone := hfirst.openedOn
    omega
  · change (l'.state.tunnelCells g.tunnel.arc).totalConns = 0
    rw [hmany.totalConns, hfirst.totalConns]
    decide

end Server
end Rusnel
