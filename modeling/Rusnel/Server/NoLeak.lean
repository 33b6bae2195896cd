import Rusnel.Server.Ledger

/-!
# No leak in the registry

What the indices of the registry hold after any sequence of calls, as long as
no id counter has wrapped, and what goes wrong when the counter of the conns has.

Main results:

- Theorem {lit}`no_leak`: the global indices hold exactly what is registered and
  open, so nothing is left once every guard is dropped and every client gone.
- Theorem {lit}`leak_wrappedOps`: after `2 ^ 64` further conns an open conn is
  taken out of the indices by another one with the same id.
-/

namespace Rusnel
namespace Server

/-- The global indices hold what is open and what is registered, no more and no
less. -/
structure Ledger.NoLeak (l : Ledger) : Prop where
  /-- An indexed conn belongs to a guard that has not been dropped. -/
  conns : ∀ id conn, l.state.conns.lookup id = some conn →
    ∃ g ∈ l.guards, g.conn = conn ∧ g.conn.id = id
  /-- An indexed tunnel is in the own map of a registered client. -/
  tunnels : ∀ id t, l.state.tunnels.lookup id = some t →
    ∃ client, l.state.clients.lookup t.clientId = some client ∧
      (l.state.clientTunnels client.arc).lookup id = some t
  /-- Every tunnel in the own map of a registered client is indexed. -/
  own : ∀ clientId client id t, l.state.clients.lookup clientId = some client →
    (l.state.clientTunnels client.arc).lookup id = some t →
    l.state.tunnels.lookup id = some t
  /-- An open conn of a registered tunnel is in the tunnel's map and indexed. -/
  held : ∀ g ∈ l.guards, l.state.tunnels.lookup g.tunnel.id = some g.tunnel →
    (l.state.tunnelCells g.tunnel.arc).conns.lookup g.conn.id = some g.conn ∧
      l.state.conns.lookup g.conn.id = some g.conn
  /-- Nothing is left when every guard is dropped and every client gone. -/
  empty : l.guards = [] → l.state.clients = ∅ → l.state.tunnels = ∅ ∧ l.state.conns = ∅

/-- After every sequence of calls that has drawn fewer than `2 ^ 64` tunnel ids
and fewer than `2 ^ 64` conn ids, nothing has leaked. -/
theorem no_leak {ops : List RegistryOp} {l : Ledger} (hrun : Ledger.run ops = some l)
    (hbounded : l.Bounded) : l.NoLeak := by
  have h := Ledger.run_lawful hrun hbounded
  refine ⟨?_, h.owned.indexed, h.owned.listed, ?_, ?_⟩
  · intro id conn hconn
    obtain ⟨g, hg, rfl, hid⟩ := h.held.indexed id conn hconn
    exact ⟨g, hg, rfl, hid⟩
  · intro g hg hreg
    exact ⟨h.held.inCell g hg, h.held.inIndex g hg hreg⟩
  · intro hguards hclients
    constructor
    · apply Table.eq_empty
      intro id t ht
      obtain ⟨client, hclient, _⟩ := h.owned.indexed id t ht
      simp [hclients] at hclient
    · apply Table.eq_empty
      intro id conn hconn
      obtain ⟨g, hg, _⟩ := h.held.indexed id conn hconn
      simp [hguards] at hg

/-- A client registers a tunnel and opens a conn, goes while the conn is open,
and a handler opens another one; both are dropped in the end. -/
def sampleOps : List RegistryOp :=
  [.registerClient 7 (.v4 .localhost 50000), .registerTunnels 7 [Ledger.sampleRequest],
    .registerConn 0 none, .addIn 1 12, .deregisterClient 7 "gone", .registerConn 0 none,
    .dropGuard 1, .dropGuard 2]

/-- After the sample run the indices are empty. -/
theorem no_leak_sampleOps :
    ∃ l, Ledger.run sampleOps = some l ∧ l.state.tunnels = ∅ ∧ l.state.conns = ∅ := by
  have hcheck : ((Ledger.run sampleOps).any fun l =>
      decide (l.Bounded ∧ l.guards = [] ∧ l.state.clients.entries = [])) = true := by
    decide +kernel
  obtain ⟨l, hrun, hl⟩ := (Option.any_eq_true _ _).mp hcheck
  obtain ⟨hbounded, hguards, hclients⟩ := of_decide_eq_true hl
  exact ⟨l, hrun, (no_leak hrun hbounded).empty hguards (AList.ext hclients)⟩

/-! ## What a wrapped counter does -/

/-- With the first conn open and its tunnel registered, `2 ^ 64` further conns
are opened and the last one of them is dropped. -/
def wrappedOps : List RegistryOp :=
  Ledger.firstConn ++ (List.replicate (2 ^ 64 - 1) (.registerConn 0 none) ++
    [.registerConn 0 none, .dropGuard (2 ^ 64 + 1)])

/-- The last conn has the id of the first one, so dropping it takes the first
conn out of both maps. -/
theorem leak_wrappedOps : ∃ l, Ledger.run wrappedOps = some l ∧ ¬l.NoLeak := by
  obtain ⟨l, g, hrun, hfirst⟩ := Ledger.run_firstConn
  obtain ⟨l', hrun', hmany⟩ :=
    Ledger.run_openConns hfirst.tunnel hfirst.allocated (2 ^ 64 - 1)
  have hgmem : g ∈ l'.guards := hmany.kept g (by simp [hfirst.guards])
  -- The counter has wrapped: the next conn gets the first one's id.
  have hwrap : (l'.nextConn g.tunnel none).id = g.conn.id := by
    change l'.state.nextConnId + 1 = g.conn.id
    rw [hmany.nextConnId, hfirst.nextConnId, hfirst.connId]
    decide
  have hlastArc : (l'.nextConn g.tunnel none).arc = 2 ^ 64 + 1 := by
    have hnext := hmany.nextArc
    have hfirstNext := hfirst.nextArc
    change l'.state.nextArc = 2 ^ 64 + 1
    omega
  have hlast : (l'.openConn g.tunnel none).guard? (2 ^ 64 + 1)
      = some ⟨g.tunnel, l'.nextConn g.tunnel none⟩ := by
    have hnone : l'.guards.find? (fun other => other.conn.arc == 2 ^ 64 + 1) = none := by
      rw [List.find?_eq_none]
      intro other hother
      have hlt := hmany.allocated other hother
      have hnextArc : l'.state.nextArc = 2 ^ 64 + 1 := hlastArc
      simp only [beq_iff_eq]
      omega
    rw [Ledger.guard?, Ledger.openConn_guards, List.find?_append, hnone]
    simp [hlastArc]
  have htunnel' : l'.tunnel? 0 = some g.tunnel := by
    rw [Ledger.tunnel?, hmany.tunnels, ← hfirst.tunnelArc]
    exact hfirst.tunnel
  refine ⟨(l'.openConn g.tunnel none).dropConn ⟨g.tunnel, l'.nextConn g.tunnel none⟩, ?_, ?_⟩
  · rw [wrappedOps, Ledger.run, Transition.run_append_eq_some]
    refine ⟨l, hrun, ?_⟩
    rw [Transition.run_append_eq_some]
    refine ⟨l', hfirst.tunnelArc ▸ hrun', ?_⟩
    simp only [Transition.run_cons, Transition.run_nil, Ledger.step, htunnel', hlast,
      Option.map_some, Option.bind_some]
  · intro hleak
    have hmem : g ∈ ((l'.openConn g.tunnel none).dropConn
        ⟨g.tunnel, l'.nextConn g.tunnel none⟩).guards := by
      refine Ledger.mem_dropConn.mpr ⟨Ledger.mem_openConn.mpr (.inl hgmem), ?_⟩
      rw [hlastArc, hfirst.connArc]
      decide
    have hheld := (hleak.held g hmem (hmany.index ▸ hfirst.index)).2
    rw [Ledger.dropConn_index, if_pos hwrap.symm] at hheld
    cases hheld

end Server
end Rusnel
