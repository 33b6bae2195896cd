import Rusnel.Foundation.Transition
import Rusnel.Server.State

/-!
# Registry calls step by step

Registering a conn, closing it and rolling up a client's totals are each a
sequence of operations on shared maps and atomics, and other tasks run between
any two of them.  Here every such operation is a step of its own: one client
with its tunnels, any number of conns on them, and one roll-up.

Main results:

- Theorem {lit}`registerConn_steps`, {lit}`closeConn_steps`: the steps of a call
  without interruption make up the call.
- Theorem {lit}`rollUp_alone`: so do the steps of a roll-up.
-/

namespace Rusnel
namespace Server

/-! ## The operations of the calls -/

namespace ServerState

/-- Replace the mutable part of a tunnel record. -/
def updateCell (st : ServerState) (tunnel : TunnelEntry) (f : TunnelCell → TunnelCell) :
    ServerState :=
  { st with
    tunnelCells := Function.update st.tunnelCells tunnel.arc (f (st.tunnelCells tunnel.arc)) }

/-- Draw a conn id and make its record. -/
def allocConn (st : ServerState) (tunnel : TunnelEntry) (peer : Option String) :
    ServerState × ConnEntry :=
  let id := st.nextConnId + 1
  ({ st with nextConnId := id, nextArc := st.nextArc + 1 },
    ⟨id, tunnel.id, tunnel.clientId, peer, st.nextArc⟩)

/-- `tunnel.conns.insert` -/
def listConn (st : ServerState) (tunnel : TunnelEntry) (conn : ConnEntry) : ServerState :=
  st.updateCell tunnel fun cell => { cell with conns := cell.conns.insert conn.id conn }

/-- `conns.insert` -/
def indexConn (st : ServerState) (conn : ConnEntry) : ServerState :=
  { st with conns := st.conns.insert conn.id conn }

/-- `total_conns.fetch_add` -/
def bumpTotal (st : ServerState) (tunnel : TunnelEntry) : ServerState :=
  st.updateCell tunnel fun cell => { cell with totalConns := cell.totalConns + 1 }

/-- `cumulative_in.fetch_add` -/
def foldIn (st : ServerState) (tunnel : TunnelEntry) (n : UInt64) : ServerState :=
  st.updateCell tunnel fun cell => { cell with cumulativeIn := cell.cumulativeIn + n }

/-- `cumulative_out.fetch_add` -/
def foldOut (st : ServerState) (tunnel : TunnelEntry) (n : UInt64) : ServerState :=
  st.updateCell tunnel fun cell => { cell with cumulativeOut := cell.cumulativeOut + n }

/-- `tunnel.conns.remove` -/
def unlistConn (st : ServerState) (tunnel : TunnelEntry) (conn : ConnEntry) : ServerState :=
  st.updateCell tunnel fun cell => { cell with conns := cell.conns.erase conn.id }

/-- `conns.remove` -/
def unindexConn (st : ServerState) (conn : ConnEntry) : ServerState :=
  { st with conns := st.conns.erase conn.id }

theorem registerConn_steps (st : ServerState) (tunnel : TunnelEntry) (peer : Option String) :
    st.registerConn tunnel peer =
      let (st, conn) := st.allocConn tunnel peer
      (((st.listConn tunnel conn).indexConn conn).bumpTotal tunnel, conn) := by
  simp [registerConn, allocConn, listConn, indexConn, bumpTotal, updateCell]

theorem closeConn_steps (st : ServerState) (tunnel : TunnelEntry) (conn : ConnEntry) :
    st.closeConn tunnel conn =
      (((st.foldIn tunnel (st.counters conn.arc).1).foldOut tunnel
        (st.counters conn.arc).2).unlistConn tunnel conn).unindexConn conn := by
  simp [closeConn, foldIn, foldOut, unlistConn, unindexConn, updateCell]

/-- No totals yet. -/
def Totals.zero : Totals :=
  ⟨0, 0, 0, 0, 0, 0⟩

/-- Add the totals of a tunnel to those of its client. -/
def Totals.add (sum tot : Totals) : Totals where
  activeIn := sum.activeIn + tot.activeIn
  activeOut := sum.activeOut + tot.activeOut
  cumulativeIn := sum.cumulativeIn + tot.cumulativeIn
  cumulativeOut := sum.cumulativeOut + tot.cumulativeOut
  activeConns := sum.activeConns + tot.activeConns
  totalConns := sum.totalConns + tot.totalConns

end ServerState

open ServerState (Totals)

/-! ## A conn task -/

/-- How far a conn task is through `register_conn` and `close_conn`. -/
inductive ConnPoint where
  /-- The id is drawn. -/
  | allocated
  /-- In the tunnel's map. -/
  | listed
  /-- In the global index too. -/
  | indexed
  /-- Registered; the task relays and counts bytes. -/
  | counting
  /-- The guard is dropped and the counters are read. -/
  | snapped (bytesIn bytesOut : UInt64)
  /-- The bytes received are added to the tunnel. -/
  | foldedIn (bytesOut : UInt64)
  /-- The bytes sent are added too. -/
  | foldedOut
  /-- Out of the tunnel's map. -/
  | unlisted
  | closed
deriving DecidableEq, Repr

/-- A conn of the client and the bytes counted on it so far. -/
structure LiveConn where
  tunnel : TunnelEntry
  conn : ConnEntry
  point : ConnPoint
  bytesIn : Nat
  bytesOut : Nat
deriving DecidableEq, Repr

/-- The next operation of a conn task on the registry. -/
def LiveConn.advance (st : ServerState) (c : LiveConn) : Option (ServerState × ConnPoint) :=
  match c.point with
  | .allocated => some (st.listConn c.tunnel c.conn, .listed)
  | .listed => some (st.indexConn c.conn, .indexed)
  | .indexed => some (st.bumpTotal c.tunnel, .counting)
  | .counting => some (st, .snapped (st.counters c.conn.arc).1 (st.counters c.conn.arc).2)
  | .snapped bytesIn bytesOut => some (st.foldIn c.tunnel bytesIn, .foldedIn bytesOut)
  | .foldedIn bytesOut => some (st.foldOut c.tunnel bytesOut, .foldedOut)
  | .foldedOut => some (st.unlistConn c.tunnel c.conn, .unlisted)
  | .unlisted => some (st.unindexConn c.conn, .closed)
  | .closed => none

/-! ## The roll-up -/

/-- What the roll-up does next on the tunnel it is visiting. -/
inductive VisitPoint where
  /-- Iterating over the tunnel's conns; these keys were there at the start. -/
  | conns (present : List UInt64)
  | cumulativeIn
  | cumulativeOut
  | activeConns
  | totalConns
deriving DecidableEq, Repr

/-- A tunnel under visit: the conns read so far, by key, and its totals. -/
structure Visit where
  tunnel : TunnelEntry
  read : List (UInt64 × ConnEntry)
  totals : Totals
  point : VisitPoint
deriving DecidableEq, Repr

/-- A roll-up of a client's totals. -/
inductive RollUp where
  | idle
  /-- These tunnels are still to be visited; with none left this is the result. -/
  | between (todo : List TunnelEntry) (sum : Totals)
  | visiting (visit : Visit) (todo : List TunnelEntry) (sum : Totals)
deriving DecidableEq, Repr

inductive RollUpAction where
  | start
  /-- Go to one of the tunnels left, in the order of the map's own iteration. -/
  | visit (i : Nat)
  /-- Read the counters of the conn under this key. -/
  | read (id : UInt64)
  /-- The next operation of the visit. -/
  | next
deriving DecidableEq, Repr

/-- The mutable part of the tunnel under visit. -/
def Visit.cell (st : ServerState) (v : Visit) : TunnelCell :=
  st.tunnelCells v.tunnel.arc

/-- Add the counters of one conn. -/
def Visit.readConn (st : ServerState) (v : Visit) (id : UInt64) (conn : ConnEntry) : Visit :=
  { v with
    read := (id, conn) :: v.read
    totals := { v.totals with
      activeIn := v.totals.activeIn + (st.counters conn.arc).1
      activeOut := v.totals.activeOut + (st.counters conn.arc).2 } }

/-- The iteration over the conns may end: each key that was there from the start
and still is has been yielded. -/
def Visit.Exhausted (st : ServerState) (v : Visit) (present : List UInt64) : Prop :=
  ∀ id ∈ present, id ∈ v.read.map Prod.fst ∨ (v.cell st).conns.lookup id = none

instance (st : ServerState) (v : Visit) (present : List UInt64) :
    Decidable (v.Exhausted st present) :=
  List.decidableBAll _ _

/-- One step of the roll-up.  It changes nothing in the registry. -/
def RollUp.step (client : ClientEntry) (st : ServerState) :
    RollUp → RollUpAction → Option RollUp
  | .idle, .start =>
      some (.between ((st.clientTunnels client.arc).entries.map fun e => e.2) .zero)
  | .between todo sum, .visit i =>
      match todo[i]? with
      | none => none
      | some tunnel =>
          let present := (st.tunnelCells tunnel.arc).conns.keys
          some (.visiting ⟨tunnel, [], .zero, .conns present⟩ (todo.eraseIdx i) sum)
  | .visiting v todo sum, .read id =>
      match v.point, (v.cell st).conns.lookup id with
      | .conns _, some conn =>
          if id ∈ v.read.map Prod.fst then none
          else some (.visiting (v.readConn st id conn) todo sum)
      | _, _ => none
  | .visiting v todo sum, .next =>
      match v.point with
      | .conns present =>
          if v.Exhausted st present then
            some (.visiting { v with point := .cumulativeIn } todo sum)
          else none
      | .cumulativeIn =>
          some (.visiting { v with
            totals := { v.totals with cumulativeIn := (v.cell st).cumulativeIn }
            point := .cumulativeOut } todo sum)
      | .cumulativeOut =>
          some (.visiting { v with
            totals := { v.totals with cumulativeOut := (v.cell st).cumulativeOut }
            point := .activeConns } todo sum)
      | .activeConns =>
          some (.visiting { v with
            totals := { v.totals with activeConns := .ofNat (v.cell st).conns.entries.length }
            point := .totalConns } todo sum)
      | .totalConns =>
          some (.between todo
            (sum.add { v.totals with totalConns := (v.cell st).totalConns }))
  | _, _ => none

/-! ## A client with its conns and one roll-up -/

structure Race where
  client : ClientEntry
  state : ServerState
  conns : List LiveConn
  rollUp : RollUp

/-- The client has connected and declared its remotes. -/
def Race.init (client : ClientEntry) (requests : List RemoteRequest) : Race where
  client := client
  state := ((ServerState.new.registerClient client).registerTunnels client requests).1
  conns := []
  rollUp := .idle

inductive RaceAction where
  /-- A task starts to register a conn on the client's tunnel with this id. -/
  | register (tunnelId : UInt64) (peer : Option String)
  /-- Conn task `k` takes its next operation. -/
  | advance (k : Nat)
  /-- Conn task `k` counts bytes received. -/
  | addIn (k : Nat) (n : UInt64)
  /-- Conn task `k` counts bytes sent. -/
  | addOut (k : Nat) (n : UInt64)
  | rollUp (a : RollUpAction)
deriving DecidableEq, Repr

/-- One step of a conn task or of the roll-up. -/
def Race.step (r : Race) : RaceAction → Option Race
  | .register tunnelId peer =>
      match (r.state.clientTunnels r.client.arc).lookup tunnelId with
      | none => none
      | some tunnel =>
          let (state, conn) := r.state.allocConn tunnel peer
          some { r with state := state, conns := r.conns ++ [⟨tunnel, conn, .allocated, 0, 0⟩] }
  | .advance k =>
      match r.conns[k]? with
      | none => none
      | some c =>
          match c.advance r.state with
          | none => none
          | some (state, point) =>
              some { r with state := state, conns := r.conns.set k { c with point := point } }
  | .addIn k n =>
      match r.conns[k]? with
      | none => none
      | some c =>
          if c.point = .counting then
            some { r with
              state := r.state.addIn c.conn n
              conns := r.conns.set k { c with bytesIn := c.bytesIn + n.toNat } }
          else none
  | .addOut k n =>
      match r.conns[k]? with
      | none => none
      | some c =>
          if c.point = .counting then
            some { r with
              state := r.state.addOut c.conn n
              conns := r.conns.set k { c with bytesOut := c.bytesOut + n.toNat } }
          else none
  | .rollUp a => (r.rollUp.step r.client r.state a).map fun rollUp => { r with rollUp := rollUp }

/-! ## Inversion of a step -/

/-- The outcomes of one step of the roll-up. -/
inductive RollUpStep (client : ClientEntry) (st : ServerState) :
    RollUp → RollUpAction → RollUp → Prop where
  | start :
      RollUpStep client st .idle .start
        (.between ((st.clientTunnels client.arc).entries.map fun e => e.2) .zero)
  | visit (todo : List TunnelEntry) (sum : Totals) (i : Nat) (tunnel : TunnelEntry)
      (present : List UInt64) (htunnel : todo[i]? = some tunnel) :
      RollUpStep client st (.between todo sum) (.visit i)
        (.visiting ⟨tunnel, [], .zero, .conns present⟩ (todo.eraseIdx i) sum)
  | read (v : Visit) (todo : List TunnelEntry) (sum : Totals) (present : List UInt64)
      (id : UInt64) (conn : ConnEntry) (hpoint : v.point = .conns present)
      (hfound : (v.cell st).conns.lookup id = some conn) (hnew : id ∉ v.read.map Prod.fst) :
      RollUpStep client st (.visiting v todo sum) (.read id)
        (.visiting (v.readConn st id conn) todo sum)
  | exhausted (v : Visit) (todo : List TunnelEntry) (sum : Totals) (present : List UInt64)
      (hpoint : v.point = .conns present) :
      RollUpStep client st (.visiting v todo sum) .next
        (.visiting { v with point := .cumulativeIn } todo sum)
  | cumulativeIn (v : Visit) (todo : List TunnelEntry) (sum : Totals)
      (hpoint : v.point = .cumulativeIn) :
      RollUpStep client st (.visiting v todo sum) .next
        (.visiting { v with
          totals := { v.totals with cumulativeIn := (v.cell st).cumulativeIn }
          point := .cumulativeOut } todo sum)
  | cumulativeOut (v : Visit) (todo : List TunnelEntry) (sum : Totals)
      (hpoint : v.point = .cumulativeOut) :
      RollUpStep client st (.visiting v todo sum) .next
        (.visiting { v with
          totals := { v.totals with cumulativeOut := (v.cell st).cumulativeOut }
          point := .activeConns } todo sum)
  | activeConns (v : Visit) (todo : List TunnelEntry) (sum : Totals)
      (hpoint : v.point = .activeConns) :
      RollUpStep client st (.visiting v todo sum) .next
        (.visiting { v with
          totals := { v.totals with activeConns := .ofNat (v.cell st).conns.entries.length }
          point := .totalConns } todo sum)
  | totalConns (v : Visit) (todo : List TunnelEntry) (sum : Totals)
      (hpoint : v.point = .totalConns) :
      RollUpStep client st (.visiting v todo sum) .next
        (.between todo (sum.add { v.totals with totalConns := (v.cell st).totalConns }))

theorem RollUp.step_cases {client : ClientEntry} {st : ServerState} {u u' : RollUp}
    {a : RollUpAction} (h : u.step client st a = some u') : RollUpStep client st u a u' := by
  unfold RollUp.step at h
  split at h
  · cases h
    exact .start
  · rename_i todo sum i
    split at h
    · cases h
    · rename_i tunnel htunnel
      cases h
      exact .visit todo sum i tunnel _ htunnel
  · rename_i v todo sum id
    split at h
    · rename_i present conn hpoint hfound
      split_ifs at h with hnew
      cases h
      exact .read v todo sum present id conn hpoint hfound hnew
    · cases h
  · rename_i v todo sum
    split at h
    · rename_i present hpoint
      split_ifs at h
      cases h
      exact .exhausted v todo sum present hpoint
    · rename_i hpoint
      cases h
      exact .cumulativeIn v todo sum hpoint
    · rename_i hpoint
      cases h
      exact .cumulativeOut v todo sum hpoint
    · rename_i hpoint
      cases h
      exact .activeConns v todo sum hpoint
    · rename_i hpoint
      cases h
      exact .totalConns v todo sum hpoint
  · cases h

/-- The outcomes of one step. -/
inductive RaceStep (r : Race) : RaceAction → Race → Prop where
  | register (tunnelId : UInt64) (peer : Option String) (tunnel : TunnelEntry) :
      RaceStep r (.register tunnelId peer)
        { r with
          state := (r.state.allocConn tunnel peer).1
          conns := r.conns ++ [⟨tunnel, (r.state.allocConn tunnel peer).2, .allocated, 0, 0⟩] }
  | advance (k : Nat) (c : LiveConn) (st : ServerState) (point : ConnPoint)
      (hc : r.conns[k]? = some c) (hadvance : c.advance r.state = some (st, point)) :
      RaceStep r (.advance k)
        { r with state := st, conns := r.conns.set k { c with point := point } }
  | addIn (k : Nat) (c : LiveConn) (n : UInt64) (hc : r.conns[k]? = some c)
      (hpoint : c.point = .counting) :
      RaceStep r (.addIn k n)
        { r with
          state := r.state.addIn c.conn n
          conns := r.conns.set k { c with bytesIn := c.bytesIn + n.toNat } }
  | addOut (k : Nat) (c : LiveConn) (n : UInt64) (hc : r.conns[k]? = some c)
      (hpoint : c.point = .counting) :
      RaceStep r (.addOut k n)
        { r with
          state := r.state.addOut c.conn n
          conns := r.conns.set k { c with bytesOut := c.bytesOut + n.toNat } }
  | rollUp (a : RollUpAction) (u : RollUp)
      (hstep : RollUpStep r.client r.state r.rollUp a u) :
      RaceStep r (.rollUp a) { r with rollUp := u }

theorem Race.step_cases {r r' : Race} {a : RaceAction} (h : r.step a = some r') :
    RaceStep r a r' := by
  cases a with
  | register tunnelId peer =>
      simp only [Race.step] at h
      split at h
      · cases h
      · rename_i tunnel _
        cases h
        exact .register tunnelId peer tunnel
  | advance k =>
      simp only [Race.step] at h
      split at h
      · cases h
      · rename_i c hc
        split at h
        · cases h
        · rename_i st point hadvance
          cases h
          exact .advance k c st point hc hadvance
  | addIn k n =>
      simp only [Race.step] at h
      split at h
      · cases h
      · rename_i c hc
        split_ifs at h with hpoint
        cases h
        exact .addIn k c n hc hpoint
  | addOut k n =>
      simp only [Race.step] at h
      split at h
      · cases h
      · rename_i c hc
        split_ifs at h with hpoint
        cases h
        exact .addOut k c n hc hpoint
  | rollUp a =>
      obtain ⟨u, hstep, rfl⟩ := Option.map_eq_some_iff.mp h
      exact .rollUp a u (RollUp.step_cases hstep)

/-! ## A roll-up that nothing interrupts -/

section Alone

variable (client : ClientEntry) (st : ServerState)

/-- Reading conns under distinct keys one after the other sums their counters. -/
theorem run_reads {present : List UInt64} (todo : List TunnelEntry) (sum : Totals)
    (rest : List (Sigma fun _ : UInt64 => ConnEntry)) (v : Visit)
    (hpoint : v.point = .conns present)
    (hfound : ∀ e ∈ rest, (v.cell st).conns.lookup e.1 = some e.2)
    (hnodup : (rest.map Sigma.fst).Nodup) (hnew : ∀ e ∈ rest, e.1 ∉ v.read.map Prod.fst) :
    ∃ v', Transition.run (RollUp.step client st) (.visiting v todo sum)
        (rest.map fun e => .read e.1) = some (.visiting v' todo sum) ∧
      v'.tunnel = v.tunnel ∧ v'.point = .conns present ∧
      (∀ id ∈ rest.map Sigma.fst ++ v.read.map Prod.fst, id ∈ v'.read.map Prod.fst) ∧
      v'.totals = { v.totals with
        activeIn := v.totals.activeIn + (rest.map fun e => (st.counters e.2.arc).1).sum
        activeOut := v.totals.activeOut + (rest.map fun e => (st.counters e.2.arc).2).sum } := by
  induction rest generalizing v with
  | nil => exact ⟨v, rfl, rfl, hpoint, fun _ h => h, by simp⟩
  | cons e rest ih =>
      rw [List.map_cons, List.nodup_cons] at hnodup
      have hhead := hfound e List.mem_cons_self
      have hstep : RollUp.step client st (.visiting v todo sum) (.read e.1) =
          some (.visiting (v.readConn st e.1 e.2) todo sum) := by
        simp only [RollUp.step, hpoint, hhead, if_neg (hnew e List.mem_cons_self)]
      have hnew' : ∀ e' ∈ rest, e'.1 ∉ (v.readConn st e.1 e.2).read.map Prod.fst := by
        intro e' he' hmem
        rcases List.mem_cons.mp hmem with heq | hold
        · exact hnodup.1 (List.mem_map.mpr ⟨e', he', heq⟩)
        · exact hnew e' (List.mem_cons_of_mem _ he') hold
      obtain ⟨v', hrun, htunnel, hpoint', hread, htotals⟩ := ih (v.readConn st e.1 e.2) hpoint
        (fun e' he' => hfound e' (List.mem_cons_of_mem _ he')) hnodup.2 hnew'
      refine ⟨v', ?_, htunnel, hpoint', ?_, ?_⟩
      · rw [List.map_cons, Transition.run_cons, hstep]
        exact hrun
      · intro id hid
        apply hread
        simp only [Visit.readConn, List.map_cons, List.mem_append, List.mem_cons] at hid ⊢
        tauto
      · simp [htotals, Visit.readConn, UInt64.add_assoc]

/-- A visit without interruption adds the totals of its tunnel. -/
theorem run_visit (tunnel : TunnelEntry) (todo : List TunnelEntry) (sum : Totals) :
    ∃ acts, Transition.run (RollUp.step client st) (.between (tunnel :: todo) sum) acts =
      some (.between todo (sum.add (st.tunnelTotals tunnel))) := by
  let cell := st.tunnelCells tunnel.arc
  obtain ⟨v, hrun, htunnel, hpoint, hread, htotals⟩ := run_reads client st todo sum
    cell.conns.entries ⟨tunnel, [], .zero, .conns cell.conns.keys⟩ rfl
    (fun e he => AList.mem_lookup_iff.mpr he) cell.conns.nodupKeys (by simp)
  have hdone : v.Exhausted st cell.conns.keys := fun id hid =>
    .inl (hread id (List.mem_append_left _ hid))
  refine ⟨.visit 0 :: cell.conns.entries.map (fun e => .read e.1) ++ List.replicate 5 .next, ?_⟩
  rw [List.cons_append, Transition.run_cons]
  simp only [RollUp.step, List.getElem?_cons_zero, List.eraseIdx_zero, List.tail_cons,
    Option.bind_some, Transition.run_append]
  rw [hrun]
  simp only [List.replicate, Transition.run_cons, RollUp.step, hpoint, if_pos hdone,
    Option.bind_some, Transition.run_nil, htotals, Visit.cell, htunnel]
  simp [ServerState.tunnelTotals, Totals.zero, Function.comp_def, cell]

/-- Adding tunnels one after the other sums each of the totals. -/
theorem foldl_add (tots : List Totals) (sum : Totals) :
    tots.foldl Totals.add sum = sum.add
      { activeIn := (tots.map Totals.activeIn).sum
        activeOut := (tots.map Totals.activeOut).sum
        cumulativeIn := (tots.map Totals.cumulativeIn).sum
        cumulativeOut := (tots.map Totals.cumulativeOut).sum
        activeConns := (tots.map Totals.activeConns).sum
        totalConns := (tots.map Totals.totalConns).sum } := by
  induction tots generalizing sum with
  | nil => simp [Totals.add]
  | cons tot tots ih =>
      rw [List.foldl_cons, ih]
      simp [Totals.add, UInt64.add_assoc]

theorem run_visits (todo : List TunnelEntry) (sum : Totals) :
    ∃ acts, Transition.run (RollUp.step client st) (.between todo sum) acts =
      some (.between [] ((todo.map st.tunnelTotals).foldl Totals.add sum)) := by
  induction todo generalizing sum with
  | nil => exact ⟨[], rfl⟩
  | cons tunnel todo ih =>
      obtain ⟨first, hfirst⟩ := run_visit client st tunnel todo sum
      obtain ⟨rest, hrest⟩ := ih (sum.add (st.tunnelTotals tunnel))
      exact ⟨first ++ rest, Transition.run_append_eq_some.mpr ⟨_, hfirst, hrest⟩⟩

/-- Without interruption a roll-up gives the client's totals. -/
theorem rollUp_alone :
    ∃ acts, Transition.run (RollUp.step client st) .idle acts =
      some (.between [] (st.clientTotals client)) := by
  let todo := (st.clientTunnels client.arc).entries.map fun e => e.2
  obtain ⟨acts, hrun⟩ := run_visits client st todo .zero
  refine ⟨.start :: acts, ?_⟩
  rw [Transition.run_cons]
  simp only [RollUp.step, Option.bind_some]
  rw [hrun, foldl_add]
  simp [ServerState.clientTotals, Totals.add, Totals.zero, todo, Function.comp_def]

end Alone

end Server
end Rusnel
