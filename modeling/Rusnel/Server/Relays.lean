import Rusnel.Common.HalfClose
import Rusnel.Server.Accounting

/-!
# The relays of a server's conns

A server relays many TCP conns at once.  Each of them holds a guard of the
registry and runs {lit}`tunnel_tcp_stream` with readers that count: a read from
the QUIC stream raises the conn's {lit}`bytes_in`, one from the TCP stream its
{lit}`bytes_out`.  Clients come and go meanwhile, and a conn may end or be
cancelled at any time.

Main results:

- Theorem {lit}`run_countOps`: the counting of a poll goes to the counters of its
  own conn and to nothing else.
- Theorem {lit}`relayed_bytes_reported`: what the registry reports of a conn and of
  a tunnel is what their relays have read.
-/

namespace Rusnel
namespace Server

open Net Counter TcpRelay BufferedCopy

/-! ## What a poll reads -/

/-- What the reader of a direction hands over when its future is polled. -/
def pollReads (r : Relay) (d : Dir) (script : List (Io UInt8)) : List (List UInt8) :=
  match (r.flow d).task with
  | .unpolled | .selecting false => chunks (r.flow d).copy script
  -- The copy is not polled.
  | .selecting true | .done _ => []

/-- The reads of a poll of the join, in their order. -/
def joinReads (r : Relay) (a : TcpRelay.Action) : List (Dir × List UInt8) :=
  (pollReads r a.first (a.script a.first)).map (a.first, ·) ++
    (pollReads (r.pollDir a.first (a.script a.first)) a.first.other
      (a.script a.first.other)).map (a.first.other, ·)

/-- How many bytes were read in a direction. -/
def volume (d : Dir) : List (Dir × List UInt8) → Nat
  | [] => 0
  | (e, bytes) :: reads => (if e = d then bytes.length else 0) + volume d reads

theorem volume_append (d : Dir) (before after : List (Dir × List UInt8)) :
    volume d (before ++ after) = volume d before + volume d after := by
  induction before with
  | nil => simp [volume]
  | cons read before ih => simp [volume, ih, Nat.add_assoc]

theorem volume_map (d e : Dir) (reads : List (List UInt8)) :
    volume d (reads.map (e, ·)) = if e = d then reads.flatten.length else 0 := by
  induction reads with
  | nil => simp [volume]
  | cons read reads ih =>
      rw [List.map_cons, volume, ih]
      split <;> simp

/-- Polling the future of a direction receives what its reader hands over. -/
theorem pollDir_received (r : Relay) (d : Dir) (script : List (Io UInt8)) :
    ((r.pollDir d script).flow d).copy.received =
      (r.flow d).copy.received ++ (pollReads r d script).flatten := by
  rcases (r.flow d).task.cases_ready with ⟨outcome, h⟩ | h | h
  · rw [Relay.pollDir_of_done h, pollReads, h]
    simp
  · rw [Relay.pollDir_of_notified h, pollReads, h]
    simp [Flow.close]
  · have hreads : pollReads r d script = chunks (r.flow d).copy script := by
      rcases h with h | h <;> rw [pollReads, h]
    rw [Relay.pollDir_ready_self h, ((r.flow d).poll_follows d script).copy, copyBuf_chunks,
      hreads]

/-- A poll of the join receives, in each direction, what was read in it. -/
theorem step_received {r r' : Relay} {a : TcpRelay.Action} (h : TcpRelay.step r a = some r')
    (d : Dir) :
    (r'.flow d).copy.received.length =
      (r.flow d).copy.received.length + volume d (joinReads r a) := by
  rw [(TcpRelay.step_eq_some h).2, joinReads, volume_append, volume_map, volume_map]
  rcases a.first.eq_or_eq_other d with rfl | rfl
  · -- Polled first: the other poll only lets it hear the signal.
    have hlater := (r.pollDir a.first (a.script a.first)).pollDir_other a.first.other
      (a.script a.first.other)
    rw [Dir.other_other] at hlater
    have hne : a.first.other ≠ a.first := by cases a.first <;> simp [Dir.other]
    rw [hlater.copy_eq, pollDir_received, if_pos rfl, if_neg hne, List.length_append]
    rfl
  · have hne : a.first ≠ a.first.other := by cases a.first <;> simp [Dir.other]
    rw [pollDir_received, (r.pollDir_other a.first (a.script a.first)).copy_eq, if_neg hne,
      if_pos rfl, List.length_append, Nat.zero_add]

/-! ## Counting the reads -/

/-- {lit}`count_in` and {lit}`count_out`: the counter that a read of each direction
raises. -/
def countOp (conn : Nat) : Dir × List UInt8 → RegistryOp
  | (.clientToServer, bytes) => .addOut conn (.ofNat bytes.length)
  | (.serverToClient, bytes) => .addIn conn (.ofNat bytes.length)

namespace Ledger

/-- The counter of a conn that the reads of a direction raise. -/
def counted (l : Ledger) : Dir → Nat → UInt64
  | .clientToServer, arc => (l.state.counters arc).2
  | .serverToClient, arc => (l.state.counters arc).1

/-- The bytes counted on a tunnel in a direction. -/
def bytes (l : Ledger) : Dir → Nat → Nat
  | .clientToServer => l.bytesOut
  | .serverToClient => l.bytesIn

/-- The reads were counted for the conn of a guard. -/
structure Charged (g : ConnGuard) (reads : List (Dir × List UInt8)) (l l' : Ledger) : Prop where
  guards : l'.guards = l.guards
  tunnels : l'.tunnels = l.tunnels
  nextArc : l'.state.nextArc = l.state.nextArc
  counted : ∀ d arc, l'.counted d arc =
    l.counted d arc + if arc = g.conn.arc then .ofNat (volume d reads) else 0
  bytes : ∀ d arc, (arc = g.tunnel.arc → volume d reads < 2 ^ 64) →
    l'.bytes d arc = l.bytes d arc + if arc = g.tunnel.arc then volume d reads else 0

theorem Charged.refl (g : ConnGuard) (l : Ledger) : Charged g [] l l where
  guards := rfl
  tunnels := rfl
  nextArc := rfl
  counted d arc := by simp [volume]
  bytes d arc _ := by simp [volume]

theorem Charged.trans {g : ConnGuard} {before after : List (Dir × List UInt8)}
    {l mid l' : Ledger} (h : Charged g before l mid) (h' : Charged g after mid l') :
    Charged g (before ++ after) l l' where
  guards := h'.guards.trans h.guards
  tunnels := h'.tunnels.trans h.tunnels
  nextArc := h'.nextArc.trans h.nextArc
  counted d arc := by
    rw [h'.counted, h.counted, volume_append, UInt64.add_assoc]
    split
    · rw [UInt64.ofNat_add]
    · simp
  bytes d arc hlt := by
    rw [volume_append] at hlt ⊢
    rw [h'.bytes d arc fun harc => by have := hlt harc; omega,
      h.bytes d arc fun harc => by have := hlt harc; omega]
    split <;> omega

variable {l : Ledger} {g : ConnGuard}

/-- One read is counted for its conn. -/
theorem step_countOp (hg : l.guard? g.conn.arc = some g) (read : Dir × List UInt8) :
    ∃ l', step l (countOp g.conn.arc read) = some l' ∧ Charged g [read] l l' := by
  have hupdate : ∀ arc (value : UInt64 × UInt64),
      Function.update l.state.counters g.conn.arc value arc =
        if arc = g.conn.arc then value else l.state.counters arc :=
    fun arc value => Function.update_apply _ _ _ _
  have hlength : ∀ n, n < 2 ^ 64 → (UInt64.ofNat n).toNat = n :=
    fun n hn => UInt64.toNat_ofNat_of_lt' hn
  rcases read with ⟨d, bytes⟩
  cases d with
  | clientToServer =>
      refine ⟨_, by rw [countOp, step, hg, Option.map_some], ?_⟩
      rw [ServerState.addOut_counters]
      refine ⟨rfl, rfl, rfl, fun d arc => ?_, fun d arc hlt => ?_⟩
      · cases d <;> simp only [Ledger.counted, hupdate, volume] <;> split <;> simp_all
      · cases d with
        | clientToServer =>
            simp only [volume, if_true, Nat.add_zero] at hlt ⊢
            simp only [Ledger.bytes, credit_apply]
            split_ifs with harc
            · rw [hlength _ (hlt harc)]
            · rfl
        | serverToClient => simp [Ledger.bytes, volume]
  | serverToClient =>
      refine ⟨_, by rw [countOp, step, hg, Option.map_some], ?_⟩
      rw [ServerState.addIn_counters]
      refine ⟨rfl, rfl, rfl, fun d arc => ?_, fun d arc hlt => ?_⟩
      · cases d <;> simp only [Ledger.counted, hupdate, volume] <;> split <;> simp_all
      · cases d with
        | serverToClient =>
            simp only [volume, if_true, Nat.add_zero] at hlt ⊢
            simp only [Ledger.bytes, credit_apply]
            split_ifs with harc
            · rw [hlength _ (hlt harc)]
            · rfl
        | clientToServer => simp [Ledger.bytes, volume]

/-- The reads of a poll are counted for its conn. -/
theorem run_countOps (hg : l.guard? g.conn.arc = some g) (reads : List (Dir × List UInt8)) :
    ∃ l', Transition.run step l (reads.map (countOp g.conn.arc)) = some l' ∧
      Charged g reads l l' := by
  induction reads generalizing l with
  | nil => exact ⟨l, rfl, .refl g l⟩
  | cons read reads ih =>
      obtain ⟨mid, hstep, hmid⟩ := step_countOp hg read
      have hg' : mid.guard? g.conn.arc = some g := by rw [guard?, hmid.guards, ← hg, guard?]
      obtain ⟨l', hrun, h⟩ := ih hg'
      exact ⟨l', Transition.run_cons_eq_some.mpr ⟨mid, hstep, hrun⟩, hmid.trans h⟩

end Ledger

/-! ## The system -/

/-- A conn that was accepted: its guard and the relay that runs for it. -/
structure RelayedConn where
  guard : ConnGuard
  relay : Relay
deriving DecidableEq, Repr

/-- The registry and the conns accepted so far. -/
structure DataPlane where
  ledger : Ledger
  conns : List RelayedConn

inductive DataEvent where
  | registerClient (id : UInt64) (remote : SocketAddr)
  | registerTunnels (id : UInt64) (requests : List RemoteRequest)
  | deregisterClient (id : UInt64) (reason : String)
  /-- A conn is opened on a tunnel. -/
  | accept (tunnel : Nat) (peer : Option String)
  /-- The join of a conn's relay is polled. -/
  | poll (k : Nat) (a : TcpRelay.Action)
  /-- The handler of a conn returns or is cancelled, and its guard is dropped. -/
  | close (k : Nat)
deriving DecidableEq, Repr

namespace DataPlane

def init : DataPlane where
  ledger := .init
  conns := []

/-- A relay is polled as long as its guard is held, and counts what it reads. -/
def step (d : DataPlane) : DataEvent → Option DataPlane
  | .registerClient id remote =>
      (d.ledger.step (.registerClient id remote)).map fun l => { d with ledger := l }
  | .registerTunnels id requests =>
      (d.ledger.step (.registerTunnels id requests)).map fun l => { d with ledger := l }
  | .deregisterClient id reason =>
      (d.ledger.step (.deregisterClient id reason)).map fun l => { d with ledger := l }
  | .accept tunnel peer =>
      (d.ledger.tunnel? tunnel).map fun t =>
        { ledger := d.ledger.openConn t peer
          conns := d.conns ++ [⟨⟨t, d.ledger.nextConn t peer⟩, .init⟩] }
  | .poll k a =>
      match d.conns[k]? with
      | none => none
      | some c =>
          if c.guard ∈ d.ledger.guards then
            match TcpRelay.step c.relay a, Transition.run Ledger.step d.ledger
                ((joinReads c.relay a).map (countOp c.guard.conn.arc)) with
            | some relay, some l =>
                some { ledger := l, conns := d.conns.set k { c with relay := relay } }
            | _, _ => none
          else none
  | .close k =>
      match d.conns[k]? with
      | none => none
      | some c =>
          (d.ledger.step (.dropGuard c.guard.conn.arc)).map fun l => { d with ledger := l }

abbrev run (events : List DataEvent) : Option DataPlane :=
  Transition.run step init events

/-- What one event does, with what enabled it. -/
inductive Step (d : DataPlane) : DataPlane → Prop where
  | registry (op : RegistryOp) (l : Ledger)
      (hop : ∀ conn n, op ≠ .addIn conn n ∧ op ≠ .addOut conn n)
      (hopen : ∀ tunnel peer, op ≠ .registerConn tunnel peer)
      (hstep : d.ledger.step op = some l) : Step d { d with ledger := l }
  | accept (tunnel : Nat) (t : TunnelEntry) (peer : Option String)
      (ht : d.ledger.tunnel? tunnel = some t) :
      Step d { ledger := d.ledger.openConn t peer,
               conns := d.conns ++ [⟨⟨t, d.ledger.nextConn t peer⟩, .init⟩] }
  | poll (k : Nat) (c : RelayedConn) (a : TcpRelay.Action) (relay : Relay) (l : Ledger)
      (hconn : d.conns[k]? = some c) (hopen : c.guard ∈ d.ledger.guards)
      (hrelay : TcpRelay.step c.relay a = some relay)
      (hcount : Transition.run Ledger.step d.ledger
        ((joinReads c.relay a).map (countOp c.guard.conn.arc)) = some l) :
      Step d { ledger := l, conns := d.conns.set k { c with relay := relay } }

theorem step_cases {d d' : DataPlane} {e : DataEvent} (hstep : step d e = some d') :
    Step d d' := by
  cases e with
  | registerClient id remote =>
      obtain ⟨l, hl, rfl⟩ := Option.map_eq_some_iff.mp hstep
      exact .registry _ l (by simp) (by simp) hl
  | registerTunnels id requests =>
      obtain ⟨l, hl, rfl⟩ := Option.map_eq_some_iff.mp hstep
      exact .registry _ l (by simp) (by simp) hl
  | deregisterClient id reason =>
      cases hstep
      exact .registry (.deregisterClient id reason) _ (by simp) (by simp) rfl
  | accept tunnel peer =>
      obtain ⟨t, ht, rfl⟩ := Option.map_eq_some_iff.mp hstep
      exact .accept tunnel t peer ht
  | poll k a =>
      simp only [step] at hstep
      cases hconn : d.conns[k]? with
      | none => rw [hconn] at hstep; cases hstep
      | some c =>
          rw [hconn] at hstep
          simp only at hstep
          split_ifs at hstep with hopen
          split at hstep
          · rename_i relay l hrelay hcount
            cases hstep
            exact .poll k c a relay l hconn hopen hrelay hcount
          · cases hstep
  | close k =>
      simp only [step] at hstep
      cases hconn : d.conns[k]? with
      | none => rw [hconn] at hstep; cases hstep
      | some c =>
          rw [hconn] at hstep
          obtain ⟨l, hl, rfl⟩ := Option.map_eq_some_iff.mp hstep
          exact .registry _ l (by simp) (by simp) hl

/-- An event makes calls on the registry. -/
theorem Step.calls {d d' : DataPlane} (h : Step d d') :
    ∃ ops, Transition.run Ledger.step d.ledger ops = some d'.ledger := by
  cases h with
  | registry op l hop hopen hstep =>
      exact ⟨[op], Transition.run_cons_eq_some.mpr ⟨l, hstep, rfl⟩⟩
  | accept tunnel t peer ht =>
      refine ⟨[.registerConn tunnel peer], Transition.run_cons_eq_some.mpr ⟨_, ?_, rfl⟩⟩
      rw [Ledger.step, ht, Option.map_some]
  | poll k c a relay l hconn hopen hrelay hcount => exact ⟨_, hcount⟩

/-- The registry of a run is one of a sequence of calls. -/
theorem run_calls {events : List DataEvent} {d : DataPlane} (hrun : run events = some d) :
    ∃ ops, Ledger.run ops = some d.ledger := by
  refine Transition.run_induction (P := fun _ d => ∃ ops, Ledger.run ops = some d.ledger)
    ⟨[], rfl⟩ ?_ hrun
  intro events e mid d _ ⟨ops, hops⟩ hstep
  obtain ⟨more, hmore⟩ := (step_cases hstep).calls
  exact ⟨ops ++ more, Transition.run_append_eq_some.mpr ⟨_, hops, hmore⟩⟩

/-! ## The books -/

/-- What the relays of a tunnel's conns have read in a direction. -/
def relayed (d : DataPlane) (dir : Dir) (arc : Nat) : Nat :=
  (d.conns.map fun c =>
    if c.guard.tunnel.arc = arc then (c.relay.flow dir).copy.received.length else 0).sum

/-- The registry has counted what the relays have read. -/
structure Metered (d : DataPlane) : Prop where
  arcs : (d.conns.map (·.guard.conn.arc)).Nodup
  allocated : ∀ c ∈ d.conns, c.guard.conn.arc < d.ledger.state.nextArc
  /-- Every conn that is open has a relay. -/
  held : ∀ g ∈ d.ledger.guards, ∃ c ∈ d.conns, c.guard = g
  counted : ∀ c ∈ d.conns, ∀ dir, d.ledger.counted dir c.guard.conn.arc =
    .ofNat (c.relay.flow dir).copy.received.length
  bytes : ∀ dir arc, d.relayed dir arc < 2 ^ 64 → d.ledger.bytes dir arc = d.relayed dir arc
  reached : ∀ c ∈ d.conns, ∃ acts, TcpRelay.run Relay.init acts = some c.relay

theorem init_metered : init.Metered := by
  constructor <;> simp [init, Ledger.init, relayed]
  intro dir
  cases dir <;> simp [Ledger.bytes]

/-- What a call other than counting and opening leaves alone. -/
structure Quiet (l l' : Ledger) : Prop where
  guards : l'.guards ⊆ l.guards
  counters : l'.state.counters = l.state.counters
  bytesIn : l'.bytesIn = l.bytesIn
  bytesOut : l'.bytesOut = l.bytesOut
  nextArc : l.state.nextArc ≤ l'.state.nextArc

theorem quiet_foldl_addTunnel (client : ClientEntry) (requests : List RemoteRequest)
    (l : Ledger) : Quiet l (requests.foldl (Ledger.addTunnel client) l) := by
  induction requests generalizing l with
  | nil => exact ⟨List.Subset.refl _, rfl, rfl, rfl, Nat.le_refl _⟩
  | cons request requests ih =>
      have h := ih (l.addTunnel client request)
      exact ⟨h.guards, h.counters, h.bytesIn, h.bytesOut, (Nat.le_succ _).trans h.nextArc⟩

theorem quiet_of_step {l l' : Ledger} {op : RegistryOp}
    (hop : ∀ conn n, op ≠ .addIn conn n ∧ op ≠ .addOut conn n)
    (hopen : ∀ tunnel peer, op ≠ .registerConn tunnel peer) (hstep : l.step op = some l') :
    Quiet l l' := by
  cases op with
  | registerClient id remote =>
      simp only [Ledger.step] at hstep
      split_ifs at hstep
      cases hstep
      exact ⟨List.Subset.refl _, rfl, rfl, rfl, Nat.le_refl _⟩
  | registerTunnels id requests =>
      simp only [Ledger.step] at hstep
      split at hstep
      · cases hstep
      · next client hclient =>
          cases hstep
          have h := quiet_foldl_addTunnel client requests l
          rwa [Ledger.foldl_addTunnel] at h
  | registerConn tunnel peer => exact absurd rfl (hopen tunnel peer)
  | addIn conn n => exact absurd rfl (hop conn n).1
  | addOut conn n => exact absurd rfl (hop conn n).2
  | dropGuard conn =>
      obtain ⟨g, hg, rfl⟩ := Option.map_eq_some_iff.mp hstep
      exact ⟨List.filter_subset_self _, rfl, rfl, rfl, Nat.le_refl _⟩
  | deregisterClient id reason =>
      cases hstep
      obtain ⟨_, hcounters, _, harc⟩ := l.state.deregisterClient_cells id reason
      exact ⟨List.Subset.refl _, hcounters, rfl, rfl, Nat.le_of_eq harc.symm⟩

theorem Metered.registry {d : DataPlane} (h : d.Metered) {l : Ledger} (hquiet : Quiet d.ledger l) :
    Metered { d with ledger := l } where
  arcs := h.arcs
  allocated c hc := (h.allocated c hc).trans_le hquiet.nextArc
  held g hg := h.held g (hquiet.guards hg)
  counted c hc dir := by
    rw [← h.counted c hc dir]
    cases dir <;> simp only [Ledger.counted, hquiet.counters]
  bytes dir arc hlt := by
    rw [show l.bytes dir arc = d.ledger.bytes dir arc by
      cases dir <;> simp only [Ledger.bytes, hquiet.bytesIn, hquiet.bytesOut]]
    exact h.bytes dir arc hlt
  reached := h.reached

/-- A conn that is opened starts from zero, and so does its relay. -/
theorem Metered.accept {d : DataPlane} (h : d.Metered) (hbalanced : d.ledger.Balanced)
    (t : TunnelEntry) (peer : Option String) :
    Metered { ledger := d.ledger.openConn t peer,
              conns := d.conns ++ [⟨⟨t, d.ledger.nextConn t peer⟩, .init⟩] } := by
  have hzero : ∀ dir, (Relay.init.flow dir).copy.received.length = 0 := by
    intro dir
    cases dir <;> rfl
  have hrelayed : ∀ dir arc, relayed { ledger := d.ledger.openConn t peer, conns := d.conns ++
      [⟨⟨t, d.ledger.nextConn t peer⟩, .init⟩] } dir arc = d.relayed dir arc := by
    intro dir arc
    simp [relayed, hzero]
  refine ⟨?_, ?_, ?_, ?_, ?_, ?_⟩
  · rw [List.map_append, List.nodup_append]
    refine ⟨h.arcs, List.nodup_singleton _, ?_⟩
    intro arc harc other hother
    obtain ⟨c, hc, rfl⟩ := List.mem_map.mp harc
    rw [List.map_singleton, List.mem_singleton] at hother
    rw [hother]
    exact Nat.ne_of_lt (h.allocated c hc)
  · intro c hc
    rcases List.mem_append.mp hc with hold | hnew
    · exact (h.allocated c hold).trans (Nat.lt_succ_self _)
    · rw [List.mem_singleton.mp hnew]
      exact Nat.lt_succ_self _
  · intro g hg
    rcases Ledger.mem_openConn.mp hg with hold | rfl
    · obtain ⟨c, hc, hcg⟩ := h.held g hold
      exact ⟨c, List.mem_append_left _ hc, hcg⟩
    · exact ⟨_, List.mem_append_right _ (List.mem_singleton_self _), rfl⟩
  · intro c hc dir
    rcases List.mem_append.mp hc with hold | hnew
    · rw [← h.counted c hold dir]
      cases dir <;> rfl
    · rw [List.mem_singleton.mp hnew, hzero]
      have hunused := (hbalanced.unused d.ledger.state.nextArc (Nat.le_refl _)).1
      cases dir
      · exact congrArg Prod.snd hunused
      · exact congrArg Prod.fst hunused
  · intro dir arc hlt
    rw [hrelayed] at hlt ⊢
    rw [← h.bytes dir arc hlt]
    cases dir <;> rfl
  · intro c hc
    rcases List.mem_append.mp hc with hold | hnew
    · exact h.reached c hold
    · rw [List.mem_singleton.mp hnew]
      exact ⟨[], rfl⟩

/-- What a poll reads is added to the books of its conn and its tunnel. -/
theorem Metered.poll {d : DataPlane} (h : d.Metered) {k : Nat} {c : RelayedConn}
    {a : TcpRelay.Action} {relay : Relay} {l : Ledger} (hconn : d.conns[k]? = some c)
    (hrelay : TcpRelay.step c.relay a = some relay)
    (hcharged : Ledger.Charged c.guard (joinReads c.relay a) d.ledger l) :
    Metered { ledger := l, conns := d.conns.set k { c with relay := relay } } := by
  have hmem := List.mem_of_getElem? hconn
  have harcs : (d.conns.set k { c with relay := relay }).map (·.guard.conn.arc) =
      d.conns.map (·.guard.conn.arc) := Indexed.map_set_eq hconn _ rfl
  have hsum : ∀ dir arc, relayed { ledger := l, conns := d.conns.set k { c with relay := relay } }
      dir arc = d.relayed dir arc +
        if arc = c.guard.tunnel.arc then volume dir (joinReads c.relay a) else 0 := by
    intro dir arc
    have hset := sum_map_set hconn { c with relay := relay } fun c =>
      if c.guard.tunnel.arc = arc then (c.relay.flow dir).copy.received.length else 0
    have hreceived := step_received hrelay dir
    simp only [relayed]
    by_cases harc : c.guard.tunnel.arc = arc
    · rw [if_pos harc.symm]
      simp only [if_pos harc] at hset
      omega
    · rw [if_neg fun heq => harc heq.symm]
      simp only [if_neg harc] at hset
      omega
  refine ⟨?_, ?_, ?_, ?_, ?_, ?_⟩
  · rw [harcs]
    exact h.arcs
  · intro c' hc'
    rw [hcharged.nextArc]
    have hall : ∀ c' ∈ d.conns.set k { c with relay := relay },
        c'.guard.conn.arc < d.ledger.state.nextArc :=
      Indexed.forall_mem_set h.allocated hconn fun hold => hold
    exact hall c' hc'
  · intro g hg
    rw [hcharged.guards] at hg
    obtain ⟨c', hc', rfl⟩ := h.held g hg
    rcases Indexed.eq_or_mem_set hconn hc' { c with relay := relay } with rfl | hset
    · exact ⟨_, List.mem_set (List.getElem?_eq_some_iff.mp hconn).1 _, rfl⟩
    · exact ⟨c', hset, rfl⟩
  · intro c' hc' dir
    obtain ⟨j, hj⟩ := List.mem_iff_getElem?.mp hc'
    rw [hcharged.counted]
    rcases Indexed.getElem?_set_cases hj with ⟨rfl, rfl⟩ | ⟨hne, hold⟩
    · rw [if_pos rfl, h.counted c hmem dir, ← UInt64.ofNat_add, step_received hrelay dir]
    · -- Another conn, so another allocation.
      have harc : c'.guard.conn.arc ≠ c.guard.conn.arc := by
        intro heq
        exact hne (Indexed.index_unique h.arcs hold hconn heq)
      rw [if_neg harc, h.counted c' (List.mem_of_getElem? hold) dir, UInt64.add_zero]
  · intro dir arc hlt
    rw [hsum] at hlt ⊢
    rw [hcharged.bytes dir arc, h.bytes dir arc (by omega)]
    intro harc
    rw [if_pos harc] at hlt
    omega
  · intro c' hc'
    refine Indexed.forall_mem_set h.reached hconn ?_ c' hc'
    rintro ⟨acts, hacts⟩
    exact ⟨acts ++ [a], Transition.run_concat_eq_some.mpr ⟨_, hacts, hrelay⟩⟩

/-- A guard that is held is found by its conn. -/
theorem guard?_of_mem {l : Ledger} (h : l.Issued) {g : ConnGuard} (hg : g ∈ l.guards) :
    l.guard? g.conn.arc = some g := by
  cases hfound : l.guard? g.conn.arc with
  | none =>
      have hnone := List.find?_eq_none.mp hfound g hg
      simp at hnone
  | some other =>
      have harc : other.conn.arc = g.conn.arc := by
        simpa using List.find?_some hfound
      rw [List.inj_on_of_nodup_map h.connArcs (List.mem_of_find?_eq_some hfound) hg harc]

theorem Step.metered {d d' : DataPlane} (h : d.Metered) (hlawful : d.ledger.Lawful)
    (hbalanced : d.ledger.Balanced) (hstep : Step d d') : d'.Metered := by
  cases hstep with
  | registry op l hop hopen hstep => exact h.registry (quiet_of_step hop hopen hstep)
  | accept tunnel t peer ht => exact h.accept hbalanced t peer
  | poll k c a relay l hconn hopen hrelay hcount =>
      obtain ⟨l', hrun, hcharged⟩ :=
        Ledger.run_countOps (guard?_of_mem hlawful.issued hopen) (joinReads c.relay a)
      rw [hcount] at hrun
      cases hrun
      exact h.poll hconn hrelay hcharged

/-- The registry has counted what the relays have read, after every run in which no
id counter has wrapped. -/
theorem run_metered {events : List DataEvent} {d : DataPlane} (hrun : run events = some d)
    (hbounded : d.ledger.Bounded) : d.Metered := by
  refine Transition.run_induction (P := fun _ d => d.ledger.Bounded → d.Metered)
    (fun _ => init_metered) ?_ hrun hbounded
  intro events e mid d hmidRun ih hstep hbounded
  have heffect := step_cases hstep
  obtain ⟨more, hmore⟩ := heffect.calls
  have hmid : mid.ledger.Bounded := hbounded.of_run hmore
  obtain ⟨ops, hops⟩ := run_calls hmidRun
  exact heffect.metered (ih hmid) (Ledger.run_lawful hops hmid) (Ledger.run_balanced hops hmid)

end DataPlane

/-- After every run with fewer than `2 ^ 64` conns and tunnels: the counters of each
conn, open or closed, are the numbers of bytes its relay has read in the two
directions, of which a first part has been delivered, and all of them if the
direction has reached its end; for each tunnel, open and closed conns together
report what all its relays have read, if that is below `2 ^ 64`; and counting never
keeps a relay from being polled. -/
theorem relayed_bytes_reported {events : List DataEvent} {d : DataPlane}
    (hrun : DataPlane.run events = some d) (hbounded : d.ledger.Bounded) :
    (∀ c ∈ d.conns, ∀ dir,
      d.ledger.counted dir c.guard.conn.arc =
          .ofNat (c.relay.flow dir).copy.received.length ∧
        (c.relay.flow dir).copy.written <+: (c.relay.flow dir).copy.received ∧
        ((c.relay.flow dir).task = .done .eof →
          (c.relay.flow dir).copy.written = (c.relay.flow dir).copy.received)) ∧
    (∀ t ∈ d.ledger.tunnels, (∀ dir, d.relayed dir t.arc < 2 ^ 64) →
      (d.ledger.state.tunnelTotals t).activeIn.toNat +
          (d.ledger.state.tunnelTotals t).cumulativeIn.toNat = d.relayed .serverToClient t.arc ∧
        (d.ledger.state.tunnelTotals t).activeOut.toNat +
          (d.ledger.state.tunnelTotals t).cumulativeOut.toNat =
            d.relayed .clientToServer t.arc) ∧
    (∀ k c a relay, d.conns[k]? = some c → c.guard ∈ d.ledger.guards →
      TcpRelay.step c.relay a = some relay →
        ∃ d', d.step (.poll k a) = some d' ∧
          d'.conns = d.conns.set k { c with relay := relay }) := by
  have hmetered := DataPlane.run_metered hrun hbounded
  obtain ⟨ops, hops⟩ := DataPlane.run_calls hrun
  have hlawful := Ledger.run_lawful hops hbounded
  refine ⟨fun c hc dir => ?_, fun t ht hlt => ?_, fun k c a relay hconn hopen hrelay => ?_⟩
  · obtain ⟨acts, hacts⟩ := hmetered.reached c hc
    have hflow := TcpRelay.run_flow_lawful hacts dir
    exact ⟨hmetered.counted c hc dir, hflow.balanced.written_prefix, hflow.written_eq⟩
  · have hin : d.ledger.bytesIn t.arc = d.relayed .serverToClient t.arc :=
      hmetered.bytes .serverToClient t.arc (hlt _)
    have hout : d.ledger.bytesOut t.arc = d.relayed .clientToServer t.arc :=
      hmetered.bytes .clientToServer t.arc (hlt _)
    have haccounted := Ledger.tunnelAccounted hlawful (Ledger.run_balanced hops hbounded) hbounded
      ht (hin ▸ hlt .serverToClient) (hout ▸ hlt .clientToServer)
    exact ⟨haccounted.bytesIn.trans hin, haccounted.bytesOut.trans hout⟩
  · obtain ⟨l, hcount, -⟩ := Ledger.run_countOps
      (DataPlane.guard?_of_mem hlawful.issued hopen) (joinReads c.relay a)
    refine ⟨{ ledger := l, conns := d.conns.set k { c with relay := relay } }, ?_, rfl⟩
    simp only [DataPlane.step, hconn, if_pos hopen, hrelay, hcount]

/-- Two conns on one tunnel: the first receives two bytes and is cancelled, the second
receives one. -/
theorem relayed_bytes_reported_cancelled :
    ∃ d, DataPlane.run [.registerClient 7 (.v4 .localhost 50000),
        .registerTunnels 7 [Ledger.sampleRequest], .accept 0 none, .accept 0 none,
        .poll 0 ⟨.clientToServer, [], [.read [104, 105], .write 1]⟩, .close 0,
        .poll 1 ⟨.clientToServer, [], [.read [33]]⟩] = some d ∧
      ∀ t ∈ d.ledger.tunnels,
        (d.ledger.state.tunnelTotals t).activeIn.toNat +
          (d.ledger.state.tunnelTotals t).cumulativeIn.toNat = 3 := by
  have hcheck : ((DataPlane.run [.registerClient 7 (.v4 .localhost 50000),
      .registerTunnels 7 [Ledger.sampleRequest], .accept 0 none, .accept 0 none,
      .poll 0 ⟨.clientToServer, [], [.read [104, 105], .write 1]⟩, .close 0,
      .poll 1 ⟨.clientToServer, [], [.read [33]]⟩]).any fun d =>
        decide (d.ledger.Bounded ∧ ∀ t ∈ d.ledger.tunnels,
          d.relayed .serverToClient t.arc = 3 ∧ d.relayed .clientToServer t.arc = 0)) = true := by
    decide +kernel
  obtain ⟨d, hrun, hd⟩ := (Option.any_eq_true _ _).mp hcheck
  obtain ⟨hbounded, hrelayed⟩ := of_decide_eq_true hd
  refine ⟨d, hrun, fun t ht => ?_⟩
  obtain ⟨hin, hout⟩ := hrelayed t ht
  rw [((relayed_bytes_reported hrun hbounded).2.1 t ht ?_).1, hin]
  intro dir
  cases dir
  · rw [hout]; decide
  · rw [hin]; decide

end Server
end Rusnel
