import Rusnel.Common.UdpIsolation

/-!
# The end of a SOCKS5 UDP association

A UDP association is to live as long as its TCP control connection.  When the
handler sees the control connection closed it aborts the relay, which drops the
receive loop at its next wait.  The conn tasks the loop has spawned are tasks of
their own: they share the socket and, through the table, keep each other's
channels open.

Main results:

- Theorem {lit}`association_silent_iff`: after the control connection was seen
  closed nothing is relayed any more exactly if no conn is running and none is
  about to be opened.
- Theorem {lit}`association_outlives_control`: otherwise datagrams are relayed
  both ways.
-/

namespace Rusnel
namespace UdpRelay

open Net UdpTable

/-! ## The model -/

/-- A UDP association with its handler. -/
structure Association where
  /-- The handler is still reading the control connection. -/
  control : Bool
  traffic : Traffic (SocketAddr × HostPort)

/-- The relay was just spawned. -/
def Association.init : Association where
  control := true
  traffic := Traffic.init (SocketAddr × HostPort)

inductive AssociationEvent where
  /-- The handler reads bytes from the control connection and drops them. -/
  | drain (bytes : List UInt8)
  /-- A read of the control connection gives no bytes or fails: the handler
  aborts the relay and returns. -/
  | controlClosed
  | relay (e : Event)
deriving DecidableEq, Repr

/-- One step of the handler, the loop or a conn task. -/
def Association.step (tunnelId : UInt64) (s : Association) :
    AssociationEvent → Option Association
  | .drain bytes => if s.control ∧ bytes ≠ [] then some s else none
  | .controlClosed =>
      if s.control then
        (socksUdpTraffic tunnelId s.traffic .stop).map fun traffic => ⟨false, traffic⟩
      else none
  | .relay e =>
      (socksUdpTraffic tunnelId s.traffic e).map fun traffic => { s with traffic := traffic }

/-- A datagram is written to a stream or sent to a source. -/
def Event.relays : Event → Bool
  | .writeDatagram _ | .sendTo _ => true
  | _ => false

/-- Whatever happens from now on, no datagram is relayed. -/
def Association.Silent (tunnelId : UInt64) (s : Association) : Prop :=
  ∀ events t e u, Transition.run (Association.step tunnelId) s events = some t →
    t.step tunnelId (.relay e) = some u → e.relays = false

variable {κ : Type}

/-- No conn is running, and the loop is not on its way to open one. -/
def Traffic.AtRest (s : Traffic κ) : Prop :=
  (∀ conn ∈ s.relay.tasks, conn.stage ≠ .running) ∧
    match s.relay.loop with
    | .receiving | .sending _ _ => True
    | _ => False

instance (s : Traffic κ) : Decidable s.AtRest := by
  unfold Traffic.AtRest
  cases s.relay.loop <;> infer_instance

/-! ## A listener at rest -/

section Listener

variable [DecidableEq κ] {L : Listener κ} {capacity : Nat} {tunnelId : UInt64}
  {s t : Traffic κ} {n : Nat} {conn : Conn κ} {link : Link}

omit [DecidableEq κ] in
theorem Traffic.AtRest.not_running (h : s.AtRest) (n : Nat) : s.running n = none := by
  cases hrunning : s.running n with
  | none => rfl
  | some found =>
      obtain ⟨hconn, -, hstage⟩ := Traffic.running_eq_some.mp hrunning
      exact absurd hstage (h.1 _ (List.mem_of_getElem? hconn))

/-- Only a running conn relays. -/
theorem Traffic.AtRest.not_relays (h : s.AtRest) {e : Event}
    (hstep : step L capacity tunnelId s e = some t) : e.relays = false := by
  cases e with
  | writeDatagram n | sendTo n =>
      simp only [step, h.not_running n] at hstep
      cases hstep
  | _ => rfl

/-- A loop that is told to stop takes up no more datagrams, so nothing starts
again. -/
theorem TrafficStep.atRest (hstep : TrafficStep L capacity tunnelId s t) (h : s.AtRest)
    (hstopping : s.stopping = true) : t.AtRest ∧ t.stopping = true := by
  obtain ⟨hstages, hloop⟩ := h
  cases hstep with
  | skipped hgoing _ _ | received hgoing _ _ =>
      rw [hstopping] at hgoing
      cases hgoing
  | looked ha hrelay => cases hrelay <;> simp_all
  | spawned hopening => simp [hopening] at hloop
  | queued _ hconn _ hstage => exact absurd hstage (hstages _ (List.mem_of_getElem? hconn))
  | dropped _ => exact ⟨⟨hstages, trivial⟩, hstopping⟩
  | conn hconn hlink hmove hconns =>
      have hnot := hstages _ (List.mem_of_getElem? hconn)
      cases hmove with
      | finalRemove hstage =>
          refine ⟨⟨?_, hloop⟩, hstopping⟩
          exact Indexed.forall_mem_set hstages hconn fun _ => by simp
      | _ => contradiction
  | stop => exact ⟨⟨hstages, hloop⟩, rfl⟩

/-! ## A listener that is not at rest -/

/-- Some continuation relays a datagram. -/
def Traffic.CanRelay (L : Listener κ) (capacity : Nat) (tunnelId : UInt64) (s : Traffic κ) :
    Prop :=
  ∃ events t e u, Transition.run (step L capacity tunnelId) s events = some t ∧
    step L capacity tunnelId t e = some u ∧ e.relays = true

theorem Traffic.CanRelay.of_step {e : Event} (hstep : step L capacity tunnelId s e = some t)
    (h : t.CanRelay L capacity tunnelId) : s.CanRelay L capacity tunnelId := by
  obtain ⟨events, t', e', u, hrun, hrest⟩ := h
  exact ⟨e :: events, t', e', u, Transition.run_cons_eq_some.mpr ⟨t, hstep, hrun⟩, hrest⟩

omit [DecidableEq κ] in
theorem Traffic.running_setLink (h : s.running n = some (conn, link)) (link' : Link) :
    (s.setLink n link').running n = some (conn, link') := by
  obtain ⟨hconn, hlink, hstage⟩ := Traffic.running_eq_some.mp h
  exact Traffic.running_eq_some.mpr ⟨hconn, Indexed.getElem?_set_same hlink, hstage⟩

/-- A conn that relays can send a reply. -/
theorem Traffic.canRelay_of_relaying (h : s.running n = some (conn, link))
    (hphase : link.phase = .relaying) : s.CanRelay L capacity tunnelId := by
  have hsend : ∀ {s : Traffic κ} {link : Link} {item : Nat × Datagram},
      s.running n = some (conn, link) → link.replying = some item →
      s.CanRelay L capacity tunnelId := by
    intro s link item h hreplying
    have henabled : (step L capacity tunnelId s (.sendTo n)).isSome = true := by
      simp [step, h, hreplying]
    obtain ⟨u, hu⟩ := Option.isSome_iff_exists.mp henabled
    exact ⟨[], s, .sendTo n, u, rfl, hu, rfl⟩
  cases hreplying : link.replying with
  | some item => exact hsend h hreplying
  | none =>
      have hread : step L capacity tunnelId s (.readDatagram n []) =
          some (s.setLink n { link with
            replies := link.replies ++ [[]]
            replying := some (link.replies.length, []) }) := by
        simp [step, h, hphase, hreplying]
      exact .of_step hread (hsend (Traffic.running_setLink h _) rfl)

/-- A conn that is running can come to relay. -/
theorem Traffic.canRelay_of_running (h : s.running n = some (conn, link)) :
    s.CanRelay L capacity tunnelId := by
  have hawaiting : ∀ {s : Traffic κ} {link : Link}, s.running n = some (conn, link) →
      link.phase = .awaiting → s.CanRelay L capacity tunnelId := by
    intro s link h hphase
    have hopened : step L capacity tunnelId s (.opened n) =
        some (s.setLink n { link with phase := .relaying }) := by
      simp [step, h, hphase]
    exact .of_step hopened (canRelay_of_relaying (Traffic.running_setLink h _) rfl)
  cases hphase : link.phase with
  | opening =>
      have hopen : step L capacity tunnelId s (.openStream n) =
          some (s.setLink n { link with
            phase := .awaiting
            opener := some ⟨tunnelId, L.dynamic conn.key⟩ }) := by
        simp [step, h, hphase]
      exact .of_step hopen (hawaiting (Traffic.running_setLink h _) rfl)
  | awaiting => exact hawaiting h hphase
  | relaying => exact canRelay_of_relaying h hphase

/-- A loop that is to open a conn can do so. -/
theorem Traffic.canRelay_of_opening (hlen : s.links.length = s.relay.tasks.length) {key : κ}
    {payload : Datagram} (hloop : s.relay.loop = .opening key payload) :
    s.CanRelay L capacity tunnelId := by
  have hspawn : step L capacity tunnelId s .insertSpawn = some { s with
      relay :=
        { s.relay with
          conns := s.relay.conns.insert key s.relay.tasks.length
          tasks := s.relay.tasks ++ [⟨key, .running, []⟩]
          loop := .sending s.relay.tasks.length payload }
      links := s.links ++ [.new] } := by
    simp [step, Traffic.stepLoop, UdpTable.step, hloop]
  have hlink : (s.links ++ [Link.new])[s.relay.tasks.length]? = some Link.new := by
    rw [← hlen]
    exact List.getElem?_concat_length
  exact .of_step hspawn (canRelay_of_running (Traffic.running_eq_some.mpr
    ⟨List.getElem?_concat_length, hlink, rfl⟩))

/-- A loop that has found a closed conn for its key opens another one. -/
theorem Traffic.canRelay_of_closed (hlen : s.links.length = s.relay.tasks.length) {key : κ}
    {payload : Datagram} (hloop : s.relay.loop = .closed key payload n) :
    s.CanRelay L capacity tunnelId := by
  have hremove : step L capacity tunnelId s .remove = some { s with
      relay :=
        { s.relay with conns := s.relay.conns.erase key, loop := .opening key payload } } := by
    simp [step, Traffic.stepLoop, UdpTable.step, hloop]
  exact .of_step hremove (canRelay_of_opening hlen rfl)

/-- A loop that has found a conn for its key relays through it or opens another
one. -/
theorem Traffic.canRelay_of_found (hlen : s.links.length = s.relay.tasks.length) {key : κ}
    {payload : Datagram} (hloop : s.relay.loop = .found key payload n)
    (hserves : s.Serves n key) : s.CanRelay L capacity tunnelId := by
  obtain ⟨conn, hconn, -⟩ := hserves
  by_cases hstage : conn.stage = .running
  · obtain ⟨link, hlink⟩ := exists_link hlen hconn
    exact canRelay_of_running (Traffic.running_eq_some.mpr ⟨hconn, hlink, hstage⟩)
  · have hclosed : step L capacity tunnelId s .isClosed = some { s with
        relay := { s.relay with loop := .closed key payload n } } := by
      simp [step, Traffic.stepLoop, UdpTable.step, hloop, hconn, hstage]
    exact .of_step hclosed (canRelay_of_closed hlen rfl)

theorem Traffic.canRelay_of_received (h : s.Lawful L tunnelId) {key : κ} {payload : Datagram}
    (hloop : s.relay.loop = .received key payload) : s.CanRelay L capacity tunnelId := by
  cases hlookup : s.relay.conns.lookup key with
  | none =>
      have hget : step L capacity tunnelId s .get = some { s with
          relay := { s.relay with loop := .opening key payload } } := by
        simp [step, Traffic.stepLoop, UdpTable.step, hloop, hlookup]
      exact .of_step hget (canRelay_of_opening h.links_length rfl)
  | some n =>
      have hget : step L capacity tunnelId s .get = some { s with
          relay := { s.relay with loop := .found key payload n } } := by
        simp [step, Traffic.stepLoop, UdpTable.step, hloop, hlookup]
      exact .of_step hget (canRelay_of_found h.links_length rfl (h.keyed key n hlookup))

/-- A listener that is not at rest can relay another datagram. -/
theorem Traffic.Lawful.canRelay (h : s.Lawful L tunnelId) (hnot : ¬s.AtRest) :
    s.CanRelay L capacity tunnelId := by
  by_cases hrunning : ∃ conn ∈ s.relay.tasks, conn.stage = .running
  · obtain ⟨conn, hmem, hstage⟩ := hrunning
    obtain ⟨n, hconn⟩ := List.mem_iff_getElem?.mp hmem
    obtain ⟨link, hlink⟩ := exists_link h.links_length hconn
    exact canRelay_of_running (Traffic.running_eq_some.mpr ⟨hconn, hlink, hstage⟩)
  · have hstages : ∀ conn ∈ s.relay.tasks, conn.stage ≠ .running := by
      intro conn hmem hstage
      exact hrunning ⟨conn, hmem, hstage⟩
    have hheld := h.held
    cases hloop : s.relay.loop with
    | receiving | sending => exact absurd ⟨hstages, by rw [hloop]; trivial⟩ hnot
    | received key payload => exact canRelay_of_received h hloop
    | found key payload n =>
        simp only [Traffic.Held, hloop] at hheld
        exact canRelay_of_found h.links_length hloop hheld.2
    | closed key payload n => exact canRelay_of_closed h.links_length hloop
    | opening key payload => exact canRelay_of_opening h.links_length hloop

end Listener

/-! ## The association after its control connection -/

section Association

variable {tunnelId : UInt64}

/-- What holds of an association: its traffic is lawful, and the relay is told to
stop once the control connection was seen closed. -/
structure Association.Lawful (tunnelId : UInt64) (s : Association) : Prop where
  traffic : s.traffic.Lawful socksUdpListener tunnelId
  stopping : s.control = false → s.traffic.stopping = true

/-- A step is one of the traffic, or reads the control connection. -/
theorem Association.step_cases {s t : Association} {a : AssociationEvent}
    (h : s.step tunnelId a = some t) :
    s = t ∨ (∃ e, socksUdpTraffic tunnelId s.traffic e = some t.traffic) ∧
      (t.control = s.control ∨ t.traffic.stopping = true) := by
  cases a with
  | drain bytes =>
      simp only [Association.step] at h
      split_ifs at h
      exact .inl (Option.some.inj h)
  | controlClosed =>
      simp only [Association.step] at h
      split_ifs at h
      cases h
      exact .inr ⟨⟨.stop, rfl⟩, .inr rfl⟩
  | relay e =>
      obtain ⟨traffic, htraffic, rfl⟩ := Option.map_eq_some_iff.mp h
      exact .inr ⟨⟨e, htraffic⟩, .inl rfl⟩

/-- A loop that is told to stop stays so. -/
theorem TrafficStep.stopping {κ : Type} [DecidableEq κ] {L : Listener κ} {capacity : Nat}
    {s t : Traffic κ} (h : TrafficStep L capacity tunnelId s t) (hs : s.stopping = true) :
    t.stopping = true := by
  cases h <;> first | exact hs | rfl

theorem Association.Lawful.step {s t : Association} (h : s.Lawful tunnelId)
    {a : AssociationEvent} (hstep : s.step tunnelId a = some t) : t.Lawful tunnelId := by
  rcases Association.step_cases hstep with rfl | ⟨⟨e, he⟩, hcontrol⟩
  · exact h
  · have htraffic := UdpRelay.step_cases h.traffic.links_length he
    refine ⟨htraffic.lawful h.traffic, fun hclosed => ?_⟩
    rcases hcontrol with hsame | hstopping
    · exact htraffic.stopping (h.stopping (hsame ▸ hclosed))
    · exact hstopping

theorem Association.run_lawful {events : List AssociationEvent} {s : Association}
    (hrun : Transition.run (Association.step tunnelId) .init events = some s) :
    s.Lawful tunnelId :=
  Transition.run_invariant (fun _ _ _ hs hstep => hs.step hstep)
    ⟨Traffic.Lawful.init, fun h => by cases h⟩ hrun

/-- A run of the traffic is one of the association. -/
theorem Association.run_relay (s : Association) (events : List Event) {t : Traffic _}
    (hrun : Transition.run (socksUdpTraffic tunnelId) s.traffic events = some t) :
    Transition.run (Association.step tunnelId) s (events.map .relay) =
      some { s with traffic := t } := by
  induction events generalizing s with
  | nil =>
      cases hrun
      rfl
  | cons e events ih =>
      obtain ⟨next, hnext, hrest⟩ := Transition.run_cons_eq_some.mp hrun
      have hstep : s.step tunnelId (.relay e) = some { s with traffic := next } := by
        simp only [Association.step, hnext, Option.map_some]
      exact Transition.run_cons_eq_some.mpr ⟨_, hstep, ih { s with traffic := next } hrest⟩

/-- Once the control connection was seen closed and the relay aborted, no datagram
of the association is relayed any more exactly if at that moment no conn is
running and the loop is not on its way to open one. -/
theorem association_silent_iff {events : List AssociationEvent} {s : Association}
    (hrun : Transition.run (Association.step tunnelId) .init events = some s)
    (hclosed : s.control = false) : s.Silent tunnelId ↔ s.traffic.AtRest := by
  have hlawful := Association.run_lawful hrun
  constructor
  · intro hsilent
    by_contra hnot
    obtain ⟨more, t, e, u, hmore, hstep, hrelays⟩ := hlawful.traffic.canRelay hnot
    have hquiet := hsilent _ _ e { s with traffic := u } (s.run_relay more hmore)
      (Option.map_eq_some_iff.mpr ⟨u, hstep, rfl⟩)
    rw [hrelays] at hquiet
    cases hquiet
  · intro hrest more t e u hmore hstep
    -- being told to stop and at rest is kept by every step
    have hkept : t.Lawful tunnelId ∧ t.traffic.AtRest ∧ t.traffic.stopping = true := by
      refine Transition.run_invariant
        (P := fun s => s.Lawful tunnelId ∧ s.traffic.AtRest ∧ s.traffic.stopping = true)
        ?_ ⟨hlawful, hrest, hlawful.stopping hclosed⟩ hmore
      rintro s a t ⟨hs, hatRest, hstopping⟩ hone
      refine ⟨hs.step hone, ?_⟩
      rcases Association.step_cases hone with rfl | ⟨⟨e, he⟩, -⟩
      · exact ⟨hatRest, hstopping⟩
      · exact (UdpRelay.step_cases hs.traffic.links_length he).atRest hatRest hstopping
    obtain ⟨traffic, htraffic, -⟩ := Option.map_eq_some_iff.mp hstep
    exact hkept.2.1.not_relays htraffic

end Association

/-- One datagram arrives and its conn is opened, but the datagram stays queued. -/
def openConn : List Event :=
  firstArrival sampleArrival ++ [.openStream 0, .opened 0]

/-- One datagram and its reply are relayed, and the conn times out. -/
def timedOutConn : List Event :=
  firstArrival sampleArrival ++ forwardOne 0 [8] ++ [.runEnds 0 0]

/-- The control connection closes after the only conn has timed out. -/
theorem association_silent_timedOut :
    ∃ s, Transition.run (Association.step 1) .init
        (timedOutConn.map .relay ++ [.controlClosed]) = some s ∧
      s.control = false ∧ s.Silent 1 := by
  have hcheck : ((Transition.run (Association.step 1) .init
      (timedOutConn.map .relay ++ [.controlClosed])).any fun s =>
      decide (s.control = false ∧ s.traffic.AtRest)) = true := by
    decide +kernel
  obtain ⟨s, hrun, hs⟩ := (Option.any_eq_true _ _).mp hcheck
  obtain ⟨hclosed, hrest⟩ := of_decide_eq_true hs
  exact ⟨s, hrun, hclosed, (association_silent_iff hrun hclosed).mpr hrest⟩

/-- The conn task writes the queued datagram, reads a reply and sends it. -/
def relaysOn : List AssociationEvent :=
  [.relay (.recv 0), .relay (.writeDatagram 0), .relay (.readDatagram 0 [8]), .relay (.sendTo 0)]

/-- The relay is aborted before anything was relayed; then the conn task writes
the queued datagram to its stream and sends a reply to the source. -/
theorem association_outlives_control :
    ∃ s t, Transition.run (Association.step 1) .init
        (openConn.map .relay ++ [.controlClosed]) = some s ∧
      s.control = false ∧ s.traffic.links.map Link.written = [[]] ∧ s.traffic.sent = [] ∧
      Transition.run (Association.step 1) s relaysOn = some t ∧
      t.traffic.links.map Link.written = [[(0, [7])]] ∧
      t.traffic.sent = [⟨0, 0, .v4 ⟨127, 0, 0, 1⟩ 5000,
        [0, 0, 0, 1, 10, 0, 0, 1, 0, 53, 8]⟩] := by
  have hcheck : ((Transition.run (Association.step 1) .init
      (openConn.map .relay ++ [.controlClosed])).any fun s =>
      decide (s.control = false ∧ s.traffic.links.map Link.written = [[]] ∧
        s.traffic.sent = []) &&
      (Transition.run (Association.step 1) s relaysOn).any fun t =>
        decide (t.traffic.links.map Link.written = [[(0, [7])]] ∧
          t.traffic.sent = [⟨0, 0, .v4 ⟨127, 0, 0, 1⟩ 5000,
            [0, 0, 0, 1, 10, 0, 0, 1, 0, 53, 8]⟩])) = true := by
    decide +kernel
  obtain ⟨s, hrun, hs⟩ := (Option.any_eq_true _ _).mp hcheck
  obtain ⟨hbefore, hafter⟩ := Bool.and_eq_true_iff.mp hs
  obtain ⟨t, hmore, ht⟩ := (Option.any_eq_true _ _).mp hafter
  obtain ⟨hclosed, hwritten, hsent⟩ := of_decide_eq_true hbefore
  obtain ⟨hwritten', hsent'⟩ := of_decide_eq_true ht
  exact ⟨s, t, hrun, hclosed, hwritten, hsent, hmore, hwritten', hsent'⟩

end UdpRelay
end Rusnel
